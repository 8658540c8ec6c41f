import EdgeConsole.Api.Service
import EdgeConsole.Calendar.Timestamp

/-!
# Tokens and users

The operations on API tokens and on the users of a customer. Revoking a token is expected to be
answered by an empty body; of any other body no more is asked than that it can be read.
-/

namespace EdgeConsole.Api

open Resource (Token User tokenSchema userSchema)

/-! ## Tokens -/

/-- The token by which a client identifies itself. -/
def ownToken : String := "/tokens/self"

/-- Lists the tokens of the user by name. -/
def listTokens : Prepared (List Token) :=
  .ok ((Operation.plain .get "/tokens" (readItems tokenSchema)).map (sortedByName Token.name))

/-- Lists the tokens of a customer by name. -/
def listCustomerTokens (customer : String) : Prepared (List Token) :=
  checked (require (!customer.isEmpty) .customerId) <|
    (Operation.plain .get (customerPath customer "tokens") (readItems tokenSchema)).map
      (sortedByName Token.name)

/-- Fetches the client's own token. -/
def getOwnToken : Prepared Token :=
  .ok (.plain .get ownToken (readItem tokenSchema))

/-- What a new token is to be. -/
structure TokenRequest where
  name? : Option String := none
  scope? : Option String := none
  username : String
  password : String
  /-- The services that the token is restricted to. -/
  services : List String := []
  expiresAt? : Option Calendar.Instant := none

/-- The form that creates a token. -/
def TokenRequest.form (t : TokenRequest) : List Web.Form.Pair :=
  optionalPair "name" t.name? ++ optionalPair "scope" t.scope? ++
    [("username", t.username), ("password", t.password)] ++
    t.services.map (fun s => ("services[]", s)) ++
    optionalPair "expires_at" (t.expiresAt?.map Calendar.Timestamp.writeSeconds)

/-- Creates a token. -/
def createToken (t : TokenRequest) : Prepared Token :=
  .ok (.withForm .post "/tokens" t.form (readItem tokenSchema))

/-- Revokes a token. -/
def deleteToken (id : String) : Prepared Unit :=
  checked (require (!id.isEmpty) .tokenId) <|
    .plain .delete (tokenPath id) readNothing

/-- Revokes the client's own token. -/
def deleteOwnToken : Prepared Unit :=
  .ok (.plain .delete ownToken readNothing)

/-! ## Users -/

/-- Lists the users of a customer by the name they go by. -/
def listCustomerUsers (customer : String) : Prepared (List User) :=
  checked (require (!customer.isEmpty) .customerId) <|
    (Operation.plain .get (customerPath customer "users") (readItems userSchema)).map
      (sortedByName User.displayName)

/-- Fetches the user that the key belongs to. -/
def getCurrentUser : Prepared User :=
  .ok (.plain .get "/current_user" (readItem userSchema))

/-- Fetches a user. -/
def getUser (id : String) : Prepared User :=
  checked (require (!id.isEmpty) .id) <|
    .plain .get (userPath id) (readItem userSchema)

/-- Creates a user. -/
def createUser (login : String) (name? role? : Option String) : Prepared User :=
  checked (require (!login.isEmpty) .login) <|
    .withForm .post "/user"
      (("login", login) :: (optionalPair "name" name? ++ optionalPair "role" role?))
      (readItem userSchema)

/-- Changes a user. -/
def updateUser (id : String) (name? role? : Option String) : Prepared User :=
  checked (require (!id.isEmpty) .id) <|
    .withForm .put (userPath id) (optionalPair "name" name? ++ optionalPair "role" role?)
      (readItem userSchema)

/-- Deletes a user. -/
def deleteUser (id : String) : Prepared Unit :=
  checked (require (!id.isEmpty) .id) <|
    .plain .delete (userPath id) readStatus

/-- Sends a user a message by which to choose a new password. -/
def resetPassword (login : String) : Prepared Unit :=
  checked (require (!login.isEmpty) .login) <|
    .plain .post (userPath login ++ "/password/request_reset") readStatus

end EdgeConsole.Api
