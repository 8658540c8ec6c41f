/-!
# API keys

A key is a text of one or more visible ASCII characters. An `ApiKey` carries the proof of that, so
every key that a client holds can stand in a header.
-/

namespace EdgeConsole.Access

/-- A visible ASCII character. -/
def isVisible (c : Char) : Bool := 0x21 ≤ c.toNat && c.toNat ≤ 0x7E

/-- The text has the form of a key. -/
def isUsableKey (s : String) : Bool :=
  !s.isEmpty && s.toList.all isVisible

/-- A usable key. -/
structure ApiKey where
  text : String
  usable : isUsableKey text = true
deriving DecidableEq

namespace ApiKey

/-- The key with the given text, if it has the form of one. -/
def ofText? (s : String) : Option ApiKey :=
  if h : isUsableKey s = true then some ⟨s, h⟩ else none

/-- What is shown in place of any key. -/
def mask : String := "ApiKey(****)"

@[simp] theorem ofText?_text (k : ApiKey) : ofText? k.text = some k := by
  simp [ofText?, k.usable]

end ApiKey

end EdgeConsole.Access
