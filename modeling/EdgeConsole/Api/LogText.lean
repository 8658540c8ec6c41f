import EdgeConsole.Text.Cut

/-!
# Bodies in a log

How the body of an answer stands in a log: its first 200 bytes at most, cut between two characters,
with a note on how many there were, and of all that only visible ASCII characters and spaces.
-/

namespace EdgeConsole.Api

/-- The most bytes of a body that are logged. -/
def logLimit : Nat := 200

/-- Characters that may stand in a log. -/
def isLoggable (c : Char) : Bool := 0x20 ≤ c.toNat && c.toNat ≤ 0x7E

/-- The note behind a body of so many bytes that is cut. -/
def cutNote (size : Nat) : String :=
  "... [truncated, " ++ toString size ++ " bytes total]"

/-- The body with a note where it is cut, if there is a place to cut it. -/
def abridge? (body : String) : Option String :=
  if logLimit < body.utf8ByteSize then
    ((Text.lastBoundary? body logLimit).bind (Text.firstBytes? body)).map
      (· ++ cutNote body.utf8ByteSize)
  else some body

theorem isSome_abridge? (body : String) : (abridge? body).isSome = true := by
  unfold abridge?
  split
  · obtain ⟨cut, hcut⟩ := Option.isSome_iff_exists.mp (Text.isSome_lastBoundary? body logLimit)
    rw [hcut, Option.isSome_map, Option.bind_some, Text.isSome_firstBytes?]
    exact Text.isBoundary_of_lastBoundary? hcut
  · rfl

/-- The text by which a body stands in a log. -/
def logText (body : String) : String :=
  String.ofList (((abridge? body).get (isSome_abridge? body)).toList.filter isLoggable)

end EdgeConsole.Api
