import EdgeConsole.Calendar.Instant

/-!
# Timestamps

The text form of instants in the Internet profile of ISO 8601: four digits of the year, two each of
month, day, hour, minute and second, an optional fraction, and `Z` or the offset from UTC. The
letter between date and time may be small or a space, the minus of an offset may be the
typographic one, and a fraction may have any number of digits, of which nine count.

`read` accepts a text or says why not, the first fault from the left deciding, with three
exceptions: a text shorter than a date and time is too short whatever it holds, a date or a time
that does not exist is noticed at its end, and an offset of a day or more at the end of the text.
`write` gives the text of an instant in UTC.
-/

namespace EdgeConsole.Calendar.Timestamp

/-- Why a text is not a timestamp. -/
inductive Fault
  | tooShort
  | invalid
  | outOfRange
  | tooLong
deriving DecidableEq, Repr

/-- The wording of a fault. -/
def Fault.message : Fault → String
  | .tooShort => "premature end of input"
  | .invalid => "input contains invalid characters"
  | .outOfRange => "input is out of range"
  | .tooLong => "trailing input"

/-! ## Reading -/

/-- Reads one digit. -/
def digit : List Char → Except Fault (Nat × List Char)
  | c :: cs => if c.isDigit then .ok (c.toNat - '0'.toNat, cs) else .error .invalid
  | [] => .error .tooShort

/-- Reads two digits. -/
def twoDigits (cs : List Char) : Except Fault (Nat × List Char) := do
  let (a, cs) ← digit cs
  let (b, cs) ← digit cs
  return (a * 10 + b, cs)

/-- Passes the given character. -/
def expect (c : Char) : List Char → Except Fault (List Char)
  | d :: cs => if d = c then .ok cs else .error .invalid
  | [] => .error .tooShort

/-- Reads the date. -/
def readDate (cs : List Char) : Except Fault (Date × List Char) := do
  let (century, cs) ← twoDigits cs
  let (years, cs) ← twoDigits cs
  let cs ← expect '-' cs
  let (month, cs) ← twoDigits cs
  let cs ← expect '-' cs
  let (day, cs) ← twoDigits cs
  match Date.of? (century * 100 + years : Nat) month day with
  | some date => return (date, cs)
  | none => .error .outOfRange

/-- Passes the letter between date and time. -/
def passSeparator : List Char → Except Fault (List Char)
  | c :: cs => if c = 'T' ∨ c = 't' ∨ c = ' ' then .ok cs else .error .invalid
  | [] => .error .tooShort

/-- The nanoseconds of up to nine digits of a fraction. -/
def nanos (ds : List Char) : Nat :=
  let kept := ds.take 9
  kept.foldl (fun n c => n * 10 + (c.toNat - '0'.toNat)) 0 * Nat.pow 10 (9 - kept.length)

/-- Reads the fraction of a second, if there is one. -/
def readFraction : List Char → Except Fault (Nat × List Char)
  | '.' :: cs =>
    match cs.takeWhile Char.isDigit with
    | [] => if cs.isEmpty then .error .tooShort else .error .invalid
    | ds => .ok (nanos ds, cs.dropWhile Char.isDigit)
  | cs => .ok (0, cs)

/-- Reads the time of day. A second numbered 60 is the leap second of its minute. -/
def readClock (cs : List Char) : Except Fault (Clock × List Char) := do
  let (hour, cs) ← twoDigits cs
  let cs ← expect ':' cs
  let (minute, cs) ← twoDigits cs
  let cs ← expect ':' cs
  let (second, cs) ← twoDigits cs
  let (nano, cs) ← readFraction cs
  let clock := if second = 60 then Clock.of? hour minute 59 (1000000000 + nano)
    else Clock.of? hour minute second nano
  match clock with
  | some clock => return (clock, cs)
  | none => .error .outOfRange

/-- Splits off two characters; a last character that takes two bytes or more is none of them. -/
def pair : List Char → Except Fault (Char × Char × List Char)
  | a :: b :: cs => .ok (a, b, cs)
  | [a] => if a.utf8Size < 2 then .error .tooShort else .error .invalid
  | [] => .error .tooShort

/-- Reads the hours and minutes of an offset. -/
def readOffsetSize (cs : List Char) : Except Fault (Nat × List Char) := do
  let (a, b, cs) ← pair cs
  if !(a.isDigit && b.isDigit) then .error .invalid
  let hours := (a.toNat - '0'.toNat) * 10 + (b.toNat - '0'.toNat)
  let cs ← expect ':' cs
  let (a, b, cs) ← pair cs
  if !(a.isDigit && b.isDigit) then .error .invalid
  let minutes := (a.toNat - '0'.toNat) * 10 + (b.toNat - '0'.toNat)
  if 60 ≤ minutes then .error .outOfRange
  return (hours * 60 + minutes, cs)

/-- Reads the offset from UTC in minutes, which may still be a day or more. -/
def readOffset : List Char → Except Fault (Int × List Char)
  | [] => .error .tooShort
  | c :: cs =>
    if c = 'Z' ∨ c = 'z' then .ok (0, cs)
    else if c = '+' ∨ c = '-' ∨ c = '\u2212' then do
      let (size, cs) ← readOffsetSize cs
      return (if c = '+' then (size : Int) else -size, cs)
    else .error .invalid

/-- The bytes of the shortest date and time. -/
def leastSize : Nat := 19

/-- Reads a timestamp. -/
def read (s : String) : Except Fault Instant := do
  if s.utf8ByteSize < leastSize then .error .tooShort
  let (date, cs) ← readDate s.toList
  let cs ← passSeparator cs
  let (clock, cs) ← readClock cs
  let (minutes, cs) ← readOffset cs
  if !cs.isEmpty then .error .tooLong
  match Offset.of? minutes with
  | some offset => return Instant.ofLocal date clock offset
  | none => .error .outOfRange

/-! ## Writing -/

/-- A number below one hundred in two digits. -/
def two (n : Nat) : List Char :=
  [Char.ofNat (48 + n / 10 % 10), Char.ofNat (48 + n % 10)]

/-- A number below one thousand in three digits. -/
def three (n : Nat) : List Char :=
  Char.ofNat (48 + n / 100 % 10) :: two (n % 100)

/-- The year in four digits; one that does not fit has a sign and as many digits as it needs. -/
def yearChars (year : Int) : List Char :=
  if 0 ≤ year ∧ year ≤ 9999 then two (year.toNat / 100) ++ two (year.toNat % 100)
  else
    let digits := Nat.toDigits 10 year.natAbs
    (if year < 0 then '-' else '+') :: List.replicate (4 - digits.length) '0' ++ digits

/-- The date. -/
def dateChars (d : Date) : List Char :=
  yearChars d.year ++ '-' :: two d.month ++ '-' :: two d.day

/-- The fraction of a second in no digits, three, six or nine. -/
def fractionChars (nano : Nat) : List Char :=
  if nano = 0 then []
  else if nano % 1000000 = 0 then '.' :: three (nano / 1000000)
  else if nano % 1000 = 0 then '.' :: three (nano / 1000000) ++ three (nano / 1000 % 1000)
  else '.' :: three (nano / 1000000) ++ three (nano / 1000 % 1000) ++ three (nano % 1000)

/-- The number of the second as written, which is one more in a leap second. -/
def shownSecond (c : Clock) : Nat :=
  if 1000000000 ≤ c.nano then c.second + 1 else c.second

/-- Hours, minutes and seconds. -/
def clockChars (c : Clock) : List Char :=
  two c.hour ++ ':' :: two c.minute ++ ':' :: two (shownSecond c)

/-- The text of an instant in UTC, with as many digits of the fraction as it needs. -/
def write (t : Instant) : String :=
  String.ofList
    (dateChars t.date ++ 'T' :: clockChars t.clock ++
      fractionChars (t.clock.nano % 1000000000) ++ ['Z'])

/-- The text of an instant in UTC without its fraction. -/
def writeSeconds (t : Instant) : String :=
  String.ofList (dateChars t.date ++ 'T' :: clockChars t.clock ++ ['Z'])

end EdgeConsole.Calendar.Timestamp
