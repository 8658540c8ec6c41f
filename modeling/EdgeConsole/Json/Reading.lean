import EdgeConsole.Json.Outline
import EdgeConsole.Json.Print
import EdgeConsole.Calendar.Timestamp
import EdgeConsole.Text.Quoted

/-!
# Reading typed values

A reader walks the outline of a text in the order of the text and stops at the first thing that does
not suit it: a flaw of the text, or a value of the wrong kind. Lists and objects may be nested 127
deep where they are read; what is skipped has no such limit.

Main definitions: `DataError` with its wording, the readers of plain values on `Outline`, and
`Document.read`, which also refuses a text that goes on after its value.
-/

namespace EdgeConsole.Json

/-! ## Errors -/

/-- What stands in a text, as an error names it. -/
inductive Found
  | null
  | boolean (b : Bool)
  | number (n : Number)
  | text (s : String)
  | sequence
  | map
deriving DecidableEq, Repr

/-- What a reader asks for. -/
inductive Expected
  | text
  | sequence
  | map
  | word16
  | word32
  | unit
  | variantName
  | record (title : String)
deriving DecidableEq, Repr

/-- Why a well-formed text has no value of the type that is asked for. -/
inductive DataError
  | wrongType (found : Found) (expected : Expected)
  | outOfRange (i : Int) (expected : Expected)
  | tooFew (count : Nat) (title : String) (size : Nat)
  | duplicateField (name : String)
  | missingField (name : String)
  | unknownVariant (name : String) (known : List String)
  | noVariant (title : String)
  | notWord (n : Number)
  | textNotWord (s : String)
  | textNotBoolean (s : String)
  | notInteger (v : Json)
  | notBoolean (v : Json)
  | notText (v : Json)
  | badTimestamp (s : String) (fault : Calendar.Timestamp.Fault)
deriving Repr

/-- Why a text has no value of the type that is asked for. -/
inductive ReadError
  | fault (f : Fault)
  | data (e : DataError)
deriving Repr

/-- The wording of what was found. -/
def Found.message : Found → String
  | .null => "null"
  | .boolean b => "boolean `" ++ String.ofList (boolChars b) ++ "`"
  | .number (.integer i) => "integer `" ++ (Number.integer i).text ++ "`"
  | .number (.float x) => "floating point `" ++ (Number.float x).text ++ "`"
  | .text s => "string " ++ Text.quote s
  | .sequence => "sequence"
  | .map => "map"

/-- The wording of what was expected. -/
def Expected.message : Expected → String
  | .text => "a string"
  | .sequence => "a sequence"
  | .map => "a map"
  | .word16 => "u16"
  | .word32 => "u32"
  | .unit => "unit"
  | .variantName => "variant identifier"
  | .record title => "struct " ++ title

/-- The wording of a data error. -/
def DataError.message : DataError → String
  | .wrongType found expected =>
    "invalid type: " ++ found.message ++ ", expected " ++ expected.message
  | .outOfRange i expected =>
    "invalid value: integer `" ++ (Number.integer i).text ++ "`, expected " ++ expected.message
  | .tooFew count title size =>
    "invalid length " ++ toString count ++ ", expected struct " ++ title ++ " with " ++
      toString size ++ (if size = 1 then " element" else " elements")
  | .duplicateField name => "duplicate field `" ++ name ++ "`"
  | .missingField name => "missing field `" ++ name ++ "`"
  | .unknownVariant name known =>
    "unknown variant `" ++ name ++ "`, expected one of " ++
      String.intercalate ", " (known.map fun k => "`" ++ k ++ "`")
  | .noVariant title => "data did not match any variant of untagged enum " ++ title
  | .notWord n => "number " ++ n.text ++ " is not a valid u32"
  | .textNotWord s => "string " ++ Text.quote s ++ " is not a valid u32"
  | .textNotBoolean s => "string " ++ Text.quote s ++ " is not a valid boolean"
  | .notInteger v => "expected an integer, found " ++ v.compact
  | .notBoolean v => "expected a boolean, found " ++ v.compact
  | .notText v => "expected a string, found " ++ v.compact
  | .badTimestamp s fault => "invalid timestamp " ++ Text.quote s ++ ": " ++ fault.message

/-- The wording of an error. -/
def ReadError.message : ReadError → String
  | .fault .truncated => "unexpected end of text"
  | .fault .malformed => "malformed text"
  | .data e => e.message

/-! ## Readers -/

/-- How deep lists and objects may be nested. -/
def depthLimit : Nat := 127

/-- What stands at this place of the text, read far enough to be named. -/
def Outline.found : Outline → Except ReadError Found
  | .atom .null => .ok .null
  | .atom (.bool b) => .ok (.boolean b)
  | .atom (.number n) => .ok (.number n)
  | .atom (.text s) => .ok (.text s)
  | .unreadable f => .error (.fault f)
  | .broken f _ _ => .error (.fault f)
  | .list _ _ => .ok .sequence
  | .object _ _ => .ok .map

/-- Reports that something else was expected. -/
def Outline.mismatch (o : Outline) (expected : Expected) : Except ReadError α :=
  match o.found with
  | .ok found => .error (.data (.wrongType found expected))
  | .error e => .error e

/-- The end of a list or an object. -/
def checkEnd : Option Fault → Except ReadError Unit
  | none => .ok ()
  | some f => .error (.fault f)

/-- Reads the name of a member. -/
def Key.read : Key → Except ReadError String
  | .text s => .ok s
  | .unreadable f => .error (.fault f)
  | .broken f _ => .error (.fault f)

mutual

/-- Skips a value. -/
def Outline.skip : Outline → Except ReadError Unit
  | .atom _ => .ok ()
  | .unreadable _ => .ok ()
  | .broken _ f _ => .error (.fault f)
  | .list items flaw => do skipItems items; checkEnd flaw
  | .object members flaw => do skipMembers members; checkEnd flaw

/-- Skips the items of a list. -/
def skipItems : List Outline → Except ReadError Unit
  | [] => .ok ()
  | o :: rest => do o.skip; skipItems rest

/-- Skips the members of an object. -/
def skipMembers : List (Key × Outline) → Except ReadError Unit
  | [] => .ok ()
  | (.broken _ f, _) :: _ => .error (.fault f)
  | (_, o) :: rest => do o.skip; skipMembers rest

end

mutual

/-- Reads a value of any shape. -/
def Outline.readValue (depth : Nat) : Outline → Except ReadError Json
  | .atom .null => .ok .null
  | .atom (.bool b) => .ok (.bool b)
  | .atom (.number n) => .ok (.number n)
  | .atom (.text s) => .ok (.text s)
  | .unreadable f => .error (.fault f)
  | .broken f _ _ => .error (.fault f)
  | .list items flaw =>
    match depth with
    | 0 => .error (.fault .malformed)
    | depth + 1 => do
      let values ← readValues depth items
      checkEnd flaw
      return .list values
  | .object members flaw =>
    match depth with
    | 0 => .error (.fault .malformed)
    | depth + 1 => do
      let pairs ← readPairs depth members
      checkEnd flaw
      return ofMembers pairs

/-- Reads the items of a list. -/
def readValues (depth : Nat) : List Outline → Except ReadError (List Json)
  | [] => .ok []
  | o :: rest => do
    let v ← o.readValue depth
    let vs ← readValues depth rest
    return v :: vs

/-- Reads the members of an object in the order of the text. -/
def readPairs (depth : Nat) : List (Key × Outline) → Except ReadError (List (String × Json))
  | [] => .ok []
  | (key, o) :: rest => do
    let name ← key.read
    let v ← o.readValue depth
    let pairs ← readPairs depth rest
    return (name, v) :: pairs

end

/-- Reads a text that has to be there. -/
def Outline.readText : Outline → Except ReadError String
  | .atom (.text s) => .ok s
  | o => o.mismatch .text

/-- Reads a value that may be null. -/
def Outline.readOption (read : Outline → Except ReadError α) : Outline → Except ReadError (Option α)
  | .atom .null => .ok none
  | o => (read o).map some

/-- Reads the items of a list one after the other. -/
def readEach (read : Outline → Except ReadError α) : List Outline → Except ReadError (List α)
  | [] => .ok []
  | o :: rest => do
    let v ← read o
    let vs ← readEach read rest
    return v :: vs

/-- Reads a list; the reader of an item is told how deep it may still go. -/
def Outline.readList (depth : Nat) (read : Nat → Outline → Except ReadError α) :
    Outline → Except ReadError (List α)
  | .list items flaw =>
    match depth with
    | 0 => .error (.fault .malformed)
    | depth + 1 => do
      let vs ← readEach (read depth) items
      checkEnd flaw
      return vs
  | o => o.mismatch .sequence

/-- Reads a list, of which null is the empty one. -/
def Outline.readListOrNull (depth : Nat) (read : Nat → Outline → Except ReadError α) (o : Outline) :
    Except ReadError (List α) :=
  (o.readOption (·.readList depth read)).map (·.getD [])

/-- Reads an integer of a bounded size. -/
def Outline.readWord (bound : Nat) (expected : Expected) : Outline → Except ReadError Nat
  | .atom (.number (.integer i)) =>
    if 0 ≤ i ∧ i < bound then .ok i.toNat else .error (.data (.outOfRange i expected))
  | o => o.mismatch expected

/-- Finds a name among those of an enumeration. -/
def lookupVariant (known : List (String × α)) (name : String) : Except ReadError α :=
  match known.find? (·.1 == name) with
  | some (_, v) => .ok v
  | none => .error (.data (.unknownVariant name (known.map (·.1))))

/-- Reads one of an enumeration: its name, or an object with that name and null as its only member.
Anything that begins in another way, and anything that follows the member, is a flaw of the text. -/
def Outline.readVariant (depth : Nat) (known : List (String × α)) : Outline → Except ReadError α
  | .atom (.text s) => lookupVariant known s
  | .object members flaw =>
    match depth with
    | 0 => .error (.fault .malformed)
    | _ + 1 =>
      match members with
      | [] => .error (.fault .malformed)
      | (key, o) :: rest => do
        let name ← key.read
        let v ← lookupVariant known name
        match o with
        | .atom .null =>
          if rest.isEmpty then checkEnd flaw else .error (.fault .malformed)
          return v
        | o => o.mismatch .unit
  | .broken _ _ f => .error (.fault f)
  | _ => .error (.fault .malformed)

/-! ## Values at hand -/

/-- A value as an error names it. -/
def found : Json → Found
  | .null => .null
  | .bool b => .boolean b
  | .number n => .number n
  | .text s => .text s
  | .list _ => .sequence
  | .object _ => .map

/-- A value that has to be a text. -/
def asText : Json → Except DataError String
  | .text s => .ok s
  | v => .error (.wrongType v.found .text)

/-- A value that has to be an integer of 32 bits. -/
def asWord : Json → Except DataError UInt32
  | .number (.integer i) =>
    if 0 ≤ i ∧ i < UInt32.size then .ok (UInt32.ofNat i.toNat) else .error (.outOfRange i .word32)
  | v => .error (.wrongType v.found .word32)

/-! ## Whole texts -/

/-- Reads the only value of a text. -/
def Document.read (read : Outline → Except ReadError α) (d : Document) : Except ReadError α := do
  let v ← read d.value
  if d.ends then return v else .error (.fault .malformed)

/-- Reads the value of a text. -/
def readText (read : Outline → Except ReadError α) (s : String) : Except ReadError α :=
  (Document.ofText s).read read

/-- Reads a text as a value of any shape. -/
def ofText (s : String) : Except ReadError Json :=
  readText (·.readValue depthLimit) s

end EdgeConsole.Json
