import EdgeConsole.Json.Reading

/-!
# Records

A record is described once, by the list of its fields: each has a name, a kind that fixes the type
of its values, and a mark for whether a client may set it. A value of the record is a `Row`: one
value for each field, in order. The reader walks the members of an object, or the items of a list
that stands for one, against that description; the writer lists the fields under their names.
Nothing about a particular record is ever said a second time.

Main definitions: `Row`, `Schema.read`, `Schema.write`.
-/

namespace EdgeConsole.Record

open Json (Outline ReadError Key Fault)

/-- A field of a record. -/
structure FieldSpec (κ : Type) where
  name : String
  kind : κ
  writable : Bool := false
deriving DecidableEq, Repr

/-- One value for each field of a list, of a type that depends on the field. -/
inductive Row {κ : Type} (β : FieldSpec κ → Type) : List (FieldSpec κ) → Type
  | nil : Row β []
  | cons {f : FieldSpec κ} {fs : List (FieldSpec κ)} (value : β f) (rest : Row β fs) :
      Row β (f :: fs)

/-- What the kinds of fields mean to a reader: the type of their values, the value of a field that
is not there, unless it has to be, and how a value is read at a given depth. -/
class FieldKind (κ : Type) where
  Val : κ → Type
  default? : (k : κ) → Option (Val k)
  read : (k : κ) → Nat → Outline → Except ReadError (Val k)

/-- Kinds whose values can also be written. -/
class WritableKind (κ : Type) extends FieldKind κ where
  write : (k : κ) → Val k → Json

/-- The type of a field's values. -/
abbrev FieldValue {κ : Type} [FieldKind κ] (f : FieldSpec κ) : Type :=
  FieldKind.Val f.kind

/-- A field's value, or nothing while it has not been met. -/
abbrev MetValue {κ : Type} [FieldKind κ] (f : FieldSpec κ) : Type :=
  Option (FieldKind.Val f.kind)

/-- A record by its name and fields. -/
structure Schema (κ : Type) where
  title : String
  fields : List (FieldSpec κ)

/-- A value of a record. -/
abbrev Schema.Value {κ : Type} [FieldKind κ] (s : Schema κ) : Type :=
  Row FieldValue s.fields

section Reading

variable {κ : Type} [FieldKind κ]

/-- No field has been met yet. -/
def unmet : (fs : List (FieldSpec κ)) → Row MetValue fs
  | [] => .nil
  | _ :: fs => .cons none (unmet fs)

/-- Reads the member of the given name into its field; a field met before is refused, and the member
of no field is skipped. -/
def meet (depth : Nat) (name : String) (o : Outline) :
    {fs : List (FieldSpec κ)} → Row MetValue fs → Except ReadError (Row MetValue fs)
  | [], .nil => do
    o.skip
    return .nil
  | f :: _, .cons old rest =>
    if f.name = name then
      match old with
      | some _ => .error (.data (.duplicateField f.name))
      | none => do
        let v ← FieldKind.read f.kind depth o
        return .cons (some v) rest
    else do
      let rest ← meet depth name o rest
      return .cons old rest

/-- Reads the members of an object in order. -/
def meetAll (depth : Nat) {fs : List (FieldSpec κ)} :
    List (Key × Outline) → Row MetValue fs → Except ReadError (Row MetValue fs)
  | [], row => .ok row
  | (key, o) :: members, row => do
    let name ← key.read
    let row ← meet depth name o row
    meetAll depth members row

/-- Gives every field that was not met its default. -/
def complete : {fs : List (FieldSpec κ)} → Row MetValue fs → Except ReadError (Row FieldValue fs)
  | [], .nil => .ok .nil
  | f :: _, .cons (some v) rest => do
    let _ := f
    let rest ← complete rest
    return .cons v rest
  | f :: _, .cons none rest =>
    match FieldKind.default? f.kind with
    | some v => do
      let rest ← complete rest
      return .cons v rest
    | none => .error (.data (.missingField f.name))

/-- Reads the items of a list as the fields in order; fields at the end may be left out. `position`
counts the fields before these. -/
def readPositions (title : String) (size depth position : Nat) (flaw : Option Fault) :
    (fs : List (FieldSpec κ)) → List Outline → Except ReadError (Row FieldValue fs)
  | [], [] => do
    Json.checkEnd flaw
    return .nil
  | [], _ :: _ => .error (.fault .malformed)
  | f :: fs, o :: items => do
    let v ← FieldKind.read f.kind depth o
    let rest ← readPositions title size depth (position + 1) flaw fs items
    return .cons v rest
  | f :: fs, [] => do
    Json.checkEnd flaw
    match FieldKind.default? f.kind with
    | some v =>
      let rest ← readPositions title size depth (position + 1) flaw fs []
      return .cons v rest
    | none => .error (.data (.tooFew position title size))

/-- Reads a record from an object or a list. -/
def Schema.read (s : Schema κ) (depth : Nat) : Outline → Except ReadError s.Value
  | .list items flaw =>
    match depth with
    | 0 => .error (.fault .malformed)
    | depth + 1 => readPositions s.title s.fields.length depth 0 flaw s.fields items
  | .object members flaw =>
    match depth with
    | 0 => .error (.fault .malformed)
    | depth + 1 => do
      let row ← meetAll depth members (unmet s.fields)
      Json.checkEnd flaw
      complete row
  | o => o.mismatch (.record s.title)

/-- Reads the text of a record. -/
def Schema.readText (s : Schema κ) (text : String) : Except ReadError s.Value :=
  Json.readText (s.read Json.depthLimit) text

/-- Reads the text of a list of records. -/
def Schema.readListText (s : Schema κ) (text : String) : Except ReadError (List s.Value) :=
  Json.readText (·.readList Json.depthLimit s.read) text

end Reading

section Writing

variable {κ : Type} [WritableKind κ]

/-- The members that hold the values of a row. -/
def Row.members : {fs : List (FieldSpec κ)} → Row FieldValue fs → List (String × Json)
  | [], .nil => []
  | f :: _, .cons v rest => (f.name, WritableKind.write f.kind v) :: rest.members

/-- The object that holds the values of a row. -/
def Row.toJson {fs : List (FieldSpec κ)} (row : Row FieldValue fs) : Json :=
  Json.ofMembers row.members

end Writing

end EdgeConsole.Record
