import EdgeConsole.Record.Row
import EdgeConsole.Record.Weak
import EdgeConsole.Resource.Choice

/-!
# Kinds of resource fields

The fields of resources come in few kinds. A `Scalar` is one of them: a text that has to be a text,
a weakly typed scalar that falls back to a plain value when it is absent, a setting that may be
absent, or a list of texts. Each kind says how its values are read and written, and settings also
how they stand in a form.
-/

namespace EdgeConsole.Resource

open Json (Outline ReadError DataError)
open Record (FieldKind WritableKind FieldSpec)

/-- What a setting holds. -/
inductive Setting
  | text
  | number
  | flag
  | instant
  | directorType
  | conditionType
  | redundancy
deriving DecidableEq, Repr

/-- The values of a setting. -/
abbrev Setting.Val : Setting → Type
  | .text => String
  | .number => UInt32
  | .flag => Bool
  | .instant => Calendar.Instant
  | .directorType => DirectorType
  | .conditionType => ConditionType
  | .redundancy => Redundancy

/-- A weakly typed scalar that has a value even when it is absent. -/
inductive Weak
  | text
  | number
  | flag
deriving DecidableEq, Repr

/-- The values of a weakly typed scalar. -/
abbrev Weak.Val : Weak → Type
  | .text => String
  | .number => UInt32
  | .flag => Bool

/-- The kind of a field. -/
inductive Scalar
  | plainText
  | weak (w : Weak)
  | optional (s : Setting)
  | texts
deriving DecidableEq, Repr

/-- The values of a field. -/
abbrev Scalar.Val : Scalar → Type
  | .plainText => String
  | .weak w => w.Val
  | .optional s => Option s.Val
  | .texts => List String

/-! ## Reading -/

/-- Reads a timestamp; null and blank text are none. -/
def readInstant (o : Outline) : Except ReadError (Option Calendar.Instant) := do
  match ← o.readOption (·.readText) with
  | none => return none
  | some s =>
    if Text.isBlankText s then return none
    else
      match Calendar.Timestamp.read (Text.trim s) with
      | .ok t => return some t
      | .error f => .error (.data (.badTimestamp s f))

/-- Converts a value unless it is absent, as null and blank text are. -/
def nonBlank (convert : Json → Except DataError α) : Json → Except DataError (Option α)
  | .null => .ok none
  | .text s => if Text.isBlankText s then .ok none else (convert (.text s)).map some
  | v => (convert v).map some

/-- The director type that a value stands for; an absent code is zero. -/
def directorTypeOf (v : Json) : Except DataError DirectorType :=
  (Record.Weak.number v).map fun n => .ofCode (n.getD 0)

/-- Reads a setting. -/
def Setting.read (depth : Nat) : (s : Setting) → Outline → Except ReadError (Option s.Val)
  | .text => (·.readOption (·.readText))
  | .number => Record.Weak.read Record.Weak.number depth
  | .flag => Record.Weak.read Record.Weak.flag depth
  | .instant => readInstant
  | .directorType => Record.Weak.read (nonBlank directorTypeOf) depth
  | .conditionType => Record.Weak.read (nonBlank ConditionType.spelling.ofJson) depth
  | .redundancy => Record.Weak.read (nonBlank Redundancy.spelling.ofJson) depth

/-- Reads a weakly typed scalar, with its value when it is absent. -/
def Weak.read (depth : Nat) : (w : Weak) → Outline → Except ReadError w.Val
  | .text => fun o => (Record.Weak.read Record.Weak.text depth o).map (·.getD "")
  | .number => fun o => (Record.Weak.read Record.Weak.number depth o).map (·.getD 0)
  | .flag => fun o => (Record.Weak.read Record.Weak.flag depth o).map (·.getD false)

/-- Reads a field. -/
def Scalar.read : (k : Scalar) → Nat → Outline → Except ReadError k.Val
  | .plainText, _ => (·.readText)
  | .weak w, depth => w.read depth
  | .optional s, depth => s.read depth
  | .texts, depth => (·.readListOrNull depth fun _ o => o.readText)

/-- The value of a weakly typed scalar that is absent. -/
def Weak.default : (w : Weak) → w.Val
  | .text => ""
  | .number => 0
  | .flag => false

/-- The value of a field that is absent. -/
def Scalar.default : (k : Scalar) → k.Val
  | .plainText => ""
  | .weak w => w.default
  | .optional _ => none
  | .texts => []

/-! ## Writing -/

/-- A number in JSON. -/
def numberJson (n : UInt32) : Json := .number (.integer n.toNat)

/-- A setting in JSON. -/
def Setting.write : (s : Setting) → s.Val → Json
  | .text, s => .text s
  | .number, n => numberJson n
  | .flag, b => .bool b
  | .instant, t => .text (Calendar.Timestamp.write t)
  | .directorType, d => numberJson d.code
  | .conditionType, c => .text c.text
  | .redundancy, r => .text r.text

/-- A weakly typed scalar in JSON. -/
def Weak.write : (w : Weak) → w.Val → Json
  | .text, s => .text s
  | .number, n => numberJson n
  | .flag, b => .bool b

/-- A value that may be absent in JSON. -/
def optionJson (write : α → Json) : Option α → Json
  | none => .null
  | some a => write a

/-- A field in JSON. -/
def Scalar.write : (k : Scalar) → k.Val → Json
  | .plainText, s => .text s
  | .weak w, v => w.write v
  | .optional s, v => optionJson s.write v
  | .texts, ts => .list (ts.map .text)

instance : WritableKind Scalar where
  Val := Scalar.Val
  default? k := some k.default
  read := Scalar.read
  write := Scalar.write

/-! ## Forms -/

/-- A truth value in a form. -/
def flagText (b : Bool) : String := if b then "1" else "0"

/-- A setting in a form. -/
def Setting.formText : (s : Setting) → s.Val → String
  | .text, s => s
  | .number, n => toString n.toNat
  | .flag, b => flagText b
  | .instant, t => Calendar.Timestamp.writeSeconds t
  | .directorType, d => toString d.code.toNat
  | .conditionType, c => c.text
  | .redundancy, r => r.text

/-- What a client may say about a field: a value for a setting that it may set, and nothing for any
other. -/
abbrev PatchValue (f : FieldSpec Scalar) : Type :=
  match f.writable, f.kind with
  | true, .optional s => Option s.Val
  | _, _ => Unit

/-- New values for some of the settings of a record. -/
abbrev Patch (fs : List (FieldSpec Scalar)) : Type :=
  Record.Row PatchValue fs

/-- The pair of a field in a form, if it is set. -/
def patchPair : (f : FieldSpec Scalar) → PatchValue f → List (String × String)
  | ⟨name, .optional s, true⟩, some v => [(name, s.formText v)]
  | ⟨_, .optional _, true⟩, none => []
  | ⟨_, .optional _, false⟩, _ => []
  | ⟨_, .plainText, _⟩, _ => []
  | ⟨_, .weak _, _⟩, _ => []
  | ⟨_, .texts, _⟩, _ => []

/-- The pairs of the settings that are set, in the order of the record. -/
def Patch.pairs : {fs : List (FieldSpec Scalar)} → Patch fs → List (String × String)
  | [], .nil => []
  | f :: _, .cons v rest => patchPair f v ++ Patch.pairs rest

/-- The patch whose settings are given by name. -/
def Patch.ofSettings (value : (name : String) → (s : Setting) → Option s.Val) :
    (fs : List (FieldSpec Scalar)) → Patch fs
  | [] => .nil
  | ⟨name, .optional s, true⟩ :: fs => .cons (value name s) (ofSettings value fs)
  | ⟨_, .optional _, false⟩ :: fs => .cons () (ofSettings value fs)
  | ⟨_, .plainText, true⟩ :: fs => .cons () (ofSettings value fs)
  | ⟨_, .plainText, false⟩ :: fs => .cons () (ofSettings value fs)
  | ⟨_, .weak _, true⟩ :: fs => .cons () (ofSettings value fs)
  | ⟨_, .weak _, false⟩ :: fs => .cons () (ofSettings value fs)
  | ⟨_, .texts, true⟩ :: fs => .cons () (ofSettings value fs)
  | ⟨_, .texts, false⟩ :: fs => .cons () (ofSettings value fs)

end EdgeConsole.Resource
