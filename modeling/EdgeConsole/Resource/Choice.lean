import EdgeConsole.Json.Reading

/-!
# Settings with known choices

Three settings name one of a few known choices and leave room for choices that a client does not
know by name. Each type has one way in (`ofCode`, `ofText`), which never yields an unnamed choice
with a known spelling, and one way out (`code`, `text`).
-/

namespace EdgeConsole.Resource

/-- How a director picks a backend. -/
inductive DirectorType
  | random
  | hash
  | client
  | other (code : UInt32)
deriving DecidableEq, Repr

namespace DirectorType

/-- The code that stands for a choice. -/
def code : DirectorType → UInt32
  | .random => 1
  | .hash => 3
  | .client => 4
  | .other n => n

/-- The choice by name. -/
def label : DirectorType → String
  | .random => "Random"
  | .hash => "Hash"
  | .client => "Client"
  | .other n => "Other(" ++ toString n.toNat ++ ")"

/-- The choice that a code stands for. -/
def ofCode (n : UInt32) : DirectorType :=
  if n = 1 then .random else if n = 3 then .hash else if n = 4 then .client else .other n

@[simp] theorem code_ofCode (n : UInt32) : (ofCode n).code = n := by
  unfold ofCode; repeat' split
  all_goals simp_all [code]

end DirectorType

/-- The stage of a request in which a condition is evaluated. -/
inductive ConditionType
  | request
  | cache
  | response
  | other (name : String)
deriving DecidableEq, Repr

/-- The storage class of uploaded log files. -/
inductive Redundancy
  | standard
  | reducedRedundancy
  | other (name : String)
deriving DecidableEq, Repr

/-- A choice that is spelled as a text: the known ones by name, and the one for any other text. -/
structure Spelling (α : Type) where
  title : String
  known : List (String × α)
  other : String → α

namespace Spelling

variable {α : Type}

/-- The choice that a text spells. -/
def ofText (s : Spelling α) (text : String) : α :=
  match s.known.find? (·.1 == text) with
  | some (_, a) => a
  | none => s.other text

/-- The choice that a value spells: a text, or an object whose only member has the name of a known
choice and holds null. -/
def ofJson (s : Spelling α) : Json → Except Json.DataError α
  | .text t => .ok (s.ofText t)
  | .object [(name, .null)] =>
    match s.known.find? (·.1 == name) with
    | some (_, a) => .ok a
    | none => .error (.noVariant s.title)
  | _ => .error (.noVariant s.title)

end Spelling

/-- The spellings of the stages. -/
def ConditionType.spelling : Spelling ConditionType :=
  ⟨"ConditionType", [("REQUEST", .request), ("CACHE", .cache), ("RESPONSE", .response)], .other⟩

/-- The text that stands for a stage. -/
def ConditionType.text : ConditionType → String
  | .request => "REQUEST"
  | .cache => "CACHE"
  | .response => "RESPONSE"
  | .other s => s

/-- The stage by name. -/
def ConditionType.label : ConditionType → String
  | .request => "Request"
  | .cache => "Cache"
  | .response => "Response"
  | .other s => "Other(" ++ Text.quote s ++ ")"

/-- The spellings of the storage classes. -/
def Redundancy.spelling : Spelling Redundancy :=
  ⟨"S3Redundancy", [("standard", .standard), ("reduced_redundancy", .reducedRedundancy)], .other⟩

/-- The text that stands for a storage class. -/
def Redundancy.text : Redundancy → String
  | .standard => "standard"
  | .reducedRedundancy => "reduced_redundancy"
  | .other s => s

/-- The storage class by name. -/
def Redundancy.label : Redundancy → String
  | .standard => "Standard"
  | .reducedRedundancy => "ReducedRedundancy"
  | .other s => "Other(" ++ Text.quote s ++ ")"

end EdgeConsole.Resource
