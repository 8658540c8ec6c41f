import EdgeConsole.Resource.Kind

/-!
# Describing fields

Short names for the fields that descriptions of resources are made of.
-/

namespace EdgeConsole.Resource

open Record (FieldSpec)

/-- A setting that a client may set. -/
def setting (name : String) (s : Setting) : FieldSpec Scalar := ⟨name, .optional s, true⟩

/-- A setting that only the service sets. -/
def shown (name : String) (s : Setting) : FieldSpec Scalar := ⟨name, .optional s, false⟩

/-- A text that is empty when it is absent. -/
def weakText (name : String) : FieldSpec Scalar := ⟨name, .weak .text, false⟩

/-- A number that is zero when it is absent. -/
def weakNumber (name : String) : FieldSpec Scalar := ⟨name, .weak .number, false⟩

/-- A truth value that is false when it is absent. -/
def weakFlag (name : String) : FieldSpec Scalar := ⟨name, .weak .flag, false⟩

/-- A list of texts that is empty when it is absent. -/
def textList (name : String) : FieldSpec Scalar := ⟨name, .texts, false⟩

/-- The times at which a resource was created, changed and deleted. -/
def stamps : List (FieldSpec Scalar) :=
  [shown "created_at" .instant, shown "updated_at" .instant, shown "deleted_at" .instant]

end EdgeConsole.Resource
