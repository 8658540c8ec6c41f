import EdgeConsole.Proofs.Resource.Kind
import EdgeConsole.Resource.Versioned

/-!
# All types of resources

The service reports resources of twenty-two types. What was read of any of them is written such that
it is read again, as long as its times lie in years that can be written
(`ResourceType.readText_written`).
-/

namespace EdgeConsole.Resource

open Record (FieldKind WritableKind Rereads Row Schema Distinct)

/-- A type of resources. -/
inductive ResourceType
  | versioned (k : VersionedKind)
  | directorBackend
  | service
  | serviceDetail
  | version
  | token
  | user
deriving DecidableEq, Repr

namespace ResourceType

/-- The kinds that the fields of the type come in. -/
abbrev Kind : ResourceType → Type
  | .versioned _ => Scalar
  | .directorBackend => Scalar
  | .service => ServiceKind
  | .serviceDetail => ServiceKind
  | .version => Scalar
  | .token => Scalar
  | .user => Scalar

instance instWritableKind : (T : ResourceType) → WritableKind T.Kind
  | .versioned _ => inferInstanceAs (WritableKind Scalar)
  | .directorBackend => inferInstanceAs (WritableKind Scalar)
  | .service => inferInstanceAs (WritableKind ServiceKind)
  | .serviceDetail => inferInstanceAs (WritableKind ServiceKind)
  | .version => inferInstanceAs (WritableKind Scalar)
  | .token => inferInstanceAs (WritableKind Scalar)
  | .user => inferInstanceAs (WritableKind Scalar)

/-- The record of the type. -/
def schema : (T : ResourceType) → Schema T.Kind
  | .versioned k => k.schema
  | .directorBackend => directorBackendSchema
  | .service => serviceSchema
  | .serviceDetail => serviceDetailSchema
  | .version => versionSchema
  | .token => tokenSchema
  | .user => userSchema

/-- A resource of the type. -/
abbrev Value (T : ResourceType) : Type := T.schema.Value

/-- The times of a field lie in years of four digits. -/
def FieldInYears : (T : ResourceType) → (k : T.Kind) → FieldKind.Val k → Prop
  | .versioned _ => Scalar.InYears
  | .directorBackend => Scalar.InYears
  | .service => ServiceKind.InYears
  | .serviceDetail => ServiceKind.InYears
  | .version => Scalar.InYears
  | .token => Scalar.InYears
  | .user => Scalar.InYears

/-- All times of a resource, those of nested versions with them, lie in years of four digits. -/
def InYears {T : ResourceType} (v : T.Value) : Prop :=
  Row.Forall (fun f x => T.FieldInYears f.kind x) v

end ResourceType

theorem distinct_versionedSchema (k : VersionedKind) : Distinct k.schema.fields := by
  cases k <;> decide

theorem ResourceType.distinct_schema (T : ResourceType) : Distinct T.schema.fields := by
  cases T with
  | versioned k => exact distinct_versionedSchema k
  | directorBackend => decide
  | service => decide
  | serviceDetail => decide
  | version => exact distinct_versionSchema
  | token => decide
  | user => decide

/-- A record of scalars that was read is read again from its members. -/
theorem readText_of_scalars {s : Schema Scalar} (hs : Distinct s.fields) {text : String}
    {v : s.Value} (h : s.readText text = .ok v)
    (hyears : Row.Forall (fun f x => f.kind.InYears x) v) {ms : List (String × Json)}
    (hms : ms.Perm v.members) : s.readText (Json.object ms).compact = .ok v := by
  obtain ⟨o, -, ho⟩ := Json.readText_eq_ok_iff.mp h
  have hread := (Schema.forall_isRead hs ho).and hyears
  refine Schema.readText_of_members hs (Row.forall_of (fun f x => f.kind.isExact_write x) v) ?_ hms
  exact hread.imp fun f _ x hx => Scalar.rereads (Scalar.isProper_of_isRead hx.1) hx.2 125

/-- A service that was read is read again from its members. -/
theorem readText_of_serviceKinds {s : Schema ServiceKind} (hs : Distinct s.fields) {text : String}
    {v : s.Value} (h : s.readText text = .ok v)
    (hyears : Row.Forall (fun f x => f.kind.InYears x) v) {ms : List (String × Json)}
    (hms : ms.Perm v.members) : s.readText (Json.object ms).compact = .ok v := by
  obtain ⟨o, -, ho⟩ := Json.readText_eq_ok_iff.mp h
  have hread := (Schema.forall_isRead hs ho).and hyears
  refine Schema.readText_of_members hs (Row.forall_of (fun f x => f.kind.isExact_write x) v) ?_ hms
  exact hread.imp fun f _ x hx =>
    ServiceKind.rereads (ServiceKind.isProper_of_isRead hx.1) hx.2 123

namespace ResourceType

theorem readText_of_members {T : ResourceType} {text : String} {v : T.Value}
    (h : T.schema.readText text = .ok v) (hyears : InYears v) {ms : List (String × Json)}
    (hms : ms.Perm v.members) : T.schema.readText (Json.object ms).compact = .ok v := by
  cases T with
  | versioned k => exact readText_of_scalars (distinct_versionedSchema k) h hyears hms
  | directorBackend => exact readText_of_scalars (distinct_schema .directorBackend) h hyears hms
  | service => exact readText_of_serviceKinds (distinct_schema .service) h hyears hms
  | serviceDetail => exact readText_of_serviceKinds (distinct_schema .serviceDetail) h hyears hms
  | version => exact readText_of_scalars distinct_versionSchema h hyears hms
  | token => exact readText_of_scalars (distinct_schema .token) h hyears hms
  | user => exact readText_of_scalars (distinct_schema .user) h hyears hms

/-- What was read of a resource is written such that it is read as the same resource, in the order
of the names and in any other order of its members, if its times can be written. -/
theorem readText_written (T : ResourceType) {text : String} {v : T.Value}
    (h : T.schema.readText text = .ok v) (hyears : InYears v) :
    T.schema.readText v.toJson.compact = .ok v ∧
      ∀ ms : List (String × Json), ms.Perm v.members →
        T.schema.readText (Json.object ms).compact = .ok v :=
  ⟨readText_of_members h hyears (Row.sortMembers_members_perm T.distinct_schema v),
    fun _ hms => readText_of_members h hyears hms⟩

/-- The case of a version that was made in a leap second, reported in the time of another place. -/
theorem readText_written_version :
    ∃ v : ResourceType.version.Value,
      ResourceType.version.schema.readText (Json.object [("number", .text " 7 "),
        ("created_at", .text "2017-01-01T00:59:60.5+01:00"), ("active", .bool true)]).compact =
          .ok v ∧
      InYears v ∧ ResourceType.version.schema.readText v.toJson.compact = .ok v := by
  let v : ResourceType.version.Value :=
    .cons (7 : UInt32) (.cons "" (.cons none (.cons true (.cons false (.cons false (.cons false
      (.cons false (.cons (some ⟨⟨2016, 12, 31, by decide⟩,
        { hour := 23, minute := 59, second := 59, nano := 1500000000 }⟩)
          (.cons none (.cons none .nil))))))))))
  have hexact : (Json.object [("number", .text " 7 "),
      ("created_at", .text "2017-01-01T00:59:60.5+01:00"), ("active", .bool true)]).IsExact :=
    .object (by simp [Json.IsExact.text, Json.IsExact.bool])
  have hread : ResourceType.version.schema.readText (Json.object [("number", .text " 7 "),
      ("created_at", .text "2017-01-01T00:59:60.5+01:00"), ("active", .bool true)]).compact =
        .ok v :=
    Json.readText_eq_ok_iff.mpr ⟨_, Json.ofText_compact hexact, rfl⟩
  have hyears : InYears v :=
    ⟨trivial, trivial, trivial, trivial, trivial, trivial, trivial, trivial,
      ⟨by decide, by decide⟩, trivial, trivial, trivial⟩
  exact ⟨v, hread, hyears, (readText_written .version hread hyears).1⟩

end ResourceType

end EdgeConsole.Resource
