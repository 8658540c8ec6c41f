import EdgeConsole.Api.Account
import EdgeConsole.Proofs.Resource.FormText
import EdgeConsole.Web.Form

/-!
# What a form tells

What the caller of an operation wants to have set is its `Content`, which says nothing of where it
is to be set: no service, no version and no name that a resource has already. `Content.fields`
lists, in the order of their declaration, the fields that a form of that content may have, each with
the values it was given, and `AreTold` says which pairs speak of them: one for each value, with the
key of the field and the text of the value.

The pairs that tell a content are orderly (`Content.IsOrderly`): each key once, no identifier, and
the name that the resource is to have in the place of its own. And they tell no other content of the
same sort (`Content.eq_of_areTold`), because no key is that of two fields and no text of a setting is
that of two values.
-/

namespace EdgeConsole.Api

open Record (FieldSpec)
open Resource (VersionedKind Scalar Setting Patch PatchValue)
open Web (Form.Pair)

/-! ## Content -/

/-- What is to be set by a form. -/
inductive Content
  | newItem (k : VersionedKind) (name : String) (changes : k.Changes)
  | item (k : VersionedKind) (newName? : Option String) (changes : k.Changes)
  | version (comment? : Option String)
  | newService (name : String) (comment? : Option String)
  | service (name? comment? : Option String)
  | newToken (t : TokenRequest)
  | newUser (login : String) (name? role? : Option String)
  | user (name? role? : Option String)

/-! ## Fields -/

/-- A field that a form may have, with the values it was given. -/
structure FormField where
  key : String
  setting : Setting
  values : List setting.Val

/-- A field for texts. -/
def FormField.texts (key : String) (values : List String) : FormField := ⟨key, .text, values⟩

@[simp] theorem key_texts (key : String) (values : List String) :
    (FormField.texts key values).key = key := rfl

/-- The field of a setting that a client may set. -/
def patchField : (f : FieldSpec Scalar) → PatchValue f → List FormField
  | ⟨name, .optional s, true⟩, v => [⟨name, s, v.toList⟩]
  | ⟨_, .optional _, false⟩, _ => []
  | ⟨_, .plainText, _⟩, _ => []
  | ⟨_, .weak _, _⟩, _ => []
  | ⟨_, .texts, _⟩, _ => []

/-- The fields of the settings that a client may set, in the order of the record. -/
def patchFields : {fs : List (FieldSpec Scalar)} → Patch fs → List FormField
  | [], .nil => []
  | f :: _, .cons v rest => patchField f v ++ patchFields rest

/-- The fields that a form of the content may have, in the order of their declaration. -/
def Content.fields : Content → List FormField
  | .newItem _ name changes => .texts "name" [name] :: patchFields changes
  | .item _ newName? changes => .texts "name" newName?.toList :: patchFields changes
  | .version comment? => [.texts "comment" comment?.toList]
  | .newService name comment? => [.texts "name" [name], .texts "comment" comment?.toList]
  | .service name? comment? => [.texts "name" name?.toList, .texts "comment" comment?.toList]
  | .newToken t =>
    [.texts "name" t.name?.toList, .texts "scope" t.scope?.toList, .texts "username" [t.username],
     .texts "password" [t.password], .texts "services[]" t.services,
     ⟨"expires_at", .instant, t.expiresAt?.toList⟩]
  | .newUser login name? role? =>
    [.texts "login" [login], .texts "name" name?.toList, .texts "role" role?.toList]
  | .user name? role? => [.texts "name" name?.toList, .texts "role" role?.toList]

/-- A pair speaks of a value of a field. -/
structure FormField.IsPair (f : FormField) (v : f.setting.Val) (p : Form.Pair) : Prop where
  key : p.1 = f.key
  text : f.setting.Spells v p.2

/-- The pairs speak of the values of the fields, field by field, and of nothing else. -/
inductive AreTold : List FormField → List Form.Pair → Prop
  | nil : AreTold [] []
  | cons {f : FormField} {fs : List FormField} {ps qs : List Form.Pair}
      (field : List.Forall₂ f.IsPair f.values ps) (rest : AreTold fs qs) : AreTold (f :: fs) (ps ++ qs)

/-! ## The pairs of a content -/

/-- The pairs of a field, one for each value. -/
def FormField.pairs (f : FormField) : List Form.Pair :=
  f.values.map fun v => (f.key, f.setting.formText v)

/-- The pairs of the values that were given, field by field. -/
def Content.pairs (c : Content) : List Form.Pair := c.fields.flatMap FormField.pairs

theorem forall₂_isPair_iff {f : FormField} {vs : List f.setting.Val} {ps : List Form.Pair} :
    List.Forall₂ f.IsPair vs ps ↔ ps = vs.map fun v => (f.key, f.setting.formText v) := by
  have hpair (v : f.setting.Val) (p : Form.Pair) :
      f.IsPair v p ↔ p = (f.key, f.setting.formText v) := by
    constructor
    · rintro ⟨hkey, htext⟩
      exact Prod.ext hkey (Setting.spells_iff.mp htext)
    · rintro rfl
      exact ⟨rfl, f.setting.spells_formText v⟩
  induction vs generalizing ps with
  | nil => rw [List.forall₂_nil_left_iff, List.map_nil]
  | cons v vs ih =>
    rw [List.forall₂_cons_left_iff, List.map_cons]
    simp only [hpair, ih]
    constructor
    · rintro ⟨_, _, rfl, rfl, rfl⟩
      rfl
    · rintro rfl
      exact ⟨_, _, rfl, rfl, rfl⟩

/-- The pairs that tell a content are those that are written for it. -/
theorem areTold_iff {fs : List FormField} {ps : List Form.Pair} :
    AreTold fs ps ↔ ps = fs.flatMap FormField.pairs := by
  constructor
  · intro h
    induction h with
    | nil => rfl
    | cons field rest ih =>
      rw [forall₂_isPair_iff.mp field, ih, List.flatMap_cons]
      rfl
  · rintro rfl
    induction fs with
    | nil => exact .nil
    | cons f fs ih => exact .cons (forall₂_isPair_iff.mpr rfl) ih

/-! ## The order of a form -/

/-- The keys of the settings of a kind that a client may set, in the order of its record. -/
def settableKeys (k : VersionedKind) : List String :=
  (k.settings.filter (·.writable)).map (·.name)

/-- The keys of a form, in the order of their declaration, whatever the values are. -/
def Content.declared : Content → List String
  | .newItem k _ _ => "name" :: settableKeys k
  | .item k _ _ => "name" :: settableKeys k
  | .version _ => ["comment"]
  | .newService _ _ => ["name", "comment"]
  | .service _ _ => ["name", "comment"]
  | .newToken _ => ["name", "scope", "username", "password", "services[]", "expires_at"]
  | .newUser _ _ _ => ["login", "name", "role"]
  | .user _ _ => ["name", "role"]

/-- The fields of a form are declared once and in one order, and no key stands twice in it, except
for that of the services of a token. No key is an identifier of what the form is for, and the name
is the one that the resource is to have. -/
structure Content.IsOrderly (c : Content) (pairs : List Form.Pair) : Prop where
  keys : c.fields.map (·.key) = c.declared
  distinct : c.declared.Nodup
  declared : ∀ p ∈ pairs, p.1 ∈ c.declared
  once : ∀ key, key ≠ "services[]" → (pairs.filter (·.1 = key)).length ≤ 1
  anonymous : ∀ key ∈ c.declared, key ∉ ["service_id", "version", "id"]
  newItem : ∀ k name changes, c = .newItem k name changes → pairs.head? = some ("name", name)
  item : ∀ k newName? changes, c = .item k newName? changes →
    pairs.filter (·.1 = "name") = (newName?.map fun name => ("name", name)).toList
  newToken : ∀ t, c = .newToken t →
    pairs.filter (·.1 = "services[]") = t.services.map fun service => ("services[]", service)

/-- The field can be set only if it is a setting. -/
def IsSettable : FieldSpec Scalar → Bool
  | ⟨_, .optional _, _⟩ => true
  | f => !f.writable

theorem isSettable_of_mem_settings {k : VersionedKind} : ∀ f ∈ k.settings, IsSettable f = true := by
  cases k <;> decide

theorem map_key_patchFields {fs : List (FieldSpec Scalar)} (changes : Patch fs)
    (hfs : ∀ f ∈ fs, IsSettable f = true) :
    (patchFields changes).map (·.key) = (fs.filter (·.writable)).map (·.name) := by
  induction changes with
  | nil => rfl
  | @cons f fs v changes ih =>
    have hrest := ih fun g hg => hfs g (by simp [hg])
    have hf := hfs f (by simp)
    have hfield : (patchField f v).map (·.key) = ([f].filter (·.writable)).map (·.name) := by
      obtain ⟨name, kind, writable⟩ := f
      cases kind with
      | optional s => cases writable <;> rfl
      | plainText => cases writable <;> first | rfl | exact absurd hf nofun
      | weak w => cases writable <;> first | rfl | exact absurd hf nofun
      | texts => cases writable <;> first | rfl | exact absurd hf nofun
    show (patchField f v ++ patchFields changes).map _ = (([f] ++ fs).filter _).map _
    rw [List.map_append, hfield, hrest, List.filter_append, List.map_append]

/-- A setting has one value at most. -/
theorem length_values_patchFields {fs : List (FieldSpec Scalar)} (changes : Patch fs) :
    ∀ f ∈ patchFields changes, f.values.length ≤ 1 := by
  induction changes with
  | nil => exact nofun
  | @cons f fs v changes ih =>
    intro g hg
    rcases List.mem_append.mp hg with hg | hg
    · obtain ⟨name, kind, writable⟩ := f
      cases kind with
      | plainText => cases hg
      | weak w => cases hg
      | texts => cases hg
      | optional s =>
        cases writable with
        | false => cases hg
        | true =>
          obtain rfl := List.mem_singleton.mp hg
          exact Option.length_toList_le
    · exact ih g hg

theorem map_key_fields (c : Content) : c.fields.map (·.key) = c.declared := by
  cases c with
  | newItem k name changes =>
    exact congrArg ("name" :: ·) (map_key_patchFields changes isSettable_of_mem_settings)
  | item k newName? changes =>
    exact congrArg ("name" :: ·) (map_key_patchFields changes isSettable_of_mem_settings)
  | version comment? => rfl
  | newService name comment? => rfl
  | service name? comment? => rfl
  | newToken t => rfl
  | newUser login name? role? => rfl
  | user name? role? => rfl

/-- The name is no setting, and no setting stands twice. -/
theorem nodup_settableKeys (k : VersionedKind) : ("name" :: settableKeys k).Nodup := by
  cases k <;> decide

/-- Neither the name nor a setting is an identifier of the version. -/
theorem anonymous_settableKeys (k : VersionedKind) :
    ∀ key ∈ "name" :: settableKeys k, key ∉ ["service_id", "version", "id"] := by
  cases k <;> decide

/-- A key that no field has is no key of a pair. -/
theorem filter_pairs_eq_nil {fs : List FormField} {key : String} (h : ∀ f ∈ fs, f.key ≠ key) :
    (fs.flatMap FormField.pairs).filter (·.1 = key) = [] := by
  rw [List.filter_eq_nil_iff]
  intro p hp
  obtain ⟨f, hf, hpf⟩ := List.mem_flatMap.mp hp
  obtain ⟨v, -, rfl⟩ := List.mem_map.mp hpf
  simpa using h f hf

theorem FormField.filter_pairs_self (f : FormField) : f.pairs.filter (·.1 = f.key) = f.pairs := by
  rw [List.filter_eq_self]
  intro p hp
  obtain ⟨v, -, rfl⟩ := List.mem_map.mp hp
  exact decide_eq_true rfl

/-- The pairs with the key of a field are those of its values. -/
theorem filter_pairs_of_mem {fs : List FormField} (hfs : (fs.map (·.key)).Nodup) {f : FormField}
    (hf : f ∈ fs) : (fs.flatMap FormField.pairs).filter (·.1 = f.key) = f.pairs := by
  obtain ⟨front, back, rfl⟩ := List.append_of_mem hf
  rw [List.map_append, List.map_cons, List.nodup_middle, List.nodup_cons, List.mem_append,
    not_or] at hfs
  have hother {gs : List FormField} (h : f.key ∉ gs.map (·.key)) :
      (gs.flatMap FormField.pairs).filter (·.1 = f.key) = [] :=
    filter_pairs_eq_nil fun g hg hkey => h (List.mem_map.mpr ⟨g, hg, hkey⟩)
  rw [List.flatMap_append, List.flatMap_cons, List.filter_append, List.filter_append,
    hother hfs.1.1, hother hfs.1.2, f.filter_pairs_self, List.nil_append, List.append_nil]

theorem Content.nodup_declared (c : Content) : c.declared.Nodup := by
  cases c with
  | newItem k name changes => exact nodup_settableKeys k
  | item k newName? changes => exact nodup_settableKeys k
  | _ => simp [declared]

theorem Content.nodup_keys (c : Content) : (c.fields.map (·.key)).Nodup := by
  rw [map_key_fields]
  exact c.nodup_declared

/-- Every field but the services of a token has one value at most. -/
theorem Content.length_values_le (c : Content) :
    ∀ f ∈ c.fields, f.key ≠ "services[]" → f.values.length ≤ 1 := by
  cases c with
  | newItem k name changes =>
    simpa [fields, FormField.texts] using fun f hf _ => length_values_patchFields changes f hf
  | item k newName? changes =>
    simpa [fields, FormField.texts, Option.length_toList_le] using
      fun f hf _ => length_values_patchFields changes f hf
  | _ => simp [fields, FormField.texts, Option.length_toList_le]

/-- Every form is orderly. -/
theorem Content.isOrderly (c : Content) : c.IsOrderly c.pairs where
  keys := map_key_fields c
  distinct := c.nodup_declared
  declared := by
    intro p hp
    obtain ⟨f, hf, hpf⟩ := List.mem_flatMap.mp hp
    obtain ⟨v, -, rfl⟩ := List.mem_map.mp hpf
    rw [← map_key_fields]
    exact List.mem_map_of_mem hf
  once := by
    intro key hkey
    by_cases hfield : ∃ f ∈ c.fields, f.key = key
    · obtain ⟨f, hf, rfl⟩ := hfield
      rw [pairs, filter_pairs_of_mem c.nodup_keys hf, FormField.pairs, List.length_map]
      exact c.length_values_le f hf hkey
    · push Not at hfield
      rw [pairs, filter_pairs_eq_nil hfield]
      exact Nat.zero_le 1
  anonymous := by
    cases c with
    | newItem k name changes => exact anonymous_settableKeys k
    | item k newName? changes => exact anonymous_settableKeys k
    | _ => simp [declared]
  newItem := by
    rintro k name changes rfl
    rfl
  item := by
    rintro k newName? changes rfl
    have hname : FormField.texts "name" newName?.toList ∈ (item k newName? changes).fields :=
      List.mem_cons_self
    rw [pairs, ← key_texts "name" newName?.toList, filter_pairs_of_mem (nodup_keys _) hname]
    cases newName? <;> rfl
  newToken := by
    rintro t rfl
    have hservices : FormField.texts "services[]" t.services ∈ (newToken t).fields := by
      simp [fields]
    rw [pairs, ← key_texts "services[]" t.services, filter_pairs_of_mem (nodup_keys _) hservices]
    rfl

/-! ## A form tells its content -/

/-- What a form is for, and with which settings. -/
inductive FormSort
  | newItem (k : VersionedKind)
  | item (k : VersionedKind)
  | version
  | newService
  | service
  | newToken
  | newUser
  | user

/-- The sort of form that a content is sent in. -/
def Content.sort : Content → FormSort
  | .newItem k _ _ => .newItem k
  | .item k _ _ => .item k
  | .version _ => .version
  | .newService _ _ => .newService
  | .service _ _ => .service
  | .newToken _ => .newToken
  | .newUser _ _ _ => .newUser
  | .user _ _ => .user

/-- All values can be told from their texts. -/
def AreTellable (fs : List FormField) : Prop := ∀ f ∈ fs, ∀ v ∈ f.values, f.setting.IsTellable v

/-- The key of a field and what it is for. -/
def FormField.shape (f : FormField) : String × Setting := (f.key, f.setting)

theorem values_eq_of_isPair {f : FormField} {vs ws : List f.setting.Val} {ps : List Form.Pair}
    (hvs : ∀ v ∈ vs, f.setting.IsTellable v) (hws : ∀ w ∈ ws, f.setting.IsTellable w)
    (h : List.Forall₂ f.IsPair vs ps) (h' : List.Forall₂ f.IsPair ws ps) : vs = ws := by
  induction h generalizing ws with
  | nil => exact (List.forall₂_nil_right_iff.mp h').symm
  | cons hp _ ih =>
    obtain ⟨w, ws, hq, hrest, rfl⟩ := List.forall₂_cons_right_iff.mp h'
    obtain ⟨hv, hvs⟩ := List.forall_mem_cons.mp hvs
    obtain ⟨hw, hws⟩ := List.forall_mem_cons.mp hws
    rw [Setting.eq_of_spells hp.text hq.text hv hw, ih hvs hws hrest]

/-- Fields of the same keys and settings that are told by the same pairs have the same values. -/
theorem fields_eq_of_areTold {fs gs : List FormField}
    (hshape : fs.map FormField.shape = gs.map FormField.shape) (hfs : (fs.map (·.key)).Nodup)
    (hgs : (gs.map (·.key)).Nodup) (htellable : AreTellable fs) (htellable' : AreTellable gs)
    {ps : List Form.Pair} (h : AreTold fs ps) (h' : AreTold gs ps) : fs = gs := by
  induction fs generalizing gs ps with
  | nil => exact (List.map_eq_nil_iff.mp hshape.symm).symm
  | cons f fs ih =>
    cases gs with
    | nil => cases hshape
    | cons g gs =>
      obtain ⟨key, setting, values⟩ := f
      obtain ⟨key', setting', values'⟩ := g
      obtain ⟨hhead, htail⟩ := List.cons.inj hshape
      obtain ⟨rfl, rfl⟩ : key = key' ∧ setting = setting' := Prod.mk.inj hhead
      obtain ⟨hv, hvs⟩ := List.forall_mem_cons.mp htellable
      obtain ⟨hw, hws⟩ := List.forall_mem_cons.mp htellable'
      have hall := (areTold_iff.mp h).symm.trans (areTold_iff.mp h')
      -- the pairs with the key of the first field are those of its values, on either side
      have hfirst := congrArg (List.filter (·.1 = key)) hall
      rw [filter_pairs_of_mem (f := ⟨key, setting, values⟩) hfs List.mem_cons_self,
        filter_pairs_of_mem (f := ⟨key, setting, values'⟩) hgs List.mem_cons_self] at hfirst
      have hvalues : values = values' :=
        values_eq_of_isPair (f := ⟨key, setting, values⟩) hv hw
          (forall₂_isPair_iff.mpr rfl) (forall₂_isPair_iff.mpr hfirst)
      subst hvalues
      rw [List.flatMap_cons, List.flatMap_cons, List.append_cancel_left_eq] at hall
      rw [ih htail (List.nodup_cons.mp hfs).2 (List.nodup_cons.mp hgs).2 hvs hws
        (areTold_iff.mpr rfl) (areTold_iff.mpr hall)]

theorem map_shape_patchField {f : FieldSpec Scalar} (v w : PatchValue f) :
    (patchField f v).map FormField.shape = (patchField f w).map FormField.shape := by
  obtain ⟨name, kind, writable⟩ := f
  cases kind with
  | optional s => cases writable <;> rfl
  | plainText => rfl
  | weak w => rfl
  | texts => rfl

theorem map_shape_patchFields {fs : List (FieldSpec Scalar)} (changes changes' : Patch fs) :
    (patchFields changes).map FormField.shape = (patchFields changes').map FormField.shape := by
  induction changes with
  | nil =>
    cases changes'
    rfl
  | @cons f fs v changes ih =>
    cases changes' with
    | cons w changes' =>
      show (patchField f v ++ patchFields changes).map _ =
        (patchField f w ++ patchFields changes').map _
      rw [List.map_append, List.map_append, map_shape_patchField v w, ih]

theorem map_shape_fields {c c' : Content} (h : c.sort = c'.sort) :
    c.fields.map FormField.shape = c'.fields.map FormField.shape := by
  cases c <;> cases c' <;> cases h
  · exact congrArg (List.cons ("name", .text)) (map_shape_patchFields _ _)
  · exact congrArg (List.cons ("name", .text)) (map_shape_patchFields _ _)
  all_goals rfl

theorem toList_injective {α : Type} {x y : Option α} (h : x.toList = y.toList) : x = y := by
  simpa using congrArg List.head? h

/-- A setting was given the value that its field has. -/
theorem patchField_injective {f : FieldSpec Scalar} {v w : PatchValue f}
    (h : patchField f v = patchField f w) : v = w := by
  obtain ⟨name, kind, writable⟩ := f
  cases kind with
  | plainText => cases writable <;> rfl
  | weak k => cases writable <;> rfl
  | texts => cases writable <;> rfl
  | optional s =>
    cases writable with
    | false => rfl
    | true =>
      have hvalues : v.toList = w.toList := by simpa [patchField] using h
      exact toList_injective hvalues

theorem patchFields_injective {fs : List (FieldSpec Scalar)} {changes changes' : Patch fs}
    (h : patchFields changes = patchFields changes') : changes = changes' := by
  induction changes with
  | nil =>
    cases changes'
    rfl
  | @cons f fs v changes ih =>
    cases changes' with
    | cons w changes' =>
      have hsplit : patchField f v ++ patchFields changes =
          patchField f w ++ patchFields changes' := h
      have hlength : (patchField f v).length = (patchField f w).length := by
        simpa using congrArg List.length (map_shape_patchField v w)
      obtain ⟨hfirst, hrest⟩ := List.append_inj hsplit hlength
      rw [patchField_injective hfirst, ih hrest]

theorem texts_injective {key : String} {vs ws : List String}
    (h : FormField.texts key vs = FormField.texts key ws) : vs = ws := by
  simpa [FormField.texts] using h

theorem texts_toList_injective {key : String} {x y : Option String}
    (h : FormField.texts key x.toList = FormField.texts key y.toList) : x = y :=
  toList_injective (texts_injective h)

theorem texts_singleton_injective {key x y : String}
    (h : FormField.texts key [x] = FormField.texts key [y]) : x = y :=
  List.singleton_inj.mp (texts_injective h)

/-- A content is what its fields say. -/
theorem Content.eq_of_fields {c c' : Content} (hsort : c.sort = c'.sort)
    (h : c.fields = c'.fields) : c = c' := by
  cases c <;> cases c' <;> cases hsort
  case newItem.newItem.refl =>
    obtain ⟨hname, hchanges⟩ := List.cons.inj h
    rw [texts_singleton_injective hname, patchFields_injective hchanges]
  case item.item.refl =>
    obtain ⟨hname, hchanges⟩ := List.cons.inj h
    rw [texts_toList_injective hname, patchFields_injective hchanges]
  case version.version.refl =>
    rw [texts_toList_injective (List.cons.inj h).1]
  case newService.newService.refl =>
    obtain ⟨hname, h⟩ := List.cons.inj h
    rw [texts_singleton_injective hname, texts_toList_injective (List.cons.inj h).1]
  case service.service.refl =>
    obtain ⟨hname, h⟩ := List.cons.inj h
    rw [texts_toList_injective hname, texts_toList_injective (List.cons.inj h).1]
  case newToken.newToken.refl t t' =>
    obtain ⟨name?, scope?, username, password, services, expiresAt?⟩ := t
    obtain ⟨name'?, scope'?, username', password', services', expiresAt'?⟩ := t'
    obtain ⟨hname, h⟩ := List.cons.inj h
    obtain ⟨hscope, h⟩ := List.cons.inj h
    obtain ⟨husername, h⟩ := List.cons.inj h
    obtain ⟨hpassword, h⟩ := List.cons.inj h
    obtain ⟨hservices, h⟩ := List.cons.inj h
    have hexpires : expiresAt?.toList = expiresAt'?.toList := by simpa using h
    obtain rfl : name? = name'? := texts_toList_injective hname
    obtain rfl : scope? = scope'? := texts_toList_injective hscope
    obtain rfl : username = username' := texts_singleton_injective husername
    obtain rfl : password = password' := texts_singleton_injective hpassword
    obtain rfl : services = services' := texts_injective hservices
    rw [toList_injective hexpires]
  case newUser.newUser.refl =>
    obtain ⟨hlogin, h⟩ := List.cons.inj h
    obtain ⟨hname, h⟩ := List.cons.inj h
    rw [texts_singleton_injective hlogin, texts_toList_injective hname,
      texts_toList_injective (List.cons.inj h).1]
  case user.user.refl =>
    obtain ⟨hname, h⟩ := List.cons.inj h
    rw [texts_toList_injective hname, texts_toList_injective (List.cons.inj h).1]

/-- Two contents of one sort of form that are told by the same pairs are the same. -/
theorem Content.eq_of_areTold {c c' : Content} (hsort : c.sort = c'.sort)
    (hc : AreTellable c.fields) (hc' : AreTellable c'.fields) {ps : List Form.Pair}
    (h : AreTold c.fields ps) (h' : AreTold c'.fields ps) : c = c' := by
  exact Content.eq_of_fields hsort
    (fields_eq_of_areTold (map_shape_fields hsort) c.nodup_keys c'.nodup_keys hc hc' h h')

end EdgeConsole.Api
