import EdgeConsole.Api.Service
import EdgeConsole.Proofs.Web.Continuation

/-!
# Addresses

Every path of the API is an address: fixed words, numbers of versions and identifiers, one segment
each, and for the search of a service the name that is searched for. `Address.text` is the only
spelling there is, and the lemmas about paths below bring each of them to it.

Words and numbers are plain segments, and so is every identifier but the two dotted ones. What a URL
makes of an address is therefore settled by its dotted parts.
-/

namespace EdgeConsole.Api

open Resource (VersionedKind)
open Web (escape)
open Web.Url (IsPlain IsSegment isDot isDotDot isPathChar isSlash joined searched)

/-! ## Parts -/

/-- The words of which paths are made. -/
inductive Word
  | service
  | version
  | details
  | search
  | validate
  | activate
  | deactivate
  | clone
  | lock
  | tokens
  | self
  | currentUser
  | user
  | users
  | customer
  | password
  | requestReset
  | backend
  | director
  | healthCheck
  | domain
  | condition
  | logging
  | bigQuery
  | cloudfiles
  | ftp
  | gcs
  | logentries
  | loggly
  | papertrail
  | s3
  | splunk
  | sumologic
  | syslog
deriving DecidableEq, Repr

/-- The spelling of a word. -/
def Word.text : Word → String
  | .service => "service"
  | .version => "version"
  | .details => "details"
  | .search => "search"
  | .validate => "validate"
  | .activate => "activate"
  | .deactivate => "deactivate"
  | .clone => "clone"
  | .lock => "lock"
  | .tokens => "tokens"
  | .self => "self"
  | .currentUser => "current_user"
  | .user => "user"
  | .users => "users"
  | .customer => "customer"
  | .password => "password"
  | .requestReset => "request_reset"
  | .backend => "backend"
  | .director => "director"
  | .healthCheck => "healthcheck"
  | .domain => "domain"
  | .condition => "condition"
  | .logging => "logging"
  | .bigQuery => "bigquery"
  | .cloudfiles => "cloudfiles"
  | .ftp => "ftp"
  | .gcs => "gcs"
  | .logentries => "logentries"
  | .loggly => "loggly"
  | .papertrail => "papertrail"
  | .s3 => "s3"
  | .splunk => "splunk"
  | .sumologic => "sumologic"
  | .syslog => "syslog"

/-- A segment of an address. -/
inductive Part
  | word (w : Word)
  | number (n : UInt32)
  | identifier (s : String)
deriving DecidableEq, Repr

namespace Part

/-- The segment as it is written. -/
def chars : Part → List Char
  | .word w => w.text.toList
  | .number n => (toString n.toNat).toList
  | .identifier s => (escape s).toList

/-- The part means another place than the one its name says. -/
def isDotted : Part → Bool
  | .identifier s => s == "." || s == ".."
  | _ => false

theorem isPlain_word (w : Word) : IsPlain (chars (.word w)) where
  pathChars := List.all_eq_true.mp (by cases w <;> decide)
  slashFree := Web.Url.forall_eq_false_of_any (by cases w <;> decide)
  notDot := by cases w <;> decide
  notDotDot := by cases w <;> decide

/-- A number is spelled like the identifier of its digits. -/
theorem escape_toString (n : Nat) : escape (toString n) = toString n := by
  have hkept : ∀ c ∈ (toString n).toList, Web.isUnreserved c = true := by
    intro c hc
    rw [Nat.toString_eq_repr, Nat.toList_repr] at hc
    have hdigit : c.isDigit = true := Nat.isDigit_of_mem_toDigits (by decide) (by decide) hc
    simp only [Web.isUnreserved, Char.isAlphanum, hdigit, Bool.or_true, Bool.true_or]
  rw [escape, Web.Url.percentEncode_eq_self hkept, String.ofList_toList]

theorem toString_ne {n : Nat} {s : String} {c : Char} (hmem : c ∈ s.toList)
    (hdigit : c.isDigit = false) : toString n ≠ s := by
  rintro rfl
  rw [Nat.toString_eq_repr, Nat.toList_repr] at hmem
  rw [Nat.isDigit_of_mem_toDigits (by decide) (by decide) hmem] at hdigit
  exact Bool.noConfusion hdigit

theorem isPlain_number (n : UInt32) : IsPlain (chars (.number n)) := by
  rw [chars, ← escape_toString]
  exact Web.Url.isPlain_escape (toString_ne (c := '.') (by decide) rfl)
    (toString_ne (c := '.') (by decide) rfl)

theorem isPlain_chars {p : Part} (h : p.isDotted = false) : IsPlain p.chars := by
  cases p with
  | word w => exact isPlain_word w
  | number n => exact isPlain_number n
  | identifier s =>
    rw [isDotted, Bool.or_eq_false_iff, beq_eq_false_iff_ne, beq_eq_false_iff_ne] at h
    exact Web.Url.isPlain_escape h.1 h.2

theorem isSegment_chars (p : Part) : IsSegment p.chars := by
  cases p with
  | word w => exact (isPlain_word w).toIsSegment
  | number n => exact (isPlain_number n).toIsSegment
  | identifier s => exact Web.Url.isSegment_escape s

theorem isEscapeChar_of_mem_chars {p : Part} {c : Char} (h : c ∈ p.chars) :
    Web.isEscapeChar c = true := by
  cases p with
  | word w =>
    have hall : (chars (.word w)).all Web.isEscapeChar = true := by cases w <;> decide
    exact List.all_eq_true.mp hall c h
  | number n =>
    rw [chars, ← escape_toString] at h
    exact Web.isEscapeChar_of_mem_escape h
  | identifier s => exact Web.isEscapeChar_of_mem_escape h

end Part

/-! ## Addresses -/

/-- What a path says, apart from its spelling. -/
structure Address where
  parts : List Part
  /-- The name that is searched for. -/
  name? : Option String := none
deriving DecidableEq, Repr

/-- The text of the parts of a path. -/
def partsText (parts : List Part) : String := String.ofList (joined (parts.map Part.chars))

namespace Address

/-- The query of the address. -/
def query? (a : Address) : Option (List Char) :=
  a.name?.map fun name => "name=".toList ++ (escape name).toList

/-- The address as a path. -/
def text (a : Address) : String :=
  String.ofList (joined (a.parts.map Part.chars) ++ searched a.query?)

/-- No identifier in the address is one of the two dotted ones. -/
def IsUndotted (a : Address) : Prop := ∀ p ∈ a.parts, p.isDotted = false

instance (a : Address) : Decidable a.IsUndotted :=
  inferInstanceAs (Decidable (∀ p ∈ a.parts, p.isDotted = false))

theorem toList_text (a : Address) :
    a.text.toList = joined (a.parts.map Part.chars) ++ searched a.query? :=
  String.toList_ofList

theorem text_of_parts (parts : List Part) : text { parts } = partsText parts := by
  rw [text, partsText]
  exact congrArg String.ofList (List.append_nil _)

theorem isSegment_of_mem {a : Address} {s : List Char} (h : s ∈ a.parts.map Part.chars) :
    IsSegment s := by
  obtain ⟨p, -, rfl⟩ := List.mem_map.mp h
  exact p.isSegment_chars

theorem IsUndotted.isPlain_of_mem {a : Address} (ha : a.IsUndotted) {s : List Char}
    (h : s ∈ a.parts.map Part.chars) : IsPlain s := by
  obtain ⟨p, hp, rfl⟩ := List.mem_map.mp h
  exact Part.isPlain_chars (ha p hp)

/-- A query is written as it is. -/
theorem isQueryChar_of_mem {a : Address} {q : List Char} (hq : q ∈ a.query?) {c : Char}
    (hc : c ∈ q) : Web.Url.isQueryChar .web c = true := by
  have hfield : "name=".toList.all (Web.Url.isQueryChar .web) = true := by decide
  obtain ⟨name, -, rfl⟩ := Option.map_eq_some_iff.mp hq
  rcases List.mem_append.mp hc with hc | hc
  · exact List.all_eq_true.mp hfield c hc
  · exact Web.Url.isQueryChar_of_isEscapeChar (Web.isEscapeChar_of_mem_escape hc)

end Address

/-! ## Paths -/

theorem partsText_append (xs ys : List Part) :
    partsText (xs ++ ys) = partsText xs ++ partsText ys := by
  simp only [partsText, List.map_append, Web.Url.joined_append, String.ofList_append]

theorem partsText_identifier (s : String) : partsText [.identifier s] = "/" ++ escape s := by
  apply String.toList_inj.mp
  rw [partsText, String.toList_ofList, String.toList_append]
  exact congrArg (List.cons '/') (List.append_nil _)

theorem partsText_number (n : UInt32) : partsText [.number n] = "/" ++ toString n.toNat := by
  apply String.toList_inj.mp
  rw [partsText, String.toList_ofList, String.toList_append]
  exact congrArg (List.cons '/') (List.append_nil _)

theorem partsText_word (w : Word) : partsText [.word w] = "/" ++ w.text := by
  apply String.toList_inj.mp
  rw [partsText, String.toList_ofList, String.toList_append]
  exact congrArg (List.cons '/') (List.append_nil _)

/-- The words of the path of a kind. -/
def kindWords : VersionedKind → List Word
  | .backend => [.backend]
  | .director => [.director]
  | .healthCheck => [.healthCheck]
  | .domain => [.domain]
  | .condition => [.condition]
  | .bigQuery => [.logging, .bigQuery]
  | .cloudfiles => [.logging, .cloudfiles]
  | .ftp => [.logging, .ftp]
  | .gcs => [.logging, .gcs]
  | .logentries => [.logging, .logentries]
  | .loggly => [.logging, .loggly]
  | .papertrail => [.logging, .papertrail]
  | .s3 => [.logging, .s3]
  | .splunk => [.logging, .splunk]
  | .sumologic => [.logging, .sumologic]
  | .syslog => [.logging, .syslog]

/-- The parts of the path of a kind. -/
def kindParts (k : VersionedKind) : List Part := (kindWords k).map .word

theorem partsText_kindParts (k : VersionedKind) : partsText (kindParts k) = "/" ++ k.segment := by
  cases k <;> decide

/-- The parts of the path of a service. -/
def serviceParts (service : String) : List Part := [.word .service, .identifier service]

theorem partsText_serviceParts (service : String) :
    partsText (serviceParts service) = servicePath service := by
  rw [serviceParts, ← List.singleton_append, partsText_append, partsText_word, partsText_identifier,
    servicePath, ← String.append_assoc]
  exact congrArg (· ++ escape service) (by decide)

/-- The parts of the path of a version. -/
def VersionRef.parts (r : VersionRef) : List Part :=
  serviceParts r.service ++ [.word .version, .number r.version]

theorem partsText_versions (service : String) :
    partsText (serviceParts service ++ [.word .version]) = versionsPath service := by
  rw [partsText_append, partsText_serviceParts, partsText_word]
  exact congrArg (servicePath service ++ ·) (by decide)

theorem partsText_version (r : VersionRef) :
    partsText r.parts = versionPath r.service r.version := by
  have hparts : r.parts = (serviceParts r.service ++ [.word .version]) ++ [.number r.version] := by
    rw [List.append_assoc]
    rfl
  rw [hparts, partsText_append, partsText_versions, partsText_number, ← String.append_assoc,
    versionPath]

/-- The parts of the path of the resources of a kind. -/
def VersionRef.folder (r : VersionRef) (k : VersionedKind) : List Part := r.parts ++ kindParts k

theorem partsText_folder (r : VersionRef) (k : VersionedKind) :
    partsText (r.folder k) = r.path k := by
  rw [VersionRef.folder, partsText_append, partsText_version, partsText_kindParts,
    ← String.append_assoc, VersionRef.path, collectionPath]

/-- The parts of the path of a resource. -/
def NameRef.parts (r : NameRef) (k : VersionedKind) : List Part :=
  r.toVersionRef.folder k ++ [.identifier r.name]

theorem partsText_item (r : NameRef) (k : VersionedKind) : partsText (r.parts k) = r.path k := by
  rw [NameRef.parts, partsText_append, partsText_folder, partsText_identifier,
    ← String.append_assoc, NameRef.path, itemPath]
  rfl

/-- The parts of the path of a link. -/
def LinkRef.parts (r : LinkRef) : List Part :=
  (r.toVersionRef.named r.director).parts .director ++ [.word .backend, .identifier r.backend]

theorem partsText_link (r : LinkRef) : partsText r.parts = r.path := by
  have hback : partsText [.word .backend, .identifier r.backend] =
      "/backend/" ++ escape r.backend := by
    rw [← List.singleton_append, partsText_append, partsText_word, partsText_identifier,
      ← String.append_assoc]
    exact congrArg (· ++ escape r.backend) (by decide)
  rw [LinkRef.parts, partsText_append, partsText_item, hback, ← String.append_assoc]
  rfl

theorem partsText_append_word (parts : List Part) (w : Word) :
    partsText (parts ++ [.word w]) = partsText parts ++ ("/" ++ w.text) := by
  rw [partsText_append, partsText_word]

/-- The path of something under a word by its identifier. -/
theorem partsText_below (w : Word) (s : String) :
    partsText [.word w, .identifier s] = "/" ++ w.text ++ "/" ++ escape s := by
  rw [← List.singleton_append, partsText_append, partsText_word, partsText_identifier,
    ← String.append_assoc]

theorem partsText_token (id : String) :
    partsText [.word .tokens, .identifier id] = tokenPath id :=
  (partsText_below .tokens id).trans (congrArg (· ++ escape id) (by decide))

theorem partsText_user (id : String) : partsText [.word .user, .identifier id] = userPath id :=
  (partsText_below .user id).trans (congrArg (· ++ escape id) (by decide))

theorem partsText_reset (login : String) :
    partsText [.word .user, .identifier login, .word .password, .word .requestReset] =
      userPath login ++ "/password/request_reset" := by
  have hback : partsText [.word .password, .word .requestReset] = "/password/request_reset" := by
    decide
  rw [← partsText_user, ← hback, ← partsText_append]
  rfl

theorem partsText_customer (customer : String) (w : Word) :
    partsText [.word .customer, .identifier customer, .word w] = customerPath customer w.text := by
  have hfront : "/" ++ Word.text .customer ++ "/" = "/customer/" := by decide
  have hparts : partsText [.word .customer, .identifier customer, .word w] =
      partsText [.word .customer, .identifier customer] ++ ("/" ++ w.text) :=
    partsText_append_word [.word .customer, .identifier customer] w
  rw [hparts, partsText_below, hfront, ← String.append_assoc, customerPath]

theorem text_search (name : String) :
    Address.text ⟨[.word .service, .word .search], some name⟩ =
      "/service/search?name=" ++ escape name := by
  have hfront : joined ([.word .service, .word .search].map Part.chars) ++ '?' :: "name=".toList =
      "/service/search?name=".toList := by decide
  apply String.toList_inj.mp
  rw [Address.toList_text, String.toList_append, ← hfront, List.append_assoc, List.cons_append]
  rfl

end EdgeConsole.Api
