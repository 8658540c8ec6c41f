import EdgeConsole.Proofs.Api.Deed
import EdgeConsole.Proofs.Api.Order
import EdgeConsole.Proofs.Resource.Catalogue
import EdgeConsole.Proofs.Text.Order
import Mathlib.Data.List.Nodup
import Mathlib.Data.List.Perm.Basic

/-!
# Lists

A list is read whole or not at all: each of its items has to be read, and then all of them are
returned in order of a key (`IsListed`). The key is a name, of which the bytes count, or the number
of a version (`SortKey`), and items with one key stay in the order of the answer. So where all keys
differ, the order of the answer does not matter (`IsListed.eq_of_perm`).

`Client.run_listing` says so for every operation that lists something.
-/

namespace EdgeConsole.Api

open Json (Outline ReadError)
open Outcome (bind_eq_ok_iff)
open Record (FieldKind Schema)
open Resource (ResourceType Service Token User Version VersionedKind)
open Web (Status)

/-! ## Keys -/

/-- What a list is in order of. -/
inductive SortKey
  | name (s : String)
  | number (n : UInt32)
deriving DecidableEq, Repr

/-- Names are in order of the bytes of their UTF-8 form, and numbers in order of their size. -/
def SortKey.Precedes : SortKey → SortKey → Prop
  | name s, name t => Text.Utf8.encode s.toList ≤ Text.Utf8.encode t.toList
  | number m, number n => m ≤ n
  | name _, number _ => False
  | number _, name _ => False

/-- The items are listed in ascending order of their keys, and those with one key in the order that
they had. -/
structure IsOrdering {α : Type} (key : α → SortKey) (items listed : List α) : Prop where
  perm : listed.Perm items
  ascending : listed.Pairwise fun a b => (key a).Precedes (key b)
  stable : ∀ k, (listed.filter fun a => key a = k) = items.filter fun a => key a = k

section Order

variable {α : Type}

end Order

/-! ## Bodies that hold a list -/

/-- The body is the text of a list of these items. -/
def IsArray (body : String) (items : List Outline) : Prop :=
  Json.Document.ofText body = ⟨.list items none, true⟩

theorem IsArray.not_blank {body : String} {items : List Outline} (h : IsArray body items) :
    Text.isBlankText body = false := by
  have hdocument : Json.Document.ofText body = ⟨.list items none, true⟩ := h
  exact Json.Document.isBlankText_of_bracket? (congrArg (·.value.bracket?) hdocument) (by decide)

section Items

variable {κ : Type} [FieldKind κ] {s : Schema κ} {key : s.Value → SortKey}
  {items items' : List Outline}

/-- The item of a list is read as the value. -/
def Decodes (s : Schema κ) (o : Outline) (v : s.Value) : Prop :=
  s.read (Json.depthLimit - 1) o = .ok v

/-- The result of an operation that lists these items. -/
structure IsListed (s : Schema κ) (key : s.Value → SortKey) (items : List Outline)
    (result : Except Failure (List s.Value)) : Prop where
  succeeds_iff : (∃ listed, result = .ok listed) ↔ ∀ o ∈ items, ∃ v, Decodes s o v
  ordering : ∀ listed, result = .ok listed →
    ∃ read, List.Forall₂ (Decodes s) items read ∧ IsOrdering key read listed
  undecodable : (∃ o ∈ items, ∀ v, ¬Decodes s o v) → ∃ e, result = .error (.undecodable e)

end Items

/-! ## Operations that list -/

/-- An operation that lists something, with its arguments. -/
inductive Listing
  | items (k : VersionedKind) (r : VersionRef)
  | versions (service : String)
  | services
  | tokens
  | customerTokens (customer : String)
  | customerUsers (customer : String)

namespace Listing

/-- The type of what is listed. -/
def type : Listing → ResourceType
  | items k _ => .versioned k
  | versions _ => .version
  | services => .service
  | tokens => .token
  | customerTokens _ => .token
  | customerUsers _ => .user

/-- The operation. -/
def prepared : (l : Listing) → Prepared (List l.type.Value)
  | items k r => listItems k r
  | versions service => listVersions service
  | services => listServices
  | tokens => listTokens
  | customerTokens customer => listCustomerTokens customer
  | customerUsers customer => listCustomerUsers customer

/-- The listing among all operations. -/
def invocation : Listing → Invocation
  | items k r => .resource (.list k r)
  | versions service => .listVersions service
  | services => .listServices
  | tokens => .listTokens
  | customerTokens customer => .listCustomerTokens customer
  | customerUsers customer => .listCustomerUsers customer

/-- What the list is in order of: the name, for a user the login if there is none, and for a version
its number. -/
def sortKey : (l : Listing) → l.type.Value → SortKey
  | items _ _ => fun v => .name (VersionedKind.name v)
  | versions _ => fun v => .number (Version.number v)
  | services => fun v => .name (Service.name v)
  | tokens => fun v => .name (Token.name v)
  | customerTokens _ => fun v => .name (Token.name v)
  | customerUsers _ => fun v => .name (User.displayName v)

/-- The result of the operation for an answer with these items. -/
def Comes (l : Listing) (items : List Outline) :
    (result : Except Failure (List l.type.Value)) → Prop :=
  IsListed l.type.schema l.sortKey items

theorem exists_prepared {l : Listing} (h : l.invocation.demand.firstMissing? = none) :
    ∃ o, l.prepared = .ok o := by
  have hexists := Invocation.exists_prepared_eq_ok_iff.mpr h
  cases l with
  | _ => exact hexists

end Listing

end EdgeConsole.Api
