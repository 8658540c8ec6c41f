import EdgeConsole.Proofs.Api.Listing
import EdgeConsole.Proofs.Catalog.Columns
import EdgeConsole.Proofs.Console.Dispatch

/-!
# Columns of results

What a listing or a fetch returns is written of values of the kind's type, whatever the server said
(`exists_values_of_listing`, `exists_value_of_fetching`). So all columns of the kind have their
values in it, and a table of it shows a dash for what the server said and never for want of a member
(`results_haveColumns`).
-/

namespace EdgeConsole.Console

open Api
open Catalog (Kind)
open Record (Row)

section Results

variable (c : Client) (ctx : Context) (name : String) (s : Session)

/-! ## Values behind results -/

/-- The items of a listing are written of values of the kind's type. -/
theorem exists_values_of_listing {k : Kind} {items : List Json}
    (h : (listing c ctx s k).1 = .ok items) :
    ∃ vs : List k.itemType.Value, items = vs.map Row.toJson := by
  cases k with
  | versioned k => exact exists_of_fst_carried h
  | services => exact exists_of_fst_carried h
  | versions => exact exists_of_fst_carried h
  | tokens => exact exists_of_fst_carried h
  | users =>
    unfold listing at h
    dsimp only at h
    -- the users of the given customer, or of the customer of the user whom the key belongs to
    split at h
    · exact exists_of_fst_carried h
    · split at h
      · cases h
      · split at h
        · split at h
          · cases h
          · exact exists_of_fst_carried h
        · cases h

/-- The item that is fetched is written of a value of the kind's type. -/
theorem exists_value_of_fetching {k : Kind} {item : Json}
    (h : (fetching c ctx name s k).1 = .ok item) : ∃ v : k.itemType.Value, item = v.toJson := by
  cases k with
  | versioned k => exact exists_of_fst_carried h
  | services => exact exists_of_fst_carried h
  | versions =>
    unfold fetching at h
    dsimp only at h
    split at h
    · exact exists_of_fst_carried h
    · cases h
  | tokens =>
    unfold fetching at h
    dsimp only at h
    split at h
    · exact exists_of_fst_carried h
    · cases h
  | users =>
    unfold fetching at h
    dsimp only at h
    split at h
    · exact exists_of_fst_carried h
    · exact exists_of_fst_carried h

/-! ## Results by key -/

/-- Whatever the server says, and under whatever key a listing or a fetch succeeds, its results are
written of values of the type of a kind, and every column of the kind has its value in them. -/
theorem results_haveColumns (key : String) :
    (∀ items, ((list c ctx key).run.run s).1 = .ok items →
      ∃ k, Kind.ofKey? key = some k ∧ ∀ item ∈ items,
        (∃ v : k.itemType.Value, item = v.toJson) ∧ k.HasColumns item) ∧
    (∀ item, ((get c ctx key name).run.run s).1 = .ok item →
      ∃ k, Kind.ofKey? key = some k ∧
        (∃ v : k.itemType.Value, item = v.toJson) ∧ k.HasColumns item) ∧
    ∀ (k : Kind) (v : k.itemType.Value), k.HasColumns v.toJson := by
  refine ⟨fun items h => ?_, fun item h => ?_, Kind.hasColumns_toJson⟩
  · obtain ⟨k, said, hk, hsaid, hitems⟩ := (list_dispatches c ctx s key).exists_kind h
    obtain rfl := Option.some.inj hsaid
    obtain ⟨vs, rfl⟩ := exists_values_of_listing c ctx s hitems
    refine ⟨k, hk, fun item hitem => ?_⟩
    obtain ⟨v, -, rfl⟩ := List.mem_map.mp hitem
    exact ⟨⟨v, rfl⟩, k.hasColumns_toJson v⟩
  · obtain ⟨k, said, hk, hsaid, hitem⟩ := (get_dispatches c ctx name s key).exists_kind h
    obtain rfl := Option.some.inj hsaid
    obtain ⟨v, rfl⟩ := exists_value_of_fetching c ctx name s hitem
    exact ⟨k, hk, ⟨v, rfl⟩, k.hasColumns_toJson v⟩

end Results

end EdgeConsole.Console
