import EdgeConsole.Console.Dispatch
import EdgeConsole.Proofs.Api.Signature

/-!
# Errands with another key

An errand does nothing with a client but use it, so two clients that differ in their keys carry it
out as one process with either key. There is one lemma for each errand, and it follows the steps of
its definition. A step that looked at the key could have no such lemma.
-/

namespace EdgeConsole.Console

open Access (ApiKey)
open Api
open Catalog (Kind)
open Record (Row)

variable {α : Type} (c : Client) (k' : ApiKey) (ctx : Context)

theorem goesAlike_ask (p : Prepared α) :
    GoesAlike c.key k' (ask c p).run (ask (c.signed k') p).run := by
  change GoesAlike c.key k' ((c.run p).run >>= fun result => pure (result.mapError Problem.api))
    (((c.signed k').run p).run >>= fun result => pure (result.mapError Problem.api))
  exact (goesAlike_run c k' p).bind fun result => goesAlike_pure _

section Rows

variable {κ : Type} [Record.WritableKind κ] {schema : Record.Schema κ}

theorem goesAlike_askItem (p : Prepared schema.Value) :
    GoesAlike c.key k' (askItem c p).run (askItem (c.signed k') p).run :=
  (goesAlike_ask c k' p).bindExcept fun v => goesAlike_result (.ok v.toJson)

theorem goesAlike_askItems (p : Prepared (List schema.Value)) :
    GoesAlike c.key k' (askItems c p).run (askItems (c.signed k') p).run :=
  (goesAlike_ask c k' p).bindExcept fun vs => goesAlike_result (.ok (vs.map Row.toJson))

end Rows

theorem goesAlike_customerOf :
    GoesAlike c.key k' (customerOf c ctx).run (customerOf (c.signed k') ctx).run := by
  unfold customerOf
  cases ctx.customer? with
  | some customer => exact goesAlike_result (.ok customer)
  | none =>
    refine (goesAlike_ask c k' getCurrentUser).bindExcept fun user => ?_
    cases (Resource.User.customer? user).filter (!·.isEmpty) with
    | some customer => exact goesAlike_result (.ok customer)
    | none => exact goesAlike_result (.error Problem.noCustomer)

theorem goesAlike_list (key : String) :
    GoesAlike c.key k' (list c ctx key).run (list (c.signed k') ctx key).run := by
  unfold list
  refine (goesAlike_result (lookup key .list)).bindExcept fun _ => ?_
  refine (goesAlike_note _ _).lift.bindExcept fun _ => ?_
  cases versionedWords.lookup key with
  | some k => exact goesAlike_askItems c k' _
  | none =>
    dsimp only
    split
    · exact goesAlike_askItems c k' _
    · exact goesAlike_askItems c k' _
    · exact goesAlike_askItems c k' _
    · exact (goesAlike_customerOf c k' ctx).bindExcept fun customer => goesAlike_askItems c k' _
    · exact goesAlike_result (.error (Problem.noOperation .list key))

theorem goesAlike_get (key name : String) :
    GoesAlike c.key k' (get c ctx key name).run (get (c.signed k') ctx key name).run := by
  unfold get
  refine (goesAlike_result (lookup key .get)).bindExcept fun definition => ?_
  refine (goesAlike_note _ _).lift.bindExcept fun _ => ?_
  cases versionedWords.lookup key with
  | some k => exact goesAlike_askItem c k' _
  | none =>
    dsimp only
    split
    · exact goesAlike_askItem c k' _
    · split
      · exact goesAlike_result (.error _)
      · exact goesAlike_askItem c k' _
    · split
      · exact goesAlike_askItem c k' _
      · exact goesAlike_result (.error _)
    · exact goesAlike_askItem c k' _
    · exact goesAlike_result (.error (Problem.noOperation .get key))

theorem goesAlike_delete (key name : String) :
    GoesAlike c.key k' (delete c ctx key name).run (delete (c.signed k') ctx key name).run := by
  unfold delete
  refine (goesAlike_result (lookup key .delete)).bindExcept fun definition => ?_
  refine (goesAlike_note _ _).lift.bindExcept fun _ => ?_
  cases versionedWords.lookup key with
  | some k => exact goesAlike_ask c k' _
  | none =>
    dsimp only
    split
    · exact goesAlike_ask c k' _
    · exact goesAlike_ask c k' _
    · exact goesAlike_ask c k' _
    · exact goesAlike_result (.error (Problem.noOperation .delete key))

theorem goesAlike_summary (kinds : List Kind) :
    GoesAlike c.key k' (summary c ctx kinds) (summary (c.signed k') ctx kinds) := by
  induction kinds with
  | nil => exact goesAlike_pure []
  | cons kind kinds ih =>
    exact (goesAlike_list c k' ctx kind.key).bind fun result =>
      ih.bind fun rest => goesAlike_pure ((kind, result) :: rest)

theorem goesAlike_withVersion (key : String) :
    GoesAlike c.key k' (withVersion c ctx key).run (withVersion (c.signed k') ctx key).run := by
  unfold withVersion
  split
  · split
    · exact goesAlike_result (.ok ctx)
    · refine (goesAlike_ask c k' (listVersions ctx.service)).bindExcept fun versions => ?_
      cases preferred? versions with
      | none => exact goesAlike_result (.error (Problem.noVersions ctx.service))
      | some v => exact (goesAlike_note _ _).lift.bindExcept fun _ => goesAlike_result (.ok _)
  · exact goesAlike_result (.ok ctx)

end EdgeConsole.Console
