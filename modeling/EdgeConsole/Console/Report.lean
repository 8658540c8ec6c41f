import EdgeConsole.Console.Command
import EdgeConsole.Console.Dispatch
import EdgeConsole.View.Render

/-!
# Reports

What a query shows when it succeeds: a list or an item in the form that is asked for, or a few lines
on what was done. A summary shows every kind that has items or a problem, each under a heading.

Main definition: `report`.
-/

namespace EdgeConsole.Console

open Api (Client VersionAction actOnVersion validateVersion)
open Catalog (Kind versionedKinds)
open Resource (Validation Version)
open View (Format)

/-- A line of text. -/
def line (s : String) : String := s ++ "\n"

/-- A number in decimal digits. -/
def digits (n : UInt32) : String := toString n.toNat

/-- A value of the kind with a key, in the form that is asked for. -/
def shown (format : Format) (key : String) (v : Json) : String :=
  line (View.render format ((Kind.ofKey? key).map (·.definition)) v)

/-! ## What was done -/

/-- The report on a deletion. -/
def deletionReport (key name : String) : String :=
  match Kind.ofKey? key with
  | some kind =>
    let d := kind.definition
    line ("Deleted " ++ d.displayName ++ ": " ++ d.itemLabel name)
  | none => line ("Deleted " ++ key ++ " " ++ name)

/-- The report on an action, whose outcome is a version. -/
def actionReport (service : String) (asked : UInt32) (outcome : UInt32) : VersionAction → String
  | .activate => line ("Activated version " ++ digits outcome ++ " of " ++ service)
  | .deactivate => line ("Deactivated version " ++ digits outcome ++ " of " ++ service)
  | .clone => line ("Cloned version " ++ digits asked ++ " into version " ++ digits outcome)
  | .lock => line ("Locked version " ++ digits outcome)

/-- The report on the check of a version. -/
def validationReport (version : UInt32) (v : Validation) : String :=
  let subject := "Version " ++ digits version
  let verdict :=
    if v.isValid then line (subject ++ " is valid")
    else line (subject ++ " is invalid: " ++ v.message?.getD "no message")
  verdict ++ String.join (v.warnings.map fun w => line ("  warning: " ++ w)) ++
    String.join (v.errors.map fun e => line ("  error: " ++ e))

/-- The section of a summary for one kind. -/
def summarySection (format : Format) (kind : Kind) : Except Problem (List Json) → String
  | .ok [] => ""
  | .ok items =>
    let heading := "== " ++ kind.definition.displayName ++ " (" ++ toString items.length ++ ")"
    line heading ++ line (shown format kind.key (.list items))
  | .error p => line (line ("== " ++ kind.definition.displayName ++ ": " ++ p.explanation))

/-! ## Queries -/

/-- Asks the API and reports. A query that works on a version finds out first which one. -/
def report (c : Client) (ctx : Context) (format : Format) : Query → Errand String
  | .list key => do
    let ctx ← withVersion c ctx key
    return shown format key (.list (← list c ctx key))
  | .get key name => do
    let ctx ← withVersion c ctx key
    return shown format key (← get c ctx key name)
  | .delete key name => do
    let ctx ← withVersion c ctx key
    delete c ctx key name
    return deletionReport key name
  | .versions => do
    return shown format Kind.versions.key (.list (← list c ctx Kind.versions.key))
  | .act action version => do
    let v ← ask c (actOnVersion ⟨ctx.service, version⟩ action)
    return actionReport ctx.service version (Version.number v) action
  | .validate version => do
    return validationReport version (← ask c (validateVersion ⟨ctx.service, version⟩))
  | .summary version? => do
    let ctx ← withVersion c { ctx with version? := version? <|> ctx.version? }
      (Kind.versioned .backend).key
    let results ← (summary c ctx versionedKinds : StateM Api.Session _)
    return String.join (results.map fun (kind, result) => summarySection format kind result)

end EdgeConsole.Console
