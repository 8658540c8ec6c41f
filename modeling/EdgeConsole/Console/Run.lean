import EdgeConsole.Console.Report
import EdgeConsole.Settings.Config

/-!
# Running the console

From a command line to what the program prints and its exit code. Settings come from the disk, and
only making a service the usual one writes to it. Zero is the code of success, one that of a
problem, and two that of a command line that makes no sense.

Main definitions: `connect`, `Invocation.run`, `console`.
-/

namespace EdgeConsole.Console

open Access (Environment)
open Api (Client Server Session)
open Catalog (Kind)
open Settings (Config Disk)

/-- What a run leaves behind. -/
structure Outcome where
  code : UInt8
  out : String
  err : String
deriving DecidableEq, Repr

namespace Outcome

/-- A run that shows something. -/
def success (out : String) : Outcome := ⟨0, out, ""⟩

/-- A run that ends with a problem. -/
def failure (account : String) : Outcome := ⟨1, "", line ("Error: " ++ account)⟩

end Outcome

/-! ## The kinds -/

/-- A text filled up with blanks. -/
def padded (width : Nat) (s : String) : String :=
  s ++ String.ofList (List.replicate (width - s.toList.length) ' ')

/-- The line on a kind. -/
def kindLine (kind : Kind) : String :=
  let d := kind.definition
  line (padded 22 kind.key ++ " " ++ padded 28 d.displayName ++ " " ++ padded 10 d.scope.label ++
    " by " ++ d.itemField)

/-- The lines on all kinds. -/
def kindLines : String := String.join (Kind.all.map kindLine)

/-! ## Setting up -/

/-- The wording of a problem that keeps the console from asking the API, with its cause below it. -/
def setupAccount (p : Problem) : String :=
  match p with
  | .api (.endpoint fault) => p.message ++ "\n\nCaused by:\n    " ++ fault.message
  | _ => p.message

/-- The client for the key and the endpoint in effect. -/
def connect (config : Config) (env : Environment) (o : Options) : Except Problem Client :=
  match config.effectiveKey? env o.apiKey? with
  | .error .malformedKey => .error .malformedKey
  | .ok none => .error .noKey
  | .ok (some key) =>
    (Client.of? key.text (config.effectiveEndpoint env o.endpoint?)).mapError .api

/-- The identifiers in effect. -/
def contextOf (config : Config) (o : Options) : Context where
  service? := config.effectiveService? o.service?
  version? := o.number?
  customer? := o.customer?

/-! ## Runs -/

/-- Carries out a query. -/
def runQuery (config : Config) (env : Environment) (o : Options) (q : Query) (s : Session) :
    Outcome × Session :=
  match connect config env o with
  | .error p => (.failure (setupAccount p), s)
  | .ok c =>
    match (report c (contextOf config o) (o.output?.getD .table) q).run.run s with
    | (.ok out, s) => (.success out, s)
    | (.error p, s) => (.failure p.explanation, s)

/-- Carries out a command. -/
def Invocation.run (i : Invocation) (env : Environment) (d : Disk) (s : Session) :
    Outcome × Disk × Session :=
  let config := Config.load d Config.defaultPath
  match i.command with
  | .kinds => (.success kindLines, d, s)
  | .useService id =>
    match config.setService id d with
    | (_, true, d) => (.success (line ("Default service set to " ++ id)), d, s)
    | (_, false, d) => (.failure Problem.unsaved.message, d, s)
  | .ask q =>
    let (outcome, s) := runQuery config env i.options q s
    (outcome, d, s)

/-- The line that names the program and its release. -/
def versionLine : String := line "fastly-mgmt 0.2.1"

/-- The line that shows how the program is used. -/
def usageLine : String := line "Usage: fastly-mgmt [OPTIONS] <COMMAND>"

/-- What is printed instead of carrying out a command. -/
def Halt.outcome : Halt → Outcome
  | .misuse => ⟨2, "", usageLine⟩
  | .help => .success usageLine
  | .version => .success versionLine

/-- Runs the program. -/
def console (arguments : List String) (env : Environment) (d : Disk) (server : Server) :
    Outcome × Disk × Session :=
  match Invocation.read arguments with
  | .ok i => i.run env d (.start server)
  | .error halt => (halt.outcome, d, .start server)

end EdgeConsole.Console
