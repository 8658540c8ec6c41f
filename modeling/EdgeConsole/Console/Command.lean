import EdgeConsole.Api.Service
import EdgeConsole.Console.Options

/-!
# Commands

A command line is a command with its words, and options on either side of it. A `Query` is a command
that has to ask the API; the others need no client.

Main definitions: `Draft.take?`, `Invocation.read`.
-/

namespace EdgeConsole.Console

open Api (VersionAction)

/-- A command that asks the API. -/
inductive Query
  | list (key : String)
  | get (key name : String)
  | delete (key name : String)
  | versions
  | act (action : VersionAction) (version : UInt32)
  | validate (version : UInt32)
  | summary (version? : Option UInt32)
deriving DecidableEq, Repr

/-- A command. -/
inductive Command
  /-- Shows the kinds. -/
  | kinds
  /-- Makes a service the one that is used when none is named. -/
  | useService (id : String)
  | ask (q : Query)
deriving DecidableEq, Repr

/-! ## Words -/

/-- A command as far as its words are read: it is ready, or still takes a word. -/
inductive Draft
  | ready (c : Command)
  | useService
  | list
  | get
  | getOf (key : String)
  | delete
  | deleteOf (key : String)
  | act (action : VersionAction)
  | validate
  /-- A summary takes the number of a version, or none. -/
  | summary
deriving DecidableEq, Repr

namespace Draft

/-- The names of the commands. -/
def named : List (String × Draft) :=
  [("kinds", .ready .kinds), ("list", .list), ("get", .get), ("delete", .delete),
   ("versions", .ready (.ask .versions)), ("activate", .act .activate),
   ("deactivate", .act .deactivate), ("clone", .act .clone), ("lock", .act .lock),
   ("validate", .validate), ("summary", .summary), ("use-service", .useService)]

/-- Takes the next word. -/
def take? (d : Draft) (word : String) : Option Draft :=
  match d with
  | .ready _ => none
  | .useService => some (.ready (.useService word))
  | .list => some (.ready (.ask (.list word)))
  | .get => some (.getOf word)
  | .getOf key => some (.ready (.ask (.get key word)))
  | .delete => some (.deleteOf word)
  | .deleteOf key => some (.ready (.ask (.delete key word)))
  | .act action => (wordOf? word).map fun n => .ready (.ask (.act action n))
  | .validate => (wordOf? word).map fun n => .ready (.ask (.validate n))
  | .summary => (wordOf? word).map fun n => .ready (.ask (.summary (some n)))

/-- The command, once its words are complete. -/
def command? : Draft → Option Command
  | .ready c => some c
  | .summary => some (.ask (.summary none))
  | _ => none

/-- The command that words complete. -/
def complete (d : Draft) : List String → Except Halt Command
  | [] =>
    match d.command? with
    | some c => .ok c
    | none => .error .misuse
  | word :: rest =>
    match d.take? word with
    | some d => d.complete rest
    | none => .error .misuse

end Draft

/-! ## Command lines -/

/-- Reads the arguments after the name of a command, each as soon as it is met. -/
def readWords (p : Progress) (d : Draft) : List String → Except Halt (Options × Command)
  | [] => do
    let options ← p.finish
    return (options, ← d.complete [])
  | a :: rest => do
    match ← p.step a with
    | .more p => readWords p d rest
    | .word w =>
      let options ← p.settle
      match d.take? w with
      | some d => readWords { options } d rest
      | none => throw .misuse
    | .separator => return (← p.settle, ← d.complete rest)
    | .version => throw .misuse

/-- Reads the arguments up to the name of a command: the options, the name, and what follows. -/
def readName (p : Progress) : List String → Except Halt (Progress × String × List String)
  | [] => throw .misuse
  | a :: rest => do
    match ← p.step a with
    | .more p => readName p rest
    | .word name => return (p, name, rest)
    | .separator => throw .misuse
    | .version => throw .version

/-- The name of the command that shows how the program is used. -/
def helpName : String := "help"

/-- What asking for help comes to: help on the program, or on one command that exists. -/
def helpOn : List String → Halt
  | [] => .help
  | [name] => if name = helpName ∨ (Draft.named.lookup name).isSome then .help else .misuse
  | _ => .misuse

/-- A command with its options. -/
structure Invocation where
  options : Options
  command : Command
deriving DecidableEq, Repr

/-- Reads a command line. A value that is held back in front of the command is looked at after the
command, so it does not stand in the way of a help on that. -/
def Invocation.read (arguments : List String) : Except Halt Invocation := do
  let (outer, name, rest) ← readName {} arguments
  if name = helpName then throw (helpOn rest)
  match Draft.named.lookup name with
  | some draft =>
    let (inner, command) ← readWords {} draft rest
    return ⟨inner.orElse (← outer.finish), command⟩
  | none => throw .misuse

end EdgeConsole.Console
