import EdgeConsole.Api.Exchange
import EdgeConsole.Number.Natural
import EdgeConsole.View.Render

/-!
# Options

The options of the command line, which every command takes. An option stands before the command or
after it, with its value in the same argument or in the next; it is given at most once on either
side. An argument is told by its dashes: two of them lead a long name, one a letter, and two alone
end the options.

Main definitions: `Options.set?`, `Argument.of`, `Progress.step`.
-/

namespace EdgeConsole.Console

open View (Format)

/-- An option. -/
inductive OptionName
  | apiKey
  | endpoint
  | service
  | number
  | customer
  | output
  | logLevel
deriving DecidableEq, Repr

namespace OptionName

/-- The options by their long names. -/
def long : List (String × OptionName) :=
  [("api-key", .apiKey), ("endpoint", .endpoint), ("service", .service), ("number", .number),
   ("customer", .customer), ("output", .output), ("log-level", .logLevel)]

/-- The options by their letters. -/
def short : List (Char × OptionName) :=
  [('s', .service), ('n', .number), ('o', .output)]

end OptionName

/-- Which events go to the log. -/
inductive Verbosity
  | off
  | upTo (l : Api.Level)
deriving DecidableEq, Repr

/-- The verbosities by name. -/
def Verbosity.named : List (String × Verbosity) :=
  [("off", .off), ("error", .upTo .error), ("warn", .upTo .warn), ("info", .upTo .info),
   ("debug", .upTo .debug), ("trace", .upTo .trace)]

/-- The forms of output by name. -/
def outputNames : List (String × Format) :=
  [("table", .table), ("json", .json), ("yaml", .yaml)]

/-! ## Values -/

/-- A number on the command line: a number of 32 bits, or a zero with a minus sign. -/
def wordOf? (s : String) : Option UInt32 :=
  match s.toList with
  | '-' :: c :: digits => (Number.readDigits 1 0 (c :: digits)).toOption.map UInt32.ofNat
  | _ => (Number.readWord32 s).toOption

/-- The values of options. -/
structure Options where
  apiKey? : Option String := none
  endpoint? : Option String := none
  service? : Option String := none
  number? : Option UInt32 := none
  customer? : Option String := none
  output? : Option Format := none
  logLevel? : Option Verbosity := none
deriving DecidableEq, Repr

namespace Options

/-- A value for what has none. -/
def fill? (old? : Option α) (value? : Option α) : Option (Option α) :=
  match old? with
  | some _ => none
  | none => value?.map some

/-- Gives an option a value. It must not have one yet, and the text has to be a value of it. -/
def set? (o : Options) (name : OptionName) (s : String) : Option Options :=
  match name with
  | .apiKey => (fill? o.apiKey? (some s)).map fun v => { o with apiKey? := v }
  | .endpoint => (fill? o.endpoint? (some s)).map fun v => { o with endpoint? := v }
  | .service => (fill? o.service? (some s)).map fun v => { o with service? := v }
  | .number => (fill? o.number? (wordOf? s)).map fun v => { o with number? := v }
  | .customer => (fill? o.customer? (some s)).map fun v => { o with customer? := v }
  | .output => (fill? o.output? (outputNames.lookup s)).map fun v => { o with output? := v }
  | .logLevel =>
    (fill? o.logLevel? (Verbosity.named.lookup s)).map fun v => { o with logLevel? := v }

/-- The options of a command, and otherwise those that stand before it. -/
def orElse (inner outer : Options) : Options where
  apiKey? := inner.apiKey? <|> outer.apiKey?
  endpoint? := inner.endpoint? <|> outer.endpoint?
  service? := inner.service? <|> outer.service?
  number? := inner.number? <|> outer.number?
  customer? := inner.customer? <|> outer.customer?
  output? := inner.output? <|> outer.output?
  logLevel? := inner.logLevel? <|> outer.logLevel?

end Options

/-! ## Arguments -/

/-- What an argument is where options may stand. -/
inductive Argument
  /-- An option with its value. -/
  | given (name : OptionName) (value : String)
  /-- An option whose value is the next argument. -/
  | awaiting (name : OptionName)
  | help
  | version
  /-- The end of the options. -/
  | separator
  | word (s : String)
  /-- Dashes before something that is no option. -/
  | unknown
deriving DecidableEq, Repr

namespace Argument

/-- An argument with a long name and perhaps a value after it. -/
def ofLong (name : String) (value? : Option String) : Argument :=
  match OptionName.long.lookup name, value? with
  | some o, some value => .given o value
  | some o, none => .awaiting o
  | none, none => if name = "help" then .help else if name = "version" then .version else .unknown
  | none, some _ => .unknown

/-- An argument with a letter and what follows it. -/
def ofShort (letter : Char) (rest : List Char) : Argument :=
  match OptionName.short.lookup letter, rest with
  | some o, [] => .awaiting o
  | some o, '=' :: value => .given o (String.ofList value)
  | some o, value => .given o (String.ofList value)
  | none, _ => if letter = 'h' then .help else if letter = 'V' then .version else .unknown

/-- The text after an equals sign. -/
def valueAfter? : List Char → Option String
  | [] => none
  | _ :: value => some (String.ofList value)

/-- Tells an argument by its dashes. -/
def of (s : String) : Argument :=
  match s.toList with
  | ['-', '-'] => .separator
  | '-' :: '-' :: cs =>
    ofLong (String.ofList (cs.takeWhile (· != '='))) (valueAfter? (cs.dropWhile (· != '=')))
  | '-' :: letter :: rest => ofShort letter rest
  | _ => .word s

end Argument

/-! ## Reading step by step -/

/-- Why a command line names no command to carry out. -/
inductive Halt
  | misuse
  | help
  | version
deriving DecidableEq, Repr

/-- The options read so far, the one whose value comes next, and the one whose value has come in an
argument of its own. Such a value is held back, and looked at when the next argument calls for it. -/
structure Progress where
  options : Options := {}
  awaited? : Option OptionName := none
  held? : Option (OptionName × String) := none
deriving DecidableEq, Repr

/-- What an argument leads to. -/
inductive Step
  | more (p : Progress)
  | word (s : String)
  | separator
  | version
deriving DecidableEq, Repr

namespace Progress

/-- Gives an option its value. -/
def give (options : Options) (name : OptionName) (value : String) : Except Halt Options :=
  match options.set? name value with
  | some options => .ok options
  | none => .error .misuse

/-- The options with the value that is held back. -/
def settle (p : Progress) : Except Halt Options :=
  match p.held? with
  | some (name, value) => give p.options name value
  | none => .ok p.options

/-- Reads one argument. Only a word can be an awaited value, and only a word leaves open what is
held back. -/
def step (p : Progress) (argument : String) : Except Halt Step :=
  match p.awaited?, Argument.of argument with
  | some name, .word value => .ok (.more ⟨p.options, none, some (name, value)⟩)
  | some _, _ => .error .misuse
  | none, .word s => .ok (.word s)
  | none, argument => do
    let options ← p.settle
    match argument with
    | .given name value => return .more { options := ← give options name value }
    | .awaiting name => return .more { options, awaited? := some name }
    | .help => throw .help
    | .version => return .version
    | .separator => return .separator
    | _ => throw .misuse

/-- The options at the end of the arguments; no value may still be awaited. -/
def finish (p : Progress) : Except Halt Options :=
  match p.awaited? with
  | some _ => .error .misuse
  | none => p.settle

end Progress

end EdgeConsole.Console
