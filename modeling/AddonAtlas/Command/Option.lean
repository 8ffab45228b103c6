import AddonAtlas.Number.Reading
import AddonAtlas.Run.Basic

/-!
# Options of the command

The command takes options only. A long option may be shortened as long as it stays clear which one
is meant, its value stands behind an equals sign or in the next argument, and short options without
values may share a dash.
-/

namespace AddonAtlas.Command

open Number Text

/-- The options. -/
inductive Switch
  | help
  | verbose
  | workspace
  | repository
  | repositoryPath
  | outputFolder
  | workers
  deriving DecidableEq, Repr

namespace Switch

/-- All options, in the order in which they are listed. -/
def all : List Switch :=
  [.help, .verbose, .workspace, .repository, .repositoryPath, .outputFolder, .workers]

/-- The names of an option. -/
def names : Switch → List String
  | .help => ["-h", "--help"]
  | .verbose => ["-v", "--verbose"]
  | .workspace => ["--workspace"]
  | .repository => ["--repo"]
  | .repositoryPath => ["--repo-path"]
  | .outputFolder => ["--output-dir"]
  | .workers => ["--workers"]

/-- Does the option take a value? -/
def takesValue : Switch → Bool
  | .help | .verbose => false
  | _ => true

/-- The option as it is called in messages. -/
def label (switch : Switch) : String :=
  "/".intercalate switch.names

/-- All names with their options. -/
def table : List (String × Switch) :=
  all.flatMap fun switch => switch.names.map fun name => (name, switch)

/-- The option whose name is one letter. -/
def ofLetter? (letter : Char) : Option Switch :=
  table.lookup (String.ofList ['-', letter])

end Switch

/-- What the options of a call ask for. -/
structure Options where
  verbose : Bool := false
  workspace : String := "."
  repository : String := "odoo"
  repositoryPath : Option String := none
  outputFolder : Option String := none
  workers : Option Int := none
  deriving DecidableEq, Repr

/-- The run that the options ask for. -/
def Options.request (options : Options) : Run.Request where
  workspace := options.workspace
  repository := options.repository
  repositoryPath := options.repositoryPath
  outputFolder := options.outputFolder
  workers := options.workers

/-- Why the arguments of a call are refused. -/
inductive Fault
  /-- A shortened name could be several ones. -/
  | ambiguous (text : String) (names : List String)
  | noValue (switch : Switch)
  /-- An option that takes no value has one. -/
  | needlessValue (switch : Switch) (value : String)
  | noNumber (switch : Switch) (value : String)
  /-- Some arguments are no options. -/
  | unrecognized (texts : List String)
  deriving DecidableEq, Repr

/-- The wording of a fault. -/
def Fault.message : Fault → String
  | .ambiguous text names =>
    "ambiguous option: " ++ text ++ " could match " ++ ", ".intercalate names
  | .noValue switch => "argument " ++ switch.label ++ ": expected one argument"
  | .needlessValue switch value =>
    "argument " ++ switch.label ++ ": ignored explicit argument " ++ quoted value
  | .noNumber switch value =>
    "argument " ++ switch.label ++ ": invalid int value: " ++ quoted value
  | .unrecognized texts => "unrecognized arguments: " ++ " ".intercalate texts

/-! ## Arguments one by one -/

/-- What an argument is. -/
inductive Argument
  /-- The value of an option, or one that stands alone. -/
  | value (text : String)
  /-- The sign after which all arguments are values. -/
  | divider
  | option (name : String) (switch : Switch) (attached : Option String)
  /-- An option that is unknown. -/
  | unknown (text : String)
  deriving DecidableEq, Repr

/-- The sign after which all arguments are values. -/
def dividerText : String := "--"

/-- A text in two at its first equals sign. -/
def splitEquals? (text : String) : Option (String × String) :=
  match text.toList.span (· != '=') with
  | (name, _ :: value) => some (.ofList name, .ofList value)
  | _ => none

/-- Does the text read as a number below zero? -/
def isNegativeNumber (text : String) : Bool :=
  let isDigit (c : Char) : Bool := (digitValue? c).isSome
  match text.toList with
  | '-' :: rest =>
    let rest := if rest.getLast? == some '\n' then rest.dropLast else rest
    match rest.span isDigit with
    | (whole, []) => !whole.isEmpty
    | (_, '.' :: part) => !part.isEmpty && part.all isDigit
    | _ => false
  | _ => false

/-- The options that a text with a dash may stand for. -/
def candidates (text : String) : List Argument :=
  if text.startsWith "--" then
    let (name, attached) := match splitEquals? text with
      | some (name, value) => (name, some value)
      | none => (text, none)
    (Switch.table.filter (·.1.startsWith name)).map fun (full, switch) =>
      .option full switch attached
  else
    match text.toList with
    | dash :: letter :: rest =>
      (Switch.ofLetter? letter).toList.map fun switch =>
        .option (.ofList [dash, letter]) switch (some (.ofList rest))
    | _ => []

/-- The name of an option. -/
def Argument.name : Argument → String
  | .option name _ _ => name
  | _ => ""

/-- The option that a text names in full, with a value behind an equals sign or without. -/
def named? (text : String) : Option Argument :=
  match Switch.table.lookup text with
  | some switch => some (.option text switch none)
  | none => do
    let (name, value) ← splitEquals? text
    return .option name (← Switch.table.lookup name) (some value)

/-- What an argument is. -/
def classify (text : String) : Except Fault Argument :=
  if !text.startsWith "-" || text == "-" then .ok (.value text)
  else
    match named? text with
    | some argument => .ok argument
    | none =>
      match candidates text with
      | [argument] => .ok argument
      | [] =>
        if isNegativeNumber text || text.contains ' ' then .ok (.value text)
        else .ok (.unknown text)
      | several => .error (.ambiguous text (several.map (·.name)))

/-- What the arguments of a call are. -/
def arguments : List String → Except Fault (List Argument)
  | [] => .ok []
  | text :: rest =>
    if text == dividerText then .ok (.divider :: rest.map .value)
    else do
      let argument ← classify text
      return argument :: (← arguments rest)

/-! ## Options -/

/-- What a call asks for. -/
inductive Call
  | help
  | run (options : Options)
  deriving DecidableEq, Repr

/-- Sets an option that takes a value. -/
def Options.set (options : Options) (switch : Switch) (value : String) : Except Fault Options :=
  match switch with
  | .workspace => .ok { options with workspace := value }
  | .repository => .ok { options with repository := value }
  | .repositoryPath => .ok { options with repositoryPath := some value }
  | .outputFolder => .ok { options with outputFolder := some value }
  | .workers =>
    match readInt value with
    | .ok n => .ok { options with workers := some n }
    | .error _ => .error (.noNumber switch value)
  | .help | .verbose => .error (.needlessValue switch value)

/-- The short options that share a dash: the first one and those of the letters after it. -/
def shared (switch : Switch) : List Char → Except Fault (List Switch)
  | [] => .ok [switch]
  | letter :: rest =>
    match Switch.ofLetter? letter with
    | some next => return switch :: (← shared next rest)
    | none => .error (.needlessValue switch (.ofList (letter :: rest)))

/-- The options without values that one argument sets. -/
def plainSwitches (name : String) (switch : Switch) : Option String → Except Fault (List Switch)
  | none => .ok [switch]
  | some value =>
    if name.startsWith "--" || value == "" then .error (.needlessValue switch value)
    else shared switch value.toList

/-- What some arguments ask for, after `options` and the arguments that are no options, last one
first. Help is given as soon as it is asked for. -/
def callFrom (options : Options) (others : List String) : List Argument → Except Fault Call
  | [] => if others.isEmpty then .ok (.run options) else .error (.unrecognized others.reverse)
  | .value text :: rest => callFrom options (text :: others) rest
  | .divider :: rest => callFrom options (dividerText :: others) rest
  | .unknown text :: rest => callFrom options (text :: others) rest
  | .option name switch attached :: rest =>
    if switch.takesValue then
      match attached, rest with
      | some value, rest => do callFrom (← options.set switch value) others rest
      | none, .value value :: rest => do callFrom (← options.set switch value) others rest
      | none, _ => .error (.noValue switch)
    else do
      if (← plainSwitches name switch attached).contains .help then return .help
      callFrom { options with verbose := true } others rest

/-- What a call asks for. -/
def call (texts : List String) : Except Fault Call := do
  callFrom {} [] (← arguments texts)

end AddonAtlas.Command
