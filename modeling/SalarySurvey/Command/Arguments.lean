import SalarySurvey.Number.Numeral

/-!
# The arguments of the command line

An option has a long name behind two dashes, and most have a letter behind one dash too. The value
of an option follows behind an equals sign, as the next argument, or right behind the letter; an
argument that begins with a dash is no value, except the single dash. No option may be given
twice, no other arguments are accepted, and two dashes end the options. Arguments are read in
order, so that a request for the help text or the version counts unless there was a fault before
it.
-/
namespace SalarySurvey.Command

/-- What the command line asks for. -/
structure Arguments where
  /-- The path of a file of settings. -/
  config : Option String := none
  /-- The host to listen on. -/
  host : Option String := none
  /-- The port to listen on. -/
  port : Option UInt16 := none
  /-- The path of the survey. -/
  dataset : Option String := none
  /-- Whether to print a file with the default settings. -/
  printConfig : Bool := false
  deriving DecidableEq

/-- An option with a value. -/
inductive ValueOption where
  /-- The path of a file of settings. -/
  | config
  /-- The host to listen on. -/
  | host
  /-- The port to listen on. -/
  | port
  /-- The path of the survey. -/
  | dataset
  deriving DecidableEq

/-- Why the arguments are not read to their end. -/
inductive Stop where
  /-- They are at fault. -/
  | misused
  /-- They ask for the help text. -/
  | help
  /-- They ask for the version. -/
  | version
  deriving DecidableEq

namespace Arguments

/-- A port number. -/
def port? (text : String) : Option UInt16 := do
  let n ← Numeral.integer? text.toList
  if 0 ≤ n ∧ n < 65536 then some (UInt16.ofNat n.toNat) else none

/-- A path, which is not empty. -/
def path? (text : String) : Option String :=
  if text = "" then none else some text

/-- A setting that is given for the first time. -/
def once {α : Type} (current found : Option α) : Except Stop (Option α) :=
  if current.isNone && found.isSome then .ok found else .error .misused

/-- Arguments with the value of an option. -/
def set (arguments : Arguments) (option : ValueOption) (value : String) :
    Except Stop Arguments :=
  match option with
  | .config =>
    (once arguments.config (path? value)).map fun config => { arguments with config }
  | .host => (once arguments.host (some value)).map fun host => { arguments with host }
  | .port => (once arguments.port (port? value)).map fun port => { arguments with port }
  | .dataset =>
    (once arguments.dataset (path? value)).map fun dataset => { arguments with dataset }

/-- An option without a value. -/
def setFlag (arguments : Arguments) (name : String) : Except Stop Arguments :=
  if name = "help" then .error .help
  else if name = "version" then .error .version
  else if name = "print-config" ∧ !arguments.printConfig then
    .ok { arguments with printConfig := true }
  else .error .misused

/-- The option of a long name that has a value. -/
def longOption? (name : String) : Option ValueOption :=
  [("config", ValueOption.config), ("host", .host), ("port", .port),
   ("dataset", .dataset)].lookup name

/-- The option of a letter that has a value. -/
def shortOption? (letter : Char) : Option ValueOption :=
  [('c', ValueOption.config), ('p', .port), ('d', .dataset)].lookup letter

/-- Arguments that may wait for the value of an option. -/
abbrev Reading := Arguments × Option ValueOption

/-- An argument behind two dashes. -/
def readLong (arguments : Arguments) (text : List Char) : Except Stop Reading :=
  let name := String.ofList (text.takeWhile (· != '='))
  match longOption? name, text.dropWhile (· != '=') with
  | some option, [] => .ok (arguments, some option)
  | some option, _ :: value =>
    (arguments.set option (String.ofList value)).map fun arguments => (arguments, none)
  | none, [] => (arguments.setFlag name).map fun arguments => (arguments, none)
  | none, _ :: _ => .error .misused

/-- An argument behind one dash. -/
def readShort (arguments : Arguments) (letter : Char) (text : List Char) :
    Except Stop Reading :=
  match shortOption? letter, text with
  | some option, [] => .ok (arguments, some option)
  | some option, c :: rest =>
    let value := if c = '=' then rest else c :: rest
    (arguments.set option (String.ofList value)).map fun arguments => (arguments, none)
  | none, _ =>
    if letter = 'h' then .error .help
    else if letter = 'V' then .error .version
    else .error .misused

/-- The arguments from one on, with those before it and the option that waits for its value. -/
def readFrom : Reading → List String → Except Stop Arguments
  | (arguments, none), [] => .ok arguments
  | (_, some _), [] => .error .misused
  | (arguments, pending), text :: rest =>
    match pending, text.toList with
    | none, ['-', '-'] => if rest.isEmpty then .ok arguments else .error .misused
    | none, '-' :: '-' :: name => do readFrom (← readLong arguments name) rest
    | none, '-' :: letter :: more => do readFrom (← readShort arguments letter more) rest
    | none, _ => .error .misused
    | some _, '-' :: _ :: _ => .error .misused
    | some option, _ => do readFrom (← arguments.set option text, none) rest

/-- The arguments of a command line. -/
def read (texts : List String) : Except Stop Arguments :=
  readFrom ({}, none) texts

end Arguments

/-- The help text. -/
def helpText : String :=
  "Salary survey query service

Usage: compensation-api [OPTIONS]

Options:
  -c, --config <CONFIG>    Path to a TOML config file
      --host <HOST>        Host to bind to
  -p, --port <PORT>        Port to listen on
  -d, --dataset <DATASET>  CSV dataset to load
      --print-config       Print a default config file and exit
  -h, --help               Print help
  -V, --version            Print version
"

end SalarySurvey.Command
