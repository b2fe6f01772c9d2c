import LineFraming.Settings.File

/-!
# Command line arguments

Two options with a value, two flags that ask about the program, and behind a double dash the
worker with its arguments. The value of an option stands behind an equals sign or is the next
argument. What is wrong with an option shows when the next argument is read, so an argument that
nobody knows wins over a wrong value just before it.

## Main definitions

* `Arguments`: what the command line says.
* `Arguments.parse`, `Arguments.Refusal`: reading the command line, and why it is not taken.
* `Arguments.apply`, `Arguments.settingsPath`: what it means for the settings.
-/

namespace LineFraming

/-- What the command line says. -/
structure Arguments where
  /-- The settings file to read. -/
  config : Option Text := none
  /-- The log filter. -/
  logLevel : Option Text := none
  /-- The worker's command and its arguments. -/
  worker : List Text := []
  deriving DecidableEq

namespace Arguments

/-- Why a command line is not taken. -/
inductive Refusal where
  /-- It asks for help. -/
  | help
  /-- It asks for the version. -/
  | version
  /-- Nobody knows this argument. -/
  | unknown
  /-- An option has no value, or one that it does not take. -/
  | invalidValue
  /-- An option is given twice. -/
  | repeated
  /-- A flag is given a value. -/
  | superfluousValue
  deriving DecidableEq

/-- The words for a refusal. -/
def Refusal.message : Refusal → Text
  | help => "help was asked for".toList
  | version => "the version was asked for".toList
  | unknown => "unexpected argument found".toList
  | invalidValue => "invalid value or missing value for an option".toList
  | repeated => "an option cannot be used several times".toList
  | superfluousValue => "unexpected value for a flag found".toList

/-- The name and the version of the program. -/
def version : Text := "replframe 0.1.0".toList

/-- How the program is used. -/
def help : Text :=
  ("Line-framing console for an interpreter worker\n\n" ++
    "Usage: replframe [OPTIONS] [-- <WORKER>...]\n\n" ++
    "Arguments:\n" ++
    "  [WORKER]...  Worker command and its arguments, after a double dash\n\n" ++
    "Options:\n" ++
    "      --config <PATH>       Config file (default: <config dir>/replframe/config.toml)\n" ++
    "      --log-level <FILTER>  Log filter\n" ++
    "  -h, --help                Print help\n" ++
    "  -V, --version             Print version").toList

/-- The options with a value. -/
inductive Key where
  | config
  | logLevel
  deriving DecidableEq

/-- The name of an option behind its dashes. -/
def Key.name : Key → Text
  | config => "config".toList
  | logLevel => "log-level".toList

/-- The value of an option, if it was given. -/
def value? (a : Arguments) : Key → Option Text
  | .config => a.config
  | .logLevel => a.logLevel

/-- Gives an option a value. A path is not empty. -/
def give (a : Arguments) (key : Key) (value : Text) : Except Refusal Arguments :=
  if (a.value? key).isSome then .error .repeated
  else
    match key with
    | .config => if value.isEmpty then .error .invalidValue else .ok { a with config := some value }
    | .logLevel => .ok { a with logLevel := some value }

/-- The option that was read last, until the next argument shows whether it is complete. -/
structure Pending where
  key : Key
  value : Option Text := none

/-- Completes the option that was read last. -/
def settle (a : Arguments) : Option Pending → Except Refusal Arguments
  | none => .ok a
  | some ⟨key, some value⟩ => a.give key value
  | some ⟨_, none⟩ => .error .invalidValue

/-- Splits an argument behind its two dashes into its name and the value behind an equals sign. -/
def splitValue (t : Text) : Text × Option Text :=
  let name := t.takeWhile (· != '=')
  (name, if name.length < t.length then some (t.drop (name.length + 1)) else none)

/-- An argument with two dashes, without them. -/
def long (a : Arguments) (pending : Option Pending) (t : Text) :
    Except Refusal (Arguments × Option Pending) :=
  let (name, value) := splitValue t
  match [Key.config, .logLevel].find? (·.name == name) with
  | some key => do
    let a ← a.settle pending
    match value with
    | some value => return (← a.give key value, none)
    | none => return (a, some { key := key })
  | none =>
    if name = "help".toList ∨ name = "version".toList then
      if value.isSome then .error .superfluousValue
      else do
        let _ ← a.settle pending
        .error (if name = "help".toList then .help else .version)
    else .error .unknown

/-- Flags with one dash, without it. The first one ends the reading. -/
def short (a : Arguments) (pending : Option Pending) (flags : Text) :
    Except Refusal (Arguments × Option Pending) :=
  match flags.head? with
  | some 'h' => do
    let _ ← a.settle pending
    .error .help
  | some 'V' => do
    let _ ← a.settle pending
    .error .version
  | _ => .error .unknown

/-- An argument without dashes is the value of the option before it. -/
def plain (a : Arguments) (pending : Option Pending) (t : Text) :
    Except Refusal (Arguments × Option Pending) :=
  match pending with
  | some ⟨key, none⟩ => .ok (a, some ⟨key, some t⟩)
  | _ => .error .unknown

/-- Reads on from the arguments so far. -/
def parseFrom (a : Arguments) (pending : Option Pending) : List Text → Except Refusal Arguments
  | [] => a.settle pending
  | t :: rest =>
    if t = ['-', '-'] then do return { (← a.settle pending) with worker := rest }
    else do
      let (a, pending) ← match t with
        | '-' :: '-' :: name => a.long pending name
        | '-' :: flag :: flags => a.short pending (flag :: flags)
        | t => a.plain pending t
      parseFrom a pending rest

/-- Reads a command line. -/
def parse (arguments : List Text) : Except Refusal Arguments := parseFrom {} none arguments

/-- The settings file to read, given where it is if none is named. -/
def settingsPath (a : Arguments) (default : Text) : Text := a.config.getD default

/-- Overrides settings by what the command line says. -/
def apply (a : Arguments) (s : Settings) : Settings :=
  let s := { s with logLevel := a.logLevel.getD s.logLevel }
  match a.worker with
  | [] => s
  | command :: arguments => { s with worker := { command := command, arguments := arguments } }

end Arguments

end LineFraming
