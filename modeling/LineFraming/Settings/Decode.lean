import LineFraming.Settings.Basic
import LineFraming.Toml.Reader

/-!
# Settings from TOML

Every setting may be missing and then has its default; settings that nobody knows are skipped. A
section is a table, or an array with the settings in order.

## Main definitions

* `Settings.Section`: the values of a section, by name or in order.
* `Settings.ofToml?`: the settings in a text.
-/

namespace LineFraming.Settings

/-- The values of a section, by name or in order. -/
inductive Section where
  | named (entries : List (Text × Toml.Value))
  | ordered (values : List Toml.Value)

namespace Section

/-- The values of a section. A date is a section without settings. -/
def ofValue? : Toml.Value → Option Section
  | .table entries => some (.named entries)
  | .array values => some (.ordered values)
  | .dateTime => some (.named [])
  | _ => none

/-- The value of the setting with a name and a position, the default if it is missing; `none` if
it is there and is of the wrong kind. -/
def get? {α : Type} (s : Section) (name : String) (position : Nat) (default : α)
    (read? : Toml.Value → Option α) : Option α :=
  let value := match s with
    | named entries => entries.lookup name.toList
    | ordered values => values[position]?
  match value with
  | none => some default
  | some v => read? v

/-- Whether the settings that nobody knows can be skipped, which takes that they can be read. -/
def skipsOthers (s : Section) (known : List String) : Bool :=
  match s with
  | named entries =>
    entries.all fun e => known.any (·.toList == e.1) || e.2.isReadable
  | ordered _ => true

end Section

/-- A number below `2 ^ 64`. -/
def readSize? : Toml.Value → Option Nat
  | .integer n => if 0 ≤ n ∧ n.toNat < Nat.pow 2 64 then some n.toNat else none
  | _ => none

/-- A truth value. -/
def readFlag? : Toml.Value → Option Bool
  | .boolean b => some b
  | _ => none

/-- A string. -/
def readText? : Toml.Value → Option Text
  | .string t => some t
  | _ => none

/-- An array of strings. -/
def readTexts? : Toml.Value → Option (List Text)
  | .array elements => elements.mapM readText?
  | _ => none

/-- The settings for framing in a section. -/
def framingOf? (s : Section) : Option FramingSettings := do
  let indentSize ← s.get? "indent_size" 0 4 readSize?
  let tabSize ← s.get? "tab_size" 1 8 readSize?
  let useTabs ← s.get? "use_tabs" 2 false readFlag?
  let historySize ← s.get? "history_size" 3 500 readSize?
  if s.skipsOthers ["indent_size", "tab_size", "use_tabs", "history_size"] then
    some { indentSize, tabSize, useTabs, historySize }
  else none

/-- The texts of the prompts in a section. -/
def promptsOf? (s : Section) : Option PromptTexts := do
  let default : PromptTexts := {}
  let ordinary ← s.get? "ordinary" 0 default.ordinary readText?
  let continuation ← s.get? "continuation" 1 default.continuation readText?
  let executing ← s.get? "executing" 2 default.executing readText?
  let input ← s.get? "input" 3 default.input readText?
  let paging ← s.get? "paging" 4 default.paging readText?
  let help ← s.get? "help" 5 default.help readText?
  if s.skipsOthers ["ordinary", "continuation", "executing", "input", "paging", "help"] then
    some { ordinary, continuation, executing, input, paging, help }
  else none

/-- The settings for the worker in a section. -/
def workerOf? (s : Section) : Option WorkerSettings := do
  let default : WorkerSettings := {}
  let command ← s.get? "command" 0 default.command readText?
  let arguments ← s.get? "args" 1 default.arguments readTexts?
  if s.skipsOthers ["command", "args"] then some { command, arguments } else none

/-- The log filter in a section. -/
def logLevelOf? (s : Section) : Option Text := do
  let default : Settings := {}
  let level ← s.get? "level" 0 default.logLevel readText?
  if s.skipsOthers ["level"] then some level else none

/-- The settings in the entries of a document. -/
def ofEntries? (entries : List (Text × Toml.Value)) : Option Settings := do
  let document := Section.named entries
  let default : Settings := {}
  let framing ← document.get? "console" 0 default.framing fun v =>
    (Section.ofValue? v).bind framingOf?
  let prompts ← document.get? "prompts" 1 default.prompts fun v =>
    (Section.ofValue? v).bind promptsOf?
  let worker ← document.get? "worker" 2 default.worker fun v =>
    (Section.ofValue? v).bind workerOf?
  let logLevel ← document.get? "logging" 3 default.logLevel fun v =>
    (Section.ofValue? v).bind logLevelOf?
  if document.skipsOthers ["console", "prompts", "worker", "logging"] then
    some { framing, prompts, worker, logLevel }
  else none

/-- The settings in a text; `none` if it is no TOML or a setting is of the wrong kind. -/
def ofToml? (t : Text) : Option Settings := (Toml.read t).bind ofEntries?

end LineFraming.Settings
