import LineFraming.Indentation
import LineFraming.Prompt

/-!
# Settings

What can be configured, and what it must satisfy: the sizes of the indentation are positive, and
a worker is named.

## Main definitions

* `Settings`: the settings, with their defaults.
* `Settings.check`, `Settings.Flaw`: what is wrong with them.
* `Settings.indentation`: the indentation they ask for.
-/

namespace LineFraming

/-- How typed lines are framed. -/
structure FramingSettings where
  /-- The columns of one level. -/
  indentSize : Nat := 4
  /-- The distance of two tab stops. -/
  tabSize : Nat := 8
  /-- Whether the prefilled indentation uses tabs. -/
  useTabs : Bool := false
  /-- How many commands the history keeps. -/
  historySize : Nat := 500
  deriving DecidableEq

/-- The worker to start. -/
structure WorkerSettings where
  command : Text := "python3".toList
  arguments : List Text := ["-m".toList, "replframe_worker".toList]
  deriving DecidableEq

/-- Everything that can be configured. -/
structure Settings where
  framing : FramingSettings := {}
  prompts : PromptTexts := {}
  worker : WorkerSettings := {}
  logLevel : Text := "warn".toList
  deriving DecidableEq

namespace Settings

/-- What can be wrong with settings. -/
inductive Flaw where
  | zeroIndentSize
  | zeroTabSize
  | noCommand
  deriving DecidableEq

/-- The words for a flaw. -/
def Flaw.message : Flaw → Text
  | zeroIndentSize => "console.indent_size must be greater than zero".toList
  | zeroTabSize => "console.tab_size must be greater than zero".toList
  | noCommand => "worker.command must not be empty".toList

/-- The first flaw of some settings. A command of nothing but blanks is none. -/
def check (s : Settings) : Except Flaw Unit :=
  if s.framing.indentSize = 0 then .error .zeroIndentSize
  else if s.framing.tabSize = 0 then .error .zeroTabSize
  else if Text.isBlank s.worker.command then .error .noCommand
  else .ok ()

/-- The indentation that the settings ask for. -/
def indentation (s : Settings) : Indentation :=
  .ofSizes s.framing.indentSize s.framing.tabSize s.framing.useTabs

end Settings

end LineFraming
