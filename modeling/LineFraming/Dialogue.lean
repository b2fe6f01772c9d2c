import LineFraming.Console
import LineFraming.Editor.Basic

/-!
# The dialogue

The loop that applies what the user types and what the interpreter reports to the console, one
occurrence at a time. Before it waits for the next occurrence, it shows the prompt, or starts a
read of the line editor, if a line can be typed then. It ends when the interpreter is gone, though
not during a read of the editor, or when the input has ended and no command is running.

The editor shows the prefilled indentation as text that can be edited. Without an editor the
indentation is put in front of the line afterwards.

## Main definitions

* `Occurrence`: what the loop waits for.
* `Dialogue`, `Dialogue.start`, `Dialogue.feed`: the loop, its start and one round.
* `Dialogue.type`: keys typed into the editor.
-/

namespace LineFraming

/-- What the loop waits for. -/
inductive Occurrence where
  /-- A line was typed. -/
  | line (text : Text)
  /-- The read of the editor was interrupted. -/
  | readInterrupted
  /-- There is no more input. -/
  | endOfInput
  /-- The interpreter reports something. -/
  | notice (notice : Interpreter.Notice)
  /-- There are no more reports. -/
  | endOfNotices
  /-- The user interrupted the program. -/
  | interruptSignal

/-- The state of the loop. -/
structure Dialogue (γ : Type) where
  console : Console γ
  /-- The line editor, unless lines are read without one. -/
  editor : Option Editor := none
  inputOpen : Bool := true
  /-- Whether the interpreter is gone. -/
  exited : Bool := false
  /-- How the loop ended, once it has. -/
  result : Option (Except Text Unit) := none

namespace Dialogue

variable {γ : Type} [Interpreter γ]

/-- Changes the framer. -/
def withFramer (d : Dialogue γ) (framer : Framer γ) : Dialogue γ :=
  { d with console := { d.console with framer := framer } }

/-- Whether a read of the editor is in progress. -/
def isReading (d : Dialogue γ) : Bool := d.editor.any (·.reading.isSome)

/-- Whether a line can be typed. -/
def invites (d : Dialogue γ) : Bool :=
  d.inputOpen && !d.exited && d.console.enabled && d.console.framer.prompt.acceptsInput

/-- Shows the prompt or starts a read, if a line can be typed. -/
def settle (d : Dialogue γ) : Dialogue γ :=
  if d.result.isSome || !d.invites then d
  else
    match d.editor with
    | none =>
      match d.console.framer.renderPrompt with
      | (.ok (), framer) => d.withFramer framer
      | (.error cause, framer) => { d.withFramer framer with result := some (.error cause) }
    | some editor =>
      if editor.reading.isSome then d
      else
        let (indent, framer) := d.console.framer.takeIndent
        { d.withFramer framer with editor := some (editor.start indent) }

/-- Shows why something entered does not run. -/
def hint (d : Dialogue γ) (refusal : Refusal) : Dialogue γ :=
  d.withFramer (d.console.framer.ask (.showHint refusal.message))

/-- The outcome of something entered: a refusal is shown. -/
def conclude (d : Dialogue γ) (outcome : Except Refusal Unit × Console γ) : Dialogue γ :=
  let d := { d with console := outcome.2 }
  match outcome.1 with
  | .ok () => d
  | .error refusal => d.hint refusal

/-- The typed line with the prefilled indentation, unless that was edited with it. -/
def submitLine (d : Dialogue γ) (line : Text) : Dialogue γ :=
  let (indent, framer) := d.console.framer.lineSubmitted.takeIndent
  let d := d.withFramer framer
  let text := if d.editor.isSome then line else Prefill.merge framer.indentation indent line
  d.conclude (d.console.enter text)

/-- Aborts the running command. -/
def interrupt (d : Dialogue γ) : Dialogue γ := d.conclude d.console.interrupt

/-- Whether the loop takes an occurrence: input until it has ended, notices until the interpreter
is gone, and the signal always. -/
def takes (d : Dialogue γ) : Occurrence → Bool
  | .line _ | .readInterrupted | .endOfInput => d.inputOpen
  | .notice _ | .endOfNotices => !d.exited
  | .interruptSignal => true

/-- Applies an occurrence to the console. A line that comes when the interpreter is gone cannot
run. -/
def apply (d : Dialogue γ) : Occurrence → Dialogue γ
  | .line text => if d.exited then d else d.submitLine text
  | .readInterrupted => d.interrupt
  | .endOfInput => { d with inputOpen := false }
  | .notice n =>
    let d := { d with console := d.console.notice n }
    match n with
    | .exited _ => { d with exited := true }
    | _ => d
  | .endOfNotices => { d with exited := true }
  | .interruptSignal => d.interrupt

/-- Ends the loop if there is nothing left to wait for. -/
def close (d : Dialogue γ) : Dialogue γ :=
  if (d.exited && !d.isReading) || (!d.inputOpen && !d.console.framer.isBusy) then
    { d with result := some (.ok ()) }
  else d

/-- The loop before anything occurred. -/
def start (console : Console γ) (editor : Option Editor) : Dialogue γ :=
  settle { console := console, editor := editor }

/-- One round of the loop. -/
def feed (d : Dialogue γ) (o : Occurrence) : Dialogue γ :=
  if d.result.isSome || !d.takes o then d else (d.apply o).close.settle

/-- Several rounds of the loop. -/
def feedAll (d : Dialogue γ) (os : List Occurrence) : Dialogue γ := os.foldl feed d

/-! ### Keys -/

/-- Keys typed into the read of an editor. -/
def press (d : Dialogue γ) (editor : Editor) (keys : Text) : Dialogue γ :=
  let (editor, ending) := editor.press keys
  let d := { d with editor := some editor }
  match ending with
  | none => d
  | some (.line text) => d.feed (.line text)
  | some .interrupted => d.feed .readInterrupted
  | some .endOfInput => d.feed .endOfInput

/-- Keys that were typed ahead go into a read that has started. -/
def resume (d : Dialogue γ) : Dialogue γ :=
  match d.editor with
  | some editor =>
    if editor.reading.isSome && !editor.ahead.isEmpty then
      d.press { editor with ahead := [] } editor.ahead
    else d
  | none => d

/-- The key that signals while no read is in progress. -/
def interruptKey : Char := '\x03'

/-- Keys typed on the terminal. They go into the read in progress; what is typed while there is
none waits for the next one, except for the interrupt key, which signals and drops what waits. -/
def type (d : Dialogue γ) (keys : Text) : Dialogue γ :=
  match d.editor with
  | none => d
  | some editor =>
    if editor.reading.isSome then d.press editor keys
    else if keys.contains interruptKey then
      let latest := (keys.reverse.takeWhile (· != interruptKey)).reverse
      ({ d with editor := some { editor with ahead := latest } }.feed .interruptSignal).resume
    else { d with editor := some (editor.typeAhead keys) }

end Dialogue

end LineFraming
