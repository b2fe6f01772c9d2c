import LineFraming.Dialogue
import LineFraming.ScriptedInterpreter

/-!
# Rehearsals

A dialogue with a scripted interpreter, where bytes arrive piece by piece as the input.

## Main definitions

* `Rehearsal`: the dialogue and the input that is not yet a line.
* `Rehearsal.Step`, `Rehearsal.step`: what happens to the dialogue.
-/

namespace LineFraming

/-- A dialogue with a scripted interpreter. -/
structure Rehearsal where
  dialogue : Dialogue ScriptedInterpreter
  input : ByteLines := {}

namespace Rehearsal

/-- What happens to the dialogue. -/
inductive Step where
  | bytes (bytes : List UInt8)
  | endOfInput
  | occurrence (o : Occurrence)
  /-- Writing to the output fails from now on for this cause, or works again. -/
  | breakOutput (cause : Option Text)
  /-- Nothing but what was changed by hand. -/
  | pause

/-- Delivers the responses that are due, and those that become due by that. -/
def answer : (rounds : Nat) → Dialogue ScriptedInterpreter → Dialogue ScriptedInterpreter
  | 0, d => d
  | rounds + 1, d =>
    let framer := d.console.framer
    match framer.interpreter.takeOwed with
    | ([], _) => d
    | (notices, interpreter) =>
      answer rounds ((d.withFramer { framer with interpreter := interpreter }).feedAll
        (notices.map .notice))

/-- One occurrence, and the responses that it makes due. Each round of them shortens the queue. -/
def feed (d : Dialogue ScriptedInterpreter) (o : Occurrence) : Dialogue ScriptedInterpreter :=
  let d := d.feed o
  answer (d.console.framer.queued.length + 1) d

/-- Applies a step. -/
def step (r : Rehearsal) : Step → Rehearsal
  | .bytes bytes =>
    let (lines, input) := r.input.feed bytes
    let d := (lines.map Occurrence.line).foldl feed r.dialogue
    { r with input := input, dialogue := if input.ended then feed d .endOfInput else d }
  | .endOfInput =>
    let (lines, input) := r.input.finish
    let d := (lines.map Occurrence.line).foldl feed r.dialogue
    { r with input := input, dialogue := feed d .endOfInput }
  | .occurrence o => { r with dialogue := feed r.dialogue o }
  | .breakOutput cause =>
    let framer := r.dialogue.console.framer
    { r with
      dialogue := r.dialogue.withFramer
        { framer with screen := { framer.screen with broken := cause } } }
  | .pause => r

/-- Changes the interpreter by hand. -/
def script (r : Rehearsal) (change : ScriptedInterpreter → ScriptedInterpreter) : Rehearsal :=
  let framer := r.dialogue.console.framer
  { r with
    dialogue := r.dialogue.withFramer { framer with interpreter := change framer.interpreter } }

/-- What was done since this was asked last. -/
def takeJournal (r : Rehearsal) : List Deed × Rehearsal :=
  let (deeds, framer) := r.dialogue.console.framer.takeJournal
  (deeds, { r with dialogue := r.dialogue.withFramer framer })

end Rehearsal

end LineFraming
