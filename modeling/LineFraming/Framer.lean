import LineFraming.Draft
import LineFraming.LineKind
import LineFraming.Refusal
import LineFraming.Screen
import LineFraming.Text.Lines

/-!
# The framer

Turns typed lines into commands. Lines collect in a draft while the statement is incomplete: while
a block or a triple-quoted string is open, or behind a backslash. A complete statement goes to the
interpreter; while one is in flight, the next ones queue behind it. The prompt follows.

The framer keeps a journal of what it did to the outside: the requests to the interpreter with
their outcome, and the actions on the screen with what they wrote, in order.

## Main definitions

* `Framer`: the state, over any `Interpreter`.
* `Framer.submit`, `Framer.processLine`, `Framer.dispatch`: typed text, a typed line, a line
  that has been trimmed.
* `Framer.finish`: completes the statement by force.
* `Framer.respond`: the command in flight is done.
* `Framer.reset`: forgets everything that was typed.
-/

namespace LineFraming

/-- A complete command that waits for the interpreter. -/
structure PendingCommand where
  command : Text
  /-- The last line of the command, from which the next line is indented if more are needed. -/
  lastLine : Text
  deriving DecidableEq

/-- What the framer did to the outside. -/
inductive Deed where
  /-- A command went to the interpreter, or a line for the running program. -/
  | executed (command : Text) (asInput : Bool) (refused : Option Interpreter.Fault)
  /-- The wish to abort went to the interpreter. -/
  | interrupted (refused : Option Interpreter.Fault)
  /-- The screen was asked for something, and `written` went to the output. -/
  | asked (action : Screen.Action) (written : Text)
  /-- The prompt was printed with the prefilled indentation behind it. -/
  | prompted (text indent : Text)
  deriving DecidableEq

/-- What a deed wrote to the output. -/
def Deed.written : Deed → Text
  | asked _ written => written
  | prompted text indent => text ++ indent
  | _ => []

/-- The state of the framer over an interpreter. -/
structure Framer (γ : Type) where
  interpreter : γ
  screen : Screen := {}
  indentation : Indentation := {}
  /-- The statement that is being typed. -/
  draft : Draft := {}
  prompt : Prompt := .ordinary
  /-- The last line of the command whose response is outstanding. -/
  inFlight : Option Text := none
  /-- The commands behind the one in flight, the oldest first. -/
  queued : List PendingCommand := []
  /-- What was done to the outside, the oldest deed first. -/
  journal : List Deed := []

namespace Framer

variable {γ : Type} [Interpreter γ]

/-- Whether a command is in flight or queued. -/
def isBusy (f : Framer γ) : Bool := f.inFlight.isSome || !f.queued.isEmpty

/-- Whether the running program waits for a line. -/
def isWaiting (f : Framer γ) : Bool := Interpreter.isWaiting f.interpreter

/-! ### Deeds -/

/-- Notes a deed in the journal. -/
def note (f : Framer γ) (deed : Deed) : Framer γ := { f with journal := f.journal ++ [deed] }

/-- The journal, which is begun anew. -/
def takeJournal (f : Framer γ) : List Deed × Framer γ := (f.journal, { f with journal := [] })

/-- Asks the screen for something. -/
def ask (f : Framer γ) (action : Screen.Action) : Framer γ :=
  let (screen, written) := f.screen.perform action
  { f with screen := screen }.note (.asked action written)

/-- Hands a command to the interpreter. -/
def execute (f : Framer γ) (command : Text) : Except Interpreter.Fault Unit × Framer γ :=
  let (outcome, interpreter) := Interpreter.execute command f.interpreter
  let refused := match outcome with
    | .ok () => none
    | .error fault => some fault
  (outcome, { f with interpreter := interpreter }.note (.executed command f.isWaiting refused))

/-- Asks the interpreter to abort the running command. -/
def interrupt (f : Framer γ) : Except Interpreter.Fault Unit × Framer γ :=
  let (outcome, interpreter) := Interpreter.interrupt f.interpreter
  let refused := match outcome with
    | .ok () => none
    | .error fault => some fault
  (outcome, { f with interpreter := interpreter }.note (.interrupted refused))

/-- Moves the prompt. The screen learns of a prompt that differs from the last one. -/
def cue (f : Framer γ) (c : Prompt.Cue) : Framer γ :=
  let next := f.prompt.after c
  if next = f.prompt then f
  else
    let f := { f with prompt := next }.ask (.setPrompt next)
    if next = .executing then f else f.ask .scrollToEnd

/-- Shows why the interpreter did not take a request. -/
def report (f : Framer γ) (fault : Interpreter.Fault) : Framer γ :=
  f.ask (.showHint (Refusal.interpreter fault).message)

/-! ### Sending commands -/

/-- The block that the next line belongs to has `depth` columns. -/
def setDepth (f : Framer γ) (depth : Nat) : Framer γ :=
  { f with draft := { f.draft with depth := depth } }

/-- The triple-quoted string that is open from now on. -/
def setRegion (f : Framer γ) (region : Option TripleQuote) : Framer γ :=
  { f with draft := { f.draft with region := region } }

/-- Sends a command, which is in flight then. If it is not taken, the queue is dropped. -/
def send (f : Framer γ) (pending : PendingCommand) : Framer γ :=
  match f.execute pending.command with
  | (.ok (), f) => { f with inFlight := some pending.lastLine }
  | (.error fault, f) => (({ f with queued := [] }.setDepth 0).cue .restarted).report fault

/-- Sends the draft: as a line for the running program if that waits for one, else as a command,
which queues behind one in flight. -/
def sendDraft (f : Framer γ) (lastLine : Text) : Framer γ :=
  let (command, draft) := f.draft.take
  let f := { f with draft := draft }
  if f.isWaiting then
    match f.execute command with
    | (.ok (), f) => if f.isWaiting then f else (f.setDepth 0).cue .inputConsumed
    | (.error fault, f) => f.report fault
  else
    let f := f.cue .started
    let pending : PendingCommand := { command := command, lastLine := lastLine }
    if f.inFlight.isSome then { f with queued := f.queued ++ [pending] } else f.send pending

/-! ### Typed lines -/

/-- Keeps the statement open as a block of `depth` columns and prefills the next line. -/
def requestMore (f : Framer γ) (depth : Nat) : Framer γ :=
  (((f.setDepth depth).ask (.insertIndent (f.indentation.fill depth))).cue .moreLines).ask
    .requestLine

/-- Whether a blank line closes nothing: no statement is open in the interpreter, or the depth
still belongs to the block that was sent last. -/
def blankClosesNothing (f : Framer γ) : Bool := f.draft.depth == 0 || f.inFlight.isSome

/-- What a line outside strings leads to, behind which the draft already holds it. -/
def conclude (f : Framer γ) (line : Text) : LineKind → Framer γ
  | .continued => f.cue .moreLines
  | .indented depth => f.requestMore depth
  | .blank => if f.draft.isBlank && f.blankClosesNothing then f else f.sendDraft line
  | _ => f.sendDraft line

/-- The kind of the line that closes a string: it is still a line of its statement, but a string
that is closed inside a block does not end the block. -/
def closingKind (f : Framer γ) (line : Text) : LineKind :=
  match LineKind.ofStatement f.indentation f.draft.depth line with
  | .complete => if 0 < f.draft.depth then .indented f.draft.depth else .complete
  | kind => kind

/-- Puts a line into the draft and decides what it means. -/
def dispatch (f : Framer γ) (line : Text) : Framer γ :=
  let f := { f with draft := f.draft.append line }
  if f.isWaiting then f.sendDraft line
  else
    match LineKind.of f.indentation f.draft.region f.draft.depth line with
    | .insideString => f
    | .opensString style =>
      ((f.setRegion (some style)).ask (.setPlainText true)).cue .stringOpened
    | .closesString =>
      let f := ((f.setRegion none).ask (.setPlainText false)).cue .stringClosed
      f.conclude line (f.closingKind line)
    | kind => f.conclude line kind

/-- Whether a line closes the block above it: it stands at the left margin and is no header. -/
def closesBlock (f : Framer γ) (line : Text) : Bool :=
  f.indentation.width line == 0 && 0 < f.draft.depth && !Block.opens line && !f.isWaiting &&
    f.draft.region.isNone

/-- One typed line. A line that closes the block above is preceded by an empty one. -/
def processLine (f : Framer γ) (line : Text) : Framer γ :=
  let trimmed := Text.trimEnd line
  if trimmed.isEmpty then f.dispatch ['\n']
  else if f.closesBlock trimmed then (f.dispatch ['\n']).dispatch trimmed
  else f.dispatch trimmed

/-- Completes the statement as an empty line would, and clears the input. -/
def finish (f : Framer γ) : Framer γ :=
  (if f.draft.text?.isSome then f.dispatch ['\n'] else f).ask .clearInput

/-- Typed text, perhaps of several lines. With `execAnyway` a block that the text opened is
executed as if an empty line closed it. -/
def submit (f : Framer γ) (text : Text) (execAnyway : Bool) : Framer γ :=
  let after :=
    if text.isEmpty then f.processLine text else (Text.lines text).foldl processLine f
  if execAnyway && 0 < after.draft.depth && f.draft.depth == 0 then after.finish else after

/-! ### Notices -/

/-- A command is done, so the prompt is ordinary unless others are running. -/
def commandExecuted (f : Framer γ) : Framer γ :=
  f.cue (.finished (Interpreter.isExecuting f.interpreter || !f.queued.isEmpty))

/-- The interpreter needs more lines of the command that was in flight. -/
def continueStatement (f : Framer γ) (lastLine : Text) : Framer γ :=
  let f := (f.cue .moreLines).ask .requestLine
  if f.draft.depth = 0 then
    let depth := f.indentation.width lastLine + f.indentation.unit
    (f.setDepth depth).ask (.insertIndent (f.indentation.fill depth))
  else f

/-- Sends the oldest command of the queue. -/
def sendNext (f : Framer γ) : Framer γ :=
  match f.queued with
  | [] => f
  | next :: rest => ({ f with queued := rest }.cue .started).send next

/-- The command in flight is done, or needs more lines. Without one in flight nothing happens. -/
def respond (f : Framer γ) (more : Bool) : Framer γ :=
  match f.inFlight with
  | none => f
  | some lastLine =>
    let f := { f with inFlight := none }
    let f :=
      if more then f.continueStatement lastLine
      else (if f.isWaiting then f else f.commandExecuted).setDepth 0
    f.sendNext

/-- The running program reads a line. A positive depth keeps an unindented answer from closing a
block. -/
def inputRequested (f : Framer γ) : Framer γ := (f.cue .inputRequested).setDepth 1

/-- The interpreter wants a prompt of its own. -/
def promptRequested (f : Framer γ) (prompt : Prompt) : Framer γ := f.cue (.requested prompt)

/-- Forgets everything that was typed; used when the interpreter is gone. -/
def reset (f : Framer γ) : Framer γ :=
  (({ f with draft := {}, inFlight := none, queued := [] }.ask (.setPlainText false)).ask
    .clearInput).cue .restarted

/-! ### The prompt on the screen -/

/-- Prints the prompt if it has to be printed. -/
def renderPrompt (f : Framer γ) : Except Text Unit × Framer γ :=
  match f.screen.renderPrompt with
  | (.ok none, screen) => (.ok (), { f with screen := screen })
  | (.ok (some (text, indent)), screen) =>
    (.ok (), { f with screen := screen }.note (.prompted text indent))
  | (.error cause, screen) => (.error cause, { f with screen := screen })

/-- The indentation that was prefilled for the line just typed. -/
def takeIndent (f : Framer γ) : Text × Framer γ :=
  let (indent, screen) := f.screen.takeIndent
  (indent, { f with screen := screen })

/-- A line was typed. -/
def lineSubmitted (f : Framer γ) : Framer γ := { f with screen := f.screen.lineSubmitted }

end Framer

end LineFraming
