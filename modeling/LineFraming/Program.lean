import LineFraming.Arguments
import LineFraming.Dialogue
import LineFraming.Text.Lines
import LineFraming.Worker.Launch
import LineFraming.Worker.Link

/-!
# The program

From the command line to the dialogue: the settings are read, overridden by the command line and
checked; then the worker is connected, and the dialogue runs until it ends. Two streams of bytes
come in, what is typed and what the worker prints; both are cut into lines.

## Main definitions

* `Program.prepare`: the settings to run with.
* `Program.Stop`: why the program ends before the dialogue, with its exit code and its error line.
* `Program`, `Program.start`: the program while it runs.
* `Program.typed`, `Program.printed`, `Program.endInput`, `Program.endWorker`: what comes in.
* `Program.takeJournal`, `Program.takeRequests`: what goes out.
-/

namespace LineFraming

/-- The program while it runs: the dialogue, and the bytes that are not yet lines. -/
structure Program where
  dialogue : Dialogue Worker.Link
  /-- What was typed, unless there is an editor. -/
  input : ByteLines := {}
  /-- What the worker printed. -/
  output : ByteLines := {}

namespace Program

/-- Why the program ends before the dialogue. -/
inductive Stop where
  | usage (refusal : Arguments.Refusal)
  | settings (path : Text) (fault : Settings.Fault)
  | flaw (flaw : Settings.Flaw)
  | launch (fault : Interpreter.Fault)
  deriving DecidableEq

namespace Stop

/-- The exit code: none but help and version is a success. -/
def exitCode : Stop → Nat
  | usage .help | usage .version => 0
  | usage _ => 2
  | _ => 1

/-- The error, in words of this program. -/
def error? : Stop → Option Text
  | usage _ => none
  | settings path _ => some ("loading config from ".toList ++ path)
  | flaw _ => some "invalid configuration".toList
  | launch fault => some fault.message

/-- The first line that reports the error. -/
def errorLine? (s : Stop) : Option Text :=
  s.error?.bind fun e => (Text.lines ("Error: ".toList ++ e)).head?

end Stop

/-- The settings to run with: those of the file, overridden by the command line, and checked. -/
def prepare (arguments : List Text) (defaultPath : Text) (fileAt : Text → Settings.FileState) :
    Except Stop Settings := do
  let a ← (Arguments.parse arguments).mapError Stop.usage
  let path := a.settingsPath defaultPath
  let s ← (Settings.load (fileAt path)).mapError (Stop.settings path)
  let s := a.apply s
  s.check.mapError Stop.flaw
  return s

/-- The console for some settings over an interpreter. -/
def console {γ : Type} (s : Settings) (interpreter : γ) : Console γ where
  framer :=
    { interpreter := interpreter
      screen := { texts := s.prompts }
      indentation := s.indentation }
  history := { capacity := s.framing.historySize }

/-- The program behind its start. -/
def start (s : Settings) (terminal : Bool) : Program where
  dialogue := .start (console s {}) (if terminal then some {} else none)

/-! ### What comes in -/

/-- Changes the dialogue. -/
def map (p : Program) (f : Dialogue Worker.Link → Dialogue Worker.Link) : Program :=
  { p with dialogue := f p.dialogue }

/-- Typed lines. -/
def enterLines (p : Program) (lines : List Text) : Program :=
  p.map (·.feedAll (lines.map .line))

/-- The end of the input: what is left of it is one more line. -/
def endInput (p : Program) : Program :=
  let (lines, input) := p.input.finish
  ({ p with input := input }.enterLines lines).map (·.feed .endOfInput)

/-- Typed bytes, without an editor. A line that is not UTF-8 ends the input. -/
def typed (p : Program) (bytes : List UInt8) : Program :=
  let (lines, input) := p.input.feed bytes
  let p := { p with input := input }.enterLines lines
  if input.ended then p.map (·.feed .endOfInput) else p

/-- A line of the worker: the flags change, and the console gets the notice if there is one. -/
def hear (d : Dialogue Worker.Link) (line : Text) : Dialogue Worker.Link :=
  let (notice, link) := d.console.framer.interpreter.hear line
  let d := d.withFramer { d.console.framer with interpreter := link }
  match notice with
  | none => d
  | some n => (d.feed (.notice n)).resume

/-- Lines of the worker. -/
def hearLines (p : Program) (lines : List Text) : Program := p.map (lines.foldl hear ·)

/-- Bytes that the worker printed. -/
def printed (p : Program) (bytes : List UInt8) : Program :=
  let (lines, output) := p.output.feed bytes
  { p with output := output }.hearLines lines

/-- The worker is gone. -/
def hangUp (d : Dialogue Worker.Link) (exitCode : Option Int) : Dialogue Worker.Link :=
  let framer := d.console.framer
  (d.withFramer { framer with interpreter := framer.interpreter.hangUp }).feed
    (.notice (.exited exitCode))

/-- The end of the worker: what is left of its output is one more line. -/
def endWorker (p : Program) (exitCode : Option Int) : Program :=
  let (lines, output) := p.output.finish
  ({ p with output := output }.hearLines lines).map (hangUp · exitCode)

/-! ### What goes out -/

/-- What was done since this was asked last. -/
def takeJournal (p : Program) : List Deed × Program :=
  let (deeds, framer) := p.dialogue.console.framer.takeJournal
  (deeds, p.map (·.withFramer framer))

/-- The oldest requests that the worker has not read yet, which it reads now. -/
def takeRequests (p : Program) (count : Nat) : List Worker.Request × Program :=
  let framer := p.dialogue.console.framer
  let link := framer.interpreter
  (link.requests.take count,
    p.map (·.withFramer
      { framer with interpreter := { link with requests := link.requests.drop count } }))

/-- Why the dialogue ended, if it has: `none` for an end that was due. -/
def outcome? (p : Program) : Option (Option Text) :=
  p.dialogue.result.map fun r => match r with
    | .ok () => none
    | .error cause => some cause

/-- The exit code of the program. -/
def exitCode (p : Program) : Nat :=
  match p.outcome? with
  | some (some _) => 1
  | _ => 0

end Program

end LineFraming
