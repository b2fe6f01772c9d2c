import LineFraming.Framer
import LineFraming.History

/-!
# The console

Takes what the user enters and what the interpreter reports, and decides whether input may run:
the console must be enabled, and one command runs at a time, unless the running program waits for
a line. What was entered is kept in the history, except for answers to the pager.

## Main definitions

* `Console`: the framer, the history and whether input is enabled.
* `Console.enter`, `Console.run`: one line, a whole text.
* `Console.interrupt`: aborts the running command.
* `Console.notice`: something the interpreter reports.
-/

namespace LineFraming

/-- The console over an interpreter. -/
structure Console (γ : Type) where
  framer : Framer γ
  history : History
  enabled : Bool := false

namespace Console

variable {γ : Type} [Interpreter γ]

/-- Whether new input may run: nothing is executing, or the running program waits for a line. -/
def canExecuteNow (c : Console γ) : Bool :=
  !Interpreter.isExecuting c.framer.interpreter || c.framer.isWaiting

/-- Whether input is taken now, and why not. -/
def check (c : Console γ) : Except Refusal Unit :=
  if !c.enabled then .error .notEnabled
  else if !c.canExecuteNow then .error .stillRunning
  else .ok ()

/-- Why input is not taken now. -/
def cannotExecuteReason (c : Console γ) : Refusal :=
  if !c.enabled then .notEnabled
  else if !c.canExecuteNow then .stillRunning
  else .cannotExecute

/-- Remembers what was entered, unless the pager asked for it. -/
def remember (c : Console γ) (text : Text) : Console γ :=
  if c.framer.prompt.isPaging then c else { c with history := c.history.add text }

/-- Submits entered text if input is taken now. -/
def submit (c : Console γ) (text : Text) (execAnyway : Bool) :
    Except Refusal Unit × Console γ :=
  match c.check with
  | .error refusal => (.error refusal, c)
  | .ok () =>
    let c := c.remember text
    (.ok (), { c with framer := c.framer.submit text execAnyway })

/-- One line, confirmed with Enter. -/
def enter (c : Console γ) (line : Text) : Except Refusal Unit × Console γ := c.submit line false

/-- A whole text, which is executed even if it leaves a block open. -/
def run (c : Console γ) (text : Text) : Except Refusal Unit × Console γ := c.submit text true

/-- Aborts the running command and completes a statement that is half typed. -/
def interrupt (c : Console γ) : Except Refusal Unit × Console γ :=
  match c.framer.interrupt with
  | (.error fault, framer) => (.error (.interpreter fault), { c with framer := framer })
  | (.ok (), framer) => (.ok (), { c with framer := framer.finish })

/-- The hint that the interpreter is gone. -/
def exitHint : Option Int → Text
  | some code => "Interpreter exited with code ".toList ++ (toString code).toList
  | none => "Interpreter exited".toList

/-- Something the interpreter reports. -/
def notice (c : Console γ) : Interpreter.Notice → Console γ
  | .ready => { c with enabled := true }
  | .response more => { c with framer := c.framer.respond more }
  | .executed => { c with framer := c.framer.commandExecuted }
  | .inputRequested => { c with framer := c.framer.inputRequested }
  | .promptRequested prompt => { c with framer := c.framer.promptRequested prompt }
  | .output stream text => { c with framer := c.framer.ask (.writeOutput stream text) }
  | .exited code =>
    { c with framer := c.framer.reset.ask (.showHint (exitHint code)), enabled := false }

end Console

end LineFraming
