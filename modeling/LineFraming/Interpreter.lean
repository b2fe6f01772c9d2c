import LineFraming.Prompt

/-!
# Interpreters

What the console knows about the interpreter that runs its commands. Handing over a command only
starts it; how it went and everything else comes back later as notices.

## Main definitions

* `Interpreter`: the operations and flags that an interpreter offers to the console.
* `Interpreter.Notice`: what an interpreter reports.
* `Interpreter.Fault`: why an interpreter does not take a request.
-/

namespace LineFraming

/-- The stream that a program wrote to. -/
inductive OutputStream where
  | stdout
  | stderr
  deriving DecidableEq

namespace Interpreter

/-- Why an interpreter does not take a request. -/
inductive Fault where
  /-- Nobody is there to take it. -/
  | disconnected
  /-- The interpreter could not be started. -/
  | spawn (command cause : Text)
  /-- Reading or writing failed. -/
  | io (cause : Text)
  /-- The interpreter does not keep to the agreed format. -/
  | protocol (detail : Text)
  deriving DecidableEq

/-- The words for a fault. -/
def Fault.message : Fault → Text
  | disconnected => "Interpreter channel disconnected".toList
  | spawn command cause =>
    "Failed to spawn interpreter '".toList ++ command ++ "': ".toList ++ cause
  | io cause => "Interpreter I/O error: ".toList ++ cause
  | protocol detail => "Interpreter protocol error: ".toList ++ detail

/-- What an interpreter reports. -/
inductive Notice where
  /-- It takes commands now. -/
  | ready
  /-- The command in flight is done, or needs more lines. -/
  | response (more : Bool)
  /-- A command ran to its end. -/
  | executed
  /-- The running program reads a line. -/
  | inputRequested
  /-- It wants a prompt of its own. -/
  | promptRequested (prompt : Prompt)
  /-- The running program wrote something. -/
  | output (stream : OutputStream) (text : Text)
  /-- It is gone, with an exit code unless a signal ended it. -/
  | exited (code : Option Int)
  deriving DecidableEq

end Interpreter

/-- An interpreter as the console sees it. A request changes its state whether it is taken or
not. -/
class Interpreter (γ : Type) where
  /-- Takes a command, or a line for the running program if that waits for one. -/
  execute : Text → γ → Except Interpreter.Fault Unit × γ
  /-- Takes the wish to abort the running command. -/
  interrupt : γ → Except Interpreter.Fault Unit × γ
  /-- Whether a command is running. -/
  isExecuting : γ → Bool
  /-- Whether the running program waits for a line. -/
  isWaiting : γ → Bool

end LineFraming
