import LineFraming.Interpreter

/-!
# Refusals

Why the console does not run what was entered. It goes on after each of them.

## Main definitions

* `Refusal`, `Refusal.message`: the reasons and their words.
-/

namespace LineFraming

/-- Why the console does not run what was entered. -/
inductive Refusal where
  /-- The interpreter is not there, or not yet. -/
  | notEnabled
  /-- One command runs at a time. -/
  | stillRunning
  /-- For no reason known. -/
  | cannotExecute
  /-- The interpreter did not take it. -/
  | interpreter (fault : Interpreter.Fault)
  deriving DecidableEq

/-- The words for a refusal. -/
def Refusal.message : Refusal → Text
  | notEnabled => "Console is not enabled.".toList
  | stillRunning =>
    ("Previous command is still running. " ++
      "Please wait or press Ctrl+C in console to interrupt.").toList
  | cannotExecute => "Can't execute the command".toList
  | interpreter fault => "Interpreter channel error: ".toList ++ fault.message

end LineFraming
