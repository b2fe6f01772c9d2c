import LineFraming.Interpreter

/-!
# A scripted interpreter

An interpreter whose flags are set by hand, to try a console without running anything. A request
is refused as long as a fault is set.

## Main definitions

* `ScriptedInterpreter`: the flags, with an `Interpreter` instance.
* `ScriptedInterpreter.takeOwed`: the responses that are due without being asked for.
-/

namespace LineFraming

/-- The flags of a scripted interpreter. -/
structure ScriptedInterpreter where
  executing : Bool := false
  waiting : Bool := false
  /-- Whether it goes on waiting when it has got a line. -/
  keepWaiting : Bool := false
  /-- Whether a command leaves it idle. -/
  passive : Bool := false
  /-- Whether a refused command ends the waiting. -/
  failClears : Bool := false
  /-- Whether each command is answered at once, without executing. -/
  auto : Bool := false
  fault : Option Interpreter.Fault := none
  /-- How many commands are still to be answered. -/
  owed : Nat := 0

namespace ScriptedInterpreter

/-- Takes a command, or a line while it waits. -/
def execute (s : ScriptedInterpreter) : Except Interpreter.Fault Unit × ScriptedInterpreter :=
  match s.fault with
  | some fault => (.error fault, { s with waiting := s.waiting && !s.failClears })
  | none =>
    if s.waiting then (.ok (), { s with waiting := s.keepWaiting })
    else if s.auto then (.ok (), { s with owed := s.owed + 1 })
    else (.ok (), { s with executing := s.executing || !s.passive })

instance : Interpreter ScriptedInterpreter where
  execute _ s := s.execute
  interrupt s := (match s.fault with
    | some fault => .error fault
    | none => .ok (), s)
  isExecuting s := s.executing
  isWaiting s := s.waiting

/-- The responses that are due, none of which asks for more. -/
def takeOwed (s : ScriptedInterpreter) : List Interpreter.Notice × ScriptedInterpreter :=
  (List.replicate s.owed (.response false), { s with owed := 0 })

end ScriptedInterpreter

end LineFraming
