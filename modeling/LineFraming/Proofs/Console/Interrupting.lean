import LineFraming.Proofs.Console.Running
import LineFraming.Proofs.Framer.Answers

/-!
# What an interrupt does to the statement that is being typed

An interrupt that the interpreter takes completes the statement, as an empty line would. This has
two consequences, one for the draft and one for the running program.

Outside strings nothing is left of the statement. Inside a string an empty line is content and
closes nothing: the string stays open, and the next line still belongs to it.

A line that is dispatched while the running program waits is an answer to it, and the empty line is
no exception. So the program is given an answer if it still waits behind the interrupt and the draft
has lines, be they blank or none at all: a draft that was begun counts.

## Main definitions

* `Draft.Clear` — nothing is being typed

## Main results

* `Framer.region_finish` — completing a statement opens and closes no string
* `Console.clear_interrupt_iff` — an interrupt leaves nothing of a statement outside strings
* `Console.answers_interrupt_iff` — when the running program gets an answer by an interrupt
-/

namespace LineFraming

/-- Nothing is being typed, so that the next line begins a statement. -/
structure Draft.Clear (d : Draft) : Prop where
  isBlank : d.isBlank = true
  region : d.region = none

namespace Framer

variable {γ : Type} [Interpreter γ]

theorem region_finish (f : Framer γ) : f.finish.draft.region = f.draft.region := by
  rw [finish]
  split
  · exact draft_region_dispatch_newline f
  · rfl

/-- Completing a statement leaves nothing of it, unless a string is open. -/
theorem clear_finish_iff (f : Framer γ) : f.finish.draft.Clear ↔ f.draft.region = none := by
  constructor
  · intro h
    rw [← region_finish f]
    exact h.region
  · intro hr
    rw [← region_finish f] at hr
    exact ⟨isBlank_finish hr, hr⟩

end Framer

namespace Console

variable {γ : Type} [Interpreter γ]

/-! ### The statement -/

/-- **An interrupt leaves nothing of a statement, unless a string is open.** In every state of the
console, and whether the running program waits or not: an interrupt that the interpreter takes is
carried out, it neither opens nor closes a string, and the next line begins a statement if and only
if no string is open. -/
theorem clear_interrupt_iff {c : Console γ}
    (hi : (Interpreter.interrupt c.framer.interpreter).1 = .ok ()) :
    c.interrupt.1 = .ok () ∧ c.interrupt.2.framer.draft.region = c.framer.draft.region ∧
      (c.interrupt.2.framer.draft.Clear ↔ c.framer.draft.region = none) := by
  have hrun : c.interrupt = (.ok (), { c with framer := c.framer.interrupt.2.finish }) :=
    interrupt_of_ok hi
  rw [hrun]
  exact ⟨rfl, Framer.region_finish _, Framer.clear_finish_iff _⟩

/-- A block with a line in it that is to be joined with the next one. -/
def joinedInBlock : List (Act Obliging) :=
  [.notice .ready, .enter ['i', 'f', ':'], .enter [' ', 'b', '\\']]

/-- Nothing is left of the block. -/
theorem clear_interrupt_joinedInBlock :
    let c := joinedInBlock.foldl act (fresh ({} : Obliging) {} {} 8)
    (Interpreter.interrupt c.framer.interpreter).1 = .ok () ∧
      c.framer.draft.isBlank = false ∧ c.interrupt.2.framer.draft.Clear := by
  intro c
  have hi : (Interpreter.interrupt c.framer.interpreter).1 = .ok () := rfl
  have hr : c.framer.draft.region = none := by decide
  exact ⟨hi, by decide, (clear_interrupt_iff hi).2.2.mpr hr⟩

/-- A statement with an open string survives the interrupt. It is longer by an empty line. -/
theorem exists_not_clear_interrupt :
    ∃ acts : List (Act Obliging),
      let c := acts.foldl act (fresh ({} : Obliging) {} {} 8)
      c.framer.isWaiting = false ∧ c.interrupt.1 = .ok () ∧
        ¬c.interrupt.2.framer.draft.Clear ∧
        c.interrupt.2.framer.draft = c.framer.draft.append ['\n'] ∧
        c.interrupt.2.framer.commands = [] := by
  refine ⟨[.notice .ready, .enter ['\x27', '\x27', '\x27', 'a']], rfl, rfl, fun h => ?_, by decide,
    by decide⟩
  exact absurd h.region (by decide)

/-! ### The running program -/

/-- **When an interrupt answers the running program.** In every state of the console and over every
interpreter, an interrupt hands no line to a waiting program, unless the interpreter takes the
interrupt, the program still waits behind it, and a statement was begun. -/
theorem answers_interrupt_iff (c : Console γ) :
    c.interrupt.2.framer.answers = c.framer.answers ↔
      ¬((Interpreter.interrupt c.framer.interpreter).1 = .ok () ∧
        Interpreter.isWaiting (Interpreter.interrupt c.framer.interpreter).2 = true ∧
        c.framer.draft.text?.isSome = true) := by
  cases hi : (Interpreter.interrupt c.framer.interpreter).1 with
  | error fault =>
    rw [interrupt_of_error hi]
    simp [Framer.answers_interrupt]
  | ok _ =>
    -- The flag is read behind the interrupt, which may have changed it; the draft is the same.
    have hw : c.framer.interrupt.2.isWaiting =
        Interpreter.isWaiting (Interpreter.interrupt c.framer.interpreter).2 := rfl
    have hd : c.framer.interrupt.2.draft = c.framer.draft := rfl
    rw [interrupt_of_ok hi]
    dsimp only
    rw [Framer.answers_finish, Framer.answers_interrupt, hw, hd]
    cases Interpreter.isWaiting (Interpreter.interrupt c.framer.interpreter).2 <;>
      cases c.framer.draft.text?.isSome <;> simp

/-- A block is closed by a line that is joined with the next one; while the block runs, it waits for
a line. -/
def joinedBehindBlock : List (Act ScriptedInterpreter) :=
  [.notice .ready, .enter ['i', 'f', ':'], .enter [' ', 'a'], .enter ['b', '\\'],
    .proceed { executing := true, waiting := true }, .notice .inputRequested]

/-- The program that was to be aborted reads the line. -/
theorem exists_answers_interrupt :
    ∃ acts : List (Act ScriptedInterpreter),
      let c := acts.foldl act (fresh ({} : ScriptedInterpreter) {} {} 8)
      c.framer.isWaiting = true ∧ c.interrupt.1 = .ok () ∧
        c.interrupt.2.framer.answers = c.framer.answers ++ [['b', '\\', '\n', '\n']] := by
  exact ⟨joinedBehindBlock, by decide, rfl, by decide⟩

end Console

end LineFraming
