import LineFraming.Console
import Mathlib.Data.List.Infix

/-!
# Runs of a console

Whatever happens to a console is an act: the user enters something or interrupts, the interpreter
reports something, or the interpreter goes on by itself and has other flags afterwards. A run is a
list of acts. Nothing restricts their order, so what holds behind every list of acts holds in every
state a console can get into.

## The interpreter moves on its own

The flags of an interpreter change between two calls, when it hears from its worker. `Act.proceed`
puts any state of the interpreter in the place of the present one. A statement about all runs is
therefore one about all behaviours of the interpreter that its type allows.

## Main definitions

* `Console.fresh` — a console that has just been made
* `Console.Act`, `Console.act` — what may happen, and the console behind it
* `Console.accepted` — the texts of a run that were taken, in order

## Main results

* `forall_prefix_iff` — a run keeps something in every state if and only if no step of it slips
* `forall_prefix_of_inits` — what can be decided of every step of a given run
-/

namespace LineFraming

/-- **Where a step slips.** If a step from a good state leads to a good state unless it slips, and
leaves the good states if it does, then all states of a run are good if and only if no step of it
slips. Beside what is good, `inv` holds in every state. -/
theorem forall_prefix_iff {σ α : Type} {step : σ → α → σ} (inv good : σ → Prop)
    {slips : σ → α → Prop} (hinv : ∀ s a, inv s → inv (step s a))
    (hgood : ∀ s a, inv s → good s → (good (step s a) ↔ ¬slips s a)) {s : σ} (hi : inv s)
    (hs : good s) (as : List α) :
    (∀ before, before <+: as → good (before.foldl step s)) ↔
      ∀ before a, before ++ [a] <+: as → ¬slips (before.foldl step s) a := by
  have hall : ∀ before : List α, inv (before.foldl step s) := by
    intro before
    induction before using List.reverseRecOn with
    | nil => exact hi
    | append_singleton before a ih =>
      rw [List.foldl_append]
      exact hinv _ a ih
  constructor
  · intro h before a hb
    have hbefore := h before ((List.prefix_append _ _).trans hb)
    have hafter := h (before ++ [a]) hb
    rw [List.foldl_append] at hafter
    exact (hgood _ a (hall before) hbefore).mp hafter
  · intro h before hb
    induction before using List.reverseRecOn with
    | nil => exact hs
    | append_singleton before a ih =>
      have hbefore := ih ((List.prefix_append _ _).trans hb)
      rw [List.foldl_append]
      exact (hgood _ a (hall before) hbefore).mpr (h before a hb)

/-- Of a given run the steps can be gone through one by one. -/
theorem forall_prefix_of_inits {α : Type} {p : List α → α → Prop} {as : List α}
    (h : ∀ k ∈ as.inits, ∀ a ∈ k.getLast?, p k.dropLast a) :
    ∀ before a, before ++ [a] <+: as → p before a := by
  intro before a hb
  have hlast := h (before ++ [a]) ((List.mem_inits _ _).mpr hb) a (by simp)
  rwa [List.dropLast_concat] at hlast

namespace Console

variable {γ : Type}

/-- A console that has just been made: disabled, with nothing typed and nothing in flight. -/
def fresh (interpreter : γ) (screen : Screen) (indentation : Indentation) (capacity : Nat) :
    Console γ where
  framer := { interpreter := interpreter, screen := screen, indentation := indentation }
  history := { capacity := capacity }

/-- What happens to a console. -/
inductive Act (γ : Type) where
  | enter (line : Text)
  | run (text : Text)
  | interrupt
  | notice (n : Interpreter.Notice)
  /-- The interpreter goes on by itself. -/
  | proceed (interpreter : γ)

@[simp] theorem framer_remember (c : Console γ) (text : Text) :
    (c.remember text).framer = c.framer := by
  rw [remember]
  split <;> rfl

@[simp] theorem enabled_remember (c : Console γ) (text : Text) :
    (c.remember text).enabled = c.enabled := by
  rw [remember]
  split <;> rfl

variable [Interpreter γ]

/-- The console behind an act. -/
def act (c : Console γ) : Act γ → Console γ
  | .enter line => (c.enter line).2
  | .run text => (c.run text).2
  | .interrupt => c.interrupt.2
  | .notice n => c.notice n
  | .proceed g => { c with framer := { c.framer with interpreter := g } }

/-- The text that an act enters, if it is taken. -/
def taken (c : Console γ) : Act γ → List Text
  | .enter line => if (c.enter line).1.isOk then [line] else []
  | .run text => if (c.run text).1.isOk then [text] else []
  | _ => []

/-- The texts that were taken in a run, in order. -/
def accepted : Console γ → List (Act γ) → List Text
  | _, [] => []
  | c, a :: acts => c.taken a ++ (c.act a).accepted acts

theorem accepted_append (c : Console γ) (acts more : List (Act γ)) :
    c.accepted (acts ++ more) = c.accepted acts ++ (acts.foldl act c).accepted more := by
  induction acts generalizing c with
  | nil => rfl
  | cons a acts ih => simp [accepted, ih]

/-! ### What the user does -/

/-- Entered text is refused and changes nothing, or it is taken and goes to the framer. -/
theorem submit_cases (c : Console γ) (text : Text) (execAnyway : Bool) :
    (∃ refusal, c.submit text execAnyway = (.error refusal, c)) ∨
      c.submit text execAnyway =
        (.ok (), { c.remember text with framer := c.framer.submit text execAnyway }) := by
  rw [submit]
  split
  · exact .inl ⟨_, rfl⟩
  · refine .inr ?_
    dsimp only
    rw [framer_remember]

/-- An interrupt that the interpreter takes completes the statement. -/
theorem interrupt_of_ok {c : Console γ} (h : c.framer.interrupt.1 = .ok ()) :
    c.interrupt = (.ok (), { c with framer := c.framer.interrupt.2.finish }) := by
  rw [interrupt]
  split
  · rename_i hi
    simp [hi] at h
  · rename_i hi
    rw [hi]

theorem interrupt_of_error {c : Console γ} {fault : Interpreter.Fault}
    (h : c.framer.interrupt.1 = .error fault) :
    c.interrupt = (.error (.interpreter fault), { c with framer := c.framer.interrupt.2 }) := by
  rw [interrupt]
  split
  · rename_i hi
    rw [hi, Except.error.injEq] at h
    rw [hi, h]
  · rename_i hi
    simp [hi] at h

/-- A statement that is half typed is completed once the interpreter has taken the interrupt. -/
theorem framer_interrupt (c : Console γ) :
    c.interrupt.2.framer = c.framer.interrupt.2 ∨
      c.interrupt.2.framer = c.framer.interrupt.2.finish := by
  cases h : c.framer.interrupt.1 with
  | error fault => exact .inl (by rw [interrupt_of_error h])
  | ok _ => exact .inr (by rw [interrupt_of_ok h])

@[simp] theorem enabled_submit (c : Console γ) (text : Text) (execAnyway : Bool) :
    (c.submit text execAnyway).2.enabled = c.enabled := by
  obtain ⟨refusal, hr⟩ | hr := c.submit_cases text execAnyway
  · rw [hr]
  · rw [hr]
    exact enabled_remember c text

@[simp] theorem enabled_interrupt (c : Console γ) : c.interrupt.2.enabled = c.enabled := by
  cases h : c.framer.interrupt.1 with
  | error fault => rw [interrupt_of_error h]
  | ok _ => rw [interrupt_of_ok h]

end Console

end LineFraming
