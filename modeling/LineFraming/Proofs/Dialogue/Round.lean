import LineFraming.Dialogue
import LineFraming.Proofs.Console.Mirroring

/-!
# A round of the loop

The loop shows the prompt, waits for an occurrence and applies it to the console. Most of what holds
of the console holds of a round therefore: an occurrence reaches the framer as entered text, as an
interrupt or as a report, and beyond these only a typed line is taken from the screen and a refusal
is shown.

Between two rounds the interpreter may go on by itself, so an event is an occurrence or such a
movement.

## Main definitions

* `Dialogue.Event`, `Dialogue.happen` — what may happen to the loop and to the interpreter
* `Dialogue.displays` — the loop waits behind a prompt
* `Dialogue.Round` — what a round keeps beside the framer

## Main results

* `Dialogue.round_apply` — every occurrence keeps it
* `Dialogue.shows_apply` — what the screen sees of a round
* `Dialogue.interrupt_of_ok`, `Dialogue.needsPrompt_interrupt_of_error` — an interrupt
-/

namespace LineFraming

open Framer (Shows)

/-- Whether an occurrence is an interrupt. -/
def Occurrence.isInterrupt : Occurrence → Bool
  | interruptSignal | readInterrupted => true
  | _ => false

namespace Dialogue

variable {γ : Type} {d : Dialogue γ} {R : Framer γ → Framer γ → Prop}

/-- What happens to the loop. -/
inductive Event (γ : Type) where
  | occurs (o : Occurrence)
  /-- The interpreter goes on by itself. -/
  | proceed (interpreter : γ)

/-- Whether the loop goes on and waits behind a prompt, so that a line can be typed. -/
def displays (d : Dialogue γ) : Bool := d.result.isNone && d.invites

theorem displays_iff : d.displays = true ↔ d.result = none ∧ d.invites = true := by
  simp [displays]

theorem not_displays (d : Dialogue γ) : (d.result.isSome || !d.invites) = !d.displays := by
  rw [displays, Bool.not_and]
  cases d.result <;> rfl

theorem invites_iff : d.invites = true ↔ d.inputOpen = true ∧ d.exited = false ∧
    d.console.enabled = true ∧ d.console.framer.prompt ≠ .executing := by
  simp [invites, Prompt.acceptsInput, and_assoc]

/-- As long as a line can be typed, the loop goes on. -/
theorem close_of_invites (h : d.invites = true) : d.close = d := by
  obtain ⟨hi, hx, -⟩ := invites_iff.mp h
  simp [close, hi, hx]

theorem displays_close (d : Dialogue γ) : d.close.displays = true → d.displays = true := by
  rw [close]
  split
  · intro h
    simp [displays] at h
  · exact id

/-- What a round keeps beside the framer. -/
structure Round (d e : Dialogue γ) : Prop where
  editor : e.editor = d.editor
  result : e.result = d.result
  inputOpen : e.inputOpen = true → d.inputOpen = true
  exited : e.exited = false → d.exited = false
  enabled : e.exited = false → d.console.enabled = true → e.console.enabled = true

theorem round_conclude (d : Dialogue γ) {outcome : Except Refusal Unit × Console γ}
    (h : outcome.2.enabled = d.console.enabled) : Round d (d.conclude outcome) := by
  rw [conclude]
  split
  · exact ⟨rfl, rfl, id, id, fun _ he => h.trans he⟩
  · exact ⟨rfl, rfl, id, id, fun _ he => h.trans he⟩

theorem shows_conclude (hR : Shows R) (d : Dialogue γ) (outcome : Except Refusal Unit × Console γ) :
    R outcome.2.framer (d.conclude outcome).console.framer := by
  rw [conclude]
  split
  · exact hR.refl _
  · rename_i refusal _
    exact hR.ask _ (a := .showHint refusal.message) rfl

variable [Interpreter γ]

/-- The loop behind an event. -/
def happen (d : Dialogue γ) : Event γ → Dialogue γ
  | .occurs o => d.feed o
  | .proceed g => d.withFramer { d.console.framer with interpreter := g }

/-- What has been taken from the screen is entered in one piece. -/
theorem exists_submitLine (d : Dialogue γ) (line : Text) : ∃ text,
    let e := d.withFramer d.console.framer.lineSubmitted.takeIndent.2
    d.submitLine line = e.conclude (e.console.enter text) :=
  ⟨_, rfl⟩

theorem round_apply (d : Dialogue γ) (o : Occurrence) : Round d (d.apply o) := by
  have hinterrupt : Round d d.interrupt := round_conclude d (Console.enabled_interrupt d.console)
  cases o with
  | line text =>
    rw [apply]
    split
    · exact ⟨rfl, rfl, id, id, fun _ he => he⟩
    · obtain ⟨merged, hs⟩ := d.exists_submitLine text
      rw [hs]
      exact round_conclude (d.withFramer _) (Console.enabled_submit _ merged false)
  | readInterrupted => exact hinterrupt
  | interruptSignal => exact hinterrupt
  | endOfInput => exact ⟨rfl, rfl, nofun, id, fun _ he => he⟩
  | endOfNotices => exact ⟨rfl, rfl, id, nofun, nofun⟩
  | notice n =>
    cases n with
    | exited code => exact ⟨rfl, rfl, id, nofun, nofun⟩
    | ready => exact ⟨rfl, rfl, id, id, fun _ _ => rfl⟩
    | _ => exact ⟨rfl, rfl, id, id, fun _ he => he⟩

/-- What the screen sees of a typed line once the line has been taken. -/
theorem shows_submitLine (hR : Shows R) (hclear : ∀ f, R f (f.ask .clearInput)) (d : Dialogue γ)
    (line : Text) :
    R d.console.framer.lineSubmitted.takeIndent.2 (d.submitLine line).console.framer := by
  obtain ⟨text, hs⟩ := d.exists_submitLine line
  have hentered := hR.console_submit hclear
    (d.withFramer d.console.framer.lineSubmitted.takeIndent.2).console text false
  rw [hs]
  exact hR.trans hentered (shows_conclude hR _ _)

/-- What the screen sees of a round. -/
theorem shows_apply (hR : Shows R) (hclear : ∀ f, R f (f.ask .clearInput))
    (htake : ∀ f, R f f.lineSubmitted.takeIndent.2) (d : Dialogue γ) (o : Occurrence) :
    R d.console.framer (d.apply o).console.framer := by
  have hinterrupt : R d.console.framer d.interrupt.console.framer :=
    hR.trans (hR.console_interrupt hclear d.console) (shows_conclude hR _ _)
  cases o with
  | line text =>
    rw [apply]
    split
    · exact hR.refl _
    · exact hR.trans (htake _) (shows_submitLine hR hclear d text)
  | readInterrupted => exact hinterrupt
  | interruptSignal => exact hinterrupt
  | endOfInput => exact hR.refl _
  | endOfNotices => exact hR.refl _
  | notice n =>
    have hnotice := hR.console_notice hclear d.console n
    cases n with
    | _ => exact hnotice

/-! ### Interrupts -/

theorem apply_of_isInterrupt {o : Occurrence} (ho : o.isInterrupt = true) :
    d.apply o = d.interrupt := by
  cases o with
  | interruptSignal => rfl
  | readInterrupted => rfl
  | _ => cases ho

/-- An interrupt that is not taken is reported. -/
theorem needsPrompt_interrupt_of_error {fault : Interpreter.Fault}
    (h : d.console.framer.interrupt.1 = .error fault) :
    d.interrupt.console.framer.screen.needsPrompt = true := by
  rw [interrupt, Console.interrupt_of_error h]
  rfl

/-- An interrupt that is taken completes the statement. -/
theorem interrupt_of_ok (h : d.console.framer.interrupt.1 = .ok ()) :
    d.interrupt = d.withFramer d.console.framer.interrupt.2.finish := by
  rw [interrupt, Console.interrupt_of_ok h]
  rfl

end Dialogue

end LineFraming
