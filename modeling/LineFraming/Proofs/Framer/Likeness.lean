import LineFraming.Proofs.Framer.Composition
import LineFraming.Proofs.Framer.Showing

/-!
# Framers that frame alike

Two framers are alike if they agree in everything that framing depends on: the draft, the command in
flight, the queue, the indentation, what is prefilled, and an interpreter that answers alike. Their
prompts may differ, and so may what was written and whether the prompt is due.

No operation ever looks at what they may differ in. The prompt is read only to see whether it moves,
and then only the screen hears of it. So the same operation takes two framers that are alike to two
that are alike again, and both make the same requests on the way. Moving the prompt may even be done
to one of them and not to the other.

The interpreters need not be in the same state. It is enough that nobody can tell their states
apart, by the flags or by the answers, now or after any further requests.

## Main definitions

* `Interpreter.Indistinct` — a relation of states that nobody can tell apart
* `Framer.Alike` — two framers that frame alike

## Main results

* `Framer.alike_cue`, `Framer.alike_write` — a movement of the prompt and output are only for show
* `Framer.Alike.dispatch`, `Framer.Alike.submit`, `Framer.Alike.finish` — what the user does
* `Framer.Alike.respond`, `Framer.Alike.reset` — what the interpreter reports
-/

namespace LineFraming

variable {γ : Type}

/-- States of an interpreter that nobody can tell apart: their flags agree, and requests are
answered alike and lead to such states again. -/
structure Interpreter.Indistinct [Interpreter γ] (r : γ → γ → Prop) : Prop where
  isExecuting {g h : γ} : r g h → isExecuting h = isExecuting g
  isWaiting {g h : γ} : r g h → isWaiting h = isWaiting g
  execute {g h : γ} (command : Text) : r g h →
    (execute command h).1 = (execute command g).1 ∧ r (execute command g).2 (execute command h).2
  interrupt {g h : γ} : r g h →
    (interrupt h).1 = (interrupt g).1 ∧ r (interrupt g).2 (interrupt h).2

namespace Framer

open Interpreter (Indistinct)

/-- Two framers that differ in the prompt, in what was written and in whether the prompt is due, if
they differ at all. -/
structure Alike (r : γ → γ → Prop) (f g : Framer γ) : Prop where
  interpreter : r f.interpreter g.interpreter
  indentation : g.indentation = f.indentation
  draft : g.draft = f.draft
  inFlight : g.inFlight = f.inFlight
  queued : g.queued = f.queued
  indent : g.screen.indent = f.screen.indent
  plainText : g.screen.plainText = f.screen.plainText
  sent : g.sent = f.sent

/-! ### What is only for show -/

theorem alike_cue (f : Framer γ) (c : Prompt.Cue) : Alike Eq f (f.cue c) where
  interpreter := (interpreter_cue f c).symm
  indentation := indentation_cue f c
  draft := draft_cue f c
  inFlight := inFlight_cue f c
  queued := queued_cue f c
  indent := indent_cue f c
  plainText := plainText_cue f c
  sent := (silent_cue f c).sent

theorem alike_write (f : Framer γ) (stream : OutputStream) (text : Text) :
    Alike Eq f (f.ask (.writeOutput stream text)) :=
  ⟨rfl, rfl, rfl, rfl, rfl, rfl, rfl, sent_ask _ _⟩

namespace Alike

variable {r : γ → γ → Prop} {f g k : Framer γ}

/-- What is only for show may be done to the second framer alone. -/
theorem right (h : Alike r f g) (hk : Alike Eq g k) : Alike r f k where
  interpreter := hk.interpreter ▸ h.interpreter
  indentation := hk.indentation.trans h.indentation
  draft := hk.draft.trans h.draft
  inFlight := hk.inFlight.trans h.inFlight
  queued := hk.queued.trans h.queued
  indent := hk.indent.trans h.indent
  plainText := hk.plainText.trans h.plainText
  sent := hk.sent.trans h.sent

/-- And to the first one alone. -/
theorem left (h : Alike r f g) (hk : Alike Eq f k) : Alike r k g where
  interpreter := hk.interpreter ▸ h.interpreter
  indentation := h.indentation.trans hk.indentation.symm
  draft := h.draft.trans hk.draft.symm
  inFlight := h.inFlight.trans hk.inFlight.symm
  queued := h.queued.trans hk.queued.symm
  indent := h.indent.trans hk.indent.symm
  plainText := h.plainText.trans hk.plainText.symm
  sent := h.sent.trans hk.sent.symm

theorem cue (h : Alike r f g) (c d : Prompt.Cue) : Alike r (f.cue c) (g.cue d) :=
  (h.left (alike_cue f c)).right (alike_cue g d)

/-- A wish to the screen. -/
theorem ask (h : Alike r f g) (a : Screen.Action) : Alike r (f.ask a) (g.ask a) where
  interpreter := h.interpreter
  indentation := h.indentation
  draft := h.draft
  inFlight := h.inFlight
  queued := h.queued
  indent := by cases a <;> simp [Framer.ask, note, Screen.perform, h.indent]
  plainText := by cases a <;> simp [Framer.ask, note, Screen.perform, h.plainText]
  sent := by rw [sent_ask, sent_ask, h.sent]

/-! ### The draft, the slot and the queue -/

theorem setDraft (h : Alike r f g) (d : Draft) :
    Alike r { f with draft := d } { g with draft := d } := { h with draft := rfl }

theorem setInFlight (h : Alike r f g) (lastLine : Option Text) :
    Alike r { f with inFlight := lastLine } { g with inFlight := lastLine } :=
  { h with inFlight := rfl }

theorem setQueued (h : Alike r f g) (queued : List PendingCommand) :
    Alike r { f with queued := queued } { g with queued := queued } := { h with queued := rfl }

theorem setDepth (h : Alike r f g) (depth : Nat) :
    Alike r (f.setDepth depth) (g.setDepth depth) := by
  rw [Framer.setDepth, Framer.setDepth, h.draft]
  exact h.setDraft _

theorem setRegion (h : Alike r f g) (region : Option TripleQuote) :
    Alike r (f.setRegion region) (g.setRegion region) := by
  rw [Framer.setRegion, Framer.setRegion, h.draft]
  exact h.setDraft _

theorem append (h : Alike r f g) (line : Text) :
    Alike r { f with draft := f.draft.append line } { g with draft := g.draft.append line } := by
  rw [h.draft]
  exact h.setDraft _

theorem requestMore (h : Alike r f g) (depth : Nat) :
    Alike r (f.requestMore depth) (g.requestMore depth) := by
  rw [Framer.requestMore, Framer.requestMore, h.indentation]
  exact (((h.setDepth depth).ask _).cue _ _).ask _

theorem continueStatement (h : Alike r f g) (lastLine : Text) :
    Alike r (f.continueStatement lastLine) (g.continueStatement lastLine) := by
  have hasked := (h.cue .moreLines .moreLines).ask .requestLine
  rw [Framer.continueStatement, Framer.continueStatement]
  dsimp only
  rw [hasked.draft, hasked.indentation]
  split
  · exact (hasked.setDepth _).ask _
  · exact hasked

theorem inputRequested (h : Alike r f g) : Alike r f.inputRequested g.inputRequested :=
  (h.cue _ _).setDepth 1

theorem reset (h : Alike r f g) : Alike r f.reset g.reset := by
  have hempty := ((h.setDraft {}).setInFlight none).setQueued []
  exact ((hempty.ask (.setPlainText false)).ask .clearInput).cue _ _

/-- Whether the prompt is printed may differ, but nothing else hangs on that. -/
theorem renderPrompt (h : Alike r f g) : Alike r f.renderPrompt.2 g.renderPrompt.2 := by
  have hshow (f : Framer γ) : Alike Eq f f.renderPrompt.2 := by
    rcases f.renderPrompt_cases with he | he
    · rw [he]
      exact ⟨rfl, rfl, rfl, rfl, rfl, rfl, rfl, rfl⟩
    · rw [he]
      exact ⟨rfl, rfl, rfl, rfl, rfl, rfl, rfl, by simp [Framer.sent, note, Deed.isSent]⟩
  exact (h.left (hshow f)).right (hshow g)

/-! ### Requests -/

variable [Interpreter γ]

theorem isWaiting (h : Alike r f g) (hr : Indistinct r) : g.isWaiting = f.isWaiting :=
  hr.isWaiting h.interpreter

/-- The same command is answered alike. -/
theorem execute (h : Alike r f g) (hr : Indistinct r) (command : Text) :
    (g.execute command).1 = (f.execute command).1 ∧
      Alike r (f.execute command).2 (g.execute command).2 := by
  obtain ⟨hanswer, hstate⟩ := hr.execute command h.interpreter
  refine ⟨hanswer, { h with interpreter := hstate, sent := ?_ }⟩
  have hwaiting := h.isWaiting hr
  have hsent := h.sent
  simp only [Framer.sent] at hsent
  simp only [Framer.sent, Framer.execute, note, List.filter_append, hsent, hanswer, hwaiting]

theorem interrupt (h : Alike r f g) (hr : Indistinct r) :
    g.interrupt.1 = f.interrupt.1 ∧ Alike r f.interrupt.2 g.interrupt.2 := by
  obtain ⟨hanswer, hstate⟩ := hr.interrupt h.interpreter
  refine ⟨hanswer, { h with interpreter := hstate, sent := ?_ }⟩
  have hsent := h.sent
  simp only [Framer.sent] at hsent
  simp only [Framer.sent, Framer.interrupt, note, List.filter_append, hsent, hanswer]

theorem send (h : Alike r f g) (hr : Indistinct r) (pending : PendingCommand) :
    Alike r (f.send pending) (g.send pending) := by
  obtain ⟨hanswer, hstate⟩ := h.execute hr pending.command
  cases he : (f.execute pending.command).1 with
  | ok _ =>
    rw [send_of_ok he, send_of_ok (hanswer.trans he)]
    exact hstate.setInFlight _
  | error fault =>
    rw [send_of_error he, send_of_error (hanswer.trans he)]
    exact (((hstate.setQueued []).setDepth 0).cue _ _).ask _

/-- A line for the running program ends the wait for both or for neither. -/
theorem sendDraft (h : Alike r f g) (hr : Indistinct r) (line : Text) :
    Alike r (f.sendDraft line) (g.sendDraft line) := by
  have htake : Alike r { f with draft := f.draft.take.2 } { g with draft := f.draft.take.2 } :=
    h.setDraft _
  cases hw : f.isWaiting with
  | true =>
    obtain ⟨hanswer, hstate⟩ := htake.execute hr f.draft.text
    have hwaiting := hstate.isWaiting hr
    rw [sendDraft_of_waiting hw, sendDraft_of_waiting ((h.isWaiting hr).trans hw), h.draft]
    revert hanswer hstate hwaiting
    generalize Framer.execute { f with draft := f.draft.take.2 } f.draft.text = e
    generalize Framer.execute { g with draft := f.draft.take.2 } f.draft.text = e'
    obtain ⟨answer, k⟩ := e
    obtain ⟨answer', k'⟩ := e'
    rintro rfl hstate hwaiting
    cases answer' with
    | ok _ =>
      dsimp only at hstate hwaiting ⊢
      rw [hwaiting]
      split
      · exact hstate
      · exact (hstate.setDepth 0).cue _ _
    | error fault => exact hstate.ask _
  | false =>
    have hstarted := htake.cue .started .started
    rw [sendDraft_of_not_waiting hw, sendDraft_of_not_waiting ((h.isWaiting hr).trans hw), h.draft]
    dsimp only
    revert hstarted
    generalize Framer.cue { f with draft := f.draft.take.2 } .started = k
    generalize Framer.cue { g with draft := f.draft.take.2 } .started = k'
    intro hstarted
    rw [h.inFlight, h.queued]
    split
    · exact hstarted.setQueued _
    · exact hstarted.send hr _

/-! ### Typed text -/

theorem conclude (h : Alike r f g) (hr : Indistinct r) (line : Text) (kind : LineKind) :
    Alike r (f.conclude line kind) (g.conclude line kind) := by
  cases kind with
  | continued => exact h.cue _ _
  | indented depth => exact h.requestMore depth
  | blank =>
    rw [Framer.conclude, Framer.conclude, blankClosesNothing, blankClosesNothing, h.draft,
      h.inFlight]
    split
    · exact h
    · exact h.sendDraft hr line
  | opensString style => exact h.sendDraft hr line
  | closesString => exact h.sendDraft hr line
  | insideString => exact h.sendDraft hr line
  | complete => exact h.sendDraft hr line

theorem dispatch (h : Alike r f g) (hr : Indistinct r) (line : Text) :
    Alike r (f.dispatch line) (g.dispatch line) := by
  have hput := h.append line
  revert hput
  rw [Framer.dispatch, Framer.dispatch]
  dsimp only
  rw [h.draft, h.indentation]
  generalize { f with draft := f.draft.append line } = k
  generalize { g with draft := f.draft.append line } = k'
  intro hput
  rw [hput.isWaiting hr]
  split
  · exact hput.sendDraft hr line
  · split
    · exact hput
    · exact ((hput.setRegion _).ask _).cue _ _
    · have hclosed := ((hput.setRegion none).ask (.setPlainText false)).cue
        .stringClosed .stringClosed
      rw [closingKind, closingKind, hclosed.draft, hclosed.indentation]
      exact hclosed.conclude hr line _
    · exact hput.conclude hr line _

theorem processLine (h : Alike r f g) (hr : Indistinct r) (line : Text) :
    Alike r (f.processLine line) (g.processLine line) := by
  have hcloses : g.closesBlock (Text.trimEnd line) = f.closesBlock (Text.trimEnd line) := by
    simp only [closesBlock, h.indentation, h.draft, h.isWaiting hr]
  rw [Framer.processLine, Framer.processLine, hcloses]
  split
  · exact h.dispatch hr _
  · split
    · exact (h.dispatch hr _).dispatch hr _
    · exact h.dispatch hr _

theorem processText (h : Alike r f g) (hr : Indistinct r) (text : Text) :
    Alike r (f.processText text) (g.processText text) := by
  have hlines (lines : List Text) : ∀ {f g : Framer γ}, Alike r f g →
      Alike r (lines.foldl Framer.processLine f) (lines.foldl Framer.processLine g) := by
    induction lines with
    | nil => exact fun h => h
    | cons line lines ih => exact fun h => ih (h.processLine hr line)
  rw [Framer.processText, Framer.processText]
  split
  · exact h.processLine hr text
  · exact hlines _ h

theorem finish (h : Alike r f g) (hr : Indistinct r) : Alike r f.finish g.finish := by
  rw [Framer.finish, Framer.finish, h.draft]
  split
  · exact (h.dispatch hr _).ask _
  · exact h.ask _

theorem submit (h : Alike r f g) (hr : Indistinct r) (text : Text) (execAnyway : Bool) :
    Alike r (f.submit text execAnyway) (g.submit text execAnyway) := by
  have htext := h.processText hr text
  rw [submit_eq, submit_eq, htext.draft, h.draft]
  split
  · exact htext.finish hr
  · exact htext

/-! ### Reports -/

theorem commandExecuted (h : Alike r f g) : Alike r f.commandExecuted g.commandExecuted :=
  h.cue _ _

theorem settle (h : Alike r f g) (hr : Indistinct r) (lastLine : Text) (more : Bool) :
    Alike r (f.settle lastLine more) (g.settle lastLine more) := by
  have hfree := h.setInFlight none
  have hwaiting := hfree.isWaiting hr
  rw [Framer.settle, Framer.settle, hwaiting]
  split
  · exact hfree.continueStatement lastLine
  · split
    · exact hfree.setDepth 0
    · exact hfree.commandExecuted.setDepth 0

theorem sendNext (h : Alike r f g) (hr : Indistinct r) : Alike r f.sendNext g.sendNext := by
  cases hq : f.queued with
  | nil =>
    rw [Framer.sendNext, Framer.sendNext, h.queued, hq]
    exact h
  | cons next rest =>
    rw [Framer.sendNext, Framer.sendNext, h.queued, hq]
    exact ((h.setQueued rest).cue _ _).send hr next

theorem respond (h : Alike r f g) (hr : Indistinct r) (more : Bool) :
    Alike r (f.respond more) (g.respond more) := by
  cases hl : f.inFlight with
  | none =>
    rw [respond_of_none hl, respond_of_none (h.inFlight.trans hl)]
    exact h
  | some lastLine =>
    rw [respond_of_some hl, respond_of_some (h.inFlight.trans hl)]
    exact (h.settle hr lastLine more).sendNext hr

end Alike

end Framer

end LineFraming
