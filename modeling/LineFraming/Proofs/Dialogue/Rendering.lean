import LineFraming.Proofs.Dialogue.Round
import LineFraming.Proofs.Framer.Reprinting

/-!
# What is shown is what is merged

Without an editor the user types behind the indentation that is printed with the prompt, and that
indentation is put in front of the line afterwards. The two should be the same. But the indentation
is printed when the prompt is, which is once for each line at most, and it is taken from the screen
when the line comes in. In between, anything may happen.

So the prompt is like a copy of what the screen holds, and a mark says that the copy is out of date.
In front of every wait the copy is renewed if it is marked. What has to be shown of a round is that
it marks the copy if it changes the original.

One round does not. An interrupt clears what is prefilled, and that alone marks nothing. If nothing
else does in the same round, the user goes on typing behind an indentation that is not there any
more. The condition below is exact: it is the only way into such a state, and it always leads there.

The interpreter may refuse commands, wait for lines and move on its own at any time. The output
works, and there is no editor.

## Main definitions

* `Dialogue.merged` — the indentation that will be put in front of the next line
* `Dialogue.shown?` — the indentation that was printed last
* `Dialogue.Faithful` — the two are the same while a line can be typed
* `Dialogue.Renewed` — what holds in all states in front of a wait
* `Dialogue.Erases` — an interrupt that clears what is shown and does not show that

## Main results

* `Dialogue.submitLine_eq` — what becomes of a typed line
* `Dialogue.Renewed.faithful_happen_iff` — which events keep what is shown and what is merged the
  same
* `Dialogue.shown_eq_merged_iff` — it is the same in all states if and only if nothing is erased
* `Dialogue.exists_shown_ne_merged` — a run in which it is not
-/

namespace LineFraming

namespace Dialogue

open Framer (Marks Mirrored Reprints marks_clearInput shows_marks shows_mirrored shows_reprints)

variable {γ : Type} {d : Dialogue γ}

/-- The prefilled indentation that is merged into a line if one is typed now. -/
def merged (d : Dialogue γ) : Text := d.console.framer.lineSubmitted.takeIndent.1

theorem merged_eq (d : Dialogue γ) : d.merged = d.console.framer.screen.indent := rfl

/-- Without an editor the merged line is entered. -/
theorem submitLine_eq [Interpreter γ] (h : d.editor = none) (line : Text) :
    d.submitLine line =
      let framer := d.console.framer.lineSubmitted.takeIndent.2
      (d.withFramer framer).conclude
        ((d.withFramer framer).console.enter
          (Prefill.merge d.console.framer.indentation d.merged line)) := by
  have hnone : d.editor.isSome = false := by
    rw [h]
    rfl
  simp [submitLine, hnone, withFramer, merged, Framer.takeIndent, Framer.lineSubmitted]

/-- The indentation behind the prompt that was printed last. -/
def shown? (d : Dialogue γ) : Option Text := d.console.framer.printed.getLast?

/-- As long as a line can be typed, the indentation that stands behind the prompt is the one that
will be merged. -/
def Faithful (d : Dialogue γ) : Prop := d.displays = true → d.shown? = some d.merged

/-- What holds behind every round, before the prompt is shown: if the loop could not show it the
last time, it is due. -/
structure Standing (d : Dialogue γ) : Prop where
  editor : d.editor = none
  broken : d.console.framer.screen.broken = none
  mirrored : d.console.framer.Mirrored
  due : d.inputOpen = true → d.exited = false → d.invites = false →
    d.console.framer.screen.needsPrompt = true

/-- What holds in front of every wait: a prompt that the loop waits behind is not due. -/
structure Renewed (d : Dialogue γ) : Prop extends Standing d where
  renewed : d.displays = true → d.console.framer.screen.needsPrompt = false

/-! ### Showing the prompt -/

/-- In front of a wait the prompt is printed if it is due and a line can be typed. -/
theorem Standing.settle_cases (h : Standing d) :
    (d.displays = true ∧ d.console.framer.screen.needsPrompt = true ∧
      d.settle = d.withFramer ({ d.console.framer with
        screen := { d.console.framer.screen with needsPrompt := false } }.note
          (.prompted d.console.framer.screen.promptText d.console.framer.screen.indent))) ∨
    ((d.displays = true → d.console.framer.screen.needsPrompt = false) ∧ d.settle = d) := by
  have hwants (hd : d.displays = true) :
      d.console.framer.screen.wantsPrompt = d.console.framer.screen.needsPrompt := by
    rw [displays_iff, invites_iff] at hd
    simp [Screen.wantsPrompt, h.mirrored.prompt, Prompt.acceptsInput, hd.2.2.2.2]
  rw [settle, not_displays]
  cases hd : d.displays with
  | false => exact .inr ⟨fun he => absurd he Bool.false_ne_true, rfl⟩
  | true =>
    rw [if_neg (by simp), h.editor]
    cases hn : d.console.framer.screen.needsPrompt with
    | true =>
      rw [Framer.renderPrompt_of_wanted ((hwants hd).trans hn) h.broken]
      exact .inl ⟨rfl, rfl, rfl⟩
    | false =>
      rw [Framer.renderPrompt_of_not_wanted ((hwants hd).trans hn)]
      exact .inr ⟨fun _ => rfl, rfl⟩

theorem Standing.renewed_settle (h : Standing d) : d.settle.Renewed := by
  obtain ⟨hd, -, hs⟩ | ⟨hd, hs⟩ := h.settle_cases
  · rw [hs]
    have hinvited : d.invites = true := (displays_iff.mp hd).2
    refine ⟨⟨h.editor, h.broken, ?_, fun _ _ hi => ?_⟩, fun _ => rfl⟩
    · exact h.mirrored.of_eq rfl rfl rfl rfl
        (by simp [withFramer, Framer.told, Framer.note, Deed.prompt?])
    · simp_all [Dialogue.invites, withFramer, Framer.note]
  · rw [hs]
    exact ⟨h, hd⟩

/-- A prompt that is due shows what will be merged, once it has been shown. -/
theorem Standing.faithful_settle_iff (h : Standing d) :
    d.settle.Faithful ↔ (d.console.framer.screen.needsPrompt = false → d.Faithful) := by
  obtain ⟨-, hn, hs⟩ | ⟨hd, hs⟩ := h.settle_cases
  · rw [hs]
    refine iff_of_true (fun _ => ?_) (fun hf => by simp [hn] at hf)
    simp [shown?, merged, withFramer, Framer.printed, Framer.note, Deed.printed?,
      Framer.lineSubmitted, Framer.takeIndent, Screen.lineSubmitted, Screen.takeIndent]
  · rw [hs]
    exact ⟨fun hf _ => hf, fun hf hdisplays => hf (hd hdisplays) hdisplays⟩

theorem renewed_start (g : γ) (texts : PromptTexts) (indentation : Indentation) (capacity : Nat) :
    (start (Console.fresh g { texts := texts } indentation capacity) none).Renewed :=
  Standing.renewed_settle
    ⟨rfl, rfl, Console.mirrored_fresh g texts none indentation capacity, fun _ _ _ => rfl⟩

theorem Standing.close (h : Standing d) : d.close.Standing := by
  rw [Dialogue.close]
  split
  · exact ⟨h.editor, h.broken, h.mirrored, h.due⟩
  · exact h

variable [Interpreter γ]

theorem marks_apply (d : Dialogue γ) (o : Occurrence) :
    Marks d.console.framer (d.apply o).console.framer :=
  shows_apply shows_marks marks_clearInput (fun _ => ⟨rfl, rfl, fun h => by cases h⟩) d o

theorem mirrored_apply (h : d.console.framer.Mirrored) (o : Occurrence) :
    (d.apply o).console.framer.Mirrored :=
  shows_apply shows_mirrored (fun _ => Mirrored.clearInput)
    (fun _ hf => hf.of_eq rfl rfl rfl rfl rfl) d o h

/-- Behind a typed line the prompt is due. -/
theorem needsPrompt_submitLine (d : Dialogue γ) (line : Text) :
    (d.submitLine line).console.framer.screen.needsPrompt = true :=
  (shows_submitLine shows_marks marks_clearInput d line).due rfl

/-- A report that the interpreter is not gone keeps the indentation or makes the prompt due. -/
theorem reprints_notice (c : Console γ) {n : Interpreter.Notice} (hn : ∀ code, n ≠ .exited code) :
    Reprints c.framer (c.notice n).framer := by
  cases n with
  | ready => exact shows_reprints.refl _
  | response more => exact shows_reprints.respond c.framer more
  | executed => exact shows_reprints.commandExecuted c.framer
  | inputRequested => exact shows_reprints.inputRequested c.framer
  | promptRequested prompt => exact shows_reprints.cue c.framer _
  | output stream text => exact shows_reprints.ask c.framer (a := .writeOutput stream text) rfl
  | exited code => exact absurd rfl (hn code)

/-- A round without an interrupt keeps the indentation or makes the prompt due, as long as the
interpreter is there. -/
theorem indent_apply {o : Occurrence} (ho : o.isInterrupt = false)
    (hx : (d.apply o).exited = false)
    (hn : (d.apply o).console.framer.screen.needsPrompt = false) :
    (d.apply o).console.framer.screen.indent = d.console.framer.screen.indent := by
  cases o with
  | line text =>
    rw [apply] at hn ⊢
    split at hn
    · rename_i he
      rw [if_pos he]
    · rw [needsPrompt_submitLine] at hn
      cases hn
  | notice n =>
    cases n with
    | exited code => cases hx
    | _ => exact (reprints_notice d.console (by simp)).indent hn
  | endOfInput => rfl
  | endOfNotices => rfl
  | readInterrupted => cases ho
  | interruptSignal => cases ho

/-! ### What is kept -/

namespace Standing

/-- A prompt that is not due behind a round was shown in front of it. -/
theorem invites_of_apply (h : Standing d) {o : Occurrence} (hi : (d.apply o).inputOpen = true)
    (hx : (d.apply o).exited = false)
    (hn : (d.apply o).console.framer.screen.needsPrompt = false) : d.invites = true := by
  have hround := d.round_apply o
  by_contra hd
  have hdue := h.due (hround.inputOpen hi) (hround.exited hx) (Bool.not_eq_true _ ▸ hd)
  rw [((marks_apply d o).kept hn).1] at hdue
  cases hdue

theorem apply (h : Standing d) (o : Occurrence) : (d.apply o).Standing where
  editor := (d.round_apply o).editor.trans h.editor
  broken := (marks_apply d o).broken.trans h.broken
  mirrored := mirrored_apply h.mirrored o
  due hi hx hv := by
    by_contra hn
    have hkept : (d.apply o).console.framer.screen.needsPrompt = false := Bool.not_eq_true _ ▸ hn
    have hinvited := invites_iff.mp (h.invites_of_apply hi hx hkept)
    have hprompt := ((marks_apply d o).kept hkept).2
    have henabled := (d.round_apply o).enabled hx hinvited.2.2.1
    have hinvites : (d.apply o).invites = true :=
      invites_iff.mpr ⟨hi, hx, henabled, hprompt ▸ hinvited.2.2.2⟩
    rw [hv] at hinvites
    cases hinvites

end Standing

theorem Renewed.feed (h : Renewed d) (o : Occurrence) : (d.feed o).Renewed := by
  rw [Dialogue.feed]
  split
  · exact h
  · exact (h.apply o).close.renewed_settle

theorem Renewed.happen (h : Renewed d) (e : Event γ) : (d.happen e).Renewed := by
  cases e with
  | occurs o => exact h.feed o
  | proceed g =>
    have hmirrored : (d.happen (.proceed g)).console.framer.Mirrored :=
      h.mirrored.of_eq rfl rfl rfl rfl rfl
    exact ⟨⟨h.editor, h.broken, hmirrored, h.due⟩, h.renewed⟩

/-- **A round is faithful if and only if it keeps the indentation or makes the prompt due.** -/
theorem Renewed.faithful_round_iff (h : Renewed d) (hf : d.Faithful) (hr : d.result = none)
    (o : Occurrence) :
    (d.apply o).close.settle.Faithful ↔
      ((d.apply o).displays = true → (d.apply o).console.framer.screen.needsPrompt = false →
        (d.apply o).console.framer.screen.indent = d.console.framer.screen.indent) := by
  have hstanding := h.apply o
  rw [hstanding.close.faithful_settle_iff]
  cases hd : (d.apply o).displays with
  | false =>
    refine iff_of_true (fun _ hc => ?_) (fun he => by cases he)
    rw [displays_close _ hc] at hd
    cases hd
  | true =>
    obtain ⟨-, hi⟩ := displays_iff.mp hd
    obtain ⟨hopen, hthere, -⟩ := invites_iff.mp hi
    rw [close_of_invites hi, Faithful, hd]
    simp only [true_imp_iff]
    refine forall_congr' fun hn => ?_
    have hdisplayed := displays_iff.mpr ⟨hr, h.invites_of_apply hopen hthere hn⟩
    have hprinted : (d.apply o).shown? = d.shown? :=
      congrArg List.getLast? (marks_apply d o).printed
    rw [hprinted, hf hdisplayed, Option.some_inj, merged_eq, merged_eq, eq_comm]

/-! ### Interrupts -/

/-- An interrupt clears what stands behind the prompt and does not make the prompt due: the
interpreter takes it, and completing the statement is not seen on the screen. -/
def Erases (d : Dialogue γ) : Event γ → Prop
  | .occurs o => o.isInterrupt = true ∧ d.displays = true ∧ d.merged ≠ [] ∧
      d.console.framer.interrupt.1 = .ok () ∧ d.console.framer.interrupt.2.FinishesUnseen
  | .proceed _ => False

/-- Behind an interrupt that is taken, a prompt that is not due was not due before. -/
theorem Renewed.displays_interrupt_iff (h : Renewed d) (hr : d.result = none)
    (hok : d.console.framer.interrupt.1 = .ok ()) :
    (d.interrupt.displays = true ∧ d.interrupt.console.framer.screen.needsPrompt = false) ↔
      (d.displays = true ∧ d.console.framer.interrupt.2.FinishesUnseen) := by
  have hmarks : Marks d.console.framer.interrupt.2 d.console.framer.interrupt.2.finish :=
    shows_marks.finish marks_clearInput _
  have hunseen := Framer.unseen_interrupt d.console.framer
  rw [interrupt_of_ok hok, displays_iff, displays_iff, invites_iff, invites_iff]
  constructor
  · rintro ⟨⟨-, hi, hx, he, hp⟩, hn⟩
    obtain ⟨hdue, hprompt⟩ := hmarks.kept hn
    have hshown : d.console.framer.prompt ≠ .executing := by
      rw [← hunseen.prompt, ← hprompt]
      exact hp
    have hf := (Framer.needsPrompt_finish_iff hdue (hunseen.prompt ▸ hshown)).mp hn
    exact ⟨⟨hr, hi, hx, he, hshown⟩, hf⟩
  · rintro ⟨⟨-, hi, hx, he, hp⟩, hf⟩
    have hinvited := displays_iff.mpr ⟨hr, invites_iff.mpr ⟨hi, hx, he, hp⟩⟩
    have hdue : d.console.framer.interrupt.2.screen.needsPrompt = false := h.renewed hinvited
    have hn := (Framer.needsPrompt_finish_iff hdue (hunseen.prompt ▸ hp)).mpr hf
    have hshown : d.console.framer.interrupt.2.finish.prompt ≠ .executing := by
      rw [(hmarks.kept hn).2]
      exact hp
    exact ⟨⟨hr, hi, hx, he, hshown⟩, hn⟩

/-- **An interrupt is faithful if and only if it erases nothing.** -/
theorem Renewed.faithful_interrupt_iff (h : Renewed d) (hf : d.Faithful) (hr : d.result = none)
    {o : Occurrence} (ho : o.isInterrupt = true) :
    (d.apply o).close.settle.Faithful ↔ ¬d.Erases (.occurs o) := by
  rw [h.faithful_round_iff hf hr, apply_of_isInterrupt ho]
  cases hok : d.console.framer.interrupt.1 with
  | error fault => simp [needsPrompt_interrupt_of_error hok, Erases, hok]
  | ok _ =>
    have hcleared : d.interrupt.console.framer.screen.indent = [] := by
      rw [interrupt_of_ok hok]
      exact Framer.indent_finish _
    rw [← and_imp, h.displays_interrupt_iff hr hok, hcleared, ← merged_eq, Erases]
    simp only [ho, hok, true_and, not_and, and_imp, ne_eq]
    exact ⟨fun hk hd hm hu => hm (hk hd hu).symm, fun hk hd hu => by_contra fun hm =>
      hk hd (fun he => hm he.symm) hu⟩

/-- **An event is faithful if and only if it erases nothing.** -/
theorem Renewed.faithful_happen_iff (h : Renewed d) (hf : d.Faithful) (e : Event γ) :
    (d.happen e).Faithful ↔ ¬d.Erases e := by
  cases e with
  | proceed g => exact iff_of_true hf id
  | occurs o =>
    rw [Dialogue.happen, Dialogue.feed]
    split
    · rename_i hidle
      refine iff_of_true hf ?_
      rintro ⟨ho, hd, -⟩
      obtain ⟨hr, hi⟩ := displays_iff.mp hd
      have hopen := (invites_iff.mp hi).1
      cases o with
      | interruptSignal => simp [hr, takes] at hidle
      | readInterrupted => simp [hr, takes, hopen] at hidle
      | _ => cases ho
    · rename_i hgoes
      have hr : d.result = none := by
        rw [Bool.or_eq_true, not_or] at hgoes
        simpa using hgoes.1
      cases ho : o.isInterrupt with
      | true => exact h.faithful_interrupt_iff hf hr ho
      | false =>
        refine iff_of_true ((h.faithful_round_iff hf hr o).mpr fun hd hn => ?_) fun he => ?_
        · exact indent_apply ho (invites_iff.mp (displays_iff.mp hd).2).2.1 hn
        · rw [Erases, ho] at he
          cases he.1

/-! ### All states -/

/-- **What is shown is what is merged if and only if no interrupt erases it.** Over any interpreter
and with an output that works, whatever occurs and in whatever order: in all states in which the
loop waits behind a prompt, the indentation that was printed with the prompt is the one that a typed
line gets in front of it, provided that no interrupt clears it while completing the statement is not
seen on the screen. Each such interrupt leads to a state in which it is not. -/
theorem shown_eq_merged_iff (g : γ) (texts : PromptTexts) (indentation : Indentation)
    (capacity : Nat) (es : List (Event γ)) :
    let behind (es : List (Event γ)) : Dialogue γ :=
      es.foldl happen (start (Console.fresh g { texts := texts } indentation capacity) none)
    (∀ before, before <+: es → (behind before).displays = true →
      (behind before).shown? = some (behind before).merged) ↔
    ∀ before e, before ++ [e] <+: es → ¬(behind before).Erases e := by
  intro behind
  have hfresh : (behind []).Faithful := nofun
  exact forall_prefix_iff Renewed Faithful (fun _ e h => h.happen e)
    (fun _ e h hf => h.faithful_happen_iff hf e) (renewed_start g texts indentation capacity)
    hfresh es

/-- The interpreter asks for more lines of a command, since a bracket is open, and the user gives
up. -/
def interruptedStatement : List (Event Obliging) :=
  [.occurs (.notice .ready), .occurs (.line ['(']), .proceed {},
    .occurs (.notice (.response true)), .occurs .interruptSignal]

/-- Then the indentation that the prompt shows is not merged. -/
theorem exists_shown_ne_merged :
    ∃ es : List (Event Obliging),
      let d := es.foldl happen (start (Console.fresh ({} : Obliging) {} {} 8) none)
      d.displays = true ∧ d.shown? = some [' ', ' ', ' ', ' '] ∧ d.merged = [] :=
  ⟨interruptedStatement, by decide, by decide, by decide⟩

end Dialogue

end LineFraming
