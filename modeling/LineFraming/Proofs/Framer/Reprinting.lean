import LineFraming.Proofs.Framer.Rest
import LineFraming.Proofs.Framer.Showing

/-!
# When the prompt is due again

The prompt is not printed anew in every round, only when it is due. So whatever changes what it
shows, the prompt itself or the indentation behind it, has to make it due. All that is asked of the
screen does, except for clearing the input, and whatever the screen is not asked leaves both alone.

The input is cleared when a statement is completed by force. Completing it makes the prompt due in
most cases: a command is sent, or the running program has got its line, and the prompt moves. It is
not due where nothing was typed, where an empty line is only kept, and where the running program
takes it and the prompt stays as it is.

## Main definitions

* `Framer.Marks` — the prompt stays as it is, unless it is due
* `Framer.Reprints` — and so does the indentation behind it
* `Framer.FinishesUnseen` — completing the statement does not make the prompt due

## Main results

* `Framer.shows_reprints` — every step that the screen sees reprints, except for clearing the input
* `Framer.dispatch_newline` — what becomes of an empty line
* `Framer.needsPrompt_finish_iff` — whether the prompt is due once a statement has been completed
-/

namespace LineFraming.Framer

variable {γ : Type} {f g h : Framer γ}

/-- The prompt is due afterwards unless it was not due before and stays as it is. Nothing is printed
on the way, and the output works as before. -/
structure Marks (f g : Framer γ) : Prop where
  broken : g.screen.broken = f.screen.broken
  printed : g.printed = f.printed
  kept : g.screen.needsPrompt = false → f.screen.needsPrompt = false ∧ g.prompt = f.prompt

/-- And the indentation behind it stays as it is. -/
structure Reprints (f g : Framer γ) : Prop extends Marks f g where
  indent : g.screen.needsPrompt = false → g.screen.indent = f.screen.indent

theorem Marks.trans (hf : Marks f g) (hg : Marks g h) : Marks f h where
  broken := hg.broken.trans hf.broken
  printed := hg.printed.trans hf.printed
  kept hn := by
    obtain ⟨hng, hcg⟩ := hg.kept hn
    obtain ⟨hnf, hcf⟩ := hf.kept hng
    exact ⟨hnf, hcg.trans hcf⟩

/-- A prompt that is due stays due. -/
theorem Marks.due (h : Marks f g) (hn : f.screen.needsPrompt = true) :
    g.screen.needsPrompt = true := by
  by_contra hg
  obtain ⟨hf, -⟩ := h.kept (Bool.not_eq_true _ ▸ hg)
  rw [hn] at hf
  cases hf

namespace Reprints

/-- A change that makes the prompt due. -/
theorem of_due (hb : g.screen.broken = f.screen.broken) (hp : g.printed = f.printed)
    (hn : g.screen.needsPrompt = true) : Reprints f g where
  broken := hb
  printed := hp
  kept hg := by simp [hn] at hg
  indent hg := by simp [hn] at hg

/-- A change of anything that the prompt does not show. -/
theorem of_eq (hb : g.screen.broken = f.screen.broken) (hp : g.printed = f.printed)
    (hn : g.screen.needsPrompt = f.screen.needsPrompt) (hc : g.prompt = f.prompt)
    (hi : g.screen.indent = f.screen.indent) : Reprints f g where
  broken := hb
  printed := hp
  kept hg := ⟨hn ▸ hg, hc⟩
  indent _ := hi

theorem trans (hf : Reprints f g) (hg : Reprints g h) : Reprints f h where
  toMarks := hf.toMarks.trans hg.toMarks
  indent hn := (hg.indent hn).trans (hf.indent (hg.kept hn).1)

end Reprints

/-- A prompt that moves is due. -/
theorem needsPrompt_cue (f : Framer γ) (c : Prompt.Cue) :
    (f.cue c).screen.needsPrompt =
      (f.screen.needsPrompt || decide (f.prompt.after c ≠ f.prompt)) := by
  rw [cue]
  dsimp only
  split
  · rename_i hstay
    simp [hstay]
  · rename_i hmove
    rw [decide_eq_true hmove, Bool.or_true]
    split <;> rfl

@[simp] theorem broken_ask (f : Framer γ) (a : Screen.Action) :
    (f.ask a).screen.broken = f.screen.broken := by
  cases a <;> rfl

theorem reprints_cue (f : Framer γ) (c : Prompt.Cue) : Reprints f (f.cue c) := by
  have hbroken : (f.cue c).screen.broken = f.screen.broken :=
    view_cue f c (fun g => g.screen.broken) broken_ask fun _ _ => rfl
  by_cases hstay : f.prompt.after c = f.prompt
  · refine .of_eq hbroken (printed_cue f c) ?_ ((prompt_cue f c).trans hstay) (indent_cue f c)
    simp [needsPrompt_cue, hstay]
  · exact .of_due hbroken (printed_cue f c) (by simp [needsPrompt_cue, hstay])

theorem reprints_ask (f : Framer γ) {a : Screen.Action} (ha : a.isIncidental = true) :
    Reprints f (f.ask a) := by
  have hbroken := broken_ask f a
  have hprinted := printed_ask f a
  cases a with
  | scrollToEnd => exact .of_eq hbroken hprinted rfl rfl rfl
  | requestLine => exact .of_due hbroken hprinted rfl
  | insertIndent indent => exact .of_due hbroken hprinted rfl
  | showHint message => exact .of_due hbroken hprinted rfl
  | writeOutput stream text => exact .of_due hbroken hprinted rfl
  | _ => cases ha

/-- **Every step that the screen sees** keeps the indentation or makes the prompt due, except for
clearing the input. -/
theorem shows_reprints : Shows (γ := γ) Reprints where
  unseen hu := .of_eq (by rw [hu.screen]) hu.printed (by rw [hu.screen]) hu.prompt
    (by rw [hu.screen])
  trans := .trans
  ask f _ := reprints_ask f
  cue := reprints_cue
  setRegion _ _ := .of_eq (broken_ask _ _) (printed_ask _ _) rfl rfl rfl

theorem shows_marks : Shows (γ := γ) Marks where
  unseen hu := (shows_reprints.unseen hu).toMarks
  trans := .trans
  ask f _ ha := (shows_reprints.ask f ha).toMarks
  cue f c := (shows_reprints.cue f c).toMarks
  setRegion f region := (shows_reprints.setRegion f region).toMarks

/-- Clearing the input keeps the prompt, and it does not make it due. -/
theorem marks_clearInput (f : Framer γ) : Marks f (f.ask .clearInput) where
  broken := rfl
  printed := printed_ask f .clearInput
  kept hn := ⟨hn, rfl⟩

/-! ### Completing a statement -/

variable [Interpreter γ]

/-- Nothing is prefilled once a statement has been completed by force. -/
theorem indent_finish (f : Framer γ) : f.finish.screen.indent = [] := rfl

/-- An empty line is the answer that the running program waits for, or it stays in the open string,
or it closes the block, if there is one. -/
theorem dispatch_newline (f : Framer γ) :
    f.dispatch ['\n'] =
      let g := { f with draft := f.draft.append ['\n'] }
      if f.isWaiting then g.sendDraft ['\n']
      else if f.draft.region.isSome || f.draft.isBlank && f.blankClosesNothing then g
      else g.sendDraft ['\n'] := by
  have hblank : Text.isBlank ['\n'] = true := by decide
  rw [dispatch]
  dsimp only
  rw [Draft.region_append, Draft.depth_append]
  refine if_congr Iff.rfl rfl ?_
  cases hr : f.draft.region with
  | some style =>
    have hkind : LineKind.of f.indentation (some style) f.draft.depth ['\n'] = .insideString := by
      rw [LineKind.of, TripleQuote.toggles_of_isBlank style hblank]
      rfl
    rw [hkind]
    rfl
  | none =>
    have hkind : LineKind.of f.indentation none f.draft.depth ['\n'] = .blank := by
      rw [LineKind.of, TripleQuote.openedBy_of_isBlank hblank]
      rfl
    rw [hkind]
    simp [conclude, blankClosesNothing, Draft.depth_append, hblank]

/-- A draft that is sent as a command makes the prompt due, where a line could be typed. -/
theorem needsPrompt_sendDraft_of_not_waiting (hw : f.isWaiting = false)
    (hp : f.prompt ≠ .executing) (line : Text) :
    (f.sendDraft line).screen.needsPrompt = true := by
  have hstarted : ({ f with draft := f.draft.take.2 }.cue .started).screen.needsPrompt = true := by
    simp [needsPrompt_cue, Prompt.after, hp.symm]
  rw [sendDraft_of_not_waiting hw]
  dsimp only
  split
  · exact hstarted
  · exact (shows_marks.send _ _).due hstarted

/-- A line for the running program makes the prompt due unless it is taken, and the program goes on
waiting or the prompt is the ordinary one already. -/
theorem needsPrompt_sendDraft_of_waiting (hw : f.isWaiting = true)
    (hn : f.screen.needsPrompt = false) (line : Text) :
    (f.sendDraft line).screen.needsPrompt = false ↔
      (Interpreter.execute f.draft.text f.interpreter).1 = .ok () ∧
        (Interpreter.isWaiting (Interpreter.execute f.draft.text f.interpreter).2 = true ∨
          f.prompt = .ordinary) := by
  have hstate : isWaiting (Framer.execute { f with draft := f.draft.take.2 } f.draft.text).2 =
      Interpreter.isWaiting (Interpreter.execute f.draft.text f.interpreter).2 := rfl
  have hscreen : (Framer.execute { f with draft := f.draft.take.2 } f.draft.text).2.screen =
      f.screen := rfl
  have hprompt : (Framer.execute { f with draft := f.draft.take.2 } f.draft.text).2.prompt =
      f.prompt := rfl
  have hanswer : (Framer.execute { f with draft := f.draft.take.2 } f.draft.text).1 =
      (Interpreter.execute f.draft.text f.interpreter).1 := rfl
  rw [sendDraft_of_waiting hw, ← hstate, ← hanswer]
  revert hscreen hprompt
  generalize Framer.execute { f with draft := f.draft.take.2 } f.draft.text = e
  obtain ⟨answer, g⟩ := e
  intro hscreen hprompt
  dsimp only at hscreen hprompt ⊢
  cases answer with
  | error fault => simp [report, ask, note, Screen.perform]
  | ok _ =>
    dsimp only
    cases hg : g.isWaiting with
    | true =>
      rw [if_pos rfl, hscreen]
      simp [hn]
    | false =>
      have hdepth : (g.setDepth 0).screen = f.screen := hscreen
      rw [if_neg Bool.false_ne_true, needsPrompt_cue, hdepth, prompt_setDepth, hprompt, hn]
      simp [Prompt.after, eq_comm (a := Prompt.ordinary)]

/-- Completing the statement does not make the prompt due. Either nothing is typed, or the running
program takes the empty line, and goes on waiting or leaves the ordinary prompt where it is, or the
empty line is only kept. -/
def FinishesUnseen (f : Framer γ) : Prop :=
  f.draft.text?.isSome = true →
    if f.isWaiting then
      let answer := Interpreter.execute (f.draft.append ['\n']).text f.interpreter
      answer.1 = .ok () ∧ (Interpreter.isWaiting answer.2 = true ∨ f.prompt = .ordinary)
    else f.draft.region.isSome = true ∨ f.draft.isBlank = true ∧ f.blankClosesNothing = true

/-- **Where a line could be typed, the prompt is due behind a statement that was completed by
force,** with these exceptions. -/
theorem needsPrompt_finish_iff (hn : f.screen.needsPrompt = false) (hp : f.prompt ≠ .executing) :
    f.finish.screen.needsPrompt = false ↔ f.FinishesUnseen := by
  have hclear (g : Framer γ) : (g.ask .clearInput).screen.needsPrompt = g.screen.needsPrompt := rfl
  rw [finish, hclear, FinishesUnseen]
  cases ht : f.draft.text?.isSome with
  | false => simp [hn]
  | true =>
    rw [if_pos rfl, dispatch_newline]
    dsimp only
    cases hw : f.isWaiting with
    | true =>
      have hput : isWaiting { f with draft := f.draft.append ['\n'] } = true := hw
      simp [needsPrompt_sendDraft_of_waiting hput hn]
    | false =>
      have hput : isWaiting { f with draft := f.draft.append ['\n'] } = false := hw
      have hsent := needsPrompt_sendDraft_of_not_waiting hput hp ['\n']
      have hkept : (f.draft.region.isSome || f.draft.isBlank && f.blankClosesNothing) = true ↔
          f.draft.region.isSome = true ∨ f.draft.isBlank = true ∧ f.blankClosesNothing = true := by
        simp
      rw [if_neg Bool.false_ne_true, if_neg Bool.false_ne_true, ← hkept]
      split
      · rename_i hk
        simp [hk, hn]
      · rename_i hk
        simp [hk, hsent]

end LineFraming.Framer
