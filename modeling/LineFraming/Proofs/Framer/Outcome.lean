import LineFraming.Proofs.Framer.Composition
import LineFraming.Proofs.Quote

/-!
# What becomes of a line

A dispatched line is put into the draft first. What follows has two outcomes: the draft stays, or
it becomes the last command. Which of the two it is takes all the rules about blocks and strings;
that there is no third takes none of them. Whatever is true of the text that was typed, wherever it
is by now, follows from that alone.

## Main definitions

* `Draft.addition` — what a line adds to the text of a draft
* `Framer.Outcome` — the draft stays, or it becomes the last command

## Main results

* `Draft.openString_append` — the scan for strings and the mark for the open one stay together
* `Framer.InOrder.outcome_dispatch` — the outcome of a dispatched line
* `Framer.exists_answered` — commands can be answered until none is left
-/

namespace LineFraming

namespace Draft

/-- What a line adds to the text of a draft. -/
def addition (d : Draft) (line : Text) : Text :=
  if Text.isBlank line && d.isBlank then [] else terminated line

theorem text_append (d : Draft) (line : Text) :
    (d.append line).text = d.text ++ d.addition line := by
  rw [append, addition]
  split <;> simp [text]

theorem terminated_ne_nil (line : Text) : terminated line ≠ [] := by
  rw [terminated]
  split
  · rintro rfl
    simp_all
  · simp

theorem ended_terminated (line : Text) : Text.Ended (terminated line) := by
  unfold terminated
  split
  · exact fun _ => ‹_›
  · exact Text.ended_concat line

theorem ended_addition (d : Draft) (line : Text) : Text.Ended (d.addition line) := by
  unfold addition
  split
  · exact Text.ended_nil
  · exact ended_terminated line

/-- Once there is something in a draft, every line adds to it. -/
theorem addition_ne_nil {d : Draft} (h : d.isBlank = false) (line : Text) :
    d.addition line ≠ [] := by
  rw [addition, h, if_neg (by simp)]
  exact terminated_ne_nil line

/-- A trimmed line that is not blank is added with a line feed. -/
theorem addition_trimEnd (d : Draft) {line : Text} (h : Text.trimEnd line ≠ []) :
    d.addition (Text.trimEnd line) = Text.trimEnd line ++ ['\n'] := by
  have hlf : (Text.trimEnd line).getLast? ≠ some '\n' := Text.getLast?_trimEnd_ne (by decide)
  rw [addition, Text.isBlank_trimEnd_of_ne h, if_neg (by simp), terminated_of_ne hlf]

/-- A trimmed line adds one line, itself. -/
theorem lines_addition_trimEnd (d : Draft) {line : Text} (hn : '\n' ∉ line)
    (h : Text.trimEnd line ≠ []) :
    Text.lines (d.addition (Text.trimEnd line)) = [Text.trimEnd line] := by
  have hmem : '\n' ∉ Text.trimEnd line := fun hm => hn ((Text.trimEnd_prefix line).subset hm)
  have hcr : (Text.trimEnd line).getLast? ≠ some '\r' := Text.getLast?_trimEnd_ne (by decide)
  rw [d.addition_trimEnd h, Text.lines_terminated hmem hcr]

/-- A trimmed line is the last line of the draft that it is put into. -/
theorem lines_append_trimEnd {d : Draft} (hd : Text.Ended d.text) {line : Text} (hn : '\n' ∉ line)
    (h : Text.trimEnd line ≠ []) :
    Text.lines (d.append (Text.trimEnd line)).text =
      Text.lines d.text ++ [Text.trimEnd line] := by
  rw [text_append, Text.lines_append hd, d.lines_addition_trimEnd hn h]

/-- An empty line fills no line of a draft. -/
theorem filled_addition_newline (d : Draft) : Text.filled (d.addition ['\n']) = [] := by
  unfold addition
  split <;> rfl

/-- A trimmed line fills one, as it is. -/
theorem filled_addition_trimEnd (d : Draft) {line : Text} (hn : '\n' ∉ line)
    (h : Text.trimEnd line ≠ []) :
    Text.filled (d.addition (Text.trimEnd line)) = [Text.trimEnd line] := by
  rw [Text.filled, d.lines_addition_trimEnd hn h]
  simp [Text.isBlank_trimEnd_of_ne h]

/-- **A dispatched line does to the scan what it does to the mark.** -/
theorem openString_append {d : Draft} (hd : Text.Ended d.text) {line l : Text}
    (hn : '\n' ∉ line) (hl : Framer.Dispatched line l) :
    Text.openString (d.append l).text = TripleQuote.after (Text.openString d.text) l := by
  rw [text_append, Text.openString_append hd]
  cases hl with
  | empty =>
    have hblank : ∀ added ∈ Text.lines (d.addition ['\n']), Text.isBlank added = true := by
      intro added ha
      refine Text.isBlank_of_mem_lines ?_ ha
      rw [addition]
      split <;> rfl
    rw [TripleQuote.afterLines_of_isBlank _ hblank, TripleQuote.after_of_isBlank _ rfl]
  | trimmed hb =>
    rw [d.lines_addition_trimEnd hn hb]
    rfl

end Draft

namespace Framer

variable {γ : Type} {f g : Framer γ}

/-- The draft stays, or it becomes the last command. -/
structure Outcome (f g : Framer γ) : Prop where
  inOrder : g.InOrder
  cases : (g.issued = f.issued ∧ g.draft.text = f.draft.text) ∨
    (g.issued = f.issued ++ [f.draft.text] ∧ g.draft.text = [])

namespace Outcome

/-- Nothing is decided where the places stay as they are. -/
theorem of_eq (h : f.InOrder) (hi : g.inFlight = f.inFlight) (hq : g.queued = f.queued)
    (hc : g.commands = f.commands) (ht : g.draft.text = f.draft.text) : Outcome f g :=
  ⟨h.of_eq hi hq, .inl ⟨issued_of_eq hc hq, ht⟩⟩

/-- The outcome is the same from where nothing but what is shown differs. -/
theorem behind {f' : Framer γ} (h : Outcome f' g) (hi : f'.issued = f.issued)
    (ht : f'.draft.text = f.draft.text) : Outcome f g := by
  refine ⟨h.inOrder, ?_⟩
  rw [← hi, ← ht]
  exact h.cases

/-- No command is taken back. -/
theorem issued_prefix (h : Outcome f g) : f.issued <+: g.issued := by
  rcases h.cases with ⟨hi, _⟩ | ⟨hi, _⟩
  · exact hi ▸ List.prefix_rfl
  · exact hi ▸ List.prefix_append _ _

end Outcome

namespace InOrder

/-- A block that is kept open keeps the draft. -/
theorem outcome_requestMore (h : f.InOrder) (depth : Nat) : Outcome f (f.requestMore depth) := by
  refine .of_eq h ?_ ?_ ?_ ?_
  · simp [requestMore]
  · simp [requestMore]
  · simp [requestMore, commands]
  · simp [Draft.text]

theorem outcome_cue (h : f.InOrder) (c : Prompt.Cue) : Outcome f (f.cue c) :=
  .of_eq h (by simp) (by simp) (journal_cue_commands f c) (by simp)

/-- Opening or closing a string keeps the draft. -/
theorem outcome_setRegion (h : f.InOrder) (region : Option TripleQuote) (a : Screen.Action)
    (c : Prompt.Cue) : Outcome f (((f.setRegion region).ask a).cue c) := by
  refine .of_eq h ?_ ?_ ?_ ?_
  · simp
  · simp
  · simp [commands]
  · simp [Draft.text]

variable [Interpreter γ] [Interpreter.NeverWaits γ] [Interpreter.NeverRefuses γ]

/-- A draft that is sent becomes the last command: a command in flight keeps the queue from being
overtaken. -/
theorem outcome_sendDraft (h : f.InOrder) (line : Text) : Outcome f (f.sendDraft line) := by
  refine ⟨fun hn => ?_, .inr ⟨h.issued_sendDraft line, ?_⟩⟩
  · have hs := isSome_inFlight_sendDraft f line
    rw [hn] at hs
    cases hs
  · rw [draft_sendDraft]
    rfl

theorem outcome_conclude (h : f.InOrder) (line : Text) (kind : LineKind) :
    Outcome f (f.conclude line kind) := by
  refine conclude_cases ?continued ?indented ?nothing ?sent
  case continued => exact fun _ => h.outcome_cue .moreLines
  case indented => exact fun depth _ => h.outcome_requestMore depth
  case nothing => exact fun _ => .of_eq h rfl rfl rfl rfl
  case sent => exact fun _ => h.outcome_sendDraft line

/-- **Behind the line that was put into it, the draft stays or becomes the last command.** -/
theorem outcome_dispatch (h : f.InOrder) (line : Text) :
    Outcome { f with draft := f.draft.append line } (f.dispatch line) := by
  have h₀ : InOrder { f with draft := f.draft.append line } := h
  cases hr : f.draft.region with
  | some style =>
    rw [dispatch_of_region hr]
    dsimp only
    split
    · have hclosed := h₀.outcome_setRegion none (.setPlainText false) .stringClosed
      refine (hclosed.inOrder.outcome_conclude line _).behind ?_ ?_
      · simp [issued, commands]
      · simp [Draft.text]
    · exact .of_eq h₀ rfl rfl rfl rfl
  | none =>
    rw [dispatch_of_no_region hr]
    cases TripleQuote.openedBy line with
    | some style => exact h₀.outcome_setRegion (some style) (.setPlainText true) .stringOpened
    | none => exact h₀.outcome_conclude line _

end InOrder

/-- Commands can be answered until none is in flight, and what every answer keeps is kept. -/
theorem exists_answered [Interpreter γ] [Interpreter.NeverWaits γ] [Interpreter.NeverRefuses γ]
    {p : Framer γ → Prop} (hp : ∀ g, g.inFlight.isSome = true → p g → p (g.respond false))
    (hf : p f) : ∃ g, p g ∧ g.inFlight = none := by
  induction hl : f.queued.length generalizing f with
  | zero =>
    by_cases hi : f.inFlight.isSome = true
    · have hq : f.queued = [] := List.length_eq_zero_iff.mp hl
      exact ⟨_, hp f hi hf, inFlight_respond_false_of_nil hi hq⟩
    · exact ⟨f, hf, Option.not_isSome_iff_eq_none.mp hi⟩
  | succ n ih =>
    by_cases hi : f.inFlight.isSome = true
    · refine ih (hp f hi hf) ?_
      rw [queued_respond_false hi, List.length_tail, hl]
      rfl
    · exact ⟨f, hf, Option.not_isSome_iff_eq_none.mp hi⟩

end Framer

end LineFraming
