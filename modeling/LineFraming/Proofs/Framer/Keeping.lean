import LineFraming.Proofs.Framer.Outcome
import LineFraming.Proofs.Framer.Rest
import LineFraming.Proofs.Framer.Splitting

/-!
# Why a draft is kept

A dispatched line has one of three fates. The running program waits for it, so the draft is the
answer. Or the draft is kept. Or it is sent. Two of the three come with a reason. A draft that is
kept and is not blank has a last line that leaves the statement open: a string is open behind it, it
ends in a backslash, or a block goes on with it. A draft that is sent and is blank closes a block
that is open without a draft.

`dispatch_cases` says this once for all lines. A block that goes on is opened by the line or was
open before; whether that block is one of this draft, the depth does not tell.

## Main definitions

* `Framer.Gathers` — a line is in the draft, and nothing is decided about the draft
* `Framer.BlockGoesOn`, `Framer.Kept` — why a draft is kept with a line

## Main results

* `LineKind.block_of_ofStatement`, `Framer.block_of_closingKind` — blocks that go on
* `Framer.dispatch_cases` — what a dispatched line leads to
* `Framer.kept_dispatch` — a draft that is left behind a line is kept for a reason
-/

namespace LineFraming

namespace LineKind

variable {i : Indentation} {depth d : Nat} {line : Text}

/-- A line that is joined with the next one ends in a backslash. -/
theorem getLast?_of_ofStatement (h : ofStatement i depth line = .continued) :
    line.getLast? = some '\\' := by
  unfold ofStatement at h
  dsimp only at h
  split_ifs at h
  assumption

theorem getLast?_of_complete (h : ofStatement i depth line = .complete) :
    line.getLast? ≠ some '\\' := by
  intro hs
  unfold ofStatement at h
  dsimp only at h
  split_ifs at h

/-- A block goes on in a column behind the margin, with a header, or if it was open, with an
indented line. -/
theorem block_of_ofStatement (h : ofStatement i depth line = .indented d) :
    0 < d ∧ line.getLast? ≠ some '\\' ∧
      (Block.opens line = true ∨ 0 < depth ∧ 0 < i.width line) := by
  cases hb : Text.isBlank line with
  | true =>
    rw [ofStatement, if_pos hb] at h
    cases h
  | false =>
    by_cases hs : line.getLast? = some '\\'
    · rw [ofStatement_of_slash hb hs] at h
      cases h
    · cases ho : Block.opens line with
      | true =>
        rw [ofStatement_of_opens hb hs ho] at h
        injection h with hd
        have hunit := i.unit_pos
        exact ⟨by omega, hs, .inl rfl⟩
      | false =>
        rw [ofStatement_of_plain hb hs ho] at h
        split at h
        · rename_i hw
          injection h with hd
          exact ⟨hd ▸ hw.2, hs, .inr hw⟩
        · cases h

end LineKind

namespace Draft

/-- Behind an empty line, a draft has the same lines that are not blank. -/
theorem filled_append_newline {d : Draft} (h : Text.Ended d.text) :
    Text.filled (d.append ['\n']).text = Text.filled d.text := by
  rw [text_append, Text.filled_append h, filled_addition_newline, List.append_nil]

/-- Behind a trimmed line it has one more. -/
theorem filled_append_trimEnd {d : Draft} (h : Text.Ended d.text) {line : Text} (hn : '\n' ∉ line)
    (hne : Text.trimEnd line ≠ []) :
    Text.filled (d.append (Text.trimEnd line)).text =
      Text.filled d.text ++ [Text.trimEnd line] := by
  rw [text_append, Text.filled_append h, d.filled_addition_trimEnd hn hne]

end Draft

namespace Framer

variable {γ : Type} {f g : Framer γ} {line : Text}

/-- With the line that closes a string a block goes on that was open, whatever column the line
stands in. -/
theorem block_of_closingKind {d : Nat} (h : f.closingKind line = .indented d) :
    0 < d ∧ line.getLast? ≠ some '\\' ∧ (Block.opens line = true ∨ 0 < f.draft.depth) := by
  rw [closingKind] at h
  split at h
  · rename_i hcomplete
    split at h
    · rename_i hd
      injection h with he
      exact ⟨he ▸ hd, LineKind.getLast?_of_complete hcomplete, .inr hd⟩
    · cases h
  · exact (LineKind.block_of_ofStatement h).imp_right (.imp_right (.imp_right And.left))

theorem getLast?_of_closingKind (h : f.closingKind line = .continued) :
    line.getLast? = some '\\' := by
  rw [closingKind] at h
  split at h
  · split at h <;> cases h
  · exact LineKind.getLast?_of_ofStatement h

/-- A line is in the draft, and the mark for the open string has followed it. -/
structure Gathers (f : Framer γ) (line : Text) (g : Framer γ) : Prop where
  silent : Silent f g
  indentation : g.indentation = f.indentation
  text : g.draft.text = (f.draft.append line).text
  region : g.draft.region = TripleQuote.after f.draft.region line

/-- A block goes on with a line: the line opens it, or it was open before and the line stands in it
or closes a string. -/
def BlockGoesOn (f : Framer γ) (line : Text) : Prop :=
  Block.opens line = true ∨ 0 < f.draft.depth ∧ (0 < f.indentation.width line ∨
    ∃ style, f.draft.region = some style ∧ style.toggles line = true)

/-- Why a draft is kept with a line: it is blank, a string is open, the line is joined with the next
one, or a block goes on. Only in a block the depth may change. -/
inductive Kept (f : Framer γ) (line : Text) (g : Framer γ) : Prop
  | blank (hb : g.draft.isBlank = true) (hd : g.draft.depth = f.draft.depth)
  | string (hr : g.draft.region.isSome = true) (hd : g.draft.depth = f.draft.depth)
  | joined (hs : line.getLast? = some '\\') (hd : g.draft.depth = f.draft.depth)
  | block (hb : g.draft.isBlank = false) (hr : g.draft.region = none)
    (hs : line.getLast? ≠ some '\\') (hd : 0 < g.draft.depth) (ho : f.BlockGoesOn line)

/-- No block goes on with an empty line. -/
theorem not_blockGoesOn_newline (f : Framer γ) : ¬f.BlockGoesOn ['\n'] := by
  rintro (ho | ⟨-, hw | ⟨style, -, ht⟩⟩)
  · exact absurd ho (by decide)
  · exact absurd hw (by simp [Indentation.width, Indentation.widthFrom, Indentation.advance])
  · rw [TripleQuote.toggles_of_isBlank style rfl] at ht
    cases ht

namespace Kept

/-- The depth of a blank draft stays. -/
theorem depth_eq (h : f.Kept line g) (hb : g.draft.isBlank = true) :
    g.draft.depth = f.draft.depth := by
  cases h with
  | blank _ hd => exact hd
  | string _ hd => exact hd
  | joined _ hd => exact hd
  | block hne => exact absurd (hb.symm.trans hne) (by decide)

/-- A draft that is not blank is kept for a string, a backslash or a block. -/
theorem goesOn (h : f.Kept line g) (hb : g.draft.isBlank = false) :
    g.draft.region.isSome = true ∨ line.getLast? = some '\\' ∨ 0 < g.draft.depth := by
  cases h with
  | blank hblank => exact absurd (hblank.symm.trans hb) (by decide)
  | string hr => exact .inl hr
  | joined hs => exact .inr (.inl hs)
  | block _ _ _ hd => exact .inr (.inr hd)

/-- Behind an empty line only a string goes on. -/
theorem region_of_newline (h : f.Kept ['\n'] g) (hb : g.draft.isBlank = false) :
    g.draft.region.isSome = true := by
  cases h with
  | blank hblank => exact absurd (hblank.symm.trans hb) (by decide)
  | string hr => exact hr
  | joined hs => exact absurd hs (by decide)
  | block _ _ _ _ ho => exact absurd ho f.not_blockGoesOn_newline

end Kept

namespace Gathers

theorem isBlank (h : Gathers f line g) :
    g.draft.isBlank = (f.draft.isBlank && Text.isBlank line) := by
  rw [Draft.isBlank, h.text, ← Draft.isBlank_append]
  rfl

theorem of_draft (h : Gathers f line g) {k : Framer γ} (hs : Silent g k)
    (hi : k.indentation = g.indentation) (ht : k.draft.text = g.draft.text)
    (hr : k.draft.region = g.draft.region) : Gathers f line k where
  silent := h.silent.trans hs
  indentation := hi.trans h.indentation
  text := ht.trans h.text
  region := hr.trans h.region

theorem cue (h : Gathers f line g) (c : Prompt.Cue) : Gathers f line (g.cue c) :=
  h.of_draft (silent_cue g c) (by simp) (by simp) (by simp)

theorem requestMore (h : Gathers f line g) (depth : Nat) : Gathers f line (g.requestMore depth) :=
  h.of_draft (.requestMore g depth) (by simp [Framer.requestMore]) (by simp [Draft.text])
    (by simp)

/-- A line that opens or closes a string is in the draft, the mark is moved, and that is shown. -/
theorem mark (f : Framer γ) {line : Text} {region : Option TripleQuote}
    (hr : region = TripleQuote.after f.draft.region line) (a : Screen.Action) (c : Prompt.Cue) :
    Gathers f line
      (((setRegion { f with draft := f.draft.append line } region).ask a).cue c) where
  silent := Silent.trans (.of_draft f _) (.setRegion _ region a c)
  indentation := by simp
  text := by simp [Draft.text]
  region := by simp [hr]

end Gathers

section Cases

variable [Interpreter γ] {p : Framer γ → Prop}

/-- What a line outside strings leads to, and why. -/
theorem conclude_gathered (h : Gathers f line g) (hr : g.draft.region = none)
    (hd : g.draft.depth = f.draft.depth) {kind : LineKind}
    (hjoined : kind = .continued → line.getLast? = some '\\')
    (hblock : ∀ d, kind = .indented d →
      0 < d ∧ line.getLast? ≠ some '\\' ∧ f.BlockGoesOn line)
    (hblank : g.draft.isBlank = true → kind = .blank)
    (kept : ∀ k, Gathers f line k → f.Kept line k → p k)
    (sent : (g.draft.isBlank = true → f.draft.depth ≠ 0 ∧ f.inFlight = none) →
      p (g.sendDraft line)) :
    p (g.conclude line kind) := by
  have hkind {k : LineKind} (he : kind = k) (hne : k ≠ .blank) : g.draft.isBlank = false :=
    Bool.eq_false_iff.mpr fun hb => hne (he ▸ hblank hb)
  refine conclude_cases ?continued ?indented ?nothing ?sent
  case continued =>
    exact fun he => kept _ (h.cue .moreLines) (.joined (hjoined he) (by simpa using hd))
  case indented =>
    intro depth he
    obtain ⟨hpos, hs, hreason⟩ := hblock depth he
    have hk := h.requestMore depth
    refine kept _ hk (.block ?_ (by simpa using hr) hs (by simpa using hpos) hreason)
    rw [hk.isBlank, ← h.isBlank]
    exact hkind he (by simp)
  case nothing => exact fun hb => kept g h (.blank hb hd)
  case sent =>
    intro hcloses
    refine sent fun hb => ?_
    have hopen := hcloses (hblank hb)
    simp only [hb, Bool.true_and, blankClosesNothing, Bool.or_eq_true, beq_iff_eq, not_or,
      Option.not_isSome_iff_eq_none] at hopen
    rwa [hd, h.silent.inFlight] at hopen

/-- **What a dispatched line leads to, and why.** The running program waits for it; or the draft is
kept, for one of the reasons that there are; or the draft is sent, and if it is blank, a block is
open without a draft and no command is in flight. -/
theorem dispatch_cases
    (waiting : f.isWaiting = true →
      p (Framer.sendDraft { f with draft := f.draft.append line } line))
    (kept : ∀ g, Gathers f line g → f.Kept line g → p g)
    (sent : ∀ g, f.isWaiting = false → Gathers f line g → g.draft.region = none →
      (g.draft.isBlank = true → f.draft.depth ≠ 0 ∧ f.inFlight = none) → p (g.sendDraft line)) :
    p (f.dispatch line) := by
  have hput : Silent f { f with draft := f.draft.append line } := .of_draft f _
  cases hw : f.isWaiting with
  | true =>
    rw [dispatch_of_waiting hw]
    exact waiting hw
  | false =>
    cases hr : f.draft.region with
    | some style =>
      rw [dispatch_inside hw hr]
      dsimp only
      split
      · rename_i ht
        have hclosed : none = TripleQuote.after f.draft.region line := by
          simp [hr, TripleQuote.after, ht]
        have hg := Gathers.mark f hclosed (.setPlainText false) .stringClosed
        refine conclude_gathered hg (by simp) (by simp) getLast?_of_closingKind (fun d hd => ?_)
          (fun hb => ?_) kept fun hs => sent _ hw hg (by simp) hs
        · obtain ⟨hpos, hs, hreason⟩ := block_of_closingKind hd
          exact ⟨hpos, hs,
            hreason.imp_right fun hopen => ⟨by simpa using hopen, .inr ⟨style, hr, ht⟩⟩⟩
        · rw [hg.isBlank, Bool.and_eq_true] at hb
          rw [TripleQuote.toggles_of_isBlank style hb.2] at ht
          cases ht
      · rename_i ht
        have hg : Gathers f line { f with draft := f.draft.append line } :=
          ⟨hput, rfl, rfl, by simp [hr, TripleQuote.after, ht]⟩
        exact kept _ hg (.string (by simp [hr]) (by simp))
    | none =>
      rw [dispatch_outside hw hr]
      dsimp only
      cases ho : TripleQuote.openedBy line with
      | some style =>
        have hopened : some style = TripleQuote.after f.draft.region line := by
          simp [hr, TripleQuote.after, ho]
        have hg := Gathers.mark f hopened (.setPlainText true) .stringOpened
        exact kept _ hg (.string (by simp) (by simp))
      | none =>
        have hg : Gathers f line { f with draft := f.draft.append line } :=
          ⟨hput, rfl, rfl, by simp [hr, TripleQuote.after, ho]⟩
        refine conclude_gathered hg (by simp [hr]) (by simp) LineKind.getLast?_of_ofStatement
          (fun d hd => ?_) (fun hb => ?_) kept fun hs => sent _ hw hg (by simp [hr]) hs
        · obtain ⟨hpos, hs, hreason⟩ := LineKind.block_of_ofStatement hd
          exact ⟨hpos, hs, hreason.imp_right (And.imp_right .inl)⟩
        · rw [hg.isBlank, Bool.and_eq_true] at hb
          exact if_pos hb.2

/-- Sending takes the text out of the draft, whatever becomes of it. Besides, the depth may
change. -/
theorem exists_draft_sendDraft (f : Framer γ) (line : Text) :
    ∃ depth, (f.sendDraft line).draft = { f.draft with text? := none, depth := depth } := by
  cases hw : f.isWaiting with
  | true =>
    have hd : (Framer.execute { f with draft := f.draft.take.2 } f.draft.text).2.draft =
        { f.draft with text? := none } := rfl
    rw [sendDraft_of_waiting hw]
    split
    · rename_i g he
      have hg : g.draft = { f.draft with text? := none } := by
        rw [he] at hd
        exact hd
      split
      · exact ⟨f.draft.depth, hg⟩
      · exact ⟨0, by simp [hg]⟩
    · rename_i fault g he
      have hg : g.draft = { f.draft with text? := none } := by
        rw [he] at hd
        exact hd
      exact ⟨f.draft.depth, hg⟩
  | false =>
    obtain ⟨k, -, hd, he⟩ := exists_sendDraft hw line
    rw [he]
    split
    · exact ⟨f.draft.depth, hd⟩
    · obtain ⟨depth, hk⟩ := exists_draft_send k ⟨f.draft.text, line⟩
      exact ⟨depth, by rw [hk, hd]; rfl⟩

theorem text_sendDraft (f : Framer γ) (line : Text) : (f.sendDraft line).draft.text = [] := by
  obtain ⟨depth, hd⟩ := exists_draft_sendDraft f line
  rw [hd]
  rfl

/-- **A draft that is left behind a line is kept for a reason.** -/
theorem kept_dispatch (f : Framer γ) (line : Text) (h : (f.dispatch line).draft.isBlank = false) :
    f.Kept line (f.dispatch line) := by
  have hsent (g : Framer γ) (hb : (g.sendDraft line).draft.isBlank = false) :
      f.Kept line (g.sendDraft line) := by
    rw [Draft.isBlank, text_sendDraft] at hb
    cases hb
  exact dispatch_cases (p := fun g => g.draft.isBlank = false → f.Kept line g)
    (fun _ => hsent _) (fun _ _ hkept _ => hkept) (fun g _ _ _ _ => hsent g) h

/-- A draft that is left behind a line was not sent. -/
theorem issued_dispatch (f : Framer γ) (line : Text) :
    (f.dispatch line).issued = f.issued ∨ (f.dispatch line).draft.isBlank = true := by
  have hsent (g : Framer γ) : (g.sendDraft line).draft.isBlank = true := by
    rw [Draft.isBlank, text_sendDraft]
    rfl
  exact dispatch_cases (p := fun g => g.issued = f.issued ∨ g.draft.isBlank = true)
    (fun _ => .inr (hsent _))
    (fun _ hg _ => .inl (issued_of_eq hg.silent.commands hg.silent.queued))
    fun g _ _ _ _ => .inr (hsent g)

theorem indentation_dispatch (f : Framer γ) (line : Text) :
    (f.dispatch line).indentation = f.indentation :=
  dispatch_cases (p := fun g => g.indentation = f.indentation)
    (fun _ => indentation_sendDraft _ line) (fun _ hg _ => hg.indentation)
    fun g _ hg _ _ => (indentation_sendDraft g line).trans hg.indentation

/-! ### Empty lines -/

/-- An empty line opens and closes no string, whoever it is for. -/
theorem draft_region_dispatch_newline (f : Framer γ) :
    (f.dispatch ['\n']).draft.region = f.draft.region := by
  have hsent (g : Framer γ) : (g.sendDraft ['\n']).draft.region = g.draft.region := by
    obtain ⟨depth, hd⟩ := exists_draft_sendDraft g ['\n']
    rw [hd]
  have hgathers {g : Framer γ} (h : Gathers f ['\n'] g) : g.draft.region = f.draft.region :=
    h.region.trans (TripleQuote.after_of_isBlank _ rfl)
  refine dispatch_cases (p := fun g => g.draft.region = f.draft.region) ?waiting ?kept ?sent
  case waiting => exact fun _ => (hsent _).trans (Draft.region_append _ _)
  case kept => exact fun _ hg _ => hgathers hg
  case sent => exact fun g _ hg _ _ => (hsent g).trans (hgathers hg)

/-- A draft that is left behind an empty line is that of a string. -/
theorem region_dispatch_newline (hb : (f.dispatch ['\n']).draft.isBlank = false) :
    (f.dispatch ['\n']).draft.region.isSome = true :=
  (kept_dispatch f ['\n'] hb).region_of_newline hb

end Cases

end Framer

end LineFraming
