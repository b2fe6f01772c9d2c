import LineFraming.Proofs.Framer.Slot
import LineFraming.Proofs.Indentation
import LineFraming.Proofs.Settings.Store

/-!
# Columns that fit a machine word

Columns are natural numbers here, and a machine counts them in words. The two agree as long as no
number that is added up is too large for a word. Three sums are made of a typed line: the columns
that its indentation passes, each behind a space or a tab; the depth of the block that it opens; and
the depth at which the statement goes on, if the interpreter asks for more lines behind it.

The check of settings asks only that sizes are positive. So there are settings that pass it and short
lines for which a sum does not fit. The columns of a line grow from one to the next, and the two
depths are one level behind the last column at most; so all sums of a line fit if and only if the
column one level behind its indentation does. The worst line of a given length is made of tabs, which
tells the sizes that are safe for all lines up to that length.

Where the sums of all typed lines fit, those of a run do. The framer adds up nothing else: the depth
of a block is always one of these sums, or a small number.

## Main definitions

* `wordSize` — how many numbers a machine word can tell apart
* `Indentation.columns` — the columns that the indentation of a line passes
* `Indentation.InWord` — all sums that are made of a line fit
* `Framer.Sized` — the depth fits, and so do the sums of all lines that are kept for later

## Main results

* `Indentation.columns_lt_iff` — the last column decides for all of them
* `Indentation.widthFrom_le`, `Indentation.inWord_iff` — how far indentation goes, and when it fits
* `Framer.Sized.operate` — every operation keeps a framer sized, if it types lines that fit
* `Settings.inWord_iff_of_check` — which lines fit, and which sizes make all lines fit
-/

namespace LineFraming

/-- How many numbers a machine word can tell apart. -/
def wordSize : Nat := Nat.pow 2 64

theorem wordSize_pos : 0 < wordSize := Nat.two_pow_pos 64

/-! ### The columns of a line -/

namespace Indentation

variable (i : Indentation) {line : Text}

/-- The columns that the indentation of a line passes which starts at `column`: those behind each of
its leading spaces and tabs. -/
def columnsFrom (i : Indentation) (column : Nat) : Text → List Nat
  | [] => []
  | c :: rest =>
    match i.advance column c with
    | some next => next :: i.columnsFrom next rest
    | none => []

/-- The columns that the indentation of a line passes. -/
def columns (i : Indentation) (line : Text) : List Nat := i.columnsFrom 0 line

/-- A space or a tab leads to the right, by the distance of two tab stops at most. -/
theorem advance_bounds {column next : Nat} {c : Char} (h : i.advance column c = some next) :
    column < next ∧ next ≤ column + i.tabStop := by
  have hpos := i.tabStop_pos
  unfold advance at h
  split_ifs at h with hspace htab
  · cases h
    omega
  · cases h
    have hdiv := Nat.div_add_mod' column i.tabStop
    have hmod := Nat.mod_lt column hpos
    rw [Nat.add_mul, Nat.one_mul]
    omega

/-- The indentation of a line does not end in front of its start. -/
theorem le_widthFrom (column : Nat) (line : Text) : column ≤ i.widthFrom column line := by
  induction line generalizing column with
  | nil => exact Nat.le_refl column
  | cons c line ih =>
    rw [widthFrom]
    split
    · rename_i next h
      exact (i.advance_bounds h).1.le.trans (ih next)
    · exact Nat.le_refl column

/-- The indentation of a line ends in the last column that it passes. -/
theorem getLast?_columnsFrom (column : Nat) (line : Text) :
    (i.columnsFrom column line).getLast?.getD column = i.widthFrom column line := by
  induction line generalizing column with
  | nil => rfl
  | cons c line ih =>
    cases h : i.advance column c with
    | none => simp [columnsFrom, widthFrom, h]
    | some next => simp [columnsFrom, widthFrom, h, ← ih next, List.getLast?_cons]

/-- The columns of a line grow, so each of them lies between the start of the line and the end of its
indentation. -/
theorem bounds_of_mem_columnsFrom {column n : Nat} (hn : n ∈ i.columnsFrom column line) :
    column < n ∧ n ≤ i.widthFrom column line := by
  induction line generalizing column with
  | nil => cases hn
  | cons c line ih =>
    cases h : i.advance column c with
    | none => simp [columnsFrom, h] at hn
    | some next =>
      have hstep := (i.advance_bounds h).1
      have hrest := i.le_widthFrom next line
      rw [columnsFrom, h] at hn
      rw [widthFrom, h]
      rcases List.mem_cons.mp hn with rfl | hn
      · exact ⟨hstep, hrest⟩
      · exact ⟨hstep.trans (ih hn).1, (ih hn).2⟩

/-- **The last column decides for all of them.** -/
theorem columns_lt_iff (line : Text) :
    (∀ n ∈ i.columns line, n < wordSize) ↔ i.width line < wordSize := by
  constructor
  · intro h
    have hlast := i.getLast?_columnsFrom 0 line
    cases hc : (i.columnsFrom 0 line).getLast? with
    | none =>
      rw [hc] at hlast
      rw [width, ← hlast]
      exact wordSize_pos
    | some n =>
      rw [hc] at hlast
      rw [width, ← hlast]
      exact h n (List.mem_of_getLast? hc)
  · exact fun h n hn => (i.bounds_of_mem_columnsFrom hn).2.trans_lt h

/-- No character leads farther than a tab does. -/
theorem widthFrom_le (column : Nat) (line : Text) :
    i.widthFrom column line ≤ column + line.length * i.tabStop := by
  induction line generalizing column with
  | nil => simp [widthFrom]
  | cons c line ih =>
    rw [widthFrom, List.length_cons, Nat.succ_mul]
    split
    · rename_i next h
      have hstep := (i.advance_bounds h).2
      have hrest := ih next
      omega
    · omega

/-- Tabs lead farthest. -/
theorem width_tabs (n : Nat) : i.width (List.replicate n '\t') = n * i.tabStop := by
  have h := i.widthFrom_tabs 0 n []
  simpa [width, widthFrom] using h

/-! ### The sums of a line -/

/-- Whatever is added up for a line fits a machine word. -/
structure InWord (i : Indentation) (line : Text) : Prop where
  /-- The columns that its indentation passes. -/
  columns : ∀ n ∈ i.columns line, n < wordSize
  /-- The depth of the block that it opens or goes on with. -/
  block : ∀ depth n, LineKind.ofStatement i depth line = .indented n → n < wordSize
  /-- The depth behind it, if it is the last line of a statement that needs more of them. -/
  statement : ∀ {γ : Type} (f : Framer γ), f.indentation = i → f.draft.depth < wordSize →
    (f.continueStatement line).draft.depth < wordSize

end Indentation

/-- A block is one level behind the indentation of its line at most. -/
theorem LineKind.le_of_ofStatement {i : Indentation} {depth n : Nat} {line : Text}
    (h : ofStatement i depth line = .indented n) : n ≤ i.width line + i.unit := by
  unfold ofStatement at h
  dsimp only at h
  split_ifs at h
  all_goals cases h
  all_goals omega

/-- Where no block is open, a statement that needs more lines goes on one level behind its last one;
else it goes on where it is. -/
theorem Framer.depth_continueStatement {γ : Type} (f : Framer γ) (line : Text) :
    (f.continueStatement line).draft.depth =
      if f.draft.depth = 0 then f.indentation.width line + f.indentation.unit
      else f.draft.depth := by
  simp only [continueStatement, draft_ask, draft_cue, indentation_ask, indentation_cue]
  split <;> simp

namespace Indentation

/-- **When the sums of a line fit:** if and only if the column one level behind its indentation
does. -/
theorem inWord_iff {i : Indentation} {line : Text} :
    i.InWord line ↔ i.width line + i.unit < wordSize := by
  constructor
  · intro h
    have hfresh := h.statement { interpreter := (), indentation := i } rfl wordSize_pos
    rwa [Framer.depth_continueStatement] at hfresh
  · intro h
    refine ⟨(i.columns_lt_iff line).mpr (by omega), fun depth n hn => ?_, fun f hi hd => ?_⟩
    · exact (LineKind.le_of_ofStatement hn).trans_lt h
    · rw [Framer.depth_continueStatement, hi]
      split
      · exact h
      · exact hd

/-- A line without indentation fits if one level does. -/
theorem inWord_of_width_eq_zero {i : Indentation} {line : Text} (hw : i.width line = 0)
    (hu : i.unit < wordSize) : i.InWord line := by
  rw [inWord_iff, hw, Nat.zero_add]
  exact hu

/-- So does the empty line that closes a statement. -/
theorem inWord_newline {i : Indentation} (hu : i.unit < wordSize) : i.InWord ['\n'] :=
  inWord_of_width_eq_zero rfl hu

/-- What is left of a line that fits without the blanks at its end fits too. -/
theorem InWord.trimEnd {i : Indentation} {line : Text} (h : i.InWord line)
    (hne : Text.trimEnd line ≠ []) : i.InWord (Text.trimEnd line) := by
  have hblank : Text.isBlank line = false :=
    Bool.eq_false_iff.mpr fun hb => hne (Text.trimEnd_eq_nil.mpr hb)
  rw [inWord_iff, i.width_trimEnd hblank]
  exact inWord_iff.mp h

end Indentation

/-! ### Runs -/

namespace Framer

variable {γ : Type} {i : Indentation} {f g : Framer γ} {line : Text}

/-- The depth fits a machine word, and so will all sums that are made of lines that were typed
before. -/
structure Sized (i : Indentation) (f : Framer γ) : Prop where
  indentation : f.indentation = i
  depth : f.draft.depth < wordSize
  inFlight : ∀ line, f.inFlight = some line → i.InWord line
  queued : ∀ pending ∈ f.queued, i.InWord pending.lastLine

namespace Sized

/-- A framer that has just been made. -/
theorem fresh (g : γ) (screen : Screen) :
    Sized i { interpreter := g, screen := screen, indentation := i } where
  indentation := rfl
  depth := wordSize_pos
  inFlight _ h := nomatch h
  queued _ h := nomatch h

/-- Of a silent change, only the depth behind it matters. -/
theorem of_silent (h : f.Sized i) (hs : Silent f g) (hi : g.indentation = f.indentation)
    (hd : g.draft.depth < wordSize) : g.Sized i where
  indentation := hi.trans h.indentation
  depth := hd
  inFlight := hs.inFlight ▸ h.inFlight
  queued := hs.queued ▸ h.queued

theorem ask (h : f.Sized i) (a : Screen.Action) : (f.ask a).Sized i :=
  h.of_silent (silent_ask f a) rfl h.depth

theorem cue (h : f.Sized i) (c : Prompt.Cue) : (f.cue c).Sized i :=
  h.of_silent (silent_cue f c) (by simp) (by simpa using h.depth)

theorem setDepth (h : f.Sized i) {depth : Nat} (hd : depth < wordSize) :
    (f.setDepth depth).Sized i := h.of_silent (.setDepth f depth) rfl hd

theorem append (h : f.Sized i) (line : Text) :
    Sized i { f with draft := f.draft.append line } :=
  h.of_silent (.of_draft f _) rfl (by simpa using h.depth)

theorem mark (h : f.Sized i) (region : Option TripleQuote) (a : Screen.Action)
    (c : Prompt.Cue) : (((f.setRegion region).ask a).cue c).Sized i :=
  h.of_silent (.setRegion f region a c) (by simp) (by simpa using h.depth)

theorem requestMore (h : f.Sized i) {depth : Nat} (hd : depth < wordSize) :
    (f.requestMore depth).Sized i :=
  h.of_silent (.requestMore f depth) (by simp [Framer.requestMore]) (by simpa using hd)

theorem continueStatement (h : f.Sized i) (hl : i.InWord line) :
    (f.continueStatement line).Sized i :=
  h.of_silent (.continueStatement f line)
    (by simp only [Framer.continueStatement]; split <;> simp)
    (hl.statement f h.indentation h.depth)

theorem reset (h : f.Sized i) : f.reset.Sized i := by
  have hempty : Sized i { f with draft := {}, inFlight := none, queued := [] } :=
    ⟨h.indentation, wordSize_pos, fun _ hn => (nomatch hn), fun _ hq => (nomatch hq)⟩
  exact ((hempty.ask _).ask _).cue _

/-- The line that closes a string goes on with its block, or is measured as any other line. -/
theorem closingKind_lt (h : f.Sized i) (hl : i.InWord line) {depth : Nat}
    (hk : f.closingKind line = .indented depth) : depth < wordSize := by
  rw [closingKind, h.indentation] at hk
  split at hk
  · split at hk
    · cases hk
      exact h.depth
    · cases hk
  · exact hl.block _ depth hk

variable [Interpreter γ]

/-- A command that is taken is in flight, one that is refused leaves nothing. -/
theorem send (h : f.Sized i) {pending : PendingCommand} (hp : i.InWord pending.lastLine) :
    (f.send pending).Sized i := by
  cases he : (f.execute pending.command).1 with
  | ok _ =>
    rw [send_of_ok he]
    refine ⟨h.indentation, h.depth, fun line hline => ?_, h.queued⟩
    cases hline
    exact hp
  | error fault =>
    have hdropped : Sized i { (f.execute pending.command).2 with queued := [] } :=
      ⟨h.indentation, h.depth, h.inFlight, fun _ hq => nomatch hq⟩
    rw [send_of_error he]
    exact ((hdropped.setDepth wordSize_pos).cue _).ask _

theorem sendDraft (h : f.Sized i) (hl : i.InWord line) : (f.sendDraft line).Sized i := by
  have htaken : Sized i { f with draft := f.draft.take.2 } :=
    h.of_silent (.of_draft f _) rfl h.depth
  cases hw : f.isWaiting with
  | true =>
    have hgiven : Sized i (Framer.execute { f with draft := f.draft.take.2 } f.draft.text).2 :=
      ⟨htaken.indentation, htaken.depth, htaken.inFlight, htaken.queued⟩
    rw [sendDraft_of_waiting hw]
    split
    · rename_i g he
      rw [he] at hgiven
      split
      · exact hgiven
      · exact (hgiven.setDepth wordSize_pos).cue _
    · rename_i fault g he
      rw [he] at hgiven
      exact hgiven.ask _
  | false =>
    have hcued := htaken.cue .started
    rw [sendDraft_of_not_waiting hw]
    dsimp only
    split
    · refine ⟨hcued.indentation, hcued.depth, hcued.inFlight, fun pending hm => ?_⟩
      rcases List.mem_append.mp hm with hm | hm
      · exact h.queued pending hm
      · rw [List.mem_singleton.mp hm]
        exact hl
    · exact hcued.send hl

theorem sendNext (h : f.Sized i) : f.sendNext.Sized i := by
  unfold Framer.sendNext
  split
  · exact h
  · rename_i next rest hq
    have hrest : Sized i { f with queued := rest } :=
      ⟨h.indentation, h.depth, h.inFlight,
        fun p hm => h.queued p (hq ▸ List.mem_cons_of_mem _ hm)⟩
    exact (hrest.cue _).send (h.queued next (hq ▸ List.mem_cons_self))

/-! ### Typed lines -/

theorem conclude (h : f.Sized i) (hl : i.InWord line) {kind : LineKind}
    (hk : ∀ depth, kind = .indented depth → depth < wordSize) :
    (f.conclude line kind).Sized i := by
  refine conclude_cases ?continued ?indented ?nothing ?sent
  case continued => exact fun _ => h.cue .moreLines
  case indented => exact fun depth hd => h.requestMore (hk depth hd)
  case nothing => exact fun _ => h
  case sent => exact fun _ => h.sendDraft hl

/-- **A dispatched line** that fits keeps a framer sized. -/
theorem dispatch (h : f.Sized i) (hl : i.InWord line) : (f.dispatch line).Sized i := by
  have hput := h.append line
  cases hw : f.isWaiting with
  | true =>
    rw [dispatch_of_waiting hw]
    exact hput.sendDraft hl
  | false =>
    cases hr : f.draft.region with
    | some style =>
      rw [dispatch_inside hw hr]
      dsimp only
      split
      · have hclosed := hput.mark none (.setPlainText false) .stringClosed
        exact hclosed.conclude hl fun _ => hclosed.closingKind_lt hl
      · exact hput
    | none =>
      rw [dispatch_outside hw hr]
      dsimp only
      split
      · exact hput.mark _ _ _
      · exact hput.conclude hl fun _ hd => hl.block _ _ (h.indentation ▸ hd)

/-- A typed line that fits keeps it sized, with the empty line that may be put in front. -/
theorem processLine (h : f.Sized i) (hu : i.unit < wordSize) (hl : i.InWord line) :
    (f.processLine line).Sized i := by
  have hempty := h.dispatch (Indentation.inWord_newline hu)
  exact processLine_cases (fun _ => hempty) (fun hne _ => hempty.dispatch (hl.trimEnd hne))
    fun hne => h.dispatch (hl.trimEnd hne)

theorem finish (h : f.Sized i) (hu : i.unit < wordSize) : f.finish.Sized i :=
  finish_induction (fun _ hg => hg.dispatch (Indentation.inWord_newline hu))
    (fun _ hg => hg.ask _) h

theorem submit (h : f.Sized i) (hu : i.unit < wordSize) {text : Text}
    (hl : ∀ line ∈ Text.lines text, i.InWord line) (execAnyway : Bool) :
    (f.submit text execAnyway).Sized i := by
  have htext : (f.processText text).Sized i :=
    processText_lines (p := fun done g => (∀ line ∈ done, i.InWord line) → g.Sized i)
      (fun done g line _ hg hdone =>
        (hg fun l hm => hdone l (List.mem_append_left _ hm)).processLine hu
          (hdone line (by simp)))
      (fun _ hg hnil => (hg hnil).processLine hu (Indentation.inWord_of_width_eq_zero rfl hu))
      (fun _ => h) text hl
  rw [submit_eq]
  split
  · exact htext.finish hu
  · exact htext

/-! ### Everything else -/

theorem respond (h : f.Sized i) (more : Bool) : (f.respond more).Sized i := by
  cases hf : f.inFlight with
  | none =>
    rw [respond_of_none hf]
    exact h
  | some lastLine =>
    have hfree : Sized i { f with inFlight := none } :=
      ⟨h.indentation, h.depth, fun _ hn => (nomatch hn), h.queued⟩
    rw [respond_of_some hf, settle]
    refine sendNext ?_
    split
    · exact hfree.continueStatement (h.inFlight lastLine hf)
    · refine setDepth ?_ wordSize_pos
      split
      · exact hfree
      · exact hfree.cue _

end Sized

/-- The lines that an operation types. -/
def Operation.lines : Operation γ → List Text
  | submit text _ => Text.lines text
  | processLine line | dispatch line => [line]
  | _ => []

variable [Interpreter γ]

/-- **One operation** keeps a framer sized, if it types lines that fit. -/
theorem Sized.operate (h : f.Sized i) (hu : i.unit < wordSize) (o : Operation γ)
    (hl : ∀ line ∈ o.lines, i.InWord line) : (f.operate o).Sized i := by
  cases o with
  | submit text execAnyway => exact h.submit hu hl execAnyway
  | processLine line => exact h.processLine hu (hl line List.mem_cons_self)
  | dispatch line => exact h.dispatch (hl line List.mem_cons_self)
  | finish => exact h.finish hu
  | respond more => exact h.respond more
  | reset => exact h.reset
  | commandExecuted => exact h.cue _
  | inputRequested => exact (h.cue _).setDepth (by decide)
  | promptRequested prompt => exact h.cue _
  | proceed g => exact ⟨h.indentation, h.depth, h.inFlight, h.queued⟩

theorem Sized.operations (h : f.Sized i) (hu : i.unit < wordSize) (os : List (Operation γ))
    (hl : ∀ o ∈ os, ∀ line ∈ o.lines, i.InWord line) : (os.foldl Framer.operate f).Sized i := by
  induction os generalizing f with
  | nil => exact h
  | cons o os ih =>
    exact ih (h.operate hu o (hl o List.mem_cons_self)) fun o' ho' =>
      hl o' (List.mem_cons_of_mem _ ho')

end Framer

/-! ### Settings -/

namespace Settings

/-- **Which lines fit, and which sizes make all lines fit.** For all settings that pass the check: the
sums of a line fit a machine word if and only if the column one level behind its indentation does.
All lines of up to `n` characters fit if and only if the column one level behind `n` tabs does. And a
framer that is given lines that fit, over any interpreter and in any run, adds up nothing that does
not. -/
theorem inWord_iff_of_check (s : Settings) (h : s.check = .ok ()) :
    let i := s.indentation
    (∀ line, i.InWord line ↔ i.width line + s.framing.indentSize < wordSize) ∧
      (∀ n, (∀ line : Text, line.length ≤ n → i.InWord line) ↔
        n * s.framing.tabSize + s.framing.indentSize < wordSize) ∧
      (s.framing.indentSize < wordSize → ∀ {γ : Type} [Interpreter γ] (g : γ) (screen : Screen)
        (os : List (Framer.Operation γ)), (∀ o ∈ os, ∀ line ∈ o.lines, i.InWord line) →
        (os.foldl Framer.operate
          { interpreter := g, screen := screen, indentation := i }).Sized i) := by
  intro i
  obtain ⟨hunit, htab⟩ := (check_eq_ok_iff.mp h).indentation_eq
  have hline : ∀ line, i.InWord line ↔ i.width line + s.framing.indentSize < wordSize :=
    fun line => hunit ▸ Indentation.inWord_iff
  refine ⟨hline, fun n => ⟨fun hall => ?_, fun hn line hlen => ?_⟩, fun hu γ _ g screen os hos => ?_⟩
  · have htabs := hall (List.replicate n '\t') (by simp)
    rwa [hline, i.width_tabs, htab] at htabs
  · have hwidth : i.width line ≤ line.length * i.tabStop := by
      simpa [Indentation.width] using i.widthFrom_le 0 line
    have hmost : line.length * i.tabStop ≤ n * s.framing.tabSize :=
      htab ▸ Nat.mul_le_mul_right _ hlen
    rw [hline]
    omega
  · exact (Framer.Sized.fresh g screen).operations (hunit ▸ hu) os hos

/-- Tab stops that two tabs pass and three do not. -/
theorem inWord_iff_of_check_wideTabs :
    let s : Settings := { framing := { indentSize := Nat.pow 2 62, tabSize := Nat.pow 2 62 } }
    let line := "\t\tif x:".toList
    let f : Framer ScriptedInterpreter :=
      [.submit line false, .respond true].foldl Framer.operate
        { interpreter := {}, indentation := s.indentation }
    s.check = .ok () ∧ s.indentation.InWord line ∧
      ¬s.indentation.InWord ('\t' :: line) ∧
      (∀ line : Text, line.length ≤ 2 → s.indentation.InWord line) ∧
      f.draft.depth < wordSize := by
  intro s line f
  have hcheck : s.check = .ok () := check_eq_ok_iff.mpr ⟨by decide, by decide, by decide⟩
  obtain ⟨hline, hall, hrun⟩ := inWord_iff_of_check s hcheck
  have hfits : s.indentation.InWord line := (hline line).mpr (by decide)
  refine ⟨hcheck, hfits, fun hwide => ?_, (hall 2).mpr (by decide), ?_⟩
  · exact absurd ((hline _).mp hwide) (by decide)
  · refine (hrun (by decide) ({} : ScriptedInterpreter) {} _ fun o ho l hl => ?_).depth
    have hlines : Text.lines line = [line] := by decide
    rcases List.mem_pair.mp ho with rfl | rfl
    · rw [Framer.Operation.lines, hlines, List.mem_singleton] at hl
      exact hl ▸ hfits
    · cases hl

/-- Settings that pass the check and do not suit a header behind one space, and others that do not
suit two tabs. -/
theorem exists_not_inWord :
    (∃ s : Settings, s.check = .ok () ∧
      s.framing.indentSize < wordSize ∧ s.framing.tabSize < wordSize ∧
      load (.bytes (Text.utf8 "[console]\nindent_size = 18446744073709551615\n".toList)) = .ok s ∧
      LineKind.of s.indentation none 0 " if x:".toList = .indented wordSize ∧
      ¬s.indentation.InWord " if x:".toList) ∧
    ∃ s : Settings, s.check = .ok () ∧
      s.framing.indentSize < wordSize ∧ s.framing.tabSize < wordSize ∧
      load (.bytes (Text.utf8 "[console]\ntab_size = 9223372036854775808\n".toList)) = .ok s ∧
      s.indentation.columns "\t\tx".toList = [Nat.pow 2 63, wordSize] ∧
      ¬s.indentation.InWord "\t\tx".toList := by
  constructor
  · let s : Settings := { framing := { indentSize := 18446744073709551615 } }
    have hcheck : s.check = .ok () := check_eq_ok_iff.mpr ⟨by decide, by decide, by decide⟩
    have hread : Toml.read "[console]\nindent_size = 18446744073709551615\n".toList =
        some [("console".toList,
          .table [("indent_size".toList, .integer 18446744073709551615)])] := by cbv
    have hload := loadWith_utf8 (ofToml?_of_read hread (by decide)) hcheck
    have hdepth : LineKind.of s.indentation none 0 " if x:".toList = .indented wordSize := by decide
    exact ⟨s, hcheck, by decide, by decide, hload, hdepth,
      fun h => Nat.lt_irrefl _ (h.block 0 _ (by decide))⟩
  · let s : Settings := { framing := { tabSize := 9223372036854775808 } }
    have hcheck : s.check = .ok () := check_eq_ok_iff.mpr ⟨by decide, by decide, by decide⟩
    have hread : Toml.read "[console]\ntab_size = 9223372036854775808\n".toList =
        some [("console".toList,
          .table [("tab_size".toList, .integer 9223372036854775808)])] := by cbv
    have hload := loadWith_utf8 (ofToml?_of_read hread (by decide)) hcheck
    have hcolumns : s.indentation.columns "\t\tx".toList = [Nat.pow 2 63, wordSize] := by decide
    exact ⟨s, hcheck, by decide, by decide, hload, hcolumns,
      fun h => Nat.lt_irrefl _ (h.columns wordSize (hcolumns ▸ by simp))⟩

end Settings

end LineFraming
