import LineFraming.Proofs.Console.Run
import LineFraming.Proofs.Framer.Keeping
import LineFraming.Proofs.Indentation

/-!
# What is prefilled for the next line

A line that keeps a block open prefills the next line with the indentation of the block. The depth
of the block is kept in the draft, and what is prefilled on the screen. Where the two are changed
together they fit: nothing is prefilled, or it is the indentation that the depth stands for.

There are three ways in which they cease to fit. The screen puts what is prefilled behind what it
holds already, so two lines that go on with a block, without anybody taking the indentation in
between, prefill the third line with both. A response that ends the command in flight sets the depth
to zero, and a request for a line sets it to one; neither looks at the screen. Nothing else a
console may go through does this, and each of them does.

The interpreter takes every command here and never waits for a line.

## Main definitions

* `Framer.Fits` — what is prefilled is the indentation of the block, or nothing
* `Framer.Prefills` — how the lines of a text prefill the next one
* `Framer.Stacks` — a text that prefills a line twice
* `Console.Event`, `Console.happen` — the acts of a run, and that the indentation is taken
* `Console.Overfills` — an event behind which the two do not fit

## Main results

* `Framer.prefills_processText` — a text prefills one depth for each line that goes on with a block
* `Framer.fits_submit_iff`, `Framer.fits_respond_iff` — which texts and which responses fit
* `Console.indent_fits_iff` — a run fits if and only if no event of it overfills
-/

namespace LineFraming

namespace Indentation

variable (i : Indentation)

/-- Positive depths fill something. -/
theorem flatMap_fill_eq_nil {ds : List Nat} (h : ∀ d ∈ ds, 0 < d) :
    ds.flatMap i.fill = [] ↔ ds = [] := by
  cases ds with
  | nil => simp
  | cons d ds =>
    have hd : d ≠ 0 := Nat.pos_iff_ne_zero.mp (h d List.mem_cons_self)
    simp [hd]

end Indentation

namespace Framer

section Screen

variable {γ : Type} {f g h : Framer γ}

/-- Nothing is prefilled, or the indentation of the block that the next line belongs to. -/
def Fits (f : Framer γ) : Prop :=
  f.screen.indent = [] ∨ f.screen.indent = f.indentation.fill f.draft.depth

/-- Without a block nothing is prefilled. -/
theorem Fits.indent_eq_nil (h : f.Fits) (hd : f.draft.depth = 0) : f.screen.indent = [] := by
  rcases h with h | h
  · exact h
  · rw [h, hd, Indentation.fill_zero]

/-- The screen, the depth and the settings alone decide. -/
theorem Fits.of_eq (h : f.Fits) (hs : g.screen.indent = f.screen.indent)
    (hd : g.draft.depth = f.draft.depth) (hi : g.indentation = f.indentation) : g.Fits := by
  rw [Fits, hs, hd, hi]
  exact h

/-- Some lines go on with blocks of the given depths, one after the other. What is prefilled grows
by each of them, and the last one is the depth from then on. -/
structure Prefills (depths : List Nat) (f g : Framer γ) : Prop where
  indentation : g.indentation = f.indentation
  indent : g.screen.indent = f.screen.indent ++ depths.flatMap f.indentation.fill
  depth : g.draft.depth = depths.getLast?.getD f.draft.depth
  pos : ∀ d ∈ depths, 0 < d

namespace Prefills

variable {ds es : List Nat}

theorem of_eq (hs : g.screen.indent = f.screen.indent) (hd : g.draft.depth = f.draft.depth)
    (hi : g.indentation = f.indentation) : Prefills [] f g where
  indentation := hi
  indent := by simp [hs]
  depth := hd
  pos _ hm := by cases hm

theorem refl (f : Framer γ) : Prefills [] f f := of_eq rfl rfl rfl

theorem trans (hfg : Prefills ds f g) (hgh : Prefills es g h) : Prefills (ds ++ es) f h where
  indentation := hgh.indentation.trans hfg.indentation
  indent := by
    rw [hgh.indent, hfg.indent, hfg.indentation, List.flatMap_append, List.append_assoc]
  depth := by
    rw [hgh.depth, hfg.depth, List.getLast?_append]
    cases es.getLast? <;> rfl
  pos d hm := by
    rcases List.mem_append.mp hm with hm | hm
    · exact hfg.pos d hm
    · exact hgh.pos d hm

/-- What is prefilled is the same if and only if no line went on with a block. -/
theorem indent_eq_iff (h : Prefills ds f g) : g.screen.indent = f.screen.indent ↔ ds = [] := by
  rw [h.indent, List.append_right_eq_self, f.indentation.flatMap_fill_eq_nil h.pos]

/-- Behind a line that went on with a block, a block is open. -/
theorem depth_pos (h : Prefills ds f g) (hne : ds ≠ []) : 0 < g.draft.depth := by
  rw [h.depth, List.getLast?_eq_some_getLast hne]
  exact h.pos _ (List.getLast_mem hne)

/-- **Only the last of them fits.** -/
theorem fits_iff (h : Prefills ds f g) (hf : f.Fits) :
    g.Fits ↔ ¬(1 < ds.length ∨ ds.length = 1 ∧ f.screen.indent ≠ []) := by
  cases ds using List.reverseRecOn with
  | nil =>
    have hg : g.Fits := hf.of_eq (by simp [h.indent]) (by simp [h.depth]) h.indentation
    exact iff_of_true hg (by simp)
  | append_singleton ds d =>
    have hd : d ≠ 0 := Nat.pos_iff_ne_zero.mp (h.pos d (by simp))
    have hds : ∀ e ∈ ds, 0 < e := fun e he => h.pos e (List.mem_append_left _ he)
    have hdepth : g.draft.depth = d := by simp [h.depth]
    -- Behind the last depth there is nothing, so all that is in front of it has to be empty.
    have hfront : g.Fits ↔ f.screen.indent = [] ∧ ds = [] := by
      rw [Fits, h.indent, hdepth, h.indentation, List.flatMap_append, List.flatMap_singleton,
        ← List.append_assoc, List.append_left_eq_self, List.append_eq_nil_iff,
        List.append_eq_nil_iff, f.indentation.flatMap_fill_eq_nil hds]
      simp [hd]
    have hlength : 1 < (ds ++ [d]).length ↔ ds ≠ [] := by
      rw [List.length_append, List.length_singleton, Nat.lt_add_left_iff_pos, List.length_pos_iff]
    rw [hfront, hlength]
    by_cases hnil : ds = []
    · simp [hnil]
    · simp [hnil]

end Prefills

/-! ### What leaves the prefilled indentation alone -/

theorem prefills_cue (f : Framer γ) (c : Prompt.Cue) : Prefills [] f (f.cue c) :=
  .of_eq (by simp) (by simp) (by simp)

theorem Fits.cue (h : f.Fits) (c : Prompt.Cue) : (f.cue c).Fits :=
  h.of_eq (by simp) (by simp) (by simp)

/-- Where the depth is changed alone, what is prefilled may no longer be the indentation. -/
theorem fits_setDepth_iff (f : Framer γ) (depth : Nat) :
    (f.setDepth depth).Fits ↔
      f.screen.indent = [] ∨ f.screen.indent = f.indentation.fill depth := Iff.rfl

/-- A block that is opened where nothing is prefilled. -/
theorem fits_insertIndent (h : f.screen.indent = []) (depth : Nat) :
    ((f.setDepth depth).ask (.insertIndent (f.indentation.fill depth))).Fits := by
  refine .inr ?_
  show f.screen.indent ++ f.indentation.fill depth = f.indentation.fill depth
  rw [h, List.nil_append]

/-- A reset forgets what is prefilled. -/
theorem fits_reset (f : Framer γ) : f.reset.Fits := .inl ((indent_cue _ _).trans rfl)

/-- The only way in which a typed line prefills the next one. -/
theorem prefills_requestMore (f : Framer γ) {depth : Nat} (hd : 0 < depth) :
    Prefills [depth] f (f.requestMore depth) where
  indentation := by simp [requestMore]
  indent := by
    rw [List.flatMap_singleton]
    exact (congrArg Screen.indent rfl).trans (indent_cue _ _)
  depth := by simp
  pos d hm := by
    rw [List.mem_singleton] at hm
    exact hm ▸ hd

/-- A response that asks for more lines prefills only where no block is open, so where nothing is
prefilled yet. -/
theorem fits_continueStatement (h : f.Fits) (lastLine : Text) :
    (f.continueStatement lastLine).Fits := by
  have hshown : ((f.cue .moreLines).ask .requestLine).Fits := h.cue .moreLines
  rw [continueStatement]
  dsimp only
  split
  · rename_i hd
    exact fits_insertIndent (hshown.indent_eq_nil hd) _
  · exact hshown

/-- **A request for a line fits unless something is prefilled,** which is not by chance one column
wide. -/
theorem fits_inputRequested_iff (h : f.Fits) :
    f.inputRequested.Fits ↔ ¬(f.screen.indent ≠ [] ∧ f.draft.depth ≠ 1) := by
  have hindent : (f.cue .inputRequested).screen.indent = f.screen.indent := indent_cue f _
  have hind : (f.cue .inputRequested).indentation = f.indentation := indentation_cue f _
  rw [inputRequested, fits_setDepth_iff, hindent, hind, not_and_or, not_not, not_not]
  rcases h with hnil | hfill
  · simp [hnil]
  · rw [hfill, f.indentation.fill_injective.eq_iff]

theorem prefills_append (f : Framer γ) (line : Text) :
    Prefills [] f { f with draft := f.draft.append line } := .of_eq rfl (by simp) rfl

theorem prefills_setRegion (f : Framer γ) (region : Option TripleQuote) (on : Bool)
    (c : Prompt.Cue) : Prefills [] f (((f.setRegion region).ask (.setPlainText on)).cue c) :=
  .of_eq ((indent_cue _ _).trans rfl) (by simp) (by simp)

variable [Interpreter γ]

/-- Completing the statement forgets what is prefilled. -/
theorem fits_finish (f : Framer γ) : f.finish.Fits := .inl rfl

section Obliging

variable [Interpreter.NeverRefuses γ]

@[simp] theorem indent_send (f : Framer γ) (pending : PendingCommand) :
    (f.send pending).screen.indent = f.screen.indent := by
  rw [send_eq]
  rfl

@[simp] theorem indent_sendNext (f : Framer γ) : f.sendNext.screen.indent = f.screen.indent := by
  rw [sendNext]
  split
  · rfl
  · simp

variable [Interpreter.NeverWaits γ]

theorem prefills_sendDraft (f : Framer γ) (line : Text) : Prefills [] f (f.sendDraft line) := by
  have hindent : (f.sendDraft line).screen.indent = f.screen.indent := by
    rw [sendDraft_eq]
    dsimp only
    split <;> simp
  exact .of_eq hindent (by simp) (by simp)

/-! ### Typed text -/

theorem Prefills.conclude (h : Prefills [] f g) (line : Text) {kind : LineKind}
    (hk : ∀ d, kind = .indented d → 0 < d) :
    ∃ ds, ds.length ≤ 1 ∧ Prefills ds f (g.conclude line kind) := by
  refine conclude_cases (p := fun k => ∃ ds, ds.length ≤ 1 ∧ Prefills ds f k)
    ?continued ?indented ?nothing ?sent
  case continued => exact fun _ => ⟨[], Nat.zero_le 1, h.trans (prefills_cue g .moreLines)⟩
  case indented =>
    intro depth hd
    exact ⟨[depth], Nat.le_refl 1, h.trans (prefills_requestMore g (hk depth hd))⟩
  case nothing => exact fun _ => ⟨[], Nat.zero_le 1, h⟩
  case sent => exact fun _ => ⟨[], Nat.zero_le 1, h.trans (prefills_sendDraft g line)⟩

/-- **A dispatched line** goes on with one block at most. -/
theorem prefills_dispatch (f : Framer γ) (line : Text) :
    ∃ ds, ds.length ≤ 1 ∧ Prefills ds f (f.dispatch line) := by
  have hput := prefills_append f line
  cases hr : f.draft.region with
  | some style =>
    rw [dispatch_of_region hr]
    dsimp only
    split
    · have hclosed := hput.trans (prefills_setRegion _ none false .stringClosed)
      exact hclosed.conclude line fun _ hd => (block_of_closingKind hd).1
    · exact ⟨[], Nat.zero_le 1, hput⟩
  | none =>
    rw [dispatch_of_no_region hr]
    dsimp only
    cases TripleQuote.openedBy line with
    | some style =>
      exact ⟨[], Nat.zero_le 1, hput.trans (prefills_setRegion _ (some style) true .stringOpened)⟩
    | none => exact hput.conclude line fun _ hd => (LineKind.block_of_ofStatement hd).1

/-- A blank line goes on with no block. -/
theorem prefills_dispatch_newline (f : Framer γ) : Prefills [] f (f.dispatch ['\n']) := by
  have hb : Text.isBlank ['\n'] = true := by decide
  have hput := prefills_append f ['\n']
  cases hr : f.draft.region with
  | some style =>
    rw [dispatch_of_region hr, TripleQuote.toggles_of_isBlank style hb]
    exact hput
  | none =>
    rw [dispatch_of_no_region hr, TripleQuote.openedBy_of_isBlank hb]
    have hkind : LineKind.ofStatement f.indentation f.draft.depth ['\n'] = .blank := if_pos hb
    dsimp only
    rw [hkind, conclude]
    split
    · exact hput
    · exact hput.trans (prefills_sendDraft _ _)

/-- The empty line that closes a block in front of a typed one goes on with no block. -/
theorem prefills_processLine (f : Framer γ) (line : Text) :
    ∃ ds, ds.length ≤ 1 ∧ Prefills ds f (f.processLine line) := by
  have hflush := prefills_dispatch_newline f
  refine processLine_cases (p := fun g => ∃ ds, ds.length ≤ 1 ∧ Prefills ds f g)
    (fun _ => ⟨[], Nat.zero_le 1, hflush⟩) (fun _ _ => ?_) fun _ => prefills_dispatch f _
  obtain ⟨ds, hl, hds⟩ := prefills_dispatch (f.dispatch ['\n']) (Text.trimEnd line)
  exact ⟨ds, hl, hflush.trans hds⟩

end Obliging

/-- How many of some lines prefill the line behind them. -/
def prefilling (f : Framer γ) : List Text → Nat
  | [] => 0
  | line :: lines =>
    let g := f.processLine line
    (if g.screen.indent = f.screen.indent then 0 else 1) + g.prefilling lines

/-- A text prefills the same line twice, or one for which something is prefilled already. -/
def Stacks (f : Framer γ) (text : Text) : Prop :=
  1 < f.prefilling (Text.lines text) ∨
    f.prefilling (Text.lines text) = 1 ∧ f.screen.indent ≠ []

instance (f : Framer γ) (text : Text) : Decidable (f.Stacks text) :=
  inferInstanceAs (Decidable (_ ∨ _ ∧ _))

section Obliging

variable [Interpreter.NeverRefuses γ] [Interpreter.NeverWaits γ]

theorem prefills_lines (f : Framer γ) (lines : List Text) :
    ∃ ds, ds.length = f.prefilling lines ∧ Prefills ds f (lines.foldl processLine f) := by
  induction lines generalizing f with
  | nil => exact ⟨[], rfl, .refl f⟩
  | cons line lines ih =>
    obtain ⟨ds, hl, hds⟩ := prefills_processLine f line
    obtain ⟨es, he, hes⟩ := ih (f.processLine line)
    refine ⟨ds ++ es, ?_, hds.trans hes⟩
    have hone :
        ds.length = if (f.processLine line).screen.indent = f.screen.indent then 0 else 1 := by
      split
      · rename_i hsame
        rw [hds.indent_eq_iff.mp hsame]
        rfl
      · rename_i hmore
        have hne : ds ≠ [] := fun he => hmore (hds.indent_eq_iff.mpr he)
        exact Nat.le_antisymm hl (List.length_pos_iff.mpr hne)
    rw [List.length_append, hone, he]
    rfl

/-- **The lines of a text** go on with as many blocks as they prefill lines. -/
theorem prefills_processText (f : Framer γ) (text : Text) :
    ∃ ds, ds.length = f.prefilling (Text.lines text) ∧ Prefills ds f (f.processText text) := by
  rw [processText]
  split
  · rename_i he
    obtain rfl := List.isEmpty_iff.mp he
    exact ⟨[], rfl, prefills_dispatch_newline f⟩
  · exact prefills_lines f _

/-- **A text fits unless it prefills a line twice.** A block that the text opens is executed anyway,
if that is asked for, and nothing is prefilled then. -/
theorem fits_submit_iff (h : f.Fits) (text : Text) (execAnyway : Bool) :
    (f.submit text execAnyway).Fits ↔
      ¬((execAnyway = true → 0 < f.draft.depth) ∧ f.Stacks text) := by
  obtain ⟨ds, hl, hds⟩ := prefills_processText f text
  have hiff := hds.fits_iff h
  rw [hl] at hiff
  rw [submit_eq]
  by_cases hopen : execAnyway = true → 0 < f.draft.depth
  · rw [if_neg, and_iff_right hopen]
    · exact hiff
    · intro hforced
      rw [Bool.and_eq_true, Bool.and_eq_true, beq_iff_eq] at hforced
      exact absurd hforced.2 (Nat.pos_iff_ne_zero.mp (hopen hforced.1.1))
  · refine iff_of_true ?_ fun hs => hopen hs.1
    rw [Classical.not_imp, Nat.not_lt, Nat.le_zero] at hopen
    split
    · exact fits_finish _
    · rename_i hkept
      have hnil : ds = [] := by
        by_contra hne
        exact hkept (by simp [hopen, hds.depth_pos hne])
      exact hiff.mpr (by simp [← hl, hnil])

/-! ### Reports -/

/-- **A response fits unless it ends a command while something is prefilled.** -/
theorem fits_respond_iff (h : f.Fits) (more : Bool) :
    (f.respond more).Fits ↔
      ¬(more = false ∧ f.inFlight.isSome = true ∧ f.screen.indent ≠ []) := by
  cases hl : f.inFlight with
  | none =>
    rw [respond_of_none hl]
    exact iff_of_true h (by simp)
  | some lastLine =>
    have hnext (g : Framer γ) : g.sendNext.Fits ↔ g.Fits := by
      rw [Fits, indent_sendNext, draft_sendNext, indentation_sendNext, Fits]
    have hfree : Fits { f with inFlight := none } := h
    rw [respond_of_some hl, hnext]
    cases more with
    | true => exact iff_of_true (fits_continueStatement hfree lastLine) (by simp)
    | false =>
      have hsettle : f.settle lastLine false =
          (commandExecuted { f with inFlight := none }).setDepth 0 := by simp [settle]
      have hindent : (commandExecuted { f with inFlight := none }).screen.indent =
          f.screen.indent := indent_cue _ _
      rw [hsettle, fits_setDepth_iff, hindent]
      simp

end Obliging

end Screen

end Framer

namespace Console

open Framer (Fits)

variable {γ : Type} [Interpreter γ] {c : Console γ}

/-- What happens to a console whose prefilled indentation is taken by whoever reads the lines. -/
inductive Event (γ : Type) where
  | act (a : Act γ)
  | takeIndent

/-- The console behind an event. -/
def happen (c : Console γ) : Event γ → Console γ
  | .act a => c.act a
  | .takeIndent => { c with framer := c.framer.takeIndent.2 }

/-- Behind the event the prefilled indentation is not that of the block. -/
def Overfills (c : Console γ) : Event γ → Prop
  | .act (.enter line) => (c.enter line).1.isOk = true ∧ c.framer.Stacks line
  | .act (.run text) =>
    (c.run text).1.isOk = true ∧ 0 < c.framer.draft.depth ∧ c.framer.Stacks text
  | .act (.notice (.response more)) =>
    more = false ∧ c.framer.inFlight.isSome = true ∧ c.framer.screen.indent ≠ []
  | .act (.notice .inputRequested) => c.framer.screen.indent ≠ [] ∧ c.framer.draft.depth ≠ 1
  | _ => False

instance (c : Console γ) : (e : Event γ) → Decidable (c.Overfills e)
  | .act (.enter _) => inferInstanceAs (Decidable (_ ∧ _))
  | .act (.run _) => inferInstanceAs (Decidable (_ ∧ _ ∧ _))
  | .act (.notice (.response _)) => inferInstanceAs (Decidable (_ ∧ _ ∧ _))
  | .act (.notice .inputRequested) => inferInstanceAs (Decidable (_ ∧ _))
  | .act (.notice .ready) | .act (.notice .executed) | .act (.notice (.promptRequested _))
  | .act (.notice (.output ..)) | .act (.notice (.exited _)) | .act .interrupt
  | .act (.proceed _) | .takeIndent => isFalse id

variable [Interpreter.NeverWaits γ] [Interpreter.NeverRefuses γ]

theorem fits_submit_iff (h : c.framer.Fits) (text : Text) (execAnyway : Bool) :
    (c.submit text execAnyway).2.framer.Fits ↔ ¬((c.submit text execAnyway).1.isOk = true ∧
      (execAnyway = true → 0 < c.framer.draft.depth) ∧ c.framer.Stacks text) := by
  obtain ⟨refusal, hr⟩ | hr := c.submit_cases text execAnyway
  · rw [hr]
    refine iff_of_true h ?_
    rintro ⟨hok, -⟩
    cases hok
  · rw [hr]
    have hok : (Except.ok () : Except Refusal Unit).isOk = true := rfl
    rw [and_iff_right hok]
    exact Framer.fits_submit_iff h text execAnyway

/-- **An event fits unless it overfills.** -/
theorem fits_happen_iff (h : c.framer.Fits) (e : Event γ) :
    (c.happen e).framer.Fits ↔ ¬c.Overfills e := by
  cases e with
  | takeIndent => exact iff_of_true (.inl rfl) id
  | act a =>
    cases a with
    | enter line =>
      refine (fits_submit_iff h line false).trans (not_congr ?_)
      simp [Overfills, enter]
    | run text =>
      refine (fits_submit_iff h text true).trans (not_congr ?_)
      simp [Overfills, run]
    | proceed g => exact iff_of_true h id
    | interrupt =>
      refine iff_of_true ?_ id
      rcases c.framer_interrupt with he | he
      · rw [happen, act, he]
        exact h
      · rw [happen, act, he]
        exact Framer.fits_finish _
    | notice n =>
      cases n with
      | ready => exact iff_of_true h id
      | response more => exact Framer.fits_respond_iff h more
      | executed => exact iff_of_true (h.cue _) id
      | inputRequested => exact Framer.fits_inputRequested_iff h
      | promptRequested prompt => exact iff_of_true (h.cue _) id
      | output stream text => exact iff_of_true h id
      | exited code => exact iff_of_true (Framer.fits_reset c.framer) id

/-- **What is prefilled is the indentation of the block, if and only if no event overfills.** Over
an interpreter that takes every command and never waits for a line: in all states of a run nothing
is prefilled or the indentation that the depth stands for, and nothing where the depth is zero,
provided that no text prefills a line that is prefilled already, and that no response ends a command
and no request for a line comes while something is prefilled. Each of these leads to a state in
which another indentation is prefilled. -/
theorem indent_fits_iff (g : γ) (texts : PromptTexts) (indentation : Indentation)
    (capacity : Nat) (es : List (Event γ)) :
    let behind (es : List (Event γ)) : Console γ :=
      es.foldl happen (fresh g { texts := texts } indentation capacity)
    (∀ before, before <+: es →
      let f := (behind before).framer
      (f.screen.indent = [] ∨ f.screen.indent = f.indentation.fill f.draft.depth) ∧
        (f.draft.depth = 0 → f.screen.indent = [])) ↔
    ∀ before e, before ++ [e] <+: es → ¬(behind before).Overfills e := by
  intro behind
  have hempty : (behind []).framer.Fits := .inl rfl
  have hiff := forall_prefix_iff (fun _ => True) (fun c : Console γ => c.framer.Fits)
    (fun _ _ _ => trivial) (fun _ e _ h => fits_happen_iff h e) trivial hempty es
  refine Iff.trans ?_ hiff
  refine forall₂_congr fun before _ => and_iff_left_of_imp ?_
  intro h
  exact Fits.indent_eq_nil h

/-- A block is begun, and its indentation is taken before each further line. -/
def takenIndents : List (Event Obliging) :=
  [.act (.notice .ready), .act (.enter ['i', 'f', ':']), .takeIndent, .act (.enter [' ', 'a'])]

/-- What is prefilled then is the indentation of the block. -/
theorem indent_fits_iff_takenIndents :
    let f := (takenIndents.foldl happen (fresh ({} : Obliging) { texts := {} } {} 8)).framer
    f.screen.indent ≠ [] ∧
      (f.screen.indent = [] ∨ f.screen.indent = f.indentation.fill f.draft.depth) := by
  intro f
  have hkept : ∀ before e, before ++ [e] <+: takenIndents →
      ¬(before.foldl happen (fresh ({} : Obliging) { texts := {} } {} 8)).Overfills e :=
    forall_prefix_of_inits (by decide)
  have hall := (indent_fits_iff ({} : Obliging) {} {} 8 takenIndents).mpr hkept
  exact ⟨by decide, (hall takenIndents List.prefix_rfl).1⟩

/-- Two lines of a block in one text. -/
def pastedBlock : List (Event Obliging) :=
  [.act (.notice .ready), .act (.enter ['i', 'f', ':']), .takeIndent,
    .act (.run [' ', 'a', '\n', ' ', 'b'])]

/-- A block is begun before the console gets to the response of the last command. -/
def lateResponse : List (Event Obliging) :=
  [.act (.notice .ready), .act (.enter ['x']), .act (.proceed {}), .act (.enter ['i', 'f', ':']),
    .act (.notice (.response false))]

/-- So it is not always the indentation of the block, and something may be prefilled where no block
is open. -/
theorem exists_indent_not_fits :
    ∃ es es' : List (Event Obliging),
      (∀ e ∈ es ++ es', e = .takeIndent ∨ e = .act (.notice .ready) ∨
        (∃ g, e = .act (.proceed g)) ∨ (∃ line, e = .act (.enter line)) ∨
        (∃ text, e = .act (.run text)) ∨ ∃ more, e = .act (.notice (.response more))) ∧
      let behind (es : List (Event Obliging)) : Framer Obliging :=
        (es.foldl happen (fresh {} { texts := {} } {} 8)).framer
      ¬((behind es).screen.indent = [] ∨ (behind es).screen.indent =
          (behind es).indentation.fill (behind es).draft.depth) ∧
        (behind es').draft.depth = 0 ∧ (behind es').screen.indent ≠ [] := by
  refine ⟨pastedBlock, lateResponse, ?_, by decide, by decide, by decide⟩
  intro e he
  simp only [pastedBlock, lateResponse, List.cons_append, List.nil_append, List.mem_cons,
    List.not_mem_nil, or_false] at he
  rcases he with rfl | rfl | rfl | rfl | rfl | rfl | rfl | rfl | rfl <;> simp

end Console

end LineFraming
