import LineFraming.Proofs.Framer.Slot
import LineFraming.Proofs.Quote

/-!
# A framer at rest

A framer is at rest when no command is in flight and nothing is being typed. No statement is open
then, so no block is open, no string is open and the prompt is the ordinary one. The exception is an
interpreter that asked for more lines of the last command: it holds the block open itself.

Depth, string, prompt and slot are changed apart from each other, and the depth of a block is left
as it is when the block is sent. So what holds at rest has to be found in what holds at all times.
A string is open only in a draft that is not blank, and what waits in the queue is not blank. A
depth outlives its draft only while a command is in flight; the response clears it, and so does a
refusal.

The interpreter never waits for a line here, but it may refuse any command.

## Main definitions

* `Framer.AtRest` — no command is in flight and nothing is being typed
* `Framer.Consistent` — what holds at all times
* `Framer.Passes` — what an operation leads to, and which blank commands it hands over

## Main results

* `Framer.Consistent.passes_dispatch` — a dispatched line
* `Framer.Consistent.passes_submit`, `Framer.Consistent.passes_finish` — what the user does
* `Framer.Consistent.passes_respond` — a response
-/

namespace LineFraming

namespace Draft

/-- A draft is blank behind a line if it was blank before and so is the line. -/
@[simp] theorem isBlank_append (d : Draft) (line : Text) :
    (d.append line).isBlank = (d.isBlank && Text.isBlank line) := by
  have ht : Text.isBlank (terminated line) = Text.isBlank line := by
    rw [terminated]
    split
    · rfl
    · simp [show Text.isBlankChar '\n' = true by decide]
  unfold append
  split
  · simp_all [isBlank, text]
  · simp [isBlank, text, ht]

end Draft

namespace Framer

variable {γ : Type} {f g h : Framer γ} {more : Bool}

/-! ### The prompt -/

@[simp] theorem prompt_ask (f : Framer γ) (a : Screen.Action) : (f.ask a).prompt = f.prompt := rfl

@[simp] theorem prompt_cue (f : Framer γ) (c : Prompt.Cue) :
    (f.cue c).prompt = f.prompt.after c := by
  unfold cue
  dsimp only
  split
  · exact Eq.symm ‹_›
  · split <;> rfl

@[simp] theorem prompt_setDepth (f : Framer γ) (depth : Nat) :
    (f.setDepth depth).prompt = f.prompt := rfl

/-! ### What holds at all times -/

/-- No command is in flight, and nothing is being typed. -/
structure AtRest (f : Framer γ) : Prop where
  inFlight : f.inFlight = none
  draft : f.draft.isBlank = true

/-- What holds at all times, where `more` tells whether the last response to a command asked for
more lines. -/
structure Consistent (more : Bool) (f : Framer γ) : Prop where
  inOrder : f.InOrder
  region : f.draft.region.isSome = true → f.draft.isBlank = false
  queued : ∀ pending ∈ f.queued, Text.isBlank pending.command = false
  atRest : f.AtRest → more = false → f.draft.depth = 0 ∧ f.prompt = .ordinary

/-- The operation hands over commands, blank ones only if the last response asked for more. -/
structure Passes (more : Bool) (f g : Framer γ) : Prop where
  consistent : g.Consistent more
  commands : ∃ sent, g.commands = f.commands ++ sent ∧
    ∀ command ∈ sent, Text.isBlank command = true → more = true

namespace Consistent

theorem fresh (g : γ) (screen : Screen) (indentation : Indentation) :
    Consistent more { interpreter := g, screen := screen, indentation := indentation } where
  inOrder _ := rfl
  region h := by cases h
  queued _ h := by cases h
  atRest _ _ := ⟨rfl, rfl⟩

/-- The interpreter, the screen and the journal have no part in this. -/
theorem of_eq (h : f.Consistent more) (hd : g.draft = f.draft) (hi : g.inFlight = f.inFlight)
    (hq : g.queued = f.queued) (hp : g.prompt = f.prompt) : g.Consistent more where
  inOrder := h.inOrder.of_eq hi hq
  region := by
    rw [hd]
    exact h.region
  queued := by
    rw [hq]
    exact h.queued
  atRest hg := by
    rw [hd, hp]
    exact h.atRest ⟨hi ▸ hg.inFlight, hd ▸ hg.draft⟩

/-- While something is being typed, depth and prompt are free, and a string may be open. -/
theorem of_typing (h : f.Consistent more) (hi : g.inFlight = f.inFlight)
    (hq : g.queued = f.queued) (hb : g.draft.isBlank = false) : g.Consistent more where
  inOrder := h.inOrder.of_eq hi hq
  region _ := hb
  queued := by
    rw [hq]
    exact h.queued
  atRest hg := absurd (hb.symm.trans hg.draft) Bool.false_ne_true

/-- A line is put into the draft. -/
theorem append (h : f.Consistent more) (line : Text) :
    Consistent more { f with draft := f.draft.append line } where
  inOrder := h.inOrder
  region hr := by
    rw [Draft.region_append] at hr
    rw [Draft.isBlank_append, h.region hr]
    rfl
  queued := h.queued
  atRest hg := by
    have hd := hg.draft
    rw [Draft.isBlank_append, Bool.and_eq_true] at hd
    rw [Draft.depth_append]
    exact h.atRest ⟨hg.inFlight, hd.1⟩

end Consistent

namespace Passes

/-- Nothing is handed over. -/
theorem of_eq (h : g.Consistent more) (hc : g.commands = f.commands) : Passes more f g :=
  ⟨h, [], by rw [hc, List.append_nil], fun _ hm => by cases hm⟩

theorem refl (h : f.Consistent more) : Passes more f f := of_eq h rfl

theorem trans (hfg : Passes more f g) (hgh : Passes more g h) : Passes more f h := by
  obtain ⟨sent, hs, hb⟩ := hfg.commands
  obtain ⟨last, hl, hb'⟩ := hgh.commands
  refine ⟨hgh.consistent, sent ++ last, by rw [hl, hs, List.append_assoc], fun command hm => ?_⟩
  rcases List.mem_append.mp hm with hm | hm
  · exact hb command hm
  · exact hb' command hm

/-- The same is handed over from where the same had been handed over. -/
theorem behind {f' : Framer γ} (h : Passes more f' g) (hc : f'.commands = f.commands) :
    Passes more f g := by
  refine ⟨h.consistent, ?_⟩
  rw [← hc]
  exact h.commands

/-- While something is being typed, whatever is shown hands over nothing. -/
theorem of_typing (h : f.Consistent more) (hs : Silent f g) (hb : g.draft.isBlank = false) :
    Passes more f g :=
  of_eq (h.of_typing hs.inFlight hs.queued hb) hs.commands

theorem of_ask (h : f.Consistent more) (a : Screen.Action) : Passes more f (f.ask a) :=
  of_eq (h.of_eq rfl rfl rfl rfl) (silent_ask f a).commands

/-- Behind a reset the framer is as good as new. -/
theorem of_reset (f : Framer γ) : Passes more f f.reset := by
  have hsilent := Silent.reset f
  have hd : f.reset.draft = {} := by simp [reset]
  refine of_eq ⟨fun _ => hsilent.queued, ?_, ?_, fun _ _ => ⟨?_, ?_⟩⟩ hsilent.commands
  · rw [hd]
    exact fun hs => nomatch hs
  · rw [hsilent.queued]
    exact fun _ hm => nomatch hm
  · rw [hd]
  · simp [reset, Prompt.after]

end Passes

theorem exists_draft_continueStatement (f : Framer γ) (lastLine : Text) :
    ∃ depth, (f.continueStatement lastLine).draft = { f.draft with depth := depth } := by
  rw [continueStatement]
  dsimp only
  split
  · exact ⟨f.indentation.width lastLine + f.indentation.unit, by simp⟩
  · exact ⟨f.draft.depth, by simp⟩

/-! ### Sending -/

variable [Interpreter γ]

/-- A command that is sent is in flight, or everything starts afresh. -/
theorem passes_send (hn : f.inFlight = none)
    (hr : f.draft.region.isSome = true → f.draft.isBlank = false)
    (hq : ∀ pending ∈ f.queued, Text.isBlank pending.command = false) {pending : PendingCommand}
    (hb : Text.isBlank pending.command = true → more = true) : Passes more f (f.send pending) := by
  obtain ⟨_, _, _, hinOrder⟩ := sent_send hn pending
  have hconsistent : (f.send pending).Consistent more := by
    cases he : (f.execute pending.command).1 with
    | ok _ =>
      rw [send_of_ok he] at hinOrder ⊢
      exact ⟨hinOrder, hr, hq, fun hs => by cases hs.inFlight⟩
    | error fault =>
      have hsilent := silent_send_of_error he
      have hd : (f.send pending).draft = { f.draft with depth := 0 } := by
        simp [send_of_error he, report]
      refine ⟨hinOrder, ?_, ?_, fun _ _ => ⟨?_, ?_⟩⟩
      · rw [hd]
        exact hr
      · rw [hsilent.queued]
        exact fun _ hm => by cases hm
      · rw [hd]
      · simp [send_of_error he, report, Prompt.after]
  refine ⟨hconsistent, [pending.command], commands_send f pending, fun command hm => ?_⟩
  rw [List.mem_singleton] at hm
  rw [hm]
  exact hb

/-- At rest nothing is executing, so the prompt becomes the ordinary one. -/
theorem Consistent.passes_commandExecuted (h : f.Consistent more)
    (hx : Interpreter.isExecuting f.interpreter = true → f.inFlight.isSome = true) :
    Passes more f f.commandExecuted := by
  have hsilent := Silent.commandExecuted f
  have hd : f.commandExecuted.draft = f.draft := draft_cue f _
  refine .of_eq ⟨h.inOrder.of_eq hsilent.inFlight hsilent.queued, ?_, ?_, fun hg hm => ?_⟩
    hsilent.commands
  · rw [hd]
    exact h.region
  · rw [hsilent.queued]
    exact h.queued
  · have hn : f.inFlight = none := hsilent.inFlight.symm.trans hg.inFlight
    have hidle : Interpreter.isExecuting f.interpreter = false := Bool.eq_false_iff.mpr fun he => by
      have hs := hx he
      rw [hn] at hs
      cases hs
    refine ⟨?_, by simp [commandExecuted, hidle, h.inOrder hn, Prompt.after]⟩
    rw [hd]
    exact (h.atRest ⟨hn, hd ▸ hg.draft⟩ hm).1

/-- Before the next command is released, a response changes nothing about the draft but its depth,
which it clears unless more lines are asked for. -/
theorem exists_draft_settle (f : Framer γ) (lastLine : Text) (m : Bool) :
    ∃ depth, (f.settle lastLine m).draft = { f.draft with depth := depth } ∧
      (m = false → depth = 0) := by
  rw [settle]
  dsimp only
  split
  · obtain ⟨depth, hd⟩ := exists_draft_continueStatement { f with inFlight := none } lastLine
    exact ⟨depth, hd, fun hm => by simp_all⟩
  · refine ⟨0, ?_, fun _ => rfl⟩
    split
    · rfl
    · simp [commandExecuted]

section NeverWaits

variable [Interpreter.NeverWaits γ]

theorem prompt_settle_false (f : Framer γ) (lastLine : Text) :
    (f.settle lastLine false).prompt = f.prompt.after
      (.finished (Interpreter.isExecuting f.interpreter || !f.queued.isEmpty)) := by
  simp [settle, commandExecuted]

namespace Consistent

/-- A draft is sent, or it queues behind the command in flight. Nothing but blanks is sent only at
the request of the interpreter. -/
theorem passes_sendDraft (h : f.Consistent more) (hr : f.draft.region = none)
    (hb : f.draft.isBlank = true → f.inFlight = none ∧ more = true) (line : Text) :
    Passes more f (f.sendDraft line) := by
  obtain ⟨k, hk, hd, he⟩ := exists_sendDraft (isWaiting_eq_false f) line
  have hregion : k.draft.region.isSome = true → k.draft.isBlank = false := fun hs => by
    rw [hd, show f.draft.take.2.region = none from hr] at hs
    cases hs
  rw [he]
  split
  · rename_i hbusy
    have hne : f.draft.isBlank = false := Bool.eq_false_iff.mpr fun hblank => by
      rw [(hb hblank).1] at hbusy
      cases hbusy
    refine .of_eq ⟨fun hn => ?_, hregion, fun pending hm => ?_, fun hg => ?_⟩ hk.commands
    · rw [← hk.inFlight, show k.inFlight = none from hn] at hbusy
      cases hbusy
    · rcases List.mem_append.mp hm with hm | hm
      · exact h.queued pending hm
      · rw [List.mem_singleton.mp hm]
        exact hne
    · rw [← hk.inFlight, show k.inFlight = none from hg.inFlight] at hbusy
      cases hbusy
  · rename_i hn
    rw [Option.not_isSome_iff_eq_none] at hn
    have hqueue : ∀ pending ∈ k.queued, Text.isBlank pending.command = false := by
      rw [hk.queued]
      exact h.queued
    refine (passes_send (hk.inFlight.trans hn) hregion hqueue fun hblank => ?_).behind hk.commands
    exact (hb hblank).2

/-- What a line outside strings leads to. A blank line closes something only if a block is open, and
at rest none is unless the interpreter asked for more. -/
theorem passes_conclude (h : f.Consistent more) (hr : f.draft.region = none) (line : Text)
    {kind : LineKind} (hk : f.draft.isBlank = true → kind = .blank) :
    Passes more f (f.conclude line kind) := by
  have htyping (hne : kind ≠ .blank) : f.draft.isBlank = false :=
    Bool.eq_false_iff.mpr fun hb => hne (hk hb)
  refine conclude_cases ?continued ?indented ?nothing ?sent
  case continued =>
    rintro rfl
    have hd : (f.cue .moreLines).draft = f.draft := draft_cue f .moreLines
    exact .of_typing h (silent_cue f .moreLines) (hd ▸ htyping (by simp))
  case indented =>
    rintro depth rfl
    have hd : (f.requestMore depth).draft.isBlank = f.draft.isBlank := by
      rw [draft_requestMore]
      rfl
    exact .of_typing h (.requestMore f depth) (hd.trans (htyping (by simp)))
  case nothing => exact fun _ => .refl h
  case sent =>
    intro hblank
    refine h.passes_sendDraft hr (fun hb => ?_) line
    have hcloses := hblank (hk hb)
    simp only [hb, Bool.true_and, blankClosesNothing, Bool.or_eq_true, beq_iff_eq, not_or,
      Option.not_isSome_iff_eq_none] at hcloses
    refine ⟨hcloses.2, Bool.of_not_eq_false fun hm => ?_⟩
    exact hcloses.1 (h.atRest ⟨hcloses.2, hb⟩ hm).1

/-- **A dispatched line** keeps what holds at all times. -/
theorem passes_dispatch (h : f.Consistent more) (line : Text) :
    Passes more f (f.dispatch line) := by
  have hput := h.append line
  -- Opening or closing a string shows something and leaves the text of the draft alone.
  have hstring (region : Option TripleQuote) (a : Screen.Action) (c : Prompt.Cue) :
      let g := ((({ f with draft := f.draft.append line }.setRegion region).ask a).cue c)
      g.draft.isBlank = (f.draft.append line).isBlank ∧ g.draft.region = region := by
    simp [Draft.isBlank, Draft.text]
  suffices hp : Passes more { f with draft := f.draft.append line } (f.dispatch line) from
    hp.behind rfl
  cases hr : f.draft.region with
  | some style =>
    have htyping : (f.draft.append line).isBlank = false := by
      rw [Draft.isBlank_append, h.region (by rw [hr]; rfl)]
      rfl
    rw [dispatch_of_region hr]
    dsimp only
    split
    · obtain ⟨hb, hregion⟩ := hstring none (.setPlainText false) .stringClosed
      rw [htyping] at hb
      have hclosed := Passes.of_typing hput (.setRegion _ none _ _) hb
      refine hclosed.trans (hclosed.consistent.passes_conclude hregion line fun hblank => ?_)
      exact absurd (hb.symm.trans hblank) Bool.false_ne_true
    · exact .refl hput
  | none =>
    have hregion : (f.draft.append line).region = none := by rw [Draft.region_append, hr]
    rw [dispatch_of_no_region hr]
    dsimp only
    cases ho : TripleQuote.openedBy line with
    | some style =>
      have hline : Text.isBlank line = false := Bool.eq_false_iff.mpr fun hb => by
        rw [TripleQuote.openedBy_of_isBlank hb] at ho
        cases ho
      obtain ⟨hb, _⟩ := hstring (some style) (.setPlainText true) .stringOpened
      rw [Draft.isBlank_append, hline, Bool.and_false] at hb
      exact .of_typing hput (.setRegion _ _ _ _) hb
    | none =>
      refine hput.passes_conclude hregion line fun hb => ?_
      rw [Draft.isBlank_append, Bool.and_eq_true] at hb
      exact if_pos hb.2

/-! ### What the user does -/

theorem passes_submit (h : f.Consistent more) (text : Text) (execAnyway : Bool) :
    Passes more f (f.submit text execAnyway) :=
  submit_induction (p := Passes more f)
    (fun _ _ line _ _ hg => hg.trans (hg.consistent.passes_dispatch line))
    (fun _ hg => hg.trans (.of_ask hg.consistent _)) (.refl h) text execAnyway

theorem passes_finish (h : f.Consistent more) : Passes more f f.finish :=
  finish_induction (p := Passes more f)
    (fun _ hg => hg.trans (hg.consistent.passes_dispatch _))
    (fun _ hg => hg.trans (.of_ask hg.consistent _)) (.refl h)

/-! ### Responses -/

/-- **A response** clears the depth, or the interpreter holds a block open. The next command is
released if there is one; else nothing is executing any more. -/
theorem passes_respond (h : f.Consistent more) (hi : f.inFlight.isSome = true) (m : Bool)
    (hx : Interpreter.isExecuting (f.respond m).interpreter = true →
      (f.respond m).inFlight.isSome = true) : Passes m f (f.respond m) := by
  obtain ⟨lastLine, hl⟩ := Option.isSome_iff_exists.mp hi
  rw [respond_of_some hl] at hx ⊢
  have hk := Silent.settle f lastLine m
  obtain ⟨depth, hd, hm⟩ := exists_draft_settle f lastLine m
  have hregion : (f.settle lastLine m).draft.region.isSome = true →
      (f.settle lastLine m).draft.isBlank = false := by
    rw [hd]
    exact h.region
  cases hq : f.queued with
  | nil =>
    have hqk : (f.settle lastLine m).queued = [] := hk.queued.trans hq
    have hnext : (f.settle lastLine m).sendNext = f.settle lastLine m := by rw [sendNext, hqk]
    rw [hnext, hk.inFlight, hk.interpreter] at hx
    rw [hnext]
    refine .of_eq ⟨fun _ => hqk, hregion, fun _ hmem => ?_, fun _ hfalse => ?_⟩ hk.commands
    · rw [hqk] at hmem
      cases hmem
    · subst hfalse
      refine ⟨by rw [hd, hm rfl], ?_⟩
      have hidle : Interpreter.isExecuting f.interpreter = false :=
        Bool.eq_false_iff.mpr fun he => absurd (hx he) Bool.false_ne_true
      rw [prompt_settle_false, hq, hidle]
      rfl
  | cons next rest =>
    have hblank := h.queued
    rw [hq, List.forall_mem_cons] at hblank
    obtain ⟨k, hnext, hdk, he⟩ := exists_sendNext (hk.queued.trans hq)
    rw [he]
    refine (passes_send (hnext.inFlight.trans hk.inFlight) ?_ ?_ ?_).behind ?_
    · rw [hdk]
      exact hregion
    · rw [hnext.queued]
      exact hblank.2
    · exact fun hb => absurd (hblank.1.symm.trans hb) Bool.false_ne_true
    · exact hnext.commands.trans hk.commands

end Consistent

end NeverWaits

end Framer

end LineFraming
