import LineFraming.Proofs.Console.Scanning
import LineFraming.Proofs.Framer.Keeping

/-!
# A text that is run is executed as a whole

A text that is run may leave a block open. The block is executed then, as if an empty line closed
it, but only if the depth is positive behind the text and was zero in front of it. The depth says
little by itself. It may be that of an open block, or that of a block which is in flight already, or
zero while a string is open.

It suffices nevertheless. A draft that is left behind the text goes on behind its last line; if no
string is open and the line does not end in a backslash, it goes on as a block, so the depth is
positive. And where the depth is positive without a draft, a command is in flight, so the empty line
adds none.

What is executed is all that was typed. The lines of a text go into the draft one by one, and
whenever the draft is sent it becomes the last of all commands.

The interpreter takes every command here and never waits for a line.

## Main definitions

* `Framer.Poised` — states in which a blank draft closes no block
* `Framer.Consumes` — some lines went into new commands and into the draft

## Main results

* `Framer.Poised.consumes_dispatch`, `Framer.Poised.consumes_processText` — where lines go
* `Framer.open_processText` — why a draft is left behind a text
* `Console.run_executes_all` — behind a text that was run nothing is left
-/

namespace LineFraming

namespace Framer

variable {γ : Type} {f g h : Framer γ} {line : Text} {ls ms : List Text}

/-- Nothing overtakes anything, the draft can be told apart into lines, and without a draft a block
is open only in the command in flight. -/
structure Poised (f : Framer γ) : Prop where
  inOrder : f.InOrder
  ended : Text.Ended f.draft.text
  idle : f.draft.isBlank = true → f.draft.depth = 0 ∨ f.inFlight.isSome = true

/-- Some lines went into new commands and into the draft, in order, and no new command is blank. -/
structure Consumes (f g : Framer γ) (lines : List Text) : Prop where
  poised : g.Poised
  region : g.draft.region = TripleQuote.afterLines f.draft.region lines
  handed : ∃ new, g.issued = f.issued ++ new ∧
    (∀ command ∈ new, Text.isBlank command = false) ∧
    new.flatMap Text.filled ++ Text.filled g.draft.text =
      Text.filled f.draft.text ++ Text.solid lines

theorem Consumes.trans (hfg : Consumes f g ls) (hgh : Consumes g h ms) :
    Consumes f h (ls ++ ms) where
  poised := hgh.poised
  region := by rw [hgh.region, hfg.region, TripleQuote.afterLines_append]
  handed := by
    obtain ⟨new, hn, hb, ht⟩ := hfg.handed
    obtain ⟨more, hm, hb', ht'⟩ := hgh.handed
    refine ⟨new ++ more, by rw [hm, hn, List.append_assoc], ?_, ?_⟩
    · exact List.forall_mem_append.mpr ⟨hb, hb'⟩
    · rw [List.flatMap_append, List.append_assoc, ht', ← List.append_assoc, ht, List.append_assoc,
        Text.solid_append]

theorem Poised.consumes_nil (h : f.Poised) : Consumes f f [] :=
  ⟨h, rfl, [], by simp, by simp, by simp [Text.solid]⟩

section Obliging

variable [Interpreter γ] [Interpreter.NeverWaits γ] [Interpreter.NeverRefuses γ]

namespace Poised

/-- **A dispatched line** stays in the draft, or the draft becomes the last command. A blank draft
is not sent, as nothing is open that it could close. -/
theorem consumes_dispatch (h : f.Poised)
    (hfilled : Text.filled (f.draft.append line).text = Text.filled f.draft.text ++ Text.solid ls)
    (hregion : TripleQuote.after f.draft.region line = TripleQuote.afterLines f.draft.region ls) :
    Consumes f (f.dispatch line) ls := by
  have hended : Text.Ended (f.draft.append line).text := by
    rw [Draft.text_append]
    exact h.ended.append (f.draft.ended_addition line)
  have hblank {g : Framer γ} (hg : Gathers f line g) (hb : g.draft.isBlank = true) :
      f.draft.isBlank = true := by
    rw [hg.isBlank, Bool.and_eq_true] at hb
    exact hb.1
  refine dispatch_cases (p := fun g => Consumes f g ls) ?waiting ?kept ?sent
  case waiting =>
    intro hw
    rw [isWaiting_eq_false] at hw
    cases hw
  case kept =>
    intro g hg hkept
    refine ⟨⟨?_, ?_, fun hb => ?_⟩, hg.region.trans hregion, [], ?_, by simp, ?_⟩
    · exact h.inOrder.of_eq hg.silent.inFlight hg.silent.queued
    · rw [hg.text]
      exact hended
    · rw [hkept.depth_eq hb, hg.silent.inFlight]
      exact h.idle (hblank hg hb)
    · rw [issued_of_eq hg.silent.commands hg.silent.queued, List.append_nil]
    · rw [hg.text]
      exact hfilled
  case sent =>
    intro g _ hg hr hcloses
    have hne : g.draft.isBlank = false := Bool.eq_false_iff.mpr fun hb => by
      obtain ⟨hd, hn⟩ := hcloses hb
      rcases h.idle (hblank hg hb) with hzero | hs
      · exact hd hzero
      · rw [hn] at hs
        cases hs
    have hgo : g.InOrder := h.inOrder.of_eq hg.silent.inFlight hg.silent.queued
    have hflight := isSome_inFlight_sendDraft g line
    refine ⟨⟨fun hn => ?_, ?_, fun _ => .inr hflight⟩, ?_, [g.draft.text], ?_, ?_, ?_⟩
    · rw [hn] at hflight
      cases hflight
    · rw [text_sendDraft]
      exact Text.ended_nil
    · rw [draft_sendDraft, ← hregion, ← hg.region]
    · rw [hgo.issued_sendDraft, issued_of_eq hg.silent.commands hg.silent.queued]
    · exact List.forall_mem_singleton.mpr hne
    · rw [text_sendDraft, List.flatMap_singleton, Text.filled_nil, List.append_nil, hg.text]
      exact hfilled

/-- The empty line that completes a statement is no line of the text. -/
theorem consumes_dispatch_newline (h : f.Poised) : Consumes f (f.dispatch ['\n']) [] :=
  h.consumes_dispatch (by simp [Draft.filled_append_newline h.ended, Text.solid])
    (TripleQuote.after_of_isBlank _ rfl)

theorem consumes_processLine (h : f.Poised) (hn : '\n' ∉ line) :
    Consumes f (f.processLine line) [line] := by
  have htrimmed (hne : Text.trimEnd line ≠ []) {g : Framer γ} (hg : g.Poised) :
      Consumes g (g.dispatch (Text.trimEnd line)) [line] := by
    refine hg.consumes_dispatch ?_ (TripleQuote.after_trimEnd _ line)
    rw [Draft.filled_append_trimEnd hg.ended hn hne, Text.solid_of_ne hne]
  have hflush := h.consumes_dispatch_newline
  refine processLine_cases (p := fun g => Consumes f g [line]) (fun hblank => ?_)
    (fun hne _ => hflush.trans (htrimmed hne hflush.poised)) fun hne => htrimmed hne h
  refine h.consumes_dispatch ?_ ?_
  · rw [Draft.filled_append_newline h.ended, Text.solid_of_blank hblank, List.append_nil]
  · show _ = TripleQuote.after _ line
    rw [TripleQuote.after_of_isBlank _ (Text.trimEnd_eq_nil.mp hblank),
      TripleQuote.after_of_isBlank _ rfl]

theorem consumes_processText (h : f.Poised) (text : Text) :
    Consumes f (f.processText text) (Text.lines text) :=
  processText_lines (p := fun done g => Consumes f g done)
    (fun _ _ _ hn hg => hg.trans (hg.poised.consumes_processLine hn))
    (fun _ hg => hg.trans hg.poised.consumes_dispatch_newline) h.consumes_nil text

theorem consumes_finish (h : f.Poised) : Consumes f f.finish [] := by
  have hask {g : Framer γ} (hg : g.Poised) : Consumes g (g.ask .clearInput) [] := by
    refine ⟨⟨hg.inOrder, hg.ended, hg.idle⟩, rfl, [], ?_, by simp, by simp [Text.solid]⟩
    rw [issued_of_eq (silent_ask g _).commands rfl, List.append_nil]
  rw [finish]
  split
  · have hflush := h.consumes_dispatch_newline
    exact hflush.trans (hask hflush.poised)
  · exact hask h

end Poised

end Obliging

/-! ### What is left behind a text -/

section Left

variable [Interpreter γ]

theorem open_processLine (f : Framer γ) (line : Text) :
    (f.processLine line).draft.isBlank = false →
      (f.processLine line).draft.region.isSome = true ∨ (Text.trimEnd line).getLast? = some '\\' ∨
        0 < (f.processLine line).draft.depth := by
  refine processLine_cases (p := fun g => g.draft.isBlank = false → g.draft.region.isSome = true ∨
    (Text.trimEnd line).getLast? = some '\\' ∨ 0 < g.draft.depth) ?empty ?closing ?plain
  case empty => exact fun _ hb => .inl (region_dispatch_newline hb)
  case closing => exact fun _ _ hb => (kept_dispatch _ _ hb).goesOn hb
  case plain => exact fun _ hb => (kept_dispatch _ _ hb).goesOn hb

/-- **Why a draft is left behind a text:** a string is open, the last line is joined with the next
one, or a block is open. -/
theorem open_processText {text : Text} (hb : (f.processText text).draft.isBlank = false) :
    (f.processText text).draft.region.isSome = true ∨
      (∃ line ∈ (Text.lines text).getLast?, (Text.trimEnd line).getLast? = some '\\') ∨
      0 < (f.processText text).draft.depth := by
  by_cases he : text = []
  · subst he
    exact .inl (region_dispatch_newline (f := f) hb)
  · obtain ⟨init, last, hl⟩ :=
      (List.eq_nil_or_concat (Text.lines text)).resolve_left (Text.lines_ne_nil he)
    rw [List.concat_eq_append] at hl
    have htext : f.processText text = (init.foldl Framer.processLine f).processLine last := by
      rw [processText, if_neg (by simpa using he), hl, List.foldl_append]
      rfl
    rw [htext] at hb ⊢
    exact (open_processLine _ _ hb).imp_right (.imp_left fun hs => ⟨last, by simp [hl], hs⟩)

/-- Outside strings, completing a statement leaves nothing in the draft. -/
theorem isBlank_finish (hr : f.finish.draft.region = none) : f.finish.draft.isBlank = true := by
  rw [finish] at hr ⊢
  split
  · rename_i hs
    rw [if_pos hs] at hr
    refine Bool.of_not_eq_false fun hb => ?_
    have hopen := region_dispatch_newline hb
    rw [show (f.dispatch ['\n']).draft.region = none from hr] at hopen
    cases hopen
  · rename_i hs
    have hnone : f.draft.text? = none := Option.not_isSome_iff_eq_none.mp hs
    show Text.isBlank (f.draft.text?.getD []) = true
    rw [hnone]
    rfl

end Left

/-- **A text that is run becomes commands as a whole,** unless it ends inside a string or is joined
with what follows. -/
theorem Poised.executes_submit [Interpreter γ] [Interpreter.NeverWaits γ]
    [Interpreter.NeverRefuses γ] (h : f.Poised) (hb : f.draft.isBlank = true)
    (hd : f.draft.depth = 0) (hr : f.draft.region = none) {text : Text}
    (hopen : Text.openString text = none)
    (hjoined : ∀ line ∈ (Text.lines text).getLast?, (Text.trimEnd line).getLast? ≠ some '\\') :
    (f.submit text true).draft.isBlank = true ∧
      ∃ new, (f.submit text true).issued = f.issued ++ new ∧
        new.flatMap Text.filled = Text.content text ∧
        ∀ command ∈ new, Text.isBlank command = false := by
  have htext := h.consumes_processText text
  have hregion : (f.processText text).draft.region = none := by
    rw [htext.region, hr]
    exact hopen
  obtain ⟨hconsumed, hblank⟩ : Consumes f (f.submit text true) (Text.lines text) ∧
      (f.submit text true).draft.isBlank = true := by
    rw [submit_eq]
    split
    · have hfinish := htext.poised.consumes_finish
      have hall := htext.trans hfinish
      rw [List.append_nil] at hall
      refine ⟨hall, isBlank_finish ?_⟩
      rw [hfinish.region, hregion]
      rfl
    · rename_i hclosed
      refine ⟨htext, Bool.of_not_eq_false fun hne => ?_⟩
      rcases open_processText hne with hs | ⟨line, hl, hs⟩ | hpos
      · rw [hregion] at hs
        cases hs
      · exact hjoined line hl hs
      · exact hclosed (by simp [hpos, hd])
  obtain ⟨new, hn, hne, hfilled⟩ := hconsumed.handed
  rw [Text.filled_of_isBlank hb, Text.filled_of_isBlank hblank, List.append_nil] at hfilled
  exact ⟨hblank, new, hn, hfilled, hne⟩

end Framer

namespace Console

variable {γ : Type} [Interpreter γ] {c : Console γ}

/-- Every act keeps the queue in order. -/
theorem inOrder_act (h : c.framer.InOrder) (a : Act γ) : (c.act a).framer.InOrder := by
  have hkept (o : Framer.Operation γ) : (c.framer.operate o).InOrder :=
    (Framer.operate_inTurn h o).1
  have hsubmit (text : Text) (execAnyway : Bool) :
      (c.submit text execAnyway).2.framer.InOrder := by
    obtain ⟨refusal, hr⟩ | hr := c.submit_cases text execAnyway
    · rw [hr]
      exact h
    · rw [hr]
      exact hkept (.submit text execAnyway)
  cases a with
  | enter line => exact hsubmit line false
  | run text => exact hsubmit text true
  | proceed g => exact h
  | interrupt =>
    have hnote : c.framer.interrupt.2.InOrder := h
    rcases c.framer_interrupt with he | he
    · rw [act, he]
      exact hnote
    · rw [act, he]
      exact (Framer.operate_inTurn hnote .finish).1
  | notice n =>
    cases n with
    | ready => exact h
    | response more => exact hkept (.respond more)
    | executed => exact hkept .commandExecuted
    | inputRequested => exact hkept .inputRequested
    | promptRequested prompt => exact hkept (.promptRequested prompt)
    | output stream text => exact h
    | exited code => exact hkept .reset

theorem inOrder_acts (h : c.framer.InOrder) (acts : List (Act γ)) :
    (acts.foldl act c).framer.InOrder := by
  induction acts generalizing c with
  | nil => exact h
  | cons a acts ih => exact ih (inOrder_act h a)

/-- **A text that is run is executed as a whole.** In every state that an enabled console may get
into, where nothing is being typed, no block and no string is open and nothing is executing, over an
interpreter that takes every command and never waits for a line: a text that does not end inside a
string, and whose last line does not end in a backslash, is taken; nothing is being typed
afterwards; the new commands, those handed over and those in the queue, hold the lines of the text
that are not blank, trimmed and in order, and no other line but blank ones; and none of them is
blank. -/
theorem run_executes_all [Interpreter.NeverWaits γ] [Interpreter.NeverRefuses γ] (g : γ)
    (screen : Screen) (indentation : Indentation) (capacity : Nat) (acts : List (Act γ))
    (text : Text) :
    let c := acts.foldl act (fresh g screen indentation capacity)
    c.enabled = true → Interpreter.isExecuting c.framer.interpreter = false →
    c.framer.draft.isBlank = true → c.framer.draft.depth = 0 → c.framer.draft.region = none →
    Text.openString text = none →
    (∀ line ∈ (Text.lines text).getLast?, (Text.trimEnd line).getLast? ≠ some '\\') →
    (c.run text).1 = .ok () ∧ (c.run text).2.framer.draft.isBlank = true ∧
      ∃ new, (c.run text).2.framer.issued = c.framer.issued ++ new ∧
        new.flatMap Text.filled = Text.content text ∧
        ∀ command ∈ new, Text.isBlank command = false := by
  intro c henabled hidle hb hd hr hopen hjoined
  have hscanned : c.framer.Scanned := scanned_acts (.fresh g screen indentation) acts
  have hpoised : c.framer.Poised :=
    ⟨inOrder_acts (fun _ => rfl) acts, hscanned.ended, fun _ => .inl hd⟩
  have hcheck : c.check = .ok () := by simp [check, henabled, canExecuteNow, hidle]
  have hrun : c.run text =
      (.ok (), { c.remember text with framer := c.framer.submit text true }) := by
    rw [run, submit, hcheck]
    dsimp only
    rw [framer_remember]
  rw [hrun]
  exact ⟨rfl, hpoised.executes_submit hb hd hr hopen hjoined⟩

/-- A block that a line at the margin closes, and another one that is left open. -/
def twoBlocks : Text := "if a:\n  b \n\tc\nd\n\nwhile e:".toList

/-- The text is run while the response to a command is outstanding. -/
theorem run_executes_all_twoBlocks :
    let acts : List (Act Obliging) := [.notice .ready, .enter ['x'], .proceed {}]
    let c := acts.foldl act (fresh ({} : Obliging) {} {} 8)
    c.framer.inFlight.isSome = true ∧ (c.run twoBlocks).1 = .ok () ∧
      (c.run twoBlocks).2.framer.draft.isBlank = true ∧
      ∃ new, (c.run twoBlocks).2.framer.issued = c.framer.issued ++ new ∧
        new.flatMap Text.filled =
          ["if a:".toList, "  b".toList, "\tc".toList, "d".toList, "while e:".toList] := by
  intro acts c
  have hcontent : Text.content twoBlocks =
      ["if a:".toList, "  b".toList, "\tc".toList, "d".toList, "while e:".toList] := by decide
  obtain ⟨hok, hblank, new, hn, hfilled, -⟩ := run_executes_all ({} : Obliging) {} {} 8 acts
    twoBlocks (by decide) (by decide) (by decide) (by decide) (by decide) (by decide) (by decide)
  exact ⟨by decide, hok, hblank, new, hn, hfilled.trans hcontent⟩

end Console

end LineFraming
