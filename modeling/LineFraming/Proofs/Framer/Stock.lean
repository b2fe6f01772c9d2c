import LineFraming.Proofs.Framer.Keeping

/-!
# Where the typed lines are

Every typed line that is not blank is in a command or in the draft. The order may be lost: an answer
to a program that waits overtakes the commands in the queue. So the lines are compared as those of a
list in any order, and each of them is there as often as it was typed.

The interpreter takes every command here, but it may wait for lines.

## Main definitions

* `Framer.Stores` — where the typed lines are

## Main results

* `Framer.perm_issued_sendDraft` — a draft that is sent is one more command
* `Framer.Stores.dispatch` — a dispatched line is in the draft or in the last command
* `Framer.Stores.submit`, `Framer.Stores.respond` — typed text adds its lines, a response none
-/

namespace LineFraming

namespace Framer

variable {γ : Type} {f g : Framer γ} {line : Text} {typed ls : List Text}

/-- The typed lines are in commands and in the draft, each of them as often as it was typed. -/
structure Stores (typed : List Text) (f : Framer γ) : Prop where
  ended : Text.Ended f.draft.text
  stock : (f.issued.flatMap Text.filled ++ Text.filled f.draft.text).Perm typed

namespace Stores

/-- The commands and the text of the draft decide. -/
theorem of_eq (h : f.Stores typed) (hi : g.issued = f.issued) (ht : g.draft.text = f.draft.text) :
    g.Stores typed where
  ended := by
    rw [ht]
    exact h.ended
  stock := by
    rw [hi, ht]
    exact h.stock

/-- The depth of the draft has no part in this. -/
theorem of_silent (h : f.Stores typed) (hs : Silent f g) {depth : Nat}
    (hd : g.draft = { f.draft with depth := depth }) : g.Stores typed :=
  h.of_eq (issued_of_eq hs.commands hs.queued) (by rw [hd]; rfl)

theorem ask (h : f.Stores typed) (a : Screen.Action) : (f.ask a).Stores typed :=
  h.of_silent (silent_ask f a) rfl

theorem cue (h : f.Stores typed) (c : Prompt.Cue) : (f.cue c).Stores typed :=
  h.of_silent (silent_cue f c) (draft_cue f c)

/-- A line is put into the draft. -/
theorem append (h : f.Stores typed) (hs : Silent f g)
    (ht : g.draft.text = (f.draft.append line).text)
    (hf : Text.filled (f.draft.append line).text = Text.filled f.draft.text ++ ls) :
    g.Stores (typed ++ ls) where
  ended := by
    rw [ht, Draft.text_append]
    exact h.ended.append (f.draft.ended_addition line)
  stock := by
    rw [ht, hf, issued_of_eq hs.commands hs.queued, ← List.append_assoc]
    exact h.stock.append_right ls

end Stores

variable [Interpreter γ]

/-! ### Sending -/

/-- The wish to abort moves no line. -/
theorem Stores.interrupt (h : f.Stores typed) : f.interrupt.2.Stores typed :=
  h.of_eq (issued_of_eq (commands_interrupt f) rfl) rfl

section NeverRefuses

variable [Interpreter.NeverRefuses γ]

/-- A draft that is sent is one more command. As an answer it overtakes those that wait. -/
theorem perm_issued_sendDraft (f : Framer γ) (line : Text) :
    (f.sendDraft line).issued.Perm (f.issued ++ [f.draft.text]) := by
  have hovertakes (before waiting : List Text) (command : Text) :
      (before ++ [command] ++ waiting).Perm (before ++ waiting ++ [command]) := by
    rw [List.append_assoc, List.append_assoc]
    exact List.perm_append_comm.append_left before
  cases hw : f.isWaiting with
  | true =>
    have hs := silent_sendDraft_of_waiting hw line
    have hcommands : (f.sendDraft line).commands = f.commands ++ [f.draft.text] := by
      rw [hs.commands]
      exact journal_execute_commands _ _
    rw [issued, hcommands, hs.queued]
    exact hovertakes _ _ _
  | false =>
    obtain ⟨k, hk, -, he⟩ := exists_sendDraft hw line
    rw [he]
    split
    · rw [issued, commands, List.map_append, ← List.append_assoc]
      rw [issued, ← hk.commands]
      rfl
    · rw [issued, commands_send, send_eq, issued, ← hk.commands, ← hk.queued]
      exact hovertakes _ _ _

namespace Stores

/-- Sending moves the lines of the draft, whatever takes them. -/
theorem sendDraft (h : f.Stores typed) (line : Text) : (f.sendDraft line).Stores typed where
  ended := by
    rw [text_sendDraft]
    exact Text.ended_nil
  stock := by
    have hsent := (perm_issued_sendDraft f line).flatMap_right Text.filled
    rw [List.flatMap_append, List.flatMap_singleton] at hsent
    rw [text_sendDraft, Text.filled_nil, List.append_nil]
    exact hsent.trans h.stock

/-! ### Typed text -/

/-- **A dispatched line** stays in the draft, or all is sent. -/
theorem dispatch (h : f.Stores typed)
    (hf : Text.filled (f.draft.append line).text = Text.filled f.draft.text ++ ls) :
    (f.dispatch line).Stores (typed ++ ls) := by
  have hstores {g : Framer γ} (hg : Gathers f line g) : g.Stores (typed ++ ls) :=
    h.append hg.silent hg.text hf
  refine dispatch_cases (p := Stores (typed ++ ls)) ?waiting ?kept ?sent
  case waiting =>
    have hput : Silent f { f with draft := f.draft.append line } := .of_draft f _
    exact fun _ => (h.append hput rfl hf).sendDraft line
  case kept => exact fun g hg _ => hstores hg
  case sent => exact fun g _ hg _ _ => (hstores hg).sendDraft line

/-- The empty line that completes a statement is no typed line. -/
theorem dispatch_newline (h : f.Stores typed) : (f.dispatch ['\n']).Stores typed := by
  have hf := Draft.filled_append_newline h.ended
  rw [← List.append_nil (Text.filled f.draft.text)] at hf
  rw [← List.append_nil typed]
  exact h.dispatch hf

theorem dispatch_trimEnd (h : f.Stores typed) (hn : '\n' ∉ line) (hne : Text.trimEnd line ≠ []) :
    (f.dispatch (Text.trimEnd line)).Stores (typed ++ Text.solid [line]) := by
  have hf := Draft.filled_append_trimEnd h.ended hn hne
  rw [← Text.solid_of_ne hne] at hf
  exact h.dispatch hf

theorem processLine (h : f.Stores typed) (hn : '\n' ∉ line) :
    (f.processLine line).Stores (typed ++ Text.solid [line]) := by
  refine processLine_cases (p := Stores (typed ++ Text.solid [line])) (fun hb => ?_)
    (fun hne _ => h.dispatch_newline.dispatch_trimEnd hn hne) fun hne => h.dispatch_trimEnd hn hne
  rw [Text.solid_of_blank hb, List.append_nil]
  exact h.dispatch_newline

theorem finish (h : f.Stores typed) : f.finish.Stores typed :=
  finish_induction (p := Stores typed) (fun _ hg => hg.dispatch_newline) (fun _ hg => hg.ask _) h

theorem processText (h : f.Stores typed) (text : Text) :
    (f.processText text).Stores (typed ++ Text.content text) := by
  refine processText_lines (p := fun done g => g.Stores (typed ++ Text.solid done)) ?_ ?_ ?_ text
  · intro done g line hn hg
    rw [Text.solid_append, ← List.append_assoc]
    exact hg.processLine hn
  · exact fun _ hg => hg.dispatch_newline
  · rwa [show Text.solid [] = [] from rfl, List.append_nil]

/-- **Submitted text adds its own lines,** whether it is executed at once or not. -/
theorem submit (h : f.Stores typed) (text : Text) (execAnyway : Bool) :
    (f.submit text execAnyway).Stores (typed ++ Text.content text) := by
  rw [submit_eq]
  split
  · exact (h.processText text).finish
  · exact h.processText text

end Stores

/-! ### Responses -/

/-- A response releases a command of the queue at most. -/
theorem issued_respond (f : Framer γ) (more : Bool) : (f.respond more).issued = f.issued := by
  cases hl : f.inFlight with
  | none => rw [respond_of_none hl]
  | some lastLine =>
    have hs := Silent.settle f lastLine more
    rw [respond_of_some hl, issued_sendNext, issued_of_eq hs.commands hs.queued]
    rfl

/-- It clears the depth, unless more lines are asked for. -/
theorem exists_draft_respond {lastLine : Text} (hl : f.inFlight = some lastLine) (more : Bool) :
    ∃ depth, (f.respond more).draft = { f.draft with depth := depth } ∧
      (more = false → depth = 0) := by
  rw [respond_of_some hl, draft_sendNext]
  exact exists_draft_settle f lastLine more

theorem Stores.respond (h : f.Stores typed) (more : Bool) : (f.respond more).Stores typed := by
  refine h.of_eq (issued_respond f more) ?_
  cases hl : f.inFlight with
  | none => rw [respond_of_none hl]
  | some lastLine =>
    obtain ⟨depth, hd, -⟩ := exists_draft_respond hl more
    rw [hd]
    rfl

end NeverRefuses

end Framer

end LineFraming
