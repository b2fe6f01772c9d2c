import LineFraming.Proofs.Console.Run
import LineFraming.Proofs.Framer.Outcome
import LineFraming.Proofs.Text.Lines

/-!
# No typed line is lost

A typed line is in one of three places: in a command that was handed over, in a command that waits
in the queue, or in the draft. `Framer.typed` is the text of all three, one behind the other. Only
a line that is typed makes it longer, at its end; sending a draft, queueing it, taking a command
from the queue and every notice move text from one place to the next and leave the whole as it is.

That the whole stays in order rests on `Framer.InOrder`: as long as something waits in the queue, a
command is in flight, so no draft is ever handed over past the queue.

## Main definitions

* `Framer.typed` — all that was typed, where it is now
* `Framer.Keeps`, `Framer.Adds` — an operation that moves text and adds none, or adds some lines
* `Framer.Tidy` — what was typed can be told apart into lines

## Main results

* `Framer.InOrder.typed_dispatch` — a dispatched line is added at the end
* `Framer.Tidy.adds_submit` — submitted text adds its own lines, in order
* `Console.content_eq_accepted` — behind every run, what was typed is the content of what was accepted
-/

namespace LineFraming

namespace Framer

variable {γ : Type}

/-- All that was typed, where it is now: handed over, in the queue, or in the draft. -/
def typed (f : Framer γ) : Text := f.issued.flatten ++ f.draft.text

/-- An operation that moves text from one place to the next, adds none and keeps the order. -/
structure Keeps (f g : Framer γ) : Prop where
  inOrder : g.InOrder
  typed : g.typed = f.typed

namespace Keeps

variable {f g h : Framer γ}

theorem trans (hfg : Keeps f g) (hgh : Keeps g h) : Keeps f h :=
  ⟨hgh.inOrder, hgh.typed.trans hfg.typed⟩

/-- Nothing is moved where the places stay as they are. -/
theorem of_eq (hf : f.InOrder) (hi : g.inFlight = f.inFlight) (hq : g.queued = f.queued)
    (hc : g.commands = f.commands) (ht : g.draft.text = f.draft.text) : Keeps f g := by
  refine ⟨hf.of_eq hi hq, ?_⟩
  rw [Framer.typed, issued_of_eq hc hq, ht, Framer.typed]

end Keeps

namespace InOrder

variable {f : Framer γ}

/-- Asking the screen and moving the prompt move no text. -/
theorem keeps_ask (h : f.InOrder) (a : Screen.Action) : Keeps f (f.ask a) :=
  .of_eq h rfl rfl (journal_ask_commands f a) rfl

theorem keeps_cue (h : f.InOrder) (c : Prompt.Cue) : Keeps f (f.cue c) :=
  .of_eq h (by simp) (by simp) (journal_cue_commands f c) (by simp)

theorem keeps_setDepth (h : f.InOrder) (depth : Nat) : Keeps f (f.setDepth depth) :=
  .of_eq h rfl rfl rfl rfl

variable [Interpreter γ] [Interpreter.NeverWaits γ] [Interpreter.NeverRefuses γ]

/-- Behind the line that was put into the draft, dispatching moves text and adds none. -/
theorem keeps_dispatch (h : f.InOrder) (line : Text) :
    Keeps { f with draft := f.draft.append line } (f.dispatch line) := by
  have hout := h.outcome_dispatch line
  refine ⟨hout.inOrder, ?_⟩
  rcases hout.cases with ⟨hi, ht⟩ | ⟨hi, ht⟩
  · rw [typed, typed, hi, ht]
  · rw [typed, typed, hi, ht]
    simp

/-- **A dispatched line is added at the end of what was typed.** -/
theorem typed_dispatch (h : f.InOrder) (line : Text) :
    (f.dispatch line).typed = f.typed ++ f.draft.addition line := by
  rw [(h.keeps_dispatch line).typed]
  simp only [typed, issued, commands, Draft.text_append, List.append_assoc]

end InOrder

/-! ### Notices -/

/-- What is done for a command that needs more lines moves no text. -/
@[simp] theorem typed_continueStatement (f : Framer γ) (lastLine : Text) :
    (f.continueStatement lastLine).typed = f.typed := by
  unfold continueStatement
  dsimp only
  split <;> simp [typed, issued, commands, Draft.text]

/-- What is done for a command that is complete moves no text. -/
theorem typed_commandExecuted [Interpreter γ] (f : Framer γ) :
    f.commandExecuted.typed = f.typed := by
  simp [commandExecuted, typed, issued, commands]

/-- Releasing a command moves it from the queue to the interpreter. The queue need not be in order
before: this is the moment at which the order is restored. -/
theorem keeps_sendNext [Interpreter γ] [Interpreter.NeverRefuses γ] (f : Framer γ) :
    Keeps f f.sendNext := by
  rw [sendNext]
  split
  · rename_i hq
    exact .of_eq (fun _ => hq) rfl rfl rfl rfl
  · rename_i next rest hq
    rw [send_eq]
    refine ⟨fun hn => ?_, ?_⟩
    · cases hn
    · simp [typed, issued, commands, hq]

/-- Before the next command is released, a response moves no text. -/
theorem typed_settle [Interpreter γ] [Interpreter.NeverWaits γ] (f : Framer γ) (lastLine : Text)
    (more : Bool) : (f.settle lastLine more).typed = f.typed := by
  rw [settle]
  split
  · exact typed_continueStatement _ _
  · rw [if_neg (by simp)]
    exact typed_commandExecuted _

/-- A response moves at most one command, from the queue to the interpreter. -/
theorem InOrder.keeps_respond [Interpreter γ] [Interpreter.NeverWaits γ]
    [Interpreter.NeverRefuses γ] {f : Framer γ} (h : f.InOrder) (more : Bool) :
    Keeps f (f.respond more) := by
  cases hl : f.inFlight with
  | none =>
    rw [respond_of_none hl]
    exact .of_eq h rfl rfl rfl rfl
  | some lastLine =>
    have hsend := keeps_sendNext (f.settle lastLine more)
    rw [respond_of_some hl]
    exact ⟨hsend.inOrder, hsend.typed.trans (typed_settle f lastLine more)⟩

/-! ### Typing -/

/-- What was typed can be told apart into lines, and nothing overtakes anything. -/
structure Tidy (f : Framer γ) : Prop where
  inOrder : f.InOrder
  ended : Text.Ended f.typed

/-- An operation that adds some lines at the end of what was typed. -/
structure Adds (f g : Framer γ) (lines : List Text) : Prop where
  tidy : g.Tidy
  filled : Text.filled g.typed = Text.filled f.typed ++ lines

namespace Adds

variable {f g h : Framer γ} {ls ms : List Text}

theorem trans (hfg : Adds f g ls) (hgh : Adds g h ms) : Adds f h (ls ++ ms) :=
  ⟨hgh.tidy, by rw [hgh.filled, hfg.filled, List.append_assoc]⟩

/-- Moving text adds nothing. -/
theorem of_keeps (hf : f.Tidy) (h : Keeps f g) : Adds f g [] :=
  ⟨⟨h.inOrder, h.typed ▸ hf.ended⟩, by rw [h.typed, List.append_nil]⟩

end Adds

namespace Tidy

variable {f : Framer γ}

theorem adds_nil (h : f.Tidy) : Adds f f [] := ⟨h, (List.append_nil _).symm⟩

variable [Interpreter γ] [Interpreter.NeverWaits γ] [Interpreter.NeverRefuses γ]

/-- A dispatched line adds the lines it brings. -/
theorem adds_dispatch (h : f.Tidy) (line : Text) :
    Adds f (f.dispatch line) (Text.filled (f.draft.addition line)) := by
  have ht := h.inOrder.typed_dispatch line
  refine ⟨⟨(h.inOrder.keeps_dispatch line).inOrder, ?_⟩, ?_⟩
  · rw [ht]
    exact h.ended.append (f.draft.ended_addition line)
  · rw [ht, Text.filled_append h.ended]

/-- The empty line that completes a statement adds nothing. -/
theorem adds_dispatch_newline (h : f.Tidy) : Adds f (f.dispatch ['\n']) [] := by
  have hd := h.adds_dispatch ['\n']
  rwa [Draft.filled_addition_newline] at hd

/-- A typed line adds itself unless it is blank, whichever branch it takes. -/
theorem adds_processLine (h : f.Tidy) {line : Text} (hn : '\n' ∉ line) :
    Adds f (f.processLine line) (Text.solid [line]) := by
  have hline : Text.trimEnd line ≠ [] → ∀ {g : Framer γ}, g.Tidy →
      Adds g (g.dispatch (Text.trimEnd line)) (Text.solid [line]) := by
    intro hb g hg
    have hd := hg.adds_dispatch (Text.trimEnd line)
    rwa [Draft.filled_addition_trimEnd _ hn hb, ← Text.solid_of_ne hb] at hd
  have hflush := h.adds_dispatch_newline
  refine processLine_cases (p := fun g => Adds f g (Text.solid [line])) (fun hb => ?_)
    (fun hb _ => hflush.trans (hline hb hflush.tidy)) fun hb => hline hb h
  rw [Text.solid_of_blank hb]
  exact hflush

theorem adds_finish (h : f.Tidy) : Adds f f.finish [] := by
  rw [finish]
  split
  · have hflush := h.adds_dispatch_newline
    exact hflush.trans (.of_keeps hflush.tidy (hflush.tidy.inOrder.keeps_ask _))
  · exact .of_keeps h (h.inOrder.keeps_ask _)

/-- Lines that are typed one after the other add themselves in that order. -/
theorem adds_processText (h : f.Tidy) (text : Text) :
    Adds f (f.processText text) (Text.content text) := by
  refine processText_lines (p := fun done g => Adds f g (Text.solid done)) ?_ ?_ h.adds_nil text
  · intro done g line hn hg
    rw [Text.solid_append]
    exact hg.trans (hg.tidy.adds_processLine hn)
  · exact fun g hg => hg.trans hg.tidy.adds_dispatch_newline

/-- **Submitted text adds its own lines, in order,** whether it is executed at once or not. -/
theorem adds_submit (h : f.Tidy) (text : Text) (execAnyway : Bool) :
    Adds f (f.submit text execAnyway) (Text.content text) := by
  have htyped := h.adds_processText text
  rw [submit_eq]
  split
  · rw [← List.append_nil (Text.content text)]
    exact htyped.trans htyped.tidy.adds_finish
  · exact htyped

theorem adds_respond (h : f.Tidy) (more : Bool) : Adds f (f.respond more) [] :=
  .of_keeps h (h.inOrder.keeps_respond more)

end Tidy

end Framer

namespace Console

variable {γ : Type} [Interpreter γ] [Interpreter.NeverWaits γ] [Interpreter.NeverRefuses γ]
variable {c : Console γ}

/-- A notice moves text and adds none, unless the interpreter is gone. -/
theorem adds_notice (h : c.framer.Tidy) {n : Interpreter.Notice} (hn : ∀ code, n ≠ .exited code) :
    c.framer.Adds (c.notice n).framer [] := by
  cases n with
  | ready => exact h.adds_nil
  | response more => exact h.adds_respond more
  | executed => exact .of_keeps h (h.inOrder.keeps_cue _)
  | inputRequested =>
    have hcue := h.inOrder.keeps_cue .inputRequested
    exact .of_keeps h (hcue.trans (hcue.inOrder.keeps_setDepth 1))
  | promptRequested prompt => exact .of_keeps h (h.inOrder.keeps_cue _)
  | output stream text => exact .of_keeps h (h.inOrder.keeps_ask (.writeOutput stream text))
  | exited code => exact absurd rfl (hn code)

/-- Entered text adds its content if it is taken, and nothing otherwise. -/
theorem adds_enter (h : c.framer.Tidy) (text : Text) (execAnyway : Bool) :
    c.framer.Adds (c.submit text execAnyway).2.framer
      (if (c.submit text execAnyway).1.isOk then Text.content text else []) := by
  obtain ⟨refusal, hr⟩ | hr := c.submit_cases text execAnyway
  · rw [hr]
    exact h.adds_nil
  · rw [hr]
    exact h.adds_submit text execAnyway

/-- An interrupt completes a statement and adds nothing. -/
theorem adds_interrupt (h : c.framer.Tidy) : c.framer.Adds c.interrupt.2.framer [] := by
  have hnote : c.framer.Keeps c.framer.interrupt.2 :=
    .of_eq h.inOrder rfl rfl (Framer.commands_interrupt c.framer) rfl
  have hadds := Framer.Adds.of_keeps h hnote
  rcases c.framer_interrupt with he | he
  · rw [he]
    exact hadds
  · rw [he]
    exact hadds.trans hadds.tidy.adds_finish

/-- **Every act adds the content of the text it enters**, if that is taken, and nothing else. -/
theorem adds_act (h : c.framer.Tidy) {a : Act γ} (ha : ∀ code, a ≠ .notice (.exited code)) :
    c.framer.Adds (c.act a).framer ((c.taken a).flatMap Text.content) := by
  cases a with
  | enter line =>
    have hadds := adds_enter h line false
    rw [taken, enter]
    split at hadds <;> simp_all [act, enter]
  | run text =>
    have hadds := adds_enter h text true
    rw [taken, run]
    split at hadds <;> simp_all [act, run]
  | interrupt => exact adds_interrupt h
  | notice n => exact adds_notice h fun code hn => ha code (by rw [hn])
  | proceed g => exact .of_keeps h (.of_eq h.inOrder rfl rfl rfl rfl)

theorem adds_acts (h : c.framer.Tidy) {acts : List (Act γ)}
    (ha : ∀ code, Act.notice (.exited code) ∉ acts) :
    c.framer.Adds (acts.foldl act c).framer ((c.accepted acts).flatMap Text.content) := by
  induction acts generalizing c with
  | nil => exact h.adds_nil
  | cons a acts ih =>
    have hfirst := adds_act h fun code he => ha code (he ▸ List.mem_cons_self)
    have hrest := ih hfirst.tidy fun code hm => ha code (List.mem_cons_of_mem _ hm)
    rw [accepted, List.flatMap_append]
    exact hfirst.trans hrest

/-- **No typed line is lost, duplicated or reordered.** Behind every run of a fresh console whose
interpreter takes every command and never waits for a line, the lines of what was handed over, what
waits in the queue and what is in the draft are, as they stand there, the lines that were accepted
without the blanks at their ends, in order. -/
theorem content_eq_accepted (g : γ) (screen : Screen) (indentation : Indentation) (capacity : Nat)
    (acts : List (Act γ)) (ha : ∀ code, Act.notice (.exited code) ∉ acts) :
    let start := fresh g screen indentation capacity
    let framer := (acts.foldl act start).framer
    Text.filled (framer.commands.flatten ++ (framer.queued.map PendingCommand.command).flatten ++
        framer.draft.text) =
      (start.accepted acts).flatMap Text.content := by
  have htidy : (fresh g screen indentation capacity).framer.Tidy :=
    ⟨fun _ => rfl, Text.ended_nil⟩
  have h := (adds_acts htidy ha).filled
  simpa [Framer.typed, Framer.issued, fresh, Framer.commands, Draft.text] using h

/-- A block, the end of which an interrupt brings about, and one more line that is refused since
the block is running. -/
def interruptedBlock : List (Act Obliging) :=
  [.notice .ready, .enter ['i', 'f', ':'], .enter [' ', 'a'], .interrupt, .enter ['b']]

/-- Of the three lines two are accepted, and they are all there. -/
theorem content_eq_accepted_interruptedBlock :
    let start := fresh ({} : Obliging) {} {} 8
    let framer := (interruptedBlock.foldl act start).framer
    start.accepted interruptedBlock = [['i', 'f', ':'], [' ', 'a']] ∧
      Text.filled (framer.commands.flatten ++
          (framer.queued.map PendingCommand.command).flatten ++ framer.draft.text) =
        (start.accepted interruptedBlock).flatMap Text.content := by
  refine ⟨by decide, ?_⟩
  exact content_eq_accepted ({} : Obliging) {} {} 8 interruptedBlock (by simp [interruptedBlock])

end Console

end LineFraming
