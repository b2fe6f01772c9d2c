import LineFraming.Framer
import LineFraming.Proofs.Text.Lines

/-!
# What the operations of a framer leave alone

Showing something and moving the prompt change the screen, the prompt and the journal. Framing
depends on none of them: it reads the draft, the command in flight, the queue and the flags of the
interpreter. So each of these gets its equation here, once for each operation that only shows
something, and once for handing over a command. No later proof opens those operations.

## Main definitions

* `Framer.commands` — the commands that were handed to the interpreter, in order
* `Framer.issued` — those, and then the ones that wait in the queue
* `Framer.sent` — the deeds that reached the interpreter, in order
* `Framer.Silent` — a change that reaches neither the interpreter nor the queue
* `Framer.InOrder` — nothing waits in the queue unless a command is in flight
* `Framer.processText`, `Framer.settle` — submitting and responding without their last steps
* `Interpreter.NeverWaits`, `Interpreter.NeverRefuses` — interpreters that never read a line, and
  that take every command
* `Obliging` — an interpreter that is both

## Main results

* `Framer.send_eq`, `Framer.sendDraft_eq` — sending, where nothing can fail
* `Framer.dispatch_inside`, `Framer.dispatch_outside` — a line inside a string and outside
-/

namespace LineFraming

/-- The command, or the line for the running program, that a deed hands to the interpreter. -/
def Deed.command? : Deed → Option Text
  | executed command _ _ => some command
  | _ => none

/-- Whether a deed reaches the interpreter. -/
def Deed.isSent : Deed → Bool
  | executed .. | interrupted _ => true
  | _ => false

namespace Interpreter

/-- The running program never waits for a line. -/
class NeverWaits (γ : Type) [Interpreter γ] : Prop where
  isWaiting_eq (g : γ) : Interpreter.isWaiting g = false

/-- Every command is taken. -/
class NeverRefuses (γ : Type) [Interpreter γ] : Prop where
  execute_fst (command : Text) (g : γ) : (Interpreter.execute command g).1 = .ok ()

end Interpreter

/-- An interpreter that takes every command and never reads a line. A command leaves it executing
until it goes on by itself. -/
structure Obliging where
  executing : Bool := false

instance : Interpreter Obliging where
  execute _ _ := (.ok (), { executing := true })
  interrupt g := (.ok (), g)
  isExecuting g := g.executing
  isWaiting _ := false

instance : Interpreter.NeverWaits Obliging := ⟨fun _ => rfl⟩

instance : Interpreter.NeverRefuses Obliging := ⟨fun _ _ => rfl⟩

namespace LineKind

/-- Outside strings no line is told apart as one that belongs to a string. -/
theorem ofStatement_not_string (i : Indentation) (depth : Nat) (line : Text) :
    ofStatement i depth line ≠ insideString ∧ ofStatement i depth line ≠ closesString ∧
      ∀ style, ofStatement i depth line ≠ opensString style := by
  unfold ofStatement
  dsimp only
  split
  · simp
  · split
    · simp
    · split <;> split <;> simp

end LineKind

namespace Draft

/-- A line without a line feed at its end gets one. -/
theorem terminated_of_ne {line : Text} (h : line.getLast? ≠ some '\n') :
    terminated line = line ++ ['\n'] := if_neg h

@[simp] theorem depth_append (d : Draft) (line : Text) : (d.append line).depth = d.depth := by
  unfold append
  split <;> rfl

@[simp] theorem region_append (d : Draft) (line : Text) : (d.append line).region = d.region := by
  unfold append
  split <;> rfl

end Draft

namespace Framer

variable {γ : Type}

/-- The commands that were handed to the interpreter so far, the oldest first. -/
def commands (f : Framer γ) : List Text := f.journal.filterMap Deed.command?

/-- The commands so far: those that were handed over, then those that wait in the queue. -/
def issued (f : Framer γ) : List Text := f.commands ++ f.queued.map PendingCommand.command

/-- The deeds that reached the interpreter so far, the oldest first. -/
def sent (f : Framer γ) : List Deed := f.journal.filter Deed.isSent

/-- A change that reaches neither the interpreter nor the commands that were given to it. -/
structure Silent (f g : Framer γ) : Prop where
  interpreter : g.interpreter = f.interpreter
  inFlight : g.inFlight = f.inFlight
  queued : g.queued = f.queued
  sent : g.sent = f.sent

theorem Silent.trans {f g h : Framer γ} (hfg : Silent f g) (hgh : Silent g h) : Silent f h where
  interpreter := hgh.interpreter.trans hfg.interpreter
  inFlight := hgh.inFlight.trans hfg.inFlight
  queued := hgh.queued.trans hfg.queued
  sent := hgh.sent.trans hfg.sent

/-- Nothing waits in the queue unless a command is in flight. -/
def InOrder (f : Framer γ) : Prop := f.inFlight = none → f.queued = []

/-- The order rests on the slot and the queue alone. -/
theorem InOrder.of_eq {f g : Framer γ} (h : f.InOrder) (hi : g.inFlight = f.inFlight)
    (hq : g.queued = f.queued) : g.InOrder := by
  rw [InOrder, hi, hq]
  exact h

theorem issued_of_eq {f g : Framer γ} (hc : g.commands = f.commands) (hq : g.queued = f.queued) :
    g.issued = f.issued := by
  rw [issued, hc, hq, issued]

/-! ### Asking the screen -/

section Ask

variable (f : Framer γ) (a : Screen.Action)

@[simp] theorem interpreter_ask : (f.ask a).interpreter = f.interpreter := rfl

@[simp] theorem indentation_ask : (f.ask a).indentation = f.indentation := rfl

@[simp] theorem draft_ask : (f.ask a).draft = f.draft := rfl

@[simp] theorem inFlight_ask : (f.ask a).inFlight = f.inFlight := rfl

@[simp] theorem queued_ask : (f.ask a).queued = f.queued := rfl

@[simp] theorem journal_ask_commands :
    (f.ask a).journal.filterMap Deed.command? = f.journal.filterMap Deed.command? := by
  simp [ask, note, Deed.command?]

theorem sent_ask : (f.ask a).sent = f.sent := by
  simp [sent, ask, note, Deed.isSent]

theorem silent_ask : Silent f (f.ask a) := ⟨rfl, rfl, rfl, sent_ask f a⟩

end Ask

/-! ### Moving the prompt -/

section Cue

variable (f : Framer γ) (c : Prompt.Cue)

/-- A cue sets the prompt and asks the screen for something, if it does anything; so it leaves
alone what these two leave alone. -/
theorem view_cue {α : Type} (view : Framer γ → α) (ask : ∀ g a, view (Framer.ask g a) = view g)
    (prompt : ∀ (g : Framer γ) p, view { g with prompt := p } = view g) :
    view (f.cue c) = view f := by
  unfold cue
  dsimp only
  split
  · rfl
  · split
    · rw [ask, prompt]
    · rw [ask, ask, prompt]

@[simp] theorem interpreter_cue : (f.cue c).interpreter = f.interpreter :=
  view_cue f c Framer.interpreter (fun _ _ => rfl) fun _ _ => rfl

@[simp] theorem indentation_cue : (f.cue c).indentation = f.indentation :=
  view_cue f c Framer.indentation (fun _ _ => rfl) fun _ _ => rfl

@[simp] theorem draft_cue : (f.cue c).draft = f.draft :=
  view_cue f c Framer.draft (fun _ _ => rfl) fun _ _ => rfl

@[simp] theorem inFlight_cue : (f.cue c).inFlight = f.inFlight :=
  view_cue f c Framer.inFlight (fun _ _ => rfl) fun _ _ => rfl

@[simp] theorem queued_cue : (f.cue c).queued = f.queued :=
  view_cue f c Framer.queued (fun _ _ => rfl) fun _ _ => rfl

@[simp] theorem journal_cue_commands :
    (f.cue c).journal.filterMap Deed.command? = f.journal.filterMap Deed.command? :=
  view_cue f c Framer.commands journal_ask_commands fun _ _ => rfl

/-- Of the screen, a cue changes the prompt and that it is due, if it does anything. -/
theorem screen_cue : (f.cue c).screen =
    if f.prompt.after c = f.prompt then f.screen
    else { f.screen with prompt := f.prompt.after c, needsPrompt := true } := by
  unfold cue
  dsimp only
  split
  · rfl
  · split <;> rfl

@[simp] theorem indent_cue : (f.cue c).screen.indent = f.screen.indent := by
  rw [screen_cue]
  split <;> rfl

@[simp] theorem plainText_cue : (f.cue c).screen.plainText = f.screen.plainText := by
  rw [screen_cue]
  split <;> rfl

theorem silent_cue : Silent f (f.cue c) where
  interpreter := interpreter_cue f c
  inFlight := inFlight_cue f c
  queued := queued_cue f c
  sent := view_cue f c Framer.sent sent_ask fun _ _ => rfl

end Cue

/-! ### Handing over a command -/

section Execute

variable [Interpreter γ] (f : Framer γ) (command : Text)

@[simp] theorem fst_execute :
    (f.execute command).1 = (Interpreter.execute command f.interpreter).1 := rfl

@[simp] theorem interpreter_execute :
    (f.execute command).2.interpreter = (Interpreter.execute command f.interpreter).2 := rfl

@[simp] theorem indentation_execute : (f.execute command).2.indentation = f.indentation := rfl

@[simp] theorem draft_execute : (f.execute command).2.draft = f.draft := rfl

@[simp] theorem queued_execute : (f.execute command).2.queued = f.queued := rfl

@[simp] theorem journal_execute_commands :
    (f.execute command).2.journal.filterMap Deed.command? =
      f.journal.filterMap Deed.command? ++ [command] := by
  simp [execute, note, Deed.command?]

/-- A command that is handed over is noted with whether the running program waits for a line. -/
theorem sent_execute : ∃ refused,
    (f.execute command).2.sent = f.sent ++ [.executed command f.isWaiting refused] ∧
      (refused = none ↔ (f.execute command).1 = .ok ()) := by
  simp only [sent, execute, note, List.filter_append]
  cases (Interpreter.execute command f.interpreter).1 with
  | ok _ => exact ⟨none, rfl, by simp⟩
  | error fault => exact ⟨some fault, rfl, by simp⟩

/-- The wish to abort is no command. -/
theorem commands_interrupt : f.interrupt.2.commands = f.commands := by
  simp [commands, interrupt, note, Deed.command?]

end Execute

/-! ### Blocks and strings -/

section Draft

variable (f : Framer γ) (depth : Nat) (region : Option TripleQuote)

@[simp] theorem draft_setDepth : (f.setDepth depth).draft = { f.draft with depth := depth } := rfl

@[simp] theorem interpreter_setDepth : (f.setDepth depth).interpreter = f.interpreter := rfl

@[simp] theorem indentation_setDepth : (f.setDepth depth).indentation = f.indentation := rfl

@[simp] theorem inFlight_setDepth : (f.setDepth depth).inFlight = f.inFlight := rfl

@[simp] theorem queued_setDepth : (f.setDepth depth).queued = f.queued := rfl

@[simp] theorem journal_setDepth : (f.setDepth depth).journal = f.journal := rfl

@[simp] theorem draft_setRegion :
    (f.setRegion region).draft = { f.draft with region := region } := rfl

@[simp] theorem interpreter_setRegion : (f.setRegion region).interpreter = f.interpreter := rfl

@[simp] theorem indentation_setRegion : (f.setRegion region).indentation = f.indentation := rfl

@[simp] theorem inFlight_setRegion : (f.setRegion region).inFlight = f.inFlight := rfl

@[simp] theorem queued_setRegion : (f.setRegion region).queued = f.queued := rfl

@[simp] theorem journal_setRegion : (f.setRegion region).journal = f.journal := rfl

/-- Keeping a block open changes the depth, and nothing else that framing depends on. -/
@[simp] theorem draft_requestMore :
    (f.requestMore depth).draft = { f.draft with depth := depth } := by
  simp [requestMore]

end Draft

/-! ### What is done before something is released or executed -/

section Parts

variable [Interpreter γ] (f : Framer γ)

/-- The framer behind all lines of a text, before a block is executed anyway. -/
def processText (text : Text) : Framer γ :=
  if text.isEmpty then f.processLine text else (Text.lines text).foldl processLine f

theorem submit_eq (text : Text) (execAnyway : Bool) :
    f.submit text execAnyway =
      if execAnyway && 0 < (f.processText text).draft.depth && f.draft.depth == 0 then
        (f.processText text).finish
      else f.processText text := rfl

/-- What a response does to the command in flight, before the next one is released. -/
def settle (lastLine : Text) (more : Bool) : Framer γ :=
  let f := { f with inFlight := none }
  if more then f.continueStatement lastLine
  else (if f.isWaiting then f else f.commandExecuted).setDepth 0

theorem respond_of_none {f : Framer γ} (h : f.inFlight = none) (more : Bool) :
    f.respond more = f := by
  rw [respond, h]

theorem respond_of_some {f : Framer γ} {lastLine : Text} (h : f.inFlight = some lastLine)
    (more : Bool) : f.respond more = (f.settle lastLine more).sendNext := by
  rw [respond, h]
  rfl

end Parts

/-! ### Sending -/

/-- A command that is taken is in flight. -/
theorem send_of_ok [Interpreter γ] {f : Framer γ} {pending : PendingCommand}
    (h : (f.execute pending.command).1 = .ok ()) :
    f.send pending =
      { (f.execute pending.command).2 with inFlight := some pending.lastLine } := by
  rw [send]
  split <;> simp_all

/-- A command that is refused empties the queue. -/
theorem send_of_error [Interpreter γ] {f : Framer γ} {pending : PendingCommand}
    {fault : Interpreter.Fault} (h : (f.execute pending.command).1 = .error fault) :
    f.send pending =
      (({ (f.execute pending.command).2 with queued := [] }.setDepth 0).cue .restarted).report
        fault := by
  rw [send]
  split <;> simp_all

/-- While the running program waits for a line, the draft is that line. -/
theorem sendDraft_of_waiting [Interpreter γ] {f : Framer γ} (hw : f.isWaiting = true)
    (lastLine : Text) :
    f.sendDraft lastLine =
      match Framer.execute { f with draft := f.draft.take.2 } f.draft.text with
      | (.ok (), g) => if g.isWaiting then g else (g.setDepth 0).cue .inputConsumed
      | (.error fault, g) => g.report fault :=
  if_pos hw

/-- Otherwise a draft is sent as a command, or queues behind one. -/
theorem sendDraft_of_not_waiting [Interpreter γ] {f : Framer γ} (hw : f.isWaiting = false)
    (lastLine : Text) :
    f.sendDraft lastLine =
      let g := { f with draft := f.draft.take.2 }.cue .started
      if f.inFlight.isSome then { g with queued := f.queued ++ [⟨f.draft.text, lastLine⟩] }
      else g.send ⟨f.draft.text, lastLine⟩ := by
  have hk : isWaiting { f with draft := f.draft.take.2 } = false := hw
  simp [sendDraft, hk]

@[simp] theorem indentation_send [Interpreter γ] (f : Framer γ) (pending : PendingCommand) :
    (f.send pending).indentation = f.indentation := by
  cases he : (f.execute pending.command).1 with
  | ok _ => simp [send_of_ok he]
  | error fault => simp [send_of_error he, report]

@[simp] theorem indentation_sendDraft [Interpreter γ] (f : Framer γ) (lastLine : Text) :
    (f.sendDraft lastLine).indentation = f.indentation := by
  cases hw : f.isWaiting with
  | true =>
    have hi : (Framer.execute { f with draft := f.draft.take.2 } f.draft.text).2.indentation =
        f.indentation := rfl
    rw [sendDraft_of_waiting hw]
    split
    · rename_i g he
      rw [he] at hi
      split
      · exact hi
      · simpa using hi
    · rename_i fault g he
      rw [he] at hi
      exact hi
  | false =>
    rw [sendDraft_of_not_waiting hw]
    dsimp only
    split
    · simp
    · simp

/-! ### Sending, where nothing can fail -/

section Obliging

variable [Interpreter γ] (f : Framer γ)

@[simp] theorem isWaiting_eq_false [Interpreter.NeverWaits γ] : f.isWaiting = false :=
  Interpreter.NeverWaits.isWaiting_eq _

theorem send_eq [Interpreter.NeverRefuses γ] (pending : PendingCommand) :
    f.send pending =
      { (f.execute pending.command).2 with inFlight := some pending.lastLine } :=
  send_of_ok (Interpreter.NeverRefuses.execute_fst pending.command f.interpreter)

/-- Without a line to wait for, a draft is sent as a command, or queues behind one. -/
theorem sendDraft_eq [Interpreter.NeverWaits γ] (lastLine : Text) :
    f.sendDraft lastLine =
      let g := { f with draft := f.draft.take.2 }.cue .started
      if f.inFlight.isSome then { g with queued := f.queued ++ [⟨f.draft.text, lastLine⟩] }
      else g.send ⟨f.draft.text, lastLine⟩ :=
  sendDraft_of_not_waiting (isWaiting_eq_false f) lastLine

@[simp] theorem draft_sendDraft [Interpreter.NeverWaits γ] [Interpreter.NeverRefuses γ]
    (lastLine : Text) : (f.sendDraft lastLine).draft = { f.draft with text? := none } := by
  rw [sendDraft_eq]
  dsimp only
  split
  · simp [Draft.take]
  · simp [send_eq, Draft.take]

/-- Behind a draft that was sent as a command, one is in flight. -/
theorem isSome_inFlight_sendDraft_of_not_waiting [Interpreter.NeverRefuses γ] {f : Framer γ}
    (hw : f.isWaiting = false) (lastLine : Text) :
    (f.sendDraft lastLine).inFlight.isSome = true := by
  rw [sendDraft_of_not_waiting hw]
  dsimp only
  split
  · simpa
  · simp [send_eq]

@[simp] theorem isSome_inFlight_sendDraft [Interpreter.NeverWaits γ] [Interpreter.NeverRefuses γ]
    (lastLine : Text) : (f.sendDraft lastLine).inFlight.isSome = true :=
  isSome_inFlight_sendDraft_of_not_waiting (isWaiting_eq_false f) lastLine

/-- A draft that is sent comes last of all commands: a command that is in flight keeps the queue
from being overtaken. -/
theorem InOrder.issued_sendDraft [Interpreter.NeverWaits γ] [Interpreter.NeverRefuses γ]
    {f : Framer γ} (h : f.InOrder) (lastLine : Text) :
    (f.sendDraft lastLine).issued = f.issued ++ [f.draft.text] := by
  rw [sendDraft_eq]
  dsimp only
  split
  · simp [issued, commands]
  · have hq : f.queued = [] := h (Option.not_isSome_iff_eq_none.mp ‹_›)
    simp [send_eq, issued, commands, hq]

/-! ### Answers, where nothing can fail -/

section SendNext

@[simp] theorem draft_sendNext [Interpreter.NeverRefuses γ] : f.sendNext.draft = f.draft := by
  unfold sendNext
  split
  · rfl
  · simp [send_eq]

@[simp] theorem indentation_sendNext [Interpreter.NeverRefuses γ] :
    f.sendNext.indentation = f.indentation := by
  unfold sendNext
  split
  · rfl
  · simp [send_eq]

@[simp] theorem queued_sendNext [Interpreter.NeverRefuses γ] :
    f.sendNext.queued = f.queued.tail := by
  unfold sendNext
  split <;> simp_all [send_eq]

/-- A command that is released goes from the queue to the interpreter. -/
@[simp] theorem issued_sendNext [Interpreter.NeverRefuses γ] :
    f.sendNext.issued = f.issued := by
  unfold sendNext
  split
  · rfl
  · simp_all [send_eq, issued, commands]

/-- Behind a release a command is in flight, unless there was none before and none to release. -/
theorem inFlight_sendNext [Interpreter.NeverRefuses γ] (h : f.queued ≠ []) :
    f.sendNext.inFlight.isSome = true := by
  unfold sendNext
  split
  · exact absurd ‹_› h
  · simp [send_eq]

theorem inFlight_sendNext_of_nil (h : f.queued = []) : f.sendNext.inFlight = f.inFlight := by
  rw [sendNext, h]

end SendNext

section Respond

variable [Interpreter.NeverWaits γ] {f : Framer γ}

/-- A command that is complete ends the block it was, and releases the next one. -/
theorem respond_false (h : f.inFlight.isSome = true) :
    f.respond false = (({ f with inFlight := none }.commandExecuted).setDepth 0).sendNext := by
  obtain ⟨lastLine, hl⟩ := Option.isSome_iff_exists.mp h
  simp [respond_of_some hl, settle]

theorem inFlight_respond_false_of_nil (h : f.inFlight.isSome = true) (hq : f.queued = []) :
    (f.respond false).inFlight = none := by
  rw [respond_false h, inFlight_sendNext_of_nil]
  · simp [commandExecuted]
  · simpa [commandExecuted] using hq

variable [Interpreter.NeverRefuses γ]

theorem draft_respond_false (h : f.inFlight.isSome = true) :
    (f.respond false).draft = { f.draft with depth := 0 } := by
  simp [respond_false h, commandExecuted]

theorem indentation_respond_false (h : f.inFlight.isSome = true) :
    (f.respond false).indentation = f.indentation := by
  simp [respond_false h, commandExecuted]

theorem queued_respond_false (h : f.inFlight.isSome = true) :
    (f.respond false).queued = f.queued.tail := by
  simp [respond_false h, commandExecuted]

theorem issued_respond_false (h : f.inFlight.isSome = true) :
    (f.respond false).issued = f.issued := by
  rw [respond_false h, issued_sendNext]
  simp [commandExecuted, issued, commands]

theorem inFlight_respond_false (h : f.inFlight.isSome = true) (hq : f.queued ≠ []) :
    (f.respond false).inFlight.isSome = true := by
  rw [respond_false h]
  exact inFlight_sendNext _ (by simpa [commandExecuted] using hq)

/-- Nothing overtakes the queue while it is being answered. -/
theorem InOrder.respond_false (h : f.inFlight.isSome = true) : (f.respond false).InOrder := by
  intro hn
  by_cases hq : f.queued = []
  · rw [queued_respond_false h, hq]
    rfl
  · have hs := inFlight_respond_false h hq
    rw [hn] at hs
    cases hs

end Respond

/-! ### Submitting one line -/

/-- A text without line feeds is one line, even if it is empty. -/
theorem submit_line {line : Text} (h : '\n' ∉ line) : f.submit line false = f.processLine line := by
  rw [submit]
  by_cases hl : line = []
  · subst hl
    rfl
  · simp [hl, Text.lines_of_not_mem hl h]

/-- Outside strings, and while no program waits, a line closes a block by where it stands. -/
theorem closesBlock_iff {f : Framer γ} (hw : f.isWaiting = false) (hr : f.draft.region = none)
    {line : Text} :
    f.closesBlock line = true ↔
      0 < f.draft.depth ∧ f.indentation.width line = 0 ∧ Block.opens line = false := by
  simp [closesBlock, hw, hr, and_left_comm, and_comm]

/-- A line that closes no block is dispatched without the blanks at its end. -/
theorem processLine_of_not_closing {f : Framer γ} {line : Text}
    (hc : f.closesBlock (Text.trimEnd line) = false) :
    f.processLine line =
      f.dispatch (if Text.trimEnd line = [] then ['\n'] else Text.trimEnd line) := by
  simp [processLine, hc, apply_ite f.dispatch]

/-- A line to the right of the margin closes no block. -/
theorem processLine_of_indented {f : Framer γ} {line : Text} (hne : Text.trimEnd line ≠ [])
    (hw : 0 < f.indentation.width (Text.trimEnd line)) :
    f.processLine line = f.dispatch (Text.trimEnd line) := by
  have hc : f.closesBlock (Text.trimEnd line) = false := by
    simp [closesBlock, Nat.pos_iff_ne_zero.mp hw]
  rw [processLine_of_not_closing hc, if_neg hne]

/-! ### Dispatching -/

/-- While the running program waits, every line is for it. -/
theorem dispatch_of_waiting {f : Framer γ} (hw : f.isWaiting = true) (line : Text) :
    f.dispatch line = { f with draft := f.draft.append line }.sendDraft line :=
  if_pos hw

/-- Inside a string only the line that closes it is told apart. -/
theorem dispatch_inside {f : Framer γ} (hw : f.isWaiting = false) {style : TripleQuote}
    (h : f.draft.region = some style) (line : Text) :
    f.dispatch line =
      let g := { f with draft := f.draft.append line }
      if style.toggles line then
        let g := ((g.setRegion none).ask (.setPlainText false)).cue .stringClosed
        g.conclude line (g.closingKind line)
      else g := by
  have hput : isWaiting { f with draft := f.draft.append line } = false := hw
  rw [dispatch]
  dsimp only
  rw [if_neg (by simp [hput]), Draft.region_append, h, LineKind.of]
  cases style.toggles line <;> rfl

/-- Outside strings a line opens one or is told apart by its indentation. -/
theorem dispatch_outside {f : Framer γ} (hw : f.isWaiting = false) (h : f.draft.region = none)
    (line : Text) :
    f.dispatch line =
      let g := { f with draft := f.draft.append line }
      match TripleQuote.openedBy line with
      | some style => ((g.setRegion (some style)).ask (.setPlainText true)).cue .stringOpened
      | none => g.conclude line (LineKind.ofStatement f.indentation f.draft.depth line) := by
  have hput : isWaiting { f with draft := f.draft.append line } = false := hw
  rw [dispatch]
  dsimp only
  rw [if_neg (by simp [hput]), Draft.region_append, Draft.depth_append, h, LineKind.of]
  cases TripleQuote.openedBy line with
  | some style => rfl
  | none =>
    obtain ⟨hinside, hcloses, hopens⟩ :=
      LineKind.ofStatement_not_string f.indentation f.draft.depth line
    cases hk : LineKind.ofStatement f.indentation f.draft.depth line with
    | insideString => exact absurd hk hinside
    | closesString => exact absurd hk hcloses
    | opensString style => exact absurd hk (hopens style)
    | blank => rfl
    | continued => rfl
    | indented depth => rfl
    | complete => rfl

/-! ### Dispatching, where nothing waits -/

theorem dispatch_of_region [Interpreter.NeverWaits γ] {f : Framer γ} {style : TripleQuote}
    (h : f.draft.region = some style) (line : Text) :
    f.dispatch line =
      let g := { f with draft := f.draft.append line }
      if style.toggles line then
        let g := ((g.setRegion none).ask (.setPlainText false)).cue .stringClosed
        g.conclude line (g.closingKind line)
      else g :=
  dispatch_inside (isWaiting_eq_false f) h line

theorem dispatch_of_no_region [Interpreter.NeverWaits γ] {f : Framer γ}
    (h : f.draft.region = none) (line : Text) :
    f.dispatch line =
      let g := { f with draft := f.draft.append line }
      match TripleQuote.openedBy line with
      | some style => ((g.setRegion (some style)).ask (.setPlainText true)).cue .stringOpened
      | none => g.conclude line (LineKind.ofStatement f.indentation f.draft.depth line) :=
  dispatch_outside (isWaiting_eq_false f) h line

end Obliging

end Framer

end LineFraming
