import LineFraming.Proofs.Console.Run
import LineFraming.Proofs.Framer.Outcome
import LineFraming.Proofs.Framer.Splitting

/-!
# Typing one line after the other

Where every command has been answered before the next line is typed, nothing ever waits and the
depth is always right when a line looks at it. So a console hands over the groups that a splitter
completes, in order, and nothing else.

That the depth is right rests on the block of the splitter: behind a completed group no block is
open, which is what the response to that group says too.

## Main definitions

* `Console.Idle` — no command is in flight or executing
* `Console.Typed` — the consoles behind lines that are typed while it is idle

## Main results

* `Console.commands_eq_groups` — the commands are the groups of the splitter
-/

namespace LineFraming.Console

variable {γ : Type} {c : Console γ} {i : Indentation} {r : List (List Text) × Splitter}

/-- The console takes lines, and its framer follows the splitter. The depth is right as long as
nothing is in flight; what is in flight has left no block open. -/
structure Follows (c : Console γ) (i : Indentation) (r : List (List Text) × Splitter) : Prop where
  enabled : c.enabled = true
  framer : c.framer.Follows i r
  settled : c.framer.inFlight = none → c.framer.RightDepth r.2
  running : c.framer.inFlight.isSome = true → r.2.block = false

/-- The interpreter moves on its own, and the prompt with it. -/
theorem Follows.shown (h : c.Follows i r) {f : Framer γ} (hd : f.draft = c.framer.draft)
    (hi : f.inFlight = c.framer.inFlight) (hq : f.queued = c.framer.queued)
    (hind : f.indentation = c.framer.indentation) (hc : f.commands = c.framer.commands) :
    Follows { c with framer := f } i r where
  enabled := h.enabled
  framer := h.framer.of_eq hd hi hq hind hc
  settled hn := by
    rw [Framer.RightDepth, hd]
    exact h.settled (hi ▸ hn)
  running hs := h.running (hi ▸ hs)

/-! ### Lines that are typed -/

variable [Interpreter γ]

/-- No command is in flight or executing. -/
structure Idle (c : Console γ) : Prop where
  inFlight : c.framer.inFlight = none
  isExecuting : Interpreter.isExecuting c.framer.interpreter = false

/-- The consoles behind lines, each of which is typed when no command is in flight or executing. In
between commands are answered and run to their end, and the interpreter goes on by itself. -/
inductive Typed (start : Console γ) : List Text → Console γ → Prop where
  | start : Typed start [] start
  | line {lines : List Text} {c : Console γ} (line : Text) :
      Typed start lines c → c.Idle → '\n' ∉ line → Typed start (lines ++ [line]) (c.enter line).2
  | answer {lines : List Text} {c : Console γ} :
      Typed start lines c → c.framer.inFlight.isSome = true →
      Typed start lines (c.notice (.response false))
  | executed {lines : List Text} {c : Console γ} :
      Typed start lines c → Typed start lines (c.notice .executed)
  | proceed {lines : List Text} {c : Console γ} (g : γ) :
      Typed start lines c → Typed start lines (c.act (.proceed g))

/-- An idle console takes a line. -/
theorem enter_of_idle (he : c.enabled = true) (hi : c.Idle) {line : Text} (hn : '\n' ∉ line) :
    c.enter line = (.ok (), { c.remember line with framer := c.framer.processLine line }) := by
  have hcheck : c.check = .ok () := by simp [check, he, canExecuteNow, hi.isExecuting]
  have hf : (c.remember line).framer = c.framer := by
    rw [remember]
    split <;> rfl
  rw [enter, submit, hcheck]
  dsimp only
  rw [hf, Framer.submit_line _ hn]

namespace Follows

/-- A console that has just been made and enabled. -/
theorem fresh (g : γ) (screen : Screen) (capacity : Nat) :
    ((fresh g screen i capacity).notice .ready).Follows i ([], {}) where
  enabled := rfl
  framer := .fresh g screen
  settled _ := .of_closed rfl rfl
  running _ := rfl

variable [Interpreter.NeverWaits γ] [Interpreter.NeverRefuses γ]

/-- A line that completes no group leaves nothing in flight, and a completed group leaves no block
open. -/
theorem enter (h : c.Follows i r) (hi : c.Idle) {line : Text} (hn : '\n' ∉ line) :
    (c.enter line).2.Follows i (r.1 ++ (r.2.read i line).1, (r.2.read i line).2) := by
  have hright : c.framer.RightDepth r.2 := h.settled hi.inFlight
  have hrule := r.2.blockRule_read i line
  have hstep := h.framer.tracks.step_processLine line (.inl hright)
  rw [h.framer.indentation] at hstep
  rw [enter_of_idle h.enabled hi hn]
  refine ⟨?_, h.framer.processLine (.inl hright), fun hnone => ?_, fun hsome => ?_⟩
  · rw [remember]
    split <;> exact h.enabled
  · have hread : (r.2.read i line).1 = [] := by
      by_contra hne
      have hsent := hstep.sent hne
      rw [hnone] at hsent
      cases hsent
    exact hstep.rightDepth hright (hrule.kept hread)
  · refine hrule.completed fun hread => ?_
    rw [hstep.unsent hread, hi.inFlight] at hsome
    cases hsome

/-- A response sets the depth to zero, which is right: no block is open. -/
theorem answer (h : c.Follows i r) (hi : c.framer.inFlight.isSome = true) :
    (c.notice (.response false)).Follows i r := by
  have hblock : r.2.block = false := h.running hi
  refine ⟨h.enabled, h.framer.respond_false hi, fun _ => .of_closed hblock ?_, fun _ => hblock⟩
  rw [notice, Framer.draft_respond_false hi]

end Follows

/-- **A console that is idle before each line follows a splitter.** -/
theorem follows_of_typed [Interpreter.NeverWaits γ] [Interpreter.NeverRefuses γ]
    {start : Console γ} (h₀ : start.Follows i ([], {})) {lines : List Text}
    (h : Typed start lines c) : c.Follows i (Splitter.readAll i {} lines) := by
  induction h with
  | start => exact h₀
  | line line _ hi hn ih =>
    rw [Splitter.readAll_concat]
    exact ih.enter hi hn
  | answer _ hi ih => exact ih.answer hi
  | executed _ ih =>
    exact ih.shown (by simp [Framer.commandExecuted]) (by simp [Framer.commandExecuted])
      (by simp [Framer.commandExecuted]) (by simp [Framer.commandExecuted])
      (Framer.journal_cue_commands _ _)
  | proceed g _ ih => exact ih.shown rfl rfl rfl rfl rfl

/-! ### Lines can be typed -/

namespace Typed

variable [Interpreter.NeverWaits γ] [Interpreter.NeverRefuses γ]
variable {start : Console γ} {lines : List Text}

/-- Commands can be answered until none is left. -/
theorem exists_answered (h : Typed start lines c) :
    ∃ d, Typed start lines d ∧ d.framer.inFlight = none := by
  obtain ⟨g, hg, hi⟩ := Framer.exists_answered
    (p := fun g => Typed start lines { c with framer := g }) (fun _ hi hg => hg.answer hi) h
  exact ⟨_, hg, hi⟩

theorem exists_idle (h : Typed start lines c) {g : γ} (hg : Interpreter.isExecuting g = false) :
    ∃ d, Typed start lines d ∧ d.Idle := by
  obtain ⟨d, hd, hi⟩ := h.exists_answered
  exact ⟨_, hd.proceed g, hi, hg⟩

/-- Any lines can be typed. -/
theorem exists_of_lines (start : Console γ) {g : γ} (hg : Interpreter.isExecuting g = false)
    {lines : List Text} (hn : ∀ line ∈ lines, '\n' ∉ line) : ∃ d, Typed start lines d ∧ d.Idle := by
  induction lines using List.reverseRecOn with
  | nil => exact Typed.start.exists_idle hg
  | append_singleton lines line ih =>
    obtain ⟨d, hd, hi⟩ := ih fun l hl => hn l (List.mem_append_left _ hl)
    exact (hd.line line hi (hn line (by simp))).exists_idle hg

end Typed

/-- **Typing refines splitting.** Any lines can be typed on a console that has just been enabled,
each when no command is in flight or executing; and however the commands are answered in between,
the commands that were executed are the groups that the splitter completes, and the draft is the
group that it is putting together. -/
theorem commands_eq_groups [Interpreter.NeverWaits γ] [Interpreter.NeverRefuses γ] (g : γ)
    (hg : Interpreter.isExecuting g = false) (screen : Screen) (i : Indentation) (capacity : Nat)
    (lines : List Text) (hn : ∀ line ∈ lines, '\n' ∉ line) :
    let start := (fresh g screen i capacity).notice .ready
    let split := Splitter.readAll i {} lines
    (∃ c, Typed start lines c ∧ c.Idle) ∧
      ∀ c, Typed start lines c → c.framer.inFlight = none →
        c.framer.commands = split.1.map Splitter.text ∧
          c.framer.draft.text = Splitter.text split.2.group := by
  refine ⟨Typed.exists_of_lines _ hg hn, fun c hc hi => ?_⟩
  have h := follows_of_typed (.fresh g screen capacity) hc
  exact ⟨h.framer.commands hi, h.framer.tracks.text⟩

/-- A block with a line at the margin behind it: the block is completed by an empty line. -/
theorem commands_eq_groups_of_dedent :
    let lines : List Text := [['i', 'f', ':'], [' ', 'a', ' '], ['b'], ['(', '\\'], [')']]
    let start := (fresh ({} : Obliging) {} {} 8).notice .ready
    (Splitter.readAll {} {} lines).1 =
        [[['i', 'f', ':'], [' ', 'a'], []], [['b']], [['(', '\\'], [')']]] ∧
      (∃ c, Typed start lines c ∧ c.Idle) ∧
      ∀ c, Typed start lines c → c.framer.inFlight = none →
        c.framer.commands = (Splitter.readAll {} {} lines).1.map Splitter.text ∧
          c.framer.draft.text = Splitter.text (Splitter.readAll {} {} lines).2.group := by
  refine ⟨by decide, ?_⟩
  exact commands_eq_groups ({} : Obliging) rfl {} {} 8 _ (by simp)

end LineFraming.Console
