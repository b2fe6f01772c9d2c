import LineFraming.Proofs.Console.Mirroring
import LineFraming.Proofs.Framer.Likeness
import LineFraming.ScriptedInterpreter

/-!
# What is only for show does not frame

Three notices are there to be shown: output, a prompt that the interpreter wants, and that a command
has run. A worker may send any number of them at any time. What is typed is framed as if it had sent
none: the same commands go out, the same input is refused, and the same draft, queue and prefilled
indentation are left behind.

A worker's event moves the interpreter when it is read, and the console when it is handled, which
may be later. The two are moves of their own here, so either may be put in without the other. It is
enough that nobody can tell from the interpreter whether it has read an event that is only for show.

The history is not among what stays the same. An answer to the pager is not remembered, and a prompt
that is only for show may be the one of the pager.

## Main definitions

* `Interpreter.Notice.isForShow` — the notices that are there to be shown
* `Interpreter.Heeds` — nobody can tell whether the interpreter has heard one of them
* `Console.Move`, `Console.move` — calls, and what the interpreter hears in between
* `Console.answers` — what the user was told about what was entered

## Main results

* `Console.Alike.move` — the same move takes two consoles that are alike to two such consoles
* `Console.alike_move_of_isForShow` — one that is only for show may be made by one of them alone
* `Console.framing_ignores_show` — what stays the same in runs that differ in what is for show
-/

namespace LineFraming

open Interpreter (Notice)

variable {γ : Type}

namespace Interpreter

/-- Whether a notice is there to be shown. -/
def Notice.isForShow : Notice → Bool
  | executed => true
  | promptRequested _ => true
  | output _ _ => true
  | _ => false

/-- What an interpreter hears is part of what it answers from, but nobody can tell by the flags or
by the answers whether it has heard a notice that is only for show. -/
structure Heeds [Interpreter γ] (hear : Notice → γ → γ) (r : γ → γ → Prop) : Prop
    extends Indistinct r where
  refl (g : γ) : r g g
  heard {g h : γ} (n : Notice) : r g h → r (hear n g) (hear n h)
  overheard {g h : γ} {n : Notice} : n.isForShow = true → r g h → r g (hear n h)

/-- An interpreter on which a notice for show leaves no trace at all. -/
theorem heeds_eq [Interpreter γ] {hear : Notice → γ → γ}
    (h : ∀ n : Notice, n.isForShow = true → ∀ g, hear n g = g) : Heeds hear Eq where
  isExecuting := congrArg _ ∘ Eq.symm
  isWaiting := congrArg _ ∘ Eq.symm
  execute _ h := by
    cases h
    exact ⟨rfl, rfl⟩
  interrupt h := by
    cases h
    exact ⟨rfl, rfl⟩
  refl _ := rfl
  heard _ := congrArg _
  overheard hn hg := hg.trans (h _ hn _).symm

end Interpreter

namespace Console

open Interpreter (Heeds Indistinct)

/-- What happens between a console, the loop around it and the worker. -/
inductive Move (γ : Type) where
  | call (k : Call γ)
  /-- The interpreter hears from its worker. -/
  | hear (n : Notice)

/-- Whether a move hears or handles a notice that is there to be shown. -/
def Move.isForShow : Move γ → Bool
  | call (.act (.notice n)) => n.isForShow
  | call _ => false
  | hear n => n.isForShow

/-- Two consoles whose framers are alike and that take input alike. Their histories may differ. -/
structure Alike (r : γ → γ → Prop) (c d : Console γ) : Prop where
  framer : c.framer.Alike r d.framer
  enabled : d.enabled = c.enabled

variable [Interpreter γ] {hear : Notice → γ → γ} {r : γ → γ → Prop} {c d : Console γ}

/-- The console behind a move, with an interpreter that hears by `hear`. -/
def move (hear : Notice → γ → γ) (c : Console γ) : Move γ → Console γ
  | .call k => c.call k
  | .hear n => { c with framer := { c.framer with interpreter := hear n c.framer.interpreter } }

/-- The console behind a run. -/
def moves (hear : Notice → γ → γ) (c : Console γ) (ms : List (Move γ)) : Console γ :=
  ms.foldl (move hear) c

/-- What the user is told about what was entered, or about an interrupt. -/
def answer? (c : Console γ) : Move γ → Option (Except Refusal Unit)
  | .call (.act (.enter line)) => some (c.enter line).1
  | .call (.act (.run text)) => some (c.run text).1
  | .call (.act .interrupt) => some c.interrupt.1
  | _ => none

/-- What the user was told in a run, in order. -/
def answers (hear : Notice → γ → γ) : Console γ → List (Move γ) → List (Except Refusal Unit)
  | _, [] => []
  | c, m :: ms => (c.answer? m).toList ++ answers hear (c.move hear m) ms

/-! ### The same move on both sides -/

namespace Alike

theorem refl (hr : Heeds hear r) (c : Console γ) : Alike r c c :=
  ⟨⟨hr.refl _, rfl, rfl, rfl, rfl, rfl, rfl, rfl⟩, rfl⟩

theorem submit (h : Alike r c d) (hr : Indistinct r) (text : Text) (execAnyway : Bool) :
    (d.submit text execAnyway).1 = (c.submit text execAnyway).1 ∧
      Alike r (c.submit text execAnyway).2 (d.submit text execAnyway).2 := by
  have hcan : d.canExecuteNow = c.canExecuteNow := by
    rw [canExecuteNow, canExecuteNow, hr.isExecuting h.framer.interpreter, h.framer.isWaiting hr]
  have hcheck : d.check = c.check := by rw [check, check, h.enabled, hcan]
  rw [Console.submit, Console.submit, hcheck]
  split
  · exact ⟨rfl, h⟩
  · dsimp only
    rw [framer_remember, framer_remember]
    exact ⟨rfl, h.framer.submit hr text execAnyway, by simp [h.enabled]⟩

theorem interrupt (h : Alike r c d) (hr : Indistinct r) :
    d.interrupt.1 = c.interrupt.1 ∧ Alike r c.interrupt.2 d.interrupt.2 := by
  obtain ⟨hanswer, hstate⟩ := h.framer.interrupt hr
  cases hc : c.framer.interrupt.1 with
  | ok _ =>
    rw [interrupt_of_ok hc, interrupt_of_ok (hanswer.trans hc)]
    exact ⟨rfl, hstate.finish hr, h.enabled⟩
  | error fault =>
    rw [interrupt_of_error hc, interrupt_of_error (hanswer.trans hc)]
    exact ⟨rfl, hstate, h.enabled⟩

theorem notice (h : Alike r c d) (hr : Indistinct r) (n : Notice) :
    Alike r (c.notice n) (d.notice n) := by
  cases n with
  | ready => exact ⟨h.framer, rfl⟩
  | response more => exact ⟨h.framer.respond hr more, h.enabled⟩
  | executed => exact ⟨h.framer.commandExecuted, h.enabled⟩
  | inputRequested => exact ⟨h.framer.inputRequested, h.enabled⟩
  | promptRequested prompt => exact ⟨h.framer.cue _ _, h.enabled⟩
  | output stream text => exact ⟨h.framer.ask (.writeOutput stream text), h.enabled⟩
  | exited code => exact ⟨h.framer.reset.ask (.showHint (exitHint code)), rfl⟩

theorem call (h : Alike r c d) (hr : Heeds hear r) (k : Call γ) :
    Alike r (c.call k) (d.call k) := by
  cases k with
  | act a =>
    cases a with
    | enter line => exact (h.submit hr.toIndistinct line false).2
    | run text => exact (h.submit hr.toIndistinct text true).2
    | interrupt => exact (h.interrupt hr.toIndistinct).2
    | notice n => exact h.notice hr.toIndistinct n
    | proceed g => exact ⟨{ h.framer with interpreter := hr.refl g }, h.enabled⟩
  | enable on => exact ⟨h.framer, rfl⟩
  | renderPrompt => exact ⟨h.framer.renderPrompt, h.enabled⟩
  | lineSubmitted => exact ⟨{ h.framer with }, h.enabled⟩
  | takeIndent => exact ⟨{ h.framer with indent := rfl }, h.enabled⟩
  | hint message => exact ⟨h.framer.ask (.showHint message), h.enabled⟩
  | breakOutput cause => exact ⟨{ h.framer with }, h.enabled⟩

/-- **The same move leaves alike consoles alike.** -/
theorem move (h : Alike r c d) (hr : Heeds hear r) (m : Move γ) :
    Alike r (c.move hear m) (d.move hear m) := by
  cases m with
  | call k => exact h.call hr k
  | hear n => exact ⟨{ h.framer with interpreter := hr.heard n h.framer.interpreter }, h.enabled⟩

/-- Alike consoles answer alike. -/
theorem answer (h : Alike r c d) (hr : Indistinct r) (m : Move γ) : d.answer? m = c.answer? m := by
  fun_cases answer? c m with
  | case1 line => exact congrArg some (h.submit hr line false).1
  | case2 text => exact congrArg some (h.submit hr text true).1
  | case3 => exact congrArg some (h.interrupt hr).1
  | case4 => rw [answer?] <;> assumption

end Alike

/-! ### What one side does alone -/

/-- **A move that is only for show may be made by one of two alike consoles alone.** -/
theorem alike_move_of_isForShow (h : Alike r c d) (hr : Heeds hear r) {m : Move γ}
    (hm : m.isForShow = true) : Alike r c (d.move hear m) := by
  have hcued (cue : Prompt.Cue) : c.framer.Alike r (d.framer.cue cue) :=
    h.framer.right (d.framer.alike_cue cue)
  cases m with
  | hear n =>
    exact ⟨{ h.framer with interpreter := hr.overheard hm h.framer.interpreter }, h.enabled⟩
  | call k =>
    cases k with
    | act a =>
      cases a with
      | notice n =>
        cases n with
        | executed => exact ⟨hcued _, h.enabled⟩
        | promptRequested prompt => exact ⟨hcued _, h.enabled⟩
        | output stream text =>
          exact ⟨h.framer.right (Framer.alike_write _ stream text), h.enabled⟩
        | _ => cases hm
      | _ => cases hm
    | _ => cases hm

theorem answer?_of_isForShow {m : Move γ} (hm : m.isForShow = true) : c.answer? m = none := by
  fun_cases answer? c m with
  | case4 => rfl
  | _ => cases hm

/-- A run is alike to what is left of it without the moves that are only for show, and the answers
in it are the same. -/
theorem alike_moves_filter (hr : Heeds hear r) (h : Alike r c d) (ms : List (Move γ)) :
    Alike r (c.moves hear (ms.filter (!·.isForShow))) (d.moves hear ms) ∧
      d.answers hear ms = c.answers hear (ms.filter (!·.isForShow)) := by
  induction ms generalizing c d with
  | nil => exact ⟨h, rfl⟩
  | cons m ms ih =>
    cases hm : m.isForShow with
    | true =>
      have hms : (m :: ms).filter (!·.isForShow) = ms.filter (!·.isForShow) :=
        List.filter_cons_of_neg (by simp [hm])
      obtain ⟨hstate, hanswers⟩ := ih (alike_move_of_isForShow h hr hm)
      rw [hms, answers, answer?_of_isForShow hm]
      exact ⟨hstate, hanswers⟩
    | false =>
      have hms : (m :: ms).filter (!·.isForShow) = m :: ms.filter (!·.isForShow) :=
        List.filter_cons_of_pos (by simp [hm])
      obtain ⟨hstate, hanswers⟩ := ih (h.move hr m)
      rw [hms, answers, answers, h.answer hr.toIndistinct m, hanswers]
      exact ⟨hstate, rfl⟩

/-- **What is only for show does not frame.** Let nobody be able to tell whether the interpreter has
heard a notice that is only for show. Then any two runs from one state that differ only in the moves
for show, be it that one of them is the other with such moves put in anywhere, make the same
requests to the interpreter with the same outcome and give the user the same answers. They end with
the same flags, draft, command in flight and queue, with the same indentation prefilled and the same
mode of the text. -/
theorem framing_ignores_show (hr : Heeds hear r) (c : Console γ) {ms ns : List (Move γ)}
    (h : ms.filter (!·.isForShow) = ns.filter (!·.isForShow)) :
    let f := (c.moves hear ms).framer
    let g := (c.moves hear ns).framer
    g.sent = f.sent ∧ c.answers hear ns = c.answers hear ms ∧
      (Interpreter.isExecuting g.interpreter = Interpreter.isExecuting f.interpreter ∧
        g.isWaiting = f.isWaiting) ∧
      (c.moves hear ns).enabled = (c.moves hear ms).enabled ∧
      g.draft = f.draft ∧ g.inFlight = f.inFlight ∧ g.queued = f.queued ∧
      g.screen.indent = f.screen.indent ∧ g.screen.plainText = f.screen.plainText := by
  intro f g
  obtain ⟨hms, hmsa⟩ := alike_moves_filter hr (Alike.refl hr c) ms
  obtain ⟨hns, hnsa⟩ := alike_moves_filter hr (Alike.refl hr c) ns
  rw [← h] at hns hnsa
  have hf := hms.framer
  have hg := hns.framer
  exact ⟨hg.sent.trans hf.sent.symm, hnsa.trans hmsa.symm,
    ⟨(hr.isExecuting hg.interpreter).trans (hr.isExecuting hf.interpreter).symm,
      (hr.isWaiting hg.interpreter).trans (hr.isWaiting hf.interpreter).symm⟩,
    hns.enabled.trans hms.enabled.symm, hg.draft.trans hf.draft.symm,
    hg.inFlight.trans hf.inFlight.symm, hg.queued.trans hf.queued.symm,
    hg.indent.trans hf.indent.symm, hg.plainText.trans hf.plainText.symm⟩

/-- A response ends the command, and asking for a line begins the wait. -/
def hearScripted : Notice → ScriptedInterpreter → ScriptedInterpreter
  | .response _, s => { s with executing := false }
  | .inputRequested, s => { s with waiting := true }
  | _, s => s

/-- A command and its response, and then a block. -/
def typedBlock : List (Move ScriptedInterpreter) :=
  [.call (.act (.notice .ready)), .call (.act (.enter ['x'])), .hear (.response false),
    .call (.act (.notice (.response false))), .call (.act (.enter ['i', 'f', ':'])),
    .call (.act (.enter [' ', 'y'])), .call (.act (.enter []))]

/-- The same, but the pager wants its prompt before the block, and something is written in it. -/
def pagedBlock : List (Move ScriptedInterpreter) :=
  [.call (.act (.notice .ready)), .call (.act (.enter ['x'])), .hear (.promptRequested .paging),
    .hear (.response false), .call (.act (.notice (.response false))),
    .call (.act (.notice (.promptRequested .paging))), .call (.act (.enter ['i', 'f', ':'])),
    .call (.act (.notice (.output .stdout ['o']))), .call (.act (.notice .executed)),
    .call (.act (.enter [' ', 'y'])), .call (.act (.enter []))]

/-- The same commands go out, although the history has lost the line that was typed at the pager's
prompt. -/
theorem framing_ignores_show_pagedBlock :
    let c := fresh ({} : ScriptedInterpreter) {} {} 8
    (c.moves hearScripted pagedBlock).framer.sent = (c.moves hearScripted typedBlock).framer.sent ∧
      (c.moves hearScripted typedBlock).framer.sent =
        [.executed ['x', '\n'] false none,
          .executed ['i', 'f', ':', '\n', ' ', 'y', '\n', '\n'] false none] ∧
      (c.moves hearScripted typedBlock).history.entries =
        [['x'], ['i', 'f', ':'], [' ', 'y']] ∧
      (c.moves hearScripted pagedBlock).history.entries = [['x'], [' ', 'y']] := by
  intro c
  have hheeds : Heeds hearScripted Eq := Interpreter.heeds_eq fun n hn s => by
    cases n with
    | executed => rfl
    | promptRequested prompt => rfl
    | output stream text => rfl
    | _ => cases hn
  have hshow : typedBlock.filter (!·.isForShow) = pagedBlock.filter (!·.isForShow) := rfl
  exact ⟨(framing_ignores_show hheeds c hshow).1, by decide, by decide, by decide⟩

end Console

end LineFraming
