import LineFraming.Proofs.Framer.Keeping

/-!
# What the running program is given

A line that is dispatched while the running program waits is an answer to it, behind all that is in
the draft. No other line is one: while no program waits, a draft that is sent is a command, or it
joins the queue.

## Main definitions

* `Framer.answers` — the lines that were handed to a program which waited for one

## Main results

* `Framer.answers_dispatch_of_waiting`, `Framer.answers_dispatch_of_not_waiting` — a waiting program
  gets every line
* `Framer.answers_finish` — when completing a statement is an answer
-/

namespace LineFraming

/-- The line that a deed hands to a program which waits for one, taken or not. -/
def Deed.answer? : Deed → Option Text
  | executed command true _ => some command
  | _ => none

namespace Framer

variable {γ : Type} {f g : Framer γ}

/-- The lines that were handed to a program which waited for one, the oldest first. -/
def answers (f : Framer γ) : List Text := f.sent.filterMap Deed.answer?

theorem Silent.answers (h : Silent f g) : g.answers = f.answers := by
  rw [Framer.answers, h.sent, Framer.answers]

variable [Interpreter γ]

/-- A draft that is sent while the running program waits is an answer. -/
theorem answers_sendDraft_of_waiting (hw : f.isWaiting = true) (line : Text) :
    (f.sendDraft line).answers = f.answers ++ [f.draft.text] := by
  obtain ⟨refused, hs⟩ := sent_sendDraft_of_waiting hw line
  rw [answers, hs, List.filterMap_append]
  rfl

/-- Otherwise it is a command. -/
theorem answers_sendDraft_of_not_waiting (hw : f.isWaiting = false) (line : Text) :
    (f.sendDraft line).answers = f.answers := by
  obtain ⟨k, hk, -, he⟩ := exists_sendDraft hw line
  rw [he]
  split
  · exact hk.answers
  · rename_i hn
    rw [Option.not_isSome_iff_eq_none, ← hk.inFlight] at hn
    obtain ⟨refused, hs, -⟩ := sent_send hn ⟨f.draft.text, line⟩
    rw [hk.isWaiting, hw] at hs
    calc
      (k.send ⟨f.draft.text, line⟩).answers = k.answers ++ [] := by
        rw [answers, hs, List.filterMap_append]
        rfl
      _ = f.answers := by rw [List.append_nil, hk.answers]

/-- A waiting program gets every line, behind all that is in the draft. -/
theorem answers_dispatch_of_waiting (hw : f.isWaiting = true) (line : Text) :
    (f.dispatch line).answers = f.answers ++ [(f.draft.append line).text] := by
  have hput : isWaiting { f with draft := f.draft.append line } = true := hw
  rw [dispatch_of_waiting hw, answers_sendDraft_of_waiting hput]
  rfl

/-- If the program does not wait, no line is an answer. -/
theorem answers_dispatch_of_not_waiting (hw : f.isWaiting = false) (line : Text) :
    (f.dispatch line).answers = f.answers := by
  refine dispatch_cases (p := fun g => g.answers = f.answers) ?waiting ?kept ?sent
  case waiting =>
    intro hwaits
    rw [hw] at hwaits
    cases hwaits
  case kept => exact fun _ hg _ => hg.silent.answers
  case sent =>
    intro g _ hg _ _
    rw [answers_sendDraft_of_not_waiting (hg.silent.isWaiting.trans hw), hg.silent.answers]

/-- A line is an answer if and only if the program waits. -/
theorem answers_dispatch_iff (f : Framer γ) (line : Text) :
    (f.dispatch line).answers = f.answers ↔ f.isWaiting = false := by
  refine ⟨fun h => Bool.eq_false_iff.mpr fun hw => ?_, fun hw => ?_⟩
  · rw [answers_dispatch_of_waiting hw] at h
    simp at h
  · exact answers_dispatch_of_not_waiting hw line

/-- Completing a statement answers a waiting program if a statement was begun. -/
theorem answers_finish (f : Framer γ) :
    f.finish.answers =
      if f.isWaiting && f.draft.text?.isSome then f.answers ++ [(f.draft.append ['\n']).text]
      else f.answers := by
  rw [finish, (silent_ask _ .clearInput).answers]
  cases f.draft.text?.isSome with
  | false => simp
  | true =>
    rw [if_pos rfl, Bool.and_true]
    cases hw : f.isWaiting with
    | true => exact answers_dispatch_of_waiting hw _
    | false => exact answers_dispatch_of_not_waiting hw _

/-- The wish to abort is no answer. -/
theorem answers_interrupt (f : Framer γ) : f.interrupt.2.answers = f.answers := by
  simp [answers, sent, interrupt, note, Deed.isSent, Deed.answer?]

end Framer

end LineFraming
