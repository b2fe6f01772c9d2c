import LineFraming.Proofs.Console.Run
import LineFraming.Proofs.Framer.Outcome
import LineFraming.Proofs.Framer.Slot

/-!
# Lines for the running program

While the running program waits, an entered line is an answer to it and not a statement. It closes
no block and opens no string, and it is neither held back nor queued. So whatever is being typed, in
flight or waiting in the queue, there is one request, and the running program gets it.

On its way the answer is still treated like a line of a statement: it loses the blanks at its end,
and it is put into the draft, which is sent as a whole. The request ends with the answer therefore,
and it is nothing but the answer if the draft was empty.

## Main results

* `Framer.sent_dispatch_of_waiting`, `Framer.sent_processLine_of_waiting` — the request for a line
* `Console.sent_enter_of_waiting` — the request for a line that the user enters
-/

namespace LineFraming

namespace Framer

variable {γ : Type} [Interpreter γ] {f : Framer γ}

/-- A line is sent as soon as it is in the draft. -/
theorem sent_dispatch_of_waiting (hw : f.isWaiting = true) (line : Text) : ∃ refused,
    (f.dispatch line).sent =
      f.sent ++ [.executed (f.draft.text ++ f.draft.addition line) true refused] := by
  have hput : isWaiting { f with draft := f.draft.append line } = true := hw
  obtain ⟨refused, hs⟩ := sent_sendDraft_of_waiting hput line
  refine ⟨refused, ?_⟩
  rw [dispatch, if_pos hput, hs, Draft.text_append]
  rfl

/-- No block is closed for an answer. -/
theorem processLine_of_waiting (hw : f.isWaiting = true) (line : Text) :
    f.processLine line =
      f.dispatch (if Text.trimEnd line = [] then ['\n'] else Text.trimEnd line) :=
  processLine_of_not_closing (by simp [closesBlock, hw])

/-- One request is made for a typed line. It ends with the line. -/
theorem sent_processLine_of_waiting (hw : f.isWaiting = true) (line : Text) : ∃ payload refused,
    (f.processLine line).sent = f.sent ++ [.executed payload true refused] ∧
      (Text.trimEnd line ≠ [] → payload = f.draft.text ++ (Text.trimEnd line ++ ['\n'])) := by
  obtain ⟨refused, hs⟩ := sent_dispatch_of_waiting hw
    (if Text.trimEnd line = [] then ['\n'] else Text.trimEnd line)
  refine ⟨_, refused, by rw [processLine_of_waiting hw, hs], fun hne => ?_⟩
  rw [if_neg hne, f.draft.addition_trimEnd hne]

end Framer

namespace Console

variable {γ : Type} [Interpreter γ] {c : Console γ}

/-- **An entered line is the answer that the running program waits for.** Whatever state the framer
is in, the line is taken, and a single request comes of it, which is a line for the running program.
Unless the line is blank, the request ends with it, without the blanks at its end but with a line
feed; and if nothing was typed before, it is nothing else. -/
theorem sent_enter_of_waiting (he : c.enabled = true) (hw : c.framer.isWaiting = true) {line : Text}
    (hn : '\n' ∉ line) :
    (c.enter line).1 = .ok () ∧ ∃ payload refused,
      (c.enter line).2.framer.sent = c.framer.sent ++ [.executed payload true refused] ∧
      (Text.trimEnd line ≠ [] → Text.trimEnd line ++ ['\n'] <:+ payload ∧
        (c.framer.draft.text = [] → payload = Text.trimEnd line ++ ['\n'])) := by
  have hcheck : c.check = .ok () := by simp [check, he, canExecuteNow, hw]
  obtain ⟨payload, refused, hs, hp⟩ := Framer.sent_processLine_of_waiting hw line
  obtain ⟨refusal, hr⟩ | hr := c.submit_cases line false
  · rw [submit, hcheck] at hr
    cases hr
  · rw [enter, hr, Framer.submit_line c.framer hn]
    refine ⟨rfl, payload, refused, hs, fun hne => ?_⟩
    rw [hp hne]
    refine ⟨List.suffix_append _ _, fun hd => ?_⟩
    rw [hd, List.nil_append]

/-- A command is running and waits for a line. -/
def askedForLine : List (Act ScriptedInterpreter) :=
  [.notice .ready, .enter ['x'], .proceed { executing := true, waiting := true },
    .notice .inputRequested]

/-- The blanks behind the answer are not sent. -/
theorem sent_enter_of_waiting_askedForLine :
    let c := askedForLine.foldl act (fresh {} {} {} 8)
    c.enabled = true ∧ c.framer.isWaiting = true ∧ '\n' ∉ ['a', 'b', ' '] ∧ ∃ refused,
      (c.enter ['a', 'b', ' ']).2.framer.sent =
        c.framer.sent ++ [.executed ['a', 'b', '\n'] true refused] := by
  intro c
  have he : c.enabled = true := by decide
  have hw : c.framer.isWaiting = true := by decide
  have hn : '\n' ∉ ['a', 'b', ' '] := by decide
  have ht : Text.trimEnd ['a', 'b', ' '] = ['a', 'b'] := by decide
  have hd : c.framer.draft.text = [] := by decide
  obtain ⟨_, payload, refused, hs, hp⟩ := sent_enter_of_waiting he hw hn
  rw [ht] at hp
  obtain rfl := (hp (by simp)).2 hd
  exact ⟨he, hw, hn, refused, hs⟩

/-- So the request is not always the line as it was entered. -/
theorem exists_sent_enter_ne :
    ∃ (acts : List (Act ScriptedInterpreter)) (line : Text),
      let c := acts.foldl act (fresh {} {} {} 8)
      c.enabled = true ∧ c.framer.isWaiting = true ∧ '\n' ∉ line ∧
        ∀ refused rest, (c.enter line).2.framer.sent ≠
          c.framer.sent ++ .executed (line ++ ['\n']) true refused :: rest := by
  refine ⟨askedForLine, ['a', 'b', ' '], by decide, by decide, by decide, fun refused rest h => ?_⟩
  have hs : ((askedForLine.foldl act (fresh {} {} {} 8)).enter ['a', 'b', ' ']).2.framer.sent =
      (askedForLine.foldl act (fresh {} {} {} 8)).framer.sent ++
        [.executed ['a', 'b', '\n'] true none] := by decide
  have hlast := List.append_cancel_left (hs.symm.trans h)
  injection hlast with hdeed
  injection hdeed with hcommand
  revert hcommand
  decide

end Console

end LineFraming
