import LineFraming.Proofs.Console.Run
import LineFraming.Proofs.Framer.Rest
import LineFraming.Proofs.Worker.Backing
import LineFraming.Proofs.Worker.Session

/-!
# The prompt for the running program

The console shows the prompt for the running program when it attends to a request for a line. The
link knows of the request earlier, and from then on a typed line is the answer to it. So the two
agree about the running program only if the request has not been answered when the console gets to
it. The console does not ask, and a request that has been answered already leaves the prompt for a
line that nobody reads.

In every other respect they agree, whatever the worker reports and in whatever order the parties
move. An answer takes the prompt back, and so does everything else that is typed or released. A
result ends the wait in the link at once; until the console attends to it the prompt stays, and
behind the response it is another one, or the program waits again.

## Main definitions

* `Framer.Attentive` — the prompt asks for a line only while the running program waits for one
* `Worker.Session.Agrees` — that holds of the console, unless a result waits for it
* `Worker.Session.Outdated` — the console attends next to a request that has been answered

## Main results

* `Framer.Attentive.dispatch`, `Framer.attentive_respond` — what operations keep to
* `Worker.Session.agrees_step_iff` — which moves keep the two in agreement
* `Worker.Session.waiting_of_prompt_input_iff` — a run does if and only if no outdated request is
  attended to
-/

namespace LineFraming

namespace Framer

section Prompt

variable {γ : Type} [Interpreter γ] {f : Framer γ}

/-- The prompt asks for a line only while the running program waits for one. -/
def Attentive (f : Framer γ) : Prop := f.prompt = .input → f.isWaiting = true

theorem Attentive.of_prompt (h : f.prompt ≠ .input) : f.Attentive := fun hp => absurd hp h

theorem Attentive.of_waiting (h : f.isWaiting = true) : f.Attentive := fun _ => h

/-- The prompt and the interpreter alone decide. -/
theorem Attentive.of_eq {g : Framer γ} (h : f.Attentive) (hp : g.prompt = f.prompt)
    (hi : g.interpreter = f.interpreter) : g.Attentive := by
  rw [Attentive, hp, isWaiting, hi]
  exact h

/-- A command that is sent leaves the prompt as it is, or everything starts afresh. -/
theorem prompt_send_ne_input (h : f.prompt ≠ .input) (pending : PendingCommand) :
    (f.send pending).prompt ≠ .input := by
  cases he : (f.execute pending.command).1 with
  | ok _ =>
    rw [send_of_ok he]
    exact h
  | error fault =>
    rw [send_of_error he]
    simp [report, Prompt.after]

theorem prompt_sendDraft_ne_input (hw : f.isWaiting = false) (line : Text) :
    (f.sendDraft line).prompt ≠ .input := by
  rw [sendDraft_of_not_waiting hw]
  dsimp only
  split
  · simp [Prompt.after]
  · exact prompt_send_ne_input (by simp [Prompt.after]) _

theorem prompt_conclude_ne_input (h : f.prompt ≠ .input) (hw : f.isWaiting = false) (line : Text)
    (kind : LineKind) : (f.conclude line kind).prompt ≠ .input := by
  refine conclude_cases (p := fun g => g.prompt ≠ .input) ?continued ?indented ?nothing ?sent
  case continued => exact fun _ => by simp [Prompt.after]
  case indented => exact fun depth _ => by simp [requestMore, Prompt.after]
  case nothing => exact fun _ => h
  case sent => exact fun _ => prompt_sendDraft_ne_input hw line

/-- Nothing that is typed asks for a line of the running program. -/
theorem prompt_dispatch_ne_input (h : f.prompt ≠ .input) (hw : f.isWaiting = false) (line : Text) :
    (f.dispatch line).prompt ≠ .input := by
  have hput : isWaiting { f with draft := f.draft.append line } = false := hw
  have hkept : prompt { f with draft := f.draft.append line } ≠ .input := h
  rw [dispatch]
  dsimp only
  rw [if_neg (by simp [hput])]
  split
  · exact h
  · simp [Prompt.after]
  · refine prompt_conclude_ne_input (by simp [Prompt.after]) ?_ line _
    rw [(Silent.setRegion _ none _ _).isWaiting]
    exact hput
  · exact prompt_conclude_ne_input hkept hput line _

theorem prompt_commandExecuted_ne_input (f : Framer γ) : f.commandExecuted.prompt ≠ .input := by
  rw [commandExecuted, prompt_cue, Prompt.after]
  split
  · simp
  · simp

/-- **A response to a command in flight** takes the prompt back, unless the running program waits
again. -/
theorem attentive_respond (hs : f.inFlight.isSome = true) (more : Bool) :
    (f.respond more).Attentive := by
  obtain ⟨lastLine, hl⟩ := Option.isSome_iff_exists.mp hs
  have hsettle : (f.settle lastLine more).Attentive := by
    cases more with
    | true =>
      apply Attentive.of_prompt
      simp only [settle, if_true, continueStatement]
      split <;> simp [Prompt.after]
    | false =>
      cases hw : f.isWaiting with
      | true =>
        apply Attentive.of_waiting
        rw [(Silent.settle f lastLine false).isWaiting]
        exact hw
      | false =>
        have hfree : isWaiting { f with inFlight := none } = false := hw
        apply Attentive.of_prompt
        simp only [settle, hfree, Bool.false_eq_true, if_false, prompt_setDepth]
        exact prompt_commandExecuted_ne_input _
  rw [respond_of_some hl, sendNext]
  split
  · exact hsettle
  · exact .of_prompt (prompt_send_ne_input (by simp [Prompt.after]) _)

end Prompt

open Worker

variable {f : Framer Link}

/-- An answer that is sent takes the prompt back. -/
theorem prompt_sendDraft_of_waiting (hc : f.Connected) (hw : f.isWaiting = true) (line : Text) :
    (f.sendDraft line).prompt = .ordinary := by
  have hopen : f.interpreter.pipe ≠ .closed := by
    rw [show f.interpreter.pipe = .connected from hc]
    decide
  have hok : (f.interpreter.execute f.draft.text).1 = .ok () := (Link.fst_execute _ _).mpr hopen
  have hanswered : (f.interpreter.execute f.draft.text).2.status.waiting = false := by
    rw [Link.status_execute_of_waiting _ hw]
  rw [sendDraft_of_waiting hw]
  split
  · rename_i g he
    have hg : g.isWaiting = false := by
      rw [← hanswered]
      exact congrArg (fun e => isWaiting e.2) he.symm
    rw [if_neg (by simp [hg])]
    simp [Prompt.after]
  · rename_i fault g he
    have hrefused : (Except.error fault : Except Interpreter.Fault Unit) = .ok () :=
      (congrArg Prod.fst he).symm.trans hok
    cases hrefused

namespace Attentive

/-- **A dispatched line** takes the prompt back if it is an answer, and leaves it alone else. -/
theorem dispatch (h : f.Attentive) (hc : f.Connected) (line : Text) :
    (f.dispatch line).Attentive := by
  cases hw : f.isWaiting with
  | true =>
    have hput : isWaiting { f with draft := f.draft.append line } = true := hw
    have hopen : Connected { f with draft := f.draft.append line } := hc
    have hordinary : (f.dispatch line).prompt = .ordinary := by
      rw [Framer.dispatch, if_pos hput]
      exact prompt_sendDraft_of_waiting hopen hput line
    exact .of_prompt (by simp [hordinary])
  | false =>
    have hprompt : f.prompt ≠ .input := by
      intro hp
      rw [h hp] at hw
      cases hw
    exact .of_prompt (prompt_dispatch_ne_input hprompt hw line)

/-- Dispatching leaves the link connected. -/
theorem dispatch_connected (h : f.Connected ∧ f.Attentive) (line : Text) :
    (f.dispatch line).Connected ∧ (f.dispatch line).Attentive :=
  ⟨(composes_turn.dispatch f line h.1).connected, h.2.dispatch h.1 line⟩

theorem submit (h : f.Attentive) (hc : f.Connected) (text : Text) (execAnyway : Bool) :
    (f.submit text execAnyway).Attentive := by
  have hboth := submit_induction (p := fun g : Framer Link => g.Connected ∧ g.Attentive)
    (fun _ _ l _ _ hg => dispatch_connected hg l)
    (fun _ hg => ⟨hg.1, hg.2.of_eq rfl rfl⟩) ⟨hc, h⟩ text execAnyway
  exact hboth.2

theorem finish (h : f.Attentive) (hc : f.Connected) : f.finish.Attentive := by
  have hboth := finish_induction (p := fun g : Framer Link => g.Connected ∧ g.Attentive)
    (fun _ hg => dispatch_connected hg _)
    (fun _ hg => ⟨hg.1, hg.2.of_eq rfl rfl⟩) ⟨hc, h⟩
  exact hboth.2

end Attentive

end Framer

namespace Worker.Session

open Framer (Attentive)

variable {s : Session}

/-- The prompt asks for a line only while the running program waits for one, unless a result waits
for the console. -/
def Agrees (s : Session) : Prop := s.results = [] → s.console.framer.Attentive

/-- The console attends next to a request for a line, which has been answered already. The help
reads its own input, so it would not take notice. -/
structure Outdated (s : Session) : Prop where
  request : ∃ rest, s.passed = .inputRequested :: rest
  results : s.results = []
  waiting : s.link.status.waiting = false
  prompt : s.console.framer.prompt ≠ .help

/-- Nothing but the result of the outstanding command ends the wait for a line. -/
theorem waiting_apply_of_pendingId {u : Status} {r : Report}
    (hp : (u.apply r).2.pendingId = u.pendingId) (hw : u.waiting = true) :
    (u.apply r).2.waiting = true := by
  cases r with
  | result id more =>
    by_cases hid : u.pendingId = some id
    · rw [Status.apply, if_pos hid, hid] at hp
      cases hp
    · rw [Status.apply, if_neg hid]
      exact hw
  | inputRequested => rfl
  | ready => exact hw
  | commandExecuted => exact hw
  | prompt mode => exact hw
  | output stream text => exact hw

theorem agrees_fresh (screen : Screen) (indentation : Indentation) (capacity : Nat) :
    (fresh screen indentation capacity).Agrees := by
  intro _ hp
  cases hp

/-! ### Moves that keep the two in agreement -/

theorem agrees_submit (hs : s.Sound) (h : s.Agrees) (text : Text) (execAnyway : Bool) :
    Agrees { s with console := (s.console.submit text execAnyway).2 } := by
  intro hr
  obtain ⟨refusal, he⟩ | he := s.console.submit_cases text execAnyway
  · rw [he]
    exact h hr
  · rw [he]
    exact (h hr).submit hs.connected text execAnyway

theorem agrees_interrupt (hs : s.Sound) (h : s.Agrees) : (s.step .interrupt).Agrees := by
  intro hr
  have hsent : (s.console.framer.interrupt.2).Connected :=
    (Framer.turn_interrupt hs.connected).connected
  have hkept : (s.console.framer.interrupt.2).Attentive := by
    intro hp
    show (s.link.send .interrupt).2.status.waiting = true
    rw [Link.status_send]
    exact h hr hp
  rcases s.console.framer_interrupt with he | he
  · rw [step, he]
    exact hkept
  · rw [step, he]
    exact hkept.finish hsent

/-- A report ends the wait only if it is a result, which waits for the console then. -/
theorem agrees_report (h : s.Agrees) (r : Report) : (s.step (.report r)).Agrees := by
  intro hr hp
  rcases s.report_cases r with ⟨id, -, -, hwait⟩ | ⟨hpending, hresults⟩
  · rw [hwait] at hr
    simp at hr
  · exact waiting_apply_of_pendingId hpending (h (hresults.symm.trans hr) hp)

/-! ### What the console attends to -/

theorem agrees_notice (h : s.Agrees) {r : Report} {rest : List Report} (hp : s.passed = r :: rest)
    (hr : r.id? = none)
    (hk : s.console.framer.Attentive → (s.console.notice r.notice).framer.Attentive) :
    Agrees { console := s.console.notice r.notice, passed := rest } := by
  intro hrest
  exact hk (h ((results_rest hp hr).symm.trans hrest))

theorem not_outdated {r : Report} {rest : List Report} (hp : s.passed = r :: rest)
    (hr : r ≠ .inputRequested) : ¬s.Outdated := by
  rintro ⟨⟨rest', he⟩, -⟩
  rw [hp] at he
  exact hr (List.cons.inj he).1

/-- A request for a line moves the prompt, whether the running program still waits or not. -/
theorem agrees_inputRequested_iff {rest : List Report} (hp : s.passed = .inputRequested :: rest) :
    Agrees { console := s.console.notice .inputRequested, passed := rest } ↔ ¬s.Outdated := by
  have hresults : rest.filterMap Report.id? = s.results := results_rest hp rfl
  have hwaiting : s.console.framer.inputRequested.isWaiting = s.link.status.waiting :=
    (Framer.Silent.inputRequested _).isWaiting
  have hprompt : s.console.framer.inputRequested.prompt = .input ↔
      s.console.framer.prompt ≠ .help := by
    simp [Framer.inputRequested, Prompt.after]
  constructor
  · intro hagrees hout
    have hw := hagrees (hresults.trans hout.results) (hprompt.mpr hout.prompt)
    rw [show Framer.isWaiting (Console.framer _) = _ from hwaiting, hout.waiting] at hw
    cases hw
  · intro hout hrest hasks
    show s.console.framer.inputRequested.isWaiting = true
    rw [hwaiting]
    by_contra hw
    exact hout ⟨⟨rest, hp⟩, hresults.symm.trans hrest, Bool.eq_false_iff.mpr hw, hprompt.mp hasks⟩

/-- **What the console attends to keeps the two in agreement, unless it is outdated.** -/
theorem agrees_attend_iff (hs : s.Sound) (h : s.Agrees) :
    (s.step .attend).Agrees ↔ ¬s.Outdated := by
  rw [step]
  split
  · rename_i hp
    refine iff_of_true h ?_
    rintro ⟨⟨rest, he⟩, -⟩
    rw [hp] at he
    cases he
  · rename_i r rest hp
    cases r with
    | result id more =>
      have hout : s.Outstanding := .inr (by simp [results, hp, Report.id?])
      have hkept := Framer.attentive_respond (hs.inFlight hout) more
      exact iff_of_true (fun _ => hkept) (not_outdated hp (by simp))
    | inputRequested => exact agrees_inputRequested_iff hp
    | ready => exact iff_of_true (agrees_notice h hp rfl id) (not_outdated hp (by simp))
    | commandExecuted =>
      have hkept := Framer.prompt_commandExecuted_ne_input s.console.framer
      exact iff_of_true (agrees_notice h hp rfl fun _ => .of_prompt hkept)
        (not_outdated hp (by simp))
    | prompt mode =>
      have hkept : (s.console.framer.promptRequested mode.toPrompt).prompt ≠ .input := by
        rw [Framer.promptRequested, Framer.prompt_cue]
        cases mode <;> simp [Mode.toPrompt, Prompt.after]
      exact iff_of_true (agrees_notice h hp rfl fun _ => .of_prompt hkept)
        (not_outdated hp (by simp))
    | output stream text =>
      exact iff_of_true (agrees_notice h hp rfl fun ha => ha.of_eq rfl rfl)
        (not_outdated hp (by simp))

/-- **Every move keeps the two in agreement, unless an outdated request is attended to.** -/
theorem agrees_step_iff (hs : s.Sound) (h : s.Agrees) (m : Move) :
    (s.step m).Agrees ↔ ¬(m = .attend ∧ s.Outdated) := by
  cases m with
  | enter line => exact iff_of_true (agrees_submit hs h line false) (by simp)
  | run text => exact iff_of_true (agrees_submit hs h text true) (by simp)
  | interrupt => exact iff_of_true (agrees_interrupt hs h) (by simp)
  | report r => exact iff_of_true (agrees_report h r) (by simp)
  | attend =>
    rw [agrees_attend_iff hs h]
    simp

/-! ### Runs -/

/-- **The prompt asks for a line of a running program that waits for one, if and only if no outdated
request is attended to.** In all states of a run in which no result waits for the console, and so in
all in which nothing waits for it, the prompt for the running program is shown only while the link
knows that program to wait; provided that no request is attended to after it was answered. Each of
these leads to a state in which nobody reads the line that the prompt asks for. -/
theorem waiting_of_prompt_input_iff (screen : Screen) (indentation : Indentation) (capacity : Nat)
    (ms : List Move) :
    let behind (ms : List Move) : Session := ms.foldl step (fresh screen indentation capacity)
    (∀ before, before <+: ms → (behind before).results = [] →
      (behind before).console.framer.prompt = .input →
        (behind before).link.status.waiting = true) ↔
    ∀ before, before ++ [.attend] <+: ms → ¬(behind before).Outdated := by
  intro behind
  have hiff := forall_prefix_iff Sound Agrees (fun _ m hs => (hs.advance m).sound)
    (fun _ m hs h => agrees_step_iff hs h m) (sound_fresh screen indentation capacity)
    (agrees_fresh screen indentation capacity) ms
  refine hiff.trans ?_
  constructor
  · intro h before hb hout
    exact h before .attend hb ⟨rfl, hout⟩
  · rintro h before m hb ⟨rfl, hout⟩
    exact h before hb hout

/-- A worker asks for a line only while a command is outstanding, and only once the last line it
asked for has been sent. -/
def Permits (s : Session) : Move → Prop
  | .report .inputRequested => s.link.status.pendingId.isSome = true ∧ s.link.status.waiting = false
  | _ => True

instance (s : Session) : (m : Move) → Decidable (s.Permits m)
  | .report .inputRequested => inferInstanceAs (Decidable (_ ∧ _))
  | .report .ready | .report (.result ..) | .report .commandExecuted | .report (.prompt _)
  | .report (.output ..) | .enter _ | .run _ | .interrupt | .attend => isTrue trivial

/-- A running program asks for a line, which is typed before the console gets to the request. -/
def earlyAnswer : List Move :=
  [.report .ready, .attend, .enter ['x'], .report .inputRequested, .enter ['4', '2']]

/-- Then the prompt asks for a line, and nobody reads it. -/
theorem exists_prompt_input_not_waiting :
    ∃ ms : List Move,
      let behind (ms : List Move) : Session := ms.foldl step (fresh {} {} 8)
      (∀ before m, before ++ [m] <+: ms → (behind before).Permits m) ∧
        (behind ms).passed = [] ∧ (behind ms).link.pipe = .connected ∧
        (behind ms).console.framer.prompt = .input ∧ (behind ms).link.status.waiting = false := by
  refine ⟨earlyAnswer ++ [.attend], ?_, by decide, by decide, by decide, by decide⟩
  exact forall_prefix_of_inits (by decide)

end Worker.Session

end LineFraming
