import LineFraming.Proofs.Console.Run
import LineFraming.Proofs.Worker.Turn

/-!
# A console and its worker

The flags of the link change as soon as a report is read, and the console learns of the report
later. So for a while after every result the two disagree: the link counts no command as
outstanding, and the console still has one in flight. A session puts both together, with the reports
that wait in between. The user, the worker and the console move in any order, and the worker may
report whatever it likes, results that nobody asked for included.

## The invariant

Either a command is outstanding in the link, or one result waits for the console, or neither; never
both. In the first two cases the slot of the command in flight is taken, and the result is that of
the last command that was issued. Since an operation issues a command only where the slot is free,
no second command can get between a command and its result.

## Main definitions

* `Worker.Session`, `Worker.Session.step` — the console, the link and the reports in between
* `Worker.Session.Sound` — the invariant
* `Worker.Session.Advance` — what a move may do

## Main results

* `Worker.Session.Sound.advance` — every move keeps to the invariant
* `Worker.Session.results_go_to_their_commands` — no two commands are outstanding, and each result
  finds its command in flight
-/

namespace LineFraming.Worker

theorem Report.eq_result {r : Report} {id : Nat} (h : r.id? = some id) :
    ∃ more, r = .result id more := by
  cases r with
  | result n more =>
    obtain rfl : n = id := Option.some_inj.mp h
    exact ⟨more, rfl⟩
  | ready => cases h
  | commandExecuted => cases h
  | inputRequested => cases h
  | prompt mode => cases h
  | output stream text => cases h

/-- A report settles the outstanding command, or it leaves that alone. It is passed on as its notice
then, unless it is dropped; results are passed on only if they settle the command. -/
theorem Status.apply_cases (s : Status) (r : Report) :
    (∃ id more, r = .result id more ∧ s.pendingId = some id ∧ s.apply r = (some r.notice, {})) ∨
      (s.apply r).2.pendingId = s.pendingId ∧
        ((s.apply r).1 = none ∨ (s.apply r).1 = some r.notice ∧ r.id? = none) := by
  cases r with
  | result id more =>
    by_cases hp : s.pendingId = some id
    · exact .inl ⟨id, more, rfl, hp, if_pos hp⟩
    · have hdrop : s.apply (.result id more) = (none, s) := if_neg hp
      rw [hdrop]
      exact .inr ⟨rfl, .inl rfl⟩
  | ready => exact .inr ⟨rfl, .inr ⟨rfl, rfl⟩⟩
  | commandExecuted => exact .inr ⟨rfl, .inr ⟨rfl, rfl⟩⟩
  | inputRequested => exact .inr ⟨rfl, .inr ⟨rfl, rfl⟩⟩
  | prompt mode => exact .inr ⟨rfl, .inr ⟨rfl, rfl⟩⟩
  | output stream text => exact .inr ⟨rfl, .inr ⟨rfl, rfl⟩⟩

/-- A console with the link to its worker, and the reports that were passed on but not yet
attended to, the oldest first. -/
structure Session where
  console : Console Link
  passed : List Report := []

namespace Session

/-- The console's side of the connection. -/
def link (s : Session) : Link := s.console.framer.interpreter

/-- The numbers of the results that wait for the console. -/
def results (s : Session) : List Nat := s.passed.filterMap Report.id?

/-- The last command has been issued, and the console has not yet attended to its result. -/
def Outstanding (s : Session) : Prop :=
  s.link.status.pendingId.isSome = true ∨ s.results ≠ []

/-- What happens in a session. -/
inductive Move where
  | enter (line : Text)
  | run (text : Text)
  | interrupt
  /-- The worker reports something, which changes the flags and is passed on or dropped. -/
  | report (r : Report)
  /-- The console attends to the oldest report that was passed on. -/
  | attend

/-- The session behind a move. -/
def step (s : Session) : Move → Session
  | .enter line => { s with console := (s.console.enter line).2 }
  | .run text => { s with console := (s.console.run text).2 }
  | .interrupt => { s with console := s.console.interrupt.2 }
  | .report r =>
    let (notice, status) := s.link.status.apply r
    { console := s.console.act (.proceed { s.link with status := status })
      passed := s.passed ++ if notice.isSome then [r] else [] }
  | .attend =>
    match s.passed with
    | [] => s
    | r :: rest => { console := s.console.notice r.notice, passed := rest }

/-- The requests that a move sends. -/
def issued (s : Session) (m : Move) : List Request :=
  (s.step m).link.requests.drop s.link.requests.length

/-- A session that has just been started. -/
def fresh (screen : Screen) (indentation : Indentation) (capacity : Nat) : Session where
  console := .fresh {} screen indentation capacity

/-- The session in which a result has been taken from the reports, those behind it being left, and
the slot has been cleared. -/
def settled (s : Session) (rest : List Report) : Session where
  console := { s.console with framer := { s.console.framer with inFlight := none } }
  passed := rest

@[simp] theorem link_settled (s : Session) (rest : List Report) :
    (s.settled rest).link = s.link := rfl

/-- A report is the result of the outstanding command, which waits then, or it changes neither the
outstanding command nor the results. -/
theorem report_cases (s : Session) (r : Report) :
    (∃ id, s.link.status.pendingId = some id ∧ (s.step (.report r)).link.status = {} ∧
      (s.step (.report r)).results = s.results ++ [id]) ∨
    (s.step (.report r)).link.status.pendingId = s.link.status.pendingId ∧
      (s.step (.report r)).results = s.results := by
  have hresults : (s.step (.report r)).results =
      s.results ++ (if (s.link.status.apply r).1.isSome then [r] else []).filterMap
        Report.id? := by
    simp [step, results]
  rw [hresults]
  rcases s.link.status.apply_cases r with ⟨id, more, rfl, hp, happly⟩ | ⟨hp, hnone | ⟨hsome, hr⟩⟩
  · refine .inl ⟨id, hp, ?_, ?_⟩
    · rw [step, happly]
      rfl
    · rw [happly]
      rfl
  · refine .inr ⟨hp, ?_⟩
    rw [hnone]
    simp
  · refine .inr ⟨hp, ?_⟩
    rw [hsome]
    simp [hr]

/-- A report that is no result leaves the results alone that wait behind it. -/
theorem results_rest {s : Session} {r : Report} {rest : List Report} (hp : s.passed = r :: rest)
    (hr : r.id? = none) : rest.filterMap Report.id? = s.results := by
  rw [results, hp, List.filterMap_cons_none hr]

/-- What the console shows of a report that is no result leaves the commands alone. -/
theorem silent_notice (c : Console Link) {r : Report} (hr : r.id? = none) :
    Framer.Silent c.framer (c.notice r.notice).framer := by
  cases r with
  | result id more => cases hr
  | ready => exact .refl _
  | commandExecuted => exact .commandExecuted _
  | inputRequested => exact .inputRequested _
  | prompt mode => exact Framer.silent_cue _ _
  | output stream text => exact Framer.silent_ask c.framer (.writeOutput stream text)

/-! ### The invariant -/

/-- What holds in every session while the worker is there. -/
structure Sound (s : Session) : Prop where
  connected : s.console.framer.Connected
  pendingId : ∀ id, s.link.status.pendingId = some id → id = s.link.lastId
  results : s.results = [] ∨ s.link.status.pendingId = none ∧ s.results = [s.link.lastId]
  inFlight : s.Outstanding → s.console.framer.inFlight.isSome = true

/-- What a move may do: it issues no command, or the next one where none is outstanding; and a
command that stays outstanding stays in flight. -/
structure Advance (s t : Session) : Prop where
  sound : t.Sound
  requests : ∃ sent, t.link.requests = s.link.requests ++ sent ∧
    (sent.filterMap Request.commandId? = [] ∧ t.link.lastId = s.link.lastId ∨
      sent.filterMap Request.commandId? = [t.link.lastId] ∧ s.link.status.pendingId = none)
  inFlight : t.Outstanding → t.link.lastId = s.link.lastId →
    s.Outstanding ∧ t.console.framer.inFlight = s.console.framer.inFlight

theorem sound_fresh (screen : Screen) (indentation : Indentation) (capacity : Nat) :
    (fresh screen indentation capacity).Sound where
  connected := rfl
  pendingId _ h := by cases h
  results := .inl rfl
  inFlight h := by
    rcases h with h | h
    · cases h
    · exact absurd rfl h

namespace Sound

variable {s : Session}

/-- While the slot is free, nothing is outstanding. -/
theorem of_idle (h : s.Sound) (hn : s.console.framer.inFlight = none) :
    s.link.status.pendingId = none ∧ s.results = [] := by
  have hout : ¬s.Outstanding := fun ho => by
    have hs := h.inFlight ho
    rw [hn] at hs
    cases hs
  rw [Outstanding, not_or, not_not, Bool.not_eq_true, Option.isSome_eq_false_iff,
    Option.isNone_iff_eq_none] at hout
  exact hout

/-- An operation of the console, with the results waiting as before. -/
theorem advance_turn (h : s.Sound) {t : Session}
    (ht : s.console.framer.Turn t.console.framer) (hr : t.results = s.results) : Advance s t := by
  cases ht with
  | quiet hq =>
    have hp : t.link.status.pendingId = s.link.status.pendingId := hq.pendingId
    have hl : t.link.lastId = s.link.lastId := hq.lastId
    have hout : t.Outstanding → s.Outstanding := fun ho => by
      rwa [Outstanding, hp, hr] at ho
    have hslot : t.Outstanding → t.console.framer.inFlight = s.console.framer.inFlight :=
      fun ho => hq.inFlight (h.inFlight (hout ho))
    have hsound : t.Sound := by
      constructor
      case connected => exact hq.connected
      case pendingId =>
        rw [hp, hl]
        exact h.pendingId
      case results =>
        rw [hp, hl, hr]
        exact h.results
      case inFlight =>
        intro ho
        rw [hslot ho]
        exact h.inFlight (hout ho)
    obtain ⟨sent, hs, hnone⟩ := hq.requests
    exact ⟨hsound, ⟨sent, hs, .inl ⟨hnone, hl⟩⟩, fun ho _ => ⟨hout ho, hslot ho⟩⟩
  | issues hi =>
    obtain ⟨hnone, hempty⟩ := h.of_idle hi.idle
    obtain ⟨sent, hs, hone⟩ := hi.requests
    have hl : t.link.lastId = s.link.lastId + 1 := hi.lastId
    have hsound : t.Sound := by
      constructor
      case connected => exact hi.connected
      case pendingId =>
        intro id he
        have hp : t.link.status.pendingId = some t.link.lastId := hi.pendingId
        rw [hp, Option.some_inj] at he
        exact he.symm
      case results => exact .inl (hr.trans hempty)
      case inFlight => exact fun _ => hi.inFlight
    refine ⟨hsound, ⟨sent, hs, .inr ⟨hone, hnone⟩⟩, ?_⟩
    intro _ he
    omega

/-- The result of the outstanding command takes its place; any other report changes neither the
outstanding command nor the results. -/
theorem advance_report (h : s.Sound) (r : Report) : Advance s (s.step (.report r)) := by
  rcases s.report_cases r with ⟨id, hp, hstatus, hwait⟩ | ⟨hp, hresults⟩
  · have hout : s.Outstanding := .inl (by rw [hp]; rfl)
    have hempty : s.results = [] := h.results.resolve_right fun hr => by
      rw [hp] at hr
      cases hr.1
    have hresults : (s.step (.report r)).results = [s.link.lastId] := by
      rw [hwait, hempty, h.pendingId id hp]
      rfl
    have hsound : (s.step (.report r)).Sound := by
      constructor
      case connected => exact h.connected
      case pendingId =>
        intro _ hn
        rw [hstatus] at hn
        cases hn
      case results =>
        refine .inr ⟨?_, hresults⟩
        rw [hstatus]
      case inFlight => exact fun _ => h.inFlight hout
    exact ⟨hsound, ⟨[], (List.append_nil _).symm, .inl ⟨rfl, rfl⟩⟩, fun _ _ => ⟨hout, rfl⟩⟩
  · exact h.advance_turn (.quiet ⟨h.connected, ⟨[], (List.append_nil _).symm, rfl⟩, hp, rfl,
      fun _ => rfl⟩) hresults

/-- What is attended to besides results has no effect on what is outstanding. -/
theorem advance_notice (h : s.Sound) {r : Report} {rest : List Report}
    (hp : s.passed = r :: rest) (hr : r.id? = none) :
    Advance s { console := s.console.notice r.notice, passed := rest } := by
  have hsilent := silent_notice s.console hr
  exact h.advance_turn (.of_eq h.connected hsilent.interpreter hsilent.inFlight)
    (results_rest hp hr)

/-- A result that the console attends to is the only one, and no command is outstanding. -/
theorem of_result (h : s.Sound) {id : Nat} {more : Bool} {rest : List Report}
    (hp : s.passed = .result id more :: rest) :
    s.link.status.pendingId = none ∧ rest.filterMap Report.id? = [] := by
  have hcons : s.results = id :: rest.filterMap Report.id? := by
    rw [Session.results, hp]
    rfl
  obtain ⟨hnone, hone⟩ := h.results.resolve_left fun he => by
    rw [hcons] at he
    cases he
  rw [hcons] at hone
  exact ⟨hnone, (List.cons.inj hone).2⟩

/-- **The console finds the command in flight whose result it attends to.** Behind the response
nothing is outstanding, unless the next command has been released. -/
theorem advance_response (h : s.Sound) {id : Nat} {more : Bool} {rest : List Report}
    (hp : s.passed = .result id more :: rest) :
    Advance s { console := s.console.notice (.response more), passed := rest } := by
  obtain ⟨hnone, hrest⟩ := h.of_result hp
  -- The response starts where the result is settled and the slot is free.
  have hidle : ¬(s.settled rest).Outstanding := by
    rintro (ho | ho)
    · rw [link_settled, hnone] at ho
      cases ho
    · exact ho hrest
  have hsettled : (s.settled rest).Sound :=
    ⟨h.connected, h.pendingId, .inl hrest, fun ho => absurd ho hidle⟩
  have hadvance : Advance (s.settled rest)
      { console := s.console.notice (.response more), passed := rest } :=
    hsettled.advance_turn (Framer.turn_respond h.connected more) rfl
  refine ⟨hadvance.sound, hadvance.requests, ?_⟩
  intro ho hl
  exact absurd (hadvance.inFlight ho hl).1 hidle

theorem advance_attend (h : s.Sound) : Advance s (s.step .attend) := by
  rw [step]
  split
  · exact h.advance_turn (.of_eq h.connected rfl rfl) rfl
  · rename_i r rest hp
    cases hr : r.id? with
    | none => exact h.advance_notice hp hr
    | some id =>
      obtain ⟨more, rfl⟩ := Report.eq_result hr
      exact h.advance_response hp

theorem advance_interrupt (h : s.Sound) : Advance s (s.step .interrupt) := by
  refine h.advance_turn ?_ rfl
  have hturn := Framer.turn_interrupt h.connected
  rcases s.console.framer_interrupt with he | he
  · rw [step, he]
    exact hturn
  · rw [step, he]
    exact hturn.trans (Framer.turn_finish hturn.connected)

/-- What is entered is refused or submitted. -/
theorem turn_submit (h : s.Sound) (text : Text) (execAnyway : Bool) :
    s.console.framer.Turn (s.console.submit text execAnyway).2.framer := by
  obtain ⟨refusal, hr⟩ | hr := s.console.submit_cases text execAnyway
  · rw [hr]
    exact .of_eq h.connected rfl rfl
  · rw [hr]
    exact Framer.turn_submit h.connected text execAnyway

/-- **Every move keeps to the invariant.** -/
theorem advance (h : s.Sound) (m : Move) : Advance s (s.step m) := by
  cases m with
  | enter line => exact h.advance_turn (h.turn_submit line false) rfl
  | run text => exact h.advance_turn (h.turn_submit text true) rfl
  | interrupt => exact h.advance_interrupt
  | report r => exact h.advance_report r
  | attend => exact h.advance_attend

theorem moves (h : s.Sound) (ms : List Move) : (ms.foldl step s).Sound := by
  induction ms generalizing s with
  | nil => exact h
  | cons m ms ih => exact ih (h.advance m).sound

end Sound

/-! ### Commands and their results -/

/-- A request that issues a command is among those with a number. -/
theorem execute_mem {sent : List Request} {ids : List Nat}
    (h : sent.filterMap Request.commandId? = ids) {id : Nat} :
    id ∈ ids ↔ ∃ code, .execute id code ∈ sent := by
  rw [← h, List.mem_filterMap]
  constructor
  · rintro ⟨r, hr, hid⟩
    cases r with
    | execute n code =>
      obtain rfl : n = id := Option.some_inj.mp hid
      exact ⟨code, hr⟩
    | stdin text => cases hid
    | interrupt => cases hid
  · rintro ⟨code, hc⟩
    exact ⟨_, hc, rfl⟩

theorem Advance.issued_eq {s : Session} {m : Move} {sent : List Request}
    (hs : (s.step m).link.requests = s.link.requests ++ sent) : s.issued m = sent := by
  rw [issued, hs, List.drop_left]

/-- The command that is outstanding was issued by some move, and has been in flight since. -/
theorem issued_of_outstanding {s : Session} (h₀ : s.Sound) (hs : ¬s.Outstanding) (ms : List Move)
    (hout : (ms.foldl step s).Outstanding) :
    ∃ before m after code, ms = before ++ m :: after ∧
      .execute (ms.foldl step s).link.lastId code ∈ (before.foldl step s).issued m ∧
      ∀ k, k <+: after → ((before ++ m :: k).foldl step s).console.framer.inFlight =
        (ms.foldl step s).console.framer.inFlight := by
  induction ms using List.reverseRecOn with
  | nil => exact absurd hout hs
  | append_singleton ms m ih =>
    have hstep : (ms ++ [m]).foldl step s = (ms.foldl step s).step m := by
      rw [List.foldl_append]
      rfl
    have hadvance := (h₀.moves ms).advance m
    rw [hstep] at hout ⊢
    obtain ⟨sent, hsent, ⟨hnothing, hl⟩ | ⟨hone, _⟩⟩ := hadvance.requests
    · obtain ⟨hbefore, hslot⟩ := hadvance.inFlight hout hl
      obtain ⟨before, m', after, code, rfl, hmem, hall⟩ := ih hbefore
      refine ⟨before, m', after ++ [m], code, by simp, hl ▸ hmem, fun k hk => ?_⟩
      rcases List.prefix_concat_iff.mp hk with rfl | hk
      · rw [← hstep]
        simp
      · rw [hall k hk, hslot]
    · obtain ⟨code, hmem⟩ := (execute_mem hone).mp (List.mem_singleton.mpr rfl)
      refine ⟨ms, m, [], code, rfl, ?_, fun k hk => ?_⟩
      · rw [Advance.issued_eq hsent]
        exact hmem
      · rw [List.prefix_nil.mp hk, hstep]

/-- **No two commands are outstanding, and no result is credited to another command.** Behind any
moves of a session, whatever the worker reports: a further move issues one command at most, and only
if none is outstanding before; and when the console comes to attend to a result, a command is in
flight, namely the one that some move issued under the number of the result, which has been in
flight since that move. -/
theorem results_go_to_their_commands (screen : Screen) (indentation : Indentation) (capacity : Nat)
    (ms : List Move) :
    let behind (ms : List Move) : Session := ms.foldl step (fresh screen indentation capacity)
    (∀ m, (behind ms).link.requests <+: ((behind ms).step m).link.requests ∧
      (((behind ms).issued m).filterMap Request.commandId?).length ≤ 1 ∧
      ∀ id code, .execute id code ∈ (behind ms).issued m →
        (behind ms).link.status.pendingId = none) ∧
    ∀ id more rest, (behind ms).passed = .result id more :: rest →
      (behind ms).console.framer.inFlight.isSome = true ∧
      ∃ before m after code, ms = before ++ m :: after ∧
        .execute id code ∈ (behind before).issued m ∧
        ∀ k, k <+: after → (behind (before ++ m :: k)).console.framer.inFlight =
          (behind ms).console.framer.inFlight := by
  intro behind
  have h₀ := sound_fresh screen indentation capacity
  have hsound : (behind ms).Sound := h₀.moves ms
  refine ⟨fun m => ?_, fun id more rest hp => ?_⟩
  · obtain ⟨sent, hsent, hsent'⟩ := (hsound.advance m).requests
    rw [Advance.issued_eq hsent, hsent]
    refine ⟨List.prefix_append _ _, ?_, fun id code hmem => ?_⟩
    · rcases hsent' with ⟨hnothing, _⟩ | ⟨hone, _⟩
      · rw [hnothing]
        exact Nat.zero_le 1
      · rw [hone]
        exact Nat.le_refl 1
    · rcases hsent' with ⟨hnothing, _⟩ | ⟨_, hnone⟩
      · have hmem' := (execute_mem hnothing).mpr ⟨code, hmem⟩
        cases hmem'
      · exact hnone
  · have hcons : (behind ms).results = id :: rest.filterMap Report.id? := by
      rw [results, hp]
      rfl
    have hout : (behind ms).Outstanding := .inr (by simp [hcons])
    have hid : id = (behind ms).link.lastId := by
      obtain ⟨_, hone⟩ := hsound.results.resolve_left fun he => by
        rw [hcons] at he
        cases he
      rw [hcons] at hone
      exact (List.cons.inj hone).1
    refine ⟨hsound.inFlight hout, ?_⟩
    rw [hid]
    refine issued_of_outstanding h₀ ?_ ms hout
    rintro (ho | ho)
    · cases ho
    · exact ho rfl

/-- A result that nobody asked for is dropped, and the one for the first command waits for the
console. -/
def firstResult : List Move :=
  [.report .ready, .attend, .enter ['1'], .report (.result 7 false), .report (.result 1 true)]

/-- The first command is in flight until the console attends to its result. -/
theorem results_go_to_their_commands_firstResult :
    let behind (ms : List Move) : Session := ms.foldl step (fresh {} {} 8)
    (behind firstResult).passed = [.result 1 true] ∧
      (behind firstResult).console.framer.inFlight.isSome = true ∧
      ∃ before m after code, firstResult = before ++ m :: after ∧
        .execute 1 code ∈ (behind before).issued m ∧
        ∀ k, k <+: after → (behind (before ++ m :: k)).console.framer.inFlight =
          (behind firstResult).console.framer.inFlight := by
  have hp : (firstResult.foldl step (fresh {} {} 8)).passed = [.result 1 true] := by decide
  exact ⟨hp, (results_go_to_their_commands {} {} 8 firstResult).2 1 true [] hp⟩

end Session

end LineFraming.Worker
