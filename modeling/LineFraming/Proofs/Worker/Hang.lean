import LineFraming.Proofs.Framer.Slot
import LineFraming.Proofs.Worker.Backing
import LineFraming.Proofs.Worker.Session

/-!
# When a session hangs

A session is live if a command in flight has something left that can end it: either the link expects
a result for it, or that result waits for the console. A session that is not live hangs. The user
cannot free the slot, results of unexpected numbers are dropped, and so the slot stays taken until
the worker ends.

There is one way into this. A result waits for the console, so its command is no longer outstanding,
and before the console attends to it the worker asks for a line. The response then releases the next
command of the queue, which goes to the worker as that line.

A worker that stops reading changes nothing about this. A command that is refused is not in flight,
and one that got lost is expected like any other.

## Main definitions

* `Worker.Session.Event`, `Worker.Session.happen` — the moves of a session, and that the worker
  stops reading
* `Worker.Session.Live`, `Worker.Session.Hung` — sessions that can go on, and those that cannot
* `Worker.Session.Misdirects` — the next result releases a command as a line

## Main results

* `Worker.Session.live_happen`, `Worker.Session.hung_happen` — what each event keeps
* `Worker.Session.outstanding_of_busy_iff` — a session hangs if and only if a result has released a
  command as a line
* `Worker.Session.outstanding_of_busy_of_expected` — it never does if the worker asks for lines only
  while a result is expected
-/

namespace LineFraming.Worker.Session

open Framer (Backed Silent)

variable {s t : Session}

/-- What happens in a session whose worker may stop reading before it stops reporting. -/
inductive Event where
  | move (m : Move)
  /-- The worker reads no more. From now on requests are refused. -/
  | refuse

/-- The session behind an event. -/
def happen (s : Session) : Event → Session
  | .move m => s.step m
  | .refuse => { s with console := s.console.act (.proceed { s.link with pipe := .closed }) }

/-- A command in flight can still be ended. -/
structure Live (s : Session) : Prop where
  inOrder : s.console.framer.InOrder
  outstanding : s.console.framer.inFlight.isSome = true → s.Outstanding

/-- A command in flight can no longer be ended. -/
structure Hung (s : Session) : Prop where
  inFlight : s.console.framer.inFlight.isSome = true
  outstanding : ¬s.Outstanding

/-- The console attends to a result next, and what the response releases is taken for a line. -/
structure Misdirects (s : Session) : Prop where
  result : ∃ id more rest, s.passed = .result id more :: rest
  framer : s.console.framer.Misdirects

theorem Live.busy (h : s.Live) : s.console.framer.isBusy = true → s.Outstanding := by
  intro hb
  refine h.outstanding ?_
  rw [← Option.ne_none_iff_isSome]
  intro hn
  simp [Framer.isBusy, hn, h.inOrder hn] at hb

theorem Hung.not_busy_outstanding (h : s.Hung) :
    ¬(s.console.framer.isBusy = true → s.Outstanding) := by
  intro hb
  refine h.outstanding (hb ?_)
  simp [Framer.isBusy, h.inFlight]

/-! ### What an event does -/

/-- An operation of the console, with the results waiting as before. -/
structure Operates (s t : Session) : Prop where
  backed : Backed s.console.framer t.console.framer
  inOrder : s.console.framer.InOrder → t.console.framer.InOrder
  results : t.results = s.results

namespace Operates

theorem of_silent (h : Silent s.console.framer t.console.framer) (hr : t.results = s.results) :
    Operates s t where
  backed := .of_silent h
  inOrder hf := hf.of_eq h.inFlight h.queued
  results := hr

theorem live (h : Operates s t) (hs : s.Live) : t.Live where
  inOrder := h.inOrder hs.inOrder
  outstanding ht := by
    cases hn : s.console.framer.inFlight with
    | none => exact .inl (h.backed.filled hn ht)
    | some lastLine =>
      have hsome : s.console.framer.inFlight.isSome = true := by rw [hn]; rfl
      have hp : t.link.status.pendingId = s.link.status.pendingId := (h.backed.kept hsome).2
      rw [Outstanding, hp, h.results]
      exact hs.outstanding hsome

theorem hung (h : Operates s t) (hs : s.Hung) : t.Hung := by
  obtain ⟨hi, hp⟩ := h.backed.kept hs.inFlight
  replace hp : t.link.status.pendingId = s.link.status.pendingId := hp
  refine ⟨?_, ?_⟩
  · rw [hi]
    exact hs.inFlight
  · rw [Outstanding, hp, h.results]
    exact hs.outstanding

end Operates

theorem operates_submit (s : Session) (text : Text) (execAnyway : Bool) :
    Operates s { s with console := (s.console.submit text execAnyway).2 } := by
  obtain ⟨refusal, hr⟩ | hr := s.console.submit_cases text execAnyway
  · rw [hr]
    exact .of_silent (.refl _) rfl
  · rw [hr]
    exact ⟨Framer.composes_backed.submit _ text execAnyway,
      (Framer.composes_orderly.submit _ text execAnyway).inOrder, rfl⟩

theorem operates_interrupt (s : Session) : Operates s (s.step .interrupt) := by
  have hsend : Backed s.console.framer s.console.framer.interrupt.2 ∧
      (s.console.framer.InOrder → s.console.framer.interrupt.2.InOrder) :=
    ⟨Framer.backed_interrupt _, id⟩
  have hfinish := Framer.composes_orderly.finish s.console.framer.interrupt.2
  have hboth : Backed s.console.framer s.console.interrupt.2.framer ∧
      (s.console.framer.InOrder → s.console.interrupt.2.framer.InOrder) := by
    rcases s.console.framer_interrupt with he | he
    · rw [he]
      exact hsend
    · rw [he]
      exact ⟨hsend.1.trans (Framer.composes_backed.finish _), hfinish.inOrder ∘ hsend.2⟩
  exact ⟨hboth.1, hboth.2, rfl⟩

theorem operates_refuse (s : Session) : Operates s (s.happen .refuse) where
  backed := .of_kept (fun _ => rfl) id rfl rfl
  inOrder := id
  results := rfl

/-- What an event does: the worker reports something, the console operates, or it attends to a
result. -/
theorem happen_cases (s : Session) (e : Event) :
    (∃ r, e = .move (.report r)) ∨ Operates s (s.happen e) ∨
      ∃ id more rest, e = .move .attend ∧ s.passed = .result id more :: rest := by
  cases e with
  | refuse => exact .inr (.inl (operates_refuse s))
  | move m =>
    cases m with
    | enter line => exact .inr (.inl (operates_submit s line false))
    | run text => exact .inr (.inl (operates_submit s text true))
    | interrupt => exact .inr (.inl (operates_interrupt s))
    | report r => exact .inl ⟨r, rfl⟩
    | attend =>
      cases hp : s.passed with
      | nil =>
        refine .inr (.inl ?_)
        rw [happen, step, hp]
        exact .of_silent (.refl _) rfl
      | cons r rest =>
        cases hr : r.id? with
        | none =>
          refine .inr (.inl ?_)
          rw [happen, step, hp]
          exact .of_silent (silent_notice _ hr) (results_rest hp hr)
        | some id =>
          obtain ⟨more, rfl⟩ := Report.eq_result hr
          exact .inr (.inr ⟨id, more, rest, rfl, rfl⟩)

/-- A result that settles the outstanding command waits for the console then. -/
theorem outstanding_report (s : Session) (r : Report) :
    (s.step (.report r)).Outstanding ↔ s.Outstanding := by
  rcases s.report_cases r with ⟨id, hp, _, hwait⟩ | ⟨hp, hresults⟩
  · exact iff_of_true (.inr (by simp [hwait])) (.inl (by simp [hp]))
  · rw [Outstanding, Outstanding, hp, hresults]

theorem step_attend {id : Nat} {more : Bool} {rest : List Report}
    (hp : s.passed = .result id more :: rest) :
    s.step .attend = { console := s.console.notice (.response more), passed := rest } := by
  rw [step, hp]
  rfl

/-! ### Going on and hanging -/

/-- **A session goes on unless a result releases a command as a line.** -/
theorem live_happen (h : s.Live) (e : Event) (hm : e = .move .attend → ¬s.Misdirects) :
    (s.happen e).Live := by
  obtain ⟨r, rfl⟩ | hoperates | ⟨id, more, rest, rfl, hp⟩ := s.happen_cases e
  · exact ⟨h.inOrder, fun hi => (s.outstanding_report r).mpr (h.outstanding hi)⟩
  · exact hoperates.live h
  · have hmis : ¬s.console.framer.Misdirects := fun hf => hm rfl ⟨⟨id, more, rest, hp⟩, hf⟩
    have hback := Framer.backed_respond hmis more
    rw [happen, step_attend hp]
    exact ⟨(Framer.orderly_respond more).2 h.inOrder, fun hi => .inl (hback.filled rfl hi)⟩

/-- **A session that hangs does so until the worker ends.** -/
theorem hung_happen (h : s.Hung) (e : Event) : (s.happen e).Hung := by
  obtain ⟨r, rfl⟩ | hoperates | ⟨id, more, rest, rfl, hp⟩ := s.happen_cases e
  · exact ⟨h.inFlight, fun ho => h.outstanding ((s.outstanding_report r).mp ho)⟩
  · exact hoperates.hung h
  · exact absurd (.inr (by simp [results, hp, Report.id?])) h.outstanding

/-- As long as requests are taken, results find their commands. -/
theorem closed_or_sound_happen (h : s.console.framer.Closed ∨ s.Sound) (e : Event) :
    (s.happen e).console.framer.Closed ∨ (s.happen e).Sound := by
  rcases h with hc | hs
  · refine .inl ?_
    obtain ⟨r, rfl⟩ | hoperates | ⟨id, more, rest, rfl, hp⟩ := s.happen_cases e
    · exact hc
    · exact hoperates.backed.closed hc
    · have hmis : ¬s.console.framer.Misdirects := fun hf => hf.2.2.2 hc
      rw [happen, step_attend hp]
      exact (Framer.backed_respond hmis more).closed hc
  · cases e with
    | refuse => exact .inl rfl
    | move m => exact .inr (hs.advance m).sound

/-- A result that releases a command as a line is the last one that the session attends to. -/
theorem hung_attend (h : s.console.framer.Closed ∨ s.Sound) (hm : s.Misdirects) :
    (s.step .attend).Hung := by
  obtain ⟨⟨id, more, rest, hp⟩, hf⟩ := hm
  obtain ⟨hnone, hrest⟩ := (h.resolve_left hf.2.2.2).of_result hp
  obtain ⟨hi, hpending⟩ := Framer.unbacked_respond hf more
  rw [step_attend hp]
  refine ⟨hi, ?_⟩
  rintro (ho | ho)
  · have hsome : (s.console.framer.respond more).pendingId.isSome = true := ho
    rw [hpending, show s.console.framer.pendingId = none from hnone] at hsome
    cases hsome
  · exact ho hrest

/-! ### Workers that ask for lines only while a result is expected -/

/-- Only one report makes the running program wait. -/
theorem waiting_apply {u : Status} {r : Report} (h : (u.apply r).2.waiting = true) :
    r = .inputRequested ∨ u.waiting = true := by
  cases r with
  | inputRequested => exact .inl rfl
  | result id more =>
    rw [Status.apply] at h
    split at h
    · cases h
    · exact .inr h
  | ready => exact .inr h
  | commandExecuted => exact .inr h
  | prompt mode => exact .inr h
  | output stream text => exact .inr h

/-- While a result waits for the console, none is expected, so the running program does not wait
for a line. -/
theorem not_misdirects (h : s.console.framer.Closed ∨ s.Sound) (he : s.console.framer.Expects) :
    ¬s.Misdirects := by
  rintro ⟨⟨id, more, rest, hp⟩, hf⟩
  have hnone := ((h.resolve_left hf.2.2.2).of_result hp).1
  have hsome := he hf.2.2.1
  rw [show s.console.framer.pendingId = none from hnone] at hsome
  cases hsome

theorem expects_happen (h : s.console.framer.Closed ∨ s.Sound) (he : s.console.framer.Expects)
    (e : Event)
    (hr : e = .move (.report .inputRequested) → s.link.status.pendingId.isSome = true) :
    (s.happen e).console.framer.Expects := by
  obtain ⟨r, rfl⟩ | hoperates | ⟨id, more, rest, rfl, hp⟩ := s.happen_cases e
  · intro hw
    rcases s.report_cases r with ⟨id, _, hstatus, _⟩ | ⟨hp, _⟩
    · have hno : (s.step (.report r)).link.status.waiting = false := by rw [hstatus]
      exact absurd (hno.symm.trans hw) Bool.false_ne_true
    · refine (congrArg Option.isSome hp).trans ?_
      rcases waiting_apply hw with rfl | hwaited
      · exact hr rfl
      · exact he hwaited
  · exact hoperates.backed.expects he
  · have hmis : ¬s.console.framer.Misdirects := fun hf =>
      not_misdirects h he ⟨⟨id, more, rest, hp⟩, hf⟩
    rw [happen, step_attend hp]
    exact (Framer.backed_respond hmis more).expects he

/-! ### Runs -/

theorem hung_events (h : s.Hung) (es : List Event) : (es.foldl happen s).Hung := by
  induction es generalizing s with
  | nil => exact h
  | cons e es ih => exact ih (hung_happen h e)

theorem closed_or_sound_events (h : s.console.framer.Closed ∨ s.Sound) (es : List Event) :
    (es.foldl happen s).console.framer.Closed ∨ (es.foldl happen s).Sound := by
  induction es generalizing s with
  | nil => exact h
  | cons e es ih => exact ih (closed_or_sound_happen h e)

theorem live_events (h : s.Live) (es : List Event) (hm : ∀ before,
    before ++ [.move .attend] <+: es → ¬(before.foldl happen s).Misdirects) :
    (es.foldl happen s).Live := by
  induction es using List.reverseRecOn with
  | nil => exact h
  | append_singleton es e ih =>
    rw [List.foldl_append]
    refine live_happen (ih fun before hb => hm before (hb.trans (List.prefix_append _ _))) e ?_
    rintro rfl
    exact hm es (List.prefix_refl _)

theorem expects_events (h : s.console.framer.Closed ∨ s.Sound) (he : s.console.framer.Expects)
    (es : List Event) (hr : ∀ before, before ++ [.move (.report .inputRequested)] <+: es →
      (before.foldl happen s).link.status.pendingId.isSome = true) :
    (es.foldl happen s).console.framer.Expects := by
  induction es using List.reverseRecOn with
  | nil => exact he
  | append_singleton es e ih =>
    rw [List.foldl_append]
    refine expects_happen (closed_or_sound_events h es)
      (ih fun before hb => hr before (hb.trans (List.prefix_append _ _))) e ?_
    rintro rfl
    exact hr es (List.prefix_refl _)

section Fresh

variable (screen : Screen) (indentation : Indentation) (capacity : Nat)

theorem live_fresh : (fresh screen indentation capacity).Live where
  inOrder _ := rfl
  outstanding h := by cases h

/-- **A session hangs if and only if a result has released a command as a line.** Behind any events,
whatever the worker reports, a busy console has something left that can end the command in flight,
provided that no result that it attended to found a command in the queue while the running program
was waiting for a line; and after such a result nothing is left for good. -/
theorem outstanding_of_busy_iff (es : List Event) :
    let behind (es : List Event) : Session := es.foldl happen (fresh screen indentation capacity)
    ((behind es).console.framer.isBusy = true → (behind es).Outstanding) ↔
      ∀ before, before ++ [.move .attend] <+: es → ¬(behind before).Misdirects := by
  intro behind
  have hsound : ∀ es, (behind es).console.framer.Closed ∨ (behind es).Sound :=
    closed_or_sound_events (.inr (sound_fresh screen indentation capacity))
  constructor
  · rintro hbusy before ⟨after, rfl⟩ hm
    have hattend : (behind (before ++ [.move .attend])).Hung := by
      simp only [behind, List.foldl_append]
      exact hung_attend (hsound before) hm
    have hhung : (behind (before ++ [.move .attend] ++ after)).Hung := by
      simp only [behind, List.foldl_append] at hattend ⊢
      exact hung_events hattend after
    exact hhung.not_busy_outstanding hbusy
  · exact fun hm => (live_events (live_fresh screen indentation capacity) es hm).busy

/-- A worker that asks for lines only while a result is expected never makes the console hang. -/
theorem outstanding_of_busy_of_expected (es : List Event)
    (hr : ∀ before, before ++ [.move (.report .inputRequested)] <+: es →
      (before.foldl happen (fresh screen indentation capacity)).link.status.pendingId.isSome) :
    (es.foldl happen (fresh screen indentation capacity)).console.framer.isBusy = true →
      (es.foldl happen (fresh screen indentation capacity)).Outstanding := by
  have hsound := closed_or_sound_events (.inr (sound_fresh screen indentation capacity))
  refine (outstanding_of_busy_iff screen indentation capacity es).mpr fun before hb => ?_
  refine not_misdirects (hsound before) (expects_events (hsound []) (fun hw => ?_) before ?_)
  · cases hw
  · intro start hs
    exact hr start (hs.trans ((List.prefix_append _ _).trans hb))

end Fresh

/-- A block and a line behind it, and a worker that asks for a line right after the result of the
block. -/
def lateRequest : List Event :=
  [.move (.report .ready), .move .attend, .move (.enter ['i', 'f', ':']), .move (.enter [' ', 'a']),
    .move (.enter ['b']), .move (.report (.result 1 false)), .move (.report .inputRequested)]

/-- The line goes to the worker as input and is in flight, but no result will end it. -/
theorem exists_busy_not_outstanding :
    ∃ es : List Event, (es.foldl happen (fresh {} {} 8)).console.framer.isBusy = true ∧
      ¬(es.foldl happen (fresh {} {} 8)).Outstanding := by
  refine ⟨lateRequest ++ [.move .attend], by decide, ?_⟩
  rw [Outstanding]
  decide

end LineFraming.Worker.Session
