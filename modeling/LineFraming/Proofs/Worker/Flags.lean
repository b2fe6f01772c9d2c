import LineFraming.Proofs.Worker.Delivery
import LineFraming.Proofs.Worker.Message
import Mathlib.Tactic.TFAE

/-!
# What the flags of a link say

The console reads off its link whether a command is executing, whether the running program waits for
a line, and which number is outstanding. A request changes this before it is sent, a report when it
is read, and at the end of the worker everything is reset. The console and the worker take turns as
they like, and so the flags say less than their names promise, in two ways.

A program that waits for a line should be one whose result is outstanding, since a text is sent as a
line while one waits, and as a command else. The link keeps to this by itself, with one exception:
it takes a report that a line is wanted as it comes, even if no command is outstanding. So the
promise is kept if and only if the worker keeps to it.

A request that is refused should leave the flags as they were, since nothing was sent. It never
does: a line for the running program ends the wait, and a command has got a number. The console
takes no input while a command is executing, so it is locked. What could free it is a result of a
command which the worker never received.

## Main definitions

* `Worker.Link.Event`, `Worker.Link.happen` — all that happens to a link, its end included
* `Worker.Link.Coherent` — what the flags agree on in all states
* `Worker.Link.Locked`, `Worker.Link.Event.Frees` — the console takes no input, and what ends this

## Main results

* `Worker.Link.happen_cases` — what an event does to the flags
* `Worker.Link.expected_of_waiting_tfae` — when a program that waits has an outstanding result
* `Worker.Link.flags_of_refused` — what a refused request leaves behind
-/

namespace LineFraming.Worker

/-- The own line of a report is heard as that report. -/
theorem report?_line {r : Report} (h : r.Fits) : report? r.line = some r := by
  have hread : Report.read r.line = some r := by
    simpa using Report.read_line_append h Text.isBlank_nil
  have hblank : Text.isBlank r.line = false := by cases r <;> rfl
  rw [report?, if_neg (by simp [hblank]), hread]

namespace Link

/-- All that happens to a link. -/
inductive Event where
  | contact (c : Contact)
  /-- The worker is gone. -/
  | hangUp

/-- The report that is heard. -/
def Event.report? : Event → Option Report
  | contact c => c.report?
  | hangUp => none

/-- The link behind an event. -/
def happen (l : Link) : Event → Link
  | .contact c => l.contact c
  | .hangUp => l.hangUp

variable {l : Link} {e : Event}

/-- **What an event does to the flags** and to the numbers. -/
theorem happen_cases {p : Status → Nat → Prop}
    (kept : e.report? ≠ some .inputRequested → p l.status l.lastId)
    (answered : e.report? = none → l.status.waiting = true →
      p { l.status with waiting := false } l.lastId)
    (issued : e.report? = none → l.status.waiting = false →
      p { l.status with executing := true, pendingId := some (l.lastId + 1) } (l.lastId + 1))
    (asked : e.report? = some .inputRequested → p { l.status with waiting := true } l.lastId)
    (settled : ∀ id more, e.report? = some (.result id more) → l.status.pendingId = some id →
      p {} l.lastId)
    (ended : e = .hangUp → p {} l.lastId) :
    p (l.happen e).status (l.happen e).lastId := by
  cases e with
  | hangUp => exact ended rfl
  | contact c =>
    cases c with
    | interrupt =>
      rw [happen, contact, status_send, lastId_send]
      exact kept (by simp [Event.report?, Contact.report?])
    | reroute pipe => exact kept (by simp [Event.report?, Contact.report?])
    | execute text =>
      rw [happen, contact]
      cases hw : l.status.waiting with
      | true =>
        rw [status_execute_of_waiting text hw, lastId_execute_of_waiting hw text]
        exact answered rfl hw
      | false =>
        rw [status_execute_of_not_waiting text hw, lastId_execute_of_not_waiting hw text]
        exact issued rfl hw
    | hear line =>
      have hreport : (Event.contact (.hear line)).report? = report? line := rfl
      rw [hreport] at kept asked settled
      rw [happen, contact]
      cases hr : report? line with
      | none =>
        rw [hear_of_none hr]
        exact kept (by simp [hr])
      | some r =>
        rw [hear_of_some hr]
        cases r with
        | result id more =>
          by_cases hp : l.status.pendingId = some id
          · rw [Status.apply_of_pending hp]
            exact settled id more hr hp
          · rw [Status.apply_of_not_pending hp]
            exact kept (by simp [hr])
        | inputRequested => exact asked hr
        | ready => exact kept (by simp [hr])
        | commandExecuted => exact kept (by simp [hr])
        | prompt mode => exact kept (by simp [hr])
        | output stream text => exact kept (by simp [hr])

/-! ### In all states -/

/-- A command is executing if and only if one is outstanding, and it is the last one then. -/
structure Coherent (l : Link) : Prop where
  executing : l.status.executing = l.status.pendingId.isSome
  latest : ∀ id, l.status.pendingId = some id → id = l.lastId

theorem coherent_fresh (pipe : Pipe) : Coherent { pipe := pipe } := ⟨rfl, nofun⟩

theorem Coherent.happen (h : l.Coherent) (e : Event) : (l.happen e).Coherent := by
  suffices hboth : (l.happen e).status.executing = (l.happen e).status.pendingId.isSome ∧
      ∀ id, (l.happen e).status.pendingId = some id → id = (l.happen e).lastId from
    ⟨hboth.1, hboth.2⟩
  refine happen_cases (p := fun s n => s.executing = s.pendingId.isSome ∧
    ∀ id, s.pendingId = some id → id = n) ?kept ?answered ?issued ?asked ?settled ?ended
  case kept => exact fun _ => ⟨h.executing, h.latest⟩
  case answered => exact fun _ _ => ⟨h.executing, h.latest⟩
  case issued => exact fun _ _ => ⟨rfl, fun id hid => (Option.some_inj.mp hid).symm⟩
  case asked => exact fun _ => ⟨h.executing, h.latest⟩
  case settled => exact fun _ _ _ _ => ⟨rfl, nofun⟩
  case ended => exact fun _ => ⟨rfl, nofun⟩

theorem Coherent.events (h : l.Coherent) (es : List Event) : (es.foldl Link.happen l).Coherent := by
  induction es generalizing l with
  | nil => exact h
  | cons e es ih => exact ih (h.happen e)

/-! ### Programs that wait for a line -/

/-- Only a report that a line is wanted, while no command is outstanding, makes a program wait whose
result is not expected. -/
theorem expects_happen_iff (h : l.status.waiting = true → l.status.pendingId.isSome = true)
    (e : Event) :
    ((l.happen e).status.waiting = true → (l.happen e).status.pendingId.isSome = true) ↔
      ¬(e.report? = some .inputRequested ∧ l.status.pendingId = none) := by
  refine happen_cases (p := fun s _ => (s.waiting = true → s.pendingId.isSome = true) ↔
    ¬(e.report? = some .inputRequested ∧ l.status.pendingId = none))
    ?kept ?answered ?issued ?asked ?settled ?ended
  case kept => exact fun hr => iff_of_true h fun hs => hr hs.1
  case answered => exact fun hr _ => iff_of_true nofun (by simp [hr])
  case issued => exact fun hr _ => iff_of_true (fun _ => rfl) (by simp [hr])
  case asked =>
    intro hr
    simp [hr, Option.isSome_iff_ne_none]
  case settled => exact fun _ _ hr _ => iff_of_true nofun (by simp [hr])
  case ended =>
    rintro rfl
    exact iff_of_true nofun (by simp [Event.report?])

/-- A text goes out as a line if and only if a program waits for one. -/
theorem requests_execute_iff (l : Link) (text : Text) :
    (({ l with pipe := .connected } : Link).execute text).2.requests =
      l.requests ++ [.stdin text] ↔ l.status.waiting = true := by
  cases hw : l.status.waiting <;> simp [execute, send, hw]

/-- **A program that waits for a line has an outstanding result if and only if the worker sees to
it.** Whatever the console sends and whatever the worker reports, in any order and whether requests
reach the worker or not, the following are the same: in all states of the run, a command is
outstanding while a program waits for a line; in all states a command is outstanding if a text goes
out as a line; the worker reports that a line is wanted only while a command is outstanding. -/
theorem expected_of_waiting_tfae (pipe : Pipe) (es : List Event) :
    let behind (es : List Event) : Link := es.foldl happen { pipe := pipe }
    [∀ before, before <+: es → (behind before).status.waiting = true →
        (behind before).status.pendingId.isSome = true,
      ∀ before, before <+: es → ∀ text : Text,
        (({ behind before with pipe := .connected } : Link).execute text).2.requests =
            (behind before).requests ++ [.stdin text] →
          (behind before).status.pendingId.isSome = true,
      ∀ before e, before ++ [e] <+: es → e.report? = some .inputRequested →
        (behind before).status.pendingId.isSome = true].TFAE := by
  intro behind
  tfae_have 1 ↔ 2 := by
    constructor
    · intro h before hb text hsent
      exact h before hb ((requests_execute_iff _ text).mp hsent)
    · intro h before hb hw
      exact h before hb [] ((requests_execute_iff _ []).mpr hw)
  tfae_have 1 ↔ 3 := by
    have hiff := forall_prefix_iff (fun _ : Link => True)
      (fun l => l.status.waiting = true → l.status.pendingId.isSome = true)
      (fun _ _ _ => trivial) (fun _ e _ h => expects_happen_iff h e)
      (s := { pipe := pipe }) trivial nofun es
    refine hiff.trans ?_
    simp only [not_and, ← ne_eq, Option.ne_none_iff_isSome]
    exact Iff.rfl
  tfae_finish

/-- A command is done, and then the worker reports that a line is wanted. -/
def askedLate : List Event :=
  [.contact (.execute ['x']), .contact (.hear (Report.result 1 false).line),
    .contact (.hear Report.inputRequested.line)]

/-- The next command goes to the worker as a line, and nothing is outstanding. -/
theorem exists_waiting_not_expected :
    ∃ es : List Event,
      let l := es.foldl happen ({} : Link)
      l.status.waiting = true ∧ l.status.pendingId = none ∧
        (l.execute ['y']).2.requests = l.requests ++ [.stdin ['y']] ∧
        (l.execute ['y']).2.status.pendingId = none := by
  have hresult : report? (Report.result 1 false).line = some (.result 1 false) :=
    report?_line (show 1 < UInt64.size by decide)
  have hasked : report? Report.inputRequested.line = some .inputRequested := report?_line trivial
  have hbehind : askedLate.foldl happen ({} : Link) =
      { status := { waiting := true }, lastId := 1, requests := [.execute 1 ['x']] } := by
    simp only [askedLate, List.foldl_cons, List.foldl_nil, happen, contact, hear_of_some hresult,
      hear_of_some hasked]
    rfl
  refine ⟨askedLate, ?_⟩
  rw [hbehind]
  exact ⟨rfl, rfl, rfl, rfl⟩

/-! ### Requests that are refused -/

/-- A command is executing, and no program waits for a line: the console takes no input. -/
def Locked (l : Link) : Prop := l.status.executing = true ∧ l.status.waiting = false

/-- The worker is gone, or it reports that a line is wanted, or the result of the command with the
given number or a later one. -/
def Event.Frees (n : Nat) (e : Event) : Prop :=
  e = .hangUp ∨ e.report? = some .inputRequested ∨
    ∃ id more, n ≤ id ∧ e.report? = some (.result id more)

/-- All input is turned away. -/
theorem Locked.submit {c : Console Link} (h : c.framer.interpreter.Locked) (he : c.enabled = true)
    (input : Text) (execAnyway : Bool) :
    c.submit input execAnyway = (.error .stillRunning, c) := by
  have hexecuting : Interpreter.isExecuting c.framer.interpreter = true := h.1
  have hwaiting : c.framer.isWaiting = false := h.2
  have hcheck : c.check = .error .stillRunning := by
    simp [Console.check, Console.canExecuteNow, he, hexecuting, hwaiting]
  rw [Console.submit, hcheck]

/-- A link that is locked with the number `n` outstanding, or a later one. -/
structure LockedSince (n : Nat) (l : Link) : Prop where
  locked : l.Locked
  given : n ≤ l.lastId
  outstanding : ∃ id, l.status.pendingId = some id ∧ n ≤ id

/-- **A locked link stays locked** until the worker frees it. -/
theorem LockedSince.happen {n : Nat} (h : l.LockedSince n) (hf : ¬e.Frees n) :
    (l.happen e).LockedSince n := by
  obtain ⟨⟨hexecuting, hwaiting⟩, hgiven, id, hid, hn⟩ := h
  suffices hall : ((l.happen e).status.executing = true ∧ (l.happen e).status.waiting = false) ∧
      n ≤ (l.happen e).lastId ∧ ∃ id, (l.happen e).status.pendingId = some id ∧ n ≤ id from
    ⟨hall.1, hall.2.1, hall.2.2⟩
  refine happen_cases (p := fun s last => (s.executing = true ∧ s.waiting = false) ∧ n ≤ last ∧
    ∃ id, s.pendingId = some id ∧ n ≤ id) ?kept ?answered ?issued ?asked ?settled ?ended
  case kept => exact fun _ => ⟨⟨hexecuting, hwaiting⟩, hgiven, id, hid, hn⟩
  case answered =>
    intro _ hw
    rw [hwaiting] at hw
    cases hw
  case issued =>
    exact fun _ hw => ⟨⟨rfl, hw⟩, Nat.le_succ_of_le hgiven, _, rfl, Nat.le_succ_of_le hgiven⟩
  case asked => exact fun hr => absurd (.inr (.inl hr)) hf
  case settled =>
    intro other more hr hother
    obtain rfl : id = other := Option.some_inj.mp (hid.symm.trans hother)
    exact absurd (.inr (.inr ⟨id, more, hn, hr⟩)) hf
  case ended => exact fun he => absurd (.inl he) hf

theorem LockedSince.events {n : Nat} (h : l.LockedSince n) {es : List Event}
    (hf : ∀ e ∈ es, ¬e.Frees n) : (es.foldl Link.happen l).LockedSince n := by
  induction es generalizing l with
  | nil => exact h
  | cons e es ih =>
    obtain ⟨he, hes⟩ := List.forall_mem_cons.mp hf
    exact ih (h.happen he) hes

/-- **A console is locked** for as long as its link is, and the number that is outstanding tells
what can free it. -/
theorem Coherent.submit_of_locked (h : l.Coherent) (hl : l.Locked) :
    ∃ n, l.status.pendingId = some n ∧ ∀ later : List Event, (∀ e ∈ later, ¬e.Frees n) →
      ∀ c : Console Link, c.framer.interpreter = later.foldl Link.happen l → c.enabled = true →
        ∀ input execAnyway, c.submit input execAnyway = (.error .stillRunning, c) := by
  obtain ⟨n, hn⟩ := Option.isSome_iff_exists.mp (h.executing ▸ hl.1)
  refine ⟨n, hn, fun later hf c hc he input execAnyway => ?_⟩
  have hsince : l.LockedSince n := ⟨hl, (h.latest n hn).le, n, hn, le_rfl⟩
  exact Locked.submit (hc ▸ (hsince.events hf).locked) he input execAnyway

/-- What is refused is not sent. -/
theorem requests_execute_of_closed (h : l.pipe = .closed) (text : Text) :
    (l.execute text).2.requests = l.requests := by
  cases hw : l.status.waiting <;> simp [execute, send, hw, h]

/-- **What a refused request leaves behind.** In every state of a link, before and after the end of
the worker: a request that is refused is not sent, and the flags are never the same behind it. Each
of them is the same under the condition that is given for it. Unless a program waits and none is
executing, the link is locked behind the request, and the console turns all input away until the
worker is gone, wants a line, or reports the result of the command that is outstanding then, or of a
later one. -/
theorem flags_of_refused (es : List Event) (text : Text)
    (h : ((es.foldl happen {}).execute text).1 = .error .disconnected) :
    let l := es.foldl happen {}
    let k := (l.execute text).2
    (k.requests = l.requests ∧ k.status ≠ l.status) ∧
      (k.status.executing = l.status.executing ↔
        l.status.executing = true ∨ l.status.waiting = true) ∧
      (k.status.waiting = l.status.waiting ↔ l.status.waiting = false) ∧
      (k.status.pendingId = l.status.pendingId ↔ l.status.waiting = true) ∧
      (k.Locked ↔ l.status.executing = true ∨ l.status.waiting = false) ∧
      (k.Locked → ∃ n, k.status.pendingId = some n ∧
        ∀ later : List Event, (∀ e ∈ later, ¬e.Frees n) →
          ∀ c : Console Link, c.framer.interpreter = later.foldl happen k → c.enabled = true →
            ∀ input execAnyway, c.submit input execAnyway = (.error .stillRunning, c)) := by
  intro l k
  have hl : l.Coherent := (coherent_fresh .connected).events es
  have hk : k.Coherent := hl.happen (.contact (.execute text))
  have hclosed : l.pipe = .closed := by
    by_contra hopen
    rw [(fst_execute l text).mpr hopen] at h
    cases h
  have hnew : l.status.pendingId ≠ some (l.lastId + 1) := fun hp => by
    have hlast := hl.latest _ hp
    omega
  have hlocked := hk.submit_of_locked
  have hrequests : k.requests = l.requests := requests_execute_of_closed hclosed text
  cases hw : l.status.waiting with
  | true =>
    have hstatus : k.status = { l.status with waiting := false } :=
      status_execute_of_waiting text hw
    refine ⟨⟨hrequests, fun hs => ?_⟩, ?_, ?_, ?_, ?_, hlocked⟩
    · rw [← hs, hstatus] at hw
      cases hw
    · simp [hstatus]
    · simp [hstatus]
    · simp [hstatus]
    · simp [Locked, hstatus]
  | false =>
    have hstatus : k.status =
        { l.status with executing := true, pendingId := some (l.lastId + 1) } :=
      status_execute_of_not_waiting text hw
    refine ⟨⟨hrequests, fun hs => ?_⟩, ?_, ?_, ?_, ?_, hlocked⟩
    · rw [← hs, hstatus] at hnew
      exact hnew rfl
    · simp [hstatus]
    · simp [hstatus, hw]
    · simpa [hstatus] using hnew.symm
    · simp [Locked, hstatus, hw]

/-- A command is running when the worker stops reading. -/
def unreadBehindCommand : List Event := [.contact (.execute ['x']), .contact (.reroute .closed)]

/-- The result of the first command does not free the console any more. -/
theorem flags_of_refused_secondCommand :
    let l := unreadBehindCommand.foldl happen ({} : Link)
    (l.execute ['y']).1 = .error .disconnected ∧ l.status.pendingId = some 1 ∧
      (l.execute ['y']).2.status.pendingId = some 2 ∧
      ∀ c : Console Link,
        c.framer.interpreter =
            [Event.contact (.hear (Report.result 1 false).line)].foldl happen (l.execute ['y']).2 →
          c.enabled = true → ∀ input execAnyway,
            c.submit input execAnyway = (.error .stillRunning, c) := by
  intro l
  have hrefused : (l.execute ['y']).1 = .error .disconnected := rfl
  obtain ⟨-, -, -, -, hlock, hlater⟩ := flags_of_refused unreadBehindCommand ['y'] hrefused
  obtain ⟨n, hn, hstays⟩ := hlater (hlock.mpr (.inl rfl))
  obtain rfl : 2 = n := Option.some_inj.mp hn
  refine ⟨hrefused, rfl, rfl, hstays _ ?_⟩
  have hresult : report? (Report.result 1 false).line = some (.result 1 false) :=
    report?_line (show 1 < UInt64.size by decide)
  simp only [Event.Frees, Event.report?, Contact.report?, hresult, List.mem_singleton, forall_eq]
  rintro (he | he | ⟨id, more, hid, he⟩)
  · cases he
  · cases he
  · cases he
    omega

/-- The console is locked by a command that is refused behind the end of the worker, though nothing
was executing. -/
theorem exists_refused_locked :
    ∃ (es : List Event) (text : Text),
      let l := es.foldl happen ({} : Link)
      (l.execute text).1 = .error .disconnected ∧ l.status = {} ∧
        (l.execute text).2.status.executing = true ∧
        (l.execute text).2.status.pendingId = some 1 ∧ (l.execute text).2.Locked :=
  ⟨[.hangUp, .contact .interrupt], ['x'], rfl, rfl, rfl, rfl, rfl, rfl⟩

end Link

end LineFraming.Worker
