import LineFraming.Proofs.Worker.Backing
import LineFraming.Proofs.Worker.Session

/-!
# Which results are delivered

A worker may write anything: results of commands that are done, results of commands that nobody has
sent yet, the same result twice, and lines that are no report at all. The console may send a command
while another one is running. The link has one number to sort this out, that of the command whose
result it waits for.

That number is all it takes. It stands for a fact about the whole past: the command was the last one
to be numbered, and no result for it has been passed on since. So a result is passed on if and only
if this holds of its number. The numbers of the commands go up by one, and a result can only be
passed on for the last of them, so the numbers of the results that are passed on go up as well, and
no command gets two.

## The past

What has become of commands and results is not in the state of the link. It is collected along the
run, as a list of marks, one for each number that was given to a command and one for each report
that was passed on. The numbers are not bounded here, but there are no more of them than commands
that were sent.

## Main definitions

* `Worker.Contact`, `Worker.Link.contact` — what the console and the worker do to the link
* `Worker.Mark`, `Worker.Link.history` — the numbers and the reports of a run, in order
* `Worker.Awaited` — a result for the command with this number is still due
* `Worker.Link.Accounted` — what the link knows of the past

## Main results

* `Worker.Link.Accounted.contact` — every contact keeps it
* `Worker.Link.passed_reports` — all reports but results are passed on, once and in order
* `Worker.Link.results_delivered_once` — which results are passed on, in all states
-/

namespace LineFraming.Worker

/-- What the console and the worker do to the link. -/
inductive Contact where
  | execute (text : Text)
  | interrupt
  /-- A line of the worker is read. -/
  | hear (line : Text)
  /-- The way to the worker changes, which can still be heard. -/
  | reroute (pipe : Pipe)

/-- What becomes of commands and reports. -/
inductive Mark where
  /-- A command gets this number. -/
  | assigned (id : Nat)
  /-- A report is passed on. -/
  | passed (r : Report)

namespace Mark

/-- The number that was given to a command. -/
def assigned? : Mark → Option Nat
  | assigned id => some id
  | passed _ => none

/-- The report that was passed on. -/
def passed? : Mark → Option Report
  | assigned _ => none
  | passed r => some r

/-- The number of the result that was passed on. -/
def resultId? (m : Mark) : Option Nat := m.passed?.bind Report.id?

end Mark

/-- The report on a line of the worker, unless the line is blank or no report. -/
def report? (line : Text) : Option Report :=
  if Text.isBlank line then none else Report.read line

/-- The report that is heard. -/
def Contact.report? : Contact → Option Report
  | hear line => Worker.report? line
  | _ => none

/-- Whether a command or a line for the running program is sent. -/
def Contact.isExecute : Contact → Bool
  | execute _ => true
  | _ => false

/-- The command with this number was the last one to be numbered, and no result for it has been
passed on since. -/
def Awaited (history : List Mark) (id : Nat) : Prop :=
  ∃ before after, history = before ++ .assigned id :: after ∧
    ∀ m ∈ after, m.assigned? = none ∧ m.resultId? ≠ some id

/-! ### What is awaited -/

theorem not_awaited_nil (id : Nat) : ¬Awaited [] id := by
  rintro ⟨before, after, h, -⟩
  simp at h

/-- With one more mark, either the command has just been numbered, or the mark is neither a number
nor the result, and the command was awaited before. -/
theorem awaited_concat (history : List Mark) (m : Mark) (id : Nat) :
    Awaited (history ++ [m]) id ↔
      m = .assigned id ∨ Awaited history id ∧ m.assigned? = none ∧ m.resultId? ≠ some id := by
  constructor
  · rintro ⟨before, after, h, hafter⟩
    cases after using List.reverseRecOn with
    | nil =>
      rw [List.append_singleton_inj] at h
      exact .inl h.2
    | append_singleton after last =>
      rw [← List.cons_append, ← List.append_assoc, List.append_singleton_inj] at h
      obtain ⟨hhistory, rfl⟩ := h
      refine .inr ⟨⟨before, after, hhistory, fun k hk => hafter k (by simp [hk])⟩, ?_⟩
      exact hafter m (by simp)
  · rintro (rfl | ⟨⟨before, after, rfl, hafter⟩, hm⟩)
    · exact ⟨history, [], rfl, nofun⟩
    · refine ⟨before, after ++ [m], by simp, fun k hk => ?_⟩
      rcases List.mem_append.mp hk with hk | hk
      · exact hafter k hk
      · rw [List.mem_singleton.mp hk]
        exact hm

/-! ### What a report does to the flags -/

namespace Status

variable {s : Status} {id : Nat}

/-- The result of the outstanding command settles it. -/
theorem apply_of_pending (h : s.pendingId = some id) (more : Bool) :
    s.apply (.result id more) = (some (.response more), {}) := if_pos h

/-- Any other result is dropped. -/
theorem apply_of_not_pending (h : s.pendingId ≠ some id) (more : Bool) :
    s.apply (.result id more) = (none, s) := if_neg h

/-- What is no result is passed on, and it leaves the outstanding command alone. -/
theorem apply_of_no_result {r : Report} (h : r.id? = none) :
    (s.apply r).1 = some r.notice ∧ (s.apply r).2.executing = s.executing ∧
      (s.apply r).2.pendingId = s.pendingId := by
  cases r with
  | result id more => cases h
  | _ => exact ⟨rfl, rfl, rfl⟩

end Status

namespace Link

variable {l : Link} {line : Text}

/-- The link behind a contact. -/
def contact (l : Link) : Contact → Link
  | .execute text => (l.execute text).2
  | .interrupt => (l.send .interrupt).2
  | .hear line => (l.hear line).2
  | .reroute pipe => { l with pipe := pipe }

/-- What becomes of commands and reports in a contact. -/
def marks (l : Link) : Contact → List Mark
  | .execute text => if l.status.waiting then [] else [.assigned (l.execute text).2.lastId]
  | .hear line =>
    match report? line with
    | some r => if (l.hear line).1.isSome then [.passed r] else []
    | none => []
  | .interrupt => []
  | .reroute _ => []

/-- What becomes of them in a run. -/
def history : Link → List Contact → List Mark
  | _, [] => []
  | l, c :: cs => l.marks c ++ (l.contact c).history cs

/-- A line that is blank or no report is skipped. -/
theorem hear_of_none (h : report? line = none) : l.hear line = (none, l) := by
  rw [report?] at h
  rw [hear]
  split
  · rfl
  · rename_i hblank
    rw [if_neg hblank] at h
    rw [h]

theorem hear_of_some {r : Report} (h : report? line = some r) :
    l.hear line = ((l.status.apply r).1, { l with status := (l.status.apply r).2 }) := by
  rw [report?] at h
  split at h
  · cases h
  · rename_i hblank
    rw [hear, if_neg hblank, h]

@[simp] theorem lastId_send (l : Link) (r : Request) : (l.send r).2.lastId = l.lastId := by
  rw [send]
  split <;> rfl

theorem lastId_execute_of_waiting (h : l.status.waiting = true) (text : Text) :
    (l.execute text).2.lastId = l.lastId := by
  rw [execute_of_waiting text h, lastId_send]

theorem lastId_execute_of_not_waiting (h : l.status.waiting = false) (text : Text) :
    (l.execute text).2.lastId = l.lastId + 1 := by
  rw [execute_of_not_waiting text h, lastId_send]

/-! ### The numbers and the results -/

/-- What the link knows of the past. -/
structure Accounted (history : List Mark) (l : Link) : Prop where
  executing : l.status.executing = l.status.pendingId.isSome
  latest : ∀ id, l.status.pendingId = some id → id = l.lastId
  awaited : ∀ id, l.status.pendingId = some id ↔ Awaited history id
  assigned : history.filterMap Mark.assigned? = List.range' 1 l.lastId
  increasing : (history.filterMap Mark.resultId?).Pairwise (· < ·)
  delivered : ∀ id ∈ history.filterMap Mark.resultId?, id ≤ l.lastId ∧
    l.status.pendingId ≠ some id

namespace Accounted

variable {past : List Mark} {k : Link}

theorem fresh (pipe : Pipe) : Accounted [] { pipe := pipe } where
  executing := rfl
  latest _ h := by cases h
  awaited id := iff_of_false nofun (not_awaited_nil id)
  assigned := rfl
  increasing := .nil
  delivered _ h := by cases h

/-- The flag for waiting and the way to the worker have no part in this. -/
theorem of_eq (h : Accounted past l) (hx : k.status.executing = l.status.executing)
    (hp : k.status.pendingId = l.status.pendingId) (hl : k.lastId = l.lastId) :
    Accounted past k where
  executing := by rw [hx, hp, h.executing]
  latest := by
    rw [hp, hl]
    exact h.latest
  awaited := by
    rw [hp]
    exact h.awaited
  assigned := by rw [hl, h.assigned]
  increasing := h.increasing
  delivered := by
    rw [hp, hl]
    exact h.delivered

/-- A report that is no result is nothing to it either. -/
theorem passed (h : Accounted past l) {r : Report} (hr : r.id? = none) :
    Accounted (past ++ [.passed r]) l where
  executing := h.executing
  latest := h.latest
  awaited id := by
    rw [awaited_concat, h.awaited]
    simp [Mark.assigned?, Mark.resultId?, Mark.passed?, hr]
  assigned := by
    rw [List.filterMap_append, h.assigned]
    exact List.append_nil _
  increasing := by
    rw [List.filterMap_append]
    simpa [Mark.resultId?, Mark.passed?, hr] using h.increasing
  delivered := by
    rw [List.filterMap_append]
    simpa [Mark.resultId?, Mark.passed?, hr] using h.delivered

/-- A command gets the next number, and its result is the one that is awaited. -/
theorem assign (h : Accounted past l) (hx : k.status.executing = true)
    (hp : k.status.pendingId = some (l.lastId + 1)) (hl : k.lastId = l.lastId + 1) :
    Accounted (past ++ [.assigned (l.lastId + 1)]) k := by
  have hresults : (past ++ [Mark.assigned (l.lastId + 1)]).filterMap Mark.resultId? =
      past.filterMap Mark.resultId? := by
    simp [Mark.resultId?, Mark.passed?]
  constructor
  case executing =>
    rw [hx, hp]
    rfl
  case latest =>
    intro id hid
    rw [hp, Option.some_inj] at hid
    rw [hl, hid]
  case awaited =>
    intro id
    rw [awaited_concat, hp]
    simp [Mark.assigned?]
  case assigned =>
    rw [List.filterMap_append, h.assigned, hl, List.range'_1_concat, Nat.add_comm 1]
    rfl
  case increasing =>
    rw [hresults]
    exact h.increasing
  case delivered =>
    intro id hid
    rw [hresults] at hid
    have hle := (h.delivered id hid).1
    rw [hl, hp, Ne, Option.some_inj]
    omega

/-- The result of the outstanding command is passed on. Its number is above those of all results
before it, since no result for a number that is still outstanding has been passed on. -/
theorem settle (h : Accounted past l) {id : Nat} (hid : l.status.pendingId = some id) (more : Bool)
    (hs : k.status = {}) (hl : k.lastId = l.lastId) :
    Accounted (past ++ [.passed (.result id more)]) k := by
  have hresults : (past ++ [Mark.passed (.result id more)]).filterMap Mark.resultId? =
      past.filterMap Mark.resultId? ++ [id] := by
    simp [Mark.resultId?, Mark.passed?, Report.id?]
  have hlast : id = l.lastId := h.latest id hid
  constructor
  case executing =>
    rw [hs]
    rfl
  case latest =>
    rw [hs]
    nofun
  case awaited =>
    intro other
    rw [awaited_concat, ← h.awaited, hs, hid]
    simp [Mark.assigned?, Mark.resultId?, Mark.passed?, Report.id?]
  case assigned =>
    rw [List.filterMap_append, h.assigned, hl]
    exact List.append_nil _
  case increasing =>
    rw [hresults, List.pairwise_append]
    refine ⟨h.increasing, List.pairwise_singleton _ _, fun other ho n hn => ?_⟩
    obtain ⟨hle, hne⟩ := h.delivered other ho
    rw [hid, Ne, Option.some_inj] at hne
    rw [List.mem_singleton.mp hn]
    omega
  case delivered =>
    intro other ho
    rw [hresults, List.mem_append, List.mem_singleton] at ho
    rw [hs, hl]
    rcases ho with ho | rfl
    · exact ⟨(h.delivered other ho).1, nofun⟩
    · exact ⟨hlast.le, nofun⟩

theorem execute (h : Accounted past l) (text : Text) :
    Accounted (past ++ l.marks (.execute text)) (l.execute text).2 := by
  cases hw : l.status.waiting with
  | true =>
    have hstatus := status_execute_of_waiting text hw
    rw [marks, if_pos hw, List.append_nil]
    exact h.of_eq (by rw [hstatus]) (by rw [hstatus]) (lastId_execute_of_waiting hw text)
  | false =>
    have hstatus := status_execute_of_not_waiting text hw
    have hlast := lastId_execute_of_not_waiting hw text
    rw [marks, if_neg (by simp [hw]), hlast]
    exact h.assign (by rw [hstatus]) (by rw [hstatus]) hlast

theorem hear (h : Accounted past l) (line : Text) :
    Accounted (past ++ l.marks (.hear line)) (l.hear line).2 := by
  rw [marks]
  cases hr : report? line with
  | none =>
    rw [hear_of_none hr]
    simpa using h
  | some r =>
    rw [hear_of_some hr]
    cases hid : r.id? with
    | none =>
      obtain ⟨hpassed, hexecuting, hpending⟩ := Status.apply_of_no_result (s := l.status) hid
      rw [hpassed]
      exact (h.passed hid).of_eq hexecuting hpending rfl
    | some id =>
      obtain ⟨more, rfl⟩ := Report.eq_result hid
      by_cases hp : l.status.pendingId = some id
      · rw [Status.apply_of_pending hp]
        exact h.settle hp more rfl rfl
      · rw [Status.apply_of_not_pending hp]
        simpa using h

/-- **Every contact keeps it.** -/
theorem contact (h : Accounted past l) (c : Contact) :
    Accounted (past ++ l.marks c) (l.contact c) := by
  cases c with
  | execute text => exact h.execute text
  | hear line => exact h.hear line
  | interrupt =>
    have hstatus := l.status_send .interrupt
    rw [marks, List.append_nil]
    exact h.of_eq (by rw [Link.contact, hstatus]) (by rw [Link.contact, hstatus])
      (l.lastId_send .interrupt)
  | reroute pipe =>
    rw [marks, List.append_nil]
    exact h.of_eq rfl rfl rfl

theorem contacts (h : Accounted past l) (cs : List Contact) :
    Accounted (past ++ l.history cs) (cs.foldl Link.contact l) := by
  induction cs generalizing past l with
  | nil => simpa [history] using h
  | cons c cs ih =>
    rw [history, ← List.append_assoc]
    exact ih (h.contact c)

end Accounted

/-! ### The other reports -/

/-- All reports but results are passed on, once and in order. -/
theorem passed_reports (l : Link) (cs : List Contact) :
    ((l.history cs).filterMap Mark.passed?).filter (·.id?.isNone) =
      (cs.filterMap Contact.report?).filter (·.id?.isNone) := by
  induction cs generalizing l with
  | nil => rfl
  | cons c cs ih =>
    have hmarks : ((l.marks c).filterMap Mark.passed?).filter (·.id?.isNone) =
        c.report?.toList.filter (·.id?.isNone) := by
      cases c with
      | execute text =>
        rw [marks]
        split <;> rfl
      | interrupt => rfl
      | reroute pipe => rfl
      | hear line =>
        rw [marks, Contact.report?]
        cases hr : report? line with
        | none => rfl
        | some r =>
          rw [hear_of_some hr]
          cases hid : r.id? with
          | none =>
            rw [(Status.apply_of_no_result hid).1]
            rfl
          | some id =>
            dsimp only
            split <;> simp [Mark.passed?, hid]
    rw [history, List.filterMap_append, List.filter_append, hmarks, ih, List.filterMap_cons]
    cases c.report? with
    | none => rfl
    | some r =>
      rw [Option.toList_some, ← List.filter_append]
      rfl

/-- No more numbers are given than commands are sent. -/
theorem lastId_le (l : Link) (cs : List Contact) :
    (cs.foldl contact l).lastId ≤ l.lastId + cs.countP Contact.isExecute := by
  induction cs generalizing l with
  | nil => exact le_rfl
  | cons c cs ih =>
    have hstep : (l.contact c).lastId ≤ l.lastId + [c].countP Contact.isExecute := by
      cases c with
      | execute text =>
        cases hw : l.status.waiting with
        | true => exact (lastId_execute_of_waiting hw text).le.trans (Nat.le_add_right _ _)
        | false => exact (lastId_execute_of_not_waiting hw text).le
      | interrupt => exact (l.lastId_send .interrupt).le
      | reroute pipe => exact le_rfl
      | hear line =>
        cases hr : report? line with
        | none =>
          rw [contact, hear_of_none hr]
          exact le_rfl
        | some r =>
          rw [contact, hear_of_some hr]
          exact le_rfl
    have hrest := ih (l.contact c)
    rw [List.foldl_cons, ← List.singleton_append, List.countP_append]
    omega

/-! ### All states -/

/-- **Each result is delivered once at most, and to the last command only.** Whatever the console
sends and whatever the worker writes, in whatever order and whether requests still reach the worker
or not: a command is executing if and only if one is outstanding, and its number is not above the
last one that was given, of which there are no more than commands that were sent. A line that is
blank or no report changes nothing. A result is passed on as the response if it is awaited, and
dropped if it is not. The numbers of the results that are passed on go up. Everything else is passed
on as it is, once and in order. -/
theorem results_delivered_once (pipe : Pipe) (cs : List Contact) :
    let l := cs.foldl contact { pipe := pipe }
    let past := history { pipe := pipe } cs
    (l.status.executing = true ↔ l.status.pendingId.isSome = true) ∧
    (∀ id, l.status.pendingId = some id → id ≤ l.lastId) ∧
    (past.filterMap Mark.assigned? = List.range' 1 l.lastId ∧
      l.lastId ≤ cs.countP Contact.isExecute) ∧
    (∀ line, report? line = none → l.hear line = (none, l)) ∧
    (∀ line id more, report? line = some (.result id more) →
      (Awaited past id → (l.hear line).1 = some (.response more)) ∧
      (¬Awaited past id → (l.hear line).1 = none)) ∧
    (past.filterMap Mark.resultId?).Pairwise (· < ·) ∧
    (∀ line r, report? line = some r → r.id? = none → (l.hear line).1 = some r.notice) ∧
    (past.filterMap Mark.passed?).filter (·.id?.isNone) =
      (cs.filterMap Contact.report?).filter (·.id?.isNone) := by
  intro l past
  have h : Accounted past l := (Accounted.fresh pipe).contacts cs
  have hexecuting : l.status.executing = true ↔ l.status.pendingId.isSome = true := by
    rw [h.executing]
  have hcount : l.lastId ≤ cs.countP Contact.isExecute :=
    (lastId_le { pipe := pipe } cs).trans_eq (Nat.zero_add _)
  refine ⟨hexecuting, fun id hid => (h.latest id hid).le, ⟨h.assigned, hcount⟩,
    fun line hr => hear_of_none hr, fun line id more hr => ⟨fun ha => ?_, fun ha => ?_⟩,
    h.increasing, fun line r hr hid => ?_, passed_reports _ cs⟩
  · rw [hear_of_some hr, Status.apply_of_pending ((h.awaited id).mpr ha)]
  · rw [hear_of_some hr, Status.apply_of_not_pending fun hp => ha ((h.awaited id).mp hp)]
  · rw [hear_of_some hr]
    exact (Status.apply_of_no_result hid).1

end Link

end LineFraming.Worker
