import LineFraming.Proofs.Framer.Slot
import LineFraming.Worker.Link

/-!
# What backs a command in flight

A command in flight is backed by the number under which the link expects its result. Here the link
need not be connected: a request may be taken and read, taken and lost, or refused. In each case the
flags of the link change before the request is sent, so a command that gets into the slot has a
number, whatever becomes of the request.

There is one exception. A response releases the oldest command of the queue without asking whether
the running program waits for a line. If it does, the link takes the command for that line: it gets
no number, and the framer puts it into the slot.

## Main definitions

* `Framer.Backed` — an operation that puts nothing into the slot without a number
* `Framer.Misdirects` — the next response releases a command that will be taken for a line

## Main results

* `Framer.composes_backed` — what the user does is backed
* `Framer.backed_respond`, `Framer.unbacked_respond` — so is a response, unless it misdirects a
  command
-/

namespace LineFraming

namespace Worker.Link

variable (l : Link) (text : Text)

@[simp] theorem status_send (r : Request) : (l.send r).2.status = l.status := by
  rw [send]
  split <;> rfl

theorem pipe_send_of_closed (r : Request) (h : l.pipe = .closed) :
    (l.send r).2.pipe = .closed := by
  rw [send, h]
  exact h

theorem fst_send (r : Request) : (l.send r).1 = .ok () ↔ l.pipe ≠ .closed := by
  rw [send]
  split <;> simp_all

/-- A line for the running program is no command: it gets no number. -/
theorem execute_of_waiting {l : Link} (h : l.status.waiting = true) :
    l.execute text = { l with status := { l.status with waiting := false } }.send (.stdin text) :=
  if_pos h

/-- A command gets the next number before it is sent. -/
theorem execute_of_not_waiting {l : Link} (h : l.status.waiting = false) :
    l.execute text = { l with
      lastId := l.lastId + 1
      status := { l.status with executing := true, pendingId := some (l.lastId + 1) } }.send
        (.execute (l.lastId + 1) text) :=
  if_neg (by simp [h])

theorem status_execute_of_waiting {l : Link} (h : l.status.waiting = true) :
    (l.execute text).2.status = { l.status with waiting := false } := by
  rw [execute_of_waiting text h, status_send]

theorem status_execute_of_not_waiting {l : Link} (h : l.status.waiting = false) :
    (l.execute text).2.status =
      { l.status with executing := true, pendingId := some (l.lastId + 1) } := by
  rw [execute_of_not_waiting text h, status_send]

theorem pipe_execute_of_closed {l : Link} (h : l.pipe = .closed) :
    (l.execute text).2.pipe = .closed := by
  cases hw : l.status.waiting with
  | true =>
    rw [execute_of_waiting text hw]
    exact pipe_send_of_closed _ _ h
  | false =>
    rw [execute_of_not_waiting text hw]
    exact pipe_send_of_closed _ _ h

/-- Whether a request is taken rests on the way it goes, not on what it asks. -/
theorem fst_execute : (l.execute text).1 = .ok () ↔ l.pipe ≠ .closed := by
  cases hw : l.status.waiting with
  | true =>
    rw [execute_of_waiting text hw]
    exact fst_send _ _
  | false =>
    rw [execute_of_not_waiting text hw]
    exact fst_send _ _

end Worker.Link

namespace Framer

open Worker

variable {f g h : Framer Link}

/-- The number under which the link expects a result. -/
def pendingId (f : Framer Link) : Option Nat := f.interpreter.status.pendingId

/-- Requests are refused. -/
def Closed (f : Framer Link) : Prop := f.interpreter.pipe = .closed

/-- A running program that waits for a line is one whose result is expected. -/
def Expects (f : Framer Link) : Prop := f.isWaiting = true → f.pendingId.isSome = true

/-- An operation that keeps a filled slot and its number as they are, and fills a free one with a
command that has a number. -/
structure Backed (f g : Framer Link) : Prop where
  closed : f.Closed → g.Closed
  expects : f.Expects → g.Expects
  kept : f.inFlight.isSome = true → g.inFlight = f.inFlight ∧ g.pendingId = f.pendingId
  filled : f.inFlight = none → g.inFlight.isSome = true → g.pendingId.isSome = true

namespace Backed

/-- The slot is left alone, and so is the number. -/
theorem of_kept (hc : f.Closed → g.Closed) (he : f.Expects → g.Expects)
    (hi : g.inFlight = f.inFlight) (hp : g.pendingId = f.pendingId) : Backed f g where
  closed := hc
  expects := he
  kept _ := ⟨hi, hp⟩
  filled hn hs := by
    rw [hi, hn] at hs
    cases hs

/-- What leaves the link and the slot alone is backed, whatever becomes of the queue. -/
theorem of_eq (hl : g.interpreter = f.interpreter) (hi : g.inFlight = f.inFlight) :
    Backed f g := by
  refine of_kept ?_ ?_ hi ?_
  · exact fun hc => by rwa [Closed, hl]
  · exact fun he => by rwa [Expects, isWaiting, pendingId, hl]
  · rw [pendingId, hl, pendingId]

theorem of_silent (h : Silent f g) : Backed f g := of_eq h.interpreter h.inFlight

theorem trans (hfg : Backed f g) (hgh : Backed g h) : Backed f h where
  closed hc := hgh.closed (hfg.closed hc)
  expects he := hgh.expects (hfg.expects he)
  kept hs := by
    obtain ⟨hi, hp⟩ := hfg.kept hs
    obtain ⟨hi', hp'⟩ := hgh.kept (hi ▸ hs)
    exact ⟨hi'.trans hi, hp'.trans hp⟩
  filled hn hs := by
    cases hg : g.inFlight with
    | none => exact hgh.filled hg hs
    | some lastLine =>
      have hsome : g.inFlight.isSome = true := by rw [hg]; rfl
      rw [(hgh.kept hsome).2]
      exact hfg.filled hn hsome

end Backed

/-! ### Handing over -/

/-- A line for the running program changes neither the slot nor the number. -/
theorem backed_execute_of_waiting (hw : f.isWaiting = true) (command : Text) :
    Backed f (f.execute command).2 := by
  have hstatus := Link.status_execute_of_waiting command hw
  refine .of_kept (fun hc => Link.pipe_execute_of_closed command hc) (fun _ hg => ?_) rfl ?_
  · have hno : (f.execute command).2.isWaiting = false := congrArg Status.waiting hstatus
    rw [hno] at hg
    cases hg
  · exact (congrArg Status.pendingId hstatus :)

/-- A command has a number before it is sent, unless it is taken for a line. A link that refuses
requests takes it for nothing. -/
theorem backed_send (hn : f.inFlight = none) (hw : f.isWaiting = true → f.Closed)
    (pending : PendingCommand) : Backed f (f.send pending) := by
  cases hwait : f.isWaiting with
  | true =>
    have hline := backed_execute_of_waiting hwait pending.command
    cases he : (f.execute pending.command).1 with
    | ok _ => exact absurd (hw hwait) ((Link.fst_execute f.interpreter pending.command).mp he)
    | error fault =>
      have hsilent := silent_send_of_error he
      exact hline.trans (.of_eq hsilent.interpreter hsilent.inFlight)
  | false =>
    have hp : (f.execute pending.command).2.pendingId.isSome = true := by
      rw [pendingId, interpreter_execute]
      exact congrArg (fun s : Status => s.pendingId.isSome)
        (Link.status_execute_of_not_waiting pending.command hwait)
    have hback {k : Framer Link} (hk : k.interpreter = (f.execute pending.command).2.interpreter) :
        Backed f k := by
      have hkp : k.pendingId.isSome = true := by rwa [pendingId, hk]
      refine ⟨fun hc => ?_, fun _ _ => hkp, fun hs => ?_, fun _ _ => hkp⟩
      · rw [Closed, hk]
        exact Link.pipe_execute_of_closed pending.command hc
      · rw [hn] at hs
        cases hs
    cases he : (f.execute pending.command).1 with
    | ok _ =>
      rw [send_of_ok he]
      exact hback rfl
    | error fault => exact hback (silent_send_of_error he).interpreter

theorem backed_sendDraft (f : Framer Link) (line : Text) : Backed f (f.sendDraft line) := by
  cases hw : f.isWaiting with
  | true =>
    have hdraft := Silent.of_draft f f.draft.take.2
    have hline := backed_execute_of_waiting (hdraft.isWaiting.trans hw) f.draft.text
    exact (Backed.of_silent hdraft).trans
      (hline.trans (.of_silent (silent_sendDraft_of_waiting hw line)))
  | false =>
    obtain ⟨k, hk, _, he⟩ := exists_sendDraft hw line
    have hidle : k.isWaiting = false := hk.isWaiting.trans hw
    rw [he]
    split
    · exact (Backed.of_silent hk).trans (.of_eq rfl rfl)
    · rename_i hn
      rw [Option.not_isSome_iff_eq_none] at hn
      refine (Backed.of_silent hk).trans (backed_send (hk.inFlight.trans hn) (fun ht => ?_) _)
      exact absurd (hidle.symm.trans ht) Bool.false_ne_true

/-- **What the user does is backed.** -/
theorem composes_backed : Composes Backed where
  silent := .of_silent
  trans := .trans
  sendDraft := backed_sendDraft

/-- The wish to abort is sent, and has no number. -/
theorem backed_interrupt (f : Framer Link) : Backed f f.interrupt.2 := by
  have hstatus := Link.status_send f.interpreter .interrupt
  refine .of_kept (fun hc => Link.pipe_send_of_closed _ _ hc) (fun he hw => ?_) rfl ?_
  · have hp := he ((congrArg Status.waiting hstatus).symm.trans hw)
    exact (congrArg (fun s : Status => s.pendingId.isSome) hstatus).trans hp
  · exact (congrArg Status.pendingId hstatus :)

/-! ### Responses -/

/-- The next response releases a command, and the link takes it for the line that the running
program waits for. -/
def Misdirects (f : Framer Link) : Prop :=
  f.inFlight.isSome = true ∧ f.queued ≠ [] ∧ f.isWaiting = true ∧ ¬f.Closed

/-- **A response puts nothing into the slot without a number, unless it misdirects a command.** -/
theorem backed_respond (hm : ¬f.Misdirects) (more : Bool) :
    Backed { f with inFlight := none } (f.respond more) := by
  cases hl : f.inFlight with
  | none =>
    rw [respond_of_none hl]
    exact .of_eq rfl hl
  | some lastLine =>
    have hsettle := Silent.settle f lastLine more
    rw [respond_of_some hl]
    refine (Backed.of_silent hsettle).trans ?_
    cases hq : (f.settle lastLine more).queued with
    | nil =>
      rw [sendNext, hq]
      exact .of_silent (.refl _)
    | cons next rest =>
      obtain ⟨k, hk, _, he⟩ := exists_sendNext hq
      have hki : k.interpreter = f.interpreter := hk.interpreter.trans hsettle.interpreter
      have hks : k.inFlight = none := hk.inFlight.trans hsettle.inFlight
      have hback : Backed (f.settle lastLine more) k := .of_eq hk.interpreter hk.inFlight
      rw [he]
      refine hback.trans (backed_send hks (fun hw => ?_) next)
      rw [isWaiting, hki] at hw
      rw [Closed, hki]
      by_contra hc
      refine hm ⟨by rw [hl]; rfl, fun hnil => ?_, hw, hc⟩
      rw [hsettle.queued, show f.queued = [] from hnil] at hq
      cases hq

/-- A misdirected command is in flight without a number. -/
theorem unbacked_respond (hm : f.Misdirects) (more : Bool) :
    (f.respond more).inFlight.isSome = true ∧ (f.respond more).pendingId = f.pendingId := by
  obtain ⟨hi, hq, hw, hc⟩ := hm
  obtain ⟨lastLine, hl⟩ := Option.isSome_iff_exists.mp hi
  have hsettle := Silent.settle f lastLine more
  obtain ⟨next, rest, hcons⟩ := List.exists_cons_of_ne_nil hq
  obtain ⟨k, hk, _, he⟩ := exists_sendNext (hsettle.queued.trans hcons)
  have hki : k.interpreter = f.interpreter := hk.interpreter.trans hsettle.interpreter
  have hkw : k.isWaiting = true := by rwa [isWaiting, hki]
  have hok : (k.execute next.command).1 = .ok () := by
    rw [fst_execute, hki]
    exact (Link.fst_execute f.interpreter next.command).mpr hc
  have hline := Link.status_execute_of_waiting next.command hkw
  rw [respond_of_some hl, he, send_of_ok hok]
  refine ⟨rfl, ?_⟩
  have hkept : (k.execute next.command).2.pendingId = k.pendingId :=
    (congrArg Status.pendingId hline :)
  exact hkept.trans (congrArg (fun l : Link => l.status.pendingId) hki)

end Framer

end LineFraming
