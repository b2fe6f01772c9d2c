import LineFraming.Proofs.Framer.Composition
import LineFraming.Worker.Link

/-!
# What an operation of the framer sends to a worker

Over a link that is connected, an operation of the framer is quiet or issues one command. Quiet
operations may send lines for the running program and interrupts, and they leave the number of the
outstanding command alone. A command is issued only while nothing is in flight, and it is in flight
afterwards; so no operation issues two.

The slot of the command in flight is never overwritten: an operation that finds it taken leaves it
as it is. Only a response clears it, and `Framer.turn_respond` starts from there.

## Main definitions

* `Framer.Quiet`, `Framer.Issues` — an operation issues no command, or one
* `Framer.Turn` — one of the two

## Main results

* `Framer.turn_submit`, `Framer.turn_interrupt`, `Framer.turn_finish` — what the user does
* `Framer.turn_respond` — a response
-/

namespace LineFraming

/-- The number of the command that a request issues. -/
def Worker.Request.commandId? : Worker.Request → Option Nat
  | execute id _ => some id
  | _ => none

namespace Framer

open Worker

variable {f g h : Framer Link}

/-- The link is connected. -/
def Connected (f : Framer Link) : Prop := f.interpreter.pipe = .connected

/-- No command is issued, and what is in flight stays there. -/
structure Quiet (f g : Framer Link) : Prop where
  connected : g.Connected
  requests : ∃ sent, g.interpreter.requests = f.interpreter.requests ++ sent ∧
    sent.filterMap Request.commandId? = []
  pendingId : g.interpreter.status.pendingId = f.interpreter.status.pendingId
  lastId : g.interpreter.lastId = f.interpreter.lastId
  inFlight : f.inFlight.isSome = true → g.inFlight = f.inFlight

/-- One command is issued, where nothing was in flight. It has the next number, and it is the one
that is outstanding and in flight. -/
structure Issues (f g : Framer Link) : Prop where
  connected : g.Connected
  requests : ∃ sent, g.interpreter.requests = f.interpreter.requests ++ sent ∧
    sent.filterMap Request.commandId? = [g.interpreter.lastId]
  pendingId : g.interpreter.status.pendingId = some g.interpreter.lastId
  lastId : g.interpreter.lastId = f.interpreter.lastId + 1
  idle : f.inFlight = none
  inFlight : g.inFlight.isSome = true

/-- An operation is quiet or issues one command. -/
inductive Turn (f g : Framer Link) : Prop where
  | quiet (h : Quiet f g)
  | issues (h : Issues f g)

/-- Where the link and the slot are left alone, nothing is sent. -/
theorem Quiet.of_eq (hc : f.Connected) (hi : g.interpreter = f.interpreter)
    (hf : g.inFlight = f.inFlight) : Quiet f g where
  connected := by
    rw [Connected, hi]
    exact hc
  requests := ⟨[], by rw [hi, List.append_nil], rfl⟩
  pendingId := by rw [hi]
  lastId := by rw [hi]
  inFlight _ := hf

/-- What two operations send one after the other. -/
theorem requests_trans {ids ids' : List Nat}
    (hfg : ∃ sent, g.interpreter.requests = f.interpreter.requests ++ sent ∧
      sent.filterMap Request.commandId? = ids)
    (hgh : ∃ sent, h.interpreter.requests = g.interpreter.requests ++ sent ∧
      sent.filterMap Request.commandId? = ids') :
    ∃ sent, h.interpreter.requests = f.interpreter.requests ++ sent ∧
      sent.filterMap Request.commandId? = ids ++ ids' := by
  obtain ⟨sent, hs, hids⟩ := hfg
  obtain ⟨more, hm, hids'⟩ := hgh
  refine ⟨sent ++ more, ?_, ?_⟩
  · rw [hm, hs, List.append_assoc]
  · rw [List.filterMap_append, hids, hids']

theorem Quiet.trans (hfg : Quiet f g) (hgh : Quiet g h) : Quiet f h where
  connected := hgh.connected
  requests := requests_trans hfg.requests hgh.requests
  pendingId := hgh.pendingId.trans hfg.pendingId
  lastId := hgh.lastId.trans hfg.lastId
  inFlight hf := by
    have hg := hfg.inFlight hf
    rw [← hg] at hf ⊢
    exact hgh.inFlight hf

/-- Behind a quiet operation the slot is as free as before. -/
theorem Quiet.trans_issues (hfg : Quiet f g) (hgh : Issues g h) : Issues f h where
  connected := hgh.connected
  requests := requests_trans hfg.requests hgh.requests
  pendingId := hgh.pendingId
  lastId := by rw [hgh.lastId, hfg.lastId]
  idle := by
    rw [← Option.not_isSome_iff_eq_none]
    intro hf
    have hg := hfg.inFlight hf
    rw [hgh.idle] at hg
    rw [← hg] at hf
    cases hf
  inFlight := hgh.inFlight

theorem Issues.trans_quiet (hfg : Issues f g) (hgh : Quiet g h) : Issues f h where
  connected := hgh.connected
  requests := by
    rw [hgh.lastId]
    exact requests_trans hfg.requests hgh.requests
  pendingId := by rw [hgh.pendingId, hfg.pendingId, hgh.lastId]
  lastId := by rw [hgh.lastId, hfg.lastId]
  idle := hfg.idle
  inFlight := by
    rw [hgh.inFlight hfg.inFlight]
    exact hfg.inFlight

namespace Turn

theorem of_eq (hc : f.Connected) (hi : g.interpreter = f.interpreter)
    (hf : g.inFlight = f.inFlight) : Turn f g := .quiet (.of_eq hc hi hf)

theorem connected (h : Turn f g) : g.Connected := by
  cases h with
  | quiet h => exact h.connected
  | issues h => exact h.connected

/-- Two operations one after the other issue one command at most: behind the first command the slot
is taken. -/
theorem trans (hfg : Turn f g) (hgh : Turn g h) : Turn f h := by
  cases hfg with
  | quiet hfg =>
    cases hgh with
    | quiet hgh => exact .quiet (hfg.trans hgh)
    | issues hgh => exact .issues (hfg.trans_issues hgh)
  | issues hfg =>
    cases hgh with
    | quiet hgh => exact .issues (hfg.trans_quiet hgh)
    | issues hgh =>
      have hsome := hfg.inFlight
      rw [hgh.idle] at hsome
      cases hsome

/-- An operation that starts from where only the screen and the draft differ. -/
theorem behind {f' : Framer Link} (h : Turn f' g) (hc : f.Connected)
    (hi : f'.interpreter = f.interpreter) (hf : f'.inFlight = f.inFlight) : Turn f g :=
  (of_eq hc hi hf).trans h

end Turn

/-! ### Handing over -/

/-- A running program that waits gets the text as a line. -/
theorem quiet_execute (hc : f.Connected) (hw : f.isWaiting = true) (command : Text) :
    (f.execute command).1 = .ok () ∧ Quiet f (f.execute command).2 := by
  have hstatus : f.interpreter.status.waiting = true := hw
  have hpipe : f.interpreter.pipe = .connected := hc
  have he : Interpreter.execute command f.interpreter = (.ok (), { f.interpreter with
      status := { f.interpreter.status with waiting := false }
      requests := f.interpreter.requests ++ [.stdin command] }) := by
    simp [Interpreter.execute, Link.execute, Link.send, hstatus, hpipe]
  rw [fst_execute, he]
  refine ⟨rfl, ?_⟩
  constructor
  case connected =>
    rw [Connected, interpreter_execute, he]
    exact hc
  case requests =>
    refine ⟨[.stdin command], ?_, rfl⟩
    rw [interpreter_execute, he]
  case pendingId => rw [interpreter_execute, he]
  case lastId => rw [interpreter_execute, he]
  case inFlight => exact fun _ => rfl

/-- A command that finds nothing in flight is issued, unless the running program takes it for a
line. -/
theorem turn_send (hc : f.Connected) (hn : f.inFlight = none) (pending : PendingCommand) :
    Turn f (f.send pending) := by
  have hpipe : f.interpreter.pipe = .connected := hc
  by_cases hw : f.isWaiting = true
  · obtain ⟨hok, hq⟩ := quiet_execute hc hw pending.command
    rw [send_of_ok hok]
    refine .quiet ⟨hq.connected, hq.requests, hq.pendingId, hq.lastId, fun hf => ?_⟩
    rw [hn] at hf
    cases hf
  · have hstatus : f.interpreter.status.waiting = false := Bool.eq_false_iff.mpr hw
    have he : Interpreter.execute pending.command f.interpreter = (.ok (), { f.interpreter with
        lastId := f.interpreter.lastId + 1
        status := { f.interpreter.status with
          executing := true, pendingId := some (f.interpreter.lastId + 1) }
        requests := f.interpreter.requests ++
          [.execute (f.interpreter.lastId + 1) pending.command] }) := by
      simp [Interpreter.execute, Link.execute, Link.send, hstatus, hpipe]
    have hok : (f.execute pending.command).1 = .ok () := by rw [fst_execute, he]
    rw [send_of_ok hok]
    apply Turn.issues
    constructor
    case connected =>
      rw [Connected, interpreter_execute, he]
      exact hc
    case requests =>
      refine ⟨[.execute (f.interpreter.lastId + 1) pending.command], ?_, ?_⟩
      · rw [interpreter_execute, he]
      · rw [interpreter_execute, he]
        rfl
    case pendingId => rw [interpreter_execute, he]
    case lastId => rw [interpreter_execute, he]
    case idle => exact hn
    case inFlight => rfl

theorem Connected.of_silent (hc : f.Connected) (h : Silent f g) : g.Connected := by
  rw [Connected, h.interpreter]
  exact hc

/-- The oldest command of the queue is released where nothing is in flight. -/
theorem turn_sendNext (hc : f.Connected) (hn : f.inFlight = none) : Turn f f.sendNext := by
  cases hq : f.queued with
  | nil =>
    rw [sendNext, hq]
    exact .of_eq hc rfl rfl
  | cons next rest =>
    obtain ⟨k, hk, _, he⟩ := exists_sendNext hq
    have hcr : Connected { f with queued := rest } := hc
    rw [he]
    have hturn := turn_send (hcr.of_silent hk) (hk.inFlight.trans hn) next
    exact hturn.behind hc hk.interpreter hk.inFlight

theorem turn_sendDraft (hc : f.Connected) (line : Text) : Turn f (f.sendDraft line) := by
  cases hw : f.isWaiting with
  | true =>
    have hcd : Connected { f with draft := f.draft.take.2 } := hc
    obtain ⟨_, hq⟩ := quiet_execute hcd hw f.draft.text
    have hsilent := silent_sendDraft_of_waiting hw line
    have hturn := (Turn.quiet hq).trans (.of_eq hq.connected hsilent.interpreter hsilent.inFlight)
    exact hturn.behind hc rfl rfl
  | false =>
    obtain ⟨k, hk, _, he⟩ := exists_sendDraft hw line
    rw [he]
    split
    · exact .of_eq hc hk.interpreter hk.inFlight
    · rename_i hn
      rw [Option.not_isSome_iff_eq_none] at hn
      refine (turn_send (hc.of_silent hk) (hk.inFlight.trans hn) _).behind hc ?_ hk.inFlight
      exact hk.interpreter

/-! ### What the user does -/

/-- Only sending a draft can issue a command, and it leaves the link connected for what follows. -/
theorem composes_turn : Composes fun f g : Framer Link => f.Connected → Turn f g where
  silent h hc := .of_eq hc h.interpreter h.inFlight
  trans hfg hgh hc := (hfg hc).trans (hgh (hfg hc).connected)
  sendDraft _ line hc := turn_sendDraft hc line

theorem turn_finish (hc : f.Connected) : Turn f f.finish := composes_turn.finish f hc

/-- **Submitted text issues one command at most.** -/
theorem turn_submit (hc : f.Connected) (text : Text) (execAnyway : Bool) :
    Turn f (f.submit text execAnyway) :=
  composes_turn.submit f text execAnyway hc

/-- An interrupt is sent, and it issues no command. -/
theorem turn_interrupt (hc : f.Connected) : Turn f f.interrupt.2 := by
  have hpipe : f.interpreter.pipe = .connected := hc
  have he : Interpreter.interrupt f.interpreter =
      (.ok (), { f.interpreter with requests := f.interpreter.requests ++ [.interrupt] }) := by
    simp [Interpreter.interrupt, Link.send, hpipe]
  have hi : f.interrupt.2.interpreter = (Interpreter.interrupt f.interpreter).2 := rfl
  apply Turn.quiet
  constructor
  case connected =>
    rw [Connected, hi, he]
    exact hc
  case requests =>
    refine ⟨[.interrupt], ?_, rfl⟩
    rw [hi, he]
  case pendingId => rw [hi, he]
  case lastId => rw [hi, he]
  case inFlight => exact fun _ => rfl

/-! ### Responses -/

/-- **A response clears the slot and issues one command at most,** the oldest of the queue. -/
theorem turn_respond (hc : f.Connected) (more : Bool) :
    Turn { f with inFlight := none } (f.respond more) := by
  have hc₀ : Connected { f with inFlight := none } := hc
  cases hl : f.inFlight with
  | none =>
    rw [respond_of_none hl]
    exact .of_eq hc₀ rfl hl
  | some lastLine =>
    have hk := Silent.settle f lastLine more
    have hnext := turn_sendNext (hc₀.of_silent hk) hk.inFlight
    rw [respond_of_some hl]
    exact hnext.behind hc₀ hk.interpreter hk.inFlight

end Framer

end LineFraming
