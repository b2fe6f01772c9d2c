import LineFraming.Proofs.Framer.Composition
import LineFraming.ScriptedInterpreter

/-!
# One command at a time

The framer keeps one command in flight and queues the others behind it. Nothing is asked of the
interpreter here: it may refuse any request, and its flags may change at every request and between
two operations. So whatever keeps the commands apart has to be found in the framer alone.

A request is either a command or a line for the running program, and the flag that decides which is
read when the request is made. The slot of the command in flight is filled by a command that is
taken, and by whatever a response releases from the queue. What is handed over while the slot is
filled is a line.

## Main definitions

* `Framer.InTurn` — deeds that hand over no command while one is in flight
* `Framer.Orderly` — an operation whose deeds are in turn, and which fills the slot by them
* `Framer.Operation`, `Framer.operate` — what can be done with a framer

## Main results

* `Framer.composes_orderly` — what the user does is orderly
* `Framer.orderly_sendNext` — so is the release of a command
* `Framer.one_command_at_a_time` — behind any operations, nothing waits in the queue unless a
  command is in flight, and nothing but lines is handed over meanwhile
-/

namespace LineFraming

namespace Deed

/-- Whether a deed hands over a command, and not a line for the running program. -/
def isCommand : Deed → Bool
  | executed _ asInput _ => !asInput
  | _ => false

/-- Whether a deed hands over something that the interpreter takes. -/
def isTaken : Deed → Bool
  | executed _ _ refused => refused.isNone
  | _ => false

/-- Whether a deed hands over a command that the interpreter takes. -/
def startsCommand (d : Deed) : Bool := d.isCommand && d.isTaken

end Deed

namespace Framer

/-- Deeds that hand over no command while one is in flight. One is in flight before the deeds if
`busy`, and behind each deed that fills the slot. -/
def InTurn (fills : Deed → Bool) : Bool → List Deed → Prop
  | _, [] => True
  | busy, d :: rest => (busy = true → d.isCommand = false) ∧ InTurn fills (busy || fills d) rest

theorem InTurn.append {fills : Deed → Bool} {busy : Bool} {deeds more : List Deed}
    (h : InTurn fills busy deeds) (hm : InTurn fills (busy || deeds.any fills) more) :
    InTurn fills busy (deeds ++ more) := by
  induction deeds generalizing busy with
  | nil => simpa using hm
  | cons d deeds ih => exact ⟨h.1, ih h.2 (by simpa [Bool.or_assoc] using hm)⟩

variable {γ : Type} {f g h : Framer γ} {fills : Deed → Bool}

/-- An operation whose deeds are in turn, and which fills the slot by them. -/
structure Orderly (fills : Deed → Bool) (f g : Framer γ) : Prop where
  inOrder : f.InOrder → g.InOrder
  deeds : ∃ deeds, g.sent = f.sent ++ deeds ∧ InTurn fills f.inFlight.isSome deeds ∧
    g.inFlight.isSome = (f.inFlight.isSome || deeds.any fills)

namespace Orderly

theorem of_silent (h : Silent f g) : Orderly fills f g where
  inOrder hf := hf.of_eq h.inFlight h.queued
  deeds := ⟨[], by rw [h.sent, List.append_nil], trivial, by simp [h.inFlight]⟩

theorem trans (hfg : Orderly fills f g) (hgh : Orderly fills g h) : Orderly fills f h where
  inOrder hf := hgh.inOrder (hfg.inOrder hf)
  deeds := by
    obtain ⟨deeds, hs, ht, hi⟩ := hfg.deeds
    obtain ⟨more, hs', ht', hi'⟩ := hgh.deeds
    rw [hi] at ht' hi'
    refine ⟨deeds ++ more, by rw [hs', hs, List.append_assoc], ht.append ht', ?_⟩
    rw [hi', List.any_append, Bool.or_assoc]

/-- A deed that finds the slot free is in turn whatever it hands over. -/
theorem of_free {d : Deed} (hn : f.inFlight = none) (hg : g.InOrder) (hs : g.sent = f.sent ++ [d])
    (hi : g.inFlight.isSome = fills d) : Orderly fills f g where
  inOrder _ := hg
  deeds := ⟨[d], hs, by simp [InTurn, hn], by simp [hi, hn]⟩

/-- A line for the running program is in turn at any time. It leaves the slot alone. -/
theorem of_line {command : Text} {refused : Option Interpreter.Fault}
    (hs : g.sent = f.sent ++ [.executed command true refused]) (hi : g.inFlight = f.inFlight)
    (hq : g.queued = f.queued) : Orderly Deed.startsCommand f g where
  inOrder hf := hf.of_eq hi hq
  deeds := by
    refine ⟨_, hs, ?_, ?_⟩
    · simp [InTurn, Deed.isCommand]
    · simp [hi, Deed.startsCommand, Deed.isCommand]

end Orderly

variable [Interpreter γ]

/-! ### Sending -/

/-- A command that is sent is in flight if it is taken. If it is not, nothing waits any more. -/
theorem sent_send (hn : f.inFlight = none) (pending : PendingCommand) :
    ∃ refused, (f.send pending).sent = f.sent ++ [.executed pending.command f.isWaiting refused] ∧
      (f.send pending).inFlight.isSome = refused.isNone ∧ (f.send pending).InOrder := by
  obtain ⟨refused, hs, hr⟩ := sent_execute f pending.command
  refine ⟨refused, ?_⟩
  cases he : (f.execute pending.command).1 with
  | ok _ =>
    obtain rfl : refused = none := hr.mpr he
    rw [send_of_ok he]
    exact ⟨hs, rfl, fun hk => nomatch hk⟩
  | error fault =>
    have hrefused : refused ≠ none := fun h => by
      rw [hr.mp h] at he
      cases he
    have hsilent := silent_send_of_error he
    refine ⟨hsilent.sent.trans hs, ?_, fun _ => hsilent.queued⟩
    rw [hsilent.inFlight, show (f.execute pending.command).2.inFlight = none from hn]
    simpa [Option.ne_none_iff_isSome] using hrefused

/-- A draft that is sent while the running program waits is a line for it. -/
theorem sent_sendDraft_of_waiting (hw : f.isWaiting = true) (line : Text) : ∃ refused,
    (f.sendDraft line).sent = f.sent ++ [.executed f.draft.text true refused] := by
  obtain ⟨refused, hs, _⟩ := sent_execute { f with draft := f.draft.take.2 } f.draft.text
  refine ⟨refused, ?_⟩
  rw [(silent_sendDraft_of_waiting hw line).sent, hs, ← hw]
  rfl

theorem commands_sendDraft_of_waiting (hw : f.isWaiting = true) (line : Text) :
    (f.sendDraft line).commands = f.commands ++ [f.draft.text] := by
  obtain ⟨refused, hs⟩ := sent_sendDraft_of_waiting hw line
  rw [commands_eq_sent, hs, List.filterMap_append, ← commands_eq_sent]
  rfl

/-- A released command finds the slot free. Behind the release the queue is in order, which it need
not be before: the response has just cleared the slot. -/
theorem orderly_sendNext (hn : f.inFlight = none) :
    Orderly Deed.isTaken f f.sendNext ∧ f.sendNext.InOrder := by
  cases hq : f.queued with
  | nil =>
    rw [sendNext, hq]
    exact ⟨.of_silent (.refl f), fun _ => hq⟩
  | cons next rest =>
    obtain ⟨k, hk, _, he⟩ := exists_sendNext hq
    obtain ⟨refused, hs, hi, ho⟩ := sent_send (hk.inFlight.trans hn) next
    rw [hk.sent, ← he] at hs
    rw [← he] at hi ho
    exact ⟨.of_free hn ho hs hi, ho⟩

/-- A draft becomes a line at any time, but a command that is handed over only while the slot is
free. -/
theorem orderly_sendDraft (f : Framer γ) (line : Text) :
    Orderly Deed.startsCommand f (f.sendDraft line) := by
  cases hw : f.isWaiting with
  | true =>
    obtain ⟨refused, hs⟩ := sent_sendDraft_of_waiting hw line
    have hsilent := silent_sendDraft_of_waiting hw line
    exact .of_line hs hsilent.inFlight hsilent.queued
  | false =>
    obtain ⟨k, hk, _, he⟩ := exists_sendDraft hw line
    rw [he]
    split
    · rename_i hbusy
      have hi : k.inFlight.isSome = true := hk.inFlight ▸ hbusy
      refine ⟨fun _ hn => ?_, [], ?_, trivial, ?_⟩
      · rw [show k.inFlight = none from hn] at hi
        cases hi
      · rw [List.append_nil]
        exact hk.sent
      · simpa [hbusy] using hi
    · rename_i hn
      rw [Option.not_isSome_iff_eq_none] at hn
      obtain ⟨refused, hs, hi, ho⟩ := sent_send (hk.inFlight.trans hn) ⟨f.draft.text, line⟩
      rw [hk.sent, hk.isWaiting, hw] at hs
      exact .of_free hn ho hs hi

/-- **What the user does is orderly.** -/
theorem composes_orderly : Composes (Orderly (γ := γ) Deed.startsCommand) where
  silent := .of_silent
  trans := .trans
  sendDraft := orderly_sendDraft

/-! ### Operations -/

/-- What can be done with a framer. Between two operations the interpreter may go on by itself. -/
inductive Operation (γ : Type) where
  | submit (text : Text) (execAnyway : Bool)
  | processLine (line : Text)
  | dispatch (line : Text)
  | finish
  | respond (more : Bool)
  | reset
  | commandExecuted
  | inputRequested
  | promptRequested (prompt : Prompt)
  | proceed (interpreter : γ)

/-- The framer behind an operation. -/
def operate (f : Framer γ) : Operation γ → Framer γ
  | .submit text execAnyway => f.submit text execAnyway
  | .processLine line => f.processLine line
  | .dispatch line => f.dispatch line
  | .finish => f.finish
  | .respond more => f.respond more
  | .reset => f.reset
  | .commandExecuted => f.commandExecuted
  | .inputRequested => f.inputRequested
  | .promptRequested prompt => f.promptRequested prompt
  | .proceed g => { f with interpreter := g }

namespace Operation

/-- Whether a command is in flight when an operation begins to hand over anything. A response and a
reset clear the slot first. -/
def busy (f : Framer γ) : Operation γ → Bool
  | respond _ | reset => false
  | _ => f.inFlight.isSome

/-- The deeds by which an operation fills the slot. What a response releases was queued as a
command, so it is in flight even if the running program takes it for a line. -/
def fillsSlot : Operation γ → Deed → Bool
  | respond _ => Deed.isTaken
  | _ => Deed.startsCommand

end Operation

/-- A response clears the slot, and whatever it releases finds the slot free. -/
theorem orderly_respond (more : Bool) :
    Orderly Deed.isTaken { f with inFlight := none } (f.respond more) ∧
      (f.InOrder → (f.respond more).InOrder) := by
  cases hl : f.inFlight with
  | none =>
    rw [respond_of_none hl]
    exact ⟨.of_silent ⟨rfl, hl, rfl, rfl⟩, id⟩
  | some lastLine =>
    have hsettle := Silent.settle f lastLine more
    obtain ⟨hnext, ho⟩ := orderly_sendNext hsettle.inFlight
    rw [respond_of_some hl]
    exact ⟨(Orderly.of_silent hsettle).trans hnext, fun _ => ho⟩

/-- **Every operation keeps the queue in order and hands over commands in turn.** -/
theorem operate_inTurn (hf : f.InOrder) (o : Operation γ) :
    (f.operate o).InOrder ∧ ∃ deeds, (f.operate o).sent = f.sent ++ deeds ∧
      InTurn o.fillsSlot (o.busy f) deeds ∧
      (f.operate o).inFlight.isSome = (o.busy f || deeds.any o.fillsSlot) := by
  have hkept {g : Framer γ} (h : Orderly Deed.startsCommand f g) := And.intro (h.inOrder hf) h.deeds
  cases o with
  | submit text execAnyway => exact hkept (composes_orderly.submit f text execAnyway)
  | processLine line => exact hkept (composes_orderly.processLine f line)
  | dispatch line => exact hkept (composes_orderly.dispatch f line)
  | finish => exact hkept (composes_orderly.finish f)
  | commandExecuted => exact hkept (.of_silent (.commandExecuted f))
  | inputRequested => exact hkept (.of_silent (.inputRequested f))
  | promptRequested prompt => exact hkept (.of_silent (silent_cue f _))
  | proceed g => exact hkept ⟨id, [], (List.append_nil _).symm, trivial, by simp [operate]⟩
  | reset =>
    have hreset : Orderly Deed.startsCommand { f with inFlight := none, queued := [] } f.reset :=
      .of_silent (.reset f)
    exact ⟨hreset.inOrder fun _ => rfl, hreset.deeds⟩
  | respond more =>
    obtain ⟨⟨_, hdeeds⟩, ho⟩ := orderly_respond (f := f) more
    exact ⟨ho hf, hdeeds⟩

theorem inOrder_operations (hf : f.InOrder) (os : List (Operation γ)) :
    (os.foldl operate f).InOrder := by
  induction os generalizing f with
  | nil => exact hf
  | cons o os ih => exact ih (operate_inTurn hf o).1

/-- **One command at a time.** Behind any operations on a new framer, whatever the interpreter does:
nothing waits in the queue unless a command is in flight, so the framer is busy just then; and
whatever a further operation hands over while a command is in flight is a line for the running
program. -/
theorem one_command_at_a_time (g : γ) (screen : Screen) (indentation : Indentation)
    (os : List (Operation γ)) :
    let f : Framer γ :=
      os.foldl operate { interpreter := g, screen := screen, indentation := indentation }
    (f.queued ≠ [] → f.inFlight.isSome = true) ∧ f.isBusy = f.inFlight.isSome ∧
      ∀ o : Operation γ, ∃ deeds, (f.operate o).sent = f.sent ++ deeds ∧
        InTurn o.fillsSlot (o.busy f) deeds ∧
        (f.operate o).inFlight.isSome = (o.busy f || deeds.any o.fillsSlot) := by
  intro f
  have hf : f.InOrder := inOrder_operations (fun _ => rfl) os
  have hqueue : f.queued ≠ [] → f.inFlight.isSome = true := fun hq => by
    rw [← Option.ne_none_iff_isSome]
    exact fun hn => hq (hf hn)
  refine ⟨hqueue, ?_, fun o => (operate_inTurn hf o).2⟩
  cases hi : f.inFlight with
  | none => simp [isBusy, hi, hf hi]
  | some lastLine => simp [isBusy, hi]

/-- A block is pasted with a line behind it that closes it. -/
def pastedBlock : List (Operation ScriptedInterpreter) :=
  [.submit ['i', 'f', ':', '\n', ' ', 'a', '\n', 'b'] false]

/-- The line waits behind the block, which is in flight. -/
theorem one_command_at_a_time_pastedBlock :
    let f : Framer ScriptedInterpreter := pastedBlock.foldl operate { interpreter := {} }
    f.queued ≠ [] ∧ f.inFlight.isSome = true ∧ f.isBusy = true := by
  have hq : (pastedBlock.foldl operate { interpreter := {} }).queued ≠ [] := by decide
  obtain ⟨hslot, hbusy, _⟩ := one_command_at_a_time ({} : ScriptedInterpreter) {} {} pastedBlock
  exact ⟨hq, hslot hq, hbusy.trans (hslot hq)⟩

end Framer

end LineFraming
