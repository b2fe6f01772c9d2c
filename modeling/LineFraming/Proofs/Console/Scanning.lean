import LineFraming.Proofs.Console.Run
import LineFraming.Proofs.Framer.Outcome
import LineFraming.Proofs.Framer.Rest

/-!
# No open string is ever sent

Which string is open is a mark beside the draft. A line that opens a string sets it, a line that
closes the string clears it, and nothing else is asked when a line inside a string comes. The text
of the draft knows the same without the mark: its lines, scanned in order, open and close strings.

The two never part. A line is put into the draft and looked at in the same step, so what the mark
does for the line is what the scan does for it. The empty line that completes a statement and the
line that is dropped from a blank draft toggle nothing. A response, a refusal and a request for a
line change the depth, which the scan does not read. And a draft is taken only where the mark is
clear: inside a string a line is kept or closes it.

So what is handed over, and what waits in the queue, is closed.

The interpreter never waits for a line here, since the answer to a running program is no statement.
It may refuse any command, and nothing is asked of what it reports.

## Main definitions

* `Framer.Scanned` — the mark is what the scan finds, and what was sent is closed

## Main results

* `Framer.Scanned.dispatch`, `Framer.Scanned.respond` — what a line and a response keep
* `Console.only_draft_open` — behind every run, no command holds an open string
-/

namespace LineFraming

namespace Framer

variable {γ : Type} {f g : Framer γ}

/-- The mark for the open string is what a scan of the draft finds, and a scan of what was handed
over or waits in the queue finds no string open. -/
structure Scanned (f : Framer γ) : Prop where
  ended : Text.Ended f.draft.text
  region : f.draft.region = Text.openString f.draft.text
  issued : ∀ command ∈ f.issued, Text.openString command = none

namespace Scanned

theorem fresh (g : γ) (screen : Screen) (indentation : Indentation) :
    Scanned { interpreter := g, screen := screen, indentation := indentation } where
  ended := Text.ended_nil
  region := rfl
  issued _ h := by cases h

/-- A string is open only in a draft that is not blank. -/
theorem isBlank (h : f.Scanned) (hr : f.draft.region.isSome = true) : f.draft.isBlank = false := by
  by_contra hb
  rw [Bool.not_eq_false] at hb
  rw [h.region, Text.openString_of_isBlank hb] at hr
  cases hr

/-- The depth of the draft has no part in this. -/
theorem of_silent (h : f.Scanned) (hs : Silent f g) {depth : Nat}
    (hd : g.draft = { f.draft with depth := depth }) : g.Scanned where
  ended := by
    rw [hd]
    exact h.ended
  region := by
    rw [hd]
    exact h.region
  issued := by
    rw [issued_of_eq hs.commands hs.queued]
    exact h.issued

theorem ask (h : f.Scanned) (a : Screen.Action) : (f.ask a).Scanned :=
  h.of_silent (silent_ask f a) rfl

theorem cue (h : f.Scanned) (c : Prompt.Cue) : (f.cue c).Scanned :=
  h.of_silent (silent_cue f c) (draft_cue f c)

/-- Behind a reset nothing is typed and nothing waits. -/
theorem reset (h : f.Scanned) : f.reset.Scanned := by
  have hsilent := Silent.reset f
  have hdraft : f.reset.draft = {} := by simp [Framer.reset]
  constructor
  case ended =>
    rw [hdraft]
    exact Text.ended_nil
  case region => rw [hdraft]; rfl
  case issued =>
    intro command hc
    rw [Framer.issued, hsilent.commands, hsilent.queued] at hc
    rw [List.map_nil, List.append_nil] at hc
    exact h.issued command (List.mem_append_left _ hc)

variable [Interpreter γ]

/-- The wish to abort is no command. -/
theorem interrupt (h : f.Scanned) : f.interrupt.2.Scanned where
  ended := h.ended
  region := h.region
  issued := by
    rw [issued_of_eq (commands_interrupt f) rfl]
    exact h.issued

/-! ### Sending -/

/-- A closed command may be sent; it is refused or not. -/
theorem send (h : f.Scanned) {pending : PendingCommand}
    (hc : Text.openString pending.command = none) : (f.send pending).Scanned := by
  obtain ⟨depth, hd⟩ := exists_draft_send f pending
  constructor
  case ended =>
    rw [hd]
    exact h.ended
  case region =>
    rw [hd]
    exact h.region
  case issued =>
    intro command hm
    rw [Framer.issued, commands_send, List.append_assoc, List.mem_append, List.mem_append,
      List.mem_singleton] at hm
    rcases hm with hm | rfl | hm
    · exact h.issued command (List.mem_append_left _ hm)
    · exact hc
    · rcases queued_send f pending with hq | hq
      · rw [hq] at hm
        exact h.issued command (List.mem_append_right _ hm)
      · rw [hq] at hm
        cases hm

/-- Outside strings a draft may be sent, or it waits in the queue. -/
theorem sendDraft (h : f.Scanned) (hw : f.isWaiting = false) (hr : f.draft.region = none)
    (line : Text) : (f.sendDraft line).Scanned := by
  have hclosed : Text.openString f.draft.text = none := by rw [← h.region, hr]
  obtain ⟨k, hk, hd, he⟩ := exists_sendDraft hw line
  have htaken : k.Scanned := by
    constructor
    case ended =>
      rw [hd]
      exact Text.ended_nil
    case region =>
      rw [hd]
      exact hr
    case issued =>
      rw [issued_of_eq hk.commands hk.queued]
      exact h.issued
  rw [he]
  split
  · refine ⟨htaken.ended, htaken.region, ?_⟩
    intro command hm
    rw [Framer.issued, List.map_append, ← List.append_assoc, List.mem_append] at hm
    rcases hm with hm | hm
    · have hissued : k.commands ++ f.queued.map PendingCommand.command = f.issued := by
        rw [Framer.issued, hk.commands]
      exact h.issued command (hissued ▸ hm)
    · rw [List.map_singleton, List.mem_singleton] at hm
      rw [hm]
      exact hclosed
  · exact htaken.send hclosed

/-- The oldest command of the queue is closed. -/
theorem sendNext (h : f.Scanned) : f.sendNext.Scanned := by
  cases hq : f.queued with
  | nil =>
    rw [Framer.sendNext, hq]
    exact h
  | cons next rest =>
    have hmem (command : Text) (hm : command ∈ (next :: rest).map PendingCommand.command) :
        Text.openString command = none := by
      rw [← hq] at hm
      exact h.issued command (List.mem_append_right _ hm)
    obtain ⟨k, hk, hd, he⟩ := exists_sendNext hq
    have hrest : Scanned { f with queued := rest } := by
      refine ⟨h.ended, h.region, ?_⟩
      intro command hm
      rcases List.mem_append.mp hm with hm | hm
      · exact h.issued command (List.mem_append_left _ hm)
      · exact hmem command (List.mem_cons_of_mem _ hm)
    have hdepth : k.draft = { f.draft with depth := f.draft.depth } := hd
    rw [he]
    exact (hrest.of_silent hk hdepth).send (hmem next.command List.mem_cons_self)

/-! ### Typed text -/

section NeverWaits

variable [Interpreter.NeverWaits γ]

/-- Whatever a line outside strings leads to, the draft is kept as it is or sent. -/
theorem conclude (h : f.Scanned) (hr : f.draft.region = none) (line : Text) (kind : LineKind) :
    (f.conclude line kind).Scanned := by
  refine conclude_cases ?continued ?indented ?nothing ?sent
  case continued => exact fun _ => h.cue .moreLines
  case indented =>
    exact fun depth _ => h.of_silent (.requestMore f depth) (draft_requestMore f depth)
  case nothing => exact fun _ => h
  case sent => exact fun _ => h.sendDraft (isWaiting_eq_false f) hr line

/-- **A line is put into the draft, and the mark follows the scan.** The cases are those of the
scan: inside a string the line closes it or not, outside it opens one or not. -/
theorem dispatch (h : f.Scanned) {line l : Text} (hn : '\n' ∉ line) (hl : Dispatched line l) :
    (f.dispatch l).Scanned := by
  have hscan : Text.openString (f.draft.append l).text = TripleQuote.after f.draft.region l := by
    rw [h.region]
    exact Draft.openString_append h.ended hn hl
  have hended : Text.Ended (f.draft.append l).text := by
    rw [Draft.text_append]
    exact h.ended.append (f.draft.ended_addition l)
  -- Behind the line that was put into the draft, only the mark is still to be shown.
  have hput {k : Framer γ} (hs : Silent { f with draft := f.draft.append l } k)
      (ht : k.draft.text = (f.draft.append l).text)
      (hk : k.draft.region = TripleQuote.after f.draft.region l) : k.Scanned := by
    refine ⟨ht ▸ hended, ?_, ?_⟩
    · rw [hk, ht, hscan]
    · rw [issued_of_eq hs.commands hs.queued]
      exact h.issued
  cases hr : f.draft.region with
  | some style =>
    rw [hr] at hput
    rw [dispatch_of_region hr]
    dsimp only
    split
    · rename_i ht
      refine (hput (.setRegion _ none _ _) ?_ ?_).conclude ?_ l _
      · simp [Draft.text]
      · simp [TripleQuote.after, ht]
      · simp
    · rename_i ht
      refine hput (.refl _) rfl ?_
      simp [TripleQuote.after, ht, hr]
  | none =>
    rw [hr] at hput
    rw [dispatch_of_no_region hr]
    dsimp only
    cases ho : TripleQuote.openedBy l with
    | some style =>
      refine hput (.setRegion _ (some style) _ _) ?_ ?_
      · simp [Draft.text]
      · simp [TripleQuote.after, ho]
    | none =>
      have hregion : (f.draft.append l).region = none := by rw [Draft.region_append, hr]
      have hnone : Scanned { f with draft := f.draft.append l } := by
        refine hput (.refl _) rfl ?_
        rw [hregion, TripleQuote.after, ho]
      exact hnone.conclude hregion l _

theorem finish (h : f.Scanned) : f.finish.Scanned :=
  finish_induction (p := Scanned) (fun _ hg => hg.dispatch List.not_mem_nil .empty)
    (fun _ hg => hg.ask _) h

theorem submit (h : f.Scanned) (text : Text) (execAnyway : Bool) :
    (f.submit text execAnyway).Scanned :=
  submit_induction (p := Scanned) (fun _ _ _ hn hl hg => hg.dispatch hn hl)
    (fun _ hg => hg.ask _) h text execAnyway

end NeverWaits

/-- **A response** may come while a string is open. It changes the depth and releases a command
that is closed. -/
theorem respond (h : f.Scanned) (more : Bool) : (f.respond more).Scanned := by
  cases hl : f.inFlight with
  | none =>
    rw [respond_of_none hl]
    exact h
  | some lastLine =>
    obtain ⟨depth, hd, _⟩ := exists_draft_settle f lastLine more
    have hcleared : Scanned { f with inFlight := none } := ⟨h.ended, h.region, h.issued⟩
    rw [respond_of_some hl]
    exact (hcleared.of_silent (.settle f lastLine more) hd).sendNext

end Scanned

end Framer

namespace Console

variable {γ : Type} [Interpreter γ] [Interpreter.NeverWaits γ] {c : Console γ}

open Framer (Scanned)

/-- Every act keeps the mark with the scan. -/
theorem scanned_act (h : c.framer.Scanned) (a : Act γ) : (c.act a).framer.Scanned := by
  have hsubmit (text : Text) (execAnyway : Bool) :
      (c.submit text execAnyway).2.framer.Scanned := by
    obtain ⟨refusal, hr⟩ | hr := c.submit_cases text execAnyway
    · rw [hr]
      exact h
    · rw [hr]
      exact h.submit text execAnyway
  cases a with
  | enter line => exact hsubmit line false
  | run text => exact hsubmit text true
  | proceed g => exact ⟨h.ended, h.region, h.issued⟩
  | interrupt =>
    rcases c.framer_interrupt with he | he
    · rw [act, he]
      exact h.interrupt
    · rw [act, he]
      exact h.interrupt.finish
  | notice n =>
    cases n with
    | ready => exact h
    | response more => exact h.respond more
    | executed => exact h.cue _
    | inputRequested =>
      have hdraft : c.framer.inputRequested.draft = { c.framer.draft with depth := 1 } := by
        simp [Framer.inputRequested]
      exact h.of_silent (.inputRequested _) hdraft
    | promptRequested prompt => exact h.cue _
    | output stream text => exact h.ask (.writeOutput stream text)
    | exited code => exact h.reset.ask (.showHint (exitHint code))

theorem scanned_acts (h : c.framer.Scanned) (acts : List (Act γ)) :
    (acts.foldl act c).framer.Scanned := by
  induction acts generalizing c with
  | nil => exact h
  | cons a acts ih => exact ih (scanned_act h a)

/-- **No open string is ever sent.** Behind every run of a fresh console whose interpreter never
waits for a line, whatever that refuses and reports: the open string is the one that a scan of the
lines in the draft finds, and a scan of a command that was handed over, or that waits in the queue,
finds none. -/
theorem only_draft_open (g : γ) (screen : Screen) (indentation : Indentation) (capacity : Nat)
    (acts : List (Act γ)) :
    let framer := (acts.foldl act (fresh g screen indentation capacity)).framer
    framer.draft.region = TripleQuote.afterLines none (Text.lines framer.draft.text) ∧
      (∀ command ∈ framer.commands, TripleQuote.afterLines none (Text.lines command) = none) ∧
      ∀ pending ∈ framer.queued,
        TripleQuote.afterLines none (Text.lines pending.command) = none := by
  intro framer
  have h : framer.Scanned := scanned_acts (.fresh g screen indentation) acts
  refine ⟨h.region, ?_, ?_⟩
  · intro command hc
    exact h.issued command (List.mem_append_left _ hc)
  · intro pending hp
    exact h.issued pending.command (List.mem_append_right _ (List.mem_map_of_mem hp))

/-- A string over two lines is in flight, one on a single line waits in the queue, and a third one
is open when the program asks for a line and the first command is answered. -/
def openedString : List (Act Obliging) :=
  [.notice .ready,
    .enter ['\x27', '\x27', '\x27', '\n', 'a', '\x27', '\x27', '\x27', '\n', 'b', '\n',
      '\x27', '\x27', '\x27', 'c'],
    .notice .inputRequested, .notice (.response false)]

/-- Both commands are closed, and the string in the draft is still open. -/
theorem only_draft_open_openedString :
    let framer := (openedString.foldl act (fresh ({} : Obliging) {} {} 8)).framer
    framer.commands.length = 2 ∧ framer.draft.region = some .single ∧
      TripleQuote.afterLines none (Text.lines framer.draft.text) = some .single ∧
      ∀ command ∈ framer.commands, TripleQuote.afterLines none (Text.lines command) = none := by
  intro framer
  have hlength : framer.commands.length = 2 := by decide
  have hregion : framer.draft.region = some .single := by decide
  obtain ⟨hscan, hclosed, _⟩ := only_draft_open ({} : Obliging) {} {} 8 openedString
  exact ⟨hlength, hregion, hscan.symm.trans hregion, hclosed⟩

end Console

end LineFraming
