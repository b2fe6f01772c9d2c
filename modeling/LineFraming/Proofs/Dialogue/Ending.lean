import LineFraming.Proofs.Dialogue.Rendering
import LineFraming.Proofs.Framer.Grounds

/-!
# The end of the input

When the input has ended, the loop goes on until no command is in flight or queued. So it does not
end in the middle of a command. It may end in the middle of a statement: whether something is being
typed is not asked, and what is in the draft then is never executed.

That can only be a statement that is unfinished, as its text shows: a string is open, its last line
is joined with the next one, or one of its lines opens a block. Or the interpreter holds a block
open that the draft belongs to. All other lines that were taken are in commands, and since nothing
is queued these were handed over.

Nothing is said of why a draft is there if one of its lines was typed while a response was
outstanding, or if since nothing was open last the running program asked for a line or was given
one. The depth need not be that of the draft then.

Lines are read without an editor here. The interpreter takes every command, but it may wait for
lines and move on its own at any time, and nothing is asked of what it reports.

## Main definitions

* `Dialogue.entered`, `Dialogue.accepted` — the lines that were taken, with their indentation
* `Dialogue.background` — what bears on the draft behind a run
* `Dialogue.Attends` — the loop goes on while a command is in flight
* `Dialogue.Serves` — what holds in all states of the loop

## Main results

* `Dialogue.moves_happen` — what an event does to the typed lines
* `Dialogue.nothing_half_done` — what is left when the input has ended
* `Dialogue.exists_dropped` — a block, a joined line and a held block that are left
* `Dialogue.exists_complete_dropped` — complete statements that are left
-/

namespace LineFraming

open Framer (Background Explained Aside Stores Moves)

namespace Console

variable {γ : Type} [Interpreter γ] [Interpreter.NeverRefuses γ]

theorem moves_enter (c : Console γ) (line : Text) :
    Moves (c.taken (.enter line)) none false c.framer (c.enter line).2.framer := by
  rw [taken, enter]
  obtain ⟨refusal, hr⟩ | hr := c.submit_cases line false
  · rw [hr]
    exact .of_aside (.refl _)
  · rw [hr]
    exact .submit c.framer line

theorem moves_interrupt (c : Console γ) : Moves [] none false c.framer c.interrupt.2.framer := by
  have haside := Aside.interrupt c.framer
  rcases c.framer_interrupt with he | he
  · rw [he]
    exact .of_aside haside
  · rw [he]
    exact (Moves.finish _).behind haside

end Console

namespace Dialogue

variable {γ : Type} {d : Dialogue γ}

/-! ### Rounds -/

theorem aside_conclude (d : Dialogue γ) (outcome : Except Refusal Unit × Console γ) :
    Aside outcome.2.framer (d.conclude outcome).console.framer := by
  rw [conclude]
  split
  · exact .refl _
  · exact .ask outcome.2.framer (.showHint _)

theorem aside_settle (h : d.editor = none) :
    Aside d.console.framer d.settle.console.framer := by
  have hshown := Aside.renderPrompt d.console.framer
  rw [settle]
  split
  · exact .refl _
  · rw [h]
    dsimp only
    split
    · rename_i framer he
      rwa [he] at hshown
    · rename_i cause framer he
      rwa [he] at hshown

theorem console_close (d : Dialogue γ) : d.close.console = d.console := by
  rw [close]
  split <;> rfl

theorem editor_close (d : Dialogue γ) : d.close.editor = d.editor := by
  rw [close]
  split <;> rfl

theorem exited_close (d : Dialogue γ) : d.close.exited = d.exited := by
  rw [close]
  split <;> rfl

theorem exited_settle (h : d.editor = none) : d.settle.exited = d.exited := by
  rw [settle]
  split
  · rfl
  · rw [h]
    dsimp only
    split <;> rfl

/-- There is no editor, and the loop has not ended while a command is in flight, unless the
interpreter is gone. -/
structure Attends (d : Dialogue γ) : Prop where
  editor : d.editor = none
  ended : d.result = some (.ok ()) → d.exited = true ∨ d.console.framer.isBusy = false

namespace Attends

theorem of_going (he : d.editor = none) (hr : d.result ≠ some (.ok ())) : Attends d :=
  ⟨he, fun hend => absurd hend hr⟩

/-- The loop ends when the interpreter is gone, or with nothing in flight. -/
theorem close (h : Attends d) : Attends d.close := by
  rw [Dialogue.close]
  split
  · rename_i hend
    refine ⟨h.editor, fun _ => ?_⟩
    rw [Bool.or_eq_true, Bool.and_eq_true, Bool.and_eq_true] at hend
    exact hend.imp And.left fun hidle => by simpa using hidle.2
  · exact h

theorem settle (h : Attends d) : Attends d.settle := by
  rw [Dialogue.settle]
  split
  · exact h
  · rename_i hgoes
    have hr : d.result = none := by
      rw [Bool.or_eq_true, not_or] at hgoes
      simpa using hgoes.1
    rw [h.editor]
    dsimp only
    split
    · exact .of_going h.editor (by simp [withFramer, hr])
    · exact .of_going h.editor (by simp)

end Attends

/-- What holds in all states of the loop: as long as the interpreter is there, no line that was
taken is lost, and what bears on the draft explains it. -/
structure Serves (entered : List Text) (b : Background) (d : Dialogue γ) : Prop
    extends Attends d where
  stores : d.exited = false → d.console.framer.Stores (entered.flatMap Text.content)
  explained : d.exited = false → (∀ text ∈ entered, '\n' ∉ text) → b.asked = false →
    d.console.framer.Explained b.more b.ahead

theorem Serves.start (g : γ) (screen : Screen) (indentation : Indentation) (capacity : Nat)
    (enabled : Bool) :
    Serves [] {} (Dialogue.start
      { Console.fresh g screen indentation capacity with enabled := enabled } none) := by
  have hfresh : Attends { console :=
      { Console.fresh g screen indentation capacity with enabled := enabled } } :=
    .of_going rfl (by simp)
  have haside := aside_settle hfresh.editor
  exact ⟨hfresh.settle, fun _ => haside.stores ⟨Text.ended_nil, .refl _⟩,
    fun _ _ _ => haside.explained (.of_closed rfl rfl rfl)⟩

/-- Whether the loop goes on without an occurrence. -/
def ignores (d : Dialogue γ) (o : Occurrence) : Bool := d.result.isSome || !d.takes o

theorem result_of_taken {o : Occurrence} (h : d.ignores o = false) : d.result = none := by
  rw [ignores, Bool.or_eq_false_iff] at h
  simpa using h.1

variable [Interpreter γ]

theorem happen_of_ignored {o : Occurrence} (h : d.ignores o = true) :
    d.happen (.occurs o) = d :=
  if_pos h

theorem happen_of_taken {o : Occurrence} (h : d.ignores o = false) :
    d.happen (.occurs o) = (d.apply o).close.settle :=
  if_neg (ne_true_of_eq_false h)

theorem Attends.happen (h : Attends d) (e : Event γ) : Attends (d.happen e) := by
  cases e with
  | proceed g => exact ⟨h.editor, h.ended⟩
  | occurs o =>
    cases ho : d.ignores o with
    | true =>
      rw [happen_of_ignored ho]
      exact h
    | false =>
      have hround := d.round_apply o
      rw [happen_of_taken ho]
      exact (of_going (hround.editor.trans h.editor)
        (by simp [hround.result, result_of_taken ho])).close.settle

/-- The line that an event enters, with the indentation in front of it, if it is taken. -/
def entered (d : Dialogue γ) : Event γ → List Text
  | .occurs (.line text) =>
    if d.ignores (.line text) || d.exited then []
    else
      (d.withFramer d.console.framer.lineSubmitted.takeIndent.2).console.taken
        (.enter (Prefill.merge d.console.framer.indentation d.merged text))
  | _ => []

/-- Whether the interpreter asks for more lines, if it responds to the command in flight. -/
def response? (d : Dialogue γ) : Event γ → Option Bool
  | .occurs (.notice (.response more)) =>
    if d.ignores (.notice (.response more)) || d.console.framer.inFlight.isNone then none
    else some more
  | _ => none

/-- Whether the running program asks for a line. -/
def asks (d : Dialogue γ) : Event γ → Bool
  | .occurs (.notice .inputRequested) => !d.ignores (.notice .inputRequested)
  | _ => false

/-- The lines that were taken in a run, in order. -/
def accepted : Dialogue γ → List (Event γ) → List Text
  | _, [] => []
  | d, e :: events => d.entered e ++ (d.happen e).accepted events

/-- What bears on the draft behind an event. -/
def behind (d : Dialogue γ) (b : Background) (e : Event γ) : Background :=
  b.after (d.entered e) (d.response? e) (d.asks e) d.console.framer (d.happen e).console.framer

/-- What bears on the draft behind a run. -/
def background : Dialogue γ → Background → List (Event γ) → Background
  | _, b, [] => b
  | d, b, e :: events => (d.happen e).background (d.behind b e) events

theorem exited_happen_of_taken (h : d.editor = none) {o : Occurrence} (ho : d.ignores o = false) :
    (d.happen (.occurs o)).exited = (d.apply o).exited := by
  have hclosed : (d.apply o).close.editor = none := by
    rw [editor_close, (d.round_apply o).editor, h]
  rw [happen_of_taken ho, exited_settle hclosed, exited_close]

/-- An interpreter that is gone does not come back. -/
theorem exited_happen (h : d.editor = none) (e : Event γ) (hx : (d.happen e).exited = false) :
    d.exited = false := by
  cases e with
  | proceed g => exact hx
  | occurs o =>
    cases ho : d.ignores o with
    | true => rwa [happen_of_ignored ho] at hx
    | false =>
      rw [exited_happen_of_taken h ho] at hx
      exact (d.round_apply o).exited hx

section NeverRefuses

variable [Interpreter.NeverRefuses γ]

theorem moves_submitLine (h : d.editor = none) (line : Text) :
    Moves ((d.withFramer d.console.framer.lineSubmitted.takeIndent.2).console.taken
        (.enter (Prefill.merge d.console.framer.indentation d.merged line)))
      none false d.console.framer (d.submitLine line).console.framer := by
  have htaken : Aside d.console.framer d.console.framer.lineSubmitted.takeIndent.2 :=
    ⟨rfl, rfl, rfl, rfl⟩
  rw [submitLine_eq h]
  exact ((Console.moves_enter (d.withFramer _).console _).before (aside_conclude _ _)).behind htaken

/-- What an occurrence does to the typed lines, as long as the interpreter is there. -/
theorem moves_apply (h : d.editor = none) {o : Occurrence} (ho : d.ignores o = false)
    (hx : (d.apply o).exited = false) :
    Moves (d.entered (.occurs o)) (d.response? (.occurs o)) (d.asks (.occurs o)) d.console.framer
      (d.apply o).console.framer := by
  have hinterrupt : Moves [] none false d.console.framer d.interrupt.console.framer :=
    (Console.moves_interrupt d.console).before (aside_conclude d _)
  have hidle : Moves [] none false d.console.framer d.console.framer := .of_aside (.refl _)
  cases o with
  | line text =>
    have hthere : d.exited = false := (d.round_apply (.line text)).exited hx
    rw [apply, if_neg (by simp [hthere]), entered, if_neg (by simp [ho, hthere])]
    exact moves_submitLine h text
  | notice n =>
    cases n with
    | exited code => cases hx
    | response more =>
      cases hl : d.console.framer.inFlight with
      | none =>
        have hsame : d.console.framer.respond more = d.console.framer :=
          Framer.respond_of_none hl more
        rw [response?, if_pos (by simp [hl])]
        exact .of_aside (hsame.symm ▸ .refl d.console.framer)
      | some lastLine =>
        rw [response?, if_neg (by simp [ho, hl])]
        exact .respond hl more
    | inputRequested =>
      rw [asks, ho]
      exact .inputRequested _
    | ready => exact hidle
    | executed => exact .of_aside (.cue _ _)
    | promptRequested prompt => exact .of_aside (.cue _ _)
    | output stream text => exact .of_aside (.ask _ (.writeOutput stream text))
  | readInterrupted => exact hinterrupt
  | interruptSignal => exact hinterrupt
  | endOfInput => exact hidle
  | endOfNotices => exact hidle

/-- **What an event does to the typed lines,** as long as the interpreter is there. -/
theorem moves_happen (h : d.editor = none) (e : Event γ) (hx : (d.happen e).exited = false) :
    Moves (d.entered e) (d.response? e) (d.asks e) d.console.framer
      (d.happen e).console.framer := by
  cases e with
  | proceed g => exact .of_aside ⟨rfl, rfl, rfl, rfl⟩
  | occurs o =>
    cases ho : d.ignores o with
    | true =>
      rw [happen_of_ignored ho]
      have hidle : Moves [] none false d.console.framer d.console.framer := .of_aside (.refl _)
      cases o with
      | line text =>
        rw [entered, ho]
        exact hidle
      | notice n =>
        cases n with
        | response more =>
          rw [response?, ho]
          exact hidle
        | inputRequested =>
          rw [asks, ho]
          exact hidle
        | _ => exact hidle
      | _ => exact hidle
    | false =>
      have hclosed : (d.apply o).close.editor = none := by
        rw [editor_close, (d.round_apply o).editor, h]
      have hshown := aside_settle hclosed
      rw [exited_happen_of_taken h ho] at hx
      rw [console_close] at hshown
      rw [happen_of_taken ho]
      exact (moves_apply h ho hx).before hshown

/-! ### All runs -/

namespace Serves

variable {entered : List Text} {b : Background}

theorem happen (h : Serves entered b d) (e : Event γ) :
    Serves (entered ++ d.entered e) (d.behind b e) (d.happen e) where
  toAttends := h.toAttends.happen e
  stores hx := by
    rw [List.flatMap_append]
    exact (moves_happen h.editor e hx).stores (h.stores (exited_happen h.editor e hx))
  explained hx hn ha := by
    have hthere := exited_happen h.editor e hx
    rw [List.forall_mem_append] at hn
    exact (moves_happen h.editor e hx).explained_after (h.explained hthere hn.1)
      (h.stores hthere).ended hn.2 ha

theorem happens (h : Serves entered b d) (events : List (Event γ)) :
    Serves (entered ++ d.accepted events) (d.background b events)
      (events.foldl Dialogue.happen d) := by
  induction events generalizing d entered b with
  | nil => simpa [accepted, background] using h
  | cons e events ih =>
    have hrest := ih (h.happen e)
    rwa [List.append_assoc] at hrest

end Serves

/-- **What is left when the input has ended.** Over any interpreter that takes every command, and
whatever occurs, in whatever order: if the loop has ended and the interpreter is still there, no
command is in flight or queued. The lines of the commands that were handed over and those of the
draft are the lines that were taken, each of them as often, leaving out blank ones. And a draft that
is not blank shows that it is unfinished, or the last response asked for more lines, provided that
no line that was taken holds a line feed, that no line of the draft was typed while a response was
outstanding, and that since nothing was open last the running program neither asked for a line nor
was given one. -/
theorem nothing_half_done (g : γ) (screen : Screen) (indentation : Indentation) (capacity : Nat)
    (enabled : Bool) (events : List (Event γ)) :
    let before : Dialogue γ :=
      start { Console.fresh g screen indentation capacity with enabled := enabled } none
    let d := events.foldl happen before
    let framer := d.console.framer
    let b := before.background {} events
    d.result = some (.ok ()) → d.exited = false →
    framer.inFlight = none ∧ framer.queued = [] ∧
      (framer.commands.flatMap Text.filled ++ Text.filled framer.draft.text).Perm
        ((before.accepted events).flatMap Text.content) ∧
      ((∀ text ∈ before.accepted events, '\n' ∉ text) → b.asked = false → b.ahead = false →
        framer.draft.isBlank = false →
        Text.Unfinished framer.draft.text ∨ b.more = true) := by
  intro before d framer b hend hthere
  have hserves := (Serves.start g screen indentation capacity enabled).happens events
  have hidle := (hserves.ended hend).resolve_left (ne_true_of_eq_false hthere)
  rw [Framer.isBusy, Bool.or_eq_false_iff] at hidle
  have hflight : framer.inFlight = none := by simpa using hidle.1
  have hqueue : framer.queued = [] := by simpa using hidle.2
  refine ⟨hflight, hqueue, ?_, fun hn ha hahead hb => ?_⟩
  · have hstock := (hserves.stores hthere).stock
    rwa [Framer.issued, hqueue, List.map_nil, List.append_nil, List.nil_append] at hstock
  · rcases (hserves.explained hthere hn ha).kept hb with hopen | htyped | ⟨-, hmore⟩
    · exact .inl hopen
    · exact absurd (hahead.symm.trans htyped) Bool.false_ne_true
    · exact .inr hmore

end NeverRefuses

/-- A command runs to its end, and a block is begun when the input ends. -/
def blockAtEnd : List (Event Obliging) :=
  [.occurs (.line ['x', ' ']), .proceed {}, .occurs (.notice (.response false)),
    .occurs (.line ['i', 'f', ':']), .occurs .endOfInput]

/-- The line of the block is left in the draft, which shows that it is unfinished. -/
theorem nothing_half_done_blockAtEnd :
    let before : Dialogue Obliging :=
      start { Console.fresh ({} : Obliging) {} {} 8 with enabled := true } none
    let d := blockAtEnd.foldl happen before
    before.accepted blockAtEnd = [['x', ' '], ['i', 'f', ':']] ∧
      d.result = some (.ok ()) ∧ d.exited = false ∧ d.console.framer.inFlight = none ∧
      Text.Unfinished d.console.framer.draft.text ∧
      (d.console.framer.commands.flatMap Text.filled ++
        Text.filled d.console.framer.draft.text).Perm
          ((before.accepted blockAtEnd).flatMap Text.content) := by
  have hleft := nothing_half_done ({} : Obliging) {} {} 8 true blockAtEnd (by decide +kernel)
    (by decide +kernel)
  refine ⟨by decide +kernel, by decide +kernel, by decide +kernel, hleft.1, ?_, hleft.2.2.1⟩
  exact (hleft.2.2.2 (by decide +kernel) (by decide +kernel) (by decide +kernel)
    (by decide +kernel)).resolve_right (by decide +kernel)

/-- Behind a run the loop has ended, the interpreter is there, and no string is open. Yet a line
that was taken is in no command. -/
def Drops (before : Dialogue γ) (line : Text) (events : List (Event γ)) : Prop :=
  let d := events.foldl happen before
  d.result = some (.ok ()) ∧ d.exited = false ∧ d.console.framer.draft.region = none ∧
    line ∈ before.accepted events ∧
    ∀ command ∈ d.console.framer.commands, line ∉ Text.lines command

/-- A block, a line that is joined with the next one, and a line of a block that the interpreter
holds open. -/
theorem exists_dropped :
    ∃ block joined held : List (Event Obliging),
      let before : Dialogue Obliging :=
        start { Console.fresh ({} : Obliging) {} {} 8 with enabled := true } none
      before.Drops ['i', 'f', ':'] block ∧ before.Drops ['x', ' ', '\\'] joined ∧
        before.Drops [' ', ' ', ' ', ' ', 'y'] held := by
  refine ⟨[.occurs (.line ['i', 'f', ':']), .occurs .endOfInput],
    [.occurs (.line ['x', ' ', '\\']), .occurs .endOfInput],
    [.occurs (.line ['x']), .proceed {}, .occurs (.notice (.response true)),
      .occurs (.line ['y']), .occurs .endOfInput], ?block, ?joined, ?held⟩
  case block =>
    unfold Drops
    decide +kernel
  case joined =>
    unfold Drops
    decide +kernel
  case held =>
    unfold Drops
    decide +kernel

/-- What bears on the draft matters: a complete statement is left that was typed while the response
to a block was outstanding, and one that was typed behind a request for a line though no program
waited. -/
theorem exists_complete_dropped :
    ∃ early late : List (Event Obliging),
      let before : Dialogue Obliging :=
        start { Console.fresh ({} : Obliging) {} {} 8 with enabled := true } none
      let text (events : List (Event Obliging)) : Text :=
        (events.foldl happen before).console.framer.draft.text
      (before.Drops [' ', 'y'] early ∧ ¬Text.Unfinished (text early) ∧
        before.background {} early = { ahead := true }) ∧
      before.Drops [' ', 'y'] late ∧ ¬Text.Unfinished (text late) ∧
        before.background {} late = { asked := true } := by
  refine ⟨[.occurs (.line ['i', 'f', ':']), .occurs (.line []), .proceed {},
      .occurs (.line [' ', 'y']), .occurs (.notice (.response false)), .occurs .endOfInput],
    [.occurs (.notice .inputRequested), .occurs (.line [' ', 'y']), .occurs .endOfInput], ?early,
    ?late⟩
  case early =>
    unfold Drops
    decide +kernel
  case late =>
    unfold Drops
    decide +kernel

end Dialogue

end LineFraming
