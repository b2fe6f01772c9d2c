import LineFraming.Proofs.Framer.Composition

/-!
# What the screen gets to see

The screen notices little of what a framer does. A request to the interpreter, a longer draft, a
queue that shrinks: none of them reaches it. What reaches it is the prompt, whether a string is
open, and a few wishes on the way. So a relation between the framers before and behind an operation
need be shown for these steps only, as long as it can be composed, and for changes that the screen
does not see at all.

Of the wishes, clearing the input stands apart. Only what the user completes by force, and a reset,
end with it; typed lines and reports never do.

## Main definitions

* `Framer.told` — the prompts that the screen was told, in order
* `Framer.printed` — the indentations that were printed behind the prompt, in order
* `Framer.Unseen` — a change that the screen does not see
* `Framer.Shows` — a relation that can be composed, and holds of the steps that the screen sees

## Main results

* `Framer.Shows.dispatch`, `Framer.Shows.respond` — such a relation holds of lines and responses
* `Framer.Shows.submit`, `Framer.Shows.finish`, `Framer.Shows.reset` — and of what clears the input,
  if it holds of clearing
-/

namespace LineFraming

/-- The prompt that a deed told the screen. -/
def Deed.prompt? : Deed → Option Prompt
  | asked (.setPrompt prompt) _ => some prompt
  | _ => none

/-- The indentation that a deed printed behind the prompt. -/
def Deed.printed? : Deed → Option Text
  | prompted _ indent => some indent
  | _ => none

/-- The screen is asked for something besides the prompt, the mode of the text and an empty
input. -/
def Screen.Action.isIncidental : Screen.Action → Bool
  | setPrompt _ | setPlainText _ | clearInput => false
  | _ => true

namespace Framer

variable {γ : Type} {f g h : Framer γ}

/-- The prompts that the screen was told so far, the oldest first. -/
def told (f : Framer γ) : List Prompt := f.journal.filterMap Deed.prompt?

/-- The indentations that were printed behind the prompt so far, the oldest first. -/
def printed (f : Framer γ) : List Text := f.journal.filterMap Deed.printed?

/-- A change that the screen does not see: it leaves alone the screen and all that is told to it. -/
structure Unseen (f g : Framer γ) : Prop where
  screen : g.screen = f.screen
  prompt : g.prompt = f.prompt
  region : g.draft.region = f.draft.region
  told : g.told = f.told
  printed : g.printed = f.printed

theorem Unseen.refl (f : Framer γ) : Unseen f f := ⟨rfl, rfl, rfl, rfl, rfl⟩

/-- A line that is put into the draft is not shown. -/
theorem unseen_append (f : Framer γ) (line : Text) :
    Unseen f { f with draft := f.draft.append line } :=
  ⟨rfl, rfl, Draft.region_append _ line, rfl, rfl⟩

@[simp] theorem printed_ask (f : Framer γ) (a : Screen.Action) :
    (f.ask a).printed = f.printed := by
  simp [printed, ask, note, Deed.printed?]

@[simp] theorem printed_cue (f : Framer γ) (c : Prompt.Cue) : (f.cue c).printed = f.printed :=
  view_cue f c Framer.printed printed_ask fun _ _ => rfl

@[simp] theorem told_ask_setPrompt (f : Framer γ) (prompt : Prompt) :
    (f.ask (.setPrompt prompt)).told = f.told ++ [prompt] := by
  simp [told, ask, note, Deed.prompt?]

/-- Nothing but a prompt tells a prompt. -/
theorem told_ask (f : Framer γ) {a : Screen.Action} (ha : ∀ prompt, a ≠ .setPrompt prompt) :
    (f.ask a).told = f.told := by
  have hnone (written : Text) : (Deed.asked a written).prompt? = none := by
    cases a with
    | setPrompt prompt => exact absurd rfl (ha prompt)
    | requestLine => rfl
    | insertIndent indent => rfl
    | clearInput => rfl
    | scrollToEnd => rfl
    | setPlainText on => rfl
    | showHint message => rfl
    | writeOutput stream text => rfl
  simp [told, ask, note, hnone]

/-! ### Printing the prompt -/

/-- The prompt is printed with what is prefilled. -/
theorem renderPrompt_of_wanted (hw : f.screen.wantsPrompt = true) (hb : f.screen.broken = none) :
    f.renderPrompt = (.ok (), { f with screen := { f.screen with needsPrompt := false } }.note
      (.prompted f.screen.promptText f.screen.indent)) := by
  simp [renderPrompt, Screen.renderPrompt, hw, hb]

theorem renderPrompt_of_not_wanted (hw : f.screen.wantsPrompt = false) :
    f.renderPrompt = (.ok (), f) := by
  simp [renderPrompt, Screen.renderPrompt, hw]

theorem renderPrompt_of_broken {cause : Text} (hw : f.screen.wantsPrompt = true)
    (hb : f.screen.broken = some cause) : f.renderPrompt = (.error cause, f) := by
  simp [renderPrompt, Screen.renderPrompt, hw, hb]

/-- Printing the prompt shows it, or it changes nothing. -/
theorem renderPrompt_cases (f : Framer γ) :
    f.renderPrompt.2 = f ∨ f.renderPrompt.2 =
      { f with screen := { f.screen with needsPrompt := false } }.note
        (.prompted f.screen.promptText f.screen.indent) := by
  cases hw : f.screen.wantsPrompt with
  | false => exact .inl (by rw [renderPrompt_of_not_wanted hw])
  | true =>
    cases hb : f.screen.broken with
    | none => exact .inr (by rw [renderPrompt_of_wanted hw hb])
    | some cause => exact .inl (by rw [renderPrompt_of_broken hw hb])

section Requests

variable [Interpreter γ]

theorem unseen_execute (f : Framer γ) (command : Text) : Unseen f (f.execute command).2 where
  screen := rfl
  prompt := rfl
  region := rfl
  told := by simp [Framer.told, execute, note, Deed.prompt?]
  printed := by simp [Framer.printed, execute, note, Deed.printed?]

theorem unseen_interrupt (f : Framer γ) : Unseen f f.interrupt.2 where
  screen := rfl
  prompt := rfl
  region := rfl
  told := by simp [Framer.told, interrupt, note, Deed.prompt?]
  printed := by simp [Framer.printed, interrupt, note, Deed.printed?]

end Requests

/-! ### Composition -/

/-- A relation that can be composed and holds of every step that the screen sees, except for
clearing the input. -/
structure Shows (R : Framer γ → Framer γ → Prop) : Prop where
  unseen {f g : Framer γ} : Unseen f g → R f g
  trans {f g h : Framer γ} : R f g → R g h → R f h
  ask (f : Framer γ) {a : Screen.Action} : a.isIncidental = true → R f (f.ask a)
  cue (f : Framer γ) (c : Prompt.Cue) : R f (f.cue c)
  setRegion (f : Framer γ) (region : Option TripleQuote) :
    R f ((f.setRegion region).ask (.setPlainText region.isSome))

namespace Shows

variable {R : Framer γ → Framer γ → Prop}

theorem refl (hR : Shows R) (f : Framer γ) : R f f := hR.unseen (.refl f)

theorem setDepth (hR : Shows R) (f : Framer γ) (depth : Nat) : R f (f.setDepth depth) :=
  hR.unseen ⟨rfl, rfl, rfl, rfl, rfl⟩

theorem report (hR : Shows R) (f : Framer γ) (fault : Interpreter.Fault) : R f (f.report fault) :=
  hR.ask f rfl

theorem requestMore (hR : Shows R) (f : Framer γ) (depth : Nat) : R f (f.requestMore depth) := by
  have hinsert := hR.trans (hR.setDepth f depth)
    (hR.ask (f.setDepth depth) (a := .insertIndent (f.indentation.fill depth)) rfl)
  exact hR.trans (hR.trans hinsert (hR.cue _ .moreLines)) (hR.ask _ rfl)

theorem continueStatement (hR : Shows R) (f : Framer γ) (lastLine : Text) :
    R f (f.continueStatement lastLine) := by
  have hasked := hR.trans (hR.cue f .moreLines) (hR.ask _ (a := .requestLine) rfl)
  rw [Framer.continueStatement]
  dsimp only
  split
  · exact hR.trans (hR.trans hasked (hR.setDepth _ _)) (hR.ask _ rfl)
  · exact hasked

theorem inputRequested (hR : Shows R) (f : Framer γ) : R f f.inputRequested :=
  hR.trans (hR.cue f .inputRequested) (hR.setDepth _ 1)

/-- Beside the input, a reset clears the mark for the open string and the mode of the text. -/
theorem reset (hR : Shows R) (hclear : ∀ f, R f (f.ask .clearInput)) (f : Framer γ) :
    R f f.reset := by
  have hplain := hR.setRegion f none
  have hempty : R ((f.setRegion none).ask (.setPlainText false))
      (Framer.ask { f with draft := {}, inFlight := none, queued := [] } (.setPlainText false)) :=
    hR.unseen ⟨rfl, rfl, rfl, rfl, rfl⟩
  exact hR.trans (hR.trans (hR.trans hplain hempty) (hclear _)) (hR.cue _ .restarted)

variable [Interpreter γ]

theorem send (hR : Shows R) (f : Framer γ) (pending : PendingCommand) :
    R f (f.send pending) := by
  have hexecute := hR.unseen (unseen_execute f pending.command)
  cases he : (f.execute pending.command).1 with
  | ok _ =>
    rw [send_of_ok he]
    exact hR.trans hexecute (hR.unseen ⟨rfl, rfl, rfl, rfl, rfl⟩)
  | error fault =>
    rw [send_of_error he]
    have hempty : R (f.execute pending.command).2
        { (f.execute pending.command).2 with queued := [] } :=
      hR.unseen ⟨rfl, rfl, rfl, rfl, rfl⟩
    have hafresh := hR.trans (hR.trans hexecute hempty) (hR.setDepth _ 0)
    exact hR.trans (hR.trans hafresh (hR.cue _ .restarted)) (hR.report _ fault)

theorem sendDraft (hR : Shows R) (f : Framer γ) (line : Text) : R f (f.sendDraft line) := by
  have htake : R f { f with draft := f.draft.take.2 } := hR.unseen ⟨rfl, rfl, rfl, rfl, rfl⟩
  cases hw : f.isWaiting with
  | true =>
    have hexecute := hR.trans htake (hR.unseen (unseen_execute _ f.draft.text))
    rw [sendDraft_of_waiting hw]
    split
    · rename_i g he
      rw [he] at hexecute
      split
      · exact hexecute
      · exact hR.trans (hR.trans hexecute (hR.setDepth g 0)) (hR.cue _ .inputConsumed)
    · rename_i fault g he
      rw [he] at hexecute
      exact hR.trans hexecute (hR.report g fault)
  | false =>
    have hstarted := hR.trans htake (hR.cue _ .started)
    rw [sendDraft_of_not_waiting hw]
    dsimp only
    split
    · exact hR.trans hstarted (hR.unseen ⟨rfl, rfl, rfl, rfl, rfl⟩)
    · exact hR.trans hstarted (hR.send _ _)

theorem conclude (hR : Shows R) (f : Framer γ) (line : Text) (kind : LineKind) :
    R f (f.conclude line kind) := by
  refine conclude_cases ?continued ?indented ?nothing ?sent
  case continued => exact fun _ => hR.cue f .moreLines
  case indented => exact fun depth _ => hR.requestMore f depth
  case nothing => exact fun _ => hR.refl f
  case sent => exact fun _ => hR.sendDraft f line

theorem dispatch (hR : Shows R) (f : Framer γ) (line : Text) : R f (f.dispatch line) := by
  have hput := hR.unseen (unseen_append f line)
  refine hR.trans hput ?_
  rw [Framer.dispatch]
  dsimp only
  split
  · exact hR.sendDraft _ line
  · split
    · exact hR.refl _
    · rename_i style _
      exact hR.trans (hR.setRegion _ (some style)) (hR.cue _ .stringOpened)
    · have hclosed := hR.trans (hR.setRegion { f with draft := f.draft.append line } none)
        (hR.cue _ .stringClosed)
      exact hR.trans hclosed (hR.conclude _ line _)
    · exact hR.conclude _ line _

theorem processText (hR : Shows R) (f : Framer γ) (text : Text) : R f (f.processText text) :=
  processText_induction (p := R f) (fun g _ l _ _ hg => hR.trans hg (hR.dispatch g l)) (hR.refl f)
    text

theorem commandExecuted (hR : Shows R) (f : Framer γ) : R f f.commandExecuted := hR.cue f _

theorem settle (hR : Shows R) (f : Framer γ) (lastLine : Text) (more : Bool) :
    R f (f.settle lastLine more) := by
  have hfree : R f { f with inFlight := none } := hR.unseen ⟨rfl, rfl, rfl, rfl, rfl⟩
  refine hR.trans hfree ?_
  rw [Framer.settle]
  split
  · exact hR.continueStatement _ lastLine
  · split
    · exact hR.setDepth _ 0
    · exact hR.trans (hR.commandExecuted _) (hR.setDepth _ 0)

theorem sendNext (hR : Shows R) (f : Framer γ) : R f f.sendNext := by
  rw [Framer.sendNext]
  split
  · exact hR.refl f
  · rename_i next rest _
    have hrest : R f { f with queued := rest } := hR.unseen ⟨rfl, rfl, rfl, rfl, rfl⟩
    exact hR.trans (hR.trans hrest (hR.cue _ .started)) (hR.send _ next)

theorem respond (hR : Shows R) (f : Framer γ) (more : Bool) : R f (f.respond more) := by
  cases hl : f.inFlight with
  | none =>
    rw [respond_of_none hl]
    exact hR.refl f
  | some lastLine =>
    rw [respond_of_some hl]
    exact hR.trans (hR.settle f lastLine more) (hR.sendNext _)

/-! ### What clears the input -/

theorem finish (hR : Shows R) (hclear : ∀ f, R f (f.ask .clearInput)) (f : Framer γ) :
    R f f.finish :=
  finish_induction (p := R f) (fun g hg => hR.trans hg (hR.dispatch g _))
    (fun g hg => hR.trans hg (hclear g)) (hR.refl f)

theorem submit (hR : Shows R) (hclear : ∀ f, R f (f.ask .clearInput)) (f : Framer γ)
    (text : Text) (execAnyway : Bool) : R f (f.submit text execAnyway) := by
  rw [submit_eq]
  split
  · exact hR.trans (hR.processText f text) (hR.finish hclear _)
  · exact hR.processText f text

end Shows

end Framer

end LineFraming
