import LineFraming.Proofs.Console.Run
import LineFraming.Proofs.Framer.Showing
import Mathlib.Data.List.Chain

/-!
# The screen mirrors the framer

The screen keeps two things of its own that the framer knows as well: the prompt, and whether typed
text is taken as it is since a string is open. Nobody compares the two. They agree because the
prompt is told in the same step that moves it, and the mode of the text in the same step that opens
or closes a string.

The prompt is told only when it moves. So the prompts that the screen was told are a walk that
starts behind the ordinary prompt and ends at the present one, and no step of it stays where it is.

Nothing is asked of the interpreter, which may refuse every command, wait for a line or go away, nor
of the output, which may break at any time. The loop around the console prints the prompt, takes the
prefilled indentation and shows hints whenever it likes.

## Main definitions

* `Framer.Mirrored` — the prompt and the mode of the screen are those of the framer
* `Console.Call`, `Console.call` — what may be asked of a console and of its screen

## Main results

* `Framer.shows_mirrored` — every step that the screen sees keeps to it
* `Framer.Shows.console_submit`, `Framer.Shows.console_interrupt`, `Framer.Shows.console_notice` —
  what holds of the steps that the screen sees holds of a console
* `Console.mirrored_call` — so does every call
* `Console.screen_mirrors_framer` — the prompt, the mode and the prompts told, in all states
-/

namespace LineFraming

namespace Framer

variable {γ : Type} {f g : Framer γ}

/-- The screen shows the prompt of the framer and takes text as it is while a string is open. The
prompts that it was told lead from the ordinary prompt to the present one, and each differs from the
one before. -/
structure Mirrored (f : Framer γ) : Prop where
  prompt : f.screen.prompt = f.prompt
  plainText : f.screen.plainText = f.draft.region.isSome
  moves : (Prompt.ordinary :: f.told).IsChain (· ≠ ·)
  present : (Prompt.ordinary :: f.told).getLast? = some f.prompt

namespace Mirrored

/-- The prompt, the mode of the text and what was told decide. -/
theorem of_eq (h : f.Mirrored) (hs : g.screen.prompt = f.screen.prompt)
    (ht : g.screen.plainText = f.screen.plainText) (hp : g.prompt = f.prompt)
    (hr : g.draft.region = f.draft.region) (ho : g.told = f.told) : g.Mirrored where
  prompt := by rw [hs, hp, h.prompt]
  plainText := by rw [ht, hr, h.plainText]
  moves := ho ▸ h.moves
  present := by rw [ho, hp, h.present]

/-- A wish that concerns neither the prompt nor the mode of the text. -/
theorem ask (h : f.Mirrored) {a : Screen.Action} (ht : ∀ prompt, a ≠ .setPrompt prompt)
    (hp : ∀ on, a ≠ .setPlainText on) : (f.ask a).Mirrored := by
  have htold : (f.ask a).told = f.told := told_ask f ht
  cases a with
  | setPrompt prompt => exact absurd rfl (ht prompt)
  | setPlainText on => exact absurd rfl (hp on)
  | requestLine => exact h.of_eq rfl rfl rfl rfl htold
  | insertIndent indent => exact h.of_eq rfl rfl rfl rfl htold
  | clearInput => exact h.of_eq rfl rfl rfl rfl htold
  | scrollToEnd => exact h.of_eq rfl rfl rfl rfl htold
  | showHint message => exact h.of_eq rfl rfl rfl rfl htold
  | writeOutput stream text => exact h.of_eq rfl rfl rfl rfl htold

theorem ask_of_incidental (h : f.Mirrored) {a : Screen.Action} (ha : a.isIncidental = true) :
    (f.ask a).Mirrored := by
  refine h.ask ?_ ?_
  · rintro prompt rfl
    cases ha
  · rintro on rfl
    cases ha

theorem clearInput (h : f.Mirrored) : (f.ask .clearInput).Mirrored := h.ask (by simp) (by simp)

/-- A prompt that differs from the present one is told in the step that moves it. -/
theorem setPrompt (h : f.Mirrored) {next : Prompt} (hne : next ≠ f.prompt) :
    (Framer.ask { f with prompt := next } (.setPrompt next)).Mirrored := by
  have htold : (Framer.ask { f with prompt := next } (.setPrompt next)).told = f.told ++ [next] :=
    told_ask_setPrompt _ next
  constructor
  case prompt => rfl
  case plainText => exact h.plainText
  case moves =>
    rw [htold, ← List.cons_append, List.isChain_append]
    refine ⟨h.moves, List.isChain_singleton next, fun p hp q hq => ?_⟩
    rw [h.present, Option.mem_some_iff] at hp
    obtain rfl : next = q := Option.mem_some_iff.mp hq
    exact hp ▸ hne.symm
  case present =>
    rw [htold, ← List.cons_append, List.getLast?_append]
    rfl

theorem cue (h : f.Mirrored) (c : Prompt.Cue) : (f.cue c).Mirrored := by
  rw [Framer.cue]
  dsimp only
  split
  · exact h
  · rename_i hne
    have hmoved := h.setPrompt hne
    split
    · exact hmoved
    · exact hmoved.ask_of_incidental rfl

/-- The mode of the text is set in the step that opens or closes a string. -/
theorem setRegion (h : f.Mirrored) (region : Option TripleQuote) :
    ((f.setRegion region).ask (.setPlainText region.isSome)).Mirrored := by
  have htold : ((f.setRegion region).ask (.setPlainText region.isSome)).told = f.told :=
    told_ask _ fun prompt => by simp
  constructor
  case prompt => exact h.prompt
  case plainText => rfl
  case moves => exact htold ▸ h.moves
  case present => exact htold ▸ h.present

/-- Printing the prompt moves nothing. -/
theorem renderPrompt (h : f.Mirrored) : f.renderPrompt.2.Mirrored := by
  rcases f.renderPrompt_cases with he | he
  · rw [he]
    exact h
  · rw [he]
    exact h.of_eq rfl rfl rfl rfl (by simp [told, note, Deed.prompt?])

end Mirrored

/-- **Every step that the screen sees keeps to it.** -/
theorem shows_mirrored : Shows fun f g : Framer γ => f.Mirrored → g.Mirrored where
  unseen hu h := h.of_eq (by rw [hu.screen]) (by rw [hu.screen]) hu.prompt hu.region hu.told
  trans hfg hgh h := hgh (hfg h)
  ask _ _ ha h := h.ask_of_incidental ha
  cue _ c h := h.cue c
  setRegion _ region h := h.setRegion region

/-! ### What a console does -/

namespace Shows

open Console

variable [Interpreter γ] {R : Framer γ → Framer γ → Prop}

theorem console_submit (hR : Shows R) (hclear : ∀ f, R f (f.ask .clearInput)) (c : Console γ)
    (text : Text) (execAnyway : Bool) : R c.framer (c.submit text execAnyway).2.framer := by
  obtain ⟨refusal, hr⟩ | hr := c.submit_cases text execAnyway
  · rw [hr]
    exact hR.refl _
  · rw [hr]
    exact hR.submit hclear c.framer text execAnyway

theorem console_interrupt (hR : Shows R) (hclear : ∀ f, R f (f.ask .clearInput))
    (c : Console γ) : R c.framer c.interrupt.2.framer := by
  have hsent : R c.framer c.framer.interrupt.2 := hR.unseen (unseen_interrupt c.framer)
  rcases c.framer_interrupt with he | he
  · rw [he]
    exact hsent
  · rw [he]
    exact hR.trans hsent (hR.finish hclear _)

theorem console_notice (hR : Shows R) (hclear : ∀ f, R f (f.ask .clearInput)) (c : Console γ)
    (n : Interpreter.Notice) : R c.framer (c.notice n).framer := by
  cases n with
  | ready => exact hR.refl _
  | response more => exact hR.respond c.framer more
  | executed => exact hR.commandExecuted c.framer
  | inputRequested => exact hR.inputRequested c.framer
  | promptRequested prompt => exact hR.cue c.framer _
  | output stream text => exact hR.ask c.framer (a := .writeOutput stream text) rfl
  | exited code =>
    exact hR.trans (hR.reset hclear c.framer) (hR.ask _ (a := .showHint (exitHint code)) rfl)

end Shows

end Framer

namespace Console

open Framer (Mirrored shows_mirrored)

variable {γ : Type}

/-- What is asked of a console and of its screen. -/
inductive Call (γ : Type) where
  | act (a : Act γ)
  | enable (on : Bool)
  /-- The prompt is printed, if it has to be. -/
  | renderPrompt
  | lineSubmitted
  | takeIndent
  | hint (message : Text)
  /-- Writing to the output fails from now on for this cause, or works again. -/
  | breakOutput (cause : Option Text)

/-- A console that has just been made mirrors, as long as its screen has not been used. -/
theorem mirrored_fresh (g : γ) (texts : PromptTexts) (broken : Option Text)
    (indentation : Indentation) (capacity : Nat) :
    (fresh g { texts := texts, broken := broken } indentation capacity).framer.Mirrored where
  prompt := rfl
  plainText := rfl
  moves := List.isChain_singleton _
  present := rfl

variable [Interpreter γ] {c : Console γ}

/-- The console behind a call. -/
def call (c : Console γ) : Call γ → Console γ
  | .act a => c.act a
  | .enable on => { c with enabled := on }
  | .renderPrompt => { c with framer := c.framer.renderPrompt.2 }
  | .lineSubmitted => { c with framer := c.framer.lineSubmitted }
  | .takeIndent => { c with framer := c.framer.takeIndent.2 }
  | .hint message => { c with framer := c.framer.ask (.showHint message) }
  | .breakOutput cause =>
    { c with framer := { c.framer with screen := { c.framer.screen with broken := cause } } }

/-- **Every call keeps to it.** -/
theorem mirrored_call (h : c.framer.Mirrored) (k : Call γ) : (c.call k).framer.Mirrored := by
  have hclear (f : Framer γ) (h : f.Mirrored) : (f.ask .clearInput).Mirrored := h.clearInput
  cases k with
  | act a =>
    cases a with
    | enter line => exact shows_mirrored.console_submit hclear c line false h
    | run text => exact shows_mirrored.console_submit hclear c text true h
    | interrupt => exact shows_mirrored.console_interrupt hclear c h
    | notice n => exact shows_mirrored.console_notice hclear c n h
    | proceed g => exact h.of_eq rfl rfl rfl rfl rfl
  | enable on => exact h
  | renderPrompt => exact h.renderPrompt
  | lineSubmitted => exact h.of_eq rfl rfl rfl rfl rfl
  | takeIndent => exact h.of_eq rfl rfl rfl rfl rfl
  | hint message => exact h.ask_of_incidental (a := .showHint message) rfl
  | breakOutput cause => exact h.of_eq rfl rfl rfl rfl rfl

theorem mirrored_calls (h : c.framer.Mirrored) (ks : List (Call γ)) :
    (ks.foldl call c).framer.Mirrored := by
  induction ks generalizing c with
  | nil => exact h
  | cons k ks ih => exact ih (mirrored_call h k)

/-- **The screen mirrors the framer.** Over any interpreter and any output, whatever is asked of the
console and of its screen, and in whatever order: the screen shows the prompt of the framer, and it
takes text as it is if and only if a string is open. The prompts that it was told never repeat one;
the first of them, if there is one, is not the ordinary prompt, and the last one is the present
prompt. -/
theorem screen_mirrors_framer (g : γ) (texts : PromptTexts) (broken : Option Text)
    (indentation : Indentation) (capacity : Nat) (ks : List (Call γ)) :
    let f := (ks.foldl call
      (fresh g { texts := texts, broken := broken } indentation capacity)).framer
    f.screen.prompt = f.prompt ∧
      (f.screen.plainText = true ↔ f.draft.region.isSome = true) ∧
      f.told.IsChain (· ≠ ·) ∧ f.told.head? ≠ some .ordinary ∧
      (f.told = [] ∧ f.prompt = .ordinary ∨ f.told.getLast? = some f.prompt) := by
  intro f
  have h : f.Mirrored := mirrored_calls (mirrored_fresh g texts broken indentation capacity) ks
  have hplain : f.screen.plainText = true ↔ f.draft.region.isSome = true := by rw [h.plainText]
  have hmoves := h.moves
  have hpresent := h.present
  refine ⟨h.prompt, hplain, ?_⟩
  cases htold : f.told with
  | nil =>
    rw [htold] at hpresent
    have hordinary : Prompt.ordinary = f.prompt := Option.some_inj.mp hpresent
    exact ⟨List.isChain_nil, by simp, .inl ⟨rfl, hordinary.symm⟩⟩
  | cons first rest =>
    rw [htold, List.isChain_cons_cons] at hmoves
    rw [htold, List.getLast?_cons_cons] at hpresent
    refine ⟨hmoves.2, ?_, .inr hpresent⟩
    rw [List.head?_cons, Ne, Option.some_inj]
    exact hmoves.1.symm

end Console

end LineFraming
