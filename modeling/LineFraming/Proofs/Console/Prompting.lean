import LineFraming.Proofs.Console.Scanning

/-!
# The prompt over a half-typed statement

The ordinary prompt asks for a new statement, so it should not stand in front of a line that goes on
with one. Whatever the user types keeps to that: a line that is kept in the draft moves the prompt
to the continuation, except inside a string, where that prompt stands already; and a line that
completes its statement leaves a blank draft.

What the interpreter reports does not. When the last command is done the prompt becomes the ordinary
one, and the draft is not asked. So a statement that was begun while the command was running goes
on behind the wrong prompt. There is no other way into this for a console that is only typed into
and answered, and every such answer is one.

The interpreter takes every command here and never waits for a line.

## Main definitions

* `Framer.Announced` — a half-typed statement does not stand behind the ordinary prompt
* `Framer.Amidst` — a statement is half typed, and nothing else is running or waiting
* `Console.Forgets` — an act that makes the prompt the ordinary one over a half-typed statement

## Main results

* `Framer.Announced.dispatch`, `Framer.Announced.submit` — what the user types keeps to it
* `Framer.announced_respond_iff` — which responses do
* `Console.prompt_ne_ordinary_iff` — a run keeps to it if and only if no act of it forgets the draft
-/

namespace LineFraming

namespace Framer

variable {γ : Type} {f : Framer γ}

/-- A half-typed statement does not stand behind the prompt for a new one. -/
def Announced (f : Framer γ) : Prop := f.draft.isBlank = false → f.prompt ≠ .ordinary

/-- Behind a blank draft every prompt will do. -/
theorem Announced.of_blank (h : f.draft.isBlank = true) : f.Announced := by
  intro hb
  rw [h] at hb
  cases hb

/-- In front of every other prompt any draft will do. -/
theorem Announced.of_prompt (h : f.prompt ≠ .ordinary) : f.Announced := fun _ => h

/-- The draft and the prompt alone decide. -/
theorem Announced.of_eq {g : Framer γ} (h : f.Announced)
    (hb : g.draft.isBlank = f.draft.isBlank) (hp : g.prompt = f.prompt) : g.Announced := by
  rw [Announced, hb, hp]
  exact h

@[simp] theorem announced_setDepth (f : Framer γ) (depth : Nat) :
    (f.setDepth depth).Announced ↔ f.Announced := Iff.rfl

variable [Interpreter γ]

/-- A statement is half typed, no command waits in the queue, and none is executing. -/
def Amidst (f : Framer γ) : Prop :=
  f.draft.isBlank = false ∧ f.queued = [] ∧ Interpreter.isExecuting f.interpreter = false

instance (f : Framer γ) : Decidable f.Amidst := inferInstanceAs (Decidable (_ ∧ _))

/-- When a command is done, the draft is not asked. -/
theorem announced_commandExecuted_iff (f : Framer γ) :
    f.commandExecuted.Announced ↔ ¬f.Amidst := by
  have hdraft : f.commandExecuted.draft = f.draft := draft_cue f _
  have hprompt : f.commandExecuted.prompt = f.prompt.after
      (.finished (Interpreter.isExecuting f.interpreter || !f.queued.isEmpty)) := prompt_cue f _
  by_cases hidle : f.queued = [] ∧ Interpreter.isExecuting f.interpreter = false
  · have hordinary : f.commandExecuted.prompt = .ordinary := by
      simp [hprompt, hidle, Prompt.after]
    rw [Announced, hdraft, hordinary]
    simp [Amidst, hidle]
  · have hexecuting : f.commandExecuted.prompt = .executing := by
      rw [not_and_or, Bool.not_eq_false] at hidle
      rcases hidle with hq | hx
      · simp [hprompt, hq, Prompt.after]
      · simp [hprompt, hx, Prompt.after]
    refine iff_of_true (.of_prompt (by simp [hexecuting])) ?_
    rintro ⟨-, hbusy⟩
    exact hidle hbusy

section Obliging

variable [Interpreter.NeverRefuses γ]

@[simp] theorem prompt_send (f : Framer γ) (pending : PendingCommand) :
    (f.send pending).prompt = f.prompt := by
  rw [send_eq]
  rfl

/-- A command that is released runs. -/
theorem prompt_sendNext (f : Framer γ) :
    f.sendNext.prompt = if f.queued = [] then f.prompt else .executing := by
  rw [sendNext]
  split
  · rename_i hq
    rw [if_pos hq]
  · rename_i next rest hq
    rw [if_neg (by simp [hq])]
    simp [Prompt.after]

variable [Interpreter.NeverWaits γ]

/-! ### Typed text -/

/-- A line outside strings is kept behind the prompt for more lines, or nothing is left of it. -/
theorem announced_conclude (f : Framer γ) (line : Text) (kind : LineKind) :
    (f.conclude line kind).Announced := by
  refine conclude_cases ?continued ?indented ?nothing ?sent
  case continued => exact fun _ => .of_prompt (by simp [Prompt.after])
  case indented => exact fun depth _ => .of_prompt (by simp [requestMore, Prompt.after])
  case nothing => exact .of_blank
  case sent =>
    intro _
    apply Announced.of_blank
    rw [draft_sendDraft]
    rfl

namespace Announced

/-- **A dispatched line** keeps to it. A string is open only in a draft that is not blank, so inside
one the prompt is not the ordinary one before. -/
theorem dispatch (h : f.Announced) (hs : f.Scanned) (line : Text) :
    (f.dispatch line).Announced := by
  cases hr : f.draft.region with
  | some style =>
    have htyping : f.draft.isBlank = false := hs.isBlank (by rw [hr]; rfl)
    rw [dispatch_of_region hr]
    dsimp only
    split
    · exact announced_conclude _ line _
    · exact .of_prompt (h htyping)
  | none =>
    rw [dispatch_of_no_region hr]
    dsimp only
    cases TripleQuote.openedBy line with
    | some style => exact .of_prompt (by simp [Prompt.after])
    | none => exact announced_conclude _ line _

theorem submit (h : f.Announced) (hs : f.Scanned) (text : Text) (execAnyway : Bool) :
    (f.submit text execAnyway).Announced := by
  have hboth := submit_induction (p := fun g => g.Scanned ∧ g.Announced)
    (fun _ _ l hn hl hg => ⟨hg.1.dispatch hn hl, hg.2.dispatch hg.1 l⟩)
    (fun _ hg => ⟨hg.1.ask _, hg.2.of_eq rfl rfl⟩) ⟨hs, h⟩ text execAnyway
  exact hboth.2

theorem finish (h : f.Announced) (hs : f.Scanned) : f.finish.Announced := by
  have hboth := finish_induction (p := fun g => g.Scanned ∧ g.Announced)
    (fun _ hg => ⟨hg.1.dispatch List.not_mem_nil .empty, hg.2.dispatch hg.1 _⟩)
    (fun _ hg => ⟨hg.1.ask _, hg.2.of_eq rfl rfl⟩) ⟨hs, h⟩
  exact hboth.2

end Announced

/-! ### Responses -/

/-- **A response keeps to it unless it ends the last command while a statement is half typed.** -/
theorem announced_respond_iff (h : f.Announced) (more : Bool) :
    (f.respond more).Announced ↔ ¬(more = false ∧ f.inFlight.isSome = true ∧ f.Amidst) := by
  cases hl : f.inFlight with
  | none =>
    rw [respond_of_none hl]
    exact iff_of_true h (by simp)
  | some lastLine =>
    have hqueued := (Silent.settle f lastLine more).queued
    rw [respond_of_some hl]
    by_cases hq : f.queued = []
    · have hlast : (f.settle lastLine more).sendNext = f.settle lastLine more := by
        rw [sendNext, hqueued.trans hq]
      rw [hlast]
      cases more with
      | true =>
        have hprompt : (f.settle lastLine true).prompt = .continuation := by
          simp only [settle, if_true, continueStatement]
          split <;> simp [Prompt.after]
        exact iff_of_true (.of_prompt (by simp [hprompt])) (by simp)
      | false =>
        have hsettle : f.settle lastLine false =
            (commandExecuted { f with inFlight := none }).setDepth 0 := by simp [settle]
        rw [hsettle, announced_setDepth, announced_commandExecuted_iff]
        simp [Amidst]
    · have hprompt : (f.settle lastLine more).sendNext.prompt = .executing := by
        rw [prompt_sendNext, if_neg fun he => hq (hqueued.symm.trans he)]
      exact iff_of_true (.of_prompt (by simp [hprompt])) (by simp [Amidst, hq])

end Obliging

end Framer

namespace Console

variable {γ : Type} [Interpreter γ] {c : Console γ}

open Framer (Scanned Announced)

/-- The act makes the prompt the ordinary one while a statement is half typed. -/
def Forgets (c : Console γ) : Act γ → Prop
  | .notice (.response more) =>
    more = false ∧ c.framer.inFlight.isSome = true ∧ c.framer.Amidst
  | .notice .executed => c.framer.Amidst
  | .notice (.promptRequested prompt) => prompt = .ordinary ∧ c.framer.draft.isBlank = false
  | _ => False

instance (c : Console γ) : (a : Act γ) → Decidable (c.Forgets a)
  | .notice (.response _) => inferInstanceAs (Decidable (_ ∧ _ ∧ _))
  | .notice .executed => inferInstanceAs (Decidable c.framer.Amidst)
  | .notice (.promptRequested _) => inferInstanceAs (Decidable (_ ∧ _))
  | .notice .ready | .notice .inputRequested | .notice (.output ..) | .notice (.exited _)
  | .enter _ | .run _ | .interrupt | .proceed _ => isFalse id

variable [Interpreter.NeverWaits γ] [Interpreter.NeverRefuses γ]

/-- **An act keeps to it unless it forgets the draft.** -/
theorem announced_act_iff (hs : c.framer.Scanned) (h : c.framer.Announced) (a : Act γ) :
    (c.act a).framer.Announced ↔ ¬c.Forgets a := by
  have hsubmit (text : Text) (execAnyway : Bool) :
      (c.submit text execAnyway).2.framer.Announced := by
    obtain ⟨refusal, hr⟩ | hr := c.submit_cases text execAnyway
    · rw [hr]
      exact h
    · rw [hr]
      exact h.submit hs text execAnyway
  cases a with
  | enter line => exact iff_of_true (hsubmit line false) id
  | run text => exact iff_of_true (hsubmit text true) id
  | proceed g => exact iff_of_true (h.of_eq rfl rfl) id
  | interrupt =>
    refine iff_of_true ?_ id
    have hnote : c.framer.interrupt.2.Announced := h.of_eq rfl rfl
    rcases c.framer_interrupt with he | he
    · rw [act, he]
      exact hnote
    · rw [act, he]
      exact hnote.finish hs.interrupt
  | notice n =>
    cases n with
    | ready => exact iff_of_true h id
    | response more => exact Framer.announced_respond_iff h more
    | executed => exact Framer.announced_commandExecuted_iff c.framer
    | inputRequested =>
      have hprompt : c.framer.inputRequested.prompt ≠ .ordinary := by
        simp only [Framer.inputRequested, Framer.prompt_setDepth, Framer.prompt_cue, Prompt.after]
        split <;> decide
      exact iff_of_true (.of_prompt hprompt) id
    | promptRequested prompt =>
      have hdraft : (c.framer.promptRequested prompt).draft = c.framer.draft := Framer.draft_cue _ _
      have hprompt : (c.framer.promptRequested prompt).prompt = prompt := Framer.prompt_cue _ _
      show (c.framer.promptRequested prompt).Announced ↔
        ¬(prompt = .ordinary ∧ c.framer.draft.isBlank = false)
      rw [Announced, hdraft, hprompt, not_and']
    | output stream text => exact iff_of_true (h.of_eq rfl rfl) id
    | exited code =>
      have hdraft : c.framer.reset.draft = {} := by simp [Framer.reset]
      have hblank : (c.framer.reset.ask (.showHint (exitHint code))).draft.isBlank = true := by
        rw [Framer.draft_ask, hdraft]
        rfl
      exact iff_of_true (.of_blank hblank) id

/-- **A half-typed statement stands behind the ordinary prompt if and only if an act forgets it.**
Over an interpreter that takes every command and never waits for a line: in all states of a run, as
long as the draft is not blank the prompt is not the ordinary one, provided that no response ends
the last command while a statement is half typed, and that the interpreter neither reports so nor
asks for the ordinary prompt then. Each of these leads to such a state. -/
theorem prompt_ne_ordinary_iff (g : γ) (screen : Screen) (indentation : Indentation)
    (capacity : Nat) (acts : List (Act γ)) :
    let behind (acts : List (Act γ)) : Console γ :=
      acts.foldl act (fresh g screen indentation capacity)
    (∀ before, before <+: acts → (behind before).framer.draft.isBlank = false →
      (behind before).framer.prompt ≠ .ordinary) ↔
    ∀ before a, before ++ [a] <+: acts → ¬(behind before).Forgets a := by
  intro behind
  exact forall_prefix_iff (fun c : Console γ => c.framer.Scanned) (fun c => c.framer.Announced)
    (fun _ a hs => scanned_act hs a) (fun _ a hs h => announced_act_iff hs h a)
    (.fresh g screen indentation) (.of_blank rfl) acts

/-- A command is running. When it has just ended, a block is begun. -/
def earlyBlock : List (Act Obliging) :=
  [.notice .ready, .enter ['x'], .proceed {}, .enter ['i', 'f', ':']]

/-- While its response is outstanding, the prompt says that the block is half typed. -/
theorem prompt_ne_ordinary_iff_earlyBlock :
    let behind (acts : List (Act Obliging)) : Console Obliging :=
      acts.foldl act (fresh ({} : Obliging) {} {} 8)
    (behind earlyBlock).framer.inFlight.isSome = true ∧
      (behind earlyBlock).framer.draft.isBlank = false ∧
      (behind earlyBlock).framer.prompt ≠ .ordinary := by
  intro behind
  have hblank : (behind earlyBlock).framer.draft.isBlank = false := by decide
  have hkept : ∀ before a, before ++ [a] <+: earlyBlock → ¬(behind before).Forgets a :=
    forall_prefix_of_inits (by decide)
  have hall := (prompt_ne_ordinary_iff ({} : Obliging) {} {} 8 earlyBlock).mpr hkept
  exact ⟨by decide, hblank, hall earlyBlock List.prefix_rfl hblank⟩

/-- The response makes the prompt the ordinary one, and the block is still half typed. -/
theorem exists_prompt_eq_ordinary :
    ∃ acts : List (Act Obliging),
      (∀ a ∈ acts, a = .notice .ready ∨ (∃ g, a = .proceed g) ∨ (∃ line, a = .enter line) ∨
        ∃ more, a = .notice (.response more)) ∧
      let framer := (acts.foldl act (fresh ({} : Obliging) {} {} 8)).framer
      framer.draft.isBlank = false ∧ framer.prompt = .ordinary := by
  refine ⟨earlyBlock ++ [.notice (.response false)], ?_, by decide, by decide⟩
  intro a ha
  simp only [earlyBlock, List.cons_append, List.nil_append, List.mem_cons, List.not_mem_nil,
    or_false] at ha
  rcases ha with rfl | rfl | rfl | rfl | rfl
  · exact .inl rfl
  · exact .inr (.inr (.inl ⟨_, rfl⟩))
  · exact .inr (.inl ⟨_, rfl⟩)
  · exact .inr (.inr (.inl ⟨_, rfl⟩))
  · exact .inr (.inr (.inr ⟨_, rfl⟩))

end Console

end LineFraming
