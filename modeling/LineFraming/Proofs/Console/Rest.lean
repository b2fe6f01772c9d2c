import LineFraming.Proofs.Console.Run
import LineFraming.Proofs.Framer.Rest
import Mathlib.Data.List.Infix

/-!
# A console at rest

When no command is in flight and nothing is being typed, the console is ready for a new statement.
Only an interpreter that asked for more lines of its last command keeps it from that. Of the
interpreter it is asked that it waits for no line and that it executes only while a command is in
flight; it may refuse any command, and it may end at any time.

So an empty line means something to the interpreter only if it asked for more.

## Main definitions

* `Console.lastWantsMore` — whether the last response to a command asked for more lines
* `Console.Act.isPlain` — acts that ask for no line and for no prompt of their own
* `Console.Honest` — the interpreter executes only while a command is in flight

## Main results

* `Console.passes_act` — what every act keeps
* `Console.ordinary_of_atRest` — depth, string and prompt at rest, and the blank commands of a run
-/

namespace LineFraming.Console

variable {γ : Type} [Interpreter γ] {c : Console γ} {more : Bool}

/-- Whether the last response to a command asked for more lines, behind an act. A response that
finds no command in flight does not count. -/
def wantsMore (c : Console γ) (more : Bool) : Act γ → Bool
  | .notice (.response m) => if c.framer.inFlight.isSome then m else more
  | _ => more

/-- Whether the last response to a command asked for more lines, behind a run. -/
def lastWantsMore : Console γ → Bool → List (Act γ) → Bool
  | _, more, [] => more
  | c, more, a :: acts => (c.act a).lastWantsMore (c.wantsMore more a) acts

theorem lastWantsMore_concat (c : Console γ) (more : Bool) (acts : List (Act γ)) (a : Act γ) :
    c.lastWantsMore more (acts ++ [a]) =
      (acts.foldl act c).wantsMore (c.lastWantsMore more acts) a := by
  induction acts generalizing c more with
  | nil => rfl
  | cons b acts ih => exact ih (c.act b) (c.wantsMore more b)

/-- The interpreter asks for no line and for no prompt of its own. -/
def Act.isPlain : Act γ → Bool
  | .notice .inputRequested => false
  | .notice (.promptRequested _) => false
  | _ => true

/-- The interpreter executes only while a command is in flight. -/
def Honest (c : Console γ) : Prop :=
  Interpreter.isExecuting c.framer.interpreter = true → c.framer.inFlight.isSome = true

instance (c : Console γ) : Decidable c.Honest := inferInstanceAs (Decidable (_ → _))

variable [Interpreter.NeverWaits γ]

theorem passes_submit (h : c.framer.Consistent more) (text : Text) (execAnyway : Bool) :
    Framer.Passes more c.framer (c.submit text execAnyway).2.framer := by
  obtain ⟨refusal, hr⟩ | hr := c.submit_cases text execAnyway
  · rw [hr]
    exact .refl h
  · rw [hr]
    exact h.passes_submit text execAnyway

theorem passes_interrupt (h : c.framer.Consistent more) :
    Framer.Passes more c.framer c.interrupt.2.framer := by
  have hnote : Framer.Passes more c.framer c.framer.interrupt.2 :=
    .of_eq (h.of_eq rfl rfl rfl rfl) (Framer.commands_interrupt c.framer)
  rcases c.framer_interrupt with he | he
  · rw [he]
    exact hnote
  · rw [he]
    exact hnote.trans hnote.consistent.passes_finish

/-- **Every act keeps what holds at all times.** -/
theorem passes_act (h : c.framer.Consistent more) {a : Act γ} (ha : a.isPlain = true)
    (hx : c.Honest) (hx' : (c.act a).Honest) :
    Framer.Passes (c.wantsMore more a) c.framer (c.act a).framer := by
  cases a with
  | enter line => exact passes_submit h line false
  | run text => exact passes_submit h text true
  | interrupt => exact passes_interrupt h
  | proceed g => exact .of_eq (h.of_eq rfl rfl rfl rfl) rfl
  | notice n =>
    cases n with
    | ready => exact .refl h
    | response m =>
      cases hi : c.framer.inFlight with
      | none =>
        have hkept : (c.act (.notice (.response m))).framer = c.framer :=
          Framer.respond_of_none hi m
        have hmore : c.wantsMore more (.notice (.response m)) = more := by simp [wantsMore, hi]
        rw [hkept, hmore]
        exact .refl h
      | some lastLine =>
        have hsome : c.framer.inFlight.isSome = true := by rw [hi]; rfl
        have hmore : c.wantsMore more (.notice (.response m)) = m := by simp [wantsMore, hi]
        rw [hmore]
        exact h.passes_respond hsome m hx'
    | executed => exact h.passes_commandExecuted hx
    | inputRequested => cases ha
    | promptRequested prompt => cases ha
    | output stream text => exact .of_ask h (.writeOutput stream text)
    | exited code =>
      have hreset : Framer.Passes more c.framer c.framer.reset := .of_reset c.framer
      exact hreset.trans (.of_ask hreset.consistent (.showHint (exitHint code)))

/-- What holds at all times holds behind every run. -/
theorem consistent_acts (h : c.framer.Consistent more) {acts : List (Act γ)}
    (ha : ∀ a ∈ acts, a.isPlain = true)
    (hx : ∀ before, before <+: acts → (before.foldl act c).Honest) :
    (acts.foldl act c).framer.Consistent (c.lastWantsMore more acts) := by
  induction acts generalizing c more with
  | nil => exact h
  | cons a acts ih =>
    have hfirst := hx [a] (List.prefix_cons_inj a |>.mpr (List.nil_prefix))
    have hstep := passes_act h (ha a List.mem_cons_self) (hx [] List.nil_prefix) hfirst
    refine ih hstep.consistent (fun b hb => ha b (List.mem_cons_of_mem _ hb)) fun before hb => ?_
    exact hx (a :: before) ((List.prefix_cons_inj a).mpr hb)

/-- **At rest the console is ready for a new statement.** Behind any run over an interpreter that
waits for no line and executes only what is in flight: if no command is in flight, nothing is being
typed and the last response to a command did not ask for more lines, then no block is open, no
string is open and the prompt is the ordinary one. And a blank command is handed over only if the
last response asked for more. -/
theorem ordinary_of_atRest (g : γ) (screen : Screen) (indentation : Indentation) (capacity : Nat)
    (acts : List (Act γ)) (ha : ∀ a ∈ acts, a.isPlain = true)
    (hx : ∀ before, before <+: acts →
      (before.foldl act (fresh g screen indentation capacity)).Honest) :
    let start := fresh g screen indentation capacity
    let behind (acts : List (Act γ)) : Framer γ := (acts.foldl act start).framer
    ((behind acts).AtRest → start.lastWantsMore false acts = false →
      (behind acts).draft.depth = 0 ∧ (behind acts).draft.region = none ∧
        (behind acts).prompt = .ordinary) ∧
    ∀ before a, before ++ [a] <+: acts → ∃ sent,
      (behind (before ++ [a])).commands = (behind before).commands ++ sent ∧
      ∀ command ∈ sent, Text.isBlank command = true →
        start.lastWantsMore false (before ++ [a]) = true := by
  intro start behind
  have hconsistent (before : List (Act γ)) (hb : before <+: acts) :
      (behind before).Consistent (start.lastWantsMore false before) :=
    consistent_acts (.fresh g screen indentation) (fun b hm => ha b (hb.subset hm))
      fun k hk => hx k (hk.trans hb)
  refine ⟨fun hr hm => ?_, fun before a hb => ?_⟩
  · have h := hconsistent acts List.prefix_rfl
    obtain ⟨hd, hp⟩ := h.atRest hr hm
    refine ⟨hd, ?_, hp⟩
    rw [← Option.not_isSome_iff_eq_none]
    intro hs
    exact absurd ((h.region hs).symm.trans hr.draft) Bool.false_ne_true
  · have hbefore : before <+: acts := (List.prefix_append _ _).trans hb
    have hstep : (before ++ [a]).foldl act start = (before.foldl act start).act a := by
      rw [List.foldl_append]
      rfl
    have hafter := hx _ hb
    rw [hstep] at hafter
    have hpasses := passes_act (hconsistent before hbefore) (ha a (hb.subset (by simp)))
      (hx before hbefore) hafter
    rw [lastWantsMore_concat]
    simp only [behind, hstep]
    exact hpasses.commands

/-- A block is closed, but the interpreter asks for more lines of it, so an empty line is handed
over that ends it there. -/
def reopenedBlock : List (Act Obliging) :=
  [.notice .ready, .enter ['i', 'f', ':'], .enter [' ', 'a'], .enter [], .proceed {},
    .notice (.response true), .enter [], .proceed {}, .notice (.response false)]

/-- Behind the second response the console is at rest. -/
theorem ordinary_of_atRest_reopenedBlock :
    let start := fresh ({} : Obliging) {} {} 8
    let behind (acts : List (Act Obliging)) : Framer Obliging := (acts.foldl act start).framer
    (behind reopenedBlock).commands = [['i', 'f', ':', '\n', ' ', 'a', '\n', '\n'], []] ∧
      (behind reopenedBlock).AtRest ∧ start.lastWantsMore false reopenedBlock = false ∧
      (behind reopenedBlock).draft.depth = 0 ∧ (behind reopenedBlock).draft.region = none ∧
      (behind reopenedBlock).prompt = .ordinary := by
  intro start behind
  have ha : ∀ a ∈ reopenedBlock, a.isPlain = true := by decide
  have hx : ∀ before ∈ reopenedBlock.inits, (before.foldl act start).Honest := by decide +kernel
  have hr : (behind reopenedBlock).AtRest := ⟨by decide, by decide⟩
  have hm : start.lastWantsMore false reopenedBlock = false := by decide
  have hc : (behind reopenedBlock).commands =
      [['i', 'f', ':', '\n', ' ', 'a', '\n', '\n'], []] := by decide
  obtain ⟨hrest, _⟩ := ordinary_of_atRest ({} : Obliging) {} {} 8 reopenedBlock ha fun before hb =>
    hx before ((List.mem_inits _ _).mpr hb)
  refine ⟨hc, hr, hm, ?_⟩
  simp only [behind, start]
  exact hrest hr hm

end LineFraming.Console
