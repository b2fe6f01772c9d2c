import LineFraming.Proofs.Framer.Parting

/-!
# When commands are answered

Lines are submitted one after the other, and the responses come when they come. One would like the
commands not to depend on that, and mostly they do not. They do depend on it where a line consults
the depth while the depth is not the one of the statement being typed: behind a block that has been
sent, before its response, and behind a late response, which sets the depth to zero in the middle
of the next block.

## The condition is exact

`Splitter.steady` says that no line consults the block once a group has been completed and a block
has been opened. Under it every schedule does what the splitter does. Where it fails, take the first
line that consults the block, and two schedules of the lines before it: one without any response,
in which the depth is positive, and the same with one response at the end, in which it is zero. The
line parts the two. What was parted stays parted, since a command that has been issued is not taken
back and a draft only grows.

## Main definitions

* `Framer.Scheduled` — the framers behind lines, with responses at any time
* `Framer.Unanswered` — what is known of the depth without any response

## Main results

* `Framer.Scheduled.digests` — under steady lines every schedule does what the splitter does
* `Framer.Scheduled.exists_parted` — other lines have two schedules that are parted
* `Framer.schedules_agree_iff` — the schedules agree exactly for steady lines
-/

namespace LineFraming.Framer

variable {γ : Type} {start f g : Framer γ} {i : Indentation} {lines : List Text} {line : Text}

/-! ### Steady lines -/

/-- The framer has made of the lines what the splitter makes of them. As long as no group has been
completed, or no block opened, the depth is right. -/
structure Digests (f : Framer γ) (i : Indentation) (lines : List Text) : Prop where
  follows : f.Follows i (Splitter.readAll i {} lines)
  buffer : f.draft.text? = Splitter.bufferAll i lines
  unsent : (Splitter.readAll i {} lines).1 = [] →
    f.inFlight = none ∧ f.RightDepth (Splitter.readAll i {} lines).2
  unheaded : Splitter.heads i {} lines = false →
    f.draft.depth = 0 ∧ (Splitter.readAll i {} lines).2.block = false

namespace Digests

/-- A framer that has just been made. -/
theorem fresh (g : γ) (screen : Screen) :
    Digests { interpreter := g, screen := screen, indentation := i } i [] where
  follows := .fresh g screen
  buffer := rfl
  unsent _ := ⟨rfl, .of_closed rfl rfl⟩
  unheaded _ := ⟨rfl, rfl⟩

theorem proceed (h : f.Digests i lines) (g : γ) : Digests { f with interpreter := g } i lines where
  follows := h.follows.of_eq rfl rfl rfl rfl rfl
  buffer := h.buffer
  unsent := h.unsent
  unheaded := h.unheaded

/-- The depth is right at a steady line, or the line does not look at it. -/
theorem right_or (h : f.Digests i lines)
    (hs : Splitter.steady i false false {} (lines ++ [line]) = true) :
    f.RightDepth (Splitter.readAll i {} lines).2 ∨
      (Splitter.readAll i {} lines).2.consults i line = false := by
  rw [Splitter.steady_concat] at hs
  by_cases hsent : (Splitter.readAll i {} lines).1 = []
  · exact .inl (h.unsent hsent).2
  by_cases hheaded : Splitter.heads i {} lines = true
  · refine .inr ?_
    simp [hsent, hheaded] at hs
    exact hs.2
  · obtain ⟨hd, hb⟩ := h.unheaded (Bool.eq_false_iff.mpr hheaded)
    exact .inl (.of_closed hb hd)

variable [Interpreter γ] [Interpreter.NeverWaits γ] [Interpreter.NeverRefuses γ]

/-- What a steady line does. -/
theorem step (h : f.Digests i lines)
    (hs : Splitter.steady i false false {} (lines ++ [line]) = true) :
    Step f (f.processLine line) (Splitter.readAll i {} lines).2
      ((Splitter.readAll i {} lines).2.read i line) := by
  have hi := h.follows.indentation
  subst hi
  exact h.follows.tracks.step_processLine line (h.right_or hs)

theorem submit (h : f.Digests i lines)
    (hs : Splitter.steady i false false {} (lines ++ [line]) = true) (hn : '\n' ∉ line) :
    (f.submit line false).Digests i (lines ++ [line]) := by
  have hstep := h.step hs
  have hrule := (Splitter.readAll i {} lines).2.blockRule_read i line
  rw [submit_line _ hn]
  refine ⟨?_, ?_, fun hsent => ?_, fun hheaded => ?_⟩
  · rw [Splitter.readAll_concat]
    exact h.follows.processLine (h.right_or hs)
  · rw [Splitter.bufferAll_concat]
    exact hstep.buffer
  · rw [Splitter.readAll_concat] at hsent ⊢
    obtain ⟨hbefore, hread⟩ := List.append_eq_nil_iff.mp hsent
    obtain ⟨hnone, hright⟩ := h.unsent hbefore
    exact ⟨(hstep.unsent hread).trans hnone, hstep.rightDepth hright (hrule.kept hread)⟩
  · rw [Splitter.heads_concat, Bool.or_eq_false_iff] at hheaded
    obtain ⟨hd, _⟩ := h.unheaded hheaded.1
    rw [Splitter.readAll_concat]
    exact ⟨(hstep.depth_eq hheaded.2).trans hd, hheaded.2⟩

theorem answer (h : f.Digests i lines) (hi : f.inFlight.isSome = true) :
    (f.respond false).Digests i lines := by
  refine ⟨h.follows.respond_false hi, ?_, fun hsent => ?_, fun hheaded => ?_⟩
  · rw [draft_respond_false hi]
    exact h.buffer
  · rw [(h.unsent hsent).1] at hi
    cases hi
  · rw [draft_respond_false hi]
    exact ⟨rfl, (h.unheaded hheaded).2⟩

end Digests

/-! ### Schedules -/

variable [Interpreter γ]

/-- The framers behind lines that are submitted one after the other. Whenever a command is in
flight it may be answered, and the interpreter goes on by itself. -/
inductive Scheduled (start : Framer γ) : List Text → Framer γ → Prop where
  | start : Scheduled start [] start
  | line {lines : List Text} {f : Framer γ} (line : Text) :
      Scheduled start lines f → '\n' ∉ line →
      Scheduled start (lines ++ [line]) (f.submit line false)
  | answer {lines : List Text} {f : Framer γ} :
      Scheduled start lines f → f.inFlight.isSome = true →
      Scheduled start lines (f.respond false)
  | proceed {lines : List Text} {f : Framer γ} (g : γ) :
      Scheduled start lines f → Scheduled start lines { f with interpreter := g }

/-- **Under steady lines every schedule does what the splitter does.** -/
theorem Scheduled.digests [Interpreter.NeverWaits γ] [Interpreter.NeverRefuses γ]
    (h₀ : start.Digests i []) (h : Scheduled start lines f)
    (hs : Splitter.steady i false false {} lines = true) : f.Digests i lines := by
  induction h with
  | start => exact h₀
  | line line _ hn ih => exact (ih (Splitter.steady_of_concat hs)).submit hs hn
  | answer _ hi ih => exact (ih hs).answer hi
  | proceed g _ ih => exact (ih hs).proceed g

/-! ### Other lines -/

/-- Without any response the depth of a block that was sent is kept, and the first command stays in
flight. -/
structure Unanswered (f : Framer γ) (i : Indentation) (lines : List Text) : Prop
    extends f.Digests i lines where
  deep : Splitter.heads i {} lines = true → 0 < f.draft.depth
  pending : (Splitter.readAll i {} lines).1 ≠ [] → f.inFlight.isSome = true

variable [Interpreter.NeverWaits γ] [Interpreter.NeverRefuses γ]

theorem Unanswered.submit (h : f.Unanswered i lines)
    (hs : Splitter.steady i false false {} (lines ++ [line]) = true) (hn : '\n' ∉ line) :
    (f.submit line false).Unanswered i (lines ++ [line]) := by
  have hstep := h.step hs
  refine ⟨h.toDigests.submit hs hn, fun hheaded => ?_, fun hsent => ?_⟩
  · rw [submit_line _ hn]
    by_cases hbefore : Splitter.heads i {} lines = true
    · exact hstep.depth_pos (h.deep hbefore)
    · have hblock := (h.unheaded (Bool.eq_false_iff.mpr hbefore)).2
      rw [Splitter.heads_concat, Bool.or_eq_true] at hheaded
      have hopened := hheaded.resolve_left hbefore
      refine (hstep.block hopened).resolve_left fun hb => ?_
      rw [hblock] at hb
      cases hb
  · rw [submit_line _ hn]
    by_cases hread : ((Splitter.readAll i {} lines).2.read i line).1 = []
    · rw [hstep.unsent hread]
      refine h.pending fun hbefore => hsent ?_
      rw [Splitter.readAll_concat, hbefore, hread]
      rfl
    · exact hstep.sent hread

namespace Scheduled

/-- Steady lines may all come before the first response. -/
theorem exists_unanswered (h₀ : start.Digests i []) (hn : ∀ line ∈ lines, '\n' ∉ line)
    (hs : Splitter.steady i false false {} lines = true) :
    ∃ f, Scheduled start lines f ∧ f.Unanswered i lines := by
  induction lines using List.reverseRecOn with
  | nil =>
    exact ⟨start, .start, h₀, fun hh => absurd hh Bool.false_ne_true, fun hr => absurd rfl hr⟩
  | append_singleton lines line ih =>
    have hbefore : Splitter.steady i false false {} lines = true := Splitter.steady_of_concat hs
    obtain ⟨f, hf, hu⟩ := ih (fun l hl => hn l (List.mem_append_left _ hl)) hbefore
    have hline := hn line (by simp)
    exact ⟨_, hf.line line hline, hu.submit hs hline⟩

/-- **Lines that are not steady have two schedules that are parted.** -/
theorem exists_parted (h₀ : start.Digests i []) (hn : ∀ line ∈ lines, '\n' ∉ line)
    (hs : Splitter.steady i false false {} lines = false) :
    ∃ f g before t d, Scheduled start lines f ∧ Scheduled start lines g ∧
      Parted f g before t d := by
  induction lines using List.reverseRecOn with
  | nil => cases hs
  | append_singleton lines line ih =>
    have hlines : ∀ l ∈ lines, '\n' ∉ l := fun l hl => hn l (List.mem_append_left _ hl)
    have hline : '\n' ∉ line := hn line (by simp)
    by_cases hbefore : Splitter.steady i false false {} lines = true
    · rw [Splitter.steady_concat, hbefore] at hs
      simp only [Bool.true_and, Bool.false_or, Bool.not_eq_false', Bool.and_eq_true,
        Bool.not_eq_true', List.isEmpty_eq_false_iff] at hs
      obtain ⟨⟨hsent, hheaded⟩, hc⟩ := hs
      obtain ⟨f, hf, hu⟩ := exists_unanswered h₀ hlines hbefore
      have hi : f.inFlight.isSome = true := hu.pending hsent
      have hd : Discordant f (f.respond false) (Splitter.readAll i {} lines).2 :=
        ⟨hu.follows.tracks, hu.follows.tracks.respond_false hi, indentation_respond_false hi,
          issued_respond_false hi, hu.deep hheaded, by rw [draft_respond_false hi]⟩
      have hleft := hf.line line hline
      have hright := (hf.answer hi).line line hline
      rw [submit_line _ hline] at hleft hright
      have hlooks : (Splitter.readAll i {} lines).2.consults f.indentation line = true := by
        rw [hu.follows.indentation]
        exact hc
      rcases hd.parted hlooks with ⟨t, d, hp⟩ | ⟨t, d, hp⟩
      · exact ⟨_, _, _, t, d, hleft, hright, hp⟩
      · exact ⟨_, _, _, t, d, hright, hleft, hp⟩
    · obtain ⟨f, g, before, t, d, hf, hg, hp⟩ := ih hlines (Bool.eq_false_iff.mpr hbefore)
      have hleft := hf.line line hline
      have hright := hg.line line hline
      rw [submit_line _ hline] at hleft hright
      exact ⟨_, _, before, t, d, hleft, hright, hp.processLine line⟩

end Scheduled

/-- **The commands depend on the schedule exactly where a line consults the depth too late.** Take
any lines and a framer that has just been made. Whenever all commands have been answered, the
commands that were executed and the buffer are the same for every schedule of the responses, if and
only if the lines are steady. -/
theorem schedules_agree_iff (g : γ) (screen : Screen) (i : Indentation) (lines : List Text)
    (hn : ∀ line ∈ lines, '\n' ∉ line) :
    let start : Framer γ := { interpreter := g, screen := screen, indentation := i }
    (∀ f f', Scheduled start lines f → Scheduled start lines f' → f.inFlight = none →
        f'.inFlight = none → f.commands = f'.commands ∧ f.draft.text? = f'.draft.text?) ↔
      Splitter.steady i false false {} lines = true := by
  intro start
  have h₀ : start.Digests i [] := .fresh g screen
  constructor
  · intro hagree
    by_contra hs
    obtain ⟨f, f', before, t, d, hf, hf', hp⟩ :=
      Scheduled.exists_parted h₀ hn (Bool.eq_false_iff.mpr hs)
    obtain ⟨k, ⟨hk, hdestined⟩, hnone⟩ := exists_answered
      (p := fun k => Scheduled start lines k ∧ k.Destined before t)
      (fun _ hi hk => ⟨hk.1.answer hi, hk.2.respond_false hi⟩) ⟨hf, hp.destined⟩
    obtain ⟨k', ⟨hk', hdecided⟩, hnone'⟩ := exists_answered
      (p := fun k => Scheduled start lines k ∧ k.Decided before d)
      (fun _ hi hk => ⟨hk.1.answer hi, hk.2.respond_false hi⟩) ⟨hf', hp.decided⟩
    have hparted : Parted k k' before t d := ⟨hdestined, hdecided, hp.eq_of_prefix⟩
    have hcommands := (hagree k k' hk hk' hnone hnone').1
    apply hparted.issued_ne
    rw [issued, issued, hdestined.inOrder hnone, hdecided.inOrder hnone', hcommands]
  · intro hs f f' hf hf' hnone hnone'
    have hd := hf.digests h₀ hs
    have hd' := hf'.digests h₀ hs
    rw [hd.follows.commands hnone, hd'.follows.commands hnone', hd.buffer, hd'.buffer]
    exact ⟨rfl, rfl⟩

/-- A block behind which everything is told apart by the lines themselves. -/
theorem schedules_agree_iff_of_block :
    let lines : List Text := [['i', 'f', ':'], [' ', 'a'], [], ['w', ':'], [' ', '\\'], []]
    let start : Framer Obliging := { interpreter := {} }
    (∀ line ∈ lines, '\n' ∉ line) ∧ Splitter.steady {} false false {} lines = true ∧
      ((∀ f f', Scheduled start lines f → Scheduled start lines f' → f.inFlight = none →
          f'.inFlight = none → f.commands = f'.commands ∧ f.draft.text? = f'.draft.text?) ↔
        Splitter.steady {} false false {} lines = true) := by
  refine ⟨by decide, by decide, ?_⟩
  exact schedules_agree_iff ({} : Obliging) {} {} _ (by decide)

/-- A statement that is continued behind a block. -/
def continuedBehindBlock : List Text :=
  [['i', 'f', ':'], [' ', 'a'], [], ['y', '\\'], ['1']]

/-- **Pasting is not typing.** If the block is answered behind its last line, the continued
statement is one command; if it is answered behind all lines, its depth is still there when the
last line comes, which stands at the margin and so completes the statement above it. -/
theorem exists_schedules_disagree :
    let start : Framer Obliging := { interpreter := {} }
    ∃ typed pasted, Scheduled start continuedBehindBlock typed ∧
      Scheduled start continuedBehindBlock pasted ∧ typed.inFlight = none ∧
      pasted.inFlight = none ∧
      typed.commands = [['i', 'f', ':', '\n', ' ', 'a', '\n', '\n'], ['y', '\\', '\n', '1', '\n']] ∧
      pasted.commands =
        [['i', 'f', ':', '\n', ' ', 'a', '\n', '\n'], ['y', '\\', '\n', '\n'], ['1', '\n']] := by
  intro start
  have fresh : Scheduled start [] start := .start
  have block := ((fresh.line ['i', 'f', ':'] (by decide)).line [' ', 'a'] (by decide)).line []
    (by decide)
  have typed := ((block.answer (by decide)).line ['y', '\\'] (by decide)).line ['1'] (by decide)
  have pasted := (block.line ['y', '\\'] (by decide)).line ['1'] (by decide)
  refine ⟨_, _, typed.answer (by decide),
    ((pasted.answer (by decide)).answer (by decide)).answer (by decide), ?_⟩
  decide

end LineFraming.Framer
