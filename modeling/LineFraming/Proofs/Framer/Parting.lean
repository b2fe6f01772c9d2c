import LineFraming.Proofs.Framer.Outcome
import LineFraming.Proofs.Framer.Splitting

/-!
# Where two framers part

Two framers that have issued the same commands and hold the same draft may still have different
depths. The first line that looks at the depth parts them: one of the framers completes a command
there, and the other one does not, or completes a different one.

That they stay parted takes a little care, since a draft that is complete in one framer is not yet
a different command in the other. `Destined` says what is already certain about the next command of
a framer that goes on typing: with which text it starts, and that it will not end there.

## Main definitions

* `Framer.Destined` — the next command is going to start with a text and go on behind it
* `Framer.Decided` — the next command has been issued
* `Framer.Parted` — the next command of one framer is not the one that the other has issued

## Main results

* `Framer.Parted.issued_ne` — parted framers have issued different commands
* `Framer.Discordant.parted` — a line that consults the depth parts framers of different depths
-/

namespace LineFraming

namespace Framer

variable {γ : Type} {f g : Framer γ} {before : List Text} {t d : Text}

/-- The next command behind some commands starts with a text and is longer, unless typing ends
here: it is being typed, or it has been issued. -/
structure Destined (f : Framer γ) (before : List Text) (t : Text) : Prop where
  inOrder : f.InOrder
  cases : (f.issued = before ∧ t <+: f.draft.text ∧ f.draft.isBlank = false) ∨
    ∃ c, before ++ [c] <+: f.issued ∧ t <+: c ∧ c ≠ t

/-- The next command behind some commands has been issued. -/
structure Decided (f : Framer γ) (before : List Text) (d : Text) : Prop where
  inOrder : f.InOrder
  issued : before ++ [d] <+: f.issued

/-- The next command of the one framer cannot become the one that the other has issued. -/
structure Parted (f g : Framer γ) (before : List Text) (t d : Text) : Prop where
  destined : f.Destined before t
  decided : g.Decided before d
  eq_of_prefix : t <+: d → d = t

/-- **Parted framers have issued different commands.** -/
theorem Parted.issued_ne (h : Parted f g before t d) : f.issued ≠ g.issued := by
  intro he
  have hd := h.decided.issued
  rw [← he] at hd
  rcases h.destined.cases with ⟨hi, _, _⟩ | ⟨c, hc, ht, hne⟩
  · rw [hi] at hd
    have hlen := hd.length_le
    rw [List.length_append, List.length_singleton] at hlen
    omega
  · have hcd : before ++ [c] = before ++ [d] :=
      (List.prefix_of_prefix_length_le hc hd (by simp)).eq_of_length (by simp)
    obtain rfl : c = d := by simpa using hcd
    exact hne (h.eq_of_prefix ht)

/-! ### Framers stay parted -/

section Keeps

variable [Interpreter γ] [Interpreter.NeverWaits γ] [Interpreter.NeverRefuses γ]

namespace Decided

theorem dispatch (h : f.Decided before d) (line : Text) : (f.dispatch line).Decided before d := by
  have hout := h.inOrder.outcome_dispatch line
  exact ⟨hout.inOrder, h.issued.trans hout.issued_prefix⟩

theorem processLine (h : f.Decided before d) (line : Text) :
    (f.processLine line).Decided before d :=
  processLine_induction (p := fun g => g.Decided before d) (fun _ l _ hg => hg.dispatch l) h

theorem respond_false (h : f.Decided before d) (hi : f.inFlight.isSome = true) :
    (f.respond false).Decided before d where
  inOrder := .respond_false hi
  issued := issued_respond_false hi ▸ h.issued

end Decided

namespace Destined

/-- Whatever line comes, it makes the draft longer before it can complete it. -/
theorem dispatch (h : f.Destined before t) (line : Text) : (f.dispatch line).Destined before t := by
  have hout := h.inOrder.outcome_dispatch line
  refine ⟨hout.inOrder, ?_⟩
  rcases h.cases with ⟨hi, ht, hb⟩ | ⟨c, hc, ht⟩
  · have hadd := Draft.addition_ne_nil hb line
    have hlonger : t <+: (f.draft.append line).text := by
      rw [Draft.text_append]
      exact ht.trans (List.prefix_append _ _)
    rcases hout.cases with ⟨hissued, htext⟩ | ⟨hissued, _⟩
    · refine .inl ⟨hissued.trans hi, ?_, ?_⟩
      · rw [htext]
        exact hlonger
      · rw [Draft.isBlank] at hb
        rw [Draft.isBlank, htext, Draft.text_append, Text.isBlank_append, hb, Bool.false_and]
    · refine .inr ⟨(f.draft.append line).text, ?_, hlonger, fun he => ?_⟩
      · rw [hissued, ← hi]
        exact List.prefix_rfl
      · have hlen := ht.length_le
        rw [← he, Draft.text_append, List.length_append] at hlen
        have hpos := List.length_pos_iff.mpr hadd
        omega
  · exact .inr ⟨c, hc.trans hout.issued_prefix, ht⟩

theorem processLine (h : f.Destined before t) (line : Text) :
    (f.processLine line).Destined before t :=
  processLine_induction (p := fun g => g.Destined before t) (fun _ l _ hg => hg.dispatch l) h

theorem respond_false (h : f.Destined before t) (hi : f.inFlight.isSome = true) :
    (f.respond false).Destined before t := by
  refine ⟨.respond_false hi, ?_⟩
  rw [issued_respond_false hi, draft_respond_false hi]
  exact h.cases

end Destined

theorem Parted.processLine (h : Parted f g before t d) (line : Text) :
    Parted (f.processLine line) (g.processLine line) before t d :=
  ⟨h.destined.processLine line, h.decided.processLine line, h.eq_of_prefix⟩

end Keeps

/-! ### Told by the splitter -/

namespace Step

variable {s s' : Splitter} {r : List (List Text) × Splitter}

/-- A group that is not completed is going to be the next command. -/
theorem destined (h : Step f g s r) (hr : r.1 = []) (hg : r.2.group ≠ [])
    (ht : t <+: Splitter.text r.2.group) : g.Destined f.issued t := by
  refine ⟨h.tracks.inOrder, .inl ⟨?_, ?_, ?_⟩⟩
  · rw [h.issued, hr]
    simp
  · rw [h.tracks.text]
    exact ht
  · rw [← Bool.not_eq_true, h.tracks.isBlank]
    exact hg

/-- A group that is completed is the next command. -/
theorem decided {group : List Text} {groups : List (List Text)}
    (h : Step f g s (group :: groups, s')) : g.Decided f.issued (Splitter.text group) := by
  refine ⟨h.tracks.inOrder, ?_⟩
  have hp := List.prefix_append (f.issued ++ [Splitter.text group]) (groups.map Splitter.text)
  rw [List.append_assoc, List.singleton_append] at hp
  rw [h.issued, List.map_cons]
  exact hp

end Step

/-! ### The line that parts them -/

/-- Two framers have issued the same commands and hold the same draft, but only one of them has a
depth. -/
structure Discordant (f g : Framer γ) (s : Splitter) : Prop where
  left : f.Tracks s
  right : g.Tracks s
  indentation : g.indentation = f.indentation
  issued : g.issued = f.issued
  deep : 0 < f.draft.depth
  shallow : g.draft.depth = 0

section Part

variable [Interpreter γ] [Interpreter.NeverWaits γ] [Interpreter.NeverRefuses γ]
variable {s : Splitter} {line : Text}

/-- A line that closes a string completes the statement only where no block is open. -/
theorem Discordant.parted_of_closing (h : Discordant f g s) {style : TripleQuote}
    (hr : s.region = some style) (ht : style.toggles (Text.trimEnd line) = true)
    (hl : (Text.trimEnd line).getLast? ≠ some '\\')
    (ho : Block.opens (Text.trimEnd line) = false) :
    ∃ t d, Parted (f.processLine line) (g.processLine line) f.issued t d := by
  have hne : s.group ≠ [] := fun he => by
    rw [(h.left.held he).2] at hr
    cases hr
  have hleft := (h.left.withBlock hne true).step_processLine line (.inl (.of_open rfl h.deep))
  have hright := (h.right.withBlock hne false).step_processLine line
    (.inl (.of_closed rfl h.shallow))
  rw [Splitter.read_closing (s := { s with block := true }) hr ht hl ho, if_pos rfl] at hleft
  rw [Splitter.read_closing (s := { s with block := false }) hr ht hl ho,
    if_neg Bool.false_ne_true] at hright
  refine ⟨_, _, hleft.destined rfl (by simp) List.prefix_rfl, ?_, fun _ => rfl⟩
  rw [← h.issued]
  exact hright.decided

/-- So does a line to the right of the margin. -/
theorem Discordant.parted_of_indented (h : Discordant f g s) (hr : s.region = none)
    (hne : Text.trimEnd line ≠ []) (hq : TripleQuote.openedBy (Text.trimEnd line) = none)
    (hl : (Text.trimEnd line).getLast? ≠ some '\\')
    (ho : Block.opens (Text.trimEnd line) = false)
    (hw : 0 < f.indentation.width (Text.trimEnd line)) :
    ∃ t d, Parted (f.processLine line) (g.processLine line) f.issued t d := by
  have hb := Text.isBlank_trimEnd_of_ne hne
  have hn : (Text.trimEnd line).getLast? ≠ some '\n' := Text.getLast?_trimEnd_ne (by decide)
  have hwg : 0 < g.indentation.width (Text.trimEnd line) := by
    rw [h.indentation]
    exact hw
  have hleft := h.left.step_dispatch_extend true hr hb hn fun _ _ _ _ => .of_open rfl h.deep
  have hright := h.right.step_dispatch_extend false hr hb hn fun _ _ _ _ =>
    .of_closed rfl h.shallow
  rw [Splitter.extend_plain hq hl ho hw, if_pos rfl] at hleft
  rw [Splitter.extend_plain hq hl ho hwg, if_neg Bool.false_ne_true] at hright
  rw [processLine_of_indented hne hw, processLine_of_indented hne hwg]
  refine ⟨_, _, hleft.destined rfl (by simp) List.prefix_rfl, ?_, fun _ => rfl⟩
  rw [← h.issued]
  exact hright.decided

/-- A line at the margin completes the statement above it only where a block is open. Where none
is, the line goes into the statement, so that the next command goes on behind what was completed
on the other side. -/
theorem Discordant.parted_of_margin (h : Discordant f g s) (hr : s.region = none)
    (hg : s.group ≠ []) (hne : Text.trimEnd line ≠ [])
    (ho : Block.opens (Text.trimEnd line) = false)
    (hw : f.indentation.width (Text.trimEnd line) = 0) :
    ∃ t d, Parted (g.processLine line) (f.processLine line) f.issued t d := by
  have hwg : g.indentation.width (Text.trimEnd line) = 0 := by
    rw [h.indentation]
    exact hw
  have hleft := (h.left.withBlock hg true).step_processLine line (.inl (.of_open rfl h.deep))
  have hright := (h.right.withBlock hg false).step_processLine line
    (.inl (.of_closed rfl h.shallow))
  rw [Splitter.read_margin (s := { s with block := true }) hr hne ho hw, if_pos rfl] at hleft
  rw [Splitter.read_margin (s := { s with block := false }) hr hne ho hwg,
    if_neg Bool.false_ne_true] at hright
  refine ⟨Splitter.text s.group ++ Text.trimEnd line, _, ?_, hleft.decided, fun ht => ?_⟩
  · rw [← h.issued]
    have htext : Splitter.text (s.group ++ [Text.trimEnd line]) =
        (Splitter.text s.group ++ Text.trimEnd line) ++ ['\n'] := by simp
    have hprefix := List.prefix_append (Splitter.text s.group ++ Text.trimEnd line) ['\n']
    rw [← htext] at hprefix
    rcases Splitter.extend_cases g.indentation { s with block := false } (Text.trimEnd line) with
      ⟨hr, hgroup⟩ | hr
    · refine hright.destined hr ?_ ?_
      · rw [hgroup]
        simp
      · rw [hgroup]
        exact hprefix
    · rw [hr] at hright
      refine ⟨hright.tracks.inOrder, .inr ⟨_, hright.decided.issued, hprefix, fun he => ?_⟩⟩
      rw [htext] at he
      simpa using congrArg List.length he
  · have hn : (Text.trimEnd line).getLast? ≠ some '\n' := Text.getLast?_trimEnd_ne (by decide)
    rw [Splitter.text_append, List.prefix_append_right_inj] at ht
    rcases List.prefix_cons_iff.mp ht with he | ⟨rest, he, hrest⟩
    · exact absurd he hne
    · obtain rfl := List.prefix_nil.mp hrest
      rw [he] at hn
      exact absurd rfl hn

/-- **A line that consults the depth parts framers of different depths,** one way or the other. -/
theorem Discordant.parted (h : Discordant f g s) (hc : s.consults f.indentation line = true) :
    (∃ t d, Parted (f.processLine line) (g.processLine line) f.issued t d) ∨
      ∃ t d, Parted (g.processLine line) (f.processLine line) f.issued t d := by
  rw [Splitter.consults, Bool.and_eq_true, Bool.not_eq_true'] at hc
  obtain ⟨ho, hc⟩ := hc
  cases hr : s.region with
  | some style =>
    simp only [hr, Bool.and_eq_true, bne_iff_ne] at hc
    exact .inl (h.parted_of_closing hr hc.1 hc.2 ho)
  | none =>
    simp only [hr, Bool.and_eq_true, bne_iff_ne] at hc
    obtain ⟨hne, hc⟩ := hc
    by_cases hw : f.indentation.width (Text.trimEnd line) = 0
    · rw [if_pos hw, bne_iff_ne] at hc
      exact .inr (h.parted_of_margin hr hc hne ho hw)
    · rw [if_neg hw, Bool.and_eq_true, bne_iff_ne, Option.isNone_iff_eq_none] at hc
      exact .inl (h.parted_of_indented hr hne hc.1 hc.2 ho (Nat.pos_iff_ne_zero.mpr hw))

end Part

end Framer

end LineFraming
