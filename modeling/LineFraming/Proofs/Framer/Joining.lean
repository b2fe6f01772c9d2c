import LineFraming.Proofs.Framer.Keeping
import LineFraming.Proofs.Framer.Slot

/-!
# Lines that are joined by a backslash

A line that ends in a backslash is kept in the draft, to be joined with the next one. The next line
goes the way of all lines, however. While the depth is positive, a line at the margin that is no
header closes the block above it, and this is decided before the line is put into the draft. So the
draft is sent as it is, with the backslash at its end, and the next line begins a statement. Nothing
else keeps the two apart, neither the indentation of the second line nor a string that it opens.

The depth need not be that of the statement with the backslash. It may be that of a block which is
in flight, or that of a line which the running program has asked for.

Where a text is found behind a line is told by `Placed`, over any interpreter: it may refuse any
request, and a refused command empties the queue.

## Main definitions

* `Framer.Placed` — a text is the draft, the last command, or the last one of the queue

## Main results

* `Framer.placed_dispatch` — a dispatched line comes behind the draft
* `Framer.Placed.not_placed` — what is placed in two parts is not placed as a whole
* `Framer.placed_joined_iff` — when a line is joined with the one before
-/

namespace LineFraming.Framer

variable {γ : Type} {f g h : Framer γ} {t u v : Text}

/-- Between two framers a text was put into the draft, which still holds it or was handed over or
queued with it, and no other command was. -/
inductive Placed (f g : Framer γ) (t : Text) : Prop
  | kept (commands : g.commands = f.commands) (queued : g.queued = f.queued)
      (text : g.draft.text = t)
  | handed (commands : g.commands = f.commands ++ [t]) (text : g.draft.text = [])
  | queued (lastLine : Text) (commands : g.commands = f.commands)
      (queued : g.queued = f.queued ++ [⟨t, lastLine⟩]) (text : g.draft.text = [])

namespace Placed

/-- Only the commands and the queue count from where a text was placed. -/
theorem behind {f' : Framer γ} (hp : Placed f' g t) (hs : Silent f f') : Placed f g t := by
  cases hp with
  | kept commands queued text =>
    exact .kept (commands.trans hs.commands) (queued.trans hs.queued) text
  | handed commands text => exact .handed (hs.commands ▸ commands) text
  | queued lastLine commands queued text =>
    exact .queued lastLine (commands.trans hs.commands) (hs.queued ▸ queued) text

/-- No command is taken back. -/
theorem prefix_commands (hp : Placed f g t) : f.commands <+: g.commands := by
  cases hp with
  | kept commands => exact commands ▸ List.prefix_rfl
  | handed commands => exact commands ▸ List.prefix_append _ _
  | queued _ commands => exact commands ▸ List.prefix_rfl

/-- What is placed in two parts, the first of which is not in the draft any more, is not placed as a
whole: another text was handed over or queued. -/
theorem not_placed (hfirst : Placed f g t) (ht : t ≠ []) (hg : g.draft.text = [])
    (hsecond : Placed g h u) (hvt : v ≠ t) (hvu : v ≠ u) : ¬Placed f h v := by
  intro hwhole
  cases hfirst with
  | kept _ _ text => exact ht (text.symm.trans hg)
  | handed hcommands =>
    -- The first part is the first new command, wherever the second one is.
    have hgrown : f.commands ++ [t] <+: h.commands := hcommands ▸ hsecond.prefix_commands
    have hlonger : f.commands.length + 1 ≤ h.commands.length := by
      simpa using hgrown.length_le
    cases hwhole with
    | kept commands =>
      rw [commands] at hlonger
      omega
    | queued _ commands =>
      rw [commands] at hlonger
      omega
    | handed commands =>
      rw [commands] at hgrown
      exact hvt (by simpa using (hgrown.eq_of_length (by simp)).symm)
  | queued lastLine hcommands hqueued =>
    -- The first part waits in the queue. The second waits behind it, or stays, or is handed over.
    cases hsecond with
    | kept commands queued => cases hwhole <;> simp_all
    | handed commands => cases hwhole <;> simp_all
    | queued _ commands queued => cases hwhole <;> simp_all

end Placed

variable [Interpreter γ] {line : Text}

/-- A draft that is sent is handed over or queued as it is, whether it is taken or not. -/
theorem placed_sendDraft (f : Framer γ) (line : Text) :
    Placed f (f.sendDraft line) f.draft.text := by
  have htext := text_sendDraft f line
  cases hw : f.isWaiting with
  | true => exact .handed (commands_sendDraft_of_waiting hw line) htext
  | false =>
    obtain ⟨k, hk, -, he⟩ := exists_sendDraft hw line
    by_cases hbusy : f.inFlight.isSome = true
    · rw [if_pos hbusy] at he
      rw [he] at htext ⊢
      exact .queued line hk.commands rfl htext
    · rw [if_neg hbusy] at he
      refine .handed ?_ htext
      rw [he, commands_send, hk.commands]

/-- **A dispatched line comes behind the draft,** and the two are kept, handed over or queued as one
text. -/
theorem placed_dispatch (f : Framer γ) (line : Text) :
    Placed f (f.dispatch line) (f.draft.append line).text := by
  refine dispatch_cases (p := fun g => Placed f g (f.draft.append line).text) ?waiting ?kept ?sent
  case waiting => exact fun _ => (placed_sendDraft _ line).behind (.of_draft f _)
  case kept => exact fun g hg _ => .kept hg.silent.commands hg.silent.queued hg.text
  case sent =>
    intro g _ hg _ _
    rw [← hg.text]
    exact (placed_sendDraft g line).behind hg.silent

/-- A draft that is left behind a line holds the line, and no program waits for it. -/
theorem text_dispatch_of_ne (hne : (f.dispatch line).draft.text ≠ []) :
    (f.dispatch line).draft.text = f.draft.text ++ f.draft.addition line ∧
      (f.dispatch line).isWaiting = false := by
  have hsent {k : Framer γ} (hk : (k.sendDraft line).draft.text ≠ []) : False :=
    hk (text_sendDraft k line)
  cases hw : f.isWaiting with
  | true =>
    rw [dispatch_of_waiting hw] at hne
    exact (hsent hne).elim
  | false =>
    revert hne
    refine dispatch_cases
      (p := fun g => g.draft.text ≠ [] →
        g.draft.text = f.draft.text ++ f.draft.addition line ∧ g.isWaiting = false)
      ?waiting ?kept ?sent
    case waiting => exact fun _ hk => (hsent hk).elim
    case sent => exact fun _ _ _ _ _ hk => (hsent hk).elim
    case kept =>
      intro g hg _ _
      exact ⟨hg.text.trans (f.draft.text_append line), hg.silent.isWaiting.trans hw⟩

/-- Outside strings an empty line takes the draft away, unless all is blank. -/
theorem text_dispatch_newline (hr : f.draft.region = none) (hb : f.draft.isBlank = false) :
    (f.dispatch ['\n']).draft.text = [] := by
  refine dispatch_cases (p := fun g => g.draft.text = []) ?waiting ?kept ?sent
  case waiting => exact fun _ => text_sendDraft _ _
  case sent => exact fun g _ _ _ _ => text_sendDraft g _
  case kept =>
    intro g hg hkept
    have hgb : g.draft.isBlank = false := by rw [hg.isBlank, hb, Bool.false_and]
    have hregion : g.draft.region = none := by
      rw [hg.region, hr]
      rfl
    have hstring := hkept.region_of_newline hgb
    rw [hregion] at hstring
    cases hstring

/-- What is kept, handed over or queued behind a trimmed line. -/
theorem placed_dispatch_trimEnd (f : Framer γ) (hne : Text.trimEnd line ≠ []) :
    Placed f (f.dispatch (Text.trimEnd line))
      (f.draft.text ++ (Text.trimEnd line ++ ['\n'])) := by
  have hplaced := placed_dispatch f (Text.trimEnd line)
  rwa [Draft.text_append, f.draft.addition_trimEnd hne] at hplaced

/-- Behind an empty line another one is not joined with the draft. -/
theorem not_placed_of_newline (hr : f.draft.region = none) (hb : f.draft.isBlank = false)
    (hne : Text.trimEnd line ≠ []) :
    ¬Placed f ((f.dispatch ['\n']).dispatch (Text.trimEnd line))
      (f.draft.text ++ (Text.trimEnd line ++ ['\n'])) := by
  have hadds : f.draft.addition ['\n'] = ['\n'] := by
    rw [Draft.addition, hb]
    rfl
  have hfirst := placed_dispatch f ['\n']
  rw [Draft.text_append, hadds] at hfirst
  have hsent := text_dispatch_newline hr hb
  have hsecond := placed_dispatch_trimEnd (f.dispatch ['\n']) hne
  rw [hsent, List.nil_append] at hsecond
  refine hfirst.not_placed (by simp) hsent hsecond (fun he => ?_) fun he => ?_
  · exact hne (by simpa using List.append_cancel_left he)
  · rw [List.append_left_eq_self] at he
    rw [Draft.isBlank, he] at hb
    cases hb

/-- A line that is left behind by itself ends the draft. -/
theorem suffix_processLine (hline : Text.trimEnd line ≠ [])
    (hne : (f.processLine line).draft.text ≠ []) :
    Text.trimEnd line ++ ['\n'] <:+ (f.processLine line).draft.text ∧
      (f.processLine line).isWaiting = false := by
  have hdispatched {k : Framer γ} (hk : (k.dispatch (Text.trimEnd line)).draft.text ≠ []) :
      Text.trimEnd line ++ ['\n'] <:+ (k.dispatch (Text.trimEnd line)).draft.text ∧
        (k.dispatch (Text.trimEnd line)).isWaiting = false := by
    obtain ⟨htext, hw⟩ := text_dispatch_of_ne hk
    rw [htext, k.draft.addition_trimEnd hline]
    exact ⟨List.suffix_append _ _, hw⟩
  revert hne
  exact processLine_cases (p := fun g => g.draft.text ≠ [] →
      Text.trimEnd line ++ ['\n'] <:+ g.draft.text ∧ g.isWaiting = false)
    (fun he => absurd he hline) (fun _ _ => hdispatched) fun _ => hdispatched

/-- **When a line is joined with the one before.** Over every interpreter and behind every framer: a
line that ends in a backslash and is left in the draft, outside strings, ends the draft; and a next
line that is not blank is joined with it, in the draft or in the command that the draft becomes,
unless the line stands at the margin under an open block and is no header. -/
theorem placed_joined_iff {line next : Text} (hline : (Text.trimEnd line).getLast? = some '\\')
    (hne : (f.processLine line).draft.text ≠ []) (hr : (f.processLine line).draft.region = none)
    (hnext : Text.trimEnd next ≠ []) :
    let g := f.processLine line
    Text.trimEnd line ++ ['\n'] <:+ g.draft.text ∧
      (Placed g (g.processLine next) (g.draft.text ++ (Text.trimEnd next ++ ['\n'])) ↔
        ¬(0 < g.draft.depth ∧ g.indentation.width (Text.trimEnd next) = 0 ∧
          Block.opens (Text.trimEnd next) = false)) := by
  intro g
  have htrimmed : Text.trimEnd line ≠ [] := by
    intro he
    rw [he] at hline
    cases hline
  obtain ⟨hsuffix, hw⟩ := suffix_processLine htrimmed hne
  have hb : g.draft.isBlank = false := by
    obtain ⟨before, hbefore⟩ := hsuffix
    rw [Draft.isBlank, ← hbefore, Text.isBlank_append, Text.isBlank_append,
      Text.isBlank_trimEnd_of_ne htrimmed, Bool.false_and, Bool.and_false]
  refine ⟨hsuffix, ?_⟩
  rw [← closesBlock_iff hw hr]
  cases hc : g.closesBlock (Text.trimEnd next) with
  | true =>
    have hflush : g.processLine next = (g.dispatch ['\n']).dispatch (Text.trimEnd next) := by
      simp [processLine, hc, hnext]
    rw [hflush]
    have happart := not_placed_of_newline hr hb hnext
    exact ⟨fun hjoined => absurd hjoined happart, fun hk => absurd rfl hk⟩
  | false =>
    rw [processLine_of_not_closing hc, if_neg hnext]
    exact ⟨fun _ hk => Bool.false_ne_true hk, fun _ => placed_dispatch_trimEnd g hnext⟩

/-- A block is open, and the depth is positive. -/
def insideBlock : Framer Obliging := processLine { interpreter := {} } ['i', 'f', ':']

/-- An indented line is joined inside the block. -/
theorem placed_joined_insideBlock :
    let g := insideBlock.processLine [' ', 'a', '\\', ' ']
    (Text.trimEnd [' ', 'a', '\\', ' ']).getLast? = some '\\' ∧ g.draft.text ≠ [] ∧
      g.draft.region = none ∧ Text.trimEnd [' ', 'b'] ≠ [] ∧
      Placed g (g.processLine [' ', 'b']) "if:\n a\\\n b\n".toList := by
  intro g
  have hline : (Text.trimEnd [' ', 'a', '\\', ' ']).getLast? = some '\\' := by decide
  have hne : g.draft.text ≠ [] := by decide
  have hr : g.draft.region = none := by decide
  have hnext : Text.trimEnd [' ', 'b'] ≠ [] := by decide
  refine ⟨hline, hne, hr, hnext, ?_⟩
  exact (placed_joined_iff hline hne hr hnext).2.mpr (by decide)

/-- A line at the margin is not: the command ends with the backslash, and the line is a command of
its own. -/
theorem exists_not_placed_joined : ∃ (f : Framer Obliging) (line next : Text),
    let g := f.processLine line
    g.isWaiting = false ∧ (Text.trimEnd line).getLast? = some '\\' ∧ g.draft.text ≠ [] ∧
      g.draft.region = none ∧ Text.trimEnd next ≠ [] ∧
      ¬Placed g (g.processLine next) (g.draft.text ++ (Text.trimEnd next ++ ['\n'])) ∧
      (g.processLine next).issued = ["if:\n a\\\n\n".toList, "b\n".toList] := by
  refine ⟨insideBlock, [' ', 'a', '\\'], ['b'], rfl, by decide, by decide, by decide, by decide,
    fun hjoined => ?_, by decide⟩
  cases hjoined with
  | kept commands => exact absurd commands (by decide)
  | handed commands => exact absurd commands (by decide)
  | queued lastLine commands => exact absurd commands (by decide)

end LineFraming.Framer
