import LineFraming.Proofs.Console.Running
import LineFraming.Proofs.Console.Typing
import LineFraming.Proofs.Framer.Slot

/-!
# A string that runs over several lines

The lines of a string are typed one by one. Nothing is sent before the last of them, so the console
is idle in front of each one and takes it, and the lines make one command. The splitter says so
about the lines alone; what is left to show of the console is that it stays idle, which it does as
long as nothing is handed over.

A line is trimmed at its end before anybody asks whether a string is open. Hence the command holds
the lines of the string without the blanks at their ends, and it holds them as they were typed if
and only if there were none. Blanks at the front, empty lines and quotes of the other style are kept
anyway.

## Main definitions

* `Framer.Untouched` — a change of the interpreter comes with a command

## Main results

* `Splitter.text_inj` — a command can be cut back into its lines
* `Splitter.readAll_open`, `Splitter.read_completing` — the lines of a string make one group
* `Console.Follows.enterAll` — lines that complete no group are all taken
* `Console.Follows.enterAll_completing` — the group that a last line completes is executed
* `Console.commands_quoted_iff` — what is executed of a string
-/

namespace LineFraming

namespace Splitter

variable {i : Indentation} {s : Splitter} {style : TripleQuote}

/-- A command can be cut back into its lines, as these hold no line feed. -/
theorem text_inj {ls ms : List Text} (hl : ∀ line ∈ ls, '\n' ∉ line)
    (hm : ∀ line ∈ ms, '\n' ∉ line) : text ls = text ms ↔ ls = ms := by
  refine ⟨fun he => ?_, fun he => by rw [he]⟩
  induction ls generalizing ms with
  | nil =>
    cases ms with
    | nil => rfl
    | cons m ms => simp at he
  | cons l ls ih =>
    cases ms with
    | nil => simp at he
    | cons m ms =>
      rw [List.forall_mem_cons] at hl hm
      rw [text_cons, text_cons] at he
      obtain ⟨rfl, hrest⟩ := Text.append_newline_inj hl.1 hm.1 he
      rw [ih hl.2 hm.2 hrest]

/-- The line that opens a string is the first one of a group. -/
theorem read_opening {line : Text} (ho : TripleQuote.openedBy line = some style) :
    read i {} line = ([], { group := [Text.trimEnd line], region := some style }) := by
  have htrimmed : TripleQuote.openedBy (Text.trimEnd line) = some style := by
    rw [← ho]
    exact TripleQuote.after_trimEnd none line
  have hne : Text.trimEnd line ≠ [] := by
    intro he
    rw [he] at htrimmed
    cases htrimmed
  simp [read, extend, hne, htrimmed]

/-- Lines that do not close the string are added to the group. -/
theorem readAll_inside (hr : s.region = some style) {lines : List Text}
    (h : ∀ line ∈ lines, style.toggles line = false) :
    readAll i s lines = ([], { s with group := s.group ++ lines.map Text.trimEnd }) := by
  induction lines generalizing s with
  | nil => simp [readAll]
  | cons line lines ih =>
    rw [List.forall_mem_cons] at h
    have hread : s.read i line = ([], { s with group := s.group ++ [Text.trimEnd line] }) := by
      simp [read, hr, quote, TripleQuote.toggles_trimEnd, h.1]
    have hrest := @ih { s with group := s.group ++ [Text.trimEnd line] } hr h.2
    rw [List.append_assoc] at hrest
    rw [readAll, hread]
    dsimp only
    rw [hrest]
    rfl

/-- **Behind the line that opens a string** and others that do not close it, all of them are in the
group. -/
theorem readAll_open {first : Text} {inner : List Text}
    (hfirst : TripleQuote.openedBy first = some style)
    (hinner : ∀ line ∈ inner, style.toggles line = false) :
    readAll i {} (first :: inner) =
      ([], { group := (first :: inner).map Text.trimEnd, region := some style }) := by
  rw [readAll, read_opening hfirst]
  dsimp only
  rw [readAll_inside rfl hinner]
  rfl

/-- **The line that closes a string** completes the group, if it completes a statement. -/
theorem read_completing {line : Text} (hr : s.region = some style) (hb : s.block = false)
    (ht : style.toggles line = true)
    (hcomplete : LineKind.ofStatement i 0 (Text.trimEnd line) = .complete) :
    s.read i line = ([s.group ++ [Text.trimEnd line]], {}) := by
  obtain ⟨hslash, hheader⟩ : (Text.trimEnd line).getLast? ≠ some '\\' ∧
      Block.opens (Text.trimEnd line) = false := by
    unfold LineKind.ofStatement at hcomplete
    dsimp only at hcomplete
    split_ifs at hcomplete <;> simp_all
  rw [← TripleQuote.toggles_trimEnd] at ht
  rw [read_closing hr ht hslash hheader, hb]
  rfl

end Splitter

namespace Framer

variable {γ : Type} {f g h : Framer γ} {line : Text}

/-- Commands are added, and without one more command the interpreter stays as it is. -/
structure Untouched (f g : Framer γ) : Prop where
  commands : f.commands <+: g.commands
  interpreter : g.commands = f.commands → g.interpreter = f.interpreter

namespace Untouched

theorem of_silent (h : Silent f g) : Untouched f g :=
  ⟨h.commands ▸ List.prefix_rfl, fun _ => h.interpreter⟩

/-- One more command says nothing about the interpreter. -/
theorem of_concat {command : Text} (h : g.commands = f.commands ++ [command]) : Untouched f g where
  commands := h ▸ List.prefix_append _ _
  interpreter he := by simp [h] at he

theorem trans (hfg : Untouched f g) (hgh : Untouched g h) : Untouched f h where
  commands := hfg.commands.trans hgh.commands
  interpreter he := by
    have hg : g.commands = f.commands :=
      (hfg.commands.eq_of_length_le (he ▸ hgh.commands.length_le)).symm
    rw [hgh.interpreter (he.trans hg.symm), hfg.interpreter hg]

end Untouched

variable [Interpreter γ]

theorem untouched_sendDraft (f : Framer γ) (line : Text) : Untouched f (f.sendDraft line) := by
  cases hw : f.isWaiting with
  | true => exact .of_concat (commands_sendDraft_of_waiting hw line)
  | false =>
    obtain ⟨k, hk, -, he⟩ := exists_sendDraft hw line
    rw [he]
    split
    · exact (Untouched.of_silent hk).trans ⟨List.prefix_rfl, fun _ => rfl⟩
    · exact (Untouched.of_silent hk).trans (.of_concat (commands_send k _))

/-- What the user types reaches the interpreter by commands alone. -/
theorem composes_untouched : Composes (Untouched (γ := γ)) where
  silent := .of_silent
  trans := .trans
  sendDraft := untouched_sendDraft

/-- The slot is filled by a command that is handed over. -/
theorem commands_ne_of_filled (hn : f.inFlight = none)
    (hs : (f.processLine line).inFlight.isSome = true) :
    (f.processLine line).commands ≠ f.commands := by
  obtain ⟨deeds, hsent, -, hfilled⟩ := (composes_orderly.processLine f line).deeds
  rw [hs, hn, Option.isSome_none, Bool.false_or] at hfilled
  obtain ⟨deed, hd, hstarts⟩ := List.any_eq_true.mp hfilled.symm
  rw [commands_eq_sent, hsent, List.filterMap_append, ← commands_eq_sent]
  intro he
  rw [List.append_right_eq_self, List.filterMap_eq_nil_iff] at he
  have hnone := he deed hd
  cases deed with
  | executed => cases hnone
  | interrupted => cases hstarts
  | asked => cases hstarts
  | prompted => cases hstarts

end Framer

namespace Console

variable {γ : Type} [Interpreter γ] {c : Console γ} {i : Indentation}
variable {r : List (List Text) × Splitter} {s : Splitter} {line : Text}

theorem Follows.taken_enter (h : c.Follows i r) (hi : c.Idle) (hn : '\n' ∉ line) :
    c.taken (.enter line) = [line] := by
  rw [taken, enter_of_idle h.enabled hi hn]
  rfl

variable [Interpreter.NeverWaits γ] [Interpreter.NeverRefuses γ]

/-- A line that completes no group leaves the console idle. -/
theorem Follows.idle_enter (h : c.Follows i r) (hi : c.Idle) (hn : '\n' ∉ line)
    (hread : (r.2.read i line).1 = []) : (c.enter line).2.Idle := by
  have hstep := h.framer.tracks.step_processLine line (.inl (h.settled hi.inFlight))
  rw [h.framer.indentation] at hstep
  have hfree : (c.framer.processLine line).inFlight = none :=
    (hstep.unsent hread).trans hi.inFlight
  have hafter := h.enter hi hn
  rw [enter_of_idle h.enabled hi hn] at hafter ⊢
  have hcommands : (c.framer.processLine line).commands = c.framer.commands := by
    rw [hafter.framer.commands hfree, h.framer.commands hi.inFlight, hread, List.append_nil]
  refine ⟨hfree, ?_⟩
  rw [(Framer.composes_untouched.processLine c.framer line).interpreter hcommands]
  exact hi.isExecuting

/-- **Lines that complete no group are all taken,** one behind the other. -/
theorem Follows.enterAll (h : c.Follows i r) (hi : c.Idle) {lines : List Text}
    (hn : ∀ line ∈ lines, '\n' ∉ line) (hread : (Splitter.readAll i r.2 lines).1 = []) :
    let acts := lines.map Act.enter
    (acts.foldl act c).Follows i (r.1, (Splitter.readAll i r.2 lines).2) ∧
      (acts.foldl act c).Idle ∧ c.accepted acts = lines := by
  induction lines generalizing c r with
  | nil => exact ⟨h, hi, rfl⟩
  | cons line lines ih =>
    rw [List.forall_mem_cons] at hn
    obtain ⟨hfirst, hrest⟩ : (r.2.read i line).1 = [] ∧
        (Splitter.readAll i (r.2.read i line).2 lines).1 = [] := List.append_eq_nil_iff.mp hread
    have hafter := h.enter hi hn.1
    rw [hfirst, List.append_nil] at hafter
    obtain ⟨hf, hidle, haccepted⟩ := ih hafter (h.idle_enter hi hn.1 hfirst) hn.2 hrest
    refine ⟨hf, hidle, ?_⟩
    rw [List.map_cons, accepted, h.taken_enter hi hn.1]
    exact congrArg (line :: ·) haccepted

/-- A line that completes the first group is behind the first command. -/
theorem Follows.commands_enter (h : c.Follows i ([], s)) (hi : c.Idle)
    (hn : '\n' ∉ line) {group : List Text} (hread : (s.read i line).1 = [group]) :
    (c.enter line).2.framer.commands = [Splitter.text group] := by
  have hafter := h.enter hi hn
  have hbefore : c.framer.commands = [] := h.framer.commands hi.inFlight
  have hissued : (c.enter line).2.framer.issued = [Splitter.text group] := by
    rw [hafter.framer.issued, hread]
    rfl
  -- The group does not wait in the queue: the slot was free, and only a command fills it.
  have hne : (c.enter line).2.framer.commands ≠ [] := by
    cases hflight : (c.enter line).2.framer.inFlight with
    | none =>
      rw [hafter.framer.commands hflight, hread]
      simp
    | some lastLine =>
      rw [enter_of_idle h.enabled hi hn] at hflight ⊢
      have hadded := Framer.commands_ne_of_filled hi.inFlight (Option.isSome_of_eq_some hflight)
      rwa [hbefore] at hadded
  rcases List.append_eq_singleton_iff.mp hissued with ⟨hnone, -⟩ | ⟨hcommands, -⟩
  · exact absurd hnone hne
  · exact hcommands

/-- **Lines of which the last one completes the first group** are all taken, and the group is
executed behind the last. -/
theorem Follows.enterAll_completing (h : c.Follows i ([], {})) (hi : c.Idle) {init : List Text}
    {last : Text} (hn : ∀ line ∈ init ++ [last], '\n' ∉ line) {group : List Text}
    (hinit : Splitter.readAll i {} init = ([], s)) (hlast : (s.read i last).1 = [group]) :
    let acts := (init ++ [last]).map Act.enter
    c.accepted acts = init ++ [last] ∧
      (acts.foldl act c).framer.commands = [Splitter.text group] := by
  rw [List.forall_mem_append, List.forall_mem_singleton] at hn
  obtain ⟨hfollows, hidle, haccepted⟩ := h.enterAll hi hn.1 (by rw [hinit])
  rw [hinit] at hfollows
  have htaken := hfollows.taken_enter hidle hn.2
  simp only [List.map_append, List.map_singleton, accepted_append, List.foldl_append, haccepted]
  refine ⟨?_, hfollows.commands_enter hidle hn.2 hlast⟩
  rw [accepted, htaken]
  rfl

/-- **What is executed of a string that runs over several lines.** The lines are typed one by one on
a console that has just been enabled: the first opens a string, the last is the first one to close
it and completes a statement. They are all taken, and a single command is executed, which holds the
lines without the blanks at their ends. So they are executed as they were typed if and only if no
line ends with a blank. -/
theorem commands_quoted_iff (g : γ) (hg : Interpreter.isExecuting g = false) (screen : Screen)
    (i : Indentation) (capacity : Nat) {first last : Text} {inner : List Text}
    {style : TripleQuote} (hfirst : TripleQuote.openedBy first = some style)
    (hinner : ∀ line ∈ inner, style.toggles line = false) (hlast : style.toggles last = true)
    (hcomplete : LineKind.ofStatement i 0 (Text.trimEnd last) = .complete)
    (hn : ∀ line ∈ first :: (inner ++ [last]), '\n' ∉ line) :
    let lines := first :: (inner ++ [last])
    let start := (fresh g screen i capacity).notice .ready
    let c := (lines.map Act.enter).foldl act start
    start.accepted (lines.map Act.enter) = lines ∧
      c.framer.commands = [Splitter.text (lines.map Text.trimEnd)] ∧
      (c.framer.commands = [Splitter.text lines] ↔ ∀ line ∈ lines, Text.trimEnd line = line) := by
  intro lines start c
  have hlines : lines = (first :: inner) ++ [last] := rfl
  have hgroup : lines.map Text.trimEnd = (first :: inner).map Text.trimEnd ++ [Text.trimEnd last] :=
    by rw [hlines, List.map_append, List.map_singleton]
  have hread := Splitter.read_completing (i := i)
    (s := { group := (first :: inner).map Text.trimEnd, region := some style }) rfl rfl hlast
    hcomplete
  dsimp only at hread
  rw [← hgroup] at hread
  obtain ⟨haccepted, hcommands⟩ := (Follows.fresh g screen capacity).enterAll_completing
    ⟨rfl, hg⟩ hn (Splitter.readAll_open hfirst hinner) (congrArg Prod.fst hread)
  have htrimmed : ∀ line ∈ lines.map Text.trimEnd, '\n' ∉ line := by
    rw [List.forall_mem_map]
    exact fun line hl hm => hn line hl ((Text.trimEnd_prefix line).subset hm)
  have hc : c.framer.commands = [Splitter.text (lines.map Text.trimEnd)] := hcommands
  refine ⟨haccepted, hc, ?_⟩
  rw [hc, List.singleton_inj, Splitter.text_inj htrimmed hn]
  simpa using List.map_eq_map_iff (f := Text.trimEnd) (g := id) (l := lines)

/-- An empty line, a line that is indented and holds the delimiter of the other style, and a line
that closes the string behind a tab. -/
theorem commands_quoted_otherStyle :
    let first := "s = \x27\x27\x27a".toList
    let inner := [[], "    b \x22\x22\x22".toList]
    let last := "\tc\x27\x27\x27".toList
    let lines := first :: (inner ++ [last])
    let start := (fresh ({} : Obliging) {} {} 8).notice .ready
    TripleQuote.openedBy first = some .single ∧
      (∀ line ∈ inner, TripleQuote.toggles .single line = false) ∧
      TripleQuote.toggles .single last = true ∧
      LineKind.ofStatement {} 0 (Text.trimEnd last) = .complete ∧ (∀ line ∈ lines, '\n' ∉ line) ∧
      start.accepted (lines.map Act.enter) = lines ∧
      ((lines.map Act.enter).foldl act start).framer.commands = [Splitter.text lines] := by
  intro first inner last lines start
  have hfirst : TripleQuote.openedBy first = some .single := by decide
  have hinner : ∀ line ∈ inner, TripleQuote.toggles .single line = false := by decide
  have hlast : TripleQuote.toggles .single last = true := by decide
  have hcomplete : LineKind.ofStatement {} 0 (Text.trimEnd last) = .complete := by decide
  have hn : ∀ line ∈ lines, '\n' ∉ line := by decide
  obtain ⟨haccepted, -, hexact⟩ :=
    commands_quoted_iff ({} : Obliging) rfl {} {} 8 hfirst hinner hlast hcomplete hn
  exact ⟨hfirst, hinner, hlast, hcomplete, hn, haccepted, hexact.mpr (by decide)⟩

/-- Two blanks at the end of a line and a line of blanks are lost, though they are part of the
string. -/
theorem exists_commands_quoted_ne :
    ∃ (first last : Text) (inner : List Text) (style : TripleQuote),
      let lines := first :: (inner ++ [last])
      let start := (fresh ({} : Obliging) {} {} 8).notice .ready
      TripleQuote.openedBy first = some style ∧
        (∀ line ∈ inner, style.toggles line = false) ∧ style.toggles last = true ∧
        LineKind.ofStatement {} 0 (Text.trimEnd last) = .complete ∧ Text.trimEnd last = last ∧
        (∀ line ∈ lines, '\n' ∉ line ∧ '\r' ∉ line) ∧
        ((lines.map Act.enter).foldl act start).framer.commands =
          ["s = \x27\x27\x27ab\n\nc\x27\x27\x27\n".toList] ∧
        ((lines.map Act.enter).foldl act start).framer.commands ≠ [Splitter.text lines] := by
  exact ⟨"s = \x27\x27\x27ab  ".toList, "c\x27\x27\x27".toList, ["  ".toList], .single, by decide,
    by decide, by decide, by decide, by decide, by decide, by decide, by decide⟩

end Console

end LineFraming
