import LineFraming.LineKind

/-!
# A splitter of statements

What framing means, without an interpreter. A splitter puts lines into a group; it knows whether a
block is open and which string is open, and nothing else. A line either stays in the group or
completes it, and a completed group is a command. There is no depth in columns here, nothing is in
flight and nothing waits.

`Splitter.consults` singles out the lines whose fate rests on the flag `block`. A framer has a depth
in the place of that flag, and the two may disagree for a while; every other line is read the same
way whatever the flag says.

## Main definitions

* `Splitter`, `Splitter.read` — the state, and one line
* `Splitter.readAll` — several lines, and the groups they complete
* `Splitter.consults` — whether the fate of a line rests on the open block
* `Splitter.heads` — whether a block is open behind one of several lines
* `Splitter.steady` — no line consults the block where a late response may have closed it
* `Splitter.buffer`, `Splitter.bufferAll` — what is left of the lines

## Main results

* `Splitter.blockRule_read` — a completed group takes its block with it, any other keeps it
* `Splitter.steady_concat` — what the last of several lines has to keep to
-/

namespace LineFraming

/-- The statement that is being put together. -/
structure Splitter where
  /-- The lines so far, without their line feeds. -/
  group : List Text := []
  /-- Whether a block is open. -/
  block : Bool := false
  /-- The triple-quoted string that is open. -/
  region : Option TripleQuote := none
  deriving DecidableEq

namespace Splitter

/-- The command that a group makes: each line with a line feed. -/
def text (group : List Text) : Text := group.flatMap fun line => line ++ ['\n']

@[simp] theorem text_nil : text [] = [] := rfl

@[simp] theorem text_append (group more : List Text) :
    text (group ++ more) = text group ++ text more := List.flatMap_append

@[simp] theorem text_cons (line : Text) (group : List Text) :
    text (line :: group) = line ++ '\n' :: text group := by
  simp [text]

/-- The fate of the group behind a line outside strings, which it already holds. Unless the line
itself keeps the statement open, `stays` tells whether the block does. -/
def conclude (s : Splitter) (line : Text) (stays : Bool) : List (List Text) × Splitter :=
  if line.getLast? = some '\\' then ([], s)
  else if Block.opens line then ([], { s with block := true })
  else if stays then ([], s)
  else ([s.group], {})

/-- A line inside a string. The line that closes the string does not end the block around it. -/
def quote (s : Splitter) (style : TripleQuote) (line : Text) : List (List Text) × Splitter :=
  let s := { s with group := s.group ++ [line] }
  if style.toggles line then { s with region := none }.conclude line s.block else ([], s)

/-- A line outside strings that is not empty. An open block goes on only to the right of the
margin. -/
def extend (i : Indentation) (s : Splitter) (line : Text) : List (List Text) × Splitter :=
  let s := { s with group := s.group ++ [line] }
  match TripleQuote.openedBy line with
  | some style => ([], { s with region := some style })
  | none => s.conclude line (s.block && decide (0 < i.width line))

/-- A group stays as it is or is completed. -/
theorem conclude_cases (s : Splitter) (line : Text) (stays : Bool) :
    (∃ block, s.conclude line stays = ([], { s with block := block })) ∨
      s.conclude line stays = ([s.group], {}) := by
  rw [conclude]
  split
  · exact .inl ⟨s.block, rfl⟩
  · split
    · exact .inl ⟨true, rfl⟩
    · split
      · exact .inl ⟨s.block, rfl⟩
      · exact .inr rfl

/-- A line that goes into the group stays in it or completes it. -/
theorem extend_cases (i : Indentation) (s : Splitter) (line : Text) :
    ((s.extend i line).1 = [] ∧ (s.extend i line).2.group = s.group ++ [line]) ∨
      s.extend i line = ([s.group ++ [line]], {}) := by
  rw [extend]
  cases TripleQuote.openedBy line with
  | some style => exact .inl ⟨rfl, rfl⟩
  | none =>
    dsimp only
    rcases conclude_cases { s with group := s.group ++ [line] } line
      (s.block && decide (0 < i.width line)) with ⟨block, hc⟩ | hc
    · rw [hc]
      exact .inl ⟨rfl, rfl⟩
    · exact .inr hc

theorem group_ne_of_extend {i : Indentation} {s : Splitter} {line : Text}
    (h : (s.extend i line).1 = []) : (s.extend i line).2.group ≠ [] := by
  rcases s.extend_cases i line with ⟨_, hg⟩ | hc
  · rw [hg]
    simp
  · rw [hc] at h
    cases h

/-- One line, of which the blanks at its end do not count: the groups it completes, and the
splitter behind it. An empty line completes what there is; a line at the margin that is no header
first completes the block above it, as an empty line would. -/
def read (i : Indentation) (s : Splitter) (line : Text) : List (List Text) × Splitter :=
  let line := Text.trimEnd line
  match s.region with
  | some style => s.quote style line
  | none =>
    if line = [] then
      if s.group = [] then ([], s) else ([s.group ++ [[]]], {})
    else if s.block && i.width line == 0 && !Block.opens line then
      let (groups, s') := extend i {} line
      ((s.group ++ [[]]) :: groups, s')
    else s.extend i line

/-- Lines one after the other: the groups they complete, and the splitter behind them. -/
def readAll (i : Indentation) : Splitter → List Text → List (List Text) × Splitter
  | s, [] => ([], s)
  | s, line :: lines =>
    let (groups, s) := s.read i line
    let (more, s) := readAll i s lines
    (groups ++ more, s)

theorem readAll_concat (i : Indentation) (s : Splitter) (lines : List Text) (line : Text) :
    readAll i s (lines ++ [line]) =
      ((readAll i s lines).1 ++ ((readAll i s lines).2.read i line).1,
        ((readAll i s lines).2.read i line).2) := by
  induction lines generalizing s with
  | nil => simp [readAll]
  | cons first lines ih => simp [readAll, ih]

/-! ### Lines that leave everything to the block -/

section Plain

variable {i : Indentation} {s : Splitter} {line : Text}

/-- A line that does not keep the statement open itself leaves that to the block. -/
theorem conclude_plain (hl : line.getLast? ≠ some '\\') (ho : Block.opens line = false)
    (stays : Bool) : s.conclude line stays = if stays then ([], s) else ([s.group], {}) := by
  rw [conclude, if_neg hl, if_neg (by simp [ho])]

/-- A line that closes a string and leaves the rest to the block. -/
theorem read_closing {style : TripleQuote} (hr : s.region = some style)
    (ht : style.toggles (Text.trimEnd line) = true)
    (hl : (Text.trimEnd line).getLast? ≠ some '\\') (ho : Block.opens (Text.trimEnd line) = false) :
    s.read i line =
      if s.block then ([], { s with group := s.group ++ [Text.trimEnd line], region := none })
      else ([s.group ++ [Text.trimEnd line]], {}) := by
  rw [read]
  simp only [hr, quote, ht, if_true, conclude_plain hl ho]

/-- A line to the right of the margin that leaves everything to the block. -/
theorem extend_plain (hq : TripleQuote.openedBy line = none) (hl : line.getLast? ≠ some '\\')
    (ho : Block.opens line = false) (hw : 0 < i.width line) :
    s.extend i line =
      if s.block then ([], { s with group := s.group ++ [line] })
      else ([s.group ++ [line]], {}) := by
  rw [extend]
  simp only [hq, conclude_plain hl ho, hw, decide_true, Bool.and_true]

/-- A line at the margin that is no header. -/
theorem read_margin (hr : s.region = none) (hne : Text.trimEnd line ≠ [])
    (ho : Block.opens (Text.trimEnd line) = false) (hw : i.width (Text.trimEnd line) = 0) :
    s.read i line =
      if s.block then
        ((s.group ++ [[]]) :: (extend i {} (Text.trimEnd line)).1,
          (extend i {} (Text.trimEnd line)).2)
      else s.extend i (Text.trimEnd line) := by
  rw [read]
  simp [hr, hne, ho, hw]

end Plain

/-! ### When a block is open -/

/-- A completed group takes its block with it, and a group that is not completed keeps its own. -/
structure BlockRule (s : Splitter) (r : List (List Text) × Splitter) : Prop where
  completed : r.1 ≠ [] → r.2.block = false
  kept : r.1 = [] → s.block = true → r.2.block = true

theorem BlockRule.of_kept {s s' : Splitter} (h : s.block = true → s'.block = true) :
    s.BlockRule ([], s') := ⟨fun hn => absurd rfl hn, fun _ => h⟩

theorem BlockRule.of_completed {s s' : Splitter} {group : List Text} {groups : List (List Text)}
    (h : s'.block = false) : s.BlockRule (group :: groups, s') :=
  ⟨fun _ => h, fun hn => absurd hn (List.cons_ne_nil _ _)⟩

theorem blockRule_conclude (s : Splitter) (line : Text) (stays : Bool) :
    s.BlockRule (s.conclude line stays) := by
  unfold conclude
  split
  · exact .of_kept id
  · split
    · exact .of_kept fun _ => rfl
    · split
      · exact .of_kept id
      · exact .of_completed rfl

theorem blockRule_quote (s : Splitter) (style : TripleQuote) (line : Text) :
    s.BlockRule (s.quote style line) := by
  unfold quote
  dsimp only
  split
  · exact ⟨(blockRule_conclude _ line s.block).completed, (blockRule_conclude _ line s.block).kept⟩
  · exact .of_kept id

theorem blockRule_extend (i : Indentation) (s : Splitter) (line : Text) :
    s.BlockRule (s.extend i line) := by
  unfold extend
  cases TripleQuote.openedBy line with
  | some style => exact .of_kept id
  | none => exact ⟨(blockRule_conclude _ line _).completed, (blockRule_conclude _ line _).kept⟩

/-- A line that is no header opens no block. -/
theorem block_of_extend_empty (i : Indentation) {line : Text} (ho : Block.opens line = false) :
    (extend i {} line).2.block = false := by
  unfold extend
  cases TripleQuote.openedBy line with
  | some style => rfl
  | none =>
    dsimp only
    rw [conclude]
    split
    · rfl
    · rw [if_neg (by simp [ho])]
      rfl

/-- Every line keeps to the rule. -/
theorem blockRule_read (i : Indentation) (s : Splitter) (line : Text) :
    s.BlockRule (s.read i line) := by
  rw [read]
  dsimp only
  generalize Text.trimEnd line = l
  cases s.region with
  | some style => exact s.blockRule_quote style l
  | none =>
    dsimp only
    split
    · split
      · exact .of_kept id
      · exact .of_completed rfl
    · split
      · refine .of_completed (block_of_extend_empty i ?_)
        simp_all
      · exact s.blockRule_extend i l

/-! ### The lines that look at the block -/

/-- Whether the fate of a line rests on the open block: a line that closes a string and does not
keep the statement open itself; or one outside strings that is no header and stands at the margin
behind other lines, or to the right of it and would be complete by itself. -/
def consults (i : Indentation) (s : Splitter) (line : Text) : Bool :=
  let line := Text.trimEnd line
  !Block.opens line &&
    match s.region with
    | some style => style.toggles line && line.getLast? != some '\\'
    | none =>
      line != [] &&
        if i.width line = 0 then s.group != []
        else (TripleQuote.openedBy line).isNone && line.getLast? != some '\\'

/-- Whether a block is open behind one of the lines. -/
def heads (i : Indentation) : Splitter → List Text → Bool
  | _, [] => false
  | s, line :: lines => (s.read i line).2.block || heads i (s.read i line).2 lines

theorem heads_concat (i : Indentation) (s : Splitter) (lines : List Text) (line : Text) :
    heads i s (lines ++ [line]) =
      (heads i s lines || ((readAll i s lines).2.read i line).2.block) := by
  induction lines generalizing s with
  | nil => simp [heads, readAll]
  | cons first lines ih => simp [heads, readAll, ih, Bool.or_assoc]

/-- Once a group has been completed and a block has been opened, no line consults the block. The
two flags say what has happened before the lines. -/
def steady (i : Indentation) (sent headed : Bool) (s : Splitter) : List Text → Bool
  | [] => true
  | line :: lines =>
    let (groups, s') := s.read i line
    !(sent && headed && s.consults i line) &&
      steady i (sent || !groups.isEmpty) (headed || s'.block) s' lines

/-- The last line of steady lines consults the block only if no group has been completed before it,
or no block has been opened. -/
theorem steady_concat (i : Indentation) (sent headed : Bool) (s : Splitter) (lines : List Text)
    (line : Text) :
    steady i sent headed s (lines ++ [line]) =
      (steady i sent headed s lines &&
        !((sent || !(readAll i s lines).1.isEmpty) && (headed || heads i s lines) &&
          (readAll i s lines).2.consults i line)) := by
  induction lines generalizing sent headed s with
  | nil => simp [steady, readAll, heads]
  | cons first lines ih =>
    have hempty (a b : List (List Text)) : (a ++ b).isEmpty = (a.isEmpty && b.isEmpty) := by
      cases a <;> rfl
    simp only [List.cons_append, steady, ih, readAll, heads, hempty, Bool.not_and, Bool.or_assoc,
      Bool.and_assoc]

theorem steady_of_concat {i : Indentation} {sent headed : Bool} {s : Splitter} {lines : List Text}
    {line : Text} (h : steady i sent headed s (lines ++ [line]) = true) :
    steady i sent headed s lines = true := by
  rw [steady_concat, Bool.and_eq_true] at h
  exact h.1

/-! ### What a group leaves in the buffer -/

/-- The buffer behind a line: nothing is left where a completed group leaves nothing behind. -/
def buffer (r : List (List Text) × Splitter) : Option Text :=
  if r.1 ≠ [] ∧ r.2.group = [] then none else some (text r.2.group)

theorem buffer_of_group_ne {groups : List (List Text)} {s : Splitter} (h : s.group ≠ []) :
    buffer (groups, s) = some (text s.group) := if_neg fun hb => h hb.2

/-- The buffer behind several lines, which is the one behind the last of them. -/
def bufferAll (i : Indentation) (lines : List Text) : Option Text :=
  lines.getLast?.bind fun line => buffer ((readAll i {} lines.dropLast).2.read i line)

theorem bufferAll_concat (i : Indentation) (lines : List Text) (line : Text) :
    bufferAll i (lines ++ [line]) = buffer ((readAll i {} lines).2.read i line) := by
  simp [bufferAll]

end Splitter

end LineFraming
