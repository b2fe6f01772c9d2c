import LineFraming.Editor.Command
import LineFraming.Editor.KillRing
import LineFraming.Editor.Undo

/-!
# Reading a line

The state of the line editor while it reads a line, and what the commands do to it. The lines that
were read earlier can be called back; the line being edited is saved then, and comes back behind
the latest of them.

A search goes through the earlier lines. While it lasts, characters add to the text that is
searched for, and the line found is shown. Any command that has no meaning for the search ends it
and is carried out on that line.

## Main definitions

* `Editor.Reading`, `Editor.Reading.start`: the state, and how it begins.
* `Editor.Reading.apply`: what a command does.
* `Editor.Reading.searchStep?`: what a command does during a search.
-/

namespace LineFraming.Editor

/-- A search in the earlier lines. -/
structure Search where
  pattern : Text := []
  /-- Where the search goes on, as a place among the lines. -/
  index : Nat
  /-- Whether it goes to later lines. -/
  ahead : Bool := false
  /-- The line before the search, and the number of changes that were recorded then. -/
  start : Line
  changes : Nat

/-- Where a text is found in a line, as the number of characters before it. -/
def occurrence? (pattern t : Text) : Option Nat :=
  (List.range (t.length + 1)).find? fun i => pattern.isPrefixOf (t.drop i)

/-- The place of a line where the text of a search is found, and where in it. -/
def Search.found? (s : Search) (lines : List Text) : Option (Nat × Nat) :=
  let places := if s.ahead then (List.range lines.length).drop s.index
    else (List.range (s.index + 1)).reverse
  if s.pattern = [] ∨ lines.length ≤ s.index then none
  else places.findSome? fun i => (occurrence? s.pattern (lines.getD i [])).map (i, ·)

/-- The state of the editor while it reads a line. -/
structure Reading where
  line : Line
  undo : Undo := {}
  /-- Which of the earlier lines is shown; their number stands for the line being edited. -/
  shown : Nat
  /-- The line being edited, while an earlier one is shown. -/
  saved : Line := {}
  search : Option Search := none

namespace Reading

/-- The state at the beginning: a text that is there already, and a number of earlier lines. -/
def start (prefilled : Text) (earlier : Nat) : Reading where
  line := { before := prefilled }
  undo := ({} : Undo).inserted 0 prefilled
  shown := earlier

/-! ### Changes -/

/-- Changes the marks for undoing. -/
def mark (r : Reading) (f : Undo → Undo) : Reading := { r with undo := f r.undo }

/-- Moves the cursor. -/
def jump (r : Reading) (m : Movement) : Reading := { r with line := r.line.jump m }

/-- Inserts a text before the cursor. -/
def insertText (r : Reading) (t : Text) : Reading :=
  { r with
    line := { r.line with before := r.line.before ++ t }
    undo := r.undo.inserted r.line.cursor t }

/-- Types a character. -/
def insertChar (r : Reading) (c : Char) : Reading :=
  { r with
    line := { r.line with before := r.line.before ++ [c] }
    undo := r.undo.typed r.line.cursor c }

/-- Deletes a number of characters behind the cursor or before it. -/
def cut (r : Reading) (ahead : Bool) (n : Nat) : Text × Reading :=
  if ahead then
    let t := r.line.after.take n
    (t, { r with
      line := { r.line with after := r.line.after.drop n }
      undo := r.undo.deleted r.line.cursor t })
  else
    let place := r.line.cursor - n
    let t := r.line.before.drop place
    (t, { r with
      line := { r.line with before := r.line.before.take place }
      undo := r.undo.deleted place t })

/-- Puts another text in place of the line. -/
def replace (r : Reading) (t : Text) (cursor : Nat) : Reading :=
  { r with
    line := .ofText t cursor
    undo := (r.undo.deleted 0 r.line.text).inserted 0 t }

/-- How far a deletion goes. At the start or the end of a line it takes the line end. -/
def killReach (l : Line) (m : Movement) : Bool × Nat :=
  match m, l.reach m with
  | .lineStart, (_, 0) => l.reach (.characters false 1)
  | .lineEnd, (_, 0) => l.reach (.characters true 1)
  | _, reach => reach

/-- Deletes what lies on the way of a movement. All but single characters is kept. -/
def kill (r : Reading) (kills : KillRing) (m : Movement) : Reading × KillRing :=
  match killReach r.line m with
  | (_, 0) => (r, kills)
  | (ahead, n) =>
    let (t, r) := r.cut ahead n
    match m with
    | .characters .. => (r, kills)
    | _ => (r, kills.add t ahead)

/-- Exchanges the character before the cursor with the one behind it, or the last two characters at
the end of the line. -/
def swapCharacters (r : Reading) : Reading :=
  if r.line.before = [] ∨ (Text.clusters r.line.text).length < 2 then r
  else
    let r := r.mark (·.begin)
    let r := if r.line.after = [] then r.jump (.characters false 1) else r
    let (t, r) := r.cut true (r.line.reach (.characters true 1)).2
    let r := (r.jump (.characters false 1)).insertText t
    (r.jump (.characters true 1)).mark (·.finish)

/-- Puts a text in place of a part of the line that starts at a place. -/
def replaceAt (r : Reading) (place n : Nat) (t : Text) : Reading :=
  let (_, r) := { r with line := .ofText r.line.text place }.cut true n
  r.insertText t

/-- Exchanges the word at the cursor with the `n`-th one before it. -/
def swapWords (r : Reading) (n : Nat) : Reading :=
  let secondEnd := r.line.jump (.words true .letters n)
  let second := secondEnd.jump (.words false .letters 1)
  let first := second.jump (.words false .letters n)
  let firstEnd := first.jump (.words true .letters 1)
  if first.cursor = second.cursor ∨ second.cursor < firstEnd.cursor then
    { r with line := firstEnd }
  else
    let one := (r.line.text.take firstEnd.cursor).drop first.cursor
    let two := (r.line.text.take secondEnd.cursor).drop second.cursor
    let r := (r.mark (·.begin)).replaceAt second.cursor two.length one
    let r := (r.replaceAt first.cursor one.length two).mark (·.finish)
    { r with line := .ofText r.line.text secondEnd.cursor }

/-- The letters that have another case at a fixed distance, as ranges with a step and the distance
from the small letter to the large one: the alphabets of Latin, Greek and Cyrillic. -/
def smallLetters : List (Nat × Nat × Nat × Nat) :=
  [(0x61, 0x7A, 1, 32), (0xE0, 0xF6, 1, 32), (0xF8, 0xFE, 1, 32), (0x101, 0x12F, 2, 1),
    (0x133, 0x137, 2, 1), (0x13A, 0x148, 2, 1), (0x14B, 0x177, 2, 1), (0x17A, 0x17E, 2, 1),
    (0x3B1, 0x3C1, 1, 32), (0x3C3, 0x3CB, 1, 32), (0x430, 0x44F, 1, 32), (0x450, 0x45F, 1, 80)]

/-- The large letter for a small one. -/
def toLarge (c : Char) : Char :=
  let n := c.toNat
  match smallLetters.find? fun (a, b, step, _) => a ≤ n && n ≤ b && (n - a) % step == 0 with
  | some (_, _, _, distance) => Char.ofNat (n - distance)
  | none => c

/-- The small letter for a large one. -/
def toSmall (c : Char) : Char :=
  let n := c.toNat
  match smallLetters.find? fun (a, b, step, d) =>
      a ≤ n + d && n + d ≤ b && (n + d - a) % step == 0 with
  | some (_, _, _, distance) => Char.ofNat (n + distance)
  | none => c

/-- A word with its letters changed. -/
def recased (letters : LetterCase) (t : Text) : Text :=
  match letters with
  | .upper => t.map toLarge
  | .lower => t.map toSmall
  | .capitalized =>
    match Text.clusters t with
    | [] => []
    | c :: rest => c.map toLarge ++ rest.flatten.map toSmall

/-- Changes the letters of the word behind the cursor. -/
def recase (r : Reading) (letters : LetterCase) : Reading :=
  let ahead := r.line.clustersAfter
  let word := ahead.dropWhile (!WordKind.letters.contains ·)
  if word.isEmpty then r
  else
    let place := r.line.cursor + (extent ahead - extent word)
    let t := (word.takeWhile WordKind.letters.contains).flatten
    ((r.mark (·.begin)).replaceAt place t.length (recased letters t)).mark (·.finish)

/-! ### Earlier lines -/

/-- Shows an earlier line. -/
def showLine (r : Reading) (lines : List Text) (i : Nat) : Reading :=
  let t := lines.getD i []
  { ((r.mark (·.begin)).replace t t.length).mark (·.finish) with shown := i }

/-- Shows the line being edited. -/
def restore (r : Reading) (lines : List Text) : Reading :=
  { r.replace r.saved.text r.saved.cursor with shown := lines.length }

/-- Saves the line being edited, if that is shown. -/
def save (r : Reading) (lines : List Text) : Reading :=
  if r.shown = lines.length then { r with saved := r.line } else r

/-- Shows the line before. -/
def older (r : Reading) (lines : List Text) : Reading :=
  if r.shown = 0 then r else (r.save lines).showLine lines (r.shown - 1)

/-- Shows the line after. -/
def newer (r : Reading) (lines : List Text) : Reading :=
  if r.shown = lines.length then r
  else if r.shown + 1 = lines.length then r.restore lines
  else r.showLine lines (r.shown + 1)

/-! ### Searching -/

/-- Begins a search at the latest line. -/
def startSearch (r : Reading) (lines : List Text) : Reading :=
  if lines = [] then r
  else
    let s : Search :=
      { index := lines.length - 1, start := r.line, changes := r.undo.changes.length }
    { r.mark (·.begin) with search := some s }

/-- Goes on with a search: shows the line that is found, if there is one. -/
def lookUp (r : Reading) (lines : List Text) (s : Search) : Reading :=
  match s.found? lines with
  | some (i, place) =>
    { r.replace (lines.getD i []) place with search := some { s with index := i } }
  | none => { r with search := some s }

/-- What a command does during a search; `none` if it ends the search. -/
def searchStep? (r : Reading) (lines : List Text) (s : Search) : Command → Option Reading
  | .insert c _ => some (r.lookUp lines { s with pattern := s.pattern ++ [c] })
  | .kill (.characters false _) =>
    some { r with search := some { s with pattern := s.pattern.dropLast } }
  | .searchBack =>
    let s := { s with ahead := false }
    some (if 0 < s.index then r.lookUp lines { s with index := s.index - 1 }
      else { r with search := some s })
  | .searchAhead =>
    let s := { s with ahead := true }
    some (if s.index + 1 < lines.length then r.lookUp lines { s with index := s.index + 1 }
      else { r with search := some s })
  | .cancel =>
    let r := (r.replace s.start.text s.start.cursor).mark (·.truncate s.changes)
    some { r with search := none }
  | _ => none

/-- Ends a search. -/
def endSearch (r : Reading) : Reading :=
  if r.search.isSome then { r.mark (·.finish) with search := none } else r

/-! ### Commands -/

/-- What a command does, unless it ends the reading. -/
def apply (r : Reading) (lines : List Text) (kills : KillRing) :
    Command → Reading × KillRing
  | .insert c 1 | .quote c => (r.insertChar c, kills)
  | .insert c n => (r.insertText (List.replicate n c), kills)
  | .paste t => (r.insertText t, kills)
  | .move m => (r.jump m, kills)
  | .kill m => r.kill kills m
  | .yank n =>
    match kills.yank? with
    | some (t, kills) => (r.insertText (List.replicate n t).flatten, kills)
    | none => (r, kills)
  | .yankOlder =>
    match kills.yankOlder? with
    | some (size, t, kills) =>
      (((r.mark (·.begin)).cut false size).2.insertText t |>.mark (·.finish), kills)
    | none => (r, kills)
  | .swapCharacters => (r.swapCharacters, kills)
  | .swapWords n => (r.swapWords n, kills)
  | .recase letters => (r.recase letters, kills)
  | .undo n =>
    let (line, undo) := r.undo.undo r.line n
    ({ r with line := line, undo := undo }, kills)
  | .older => (r.older lines, kills)
  | .newer => (r.newer lines, kills)
  | .oldest => (if r.shown = 0 then r else (r.save lines).showLine lines 0, kills)
  | .newest => (if r.shown = lines.length then r else r.restore lines, kills)
  | .up => ((r.line.moveUp?.map fun l => { r with line := l }).getD (r.older lines), kills)
  | .down => ((r.line.moveDown?.map fun l => { r with line := l }).getD (r.newer lines), kills)
  | .searchBack => (r.startSearch lines, kills)
  | _ => (r, kills)

end Reading

end LineFraming.Editor
