import LineFraming.Text.Alphanumeric
import LineFraming.Text.Cluster

/-!
# A line with a cursor

The line that is being edited is cut in two at the cursor. A movement of the cursor is measured in
characters, back or ahead; it never stops within a cluster that lies wholly on one side.

A word is a run of letters and numbers, or a run of anything but blanks. Back from the cursor, what
is no word is passed first, then the word; and ahead likewise.

## Main definitions

* `Editor.Line`: the text on both sides of the cursor.
* `Editor.Movement`, `Editor.Line.reach`: where the cursor can go, and how far that is.
* `Editor.Line.move`, `Editor.Line.jump`: the cursor moves.

## Main results

* `Editor.Line.text_move`, `Editor.Line.text_jump`: a movement leaves the text as it is.
-/

namespace LineFraming.Editor

/-- A line that is being edited. -/
structure Line where
  /-- The text before the cursor. -/
  before : Text := []
  /-- The text behind the cursor. -/
  after : Text := []
  deriving DecidableEq

/-- What words are made of. -/
inductive WordKind where
  /-- Letters and numbers. -/
  | letters
  /-- Anything but blanks. -/
  | unspaced
  deriving DecidableEq

/-- Where the cursor can go. Characters and words have a direction and a count. -/
inductive Movement where
  | lineStart
  | lineEnd
  | characters (ahead : Bool) (n : Nat)
  | words (ahead : Bool) (kind : WordKind) (n : Nat)
  /-- To a character that is searched for: ahead up to the one before it, back up to itself. -/
  | occurrence (ahead : Bool) (c : Char) (n : Nat)
  deriving DecidableEq

/-- Whether a cluster is part of a word. -/
def WordKind.contains (kind : WordKind) (cluster : Text) : Bool :=
  match kind with
  | letters => cluster.all Text.isAlphanumeric
  | unspaced => !cluster.any Text.isBlankChar

/-- How many characters some clusters have. -/
def extent (clusters : List Text) : Nat := clusters.flatten.length

/-- What is left of some clusters behind a number of words. -/
def skipWords (kind : WordKind) : (n : Nat) → List Text → List Text
  | 0, clusters => clusters
  | n + 1, clusters =>
    skipWords kind n ((clusters.dropWhile (!kind.contains ·)).dropWhile kind.contains)

/-- How many characters lie before the `n`-th occurrence of a character, or before the last one if
there are less. -/
def distanceTo? (c : Char) (n : Nat) (t : Text) : Option Nat :=
  let places := (t.zipIdx.filter (·.1 == c)).map (·.2)
  (places.take n).getLast?

namespace Line

/-- The whole text. -/
def text (l : Line) : Text := l.before ++ l.after

/-- The cursor, as the number of characters before it. -/
def cursor (l : Line) : Nat := l.before.length

/-- A text with the cursor behind a number of characters. -/
def ofText (t : Text) (cursor : Nat) : Line := { before := t.take cursor, after := t.drop cursor }

/-- The clusters before the cursor, the nearest first. -/
def clustersBefore (l : Line) : List Text := (Text.clusters l.before).reverse

/-- The clusters behind the cursor. -/
def clustersAfter (l : Line) : List Text := Text.clusters l.after

/-- How many characters a movement takes the cursor. It goes back for `false`, ahead for `true`. -/
def reach (l : Line) : Movement → Bool × Nat
  | .lineStart => (false, (l.before.reverse.takeWhile (· != '\n')).length)
  | .lineEnd => (true, (l.after.takeWhile (· != '\n')).length)
  | .characters false n => (false, extent (l.clustersBefore.take n))
  | .characters true n => (true, extent (l.clustersAfter.take n))
  | .words false kind n =>
    (false, l.before.length - extent (skipWords kind n l.clustersBefore))
  | .words true kind n => (true, l.after.length - extent (skipWords kind n l.clustersAfter))
  | .occurrence false c n => (false, ((distanceTo? c n l.before.reverse).map (· + 1)).getD 0)
  | .occurrence true c n =>
    let first := extent (l.clustersAfter.take 1)
    (true, ((distanceTo? c n (l.after.drop first)).map (· + first - 1)).getD 0)

/-- The cursor goes a number of characters, back or ahead. -/
def move (l : Line) (ahead : Bool) (n : Nat) : Line :=
  ofText l.text (if ahead then l.cursor + n else l.cursor - n)

/-- The cursor makes a movement. -/
def jump (l : Line) (m : Movement) : Line := l.move (l.reach m).1 (l.reach m).2

/-- The cursor goes a line up within the text, if there is a line above. -/
def moveUp? (l : Line) : Option Line :=
  if l.before.contains '\n' then
    let column := (Text.clusters (l.before.reverse.takeWhile (· != '\n')).reverse).length
    let above := l.before.take (l.cursor - (l.reach .lineStart).2 - 1)
    let start := above.length - (above.reverse.takeWhile (· != '\n')).length
    some (ofText l.text (start + extent ((Text.clusters (above.drop start)).take column)))
  else none

/-- The cursor goes a line down within the text, if there is a line below. -/
def moveDown? (l : Line) : Option Line :=
  if l.after.contains '\n' then
    let column := (Text.clusters (l.before.reverse.takeWhile (· != '\n')).reverse).length
    let start := l.cursor + (l.reach .lineEnd).2 + 1
    let below := (l.text.drop start).takeWhile (· != '\n')
    some (ofText l.text (start + extent ((Text.clusters below).take column)))
  else none

/-! ### The text stays -/

@[simp] theorem text_ofText (t : Text) (cursor : Nat) : (ofText t cursor).text = t := by
  rw [ofText, text, List.take_append_drop]

/-- A movement leaves the text as it is. -/
@[simp] theorem text_move (l : Line) (ahead : Bool) (n : Nat) : (l.move ahead n).text = l.text := by
  rw [move, text_ofText]

@[simp] theorem text_jump (l : Line) (m : Movement) : (l.jump m).text = l.text := by
  rw [jump, text_move]

end Line

end LineFraming.Editor
