import LineFraming.Editor.Line

/-!
# Undoing changes of a line

Every insertion and every deletion is recorded, the latest first. Letters that are typed one after
the other count as one insertion, and letters that are deleted one by one as one deletion. Changes
between an opening and a closing mark are undone together.

## Main definitions

* `Editor.Undo`: the recorded changes.
* `Editor.Undo.typed`, `Editor.Undo.inserted`, `Editor.Undo.deleted`: one more change.
* `Editor.Undo.begin`, `Editor.Undo.finish`: the marks.
* `Editor.Undo.undo`: the line before the latest changes.
-/

namespace LineFraming.Editor

/-- A recorded change, with the number of characters before it, or a mark. -/
inductive Change where
  | opening
  | closing
  | insertion (place : Nat) (t : Text)
  | deletion (place : Nat) (t : Text)
  deriving DecidableEq

/-- The line before a change. -/
def Change.revert (l : Line) : Change → Line
  | insertion place t => .ofText (l.text.take place ++ l.text.drop (place + t.length)) place
  | deletion place t =>
    .ofText (l.text.take place ++ t ++ l.text.drop place) (place + t.length)
  | _ => l

/-- The recorded changes, the latest first. -/
structure Undo where
  changes : List Change := []
  /-- How many opening marks have no closing mark yet. -/
  unclosed : Nat := 0

namespace Undo

/-- A text was inserted. -/
def inserted (u : Undo) (place : Nat) (t : Text) : Undo :=
  if t = [] then u else { u with changes := .insertion place t :: u.changes }

/-- A character was typed. -/
def typed (u : Undo) (place : Nat) (c : Char) : Undo :=
  match u.changes with
  | .insertion start t :: rest =>
    if Text.isAlphanumeric c ∧ start + t.length = place then
      { u with changes := .insertion start (t ++ [c]) :: rest }
    else u.inserted place [c]
  | _ => u.inserted place [c]

/-- Whether a text is a single cluster of letters or numbers. -/
def isLetter (t : Text) : Bool := (Text.clusters t).length = 1 && WordKind.letters.contains t

/-- A text was deleted. -/
def deleted (u : Undo) (place : Nat) (t : Text) : Undo :=
  if t = [] then u
  else
    match u.changes with
    | .deletion start s :: rest =>
      if isLetter t ∧ start = place then
        { u with changes := .deletion start (s ++ t) :: rest }
      else if isLetter t ∧ start = place + t.length then
        { u with changes := .deletion place (t ++ s) :: rest }
      else { u with changes := .deletion place t :: u.changes }
    | _ => { u with changes := .deletion place t :: u.changes }

/-- Changes follow that are undone together. -/
def begin (u : Undo) : Undo :=
  { changes := .opening :: u.changes, unclosed := u.unclosed + 1 }

/-- Closes a number of marks. A mark that was just opened goes away. -/
def closeMarks : (n : Nat) → List Change → List Change
  | 0, changes => changes
  | n + 1, .opening :: changes => closeMarks n changes
  | n + 1, changes => closeMarks n (.closing :: changes)

/-- The changes that are undone together are complete. -/
def finish (u : Undo) : Undo := { changes := closeMarks u.unclosed u.changes }

/-- Forgets all but a number of changes, the earliest ones. -/
def truncate (u : Undo) (n : Nat) : Undo :=
  { u with changes := u.changes.drop (u.changes.length - n) }

/-- Undoes changes until a number of them is done, where `depth` marks wait for their opening. -/
def revert (l : Line) (n : Nat) (depth : Int) : List Change → Line × List Change
  | [] => (l, [])
  | change :: rest =>
    let depth := match change with
      | .opening => depth - 1
      | .closing => depth + 1
      | _ => depth
    let l := change.revert l
    if 0 < depth then revert l n depth rest
    else
      match n with
      | 0 | 1 => (l, rest)
      | n + 1 => revert l n depth rest

/-- The line before the latest `n` changes. -/
def undo (u : Undo) (l : Line) (n : Nat) : Line × Undo :=
  let (l, changes) := revert l n 0 u.changes
  (l, { u with changes := changes })

/-! ### One change -/

/-- What was inserted is removed. -/
theorem revert_insertion (l : Line) (t : Text) :
    ((Change.insertion l.cursor t).revert { l with before := l.before ++ t }).text = l.text := by
  simp [Change.revert, Line.text, Line.cursor, Line.ofText]

end Undo

end LineFraming.Editor
