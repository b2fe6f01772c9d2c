import LineFraming.Text.Blank

/-!
# Deleted texts

Deleted lines and words are kept, so that they can be inserted again. Texts that are deleted one
right after the other become one text. There is room for sixty texts; then the first one is
replaced.

## Main definitions

* `Editor.KillRing`: the texts, and which one is inserted next.
* `Editor.KillRing.add`: a text was deleted.
* `Editor.KillRing.yank?`, `Editor.KillRing.yankOlder?`: the text to insert.
-/

namespace LineFraming.Editor

/-- What the last command did, as far as it matters for the next one. -/
inductive LastAction where
  | killed
  /-- A text of some length was inserted again. -/
  | yanked (size : Nat)
  | other
  deriving DecidableEq

/-- The texts that were deleted. -/
structure KillRing where
  texts : List Text := []
  /-- Which text is inserted next. -/
  index : Nat := 0
  last : LastAction := .other

namespace KillRing

/-- How many texts are kept. -/
def capacity : Nat := 60

/-- The text that is inserted next. -/
def current (k : KillRing) : Text := k.texts.getD k.index []

/-- A command that neither deletes nor inserts again. -/
def rest (k : KillRing) : KillRing := { k with last := .other }

/-- The place for one more text. -/
def nextIndex (k : KillRing) : Nat :=
  if k.index + 1 = capacity then 0 else if k.texts.isEmpty then 0 else k.index + 1

/-- A text was deleted, before the cursor or behind it. -/
def add (k : KillRing) (t : Text) (ahead : Bool) : KillRing :=
  match k.last with
  | .killed =>
    let joined := if ahead then k.current ++ t else t ++ k.current
    { k with texts := k.texts.set k.index joined }
  | _ =>
    let i := k.nextIndex
    { texts := if i = k.texts.length then k.texts ++ [t] else k.texts.set i t
      index := i
      last := .killed }

/-- The text to insert. -/
def yank? (k : KillRing) : Option (Text × KillRing) :=
  if k.texts.isEmpty then none
  else some (k.current, { k with last := .yanked k.current.length })

/-- The older text to insert in place of the one just inserted, and the length of that. -/
def yankOlder? (k : KillRing) : Option (Nat × Text × KillRing) :=
  match k.last with
  | .yanked size =>
    let k := { k with index := if k.index = 0 then k.texts.length - 1 else k.index - 1 }
    some (size, k.current, { k with last := .yanked k.current.length })
  | _ => none

end KillRing

end LineFraming.Editor
