import LineFraming.Quote

/-!
# The statement being typed

Lines collect in a draft until they make a complete statement. Besides the text a draft knows how
deep the block is that the next line belongs to, and which string is open.

## Main definitions

* `Draft`: the text so far, the columns of the block and the open string.
* `Draft.append`: one more line.
* `Draft.take`: the text, which leaves the draft without any.
-/

namespace LineFraming

/-- The state of the statement that is being typed. -/
structure Draft where
  /-- The lines so far, each with its line feed; `none` if no line came since the last command. -/
  text? : Option Text := none
  /-- The columns of the block that the next line belongs to. -/
  depth : Nat := 0
  /-- The triple-quoted string that is open. -/
  region : Option TripleQuote := none
  deriving DecidableEq

namespace Draft

/-- The lines so far. -/
def text (d : Draft) : Text := d.text?.getD []

/-- Whether there is nothing but blanks to send. -/
def isBlank (d : Draft) : Bool := Text.isBlank d.text

/-- A line with its line feed, which is added unless the line brings one. -/
def terminated (line : Text) : Text :=
  if line.getLast? = some '\n' then line else line ++ ['\n']

/-- One more line. A blank line is dropped while there are only blanks. -/
def append (d : Draft) (line : Text) : Draft :=
  if Text.isBlank line && d.isBlank then { d with text? := some d.text }
  else { d with text? := some (d.text ++ terminated line) }

/-- The text, and the draft without it. -/
def take (d : Draft) : Text × Draft := (d.text, { d with text? := none })

@[simp] theorem take_text (d : Draft) : d.take.1 = d.text := rfl

@[simp] theorem text?_take (d : Draft) : d.take.2.text? = none := rfl

end Draft

end LineFraming
