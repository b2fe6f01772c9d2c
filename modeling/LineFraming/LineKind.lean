import LineFraming.Indentation
import LineFraming.Quote

/-!
# Kinds of lines

What one typed line means for the statement that is being typed. An open string takes precedence
over every other rule; then come the start of a string, blank lines, an explicit continuation and
the indentation.

## Main definitions

* `LineKind`: the kinds.
* `LineKind.ofStatement`: the kind of a line outside strings.
* `LineKind.of`: the kind of a line.
-/

namespace LineFraming

/-- What a typed line means for the statement that is being typed. -/
inductive LineKind where
  /-- Nothing but blanks. -/
  | blank
  /-- Ends in a backslash, which joins the next line. -/
  | continued
  /-- Opens a triple-quoted string. -/
  | opensString (style : TripleQuote)
  /-- Closes the open string. -/
  | closesString
  /-- Stands inside the open string. -/
  | insideString
  /-- The block goes on at `depth` columns. -/
  | indented (depth : Nat)
  /-- Completes the statement. -/
  | complete
  deriving DecidableEq

namespace LineKind

/-- The kind of a line outside strings, where the block has `depth` columns. -/
def ofStatement (i : Indentation) (depth : Nat) (line : Text) : LineKind :=
  if Text.isBlank line then blank
  else if line.getLast? = some '\\' then continued
  else
    let opener := Block.opens line
    let columns := if opener then i.width line + i.unit else i.width line
    if (0 < depth ∧ 0 < columns) ∨ opener then indented columns else complete

/-- The kind of a line, given the open string and the columns of the block. -/
def of (i : Indentation) (region : Option TripleQuote) (depth : Nat) (line : Text) : LineKind :=
  match region with
  | some style => if style.toggles line then closesString else insideString
  | none =>
    match TripleQuote.openedBy line with
    | some style => opensString style
    | none => ofStatement i depth line

end LineKind

end LineFraming
