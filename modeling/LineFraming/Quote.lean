import LineFraming.Text.Blank

/-!
# Triple-quoted strings

A string between triple quotes may run over several lines. A line toggles such a region of one
style when it holds an odd number of that style's delimiters, counted from left to right without
overlap.

## Main definitions

* `TripleQuote`: the two styles.
* `TripleQuote.toggles`: whether a line toggles a region of a style.
* `TripleQuote.openedBy`: the style of the region that a line opens.
* `TripleQuote.after`, `TripleQuote.afterLines`: the region that is open behind a line and behind
  several lines.
-/

namespace LineFraming

/-- The style of a triple-quoted string. -/
inductive TripleQuote where
  | double
  | single
  deriving DecidableEq

namespace TripleQuote

/-- The character that the delimiter of a style consists of. -/
def char : TripleQuote → Char
  | double => '\x22'
  | single => '\x27'

/-- How often three characters `q` stand side by side, counted without overlap from the left. -/
def countTriples (q : Char) : Text → Nat
  | a :: b :: c :: rest =>
    if a = q ∧ b = q ∧ c = q then countTriples q rest + 1 else countTriples q (b :: c :: rest)
  | _ => 0

/-- An odd number of delimiters on a line opens or closes a region. -/
def toggles (style : TripleQuote) (line : Text) : Bool :=
  countTriples style.char line % 2 == 1

/-- The style of the region that a line opens, if it opens one. Double quotes win. -/
def openedBy (line : Text) : Option TripleQuote :=
  if toggles double line then some double
  else if toggles single line then some single
  else none

/-- The region that is open behind a line, given the one before it. -/
def after (region : Option TripleQuote) (line : Text) : Option TripleQuote :=
  match region with
  | some style => if style.toggles line then none else some style
  | none => openedBy line

/-- The region that is open behind some lines. -/
def afterLines (region : Option TripleQuote) (lines : List Text) : Option TripleQuote :=
  lines.foldl after region

end TripleQuote

end LineFraming
