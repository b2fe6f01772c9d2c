import LineFraming.Text.Alphanumeric
import LineFraming.Text.Blank

/-!
# Block headers

A line opens a block when the last character of its code is a colon. The code of a line is what
stands outside string literals and before a `#` comment; a literal starts at a quote, ends at the
next quote of the same kind, and inside it a backslash takes the next character with it. A line
that ends inside a literal has no last character, so it opens nothing.

A few headers continue the statement that the block above belongs to (`else:`), so they stand one
level to the left of that block.

## Main definitions

* `Block.lastCodeChar`: the last character of a line's code that is not blank.
* `Block.opens`: whether a line opens a block.
* `Block.continues`: whether a line continues the statement of the block above.
-/

namespace LineFraming.Block

/-- The single quote. -/
def singleQuote : Char := '\x27'

/-- The double quote. -/
def doubleQuote : Char := '\x22'

/-- Where a scan of a line stands. -/
inductive Place where
  /-- Outside literals. -/
  | code
  /-- Inside a literal that ends at `quote`; `escaped` after a backslash. -/
  | literal (quote : Char) (escaped : Bool)
  deriving DecidableEq

/-- Scans on from a place, where `last` is the last character of code so far. -/
def scan (place : Place) (last : Option Char) : Text → Option Char
  | [] =>
    match place with
    | .code => last
    | .literal _ _ => none
  | c :: rest =>
    match place with
    | .literal quote true => scan (.literal quote false) last rest
    | .literal quote false =>
      if c = '\\' then scan (.literal quote true) last rest
      else if c = quote then scan .code (some c) rest
      else scan (.literal quote false) last rest
    | .code =>
      if c = '#' then last
      else if c = singleQuote ∨ c = doubleQuote then scan (.literal c false) (some c) rest
      else if Text.isBlankChar c then scan .code last rest
      else scan .code (some c) rest

/-- The last character of a line's code that is not blank. A literal counts as its quote. -/
def lastCodeChar (line : Text) : Option Char := scan .code none line

/-- A line opens a block when its code ends in a colon. -/
def opens (line : Text) : Bool := lastCodeChar line == some ':'

/-- The words that start a header which continues the statement of the block above. -/
def continuationWords : List Text :=
  ["else".toList, "elif".toList, "except".toList, "finally".toList]

/-- A header that continues the statement of the block above. -/
def continues (line : Text) : Bool :=
  let header := Text.trimStart line
  continuationWords.contains (header.takeWhile Text.isWordChar) && opens header

end LineFraming.Block
