import LineFraming.Text.Decimal

/-!
# TOML strings

Strings in double quotes have escapes, strings in single quotes have none; with three quotes they
may run over several lines. Controls other than the tab stand in no string.

## Main definitions

* `Toml.lineEnd?`: a line end at the front of a text.
* `Toml.isPlain`: the characters that stand for themselves.
* `Toml.quoted?`: a string on one line.
* `Toml.quotedLines?`: a string in three quotes.
-/

namespace LineFraming.Toml

/-- What follows a line end at the front of a text. -/
def lineEnd? : Text → Option Text
  | '\n' :: rest => some rest
  | '\r' :: '\n' :: rest => some rest
  | _ => none

/-- Characters that stand for themselves in strings and comments: all but controls, and the tab. -/
def isPlain (c : Char) : Bool := c == '\t' || (0x20 ≤ c.toNat && c.toNat != 0x7f)

/-- The blanks within a line. -/
def isSpace (c : Char) : Bool := c == ' ' || c == '\t'

/-- The double quote. -/
def double : Char := '\x22'

/-- The single quote. -/
def single : Char := '\x27'

/-- A character given by its number in some hexadecimal digits at the front of a text. -/
def numbered? (digits : Nat) (t : Text) : Option (Char × Text) := do
  let n ← if t.length < digits then none else Text.hexNumber? (t.take digits)
  if n.isValidChar then some (Char.ofNat n, t.drop digits) else none

/-- The character of an escape, behind its backslash, and what follows. -/
def escape? : Text → Option (Char × Text)
  | [] => none
  | c :: rest =>
    if c = 'b' then some ('\x08', rest)
    else if c = 't' then some ('\t', rest)
    else if c = 'n' then some ('\n', rest)
    else if c = 'f' then some ('\x0c', rest)
    else if c = 'r' then some ('\r', rest)
    else if c = 'e' then some ('\x1b', rest)
    else if c = double ∨ c = '\\' then some (c, rest)
    else if c = 'x' then numbered? 2 rest
    else if c = 'u' then numbered? 4 rest
    else if c = 'U' then numbered? 8 rest
    else none

/-- A string on one line, behind its opening quote: its characters and what follows the closing
quote. Each round of `fuel` takes at least one character. -/
def quoted? (quote : Char) : (fuel : Nat) → Text → Option (Text × Text)
  | 0, _ => none
  | _, [] => none
  | fuel + 1, c :: rest =>
    if c = quote then some ([], rest)
    else if c = '\\' ∧ quote = double then do
      let (e, rest) ← escape? rest
      (quoted? quote fuel rest).map fun r => (e :: r.1, r.2)
    else if isPlain c then (quoted? quote fuel rest).map fun r => (c :: r.1, r.2)
    else none

/-- Drops blanks and line ends. -/
def dropBlankLines : (fuel : Nat) → Text → Text
  | 0, t => t
  | fuel + 1, t =>
    let t := t.dropWhile isSpace
    match lineEnd? t with
    | some rest => dropBlankLines fuel rest
    | none => t

/-- A string in three quotes, behind the opening ones. Up to two quotes may stand before the
closing ones. -/
def quotedLines? (quote : Char) : (fuel : Nat) → Text → Option (Text × Text)
  | 0, _ => none
  | _, [] => none
  | fuel + 1, c :: rest =>
    let run := (c :: rest).takeWhile (· == quote)
    if 3 ≤ run.length then
      let kept := min (run.length - 3) 2
      some (List.replicate kept quote, (c :: rest).drop (kept + 3))
    else if c = '\\' ∧ quote = double then
      match lineEnd? (rest.dropWhile isSpace) with
      | some more => quotedLines? quote fuel (dropBlankLines fuel more)
      | none => do
        let (e, rest) ← escape? rest
        (quotedLines? quote fuel rest).map fun r => (e :: r.1, r.2)
    else
      match lineEnd? (c :: rest) with
      | some more =>
        (quotedLines? quote fuel more).map fun r =>
          ((c :: rest).take (rest.length + 1 - more.length) ++ r.1, r.2)
      | none =>
        if isPlain c then (quotedLines? quote fuel rest).map fun r => (c :: r.1, r.2) else none

end LineFraming.Toml
