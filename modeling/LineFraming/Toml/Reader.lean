import LineFraming.Toml.DateTime
import LineFraming.Toml.Number
import LineFraming.Toml.Quoted
import LineFraming.Toml.Table

/-!
# Reading TOML

A document is read expression by expression: headers, keys with values, and lines without either.
The functions take fuel, which bounds their rounds. A round takes at least one character, apart
from those that only choose what to read next, so twice the length of the text is enough.

## Main definitions

* `Toml.keys?`: a key of one or more parts.
* `Toml.value?`: a value.
* `Toml.read`: the entries of a document.
-/

namespace LineFraming.Toml

/-- How many parts a key may have, and how deep arrays and tables in braces may be nested. -/
def maxDepth : Nat := 80

/-! ### Blanks and comments -/

/-- Drops the blanks within a line. -/
def skipSpace (t : Text) : Text := t.dropWhile isSpace

/-- What follows a comment, if there is one. -/
def skipComment : Text → Text
  | '#' :: rest => rest.dropWhile isPlain
  | rest => rest

/-- What follows the rest of a line that holds nothing more. -/
def lineRest? (t : Text) : Option Text :=
  match skipComment (skipSpace t) with
  | [] => some []
  | rest => lineEnd? rest

/-- Drops blanks, comments and line ends. -/
def skipLines : (fuel : Nat) → Text → Text
  | 0, t => t
  | fuel + 1, t =>
    let t := skipComment (skipSpace t)
    match lineEnd? t with
    | some rest => skipLines fuel rest
    | none => t

/-! ### Keys -/

/-- The characters of a key without quotes. -/
def isBare (c : Char) : Bool := c.isAlphanum || c == '-' || c == '_'

/-- One part of a key, with or without quotes. -/
def keyPart? (t : Text) : Option (Text × Text) :=
  match t with
  | [] => none
  | c :: rest =>
    if c = double ∨ c = single then quoted? c (rest.length + 1) rest
    else
      let part := t.takeWhile isBare
      if part.isEmpty then none else some (part, t.dropWhile isBare)

/-- The parts of a key, with points between them, and what follows. -/
def keyParts? : (fuel : Nat) → Text → Option (List Text × Text)
  | 0, _ => none
  | fuel + 1, t => do
    let (part, rest) ← keyPart? (skipSpace t)
    match skipSpace rest with
    | '.' :: rest => (keyParts? fuel rest).map fun r => (part :: r.1, r.2)
    | rest => some ([part], rest)

/-- A key: the parts before the last one, the last one, and what follows. -/
def keys? (t : Text) : Option (List Text × Text × Text) := do
  let (parts, rest) ← keyParts? (t.length + 1) t
  let last ← parts.getLast?
  if maxDepth < parts.length then none else some (parts.dropLast, last, rest)

/-! ### Values -/

/-- The characters of a value without quotes and brackets: all but those that may follow it. -/
def isScalarChar (c : Char) : Bool := !" \t\r\n#=,[]\x7b\x7d".toList.contains c

/-- A value without quotes and brackets. A date and its time may have a space between them. -/
def scalar? (t : Text) : Option (Value × Text) :=
  let word := t.takeWhile isScalarChar
  let rest := t.dropWhile isScalarChar
  let spaced : Option (Text × Text) :=
    match rest with
    | ' ' :: c :: more =>
      if c.isDigit && date? word == some [] then
        some (word ++ ' ' :: (c :: more).takeWhile isScalarChar, more.dropWhile isScalarChar)
      else none
    | _ => none
  let (word, rest) := spaced.getD (word, rest)
  if word = "true".toList then some (.boolean true, rest)
  else if word = "false".toList then some (.boolean false, rest)
  else
    match integer? word with
    | some n => some (.integer n, rest)
    | none =>
      match float? word with
      | some holdable => some (.float holdable, rest)
      | none =>
        if isDateTime word then some (.dateTime, rest)
        else if isHollowInteger word then some (.hollowInteger, rest)
        else none

/-- A string, if a text starts with one. -/
def string? (t : Text) : Option (Text × Text) :=
  match t with
  | a :: rest =>
    if a = double ∨ a = single then
      match rest with
      | b :: c :: more =>
        if a = b ∧ b = c then
          quotedLines? a (more.length + 1) ((lineEnd? more).getD more)
        else quoted? a (rest.length + 1) rest
      | _ => quoted? a (rest.length + 1) rest
    else none
  | [] => none

mutual

/-- A value, where `depth` more arrays and tables may be opened. -/
def value? : (fuel depth : Nat) → Text → Option (Value × Text)
  | 0, _, _ => none
  | _, _, [] => none
  | fuel + 1, depth, c :: rest =>
    if c = double ∨ c = single then (string? (c :: rest)).map fun r => (.string r.1, r.2)
    else if c = '[' then
      match depth with
      | 0 => none
      | depth + 1 => (elements? fuel depth rest).map fun r => (.array r.1, r.2)
    else if c = '{' then
      match depth with
      | 0 => none
      | depth + 1 =>
        (entries? fuel depth {} rest).map fun r => (.table (Node.entryValues r.1.entries), r.2)
    else scalar? (c :: rest)

/-- The elements of an array behind its bracket or behind a comma. -/
def elements? : (fuel depth : Nat) → Text → Option (List Value × Text)
  | 0, _, _ => none
  | fuel + 1, depth, t =>
    match skipLines fuel t with
    | ']' :: rest => some ([], rest)
    | t => do
      let (v, rest) ← value? fuel depth t
      match skipLines fuel rest with
      | ',' :: rest => (elements? fuel depth rest).map fun r => (v :: r.1, r.2)
      | ']' :: rest => some ([v], rest)
      | _ => none

/-- The entries of a table in braces behind its brace or behind a comma. Lines may end on both sides
of an equals sign, but not within a key. -/
def entries? : (fuel depth : Nat) → Table → Text → Option (Table × Text)
  | 0, _, _, _ => none
  | fuel + 1, depth, table, t =>
    match skipLines fuel t with
    | '}' :: rest => some (table, rest)
    | t => do
      let (path, key, rest) ← keys? t
      let rest ← expect? '=' (skipLines fuel rest)
      let (v, rest) ← value? fuel depth (skipLines fuel rest)
      let table ← table.insert? path key v
      match skipLines fuel rest with
      | ',' :: rest => entries? fuel depth table rest
      | '}' :: rest => some (table, rest)
      | _ => none

end

/-! ### Documents -/

/-- A header behind its first bracket, and what follows. -/
def header? (d : Document) (t : Text) : Option (Document × Text) :=
  match t with
  | '[' :: rest => do
    let (path, key, rest) ← keys? rest
    let rest ← expect? ']' (← expect? ']' rest)
    let d ← d.start? path key true
    return (d, rest)
  | rest => do
    let (path, key, rest) ← keys? rest
    let rest ← expect? ']' rest
    let d ← d.start? path key false
    return (d, rest)

/-- A key with a value, and what follows. -/
def assignment? (d : Document) (t : Text) : Option (Document × Text) := do
  let (path, key, rest) ← keys? t
  let rest ← expect? '=' rest
  let (v, rest) ← value? (2 * t.length + 2) maxDepth (skipSpace rest)
  let d ← d.insert? path key v
  return (d, rest)

/-- Reads expressions up to the end. -/
def expressions? : (fuel : Nat) → Document → Text → Option Document
  | 0, _, _ => none
  | fuel + 1, d, t =>
    match skipLines (t.length + 1) t with
    | [] => some d
    | '[' :: rest => do
      let (d, rest) ← header? d rest
      expressions? fuel d (← lineRest? rest)
    | t => do
      let (d, rest) ← assignment? d t
      expressions? fuel d (← lineRest? rest)

/-- The entries of a document; `none` if it is not well formed. A byte order mark may stand at its
start. -/
def read (t : Text) : Option (List (Text × Value)) := do
  let t := if t.head? == some '\uFEFF' then t.tail else t
  let d ← expressions? (t.length + 1) {} t
  let table ← d.finish?
  return Node.entryValues table.entries

end LineFraming.Toml
