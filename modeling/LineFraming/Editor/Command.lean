import LineFraming.Editor.Key
import LineFraming.Editor.Line

/-!
# Commands of the line editor

What the keys mean. A number that is typed with the meta key is a count for the command that
follows; if it is negative, the command goes in the other direction.

## Main definitions

* `Editor.Command`: what can be done while a line is edited.
* `Editor.Command.read?`: the command that some keys stand for, and what follows.
-/

namespace LineFraming.Editor

/-- How the letters of a word change. -/
inductive LetterCase where
  | upper
  | lower
  /-- The first letter is large, the others are small. -/
  | capitalized
  deriving DecidableEq

/-- What can be done while a line is edited. -/
inductive Command where
  /-- A character is typed. -/
  | insert (c : Char) (n : Nat)
  /-- A character is inserted whatever it means as a key. -/
  | quote (c : Char)
  | paste (t : Text)
  | move (m : Movement)
  /-- All that lies on the way of a movement is deleted. -/
  | kill (m : Movement)
  /-- The last deleted text is inserted. -/
  | yank (n : Nat)
  /-- The text just inserted makes room for an older one. -/
  | yankOlder
  | swapCharacters
  | swapWords (n : Nat)
  | recase (letters : LetterCase)
  | undo (n : Nat)
  /-- The line before, the line after, the first line and the line being edited. -/
  | older
  | newer
  | oldest
  | newest
  /-- A line up or down within the text, or the line before or after. -/
  | up
  | down
  | searchBack
  | searchAhead
  /-- Ends a search without a result. -/
  | cancel
  | accept
  | interrupt
  | endInput
  /-- Nothing is done. What was deleted may still be joined with the next deletion. -/
  | ignore
  | nothing
  deriving DecidableEq

namespace Command

/-- Whether deleted texts are joined across a command. -/
def keepsKills : Command → Bool
  | kill (.characters ..) => false
  | kill _ | yank _ | yankOlder | nothing => true
  | _ => false

/-- The count behind a digit and another one. -/
def nextArgument (argument : Int) (digit : Char) : Int :=
  let d : Int := (digit.toNat - '0'.toNat : Nat)
  if argument = -1 then argument * d
  else if argument.natAbs < 1000 then argument * 10 + d
  else argument

/-- The count that is typed before a command, the key of the command, and what follows. -/
def argument? : (fuel : Nat) → Int → Text → Option (Int × Key × Text)
  | 0, _, _ => none
  | fuel + 1, argument, t => do
    let (key, rest) ← Key.read? false t
    match key with
    | { code := .char c, control := false, .. } =>
      if c.isDigit then argument? fuel (nextArgument argument c) rest
      else if c = '-' then argument? fuel argument rest
      else return (argument, key, rest)
    | _ => return (argument, key, rest)

/-- The text of a paste, and what follows. -/
def pasted? : (fuel : Nat) → Text → Option (Text × Text)
  | 0, _ => none
  | _, [] => none
  | fuel + 1, '\x1b' :: rest => do
    let (key, rest) ← Key.afterEscape? false rest
    if key.code = .pasteEnd then return ([], rest) else pasted? fuel rest
  | fuel + 1, c :: rest => (pasted? fuel rest).map fun r => (c :: r.1, r.2)

/-- A text with line feeds as its line ends. -/
def withLineFeeds : Text → Text
  | [] => []
  | '\r' :: '\n' :: rest => '\n' :: withLineFeeds rest
  | '\r' :: rest => '\n' :: withLineFeeds rest
  | c :: rest => c :: withLineFeeds rest

/-- The commands of letters that are typed with the control key. -/
def ofControl (letter : Char) (ahead : Bool) (n : Nat) (lineIsEmpty : Bool) : Command :=
  match letter with
  | 'A' => move .lineStart
  | 'B' => move (.characters (!ahead) n)
  | 'C' | '\\' => interrupt
  | 'D' => if lineIsEmpty then endInput else kill (.characters ahead n)
  | 'E' => move .lineEnd
  | 'F' => move (.characters ahead n)
  | 'G' => cancel
  | 'J' => accept
  | 'K' => kill (if ahead then .lineEnd else .lineStart)
  | 'L' => nothing
  | 'N' => newer
  | 'P' => older
  | 'R' => searchBack
  | 'S' => searchAhead
  | 'T' => swapCharacters
  | 'U' => kill (if ahead then .lineStart else .lineEnd)
  | 'W' => kill (.words (!ahead) .unspaced n)
  | 'Y' => if ahead then yank n else ignore
  | 'Z' => nothing
  | '_' => undo n
  | _ => ignore

/-- The commands of characters that are typed with the meta key. -/
def ofAlt (c : Char) (ahead : Bool) (n : Nat) : Command :=
  match c with
  | '<' => oldest
  | '>' => newest
  | 'B' | 'b' => move (.words (!ahead) .letters n)
  | 'C' | 'c' => recase .capitalized
  | 'D' | 'd' => kill (.words ahead .letters n)
  | 'F' | 'f' => move (.words ahead .letters n)
  | 'L' | 'l' => recase .lower
  | 'T' | 't' => swapWords n
  | 'U' | 'u' => recase .upper
  | 'Y' | 'y' => yankOlder
  | _ => ignore

/-- The commands of keys without a character. -/
def ofCode (key : Key) (ahead : Bool) (n : Nat) : Command :=
  match key.code, key.control, key.alt with
  | .enter, false, false => accept
  | .backspace, false, false => kill (.characters (!ahead) n)
  | .backspace, false, true => kill (.words (!ahead) .letters n)
  | .delete, false, false => kill (.characters ahead n)
  | .escape, false, false => cancel
  | .up, false, false => up
  | .down, false, false => down
  | .left, false, false => move (.characters (!ahead) n)
  | .right, false, false => move (.characters ahead n)
  | .left, _, _ => move (.words (!ahead) .letters n)
  | .right, _, _ => move (.words ahead .letters n)
  | .home, false, false => move .lineStart
  | .last, false, false => move .lineEnd
  | .unlisted, _, _ => nothing
  | _, _, _ => ignore

/-- The command of the key behind a prefix key. -/
def ofPrefixed (key : Key) (ahead : Bool) (n : Nat) : Command :=
  if key = Key.ctrl 'G' ∨ key = { code := .escape } then cancel
  else if key = Key.ctrl 'U' then undo n
  else if key = { code := .backspace } then kill (if ahead then .lineStart else .lineEnd)
  else ignore

/-- The command of a key, which can take more keys. -/
def ofKey? (lineIsEmpty : Bool) (argument : Int) (key : Key) (rest : Text) :
    Option (Command × Text) :=
  let ahead := 0 ≤ argument
  let n := if argument = 0 then 1 else argument.natAbs
  match key with
  | { code := .char c, control := false, alt := false } =>
    some (if ahead then insert c n else ignore, rest)
  | { code := .char 'X', control := true, alt := false } =>
    (Key.read? false rest).map fun r => (ofPrefixed r.1 ahead n, r.2)
  | { code := .char 'Q', control := true, alt := false }
  | { code := .char 'V', control := true, alt := false } =>
    match rest with
    | [] => none
    | c :: rest => some (quote c, rest)
  | { code := .char ']', control := true, alt := back } =>
    (Key.read? true rest).map fun r =>
      match r.1 with
      | { code := .char c, control := false, alt := false } =>
        (move (.occurrence (ahead != back) c n), r.2)
      | _ => (ignore, r.2)
  | { code := .char 'G', control := true, alt := true } => some (cancel, rest)
  | { code := .char c, control := true, alt := false } =>
    some (ofControl c ahead n lineIsEmpty, rest)
  | { code := .char c, control := false, alt := true } => some (ofAlt c ahead n, rest)
  | { code := .pasteStart, control := false, alt := false } =>
    (pasted? (rest.length + 1) rest).map fun r => (paste (withLineFeeds r.1), r.2)
  | key => some (ofCode key ahead n, rest)

/-- The command that some keys stand for, and what follows; `none` if more keys are needed. -/
def read? (waits lineIsEmpty : Bool) (keys : Text) : Option (Command × Text) := do
  let (key, rest) ← Key.read? waits keys
  match key with
  | { code := .char c, control := false, alt := true } =>
    if c.isDigit || c = '-' then
      let start : Int := if c = '-' then -1 else (c.toNat - '0'.toNat : Nat)
      let (argument, key, rest) ← argument? (rest.length + 1) start rest
      ofKey? lineIsEmpty argument key rest
    else ofKey? lineIsEmpty 0 key rest
  | _ => ofKey? lineIsEmpty 0 key rest

end Command

end LineFraming.Editor
