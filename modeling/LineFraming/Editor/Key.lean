import LineFraming.Text.Blank

/-!
# Keys

What a terminal sends is read key by key. Most keys are one character; controls stand for letters
that are typed with the control key; arrows and other keys without a character are sequences that
start with an escape, and so is a character that is typed with the meta key.

A sequence that is not complete yet is no key. An escape that nothing follows is a key of its own
only where the editor does not wait for more.

## Main definitions

* `Editor.Key`: a key with its modifiers.
* `Editor.Key.read?`: the first key of a text, and what follows.
-/

namespace LineFraming.Editor

/-- A key without its modifiers. -/
inductive KeyCode where
  | char (c : Char)
  | enter
  | backspace
  | delete
  | tab
  | escape
  | up
  | down
  | left
  | right
  | home
  | last
  | pasteStart
  | pasteEnd
  /-- A key that means nothing here. -/
  | other
  /-- A sequence that no key sends. -/
  | unlisted
  deriving DecidableEq

/-- A key with its modifiers. -/
structure Key where
  code : KeyCode
  control : Bool := false
  alt : Bool := false
  deriving DecidableEq

namespace Key

/-- A letter that is typed with the control key. -/
def ctrl (c : Char) : Key := { code := .char c, control := true }

/-- The key that sends a single character. -/
def ofChar (c : Char) : Key :=
  let n := c.toNat
  if c = '\x08' ∨ c = '\x7f' then { code := .backspace }
  else if c = '\t' then { code := .tab }
  else if c = '\r' then { code := .enter }
  else if c = '\x1b' then { code := .escape }
  else if n < 0x20 then ctrl (Char.ofNat (n + 0x40))
  else if n < 0x80 ∨ 0xA0 ≤ n then { code := .char c }
  else { code := .other }

/-- The keys with one letter behind the bracket. -/
def arrow? : Char → Option KeyCode
  | 'A' => some .up
  | 'B' => some .down
  | 'C' => some .right
  | 'D' => some .left
  | 'F' => some .last
  | 'H' => some .home
  | _ => none

/-- The keys with one digit and a tilde behind the bracket. -/
def numbered : Char → KeyCode
  | '1' | '7' => .home
  | '3' => .delete
  | '4' | '8' => .last
  | '2' | '5' | '6' => .other
  | _ => .unlisted

/-- An arrow with a modifier, which is given by a number. -/
def modified (number letter : Char) : Key :=
  match arrow? letter with
  | none => { code := .unlisted }
  | some code =>
    if number = '3' then { code := code, alt := true }
    else if number = '5' then { code := code, control := true }
    else { code := .other }

/-- A key, and what follows. -/
abbrev Reader := Text → Option (Key × Text)

/-- A key that means nothing, and what follows it. -/
def ignored (code : KeyCode) : Reader := fun rest => some ({ code := code }, rest)

/-- Behind the bracket, a digit and a semicolon. -/
def afterSemicolon? (first : Char) : Reader
  | a :: b :: rest =>
    if !a.isDigit then ignored .unlisted (b :: rest)
    else if b.isDigit then
      match rest with
      | [] => none
      | _ :: rest => ignored .unlisted rest
    else if first = '1' then some (modified a b, rest)
    else ignored (if b = '~' then .other else .unlisted) rest
  | [a] => if a.isDigit then none else ignored .unlisted []
  | [] => none

/-- Behind the bracket, two digits and a semicolon. -/
def afterTwoAndSemicolon? : Reader
  | [] => none
  | a :: rest =>
    if !a.isDigit then ignored .unlisted rest
    else
      match rest with
      | [] => none
      | b :: rest =>
        if b.isDigit then
          match rest with
          | [] => none
          | _ :: rest => ignored .unlisted rest
        else ignored (if b = '~' then .other else .unlisted) rest

/-- Behind the bracket and two digits. -/
def afterTwoDigits? (first second : Char) : Reader
  | [] => none
  | '~' :: rest => ignored .other rest
  | ';' :: rest => afterTwoAndSemicolon? rest
  | third :: rest =>
    if !third.isDigit then ignored .unlisted rest
    else
      match rest with
      | [] => none
      | '~' :: rest =>
        if first = '2' ∧ second = '0' ∧ third = '0' then some ({ code := .pasteStart }, rest)
        else if first = '2' ∧ second = '0' ∧ third = '1' then some ({ code := .pasteEnd }, rest)
        else ignored .unlisted rest
      | _ :: rest => ignored .unlisted rest

/-- Behind the bracket and a digit. -/
def afterDigit? (first : Char) : Reader
  | [] => none
  | '~' :: rest => some ({ code := numbered first }, rest)
  | ';' :: rest => afterSemicolon? first rest
  | second :: rest =>
    if second.isDigit then afterTwoDigits? first second rest
    else if first = '5' ∧ (second = 'C' ∨ second = 'D') then some (modified '5' second, rest)
    else ignored .unlisted rest

/-- Behind the escape and the bracket. -/
def afterBracket? : Reader
  | [] => none
  | '[' :: rest =>
    match rest with
    | [] => none
    | _ :: rest => ignored .other rest
  | c :: rest =>
    if c = '0' ∨ c = '9' then ignored .unlisted rest
    else if c.isDigit then afterDigit? c rest
    else
      match arrow? c with
      | some code => some ({ code := code }, rest)
      | none => ignored (if "Zabcd".toList.contains c then .other else .unlisted) rest

/-- Behind the escape and the letter O. -/
def afterLetter? : Reader
  | [] => none
  | 'M' :: rest => some ({ code := .enter }, rest)
  | 'c' :: rest => some (modified '5' 'C', rest)
  | 'd' :: rest => some (modified '5' 'D', rest)
  | c :: rest => some ({ code := (arrow? c).getD .other }, rest)

/-- Behind an escape. A second escape adds the meta key; a third one is a key. -/
def afterEscape? (second : Bool) : Reader
  | [] => none
  | '[' :: rest => afterBracket? rest
  | 'O' :: rest => afterLetter? rest
  | '\x1b' :: rest =>
    if second then some ({ code := .escape }, rest)
    else if rest.isEmpty then some ({ code := .escape }, [])
    else (afterEscape? true rest).map fun r => ({ r.1 with alt := true }, r.2)
  | c :: rest => some ({ ofChar c with alt := true }, rest)
termination_by t => t.length

/-- The first key of a text. An escape at its end is a key if the editor does not wait. -/
def read? (waits : Bool) : Reader
  | [] => none
  | '\x1b' :: rest =>
    if rest.isEmpty && !waits then some ({ code := .escape }, []) else afterEscape? false rest
  | c :: rest => some (ofChar c, rest)

end Key

end LineFraming.Editor
