import LineFraming.Text.Decimal

/-!
# JSON values and their compact text

A value of the data format that the worker speaks. Numbers are told apart only as far as the
messages need: natural numbers below `2 ^ 64` have a value, of all others just their text is kept.
An object keeps its members in order and may hold one name twice.

## Main definitions

* `Json.Value`: null, truth values, numbers, strings, arrays and objects.
* `Json.quote`: a string in quotes, with as few escapes as the format allows.
* `Json.Value.render`: the text of a value without blanks.
-/

namespace LineFraming.Json

/-- A value of the data format. -/
inductive Value where
  | null
  | bool (b : Bool)
  /-- A number written with digits only. -/
  | natural (n : Nat)
  /-- Any other number, as it was written. -/
  | number (written : Text)
  | string (t : Text)
  | array (elements : List Value)
  | object (members : List (Text × Value))

/-- The two letters behind a backslash, or six behind it, that stand for a character. -/
def escaped (c : Char) : Text :=
  if c = '\x22' then ['\\', '\x22']
  else if c = '\\' then ['\\', '\\']
  else if c.toNat = 8 then ['\\', 'b']
  else if c.toNat = 12 then ['\\', 'f']
  else if c = '\n' then ['\\', 'n']
  else if c = '\r' then ['\\', 'r']
  else if c = '\t' then ['\\', 't']
  else if c.toNat < 0x20 then
    ['\\', 'u', '0', '0', Text.hexDigit (c.toNat / 16), Text.hexDigit (c.toNat % 16)]
  else [c]

/-- A string in quotes. Quotes, backslashes and controls are escaped, all else stands for itself. -/
def quote (t : Text) : Text := '\x22' :: (t.flatMap escaped ++ ['\x22'])

namespace Value

mutual

/-- The text of a value without blanks. -/
def render : Value → Text
  | null => "null".toList
  | bool true => "true".toList
  | bool false => "false".toList
  | natural n => Text.decimal n
  | number written => written
  | string t => quote t
  | array elements => '[' :: (renderElements elements ++ [']'])
  | object members => '{' :: (renderMembers members ++ ['}'])

/-- The texts of an array's elements, with commas between them. -/
def renderElements : List Value → Text
  | [] => []
  | [v] => render v
  | v :: w :: rest => render v ++ ',' :: renderElements (w :: rest)

/-- The texts of an object's members, with commas between them. -/
def renderMembers : List (Text × Value) → Text
  | [] => []
  | [(name, v)] => quote name ++ ':' :: render v
  | (name, v) :: m :: rest => quote name ++ ':' :: (render v ++ ',' :: renderMembers (m :: rest))

end

/-- The value of the only member with a name; `none` without one or with several. -/
def member? (name : Text) (members : List (Text × Value)) : Option Value :=
  match members.filter fun m => m.1 == name with
  | [m] => some m.2
  | _ => none

end Value

end LineFraming.Json
