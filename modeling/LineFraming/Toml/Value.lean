import LineFraming.Text.Decimal

/-!
# TOML values

A value of the format that the settings are written in. The settings use no floating-point numbers
and no dates, so of these only so much is kept as tells whether they can be read.

## Main definitions

* `Toml.Value`: strings, integers, truth values, arrays and tables, and the rest.
* `Toml.Value.isReadable`: whether a value can be read when it is not used.
-/

namespace LineFraming.Toml

/-- A value of the format. -/
inductive Value where
  | string (t : Text)
  | integer (n : Int)
  /-- An integer whose digits give no value. -/
  | hollowInteger
  /-- A floating-point number, and whether double precision can hold it. -/
  | float (holdable : Bool)
  | boolean (b : Bool)
  | dateTime
  | array (elements : List Value)
  | table (entries : List (Text × Value))

namespace Value

mutual

/-- Whether a value can be read when it is not used: its integers have values that fit into 128
bits, with a sign or without, and its floating-point numbers fit into double precision. -/
def isReadable : Value → Bool
  | integer n => -(2 ^ 127) ≤ n && n < 2 ^ 128
  | hollowInteger => false
  | float holdable => holdable
  | array elements => areReadable elements
  | table entries => haveReadable entries
  | _ => true

/-- Whether all elements of an array can be read. -/
def areReadable : List Value → Bool
  | [] => true
  | v :: rest => isReadable v && areReadable rest

/-- Whether all values of a table can be read. -/
def haveReadable : List (Text × Value) → Bool
  | [] => true
  | (_, v) :: rest => isReadable v && haveReadable rest

end

end Value

end LineFraming.Toml
