import LineFraming.Toml.Value

/-!
# TOML numbers

Integers in four notations and floating-point numbers. Underscores may stand between two digits; a
decimal number has no leading zeros; only decimal numbers have a sign.

The digits of an integer are looked at when its value is needed, and before that only roughly. So
there are texts that stand for an integer as long as nobody asks for its value.

## Main definitions

* `Toml.integer?`: the value of a written integer.
* `Toml.isHollowInteger`: whether a text passes for an integer and has no value.
* `Toml.float?`: whether a written floating-point number fits into double precision.
-/

namespace LineFraming.Toml

/-- The digits of a text where underscores may stand between digits. -/
def plainDigits? (isDigit : Char → Bool) (t : Text) : Option Text :=
  let groups := t.splitOnP (· == '_')
  if groups.all fun g => !g.isEmpty && g.all isDigit then some groups.flatten else none

/-- The digits of a decimal number without leading zeros. -/
def wholeDigits? (t : Text) : Option Text := do
  let digits ← plainDigits? Char.isDigit t
  if digits.head? == some '0' && 1 < digits.length then none else some digits

/-- Takes the sign off a text: whether it is negative, and what follows. -/
def spanSign : Text → Bool × Text
  | '-' :: rest => (true, rest)
  | '+' :: rest => (false, rest)
  | rest => (false, rest)

/-- The value of digits in a base of at most sixteen. -/
def valueInBase? (base : Nat) (t : Text) : Option Int := do
  let digits ← plainDigits? (fun c => (Text.hexValue? c).any (· < base)) t
  let n := digits.foldl (fun n c => n * base + (Text.hexValue? c).getD 0) 0
  return n

/-- The value of a written integer. -/
def integer? (t : Text) : Option Int :=
  match t with
  | '0' :: 'x' :: rest => valueInBase? 16 rest
  | '0' :: 'o' :: rest => valueInBase? 8 rest
  | '0' :: 'b' :: rest => valueInBase? 2 rest
  | t => do
    let (negative, rest) := spanSign t
    let n ← (wholeDigits? rest).map Text.decimalValue
    return if negative then -n else n

/-- Whether all underscores of a text stand between digits, of whatever base. -/
def hasInnerUnderscores (t : Text) : Bool :=
  let isDigit (c : Char) : Bool := (Text.hexValue? c).isSome
  let groups := t.splitOnP (· == '_')
  groups.dropLast.all (·.getLast?.any isDigit) && groups.tail.all (·.head?.any isDigit)

/-- Whether a text passes for an integer and has no value: it stops behind the mark of a base, or it
goes on behind some digits and an underscore, in another way than a floating-point number does. -/
def isHollowInteger (t : Text) : Bool :=
  let (_, digits) := spanSign t
  let rest := digits.dropWhile Char.isDigit
  ["0x", "0o", "0b"].any (·.toList == t) ||
    (digits.head?.any (fun c => c.isDigit && c != '0') && rest.head? == some '_' &&
      hasInnerUnderscores digits && !rest.any (fun c => c == '.' || c == 'e' || c == 'E') &&
      (integer? t).isNone)

/-- Whether double precision can hold `digits * 10 ^ exponent`. -/
def isHoldable (digits : Text) (exponent : Int) : Bool :=
  let significant := digits.dropWhile (· == '0')
  let magnitude := significant.length + exponent
  if significant.isEmpty || magnitude < 300 then true
  else if 310 < magnitude then false
  else
    let n := Text.decimalValue significant
    let limit := Nat.pow 2 1024 - Nat.pow 2 970
    if 0 ≤ exponent then n * Nat.pow 10 exponent.toNat < limit
    else n < limit * Nat.pow 10 (-exponent).toNat

/-- The exponent behind its letter. -/
def exponentValue? (t : Text) : Option Int := do
  let (negative, rest) := spanSign t
  let n ← (plainDigits? Char.isDigit rest).map Text.decimalValue
  return if negative then -n else n

/-- Whether a text is a floating-point number, and if so, whether double precision can hold it. -/
def float? (t : Text) : Option Bool :=
  let (_, rest) := spanSign t
  if rest = "inf".toList ∨ rest = "nan".toList then some true
  else do
    let whole := rest.takeWhile fun c => c.isDigit || c == '_'
    let wholeDigits ← wholeDigits? whole
    let rest := rest.drop whole.length
    let (fraction, rest) ← match rest with
      | '.' :: rest =>
        let fraction := rest.takeWhile fun c => c.isDigit || c == '_'
        (plainDigits? Char.isDigit fraction).map (·, rest.drop fraction.length)
      | 'e' :: _ | 'E' :: _ => some ([], rest)
      | _ => none
    let exponent ← match rest with
      | [] => some 0
      | c :: rest => if c = 'e' ∨ c = 'E' then exponentValue? rest else none
    return isHoldable (wholeDigits ++ fraction) (exponent - fraction.length)

end LineFraming.Toml
