import LineFraming.Json.Value

/-!
# JSON numbers

A number is digits, then perhaps a fraction, then perhaps an exponent, and must be finite in
double precision. Only the first digits count for that: those that fit into 64 bits make up the
significand, the others are accounted for by the exponent.

## Main definitions

* `Json.nearestDouble`: a natural number rounded to 53 significant bits.
* `Json.isFinite`: whether a significand with a power of ten is finite.
* `Json.number?`: the value of a written number.
-/

namespace LineFraming.Json

/-- The nearest number with at most 53 significant bits; of two nearest ones the even one. -/
def nearestDouble (n : Nat) : Nat :=
  let shift := n.log2 - 52
  let unit := Nat.pow 2 shift
  let (low, rest) := (n / unit, n % unit)
  if 2 * rest < unit then low * unit
  else if 2 * rest = unit then (low + low % 2) * unit
  else (low + 1) * unit

/-- Whether `significand * 10 ^ exponent` is finite in double precision, where both factors are
rounded first. -/
def isFinite (significand : Nat) (exponent : Int) : Bool :=
  if significand = 0 ∨ exponent < 0 then true
  else if 308 < exponent then false
  else nearestDouble significand * nearestDouble (Nat.pow 10 exponent.toNat) <
    Nat.pow 2 1024 - Nat.pow 2 970

/-- Puts digits behind a number as long as it stays below `2 ^ 64`: the number and the digits
that are left over. -/
def accumulate (n : Nat) : Text → Nat × Text
  | [] => (n, [])
  | c :: rest =>
    let next := n * 10 + Text.digitValue c
    if next < UInt64.size then accumulate next rest else (n, c :: rest)

/-- The digits at the front of a text, and what follows them. -/
def spanDigits (t : Text) : Text × Text := (t.takeWhile Char.isDigit, t.dropWhile Char.isDigit)

/-- The fraction at the front of a text: its digits, none if there is no fraction, and what
follows. A point needs a digit behind it. -/
def fraction? : Text → Option (Text × Text)
  | '.' :: rest =>
    let (digits, rest) := spanDigits rest
    if digits.isEmpty then none else some (digits, rest)
  | rest => some ([], rest)

/-- The digits of an exponent behind its letter and its sign. -/
def exponentDigits? (sign : Int) (t : Text) : Option (Option Int × Text) :=
  let (digits, rest) := spanDigits t
  if digits.isEmpty then none else some (some (sign * Text.decimalValue digits), rest)

/-- The exponent at the front of a text, if there is one, and what follows. -/
def exponent? : Text → Option (Option Int × Text)
  | c :: rest =>
    if c = 'e' ∨ c = 'E' then
      match rest with
      | '-' :: rest => exponentDigits? (-1) rest
      | '+' :: rest => exponentDigits? 1 rest
      | rest => exponentDigits? 1 rest
    else some (none, c :: rest)
  | [] => some (none, [])

/-- The value of a written number. It has no leading zeros and is finite. -/
def number? (written : Text) : Option Value := do
  let negative := written.head? == some '-'
  let (digits, rest) := spanDigits (if negative then written.tail else written)
  if digits.isEmpty || (digits.head? == some '0' && 1 < digits.length) then none else
  let (fractionDigits, rest) ← fraction? rest
  let (exponent, rest) ← exponent? rest
  if !rest.isEmpty then none else
  let (whole, wholeRest) := accumulate 0 digits
  if wholeRest.isEmpty && fractionDigits.isEmpty && exponent.isNone then
    some (if negative then .number written else .natural whole)
  else
    let (significand, fractionRest) := accumulate whole fractionDigits
    let shift : Int := wholeRest.length - (fractionDigits.length - fractionRest.length)
    if exponent.any fun e => Nat.pow 2 31 ≤ e.natAbs then
      if significand = 0 ∨ exponent.any (· < 0) then some (.number written) else none
    else if isFinite significand (shift + exponent.getD 0) then some (.number written)
    else none

end LineFraming.Json
