import LineFraming.Text.Blank

/-!
# Decimal and hexadecimal numbers

Natural numbers in decimal notation, written without leading zeros and read digit by digit, and
the value of a hexadecimal digit.

## Main definitions

* `Text.decimal`, `Text.decimalValue`: writing and reading a natural number.
* `Text.hexValue?`: the value of a hexadecimal digit.

## Main results

* `Text.decimalValue_decimal`: what is written reads back.
-/

namespace LineFraming.Text

/-- The digit for a number below ten. -/
def digit (n : Nat) : Char := Char.ofNat (n + 48)

/-- The value of a decimal digit. -/
def digitValue (c : Char) : Nat := c.toNat - 48

/-- A natural number in decimal notation. -/
def decimal (n : Nat) : Text :=
  if n < 10 then [digit n] else decimal (n / 10) ++ [digit (n % 10)]
termination_by n
decreasing_by omega

/-- The value of decimal digits, the most significant one first. -/
def decimalValue (digits : Text) : Nat := digits.foldl (fun n c => n * 10 + digitValue c) 0

/-- The value of a hexadecimal digit of either case. -/
def hexValue? (c : Char) : Option Nat :=
  if '0' ≤ c ∧ c ≤ '9' then some (c.toNat - 48)
  else if 'a' ≤ c ∧ c ≤ 'f' then some (c.toNat - 87)
  else if 'A' ≤ c ∧ c ≤ 'F' then some (c.toNat - 55)
  else none

/-- The hexadecimal digit, in lower case, for a number below sixteen. -/
def hexDigit (n : Nat) : Char := if n < 10 then Char.ofNat (n + 48) else Char.ofNat (n + 87)

/-- The value of hexadecimal digits; `none` if there is another character among them. -/
def hexNumber? (digits : Text) : Option Nat :=
  digits.foldlM (fun n c => (hexValue? c).map (n * 16 + ·)) 0

theorem digitValue_digit {n : Nat} (h : n < 10) : digitValue (digit n) = n := by
  have h' : ∀ m : Fin 10, digitValue (digit m) = m := by decide
  exact h' ⟨n, h⟩

theorem isDigit_digit {n : Nat} (h : n < 10) : (digit n).isDigit = true := by
  have h' : ∀ m : Fin 10, (digit m).isDigit = true := by decide
  exact h' ⟨n, h⟩

/-- What is written reads back. -/
@[simp] theorem decimalValue_decimal (n : Nat) : decimalValue (decimal n) = n := by
  induction n using Nat.strongRecOn with
  | _ n ih =>
    rw [decimal]
    split
    · simp [decimalValue, digitValue_digit, *]
    · have h := ih (n / 10) (by omega)
      rw [decimalValue] at h
      rw [decimalValue, List.foldl_append, h]
      simp only [List.foldl_cons, List.foldl_nil, digitValue_digit (Nat.mod_lt n (by omega))]
      omega

end LineFraming.Text
