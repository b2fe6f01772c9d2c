import LineFraming.Text.Decimal

/-!
# TOML dates and times

A date, a time, or both with perhaps an offset from universal time. Only whether a text is one of
these matters. Seconds may be left out, and the second 60 is there for leap seconds.

## Main definitions

* `Toml.date?`, `Toml.time?`: a date or a time at the front of a text, and what follows.
* `Toml.isDateTime`: whether a text is a date, a time or both.
-/

namespace LineFraming.Toml

/-- A number of two digits at the front of a text, and what follows. -/
def twoDigits? : Text → Option (Nat × Text)
  | a :: b :: rest =>
    if a.isDigit && b.isDigit then some (Text.decimalValue [a, b], rest) else none
  | _ => none

/-- Drops a character that has to stand at the front of a text. -/
def expect? (c : Char) : Text → Option Text
  | [] => none
  | d :: rest => if d = c then some rest else none

/-- Whether a year has a 29th of February. -/
def isLeapYear (year : Nat) : Bool :=
  year % 4 == 0 && (year % 100 != 0 || year % 400 == 0)

/-- The length of a month. -/
def daysIn (year month : Nat) : Nat :=
  if month = 2 then (if isLeapYear year then 29 else 28)
  else if month = 4 ∨ month = 6 ∨ month = 9 ∨ month = 11 then 30
  else 31

/-- What follows a date at the front of a text. -/
def date? (t : Text) : Option Text := do
  let (century, rest) ← twoDigits? t
  let (year, rest) ← twoDigits? rest
  let (month, rest) ← twoDigits? (← expect? '-' rest)
  let (day, rest) ← twoDigits? (← expect? '-' rest)
  if 1 ≤ month ∧ month ≤ 12 ∧ 1 ≤ day ∧ day ≤ daysIn (century * 100 + year) month then some rest
  else none

/-- What follows the fraction of a second at the front of a text, if there is one. -/
def fractionRest? : Text → Option Text
  | '.' :: rest =>
    if (rest.head?.any Char.isDigit) then some (rest.dropWhile Char.isDigit) else none
  | rest => some rest

/-- What follows a time at the front of a text. -/
def time? (t : Text) : Option Text := do
  let (hour, rest) ← twoDigits? t
  let (minute, rest) ← twoDigits? (← expect? ':' rest)
  if 23 < hour ∨ 59 < minute then none else
  match rest with
  | ':' :: rest =>
    let (second, rest) ← twoDigits? rest
    if 60 < second then none else fractionRest? rest
  | rest => some rest

/-- Whether a text is an offset, or nothing. -/
def isOffset : Text → Bool
  | [] => true
  | ['Z'] | ['z'] => true
  | sign :: rest =>
    (sign == '+' || sign == '-') &&
      (match twoDigits? rest with
      | some (hours, rest) =>
        match (expect? ':' rest).bind twoDigits? with
        | some (minutes, []) => hours ≤ 23 && minutes ≤ 59
        | _ => false
      | none => false)

/-- Whether a text is a date, a time, or a date and a time with perhaps an offset. -/
def isDateTime (t : Text) : Bool :=
  match date? t with
  | some [] => true
  | some (c :: rest) =>
    (c == 'T' || c == 't' || c == ' ') &&
      (match time? rest with
      | some rest => isOffset rest
      | none => false)
  | none => time? t == some []

end LineFraming.Toml
