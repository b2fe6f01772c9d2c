/-!
# Blank characters

The characters that separate words: those with the Unicode property `White_Space`. A line is
trimmed of them, and a line made of nothing else is blank. The set is wider than the one of
`Char.isWhitespace`, which knows ASCII only: `blankRanges` lists all of it.

Like every property of characters it is given by the ranges of code points that have it. Ranges have
both ends included and stand in increasing order.

## Main definitions

* `LineFraming.Text`: a piece of text, as the list of its characters.
* `Text.inRanges`: whether a character lies in one of some ranges.
* `Text.isBlankChar`, `Text.isBlank`: blank characters and blank text.
* `Text.trimStart`, `Text.trimEnd`: text without the blanks in front of it or behind it.

## Main results

* `Text.isBlankChar_of_isWhitespace`: the ASCII class is part of this one.
* `Text.trimStart_eq_nil`, `Text.trimEnd_eq_nil`: trimming leaves nothing exactly when the text is
  blank.
-/

namespace LineFraming

/-- A piece of text: a typed line, a command or program output, as the list of its characters. -/
abbrev Text := List Char

namespace Text

/-- Whether a character lies in one of some ranges. -/
def inRanges (ranges : List (Nat × Nat)) (c : Char) : Bool :=
  ranges.any fun r => r.1 ≤ c.toNat && c.toNat ≤ r.2

/-- The code points with the property `White_Space`. -/
def blankRanges : List (Nat × Nat) :=
  [(0x9, 0xD), (0x20, 0x20), (0x85, 0x85), (0xA0, 0xA0), (0x1680, 0x1680), (0x2000, 0x200A),
    (0x2028, 0x2029), (0x202F, 0x202F), (0x205F, 0x205F), (0x3000, 0x3000)]

/-- Characters with the property `White_Space`. -/
def isBlankChar (c : Char) : Bool := inRanges blankRanges c

/-- Text that holds nothing but blanks, the empty text included. -/
def isBlank (t : Text) : Bool := t.all isBlankChar

/-- The text from its first character on that is not blank. -/
def trimStart (t : Text) : Text := t.dropWhile isBlankChar

/-- The text up to its last character that is not blank. -/
def trimEnd (t : Text) : Text := (t.reverse.dropWhile isBlankChar).reverse

/-! ### The blank class -/

/-- Twenty-five characters are blank. -/
example : (blankRanges.map fun r => r.2 + 1 - r.1).sum = 25 := by decide

/-- Every character that ASCII calls white space is blank. -/
theorem isBlankChar_of_isWhitespace {c : Char} (h : c.isWhitespace = true) :
    isBlankChar c = true := by
  simp only [Char.isWhitespace, Bool.or_eq_true, decide_eq_true_eq] at h
  rcases h with ((h | h) | h) | h <;> subst h <;> decide

/-! ### Blank text -/

@[simp] theorem isBlank_nil : isBlank [] = true := rfl

@[simp] theorem isBlank_cons (c : Char) (t : Text) :
    isBlank (c :: t) = (isBlankChar c && isBlank t) := rfl

@[simp] theorem isBlank_append (s t : Text) : isBlank (s ++ t) = (isBlank s && isBlank t) := by
  simp [isBlank]

/-! ### Trimming -/

@[simp] theorem trimEnd_nil : trimEnd [] = [] := rfl

/-- Dropping leading blanks leaves nothing exactly when the text is blank. -/
theorem trimStart_eq_nil {t : Text} : trimStart t = [] ↔ isBlank t = true := by
  induction t with
  | nil => simp [trimStart]
  | cons c t ih => by_cases h : isBlankChar c <;> simp_all [trimStart]

/-- Trimming leaves nothing exactly when the text is blank. -/
theorem trimEnd_eq_nil {t : Text} : trimEnd t = [] ↔ isBlank t = true := by
  rw [trimEnd, List.reverse_eq_nil_iff, ← trimStart, trimStart_eq_nil, isBlank, isBlank,
    List.all_reverse]

end Text

end LineFraming
