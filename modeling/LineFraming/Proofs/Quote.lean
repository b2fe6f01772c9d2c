import LineFraming.Quote
import LineFraming.Proofs.Text.Lines

/-!
# Which lines toggle a string

Delimiters are counted in the quotes of a line. Characters that are no quotes do not matter for the
count where they stand at the ends of the line, so neither do the blanks there, and a line of blanks
leaves the open string as it is.

## Main definitions

* `Text.openString` — the string that is open behind a text, by scanning its lines

## Main results

* `TripleQuote.countTriples_append`, `TripleQuote.countTriples_concat` — what is no quote in front of
  a line or behind it
* `TripleQuote.after_trimEnd`, `TripleQuote.toggles_append`, `TripleQuote.openedBy_append` — blanks at
  the ends of a line
* `TripleQuote.afterLines_of_isBlank` — lines of blanks
-/

namespace LineFraming

namespace TripleQuote

variable {style : TripleQuote} {line : Text}

/-! ### The count -/

/-- Three quotes side by side do not start with another character. -/
theorem countTriples_cons {q c : Char} (h : c ≠ q) (t : Text) :
    countTriples q (c :: t) = countTriples q t := by
  rcases t with _ | ⟨a, _ | ⟨b, t⟩⟩
  · rfl
  · rfl
  · rw [countTriples, if_neg fun hc => h hc.1]

theorem countTriples_append {q : Char} {s : Text} (h : q ∉ s) (t : Text) :
    countTriples q (s ++ t) = countTriples q t := by
  induction s with
  | nil => rfl
  | cons c s ih =>
    rw [List.mem_cons, not_or] at h
    rw [List.cons_append, countTriples_cons (Ne.symm h.1), ih h.2]

theorem countTriples_of_not_mem {q : Char} {line : Text} (h : q ∉ line) :
    countTriples q line = 0 := by
  have hnil := countTriples_append h []
  rwa [List.append_nil] at hnil

/-- Three quotes side by side do not end with another character. -/
theorem countTriples_concat {q c : Char} (h : c ≠ q) (t : Text) :
    countTriples q (t ++ [c]) = countTriples q t := by
  fun_induction countTriples q t with
  | case1 b c rest hq ih => simp_all [countTriples]
  | case2 a b c rest hq ih =>
    simp only [List.cons_append, countTriples, if_neg hq]
    exact ih
  | case3 t ht =>
    rcases t with _ | ⟨a, _ | ⟨b, _ | ⟨c, rest⟩⟩⟩
    · rfl
    · rfl
    · simp [countTriples, h]
    · exact absurd rfl (ht a b c rest)

/-! ### Blanks -/

theorem isBlankChar_char (style : TripleQuote) : Text.isBlankChar style.char = false := by
  cases style <;> decide

/-- Blanks in front of a line do not matter for strings. -/
theorem toggles_append {blanks : Text} (hb : Text.isBlank blanks = true) (style : TripleQuote)
    (line : Text) : style.toggles (blanks ++ line) = style.toggles line := by
  rw [toggles, countTriples_append (Text.not_mem_of_isBlank hb style.isBlankChar_char), toggles]

theorem openedBy_append {blanks : Text} (hb : Text.isBlank blanks = true) (line : Text) :
    openedBy (blanks ++ line) = openedBy line := by
  rw [openedBy, toggles_append hb, toggles_append hb, openedBy]

/-- A blank line toggles no string. -/
theorem toggles_of_isBlank (style : TripleQuote) (h : Text.isBlank line = true) :
    style.toggles line = false := by
  have hnil := toggles_append h style []
  rw [List.append_nil] at hnil
  rw [hnil]
  rfl

/-- A blank line opens no string. -/
theorem openedBy_of_isBlank (h : Text.isBlank line = true) : openedBy line = none := by
  simp [openedBy, toggles_of_isBlank _ h]

/-- A line that opens or closes a string is not blank. -/
theorem isBlank_of_toggles (ht : style.toggles line = true) : Text.isBlank line = false :=
  Bool.eq_false_iff.mpr fun hb => by
    rw [toggles_of_isBlank style hb] at ht
    cases ht

theorem trimEnd_ne_nil (ht : style.toggles line = true) : Text.trimEnd line ≠ [] :=
  fun he => Bool.false_ne_true ((isBlank_of_toggles ht).symm.trans (Text.trimEnd_eq_nil.mp he))

theorem toggles_trimEnd (style : TripleQuote) (line : Text) :
    style.toggles (Text.trimEnd line) = style.toggles line := by
  refine Text.apply_trimEnd (fun t c hc => ?_) line
  have hq : c ≠ style.char := by
    rintro rfl
    exact Bool.false_ne_true (style.isBlankChar_char.symm.trans hc)
  rw [toggles, countTriples_concat hq, toggles]

/-! ### The open string -/

/-- Blanks at the end of a line do not matter for strings. -/
theorem after_trimEnd (region : Option TripleQuote) (line : Text) :
    after region (Text.trimEnd line) = after region line := by
  cases region with
  | none => simp only [after, openedBy, toggles_trimEnd]
  | some style => simp only [after, toggles_trimEnd]

/-- A blank line opens nothing and closes nothing. -/
theorem after_of_isBlank (region : Option TripleQuote) (h : Text.isBlank line = true) :
    after region line = region := by
  cases region with
  | none => exact openedBy_of_isBlank h
  | some style => simp [after, toggles_of_isBlank style h]

theorem afterLines_of_isBlank (region : Option TripleQuote) {lines : List Text}
    (h : ∀ line ∈ lines, Text.isBlank line = true) : afterLines region lines = region := by
  induction lines with
  | nil => rfl
  | cons line lines ih =>
    have hfirst := after_of_isBlank region (h line List.mem_cons_self)
    have hrest := ih fun l hl => h l (List.mem_cons_of_mem _ hl)
    rw [afterLines, List.foldl_cons, hfirst]
    exact hrest

theorem afterLines_append (region : Option TripleQuote) (ls ms : List Text) :
    afterLines region (ls ++ ms) = afterLines (afterLines region ls) ms :=
  List.foldl_append

end TripleQuote

/-! ### The scan of a text -/

namespace Text

/-- The string that is open behind a text, whose first line starts outside strings. -/
def openString (t : Text) : Option TripleQuote := TripleQuote.afterLines none (lines t)

/-- Behind an ended text, the scan goes on with the lines of what follows. -/
theorem openString_append {s : Text} (hs : Ended s) (t : Text) :
    openString (s ++ t) = TripleQuote.afterLines (openString s) (lines t) := by
  rw [openString, lines_append hs, TripleQuote.afterLines_append]
  rfl

theorem openString_of_isBlank {t : Text} (h : isBlank t = true) : openString t = none :=
  TripleQuote.afterLines_of_isBlank none fun _ hl => isBlank_of_mem_lines h hl

end Text

end LineFraming
