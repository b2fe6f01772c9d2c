import LineFraming.LineKind
import LineFraming.Proofs.Block
import LineFraming.Proofs.Quote

/-!
# Only the column matters

The spaces and tabs in front of a line stand for a column, and the same column may be written in
many ways. Nothing else about them is ever used. Strings, blank lines, backslashes and block headers
are told by the rest of the line, since blanks in front of a line hold no quote, no colon and no
backslash; what is left of the indentation is its width.

A fill stands for the column it was asked for, so a line may be indented anew by its own width, and
the indentation that is prefilled puts a line into the column that it stands for. Once a line is in
its place it stays there, however often it is merged: it begins with a space or a tab now, or
nothing had to be put in front of it.

## Main definitions

* `Text.IsIndent` — spaces and tabs only
* `Text.Flush` — a text that does not begin with a space or a tab
* `Prefill.isPlaced`, `Prefill.column` — which lines stay where they are, and where the others go

## Main results

* `Indentation.widthFrom_append` — where the indentation of a line ends
* `LineKind.of_append_congr` — lines that differ in their indentation only, not in its width
* `LineKind.of_fill_width` — indenting a line anew
* `Prefill.merge_column` — where prefilled indentation puts a line
-/

namespace LineFraming

/-! ### Spaces and tabs -/

namespace Text

/-- Spaces and tabs only. -/
def IsIndent (t : Text) : Prop := ∀ c ∈ t, c = ' ' ∨ c = '\t'

instance (t : Text) : Decidable (IsIndent t) := List.decidableBAll _ t

/-- The text does not begin with a space or a tab. -/
def Flush (t : Text) : Prop := ∀ c, t.head? = some c → c ≠ ' ' ∧ c ≠ '\t'

theorem isIndent_nil : IsIndent [] := fun _ hc => absurd hc List.not_mem_nil

theorem IsIndent.cons {c : Char} {t : Text} (h : IsIndent t) (hc : c = ' ' ∨ c = '\t') :
    IsIndent (c :: t) := List.forall_mem_cons.mpr ⟨hc, h⟩

theorem IsIndent.isBlank {t : Text} (h : IsIndent t) : isBlank t = true := by
  refine List.all_eq_true.mpr fun c hc => ?_
  rcases h c hc with rfl | rfl <;> decide

/-- The last character of a line is a backslash behind any indentation, or behind none. -/
theorem IsIndent.getLast?_append_iff {s : Text} (h : IsIndent s) (t : Text) :
    (s ++ t).getLast? = some '\\' ↔ t.getLast? = some '\\' := by
  have hs : s.getLast? ≠ some '\\' := fun he => by
    have hslash := h _ (List.mem_of_getLast? he)
    revert hslash
    decide
  rw [List.getLast?_append, Option.or_eq_some_iff]
  exact or_iff_left fun hright => hs hright.2

end Text

/-! ### Columns -/

namespace Indentation

variable (i : Indentation) {line : Text}

@[simp] theorem fill_zero : i.fill 0 = [] := by simp [fill]

/-- The width of a fill tells what it stands for. -/
theorem fill_injective : Function.Injective i.fill := by
  intro m n h
  rw [← i.width_fill m, h, i.width_fill]

@[simp] theorem fill_eq_nil {n : Nat} : i.fill n = [] ↔ n = 0 := by
  rw [← i.fill_zero]
  exact i.fill_injective.eq_iff

theorem isIndent_fill (n : Nat) : Text.IsIndent (i.fill n) := by
  intro c hc
  unfold fill at hc
  split at hc
  · rcases List.mem_append.mp hc with htab | hspace
    · exact .inr (List.eq_of_mem_replicate htab)
    · exact .inl (List.eq_of_mem_replicate hspace)
  · exact .inl (List.eq_of_mem_replicate hc)

theorem isIndent_of_advance {column next : Nat} {c : Char} (h : i.advance column c = some next) :
    c = ' ' ∨ c = '\t' := by
  unfold advance at h
  split_ifs at h with hspace htab
  · exact .inl hspace
  · exact .inr htab

theorem widthFrom_of_flush (h : Text.Flush line) (column : Nat) :
    i.widthFrom column line = column := by
  cases line with
  | nil => rfl
  | cons c line =>
    obtain ⟨hspace, htab⟩ := h c rfl
    rw [widthFrom, advance, if_neg hspace, if_neg htab]

/-- **Where the indentation of a line ends:** at its first character that is neither a space nor a
tab. -/
theorem widthFrom_append (column : Nat) {s t : Text} (h : ¬Text.IsIndent s ∨ Text.Flush t) :
    i.widthFrom column (s ++ t) = i.widthFrom column s := by
  induction s generalizing column with
  | nil => exact i.widthFrom_of_flush (h.resolve_left fun hs => hs Text.isIndent_nil) column
  | cons c s ih =>
    rw [List.cons_append, widthFrom, widthFrom]
    split
    · rename_i next hnext
      have hc := i.isIndent_of_advance hnext
      exact ih next (h.imp_left (mt fun hs => hs.cons hc))
    · rfl

/-- Blanks at the end of a line do not matter for its indentation. -/
theorem width_trimEnd (h : Text.isBlank line = false) :
    i.width (Text.trimEnd line) = i.width line := by
  obtain ⟨blanks, hblanks⟩ := Text.trimEnd_prefix line
  have htrimmed : ¬Text.IsIndent (Text.trimEnd line) := fun hs => by
    rw [← Text.isBlank_trimEnd, hs.isBlank] at h
    cases h
  rw [width, width, ← i.widthFrom_append 0 (.inl htrimmed), hblanks]

/-- A line that does not begin with a space or a tab stands where its indentation ends. -/
theorem width_append (indent : Text) (h : Text.Flush line) :
    i.width (indent ++ line) = i.width indent := i.widthFrom_append 0 (.inr h)

theorem width_fill_append_of_flush (n : Nat) (h : Text.Flush line) :
    i.width (i.fill n ++ line) = n := by
  rw [i.width_append _ h, i.width_fill]

end Indentation

/-! ### Kinds of lines -/

namespace LineKind

variable (i : Indentation) {s t rest : Text}

theorem ofStatement_append_congr (hs : Text.IsIndent s) (ht : Text.IsIndent t)
    (hw : i.width (s ++ rest) = i.width (t ++ rest)) (depth : Nat) :
    ofStatement i depth (s ++ rest) = ofStatement i depth (t ++ rest) := by
  simp only [ofStatement, Text.isBlank_append, hs.isBlank, ht.isBlank, hs.getLast?_append_iff,
    ht.getLast?_append_iff, Block.opens_append hs.isBlank, Block.opens_append ht.isBlank, hw]

/-- **Of the indentation, a line's kind depends on the width only.** -/
theorem of_append_congr (hs : Text.IsIndent s) (ht : Text.IsIndent t)
    (hw : i.width (s ++ rest) = i.width (t ++ rest)) (region : Option TripleQuote) (depth : Nat) :
    of i region depth (s ++ rest) = of i region depth (t ++ rest) := by
  cases region with
  | some style =>
    simp only [of, TripleQuote.toggles_append hs.isBlank, TripleQuote.toggles_append ht.isBlank]
  | none =>
    simp only [of, TripleQuote.openedBy_append hs.isBlank, TripleQuote.openedBy_append ht.isBlank,
      ofStatement_append_congr i hs ht hw]

/-- **Indenting a line anew.** For all sizes, with tabs or without: a line that is filled up to its
own width has the width it had, and it is of the same kind, whichever string is open and however deep
the block is; so is the line with any other indentation of that width. And a line that is filled up
to any column stands in that column. -/
theorem of_fill_width (i : Indentation) {indent rest : Text} (hi : Text.IsIndent indent)
    (hr : Text.Flush rest) :
    let line := indent ++ rest
    let filled := i.fill (i.width line) ++ rest
    i.width filled = i.width line ∧
      (∀ region depth, of i region depth filled = of i region depth line) ∧
      (∀ other, Text.IsIndent other → i.width (other ++ rest) = i.width line →
        ∀ region depth, of i region depth (other ++ rest) = of i region depth line) ∧
      ∀ n, i.width (i.fill n ++ rest) = n := by
  intro line filled
  have hwidth : i.width filled = i.width line := i.width_fill_append_of_flush _ hr
  exact ⟨hwidth, of_append_congr i (i.isIndent_fill _) hi hwidth,
    fun other ho hw => of_append_congr i ho hi hw, fun n => i.width_fill_append_of_flush n hr⟩

/-- A tab behind two spaces, in columns that tabs cannot reach alone. -/
theorem of_fill_width_afterTab :
    let i : Indentation := .ofSizes 4 3 true
    let line := "  \t if x:".toList
    Text.IsIndent "  \t ".toList ∧ Text.Flush "if x:".toList ∧
      i.fill (i.width line) ++ "if x:".toList = "\t if x:".toList ∧
      of i none 0 "\t if x:".toList = indented 8 ∧ of i none 0 line = indented 8 := by
  intro i line
  have hi : Text.IsIndent "  \t ".toList := by decide
  have hr : Text.Flush "if x:".toList := fun c hc => by cases hc; decide
  have hfill : i.fill (i.width line) ++ "if x:".toList = "\t if x:".toList := by decide
  have hkind : of i none 0 line = indented 8 := by decide
  obtain ⟨-, hsame, -⟩ := of_fill_width i hi hr
  exact ⟨hi, hr, hfill, (hfill ▸ hsame none 0).trans hkind, hkind⟩

end LineKind

/-! ### Prefilled indentation -/

namespace Prefill

/-- The line stays where it is: it is blank, or has blanks of its own in front. -/
def isPlaced (line : Text) : Bool := Text.isBlank line || line.head?.any Text.isBlankChar

/-- The column of a line, given the prefilled one: a line that continues the statement of the block
above goes one level to the left, if there is one. -/
def column (i : Indentation) (prefilled : Nat) (line : Text) : Nat :=
  if Block.continues line then prefilled - i.unit else prefilled

/-- What is put in front of a line that goes elsewhere. -/
def front (i : Indentation) (indent line : Text) : Text :=
  if Block.continues line then i.fill (i.width indent - i.unit) else indent

variable (i : Indentation) {indent line : Text}

theorem merge_eq (indent line : Text) :
    merge i indent line =
      if decide (indent = []) || isPlaced line then line else front i indent line ++ line := by
  rw [merge, Bool.or_assoc, isPlaced, front]
  split_ifs <;> rfl

theorem merge_of_isPlaced (h : isPlaced line = true) : merge i indent line = line := by
  rw [merge_eq, h, Bool.or_true, if_pos rfl]

theorem merge_of_not_isPlaced (hne : indent ≠ []) (h : isPlaced line = false) :
    merge i indent line = front i indent line ++ line := by
  rw [merge_eq, h, decide_eq_false hne]
  rfl

/-- A line that is put elsewhere begins with a character that is not blank. -/
theorem flush_of_not_isPlaced (h : isPlaced line = false) : Text.Flush line := by
  rw [isPlaced, Bool.or_eq_false_iff] at h
  intro c hc
  have hblank : Text.isBlankChar c = false := by simpa [hc] using h.2
  constructor
  · rintro rfl
    cases hblank
  · rintro rfl
    cases hblank

theorem isIndent_front (hi : Text.IsIndent indent) (line : Text) :
    Text.IsIndent (front i indent line) := by
  rw [front]
  split
  · exact i.isIndent_fill _
  · exact hi

theorem width_front (indent line : Text) :
    i.width (front i indent line) = column i (i.width indent) line := by
  rw [front, column]
  split
  · exact i.width_fill _
  · rfl

theorem isPlaced_append {blanks : Text} (hb : Text.IsIndent blanks) (hne : blanks ≠ [])
    (line : Text) : isPlaced (blanks ++ line) = true := by
  obtain ⟨c, blanks, rfl⟩ := List.exists_cons_of_ne_nil hne
  have hc : Text.isBlankChar c = true := by
    rcases hb c List.mem_cons_self with rfl | rfl <;> decide
  simp [isPlaced, hc]

/-- A line that was merged stays where it is. -/
theorem merge_merge (hi : Text.IsIndent indent) (line : Text) :
    merge i indent (merge i indent line) = merge i indent line := by
  by_cases hne : indent = []
  · simp [merge, hne]
  cases hp : isPlaced line with
  | true => rw [merge_of_isPlaced i hp, merge_of_isPlaced i hp]
  | false =>
    have hmerge := merge_of_not_isPlaced i hne hp
    -- Where nothing is left of the indentation, the line is merged as it was.
    by_cases hfront : front i indent line = []
    · rw [hfront, List.nil_append] at hmerge
      rw [hmerge, hmerge]
    · rw [hmerge, merge_of_isPlaced i (isPlaced_append (isIndent_front i hi line) hfront line)]

/-- **Where prefilled indentation puts a line.** For all sizes, with tabs or without, and every
indentation that is not empty: a line that is blank or has leading blanks of its own stays as it is.
Any other line is itself behind spaces and tabs, in the column that the indentation stands for, or
one level to the left of it if the line continues a statement. Merging once more changes nothing. -/
theorem merge_column (i : Indentation) {indent : Text} (hne : indent ≠ [])
    (hi : Text.IsIndent indent) (line : Text) :
    let merged := merge i indent line
    (isPlaced line = true → merged = line) ∧
      (isPlaced line = false →
        (∃ blanks, Text.IsIndent blanks ∧ merged = blanks ++ line) ∧
          i.width merged = column i (i.width indent) line ∧
          ∀ d, indent = i.fill d → i.width merged = column i d line) ∧
      merge i indent merged = merged := by
  intro merged
  refine ⟨merge_of_isPlaced i, fun hp => ?_, merge_merge i hi line⟩
  have hmerged : merged = front i indent line ++ line := merge_of_not_isPlaced i hne hp
  have hwidth : i.width merged = column i (i.width indent) line := by
    rw [hmerged, i.width_append _ (flush_of_not_isPlaced hp), width_front]
  refine ⟨⟨_, isIndent_front i hi line, hmerged⟩, hwidth, fun d hd => ?_⟩
  rw [hwidth, hd, i.width_fill]

/-- A header goes one level to the left of what is prefilled, which tabs cannot write alone. -/
theorem merge_column_continued :
    let i : Indentation := .ofSizes 4 5 true
    let line := "else: # c".toList
    i.fill 10 = "\t\t".toList ∧ "\t\t".toList ≠ [] ∧ Text.IsIndent "\t\t".toList ∧
      isPlaced line = false ∧ merge i "\t\t".toList line = "\t else: # c".toList ∧
      i.width (merge i "\t\t".toList line) = 6 := by
  intro i line
  have hfill : i.fill 10 = "\t\t".toList := by decide
  have hi : Text.IsIndent "\t\t".toList := by decide
  have hp : isPlaced line = false := by decide
  obtain ⟨-, hplaced, -⟩ := merge_column i (by decide) hi line
  exact ⟨hfill, by decide, hi, hp, by decide, (hplaced hp).2.2 10 hfill.symm⟩

end Prefill

end LineFraming
