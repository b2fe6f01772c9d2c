import LineFraming.Text.Lines
import Mathlib.Data.List.DropRight

/-!
# Cutting a text into lines

A text that ends with a line end is cut independently of what follows it. That is why the lines
of several commands, one behind the other, are the lines of the first and then those of the
others. A single line with a line feed behind it is cut back into itself, unless it ends with a
carriage return, which belongs to the line end.

## Main definitions

* `Text.Ended` — a text that is empty or ends with a line feed
* `Text.content`, `Text.filled` — the lines of a text that are not blank, trimmed and as they are

## Main results

* `Text.lines_append`, `Text.filled_append` — an ended text, and what follows it
* `Text.lines_terminated` — the only line of a line
* `Text.not_mem_lines` — lines hold no line feed
-/

namespace LineFraming.Text

/-! ### Trimming -/

theorem trimEnd_eq_rdropWhile (t : Text) : trimEnd t = t.rdropWhile isBlankChar := rfl

@[simp] theorem trimEnd_trimEnd (t : Text) : trimEnd (trimEnd t) = trimEnd t :=
  List.rdropWhile_idempotent _ _

theorem trimEnd_prefix (t : Text) : trimEnd t <+: t := List.rdropWhile_prefix isBlankChar t

/-- Blanks at the end do not matter for what is left. -/
theorem trimEnd_append_of_isBlank (t : Text) {blanks : Text} (h : isBlank blanks = true) :
    trimEnd (t ++ blanks) = trimEnd t := by
  have hall : ∀ c ∈ blanks.reverse, isBlankChar c = true := fun c hc =>
    List.all_eq_true.mp h c (List.mem_reverse.mp hc)
  rw [trimEnd, List.reverse_append, List.dropWhile_append_of_pos hall, trimEnd]

/-- Only the end of a text is trimmed. -/
theorem trimEnd_append (s : Text) {t : Text} (h : isBlank t = false) :
    trimEnd (s ++ t) = s ++ trimEnd t := by
  have hne : t.reverse.dropWhile isBlankChar ≠ [] := fun he => by
    have hb : isBlank t = true := trimEnd_eq_nil.mp (by rw [trimEnd, he, List.reverse_nil])
    rw [h] at hb
    cases hb
  rw [trimEnd, List.reverse_append, List.dropWhile_append, if_neg (by simpa using hne),
    List.reverse_append, List.reverse_reverse, trimEnd]

/-- What a blank at the end does not change, trimming does not change. -/
theorem apply_trimEnd {α : Type} {f : Text → α}
    (h : ∀ (t : Text) (c : Char), isBlankChar c = true → f (t ++ [c]) = f t) (t : Text) :
    f (trimEnd t) = f t := by
  induction t using List.reverseRecOn with
  | nil => rfl
  | append_singleton t c ih =>
    rw [trimEnd_eq_rdropWhile] at ih ⊢
    by_cases hc : isBlankChar c = true
    · rw [List.rdropWhile_concat_pos _ _ _ hc, ih, h t c hc]
    · rw [List.rdropWhile_concat_neg _ _ _ hc]

/-- What is left behind trimming does not end with a blank. -/
theorem getLast?_trimEnd_ne {t : Text} {c : Char} (hc : isBlankChar c = true) :
    (trimEnd t).getLast? ≠ some c := by
  intro h
  have hne : t.rdropWhile isBlankChar ≠ [] := by
    rintro he
    rw [trimEnd_eq_rdropWhile, he] at h
    cases h
  refine List.rdropWhile_last_not isBlankChar t hne ?_
  rw [trimEnd_eq_rdropWhile, List.getLast?_eq_some_getLast hne, Option.some_inj] at h
  rw [h]
  exact hc

@[simp] theorem isBlank_trimEnd (t : Text) : isBlank (trimEnd t) = isBlank t := by
  rw [Bool.eq_iff_iff, ← trimEnd_eq_nil, trimEnd_trimEnd, trimEnd_eq_nil]

/-- What is left behind trimming is not blank, if anything is. -/
theorem isBlank_trimEnd_of_ne {t : Text} (h : trimEnd t ≠ []) : isBlank (trimEnd t) = false := by
  rwa [← Bool.not_eq_true, ← trimEnd_eq_nil, trimEnd_trimEnd]

/-- A blank text holds no other characters. -/
theorem not_mem_of_isBlank {t : Text} {c : Char} (h : isBlank t = true)
    (hc : isBlankChar c = false) : c ∉ t := fun hm =>
  Bool.false_ne_true (hc.symm.trans (List.all_eq_true.mp h c hm))

/-! ### Line ends -/

/-- The text is empty or ends with a line feed. -/
def Ended (t : Text) : Prop := t ≠ [] → t.getLast? = some '\n'

theorem ended_nil : Ended [] := fun h => absurd rfl h

theorem ended_concat (t : Text) : Ended (t ++ ['\n']) := fun _ => by simp

theorem Ended.append {s t : Text} (hs : Ended s) (ht : Ended t) : Ended (s ++ t) := by
  intro h
  by_cases hne : t = []
  · subst hne
    simpa using hs (by simpa using h)
  · rw [List.getLast?_append, ht hne]
    rfl

/-- Behind the first character of an ended text comes an ended text, and there is one unless the
character is the line feed. -/
theorem Ended.tail {c : Char} {t : Text} (h : Ended (c :: t)) : Ended t := by
  intro hne
  have hlast := h (List.cons_ne_nil c t)
  rwa [List.getLast?_cons_of_ne_nil hne] at hlast

theorem Ended.ne_nil {c : Char} {t : Text} (h : Ended (c :: t)) (hc : c ≠ '\n') : t ≠ [] := by
  rintro rfl
  exact hc (by simpa using h (List.cons_ne_nil c []))

/-- A text is told apart at its first line feed. -/
theorem append_newline_inj {l m s t : Text} (hl : '\n' ∉ l) (hm : '\n' ∉ m)
    (h : l ++ '\n' :: s = m ++ '\n' :: t) : l = m ∧ s = t := by
  induction l generalizing m with
  | nil =>
    cases m with
    | nil => exact ⟨rfl, (List.cons.inj h).2⟩
    | cons d m => exact absurd List.mem_cons_self ((List.cons.inj h).1 ▸ hm)
  | cons c l ih =>
    rw [List.mem_cons, not_or] at hl
    cases m with
    | nil => exact absurd (List.cons.inj h).1.symm hl.1
    | cons d m =>
      rw [List.mem_cons, not_or] at hm
      obtain ⟨rfl, hrest⟩ := List.cons.inj h
      obtain ⟨rfl, rfl⟩ := ih hl.2 hm.2 hrest
      exact ⟨rfl, rfl⟩

/-! ### Lines -/

theorem lines_ne_nil {t : Text} (h : t ≠ []) : lines t ≠ [] := by
  fun_induction lines t <;> simp_all

/-- A character that starts no line end belongs to the first line of what follows. -/
theorem lines_cons {c : Char} {t line : Text} {more : List Text} (hc : c ≠ '\n')
    (hr : ∀ rest, c = '\r' → t ≠ '\n' :: rest) (h : lines t = line :: more) :
    lines (c :: t) = (c :: line) :: more := by
  rw [lines]
  · rw [h]
  · exact hc
  · exact hr

/-- **An ended text is cut on its own, whatever follows it.** -/
theorem lines_append {s : Text} (hs : Ended s) (t : Text) :
    lines (s ++ t) = lines s ++ lines t := by
  fun_induction lines s with
  | case1 => rfl
  | case2 rest ih => simp [lines, ih hs.tail]
  | case3 rest ih => simp [lines, ih hs.tail.tail]
  | case4 c rest hn hr h ih => exact absurd h (lines_ne_nil (hs.ne_nil hn))
  | case5 c rest hn hr line more h ih =>
    obtain ⟨d, rest, rfl⟩ := List.exists_cons_of_ne_nil (hs.ne_nil hn)
    have hcut := ih hs.tail
    rw [h] at hcut
    refine lines_cons hn (fun r hc he => ?_) hcut
    exact hr rest hc (by rw [(List.cons.inj he).1])

/-- Lines hold no line feed. -/
theorem not_mem_lines {t line : Text} (h : line ∈ lines t) : '\n' ∉ line := by
  fun_induction lines t generalizing line with
  | case1 => cases h
  | case2 rest ih =>
    rcases List.mem_cons.mp h with rfl | h
    · exact List.not_mem_nil
    · exact ih h
  | case3 rest ih =>
    rcases List.mem_cons.mp h with rfl | h
    · exact List.not_mem_nil
    · exact ih h
  | case4 c rest hn hr hl ih =>
    rw [List.mem_singleton] at h
    subst h
    simpa using fun hc => hn hc.symm
  | case5 c rest hn hr first more hl ih =>
    rw [hl] at ih
    rcases List.mem_cons.mp h with rfl | h
    · rw [List.mem_cons, not_or]
      exact ⟨fun hc => hn hc.symm, ih List.mem_cons_self⟩
    · exact ih (List.mem_cons_of_mem _ h)

/-- The lines of a blank text are blank. -/
theorem isBlank_of_mem_lines {t : Text} (h : isBlank t = true) {line : Text}
    (hl : line ∈ lines t) : isBlank line = true := by
  fun_induction lines t generalizing line with
  | case1 => cases hl
  | case2 rest ih =>
    rw [isBlank_cons, Bool.and_eq_true] at h
    rcases List.mem_cons.mp hl with rfl | hl
    · rfl
    · exact ih h.2 hl
  | case3 rest ih =>
    simp only [isBlank_cons, Bool.and_eq_true] at h
    rcases List.mem_cons.mp hl with rfl | hl
    · rfl
    · exact ih h.2.2 hl
  | case4 c rest hn hr he ih =>
    rw [isBlank_cons, Bool.and_eq_true] at h
    rw [List.mem_singleton.mp hl, isBlank_cons, h.1]
    rfl
  | case5 c rest hn hr first more he ih =>
    rw [isBlank_cons, Bool.and_eq_true] at h
    rw [he] at ih
    rcases List.mem_cons.mp hl with rfl | hl
    · rw [isBlank_cons, h.1, ih h.2 List.mem_cons_self]
      rfl
    · exact ih h.2 (List.mem_cons_of_mem _ hl)

/-- A text without line feeds is one line. -/
theorem lines_of_not_mem {t : Text} (ht : t ≠ []) (h : '\n' ∉ t) : lines t = [t] := by
  induction t with
  | nil => exact absurd rfl ht
  | cons c t ih =>
    rw [List.mem_cons, not_or] at h
    by_cases hne : t = []
    · subst hne
      rw [lines]
      · rfl
      · exact fun hc => h.1 hc.symm
      · exact fun _ _ he => by cases he
    · refine lines_cons (fun hc => h.1 hc.symm) (fun r _ he => h.2 ?_) (ih hne h.2)
      rw [he]
      exact List.mem_cons_self

/-- A line with a line feed behind it is cut back into itself. -/
theorem lines_terminated {line : Text} (h : '\n' ∉ line) (hr : line.getLast? ≠ some '\r') :
    lines (line ++ ['\n']) = [line] := by
  induction line with
  | nil => rfl
  | cons c line ih =>
    rw [List.mem_cons, not_or] at h
    by_cases hne : line = []
    · subst hne
      have hcr : c ≠ '\r' := by simpa using hr
      exact lines_cons (fun hc => h.1 hc.symm) (fun _ hc => absurd hc hcr) rfl
    · rw [List.getLast?_cons_of_ne_nil hne] at hr
      refine lines_cons (fun hc => h.1 hc.symm) (fun r _ he => h.2 ?_) (ih h.2 hr)
      obtain ⟨d, rest, rfl⟩ := List.exists_cons_of_ne_nil hne
      rw [(List.cons.inj he).1]
      exact List.mem_cons_self

/-! ### Content -/

/-- The lines that are not blank, without the blanks at their ends. -/
def solid (lines : List Text) : List Text :=
  (lines.map trimEnd).filter fun line => !isBlank line

/-- The lines of a text that are not blank, without the blanks at their ends. -/
def content (t : Text) : List Text := solid (lines t)

/-- The lines of a text that are not blank, as they are. -/
def filled (t : Text) : List Text := (lines t).filter fun line => !isBlank line

theorem solid_append (ls ms : List Text) : solid (ls ++ ms) = solid ls ++ solid ms := by
  simp [solid]

theorem solid_of_blank {line : Text} (h : trimEnd line = []) : solid [line] = [] := by
  simp [solid, h]

theorem solid_of_ne {line : Text} (h : trimEnd line ≠ []) : solid [line] = [trimEnd line] := by
  have hb : isBlank line = false := by rwa [← Bool.not_eq_true, ← trimEnd_eq_nil]
  simp [solid, hb]

@[simp] theorem filled_nil : filled [] = [] := rfl

theorem filled_of_isBlank {t : Text} (h : isBlank t = true) : filled t = [] :=
  List.filter_eq_nil_iff.mpr fun _ hl => by simp [isBlank_of_mem_lines h hl]

theorem filled_append {s : Text} (hs : Ended s) (t : Text) :
    filled (s ++ t) = filled s ++ filled t := by
  rw [filled, lines_append hs, List.filter_append, filled, filled]

end LineFraming.Text
