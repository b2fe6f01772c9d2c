import LineFraming.Block
import LineFraming.Proofs.Text.Lines

/-!
# Where the code of a line ends

The scan for the last character of code goes through a line once, from left to right, and starts
outside literals. It is a fold: what it has found behind a line depends on how far it came in front
of the last character, and on that character. So it is enough to know what one character does, and
what a run of characters does that leave the scan where it is.

Three kinds of characters do not count. Blanks at the end of a line do not, nor does anything behind
the start of a comment. And behind a quote that is not followed by another of its kind there is no
code at all, so the line has no last character of code.

## Main definitions

* `Block.Unquoted` — a text in which no literal starts
* `Block.Progress` — how far a scan has come
* `Block.Progress.read`, `Block.Progress.readAll` — one character more, and a text

## Main results

* `Block.scan_eq_found` — the scan is a fold
* `Block.opens_trimEnd`, `Block.opens_append` — blanks at the ends of a line do not matter
* `Block.Progress.readAll_literal`, `Block.Progress.readAll_comment` — literals and comments that go
  on hide the rest of a line
-/

namespace LineFraming.Block

/-- The characters that start a literal. -/
def IsQuote (c : Char) : Prop := c = singleQuote ∨ c = doubleQuote

instance (c : Char) : Decidable (IsQuote c) := inferInstanceAs (Decidable (_ ∨ _))

/-- A text in which no literal starts. -/
def Unquoted (t : Text) : Prop := singleQuote ∉ t ∧ doubleQuote ∉ t

instance (t : Text) : Decidable (Unquoted t) := inferInstanceAs (Decidable (_ ∧ _))

theorem Unquoted.not_isQuote {t : Text} (h : Unquoted t) {c : Char} (hc : c ∈ t) : ¬IsQuote c := by
  rintro (rfl | rfl)
  · exact h.1 hc
  · exact h.2 hc

theorem Unquoted.of_append_left {s t : Text} (h : Unquoted (s ++ t)) : Unquoted s :=
  ⟨fun hs => h.1 (List.mem_append_left t hs), fun hs => h.2 (List.mem_append_left t hs)⟩

theorem Unquoted.of_append_right {s t : Text} (h : Unquoted (s ++ t)) : Unquoted t :=
  ⟨fun ht => h.1 (List.mem_append_right s ht), fun ht => h.2 (List.mem_append_right s ht)⟩

/-- How far a scan has come, where `last` is the last character of code so far. -/
inductive Progress where
  /-- The rest of the line counts. -/
  | scanning (place : Place) (last : Option Char)
  /-- A comment has started. -/
  | comment (last : Option Char)

namespace Progress

/-- One character more. -/
def read : Progress → Char → Progress
  | comment last, _ => comment last
  | scanning (.literal quote true) last, _ => scanning (.literal quote false) last
  | scanning (.literal quote false) last, c =>
    if c = '\\' then scanning (.literal quote true) last
    else if c = quote then scanning .code (some c)
    else scanning (.literal quote false) last
  | scanning .code last, c =>
    if c = '#' then comment last
    else if IsQuote c then scanning (.literal c false) (some c)
    else if Text.isBlankChar c then scanning .code last
    else scanning .code (some c)

/-- A text more. -/
def readAll (p : Progress) (t : Text) : Progress := t.foldl read p

/-- The last character of code, if the line ends here. -/
def found : Progress → Option Char
  | scanning .code last => last
  | scanning (.literal _ _) _ => none
  | comment last => last

variable {p : Progress} {last : Option Char} {quote c : Char} {t : Text}

@[simp] theorem readAll_nil (p : Progress) : p.readAll [] = p := rfl

@[simp] theorem readAll_cons (p : Progress) (c : Char) (t : Text) :
    p.readAll (c :: t) = (p.read c).readAll t := rfl

@[simp] theorem readAll_append (p : Progress) (s t : Text) :
    p.readAll (s ++ t) = (p.readAll s).readAll t := List.foldl_append

/-- What every character of a text keeps, the text keeps. -/
theorem readAll_induction {motive : Progress → Prop} (hp : motive p)
    (step : ∀ q, ∀ c ∈ t, motive q → motive (q.read c)) : motive (p.readAll t) := by
  induction t generalizing p with
  | nil => exact hp
  | cons c t ih =>
    exact ih (step p c List.mem_cons_self hp) fun q d hd => step q d (List.mem_cons_of_mem c hd)

/-- Behind the start of a comment nothing counts. -/
@[simp] theorem readAll_comment (last : Option Char) (t : Text) :
    (comment last).readAll t = comment last :=
  readAll_induction (motive := (· = comment last)) rfl fun _ _ _ h => by rw [h, read]

/-- A literal goes on until its quote or a backslash comes. -/
theorem readAll_literal (last : Option Char) (hq : quote ∉ t) (hs : '\\' ∉ t) :
    (scanning (.literal quote false) last).readAll t = scanning (.literal quote false) last := by
  refine readAll_induction (motive := (· = scanning (.literal quote false) last)) rfl ?_
  rintro q c hc rfl
  have hquote : c ≠ quote := fun he => hq (he ▸ hc)
  have hslash : c ≠ '\\' := fun he => hs (he ▸ hc)
  rw [read, if_neg hslash, if_neg hquote]

/-- Code goes on until a quote or a comment comes, and its last character that is not blank is the
last of the code so far. -/
theorem readAll_code (last : Option Char) (ht : Unquoted t) (hh : '#' ∉ t) :
    (scanning .code last).readAll t =
      scanning .code ((t.filter fun c => !Text.isBlankChar c).getLast?.or last) := by
  induction t generalizing last with
  | nil => rfl
  | cons c t ih =>
    have hhash : c ≠ '#' := fun he => hh (he ▸ List.mem_cons_self)
    have hquote : ¬IsQuote c := ht.not_isQuote List.mem_cons_self
    have ht' : Unquoted t := Unquoted.of_append_right (s := [c]) ht
    have hh' : '#' ∉ t := fun hm => hh (List.mem_cons_of_mem c hm)
    rw [readAll_cons, read, if_neg hhash, if_neg hquote]
    cases hc : Text.isBlankChar c with
    | true =>
      rw [if_pos rfl, ih last ht' hh', List.filter_cons_of_neg (by simp [hc])]
    | false =>
      rw [if_neg Bool.false_ne_true, ih (some c) ht' hh', List.filter_cons_of_pos (by simp [hc]),
        List.getLast?_cons, Option.or_some, Option.some_or]

/-- Where no literal starts, a comment starts at the first `#`. -/
theorem exists_readAll_comment (last : Option Char) (ht : Unquoted t) (hh : '#' ∈ t) :
    ∃ last', (scanning .code last).readAll t = comment last' := by
  obtain ⟨s, rest, rfl, hs⟩ := List.eq_append_cons_of_mem hh
  refine ⟨(s.filter fun c => !Text.isBlankChar c).getLast?.or last, ?_⟩
  rw [readAll_append, readAll_code last ht.of_append_left hs, readAll_cons, read, if_pos rfl,
    readAll_comment]

/-- A literal that is open began at a quote. -/
def Proper : Progress → Prop
  | scanning (.literal quote _) _ => IsQuote quote
  | _ => True

theorem Proper.read (h : p.Proper) (c : Char) : (p.read c).Proper := by
  match p, h with
  | comment last, _ => trivial
  | scanning (.literal quote true) last, h => exact h
  | scanning (.literal quote false) last, h =>
    rw [Progress.read]
    split
    · exact h
    · split
      · trivial
      · exact h
  | scanning .code last, _ =>
    rw [Progress.read]
    split
    · trivial
    · split
      · assumption
      · split <;> trivial

theorem Proper.readAll (h : p.Proper) (t : Text) : (p.readAll t).Proper :=
  readAll_induction h fun _ c _ hq => hq.read c

/-- A blank is no code, and it closes no literal. -/
theorem Proper.found_read (h : p.Proper) (hc : Text.isBlankChar c = true) :
    (p.read c).found = p.found := by
  have hne {d : Char} (hd : Text.isBlankChar d = false) : c ≠ d := by
    rintro rfl
    rw [hc] at hd
    cases hd
  have hquote : ¬IsQuote c := fun hq => hq.elim (hne (by decide)) (hne (by decide))
  match p, h with
  | comment last, _ => rfl
  | scanning (.literal quote true) last, _ => rfl
  | scanning (.literal quote false) last, h =>
    have hend : c ≠ quote := fun he => hquote (he ▸ h)
    rw [Progress.read, if_neg (hne (by decide)), if_neg hend]
  | scanning .code last, _ =>
    rw [Progress.read, if_neg (hne (by decide)), if_neg hquote, if_pos hc]

end Progress

open Progress

/-- **The scan is a fold.** -/
theorem scan_eq_found (place : Place) (last : Option Char) (t : Text) :
    scan place last t = ((scanning place last).readAll t).found := by
  fun_induction scan place last t <;> simp_all [Progress.read, found, IsQuote]

theorem lastCodeChar_eq_found (line : Text) :
    lastCodeChar line = ((scanning .code none).readAll line).found :=
  scan_eq_found .code none line

/-- Blanks in front of a line are no code. -/
theorem lastCodeChar_append {blanks : Text} (hb : Text.isBlank blanks = true) (t : Text) :
    lastCodeChar (blanks ++ t) = lastCodeChar t := by
  have hquote : Unquoted blanks :=
    ⟨Text.not_mem_of_isBlank hb (by decide), Text.not_mem_of_isBlank hb (by decide)⟩
  have hhash : '#' ∉ blanks := Text.not_mem_of_isBlank hb (by decide)
  have hnone : (blanks.filter fun c => !Text.isBlankChar c) = [] :=
    List.filter_eq_nil_iff.mpr fun c hc => by simp [List.all_eq_true.mp hb c hc]
  rw [lastCodeChar_eq_found, readAll_append, readAll_code none hquote hhash, hnone]
  exact (lastCodeChar_eq_found t).symm

theorem lastCodeChar_concat {c : Char} (hc : Text.isBlankChar c = true) (t : Text) :
    lastCodeChar (t ++ [c]) = lastCodeChar t := by
  rw [lastCodeChar_eq_found, lastCodeChar_eq_found, readAll_append]
  have hstart : (scanning .code none).Proper := trivial
  have hproper := hstart.readAll t
  exact hproper.found_read hc

/-- Blanks at the end of a line do not matter for whether it opens a block. -/
theorem opens_trimEnd (line : Text) : opens (Text.trimEnd line) = opens line := by
  refine Text.apply_trimEnd (fun t c hc => ?_) line
  rw [opens, lastCodeChar_concat hc, opens]

/-- Nor do blanks in front of it. -/
theorem opens_append {blanks : Text} (hb : Text.isBlank blanks = true) (line : Text) :
    opens (blanks ++ line) = opens line := by
  rw [opens, lastCodeChar_append hb, opens]

end LineFraming.Block
