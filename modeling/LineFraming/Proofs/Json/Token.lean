import LineFraming.Json.Token
import LineFraming.Proofs.Text.Lines

/-!
# Tokens of a written text

What is written as a scalar is cut back into the same scalar, whatever follows it. For a string
this is a fact about single characters: what stands for a character is read as that character, and
the closing quote is the first quote that stands for itself. For a number or a word the cut is made
by the characters, so what follows must not look as if it still belonged to it.

## The two sides of a number

A natural number is written in decimal notation and read digit by digit, as long as it stays below
`2 ^ 64`. Any other number keeps its text. So a number that has been read is written with the
characters of numbers only, and its text is cut out of any other text as a whole.

## Main definitions

* `Json.Apart` — a text that cannot go on with a number or a word

## Main results

* `Json.character?_escaped`, `Json.stringBody?_flatMap` — what stands for a character, for a string
* `Json.number?_decimal`, `Json.number?_cases` — natural numbers, and what a number can be
* `Json.token?_quote`, `Json.token?_number`, `Json.token?_word` — strings, numbers and words in
  front of other text
* `Json.tokens?_of_token?` — one token, and the tokens behind it
-/

namespace LineFraming

namespace Text

/-! ### Decimal and hexadecimal notation -/

theorem decimal_of_lt {n : Nat} (h : n < 10) : decimal n = [digit n] := by
  rw [decimal, if_pos h]

theorem decimal_of_le {n : Nat} (h : 10 ≤ n) : decimal n = decimal (n / 10) ++ [digit (n % 10)] := by
  rw [decimal, if_neg (Nat.not_lt.mpr h)]

theorem decimal_ne_nil (n : Nat) : decimal n ≠ [] := by
  rw [decimal]
  split <;> simp

theorem isDigit_of_mem_decimal {n : Nat} {c : Char} (h : c ∈ decimal n) : c.isDigit = true := by
  induction n using Nat.strongRecOn with
  | _ n ih =>
    rcases Nat.lt_or_ge n 10 with hn | hn
    · rw [decimal_of_lt hn, List.mem_singleton] at h
      rw [h]
      exact isDigit_digit hn
    · rw [decimal_of_le hn, List.mem_append, List.mem_singleton] at h
      rcases h with h | rfl
      · exact ih (n / 10) (by omega) h
      · exact isDigit_digit (Nat.mod_lt n (by omega))

/-- Only zero is written with a zero in front. -/
theorem head?_decimal_ne {n : Nat} (h : 0 < n) : (decimal n).head? ≠ some '0' := by
  have hdigit : ∀ m : Fin 10, 0 < m.val → digit m ≠ '0' := by decide
  induction n using Nat.strongRecOn with
  | _ n ih =>
    rcases Nat.lt_or_ge n 10 with hn | hn
    · rw [decimal_of_lt hn]
      simpa using hdigit ⟨n, hn⟩ h
    · rw [decimal_of_le hn, List.head?_append_of_ne_nil _ (decimal_ne_nil _)]
      exact ih (n / 10) (by omega) (by omega)

theorem hexValue?_hexDigit {n : Nat} (h : n < 16) : hexValue? (hexDigit n) = some n := by
  have h' : ∀ m : Fin 16, hexValue? (hexDigit m) = some m.val := by decide
  exact h' ⟨n, h⟩

end Text

namespace Json

/-! ### Strings -/

/-- What stands for a control is read as that control. -/
theorem unit?_hexDigit {n : Nat} (h : n < 0x20) :
    unit? '0' '0' (Text.hexDigit (n / 16)) (Text.hexDigit (n % 16)) = some n := by
  have hhigh := Text.hexValue?_hexDigit (n := n / 16) (by omega)
  have hlow := Text.hexValue?_hexDigit (n := n % 16) (by omega)
  have hzero : Text.hexValue? '0' = some 0 := by decide
  simp only [unit?, Text.hexNumber?, List.foldlM_cons, List.foldlM_nil, hzero, hhigh, hlow,
    Option.map_some, Option.bind_eq_bind, Option.bind_some, Option.pure_def]
  congr 1
  omega

/-- **What stands for a character is read as that character.** -/
theorem character?_escaped (c : Char) (t : Text) : character? (escaped c ++ t) = some (c, t) := by
  unfold escaped
  split_ifs with hquote hslash hback hfeed hline hreturn htab hcontrol
  · subst hquote; rfl
  · subst hslash; rfl
  · obtain rfl : c = '\x08' := Char.toNat_inj.mp hback
    rfl
  · obtain rfl : c = '\x0c' := Char.toNat_inj.mp hfeed
    rfl
  · subst hline; rfl
  · subst hreturn; rfl
  · subst htab; rfl
  · have hunit := unit?_hexDigit hcontrol
    have hlow : c.toNat < 0xD800 := by omega
    simp [character?, escape?, hunit, hlow]
  · rw [List.singleton_append, character?]
    · rw [if_neg hcontrol]
    · exact hslash

theorem head?_escaped_ne (c : Char) (t : Text) : (escaped c ++ t).head? ≠ some '\x22' := by
  unfold escaped
  split_ifs <;> simp_all

/-- A character that is not the closing quote belongs to the string. -/
theorem stringBody?_of_character? {t rest : Text} {c : Char} (h : character? t = some (c, rest))
    (hq : t.head? ≠ some '\x22') :
    stringBody? t = (stringBody? rest).map fun r => (c :: r.1, r.2) := by
  rw [stringBody?.eq_def]
  split
  · simp at hq
  · split
    · rename_i hn
      rw [h] at hn
      cases hn
    · rename_i hc
      rw [h, Option.some.injEq, Prod.mk.injEq] at hc
      obtain ⟨rfl, rfl⟩ := hc
      rfl

/-- A string is read back up to its closing quote. -/
theorem stringBody?_flatMap (s rest : Text) :
    stringBody? (s.flatMap escaped ++ '\x22' :: rest) = some (s, rest) := by
  induction s with
  | nil =>
    rw [stringBody?.eq_def]
    rfl
  | cons c s ih =>
    rw [List.flatMap_cons, List.append_assoc,
      stringBody?_of_character? (character?_escaped c _) (head?_escaped_ne c _), ih]
    rfl

theorem le_toNat_of_mem_escaped {c d : Char} (h : d ∈ escaped c) : 0x20 ≤ d.toNat := by
  have hhex : ∀ n : Fin 16, 0x20 ≤ (Text.hexDigit n).toNat := by decide
  have hletter {l : Char} (hl : 0x20 ≤ l.toNat) (hd : d ∈ ['\\', l]) : 0x20 ≤ d.toNat := by
    simp only [List.mem_cons, List.not_mem_nil, or_false] at hd
    rcases hd with rfl | rfl
    · decide
    · exact hl
  unfold escaped at h
  split_ifs at h with _ _ _ _ _ _ _ hcontrol
  iterate 7 exact hletter (by decide) h
  · simp only [List.mem_cons, List.not_mem_nil, or_false] at h
    rcases h with rfl | rfl | rfl | rfl | rfl | rfl
    · decide
    · decide
    · decide
    · decide
    · exact hhex ⟨c.toNat / 16, by omega⟩
    · exact hhex ⟨c.toNat % 16, by omega⟩
  · rw [List.mem_singleton.mp h]
    omega

/-- A string that is written holds no control. -/
theorem le_toNat_of_mem_quote {s : Text} {c : Char} (h : c ∈ quote s) : 0x20 ≤ c.toNat := by
  simp only [quote, List.mem_cons, List.mem_append, List.mem_flatMap, List.not_mem_nil,
    or_false] at h
  rcases h with rfl | ⟨d, -, hd⟩ | rfl
  · decide
  · exact le_toNat_of_mem_escaped hd
  · decide

/-! ### Natural numbers -/

theorem spanDigits_decimal (n : Nat) : spanDigits (Text.decimal n) = (Text.decimal n, []) := by
  have hall : ∀ c ∈ Text.decimal n, c.isDigit = true := fun c => Text.isDigit_of_mem_decimal
  rw [spanDigits, List.takeWhile_eq_self_iff.mpr hall, List.dropWhile_eq_nil_iff.mpr hall]

/-- One more digit makes a number no smaller. -/
theorem le_foldl_digits (digits : Text) (n : Nat) :
    n ≤ digits.foldl (fun n c => n * 10 + Text.digitValue c) n := by
  induction digits generalizing n with
  | nil => exact Nat.le_refl n
  | cons c digits ih =>
    have hstep : n ≤ n * 10 + Text.digitValue c := by omega
    exact hstep.trans (ih _)

/-- Digits are put together as long as their value stays below the bound. -/
theorem accumulate_of_lt {n : Nat} {digits : Text}
    (h : digits.foldl (fun n c => n * 10 + Text.digitValue c) n < UInt64.size) :
    accumulate n digits = (digits.foldl (fun n c => n * 10 + Text.digitValue c) n, []) := by
  induction digits generalizing n with
  | nil => rfl
  | cons c digits ih =>
    have hnext : n * 10 + Text.digitValue c < UInt64.size := (le_foldl_digits digits _).trans_lt h
    rw [accumulate, if_pos hnext]
    exact ih h

/-- What has been put together stays below the bound. -/
theorem accumulate_lt {n : Nat} (h : n < UInt64.size) (digits : Text) :
    (accumulate n digits).1 < UInt64.size := by
  induction digits generalizing n with
  | nil => exact h
  | cons c digits ih =>
    rw [accumulate]
    split
    · exact ih ‹_›
    · exact h

/-- **A natural number below `2 ^ 64` is read back from its decimal notation.** -/
theorem number?_decimal {n : Nat} (h : n < UInt64.size) :
    number? (Text.decimal n) = some (.natural n) := by
  have hsign : ((Text.decimal n).head? == some '-') = false := by
    rw [beq_eq_false_iff_ne]
    intro he
    have hdigit := Text.isDigit_of_mem_decimal (List.mem_of_head? he)
    exact absurd hdigit (by decide)
  have hzeros : ((Text.decimal n).isEmpty ||
      (Text.decimal n).head? == some '0' && decide (1 < (Text.decimal n).length)) = false := by
    rcases Nat.eq_zero_or_pos n with rfl | hpos
    · rw [Text.decimal_of_lt (by decide)]
      rfl
    · simp [Text.decimal_ne_nil, Text.head?_decimal_ne hpos]
  have hvalue : accumulate 0 (Text.decimal n) = (n, []) := by
    have hfold : (Text.decimal n).foldl (fun n c => n * 10 + Text.digitValue c) 0 = n :=
      Text.decimalValue_decimal n
    rw [accumulate_of_lt (by rw [hfold]; exact h), hfold]
  simp [number?, hsign, spanDigits_decimal, hzeros, fraction?, exponent?, hvalue]

/-! ### Other numbers -/

theorem isNumberChar_of_isDigit {c : Char} (h : c.isDigit = true) : isNumberChar c = true := by
  simp [isNumberChar, h]

/-- The text is cut behind characters of numbers. -/
def NumberPrefix (t rest : Text) : Prop := ∃ front, t = front ++ rest ∧ front.all isNumberChar

namespace NumberPrefix

theorem refl (t : Text) : NumberPrefix t t := ⟨[], rfl, rfl⟩

theorem trans {t u v : Text} (htu : NumberPrefix t u) (huv : NumberPrefix u v) :
    NumberPrefix t v := by
  obtain ⟨front, rfl, hf⟩ := htu
  obtain ⟨more, rfl, hm⟩ := huv
  exact ⟨front ++ more, by rw [List.append_assoc], by rw [List.all_append, hf, hm]; rfl⟩

theorem cons {c : Char} {t rest : Text} (hc : isNumberChar c = true) (h : NumberPrefix t rest) :
    NumberPrefix (c :: t) rest := by
  obtain ⟨front, rfl, hf⟩ := h
  exact ⟨c :: front, rfl, by rw [List.all_cons, hc, hf]; rfl⟩

theorem spanDigits (t : Text) : NumberPrefix t (spanDigits t).2 := by
  refine ⟨(Json.spanDigits t).1, (List.takeWhile_append_dropWhile).symm, ?_⟩
  refine List.all_eq_true.mpr fun c hc => isNumberChar_of_isDigit ?_
  exact List.mem_takeWhile_imp hc

theorem fraction? {t digits rest : Text} (h : fraction? t = some (digits, rest)) :
    NumberPrefix t rest := by
  unfold Json.fraction? at h
  split at h
  · rename_i more
    dsimp only at h
    split at h
    · cases h
    · simp only [Option.some.injEq, Prod.mk.injEq] at h
      rw [← h.2]
      exact (spanDigits more).cons rfl
  · simp only [Option.some.injEq, Prod.mk.injEq] at h
    rw [h.2]
    exact refl rest

theorem exponentDigits? {sign : Int} {t rest : Text} {e : Option Int}
    (h : exponentDigits? sign t = some (e, rest)) : NumberPrefix t rest := by
  unfold Json.exponentDigits? at h
  dsimp only at h
  split at h
  · cases h
  · simp only [Option.some.injEq, Prod.mk.injEq] at h
    rw [← h.2]
    exact spanDigits t

theorem exponent? {t rest : Text} {e : Option Int} (h : exponent? t = some (e, rest)) :
    NumberPrefix t rest := by
  unfold Json.exponent? at h
  split at h
  · rename_i c more
    split at h
    · rename_i hc
      have hletter : isNumberChar c = true := by rcases hc with rfl | rfl <;> rfl
      split at h
      · exact ((exponentDigits? h).cons rfl).cons hletter
      · exact ((exponentDigits? h).cons rfl).cons hletter
      · exact (exponentDigits? h).cons hletter
    · simp only [Option.some.injEq, Prod.mk.injEq] at h
      rw [h.2]
      exact refl rest
  · simp only [Option.some.injEq, Prod.mk.injEq] at h
    rw [h.2]
    exact refl rest

end NumberPrefix

theorem exists_cons_of_spanDigits {t : Text} (h : (spanDigits t).1 ≠ []) :
    ∃ c rest, t = c :: rest ∧ c.isDigit = true := by
  cases t with
  | nil => exact absurd rfl h
  | cons c rest =>
    refine ⟨c, rest, rfl, by_contra fun hc => h ?_⟩
    rw [spanDigits, List.takeWhile_cons_of_neg hc]

/-- **What a written number is.** It is written with the characters of numbers, the first of which
is a digit or a minus, and it is a natural number below `2 ^ 64` or keeps its text. -/
theorem number?_cases {w : Text} {v : Value} (h : number? w = some v) :
    (∃ c rest, w = c :: rest ∧ (c = '-' ∨ c.isDigit = true) ∧ rest.all isNumberChar = true) ∧
      ((∃ n, v = .natural n ∧ n < UInt64.size) ∨ v = .number w) := by
  unfold number? at h
  generalize hsign : (w.head? == some '-') = negative at h
  generalize hbody : (if negative = true then w.tail else w) = body at h
  dsimp only at h
  rw [hbody] at h
  split at h
  · cases h
  rename_i hdigits
  simp only [Option.bind_eq_bind, Option.bind_eq_some_iff] at h
  obtain ⟨⟨fractionDigits, rest₁⟩, hfraction, ⟨exponent, rest₂⟩, hexponent, h⟩ := h
  dsimp only at h hexponent
  split at h
  · cases h
  rename_i hrest
  constructor
  · obtain rfl : rest₂ = [] := by simpa using hrest
    have hne : (spanDigits body).1 ≠ [] := fun he => hdigits (by simp [he])
    obtain ⟨c, rest, rfl, hc⟩ := exists_cons_of_spanDigits hne
    have hcut := ((NumberPrefix.spanDigits _).trans (.fraction? hfraction)).trans
      (.exponent? hexponent)
    obtain ⟨front, hfront, hall⟩ := hcut
    rw [List.append_nil] at hfront
    rw [← hfront] at hall
    cases negative with
    | true =>
      rw [beq_iff_eq] at hsign
      obtain ⟨more, rfl⟩ := List.head?_eq_some_iff.mp hsign
      exact ⟨'-', more, rfl, .inl rfl, by rw [show more = c :: rest from hbody]; exact hall⟩
    | false =>
      rw [List.all_cons, Bool.and_eq_true] at hall
      exact ⟨c, rest, hbody, .inr hc, hall.2⟩
  · split at h
    · cases negative with
      | true => exact .inr (Option.some.inj h).symm
      | false => exact .inl ⟨_, (Option.some.inj h).symm, accumulate_lt (by decide) _⟩
    · refine .inr ?_
      split at h <;> split at h
      all_goals first | exact (Option.some.inj h).symm | cases h

theorem le_toNat_of_isNumberChar {c : Char} (h : isNumberChar c = true) : 0x20 ≤ c.toNat := by
  simp only [isNumberChar, Bool.or_eq_true, beq_iff_eq] at h
  rcases h with ((((h | rfl) | rfl) | rfl) | rfl) | rfl
  · have hzero : '0'.toNat ≤ c.toNat := (Char.isDigit_iff_toNat.mp h).1
    exact le_trans (by decide) hzero
  all_goals decide

/-- A written number holds no control. -/
theorem le_toNat_of_number? {w : Text} {v : Value} (h : number? w = some v) {c : Char}
    (hc : c ∈ w) : 0x20 ≤ c.toNat := by
  obtain ⟨⟨first, rest, rfl, hfirst, hall⟩, -⟩ := number?_cases h
  apply le_toNat_of_isNumberChar
  rcases List.mem_cons.mp hc with rfl | hc
  · rcases hfirst with rfl | hdigit
    · rfl
    · exact isNumberChar_of_isDigit hdigit
  · exact List.all_eq_true.mp hall c hc

/-! ### Single tokens -/

/-- The text does not go on with a number or a word. -/
def Apart (t : Text) : Prop := ∀ c ∈ t.head?, isNumberChar c = false ∧ c.isAlpha = false

theorem apart_cons {c : Char} {t : Text} (h : isNumberChar c = false ∧ c.isAlpha = false) :
    Apart (c :: t) := by
  intro d hd
  rw [← Option.some.inj hd]
  exact h

/-- Characters of one kind are cut off in front of a text that starts with none of them. -/
theorem span_append {p : Char → Bool} {s t : Text} (hs : s.all p = true)
    (ht : ∀ c ∈ t.head?, p c = false) :
    (s ++ t).takeWhile p = s ∧ (s ++ t).dropWhile p = t := by
  have hall : ∀ c ∈ s, p c = true := List.all_eq_true.mp hs
  have hstop : t.takeWhile p = [] ∧ t.dropWhile p = t := by
    cases t with
    | nil => exact ⟨rfl, rfl⟩
    | cons c t =>
      have hc : ¬p c = true := by simp [ht c rfl]
      exact ⟨List.takeWhile_cons_of_neg hc, List.dropWhile_cons_of_neg hc⟩
  rw [List.takeWhile_append_of_pos hall, List.dropWhile_append_of_pos hall, hstop.1, hstop.2,
    List.append_nil]
  exact ⟨rfl, rfl⟩

/-- **A string is cut off behind its closing quote.** -/
theorem token?_quote (s t : Text) : token? (quote s ++ t) = some (.scalar (.string s), t) := by
  have hbody : stringBody? (s.flatMap escaped ++ '\x22' :: t) = some (s, t) :=
    stringBody?_flatMap s t
  simp [quote, token?, hbody]

/-- **A written number is cut off in front of any text that does not go on with it.** -/
theorem token?_number {w t : Text} {v : Value} (h : number? w = some v) (ht : Apart t) :
    token? (w ++ t) = some (.scalar v, t) := by
  obtain ⟨⟨c, rest, rfl, hc, hall⟩, -⟩ := number?_cases h
  obtain ⟨hfront, hback⟩ := span_append hall fun d hd => (ht d hd).1
  have hstart : c = '-' ∨ c.isDigit = true := hc
  have hnone : c ≠ '[' ∧ c ≠ ']' ∧ c ≠ '{' ∧ c ≠ '}' ∧ c ≠ ',' ∧ c ≠ ':' ∧ c ≠ '\x22' := by
    refine ⟨?_, ?_, ?_, ?_, ?_, ?_, ?_⟩ <;> (rintro rfl; revert hc; decide)
  simp only [List.cons_append, token?, hnone, if_false, if_pos hstart, hfront, hback, h,
    Option.map_some]

theorem word?_cases {w : Text} {v : Value} (h : word? w = some v) :
    (∃ c rest, w = c :: rest ∧ (c = 'n' ∨ c = 't' ∨ c = 'f') ∧ rest.all Char.isAlpha = true) ∧
      (v = .null ∨ ∃ b, v = .bool b) := by
  unfold word? at h
  split_ifs at h with hnull htrue hfalse
  · rw [← Option.some.inj h, hnull]
    exact ⟨⟨'n', _, rfl, .inl rfl, by decide⟩, .inl rfl⟩
  · rw [← Option.some.inj h, htrue]
    exact ⟨⟨'t', _, rfl, .inr (.inl rfl), by decide⟩, .inr ⟨true, rfl⟩⟩
  · rw [← Option.some.inj h, hfalse]
    exact ⟨⟨'f', _, rfl, .inr (.inr rfl), by decide⟩, .inr ⟨false, rfl⟩⟩

/-- **So is a word.** -/
theorem token?_word {w t : Text} {v : Value} (h : word? w = some v) (ht : Apart t) :
    token? (w ++ t) = some (.scalar v, t) := by
  obtain ⟨⟨c, rest, rfl, hc, hall⟩, -⟩ := word?_cases h
  obtain ⟨hfront, hback⟩ := span_append hall fun d hd => (ht d hd).2
  have hstart : ¬(c = '-' ∨ c.isDigit = true) := by rcases hc with rfl | rfl | rfl <;> decide
  have hnone : c ≠ '[' ∧ c ≠ ']' ∧ c ≠ '{' ∧ c ≠ '}' ∧ c ≠ ',' ∧ c ≠ ':' ∧ c ≠ '\x22' := by
    rcases hc with rfl | rfl | rfl <;> decide
  simp only [List.cons_append, token?, hnone, if_false, if_neg hstart, hfront, hback, h,
    Option.map_some]

/-- No token starts with a blank. -/
theorem isSeparator_of_token? {c : Char} {t rest : Text} {k : Token}
    (h : token? (c :: t) = some (k, rest)) : isSeparator c = false := by
  rw [← Bool.not_eq_true]
  intro hc
  simp only [isSeparator, Bool.or_eq_true, beq_iff_eq] at hc
  rcases hc with ((rfl | rfl) | rfl) | rfl <;> simp [token?, word?] at h

/-- A token at the front is the first one of the text. -/
theorem tokens?_of_token? {t rest : Text} {k : Token} (h : token? t = some (k, rest)) :
    tokens? t = (tokens? rest).map (k :: ·) := by
  cases t with
  | nil => cases h
  | cons c t =>
    rw [tokens?.eq_def]
    dsimp only
    rw [if_neg (by simp [isSeparator_of_token? h])]
    split
    · rename_i hn
      rw [h] at hn
      cases hn
    · rename_i hk
      rw [h, Option.some.injEq, Prod.mk.injEq] at hk
      obtain ⟨rfl, rfl⟩ := hk
      rfl

/-- Blanks hold no token. -/
theorem tokens?_of_isSeparator {t : Text} (h : t.all isSeparator = true) : tokens? t = some [] := by
  induction t with
  | nil =>
    rw [tokens?.eq_def]
  | cons c t ih =>
    rw [List.all_cons, Bool.and_eq_true] at h
    rw [tokens?.eq_def]
    dsimp only
    rw [if_pos h.1]
    exact ih h.2

end Json

end LineFraming
