import LineFraming.Json.Number

/-!
# JSON tokens

A text is cut into tokens: punctuation and scalar values. Blanks between tokens are spaces, tabs,
line feeds and carriage returns, no others. Every step leaves a shorter text, so cutting ends.

## Main definitions

* `Json.Token`: the tokens.
* `Json.character?`: one character of a string behind its opening quote.
* `Json.stringBody?`: the rest of a string behind its opening quote.
* `Json.tokens?`: the tokens of a text.
-/

namespace LineFraming.Json

/-- A piece of punctuation or a scalar value. -/
inductive Token where
  | openArray
  | closeArray
  | openObject
  | closeObject
  | comma
  | colon
  | scalar (v : Value)

/-- The character of an escape with one letter. -/
def escapeLetter? (c : Char) : Option Char :=
  if c = '\x22' ∨ c = '\\' ∨ c = '/' then some c
  else if c = 'b' then some '\x08'
  else if c = 'f' then some '\x0c'
  else if c = 'n' then some '\n'
  else if c = 'r' then some '\r'
  else if c = 't' then some '\t'
  else none

/-- The number that four hexadecimal digits stand for. -/
def unit? (a b c d : Char) : Option Nat := Text.hexNumber? [a, b, c, d]

/-- The character of an escape, behind its backslash. A character beyond the first plane is
written as two units, and no unit of such a pair stands alone. -/
def escape? : Text → Option (Char × Text)
  | 'u' :: a :: b :: c :: d :: rest => do
    let high ← unit? a b c d
    if high < 0xD800 ∨ 0xDFFF < high then some (Char.ofNat high, rest)
    else if 0xDC00 ≤ high then none
    else
      match rest with
      | '\\' :: 'u' :: a :: b :: c :: d :: rest =>
        let low ← unit? a b c d
        if 0xDC00 ≤ low ∧ low ≤ 0xDFFF then
          some (Char.ofNat (0x10000 + (high - 0xD800) * 0x400 + (low - 0xDC00)), rest)
        else none
      | _ => none
  | c :: rest => (escapeLetter? c).map (·, rest)
  | [] => none

/-- One character of a string. Controls stand in a string only as escapes. -/
def character? : Text → Option (Char × Text)
  | [] => none
  | '\\' :: rest => escape? rest
  | c :: rest => if c.toNat < 0x20 then none else some (c, rest)

theorem length_escape? {t rest : Text} {c : Char} (h : escape? t = some (c, rest)) :
    rest.length < t.length := by
  unfold escape? at h
  split at h
  · simp only [Option.bind_eq_bind, Option.bind_eq_some_iff] at h
    obtain ⟨high, -, h⟩ := h
    split at h
    · simp only [Option.some.injEq, Prod.mk.injEq] at h
      obtain ⟨-, rfl⟩ := h
      simp
      omega
    · split at h
      · simp at h
      · split at h
        · simp only [Option.bind_eq_some_iff] at h
          obtain ⟨low, -, h⟩ := h
          split at h
          · simp only [Option.some.injEq, Prod.mk.injEq] at h
            obtain ⟨-, rfl⟩ := h
            simp
            omega
          · simp at h
        · simp at h
  · simp only [Option.map_eq_some_iff, Prod.mk.injEq] at h
    obtain ⟨_, -, -, rfl⟩ := h
    simp
  · simp at h

/-- Reading a character leaves a shorter text. -/
theorem length_character? {t rest : Text} {c : Char} (h : character? t = some (c, rest)) :
    rest.length < t.length := by
  unfold character? at h
  split at h
  · simp at h
  · have := length_escape? h
    simp
    omega
  · split at h
    · simp at h
    · simp only [Option.some.injEq, Prod.mk.injEq] at h
      obtain ⟨-, rfl⟩ := h
      simp

/-- The characters of a string up to its closing quote, and what follows the quote. -/
def stringBody? (t : Text) : Option (Text × Text) :=
  match t with
  | '\x22' :: rest => some ([], rest)
  | t =>
    match _h : character? t with
    | none => none
    | some (c, rest) => (stringBody? rest).map fun r => (c :: r.1, r.2)
termination_by t.length
decreasing_by exact length_character? (by assumption)

theorem length_stringBody? {t body rest : Text} (h : stringBody? t = some (body, rest)) :
    rest.length < t.length := by
  induction hn : t.length using Nat.strongRecOn generalizing t body rest with
  | _ n ih =>
    rw [stringBody?.eq_def] at h
    split at h
    · simp only [Option.some.injEq, Prod.mk.injEq] at h
      obtain ⟨-, rfl⟩ := h
      simp at hn
      omega
    · split at h
      · simp at h
      · rename_i hc
        simp only [Option.map_eq_some_iff, Prod.mk.injEq] at h
        obtain ⟨⟨body', rest'⟩, hr, -, hrest⟩ := h
        simp only at hrest
        have h1 := length_character? hc
        have h2 := ih _ (by omega) hr rfl
        rw [hrest] at h2
        omega

/-- The characters that numbers are written with. -/
def isNumberChar (c : Char) : Bool :=
  c.isDigit || c == '-' || c == '+' || c == '.' || c == 'e' || c == 'E'

/-- The blanks between tokens. -/
def isSeparator (c : Char) : Bool := c == ' ' || c == '\t' || c == '\n' || c == '\r'

/-- The words that stand for values. -/
def word? (word : Text) : Option Value :=
  if word = "null".toList then some .null
  else if word = "true".toList then some (.bool true)
  else if word = "false".toList then some (.bool false)
  else none

/-- The token that a text starts with, and what follows it. -/
def token? : Text → Option (Token × Text)
  | [] => none
  | c :: rest =>
    if c = '[' then some (.openArray, rest)
    else if c = ']' then some (.closeArray, rest)
    else if c = '{' then some (.openObject, rest)
    else if c = '}' then some (.closeObject, rest)
    else if c = ',' then some (.comma, rest)
    else if c = ':' then some (.colon, rest)
    else if c = '\x22' then (stringBody? rest).map fun r => (.scalar (.string r.1), r.2)
    else if c = '-' ∨ c.isDigit then
      (number? (c :: rest.takeWhile isNumberChar)).map fun v =>
        (.scalar v, rest.dropWhile isNumberChar)
    else
      (word? (c :: rest.takeWhile Char.isAlpha)).map fun v =>
        (.scalar v, rest.dropWhile Char.isAlpha)

private theorem length_dropWhile_le (p : Char → Bool) (t : Text) :
    (t.dropWhile p).length ≤ t.length := by
  have h := congrArg List.length (List.takeWhile_append_dropWhile (p := p) (l := t))
  simp only [List.length_append] at h
  omega

/-- Reading a token leaves a shorter text. -/
theorem length_token? {t rest : Text} {k : Token} (h : token? t = some (k, rest)) :
    rest.length < t.length := by
  unfold token? at h
  split at h
  · simp at h
  · rename_i c r
    have hn := length_dropWhile_le isNumberChar r
    have ha := length_dropWhile_le Char.isAlpha r
    repeat' split at h
    all_goals
      simp only [Option.some.injEq, Option.map_eq_some_iff, Prod.mk.injEq] at h
    iterate 6
      · obtain ⟨-, rfl⟩ := h
        simp
    · obtain ⟨⟨body, rest'⟩, hr, -, rfl⟩ := h
      have := length_stringBody? hr
      simp
      omega
    · obtain ⟨_, -, -, rfl⟩ := h
      simp
      omega
    · obtain ⟨_, -, -, rfl⟩ := h
      simp
      omega

/-- The tokens of a text; `none` if something is no token. -/
def tokens? (t : Text) : Option (List Token) :=
  match t with
  | [] => some []
  | c :: r =>
    if isSeparator c then tokens? r
    else
      match _h : token? (c :: r) with
      | none => none
      | some (k, rest) => (tokens? rest).map (k :: ·)
termination_by t.length
decreasing_by
  · simp
  · exact length_token? (by assumption)

end LineFraming.Json
