import LineFraming.Proofs.Block

/-!
# The pieces of a line

A line is code and literals by turns, up to its end, up to a comment, or up to a literal that is
never closed. That is what the scan for the last character of code has to recognise. Here it is said
without a scan: a piece carries what makes it a piece, and a line is put together from pieces.

A scan that is outside literals in front of a piece is so behind it, for a literal with both its
quotes is left at the second of them and at no character before. So what the scan has found depends
on the pieces one by one, and it finds their last character that is not blank. A literal ends with
its quote, so that character is a colon only if it belongs to the code.

Nothing is left out. Every line is made of pieces in this way.

## Main definitions

* `Block.Inner` — what stands inside a literal
* `Block.Piece` — a run of code, or a literal with both its quotes
* `Block.Ending` — what stands behind the pieces of a line
* `Block.lastMark` — the last character of some pieces that is not blank, and where it belongs
* `Block.EndsInColon` — this is a colon of the code

## Main results

* `Block.exists_pieces` — every line is made of pieces
* `Block.readAll_pieces` — what a scan has found behind some pieces
* `Block.opens_iff_endsInColon` — when a line opens a block
-/

namespace LineFraming.Block

/-- What stands inside a literal: a character that is neither its quote nor a backslash, or any
character behind a backslash. -/
inductive Inner (quote : Char) where
  | plain (c : Char) (not_quote : c ≠ quote) (not_backslash : c ≠ '\\')
  | escaped (c : Char)

/-- How it is written. -/
def Inner.text {quote : Char} : Inner quote → Text
  | plain c _ _ => [c]
  | escaped c => ['\\', c]

/-- A piece of a line. -/
inductive Piece where
  /-- A run of code, in which no literal and no comment starts. -/
  | code (run : Text) (unquoted : Unquoted run) (no_comment : '#' ∉ run)
  /-- A literal with both its quotes. -/
  | literal (quote : Char) (isQuote : IsQuote quote) (body : List (Inner quote))

namespace Piece

/-- How a piece is written. -/
def text : Piece → Text
  | code run _ _ => run
  | literal quote _ body => quote :: (body.flatMap Inner.text ++ [quote])

/-- Whether a piece is code. -/
def isCode : Piece → Bool
  | code _ _ _ => true
  | literal _ _ _ => false

/-- The characters of a piece, and whether they belong to the code. -/
def marked (p : Piece) : List (Char × Bool) := p.text.map fun c => (c, p.isCode)

end Piece

/-- What stands behind the pieces of a line. -/
inductive Ending where
  /-- Nothing: the line ends with its pieces. -/
  | nothing
  /-- A comment. -/
  | comment (t : Text)
  /-- A literal without its second quote, perhaps with a backslash that nothing follows. -/
  | unclosed (quote : Char) (isQuote : IsQuote quote) (body : List (Inner quote))
    (backslash : Bool)

namespace Ending

/-- How an ending is written. -/
def text : Ending → Text
  | nothing => []
  | comment t => '#' :: t
  | unclosed quote _ body backslash =>
    quote :: (body.flatMap Inner.text ++ if backslash then ['\\'] else [])

/-- Whether the line ends outside literals. -/
def isClosed : Ending → Bool
  | unclosed _ _ _ _ => false
  | _ => true

end Ending

/-- How some pieces are written. -/
def written (pieces : List Piece) : Text := pieces.flatMap Piece.text

/-- The last of some marked characters that is not blank. -/
def lastVisible (marks : List (Char × Bool)) : Option (Char × Bool) :=
  (marks.filter fun m => !Text.isBlankChar m.1).getLast?

/-- The last character of some pieces that is not blank, and whether it belongs to the code. -/
def lastMark (pieces : List Piece) : Option (Char × Bool) :=
  lastVisible (pieces.flatMap Piece.marked)

/-- The last character of the pieces that is not blank is a colon outside the literals. -/
def EndsInColon (pieces : List Piece) : Prop := lastMark pieces = some (':', true)

instance (pieces : List Piece) : Decidable (EndsInColon pieces) :=
  inferInstanceAs (Decidable (_ = _))

/-! ### The last mark -/

theorem lastVisible_append (s t : List (Char × Bool)) :
    lastVisible (s ++ t) = (lastVisible t).or (lastVisible s) := by
  rw [lastVisible, List.filter_append, List.getLast?_append, lastVisible, lastVisible]

@[simp] theorem written_nil : written [] = [] := rfl

@[simp] theorem written_cons (p : Piece) (pieces : List Piece) :
    written (p :: pieces) = p.text ++ written pieces := rfl

@[simp] theorem lastMark_nil : lastMark [] = none := rfl

theorem lastMark_cons (p : Piece) (pieces : List Piece) :
    lastMark (p :: pieces) = (lastMark pieces).or (lastVisible p.marked) :=
  lastVisible_append p.marked _

theorem isBlankChar_of_isQuote {c : Char} (h : IsQuote c) : Text.isBlankChar c = false := by
  rcases h with rfl | rfl <;> decide

/-- A literal ends with its quote. -/
theorem lastVisible_literal {quote : Char} (hq : IsQuote quote) (body : List (Inner quote)) :
    lastVisible (Piece.literal quote hq body).marked = some (quote, false) := by
  have hvisible : lastVisible [(quote, false)] = some (quote, false) := by
    simp [lastVisible, isBlankChar_of_isQuote hq]
  rw [Piece.marked, Piece.text, ← List.cons_append, List.map_append, lastVisible_append,
    Piece.isCode, List.map_singleton, hvisible, Option.some_or]

/-- Marks of code are found as the characters are. -/
theorem lastVisible_code (run : Text) :
    lastVisible (run.map fun c => (c, true)) =
      ((run.filter fun c => !Text.isBlankChar c).getLast?).map fun c => (c, true) := by
  rw [lastVisible, List.filter_map, List.getLast?_map]
  rfl

/-- The last mark belongs to the code unless it is the quote of a literal. -/
theorem isQuote_of_lastMark {pieces : List Piece} {c : Char}
    (h : lastMark pieces = some (c, false)) : IsQuote c := by
  induction pieces with
  | nil => cases h
  | cons p pieces ih =>
    rw [lastMark_cons, Option.or_eq_some_iff] at h
    rcases h with hlater | ⟨-, hfirst⟩
    · exact ih hlater
    · cases p with
      | code run unquoted no_comment =>
        rw [Piece.marked, Piece.text, Piece.isCode, lastVisible_code] at hfirst
        simp at hfirst
      | literal quote hq body =>
        rw [lastVisible_literal hq body] at hfirst
        cases hfirst
        exact hq

theorem endsInColon_iff {pieces : List Piece} :
    EndsInColon pieces ↔ (lastMark pieces).map Prod.fst = some ':' := by
  rw [EndsInColon, Option.map_eq_some_iff]
  constructor
  · exact fun h => ⟨_, h, rfl⟩
  · rintro ⟨⟨c, outside⟩, h, rfl⟩
    cases outside with
    | true => exact h
    | false => exact absurd (isQuote_of_lastMark h) (by decide)

/-! ### The scan of the pieces -/

/-- A literal goes on behind what stands inside it. -/
theorem readAll_inner {quote : Char} (last : Option Char) (body : List (Inner quote)) :
    (Progress.scanning (.literal quote false) last).readAll (body.flatMap Inner.text) =
      .scanning (.literal quote false) last := by
  induction body with
  | nil => rfl
  | cons x body ih =>
    have hx : (Progress.scanning (.literal quote false) last).readAll x.text =
        .scanning (.literal quote false) last := by
      cases x with
      | plain c hq hs =>
        rw [Inner.text, Progress.readAll_cons, Progress.read, if_neg hs, if_neg hq,
          Progress.readAll_nil]
      | escaped c => rfl
    rw [List.flatMap_cons, Progress.readAll_append, hx, ih]

theorem read_quote {quote : Char} (hq : IsQuote quote) (last : Option Char) :
    (Progress.scanning .code last).read quote = .scanning (.literal quote false) (some quote) := by
  have hhash : quote ≠ '#' := by rcases hq with rfl | rfl <;> decide
  rw [Progress.read, if_neg hhash, if_pos hq]

/-- Outside literals in front of a piece, outside literals behind it. -/
theorem readAll_piece (last : Option Char) (p : Piece) :
    (Progress.scanning .code last).readAll p.text =
      .scanning .code (((lastVisible p.marked).map Prod.fst).or last) := by
  cases p with
  | code run unquoted no_comment =>
    rw [Piece.text, Progress.readAll_code last unquoted no_comment, Piece.marked, Piece.text,
      Piece.isCode, lastVisible_code, Option.map_map]
    exact congrArg (fun c => Progress.scanning .code (Option.or c last)) Option.map_id'.symm
  | literal quote hq body =>
    have hslash : quote ≠ '\\' := by rcases hq with rfl | rfl <;> decide
    rw [lastVisible_literal hq body, Piece.text, Progress.readAll_cons, read_quote hq,
      Progress.readAll_append, readAll_inner, Progress.readAll_cons, Progress.read, if_neg hslash,
      if_pos rfl]
    rfl

/-- **The scan of some pieces** has found their last character that is not blank. -/
theorem readAll_pieces (last : Option Char) (pieces : List Piece) :
    (Progress.scanning .code last).readAll (written pieces) =
      .scanning .code (((lastMark pieces).map Prod.fst).or last) := by
  induction pieces generalizing last with
  | nil => rfl
  | cons p pieces ih =>
    rw [written_cons, Progress.readAll_append, readAll_piece, ih, lastMark_cons, Option.map_or,
      Option.or_assoc]

/-- Behind the pieces only an open literal makes a difference. -/
theorem found_ending (last : Option Char) (e : Ending) :
    ((Progress.scanning .code last).readAll e.text).found = if e.isClosed then last else none := by
  cases e with
  | nothing => rfl
  | comment t =>
    rw [Ending.text, Progress.readAll_cons, Progress.read, if_pos rfl, Progress.readAll_comment]
    rfl
  | unclosed quote hq body backslash =>
    rw [Ending.text, Progress.readAll_cons, read_quote hq, Progress.readAll_append, readAll_inner]
    cases backslash <;> rfl

theorem opens_written_append (pieces : List Piece) (e : Ending) :
    opens (written pieces ++ e.text) = true ↔ e.isClosed = true ∧ EndsInColon pieces := by
  rw [opens, beq_iff_eq, lastCodeChar_eq_found, Progress.readAll_append, readAll_pieces,
    found_ending, endsInColon_iff, Option.or_none]
  cases e.isClosed <;> simp

/-! ### Every line is made of pieces -/

/-- Pieces and an ending. -/
def Whole (t : Text) : Prop := ∃ (pieces : List Piece) (e : Ending), t = written pieces ++ e.text

/-- What stands inside a literal up to its second quote, and a whole behind it; or there is no
second quote. -/
def Inside (quote : Char) (t : Text) : Prop :=
  (∃ (body : List (Inner quote)) (rest : Text),
    Whole rest ∧ t = body.flatMap Inner.text ++ quote :: rest) ∨
  ∃ (body : List (Inner quote)) (backslash : Bool),
    t = body.flatMap Inner.text ++ if backslash then ['\\'] else []

/-- The same from any place of a scan on. -/
def Divides : Place → Text → Prop
  | .code, t => Whole t
  | .literal quote false, t => Inside quote t
  | .literal quote true, t => t = [] ∨ ∃ c rest, Inside quote rest ∧ t = c :: rest

theorem Whole.cons {t : Text} (h : Whole t) (p : Piece) : Whole (p.text ++ t) := by
  obtain ⟨pieces, e, rfl⟩ := h
  exact ⟨p :: pieces, e, by rw [written_cons, List.append_assoc]⟩

theorem Inside.cons {quote : Char} {t : Text} (h : Inside quote t) (x : Inner quote) :
    Inside quote (x.text ++ t) := by
  rcases h with ⟨body, rest, hrest, rfl⟩ | ⟨body, backslash, rfl⟩
  · exact .inl ⟨x :: body, rest, hrest, by rw [List.flatMap_cons, List.append_assoc]⟩
  · exact .inr ⟨x :: body, backslash, by rw [List.flatMap_cons, List.append_assoc]⟩

/-- A quote starts a literal. -/
theorem Inside.whole {quote : Char} {t : Text} (h : Inside quote t) (hq : IsQuote quote) :
    Whole (quote :: t) := by
  rcases h with ⟨body, rest, hrest, rfl⟩ | ⟨body, backslash, rfl⟩
  · have hpiece := hrest.cons (.literal quote hq body)
    rwa [Piece.text, List.cons_append, List.append_assoc, List.singleton_append] at hpiece
  · exact ⟨[], .unclosed quote hq body backslash, rfl⟩

/-- The places of the scan tell how the first character is to be taken. -/
theorem whole_of_divides {c : Char} {t : Text} (h : ∀ place, Divides place t) :
    Whole (c :: t) := by
  by_cases hhash : c = '#'
  · exact ⟨[], .comment t, by rw [hhash]; rfl⟩
  by_cases hq : IsQuote c
  · exact Inside.whole (h (.literal c false)) hq
  · have hrun : Unquoted [c] :=
      ⟨by simpa using fun he => hq (.inl he.symm), by simpa using fun he => hq (.inr he.symm)⟩
    exact Whole.cons (h .code) (.code [c] hrun (by simpa using fun he => hhash he.symm))

theorem inside_of_divides {quote c : Char} {t : Text} (h : ∀ place, Divides place t) :
    Inside quote (c :: t) := by
  by_cases hs : c = '\\'
  · rcases h (.literal quote true) with rfl | ⟨d, rest, hrest, rfl⟩
    · exact .inr ⟨[], true, by rw [hs]; rfl⟩
    · exact hs ▸ Inside.cons hrest (.escaped d)
  by_cases hq : c = quote
  · exact .inl ⟨[], t, h .code, by rw [hq]; rfl⟩
  · exact Inside.cons (h (.literal quote false)) (.plain c hq hs)

theorem divides (place : Place) (t : Text) : Divides place t := by
  -- What a quote or a backslash is depends on the text in front of it, so the place is carried along.
  induction t generalizing place with
  | nil =>
    match place with
    | .code => exact ⟨[], .nothing, rfl⟩
    | .literal quote false => exact .inr ⟨[], false, rfl⟩
    | .literal quote true => exact .inl rfl
  | cons c t ih =>
    match place with
    | .code => exact whole_of_divides ih
    | .literal quote false => exact inside_of_divides ih
    | .literal quote true => exact .inr ⟨c, t, ih (.literal quote false), rfl⟩

/-- **Every line is made of pieces.** -/
theorem exists_pieces (line : Text) :
    ∃ (pieces : List Piece) (e : Ending), line = written pieces ++ e.text :=
  divides .code line

/-! ### When a line opens a block -/

/-- **When a line opens a block.** Every line consists of pieces and an ending, and it opens a block
if and only if it ends outside literals and the last character of its pieces that is not blank is a
colon of the code. So blanks at the ends of a line do not matter, nor does a comment behind a line
that is made of pieces alone. -/
theorem opens_iff_endsInColon :
    (∀ line, ∃ (pieces : List Piece) (e : Ending), line = written pieces ++ e.text) ∧
      (∀ (pieces : List Piece) (e : Ending),
        opens (written pieces ++ e.text) = true ↔ e.isClosed = true ∧ EndsInColon pieces) ∧
      (∀ line blanks : Text, Text.isBlank blanks = true →
        opens (blanks ++ line) = opens line ∧ opens (line ++ blanks) = opens line) ∧
      ∀ (pieces : List Piece) (t : Text),
        opens (written pieces ++ '#' :: t) = opens (written pieces) := by
  refine ⟨exists_pieces, opens_written_append, fun line blanks hb => ⟨opens_append hb line, ?_⟩,
    fun pieces t => ?_⟩
  · rw [← opens_trimEnd, Text.trimEnd_append_of_isBlank line hb, opens_trimEnd]
  · have hcomment := opens_written_append pieces (.comment t)
    have hnothing := opens_written_append pieces .nothing
    rw [Ending.text, List.append_nil] at hnothing
    exact Bool.eq_iff_iff.mpr (hcomment.trans hnothing.symm)

/-- The pieces of a header with quotes, a comment sign and colons in its literals. -/
def trickyHeader : List Piece :=
  [.code "if c in ".toList (by decide) (by decide),
    .literal singleQuote (by decide) [.escaped singleQuote, .plain '#' (by decide) (by decide)],
    .code " + ".toList (by decide) (by decide),
    .literal doubleQuote (by decide)
      [.plain singleQuote (by decide) (by decide), .plain ':' (by decide) (by decide)],
    .code " : ".toList (by decide) (by decide)]

/-- The header opens a block with blanks at its ends and a comment behind it; a line that goes on
with a literal does not. -/
theorem opens_iff_endsInColon_trickyHeader :
    written trickyHeader = "if c in \x27\\\x27#\x27 + \x22\x27:\x22 : ".toList ∧
      Text.isBlank ['\t'] = true ∧
      opens ('\t' :: written trickyHeader) = true ∧
      opens (written trickyHeader ++ "# \x22".toList) = true ∧
      opens (written trickyHeader ++ "\x22:".toList) = false := by
  obtain ⟨-, hiff, hblanks, hcomment⟩ := opens_iff_endsInColon
  have hopens : opens (written trickyHeader) = true := by
    have hclosed := (hiff trickyHeader .nothing).mpr (by decide)
    rwa [Ending.text, List.append_nil] at hclosed
  have hunclosed := (hiff trickyHeader (.unclosed doubleQuote (by decide)
    [.plain ':' (by decide) (by decide)] false)).not.mpr (by decide)
  refine ⟨by decide, by decide, ?_, ?_, Bool.eq_false_iff.mpr hunclosed⟩
  · rw [← hopens]
    exact (hblanks (written trickyHeader) ['\t'] (by decide)).1
  · rw [← hopens]
    exact hcomment trickyHeader " \x22".toList

end LineFraming.Block
