import LineFraming.Proofs.Block
import LineFraming.Proofs.Console.Prefilling
import LineFraming.Proofs.Console.Running
import LineFraming.Proofs.Framer.Joining

/-!
# Lines that close a string

A line that closes a triple-quoted string is also a line of the statement around the string, and the
rest of it may open a block. So it is looked at as any other line of a statement, from its first
character on. But up to the delimiter it is part of the string, and this is forgotten.

Its indentation is measured. Where a block is open, the block goes on in the column in which the
line starts, although the blanks in front belong to the string. Only a line at the margin keeps the
column of the block, or one that by chance starts in the same column.

Its code is scanned, and the scan starts outside literals. It takes the delimiter for two of them,
one that is closed at once and one that stays open. The rest of the line is inside the second, so a
colon at its end is none of the code. No header behind a string is ever seen. What may be seen is a
colon inside the string, if the scan ends in front of the delimiter, at a `#` in the string.

What happens to the draft is the same for every line that closes a string. So `keptAsBlock_iff`
asks no more than what kind of line it is, over any interpreter and for every framer.

## Main definitions

* `Framer.KeptAsBlock` — nothing was sent, and the draft stays open as a block
* `TripleQuote.EndsInHeader` — a line that ends a string and then looks like a header

## Main results

* `Framer.keptAsBlock_iff` — a line that closes a string keeps the block that its kind tells
* `Framer.keptAsBlock_closing`, `Framer.keptAsBlock_depth_iff` — in which column a block goes on, and
  when it keeps its own
* `TripleQuote.EndsInHeader.opens_iff` — when a line that ends in a header seems to open a block
* `Framer.keptAsBlock_header_iff` — when it does
-/

namespace LineFraming

/-! ### What is measured, and what is scanned -/

namespace TripleQuote

variable {style : TripleQuote} {body rest : Text}

/-- What opens and closes a string of a style. -/
def delimiter (style : TripleQuote) : Text := List.replicate 3 style.char

theorem isQuote_char (style : TripleQuote) : Block.IsQuote style.char := by
  cases style
  · exact .inr rfl
  · exact .inl rfl

/-- A line with one delimiter opens or closes a string. -/
theorem toggles_delimiter (hb : style.char ∉ body) (hr : style.char ∉ rest) :
    style.toggles (body ++ style.delimiter ++ rest) = true := by
  have hone : countTriples style.char (style.delimiter ++ rest) = 1 := by
    simp [delimiter, countTriples, countTriples_of_not_mem hr]
  rw [toggles, List.append_assoc, countTriples_append hb, hone]
  rfl

/-- The last part of a string and, behind its delimiter, the end of a block header. -/
structure EndsInHeader (body rest : Text) : Prop where
  body_quote : Block.Unquoted body
  rest_quote : Block.Unquoted rest
  body_backslash : '\\' ∉ body
  rest_backslash : '\\' ∉ rest
  comment : '#' ∉ rest
  colon : (Text.trimEnd rest).getLast? = some ':'

namespace EndsInHeader

/-- Such a line closes the string. -/
theorem toggles (h : EndsInHeader body rest) (style : TripleQuote) :
    style.toggles (body ++ style.delimiter ++ rest) = true :=
  toggles_delimiter (fun hm => h.body_quote.not_isQuote hm style.isQuote_char)
    fun hm => h.rest_quote.not_isQuote hm style.isQuote_char

theorem getLast?_trimEnd (h : EndsInHeader body rest) (style : TripleQuote) :
    (Text.trimEnd (body ++ style.delimiter ++ rest)).getLast? = some ':' := by
  have hrest : Text.isBlank rest = false := Bool.eq_false_iff.mpr fun hb => by
    have hcolon := h.colon
    rw [Text.trimEnd_eq_nil.mpr hb] at hcolon
    cases hcolon
  rw [Text.trimEnd_append _ hrest, List.getLast?_append, h.colon]
  rfl

/-- **The header itself is not seen.** Behind the delimiter the scan is inside a literal that nothing
closes; so it must have ended before, at a comment that is none. -/
theorem opens_iff (h : EndsInHeader body rest) (style : TripleQuote) :
    Block.opens (body ++ style.delimiter ++ rest) = true ↔
      '#' ∈ body ∧ Block.opens body = true := by
  rw [Block.opens, Block.opens, Block.lastCodeChar_eq_found, Block.lastCodeChar_eq_found,
    List.append_assoc, Block.Progress.readAll_append]
  by_cases hh : '#' ∈ body
  · obtain ⟨last, hcomment⟩ := Block.Progress.exists_readAll_comment none h.body_quote hh
    rw [hcomment, Block.Progress.readAll_comment]
    exact (and_iff_right hh).symm
  · have hcode := Block.Progress.readAll_code none h.body_quote hh
    have hrest : style.char ∉ rest := fun hm => h.rest_quote.not_isQuote hm style.isQuote_char
    have hdelimiter (last : Option Char) :
        (Block.Progress.scanning .code last).readAll style.delimiter =
          .scanning (.literal style.char false) (some style.char) := by
      cases style <;> rfl
    rw [hcode, Block.Progress.readAll_append, hdelimiter,
      Block.Progress.readAll_literal _ hrest h.rest_backslash]
    exact iff_of_false (by simp [Block.Progress.found]) fun hseen => hh hseen.1

end EndsInHeader

end TripleQuote

namespace Framer

variable {γ : Type} {f g : Framer γ} {line : Text} {columns : Nat}

/-- A line closed a string, and the statement is kept open as a block: nothing was sent, the line is
in the draft, and the next line is prefilled for the block, which has `columns` columns. -/
structure KeptAsBlock (f : Framer γ) (line : Text) (columns : Nat) (g : Framer γ) : Prop where
  silent : Silent f g
  text : g.draft.text = f.draft.text ++ (Text.trimEnd line ++ ['\n'])
  region : g.draft.region = none
  depth : g.draft.depth = columns
  indent : g.screen.indent = f.screen.indent ++ f.indentation.fill columns

/-- Where nothing is prefilled, no block is kept. -/
theorem KeptAsBlock.columns_eq_zero (h : KeptAsBlock f line columns g) (hg : Prefills [] f g) :
    columns = 0 := by
  have hsame : g.screen.indent = f.screen.indent := hg.indent_eq_iff.mpr rfl
  rwa [h.indent, List.append_right_eq_self, Indentation.fill_eq_nil] at hsame

theorem closingColumn_trimEnd (hb : Text.isBlank line = false) (f : Framer γ) :
    f.closingColumn (Text.trimEnd line) = f.closingColumn line := by
  rw [closingColumn, f.indentation.width_trimEnd hb, closingColumn]

variable [Interpreter γ] {style : TripleQuote}

/-- What is in the draft and is sent reaches the interpreter or the queue. -/
theorem not_silent_sendDraft (ht : f.draft.text ≠ []) (line : Text) :
    ¬Silent f (f.sendDraft line) := by
  intro hs
  cases placed_sendDraft f line with
  | kept _ _ text => exact ht (text ▸ text_sendDraft f line)
  | handed commands => simp [hs.commands] at commands
  | queued _ _ queued => simp [hs.queued] at queued

/-- **A line that closes a string** is put into the draft, and is then a line of its statement. -/
theorem exists_conclude_closing (hw : f.isWaiting = false) (hr : f.draft.region = some style)
    (ht : style.toggles line = true) :
    ∃ g, Gathers f (Text.trimEnd line) g ∧ Prefills [] f g ∧ g.draft.region = none ∧
      f.processLine line =
        g.conclude (Text.trimEnd line) (f.closingKind (Text.trimEnd line)) := by
  have hne : Text.trimEnd line ≠ [] := TripleQuote.trimEnd_ne_nil ht
  have hcloses : f.closesBlock (Text.trimEnd line) = false := by simp [closesBlock, hr]
  rw [← TripleQuote.toggles_trimEnd] at ht
  rw [processLine_of_not_closing hcloses, if_neg hne, dispatch_inside hw hr]
  dsimp only
  rw [if_pos ht]
  have hclosed : none = TripleQuote.after f.draft.region (Text.trimEnd line) := by
    simp [hr, TripleQuote.after, ht]
  refine ⟨_, .mark f hclosed (.setPlainText false) .stringClosed,
    (prefills_append f _).trans (prefills_setRegion _ none false .stringClosed), by simp, ?_⟩
  simp [closingKind]

/-- **The line keeps the block that its kind tells,** and only if its kind tells one. -/
theorem keptAsBlock_iff (hw : f.isWaiting = false) (hr : f.draft.region = some style)
    (ht : style.toggles line = true) (hc : 0 < columns) :
    KeptAsBlock f line columns (f.processLine line) ↔
      f.closingKind (Text.trimEnd line) = .indented columns := by
  obtain ⟨g, hg, hp, hregion, he⟩ := exists_conclude_closing hw hr ht
  have hne : Text.trimEnd line ≠ [] := TripleQuote.trimEnd_ne_nil ht
  have htext : g.draft.text = f.draft.text ++ (Text.trimEnd line ++ ['\n']) := by
    rw [hg.text, Draft.text_append, f.draft.addition_trimEnd hne]
  rw [he]
  constructor
  · have hempty {k : Framer γ} (hk : Prefills [] f k) : ¬KeptAsBlock f line columns k :=
      fun hkept => hc.ne' (hkept.columns_eq_zero hk)
    refine conclude_cases (p := fun k => KeptAsBlock f line columns k →
      f.closingKind (Text.trimEnd line) = .indented columns) ?continued ?indented ?nothing ?sent
    case continued => exact fun _ hk => absurd hk (hempty (hp.trans (prefills_cue g _)))
    case nothing => exact fun _ hk => absurd hk (hempty hp)
    case indented =>
      intro depth hkind hk
      have hdepth : depth = columns := by simpa using hk.depth
      rw [hkind, hdepth]
    case sent =>
      intro _ hk
      have hsilent : Silent g (g.sendDraft (Text.trimEnd line)) := hg.silent.symm.trans hk.silent
      exact absurd hsilent (not_silent_sendDraft (by simp [htext]) _)
  · intro hkind
    have hprefilled := hp.trans (prefills_requestMore g hc)
    rw [hkind, conclude]
    constructor
    case silent => exact hg.silent.trans (.requestMore g columns)
    case text => simpa [Draft.text] using htext
    case region => simpa using hregion
    case depth => simp
    case indent => simpa using hprefilled.indent

/-- A line that closes a string inside a block never ends the statement: unless it ends in a
backslash, the block goes on. -/
theorem keptAsBlock_closing (hw : f.isWaiting = false) (hr : f.draft.region = some style)
    (ht : style.toggles line = true) (hd : 0 < f.draft.depth) (ho : Block.opens line = false)
    (hs : (Text.trimEnd line).getLast? ≠ some '\\') :
    KeptAsBlock f line (f.closingColumn line) (f.processLine line) := by
  have hb : Text.isBlank line = false := TripleQuote.isBlank_of_toggles ht
  rw [← Block.opens_trimEnd] at ho
  rw [keptAsBlock_iff hw hr ht (closingColumn_pos hd line),
    closingKind_of_not_opens (by rwa [Text.isBlank_trimEnd]) hs ho, if_pos hd,
    closingColumn_trimEnd hb]

/-- **When the block keeps its column.** Over every interpreter and for every framer with an open
block and an open string, while no program waits for a line: a line that closes the string and is no
header keeps the block in its column if and only if it does not end in a backslash and starts at the
margin or in that very column. -/
theorem keptAsBlock_depth_iff (hw : f.isWaiting = false) (hr : f.draft.region = some style)
    (ht : style.toggles line = true) (hd : 0 < f.draft.depth) (ho : Block.opens line = false) :
    KeptAsBlock f line f.draft.depth (f.processLine line) ↔
      (Text.trimEnd line).getLast? ≠ some '\\' ∧
        (f.indentation.width line = 0 ∨ f.indentation.width line = f.draft.depth) := by
  by_cases hs : (Text.trimEnd line).getLast? = some '\\'
  · have hb := Text.isBlank_trimEnd_of_ne (TripleQuote.trimEnd_ne_nil ht)
    rw [keptAsBlock_iff hw hr ht hd, closingKind_of_slash hb hs]
    exact iff_of_false (by simp) fun hk => hk.1 hs
  · have hkept := keptAsBlock_closing hw hr ht hd ho hs
    have hcolumn : f.closingColumn line = f.draft.depth ↔
        f.indentation.width line = 0 ∨ f.indentation.width line = f.draft.depth := by
      rw [closingColumn]
      split <;> simp_all
    rw [and_iff_right hs, ← hcolumn]
    exact ⟨fun hk => hkept.depth.symm.trans hk.depth, fun hsame => hsame ▸ hkept⟩

/-- A string is open inside a block of four columns. -/
def quotedInBlock : Framer Obliging :=
  ["if x:".toList, "    s = \x27\x27\x27a".toList].foldl processLine
    { interpreter := {}, indentation := .ofSizes 4 8 false }

/-- The line starts in the column of the block. -/
theorem keptAsBlock_depth_atDepth :
    let line := "    b\x27\x27\x27".toList
    quotedInBlock.isWaiting = false ∧ quotedInBlock.draft.region = some .single ∧
      TripleQuote.toggles .single line = true ∧ 0 < quotedInBlock.draft.depth ∧
      Block.opens line = false ∧
      KeptAsBlock quotedInBlock line 4 (quotedInBlock.processLine line) := by
  intro line
  have hr : quotedInBlock.draft.region = some .single := by decide
  have ht : TripleQuote.toggles .single line = true := by decide
  have hd : 0 < quotedInBlock.draft.depth := by decide
  have ho : Block.opens line = false := by decide
  exact ⟨rfl, hr, ht, hd, ho, (keptAsBlock_depth_iff rfl hr ht hd ho).mpr (by decide)⟩

/-- A line of the string that starts in another column moves the block there. -/
theorem exists_keptAsBlock_depth_ne :
    ∃ (f : Framer Obliging) (style : TripleQuote) (line : Text),
      f.isWaiting = false ∧ f.draft.region = some style ∧ style.toggles line = true ∧
        0 < f.draft.depth ∧ Block.opens line = false ∧ line.getLast? ≠ some '\\' ∧
        (f.processLine line).draft.depth = 2 ∧ f.draft.depth = 4 ∧
        ¬KeptAsBlock f line f.draft.depth (f.processLine line) :=
  ⟨quotedInBlock, .single, "  b\x27\x27\x27".toList, rfl, by decide, by decide, by decide,
    by decide, by decide, by decide, by decide, fun hk => absurd hk.depth (by decide)⟩

/-- **When a header behind a string opens its block.** Over every interpreter and for every framer
with an open string, while no program waits for a line: a line that ends the string and then a
header, with no other quote and no backslash, opens a block behind its own column if and only if the
end of the string looks like a header with a comment behind it; or if it starts at the margin and
the block that is open already has the width of one level. -/
theorem keptAsBlock_header_iff {body rest : Text} (hw : f.isWaiting = false)
    (hr : f.draft.region = some style) (h : TripleQuote.EndsInHeader body rest) :
    let line := body ++ style.delimiter ++ rest
    KeptAsBlock f line (f.indentation.width line + f.indentation.unit) (f.processLine line) ↔
      ('#' ∈ body ∧ Block.opens body = true) ∨
        (f.indentation.width line = 0 ∧ f.draft.depth = f.indentation.unit) := by
  intro line
  have hunit := f.indentation.unit_pos
  have ht : style.toggles line = true := h.toggles style
  have hb : Text.isBlank line = false := TripleQuote.isBlank_of_toggles ht
  have htrimmed : Text.isBlank (Text.trimEnd line) = false := by rwa [Text.isBlank_trimEnd]
  have hs : (Text.trimEnd line).getLast? ≠ some '\\' := by
    rw [h.getLast?_trimEnd style]
    decide
  rw [keptAsBlock_iff hw hr ht (by omega), ← h.opens_iff style, ← Block.opens_trimEnd]
  by_cases ho : Block.opens (Text.trimEnd line) = true
  · rw [closingKind_of_opens htrimmed hs ho, f.indentation.width_trimEnd hb]
    exact iff_of_true rfl (.inl ho)
  · -- The line goes on with the block that is open, if there is one, which may fit by chance.
    rw [or_iff_right ho, closingKind_of_not_opens htrimmed hs (Bool.eq_false_iff.mpr ho),
      closingColumn_trimEnd hb, closingColumn]
    by_cases hd : 0 < f.draft.depth
    · by_cases hzero : f.indentation.width line = 0
      · simp [hd, hzero]
      · simp [hd, hzero, hunit.ne']
    · have hne : f.draft.depth ≠ f.indentation.unit := by omega
      simp [hd, hne]

/-- A string is open behind the start of a header. -/
def quotedInHeader : Framer Obliging :=
  processLine { interpreter := {}, indentation := .ofSizes 4 8 false }
    "if x == \x27\x27\x27a".toList

/-- The end of the string looks like a header with a comment behind it. -/
theorem keptAsBlock_header_commented :
    let line := "if y: # b\x27\x27\x27:".toList
    quotedInHeader.isWaiting = false ∧ quotedInHeader.draft.region = some .single ∧
      TripleQuote.EndsInHeader "if y: # b".toList [':'] ∧
      KeptAsBlock quotedInHeader line 4 (quotedInHeader.processLine line) := by
  intro line
  have hr : quotedInHeader.draft.region = some .single := by decide
  have h : TripleQuote.EndsInHeader "if y: # b".toList [':'] :=
    ⟨by decide, by decide, by decide, by decide, by decide, by decide⟩
  exact ⟨rfl, hr, h, (keptAsBlock_header_iff rfl hr h).mpr (by decide)⟩

/-- The header of the statement around the string is not seen, so the statement is executed. -/
theorem exists_not_keptAsBlock_header :
    ∃ (f : Framer Obliging) (style : TripleQuote) (body rest : Text),
      let line := body ++ style.delimiter ++ rest
      f.isWaiting = false ∧ f.draft.region = some style ∧ TripleQuote.EndsInHeader body rest ∧
        (f.processLine line).commands = ["if x == \x27\x27\x27a\nb\x27\x27\x27:\n".toList] ∧
        ¬KeptAsBlock f line (f.indentation.width line + f.indentation.unit)
          (f.processLine line) :=
  ⟨quotedInHeader, .single, ['b'], [':'], rfl, by decide,
    ⟨by decide, by decide, by decide, by decide, by decide, by decide⟩, by decide,
    fun hk => absurd hk.depth (by decide)⟩

end Framer

end LineFraming
