import LineFraming.Proofs.Framer.Answers
import LineFraming.Proofs.Framer.Showing
import LineFraming.Proofs.Framer.Stock

/-!
# Why a draft was not sent

A draft that is left behind a line is kept for a reason. If the reason is a string or a backslash,
the text of the draft shows it. If it is a block, the depth is positive, and that may have causes of
its own: a line of the draft opens the block; or the interpreter asked for more lines, so that it
holds the block itself; or the depth is that of the command in flight, or of a request for a line.

In the last case a line is kept that belongs to no block. So the text shows that a draft is
unfinished, unless the interpreter holds a block open, or one of its lines was typed while a
response was outstanding, or the depth was set for the running program. What bears on a draft in
this way is recorded beside the run, and it is forgotten once nothing is open any more.

An answer to the running program takes the whole draft and leaves the mark for the open string as it
is. So the mark is explained only where no answer was given.

The interpreter takes every command here, but it may wait for lines.

## Main definitions

* `Block.opensAmong` — whether one of some lines opens a block
* `Text.Unfinished` — the statement goes on, as its text shows
* `Framer.Explained` — why the draft, the depth and the mark for the open string are what they are
* `Framer.Background`, `Framer.Background.after` — what bears on the draft
* `Framer.Moves` — where the typed lines and the explanation go when something happens

## Main results

* `Framer.Explained.dispatch` — a dispatched line
* `Framer.Explained.processLine`, `Framer.Explained.respond` — a typed line and a response
* `Framer.Moves.explained_after` — the explanation goes along with the background
-/

namespace LineFraming

/-! ### Unfinished statements -/

namespace Block

/-- Whether one of some lines opens a block, where a string may be open in front of them. A line
behind which a string is open, or that is joined with the next one, opens none. -/
def opensAmong (region : Option TripleQuote) : List Text → Bool
  | [] => false
  | line :: lines =>
    let behind := TripleQuote.after region line
    behind.isNone && line.getLast? != some '\\' && opens line || opensAmong behind lines

theorem opensAmong_append (region : Option TripleQuote) (ls ms : List Text) :
    opensAmong region (ls ++ ms) =
      (opensAmong region ls || opensAmong (TripleQuote.afterLines region ls) ms) := by
  induction ls generalizing region with
  | nil => simp [opensAmong, TripleQuote.afterLines]
  | cons line ls ih =>
    rw [List.cons_append, opensAmong, opensAmong, ih, Bool.or_assoc]
    rfl

theorem opensAmong_singleton {region : Option TripleQuote} {line : Text}
    (hr : TripleQuote.after region line = none) (hs : line.getLast? ≠ some '\\')
    (ho : opens line = true) : opensAmong region [line] = true := by
  simp [opensAmong, hr, hs, ho]

end Block

/-- The statement goes on, as its text shows: a string is open, the last line ends in a backslash,
or a line opens a block. -/
def Text.Unfinished (t : Text) : Prop :=
  (openString t).isSome = true ∨ (∃ line ∈ (lines t).getLast?, line.getLast? = some '\\') ∨
    Block.opensAmong none (lines t) = true

instance : DecidablePred Text.Unfinished :=
  fun _ => inferInstanceAs (Decidable (_ ∨ _ ∨ _))

/-- A string that has been closed and an indented line leave nothing unfinished. -/
example : ¬Text.Unfinished "s = \x27\x27\x27a\nb\x27\x27\x27\n    y = 1\n".toList := by decide

/-- Whether something is open that the next line may belong to. -/
def Draft.isOpen (d : Draft) : Bool := !d.isBlank || d.region.isSome || 0 < d.depth

namespace Framer

variable {γ : Type} {f g : Framer γ} {line l : Text} {typed : List Text} {more ahead later : Bool}

/-- A block that a line of the draft opens stays open behind further lines. -/
theorem Gathers.opensAmong (hg : Gathers f l g) (hd : Text.Ended f.draft.text)
    (h : Block.opensAmong none (Text.lines f.draft.text) = true) :
    Block.opensAmong none (Text.lines g.draft.text) = true := by
  rw [hg.text, Draft.text_append, Text.lines_append hd, Block.opensAmong_append, h, Bool.true_or]

/-- Why the draft, the depth and the mark for the open string are what they are, where `more` tells
whether the last response asked for more lines, and `ahead` whether a line of the draft was typed
while a response was outstanding. -/
structure Explained (more ahead : Bool) (f : Framer γ) : Prop where
  region : f.draft.region = Text.openString f.draft.text
  depth : 0 < f.draft.depth → Block.opensAmong none (Text.lines f.draft.text) = true ∨
    f.inFlight.isSome = true ∨ more = true
  kept : f.draft.isBlank = false →
    Text.Unfinished f.draft.text ∨ ahead = true ∨ f.inFlight = none ∧ more = true

namespace Explained

/-- Where nothing is open, nothing has to be explained. -/
theorem of_closed (hb : f.draft.isBlank = true) (hr : f.draft.region = none)
    (hd : f.draft.depth = 0) : f.Explained more ahead where
  region := hr.trans (Text.openString_of_isBlank hb).symm
  depth hpos := absurd hd (Nat.pos_iff_ne_zero.mp hpos)
  kept hne := absurd (hb.symm.trans hne) (by decide)

/-- The draft and the slot decide. -/
theorem of_eq (h : f.Explained more ahead) (hd : g.draft = f.draft)
    (hi : g.inFlight = f.inFlight) : g.Explained more ahead where
  region := by
    rw [hd]
    exact h.region
  depth := by
    rw [hd, hi]
    exact h.depth
  kept := by
    rw [hd, hi]
    exact h.kept

theorem imp (h : f.Explained more ahead) (hl : ahead = true → later = true) :
    f.Explained more later :=
  ⟨h.region, h.depth, fun hb => (h.kept hb).imp_right (.imp_left hl)⟩

/-- No line was typed ahead where there is none. -/
theorem of_isBlank (h : f.Explained more ahead) (hb : f.draft.isBlank = true) :
    f.Explained more later :=
  ⟨h.region, h.depth, fun hne => absurd (hb.symm.trans hne) (by decide)⟩

/-- What was typed ahead is gone once a draft has been sent. -/
theorem since (h : g.Explained more ahead) {given : List Text}
    (hg : g.issued = given ∨ g.draft.isBlank = true) :
    g.Explained more (ahead && g.issued == given) := by
  rcases hg with hi | hb
  · exact h.imp (by simp [hi])
  · exact h.of_isBlank hb

/-! ### Dispatched lines -/

section Kept

variable (h : f.Explained more ahead) (hd : Text.Ended f.draft.text) (hn : '\n' ∉ line)
variable (hl : Dispatched line l) (hg : Gathers f l g)
-- While a response is outstanding, a line that counts on the depth is typed ahead.
variable (ha : f.inFlight.isSome = true → f.BlockGoesOn l → Block.opens l = true ∨ ahead = true)

include h hd hn hl hg

theorem region_of_gathers : g.draft.region = Text.openString g.draft.text := by
  rw [hg.region, hg.text, h.region, Draft.openString_append hd hn hl]

/-- A header behind which no string is open, and that is not joined with the next line, opens a
block in the text. -/
theorem opensAmong_of_gathers (hr : g.draft.region = none) (hs : l.getLast? ≠ some '\\')
    (ho : Block.opens l = true) : Block.opensAmong none (Text.lines g.draft.text) = true := by
  have hregion : TripleQuote.after (Text.openString f.draft.text) l = none := by
    rw [← h.region, ← hg.region, hr]
  rw [hg.text]
  cases hl with
  | empty => exact absurd ho (by decide)
  | trimmed hne =>
    rw [Draft.lines_append_trimEnd hd hn hne, Block.opensAmong_append, Bool.or_eq_true]
    exact .inr (Block.opensAmong_singleton hregion hs ho)

include ha

/-- A line with which a block goes on opens the block itself, or what explains the depth explains
the line. -/
theorem of_block (hr : g.draft.region = none) (hs : l.getLast? ≠ some '\\')
    (hgo : f.BlockGoesOn l) : g.Explained more ahead := by
  have hscan := h.region_of_gathers hd hn hl hg
  have hheader (ho : Block.opensAmong none (Text.lines g.draft.text) = true) :
      g.Explained more ahead :=
    ⟨hscan, fun _ => .inl ho, fun _ => .inl (.inr (.inr ho))⟩
  have houtstanding (hi : f.inFlight.isSome = true) : g.Explained more ahead := by
    rcases ha hi hgo with ho | rfl
    · exact hheader (h.opensAmong_of_gathers hd hn hl hg hr hs ho)
    · exact ⟨hscan, fun _ => .inr (.inl (hg.silent.inFlight ▸ hi)), fun _ => .inr (.inl rfl)⟩
  rcases hgo with ho | ⟨hopen, -⟩
  · exact hheader (h.opensAmong_of_gathers hd hn hl hg hr hs ho)
  · rcases h.depth hopen with ho | hi | hm
    · exact hheader (hg.opensAmong hd ho)
    · exact houtstanding hi
    · cases hi : f.inFlight with
      | some lastLine => exact houtstanding (by rw [hi]; rfl)
      | none =>
        exact ⟨hscan, fun _ => .inr (.inr hm),
          fun _ => .inr (.inr ⟨hg.silent.inFlight.trans hi, hm⟩)⟩

theorem of_kept (hk : f.Kept l g) : g.Explained more ahead := by
  have hscan := h.region_of_gathers hd hn hl hg
  have hdepth (he : g.draft.depth = f.draft.depth) (hpos : 0 < g.draft.depth) :
      Block.opensAmong none (Text.lines g.draft.text) = true ∨ g.inFlight.isSome = true ∨
        more = true := by
    rw [he] at hpos
    rw [hg.silent.inFlight]
    exact (h.depth hpos).imp_left (hg.opensAmong hd)
  cases hk with
  | blank hb he =>
    exact ⟨hscan, hdepth he, fun hne => absurd (hb.symm.trans hne) (by decide)⟩
  | string hr he => exact ⟨hscan, hdepth he, fun _ => .inl (.inl (hscan ▸ hr))⟩
  | joined hs he =>
    refine ⟨hscan, hdepth he, fun _ => .inl (.inr (.inl ⟨l, ?_, hs⟩))⟩
    cases hl with
    | empty => exact absurd hs (by decide)
    | trimmed hne => simp [hg.text, Draft.lines_append_trimEnd hd hn hne]
  | block _ hr hs _ hgo => exact h.of_block hd hn hl hg ha hr hs hgo

end Kept

variable [Interpreter γ] [Interpreter.NeverRefuses γ]

/-- A draft that is sent as a command is in flight or queues, and explains the depth so. -/
theorem of_sendDraft (hw : f.isWaiting = false) (hr : f.draft.region = none) (line : Text) :
    (f.sendDraft line).Explained more ahead := by
  obtain ⟨depth, he⟩ := exists_draft_sendDraft f line
  have hflight := isSome_inFlight_sendDraft_of_not_waiting hw line
  refine ⟨?_, fun _ => .inr (.inl hflight), fun hne => ?_⟩
  · rw [he]
    exact hr
  · rw [Draft.isBlank, text_sendDraft] at hne
    cases hne

/-- **A dispatched line** that is no answer keeps the explanation. While a response is outstanding,
the depth may be that of the command in flight; a line that counts on it is typed ahead. -/
theorem dispatch (h : f.Explained more ahead) (hd : Text.Ended f.draft.text)
    (hw : f.isWaiting = false) (hn : '\n' ∉ line) (hl : Dispatched line l)
    (ha : f.inFlight.isSome = true → f.BlockGoesOn l → Block.opens l = true ∨ ahead = true) :
    (f.dispatch l).Explained more ahead :=
  dispatch_cases (p := Explained more ahead)
    (fun hwaits => absurd (hw.symm.trans hwaits) (by decide))
    (fun _ hg hk => h.of_kept hd hn hl hg ha hk)
    fun _ _ hg hr _ => of_sendDraft (hg.silent.isWaiting.trans hw) hr l

/-- An empty line counts on no block. -/
theorem dispatch_newline (h : f.Explained more ahead) (hd : Text.Ended f.draft.text)
    (hw : f.isWaiting = false) : (f.dispatch ['\n']).Explained more ahead :=
  h.dispatch hd hw List.not_mem_nil (.empty : Dispatched [] ['\n']) fun _ hgo =>
    absurd hgo f.not_blockGoesOn_newline

/-- A line that closes the block above stands at the margin and behind a draft that was sent, so it
counts on no block. -/
theorem dispatch_closing (h : f.Explained more ahead) (hd : Text.Ended f.draft.text)
    (hn : '\n' ∉ line) (hne : Text.trimEnd line ≠ [])
    (hc : f.closesBlock (Text.trimEnd line) = true)
    (ha : ((f.dispatch ['\n']).dispatch (Text.trimEnd line)).answers = f.answers) :
    ((f.dispatch ['\n']).dispatch (Text.trimEnd line)).Explained more false := by
  simp only [closesBlock, Bool.and_eq_true, beq_iff_eq, Bool.not_eq_true',
    Option.isNone_iff_eq_none] at hc
  obtain ⟨⟨⟨⟨hwidth, -⟩, -⟩, hw⟩, hr⟩ := hc
  have hregion : (f.dispatch ['\n']).draft.region = none :=
    (draft_region_dispatch_newline f).trans hr
  have hblank : (f.dispatch ['\n']).draft.isBlank = true := by
    refine Bool.of_not_eq_false fun hb => ?_
    have hopen := region_dispatch_newline hb
    rw [hregion] at hopen
    cases hopen
  have hflush : (f.dispatch ['\n']).Explained more false :=
    (h.dispatch_newline hd hw).of_isBlank hblank
  have hended : Text.Ended (f.dispatch ['\n']).draft.text :=
    Stores.ended (Stores.dispatch_newline ⟨hd, .refl _⟩)
  rw [← answers_dispatch_of_not_waiting hw ['\n']] at ha
  have hwaits := (answers_dispatch_iff _ _).mp ha
  refine hflush.dispatch hended hwaits hn (.trimmed hne) fun _ hgo => ?_
  rcases hgo with ho | ⟨-, hpos | ⟨style, hs, -⟩⟩
  · exact .inl ho
  · rw [indentation_dispatch, hwidth] at hpos
    cases hpos
  · rw [hregion] at hs
    cases hs

/-- **A typed line** that is no answer keeps the explanation. If it is typed while a response is
outstanding, it is typed ahead. -/
theorem processLine (h : f.Explained more ahead) (hd : Text.Ended f.draft.text) (hn : '\n' ∉ line)
    (ha : (f.processLine line).answers = f.answers) :
    (f.processLine line).Explained more
      (f.inFlight.isSome || ahead && (f.processLine line).issued == f.issued) := by
  have hone {l : Text} (hl : Dispatched line l) (ha : (f.dispatch l).answers = f.answers) :
      (f.dispatch l).Explained more
        (f.inFlight.isSome || ahead && (f.dispatch l).issued == f.issued) := by
    have hw := (answers_dispatch_iff f l).mp ha
    cases hi : f.inFlight.isSome with
    | true =>
      rw [Bool.true_or]
      exact (h.imp fun _ => rfl).dispatch hd hw hn hl fun _ _ => .inr rfl
    | false =>
      rw [Bool.false_or]
      exact (h.dispatch hd hw hn hl fun hs => absurd (hi.symm.trans hs) (by decide)).since
        (issued_dispatch f l)
  refine processLine_cases (p := fun g => g.answers = f.answers → g.Explained more
    (f.inFlight.isSome || ahead && g.issued == f.issued)) ?empty ?closing ?plain ha
  case empty => exact fun _ => hone .empty
  case plain => exact fun hne => hone (.trimmed hne)
  case closing => exact fun hne hc ha => (h.dispatch_closing hd hn hne hc ha).imp nofun

/-- Completing a statement keeps it, too, unless that is an answer. -/
theorem finish (h : f.Explained more ahead) (hd : Text.Ended f.draft.text)
    (ha : f.finish.answers = f.answers) :
    f.finish.Explained more (ahead && f.finish.issued == f.issued) := by
  rw [Framer.finish, (silent_ask _ .clearInput).answers] at ha
  rw [Framer.finish, issued_of_eq (silent_ask _ .clearInput).commands rfl]
  split at ha
  · rename_i hs
    rw [if_pos hs]
    have hflush := h.dispatch_newline hd ((answers_dispatch_iff f _).mp ha)
    exact (hflush.since (issued_dispatch f _)).of_eq rfl rfl
  · rename_i hs
    rw [if_neg hs]
    exact (h.since (.inl rfl)).of_eq rfl rfl

/-- **A response** explains the depth anew. -/
theorem respond {lastLine : Text} (h : f.Explained more ahead) (hl : f.inFlight = some lastLine)
    (last : Bool) : (f.respond last).Explained last ahead := by
  obtain ⟨depth, hd, hm⟩ := exists_draft_respond hl last
  have hb : (f.respond last).draft.isBlank = f.draft.isBlank := by
    rw [hd]
    rfl
  refine ⟨?_, fun hpos => ?_, fun hne => ?_⟩
  · rw [hd]
    exact h.region
  · cases last with
    | true => exact .inr (.inr rfl)
    | false =>
      rw [hd, hm rfl] at hpos
      cases hpos
  · rw [hb] at hne
    have ht : (f.respond last).draft.text = f.draft.text := by
      rw [hd]
      rfl
    rw [ht]
    refine (h.kept hne).imp_right (.imp_right fun hidle => ?_)
    rw [hl] at hidle
    cases hidle.1

end Explained

/-! ### What bears on a draft -/

/-- What bears on a draft and does not show in its text. -/
structure Background where
  /-- The last response asked for more lines. -/
  more : Bool := false
  /-- The running program asked for a line, or the user gave it one. -/
  asked : Bool := false
  /-- A line of the draft was typed while a response was outstanding. -/
  ahead : Bool := false
  deriving DecidableEq

/-- What bears on the draft of `g`, which `f` becomes when the texts `entered` are taken, or the
interpreter responds or asks for a line. Where nothing is open, nothing does. Where a command has
been issued, the lines that were typed before are not in the draft any more. -/
def Background.after (b : Background) (entered : List Text) (response? : Option Bool)
    (asks : Bool) (f g : Framer γ) : Background where
  more := g.draft.isOpen && response?.getD b.more
  asked := g.draft.isOpen && (b.asked || asks || response?.isNone && g.answers != f.answers)
  ahead := !g.draft.isBlank &&
    (f.inFlight.isSome && !entered.isEmpty || b.ahead && g.issued == f.issued)

/-- A change of what is shown, or of the interpreter. -/
structure Aside (f g : Framer γ) : Prop where
  draft : g.draft = f.draft
  inFlight : g.inFlight = f.inFlight
  issued : g.issued = f.issued
  answers : g.answers = f.answers

namespace Aside

theorem of_silent (h : Silent f g) (hd : g.draft = f.draft) : Aside f g :=
  ⟨hd, h.inFlight, issued_of_eq h.commands h.queued, h.answers⟩

theorem refl (f : Framer γ) : Aside f f := ⟨rfl, rfl, rfl, rfl⟩

theorem ask (f : Framer γ) (a : Screen.Action) : Aside f (f.ask a) :=
  .of_silent (silent_ask f a) rfl

theorem cue (f : Framer γ) (c : Prompt.Cue) : Aside f (f.cue c) :=
  .of_silent (silent_cue f c) (draft_cue f c)

/-- Showing the prompt. -/
theorem renderPrompt (f : Framer γ) : Aside f f.renderPrompt.2 := by
  rcases f.renderPrompt_cases with he | he
  · rw [he]
    exact .refl f
  · rw [he]
    refine ⟨rfl, rfl, issued_of_eq ?_ rfl, ?_⟩
    · simp [commands, note, Deed.command?]
    · simp [Framer.answers, sent, note, Deed.isSent]

/-- The wish to abort. -/
theorem interrupt [Interpreter γ] (f : Framer γ) : Aside f f.interrupt.2 :=
  ⟨rfl, rfl, issued_of_eq (commands_interrupt f) rfl, answers_interrupt f⟩

variable {typed : List Text} {more ahead : Bool}

theorem stores (h : Aside f g) (hf : f.Stores typed) : g.Stores typed :=
  hf.of_eq h.issued (by rw [h.draft])

theorem explained (h : Aside f g) (hf : f.Explained more ahead) : g.Explained more ahead :=
  hf.of_eq h.draft h.inFlight

end Aside

/-- The typed lines and the explanation of the draft go from `f` to `g`, when the texts `entered`
are taken, or the interpreter responds or asks for a line. -/
structure Moves (entered : List Text) (response? : Option Bool) (asks : Bool) (f g : Framer γ) :
    Prop where
  stores {typed : List Text} : f.Stores typed → g.Stores (typed ++ entered.flatMap Text.content)
  explained {more ahead : Bool} : f.Explained more ahead → Text.Ended f.draft.text →
    (∀ text ∈ entered, '\n' ∉ text) → asks = false → (response? = none → g.answers = f.answers) →
    g.Explained (response?.getD more)
      (f.inFlight.isSome && !entered.isEmpty || ahead && g.issued == f.issued)

namespace Moves

variable {h : Framer γ} {entered : List Text} {response? : Option Bool} {asks : Bool}

/-- The explanation goes along with the background. -/
theorem explained_after (ht : Moves entered response? asks f g) {b : Background}
    (hf : b.asked = false → f.Explained b.more b.ahead) (hd : Text.Ended f.draft.text)
    (hn : ∀ text ∈ entered, '\n' ∉ text)
    (ha : (b.after entered response? asks f g).asked = false) :
    g.Explained (b.after entered response? asks f g).more
      (b.after entered response? asks f g).ahead := by
  cases ho : g.draft.isOpen with
  | false =>
    simp only [Draft.isOpen, Bool.or_eq_false_iff, Bool.not_eq_false', decide_eq_false_iff_not,
      Option.isSome_eq_false_iff, Option.isNone_iff_eq_none, Nat.pos_iff_ne_zero, not_not] at ho
    exact .of_closed ho.1.1 ho.1.2 ho.2
  | true =>
    simp only [Background.after, ho, Bool.true_and, Bool.or_eq_false_iff, Bool.and_eq_false_imp,
      Option.isNone_iff_eq_none, bne_eq_false_iff_eq] at ha ⊢
    have hg := ht.explained (hf ha.1.1) hd hn ha.1.2 ha.2
    cases hb : g.draft.isBlank with
    | true => exact hg.of_isBlank hb
    | false => exact hg

theorem of_aside (ha : Aside f g) : Moves [] none false f g where
  stores hf := by
    rw [List.flatMap_nil, List.append_nil]
    exact ha.stores hf
  explained hf _ _ _ _ := (ha.explained hf).imp (by simp [ha.issued])

/-- What is shown before or afterwards does not matter. -/
theorem behind (ha : Aside f g) (ht : Moves entered response? asks g h) :
    Moves entered response? asks f h where
  stores hf := ht.stores (ha.stores hf)
  explained hf hd hn hr hs := by
    rw [← ha.inFlight, ← ha.issued]
    rw [← ha.answers] at hs
    exact ht.explained (ha.explained hf) (ha.draft ▸ hd) hn hr hs

theorem before (ht : Moves entered response? asks f g) (ha : Aside g h) :
    Moves entered response? asks f h where
  stores hf := ha.stores (ht.stores hf)
  explained hf hd hn hr hs := by
    rw [ha.answers] at hs
    rw [ha.issued]
    exact ha.explained (ht.explained hf hd hn hr hs)

theorem inputRequested (f : Framer γ) : Moves [] none true f f.inputRequested where
  stores hf := by
    have hd : f.inputRequested.draft = { f.draft with depth := 1 } := by
      simp [Framer.inputRequested]
    rw [List.flatMap_nil, List.append_nil]
    exact hf.of_silent (.inputRequested f) hd
  explained _ _ _ ha := by cases ha

variable [Interpreter γ] [Interpreter.NeverRefuses γ]

theorem submit (f : Framer γ) (text : Text) : Moves [text] none false f (f.submit text false) where
  stores hf := by
    rw [List.flatMap_singleton]
    exact hf.submit text false
  explained hf hd hn _ hs := by
    have hline := List.forall_mem_singleton.mp hn
    rw [submit_line f hline] at hs ⊢
    simpa using hf.processLine hd hline (hs rfl)

theorem finish (f : Framer γ) : Moves [] none false f f.finish where
  stores hf := by
    rw [List.flatMap_nil, List.append_nil]
    exact hf.finish
  explained hf hd _ _ hs := by
    simpa using hf.finish hd (hs rfl)

theorem respond {lastLine : Text} (hl : f.inFlight = some lastLine) (more : Bool) :
    Moves [] (some more) false f (f.respond more) where
  stores hf := by
    rw [List.flatMap_nil, List.append_nil]
    exact hf.respond more
  explained hf _ _ _ _ := (hf.respond hl more).imp (by simp [issued_respond])

end Moves

end Framer

end LineFraming
