import LineFraming.Proofs.Framer.Frame
import LineFraming.Proofs.Splitter
import LineFraming.Proofs.Text.Lines

/-!
# A framer follows a splitter

The draft of a framer is the group of a splitter. The one thing the two may disagree on is the
block: a splitter forgets it with the group, but a framer keeps the depth of a block that was sent
until the response, and the response sets the depth to zero whatever is being typed by then. So
`Tracks` says nothing about the depth, and a step needs the depth to be right only where the line
consults it.

## Main definitions

* `Framer.Tracks` — the draft is the group of the splitter
* `Framer.RightDepth` — the depth is positive exactly when a block is open
* `Framer.Step` — what a line did to a framer, told by what it did to a splitter
* `Framer.Follows` — the commands so far and the draft are what the splitter makes of the lines

## Main results

* `Framer.Tracks.step_processLine` — a line does to a framer what it does to a splitter
* `Framer.Step.rightDepth` — where nothing is sent, the depth stays right
* `Framer.Tracks.respond_false` — a response leaves the draft alone
-/

namespace LineFraming

namespace Framer

variable {γ : Type}

/-- The draft of the framer is the group of the splitter. -/
structure Tracks (f : Framer γ) (s : Splitter) : Prop where
  inOrder : f.InOrder
  text : f.draft.text = Splitter.text s.group
  region : f.draft.region = s.region
  isBlank : f.draft.isBlank = true ↔ s.group = []
  /-- Only a group keeps a block or a string open. -/
  held : s.group = [] → s.block = false ∧ s.region = none
  /-- Between two statements a depth belongs to a block that is in flight. -/
  idle : s.group = [] → f.inFlight.isSome = true ∨ f.draft.depth = 0

/-- The depth is positive exactly when a block is open. -/
def RightDepth (f : Framer γ) (s : Splitter) : Prop := s.block = true ↔ 0 < f.draft.depth

theorem RightDepth.of_open {f : Framer γ} {s : Splitter} (hs : s.block = true)
    (hd : 0 < f.draft.depth) : f.RightDepth s := ⟨fun _ => hd, fun _ => hs⟩

theorem RightDepth.of_closed {f : Framer γ} {s : Splitter} (hs : s.block = false)
    (hd : f.draft.depth = 0) : f.RightDepth s := by
  rw [RightDepth, hs, hd]
  constructor
  · intro hf
    cases hf
  · intro hp
    omega

/-- A splitter is tracked by the text of the draft and the string that is open in it, and between
two statements by the depth. -/
theorem Tracks.of_draft {f g : Framer γ} {s : Splitter} (h : f.Tracks s) (ho : g.InOrder)
    (ht : g.draft.text = f.draft.text) (hr : g.draft.region = f.draft.region)
    (hidle : s.group = [] → g.inFlight.isSome = true ∨ g.draft.depth = 0) : g.Tracks s where
  inOrder := ho
  text := ht.trans h.text
  region := hr.trans h.region
  isBlank := by
    rw [Draft.isBlank, ht]
    exact h.isBlank
  held := h.held
  idle := hidle

/-- A statement may be part of a block or not; which of the two the draft does not tell. -/
theorem Tracks.withBlock {f : Framer γ} {s : Splitter} (h : f.Tracks s) (hg : s.group ≠ [])
    (block : Bool) : f.Tracks { s with block := block } where
  inOrder := h.inOrder
  text := h.text
  region := h.region
  isBlank := h.isBlank
  held he := absurd he hg
  idle := h.idle

/-- The commands so far and the draft are the groups that a splitter has completed and the group it
is putting together. -/
structure Follows (f : Framer γ) (i : Indentation) (r : List (List Text) × Splitter) : Prop where
  indentation : f.indentation = i
  tracks : f.Tracks r.2
  issued : f.issued = r.1.map Splitter.text

namespace Follows

variable {f : Framer γ} {i : Indentation} {r : List (List Text) × Splitter}

/-- A framer that has just been made. -/
theorem fresh (g : γ) (screen : Screen) :
    Follows { interpreter := g, screen := screen, indentation := i } i ([], {}) where
  indentation := rfl
  tracks := ⟨fun _ => rfl, rfl, rfl, ⟨fun _ => rfl, fun _ => rfl⟩, fun _ => ⟨rfl, rfl⟩,
    fun _ => .inr rfl⟩
  issued := rfl

/-- Only the draft, what is in flight and the commands count. -/
theorem of_eq (h : f.Follows i r) {g : Framer γ} (hd : g.draft = f.draft)
    (hi : g.inFlight = f.inFlight) (hq : g.queued = f.queued)
    (hind : g.indentation = f.indentation) (hc : g.commands = f.commands) : g.Follows i r where
  indentation := hind.trans h.indentation
  tracks := by
    refine h.tracks.of_draft (h.tracks.inOrder.of_eq hi hq) ?_ ?_ ?_
    · rw [hd]
    · rw [hd]
    · rw [hd, hi]
      exact h.tracks.idle
  issued := (issued_of_eq hc hq).trans h.issued

/-- Nothing waits in the queue when nothing is in flight, so all commands have been handed over. -/
theorem commands (h : f.Follows i r) (hi : f.inFlight = none) :
    f.commands = r.1.map Splitter.text := by
  rw [← h.issued, Framer.issued, h.tracks.inOrder hi]
  simp

end Follows

/-- What led from one framer to another, told by the groups that a splitter completed on the way
and the splitter behind them. -/
structure Step (f g : Framer γ) (s : Splitter) (r : List (List Text) × Splitter) : Prop where
  tracks : g.Tracks r.2
  issued : g.issued = f.issued ++ r.1.map Splitter.text
  unsent : r.1 = [] → g.inFlight = f.inFlight
  sent : r.1 ≠ [] → g.inFlight.isSome = true
  indentation : g.indentation = f.indentation
  buffer : g.draft.text? = Splitter.buffer r
  depth : g.draft.depth = f.draft.depth ∨ 0 < g.draft.depth ∧ r.2.block = true
  block : r.2.block = true → s.block = true ∨ 0 < g.draft.depth

namespace Step

variable {f g : Framer γ} {s : Splitter} {r : List (List Text) × Splitter}

/-- A depth that is positive stays so. -/
theorem depth_pos (h : Step f g s r) (hd : 0 < f.draft.depth) : 0 < g.draft.depth := by
  rcases h.depth with he | ⟨hg, _⟩
  · rwa [he]
  · exact hg

/-- A step is told from where only the draft differs, and has no other depth. -/
theorem behind {f' : Framer γ} {s' : Splitter} (h : Step f' g s' r) (hissued : f'.issued = f.issued)
    (hi : f'.inFlight = f.inFlight) (hind : f'.indentation = f.indentation)
    (hd : f'.draft.depth = f.draft.depth) (hb : s'.block = s.block) : Step f g s r where
  tracks := h.tracks
  issued := hissued ▸ h.issued
  unsent hr := (h.unsent hr).trans hi
  sent := h.sent
  indentation := h.indentation.trans hind
  buffer := h.buffer
  depth := hd ▸ h.depth
  block := hb ▸ h.block

/-- Where no block is open behind a step, the depth is as before. -/
theorem depth_eq (h : Step f g s r) (hb : r.2.block = false) : g.draft.depth = f.draft.depth := by
  rcases h.depth with he | ⟨_, ht⟩
  · exact he
  · rw [hb] at ht
    cases ht

/-- One step behind another that opens no block. -/
theorem trans {k : Framer γ} {t : Splitter} {groups : List (List Text)}
    (h₁ : Step f g s (groups, t)) (h₂ : Step g k t r) (hb : t.block = false)
    (hr : r.1 = [] → r.2.group ≠ []) : Step f k s (groups ++ r.1, r.2) := by
  have hd : g.draft.depth = f.draft.depth := h₁.depth_eq hb
  constructor
  case tracks => exact h₂.tracks
  case issued => rw [h₂.issued, h₁.issued, List.map_append, List.append_assoc]
  case unsent =>
    intro hn
    obtain ⟨hn₁, hn₂⟩ := List.append_eq_nil_iff.mp hn
    exact (h₂.unsent hn₂).trans (h₁.unsent hn₁)
  case sent =>
    intro hn
    by_cases hn₂ : r.1 = []
    · rw [h₂.unsent hn₂]
      exact h₁.sent fun hn₁ => hn (List.append_eq_nil_iff.mpr ⟨hn₁, hn₂⟩)
    · exact h₂.sent hn₂
  case indentation => exact h₂.indentation.trans h₁.indentation
  case buffer =>
    rw [h₂.buffer, Splitter.buffer, Splitter.buffer]
    by_cases hn : r.1 = []
    · rw [if_neg fun hp => hr hn hp.2, if_neg fun hp => hr hn hp.2]
    · simp [hn]
  case depth =>
    rw [← hd]
    exact h₂.depth
  case block =>
    intro ht
    rcases h₂.block ht with htb | hp
    · rw [hb] at htb
      cases htb
    · exact .inr hp

/-- Where nothing is open, or what is open stays open, the depth stays right. -/
theorem rightDepth (h : Step f g s r) (hd : f.RightDepth s)
    (hs : s.block = true → r.2.block = true) : g.RightDepth r.2 := by
  constructor
  · intro hb
    rcases h.block hb with hs | hp
    · exact h.depth_pos (hd.mp hs)
    · exact hp
  · intro hp
    rcases h.depth with he | ⟨_, hb⟩
    · exact hs (hd.mpr (he ▸ hp))
    · exact hb

end Step

/-! ### Lines that stay in the draft, and drafts that are sent -/

/-- The framer tracks the splitter, and there is a statement in the draft. -/
structure Holds (f : Framer γ) (s : Splitter) : Prop extends f.Tracks s where
  group_ne : s.group ≠ []
  text? : f.draft.text? = some (Splitter.text s.group)

/-- A line that is put into the draft is put into the group. -/
theorem Tracks.append {f : Framer γ} {s : Splitter} (h : f.Tracks s) {x line : Text}
    (hx : Draft.terminated x = line ++ ['\n']) (hb : Text.isBlank x = Text.isBlank line)
    (hne : s.group ≠ [] ∨ Text.isBlank line = false) :
    Holds { f with draft := f.draft.append x } { s with group := s.group ++ [line] } := by
  have hkeep : (Text.isBlank line && f.draft.isBlank) = false := by
    rw [Bool.and_eq_false_iff, ← Bool.not_eq_true f.draft.isBlank, h.isBlank]
    exact hne.symm
  have htext : (f.draft.append x).text? = some (Splitter.text (s.group ++ [line])) := by
    rw [Draft.append, hb, hkeep, hx, h.text]
    simp
  have hregion : (f.draft.append x).region = f.draft.region := by
    rw [Draft.append]
    split <;> rfl
  have hgroup : s.group ++ [line] ≠ [] :=
    List.append_ne_nil_of_right_ne_nil _ (List.cons_ne_nil _ _)
  have hblank : (f.draft.append x).isBlank = false := by
    rw [Draft.isBlank, h.text, Bool.and_eq_false_iff] at hkeep
    rw [Draft.isBlank, Draft.text, htext]
    rcases hkeep with hk | hk <;> simp [hk]
  refine ⟨⟨h.inOrder, ?_, hregion.trans h.region, ?_, fun he => absurd he hgroup,
    fun he => absurd he hgroup⟩, hgroup, htext⟩
  · rw [Draft.text, htext]
    rfl
  · simp [hblank]

namespace Holds

variable {f g : Framer γ} {s s' : Splitter}

/-- Nothing is sent where the statement stays open. -/
theorem step_keep (h : f.Holds s) (hgroup : s'.group = s.group) (hi : g.inFlight = f.inFlight)
    (hq : g.queued = f.queued) (hc : g.commands = f.commands)
    (hind : g.indentation = f.indentation) (ht : g.draft.text? = f.draft.text?)
    (hr : g.draft.region = s'.region)
    (hdepth : g.draft.depth = f.draft.depth ∨ 0 < g.draft.depth ∧ s'.block = true)
    (hblock : s'.block = true → s.block = true ∨ 0 < g.draft.depth) : Step f g s ([], s') := by
  have htext : g.draft.text = f.draft.text := by rw [Draft.text, ht, Draft.text]
  have hne : s'.group ≠ [] := hgroup ▸ h.group_ne
  have htracks : g.Tracks s' := by
    constructor
    case inOrder => exact h.inOrder.of_eq hi hq
    case text => rw [htext, h.text, hgroup]
    case region => exact hr
    case isBlank =>
      rw [Draft.isBlank, htext, hgroup]
      exact h.isBlank
    case held => exact fun he => absurd he hne
    case idle => exact fun he => absurd he hne
  constructor
  case tracks => exact htracks
  case issued => simp [issued_of_eq hc hq]
  case unsent => exact fun _ => hi
  case sent => exact fun hn => absurd rfl hn
  case indentation => exact hind
  case buffer => rw [Splitter.buffer_of_group_ne hne, ht, h.text?, hgroup]
  case depth => exact hdepth
  case block => exact hblock

theorem withBlock (h : f.Holds s) (block : Bool) : f.Holds { s with block := block } :=
  ⟨h.toTracks.withBlock h.group_ne block, h.group_ne, h.text?⟩

/-- Which string is open changes on both sides. -/
theorem setRegion (h : f.Holds s) (region : Option TripleQuote) :
    (f.setRegion region).Holds { s with region := region } where
  inOrder := h.inOrder
  text := h.text
  region := rfl
  isBlank := h.isBlank
  held he := absurd he h.group_ne
  idle := h.idle
  group_ne := h.group_ne
  text? := h.text?

/-- What is shown does not count. -/
theorem shown (h : f.Holds s) (a : Screen.Action) (c : Prompt.Cue) :
    ((f.ask a).cue c).Holds s where
  toTracks := by
    refine h.of_draft (h.inOrder.of_eq ?_ ?_) ?_ ?_ fun he => absurd he h.group_ne
    · simp
    · simp
    · simp
    · simp
  group_ne := h.group_ne
  text? := by simpa using h.text?

theorem step_continued (h : f.Holds s) : Step f (f.cue .moreLines) s ([], s) := by
  refine h.step_keep rfl (by simp) (by simp) (journal_cue_commands f _) (by simp) (by simp) ?_
    (.inl (by simp)) .inl
  simpa using h.region

/-- A block that is kept open has a positive depth. -/
theorem step_indented (h : f.Holds s) {depth : Nat} (hd : 0 < depth) :
    Step f (f.requestMore depth) s ([], { s with block := true }) := by
  have hcommands : (f.requestMore depth).commands = f.commands := by
    simp [requestMore, commands]
  refine h.step_keep rfl (by simp [requestMore]) (by simp [requestMore]) hcommands
    (by simp [requestMore]) (by simp) ?_ (.inr ?_) fun _ => .inr ?_
  · simpa using h.region
  · simpa using hd
  · simpa using hd

variable [Interpreter γ] [Interpreter.NeverWaits γ] [Interpreter.NeverRefuses γ]

/-- A draft that is sent is a completed group. -/
theorem step_send (h : f.Holds s) (hr : s.region = none) (x : Text) :
    Step f (f.sendDraft x) s ([s.group], {}) := by
  have hs := isSome_inFlight_sendDraft f x
  have hd := draft_sendDraft f x
  have htracks : (f.sendDraft x).Tracks {} := by
    constructor
    case inOrder =>
      intro hn
      rw [hn] at hs
      cases hs
    case text => simp [Draft.text]
    case region =>
      rw [hd]
      exact h.region.trans hr
    case isBlank => simp [Draft.isBlank, Draft.text]
    case held => exact fun _ => ⟨rfl, rfl⟩
    case idle => exact fun _ => .inl hs
  constructor
  case tracks => exact htracks
  case issued =>
    rw [h.inOrder.issued_sendDraft, h.text]
    rfl
  case unsent =>
    intro hn
    cases hn
  case sent => exact fun _ => hs
  case indentation => exact indentation_sendDraft f x
  case buffer =>
    rw [hd]
    rfl
  case depth =>
    rw [hd]
    exact .inl rfl
  case block =>
    intro hb
    cases hb

/-- A line outside strings, behind which the draft already holds it, is told apart the same way on
both sides. -/
theorem step_conclude (h : f.Holds s) (hr : s.region = none) {line x : Text} {kind : LineKind}
    {stays : Bool} (hslash : line.getLast? = some '\\' → kind = .continued)
    (hopens : line.getLast? ≠ some '\\' → Block.opens line = true →
      ∃ depth, 0 < depth ∧ kind = .indented depth)
    (hplain : line.getLast? ≠ some '\\' → Block.opens line = false →
      (stays = true ∧ s.block = true ∧ ∃ depth, 0 < depth ∧ kind = .indented depth) ∨
        stays = false ∧ kind = .complete) :
    Step f (f.conclude x kind) s (s.conclude line stays) := by
  rw [Splitter.conclude]
  split
  · rw [hslash ‹_›]
    exact h.step_continued
  · split
    · obtain ⟨depth, hpos, hk⟩ := hopens ‹_› ‹_›
      rw [hk]
      exact h.step_indented hpos
    · rcases hplain ‹_› (Bool.eq_false_iff.mpr ‹_›) with ⟨hs, hb, depth, hpos, hk⟩ | ⟨hs, hk⟩
      · rw [hk, if_pos hs]
        have hstep := h.step_indented hpos
        rwa [← hb] at hstep
      · rw [hk, if_neg (by simp [hs])]
        exact h.step_send hr x

end Holds

/-! ### Kinds of lines -/

end Framer

namespace LineKind

variable {i : Indentation} {depth : Nat} {line : Text}

theorem ofStatement_of_slash (hb : Text.isBlank line = false) (h : line.getLast? = some '\\') :
    ofStatement i depth line = continued := by
  rw [ofStatement, if_neg (by simp [hb]), if_pos h]

theorem ofStatement_of_opens (hb : Text.isBlank line = false) (h : line.getLast? ≠ some '\\')
    (ho : Block.opens line = true) :
    ofStatement i depth line = indented (i.width line + i.unit) := by
  simp [ofStatement, hb, h, ho]

theorem ofStatement_of_plain (hb : Text.isBlank line = false) (h : line.getLast? ≠ some '\\')
    (ho : Block.opens line = false) :
    ofStatement i depth line =
      if 0 < depth ∧ 0 < i.width line then indented (i.width line) else complete := by
  simp [ofStatement, hb, h, ho]

end LineKind

namespace Framer

variable {γ : Type} {f : Framer γ} {line : Text}

theorem closingKind_of_slash (hb : Text.isBlank line = false) (h : line.getLast? = some '\\') :
    f.closingKind line = .continued := by
  rw [closingKind, LineKind.ofStatement_of_slash hb h]

theorem closingKind_of_opens (hb : Text.isBlank line = false) (h : line.getLast? ≠ some '\\')
    (ho : Block.opens line = true) :
    f.closingKind line = .indented (f.indentation.width line + f.indentation.unit) := by
  rw [closingKind, LineKind.ofStatement_of_opens hb h ho]

/-- The column in which a block goes on behind a line that closes a string: at the margin its own,
elsewhere that of the line. -/
def closingColumn (f : Framer γ) (line : Text) : Nat :=
  if f.indentation.width line = 0 then f.draft.depth else f.indentation.width line

theorem closingColumn_pos (hd : 0 < f.draft.depth) (line : Text) : 0 < f.closingColumn line := by
  rw [closingColumn]
  split
  · exact hd
  · exact Nat.pos_of_ne_zero ‹_›

theorem closingKind_of_not_opens (hb : Text.isBlank line = false) (h : line.getLast? ≠ some '\\')
    (ho : Block.opens line = false) :
    f.closingKind line =
      if 0 < f.draft.depth then .indented (f.closingColumn line) else .complete := by
  rw [closingKind, LineKind.ofStatement_of_plain hb h ho, closingColumn]
  by_cases hd : 0 < f.draft.depth
  · by_cases hw : f.indentation.width line = 0
    · simp [hd, hw]
    · simp [hd, hw, Nat.pos_of_ne_zero hw]
  · simp [hd]

/-- The line that closes a string leaves an open block open, even at the margin. -/
theorem closingKind_of_plain (hb : Text.isBlank line = false) (h : line.getLast? ≠ some '\\')
    (ho : Block.opens line = false) :
    (0 < f.draft.depth ∧ ∃ depth, 0 < depth ∧ f.closingKind line = .indented depth) ∨
      f.draft.depth = 0 ∧ f.closingKind line = .complete := by
  rw [closingKind_of_not_opens hb h ho]
  by_cases hd : 0 < f.draft.depth
  · exact .inl ⟨hd, _, closingColumn_pos hd line, if_pos hd⟩
  · exact .inr ⟨Nat.eq_zero_of_not_pos hd, if_neg hd⟩

variable [Interpreter γ] [Interpreter.NeverWaits γ] {s : Splitter}

/-- A line outside strings, behind which the draft already holds it. -/
theorem Holds.step_statement [Interpreter.NeverRefuses γ] (h : f.Holds s) (hr : s.region = none)
    (hb : Text.isBlank line = false)
    (hd : line.getLast? ≠ some '\\' → Block.opens line = false → 0 < f.indentation.width line →
      f.RightDepth s) :
    Step f (f.conclude line (LineKind.ofStatement f.indentation f.draft.depth line)) s
      (s.conclude line (s.block && decide (0 < f.indentation.width line))) := by
  refine h.step_conclude hr (LineKind.ofStatement_of_slash hb)
    (fun hs ho => ⟨_, Nat.add_pos_right _ (Indentation.unit_pos _),
      LineKind.ofStatement_of_opens hb hs ho⟩) fun hs ho => ?_
  rw [LineKind.ofStatement_of_plain hb hs ho]
  by_cases hw : 0 < f.indentation.width line
  · have hright := hd hs ho hw
    by_cases hp : 0 < f.draft.depth
    · have hblock : s.block = true := hright.mpr hp
      rw [if_pos ⟨hp, hw⟩]
      exact .inl ⟨by simp [hblock, hw], hblock, _, hw, rfl⟩
    · have hblock : ¬s.block = true := fun hb => hp (hright.mp hb)
      rw [if_neg fun hpw => hp hpw.1]
      exact .inr ⟨by simp [hblock], rfl⟩
  · rw [if_neg fun hpw => hw hpw.2]
    exact .inr ⟨by simp [hw], rfl⟩

/-- A line that has closed a string, behind which the draft already holds it. -/
theorem Holds.step_closing [Interpreter.NeverRefuses γ] (h : f.Holds s) (hr : s.region = none)
    (hb : Text.isBlank line = false)
    (hd : line.getLast? ≠ some '\\' → Block.opens line = false → f.RightDepth s) :
    Step f (f.conclude line (f.closingKind line)) s (s.conclude line s.block) := by
  refine h.step_conclude hr (closingKind_of_slash hb)
    (fun hs ho => ⟨_, Nat.add_pos_right _ (Indentation.unit_pos _), closingKind_of_opens hb hs ho⟩)
    fun hs ho => ?_
  have hright := hd hs ho
  rcases closingKind_of_plain hb hs ho with ⟨hpos, hk⟩ | ⟨hzero, hk⟩
  · exact .inl ⟨hright.mpr hpos, hright.mpr hpos, hk⟩
  · refine .inr ⟨?_, hk⟩
    rw [← Bool.not_eq_true]
    intro hblock
    have hpos := hright.mp hblock
    omega

/-! ### Dispatching a line -/

namespace Tracks

/-- A line that closes no string goes into the string that is open, an empty one too. -/
theorem step_dispatch_inside (h : f.Tracks s) {style : TripleQuote} (hr : s.region = some style)
    {x : Text} (hx : Draft.terminated x = line ++ ['\n']) (hb : Text.isBlank x = Text.isBlank line)
    (ht : style.toggles x = false) :
    Step f (f.dispatch x) s ([], { s with group := s.group ++ [line] }) := by
  have hg : s.group ≠ [] := fun hg => by simpa [hr] using (h.held hg).2
  have hholds := h.append hx hb (.inl hg)
  rw [dispatch_of_region (h.region.trans hr)]
  dsimp only
  rw [if_neg (by simp [ht])]
  have hstep := hholds.step_keep rfl rfl rfl rfl rfl rfl hholds.region (.inl rfl) .inl
  exact hstep.behind rfl rfl rfl (f.draft.depth_append x) rfl

variable [Interpreter.NeverRefuses γ]

/-- An empty line completes what there is. Where there is nothing it closes nothing, whatever the
depth is: a depth belongs to a block that is in flight then. -/
theorem step_dispatch_blank (h : f.Tracks s) (hr : s.region = none) :
    Step f (f.dispatch ['\n']) s
      (if s.group = [] then ([], s) else ([s.group ++ [[]]], {})) := by
  rw [dispatch_of_no_region (h.region.trans hr)]
  change Step f (conclude { f with draft := f.draft.append ['\n'] } ['\n'] .blank) s _
  rw [conclude]
  by_cases hg : s.group = []
  · have hblank : f.draft.isBlank = true := h.isBlank.mpr hg
    have happend : f.draft.append ['\n'] = { f.draft with text? := some f.draft.text } := by
      rw [Draft.append, if_pos (by rw [hblank]; rfl)]
    have hcloses : blankClosesNothing { f with draft := f.draft.append ['\n'] } = true := by
      rw [blankClosesNothing, Draft.depth_append]
      rcases h.idle hg with hi | hd
      · simp [hi]
      · simp [hd]
    have hdraft : (f.draft.append ['\n']).isBlank = true := by
      rw [happend]
      exact hblank
    rw [if_pos hg, if_pos (by rw [hdraft, hcloses]; rfl), happend]
    constructor
    case tracks => exact h.of_draft h.inOrder rfl rfl h.idle
    case issued => simp [issued, commands]
    case unsent => exact fun _ => rfl
    case sent => exact fun hn => absurd rfl hn
    case indentation => rfl
    case buffer => rw [Splitter.buffer, if_neg (by simp), h.text]
    case depth => exact .inl rfl
    case block => exact .inl
  · have hholds : Holds { f with draft := f.draft.append ['\n'] }
        { s with group := s.group ++ [[]] } := h.append rfl rfl (.inl hg)
    have hdraft : (f.draft.append ['\n']).isBlank = false := by
      rw [← Bool.not_eq_true, hholds.isBlank]
      exact hholds.group_ne
    rw [if_neg hg, if_neg (by rw [hdraft]; simp)]
    exact (hholds.step_send hr ['\n']).behind rfl rfl rfl (f.draft.depth_append _) rfl

/-- A line that closes the string decides about the statement around it. -/
theorem step_dispatch_closes (h : f.Tracks s) {style : TripleQuote} (hr : s.region = some style)
    (hb : Text.isBlank line = false) (hn : line.getLast? ≠ some '\n')
    (ht : style.toggles line = true)
    (hd : line.getLast? ≠ some '\\' → Block.opens line = false → f.RightDepth s) :
    Step f (f.dispatch line) s
      (Splitter.conclude { s with group := s.group ++ [line], region := none } line s.block) := by
  have hholds := h.append (Draft.terminated_of_ne hn) rfl (.inr hb)
  have hclosed := (hholds.setRegion none).shown (.setPlainText false) .stringClosed
  rw [dispatch_of_region (h.region.trans hr)]
  dsimp only
  rw [if_pos ht]
  have hstep := hclosed.step_closing rfl hb fun hs ho => by
    simpa [RightDepth] using hd hs ho
  refine hstep.behind ?_ ?_ ?_ ?_ rfl <;> simp [issued, commands]

/-- A line outside strings opens a string or is told apart by its indentation. Whether a block is
open may be chosen to suit the depth, since the line itself is in the group by then. -/
theorem step_dispatch_extend (h : f.Tracks s) (block : Bool) (hr : s.region = none)
    (hb : Text.isBlank line = false) (hn : line.getLast? ≠ some '\n')
    (hd : TripleQuote.openedBy line = none → line.getLast? ≠ some '\\' →
      Block.opens line = false → 0 < f.indentation.width line →
        f.RightDepth { s with block := block }) :
    Step f (f.dispatch line) { s with block := block }
      (Splitter.extend f.indentation { s with block := block } line) := by
  have hholds := (h.append (Draft.terminated_of_ne hn) rfl (.inr hb)).withBlock block
  rw [dispatch_of_no_region (h.region.trans hr), Splitter.extend]
  cases ho : TripleQuote.openedBy line with
  | some style =>
    have hopened := (hholds.setRegion (some style)).shown (.setPlainText true) .stringOpened
    have hstep := hopened.step_keep rfl rfl rfl rfl rfl rfl hopened.region (.inl rfl) .inl
    refine hstep.behind ?_ ?_ ?_ ?_ rfl <;> simp [issued, commands]
  | none =>
    have hstep := hholds.step_statement hr hb fun hs hl hw => by
      simpa [RightDepth] using hd ho hs hl hw
    rw [Draft.depth_append] at hstep
    exact hstep.behind rfl rfl rfl (f.draft.depth_append line) rfl

/-- A line inside a string. -/
theorem step_quoted (h : f.Tracks s) {style : TripleQuote} (hr : s.region = some style)
    (hb : line ≠ [] → Text.isBlank line = false) (hn : line.getLast? ≠ some '\n')
    (hd : f.RightDepth s ∨
      (!Block.opens line && (style.toggles line && line.getLast? != some '\\')) = false) :
    Step f
      (if line.isEmpty then f.dispatch ['\n']
        else if f.closesBlock line then (f.dispatch ['\n']).dispatch line else f.dispatch line)
      s (s.quote style line) := by
  have hc : f.closesBlock line = false := by simp [closesBlock, h.region, hr]
  have htoggles : style.toggles [] = false := by cases style <;> rfl
  rw [Splitter.quote]
  by_cases hl : line = []
  · subst hl
    rw [htoggles]
    exact h.step_dispatch_inside hr rfl rfl (by cases style <;> rfl)
  · rw [if_neg (by simpa using hl), hc]
    by_cases ht : style.toggles line = true
    · dsimp only
      rw [if_pos ht]
      refine h.step_dispatch_closes hr (hb hl) hn ht fun hs ho => hd.resolve_right fun hf => ?_
      simp [ho, ht, hs] at hf
    · dsimp only
      rw [if_neg ht]
      exact h.step_dispatch_inside hr (Draft.terminated_of_ne hn) rfl (Bool.eq_false_iff.mpr ht)

/-- A line at the margin that is no header, behind the empty line that completes the block above. -/
theorem step_flush_extend (h : f.Tracks s) (hr : s.region = none) (hg : s.group ≠ [])
    (hb : Text.isBlank line = false) (hn : line.getLast? ≠ some '\n')
    (hw : f.indentation.width line = 0) :
    Step f ((f.dispatch ['\n']).dispatch line) s
      ((s.group ++ [[]]) :: (Splitter.extend f.indentation {} line).1,
        (Splitter.extend f.indentation {} line).2) := by
  have hflush := h.step_dispatch_blank hr
  rw [if_neg hg] at hflush
  have hextend : Step _ _ _ (Splitter.extend _ {} line) :=
    hflush.tracks.step_dispatch_extend false rfl hb hn fun _ _ _ hp => by
      rw [hflush.indentation, hw] at hp
      exact absurd hp (Nat.lt_irrefl 0)
  rw [hflush.indentation] at hextend
  exact hflush.trans hextend rfl Splitter.group_ne_of_extend

/-- The same where there is no block above, so that the empty line closes nothing. -/
theorem step_idle_extend (h : f.Tracks s) (hg : s.group = []) (hb : Text.isBlank line = false)
    (hn : line.getLast? ≠ some '\n') (hw : f.indentation.width line = 0) :
    Step f ((f.dispatch ['\n']).dispatch line) s (s.extend f.indentation line) := by
  obtain ⟨hblock, hr⟩ := h.held hg
  have hflush := h.step_dispatch_blank hr
  rw [if_pos hg] at hflush
  have hextend : Step _ _ _ (Splitter.extend _ s line) :=
    hflush.tracks.step_dispatch_extend s.block hr hb hn fun _ _ _ hp => by
      rw [hflush.indentation, hw] at hp
      exact absurd hp (Nat.lt_irrefl 0)
  rw [hflush.indentation] at hextend
  exact hflush.trans hextend hblock Splitter.group_ne_of_extend

/-- A line outside strings that is not empty. -/
theorem step_unquoted (h : f.Tracks s) (hr : s.region = none) (hb : Text.isBlank line = false)
    (hn : line.getLast? ≠ some '\n')
    (hd : f.RightDepth s ∨
      (!Block.opens line &&
        if f.indentation.width line = 0 then s.group != []
        else (TripleQuote.openedBy line).isNone && line.getLast? != some '\\') = false) :
    Step f (if f.closesBlock line then (f.dispatch ['\n']).dispatch line else f.dispatch line) s
      (if s.block && f.indentation.width line == 0 && !Block.opens line then
        ((s.group ++ [[]]) :: (Splitter.extend f.indentation {} line).1,
          (Splitter.extend f.indentation {} line).2)
      else s.extend f.indentation line) := by
  have hf : f.closesBlock line = true ↔
      (f.indentation.width line = 0 ∧ Block.opens line = false) ∧ 0 < f.draft.depth :=
    (closesBlock_iff (isWaiting_eq_false f) (h.region.trans hr)).trans and_comm
  have hs : (s.block && f.indentation.width line == 0 && !Block.opens line) = true ↔
      (f.indentation.width line = 0 ∧ Block.opens line = false) ∧ s.block = true := by
    simp [and_left_comm, and_comm]
  by_cases hm : f.indentation.width line = 0 ∧ Block.opens line = false
  · have hnot : 0 < f.indentation.width line → f.RightDepth s := fun hp =>
      absurd hm.1 (Nat.pos_iff_ne_zero.mp hp)
    by_cases hg : s.group = []
    · have hblock : ¬s.block = true := by simp [(h.held hg).1]
      rw [if_neg fun ht => hblock (hs.mp ht).2]
      split
      · exact h.step_idle_extend hg hb hn hm.1
      · exact h.step_dispatch_extend s.block hr hb hn fun _ _ _ => hnot
    · have hright : f.RightDepth s := hd.resolve_right fun hd => by simp [hm.1, hm.2, hg] at hd
      by_cases hp : 0 < f.draft.depth
      · rw [if_pos (hf.mpr ⟨hm, hp⟩), if_pos (hs.mpr ⟨hm, hright.mpr hp⟩)]
        exact h.step_flush_extend hr hg hb hn hm.1
      · rw [if_neg fun ht => hp (hf.mp ht).2, if_neg fun ht => hp (hright.mp (hs.mp ht).2)]
        exact h.step_dispatch_extend s.block hr hb hn fun _ _ _ => hnot
  · rw [if_neg fun ht => hm (hf.mp ht).1, if_neg fun ht => hm (hs.mp ht).1]
    refine h.step_dispatch_extend s.block hr hb hn fun hq hl ho hp => hd.resolve_right fun hd => ?_
    simp [ho, Nat.pos_iff_ne_zero.mp hp, hq, hl] at hd

/-- **A line does to a framer what it does to a splitter**, if the depth is right or the line does
not look at it. -/
theorem step_processLine (h : f.Tracks s) (line : Text)
    (hd : f.RightDepth s ∨ s.consults f.indentation line = false) :
    Step f (f.processLine line) s (s.read f.indentation line) := by
  have hn : (Text.trimEnd line).getLast? ≠ some '\n' := Text.getLast?_trimEnd_ne (by decide)
  have hb := @Text.isBlank_trimEnd_of_ne line
  rw [processLine, Splitter.read]
  rw [Splitter.consults] at hd
  dsimp only at hd ⊢
  generalize Text.trimEnd line = l at hn hb hd ⊢
  cases hr : s.region with
  | some style =>
    rw [hr] at hd
    exact h.step_quoted hr hb hn hd
  | none =>
    by_cases hl : l = []
    · subst hl
      exact h.step_dispatch_blank hr
    · simp only [hr, bne_iff_ne.mpr hl, Bool.true_and] at hd
      dsimp only
      rw [if_neg (by simpa using hl), if_neg hl]
      exact h.step_unquoted hr (hb hl) hn hd

/-- A response leaves the draft alone, whatever is being typed. -/
theorem respond_false (h : f.Tracks s) (hi : f.inFlight.isSome = true) :
    (f.respond false).Tracks s := by
  have hd := draft_respond_false hi
  refine h.of_draft (.respond_false hi) ?_ ?_ fun _ => .inr ?_
  · rw [hd]
    rfl
  · rw [hd]
  · rw [hd]

end Tracks

/-! ### Several lines -/

namespace Follows

variable {i : Indentation} {r : List (List Text) × Splitter}

variable [Interpreter.NeverRefuses γ]

theorem processLine (h : f.Follows i r)
    (hd : f.RightDepth r.2 ∨ r.2.consults i line = false) :
    (f.processLine line).Follows i (r.1 ++ (r.2.read i line).1, (r.2.read i line).2) := by
  have hi := h.indentation
  subst hi
  have hstep := h.tracks.step_processLine line hd
  refine ⟨hstep.indentation, hstep.tracks, ?_⟩
  rw [hstep.issued, h.issued, List.map_append]

theorem respond_false (h : f.Follows i r) (hi : f.inFlight.isSome = true) :
    (f.respond false).Follows i r where
  indentation := (indentation_respond_false hi).trans h.indentation
  tracks := h.tracks.respond_false hi
  issued := (issued_respond_false hi).trans h.issued

end Follows

end Framer

end LineFraming
