import LineFraming.Json.Reader
import LineFraming.Proofs.Json.Token

/-!
# Reading what was written

The text of a value is read back as that value. Reading has two stages, the cut into tokens and the
machine with its stack, and between them stand the tokens of the value, `Value.tokens`. Writing a
value and cutting it gives them; running the machine over them, wherever it waits for a value, puts
exactly that value there.

Not every value can be read back. Numbers have a bound, and so has the nesting of arrays and
objects, which the machine checks against what is open already. `Readable n` says that a value
keeps to these bounds where `n` more arrays and objects may be opened. It is exact: whatever is
read is readable, so a value that has been read can be written and read any number of times.

## Main definitions

* `Json.Value.tokens` — the tokens of a value
* `Json.Readable` — the values that can be read
* `Json.CutInto` — a text that is cut into certain tokens, whatever comes behind it
* `Json.State.Sound` — all that the machine holds can be read

## Main results

* `Json.Readable.cutInto_render` — a written value is cut into its tokens
* `Json.Readable.foldlM_tokens` — the machine puts the value together again
* `Json.Readable.read_render` — a written value is read back
* `Json.readable_of_read`, `Json.read_render_of_read` — whatever is read is readable, and is read
  back
-/

namespace LineFraming.Json

namespace Value

mutual

/-- The tokens of a value. -/
def tokens : Value → List Token
  | array elements => .openArray :: (elementTokens elements ++ [.closeArray])
  | object members => .openObject :: (memberTokens members ++ [.closeObject])
  | null => [.scalar null]
  | bool b => [.scalar (bool b)]
  | natural n => [.scalar (natural n)]
  | number written => [.scalar (number written)]
  | string t => [.scalar (string t)]

/-- The tokens of an array's elements, with commas between them. -/
def elementTokens : List Value → List Token
  | [] => []
  | [v] => tokens v
  | v :: w :: rest => tokens v ++ .comma :: elementTokens (w :: rest)

/-- The tokens of an object's members, with commas between them. -/
def memberTokens : List (Text × Value) → List Token
  | [] => []
  | [(name, v)] => .scalar (string name) :: .colon :: tokens v
  | (name, v) :: m :: rest =>
    .scalar (string name) :: .colon :: (tokens v ++ .comma :: memberTokens (m :: rest))

end

end Value

/-- Values that can be read where `n` more arrays and objects may be opened. -/
inductive Readable : Nat → Value → Prop
  | null {n} : Readable n .null
  | bool {n} (b : Bool) : Readable n (.bool b)
  | natural {n m} (h : m < UInt64.size) : Readable n (.natural m)
  | number {n w} (h : number? w = some (.number w)) : Readable n (.number w)
  | string {n} (t : Text) : Readable n (.string t)
  | array {n elements} (h : ∀ v ∈ elements, Readable n v) : Readable (n + 1) (.array elements)
  | object {n members} (h : ∀ m ∈ members, Readable n m.2) : Readable (n + 1) (.object members)

/-! ### Cutting a written value -/

/-- The text is cut into these tokens, in front of any text that does not go on with the last. -/
def CutInto (t : Text) (ks : List Token) : Prop :=
  ∀ rest, Apart rest → tokens? (t ++ rest) = (tokens? rest).map (ks ++ ·)

/-- Punctuation is a token on its own, whatever follows it. -/
def Punctuates (c : Char) (k : Token) : Prop := ∀ rest, token? (c :: rest) = some (k, rest)

namespace CutInto

variable {s t : Text} {ks ls : List Token} {c : Char} {k : Token}

theorem token (h : ∀ rest, Apart rest → token? (t ++ rest) = some (k, rest)) :
    CutInto t [k] :=
  fun rest hr => tokens?_of_token? (h rest hr)

theorem punctuation (h : Punctuates c k) : CutInto [c] [k] := .token fun rest _ => h rest

theorem cons (h : Punctuates c k) (ht : CutInto t ks) : CutInto (c :: t) (k :: ks) := by
  intro rest hr
  rw [List.cons_append, tokens?_of_token? (h _), ht rest hr, Option.map_map]
  rfl

/-- A text is cut on its own in front of punctuation. -/
theorem append (hs : CutInto s ks) (hc : isNumberChar c = false ∧ c.isAlpha = false)
    (ht : CutInto (c :: t) ls) : CutInto (s ++ c :: t) (ks ++ ls) := by
  intro rest hr
  have hapart : Apart (c :: t ++ rest) := apart_cons hc
  rw [List.append_assoc, hs _ hapart, ht rest hr, Option.map_map]
  simp [Function.comp_def]

/-- Elements that are cut on their own are cut at the commas between them. -/
theorem elements {vs : List Value} (h : ∀ v ∈ vs, CutInto v.render v.tokens) :
    CutInto (Value.renderElements vs) (Value.elementTokens vs) := by
  induction vs with
  | nil => exact fun rest _ => by simp [Value.renderElements, Value.elementTokens]
  | cons v vs ih =>
    have hv := h v List.mem_cons_self
    have hvs := ih fun w hw => h w (List.mem_cons_of_mem v hw)
    cases vs with
    | nil => exact hv
    | cons w vs => exact hv.append (by decide) (hvs.cons fun _ => rfl)

theorem members {ms : List (Text × Value)} (h : ∀ m ∈ ms, CutInto m.2.render m.2.tokens) :
    CutInto (Value.renderMembers ms) (Value.memberTokens ms) := by
  induction ms with
  | nil => exact fun rest _ => by simp [Value.renderMembers, Value.memberTokens]
  | cons m ms ih =>
    obtain ⟨name, v⟩ := m
    have hname : CutInto (quote name) [.scalar (.string name)] :=
      .token fun rest _ => token?_quote name rest
    have hv : CutInto v.render v.tokens := h (name, v) List.mem_cons_self
    have hms := ih fun m hm => h m (List.mem_cons_of_mem _ hm)
    cases ms with
    | nil => exact hname.append (by decide) (hv.cons fun _ => rfl)
    | cons m ms =>
      have hrest := hv.append (by decide) (hms.cons (c := ',') fun _ => rfl)
      exact hname.append (by decide) (hrest.cons fun _ => rfl)

end CutInto

namespace Readable

variable {n : Nat} {v : Value}

/-- **A written value is cut into its tokens.** -/
theorem cutInto_render (h : Readable n v) : CutInto v.render v.tokens := by
  induction h with
  | null => exact .token fun _ => token?_word rfl
  | bool b =>
    cases b with
    | true => exact .token fun _ => token?_word rfl
    | false => exact .token fun _ => token?_word rfl
  | natural hm => exact .token fun _ => token?_number (number?_decimal hm)
  | number hw => exact .token fun _ => token?_number hw
  | string t => exact .token fun rest _ => token?_quote t rest
  | array _ ih =>
    have hclose : CutInto [']'] [.closeArray] := .punctuation fun _ => rfl
    exact ((CutInto.elements ih).append (by decide) hclose).cons fun _ => rfl
  | object _ ih =>
    have hclose : CutInto ['}'] [.closeObject] := .punctuation fun _ => rfl
    exact ((CutInto.members ih).append (by decide) hclose).cons fun _ => rfl

/-! ### Running the machine -/

open State

/-- The machine takes elements that it takes on their own. -/
theorem foldlM_elementTokens (outer : List Frame) {vs : List Value}
    (h : ∀ v ∈ vs, ∀ (frames : List Frame) (closable : Bool), frames.length = outer.length + 1 →
      v.tokens.foldlM step (.value frames closable) = put v frames)
    (hne : vs ≠ []) (before : List Value) (closable : Bool) :
    (Value.elementTokens vs).foldlM step (.value (.array before :: outer) closable) =
      some (.next (.array (vs.reverse ++ before) :: outer)) := by
  induction vs generalizing before closable with
  | nil => exact absurd rfl hne
  | cons v vs ih =>
    have hv := h v List.mem_cons_self (.array before :: outer) closable rfl
    cases vs with
    | nil => exact hv
    | cons w vs =>
      have hvs := ih (fun w hw => h w (List.mem_cons_of_mem v hw)) (by simp) (v :: before) false
      rw [Value.elementTokens, List.foldlM_append, hv]
      simpa [put, step] using hvs

theorem foldlM_memberTokens (outer : List Frame) {ms : List (Text × Value)}
    (h : ∀ m ∈ ms, ∀ (frames : List Frame) (closable : Bool), frames.length = outer.length + 1 →
      m.2.tokens.foldlM step (.value frames closable) = put m.2 frames)
    (hne : ms ≠ []) (before : List (Text × Value)) (closable : Bool) :
    (Value.memberTokens ms).foldlM step (.key outer before closable) =
      some (.next (.object (ms.reverse ++ before) :: outer)) := by
  induction ms generalizing before closable with
  | nil => exact absurd rfl hne
  | cons m ms ih =>
    obtain ⟨name, v⟩ := m
    have hv := h (name, v) List.mem_cons_self (.member before name :: outer) false rfl
    cases ms with
    | nil =>
      rw [Value.memberTokens]
      simpa [step, put] using hv
    | cons m ms =>
      have hms := ih (fun m hm => h m (List.mem_cons_of_mem _ hm)) (by simp)
        ((name, v) :: before) false
      rw [Value.memberTokens]
      simp only [List.foldlM_cons, step, Option.bind_eq_bind, Option.bind_some,
        List.foldlM_append, hv]
      simpa [put, step] using hms

/-- **The machine puts a value together again,** wherever it waits for one. -/
theorem foldlM_tokens (h : Readable n v) {frames : List Frame} (hn : frames.length + n ≤ maxDepth)
    (closable : Bool) : v.tokens.foldlM step (.value frames closable) = put v frames := by
  induction h generalizing frames closable with
  | null => simp [Value.tokens, step]
  | bool b => simp [Value.tokens, step]
  | natural hm => simp [Value.tokens, step]
  | number hw => simp [Value.tokens, step]
  | string t => simp [Value.tokens, step]
  | @array n vs _ ih =>
    have henter : frames.length < maxDepth := by omega
    by_cases hne : vs = []
    · subst hne
      simp [Value.tokens, Value.elementTokens, step, enter, henter]
    · have helements := foldlM_elementTokens frames
        (fun v hv outer closable ho => ih v hv (by omega) closable) hne [] true
      simp [Value.tokens, step, enter, henter, helements]
  | @object n ms _ ih =>
    have henter : frames.length < maxDepth := by omega
    by_cases hne : ms = []
    · subst hne
      simp [Value.tokens, Value.memberTokens, step, enter, henter]
    · have hmembers := foldlM_memberTokens frames
        (fun m hm outer closable ho => ih m hm (by omega) closable) hne [] true
      simp [Value.tokens, step, enter, henter, hmembers]

/-- **A written value is read back,** also with blanks behind it. -/
theorem read_render (h : Readable maxDepth v) {t : Text} (ht : t.all isSeparator = true) :
    read (v.render ++ t) = some v := by
  have hapart : Apart t := by
    intro c hc
    have hblank := List.all_eq_true.mp ht c (List.mem_of_head? hc)
    simp only [isSeparator, Bool.or_eq_true, beq_iff_eq] at hblank
    rcases hblank with ((rfl | rfl) | rfl) | rfl <;> decide
  have htokens : tokens? (v.render ++ t) = some v.tokens := by
    rw [h.cutInto_render t hapart, tokens?_of_isSeparator ht, Option.map_some, List.append_nil]
  have hrun : v.tokens.foldlM step (.value [] false) = some (.done v) :=
    h.foldlM_tokens (by simp) false
  simp [read, htokens, hrun, result?]

theorem read_render_self (h : Readable maxDepth v) : read v.render = some v := by
  have hblank : List.all ([] : Text) isSeparator = true := rfl
  have hread := h.read_render hblank
  rwa [List.append_nil] at hread

/-! ### The characters of a written value -/

theorem mem_renderElements {vs : List Value} {c : Char} (h : c ∈ Value.renderElements vs) :
    c = ',' ∨ ∃ v ∈ vs, c ∈ v.render := by
  induction vs with
  | nil => cases h
  | cons v vs ih =>
    cases vs with
    | nil => exact .inr ⟨v, List.mem_cons_self, h⟩
    | cons w vs =>
      rw [Value.renderElements, List.mem_append, List.mem_cons] at h
      rcases h with h | rfl | h
      · exact .inr ⟨v, List.mem_cons_self, h⟩
      · exact .inl rfl
      · exact (ih h).imp_right fun ⟨w, hw, hc⟩ => ⟨w, List.mem_cons_of_mem v hw, hc⟩

theorem mem_renderMembers {ms : List (Text × Value)} {c : Char} (h : c ∈ Value.renderMembers ms) :
    c = ',' ∨ c = ':' ∨ ∃ m ∈ ms, c ∈ quote m.1 ∨ c ∈ m.2.render := by
  induction ms with
  | nil => cases h
  | cons m ms ih =>
    obtain ⟨name, v⟩ := m
    cases ms with
    | nil =>
      rw [Value.renderMembers, List.mem_append, List.mem_cons] at h
      rcases h with h | rfl | h
      · exact .inr (.inr ⟨_, List.mem_cons_self, .inl h⟩)
      · exact .inr (.inl rfl)
      · exact .inr (.inr ⟨_, List.mem_cons_self, .inr h⟩)
    | cons m ms =>
      rw [Value.renderMembers, List.mem_append, List.mem_cons, List.mem_append, List.mem_cons] at h
      rcases h with h | rfl | h | rfl | h
      · exact .inr (.inr ⟨_, List.mem_cons_self, .inl h⟩)
      · exact .inr (.inl rfl)
      · exact .inr (.inr ⟨_, List.mem_cons_self, .inr h⟩)
      · exact .inl rfl
      · exact (ih h).imp_right (Or.imp_right fun ⟨m, hm, hc⟩ =>
          ⟨m, List.mem_cons_of_mem _ hm, hc⟩)

/-- **A written value holds no control,** so it stays on one line. -/
theorem le_toNat_of_mem_render (h : Readable n v) {c : Char} (hc : c ∈ v.render) :
    0x20 ≤ c.toNat := by
  have hword {w : Text} (hw : w.all (0x20 ≤ ·.toNat) = true) (hm : c ∈ w) : 0x20 ≤ c.toNat := by
    simpa using List.all_eq_true.mp hw c hm
  induction h with
  | null => exact hword (by decide) hc
  | bool b =>
    cases b with
    | true => exact hword (by decide) hc
    | false => exact hword (by decide) hc
  | natural hm => exact le_toNat_of_number? (number?_decimal hm) hc
  | number hw => exact le_toNat_of_number? hw hc
  | string t => exact le_toNat_of_mem_quote hc
  | array _ ih =>
    rw [Value.render, List.mem_cons, List.mem_append, List.mem_singleton] at hc
    rcases hc with rfl | hc | rfl
    · decide
    · rcases mem_renderElements hc with rfl | ⟨v, hv, hc⟩
      · decide
      · exact ih v hv hc
    · decide
  | object _ ih =>
    rw [Value.render, List.mem_cons, List.mem_append, List.mem_singleton] at hc
    rcases hc with rfl | hc | rfl
    · decide
    · rcases mem_renderMembers hc with rfl | rfl | ⟨m, hm, hc | hc⟩
      · decide
      · decide
      · exact le_toNat_of_mem_quote hc
      · exact ih m hm hc
    · decide

end Readable

/-! ### Whatever is read -/

/-- What an open array or object holds can be read where `n` more may be opened. -/
def Frame.Holds (n : Nat) : Frame → Prop
  | .array elements => ∀ v ∈ elements, Readable n v
  | .object members | .member members _ => ∀ m ∈ members, Readable n m.2

/-- What is open holds what can be read, and there is no more open than is allowed. -/
def Nested : List Frame → Prop
  | [] => True
  | frame :: outer =>
    outer.length < maxDepth ∧ frame.Holds (maxDepth - (outer.length + 1)) ∧ Nested outer

/-- A scalar can be read, wherever it stands. -/
def Token.Sound : Token → Prop
  | .scalar v => ∀ n, Readable n v
  | _ => True

namespace State

/-- All that the machine holds can be read. -/
def Sound : State → Prop
  | value frames _ | colon frames | next frames => Nested frames
  | key outer members _ => Nested (.object members :: outer)
  | done v => Readable maxDepth v

theorem sound_put {v : Value} {frames : List Frame} {s : State} (hf : Nested frames)
    (hv : Readable (maxDepth - frames.length) v) (h : put v frames = some s) : s.Sound := by
  cases frames with
  | nil =>
    rw [← Option.some.inj h]
    exact hv
  | cons frame outer =>
    obtain ⟨ho, hframe, houter⟩ := hf
    cases frame with
    | object members => cases h
    | array elements =>
      rw [← Option.some.inj h]
      exact ⟨ho, List.forall_mem_cons.mpr ⟨hv, hframe⟩, houter⟩
    | member members name =>
      rw [← Option.some.inj h]
      exact ⟨ho, List.forall_mem_cons.mpr ⟨hv, hframe⟩, houter⟩

/-- One more array or object is opened, which is empty so far. -/
theorem sound_enter (frame : Frame) {outer : List Frame} {s t : State}
    (hs : Nested (frame :: outer) → s.Sound) (hf : frame.Holds (maxDepth - (outer.length + 1)))
    (ho : Nested outer) (h : s.enter outer = some t) : t.Sound := by
  rw [enter] at h
  split at h
  · rename_i hlength
    rw [← Option.some.inj h]
    exact hs ⟨hlength, hf, ho⟩
  · cases h

/-- An array is complete, and the number of those that may be opened is one higher again. -/
theorem sound_put_array {elements : List Value} {outer : List Frame} {s : State}
    (hf : Nested (.array elements :: outer)) (h : put (.array elements.reverse) outer = some s) :
    s.Sound := by
  obtain ⟨hlength, hholds, houter⟩ := hf
  refine sound_put houter ?_ h
  rw [show maxDepth - outer.length = maxDepth - (outer.length + 1) + 1 by omega]
  exact .array fun v hv => hholds v (List.mem_reverse.mp hv)

theorem sound_put_object {members : List (Text × Value)} {outer : List Frame} {s : State}
    (hf : Nested (.object members :: outer)) (h : put (.object members.reverse) outer = some s) :
    s.Sound := by
  obtain ⟨hlength, hholds, houter⟩ := hf
  refine sound_put houter ?_ h
  rw [show maxDepth - outer.length = maxDepth - (outer.length + 1) + 1 by omega]
  exact .object fun m hm => hholds m (List.mem_reverse.mp hm)

/-- **A step of the machine keeps all that it holds readable.** The cases are those of the step. -/
theorem sound_step {s t : State} {k : Token} (hs : s.Sound) (hk : k.Sound)
    (h : s.step k = some t) : t.Sound := by
  unfold step at h
  split at h
  -- A value is waited for: an array, an object or a scalar comes, or the array ends.
  · exact sound_enter (.array []) id (fun _ hm => nomatch hm) hs h
  · exact sound_enter (.object []) id (fun _ hm => nomatch hm) hs h
  · exact sound_put hs (hk _) h
  · exact sound_put_array hs h
  -- A name is waited for: it comes, or the object ends.
  · rw [← Option.some.inj h]
    exact hs
  · exact sound_put_object hs h
  -- The colon behind a name comes.
  · rw [← Option.some.inj h]
    exact hs
  -- A value is complete: a comma comes, or the end of what is open.
  · rw [← Option.some.inj h]
    exact hs
  · exact sound_put_array hs h
  · rw [← Option.some.inj h]
    exact hs
  · exact sound_put_object hs h
  · cases h

end State

/-- A scalar that is cut off can be read. -/
theorem sound_token? {t rest : Text} {k : Token} (h : token? t = some (k, rest)) : k.Sound := by
  unfold token? at h
  split at h
  · cases h
  · split_ifs at h
    iterate 6
      rw [← (Prod.mk.inj (Option.some.inj h)).1]
      trivial
    all_goals
      obtain ⟨r, hr, he⟩ := Option.map_eq_some_iff.mp h
      rw [← (Prod.mk.inj he).1]
    · exact fun _ => .string r.1
    · obtain ⟨-, ⟨n, rfl, hn⟩ | rfl⟩ := number?_cases hr
      · exact fun _ => .natural hn
      · exact fun _ => .number hr
    · obtain ⟨-, rfl | ⟨b, rfl⟩⟩ := word?_cases hr
      · exact fun _ => .null
      · exact fun _ => .bool b

theorem sound_tokens? {t : Text} {ks : List Token} (h : tokens? t = some ks) :
    ∀ k ∈ ks, k.Sound := by
  fun_induction tokens? t generalizing ks with
  | case1 =>
    rw [← Option.some.inj h]
    exact fun _ hm => nomatch hm
  | case2 c t _ ih => exact ih h
  | case3 => cases h
  | case4 c t _ k rest hk ih =>
    obtain ⟨more, hmore, rfl⟩ := Option.map_eq_some_iff.mp h
    exact List.forall_mem_cons.mpr ⟨sound_token? hk, ih hmore⟩

/-- **Whatever is read is readable,** so it can be written and read back. -/
theorem readable_of_read {t : Text} {v : Value} (h : read t = some v) : Readable maxDepth v := by
  have hrun : ∀ (ks : List Token) (s last : State), (∀ k ∈ ks, k.Sound) → s.Sound →
      ks.foldlM State.step s = some last → last.Sound := by
    intro ks
    induction ks with
    | nil =>
      intro s last _ hs hl
      rw [← Option.some.inj hl]
      exact hs
    | cons k ks ih =>
      intro s last hks hs hl
      rw [List.foldlM_cons] at hl
      obtain ⟨next, hnext, hl⟩ := Option.bind_eq_some_iff.mp hl
      have hk := hks k List.mem_cons_self
      exact ih next last (fun k hm => hks k (List.mem_cons_of_mem _ hm))
        (State.sound_step hs hk hnext) hl
  rw [read] at h
  obtain ⟨ks, hks, h⟩ := Option.bind_eq_some_iff.mp h
  obtain ⟨last, hlast, h⟩ := Option.bind_eq_some_iff.mp h
  have hsound := hrun ks (.value [] false) last (sound_tokens? hks) trivial hlast
  cases last with
  | done w =>
    rw [← Option.some.inj h]
    exact hsound
  | _ => cases h

/-- A value that has been read is read again from what is written of it, however it was spelled. -/
theorem read_render_of_read {t : Text} {v : Value} (h : read t = some v) :
    read v.render = some v :=
  (readable_of_read h).read_render_self

end LineFraming.Json
