import LineFraming.Proofs.Framer.Frame

/-!
# What operations are composed of

Typed text takes many ways through the framer, but only one step of each way reaches the
interpreter or the queue: the draft is sent. All else is silent, it changes the draft, the prompt
and the screen. So a relation between the framers before and behind an operation need be shown for
sending a draft and for silent changes only, as long as it can be composed.

Responses are not among these operations. They clear the slot of the command in flight, and
`respond_of_some` takes them apart into a silent change and the release of a command.

## Main definitions

* `Framer.Dispatched` — what is dispatched for a typed line
* `Framer.Composes` — a relation that can be composed, and holds of the steps of all operations

## Main results

* `Framer.conclude_cases` — what a line outside strings leads to
* `Framer.submit_induction`, `Framer.finish_induction` — what dispatching keeps, the user keeps
* `Framer.Composes.submit`, `Framer.Composes.finish` — such a relation holds of what the user does
* `Framer.silent_sendDraft_of_waiting`, `Framer.silent_send_of_error` — what else a request changes
* `Framer.exists_sendDraft`, `Framer.exists_sendNext` — what is done before a command is sent
-/

namespace LineFraming.Framer

variable {γ : Type} {f g : Framer γ}

/-! ### Silent changes -/

/-- The commands are among the deeds that reach the interpreter. -/
theorem commands_eq_sent (f : Framer γ) : f.commands = f.sent.filterMap Deed.command? := by
  rw [commands, sent, List.filterMap_filter]
  refine List.filterMap_congr fun deed _ => ?_
  cases deed <;> rfl

namespace Silent

theorem refl (f : Framer γ) : Silent f f := ⟨rfl, rfl, rfl, rfl⟩

theorem symm (h : Silent f g) : Silent g f :=
  ⟨h.interpreter.symm, h.inFlight.symm, h.queued.symm, h.sent.symm⟩

/-- The draft is of no concern to the interpreter. -/
theorem of_draft (f : Framer γ) (d : Draft) : Silent f { f with draft := d } :=
  ⟨rfl, rfl, rfl, rfl⟩

theorem setDepth (f : Framer γ) (depth : Nat) : Silent f (f.setDepth depth) := of_draft f _

theorem requestMore (f : Framer γ) (depth : Nat) : Silent f (f.requestMore depth) :=
  (((setDepth f depth).trans (silent_ask _ _)).trans (silent_cue _ _)).trans (silent_ask _ _)

theorem setRegion (f : Framer γ) (region : Option TripleQuote) (a : Screen.Action)
    (c : Prompt.Cue) : Silent f (((f.setRegion region).ask a).cue c) :=
  ((of_draft f _).trans (silent_ask _ _)).trans (silent_cue _ _)

/-- Behind a refused command everything starts afresh, but the queue is not touched any more. -/
theorem report (f : Framer γ) (fault : Interpreter.Fault) :
    Silent f (((f.setDepth 0).cue .restarted).report fault) :=
  ((setDepth f 0).trans (silent_cue _ _)).trans (silent_ask _ _)

theorem inputRequested (f : Framer γ) : Silent f f.inputRequested :=
  (silent_cue f _).trans (setDepth _ 1)

theorem continueStatement (f : Framer γ) (lastLine : Text) :
    Silent f (f.continueStatement lastLine) := by
  have hasked := (silent_cue f .moreLines).trans (silent_ask _ .requestLine)
  rw [Framer.continueStatement]
  dsimp only
  split
  · exact (hasked.trans (setDepth _ _)).trans (silent_ask _ _)
  · exact hasked

/-- A reset forgets the slot and the queue, and reaches nobody. -/
theorem reset (f : Framer γ) : Silent { f with inFlight := none, queued := [] } f.reset :=
  (((of_draft _ {}).trans (silent_ask _ _)).trans (silent_ask _ _)).trans (silent_cue _ _)

theorem commands (h : Silent f g) : g.commands = f.commands := by
  rw [commands_eq_sent, commands_eq_sent, h.sent]

variable [Interpreter γ]

theorem isWaiting (h : Silent f g) : g.isWaiting = f.isWaiting := by
  rw [Framer.isWaiting, h.interpreter, Framer.isWaiting]

theorem commandExecuted (f : Framer γ) : Silent f f.commandExecuted := silent_cue f _

/-- Before the next command is released, a response is silent but for the slot it clears. -/
theorem settle (f : Framer γ) (lastLine : Text) (more : Bool) :
    Silent { f with inFlight := none } (f.settle lastLine more) := by
  rw [Framer.settle]
  split
  · exact continueStatement _ _
  · split
    · exact setDepth _ 0
    · exact (commandExecuted _).trans (setDepth _ 0)

end Silent

/-! ### Requests -/

variable [Interpreter γ]

/-- A line for the running program leaves the slot and the queue alone, whether it is taken or
not. -/
theorem silent_sendDraft_of_waiting (hw : f.isWaiting = true) (line : Text) :
    Silent (Framer.execute { f with draft := f.draft.take.2 } f.draft.text).2
      (f.sendDraft line) := by
  rw [sendDraft_of_waiting hw]
  split
  · rename_i g he
    rw [he]
    split
    · exact .refl g
    · exact (Silent.setDepth g 0).trans (silent_cue _ _)
  · rename_i fault g he
    rw [he]
    exact silent_ask _ _

/-- Otherwise the prompt moves, and then the draft is sent or queues. -/
theorem exists_sendDraft (hw : f.isWaiting = false) (line : Text) : ∃ k : Framer γ, Silent f k ∧
    k.draft = f.draft.take.2 ∧ f.sendDraft line =
      if f.inFlight.isSome then { k with queued := f.queued ++ [⟨f.draft.text, line⟩] }
      else k.send ⟨f.draft.text, line⟩ := by
  have hcue := (Silent.of_draft f f.draft.take.2).trans (silent_cue _ .started)
  exact ⟨_, hcue, draft_cue _ _, sendDraft_of_not_waiting hw line⟩

/-- The prompt moves before the next command is sent. -/
theorem exists_sendNext {next : PendingCommand} {rest : List PendingCommand}
    (hq : f.queued = next :: rest) : ∃ k : Framer γ, Silent { f with queued := rest } k ∧
      k.draft = f.draft ∧ f.sendNext = k.send next :=
  ⟨_, silent_cue { f with queued := rest } .started, draft_cue _ _, by rw [sendNext, hq]⟩

/-- What is sent is the last command, whether it is taken or not. -/
theorem commands_send (f : Framer γ) (pending : PendingCommand) :
    (f.send pending).commands = f.commands ++ [pending.command] := by
  cases he : (f.execute pending.command).1 with
  | ok _ => simp [send_of_ok he, commands]
  | error fault => simp [send_of_error he, report, commands]

/-- Sending keeps the queue or empties it. -/
theorem queued_send (f : Framer γ) (pending : PendingCommand) :
    (f.send pending).queued = f.queued ∨ (f.send pending).queued = [] := by
  cases he : (f.execute pending.command).1 with
  | ok _ => exact .inl (by simp [send_of_ok he])
  | error fault => exact .inr (by simp [send_of_error he, report])

/-- Sending changes nothing about the draft but its depth, which a refusal clears. -/
theorem exists_draft_send (f : Framer γ) (pending : PendingCommand) :
    ∃ depth, (f.send pending).draft = { f.draft with depth := depth } := by
  cases he : (f.execute pending.command).1 with
  | ok _ => exact ⟨f.draft.depth, by simp [send_of_ok he]⟩
  | error fault => exact ⟨0, by simp [send_of_error he, report]⟩

/-- A refused command leaves nothing in the queue. -/
theorem silent_send_of_error {pending : PendingCommand} {fault : Interpreter.Fault}
    (he : (f.execute pending.command).1 = .error fault) :
    Silent { (f.execute pending.command).2 with queued := [] } (f.send pending) := by
  rw [send_of_error he]
  exact .report _ fault

/-! ### Typed text -/

/-- What is dispatched for a typed line: the empty line that completes the statement before it, or
the line itself without the blanks at its end. -/
inductive Dispatched (line : Text) : Text → Prop
  | empty : Dispatched line ['\n']
  | trimmed (h : Text.trimEnd line ≠ []) : Dispatched line (Text.trimEnd line)

section Induction

variable {p : Framer γ → Prop}

/-- What a line outside strings leads to: more lines are asked for, a block is kept open, a blank
line closes nothing, or the draft is sent. -/
theorem conclude_cases {line : Text} {kind : LineKind}
    (continued : kind = .continued → p (f.cue .moreLines))
    (indented : ∀ depth, kind = .indented depth → p (f.requestMore depth))
    (nothing : f.draft.isBlank = true → p f)
    (sent : (kind = .blank → ¬(f.draft.isBlank && f.blankClosesNothing)) → p (f.sendDraft line)) :
    p (f.conclude line kind) := by
  cases kind with
  | continued => exact continued rfl
  | indented depth => exact indented depth rfl
  | blank =>
    rw [conclude]
    split
    · rename_i hkept
      exact nothing (Bool.and_eq_true_iff.mp hkept).1
    · rename_i hcloses
      exact sent fun _ => hcloses
  | opensString => exact sent (by simp)
  | closesString => exact sent (by simp)
  | insideString => exact sent (by simp)
  | complete => exact sent (by simp)

/-- What a typed line leads to: it completes the statement, it is dispatched without the blanks at
its end, or the statement in front of it is completed before. -/
theorem processLine_cases {line : Text} (empty : Text.trimEnd line = [] → p (f.dispatch ['\n']))
    (closing : Text.trimEnd line ≠ [] → f.closesBlock (Text.trimEnd line) = true →
      p ((f.dispatch ['\n']).dispatch (Text.trimEnd line)))
    (plain : Text.trimEnd line ≠ [] → p (f.dispatch (Text.trimEnd line))) :
    p (f.processLine line) := by
  rw [processLine]
  split
  · exact empty (List.isEmpty_iff.mp ‹_›)
  · rename_i hne
    have htrim : Text.trimEnd line ≠ [] := fun he => hne (List.isEmpty_iff.mpr he)
    split
    · exact closing htrim ‹_›
    · exact plain htrim

/-- What dispatching keeps, a typed line keeps, in one dispatch or in two. -/
theorem processLine_induction {line : Text}
    (hp : ∀ g l, Dispatched line l → p g → p (g.dispatch l)) (hf : p f) :
    p (f.processLine line) :=
  processLine_cases (fun _ => hp _ _ .empty hf)
    (fun hne _ => hp _ _ (.trimmed hne) (hp _ _ .empty hf)) fun hne => hp _ _ (.trimmed hne) hf

theorem finish_induction (hp : ∀ g, p g → p (g.dispatch ['\n']))
    (ha : ∀ g, p g → p (g.ask .clearInput)) (hf : p f) : p f.finish := by
  rw [finish]
  split
  · exact ha _ (hp _ hf)
  · exact ha _ hf

/-- A text is typed line by line, and its lines hold no line feed. An empty text is typed as an empty
line, though it has no lines. -/
theorem processText_lines {p : List Text → Framer γ → Prop}
    (step : ∀ done g line, '\n' ∉ line → p done g → p (done ++ [line]) (g.processLine line))
    (empty : ∀ g, p [] g → p [] (g.processLine [])) (hf : p [] f) (text : Text) :
    p (Text.lines text) (f.processText text) := by
  have hlines : ∀ (lines done : List Text) (g : Framer γ), (∀ line ∈ lines, '\n' ∉ line) →
      p done g → p (done ++ lines) (lines.foldl processLine g) := by
    intro lines
    induction lines with
    | nil =>
      intro done g _ hg
      rwa [List.append_nil]
    | cons line lines ih =>
      intro done g hn hg
      have hfirst := step done g line (hn line List.mem_cons_self) hg
      have hrest := ih _ _ (fun l hl => hn l (List.mem_cons_of_mem _ hl)) hfirst
      rwa [List.append_assoc] at hrest
  rw [processText]
  split
  · rename_i he
    obtain rfl := List.isEmpty_iff.mp he
    exact empty f hf
  · exact hlines _ [] f (fun _ => Text.not_mem_lines) hf

theorem processText_induction
    (hp : ∀ g line l, '\n' ∉ line → Dispatched line l → p g → p (g.dispatch l)) (hf : p f)
    (text : Text) : p (f.processText text) :=
  processText_lines (p := fun _ g => p g)
    (fun _ _ line hn => processLine_induction fun g l => hp g line l hn)
    (fun _ => processLine_induction fun g l => hp g [] l List.not_mem_nil) hf text

/-- What dispatching and clearing the input keep, submitted text keeps. -/
theorem submit_induction
    (hp : ∀ g line l, '\n' ∉ line → Dispatched line l → p g → p (g.dispatch l))
    (ha : ∀ g, p g → p (g.ask .clearInput)) (hf : p f) (text : Text) (execAnyway : Bool) :
    p (f.submit text execAnyway) := by
  have htext : p (f.processText text) := processText_induction hp hf text
  rw [submit_eq]
  split
  · exact finish_induction (fun g => hp g [] _ List.not_mem_nil .empty) ha htext
  · exact htext

end Induction

/-! ### Composition -/

/-- A relation that can be composed and holds of silent changes and of sending a draft. -/
structure Composes (R : Framer γ → Framer γ → Prop) : Prop where
  silent {f g : Framer γ} : Silent f g → R f g
  trans {f g h : Framer γ} : R f g → R g h → R f h
  sendDraft (f : Framer γ) (line : Text) : R f (f.sendDraft line)

namespace Composes

variable {R : Framer γ → Framer γ → Prop}

theorem conclude (hR : Composes R) (f : Framer γ) (line : Text) (kind : LineKind) :
    R f (f.conclude line kind) := by
  refine conclude_cases ?continued ?indented ?nothing ?sent
  case continued => exact fun _ => hR.silent (silent_cue f .moreLines)
  case indented => exact fun depth _ => hR.silent (.requestMore f depth)
  case nothing => exact fun _ => hR.silent (.refl f)
  case sent => exact fun _ => hR.sendDraft f line

theorem dispatch (hR : Composes R) (f : Framer γ) (line : Text) : R f (f.dispatch line) := by
  have hput : R f { f with draft := f.draft.append line } := hR.silent (.of_draft f _)
  refine hR.trans hput ?_
  rw [Framer.dispatch]
  dsimp only
  split
  · exact hR.sendDraft _ line
  · split
    · exact hR.silent (.refl _)
    · exact hR.silent (.setRegion _ _ _ _)
    · exact hR.trans (hR.silent (.setRegion _ _ _ _)) (hR.conclude _ line _)
    · exact hR.conclude _ line _

theorem processLine (hR : Composes R) (f : Framer γ) (line : Text) : R f (f.processLine line) :=
  processLine_induction (p := R f) (fun g l _ hg => hR.trans hg (hR.dispatch g l))
    (hR.silent (.refl f))

theorem finish (hR : Composes R) (f : Framer γ) : R f f.finish :=
  finish_induction (p := R f) (fun g hg => hR.trans hg (hR.dispatch g _))
    (fun g hg => hR.trans hg (hR.silent (silent_ask g _))) (hR.silent (.refl f))

theorem submit (hR : Composes R) (f : Framer γ) (text : Text) (execAnyway : Bool) :
    R f (f.submit text execAnyway) :=
  submit_induction (p := R f) (fun g _ l _ _ hg => hR.trans hg (hR.dispatch g l))
    (fun g hg => hR.trans hg (hR.silent (silent_ask g _))) (hR.silent (.refl f)) text execAnyway

end Composes

end LineFraming.Framer
