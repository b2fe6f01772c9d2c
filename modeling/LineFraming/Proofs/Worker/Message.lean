import LineFraming.Proofs.Json.RoundTrip
import LineFraming.Worker.Message

/-!
# Messages cross the wire unchanged

What one side writes, the other side reads as the same message. Both directions rest on one fact: a
message is an object of scalars, and such an object is read back from its text. The rest concerns
the names. A message is told by the name in its first member, and each of its fields by the name of
the field.

Numbers have 64 bits. A message with a greater number would be written, but not read as a message;
`Fits` excludes it. No such number comes in from outside either, as whatever is read keeps to the
bound.

## Main definitions

* `Worker.Request.Fits`, `Worker.Report.Fits` — messages whose numbers have 64 bits
* `Worker.Request.ofJson?` — how the worker reads a request

## Main results

* `Worker.Request.line_faithful` — the line of a request is a single line, it is read back as that
  request, and no other request has it
* `Worker.Report.fits_of_read` — the number of a report that was read has 64 bits
* `Worker.Report.decoding_undoes_encoding` — the line of a report is read back as that report,
  whatever blanks follow it
-/

namespace LineFraming.Worker

/-- A message of scalars can be read. -/
theorem readable_message {n : Nat} {fields : List (Text × Json.Value)} (type : Text)
    (h : ∀ m ∈ fields, Json.Readable n m.2) : Json.Readable (n + 1) (message type fields) :=
  .object (List.forall_mem_cons.mpr ⟨.string type, h⟩)

/-! ### Requests -/

namespace Request

/-- The number of a command has 64 bits. -/
def Fits : Request → Prop
  | execute id _ => id < UInt64.size
  | _ => True

/-- The request with a name and fields. -/
def ofFields? (type : Text) (fields : Fields) : Option Request :=
  if type = "execute".toList then
    match fields.take? ["id".toList, "code".toList] with
    | some [.natural id, .string code] => some (execute id code)
    | _ => none
  else if type = "stdin".toList then
    match fields.take? ["text".toList] with
    | some [.string text] => some (stdin text)
    | _ => none
  else if type = "interrupt".toList then (fields.take? []).map fun _ => interrupt
  else none

/-- The request of a value, as the worker reads it. -/
def ofJson? : Json.Value → Option Request := message? ofFields?

variable {r : Request}

theorem ofJson?_toJson (r : Request) : ofJson? r.toJson = some r := by
  cases r with
  | execute id code => rfl
  | stdin text => rfl
  | interrupt => rfl

theorem readable_toJson (h : r.Fits) : Json.Readable Json.maxDepth r.toJson := by
  cases r with
  | execute id code =>
    refine readable_message _ ?_
    rw [List.forall_mem_cons, List.forall_mem_singleton]
    exact ⟨.natural h, .string code⟩
  | stdin text =>
    refine readable_message _ ?_
    rw [List.forall_mem_singleton]
    exact .string text
  | interrupt => exact readable_message _ (List.forall_mem_nil _)

theorem read_line (h : r.Fits) : Json.read r.line = some r.toJson :=
  (readable_toJson h).read_render (by decide)

/-- A line is cut off as a whole, whatever is written behind it. -/
theorem lines_line_append (h : r.Fits) (rest : Text) :
    Text.lines (r.line ++ rest) = r.toJson.render :: Text.lines rest := by
  have hcontrol : ∀ c ∈ r.toJson.render, 0x20 ≤ c.toNat := fun c =>
    (readable_toJson h).le_toNat_of_mem_render
  have hfeed : '\n' ∉ r.toJson.render := fun hc => absurd (hcontrol _ hc) (by decide)
  have hreturn : r.toJson.render.getLast? ≠ some '\r' := fun hc =>
    absurd (hcontrol _ (List.mem_of_getLast? hc)) (by decide)
  rw [line, Text.lines_append (Text.ended_concat _), Text.lines_terminated hfeed hreturn]
  rfl

theorem eq_of_line_eq {s : Request} (hs : s.Fits) (h : r.Fits) (hline : s.line = r.line) :
    s = r := by
  have hjson : s.toJson = r.toJson := by
    apply Option.some.inj
    rw [← read_line hs, ← read_line h, hline]
  apply Option.some.inj
  rw [← ofJson?_toJson s, ← ofJson?_toJson r, hjson]

/-- **The line of a request loses nothing.** Its only line feed is its last character, and no other
character is a control, so it is cut off as one line, whatever is written behind it. It is read as
exactly one object, which is the request's, and from which the worker gets the request again. No two
requests have the same line. -/
theorem line_faithful (r : Request) (h : r.Fits) :
    ((∃ body, r.line = body ++ ['\n'] ∧ ∀ c ∈ body, 0x20 ≤ c.toNat) ∧
      ∀ rest, Text.lines (r.line ++ rest) = r.toJson.render :: Text.lines rest) ∧
    (Json.read r.line = some r.toJson ∧ ofJson? r.toJson = some r) ∧
    ∀ s : Request, s.Fits → s.line = r.line → s = r :=
  ⟨⟨⟨r.toJson.render, rfl, fun _ => (readable_toJson h).le_toNat_of_mem_render⟩,
    lines_line_append h⟩, ⟨read_line h, ofJson?_toJson r⟩, fun _ hs => eq_of_line_eq hs h⟩

/-- A command with all that has to be escaped, and with the greatest number. -/
def hostile : Request :=
  execute (UInt64.size - 1) ['\x22', '}', '\\', '\n', '\r', '\x00', '\x1b', '\x7f', '\u2028', 'λ', '𝔘']

/-- It is read as the command that it is, and cut off from what follows. -/
theorem line_faithful_hostile :
    hostile.Fits ∧ (Json.read hostile.line).bind ofJson? = some hostile ∧
      Text.lines (hostile.line ++ interrupt.line) =
        [hostile.toJson.render, interrupt.toJson.render] := by
  have hfits : hostile.Fits := by
    show UInt64.size - 1 < UInt64.size
    decide
  obtain ⟨⟨-, hcut⟩, ⟨hread, hback⟩, -⟩ := line_faithful hostile hfits
  have hinterrupt := lines_line_append (r := interrupt) trivial []
  rw [List.append_nil] at hinterrupt
  refine ⟨hfits, ?_, ?_⟩
  · rw [hread, Option.bind_some, hback]
  · rw [hcut, hinterrupt]
    rfl

end Request

/-! ### Reports -/

theorem mem_of_member? {name : Text} {members : List (Text × Json.Value)} {v : Json.Value}
    (h : Json.Value.member? name members = some v) : v ∈ members.map Prod.snd := by
  rw [Json.Value.member?] at h
  split at h
  · rename_i m hm
    have hmem : m ∈ members.filter fun m => m.1 == name := by simp [hm]
    rw [← Option.some.inj h]
    exact List.mem_map_of_mem (List.mem_of_mem_filter hmem)
  · cases h

/-- The values of the fields. -/
def Fields.values : Fields → List Json.Value
  | named members => members.map Prod.snd
  | ordered values => values

/-- Only values of the fields are taken. -/
theorem Fields.mem_values_of_take? {names : List Text} {fields : Fields} {vs : List Json.Value}
    (h : fields.take? names = some vs) : ∀ v ∈ vs, v ∈ fields.values := by
  cases fields with
  | named members =>
    induction names generalizing vs with
    | nil =>
      rw [← Option.some.inj h]
      exact List.forall_mem_nil _
    | cons name names ih =>
      simp only [take?, List.mapM_cons, Option.bind_eq_bind, Option.bind_eq_some_iff] at h
      obtain ⟨v, hv, more, hmore, h⟩ := h
      rw [← Option.some.inj h, List.forall_mem_cons]
      exact ⟨mem_of_member? hv, ih hmore⟩
  | ordered values =>
    rw [take?] at h
    split at h
    · rw [← Option.some.inj h]
      exact fun _ hv => hv
    · cases h

/-- A message that was read has fields that can be read. -/
theorem exists_fields_of_message? {α : Type} {ofFields? : Text → Fields → Option α} {n : Nat}
    {v : Json.Value} {a : α} (hv : Json.Readable n v) (h : message? ofFields? v = some a) :
    ∃ type fields, ofFields? type fields = some a ∧
      ∀ w ∈ fields.values, Json.Readable (n - 1) w := by
  unfold message? at h
  split at h
  · split at h
    · refine ⟨_, _, h, ?_⟩
      cases hv with
      | object hmembers => exact List.forall_mem_map.mpr hmembers
    · cases h
  · refine ⟨_, _, h, ?_⟩
    cases hv with
    | array helements => exact fun w hw => helements w (List.mem_cons_of_mem _ hw)
  · cases h

namespace Report

/-- The number of a command has 64 bits. -/
def Fits : Report → Prop
  | result id _ => id < UInt64.size
  | _ => True

variable {e : Report}

theorem ofJson?_toJson (e : Report) : ofJson? e.toJson = some e := by
  cases e with
  | ready => rfl
  | result id more => rfl
  | commandExecuted => rfl
  | inputRequested => rfl
  | prompt mode => cases mode <;> rfl
  | output stream text => cases stream <;> rfl

theorem readable_toJson (h : e.Fits) : Json.Readable Json.maxDepth e.toJson := by
  cases e with
  | ready => exact readable_message _ (List.forall_mem_nil _)
  | result id more =>
    refine readable_message _ ?_
    rw [List.forall_mem_cons, List.forall_mem_singleton]
    exact ⟨.natural h, .bool more⟩
  | commandExecuted => exact readable_message _ (List.forall_mem_nil _)
  | inputRequested => exact readable_message _ (List.forall_mem_nil _)
  | prompt mode =>
    refine readable_message _ ?_
    rw [List.forall_mem_singleton]
    exact .string mode.name
  | output stream text =>
    refine readable_message _ ?_
    rw [List.forall_mem_cons, List.forall_mem_singleton]
    exact ⟨.string _, .string text⟩

/-- The line of a report ends in a brace, so trimming takes no more away than the blanks behind
it. -/
theorem trimEnd_line_append (e : Report) {blanks : Text} (hb : Text.isBlank blanks = true) :
    Text.trimEnd (e.line ++ blanks) = e.line := by
  obtain ⟨body, hbody⟩ : ∃ body, e.line = body ++ ['}'] := by
    have hobject (members : List (Text × Json.Value)) :
        ∃ body, (Json.Value.object members).render = body ++ ['}'] :=
      ⟨'{' :: Json.Value.renderMembers members, rfl⟩
    cases e <;> exact hobject _
  rw [hbody, Text.trimEnd_append_of_isBlank _ hb, Text.trimEnd_eq_rdropWhile,
    List.rdropWhile_concat_neg]
  decide

theorem read_line_append (h : e.Fits) {blanks : Text} (hb : Text.isBlank blanks = true) :
    read (e.line ++ blanks) = some e := by
  have hread : Json.read e.line = some e.toJson := (readable_toJson h).read_render_self
  rw [read, trimEnd_line_append e hb, hread, Option.bind_some, ofJson?_toJson]

/-! ### What was read -/

theorem take?_of_result {type : Text} {fields : Fields} {id : Nat} {more : Bool}
    (h : ofFields? type fields = some (result id more)) :
    fields.take? ["id".toList, "more".toList] = some [.natural id, .bool more] := by
  unfold ofFields? at h
  split_ifs at h
  · simp at h
  · simp at h
  · simp at h
  · split at h
    · cases h
      assumption
    · cases h
  · split at h
    · obtain ⟨_, -, he⟩ := Option.map_eq_some_iff.mp h
      cases he
    · cases h
  · split at h
    · obtain ⟨_, -, he⟩ := Option.map_eq_some_iff.mp h
      cases he
    · cases h

/-- A report among whose fields there are only values that can be read. -/
theorem fits_of_ofFields? {n : Nat} {type : Text} {fields : Fields}
    (hf : ∀ v ∈ fields.values, Json.Readable n v) (h : ofFields? type fields = some e) :
    e.Fits := by
  cases e with
  | result id more =>
    have hid := fields.mem_values_of_take? (take?_of_result h) _ List.mem_cons_self
    cases hf _ hid with
    | natural hlt => exact hlt
  | _ => trivial

/-- **The number of a report that was read has 64 bits.** -/
theorem fits_of_read {line : Text} (h : read line = some e) : e.Fits := by
  obtain ⟨v, hv, he⟩ := Option.bind_eq_some_iff.mp h
  obtain ⟨type, fields, hfields, hreadable⟩ := exists_fields_of_message? (Json.readable_of_read hv) he
  exact fits_of_ofFields? hreadable hfields

/-- **Decoding undoes encoding.** The line of a report is read back as that report, also with blanks
of any kind behind it. Whatever line a report was read from, it is read from its own line again. -/
theorem decoding_undoes_encoding (blanks : Text) (hb : Text.isBlank blanks = true) :
    (∀ e : Report, e.Fits → read (e.line ++ blanks) = some e) ∧
      ∀ (line : Text) (e : Report), read line = some e → read (e.line ++ blanks) = some e :=
  ⟨fun _ he => read_line_append he hb, fun _ _ h => read_line_append (fits_of_read h) hb⟩

/-- A report whose fields are told by their order. -/
def inOrder : Json.Value :=
  .array [.string "output".toList, .string "stderr".toList, .string ['\n', '\x00']]

/-- It is read from the text of an array, and then from its own line, which is that of an object,
with a blank behind it that separates no tokens. -/
theorem decoding_undoes_encoding_inOrder :
    Text.isBlank ['\u2003'] = true ∧
      read inOrder.render = some (output .stderr ['\n', '\x00']) ∧
      read ((output .stderr ['\n', '\x00']).line ++ ['\u2003']) =
        some (output .stderr ['\n', '\x00']) := by
  have hblank : Text.isBlank ['\u2003'] = true := by decide
  have hreadable : Json.Readable Json.maxDepth inOrder := by
    refine .array fun v hv => ?_
    simp only [List.mem_cons, List.not_mem_nil, or_false] at hv
    rcases hv with rfl | rfl | rfl <;> exact .string _
  have hread : read inOrder.render = some (output .stderr ['\n', '\x00']) := by
    rw [read, show Text.trimEnd inOrder.render = inOrder.render by rfl,
      hreadable.read_render_self]
    rfl
  exact ⟨hblank, hread, (decoding_undoes_encoding _ hblank).2 _ _ hread⟩

end Report

end LineFraming.Worker
