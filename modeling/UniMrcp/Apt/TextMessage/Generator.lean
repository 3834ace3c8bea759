import UniMrcp.Apt.TextOutput

/-!
# The text message generator

`apt_message_generator_t` generates messages of a start line, a header section and a body. A body that does not fit
into the buffer is continued by the next call.
-/

namespace UniMrcp.Apt

def headerFieldGenerate (field : HeaderField) : TextWriter := textNameValueInsert field.name field.value

/-- `apt_header_section_generate`, which ignores what becomes of the header fields. -/
def headerSectionGenerate (header : HeaderSection) : TextWriter := fun b =>
  textEolInsert (header.ring.foldl (fun b field => (headerFieldGenerate field b).1) b)

def fieldLine (field : HeaderField) : Bytes := field.name ++ [0x3A, tokenSp] ++ field.value ++ crlf

theorem writes_fields (fields : List HeaderField) :
    Writes (fun b => fields.foldl (fun b field => (headerFieldGenerate field b).1) b) (fields.flatMap fieldLine) := by
  induction fields with
  | nil =>
    intro b _
    simp
  | cons field fields ih =>
    have hf : Writes (fun b => (headerFieldGenerate field b).1) (fieldLine field) :=
      writes_of_emits (emits_textNameValueInsert field.name field.value)
    rw [List.flatMap_cons]
    exact hf.comp ih

theorem headerSectionGenerate_of_room (header : HeaderSection) :
    Emits (headerSectionGenerate header) (header.ring.flatMap fieldLine ++ crlf) := by
  intro b hb
  rw [List.length_append] at hb
  have hf := writes_fields header.ring b (by omega)
  have he : textEolInsert (b.put (header.ring.flatMap fieldLine)) = _ :=
    emits_textEolInsert _ (by rw [put_room]; omega)
  unfold headerSectionGenerate
  dsimp only at hf
  rw [hf, he, put_put]

def Body.text (body : Body) : Bytes := (body.buf.getD []).take body.length

/-- `apt_message_body_write`, where the length of the body is the number of bytes that were written. The position is
never past the end here. -/
def bodyWrite (contentLength : Nat) (body : Body) (b : TextBuffer) : Body × TextBuffer × Bool :=
  if body.length < contentLength then
    let required := contentLength - body.length
    let available := min required b.room.toNat
    ({ body with length := body.length + available }, b.put (((body.buf.getD []).drop body.length).take available),
      decide (required ≤ b.room.toNat))
  else (body, b, true)

/-! ## The generator -/

/-- `apt_message_generator_vtable_t`. Once the start line is generated, the context refers to the header section and
the body of the message. -/
structure MessageGeneratorVTable (M : Type) where
  onStart : M → TextBuffer → M × TextBuffer × Bool
  onHeaderComplete : Option (M → TextBuffer → M × TextBuffer × Bool)

/-- `apt_message_generator_t`, less its vtable. -/
structure MessageGenerator where
  context : Option Nat
  contentLength : Nat
  stage : MessageStage
deriving DecidableEq

def messageGeneratorCreate : MessageGenerator := ⟨none, 0, .startLine⟩

structure GeneratorResult (M : Type) where
  generator : MessageGenerator
  message : M
  stream : TextBuffer
  status : MessageStatus

/-- `apt_message_generator_break`: at the end of the stream the message is incomplete. -/
def messageGeneratorBreak (b : TextBuffer) : MessageStatus := if b.room ≤ 0 then .incomplete else .invalid

section Run

variable {M : Type} [TextMessage M] (vt : MessageGeneratorVTable M)

open TextMessage

/-- The start line and the header section, and what the vtable adds to them. Its result does not matter. -/
def headerGenerate (m : M) (b : TextBuffer) : M × TextBuffer × Bool :=
  let r := vt.onStart m b
  if r.2.2 = false then r
  else
    let h := headerSectionGenerate (header r.1) r.2.1
    if h.2 = false then (r.1, h.1, false)
    else
      match vt.onHeaderComplete with
      | none => (r.1, h.1, true)
      | some onHeaderComplete =>
        let c := onHeaderComplete r.1 h.1
        (c.1, c.2.1, true)

/-- The body stage of `apt_message_generator_run`. -/
def bodyGenerate (g : MessageGenerator) (m : M) (b : TextBuffer) : GeneratorResult M :=
  let w := bodyWrite g.contentLength (body m) b
  let m' := setBody m w.1
  if w.2.2 = false then ⟨g, m', w.2.1, messageGeneratorBreak w.2.1⟩
  else ⟨{ g with stage := .startLine }, m', w.2.1, .complete⟩

/-- The stage of `apt_message_generator_run` up to the header section, and from there the body. -/
def startGenerate (g : MessageGenerator) (m : M) (b : TextBuffer) : GeneratorResult M :=
  let h := headerGenerate vt m b
  if h.2.2 = false then ⟨g, h.1, h.2.1, messageGeneratorBreak h.2.1⟩
  else
    let contentLength := (body h.1).length
    if contentLength = 0 then ⟨{ g with contentLength := 0, stage := .startLine }, h.1, h.2.1, .complete⟩
    else
      bodyGenerate { g with contentLength := contentLength, stage := .body }
        (setBody h.1 { body h.1 with length := 0 }) h.2.1

/-- The generator for a message at an address: another message than the one before begins with its start line. -/
def MessageGenerator.enter (g : MessageGenerator) (address : Nat) : MessageGenerator :=
  if g.context = some address then g else { g with context := some address, stage := .startLine }

/-- `apt_message_generator_run`, of the message at an address. -/
def messageGeneratorRun (g : MessageGenerator) (address : Nat) (m : M) (b : TextBuffer) : GeneratorResult M :=
  let g := g.enter address
  match g.stage with
  | .startLine => startGenerate vt g m b
  | .body => bodyGenerate g m b
  -- no stage of a generator
  | .header => ⟨g, m, b, .complete⟩

/-- A message that was sent: the text of the calls, and what the last of them led to. -/
structure Sent (M : Type) where
  generator : MessageGenerator
  message : M
  chunks : List Bytes
  status : MessageStatus

/-- The loop of `mrcp_client_agent_messsage_send`, which sends what each call has generated as long as the message is
incomplete. None if it needs more than so many calls. -/
def messageSend (size address : Nat) : Nat → MessageGenerator → M → Option (Sent M)
  | 0, _, _ => none
  | calls + 1, g, m =>
    let r := messageGeneratorRun vt g address m (textBufferInit size)
    match r.status with
    | .invalid => some ⟨r.generator, r.message, [], .invalid⟩
    | .complete => some ⟨r.generator, r.message, [r.stream.text], .complete⟩
    | .incomplete =>
      (messageSend size address calls r.generator r.message).map fun sent =>
        { sent with chunks := r.stream.text :: sent.chunks }

end Run

end UniMrcp.Apt
