import UniMrcp.Apt.TextMessage.Chunked
import UniMrcp.Mrcp.StartLine.Generator

/-!
# The MRCP generator

The vtable of the text message generator for MRCP.
-/

namespace UniMrcp.Mrcp

open Apt List Message

variable {D : Type}

def contentLengthName : Bytes := ascii "Content-Length"

/-- `mrcp_generic_header_property_add` of the Content-Length, whose result is ignored. -/
def contentLengthAdd (header : MessageHeader D) (contentLength : Nat) : MessageHeader D :=
  { header with headerSection := (headerSectionFieldAdd header.headerSection
      ⟨contentLengthName, decimal contentLength, some genericHeaderContentLength⟩).1 }

/-- `mrcp_message_validate`: a message with a body has a Content-Length. -/
def messageValidate (message : Message D) : Message D × Bool :=
  if message.body.length = 0 then (message, true)
  else
    match message.header.genericHeaderAccessor with
    | none => (message, false)
    | some (_, generic) =>
      if genericHeaderPropertyCheck message genericHeaderContentLength = true ∧ generic.contentLength ≠ 0 then
        (message, true)
      else
        let header := genericHeaderModify message.header ({ · with contentLength := message.body.length })
        ({ message with header := contentLengthAdd header message.body.length }, true)

/-- The line of `mrcp_channel_id_generate`, up to its end. -/
def channelIdText (channelId : ChannelId) : Bytes :=
  mrcpChannelId ++ [0x3A, tokenSp] ++ channelId.sessionId ++ [0x40] ++ channelId.resourceName

def channelIdGenerate (channelId : ChannelId) : TextWriter := fun b =>
  if b.room ≤ mrcpChannelId.length + 2 + channelId.sessionId.length + 1 + channelId.resourceName.length then (b, false)
  else textEolInsert (b.put (channelIdText channelId))

/-- `mrcp_generator_on_start`, which ignores what becomes of the channel identifier. -/
def generatorOnStart (message : Message D) (b : TextBuffer) : Message D × TextBuffer × Bool :=
  let v := messageValidate message
  if v.2 = false then (v.1, b, false)
  else
    let r := startLineGenerate v.1.startLine b
    let message := { v.1 with startLine := r.1 }
    if r.2.2 = false then (message, r.2.1, false)
    else if message.startLine.version = .v2 then (message, (channelIdGenerate message.channelId r.2.1).1, true)
    else (message, r.2.1, true)

def generatorOnHeaderComplete (message : Message D) (b : TextBuffer) : Message D × TextBuffer × Bool :=
  let r := startLineFinalize message.startLine message.body.length b
  ({ message with startLine := r.1 }, r.2.1, r.2.2)

def generatorVTable (D : Type) : MessageGeneratorVTable (Message D) :=
  ⟨generatorOnStart, some generatorOnHeaderComplete⟩

def headerLines (message : Message D) : Bytes :=
  (if message.startLine.version = .v2 then channelIdText message.channelId ++ crlf else []) ++
    message.header.headerSection.ring.flatMap fieldLine ++ crlf

/-- The start line, with a message-length, and the header section of a message. -/
def headerText (message : Message D) (length : Bytes) : Bytes :=
  startLineText message.startLine length ++ crlf ++ headerLines message

/-- **The text of a message** with a message-length. -/
def messageText (message : Message D) (length : Nat) : Bytes := headerText message (decimal length) ++ message.body.text

def Message.generable (message : Message D) : Bool :=
  (messageValidate message).2 && message.startLine.generable

def Message.validated (message : Message D) : Message D := (messageValidate message).1

/-- The bytes that the start line and the header section take up, before the message-length is filled in. -/
def Message.headerNeed (message : Message D) : Nat :=
  if message.generable then (headerText message.validated lengthBlanks).length else 0

/-! ## What is generated when there is room -/

theorem emits_channelIdGenerate (channelId : ChannelId) :
    Emits (channelIdGenerate channelId) (channelIdText channelId ++ crlf) := by
  intro b hb
  have hl : (channelIdText channelId).length =
      mrcpChannelId.length + 2 + channelId.sessionId.length + 1 + channelId.resourceName.length := by
    simp only [channelIdText, length_append, length_cons, length_nil]
  rw [length_append, hl, length_crlf] at hb
  have hn : textEolInsert (b.put (channelIdText channelId)) = _ :=
    emits_textEolInsert _ (by rw [put_room, hl, length_crlf]; omega)
  unfold channelIdGenerate
  rw [if_neg (by omega), hn, put_put]

variable (message : Message D)

theorem messageValidate_startLine : message.validated.startLine = message.startLine := by
  unfold validated messageValidate
  split
  · rfl
  · split
    · rfl
    · split <;> rfl

theorem messageValidate_body : message.validated.body = message.body := by
  unfold validated messageValidate
  split
  · rfl
  · split
    · rfl
    · split <;> rfl

variable (startLine : StartLine)

theorem laidOut_version : startLine.laidOut.version = startLine.version := by
  unfold StartLine.laidOut
  split <;> rfl

theorem generatorOnStart_of_room {message : Message D} (hg : message.generable) {b : TextBuffer}
    (h : (headerText message.validated lengthBlanks).length < b.room) :
    generatorOnStart message b = ({ message.validated with startLine := message.startLine.laidOut },
      b.put (startLineText message.startLine lengthBlanks ++ crlf ++
        if message.startLine.version = .v2 then channelIdText message.validated.channelId ++ crlf else []), true) := by
  obtain ⟨hl, hn⟩ := Bool.and_eq_true_iff.1 hg
  have hs := messageValidate_startLine message
  simp only [headerText, headerLines, hs, length_append] at h
  have hf : startLineGenerate message.startLine b = _ :=
    startLineGenerate_of_room hn (by rw [length_append]; omega)
  rw [validated] at hs
  simp only [generatorOnStart, hl, Bool.true_eq_false, if_false, hs, hf, laidOut_version]
  split
  next hv =>
    have hc := emits_channelIdGenerate message.validated.channelId
      (b.put (startLineText message.startLine lengthBlanks ++ crlf)) (by
        rw [if_pos hv] at h
        simp only [put_room, length_append] at h ⊢
        omega)
    simp only [validated] at hc ⊢
    rw [hc, put_put]
  next =>
    rw [append_nil]
    rfl

theorem startLineFinalize_room (contentLength : Nat) (text : Bytes) (room : Int) :
    startLineFinalize startLine contentLength ⟨text, room⟩ =
      ((startLineFinalize startLine contentLength ⟨text, 0⟩).1,
        ⟨(startLineFinalize startLine contentLength ⟨text, 0⟩).2.1.text, room⟩,
        (startLineFinalize startLine contentLength ⟨text, 0⟩).2.2) := by
  unfold startLineFinalize
  dsimp only
  split
  · cases varLengthValueGenerate (sizeSub (text.length + contentLength) maxDigitCount) maxDigitCount <;> rfl
  · rfl

def Message.finalized (message : Message D) : StartLine × TextBuffer × Bool :=
  startLineFinalize message.startLine.laidOut message.body.length
    ⟨headerText message.validated lengthBlanks, 0⟩

/-- **The header of a message when there is room.** -/
theorem headerGenerate_of_room {message : Message D} (hg : message.generable) {size : Nat}
    (h : message.headerNeed < size) :
    headerGenerate (generatorVTable D) message (textBufferInit size) =
      ({ message.validated with startLine := message.finalized.1 },
        ⟨message.finalized.2.1.text, ((size - message.headerNeed : Nat) : Int)⟩, true) := by
  have hn : message.headerNeed = (headerText message.validated lengthBlanks).length := if_pos hg
  have hr : ((headerText message.validated lengthBlanks).length : Int) < (textBufferInit size).room := by
    rw [textBufferInit_room]
    omega
  have ht := messageValidate_startLine message
  have hs : headerSectionGenerate message.validated.header.headerSection
      ((textBufferInit size).put (startLineText message.startLine lengthBlanks ++ crlf ++
        if message.startLine.version = .v2 then channelIdText message.validated.channelId ++ crlf else [])) = _ :=
    headerSectionGenerate_of_room _ _ (by
      simp only [headerText, headerLines, ht, length_append] at hr
      simp only [put_room, length_append]
      omega)
  have hx : startLineText message.startLine lengthBlanks ++ crlf ++
      (if message.startLine.version = .v2 then channelIdText message.validated.channelId ++ crlf else []) ++
      (message.validated.header.headerSection.ring.flatMap fieldLine ++ crlf) =
        headerText message.validated lengthBlanks := by
    simp only [headerText, headerLines, ht, append_assoc]
  have hp : (textBufferInit size).put (headerText message.validated lengthBlanks) =
      ⟨headerText message.validated lengthBlanks, ((size - message.headerNeed : Nat) : Int)⟩ := by
    simp only [TextBuffer.put, textBufferInit_text, textBufferInit_room, nil_append, TextBuffer.mk.injEq, true_and]
    omega
  have hb := messageValidate_body message
  rw [put_put, hx, hp] at hs
  simp only [headerGenerate, generatorVTable, generatorOnStart_of_room hg hr, Bool.true_eq_false, if_false,
    TextMessage.header, hs, generatorOnHeaderComplete, hb]
  rw [startLineFinalize_room]
  rfl

theorem generatorOnStart_refused {message : Message D} (hg : message.generable = false) (b : TextBuffer) :
    generatorOnStart message b = (message.validated, b, false) := by
  have hs := messageValidate_startLine message
  unfold validated at hs ⊢
  unfold generatorOnStart
  by_cases hv : (messageValidate message).2 = false
  · simp [hv]
  · have hl : message.startLine.generable = false := by
      simp only [generable, Bool.and_eq_false_iff] at hg
      exact hg.resolve_left hv
    rw [Bool.not_eq_false] at hv
    simp only [hv, Bool.true_eq_false, if_false, hs, startLineGenerate, hl, if_true]
    rw [← hs]

theorem headerText_of_message :
    ∃ m' text ok, HeaderText (generatorVTable D) message message.headerNeed m' text ok ∧ m'.body = message.body := by
  cases hg : message.generable with
  | true =>
    exact ⟨_, _, _, fun size hs => headerGenerate_of_room hg hs, messageValidate_body message⟩
  | false =>
    refine ⟨message.validated, [], false, fun size _ => ?_, messageValidate_body message⟩
    have hn : message.headerNeed = 0 := by simp [headerNeed, hg]
    have hr := generatorOnStart_refused hg (textBufferInit size)
    simp only [headerGenerate, generatorVTable, hr, if_true, hn]
    rfl

end UniMrcp.Mrcp
