import UniMrcp.Mrcp.StartLine.Room
import UniMrcp.Mrcp.Stream
import UniMrcp.Mrcp.Stream.Generator
import UniMrcp.UniRtsp.Stream

/-!
# Headers that do not fit

A line that does not fit is left out, and only what is left in the end tells whether the message is refused.
-/

namespace UniMrcp.Mrcp

open Apt List Message

/-- **Messages of both protocols are sent in pieces as they are generated as a whole**, with every buffer that has room
for the start line and the header section. -/
theorem message_sentAsWhole :
    (∀ (D : Type) (message : Message D), message.body.Held →
      SentAsWhole (generatorVTable D) message message.headerNeed) ∧
    ∀ message : UniRtsp.Message, message.body.Held →
      SentAsWhole UniRtsp.generatorVTable message message.headerNeed := by
  constructor
  · intro D message hheld
    obtain ⟨m', text, ok, hheader, hbody⟩ := headerText_of_message message
    exact sentAsWhole hheader hbody hheld
  · intro message hheld
    obtain ⟨text, ok, hheader⟩ := UniRtsp.headerText_of_message message
    exact sentAsWhole hheader rfl hheld

def speakWithText : Message Unit where
  startLine := ⟨.request, .v2, 0, 7, ascii "SPEAK", some 2, 0, .unknown⟩
  channelId := ⟨ascii "1", synthResource.name⟩
  header := messageHeaderDataAlloc messageHeaderInit genericHeaderVTable (synthResource.resourceHeaderVTable .v2)
  body := ⟨some (ascii "Hello world!"), 12⟩
  resource := some synthResource

def announceWithText : UniRtsp.Message where
  startLine := .request 1 (ascii "rtsp://host/synthesizer") .v1
  headerSection := ⟨[⟨ascii "Content-Length", ascii "5", none⟩], []⟩
  body := ⟨some (ascii "Hello"), 5⟩

/-- Both are sent with buffers that are one byte larger than the header. -/
theorem message_sentAsWhole_sample :
    (∃ calls sent, messageSend (generatorVTable Unit) (speakWithText.headerNeed + 1) 0 calls messageGeneratorCreate
        speakWithText = some sent ∧
      sent.status = (messageGeneratorRun (generatorVTable Unit) messageGeneratorCreate 0 speakWithText
        (textBufferInit 1000)).status ∧
      sent.chunks.flatten = (messageGeneratorRun (generatorVTable Unit) messageGeneratorCreate 0 speakWithText
        (textBufferInit 1000)).emitted) ∧
    ∃ calls sent, messageSend UniRtsp.generatorVTable (announceWithText.headerNeed + 1) 0 calls messageGeneratorCreate
        announceWithText = some sent ∧
      sent.chunks.flatten = (messageGeneratorRun UniRtsp.generatorVTable messageGeneratorCreate 0 announceWithText
        (textBufferInit 1000)).emitted := by
  constructor
  · obtain ⟨calls, sent, hsend, -, hstat, htext, -⟩ := message_sentAsWhole.1 Unit speakWithText (by decide)
      messageGeneratorCreate 0 (speakWithText.headerNeed + 1) 1000 (Or.inl rfl) (Nat.lt_succ_self _) (by decide)
      (by decide)
    exact ⟨calls, sent, hsend, hstat, htext⟩
  · obtain ⟨calls, sent, hsend, -, -, htext, -⟩ := message_sentAsWhole.2 announceWithText (by decide)
      messageGeneratorCreate 0 (announceWithText.headerNeed + 1) 1000 (Or.inl rfl) (Nat.lt_succ_self _) (by decide)
      (by decide)
    exact ⟨calls, sent, hsend, htext⟩

/-- The header is generated into 78 bytes, but 82 bytes are not enough for it: six bytes are reserved for the two digits
of the message-length, and the last byte is left free. -/
theorem not_sentAsWhole_exact :
    (headerText speakWithText.validated (ascii "90")).length = 78 ∧
      (messageGeneratorRun (generatorVTable Unit) messageGeneratorCreate 0 speakWithText (textBufferInit 1000)).emitted =
        headerText speakWithText.validated (ascii "90") ++ ascii "Hello world!" ∧
      (messageSend (generatorVTable Unit) 82 0 1 messageGeneratorCreate speakWithText).map
        (fun sent => (sent.chunks, sent.status)) = some ([], .invalid) := by
  refine ⟨by decide, by decide, by decide⟩

variable {D : Type}

/-- The room that a line leaves: one that does not fit is left out, and so is the end of a line. -/
def lineLeftover (room line : Nat) : Nat :=
  if room ≤ line then room else if room ≤ line + 2 then room - line else room - line - 2

def leftover (room : Nat) (lines : List Nat) : Nat := lines.foldl lineLeftover room

variable {room : Nat}

theorem leftover_pos (h : 0 < room) (lines : List Nat) : 0 < leftover room lines := by
  induction lines generalizing room with
  | nil => exact h
  | cons line lines ih =>
    apply ih
    unfold lineLeftover
    split_ifs <;> omega

def lineInsert (text : Bytes) : TextWriter := fun b =>
  if b.room ≤ text.length then (b, false) else textEolInsert (b.put text)

variable {b : TextBuffer}

theorem lineInsert_room (hr : b.room = room) (text : Bytes) :
    (lineInsert text b).1.room = lineLeftover room text.length := by
  unfold lineInsert textEolInsert lineLeftover
  simp only [put_room, hr]
  split_ifs <;> first | omega | (simp only [put_room, length_crlf, hr]; omega)

theorem channelIdGenerate_eq (channelId : ChannelId) : channelIdGenerate channelId =
    lineInsert (channelIdText channelId) := by
  have hl : (channelIdText channelId).length =
      mrcpChannelId.length + 2 + channelId.sessionId.length + 1 + channelId.resourceName.length := by
    simp only [channelIdText, length_append, length_cons, length_nil]
  funext b
  rw [lineInsert, channelIdGenerate, hl]
  rfl

def fieldText (field : HeaderField) : Bytes := field.name ++ [0x3A, tokenSp] ++ field.value

theorem headerFieldGenerate_eq (field : HeaderField) : headerFieldGenerate field = lineInsert (fieldText field) := by
  have hl : (fieldText field).length = field.name.length + field.value.length + 2 := by
    simp only [fieldText, length_append, length_cons, length_nil]
    omega
  funext b
  rw [lineInsert, headerFieldGenerate, textNameValueInsert, hl]
  rfl

theorem fields_room (fields : List HeaderField) (hr : b.room = room) :
    (fields.foldl (fun b field => (headerFieldGenerate field b).1) b).room =
      leftover room (fields.map fun field => (fieldText field).length) := by
  induction fields generalizing b room with
  | nil => exact hr
  | cons field fields ih =>
    apply ih
    dsimp only
    rw [headerFieldGenerate_eq]
    exact lineInsert_room hr _

/-! ## Headers -/

def Message.lineLengths (message : Message D) : List Nat :=
  (if message.startLine.version = .v2 then [(channelIdText message.channelId).length] else []) ++
    message.header.headerSection.ring.map fun field => (fieldText field).length

def Message.startRoom (message : Message D) (size : Nat) : Int :=
  message.startLine.tailRoom (size - message.startLine.headLength)

def Message.headerRoom (message : Message D) (size : Nat) : Nat :=
  leftover (message.startRoom size - 2).toNat message.validated.lineLengths

def Message.Begun (message m' : Message D) : Prop :=
  ∃ length, m' = { message.validated with startLine := { message.startLine with length := length } }

theorem startLineParts_startLine (startLine : StartLine) (b : TextBuffer) :
    ∃ length, (startLineParts startLine b).1 = { startLine with length := length } := by
  unfold startLineParts
  split
  · exact ⟨_, rfl⟩
  · exact ⟨_, rfl⟩
  · exact ⟨_, rfl⟩
  · exact ⟨_, rfl⟩
  · exact ⟨_, rfl⟩

variable {message : Message D}

theorem generatorOnStart_eq (hg : message.generable) (b : TextBuffer) :
    ∃ m', message.Begun m' ∧ generatorOnStart message b =
      if (textEolInsert (startLineParts message.startLine b).2).2 = false then
        (m', (textEolInsert (startLineParts message.startLine b).2).1, false)
      else if message.startLine.version = .v2 then
        (m', (channelIdGenerate m'.channelId (textEolInsert (startLineParts message.startLine b).2).1).1, true)
      else (m', (textEolInsert (startLineParts message.startLine b).2).1, true) := by
  obtain ⟨hv, hn⟩ := Bool.and_eq_true_iff.1 hg
  obtain ⟨length, hl⟩ := startLineParts_startLine message.startLine b
  have hs : (messageValidate message).1.startLine = message.startLine := messageValidate_startLine message
  refine ⟨_, ⟨length, rfl⟩, ?_⟩
  simp only [generatorOnStart, hv, Bool.true_eq_false, if_false, hs, startLineGenerate, hn, hl]
  rfl

variable {size : Nat}

theorem headerGenerate_overrun (hg : message.generable) (h : size ≤ message.startLine.headLength) :
    ∃ m' b, message.Begun m' ∧ b.room ≤ 0 ∧
      headerGenerate (generatorVTable D) message (textBufferInit size) = (m', b, false) := by
  obtain ⟨m', hb, heq⟩ := generatorOnStart_eq hg (textBufferInit size)
  obtain ⟨room, hs, hr⟩ := startLineParts_room (b := textBufferInit size) (Bool.and_eq_true_iff.1 hg).2
  have ho : (startLineParts message.startLine (textBufferInit size)).2.room ≤ 0 :=
    hr ▸ tailRoom_nonpos _ (hs.full (by rw [textBufferInit_room]; omega))
  have he : textEolInsert (startLineParts message.startLine (textBufferInit size)).2 =
      ((startLineParts message.startLine (textBufferInit size)).2, false) := if_neg (by omega)
  refine ⟨m', _, hb, ho, ?_⟩
  rw [he] at heq
  simp [headerGenerate, generatorVTable, heq]

theorem startLineParts_startRoom (hg : message.generable) (h : message.startLine.headLength < size) :
    (startLineParts message.startLine (textBufferInit size)).2.room = message.startRoom size := by
  obtain ⟨room, hs, hr⟩ := startLineParts_room (b := textBufferInit size) (Bool.and_eq_true_iff.1 hg).2
  have hf := hs.fits (by rw [textBufferInit_room]; omega)
  rw [hr, hf]
  rfl

theorem generatorOnStart_room (hg : message.generable) (h : message.startLine.headLength < size)
    (hs : 2 < message.startRoom size) :
    ∃ m' b, message.Begun m' ∧ generatorOnStart message (textBufferInit size) = (m', b, true) ∧
      b.room = leftover (message.startRoom size - 2).toNat
        (if message.startLine.version = .v2 then [(channelIdText message.validated.channelId).length] else []) := by
  obtain ⟨m', hb, heq⟩ := generatorOnStart_eq hg (textBufferInit size)
  have hr := startLineParts_startRoom hg h
  have he : textEolInsert (startLineParts message.startLine (textBufferInit size)).2 =
      ((startLineParts message.startLine (textBufferInit size)).2.put crlf, true) := if_pos (by omega)
  have hl : ((startLineParts message.startLine (textBufferInit size)).2.put crlf).room =
      ((message.startRoom size - 2).toNat : Nat) := by
    rw [put_room, hr, length_crlf]
    omega
  rw [he] at heq
  simp only [Bool.true_eq_false, if_false] at heq
  obtain ⟨length, rfl⟩ := id hb
  refine ⟨_, _, hb, by rw [heq, ← apply_ite (Prod.mk _), ← apply_ite (·, true)], ?_⟩
  split
  · rw [channelIdGenerate_eq]
    exact lineInsert_room hl _
  · exact hl

theorem headerSectionGenerate_room (header : HeaderSection) (hr : b.room = room) :
    ∃ b' : TextBuffer, b'.room = leftover room (header.ring.map fun field => (fieldText field).length) ∧
      headerSectionGenerate header b = if 2 < b'.room then (b'.put crlf, true) else (b', false) :=
  ⟨_, fields_room header.ring hr, rfl⟩

theorem headerGenerate_room (hg : message.generable) (h : message.startLine.headLength < size) :
    ∃ m' text, ∃ room : Nat, m'.body = message.body ∧ 0 < room ∧
      headerGenerate (generatorVTable D) message (textBufferInit size) =
        (m', ⟨text, room⟩, decide (2 < message.startRoom size ∧ 2 < message.headerRoom size)) := by
  have hp : 0 < message.startRoom size := tailRoom_pos _ (by omega)
  by_cases ht : 2 < message.startRoom size
  · obtain ⟨m', b, ⟨length, hbg⟩, heq, hr⟩ := generatorOnStart_room hg h ht
    obtain ⟨b', hr', hs⟩ := headerSectionGenerate_room m'.header.headerSection hr
    have hh : b'.room = message.headerRoom size := by
      rw [hr', leftover, leftover, ← foldl_append, headerRoom, leftover, lineLengths,
        messageValidate_startLine, hbg]
    have hd : m'.body = message.body := by
      rw [hbg]
      exact messageValidate_body message
    have hf : 0 < message.headerRoom size := leftover_pos (by omega) _
    by_cases he : 2 < message.headerRoom size
    · have hpt : b'.put crlf = ⟨b'.text ++ crlf, ((message.headerRoom size - 2 : Nat) : Int)⟩ := by
        simp only [TextBuffer.put, hh, length_crlf, TextBuffer.mk.injEq, true_and]
        omega
      rw [if_pos (by omega), hpt] at hs
      simp only [headerGenerate, generatorVTable, heq, Bool.true_eq_false, if_false, TextMessage.header, hs,
        generatorOnHeaderComplete, ht, he, and_self, decide_true]
      rw [startLineFinalize_room]
      exact ⟨{ m' with startLine := (startLineFinalize m'.startLine m'.body.length ⟨b'.text ++ crlf, 0⟩).1 }, _,
        message.headerRoom size - 2, hd, by omega, rfl⟩
    · rw [if_neg (by omega)] at hs
      have hb' : b' = ⟨b'.text, (message.headerRoom size : Nat)⟩ := by rw [← hh]
      rw [hb'] at hs
      refine ⟨m', b'.text, message.headerRoom size, hd, hf, ?_⟩
      simp only [headerGenerate, generatorVTable, heq, Bool.true_eq_false, if_false, TextMessage.header, hs,
        if_true, he, and_false, decide_false]
  · obtain ⟨m', ⟨length, hbg⟩, heq⟩ := generatorOnStart_eq hg (textBufferInit size)
    have hr := startLineParts_startRoom hg h
    have hl : textEolInsert (startLineParts message.startLine (textBufferInit size)).2 =
        ((startLineParts message.startLine (textBufferInit size)).2, false) := if_neg (by omega)
    rw [hl] at heq
    refine ⟨m', (startLineParts message.startLine (textBufferInit size)).2.text, (message.startRoom size).toNat, ?_, by
      omega, ?_⟩
    · rw [hbg]
      exact messageValidate_body message
    · have hb : (startLineParts message.startLine (textBufferInit size)).2 =
          ⟨(startLineParts message.startLine (textBufferInit size)).2.text, ((message.startRoom size).toNat : Nat)⟩ := by
        rw [Int.toNat_of_nonneg (Int.le_of_lt hp), ← hr]
      simp only [headerGenerate, generatorVTable, heq, if_true, ht, false_and, decide_false]
      rw [← hb]

/-! ## Messages -/

/-- It has a start line, the header with six digits for the message-length is shorter than the buffer, and the
message-length of version 2 takes no more than six digits. -/
def Message.Fits (message : Message D) (size : Nat) : Prop :=
  message.generable = true ∧ message.headerNeed < size ∧
    (message.startLine.version = .v2 → message.headerNeed + message.body.length < 10 ^ maxDigitCount)

/-- It has no start line and the buffer is not empty, or there is no room for the end of the start line, or none for the
empty line. -/
def Message.Refused (message : Message D) (size : Nat) : Prop :=
  if message.generable = true then
    message.startLine.headLength < size ∧ (message.startRoom size ≤ 2 ∨ message.headerRoom size ≤ 2)
  else 0 < size

/-- The message, whatever the generator did before, is either sent as a whole or refused, and it is refused if it does not
fit. -/
def Message.SoundlyGenerated (message : Message D) (size : Nat) : Prop :=
  ∀ (g : MessageGenerator) (address : Nat), g.Ready address →
    (∀ calls sent, messageSend (generatorVTable D) size address calls g message = some sent →
      sent.status = .complete → sent.chunks.flatten = messageText message.validated sent.chunks.flatten.length) ∧
    (¬message.Fits size → ∃ calls sent,
      messageSend (generatorVTable D) size address calls g message = some sent ∧ sent.status = .invalid)

variable {address calls : Nat} {g : MessageGenerator}

theorem messageSend_succ {M : Type} [TextMessage M] {vt : MessageGeneratorVTable M} {m : M} {sent : Sent M}
    (h : messageSend vt size address calls g m = some sent) :
    messageSend vt size address (calls + 1) g m = some sent := by
  induction calls generalizing g m sent with
  | zero => simp [messageSend] at h
  | succ calls ih =>
    rw [messageSend] at h ⊢
    cases hs : (messageGeneratorRun vt g address m (textBufferInit size)).status with
    | complete => simpa [hs] using h
    | invalid => simpa [hs] using h
    | incomplete =>
      simp only [hs, Option.map_eq_some_iff] at h ⊢
      obtain ⟨rest, hr, hn⟩ := h
      exact ⟨rest, ih hr, hn⟩

theorem messageSend_unique {M : Type} [TextMessage M] {vt : MessageGeneratorVTable M}
    {size address calls calls' : Nat} {m : M} {sent sent' : Sent M}
    (h : messageSend vt size address calls g m = some sent) (h' : messageSend vt size address calls' g m = some sent') :
    sent = sent' := by
  have hm : ∀ (more : Nat) {calls : Nat} {sent : Sent M}, messageSend vt size address calls g m = some sent →
      messageSend vt size address (calls + more) g m = some sent := by
    intro more calls sent h
    induction more with
    | zero => exact h
    | succ more ih => exact messageSend_succ ih
  have hb := hm calls' h
  rw [Nat.add_comm, hm calls h'] at hb
  exact (Option.some.inj hb).symm

theorem headerText_v1 (h : message.startLine.version ≠ .v2) (length length' : Bytes) :
    headerText message length = headerText message length' := by
  unfold headerText startLineText
  split <;> first | rfl | contradiction

theorem finalized_of_fits (h : message.Fits size) : ∃ length,
    message.finalized.2.1.text = headerText message.validated (decimal length) ∧
      (message.startLine.version = .v2 →
        length = (headerText message.validated (decimal length)).length + message.body.length) := by
  obtain ⟨hg, -, hd⟩ := h
  have hs := messageValidate_startLine message
  by_cases hv : message.startLine.version = .v2
  · have hn : message.headerNeed = (headerText message.validated lengthBlanks).length := if_pos hg
    have hf := hd hv
    have ht : ∀ length, headerText message.validated length = versionText .v2 ++ [tokenSp] ++ length ++ [tokenSp] ++
        (v2LineText message.startLine ++ crlf ++ headerLines message.validated) := by
      intro length
      simp only [headerText, hs, startLineText_v2 hv, append_assoc]
    have ho : message.startLine.laidOut.length = (versionText .v2 ++ [tokenSp]).length := by
      simp only [StartLine.laidOut, hv, if_true]
      rfl
    rw [hn, ht] at hf
    obtain ⟨length, hfi, hl, -⟩ := startLineFinalize_v2 0
      ((laidOut_version message.startLine).trans hv) ho hf
    refine ⟨length, ?_, fun _ => ?_⟩
    · rw [finalized, ht, hfi, ht]
    · rw [ht]
      exact hl
  · refine ⟨0, ?_, fun h => absurd h hv⟩
    rw [finalized, startLineFinalize_v1 ((laidOut_version message.startLine).symm ▸ hv)]
    exact headerText_v1 (hs ▸ hv) _ _

theorem length_text_of_held {body : Body} (h : body.Held) : body.text.length = body.length := by
  rw [Body.text, length_take]
  exact Nat.min_eq_left h

theorem messageSend_of_fits (h : message.Fits size) (hhl : message.body.Held) (hr : g.Ready address) :
    ∃ calls sent, messageSend (generatorVTable D) size address calls g message = some sent ∧
      sent.chunks.flatten = messageText message.validated sent.chunks.flatten.length := by
  obtain ⟨length, ht, hl⟩ := finalized_of_fits h
  have hh := headerGenerate_of_room h.1 h.2.1
  have hb := messageValidate_body message
  obtain ⟨calls, sent, hs, -, -, -, hf, -⟩ := messageSend_startGenerate hh
    (show message.validated.body.Held by rwa [hb]) (Nat.zero_lt_of_lt h.2.1) hr
  refine ⟨calls, sent, hs, ?_⟩
  rw [ht] at hf
  have hf : sent.chunks.flatten = messageText message.validated length := hf
  by_cases hv : message.startLine.version = .v2
  · have ha : sent.chunks.flatten.length = length := by
      rw [hf, messageText, length_append, length_text_of_held (by rwa [hb]), hb]
      exact (hl hv).symm
    rw [ha]
    exact hf
  · rw [hf]
    exact congrArg (· ++ message.validated.body.text)
      (headerText_v1 ((messageValidate_startLine message).symm ▸ hv) _ _)

/-- **The message-length is exact.** It counts its own digits, it is missing only where each number that does has too
many, and in the text of a message that fits it is the number of all bytes. -/
theorem messageLength_exact (message : Message D) (hheld : message.body.Held) :
    (∀ value maxCount n text, varLengthValueGenerate value maxCount = some (n, text) →
      n = value + (decimal n).length ∧ text = decimal n ∧ (decimal n).length ≤ maxCount) ∧
    (∀ value maxCount, varLengthValueGenerate value maxCount = none ↔
      ∀ n, n = value + (decimal n).length → maxCount < (decimal n).length) ∧
    ∀ size, message.Fits size → ∀ (g : MessageGenerator) (address : Nat), g.Ready address →
      (∃ calls sent, messageSend (generatorVTable D) size address calls g message = some sent) ∧
      ∀ calls sent, messageSend (generatorVTable D) size address calls g message = some sent →
        sent.chunks.flatten = messageText message.validated sent.chunks.flatten.length := by
  refine ⟨fun _ _ _ _ => varLengthValueGenerate_some, varLengthValueGenerate_none_iff, fun size h g address hg => ?_⟩
  obtain ⟨calls, sent, hs, hf⟩ := messageSend_of_fits h hheld hg
  refine ⟨⟨calls, sent, hs⟩, fun calls' sent' hs' => ?_⟩
  rw [← messageSend_unique hs hs']
  exact hf

theorem messageLength_exact_sample : ∃ calls sent,
    messageSend (generatorVTable Unit) 100 0 calls messageGeneratorCreate speakWithText = some sent ∧
      sent.chunks.flatten = messageText speakWithText.validated sent.chunks.flatten.length := by
  obtain ⟨⟨calls, sent, hs⟩, ht⟩ := (messageLength_exact speakWithText (by decide)).2.2 100
    ⟨by decide, by decide, by decide⟩ messageGeneratorCreate 0 (Or.inl rfl)
  exact ⟨calls, sent, hs, ht calls sent hs⟩

theorem messageSend_of_refused (h : message.Refused size) (hd : g.Ready address) :
    ∃ sent, messageSend (generatorVTable D) size address 1 g message = some sent ∧ sent.status = .invalid := by
  have hn := messageGeneratorRun_ready (generatorVTable D) hd message (textBufferInit size)
  have hh : ∃ m' text, ∃ room : Nat, 0 < room ∧
      headerGenerate (generatorVTable D) message (textBufferInit size) = (m', ⟨text, room⟩, false) := by
    unfold Message.Refused at h
    split at h
    next hg =>
      obtain ⟨m', text, room, -, hr, heq⟩ := headerGenerate_room hg h.1
      have hno : ¬(2 < message.startRoom size ∧ 2 < message.headerRoom size) := by omega
      rw [decide_eq_false hno] at heq
      exact ⟨m', text, room, hr, heq⟩
    next hg =>
      have hf := generatorOnStart_refused (Bool.eq_false_iff.2 hg) (textBufferInit size)
      exact ⟨message.validated, [], size, h, by simp only [headerGenerate, generatorVTable, hf, if_true]; rfl⟩
  obtain ⟨m', text, room, hr, heq⟩ := hh
  refine ⟨⟨⟨some address, g.contentLength, .startLine⟩, m', [], .invalid⟩, ?_, rfl⟩
  simp [messageSend, hn, startGenerate_refused heq hr]

theorem messageValidate_snd (message : Message D) : (messageValidate message).2 =
    (decide (message.body.length = 0) || message.header.genericHeaderAccessor.isSome) := by
  unfold messageValidate
  split
  next he => simp [he]
  next hb =>
    cases ha : message.header.genericHeaderAccessor with
    | none => simp [hb]
    | some accessor =>
      dsimp only
      split <;> simp

theorem validated_accessor (message : Message D) :
    message.validated.header.genericHeaderAccessor.isSome = message.header.genericHeaderAccessor.isSome := by
  unfold validated messageValidate
  split
  · rfl
  · cases ha : message.header.genericHeaderAccessor with
    | none => simp [ha]
    | some accessor =>
      dsimp only
      split <;> simp [ha, contentLengthAdd, genericHeaderModify]

theorem Message.Begun.same {message m' : Message D} (h : message.Begun m') : m'.generable = message.generable ∧
    m'.startLine.headLength = message.startLine.headLength := by
  obtain ⟨length, rfl⟩ := h
  have hb := messageValidate_body message
  have ha := validated_accessor message
  constructor
  · simp only [generable, messageValidate_snd, hb, ha]
    rfl
  · rfl

theorem messageSend_overrun (hg : message.generable) (h : size ≤ message.startLine.headLength)
    (hd : g.Ready address) (calls : Nat) : messageSend (generatorVTable D) size address calls g message = none := by
  induction calls generalizing g message with
  | zero => rfl
  | succ calls ih =>
    obtain ⟨m', b, hb, hm, heq⟩ := headerGenerate_overrun hg h
    obtain ⟨hg', hh⟩ := hb.same
    have hr := messageGeneratorRun_ready (generatorVTable D) hd message (textBufferInit size)
    have hf : startGenerate (generatorVTable D) ⟨some address, g.contentLength, .startLine⟩ message
        (textBufferInit size) = ⟨⟨some address, g.contentLength, .startLine⟩, m', b, .incomplete⟩ := by
      simp [startGenerate, heq, messageGeneratorBreak, hm]
    simp only [messageSend, hr, hf, Option.map_eq_none_iff]
    exact ih (hg'.trans hg) (hh ▸ h) (Or.inl rfl)

theorem messageSend_empty (hg : message.generable = false) (hd : g.Ready address) (calls : Nat) :
    messageSend (generatorVTable D) 0 address calls g message = none := by
  induction calls generalizing g message with
  | zero => rfl
  | succ calls ih =>
    have hf := generatorOnStart_refused hg (textBufferInit 0)
    have hr := messageGeneratorRun_ready (generatorVTable D) hd message (textBufferInit 0)
    have h : startGenerate (generatorVTable D) ⟨some address, g.contentLength, .startLine⟩ message
        (textBufferInit 0) =
          ⟨⟨some address, g.contentLength, .startLine⟩, message.validated, textBufferInit 0, .incomplete⟩ := by
      simp only [startGenerate, headerGenerate, generatorVTable, hf, if_true]
      rfl
    have hb : message.Begun message.validated := by
      refine ⟨message.startLine.length, ?_⟩
      rw [← messageValidate_startLine message]
    simp only [messageSend, hr, h, Option.map_eq_none_iff]
    exact ih (hb.same.1.trans hg) (Or.inl rfl)

theorem not_invalid_of_not_refused (h : ¬message.Refused size) (hl : message.body.Held) (hr : g.Ready address)
    {sent : Sent (Message D)} (hs : messageSend (generatorVTable D) size address calls g message = some sent) :
    sent.status ≠ .invalid := by
  unfold Message.Refused at h
  split at h
  next hg =>
    rcases Nat.lt_or_ge message.startLine.headLength size with hh | ho
    · obtain ⟨m', text, room, hb, hm, heq⟩ := headerGenerate_room hg hh
      have he : 2 < message.startRoom size ∧ 2 < message.headerRoom size := by omega
      rw [decide_eq_true he] at heq
      obtain ⟨calls', sent', hs', -, ht, -⟩ :=
        messageSend_startGenerate heq (show m'.body.Held by rwa [hb]) (Nat.zero_lt_of_lt hh) hr
      rw [messageSend_unique hs hs', ht]
      exact nofun
    · rw [messageSend_overrun hg ho hr] at hs
      contradiction
  next hg =>
    obtain rfl : size = 0 := by omega
    rw [messageSend_empty (Bool.eq_false_iff.2 hg) hr] at hs
    contradiction

def stopRequest : Message Unit := { speakWithText with
  startLine := ⟨.request, .v2, 0, 8, ascii "STOP", some 3, 0, .unknown⟩, body := {} }

/-- A STOP request with a header field that does not fit into a buffer of a hundred bytes. -/
def stopWithLongField : Message Unit := { stopRequest with
  header := { stopRequest.header with
    headerSection := ⟨[⟨ascii "Vendor-Specific-Parameters", List.replicate 20 0x61, some 11⟩], []⟩ } }

end UniMrcp.Mrcp
