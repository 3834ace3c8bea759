import Mathlib.Tactic.IntervalCases
import UniMrcp.Apt.TextMessage.Segments
import UniMrcp.Mrcp.StartLine.RoundTrip
import UniMrcp.Mrcp.Stream.Damage
import UniMrcp.UniRtsp.Header.RoundTrip
import UniMrcp.UniRtsp.Message

/-!
# RTSP messages on the wire

An RTSP message that is generated as a whole is parsed.
-/

namespace UniMrcp.UniRtsp

open Apt List
open Option (some.inj bind_eq_bind bind_some map_some)
open Mrcp (decimal messageSend_unique oneLine_decimal)

/-! ## Start lines -/

/-- The start lines that may be sent: of version 1, with a method and a URL, or a status code and a reason phrase. -/
def StartLine.Proper : StartLine → Prop
  | .unknown => False
  | .request methodId url version => methodId < rtspMethodCount ∧ version = .v1 ∧ url ≠ [] ∧
      (∀ ch ∈ url, isSpace ch = false) ∧ url.getLast? ≠ some 0x2F
  | .response version statusCode reason => version = .v1 ∧ statusCode < 2 ^ 32 ∧ ∃ id, reasonPhraseGet id = some reason

variable {methodId : Nat}

theorem exists_methodName (h : methodId < rtspMethodCount) :
    ∃ name, stringTableStrGet rtspMethodStringTable rtspMethodCount methodId = some name ∧ IsField tokenSp name ∧
      OneLine name ∧ ¬rtspName <+: name ∧
      stringTableIdFind rtspMethodStringTable rtspMethodCount name = methodId := by
  unfold rtspMethodCount at h
  interval_cases methodId <;>
    exact ⟨_, rfl, ⟨by decide, by decide, by decide⟩, by decide, by decide, by decide⟩

theorem isField_versionText : IsField tokenSp (versionText .v1) := ⟨by decide, by decide, by decide⟩

theorem versionParse_versionText : versionParse (versionText .v1) = .v1 := by decide

theorem isField_url {url : Bytes} (hne : url ≠ []) (hs : ∀ ch ∈ url, isSpace ch = false) : IsField tokenSp url := by
  have hn : tokenSp ∉ url := fun h => absurd (hs _ h) (by decide)
  refine ⟨hne, fun hh => hn ?_, hn⟩
  cases url with
  | nil => exact absurd rfl hne
  | cons ch url =>
    obtain rfl := some.inj hh
    exact mem_cons_self

theorem startLineParse_request {url name : Bytes}
    (hn : stringTableStrGet rtspMethodStringTable rtspMethodCount methodId = some name)
    (h : StartLine.Proper (.request methodId url .v1)) (beyond : Bytes) :
    startLineParse ⟨name ++ tokenSp :: (url ++ tokenSp :: versionText .v1), beyond⟩ =
      some (.request name methodId url (lastPathSegment (url.takeWhile (· != 0))) .v1) := by
  obtain ⟨hm, -, hne, hs, hl⟩ := h
  obtain ⟨name', hn', hf, -, hv, hfi⟩ := exists_methodName hm
  obtain rfl : name = name' := some.inj (hn.symm.trans hn')
  have hu := isField_url hne hs
  have hr := textFieldRead_sep hf
    (textStreamInit ⟨name ++ tokenSp :: (url ++ tokenSp :: versionText .v1), beyond⟩) rfl
  simp only [startLineParse, hr, bind_eq_bind, bind_some, hv, if_false, requestLineParse]
  rw [textFieldRead_sep hu _ rfl]
  rw [textFieldRead_last isField_versionText _ rfl]
  simp only [bind_some, resourceUriParse, hl, if_false, hfi, versionParse_versionText]

variable {reason : Bytes}

theorem reasonPhrase_line {id : Nat} (h : reasonPhraseGet id = some reason) :
    reason ≠ [] ∧ reason.head? ≠ some tokenSp ∧ OneLine reason := by
  have hlt : id < rtspReasonPhraseCount := by
    by_contra hge
    simp [reasonPhraseGet, stringTableStrGet, hge] at h
  unfold rtspReasonPhraseCount at hlt
  interval_cases id <;> (obtain rfl := some.inj h; decide)

theorem textFieldRead_word {α : Type} {s : TextStream} (text : Bytes) (hs : s.rest = text) (hne : text ≠ [])
    (hh : text.head? ≠ some tokenSp) (f : Bytes → α) :
    ((textFieldRead s tokenSp).2.bind fun field => some (f field.bytes)) =
      some (f (text.takeWhile (· != tokenSp))) := by
  cases text with
  | nil => exact absurd rfl hne
  | cons ch text =>
    have hc : ch ≠ tokenSp := fun h => hh (by simp [h])
    simp [textFieldRead, hs, hc]

theorem startLineParse_response {statusCode : Nat} (h : StartLine.Proper (.response .v1 statusCode reason))
    (beyond : Bytes) :
    startLineParse ⟨versionText .v1 ++ tokenSp :: (decimal statusCode ++ tokenSp :: reason), beyond⟩ =
      some (.response .v1 statusCode (reason.takeWhile (· != tokenSp))) := by
  obtain ⟨-, hc, id, hr⟩ := h
  obtain ⟨hne, hh, -⟩ := reasonPhrase_line hr
  have hd : IsField tokenSp (decimal statusCode) := isField_decimal (by decide) _
  have hp : ∀ beyond, statusCodeParse ⟨decimal statusCode, tokenSp :: reason ++ beyond⟩ = statusCode := by
    intro beyond
    have he : EndsNumber (tokenSp :: reason ++ beyond) := by simp [isDigit, tokenSp]
    rw [statusCodeParse, sizeValueParse_decimal _ he]
    omega
  have hf := textFieldRead_sep isField_versionText
    (textStreamInit ⟨versionText .v1 ++ tokenSp :: (decimal statusCode ++ tokenSp :: reason), beyond⟩) rfl
  have ht : rtspName <+: versionText .v1 := by decide
  simp only [startLineParse, hf, bind_eq_bind, bind_some, ht, if_true, statusLineParse,
    versionParse_versionText]
  rw [textFieldRead_sep hd _ rfl]
  simp only [bind_some, hp]
  exact textFieldRead_word reason rfl hne hh (RtspLine.response .v1 statusCode)

/-! ## Header fields -/

def IsContentLength (field : HeaderField) : Prop :=
  stringTableIdFind rtspHeaderStringTable rtspHeaderFieldCount field.name = HeaderFieldId.contentLength.index

instance (field : HeaderField) : Decidable (IsContentLength field) := inferInstanceAs (Decidable (_ = _))

def contentLengthParse (value : Bytes) : UInt64 := UInt64.ofNat (sizeValueParse ⟨value, []⟩)

def nameValues (fields : List HeaderField) : List (Bytes × Bytes) := fields.map fun field => (field.name, field.value)

theorem headerFieldParse_contentLength (header : Header) (field : HeaderField) :
    (IsContentLength field ∧ field.value ≠ [] ∧
      (headerFieldParse header field).1.contentLength = contentLengthParse field.value) ∨
    (¬(IsContentLength field ∧ field.value ≠ []) ∧
      (headerFieldParse header field).1.contentLength = header.contentLength) := by
  unfold IsContentLength headerFieldParse HeaderFieldId.index
  dsimp only
  by_cases hv : field.value = []
  · exact .inr ⟨fun h => h.2 hv, by rw [if_pos hv]⟩
  · rw [if_neg hv]
    generalize stringTableIdFind rtspHeaderStringTable rtspHeaderFieldCount field.name = id
    by_cases hid : id = 5
    · subst hid
      exact .inl ⟨rfl, hv, rfl⟩
    · refine .inr ⟨fun h => hid h.1, ?_⟩
      unfold HeaderFieldId.ofIndex
      split <;> first | rfl | exact absurd rfl hid

theorem headerSectionFieldSet_check {headerSection : HeaderSection} {field : HeaderField} {id id' : Nat}
    (hf : field.id = some id) (hlt : id' < headerSection.arr.length) :
    (headerSectionFieldSet headerSection field).1.arr.length = headerSection.arr.length ∧
      (headerSectionFieldCheck (headerSectionFieldSet headerSection field).1 id' ↔
        headerSectionFieldCheck headerSection id' ∨ id = id') := by
  unfold headerSectionFieldSet HeaderSection.entry headerSectionFieldCheck
  rw [hf, bind_some]
  by_cases hid : id = id'
  · subst hid
    rw [List.getElem?_eq_getElem hlt]
    cases he : headerSection.arr[id] with
    | none => simp [HeaderSection.setEntry, hf, hlt]
    | some entry => simp [hlt, he]
  · split
    · simp [HeaderSection.setEntry, hf, hid, List.getElem?_set_ne hid]
    · simp [hid]

variable {length : Nat}

theorem foldl_headerFieldsStep (fields : List HeaderField) (a : Header × List HeaderField)
    (hs : a.1.headerSection.arr.length = rtspHeaderFieldCount)
    (hl : ∀ field ∈ fields, IsContentLength field → field.value ≠ [] →
      (contentLengthParse field.value).toNat = length) :
    nameValues (fields.foldl headerFieldsStep a).2 = nameValues a.2 ++ nameValues fields ∧
      (headerPropertyCheck (fields.foldl headerFieldsStep a).1 .contentLength ↔
        headerPropertyCheck a.1 .contentLength ∨ ∃ field ∈ fields, IsContentLength field) ∧
      ((fields.foldl headerFieldsStep a).1.contentLength.toNat = length ∨
        (fields.foldl headerFieldsStep a).1.contentLength = a.1.contentLength ∧
          ∀ field ∈ fields, IsContentLength field → field.value = []) := by
  induction fields generalizing a with
  | nil => simp [nameValues]
  | cons field fields ih =>
    have hlt : HeaderFieldId.contentLength.index < (headerFieldParse a.1 field).1.headerSection.arr.length := by
      rw [headerFieldParse_headerSection, hs]
      decide
    obtain ⟨hk, hc⟩ := headerSectionFieldSet_check (headerFieldParse_id a.1 field) hlt
    rw [headerFieldParse_headerSection] at hk hc
    have ht : (headerFieldsStep a field).1.headerSection.arr.length = rtspHeaderFieldCount := by
      simp only [headerFieldsStep, headerFieldParse_headerSection, hk, hs]
    obtain ⟨hr, hh, hv⟩ := ih (headerFieldsStep a field) ht
      fun field' hm => hl field' (mem_cons_of_mem _ hm)
    have hh' : headerPropertyCheck (headerFieldsStep a field).1 .contentLength ↔
        headerPropertyCheck a.1 .contentLength ∨ IsContentLength field := by
      simp only [headerPropertyCheck, headerFieldsStep, headerFieldParse_headerSection, hc]
      rfl
    refine ⟨?_, ?_, ?_⟩
    · rw [foldl_cons, hr]
      simp [nameValues, headerFieldsStep, headerFieldParse]
    · rw [foldl_cons, hh, hh', or_assoc, exists_mem_cons_iff]
    · rw [foldl_cons]
      obtain hd | ⟨h, he⟩ := hv
      · exact .inl hd
      · rw [h]
        obtain ⟨hn, hne, hp⟩ | ⟨hot, hp⟩ := headerFieldParse_contentLength a.1 field
        · left
          have ho := hl field mem_cons_self hn hne
          simpa only [headerFieldsStep, hp] using ho
        · right
          refine ⟨by simpa only [headerFieldsStep] using hp, fun field' hm hn => ?_⟩
          obtain rfl | hm := mem_cons.1 hm
          · by_contra hne
            exact hot ⟨hn, hne⟩
          · exact he field' hm hn

/-- The Content-Length matches the length of a body: each value is this length, and there is one unless it is 0. -/
structure MatchingLength (fields : List HeaderField) (length : Nat) : Prop where
  each : ∀ field ∈ fields, IsContentLength field → field.value ≠ [] → (contentLengthParse field.value).toNat = length
  some : length ≠ 0 → ∃ field ∈ fields, IsContentLength field ∧ field.value ≠ []

theorem headerFieldsParse_of_matching {header : Header}
    (hs : header.headerSection.arr.length = rtspHeaderFieldCount)
    (ht : headerPropertyCheck header .contentLength = false) (hz : header.contentLength = 0)
    (h : MatchingLength header.headerSection.ring length) :
    nameValues (headerFieldsParse header).headerSection.ring = nameValues header.headerSection.ring ∧
      (if headerPropertyCheck (headerFieldsParse header) .contentLength then
        (headerFieldsParse header).contentLength.toNat else 0) = length := by
  obtain ⟨hr, hc, hv⟩ := foldl_headerFieldsStep header.headerSection.ring (header, []) hs h.each
  have hp : (headerFieldsParse header).contentLength =
      (header.headerSection.ring.foldl headerFieldsStep (header, [])).1.contentLength := rfl
  have hh : headerPropertyCheck (headerFieldsParse header) .contentLength =
      headerPropertyCheck (header.headerSection.ring.foldl headerFieldsStep (header, [])).1 .contentLength := rfl
  rw [ht] at hc
  refine ⟨hr, ?_⟩
  rw [hp, hh]
  by_cases hl : length = 0
  · subst hl
    obtain hv | ⟨hsm, -⟩ := hv
    · rw [hv, ite_self]
    · rw [hsm, hz]
      exact ite_self _
  · obtain ⟨field, hm, hn, hne⟩ := h.some hl
    rw [if_pos (hc.2 (.inr ⟨field, hm, hn⟩))]
    obtain hv | ⟨-, he⟩ := hv
    · exact hv
    · exact absurd (he field hm hn) hne

theorem parserOnHeaderComplete_of_matching {fields : List HeaderField} (h : MatchingLength fields length)
    (delivery : Delivery) (line : RtspLine) :
    ∃ m, parserOnHeaderComplete ⟨line, { headerInit delivery with
        headerSection := { (headerInit delivery).headerSection with ring := unidentified fields } }, {}⟩ = (m, true) ∧
      m.startLine = line ∧ nameValues m.header.headerSection.ring = nameValues fields ∧ m.body.length = length := by
  generalize hh : ({ headerInit delivery with
    headerSection := { (headerInit delivery).headerSection with ring := unidentified fields } } : Header) = header
  have ht : MatchingLength header.headerSection.ring length := by
    rw [← hh]
    refine ⟨fun field hm => ?_, fun hne => ?_⟩
    · obtain ⟨field', hm', rfl⟩ := mem_map.1 hm
      exact h.each field' hm'
    · obtain ⟨field, hm, hf⟩ := h.some hne
      exact ⟨{ field with id := none }, mem_map.2 ⟨field, hm, rfl⟩, hf⟩
  obtain ⟨hr, hl⟩ := headerFieldsParse_of_matching (by rw [← hh]; rfl) (by rw [← hh]; rfl)
    (by rw [← hh]; rfl) ht
  have hn : nameValues header.headerSection.ring = nameValues fields := by
    rw [← hh]
    simp [nameValues, unidentified]
  unfold parserOnHeaderComplete
  dsimp only
  split
  · next hc =>
    rw [if_pos hc] at hl
    exact ⟨_, rfl, rfl, hr.trans hn, hl⟩
  · next hc =>
    rw [if_neg hc] at hl
    exact ⟨_, rfl, rfl, hr.trans hn, hl⟩

/-! ## Messages -/

structure Message.Proper (message : Message) : Prop where
  startLine : message.startLine.Proper
  fields : ∀ field ∈ message.headerSection.ring, Readable field
  held : message.body.Held
  contentLength : MatchingLength message.headerSection.ring message.body.length

/-- The start line that was parsed is the one that was sent, with the last segment of the URL as the resource. -/
def RtspLine.Carries (line : RtspLine) : StartLine → Prop
  | .unknown => False
  | .request methodId url version => ∃ name,
      stringTableStrGet rtspMethodStringTable rtspMethodCount methodId = some name ∧
        line = .request name methodId url (lastPathSegment url) version
  | .response version statusCode reason => line = .response version statusCode reason

structure RtspMessage.Carries (m : RtspMessage) (message : Message) : Prop where
  startLine : m.startLine.Carries message.startLine
  fields : nameValues m.header.headerSection.ring = nameValues message.headerSection.ring
  bodyText : m.body.text = message.body.text
  bodyLength : m.body.length = message.body.length

/-- Whatever was generated before, and whatever follows, the message is sent and parsed, and no more than it is read. -/
def Message.RoundTrips (message : Message) : Prop :=
  ∀ (g : MessageGenerator) (address size calls : Nat) (sent : Sent Message), g.Ready address →
    message.headerNeed < size → messageSend generatorVTable size address calls g message = some sent →
      sent.status = .complete ∧
        ∀ (delivery : Delivery) (parser : MessageParser RtspMessage) (done rest beyond : Bytes),
          parser.stage = .startLine → parser.skipLf = false →
            ∃ parser' m, messageParserRun (parserVTable delivery) parser
                ⟨done, sent.chunks.flatten ++ rest, beyond, false⟩ =
                  ⟨parser', ⟨done ++ sent.chunks.flatten, rest, beyond, false⟩, .complete, some m⟩ ∧
              m.Carries message

/-- The text of a reason phrase is one word, and the URL ends with the same segment where a NUL ends it. -/
def Message.Plain (message : Message) : Prop :=
  match message.startLine with
  | .unknown => True
  | .request _ url _ => lastPathSegment (url.takeWhile (· != 0)) = lastPathSegment url
  | .response _ _ reason => tokenSp ∉ reason

def StartLine.parsed : StartLine → RtspLine
  | .unknown => .unknown
  | .request methodId url version =>
    .request ((stringTableStrGet rtspMethodStringTable rtspMethodCount methodId).getD []) methodId url
      (lastPathSegment (url.takeWhile (· != 0))) version
  | .response version statusCode reason => .response version statusCode (reason.takeWhile (· != tokenSp))

/-- **A start line is one line, and it is parsed.** -/
theorem exists_startLineText {startLine : StartLine} (h : startLine.Proper) :
    ∃ line, startLineText startLine = some line ∧ OneLine line ∧
      ∀ beyond, startLineParse ⟨line, beyond⟩ = some startLine.parsed := by
  cases startLine with
  | unknown => exact absurd h id
  | request methodId url version =>
    obtain ⟨hm, rfl, hne, hs, hsl⟩ := h
    obtain ⟨name, hn, -, hl, -, -⟩ := exists_methodName hm
    have hu : OneLine url := fun ch hc =>
      ⟨fun heq => absurd (hs ch hc) (by rw [heq]; decide), fun heq => absurd (hs ch hc) (by rw [heq]; decide)⟩
    have hv : OneLine (versionText .v1) := by decide
    refine ⟨name ++ [tokenSp] ++ url ++ [tokenSp] ++ versionText .v1,
      by simp only [startLineText, hn, map_some],
      (((hl.append (by decide)).append hu).append (by decide)).append hv, fun beyond => ?_⟩
    have hp := startLineParse_request hn ⟨hm, rfl, hne, hs, hsl⟩ beyond
    simpa only [append_assoc, cons_append, nil_append, StartLine.parsed, hn, Option.getD_some] using
      hp
  | response version statusCode reason =>
    obtain ⟨rfl, hcd, id, hr⟩ := h
    obtain ⟨-, -, hl⟩ := reasonPhrase_line hr
    have hd : OneLine (decimal statusCode) := oneLine_decimal statusCode
    have hv : OneLine (versionText .v1) := by decide
    refine ⟨versionText .v1 ++ [tokenSp] ++ decimal statusCode ++ [tokenSp] ++ reason, rfl,
      (((hv.append (by decide)).append hd).append (by decide)).append hl, fun beyond => ?_⟩
    have hp := startLineParse_response ⟨rfl, hcd, id, hr⟩ beyond
    simpa only [append_assoc, cons_append, nil_append, StartLine.parsed] using hp

variable {message : Message}

theorem parsed_carries_iff (h : message.startLine.Proper) :
    message.startLine.parsed.Carries message.startLine ↔ message.Plain := by
  unfold Message.Plain
  cases hl : message.startLine with
  | unknown =>
    rw [hl] at h
    exact h.elim
  | request methodId url version =>
    rw [hl] at h
    obtain ⟨name, hnm, -⟩ := exists_methodName h.1
    simp [RtspLine.Carries, StartLine.parsed, hnm]
  | response version statusCode reason =>
    simp only [RtspLine.Carries, StartLine.parsed, RtspLine.response.injEq, true_and,
      takeWhile_eq_self_iff]
    exact ⟨fun ha hm => absurd (ha _ hm) (by simp), fun hn ch hm =>
      bne_iff_ne.2 fun heq => hn (heq ▸ hm)⟩

def messageText (message : Message) : Bytes := (headerText message).getD [] ++ message.body.text

theorem messageSend_text (h : message.Proper) {g : MessageGenerator} {address size : Nat} (hr : g.Ready address)
    (hs : message.headerNeed < size) :
    ∃ calls sent, messageSend generatorVTable size address calls g message = some sent ∧ sent.status = .complete ∧
      sent.chunks.flatten = messageText message := by
  obtain ⟨line, hl, -⟩ := exists_startLineText h.startLine
  have ht : headerText message =
      some (line ++ crlf ++ (message.headerSection.ring.flatMap fieldLine ++ crlf)) := by
    rw [headerText, hl, map_some]
  obtain ⟨calls, sent, hn, -, hst, -, hf, -⟩ :=
    messageSend_startGenerate (headerText_of_some ht size hs) h.held (by omega) hr
  refine ⟨calls, sent, hn, hst, ?_⟩
  rw [hf, messageText, ht]
  rfl

def lineMessage (delivery : Delivery) (line : Str) : Option RtspMessage :=
  (startLineParse line).map (messageCreate delivery)

theorem parserVTable_takesLines (delivery : Delivery) :
    TakesLines (parserVTable delivery) (lineMessage delivery) parserOnHeaderComplete where
  onStart s := by
    simp only [parserVTable, parserOnStart]
    cases (textLineRead s).2 <;> rfl
  onHeaderComplete := rfl
  onBodyComplete := rfl

theorem exists_spelling (delivery : Delivery) (h : message.Proper) :
    ∃ w : Spelling (lineMessage delivery) parserOnHeaderComplete, w.bytes = messageText message ∧
      w.message.startLine = message.startLine.parsed ∧
      nameValues w.message.header.headerSection.ring = nameValues message.headerSection.ring ∧
      w.message.body.text = message.body.text ∧ w.message.body.length = message.body.length := by
  obtain ⟨line, hln, hon, hp⟩ := exists_startLineText h.startLine
  obtain ⟨m', ha, hs, hrn, hl⟩ := parserOnHeaderComplete_of_matching h.contentLength delivery message.startLine.parsed
  have hb := Mrcp.length_text_of_held h.held
  refine ⟨⟨line, message.headerSection.ring, message.body.text, messageCreate delivery message.startLine.parsed, m',
    hon, h.fields, fun beyond => by rw [lineMessage, hp, map_some], ha, hl.trans hb.symm⟩, ?_, ?_⟩
  · simp [Spelling.bytes, messageText, headerText, hln]
  · unfold Spelling.message withBody
    dsimp only
    split_ifs with hn
    · exact ⟨hs, hrn, by rw [hn, Body.text, hl, ← hb, hn]; rfl, hl⟩
    · exact ⟨hs, hrn, by simp [TextMessage.setBody, Body.text], hb⟩

/-- **The text of a message is parsed.** -/
theorem messageParserRun_messageText (h : message.Proper) (delivery : Delivery) {parser : MessageParser RtspMessage}
    (hg : parser.stage = .startLine) (hk : parser.skipLf = false) (done rest beyond : Bytes) :
    ∃ parser' m, messageParserRun (parserVTable delivery) parser
        ⟨done, messageText message ++ rest, beyond, false⟩ =
          ⟨parser', ⟨done ++ messageText message, rest, beyond, false⟩, .complete, some m⟩ ∧
      m.startLine = message.startLine.parsed ∧
      nameValues m.header.headerSection.ring = nameValues message.headerSection.ring ∧
      m.body.text = message.body.text ∧ m.body.length = message.body.length := by
  obtain ⟨w, hw, hm⟩ := exists_spelling delivery h
  obtain ⟨parser', hr⟩ := messageParserRun_spelling (parserVTable_takesLines delivery) w hg hk done rest beyond
  rw [hw] at hr
  exact ⟨parser', w.message, hr, hm⟩

/-- **RTSP messages on the wire.** A message round trips if and only if it is plain. -/
theorem roundTrips_iff (message : Message) (h : message.Proper) : message.RoundTrips ↔ message.Plain := by
  rw [← parsed_carries_iff h.startLine]
  constructor
  · intro htrip
    have hready : messageGeneratorCreate.Ready 0 := .inl rfl
    have hstage : (messageParserCreate RtspMessage).stage = .startLine := rfl
    obtain ⟨calls, sent, hsend, -, htext⟩ :=
      messageSend_text h hready (Nat.lt_succ_self _)
    obtain ⟨parser', m, hrun, hcarries⟩ := (htrip _ _ _ calls sent hready (Nat.lt_succ_self _) hsend).2 .none
      (messageParserCreate RtspMessage) [] [] [] hstage rfl
    obtain ⟨parser'', m', hrun', hstart, -⟩ :=
      messageParserRun_messageText h .none hstage rfl [] [] []
    rw [htext] at hrun
    have hsame : some m = some m' := congrArg RunResult.message (hrun.symm.trans hrun')
    rw [← hstart, ← Option.some.inj hsame]
    exact hcarries.startLine
  · intro hcarries g address size calls sent hready hsize hsend
    obtain ⟨calls', sent', hsend', hstat, htext⟩ := messageSend_text h hready hsize
    obtain rfl : sent = sent' := messageSend_unique hsend hsend'
    refine ⟨hstat, fun delivery parser done rest beyond hstage hskip => ?_⟩
    obtain ⟨parser', m, hrun, hstart, hring, hbody, hlen⟩ :=
      messageParserRun_messageText h delivery hstage hskip done rest beyond
    rw [htext]
    exact ⟨parser', m, hrun, ⟨hstart ▸ hcarries, hring, hbody, hlen⟩⟩

def contentLengthFive : HeaderField := ⟨ascii "Content-Length", ascii "5", none⟩

theorem readable_contentLengthFive : Readable contentLengthFive where
  nonempty := by decide
  nameBegins ch h := by
    obtain rfl := some.inj h
    decide
  noColon := by decide
  nameLine := by decide
  valueBegins ch h := by
    obtain rfl := some.inj h
    decide
  valueLine := by decide

def announceHello : Message where
  startLine := .request 1 (ascii "rtsp://host/synthesizer") .v1
  headerSection := ⟨[contentLengthFive], []⟩
  body := ⟨some (ascii "Hello"), 5⟩

theorem proper_announceHello : announceHello.Proper where
  startLine := by
    have hs : (ascii "rtsp://host/synthesizer").all (fun ch => isSpace ch == false) := by decide
    exact ⟨by decide, rfl, by decide, fun ch hc => by simpa using all_eq_true.1 hs ch hc, by decide⟩
  fields field hm := by
    obtain rfl := mem_singleton.1 hm
    exact readable_contentLengthFive
  held := by decide
  contentLength := by
    refine ⟨fun field hm _ _ => ?_, fun _ => ⟨contentLengthFive, mem_singleton.2 rfl, by decide, by decide⟩⟩
    obtain rfl := mem_singleton.1 hm
    decide

theorem roundTrips_announceHello : announceHello.RoundTrips :=
  (roundTrips_iff announceHello proper_announceHello).2
    (show lastPathSegment ((ascii "rtsp://host/synthesizer").takeWhile (· != 0)) =
      lastPathSegment (ascii "rtsp://host/synthesizer") by decide)

def methodNotAllowed : Message where
  startLine := .response .v1 405 (ascii "Method Not Allowed")
  headerSection := ⟨[], []⟩
  body := {}

/-- The first word of its reason phrase is parsed. -/
theorem not_roundTrips_methodNotAllowed : methodNotAllowed.Proper ∧ ¬methodNotAllowed.RoundTrips := by
  refine ⟨⟨⟨rfl, by decide, 5, rfl⟩, nofun, by decide, nofun, fun h => absurd rfl h⟩, fun htrip => ?_⟩
  have hsend : (messageSend generatorVTable 100 0 1 messageGeneratorCreate methodNotAllowed).isSome := by
    decide +kernel
  obtain ⟨sent, hsend⟩ := Option.isSome_iff_exists.1 hsend
  have htext : sent.chunks.flatten = ascii "RTSP/1.0 405 Method Not Allowed\r\n\r\n" := by
    have hall : (messageSend generatorVTable 100 0 1 messageGeneratorCreate methodNotAllowed).map
        (fun sent => sent.chunks.flatten) = some (ascii "RTSP/1.0 405 Method Not Allowed\r\n\r\n") := by decide +kernel
    rw [hsend] at hall
    exact Option.some.inj hall
  obtain ⟨parser', m, hrun, hcarries⟩ := (htrip messageGeneratorCreate 0 100 1 sent (.inl rfl) (by decide +kernel)
    hsend).2 .none (messageParserCreate RtspMessage) [] [] [] rfl rfl
  rw [htext] at hrun
  have hmsg : (messageParserRun (parserVTable .none) (messageParserCreate RtspMessage)
      ⟨[], ascii "RTSP/1.0 405 Method Not Allowed\r\n\r\n", [], false⟩).message.map RtspMessage.startLine =
        some (.response .v1 405 (ascii "Method")) := by
    decide +kernel
  rw [append_nil] at hrun
  rw [hrun] at hmsg
  have hline : m.startLine = .response .v1 405 (ascii "Method Not Allowed") := hcarries.startLine
  rw [Option.map_some, hline] at hmsg
  exact absurd hmsg (by decide)

/-! ## Messages over a connection -/

/-- The text is what is sent of the message, with a buffer that its header fits, whatever was generated before. -/
def Message.SentAs (message : Message) (text : Bytes) : Prop :=
  ∃ (g : MessageGenerator) (address size calls : Nat) (sent : Sent Message), g.Ready address ∧
    message.headerNeed < size ∧ messageSend generatorVTable size address calls g message = some sent ∧
      sent.chunks.flatten = text

theorem exists_sentSpelling (delivery : Delivery) (h : message.Proper) (hp : message.Plain) {text : Bytes}
    (hs : message.SentAs text) : ∃ w : Spelling (lineMessage delivery) parserOnHeaderComplete,
      w.bytes = text ∧ w.message.Carries message := by
  obtain ⟨g, address, size, calls, sent, hg, hsz, hsend, rfl⟩ := hs
  obtain ⟨calls', sent', hsend', -, ht⟩ := messageSend_text h hg hsz
  obtain rfl : sent = sent' := messageSend_unique hsend hsend'
  obtain ⟨w, hw, hst, hrn, hb, hl⟩ := exists_spelling delivery h
  exact ⟨w, hw.trans ht.symm, ⟨hst ▸ (parsed_carries_iff h.startLine).2 hp, hrn, hb, hl⟩⟩

/-- **RTSP messages over a connection.** Of plain messages that are sent one after another, whose text arrives in chunks
that are cut anywhere, each one is handed to the handler, once and in order. -/
theorem rtspMessages_received (delivery : Delivery) (sends : List (Message × Bytes))
    (hsends : ∀ t ∈ sends, t.1.Proper ∧ t.1.Plain ∧ t.1.SentAs t.2) (chunks : List Bytes)
    (hne : ∀ chunk ∈ chunks, chunk ≠ []) (hcut : chunks.flatten = sends.flatMap Prod.snd) {κ : Type}
    (handle : MessageHandler RtspMessage κ) (hminds : MindsMessages handle)
    (hgoes : ∀ k m, (handle k .complete (some m)).2 = true) (k : κ) :
    ∃ received : List RtspMessage, Forall₂ (fun t m => m.Carries t.1) sends received ∧
      (chunks.foldl (messageReceive (parserVTable delivery) handle)
        ⟨textStreamInit ⟨[], []⟩, messageParserCreate RtspMessage, k⟩).handler = handled handle k received := by
  have hspell : ∀ t ∈ sends, ∃ w : Spelling (lineMessage delivery) parserOnHeaderComplete,
      w.bytes = t.2 ∧ w.message.Carries t.1 := fun t ht =>
    exists_sentSpelling delivery (hsends t ht).1 (hsends t ht).2.1 (hsends t ht).2.2
  exact messageReceive_cut (parserVTable_takesLines delivery) hminds hgoes hspell hne hcut k

def announceText : Bytes := ascii "ANNOUNCE rtsp://host/synthesizer RTSP/1.0\r\nContent-Length: 5\r\n\r\nHello"

theorem rtspMessages_received_announce : ∃ received : List RtspMessage,
    Forall₂ (fun t m => m.Carries t.1) [(announceHello, announceText)] received ∧
      ([announceText.take 42, announceText.drop 42].foldl (messageReceive (parserVTable .none) logMessage)
        ⟨textStreamInit ⟨[], []⟩, messageParserCreate RtspMessage, []⟩).handler =
          handled logMessage [] received := by
  refine rtspMessages_received .none _ ?_ _ (by decide) (by decide) logMessage logMessage_mindsMessages
    (fun _ _ => rfl) []
  rintro t ht
  obtain rfl := mem_singleton.1 ht
  have hs : (messageSend generatorVTable 200 0 1 messageGeneratorCreate announceHello).map
      (fun sent => sent.chunks.flatten) = some announceText := by decide +kernel
  obtain ⟨sent, hsend, htext⟩ := Option.map_eq_some_iff.1 hs
  exact ⟨proper_announceHello, show lastPathSegment ((ascii "rtsp://host/synthesizer").takeWhile (· != 0)) =
      lastPathSegment (ascii "rtsp://host/synthesizer") by decide,
    messageGeneratorCreate, 0, 200, 1, sent, .inl rfl, by decide +kernel, hsend, htext⟩

end UniMrcp.UniRtsp
