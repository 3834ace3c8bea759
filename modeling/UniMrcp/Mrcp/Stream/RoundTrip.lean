import UniMrcp.Apt.TextMessage.Segments
import UniMrcp.Mrcp.StartLine.RoundTrip
import UniMrcp.Mrcp.Stream.ContentLength
import UniMrcp.Mrcp.Stream.Damage

/-!
# MRCP messages on the wire

What a peer receives over a connection, on which messages are sent one after another, are these messages.
-/

namespace UniMrcp.Mrcp

open Apt List
open Option (some.inj bind_eq_bind bind_some)

variable {D E : Type}

structure ChannelId.Proper (channelId : ChannelId) : Prop where
  noMark : 0x40 ∉ channelId.sessionId
  noNul : 0 ∉ channelId.sessionId
  begins : ∀ ch, channelId.sessionId.head? = some ch → textIsWsp ch = false
  sessionLine : OneLine channelId.sessionId
  resourceLine : OneLine channelId.resourceName

def channelField (channelId : ChannelId) : HeaderField :=
  ⟨mrcpChannelId, channelId.sessionId ++ 0x40 :: channelId.resourceName, none⟩

variable {channelId : ChannelId}

theorem readable_channelField (h : channelId.Proper) : Readable (channelField channelId) where
  nonempty := by simp [channelField, mrcpChannelId]; decide
  nameBegins ch hc := by
    obtain rfl : 0x43 = ch := some.inj hc
    decide
  noColon := by simp only [channelField]; decide
  nameLine := by simp only [channelField]; decide
  valueBegins ch hc := by
    cases hs : channelId.sessionId with
    | nil =>
      simp only [channelField, hs, nil_append, head?_cons, Option.some.injEq] at hc
      subst hc
      decide
    | cons ch' session => exact h.begins ch (by simpa [channelField, hs] using hc)
  valueLine := h.sessionLine.append (oneLine_cons.2 ⟨by decide, h.resourceLine⟩)

theorem idResourceParse_channelField (h : channelId.Proper) (channelId' : ChannelId) :
    idResourceParse (channelField channelId).value channelId' = channelId := by
  have ht : (channelField channelId).value.takeWhile (· != 0) =
      channelId.sessionId ++ 0x40 :: channelId.resourceName.takeWhile (· != 0) := by
    rw [channelField, takeWhile_append_of_pos fun ch hc => by simpa using fun he : ch = 0 => h.noNul (he ▸ hc)]
    simp
  unfold idResourceParse
  dsimp only
  rw [ht, takeWhile_of_notMem h.noMark, if_neg (by simp)]
  simp [channelField]

theorem channelIdParse_channelField (h : channelId.Proper) (channelId' : ChannelId) (fields : List HeaderField) :
    channelIdParse (D := E) channelId' ⟨⟨unidentified (channelField channelId :: fields), []⟩, none, none⟩ =
      some (channelId, ⟨⟨unidentified fields, []⟩, none, none⟩) := by
  have hc : isChannelIdField (channelField channelId) = true := by
    simp only [isChannelIdField, channelField, Bool.and_eq_true]
    exact ⟨by simp, by decide⟩
  have hf : unidentified (channelField channelId :: fields) = channelField channelId :: unidentified fields := rfl
  simp only [channelIdParse, hf, find?_cons_of_pos hc, eraseP_cons_of_pos hc, Option.map_some,
    idResourceParse_channelField h]
  rfl

/-! ## Messages -/

def MrcpParser.resourceOf (parser : MrcpParser E) (message : Message D) : Option (Resource E) :=
  if message.startLine.version = .v2 then resourceFind parser.resourceFactory message.channelId.resourceName
  else parser.resource

def Message.sentFields (message : Message D) : List HeaderField := message.validated.header.headerSection.ring

/-- The messages that may be sent to a peer, which knows the resource and the method. The last Content-Length has the
length of the body. -/
structure Message.Proper (parser : MrcpParser E) (message : Message D) : Prop where
  startLine : message.startLine.Proper
  known : ∃ resource, parser.resourceOf message = some resource ∧
    methodIdSet message.startLine resource = (message.startLine, true)
  channelId : message.startLine.version = .v2 → message.channelId.Proper
  fields : ∀ field ∈ message.sentFields, Readable field
  held : message.body.Held
  contentLength : sizeValueParse ⟨lastContentLengthText message.sentFields, []⟩ = message.body.length

/-- The start line that a peer has. The message-length is not part of version 1, and the method not of a response. -/
def StartLine.carried (startLine : StartLine) (length : Nat) : StartLine :=
  { startLine.read length with methodId := if startLine.messageType = .response then none else startLine.methodId }

/-- What a peer has of a message, of so many bytes. The session is not part of version 1. -/
structure Message.Carries (parser : MrcpParser E) (message : Message D) (length : Nat)
    (received : Message E) : Prop where
  startLine : received.startLine = message.startLine.carried length
  channelId : message.startLine.version = .v2 → received.channelId = message.channelId
  resource : received.resource = parser.resourceOf message
  fields : received.header.headerSection.ring.map (fun field => (field.name, field.value)) =
    message.sentFields.map fun field => (field.name, field.value)
  body : received.body.text = message.body.text

variable {parser : MrcpParser E} {message : Message D} {length : Nat}

theorem methodIdSet_read {startLine : StartLine} (hp : startLine.Proper) {resource : Resource E}
    (h : methodIdSet startLine resource = (startLine, true)) (length : Nat) :
    methodIdSet (startLine.read length) resource = (startLine.carried length, true) := by
  obtain ⟨type, version, len, id, name, methodId, code, state⟩ := startLine
  cases type with
  | unknown => exact hp.2.2.elim
  | response => rfl
  | request => simp_all [methodIdSet, methodIdFind, StartLine.read, StartLine.carried]
  | event => simp_all [methodIdSet, methodIdFind, StartLine.read, StartLine.carried]

theorem channelResourceSet_channelField (h : channelId.Proper) {resource : Resource E}
    (hr : resourceFind parser.resourceFactory channelId.resourceName = some resource) (startLine : StartLine)
    (fields : List HeaderField) :
    channelResourceSet parser ⟨startLine, ⟨[], []⟩,
        ⟨⟨unidentified (channelField channelId :: fields), []⟩, none, none⟩, {}, none⟩ =
      messageResourceSet ⟨startLine, channelId, ⟨⟨unidentified fields, []⟩, none, none⟩, {}, none⟩ resource := by
  simp only [channelResourceSet, channelIdParse_channelField h, hr]

theorem messageHeaderDataAlloc_ring (header : MessageHeader E) (vtable : HeaderVTable E) :
    (messageHeaderDataAlloc header genericHeaderVTable vtable).headerSection.ring = header.headerSection.ring := by
  unfold messageHeaderDataAlloc headerSectionArrayAlloc
  split_ifs <;> rfl

theorem contentLengthSet_eq (m : Message E) : ∃ body, contentLengthSet m = { m with body := body } := by
  unfold contentLengthSet
  split_ifs
  · split
    · split_ifs
      · exact ⟨m.body, rfl⟩
      · exact ⟨_, rfl⟩
    · exact ⟨m.body, rfl⟩
  · exact ⟨m.body, rfl⟩

theorem messageResourceSet_read (h : message.startLine.Proper) {resource : Resource E}
    (hi : methodIdSet message.startLine resource = (message.startLine, true)) (channelId : ChannelId)
    (header : MessageHeader E) (length : Nat) :
    messageResourceSet ⟨message.startLine.read length, channelId, header, {}, none⟩ resource =
      (⟨message.startLine.carried length, channelId,
        messageHeaderDataAlloc header genericHeaderVTable (resource.resourceHeaderVTable message.startLine.version), {},
        some resource⟩, true) := by
  simp only [messageResourceSet, methodIdSet_read h hi]
  rfl

theorem contentLengthSet_carries (h : message.Proper parser) {m : Message E} (hf : m.header.Fresh) (hb : m.body = {})
    (hr : m.header.headerSection.ring = unidentified message.sentFields)
    (hs : m.startLine = message.startLine.carried length)
    (hc : message.startLine.version = .v2 → m.channelId = message.channelId)
    (hrs : m.resource = parser.resourceOf message) :
    ∃ m', contentLengthSet { m with header := headerFieldsParse m.header } = m' ∧
      (TextMessage.body m').length = message.body.text.length ∧
      message.Carries parser length (withBody m' message.body.text) := by
  have hn : m.header.headerSection.ring.map (fun field => (field.name, field.value)) =
      message.sentFields.map fun field => (field.name, field.value) := by
    simp [hr, unidentified]
  have hl := contentLengthSet_length hf hb
  obtain ⟨body, he⟩ := contentLengthSet_eq { m with header := headerFieldsParse m.header }
  rw [lastContentLengthText, contentLengthTexts_congr hn, ← lastContentLengthText, h.contentLength, he] at hl
  obtain rfl : body = ⟨none, message.body.length⟩ := hl
  have hp := (headerFieldsParse_parsed hf).ring.trans hn
  refine ⟨_, he, (length_text_of_held h.held).symm, ?_⟩
  · unfold withBody
    split_ifs with ht
    · exact ⟨hs, hc, hrs, hp, by rw [ht, Body.text, Option.getD_none, take_nil]⟩
    · exact ⟨hs, hc, hrs, hp, by simp [TextMessage.setBody, Body.text]⟩

def Message.wireFields (message : Message D) : List HeaderField :=
  (if message.startLine.version = .v2 then [channelField message.channelId] else []) ++ message.sentFields

theorem messageValidate_channelId (message : Message D) : message.validated.channelId = message.channelId := by
  unfold Message.validated messageValidate
  split
  · rfl
  · split
    · rfl
    · split <;> rfl

theorem messageText_eq (message : Message D) (length : Nat) : messageText message.validated length =
    startLineText message.startLine (decimal length) ++ crlf ++
      (message.wireFields.flatMap fieldLine ++ crlf) ++ message.body.text := by
  unfold messageText headerText headerLines Message.wireFields Message.sentFields
  rw [messageValidate_startLine, messageValidate_body, messageValidate_channelId]
  split_ifs <;> simp [channelField, channelIdText, fieldLine]

/-- **The text of a message spells this message.** -/
theorem exists_spelling (hp : parser.SparesContentLength) (h : message.Proper parser) (hl : length < 2 ^ 63) :
    ∃ w : Spelling (messageOfStartLine parser) (parserOnHeaderComplete parser),
      w.bytes = messageText message.validated length ∧ message.Carries parser length w.message := by
  obtain ⟨resource, hr, hi⟩ := h.known
  have hline : ∀ beyond, startLineParse ⟨startLineText message.startLine (decimal length), tokenCr :: beyond⟩ =
      some (message.startLine.read length) := fun beyond =>
          startLineParse_text h.startLine hl (by simp [isDigit, tokenCr])
  have hspell : ∀ {m m' : Message E}, (∀ beyond, messageOfStartLine parser
        ⟨startLineText message.startLine (decimal length), tokenCr :: beyond⟩ = some m) →
      (∀ field ∈ message.wireFields, Readable field) →
      parserOnHeaderComplete parser (withFields m message.wireFields) = (m', true) →
      (TextMessage.body m').length = message.body.text.length →
      message.Carries parser length (withBody m' message.body.text) →
      ∃ w : Spelling (messageOfStartLine parser) (parserOnHeaderComplete parser),
        w.bytes = messageText message.validated length ∧ message.Carries parser length w.message :=
    fun ho hf ha hb hm => ⟨⟨_, _, _, _, _, oneLine_startLineText h.startLine length, hf, ho, ha, hb⟩,
      by rw [messageText_eq]; simp [Spelling.bytes], hm⟩
  by_cases hv : message.startLine.version = .v2
  · have hrf : resourceFind parser.resourceFactory message.channelId.resourceName = some resource := by
      rwa [MrcpParser.resourceOf, if_pos hv] at hr
    have hsp := hp.factory message.channelId.resourceName resource (by
      unfold resourceFind at hrf
      split_ifs at hrf
      exact hrf) message.startLine.version
    obtain ⟨m', ha, hb, hm⟩ := contentLengthSet_carries h
      (m := ⟨message.startLine.carried length, message.channelId,
          messageHeaderDataAlloc ⟨⟨unidentified message.sentFields, []⟩, none, none⟩
        genericHeaderVTable (resource.resourceHeaderVTable message.startLine.version), {}, some resource⟩)
      (messageHeaderDataAlloc_fresh _ hsp) rfl (messageHeaderDataAlloc_ring _ _) rfl (fun _ => rfl) hr.symm
    have hw : message.wireFields = channelField message.channelId :: message.sentFields := by
      rw [Message.wireFields, if_pos hv, singleton_append]
    refine hspell (m := { messageCreate E with startLine := message.startLine.read length }) (fun beyond => ?_)
      (fun field hm => ?_) ?_ hb hm
    · simp [messageOfStartLine, hline, StartLine.read, hv]
    · rw [hw] at hm
      obtain rfl | hm := mem_cons.1 hm
      · exact readable_channelField (h.channelId hv)
      · exact h.fields field hm
    · rw [hw]
      show parserOnHeaderComplete parser ⟨message.startLine.read length, ⟨[], []⟩,
        ⟨⟨unidentified (channelField message.channelId :: message.sentFields), []⟩, none, none⟩, {}, none⟩ = _
      unfold parserOnHeaderComplete
      rw [if_pos (show (message.startLine.read length).version = .v2 from hv),
        channelResourceSet_channelField (h.channelId hv) hrf, messageResourceSet_read h.startLine hi]
      exact congrArg (·, true) ha
  · have hrp : parser.resource = some resource := by rwa [MrcpParser.resourceOf, if_neg hv] at hr
    have hv1 : message.startLine.version = .v1 := by
      have hk := h.startLine.1
      cases hvs : message.startLine.version <;> simp_all
    let header : MessageHeader E := messageHeaderDataAlloc messageHeaderInit genericHeaderVTable
      (resource.resourceHeaderVTable message.startLine.version)
    have hf : header.Fresh := messageHeaderDataAlloc_fresh _ (hp.resource resource hrp _)
    obtain ⟨m', ha, hb, hm⟩ := contentLengthSet_carries h
      (m := ⟨message.startLine.carried length, ⟨[], resource.name⟩,
        { header with headerSection := { header.headerSection with ring := unidentified message.sentFields } }, {},
        some resource⟩)
      ⟨hf.generic, hf.resource, hf.arr, hf.check⟩ rfl rfl rfl (fun h => absurd h hv) hr.symm
    have hw : message.wireFields = message.sentFields := by rw [Message.wireFields, if_neg hv, nil_append]
    refine hspell (m := ⟨message.startLine.carried length, ⟨[], resource.name⟩, header, {}, some resource⟩)
      (fun beyond => ?_) (fun field hm => h.fields field (hw ▸ hm)) ?_ hb hm
    · have hs := messageResourceSet_read h.startLine hi ⟨[], resource.name⟩ messageHeaderInit length
      simp only [messageOfStartLine, hline, bind_eq_bind, bind_some, hrp]
      rw [if_pos (show (message.startLine.read length).version = .v1 from hv1)]
      exact (if_pos (congrArg Prod.snd hs)).trans (congrArg (some ·.1) hs)
    · have hn : header.headerSection.ring = [] := messageHeaderDataAlloc_ring _ _
      simp only [withFields, TextMessage.header, TextMessage.setHeader, hn, hw, nil_append, parserOnHeaderComplete]
      rw [if_neg (show (message.startLine.carried length).version ≠ .v2 from hv)]
      exact congrArg (·, true) ha

/-! ## What is sent and what is received -/

/-- The text is what is sent of the message, with a buffer that it fits, whatever the generator did before. -/
def Message.SentAs (message : Message D) (text : Bytes) : Prop :=
  ∃ (g : MessageGenerator) (address size calls : Nat) (sent : Sent (Message D)), g.Ready address ∧ message.Fits size ∧
    messageSend (generatorVTable D) size address calls g message = some sent ∧ sent.chunks.flatten = text

theorem lt_of_lt_add_length_decimal {n : Nat} (h : n < 10 ^ 6 + (decimal n).length) : n < 2 ^ 63 := by
  by_contra hn
  have hl : 18 < (decimal n).length := by
    by_contra hl
    have hlt := (length_decimal_le_iff (k := 18) (n := n) (by decide)).1 (by omega)
    omega
  have hp := le_of_length_decimal (n := n) (k := (decimal n).length - 1) (by omega) (by omega)
  have hm := ten_pow_sub_mono (a := 18) (b := (decimal n).length - 1) (by omega)
  omega

theorem exists_messageText {text : Bytes} (hs : message.SentAs text) (hh : message.body.Held) :
    ∃ n < 2 ^ 63, text = messageText message.validated n ∧ (message.startLine.version = .v2 → n = text.length) := by
  obtain ⟨g, address, size, calls, sent, hg, hf, hsend, rfl⟩ := hs
  obtain ⟨calls', sent', hsend', ht⟩ := messageSend_of_fits hf hh hg
  obtain rfl : sent = sent' := messageSend_unique hsend hsend'
  have hst := messageValidate_startLine message
  by_cases hv : message.startLine.version = .v2
  · refine ⟨_, lt_of_lt_add_length_decimal ?_, ht, fun _ => rfl⟩
    have hn : message.headerNeed = (headerText message.validated lengthBlanks).length := if_pos hf.1
    have hd := hf.2.2 hv
    have hl := congrArg List.length ht
    have hb : message.validated.body.text.length = message.body.length := by
      rw [messageValidate_body, length_text_of_held hh]
    rw [messageText, length_append, hb] at hl
    simp only [hn, headerText, hst, startLineText_v2 hv, length_append, lengthBlanks, length_replicate,
      maxDigitCount] at hd hl
    omega
  · exact ⟨0, by decide, ht.trans (congrArg (· ++ _) (headerText_v1 (hst ▸ hv) _ _)), fun h => absurd h hv⟩

theorem exists_sentSpelling (hp : parser.SparesContentLength) (h : message.Proper parser) {text : Bytes}
    (hs : message.SentAs text) : ∃ w : Spelling (messageOfStartLine parser) (parserOnHeaderComplete parser),
      w.bytes = text ∧ message.Carries parser text.length w.message := by
  obtain ⟨n, hn, ht, hv⟩ := exists_messageText hs h.held
  obtain ⟨w, hb, hc⟩ := exists_spelling hp h hn
  refine ⟨w, hb.trans ht.symm, hc.startLine.trans ?_, hc.channelId, hc.resource, hc.fields, hc.body⟩
  by_cases h2 : message.startLine.version = .v2
  · rw [hv h2]
  · simp only [StartLine.carried, StartLine.read, if_neg h2]

theorem parserVTable_takesLines (parser : MrcpParser E) :
    TakesLines (parserVTable parser) (messageOfStartLine parser) (parserOnHeaderComplete parser) :=
  ⟨fun _ => rfl, rfl, rfl⟩

def speakText : Bytes :=
  ascii "MRCP/2.0 90 SPEAK 7\r\nChannel-Identifier: 1@speechsynth\r\nContent-Length: 12\r\n\r\nHello world!"

theorem proper_speakWithText : speakWithText.Proper synthParser where
  startLine := ⟨nofun, by decide, ⟨⟨by decide, by decide, by decide⟩, by decide, by rintro ch ⟨⟩; decide, by decide⟩,
    rfl, rfl⟩
  known := ⟨synthResource, rfl, by decide⟩
  channelId _ := ⟨by decide, by decide, by rintro ch ⟨⟩; decide, by decide, by decide⟩
  fields field hm := by
    obtain rfl : field = ⟨contentLengthName, ascii "12", some 8⟩ := mem_singleton.1 hm
    exact ⟨by decide, by rintro ch ⟨⟩; decide, by decide, by decide, by rintro ch ⟨⟩; decide, by decide⟩
  held := by decide
  contentLength := by decide

theorem sentAs_speakText : speakWithText.SentAs speakText := by
  have hs : (messageSend (generatorVTable Unit) 200 0 1 messageGeneratorCreate speakWithText).map
      (fun sent => sent.chunks.flatten) = some speakText := by decide +kernel
  obtain ⟨sent, hsend, htext⟩ := Option.map_eq_some_iff.1 hs
  exact ⟨messageGeneratorCreate, 0, 200, 1, sent, .inl rfl, ⟨by decide, by decide, by decide⟩, hsend, htext⟩

end UniMrcp.Mrcp
