import UniMrcp.Mrcp.Stream.RoundTrip
import UniMrcp.MrcpUniRtsp.ClientAgent.Answers

/-!
# MRCP messages in RTSP messages

A control message of version 1 is the body of an RTSP message, where it is found again.
-/

namespace UniMrcp.MrcpUniRtsp

open Apt List
open Mrcp (Message MrcpParser)
open UniRtsp (RtspLine RtspMessage Status methodAnnounce headerPropertyCheck headerPropertyCheck_add headerPropertyAdd_cseq)

variable {D R : Type}

/-! ## The agent of the server -/

/-- `mrcp_unirtsp_on_session_control`, with the active request of the session. -/
def onSessionControl (E : Profile D) (request : Option RtspMessage) (message : Message D) :
    Option (Message D × RtspMessage) :=
  (v1MessageGenerate message).bind fun (message, head) =>
    let rtspMessage : Option RtspMessage :=
      if message.startLine.messageType = .response then
        request.map fun request =>
          UniRtsp.responseCreate E.delivery request.startLine.version request.header Status.ok.code Status.ok.reason
      else if message.startLine.messageType = .event then
        let resourceName := Sdp.rtspNameGetByMrcpName E.resourceMap (some message.channelId.resourceName)
        some (UniRtsp.messageCreate E.delivery (.request [] methodAnnounce [] resourceName .v1))
      else none
    rtspMessage.map fun rtspMessage => (message, mrcpBodySet rtspMessage message head)

/-! ## What is generated and what is parsed -/

variable {message : Message D}

/-- The message in version 1, as it is sent. -/
def asV1 (message : Message D) : Message D :=
  { message with startLine := { message.startLine with version := .v1 } }

theorem asV1_version (message : Message D) : (asV1 message).startLine.version ≠ .v2 := by simp [asV1]

def Profile.parser (E : Profile R) (resourceName : Bytes) : MrcpParser R :=
  ⟨E.resourceFactory, Mrcp.resourceFind E.resourceFactory resourceName⟩

theorem v1MessageGenerate_of_fits (h : (asV1 message).Fits headBufferSize) :
    v1MessageGenerate message = some
      ({ (asV1 message).validated with startLine := (asV1 message).finalized.1 },
        (asV1 message).finalized.2.1.text) := by
  have hr : messageGenerate headBufferSize (asV1 message) = _ := Mrcp.headerGenerate_of_room h.1 h.2.1
  rw [asV1] at hr
  simp only [v1MessageGenerate, hr, if_true]
  rfl

theorem exists_v1MessageGenerate (h : (asV1 message).Fits headBufferSize) (hh : message.body.Held) :
    ∃ m head, v1MessageGenerate message = some (m, head) ∧
      m.startLine.messageType = message.startLine.messageType ∧ m.channelId = message.channelId ∧
        ∀ rtspMessage : RtspMessage, (mrcpBodySet rtspMessage m head).body.text = Mrcp.messageText (asV1 message).validated 0 := by
  have hb : (asV1 message).validated.body = message.body := Mrcp.messageValidate_body (asV1 message)
  have hs := Mrcp.messageValidate_startLine (asV1 message)
  have hl := Mrcp.length_text_of_held hh
  have hv := asV1_version message
  have hf : (asV1 message).finalized = _ :=
    Mrcp.startLineFinalize_v1 ((Mrcp.laidOut_version (asV1 message).startLine).symm ▸ hv) _ _
  have ho : (asV1 message).startLine.laidOut.messageType = message.startLine.messageType := by
    unfold Mrcp.StartLine.laidOut
    split <;> rfl
  refine ⟨_, _, v1MessageGenerate_of_fits h, (congrArg (·.1.messageType) hf).trans ho,
    Mrcp.messageValidate_channelId (asV1 message), fun rtspMessage => ?_⟩
  rw [Mrcp.messageText, Mrcp.headerText_v1 (hs ▸ hv) (Mrcp.decimal 0) Mrcp.lengthBlanks]
  simp only [mrcpBodySet, Body.text, Option.getD_some, hf, hb]
  exact take_of_length_le (by
    rw [length_append]
    exact Nat.add_le_add_left hl.le _)

/-- **The text of a message is parsed.** -/
theorem mrcpParse_messageText (E : Profile R) {resourceName : Bytes}
    (hp : (E.parser resourceName).SparesContentLength) (h : (asV1 message).Proper (E.parser resourceName)) :
    ∃ received, mrcpParse E.resourceFactory resourceName (Mrcp.messageText (asV1 message).validated 0) = some received ∧
      (asV1 message).Carries (E.parser resourceName) 0 received := by
  obtain ⟨w, hw, hc⟩ := Mrcp.exists_spelling hp h (show 0 < 2 ^ 63 by decide)
  obtain ⟨p, hr⟩ := messageParserRun_spelling (Mrcp.parserVTable_takesLines (E.parser resourceName)) w
    (p := messageParserCreate _) rfl rfl [] [] []
  rw [append_nil] at hr
  refine ⟨w.message, ?_, hc⟩
  rw [← hw]
  exact (if_pos (congrArg (·.status) hr)).trans (congrArg (·.message) hr)

/-- The message is found in each RTSP message with this body and MRCP content. The agents read it alike, the server in
`mrcp_unirtsp_session_announce`. -/
def FoundIn (E : Profile R) (resourceName : Bytes) (message : Message D) (rtsp : RtspMessage) : Prop :=
  ∀ arrived : RtspMessage, hasMrcpContent arrived = true → arrived.body.text = rtsp.body.text →
    ∃ received, announceParse E arrived resourceName = some received ∧
      received.channelId.sessionId = arrived.header.sessionId ∧
        (asV1 message).Carries (E.parser resourceName) 0 received

theorem foundIn_of_text {E : Profile R} {resourceName : Bytes} (hp : (E.parser resourceName).SparesContentLength)
    (h : (asV1 message).Proper (E.parser resourceName)) {rtsp : RtspMessage}
    (ht : rtsp.body.text = Mrcp.messageText (asV1 message).validated 0) : FoundIn E resourceName message rtsp := by
  intro arrived ha hb
  obtain ⟨read, hr, hc⟩ := mrcpParse_messageText E hp h
  refine ⟨{ read with channelId := { read.channelId with sessionId := arrived.header.sessionId } }, ?_, rfl,
    hc.startLine, fun hv => absurd hv (asV1_version message), hc.resource, hc.fields, hc.body⟩
  rw [announceParse, if_pos ha, hb, ht, hr]
  rfl

/-- The start line of an ANNOUNCE request for the resource of a message. -/
def Profile.announceLine (E : Profile D) (message : Message D) : RtspLine :=
  .request [] methodAnnounce [] (Sdp.rtspNameGetByMrcpName E.resourceMap (some message.channelId.resourceName)) .v1

/-- An RTSP message is the response OK to a request, with its CSeq. -/
def RespondsTo (request rtsp : RtspMessage) : Prop :=
  rtsp.startLine = .response request.startLine.version Status.ok.code (ascii "OK") ∧
    (headerPropertyCheck request.header .cseq →
      headerPropertyCheck rtsp.header .cseq ∧ rtsp.header.cseq = request.header.cseq)

theorem respondsTo_responseCreate (E : Profile D) (request : RtspMessage) (m : Message D) (head : Bytes) :
    RespondsTo request (mrcpBodySet (UniRtsp.responseCreate E.delivery request.startLine.version request.header
      Status.ok.code Status.ok.reason) m head) := by
  refine ⟨UniRtsp.responseCreate_startLine .., fun hc => ?_⟩
  obtain ⟨ht, hs⟩ := UniRtsp.responseCreate_cseq E.delivery request.startLine.version Status.ok.code
    Status.ok.reason hc
  refine ⟨?_, (headerPropertyAdd_cseq _ _).trans ((headerPropertyAdd_cseq _ _).trans hs)⟩
  exact (headerPropertyCheck_add _ (by decide)).trans ((headerPropertyCheck_add _ (by decide)).trans ht)

theorem synthProfile_spares : (synthProfile.parser (ascii "speechsynth")).SparesContentLength where
  resource resource hr version := by
    obtain rfl : Mrcp.synthResource = resource := Option.some.inj hr
    cases version <;> decide
  factory := Mrcp.synthParser_spares.factory

theorem proper_speakRequest : (asV1 speakRequest).Proper (synthProfile.parser (ascii "speechsynth")) where
  startLine := ⟨by decide, by decide,
    ⟨⟨by decide, by decide, by decide⟩, by decide, by rintro ch ⟨⟩; decide, by decide⟩, rfl, rfl⟩
  known := ⟨Mrcp.synthResource, rfl, by decide⟩
  channelId hv := absurd hv (asV1_version speakRequest)
  fields field hm := absurd (show field ∈ ([] : List HeaderField) from hm) not_mem_nil
  held := by decide
  contentLength := by decide

def speakAnswer : Message Unit :=
  let answer := responseCreate speakRequest 200
  { answer with startLine := { answer.startLine with requestState := .inProgress } }

theorem proper_speakAnswer : (asV1 speakAnswer).Proper (synthProfile.parser (ascii "speechsynth")) where
  startLine := ⟨by decide, by decide, by decide, by decide⟩
  known := ⟨Mrcp.synthResource, rfl, rfl⟩
  channelId hv := absurd hv (asV1_version speakAnswer)
  fields field hm := absurd (show field ∈ ([] : List HeaderField) from hm) not_mem_nil
  held := by decide
  contentLength := by decide

end UniMrcp.MrcpUniRtsp
