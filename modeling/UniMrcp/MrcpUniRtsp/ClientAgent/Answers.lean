import UniMrcp.MrcpUniRtsp.ClientAgent

/-!
# Responses to the requests of a session
-/

namespace UniMrcp.MrcpUniRtsp

open Apt Lib List Option
open Mrcp (Message)
open Sdp (SessionDescriptor SdpSession SdpMedia SdpAttribute)
open UniRtsp (RtspMessage methodSetup methodAnnounce methodTeardown methodDescribe)

variable {D : Type}

def IsResponseTo (request message : Message D) : Prop :=
  message.startLine.messageType = .response ∧ message.startLine.requestId = request.startLine.requestId

def Answers (request : ClientRequest D) (notes : List (ClientNote D)) : Prop :=
  match request with
  | .offer _ => ∃ descriptor, notes = [.answer descriptor]
  | .discover _ => ∃ descriptor, notes = [.discover descriptor]
  | .control _ message => ∃ response, notes = [.control response] ∧ IsResponseTo message response

/-- An event that is not parsed, or that is one of another request than the one that is outstanding. -/
def Foreign (E : Profile D) (s : ClientAgent D) (message : RtspMessage) : Prop :=
  ∀ event, announceParse E message (E.resourceName message) = some event → ∀ request, s.mrcpMessage = some request →
    event.startLine.requestId ≠ request.startLine.requestId

/-- A response answers its request; a foreign event is notified as an event, if at all, and leaves the request that is
outstanding. -/
def Answered (E : Profile D) (s : ClientAgent D) (call : ClientCall D) : Prop :=
  match call with
  | .response _ => ∀ request requests, s.requests = request :: requests → Answers request (s.step E call).2
  | .event message =>
    (∀ note ∈ (s.step E call).2, ∃ event, note = .control event ∧ event.startLine.messageType = .event) ∧
      (Foreign E s message → (s.step E call).1.mrcpMessage = s.mrcpMessage)
  | _ => (s.step E call).2 = []

/-! ## Descriptors -/

def MediaValued (sdpMedia : SdpMedia) : Prop :=
  sdpMedia.type = .audio ∨ sdpMedia.type = .video → ∀ attrib ∈ sdpMedia.attributes,
    stringTableIdFind Sdp.mpfRtpAttribTable 6 attrib.name = 5 → attrib.value.isSome

def Valued (sdp : SdpSession) : Prop := ∀ sdpMedia ∈ sdp.media, MediaValued sdpMedia

theorem isSome_foldlM {α β : Type} {f : β → α → Option β} {l : List α} (h : ∀ b, ∀ a ∈ l, (f b a).isSome) (b : β) :
    (l.foldlM f b).isSome := by
  induction l generalizing b with
  | nil => rfl
  | cons a l ih =>
    obtain ⟨b', hb'⟩ := Option.isSome_iff_exists.1 (h b a mem_cons_self)
    rw [foldlM_cons, hb']
    exact ih (fun b a ha => h b a (mem_cons_of_mem _ ha)) b'

variable {sdpMedia : SdpMedia}

theorem isSome_mpfRtspMediaGenerate
    (h : ∀ attrib ∈ sdpMedia.attributes, stringTableIdFind Sdp.mpfRtpAttribTable 6 attrib.name = 5 →
      attrib.value.isSome) (id : Nat) (ip : Sdp.AptStr) : (Sdp.mpfRtspMediaGenerate id sdpMedia ip).isSome := by
  unfold Sdp.mpfRtspMediaGenerate Sdp.rtpMediaGenerate
  rw [isSome_map]
  refine isSome_foldlM (fun media attrib ha => ?_) _
  have hv := h attrib ha
  unfold Sdp.rtpAttributeSet
  split
  · rfl
  · next hid =>
    rw [isSome_map]
    exact hv hid
  · rfl

theorem isSome_rtspMediaAdd (h : MediaValued sdpMedia) (descriptor : SessionDescriptor) :
    (Sdp.rtspMediaAdd descriptor sdpMedia).isSome := by
  unfold Sdp.rtspMediaAdd
  split
  · next ht =>
    rw [isSome_map]
    exact isSome_mpfRtspMediaGenerate (h (Or.inl ht)) descriptor.mediaCount descriptor.ip
  · next ht =>
    rw [isSome_map]
    exact isSome_mpfRtspMediaGenerate (h (Or.inr ht)) descriptor.mediaCount descriptor.ip
  · rfl

theorem descriptorGenerate_of_valued {sdp : SdpSession} (h : Valued sdp) (descriptor : SessionDescriptor)
    (forceDestinationIp : Option Bytes) :
    ∃ descriptor', Sdp.descriptorGenerateByRtspSdp descriptor sdp forceDestinationIp = some descriptor' := by
  have hs : (sdp.media.foldlM Sdp.rtspMediaAdd (descriptor.setIp sdp forceDestinationIp)).isSome :=
    isSome_foldlM (fun descriptor sdpMedia hm => isSome_rtspMediaAdd (h sdpMedia hm) descriptor) _
  exact Option.isSome_iff_exists.1 hs

def ClientRequest.IsControl (request : ClientRequest D) : Prop := ∃ rtsp message, request = .control rtsp message

def ClientRequest.Proper : ClientRequest D → Prop
  | .offer rtsp => rtsp.startLine.methodId = methodSetup ∨ rtsp.startLine.methodId = methodTeardown
  | .discover rtsp => rtsp.startLine.methodId = methodDescribe
  | .control rtsp _ => rtsp.startLine.methodId = methodAnnounce

/-- The invariant of the agent: the control message that it keeps is that of a request, and there is one such request at
most. -/
structure Kept (s : ClientAgent D) : Prop where
  outstanding : ∀ message, s.mrcpMessage = some message → ∃ rtsp, .control rtsp message ∈ s.requests
  single : s.requests.Pairwise fun request request' => ¬(request.IsControl ∧ request'.IsControl)
  proper : ∀ request ∈ s.requests, request.Proper

theorem kept_init : Kept ({} : ClientAgent D) where
  outstanding := fun _ h => absurd h.symm (some_ne_none _)
  single := List.Pairwise.nil
  proper := fun _ h => absurd h not_mem_nil

/-- For a SETUP, SDP is parsed and has values; for a DESCRIBE, it has values if it is parsed; for a control message, the
response is the one to it, or the agent still has the message. -/
def ResponseFits (E : Profile D) (s : ClientAgent D) (request : ClientRequest D) (response : RtspMessage) : Prop :=
  match request with
  | .offer rtsp => rtsp.startLine.methodId = methodSetup → hasContent response →
    ∃ sdp, E.sdpParse response.body.text = some sdp ∧ Valued sdp
  | .discover _ => hasContent response = true → ∀ sdp, E.sdpParse response.body.text = some sdp → Valued sdp
  | .control rtsp message =>
    match announceParse E response (E.resourceName rtsp) with
    | some mrcpMessage => IsResponseTo message mrcpMessage
    | none => s.mrcpMessage.isSome

/-- A control message is sent while no other one is outstanding; an event is parsed as an event, or nothing is
outstanding. -/
def Fits (E : Profile D) (s : ClientAgent D) : ClientCall D → Prop
  | .control _ => ∀ request ∈ s.requests, ¬request.IsControl
  | .response response => ∀ request requests, s.requests = request :: requests → ResponseFits E s request response
  | .event message =>
    match announceParse E message (E.resourceName message) with
    | some event => event.startLine.messageType = .event
    | none => s.mrcpMessage = none
  | _ => True

/-! ## Control messages -/

section Announce

variable {E : Profile D} {s : ClientAgent D} {message : RtspMessage} {name : Bytes}

theorem onAnnounceResponse_some {mrcpMessage : Message D} (h : announceParse E message name = some mrcpMessage) :
    onAnnounceResponse E s message name =
      ({ s with mrcpMessage :=
          if s.mrcpMessage.any fun request => mrcpMessage.startLine.requestId == request.startLine.requestId then none
          else s.mrcpMessage }, [.control mrcpMessage]) := by
  unfold onAnnounceResponse
  rw [h]
  rfl

theorem onAnnounceResponse_failed {request : Message D} (h : announceParse E message name = none)
    (hr : s.mrcpMessage = some request) :
    (onAnnounceResponse E s message name).2 = [.control (responseCreate request statusCodeMethodFailed)] := by
  unfold onAnnounceResponse
  rw [h, hr]
  rfl

theorem onAnnounceResponse_nothing (h : announceParse E message name = none) (hn : s.mrcpMessage = none) :
    onAnnounceResponse E s message name = (s, []) := by
  unfold onAnnounceResponse
  rw [h, hn]
  rfl

theorem responseCreate_startLine (request : Message D) (statusCode : Nat) :
    (responseCreate request statusCode).startLine.messageType = .response ∧
      (responseCreate request statusCode).startLine.requestId = request.startLine.requestId := by
  unfold responseCreate
  split <;> exact ⟨rfl, rfl⟩

theorem onAnnounceResponse_answered {request : Message D}
    (hs : ∀ request', s.mrcpMessage = some request' → request' = request)
    (hf : ∀ mrcpMessage, announceParse E message name = some mrcpMessage → IsResponseTo request mrcpMessage) :
    (onAnnounceResponse E s message name).1.mrcpMessage = none := by
  cases hp : announceParse E message name with
  | some mrcpMessage =>
    rw [onAnnounceResponse_some hp]
    cases ho : s.mrcpMessage with
    | none => rfl
    | some request' =>
      obtain rfl := hs request' ho
      have hid := (hf mrcpMessage hp).2
      simp [hid]
  | none =>
    cases ho : s.mrcpMessage with
    | none => rw [onAnnounceResponse_nothing hp ho, ho]
    | some request' =>
      unfold onAnnounceResponse
      rw [hp, ho]
      have hid := (responseCreate_startLine request' statusCodeMethodFailed).2
      simp [hid]

theorem answers_onAnnounceResponse {rtsp : RtspMessage} {request : Message D}
    (hs : ∀ request', s.mrcpMessage = some request' → request' = request)
    (hf : ∀ mrcpMessage, announceParse E message name = some mrcpMessage → IsResponseTo request mrcpMessage)
    (hn : announceParse E message name = none → s.mrcpMessage.isSome) :
    Answers (.control rtsp request) (onAnnounceResponse E s message name).2 := by
  cases hp : announceParse E message name with
  | some mrcpMessage =>
    rw [onAnnounceResponse_some hp]
    exact ⟨mrcpMessage, rfl, hf mrcpMessage hp⟩
  | none =>
    obtain ⟨request', ho⟩ := Option.isSome_iff_exists.1 (hn hp)
    rw [onAnnounceResponse_failed hp ho]
    obtain rfl := hs request' ho
    exact ⟨_, rfl, responseCreate_startLine request' statusCodeMethodFailed⟩

theorem onAnnounceResponse_requests : (onAnnounceResponse E s message name).1.requests = s.requests := by
  unfold onAnnounceResponse
  split <;> rfl

theorem onAnnounceResponse_kept {request : Message D}
    (h : (onAnnounceResponse E s message name).1.mrcpMessage = some request) : s.mrcpMessage = some request := by
  unfold onAnnounceResponse at h
  split at h
  · exact h
  · dsimp only at h
    split at h
    · exact absurd h.symm (some_ne_none _)
    · exact h

end Announce

/-! ## Responses -/

section Responses

variable {E : Profile D} {s : ClientAgent D} {request : ClientRequest D} {requests : List (ClientRequest D)}
  {response : RtspMessage}

theorem notifyOf_state (note : SessionDescriptor → ClientNote D) (descriptor : Option (Option SessionDescriptor)) :
    (notifyOf s note descriptor).1.requests = s.requests ∧
      (notifyOf s note descriptor).1.mrcpMessage = s.mrcpMessage := by
  unfold notifyOf
  split <;> exact ⟨rfl, rfl⟩

variable {rtsp : RtspMessage}

theorem onSessionResponse_control (h : rtsp.startLine.methodId = methodAnnounce) :
    onSessionResponse E s rtsp response = onAnnounceResponse E s response (E.resourceName rtsp) := by
  unfold onSessionResponse
  rw [h]
  rfl

theorem onSessionResponse_offer (E : Profile D) (s : ClientAgent D) (response : RtspMessage)
    (h : rtsp.startLine.methodId = methodSetup ∨ rtsp.startLine.methodId = methodTeardown) :
    ∃ forceDestinationIp, onSessionResponse E s rtsp response =
      notifyOf s .answer (descriptorGenerateByRtspResponse E rtsp response forceDestinationIp) := by
  unfold onSessionResponse
  rcases h with h | h
  · exact ⟨E.forceDestinationIp, if_pos h⟩
  · refine ⟨none, ?_⟩
    rw [h]
    rfl

theorem onSessionResponse_discover (h : rtsp.startLine.methodId = methodDescribe) :
    onSessionResponse E s rtsp response =
      notifyOf s .discover ((discoveryResponseGenerate E rtsp response).map some) := by
  unfold onSessionResponse
  rw [h]
  rfl

theorem descriptorGenerate_of_fits (forceDestinationIp : Option Bytes)
    (hm : rtsp.startLine.methodId = methodSetup ∨ rtsp.startLine.methodId = methodTeardown)
    (hf : ResponseFits E s (.offer rtsp) response) :
    ∃ descriptor, descriptorGenerateByRtspResponse E rtsp response forceDestinationIp = some (some descriptor) := by
  unfold descriptorGenerateByRtspResponse
  rcases hm with hm | hm
  · rw [if_pos hm]
    cases hc : hasContent response with
    | false => exact ⟨_, rfl⟩
    | true =>
      obtain ⟨sdp, hs, hv⟩ := hf hm hc
      obtain ⟨descriptor, hd⟩ := descriptorGenerate_of_valued hv {} forceDestinationIp
      rw [if_pos rfl, hs]
      dsimp only
      rw [hd]
      exact ⟨_, rfl⟩
  · rw [hm]
    exact ⟨_, rfl⟩

theorem discoveryResponse_of_fits (hf : ResponseFits E s (.discover rtsp) response) :
    ∃ descriptor, discoveryResponseGenerate E rtsp response = some descriptor := by
  unfold discoveryResponseGenerate
  cases hc : hasContent response with
  | false => exact ⟨_, rfl⟩
  | true =>
    rw [if_pos rfl]
    cases hs : E.sdpParse response.body.text with
    | none => exact ⟨_, rfl⟩
    | some sdp =>
      obtain ⟨descriptor, hd⟩ := descriptorGenerate_of_valued (hf hc sdp hs) _ none
      dsimp only
      rw [hd]
      exact ⟨_, rfl⟩

theorem Kept.slot {message : Message D} (h : Kept s) (hr : s.requests = .control rtsp message :: requests)
    {message' : Message D} (hl : s.mrcpMessage = some message') : message' = message := by
  obtain ⟨rtsp', hm⟩ := h.outstanding message' hl
  have hs := h.single
  rw [hr] at hm hs
  rcases mem_cons.1 hm with heq | hm
  · exact (ClientRequest.control.inj heq).2
  · exact absurd ⟨⟨rtsp, message, rfl⟩, rtsp', message', rfl⟩ ((pairwise_cons.1 hs).1 _ hm)

theorem answers_of_fits (h : Kept s) (hr : s.requests = request :: requests)
    (hf : ResponseFits E s request response) :
    Answers request (onSessionResponse E { s with requests } request.rtsp response).2 := by
  have hp := h.proper request (by rw [hr]; exact mem_cons_self)
  cases request with
  | offer rtsp =>
    obtain ⟨forceDestinationIp, heq⟩ := onSessionResponse_offer E { s with requests } response hp
    obtain ⟨descriptor, hd⟩ := descriptorGenerate_of_fits forceDestinationIp hp hf
    show Answers _ (onSessionResponse E { s with requests } rtsp response).2
    rw [heq, hd]
    exact ⟨descriptor, rfl⟩
  | discover rtsp =>
    obtain ⟨descriptor, hd⟩ := discoveryResponse_of_fits hf
    show Answers _ (onSessionResponse E { s with requests } rtsp response).2
    rw [onSessionResponse_discover hp, hd]
    exact ⟨descriptor, rfl⟩
  | control rtsp message =>
    show Answers _ (onSessionResponse E { s with requests } rtsp response).2
    rw [onSessionResponse_control hp]
    unfold ResponseFits at hf
    dsimp only at hf
    refine answers_onAnnounceResponse (fun _ hs => h.slot hr hs) (fun m hm => ?_) (fun hn => ?_)
    · rw [hm] at hf
      exact hf
    · rw [hn] at hf
      exact hf

theorem Kept.dequeue (h : Kept s) (hr : s.requests = request :: requests) (hne : ¬request.IsControl)
    {s' : ClientAgent D} (hk : s'.requests = requests) (hl : s'.mrcpMessage = s.mrcpMessage) : Kept s' := by
  have hs := h.single
  rw [hr] at hs
  constructor
  · intro message hg
    obtain ⟨rtsp, hm⟩ := h.outstanding message (hl ▸ hg)
    rw [hr] at hm
    rw [hk]
    rcases mem_cons.1 hm with heq | hm
    · exact absurd ⟨rtsp, message, heq.symm⟩ hne
    · exact ⟨rtsp, hm⟩
  · rw [hk]
    exact (pairwise_cons.1 hs).2
  · intro request' hm
    rw [hk] at hm
    exact h.proper request' (by rw [hr]; exact mem_cons_of_mem _ hm)

theorem kept_response (h : Kept s) (hr : s.requests = request :: requests)
    (hf : ResponseFits E s request response) :
    Kept (onSessionResponse E { s with requests } request.rtsp response).1 := by
  have hp := h.proper request (by rw [hr]; exact mem_cons_self)
  cases request with
  | offer rtsp =>
    obtain ⟨forceDestinationIp, heq⟩ := onSessionResponse_offer E { s with requests } response hp
    show Kept (onSessionResponse E { s with requests } rtsp response).1
    rw [heq]
    obtain ⟨hk, hs⟩ := notifyOf_state (s := { s with requests }) ClientNote.answer
      (descriptorGenerateByRtspResponse E rtsp response forceDestinationIp)
    refine h.dequeue hr ?_ hk hs
    rintro ⟨_, _, hc⟩
    cases hc
  | discover rtsp =>
    show Kept (onSessionResponse E { s with requests } rtsp response).1
    rw [onSessionResponse_discover hp]
    obtain ⟨hk, hs⟩ := notifyOf_state (s := { s with requests }) ClientNote.discover
      ((discoveryResponseGenerate E rtsp response).map some)
    refine h.dequeue hr ?_ hk hs
    rintro ⟨_, _, hc⟩
    cases hc
  | control rtsp message =>
    show Kept (onSessionResponse E { s with requests } rtsp response).1
    rw [onSessionResponse_control hp]
    have hn := h.single
    rw [hr] at hn
    unfold ResponseFits at hf
    dsimp only at hf
    have hnn : (onAnnounceResponse E { s with requests } response (E.resourceName rtsp)).1.mrcpMessage = none := by
      refine onAnnounceResponse_answered (fun _ hs => h.slot hr hs) (fun m hm => ?_)
      rw [hm] at hf
      exact hf
    constructor
    · intro message' hs
      rw [hnn] at hs
      exact absurd hs.symm (some_ne_none _)
    · rw [onAnnounceResponse_requests]
      exact (pairwise_cons.1 hn).2
    · intro request' hmm
      rw [onAnnounceResponse_requests] at hmm
      exact h.proper request' (by rw [hr]; exact mem_cons_of_mem _ hmm)

end Responses

section Requests

variable {E : Profile D} {s : ClientAgent D}

theorem methodId_sessionOffer (E : Profile D) (descriptor : SessionDescriptor) :
    (sessionOffer E descriptor).startLine.methodId = methodSetup ∨
      (sessionOffer E descriptor).startLine.methodId = methodTeardown := by
  unfold sessionOffer Sdp.rtspRequestGenerate
  split
  · exact Or.inr rfl
  · unfold Sdp.rtspBodySet
    split <;> exact Or.inl rfl

theorem methodId_sessionControl {message message' : Message D} {rtsp : RtspMessage}
    (h : sessionControl E message = some (message', rtsp)) : rtsp.startLine.methodId = methodAnnounce := by
  obtain ⟨_, _, heq⟩ := Option.map_eq_some_iff.1 h
  obtain ⟨-, rfl⟩ := Prod.mk.inj heq
  rfl

theorem Kept.issue (h : Kept s) {request : ClientRequest D} (hp : request.Proper)
    (hn : request.IsControl → ∀ request' ∈ s.requests, ¬request'.IsControl) : Kept (s.issue request) where
  outstanding := fun message hs =>
    let ⟨rtsp, hm⟩ := h.outstanding message hs
    ⟨rtsp, mem_append_left _ hm⟩
  single := by
    refine pairwise_append.2 ⟨h.single, pairwise_singleton _ _, fun request' hm request'' hl => ?_⟩
    obtain rfl := mem_singleton.1 hl
    exact fun hb => hn hb.2 request' hm hb.1
  proper := fun request' hm => by
    rcases mem_append.1 hm with hm | hl
    · exact h.proper request' hm
    · obtain rfl := mem_singleton.1 hl
      exact hp

theorem kept_control (h : Kept s) {message message' : Message D} {rtsp : RtspMessage}
    (hc : sessionControl E message = some (message', rtsp))
    (hf : ∀ request ∈ s.requests, ¬request.IsControl) :
    Kept { s.issue (.control rtsp message') with mrcpMessage := some message' } := by
  have hi : Kept (s.issue (.control rtsp message')) := h.issue (methodId_sessionControl hc) fun _ => hf
  refine ⟨fun request hr => ?_, hi.single, hi.proper⟩
  obtain rfl := Option.some.inj hr
  exact ⟨rtsp, mem_append_right _ mem_cons_self⟩

theorem kept_event (h : Kept s) (message : RtspMessage) : Kept (onSessionEvent E s message).1 := by
  unfold onSessionEvent
  constructor
  · intro request hr
    rw [onAnnounceResponse_requests]
    exact h.outstanding request (onAnnounceResponse_kept hr)
  · rw [onAnnounceResponse_requests]
    exact h.single
  · rw [onAnnounceResponse_requests]
    exact h.proper

theorem answered_event {message : RtspMessage} (hf : Fits E s (.event message)) :
    Answered E s (.event message) := by
  unfold Fits at hf
  dsimp only at hf
  show (∀ note ∈ (onAnnounceResponse E s message (E.resourceName message)).2, _) ∧ (_ →
    (onAnnounceResponse E s message (E.resourceName message)).1.mrcpMessage = _)
  cases hp : announceParse E message (E.resourceName message) with
  | none =>
    rw [hp] at hf
    rw [onAnnounceResponse_nothing hp hf]
    exact ⟨fun _ hn => absurd hn not_mem_nil, fun _ => rfl⟩
  | some event =>
    rw [hp] at hf
    rw [onAnnounceResponse_some hp]
    refine ⟨fun note hn => ⟨event, mem_singleton.1 hn, hf⟩, fun hr => ?_⟩
    cases hs : s.mrcpMessage with
    | none => rfl
    | some request =>
      have hne : event.startLine.requestId ≠ request.startLine.requestId := hr event hp request hs
      simp [hne]

end Requests

/-! ## Runs -/

theorem kept_step {E : Profile D} {s : ClientAgent D} (h : Kept s) (call : ClientCall D) (hf : Fits E s call) :
    Kept (s.step E call).1 ∧ Answered E s call := by
  cases call with
  | offer descriptor =>
    refine ⟨h.issue (methodId_sessionOffer E descriptor) ?_, rfl⟩
    rintro ⟨_, _, hc⟩
    cases hc
  | discover descriptor =>
    refine ⟨h.issue rfl ?_, rfl⟩
    rintro ⟨_, _, hc⟩
    cases hc
  | control message =>
    unfold Answered
    simp only [ClientAgent.step]
    cases hc : sessionControl E message with
    | none => exact ⟨h, rfl⟩
    | some r => exact ⟨kept_control h hc hf, rfl⟩
  | response response =>
    unfold Answered
    simp only [ClientAgent.step]
    cases hr : s.requests with
    | nil =>
      refine ⟨h, fun request requests heq => ?_⟩
      cases heq
    | cons request requests =>
      have hs : ResponseFits E s request response := hf request requests hr
      refine ⟨kept_response h hr hs, fun request' requests' heq => ?_⟩
      obtain ⟨rfl, rfl⟩ := List.cons.inj heq
      exact answers_of_fits h hr hs
  | event message => exact ⟨kept_event h message, answered_event hf⟩

/-- **In a run whose calls fit, every response answers its request, and no event answers one.** -/
theorem answered_of_fits (E : Profile D) (calls : List (ClientCall D))
    (h : EachStep (ClientAgent.step E) (Fits E) {} calls) :
    EachStep (ClientAgent.step E) (Answered E) {} calls :=
  eachStep_of_invariant Kept (Fits E) (Answered E) (fun _ call hs hfits => (kept_step hs call hfits).1)
    (fun _ call hs hfits => (kept_step hs call hfits).2) _ calls kept_init h

def synthProfile : Profile Unit where
  resourceFactory := Mrcp.synthParser.resourceFactory
  resourceMap := [(ascii "speechsynth", ascii "synthesizer")]
  sdpParse := fun _ => none

def speakRequest : Message Unit :=
  { Mrcp.messageCreate Unit with
    startLine := { Mrcp.startLineInit with
      messageType := .request, requestId := 1, methodName := ascii "SPEAK", methodId := some 2 }
    channelId := ⟨[], ascii "speechsynth"⟩
    resource := some Mrcp.synthResource }

def withMrcp (startLine : UniRtsp.RtspLine) (text : Bytes) : RtspMessage :=
  mrcpBodySet (UniRtsp.messageCreate .none startLine) { Mrcp.messageCreate Unit with
    startLine := { Mrcp.startLineInit with length := text.length } } text

def speakResponse : RtspMessage :=
  withMrcp (.response .v1 200 (ascii "OK")) (ascii "MRCP/1.0 1 200 IN-PROGRESS\r\n\r\n")

def speakComplete : RtspMessage :=
  withMrcp (.request [] methodAnnounce [] (some (ascii "synthesizer")) .v1)
    (ascii "SPEAK-COMPLETE 1 COMPLETE MRCP/1.0\r\n\r\n")

def parsedAs (E : Profile Unit) (message : RtspMessage) (name : Bytes) : Option (Mrcp.MessageType × Nat) :=
  (announceParse E message name).map fun m => (m.startLine.messageType, m.startLine.requestId)

theorem parsedAs_some {E : Profile Unit} {message : RtspMessage} {name : Bytes} {p : Mrcp.MessageType × Nat}
    (h : parsedAs E message name = some p) :
    ∃ m, announceParse E message name = some m ∧ m.startLine.messageType = p.1 ∧ m.startLine.requestId = p.2 := by
  obtain ⟨m, hm, rfl⟩ := Option.map_eq_some_iff.1 h
  exact ⟨m, hm, rfl, rfl⟩

theorem sessionControl_speakRequest : ∃ m rtsp, sessionControl synthProfile speakRequest = some (m, rtsp) ∧
    m.startLine.requestId = 1 ∧ synthProfile.resourceName rtsp = ascii "speechsynth" := by
  have h : ((sessionControl synthProfile speakRequest).map fun r =>
      (r.1.startLine.requestId, synthProfile.resourceName r.2)) = some (1, ascii "speechsynth") := by decide
  obtain ⟨⟨m, rtsp⟩, hm, heq⟩ := Option.map_eq_some_iff.1 h
  exact ⟨m, rtsp, hm, congrArg Prod.fst heq, congrArg Prod.snd heq⟩

/-- A SPEAK request is answered, and its completion is notified. -/
theorem speak_answered : EachStep (ClientAgent.step synthProfile) (Answered synthProfile) {}
    [.control speakRequest, .response speakResponse, .event speakComplete] := by
  refine answered_of_fits synthProfile _ ⟨fun request hmem => absurd hmem not_mem_nil, ?_, ?_, trivial⟩
  · obtain ⟨m, rtsp, hctrl, hid, hname⟩ := sessionControl_speakRequest
    obtain ⟨response, hresp, htype, hid'⟩ :=
      parsedAs_some (show parsedAs synthProfile speakResponse (ascii "speechsynth") = some (.response, 1) by decide)
    simp only [ClientAgent.step, hctrl]
    intro request requests heq
    obtain ⟨rfl, -⟩ := List.cons.inj heq
    unfold ResponseFits
    simp only [hname, hresp]
    exact ⟨htype, hid'.trans hid.symm⟩
  · obtain ⟨event, hev, htype, -⟩ :=
      parsedAs_some (show parsedAs synthProfile speakComplete (synthProfile.resourceName speakComplete) =
        some (.event, 1) by decide)
    unfold Fits
    simp only [hev]
    exact htype

theorem not_answered_event {E : Profile D} {s : ClientAgent D} {message : RtspMessage} {request : Message D}
    (hs : s.mrcpMessage = some request) (hp : announceParse E message (E.resourceName message) = none) :
    ¬Answered E s (.event message) := by
  intro h
  have hm : .control (responseCreate request statusCodeMethodFailed) ∈
      (onAnnounceResponse E s message (E.resourceName message)).2 := by
    rw [onAnnounceResponse_failed hp hs]
    exact mem_cons_self
  obtain ⟨event, hn, ht⟩ := h.1 _ hm
  obtain rfl := ClientNote.control.inj hn
  rw [(responseCreate_startLine request statusCodeMethodFailed).1] at ht
  cases ht

/-- After a SPEAK request there is an event without content. -/
theorem not_answered : ¬ ∀ (E : Profile Unit) (calls : List (ClientCall Unit)),
    EachStep (ClientAgent.step E) (Answered E) {} calls := by
  intro h
  obtain ⟨m, rtsp, hctrl, -, -⟩ := sessionControl_speakRequest
  have hev := (h synthProfile [.control speakRequest,
    .event (UniRtsp.messageCreate .none (.request [] methodAnnounce [] (some (ascii "synthesizer")) .v1))]).2.1
  exact not_answered_event rfl rfl hev

end UniMrcp.MrcpUniRtsp
