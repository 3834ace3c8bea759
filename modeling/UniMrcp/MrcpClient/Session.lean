import UniMrcp.Mrcp.StartLine
import UniMrcp.MrcpServer.Descriptor

/-!
# Client sessions

A client session processes the requests of the application one at a time. A request starts subrequests, to the connection
agent, the media engine and the signaling agent; the session goes on when the last of them is completed.
-/

namespace UniMrcp.MrcpClient

open Apt Mrcp
open MrcpServer (ControlDescriptor RtpMedia SessionDescriptor StreamDirection)

/-- `mrcp_message_t`, as far as a session reads and writes it. -/
structure ControlMessage where
  messageType : MessageType
  requestId : Nat := 0
  sessionId : Bytes := []
  resourceName : Bytes := []
  methodId : Nat := 0
  methodName : Bytes := []
  statusCode : Nat := 0
deriving DecidableEq

def statusCodeSuccess : Nat := 200

def statusCodeMethodFailed : Nat := 407

def responseCreate (request : ControlMessage) : ControlMessage :=
  { request with messageType := .response, statusCode := statusCodeSuccess }

/-- `mrcp_app_message_t`: a request of the application. Channels are named by a key. -/
inductive AppMessage
  /-- `MRCP_SIG_COMMAND_SESSION_UPDATE` -/
  | sessionUpdate
  /-- `MRCP_SIG_COMMAND_SESSION_TERMINATE` -/
  | sessionTerminate
  /-- `MRCP_SIG_COMMAND_CHANNEL_ADD` -/
  | channelAdd (key : Nat)
  /-- `MRCP_SIG_COMMAND_CHANNEL_REMOVE` -/
  | channelRemove (key : Nat)
  /-- `MRCP_SIG_COMMAND_RESOURCE_DISCOVER` -/
  | resourceDiscover
  /-- `MRCP_APP_MESSAGE_TYPE_CONTROL` -/
  | control (key : Nat) (message : ControlMessage)
deriving DecidableEq

/-- `mrcp_sig_status_code_e` -/
inductive SigStatusCode
  | success
  | failure
  | terminate
  | cancel
deriving DecidableEq

structure Response where
  request : AppMessage
  status : SigStatusCode
  descriptor : Option SessionDescriptor := none
  message : Option ControlMessage := none
deriving DecidableEq

/-- An answer of the server: its response code, and the descriptor. -/
structure Answer where
  responseCode : Nat
  descriptor : SessionDescriptor := {}
deriving DecidableEq

/-! ## Subrequests -/

/-- A media termination: that of a slot, or that which the application has given with a channel. -/
inductive Termination
  | rtp (slot : Nat)
  | channel (channel : Nat)
deriving DecidableEq

/-- What a session starts, and waits for. Channels are named by their position in the session. -/
inductive Subrequest
  /-- `mrcp_client_control_channel_add` -/
  | controlAdd (channel : Nat)
  /-- `mrcp_client_control_channel_modify` -/
  | controlModify (channel : Nat)
  /-- `mrcp_client_control_channel_remove` -/
  | controlRemove (channel : Nat)
  /-- `MPF_ADD_TERMINATION` -/
  | terminationAdd (termination : Termination)
  /-- `MPF_MODIFY_TERMINATION`, of a slot -/
  | terminationModify (slot : Nat)
  /-- `MPF_SUBTRACT_TERMINATION` -/
  | terminationSubtract (termination : Termination)
  /-- `MPF_RESET_ASSOCIATIONS` -/
  | resetAssociations
  /-- `MPF_ADD_ASSOCIATION`, of a slot and its channel -/
  | addAssociation (slot : Nat)
  /-- `MPF_APPLY_TOPOLOGY` -/
  | applyTopology
  /-- `MPF_DESTROY_TOPOLOGY` -/
  | destroyTopology
  /-- `mrcp_session_terminate_request` -/
  | terminate
  /-- `mrcp_session_discover_request`, for a resource in version 1 -/
  | discover (resourceName : Option Bytes)
  /-- `mrcp_session_offer`, which is not counted -/
  | offer
  /-- An MRCP request for a channel, which is not counted. -/
  | control (key : Nat)
deriving DecidableEq

inductive Flag
  /-- `waiting_for_channel` -/
  | channel (channel : Nat)
  /-- `waiting_for_termination` -/
  | termination (channel : Nat)
  /-- `waiting` of a slot -/
  | slot (slot : Nat)
deriving DecidableEq

def Termination.flag : Termination → Flag
  | .rtp i => .slot i
  | .channel i => .termination i

def Subrequest.flag : Subrequest → Option Flag
  | .controlAdd i | .controlModify i | .controlRemove i => some (.channel i)
  | .terminationAdd t | .terminationSubtract t => some t.flag
  | .terminationModify i => some (.slot i)
  | _ => none

structure Result where
  status : Bool := true
  /-- The local audio media of an RTP termination. -/
  localMedia : Option RtpMedia := none
  answer : Option Answer := none
  /-- The session identifier that the signaling agent has set before the answer, in version 1. -/
  sessionId : Option Bytes := none
  descriptor : Option SessionDescriptor := none
deriving DecidableEq

/-! ## Sessions -/

/-- `mrcp_client_session_state_e` -/
inductive SessionState
  | none
  | generatingOffer
  | processingAnswer
  | terminating
  | discovering
deriving DecidableEq

/-- The termination that the application gives with a channel, and the direction of its audio stream. -/
structure MediaTermination where
  audio : Option StreamDirection
deriving DecidableEq

/-- What the application creates a channel with. A channel without a termination has an RTP descriptor. -/
structure ChannelSetup where
  resourceName : Bytes
  termination : Option MediaTermination
  /-- The local audio media of the RTP descriptor. -/
  localMedia : Option RtpMedia := none
deriving DecidableEq

/-- What a session is set up with, and the channels that the application has created for it. -/
structure Profile where
  mrcpVersion : Version
  mpfFactory : Bool
  /-- The resources of the factory, in the order of their identifiers. -/
  resources : List Bytes
  channel : Nat → ChannelSetup

structure Environment where
  /-- `mrcp_sa_factory_agent_select` -/
  signalingAgent : Bool := true
  /-- `mrcp_ca_factory_agent_select` -/
  connectionAgent : Bool := true
  /-- `mpf_engine_factory_engine_select` -/
  mediaEngine : Bool := true
  createClientSession : Bool := true
  /-- The call that starts a subrequest returns true. -/
  accepts : Subrequest → Bool

structure Channel where
  key : Nat
  resourceName : Bytes
  termination : Option MediaTermination
  controlChannel : Bool
  waitingForChannel : Bool := false
  waitingForTermination : Bool := false
deriving DecidableEq

/-- `rtp_termination_slot_t`. The slot at a position is that of the channel at this position. -/
structure Slot where
  termination : Bool := false
  waiting : Bool := false
  id : Nat := 0
deriving DecidableEq

inductive Event
  | request (message : AppMessage)
  /-- `application->handler`, for a response -/
  | response (response : Response)
  /-- `application->handler`, for the event that the session is disconnected -/
  | terminateEvent
  /-- `application->handler`, for an MRCP event -/
  | controlEvent (key : Nat) (message : ControlMessage)
  | send (key : Nat) (message : ControlMessage)
  | start (subrequest : Subrequest)
  | complete (subrequest : Subrequest)
  /-- `mrcp_client_session_add` -/
  | sessionAdd
  /-- `mrcp_client_session_remove` -/
  | sessionRemove
  /-- `mrcp_client_control_channel_destroy` -/
  | controlDestroy (channel : Nat)
deriving DecidableEq

/-- `mrcp_client_session_t` -/
structure Session where
  id : Bytes := []
  lastRequestId : Nat := 0
  context : Bool := false
  terminations : List Slot := []
  channels : List Channel := []
  registered : Bool := false
  offer : Option SessionDescriptor := none
  answer : Option SessionDescriptor := none
  activeRequest : Option AppMessage := none
  requestQueue : List AppMessage := []
  state : SessionState := .none
  status : SigStatusCode := .success
  subrequestCount : Nat := 0
  disconnected : Bool := false
  /-- The active request was taken from the queue, and is about to be dispatched. -/
  dispatching : Bool := false
  /-- Something was read through a null pointer, or beyond the end of an array. -/
  badRead : Bool := false
  /-- The subrequests that were started and are not completed. -/
  outstanding : List Subrequest := []
  log : List Event := []
deriving DecidableEq

variable (P : Profile) (W : Environment)

def Session.see (s : Session) (event : Event) : Session := { s with log := s.log ++ [event] }

def Session.modifyChannel (s : Session) (i : Nat) (f : Channel → Channel) : Session :=
  { s with channels := s.channels.modify i f }

def Session.modifySlot (s : Session) (i : Nat) (f : Slot → Slot) : Session :=
  { s with terminations := s.terminations.modify i f }

def Session.modifyOffer (s : Session) (f : SessionDescriptor → SessionDescriptor) : Session :=
  match s.offer with
  | none => { s with badRead := true }
  | some offer => { s with offer := some (f offer) }

def Session.waiting (s : Session) : Flag → Bool
  | .channel i => s.channels[i]?.any Channel.waitingForChannel
  | .termination i => s.channels[i]?.any Channel.waitingForTermination
  | .slot i => s.terminations[i]?.any Slot.waiting

def Session.setWaiting (s : Session) (flag : Flag) (b : Bool) : Session :=
  match flag with
  | .channel i => s.modifyChannel i ({ · with waitingForChannel := b })
  | .termination i => s.modifyChannel i ({ · with waitingForTermination := b })
  | .slot i => s.modifySlot i ({ · with waiting := b })

/-- `mrcp_client_session_state_set`, which resets the count of subrequests. -/
def Session.stateSet (s : Session) (state : SessionState) : Session := { s with subrequestCount := 0, state := state }

/-- `mrcp_client_session_subrequest_add` -/
def Session.subrequestAdd (s : Session) : Session := { s with subrequestCount := s.subrequestCount + 1 }

/-- `mrcp_client_session_subrequest_remove`, and what follows if it returns true. -/
def Session.subrequestRemove (s : Session) (last : Session → Session) : Session :=
  if s.subrequestCount = 0 then s
  else
    let s := { s with subrequestCount := s.subrequestCount - 1 }
    if s.subrequestCount = 0 then last s else s

def Session.start (s : Session) (subrequest : Subrequest) : Session :=
  { s with outstanding := s.outstanding ++ [subrequest] }.see (.start subrequest)

/-- A subrequest is started by a call that may return false. If it returns true, its flag is raised, and it is
counted. -/
def Session.request (s : Session) (subrequest : Subrequest) : Session :=
  if W.accepts subrequest then
    let s := s.start subrequest
    (match subrequest.flag with
    | none => s
    | some flag => s.setWaiting flag true).subrequestAdd
  else s

/-- The next request is taken from the queue, and is about to be dispatched. -/
def Session.requestPop (s : Session) : Session :=
  { s with
    activeRequest := s.requestQueue.head?
    requestQueue := s.requestQueue.tail
    dispatching := s.requestQueue.head?.isSome }

/-- `mrcp_app_sig_response_raise` -/
def Session.sigResponseRaise (s : Session) (processPendingRequests : Bool) : Session :=
  match s.activeRequest with
  | none => s
  | some request =>
    let s := if s.disconnected then { s with status := .terminate } else s
    let s := { s with activeRequest := none }.see (.response { request, status := s.status })
    if processPendingRequests then s.requestPop else s

/-- `mrcp_app_failure_message_raise` -/
def Session.failureMessageRaise (s : Session) : Session :=
  match s.activeRequest with
  | none => s
  | some request =>
    let message :=
      match request with
      | .control _ message => some { responseCreate message with statusCode := statusCodeMethodFailed }
      | _ => none
    { s with activeRequest := none }.see (.response { request, status := s.status, message })

/-- `mrcp_app_control_message_raise` -/
def Session.controlMessageRaise (s : Session) (key : Nat) (message : ControlMessage) : Session :=
  match message.messageType with
  | .response =>
    match s.activeRequest with
    | some (.control target request) =>
      let message := { message with methodId := request.methodId, methodName := request.methodName }
      (s.see (.response { request := .control target request, status := .success, message := some message })).requestPop
    | _ => s
  | .event => s.see (.controlEvent key message)
  | _ => s

def Session.controlDestroy (s : Session) (i : Nat) : Session :=
  if s.channels[i]?.any Channel.controlChannel then
    (s.modifyChannel i ({ · with controlChannel := false })).see (.controlDestroy i)
  else s

/-- `mrcp_app_session_terminate_raise` -/
def Session.sessionTerminateRaise (s : Session) (status : SigStatusCode) : Session :=
  let s := ((List.range s.channels.length).foldl Session.controlDestroy s).see .sessionRemove
  (if status = .success then s else { s with status := status }).sigResponseRaise false

/-! ## Offers -/

/-- `mrcp_client_session_offer_send` -/
def Session.offerSend (s : Session) : Session :=
  if s.offer.isNone then { s with badRead := true } else if W.accepts .offer then s.start .offer else s

/-- `mrcp_client_channel_find` -/
def Session.channelFind (s : Session) (key : Nat) : Option Nat := s.channels.findIdx? fun channel => channel.key == key

def streamReverseDirectionGet (direction : StreamDirection) : StreamDirection := ⟨direction.receive, direction.send⟩

def directionRemove (direction1 direction2 : StreamDirection) : StreamDirection :=
  ⟨direction1.send && !direction2.send, direction1.receive && !direction2.receive⟩

def tcpDiscardPort : Nat := 9

/-- The audio media of a channel is enabled or disabled in the directions of the stream of its termination. -/
def audioMediaModify (media : RtpMedia) (audio : StreamDirection) (enable : Bool) : RtpMedia :=
  let direction :=
    if enable then media.direction.or (streamReverseDirectionGet audio)
    else directionRemove media.direction (streamReverseDirectionGet audio)
  { media with direction := direction, enabled := direction != {} }

def Session.channelMediaModify (s : Session) (i : Nat) (enable : Bool) (offer : SessionDescriptor) :
    SessionDescriptor :=
  let offer :=
    match offer.controlMediaGet i with
    | none => offer
    | some media => offer.controlMediaSet i { media with port := if enable then tcpDiscardPort else 0 }
  let id := (s.terminations[i]?.map Slot.id).getD 0
  match (s.channels[i]?.bind Channel.termination).bind MediaTermination.audio, offer.audioMediaGet id with
  | some audio, some media => offer.audioMediaSet id (audioMediaModify media audio enable)
  | _, _ => offer

/-- `mrcp_client_channel_modify` -/
def Session.channelModify (s : Session) (key : Nat) (enable : Bool) : Session :=
  match s.offer with
  | none => s
  | some offer =>
    let offer :=
      match s.channelFind key with
      | none => offer
      | some i => s.channelMediaModify i enable offer
    let offer := { offer with resourceName := (P.channel key).resourceName, resourceState := enable }
    { s with offer := some offer }.offerSend W

/-- `mrcp_session_media_count_get` -/
def mediaCountGet (descriptor : SessionDescriptor) : Nat :=
  descriptor.controlMediaArr.length + descriptor.audioMediaArr.length + descriptor.videoMediaArr.length

/-- `mrcp_control_offer_create`, and the media is added to the offer. -/
def controlOfferAdd (offer : SessionDescriptor) (resourceName : Bytes) : SessionDescriptor :=
  let media : ControlDescriptor :=
    { proto := .tcp, port := tcpDiscardPort, setupType := .active, connectionType := .existing
      id := mediaCountGet offer, cmidArr := [offer.controlMediaArr.length + 1], resourceName }
  { offer with controlMediaArr := offer.controlMediaArr ++ [some media] }

def audioOfferAdd (offer : SessionDescriptor) (media : RtpMedia) : SessionDescriptor :=
  let added := { media with id := mediaCountGet offer, mid := offer.audioMediaArr.length + 1 }
  { offer with ip := media.ip, extIp := media.extIp, audioMediaArr := offer.audioMediaArr ++ [some added] }

def Session.localMediaAdd (s : Session) (i : Nat) (localMedia : Option RtpMedia) : Session :=
  match localMedia with
  | none => s
  | some media =>
    let s := s.modifyOffer (audioOfferAdd · media)
    s.modifySlot i ({ · with id := s.offer.elim 0 (·.audioMediaArr.length - 1) })

def Session.channelPush (s : Session) (key : Nat) (setup : ChannelSetup) : Session :=
  let channel : Channel :=
    { key, resourceName := setup.resourceName, termination := setup.termination
      controlChannel := P.mrcpVersion != .v1 }
  { s with channels := s.channels ++ [channel], terminations := s.terminations ++ [{}] }

/-- The resource or the control media of a channel is offered, and its control channel is added. -/
def Session.controlOffer (s : Session) (i : Nat) (resourceName : Bytes) : Session :=
  if P.mrcpVersion = .v1 then s.modifyOffer ({ · with resourceName := resourceName, resourceState := true })
  else (s.modifyOffer (controlOfferAdd · resourceName)).request W (.controlAdd i)

/-- The termination of a channel and the RTP termination of its slot are added, or the local media is offered. -/
def Session.mediaOffer (s : Session) (i : Nat) (setup : ChannelSetup) : Session :=
  match setup.termination with
  | some _ =>
    let s := { s with context := true }.request W (.terminationAdd (.channel i))
    (s.modifySlot i ({ · with termination := true })).request W (.terminationAdd (.rtp i))
  | none => s.localMediaAdd i setup.localMedia

/-- `mrcp_client_channel_add` -/
def Session.channelAdd (s : Session) (key : Nat) : Session :=
  if (s.channelFind key).isSome then s.channelModify P W key true
  else
    let setup := P.channel key
    let s := { s with offer := some (s.offer.getD {}) }.stateSet .generatingOffer
    let i := s.channels.length
    let s := ((s.channelPush P key setup).controlOffer P W i setup.resourceName).mediaOffer W i setup
    if s.subrequestCount = 0 then s.offerSend W else s

/-- `mrcp_client_session_update` -/
def Session.sessionUpdate (s : Session) : Session := if s.offer.isNone then s else s.offerSend W

/-- A channel is released: its control channel and its termination. -/
def Session.channelRelease (s : Session) (i : Nat) : Session :=
  match s.channels[i]? with
  | none => s
  | some channel =>
    let s := if channel.controlChannel then s.request W (.controlRemove i) else s
    if channel.termination.isSome then s.request W (.terminationSubtract (.channel i)) else s

def Session.slotRelease (s : Session) (i : Nat) : Session :=
  if s.terminations[i]?.any Slot.termination then s.request W (.terminationSubtract (.rtp i)) else s

/-- `mrcp_client_session_terminate`. The termination is counted, whether the signaling agent takes it or not. -/
def Session.sessionTerminate (s : Session) : Session :=
  let s := s.stateSet .terminating
  let s := if s.context then s.request W .destroyTopology else s
  let s := (List.range s.channels.length).foldl (Session.channelRelease W) s
  let s := if s.context then (List.range s.terminations.length).foldl (Session.slotRelease W) s else s
  let s := s.subrequestAdd
  if W.accepts .terminate then s.start .terminate else s

/-- `mrcp_client_resource_discover` -/
def Session.resourceDiscover (s : Session) : Session :=
  let s := { s with answer := none }.stateSet .discovering
  let s : Session :=
    if P.mrcpVersion = .v1 then P.resources.foldl (fun s name => Session.request W s (.discover (some name))) s
    else s.request W (.discover none)
  if s.subrequestCount = 0 then { s with status := .failure }.sigResponseRaise true else s

def Session.discoverRaise (s : Session) : Session :=
  match s.activeRequest with
  | none => s
  | some request =>
    ({ s with answer := none }.see (.response { request, status := .success, descriptor := s.answer })).requestPop

def discoveredAdd (answer descriptor : SessionDescriptor) : SessionDescriptor :=
  let media : ControlDescriptor := { id := mediaCountGet answer, resourceName := descriptor.resourceName }
  { answer with controlMediaArr := answer.controlMediaArr ++ [some media] }

/-- `mrcp_client_session_discover_response_process` -/
def Session.discoverResponseProcess (s : Session) (descriptor : Option SessionDescriptor) : Session :=
  if s.activeRequest.isNone then s
  else
    match descriptor with
    | none => { s with status := .failure }.sigResponseRaise true
    | some descriptor =>
      let s :=
        if P.mrcpVersion = .v1 then
          if descriptor.resourceState then { s with answer := some (discoveredAdd (s.answer.getD descriptor) descriptor) }
          else s
        else { s with answer := some descriptor }
      s.subrequestRemove Session.discoverRaise

/-- `mrcp_client_message_send`. A message goes to the connection agent if the channel has a control channel, or else to
the signaling agent. -/
def Session.messageSend (s : Session) (key : Nat) (message : ControlMessage) : Session :=
  if s.id = [] then
    s.controlMessageRaise key { responseCreate message with statusCode := statusCodeMethodFailed }
  else
    let requestId := s.lastRequestId + 1
    let s := { s with lastRequestId := requestId }
    if W.accepts (.control key) then
      (s.start (.control key)).see (.send key { message with sessionId := s.id, requestId := requestId })
    else s

def AppMessage.isSessionTerminate : AppMessage → Bool
  | .sessionTerminate => true
  | _ => false

def agentsSelected : Bool :=
  W.signalingAgent && (P.mrcpVersion != .v2 || W.connectionAgent) && (!P.mpfFactory || W.mediaEngine)

def Session.requestProcess (s : Session) (message : AppMessage) : Session :=
  let s := { s with status := .success }
  match message with
  | .sessionUpdate => s.sessionUpdate W
  | .sessionTerminate => s.sessionTerminate W
  | .channelAdd key => s.channelAdd P W key
  | .channelRemove key => s.channelModify P W key false
  | .resourceDiscover => s.resourceDiscover P W
  | .control key message => s.messageSend W key message

/-- The part of `mrcp_app_request_dispatch` that registers a session. A failure to select an agent is kept. -/
def Session.register (s : Session) (message : AppMessage) : Session :=
  let s := if agentsSelected P W then s else { s with status := .failure }
  if s.status = .failure then s.failureMessageRaise
  else if !W.createClientSession then { s with status := .failure }.failureMessageRaise
  else ({ s with registered := true }.see .sessionAdd).requestProcess P W message

/-- `mrcp_app_request_dispatch` -/
def Session.requestDispatch (s : Session) (message : AppMessage) : Session :=
  if s.state = .terminating then s
  else if s.disconnected && !message.isSessionTerminate then { s with status := .cancel }.failureMessageRaise
  else if s.registered then s.requestProcess P W message
  else if message.isSessionTerminate then { s with status := .success }.sigResponseRaise false
  else s.register P W message

/-- `mrcp_client_app_message_process` -/
def Session.appMessageProcess (s : Session) (message : AppMessage) : Session :=
  let s := s.see (.request message)
  if s.activeRequest.isSome then { s with requestQueue := s.requestQueue ++ [message] }
  else { s with activeRequest := some message }.requestDispatch P W message

def Session.controlModify (s : Session) (i : Nat) : Session :=
  if i < s.channels.length then s.request W (.controlModify i) else { s with badRead := true }

/-- `mrcp_client_control_media_answer_process` -/
def Session.controlMediaAnswerProcess (s : Session) (descriptor : SessionDescriptor) : Session :=
  let id := if s.id = [] then ((descriptor.controlMediaGet 0).map ControlDescriptor.sessionId).getD [] else s.id
  (List.range descriptor.controlMediaArr.length).foldl (Session.controlModify W) { s with id := id }

/-- The RTP termination of a slot is modified, and associated with the termination of its channel. -/
def Session.slotModify (s : Session) (i : Nat) : Session :=
  match s.terminations[i]? with
  | none => { s with badRead := true }
  | some slot =>
    if slot.termination then
      let s := s.request W (.terminationModify i)
      if s.channels[i]?.any (·.termination.isSome) then s.request W (.addAssociation i) else s
    else s

/-- `mrcp_client_av_media_answer_process` -/
def Session.avMediaAnswerProcess (s : Session) (descriptor : SessionDescriptor) : Session :=
  (List.range descriptor.audioMediaArr.length).foldl (Session.slotModify W) s

/-- `mrcp_client_resource_answer_process`, and the failure of the session if it fails. -/
def Session.resourceAnswerProcess (s : Session) (descriptor : SessionDescriptor) : Session :=
  if s.offer.any SessionDescriptor.resourceState then
    if descriptor.resourceState then s.avMediaAnswerProcess W descriptor else { s with status := .failure }
  else s

def Session.answerAccept (s : Session) (descriptor : SessionDescriptor) : Session :=
  let s := s.stateSet .processingAnswer
  let s := if s.context then s.request W .resetAssociations else s
  let s :=
    if P.mrcpVersion = .v1 then s.resourceAnswerProcess W descriptor
    else (s.controlMediaAnswerProcess W descriptor).avMediaAnswerProcess W descriptor
  if s.context then s.request W .applyTopology else s

def Answer.accepted (answer : Answer) : Bool := 200 ≤ answer.responseCode && answer.responseCode < 300

/-- What `mrcp_client_session_answer_process` does with the answer, before it responds. -/
def Session.answerTake (s : Session) (answer : Answer) : Session :=
  { (if answer.accepted then s.answerAccept P W answer.descriptor else { s with status := .terminate }) with
    answer := some answer.descriptor }

/-- `mrcp_client_session_answer_process` -/
def Session.answerProcess (s : Session) (answer : Option Answer) : Session :=
  if s.offer.isNone then s
  else
    match answer with
    | none => { s with status := .failure }.sigResponseRaise true
    | some answer =>
      let s := s.answerTake P W answer
      if s.subrequestCount = 0 then s.sigResponseRaise true else s

/-! ## Completion of subrequests -/

/-- What the handlers of the completion of a subrequest with a flag have in common: it is taken only while the session
waits for it. -/
def Session.onWaited (s : Session) (flag : Flag) (last : Session → Session)
    (update : Session → Session := fun s => s) : Session :=
  if s.waiting flag then (update (s.setWaiting flag false)).subrequestRemove last else s

/-- `mrcp_client_on_channel_add` -/
def Session.onChannelAdd (s : Session) (i : Nat) : Session := s.onWaited (.channel i) (Session.offerSend W)

/-- `mrcp_client_on_channel_modify` -/
def Session.onChannelModify (s : Session) (i : Nat) (status : Bool) : Session :=
  s.onWaited (.channel i) fun s => (if status then s else { s with status := .failure }).sigResponseRaise true

/-- `mrcp_client_on_channel_remove` -/
def Session.onChannelRemove (s : Session) (i : Nat) (status : Bool) : Session :=
  s.onWaited (.channel i) (Session.sessionTerminateRaise · (if status then .success else .failure))

/-- `mrcp_client_on_termination_add` -/
def Session.onTerminationAdd (s : Session) (termination : Termination) (localMedia : Option RtpMedia) : Session :=
  match termination with
  | .rtp i => s.onWaited (.slot i) (Session.offerSend W) (Session.localMediaAdd · i localMedia)
  | .channel i => s.onWaited (.termination i) (Session.offerSend W)

/-- What follows the last completion of a modification of a termination or the topology. -/
def Session.mediaProceed (s : Session) : Session :=
  match s.state with
  | .generatingOffer => s.offerSend W
  | .processingAnswer => s.sigResponseRaise true
  | _ => s

/-- `mrcp_client_on_termination_modify` -/
def Session.onTerminationModify (s : Session) (i : Nat) : Session :=
  s.onWaited (.slot i) (Session.mediaProceed W)

/-- `mrcp_client_on_termination_subtract` -/
def Session.onTerminationSubtract (s : Session) (termination : Termination) : Session :=
  match termination with
  | .rtp i => s.onWaited (.slot i) (Session.sessionTerminateRaise · .success)
  | .channel i => s.onWaited (.termination i) (Session.sigResponseRaise · true)

/-- `mrcp_client_session_terminate_response_process` -/
def Session.terminateResponseProcess (s : Session) : Session :=
  s.subrequestRemove (Session.sessionTerminateRaise · .success)

/-- What the completion of a subrequest leads to. An MRCP request is completed by a message. -/
def Session.onCompletion (s : Session) (result : Result) : Subrequest → Session
  | .controlAdd i => s.onChannelAdd W i
  | .controlModify i => s.onChannelModify i result.status
  | .controlRemove i => s.onChannelRemove i result.status
  | .terminationAdd termination => s.onTerminationAdd W termination result.localMedia
  | .terminationModify i => s.onTerminationModify W i
  | .terminationSubtract termination => s.onTerminationSubtract termination
  | .resetAssociations | .addAssociation _ | .applyTopology | .destroyTopology =>
    s.subrequestRemove (Session.mediaProceed W)
  | .terminate => s.terminateResponseProcess
  | .discover _ => s.discoverResponseProcess P result.descriptor
  | .offer => { s with id := result.sessionId.getD s.id }.answerProcess P W result.answer
  | .control _ => s

def Session.complete (s : Session) (subrequest : Subrequest) : Session :=
  { s with outstanding := s.outstanding.erase subrequest }.see (.complete subrequest)

/-- `mrcp_client_session_terminate_event_process` -/
def Session.terminateEventProcess (s : Session) : Session :=
  if s.state = .terminating then s
  else
    let s := { s with disconnected := true }
    if s.activeRequest.isNone then s.see .terminateEvent else s

/-- `mrcp_client_channel_find_by_name` -/
def Session.channelFindByName (s : Session) (resourceName : Bytes) : Option Channel :=
  s.channels.find? fun channel => stringCompare channel.resourceName resourceName

/-- `mrcp_client_on_message_receive`, and `mrcp_client_session_control_response_process`, where a message is for the
channel of its resource. -/
def Session.messageReceive (s : Session) (key : Nat) (message : ControlMessage) : Session :=
  if P.mrcpVersion = .v1 then
    (s.channelFindByName message.resourceName).elim s fun channel => s.controlMessageRaise channel.key message
  else s.controlMessageRaise key message

inductive Input
  | request (message : AppMessage)
  /-- The request that was taken from the queue is dispatched. -/
  | dispatch
  | completed (subrequest : Subrequest) (result : Result)
  /-- An MRCP message arrives for a channel: a response to a request, or an event. -/
  | receive (key : Nat) (message : ControlMessage)
  /-- The session or its connection is closed by the server. -/
  | disconnect
deriving DecidableEq

/-- One step. What the session calls meanwhile answers by the environment. -/
def Session.step (s : Session) (input : Environment × Input) : Session × Unit :=
  (match input with
  | (W, .request message) => s.appMessageProcess P W message
  | (W, .dispatch) => s.activeRequest.elim s ({ s with dispatching := false }.requestDispatch P W)
  | (W, .completed subrequest result) => (s.complete subrequest).onCompletion P W result subrequest
  | (_, .receive key message) =>
    (if message.messageType = .response then s.complete (.control key) else s).messageReceive P key message
  | (_, .disconnect) => s.terminateEventProcess, ())

def Subrequest.isControl : Subrequest → Bool
  | .control _ => true
  | _ => false

/-- A subrequest is completed once and after it was started, and a request taken from the queue is dispatched at once.
-/
def Session.enabled (s : Session) : Input → Bool
  | .request _ | .disconnect => !s.dispatching
  | .dispatch => s.dispatching
  | .completed subrequest _ => !s.dispatching && s.outstanding.contains subrequest && !subrequest.isControl
  | .receive key message =>
    !s.dispatching && (message.messageType != .response || s.outstanding.contains (.control key))

end UniMrcp.MrcpClient
