import UniMrcp.MrcpEngine.Served
import UniMrcp.MrcpServer.Descriptor

/-!
# Server sessions

A server session processes offers, requests for its channels and the request to terminate, one at a time. An offer and
the termination start subrequests; the session counts them, and goes on when the last of them is completed.
-/

namespace UniMrcp.MrcpServer

open Apt MrcpEngine

/-- A termination of the media engine: that of a slot, or that of the engine channel of a channel. -/
inductive Termination
  | rtp (slot : Nat)
  | engine (channel : Nat)
deriving DecidableEq

/-- What a session starts, and waits for. Channels are named by their position. -/
inductive Subrequest
  /-- `mrcp_server_control_channel_add` -/
  | controlAdd (channel : Nat)
  /-- `mrcp_server_control_channel_modify` -/
  | controlModify (channel : Nat)
  /-- `mrcp_server_control_channel_remove` -/
  | controlRemove (channel : Nat)
  /-- `MPF_ADD_TERMINATION` -/
  | terminationAdd (termination : Termination)
  /-- `MPF_MODIFY_TERMINATION` -/
  | terminationModify (termination : Termination)
  /-- `MPF_SUBTRACT_TERMINATION` -/
  | terminationSubtract (termination : Termination)
  /-- `MPF_RESET_ASSOCIATIONS` -/
  | resetAssociations
  /-- `MPF_ADD_ASSOCIATION` -/
  | addAssociation (termination : Termination) (assocTermination : Option Termination)
  /-- `MPF_APPLY_TOPOLOGY` -/
  | applyTopology
  /-- `mrcp_engine_channel_virtual_open` -/
  | engineOpen (channel : Nat)
  /-- `mrcp_engine_channel_virtual_close` -/
  | engineClose (channel : Nat)
  /-- `mrcp_state_machine_deactivate` -/
  | deactivate (channel : Nat)
deriving DecidableEq

structure Result where
  /-- The control media that the connection agent answers. -/
  answer : Option ControlDescriptor := none
  /-- The local audio media of an RTP termination. -/
  localMedia : Option RtpMedia := none
  /-- The remote audio media as the media engine leaves it, with the codecs that it has disabled. -/
  remoteMedia : Option RtpMedia := none
  status : Bool := true
deriving DecidableEq

/-! ## Sessions -/

/-- `mrcp_version_e` -/
inductive MrcpVersion
  | v1
  | v2
deriving DecidableEq

/-- `mrcp_server_session_state_e` -/
inductive SessionState
  | none
  | generatingAnswer
  | initializing
  | deactivating
  | terminating
deriving DecidableEq

structure EngineChannel where
  termination : Option Termination
  /-- The direction of the audio stream of the termination. -/
  audio : Option StreamDirection
  isOpen : Bool := false
deriving DecidableEq

/-- A call of an engine for an engine channel, with what it returns. -/
inductive EngineCall
  /-- `mrcp_engine_channel_virtual_create`, which gives an engine channel -/
  | create
  /-- `open` of the engine channel -/
  | openChannel (status : Bool)
  /-- `close` of the engine channel -/
  | closeChannel (status : Bool)
  /-- `mrcp_engine_channel_virtual_destroy` -/
  | destroy
deriving DecidableEq

structure MediaTermination where
  audio : Option StreamDirection

structure Profile (κ : Type) where
  mrcpVersion : MrcpVersion
  /-- `mrcp_resource_find` -/
  resourceFind : Bytes → Bool
  /-- The engine of a resource, if there is one, with the kind of state machine that it creates, if it does. -/
  engineFind : Bytes → Option (Option κ)
  /-- The codecs of `rtp_settings`. -/
  codecList : List CodecDescriptor

structure Environment where
  /-- `apt_unique_id_generate` -/
  uniqueIdGenerate : Bytes
  /-- `mrcp_engine_channel_virtual_create`, for a control media: an engine channel may be refused, or have no
  termination. -/
  engineChannelCreate : Nat → Option (Option MediaTermination)
  /-- `open` of the engine channel at a position. -/
  channelOpen : Nat → Bool
  /-- `close` of the engine channel at a position. -/
  channelClose : Nat → Bool

section Session

variable {κ σ μ ε D : Type}

structure ChannelMachine (κ σ μ D : Type) where
  kind : κ
  machine : σ
  /-- The pending request that is processed once the dispatch of a response returns. -/
  pending : Option (Message μ D) := none
  /-- The requests that the engine has not responded to. -/
  awaited : List (Message μ D) := []

structure Channel (κ σ μ D : Type) where
  resourceName : Bytes
  controlChannel : Bool
  engineChannel : Option EngineChannel
  stateMachine : Option (ChannelMachine κ σ μ D)
  id : Nat
  cmidArr : Option (List Nat)
  waitingForChannel : Bool := false
  waitingForTermination : Bool := false

/-- `mrcp_termination_slot_t` -/
structure Slot where
  termination : Termination
  id : Nat
  mid : Nat := 0
  channels : List Nat := []
  waiting : Bool := false
deriving DecidableEq

inductive SignalingMessage (μ D : Type)
  | offer (descriptor : SessionDescriptor)
  /-- A request for a channel: the one that it was received on, or else the one of a resource. -/
  | control (channel : Option Nat) (resourceName : Bytes) (message : Message μ D)
  | terminate

inductive Event (μ ε D : Type)
  | dispatch (message : SignalingMessage μ D)
  | start (subrequest : Subrequest)
  | complete (subrequest : Subrequest)
  | answer (descriptor : SessionDescriptor)
  /-- The session is deactivated, and begins to release what it has. -/
  | release
  | terminateResponse
  /-- The state machine of a channel passes something on. -/
  | out (channel : Nat) (output : Output μ ε D)

/-- `mrcp_server_session_t` -/
structure Session (κ σ μ ε D : Type) where
  id : Bytes := []
  context : Bool := false
  terminations : List Slot := []
  channels : List (Channel κ σ μ D) := []
  activeRequest : Option (SignalingMessage μ D) := none
  requestQueue : List (SignalingMessage μ D) := []
  offer : Option SessionDescriptor := none
  answer : Option SessionDescriptor := none
  lastOffer : Option SessionDescriptor := none
  lastAnswer : Option SessionDescriptor := none
  state : SessionState := .none
  subrequestCount : Nat := 0
  /-- The active request was taken from the queue, and is about to be dispatched. -/
  dispatching : Bool := false
  removed : Bool := false
  nullRead : Bool := false
  /-- The subrequests that were started and are not completed. -/
  outstanding : List Subrequest := []
  log : List (Event μ ε D) := []
  /-- The engines were called so far, for the channels at these positions. -/
  engineCalls : List (Nat × EngineCall) := []

variable (M : κ → StateMachine σ μ ε D) (P : Profile κ) (W : Environment)

def Session.see (s : Session κ σ μ ε D) (event : Event μ ε D) : Session κ σ μ ε D := { s with log := s.log ++ [event] }

def Session.call (s : Session κ σ μ ε D) (calls : List (Nat × EngineCall)) : Session κ σ μ ε D :=
  { s with engineCalls := s.engineCalls ++ calls }

def Session.modifyChannel (s : Session κ σ μ ε D) (i : Nat) (f : Channel κ σ μ D → Channel κ σ μ D) :
    Session κ σ μ ε D := { s with channels := s.channels.modify i f }

def Session.modifySlot (s : Session κ σ μ ε D) (i : Nat) (f : Slot → Slot) : Session κ σ μ ε D :=
  { s with terminations := s.terminations.modify i f }

def Session.pushChannel (s : Session κ σ μ ε D) (channel : Channel κ σ μ D) : Session κ σ μ ε D :=
  { s with channels := s.channels ++ [channel] }

def Session.pushSlot (s : Session κ σ μ ε D) (slot : Slot) : Session κ σ μ ε D :=
  { s with terminations := s.terminations ++ [slot] }

def Session.modifyOffer (s : Session κ σ μ ε D) (f : SessionDescriptor → SessionDescriptor) : Session κ σ μ ε D :=
  { s with offer := s.offer.map f }

def Session.modifyAnswer (s : Session κ σ μ ε D) (f : SessionDescriptor → SessionDescriptor) : Session κ σ μ ε D :=
  match s.answer with
  | none => { s with nullRead := true }
  | some answer => { s with answer := some (f answer) }

/-- `mrcp_server_session_state_set`, which resets the count of subrequests. -/
def Session.stateSet (s : Session κ σ μ ε D) (state : SessionState) : Session κ σ μ ε D :=
  { s with subrequestCount := 0, state := state }

/-- `mrcp_server_session_subrequest_add` -/
def Session.subrequestAdd (s : Session κ σ μ ε D) : Session κ σ μ ε D :=
  { s with subrequestCount := s.subrequestCount + 1 }

def Session.request (s : Session κ σ μ ε D) (subrequest : Subrequest) : Session κ σ μ ε D :=
  ({ s with outstanding := s.outstanding ++ [subrequest] }.see (.start subrequest)).subrequestAdd

/-- `mrcp_server_channel_find` -/
def Session.channelFind (s : Session κ σ μ ε D) (resourceName : Bytes) : Option Nat :=
  s.channels.findIdx? fun channel => stringCompare channel.resourceName resourceName

/-- The next request is taken from the queue, and is about to be dispatched. -/
def Session.requestPop (s : Session κ σ μ ε D) : Session κ σ μ ε D :=
  { s with
    activeRequest := s.requestQueue.head?
    requestQueue := s.requestQueue.tail
    dispatching := s.requestQueue.head?.isSome }

/-! ## Offers -/

/-- `mrcp_server_session_answer_send` -/
def Session.answerSend (s : Session κ σ μ ε D) : Session κ σ μ ε D :=
  match s.answer with
  | none => { s with nullRead := true }
  | some answer =>
    { s.see (.answer answer) with
      lastOffer := s.offer
      lastAnswer := s.answer
      offer := none
      answer := none }.requestPop

/-- `mrcp_server_channel_create`: none stands for a channel without a resource. -/
def Session.channelCreate (s : Session κ σ μ ε D) (resourceName : Bytes) (id : Nat) (cmidArr : Option (List Nat)) :
    Session κ σ μ ε D × Option (Channel κ σ μ D) :=
  if P.resourceFind resourceName then
    let engine := P.engineFind resourceName
    let engineChannel := engine.bind fun _ => (W.engineChannelCreate id).map fun media =>
      { termination := media.map fun _ => Termination.engine s.channels.length
        audio := media.bind MediaTermination.audio : EngineChannel }
    let channel : Channel κ σ μ D :=
      { resourceName, id, cmidArr, engineChannel
        controlChannel := P.mrcpVersion == .v2
        stateMachine := engine.join.map fun kind => { kind := kind, machine := (M kind).create } }
    (if engineChannel.isSome then s.call [(s.channels.length, .create)]
      else s.modifyAnswer ({ · with status := .unacceptableResource }), some channel)
  else (s.modifyAnswer ({ · with status := .noSuchResource }), none)

/-- The termination of the engine channel of a channel is added to the media context. -/
def Session.engineTerminationAdd (s : Session κ σ μ ε D) (i : Nat) (channel : Channel κ σ μ D) : Session κ σ μ ε D :=
  match channel.engineChannel.bind EngineChannel.termination with
  | none => s
  | some termination =>
    (s.modifyChannel i ({ · with waitingForTermination := true })).request (.terminationAdd termination)

/-- `mrcp_server_resource_offer_process` -/
def Session.resourceOfferProcess (s : Session κ σ μ ε D) (descriptor : SessionDescriptor) :
    Session κ σ μ ε D × Bool :=
  if descriptor.resourceState then
    if (s.channelFind descriptor.resourceName).isSome then (s, true)
    else
      match s.channelCreate M P W descriptor.resourceName s.channels.length none with
      | (s, none) => (s, false)
      | (s, some channel) =>
        if channel.engineChannel.isNone then (s, false)
        else
          ((s.pushChannel channel).engineTerminationAdd s.channels.length channel, true)
  else (s, true)

def Session.controlMediaReject (s : Session κ σ μ ε D) (id : Nat) (control : ControlDescriptor) : Session κ σ μ ε D :=
  s.modifyAnswer (·.controlMediaSet id { controlAnswerCreate control with port := 0, sessionId := s.id })

def Session.controlMediaModify (s : Session κ σ μ ε D) (i : Nat) : Session κ σ μ ε D :=
  match s.channels[i]? with
  | none => s
  | some channel =>
    let s := s.modifyChannel i ({ · with waitingForChannel := false })
    match s.offer.bind (·.controlMediaGet i) with
    | none => s
    | some control =>
      if channel.controlChannel then
        (s.modifyChannel i ({ · with waitingForChannel := true })).request (.controlModify i)
      else s.controlMediaReject channel.id control

def Session.controlMediaAdd (s : Session κ σ μ ε D) (i : Nat) : Session κ σ μ ε D :=
  match s.offer.bind (·.controlMediaGet i) with
  | none => s
  | some control =>
    match s.channelCreate M P W control.resourceName i (some control.cmidArr) with
    | (s, none) => s
    | (s, some channel) =>
      let control := { control with sessionId := s.id }
      let n := s.channels.length
      let s := (s.modifyOffer (·.controlMediaSet i control)).pushChannel channel
      let s :=
        if channel.controlChannel then
          (s.modifyChannel n ({ · with waitingForChannel := true })).request (.controlAdd n)
        else s.controlMediaReject channel.id control
      s.engineTerminationAdd n channel

/-- `mrcp_server_control_media_offer_process` -/
def Session.controlMediaOfferProcess (s : Session κ σ μ ε D) (descriptor : SessionDescriptor) : Session κ σ μ ε D :=
  let nelts := descriptor.controlMediaArr.length
  let count := min s.channels.length nelts
  let s := (List.range count).foldl Session.controlMediaModify s
  (List.range' count (nelts - count)).foldl (Session.controlMediaAdd M P W) s

def Session.associated (s : Session κ σ μ ε D) (mid : Nat) (channel : Channel κ σ μ D) : Bool :=
  s.terminations.length == 1 || channel.cmidArr.all (·.contains mid)

/-- An offered audio media is modified for MRCPv1 by the audio stream of an associated channel. -/
def mediaModify (media : RtpMedia) (direction : StreamDirection) : RtpMedia :=
  let media :=
    if media.direction = {} ∧ media.codecList = [] ∧ P.codecList ≠ [] then { media with codecList := P.codecList }
    else media
  { media with direction := media.direction.or direction, enabled := true }

/-- `mrcp_server_associations_build`: the slot with its channels, and the media. -/
def Session.associationsBuild (s : Session κ σ μ ε D) (slot : Slot) (media : RtpMedia) : Slot × RtpMedia :=
  let channels := (List.range s.channels.length).filter fun i => s.channels[i]?.any (s.associated media.mid)
  let directions := channels.filterMap fun i =>
    s.channels[i]?.bind fun channel => channel.engineChannel.bind EngineChannel.audio
  ({ slot with mid := media.mid, channels := channels },
    if P.mrcpVersion = .v1 then directions.foldl (mediaModify P) media else media)

/-- `mrcp_server_associations_set` -/
def Session.associationsSet (s : Session κ σ μ ε D) (slot : Slot) : Session κ σ μ ε D :=
  slot.channels.foldl (fun s i =>
    match s.channels[i]?.bind Channel.engineChannel with
    | none => s
    | some engineChannel => s.request (.addAssociation slot.termination engineChannel.termination)) s

/-- An audio media is processed with its slot: its termination is added or modified, and associated with channels. -/
def Session.audioMediaProcess (command : Termination → Subrequest) (s : Session κ σ μ ε D) (i : Nat) :
    Session κ σ μ ε D :=
  match s.terminations[i]? with
  | none => s
  | some slot =>
    match s.offer.bind (·.audioMediaGet slot.id) with
    | none => s
    | some media =>
      let (slot, media) := s.associationsBuild P slot media
      let s := (s.modifyOffer (·.audioMediaSet slot.id media)).modifySlot i fun _ => { slot with waiting := true }
      (s.request (command slot.termination)).associationsSet slot

def Session.slotAdd (s : Session κ σ μ ε D) (i : Nat) : Session κ σ μ ε D :=
  let n := s.terminations.length
  (s.pushSlot { termination := .rtp n, id := i }).audioMediaProcess P .terminationAdd n

/-- `mrcp_server_av_media_offer_process` -/
def Session.avMediaOfferProcess (s : Session κ σ μ ε D) (descriptor : SessionDescriptor) : Session κ σ μ ε D :=
  let nelts := descriptor.audioMediaArr.length
  let count := min s.terminations.length nelts
  let s := (List.range count).foldl (Session.audioMediaProcess P .terminationModify) s
  (List.range' count (nelts - count)).foldl (Session.slotAdd P) s

/-- The media of an offer are processed: the resource and the audio media, or the control media and the audio media. -/
def Session.mediaOfferProcess (s : Session κ σ μ ε D) (descriptor : SessionDescriptor) : Session κ σ μ ε D :=
  match P.mrcpVersion with
  | .v1 =>
    match s.resourceOfferProcess M P W descriptor with
    | (s, true) => s.avMediaOfferProcess P descriptor
    | (s, false) => s.modifyAnswer ({ · with resourceState := false })
  | .v2 => (s.controlMediaOfferProcess M P W descriptor).avMediaOfferProcess P descriptor

/-- An answer is generated for an offer that differs from the last one. -/
def Session.answerGenerate (s : Session κ σ μ ε D) (descriptor : SessionDescriptor) : Session κ σ μ ε D :=
  let s := { s with answer := some (sessionAnswerCreate descriptor) }.stateSet .generatingAnswer
  let s := ((s.request .resetAssociations).mediaOfferProcess M P W descriptor).request .applyTopology
  if s.subrequestCount = 0 then s.answerSend else s

/-- A session has an identifier and a media context from its first offer on. -/
def Session.contextCreate (s : Session κ σ μ ε D) : Session κ σ μ ε D :=
  if s.context then s else { s with context := true, id := if s.id = [] then W.uniqueIdGenerate else s.id }

/-- `mrcp_server_session_offer_process` -/
def Session.offerProcess (s : Session κ σ μ ε D) (descriptor : SessionDescriptor) : Session κ σ μ ε D :=
  let s := { s.contextCreate W with offer := some descriptor }
  if s.lastOffer.any (sessionOffersCompare descriptor) then { s with answer := s.lastAnswer }.answerSend
  else s.answerGenerate M P W descriptor

/-! ## Engine channels -/

def EngineChannel.virtualOpen (channel : EngineChannel) (status : Bool) : EngineChannel × Bool :=
  if channel.isOpen then (channel, false) else ({ channel with isOpen := status }, status)

def EngineChannel.virtualClose (channel : EngineChannel) (status : Bool) : EngineChannel × Bool :=
  if channel.isOpen then ({ channel with isOpen := false }, status) else (channel, false)

/-- `open` is called for an engine channel that is not open. -/
def EngineChannel.openCalls (channel : EngineChannel) (i : Nat) (status : Bool) : List (Nat × EngineCall) :=
  if channel.isOpen then [] else [(i, .openChannel status)]

/-- `close` is called for an engine channel that is open. -/
def EngineChannel.closeCalls (channel : EngineChannel) (i : Nat) (status : Bool) : List (Nat × EngineCall) :=
  if channel.isOpen then [(i, .closeChannel status)] else []

def Session.engineChannelOpen (s : Session κ σ μ ε D) (i : Nat) : Session κ σ μ ε D :=
  match s.channels[i]?.bind Channel.engineChannel with
  | none => s
  | some engineChannel =>
    let s := s.call (engineChannel.openCalls i (W.channelOpen i))
    let (engineChannel, status) := engineChannel.virtualOpen (W.channelOpen i)
    let s := s.modifyChannel i ({ · with engineChannel := some engineChannel })
    if status then s.request (.engineOpen i) else s

def Session.engineChannelClose (s : Session κ σ μ ε D) (i : Nat) : Session κ σ μ ε D :=
  match s.channels[i]?.bind Channel.engineChannel with
  | none => s
  | some engineChannel =>
    let s := s.call (engineChannel.closeCalls i (W.channelClose i))
    let (engineChannel, status) := engineChannel.virtualClose (W.channelClose i)
    let s := s.modifyChannel i ({ · with engineChannel := some engineChannel })
    if status then s.request (.engineClose i) else s

/-- An engine channel is opened or closed as the port of its control media says. -/
def Session.engineChannelUpdate (s : Session κ σ μ ε D) (i : Nat) : Session κ σ μ ε D :=
  match s.offer.bind (·.controlMediaGet i) with
  | none => s
  | some control => if control.port ≠ 0 then s.engineChannelOpen W i else s.engineChannelClose W i

/-- `mrcp_server_engine_channels_update` -/
def Session.engineChannelsUpdate (s : Session κ σ μ ε D) : Session κ σ μ ε D :=
  match s.offer with
  | none => s
  | some descriptor =>
    let s := s.stateSet .initializing
    let s :=
      match P.mrcpVersion with
      | .v1 =>
        match s.channelFind descriptor.resourceName with
        | none => s
        | some i => s.engineChannelOpen W i
      | .v2 => (List.range s.channels.length).foldl (Session.engineChannelUpdate W) s
    if s.subrequestCount = 0 then s.answerSend else s

/-- `mrcp_server_session_terminate_send` -/
def Session.terminateSend (s : Session κ σ μ ε D) : Session κ σ μ ε D :=
  let channels := s.channels.map ({ · with controlChannel := false, engineChannel := none })
  let held := (List.range s.channels.length).filter fun i => s.channels[i]?.any (·.engineChannel.isSome)
  { s.call (held.map (·, .destroy)) with channels := channels, removed := true }.see .terminateResponse

/-- A channel is released: its control channel, its termination and its engine channel. -/
def Session.channelRelease (s : Session κ σ μ ε D) (i : Nat) : Session κ σ μ ε D :=
  match s.channels[i]? with
  | none => s
  | some channel =>
    let s :=
      if channel.controlChannel then
        (s.modifyChannel i ({ · with waitingForChannel := true })).request (.controlRemove i)
      else s
    let s :=
      match channel.engineChannel.bind EngineChannel.termination with
      | none => s
      | some termination =>
        (s.modifyChannel i ({ · with waitingForTermination := true })).request (.terminationSubtract termination)
    s.engineChannelClose W i

def Session.slotRelease (s : Session κ σ μ ε D) (i : Nat) : Session κ σ μ ε D :=
  match s.terminations[i]? with
  | none => s
  | some slot => (s.modifySlot i ({ · with waiting := true })).request (.terminationSubtract slot.termination)

/-- `mrcp_server_session_terminate_process` -/
def Session.terminateProcess (s : Session κ σ μ ε D) : Session κ σ μ ε D :=
  let s := (s.see .release).stateSet .terminating
  let s := if s.context then s.request .resetAssociations else s
  let s := (List.range s.channels.length).foldl (Session.channelRelease W) s
  let s := (List.range s.terminations.length).foldl Session.slotRelease s
  if s.subrequestCount = 0 then s.terminateSend else s

/-! ## Completion of subrequests -/

/-- `mrcp_server_session_subrequest_remove` -/
def Session.subrequestRemove (s : Session κ σ μ ε D) : Session κ σ μ ε D :=
  if s.subrequestCount = 0 then s
  else
    let s := { s with subrequestCount := s.subrequestCount - 1 }
    if s.subrequestCount ≠ 0 then s
    else
      match s.state with
      | .none => s
      | .generatingAnswer => s.engineChannelsUpdate P W
      | .initializing => s.answerSend
      | .deactivating => s.terminateProcess W
      | .terminating => s.terminateSend

/-- `mrcp_server_on_channel_modify` -/
def Session.onChannelModify (s : Session κ σ μ ε D) (i : Nat) (answer : Option ControlDescriptor) :
    Session κ σ μ ε D :=
  match s.channels[i]?, answer with
  | some channel, some answer =>
    if channel.waitingForChannel then
      ((s.modifyChannel i ({ · with waitingForChannel := false })).modifyAnswer
        (SessionDescriptor.controlMediaSet · channel.id { answer with sessionId := s.id })).subrequestRemove P W
    else s
  | _, _ => s

/-- `mrcp_server_on_channel_remove` -/
def Session.onChannelRemove (s : Session κ σ μ ε D) (i : Nat) : Session κ σ μ ε D :=
  match s.channels[i]? with
  | none => s
  | some channel =>
    if channel.waitingForChannel then
      (s.modifyChannel i ({ · with waitingForChannel := false })).subrequestRemove P W
    else s

/-- `mrcp_server_on_engine_channel_open` -/
def Session.onEngineChannelOpen (s : Session κ σ μ ε D) (status : Bool) : Session κ σ μ ε D :=
  (if status then s else s.modifyAnswer ({ · with status := .unavailableResource })).subrequestRemove P W

/-- `mrcp_server_rtp_termination_find` -/
def Session.rtpTerminationFind (s : Session κ σ μ ε D) (termination : Termination) : Option Nat :=
  s.terminations.findIdx? fun slot => slot.termination == termination

/-- `mrcp_server_channel_termination_find` -/
def Session.channelTerminationFind (s : Session κ σ μ ε D) (termination : Termination) : Option Nat :=
  s.channels.findIdx? fun channel => channel.engineChannel.any fun engine => engine.termination == some termination

/-- What both handlers of terminations do for the termination of an engine channel. -/
def Session.onChannelTermination (s : Session κ σ μ ε D) (termination : Termination) : Session κ σ μ ε D :=
  match s.channelTerminationFind termination with
  | none => s
  | some i =>
    if s.channels[i]?.any Channel.waitingForTermination then
      (s.modifyChannel i ({ · with waitingForTermination := false })).subrequestRemove P W
    else s

/-- `mrcp_server_on_termination_modify` -/
def Session.onTerminationModify (s : Session κ σ μ ε D) (termination : Termination) (localMedia : Option RtpMedia) :
    Session κ σ μ ε D :=
  match s.rtpTerminationFind termination with
  | none => s.onChannelTermination P W termination
  | some i =>
    match s.terminations[i]? with
    | none => s
    | some slot =>
      if slot.waiting then
        let s := s.modifySlot i ({ · with waiting := false })
        let s :=
          match localMedia with
          | none => s
          | some media => s.modifyAnswer fun answer =>
              SessionDescriptor.audioMediaSet { answer with ip := media.ip, extIp := media.extIp } slot.id media
        s.subrequestRemove P W
      else s

/-- `mrcp_server_on_termination_subtract` -/
def Session.onTerminationSubtract (s : Session κ σ μ ε D) (termination : Termination) : Session κ σ μ ε D :=
  match s.rtpTerminationFind termination with
  | none => s.onChannelTermination P W termination
  | some i =>
    if s.terminations[i]?.any Slot.waiting then
      (s.modifySlot i ({ · with waiting := false })).subrequestRemove P W
    else s

def Session.remoteMediaSet (s : Session κ σ μ ε D) (termination : Termination) (media : RtpMedia) :
    Session κ σ μ ε D :=
  match s.terminations.find? fun slot => slot.termination == termination with
  | none => s
  | some slot => s.modifyOffer (·.audioMediaSet slot.id media)

/-- What the completion of a subrequest leads to. A state machine tells by itself when it is deactivated. -/
def Session.onCompletion (s : Session κ σ μ ε D) (result : Result) : Subrequest → Session κ σ μ ε D
  | .controlAdd i | .controlModify i => s.onChannelModify P W i result.answer
  | .controlRemove i => s.onChannelRemove P W i
  | .terminationAdd termination | .terminationModify termination =>
    (result.remoteMedia.elim s (s.remoteMediaSet termination)).onTerminationModify P W termination result.localMedia
  | .terminationSubtract termination => s.onTerminationSubtract P W termination
  | .resetAssociations | .addAssociation _ _ | .applyTopology => s.subrequestRemove P W
  | .engineOpen _ => s.onEngineChannelOpen P W result.status
  | .engineClose _ => s.subrequestRemove P W
  | .deactivate _ => s

def Session.complete (s : Session κ σ μ ε D) (subrequest : Subrequest) : Session κ σ μ ε D :=
  { s with outstanding := s.outstanding.erase subrequest }.see (.complete subrequest)

def Session.modifyMachine (s : Session κ σ μ ε D) (i : Nat)
    (f : ChannelMachine κ σ μ D → ChannelMachine κ σ μ D) : Session κ σ μ ε D :=
  s.modifyChannel i fun channel => { channel with stateMachine := channel.stateMachine.map f }

/-- `state_machine_on_message_dispatch` and `state_machine_on_deactivate`. With a response, the next request is taken
from the queue. -/
def Session.onDispatch (i : Nat) (s : Session κ σ μ ε D) (output : Output μ ε D) : Session κ σ μ ε D :=
  let s := s.see (.out i output)
  match output with
  | .request message =>
    if s.channels[i]?.any (·.engineChannel.isSome) then
      s.modifyMachine i fun m => { m with awaited := m.awaited ++ [message] }
    else s
  | .response _ => s.requestPop
  | .deactivated => (s.complete (.deactivate i)).subrequestRemove P W
  | _ => s

def Session.settle (s : Session κ σ μ ε D) (i : Nat) (r : Option (Handled σ μ ε D)) : Session κ σ μ ε D :=
  match r with
  | none => { s with nullRead := true }
  | some r =>
    r.out.foldl (Session.onDispatch P W i)
      (s.modifyMachine i fun m => { m with machine := r.machine, pending := m.pending.or r.pending })

def Session.machine (s : Session κ σ μ ε D) (i : Nat) : Option (ChannelMachine κ σ μ D) :=
  s.channels[i]?.bind Channel.stateMachine

def Session.target (s : Session κ σ μ ε D) (channel : Option Nat) (resourceName : Bytes) : Option Nat :=
  channel.or (s.channelFind resourceName)

/-- The handler of a request for a channel, if the request is not rejected before. -/
def Session.controlHandled (s : Session κ σ μ ε D) (channel : Option Nat) (resourceName : Bytes)
    (message : Message μ D) : Option (Nat × Option (Handled σ μ ε D)) :=
  (s.target channel resourceName).bind fun i =>
    (s.machine i).map fun m => (i, (M m.kind).requestUpdate m.machine message)

/-- `mrcp_server_on_message_receive` -/
def Session.onMessageReceive (s : Session κ σ μ ε D) (channel : Option Nat) (resourceName : Bytes)
    (message : Message μ D) : Session κ σ μ ε D :=
  match s.controlHandled M channel resourceName message with
  | none => s
  | some (i, r) => s.settle P W i r

def Session.machineDeactivate (s : Session κ σ μ ε D) (i : Nat) : Session κ σ μ ε D :=
  match s.machine i with
  | none => s
  | some m =>
    let r := (M m.kind).deactivate m.machine
    let s := s.settle P W i r
    if r.any Handled.status then s.request (.deactivate i) else s

/-- `mrcp_server_session_deactivate` -/
def Session.deactivate (s : Session κ σ μ ε D) : Session κ σ μ ε D :=
  let s := s.stateSet .deactivating
  let s := (List.range s.channels.length).foldl (Session.machineDeactivate M P W) s
  if s.subrequestCount = 0 then s.terminateProcess W else s

/-! ## Steps -/

/-- `mrcp_server_signaling_message_dispatch` -/
def Session.dispatch (s : Session κ σ μ ε D) (message : SignalingMessage μ D) : Session κ σ μ ε D :=
  let s := s.see (.dispatch message)
  match message with
  | .offer descriptor => s.offerProcess M P W descriptor
  | .control channel resourceName message => s.onMessageReceive M P W channel resourceName message
  | .terminate => s.deactivate M P W

/-- `mrcp_server_signaling_message_process` -/
def Session.signalingMessageProcess (s : Session κ σ μ ε D) (message : SignalingMessage μ D) : Session κ σ μ ε D :=
  if s.activeRequest.isSome then { s with requestQueue := s.requestQueue ++ [message] }
  else { s with activeRequest := some message }.dispatch M P W message

/-- What happens to a session. The last two happen within what happens before. -/
inductive Input (μ ε D : Type)
  | signaling (message : SignalingMessage μ D)
  | completed (subrequest : Subrequest) (result : Result)
  /-- The engine responds to a request of the state machine of a channel. -/
  | engineResponse (channel : Nat) (message : Message μ D)
  | engineEvent (channel : Nat) (message : MrcpEngine.Message ε D)
  /-- The request that was taken from the queue is dispatched. -/
  | dispatch
  /-- The state machine of a channel goes on with a pending request, when the dispatch of a response returns. -/
  | proceed (channel : Nat)

variable [DecidableEq μ]

def Session.engineResponse (s : Session κ σ μ ε D) (i : Nat) (message : Message μ D) : Session κ σ μ ε D :=
  match s.machine i with
  | none => s
  | some m =>
    (s.modifyMachine i fun m => { m with awaited := m.awaited.eraseP fun request => Answers message request }).settle P W i
      ((M m.kind).responseUpdate m.machine message)

def Session.engineEvent (s : Session κ σ μ ε D) (i : Nat) (message : MrcpEngine.Message ε D) : Session κ σ μ ε D :=
  match s.machine i with
  | none => s
  | some m => s.settle P W i ((M m.kind).eventUpdate m.machine message)

def Session.proceed (s : Session κ σ μ ε D) (i : Nat) : Session κ σ μ ε D :=
  match s.machine i with
  | none => s
  | some m =>
    match m.pending with
    | none => s
    | some message =>
      ((s.modifyMachine i fun m =>
        { m with pending := none, machine := (M m.kind).pendingProcess m.machine message }).see
          (.out i (.processPending message))).onDispatch P W i (.request message)

/-- One step. What the session calls meanwhile answers by the environment. -/
def Session.step (s : Session κ σ μ ε D) (input : Environment × Input μ ε D) : Session κ σ μ ε D × Unit :=
  (match input with
  | (W, .signaling message) => s.signalingMessageProcess M P W message
  | (W, .completed subrequest result) => (s.complete subrequest).onCompletion P W result subrequest
  | (W, .engineResponse i message) => s.engineResponse M P W i message
  | (W, .engineEvent i message) => s.engineEvent M P W i message
  | (W, .dispatch) => s.activeRequest.elim s ({ s with dispatching := false }.dispatch M P W)
  | (W, .proceed i) => s.proceed M P W i, ())

def Subrequest.answeredBy (result : Result) : Subrequest → Bool
  | .controlAdd _ | .controlModify _ => result.answer.isSome
  | .deactivate _ => false
  | _ => true

def Session.settled (s : Session κ σ μ ε D) : Bool :=
  !s.dispatching && s.channels.all fun channel => channel.stateMachine.all (·.pending.isNone)

/-- The session is there: it was not removed, and nothing was read through a null pointer. -/
def Session.alive (s : Session κ σ μ ε D) : Bool := !s.removed && !s.nullRead

/-- A subrequest is completed once and after it was started, an engine responds to a request that waits, and within a
dispatch only what belongs to it happens. -/
def Session.enabled (s : Session κ σ μ ε D) : Input μ ε D → Bool
  | .signaling _ => s.alive && s.settled
  | .completed subrequest result =>
    s.alive && s.settled && s.outstanding.contains subrequest && subrequest.answeredBy result
  | .engineResponse i message =>
    s.alive && s.settled && s.channels[i]?.any fun channel => channel.engineChannel.isSome &&
      channel.stateMachine.any fun m => m.awaited.any fun request => Answers message request
  | .engineEvent i _ => s.alive && s.settled && s.channels[i]?.any (·.engineChannel.isSome)
  | .dispatch => s.alive && s.dispatching
  | .proceed i => s.alive && !s.dispatching && (s.machine i).any (·.pending.isSome)

end Session

end UniMrcp.MrcpServer
