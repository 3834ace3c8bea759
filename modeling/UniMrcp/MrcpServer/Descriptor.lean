import UniMrcp.Apt.TextStream

/-!
# Session descriptors

Offers and answers of the signalling, as a server session reads and writes them.
-/

namespace UniMrcp.MrcpServer

open Apt

/-- `apt_strings_compare`, for which empty strings are equal. -/
def stringsCompare (str1 str2 : Bytes) : Bool := str1 == [] && str2 == [] || stringCompare str1 str2

/-- Two arrays have the same number of elements, and they compare equal in order. -/
def arraysCompare {α : Type} (compare : α → α → Bool) (arr1 arr2 : List α) : Bool :=
  arr1.length == arr2.length && (arr1.zip arr2).all fun p => compare p.1 p.2

/-- `mrcp_proto_type_e` -/
inductive ProtoType
  | tcp
  | tls
  | unknown
deriving DecidableEq

/-- `mrcp_setup_type_e` -/
inductive SetupType
  | active
  | passive
  | unknown
deriving DecidableEq

/-- `mrcp_connection_type_e` -/
inductive ConnectionType
  | new
  | existing
  | unknown
deriving DecidableEq

structure ControlDescriptor where
  ip : Bytes := []
  port : Nat := 0
  proto : ProtoType := .unknown
  setupType : SetupType := .unknown
  connectionType : ConnectionType := .unknown
  resourceName : Bytes := []
  sessionId : Bytes := []
  cmidArr : List Nat := []
  id : Nat := 0
deriving DecidableEq

def controlAnswerCreate (offer : ControlDescriptor) : ControlDescriptor := { offer with setupType := .passive }

/-- `mrcp_control_descriptors_compare`, which does not compare the connection type and the session identifier. -/
def controlDescriptorsCompare : Option ControlDescriptor → Option ControlDescriptor → Bool
  | some descriptor1, some descriptor2 =>
    stringsCompare descriptor1.ip descriptor2.ip && descriptor1.port == descriptor2.port &&
      descriptor1.proto == descriptor2.proto && descriptor1.setupType == descriptor2.setupType &&
      stringsCompare descriptor1.resourceName descriptor2.resourceName && descriptor1.cmidArr == descriptor2.cmidArr &&
      descriptor1.id == descriptor2.id
  | _, _ => false

/-- `mpf_stream_direction_e` -/
structure StreamDirection where
  send : Bool := false
  receive : Bool := false
deriving DecidableEq

def StreamDirection.or (direction1 direction2 : StreamDirection) : StreamDirection :=
  ⟨direction1.send || direction2.send, direction1.receive || direction2.receive⟩

structure CodecDescriptor where
  payloadType : Nat
  name : Bytes
  samplingRate : Nat
  channelCount : Nat
  enabled : Bool := true
deriving DecidableEq

def rtpPtDynamic : Nat := 96

def codecDescriptorsMatch (descriptor1 descriptor2 : CodecDescriptor) : Bool :=
  if descriptor1.payloadType < rtpPtDynamic ∧ descriptor2.payloadType < rtpPtDynamic then
    descriptor1.payloadType == descriptor2.payloadType
  else
    stringCompare descriptor1.name descriptor2.name && descriptor1.samplingRate == descriptor2.samplingRate &&
      descriptor1.channelCount == descriptor2.channelCount

/-- `mpf_codec_lists_compare`, which passes over the descriptors that are not enabled. -/
def codecListsCompare (list1 list2 : List CodecDescriptor) : Bool :=
  arraysCompare codecDescriptorsMatch (list1.filter CodecDescriptor.enabled) (list2.filter CodecDescriptor.enabled)

/-- `mpf_rtp_media_descriptor_t` -/
structure RtpMedia where
  enabled : Bool := false
  ip : Bytes := []
  extIp : Bytes := []
  port : Nat := 0
  direction : StreamDirection := {}
  ptime : Nat := 0
  codecList : List CodecDescriptor := []
  mid : Nat := 0
  id : Nat := 0
deriving DecidableEq

def rtpMediaDescriptorsCompare : Option RtpMedia → Option RtpMedia → Bool
  | some media1, some media2 =>
    media1.enabled == media2.enabled && stringsCompare media1.ip media2.ip &&
      stringsCompare media1.extIp media2.extIp && media1.port == media2.port &&
      media1.direction == media2.direction && media1.ptime == media2.ptime &&
      codecListsCompare media1.codecList media2.codecList && media1.mid == media2.mid && media1.id == media2.id
  | _, _ => false

/-- `mrcp_session_status_e`, as far as a session sets it. -/
inductive SessionStatus
  | ok
  | noSuchResource
  | unacceptableResource
  | unavailableResource
  | error
deriving DecidableEq

structure SessionDescriptor where
  origin : Bytes := []
  ip : Bytes := []
  extIp : Bytes := []
  resourceName : Bytes := []
  resourceState : Bool := false
  status : SessionStatus := .ok
  controlMediaArr : List (Option ControlDescriptor) := []
  audioMediaArr : List (Option RtpMedia) := []
  videoMediaArr : List (Option RtpMedia) := []
deriving DecidableEq

def sessionAnswerCreate (offer : SessionDescriptor) : SessionDescriptor where
  resourceName := offer.resourceName
  resourceState := offer.resourceState
  status := offer.status
  controlMediaArr := offer.controlMediaArr.map fun _ => none
  audioMediaArr := offer.audioMediaArr.map fun _ => none

/-- `mrcp_session_control_media_get` -/
def SessionDescriptor.controlMediaGet (descriptor : SessionDescriptor) (id : Nat) : Option ControlDescriptor :=
  descriptor.controlMediaArr[id]?.join

/-- `mrcp_session_control_media_set` -/
def SessionDescriptor.controlMediaSet (descriptor : SessionDescriptor) (id : Nat) (media : ControlDescriptor) :
    SessionDescriptor := { descriptor with controlMediaArr := descriptor.controlMediaArr.set id (some media) }

/-- `mrcp_session_audio_media_get` -/
def SessionDescriptor.audioMediaGet (descriptor : SessionDescriptor) (id : Nat) : Option RtpMedia :=
  descriptor.audioMediaArr[id]?.join

/-- `mrcp_session_audio_media_set` -/
def SessionDescriptor.audioMediaSet (descriptor : SessionDescriptor) (id : Nat) (media : RtpMedia) :
    SessionDescriptor := { descriptor with audioMediaArr := descriptor.audioMediaArr.set id (some media) }

def sessionOffersCompare (offer1 offer2 : SessionDescriptor) : Bool :=
  stringsCompare offer1.origin offer2.origin && stringsCompare offer1.ip offer2.ip &&
    stringsCompare offer1.extIp offer2.extIp && stringsCompare offer1.resourceName offer2.resourceName &&
    offer1.resourceState == offer2.resourceState &&
    arraysCompare controlDescriptorsCompare offer1.controlMediaArr offer2.controlMediaArr &&
    arraysCompare rtpMediaDescriptorsCompare offer1.audioMediaArr offer2.audioMediaArr &&
    arraysCompare rtpMediaDescriptorsCompare offer1.videoMediaArr offer2.videoMediaArr

end UniMrcp.MrcpServer
