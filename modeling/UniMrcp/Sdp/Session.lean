import UniMrcp.Apt.TextOutput
import UniMrcp.Mpf.Path.Codec
import UniMrcp.MrcpServer.Descriptor

/-!
# SDP sessions to session descriptors

What the SDP parser makes of a text, and what `mrcp_sdp.c` of the SIP agents and `mrcp_unirtsp_sdp.c` of the RTSP agents
make of that. Where NULL is read, there is no result.
-/

namespace UniMrcp.Sdp

open Apt
open Mpf (StreamDirection)
open Mpf.Path (CodecDescriptor)
open MrcpServer (ProtoType SetupType ConnectionType SessionStatus)

/-- `apt_str_t`, the buffer of which may be NULL. -/
abbrev AptStr := Option Bytes

def AptStr.length (str : AptStr) : Nat := (str.getD []).length

/-- `mpf_rtp_media_descriptor_t`. The array of codec descriptors may be NULL. -/
structure RtpMedia where
  /-- The state is `MPF_MEDIA_ENABLED`. -/
  enabled : Bool := false
  ip : AptStr := none
  extIp : AptStr := none
  port : UInt16 := 0
  direction : StreamDirection := .none
  ptime : UInt16 := 0
  codecList : Option (List CodecDescriptor) := none
  mid : UInt64 := 0
  id : Nat := 0
deriving DecidableEq

structure ControlDescriptor where
  ip : AptStr := none
  port : UInt16 := 0
  proto : ProtoType := .unknown
  setupType : SetupType := .unknown
  connectionType : ConnectionType := .unknown
  resourceName : AptStr := none
  sessionId : AptStr := none
  cmidArr : List UInt64 := []
  id : Nat := 0
deriving DecidableEq

/-- `mrcp_session_descriptor_t`. A session sets a medium to NULL where it has none. -/
structure SessionDescriptor where
  origin : AptStr := none
  ip : AptStr := none
  extIp : AptStr := none
  resourceName : AptStr := none
  resourceState : Bool := false
  status : SessionStatus := .ok
  responseCode : Nat := 0
  controlMediaArr : List (Option ControlDescriptor) := []
  audioMediaArr : List (Option RtpMedia) := []
  videoMediaArr : List (Option RtpMedia) := []
deriving DecidableEq

/-- `mrcp_session_media_count_get` -/
def SessionDescriptor.mediaCount (descriptor : SessionDescriptor) : Nat :=
  descriptor.controlMediaArr.length + descriptor.audioMediaArr.length + descriptor.videoMediaArr.length

/-- `mrcp_session_audio_media_get`, `mrcp_session_video_media_get` and `mrcp_session_control_media_get` -/
def mediaGet {α : Type} (arr : List (Option α)) (id : Nat) : Option α := arr[id]?.join

def mrcpProtoTypeTable : List StrTableItem := [⟨ascii "TCP/MRCPv2", 4⟩, ⟨ascii "TCP/TLS/MRCPv2", 4⟩]

def mrcpSetupValueTable : List StrTableItem := [⟨ascii "active", 0⟩, ⟨ascii "passive", 0⟩]

def mrcpConnectionValueTable : List StrTableItem := [⟨ascii "new", 0⟩, ⟨ascii "existing", 0⟩]

def mpfRtpAttribTable : List StrTableItem :=
  [⟨ascii "rtpmap", 1⟩, ⟨ascii "sendonly", 8⟩, ⟨ascii "recvonly", 2⟩, ⟨ascii "sendrecv", 4⟩, ⟨ascii "mid", 0⟩,
    ⟨ascii "ptime", 0⟩]

def mrcpProtoGet (proto : ProtoType) : Option Bytes :=
  stringTableStrGet mrcpProtoTypeTable 2 (match proto with | .tcp => 0 | .tls => 1 | .unknown => 2)

def mrcpSetupTypeGet (setupType : SetupType) : Option Bytes :=
  stringTableStrGet mrcpSetupValueTable 2 (match setupType with | .active => 0 | .passive => 1 | .unknown => 2)

def mrcpConnectionTypeGet (connectionType : ConnectionType) : Option Bytes :=
  stringTableStrGet mrcpConnectionValueTable 2 (match connectionType with | .new => 0 | .existing => 1 | .unknown => 2)

/-- `mpf_rtp_direction_str_get`: there is no text for no direction. -/
def mpfRtpDirectionStrGet (direction : StreamDirection) : Option Bytes :=
  stringTableStrGet mpfRtpAttribTable 6
    (match direction with | .send => 1 | .receive => 2 | .duplex => 3 | .none => 6)

inductive Media
  | audio (media : RtpMedia)
  | video (media : RtpMedia)
  | control (media : ControlDescriptor)
deriving DecidableEq

/-- `audio_index`, `video_index` and `control_index` -/
structure MediaIndices where
  audio : Nat := 0
  video : Nat := 0
  control : Nat := 0
deriving DecidableEq

structure MediaArrays where
  audios : List (Option RtpMedia)
  videos : List (Option RtpMedia)
  controls : List (Option ControlDescriptor)

/-- The medium that the loop finds for the position `i`. -/
def mediaNext (arrs : MediaArrays) (indices : MediaIndices) (i : Nat) : Option Media × MediaIndices :=
  match (mediaGet arrs.audios indices.audio).filter (·.id = i) with
  | some media => (some (.audio media), { indices with audio := indices.audio + 1 })
  | none =>
    match (mediaGet arrs.videos indices.video).filter (·.id = i) with
    | some media => (some (.video media), { indices with video := indices.video + 1 })
    | none =>
      match (mediaGet arrs.controls indices.control).filter (·.id = i) with
      | some media => (some (.control media), { indices with control := indices.control + 1 })
      | none => (none, indices)

/-- The media in the order in which the loop takes them, for the positions that are left. -/
def mediaMerge (arrs : MediaArrays) (indices : MediaIndices) : List Nat → List Media
  | [] => []
  | i :: is => (mediaNext arrs indices i).1.toList ++ mediaMerge arrs (mediaNext arrs indices i).2 is

def SessionDescriptor.media (descriptor : SessionDescriptor) : List Media :=
  mediaMerge ⟨descriptor.audioMediaArr, descriptor.videoMediaArr, descriptor.controlMediaArr⟩ {}
    (List.range descriptor.mediaCount)

/-- The media that the loop of the RTSP agents takes, which does not look at control media. -/
def SessionDescriptor.rtpMedia (descriptor : SessionDescriptor) : List Media :=
  mediaMerge ⟨descriptor.audioMediaArr, descriptor.videoMediaArr, []⟩ {} (List.range descriptor.mediaCount)

/-- `sdp_attribute_t`. An attribute without a colon has no value. -/
structure SdpAttribute where
  name : Bytes
  value : Option Bytes := none
deriving DecidableEq

/-- `sdp_rtpmap_t`; a payload type has seven bits. -/
structure SdpRtpmap where
  pt : UInt8
  encoding : Bytes
  rate : Nat
deriving DecidableEq

/-- `sdp_media_e`, as far as the types are told apart. -/
inductive SdpMediaType
  | audio
  | video
  | application
  | other
deriving DecidableEq

inductive SdpMode
  | inactive
  | sendonly
  | recvonly
  | sendrecv
deriving DecidableEq

/-- `sdp_media_t`, with the address of its first connection. -/
structure SdpMedia where
  type : SdpMediaType
  port : Nat
  protoName : Bytes
  rtpmaps : List SdpRtpmap := []
  connection : Option Bytes := none
  mode : SdpMode := .sendrecv
  attributes : List SdpAttribute := []
deriving DecidableEq

structure SdpSession where
  connection : Option Bytes := none
  media : List SdpMedia := []
deriving DecidableEq

/-- `atoi`, of 32 bits. -/
def atoi (text : Bytes) : Int := (atol text).bmod (2 ^ 32)

def aptStringAssign (src : Bytes) : AptStr := if src = [] then none else some src

def mrcpAttribTable : List StrTableItem :=
  [⟨ascii "setup", 0⟩, ⟨ascii "connection", 1⟩, ⟨ascii "resource", 0⟩, ⟨ascii "channel", 1⟩, ⟨ascii "cmid", 1⟩]

def mrcpProtoFind (name : Bytes) : ProtoType :=
  match stringTableIdFind mrcpProtoTypeTable 2 name with
  | 0 => .tcp
  | 1 => .tls
  | _ => .unknown

def mrcpSetupTypeFind (value : Bytes) : SetupType :=
  match stringTableIdFind mrcpSetupValueTable 2 value with
  | 0 => .active
  | 1 => .passive
  | _ => .unknown

def mrcpConnectionTypeFind (value : Bytes) : ConnectionType :=
  match stringTableIdFind mrcpConnectionValueTable 2 value with
  | 0 => .new
  | 1 => .existing
  | _ => .unknown

/-- One attribute of the loop of `mpf_rtp_media_generate`, which reads the `mid` in one of the two files. -/
def rtpAttributeSet (readsMid : Bool) (media : RtpMedia) (attrib : SdpAttribute) : Option RtpMedia :=
  match stringTableIdFind mpfRtpAttribTable 6 attrib.name with
  | 4 =>
    if readsMid then attrib.value.map fun value => { media with mid := UInt64.ofInt (atoi value) } else some media
  | 5 => attrib.value.map fun value => { media with ptime := UInt16.ofInt (atoi value) }
  | _ => some media

def rtpmapCodec (map : SdpRtpmap) : CodecDescriptor where
  payloadType := map.pt
  name := aptStringAssign map.encoding
  samplingRate := UInt16.ofNat map.rate
  channelCount := 1

def SdpMode.direction : SdpMode → StreamDirection
  | .inactive => .none
  | .sendonly => .send
  | .recvonly => .receive
  | .sendrecv => .duplex

def SdpMedia.ip (sdpMedia : SdpMedia) (ip : AptStr) : AptStr :=
  match sdpMedia.connection with
  | some address => aptStringAssign address
  | none => ip

/-- Both functions `mpf_rtp_media_generate`. -/
def rtpMediaGenerate (readsMid : Bool) (id : Nat) (sdpMedia : SdpMedia) (ip : AptStr) : Option RtpMedia :=
  (sdpMedia.attributes.foldlM (rtpAttributeSet readsMid) { id := id }).map fun media =>
    { media with
      codecList := some (sdpMedia.rtpmaps.map rtpmapCodec)
      direction := sdpMedia.mode.direction
      ip := sdpMedia.ip ip
      port := UInt16.ofNat sdpMedia.port
      enabled := sdpMedia.port != 0 }

/-- `mpf_rtp_media_generate` of the SIP agents. -/
def mpfRtpMediaGenerate (id : Nat) (sdpMedia : SdpMedia) (ip : AptStr) : Option RtpMedia :=
  rtpMediaGenerate true id sdpMedia ip

/-- `mpf_rtp_media_generate` of the RTSP agents. -/
def mpfRtspMediaGenerate (id : Nat) (sdpMedia : SdpMedia) (ip : AptStr) : Option RtpMedia :=
  rtpMediaGenerate false id sdpMedia ip

/-- `apt_id_resource_parse`, with the separator `@`. -/
def channelParse (value : Bytes) (media : ControlDescriptor) : ControlDescriptor :=
  let id := value.takeWhile (· != 0x40)
  if id.length = value.length then media
  else
    { media with
      sessionId := aptStringAssign id
      resourceName := aptStringAssign (value.drop (id.length + 1)) }

/-- One attribute of the loop of `mrcp_control_media_generate`. -/
def controlAttributeSet (media : ControlDescriptor) (attrib : SdpAttribute) : Option ControlDescriptor :=
  match stringTableIdFind mrcpAttribTable 5 attrib.name with
  | 0 => some { media with setupType := mrcpSetupTypeFind (attrib.value.getD []) }
  | 1 => some { media with connectionType := mrcpConnectionTypeFind (attrib.value.getD []) }
  | 2 => some { media with resourceName := aptStringAssign (attrib.value.getD []) }
  | 3 => attrib.value.map fun value => channelParse value media
  | 4 => attrib.value.map fun value => { media with cmidArr := media.cmidArr ++ [UInt64.ofInt (atoi value)] }
  | _ => some media

/-- `mrcp_control_media_generate`, which leaves a medium with another protocol as it is. -/
def mrcpControlMediaGenerate (id : Nat) (sdpMedia : SdpMedia) (ip : AptStr) : Option ControlDescriptor :=
  let media : ControlDescriptor := { id := id, proto := mrcpProtoFind sdpMedia.protoName }
  if media.proto ≠ .tcp then some media
  else
    (sdpMedia.attributes.foldlM controlAttributeSet media).map fun media =>
      { media with
        ip := sdpMedia.ip ip
        port := UInt16.ofNat sdpMedia.port }

/-- `mrcp_session_audio_media_add` -/
def SessionDescriptor.addAudio (descriptor : SessionDescriptor) (media : RtpMedia) : SessionDescriptor :=
  { descriptor with audioMediaArr := descriptor.audioMediaArr ++ [some media] }

/-- `mrcp_session_video_media_add` -/
def SessionDescriptor.addVideo (descriptor : SessionDescriptor) (media : RtpMedia) : SessionDescriptor :=
  { descriptor with videoMediaArr := descriptor.videoMediaArr ++ [some media] }

/-- `mrcp_session_control_media_add` -/
def SessionDescriptor.addControl (descriptor : SessionDescriptor) (media : ControlDescriptor) : SessionDescriptor :=
  { descriptor with controlMediaArr := descriptor.controlMediaArr ++ [some media] }

def SessionDescriptor.setIp (descriptor : SessionDescriptor) (sdp : SdpSession) (forceDestinationIp : Option Bytes) :
    SessionDescriptor :=
  match forceDestinationIp, sdp.connection with
  | some address, _ => { descriptor with ip := aptStringAssign address }
  | none, some address => { descriptor with ip := aptStringAssign address }
  | none, none => descriptor

/-- One medium of the loop of `mrcp_descriptor_generate_by_sdp_session`. The identifier of a medium is its position. -/
def sdpMediaAdd (descriptor : SessionDescriptor) (sdpMedia : SdpMedia) : Option SessionDescriptor :=
  match sdpMedia.type with
  | .audio => (mpfRtpMediaGenerate descriptor.mediaCount sdpMedia descriptor.ip).map descriptor.addAudio
  | .video => (mpfRtpMediaGenerate descriptor.mediaCount sdpMedia descriptor.ip).map descriptor.addVideo
  | .application => (mrcpControlMediaGenerate descriptor.mediaCount sdpMedia descriptor.ip).map descriptor.addControl
  | .other => some descriptor

/-- `mrcp_descriptor_generate_by_sdp_session`, of a session that is not NULL. -/
def descriptorGenerateBySdp (descriptor : SessionDescriptor) (sdp : SdpSession) (forceDestinationIp : Option Bytes) :
    Option SessionDescriptor :=
  sdp.media.foldlM sdpMediaAdd (descriptor.setIp sdp forceDestinationIp)

/-- One medium of the loop of `mrcp_descriptor_generate_by_rtsp_sdp_session`. -/
def rtspMediaAdd (descriptor : SessionDescriptor) (sdpMedia : SdpMedia) : Option SessionDescriptor :=
  match sdpMedia.type with
  | .audio => (mpfRtspMediaGenerate descriptor.mediaCount sdpMedia descriptor.ip).map descriptor.addAudio
  | .video => (mpfRtspMediaGenerate descriptor.mediaCount sdpMedia descriptor.ip).map descriptor.addVideo
  | _ => some descriptor

/-- `mrcp_descriptor_generate_by_rtsp_sdp_session` -/
def descriptorGenerateByRtspSdp (descriptor : SessionDescriptor) (sdp : SdpSession)
    (forceDestinationIp : Option Bytes) : Option SessionDescriptor :=
  sdp.media.foldlM rtspMediaAdd (descriptor.setIp sdp forceDestinationIp)

end UniMrcp.Sdp
