import UniMrcp.Lib.BoundedPrint
import UniMrcp.Sdp.Session
import UniMrcp.UniRtsp.Message

/-!
# Session descriptors to SDP

`mrcp_sdp.c` of the SIP agents and `mrcp_unirtsp_sdp.c` of the RTSP agents. Each text of a list below is printed by one
`snprintf`, which is told the room that is left.
-/

namespace UniMrcp.Sdp

open Apt Lib UniRtsp
open Mpf.Path (CodecDescriptor)
open Mrcp (decimal)

/-! ## Texts -/

/-- What `%s` prints of a string. -/
def AptStr.text : AptStr → Bytes
  | some bytes => bytes.takeWhile (· ≠ 0)
  | none => ascii "(null)"

def AptStr.or (str : AptStr) (bytes : Bytes) : Bytes := AptStr.text (some (str.getD bytes))

def rtpPtReserved : Nat := 19

def SessionDescriptor.sessionIp (descriptor : SessionDescriptor) : Bytes :=
  match descriptor.extIp with
  | some bytes => AptStr.text (some bytes)
  | none => descriptor.ip.or (ascii "0.0.0.0")

def SessionDescriptor.sessionText (descriptor : SessionDescriptor) : Bytes :=
  ascii "v=0\r\no=" ++ descriptor.origin.or (ascii "-") ++ ascii " 0 0 IN IP4 " ++ descriptor.sessionIp ++
    ascii "\r\ns=-\r\nc=IN IP4 " ++ descriptor.sessionIp ++ ascii "\r\nt=0 0\r\n"

def enabledCodecs (codecs : List CodecDescriptor) : List CodecDescriptor := codecs.filter (·.enabled)

def formatTexts (codecs : List CodecDescriptor) : List Bytes :=
  if enabledCodecs codecs = [] then [ascii " " ++ decimal rtpPtReserved]
  else (enabledCodecs codecs).map fun codec => ascii " " ++ decimal codec.payloadType.toNat

def codecTexts (codec : CodecDescriptor) : List Bytes :=
  match codec.name with
  | none => []
  | some name =>
    (ascii "a=rtpmap:" ++ decimal codec.payloadType.toNat ++ ascii " " ++ AptStr.text (some name) ++ ascii "/" ++
        decimal codec.samplingRate.toNat ++ ascii "\r\n") ::
      match codec.format with
      | none => []
      | some format =>
        [ascii "a=fmtp:" ++ decimal codec.payloadType.toNat ++ ascii " " ++ AptStr.text (some format) ++ ascii "\r\n"]

def attributeTexts (media : RtpMedia) : List Bytes :=
  (match mpfRtpDirectionStrGet media.direction with
    | some direction => [ascii "a=" ++ direction ++ ascii "\r\n"]
    | none => []) ++
  if media.ptime ≠ 0 then [ascii "a=ptime:" ++ decimal media.ptime.toNat ++ ascii "\r\n"] else []

/-- `sdp_rtp_media_generate`. For an enabled medium without an array of codec descriptors nothing is printed. -/
def rtpMediaTexts (connection mid : List Bytes) (media : RtpMedia) : List Bytes :=
  if media.enabled then
    match media.codecList with
    | none => []
    | some codecs =>
      [ascii "m=audio " ++ decimal media.port.toNat ++ ascii " RTP/AVP"] ++ formatTexts codecs ++ [ascii "\r\n"] ++
        connection ++ (enabledCodecs codecs).flatMap codecTexts ++ attributeTexts media ++ mid
  else [ascii "m=audio 0 RTP/AVP " ++ decimal rtpPtReserved ++ ascii "\r\n"] ++ mid

/-- The address of a medium, if it is another one than that of the session. -/
def connectionTexts (descriptor : SessionDescriptor) (media : RtpMedia) : List Bytes :=
  if descriptor.ip.length ≠ 0 ∧ media.ip.length ≠ 0 ∧
      stringCompare (descriptor.ip.getD []) (media.ip.getD []) = false then
    [ascii "c=IN IP4 " ++ (if media.extIp.isSome then media.extIp else media.ip).text ++ ascii "\r\n"]
  else []

/-- `sdp_rtp_media_generate` of the SIP agents. -/
def sdpRtpMediaTexts (descriptor : SessionDescriptor) (media : RtpMedia) : List Bytes :=
  rtpMediaTexts (connectionTexts descriptor media) [ascii "a=mid:" ++ decimal media.mid.toNat ++ ascii "\r\n"] media

def setupText (media : ControlDescriptor) : Bytes :=
  ascii "a=setup:" ++ (mrcpSetupTypeGet media.setupType).getD [] ++ ascii "\r\na=connection:" ++
    (mrcpConnectionTypeGet media.connectionType).getD [] ++ ascii "\r\n"

def resourceText (media : ControlDescriptor) (offer : Bool) : Bytes :=
  if offer then ascii "a=resource:" ++ media.resourceName.text ++ ascii "\r\n"
  else ascii "a=channel:" ++ media.sessionId.text ++ ascii "@" ++ media.resourceName.text ++ ascii "\r\n"

/-- `sdp_control_media_generate` -/
def sdpControlMediaTexts (media : ControlDescriptor) (offer : Bool) : List Bytes :=
  (ascii "m=application " ++ decimal media.port.toNat ++ ascii " " ++ (mrcpProtoGet media.proto).getD [] ++
      ascii " 1\r\n" ++ (if media.port ≠ 0 then setupText media else []) ++ resourceText media offer) ::
    media.cmidArr.map fun cmid => ascii "a=cmid:" ++ decimal cmid.toNat ++ ascii "\r\n"

/-- The generator that the loop calls. That of audio media is called for video media, too. -/
def sdpMediaTexts (descriptor : SessionDescriptor) (offer : Bool) : Media → List Bytes
  | .audio media => sdpRtpMediaTexts descriptor media
  | .video media => sdpRtpMediaTexts descriptor media
  | .control media => sdpControlMediaTexts media offer

def sdpBlocks (descriptor : SessionDescriptor) (offer : Bool) : List (List Bytes) :=
  [descriptor.sessionText] :: descriptor.media.map (sdpMediaTexts descriptor offer)

def sdpText (descriptor : SessionDescriptor) (offer : Bool) : Bytes := (sdpBlocks descriptor offer).flatten.flatten

/-- A buffer in which `buffer[0]` has been set to NUL. -/
def emptyBuffer (memory : Nat → UInt8) : Printed UInt8 := ⟨store memory 0 [0], []⟩

/-- `sdp_string_generate_by_mrcp_descriptor`: the buffer and the length that is returned. -/
def sdpStringGenerate (memory : Nat → UInt8) (size : Nat) (descriptor : SessionDescriptor) (offer : Bool) :
    Printed UInt8 × Nat :=
  printBlocks 0 sizeSub (emptyBuffer memory) size (sdpBlocks descriptor offer)

/-! ## RTSP -/

/-- `rtsp_name_get_by_mrcp_name`, of a table with keys that do not depend on case. -/
def rtspNameGetByMrcpName (resourceMap : List (Bytes × Bytes)) (mrcpName : AptStr) : AptStr :=
  mrcpName.map fun name =>
    ((resourceMap.find? fun entry => entry.1.map toLower == name.map toLower).map Prod.snd).getD name

/-- The generator that the loops of the RTSP agents call, that of `mrcp_unirtsp_sdp.c`. -/
def rtspMediaTexts : Media → List Bytes
  | .audio media => rtpMediaTexts [] [] media
  | .video media => rtpMediaTexts [] [] media
  | .control _ => []

def rtspSdpBlocks (descriptor : SessionDescriptor) : List (List Bytes) :=
  [descriptor.sessionText] :: descriptor.rtpMedia.map rtspMediaTexts

def rtspSdpText (descriptor : SessionDescriptor) : Bytes := (rtspSdpBlocks descriptor).flatten.flatten

def rtspBufferSize : Nat := 2048

def rtspSdpGenerate (memory : Nat → UInt8) (descriptor : SessionDescriptor) : Printed UInt8 × Nat :=
  printBlocks 0 sizeSub (emptyBuffer memory) rtspBufferSize (rtspSdpBlocks descriptor)

def portRangeNext (range : PortRange) : Media → PortRange
  | .audio media => ⟨media.port, media.port + 1⟩
  | _ => range

def rtpTransport (transport : Transport) : Transport :=
  { transport with protocol := .rtp, profile := .avp, delivery := .unicast }

/-- A message, and the local buffer from which its body was read with the length that was printed. -/
structure RtspGenerated where
  message : RtspMessage
  buffer : Option (Printed UInt8 × Nat)

/-- The end of both functions: the transport is added, and what the buffer holds is the body. -/
def rtspBodySet (message : RtspMessage) (sdp : Printed UInt8 × Nat) : RtspGenerated :=
  let header := { message.header with transport := rtpTransport message.header.transport }
  let header := (headerPropertyAdd header .transport).1
  if sdp.2 = 0 then ⟨{ message with header }, some sdp⟩
  else
    let header := (headerPropertyAdd { header with contentType := .sdp } .contentType).1
    let header := (headerPropertyAdd { header with contentLength := UInt64.ofNat sdp.2 } .contentLength).1
    ⟨{ message with header, body := ⟨some ((List.range sdp.2).map sdp.1.memory), sdp.2⟩ }, some sdp⟩

/-- `rtsp_request_generate_by_mrcp_descriptor`, with the delivery that is in memory. -/
def rtspRequestGenerate (delivery : Delivery) (memory : Nat → UInt8) (descriptor : SessionDescriptor)
    (resourceMap : List (Bytes × Bytes)) : RtspGenerated :=
  let resourceName := rtspNameGetByMrcpName resourceMap descriptor.resourceName
  if descriptor.resourceState = false then
    ⟨messageCreate delivery (.request [] methodTeardown [] resourceName .v1), none⟩
  else
    let request := messageCreate delivery (.request [] methodSetup [] resourceName .v1)
    let transport := request.header.transport
    let range := descriptor.rtpMedia.foldl portRangeNext transport.clientPortRange
    rtspBodySet { request with header := { request.header with
      transport := { transport with clientPortRange := range } } } (rtspSdpGenerate memory descriptor)

def rtspStatus : MrcpServer.SessionStatus → Status
  | .ok => .ok
  | .noSuchResource => .notFound
  | .unacceptableResource => .notAcceptable
  | .unavailableResource => .notAcceptable
  | .error => .internalServerError

def Media.isAudio : Media → Bool
  | .audio _ => true
  | _ => false

/-- `rtsp_response_generate_by_mrcp_descriptor`, for a request with some version and some header. -/
def rtspResponseGenerate (delivery : Delivery) (memory : Nat → UInt8) (version : Version) (request : Header)
    (descriptor : SessionDescriptor) : RtspGenerated :=
  let status := rtspStatus descriptor.status
  let response := responseCreate delivery version request status.code status.reason
  if descriptor.status ≠ .ok then ⟨response, none⟩
  else
    let transport := response.header.transport
    let range := descriptor.rtpMedia.foldl portRangeNext transport.serverPortRange
    let clientRange :=
      if descriptor.rtpMedia.any Media.isAudio then request.transport.clientPortRange else transport.clientPortRange
    rtspBodySet { response with header := { response.header with
      transport := { transport with serverPortRange := range, clientPortRange := clientRange } } }
      (rtspSdpGenerate memory descriptor)

end UniMrcp.Sdp
