import UniMrcp.Mrcp.Stream
import UniMrcp.Mrcp.Stream.Generator
import UniMrcp.Sdp.Generate
import UniMrcp.Sdp.Session

/-!
# The RTSP signalling agent of the client

`mrcp_unirtsp_client_agent.c`, between a session and the RTSP client, which answers the requests of a session one after
the other.
-/

namespace UniMrcp.MrcpUniRtsp

open Apt
open Mrcp (Message ResourceFactory)
open Sdp (SessionDescriptor SdpSession aptStringAssign)
open UniRtsp (RtspMessage Delivery headerPropertyCheck headerPropertyAdd methodSetup methodAnnounce
  methodTeardown methodDescribe)

variable {D : Type}

/-- What both agents are set up with. The SDP parser gives no session for a text that it does not accept. -/
structure Profile (D : Type) where
  resourceFactory : ResourceFactory D
  /-- The names of the resources in MRCP and in RTSP. -/
  resourceMap : List (Bytes × Bytes)
  sdpParse : Bytes → Option SdpSession
  /-- The delivery that is in memory where messages are created. -/
  delivery : Delivery := .none
  memory : Nat → UInt8 := fun _ => 0
  /-- The address of the server, if `force_destination` is set. -/
  forceDestinationIp : Option Bytes := none
  origin : Option Bytes := none

def mrcpNameGetByRtspName (resourceMap : List (Bytes × Bytes)) (rtspName : Option Bytes) : Bytes :=
  (rtspName.bind fun name =>
    (resourceMap.find? fun entry => entry.2.map toLower == name.map toLower).map Prod.fst).getD (ascii "unknown")

def hasContent (message : RtspMessage) : Bool :=
  headerPropertyCheck message.header .contentType && headerPropertyCheck message.header .contentLength &&
    message.body.buf.isSome

def Profile.resourceName (E : Profile D) (request : RtspMessage) : Bytes :=
  mrcpNameGetByRtspName E.resourceMap request.startLine.resourceName

/-- `mrcp_descriptor_generate_by_rtsp_response`. There may be no descriptor, and there is no result where NULL is
read. -/
def descriptorGenerateByRtspResponse (E : Profile D) (request response : RtspMessage)
    (forceDestinationIp : Option Bytes) : Option (Option SessionDescriptor) :=
  let resourceName := aptStringAssign (E.resourceName request)
  let responseCode := response.startLine.statusCode
  if request.startLine.methodId = methodSetup then
    if hasContent response then
      match E.sdpParse response.body.text with
      | none => some none
      | some sdp =>
        (Sdp.descriptorGenerateByRtspSdp {} sdp forceDestinationIp).map fun descriptor =>
          some { descriptor with resourceName, resourceState := true, responseCode }
    else some (some { resourceName, responseCode })
  else if request.startLine.methodId = methodTeardown then some (some { resourceName })
  else some none

/-- `mrcp_resource_discovery_response_generate`. There is no result where NULL is read. -/
def discoveryResponseGenerate (E : Profile D) (request response : RtspMessage) : Option SessionDescriptor :=
  let resourceName := aptStringAssign (E.resourceName request)
  if hasContent response then
    match E.sdpParse response.body.text with
    | none => some { resourceName, resourceState := true }
    | some sdp =>
      (Sdp.descriptorGenerateByRtspSdp { resourceName } sdp none).map fun descriptor =>
        { descriptor with resourceState := true, responseCode := response.startLine.statusCode }
  else some { resourceName }

/-! ## Control messages -/

/-- The size of the local buffers in which the start line and the header section are generated. -/
def headBufferSize : Nat := 2000

/-- `mrcp_message_generate`, into an empty buffer. -/
def messageGenerate (size : Nat) (message : Message D) : Message D × TextBuffer × Bool :=
  headerGenerate (Mrcp.generatorVTable D) message (textBufferInit size)

/-- The message is the body of an RTSP message: what was generated of it, and its own body behind that. -/
def mrcpBodySet (rtspMessage : RtspMessage) (message : Message D) (head : Bytes) : RtspMessage :=
  let body : Body := ⟨some (head ++ message.body.text), message.startLine.length⟩
  let header := (headerPropertyAdd { rtspMessage.header with contentType := .mrcp } .contentType).1
  let header :=
    (headerPropertyAdd { header with contentLength := UInt64.ofNat message.startLine.length } .contentLength).1
  { rtspMessage with header, body }

/-- The part of both functions for control messages that generates the message, which has version 1. -/
def v1MessageGenerate (message : Message D) : Option (Message D × Bytes) :=
  let r := messageGenerate headBufferSize { message with startLine := { message.startLine with version := .v1 } }
  if r.2.2 then some (r.1, r.2.1.text) else none

/-- `mrcp_unirtsp_session_control`: the request, and the message as it is then, unless it is not generated. -/
def sessionControl (E : Profile D) (message : Message D) : Option (Message D × RtspMessage) :=
  (v1MessageGenerate message).map fun (message, head) =>
    let resourceName := Sdp.rtspNameGetByMrcpName E.resourceMap (some message.channelId.resourceName)
    (message, mrcpBodySet (UniRtsp.messageCreate E.delivery (.request [] methodAnnounce [] resourceName .v1)) message
      head)

def statusCodeMethodFailed : Nat := 407

/-- `mrcp_response_create`, and the status code that is set then. -/
def responseCreate (request : Message D) (statusCode : Nat) : Message D :=
  let message := Mrcp.messageCreate D
  let message := { message with
    startLine := { message.startLine with
      messageType := .response
      requestState := .complete
      statusCode := statusCode
      requestId := request.startLine.requestId
      version := request.startLine.version
      methodId := request.startLine.methodId
      methodName := request.startLine.methodName }
    channelId := request.channelId }
  match request.resource with
  | none => message
  | some resource =>
    { message with
      resource := some resource
      channelId := { message.channelId with resourceName := resource.name }
      header := Mrcp.messageHeaderDataAlloc message.header Mrcp.genericHeaderVTable
        (resource.resourceHeaderVTable message.startLine.version) }

/-- What the MRCP parser makes of a text, for the resource with a name. -/
def mrcpParse (factory : ResourceFactory D) (resourceName text : Bytes) : Option (Message D) :=
  let parser : Mrcp.MrcpParser D := ⟨factory, Mrcp.resourceFind factory resourceName⟩
  let r := messageParserRun (Mrcp.parserVTable parser) (messageParserCreate (Message D)) (textStreamInit ⟨text, []⟩)
  if r.status = .complete then r.message else none

def hasMrcpContent (message : RtspMessage) : Bool :=
  headerPropertyCheck message.header .contentType && message.header.contentType == .mrcp &&
    headerPropertyCheck message.header .contentLength && decide (0 < message.header.contentLength)

/-- The control message in an RTSP message, which gets the identifier of the session. -/
def announceParse (E : Profile D) (message : RtspMessage) (resourceName : Bytes) : Option (Message D) :=
  if hasMrcpContent message then
    (mrcpParse E.resourceFactory resourceName message.body.text).map fun mrcpMessage =>
      { mrcpMessage with channelId := { mrcpMessage.channelId with sessionId := message.header.sessionId } }
  else none

/-! ## The agent -/

inductive ClientNote (D : Type)
  | answer (descriptor : SessionDescriptor)
  | discover (descriptor : SessionDescriptor)
  | control (message : Message D)

inductive ClientRequest (D : Type)
  | offer (rtsp : RtspMessage)
  | discover (rtsp : RtspMessage)
  | control (rtsp : RtspMessage) (message : Message D)

def ClientRequest.rtsp : ClientRequest D → RtspMessage
  | .offer rtsp => rtsp
  | .discover rtsp => rtsp
  | .control rtsp _ => rtsp

/-- `mrcp_unirtsp_session_t`, and the requests of the session that the RTSP client has not answered yet. -/
structure ClientAgent (D : Type) where
  mrcpMessage : Option (Message D) := none
  requests : List (ClientRequest D) := []
  crashed : Bool := false

/-- `mrcp_unirtsp_on_announce_response`, of which the result is not used. -/
def onAnnounceResponse (E : Profile D) (s : ClientAgent D) (message : RtspMessage) (resourceName : Bytes) :
    ClientAgent D × List (ClientNote D) :=
  match (announceParse E message resourceName).or (s.mrcpMessage.map (responseCreate · statusCodeMethodFailed)) with
  | none => (s, [])
  | some mrcpMessage =>
    let answered := s.mrcpMessage.any fun request => mrcpMessage.startLine.requestId == request.startLine.requestId
    ({ s with mrcpMessage := if answered then none else s.mrcpMessage }, [.control mrcpMessage])

def notifyOf (s : ClientAgent D) (note : SessionDescriptor → ClientNote D) :
    Option (Option SessionDescriptor) → ClientAgent D × List (ClientNote D)
  | none => ({ s with crashed := true }, [])
  | some none => (s, [])
  | some (some descriptor) => (s, [note descriptor])

/-- `mrcp_unirtsp_on_session_response` -/
def onSessionResponse (E : Profile D) (s : ClientAgent D) (request response : RtspMessage) :
    ClientAgent D × List (ClientNote D) :=
  let methodId := request.startLine.methodId
  if methodId = methodSetup then
    notifyOf s .answer (descriptorGenerateByRtspResponse E request response E.forceDestinationIp)
  else if methodId = methodTeardown then notifyOf s .answer (descriptorGenerateByRtspResponse E request response none)
  else if methodId = methodAnnounce then onAnnounceResponse E s response (E.resourceName request)
  else if methodId = methodDescribe then
    notifyOf s .discover ((discoveryResponseGenerate E request response).map some)
  else (s, [])

/-- `mrcp_unirtsp_on_session_event` -/
def onSessionEvent (E : Profile D) (s : ClientAgent D) (message : RtspMessage) : ClientAgent D × List (ClientNote D) :=
  onAnnounceResponse E s message (E.resourceName message)

inductive ClientCall (D : Type)
  | offer (descriptor : SessionDescriptor)
  | control (message : Message D)
  | discover (descriptor : SessionDescriptor)
  | response (response : RtspMessage)
  | event (message : RtspMessage)

def ClientAgent.issue (s : ClientAgent D) (request : ClientRequest D) : ClientAgent D :=
  { s with requests := s.requests ++ [request] }

/-- `mrcp_unirtsp_session_offer` -/
def sessionOffer (E : Profile D) (descriptor : SessionDescriptor) : RtspMessage :=
  (Sdp.rtspRequestGenerate E.delivery E.memory { descriptor with origin := E.origin.or descriptor.origin }
    E.resourceMap).message

/-- `mrcp_unirtsp_resource_discover` -/
def resourceDiscover (E : Profile D) (descriptor : SessionDescriptor) : RtspMessage :=
  UniRtsp.messageCreate E.delivery
    (.request [] methodDescribe [] (Sdp.rtspNameGetByMrcpName E.resourceMap descriptor.resourceName) .v1)

def ClientAgent.step (E : Profile D) (s : ClientAgent D) : ClientCall D → ClientAgent D × List (ClientNote D)
  | .offer descriptor => (s.issue (.offer (sessionOffer E descriptor)), [])
  | .control message =>
    match sessionControl E message with
    | none => (s, [])
    | some (message, rtsp) => ({ s.issue (.control rtsp message) with mrcpMessage := some message }, [])
  | .discover descriptor => (s.issue (.discover (resourceDiscover E descriptor)), [])
  | .response response =>
    match s.requests with
    | [] => (s, [])
    | request :: requests => onSessionResponse E { s with requests } request.rtsp response
  | .event message => onSessionEvent E s message

end UniMrcp.MrcpUniRtsp
