import UniMrcp.Apt.TextOutput
import UniMrcp.Apt.TextStream.Fields

/-!
# RTSP headers

The header of an RTSP message: typed members, and the header fields they are parsed from and generated into.
-/

namespace UniMrcp.UniRtsp

open Apt
open Mrcp (decimal)

/-! ## Enumerations -/

/-- `rtsp_transport_e` -/
inductive TransportProtocol
  | rtp
  | none
deriving DecidableEq

/-- `rtsp_profile_e` -/
inductive Profile
  | avp
  | savp
  | none
deriving DecidableEq

/-- `rtsp_lower_transport_e` -/
inductive LowerTransport
  | udp
  | tcp
  | none
deriving DecidableEq

/-- `rtsp_delivery_e`, and the other values that memory which was not initialized may have. -/
inductive Delivery
  | unicast
  | multicast
  | none
  | other (value : Nat)
deriving DecidableEq

/-- `rtsp_transport_attrib_e` -/
inductive TransportAttrib
  | clientPort
  | serverPort
  | source
  | destination
  | unicast
  | multicast
  | mode
deriving DecidableEq

/-- `rtsp_content_type_e` -/
inductive ContentType
  | sdp
  | mrcp
  | none
deriving DecidableEq

inductive HeaderFieldId
  | cseq
  | transport
  | sessionId
  | rtpInfo
  | contentType
  | contentLength
deriving DecidableEq

def HeaderFieldId.index : HeaderFieldId → Nat
  | .cseq => 0
  | .transport => 1
  | .sessionId => 2
  | .rtpInfo => 3
  | .contentType => 4
  | .contentLength => 5

/-- The identifier of a number: none stands for `RTSP_HEADER_FIELD_UNKNOWN`. -/
def HeaderFieldId.ofIndex : Nat → Option HeaderFieldId
  | 0 => some .cseq
  | 1 => some .transport
  | 2 => some .sessionId
  | 3 => some .rtpInfo
  | 4 => some .contentType
  | 5 => some .contentLength
  | _ => Option.none

/-! ## String tables -/

def rtspHeaderStringTable : List StrTableItem :=
  [⟨ascii "CSeq", 1⟩, ⟨ascii "Transport", 0⟩, ⟨ascii "Session", 0⟩, ⟨ascii "RTP-Info", 0⟩, ⟨ascii "Content-Type", 8⟩,
    ⟨ascii "Content-Length", 8⟩]

def rtspHeaderFieldCount : Nat := 6

def rtspContentTypeStringTable : List StrTableItem := [⟨ascii "application/sdp", 12⟩, ⟨ascii "application/mrcp", 12⟩]

def rtspContentTypeCount : Nat := 2

def rtspTransportStringTable : List StrTableItem := [⟨ascii "RTP", 0⟩]

def rtspLowerTransportStringTable : List StrTableItem := [⟨ascii "UDP", 0⟩, ⟨ascii "TCP", 0⟩]

def rtspProfileStringTable : List StrTableItem := [⟨ascii "AVP", 0⟩, ⟨ascii "SAVP", 0⟩]

def rtspTransportAttribStringTable : List StrTableItem :=
  [⟨ascii "client_port", 0⟩, ⟨ascii "server_port", 2⟩, ⟨ascii "source", 2⟩, ⟨ascii "destination", 0⟩,
    ⟨ascii "unicast", 0⟩, ⟨ascii "multicast", 1⟩, ⟨ascii "mode", 2⟩]

def rtspTransportAttribCount : Nat := 7

def transportProtocolFind (field : Bytes) : TransportProtocol :=
  match stringTableIdFind rtspTransportStringTable 1 field with
  | 0 => .rtp
  | _ => .none

def profileFind (field : Bytes) : Profile :=
  match stringTableIdFind rtspProfileStringTable 2 field with
  | 0 => .avp
  | 1 => .savp
  | _ => .none

def lowerTransportFind (field : Bytes) : LowerTransport :=
  match stringTableIdFind rtspLowerTransportStringTable 2 field with
  | 0 => .udp
  | 1 => .tcp
  | _ => .none

def transportAttribFind (field : Bytes) : Option TransportAttrib :=
  match stringTableIdFind rtspTransportAttribStringTable rtspTransportAttribCount field with
  | 0 => some .clientPort
  | 1 => some .serverPort
  | 2 => some .source
  | 3 => some .destination
  | 4 => some .unicast
  | 5 => some .multicast
  | 6 => some .mode
  | _ => Option.none

def contentTypeFind (field : Bytes) : ContentType :=
  match stringTableIdFind rtspContentTypeStringTable rtspContentTypeCount field with
  | 0 => .sdp
  | 1 => .mrcp
  | _ => .none

def TransportProtocol.text : TransportProtocol → Option Bytes
  | .rtp => stringTableStrGet rtspTransportStringTable 1 0
  | .none => Option.none

def Profile.text : Profile → Option Bytes
  | .avp => stringTableStrGet rtspProfileStringTable 2 0
  | .savp => stringTableStrGet rtspProfileStringTable 2 1
  | .none => Option.none

def TransportAttrib.text : TransportAttrib → Bytes
  | .clientPort => ascii "client_port"
  | .serverPort => ascii "server_port"
  | .source => ascii "source"
  | .destination => ascii "destination"
  | .unicast => ascii "unicast"
  | .multicast => ascii "multicast"
  | .mode => ascii "mode"

def ContentType.text : ContentType → Option Bytes
  | .sdp => stringTableStrGet rtspContentTypeStringTable rtspContentTypeCount 0
  | .mrcp => stringTableStrGet rtspContentTypeStringTable rtspContentTypeCount 1
  | .none => Option.none

/-! ## Transport -/

/-- `rtsp_port_range_t`, of ports of 16 bits. -/
structure PortRange where
  min : UInt16
  max : UInt16
deriving DecidableEq

def portRangeInit : PortRange := ⟨0, 0⟩

def portRangeIsValid (range : PortRange) : Bool := !(range.min == 0 && range.max == 0)

structure Transport where
  protocol : TransportProtocol
  profile : Profile
  lowerProtocol : LowerTransport
  delivery : Delivery
  clientPortRange : PortRange
  serverPortRange : PortRange
  source : Bytes
  destination : Bytes
  mode : Bytes
deriving DecidableEq

/-- `rtsp_transport_init`, which leaves the delivery as it is in memory. -/
def transportInit (delivery : Delivery) : Transport where
  protocol := .rtp
  profile := .none
  lowerProtocol := .none
  delivery := delivery
  clientPortRange := portRangeInit
  serverPortRange := portRangeInit
  source := []
  destination := []
  mode := []

def portRangeParse (range : PortRange) (stream : TextStream) : PortRange :=
  match textFieldRead stream 0x2D with
  | (_, none) => range
  | (stream, some value) =>
    let range := { range with min := UInt16.ofNat (sizeValueParse value) }
    match textFieldRead stream 0x3B with
    | (_, none) => range
    | (_, some value) => { range with max := UInt16.ofNat (sizeValueParse value) }

def transportAttribValueParse (value : Bytes) (stream : TextStream) : Bytes :=
  match textFieldRead stream 0x3B with
  | (_, none) => value
  | (_, some field) => field.bytes

def transportAttribParse (transport : Transport) (field : Str) : Transport :=
  match textFieldRead (textStreamInit field) 0x3D with
  | (_, none) => transport
  | (stream, some name) =>
    match transportAttribFind name.bytes with
    | some .clientPort =>
      { transport with clientPortRange := portRangeParse transport.clientPortRange stream }
    | some .serverPort =>
      -- the client's range is written for the server, too
      { transport with clientPortRange := portRangeParse transport.clientPortRange stream }
    | some .source => { transport with source := transportAttribValueParse transport.source stream }
    | some .destination => { transport with destination := transportAttribValueParse transport.destination stream }
    | some .unicast => { transport with delivery := .unicast }
    | some .multicast => { transport with delivery := .multicast }
    | some .mode => { transport with mode := transportAttribValueParse transport.mode stream }
    | none => transport

/-- `rtsp_transport_protocol_parse`: RTP/AVP[/UDP]. -/
def transportProtocolParse (transport : Transport) (value : Str) : Transport × Bool :=
  let transport := { transport with protocol := .rtp, profile := .avp, lowerProtocol := .udp }
  match textFieldRead (textStreamInit value) 0x2F with
  | (_, none) => (transport, false)
  | (stream, some field) =>
    let transport := { transport with protocol := transportProtocolFind field.bytes }
    if transport.protocol = .none then (transport, false)
    else
      match textFieldRead stream 0x2F with
      | (_, none) => (transport, false)
      | (stream, some field) =>
        let transport := { transport with profile := profileFind field.bytes }
        if transport.profile = .none then (transport, false)
        else
          match textFieldRead stream 0x2F with
          | (_, none) => (transport, true)
          | (_, some field) =>
            let transport := { transport with lowerProtocol := lowerTransportFind field.bytes }
            (transport, transport.lowerProtocol != .none)

def transportParse (transport : Transport) (value : Bytes) : Transport × Bool :=
  match textFieldRead (textStreamInit ⟨value, []⟩) 0x3B with
  | (_, none) => (transport, false)
  | (stream, some field) =>
    match transportProtocolParse transport field with
    | (transport, false) => (transport, false)
    | (transport, true) => (fieldsRead 0x3B transportAttribParse transport stream, true)

/-- `rtsp_port_range_generate`. The insertions are not checked. -/
def portRangeGenerate (attrib : TransportAttrib) (range : PortRange) (b : TextBuffer) : TextBuffer :=
  let b := (textStringInsert attrib.text b).1
  let b := (textCharInsert 0x3D b).1
  let b := (textSizeValueInsert range.min.toNat b).1
  if range.min < range.max then
    let b := (textCharInsert 0x2D b).1
    (textSizeValueInsert range.max.toNat b).1
  else b

/-- The part of `rtsp_transport_generate` for a port range. -/
def portRangeInsert (attrib : TransportAttrib) (range : PortRange) (b : TextBuffer) : TextBuffer :=
  if portRangeIsValid range then portRangeGenerate attrib range (textCharInsert 0x3B b).1 else b

/-- The part of `rtsp_transport_generate` for the mode. -/
def modeInsert (mode : Bytes) (b : TextBuffer) : TextBuffer :=
  if mode = [] then b
  else
    let b := (textCharInsert 0x3B b).1
    let b := (textStringInsert TransportAttrib.mode.text b).1
    let b := (textCharInsert 0x3D b).1
    (textStringInsert mode b).1

/-- The part of `rtsp_transport_generate` for the delivery, which fails if there is no attribute for it. -/
def deliveryInsert (delivery : Delivery) (b : TextBuffer) : Option TextBuffer :=
  match delivery with
  | .none => some b
  | .unicast => some (textStringInsert TransportAttrib.unicast.text (textCharInsert 0x3B b).1).1
  | .multicast => some (textStringInsert TransportAttrib.multicast.text (textCharInsert 0x3B b).1).1
  | .other _ => Option.none

/-- The size of the buffer of `rtsp_transport_generate`. -/
def transportBufferSize : Nat := 256

/-- `rtsp_transport_generate`: the text, if there is one. -/
def transportGenerate (transport : Transport) : Option Bytes := do
  let protocol ← transport.protocol.text
  let profile ← transport.profile.text
  let b := (textStringInsert protocol (textBufferInit transportBufferSize)).1
  let b := (textCharInsert 0x2F b).1
  let b := (textStringInsert profile b).1
  let b ← deliveryInsert transport.delivery b
  let b := portRangeInsert .clientPort transport.clientPortRange b
  let b := portRangeInsert .serverPort transport.serverPortRange b
  some (modeInsert transport.mode b).text

/-! ## Headers -/

structure Header where
  cseq : UInt64
  transport : Transport
  sessionId : Bytes
  rtpInfo : Bytes
  contentType : ContentType
  contentLength : UInt64
  headerSection : HeaderSection
deriving DecidableEq

def headerInit (delivery : Delivery) : Header where
  cseq := 0
  transport := transportInit delivery
  sessionId := []
  rtpInfo := []
  contentType := .none
  contentLength := 0
  headerSection := headerSectionArrayAlloc headerSectionInit rtspHeaderFieldCount

/-- `rtsp_session_id_parse`: up to a semicolon, or to a NUL if there is none before it. -/
def sessionIdParse (value : Bytes) : Bytes :=
  match (value.takeWhile (· != 0)).idxOf? 0x3B with
  | some sep => value.take sep
  | none => value

def headerFieldValueParse (header : Header) (id : Option HeaderFieldId) (value : Bytes) : Header × Bool :=
  match id with
  | some .cseq => ({ header with cseq := UInt64.ofNat (sizeValueParse ⟨value, []⟩) }, true)
  | some .transport =>
    let r := transportParse header.transport value
    ({ header with transport := r.1 }, r.2)
  | some .sessionId => ({ header with sessionId := sessionIdParse value }, true)
  | some .rtpInfo => ({ header with rtpInfo := value }, true)
  | some .contentType => ({ header with contentType := contentTypeFind value }, true)
  | some .contentLength => ({ header with contentLength := UInt64.ofNat (sizeValueParse ⟨value, []⟩) }, true)
  | none => (header, false)

/-- `rtsp_header_field_value_generate`: the value, which stays as it is where there is no text. -/
def headerFieldValueGenerate (header : Header) (id : HeaderFieldId) (value : Bytes) : Bytes :=
  match id with
  | .cseq => decimal header.cseq.toNat
  | .transport => (transportGenerate header.transport).getD value
  | .sessionId => header.sessionId
  | .rtpInfo => header.rtpInfo
  | .contentType => header.contentType.text.getD value
  | .contentLength => decimal header.contentLength.toNat

/-- The name and the value of a field are parsed, and its identifier is set. -/
def headerFieldParse (header : Header) (field : HeaderField) : Header × HeaderField :=
  let id := stringTableIdFind rtspHeaderStringTable rtspHeaderFieldCount field.name
  (if field.value = [] then header else (headerFieldValueParse header (HeaderFieldId.ofIndex id) field.value).1,
    { field with id := some id })

def headerFieldAdd (header : Header) (field : HeaderField) : Header × Bool :=
  let r := headerFieldParse header field
  let r' := headerSectionFieldAdd r.1.headerSection r.2
  ({ r.1 with headerSection := r'.1 }, r'.2)

/-- A round of the loop of `rtsp_header_fields_parse`: the header, and the fields up to this one. -/
def headerFieldsStep (a : Header × List HeaderField) (field : HeaderField) : Header × List HeaderField :=
  let r := headerFieldParse a.1 field
  ({ r.1 with headerSection := (headerSectionFieldSet r.1.headerSection r.2).1 }, a.2 ++ [r.2])

def headerFieldsParse (header : Header) : Header :=
  let r := header.headerSection.ring.foldl headerFieldsStep (header, [])
  { r.1 with headerSection := { r.1.headerSection with ring := r.2 } }

def headerPropertyAdd (header : Header) (id : HeaderFieldId) : Header × Bool :=
  match headerSectionFieldGet header.headerSection id.index with
  | some field =>
    let field' := { field with value := headerFieldValueGenerate header id field.value }
    ({ header with headerSection := headerSectionFieldReplace header.headerSection id.index field field' }, true)
  | none =>
    let value := headerFieldValueGenerate header id []
    match stringTableStrGet rtspHeaderStringTable rtspHeaderFieldCount id.index with
    | some name =>
      let r := headerSectionFieldInsert header.headerSection ⟨name, value, some id.index⟩
      ({ header with headerSection := r.1 }, r.2)
    | none => (header, false)

end UniMrcp.UniRtsp
