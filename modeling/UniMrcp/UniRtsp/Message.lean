import UniMrcp.Apt.TextMessage.Reads
import UniMrcp.UniRtsp.Header
import UniMrcp.UniRtsp.Stream

/-!
# The RTSP parser

The start lines of RTSP as they are parsed, and the vtable of the text message parser for RTSP.
-/

namespace UniMrcp.UniRtsp

open Apt

/-! ## Start lines -/

/-- `rtsp_start_line_t`, with the name of the method and the name of the resource. -/
inductive RtspLine
  | unknown
  | request (methodName : Bytes) (methodId : Nat) (url : Bytes) (resourceName : Option Bytes) (version : Version)
  | response (version : Version) (statusCode : Nat) (reason : Bytes)
deriving DecidableEq

def rtspReasonStringTable : List StrTableItem :=
  [⟨ascii "OK", 0⟩, ⟨ascii "Created", 0⟩, ⟨ascii "Bad Request", 0⟩, ⟨ascii "Unauthorized", 0⟩,
    ⟨ascii "Not Found", 4⟩, ⟨ascii "Method Not Allowed", 0⟩, ⟨ascii "Not Acceptable", 4⟩,
    ⟨ascii "Proxy Auth Required", 0⟩, ⟨ascii "Request Timeout", 0⟩, ⟨ascii "Session Not Found", 2⟩,
    ⟨ascii "Internal Server Error", 0⟩, ⟨ascii "Not Implemented", 5⟩, ⟨ascii "Service Unavailable", 2⟩]

def rtspReasonPhraseCount : Nat := 13

def reasonPhraseGet (reason : Nat) : Option Bytes :=
  stringTableStrGet rtspReasonStringTable rtspReasonPhraseCount reason

def lastPathSegment (url : Bytes) : Option Bytes :=
  if 0x2F ∈ url then some (url.reverse.takeWhile (· != 0x2F)).reverse else none

/-- `rtsp_resource_uri_parse`: the URL without a slash at its end, and the name of the resource, for which the URL ends
with a NUL. -/
def resourceUriParse (field : Bytes) : Bytes × Option Bytes :=
  let url := if field.getLast? = some 0x2F then field.dropLast else field
  (url, lastPathSegment (url.takeWhile (· != 0)))

def versionParse (field : Bytes) : Version :=
  if field.length ≤ rtspName.length ∨ (field.take rtspName.length).map toLower ≠ rtspName.map toLower then .unknown
  else
    match field.drop rtspName.length with
    | 0x2F :: 0x31 :: _ => .v1
    | _ => .unknown

/-- `rtsp_status_code_parse`, of 32 bits. -/
def statusCodeParse (field : Str) : Nat := sizeValueParse field % 2 ^ 32

/-- The part of `rtsp_start_line_parse` for responses. -/
def statusLineParse (version : Version) (line : TextStream) : Option RtspLine := do
  let statusCode ← (textFieldRead line tokenSp).2
  let line := (textFieldRead line tokenSp).1
  let reason ← (textFieldRead line tokenSp).2
  some (.response version (statusCodeParse statusCode) reason.bytes)

/-- The part of `rtsp_start_line_parse` for requests. -/
def requestLineParse (methodName : Bytes) (line : TextStream) : Option RtspLine := do
  let methodId := stringTableIdFind rtspMethodStringTable rtspMethodCount methodName
  let field ← (textFieldRead line tokenSp).2
  let (url, resourceName) := resourceUriParse field.bytes
  let line := (textFieldRead line tokenSp).1
  let version ← (textFieldRead line tokenSp).2
  some (.request methodName methodId url resourceName (versionParse version.bytes))

def startLineParse (str : Str) : Option RtspLine := do
  let line := textStreamInit str
  let field ← (textFieldRead line tokenSp).2
  let line := (textFieldRead line tokenSp).1
  if rtspName <+: field.bytes then statusLineParse (versionParse field.bytes) line
  else requestLineParse field.bytes line

structure RtspMessage where
  startLine : RtspLine
  header : Header
  body : Body
deriving DecidableEq

instance : TextMessage RtspMessage where
  header m := m.header.headerSection
  setHeader m h := { m with header := { m.header with headerSection := h } }
  body m := m.body
  setBody m b := { m with body := b }
  header_setHeader _ _ := rfl
  setHeader_setHeader _ _ _ := rfl
  setHeader_header _ := rfl
  body_setBody _ _ := rfl
  setBody_setBody _ _ _ := rfl

/-- `rtsp_message_create`, with the delivery that is in memory. -/
def messageCreate (delivery : Delivery) (startLine : RtspLine) : RtspMessage := ⟨startLine, headerInit delivery, {}⟩

def headerPropertyCheck (header : Header) (id : HeaderFieldId) : Bool :=
  headerSectionFieldCheck header.headerSection id.index

/-- `rtsp_response_create`, for a request of some version with some header. -/
def responseCreate (delivery : Delivery) (version : Version) (header : Header) (statusCode reason : Nat) :
    RtspMessage :=
  let response := messageCreate delivery (.response version statusCode ((reasonPhraseGet reason).getD []))
  let response :=
    if headerPropertyCheck header .cseq then
      { response with header := (headerPropertyAdd { response.header with cseq := header.cseq } .cseq).1 }
    else response
  if headerPropertyCheck header .transport ∧ header.transport.mode ≠ [] then
    { response with header := { response.header with
      transport := { response.header.transport with mode := header.transport.mode } } }
  else response

/-! ## Methods, statuses and start lines -/

def methodSetup : Nat := 0

def methodAnnounce : Nat := 1

def methodTeardown : Nat := 2

def methodDescribe : Nat := 3

def methodOptions : Nat := 4

/-- `rtsp_status_code_e`, of the responses that are created. -/
inductive Status
  | ok
  | badRequest
  | notFound
  | notAcceptable
  | internalServerError
  | serviceUnavailable
deriving DecidableEq

def Status.code : Status → Nat
  | .ok => 200
  | .badRequest => 400
  | .notFound => 404
  | .notAcceptable => 406
  | .internalServerError => 500
  | .serviceUnavailable => 503

def Status.reason : Status → Nat
  | .ok => 0
  | .badRequest => 2
  | .notFound => 4
  | .notAcceptable => 6
  | .internalServerError => 10
  | .serviceUnavailable => 12

/-- `RTSP_MESSAGE_TYPE_REQUEST` -/
def RtspLine.isRequest : RtspLine → Bool
  | .request .. => true
  | _ => false

def RtspLine.methodId : RtspLine → Nat
  | .request _ methodId _ _ _ => methodId
  | _ => rtspMethodCount

def RtspLine.resourceName : RtspLine → Option Bytes
  | .request _ _ _ resourceName _ => resourceName
  | _ => none

def RtspLine.version : RtspLine → Version
  | .request _ _ _ _ version => version
  | .response version _ _ => version
  | .unknown => .unknown

def RtspLine.statusCode : RtspLine → Nat
  | .response _ statusCode _ => statusCode
  | _ => 0

def RtspLine.url : RtspLine → Bytes
  | .request _ _ url _ _ => url
  | _ => []

def RtspLine.setUrl (url : Bytes) : RtspLine → RtspLine
  | .request methodName methodId _ resourceName version => .request methodName methodId url resourceName version
  | line => line

def RtspMessage.setSession (message : RtspMessage) (sessionId : Bytes) : RtspMessage :=
  { message with header := (headerPropertyAdd { message.header with sessionId := sessionId } .sessionId).1 }

def RtspMessage.setCseq (message : RtspMessage) (cseq : UInt64) : RtspMessage :=
  { message with header := (headerPropertyAdd { message.header with cseq := cseq } .cseq).1 }

/-! ## Properties -/

variable (header : Header)

theorem headerPropertyCheck_add {id other : HeaderFieldId} (hne : other ≠ id) :
    headerPropertyCheck (headerPropertyAdd header id).1 other = headerPropertyCheck header other := by
  have hi : id.index ≠ other.index := by
    intro heq
    apply hne
    cases id <;> cases other <;> first | rfl | cases heq
  unfold headerPropertyAdd headerPropertyCheck headerSectionFieldCheck
  split
  · simp [headerSectionFieldReplace, List.getElem?_set_ne hi]
  · split
    · unfold headerSectionFieldInsert
      dsimp only
      split
      · rfl
      · simp [HeaderSection.setEntry, List.getElem?_set_ne hi]
      · rfl
    · rfl

variable (id : HeaderFieldId)

theorem headerPropertyAdd_cseq : (headerPropertyAdd header id).1.cseq = header.cseq := by
  unfold headerPropertyAdd
  split
  · rfl
  · split <;> rfl

theorem headerPropertyAdd_length :
    (headerPropertyAdd header id).1.headerSection.arr.length = header.headerSection.arr.length := by
  unfold headerPropertyAdd
  split
  · exact List.length_set
  · split
    · unfold headerSectionFieldInsert
      dsimp only
      split
      · rfl
      · exact List.length_set
      · rfl
    · rfl

theorem headerPropertyCheck_self {id : HeaderFieldId} (h : id.index < header.headerSection.arr.length) :
    headerPropertyCheck (headerPropertyAdd header id).1 id = true := by
  unfold headerPropertyAdd
  split
  · simp [headerPropertyCheck, headerSectionFieldCheck, headerSectionFieldReplace, h]
  · next hn =>
    have hf : header.headerSection.arr[id.index]? = some none := by
      unfold headerSectionFieldGet at hn
      rw [List.getD_eq_getElem?_getD] at hn
      rw [List.getElem?_eq_getElem h] at hn ⊢
      exact congrArg some hn
    have hm : ∃ name, stringTableStrGet rtspHeaderStringTable rtspHeaderFieldCount id.index = some name := by
      cases id <;> exact ⟨_, rfl⟩
    obtain ⟨name, hm⟩ := hm
    rw [hm]
    have he : header.headerSection.entry ⟨name, headerFieldValueGenerate header id [], some id.index⟩ = some none :=
      hf
    dsimp only
    rw [headerSectionFieldInsert, he]
    simp [headerPropertyCheck, headerSectionFieldCheck, HeaderSection.setEntry, h]

variable (delivery : Delivery)

theorem responseCreate_startLine (version : Version) (header : Header) (statusCode reason : Nat) :
    (responseCreate delivery version header statusCode reason).startLine =
      .response version statusCode ((reasonPhraseGet reason).getD []) := by
  unfold responseCreate
  split_ifs <;> rfl

theorem responseCreate_cseq (version : Version) {header : Header} (statusCode reason : Nat)
    (hc : headerPropertyCheck header .cseq) :
    headerPropertyCheck (responseCreate delivery version header statusCode reason).header .cseq = true ∧
      (responseCreate delivery version header statusCode reason).header.cseq = header.cseq := by
  have ha : headerPropertyCheck (headerPropertyAdd { headerInit delivery with
      cseq := header.cseq } .cseq).1 .cseq = true := rfl
  have hs : (headerPropertyAdd { headerInit delivery with cseq := header.cseq } .cseq).1.cseq = header.cseq :=
    headerPropertyAdd_cseq _ _
  unfold responseCreate
  split_ifs <;> exact ⟨ha, hs⟩

def parserOnStart (delivery : Delivery) (stream : TextStream) : TextStream × Option RtspMessage :=
  let r := textLineRead stream
  (r.1, (r.2.bind startLineParse).map (messageCreate delivery))

def parserOnHeaderComplete (message : RtspMessage) : RtspMessage × Bool :=
  let message := { message with header := headerFieldsParse message.header }
  if headerPropertyCheck message.header .contentLength then
    ({ message with body := { message.body with length := message.header.contentLength.toNat } }, true)
  else (message, true)

def parserVTable (delivery : Delivery) : MessageParserVTable RtspMessage where
  onStart := parserOnStart delivery
  onStart_reads s := textLineRead_reads s
  onHeaderComplete := some parserOnHeaderComplete
  onBodyComplete := none

end UniMrcp.UniRtsp
