import UniMrcp.Apt.TextStream

/-!
# MRCP start lines

The start line of an MRCP message, in version 1 and version 2 of the protocol.
-/

namespace UniMrcp.Mrcp

open Apt

/-- `mrcp_version_e` -/
inductive Version
  | unknown
  | v1
  | v2
deriving DecidableEq

/-- `mrcp_message_type_e` -/
inductive MessageType
  | unknown
  | request
  | response
  | event
deriving DecidableEq

/-- `mrcp_request_state_e` -/
inductive RequestState
  | complete
  | inProgress
  | pending
  | unknown
deriving DecidableEq

structure StartLine where
  messageType : MessageType
  version : Version
  /-- The length of the message in bytes, as it is specified. -/
  length : Nat
  requestId : Nat
  methodName : Bytes
  /-- The method associated with the name, set by the resource. -/
  methodId : Option Nat
  statusCode : Nat
  requestState : RequestState
deriving DecidableEq

def startLineInit : StartLine := ⟨.unknown, .unknown, 0, 0, [], none, 0, .unknown⟩

def mrcpName : Bytes := ascii "MRCP"

def versionParse (field : Bytes) : Version :=
  if field.length ≤ mrcpName.length ∨ (field.take mrcpName.length).map toLower ≠ mrcpName.map toLower then .unknown
  else
    match field.drop mrcpName.length with
    | 0x2F :: 0x31 :: _ => .v1
    | 0x2F :: 0x32 :: _ => .v2
    | _ => .unknown

def requestStateStringTable : List StrTableItem :=
  [⟨ascii "COMPLETE", 0⟩, ⟨ascii "IN-PROGRESS", 0⟩, ⟨ascii "PENDING", 0⟩]

def requestStateParse (field : Bytes) : RequestState :=
  match stringTableIdFind requestStateStringTable 3 field with
  | 0 => .complete
  | 1 => .inProgress
  | 2 => .pending
  | _ => .unknown

/-- `mrcp_request_id_parse`, of 32 bits. -/
def requestIdParse (field : Str) : Nat := sizeValueParse field % 2 ^ 32

def statusCodeParse (field : Str) : Nat := sizeValueParse field % 2 ^ 32

def fieldRead (stream : TextStream) : TextStream × Option Str := textFieldRead stream tokenSp

/-- `mrcp_request_line_parse`, for requests and events of version 1. -/
def requestLineParse (startLine : StartLine) (stream : TextStream) : Option StartLine := do
  let requestId ← (fieldRead stream).2
  let stream := (fieldRead stream).1
  let field ← (fieldRead stream).2
  let requestState := requestStateParse field.bytes
  let startLine := { startLine with requestId := requestIdParse requestId, requestState := requestState }
  if requestState = .unknown then
    let version := versionParse field.bytes
    if version = .unknown then none else some { startLine with messageType := .request, version := version }
  else
    let field ← (fieldRead (fieldRead stream).1).2
    let version := versionParse field.bytes
    if version = .unknown then none else some { startLine with messageType := .event, version := version }

/-- `mrcp_response_line_parse`, which is called for version 1. -/
def responseLineParse (startLine : StartLine) (stream : TextStream) : Option StartLine := do
  let requestId ← (fieldRead stream).2
  let stream := (fieldRead stream).1
  let statusCode ← (fieldRead stream).2
  let requestState ← (fieldRead (fieldRead stream).1).2
  some { startLine with
    length := 0
    requestId := requestIdParse requestId
    statusCode := statusCodeParse statusCode
    requestState := requestStateParse requestState.bytes }

/-- The part of `mrcp_v2_start_line_parse` for requests and events. -/
def v2RequestParse (startLine : StartLine) (methodName : Bytes) (stream : TextStream) : Option StartLine := do
  let requestId ← (fieldRead stream).2
  let startLine := { startLine with
    messageType := .request, methodName := methodName, requestId := requestIdParse requestId }
  match (fieldRead (fieldRead stream).1).2 with
  | none => some startLine
  | some requestState =>
    some { startLine with messageType := .event, requestState := requestStateParse requestState.bytes }

/-- The part of `mrcp_v2_start_line_parse` for responses. -/
def v2ResponseParse (startLine : StartLine) (stream : TextStream) : Option StartLine := do
  let statusCode ← (fieldRead stream).2
  let requestState ← (fieldRead (fieldRead stream).1).2
  some { startLine with
    messageType := .response
    statusCode := statusCodeParse statusCode
    requestState := requestStateParse requestState.bytes }

/-- `mrcp_v2_start_line_parse`: a method name or a request-id tells requests and events from responses. -/
def v2StartLineParse (startLine : StartLine) (stream : TextStream) : Option StartLine := do
  let length ← (fieldRead stream).2
  let stream := (fieldRead stream).1
  let field ← (fieldRead stream).2
  let stream := (fieldRead stream).1
  let startLine := { startLine with length := sizeValueParse length, requestId := requestIdParse field }
  if requestIdParse field = 0 ∧ field.bytes.head? ≠ some 0x30 then v2RequestParse startLine field.bytes stream
  else v2ResponseParse startLine stream

def startLineParse (str : Str) : Option StartLine := do
  let line := textStreamInit str
  let field ← (fieldRead line).2
  let line := (fieldRead line).1
  if mrcpName <+: field.bytes then
    let startLine := { startLineInit with version := versionParse field.bytes }
    match versionParse field.bytes with
    | .v1 => responseLineParse { startLine with messageType := .response } line
    | .v2 => v2StartLineParse startLine line
    | .unknown => none
  else requestLineParse { startLineInit with methodName := field.bytes } line

end UniMrcp.Mrcp
