import Mathlib.Data.List.AList
import UniMrcp.UniRtsp.Message

/-!
# The RTSP client

A session creates a connection for its first request, and has one active request, a queue of the requests that wait for it
and a table of the resources that are set up.
-/

namespace UniMrcp.UniRtsp

open Apt
open Mrcp (decimal)

/-! ## States -/

/-- What the client is set up with, what the network does, and in which order hash tables are walked through. -/
structure ClientProfile where
  requestTimeout : Nat := 0
  /-- The delivery that is in memory where messages are created. -/
  delivery : Delivery := .none
  /-- Whether a connection is established: the first one, the next one, and so on. -/
  connects : Nat → Bool := fun _ => true
  /-- Whether a message is sent over an open connection: the first one, the next one, and so on. -/
  sends : Nat → Bool := fun _ => true
  walk : List Bytes → List Bytes := id
  walk_perm : ∀ keys, (walk keys).Perm keys := by exact fun _ => List.Perm.refl _

/-- Requests that the application hands to the client are numbered in order; those that the client makes have no number.
-/
structure ClientRequest where
  number : Option Nat
  message : RtspMessage
deriving DecidableEq

def ClientRequest.methodId (request : ClientRequest) : Nat := request.message.startLine.methodId

def ClientRequest.resourceName (request : ClientRequest) : Bytes := request.message.startLine.resourceName.getD []

/-- `termination_state_e` -/
inductive TerminationState
  | none
  | requested
  | inProgress
deriving DecidableEq

/-- `rtsp_client_session_t`, and what the application has done with the session. -/
structure ClientSession where
  serverIp : Bytes := []
  serverPort : UInt16 := 0
  resourceLocation : Bytes := []
  connection : Option Nat := none
  id : Bytes := []
  activeRequest : Option ClientRequest := none
  pendingRequestQueue : List ClientRequest := []
  requestTimer : Bool := false
  resourceTable : AList fun _ : Bytes => ClientRequest := ∅
  termState : TerminationState := .none
  /-- The application has signalled that the session is to be terminated. -/
  closing : Bool := false
  /-- The application has destroyed the session, as it does when the termination is responded to. -/
  destroyed : Bool := false

structure ClientConnection where
  sock : Bool := false
  handleTable : List Nat := []
  sessionTable : AList fun _ : Bytes => Nat := ∅
  inprogressRequestQueue : List Nat := []
  lastCseq : UInt64 := 0
  destroyed : Bool := false

/-- `task_msg_data_t` -/
inductive ClientSignal
  /-- `TASK_MSG_SEND_MESSAGE` -/
  | send (session : Nat) (request : ClientRequest)
  /-- `TASK_MSG_TERMINATE_SESSION` -/
  | terminate (session : Nat)
deriving DecidableEq

def ClientSignal.session : ClientSignal → Nat
  | .send session _ => session
  | .terminate session => session

inductive ClientEvent
  /-- `rtsp_client_session_request` -/
  | handed (session : Nat) (number : Nat)
  /-- `rtsp_client_session_terminate` -/
  | terminated (session : Nat)
  | sent (c : Nat) (message : RtspMessage)
  /-- A request that was sent is pushed to the in-progress queue. -/
  | pushed (session : Nat) (request : ClientRequest)
  | arrived (c : Nat) (cseq : UInt64)
  | timedOut (session : Nat)
  | lost (c : Nat)
  /-- `on_session_response` -/
  | responded (session : Nat) (request : ClientRequest) (response : RtspMessage)
  /-- `on_session_event` -/
  | sessionEvent (session : Nat) (message : RtspMessage)
  /-- `on_session_terminate_event` -/
  | terminateEvent (session : Nat)
  /-- `on_session_terminate_response` -/
  | terminateResponse (session : Nat)
  /-- `rtsp_client_connection_destroy` -/
  | connectionDestroyed (c : Nat)
  | fault (id : Nat)
deriving DecidableEq

def ClientEvent.about : ClientEvent → Nat
  | .handed session _ => session
  | .terminated session => session
  | .sent c _ => c
  | .pushed session _ => session
  | .arrived c _ => c
  | .timedOut session => session
  | .lost c => c
  | .responded session _ _ => session
  | .sessionEvent session _ => session
  | .terminateEvent session => session
  | .terminateResponse session => session
  | .connectionDestroyed c => c
  | .fault id => id

/-- `rtsp_client_t`. A connection has the number of the session that it is created for: a session creates one at
most. -/
structure Client where
  session : Nat → ClientSession := fun _ => {}
  sessionCount : Nat := 0
  connection : Nat → ClientConnection := fun _ => {}
  /-- The task messages that are not processed yet. -/
  signals : List ClientSignal := []
  /-- How many requests were handed to the client. -/
  handed : Nat := 0
  /-- How often a connection was to be established. -/
  connects : Nat := 0
  sends : Nat := 0
  log : List ClientEvent := []

variable (A : ClientProfile)

def Client.see (s : Client) (event : ClientEvent) : Client := { s with log := s.log ++ [event] }

def Client.modifySession (s : Client) (id : Nat) (f : ClientSession → ClientSession) : Client :=
  { s with session := Function.update s.session id (f (s.session id)) }

def Client.modifyConnection (s : Client) (c : Nat) (f : ClientConnection → ClientConnection) : Client :=
  { s with connection := Function.update s.connection c (f (s.connection c)) }

def Client.touch (s : Client) (c : Nat) : Client := if (s.connection c).destroyed then s.see (.fault c) else s

/-! ## Requests -/

def Client.connectionCreate (s : Client) (id : Nat) : Client × Bool :=
  let s' := { s with connects := s.connects + 1 }
  if A.connects s.connects then
    ((s'.modifyConnection id fun _ => { sock := true }).modifySession id ({ · with connection := some id }), true)
  else (s', false)

/-- The connection of a session, which is created for its first request. -/
def Client.connectionEnsure (s : Client) (id : Nat) : Client × Option Nat :=
  match (s.session id).connection with
  | some c => (s, some c)
  | none =>
    match s.connectionCreate A id with
    | (s, true) => (s.modifyConnection id ({ · with handleTable := [id] }), some id)
    | (s, false) => (s, none)

def ClientSession.urlGenerate (session : ClientSession) (resourceName : Bytes) : Bytes :=
  ascii "rtsp://" ++ session.serverIp ++ [0x3A] ++ decimal session.serverPort.toNat ++ [0x2F] ++
    (if session.resourceLocation ≠ [] then session.resourceLocation ++ [0x2F] else []) ++ resourceName

/-- A request is given its URL, the identifier of the session, if there is one, and a CSeq. -/
def ClientSession.prepare (session : ClientSession) (cseq : UInt64) (request : ClientRequest) : ClientRequest :=
  let line := request.message.startLine.setUrl (session.urlGenerate request.resourceName)
  let message := { request.message with startLine := line }
  let message := if session.id ≠ [] then message.setSession session.id else message
  { request with message := message.setCseq cseq }

def Client.messageSend (s : Client) (c : Nat) (message : RtspMessage) : Client × Bool :=
  let s := s.touch c
  if (s.connection c).sock then
    let s' := { s with sends := s.sends + 1 }
    if A.sends s.sends then (s'.see (.sent c message), true) else (s', false)
  else (s, false)

def Client.requestPush (s : Client) (c : Nat) (id : Nat) (request : ClientRequest) : Client :=
  let s := s.modifyConnection c fun connection =>
    { connection with inprogressRequestQueue := connection.inprogressRequestQueue ++ [id] }
  (s.modifySession id fun session =>
    { session with
      activeRequest := some request
      requestTimer := session.requestTimer || A.requestTimeout != 0 }).see (.pushed id request)

/-- `rtsp_client_session_request_process`, with the request as it is left. -/
def Client.requestProcess (s : Client) (id : Nat) (request : ClientRequest) : Client × ClientRequest × Bool :=
  match s.connectionEnsure A id with
  | (s, none) => (s, request, false)
  | (s, some c) =>
    let s := s.touch c
    let cseq := (s.connection c).lastCseq + 1
    let request := (s.session id).prepare cseq request
    match (s.modifyConnection c ({ · with lastCseq := cseq })).messageSend A c request.message with
    | (s, true) => (s.requestPush A c id request, request, true)
    | (s, false) => (s, request, false)

/-- The session that has a request in progress with some CSeq, and the request. -/
def Client.inprogress (s : Client) (c : Nat) (cseq : UInt64) : Option (Nat × ClientRequest) :=
  (s.connection c).inprogressRequestQueue.findSome? fun id =>
    ((s.session id).activeRequest.filter (·.message.header.cseq == cseq)).map (id, ·)

def Client.requestPop (s : Client) (c : Nat) (cseq : UInt64) : Client × Option (Nat × ClientRequest) :=
  match s.inprogress c cseq with
  | some (id, request) =>
    let s := s.modifyConnection c fun connection =>
      { connection with inprogressRequestQueue := connection.inprogressRequestQueue.erase id }
    (s.modifySession id ({ · with activeRequest := none, requestTimer := false }), some (id, request))
  | none => (s, none)

/-! ## Responses -/

/-- `rtsp_response_create`, for a request. -/
def ClientRequest.responseCreate (request : ClientRequest) (statusCode reason : Nat) : RtspMessage :=
  UniRtsp.responseCreate A.delivery request.message.startLine.version request.message.header statusCode reason

def ClientRequest.errorResponse (request : ClientRequest) : RtspMessage :=
  request.responseCreate A Status.internalServerError.code Status.internalServerError.reason

/-- A session gets its identifier, and is added to the table of its connection. -/
def Client.sessionAdd (s : Client) (id : Nat) (sessionId : Bytes) : Client :=
  let s := s.modifySession id ({ · with id := sessionId })
  match (s.session id).connection with
  | some c => s.modifyConnection c fun connection =>
      { connection with sessionTable := connection.sessionTable.insert sessionId id }
  | none => s.see (.fault id)

def Client.resourceAdd (s : Client) (id : Nat) (request : ClientRequest) (response : RtspMessage) : Client :=
  let s :=
    if (s.session id).resourceTable.entries.length = 0 ∧ headerPropertyCheck response.header .sessionId then
      s.sessionAdd id response.header.sessionId
    else s
  s.modifySession id fun session =>
    { session with resourceTable := session.resourceTable.insert request.resourceName request }

/-- A session whose resources are all removed is removed from the table of its connection. -/
def Client.sessionRemove (s : Client) (id : Nat) : Client :=
  match (s.session id).connection with
  | some c => s.modifyConnection c fun connection =>
      { connection with sessionTable := connection.sessionTable.erase (s.session id).id }
  | none => s

def Client.resourceRemove (s : Client) (id : Nat) (request : ClientRequest) : Client :=
  let s := s.modifySession id fun session =>
    { session with resourceTable := session.resourceTable.erase request.resourceName }
  if (s.session id).resourceTable.entries.length = 0 then s.sessionRemove id else s

def Client.resourcesUpdate (s : Client) (id : Nat) (request : ClientRequest) (response : RtspMessage) : Client :=
  if request.methodId = methodSetup ∧ response.startLine.statusCode = Status.ok.code then
    s.resourceAdd id request response
  else if request.methodId = methodTeardown then s.resourceRemove id request
  else s

/-- `rtsp_client_session_response_process` -/
def Client.responseProcess (s : Client) (id : Nat) (request : ClientRequest) (response : RtspMessage) : Client :=
  let s := s.resourcesUpdate id request response
  if (s.session id).termState ≠ .inProgress then s.see (.responded id request response) else s

/-- The loop of `rtsp_client_session_pending_requests_process`, for the requests that are in the queue. -/
def Client.pendingLoop (id : Nat) : List ClientRequest → Client → Client × Bool
  | [], s => (s, false)
  | request :: queue, s =>
    match (s.modifySession id ({ · with pendingRequestQueue := queue })).requestProcess A id request with
    | (s, _, true) => (s, true)
    | (s, request, false) => pendingLoop id queue (s.responseProcess id request (request.errorResponse A))

/-- `rtsp_client_session_pending_requests_process` -/
def Client.pendingRequestsProcess (s : Client) (id : Nat) : Client × Bool :=
  Client.pendingLoop A id (s.session id).pendingRequestQueue s

/-- `rtsp_client_session_message_process` -/
def Client.messageProcess (s : Client) (id : Nat) (request : ClientRequest) : Client :=
  if (s.session id).activeRequest.isSome then
    s.modifySession id fun session =>
      { session with pendingRequestQueue := session.pendingRequestQueue ++ [request] }
  else
    match s.requestProcess A id request with
    | (s, _, true) => s
    | (s, request, false) => s.responseProcess id request (request.errorResponse A)

/-- `rtsp_client_session_event_process` -/
def Client.eventProcess (s : Client) (c : Nat) (message : RtspMessage) : Client :=
  let session :=
    if headerPropertyCheck message.header .sessionId then
      (s.connection c).sessionTable.lookup message.header.sessionId
    else none
  let respond (status : Status) :=
    UniRtsp.responseCreate A.delivery message.startLine.version message.header status.code status.reason
  match session with
  | some id =>
    ((s.see (.sessionEvent id message)).messageSend A c
      ((respond .ok).setSession message.header.sessionId)).1
  | none => (s.messageSend A c (respond .notFound)).1

/-- `rtsp_client_session_terminate_respond`. The application destroys the session. -/
def Client.terminateRespond (s : Client) (id : Nat) : Client :=
  let s :=
    match (s.session id).connection with
    | some c => (s.touch c).modifyConnection c fun connection =>
        { connection with handleTable := connection.handleTable.erase id }
    | none => s.see (.fault id)
  (s.modifySession id ({ · with termState := .none, destroyed := true })).see (.terminateResponse id)

def Client.connectionDestroy (s : Client) (c : Nat) : Client :=
  ((s.touch c).modifyConnection c ({ · with sock := false, destroyed := true })).see (.connectionDestroyed c)

def teardownRequest (resourceName : Option Bytes) : ClientRequest :=
  ⟨none, messageCreate A.delivery (.request [] methodTeardown [] resourceName .v1)⟩

def Client.resourceTeardown (id : Nat) (s : Client) (name : Bytes) : Client :=
  match (s.session id).resourceTable.lookup name with
  | some setupRequest => s.messageProcess A id (teardownRequest A setupRequest.message.startLine.resourceName)
  | none => s

/-- `rtsp_client_session_resources_teardown` -/
def Client.resourcesTeardown (s : Client) (id : Nat) : Client :=
  (A.walk (s.session id).resourceTable.keys).foldl (Client.resourceTeardown A id)
    (s.modifySession id ({ · with termState := .inProgress }))

/-- The termination is responded to if no resources are left, and a connection without handles is destroyed: then the
result is false. -/
def Client.terminateCheck (s : Client) (id : Nat) (c : Nat) : Client × Bool :=
  if (s.session id).resourceTable.entries.length = 0 then
    let s := (s.terminateRespond id).touch c
    if (s.connection c).handleTable.length = 0 then (s.connectionDestroy c, false) else (s, true)
  else (s, true)

/-- `rtsp_client_session_terminate_process` -/
def Client.terminateProcess (s : Client) (id : Nat) : Client :=
  match (s.session id).connection with
  | none => (s.modifySession id ({ · with destroyed := true })).see (.terminateResponse id)
  | some c =>
    if (s.session id).activeRequest.isSome then s.modifySession id ({ · with termState := .requested })
    else ((s.resourcesTeardown A id).terminateCheck id c).1

/-! ## Connections -/

/-- The part of `rtsp_client_message_handler` for a session without a request in progress. -/
def Client.terminationProceed (s : Client) (id : Nat) (c : Nat) : Client × Bool :=
  match (s.session id).termState with
  | .none => (s, true)
  | .requested => (s.resourcesTeardown A id).terminateCheck id c
  | .inProgress => s.terminateCheck id c

/-- The part of `rtsp_client_message_handler` for responses. -/
def Client.responseHandle (s : Client) (c : Nat) (response : RtspMessage) : Client × Bool :=
  match (s.touch c).requestPop c response.header.cseq with
  | (s, none) => (s, true)
  | (s, some (id, request)) =>
    match (s.responseProcess id request response).pendingRequestsProcess A id with
    | (s, true) => (s, true)
    | (s, false) => s.terminationProceed A id c

/-- `rtsp_client_message_handler`, for a message that is completely parsed. It is false if the connection has been
destroyed. -/
def Client.messageHandler (s : Client) (c : Nat) (message : RtspMessage) : Client × Bool :=
  match message.startLine with
  | .response .. => s.responseHandle A c message
  | .request .. => (s.eventProcess A c message, true)
  | .unknown => (s, true)

def Client.requestCancel (s : Client) (id : Nat) (statusCode reason : Nat) : Client × Bool :=
  match (s.session id).activeRequest, (s.session id).connection with
  | none, _ => (s, false)
  | some _, none => (s.see (.fault id), false)
  | some request, some c => s.messageHandler A c (request.responseCreate A statusCode reason)

def statusCodeRequestTimeout : Nat := 408

def reasonPhraseRequestTimeout : Nat := 8

def Client.timerProc (s : Client) (id : Nat) : Client :=
  let s := s.modifySession id ({ · with requestTimer := false })
  if (s.session id).connection.isSome then
    (s.requestCancel A id statusCodeRequestTimeout reasonPhraseRequestTimeout).1
  else s

/-- The loop of `rtsp_client_session_terminate_raise`, for the requests that are in the queue. -/
def Client.pendingCancel (id : Nat) : List ClientRequest → Client → Client
  | [], s => s
  | request :: queue, s =>
    let s := s.modifySession id ({ · with pendingRequestQueue := queue })
    match (s.session id).activeRequest with
    | none => s.see (.fault id)
    | some active => pendingCancel id queue (s.responseProcess id request (active.errorResponse A))

/-- `rtsp_client_session_terminate_raise` -/
def Client.terminateRaise (s : Client) (id : Nat) : Client :=
  let s := Client.pendingCancel A id (s.session id).pendingRequestQueue s
  if (s.session id).termState = .none then s.see (.terminateEvent id) else s.terminateRespond id

/-- The loop of `rtsp_client_on_disconnect` over the in-progress queue: the socket is closed, and nothing is pushed any
more. -/
def Client.cancelLoop (c : Nat) : Nat → Client → Client
  | 0, s => s
  | count + 1, s =>
    match (s.connection c).inprogressRequestQueue with
    | [] => s
    | id :: queue =>
      let s := s.modifyConnection c ({ · with inprogressRequestQueue := queue })
      match s.requestCancel A id Status.internalServerError.code Status.internalServerError.reason with
      | (s, true) => cancelLoop c count ((s.modifySession id ({ · with requestTimer := false })).touch c)
      | (s, false) => cancelLoop c count (s.touch c)

def Client.sessionRaise (c : Nat) (s : Client) (sessionId : Bytes) : Client :=
  match (s.connection c).sessionTable.lookup sessionId with
  | some id => s.terminateRaise A id
  | none => s

def Client.onDisconnect (s : Client) (c : Nat) : Client :=
  let s := (s.touch c).modifyConnection c ({ · with sock := false })
  let s := (Client.cancelLoop A c (s.connection c).inprogressRequestQueue.length s).touch c
  if (s.connection c).handleTable.length ≠ 0 then
    (A.walk (s.connection c).sessionTable.keys).foldl (Client.sessionRaise A c) s
  else s

def Client.arrive (s : Client) (c : Nat) (message : RtspMessage) : Client :=
  match message.startLine with
  | .response .. => s.see (.arrived c message.header.cseq)
  | _ => s

/-- The loop of `rtsp_client_poller_signal_process`, for the messages that are received at once. -/
def Client.receive (c : Nat) : List RtspMessage → Client → Client
  | [], s => s.touch c
  | message :: messages, s =>
    match (s.arrive c message).messageHandler A c message with
    | (s, true) => receive c messages (s.touch c)
    | (s, false) => s

/-! ## Steps -/

inductive ClientInput
  /-- `rtsp_client_session_create` -/
  | create (serverIp : Bytes) (serverPort : UInt16) (resourceLocation : Bytes)
  /-- `rtsp_client_session_request` -/
  | request (session : Nat) (message : RtspMessage)
  /-- `rtsp_client_session_terminate` -/
  | terminate (session : Nat)
  | process
  | receive (c : Nat) (messages : List RtspMessage)
  | timeout (session : Nat)
  | disconnect (c : Nat)
deriving DecidableEq

def Client.sessionCreate (s : Client) (serverIp : Bytes) (serverPort : UInt16) (resourceLocation : Bytes) : Client :=
  { s with
    session := Function.update s.session s.sessionCount
      { serverIp := serverIp, serverPort := serverPort, resourceLocation := resourceLocation }
    sessionCount := s.sessionCount + 1 }

/-- `rtsp_client_session_request`: the request has the next number. -/
def Client.sessionRequest (s : Client) (id : Nat) (message : RtspMessage) : Client :=
  { s with signals := s.signals ++ [ClientSignal.send id ⟨some s.handed, message⟩], handed := s.handed + 1 }.see
    (.handed id s.handed)

def Client.sessionTerminate (s : Client) (id : Nat) : Client :=
  ({ s with signals := s.signals ++ [ClientSignal.terminate id] }.modifySession id ({ · with closing := true })).see
    (.terminated id)

/-- `rtsp_client_task_msg_process` -/
def Client.signalProcess (s : Client) (signal : ClientSignal) : Client :=
  if (s.session signal.session).destroyed then s.see (.fault signal.session)
  else
    match signal with
    | .send id request => s.messageProcess A id request
    | .terminate id => s.terminateProcess A id

def Client.taken (s : Client) (signals : List ClientSignal) : Client := { s with signals := signals }

def Client.process (s : Client) : Client :=
  match s.signals with
  | [] => s
  | signal :: signals => (s.taken signals).signalProcess A signal

def Client.step (s : Client) (input : ClientInput) : Client × Unit :=
  (match input with
  | .create serverIp serverPort resourceLocation => s.sessionCreate serverIp serverPort resourceLocation
  | .request id message => s.sessionRequest id message
  | .terminate id => s.sessionTerminate id
  | .process => s.process A
  | .receive c messages => Client.receive A c messages s
  | .timeout id => (s.see (.timedOut id)).timerProc A id
  | .disconnect c => (s.see (.lost c)).onDisconnect A c, ())

/-- A message was created by `rtsp_request_create`, and has the name of a resource. -/
def RtspMessage.proper (message : RtspMessage) : Bool :=
  message.startLine.isRequest && message.startLine.resourceName.isSome &&
    message.header.headerSection.arr.length == rtspHeaderFieldCount

/-- The application uses sessions until it has signalled their termination, messages and disconnects come over open
connections, and a timer fires when it is set. -/
def Client.enabled (s : Client) : ClientInput → Bool
  | .request id message => decide (id < s.sessionCount) && !(s.session id).closing && message.proper
  | .terminate id => decide (id < s.sessionCount) && !(s.session id).closing
  | .receive c _ => (s.connection c).sock
  | .disconnect c => (s.connection c).sock
  | .timeout id => (s.session id).requestTimer
  | _ => true

end UniMrcp.UniRtsp
