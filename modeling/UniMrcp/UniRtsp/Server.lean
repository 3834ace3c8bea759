import Mathlib.Data.List.AList
import UniMrcp.UniRtsp.Message

/-!
# The RTSP server

A connection has a table of sessions; a session has one active request and a queue of the requests that wait for it.
-/

namespace UniMrcp.UniRtsp

open Apt

/-! ## States -/

/-- What the server is set up with, and the delivery that is in memory where messages are created. -/
structure ServerProfile where
  inactivityTimeout : Nat := 0
  delivery : Delivery := .none

/-- A request as it was received. Requests are told apart by numbers, in the order in which they are received. -/
structure Received where
  number : Nat
  message : RtspMessage
deriving DecidableEq

def Received.methodId (request : Received) : Nat := request.message.startLine.methodId

def Received.resourceName (request : Received) : Option Bytes := request.message.startLine.resourceName

/-- `rtsp_server_session_t`, and what the application has yet to do for the session. -/
structure ServerSession where
  connection : Nat := 0
  id : Bytes := []
  lastCseq : UInt64 := 0
  activeRequest : Option Received := none
  requestQueue : List Received := []
  resourceTable : AList fun _ : Bytes => Received := ∅
  terminating : Bool := false
  destroyed : Bool := false
  /-- The application has accepted the active request, and has not responded yet. -/
  owed : Bool := false
  /-- The application has signalled that the session is terminated. -/
  closing : Bool := false

structure ServerConnection where
  clientIp : Bytes := []
  sock : Bool := false
  sessionTable : AList fun _ : Bytes => Nat := ∅
  inactivityTimer : Bool := false
  destroyed : Bool := false

/-- `task_msg_data_t` -/
inductive Signal
  /-- `TASK_MSG_SEND_MESSAGE` -/
  | send (session : Nat) (message : RtspMessage)
  /-- `TASK_MSG_TERMINATE_SESSION` -/
  | terminate (session : Nat)
  /-- `TASK_MSG_RELEASE_SESSION` -/
  | release (session : Nat)
deriving DecidableEq

def Signal.session : Signal → Nat
  | .send session _ => session
  | .terminate session => session
  | .release session => session

inductive ServerEvent
  | received (c : Nat) (request : Received)
  /-- `rtsp_server_session_message_handle` begins with a request. -/
  | began (session : Nat) (number : Nat)
  /-- A message is sent over a connection, perhaps to answer a request. -/
  | sent (c : Nat) (message : RtspMessage) (answers : Option Nat)
  /-- `terminate_session` -/
  | terminated (session : Nat)
  /-- `rtsp_server_session_destroy` -/
  | sessionDestroyed (session : Nat)
  /-- `rtsp_server_connection_destroy` -/
  | connectionDestroyed (c : Nat)
  /-- What was destroyed is used, or a table is searched for a name that is missing. -/
  | fault
deriving DecidableEq

structure Server where
  online : Bool := true
  session : Nat → ServerSession := fun _ => {}
  sessionCount : Nat := 0
  connection : Nat → ServerConnection := fun _ => {}
  connectionCount : Nat := 0
  /-- The task messages that are not processed yet. -/
  signals : List Signal := []
  received : Nat := 0
  log : List ServerEvent := []

variable (A : ServerProfile)

def Server.see (s : Server) (event : ServerEvent) : Server := { s with log := s.log ++ [event] }

def Server.modifySession (s : Server) (id : Nat) (f : ServerSession → ServerSession) : Server :=
  { s with session := Function.update s.session id (f (s.session id)) }

def Server.modifyConnection (s : Server) (c : Nat) (f : ServerConnection → ServerConnection) : Server :=
  { s with connection := Function.update s.connection c (f (s.connection c)) }

def Server.sessionsOf (s : Server) (c : Nat) : List Nat := (s.connection c).sessionTable.entries.map Sigma.snd

def Server.messageSend (s : Server) (c : Nat) (message : RtspMessage) (answers : Option Nat) : Server :=
  if (s.connection c).sock then s.see (.sent c message answers) else s

/-- `rtsp_response_create`, for a request that was received. -/
def Received.responseCreate (request : Received) (status : Status) : RtspMessage :=
  UniRtsp.responseCreate A.delivery request.message.startLine.version request.message.header status.code status.reason

def Server.errorRespond (s : Server) (c : Nat) (request : Received) (status : Status) : Server :=
  s.messageSend c (request.responseCreate A status) (some request.number)

def Server.sessionDestroy (s : Server) (id : Nat) : Server :=
  (s.modifySession id ({ · with destroyed := true })).see (.sessionDestroyed id)

def Server.connectionDestroy (s : Server) (c : Nat) : Server :=
  (s.modifyConnection c ({ · with destroyed := true })).see (.connectionDestroyed c)

/-- `rtsp_server_session_terminate_request` -/
def Server.terminateRequest (s : Server) (id : Nat) : Server :=
  if (s.session id).terminating then s
  else (s.modifySession id ({ · with terminating := true })).see (.terminated id)

/-- `handle_message`, which the application accepts or refuses, with what follows in
`rtsp_server_session_message_handle`. -/
def Server.handleMessage (s : Server) (id : Nat) (request : Received) (accepted : Bool) : Server × Bool :=
  if accepted then (s.modifySession id ({ · with owed := true }), true)
  else (s.errorRespond A (s.session id).connection request .internalServerError, false)

def Server.resourceRemove (s : Server) (id : Nat) (name : Bytes) : Server :=
  s.modifySession id fun session => { session with resourceTable := session.resourceTable.erase name }

/-- `rtsp_server_session_message_handle` -/
def Server.messageHandle (s : Server) (id : Nat) (request : Received) (accepted : Bool) : Server × Bool :=
  let s := s.see (.began id request.number)
  if request.methodId = methodTeardown then
    match request.resourceName with
    | none => (s.see .fault, true)
    | some name =>
      let s := s.resourceRemove id name
      if (s.session id).resourceTable.entries.length = 0 then (s.terminateRequest id, true)
      else s.handleMessage A id request accepted
  else s.handleMessage A id request accepted

/-! ## Requests -/

/-- `rtsp_server_session_setup_process`. A session is created under a new identifier, or `create_session` refuses it. -/
def Server.setupProcess (s : Server) (c : Nat) (created : Option Bytes) : Server × Option Nat :=
  match created with
  | none => (s, none)
  | some sessionId =>
    let id := s.sessionCount
    let s := { s with
      session := Function.update s.session id { connection := c, id := sessionId }
      sessionCount := id + 1 }
    (s.modifyConnection c fun connection =>
      { connection with sessionTable := connection.sessionTable.insert sessionId id }, some id)

def Server.activate (s : Server) (id : Nat) (request : Received) : Server :=
  s.modifySession id ({ · with activeRequest := some request })

/-- The part of `rtsp_server_session_request_process` for requests without a session. -/
def Server.newRequestProcess (s : Server) (c : Nat) (request : Received) (created : Option Bytes) (accepted : Bool) :
    Server :=
  if request.methodId = methodSetup ∨ request.methodId = methodDescribe then
    if s.online then
      match s.setupProcess c created with
      | (s, some id) =>
        match (s.activate id request).messageHandle A id request accepted with
        | (s, true) => s
        | (s, false) => s.sessionDestroy id
      | (s, none) => s.errorRespond A c request .notAcceptable
    else s.errorRespond A c request .serviceUnavailable
  else if request.methodId = methodOptions then s.errorRespond A c request .ok
  else s.errorRespond A c request .badRequest

/-- The part of `rtsp_server_session_request_process` for requests of a session that was found. -/
def Server.sessionRequestProcess (s : Server) (c : Nat) (id : Nat) (request : Received) (accepted : Bool) : Server :=
  if (s.session id).destroyed then s.see .fault
  else if (s.session id).terminating then s.errorRespond A c request .notAcceptable
  else if (s.session id).activeRequest.isSome then
    s.modifySession id fun session => { session with requestQueue := session.requestQueue ++ [request] }
  else ((s.activate id request).messageHandle A id request accepted).1

/-- `rtsp_server_session_request_process`, for a request. -/
def Server.requestProcess (s : Server) (c : Nat) (request : Received) (created : Option Bytes) (accepted : Bool) :
    Server :=
  if headerPropertyCheck request.message.header .sessionId then
    match (s.connection c).sessionTable.lookup request.message.header.sessionId with
    | none => s.errorRespond A c request .notFound
    | some id => s.sessionRequestProcess A c id request accepted
  else s.newRequestProcess A c request created accepted

/-- The destination of a message is that of the client, if it has none. -/
def Server.destinationAssign (s : Server) (c : Nat) (message : RtspMessage) : RtspMessage :=
  if message.header.transport.destination = [] then
    { message with header := { message.header with
      transport := { message.header.transport with destination := (s.connection c).clientIp } } }
  else message

def Server.arrive (s : Server) (c : Nat) (message : RtspMessage) : Server :=
  { s with received := s.received + 1 }.see (.received c ⟨s.received, message⟩)

def Server.timerSet (s : Server) (c : Nat) : Server :=
  s.modifyConnection c ({ · with inactivityTimer := A.inactivityTimeout != 0 })

/-- `rtsp_server_message_handler`, for a message that is completely parsed. Responses are not processed. -/
def Server.messageHandler (s : Server) (c : Nat) (message : RtspMessage) (created : Option Bytes) (accepted : Bool) :
    Server :=
  let s := s.timerSet A c
  let message := s.destinationAssign c message
  if message.startLine.isRequest then
    (s.arrive c message).requestProcess A c ⟨s.received, message⟩ created accepted
  else s

/-! ## Responses and terminations -/

/-- The part of `rtsp_server_session_response_process` for events of the application. -/
def Server.eventProcess (s : Server) (id : Nat) (message : RtspMessage) : Server :=
  match message.startLine.resourceName.bind (s.session id).resourceTable.lookup with
  | none => s
  | some request =>
    let message := { message with startLine := message.startLine.setUrl request.message.startLine.url }
    s.messageSend (s.session id).connection
      ((message.setCseq (s.session id).lastCseq).setSession (s.session id).id) none

def ServerSession.ends (session : ServerSession) (request : Received) (message : RtspMessage) : Bool :=
  request.methodId == methodDescribe ||
    request.methodId == methodSetup && message.startLine.statusCode != Status.ok.code &&
      session.resourceTable.entries.length == 0

def ServerSession.answered (session : ServerSession) (request : Received) (message : RtspMessage) :
    AList fun _ : Bytes => Received :=
  if request.methodId = methodSetup ∧ message.startLine.statusCode = Status.ok.code then
    match request.resourceName with
    | some name => session.resourceTable.insert name request
    | none => session.resourceTable
  else session.resourceTable

def nameless (request : Received) (message : RtspMessage) : Bool :=
  request.methodId == methodSetup && message.startLine.statusCode == Status.ok.code && request.resourceName.isNone

def Server.responseSend (s : Server) (id : Nat) (request : Received) (message : RtspMessage) : Server :=
  let message := if request.methodId = methodDescribe then message else message.setSession (s.session id).id
  let s := s.modifySession id fun session =>
    { session with resourceTable := session.answered request message, lastCseq := message.header.cseq }
  s.messageSend (s.session id).connection message (some request.number)

/-- The next request of the queue becomes the active one. `handle_message` accepts it, or refuses it. -/
def Server.requestPop (s : Server) (id : Nat) (accepted : Bool) : Server :=
  match (s.session id).requestQueue with
  | [] => s.modifySession id ({ · with activeRequest := none })
  | next :: queue =>
    ((s.modifySession id ({ · with activeRequest := some next, requestQueue := queue })).messageHandle A id next
      accepted).1

/-- The part of `rtsp_server_session_response_process` for responses. -/
def Server.responseProcess (s : Server) (id : Nat) (message : RtspMessage) (accepted : Bool) : Server :=
  match (s.session id).activeRequest with
  | none => s
  | some request =>
    if nameless request message then s.see .fault
    else if (s.session id).ends request message then
      ((s.responseSend id request message).modifySession id ({ · with activeRequest := none })).terminateRequest id
    else (s.responseSend id request message).requestPop A id accepted

/-- The active request is answered by `rtsp_server_session_do_terminate`. -/
def Server.terminateRespond (s : Server) (id : Nat) : Server :=
  match (s.session id).activeRequest with
  | none => s
  | some request =>
    s.messageSend (s.session id).connection ((request.responseCreate A .ok).setSession (s.session id).id)
      (some request.number)

def Server.sessionRemove (s : Server) (id : Nat) : Server :=
  s.modifyConnection (s.session id).connection fun connection =>
    { connection with sessionTable := connection.sessionTable.erase (s.session id).id }

def Server.connectionRelease (s : Server) (c : Nat) : Server :=
  if (s.connection c).sock = false ∧ (s.connection c).sessionTable.entries.length = 0 then s.connectionDestroy c else s

def Server.sessionEnd (s : Server) (id : Nat) : Server :=
  ((s.sessionRemove id).sessionDestroy id).connectionRelease (s.session id).connection

/-- `rtsp_server_session_do_terminate` -/
def Server.doTerminate (s : Server) (id : Nat) : Server := (s.terminateRespond A id).sessionEnd id

/-- `rtsp_server_task_msg_process` -/
def Server.signalProcess (s : Server) (signal : Signal) (accepted : Bool) : Server :=
  if (s.session signal.session).destroyed then s.see .fault
  else
    match signal with
    | .send id message =>
      if message.startLine.isRequest then s.eventProcess id message else s.responseProcess A id message accepted
    | .terminate id => s.doTerminate A id
    | .release id => s.terminateRequest id

/-- `rtsp_server_connection_accept`, of a connection that is accepted. -/
def Server.connectionAccept (s : Server) (clientIp : Bytes) : Server :=
  { s with
    connection := Function.update s.connection s.connectionCount
      { clientIp := clientIp, sock := true, inactivityTimer := A.inactivityTimeout != 0 }
    connectionCount := s.connectionCount + 1 }

def Server.sessionClose (s : Server) (id : Nat) : Server :=
  if (s.session id).destroyed then s.see .fault else s.terminateRequest id

/-- `rtsp_server_connection_close`, for the sessions of the table in the order of the hash table. -/
def Server.connectionClose (s : Server) (c : Nat) (order : List Nat) : Server :=
  if (s.connection c).sock then
    let s := s.modifyConnection c ({ · with sock := false, inactivityTimer := false })
    if (s.connection c).sessionTable.entries.length ≠ 0 then order.foldl Server.sessionClose s
    else s.connectionDestroy c
  else s

inductive ServerInput
  | accept (clientIp : Bytes)
  | receive (c : Nat) (message : RtspMessage) (created : Option Bytes) (accepted : Bool)
  | disconnect (c : Nat) (order : List Nat)
  | inactivity (c : Nat) (order : List Nat)
  | signal (signal : Signal)
  | process (accepted : Bool)
  | offline
  | online
deriving DecidableEq

def ServerSession.signalled (session : ServerSession) : Signal → ServerSession
  | .send _ message => if message.startLine.isRequest then session else { session with owed := false }
  | .terminate _ => { session with closing := true }
  | .release _ => session

def Server.controlMessageSignal (s : Server) (signal : Signal) : Server :=
  { s.modifySession signal.session (·.signalled signal) with signals := s.signals ++ [signal] }

def Server.taken (s : Server) (signals : List Signal) : Server := { s with signals := signals }

def Server.process (s : Server) (accepted : Bool) : Server :=
  match s.signals with
  | [] => s
  | signal :: signals => (s.taken signals).signalProcess A signal accepted

def Server.step (s : Server) (input : ServerInput) : Server × Unit :=
  (match input with
  | .accept clientIp => s.connectionAccept A clientIp
  | .receive c message created accepted => s.messageHandler A c message created accepted
  | .disconnect c order => s.connectionClose c order
  | .inactivity c order => s.connectionClose c order
  | .signal signal => s.controlMessageSignal signal
  | .process accepted => s.process A accepted
  | .offline => { s with online := false }
  | .online => { s with online := true }, ())

def Server.live (s : Server) (id : Nat) : Bool := decide (id < s.sessionCount) && !(s.session id).destroyed

/-- Messages and disconnects come over open connections, a timer fires when it is set, the identifier of a new session
is new, and the application signals for sessions that are there. -/
def Server.enabled (s : Server) : ServerInput → Bool
  | .receive c _ created _ =>
    (s.connection c).sock && created.all fun id => ((s.connection c).sessionTable.lookup id).isNone
  | .disconnect c order => (s.connection c).sock && order.isPerm (s.sessionsOf c)
  | .inactivity c order => (s.connection c).inactivityTimer && order.isPerm (s.sessionsOf c)
  | .signal signal => s.live signal.session && !(s.session signal.session).closing
  | _ => true

end UniMrcp.UniRtsp
