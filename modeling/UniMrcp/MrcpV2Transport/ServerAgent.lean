import UniMrcp.MrcpV2Transport.Connection

/-!
# The connection agent of the server

A channel that is added waits in the table of pending channels, until a message for it comes over one of the accepted
connections: then the channel is moved to the table of this connection.
-/

namespace UniMrcp.MrcpV2Transport

open Apt Mrcp
open MrcpServer (ControlDescriptor controlAnswerCreate)

structure ServerProfile where
  port : Nat
  forceNewConnection : Bool := false
  maxSharedUseCount : Nat := 0
  inactivityTimeout : Nat := 0
  terminationTimeout : Nat := 0

inductive ServerEvent
  /-- `mrcp_control_channel_add_respond` -/
  | added (ch : Nat) (answer : ControlDescriptor) (status : Bool)
  /-- `mrcp_control_channel_modify_respond` -/
  | modified (ch : Nat) (answer : ControlDescriptor) (status : Bool)
  /-- `mrcp_control_channel_remove_respond` -/
  | removed (ch : Nat) (status : Bool)
  /-- `mrcp_connection_message_receive` -/
  | received (ch : Nat) (message : Message)
  | sent (c : Nat) (message : Message)
  /-- `on_disconnect` -/
  | disconnected (ch : Nat)
  /-- `mrcp_connection_destroy` -/
  | destroyed (c : Nat)
deriving DecidableEq

/-- `mrcp_connection_agent_t`, of the server. -/
structure ServerAgent extends Heap where
  pendingChannelTable : ChannelTable := ∅
  connectionList : List Nat := []
  log : List ServerEvent := []

variable (A : ServerProfile)

def ServerAgent.see (s : ServerAgent) (event : ServerEvent) : ServerAgent := { s with log := s.log ++ [event] }

def ServerAgent.modifyChannel (s : ServerAgent) (ch : Nat) (f : ControlChannel → ControlChannel) : ServerAgent :=
  { s with toHeap := s.toHeap.modifyChannel ch f }

def ServerAgent.modifyConnection (s : ServerAgent) (c : Nat) (f : Connection → Connection) : ServerAgent :=
  { s with toHeap := s.toHeap.modifyConnection c f }

/-! ## Connections -/

def ServerAgent.connectionDestroy (s : ServerAgent) (c : Nat) : ServerAgent :=
  (s.modifyConnection c ({ · with destroyed := true })).see (.destroyed c)

def ServerAgent.connectionFind (s : ServerAgent) (remoteIp : Bytes) : Option Nat :=
  s.connectionList.find? fun c => stringCompare (s.connection c).remoteIp remoteIp

def ServerAgent.connectionAdd (s : ServerAgent) (c : Nat) : ServerAgent :=
  { s.modifyConnection c ({ · with inactivityTimer := A.inactivityTimeout != 0 }) with
    connectionList := s.connectionList ++ [c] }

def ServerAgent.connectionRemove (s : ServerAgent) (c : Nat) : ServerAgent :=
  { s.modifyConnection c ({ · with inactivityTimer := false }) with connectionList := s.connectionList.erase c }

/-- `mrcp_server_agent_connection_accept`. The socket is accepted and added to the pollset, or not. -/
def ServerAgent.connectionAccept (s : ServerAgent) (remoteIp : Option Bytes) (polled : Bool) : ServerAgent :=
  let c := s.connectionCount
  let created (connection : Connection) : ServerAgent := { s with toHeap := s.toHeap.connectionPush connection }
  match remoteIp with
  | none => (created {}).connectionDestroy c
  | some remoteIp =>
    if s.pendingChannelTable.entries.length = 0 ∨ !polled then (created { remoteIp }).connectionDestroy c
    else (created { remoteIp, sock := true }).connectionAdd A c

/-- `mrcp_connection_disconnect_raise`, for the channels of the connection in the order of the hash table. -/
def ServerAgent.disconnectRaise (s : ServerAgent) (order : List Nat) : ServerAgent :=
  { s with log := s.log ++ order.map ServerEvent.disconnected }

def ServerAgent.connectionClose (s : ServerAgent) (c : Nat) (timedout : Bool) (order : List Nat) : ServerAgent :=
  let s := (s.modifyConnection c ({ · with sock := false })).connectionRemove c
  if (s.connection c).accessCount ≠ 0 then
    if timedout then s.disconnectRaise order
    else if A.terminationTimeout ≠ 0 then s.modifyConnection c ({ · with terminationTimer := true })
    else s
  else s.connectionDestroy c

/-- `mrcp_server_inactivity_timer_proc` -/
def ServerAgent.inactivityTimerProc (s : ServerAgent) (c : Nat) (order : List Nat) : ServerAgent :=
  (s.modifyConnection c ({ · with inactivityTimer := false })).connectionClose A c true order

/-- `mrcp_server_termination_timer_proc` -/
def ServerAgent.terminationTimerProc (s : ServerAgent) (c : Nat) (order : List Nat) : ServerAgent :=
  (s.modifyConnection c ({ · with terminationTimer := false })).disconnectRaise order

def ServerAgent.connectionTypeGet (s : ServerAgent) (offer : ControlDescriptor) : MrcpServer.ConnectionType :=
  if offer.connectionType = .existing then
    if A.forceNewConnection then .new
    else
      match s.connectionFind offer.ip with
      | some c =>
        if A.maxSharedUseCount ≠ 0 ∧ A.maxSharedUseCount ≤ (s.connection c).useCount then .new
        else offer.connectionType
      | none => .new
  else offer.connectionType

def ServerAgent.channelAdd (s : ServerAgent) (ch : Nat) (offer : ControlDescriptor) : ServerAgent :=
  let answer := { controlAnswerCreate offer with
    port := if offer.port ≠ 0 then A.port else offer.port
    connectionType := s.connectionTypeGet A offer }
  let identifier := idResourceGenerate ⟨offer.sessionId, offer.resourceName⟩
  { s.modifyChannel ch ({ · with identifier := identifier }) with
    pendingChannelTable := s.pendingChannelTable.insert identifier ch }.see (.added ch answer true)

def ServerAgent.channelModify (s : ServerAgent) (ch : Nat) (offer : ControlDescriptor) : ServerAgent :=
  let answer := { controlAnswerCreate offer with port := if offer.port ≠ 0 then A.port else offer.port }
  s.see (.modified ch answer true)

def ServerAgent.channelRemove (s : ServerAgent) (ch : Nat) : ServerAgent :=
  match (s.channel ch).connection with
  | some c =>
    let s := { s with toHeap := s.toHeap.connectionChannelRemove c ch }
    let s :=
      if (s.connection c).accessCount = 0 ∧ (s.connection c).sock = false then
        (s.modifyChannel ch ({ · with connection := some c, removed := true })).modifyConnection c
          ({ · with terminationTimer := false })
      else s
    s.see (.removed ch true)
  | none =>
    { s with pendingChannelTable := s.pendingChannelTable.erase (s.channel ch).identifier }.see (.removed ch true)

/-- `mrcp_server_control_channel_destroy` -/
def ServerAgent.channelDestroy (s : ServerAgent) (ch : Nat) : ServerAgent :=
  match (s.channel ch).connection with
  | some c =>
    if (s.channel ch).removed then (s.modifyChannel ch ({ · with connection := none })).connectionDestroy c else s
  | none => s

/-! ## Messages -/

/-- `mrcp_server_agent_messsage_send`, of the chunks that the generator and the socket make of the message. -/
def ServerAgent.messageSend (s : ServerAgent) (connection : Option Nat) (message : Message) (chunks : List Chunk) :
    ServerAgent :=
  match connection with
  | none => s
  | some c => if (s.connection c).sock && transmitted chunks then s.see (.sent c message) else s

/-- `mrcp_connection_channel_associate` -/
def ServerAgent.channelAssociate (s : ServerAgent) (c : Nat) (message : Message) : ServerAgent × Option Nat :=
  let identifier := idResourceGenerate message.channelId
  match s.connectionChannelFind c identifier with
  | some ch => (s, some ch)
  | none =>
    match s.pendingChannelTable.lookup identifier with
    | some ch =>
      ({ s with
        toHeap := s.toHeap.connectionChannelAdd c ch
        pendingChannelTable := s.pendingChannelTable.erase identifier }, some ch)
    | none => (s, none)

/-- What the parser returns, with the chunks of the response if there is one. -/
structure Parsed where
  status : MessageStatus
  message : Option Message
  chunks : List Chunk := []
deriving DecidableEq

def statusCodeUnrecognizedMessage : Nat := 408

/-- `mrcp_server_message_handler` -/
def ServerAgent.messageHandler (s : ServerAgent) (c : Nat) (parsed : Parsed) : ServerAgent :=
  match parsed.message with
  | none => s
  | some message =>
    match parsed.status with
    | .complete =>
      let r := s.channelAssociate c message
      match r.2 with
      | some ch =>
        (r.1.modifyConnection c ({ · with inactivityTimer := A.inactivityTimeout != 0 })).see (.received ch message)
      | none => r.1
    | .invalid =>
      s.messageSend (some c) { responseCreate message with statusCode := statusCodeUnrecognizedMessage } parsed.chunks
    | .incomplete => s

/-- `mrcp_server_poller_signal_process`, when something is received over a connection. -/
def ServerAgent.receive (s : ServerAgent) (c : Nat) (parsed : List Parsed) : ServerAgent :=
  if (s.connection c).sock then parsed.foldl (fun s => s.messageHandler A c) s else s

/-- `mrcp_server_poller_signal_process`, when the peer disconnects. -/
def ServerAgent.disconnect (s : ServerAgent) (c : Nat) : ServerAgent :=
  if (s.connection c).sock then s.connectionClose A c false [] else s

inductive ServerInput
  | add (ch : Nat) (offer : ControlDescriptor)
  | modify (ch : Nat) (offer : ControlDescriptor)
  | remove (ch : Nat)
  | destroy (ch : Nat)
  | send (ch : Nat) (message : Message) (chunks : List Chunk)
  | accept (remoteIp : Option Bytes) (polled : Bool)
  | receive (c : Nat) (parsed : List Parsed)
  | disconnect (c : Nat)
  | inactivity (c : Nat) (order : List Nat)
  | termination (c : Nat) (order : List Nat)
deriving DecidableEq

def ServerAgent.step (s : ServerAgent) (input : ServerInput) : ServerAgent × Unit :=
  (match input with
  | .add ch offer => s.channelAdd A ch offer
  | .modify ch offer => s.channelModify A ch offer
  | .remove ch => s.channelRemove ch
  | .destroy ch => s.channelDestroy ch
  | .send ch message chunks => s.messageSend (s.channel ch).connection message chunks
  | .accept remoteIp polled => s.connectionAccept A remoteIp polled
  | .receive c parsed => s.receive A c parsed
  | .disconnect c => s.disconnect A c
  | .inactivity c order => s.inactivityTimerProc A c order
  | .termination c order => s.terminationTimerProc c order, ())

/-- An input can happen: a timer fires when it is set, and finds the channels of the connection. -/
def ServerAgent.enabled (s : ServerAgent) : ServerInput → Bool
  | .inactivity c order => (s.connection c).inactivityTimer && order.isPerm (s.channelsOf c)
  | .termination c order => (s.connection c).terminationTimer && order.isPerm (s.channelsOf c)
  | _ => true

end UniMrcp.MrcpV2Transport
