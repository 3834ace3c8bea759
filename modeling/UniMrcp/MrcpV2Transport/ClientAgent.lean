import UniMrcp.MrcpV2Transport.Connection

/-!
# The connection agent of the client

The agent assigns control channels to connections, which channels to the same server may share, and sends the requests
of the channels. A response comes from the server, or is made up.
-/

namespace UniMrcp.MrcpV2Transport

open Apt Mrcp
open MrcpServer (ControlDescriptor)

structure ClientProfile where
  requestTimeout : Nat
  offerNewConnection : Bool
  /-- `apr_sockaddr_info_get`, from the text of an address. -/
  sockaddrInfoGet : Bytes → Option Bytes

inductive ClientEvent
  /-- `mrcp_control_channel_add_respond` -/
  | added (ch : Nat) (descriptor : ControlDescriptor) (status : Bool)
  /-- `mrcp_control_channel_modify_respond` -/
  | modified (ch : Nat) (descriptor : ControlDescriptor) (status : Bool)
  /-- `mrcp_control_channel_remove_respond` -/
  | removed (ch : Nat) (status : Bool)
  | handed (ch : Nat) (message : Message)
  /-- `mrcp_connection_message_receive` -/
  | received (ch : Nat) (message : Message)
  /-- `on_disconnect` -/
  | disconnected (ch : Nat)
  | fired (ch : Nat)
deriving DecidableEq

/-- `mrcp_connection_agent_t`, of the client. -/
structure ClientAgent extends Heap where
  connectionList : List Nat := []
  log : List ClientEvent := []

variable (A : ClientProfile)

def ClientAgent.see (s : ClientAgent) (event : ClientEvent) : ClientAgent := { s with log := s.log ++ [event] }

def ClientAgent.modifyChannel (s : ClientAgent) (ch : Nat) (f : ControlChannel → ControlChannel) : ClientAgent :=
  { s with toHeap := s.toHeap.modifyChannel ch f }

def ClientAgent.modifyConnection (s : ClientAgent) (c : Nat) (f : Connection → Connection) : ClientAgent :=
  { s with toHeap := s.toHeap.modifyConnection c f }

/-- `mrcp_client_agent_connection_create`. The connection is established, or it is not. -/
def ClientAgent.connectionCreate (s : ClientAgent) (descriptor : ControlDescriptor) (established : Bool) :
    ClientAgent × Option Nat :=
  match A.sockaddrInfoGet descriptor.ip with
  | none => (s, none)
  | some ip =>
    if established then
      ({ s with
        toHeap := s.toHeap.connectionPush { remoteIp := ip, remotePort := descriptor.port, sock := true }
        connectionList := s.connectionList ++ [s.connectionCount] }, some s.connectionCount)
    else (s, none)

def ClientAgent.connectionFind (s : ClientAgent) (descriptor : ControlDescriptor) : Option Nat :=
  s.connectionList.find? fun c =>
    A.sockaddrInfoGet descriptor.ip == some (s.connection c).remoteIp && descriptor.port == (s.connection c).remotePort

def ClientAgent.connectionRemove (s : ClientAgent) (c : Nat) : ClientAgent :=
  { s.modifyConnection c ({ · with sock := false }) with connectionList := s.connectionList.erase c }

def ClientAgent.channelAdd (s : ClientAgent) (ch : Nat) (descriptor : ControlDescriptor) : ClientAgent :=
  let connectionType := if A.offerNewConnection || s.connectionList.isEmpty then .new else .existing
  s.see (.added ch { descriptor with connectionType := connectionType } true)

/-- The connection that a channel gets: an existing one, or one that is created. -/
def ClientAgent.connectionGet (s : ClientAgent) (descriptor : ControlDescriptor) (established : Bool) :
    ClientAgent × Option Nat :=
  let found := if descriptor.connectionType = .existing then s.connectionFind A descriptor else none
  match found with
  | some c => (s, some c)
  | none => s.connectionCreate A descriptor established

def ClientAgent.channelModify (s : ClientAgent) (ch : Nat) (descriptor : ControlDescriptor) (established : Bool) :
    ClientAgent :=
  if descriptor.port ≠ 0 ∧ (s.channel ch).connection = none then
    let identifier := idResourceGenerate ⟨descriptor.sessionId, descriptor.resourceName⟩
    let r := (s.modifyChannel ch ({ · with identifier := identifier })).connectionGet A descriptor established
    match r.2 with
    | some c =>
      let connectionType := if descriptor.connectionType = .new then .existing else descriptor.connectionType
      { r.1 with toHeap := r.1.toHeap.connectionChannelAdd c ch }.see
        (.modified ch { descriptor with connectionType := connectionType } true)
    | none => r.1.see (.modified ch { descriptor with port := 0 } false)
  else s.see (.modified ch descriptor true)

/-- `mrcp_client_agent_channel_remove`. The connection of the last channel is closed, and destroyed with the channel. -/
def ClientAgent.channelRemove (s : ClientAgent) (ch : Nat) : ClientAgent :=
  match (s.channel ch).connection with
  | none => s.see (.removed ch true)
  | some c =>
    let s := { s with toHeap := s.toHeap.connectionChannelRemove c ch }
    let s :=
      if (s.connection c).accessCount = 0 then
        (s.connectionRemove c).modifyChannel ch ({ · with connection := some c, removed := true })
      else s
    s.see (.removed ch true)

/-- `mrcp_client_control_channel_destroy` -/
def ClientAgent.channelDestroy (s : ClientAgent) (ch : Nat) : ClientAgent :=
  match (s.channel ch).connection with
  | none => s
  | some c =>
    if (s.channel ch).removed then
      (s.modifyChannel ch ({ · with connection := none })).modifyConnection c ({ · with destroyed := true })
    else s

/-! ## Requests -/

def ClientAgent.requestCancel (s : ClientAgent) (ch : Nat) (message : Message) : ClientAgent :=
  s.see (.received ch { responseCreate message with statusCode := statusCodeMethodFailed })

/-- `mrcp_client_agent_messsage_send` -/
def ClientAgent.messageSend (s : ClientAgent) (ch : Nat) (message : Message) (chunks : List Chunk) : ClientAgent :=
  let s := s.see (.handed ch message)
  match (s.channel ch).connection with
  | none => s.requestCancel ch message
  | some c =>
    if !(s.connection c).sock then s.requestCancel ch message
    else if transmitted chunks then
      s.modifyChannel ch fun channel =>
        { channel with
          activeRequest := some message
          requestTimer := channel.requestTimer || A.requestTimeout != 0 }
    else s.requestCancel ch message

/-- `mrcp_client_message_handler`, for a message that is parsed completely. It returns false on a response that is not
expected. -/
def ClientAgent.messageHandler (s : ClientAgent) (c : Nat) (message : Message) : ClientAgent × Bool :=
  match s.connectionChannelFind c (idResourceGenerate message.channelId) with
  | none => (s, true)
  | some ch =>
    if message.messageType = .response then
      if (s.channel ch).activeRequest.any (·.requestId == message.requestId) then
        ((s.modifyChannel ch ({ · with requestTimer := false, activeRequest := none })).see (.received ch message), true)
      else (s, false)
    else (s.see (.received ch message), true)

/-- The messages of the receive buffer are handled, until one is not expected. Then what was parsed stays at its start.
-/
def ClientAgent.messagesHandle (s : ClientAgent) (c : Nat) (parsed : List Message) : List Message → ClientAgent
  | [] => s.modifyConnection c ({ · with received := [] })
  | message :: messages =>
    let r := s.messageHandler c message
    if r.2 then r.1.messagesHandle c (parsed ++ [message]) messages
    else r.1.modifyConnection c ({ · with received := parsed ++ [message] })

/-- `mrcp_client_poller_signal_process`, when messages are received. What the buffer still holds is parsed again. -/
def ClientAgent.receive (s : ClientAgent) (c : Nat) (messages : List Message) : ClientAgent :=
  if (s.connection c).sock then s.messagesHandle c [] ((s.connection c).received ++ messages) else s

/-- The part of `mrcp_client_agent_disconnect_raise` for one channel. -/
def ClientAgent.channelDisconnect (s : ClientAgent) (ch : Nat) : ClientAgent :=
  match (s.channel ch).activeRequest with
  | some message =>
    (s.requestCancel ch message).modifyChannel ch ({ · with activeRequest := none, requestTimer := false })
  | none => s.see (.disconnected ch)

/-- `mrcp_client_poller_signal_process`, when the peer disconnects, with `mrcp_client_agent_disconnect_raise` in the
order of the hash table. -/
def ClientAgent.disconnect (s : ClientAgent) (c : Nat) (order : List Nat) : ClientAgent :=
  if (s.connection c).sock then order.foldl ClientAgent.channelDisconnect (s.modifyConnection c ({ · with sock := false }))
  else s

/-- `mrcp_client_timer_proc`, of the request timer. -/
def ClientAgent.timerProc (s : ClientAgent) (ch : Nat) : ClientAgent :=
  let s := (s.modifyChannel ch ({ · with requestTimer := false })).see (.fired ch)
  match (s.channel ch).activeRequest with
  | some message => (s.requestCancel ch message).modifyChannel ch ({ · with activeRequest := none })
  | none => s

inductive ClientInput
  | add (ch : Nat) (descriptor : ControlDescriptor)
  | modify (ch : Nat) (descriptor : ControlDescriptor) (established : Bool)
  | remove (ch : Nat)
  | destroy (ch : Nat)
  | send (ch : Nat) (message : Message) (chunks : List Chunk)
  | receive (c : Nat) (messages : List Message)
  | disconnect (c : Nat) (order : List Nat)
  | timeout (ch : Nat)
deriving DecidableEq

def ClientAgent.step (s : ClientAgent) (input : ClientInput) : ClientAgent × Unit :=
  (match input with
  | .add ch descriptor => s.channelAdd A ch descriptor
  | .modify ch descriptor established => s.channelModify A ch descriptor established
  | .remove ch => s.channelRemove ch
  | .destroy ch => s.channelDestroy ch
  | .send ch message chunks => s.messageSend A ch message chunks
  | .receive c messages => s.receive c messages
  | .disconnect c order => s.disconnect c order
  | .timeout ch => s.timerProc ch, ())

/-- An input can happen: a timer fires when it is set, and a disconnect finds the channels of the connection. -/
def ClientAgent.enabled (s : ClientAgent) : ClientInput → Bool
  | .timeout ch => (s.channel ch).requestTimer
  | .disconnect c order => order.isPerm (s.channelsOf c)
  | _ => true

end UniMrcp.MrcpV2Transport
