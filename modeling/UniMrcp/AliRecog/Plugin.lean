import UniMrcp.AliRecog.Channel
import UniMrcp.MrcpEngine.Recog

/-!
# The recognizer plugin

The plugin has recognizer channels, one for each session, and a pool of channels to the SDK that they share.
-/

namespace UniMrcp.AliRecog

open Mrcp MrcpEngine

/-! ## The data -/

/-- The pointer `ch` of a recognizer channel, which no function sets when the recognizer channel is created. -/
inductive ChPointer
  | unassigned
  | null
  | channel (id : Nat)
deriving DecidableEq

/-- `Ali_recog_channel_t`. Requests are named by the order in which the task of the engine takes them up. -/
structure RecogChannel where
  recogRequest : Option Nat
  /-- The STOP request that `stop_response` answers. -/
  stopResponse : Option Nat
  ch : ChPointer
  streamClosed : Bool
deriving DecidableEq

structure Request where
  session : Nat
  method : RecogMethod
deriving DecidableEq

inductive RecognizeStage
  /-- `AliChannel::Start` and `TaskPush` are next. -/
  | start
  | respond
  /-- `recog_request` is set next. -/
  | store
deriving DecidableEq

/-- Where a call of `AliChannel::RecogMain` stands, as far as the requests depend on it. -/
inductive ThreadStage
  /-- `OnRecogRequestInit` is next. -/
  | init
  | loop
  /-- The statements after the label `END` are next. -/
  | ending
  | done
deriving DecidableEq

/-- A call of `AliChannel::RecogMain`, with the request for which it was pushed. -/
structure RecogThread where
  channel : Nat
  request : Nat
  stage : ThreadStage
deriving DecidableEq

/-- A request of the SDK, with the channel that its callbacks are given and the RECOGNIZE request it serves. -/
structure SdkRequest where
  channel : Nat
  request : Nat
  reported : Bool
  /-- The SDK has reported that its channel is closed. -/
  closed : Bool
deriving DecidableEq

inductive Output
  | response (request : Nat) (statusCode : Nat) (requestState : RequestState)
  | startOfInput (session request : Nat)
  | recognitionComplete (session request : Nat)
  | notStarted (request : Nat)
  /-- A read through a pointer that is null or was never assigned. -/
  | invalidRead
deriving DecidableEq

structure Plugin where
  maxChannels : Nat
  /-- `m_record`, the same for all channels. -/
  record : Bool
  recogChannel : Nat → RecogChannel
  channel : Nat → AliChannel
  /-- `m_ChIdlePool` -/
  idlePool : Nat → Bool
  /-- `m_ChBusyPool` -/
  busyPool : Nat → Bool
  requests : List Request
  /-- The RECOGNIZE request that the task of the engine is processing. -/
  engineTask : Option (Nat × RecognizeStage)
  threads : List RecogThread
  sdk : List SdkRequest
  /-- The RECOGNIZE requests that were stopped, by a STOP request or by the end of their stream. -/
  stopped : Nat → Bool

def Plugin.initial (maxChannels : Nat) (record : Bool) : Plugin where
  maxChannels := maxChannels
  record := record
  recogChannel := fun _ => ⟨none, none, .unassigned, false⟩
  channel := fun _ => .initial
  idlePool := fun id => id < maxChannels
  busyPool := fun _ => false
  requests := []
  engineTask := none
  threads := []
  sdk := []
  stopped := fun _ => false

inductive Input
  /-- The task of the engine takes up a request; the stream of the session has a codec descriptor or not. -/
  | request (session : Nat) (method : RecogMethod) (descriptor : Bool)
  /-- The task of the engine goes on with a RECOGNIZE request; the thread pool takes the task or fails to. -/
  | engineTask (pushed : Bool)
  /-- The media engine writes a frame, in which the detector has seen activity or not. -/
  | streamWrite (session : Nat) (activity : Bool)
  /-- The media engine closes the stream of a session. -/
  | streamClose (session : Nat)
  /-- A call of `RecogMain` goes on; a request that it starts is started or not. -/
  | recogMain (thread : Nat) (started : Bool)
  | resultChanged (sdk : Nat)
  | recognitionCompleted (sdk : Nat)
  | taskFailed (sdk : Nat)
  | channelClosed (sdk : Nat)
deriving DecidableEq

/-- `AliChannelFactory::NewChannel`: channels of the busy pool that do not work become idle, and the first idle one
leaves its pool. -/
def Plugin.newChannel (p : Plugin) : Plugin × Option Nat :=
  let idle := fun id => p.idlePool id || p.busyPool id && !(p.channel id).isWork
  let busy := fun id => p.busyPool id && (p.channel id).isWork
  match (List.range p.maxChannels).find? (fun id => idle id && !(p.channel id).isWork) with
  | some id => ({ p with idlePool := Function.update idle id false, busyPool := busy }, some id)
  | none => ({ p with idlePool := idle, busyPool := busy }, none)

/-- `AliChannelFactory::ResetChannelPoolState` -/
def Plugin.resetChannelPoolState (p : Plugin) (id : Nat) : Plugin :=
  if (p.channel id).isWork then { p with busyPool := Function.update p.busyPool id true }
  else { p with idlePool := Function.update p.idlePool id true }

/-- `AliChannelFactory::ReleaseChannel` -/
def Plugin.releaseChannel (p : Plugin) (id : Nat) : Plugin :=
  if (p.channel id).isWork || p.idlePool id then p
  else { p with idlePool := Function.update p.idlePool id true, busyPool := Function.update p.busyPool id false }

/-! ## The task of the engine -/

def statusCodeMethodFailed : Nat := 407

def Plugin.sessionOf (p : Plugin) (request : Nat) : Nat := (p.requests[request]?.map (·.session)).getD 0

def Plugin.setRecogChannel (p : Plugin) (session : Nat) (recogChannel : RecogChannel) : Plugin :=
  { p with recogChannel := Function.update p.recogChannel session recogChannel }

def Plugin.setChannel (p : Plugin) (id : Nat) (channel : AliChannel) : Plugin :=
  { p with channel := Function.update p.channel id channel }

/-- A recognizer channel and a channel of the pool are made to point to each other. -/
def Plugin.assign (p : Plugin) (session id : Nat) : Plugin :=
  (p.setRecogChannel session { p.recogChannel session with ch := .channel id }).setChannel id
    { p.channel id with ch := some session }

def Plugin.markStopped (p : Plugin) (session : Nat) : Plugin :=
  { p with stopped := fun request => p.stopped request || p.requests[request]?.any (·.session == session) }

/-- `AliChannel::Stop` through the pointer of a recognizer channel. -/
def Plugin.channelStop (p : Plugin) (session : Nat) : Plugin × List Output :=
  match (p.recogChannel session).ch with
  | .channel id => (p.setChannel id (p.channel id).stop, [])
  | _ => (p, [.invalidRead])

/-- `Ali_recog_channel_recognize`, up to `SetRecogChannel`. The error text is read through the null pointer. -/
def Plugin.recognize (p : Plugin) (session request : Nat) (descriptor : Bool) : Plugin × List Output :=
  if descriptor then
    match p.newChannel with
    | (p, some id) =>
      ({ p.assign session id with engineTask := some (request, .start) }, [])
    | (p, none) =>
      (p.setRecogChannel session { p.recogChannel session with ch := .null },
        [.invalidRead, .response request statusCodeSuccess .complete])
  else (p, [.response request statusCodeMethodFailed .complete])

/-- `Ali_recog_channel_request_dispatch` -/
def Plugin.requestDispatch (p : Plugin) (session : Nat) (method : RecogMethod) (descriptor : Bool) :
    Plugin × List Output :=
  let request := p.requests.length
  let p := { p with requests := p.requests ++ [⟨session, method⟩] }
  match method with
  | .recognize => p.recognize session request descriptor
  | .stop =>
    let p := p.setRecogChannel session { p.recogChannel session with stopResponse := some request }
    (p.markStopped session).channelStop session
  | _ => (p, [.response request statusCodeSuccess .complete])

/-- `EngineRecogStart` from `AliChannel::Start` on. The recording is named after the channel that `m_Ch` points to. -/
def Plugin.engineRecogStart (p : Plugin) (request id : Nat) (pushed : Bool) : Plugin × List Output :=
  let outputs := if p.record && (p.channel id).ch.isNone then [Output.invalidRead] else []
  let p := p.setChannel id (p.channel id).start
  if pushed then
    ({ p.resetChannelPoolState id with
        engineTask := some (request, .respond), threads := p.threads ++ [⟨id, request, .init⟩] }, outputs)
  else
    -- the response is sent as it was created
    ({ p with engineTask := none }, outputs ++ [.response request statusCodeSuccess .complete])

/-- `Ali_recog_channel_recognize`, from `AliChannel::Start` on. -/
def Plugin.recognizeProceed (p : Plugin) (request : Nat) (stage : RecognizeStage) (pushed : Bool) :
    Plugin × List Output :=
  match stage with
  | .start =>
    match (p.recogChannel (p.sessionOf request)).ch with
    | .channel id => p.engineRecogStart request id pushed
    | _ => (p, [.invalidRead])
  | .respond =>
    ({ p with engineTask := some (request, .store) }, [.response request statusCodeSuccess .inProgress])
  | .store =>
    (({ p with engineTask := none }).setRecogChannel (p.sessionOf request)
      { p.recogChannel (p.sessionOf request) with recogRequest := some request }, [])

/-- `Ali_recog_stream_write` -/
def Plugin.streamWrite (p : Plugin) (session : Nat) (activity : Bool) : Plugin × List Output :=
  let recogChannel := p.recogChannel session
  match recogChannel.stopResponse with
  | some request =>
    (p.setRecogChannel session { recogChannel with stopResponse := none, recogRequest := none },
      [.response request statusCodeSuccess .complete])
  | none =>
    match recogChannel.recogRequest with
    | some request =>
      let outputs := if activity then [Output.startOfInput session request] else []
      match recogChannel.ch with
      | .channel _ => (p, outputs)
      | _ => (p, outputs ++ [.invalidRead])
    | none => (p, [])

/-- `Ali_recog_stream_close` -/
def Plugin.streamClose (p : Plugin) (session : Nat) : Plugin × List Output :=
  let p := p.setRecogChannel session { p.recogChannel session with streamClosed := true }
  let (p, outputs) := (p.markStopped session).channelStop session
  match (p.recogChannel session).ch with
  | .channel id => (p.releaseChannel id, outputs)
  | _ => (p, outputs)

/-! ## The recognitions -/

/-- `AliChannel::RecogMain`. Its loop can end at any time: by the token, the queue, the audio or the channel. -/
def Plugin.recogMain (p : Plugin) (thread : Nat) (started : Bool) : Plugin × List Output :=
  match p.threads[thread]? with
  | some ⟨id, request, .init⟩ =>
    let channel := { p.channel id with recogRequest := some p.sdk.length }
    ({ p.setChannel id channel with
        threads := p.threads.set thread ⟨id, request, if started then .loop else .ending⟩
        sdk := p.sdk ++ [⟨id, request, false, !started⟩] }, if started then [] else [.notStarted request])
  | some ⟨id, request, .loop⟩ => ({ p with threads := p.threads.set thread ⟨id, request, .ending⟩ }, [])
  | some ⟨id, request, .ending⟩ =>
    ({ p.setChannel id (p.channel id).recogMainEnd with threads := p.threads.set thread ⟨id, request, .done⟩ }, [])
  | _ => (p, [])

/-- `AliChannel::OnMrcpRecogCompleted` -/
def Plugin.onMrcpRecogCompleted (p : Plugin) (id : Nat) : Plugin × List Output :=
  match (p.channel id).ch with
  | none => (p, [])
  | some session =>
    match (p.recogChannel session).recogRequest with
    | some request =>
      (p.setChannel id { p.channel id with isCompleted := true }, [.recognitionComplete session request])
    | none => (p, [.invalidRead])

def Plugin.setReported (p : Plugin) (sdk : Nat) (request : SdkRequest) : Plugin :=
  { p with sdk := p.sdk.set sdk { request with reported := true } }

/-- `AliChannel::OnRecognitionCompleted` -/
def Plugin.onRecognitionCompleted (p : Plugin) (id : Nat) : Plugin × List Output :=
  let (p, outputs) := p.onMrcpRecogCompleted id
  (p.setChannel id (p.channel id).onRecognitionCompleted, outputs)

/-- `AliChannel::OnTaskFailed` -/
def Plugin.onTaskFailed (p : Plugin) (id : Nat) : Plugin × List Output :=
  let (p, outputs) := if (p.channel id).isWork then p.onMrcpRecogCompleted id else (p, [])
  (p.setChannel id (p.channel id).onTaskFailed, outputs)

/-- A callback of the SDK: it completes a recognition or fails once, and is silent after it has closed its channel. -/
def Plugin.report (p : Plugin) (sdk : Nat) (callback : Plugin → Nat → Plugin × List Output) : Plugin × List Output :=
  match p.sdk[sdk]? with
  | some request =>
    if request.reported || request.closed then (p, [])
    else callback (p.setReported sdk request) request.channel
  | none => (p, [])

/-- `AliChannel::OnChannelClosed` -/
def Plugin.onChannelClosed (p : Plugin) (sdk : Nat) : Plugin × List Output :=
  match p.sdk[sdk]? with
  | some request =>
    if request.closed then (p, [])
    else
      ({ p.setChannel request.channel (p.channel request.channel).onChannelClosed with
          sdk := p.sdk.set sdk { request with closed := true } }, [])
  | none => (p, [])

/-- One step of one thread. The task of the engine takes up a request when it has finished the one before. -/
def Plugin.step (p : Plugin) : Input → Plugin × List Output
  | .request session method descriptor =>
    if p.engineTask.isSome then (p, []) else p.requestDispatch session method descriptor
  | .engineTask pushed =>
    match p.engineTask with
    | some (request, stage) => p.recognizeProceed request stage pushed
    | none => (p, [])
  | .streamWrite session activity => p.streamWrite session activity
  | .streamClose session => p.streamClose session
  | .recogMain thread started => p.recogMain thread started
  -- only `last_result` changes, which no event carries
  | .resultChanged _ => (p, [])
  | .recognitionCompleted sdk => p.report sdk Plugin.onRecognitionCompleted
  | .taskFailed sdk => p.report sdk Plugin.onTaskFailed
  | .channelClosed sdk => p.onChannelClosed sdk

end UniMrcp.AliRecog
