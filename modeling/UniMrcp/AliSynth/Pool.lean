import Mathlib.Data.List.Defs
import UniMrcp.MrcpEngine.Synth
import UniMrcp.MrcpV2Transport.Connection

/-!
# The pool of the synthesizer plugin

SPEAK takes a channel of the pool for a synthesizer channel, and the end of its stream or of the synthesizer channel gives
it back.
-/

namespace UniMrcp.AliSynth

open Mrcp MrcpV2Transport

/-- `VoiceFrame`, the chunk that is played. -/
structure VoiceFrame where
  /-- `frame.buffer` -/
  buffer : Option (List UInt8)
  /-- `frame.size`, how many bytes of the buffer are left. -/
  size : Nat
  /-- How many bytes of the buffer have been read. -/
  cur : Nat
  /-- How many chunks were in the queue when this one was taken from it. -/
  item : Nat
deriving DecidableEq

/-- A channel of the pool. Synthesizer channels are named by numbers. -/
structure AliSynthChannel where
  /-- `m_engineCh`, the synthesizer channel that is served. -/
  engineCh : Option Nat
  /-- `m_Start` -/
  started : Bool
  /-- `m_Play` -/
  play : Bool
  /-- `m_Runing` -/
  runing : Bool
  /-- `m_Voice`, the chunks that the SDK has delivered. -/
  voice : List (List UInt8)
  /-- `m_cursors`, how many of them have been put into the queue. -/
  cursors : Nat
  voiceFrame : VoiceFrame
  voiceQueue : List (List UInt8)
deriving DecidableEq

def AliSynthChannel.initial : AliSynthChannel where
  engineCh := none
  started := false
  play := false
  runing := false
  voice := []
  cursors := 0
  voiceFrame := ⟨none, 0, 0, 0⟩
  voiceQueue := []

/-- `CAliSynthChannel::start`, which fails without a text. -/
def AliSynthChannel.start (channel : AliSynthChannel) (speakText : List UInt8) (engineCh : Nat) :
    Option AliSynthChannel :=
  if speakText.isEmpty then none
  else
    some { channel with
      engineCh := some engineCh
      started := true
      play := true
      runing := true
      cursors := 0
      voice := []
      voiceFrame := ⟨none, 0, 0, 0⟩
      voiceQueue := [] }

/-- `CAliSynthChannel::stop` -/
def AliSynthChannel.stop (channel : AliSynthChannel) : AliSynthChannel :=
  { channel with started := false, play := false, runing := false }

/-- `MAX_QUEUE_SIZE`, the capacity of `m_VoiceQueue`. -/
def maxQueueSize : Nat := 1024

/-- One pass of the inner loop of `synthMain`: the next chunk is put into the queue, if it is not full. -/
def AliSynthChannel.transfer (channel : AliSynthChannel) : AliSynthChannel :=
  match channel.voice[channel.cursors]? with
  | some data =>
    if channel.voiceQueue.length < maxQueueSize then
      { channel with voiceQueue := channel.voiceQueue ++ [data], cursors := channel.cursors + 1 }
    else channel
  | none => channel

/-- The statements of `synthMain` after its loop. -/
def AliSynthChannel.synthMainEnd (channel : AliSynthChannel) : AliSynthChannel :=
  { channel with voice := [], cursors := 0 }

/-- `CAliSynthChannel::OnBinaryDataReceived` -/
def AliSynthChannel.onBinaryDataReceived (channel : AliSynthChannel) (data : List UInt8) : AliSynthChannel :=
  if data.isEmpty then channel else { channel with voice := channel.voice ++ [data] }

/-- `CAliSynthChannel::OnSynthesisCompleted` -/
def AliSynthChannel.onSynthesisCompleted (channel : AliSynthChannel) : AliSynthChannel :=
  if channel.engineCh.isSome then { channel with runing := false } else channel

/-- `CAliSynthChannel::OnTaskFailed` -/
def AliSynthChannel.onTaskFailed (channel : AliSynthChannel) : AliSynthChannel :=
  { channel with started := false, runing := false, play := false }

/-- `Ali_synth_channel_t` -/
structure SynthChannel where
  speakRequest : Option Nat
  /-- The STOP request that `stop_response` answers. -/
  stopResponse : Option Nat
  paused : Bool
  /-- `AliSynthCh`, a channel of the pool. -/
  aliSynthCh : Option Nat
deriving DecidableEq

def SynthChannel.initial : SynthChannel := ⟨none, none, false, none⟩

/-! ## The data -/

/-- Where a call of `synthMain` stands. -/
inductive SynthMainStage
  | queued
  | running
  | finished
deriving DecidableEq

/-- A call of `synthMain`, for a channel of the pool. -/
structure Execution where
  channel : Nat
  stage : SynthMainStage
deriving DecidableEq

inductive ChannelPhase
  | unopened
  | opened
  | closed
deriving DecidableEq

structure SynthPool where
  maxChannels : Nat
  channel : Nat → AliSynthChannel
  /-- `m_idle_pool` -/
  idlePool : Nat → Bool
  /-- `m_busy_pool` -/
  busyPool : Nat → Bool
  synthChannel : Nat → SynthChannel
  phase : Nat → ChannelPhase
  /-- The calls of `synthMain`, in the order in which they were pushed. -/
  executions : List Execution

/-- The pool after `AliSynthChannelFactory::Init`. -/
def SynthPool.initial (maxChannels : Nat) : SynthPool where
  maxChannels := maxChannels
  channel := fun _ => .initial
  idlePool := fun id => id < maxChannels
  busyPool := fun _ => false
  synthChannel := fun _ => .initial
  phase := fun _ => .unopened
  executions := []

inductive SynthPoolInput
  | channelOpen (session : Nat)
  /-- A SPEAK request: whether the stream has a codec, the text of its body if it has one, and whether the thread pool
  takes the task. -/
  | speak (session request : Nat) (descriptor : Bool) (body : Option (List UInt8)) (pushed : Bool)
  | stop (session request : Nat)
  | streamClose (session : Nat)
  | channelClose (session : Nat)
  /-- A call of `synthMain` goes on; when it begins, the SDK's request can be started or not. -/
  | synthMain (execution : Nat) (started : Bool)
  /-- The callbacks of the SDK, for the channel of a call of `synthMain`. -/
  | binaryDataReceived (execution : Nat) (data : List UInt8)
  | synthesisCompleted (execution : Nat)
  | taskFailed (execution : Nat)
deriving DecidableEq

inductive SynthOutput
  | response (request : Nat) (statusCode : Nat) (requestState : RequestState)
  /-- A null pointer to a channel of the pool is followed. -/
  | nullChannel
  | nullText
deriving DecidableEq

/-- `AliSynthChannelFactory::NewChannel`, with `GetIdleChannel`: the first idle channel becomes busy. -/
def SynthPool.newChannel (p : SynthPool) : SynthPool × Option Nat :=
  match (List.range p.maxChannels).find? p.idlePool with
  | some id =>
    ({ p with
        idlePool := Function.update p.idlePool id false
        busyPool := Function.update p.busyPool id true }, some id)
  | none => (p, none)

/-- `AliSynthChannelFactory::ReleaseChannel` -/
def SynthPool.releaseChannel (p : SynthPool) (id : Nat) : SynthPool :=
  { p with
    idlePool := Function.update p.idlePool id true
    busyPool := Function.update p.busyPool id false }

def SynthPool.setChannel (p : SynthPool) (id : Nat) (channel : AliSynthChannel) : SynthPool :=
  { p with channel := Function.update p.channel id channel }

def SynthPool.setSynthChannel (p : SynthPool) (session : Nat) (synthChannel : SynthChannel) : SynthPool :=
  { p with synthChannel := Function.update p.synthChannel session synthChannel }

/-- A synthesizer channel is made to point to a channel of the pool, or to none. -/
def SynthPool.setAliSynthCh (p : SynthPool) (session : Nat) (aliSynthCh : Option Nat) : SynthPool :=
  p.setSynthChannel session { p.synthChannel session with aliSynthCh := aliSynthCh }

/-- `CAliSynthEngine::EngineSynthStart`. The error message reads the number of the channel also when there is none. -/
def SynthPool.engineSynthStart (p : SynthPool) (session : Nat) (speakTxt : List UInt8) (pushed : Bool) :
    SynthPool × List SynthOutput × Bool :=
  match p.newChannel with
  | (p, some id) =>
    match (p.channel id).start speakTxt session with
    | some channel =>
      ({ (p.setChannel id channel).setAliSynthCh session (some id) with
          executions := if pushed then p.executions ++ [⟨id, .queued⟩] else p.executions }, [], true)
    | none => ((p.releaseChannel id).setAliSynthCh session none, [], false)
  | (p, none) => (p.setAliSynthCh session none, [.nullChannel], false)

/-- `CAliSynthEngine::EngineSynthStop` -/
def SynthPool.engineSynthStop (p : SynthPool) (session : Nat) : SynthPool :=
  match (p.synthChannel session).aliSynthCh with
  | some id => ((p.setChannel id (p.channel id).stop).releaseChannel id).setAliSynthCh session none
  | none => p

/-- `Ali_synth_channel_speak`. What `EngineSynthStart` returns decides about a message of the log only. -/
def SynthPool.speak (p : SynthPool) (session request : Nat) (descriptor : Bool) (body : Option (List UInt8))
    (pushed : Bool) : SynthPool × List SynthOutput :=
  if descriptor then
    match body with
    | some body =>
      let (p, outputs, _) := p.engineSynthStart session (body.takeWhile (· != 0)) pushed
      (p.setSynthChannel session { p.synthChannel session with speakRequest := some request },
        outputs ++ [.response request statusCodeSuccess .inProgress])
    | none => (p, [.nullText])
  else (p, [.response request statusCodeMethodFailed .complete])

def SynthPool.callback (p : SynthPool) (execution : Nat) (change : AliSynthChannel → AliSynthChannel) : SynthPool :=
  match p.executions[execution]? with
  | some e => p.setChannel e.channel (change (p.channel e.channel))
  | none => p

/-- A call of `synthMain` goes to a stage. -/
def SynthPool.setStage (p : SynthPool) (execution : Nat) (e : Execution) (stage : SynthMainStage) : SynthPool :=
  { p with executions := p.executions.set execution { e with stage := stage } }

/-- `CAliSynthChannel::synthMain`, which goes through its loop as long as `m_Start` is set. -/
def SynthPool.synthMain (p : SynthPool) (execution : Nat) (started : Bool) : SynthPool :=
  match p.executions[execution]? with
  | some e =>
    match e.stage with
    | .queued =>
      if started then p.setStage execution e .running
      else (p.setChannel e.channel (p.channel e.channel).synthMainEnd).setStage execution e .finished
    | .running =>
      if (p.channel e.channel).started then p.setChannel e.channel (p.channel e.channel).transfer
      else (p.setChannel e.channel (p.channel e.channel).synthMainEnd).setStage execution e .finished
    | .finished => p
  | none => p

/-- One operation, or one step of a call of `synthMain`. Requests are for channels that are open. -/
def SynthPool.step (p : SynthPool) : SynthPoolInput → SynthPool × List SynthOutput
  | .channelOpen session =>
    (if p.phase session = .unopened then { p with phase := Function.update p.phase session .opened } else p, [])
  | .speak session request descriptor body pushed =>
    if p.phase session = .opened then p.speak session request descriptor body pushed else (p, [])
  | .stop session request =>
    (if p.phase session = .opened then
      p.setSynthChannel session { p.synthChannel session with stopResponse := some request }
    else p, [])
  | .streamClose session => (p.engineSynthStop session, [])
  | .channelClose session =>
    ({ p.engineSynthStop session with phase := Function.update p.phase session .closed }, [])
  | .synthMain execution started => (p.synthMain execution started, [])
  | .binaryDataReceived execution data => (p.callback execution (·.onBinaryDataReceived data), [])
  | .synthesisCompleted execution => (p.callback execution AliSynthChannel.onSynthesisCompleted, [])
  | .taskFailed execution => (p.callback execution AliSynthChannel.onTaskFailed, [])

end UniMrcp.AliSynth
