import UniMrcp.AliRecog.Plugin

/-!
# The pool of the recognizer plugin

The pool of channels to the SDK, with the threads that use it: the task of the engine, the media engine, the threads of
a thread pool, and those of the SDK. Each section that a mutex protects is a step of its own.
-/

namespace UniMrcp.AliRecog

/-! ## The data -/

/-- What the task of the engine does next in `EngineRecogStart`, when it has a channel of the pool. -/
inductive StartStage
  /-- `AliChannel::Start` is next. -/
  | start
  | taskPush
  | resetChannelPoolState
deriving DecidableEq

inductive CloseStage
  | opened
  /-- `AliChannel::Stop` has been called, `ReleaseChannel` is next. -/
  | stopped
  | closed
deriving DecidableEq

structure PoolUser where
  ch : ChPointer
  closing : CloseStage
deriving DecidableEq

/-- A recognition whose task the thread pool has taken, and whether its call of `RecogMain` has finished. -/
structure Recognition where
  session : Nat
  channel : Nat
  finished : Bool
deriving DecidableEq

structure Pool where
  maxChannels : Nat
  channel : Nat → AliChannel
  /-- `m_ChIdlePool` -/
  idlePool : Nat → Bool
  /-- `m_ChBusyPool` -/
  busyPool : Nat → Bool
  user : Nat → PoolUser
  /-- The call of `EngineRecogStart` that goes on: the recognizer channel, and the channel of the pool it was given. -/
  engineTask : Option (Nat × Nat × StartStage)
  /-- The recognitions, in the order in which they were pushed. -/
  recognitions : List Recognition

/-- The pool after `AliChannelFactory::Init`. -/
def Pool.initial (maxChannels : Nat) : Pool where
  maxChannels := maxChannels
  channel := fun _ => .initial
  idlePool := fun id => id < maxChannels
  busyPool := fun _ => false
  user := fun _ => ⟨.unassigned, .opened⟩
  engineTask := none
  recognitions := []

inductive PoolInput
  /-- The task of the engine calls `EngineRecogStart`. -/
  | recogStart (session : Nat)
  /-- The task of the engine goes on with it; the thread pool takes the task or fails to. -/
  | engineTask (pushed : Bool)
  /-- The task of the engine processes a STOP request. -/
  | stop (session : Nat)
  /-- The media engine closes a stream, by `EngineRecogStop`. -/
  | recogStop (session : Nat)
  | releaseChannel (session : Nat)
  /-- `RecogMain` calls `RecogExit`. -/
  | recogExit (recognition : Nat)
  /-- `RecogMain` finishes. -/
  | recogMain (recognition : Nat)
  | recognitionCompleted (recognition : Nat)
  | taskFailed (recognition : Nat)
  | channelClosed (recognition : Nat)
deriving DecidableEq

/-- `AliChannelFactory::NewChannel`: channels of the busy pool that do not work become idle, and the first idle one
leaves its pool. -/
def Pool.newChannel (p : Pool) : Pool × Option Nat :=
  let idle := fun id => p.idlePool id || p.busyPool id && !(p.channel id).isWork
  let busy := fun id => p.busyPool id && (p.channel id).isWork
  match (List.range p.maxChannels).find? (fun id => idle id && !(p.channel id).isWork) with
  | some id => ({ p with idlePool := Function.update idle id false, busyPool := busy }, some id)
  | none => ({ p with idlePool := idle, busyPool := busy }, none)

/-- `AliChannelFactory::ResetChannelPoolState` -/
def Pool.resetChannelPoolState (p : Pool) (id : Nat) : Pool :=
  if (p.channel id).isWork then { p with busyPool := Function.update p.busyPool id true }
  else { p with idlePool := Function.update p.idlePool id true }

/-- `AliChannelFactory::ReleaseChannel` -/
def Pool.releaseChannel (p : Pool) (id : Nat) : Pool :=
  if (p.channel id).isWork || p.idlePool id then p
  else { p with idlePool := Function.update p.idlePool id true, busyPool := Function.update p.busyPool id false }

/-! ## The engine -/

def Pool.setChannel (p : Pool) (id : Nat) (channel : AliChannel) : Pool :=
  { p with channel := Function.update p.channel id channel }

def Pool.setUser (p : Pool) (session : Nat) (user : PoolUser) : Pool :=
  { p with user := Function.update p.user session user }

/-- `EngineRecogStart` up to `SetRecogChannel`. -/
def Pool.engineRecogStart (p : Pool) (session : Nat) : Pool :=
  match p.newChannel with
  | (p, some id) =>
    { (p.setUser session { p.user session with ch := .channel id }).setChannel id
        { p.channel id with ch := some session } with
      engineTask := some (session, id, .start) }
  | (p, none) => p.setUser session { p.user session with ch := .null }

/-- `EngineRecogStart` from `AliChannel::Start` on. -/
def Pool.engineRecogProceed (p : Pool) (session id : Nat) (stage : StartStage) (pushed : Bool) : Pool :=
  match stage with
  | .start => { p.setChannel id (p.channel id).start with engineTask := some (session, id, .taskPush) }
  | .taskPush =>
    if pushed then
      { p with
        engineTask := some (session, id, .resetChannelPoolState)
        recognitions := p.recognitions ++ [⟨session, id, false⟩] }
    else { p with engineTask := none }
  | .resetChannelPoolState => { p.resetChannelPoolState id with engineTask := none }

/-- `AliChannel::Stop`. What it does through a null or unassigned pointer is not defined; here it changes nothing. -/
def Pool.channelStop (p : Pool) (session : Nat) : Pool :=
  match (p.user session).ch with
  | .channel id => p.setChannel id (p.channel id).stop
  | _ => p

/-- `EngineRecogStop`, `AliChannel::Stop`. -/
def Pool.engineRecogStop (p : Pool) (session : Nat) : Pool :=
  if (p.user session).closing = .opened then
    (p.channelStop session).setUser session { p.user session with closing := .stopped }
  else p

/-- `EngineRecogStop`, `ReleaseChannel`. -/
def Pool.engineRecogRelease (p : Pool) (session : Nat) : Pool :=
  if (p.user session).closing = .stopped then
    let p := p.setUser session { p.user session with closing := .closed }
    match (p.user session).ch with
    | .channel id => p.releaseChannel id
    | _ => p
  else p

def Pool.callback (p : Pool) (recognition : Nat) (change : AliChannel → AliChannel) : Pool :=
  match p.recognitions[recognition]? with
  | some r => p.setChannel r.channel (change (p.channel r.channel))
  | none => p

/-- `AliChannel::RecogMain` finishes, unless it has already. -/
def Pool.recogMain (p : Pool) (recognition : Nat) : Pool :=
  match p.recognitions[recognition]? with
  | some r =>
    if r.finished then p
    else
      { p.setChannel r.channel (p.channel r.channel).recogMainEnd with
        recognitions := p.recognitions.set recognition { r with finished := true } }
  | none => p

/-- One step of one thread. The task of the engine takes up a request when it has finished the one before. -/
def Pool.step (p : Pool) (input : PoolInput) : Pool × Unit :=
  (match input with
  | .recogStart session => if p.engineTask.isSome then p else p.engineRecogStart session
  | .engineTask pushed =>
    match p.engineTask with
    | some (session, id, stage) => p.engineRecogProceed session id stage pushed
    | none => p
  | .stop session => if p.engineTask.isSome then p else p.channelStop session
  | .recogStop session => p.engineRecogStop session
  | .releaseChannel session => p.engineRecogRelease session
  | .recogExit recognition => p.callback recognition AliChannel.recogExit
  | .recogMain recognition => p.recogMain recognition
  | .recognitionCompleted recognition => p.callback recognition AliChannel.onRecognitionCompleted
  | .taskFailed recognition => p.callback recognition AliChannel.onTaskFailed
  | .channelClosed recognition => p.callback recognition AliChannel.onChannelClosed, ())

end UniMrcp.AliRecog
