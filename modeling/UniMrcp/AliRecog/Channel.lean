import UniMrcp.Apr
import Mathlib.Data.List.Defs

/-!
# The channels of the recognizer plugin

A channel of the plugin's pool (`AliChannel`), as `Ali_channel.cpp` has it.
-/

namespace UniMrcp.AliRecog

/-- A channel of the pool. Recognizer channels and requests are named by numbers. -/
structure AliChannel where
  /-- `m_Runing` -/
  runing : Bool
  /-- `m_Starting` -/
  starting : Bool
  /-- `m_recogFlag` -/
  recogFlag : Bool
  /-- `is_completed` -/
  isCompleted : Bool
  /-- `m_Ch`, the recognizer channel that is served. -/
  ch : Option Nat
  /-- `m_recogRequest`, the SDK's request. -/
  recogRequest : Option Nat
  deriving DecidableEq

def AliChannel.initial : AliChannel := ⟨false, false, false, false, none, none⟩

def AliChannel.start (channel : AliChannel) : AliChannel :=
  { channel with runing := true, starting := true, isCompleted := false }

def AliChannel.stop (channel : AliChannel) : AliChannel :=
  { channel with starting := false, ch := none, recogFlag := false }

def AliChannel.isWork (channel : AliChannel) : Bool := channel.starting

def AliChannel.recogExit (channel : AliChannel) : AliChannel :=
  if channel.runing then { channel with runing := false } else channel

/-- The flags that `AliChannel::OnTaskFailed` leaves. -/
def AliChannel.onTaskFailed (channel : AliChannel) : AliChannel :=
  { channel with recogFlag := true, starting := false }

def AliChannel.onChannelClosed (channel : AliChannel) : AliChannel :=
  { channel.stop with starting := false, recogFlag := true }

/-- The flags that `AliChannel::OnRecognitionCompleted` leaves. -/
def AliChannel.onRecognitionCompleted (channel : AliChannel) : AliChannel :=
  { channel with recogFlag := true }

/-- The statements of `AliChannel::RecogMain` after its label `END`. -/
def AliChannel.recogMainEnd (channel : AliChannel) : AliChannel :=
  { channel with recogRequest := none, starting := false, runing := false, ch := none, recogFlag := false }

/-- The capacity of `m_FrameQueue`. -/
def frameQueueCapacity : Nat := 100

/-- `apr_queue_push`, unless the queue is full and the caller has to wait. -/
def aprQueuePush (queue : List Nat) (data : Nat) : Option (List Nat) :=
  if queue.length = frameQueueCapacity then none else some (queue ++ [data])

/-- `apr_queue_pop`, unless the queue is empty and the caller has to wait. -/
def aprQueuePop : List Nat → Option (Nat × List Nat)
  | [] => none
  | data :: queue => some (data, queue)

theorem aprQueuePush_of_lt {queue : List Nat} (h : queue.length < frameQueueCapacity) (data : Nat) :
    aprQueuePush queue data = some (queue ++ [data]) := by
  unfold aprQueuePush
  rw [if_neg (by omega)]

end UniMrcp.AliRecog
