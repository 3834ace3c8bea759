import UniMrcp.AliRecog.Plugin

/-!
# What the recognizer plugin promises

What the client of a recognizer is promised of each of its requests, and the steps on which the plugin keeps it.
-/

namespace UniMrcp.AliRecog

open Mrcp MrcpEngine

structure Trace where
  plugin : Plugin
  log : List Output

def Trace.initial (maxChannels : Nat) (record : Bool) : Trace := ⟨.initial maxChannels record, []⟩

def Trace.step (t : Trace) (input : Input) : Trace × Unit :=
  (⟨(t.plugin.step input).1, t.log ++ (t.plugin.step input).2⟩, ())

def Output.answers (request : Nat) : Output → Bool
  | .response answered _ _ => answered == request
  | _ => false

def Output.completes (request : Nat) : Output → Bool
  | .recognitionComplete _ completed => completed == request
  | _ => false

/-- The SDK has reported completion or failure of the recognition that the request started. -/
def Plugin.Reported (p : Plugin) (request : Nat) : Prop :=
  ∃ r ∈ p.sdk, r.request = request ∧ r.reported

/-- A request whose response is still to come: the engine is processing it, or the next frame sends its response. -/
def Plugin.Pending (p : Plugin) (request : Nat) : Prop :=
  p.engineTask = some (request, .start) ∨ p.engineTask = some (request, .respond) ∨
    ((p.recogChannel (p.sessionOf request)).stopResponse = some request ∧
      (p.recogChannel (p.sessionOf request)).streamClosed = false)

structure Contract (t : Trace) : Prop where
  /-- Nothing is read through a null or unassigned pointer. -/
  noInvalidRead : Output.invalidRead ∉ t.log
  /-- Each request has exactly one response, or is about to get it. -/
  answered : ∀ request < t.plugin.requests.length, t.log.countP (Output.answers request) = 1 ∨
    (t.log.countP (Output.answers request) = 0 ∧ t.plugin.Pending request)
  /-- A RECOGNIZE request is in progress or has a failure status. -/
  recognized : ∀ request session statusCode requestState,
    t.plugin.requests[request]? = some ⟨session, .recognize⟩ →
    Output.response request statusCode requestState ∈ t.log →
    (statusCode = statusCodeSuccess ∧ requestState = .inProgress) ∨ statusCode = statusCodeMethodFailed
  /-- It is not in progress if its recognition could not be started. -/
  notStarted : ∀ request statusCode, Output.notStarted request ∈ t.log →
    Output.response request statusCode .inProgress ∉ t.log
  /-- A request in progress that was not stopped has one event when the SDK has reported, and none before. -/
  completed : ∀ request statusCode, Output.response request statusCode .inProgress ∈ t.log →
    t.plugin.stopped request = false →
    (t.plugin.Reported request → t.log.countP (Output.completes request) = 1) ∧
    (¬ t.plugin.Reported request → t.log.countP (Output.completes request) = 0)
  /-- Events are sent on the recognizer channel of the request. -/
  ownChannel : ∀ session request, Output.recognitionComplete session request ∈ t.log →
    session = t.plugin.sessionOf request

/-! ## The condition -/

/-- No thread and no request of the SDK uses the channel of the pool any more. -/
def Plugin.Quiet (p : Plugin) (id : Nat) : Prop :=
  (∀ t ∈ p.threads, t.channel = id → t.stage = .done) ∧ ∀ r ∈ p.sdk, r.channel = id → r.closed

def Plugin.Going (p : Plugin) (session : Nat) : Prop :=
  (∃ t ∈ p.threads, t.stage = .init ∧ p.sessionOf t.request = session ∧ p.stopped t.request = false) ∨
    ∃ r ∈ p.sdk, (r.reported || r.closed) = false ∧ p.sessionOf r.request = session ∧ p.stopped r.request = false

instance (p : Plugin) (id : Nat) : Decidable (p.Quiet id) := inferInstanceAs (Decidable (_ ∧ _))

instance (p : Plugin) (session : Nat) : Decidable (p.Going session) := inferInstanceAs (Decidable (_ ∨ _))

def ChPointer.target : ChPointer → Option Nat
  | .channel id => some id
  | _ => none

theorem ChPointer.target_eq_some {ch : ChPointer} {id : Nat} : ch.target = some id ↔ ch = .channel id := by
  cases ch <;> simp [target]

/-- The SDK's request reports while the channel still serves its `recog_request`, or after that one was stopped. -/
def Plugin.Serves (p : Plugin) (sdk : Nat) : Prop :=
  ∀ r ∈ p.sdk[sdk]?, p.stopped r.request ∨
    ((p.channel r.channel).ch = some (p.sessionOf r.request) ∧
      (p.recogChannel (p.sessionOf r.request)).recogRequest = some r.request)

instance (p : Plugin) (sdk : Nat) : Decidable (p.Serves sdk) := by
  unfold Plugin.Serves
  infer_instance

def Orderly (t : Trace) : Input → Prop
  -- the pool has a channel that nothing uses, and no recognition of the session goes on
  | .request session .recognize descriptor => t.plugin.engineTask = none → descriptor →
      (∀ id ∈ t.plugin.newChannel.2, t.plugin.Quiet id) ∧ t.plugin.newChannel.2.isSome ∧ ¬ t.plugin.Going session
  -- something was recognized, the last STOP was answered and the stream is open
  | .request session .stop _ => t.plugin.engineTask = none → (t.plugin.recogChannel session).ch.target.isSome ∧
      (t.plugin.recogChannel session).stopResponse = none ∧ (t.plugin.recogChannel session).streamClosed = false
  | .request _ _ _ => True
  -- the thread pool takes the task; a recording is started for a channel that still serves its session
  | .engineTask pushed => ∀ task ∈ t.plugin.engineTask, task.2 = .start → pushed ∧
      (t.plugin.record → ∀ id ∈ (t.plugin.recogChannel (t.plugin.sessionOf task.1)).ch.target,
        (t.plugin.channel id).ch.isSome)
  | .streamWrite _ _ => True
  -- something was recognized, and no response is stored
  | .streamClose session => (t.plugin.recogChannel session).ch.target.isSome ∧
      (t.plugin.recogChannel session).stopResponse = none
  | .recogMain thread started => ∀ r ∈ t.plugin.threads[thread]?, r.stage = .init → started
  | .resultChanged _ => True
  | .recognitionCompleted sdk => t.plugin.Serves sdk
  | .taskFailed sdk => t.plugin.Serves sdk ∧ ∀ r ∈ t.plugin.sdk[sdk]?, t.plugin.stopped r.request ∨
      (t.plugin.channel r.channel).isWork = true
  | .channelClosed _ => True

instance (t : Trace) (input : Input) : Decidable (Orderly t input) := by
  unfold Orderly
  split <;> infer_instance

end UniMrcp.AliRecog
