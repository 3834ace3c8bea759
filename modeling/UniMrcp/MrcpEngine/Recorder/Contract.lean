import UniMrcp.MrcpEngine.PendingQueue
import UniMrcp.MrcpEngine.Recorder

/-!
# The recorder answers each request once
-/

namespace UniMrcp.MrcpEngine

open Lib Mrcp

variable {D : Type}

def stopsRecord (request : Message RecorderMethod D) : Bool := request.methodId == some .stop

abbrev RecorderStage (s : RecorderStateMachine D) : Owes RecorderMethod D → List (Message RecorderMethod D) → Prop :=
  QueueStage .record .stop stopsRecord s.active false s.activeRequest (s.record = none) none

structure RecorderGood (s : RecorderStateMachine D) (pending : Option (Message RecorderMethod D))
    (owes : Owes RecorderMethod D) (awaited : List (Message RecorderMethod D)) : Prop where
  record : s.state = .idle ↔ s.record = none
  pending : pending = none
  stage : RecorderStage s owes awaited

variable {s : RecorderStateMachine D}

theorem recording_iff (h : s.state = .idle ↔ s.record = none) : s.state = .recording ↔ s.record ≠ none := by
  rw [ne_eq, ← h]
  cases s.state <;> simp

variable (ops : HeaderOps D)

abbrev RecorderKeeps (s : RecorderStateMachine D) (owes : Owes RecorderMethod D)
    (awaited : List (Message RecorderMethod D)) (r : RecorderHandled D) : Prop :=
  Keeps (recorderStateMachine ops) RecorderGood s none owes awaited r

variable (s' : RecorderStateMachine D)

theorem recorderResponseDispatch_keeps (owes : Owes RecorderMethod D) (message : Message RecorderMethod D)
    (hr : s'.state = .idle ↔ s'.record = none) (ha : s'.active = s.active)
    (hs : Settles s'.active message owes) :
    RecorderKeeps ops s owes [] (recorderResponseDispatch s' message) := by
  refine ⟨.nothing, owesAfter_settles hs, ⟨hr, rfl, ?_⟩, ha⟩
  have hn : engineRequests (recorderResponseDispatch s' message).out = [] := by
    unfold recorderResponseDispatch
    cases s'.active <;> rfl
  rw [hn]
  exact .quiet rfl

inductive RecorderRequested (s : RecorderStateMachine D) (message : Message RecorderMethod D) : RecorderHandled D → Prop
  | dispatched (properties : MessageHeader D) (sent : Message RecorderMethod D) : Answers sent message →
      (stopsRecord sent → s.state = .recording) →
      RecorderRequested s message (recorderRequestDispatch { s with properties := properties } sent)
  | answered (response : Message RecorderMethod D) : Answers response message →
      RecorderRequested s message (recorderResponseDispatch s response)

variable {message : Message RecorderMethod D}

theorem recorderRequestUpdate_requested (h : message.methodId.isSome) :
    ∃ r, (recorderStateMachine ops).requestUpdate s message = some r ∧ RecorderRequested s message r := by
  obtain ⟨method, hm⟩ := Option.isSome_iff_exists.1 h
  have hu : (recorderStateMachine ops).requestUpdate s message = recorderRequestMethod ops method s message := by
    show methodUpdate (recorderRequestMethod ops) s message = _
    simp [methodUpdate, hm]
  rw [hu]
  cases method with
  | setParams => exact ⟨_, rfl, .dispatched _ _ ⟨rfl, rfl⟩ (by simp [stopsRecord, hm])⟩
  | getParams => exact ⟨_, rfl, .dispatched s.properties _ ⟨rfl, rfl⟩ (by simp [stopsRecord, hm])⟩
  | record =>
    refine ⟨_, rfl, ?_⟩
    unfold recorderRequestRecord
    split_ifs
    · exact .answered _ ⟨rfl, rfl⟩
    · exact .dispatched s.properties _ ⟨rfl, rfl⟩ (by simp [stopsRecord, hm])
  | stop =>
    refine ⟨_, rfl, ?_⟩
    unfold recorderRequestStop
    split_ifs with hs
    · exact .dispatched s.properties _ ⟨rfl, rfl⟩ fun _ => hs
    · exact .answered _ ⟨rfl, rfl⟩
  | startInputTimers =>
    refine ⟨_, rfl, ?_⟩
    unfold recorderRequestStartTimers
    split_ifs with hs
    · exact .dispatched s.properties _ ⟨rfl, rfl⟩ fun _ => hs
    · exact .answered _ ⟨rfl, rfl⟩

variable {awaited : List (Message RecorderMethod D)} {r : RecorderHandled D}

theorem recorderRequest_keeps (h : RecorderGood s none .nothing awaited) (hc : s.active)
    (hm : message.methodId.isSome) (hr : RecorderRequested s message r) :
    r.pending = none ∧ RecorderKeeps ops s (.response message) awaited r := by
  obtain rfl := h.stage.of_quiet rfl
  cases hr with
  | dispatched properties sent ha ht =>
    refine ⟨rfl, .response message, rfl, ⟨h.record, rfl, ?_⟩, rfl⟩
    exact .awaiting hc rfl rfl ha (ha.2 ▸ hm) fun hs => (recording_iff h.record).1 (ht hs)
  | answered response ha =>
    exact ⟨rfl, recorderResponseDispatch_keeps ops s _ response h.record rfl ⟨hc, ha⟩⟩

/-! ## Responses -/

/-- What a response of the engine to the request that is waited for leads to. -/
inductive RecorderResponded (s : RecorderStateMachine D) (request message : Message RecorderMethod D) :
    RecorderHandled D → Prop
  | record : request.methodId = some .record →
      RecorderResponded s request message (recorderResponseRecord request s message)
  | dispatched (response : Message RecorderMethod D) : request.methodId ≠ some .record → stopsRecord request = false →
      Answers response message → RecorderResponded s request message (recorderResponseDispatch s response)
  | stopped (response : Message RecorderMethod D) : request.methodId = some .stop → Answers response message →
      RecorderResponded s request message (recorderResponseDispatch (recorderStateChange s .idle) response)

def recordResponded (s : RecorderStateMachine D) (request message : Message RecorderMethod D) : RecorderStateMachine D :=
  if message.requestState = .inProgress then recorderStateChange { s with record := some request } .recording else s

theorem recordResponded_record (h : s.state = .idle ↔ s.record = none) (request message : Message RecorderMethod D) :
    ((recordResponded s request message).state = .idle ↔ (recordResponded s request message).record = none) ∧
      (recordResponded s request message).active = s.active := by
  unfold recordResponded
  split_ifs
  · simp [recorderStateChange]
  · exact ⟨h, rfl⟩

variable {owes : Owes RecorderMethod D}

theorem recorderResponseUpdate_responded {request message : Message RecorderMethod D}
    (h : RecorderGood s none owes awaited)
    (hf : awaited.find? (fun request => Answers message request) = some request) :
    ∃ r, (recorderStateMachine ops).responseUpdate s message = some r ∧ RecorderResponded s request message r := by
  obtain ⟨hc, ha, -, ⟨-, hl, -⟩ | ⟨-, -, hsm, -, ht⟩⟩ := h.stage.found hf
  · simp at hl
  obtain ⟨method, hm⟩ := Option.isSome_iff_exists.1 hsm
  have hs : message.methodId = some method := ha.2.trans hm
  have hu : (recorderStateMachine ops).responseUpdate s message =
      recorderResponseMethod ops method request s message := by
    show responseStateUpdate RecorderStateMachine.activeRequest (recorderResponseMethod ops) s message = _
    unfold responseStateUpdate methodUpdate
    simp [hc, ha.1, hs]
  rw [hu]
  cases method with
  | record => exact ⟨_, rfl, .record hm⟩
  | stop =>
    obtain ⟨record, hr⟩ := Option.ne_none_iff_exists'.1 (ht (by simp [stopsRecord, hm]))
    refine ⟨_, ?_, .stopped (activeRequestList message record) hm ⟨rfl, rfl⟩⟩
    simp [recorderResponseMethod, recorderResponseStop, hr]
  | _ => exact ⟨_, rfl, .dispatched _ (by simp [hm]) (by simp [stopsRecord, hm]) ⟨rfl, rfl⟩⟩

theorem recorderResponse_keeps {request message : Message RecorderMethod D} (h : RecorderGood s none owes awaited)
    (hf : awaited.find? (fun request => Answers message request) = some request)
    (hr : RecorderResponded s request message r) :
    r.pending = none ∧ RecorderKeeps ops s owes (awaited.eraseP fun request => Answers message request) r := by
  obtain ⟨-, -, he, ⟨-, hl, -⟩ | ⟨-, hs, -⟩⟩ := h.stage.found hf
  · simp at hl
  rw [he]
  cases hr with
  | record =>
    obtain ⟨hc, ha⟩ := recordResponded_record h.record request message
    exact ⟨rfl, recorderResponseDispatch_keeps ops (recordResponded s request message) owes message hc ha
      (ha ▸ hs)⟩
  | dispatched response _ _ hn =>
    exact ⟨rfl, recorderResponseDispatch_keeps ops s owes response h.record rfl (hs.of_answers hn)⟩
  | stopped response _ hn =>
    exact ⟨rfl, recorderResponseDispatch_keeps ops (recorderStateChange s .idle) owes response
      (by simp [recorderStateChange]) rfl (hs.of_answers hn)⟩

/-! ## Events -/

def completesRecord (s : RecorderStateMachine D) (message : Message RecorderEvent D) : Bool :=
  message.methodId == some .recordComplete && acceptsRecordComplete s message

theorem completesRecord_iff (s : RecorderStateMachine D) (message : Message RecorderEvent D) :
    completesRecord s message ↔
      message.methodId = some .recordComplete ∧ isOfRecord s message ∧ isRecordStopAwaited s = false := by
  simp [completesRecord, acceptsRecordComplete]

inductive RecorderEvented (s : RecorderStateMachine D) (message : Message RecorderEvent D) : RecorderHandled D → Prop
  | refused (status : Bool) : RecorderEvented s message ⟨s, [], none, status⟩
  | started (sent : Message RecorderEvent D) : Answers sent message → message.methodId = some .startOfInput →
      isOfRecord s message → RecorderEvented s message (recorderEventDispatch s sent)
  | completed (sent : Message RecorderEvent D) : Answers sent message → completesRecord s message →
      RecorderEvented s message (recorderEventDispatch (recorderStateChange s .idle) sent)

theorem recorderEventUpdate_evented (s : RecorderStateMachine D) (message : Message RecorderEvent D) :
    ∃ r, (recorderStateMachine ops).eventUpdate s message = some r ∧ RecorderEvented s message r := by
  show ∃ r, methodUpdate (recorderEventMethod ops) s message = some r ∧ _
  unfold methodUpdate
  cases hm : message.methodId with
  | none => exact ⟨_, rfl, .refused _⟩
  | some method =>
    cases method with
    | startOfInput =>
      refine ⟨_, rfl, ?_⟩
      unfold recorderEventStartOfInput
      split_ifs with ho
      · exact .started _ ⟨rfl, rfl⟩ hm ho
      · exact .refused _
    | recordComplete =>
      refine ⟨_, rfl, ?_⟩
      unfold recorderEventRecordComplete
      split_ifs with ha
      · exact .completed _ ⟨rfl, rfl⟩ (by simp [completesRecord, hm, ha])
      · exact .refused _

theorem recorderEventDispatch_keeps (message : Message RecorderEvent D) (h : RecorderGood s' none owes awaited)
    (ha : s'.active = s.active) : RecorderKeeps ops s owes awaited (recorderEventDispatch s' message) := by
  have ho : owesAfter owes (recorderEventDispatch s' message).out = some owes ∧
      engineRequests (recorderEventDispatch s' message).out = [] := by
    unfold recorderEventDispatch
    cases s'.active <;> cases owes <;> exact ⟨rfl, rfl⟩
  refine ⟨owes, ho.1, ?_, ha⟩
  rw [ho.2, List.append_nil]
  exact h

theorem recorderEvent_keeps {message : Message RecorderEvent D} (h : RecorderGood s none owes awaited)
    (hr : RecorderEvented s message r) : r.pending = none ∧ RecorderKeeps ops s owes awaited r := by
  cases hr with
  | refused => exact ⟨rfl, owes, rfl, by simpa using h, rfl⟩
  | started sent => exact ⟨rfl, recorderEventDispatch_keeps ops s sent h rfl⟩
  | completed sent _ hc =>
    -- no STOP request waits for its response, so that none misses the RECORD request
    obtain ⟨-, -, hs⟩ := (completesRecord_iff s message).1 hc
    have hs : ∀ request ∈ s.activeRequest, stopsRecord request = false ∧ request.methodId ≠ some .stop := by
      intro request ha
      have ha : s.activeRequest = some request := ha
      simpa [isRecordStopAwaited, stopsRecord, ha] using hs
    exact ⟨rfl, recorderEventDispatch_keeps ops (recorderStateChange s .idle) sent
      ⟨by simp [recorderStateChange], rfl, h.stage.idled hs (by simp [recorderStateChange])⟩ rfl⟩

theorem recorderStateDeactivate_keeps (h : RecorderGood s none .nothing awaited) :
    ∃ r, recorderStateDeactivate s = some r ∧ r.pending = none ∧ ∃ owes',
      owesAfter (if r.status then .deactivation else .nothing) r.out = some owes' ∧
        RecorderGood r.machine none owes' (awaited ++ engineRequests r.out) := by
  obtain rfl := h.stage.of_quiet rfl
  have hre := recording_iff h.record
  unfold recorderStateDeactivate
  dsimp only
  split_ifs with hs
  · obtain ⟨record, hr⟩ := Option.ne_none_iff_exists'.1 (hre.1 hs)
    rw [hr]
    refine ⟨_, rfl, rfl, .deactivation, rfl, ?_, rfl, .deactivating rfl rfl rfl rfl (Option.some_ne_none record)⟩
    simpa [recorderRequestDispatch, hr] using h.record
  · exact ⟨_, rfl, rfl, .nothing, rfl, h.record, rfl, .quiet rfl⟩

def recorderContract : Contract (recorderStateMachine ops) Conditions.none where
  good := RecorderGood
  create := ⟨⟨by simp [recorderStateMachine, recorderStateMachineCreate], rfl, .quiet rfl⟩, rfl⟩
  awaits := fun h => h.stage.awaits
  request := fun h hactive hsome _ => by
    obtain ⟨r, hr, hrqd⟩ := recorderRequestUpdate_requested ops hsome
    obtain rfl := RecorderGood.pending h
    exact ⟨r, hr, recorderRequest_keeps ops h hactive hsome hrqd⟩
  response := fun h _ hfind => by
    obtain ⟨r, hr, hresponded⟩ := recorderResponseUpdate_responded ops h hfind
    obtain ⟨hpend, hkeeps⟩ := recorderResponse_keeps ops h hfind hresponded
    refine ⟨r, hr, ?_⟩
    rw [hpend]
    exact hkeeps
  event := fun {s _ _ message} h _ => by
    obtain ⟨r, hr, hevented⟩ := recorderEventUpdate_evented ops s message
    exact ⟨r, hr, recorderEvent_keeps ops h hevented⟩
  deactivate := fun h => by
    obtain rfl := RecorderGood.pending h
    exact recorderStateDeactivate_keeps h
  proceed := fun h => by
    have hpend := RecorderGood.pending h
    simp at hpend

end UniMrcp.MrcpEngine
