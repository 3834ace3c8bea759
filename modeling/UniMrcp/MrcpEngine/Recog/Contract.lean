import UniMrcp.MrcpEngine.Recog
import UniMrcp.MrcpEngine.PendingQueue

/-!
# The recognizer answers each request once
-/

namespace UniMrcp.MrcpEngine

open Lib Mrcp List

variable {D : Type}

def isRecogAnsweredAtOnce (message : Message RecogMethod D) : Bool :=
  match message.methodId with
  | some .stop | some .getResult | some .startInputTimers => true
  | _ => false

/-- The event completes the RECOGNIZE request that is in progress, or was recognized. -/
def completesRecognition (s : RecogStateMachine D) (message : Message RecogEvent D) : Bool :=
  message.methodId == some .recognitionComplete && acceptsRecognitionComplete s message

/-- No request is handed over while the response to a queued RECOGNIZE request is waited for, and none goes to the
engine while one is about to be dispatched. RECOGNITION-COMPLETE takes no request from the queue while the client or the
response to another one is waited for. -/
def recogConditions : Conditions (RecogStateMachine D) RecogMethod RecogEvent D where
  request s pending message := !s.isPending && (pending.isNone || isRecogAnsweredAtOnce message)
  response _ _ := true
  event s waits message := !(completesRecognition s message && !s.queue.isEmpty && (waits || s.isPending))

/-! ## The invariant -/

def stopsRecognition (request : Message RecogMethod D) : Bool := request.methodId == some .stop

abbrev RecogStage (s : RecogStateMachine D) :
    Option (Message RecogMethod D) → Owes RecogMethod D → List (Message RecogMethod D) → Prop :=
  QueueStage .recognize .stop stopsRecognition s.active s.isPending s.activeRequest (s.state ≠ .recognizing)

structure RecogGood (s : RecogStateMachine D) (pending : Option (Message RecogMethod D)) (owes : Owes RecogMethod D)
    (awaited : List (Message RecogMethod D)) : Prop where
  recog : s.state = .idle ↔ s.recog = none
  queue : ∀ message ∈ s.queue, message.methodId = some .recognize
  stopped : pending ≠ none → s.state = .idle
  stage : RecogStage s pending owes awaited

variable (ops : HeaderOps D)

abbrev RecogKeeps (s : RecogStateMachine D) (pending : Option (Message RecogMethod D)) (owes : Owes RecogMethod D)
    (awaited : List (Message RecogMethod D)) (r : RecogHandled D) : Prop :=
  Keeps (recogStateMachine ops) RecogGood s pending owes awaited r

variable {s : RecogStateMachine D}

theorem recogRequestDispatch_keeps {request sent : Message RecogMethod D} (h : RecogGood s none .nothing [])
    (ha : s.active) (hp : s.isPending = false) (hn : Answers sent request)
    (hm : sent.methodId.isSome) (ht : stopsRecognition sent → s.state = .recognizing) :
    RecogKeeps ops s none (.response request) [] (recogRequestDispatch s sent) :=
  ⟨.response request, rfl,
    ⟨h.recog, h.queue, h.stopped, .awaiting ha hp rfl hn hm fun hs => not_not.2 (ht hs)⟩, rfl⟩

variable {pending : Option (Message RecogMethod D)}

theorem recogResponseDispatch_keeps (s' : RecogStateMachine D) (owes : Owes RecogMethod D)
    (message : Message RecogMethod D) (hc : s'.state = .idle ↔ s'.recog = none)
    (hq : ∀ message ∈ s'.queue, message.methodId = some .recognize) (hp : s'.isPending = false)
    (ha : s'.active = s.active) (hs : Settles s'.active message owes)
    (hn : ∀ request ∈ pending, request.methodId = some .recognize ∧ s'.state = .idle)
    (first : List (Output RecogMethod RecogEvent D)) (hf : ∀ output ∈ first, output.isLogged)
    (pending' : Option (Message RecogMethod D)) :
    RecogKeeps ops s pending owes []
      { (recogResponseDispatch s' message).precede first with pending := pending' } := by
  refine ⟨.nothing, ?_, ⟨hc, hq, ?_, ?_⟩, ha⟩
  · exact (owesAfter_logged _ hf).trans (owesAfter_settles hs)
  · intro hm
    obtain ⟨request, hr⟩ := Option.ne_none_iff_exists'.1 hm
    exact (hn request hr).2
  · have h : engineRequests ((recogResponseDispatch s' message).precede first).out = [] := by
      unfold Handled.precede recogResponseDispatch
      rw [engineRequests_logged _ hf]
      cases s'.active <;> rfl
    rw [h]
    cases pending with
    | none => exact .quiet hp
    | some request =>
      obtain ⟨ht, hi⟩ := hn request rfl
      exact .processing ht hp (by simp [recogResponseDispatch, Handled.precede, hi])

theorem recognizedReset_same (s : RecogStateMachine D) :
    (recognizedReset s).active = s.active ∧ (recognizedReset s).isPending = s.isPending ∧
      (recognizedReset s).activeRequest = s.activeRequest ∧ (recognizedReset s).queue = s.queue := by
  unfold recognizedReset
  split_ifs <;> exact ⟨rfl, rfl, rfl, rfl⟩

theorem recognizedReset_state (s : RecogStateMachine D) :
    ((recognizedReset s).state = .recognizing ↔ s.state = .recognizing) ∧
      (s.state ≠ .recognizing → (recognizedReset s).state = .idle) := by
  unfold recognizedReset
  cases hs : s.state <;> simp [recogStateChange, hs]

theorem recognizedReset_recog (h : s.state = .idle ↔ s.recog = none) :
    (recognizedReset s).state = .idle ↔ (recognizedReset s).recog = none := by
  unfold recognizedReset
  split_ifs
  · simp [recogStateChange]
  · exact h

variable {owes : Owes RecogMethod D} {awaited : List (Message RecogMethod D)}

theorem RecogGood.reset (h : RecogGood s pending owes awaited) :
    RecogGood (recognizedReset s) pending owes awaited := by
  obtain ⟨ha, hp, hr, hq⟩ := recognizedReset_same s
  obtain ⟨hs, hi⟩ := recognizedReset_state s
  refine ⟨recognizedReset_recog h.recog, hq ▸ h.queue, fun hm => hi ?_, ?_⟩
  · simp [h.stopped hm]
  · unfold RecogStage
    rw [ha, hp, hr, ne_eq, propext (not_congr hs)]
    exact h.stage

theorem recogAnswer_keeps {message response : Message RecogMethod D} (h : RecogGood s pending .nothing awaited)
    (ha : s.active) (hp : s.isPending = false) (hn : Answers response message)
    {queue : List (Message RecogMethod D)} (hq : ∀ message ∈ queue, message.methodId = some .recognize)
    (first : List (Output RecogMethod RecogEvent D)) (hf : ∀ output ∈ first, output.isLogged) :
    RecogKeeps ops s pending (.response message) awaited
      ((recogResponseDispatch { s with queue := queue } response).precede first) := by
  obtain ⟨hr, -, ht, hs⟩ := h
  cases hs with
  | quiet =>
    exact recogResponseDispatch_keeps ops { s with queue := queue } (.response message) response hr hq hp rfl
      ⟨ha, hn⟩ (by simp) first hf none
  | processing hm _ _ =>
    refine recogResponseDispatch_keeps ops { s with queue := queue } (.response message) response hr hq hp rfl
      ⟨ha, hn⟩ ?_ first hf none
    rintro request ⟨⟩
    exact ⟨hm, ht (Option.some_ne_none _)⟩
  | popped _ htr => simp [hp] at htr

/-! ## Requests -/

inductive RecogRequested (s : RecogStateMachine D) (message : Message RecogMethod D) : RecogHandled D → Prop
  | dispatched (properties : MessageHeader D) (sent : Message RecogMethod D) : Answers sent message →
      (s.state = .idle → isRecogAnsweredAtOnce message = false) →
      (stopsRecognition sent → s.state = .recognizing) →
      RecogRequested s message (recogRequestDispatch { s with properties := properties } sent)
  | defined : message.methodId = some .defineGrammar → s.state ≠ .recognizing →
      RecogRequested s message (recogRequestDispatch (recognizedReset s) message)
  | answered (response : Message RecogMethod D) : Answers response message →
      RecogRequested s message (recogResponseDispatch s response)
  | queued (queued response : Message RecogMethod D) : s.state = .recognizing → queued.methodId = some .recognize →
      Answers queued message → Answers response message →
      RecogRequested s message ((recogResponseDispatch { s with queue := s.queue ++ [queued] } response).precede
        [.queueUp queued])
  | removed (response : Message RecogMethod D) : message.methodId = some .stop → Answers response message →
      RecogRequested s message
        ((recogResponseDispatch { recognizedReset s with queue := s.queue.filter (!selected message ·) } response).precede
          ((s.queue.filter (selected message)).map .removePending))

variable {message : Message RecogMethod D}

theorem recogRequestStop_requested (hm : message.methodId = some .stop)
    (hr : s.state = .idle ↔ s.recog = none) :
    ∃ r, recogRequestStop ops s message = some r ∧ RecogRequested s message r := by
  have removed : RecogRequested s message
      ((recogResponseDispatch
          { recognizedReset s with queue := (pendingRequestsRemove (recognizedReset s).queue message
            (responseCreate ops message)).queue }
          (pendingRequestsRemove (recognizedReset s).queue message (responseCreate ops message)).response).precede
        ((pendingRequestsRemove (recognizedReset s).queue message (responseCreate ops message)).removed.map
          .removePending)) := by
    rw [(recognizedReset_same s).2.2.2]
    exact .removed _ hm ⟨rfl, rfl⟩
  unfold recogRequestStop
  split_ifs with hs
  · have dispatched : RecogRequested s message (recogRequestDispatch s message) :=
      .dispatched s.properties message ⟨rfl, rfl⟩ (by simp [hs]) (by simp [hs])
    have h : recognizedReset s = s := by simp [recognizedReset, hs]
    rw [h] at removed
    split
    · exact ⟨_, rfl, dispatched⟩
    · obtain ⟨recog, hsm⟩ : ∃ recog, s.recog = some recog :=
        Option.ne_none_iff_exists'.1 fun hn => by simp [hs] at hr; exact hr hn
      rw [hsm]
      refine ⟨_, rfl, ?_⟩
      dsimp only
      split_ifs
      · exact dispatched
      · exact removed
  · exact ⟨_, rfl, removed⟩

theorem recogRequest_requested {method : RecogMethod} (hm : message.methodId = some method)
    (hr : s.state = .idle ↔ s.recog = none) :
    ∃ r, recogRequestMethod ops method s message = some r ∧ RecogRequested s message r := by
  have plain : isRecogAnsweredAtOnce message = false → ∀ (properties : MessageHeader D) (sent : Message RecogMethod D),
      Answers sent message → RecogRequested s message (recogRequestDispatch { s with properties := properties } sent) := by
    intro hp properties sent ha
    refine .dispatched properties sent ha (fun _ => hp) fun ht => ?_
    have ht : sent.methodId = some .stop := by simpa [stopsRecognition] using ht
    simp [isRecogAnsweredAtOnce, ← ha.2, ht] at hp
  cases method with
  | setParams => exact ⟨_, rfl, plain (by simp [isRecogAnsweredAtOnce, hm]) _ _ ⟨rfl, rfl⟩⟩
  | defineGrammar =>
    refine ⟨_, rfl, ?_⟩
    unfold recogRequestDefineGrammar
    split_ifs with hs
    · exact .answered _ ⟨rfl, rfl⟩
    · exact .defined hm hs
  | recognize =>
    refine ⟨_, rfl, ?_⟩
    unfold recogRequestRecognize
    split_ifs with hs
    · exact .queued _ _ hs hm ⟨rfl, rfl⟩ ⟨rfl, rfl⟩
    · exact plain (by simp [isRecogAnsweredAtOnce, hm]) s.properties _ ⟨rfl, rfl⟩
  | getResult =>
    refine ⟨_, rfl, ?_⟩
    unfold recogRequestGetResult
    split_ifs with hs
    · exact .dispatched s.properties _ ⟨rfl, rfl⟩ (by simp [hs]) (by simp [stopsRecognition, hm])
    · exact .answered _ ⟨rfl, rfl⟩
  | startInputTimers =>
    refine ⟨_, rfl, ?_⟩
    unfold recogRequestRecognitionStartTimers
    split_ifs with hs
    · exact .dispatched s.properties _ ⟨rfl, rfl⟩ (by simp [hs]) (by simp [hs])
    · exact .answered _ ⟨rfl, rfl⟩
  | stop => exact recogRequestStop_requested ops hm hr
  | _ => exact ⟨_, rfl, plain (by simp [isRecogAnsweredAtOnce, hm]) s.properties _ ⟨rfl, rfl⟩⟩

variable {r : RecogHandled D}

theorem recogRequest_keeps (h : RecogGood s pending .nothing awaited) (hac : s.active)
    (hm : message.methodId.isSome) (hc : recogConditions.request s pending message)
    (hr : RecogRequested s message r) : r.pending = none ∧ RecogKeeps ops s pending (.response message) awaited r := by
  obtain ⟨hp, hat⟩ : s.isPending = false ∧ (pending = none ∨ isRecogAnsweredAtOnce message) := by
    simpa [recogConditions] using hc
  -- a request goes to the engine only if no pending request is about to be processed
  have quiet : (s.state = .idle → isRecogAnsweredAtOnce message = false) → pending = none := by
    intro hi
    by_contra hso
    simp [hi (h.stopped hso), hso] at hat
  cases hr with
  | dispatched properties sent ha hi hst =>
    obtain rfl := quiet hi
    obtain rfl := h.stage.of_quiet hp
    exact ⟨rfl, recogRequestDispatch_keeps ops (s := { s with properties := properties })
      ⟨h.recog, h.queue, h.stopped, h.stage⟩ hac hp ha (ha.2 ▸ hm) hst⟩
  | defined hd hsta =>
    obtain rfl := quiet fun _ => by simp [isRecogAnsweredAtOnce, hd]
    obtain rfl := h.stage.of_quiet hp
    obtain ⟨hs, hsa, -, -⟩ := recognizedReset_same s
    obtain ⟨owes, ho, hg, ht⟩ := recogRequestDispatch_keeps ops h.reset (hs.trans hac)
      (hsa.trans hp) (⟨rfl, rfl⟩ : Answers message message) hm (by simp [stopsRecognition, hd])
    exact ⟨rfl, owes, ho, hg, ht.trans hs⟩
  | answered response ha => exact ⟨rfl, recogAnswer_keeps ops h hac hp ha h.queue [] (by simp)⟩
  | queued queued response _ hrc _ ha =>
    refine ⟨rfl, recogAnswer_keeps ops h hac hp ha ?_ _ (by simp [Output.isLogged])⟩
    exact forall_mem_append.2 ⟨h.queue, by simpa using hrc⟩
  | removed response _ ha =>
    obtain ⟨hs, hsa, -, -⟩ := recognizedReset_same s
    have hq : ∀ pending ∈ s.queue.filter (!selected message ·), pending.methodId = some .recognize :=
      fun pending hmm => h.queue pending (mem_filter.1 hmm).1
    obtain ⟨owes, ho, hg, ht⟩ := recogAnswer_keeps ops h.reset (hs.trans hac)
      (hsa.trans hp) ha hq _ (isLogged_removePending (s.queue.filter (selected message)))
    exact ⟨rfl, owes, ho, hg, ht.trans hs⟩

theorem recogRequestUpdate_requested (hr : s.state = .idle ↔ s.recog = none)
    (hs : message.methodId.isSome) :
    ∃ r, (recogStateMachine ops).requestUpdate s message = some r ∧ RecogRequested s message r := by
  obtain ⟨method, hm⟩ := Option.isSome_iff_exists.1 hs
  have hu : (recogStateMachine ops).requestUpdate s message = recogRequestMethod ops method s message := by
    show methodUpdate (recogRequestMethod ops) s message = _
    simp [methodUpdate, hm]
  rw [hu]
  exact recogRequest_requested ops hm hr

/-! ## Responses -/

/-- What a response of the engine to the request that is waited for leads to. -/
inductive RecogResponded (s : RecogStateMachine D) (request message : Message RecogMethod D) : RecogHandled D → Prop
  | recognize : request.methodId = some .recognize →
      RecogResponded s request message (recogResponseRecognize request s message)
  | dispatched (response : Message RecogMethod D) : request.methodId ≠ some .recognize → stopsRecognition request = false →
      Answers response message → RecogResponded s request message (recogResponseDispatch s response)
  | stopped (response : Message RecogMethod D) : request.methodId = some .stop → s.recog ≠ none →
      Answers response message → RecogResponded s request message
        { (recogResponseDispatch
            (recogStateChange { s with queue := (s.queue.filter (!selected request ·)).tail } .idle) response).precede
          ((s.queue.filter (selected request)).map .removePending) with
          pending := (s.queue.filter (!selected request ·)).head? }

variable {request : Message RecogMethod D}

theorem recogResponseUpdate_responded (hc : s.activeRequest = some request) (ha : Answers message request)
    (h : request.methodId.isSome) (ht : stopsRecognition request → s.recog ≠ none) :
    ∃ r, (recogStateMachine ops).responseUpdate s message = some r ∧ RecogResponded s request message r := by
  obtain ⟨method, hm⟩ := Option.isSome_iff_exists.1 h
  have hs : message.methodId = some method := ha.2.trans hm
  have hu : (recogStateMachine ops).responseUpdate s message = recogResponseMethod ops method request s message := by
    show responseStateUpdate RecogStateMachine.activeRequest (recogResponseMethod ops) s message = _
    unfold responseStateUpdate methodUpdate
    simp [hc, ha.1, hs]
  rw [hu]
  have dispatched : method ≠ .recognize → method ≠ .stop → ∀ response, Answers response message →
      RecogResponded s request message (recogResponseDispatch s response) := fun hrc hne response hsa =>
    .dispatched response (by simpa [hm] using hrc) (by simpa [stopsRecognition, hm] using hne) hsa
  cases method with
  | recognize => exact ⟨_, rfl, .recognize hm⟩
  | stop =>
    obtain ⟨recog, hr⟩ := Option.ne_none_iff_exists'.1 (ht (by simp [stopsRecognition, hm]))
    refine ⟨_, ?_, .stopped (pendingRequestsRemove s.queue request (activeRequestList message recog)).response hm
      (by simp [hr]) ⟨rfl, rfl⟩⟩
    simp only [recogResponseMethod, recogResponseStop, hr]
    rfl
  | _ => exact ⟨_, rfl, dispatched (by simp) (by simp) _ ⟨rfl, rfl⟩⟩

def recognizeResponded (s : RecogStateMachine D) (request message : Message RecogMethod D) : RecogStateMachine D :=
  if message.requestState = .inProgress then recogStateChange { s with recog := some request } .recognizing else s

theorem recogResponseRecognize_popped (hp : s.isPending) : recogResponseRecognize request s message =
      { machine := { recognizeResponded s request message with isPending := false }, out := [] } := by
  have hs : (recognizeResponded s request message).isPending := by
    unfold recognizeResponded
    split_ifs <;> exact hp
  exact if_pos hs

theorem recogResponseRecognize_direct (hp : s.isPending = false) :
    recogResponseRecognize request s message = recogResponseDispatch (recognizeResponded s request message) message := by
  have hs : (recognizeResponded s request message).isPending ≠ true := by
    unfold recognizeResponded
    split_ifs <;> simp [recogStateChange, hp]
  exact if_neg hs

theorem recognizeResponded_same (s : RecogStateMachine D) (request message : Message RecogMethod D) :
    (recognizeResponded s request message).isPending = s.isPending ∧
      (recognizeResponded s request message).queue = s.queue ∧
      (recognizeResponded s request message).active = s.active := by
  unfold recognizeResponded
  split_ifs <;> exact ⟨rfl, rfl, rfl⟩

theorem recognizeResponded_recog (h : s.state = .idle ↔ s.recog = none) (request message : Message RecogMethod D) :
    (recognizeResponded s request message).state = .idle ↔ (recognizeResponded s request message).recog = none := by
  unfold recognizeResponded
  split_ifs
  · simp [recogStateChange]
  · exact h

theorem recogEventDispatch_owes (s : RecogStateMachine D) (owes : Owes RecogMethod D) (message : Message RecogEvent D)
    (out : List (Output RecogMethod RecogEvent D)) :
    owesAfter owes ((recogEventDispatch s message).out ++ out) = owesAfter owes out ∧
      engineRequests ((recogEventDispatch s message).out ++ out) = engineRequests out := by
  unfold recogEventDispatch
  cases s.active <;> cases owes <;> exact ⟨rfl, rfl⟩

theorem recogResponse_keeps (h : RecogGood s none owes awaited)
    (hf : awaited.find? (fun request => Answers message request) = some request)
    (hr : RecogResponded s request message r) :
    RecogKeeps ops s r.pending owes (awaited.eraseP fun request => Answers message request) r := by
  obtain ⟨-, -, he, hcs⟩ := h.stage.found hf
  obtain ⟨hre, hq, -, -⟩ := h
  rw [he]
  rcases hcs with ⟨rfl, hp, hc, -⟩ | ⟨hp, hs, -⟩
  · cases hr with
    | recognize =>
      rw [recogResponseRecognize_popped hp]
      obtain ⟨-, hsa, ha⟩ := recognizeResponded_same s request message
      exact ⟨.nothing, rfl, ⟨recognizeResponded_recog hre request message, hsa ▸ hq, by simp, .quiet rfl⟩, ha⟩
    | dispatched _ hne => exact absurd hc hne
    | stopped _ ht => simp [hc] at ht
  · cases hr with
    | recognize =>
      rw [recogResponseRecognize_direct hp]
      obtain ⟨hsm, hsa, ha⟩ := recognizeResponded_same s request message
      exact recogResponseDispatch_keeps ops _ owes message (recognizeResponded_recog hre request message)
        (hsa ▸ hq) (hsm.trans hp) ha (ha ▸ hs) (by rintro request ⟨⟩) [] (by simp) none
    | dispatched response _ _ hn =>
      exact recogResponseDispatch_keeps ops s owes response hre hq hp rfl (hs.of_answers hn)
        (by rintro request ⟨⟩) [] (by simp) none
    | stopped response _ _ hn =>
      refine recogResponseDispatch_keeps ops
        (recogStateChange { s with queue := (s.queue.filter (!selected request ·)).tail } .idle) owes response ?_ ?_ hp
        rfl (hs.of_answers hn) ?_ _ (isLogged_removePending _) _
      · simp [recogStateChange]
      · exact fun pending hm => hq pending (mem_filter.1 (mem_of_mem_tail hm)).1
      · exact fun pending hm => ⟨hq pending (mem_filter.1 (mem_of_mem_head? hm)).1, rfl⟩

theorem recogResponseUpdate_found (h : RecogGood s none owes awaited)
    (hf : awaited.find? (fun request => Answers message request) = some request) :
    ∃ r, (recogStateMachine ops).responseUpdate s message = some r ∧ RecogResponded s request message r := by
  obtain ⟨ha, hn, -, hc⟩ := h.stage.found hf
  apply recogResponseUpdate_responded ops ha hn
  · rcases hc with ⟨-, -, hr, -⟩ | ⟨-, -, hm, -⟩
    · simp [hr]
    · exact hm
  · intro hs hnn
    rcases hc with ⟨-, -, hr, -⟩ | ⟨-, -, -, -, ht⟩
    · simp [stopsRecognition, hr] at hs
    · exact ht hs (by simp [h.recog.2 hnn])

/-! ## Events -/

inductive RecogEvented (s : RecogStateMachine D) (message : Message RecogEvent D) : RecogHandled D → Prop
  | refused (status : Bool) : completesRecognition s message = false → RecogEvented s message ⟨s, [], none, status⟩
  | dispatched (sent : Message RecogEvent D) : completesRecognition s message = false → Answers sent message →
      message.methodId ≠ some .recognitionComplete →
      (message.methodId = some .startOfInput → isOfRecog s message) →
      RecogEvented s message (recogEventDispatch s sent)
  /-- It completes the RECOGNIZE request, and no other is pending. -/
  | completed (sent : Message RecogEvent D) : completesRecognition s message → Answers sent message → s.queue = [] →
      RecogEvented s message ⟨recogStateChange s .recognized, (recogEventDispatch s sent).out, none, true⟩
  /-- It completes the RECOGNIZE request, and the next one is processed. -/
  | processed (sent : Message RecogEvent D) (pending : Message RecogMethod D) (queue : List (Message RecogMethod D)) :
      completesRecognition s message → Answers sent message → s.queue = pending :: queue →
      RecogEvented s message ⟨recogPendingProcess { recogStateChange s .recognized with queue := queue } pending,
        (recogEventDispatch s sent).out ++ [.processPending pending, .request pending], none, true⟩

theorem recogEventUpdate_evented (s : RecogStateMachine D) (message : Message RecogEvent D) :
    ∃ r, (recogStateMachine ops).eventUpdate s message = some r ∧ RecogEvented s message r := by
  show ∃ r, methodUpdate (recogEventMethod ops) s message = some r ∧ _
  unfold methodUpdate
  cases hm : message.methodId with
  | none => exact ⟨_, rfl, .refused _ (by simp [completesRecognition, hm])⟩
  | some method =>
    cases method with
    | startOfInput =>
      refine ⟨_, rfl, ?_⟩
      unfold recogEventStartOfInput
      split_ifs with ho
      · exact .dispatched _ (by simp [completesRecognition, hm]) ⟨rfl, rfl⟩ (by simp [hm]) fun _ => ho
      · exact .refused _ (by simp [completesRecognition, hm])
    | recognitionComplete =>
      refine ⟨_, rfl, ?_⟩
      unfold recogEventRecognitionComplete
      split_ifs with ha
      · have hc : completesRecognition s message = true := by simp [completesRecognition, hm, ha]
        dsimp only
        split
        · next hq => exact .completed _ hc ⟨rfl, rfl⟩ hq
        · next hq => exact .processed _ _ _ hc ⟨rfl, rfl⟩ hq
      · exact .refused _ (by simp [completesRecognition, ha])
    | interpretationComplete =>
      refine ⟨_, rfl, ?_⟩
      exact .dispatched _ (by simp [completesRecognition, hm]) ⟨rfl, rfl⟩ (by simp [hm]) (by simp [hm])

theorem completesRecognition_iff (s : RecogStateMachine D) (message : Message RecogEvent D) :
    completesRecognition s message ↔
      message.methodId = some .recognitionComplete ∧ isOfRecog s message ∧ isRecogStopAwaited s = false := by
  simp [completesRecognition, acceptsRecognitionComplete]

theorem not_stops_of_completes {message : Message RecogEvent D} (h : completesRecognition s message) :
    ∀ request ∈ s.activeRequest, stopsRecognition request = false ∧ request.methodId ≠ some .stop := by
  intro request ha
  have ha : s.activeRequest = some request := ha
  obtain ⟨-, -, hs⟩ := (completesRecognition_iff s message).1 h
  simpa [isRecogStopAwaited, stopsRecognition, ha] using hs

theorem recognized_recog {message : Message RecogEvent D} (h : completesRecognition s message) :
    (recogStateChange s .recognized).state = .idle ↔ (recogStateChange s .recognized).recog = none := by
  obtain ⟨-, ho, -⟩ := (completesRecognition_iff s message).1 h
  have hs : s.recog ≠ none := fun hn => by simp [isOfRecog, hn] at ho
  simpa [recogStateChange] using hs

theorem recogEvent_keeps {message : Message RecogEvent D} (h : RecogGood s none owes awaited)
    (hc : recogConditions.event s owes.request.isSome message) (hr : RecogEvented s message r) :
    r.pending = none ∧ RecogKeeps ops s none owes awaited r := by
  cases hr with
  | refused => exact ⟨rfl, owes, rfl, by simpa using h, rfl⟩
  | dispatched sent =>
    have he := recogEventDispatch_owes s owes sent []
    rw [append_nil] at he
    refine ⟨rfl, owes, he.1, ?_, rfl⟩
    rw [he.2, engineRequests_nil, append_nil]
    exact h
  | completed sent hm _ hq =>
    have he := recogEventDispatch_owes s owes sent []
    rw [append_nil] at he
    have hi : RecogState.recognized ≠ .recognizing := by simp
    have hs := h.stage.idled (not_stops_of_completes hm) hi
    refine ⟨rfl, owes, he.1, ⟨recognized_recog hm, h.queue, by simp, ?_⟩, rfl⟩
    simp only [he.2, engineRequests_nil, append_nil]
    exact hs
  | processed sent pending queue hm _ hq =>
    obtain ⟨hw, hp⟩ : owes.request.isSome = false ∧ s.isPending = false := by
      simpa [recogConditions, hm, hq] using hc
    obtain rfl := h.stage.owes_nothing (not_stops_of_completes hm) hw
    obtain rfl := h.stage.of_quiet hp
    have he := recogEventDispatch_owes s .nothing sent [.processPending pending, .request pending]
    have hmm := forall_mem_cons.1 (hq ▸ h.queue)
    refine ⟨rfl, .nothing, he.1, ⟨recognized_recog hm, hmm.2, by simp, ?_⟩, rfl⟩
    simp only [he.2]
    exact .popped hmm.1 rfl rfl (by simp [recogStateChange, recogPendingProcess])

/-! ## The contract -/

theorem recogStateDeactivate_keeps (h : RecogGood s pending .nothing awaited) :
    ∃ r, recogStateDeactivate s = some r ∧ r.pending = none ∧ ∃ owes',
      owesAfter (if r.status then .deactivation else .nothing) r.out = some owes' ∧
        RecogGood r.machine pending owes' (awaited ++ engineRequests r.out) := by
  obtain ⟨hr, hq, hst, ht⟩ := h
  unfold recogStateDeactivate
  dsimp only
  split_ifs with hs
  · obtain ⟨recog, hm⟩ : ∃ recog, s.recog = some recog :=
      Option.ne_none_iff_exists'.1 fun hn => by simp [hs] at hr; exact hr hn
    rw [hm]
    cases ht with
    | quiet hp =>
      refine ⟨_, rfl, rfl, .deactivation, rfl,
        ⟨?_, hq, hst, .deactivating rfl hp rfl rfl (by simp [recogRequestDispatch, hs])⟩⟩
      simpa [recogRequestDispatch, hm] using hr
    | processing _ _ hi => exact absurd hs hi
    | popped _ _ _ hi => exact absurd hs hi
  · have ht' : RecogStage { s with active := false } pending .nothing awaited := by
      cases ht with
      | quiet hp => exact .quiet hp
      | processing hc hp hi => exact .processing hc hp hi
      | popped hc hp ha hi => exact .popped hc hp ha hi
    exact ⟨_, rfl, rfl, .nothing, rfl, hr, hq, hst, by simpa using ht'⟩

def recogContract : Contract (recogStateMachine ops) recogConditions where
  good := RecogGood
  create := ⟨⟨by simp [recogStateMachine, recogStateMachineCreate], by simp [recogStateMachine, recogStateMachineCreate],
    by simp, .quiet rfl⟩, rfl⟩
  awaits := fun h => h.stage.awaits
  request := fun h hactive hsome hc => by
    obtain ⟨r, hr, hrqd⟩ := recogRequestUpdate_requested ops h.recog hsome
    exact ⟨r, hr, recogRequest_keeps ops h hactive hsome hc hrqd⟩
  response := fun h _ hfind => by
    obtain ⟨r, hr, hresponded⟩ := recogResponseUpdate_found ops h hfind
    exact ⟨r, hr, recogResponse_keeps ops h hfind hresponded⟩
  event := fun {s _ _ message} h hc => by
    obtain ⟨r, hr, hevented⟩ := recogEventUpdate_evented ops s message
    exact ⟨r, hr, recogEvent_keeps ops h hc hevented⟩
  deactivate := recogStateDeactivate_keeps
  proceed := fun {s message owes awaited} h => by
    obtain ⟨hrecog, hqueue, -, hstage⟩ := h
    cases hstage with
    | processing hrecognize _ hidle => exact ⟨⟨hrecog, hqueue, by simp, .popped hrecognize rfl rfl hidle⟩, rfl⟩

/-- The engine accepts a RECOGNIZE request, which is in progress then. -/
def RecognizeAccepted (h : Served (RecogStateMachine D) RecogMethod RecogEvent D) : Input RecogMethod RecogEvent D → Prop
  | .response message =>
    ∀ request, h.awaited.find? (fun request => Answers message request) = some request →
      request.methodId = some .recognize → message.requestState = .inProgress →
      (h.step (recogStateMachine ops) (.response message)).1.machine.state = .recognizing ∧
        (h.step (recogStateMachine ops) (.response message)).1.machine.recog = some request
  | _ => True

theorem recognizeAccepted_of_serves {h : Served (RecogStateMachine D) RecogMethod RecogEvent D}
    (hs : Serves (recogContract ops) h) {input : Input RecogMethod RecogEvent D} (he : enabled h input) :
    RecognizeAccepted ops h input := by
  cases input with
  | response message =>
    intro request hf hc hpr
    obtain ⟨⟨-, hn⟩, -⟩ : (h.popping = false ∧ h.pending = none) ∧
        (h.awaited.any fun request => Answers message request) = true := by
      simpa only [enabled, Bool.and_eq_true, Bool.not_eq_true', Option.isNone_iff_eq_none] using he
    have hg : RecogGood h.machine none h.owes h.awaited := hn ▸ hs.good
    obtain ⟨r, hr, hrs⟩ := recogResponseUpdate_found ops hg hf
    -- the machine is the one of the handler
    have hm : (h.step (recogStateMachine ops) (.response message)).1.machine = r.machine := by
      show (h.response (recogStateMachine ops) message).1.machine = r.machine
      simp [Served.response, hf, Served.settle, hr]
    rw [hm]
    have hre : (recognizeResponded h.machine request message).state = .recognizing ∧
        (recognizeResponded h.machine request message).recog = some request := by
      simp [recognizeResponded, hpr, recogStateChange]
    cases hrs with
    | recognize =>
      cases hp : h.machine.isPending with
      | true =>
        rw [recogResponseRecognize_popped hp]
        exact hre
      | false =>
        rw [recogResponseRecognize_direct hp]
        exact hre
    | dispatched _ hne => exact absurd hc hne
    | stopped _ ht => simp [hc] at ht
  | _ => trivial

/-- **Every request of the client is answered once, and no accepted recognition is lost**: in every run whose steps meet
the conditions, the responses are to the requests in order, none is left when the engine has responded to all it was
sent, and every RECOGNIZE request that it accepts is in progress then. -/
theorem recog_answers {inputs : List (Input RecogMethod RecogEvent D)}
    (h : Legal (recogStateMachine ops) recogConditions inputs) :
    AnsweredOnce (recogStateMachine ops) inputs ∧
      EachStep (Served.step (recogStateMachine ops)) (RecognizeAccepted ops) (Served.create (recogStateMachine ops))
        inputs :=
  ⟨(recogContract ops).run_answeredOnce h,
    eachStep_of_invariant (Serves (recogContract ops))
      (fun h input => enabled h input = true ∧ recogConditions.met h input) (RecognizeAccepted ops)
      (fun _ _ hs hi => (step_stepped hs hi.1 hi.2).1) (fun _ _ hs hi => recognizeAccepted_of_serves ops hs hi.1) _ _
      (serves_create (recogContract ops)) h⟩

/-- Two RECOGNIZE requests, the second of which is taken from the queue, and STOP. -/
def recognizeTwice : List (Input RecogMethod RecogEvent Unit) :=
  [.client (plainRequest 1 .recognize), .response (plainMessage 1 .recognize .inProgress 200), .pop,
    .client (plainRequest 2 .recognize), .pop, .event (plainMessage 1 .recognitionComplete .complete 0),
    .response (plainMessage 2 .recognize .inProgress 200), .client (plainRequest 3 .stop),
    .response (plainMessage 3 .stop .complete 200), .pop]

/-- Each of the three requests is answered, and both RECOGNIZE requests are in progress when they are accepted. -/
theorem recog_answers_recognizeTwice :
    AnsweredOnce (recogStateMachine plainHeaderOps) recognizeTwice ∧
      EachStep (Served.step (recogStateMachine plainHeaderOps)) (RecognizeAccepted plainHeaderOps)
        (Served.create (recogStateMachine plainHeaderOps)) recognizeTwice :=
  recog_answers plainHeaderOps (by decide +kernel)

/-- START-INPUT-TIMERS is answered at once while the RECOGNIZE request from the queue waits for its response. -/
def recognizeDropped : List (Input RecogMethod RecogEvent Unit) :=
  [.client (plainRequest 1 .recognize), .response (plainMessage 1 .recognize .inProgress 200), .pop,
    .client (plainRequest 2 .recognize), .pop, .event (plainMessage 1 .recognitionComplete .complete 0),
    .client (plainRequest 3 .startInputTimers), .pop, .response (plainMessage 2 .recognize .inProgress 200),
    .client (plainRequest 4 .recognize), .response (plainMessage 4 .recognize .inProgress 200)]

/-- The response to the last RECOGNIZE request is taken for that of the one from the queue, and the client has none. -/
theorem recog_recognizeDropped : Legal (recogStateMachine plainHeaderOps) Conditions.none recognizeDropped ∧
    ¬ (AnsweredOnce (recogStateMachine plainHeaderOps) recognizeDropped ∧
      EachStep (Served.step (recogStateMachine plainHeaderOps)) (RecognizeAccepted plainHeaderOps)
        (Served.create (recogStateMachine plainHeaderOps)) recognizeDropped) :=
  ⟨by decide +kernel, fun h => not_answeredOnce (by decide +kernel) (by decide +kernel) h.1⟩

end UniMrcp.MrcpEngine
