import UniMrcp.MrcpEngine.Synth
import UniMrcp.MrcpEngine.PendingQueue

/-!
# The synthesizer answers each request once
-/

namespace UniMrcp.MrcpEngine

open Lib Mrcp List

variable {D : Type}

/-- A request that is answered at once when no SPEAK request is in progress. -/
def isAnsweredAtOnce (message : Message SynthMethod D) : Bool :=
  match message.methodId with
  | some .stop | some .pause | some .resume | some .bargeInOccurred | some .control => true
  | _ => false

/-- The handler of the response reads the speaker, and the request did not keep SPEAK-COMPLETE from clearing it. -/
def readsSpeaker (message : Message SynthMethod D) : Bool :=
  match message.methodId with
  | some .pause | some .resume => message.statusCode == statusCodeSuccess
  | some .control => true
  | _ => false

def completesSpeak (s : SynthStateMachine D) (message : Message SynthEvent D) : Bool :=
  message.methodId == some .speakComplete && acceptsSpeakComplete s message

/-- No request is handed over while the response to a queued SPEAK request is waited for, and none goes to the engine
while one is about to be dispatched. The speaker is there when a response is to PAUSE, RESUME or CONTROL, and
SPEAK-COMPLETE takes no request from the queue while the client waits. -/
def synthConditions : Conditions (SynthStateMachine D) SynthMethod SynthEvent D where
  request s pending message := !s.isPending && (pending.isNone || isAnsweredAtOnce message)
  response s message := s.speaker.isSome || !readsSpeaker message
  event s waits message := !(waits && completesSpeak s message && !s.queue.isEmpty)

/-! ## The invariant -/

def stopsSpeak (request : Message SynthMethod D) : Bool :=
  request.methodId == some .stop || request.methodId == some .bargeInOccurred

abbrev SynthStage (s : SynthStateMachine D) :
    Option (Message SynthMethod D) → Owes SynthMethod D → List (Message SynthMethod D) → Prop :=
  QueueStage .speak .stop stopsSpeak s.active s.isPending s.activeRequest (s.speaker = none)

structure SynthGood (s : SynthStateMachine D) (pending : Option (Message SynthMethod D)) (owes : Owes SynthMethod D)
    (awaited : List (Message SynthMethod D)) : Prop where
  speaker : s.state = .idle ↔ s.speaker = none
  queue : ∀ message ∈ s.queue, message.methodId = some .speak
  stage : SynthStage s pending owes awaited

variable (ops : HeaderOps D)

abbrev SynthKeeps (s : SynthStateMachine D) (pending : Option (Message SynthMethod D)) (owes : Owes SynthMethod D)
    (awaited : List (Message SynthMethod D)) (r : SynthHandled D) : Prop :=
  Keeps (synthStateMachine ops) SynthGood s pending owes awaited r

variable {s : SynthStateMachine D}

theorem synthRequestDispatch_keeps {request sent : Message SynthMethod D} (h : SynthGood s none .nothing [])
    (ha : s.active) (hp : s.isPending = false) (hn : Answers sent request)
    (hm : sent.methodId.isSome) (hs : stopsSpeak sent → s.speaker ≠ none) :
    SynthKeeps ops s none (.response request) [] (synthRequestDispatch s sent) :=
  ⟨.response request, rfl, ⟨h.speaker, h.queue, .awaiting ha hp rfl hn hm hs⟩, rfl⟩

variable {pending : Option (Message SynthMethod D)}

theorem synthResponseDispatch_keeps (s' : SynthStateMachine D) (owes : Owes SynthMethod D)
    (message : Message SynthMethod D) (hs : s'.state = .idle ↔ s'.speaker = none)
    (hq : ∀ message ∈ s'.queue, message.methodId = some .speak) (hp : s'.isPending = false)
    (ha : s'.active = s.active) (ht : Settles s'.active message owes)
    (hn : ∀ request ∈ pending, request.methodId = some .speak ∧ s'.speaker = none)
    (first : List (Output SynthMethod SynthEvent D)) (hf : ∀ output ∈ first, output.isLogged)
    (pending' : Option (Message SynthMethod D)) :
    SynthKeeps ops s pending owes []
      { (synthResponseDispatch s' message).precede first with pending := pending' } := by
  refine ⟨.nothing, ?_, ⟨hs, hq, ?_⟩, ha⟩
  · exact (owesAfter_logged _ hf).trans (owesAfter_settles ht)
  · have h : engineRequests ((synthResponseDispatch s' message).precede first).out = [] := by
      unfold Handled.precede synthResponseDispatch
      rw [engineRequests_logged _ hf]
      cases s'.active <;> rfl
    rw [h]
    cases pending with
    | none => exact .quiet hp
    | some request => exact .processing (hn request rfl).1 hp (hn request rfl).2

variable {awaited : List (Message SynthMethod D)}

theorem synthAnswer_keeps {message response : Message SynthMethod D} (h : SynthGood s pending .nothing awaited)
    (ha : s.active) (hp : s.isPending = false) (hn : Answers response message)
    {queue : List (Message SynthMethod D)} (hq : ∀ message ∈ queue, message.methodId = some .speak)
    (first : List (Output SynthMethod SynthEvent D)) (hf : ∀ output ∈ first, output.isLogged) :
    SynthKeeps ops s pending (.response message) awaited
      ((synthResponseDispatch { s with queue := queue } response).precede first) := by
  obtain ⟨hs, -, ht⟩ := h
  cases ht with
  | quiet =>
    exact synthResponseDispatch_keeps ops { s with queue := queue } (.response message) response hs hq hp rfl
      ⟨ha, hn⟩ (by simp) first hf none
  | processing hm _ hnn =>
    refine synthResponseDispatch_keeps ops { s with queue := queue } (.response message) response hs hq hp rfl
      ⟨ha, hn⟩ ?_ first hf none
    rintro request ⟨⟩
    exact ⟨hm, hnn⟩
  | popped _ hr => simp [hp] at hr

/-! ## Requests -/

inductive SynthRequested (s : SynthStateMachine D) (message : Message SynthMethod D) : SynthHandled D → Prop
  | dispatched (properties : MessageHeader D) (sent : Message SynthMethod D) : Answers sent message →
      (s.speaker = none → isAnsweredAtOnce message = false ∧ stopsSpeak sent = false) →
      SynthRequested s message (synthRequestDispatch { s with properties := properties } sent)
  | answered (response : Message SynthMethod D) : Answers response message →
      SynthRequested s message (synthResponseDispatch s response)
  | queued (queued response : Message SynthMethod D) : s.speaker ≠ none → queued.methodId = some .speak →
      Answers queued message → Answers response message →
      SynthRequested s message ((synthResponseDispatch { s with queue := s.queue ++ [queued] } response).precede
        [.queueUp queued])
  | removed (response : Message SynthMethod D) : message.methodId = some .stop →
      s.speaker.any (selected message) = false →
      response = (pendingRequestsRemove s.queue message (responseCreate ops message)).response →
      SynthRequested s message
        ((synthResponseDispatch { s with queue := s.queue.filter (!selected message ·) } response).precede
          ((s.queue.filter (selected message)).map .removePending))

variable {message : Message SynthMethod D}

theorem synthRequest_requested {method : SynthMethod} (hm : message.methodId = some method)
    (hp : s.state = .idle ↔ s.speaker = none) :
    ∃ r, synthRequestMethod ops method s message = some r ∧ SynthRequested ops s message r := by
  cases method with
  | setParams => exact ⟨_, rfl, .dispatched _ _ ⟨rfl, rfl⟩ (by simp [isAnsweredAtOnce, stopsSpeak, hm])⟩
  | getParams => exact ⟨_, rfl, .dispatched s.properties _ ⟨rfl, rfl⟩ (by simp [isAnsweredAtOnce, stopsSpeak, hm])⟩
  | speak =>
    refine ⟨_, rfl, ?_⟩
    unfold synthRequestSpeak
    split
    · next hs => exact .queued _ _ (by simp [hs]) hm ⟨rfl, rfl⟩ ⟨rfl, rfl⟩
    · exact .dispatched s.properties _ ⟨rfl, rfl⟩ (by simp [isAnsweredAtOnce, stopsSpeak, hm])
  | stop =>
    refine ⟨_, rfl, ?_⟩
    unfold synthRequestStop
    split_ifs with hl
    · refine .dispatched s.properties _ ⟨rfl, rfl⟩ fun hn => ?_
      simp [hn] at hl
    · exact .removed _ hm (by simpa using hl) rfl
  | pause =>
    refine ⟨_, rfl, ?_⟩
    unfold synthRequestPause
    split
    · next hs =>
      split_ifs
      · exact .dispatched s.properties _ ⟨rfl, rfl⟩ (by simp [hs])
      · exact .answered _ ⟨rfl, rfl⟩
    · exact .answered _ ⟨rfl, rfl⟩
  | resume =>
    refine ⟨_, rfl, ?_⟩
    unfold synthRequestResume
    split
    · next hs =>
      split_ifs
      · exact .dispatched s.properties _ ⟨rfl, rfl⟩ (by simp [hs])
      · exact .answered _ ⟨rfl, rfl⟩
    · exact .answered _ ⟨rfl, rfl⟩
  | bargeInOccurred =>
    refine ⟨_, rfl, ?_⟩
    unfold synthRequestBargeInOccurred
    split_ifs with hk
    · refine .dispatched s.properties _ ⟨rfl, rfl⟩ fun hn => ?_
      simp [hn] at hk
    · exact .answered _ ⟨rfl, rfl⟩
  | control =>
    refine ⟨_, rfl, ?_⟩
    unfold synthRequestControl
    split_ifs with h
    · refine .dispatched s.properties _ ⟨rfl, rfl⟩ fun hn => ?_
      simp [hp.2 hn] at h
    · exact .answered _ ⟨rfl, rfl⟩
  | defineLexicon =>
    refine ⟨_, rfl, ?_⟩
    unfold synthRequestDefineLexicon
    split_ifs
    · exact .dispatched s.properties _ ⟨rfl, rfl⟩ (by simp [isAnsweredAtOnce, stopsSpeak, hm])
    · exact .answered _ ⟨rfl, rfl⟩

variable {r : SynthHandled D}

theorem synthRequest_keeps (h : SynthGood s pending .nothing awaited) (hac : s.active)
    (ht : message.methodId.isSome) (hc : synthConditions.request s pending message)
    (hr : SynthRequested ops s message r) :
    r.pending = none ∧ SynthKeeps ops s pending (.response message) awaited r := by
  obtain ⟨hp, hat⟩ : s.isPending = false ∧ (pending = none ∨ isAnsweredAtOnce message) := by
    simpa [synthConditions] using hc
  cases hr with
  | dispatched properties sent ha hs =>
    -- no pending request is about to be processed
    have hn : pending = none := by
      by_contra hm
      obtain ⟨hf, -⟩ := hs (h.stage.idle_of_pending hm)
      simp [hf, hm] at hat
    subst hn
    obtain rfl := h.stage.of_quiet hp
    refine ⟨rfl, synthRequestDispatch_keeps ops (s := { s with properties := properties }) ⟨h.speaker, h.queue, h.stage⟩
      hac hp ha (ha.2 ▸ ht) fun hst hn => ?_⟩
    simp [(hs hn).2] at hst
  | answered response ha => exact ⟨rfl, synthAnswer_keeps ops h hac hp ha h.queue [] (by simp)⟩
  | queued queued response _ hk _ ha =>
    refine ⟨rfl, synthAnswer_keeps ops h hac hp ha ?_ _ (by simp [Output.isLogged])⟩
    exact forall_mem_append.2 ⟨h.queue, by simpa using hk⟩
  | removed response _ _ hrs =>
    refine ⟨rfl, synthAnswer_keeps ops h hac hp ?_ ?_ _ (isLogged_removePending _)⟩
    · rw [hrs]
      exact ⟨rfl, rfl⟩
    · exact fun pending hmm => h.queue pending (mem_filter.1 hmm).1

theorem synthRequestUpdate_requested (hs : s.state = .idle ↔ s.speaker = none)
    (h : message.methodId.isSome) :
    ∃ r, (synthStateMachine ops).requestUpdate s message = some r ∧ SynthRequested ops s message r := by
  obtain ⟨method, hm⟩ := Option.isSome_iff_exists.1 h
  have hu : (synthStateMachine ops).requestUpdate s message = synthRequestMethod ops method s message := by
    show methodUpdate (synthRequestMethod ops) s message = _
    simp [methodUpdate, hm]
  rw [hu]
  exact synthRequest_requested ops hm hs

/-! ## Responses -/

/-- What a response of the engine to the request that is waited for leads to. -/
inductive SynthResponded (s : SynthStateMachine D) (request message : Message SynthMethod D) : SynthHandled D → Prop
  | speak : request.methodId = some .speak → SynthResponded s request message (synthResponseSpeak ops request s message)
  | dispatched (response : Message SynthMethod D) : request.methodId ≠ some .speak → stopsSpeak request = false →
      Answers response message → SynthResponded s request message (synthResponseDispatch s response)
  | changed (state : SynthState) (response : Message SynthMethod D) : request.methodId ≠ some .speak →
      stopsSpeak request = false → state ≠ .idle → s.speaker ≠ none → Answers response message →
      SynthResponded s request message (synthResponseDispatch (synthStateChange s state) response)
  | stopped (response : Message SynthMethod D) : request.methodId = some .stop → s.speaker ≠ none →
      Answers response message → SynthResponded s request message
        { (synthResponseDispatch
            (synthStateChange { s with queue := (s.queue.filter (!selected request ·)).tail } .idle) response).precede
          ((s.queue.filter (selected request)).map .removePending) with
          pending := (s.queue.filter (!selected request ·)).head? }
  | bargedIn (response : Message SynthMethod D) : request.methodId = some .bargeInOccurred → s.speaker ≠ none →
      Answers response message → SynthResponded s request message
        ((synthResponseDispatch
            (synthStateChange { s with queue := s.queue.filter (!selected request ·) } .idle) response).precede
          ((s.queue.filter (selected request)).map .removePending))

variable {request : Message SynthMethod D}

theorem synthResponseUpdate_responded (hac : s.activeRequest = some request) (ha : Answers message request)
    (hsm : request.methodId.isSome) (ht : stopsSpeak request → s.speaker ≠ none)
    (hr : readsSpeaker message → s.speaker ≠ none) :
    ∃ r, (synthStateMachine ops).responseUpdate s message = some r ∧ SynthResponded ops s request message r := by
  obtain ⟨method, hm⟩ := Option.isSome_iff_exists.1 hsm
  have hg : message.methodId = some method := ha.2.trans hm
  have hu : (synthStateMachine ops).responseUpdate s message = synthResponseMethod ops method request s message := by
    show responseStateUpdate SynthStateMachine.activeRequest (synthResponseMethod ops) s message = _
    unfold responseStateUpdate methodUpdate
    simp [hac, ha.1, hg]
  rw [hu]
  have dispatched : method ≠ .speak → stopsSpeak request = false → ∀ response, Answers response message →
      SynthResponded ops s request message (synthResponseDispatch s response) := fun hp ht response hsa =>
    .dispatched response (by simpa [hm] using hp) ht hsa
  -- PAUSE and RESUME
  have listed : ∀ state, state ≠ .idle → method ≠ .speak → stopsSpeak request = false →
      (message.statusCode = statusCodeSuccess → readsSpeaker message) →
      ∃ r, synthResponseListed s message state = some r ∧ SynthResponded ops s request message r := by
    intro state h hp hf hc
    unfold synthResponseListed
    split_ifs with hsc
    · obtain ⟨speaker, hs⟩ := Option.ne_none_iff_exists'.1 (hr (hc hsc))
      rw [hs]
      exact ⟨_, rfl, .changed state _ (by simpa [hm] using hp) hf h (by simp [hs]) ⟨rfl, rfl⟩⟩
    · exact ⟨_, rfl, dispatched hp hf _ ⟨rfl, rfl⟩⟩
  cases method with
  | setParams => exact ⟨_, rfl, dispatched (by simp) (by simp [stopsSpeak, hm]) _ ⟨rfl, rfl⟩⟩
  | getParams => exact ⟨_, rfl, dispatched (by simp) (by simp [stopsSpeak, hm]) _ ⟨rfl, rfl⟩⟩
  | speak => exact ⟨_, rfl, .speak hm⟩
  | stop =>
    obtain ⟨speaker, hs⟩ := Option.ne_none_iff_exists'.1 (ht (by simp [stopsSpeak, hm]))
    refine ⟨_, ?_, .stopped (pendingRequestsRemove s.queue request (activeRequestList message speaker)).response hm
      (by simp [hs]) ⟨rfl, rfl⟩⟩
    simp only [synthResponseMethod, synthResponseStop, hs]
    rfl
  | pause =>
    exact listed .paused (by simp) (by simp) (by simp [stopsSpeak, hm])
      fun hc => by simp [readsSpeaker, hg, hc]
  | resume =>
    exact listed .speaking (by simp) (by simp) (by simp [stopsSpeak, hm])
      fun hc => by simp [readsSpeaker, hg, hc]
  | bargeInOccurred =>
    obtain ⟨speaker, hs⟩ := Option.ne_none_iff_exists'.1 (ht (by simp [stopsSpeak, hm]))
    refine ⟨_, ?_, .bargedIn (pendingRequestsRemove s.queue request (activeRequestList message speaker)).response hm
      (by simp [hs]) ⟨rfl, rfl⟩⟩
    simp only [synthResponseMethod, synthResponseBargeInOccurred, hs]
    rfl
  | control =>
    obtain ⟨speaker, hs⟩ := Option.ne_none_iff_exists'.1 (hr (by simp [readsSpeaker, hg]))
    refine ⟨_, ?_, dispatched (by simp) (by simp [stopsSpeak, hm]) (activeRequestList message speaker) ⟨rfl, rfl⟩⟩
    simp only [synthResponseMethod, synthResponseControl, hs]
    rfl
  | defineLexicon => exact ⟨_, rfl, dispatched (by simp) (by simp [stopsSpeak, hm]) _ ⟨rfl, rfl⟩⟩

def speakResponded (s : SynthStateMachine D) (request message : Message SynthMethod D) : SynthStateMachine D :=
  if message.requestState = .inProgress then synthStateChange { s with speaker := some request } .speaking else s

theorem synthResponseSpeak_popped (hp : s.isPending) :
    synthResponseSpeak ops request s message =
      synthEventDispatch { speakResponded s request message with isPending := false } (speechMarkerCreate ops request) := by
  have hs : (speakResponded s request message).isPending := by
    unfold speakResponded
    split_ifs <;> exact hp
  exact if_pos hs

theorem synthResponseSpeak_direct (hp : s.isPending = false) :
    synthResponseSpeak ops request s message = synthResponseDispatch (speakResponded s request message) message := by
  have hs : (speakResponded s request message).isPending ≠ true := by
    unfold speakResponded
    split_ifs <;> simp [synthStateChange, hp]
  exact if_neg hs

theorem speakResponded_same (s : SynthStateMachine D) (request message : Message SynthMethod D) :
    (speakResponded s request message).isPending = s.isPending ∧ (speakResponded s request message).queue = s.queue ∧
      (speakResponded s request message).active = s.active ∧
      (speakResponded s request message).activeRequest = s.activeRequest := by
  unfold speakResponded
  split_ifs <;> exact ⟨rfl, rfl, rfl, rfl⟩

theorem speakResponded_speaker (h : s.state = .idle ↔ s.speaker = none) (request message : Message SynthMethod D) :
    (speakResponded s request message).state = .idle ↔ (speakResponded s request message).speaker = none := by
  unfold speakResponded
  split_ifs
  · simp [synthStateChange]
  · exact h

theorem synthEventDispatch_owes (s : SynthStateMachine D) (owes : Owes SynthMethod D) (message : Message SynthEvent D)
    (out : List (Output SynthMethod SynthEvent D)) :
    owesAfter owes ((synthEventDispatch s message).out ++ out) = owesAfter owes out ∧
      engineRequests ((synthEventDispatch s message).out ++ out) = engineRequests out := by
  unfold synthEventDispatch
  cases s.active <;> cases owes <;> exact ⟨rfl, rfl⟩

variable {owes : Owes SynthMethod D}

theorem synthResponse_keeps (h : SynthGood s none owes awaited)
    (hf : awaited.find? (fun request => Answers message request) = some request)
    (hr : SynthResponded ops s request message r) :
    SynthKeeps ops s r.pending owes (awaited.eraseP fun request => Answers message request) r := by
  obtain ⟨-, -, her, hcs⟩ := h.stage.found hf
  obtain ⟨hsp, hq, -⟩ := h
  rw [her]
  rcases hcs with ⟨rfl, hp, hs, hn⟩ | ⟨hp, ht, -⟩
  · cases hr with
    | speak =>
      rw [synthResponseSpeak_popped ops hp]
      obtain ⟨-, hsa, hc, -⟩ := speakResponded_same s request message
      have he := synthEventDispatch_owes { speakResponded s request message with isPending := false } .nothing
        (speechMarkerCreate ops request) []
      rw [append_nil] at he
      refine ⟨.nothing, he.1, ⟨speakResponded_speaker hsp request message, hsa ▸ hq, ?_⟩, hc⟩
      rw [he.2]
      exact .quiet rfl
    | dispatched _ hne => exact absurd hs hne
    | changed _ _ hne => exact absurd hs hne
    | stopped _ hst => simp [hs] at hst
    | bargedIn _ hst => simp [hs] at hst
  · cases hr with
    | speak =>
      rw [synthResponseSpeak_direct ops hp]
      obtain ⟨hsm, hsa, hc, -⟩ := speakResponded_same s request message
      exact synthResponseDispatch_keeps ops _ owes message (speakResponded_speaker hsp request message)
        (hsa ▸ hq) (hsm.trans hp) hc (hc ▸ ht) (by rintro request ⟨⟩) [] (by simp) none
    | dispatched response _ _ ha =>
      exact synthResponseDispatch_keeps ops s owes response hsp hq hp rfl (ht.of_answers ha)
        (by rintro request ⟨⟩) [] (by simp) none
    | changed state response _ _ hsta hso ha =>
      refine synthResponseDispatch_keeps ops (synthStateChange s state) owes response ?_ hq hp rfl
        (ht.of_answers ha) ?_ [] (by simp) none
      · simp [synthStateChange, hsta, hso]
      · rintro request ⟨⟩
    | stopped response _ _ ha =>
      refine synthResponseDispatch_keeps ops
        (synthStateChange { s with queue := (s.queue.filter (!selected request ·)).tail } .idle) owes response ?_ ?_ hp
        rfl (ht.of_answers ha) ?_ _ (isLogged_removePending _) _
      · simp [synthStateChange]
      · exact fun pending hm => hq pending (mem_filter.1 (mem_of_mem_tail hm)).1
      · exact fun pending hm => ⟨hq pending (mem_filter.1 (mem_of_mem_head? hm)).1, rfl⟩
    | bargedIn response _ _ ha =>
      refine synthResponseDispatch_keeps ops
        (synthStateChange { s with queue := s.queue.filter (!selected request ·) } .idle) owes response ?_ ?_ hp rfl
        (ht.of_answers ha) ?_ _ (isLogged_removePending _) none
      · simp [synthStateChange]
      · exact fun pending hm => hq pending (mem_filter.1 hm).1
      · rintro request ⟨⟩

theorem synthResponseUpdate_keeps (h : SynthGood s none owes awaited) (hc : synthConditions.response s message)
    (hf : awaited.find? (fun request => Answers message request) = some request) :
    ∃ r, (synthStateMachine ops).responseUpdate s message = some r ∧ SynthResponded ops s request message r := by
  obtain ⟨ha, hn, -, hcs⟩ := h.stage.found hf
  have hr : readsSpeaker message → s.speaker ≠ none := by
    intro hr hnn
    simp [synthConditions, hr, hnn] at hc
  apply synthResponseUpdate_responded ops ha hn ?_ ?_ hr
  · rcases hcs with ⟨-, -, hs, -⟩ | ⟨-, -, hm, -⟩
    · simp [hs]
    · exact hm
  · rcases hcs with ⟨-, -, hs, -⟩ | ⟨-, -, -, -, ht⟩
    · simp [stopsSpeak, hs]
    · exact ht

/-! ## Events -/

theorem SynthGood.completed {message : Message SynthEvent D} (h : SynthGood s none owes awaited)
    (hc : completesSpeak s message) : s.isPending = false ∧
      (owes = .nothing ∧ awaited = [] ∨ owes.request.isSome ∧
        SynthStage (synthStateChange s .idle) none owes awaited) := by
  obtain ⟨-, ho, hs⟩ : message.methodId = some .speakComplete ∧ isOfSpeaker s message ∧
      isStopAwaited s = false := by simpa [completesSpeak, acceptsSpeakComplete] using hc
  apply h.stage.completed
  · intro hn
    simp [isOfSpeaker, hn] at ho
  · intro request ha
    have ha : s.activeRequest = some request := ha
    have hf : stopsSpeak request = false := by simpa [isStopAwaited, stopsSpeak, ha] using hs
    exact ⟨hf, fun hm => by simp [stopsSpeak, hm] at hf⟩

inductive SynthEvented (s : SynthStateMachine D) (message : Message SynthEvent D) : SynthHandled D → Prop
  | refused (status : Bool) : completesSpeak s message = false → SynthEvented s message ⟨s, [], none, status⟩
  | dispatched (sent : Message SynthEvent D) : completesSpeak s message = false →
      SynthEvented s message (synthEventDispatch s sent)
  /-- It completes the in-progress SPEAK request, and no other is pending. -/
  | completed (sent : Message SynthEvent D) : completesSpeak s message → s.queue = [] →
      SynthEvented s message ⟨synthStateChange s .idle, (synthEventDispatch s sent).out, none, true⟩
  /-- It completes the in-progress SPEAK request, and the next one is processed. -/
  | processed (sent : Message SynthEvent D) (pending : Message SynthMethod D) (queue : List (Message SynthMethod D)) :
      completesSpeak s message → s.queue = pending :: queue →
      SynthEvented s message ⟨synthPendingProcess { synthStateChange s .idle with queue := queue } pending,
        (synthEventDispatch s sent).out ++ [.processPending pending, .request pending], none, true⟩

theorem synthEventUpdate_evented (s : SynthStateMachine D) (message : Message SynthEvent D) :
    ∃ r, (synthStateMachine ops).eventUpdate s message = some r ∧ SynthEvented s message r := by
  show ∃ r, methodUpdate (synthEventMethod ops) s message = some r ∧ _
  unfold methodUpdate
  cases hm : message.methodId with
  | none => exact ⟨_, rfl, .refused _ (by simp [completesSpeak, hm])⟩
  | some method =>
    cases method with
    | speechMarker =>
      refine ⟨_, rfl, ?_⟩
      unfold synthEventSpeechMarker
      split_ifs
      · exact .dispatched _ (by simp [completesSpeak, hm])
      · exact .refused _ (by simp [completesSpeak, hm])
    | speakComplete =>
      refine ⟨_, rfl, ?_⟩
      unfold synthEventSpeakComplete
      split_ifs with ha
      · have hc : completesSpeak s message = true := by simp [completesSpeak, hm, ha]
        dsimp only
        split
        · next hq => exact .completed _ hc hq
        · next hq => exact .processed _ _ _ hc hq
      · exact .refused _ (by simp [completesSpeak, ha])

theorem synthEvent_keeps {message : Message SynthEvent D} (h : SynthGood s none owes awaited)
    (hc : synthConditions.event s owes.request.isSome message) (hr : SynthEvented s message r) :
    r.pending = none ∧ SynthKeeps ops s none owes awaited r := by
  cases hr with
  | refused => exact ⟨rfl, owes, rfl, by simpa using h, rfl⟩
  | dispatched sent =>
    have he := synthEventDispatch_owes s owes sent []
    rw [append_nil] at he
    refine ⟨rfl, owes, he.1, ?_, rfl⟩
    rw [he.2, engineRequests_nil, append_nil]
    exact h
  | completed sent hm hq =>
    have he := synthEventDispatch_owes s owes sent []
    rw [append_nil] at he
    obtain ⟨hp, hs⟩ := h.completed hm
    refine ⟨rfl, owes, he.1, ⟨by simp [synthStateChange], h.queue, ?_⟩, rfl⟩
    simp only [he.2, engineRequests_nil, append_nil]
    rcases hs with ⟨rfl, rfl⟩ | ⟨-, ht⟩
    · exact .quiet hp
    · exact ht
  | processed sent pending queue hm hq =>
    obtain ⟨-, hs⟩ := h.completed hm
    rcases hs with ⟨rfl, rfl⟩ | ⟨hw, -⟩
    · have he := synthEventDispatch_owes s .nothing sent [.processPending pending, .request pending]
      have hmm := forall_mem_cons.1 (hq ▸ h.queue)
      refine ⟨rfl, .nothing, he.1, ⟨by simp [synthStateChange, synthPendingProcess], hmm.2, ?_⟩, rfl⟩
      simp only [he.2]
      exact .popped hmm.1 rfl rfl (by simp [synthStateChange, synthPendingProcess])
    · simp [synthConditions, hw, hm, hq] at hc

/-! ## The contract -/

theorem synthStateDeactivate_keeps (h : SynthGood s pending .nothing awaited) :
    ∃ r, synthStateDeactivate s = some r ∧ r.pending = none ∧ ∃ owes',
      owesAfter (if r.status then .deactivation else .nothing) r.out = some owes' ∧
        SynthGood r.machine pending owes' (awaited ++ engineRequests r.out) := by
  obtain ⟨hsp, hq, ht⟩ := h
  unfold synthStateDeactivate
  cases hs : s.speaker with
  | none =>
    have ht' : SynthStage { s with active := false, speaker := none } pending .nothing awaited := by
      cases ht with
      | quiet hp => exact .quiet hp
      | processing hk hp => exact .processing hk hp rfl
      | popped hk hp ha => exact .popped hk hp ha rfl
    exact ⟨_, rfl, rfl, .nothing, rfl, by simpa [hs] using hsp, hq, by simpa using ht'⟩
  | some speaker =>
    cases ht with
    | quiet hp =>
      refine ⟨_, rfl, rfl, .deactivation, rfl, ⟨?_, hq, .deactivating rfl hp rfl rfl (Option.some_ne_none _)⟩⟩
      simpa [synthRequestDispatch, hs] using hsp
    | processing _ _ hn => simp [hs] at hn
    | popped _ _ _ hn => simp [hs] at hn

def synthContract : Contract (synthStateMachine ops) synthConditions where
  good := SynthGood
  create := ⟨⟨by simp [synthStateMachine, synthStateMachineCreate], by simp [synthStateMachine, synthStateMachineCreate],
    .quiet rfl⟩, rfl⟩
  awaits := fun h => h.stage.awaits
  request := fun h hactive hsome hc => by
    obtain ⟨r, hr, hrqd⟩ := synthRequestUpdate_requested ops h.speaker hsome
    exact ⟨r, hr, synthRequest_keeps ops h hactive hsome hc hrqd⟩
  response := fun h hc hfind => by
    obtain ⟨r, hr, hresponded⟩ := synthResponseUpdate_keeps ops h hc hfind
    exact ⟨r, hr, synthResponse_keeps ops h hfind hresponded⟩
  event := fun {s _ _ message} h hc => by
    obtain ⟨r, hr, hevented⟩ := synthEventUpdate_evented ops s message
    exact ⟨r, hr, synthEvent_keeps ops h hc hevented⟩
  deactivate := synthStateDeactivate_keeps
  proceed := fun {s message owes awaited} h => by
    obtain ⟨hspeaker, hqueue, hstage⟩ := h
    cases hstage with
    | processing hspeak _ hnone => exact ⟨⟨hspeaker, hqueue, .popped hspeak rfl rfl hnone⟩, rfl⟩

/-- **Every request of the client is answered once**: in every run whose steps meet the conditions, the responses are
to the requests of the client in order, and no request is left when the engine has responded to all it was sent. -/
theorem synth_answers {inputs : List (Input SynthMethod SynthEvent D)}
    (h : Legal (synthStateMachine ops) synthConditions inputs) : AnsweredOnce (synthStateMachine ops) inputs :=
  (synthContract ops).run_answeredOnce h

/-- Two SPEAK requests, the second of which is taken from the queue, and STOP. -/
def speakTwice : List (Input SynthMethod SynthEvent Unit) :=
  [.client (plainRequest 1 .speak), .response (plainMessage 1 .speak .inProgress 200), .pop,
    .client (plainRequest 2 .speak), .pop, .event (plainMessage 1 .speakComplete .complete 0),
    .response (plainMessage 2 .speak .inProgress 200), .client (plainRequest 3 .stop),
    .response (plainMessage 3 .stop .complete 200), .pop]

/-- Each of the three requests is answered. -/
theorem synth_answers_speakTwice : AnsweredOnce (synthStateMachine plainHeaderOps) speakTwice :=
  synth_answers plainHeaderOps (by decide +kernel)

/-- PAUSE is answered at once while the SPEAK request from the queue waits for its response, and another SPEAK request
follows. -/
def speakDropped : List (Input SynthMethod SynthEvent Unit) :=
  [.client (plainRequest 1 .speak), .response (plainMessage 1 .speak .inProgress 200), .pop,
    .client (plainRequest 2 .speak), .pop, .event (plainMessage 1 .speakComplete .complete 0),
    .client (plainRequest 3 .pause), .pop, .response (plainMessage 2 .speak .inProgress 200),
    .client (plainRequest 4 .speak), .response (plainMessage 4 .speak .inProgress 200)]

/-- The response to the last SPEAK request is taken for that of the one from the queue, and the client has none. -/
theorem synth_speakDropped : Legal (synthStateMachine plainHeaderOps) Conditions.none speakDropped ∧
    ¬ AnsweredOnce (synthStateMachine plainHeaderOps) speakDropped :=
  ⟨by decide +kernel, not_answeredOnce (by decide +kernel) (by decide +kernel)⟩

end UniMrcp.MrcpEngine
