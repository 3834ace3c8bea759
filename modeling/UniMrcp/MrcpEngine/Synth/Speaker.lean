import UniMrcp.MrcpEngine.Synth.Contract

/-!
# The speaker of the synthesizer

The speaker is the SPEAK request that the engine has accepted last, until it is completed or stopped.
-/

namespace UniMrcp.MrcpEngine

open Lib Mrcp

variable {D : Type}

/-- The SPEAK request in progress, and whether a request that stops it is on its way: then SPEAK-COMPLETE is ignored. -/
structure SpeakerWatch (D : Type) where
  speaker : Option (Message SynthMethod D) := none
  stopping : Bool := false

def acceptsSpeak (request response : Message SynthMethod D) : Bool :=
  request.methodId == some .speak && response.requestState == .inProgress

def SpeakerWatch.completes (l : SpeakerWatch D) (message : Message SynthEvent D) : Bool :=
  message.methodId == some .speakComplete &&
    (l.speaker.any fun speaker => speaker.requestId == message.requestId) && !l.stopping

def watchSpeaker (l : SpeakerWatch D) : Trace SynthMethod SynthEvent D → SpeakerWatch D × Unit
  | .engineResponse request response =>
    (⟨if acceptsSpeak request response then some request else if stopsSpeak request then none else l.speaker, false⟩, ())
  | .engineEvent message => ({ l with speaker := if l.completes message then none else l.speaker }, ())
  | .out (.request message) => ({ l with stopping := stopsSpeak message }, ())
  | .out (.response _) => ({ l with stopping := false }, ())
  | _ => (l, ())

def speakerOf (trace : List (Trace SynthMethod SynthEvent D)) : Option (Message SynthMethod D) :=
  (run watchSpeaker {} trace).1.speaker

theorem watchSpeaker_logged (output : Output SynthMethod SynthEvent D) (h : output.isLogged)
    (l : SpeakerWatch D) : (watchSpeaker l (.out output)).1 = l := by
  cases output <;> simp_all [Output.isLogged, watchSpeaker]

/-! ## The speaker of the synthesizer -/

def SameSpeaker (s : SynthStateMachine D) (l : SpeakerWatch D) : Prop :=
  s.speaker = l.speaker ∧ isStopAwaited s = l.stopping

variable {l : SpeakerWatch D}

theorem sameSpeaker_responseDispatch (s : SynthStateMachine D) (message : Message SynthMethod D)
    (first : List (Output SynthMethod SynthEvent D)) (hf : ∀ output ∈ first, output.isLogged)
    (hs : s.speaker = l.speaker) (ht : s.active = false → l.stopping = false) :
    SameSpeaker ((synthResponseDispatch s message).precede first).machine
      (run watchSpeaker l (((synthResponseDispatch s message).precede first).out.map .out)).1 := by
  unfold Handled.precede
  rw [run_logged watchSpeaker_logged hf]
  unfold synthResponseDispatch
  cases ha : s.active with
  | true => exact ⟨hs, rfl⟩
  | false => exact ⟨hs, (ht ha).symm⟩

theorem sameSpeaker_requestDispatch (s : SynthStateMachine D) (message : Message SynthMethod D)
    (hs : s.speaker = l.speaker) :
    SameSpeaker (synthRequestDispatch s message).machine
      (run watchSpeaker l ((synthRequestDispatch s message).out.map .out)).1 := by
  refine ⟨hs, ?_⟩
  simp [synthRequestDispatch, watchSpeaker, isStopAwaited, stopsSpeak]

theorem run_watchSpeaker_event (s : SynthStateMachine D) (l : SpeakerWatch D) (message : Message SynthEvent D)
    (out : List (Output SynthMethod SynthEvent D)) :
    (run watchSpeaker l (((synthEventDispatch s message).out ++ out).map .out)).1 =
      (run watchSpeaker l (out.map .out)).1 := by
  unfold synthEventDispatch
  cases s.active <;> rfl

variable (ops : HeaderOps D)

variable {s : SynthStateMachine D} {r : SynthHandled D}

variable {message : Message SynthMethod D}

theorem sameSpeaker_request (h : SameSpeaker s l) (ha : s.active) (hr : SynthRequested ops s message r) :
    SameSpeaker r.machine (run watchSpeaker l (r.out.map .out)).1 := by
  have hi : s.active = false → l.stopping = false := fun hf => by simp [ha] at hf
  cases hr with
  | dispatched properties sent => exact sameSpeaker_requestDispatch { s with properties := properties } sent h.1
  | answered response => exact sameSpeaker_responseDispatch s response [] (by simp) h.1 hi
  | queued queued response =>
    exact sameSpeaker_responseDispatch { s with queue := s.queue ++ [queued] } response _ (by simp [Output.isLogged]) h.1
      hi
  | removed response =>
    exact sameSpeaker_responseDispatch { s with queue := s.queue.filter (!selected message ·) } response
      _ (isLogged_removePending _) h.1 hi

variable {request : Message SynthMethod D}

theorem speakResponded_accepted (h : s.speaker = l.speaker) (hs : request.methodId = some .speak)
    (message : Message SynthMethod D) :
    (speakResponded s request message).speaker =
      (watchSpeaker l (.engineResponse request message)).1.speaker := by
  have hp : stopsSpeak request = false := by simp [stopsSpeak, hs]
  unfold speakResponded
  by_cases ht : message.requestState = .inProgress
  · simp [watchSpeaker, acceptsSpeak, hs, ht, synthStateChange]
  · simp [watchSpeaker, acceptsSpeak, hs, ht, hp, h]

theorem sameSpeaker_response {owes : Owes SynthMethod D} {awaited : List (Message SynthMethod D)}
    (h : SameSpeaker s l) (hg : SynthGood s none owes awaited)
    (hf : awaited.find? (fun request => Answers message request) = some request)
    (hr : SynthResponded ops s request message r) :
    SameSpeaker r.machine (run watchSpeaker (watchSpeaker l (.engineResponse request message)).1 (r.out.map .out)).1 := by
  obtain ⟨hc, -, -, hcs⟩ := hg.stage.found hf
  -- a request that neither is SPEAK nor stops it leaves the speaker as it is
  have same : request.methodId ≠ some .speak → stopsSpeak request = false →
      s.speaker = (watchSpeaker l (.engineResponse request message)).1.speaker := by
    intro hs ht
    simp [watchSpeaker, acceptsSpeak, hs, ht, h.1]
  have stopped : stopsSpeak request → (watchSpeaker l (.engineResponse request message)).1.speaker = none := by
    intro ht
    have hs : request.methodId ≠ some .speak := by
      intro hs
      simp [stopsSpeak, hs] at ht
    simp [watchSpeaker, acceptsSpeak, hs, ht]
  cases hr with
  | speak hs =>
    have ha := speakResponded_accepted h.1 hs message
    obtain ⟨-, -, -, hm⟩ := speakResponded_same s request message
    rcases hcs with ⟨-, hp, -⟩ | ⟨hp, -⟩
    · rw [synthResponseSpeak_popped ops hp]
      have he := run_watchSpeaker_event { speakResponded s request message with isPending := false }
        (watchSpeaker l (.engineResponse request message)).1 (speechMarkerCreate ops request) []
      rw [List.append_nil] at he
      rw [he]
      refine ⟨ha, ?_⟩
      simp [isStopAwaited, synthEventDispatch, hm, hc, hs, watchSpeaker]
    · rw [synthResponseSpeak_direct ops hp]
      exact sameSpeaker_responseDispatch _ message [] (by simp) ha fun _ => rfl
  | dispatched response hs ht =>
    exact sameSpeaker_responseDispatch s response [] (by simp) (same hs ht) fun _ => rfl
  | changed state response hs ht hst =>
    refine sameSpeaker_responseDispatch (synthStateChange s state) response [] (by simp) ?_ fun _ => rfl
    rw [← same hs ht]
    simp [synthStateChange, hst]
  | stopped response ht =>
    refine sameSpeaker_responseDispatch
      (synthStateChange { s with queue := (s.queue.filter (!selected request ·)).tail } .idle) response
      _ (isLogged_removePending _) ?_ fun _ => rfl
    rw [stopped (by simp [stopsSpeak, ht])]
    simp [synthStateChange]
  | bargedIn response ht =>
    refine sameSpeaker_responseDispatch
      (synthStateChange { s with queue := s.queue.filter (!selected request ·) } .idle) response
      _ (isLogged_removePending _) ?_ fun _ => rfl
    rw [stopped (by simp [stopsSpeak, ht])]
    simp [synthStateChange]

theorem SameSpeaker.completes (h : SameSpeaker s l) (message : Message SynthEvent D) :
    l.completes message = completesSpeak s message := by
  unfold SpeakerWatch.completes completesSpeak acceptsSpeakComplete isOfSpeaker
  rw [← h.1, ← h.2, Bool.and_assoc]

theorem sameSpeaker_event {message : Message SynthEvent D} (h : SameSpeaker s l) (hr : SynthEvented s message r) :
    SameSpeaker r.machine (run watchSpeaker (watchSpeaker l (.engineEvent message)).1 (r.out.map .out)).1 := by
  have same : completesSpeak s message = false → (watchSpeaker l (.engineEvent message)).1 = l := by
    intro hf
    simp [watchSpeaker, h.completes, hf]
  have completed : completesSpeak s message →
      (watchSpeaker l (.engineEvent message)).1 = ⟨none, l.stopping⟩ := by
    intro ht
    simp [watchSpeaker, h.completes, ht]
  cases hr with
  | refused status hf =>
    rw [same hf]
    exact h
  | dispatched sent hf =>
    have he := run_watchSpeaker_event s l sent []
    rw [List.append_nil] at he
    rw [same hf, he]
    exact h
  | completed sent ht =>
    have he := run_watchSpeaker_event s ⟨none, l.stopping⟩ sent []
    rw [List.append_nil] at he
    rw [completed ht]
    simp only [he]
    exact ⟨by simp [synthStateChange], h.2⟩
  | processed sent pending queue ht =>
    have he := run_watchSpeaker_event s ⟨none, l.stopping⟩ sent [.processPending pending, .request pending]
    rw [completed ht]
    simp only [he]
    refine ⟨by simp [synthStateChange, synthPendingProcess, watchSpeaker], ?_⟩
    simp [watchSpeaker, synthPendingProcess, isStopAwaited, stopsSpeak]

def synthSpeakerWatched : Watched (synthContract ops) watchSpeaker fun _ _ => True where
  rel s _ l := SameSpeaker s l
  request := fun hgood hactive hsome _ hr hrel => by
    obtain ⟨r', hr', hrqd⟩ := synthRequestUpdate_requested ops (SynthGood.speaker hgood) hsome
    obtain rfl := Option.some.inj (hr.symm.trans hr')
    exact shown_of_related (sameSpeaker_request ops hrel hactive hrqd)
  response := fun hgood hc hfind hr hrel => by
    obtain ⟨r', hr', hresponded⟩ := synthResponseUpdate_keeps ops hgood hc hfind
    obtain rfl := Option.some.inj (hr.symm.trans hr')
    exact shown_of_related (sameSpeaker_response ops hrel hgood hfind hresponded)
  event := fun {s _ _ message _ _} _ _ hr hrel => by
    obtain ⟨r', hr', hevented⟩ := synthEventUpdate_evented ops s message
    obtain rfl := Option.some.inj (hr.symm.trans hr')
    exact shown_of_related (sameSpeaker_event hrel hevented)
  deactivate := fun {s _ _ r l} _ hr hrel => by
    apply shown_of_related
    have hr : synthStateDeactivate s = some r := hr
    unfold synthStateDeactivate at hr
    dsimp only at hr
    split at hr
    · obtain rfl := Option.some.inj hr
      exact hrel
    · obtain rfl := Option.some.inj hr
      exact sameSpeaker_requestDispatch { s with active := false } _ hrel.1
  proceed := fun {s message _ _ l} _ hrel => by
    apply shown_of_related
    refine ⟨hrel.1, ?_⟩
    simp [watchSpeaker, isStopAwaited, stopsSpeak, synthStateMachine, synthPendingProcess]

/-- **The speaker is the SPEAK request that was accepted last and has not been completed or stopped**: in every run
whose steps meet the conditions, a new synthesizer is speaking or paused just when it has a speaker, which is the one of
the trace, and no handler has read through a null speaker. -/
theorem synth_speaker {inputs : List (Input SynthMethod SynthEvent D)}
    (h : Legal (synthStateMachine ops) synthConditions inputs) :
    (sessionAfter (synthStateMachine ops) inputs).nullRead = false ∧
      ((sessionAfter (synthStateMachine ops) inputs).machine.state ≠ .idle ↔
        (sessionAfter (synthStateMachine ops) inputs).machine.speaker ≠ none) ∧
      (sessionAfter (synthStateMachine ops) inputs).machine.speaker =
        speakerOf (traceOf (synthStateMachine ops) inputs) := by
  have hshown := (synthSpeakerWatched ops).run_shown (l := {}) ⟨rfl, rfl⟩ h
  obtain ⟨⟨⟨hsound, hgood, -⟩, hsame⟩, -⟩ := hshown
  exact ⟨hsound.notNull, not_congr (SynthGood.speaker hgood), hsame.1⟩

/-- Both SPEAK requests are spoken, and the second one is stopped. -/
theorem synth_speaker_speakTwice :
    (sessionAfter (synthStateMachine plainHeaderOps) speakTwice).nullRead = false ∧
      ((sessionAfter (synthStateMachine plainHeaderOps) speakTwice).machine.state ≠ .idle ↔
        (sessionAfter (synthStateMachine plainHeaderOps) speakTwice).machine.speaker ≠ none) ∧
      (sessionAfter (synthStateMachine plainHeaderOps) speakTwice).machine.speaker =
        speakerOf (traceOf (synthStateMachine plainHeaderOps) speakTwice) :=
  synth_speaker plainHeaderOps (by decide +kernel)

def pauseCompleted : List (Input SynthMethod SynthEvent Unit) :=
  [.client (plainRequest 1 .speak), .response (plainMessage 1 .speak .inProgress 200), .pop,
    .client (plainRequest 2 .pause), .event (plainMessage 1 .speakComplete .complete 0),
    .response (plainMessage 2 .pause .complete 200)]

/-- The handler of the response to PAUSE reads the request-id of a null speaker. -/
theorem synth_pauseCompleted : Legal (synthStateMachine plainHeaderOps) Conditions.none pauseCompleted ∧
    (sessionAfter (synthStateMachine plainHeaderOps) pauseCompleted).nullRead = true := by
  decide +kernel

end UniMrcp.MrcpEngine
