import UniMrcp.MrcpEngine.PendingQueue
import UniMrcp.MrcpEngine.Verifier

/-!
# The verifier answers each request once
-/

namespace UniMrcp.MrcpEngine

open Lib Mrcp

variable {D : Type}

def startsVerification (method : VerifierMethod) : Bool := method == .verify || method == .verifyFromBuffer

def stopsVerify (request : Message VerifierMethod D) : Bool := request.methodId == some .stop

abbrev VerifierStage (s : VerifierStateMachine D) : Owes VerifierMethod D → List (Message VerifierMethod D) → Prop :=
  QueueStage .verify .stop stopsVerify s.active false s.activeRequest (s.state ≠ .verifying) none

structure VerifierGood (s : VerifierStateMachine D) (pending : Option (Message VerifierMethod D))
    (owes : Owes VerifierMethod D) (awaited : List (Message VerifierMethod D)) : Prop where
  verify : s.state = .verifying → s.verify ≠ none
  /-- A VERIFY request that waits for its response is the last one, and the session is open. -/
  verifySent : ∀ request ∈ s.activeRequest, request.methodId.any startsVerification →
    s.state = .opened ∧ s.verify = some request
  sessionSent : ∀ request ∈ s.activeRequest, request.methodId = some .startSession → s.state ≠ .verifying
  deactivated : s.active = false → s.state = .verifying → isVerifyStopAwaited s
  pending : pending = none
  stage : VerifierStage s owes awaited

variable (ops : HeaderOps D)

abbrev VerifierKeeps (s : VerifierStateMachine D) (owes : Owes VerifierMethod D)
    (awaited : List (Message VerifierMethod D)) (r : VerifierHandled D) : Prop :=
  Keeps (verifierStateMachine ops) VerifierGood s none owes awaited r

variable {s : VerifierStateMachine D}

variable (s' : VerifierStateMachine D)

theorem verifierResponseDispatch_keeps (owes : Owes VerifierMethod D) (message : Message VerifierMethod D)
    (hv : s'.state = .verifying → s'.verify ≠ none) (hd : s'.active = false → s'.state ≠ .verifying)
    (ha : s'.active = s.active) (ht : Settles s'.active message owes) :
    VerifierKeeps ops s owes [] (verifierResponseDispatch s' message) := by
  refine ⟨.nothing, owesAfter_settles ht, ⟨hv, ?_, ?_, ?_, rfl, ?_⟩, ha⟩
  · rintro request ⟨⟩
  · rintro request ⟨⟩
  · exact fun hf hs => absurd hs (hd hf)
  · have hn : engineRequests (verifierResponseDispatch s' message).out = [] := by
      unfold verifierResponseDispatch
      cases s'.active <;> rfl
    rw [hn]
    exact .quiet rfl

/-! ## Requests -/

inductive VerifierRequested (s : VerifierStateMachine D) (message : Message VerifierMethod D) : VerifierHandled D → Prop
  | dispatched (properties : MessageHeader D) : message.methodId.any startsVerification = false →
      (message.methodId = some .stop → s.state = .verifying) →
      (message.methodId = some .startSession → s.state ≠ .verifying) →
      VerifierRequested s message (verifierRequestDispatch { s with properties := properties } message)
  | verify : message.methodId.any startsVerification → s.state = .opened →
      VerifierRequested s message (verifierRequestDispatch { s with verify := some message } message)
  | answered (response : Message VerifierMethod D) : Answers response message →
      VerifierRequested s message (verifierResponseDispatch s response)

variable {message : Message VerifierMethod D}

theorem verifierRequestIf_requested (permitted : Bool) (hv : message.methodId.any startsVerification = false)
    (hs : message.methodId ≠ some .stop)
    (h : message.methodId = some .startSession → permitted → s.state ≠ .verifying) :
    VerifierRequested s message (verifierRequestIf ops permitted s message) := by
  unfold verifierRequestIf
  split_ifs with hp
  · exact .dispatched s.properties hv (fun hm => absurd hm hs) fun hm => h hm hp
  · exact .answered _ ⟨rfl, rfl⟩

theorem verifierRequestVerify_requested (s : VerifierStateMachine D)
    (hv : message.methodId.any startsVerification) :
    VerifierRequested s message (verifierRequestVerify ops s message) := by
  unfold verifierRequestVerify
  split_ifs with hs
  · exact .answered _ ⟨rfl, rfl⟩
  · refine .verify hv ?_
    cases ht : s.state <;> simp [ht] at hs ⊢

theorem verifierRequestUpdate_requested (s : VerifierStateMachine D) (h : message.methodId.isSome) :
    ∃ r, (verifierStateMachine ops).requestUpdate s message = some r ∧ VerifierRequested s message r := by
  obtain ⟨method, hm⟩ := Option.isSome_iff_exists.1 h
  have hu : (verifierStateMachine ops).requestUpdate s message = verifierRequestMethod ops method s message := by
    show methodUpdate (verifierRequestMethod ops) s message = _
    simp [methodUpdate, hm]
  rw [hu]
  have plain : ∀ permitted : Bool, startsVerification method = false → method ≠ .stop → method ≠ .startSession →
      VerifierRequested s message (verifierRequestIf ops permitted s message) := fun permitted hv ht hss =>
    verifierRequestIf_requested ops permitted (by simp [hm, hv]) (by simp [hm, ht])
      (by simp [hm, hss])
  cases method with
  | startSession =>
    refine ⟨_, rfl, verifierRequestIf_requested ops _ (by simp [hm, startsVerification]) (by simp [hm]) ?_⟩
    simp
  | verify => exact ⟨_, rfl, verifierRequestVerify_requested ops s (by simp [hm, startsVerification])⟩
  | verifyFromBuffer => exact ⟨_, rfl, verifierRequestVerify_requested ops s (by simp [hm, startsVerification])⟩
  | stop =>
    refine ⟨_, rfl, ?_⟩
    unfold verifierRequestStop
    split
    · exact .answered _ ⟨rfl, rfl⟩
    · exact .answered _ ⟨rfl, rfl⟩
    · next hs => exact .dispatched s.properties (by simp [hm, startsVerification]) (fun _ => hs) (by simp [hm])
  | endSession => exact ⟨_, rfl, plain _ rfl (by simp) (by simp)⟩
  | queryVoiceprint => exact ⟨_, rfl, plain _ rfl (by simp) (by simp)⟩
  | deleteVoiceprint => exact ⟨_, rfl, plain _ rfl (by simp) (by simp)⟩
  | startInputTimers => exact ⟨_, rfl, plain _ rfl (by simp) (by simp)⟩
  | getIntermidiateResult => exact ⟨_, rfl, plain _ rfl (by simp) (by simp)⟩
  | setParams =>
    exact ⟨_, rfl, .dispatched _ (by simp [hm, startsVerification]) (by simp [hm]) (by simp [hm])⟩
  | _ =>
    exact ⟨_, rfl, .dispatched s.properties (by simp [hm, startsVerification]) (by simp [hm])
      (by simp [hm])⟩

variable {awaited : List (Message VerifierMethod D)}

theorem verifierRequest_keeps (h : VerifierGood s none .nothing awaited) (ha : s.active)
    (hm : message.methodId.isSome) {r : VerifierHandled D} (hr : VerifierRequested s message r) :
    r.pending = none ∧ VerifierKeeps ops s (.response message) awaited r := by
  obtain rfl := h.stage.of_quiet rfl
  cases hr with
  | dispatched properties hv ht hss =>
    refine ⟨rfl, .response message, rfl, ⟨h.verify, ?_, ?_, ?_, rfl, ?_⟩, rfl⟩
    · rintro request ⟨⟩ hst
      simp [hv] at hst
    · rintro request ⟨⟩
      exact hss
    · simp [verifierRequestDispatch, ha]
    · refine .awaiting ha rfl rfl ⟨rfl, rfl⟩ hm fun hs => not_not.2 (ht ?_)
      simpa [stopsVerify] using hs
  | verify hv hsta =>
    have ht : message.methodId ≠ some .stop := fun ht => by simp [ht, startsVerification] at hv
    have hss : message.methodId ≠ some .startSession := fun hs => by simp [hs, startsVerification] at hv
    refine ⟨rfl, .response message, rfl, ⟨by simp [verifierRequestDispatch], ?_, ?_, ?_, rfl, ?_⟩, rfl⟩
    · rintro request ⟨⟩ _
      exact ⟨hsta, rfl⟩
    · rintro request ⟨⟩ hs
      exact absurd hs hss
    · simp [verifierRequestDispatch, ha]
    · refine .awaiting ha rfl rfl ⟨rfl, rfl⟩ hm fun hs => ?_
      simp [stopsVerify, ht] at hs
  | answered response hn =>
    exact ⟨rfl, verifierResponseDispatch_keeps ops s _ response h.verify (by simp [ha]) rfl ⟨ha, hn⟩⟩

/-! ## Responses -/

def changesTo : VerifierMethod → Option VerifierState
  | .startSession => some .opened
  | .endSession => some .idle
  | .verify => some .verifying
  | .verifyFromBuffer => some .verifying
  | .stop => some .opened
  | _ => none

def verifierResponded (s : VerifierStateMachine D) (method : VerifierMethod) : VerifierStateMachine D :=
  (changesTo method).elim s (verifierStateChange s)

variable {owes : Owes VerifierMethod D} {request : Message VerifierMethod D}

theorem VerifierGood.found (h : VerifierGood s none owes awaited)
    (hf : awaited.find? (fun request => Answers message request) = some request) :
    s.activeRequest = some request ∧ Answers message request ∧
      awaited.eraseP (fun request => Answers message request) = [] ∧ Settles s.active message owes ∧
      (∃ method, request.methodId = some method) ∧ (s.active = false → request.methodId = some .stop) ∧
      (request.methodId = some .stop → s.state = .verifying) := by
  obtain ⟨ha, hn, he, ⟨-, hl, -⟩ | ⟨-, hst, hm, hi, ht⟩⟩ := h.stage.found hf
  · simp at hl
  refine ⟨ha, hn, he, hst, Option.isSome_iff_exists.1 hm, fun hs => (hi hs).1, fun hs => ?_⟩
  exact not_not.1 (ht (by simp [stopsVerify, hs]))

variable {method : VerifierMethod}

theorem verifierResponseUpdate_responded (h : VerifierGood s none owes awaited)
    (hf : awaited.find? (fun request => Answers message request) = some request)
    (hm : request.methodId = some method) :
    ∃ response, Answers response message ∧ (verifierStateMachine ops).responseUpdate s message =
      some (verifierResponseDispatch (verifierResponded s method) response) := by
  obtain ⟨hc, ha, -, -, -, -, ht⟩ := h.found hf
  have hs : message.methodId = some method := ha.2.trans hm
  have hu : (verifierStateMachine ops).responseUpdate s message =
      verifierResponseMethod ops method request s message := by
    show responseStateUpdate VerifierStateMachine.activeRequest (verifierResponseMethod ops) s message = _
    unfold responseStateUpdate methodUpdate
    simp [hc, ha.1, hs]
  rw [hu]
  cases method with
  | stop =>
    obtain ⟨verify, hv⟩ := Option.ne_none_iff_exists'.1 (h.verify (ht hm))
    refine ⟨activeRequestList message verify, ⟨rfl, rfl⟩, ?_⟩
    simp only [verifierResponseMethod, verifierResponseStop, hv]
    rfl
  | getParams =>
    exact ⟨{ message with header := ops.fieldsGet message.header s.properties request.header }, ⟨rfl, rfl⟩, rfl⟩
  | _ => exact ⟨message, ⟨rfl, rfl⟩, rfl⟩

theorem verifierResponded_verify (h : VerifierGood s none owes awaited)
    (hf : awaited.find? (fun request => Answers message request) = some request)
    (hm : request.methodId = some method) :
    ((verifierResponded s method).state = .verifying → (verifierResponded s method).verify ≠ none) ∧
      ((verifierResponded s method).active = false → (verifierResponded s method).state ≠ .verifying) ∧
      (verifierResponded s method).active = s.active := by
  obtain ⟨ha, -, -, -, -, hi, -⟩ := h.found hf
  have hsm : (verifierResponded s method).active = s.active := by
    unfold verifierResponded
    cases changesTo method <;> rfl
  refine ⟨fun hs => ?_, fun hl => ?_, hsm⟩
  · cases ht : changesTo method with
    | none =>
      simp only [verifierResponded, ht, Option.elim] at hs ⊢
      exact h.verify hs
    | some state =>
      simp only [verifierResponded, ht, Option.elim, verifierStateChange] at hs ⊢
      subst hs
      have hr : request.methodId.any startsVerification := by
        cases method <;> simp [changesTo] at ht <;> simp [hm, startsVerification]
      simp [(h.verifySent request ha hr).2]
  · have hp : method = .stop := by simpa [hm] using hi (hsm ▸ hl)
    subst hp
    simp [verifierResponded, changesTo, verifierStateChange]

/-! ## Events -/

def completesVerify (s : VerifierStateMachine D) (message : Message VerifierEvent D) : Bool :=
  message.methodId == some .verificationComplete && acceptsVerificationComplete s message

theorem completesVerify_iff (s : VerifierStateMachine D) (message : Message VerifierEvent D) :
    completesVerify s message ↔
      message.methodId = some .verificationComplete ∧ isOfVerify s message ∧ isVerifyStopAwaited s = false := by
  simp [completesVerify, acceptsVerificationComplete]

inductive VerifierEvented (s : VerifierStateMachine D) (message : Message VerifierEvent D) : VerifierHandled D → Prop
  | refused (status : Bool) : VerifierEvented s message ⟨s, [], none, status⟩
  | started (sent : Message VerifierEvent D) : Answers sent message → message.methodId = some .startOfInput →
      VerifierEvented s message (verifierEventDispatch s sent)
  | completed (sent : Message VerifierEvent D) : Answers sent message → completesVerify s message →
      VerifierEvented s message (verifierEventDispatch (verifierStateChange s .opened) sent)

theorem verifierEventUpdate_evented (s : VerifierStateMachine D) (message : Message VerifierEvent D) :
    ∃ r, (verifierStateMachine ops).eventUpdate s message = some r ∧ VerifierEvented s message r := by
  show ∃ r, methodUpdate (verifierEventMethod ops) s message = some r ∧ _
  unfold methodUpdate
  cases hm : message.methodId with
  | none => exact ⟨_, rfl, .refused _⟩
  | some method =>
    cases method with
    | startOfInput =>
      refine ⟨_, rfl, ?_⟩
      unfold verifierEventStartOfInput
      split_ifs
      · exact .started _ ⟨rfl, rfl⟩ hm
      · exact .refused _
    | verificationComplete =>
      refine ⟨_, rfl, ?_⟩
      unfold verifierEventVerificationComplete
      split_ifs with ha
      · exact .completed _ ⟨rfl, rfl⟩ (by simp [completesVerify, hm, ha])
      · exact .refused _

theorem verifierEventDispatch_keeps (message : Message VerifierEvent D) (h : VerifierGood s' none owes awaited)
    (ha : s'.active = s.active) : VerifierKeeps ops s owes awaited (verifierEventDispatch s' message) := by
  have ho : owesAfter owes (verifierEventDispatch s' message).out = some owes ∧
      engineRequests (verifierEventDispatch s' message).out = [] := by
    unfold verifierEventDispatch
    cases s'.active <;> cases owes <;> exact ⟨rfl, rfl⟩
  refine ⟨owes, ho.1, ?_, ha⟩
  rw [ho.2, List.append_nil]
  exact h

theorem VerifierGood.completed {message : Message VerifierEvent D} (h : VerifierGood s none owes awaited)
    (hc : completesVerify s message) :
    VerifierGood (verifierStateChange s .opened) none owes awaited := by
  obtain ⟨-, -, hw⟩ := (completesVerify_iff s message).1 hc
  -- no STOP request waits for its response, so that none misses the VERIFY request
  have hs : ∀ request ∈ s.activeRequest, stopsVerify request = false ∧ request.methodId ≠ some .stop := by
    intro request ha
    have ha : s.activeRequest = some request := ha
    simpa [isVerifyStopAwaited, stopsVerify, ha] using hw
  refine ⟨by simp [verifierStateChange], ?_, by simp [verifierStateChange], by simp [verifierStateChange], rfl,
    h.stage.idled hs (by simp [verifierStateChange])⟩
  intro request ha ht
  exact ⟨rfl, (h.verifySent request ha ht).2⟩

theorem verifierStateDeactivate_keeps (h : VerifierGood s none .nothing awaited) :
    ∃ r, verifierStateDeactivate s = some r ∧ r.pending = none ∧ ∃ owes',
      owesAfter (if r.status then .deactivation else .nothing) r.out = some owes' ∧
        VerifierGood r.machine none owes' (awaited ++ engineRequests r.out) := by
  obtain rfl := h.stage.of_quiet rfl
  unfold verifierStateDeactivate
  dsimp only
  split_ifs with hs
  · obtain ⟨verify, hv⟩ := Option.ne_none_iff_exists'.1 (h.verify hs)
    rw [hv]
    refine ⟨_, rfl, rfl, .deactivation, rfl, ⟨by simp [verifierRequestDispatch], ?_, ?_, fun _ _ => rfl, rfl,
      .deactivating rfl rfl rfl rfl (by simp [verifierRequestDispatch, hs])⟩⟩
    · rintro request ⟨⟩ hst
      simp [stopCreate, startsVerification] at hst
    · rintro request ⟨⟩ hss
      simp [stopCreate] at hss
  · exact ⟨_, rfl, rfl, .nothing, rfl, h.verify, h.verifySent, h.sessionSent, fun _ ht => absurd ht hs, rfl,
      .quiet rfl⟩

def verifierContract : Contract (verifierStateMachine ops) Conditions.none where
  good := VerifierGood
  create := ⟨⟨by simp [verifierStateMachine, verifierStateMachineCreate], by rintro request ⟨⟩, by rintro request ⟨⟩,
    by simp [verifierStateMachine, verifierStateMachineCreate], rfl, .quiet rfl⟩, rfl⟩
  awaits := fun h => h.stage.awaits
  request := fun {s _ _ _} h hact hsome _ => by
    obtain ⟨r, hr, hrqd⟩ := verifierRequestUpdate_requested ops s hsome
    obtain rfl := VerifierGood.pending h
    exact ⟨r, hr, verifierRequest_keeps ops h hact hsome hrqd⟩
  response := fun {s _ _ request message} h _ hfind => by
    obtain ⟨-, -, herase, hsettles, ⟨method, hmeth⟩, -⟩ := VerifierGood.found h hfind
    obtain ⟨response, hansw, hr⟩ := verifierResponseUpdate_responded ops h hfind hmeth
    obtain ⟨hverify, hdeactivated, hact⟩ := verifierResponded_verify h hfind hmeth
    refine ⟨_, hr, ?_⟩
    rw [herase]
    exact verifierResponseDispatch_keeps ops (verifierResponded s method) _ response hverify hdeactivated hact
      (hact ▸ hsettles.of_answers hansw)
  event := fun {s _ _ message} h _ => by
    obtain ⟨r, hr, hevented⟩ := verifierEventUpdate_evented ops s message
    refine ⟨r, hr, ?_⟩
    cases hevented with
    | refused => exact ⟨rfl, _, rfl, by simpa using h, rfl⟩
    | started sent => exact ⟨rfl, verifierEventDispatch_keeps ops s sent h rfl⟩
    | completed sent _ hcompl =>
      exact ⟨rfl, verifierEventDispatch_keeps ops _ sent (VerifierGood.completed h hcompl) rfl⟩
  deactivate := fun h => by
    obtain rfl := VerifierGood.pending h
    exact verifierStateDeactivate_keeps h
  proceed := fun h => by
    have hpend := VerifierGood.pending h
    simp at hpend

end UniMrcp.MrcpEngine
