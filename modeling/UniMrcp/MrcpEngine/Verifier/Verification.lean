import UniMrcp.MrcpEngine.Verifier.Contract

/-!
# The verification in progress
-/

namespace UniMrcp.MrcpEngine

open Lib Mrcp

variable {D : Type}

/-! ## The trace of a verifier -/

structure VerifierWatch where
  /-- A voiceprint session was started, and has not ended. -/
  opened : Bool := false
  /-- The verification that was accepted, and has not been completed, stopped or ended. -/
  verifying : Option Nat := none

def succeeds (message : Message VerifierMethod D) : Bool := message.statusCode / 100 == 2

def watchVerifier (l : VerifierWatch) : Trace VerifierMethod VerifierEvent D → VerifierWatch × Unit
  | .engineResponse request response =>
    match request.methodId with
    | some .startSession => ({ l with opened := l.opened || succeeds response }, ())
    | some .endSession => (⟨false, none⟩, ())
    | some .stop => ({ l with verifying := none }, ())
    | _ => (if accepts startsVerification request response then { l with verifying := some request.requestId } else l, ())
  | .out (.event message) =>
    ({ l with verifying := if message.methodId = some .verificationComplete then none else l.verifying }, ())
  | _ => (l, ())

def VerifierFits (l : VerifierWatch) : Trace VerifierMethod VerifierEvent D → Prop
  | .out (.event message) =>
    message.methodId = some .verificationComplete → l.verifying = some message.requestId
  | _ => True

theorem verifyCompletion_le (id : Nat) (l : VerifierWatch) (t : Trace VerifierMethod VerifierEvent D)
    (h : VerifierFits l t) :
    (if isCompletion VerifierEvent.verificationComplete id t then 1 else 0) +
        (if (watchVerifier l t).1.verifying = some id then 1 else 0) ≤
      (if isAcceptance startsVerification id t then 1 else 0) + if l.verifying = some id then 1 else 0 := by
  cases t with
  | engineResponse request response =>
    have accepted : (if (if accepts startsVerification request response then
        { l with verifying := some request.requestId } else l).verifying = some id then 1 else 0) ≤
        (if isAcceptance startsVerification id (.engineResponse request response : Trace VerifierMethod VerifierEvent D)
          then 1 else 0) + if l.verifying = some id then 1 else 0 := by
      cases ha : accepts startsVerification request response with
      | false => simp
      | true =>
        by_cases hid : request.requestId = id
        · simp [isAcceptance, ha, hid]
        · simp [hid]
    cases hm : request.methodId with
    | none => simpa [watchVerifier, isCompletion, hm] using accepted
    | some method =>
      cases method with
      | startSession => simp [watchVerifier, isCompletion, hm]
      | endSession => simp [watchVerifier, isCompletion, hm]
      | stop => simp [watchVerifier, isCompletion, hm]
      | _ => simpa only [watchVerifier, isCompletion, hm, Bool.false_eq_true, if_false, Nat.zero_add] using accepted
  | out output =>
    cases output with
    | event message =>
      by_cases hc : message.methodId = some .verificationComplete
      · have hv : l.verifying = some message.requestId := h hc
        by_cases hid : message.requestId = id
        · simp [watchVerifier, isCompletion, isAcceptance, hc, hid, hv]
        · simp [watchVerifier, isCompletion, isAcceptance, hc, hid]
      · simp [watchVerifier, isCompletion, isAcceptance, hc]
    | _ => exact Nat.le_refl _
  | _ => exact Nat.le_refl _

/-! ## The verifier -/

/-- An idle verifier starts its session when the engine succeeds, VERIFY is accepted, and VERIFICATION-COMPLETE is of a
verification in progress. -/
def verifierConditions : Conditions (VerifierStateMachine D) VerifierMethod VerifierEvent D where
  request _ _ _ := true
  response s message :=
    match message.methodId with
    | some .startSession => s.state != .idle || succeeds message
    | some .verify | some .verifyFromBuffer => message.requestState == .inProgress
    | _ => true
  event s _ message :=
    !(message.methodId == some .verificationComplete && isOfVerify s message) || s.state == .verifying

theorem verifierConditions_implies : (verifierConditions (D := D)).Implies Conditions.none :=
  ⟨fun _ _ _ _ => rfl, fun _ _ _ => rfl, fun _ _ _ _ => rfl⟩

def verifyingOf (s : VerifierStateMachine D) : Option Nat :=
  if s.state = .verifying then s.verify.map Message.requestId else none

structure VerifierFollowed (s : VerifierStateMachine D) (l : VerifierWatch) : Prop where
  opened : l.opened = (s.state != .idle)
  verifying : l.verifying = verifyingOf s

variable {s : VerifierStateMachine D} {l : VerifierWatch}

theorem shown_verifierResponseDispatch (message : Message VerifierMethod D) (h : VerifierFollowed s l) :
    Shown watchVerifier VerifierFollowed VerifierFits l (verifierResponseDispatch s message).machine
      ((verifierResponseDispatch s message).out.map .out) := by
  unfold verifierResponseDispatch
  cases s.active with
  | true => exact shown_cons trivial (shown_nil ⟨h.opened, h.verifying⟩)
  | false => exact shown_cons trivial (shown_nil ⟨h.opened, h.verifying⟩)

variable (ops : HeaderOps D)

variable {message : Message VerifierMethod D} {r : VerifierHandled D}

theorem verifierFollowed_request (h : VerifierFollowed s l) (hr : VerifierRequested s message r) :
    Shown watchVerifier VerifierFollowed VerifierFits l r.machine (.handed message :: r.out.map .out) := by
  refine shown_cons trivial ?_
  cases hr with
  | dispatched => exact shown_cons trivial (shown_nil ⟨h.opened, h.verifying⟩)
  | verify _ hs =>
    refine shown_cons trivial (shown_nil ⟨h.opened, ?_⟩)
    have hn : l.verifying = none := by simpa [verifyingOf, hs] using h.verifying
    simpa [watchVerifier, verifyingOf, verifierRequestDispatch, hs] using hn
  | answered response => exact shown_verifierResponseDispatch response h

variable {owes : Owes VerifierMethod D} {awaited : List (Message VerifierMethod D)}

theorem verifierFollowed_response {request message : Message VerifierMethod D} {method : VerifierMethod}
    (h : VerifierFollowed s l) (hg : VerifierGood s none owes awaited)
    (hc : verifierConditions.response s message)
    (hf : awaited.find? (fun request => Answers message request) = some request)
    (hm : request.methodId = some method) :
    VerifierFollowed (verifierResponded s method) (watchVerifier l (.engineResponse request message)).1 := by
  obtain ⟨ha, hn, -, -, -, -, hp⟩ := hg.found hf
  have hs : message.methodId = some method := hn.2.trans hm
  have hsn := hg.verifySent request ha
  -- VERIFY and VERIFY-FROM-BUFFER
  have verified : message.requestState = .inProgress → startsVerification method →
      VerifierFollowed (verifierStateChange s .verifying)
        (if accepts startsVerification request message then { l with verifying := some request.requestId } else l) := by
    intro hr hst
    obtain ⟨ht, hv⟩ := hsn (by simp [hm, hst])
    have ho : l.opened = true := by rw [h.opened, ht]; rfl
    rw [if_pos (by simp [accepts, hm, hst, hr])]
    exact ⟨by simp [verifierStateChange, ho], by simp [verifyingOf, verifierStateChange, hv]⟩
  -- methods that leave the state as it is
  have same : startsVerification method = false → VerifierFollowed s
      (if accepts startsVerification request message then { l with verifying := some request.requestId } else l) := by
    intro hst
    rw [if_neg (by simp [accepts, hm, hst])]
    exact h
  cases method with
  | startSession =>
    have ht := hg.sessionSent request ha hm
    have hnn : l.verifying = none := by simpa [verifyingOf, ht] using h.verifying
    have hsc : (s.state != .idle || succeeds message) := by simpa [verifierConditions, hs] using hc
    simp only [watchVerifier, hm]
    refine ⟨?_, by simp [verifyingOf, verifierResponded, changesTo, verifierStateChange, hnn]⟩
    simp [h.opened, hsc, verifierResponded, changesTo, verifierStateChange]
  | endSession =>
    simp only [watchVerifier, hm]
    exact ⟨by simp [verifierResponded, changesTo, verifierStateChange],
      by simp [verifyingOf, verifierResponded, changesTo, verifierStateChange]⟩
  | stop =>
    have ho : l.opened = true := by rw [h.opened, hp hm]; rfl
    simp only [watchVerifier, hm]
    exact ⟨by simp [ho, verifierResponded, changesTo, verifierStateChange],
      by simp [verifyingOf, verifierResponded, changesTo, verifierStateChange]⟩
  | verify =>
    simp only [watchVerifier, hm]
    exact verified (by simpa [verifierConditions, hs] using hc) rfl
  | verifyFromBuffer =>
    simp only [watchVerifier, hm]
    exact verified (by simpa [verifierConditions, hs] using hc) rfl
  | _ =>
    simp only [watchVerifier, hm]
    exact same rfl

theorem verifierFollowed_event {waits : Bool} {message : Message VerifierEvent D} (h : VerifierFollowed s l)
    (hg : VerifierGood s none owes awaited) (hc : verifierConditions.event s waits message)
    (hr : VerifierEvented s message r) :
    Shown watchVerifier VerifierFollowed VerifierFits l r.machine (.engineEvent message :: r.out.map .out) := by
  refine shown_cons trivial ?_
  cases hr with
  | refused => exact shown_nil h
  | started sent ha hm =>
    have hs : sent.methodId = some .startOfInput := ha.2.trans hm
    unfold verifierEventDispatch
    cases s.active with
    | true =>
      refine shown_cons (by simp [VerifierFits, hs]) (shown_nil ⟨h.opened, ?_⟩)
      simpa [watchVerifier, hs] using h.verifying
    | false => exact shown_nil h
  | completed sent ha hcm =>
    obtain ⟨hm, ho, hw⟩ := (completesVerify_iff s message).1 hcm
    have ht : s.state = .verifying := by simpa [verifierConditions, hm, ho] using hc
    obtain ⟨verify, hv, hid⟩ : ∃ verify, s.verify = some verify ∧ verify.requestId = message.requestId := by
      simpa [isOfVerify, Option.any_eq_true] using ho
    have hs : sent.methodId = some .verificationComplete := ha.2.trans hm
    -- a machine that is deactivated waits for the response to STOP
    have hac : (verifierStateChange s .opened).active := by
      cases hact : s.active with
      | true => exact hact
      | false => simp [hg.deactivated hact ht] at hw
    unfold verifierEventDispatch
    rw [if_pos hac]
    refine shown_cons (fun _ => ?_) (shown_nil ⟨?_, ?_⟩)
    · show l.verifying = some sent.requestId
      simp [h.verifying, verifyingOf, ht, hv, hid, ha.1]
    · show l.opened = true
      rw [h.opened, ht]
      rfl
    · simp [watchVerifier, hs, verifyingOf, verifierStateChange]

def verifierWatched :
    Watched ((verifierContract ops).mono verifierConditions_implies) watchVerifier VerifierFits where
  rel s _ l := VerifierFollowed s l
  request := fun {s _ _ _ _ _} _ _ hsome _ hr hrel => by
    obtain ⟨r', hr', hrqd⟩ := verifierRequestUpdate_requested ops s hsome
    obtain rfl := Option.some.inj (hr.symm.trans hr')
    exact verifierFollowed_request hrel hrqd
  response := fun hgood hc hfind hr hrel => by
    obtain ⟨-, -, -, -, ⟨method, hmeth⟩, -⟩ := VerifierGood.found hgood hfind
    obtain ⟨response, -, hr'⟩ := verifierResponseUpdate_responded ops hgood hfind hmeth
    obtain rfl := Option.some.inj (hr.symm.trans hr')
    exact shown_cons trivial (shown_verifierResponseDispatch response
      (verifierFollowed_response hrel hgood hc hfind hmeth))
  event := fun {s _ _ message _ _} hgood hc hr hrel => by
    obtain ⟨r', hr', hevented⟩ := verifierEventUpdate_evented ops s message
    obtain rfl := Option.some.inj (hr.symm.trans hr')
    exact verifierFollowed_event hrel hgood hc hevented
  deactivate := fun {s _ _ r l} _ hr hrel => by
    refine shown_cons trivial ?_
    have hr : verifierStateDeactivate s = some r := hr
    unfold verifierStateDeactivate at hr
    dsimp only at hr
    split_ifs at hr
    · split at hr
      · obtain rfl := Option.some.inj hr
        exact shown_nil ⟨hrel.opened, hrel.verifying⟩
      · obtain rfl := Option.some.inj hr
        exact shown_cons trivial (shown_nil ⟨hrel.opened, hrel.verifying⟩)
    · obtain rfl := Option.some.inj hr
      exact shown_nil ⟨hrel.opened, hrel.verifying⟩
  proceed := fun hgood _ => by
    have hpend := VerifierGood.pending hgood
    simp at hpend

def verifierOf (trace : List (Trace VerifierMethod VerifierEvent D)) : VerifierWatch := (run watchVerifier {} trace).1

structure VerifierReflects (inputs : List (Input VerifierMethod VerifierEvent D)) : Prop where
  /-- It is verifying just when a verification was accepted, and not completed, stopped or ended. -/
  verifying : (sessionAfter (verifierStateMachine ops) inputs).machine.state = .verifying ↔
    (verifierOf (traceOf (verifierStateMachine ops) inputs)).verifying ≠ none
  /-- It is idle just when no session was started since one has ended. -/
  idle : (sessionAfter (verifierStateMachine ops) inputs).machine.state = .idle ↔
    (verifierOf (traceOf (verifierStateMachine ops) inputs)).opened = false
  completed : CompletedOnce startsVerification .verificationComplete (traceOf (verifierStateMachine ops) inputs)

/-- A session with a verification that is completed and one that is stopped. -/
def verifyTwice : List (Input VerifierMethod VerifierEvent Unit) :=
  [.client (plainRequest 1 .startSession), .response (plainMessage 1 .startSession .complete 200), .pop,
    .client (plainRequest 2 .verify), .response (plainMessage 2 .verify .inProgress 200), .pop,
    .event (plainMessage 2 .verificationComplete .complete 0), .client (plainRequest 3 .verifyFromBuffer),
    .response (plainMessage 3 .verifyFromBuffer .inProgress 200), .pop, .client (plainRequest 4 .stop),
    .response (plainMessage 4 .stop .complete 200), .pop]

def verifyFailed : List (Input VerifierMethod VerifierEvent Unit) :=
  [.client (plainRequest 1 .startSession), .response (plainMessage 1 .startSession .complete 200), .pop,
    .client (plainRequest 2 .verify), .response (plainMessage 2 .verify .complete 407)]

end UniMrcp.MrcpEngine
