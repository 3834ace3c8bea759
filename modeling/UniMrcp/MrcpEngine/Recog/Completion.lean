import UniMrcp.MrcpEngine.Recog.Contract

/-!
# A RECOGNIZE request is completed once
-/

namespace UniMrcp.MrcpEngine

open Lib Mrcp List

variable {σ μ ε D τ π : Type}

/-- The watcher sees what has `P` of a handler, and is related to the machine again. -/
def Observes (rel : σ → Option (Message μ D) → τ → Prop) (watch : τ → Trace μ ε D → τ × π)
    (P : τ → Trace μ ε D → Prop) (s : σ) (pending : Option (Message μ D)) (l : τ) (t : Trace μ ε D) :
    Option (Handled σ μ ε D) → Prop
  | none => Shown watch (rel · pending ·) P l s [t]
  | some r => Shown watch (rel · (pending.or r.pending) ·) P l r.machine (t :: r.out.map .out)

/-- What relates a machine, and the pending request that it is about to process, to a watcher. -/
structure Observed (M : StateMachine σ μ ε D) (c : Conditions σ μ ε D) (watch : τ → Trace μ ε D → τ × π)
    (P : τ → Trace μ ε D → Prop) where
  rel : σ → Option (Message μ D) → τ → Prop
  request : ∀ {s pending message l}, c.request s pending message → rel s pending l →
    Observes rel watch P s pending l (.handed message) (M.requestUpdate s message)
  response : ∀ {s request message l}, c.response s message → Answers message request → rel s none l →
    Observes rel watch P s none l (.engineResponse request message) (M.responseUpdate s message)
  event : ∀ {s waits message l}, c.event s waits message → rel s none l →
    Observes rel watch P s none l (.engineEvent message) (M.eventUpdate s message)
  deactivate : ∀ {s pending l} waits, rel s pending l →
    Observes rel watch P s pending l (.deactivate waits) (M.deactivate s)
  proceed : ∀ {s message l}, rel s (some message) l →
    Shown watch (rel · none ·) P l (M.pendingProcess s message) [.out (.processPending message), .out (.request message)]

variable {M : StateMachine σ μ ε D} {c : Conditions σ μ ε D} {watch : τ → Trace μ ε D → τ × π}
  {P : τ → Trace μ ε D → Prop}

def Observed.Related (O : Observed M c watch P) (h : Served σ μ ε D) (l : τ) : Prop := O.rel h.machine h.pending l

variable (O : Observed M c watch P) {l : τ}

variable {h : Served σ μ ε D}

theorem Observed.settle_shown {t : Trace μ ε D} {r : Option (Handled σ μ ε D)}
    (hr : Observes O.rel watch P h.machine h.pending l t r) :
    Shown watch O.Related P l (h.settle [t] r).1 (h.settle [t] r).2 := by
  cases r with
  | none => exact hr
  | some r => exact hr

variable [DecidableEq μ]

theorem Observed.step_shown {input : Input μ ε D} (hr : O.Related h l) (he : enabled h input)
    (hc : c.met h input) : Shown watch O.Related P l (h.step M input).1 (h.step M input).2 := by
  cases input with
  | client message =>
    show Shown watch O.Related P l (h.client M message).1 (h.client M message).2
    unfold Served.client
    split_ifs with hb
    · exact shown_nil hr
    · have hc : c.request h.machine h.pending message := by
        have hc : (h.activeRequest.isSome || h.terminated || c.request h.machine h.pending message) := hc
        simpa [hb] using hc
      exact O.settle_shown (h := { h with activeRequest := some message }) (O.request hc hr)
  | response message =>
    obtain ⟨⟨-, hp⟩, -⟩ : (h.popping = false ∧ h.pending = none) ∧
        (h.awaited.any fun request => Answers message request) = true := by
      simpa only [enabled, Bool.and_eq_true, Bool.not_eq_true', Option.isNone_iff_eq_none] using he
    show Shown watch O.Related P l (h.response M message).1 (h.response M message).2
    unfold Served.response
    split
    · exact shown_nil hr
    · next request hf =>
      have ha : Answers message request := by simpa using List.find?_some hf
      apply O.settle_shown
      have hr : O.rel h.machine none l := hp ▸ hr
      rw [hp]
      exact O.response hc ha hr
  | event message =>
    obtain ⟨-, hp⟩ : h.popping = false ∧ h.pending = none := by simpa [enabled] using he
    show Shown watch O.Related P l (h.settle _ _).1 (h.settle _ _).2
    have hr : O.rel h.machine none l := hp ▸ hr
    apply O.settle_shown
    rw [hp]
    exact O.event hc hr
  | terminate => exact O.settle_shown (O.deactivate _ hr)
  | pop =>
    show Shown watch O.Related P l (h.pop M).1 (h.pop M).2
    unfold Served.pop
    split
    · exact shown_nil hr
    · next message queue hq =>
      have hc : c.request h.machine h.pending message := by simpa [Conditions.met, hq] using hc
      exact O.settle_shown (h := { h with popping := false, requestQueue := queue, activeRequest := some message })
        (O.request hc hr)
  | proceed =>
    show Shown watch O.Related P l (h.proceed M).1 (h.proceed M).2
    unfold Served.proceed
    split
    · exact shown_nil hr
    · next message hp =>
      have hr : O.rel h.machine (some message) l := hp ▸ hr
      exact O.proceed hr

theorem Observed.run_shown (hl : O.rel M.create none l) {inputs : List (Input μ ε D)} (hg : Legal M c inputs) :
    Shown watch O.Related P l (sessionAfter M inputs) (traceOf M inputs) :=
  run_watched O.Related (fun h input => enabled h input = true ∧ c.met h input) P
    (fun _ _ _ hr hi => O.step_shown hr hi.1 hi.2) hl hg

variable {D : Type}

/-- The RECOGNIZE requests that were accepted and have not been completed. -/
structure RecogWatch where
  inProgress : List Nat := []
  /-- The engine has just completed a request that is not in progress. -/
  duplicate : Bool := false

abbrev acceptsRecognize : Message RecogMethod D → Message RecogMethod D → Bool := accepts (· == .recognize)

def watchRecog (l : RecogWatch) : Trace RecogMethod RecogEvent D → RecogWatch × Unit
  | .engineResponse request response =>
    (⟨if acceptsRecognize request response then request.requestId :: l.inProgress else l.inProgress, false⟩, ())
  | .engineEvent message =>
    (⟨l.inProgress, message.methodId == some .recognitionComplete && !l.inProgress.contains message.requestId⟩, ())
  | .out (.event message) =>
    (⟨if message.methodId = some .recognitionComplete then l.inProgress.filter (· != message.requestId)
      else l.inProgress, l.duplicate⟩, ())
  | .out _ => (l, ())
  | _ => (⟨l.inProgress, false⟩, ())

/-- START-OF-INPUT and RECOGNITION-COMPLETE are of a request in progress, and one completed again takes no request from
the queue. -/
def RecogEventsFit (l : RecogWatch) : Trace RecogMethod RecogEvent D → Prop
  | .out (.event message) =>
    message.methodId = some .startOfInput ∨ message.methodId = some .recognitionComplete →
      message.requestId ∈ l.inProgress
  | .out (.processPending _) => l.duplicate = false
  | _ => True

theorem recogCompletion_le (id : Nat) (l : RecogWatch) (t : Trace RecogMethod RecogEvent D) (h : RecogEventsFit l t) :
    (if isCompletion RecogEvent.recognitionComplete id t then 1 else 0) +
        (if id ∈ (watchRecog l t).1.inProgress then 1 else 0) ≤
      (if isAcceptance (· == RecogMethod.recognize) id t then 1 else 0) + if id ∈ l.inProgress then 1 else 0 := by
  cases t with
  | engineResponse request response =>
    cases ha : acceptsRecognize request response with
    | false => simp [watchRecog, isCompletion, ha]
    | true =>
      by_cases hid : request.requestId = id
      · simp [watchRecog, isCompletion, isAcceptance, ha, hid]
      · have hid' : id ≠ request.requestId := fun heq => hid heq.symm
        simp [watchRecog, isCompletion, isAcceptance, ha, hid, hid']
  | out output =>
    cases output with
    | event message =>
      by_cases hc : message.methodId = some .recognitionComplete
      · have hm : message.requestId ∈ l.inProgress := h (Or.inr hc)
        by_cases hid : message.requestId = id
        · subst hid
          simp [watchRecog, isCompletion, isAcceptance, hc, hm]
        · have hid' : id ≠ message.requestId := fun heq => hid heq.symm
          simp [watchRecog, isCompletion, isAcceptance, hc, hid, hid']
      · simp [watchRecog, isCompletion, isAcceptance, hc]
    | _ => exact Nat.le_refl _
  | _ => exact Nat.le_refl _

/-! ## The events of the recognizer -/

/-- A RECOGNIZE request that was recognized is not completed again, and its input does not start. -/
def recogCompletionConditions : Conditions (RecogStateMachine D) RecogMethod RecogEvent D where
  request _ _ _ := true
  response _ _ := true
  event s _ message := !(s.state == .recognized && isOfRecog s message &&
    (message.methodId == some .startOfInput || message.methodId == some .recognitionComplete))

structure RecogFollowed (s : RecogStateMachine D) (pending : Option (Message RecogMethod D)) (l : RecogWatch) :
    Prop where
  recog : s.state = .idle ↔ s.recog = none
  inProgress : s.state = .recognizing → ∀ recog ∈ s.recog, recog.requestId ∈ l.inProgress
  duplicate : pending ≠ none → l.duplicate = false

def Output.isPlain : Output RecogMethod RecogEvent D → Bool
  | .event _ | .processPending _ => false
  | _ => true

variable {l : RecogWatch} {s : RecogStateMachine D}

variable {R : RecogStateMachine D → RecogWatch → Prop}

theorem shown_plain {out : List (Output RecogMethod RecogEvent D)} (ho : ∀ output ∈ out, output.isPlain)
    (h : R s l) : Shown watchRecog R RecogEventsFit l s (out.map .out) := by
  induction out with
  | nil => exact shown_nil h
  | cons output out ih =>
    obtain ⟨hp, hr⟩ := forall_mem_cons.1 ho
    have hw : (watchRecog l (.out output)).1 = l := by
      cases output <;> first | rfl | simp [Output.isPlain] at hp
    refine shown_cons ?_ ?_
    · cases output <;> trivial
    · rw [hw]
      exact ih hr

structure KeepsRecog (s : RecogStateMachine D) (r : RecogHandled D) : Prop where
  plain : ∀ output ∈ r.out, output.isPlain
  recog : r.machine.state = s.state ∧ r.machine.recog = s.recog ∨ r.machine.state = .idle ∧ r.machine.recog = none

variable {r : RecogHandled D}

variable {pending : Option (Message RecogMethod D)}

theorem KeepsRecog.shown (hr : KeepsRecog s r) (h : RecogFollowed s pending l) (hd : l.duplicate = false) :
    Shown watchRecog (RecogFollowed · (pending.or r.pending) ·) RecogEventsFit l r.machine (r.out.map .out) := by
  refine shown_plain hr.plain ?_
  rcases hr.recog with ⟨hs, hc⟩ | ⟨hs, hc⟩
  · refine ⟨by rw [hs, hc]; exact h.recog, ?_, fun _ => hd⟩
    rw [hs, hc]
    exact h.inProgress
  · exact ⟨by simp [hs, hc], by simp [hs], fun _ => hd⟩

theorem keepsRecog_responseDispatch (s' : RecogStateMachine D) (message : Message RecogMethod D)
    (hr : s'.state = s.state ∧ s'.recog = s.recog ∨ s'.state = .idle ∧ s'.recog = none)
    (first : List (Output RecogMethod RecogEvent D)) (hf : ∀ output ∈ first, output.isPlain)
    (pending : Option (Message RecogMethod D)) :
    KeepsRecog s { (recogResponseDispatch s' message).precede first with pending := pending } := by
  refine ⟨?_, hr⟩
  intro output ho
  rcases mem_append.1 ho with hm | hm
  · exact hf output hm
  · have hm : output ∈ if s'.active then [Output.response message] else [Output.deactivated] := hm
    split_ifs at hm <;> (obtain rfl := mem_singleton.1 hm; rfl)

theorem isPlain_removePending (removed : List (Message RecogMethod D)) :
    ∀ output ∈ removed.map (Output.removePending (ε := RecogEvent)), output.isPlain := by
  simp [Output.isPlain]

theorem recognizedReset_cases (s : RecogStateMachine D) :
    (recognizedReset s).state = s.state ∧ (recognizedReset s).recog = s.recog ∨
      (recognizedReset s).state = .idle ∧ (recognizedReset s).recog = none := by
  unfold recognizedReset
  split_ifs
  · exact Or.inr ⟨rfl, rfl⟩
  · exact Or.inl ⟨rfl, rfl⟩

variable {message : Message RecogMethod D}

theorem RecogRequested.keepsRecog (hr : RecogRequested s message r) : KeepsRecog s r := by
  cases hr with
  | dispatched => exact ⟨by simp [recogRequestDispatch, Output.isPlain], Or.inl ⟨rfl, rfl⟩⟩
  | defined => exact ⟨by simp [recogRequestDispatch, Output.isPlain], recognizedReset_cases s⟩
  | answered response =>
    exact keepsRecog_responseDispatch s response (Or.inl ⟨rfl, rfl⟩) [] (by simp) none
  | queued queued response =>
    exact keepsRecog_responseDispatch (s := s) { s with queue := s.queue ++ [queued] } response (Or.inl ⟨rfl, rfl⟩)
      [.queueUp queued] (by simp [Output.isPlain]) none
  | removed response =>
    exact keepsRecog_responseDispatch { recognizedReset s with queue := s.queue.filter (!selected message ·) } response
      (recognizedReset_cases s) _ (isPlain_removePending _) none

variable (ops : HeaderOps D)

theorem recogResponseUpdate_recog (hr : (recogStateMachine ops).responseUpdate s message = some r) :
    KeepsRecog s r ∨
      (∀ output ∈ r.out, output.isPlain) ∧ r.machine.state = .recognizing ∧
        message.methodId = some .recognize ∧ message.requestState = .inProgress ∧
        ∃ recog, r.machine.recog = some recog ∧ recog.requestId = message.requestId := by
  have hr : responseStateUpdate RecogStateMachine.activeRequest (recogResponseMethod ops) s message = some r := hr
  have refused : KeepsRecog s (⟨s, [], none, false⟩ : RecogHandled D) := ⟨by simp, Or.inl ⟨rfl, rfl⟩⟩
  have dispatched : ∀ response, KeepsRecog s (recogResponseDispatch s response) := fun response =>
    keepsRecog_responseDispatch s response (Or.inl ⟨rfl, rfl⟩) [] (by simp) none
  unfold responseStateUpdate at hr
  split at hr
  · obtain rfl := Option.some.inj hr
    exact Or.inl refused
  · next request _ =>
    split_ifs at hr with hid
    · obtain rfl := Option.some.inj hr
      exact Or.inl refused
    · unfold methodUpdate at hr
      split at hr
      · obtain rfl := Option.some.inj hr
        exact Or.inl refused
      · next method hm =>
        cases method with
        | recognize =>
          obtain rfl := Option.some.inj hr
          by_cases h : message.requestState = .inProgress
          · -- the request is accepted
            have ha : (recognizeResponded s request message).state = .recognizing ∧
                (recognizeResponded s request message).recog = some request := by
              simp [recognizeResponded, h, recogStateChange]
            refine Or.inr ?_
            cases hp : s.isPending with
            | true =>
              rw [recogResponseRecognize_popped hp]
              exact ⟨by simp, ha.1, hm, h, request, ha.2, not_not.1 hid⟩
            | false =>
              rw [recogResponseRecognize_direct hp]
              have hk := keepsRecog_responseDispatch (s := recognizeResponded s request message)
                (recognizeResponded s request message) message (Or.inl ⟨rfl, rfl⟩) [] (by simp) none
              exact ⟨hk.plain, ha.1, hm, h, request, ha.2, not_not.1 hid⟩
          · have hs : recognizeResponded s request message = s := if_neg h
            refine Or.inl ?_
            cases hp : s.isPending with
            | true =>
              rw [recogResponseRecognize_popped hp, hs]
              exact ⟨by simp, Or.inl ⟨rfl, rfl⟩⟩
            | false =>
              rw [recogResponseRecognize_direct hp, hs]
              exact dispatched message
        | stop =>
          obtain ⟨recog, -, rfl⟩ := Option.map_eq_some_iff.1 hr
          exact Or.inl (keepsRecog_responseDispatch _ _ (Or.inr ⟨rfl, rfl⟩) _ (isPlain_removePending _) _)
        | _ =>
          obtain rfl := Option.some.inj hr
          exact Or.inl (dispatched _)

theorem RecogFollowed.mem_inProgress {message : Message RecogEvent D} (h : RecogFollowed s pending l)
    (ho : isOfRecog s message) (ht : s.state ≠ .recognized) : message.requestId ∈ l.inProgress := by
  obtain ⟨recog, hr, hid⟩ : ∃ recog, s.recog = some recog ∧ recog.requestId = message.requestId := by
    simpa [isOfRecog, Option.any_eq_true] using ho
  have hc : s.state = .recognizing := by
    cases hs : s.state with
    | idle => simp [h.recog.1 hs] at hr
    | recognizing => rfl
    | recognized => exact absurd hs ht
  rw [← hid]
  exact h.inProgress hc recog hr

theorem shown_recogEventDispatch {t : RecogStateMachine D} (s : RecogStateMachine D) (message : Message RecogEvent D)
    (out : List (Output RecogMethod RecogEvent D))
    (hf : RecogEventsFit l (.out (.event message) : Trace RecogMethod _ D))
    (h : ∀ ids, l.inProgress = ids ∨ message.methodId = some .recognitionComplete →
      Shown watchRecog R RecogEventsFit ⟨ids, l.duplicate⟩ t (out.map .out)) :
    Shown watchRecog R RecogEventsFit l t (((recogEventDispatch s message).out ++ out).map .out) := by
  unfold recogEventDispatch
  cases s.active with
  | true =>
    refine shown_cons hf (h _ ?_)
    by_cases hc : message.methodId = some .recognitionComplete
    · exact Or.inr hc
    · exact Or.inl (by simp [hc])
  | false => exact h _ (Or.inl rfl)

/-- **An event of the engine** fits. -/
theorem recogEvent_fits {waits : Bool} {message : Message RecogEvent D} (h : RecogFollowed s none l)
    (hc : recogCompletionConditions.event s waits message) (hr : RecogEvented s message r) :
    Shown watchRecog (RecogFollowed · r.pending ·) RecogEventsFit l r.machine
      (.engineEvent message :: r.out.map .out) := by
  have notRecognized : isOfRecog s message →
      message.methodId = some .startOfInput ∨ message.methodId = some .recognitionComplete → s.state ≠ .recognized := by
    intro ho ht hst
    rcases ht with ht | ht <;> simp [recogCompletionConditions, ho, ht, hst] at hc
  have mem : completesRecognition s message → message.requestId ∈ l.inProgress := by
    intro hm
    obtain ⟨ht, ho, -⟩ := (completesRecognition_iff s message).1 hm
    exact h.mem_inProgress ho (notRecognized ho (Or.inr ht))
  refine shown_cons trivial ?_
  cases hr with
  | refused => exact shown_nil ⟨h.recog, h.inProgress, by simp⟩
  | dispatched sent _ ha hne ho =>
    have hh := shown_recogEventDispatch s sent [] (R := (RecogFollowed · none ·))
      (l := (watchRecog l (.engineEvent message : Trace RecogMethod RecogEvent D)).1) (t := s) ?_ ?_
    · rwa [append_nil] at hh
    · rintro (hs | hco)
      · rw [ha.2] at hs
        rw [ha.1]
        exact h.mem_inProgress (ho hs) (notRecognized (ho hs) (Or.inl hs))
      · exact absurd (ha.2.symm.trans hco) hne
    · rintro ids (hi | hco)
      · obtain rfl : l.inProgress = ids := hi
        exact shown_nil ⟨h.recog, h.inProgress, by simp⟩
      · exact absurd (ha.2.symm.trans hco) hne
  | completed sent hm ha hq =>
    have hmm := mem hm
    have hh := shown_recogEventDispatch s sent [] (R := (RecogFollowed · none ·))
      (l := (watchRecog l (.engineEvent message : Trace RecogMethod RecogEvent D)).1)
      (t := recogStateChange s .recognized) (fun _ => ha.1 ▸ hmm) fun _ _ => shown_nil
        ⟨recognized_recog hm, by simp [recogStateChange], by simp⟩
    rwa [append_nil] at hh
  | processed sent pending queue hm ha hq =>
    have hmm := mem hm
    have hd : (watchRecog l (.engineEvent message : Trace RecogMethod RecogEvent D)).1.duplicate = false := by
      simp [watchRecog, hmm]
    refine shown_recogEventDispatch s sent [.processPending pending, .request pending] (fun _ => ha.1 ▸ hmm)
      fun ids _ => ?_
    refine shown_cons hd (shown_cons trivial (shown_nil ⟨recognized_recog hm, ?_, by simp⟩))
    simp [recogStateChange, recogPendingProcess]

theorem recogStateDeactivate_recog (hr : s.state = .idle ↔ s.recog = none) :
    ∃ r, recogStateDeactivate s = some r ∧ KeepsRecog s r := by
  unfold recogStateDeactivate
  dsimp only
  split_ifs with hs
  · obtain ⟨recog, hm⟩ : ∃ recog, s.recog = some recog :=
      Option.ne_none_iff_exists'.1 fun hn => by simp [hs] at hr; exact hr hn
    rw [hm]
    exact ⟨_, rfl, by simp [recogRequestDispatch, Output.isPlain], Or.inl ⟨rfl, hm.symm⟩⟩
  · exact ⟨_, rfl, by simp, Or.inl ⟨rfl, rfl⟩⟩

def recogObserved : Observed (recogStateMachine ops) recogCompletionConditions watchRecog RecogEventsFit where
  rel := RecogFollowed
  request := fun {s pending message l} _ h => by
    have hrel : RecogFollowed s pending ⟨l.inProgress, false⟩ := ⟨h.recog, h.inProgress, fun _ => rfl⟩
    cases hmeth : message.methodId with
    | none =>
      have hrefused : (recogStateMachine ops).requestUpdate s message = some ⟨s, [], none, false⟩ := by
        show methodUpdate (recogRequestMethod ops) s message = _
        simp [methodUpdate, hmeth, refuse]
      rw [hrefused]
      exact shown_cons trivial (KeepsRecog.shown ⟨by simp, Or.inl ⟨rfl, rfl⟩⟩ hrel rfl)
    | some method =>
      obtain ⟨r, hr, hrqd⟩ := recogRequestUpdate_requested ops h.recog
        (show message.methodId.isSome = true by simp [hmeth])
      rw [hr]
      exact shown_cons trivial (hrqd.keepsRecog.shown hrel rfl)
  response := fun {s request message l} _ hansw h => by
    cases hr : (recogStateMachine ops).responseUpdate s message with
    | none =>
      refine shown_cons trivial (shown_nil ⟨h.recog, fun hs recog hmem => ?_, by simp⟩)
      have hold := h.inProgress hs recog hmem
      simp only [watchRecog]
      split_ifs
      · exact mem_cons_of_mem _ hold
      · exact hold
    | some r =>
      refine shown_cons trivial ?_
      rcases recogResponseUpdate_recog ops hr with hkeeps | ⟨hplain, hstate, hmeth, hprog, recog, hrecog, hid⟩
      · refine hkeeps.shown ⟨h.recog, fun hs recog hmem => ?_, by simp⟩ rfl
        have hold := h.inProgress hs recog hmem
        simp only [watchRecog]
        split_ifs
        · exact mem_cons_of_mem _ hold
        · exact hold
      · refine shown_plain (R := (RecogFollowed · (none.or r.pending) ·)) hplain
          ⟨by simp [hstate, hrecog], fun _ recog' hmem => ?_, fun _ => rfl⟩
        have haccepted : acceptsRecognize request message := by
          simp [accepts, hprog, ← hansw.2, hmeth]
        obtain rfl : recog = recog' := Option.some.inj (hrecog.symm.trans hmem)
        simp [watchRecog, haccepted, hid, hansw.1]
  event := fun {s waits message l} hc h => by
    obtain ⟨r, hr, hevented⟩ := recogEventUpdate_evented ops s message
    rw [hr]
    exact recogEvent_fits h hc hevented
  deactivate := fun {s pending l} waits h => by
    obtain ⟨r, hr, hkeeps⟩ := recogStateDeactivate_recog h.recog
    have hr : (recogStateMachine ops).deactivate s = some r := hr
    rw [hr]
    exact shown_cons trivial (hkeeps.shown ⟨h.recog, h.inProgress, fun _ => rfl⟩ rfl)
  proceed := fun {s message l} h => by
    refine shown_cons (h.duplicate (Option.some_ne_none _)) (shown_cons trivial (shown_nil ?_))
    exact ⟨h.recog, h.inProgress, by simp⟩

/-- **A RECOGNIZE request is completed once**: in every run whose steps meet the conditions, there is one
RECOGNITION-COMPLETE at most for each accepted RECOGNIZE request, no START-OF-INPUT follows it, and a request that is
completed again takes none from the queue. -/
theorem recog_completes {inputs : List (Input RecogMethod RecogEvent D)}
    (h : Legal (recogStateMachine ops) recogCompletionConditions inputs) :
    CompletedOnce (· == .recognize) .recognitionComplete (traceOf (recogStateMachine ops) inputs) ∧
      EachStep watchRecog RecogEventsFit {} (traceOf (recogStateMachine ops) inputs) := by
  have hcreate : RecogFollowed (recogStateMachine ops).create none {} :=
    ⟨by simp [recogStateMachine, recogStateMachineCreate], by simp [recogStateMachine, recogStateMachineCreate], by simp⟩
  obtain ⟨-, hfit⟩ := (recogObserved ops).run_shown hcreate h
  refine ⟨fun id => ?_, hfit⟩
  simpa using countP_le_of_eachStep _ _ (fun l : RecogWatch => if id ∈ l.inProgress then 1 else 0)
    (recogCompletion_le id) hfit

/-- Of two RECOGNIZE requests, one is completed, the other one is stopped. -/
theorem recog_completes_recognizeTwice :
    CompletedOnce (· == .recognize) .recognitionComplete (traceOf (recogStateMachine plainHeaderOps) recognizeTwice) ∧
      EachStep watchRecog RecogEventsFit {} (traceOf (recogStateMachine plainHeaderOps) recognizeTwice) :=
  recog_completes plainHeaderOps (by decide +kernel)

/-- RECOGNITION-COMPLETE arrives twice while two RECOGNIZE requests are pending. -/
def recognitionCompleteTwice : List (Input RecogMethod RecogEvent Unit) :=
  [.client (plainRequest 1 .recognize), .response (plainMessage 1 .recognize .inProgress 200), .pop,
    .client (plainRequest 2 .recognize), .pop, .client (plainRequest 3 .recognize), .pop,
    .event (plainMessage 1 .recognitionComplete .complete 0), .event (plainMessage 1 .recognitionComplete .complete 0)]

/-- The client is told twice that request 1 is completed, and both pending requests are sent to the engine. -/
theorem recog_recognitionCompleteTwice :
    Legal (recogStateMachine plainHeaderOps) Conditions.none recognitionCompleteTwice ∧
      ¬ CompletedOnce (· == .recognize) .recognitionComplete
        (traceOf (recogStateMachine plainHeaderOps) recognitionCompleteTwice) ∧
      (sessionAfter (recogStateMachine plainHeaderOps) recognitionCompleteTwice).awaited.map Message.requestId = [2, 3] :=
  ⟨by decide +kernel, fun h => absurd (h 1) (by decide +kernel), by decide +kernel⟩

end UniMrcp.MrcpEngine
