import UniMrcp.MrcpEngine.Recorder.Contract

/-!
# The RECORD request in progress
-/

namespace UniMrcp.MrcpEngine

open Lib Mrcp

variable {D : Type}

/-! ## The trace of a recorder -/

structure RecorderWatch where
  /-- The RECORD request that was accepted, and not completed or stopped. -/
  record : Option Nat := none
  inactive : Bool := false
  /-- The engine has responded to the internal STOP request. -/
  stopped : Bool := false

def watchRecorder (l : RecorderWatch) : Trace RecorderMethod RecorderEvent D → RecorderWatch × Unit
  | .engineResponse request response =>
    ({ l with
        record :=
          if accepts (· == .record) request response then some request.requestId
          else if request.methodId = some .stop then none
          else l.record
        stopped := l.inactive }, ())
  | .deactivate _ => ({ l with inactive := true }, ())
  | .out (.event message) =>
    ({ l with record := if message.methodId = some .recordComplete then none else l.record }, ())
  | .out .deactivated => ({ l with stopped := false }, ())
  | _ => (l, ())

/-- Events are of the RECORD request in progress, nothing goes to the client once the recorder is told to deactivate,
and its deactivation is told when the engine has responded to STOP. -/
def RecorderFits (l : RecorderWatch) (t : Trace RecorderMethod RecorderEvent D) : Prop :=
  (l.stopped → t = .out .deactivated) ∧
    match t with
    | .out (.event message) => l.inactive = false ∧ l.record = some message.requestId
    | .out (.response _) => l.inactive = false
    | .out .deactivated => l.stopped = true
    | .engineResponse request _ => l.inactive = true → request.methodId = some .stop
    | _ => True

theorem recordCompletion_le (id : Nat) (l : RecorderWatch) (t : Trace RecorderMethod RecorderEvent D)
    (h : RecorderFits l t) :
    (if isCompletion RecorderEvent.recordComplete id t then 1 else 0) +
        (if (watchRecorder l t).1.record = some id then 1 else 0) ≤
      (if isAcceptance (· == RecorderMethod.record) id t then 1 else 0) + if l.record = some id then 1 else 0 := by
  cases t with
  | engineResponse request response =>
    cases ha : accepts (· == RecorderMethod.record) request response with
    | false =>
      by_cases hs : request.methodId = some .stop
      · simp [watchRecorder, isCompletion, ha, hs]
      · simp [watchRecorder, isCompletion, ha, hs]
    | true =>
      by_cases hid : request.requestId = id
      · simp [watchRecorder, isCompletion, isAcceptance, ha, hid]
      · simp [watchRecorder, isCompletion, isAcceptance, ha, hid]
  | out output =>
    cases output with
    | event message =>
      have hr : l.record = some message.requestId := h.2.2
      by_cases hc : message.methodId = some .recordComplete
      · by_cases hid : message.requestId = id
        · simp [watchRecorder, isCompletion, isAcceptance, hc, hid, hr]
        · simp [watchRecorder, isCompletion, isAcceptance, hc, hid]
      · simp [watchRecorder, isCompletion, isAcceptance, hc]
    | _ => exact Nat.le_refl _
  | _ => exact Nat.le_refl _

/-! ## The recorder -/

structure RecorderFollowed (s : RecorderStateMachine D) (l : RecorderWatch) : Prop where
  active : s.active = !l.inactive
  record : s.active → l.record = s.record.map Message.requestId
  stopped : l.stopped = false

variable {s : RecorderStateMachine D} {l : RecorderWatch}

theorem recorderFollowed_responseDispatch (message : Message RecorderMethod D) (ha : s.active = !l.inactive)
    (hr : s.active → l.record = s.record.map Message.requestId) (hs : l.stopped = l.inactive) :
    Shown watchRecorder RecorderFollowed RecorderFits l (recorderResponseDispatch s message).machine
      ((recorderResponseDispatch s message).out.map .out) := by
  unfold recorderResponseDispatch
  cases hi : l.inactive with
  | false =>
    obtain ha : s.active := by simpa [hi] using ha
    rw [if_pos ha]
    have hs : l.stopped = false := by rw [hs, hi]
    refine shown_cons ⟨by simp [hs], hi⟩ (shown_nil ⟨?_, hr, hs⟩)
    simp [watchRecorder, ha, hi]
  | true =>
    obtain ha : s.active = false := by simpa [hi] using ha
    rw [if_neg (by simp [ha])]
    have hs : l.stopped = true := by rw [hs, hi]
    refine shown_cons ⟨fun _ => rfl, hs⟩ (shown_nil ⟨?_, by simp [ha], rfl⟩)
    simp [watchRecorder, ha, hi]

variable {message : Message RecorderEvent D}

theorem recorderFollowed_eventDispatch {s s' : RecorderStateMachine D} (h : RecorderFollowed s l)
    (ho : isOfRecord s message) {sent : Message RecorderEvent D} (hn : Answers sent message)
    (hc : s'.active = s.active)
    (hr : s'.record = if message.methodId = some .recordComplete then none else s.record) :
    Shown watchRecorder RecorderFollowed RecorderFits l (recorderEventDispatch s' sent).machine
      ((recorderEventDispatch s' sent).out.map .out) := by
  obtain ⟨record, hs, hid⟩ : ∃ record, s.record = some record ∧ record.requestId = message.requestId := by
    simpa [isOfRecord, Option.any_eq_true] using ho
  unfold recorderEventDispatch
  cases ha : s'.active with
  | true =>
    have ha' : s.active := hc.symm.trans ha
    have hi : l.inactive = false := by simpa [ha'] using h.active.symm
    have hsn : l.record = some sent.requestId := by rw [h.record ha', hs, hn.1, ← hid]; rfl
    refine shown_cons ⟨by simp [h.stopped], hi, hsn⟩ (shown_nil ⟨?_, fun _ => ?_, h.stopped⟩)
    · simp [watchRecorder, ha, hi]
    · rw [hr]
      simp only [watchRecorder, hn.2]
      split_ifs
      · rfl
      · exact h.record ha'
  | false => exact shown_nil ⟨by rw [hc]; exact h.active, by simp [ha], h.stopped⟩

variable (ops : HeaderOps D)

variable {r : RecorderHandled D}

theorem recorderFollowed_request {message : Message RecorderMethod D} (h : RecorderFollowed s l)
    (ha : s.active) (hr : RecorderRequested s message r) :
    Shown watchRecorder RecorderFollowed RecorderFits l r.machine (.handed message :: r.out.map .out) := by
  have hi : l.inactive = false := by simpa [ha] using h.active.symm
  refine shown_cons ⟨by simp [h.stopped], trivial⟩ ?_
  cases hr with
  | dispatched properties sent =>
    exact shown_cons ⟨by simp [watchRecorder, h.stopped], trivial⟩ (shown_nil ⟨h.active, h.record, h.stopped⟩)
  | answered response =>
    exact recorderFollowed_responseDispatch (l := l) response h.active h.record (h.stopped.trans hi.symm)

theorem recorderFollowed_response {owes : Owes RecorderMethod D} {awaited : List (Message RecorderMethod D)}
    {request message : Message RecorderMethod D} (h : RecorderFollowed s l) (hg : RecorderGood s none owes awaited)
    (hf : awaited.find? (fun request => Answers message request) = some request)
    (hr : RecorderResponded s request message r) :
    Shown watchRecorder RecorderFollowed RecorderFits l r.machine (.engineResponse request message :: r.out.map .out) := by
  obtain ⟨-, -, -, ⟨-, hl, -⟩ | ⟨-, -, -, hs, -⟩⟩ := hg.stage.found hf
  · simp at hl
  have hi : l.inactive → request.methodId = some .stop := by
    intro hn
    exact (hs (by rw [h.active, hn]; rfl)).1
  refine shown_cons ⟨by simp [h.stopped], hi⟩ ?_
  cases hr with
  | record hc =>
    by_cases hp : message.requestState = .inProgress
    · have ha : accepts (· == .record) request message = true := by simp [accepts, hc, hp]
      refine recorderFollowed_responseDispatch (s := recordResponded s request message) message ?_ ?_ rfl
      · simpa [recordResponded, hp, recorderStateChange, watchRecorder] using h.active
      · simp [recordResponded, hp, recorderStateChange, watchRecorder, ha]
    · have ha : accepts (· == .record) request message = false := by simp [accepts, hp]
      refine recorderFollowed_responseDispatch (s := recordResponded s request message) message ?_ ?_ rfl
      · simpa [recordResponded, hp, watchRecorder] using h.active
      · simpa [recordResponded, hp, watchRecorder, ha, hc] using h.record
  | dispatched response hc hs _ =>
    have ha : accepts (· == .record) request message = false := by
      cases hm : request.methodId <;> simp_all [accepts]
    have hne : request.methodId ≠ some .stop := by simpa [stopsRecord] using hs
    refine recorderFollowed_responseDispatch response h.active (fun ht => ?_) rfl
    simpa [watchRecorder, ha, hne] using h.record ht
  | stopped response hm _ =>
    have ha : accepts (· == .record) request message = false := by simp [accepts, hm]
    refine recorderFollowed_responseDispatch (s := recorderStateChange s .idle) response h.active ?_ rfl
    simp [recorderStateChange, watchRecorder, ha, hm]

theorem recorderFollowed_event (h : RecorderFollowed s l) (hr : RecorderEvented s message r) :
    Shown watchRecorder RecorderFollowed RecorderFits l r.machine (.engineEvent message :: r.out.map .out) := by
  refine shown_cons ⟨by simp [h.stopped], trivial⟩ ?_
  cases hr with
  | refused => exact shown_nil h
  | started sent ha hm ho =>
    exact recorderFollowed_eventDispatch h ho ha rfl (by simp [hm])
  | completed sent ha hc =>
    obtain ⟨hm, ho, -⟩ := (completesRecord_iff s message).1 hc
    exact recorderFollowed_eventDispatch h ho ha rfl (by simp [hm, recorderStateChange])

def recorderWatched : Watched (recorderContract ops) watchRecorder RecorderFits where
  rel s _ l := RecorderFollowed s l
  request := fun _ hactive hsome _ hr hrel => by
    obtain ⟨r', hr', hrqd⟩ := recorderRequestUpdate_requested ops hsome
    obtain rfl := Option.some.inj (hr.symm.trans hr')
    exact recorderFollowed_request hrel hactive hrqd
  response := fun hgood _ hfind hr hrel => by
    obtain ⟨r', hr', hresponded⟩ := recorderResponseUpdate_responded ops hgood hfind
    obtain rfl := Option.some.inj (hr.symm.trans hr')
    exact recorderFollowed_response hrel hgood hfind hresponded
  event := fun {s _ _ message _ _} _ _ hr hrel => by
    obtain ⟨r', hr', hevented⟩ := recorderEventUpdate_evented ops s message
    obtain rfl := Option.some.inj (hr.symm.trans hr')
    exact recorderFollowed_event hrel hevented
  deactivate := fun {s _ _ r l} _ hr hrel => by
    refine shown_cons ⟨by simp [hrel.stopped], trivial⟩ ?_
    have hr : recorderStateDeactivate s = some r := hr
    have hinactive : ∀ s' : RecorderStateMachine D, s'.active = false →
        RecorderFollowed s' { l with inactive := true } := fun s' hactive =>
      ⟨by simp [hactive], by simp [hactive], hrel.stopped⟩
    unfold recorderStateDeactivate at hr
    dsimp only at hr
    split_ifs at hr
    · split at hr
      · obtain rfl := Option.some.inj hr
        exact shown_nil (hinactive _ rfl)
      · obtain rfl := Option.some.inj hr
        exact shown_cons ⟨by simp [watchRecorder, hrel.stopped], trivial⟩ (shown_nil (hinactive _ rfl))
    · obtain rfl := Option.some.inj hr
      exact shown_nil (hinactive _ rfl)
  proceed := fun hgood _ => by
    have hpend := RecorderGood.pending hgood
    simp at hpend

def recorderOf (trace : List (Trace RecorderMethod RecorderEvent D)) : RecorderWatch := (run watchRecorder {} trace).1

/-- **The recorder state machine is correct**: in every run a new recorder is recording just when it has a RECORD
request, no handler has read through a null one, each request is answered once, every event is of the RECORD request in
progress, which is completed once at most, nothing goes to the client once the recorder is told to deactivate, and that
it is deactivated is told just when the engine has responded to the internal STOP. -/
theorem recorder_correct {inputs : List (Input RecorderMethod RecorderEvent D)}
    (h : Legal (recorderStateMachine ops) Conditions.none inputs) :
    AnsweredOnce (recorderStateMachine ops) inputs ∧
      ((sessionAfter (recorderStateMachine ops) inputs).machine.state = .recording ↔
        (sessionAfter (recorderStateMachine ops) inputs).machine.record ≠ none) ∧
      CompletedOnce (· == .record) .recordComplete (traceOf (recorderStateMachine ops) inputs) ∧
      EachStep watchRecorder RecorderFits {} (traceOf (recorderStateMachine ops) inputs) ∧
      (recorderOf (traceOf (recorderStateMachine ops) inputs)).stopped = false := by
  have hcreate : RecorderFollowed (recorderStateMachine ops).create {} := ⟨rfl, fun _ => rfl, rfl⟩
  obtain ⟨⟨⟨-, hgood, -⟩, hfollowed⟩, hfits⟩ := (recorderWatched ops).run_shown hcreate h
  refine ⟨(recorderContract ops).run_answeredOnce h, recording_iff (RecorderGood.record hgood), fun id => ?_, hfits,
    hfollowed.stopped⟩
  simpa using countP_le_of_eachStep _ _ (fun l : RecorderWatch => if l.record = some id then 1 else 0)
    (recordCompletion_le id) hfits

/-- A RECORD request is completed, another one is in progress when the session terminates. -/
def recordTwice : List (Input RecorderMethod RecorderEvent Unit) :=
  [.client (plainRequest 1 .record), .response (plainMessage 1 .record .inProgress 200), .pop,
    .event (plainMessage 1 .recordComplete .complete 0), .client (plainRequest 2 .record),
    .response (plainMessage 2 .record .inProgress 200), .pop, .terminate, .event (plainMessage 2 .recordComplete .complete 0),
    .response (plainMessage 3 .stop .complete 200)]

/-- The recorder is deactivated after the STOP request with request-id 3. -/
theorem recorder_correct_recordTwice :
    AnsweredOnce (recorderStateMachine plainHeaderOps) recordTwice ∧
      ((sessionAfter (recorderStateMachine plainHeaderOps) recordTwice).machine.state = .recording ↔
        (sessionAfter (recorderStateMachine plainHeaderOps) recordTwice).machine.record ≠ none) ∧
      CompletedOnce (· == .record) .recordComplete (traceOf (recorderStateMachine plainHeaderOps) recordTwice) ∧
      EachStep watchRecorder RecorderFits {} (traceOf (recorderStateMachine plainHeaderOps) recordTwice) ∧
      (recorderOf (traceOf (recorderStateMachine plainHeaderOps) recordTwice)).stopped = false :=
  recorder_correct plainHeaderOps (by decide +kernel)

end UniMrcp.MrcpEngine
