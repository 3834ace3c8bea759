import UniMrcp.MrcpEngine.StopLists
import UniMrcp.MrcpEngine.Synth.Contract

/-!
# The pending SPEAK requests

The SPEAK requests that are queued up go to the engine in order, unless they are removed.
-/

namespace UniMrcp.MrcpEngine

open Lib Mrcp List

variable {μ ε D : Type}

/-- The requests that were queued up, those that were processed, and those that were removed. -/
structure QueueWatch (μ D : Type) where
  queued : List (Message μ D) := []
  served : List (Message μ D) := []
  removed : List (Message μ D) := []
  /-- The requests that were removed, and have to be listed in the response. -/
  unlisted : List (Message μ D) := []
  /-- The request that is being processed, and has to go to the engine. -/
  processing : Option (Message μ D) := none

def watchQueue (l : QueueWatch μ D) : Trace μ ε D → QueueWatch μ D × Unit
  | .out (.queueUp message) => ({ l with queued := l.queued ++ [message] }, ())
  | .out (.removePending message) =>
    ({ l with removed := l.removed ++ [message], unlisted := l.unlisted ++ [message] }, ())
  | .out (.processPending message) => ({ l with served := l.served ++ [message], processing := some message }, ())
  | .out (.request _) => ({ l with processing := none }, ())
  | .out (.response _) => ({ l with unlisted := [] }, ())
  | .out .deactivated => ({ l with unlisted := [] }, ())
  | _ => (l, ())

/-- A request that is processed goes to the engine next, and requests that are removed are listed in the next response.
-/
def QueueServed (l : QueueWatch μ D) (t : Trace μ ε D) : Prop :=
  (∀ message, l.processing = some message → t = .out (.request message)) ∧
    match t with
    | .out (.response response) =>
      ∀ message ∈ l.unlisted, ∃ ids, Lists response.header ids ∧ message.requestId ∈ ids
    | .out (.removePending _) => True
    | .out .deactivated => True
    | _ => l.unlisted = []

/-! ## The queue of the synthesizer -/

instance (ids : List Nat) : Decidable (IdsFit ids) := inferInstanceAs (Decidable (_ ∧ _ ∧ (_ ∨ _)))

/-- The pending requests that a STOP request removes at once fit into the list of its response. -/
def stopFits (s : SynthStateMachine D) (message : Message SynthMethod D) : Bool :=
  message.methodId != some .stop || s.speaker.any (selected message) ||
    decide (IdsFit ((s.queue.filter (selected message)).map Message.requestId))

/-- A response to STOP removes no pending request that it cannot list, one to BARGE-IN-OCCURRED finds none, and one to a
queued SPEAK request leaves none behind when it is not accepted. -/
def servesQueue (s : SynthStateMachine D) (message : Message SynthMethod D) : Bool :=
  match message.methodId with
  | some .stop => !s.active || s.activeRequest.all fun request => (s.queue.filter (selected request)).isEmpty
  | some .bargeInOccurred => s.queue.isEmpty
  | some .speak => !s.isPending || message.requestState == .inProgress || s.queue.isEmpty
  | _ => true

def synthQueueConditions : Conditions (SynthStateMachine D) SynthMethod SynthEvent D where
  request s pending message := synthConditions.request s pending message && stopFits s message
  response s message := synthConditions.response s message && servesQueue s message
  event := synthConditions.event

theorem synthQueueConditions_implies : (synthQueueConditions (D := D)).Implies synthConditions :=
  ⟨fun _ _ _ h => (Bool.and_eq_true_iff.1 h).1, fun _ _ h => (Bool.and_eq_true_iff.1 h).1, fun _ _ _ h => h⟩

/-- The requests that were queued up are those that were served, wait or were removed, in order but for the last. -/
structure InOrder (queued served waiting removed : List (Message μ D)) : Prop where
  perm : queued.Perm (served ++ waiting ++ removed)
  order : (served ++ waiting).Sublist queued

section InOrder

variable {queued served waiting removed : List (Message μ D)}

theorem InOrder.push (h : InOrder queued served waiting removed) (message : Message μ D) :
    InOrder (queued ++ [message]) served (waiting ++ [message]) removed := by
  refine ⟨?_, ?_⟩
  · refine (h.perm.append_right [message]).trans ?_
    simp only [append_assoc]
    exact (perm_append_comm.append_left waiting).append_left served
  · rw [← append_assoc]
    exact h.order.append_right [message]

theorem InOrder.serve {message : Message μ D} (h : InOrder queued served (message :: waiting) removed) :
    InOrder queued (served ++ [message]) waiting removed :=
  ⟨by simpa using h.perm, by simpa using h.order⟩

theorem InOrder.remove {front queue : List (Message μ D)} (h : InOrder queued served (front ++ queue) removed)
    (p : Message μ D → Bool) : InOrder queued served (front ++ queue.filter (!p ·)) (removed ++ queue.filter p) := by
  refine ⟨h.perm.trans ?_, List.Sublist.trans ?_ h.order⟩
  · have hf : (queue.filter (!p ·) ++ (removed ++ queue.filter p)).Perm (queue ++ removed) := by
      refine (perm_append_comm.append_left _).trans ?_
      rw [← append_assoc]
      exact (perm_append_comm.trans (filter_append_perm p queue)).append_right removed
    simp only [append_assoc]
    exact ((hf.append_left front).append_left served).symm
  · exact (List.Sublist.refl _).append ((List.Sublist.refl _).append filter_sublist)

end InOrder

/-- The requests that were queued up are served in order, and pending requests are left only while one is spoken or
processed. -/
structure Queued (s : SynthStateMachine D) (pending : Option (Message SynthMethod D)) (l : QueueWatch SynthMethod D) :
    Prop where
  inOrder : InOrder l.queued l.served (pending.toList ++ s.queue) l.removed
  unlisted : l.unlisted = []
  processing : l.processing = none
  drained : s.speaker = none → s.isPending = false → pending = none → s.queue = []

theorem run_watchQueue_removed {l : QueueWatch μ D} (removed : List (Message μ D)) :
    (run watchQueue l ((removed.map (Output.removePending (ε := ε))).map .out)).1 =
      { l with removed := l.removed ++ removed, unlisted := l.unlisted ++ removed } := by
  induction removed generalizing l with
  | nil => simp
  | cons message removed ih =>
    simp only [map_cons, run_cons, watchQueue]
    rw [ih]
    simp

theorem eachStep_watchQueue_removed {l : QueueWatch μ D} (hp : l.processing = none)
    (removed : List (Message μ D)) :
    EachStep watchQueue QueueServed l ((removed.map (Output.removePending (ε := ε))).map .out) := by
  induction removed generalizing l with
  | nil => trivial
  | cons message removed ih => exact ⟨⟨by simp [hp], trivial⟩, ih hp⟩

variable {l : QueueWatch SynthMethod D}

variable {pending : Option (Message SynthMethod D)}

theorem queued_responseDispatch (s : SynthStateMachine D) (removed : List (Message SynthMethod D))
    (response : Message SynthMethod D)
    (hi : InOrder l.queued l.served (pending.toList ++ s.queue) (l.removed ++ removed))
    (hu : l.unlisted = []) (hp : l.processing = none)
    (hd : s.speaker = none → s.isPending = false → pending = none → s.queue = [])
    (hl : s.active → ∀ message ∈ removed, ∃ ids, Lists response.header ids ∧ message.requestId ∈ ids)
    (pending' : Option (Message SynthMethod D)) :
    Shown watchQueue (Queued · pending ·) QueueServed l (synthResponseDispatch s response).machine
      ((({ (synthResponseDispatch s response).precede (removed.map .removePending) with pending := pending' } :
        SynthHandled D).out).map .out) := by
  have hm := eachStep_watchQueue_removed (ε := SynthEvent) hp removed
  have hr := run_watchQueue_removed (l := l) (ε := SynthEvent) removed
  show Shown _ _ _ _ _ ((removed.map Output.removePending ++
    if s.active then [Output.response response] else [Output.deactivated]).map Trace.out)
  rw [map_append]
  refine shown_append (R := fun _ m => m = { l with removed := l.removed ++ removed, unlisted := l.unlisted ++ removed })
    (s := ()) ⟨hr, hm⟩ ?_
  rw [hr]
  cases ha : s.active with
  | true =>
    refine shown_cons ⟨by simp [hp], ?_⟩ (shown_nil ⟨hi, rfl, hp, hd⟩)
    simpa [hu] using hl ha
  | false => exact shown_cons ⟨by simp [hp], trivial⟩ (shown_nil ⟨hi, rfl, hp, hd⟩)

theorem shown_eventDispatch {R : SynthStateMachine D → QueueWatch SynthMethod D → Prop} {s' : SynthStateMachine D}
    (s : SynthStateMachine D) (message : Message SynthEvent D) (out : List (Output SynthMethod SynthEvent D))
    (hu : l.unlisted = []) (hp : l.processing = none)
    (h : Shown watchQueue R QueueServed l s' (out.map .out)) :
    Shown watchQueue R QueueServed l s' (((synthEventDispatch s message).out ++ out).map .out) := by
  unfold synthEventDispatch
  cases s.active with
  | true => exact shown_cons ⟨by simp [hp], hu⟩ h
  | false => exact h

variable (ops : HeaderOps D)

variable {s : SynthStateMachine D} {r : SynthHandled D}

variable {message : Message SynthMethod D}

theorem queued_request (h : Queued s pending l) (ht : stopFits s message)
    (hr : SynthRequested ops s message r) :
    Shown watchQueue (Queued · pending ·) QueueServed l r.machine (.handed message :: r.out.map .out) := by
  have hh : QueueServed l (.handed message : Trace SynthMethod SynthEvent D) := ⟨by simp [h.processing], h.unlisted⟩
  refine shown_cons hh ?_
  cases hr with
  | dispatched properties sent =>
    exact shown_cons ⟨by simp [watchQueue, h.processing], h.unlisted⟩ (shown_nil ⟨h.inOrder, h.unlisted, rfl, h.drained⟩)
  | answered response =>
    exact queued_responseDispatch s [] response (by simpa using h.inOrder) h.unlisted h.processing h.drained (by simp) none
  | queued queued response hs =>
    -- the machine has a speaker
    have hd : s.speaker = none → s.isPending = false → pending = none → s.queue ++ [queued] = [] :=
      fun hn => absurd hn hs
    refine shown_cons ⟨by simp [watchQueue, h.processing], h.unlisted⟩ ?_
    refine queued_responseDispatch { s with queue := s.queue ++ [queued] }
      (l := { l with queued := l.queued ++ [queued] }) [] response ?_ h.unlisted h.processing hd (by simp) none
    simpa using h.inOrder.push queued
  | removed response hmt hs hrs =>
    refine queued_responseDispatch { s with queue := s.queue.filter (!selected message ·) }
      (s.queue.filter (selected message)) response (h.inOrder.remove _) h.unlisted h.processing ?_ ?_ none
    · intro hn hp hpr
      simp [h.drained hn hp hpr]
    · intro _ removed hm
      have hf : IdsFit ((s.queue.filter (selected message)).map Message.requestId) := by
        simpa [stopFits, hmt, hs] using ht
      refine ⟨(s.queue.filter (selected message)).map Message.requestId, ?_, mem_map_of_mem hm⟩
      rw [hrs]
      exact (lists_removed_iff (show NoList (responseCreate ops message).header from noList_create ops)
        s.queue message).2 hf

theorem queued_response {owes : Owes SynthMethod D} {awaited : List (Message SynthMethod D)}
    {request message : Message SynthMethod D} (h : Queued s none l) (hd : SynthGood s none owes awaited)
    (hs : servesQueue s message)
    (hf : awaited.find? (fun request => Answers message request) = some request)
    (hr : SynthResponded ops s request message r) :
    Shown watchQueue (Queued · r.pending ·) QueueServed l r.machine
      (.engineResponse request message :: r.out.map .out) := by
  have hg : QueueServed l (.engineResponse request message : Trace SynthMethod SynthEvent D) :=
    ⟨by simp [h.processing], h.unlisted⟩
  refine shown_cons hg ?_
  obtain ⟨hc, han, -, hcs⟩ := hd.stage.found hf
  cases hr with
  | speak hk =>
    obtain ⟨hsa, hsm, -, -⟩ := speakResponded_same s request message
    have hm : message.methodId = some .speak := han.2.trans hk
    -- others are left in the queue only if the request was accepted
    have hdr : (speakResponded s request message).speaker = none → s.isPending →
        (speakResponded s request message).queue = [] := by
      intro hn hp
      have hs : message.requestState = .inProgress ∨ s.queue = [] := by
        simpa [servesQueue, hm, hp] using hs
      rcases hs with hpr | he
      · simp [speakResponded, hpr, synthStateChange] at hn
      · rw [hsm, he]
    have hsp : (speakResponded s request message).speaker = none → s.speaker = none := by
      unfold speakResponded
      split_ifs
      · simp [synthStateChange]
      · exact id
    rcases hcs with ⟨-, hp, -⟩ | ⟨hp, -⟩
    · rw [synthResponseSpeak_popped ops hp]
      have hl : Queued { speakResponded s request message with isPending := false } none l :=
        ⟨by simpa [hsm] using h.inOrder, h.unlisted, h.processing, fun hn _ _ => hdr hn hp⟩
      have hh := shown_eventDispatch { speakResponded s request message with isPending := false }
        (speechMarkerCreate ops request) [] h.unlisted h.processing (shown_nil (R := (Queued · none ·)) hl)
      rwa [append_nil] at hh
    · rw [synthResponseSpeak_direct ops hp]
      refine queued_responseDispatch (speakResponded s request message) [] message ?_ h.unlisted h.processing ?_ (by simp)
        none
      · simpa [hsm, synthResponseDispatch] using h.inOrder
      · intro hn _ _
        rw [hsm]
        exact h.drained (hsp hn) hp rfl
  | dispatched response hk ht =>
    exact queued_responseDispatch s [] response (by simpa using h.inOrder) h.unlisted h.processing h.drained (by simp) none
  | changed state response hk ht hst hsp =>
    refine queued_responseDispatch (synthStateChange s state) [] response ?_ h.unlisted h.processing ?_ (by simp) none
    · simpa [synthResponseDispatch, synthStateChange] using h.inOrder
    · intro hn
      simp [synthStateChange, hst, hsp] at hn
  | stopped response ht =>
    have hm : message.methodId = some .stop := han.2.trans ht
    have hn : s.active → s.queue.filter (selected request) = [] := by
      intro ha
      have hs : (s.queue.filter (selected request)).isEmpty := by
        simpa only [servesQueue, hm, ha, hc, Bool.not_true, Bool.false_or, Option.all_some] using hs
      exact isEmpty_iff.1 hs
    have hw := h.inOrder.remove (selected request)
    refine queued_responseDispatch
      (synthStateChange { s with queue := (s.queue.filter (!selected request ·)).tail } .idle)
      (s.queue.filter (selected request)) response ?_ h.unlisted h.processing ?_ ?_ _
    · have hspl : ∀ queue : List (Message SynthMethod D), queue.head?.toList ++ queue.tail = queue := by
        rintro (_ | ⟨_, _⟩) <;> rfl
      show InOrder l.queued l.served
        ((s.queue.filter (!selected request ·)).head?.toList ++ (s.queue.filter (!selected request ·)).tail) _
      rw [hspl]
      exact hw
    · intro _ _ hhd
      have he : s.queue.filter (!selected request ·) = [] := List.head?_eq_none_iff.1 hhd
      show (s.queue.filter (!selected request ·)).tail = []
      rw [he]
      rfl
    · intro ha removed hmm
      have ha : s.active := ha
      simp [hn ha] at hmm
  | bargedIn response ht =>
    have hm : message.methodId = some .bargeInOccurred := han.2.trans ht
    have he : s.queue = [] := by simpa [servesQueue, hm] using hs
    refine queued_responseDispatch (synthStateChange { s with queue := s.queue.filter (!selected request ·) } .idle)
      (s.queue.filter (selected request)) response (h.inOrder.remove _) h.unlisted h.processing ?_ ?_ none
    · simp [synthStateChange, he]
    · simp [he]

theorem queued_event {message : Message SynthEvent D} (h : Queued s none l) (hr : SynthEvented s message r) :
    Shown watchQueue (Queued · none ·) QueueServed l r.machine (.engineEvent message :: r.out.map .out) := by
  have he : QueueServed l (.engineEvent message : Trace SynthMethod SynthEvent D) :=
    ⟨by simp [h.processing], h.unlisted⟩
  refine shown_cons he ?_
  cases hr with
  | refused => exact shown_nil h
  | dispatched sent =>
    have hs := shown_eventDispatch s sent [] h.unlisted h.processing (shown_nil (R := (Queued · none ·)) h)
    rwa [append_nil] at hs
  | completed sent _ hq =>
    have hl : Queued (synthStateChange s .idle) none l := ⟨h.inOrder, h.unlisted, h.processing, fun _ _ _ => hq⟩
    have hs := shown_eventDispatch s sent [] h.unlisted h.processing (shown_nil (R := (Queued · none ·)) hl)
    rwa [append_nil] at hs
  | processed sent pending queue _ hq =>
    refine shown_eventDispatch s sent _ h.unlisted h.processing ?_
    have hi : InOrder l.queued l.served (pending :: queue) l.removed := by simpa [hq] using h.inOrder
    refine shown_cons ⟨by simp [watchQueue, h.processing], h.unlisted⟩ (shown_cons ⟨?_, h.unlisted⟩ (shown_nil ?_))
    · rintro _ ⟨⟩
      rfl
    · exact ⟨hi.serve, h.unlisted, rfl, fun _ hf => by simp [synthPendingProcess] at hf⟩

def synthQueueWatched :
    Watched ((synthContract ops).mono synthQueueConditions_implies) watchQueue QueueServed where
  rel := Queued
  request := fun hgood hactive hsome hc hr hrel => by
    obtain ⟨r', hr', hrqd⟩ := synthRequestUpdate_requested ops (SynthGood.speaker hgood) hsome
    obtain rfl := Option.some.inj (hr.symm.trans hr')
    exact queued_request ops hrel (Bool.and_eq_true_iff.1 hc).2 hrqd
  response := fun hgood hc hfind hr hrel => by
    obtain ⟨hc, hserves⟩ := Bool.and_eq_true_iff.1 hc
    obtain ⟨r', hr', hresponded⟩ := synthResponseUpdate_keeps ops hgood hc hfind
    obtain rfl := Option.some.inj (hr.symm.trans hr')
    exact queued_response ops hrel hgood hserves hfind hresponded
  event := fun {s _ _ message _ _} _ _ hr hrel => by
    obtain ⟨r', hr', hevented⟩ := synthEventUpdate_evented ops s message
    obtain rfl := Option.some.inj (hr.symm.trans hr')
    exact queued_event hrel hevented
  deactivate := fun {s _ _ r l} _ hr hrel => by
    refine shown_cons ⟨by simp [hrel.processing], hrel.unlisted⟩ ?_
    have hr : synthStateDeactivate s = some r := hr
    unfold synthStateDeactivate at hr
    dsimp only at hr
    split at hr
    · obtain rfl := Option.some.inj hr
      exact shown_nil ⟨hrel.inOrder, hrel.unlisted, hrel.processing, hrel.drained⟩
    · obtain rfl := Option.some.inj hr
      exact shown_cons ⟨by simp [watchQueue, hrel.processing], hrel.unlisted⟩
        (shown_nil ⟨hrel.inOrder, hrel.unlisted, rfl, hrel.drained⟩)
  proceed := fun {s message _ _ l} _ hrel => by
    refine shown_cons ⟨by simp [hrel.processing], hrel.unlisted⟩ (shown_cons ⟨?_, hrel.unlisted⟩ (shown_nil ?_))
    · rintro _ ⟨⟩
      rfl
    · exact ⟨InOrder.serve hrel.inOrder, hrel.unlisted, rfl,
        fun _ hfalse => by simp [synthStateMachine, synthPendingProcess] at hfalse⟩

def queueOf (trace : List (Trace μ ε D)) : QueueWatch μ D := (run watchQueue {} trace).1

/-- Of three SPEAK requests, the engine refuses the second one when it is taken from the queue. -/
def speakRefused : List (Input SynthMethod SynthEvent Unit) :=
  [.client (plainRequest 1 .speak), .response (plainMessage 1 .speak .inProgress 200), .pop,
    .client (plainRequest 2 .speak), .pop, .client (plainRequest 3 .speak), .pop,
    .event (plainMessage 1 .speakComplete .complete 0), .response (plainMessage 2 .speak .complete 407)]

end UniMrcp.MrcpEngine
