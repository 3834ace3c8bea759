import UniMrcp.MrcpEngine.Served

/-!
# Machines with a queue of pending requests

The synthesizer and the recognizer have one slot for the request that waits for its response, which the requests of the
client and those from the queue share.
-/

namespace UniMrcp.MrcpEngine

open Lib

variable {σ μ ε D τ π : Type}

variable {l : τ}

theorem run_passed {watch : τ → Trace μ ε D → τ × π} {first : List (Trace μ ε D)}
    (h : ∀ t ∈ first, ∀ l, (watch l t).1 = l) : (run watch l first).1 = l := by
  induction first with
  | nil => rfl
  | cons t first ih =>
    obtain ⟨ht, hf⟩ := List.forall_mem_cons.1 h
    simpa [run_cons, ht] using ih hf

theorem run_logged {watch : τ → Trace μ ε D → τ × π}
    (hw : ∀ output : Output μ ε D, output.isLogged → ∀ l, (watch l (.out output)).1 = l)
    {first : List (Output μ ε D)} (h : ∀ output ∈ first, output.isLogged) (l : τ) (out : List (Output μ ε D)) :
    (run watch l ((first ++ out).map .out)).1 = (run watch l (out.map .out)).1 := by
  have hf : (run watch l (first.map .out)).1 = l := by
    apply run_passed
    intro t ht
    obtain ⟨output, ho, rfl⟩ := List.mem_map.1 ht
    exact hw output (h output ho)
  rw [List.map_append, run_append, hf]

variable [DecidableEq μ] {M : StateMachine σ μ ε D} {c c' : Conditions σ μ ε D}

structure Conditions.Implies (c' c : Conditions σ μ ε D) : Prop where
  request : ∀ s pending message, c'.request s pending message → c.request s pending message
  response : ∀ s message, c'.response s message → c.response s message
  event : ∀ s waits message, c'.event s waits message → c.event s waits message

def Contract.mono (C : Contract M c) (h : c'.Implies c) : Contract M c' where
  good := C.good
  create := C.create
  awaits := C.awaits
  request := fun hgood hact hmeth hc => C.request hgood hact hmeth (h.request _ _ _ hc)
  response := fun hgood hc hfind => C.response hgood (h.response _ _ hc) hfind
  event := fun hgood hc => C.event hgood (h.event _ _ _ hc)
  deactivate := C.deactivate
  proceed := C.proceed

/-- What relates a machine, its contract and its pending request to a watcher: every handler keeps it, and what is seen
has `P`. -/
structure Watched (C : Contract M c) (watch : τ → Trace μ ε D → τ × π) (P : τ → Trace μ ε D → Prop) where
  rel : σ → Option (Message μ D) → τ → Prop
  request : ∀ {s pending awaited message r l}, C.good s pending .nothing awaited → M.active s →
    message.methodId.isSome → c.request s pending message → M.requestUpdate s message = some r →
    rel s pending l → Shown watch (rel · pending ·) P l r.machine (.handed message :: r.out.map .out)
  response : ∀ {s owes awaited request message r l}, C.good s none owes awaited → c.response s message →
    awaited.find? (fun request => Answers message request) = some request → M.responseUpdate s message = some r →
    rel s none l → Shown watch (rel · r.pending ·) P l r.machine (.engineResponse request message :: r.out.map .out)
  event : ∀ {s owes awaited message r l}, C.good s none owes awaited →
    c.event s (owes.request.isSome) message → M.eventUpdate s message = some r →
    rel s none l → Shown watch (rel · none ·) P l r.machine (.engineEvent message :: r.out.map .out)
  deactivate : ∀ {s pending awaited r l}, C.good s pending .nothing awaited → M.deactivate s = some r →
    rel s pending l → Shown watch (rel · pending ·) P l r.machine (.deactivate r.status :: r.out.map .out)
  proceed : ∀ {s message owes awaited l}, C.good s (some message) owes awaited → rel s (some message) l →
    Shown watch (rel · none ·) P l (M.pendingProcess s message) [.out (.processPending message), .out (.request message)]

variable {C : Contract M c} {watch : τ → Trace μ ε D → τ × π} {P : τ → Trace μ ε D → Prop}

def Watched.Related (W : Watched C watch P) (h : Served σ μ ε D) (l : τ) : Prop :=
  Serves C h ∧ W.rel h.machine h.pending l

variable (W : Watched C watch P)

theorem Watched.related_of_stepped {owes : Owes μ D} {r : Served σ μ ε D × List (Trace μ ε D)} (hr : Stepped C owes r)
    (hs : Shown watch (fun h l => W.rel h.machine h.pending l) P l r.1 r.2) : Shown watch W.Related P l r.1 r.2 :=
  hs.mono fun _ hl => ⟨hr.1, hl⟩

variable {h : Served σ μ ε D}

theorem Watched.hand_shown {message : Message μ D} (hg : C.good h.machine h.pending .nothing h.awaited)
    (ha : M.active h.machine) (hm : message.methodId.isSome)
    (hc : c.request h.machine h.pending message) (hl : W.rel h.machine h.pending l) :
    Shown watch (fun h l => W.rel h.machine h.pending l) P l (h.hand M message).1 (h.hand M message).2 := by
  obtain ⟨r, hr, hp, -⟩ := C.request hg ha hm hc
  have hs := W.request hg ha hm hc hr hl
  unfold Served.hand
  rw [hr]
  simpa [Served.settle, hp, Shown] using hs

theorem Watched.step_shown {input : Input μ ε D} (hrl : W.Related h l) (he : enabled h input)
    (hc : c.met h input) : Shown watch W.Related P l (h.step M input).1 (h.step M input).2 := by
  obtain ⟨hs, hl⟩ := hrl
  refine W.related_of_stepped (step_stepped hs he hc) ?_
  obtain ⟨hsn, hg, ha⟩ := hs
  cases input with
  | client message =>
    obtain ⟨-, hm⟩ : (h.popping = false ∧ h.pending = none) ∧ message.methodId.isSome := by
      simpa [enabled] using he
    show Shown watch _ P l (h.client M message).1 (h.client M message).2
    unfold Served.client
    split_ifs with hb
    · exact shown_nil hl
    · obtain ⟨hn, ht⟩ : h.activeRequest = none ∧ h.terminated = false := by simpa using hb
      have ho : h.owes = .nothing := hsn.owes_of_idle hn ht
      rw [ho] at hg
      refine W.hand_shown hg (ha ht) hm ?_ hl
      simpa [Conditions.met, hn, ht] using hc
  | response message =>
    obtain ⟨⟨-, hp⟩, han⟩ : (h.popping = false ∧ h.pending = none) ∧
        (h.awaited.any fun request => Answers message request) = true := by
      simpa only [enabled, Bool.and_eq_true, Bool.not_eq_true', Option.isNone_iff_eq_none] using he
    rw [hp] at hg hl
    show Shown watch _ P l (h.response M message).1 (h.response M message).2
    unfold Served.response
    cases hf : h.awaited.find? fun request => Answers message request with
    | none => exact absurd han (by simpa using hf)
    | some request =>
      obtain ⟨r, hr, -⟩ := C.response hg hc hf
      simpa [Served.settle, hr, hp, Shown] using W.response hg hc hf hr hl
  | event message =>
    obtain ⟨hpp, hp⟩ : h.popping = false ∧ h.pending = none := by simpa [enabled] using he
    rw [hp] at hg hl
    have hc : c.event h.machine h.owes.request.isSome message := by
      rw [Served.owes_isSome hpp]
      exact hc
    obtain ⟨r, hr, -⟩ := C.event hg hc
    show Shown watch _ P l (h.settle _ _).1 (h.settle _ _).2
    rw [hr]
    obtain ⟨_, hr', hn, -⟩ := C.event hg hc
    obtain rfl := Option.some.inj (hr.symm.trans hr')
    simpa [Served.settle, hp, hn, Shown] using W.event hg hc hr hl
  | terminate =>
    obtain ⟨⟨hpp, hn⟩, ht⟩ : (h.popping = false ∧ h.activeRequest = none) ∧ h.terminated = false := by
      simpa [enabled] using he
    have ho : h.owes = .nothing := hsn.owes_of_idle hn ht
    rw [ho] at hg
    obtain ⟨r, hr, hrp, -⟩ := C.deactivate hg
    show Shown watch _ P l (h.terminate M).1 (h.terminate M).2
    unfold Served.terminate
    rw [hr]
    simpa [Served.settle, hrp, Shown] using W.deactivate hg hr hl
  | pop =>
    have hpp : h.popping := he
    show Shown watch _ P l (h.pop M).1 (h.pop M).2
    unfold Served.pop
    split
    · exact shown_nil hl
    · next message queue hq =>
      have ho : h.owes = .nothing := by simp [Served.owes, hpp]
      have ht : h.terminated = false := hsn.not_terminated_of_popping hpp
      rw [ho] at hg
      have hm : message.methodId.isSome = true := hsn.known message (by simp [hq])
      have hc : c.request h.machine h.pending message := by simpa [Conditions.met, hq] using hc
      exact W.hand_shown (h := { h with popping := false, requestQueue := queue }) hg (ha ht) hm hc hl
  | proceed =>
    obtain ⟨-, hsm⟩ : h.popping = false ∧ h.pending.isSome := by simpa [enabled] using he
    obtain ⟨message, hp⟩ := Option.isSome_iff_exists.1 hsm
    rw [hp] at hg hl
    show Shown watch _ P l (h.proceed M).1 (h.proceed M).2
    unfold Served.proceed
    rw [hp]
    exact W.proceed hg hl

theorem Watched.run_shown (hl : W.rel M.create none l) {inputs : List (Input μ ε D)} (hg : Legal M c inputs) :
    Shown watch W.Related P l (sessionAfter M inputs) (traceOf M inputs) :=
  run_watched W.Related (fun h input => enabled h input = true ∧ c.met h input) P
    (fun _ _ _ hr hi => W.step_shown hr hi.1 hi.2) ⟨serves_create C, hl⟩ hg

variable {μ ε D : Type}

/-- What a machine waits for, whose queue has requests of the method `next`. It is `idle` if none of these is in
progress. -/
inductive QueueStage (next stop : μ) (stops : Message μ D → Bool) (active isPending : Bool)
    (activeRequest : Option (Message μ D)) (idle : Prop) : Option (Message μ D) → Owes μ D → List (Message μ D) → Prop
  | quiet : isPending = false → QueueStage next stop stops active isPending activeRequest idle none .nothing []
  /-- A request from the queue is about to be dispatched. -/
  | processing {request : Message μ D} : request.methodId = some next → isPending = false → idle →
      QueueStage next stop stops active isPending activeRequest idle (some request) .nothing []
  | popped {request : Message μ D} : request.methodId = some next → isPending → activeRequest = some request →
      idle → QueueStage next stop stops active isPending activeRequest idle none .nothing [request]
  | awaiting {request sent : Message μ D} : active → isPending = false → activeRequest = some sent →
      Answers sent request → sent.methodId.isSome → (stops sent → ¬ idle) →
      QueueStage next stop stops active isPending activeRequest idle none (.response request) [sent]
  | deactivating {sent : Message μ D} : active = false → isPending = false → activeRequest = some sent →
      sent.methodId = some stop → ¬ idle →
      QueueStage next stop stops active isPending activeRequest idle none .deactivation [sent]

section Stage

variable {next stop : μ} {stops : Message μ D → Bool} {active isPending : Bool} {activeRequest : Option (Message μ D)}
  {idle : Prop} {pending : Option (Message μ D)} {owes : Owes μ D} {awaited : List (Message μ D)}

theorem QueueStage.awaits (h : QueueStage next stop stops active isPending activeRequest idle pending owes []) :
    owes = .nothing := by
  cases h <;> rfl

theorem QueueStage.not_pending (h : QueueStage next stop stops active isPending activeRequest idle pending owes []) :
    isPending = false := by
  cases h with
  | quiet hp => exact hp
  | processing _ hp => exact hp

theorem QueueStage.of_quiet (h : QueueStage next stop stops active isPending activeRequest idle none .nothing awaited)
    (hp : isPending = false) : awaited = [] := by
  cases h with
  | quiet => rfl
  | popped _ ht => simp [hp] at ht

theorem QueueStage.idle_of_pending
    (h : QueueStage next stop stops active isPending activeRequest idle pending owes awaited) (hs : pending ≠ none) :
    idle := by
  cases h with
  | processing _ _ hi => exact hi
  | _ => exact absurd rfl hs

theorem QueueStage.found [DecidableEq μ] {request message : Message μ D}
    (h : QueueStage next stop stops active isPending activeRequest idle none owes awaited)
    (hf : awaited.find? (fun request => Answers message request) = some request) :
    activeRequest = some request ∧ Answers message request ∧
      awaited.eraseP (fun request => Answers message request) = [] ∧
      (owes = .nothing ∧ isPending ∧ request.methodId = some next ∧ idle ∨
        isPending = false ∧ Settles active message owes ∧ request.methodId.isSome ∧
          (active = false → request.methodId = some stop ∧ ¬ idle) ∧ (stops request → ¬ idle)) := by
  -- one request is awaited at most
  have single : ∀ sent, [sent].find? (fun request => Answers message request) = some request →
      request = sent ∧ Answers message request ∧ [sent].eraseP (fun request => Answers message request) = [] := by
    intro sent hs
    obtain rfl : request = sent := by simpa using List.mem_of_find?_eq_some hs
    have ha : Answers message request := by simpa using List.find?_some hs
    exact ⟨rfl, ha, by simp [ha]⟩
  cases h with
  | quiet => simp at hf
  | popped hx hp hac hi =>
    obtain ⟨rfl, ha, he⟩ := single _ hf
    exact ⟨hac, ha, he, Or.inl ⟨rfl, hp, hx, hi⟩⟩
  | awaiting hc hp hac hs hm ht =>
    obtain ⟨rfl, ha, he⟩ := single _ hf
    refine ⟨hac, ha, he, Or.inr ⟨hp, ?_, hm, fun hn => ?_, ht⟩⟩
    · exact ⟨hc, ha.1.trans hs.1, ha.2.trans hs.2⟩
    · simp [hc] at hn
  | deactivating hc hp hac ht hi =>
    obtain ⟨rfl, ha, he⟩ := single _ hf
    exact ⟨hac, ha, he, Or.inr ⟨hp, hc, by simp [ht], fun _ => ⟨ht, hi⟩, fun _ => hi⟩⟩

theorem QueueStage.idled (h : QueueStage next stop stops active isPending activeRequest idle none owes awaited)
    (hs : ∀ request ∈ activeRequest, stops request = false ∧ request.methodId ≠ some stop) {idle' : Prop}
    (hi : idle') : QueueStage next stop stops active isPending activeRequest idle' none owes awaited := by
  cases h with
  | quiet hp => exact .quiet hp
  | popped hn hp ha _ => exact .popped hn hp ha hi
  | awaiting hc hp ha han hm _ =>
    refine .awaiting hc hp ha han hm fun ht => ?_
    simp [(hs _ ha).1] at ht
  | deactivating _ _ ha hm _ => exact absurd hm (hs _ ha).2

theorem QueueStage.owes_nothing (h : QueueStage next stop stops active isPending activeRequest idle none owes awaited)
    (hs : ∀ request ∈ activeRequest, stops request = false ∧ request.methodId ≠ some stop)
    (hw : owes.request.isSome = false) : owes = .nothing := by
  cases h with
  | quiet => rfl
  | popped => rfl
  | awaiting => simp [Owes.request] at hw
  | deactivating _ _ ha hm _ => exact absurd hm (hs _ ha).2

theorem QueueStage.completed (h : QueueStage next stop stops active isPending activeRequest idle none owes awaited)
    (hi : ¬ idle) (hs : ∀ request ∈ activeRequest, stops request = false ∧ request.methodId ≠ some stop)
    (idle' : Prop) : isPending = false ∧
      (owes = .nothing ∧ awaited = [] ∨ owes.request.isSome ∧
        QueueStage next stop stops active isPending activeRequest idle' none owes awaited) := by
  cases h with
  | quiet hp => exact ⟨hp, Or.inl ⟨rfl, rfl⟩⟩
  | popped _ _ _ hn => exact absurd hn hi
  | awaiting hc hp ha han hm _ =>
    refine ⟨hp, Or.inr ⟨rfl, .awaiting hc hp ha han hm fun ht => ?_⟩⟩
    simp [(hs _ ha).1] at ht
  | deactivating _ _ ha hm _ => exact absurd hm (hs _ ha).2

end Stage

end UniMrcp.MrcpEngine
