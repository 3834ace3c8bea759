import UniMrcp.MrcpEngine.StateMachine

/-!
# A state machine that serves a session

A server session hands the next request to a state machine from within the dispatch of a response, before the handler
that dispatched it goes on.
-/

namespace UniMrcp.MrcpEngine

open Lib List Option

variable {σ μ ε D : Type}

/-! ## Machines in a session -/

/-- A state machine, the requests of the session's client for it, and its requests to the engine. -/
structure Served (σ μ ε D : Type) where
  machine : σ
  /-- `active_request` of the session. -/
  activeRequest : Option (Message μ D) := none
  /-- `request_queue` of the session. -/
  requestQueue : List (Message μ D) := []
  /-- The session terminates: its active request is not one to the machine any more. -/
  terminated : Bool := false
  /-- The machine has to tell when it is deactivated. -/
  deactivating : Bool := false
  /-- A response was dispatched, and the session is about to take the next request from its queue. -/
  popping : Bool := false
  /-- The pending request that is processed once the dispatch of a response returns. -/
  pending : Option (Message μ D) := none
  /-- The requests that the engine has not responded to. -/
  awaited : List (Message μ D) := []
  nullRead : Bool := false

/-- What happens to a machine. The last two happen within the dispatch of a response. -/
inductive Input (μ ε D : Type)
  /-- A request of the client arrives at the session. -/
  | client (message : Message μ D)
  | response (message : Message μ D)
  | event (message : Message ε D)
  | terminate
  /-- The session takes the next request from its queue, when a response was dispatched. -/
  | pop
  /-- The handler that has dispatched a response goes on with a pending request. -/
  | proceed

inductive Trace (μ ε D : Type)
  /-- A request of the client is handed to the machine. -/
  | handed (message : Message μ D)
  | engineResponse (request response : Message μ D)
  | engineEvent (message : Message ε D)
  /-- The machine is told to deactivate, and has to tell when it is, or not. -/
  | deactivate (waits : Bool)
  | out (output : Output μ ε D)

def Trace.isEngine : Trace μ ε D → Bool
  | .engineResponse _ _ => true
  | .engineEvent _ => true
  | _ => false

def Output.request? : Output μ ε D → Option (Message μ D)
  | .request message => some message
  | _ => none

def Output.response? : Output μ ε D → Option (Message μ D)
  | .response message => some message
  | _ => none

/-- `on_deactivate` is called. -/
def Output.isDeactivated : Output μ ε D → Bool
  | .deactivated => true
  | _ => false

def Output.isLogged : Output μ ε D → Bool
  | .queueUp _ | .removePending _ | .processPending _ => true
  | _ => false

def engineRequests (out : List (Output μ ε D)) : List (Message μ D) := out.filterMap Output.request?

def responds (out : List (Output μ ε D)) : Bool := out.any fun output => output.response?.isSome

/-- `on_deactivate` is among the outputs. -/
def deactivates (out : List (Output μ ε D)) : Bool := out.any Output.isDeactivated

section Steps

variable (M : StateMachine σ μ ε D)

/-- A handler is run: what it puts out reaches the engine and the session. -/
def Served.settle (h : Served σ μ ε D) (trace : List (Trace μ ε D)) (r : Option (Handled σ μ ε D)) :
    Served σ μ ε D × List (Trace μ ε D) :=
  match r with
  | none => ({ h with nullRead := true }, trace)
  | some r =>
    ({ h with
        machine := r.machine
        awaited := h.awaited ++ engineRequests r.out
        popping := responds r.out
        deactivating := h.deactivating && !deactivates r.out
        pending := h.pending.or r.pending }, trace ++ r.out.map .out)

/-- `mrcp_server_on_message_receive`: a request is handed to the machine. -/
def Served.hand (h : Served σ μ ε D) (message : Message μ D) : Served σ μ ε D × List (Trace μ ε D) :=
  { h with activeRequest := some message }.settle [.handed message] (M.requestUpdate h.machine message)

variable [DecidableEq μ]

/-- `mrcp_server_signaling_message_process`: a request of the client waits while another is active. -/
def Served.client (h : Served σ μ ε D) (message : Message μ D) : Served σ μ ε D × List (Trace μ ε D) :=
  if h.activeRequest.isSome || h.terminated then ({ h with requestQueue := h.requestQueue ++ [message] }, [])
  else h.hand M message

def Served.response (h : Served σ μ ε D) (message : Message μ D) : Served σ μ ε D × List (Trace μ ε D) :=
  match h.awaited.find? fun request => Answers message request with
  | none => (h, [])
  | some request =>
    { h with awaited := h.awaited.eraseP fun request => Answers message request }.settle
      [.engineResponse request message] (M.responseUpdate h.machine message)

/-- `mrcp_server_session_deactivate`: the machine is told to deactivate. -/
def Served.terminate (h : Served σ μ ε D) : Served σ μ ε D × List (Trace μ ε D) :=
  let r := M.deactivate h.machine
  let waits := r.any Handled.status
  { h with terminated := true, deactivating := waits }.settle [.deactivate waits] r

/-- The part of `state_machine_on_message_dispatch` that takes the next request. -/
def Served.pop (h : Served σ μ ε D) : Served σ μ ε D × List (Trace μ ε D) :=
  match h.requestQueue with
  | [] => ({ h with popping := false, activeRequest := none }, [])
  | message :: queue => { h with popping := false, requestQueue := queue }.hand M message

def Served.proceed (h : Served σ μ ε D) : Served σ μ ε D × List (Trace μ ε D) :=
  match h.pending with
  | none => (h, [])
  | some message =>
    ({ h with
        pending := none
        machine := M.pendingProcess h.machine message
        awaited := h.awaited ++ [message] }, [.out (.processPending message), .out (.request message)])

def Served.step (h : Served σ μ ε D) : Input μ ε D → Served σ μ ε D × List (Trace μ ε D)
  | .client message => h.client M message
  | .response message => h.response M message
  | .event message => h.settle [.engineEvent message] (M.eventUpdate h.machine message)
  | .terminate => h.terminate M
  | .pop => h.pop M
  | .proceed => h.proceed M

/-- Within the dispatch of a response only what belongs to it happens, the engine responds to a request that waits, and
the session terminates when none of its requests is active. -/
def enabled (h : Served σ μ ε D) : Input μ ε D → Bool
  | .client message => !h.popping && h.pending.isNone && message.methodId.isSome
  | .response message =>
    !h.popping && h.pending.isNone && h.awaited.any fun request => Answers message request
  | .event _ => !h.popping && h.pending.isNone
  | .terminate => !h.popping && h.activeRequest.isNone && !h.terminated
  | .pop => h.popping
  | .proceed => !h.popping && h.pending.isSome

def Served.create : Served σ μ ε D := { machine := M.create }

end Steps

/-! ## What the machine owes -/

inductive Owes (μ D : Type)
  | nothing
  | response (request : Message μ D)
  | deactivation

section Owes

variable [DecidableEq μ]

def owesStep : Owes μ D → Output μ ε D → Option (Owes μ D)
  | .response request, .response message => if Answers message request then some .nothing else none
  | _, .response _ => none
  | .deactivation, .deactivated => some .nothing
  | _, .deactivated => none
  | owes, _ => some owes

def owesAfter (owes : Owes μ D) (out : List (Output μ ε D)) : Option (Owes μ D) := out.foldlM owesStep owes

def owesTrace : Owes μ D → Trace μ ε D → Option (Owes μ D)
  | .nothing, .handed message => some (.response message)
  | _, .handed _ => none
  | .nothing, .deactivate waits => some (if waits then .deactivation else .nothing)
  | _, .deactivate _ => none
  | owes, .out output => owesStep owes output
  | owes, _ => some owes

end Owes

def Settles (active : Bool) (message : Message μ D) : Owes μ D → Prop
  | .nothing => False
  | .response request => active = true ∧ Answers message request
  | .deactivation => active = false

theorem Settles.of_answers {active : Bool} {message response : Message μ D} {owes : Owes μ D}
    (h : Settles active message owes) (ha : Answers response message) : Settles active response owes := by
  cases owes with
  | nothing => exact h
  | response request => exact ⟨h.1, ha.1.trans h.2.1, ha.2.trans h.2.2⟩
  | deactivation => exact h

section Dispatch

variable [DecidableEq μ]

theorem owesAfter_settles {active : Bool} {message : Message μ D} {owes : Owes μ D} (h : Settles active message owes) :
    owesAfter owes (if active then [.response message] else [.deactivated] : List (Output μ ε D)) = some .nothing := by
  cases owes with
  | nothing => exact h.elim
  | response request =>
    obtain ⟨rfl, ha⟩ := h
    simp [owesAfter, owesStep, ha]
  | deactivation =>
    obtain rfl : active = false := h
    rfl

theorem owesAfter_logged {owes : Owes μ D} {first : List (Output μ ε D)} (out : List (Output μ ε D))
    (h : ∀ output ∈ first, output.isLogged) : owesAfter owes (first ++ out) = owesAfter owes out := by
  induction first with
  | nil => rfl
  | cons output first ih =>
    obtain ⟨hl, hr⟩ := forall_mem_cons.1 h
    have hs : owesStep owes output = some owes := by
      cases output <;> cases owes <;> simp_all [Output.isLogged, owesStep]
    simpa [owesAfter, foldlM_cons, hs] using ih hr

end Dispatch

@[simp] theorem engineRequests_nil : engineRequests ([] : List (Output μ ε D)) = [] := rfl

variable (out : List (Output μ ε D))

theorem engineRequests_logged {first : List (Output μ ε D)} (h : ∀ output ∈ first, output.isLogged) :
    engineRequests (first ++ out) = engineRequests out := by
  have hn : engineRequests first = [] := by
    refine filterMap_eq_nil_iff.2 fun output ho => ?_
    have := h output ho
    cases output <;> simp_all [Output.isLogged, Output.request?]
  unfold engineRequests at hn ⊢
  rw [filterMap_append, hn, nil_append]

theorem isLogged_removePending (removed : List (Message μ D)) :
    ∀ output ∈ removed.map (Output.removePending (ε := ε)), output.isLogged := by
  simp [Output.isLogged]

def handedOf (trace : List (Trace μ ε D)) : List (Message μ D) :=
  trace.filterMap fun
    | .handed message => some message
    | _ => none

def responsesOf (trace : List (Trace μ ε D)) : List (Message μ D) :=
  trace.filterMap fun
    | .out output => output.response?
    | _ => none

open Served

@[simp] theorem handedOf_append (trace trace' : List (Trace μ ε D)) :
    handedOf (trace ++ trace') = handedOf trace ++ handedOf trace' := filterMap_append

@[simp] theorem handedOf_out : handedOf (out.map Trace.out) = [] := by
  simp [handedOf, filterMap_map]

theorem handedOf_settle (h : Served σ μ ε D) (trace : List (Trace μ ε D)) (r : Option (Handled σ μ ε D)) :
    handedOf (h.settle trace r).2 = handedOf trace ∧ (h.settle trace r).1.requestQueue = h.requestQueue := by
  cases r <;> simp [settle]

def accepts (starts : μ → Bool) (request response : Message μ D) : Bool :=
  request.methodId.any starts && response.requestState == .inProgress

def isAcceptance (starts : μ → Bool) (id : Nat) : Trace μ ε D → Bool
  | .engineResponse request response => accepts starts request response && request.requestId == id
  | _ => false

def isCompletion [DecidableEq ε] (complete : ε) (id : Nat) : Trace μ ε D → Bool
  | .out (.event message) => message.methodId == some complete && message.requestId == id
  | _ => false

/-- The client is told no more often that a request is completed than the engine has accepted it. -/
def CompletedOnce [DecidableEq ε] (starts : μ → Bool) (complete : ε) (trace : List (Trace μ ε D)) : Prop :=
  ∀ id, trace.countP (isCompletion complete id) ≤ trace.countP (isAcceptance starts id)

def Owes.request : Owes μ D → Option (Message μ D)
  | .response request => some request
  | _ => none

@[simp] theorem owesTrace_out [DecidableEq μ] (owes : Owes μ D) (output : Output μ ε D) :
    owesTrace owes (.out output) = owesStep owes output := by
  cases owes <;> rfl

theorem owesTrace_engine [DecidableEq μ] (owes : Owes μ D) (t : Trace μ ε D) (h : t.isEngine) :
    [t].foldlM owesTrace owes = some owes := by
  cases t <;> cases owes <;> simp_all [Trace.isEngine, owesTrace]

theorem owesStep_cases [DecidableEq μ] {owes next : Owes μ D} {output : Output μ ε D}
    (h : owesStep owes output = some next) :
    next = owes ∧ output.response? = none ∧ output.isDeactivated = false ∨
      (∃ request message, owes = .response request ∧ output = .response message ∧ Answers message request ∧
        next = .nothing) ∨
      owes = .deactivation ∧ output = .deactivated ∧ next = .nothing := by
  cases output with
  | response message =>
    cases owes with
    | response request =>
      obtain ⟨ha, rfl⟩ : Answers message request ∧ Owes.nothing = next := by simpa [owesStep] using h
      exact Or.inr (Or.inl ⟨request, message, rfl, rfl, ha, rfl⟩)
    | nothing => simp [owesStep] at h
    | deactivation => simp [owesStep] at h
  | deactivated =>
    cases owes with
    | deactivation =>
      obtain rfl : Owes.nothing = next := by simpa [owesStep] using h
      exact Or.inr (Or.inr ⟨rfl, rfl, rfl⟩)
    | nothing => simp [owesStep] at h
    | response request => simp [owesStep] at h
  | _ =>
    left
    refine ⟨?_, rfl, rfl⟩
    cases owes <;> simpa [owesStep] using h.symm

theorem answered_of_owes [DecidableEq μ] {trace : List (Trace μ ε D)} {owes owes' : Owes μ D}
    (h : trace.foldlM owesTrace owes = some owes') :
    ∃ answered, owes.request.toList ++ handedOf trace = answered ++ owes'.request.toList ∧
      List.Forall₂ Answers (responsesOf trace) answered := by
  induction trace generalizing owes with
  | nil =>
    obtain rfl : owes = owes' := by simpa using h
    exact ⟨[], by simp [handedOf], List.Forall₂.nil⟩
  | cons t trace ih =>
    obtain ⟨next, hn, hs⟩ := Option.bind_eq_some_iff.1 (by simpa [foldlM_cons] using h)
    obtain ⟨answered, heq, ha⟩ := ih hs
    -- all but a response leave the lists as they are
    have skip : handedOf (t :: trace) = handedOf trace → responsesOf (t :: trace) = responsesOf trace →
        next.request = owes.request → ∃ answered, owes.request.toList ++ handedOf (t :: trace) =
          answered ++ owes'.request.toList ∧ List.Forall₂ Answers (responsesOf (t :: trace)) answered := by
      intro hh hr hq
      rw [hh, hr, ← hq]
      exact ⟨answered, heq, ha⟩
    cases t with
    | handed message =>
      cases owes with
      | nothing =>
        obtain rfl : Owes.response message = next := by simpa [owesTrace] using hn
        exact ⟨answered, by simpa [handedOf, Owes.request] using heq, ha⟩
      | response request => simp [owesTrace] at hn
      | deactivation => simp [owesTrace] at hn
    | engineResponse request response =>
      obtain rfl : owes = next := by cases owes <;> simpa [owesTrace] using hn
      exact skip rfl rfl rfl
    | engineEvent message =>
      obtain rfl : owes = next := by cases owes <;> simpa [owesTrace] using hn
      exact skip rfl rfl rfl
    | deactivate waits =>
      cases owes with
      | nothing =>
        obtain rfl : (if waits then Owes.deactivation else Owes.nothing) = next := by simpa [owesTrace] using hn
        refine skip rfl rfl ?_
        cases waits <;> rfl
      | response request => simp [owesTrace] at hn
      | deactivation => simp [owesTrace] at hn
    | out output =>
      rw [owesTrace_out] at hn
      rcases owesStep_cases hn with ⟨rfl, hnn, -⟩ | ⟨request, message, rfl, rfl, han, rfl⟩ | ⟨rfl, rfl, rfl⟩
      · exact skip rfl (by simp [responsesOf, hnn]) rfl
      · refine ⟨request :: answered, ?_, List.Forall₂.cons han ha⟩
        simpa [handedOf, Owes.request] using heq
      · exact skip rfl rfl rfl

def Served.owes (h : Served σ μ ε D) : Owes μ D :=
  if h.popping then .nothing
  else
    match h.activeRequest with
    | some message => .response message
    | none => if h.deactivating then .deactivation else .nothing

structure Served.Sound (h : Served σ μ ε D) : Prop where
  notNull : h.nullRead = false
  /-- Requests are in the queue only while one is active. -/
  queue : h.terminated = false → h.activeRequest = none → h.requestQueue = []
  deactivating : h.deactivating → h.terminated
  terminated : h.terminated → h.activeRequest = none
  popping : h.popping → h.activeRequest ≠ none
  /-- The methods of the requests in the queue are known. -/
  known : ∀ message ∈ h.requestQueue, message.methodId.isSome

variable {h : Served σ μ ε D}

theorem Served.Sound.not_terminated_of_popping (hs : h.Sound) (hp : h.popping) : h.terminated = false := by
  cases ht : h.terminated with
  | false => rfl
  | true => exact absurd (hs.terminated ht) (hs.popping hp)

theorem Served.Sound.not_deactivating (hs : h.Sound) (ht : h.terminated = false) : h.deactivating = false := by
  cases hd : h.deactivating with
  | false => rfl
  | true => simp [hs.deactivating hd] at ht

theorem Served.Sound.owes_of_idle (hs : h.Sound) (hn : h.activeRequest = none) (ht : h.terminated = false) :
    h.owes = .nothing := by
  simp [Served.owes, hn, hs.not_deactivating ht]

theorem Served.owes_isSome (hp : h.popping = false) : h.owes.request.isSome = h.activeRequest.isSome := by
  cases ha : h.activeRequest <;> cases hd : h.deactivating <;> simp [Served.owes, hp, ha, hd, Owes.request]

/-! ## Contracts -/

structure Conditions (σ μ ε D : Type) where
  /-- For a request that is handed to a machine, which may be about to process a pending one. -/
  request : σ → Option (Message μ D) → Message μ D → Bool
  response : σ → Message μ D → Bool
  /-- For an event of the engine, while a request of the client is active or not. -/
  event : σ → Bool → Message ε D → Bool

def Conditions.none : Conditions σ μ ε D := ⟨fun _ _ _ => true, fun _ _ => true, fun _ _ _ => true⟩

def Conditions.met (c : Conditions σ μ ε D) (h : Served σ μ ε D) : Input μ ε D → Bool
  | .client message => h.activeRequest.isSome || h.terminated || c.request h.machine h.pending message
  | .response message => c.response h.machine message
  | .event message => c.event h.machine h.activeRequest.isSome message
  | .terminate => true
  | .pop => h.requestQueue.head?.all (c.request h.machine h.pending)
  | .proceed => true

section Contract

variable [DecidableEq μ] {M : StateMachine σ μ ε D}

def Keeps (M : StateMachine σ μ ε D) (good : σ → Option (Message μ D) → Owes μ D → List (Message μ D) → Prop) (s : σ)
    (pending : Option (Message μ D)) (owes : Owes μ D) (awaited : List (Message μ D)) (r : Handled σ μ ε D) : Prop :=
  ∃ owes', owesAfter owes r.out = some owes' ∧ good r.machine pending owes' (awaited ++ engineRequests r.out) ∧
    M.active r.machine = M.active s

/-- What a machine does under conditions, by an invariant of the machine, its pending request, what it owes, and what
the engine has not responded to. -/
structure Contract (M : StateMachine σ μ ε D) (c : Conditions σ μ ε D) where
  good : σ → Option (Message μ D) → Owes μ D → List (Message μ D) → Prop
  create : good M.create none .nothing [] ∧ M.active M.create
  awaits : ∀ {s pending owes}, good s pending owes [] → owes = .nothing
  request : ∀ {s pending awaited message}, good s pending .nothing awaited → M.active s →
    message.methodId.isSome → c.request s pending message →
    ∃ r, M.requestUpdate s message = some r ∧ r.pending = none ∧ Keeps M good s pending (.response message) awaited r
  response : ∀ {s owes awaited request message}, good s none owes awaited → c.response s message →
    awaited.find? (fun request => Answers message request) = some request →
    ∃ r, M.responseUpdate s message = some r ∧
      Keeps M good s r.pending owes (awaited.eraseP fun request => Answers message request) r
  event : ∀ {s owes awaited message}, good s none owes awaited →
    c.event s (owes.request.isSome) message →
    ∃ r, M.eventUpdate s message = some r ∧ r.pending = none ∧ Keeps M good s none owes awaited r
  deactivate : ∀ {s pending awaited}, good s pending .nothing awaited →
    ∃ r, M.deactivate s = some r ∧ r.pending = none ∧ ∃ owes',
      owesAfter (if r.status then .deactivation else .nothing) r.out = some owes' ∧
        good r.machine pending owes' (awaited ++ engineRequests r.out)
  proceed : ∀ {s message owes awaited}, good s (some message) owes awaited →
    good (M.pendingProcess s message) none owes (awaited ++ [message]) ∧
      M.active (M.pendingProcess s message) = M.active s

variable {owes owes' : Owes μ D}

theorem owesAfter_cases {out : List (Output μ ε D)} (h : owesAfter owes out = some owes') :
    owes' = owes ∧ responds out = false ∧ deactivates out = false ∨
      owes' = .nothing ∧
        ((∃ request, owes = .response request) ∧ responds out ∧ deactivates out = false ∨
          owes = .deactivation ∧ responds out = false ∧ deactivates out) := by
  induction out generalizing owes with
  | nil =>
    obtain rfl : owes = owes' := by simpa [owesAfter] using h
    exact Or.inl ⟨rfl, rfl, rfl⟩
  | cons output out ih =>
    obtain ⟨next, hn, hre⟩ := Option.bind_eq_some_iff.1 (by simpa [owesAfter, foldlM_cons] using h)
    have ho := ih hre
    have hs : responds (output :: out) = (output.response?.isSome || responds out) := by simp [responds]
    have hc : deactivates (output :: out) = (output.isDeactivated || deactivates out) := by simp [deactivates]
    rw [hs, hc]
    rcases owesStep_cases hn with ⟨rfl, hnn, hf⟩ | ⟨request, message, rfl, rfl, -, rfl⟩ | ⟨rfl, rfl, rfl⟩
    · simpa [hnn, hf] using ho
    · obtain ⟨rfl, hr, hd⟩ | ⟨-, ⟨⟨_, h⟩, -⟩ | ⟨h, -⟩⟩ := ho
      · simp [Output.response?, Output.isDeactivated, hd]
      · simp at h
      · simp at h
    · obtain ⟨rfl, hr, hd⟩ | ⟨-, ⟨⟨_, h⟩, -⟩ | ⟨h, -⟩⟩ := ho
      · simp [Output.response?, Output.isDeactivated, hr]
      · simp at h
      · simp at h

theorem foldlM_owesTrace_out (owes : Owes μ D) (out : List (Output μ ε D)) :
    (out.map Trace.out).foldlM owesTrace owes = owesAfter owes out := by
  rw [foldlM_map]
  congr 1
  funext owes output
  exact owesTrace_out owes output

variable {c : Conditions σ μ ε D}

structure Serves (C : Contract M c) (h : Served σ μ ε D) : Prop where
  sound : h.Sound
  good : C.good h.machine h.pending h.owes h.awaited
  active : h.terminated = false → M.active h.machine

variable {C : Contract M c}

variable {h : Served σ μ ε D}

variable {r : Handled σ μ ε D}

theorem settle_serves (hs : h.Sound) (hp : h.popping = false) (trace : List (Trace μ ε D))
    (ho : owesAfter h.owes r.out = some owes')
    (hg : C.good r.machine (h.pending.or r.pending) owes' (h.awaited ++ engineRequests r.out))
    (hc : h.terminated = false → M.active r.machine) :
    Serves C (h.settle trace (some r)).1 ∧ (h.settle trace (some r)).1.owes = owes' := by
  have key : (h.settle trace (some r)).1.owes = owes' ∧ (responds r.out → h.activeRequest ≠ none) := by
    unfold settle
    rcases owesAfter_cases ho with ⟨rfl, hr, hd⟩ | ⟨rfl, ⟨⟨request, hq⟩, hr, hd⟩ | ⟨hq, hr, hd⟩⟩
    · simp [Served.owes, hr, hd, hp]
    · refine ⟨by simp [Served.owes, hr], fun _ hn => ?_⟩
      cases hdc : h.deactivating <;> simp [Served.owes, hp, hn, hdc] at hq
    · cases ha : h.activeRequest with
      | some request => simp [Served.owes, hp, ha] at hq
      | none => simp [Served.owes, hr, hd]
  refine ⟨⟨⟨hs.notNull, hs.queue, fun hd => hs.deactivating ?_, hs.terminated, key.2, hs.known⟩, ?_, hc⟩, key.1⟩
  · exact (Bool.and_eq_true_iff.1 hd).1
  · rw [key.1]
    exact hg

theorem settle_trace (h : Served σ μ ε D) (trace : List (Trace μ ε D)) (r : Handled σ μ ε D) {owes next owes' : Owes μ D}
    (ht : trace.foldlM owesTrace owes = some next) (ho : owesAfter next r.out = some owes') :
    (h.settle trace (some r)).2.foldlM owesTrace owes = some owes' := by
  unfold settle
  rw [foldlM_append, ht, bind_eq_bind, bind_some, foldlM_owesTrace_out, ho]

def Stepped (C : Contract M c) (owes : Owes μ D) (r : Served σ μ ε D × List (Trace μ ε D)) : Prop :=
  Serves C r.1 ∧ r.2.foldlM owesTrace owes = some r.1.owes

variable {message : Message μ D}

theorem hand_stepped (hs : h.Sound) (hp : h.popping = false) (htr : h.terminated = false)
    (hg : C.good h.machine h.pending .nothing h.awaited) (ha : M.active h.machine)
    (hm : message.methodId.isSome) (hc : c.request h.machine h.pending message) :
    Stepped C .nothing (h.hand M message) := by
  obtain ⟨r, hr, hn, owes', ho, hk, hac⟩ := C.request hg ha hm hc
  have hw : ({ h with activeRequest := some message } : Served σ μ ε D).owes = .response message := by
    simp [Served.owes, hp]
  have hsn : ({ h with activeRequest := some message } : Served σ μ ε D).Sound :=
    ⟨hs.notNull, fun _ hnn => absurd hnn (some_ne_none _), hs.deactivating,
      fun ht => by simp [htr] at ht, fun _ => some_ne_none _, hs.known⟩
  unfold hand
  rw [hr]
  obtain ⟨hsr, hw'⟩ := settle_serves (C := C) (h := { h with activeRequest := some message }) hsn hp
    [.handed message] (hw.symm ▸ ho) (by simpa [hn] using hk) fun _ => hac.trans ha
  refine ⟨hsr, ?_⟩
  rw [hw']
  exact settle_trace _ _ _ rfl ho

theorem settle_stepped (hs : h.Sound) (hp : h.popping = false) {trace : List (Trace μ ε D)}
    (ht : trace.foldlM owesTrace owes = some h.owes) (ho : owesAfter h.owes r.out = some owes')
    (hg : C.good r.machine (h.pending.or r.pending) owes' (h.awaited ++ engineRequests r.out))
    (ha : h.terminated = false → M.active r.machine) : Stepped C owes (h.settle trace (some r)) := by
  obtain ⟨hr, hw⟩ := settle_serves hs hp trace ho hg ha
  refine ⟨hr, ?_⟩
  rw [hw]
  exact settle_trace h trace r ht ho

theorem client_stepped (hs : Serves C h) (he : enabled h (.client message))
    (hc : c.met h (.client message)) : Stepped C h.owes (h.client M message) := by
  obtain ⟨hsn, hg, ha⟩ := hs
  obtain ⟨⟨hp, -⟩, hm⟩ : (h.popping = false ∧ h.pending = none) ∧ message.methodId.isSome := by
    simpa [enabled] using he
  unfold Served.client
  split_ifs with hb
  · have hq : h.terminated = false → h.activeRequest = none → h.requestQueue ++ [message] = [] := by
      intro ht hn
      simp [ht, hn] at hb
    refine ⟨⟨⟨hsn.notNull, hq, hsn.deactivating, hsn.terminated, hsn.popping, ?_⟩, hg, ha⟩, rfl⟩
    exact forall_mem_append.2 ⟨hsn.known, by simpa using hm⟩
  · obtain ⟨hnn, hr⟩ : h.activeRequest = none ∧ h.terminated = false := by simpa using hb
    have ho : h.owes = .nothing := hsn.owes_of_idle hnn hr
    rw [ho] at hg ⊢
    apply hand_stepped hsn hp hr hg (ha hr) hm
    simpa [Conditions.met, hnn, hr] using hc

theorem response_stepped (hs : Serves C h) (he : enabled h (.response message))
    (hc : c.met h (.response message)) : Stepped C h.owes (h.response M message) := by
  obtain ⟨hn, hg, hac⟩ := hs
  obtain ⟨⟨hpp, hp⟩, ha⟩ : (h.popping = false ∧ h.pending = none) ∧
      (h.awaited.any fun request => Answers message request) = true := by
    simpa only [enabled, Bool.and_eq_true, Bool.not_eq_true', isNone_iff_eq_none] using he
  rw [hp] at hg
  unfold Served.response
  cases hf : h.awaited.find? fun request => Answers message request with
  | none => exact absurd ha (by simpa using hf)
  | some request =>
    obtain ⟨r, hr, owes', ho, hk, hact⟩ := C.response hg hc hf
    simp only [hr]
    have hn' : ({ h with awaited := h.awaited.eraseP fun request => Answers message request } :
        Served σ μ ε D).Sound :=
      ⟨hn.notNull, hn.queue, hn.deactivating, hn.terminated, hn.popping, hn.known⟩
    refine settle_stepped hn' hpp ?_ ho ?_ fun ht => hact.trans (hac ht)
    · exact owesTrace_engine h.owes (.engineResponse request message) rfl
    · simpa [hp] using hk

theorem event_stepped (hs : Serves C h) {message : Message ε D} (he : enabled h (.event message))
    (hc : c.met h (.event message)) :
    Stepped C h.owes (h.settle [.engineEvent message] (M.eventUpdate h.machine message)) := by
  obtain ⟨hsn, hg, hac⟩ := hs
  obtain ⟨hp, hn⟩ : h.popping = false ∧ h.pending = none := by simpa [enabled] using he
  rw [hn] at hg
  have hc : c.event h.machine h.owes.request.isSome message := by
    rw [owes_isSome hp]
    exact hc
  obtain ⟨r, hr, hnn, owes', ho, hk, ha⟩ := C.event hg hc
  rw [hr]
  refine settle_stepped hsn hp ?_ ho ?_ fun ht => ha.trans (hac ht)
  · exact owesTrace_engine h.owes (.engineEvent message) rfl
  · simpa [hn, hnn] using hk

theorem terminate_stepped (hs : Serves C h) (he : enabled h .terminate) : Stepped C h.owes (h.terminate M) := by
  obtain ⟨hn, hg, ha⟩ := hs
  obtain ⟨⟨hp, hnn⟩, htr⟩ : (h.popping = false ∧ h.activeRequest = none) ∧ h.terminated = false := by
    simpa [enabled] using he
  have ho : h.owes = .nothing := hn.owes_of_idle hnn htr
  rw [ho] at hg ⊢
  obtain ⟨r, hr, hpn, owes', hot, hk⟩ := C.deactivate hg
  unfold Served.terminate
  rw [hr]
  have ho' : ({ h with terminated := true, deactivating := r.status } : Served σ μ ε D).owes =
      if r.status then .deactivation else .nothing := by simp [Served.owes, hp, hnn]
  have hn' : ({ h with terminated := true, deactivating := r.status } : Served σ μ ε D).Sound :=
    ⟨hn.notNull, fun ht => by simp at ht, fun _ => rfl, fun _ => hnn, hn.popping, hn.known⟩
  refine settle_stepped hn' hp ?_ (ho' ▸ hot) ?_ fun ht => by simp at ht
  · rw [ho']
    rfl
  · simpa [hpn] using hk

theorem pop_stepped (hs : Serves C h) (he : enabled h .pop) (hc : c.met h .pop) :
    Stepped C h.owes (h.pop M) := by
  obtain ⟨hn, hg, ha⟩ := hs
  have hp : h.popping := he
  have ho : h.owes = .nothing := by simp [Served.owes, hp]
  have hr : h.terminated = false := hn.not_terminated_of_popping hp
  have hd : h.deactivating = false := hn.not_deactivating hr
  rw [ho] at hg ⊢
  unfold Served.pop
  split
  · next hq =>
    have ho' : ({ h with popping := false, activeRequest := none } : Served σ μ ε D).owes = .nothing := by
      simp [Served.owes, hd]
    refine ⟨⟨⟨hn.notNull, fun _ _ => hq, hn.deactivating, fun _ => rfl, fun ht => by simp at ht, hn.known⟩,
      ?_, ha⟩, ?_⟩
    · rw [ho']
      exact hg
    · rw [ho']
      rfl
  · next message queue hq =>
    have hmt : message.methodId.isSome = true := hn.known message (by simp [hq])
    have hc : c.request h.machine h.pending message := by simpa [Conditions.met, hq] using hc
    have hne : h.activeRequest ≠ none := hn.popping hp
    have hn' : ({ h with popping := false, requestQueue := queue } : Served σ μ ε D).Sound :=
      ⟨hn.notNull, fun _ hnn => absurd hnn hne, hn.deactivating, hn.terminated, fun ht => by simp at ht,
        fun m hm => hn.known m (by simp [hq, hm])⟩
    exact hand_stepped hn' rfl hr hg (ha hr) hmt hc

theorem proceed_stepped (hs : Serves C h) (he : enabled h .proceed) : Stepped C h.owes (h.proceed M) := by
  obtain ⟨hn, hg, hc⟩ := hs
  obtain ⟨hpp, hm⟩ : h.popping = false ∧ h.pending.isSome := by simpa [enabled] using he
  obtain ⟨message, hp⟩ := Option.isSome_iff_exists.1 hm
  rw [hp] at hg
  obtain ⟨hk, ha⟩ := C.proceed hg
  unfold Served.proceed
  rw [hp]
  refine ⟨⟨⟨hn.notNull, hn.queue, hn.deactivating, hn.terminated, hn.popping, hn.known⟩, hk,
    fun ht => ha.trans (hc ht)⟩, ?_⟩
  -- neither of the outputs settles what is owed
  show [Trace.out (.processPending message), Trace.out (.request message)].foldlM owesTrace h.owes = some h.owes
  cases h.owes <;> rfl

theorem step_stepped (hs : Serves C h) {input : Input μ ε D} (he : enabled h input) (hc : c.met h input) :
    Stepped C h.owes (h.step M input) := by
  cases input with
  | client message => exact client_stepped hs he hc
  | response message => exact response_stepped hs he hc
  | event message => exact event_stepped hs he hc
  | terminate => exact terminate_stepped hs he
  | pop => exact pop_stepped hs he hc
  | proceed => exact proceed_stepped hs he

/-! ## Runs -/

def Legal (M : StateMachine σ μ ε D) (c : Conditions σ μ ε D) (inputs : List (Input μ ε D)) : Prop :=
  EachStep (Served.step M) (fun h input => enabled h input = true ∧ c.met h input) (Served.create M) inputs

instance (M : StateMachine σ μ ε D) (c : Conditions σ μ ε D) (inputs : List (Input μ ε D)) :
    Decidable (Legal M c inputs) := inferInstanceAs (Decidable (EachStep _ _ _ _))

def sessionAfter (M : StateMachine σ μ ε D) (inputs : List (Input μ ε D)) : Served σ μ ε D :=
  (run (Served.step M) (Served.create M) inputs).1

def traceOf (M : StateMachine σ μ ε D) (inputs : List (Input μ ε D)) : List (Trace μ ε D) :=
  (run (Served.step M) (Served.create M) inputs).2.flatten

def clientsOf (inputs : List (Input μ ε D)) : List (Message μ D) :=
  inputs.filterMap fun
    | .client message => some message
    | _ => none

/-- A session after a run has had one response for each of its requests, in order, but for the last ones, which wait
for the engine. -/
structure AnsweredOnce (M : StateMachine σ μ ε D) (inputs : List (Input μ ε D)) : Prop where
  notNull : (sessionAfter M inputs).nullRead = false
  answered : ∃ answered waiting, clientsOf inputs = answered ++ waiting ∧
    List.Forall₂ Answers (responsesOf (traceOf M inputs)) answered ∧
    ((sessionAfter M inputs).awaited = [] → (sessionAfter M inputs).popping = false →
      (sessionAfter M inputs).terminated = false → waiting = [])

variable {inputs : List (Input μ ε D)}

theorem not_answeredOnce {M : StateMachine σ μ ε D}
    (hs : (sessionAfter M inputs).awaited = [] ∧ (sessionAfter M inputs).popping = false ∧
      (sessionAfter M inputs).terminated = false)
    (hc : (responsesOf (traceOf M inputs)).length ≠ (clientsOf inputs).length) : ¬ AnsweredOnce M inputs := by
  rintro ⟨-, answered, waiting, heq, ha, hw⟩
  obtain rfl := hw hs.1 hs.2.1 hs.2.2
  apply hc
  rw [heq, append_nil]
  exact ha.length_eq

theorem handedOf_step (hs : h.Sound) (input : Input μ ε D) :
    h.requestQueue ++ clientsOf [input] = handedOf (h.step M input).2 ++ (h.step M input).1.requestQueue := by
  cases input with
  | client message =>
    show h.requestQueue ++ [message] = handedOf (h.client M message).2 ++ (h.client M message).1.requestQueue
    unfold Served.client
    split_ifs with hb
    · rfl
    · obtain ⟨hn, ht⟩ : h.activeRequest = none ∧ h.terminated = false := by simpa using hb
      unfold hand
      rw [(handedOf_settle _ _ _).1, (handedOf_settle _ _ _).2, hs.queue ht hn]
      simp [handedOf]
  | response message =>
    show h.requestQueue ++ [] = handedOf (h.response M message).2 ++ (h.response M message).1.requestQueue
    unfold Served.response
    split
    · simp [handedOf]
    · rw [(handedOf_settle _ _ _).1, (handedOf_settle _ _ _).2]
      simp [handedOf]
  | event message =>
    show h.requestQueue ++ [] = handedOf (h.settle _ _).2 ++ (h.settle _ _).1.requestQueue
    rw [(handedOf_settle _ _ _).1, (handedOf_settle _ _ _).2]
    simp [handedOf]
  | terminate =>
    show h.requestQueue ++ [] = handedOf (h.terminate M).2 ++ (h.terminate M).1.requestQueue
    unfold Served.terminate
    rw [(handedOf_settle _ _ _).1, (handedOf_settle _ _ _).2]
    simp [handedOf]
  | pop =>
    show h.requestQueue ++ [] = handedOf (h.pop M).2 ++ (h.pop M).1.requestQueue
    unfold Served.pop
    split
    · next hq => simp [handedOf, hq]
    · next message queue hq =>
      unfold hand
      rw [(handedOf_settle _ _ _).1, (handedOf_settle _ _ _).2, hq]
      simp [handedOf]
  | proceed =>
    show h.requestQueue ++ [] = handedOf (h.proceed M).2 ++ (h.proceed M).1.requestQueue
    unfold Served.proceed
    split <;> simp [handedOf]

theorem run_stepped (hs : Serves C h)
    (hl : EachStep (step M) (fun h input => enabled h input = true ∧ c.met h input) h inputs) :
    Stepped C h.owes ((run (step M) h inputs).1, (run (step M) h inputs).2.flatten) ∧
      h.requestQueue ++ clientsOf inputs =
        handedOf (run (step M) h inputs).2.flatten ++ (run (step M) h inputs).1.requestQueue := by
  induction inputs generalizing h with
  | nil => exact ⟨⟨hs, rfl⟩, by simp [clientsOf, handedOf]⟩
  | cons input inputs ih =>
    obtain ⟨⟨he, hc⟩, hrs⟩ := hl
    obtain ⟨hr, ht⟩ := step_stepped hs he hc
    obtain ⟨⟨hr', ht'⟩, hh⟩ := ih hr hrs
    have hcl : clientsOf (input :: inputs) = clientsOf [input] ++ clientsOf inputs :=
      filterMap_append (l := [input])
    refine ⟨⟨hr', ?_⟩, ?_⟩
    · simp only [run_cons, flatten_cons]
      rw [foldlM_append, ht]
      exact ht'
    · simp only [run_cons, flatten_cons, handedOf_append]
      rw [hcl, ← append_assoc, handedOf_step hs.sound, append_assoc, hh, append_assoc]

theorem serves_create (C : Contract M c) : Serves C (Served.create M) :=
  ⟨⟨rfl, fun _ _ => rfl, fun h => by simp [Served.create] at h, fun _ => rfl, fun h => by simp [Served.create] at h,
    fun _ hm => by simp [Served.create] at hm⟩, C.create.1, fun _ => C.create.2⟩

theorem Contract.run_answeredOnce (C : Contract M c) (hl : Legal M c inputs) : AnsweredOnce M inputs := by
  obtain ⟨⟨hs, ht⟩, hh⟩ : Stepped C .nothing (sessionAfter M inputs, traceOf M inputs) ∧
      clientsOf inputs = handedOf (traceOf M inputs) ++ (sessionAfter M inputs).requestQueue :=
    run_stepped (serves_create C) hl
  obtain ⟨answered, heq, ha⟩ := answered_of_owes ht
  have heq : handedOf (traceOf M inputs) = answered ++ (sessionAfter M inputs).owes.request.toList := heq
  refine ⟨hs.sound.notNull, answered, (sessionAfter M inputs).owes.request.toList ++
    (sessionAfter M inputs).requestQueue, ?_, ha, ?_⟩
  · rw [hh, heq, append_assoc]
  · intro hw hp hte
    have hn : (sessionAfter M inputs).owes = .nothing := C.awaits (hw ▸ hs.good)
    have hnn : (sessionAfter M inputs).activeRequest = none := by
      cases hc : (sessionAfter M inputs).activeRequest with
      | none => rfl
      | some request => simp [Served.owes, hp, hc] at hn
    have hq : (sessionAfter M inputs).requestQueue = [] := hs.sound.queue hte hnn
    simp [hn, Owes.request, hq]

end Contract

end UniMrcp.MrcpEngine
