import UniMrcp.Mrcp.GenericHeader.Accessor

/-!
# State machines of resources

An `mrcp_state_machine_t` is updated with each request of the client, and with each response and event of the engine,
and dispatches messages to both.
-/

namespace UniMrcp.MrcpEngine

open Mrcp

/-- `mrcp_message_t`, as the state machines see it. -/
structure Message (μ D : Type) where
  requestId : Nat
  /-- The method, or the event; none stands for an identifier that the resource does not have. -/
  methodId : Option μ
  requestState : RequestState
  statusCode : Nat
  header : MessageHeader D

def statusCodeSuccess : Nat := 200
def statusCodeMethodNotValid : Nat := 402

/-- What the state machines do to headers of resource data of type `D`, besides the Active-Request-Id-List. -/
structure HeaderOps (D : Type) where
  resourceHeaderVTable : HeaderVTable D
  /-- `mrcp_header_fields_set` -/
  fieldsSet : MessageHeader D → MessageHeader D → MessageHeader D
  /-- `mrcp_header_fields_get` -/
  fieldsGet : MessageHeader D → MessageHeader D → MessageHeader D → MessageHeader D
  /-- `mrcp_header_fields_inherit` -/
  fieldsInherit : MessageHeader D → MessageHeader D → MessageHeader D
  /-- The completion cause is set, if it is missing. -/
  completionCauseSet : MessageHeader D → MessageHeader D
  /-- The value of Kill-On-Barge-In, true if it is missing. -/
  killOnBargeIn : MessageHeader D → Bool

variable {σ μ ε D : Type}

def HeaderOps.create (ops : HeaderOps D) : MessageHeader D :=
  messageHeaderDataAlloc messageHeaderInit genericHeaderVTable ops.resourceHeaderVTable

/-- The operations for a resource that has no header fields of its own, on headers without fields. -/
def plainHeaderOps : HeaderOps Unit where
  resourceHeaderVTable := ⟨(), fun data _ _ => (data, false), [], 0⟩
  fieldsSet header _ := header
  fieldsGet header _ _ := header
  fieldsInherit header _ := header
  completionCauseSet header := header
  killOnBargeIn _ := true

def plainRequest (requestId : Nat) (method : μ) : Message μ Unit :=
  ⟨requestId, some method, .unknown, 0, plainHeaderOps.create⟩

def plainMessage (requestId : Nat) (method : μ) (requestState : RequestState) (statusCode : Nat) : Message μ Unit :=
  ⟨requestId, some method, requestState, statusCode, plainHeaderOps.create⟩

def responseCreate (ops : HeaderOps D) (request : Message μ D) : Message μ D :=
  ⟨request.requestId, request.methodId, .complete, statusCodeSuccess, ops.create⟩

def Answers (response request : Message μ D) : Prop :=
  response.requestId = request.requestId ∧ response.methodId = request.methodId

instance [DecidableEq μ] (response request : Message μ D) : Decidable (Answers response request) :=
  inferInstanceAs (Decidable (_ ∧ _))

/-! ## Handlers -/

/-- What a state machine passes on. The last three are what it logs of its queue of pending requests. -/
inductive Output (μ ε D : Type)
  | request (message : Message μ D)
  | response (message : Message μ D)
  | event (message : Message ε D)
  /-- `on_deactivate` -/
  | deactivated
  | queueUp (message : Message μ D)
  | removePending (message : Message μ D)
  | processPending (message : Message μ D)

/-- What a handler leads to, unless it reads through a null pointer. -/
structure Handled (σ μ ε D : Type) where
  machine : σ
  out : List (Output μ ε D)
  /-- The pending request that is processed after the response was dispatched. -/
  pending : Option (Message μ D) := none
  status : Bool := true

abbrev Handler (σ μ ε ν D : Type) := σ → Message ν D → Option (Handled σ μ ε D)

/-- `mrcp_state_machine_t`, for machines of type `σ`. -/
structure StateMachine (σ μ ε D : Type) where
  create : σ
  active : σ → Bool
  requestUpdate : Handler σ μ ε μ D
  responseUpdate : Handler σ μ ε μ D
  eventUpdate : Handler σ μ ε ε D
  deactivate : σ → Option (Handled σ μ ε D)
  pendingProcess : σ → Message μ D → σ

def Handled.precede (out : List (Output μ ε D)) (h : Handled σ μ ε D) : Handled σ μ ε D := { h with out := out ++ h.out }

def refuse (s : σ) : Option (Handled σ μ ε D) := some ⟨s, [], none, false⟩

/-- A request or an event is looked up in an array of handlers by its identifier. -/
def methodUpdate {ν : Type} (handlers : ν → Handler σ μ ε ν D) : Handler σ μ ε ν D := fun s message =>
  match message.methodId with
  | none => refuse s
  | some method => handlers method s message

/-- A response is looked up if it has the request-id of the request that waits for it. -/
def responseStateUpdate (activeRequest : σ → Option (Message μ D)) (handlers : μ → Message μ D → Handler σ μ ε μ D) :
    Handler σ μ ε μ D := fun s message =>
  match activeRequest s with
  | none => refuse s
  | some request =>
    if request.requestId ≠ message.requestId then refuse s
    else methodUpdate (fun method => handlers method request) s message

def selected (request pending : Message μ D) : Bool :=
  match requestIdListSelect request.header with
  | none => true
  | some ids => ids.contains pending.requestId

/-- What is left of a queue, what is removed from it, and the response that lists it. -/
structure PendingRemoved (μ D : Type) where
  queue : List (Message μ D)
  removed : List (Message μ D)
  response : Message μ D

/-- `synth_pending_requests_remove` and `recog_pending_requests_remove` -/
def pendingRequestsRemove (queue : List (Message μ D)) (request response : Message μ D) : PendingRemoved μ D :=
  let removed := queue.filter (selected request)
  let header := removed.foldl (fun header pending => activeRequestIdListAppend header pending.requestId) response.header
  ⟨queue.filter (!selected request ·), removed,
    { response with header := if activeRequestIdList header = [] then header else activeRequestIdListAdd header }⟩

def activeRequestList (response request : Message μ D) : Message μ D :=
  { response with header := activeRequestIdListAdd (activeRequestIdListAppend response.header request.requestId) }

/-- The internal STOP request that deactivates a machine with an in-progress request. -/
def stopCreate (stop : μ) (source : Message μ D) : Message μ D :=
  ⟨(source.requestId + 1) % 2 ^ 32, some stop, .unknown, 0, source.header⟩

end UniMrcp.MrcpEngine
