import UniMrcp.MrcpEngine.StateMachine

/-!
# The recorder state machine

One RECORD request at a time is in progress, and the others are rejected.
-/

namespace UniMrcp.MrcpEngine

open Mrcp

/-! ## The machine -/

/-- `mrcp_recorder_state_e` -/
inductive RecorderState
  | idle
  | recording
deriving DecidableEq

/-- `mrcp_recorder_method_id` -/
inductive RecorderMethod
  | setParams
  | getParams
  | record
  | stop
  | startInputTimers
deriving DecidableEq

/-- `mrcp_recorder_event_id` -/
inductive RecorderEvent
  | startOfInput
  | recordComplete
deriving DecidableEq

variable {D : Type}

structure RecorderStateMachine (D : Type) where
  active : Bool
  state : RecorderState
  /-- The request that was sent to the engine and waits for its response. -/
  activeRequest : Option (Message RecorderMethod D)
  record : Option (Message RecorderMethod D)
  properties : MessageHeader D

abbrev RecorderHandled (D : Type) := Handled (RecorderStateMachine D) RecorderMethod RecorderEvent D

def recorderRequestDispatch (s : RecorderStateMachine D) (message : Message RecorderMethod D) : RecorderHandled D :=
  { machine := { s with activeRequest := some message }, out := [.request message] }

def recorderResponseDispatch (s : RecorderStateMachine D) (message : Message RecorderMethod D) : RecorderHandled D :=
  { machine := { s with activeRequest := none }, out := if s.active then [.response message] else [.deactivated] }

def recorderEventDispatch (s : RecorderStateMachine D) (message : Message RecorderEvent D) : RecorderHandled D :=
  { machine := s, out := if s.active then [.event message] else [], status := s.active }

def recorderStateChange (s : RecorderStateMachine D) (state : RecorderState) : RecorderStateMachine D :=
  { s with state := state, record := if state = .idle then none else s.record }

section Handlers

variable (ops : HeaderOps D)

def recorderRequestSetParams (s : RecorderStateMachine D) (message : Message RecorderMethod D) : RecorderHandled D :=
  recorderRequestDispatch { s with properties := ops.fieldsSet s.properties message.header } message

def recorderRequestGetParams (s : RecorderStateMachine D) (message : Message RecorderMethod D) : RecorderHandled D :=
  recorderRequestDispatch s message

def recorderRequestRecord (s : RecorderStateMachine D) (message : Message RecorderMethod D) : RecorderHandled D :=
  let message := { message with header := ops.fieldsInherit message.header s.properties }
  if s.state = .recording then
    recorderResponseDispatch s { responseCreate ops message with statusCode := statusCodeMethodNotValid }
  else recorderRequestDispatch s message

def recorderRequestStop (s : RecorderStateMachine D) (message : Message RecorderMethod D) : RecorderHandled D :=
  if s.state = .recording then recorderRequestDispatch s message
  else recorderResponseDispatch s (responseCreate ops message)

def recorderRequestStartTimers (s : RecorderStateMachine D) (message : Message RecorderMethod D) : RecorderHandled D :=
  if s.state = .recording then recorderRequestDispatch s message
  else recorderResponseDispatch s { responseCreate ops message with statusCode := statusCodeMethodNotValid }

/-- `recorder_request_method_array` -/
def recorderRequestMethod (method : RecorderMethod) :
    Handler (RecorderStateMachine D) RecorderMethod RecorderEvent RecorderMethod D := fun s message =>
  match method with
  | .setParams => some (recorderRequestSetParams ops s message)
  | .getParams => some (recorderRequestGetParams s message)
  | .record => some (recorderRequestRecord ops s message)
  | .stop => some (recorderRequestStop ops s message)
  | .startInputTimers => some (recorderRequestStartTimers ops s message)

def recorderResponseGetParams (request : Message RecorderMethod D) (s : RecorderStateMachine D)
    (message : Message RecorderMethod D) : RecorderHandled D :=
  recorderResponseDispatch s { message with header := ops.fieldsGet message.header s.properties request.header }

def recorderResponseRecord (request : Message RecorderMethod D) (s : RecorderStateMachine D)
    (message : Message RecorderMethod D) : RecorderHandled D :=
  let s :=
    if message.requestState = .inProgress then recorderStateChange { s with record := some request } .recording else s
  recorderResponseDispatch s message

def recorderResponseStop (s : RecorderStateMachine D) (message : Message RecorderMethod D) :
    Option (RecorderHandled D) :=
  s.record.map fun record => recorderResponseDispatch (recorderStateChange s .idle) (activeRequestList message record)

/-- `recorder_response_method_array` -/
def recorderResponseMethod (method : RecorderMethod) (request : Message RecorderMethod D) :
    Handler (RecorderStateMachine D) RecorderMethod RecorderEvent RecorderMethod D := fun s message =>
  match method with
  | .setParams => some (recorderResponseDispatch s message)
  | .getParams => some (recorderResponseGetParams ops request s message)
  | .record => some (recorderResponseRecord request s message)
  | .stop => recorderResponseStop s message
  | .startInputTimers => some (recorderResponseDispatch s message)

def isOfRecord (s : RecorderStateMachine D) (message : Message RecorderEvent D) : Bool :=
  s.record.any fun record => record.requestId == message.requestId

def recorderEventStartOfInput (s : RecorderStateMachine D) (message : Message RecorderEvent D) : RecorderHandled D :=
  if isOfRecord s message then recorderEventDispatch s { message with requestState := .inProgress }
  else { machine := s, out := [], status := false }

def isRecordStopAwaited (s : RecorderStateMachine D) : Bool :=
  s.activeRequest.any fun request => request.methodId == some .stop

def acceptsRecordComplete (s : RecorderStateMachine D) (message : Message RecorderEvent D) : Bool :=
  isOfRecord s message && !isRecordStopAwaited s

def recorderEventRecordComplete (s : RecorderStateMachine D) (message : Message RecorderEvent D) : RecorderHandled D :=
  if acceptsRecordComplete s message then
    recorderEventDispatch (recorderStateChange s .idle) { message with header := ops.completionCauseSet message.header }
  else { machine := s, out := [], status := false }

/-- `recorder_event_method_array` -/
def recorderEventMethod (event : RecorderEvent) :
    Handler (RecorderStateMachine D) RecorderMethod RecorderEvent RecorderEvent D := fun s message =>
  match event with
  | .startOfInput => some (recorderEventStartOfInput s message)
  | .recordComplete => some (recorderEventRecordComplete ops s message)

end Handlers

/-- `mrcp_state_machine_deactivate` with `recorder_state_deactivate` -/
def recorderStateDeactivate (s : RecorderStateMachine D) : Option (RecorderHandled D) :=
  let s := { s with active := false }
  if s.state = .recording then
    match s.record with
    | none => refuse s
    | some record => some (recorderRequestDispatch s (stopCreate .stop record))
  else refuse s

def recorderStateMachineCreate (ops : HeaderOps D) : RecorderStateMachine D := ⟨true, .idle, none, none, ops.create⟩

def recorderStateMachine (ops : HeaderOps D) : StateMachine (RecorderStateMachine D) RecorderMethod RecorderEvent D where
  create := recorderStateMachineCreate ops
  active := RecorderStateMachine.active
  requestUpdate := methodUpdate (recorderRequestMethod ops)
  responseUpdate := responseStateUpdate RecorderStateMachine.activeRequest (recorderResponseMethod ops)
  eventUpdate := methodUpdate (recorderEventMethod ops)
  deactivate := recorderStateDeactivate
  pendingProcess s _ := s

end UniMrcp.MrcpEngine
