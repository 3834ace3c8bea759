import UniMrcp.MrcpEngine.StateMachine

/-!
# The recognizer state machine

One RECOGNIZE request at a time is in progress; the others are pending, in a queue.
-/

namespace UniMrcp.MrcpEngine

open Mrcp

/-! ## The machine -/

/-- `mrcp_recog_state_e` -/
inductive RecogState
  | idle
  | recognizing
  | recognized
deriving DecidableEq

/-- `mrcp_recognizer_method_id` -/
inductive RecogMethod
  | setParams
  | getParams
  | defineGrammar
  | recognize
  | interpret
  | getResult
  | startInputTimers
  | stop
  | startPhraseEnrollment
  | enrollmentRollback
  | endPhraseEnrollment
  | modifyPhrase
  | deletePhrase
deriving DecidableEq

/-- `mrcp_recognizer_event_id` -/
inductive RecogEvent
  | startOfInput
  | recognitionComplete
  | interpretationComplete
deriving DecidableEq

variable {D : Type}

structure RecogStateMachine (D : Type) where
  active : Bool
  state : RecogState
  /-- The active request was taken from the queue of pending requests. -/
  isPending : Bool
  /-- The request that was sent to the engine and waits for its response. -/
  activeRequest : Option (Message RecogMethod D)
  recog : Option (Message RecogMethod D)
  queue : List (Message RecogMethod D)
  properties : MessageHeader D

abbrev RecogHandled (D : Type) := Handled (RecogStateMachine D) RecogMethod RecogEvent D

def recogRequestDispatch (s : RecogStateMachine D) (message : Message RecogMethod D) : RecogHandled D :=
  { machine := { s with activeRequest := some message }, out := [.request message] }

def recogResponseDispatch (s : RecogStateMachine D) (message : Message RecogMethod D) : RecogHandled D :=
  { machine := { s with activeRequest := none }, out := if s.active then [.response message] else [.deactivated] }

def recogEventDispatch (s : RecogStateMachine D) (message : Message RecogEvent D) : RecogHandled D :=
  { machine := s, out := if s.active then [.event message] else [], status := s.active }

def recogStateChange (s : RecogStateMachine D) (state : RecogState) : RecogStateMachine D :=
  { s with state := state, recog := if state = .idle then none else s.recog }

def recogPendingProcess (s : RecogStateMachine D) (message : Message RecogMethod D) : RecogStateMachine D :=
  { s with isPending := true, activeRequest := some message }

section Handlers

variable (ops : HeaderOps D)

def recogRespond (s : RecogStateMachine D) (message : Message RecogMethod D) (statusCode : Nat) : RecogHandled D :=
  recogResponseDispatch s { responseCreate ops message with statusCode := statusCode }

/-! ## Requests -/

def recogRequestSetParams (s : RecogStateMachine D) (message : Message RecogMethod D) : RecogHandled D :=
  recogRequestDispatch { s with properties := ops.fieldsSet s.properties message.header } message

def recogRequestGetParams (s : RecogStateMachine D) (message : Message RecogMethod D) : RecogHandled D :=
  recogRequestDispatch s message

def recognizedReset (s : RecogStateMachine D) : RecogStateMachine D :=
  if s.state = .recognized then recogStateChange s .idle else s

def recogRequestDefineGrammar (s : RecogStateMachine D) (message : Message RecogMethod D) : RecogHandled D :=
  if s.state = .recognizing then recogRespond ops s message statusCodeMethodNotValid
  else recogRequestDispatch (recognizedReset s) message

def recogRequestRecognize (s : RecogStateMachine D) (message : Message RecogMethod D) : RecogHandled D :=
  let message := { message with header := ops.fieldsInherit message.header s.properties }
  if s.state = .recognizing then
    let message := { message with requestState := .pending }
    (recogResponseDispatch { s with queue := s.queue ++ [message] }
      { responseCreate ops message with requestState := .pending }).precede [.queueUp message]
  else recogRequestDispatch s message

def recogRequestInterpret (s : RecogStateMachine D) (message : Message RecogMethod D) : RecogHandled D :=
  recogRequestDispatch s { message with header := ops.fieldsInherit message.header s.properties }

def recogRequestGetResult (s : RecogStateMachine D) (message : Message RecogMethod D) : RecogHandled D :=
  if s.state = .recognized then recogRequestDispatch s message
  else recogRespond ops s message statusCodeMethodNotValid

def recogRequestRecognitionStartTimers (s : RecogStateMachine D) (message : Message RecogMethod D) : RecogHandled D :=
  if s.state = .recognizing then recogRequestDispatch s message
  else recogRespond ops s message statusCodeMethodNotValid

/-- `recog_request_stop`, which reads the in-progress request while the machine is recognizing. -/
def recogRequestStop (s : RecogStateMachine D) (message : Message RecogMethod D) : Option (RecogHandled D) :=
  let answer (s : RecogStateMachine D) : RecogHandled D :=
    let r := pendingRequestsRemove s.queue message (responseCreate ops message)
    (recogResponseDispatch { s with queue := r.queue } r.response).precede (r.removed.map .removePending)
  if s.state = .recognizing then
    match requestIdListSelect message.header with
    | none => some (recogRequestDispatch s message)
    | some _ => s.recog.map fun recog => if selected message recog then recogRequestDispatch s message else answer s
  else some (answer (recognizedReset s))

/-- `recog_request_method_array`; the methods of enrollment have no handler. -/
def recogRequestMethod (method : RecogMethod) :
    Handler (RecogStateMachine D) RecogMethod RecogEvent RecogMethod D := fun s message =>
  match method with
  | .setParams => some (recogRequestSetParams ops s message)
  | .getParams => some (recogRequestGetParams s message)
  | .defineGrammar => some (recogRequestDefineGrammar ops s message)
  | .recognize => some (recogRequestRecognize ops s message)
  | .interpret => some (recogRequestInterpret ops s message)
  | .getResult => some (recogRequestGetResult ops s message)
  | .startInputTimers => some (recogRequestRecognitionStartTimers ops s message)
  | .stop => recogRequestStop ops s message
  | _ => some (recogRequestDispatch s message)

def recogResponseGetParams (request : Message RecogMethod D) (s : RecogStateMachine D)
    (message : Message RecogMethod D) : RecogHandled D :=
  recogResponseDispatch s { message with header := ops.fieldsGet message.header s.properties request.header }

def recogResponseDefineGrammar (s : RecogStateMachine D) (message : Message RecogMethod D) : RecogHandled D :=
  recogResponseDispatch s { message with header := ops.completionCauseSet message.header }

def recogResponseRecognize (request : Message RecogMethod D) (s : RecogStateMachine D)
    (message : Message RecogMethod D) : RecogHandled D :=
  let s :=
    if message.requestState = .inProgress then recogStateChange { s with recog := some request } .recognizing else s
  if s.isPending then { machine := { s with isPending := false }, out := [] }
  else recogResponseDispatch s message

def recogResponseStop (request : Message RecogMethod D) (s : RecogStateMachine D)
    (message : Message RecogMethod D) : Option (RecogHandled D) :=
  s.recog.map fun recog =>
    let r := pendingRequestsRemove s.queue request (activeRequestList message recog)
    let s := recogStateChange { s with queue := r.queue.tail } .idle
    { (recogResponseDispatch s r.response).precede (r.removed.map .removePending) with pending := r.queue.head? }

/-- `recog_response_method_array`; the methods of enrollment have no handler. -/
def recogResponseMethod (method : RecogMethod) (request : Message RecogMethod D) :
    Handler (RecogStateMachine D) RecogMethod RecogEvent RecogMethod D := fun s message =>
  match method with
  | .getParams => some (recogResponseGetParams ops request s message)
  | .defineGrammar => some (recogResponseDefineGrammar ops s message)
  | .recognize => some (recogResponseRecognize request s message)
  | .stop => recogResponseStop request s message
  | _ => some (recogResponseDispatch s message)

/-- The event belongs to the RECOGNIZE request that is in progress, or was recognized. -/
def isOfRecog (s : RecogStateMachine D) (message : Message RecogEvent D) : Bool :=
  s.recog.any fun recog => recog.requestId == message.requestId

def recogEventStartOfInput (s : RecogStateMachine D) (message : Message RecogEvent D) : RecogHandled D :=
  if isOfRecog s message then recogEventDispatch s { message with requestState := .inProgress }
  else { machine := s, out := [], status := false }

/-- The response to STOP is waited for, and RECOGNITION-COMPLETE is ignored. -/
def isRecogStopAwaited (s : RecogStateMachine D) : Bool := s.activeRequest.any fun request => request.methodId == some .stop

def acceptsRecognitionComplete (s : RecogStateMachine D) (message : Message RecogEvent D) : Bool :=
  isOfRecog s message && !isRecogStopAwaited s

def recogEventRecognitionComplete (s : RecogStateMachine D) (message : Message RecogEvent D) : RecogHandled D :=
  if acceptsRecognitionComplete s message then
    let out := (recogEventDispatch s { message with header := ops.completionCauseSet message.header }).out
    let s := recogStateChange s .recognized
    match s.queue with
    | [] => { machine := s, out := out }
    | pending :: queue =>
      { machine := recogPendingProcess { s with queue := queue } pending
        out := out ++ [.processPending pending, .request pending] }
  else { machine := s, out := [], status := false }

def recogEventInterpretationComplete (s : RecogStateMachine D) (message : Message RecogEvent D) : RecogHandled D :=
  recogEventDispatch s { message with header := ops.completionCauseSet message.header }

/-- `recog_event_method_array` -/
def recogEventMethod (event : RecogEvent) :
    Handler (RecogStateMachine D) RecogMethod RecogEvent RecogEvent D := fun s message =>
  match event with
  | .startOfInput => some (recogEventStartOfInput s message)
  | .recognitionComplete => some (recogEventRecognitionComplete ops s message)
  | .interpretationComplete => some (recogEventInterpretationComplete ops s message)

end Handlers

/-- `mrcp_state_machine_deactivate` with `recog_state_deactivate` -/
def recogStateDeactivate (s : RecogStateMachine D) : Option (RecogHandled D) :=
  let s := { s with active := false }
  if s.state = .recognizing then
    match s.recog with
    | none => refuse s
    | some recog => some (recogRequestDispatch s (stopCreate .stop recog))
  else refuse s

def recogStateMachineCreate (ops : HeaderOps D) : RecogStateMachine D := ⟨true, .idle, false, none, none, [], ops.create⟩

def recogStateMachine (ops : HeaderOps D) : StateMachine (RecogStateMachine D) RecogMethod RecogEvent D where
  create := recogStateMachineCreate ops
  active := RecogStateMachine.active
  requestUpdate := methodUpdate (recogRequestMethod ops)
  responseUpdate := responseStateUpdate RecogStateMachine.activeRequest (recogResponseMethod ops)
  eventUpdate := methodUpdate (recogEventMethod ops)
  deactivate := recogStateDeactivate
  pendingProcess := recogPendingProcess

end UniMrcp.MrcpEngine
