import UniMrcp.MrcpEngine.StateMachine

/-!
# The verifier state machine

A session is started before a VERIFY request, and one VERIFY request at a time is in progress.
-/

namespace UniMrcp.MrcpEngine

open Mrcp

/-! ## The machine -/

/-- `mrcp_verifier_state_e` -/
inductive VerifierState
  | idle
  | opened
  | verifying
deriving DecidableEq

/-- `mrcp_verifier_method_id` -/
inductive VerifierMethod
  | setParams
  | getParams
  | startSession
  | endSession
  | queryVoiceprint
  | deleteVoiceprint
  | verify
  | verifyFromBuffer
  | verifyRollback
  | stop
  | clearBuffer
  | startInputTimers
  | getIntermidiateResult
deriving DecidableEq

/-- `mrcp_verifier_event_id` -/
inductive VerifierEvent
  | startOfInput
  | verificationComplete
deriving DecidableEq

variable {D : Type}

structure VerifierStateMachine (D : Type) where
  active : Bool
  state : VerifierState
  /-- The request that was sent to the engine and waits for its response. -/
  activeRequest : Option (Message VerifierMethod D)
  verify : Option (Message VerifierMethod D)
  properties : MessageHeader D

abbrev VerifierHandled (D : Type) := Handled (VerifierStateMachine D) VerifierMethod VerifierEvent D

def verifierRequestDispatch (s : VerifierStateMachine D) (message : Message VerifierMethod D) : VerifierHandled D :=
  { machine := { s with activeRequest := some message }, out := [.request message] }

def verifierResponseDispatch (s : VerifierStateMachine D) (message : Message VerifierMethod D) : VerifierHandled D :=
  { machine := { s with activeRequest := none }, out := if s.active then [.response message] else [.deactivated] }

def verifierEventDispatch (s : VerifierStateMachine D) (message : Message VerifierEvent D) : VerifierHandled D :=
  { machine := s, out := if s.active then [.event message] else [], status := s.active }

def verifierStateChange (s : VerifierStateMachine D) (state : VerifierState) : VerifierStateMachine D :=
  { s with state := state, verify := if state = .idle then none else s.verify }

section Handlers

variable (ops : HeaderOps D)

/-! ## Requests -/

def verifierRequestIf (permitted : Bool) (s : VerifierStateMachine D) (message : Message VerifierMethod D) :
    VerifierHandled D :=
  if permitted then verifierRequestDispatch s message
  else verifierResponseDispatch s { responseCreate ops message with statusCode := statusCodeMethodNotValid }

def verifierRequestSetParams (s : VerifierStateMachine D) (message : Message VerifierMethod D) : VerifierHandled D :=
  verifierRequestDispatch { s with properties := ops.fieldsSet s.properties message.header } message

def verifierRequestStartSession (s : VerifierStateMachine D) (message : Message VerifierMethod D) : VerifierHandled D :=
  verifierRequestIf ops (s.state != .verifying) s message

def verifierRequestEndSession (s : VerifierStateMachine D) (message : Message VerifierMethod D) : VerifierHandled D :=
  verifierRequestIf ops (s.state != .idle) s message

def verifierRequestQueryVoiceprint (s : VerifierStateMachine D) (message : Message VerifierMethod D) :
    VerifierHandled D :=
  verifierRequestIf ops (s.state != .idle) s message

def verifierRequestDeleteVoiceprint (s : VerifierStateMachine D) (message : Message VerifierMethod D) :
    VerifierHandled D :=
  verifierRequestIf ops (s.state != .idle) s message

def verifierRequestVerify (s : VerifierStateMachine D) (message : Message VerifierMethod D) : VerifierHandled D :=
  if s.state = .idle ∨ s.state = .verifying then
    verifierResponseDispatch s { responseCreate ops message with statusCode := statusCodeMethodNotValid }
  else verifierRequestDispatch { s with verify := some message } message

def verifierRequestVerifyFromBuffer (s : VerifierStateMachine D) (message : Message VerifierMethod D) :
    VerifierHandled D :=
  verifierRequestVerify ops s message

def verifierRequestStop (s : VerifierStateMachine D) (message : Message VerifierMethod D) : VerifierHandled D :=
  match s.state with
  | .idle => verifierResponseDispatch s { responseCreate ops message with statusCode := statusCodeMethodNotValid }
  | .opened => verifierResponseDispatch s (responseCreate ops message)
  | .verifying => verifierRequestDispatch s message

def verifierRequestStartInputTimers (s : VerifierStateMachine D) (message : Message VerifierMethod D) :
    VerifierHandled D :=
  verifierRequestIf ops (s.state != .idle && s.state != .verifying) s message

def verifierRequestGetIntermidiateResult (s : VerifierStateMachine D) (message : Message VerifierMethod D) :
    VerifierHandled D :=
  verifierRequestIf ops (s.state == .verifying) s message

/-- `verifier_request_method_array` -/
def verifierRequestMethod (method : VerifierMethod) :
    Handler (VerifierStateMachine D) VerifierMethod VerifierEvent VerifierMethod D := fun s message =>
  match method with
  | .setParams => some (verifierRequestSetParams ops s message)
  | .getParams => some (verifierRequestDispatch s message)
  | .startSession => some (verifierRequestStartSession ops s message)
  | .endSession => some (verifierRequestEndSession ops s message)
  | .queryVoiceprint => some (verifierRequestQueryVoiceprint ops s message)
  | .deleteVoiceprint => some (verifierRequestDeleteVoiceprint ops s message)
  | .verify => some (verifierRequestVerify ops s message)
  | .verifyFromBuffer => some (verifierRequestVerifyFromBuffer ops s message)
  | .verifyRollback => some (verifierRequestDispatch s message)
  | .stop => some (verifierRequestStop ops s message)
  | .clearBuffer => some (verifierRequestDispatch s message)
  | .startInputTimers => some (verifierRequestStartInputTimers ops s message)
  | .getIntermidiateResult => some (verifierRequestGetIntermidiateResult ops s message)

/-! ## Responses to an active request -/

def verifierResponseGetParams (request : Message VerifierMethod D) (s : VerifierStateMachine D)
    (message : Message VerifierMethod D) : VerifierHandled D :=
  verifierResponseDispatch s { message with header := ops.fieldsGet message.header s.properties request.header }

def verifierResponseChange (state : VerifierState) (s : VerifierStateMachine D) (message : Message VerifierMethod D) :
    VerifierHandled D :=
  verifierResponseDispatch (verifierStateChange s state) message

def verifierResponseStartSession (s : VerifierStateMachine D) (message : Message VerifierMethod D) :
    VerifierHandled D :=
  verifierResponseChange .opened s message

def verifierResponseEndSession (s : VerifierStateMachine D) (message : Message VerifierMethod D) : VerifierHandled D :=
  verifierResponseChange .idle s message

def verifierResponseVerify (s : VerifierStateMachine D) (message : Message VerifierMethod D) : VerifierHandled D :=
  verifierResponseChange .verifying s message

def verifierResponseVerifyFromBuffer (s : VerifierStateMachine D) (message : Message VerifierMethod D) :
    VerifierHandled D :=
  verifierResponseChange .verifying s message

def verifierResponseStop (s : VerifierStateMachine D) (message : Message VerifierMethod D) :
    Option (VerifierHandled D) :=
  s.verify.map fun verify => verifierResponseDispatch (verifierStateChange s .opened) (activeRequestList message verify)

/-- `verifier_response_method_array` -/
def verifierResponseMethod (method : VerifierMethod) (request : Message VerifierMethod D) :
    Handler (VerifierStateMachine D) VerifierMethod VerifierEvent VerifierMethod D := fun s message =>
  match method with
  | .setParams => some (verifierResponseDispatch s message)
  | .getParams => some (verifierResponseGetParams ops request s message)
  | .startSession => some (verifierResponseStartSession s message)
  | .endSession => some (verifierResponseEndSession s message)
  | .queryVoiceprint => some (verifierResponseDispatch s message)
  | .deleteVoiceprint => some (verifierResponseDispatch s message)
  | .verify => some (verifierResponseVerify s message)
  | .verifyFromBuffer => some (verifierResponseVerifyFromBuffer s message)
  | .verifyRollback => some (verifierResponseDispatch s message)
  | .stop => verifierResponseStop s message
  | .clearBuffer => some (verifierResponseDispatch s message)
  | .startInputTimers => some (verifierResponseDispatch s message)
  | .getIntermidiateResult => some (verifierResponseDispatch s message)

def isOfVerify (s : VerifierStateMachine D) (message : Message VerifierEvent D) : Bool :=
  s.verify.any fun verify => verify.requestId == message.requestId

def verifierEventStartOfInput (s : VerifierStateMachine D) (message : Message VerifierEvent D) : VerifierHandled D :=
  if isOfVerify s message then verifierEventDispatch s { message with requestState := .inProgress }
  else { machine := s, out := [], status := false }

/-- The response to STOP is waited for, and VERIFICATION-COMPLETE is ignored. -/
def isVerifyStopAwaited (s : VerifierStateMachine D) : Bool :=
  s.activeRequest.any fun request => request.methodId == some .stop

def acceptsVerificationComplete (s : VerifierStateMachine D) (message : Message VerifierEvent D) : Bool :=
  isOfVerify s message && !isVerifyStopAwaited s

def verifierEventVerificationComplete (s : VerifierStateMachine D) (message : Message VerifierEvent D) :
    VerifierHandled D :=
  if acceptsVerificationComplete s message then
    verifierEventDispatch (verifierStateChange s .opened)
      { message with header := ops.completionCauseSet message.header }
  else { machine := s, out := [], status := false }

/-- `verifier_event_method_array` -/
def verifierEventMethod (event : VerifierEvent) :
    Handler (VerifierStateMachine D) VerifierMethod VerifierEvent VerifierEvent D := fun s message =>
  match event with
  | .startOfInput => some (verifierEventStartOfInput s message)
  | .verificationComplete => some (verifierEventVerificationComplete ops s message)

end Handlers

/-- `mrcp_state_machine_deactivate` with `verifier_state_deactivate` -/
def verifierStateDeactivate (s : VerifierStateMachine D) : Option (VerifierHandled D) :=
  let s := { s with active := false }
  if s.state = .verifying then
    match s.verify with
    | none => refuse s
    | some verify => some (verifierRequestDispatch s (stopCreate .stop verify))
  else refuse s

def verifierStateMachineCreate (ops : HeaderOps D) : VerifierStateMachine D := ⟨true, .idle, none, none, ops.create⟩

def verifierStateMachine (ops : HeaderOps D) : StateMachine (VerifierStateMachine D) VerifierMethod VerifierEvent D where
  create := verifierStateMachineCreate ops
  active := VerifierStateMachine.active
  requestUpdate := methodUpdate (verifierRequestMethod ops)
  responseUpdate := responseStateUpdate VerifierStateMachine.activeRequest (verifierResponseMethod ops)
  eventUpdate := methodUpdate (verifierEventMethod ops)
  deactivate := verifierStateDeactivate
  pendingProcess s _ := s

end UniMrcp.MrcpEngine
