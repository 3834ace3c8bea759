import UniMrcp.MrcpEngine.StateMachine

/-!
# The synthesizer state machine

One SPEAK request at a time is in progress; the others are pending, in a queue.
-/

namespace UniMrcp.MrcpEngine

open Mrcp

/-! ## The machine -/

/-- `mrcp_synth_state_e` -/
inductive SynthState
  | idle
  | speaking
  | paused
deriving DecidableEq

/-- `mrcp_synthesizer_method_id` -/
inductive SynthMethod
  | setParams
  | getParams
  | speak
  | stop
  | pause
  | resume
  | bargeInOccurred
  | control
  | defineLexicon
deriving DecidableEq

/-- `mrcp_synthesizer_event_id` -/
inductive SynthEvent
  | speechMarker
  | speakComplete
deriving DecidableEq

variable {D : Type}

structure SynthStateMachine (D : Type) where
  active : Bool
  state : SynthState
  /-- The active request was taken from the queue of pending requests. -/
  isPending : Bool
  /-- The request that was sent to the engine and waits for its response. -/
  activeRequest : Option (Message SynthMethod D)
  speaker : Option (Message SynthMethod D)
  queue : List (Message SynthMethod D)
  properties : MessageHeader D

abbrev SynthHandled (D : Type) := Handled (SynthStateMachine D) SynthMethod SynthEvent D

def synthRequestDispatch (s : SynthStateMachine D) (message : Message SynthMethod D) : SynthHandled D :=
  { machine := { s with activeRequest := some message }, out := [.request message] }

def synthResponseDispatch (s : SynthStateMachine D) (message : Message SynthMethod D) : SynthHandled D :=
  { machine := { s with activeRequest := none }, out := if s.active then [.response message] else [.deactivated] }

def synthEventDispatch (s : SynthStateMachine D) (message : Message SynthEvent D) : SynthHandled D :=
  { machine := s, out := if s.active then [.event message] else [], status := s.active }

def synthStateChange (s : SynthStateMachine D) (state : SynthState) : SynthStateMachine D :=
  { s with state := state, speaker := if state = .idle then none else s.speaker }

def synthPendingProcess (s : SynthStateMachine D) (message : Message SynthMethod D) : SynthStateMachine D :=
  { s with isPending := true, activeRequest := some message }

section Handlers

variable (ops : HeaderOps D)

def synthRespond (s : SynthStateMachine D) (message : Message SynthMethod D) (statusCode : Nat) : SynthHandled D :=
  synthResponseDispatch s { responseCreate ops message with statusCode := statusCode }

/-! ## Requests -/

def synthRequestSetParams (s : SynthStateMachine D) (message : Message SynthMethod D) : SynthHandled D :=
  synthRequestDispatch { s with properties := ops.fieldsSet s.properties message.header } message

def synthRequestGetParams (s : SynthStateMachine D) (message : Message SynthMethod D) : SynthHandled D :=
  synthRequestDispatch s message

def synthRequestSpeak (s : SynthStateMachine D) (message : Message SynthMethod D) : SynthHandled D :=
  let message := { message with header := ops.fieldsInherit message.header s.properties }
  match s.speaker with
  | some _ =>
    let message := { message with requestState := .pending }
    (synthResponseDispatch { s with queue := s.queue ++ [message] }
      { responseCreate ops message with requestState := .pending }).precede [.queueUp message]
  | none => synthRequestDispatch s message

def synthRequestStop (s : SynthStateMachine D) (message : Message SynthMethod D) : SynthHandled D :=
  if s.speaker.any (selected message) then synthRequestDispatch s message
  else
    let r := pendingRequestsRemove s.queue message (responseCreate ops message)
    (synthResponseDispatch { s with queue := r.queue } r.response).precede (r.removed.map .removePending)

def synthRequestPause (s : SynthStateMachine D) (message : Message SynthMethod D) : SynthHandled D :=
  match s.speaker with
  | some _ =>
    if s.state = .speaking then synthRequestDispatch s message else synthRespond ops s message statusCodeSuccess
  | none => synthRespond ops s message statusCodeMethodNotValid

def synthRequestResume (s : SynthStateMachine D) (message : Message SynthMethod D) : SynthHandled D :=
  match s.speaker with
  | some _ =>
    if s.state = .paused then synthRequestDispatch s message else synthRespond ops s message statusCodeSuccess
  | none => synthRespond ops s message statusCodeMethodNotValid

def synthRequestBargeInOccurred (s : SynthStateMachine D) (message : Message SynthMethod D) : SynthHandled D :=
  if s.speaker.isSome = true ∧ ops.killOnBargeIn message.header then synthRequestDispatch s message
  else synthRespond ops s message statusCodeSuccess

def synthRequestControl (s : SynthStateMachine D) (message : Message SynthMethod D) : SynthHandled D :=
  if s.state = .speaking then synthRequestDispatch s message else synthRespond ops s message statusCodeSuccess

def synthRequestDefineLexicon (s : SynthStateMachine D) (message : Message SynthMethod D) : SynthHandled D :=
  if s.state = .idle then synthRequestDispatch s message else synthRespond ops s message statusCodeMethodNotValid

/-- `synth_request_method_array` -/
def synthRequestMethod (method : SynthMethod) :
    Handler (SynthStateMachine D) SynthMethod SynthEvent SynthMethod D := fun s message =>
  match method with
  | .setParams => some (synthRequestSetParams ops s message)
  | .getParams => some (synthRequestGetParams s message)
  | .speak => some (synthRequestSpeak ops s message)
  | .stop => some (synthRequestStop ops s message)
  | .pause => some (synthRequestPause ops s message)
  | .resume => some (synthRequestResume ops s message)
  | .bargeInOccurred => some (synthRequestBargeInOccurred ops s message)
  | .control => some (synthRequestControl ops s message)
  | .defineLexicon => some (synthRequestDefineLexicon ops s message)

/-! ## Responses to an active request -/

def synthResponseGetParams (request : Message SynthMethod D) (s : SynthStateMachine D)
    (message : Message SynthMethod D) : SynthHandled D :=
  synthResponseDispatch s { message with header := ops.fieldsGet message.header s.properties request.header }

/-- The SPEECH-MARKER event that is sent for a pending request, instead of the response. -/
def speechMarkerCreate (request : Message SynthMethod D) : Message SynthEvent D :=
  ⟨request.requestId, some .speechMarker, .inProgress, 0, ops.create⟩

def synthResponseSpeak (request : Message SynthMethod D) (s : SynthStateMachine D)
    (message : Message SynthMethod D) : SynthHandled D :=
  let s :=
    if message.requestState = .inProgress then synthStateChange { s with speaker := some request } .speaking else s
  if s.isPending then synthEventDispatch { s with isPending := false } (speechMarkerCreate ops request)
  else synthResponseDispatch s message

def synthResponseStop (request : Message SynthMethod D) (s : SynthStateMachine D)
    (message : Message SynthMethod D) : Option (SynthHandled D) :=
  s.speaker.map fun speaker =>
    let r := pendingRequestsRemove s.queue request (activeRequestList message speaker)
    let s := synthStateChange { s with queue := r.queue.tail } .idle
    { (synthResponseDispatch s r.response).precede (r.removed.map .removePending) with pending := r.queue.head? }

/-- A response to PAUSE or RESUME: one of success lists the speaker and changes the state. -/
def synthResponseListed (s : SynthStateMachine D) (message : Message SynthMethod D) (state : SynthState) :
    Option (SynthHandled D) :=
  if message.statusCode = statusCodeSuccess then
    s.speaker.map fun speaker => synthResponseDispatch (synthStateChange s state) (activeRequestList message speaker)
  else some (synthResponseDispatch s message)

def synthResponsePause (s : SynthStateMachine D) (message : Message SynthMethod D) : Option (SynthHandled D) :=
  synthResponseListed s message .paused

def synthResponseResume (s : SynthStateMachine D) (message : Message SynthMethod D) : Option (SynthHandled D) :=
  synthResponseListed s message .speaking

def synthResponseBargeInOccurred (request : Message SynthMethod D) (s : SynthStateMachine D)
    (message : Message SynthMethod D) : Option (SynthHandled D) :=
  s.speaker.map fun speaker =>
    let r := pendingRequestsRemove s.queue request (activeRequestList message speaker)
    (synthResponseDispatch (synthStateChange { s with queue := r.queue } .idle) r.response).precede
      (r.removed.map .removePending)

def synthResponseControl (s : SynthStateMachine D) (message : Message SynthMethod D) : Option (SynthHandled D) :=
  s.speaker.map fun speaker => synthResponseDispatch s (activeRequestList message speaker)

/-- `synth_response_method_array` -/
def synthResponseMethod (method : SynthMethod) (request : Message SynthMethod D) :
    Handler (SynthStateMachine D) SynthMethod SynthEvent SynthMethod D := fun s message =>
  match method with
  | .setParams => some (synthResponseDispatch s message)
  | .getParams => some (synthResponseGetParams ops request s message)
  | .speak => some (synthResponseSpeak ops request s message)
  | .stop => synthResponseStop request s message
  | .pause => synthResponsePause s message
  | .resume => synthResponseResume s message
  | .bargeInOccurred => synthResponseBargeInOccurred request s message
  | .control => synthResponseControl s message
  | .defineLexicon => some (synthResponseDispatch s message)

def isOfSpeaker (s : SynthStateMachine D) (message : Message SynthEvent D) : Bool :=
  s.speaker.any fun speaker => speaker.requestId == message.requestId

def synthEventSpeechMarker (s : SynthStateMachine D) (message : Message SynthEvent D) : SynthHandled D :=
  if isOfSpeaker s message then synthEventDispatch s { message with requestState := .inProgress }
  else { machine := s, out := [], status := false }

/-- The response to STOP or BARGE-IN-OCCURRED is waited for, and SPEAK-COMPLETE is ignored. -/
def isStopAwaited (s : SynthStateMachine D) : Bool :=
  s.activeRequest.any fun request => request.methodId == some .stop || request.methodId == some .bargeInOccurred

def acceptsSpeakComplete (s : SynthStateMachine D) (message : Message SynthEvent D) : Bool :=
  isOfSpeaker s message && !isStopAwaited s

def synthEventSpeakComplete (s : SynthStateMachine D) (message : Message SynthEvent D) : SynthHandled D :=
  if acceptsSpeakComplete s message then
    let out := (synthEventDispatch s { message with header := ops.completionCauseSet message.header }).out
    let s := synthStateChange s .idle
    match s.queue with
    | [] => { machine := s, out := out }
    | pending :: queue =>
      { machine := synthPendingProcess { s with queue := queue } pending
        out := out ++ [.processPending pending, .request pending] }
  else { machine := s, out := [], status := false }

/-- `synth_event_method_array` -/
def synthEventMethod (event : SynthEvent) :
    Handler (SynthStateMachine D) SynthMethod SynthEvent SynthEvent D := fun s message =>
  match event with
  | .speechMarker => some (synthEventSpeechMarker s message)
  | .speakComplete => some (synthEventSpeakComplete ops s message)

end Handlers

/-- `mrcp_state_machine_deactivate` with `synth_state_deactivate` -/
def synthStateDeactivate (s : SynthStateMachine D) : Option (SynthHandled D) :=
  let s := { s with active := false }
  match s.speaker with
  | none => refuse s
  | some speaker => some (synthRequestDispatch s (stopCreate .stop speaker))

def synthStateMachineCreate (ops : HeaderOps D) : SynthStateMachine D := ⟨true, .idle, false, none, none, [], ops.create⟩

def synthStateMachine (ops : HeaderOps D) : StateMachine (SynthStateMachine D) SynthMethod SynthEvent D where
  create := synthStateMachineCreate ops
  active := SynthStateMachine.active
  requestUpdate := methodUpdate (synthRequestMethod ops)
  responseUpdate := responseStateUpdate SynthStateMachine.activeRequest (synthResponseMethod ops)
  eventUpdate := methodUpdate (synthEventMethod ops)
  deactivate := synthStateDeactivate
  pendingProcess := synthPendingProcess

end UniMrcp.MrcpEngine
