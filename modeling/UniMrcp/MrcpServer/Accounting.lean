import Mathlib.Data.List.Induction
import UniMrcp.MrcpEngine.Recorder
import UniMrcp.MrcpServer.Session.Steps

/-!
# Subrequest accounting of a server session
-/

namespace UniMrcp.MrcpServer

open Lib MrcpEngine List Session

/-! ## Answers in a log -/

section Log

variable {μ ε D : Type}

def Event.isOffer : Event μ ε D → Bool
  | .dispatch (.offer _) => true
  | _ => false

def Event.isAnswer : Event μ ε D → Bool
  | .answer _ => true
  | _ => false

def Event.isTerminate : Event μ ε D → Bool
  | .dispatch .terminate => true
  | _ => false

def Event.isTerminateResponse : Event μ ε D → Bool
  | .terminateResponse => true
  | _ => false

def Phase.terminates : Phase → Bool
  | .deactivating | .releasing | .ended => true
  | _ => false

inductive Phase.Turns : Phase → Event μ ε D → Phase → Prop
  | offer (descriptor : SessionDescriptor) : Turns .idle (.dispatch (.offer descriptor)) .answering
  | answer (descriptor : SessionDescriptor) : Turns .answering (.answer descriptor) .idle
  | terminate : Turns .idle (.dispatch .terminate) .deactivating
  | release : Turns .deactivating .release .releasing
  | response : Turns .releasing .terminateResponse .ended
  | other (phase : Phase) (event : Event μ ε D) : event.isOffer = false → event.isAnswer = false →
      event.isTerminate = false → event.isTerminateResponse = false → Turns phase event phase

variable {event : Event μ ε D}

theorem Account.step_turns {a b : Account} (h : a.step event = some b) : Phase.Turns a.phase event b.phase := by
  cases event with
  | dispatch message =>
    cases message with
    | offer descriptor =>
      obtain ⟨hp, rfl⟩ := by simpa [Account.step] using h
      exact hp ▸ .offer descriptor
    | control channel resourceName message =>
      obtain ⟨-, rfl⟩ := by simpa [Account.step] using h
      exact .other _ _ rfl rfl rfl rfl
    | terminate =>
      obtain ⟨hp, rfl⟩ := by simpa [Account.step] using h
      exact hp ▸ .terminate
  | start subrequest =>
    obtain ⟨-, rfl⟩ := by simpa [Account.step] using h
    exact .other _ _ rfl rfl rfl rfl
  | complete subrequest =>
    obtain ⟨-, rfl⟩ := by simpa [Account.step] using h
    exact .other _ _ rfl rfl rfl rfl
  | answer descriptor =>
    obtain ⟨⟨hp, -⟩, rfl⟩ := by simpa [Account.step] using h
    exact hp ▸ .answer descriptor
  | release =>
    obtain ⟨⟨hp, -⟩, rfl⟩ := by simpa [Account.step] using h
    exact hp ▸ .release
  | terminateResponse =>
    obtain ⟨⟨hp, -⟩, rfl⟩ := by simpa [Account.step] using h
    exact hp ▸ .response
  | out i output =>
    obtain rfl : a = b := by simpa [Account.step] using h
    exact .other _ _ rfl rfl rfl rfl

/-- One answer was sent for each offer but the one in progress, and one response to the termination if the session has
terminated. -/
structure Tally (log : List (Event μ ε D)) (phase : Phase) : Prop where
  offers : log.countP Event.isOffer = log.countP Event.isAnswer + if phase = .answering then 1 else 0
  terminate : log.countP Event.isTerminate = if phase.terminates then 1 else 0
  response : log.countP Event.isTerminateResponse = if phase = .ended then 1 else 0

variable {log : List (Event μ ε D)}

theorem Tally.step {phase phase' : Phase} (h : Tally log phase) (ht : Phase.Turns phase event phase') :
    Tally (log ++ [event]) phase' := by
  obtain ⟨hf, hr, hs⟩ := h
  cases ht with
  | other _ _ ho ha hte hre =>
    constructor
    · simpa [countP_append, countP_singleton, ho, ha] using hf
    · simpa [countP_append, countP_singleton, hte] using hr
    · simpa [countP_append, countP_singleton, hre] using hs
  | _ =>
    constructor <;>
      simp_all [countP_append, countP_singleton, Event.isOffer, Event.isAnswer, Event.isTerminate,
        Event.isTerminateResponse, Phase.terminates]

theorem Account.tally {a : Account} (h : Account.after log = some a) : Tally log a.phase := by
  induction log using List.reverseRecOn generalizing a with
  | nil =>
    obtain rfl := Option.some.inj h
    constructor <;> rfl
  | append_singleton log event ih =>
    obtain ⟨before, hb, hs⟩ : ∃ before, Account.after log = some before ∧ before.step event = some a := by
      unfold Account.after at h ⊢
      rw [foldlM_append] at h
      obtain ⟨before, hb, hr⟩ := Option.bind_eq_some_iff.1 h
      exact ⟨before, hb, by simpa using hr⟩
    exact (ih hb).step (Account.step_turns hs)

end Log

/-! ## Runs of a session -/

section Runs

variable {κ σ μ ε D : Type} (M : κ → StateMachine σ μ ε D) (P : Profile κ)

def keepsDue (due : Due) (r : Option (Handled σ μ ε D)) : Bool := r.all fun r => (due.after r.out).isSome

/-- A state machine responds to the request that it is handed, and answers a request to deactivate later. -/
def Session.orderlyDispatch (s : Session κ σ μ ε D) : SignalingMessage μ D → Bool
  | .offer _ => true
  | .control channel resourceName message =>
    (s.controlHandled M channel resourceName message).all fun r => keepsDue .response r.2
  | .terminate => s.channels.all fun channel => channel.stateMachine.all fun m =>
      ((M m.kind).deactivate m.machine).any fun r => r.out.all isQuiet

/-- The machines tell what they were asked for: the response to the control request in progress, and once that they are
deactivated. -/
def Session.orderly (s : Session κ σ μ ε D) : Input μ ε D → Bool
  | .signaling message => s.activeRequest.isSome || s.orderlyDispatch M message
  | .dispatch => s.activeRequest.all (s.orderlyDispatch M)
  | .completed _ _ => true
  | .engineResponse i message => (s.machine i).all fun m => keepsDue (s.due i) ((M m.kind).responseUpdate m.machine message)
  | .engineEvent i message => (s.machine i).all fun m => keepsDue (s.due i) ((M m.kind).eventUpdate m.machine message)
  | .proceed _ => true

def Terms.order : Terms M where
  good _ _ _ _ _ := True
  lossy := True
  create _ := trivial

variable {M} {P} {s : Session κ σ μ ε D}

theorem keepsDue_keeps {k : κ} {pending : Option (Message μ D)} {due : Due} {awaited : List (Message μ D)}
    {r : Option (Handled σ μ ε D)} (h : keepsDue due r) : (Terms.order M).Keeps k pending due awaited r := by
  cases r with
  | none => exact trivial
  | some r =>
    obtain ⟨due', ha⟩ := Option.isSome_iff_exists.1 (show (due.after r.out).isSome = true from h)
    exact ⟨due', ha, trivial⟩

theorem Session.lawfulDispatch_of_orderly {message : SignalingMessage μ D}
    (h : s.orderlyDispatch M message) : s.LawfulDispatch (Terms.order M) message := by
  cases message with
  | offer descriptor => exact trivial
  | control channel resourceName message =>
    refine ⟨Or.inl trivial, fun i m awaited ht hm _ => keepsDue_keeps ?_⟩
    have h : ((s.target channel resourceName).bind fun i =>
        (s.machine i).map fun m => (i, (M m.kind).requestUpdate m.machine message)).all
          (fun r => keepsDue .response r.2) = true := h
    rw [ht, Option.bind_some, hm] at h
    exact h
  | terminate =>
    intro i m awaited hm _
    obtain ⟨channel, hc, hmc⟩ := Option.bind_eq_some_iff.1 hm
    have ha := all_eq_true.1 h channel (mem_of_getElem? hc)
    rw [hmc] at ha
    obtain ⟨r, hr, hq⟩ := (Option.any_eq_true _ _).1 ha
    exact ⟨r, hr, all_eq_true.1 hq, trivial⟩

theorem accounted_new (T : Terms M) : Accounted T 0 [] 0 ({} : Session κ σ μ ε D) := by
  have hb : Books .idle 0 ({} : Session κ σ μ ε D) := by
    refine ⟨⟨?_, ?_⟩, rfl, rfl, ?_, ?_, ?_, ?_⟩ <;> simp [held, Account.after, flags]
  have hs : Stage ({} : Session κ σ μ ε D).core .idle := by
    refine .idle rfl rfl ?_ ?_ ?_ <;> simp [core]
  refine ⟨⟨⟨.idle, hb, hs, by simp⟩, by simp, by simp, by simp, rfl, Or.inr ?_⟩, rfl, ?_⟩
  · intro _ _ _ _ ha
    simp at ha
  · intro j x hx
    simp [staff] at hx

variable [DecidableEq μ]

variable {input : Input μ ε D}

theorem Session.lawful_of_orderly (h : s.orderly M input) : s.Lawful (Terms.order M) input := by
  cases input with
  | signaling message =>
    intro hn
    have h : (s.activeRequest.isSome || s.orderlyDispatch M message) := h
    rw [hn] at h
    exact s.lawfulDispatch_of_orderly h
  | completed subrequest result => exact trivial
  | engineResponse i message =>
    intro m hm _
    have h : (s.machine i).all (fun m => keepsDue (s.due i) ((M m.kind).responseUpdate m.machine message)) := h
    rw [hm] at h
    exact keepsDue_keeps h
  | engineEvent i message =>
    intro m hm _
    have h : (s.machine i).all (fun m => keepsDue (s.due i) ((M m.kind).eventUpdate m.machine message)) := h
    rw [hm] at h
    exact keepsDue_keeps h
  | dispatch =>
    intro message ha
    have h : s.activeRequest.all (s.orderlyDispatch M) := h
    rw [ha] at h
    exact s.lawfulDispatch_of_orderly h
  | proceed i => exact fun _ _ _ _ _ _ => trivial

theorem Session.alive_of_enabled (h : s.enabled input) : s.alive := by
  cases input <;> simp_all [enabled]

theorem run_counted {inputs : List (Environment × Input μ ε D)}
    (h : EachStep (step M P) (fun s input => s.enabled input.2 = true ∧ s.orderly M input.2) {} inputs) :
    (run (step M P) {} inputs).1.Counted 0 := by
  have hg := run_invariant (fun s : Session κ σ μ ε D => s.Goes (Terms.order M)) _ (fun s input hs hk => ?_) {} inputs
    (Or.inl (accounted_new (Terms.order M))) h
  · rcases hg with hn | ⟨-, -, hc⟩
    · exact hn.sound.counted
    · exact hc
  · obtain ⟨he, ho⟩ := hk
    rcases hs with hn | ⟨-, hl, -⟩
    · exact step_goes hn he (lawful_of_orderly ho)
    · have ha := alive_of_enabled he
      simp [alive, hl] at ha

/-- **The subrequest accounting of a session.** In every run, whatever the order of completions, the count of
subrequests is the number of those outstanding, and the log tells an account: one answer is sent for each offer, when
all its subrequests are completed, and the termination goes through the deactivation, the release of all that is held
and one response, in this order. Nothing is outstanding just when neither is in progress. -/
theorem session_accounted {inputs : List (Environment × Input μ ε D)}
    (h : EachStep (Session.step M P) (fun s input => s.enabled input.2 = true ∧ s.orderly M input.2) {} inputs) :
    let s := (run (Session.step M P) {} inputs).1
    s.subrequestCount = s.outstanding.length ∧ ∃ a, Account.after s.log = some a ∧ a.outstanding = s.outstanding ∧
      (a.outstanding = [] ↔ a.phase = .idle ∨ a.phase = .ended) ∧ Tally s.log a.phase := by
  obtain ⟨phase, hbooks, -, hidle⟩ := run_counted h
  refine ⟨hbooks.count, _, hbooks.told, rfl, ?_, Account.tally hbooks.told⟩
  rw [← length_eq_zero_iff, ← hidle, hbooks.count]
  simp

end Runs

def recorderProfile : Profile Unit where
  mrcpVersion := .v2
  resourceFind name := name == [82]
  engineFind name := if name = [82] then some (some ()) else none
  codecList := []

def recorderEnvironment : Environment where
  uniqueIdGenerate := [49]
  engineChannelCreate _ := some (some ⟨some { send := true }⟩)
  channelOpen _ := true
  channelClose _ := true

def recorderOffer : SessionDescriptor where
  controlMediaArr := [some { resourceName := [82], port := 9 }]
  audioMediaArr := [some { port := 4000 }]

/-- The offer is answered, a RECORD request is processed, and the session terminates while it is in progress. -/
def recorderCall : List (Environment × Input RecorderMethod RecorderEvent Unit) :=
  [.signaling (.offer recorderOffer),
    .completed (.controlAdd 0) { answer := some { resourceName := [82], port := 1544 } },
    .completed .applyTopology {}, .completed (.terminationAdd (.rtp 0)) {}, .completed .resetAssociations {},
    .completed (.addAssociation (.rtp 0) (some (.engine 0))) {}, .completed (.terminationAdd (.engine 0)) {},
    .completed (.engineOpen 0) {},
    .signaling (.control (some 0) [82] (plainRequest 1 .record)),
    .engineResponse 0 (plainMessage 1 .record .inProgress 200),
    .signaling .terminate,
    .engineResponse 0 (plainMessage 2 .stop .complete 200),
    .completed (.terminationSubtract (.rtp 0)) {}, .completed (.engineClose 0) {}, .completed (.controlRemove 0) {},
    .completed (.terminationSubtract (.engine 0)) {}, .completed .resetAssociations {}].map
    (recorderEnvironment, ·)

def recorderSession : Session Unit (RecorderStateMachine Unit) RecorderMethod RecorderEvent Unit :=
  (run (Session.step (fun _ => recorderStateMachine plainHeaderOps) recorderProfile) {} recorderCall).1

/-- The accounting of this call. -/
theorem session_accounted_recorderCall :
    recorderSession.subrequestCount = recorderSession.outstanding.length ∧ ∃ a,
      Account.after recorderSession.log = some a ∧ a.outstanding = recorderSession.outstanding ∧
        (a.outstanding = [] ↔ a.phase = .idle ∨ a.phase = .ended) ∧ Tally recorderSession.log a.phase :=
  session_accounted (M := fun _ => recorderStateMachine plainHeaderOps) (P := recorderProfile) (by decide +kernel)

end UniMrcp.MrcpServer
