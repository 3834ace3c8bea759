import UniMrcp.MrcpClient.MediaStatus
import UniMrcp.MrcpClient.Requests
import UniMrcp.MrcpServer.Accounting

/-!
# Failed media commands

The handlers of the server and of the client do not read the status code of a command.
-/

namespace UniMrcp.MrcpServer

open Lib Mpf MrcpEngine Session

/-! ## Commands -/

def Subrequest.mpfCommand : Subrequest → Option (MpfCommand Termination)
  | .terminationAdd termination => some (.addTermination termination)
  | .terminationModify termination => some (.modifyTermination termination)
  | .terminationSubtract termination => some (.subtractTermination termination)
  | .resetAssociations => some .resetAssociations
  | .addAssociation termination assocTermination => some (.addAssociation termination assocTermination)
  | .applyTopology => some .applyTopology
  | _ => none

def Subrequest.termination : Subrequest → Option Termination
  | .terminationAdd termination | .terminationModify termination | .terminationSubtract termination => some termination
  | _ => none

section Session

variable {κ σ μ ε D : Type}

def Event.mpfCommand : Event μ ε D → Option (MpfCommand Termination)
  | .start subrequest => subrequest.mpfCommand
  | _ => none

def Event.sent : Event μ ε D → Option SessionDescriptor
  | .answer descriptor => some descriptor
  | _ => none

def Session.mpfCommands (s : Session κ σ μ ε D) : List (MpfCommand Termination) := s.log.filterMap Event.mpfCommand

/-- The number of terminations of the media context of a session, given to `mpf_engine_context_create`. -/
def maxTerminationCount : Nat := 5

/-- A command is completed with the status code with which the media engine has answered it. -/
def Session.served (E : MediaEngine Termination) (s : Session κ σ μ ε D) : Input μ ε D → Bool
  | .completed subrequest result => subrequest.mpfCommand.all fun command =>
      (E.responses maxTerminationCount s.mpfCommands).contains ⟨command, mpfStatusCode result.status⟩
  | _ => true

/-- A session has added as many terminations as its media context has room for, or fewer. -/
def Session.fits (s : Session κ σ μ ε D) : Bool := s.mpfCommands.countP MpfCommand.isAdd ≤ maxTerminationCount

def Session.answering (s : Session κ σ μ ε D) : Bool := s.activeRequest.any fun
  | .offer _ => true
  | _ => false

/-- No termination is subtracted in vain while the session processes an offer. -/
def Session.releasesApart (s : Session κ σ μ ε D) : Input μ ε D → Bool
  | .completed (.terminationSubtract _) result => result.status || !s.answering
  | _ => true

/-- The media of a termination is rejected in an answer: there is none, or it has no port. -/
def Session.rejects (s : Session κ σ μ ε D) (answer : SessionDescriptor) : Termination → Bool
  | .rtp i => (s.terminations[i]?.bind fun slot => answer.audioMediaGet slot.id).all fun media =>
      !media.enabled || media.port == 0
  | .engine i => (s.channels[i]?.bind fun channel => answer.controlMediaGet channel.id).all fun control =>
      control.port == 0

variable (M : κ → StateMachine σ μ ε D) (P : Profile κ) [DecidableEq μ]

/-- After a command for a termination failed during an offer, the next answer is not one of success, or rejects its
media. -/
def FailuresAnswered (inputs : List (Environment × Input μ ε D)) : Prop :=
  ∀ before W subrequest result after, inputs = before ++ (W, .completed subrequest result) :: after →
    ∀ termination ∈ subrequest.termination, result.status = false →
      (run (Session.step M P) {} before).1.answering = true →
        ∀ answer ∈ ((run (Session.step M P) {} inputs).1.log.drop
          (run (Session.step M P) {} before).1.log.length).findSome? Event.sent,
          answer.status ≠ .ok ∨ (run (Session.step M P) {} before).1.rejects answer termination

variable {M} {P}

variable {s : Session κ σ μ ε D}

omit [DecidableEq μ] in
theorem not_subtract_of_answering (h : s.Counted 0) (hn : s.answering) (termination : Termination) :
    .terminationSubtract termination ∉ s.outstanding := by
  intro hm
  obtain ⟨phase, hb, hs, -⟩ := h
  have ht := hb.starts _ hm
  cases hs with
  | releasing _ ha =>
    have ha : s.activeRequest = some .terminate := ha
    rw [answering, ha] at hn
    cases hn
  | _ => cases ht

variable {inputs : List (Environment × Input μ ε D)}

theorem releasesApart_of_orderly
    (h : EachStep (step M P) (fun s input => s.enabled input.2 = true ∧ s.orderly M input.2) {} inputs) :
    EachStep (step M P) (fun s input => s.releasesApart input.2 = true) {} inputs := by
  induction inputs using List.reverseRecOn with
  | nil => trivial
  | append_singleton inputs input ih =>
    obtain ⟨hb, he, -⟩ := eachStep_at h
    refine (eachStep_append _ _ _ _).2 ⟨ih hb, ?_, trivial⟩
    have hc := run_counted hb
    generalize (run (step M P) {} inputs).1 = s at *
    obtain ⟨W, input⟩ := input
    change s.releasesApart input = true
    unfold releasesApart
    split
    · rename_i termination result
      have hm : s.outstanding.contains (.terminationSubtract termination) := by
        simp only [Session.enabled, Bool.and_eq_true] at he
        exact he.1.2
      by_contra hn
      have ha : s.answering = true := by simp at hn; exact hn.2
      exact not_subtract_of_answering hc ha termination (List.contains_iff_mem.1 hm)
    · rfl

omit [DecidableEq μ] in
theorem failure_of_served {E : MediaEngine Termination} {subrequest : Subrequest} {result : Result}
    (hs : s.served E (.completed subrequest result)) (ht : result.status = false)
    {command : MpfCommand Termination} (hc : subrequest.mpfCommand = some command) :
    ⟨command, .failure⟩ ∈ E.responses maxTerminationCount s.mpfCommands := by
  have hs : (subrequest.mpfCommand.all fun command =>
    (E.responses maxTerminationCount s.mpfCommands).contains ⟨command, mpfStatusCode result.status⟩) = true := hs
  rw [hc, ht] at hs
  simpa [mpfStatusCode] using hs

theorem failuresAnswered_of_fits (E : MediaEngine Termination)
    (h : EachStep (step M P) (fun s input => s.served E input.2 = true ∧ s.fits ∧
      s.releasesApart input.2) {} inputs) : FailuresAnswered M P inputs := by
  intro before W subrequest result after hi termination ht hs hn answer han
  subst hi
  obtain ⟨-, hr, hf, ha⟩ := eachStep_at h
  -- the context has room, and so only a subtraction can have failed
  have hb {command : MpfCommand Termination} (hc : subrequest.mpfCommand = some command) :
      command.isSubtract :=
    E.responses_failure (of_decide_eq_true hf) _ (failure_of_served hr hs hc) rfl
  cases subrequest with
  | terminationSubtract u =>
    have ha : (result.status || !(run (step M P) {} before).1.answering) := ha
    rw [hs, hn] at ha
    cases ha
  | terminationAdd u => cases hb rfl
  | terminationModify u => cases hb rfl
  | _ => cases ht

end Session

end UniMrcp.MrcpServer

namespace UniMrcp

open Lib Mpf

/-- **A failed media command does not yield a successful answer** in any run of a server or a client session with no
more terminations than its media context has room for. A server session must not subtract a termination in vain during
an offer, which it does not if its state machines are in order; a client session must not be released twice. -/
theorem mediaFailures_reported {κ σ μ ε D : Type} [DecidableEq μ] (M : κ → MrcpEngine.StateMachine σ μ ε D)
    (P : MrcpServer.Profile κ) (E : MediaEngine MrcpServer.Termination) (Q : MrcpClient.Profile)
    (F : MediaEngine MrcpClient.Termination) :
    (∀ inputs, EachStep (MrcpServer.Session.step M P) (fun s input => s.served E input.2 = true ∧ s.fits ∧
        s.releasesApart input.2) {} inputs → MrcpServer.FailuresAnswered M P inputs) ∧
    (∀ inputs, EachStep (MrcpServer.Session.step M P) (fun s input => s.enabled input.2 = true ∧
        s.orderly M input.2) {} inputs →
      EachStep (MrcpServer.Session.step M P) (fun s input => s.releasesApart input.2 = true) {} inputs) ∧
    ∀ inputs : List (MrcpClient.Environment × MrcpClient.Input), (∀ input ∈ inputs, input.1.takesMedia) →
      EachStep (MrcpClient.Session.step Q) (fun s input => s.served F input.2 = true ∧ s.fits ∧
        s.releasesAgain input.2 = false) {} inputs → MrcpClient.FailuresReported Q inputs :=
  ⟨fun _ h => MrcpServer.failuresAnswered_of_fits E h, fun _ h => MrcpServer.releasesApart_of_orderly h,
    fun _ hmedia h => MrcpClient.failuresReported_of_fits Q F hmedia h⟩

def callEngine (τ : Type) : MediaEngine τ where
  found := { bridge _ _ := true, rxValid _ := true, txValid _ := true, rxSize _ := 160, txSize _ := 160 }
  slot _ := 0
  audioStream _ := some .duplex

/-- A call with one channel. -/
theorem mediaFailures_reported_call :
    MrcpServer.FailuresAnswered (fun _ => MrcpEngine.recorderStateMachine MrcpEngine.plainHeaderOps)
        MrcpServer.recorderProfile MrcpServer.recorderCall ∧
      MrcpClient.FailuresReported MrcpClient.callProfile MrcpClient.callRequests := by
  obtain ⟨hserver, -, hclient⟩ := mediaFailures_reported
    (fun _ : Unit => MrcpEngine.recorderStateMachine MrcpEngine.plainHeaderOps) MrcpServer.recorderProfile
    (callEngine _) MrcpClient.callProfile (callEngine _)
  refine ⟨hserver _ (by decide +kernel), hclient _ ?_ (by decide +kernel)⟩
  intro input hinput subrequest _
  have henvironment : input.1 = MrcpClient.callEnvironment := by
    simp only [MrcpClient.callRequests, MrcpClient.callInputs, List.mem_append, List.mem_map] at hinput
    rcases hinput with ⟨_, -, rfl⟩ | ⟨_, -, rfl⟩ <;> rfl
  rw [henvironment]
  rfl

/-! ## One termination more -/

def crowdedOffer : MrcpServer.SessionDescriptor where
  controlMediaArr := [some { resourceName := [82], port := 9 }]
  audioMediaArr := List.replicate 5 (some { enabled := true, port := 4000 })

def audioAdded (i : Nat) (status : Bool) :
    MrcpServer.Input MrcpEngine.RecorderMethod MrcpEngine.RecorderEvent Unit :=
  .completed (.terminationAdd (.rtp i)) { localMedia := some { enabled := true, port := 5000 }, status }

/-- All that the offer starts is completed. There is no room for the termination of the last audio media. -/
def crowdedOfferInputs :
    List (MrcpServer.Environment × MrcpServer.Input MrcpEngine.RecorderMethod MrcpEngine.RecorderEvent Unit) :=
  [.signaling (.offer crowdedOffer), .completed .resetAssociations {},
    .completed (.controlAdd 0) { answer := some { resourceName := [82], port := 1544 } },
    .completed (.terminationAdd (.engine 0)) {}, audioAdded 0 true,
    .completed (.addAssociation (.rtp 0) (some (.engine 0))) {}, audioAdded 1 true, audioAdded 2 true,
    audioAdded 3 true, audioAdded 4 false, .completed .applyTopology {}, .completed (.engineOpen 0) {}].map
    (MrcpServer.recorderEnvironment, ·)

def crowdedAnswer (count : Nat) : MrcpClient.Answer where
  responseCode := 200
  descriptor :=
    { controlMediaArr := List.replicate count (some { resourceName := [83], sessionId := [49], port := 1544 })
      audioMediaArr := List.replicate count (some { enabled := true, port := 5000 }) }

def channelAnswered (i : Nat) : List MrcpClient.Input :=
  [.completed (.controlModify i) {}, .completed (.terminationModify i) {}, .completed (.addAssociation i) {}]

/-- A channel is added, behind some others. There may be no room for its RTP termination. -/
def channelAddInputs (i : Nat) (status : Bool) : List (MrcpClient.Environment × MrcpClient.Input) :=
  (([.request (.channelAdd i), .completed (.controlAdd i) {}, .completed (.terminationAdd (.channel i)) {},
    .completed (.terminationAdd (.rtp i)) { localMedia := some { enabled := true, port := 4000 }, status },
    .completed .offer { answer := some (crowdedAnswer (i + 1)) }, .completed .resetAssociations {}] :
      List MrcpClient.Input) ++ (List.range (i + 1)).flatMap channelAnswered ++
        [MrcpClient.Input.completed .applyTopology {}]).map (MrcpClient.callEnvironment, ·)

/-- Three channels, each with a termination of its own and an RTP termination. -/
def crowdedChannelInputs : List (MrcpClient.Environment × MrcpClient.Input) :=
  channelAddInputs 0 true ++ channelAddInputs 1 true ++ channelAddInputs 2 false

/-- The engine answers both last additions with a failure. The server accepts the last audio media, and the client
responds with success. -/
theorem not_mediaFailures_reported :
    (EachStep (MrcpServer.Session.step (fun _ => MrcpEngine.recorderStateMachine MrcpEngine.plainHeaderOps)
        MrcpServer.recorderProfile) (fun s input => (s.enabled input.2 ∧
          s.orderly (fun _ => MrcpEngine.recorderStateMachine MrcpEngine.plainHeaderOps) input.2 = true) ∧
          s.served (callEngine _) input.2) {} crowdedOfferInputs ∧
      ¬ MrcpServer.FailuresAnswered (fun _ => MrcpEngine.recorderStateMachine MrcpEngine.plainHeaderOps)
        MrcpServer.recorderProfile crowdedOfferInputs) ∧
    EachStep (MrcpClient.Session.step MrcpClient.callProfile) (fun s input => s.enabled input.2 = true ∧
        s.served (callEngine _) input.2) {} crowdedChannelInputs ∧
      ¬ MrcpClient.FailuresReported MrcpClient.callProfile crowdedChannelInputs := by
  refine ⟨⟨by decide +kernel, fun h => ?_⟩, by decide +kernel, fun h => ?_⟩
  · have hreported := h (crowdedOfferInputs.take 9) MrcpServer.recorderEnvironment (.terminationAdd (.rtp 4))
      { localMedia := some { enabled := true, port := 5000 }, status := false } (crowdedOfferInputs.drop 10) rfl
      (.rtp 4) rfl rfl (by decide +kernel)
    revert hreported
    decide +kernel
  · have hreported := h (channelAddInputs 0 true ++ channelAddInputs 1 true ++ (channelAddInputs 2 false).take 3)
      MrcpClient.callEnvironment (.terminationAdd (.rtp 2))
      { localMedia := some { enabled := true, port := 4000 }, status := false } ((channelAddInputs 2 false).drop 4) rfl
      rfl rfl .success (by decide +kernel)
    exact hreported rfl

end UniMrcp
