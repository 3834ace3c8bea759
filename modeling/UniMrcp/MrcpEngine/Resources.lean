import Mathlib.Data.Sigma.Basic
import UniMrcp.MrcpEngine.Recog.Contract
import UniMrcp.MrcpEngine.Recorder.Contract
import UniMrcp.MrcpEngine.Synth.Contract
import UniMrcp.MrcpEngine.Verifier.Contract

/-!
# The state machines of all resources

The state machines are put together here: one gets a message of another resource as one with an unknown identifier.
-/

namespace UniMrcp.MrcpEngine

open List Message
open Option (some.inj map_eq_some_iff)

/-! ## One among others -/

section Inject

variable {κ : Type} [DecidableEq κ] {σ μ ε ν : κ → Type} {D : Type} {k : κ}

def pick (k : κ) (x : Sigma ν) : Option (ν k) := if h : x.1 = k then some (h ▸ x.2) else none

@[simp] theorem pick_mk (x : ν k) : pick k ⟨k, x⟩ = some x := by simp [pick]

theorem eq_of_pick {x : Sigma ν} {y : ν k} (h : pick k x = some y) : x = ⟨k, y⟩ := by
  obtain ⟨j, x⟩ := x
  by_cases hj : j = k
  · subst hj
    rw [pick_mk] at h
    rw [some.inj h]
  · simp [pick, hj] at h

def Message.inject (k : κ) (message : Message (ν k) D) : Message (Sigma ν) D :=
  ⟨message.requestId, message.methodId.map (Sigma.mk k), message.requestState, message.statusCode, message.header⟩

def Message.project (k : κ) (message : Message (Sigma ν) D) : Message (ν k) D :=
  ⟨message.requestId, message.methodId.bind (pick k), message.requestState, message.statusCode, message.header⟩

@[simp] theorem Message.project_inject (message : Message (ν k) D) : (message.inject k).project k = message := by
  obtain ⟨id, method, state, code, header⟩ := message
  cases method <;> simp [inject, project]

variable {message : Message (Sigma ν) D}

theorem Message.inject_project (h : (message.project k).methodId.isSome) :
    (message.project k).inject k = message := by
  obtain ⟨id, method, state, code, header⟩ := message
  cases method with
  | none => rfl
  | some method =>
    obtain ⟨m, hm⟩ := Option.isSome_iff_exists.1 (show (pick k method).isSome = true from h)
    obtain rfl := eq_of_pick hm
    simp [inject, project]

variable {request : Message (ν k) D}

theorem Message.inject_project_of_answers (h : Answers message (request.inject k)) :
    (message.project k).inject k = message := by
  obtain ⟨id, method, state, code, header⟩ := message
  obtain rfl : method = request.methodId.map (Sigma.mk k) := h.2
  cases hm : request.methodId <;> simp [inject, project]

omit [DecidableEq κ] in
@[simp] theorem answers_inject {response request : Message (ν k) D} :
    Answers (response.inject k) (request.inject k) ↔ Answers response request :=
  and_congr Iff.rfl (Option.map_injective sigma_mk_injective).eq_iff

def Output.inject (k : κ) : Output (μ k) (ε k) D → Output (Sigma μ) (Sigma ε) D
  | .request message => .request (message.inject k)
  | .response message => .response (message.inject k)
  | .event message => .event (message.inject k)
  | .deactivated => .deactivated
  | .queueUp message => .queueUp (message.inject k)
  | .removePending message => .removePending (message.inject k)
  | .processPending message => .processPending (message.inject k)

def Handled.inject (k : κ) (r : Handled (σ k) (μ k) (ε k) D) : Handled (Sigma σ) (Sigma μ) (Sigma ε) D :=
  ⟨⟨k, r.machine⟩, r.out.map (Output.inject k), r.pending.map (Message.inject k), r.status⟩

def Owes.inject (k : κ) : Owes (μ k) D → Owes (Sigma μ) D
  | .nothing => .nothing
  | .response request => .response (request.inject k)
  | .deactivation => .deactivation

variable {owes : Owes (μ k) D}

omit [DecidableEq κ] in
theorem Owes.eq_nothing (h : owes.inject k = .nothing) : owes = .nothing := by
  cases owes <;> simp_all [Owes.inject]

omit [DecidableEq κ] in
theorem engineRequests_inject (out : List (Output (μ k) (ε k) D)) :
    engineRequests (out.map (Output.inject k)) = (engineRequests out).map (inject k) := by
  unfold engineRequests
  rw [filterMap_map, map_filterMap]
  congr 1
  funext output
  cases output <;> rfl

variable [∀ k, DecidableEq (μ k)]

theorem owesStep_inject (owes : Owes (μ k) D) (output : Output (μ k) (ε k) D) :
    owesStep (owes.inject k) (output.inject k) = (owesStep owes output).map (Owes.inject k) := by
  cases output with
  | response message =>
    cases owes with
    | response request =>
      simp only [owesStep, Owes.inject, Output.inject, answers_inject]
      split_ifs <;> rfl
    | _ => rfl
  | _ => cases owes <;> rfl

theorem owesAfter_inject (owes : Owes (μ k) D) (out : List (Output (μ k) (ε k) D)) :
    owesAfter (owes.inject k) (out.map (Output.inject k)) = (owesAfter owes out).map (Owes.inject k) := by
  induction out generalizing owes with
  | nil => rfl
  | cons output out ih =>
    simp only [owesAfter, map_cons, foldlM_cons, owesStep_inject] at ih ⊢
    cases owesStep owes output with
    | none => rfl
    | some next => exact ih next

/-! ### Machines -/

def StateMachine.inject (M : StateMachine (σ k) (μ k) (ε k) D) : StateMachine (Sigma σ) (Sigma μ) (Sigma ε) D where
  create := ⟨k, M.create⟩
  active s := (pick k s).any M.active
  requestUpdate s message := (pick k s).elim (refuse s) fun machine =>
    (M.requestUpdate machine (message.project k)).map (Handled.inject k)
  responseUpdate s message := (pick k s).elim (refuse s) fun machine =>
    (M.responseUpdate machine (message.project k)).map (Handled.inject k)
  eventUpdate s message := (pick k s).elim (refuse s) fun machine =>
    (M.eventUpdate machine (message.project k)).map (Handled.inject k)
  deactivate s := (pick k s).elim (refuse s) fun machine => (M.deactivate machine).map (Handled.inject k)
  pendingProcess s message := (pick k s).elim s fun machine => ⟨k, M.pendingProcess machine (message.project k)⟩

/-- Conditions on what happens to such a machine; it is handed requests of its resource. -/
def Conditions.inject (c : Conditions (σ k) (μ k) (ε k) D) : Conditions (Sigma σ) (Sigma μ) (Sigma ε) D where
  request s pending message := (message.project k).methodId.isSome && (pick k s).any fun machine =>
    c.request machine (pending.map (Message.project k)) (message.project k)
  response s message := (pick k s).any fun machine => c.response machine (message.project k)
  event s waits message := (pick k s).any fun machine => c.event machine waits (message.project k)

def injectGood (good : σ k → Option (Message (μ k) D) → Owes (μ k) D → List (Message (μ k) D) → Prop) (s : Sigma σ)
    (pending : Option (Message (Sigma μ) D)) (owes : Owes (Sigma μ) D) (awaited : List (Message (Sigma μ) D)) : Prop :=
  ∃ machine p o a, s = ⟨k, machine⟩ ∧ pending = p.map (Message.inject k) ∧ owes = o.inject k ∧
    awaited = a.map (Message.inject k) ∧ good machine p o a

variable {M : StateMachine (σ k) (μ k) (ε k) D}

theorem Keeps.inject {good : σ k → Option (Message (μ k) D) → Owes (μ k) D → List (Message (μ k) D) → Prop}
    {machine : σ k} {pending : Option (Message (μ k) D)} {awaited : List (Message (μ k) D)}
    {r : Handled (σ k) (μ k) (ε k) D} (h : Keeps M good machine pending owes awaited r) :
    Keeps M.inject (injectGood good) ⟨k, machine⟩ (pending.map (inject k)) (owes.inject k)
      (awaited.map (inject k)) (r.inject k) := by
  obtain ⟨owes', ho, hg, ha⟩ := h
  refine ⟨owes'.inject k, ?_, ⟨r.machine, pending, owes', awaited ++ engineRequests r.out, rfl, rfl, rfl, ?_, hg⟩, ?_⟩
  · exact (owesAfter_inject owes r.out).trans (by rw [ho, Option.map_some])
  · rw [map_append, ← engineRequests_inject]
    rfl
  · simpa [StateMachine.inject, Handled.inject] using ha

/-- **What a machine does among others** is what it does. -/
def Contract.inject {M : StateMachine (σ k) (μ k) (ε k) D} {c : Conditions (σ k) (μ k) (ε k) D} (C : Contract M c) :
    Contract M.inject c.inject where
  good := injectGood C.good
  create := ⟨⟨M.create, none, .nothing, [], rfl, rfl, rfl, rfl, C.create.1⟩, by
    simpa [StateMachine.inject] using C.create.2⟩
  awaits := by
    rintro _ _ _ ⟨machine, p, o, a, rfl, rfl, rfl, ha, hgood⟩
    obtain rfl := map_eq_nil_iff.1 ha.symm
    rw [C.awaits hgood]
    rfl
  request := by
    rintro _ _ _ message ⟨machine, p, o, a, rfl, rfl, ho, rfl, hgood⟩ hact - hc
    obtain rfl := Owes.eq_nothing ho.symm
    have hact : M.active machine := by simpa [StateMachine.inject] using hact
    obtain ⟨hknown, hc⟩ : (message.project k).methodId.isSome ∧ c.request machine p (message.project k) := by
      simpa [Conditions.inject, Function.comp_def] using hc
    obtain ⟨r, hr, hpend, hkeeps⟩ := C.request hgood hact hknown hc
    refine ⟨r.inject k, ?_, ?_, ?_⟩
    · simp [StateMachine.inject, hr]
    · simp [Handled.inject, hpend]
    · rw [← Message.inject_project hknown]
      exact hkeeps.inject
  response := by
    rintro _ _ _ request message ⟨machine, p, o, a, rfl, hp, rfl, rfl, hgood⟩ hc hfind
    obtain rfl := Option.map_eq_none_iff.1 hp.symm
    have hc : c.response machine (message.project k) := by simpa [Conditions.inject] using hc
    obtain ⟨waiting, -, rfl⟩ := mem_map.1 (mem_of_find?_eq_some hfind)
    -- the response is one of the resource
    have hmsg := Message.inject_project_of_answers (by simpa using List.find?_some hfind)
    rw [← hmsg] at hfind ⊢
    generalize message.project k = response at *
    simp only [List.find?_map, Function.comp_def, answers_inject] at hfind
    obtain ⟨first, hfirst, -⟩ := Option.map_eq_some_iff.1 hfind
    obtain ⟨r, hr, hkeeps⟩ := C.response hgood hc hfirst
    refine ⟨r.inject k, by simp [StateMachine.inject, hr], ?_⟩
    have herase : (a.map (Message.inject k)).eraseP (fun request => Answers (response.inject k) request) =
        (a.eraseP fun request => Answers response request).map (Message.inject k) := by
      rw [eraseP_map]
      simp only [Function.comp_def, answers_inject]
    rw [herase]
    exact hkeeps.inject
  event := by
    rintro _ _ _ message ⟨machine, p, o, a, rfl, hp, rfl, rfl, hgood⟩ hc
    obtain rfl := Option.map_eq_none_iff.1 hp.symm
    have hwaits : (o.inject k).request.isSome = o.request.isSome := by cases o <;> rfl
    have hc : c.event machine o.request.isSome (message.project k) := by
      simpa [Conditions.inject, hwaits] using hc
    obtain ⟨r, hr, hnone, hkeeps⟩ := C.event hgood hc
    exact ⟨r.inject k, by simp [StateMachine.inject, hr], by simp [Handled.inject, hnone], hkeeps.inject⟩
  deactivate := by
    rintro _ _ _ ⟨machine, p, o, a, rfl, rfl, ho, rfl, hgood⟩
    obtain rfl := Owes.eq_nothing ho.symm
    obtain ⟨r, hr, hnone, owes', hout, hkept⟩ := C.deactivate hgood
    refine ⟨r.inject k, by simp [StateMachine.inject, hr], by simp [Handled.inject, hnone], owes'.inject k, ?_, ?_⟩
    · have howes : (if r.status then Owes.deactivation else Owes.nothing : Owes (Sigma μ) D) =
          (if r.status then Owes.deactivation else Owes.nothing : Owes (μ k) D).inject k := by split_ifs <;> rfl
      show owesAfter (if r.status then Owes.deactivation else Owes.nothing) (r.out.map (Output.inject k)) = _
      rw [howes, owesAfter_inject, hout]
      rfl
    · refine ⟨r.machine, p, owes', a ++ engineRequests r.out, rfl, rfl, rfl, ?_, hkept⟩
      rw [map_append, ← engineRequests_inject]
      rfl
  proceed := by
    rintro _ message _ _ ⟨machine, p, o, a, rfl, hp, rfl, rfl, hgood⟩
    obtain ⟨waiting, rfl, rfl⟩ := Option.map_eq_some_iff.1 hp.symm
    obtain ⟨hkept, hact⟩ := C.proceed hgood
    have hprocess : M.inject.pendingProcess ⟨k, machine⟩ (waiting.inject k) =
        (⟨k, M.pendingProcess machine waiting⟩ : Sigma σ) := by simp [StateMachine.inject]
    rw [hprocess]
    refine ⟨⟨M.pendingProcess machine waiting, none, o, a ++ [waiting], rfl, rfl, rfl, ?_, hkept⟩, ?_⟩
    · rw [map_append]
      rfl
    · simpa [StateMachine.inject] using hact

omit [∀ k, DecidableEq (μ k)] in
theorem quiet_inject
    (h : ∀ s r, M.deactivate s = some r → ∀ output ∈ r.out, output.response? = none ∧ output.isDeactivated = false)
    {s : Sigma σ} {r : Handled (Sigma σ) (Sigma μ) (Sigma ε) D} (hr : M.inject.deactivate s = some r) :
    ∀ output ∈ r.out, output.response? = none ∧ output.isDeactivated = false := by
  intro output hm
  have hr : (pick k s).elim (refuse s) (fun machine => (M.deactivate machine).map (Handled.inject k)) = some r := hr
  cases hp : pick k s with
  | none =>
    rw [hp] at hr
    obtain rfl := some.inj hr
    cases hm
  | some machine =>
    rw [hp] at hr
    obtain ⟨r', hr', rfl⟩ := map_eq_some_iff.1 hr
    obtain ⟨output', hm', rfl⟩ := mem_map.1 hm
    obtain ⟨hs, hd⟩ := h machine r' hr' output' hm'
    cases output' <;> simp_all [Output.inject, Output.response?, Output.isDeactivated]

end Inject

/-! ## The resources -/

/-- The resources of the server, each of which creates its state machine. -/
inductive ResourceKind
  | synth
  | recog
  | recorder
  | verifier
deriving DecidableEq

def ResourceKind.Machine (D : Type) : ResourceKind → Type
  | .synth => SynthStateMachine D
  | .recog => RecogStateMachine D
  | .recorder => RecorderStateMachine D
  | .verifier => VerifierStateMachine D

def ResourceKind.Method : ResourceKind → Type
  | .synth => SynthMethod
  | .recog => RecogMethod
  | .recorder => RecorderMethod
  | .verifier => VerifierMethod

def ResourceKind.Event : ResourceKind → Type
  | .synth => SynthEvent
  | .recog => RecogEvent
  | .recorder => RecorderEvent
  | .verifier => VerifierEvent

instance : ∀ k : ResourceKind, DecidableEq k.Method
  | .synth => inferInstanceAs (DecidableEq SynthMethod)
  | .recog => inferInstanceAs (DecidableEq RecogMethod)
  | .recorder => inferInstanceAs (DecidableEq RecorderMethod)
  | .verifier => inferInstanceAs (DecidableEq VerifierMethod)

variable {D : Type} (ops : ResourceKind → HeaderOps D)

def resourceStateMachine : ∀ k : ResourceKind, StateMachine (k.Machine D) k.Method k.Event D
  | .synth => synthStateMachine (ops .synth)
  | .recog => recogStateMachine (ops .recog)
  | .recorder => recorderStateMachine (ops .recorder)
  | .verifier => verifierStateMachine (ops .verifier)

def resourceConditions : ∀ k : ResourceKind, Conditions (k.Machine D) k.Method k.Event D
  | .synth => synthConditions
  | .recog => recogConditions
  | .recorder => Conditions.none
  | .verifier => Conditions.none

def resourceContract : ∀ k : ResourceKind, Contract (resourceStateMachine ops k) (resourceConditions k)
  | .synth => synthContract (ops .synth)
  | .recog => recogContract (ops .recog)
  | .recorder => recorderContract (ops .recorder)
  | .verifier => verifierContract (ops .verifier)

/-- The machine of a resource in a session, whose messages are of any resource. -/
def sessionStateMachine (k : ResourceKind) :
    StateMachine (Sigma (ResourceKind.Machine D)) (Sigma ResourceKind.Method) (Sigma ResourceKind.Event) D :=
  (resourceStateMachine ops k).inject

def sessionConditions (k : ResourceKind) :
    Conditions (Sigma (ResourceKind.Machine D)) (Sigma ResourceKind.Method) (Sigma ResourceKind.Event) D :=
  (resourceConditions k).inject

def sessionContract (k : ResourceKind) : Contract (sessionStateMachine ops k) (sessionConditions k) :=
  (resourceContract ops k).inject

theorem resource_deactivate_out (k : ResourceKind) (s : k.Machine D) (r : Handled (k.Machine D) k.Method k.Event D)
    (hr : (resourceStateMachine ops k).deactivate s = some r) : r.out = [] ∨ ∃ message, r.out = [.request message] := by
  cases k with
  | synth =>
    have hr : synthStateDeactivate s = some r := hr
    unfold synthStateDeactivate at hr
    dsimp only at hr
    split at hr
    · obtain rfl := some.inj hr
      exact Or.inl rfl
    · obtain rfl := some.inj hr
      exact Or.inr ⟨_, rfl⟩
  | recog =>
    have hr : recogStateDeactivate s = some r := hr
    unfold recogStateDeactivate at hr
    dsimp only at hr
    split at hr
    · split at hr
      · obtain rfl := some.inj hr
        exact Or.inl rfl
      · obtain rfl := some.inj hr
        exact Or.inr ⟨_, rfl⟩
    · obtain rfl := some.inj hr
      exact Or.inl rfl
  | recorder =>
    have hr : recorderStateDeactivate s = some r := hr
    unfold recorderStateDeactivate at hr
    dsimp only at hr
    split at hr
    · split at hr
      · obtain rfl := some.inj hr
        exact Or.inl rfl
      · obtain rfl := some.inj hr
        exact Or.inr ⟨_, rfl⟩
    · obtain rfl := some.inj hr
      exact Or.inl rfl
  | verifier =>
    have hr : verifierStateDeactivate s = some r := hr
    unfold verifierStateDeactivate at hr
    dsimp only at hr
    split at hr
    · split at hr
      · obtain rfl := some.inj hr
        exact Or.inl rfl
      · obtain rfl := some.inj hr
        exact Or.inr ⟨_, rfl⟩
    · obtain rfl := some.inj hr
      exact Or.inl rfl

theorem session_deactivate_quiet (k : ResourceKind) {s : Sigma (ResourceKind.Machine D)}
    {r : Handled (Sigma (ResourceKind.Machine D)) (Sigma ResourceKind.Method) (Sigma ResourceKind.Event) D}
    (hr : (sessionStateMachine ops k).deactivate s = some r) :
    ∀ output ∈ r.out, output.response? = none ∧ output.isDeactivated = false := by
  refine quiet_inject (fun s r hr output hm => ?_) hr
  rcases resource_deactivate_out ops k s r hr with ho | ⟨message, ho⟩
  · rw [ho] at hm
    cases hm
  · rw [ho] at hm
    rw [mem_singleton.1 hm]
    exact ⟨rfl, rfl⟩

end UniMrcp.MrcpEngine
