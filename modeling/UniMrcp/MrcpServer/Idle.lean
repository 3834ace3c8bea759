import UniMrcp.MrcpEngine.Resources
import UniMrcp.MrcpServer.Accounting

/-!
# Sessions that are not stuck

A session takes its next request when the one in progress is answered.
-/

namespace UniMrcp.MrcpServer

open Lib MrcpEngine List Session

variable {κ σ μ ε D : Type} [DecidableEq μ] {M : κ → StateMachine σ μ ε D} {c : κ → Conditions σ μ ε D}
  {s : Session κ σ μ ε D}

inductive Due.Owed : Due → Owes μ D → Prop
  | nothing : Owed .nothing .nothing
  | response (request : Message μ D) : Owed .response (.response request)
  | deactivation : Owed .deactivation .deactivation
  | ended : Owed .ended .nothing

def Due.serving : Due → Bool
  | .nothing | .response => true
  | _ => false

variable {due : Due}

theorem Due.Owed.step {owes owes' : Owes μ D} (h : due.Owed owes) {output : Output μ ε D}
    (ho : owesStep owes output = some owes') :
    ∃ due', due.step output = some due' ∧ due'.Owed owes' ∧ due'.serving = due.serving := by
  rcases owesStep_cases ho with ⟨rfl, hn, hf⟩ | ⟨request, message, rfl, rfl, -, rfl⟩ | ⟨rfl, rfl, rfl⟩
  · refine ⟨due, due.step_quiet ?_, h, rfl⟩
    simp [isQuiet, hn, hf]
  · cases h
    exact ⟨.nothing, rfl, .nothing, rfl⟩
  · cases h
    exact ⟨.ended, rfl, .ended, rfl⟩

theorem Due.Owed.after {owes owes' : Owes μ D} (h : due.Owed owes) {out : List (Output μ ε D)}
    (ho : owesAfter owes out = some owes') :
    ∃ due', due.after out = some due' ∧ due'.Owed owes' ∧ due'.serving = due.serving := by
  induction out generalizing due owes with
  | nil =>
    obtain rfl : owes = owes' := by simpa [owesAfter] using ho
    exact ⟨due, rfl, h, rfl⟩
  | cons output out ih =>
    obtain ⟨next, hn, hr⟩ := Option.bind_eq_some_iff.1 (by simpa [owesAfter, foldlM_cons] using ho)
    obtain ⟨due₁, ht, hw, hs⟩ := h.step hn
    obtain ⟨due', ha, hw', hs'⟩ := ih hw hr
    refine ⟨due', ?_, hw', hs'.trans hs⟩
    simpa [Due.after, foldlM_cons, ht] using ha

def Terms.contracts (C : ∀ k, Contract (M k) (c k)) : Terms M where
  good k machine pending due awaited := ∃ owes, due.Owed owes ∧ (C k).good machine pending owes awaited ∧
    (due.serving → (M k).active machine)
  lossy := False
  create k := ⟨.nothing, .nothing, (C k).create.1, fun _ => (C k).create.2⟩

variable {C : ∀ k, Contract (M k) (c k)}

variable {owes : Owes μ D}

theorem Keeps.terms {k : κ} {machine : σ} {pending waiting : Option (Message μ D)} {awaited : List (Message μ D)}
    {r : Handled σ μ ε D} (hd : due.Owed owes) (hc : due.serving → (M k).active machine)
    (hp : waiting = pending.or r.pending) (h : Keeps (M k) (C k).good machine waiting owes awaited r) :
    (Terms.contracts C).Keeps k pending due awaited (some r) := by
  obtain ⟨owes', ho, hg, ha⟩ := h
  obtain ⟨due', hf, hw, hs⟩ := hd.after ho
  refine ⟨due', hf, owes', hw, hp ▸ hg, fun ht => ?_⟩
  exact ha.trans (hc (hs ▸ ht))

/-! ## Requests that are served -/

/-- A control request is for a channel with a state machine and an engine, and meets the conditions of the machine. -/
def Session.servesDispatch (c : κ → Conditions σ μ ε D) (s : Session κ σ μ ε D) : SignalingMessage μ D → Bool
  | .control channel resourceName message => ((s.target channel resourceName).bind (s.channels[·]?)).any fun channel =>
      channel.engineChannel.isSome && channel.stateMachine.any fun m =>
        message.methodId.isSome && (c m.kind).request m.machine m.pending message
  | _ => true

/-- What is dispatched in a step is served, and what the engines tell meets the conditions of the machines. -/
def Session.serves (c : κ → Conditions σ μ ε D) (s : Session κ σ μ ε D) : Input μ ε D → Bool
  | .signaling message => s.activeRequest.isSome || s.servesDispatch c message
  | .dispatch => s.activeRequest.all (s.servesDispatch c)
  | .engineResponse i message => (s.machine i).all fun m => (c m.kind).response m.machine message
  | .engineEvent i message => (s.machine i).all fun m => (c m.kind).event m.machine (s.due i == .response) message
  | _ => true

omit [DecidableEq μ] in
theorem Session.pending_of_settled (h : s.settled) {i : Nat} {m : ChannelMachine κ σ μ D}
    (hm : s.machine i = some m) : m.pending = none := by
  obtain ⟨-, ha⟩ := Bool.and_eq_true_iff.1 h
  obtain ⟨channel, hc, hmc⟩ := Option.bind_eq_some_iff.1 hm
  have hn := all_eq_true.1 ha channel (mem_of_getElem? hc)
  rw [hmc] at hn
  simpa using hn

theorem Session.lawfulDispatch_of_serves
    (hqt : ∀ k machine r, (M k).deactivate machine = some r →
      ∀ output ∈ r.out, output.response? = none ∧ output.isDeactivated = false)
    {message : SignalingMessage μ D} (h : s.servesDispatch c message) :
    s.LawfulDispatch (Terms.contracts C) message := by
  cases message with
  | offer descriptor => exact trivial
  | control channel resourceName message =>
    have h : ((s.target channel resourceName).bind (s.channels[·]?)).any (fun channel =>
        channel.engineChannel.isSome && channel.stateMachine.any fun m =>
          message.methodId.isSome && (c m.kind).request m.machine m.pending message) = true := h
    obtain ⟨found, hf, h⟩ := (Option.any_eq_true _ _).1 h
    obtain ⟨i, ht, hc⟩ := Option.bind_eq_some_iff.1 hf
    obtain ⟨he, han⟩ := Bool.and_eq_true_iff.1 h
    obtain ⟨m, hm, hmt⟩ := (Option.any_eq_true _ _).1 han
    obtain ⟨hme, hq⟩ := Bool.and_eq_true_iff.1 hmt
    refine ⟨Or.inr ⟨i, found.staff, ht, ?_, ?_, he⟩, fun j m' awaited hj hm' hg => ?_⟩
    · rw [staff, List.getElem?_map, hc]
      rfl
    · rw [show found.staff.machine = some m from hm]
      rfl
    · obtain rfl : i = j := Option.some.inj (ht.symm.trans hj)
      have hmc : s.machine i = some m := by rw [Session.machine, hc, Option.bind_some, hm]
      obtain rfl : m = m' := Option.some.inj (hmc.symm.trans hm')
      obtain ⟨owes, ho, hg, hac⟩ := hg
      cases ho
      obtain ⟨r, hr, hn, hp⟩ := (C m.kind).request hg (hac rfl) hme hq
      rw [hr]
      exact Keeps.terms (.response message) hac (by simp [hn]) hp
  | terminate =>
    intro i m awaited hm hg
    obtain ⟨owes, ho, hg, -⟩ := hg
    cases ho
    obtain ⟨r, hr, hn, owes', hot, hke⟩ := (C m.kind).deactivate hg
    have ha : ∀ output ∈ r.out, isQuiet output := by
      intro output hmm
      obtain ⟨hs, hd⟩ := hqt _ _ r hr output hmm
      simp [isQuiet, hs, hd]
    -- what is owed is that it is deactivated, if it has to tell
    have ho : Due.Owed (if r.status then .deactivation else .ended)
        (if r.status then .deactivation else .nothing : Owes μ D) := by
      split_ifs
      · exact .deactivation
      · exact .ended
    obtain ⟨due', haf, ho', hsr⟩ := ho.after hot
    obtain rfl := Option.some.inj ((Due.after_quiet _ ha).symm.trans haf)
    refine ⟨r, hr, ha, owes', ho', by simpa [hn] using hke, fun hk => ?_⟩
    split_ifs at hk <;> cases hk

theorem Session.lawful_of_serves
    (hq : ∀ k machine r, (M k).deactivate machine = some r →
      ∀ output ∈ r.out, output.response? = none ∧ output.isDeactivated = false)
    {input : Input μ ε D} (he : s.enabled input) (h : s.serves c input) :
    s.Lawful (Terms.contracts C) input := by
  cases input with
  | signaling message =>
    intro hn
    have h : (s.activeRequest.isSome || s.servesDispatch c message) := h
    rw [hn] at h
    exact lawfulDispatch_of_serves hq h
  | dispatch =>
    intro message hc
    have h : s.activeRequest.all (s.servesDispatch c) := h
    rw [hc] at h
    exact lawfulDispatch_of_serves hq h
  | completed subrequest result => exact trivial
  | engineResponse i message =>
    intro m hm hg
    have h : (s.machine i).all (fun m => (c m.kind).response m.machine message) := h
    rw [hm] at h
    obtain ⟨⟨-, hs⟩, ha⟩ := by
      simpa only [enabled, Bool.and_eq_true] using he
    have hp := pending_of_settled hs hm
    obtain ⟨channel, hh, ha⟩ := (Option.any_eq_true _ _).1 ha
    obtain ⟨-, ha⟩ := Bool.and_eq_true_iff.1 ha
    have hmc : channel.stateMachine = some m := by
      rw [Session.machine, hh] at hm
      exact hm
    rw [hmc] at ha
    obtain ⟨owes, ho, hg, hc⟩ := hg
    rw [hp] at hg
    cases hf : m.awaited.find? fun request => Answers message request with
    | none => exact absurd ha (by simpa using hf)
    | some request =>
      obtain ⟨r, hr, hk⟩ := (C m.kind).response hg h hf
      rw [hr]
      exact Keeps.terms ho hc (by simp [hp]) hk
  | engineEvent i message =>
    intro m hm hg
    have h : (s.machine i).all (fun m => (c m.kind).event m.machine (s.due i == .response) message) := h
    rw [hm] at h
    obtain ⟨⟨-, hs⟩, -⟩ := by
      simpa only [enabled, Bool.and_eq_true] using he
    have hp := pending_of_settled hs hm
    obtain ⟨owes, ho, hg, hc⟩ := hg
    rw [hp] at hg
    have hw : (s.due i == .response) = owes.request.isSome := by
      generalize s.due i = due at ho
      cases ho <;> rfl
    obtain ⟨r, hr, hn, hk⟩ := (C m.kind).event hg (hw ▸ h)
    rw [hr]
    exact Keeps.terms ho hc (by simp [hp, hn]) hk
  | proceed i =>
    intro m message awaited hm hp hg
    obtain ⟨owes, ho, hg, hc⟩ := hg
    rw [hp] at hg
    obtain ⟨hke, ht⟩ := (C m.kind).proceed hg
    exact ⟨owes, ho, hke, fun htk => ht.trans (hc htk)⟩

/-- **A session is not stuck**: when no subrequest is outstanding and no response of an engine is awaited, it has no
request left. -/
structure Session.NotStuck (s : Session κ σ μ ε D) : Prop where
  notNull : s.nullRead = false
  idle : s.removed = false → s.settled → s.outstanding = [] →
    (∀ i m, s.machine i = some m → m.awaited = []) → s.activeRequest = none ∧ s.requestQueue = []

theorem Accounted.notStuck (h : Accounted (Terms.contracts C) 0 [] 0 s) : s.NotStuck := by
  refine ⟨h.sound.nullRead, fun hr hse hot hw => ?_⟩
  have hd : s.dispatching = false := by
    obtain ⟨hnt, -⟩ := Bool.and_eq_true_iff.1 hse
    simpa using hnt
  obtain ⟨phase, hb, hst, hi⟩ := h.sound.counted
  have hz : s.subrequestCount = 0 := by
    have hc := hb.count
    rw [hot] at hc
    exact hc
  suffices hn : s.activeRequest = none by
    refine ⟨hn, ?_⟩
    cases hst with
    | idle _ _ _ _ hq => exact hq hn
    | ended ht => exact absurd ht (by simp [core, hr])
    | _ => rcases hi.1 hz with hp | hp <;> cases hp
  cases ha : s.activeRequest with
  | none => rfl
  | some request =>
    cases hst with
    | idle _ hsta _ hct _ =>
      have hct := hct hd request ha
      cases request with
      | control channel resourceName message =>
        -- the response is due from a machine that waits for nothing
        obtain ⟨i, x, hcn, hx, hmc, he⟩ :=
          (h.sound.served.resolve_left id) channel resourceName message hd ha
        obtain ⟨m, hm⟩ := Option.isSome_iff_exists.1 hmc
        have hdu : s.due i = .response := by
          have hsta : s.state.terminates = false := hsta
          unfold Session.due
          rw [hcn]
          cases hs : s.state <;> simp_all [SessionState.terminates]
        obtain ⟨awaited, due', hf, ⟨owes, ho, hg, -⟩, hl⟩ := (h.staffed.of_nil i).serves i x hx m hm
        rw [if_pos rfl] at hf hg
        obtain rfl := Option.some.inj hf
        have hem : m.awaited = [] := hw i m (by rw [machine_eq, hx]; exact hm)
        rw [← hl he, hem] at hg
        rw [(C m.kind).awaits hg, hdu] at ho
        cases ho
      | _ => cases hct
    | ended ht => exact absurd ht (by simp [core, hr])
    | _ => rcases hi.1 hz with hp | hp <;> cases hp

/-! ## The sessions of the server -/

abbrev ResourceSession (D : Type) : Type :=
  Session ResourceKind (Sigma (ResourceKind.Machine D)) (Sigma ResourceKind.Method) (Sigma ResourceKind.Event) D

/-- **A session of the server is not stuck** after any run in which each control request that is dispatched is for a
channel with a state machine and an engine, and the machines keep to their contracts. -/
theorem session_notStuck (ops : ResourceKind → HeaderOps D) (P : Profile ResourceKind)
    {inputs : List (Environment × Input (Sigma ResourceKind.Method) (Sigma ResourceKind.Event) D)}
    (h : EachStep (Session.step (sessionStateMachine ops) P)
      (fun s input => s.enabled input.2 = true ∧ s.serves sessionConditions input.2) {} inputs) :
    (run (Session.step (sessionStateMachine ops) P) {} inputs).1.NotStuck := by
  have hgoes := run_invariant (fun s : ResourceSession D => Accounted (Terms.contracts (sessionContract ops)) 0 [] 0 s)
    _ (fun s input hs hok => ?_) {} inputs (accounted_new _) h
  · exact hgoes.notStuck
  · obtain ⟨hen, hserves⟩ := hok
    have hlawful := Session.lawful_of_serves (C := sessionContract ops)
      (fun k _ _ hr => session_deactivate_quiet ops k hr) hen hserves
    rcases step_goes hs hen hlawful with hsound | ⟨hlossy, -⟩
    · exact hsound
    · exact hlossy.elim

def resourceProfile : Profile ResourceKind where
  mrcpVersion := .v2
  resourceFind name := name == [82]
  engineFind name := if name = [82] then some (some .recorder) else none
  codecList := []

def recordRequest : Message (Sigma ResourceKind.Method) Unit := plainRequest 1 ⟨.recorder, RecorderMethod.record⟩

def answeredOffer : List (Input (Sigma ResourceKind.Method) (Sigma ResourceKind.Event) Unit) :=
  [.signaling (.offer recorderOffer),
    .completed (.controlAdd 0) { answer := some { resourceName := [82], port := 1544 } },
    .completed .applyTopology {}, .completed (.terminationAdd (.rtp 0)) {}, .completed .resetAssociations {},
    .completed (.addAssociation (.rtp 0) (some (.engine 0))) {}, .completed (.terminationAdd (.engine 0)) {},
    .completed (.engineOpen 0) {}]

/-- The session is idle again when the RECORD request was responded to. -/
theorem session_notStuck_record :
    (run (Session.step (sessionStateMachine fun _ => plainHeaderOps) resourceProfile) {}
      ((answeredOffer ++ [Input.signaling (.control (some 0) [82] recordRequest),
        Input.engineResponse 0 (plainMessage 1 ⟨.recorder, RecorderMethod.record⟩ .inProgress 200)]).map
          (recorderEnvironment, ·))).1.NotStuck :=
  session_notStuck (fun _ => plainHeaderOps) resourceProfile (by decide +kernel)

def unknownChannel : List (Environment × Input (Sigma ResourceKind.Method) (Sigma ResourceKind.Event) Unit) :=
  (answeredOffer ++ [Input.signaling (.control none [83] recordRequest), Input.signaling .terminate]).map
    (recorderEnvironment, ·)

def unknownChannelSession : ResourceSession Unit :=
  (run (Session.step (sessionStateMachine fun _ => plainHeaderOps) resourceProfile) {} unknownChannel).1

/-- **The defect.** A control request for a resource without a channel is rejected, and stays active: the request to
terminate waits behind it, and nothing is outstanding. -/
theorem not_session_notStuck :
    ¬ ∀ inputs : List (Environment × Input (Sigma ResourceKind.Method) (Sigma ResourceKind.Event) Unit),
      EachStep (Session.step (sessionStateMachine fun _ => plainHeaderOps) resourceProfile)
        (fun s input => s.enabled input.2 = true) {} inputs →
      (run (Session.step (sessionStateMachine fun _ => plainHeaderOps) resourceProfile) {} inputs).1.NotStuck := by
  intro h
  have hstuck : unknownChannelSession.NotStuck := h unknownChannel (by decide +kernel)
  have hall : unknownChannelSession.channels.all (fun channel => channel.stateMachine.all (·.awaited.isEmpty)) := by
    decide +kernel
  obtain ⟨hnone, -⟩ := hstuck.idle (by decide +kernel) (by decide +kernel) (by decide +kernel) fun i m hm => by
    obtain ⟨channel, hchan, hmachine⟩ := Option.bind_eq_some_iff.1 hm
    have hempty := all_eq_true.1 hall channel (mem_of_getElem? hchan)
    rw [hmachine] at hempty
    simpa using hempty
  have hsome : unknownChannelSession.activeRequest.isSome := by decide +kernel
  rw [hnone] at hsome
  cases hsome

end UniMrcp.MrcpServer
