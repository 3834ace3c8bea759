import UniMrcp.MrcpServer.Session.Release

/-!
# What holds of a session at any time
-/

namespace UniMrcp.MrcpServer

open Apt MrcpEngine List Session

variable {κ σ μ ε D : Type}

inductive Due
  | nothing
  | response
  | deactivation
  /-- Nothing, and it gets no control requests any more. -/
  | ended
deriving DecidableEq

def Due.step : Due → Output μ ε D → Option Due
  | .response, .response _ => some .nothing
  | _, .response _ => none
  | .deactivation, .deactivated => some .ended
  | _, .deactivated => none
  | due, _ => some due

def Due.after (due : Due) (out : List (Output μ ε D)) : Option Due := out.foldlM Due.step due

@[simp] theorem Due.after_nil (due : Due) : due.after ([] : List (Output μ ε D)) = some due := rfl

variable {output : Output μ ε D} {out : List (Output μ ε D)}

theorem Due.after_cons {due due' : Due} (h : due.after (output :: out) = some due') :
    ∃ next, due.step output = some next ∧ next.after out = some due' :=
  Option.bind_eq_some_iff.1 (by simpa [Due.after, foldlM_cons] using h)

def isQuiet (output : Output μ ε D) : Bool := output.response?.isNone && !output.isDeactivated

theorem Due.step_quiet (due : Due) (h : isQuiet output) : due.step output = some due := by
  cases output with
  | response message => simp [isQuiet, Output.response?] at h
  | deactivated => simp [isQuiet, Output.isDeactivated] at h
  | _ => cases due <;> rfl

theorem Due.after_quiet (due : Due) (h : ∀ output ∈ out, isQuiet output) : due.after out = some due := by
  induction out with
  | nil => rfl
  | cons output out ih =>
    obtain ⟨hq, hr⟩ := forall_mem_cons.1 h
    have hs := due.step_quiet hq
    simpa [Due.after, foldlM_cons, hs] using ih hr

/-! ## What is due to a session -/

def Session.names (s : Session κ σ μ ε D) : List Bytes := s.channels.map Channel.resourceName

def Session.controlled (s : Session κ σ μ ε D) : Option Nat :=
  if s.dispatching then none
  else
    match s.activeRequest with
    | some (.control channel resourceName _) => s.target channel resourceName
    | _ => none

def Session.due (s : Session κ σ μ ε D) (i : Nat) : Due :=
  match s.state with
  | .deactivating => if Subrequest.deactivate i ∈ s.outstanding then .deactivation else .ended
  | .terminating => .ended
  | _ => if s.controlled = some i then .response else .nothing

variable {s t : Session κ σ μ ε D}

theorem Session.length_names (s : Session κ σ μ ε D) : s.names.length = s.staff.length := by
  simp [names, Session.staff]

theorem Session.channelFind_names (s : Session κ σ μ ε D) (resourceName : Bytes) :
    s.channelFind resourceName = s.names.findIdx? fun name => stringCompare name resourceName := by
  simp [channelFind, names, Function.comp_def]

theorem Session.controlled_congr (ha : t.activeRequest = s.activeRequest) (hd : t.dispatching = s.dispatching)
    (hn : t.names = s.names) : t.controlled = s.controlled := by
  unfold controlled target
  simp only [ha, hd, channelFind_names, hn]

theorem Session.due_congr (hc : t.core = s.core) (ho : t.outstanding = s.outstanding) (hn : t.names = s.names) :
    t.due = s.due := by
  have ha : t.activeRequest = s.activeRequest := congrArg Core.activeRequest hc
  have hd : t.dispatching = s.dispatching := congrArg Core.dispatching hc
  have hs : t.state = s.state := congrArg Core.state hc
  funext i
  unfold Session.due
  rw [hs, ho, controlled_congr ha hd hn]

theorem Session.names_of_staff (h : t.staff = s.staff) : t.names = s.names := by
  have hn : ∀ u : Session κ σ μ ε D, u.names = u.staff.map Staff.resourceName := by
    intro u
    simp [names, Session.staff, Channel.staff, Function.comp_def]
  rw [hn, hn, h]

theorem Session.machine_eq (s : Session κ σ μ ε D) (i : Nat) : s.machine i = s.staff[i]?.bind Staff.machine := by
  unfold Session.machine Session.staff
  rw [List.getElem?_map]
  cases s.channels[i]? <;> rfl

theorem Session.staff_modifyMachine (s : Session κ σ μ ε D) (i j : Nat)
    (f : ChannelMachine κ σ μ D → ChannelMachine κ σ μ D) : (s.modifyMachine i f).staff[j]? =
      if i = j then s.staff[j]?.map fun x => { x with machine := x.machine.map f } else s.staff[j]? := by
  unfold Session.staff modifyMachine
  rw [List.getElem?_map, List.getElem?_map, getElem?_modifyChannel]
  split_ifs
  · cases s.channels[j]? <;> rfl
  · rfl

@[simp] theorem Session.names_modifyMachine (s : Session κ σ μ ε D) (i : Nat)
    (f : ChannelMachine κ σ μ D → ChannelMachine κ σ μ D) : (s.modifyMachine i f).names = s.names := by
  refine ext_getElem? fun j => ?_
  unfold names modifyMachine
  rw [List.getElem?_map, List.getElem?_map, getElem?_modifyChannel]
  split_ifs
  · cases s.channels[j]? <;> rfl
  · rfl

variable (M : κ → StateMachine σ μ ε D)

structure Terms where
  /-- Of a machine, the request that it is about to process, what is due, and the requests that it sent to the engine
  and that were not responded to. -/
  good : κ → σ → Option (Message μ D) → Due → List (Message μ D) → Prop
  /-- A request can be lost: a handler reads through a null pointer, or there is no machine with an engine for it. -/
  lossy : Prop
  create : ∀ k, good k (M k).create none .nothing []

variable {M} (T : Terms M)

def Terms.Serves (due : Due) (rest : List (Output μ ε D)) (x : Staff κ σ μ D) : Prop :=
  ∀ m ∈ x.machine, ∃ awaited due', due.after rest = some due' ∧
    T.good m.kind m.machine m.pending due' (awaited ++ engineRequests rest) ∧
      (x.engine → m.awaited = awaited)

/-- **It holds of the machines of a session**, one of which puts out what is left, and all of it is due. -/
structure Staffed (i : Nat) (rest : List (Output μ ε D)) (due : Nat → Due) (staff : List (Staff κ σ μ D)) : Prop where
  left : ((due i).after rest).isSome
  serves : ∀ (j : Nat) (x : Staff κ σ μ D), staff[j]? = some x → T.Serves (due j) (if j = i then rest else []) x

variable {T} {i : Nat} {rest : List (Output μ ε D)} {due : Nat → Due} {staff : List (Staff κ σ μ D)}

theorem Staffed.of_nil (h : Staffed T i [] due staff) (j : Nat) : Staffed T j [] due staff := by
  refine ⟨rfl, fun n x hx => ?_⟩
  simpa using h.serves n x hx

theorem Staffed.append (h : Staffed T i [] due staff) {new : List (Staff κ σ μ D)}
    (hn : ∀ x ∈ new, Created M x.machine) (hd : ∀ j, due j = .nothing) : Staffed T i [] due (staff ++ new) := by
  refine ⟨rfl, fun j x hx => ?_⟩
  rcases Nat.lt_or_ge j staff.length with hlt | hge
  · exact h.serves j x ((List.getElem?_append_left hlt).symm.trans hx)
  · have ha : x ∈ new := mem_of_getElem? ((List.getElem?_append_right hge).symm.trans hx)
    intro m hm
    have hc := hn x ha m hm
    refine ⟨[], .nothing, by simp [hd j], ?_, ?_⟩
    · rw [hc]
      simpa using T.create m.kind
    · rw [hc]
      simp

variable {κ σ μ ε D : Type} {M : κ → StateMachine σ μ ε D}

/-! ## The invariant -/

def SessionState.terminates : SessionState → Bool
  | .deactivating | .terminating => true
  | _ => false

def SignalingMessage.isControl : SignalingMessage μ D → Bool
  | .control _ _ _ => true
  | _ => false

inductive Stage (c : Core μ D) : Phase → Prop
  | idle : c.removed = false → c.state.terminates = false →
      (c.dispatching → c.activeRequest.isSome) →
      (c.dispatching = false → ∀ request ∈ c.activeRequest, request.isControl) →
      (c.activeRequest = none → c.requestQueue = []) → Stage c .idle
  | answering {descriptor : SessionDescriptor} : c.removed = false → c.activeRequest = some (.offer descriptor) →
      c.dispatching = false → c.state = .generatingAnswer ∨ c.state = .initializing → c.offer →
      c.answer → Stage c .answering
  | deactivating : c.removed = false → c.activeRequest = some .terminate → c.dispatching = false →
      c.state = .deactivating → Stage c .deactivating
  | releasing : c.removed = false → c.activeRequest = some .terminate → c.dispatching = false →
      c.state = .terminating → Stage c .releasing
  | ended : c.removed → c.activeRequest = some .terminate → c.dispatching = false → Stage c .ended

def Session.Served (s : Session κ σ μ ε D) : Prop :=
  ∀ channel resourceName message, s.dispatching = false →
    s.activeRequest = some (.control channel resourceName message) →
    ∃ i x, s.controlled = some i ∧ s.staff[i]? = some x ∧ x.machine.isSome ∧ x.engine

/-- **The count of subrequests is right**, but for those of which the completion is being processed. -/
def Session.Counted (extra : Nat) (s : Session κ σ μ ε D) : Prop :=
  ∃ phase, Books phase extra s ∧ Stage s.core phase ∧ (s.subrequestCount = 0 ↔ phase = .idle ∨ phase = .ended)

variable (T : Terms M)

structure Sound (extra : Nat) (s : Session κ σ μ ε D) : Prop where
  counted : s.Counted extra
  answered : s.lastOffer.isSome → s.lastAnswer.isSome
  distinct : s.state = .deactivating → s.outstanding.Nodup
  released : s.state = .terminating → s.held = []
  nullRead : s.nullRead = false
  served : T.lossy ∨ s.Served

/-- **A session at any time**, one of whose machines puts out what is left. -/
structure Accounted (i : Nat) (rest : List (Output μ ε D)) (extra : Nat) (s : Session κ σ μ ε D) : Prop where
  sound : Sound T extra s
  staffed : Staffed T i rest s.due s.staff

variable {T} {P : Profile κ} {W : Environment} {i : Nat} {rest : List (Output μ ε D)} {extra : Nat}
  {s t : Session κ σ μ ε D}

theorem Sound.change (h : Sound T extra s) (hb : ∀ phase, Books phase extra s → Books phase extra t)
    (hc : t.core = s.core) (hd : t.ledger = s.ledger) (hr : s.Served → t.Served) : Sound T extra t := by
  obtain ⟨ho, hn, hl⟩ : t.outstanding = s.outstanding ∧ t.subrequestCount = s.subrequestCount ∧
      t.log = s.log := by simpa [Session.ledger] using hd
  have hs : t.state = s.state := congrArg Core.state hc
  have hh : t.held = s.held := by simp [Session.held, hl]
  obtain ⟨phase, hp, ht, hi⟩ := h.counted
  refine ⟨⟨phase, hb phase hp, hc ▸ ht, hn ▸ hi⟩, ?_, ?_, ?_, ?_, h.served.imp_right hr⟩
  · rw [show t.lastOffer = s.lastOffer from congrArg Core.lastOffer hc,
      show t.lastAnswer = s.lastAnswer from congrArg Core.lastAnswer hc]
    exact h.answered
  · rw [hs, ho]
    exact h.distinct
  · rw [hs, hh]
    exact h.released
  · exact (congrArg Core.nullRead hc).trans h.nullRead

theorem Session.Served.congr (h : s.Served) (hc : t.core = s.core) (hs : t.staff = s.staff) : t.Served := by
  have ha : t.activeRequest = s.activeRequest := congrArg Core.activeRequest hc
  have hd : t.dispatching = s.dispatching := congrArg Core.dispatching hc
  unfold Session.Served
  rw [hd, ha, controlled_congr ha hd (names_of_staff hs), hs]
  exact h

theorem Accounted.change (h : Accounted T i rest extra s) (hb : ∀ phase, Books phase extra s → Books phase extra t)
    (hc : t.core = s.core) (hs : t.staff = s.staff) (hl : t.ledger = s.ledger) :
    Accounted T i rest extra t := by
  refine ⟨h.sound.change hb hc hl fun hr => hr.congr hc hs, ?_⟩
  rw [due_congr hc (congrArg Prod.fst hl) (names_of_staff hs), hs]
  exact h.staffed

theorem Session.due_nothing (ht : s.state.terminates = false) (hc : s.controlled = none) :
    s.due = fun _ => .nothing := by
  funext i
  unfold Session.due
  rw [hc]
  cases hs : s.state with
  | deactivating => simp [hs, SessionState.terminates] at ht
  | terminating => simp [hs, SessionState.terminates] at ht
  | _ => rfl

theorem Staffed.terminated (h : Staffed T i rest s.due s.staff) : Staffed T i rest s.due s.terminateSend.staff := by
  refine ⟨h.left, fun j x hx => ?_⟩
  have hx : ((s.channels.map ({ · with controlChannel := false, engineChannel := none })).map Channel.staff)[j]? =
      some x := hx
  rw [map_map, List.getElem?_map] at hx
  obtain ⟨channel, hc, rfl⟩ := Option.map_eq_some_iff.1 hx
  have ho : s.staff[j]? = some channel.staff := by
    unfold Session.staff
    rw [List.getElem?_map, hc]
    rfl
  intro m hm
  obtain ⟨awaited, due', ha, hg, -⟩ := h.serves j channel.staff ho m hm
  exact ⟨awaited, due', ha, hg, fun he => by simp [Channel.staff] at he⟩

/-! ## The end of a phase -/

theorem Session.requestPop_controlled (s : Session κ σ μ ε D) : s.requestPop.controlled = none := by
  unfold Session.controlled Session.requestPop
  cases s.requestQueue <;> rfl

theorem Session.requestPop_stage (hm : s.removed = false) (hs : s.state.terminates = false) :
    Stage s.requestPop.core .idle := by
  refine .idle hm hs (fun hd => hd) (fun hd request hr => ?_)
    fun hn => ?_
  · have hd : s.requestQueue.head?.isSome = false := hd
    have hr : s.requestQueue.head? = some request := hr
    simp [hr] at hd
  · have hn : s.requestQueue.head? = none := hn
    show s.requestQueue.tail = []
    rw [List.head?_eq_none_iff.1 hn]
    rfl

theorem Session.requestPop_served (s : Session κ σ μ ε D) : s.requestPop.Served := by
  intro channel resourceName message hd ha
  have hd : s.requestQueue.head?.isSome = false := hd
  have ha : s.requestQueue.head? = some (.control channel resourceName message) := ha
  simp [ha] at hd

theorem requestPop_accounted (h : Books .idle 0 s) (ho : s.outstanding = []) (hr : s.removed = false)
    (ht : s.state.terminates = false) (ha : s.lastOffer.isSome → s.lastAnswer.isSome)
    (hn : s.nullRead = false) (hf : Staffed T i rest (fun _ => .nothing) s.staff) :
    Accounted T i rest 0 s.requestPop := by
  refine ⟨⟨⟨.idle, h.same rfl rfl rfl, requestPop_stage hr ht, ?_⟩, ha, fun hs => ?_,
    fun hs => ?_, hn, Or.inr s.requestPop_served⟩, ?_⟩
  · have hc : s.requestPop.subrequestCount = s.outstanding.length := h.count
    simp [hc, ho]
  · have hs : s.state = .deactivating := hs
    simp [hs, SessionState.terminates] at ht
  · have hs : s.state = .terminating := hs
    simp [hs, SessionState.terminates] at ht
  · rw [due_nothing (s := s.requestPop) ht s.requestPop_controlled]
    exact hf

theorem answerSend_accounted (h : Books .answering 0 s) (ho : s.outstanding = []) (ha : s.answer.isSome)
    (hr : s.removed = false) (hs : s.state.terminates = false) (hn : s.nullRead = false)
    (ht : Staffed T i rest (fun _ => .nothing) s.staff) :
    Accounted T i rest 0 s.answerSend := by
  obtain ⟨answer, hm⟩ := Option.isSome_iff_exists.1 ha
  obtain ⟨hse, -⟩ := h.see .idle (.answer answer) (by simp [Account.step, ho]) (Or.inl ho)
  unfold Session.answerSend
  rw [hm]
  exact requestPop_accounted (hse.same rfl rfl rfl) ho hr hs (fun _ => rfl) hn ht

structure Done (T : Terms M) (i : Nat) (rest : List (Output μ ε D)) (phase : Phase) (s : Session κ σ μ ε D) :
    Prop where
  books : Books phase 0 s
  out : s.outstanding = []
  stage : Stage s.core phase
  answered : s.lastOffer.isSome → s.lastAnswer.isSome
  released : s.state = .terminating → s.held = []
  nullRead : s.nullRead = false
  staffed : Staffed T i rest s.due s.staff

theorem Kept.staff_eq (h : Kept M s t) (hln : t.channels.length = s.channels.length) : t.staff = s.staff := by
  obtain ⟨new, hn, -⟩ := h.staff
  have hl : new = [] := by
    have hlen := congrArg List.length hn
    simp only [Session.staff, length_map, length_append, hln] at hlen
    exact length_eq_zero_iff.1 (by omega)
  rw [hn, hl, append_nil]

theorem Session.due_answering {descriptor : SessionDescriptor} (ha : s.activeRequest = some (.offer descriptor))
    (hs : s.state.terminates = false) : s.due = fun _ => .nothing := by
  apply due_nothing hs
  unfold Session.controlled
  rw [ha]
  split_ifs <;> rfl

theorem Session.served_of_active {request : SignalingMessage μ D} (ha : s.activeRequest = some request)
    (hc : request.isControl = false) : s.Served := by
  intro channel resourceName message _ hs
  obtain rfl : request = .control channel resourceName message := Option.some.inj (ha.symm.trans hs)
  simp [SignalingMessage.isControl] at hc

theorem engineChannelsUpdate_accounted (h : Done T i rest .answering s) :
    Accounted T i rest 0 (s.engineChannelsUpdate P W) := by
  obtain ⟨hb, hot, hg, han, -, hl, ht⟩ := h
  cases hg with
  | @answering descriptor hr ha hd hs ho hn =>
    obtain ⟨t, ⟨⟨hb', hk⟩, hln⟩, heq⟩ := engineChannelsUpdate_going (M := M) (P := P) (W := W) hb hot ho
    have hc : t.core = { s.core with state := .initializing } := hk.core
    have hst : t.staff = s.staff := hk.staff_eq hln
    have hr' : t.removed = false := (congrArg Core.removed hc).trans hr
    have ha' : t.activeRequest = some (.offer descriptor) := (congrArg Core.activeRequest hc).trans ha
    have hs' : t.state = .initializing := congrArg Core.state hc
    have hl' : t.nullRead = s.nullRead := congrArg Core.nullRead hc
    have hn' : t.answer.isSome := (congrArg Core.answer hc).trans hn
    have htr : t.state.terminates = false := by rw [hs']; rfl
    have ht' : Staffed T i rest (fun _ => .nothing) t.staff := by
      have ha : s.activeRequest = some (.offer descriptor) := ha
      have htr : s.state.terminates = false := by
        rcases hs with hs | hs
        · rw [show s.state = .generatingAnswer from hs]; rfl
        · rw [show s.state = .initializing from hs]; rfl
      rw [hst, ← due_answering ha htr]
      exact ht
    rw [heq]
    split_ifs with hz
    · have hni : t.outstanding = [] := length_eq_zero_iff.1 (by have := hb'.count; omega)
      exact answerSend_accounted hb' hni hn' hr' htr (hl'.trans hl) ht'
    · refine ⟨⟨⟨.answering, hb', ?_, by simp [hz]⟩, ?_, ?_, ?_, hl'.trans hl, Or.inr ?_⟩, ?_⟩
      · rw [hc]
        exact .answering hr ha hd (Or.inr rfl) ho hn
      · rw [show t.lastOffer = s.lastOffer from congrArg Core.lastOffer hc,
          show t.lastAnswer = s.lastAnswer from congrArg Core.lastAnswer hc]
        exact han
      · simp [hs']
      · simp [hs']
      · exact served_of_active ha' rfl
      · rw [due_answering ha' htr]
        exact ht'

/-- **The response to the termination is sent.** -/
theorem terminateSend_accounted (h : Done T i rest .releasing s) : Accounted T i rest 0 s.terminateSend := by
  obtain ⟨hb, ho, hg, hn, hr, hl, hst⟩ := h
  cases hg with
  | releasing _ ha hds ht =>
    have hh : s.held = [] := hr ht
    obtain ⟨htl, hh'⟩ := held_see s .terminateResponse hb.told (b := ⟨.ended, s.outstanding, s.held⟩)
      (by simp [Account.step, ho, hh])
    have hh' : s.terminateSend.held = [] := hh'.trans hh
    have hf : s.terminateSend.flags = [] := by
      show s.outstanding.filterMap Subrequest.awaits = []
      simp [ho]
    have hc : s.terminateSend.subrequestCount = 0 := by
      have hc : s.terminateSend.subrequestCount = s.outstanding.length := hb.count
      simp [hc, ho]
    refine ⟨⟨⟨.ended, ⟨⟨hb.layout.slots, fun j channel hj => ?_⟩, hb.count, ?_, ?_, ?_, ?_, ?_⟩,
      .ended rfl ha hds, by simp [hc]⟩, hn, fun hs => ?_, fun _ => hh', hl,
      Or.inr (served_of_active (s := s.terminateSend) ha rfl)⟩, ?_⟩
    · have hj : (s.channels.map ({ · with controlChannel := false, engineChannel := none }))[j]? = some channel := hj
      rw [List.getElem?_map] at hj
      obtain ⟨channel', -, rfl⟩ := Option.map_eq_some_iff.1 hj
      exact Or.inl rfl
    · rw [hh', ← hh]
      exact htl
    · exact fun subrequest hm => absurd (ho ▸ hm) not_mem_nil
    · simp [hh']
    · simp [hf]
    · simp [hf]
    · have hs : s.state = .deactivating := hs
      simp [show s.state = .terminating from ht] at hs
    · have hd : s.terminateSend.due = s.due := by
        funext j
        unfold Session.due
        rw [show s.terminateSend.state = .terminating from ht, show s.state = .terminating from ht]
      rw [hd]
      exact hst.terminated

theorem terminateProcess_accounted (h : Done T i rest .deactivating s) : Accounted T i rest 0 (s.terminateProcess W) := by
  obtain ⟨hb, ho, hs, ha, -, hn, hst⟩ := h
  cases hs with
  | deactivating hr hac hds ht =>
    obtain ⟨t, ⟨hb', hk⟩, hln, hh, heq⟩ := terminateProcess_going (M := M) (W := W) hb ho
    have hc : t.core = { s.core with state := .terminating } := hk.core
    have hf : t.staff = s.staff := hk.staff_eq hln
    have hr' : t.removed = false := (congrArg Core.removed hc).trans hr
    have ht' : t.state = .terminating := congrArg Core.state hc
    have hn' : t.nullRead = s.nullRead := congrArg Core.nullRead hc
    have hs' : Stage t.core .releasing := by
      rw [hc]
      exact .releasing hr hac hds rfl
    have ha' : t.lastOffer.isSome → t.lastAnswer.isSome := by
      rw [show t.lastOffer = s.lastOffer from congrArg Core.lastOffer hc,
        show t.lastAnswer = s.lastAnswer from congrArg Core.lastAnswer hc]
      exact ha
    have hst' : Staffed T i rest t.due t.staff := by
      have hd : t.due = s.due := by
        funext j
        unfold Session.due
        rw [ht', show s.state = .deactivating from ht, ho]
        simp
      rw [hd, hf]
      exact hst
    rw [heq]
    split_ifs with hz
    · have hl : t.outstanding = [] := length_eq_zero_iff.1 (by have := hb'.count; omega)
      exact terminateSend_accounted
        ⟨hb', hl, hs', ha', fun _ => hh, hn'.trans hn, hst'⟩
    · refine ⟨⟨⟨.releasing, hb', hs', by simp [hz]⟩, ha', by simp [ht'], fun _ => hh,
        hn'.trans hn, Or.inr ?_⟩, hst'⟩
      exact served_of_active ((congrArg Core.activeRequest hc).trans hac) rfl

theorem Accounted.complete (h : Accounted T i rest 0 s) {subrequest : Subrequest} (hm : subrequest ∈ s.outstanding)
    {rest' : List (Output μ ε D)} (hst : Staffed T i rest' (s.complete subrequest).due s.staff) :
    Accounted T i rest' 1 (s.complete subrequest) := by
  obtain ⟨⟨⟨phase, hb, ht, hi⟩, ha, hd, hr, hn, hsr⟩, -⟩ := h
  obtain ⟨hb', hh, -⟩ := hb.complete hm
  refine ⟨⟨⟨phase, hb', ht, hi⟩, ha, fun hs => (hd hs).erase _, fun hs => ?_, hn, hsr⟩,
    hst⟩
  rw [hh]
  exact hr hs

theorem Accounted.subrequestRemove (h : Accounted T i rest 1 s) : Accounted T i rest 0 (s.subrequestRemove P W) := by
  obtain ⟨⟨⟨phase, hb, ht, hi⟩, ha, hds, hr, hn, hsr⟩, hf⟩ := h
  have hcn := hb.count
  have hp : s.subrequestCount ≠ 0 := by omega
  obtain ⟨u, hu⟩ : ∃ u, u = ({ s with subrequestCount := s.subrequestCount - 1 } : Session κ σ μ ε D) := ⟨_, rfl⟩
  have hb' : Books phase 0 u := by
    rw [hu]
    refine ⟨⟨hb.layout.slots, hb.layout.engines⟩, ?_, hb.told, hb.starts, hb.held, hb.nodup,
      hb.waits⟩
    show s.subrequestCount - 1 = s.outstanding.length + 0
    omega
  unfold Session.subrequestRemove
  rw [if_neg hp, ← hu]
  dsimp only
  split_ifs with hz
  · subst hu
    refine ⟨⟨⟨phase, hb', ht, ?_⟩, ha, hds, hr, hn, hsr⟩, hf⟩
    exact ⟨fun hz' => absurd hz' hz, fun hh => absurd (hi.2 hh) hp⟩
  · have ho : u.outstanding = [] := length_eq_zero_iff.1 (by have := hb'.count; omega)
    have hd : Done T i rest phase u := by
      subst hu
      exact ⟨hb', ho, ht, ha, hr, hn, hf⟩
    have ht' := hd.stage
    cases ht' with
    | idle => exact absurd (hi.2 (Or.inl rfl)) hp
    | ended => exact absurd (hi.2 (Or.inr rfl)) hp
    | answering hm hc hdi hs hof han =>
      rcases hs with hs | hs
      · rw [show u.state = .generatingAnswer from hs]
        exact engineChannelsUpdate_accounted hd
      · have hs : u.state = .initializing := hs
        rw [hs]
        have htr : u.state.terminates = false := by rw [hs]; rfl
        refine answerSend_accounted hb' ho han hm htr hd.nullRead ?_
        rw [← due_answering hc htr]
        exact hd.staffed
    | deactivating _ _ _ hs =>
      rw [show u.state = .deactivating from hs]
      exact terminateProcess_accounted hd
    | releasing _ _ _ hs =>
      rw [show u.state = .terminating from hs]
      exact terminateSend_accounted hd

end UniMrcp.MrcpServer
