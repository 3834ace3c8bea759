import UniMrcp.MrcpServer.Session.Outputs

/-!
# The steps of a session
-/

namespace UniMrcp.MrcpServer

open Lib MrcpEngine List Session
open Option (some.inj bind_some bind_eq_some_iff any_eq_true)

variable {κ σ μ ε D : Type} {M : κ → StateMachine σ μ ε D}

section Lawful

variable (T : Terms M) (s : Session κ σ μ ε D)

/-- A control request is handed to a state machine, and the termination deactivates all. -/
def Session.LawfulDispatch : SignalingMessage μ D → Prop
  | .offer _ => True
  | .control channel resourceName message =>
    (T.lossy ∨ ∃ i x, s.target channel resourceName = some i ∧ s.staff[i]? = some x ∧ x.machine.isSome ∧
      x.engine) ∧
    ∀ i m awaited, s.target channel resourceName = some i → s.machine i = some m →
      T.good m.kind m.machine m.pending .nothing awaited →
      T.Keeps m.kind m.pending .response awaited ((M m.kind).requestUpdate m.machine message)
  | .terminate => ∀ i m awaited, s.machine i = some m → T.good m.kind m.machine m.pending .nothing awaited →
    ∃ r, (M m.kind).deactivate m.machine = some r ∧ (∀ output ∈ r.out, isQuiet output) ∧
      T.good m.kind r.machine (m.pending.or r.pending) (if r.status then .deactivation else .ended)
        (awaited ++ engineRequests r.out)

variable [DecidableEq μ]

def Session.Lawful : Input μ ε D → Prop
  | .signaling message => s.activeRequest = none → s.LawfulDispatch T message
  | .dispatch => ∀ message, s.activeRequest = some message → s.LawfulDispatch T message
  | .completed _ _ => True
  | .engineResponse i message => ∀ m, s.machine i = some m → T.good m.kind m.machine m.pending (s.due i) m.awaited →
    T.Keeps m.kind m.pending (s.due i) (m.awaited.eraseP fun request => Answers message request)
      ((M m.kind).responseUpdate m.machine message)
  | .engineEvent i message => ∀ m, s.machine i = some m → T.good m.kind m.machine m.pending (s.due i) m.awaited →
    T.Keeps m.kind m.pending (s.due i) m.awaited ((M m.kind).eventUpdate m.machine message)
  | .proceed i => ∀ m message awaited, s.machine i = some m → m.pending = some message →
    T.good m.kind m.machine m.pending (s.due i) awaited →
    T.good m.kind ((M m.kind).pendingProcess m.machine message) none (s.due i) (awaited ++ [message])

end Lawful

variable {T : Terms M} {P : Profile κ} {W : Environment} {i : Nat} {s t : Session κ σ μ ε D}

/-! ## Offers -/

structure Idle (T : Terms M) (message : SignalingMessage μ D) (s : Session κ σ μ ε D) : Prop where
  books : Books .idle 0 s
  out : s.outstanding = []
  removed : s.removed = false
  state : s.state.terminates = false
  active : s.activeRequest = some message
  dispatching : s.dispatching = false
  answered : s.lastOffer.isSome → s.lastAnswer.isSome
  nullRead : s.nullRead = false
  staffed : Staffed T 0 [] (fun _ => .nothing) s.staff

theorem contextCreate_same (W : Environment) (s : Session κ σ μ ε D) :
    (s.contextCreate W).ledger = s.ledger ∧ (s.contextCreate W).core = { s.core with context := true } ∧
      (s.contextCreate W).channels = s.channels ∧ (s.contextCreate W).terminations = s.terminations := by
  unfold Session.contextCreate
  by_cases hc : s.context
  · rw [if_pos hc]
    exact ⟨rfl, by simp [Session.core, hc], rfl, rfl⟩
  · rw [if_neg hc]
    exact ⟨rfl, rfl, rfl, rfl⟩

variable {descriptor : SessionDescriptor}

theorem offerCompared_accounted (h : Books .answering 0 s) (ho : s.outstanding = []) (hr : s.removed = false)
    (hs : s.state.terminates = false) (ha : s.activeRequest = some (.offer descriptor))
    (hd : s.dispatching = false) (hof : s.offer.isSome)
    (han : s.lastOffer.isSome → s.lastAnswer.isSome) (hl : s.nullRead = false)
    (hf : Staffed T 0 [] (fun _ => .nothing) s.staff) :
    Accounted T 0 [] 0 (if s.lastOffer.any (sessionOffersCompare descriptor) then { s with answer := s.lastAnswer }.answerSend
      else s.answerGenerate M P W descriptor) := by
  split_ifs with hm
  · have hso : s.lastAnswer.isSome := by
      apply han
      cases hls : s.lastOffer <;> simp [hls] at hm ⊢
    have hans : Books .answering 0 ({ s with answer := s.lastAnswer } : Session κ σ μ ε D) := h.same rfl rfl rfl
    exact answerSend_accounted hans ho hso hr hs hl hf
  · obtain ⟨⟨hb, hk⟩, hne⟩ := answerGenerate_going (M := M) (P := P) (W := W) h ho descriptor
    obtain ⟨hc, new, hn, hcr⟩ := hk
    obtain ⟨t, ht⟩ : ∃ t, t = s.answerGenerate M P W descriptor := ⟨_, rfl⟩
    rw [← ht] at hb hne hc hn ⊢
    have hc : t.core = { s.core with state := .generatingAnswer, answer := true } := hc
    have hs' : t.state = .generatingAnswer := congrArg Core.state hc
    have ha' : t.activeRequest = some (.offer descriptor) := (congrArg Core.activeRequest hc).trans ha
    have hcn : t.subrequestCount ≠ 0 := by
      have := length_pos_iff.2 hne
      have := hb.count
      omega
    refine ⟨⟨⟨.answering, hb, ?_, by simp [hcn]⟩, ?_, by simp [hs'], by simp [hs'], ?_, Or.inr ?_⟩, ?_⟩
    · rw [hc]
      exact .answering hr ha hd (Or.inl rfl) hof rfl
    · rw [show t.lastOffer = s.lastOffer from congrArg Core.lastOffer hc,
        show t.lastAnswer = s.lastAnswer from congrArg Core.lastAnswer hc]
      exact han
    · exact (congrArg Core.nullRead hc).trans hl
    · exact served_of_active ha' rfl
    · rw [due_answering ha' (by rw [hs']; rfl), hn]
      exact hf.append hcr fun _ => rfl

/-- **An offer is processed.** -/
theorem offerProcess_accounted (h : Idle T (.offer descriptor) s) :
    Accounted T 0 [] 0 ((s.see (.dispatch (.offer descriptor))).offerProcess M P W descriptor) := by
  obtain ⟨hb, ho, hr, ht, ha, hd, hn, hnl, hst⟩ := h
  obtain ⟨hse, -⟩ := hb.see .answering (.dispatch (.offer descriptor)) (by simp [Account.step]) (Or.inl ho)
  obtain ⟨hl, hc, hh, hs⟩ := contextCreate_same W (s.see (.dispatch (.offer descriptor)))
  obtain ⟨u, hu⟩ : ∃ u, u = (s.see (.dispatch (.offer descriptor))).contextCreate W := ⟨_, rfl⟩
  rw [← hu] at hl hc hh hs
  have hc : u.core = { s.core with context := true } := hc
  have hf : u.staff = s.staff := congrArg (List.map Channel.staff) hh
  have hb' : Books .answering 0 ({ u with offer := some descriptor } : Session κ σ μ ε D) :=
    hse.same hl hh hs
  unfold Session.offerProcess
  rw [← hu]
  refine offerCompared_accounted hb' ((congrArg Prod.fst hl).trans ho)
    ((congrArg Core.removed hc).trans hr) ?_ ((congrArg Core.activeRequest hc).trans ha)
    ((congrArg Core.dispatching hc).trans hd) rfl ?_ ((congrArg Core.nullRead hc).trans hnl) ?_
  · rw [show ({ u with offer := some descriptor } : Session κ σ μ ε D).state = s.state from congrArg Core.state hc]
    exact ht
  · show u.lastOffer.isSome = true → u.lastAnswer.isSome = true
    rw [show u.lastOffer = s.lastOffer from congrArg Core.lastOffer hc,
      show u.lastAnswer = s.lastAnswer from congrArg Core.lastAnswer hc]
    exact hn
  · show Staffed T 0 [] (fun _ => .nothing) u.staff
    rw [hf]
    exact hst

/-! ## Control requests -/

theorem onMessageReceive_goes {channel : Option Nat} {resourceName : Bytes} {message : Message μ D}
    (h : Idle T (.control channel resourceName message) s)
    (hl : s.LawfulDispatch T (.control channel resourceName message)) :
    ((s.see (.dispatch (.control channel resourceName message))).onMessageReceive M P W channel resourceName
      message).Goes T := by
  obtain ⟨hb, ho, hrm, hst, ha, hd, han, hnl, hf⟩ := h
  obtain ⟨hse, hk⟩ := hl
  obtain ⟨hsee, -⟩ := hb.see .idle (.dispatch (.control channel resourceName message)) (by simp [Account.step])
    (Or.inl ho)
  obtain ⟨u, hu⟩ : ∃ u, u = s.see (.dispatch (.control channel resourceName message)) := ⟨_, rfl⟩
  rw [← hu] at hsee ⊢
  have hcn : u.controlled = s.target channel resourceName := by
    have hd' : u.dispatching = false := by rw [hu]; exact hd
    have ha' : u.activeRequest = some (.control channel resourceName message) := by rw [hu]; exact ha
    unfold Session.controlled
    rw [hd', ha', hu]
    rfl
  have hdu : ∀ j, u.due j = if s.target channel resourceName = some j then .response else .nothing := by
    intro j
    unfold Session.due
    rw [hcn, show u.state = s.state by rw [hu]; rfl]
    cases hs : s.state with
    | deactivating => simp [hs, SessionState.terminates] at hst
    | terminating => simp [hs, SessionState.terminates] at hst
    | _ => rfl
  have hsta : u.staff = s.staff := by rw [hu]; rfl
  have hn : Sound T 0 u := by
    subst hu
    refine ⟨⟨.idle, hsee, .idle hrm hst ?_ ?_ ?_, ?_⟩, han, fun hs => ?_, fun hs => ?_, hnl, ?_⟩
    · exact fun htr => absurd (show s.dispatching = true from htr) (by simp [hd])
    · intro _ request hq
      obtain rfl : request = .control channel resourceName message := some.inj (hq.symm.trans ha)
      rfl
    · exact fun hnn => absurd (show s.activeRequest = none from hnn) (by simp [ha])
    · simp [hsee.count.trans (show s.outstanding.length + 0 = 0 by simp [ho])]
    · simp [show s.state = .deactivating from hs, SessionState.terminates] at hst
    · simp [show s.state = .terminating from hs, SessionState.terminates] at hst
    · refine hse.imp_right ?_
      rintro ⟨i, x, hr, hx, hc, he⟩ _ _ _ _ _
      exact ⟨i, x, hcn.trans hr, hx, hc, he⟩
  have hr : u.target channel resourceName = s.target channel resourceName := by rw [hu]; rfl
  have hc : ∀ i, u.machine i = s.machine i := by intro i; rw [hu]; rfl
  -- nothing is due from the other machines
  have hot : ∀ (j : Nat) (x : Staff κ σ μ D), s.target channel resourceName ≠ some j → u.staff[j]? = some x →
      T.Serves (u.due j) [] x := by
    intro j x hj hx
    rw [hdu j, if_neg hj]
    simpa using hf.serves j x (hsta ▸ hx)
  unfold Session.onMessageReceive Session.controlHandled
  rw [hr]
  cases ht : s.target channel resourceName with
  | none =>
    refine Or.inl ⟨hn, rfl, fun j x hx => ?_⟩
    simpa using hot j x (by simp [ht]) hx
  | some i =>
    rw [bind_some, hc]
    cases hm : s.machine i with
    | none =>
      have hls : Accounted T 0 [] 0 u := ⟨hn, rfl, fun j x hx => ?_⟩
      · exact Or.inl hls
      rw [ite_self]
      by_cases hj : i = j
      · subst hj
        rw [machine_eq, ← hsta, hx, bind_some] at hm
        intro m hm'
        simp [hm] at hm'
      · exact hot j x (by simpa [ht] using hj) hx
    | some m =>
      have hx : ∃ x, s.staff[i]? = some x ∧ x.machine = some m := by
        rw [machine_eq] at hm
        exact bind_eq_some_iff.1 hm
      obtain ⟨x, hx, hxm⟩ := hx
      have hsr := hf.serves i x hx
      rw [ite_self] at hsr
      obtain ⟨awaited, due', haf, hg, hw⟩ := hsr m hxm
      obtain rfl : due' = .nothing := (some.inj haf).symm
      have hg : T.good m.kind m.machine m.pending .nothing awaited := by simpa using hg
      have hrs : u.due i = .response := by rw [hdu i, if_pos ht]
      refine settle_goes hn (fun j y hj hy => hot j y (by simpa [ht] using Ne.symm hj) hy)
        ((hc i).trans hm) (fun y hy he => ?_) (hrs.symm ▸ hk i m awaited ht hm hg)
      obtain rfl : x = y := some.inj (hx.symm.trans (hsta ▸ hy))
      exact hw he

/-! ## Termination -/

theorem outputs_passes {out : List (Output μ ε D)} (h : ∀ output ∈ out, isQuiet output)
    (s : Session κ σ μ ε D) : Passes i out s (out.foldl (Session.onDispatch P W i) s) := by
  induction out generalizing s with
  | nil => exact Passes.refl i s
  | cons output out ih =>
    obtain ⟨hq, hr⟩ := forall_mem_cons.1 h
    exact (onDispatch_passes hq s).trans (ih hr _)

/-- **The machines of the channels below a position are told to deactivate.** -/
structure Deactivating (T : Terms M) (s : Session κ σ μ ε D) (i : Nat) (t : Session κ σ μ ε D) : Prop where
  books : Books .deactivating 0 t
  core : t.core = { s.core with state := .deactivating }
  outstanding : ∀ subrequest ∈ t.outstanding, ∃ j < i, subrequest = .deactivate j
  distinct : t.outstanding.Nodup
  length : t.staff.length = s.staff.length
  below : ∀ (j : Nat) (x : Staff κ σ μ D), j < i → t.staff[j]? = some x →
    T.Serves (if Subrequest.deactivate j ∈ t.outstanding then .deactivation else .ended) ([] : List (Output μ ε D)) x
  above : ∀ j, i ≤ j → t.staff[j]? = s.staff[j]?

/-- **A machine is told to deactivate.** -/
theorem machineDeactivate_deactivating (hw : s.LawfulDispatch T .terminate)
    (hst : Staffed T 0 [] (fun _ => .nothing) s.staff) (h : Deactivating T s i t) :
    Deactivating T s (i + 1) (t.machineDeactivate M P W i) := by
  obtain ⟨hk, hc, ho, hd, hl, hbl, hab⟩ := h
  have hf : Subrequest.deactivate i ∉ t.outstanding := by
    intro hmm
    obtain ⟨j, hj, heq⟩ := ho _ hmm
    obtain rfl : i = j := by simpa using heq
    omega
  have ho' : ∀ subrequest ∈ t.outstanding, ∃ j < i + 1, subrequest = .deactivate j := by
    intro subrequest hmm
    obtain ⟨j, hj, rfl⟩ := ho subrequest hmm
    exact ⟨j, by omega, rfl⟩
  unfold Session.machineDeactivate
  cases hm : t.machine i with
  | none =>
    refine ⟨hk, hc, ho', hd, hl, fun j x hj hx => ?_, fun j hj => hab j (by omega)⟩
    rcases Nat.lt_succ_iff_lt_or_eq.1 hj with hlt | rfl
    · exact hbl j x hlt hx
    · have hx : t.staff[j]? = some x := hx
      rw [machine_eq, hx, bind_some] at hm
      intro m hm'
      simp [hm] at hm'
  | some m =>
    obtain ⟨x, hx, hxm⟩ : ∃ x, s.staff[i]? = some x ∧ x.machine = some m := by
      rw [machine_eq, hab i (Nat.le_refl i)] at hm
      exact bind_eq_some_iff.1 hm
    have hsr := hst.serves i x hx
    rw [ite_self] at hsr
    obtain ⟨awaited, due', haf, hg, haw⟩ := hsr m hxm
    obtain rfl : due' = .nothing := (some.inj haf).symm
    have hsm : s.machine i = some m := by rw [machine_eq, hx]; exact hxm
    obtain ⟨r, hr, hq, hg'⟩ := hw i m awaited hsm (by simpa using hg)
    -- the handler is run
    obtain ⟨u, hu⟩ : ∃ u, u = t.settle P W i (some r) := ⟨_, rfl⟩
    have hp : Passes i r.out (t.modifyMachine i fun m =>
        { m with machine := r.machine, pending := m.pending.or r.pending })
        u := by
      rw [hu]
      exact outputs_passes hq _
    have hub : Books .deactivating 0 u := (hp.books _ _ (hk.modifyMachine i _)).1
    have huc : u.core = { s.core with state := .deactivating } := hp.core.trans hc
    have hut : u.outstanding = t.outstanding := hp.outstanding
    have hus : ∀ j, u.staff[j]? = if j = i then some (Staff.sent r.out { x with
        machine := some { m with machine := r.machine, pending := m.pending.or r.pending } }) else t.staff[j]? := by
      intro j
      rw [hp.staff j, staff_modifyMachine]
      split_ifs with hj hij hij
      · subst hj
        rw [hab j (Nat.le_refl j), hx]
        simp [hxm]
      · exact absurd hj.symm hij
      · exact absurd hij.symm hj
      · rfl
    have hul : u.staff.length = s.staff.length := by
      rw [← length_names, hp.names, names_modifyMachine, length_names, hl]
    have husr : ∀ due : Due, T.good m.kind r.machine (m.pending.or r.pending) due (awaited ++ engineRequests r.out) →
        T.Serves due ([] : List (Output μ ε D)) (Staff.sent r.out { x with
          machine := some { m with machine := r.machine, pending := m.pending.or r.pending } }) := by
      intro due hg m' hm'
      cases he : x.engine with
      | true =>
        obtain rfl : m' = { m with
            machine := r.machine
            pending := m.pending.or r.pending
            awaited := m.awaited ++ engineRequests r.out } := by simpa [Staff.sent, he] using hm'.symm
        exact ⟨awaited ++ engineRequests r.out, due, rfl, by simpa using hg, fun _ => by simp [haw he]⟩
      | false =>
        obtain rfl : m' = { m with machine := r.machine, pending := m.pending.or r.pending } := by
          simpa [Staff.sent, he] using hm'.symm
        exact ⟨awaited ++ engineRequests r.out, due, rfl, by simpa using hg, fun htr => by
          simp [Staff.sent] at htr⟩
    -- its deactivation is waited for, or not
    obtain ⟨v, hv, hvb, hvc, ht, hs⟩ : ∃ v, (if r.status then u.request (.deactivate i) else u) = v ∧
        Books .deactivating 0 v ∧ v.core = u.core ∧
        v.outstanding = t.outstanding ++ (if r.status then [.deactivate i] else []) ∧ v.staff = u.staff := by
      refine ⟨_, rfl, ?_⟩
      split_ifs
      · exact ⟨hub.request rfl (by simp [Subrequest.awaits]) (by simp [Subrequest.acquires]), rfl,
          congrArg (· ++ [Subrequest.deactivate i]) hut, rfl⟩
      · exact ⟨hub, rfl, by rw [hut, append_nil], rfl⟩
    have hmm : ∀ j, Subrequest.deactivate j ∈ v.outstanding ↔
        Subrequest.deactivate j ∈ t.outstanding ∨ r.status ∧ j = i := by
      intro j
      rw [ht]
      split_ifs with hsta <;> simp [hsta]
    dsimp only
    rw [hr, ← hu, Option.any_some, hv]
    refine ⟨hvb, hvc.trans huc, fun subrequest hsb => ?_, ?_, hs ▸ hul, fun j y hj hy => ?_,
      fun j hj => ?_⟩
    · rw [ht] at hsb
      rcases mem_append.1 hsb with hol | hn
      · exact ho' subrequest hol
      · refine ⟨i, Nat.lt_succ_self i, ?_⟩
        split_ifs at hn
        · simpa using hn
        · simp at hn
    · rw [ht]
      split_ifs
      · exact nodup_append.2 ⟨hd, by simp, fun a ha b hb heq => hf (by simp_all)⟩
      · simpa using hd
    · rw [hs, hus j] at hy
      split_ifs at hy with hji
      · subst hji
        obtain rfl := some.inj hy
        have hi : (Subrequest.deactivate j ∈ v.outstanding) ↔ r.status = true := by simp [hmm j, hf]
        rw [if_congr hi rfl rfl]
        exact husr _ hg'
      · have hi : (Subrequest.deactivate j ∈ v.outstanding) ↔ Subrequest.deactivate j ∈ t.outstanding := by
          simp [hmm j, hji]
        rw [if_congr hi rfl rfl]
        exact hbl j y (by omega) hy
    · rw [hs, hus j, if_neg (by omega)]
      exact hab j (by omega)

theorem Idle.deactivating (h : Idle T .terminate s) :
    Deactivating T s 0 ((s.see (.dispatch .terminate)).stateSet .deactivating) := by
  obtain ⟨hb, ho, -, -, -, -, -, -, -⟩ := h
  obtain ⟨hs, -⟩ := hb.see .deactivating (.dispatch .terminate) (by simp [Account.step]) (Or.inl ho)
  refine ⟨hs.stateSet ho .deactivating, rfl, fun subrequest hm => ?_, ?_, rfl, fun j x hj => ?_, fun j _ => rfl⟩
  · exact absurd (ho ▸ hm) not_mem_nil
  · show s.outstanding.Nodup
    simp [ho]
  · omega

theorem deactivate_accounted (h : Idle T .terminate s) (hw : s.LawfulDispatch T .terminate) :
    Accounted T 0 [] 0 ((s.see (.dispatch .terminate)).deactivate M P W) := by
  obtain ⟨u, hu⟩ : ∃ u, u = (s.see (.dispatch .terminate)).stateSet .deactivating := ⟨_, rfl⟩
  have hr : Deactivating T s 0 u := hu ▸ h.deactivating
  obtain ⟨-, -, hm, -, ha, hdi, han, hnl, hf⟩ := h
  have hl : Deactivating T s u.channels.length
      ((List.range u.channels.length).foldl (Session.machineDeactivate M P W) u) :=
    foldl_range_invariant (fun i v => Deactivating T s i v) _ hr fun i v _ hv =>
      machineDeactivate_deactivating hw hf hv
  obtain ⟨v, hv⟩ : ∃ v, v = (List.range u.channels.length).foldl (Session.machineDeactivate M P W) u := ⟨_, rfl⟩
  have hln : s.staff.length = u.channels.length := by rw [hu]; simp [Session.staff, Session.stateSet, Session.see]
  rw [← hv, ← hln] at hl
  have heq : (s.see (.dispatch .terminate)).deactivate M P W =
      if v.subrequestCount = 0 then v.terminateProcess W else v := by
    rw [hv, hu]
    rfl
  obtain ⟨hb, hc, -, hds, hvl, hbl, -⟩ := hl
  have hs : v.state = .deactivating := congrArg Core.state hc
  have hvc : v.activeRequest = some .terminate := (congrArg Core.activeRequest hc).trans ha
  have hst : Stage v.core .deactivating := by
    rw [hc]
    exact .deactivating hm ha hdi rfl
  have hvn : v.lastOffer.isSome → v.lastAnswer.isSome := by
    rw [show v.lastOffer = s.lastOffer from congrArg Core.lastOffer hc,
      show v.lastAnswer = s.lastAnswer from congrArg Core.lastAnswer hc]
    exact han
  have hn : v.nullRead = false := (congrArg Core.nullRead hc).trans hnl
  have ht : Staffed T 0 [] v.due v.staff := by
    refine ⟨rfl, fun j x hx => ?_⟩
    have hj : j < s.staff.length := hvl ▸ (List.getElem?_eq_some_iff.1 hx).1
    have hd : v.due j = if Subrequest.deactivate j ∈ v.outstanding then .deactivation else .ended := by
      unfold Session.due
      rw [hs]
    rw [ite_self, hd]
    exact hbl j x hj hx
  rw [heq]
  split_ifs with hz
  · have hni : v.outstanding = [] := length_eq_zero_iff.1 (by have := hb.count; omega)
    exact terminateProcess_accounted ⟨hb, hni, hst, hvn, by simp [hs], hn, ht⟩
  · exact ⟨⟨⟨.deactivating, hb, hst, by simp [hz]⟩, hvn, fun _ => hds, by simp [hs], hn,
      Or.inr (served_of_active hvc rfl)⟩, ht⟩

/-! ## Steps -/

variable {message : SignalingMessage μ D}

theorem Accounted.idle (h : Accounted T 0 [] 0 s) (hn : s.controlled = none)
    (hrd : s.activeRequest = none ∨ s.dispatching)
    (hc : t.core = { s.core with activeRequest := some message, dispatching := false })
    (hl : t.ledger = s.ledger) (hh : t.channels = s.channels) (hsl : t.terminations = s.terminations) :
    Idle T message t := by
  obtain ⟨⟨⟨phase, hb, ht, hi⟩, han, -, -, hnl, -⟩, hf⟩ := h
  have busy : ∀ request, s.activeRequest = some request → s.dispatching = false → False := by
    intro request ha hd
    rcases hrd with hnn | htr
    · simp [hnn] at ha
    · simp [hd] at htr
  cases ht with
  | idle hr hs _ _ _ =>
    have hz : s.subrequestCount = 0 := hi.2 (Or.inl rfl)
    have ho : s.outstanding = [] := length_eq_zero_iff.1 (by have := hb.count; omega)
    refine ⟨hb.same hl hh hsl, (congrArg Prod.fst hl).trans ho,
      (congrArg Core.removed hc).trans hr, ?_, congrArg Core.activeRequest hc, congrArg Core.dispatching hc,
      ?_, (congrArg Core.nullRead hc).trans hnl, ?_⟩
    · rw [show t.state = s.state from congrArg Core.state hc]
      exact hs
    · rw [show t.lastOffer = s.lastOffer from congrArg Core.lastOffer hc,
        show t.lastAnswer = s.lastAnswer from congrArg Core.lastAnswer hc]
      exact han
    · rw [show t.staff = s.staff from congrArg (List.map Channel.staff) hh,
        ← due_nothing hs hn]
      exact hf
  | answering _ ha hd => exact (busy _ ha hd).elim
  | deactivating _ ha hd => exact (busy _ ha hd).elim
  | releasing _ ha hd => exact (busy _ ha hd).elim
  | ended _ ha hd => exact (busy _ ha hd).elim

theorem Accounted.idle_signaling (h : Accounted T 0 [] 0 s) (hd : s.dispatching = false)
    (ha : s.activeRequest = none) : Idle T message { s with activeRequest := some message } := by
  have hc : s.controlled = none := by
    unfold Session.controlled
    rw [ha]
    split_ifs <;> rfl
  refine h.idle hc (Or.inl ha) ?_ rfl rfl rfl
  simp [Session.core, hd]

theorem Accounted.idle_dispatch (h : Accounted T 0 [] 0 s) (hd : s.dispatching)
    (message : SignalingMessage μ D) :
    Idle T message { s with activeRequest := some message, dispatching := false } := by
  have hc : s.controlled = none := by
    unfold Session.controlled
    rw [if_pos hd]
  exact h.idle hc (Or.inr hd) rfl rfl rfl rfl

theorem dispatch_goes (h : Idle T message s) (hl : s.LawfulDispatch T message) :
    (s.dispatch M P W message).Goes T := by
  cases message with
  | offer descriptor => exact Or.inl (offerProcess_accounted h)
  | control channel resourceName message => exact onMessageReceive_goes h hl
  | terminate => exact Or.inl (deactivate_accounted h hl)

theorem signalingMessageProcess_goes (h : Accounted T 0 [] 0 s) (hd : s.dispatching = false)
    (hw : s.activeRequest = none → s.LawfulDispatch T message) :
    (s.signalingMessageProcess M P W message).Goes T := by
  unfold Session.signalingMessageProcess
  split_ifs with hm
  · obtain ⟨⟨⟨phase, hb, ht, hi⟩, han, hdi, hl, hnl, hsr⟩, hf⟩ := h
    refine Or.inl ⟨⟨⟨phase, hb.same rfl rfl rfl, ?_, hi⟩, han, hdi, hl, hnl, hsr⟩, hf⟩
    cases ht with
    | idle hr hs hd hc _ =>
      refine .idle hr hs hd hc fun hnn => ?_
      simp [show s.activeRequest = none from hnn] at hm
    | answering hr ha hd hs ho hn =>
      exact .answering hr ha hd hs ho hn
    | deactivating hr ha hd hs => exact .deactivating hr ha hd hs
    | releasing hr ha hd hs => exact .releasing hr ha hd hs
    | ended hr ha hd => exact .ended hr ha hd
  · have ha : s.activeRequest = none := by simpa using hm
    exact dispatch_goes (h.idle_signaling hd ha) (hw ha)

theorem Accounted.machine (h : Accounted T 0 [] 0 s) {m : ChannelMachine κ σ μ D} (hm : s.machine i = some m) :
    ∃ x awaited, s.staff[i]? = some x ∧ x.machine = some m ∧ T.good m.kind m.machine m.pending (s.due i) awaited ∧
      (x.engine → m.awaited = awaited) := by
  obtain ⟨x, hx, hxm⟩ : ∃ x, s.staff[i]? = some x ∧ x.machine = some m := by
    rw [machine_eq] at hm
    exact bind_eq_some_iff.1 hm
  have hs := h.staffed.serves i x hx
  rw [ite_self] at hs
  obtain ⟨awaited, due', ha, hg, hw⟩ := hs m hxm
  obtain rfl : due' = s.due i := (some.inj ha).symm
  exact ⟨x, awaited, hx, hxm, by simpa using hg, hw⟩

theorem Accounted.others (h : Accounted T 0 [] 0 s) (j : Nat) (x : Staff κ σ μ D) (hx : s.staff[j]? = some x) :
    T.Serves (s.due j) [] x := by
  simpa using h.staffed.serves j x hx

theorem engine_of_channel {x : Staff κ σ μ D} (hx : s.staff[i]? = some x)
    (he : s.channels[i]?.any (·.engineChannel.isSome)) : x.engine := by
  obtain ⟨channel, hc, hs⟩ := (any_eq_true _ _).1 he
  have hx' : s.staff[i]? = some channel.staff := by
    unfold Session.staff
    rw [List.getElem?_map, hc]
    rfl
  obtain rfl : x = channel.staff := some.inj (hx.symm.trans hx')
  exact hs

variable [DecidableEq μ]

/-- **The engine responds.** -/
theorem engineResponse_goes (h : Accounted T 0 [] 0 s) {message : Message μ D}
    (he : s.channels[i]?.any (·.engineChannel.isSome)) (hl : s.Lawful T (.engineResponse i message)) :
    (s.engineResponse M P W i message).Goes T := by
  unfold Session.engineResponse
  cases hm : s.machine i with
  | none => exact Or.inl h
  | some m =>
    obtain ⟨x, awaited, hx, hxm, hg, ha⟩ := h.machine hm
    obtain rfl := ha (engine_of_channel hx he)
    have hd := due_modifyMachine s i
      fun m => { m with awaited := m.awaited.eraseP fun request => Answers message request }
    have hs := h.sound.modifyMachine i
      fun m => { m with awaited := m.awaited.eraseP fun request => Answers message request }
    have hx' : (s.modifyMachine i fun m => { m with
        awaited := m.awaited.eraseP fun request => Answers message request }).staff[i]? = some { x with
          machine := some { m with awaited := m.awaited.eraseP fun request => Answers message request } } := by
      rw [staff_modifyMachine, if_pos rfl, hx]
      simp [hxm]
    have hm' : (s.modifyMachine i fun m => { m with
        awaited := m.awaited.eraseP fun request => Answers message request }).machine i =
          some { m with awaited := m.awaited.eraseP fun request => Answers message request } := by
      rw [machine_eq, hx']
      rfl
    refine settle_goes hs (fun j y hj hy => ?_) hm' (fun y hy he => rfl) ?_
    · rw [staff_modifyMachine, if_neg (Ne.symm hj)] at hy
      rw [hd]
      exact h.others j y hy
    · rw [hd]
      exact hl m hm hg

theorem engineEvent_goes (h : Accounted T 0 [] 0 s) {message : MrcpEngine.Message ε D}
    (he : s.channels[i]?.any (·.engineChannel.isSome)) (hl : s.Lawful T (.engineEvent i message)) :
    (s.engineEvent M P W i message).Goes T := by
  unfold Session.engineEvent
  cases hm : s.machine i with
  | none => exact Or.inl h
  | some m =>
    obtain ⟨x, awaited, hx, hxm, hg, ha⟩ := h.machine hm
    obtain rfl := ha (engine_of_channel hx he)
    exact settle_goes h.sound (fun j y _ hy => h.others j y hy) hm (fun _ _ _ => rfl) (hl m hm hg)

/-- **A machine goes on with a pending request.** -/
theorem proceed_accounted (h : Accounted T 0 [] 0 s) (hl : s.Lawful T (.proceed i)) :
    Accounted T 0 [] 0 (s.proceed M P W i) := by
  unfold Session.proceed
  cases hm : s.machine i with
  | none => exact h
  | some m =>
    dsimp only
    cases hp : m.pending with
    | none => exact h
    | some message =>
      obtain ⟨x, awaited, hx, hxm, hg, hw⟩ := h.machine hm
      obtain ⟨f, hf⟩ : ∃ f : ChannelMachine κ σ μ D → ChannelMachine κ σ μ D, f = fun m =>
          { m with pending := none, machine := (M m.kind).pendingProcess m.machine message } := ⟨_, rfl⟩
      have hq : ∀ output ∈ [(.request message : Output μ ε D)], isQuiet output := by
        simp [isQuiet, Output.response?, Output.isDeactivated]
      have hd := (s.due i).after_quiet hq
      have hs : Staffed T i [.request message] (s.modifyMachine i f).due (s.modifyMachine i f).staff := by
        refine Staffed.modifyMachine (by rw [hd]; rfl) (fun j y _ hy => h.others j y hy) fun y hy m' hm' => ?_
        obtain rfl : x = y := some.inj (hx.symm.trans hy)
        obtain rfl : m' = f m := by simpa [hxm] using hm'.symm
        refine ⟨awaited, s.due i, hd, ?_, fun he => ?_⟩
        · rw [hf]
          exact hl m message awaited hm hp hg
        · rw [hf]
          exact hw he
      have ha : Accounted T i [] 0
          (((s.modifyMachine i f).see (.out i (.processPending message))).onDispatch P W i (.request message)) :=
        Accounted.passes [.request message]
          (Accounted.passes [] ⟨h.sound.modifyMachine i f, hs⟩ (see_passes i _ _) (by simp))
          (onDispatch_passes rfl _) hq
      rw [hf] at ha
      exact ⟨ha.sound, ha.staffed.of_nil 0⟩

theorem Session.dispatching_of_signaling (he : s.enabled (.signaling message : Input μ ε D)) :
    s.dispatching = false := by
  have hb : s.alive ∧ s.settled := by simpa [Session.enabled] using he
  have hs := hb.2
  simpa using (Bool.and_eq_true_iff.1 hs).1

theorem step_goes (h : Accounted T 0 [] 0 s) {input : Input μ ε D} (he : s.enabled input)
    (hl : s.Lawful T input) : (s.step M P (W, input)).1.Goes T := by
  cases input with
  | signaling message =>
    exact signalingMessageProcess_goes h (dispatching_of_signaling he) hl
  | completed subrequest result =>
    obtain ⟨⟨-, hm⟩, hr⟩ : (_ ∧ subrequest ∈ s.outstanding) ∧ subrequest.answeredBy result := by
      simpa only [Session.enabled, Bool.and_eq_true, contains_iff_mem] using he
    exact Or.inl (onCompletion_accounted h hm hr)
  | engineResponse i message =>
    refine engineResponse_goes h ?_ hl
    obtain ⟨-, ha⟩ := Bool.and_eq_true_iff.1 he
    obtain ⟨channel, hh, hb⟩ := (any_eq_true _ _).1 ha
    exact (any_eq_true _ _).2 ⟨channel, hh, (Bool.and_eq_true_iff.1 hb).1⟩
  | engineEvent i message => exact engineEvent_goes h (Bool.and_eq_true_iff.1 he).2 hl
  | dispatch =>
    have hd : s.dispatching := (Bool.and_eq_true_iff.1 he).2
    show (s.activeRequest.elim s ({ s with dispatching := false }.dispatch M P W)).Goes T
    cases hc : s.activeRequest with
    | none => exact Or.inl h
    | some message =>
      exact dispatch_goes (h.idle_dispatch hd message) (hl message hc)
  | proceed i => exact Or.inl (proceed_accounted h hl)

end UniMrcp.MrcpServer
