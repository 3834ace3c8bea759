import UniMrcp.MrcpServer.Session.Completion

/-!
# What the state machines of a session put out
-/

namespace UniMrcp.MrcpServer

open MrcpEngine List Staff

variable {κ σ μ ε D : Type} {M : κ → StateMachine σ μ ε D} {T : Terms M} {P : Profile κ} {W : Environment} {i : Nat}
  {rest : List (Output μ ε D)} {s t : Session κ σ μ ε D}

/-! ## Outputs that settle nothing -/

def Staff.sent (out : List (Output μ ε D)) (x : Staff κ σ μ D) : Staff κ σ μ D :=
  if x.engine then
    { x with machine := x.machine.map fun m => { m with awaited := m.awaited ++ engineRequests out } }
  else x

structure Passes (i : Nat) (out : List (Output μ ε D)) (s t : Session κ σ μ ε D) : Prop where
  core : t.core = s.core
  outstanding : t.outstanding = s.outstanding
  count : t.subrequestCount = s.subrequestCount
  names : t.names = s.names
  books : ∀ phase extra, Books phase extra s → Books phase extra t ∧ t.held = s.held
  staff : ∀ j, t.staff[j]? = if j = i then s.staff[j]?.map (Staff.sent out) else s.staff[j]?

theorem Staff.sent_nil (x : Staff κ σ μ D) : x.sent ([] : List (Output μ ε D)) = x := by
  obtain ⟨resourceName, machine, engine⟩ := x
  cases machine <;> cases engine <;> simp [sent]

theorem Staff.sent_append (out out' : List (Output μ ε D)) (x : Staff κ σ μ D) :
    (x.sent out).sent out' = x.sent (out ++ out') := by
  obtain ⟨resourceName, machine, engine⟩ := x
  cases machine <;> cases engine <;> simp [sent, engineRequests]

theorem Passes.refl (i : Nat) (s : Session κ σ μ ε D) : Passes i [] s s := by
  refine ⟨rfl, rfl, rfl, rfl, fun _ _ h => ⟨h, rfl⟩, fun j => ?_⟩
  split_ifs
  · rw [show sent ([] : List (Output μ ε D)) = id from funext sent_nil, Option.map_id]
    rfl
  · rfl

theorem Passes.trans {u : Session κ σ μ ε D} {out out' : List (Output μ ε D)} (h : Passes i out s t)
    (h' : Passes i out' t u) : Passes i (out ++ out') s u := by
  refine ⟨h'.core.trans h.core, h'.outstanding.trans h.outstanding, h'.count.trans h.count, h'.names.trans h.names,
    fun phase extra hs => ?_, fun j => ?_⟩
  · obtain ⟨ht, hh⟩ := h.books phase extra hs
    obtain ⟨hu, hh'⟩ := h'.books phase extra ht
    exact ⟨hu, hh'.trans hh⟩
  · rw [h'.staff j, h.staff j]
    split_ifs
    · rw [Option.map_map]
      exact congrArg (Option.map · _) (funext fun x => sent_append out out' x)
    · rfl

variable {extra : Nat}

theorem Books.modifyMachine {phase : Phase} (h : Books phase extra s) (i : Nat)
    (f : ChannelMachine κ σ μ D → ChannelMachine κ σ μ D) : Books phase extra (s.modifyMachine i f) :=
  h.modifyChannel fun _ _ => ⟨rfl, rfl, fun _ hw => hw, fun _ hw => hw⟩

theorem see_passes (i : Nat) (output : Output μ ε D) (s : Session κ σ μ ε D) : Passes i [] s (s.see (.out i output)) :=
  ⟨rfl, rfl, rfl, rfl, fun _ _ hb => hb.see _ (.out i output) rfl (Or.inr rfl), (Passes.refl i s).staff⟩

theorem onDispatch_passes {output : Output μ ε D} (h : isQuiet output) (s : Session κ σ μ ε D) :
    Passes i [output] s (s.onDispatch P W i output) := by
  have hs := (see_passes i output s).books
  -- only a request changes the machine
  have hp : output.request? = none → Passes i [output] s (s.see (.out i output)) := by
    intro hn
    refine ⟨rfl, rfl, rfl, rfl, hs, fun j => ?_⟩
    have hsn : (sent [output] : Staff κ σ μ D → Staff κ σ μ D) = sent ([] : List (Output μ ε D)) := by
      unfold sent
      simp [engineRequests, hn]
    rw [hsn]
    exact (see_passes i output s).staff j
  cases output with
  | response message => simp [isQuiet, Output.response?] at h
  | deactivated => simp [isQuiet, Output.isDeactivated] at h
  | request message =>
    have he : ∀ x, s.staff[i]? = some x → (s.see (.out i (.request message))).channels[i]?.any
        (·.engineChannel.isSome) = x.engine := by
      intro x hx
      have hx : (s.channels.map Channel.staff)[i]? = some x := hx
      rw [List.getElem?_map] at hx
      obtain ⟨channel, hc, rfl⟩ := Option.map_eq_some_iff.1 hx
      have hc : (s.see (.out i (.request message))).channels[i]? = some channel := hc
      rw [hc]
      rfl
    show Passes i _ s (if (s.see (.out i (.request message))).channels[i]?.any (·.engineChannel.isSome) then
      (s.see (.out i (.request message))).modifyMachine i fun m => { m with awaited := m.awaited ++ [message] }
      else s.see (.out i (.request message)))
    split_ifs with hm
    · refine ⟨rfl, rfl, rfl, Session.names_modifyMachine _ _ _, fun phase extra hb => ?_, fun j => ?_⟩
      · obtain ⟨hb, hh⟩ := hs phase extra hb
        exact ⟨hb.modifyMachine i _, hh⟩
      · rw [Session.staff_modifyMachine]
        by_cases hj : j = i
        · subst hj
          rw [if_pos rfl, if_pos rfl]
          refine Option.map_congr fun x hx => ?_
          have hx : s.staff[j]? = some x := hx
          rw [he x hx] at hm
          simp [sent, hm, engineRequests, Output.request?]
        · rw [if_neg (Ne.symm hj), if_neg hj]
          rfl
    · refine ⟨rfl, rfl, rfl, rfl, hs, fun j => ?_⟩
      split_ifs with hj
      · subst hj
        refine (Option.map_id' (x := s.staff[j]?)).symm.trans (Option.map_congr fun x hx => ?_)
        rw [he x hx] at hm
        simp [sent, hm]
      · rfl
  | _ => exact hp rfl

variable {out : List (Output μ ε D)}

theorem Staffed.passes {due : Nat → Due} (h : Staffed T i (out ++ rest) due s.staff) (hp : Passes i out s t)
    (hq : ∀ output ∈ out, isQuiet output) : Staffed T i rest due t.staff := by
  have ha : ∀ due : Due, due.after (out ++ rest) = due.after rest := by
    intro due
    have ho := due.after_quiet hq
    unfold Due.after at ho ⊢
    rw [foldlM_append, ho]
    rfl
  refine ⟨by rw [← ha]; exact h.left, fun j x' hx' => ?_⟩
  rw [hp.staff j] at hx'
  split_ifs at hx' with hj
  · subst hj
    obtain ⟨x, hx, rfl⟩ := Option.map_eq_some_iff.1 hx'
    have hs := h.serves j x hx
    rw [if_pos rfl] at hs ⊢
    intro m' hm'
    cases he : x.engine with
    | false =>
      have hsm : x.sent out = x := by simp [sent, he]
      rw [hsm] at hm' ⊢
      obtain ⟨awaited, due', hd, hg, -⟩ := hs m' hm'
      refine ⟨awaited ++ engineRequests out, due', (ha _).symm.trans hd, ?_, fun hso => by simp [he] at hso⟩
      simpa [engineRequests] using hg
    | true =>
      have hn : (x.sent out).machine = x.machine.map fun m => { m with awaited := m.awaited ++ engineRequests out } := by
        simp [sent, he]
      rw [hn] at hm'
      obtain ⟨m, hm, rfl⟩ := Option.map_eq_some_iff.1 hm'
      obtain ⟨awaited, due', hd, hg, hw⟩ := hs m hm
      refine ⟨awaited ++ engineRequests out, due', (ha _).symm.trans hd, ?_, fun _ => ?_⟩
      · simpa [engineRequests] using hg
      · simp [hw he]
  · have hs := h.serves j x' hx'
    rw [if_neg hj] at hs ⊢
    exact hs

theorem Accounted.passes (out : List (Output μ ε D)) (h : Accounted T i (out ++ rest) 0 s) (hp : Passes i out s t)
    (hq : ∀ output ∈ out, isQuiet output) : Accounted T i rest 0 t := by
  obtain ⟨⟨⟨phase, hb, hg, hi⟩, han, hdi, hr, hl, hs⟩, hf⟩ := h
  obtain ⟨hb', hh⟩ := hp.books phase 0 hb
  have hc := hp.core
  have ht : t.state = s.state := congrArg Core.state hc
  refine ⟨⟨⟨phase, hb', hc ▸ hg, hp.count ▸ hi⟩, ?_, ?_, ?_, ?_, ?_⟩, ?_⟩
  · rw [show t.lastOffer = s.lastOffer from congrArg Core.lastOffer hc,
      show t.lastAnswer = s.lastAnswer from congrArg Core.lastAnswer hc]
    exact han
  · rw [ht, hp.outstanding]
    exact hdi
  · rw [ht, hh]
    exact hr
  · exact (congrArg Core.nullRead hc).trans hl
  · refine hs.imp_right fun hs channel resourceName message hd ha => ?_
    have ha' := (congrArg Core.activeRequest hc).symm.trans ha
    have hd' := (congrArg Core.dispatching hc).symm.trans hd
    obtain ⟨j, x, hn, hx, hm, he⟩ := hs channel resourceName message hd' ha'
    rw [Session.controlled_congr (congrArg Core.activeRequest hc) (congrArg Core.dispatching hc) hp.names]
    by_cases hj : j = i
    · refine ⟨j, x.sent out, hn, ?_, ?_, ?_⟩
      · rw [hp.staff j, if_pos hj, hx]
        rfl
      · simpa [sent, he] using hm
      · simp [sent, he]
    · exact ⟨j, x, hn, by rw [hp.staff j, if_neg hj, hx], hm, he⟩
  · rw [Session.due_congr hc hp.outstanding hp.names]
    exact hf.passes hp hq

/-! ## Outputs that are due -/

theorem Session.due_response (h : s.due i = .response) : s.controlled = some i ∧ s.state.terminates = false := by
  unfold Session.due at h
  cases hs : s.state with
  | deactivating =>
    rw [hs] at h
    split_ifs at h
  | terminating => simp [hs] at h
  | _ =>
    rw [hs] at h
    dsimp only at h
    split_ifs at h with hc
    exact ⟨hc, rfl⟩

theorem Session.due_deactivation (h : s.due i = .deactivation) :
    s.state = .deactivating ∧ Subrequest.deactivate i ∈ s.outstanding := by
  unfold Session.due at h
  cases hs : s.state with
  | deactivating =>
    rw [hs] at h
    dsimp only at h
    split_ifs at h with hm
    exact ⟨rfl, hm⟩
  | terminating => simp [hs] at h
  | _ =>
    rw [hs] at h
    split_ifs at h

theorem Session.controlled_active (h : s.controlled = some i) : s.dispatching = false ∧
    ∃ channel resourceName message, s.activeRequest = some (.control channel resourceName message) := by
  unfold Session.controlled at h
  split_ifs at h with hd
  refine ⟨by simpa using hd, ?_⟩
  split at h
  · next ha => exact ⟨_, _, _, ha⟩
  · simp at h

theorem response_accounted {message : Message μ D} (h : Accounted T i (.response message :: rest) 0 s) :
    Accounted T i rest 0 (s.onDispatch P W i (.response message)) := by
  have h : Accounted T i (.response message :: rest) 0 (s.see (.out i (.response message))) :=
    Accounted.passes [] h (see_passes i _ s) (by simp)
  show Accounted T i rest 0 (s.see (.out i (.response message))).requestPop
  generalize s.see (.out i (.response message)) = u at h
  obtain ⟨⟨⟨phase, hb, hg, hi⟩, hn, -, -, hl, -⟩, hst⟩ := h
  obtain ⟨_, hf⟩ := Option.isSome_iff_exists.1 hst.left
  obtain ⟨next, ht, hrs⟩ := Due.after_cons hf
  have hdu : u.due i = .response ∧ next = .nothing := by
    cases hd : u.due i <;> rw [hd] at ht <;> simp [Due.step] at ht
    exact ⟨rfl, ht.symm⟩
  obtain ⟨hc, hsta⟩ := Session.due_response hdu.1
  obtain ⟨-, channel, resourceName, message', ha⟩ := Session.controlled_active hc
  have hnt : ∀ j, j ≠ i → u.due j = .nothing := by
    intro j hj
    unfold Session.due
    rw [hc]
    cases hs : u.state with
    | deactivating => simp [hs, SessionState.terminates] at hsta
    | terminating => simp [hs, SessionState.terminates] at hsta
    | _ => exact if_neg (by simpa using Ne.symm hj)
  have hst' : Staffed T i rest (fun _ => .nothing) u.staff := by
    refine ⟨by simp [← hdu.2, hrs], fun j x hx => ?_⟩
    have hr := hst.serves j x hx
    split_ifs with hj
    · subst hj
      rw [if_pos rfl] at hr
      intro m hm
      obtain ⟨awaited, due', haf, hgd, hw⟩ := hr m hm
      obtain ⟨next', ht', hrs'⟩ := Due.after_cons haf
      obtain rfl : next' = .nothing := by
        rw [hdu.1] at ht'
        simpa [Due.step] using ht'.symm
      exact ⟨awaited, due', hrs', hgd, hw⟩
    · rw [if_neg hj, hnt j hj] at hr
      exact hr
  cases hg with
  | idle hrm _ _ _ _ =>
    have hou : u.outstanding = [] := by
      have hz := hi.2 (Or.inl rfl)
      have hcn := hb.count
      exact length_eq_zero_iff.1 (by omega)
    exact requestPop_accounted hb hou hrm hsta hn hl hst'
  | answering _ ho => simp [show u.activeRequest = _ from ho] at ha
  | deactivating _ ho => simp [show u.activeRequest = _ from ho] at ha
  | releasing _ ho => simp [show u.activeRequest = _ from ho] at ha
  | ended _ ho => simp [show u.activeRequest = _ from ho] at ha

theorem deactivated_accounted (h : Accounted T i (.deactivated :: rest) 0 s) :
    Accounted T i rest 0 (s.onDispatch P W i .deactivated) := by
  have h : Accounted T i (.deactivated :: rest) 0 (s.see (.out i .deactivated)) :=
    Accounted.passes [] h (see_passes i _ s) (by simp)
  show Accounted T i rest 0 (((s.see (.out i .deactivated)).complete (.deactivate i)).subrequestRemove P W)
  generalize s.see (.out i .deactivated) = u at h
  obtain ⟨_, hl⟩ := Option.isSome_iff_exists.1 h.staffed.left
  obtain ⟨next, hs, hrs⟩ := Due.after_cons hl
  have hdu : u.due i = .deactivation ∧ next = .ended := by
    cases hd : u.due i <;> rw [hd] at hs <;> simp [Due.step] at hs
    exact ⟨rfl, hs.symm⟩
  obtain ⟨ht, hmm⟩ := Session.due_deactivation hdu.1
  have ho : (u.complete (.deactivate i)).due i = .ended := by
    have hn : Subrequest.deactivate i ∉ u.outstanding.erase (.deactivate i) := (h.sound.distinct ht).not_mem_erase
    unfold Session.due
    rw [show (u.complete (.deactivate i)).state = .deactivating from ht]
    exact if_neg hn
  have hsm : ∀ j, j ≠ i → (u.complete (.deactivate i)).due j = u.due j := by
    intro j hj
    have hi : Subrequest.deactivate j ∈ u.outstanding.erase (.deactivate i) ↔
        Subrequest.deactivate j ∈ u.outstanding := mem_erase_of_ne (by simpa using hj)
    unfold Session.due
    rw [show (u.complete (.deactivate i)).state = .deactivating from ht, ht]
    simp only [Session.complete, Session.see, hi]
  refine (h.complete hmm ⟨?_, fun j x hx => ?_⟩).subrequestRemove
  · rw [ho, ← hdu.2, hrs]
    rfl
  · have hr := h.staffed.serves j x hx
    split_ifs with hj
    · subst hj
      rw [if_pos rfl] at hr
      intro m hm
      obtain ⟨awaited, due', ha, hg, hw⟩ := hr m hm
      obtain ⟨next', hs', hrs'⟩ := Due.after_cons ha
      obtain rfl : next' = .ended := by
        rw [hdu.1] at hs'
        simpa [Due.step] using hs'.symm
      exact ⟨awaited, due', ho.symm ▸ hrs', hg, hw⟩
    · rw [if_neg hj] at hr
      rw [hsm j hj]
      exact hr

theorem outputs_accounted (h : Accounted T i out 0 s) :
    Accounted T i [] 0 (out.foldl (Session.onDispatch P W i) s) := by
  induction out generalizing s with
  | nil => exact h
  | cons output out ih =>
    rw [foldl_cons]
    apply ih
    have quiet : isQuiet output → Accounted T i out 0 (s.onDispatch P W i output) := fun hq =>
      Accounted.passes [output] h (onDispatch_passes hq s) (by simpa using hq)
    cases output with
    | response message => exact response_accounted h
    | deactivated => exact deactivated_accounted h
    | _ => exact quiet rfl

/-! ## Handlers -/

theorem Sound.modifyMachine (h : Sound T extra s) (i : Nat) (f : ChannelMachine κ σ μ D → ChannelMachine κ σ μ D) :
    Sound T extra (s.modifyMachine i f) := by
  refine h.change (fun _ hb => hb.modifyMachine i f) rfl rfl fun hs channel resourceName message hd ha => ?_
  obtain ⟨j, x, hc, hx, hm, he⟩ := hs channel resourceName message hd ha
  have hsm : (s.modifyMachine i f).controlled = s.controlled :=
    Session.controlled_congr rfl rfl (Session.names_modifyMachine s i f)
  rw [hsm]
  by_cases hj : i = j
  · exact ⟨j, { x with machine := x.machine.map f }, hc,
      by rw [Session.staff_modifyMachine, if_pos hj, hx]; rfl, by simpa using hm, he⟩
  · exact ⟨j, x, hc, by rw [Session.staff_modifyMachine, if_neg hj, hx], hm, he⟩

theorem Session.due_modifyMachine (s : Session κ σ μ ε D) (i : Nat)
    (f : ChannelMachine κ σ μ D → ChannelMachine κ σ μ D) : (s.modifyMachine i f).due = s.due :=
  Session.due_congr rfl rfl (Session.names_modifyMachine s i f)

theorem Staffed.modifyMachine {f : ChannelMachine κ σ μ D → ChannelMachine κ σ μ D}
    (hl : ((s.due i).after out).isSome)
    (ho : ∀ (j : Nat) (x : Staff κ σ μ D), j ≠ i → s.staff[j]? = some x → T.Serves (s.due j) [] x)
    (hm : ∀ x, s.staff[i]? = some x → T.Serves (s.due i) out { x with machine := x.machine.map f }) :
    Staffed T i out (s.modifyMachine i f).due (s.modifyMachine i f).staff := by
  rw [Session.due_modifyMachine]
  refine ⟨hl, fun j x' hx' => ?_⟩
  rw [Session.staff_modifyMachine] at hx'
  by_cases hj : i = j
  · subst hj
    rw [if_pos rfl] at hx' ⊢
    obtain ⟨x, hx, rfl⟩ := Option.map_eq_some_iff.1 hx'
    exact hm x hx
  · rw [if_neg hj] at hx'
    rw [if_neg (Ne.symm hj)]
    exact ho j x' (Ne.symm hj) hx'

variable (T) in
def Terms.Keeps (kind : κ) (pending : Option (Message μ D)) (due : Due) (awaited : List (Message μ D)) :
    Option (Handled σ μ ε D) → Prop
  | none => T.lossy
  | some r => ∃ due', due.after r.out = some due' ∧
      T.good kind r.machine (pending.or r.pending) due' (awaited ++ engineRequests r.out)

def Session.Goes (T : Terms M) (s : Session κ σ μ ε D) : Prop :=
  Accounted T 0 [] 0 s ∨ T.lossy ∧ s.nullRead ∧ s.Counted 0

theorem Session.Counted.nullRead (h : s.Counted extra) :
    ({ s with nullRead := true } : Session κ σ μ ε D).Counted extra := by
  obtain ⟨phase, hb, ht, hi⟩ := h
  refine ⟨phase, hb.same rfl rfl rfl, ?_, hi⟩
  cases ht with
  | idle hr hs hd hc hq => exact .idle hr hs hd hc hq
  | answering hr ha hd hs ho hn =>
    exact .answering hr ha hd hs ho hn
  | deactivating hr ha hd hs => exact .deactivating hr ha hd hs
  | releasing hr ha hd hs => exact .releasing hr ha hd hs
  | ended hr ha hd => exact .ended hr ha hd

/-- **A handler of a state machine is run.** -/
theorem settle_goes (h : Sound T 0 s)
    (ho : ∀ (j : Nat) (x : Staff κ σ μ D), j ≠ i → s.staff[j]? = some x → T.Serves (s.due j) [] x)
    {m : ChannelMachine κ σ μ D} (hm : s.machine i = some m) {awaited : List (Message μ D)}
    (hw : ∀ x, s.staff[i]? = some x → x.engine → m.awaited = awaited) {r : Option (Handled σ μ ε D)}
    (hk : T.Keeps m.kind m.pending (s.due i) awaited r) : (s.settle P W i r).Goes T := by
  cases r with
  | none => exact Or.inr ⟨hk, rfl, h.counted.nullRead⟩
  | some r =>
    obtain ⟨due', hf, hg⟩ := hk
    refine Or.inl ?_
    have hs := h.modifyMachine i fun m => { m with machine := r.machine, pending := m.pending.or r.pending }
    have ht : Staffed T i r.out (s.modifyMachine i fun m =>
        { m with machine := r.machine, pending := m.pending.or r.pending }).due
        (s.modifyMachine i fun m => { m with machine := r.machine, pending := m.pending.or r.pending }).staff := by
      refine Staffed.modifyMachine (by simp [hf]) ho ?_
      intro x hx m' hm'
      rw [Session.machine_eq, hx, Option.bind_some] at hm
      obtain rfl : m' = { m with machine := r.machine, pending := m.pending.or r.pending } := by
        simpa [hm] using hm'.symm
      exact ⟨awaited, due', hf, hg, fun he => hw x hx he⟩
    have ha : Accounted T i [] 0 (s.settle P W i (some r)) := outputs_accounted ⟨hs, ht⟩
    exact ⟨ha.sound, ha.staffed.of_nil 0⟩

end UniMrcp.MrcpServer
