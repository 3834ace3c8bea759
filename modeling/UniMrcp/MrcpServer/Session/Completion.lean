import UniMrcp.MrcpServer.Session.Accounted

/-!
# The completion of a subrequest

A completion clears the flag that guards it, which is set, and is counted.
-/

namespace UniMrcp.MrcpServer

open MrcpEngine Session

variable {κ σ μ ε D : Type} {M : κ → StateMachine σ μ ε D} {T : Terms M} {P : Profile κ} {W : Environment} {i : Nat}
  {rest : List (Output μ ε D)} {phase : Phase} {extra : Nat} {s t : Session κ σ μ ε D}

theorem findIdx?_unique {α : Type} {l : List α} {p : α → Bool} {i : Nat} {a : α} (hi : l[i]? = some a)
    (hp : p a) (hu : ∀ (j : Nat) (b : α), l[j]? = some b → p b → j = i) :
    l.findIdx? p = some i := by
  obtain ⟨hlt, hg⟩ := List.getElem?_eq_some_iff.1 hi
  refine List.findIdx?_eq_some_iff_getElem.2 ⟨hlt, hg ▸ hp, fun j hj h => ?_⟩
  have heq := hu j l[j] (List.getElem?_eq_getElem (Nat.lt_trans hj hlt)) h
  omega

variable {j : Nat}

theorem rtpTerminationFind_slot (h : s.Layout) {slot : Slot} (hs : s.terminations[j]? = some slot) :
    s.rtpTerminationFind (.rtp j) = some j := by
  refine findIdx?_unique hs (by simp [h.slots j slot hs]) fun k slot' hs' heq => ?_
  rw [h.slots k slot' hs'] at heq
  simpa using heq

theorem rtpTerminationFind_engine (h : s.Layout) (j : Nat) : s.rtpTerminationFind (.engine j) = none := by
  refine List.findIdx?_eq_none_iff.2 fun slot hm => ?_
  obtain ⟨k, hs⟩ := List.mem_iff_getElem?.1 hm
  simp [h.slots k slot hs]

theorem channelTerminationFind_channel (h : s.Layout) {channel : Channel κ σ μ D}
    (hc : s.channels[j]? = some channel) (hw : channel.engineTermination = some (.engine j)) :
    s.channelTerminationFind (.engine j) = some j := by
  have ho : ∀ (channel : Channel κ σ μ D) (k : Nat),
      (channel.engineChannel.any fun engine => engine.termination == some (.engine k)) = true ↔
        channel.engineTermination = some (.engine k) := by
    intro channel k
    unfold Channel.engineTermination
    cases channel.engineChannel <;> simp
  refine findIdx?_unique hc ((ho channel j).2 hw) fun k channel' hc' heq => ?_
  have heq := (ho channel' j).1 heq
  rcases h.engines k channel' hc' with hn | hs
  · simp [heq] at hn
  · have hsa := heq.symm.trans hs
    simpa using hsa.symm

theorem Accounted.modifyAnswer (h : Accounted T i rest extra s) (ha : s.answer.isSome)
    (f : SessionDescriptor → SessionDescriptor) : Accounted T i rest extra (s.modifyAnswer f) := by
  rw [modifyAnswer_eq ha]
  exact h.change (fun _ hb => hb.same rfl rfl rfl) (by simp [core]) rfl rfl

theorem Accounted.modifyOffer (h : Accounted T i rest extra s) (f : SessionDescriptor → SessionDescriptor) :
    Accounted T i rest extra (s.modifyOffer f) :=
  h.change (fun _ hb => hb.same rfl rfl rfl) (by simp [core, Session.modifyOffer]) rfl rfl

theorem Accounted.clearChannel (h : Accounted T i rest extra s) (hf : Waiting.control j ∉ s.flags) :
    Accounted T i rest extra (s.modifyChannel j ({ · with waitingForChannel := false })) :=
  h.change (fun _ hb => hb.modifyChannel fun _ _ => ⟨rfl, rfl, fun hm _ => absurd hm hf, fun _ hw => hw⟩)
    rfl (staff_modifyChannel fun _ _ => rfl) rfl

theorem Accounted.clearTermination (h : Accounted T i rest extra s)
    (hf : Waiting.termination (.engine j) ∉ s.flags) :
    Accounted T i rest extra (s.modifyChannel j ({ · with waitingForTermination := false })) :=
  h.change (fun _ hb => hb.modifyChannel fun _ _ => ⟨rfl, rfl, fun _ hw => hw, fun hm _ => absurd hm hf⟩)
    rfl (staff_modifyChannel fun _ _ => rfl) rfl

theorem Accounted.clearSlot (h : Accounted T i rest extra s) (hf : Waiting.termination (.rtp j) ∉ s.flags) :
    Accounted T i rest extra (s.modifySlot j ({ · with waiting := false })) :=
  h.change (fun _ hb => hb.modifySlot (fun _ _ => rfl) fun hm => absurd hm hf) rfl rfl rfl

theorem Accounted.layout (h : Accounted T i rest extra s) : s.Layout := by
  obtain ⟨_, hb, -⟩ := h.sound.counted
  exact hb.layout

variable {subrequest : Subrequest}

theorem Accounted.answer (h : Accounted T i rest 0 s) (hm : subrequest ∈ s.outstanding)
    (hp : ∀ phase : Phase, phase.starts subrequest → phase = .answering) : s.answer.isSome := by
  obtain ⟨phase, hb, hs, -⟩ := h.sound.counted
  obtain rfl := hp phase (hb.starts subrequest hm)
  cases hs with
  | answering _ _ _ _ _ ha => exact ha

/-! ## Completions -/

theorem onChannelTermination_accounted (h : Accounted T i rest 1 s)
    (hw : s.waits (.termination (.engine j))) (hf : Waiting.termination (.engine j) ∉ s.flags) :
    Accounted T i rest 0 (s.onChannelTermination P W (.engine j)) := by
  obtain ⟨channel, hc, hwa⟩ := (Option.any_eq_true _ _).1 hw
  obtain ⟨hs, ho⟩ := Bool.and_eq_true_iff.1 hwa
  unfold onChannelTermination
  rw [channelTerminationFind_channel h.layout hc (by simpa using ho)]
  dsimp only
  rw [hc, Option.any_some, if_pos hs]
  exact (h.clearTermination hf).subrequestRemove

variable {termination : Termination}

theorem onTerminationModify_accounted (h : Accounted T i rest 1 s) (ha : s.answer.isSome)
    (hw : s.waits (.termination termination)) (hf : Waiting.termination termination ∉ s.flags)
    (localMedia : Option RtpMedia) : Accounted T i rest 0 (s.onTerminationModify P W termination localMedia) := by
  unfold onTerminationModify
  cases termination with
  | rtp j =>
    obtain ⟨slot, hs, hwa⟩ := (Option.any_eq_true _ _).1 hw
    rw [rtpTerminationFind_slot h.layout hs]
    dsimp only
    rw [hs]
    dsimp only
    rw [if_pos hwa]
    have hc := h.clearSlot hf
    cases localMedia with
    | none => exact hc.subrequestRemove
    | some media => exact (hc.modifyAnswer ha _).subrequestRemove
  | engine j =>
    rw [rtpTerminationFind_engine h.layout]
    exact onChannelTermination_accounted h hw hf

theorem onTerminationSubtract_accounted (h : Accounted T i rest 1 s)
    (hw : s.waits (.termination termination)) (hf : Waiting.termination termination ∉ s.flags) :
    Accounted T i rest 0 (s.onTerminationSubtract P W termination) := by
  unfold onTerminationSubtract
  cases termination with
  | rtp j =>
    obtain ⟨slot, hs, hwa⟩ := (Option.any_eq_true _ _).1 hw
    rw [rtpTerminationFind_slot h.layout hs]
    dsimp only
    rw [hs, Option.any_some, if_pos hwa]
    exact (h.clearSlot hf).subrequestRemove
  | engine j =>
    rw [rtpTerminationFind_engine h.layout]
    exact onChannelTermination_accounted h hw hf

theorem onChannelModify_accounted (h : Accounted T i rest 1 s) (ha : s.answer.isSome)
    (hw : s.waits (.control j)) (hf : Waiting.control j ∉ s.flags) {answer : Option ControlDescriptor}
    (hs : answer.isSome) : Accounted T i rest 0 (s.onChannelModify P W j answer) := by
  obtain ⟨channel, hc, hwa⟩ := (Option.any_eq_true _ _).1 hw
  obtain ⟨answer, rfl⟩ := Option.isSome_iff_exists.1 hs
  unfold onChannelModify
  rw [hc]
  dsimp only
  rw [if_pos hwa]
  exact ((h.clearChannel hf).modifyAnswer ha _).subrequestRemove

theorem onChannelRemove_accounted (h : Accounted T i rest 1 s) (hw : s.waits (.control j))
    (hf : Waiting.control j ∉ s.flags) : Accounted T i rest 0 (s.onChannelRemove P W j) := by
  obtain ⟨channel, hc, hwa⟩ := (Option.any_eq_true _ _).1 hw
  unfold onChannelRemove
  rw [hc]
  dsimp only
  rw [if_pos hwa]
  exact (h.clearChannel hf).subrequestRemove

theorem terminationModified_accounted (h : Accounted T i rest 1 s) (ha : s.answer.isSome)
    (hw : s.waits (.termination termination)) (hf : Waiting.termination termination ∉ s.flags)
    (result : Result) :
    Accounted T i rest 0 ((result.remoteMedia.elim s (s.remoteMediaSet termination)).onTerminationModify P W termination
      result.localMedia) := by
  cases result.remoteMedia with
  | none => exact onTerminationModify_accounted h ha hw hf _
  | some media =>
    show Accounted T i rest 0 ((s.remoteMediaSet termination media).onTerminationModify P W termination result.localMedia)
    unfold remoteMediaSet
    split
    · exact onTerminationModify_accounted h ha hw hf _
    · exact onTerminationModify_accounted (h.modifyOffer _) ha hw hf _

/-- **A subrequest is completed**, whichever it is. -/
theorem onCompletion_accounted (h : Accounted T i rest 0 s) (hm : subrequest ∈ s.outstanding) {result : Result}
    (hr : subrequest.answeredBy result) :
    Accounted T i rest 0 ((s.complete subrequest).onCompletion P W result subrequest) := by
  obtain ⟨phase, hb, -⟩ := h.sound.counted
  obtain ⟨-, -, hf⟩ := hb.complete hm
  have ht : ∀ w, subrequest.awaits = some w → (s.complete subrequest).waits w := fun w hw =>
    hb.waits w (List.mem_filterMap.2 ⟨subrequest, hm, hw⟩)
  have hne : ∀ j, Subrequest.deactivate j ≠ subrequest := by
    rintro j rfl
    simp [Subrequest.answeredBy] at hr
  have hc : Accounted T i rest 1 (s.complete subrequest) := by
    refine h.complete hm ?_
    have hd : (s.complete subrequest).due = s.due := by
      funext j
      have hi : Subrequest.deactivate j ∈ s.outstanding.erase subrequest ↔ Subrequest.deactivate j ∈ s.outstanding :=
        List.mem_erase_of_ne (hne j)
      unfold due
      simp only [complete, see, hi]
      rfl
    rw [hd]
    exact h.staffed
  have ha : (∀ phase : Phase, phase.starts subrequest → phase = .answering) →
      (s.complete subrequest).answer.isSome = true := fun hp => h.answer hm hp
  cases subrequest with
  | controlAdd j =>
    have hs := ha (by rintro (_ | _) <;> simp [Phase.starts])
    exact onChannelModify_accounted hc hs (ht _ rfl) (hf _ rfl) hr
  | controlModify j =>
    have hs := ha (by rintro (_ | _) <;> simp [Phase.starts])
    exact onChannelModify_accounted hc hs (ht _ rfl) (hf _ rfl) hr
  | controlRemove j => exact onChannelRemove_accounted hc (ht _ rfl) (hf _ rfl)
  | terminationAdd termination =>
    have hs := ha (by rintro (_ | _) <;> simp [Phase.starts])
    exact terminationModified_accounted hc hs (ht _ rfl) (hf _ rfl) result
  | terminationModify termination =>
    have hs := ha (by rintro (_ | _) <;> simp [Phase.starts])
    exact terminationModified_accounted hc hs (ht _ rfl) (hf _ rfl) result
  | terminationSubtract termination => exact onTerminationSubtract_accounted hc (ht _ rfl) (hf _ rfl)
  | resetAssociations => exact hc.subrequestRemove
  | addAssociation termination assocTermination => exact hc.subrequestRemove
  | applyTopology => exact hc.subrequestRemove
  | engineOpen j =>
    have hs := ha (by rintro (_ | _) <;> simp [Phase.starts])
    show Accounted T i rest 0 ((s.complete (.engineOpen j)).onEngineChannelOpen P W result.status)
    unfold onEngineChannelOpen
    split_ifs
    · exact hc.subrequestRemove
    · exact (hc.modifyAnswer hs _).subrequestRemove
  | engineClose j => exact hc.subrequestRemove
  | deactivate j => exact absurd rfl (hne j)

end UniMrcp.MrcpServer
