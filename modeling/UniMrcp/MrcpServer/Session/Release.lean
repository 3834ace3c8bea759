import UniMrcp.MrcpServer.Session.Offers

/-!
# Releasing what a session has

A session that terminates releases its control channels, its terminations and its engine channels, one channel and one
slot after the other.
-/

namespace UniMrcp.MrcpServer

open Lib MrcpEngine List Session Subrequest

variable {κ σ μ ε D : Type} {M : κ → StateMachine σ μ ε D} {W : Environment} {s t : Session κ σ μ ε D}

/-! ## Channels -/

def Resource.above (i : Nat) : Resource → Prop
  | .control j | .media (.engine j) => i ≤ j
  | .media (.rtp _) => True

def Waiting.below (i : Nat) : Waiting → Prop
  | .control j | .termination (.engine j) => j < i
  | .termination (.rtp _) => False

variable {i : Nat}

theorem Waiting.below.succ {w : Waiting} (h : w.below i) : w.below (i + 1) := by
  cases w with
  | control j => exact Nat.lt_succ_of_lt h
  | termination termination =>
    cases termination with
    | rtp j => exact h
    | engine j => exact Nat.lt_succ_of_lt h

theorem Resource.above.succ {resource : Resource} (h : resource.above i) (hc : resource ≠ .control i)
    (ht : resource ≠ .media (.engine i)) : resource.above (i + 1) := by
  cases resource with
  | control j => exact Nat.lt_of_le_of_ne h fun heq => hc (congrArg Resource.control heq.symm)
  | media termination =>
    cases termination with
    | rtp j => exact trivial
    | engine j => exact Nat.lt_of_le_of_ne h fun heq => ht (heq ▸ rfl)

/-- **The channels below a position are released**, and nothing waits for the others. -/
structure Releasing (M : κ → StateMachine σ μ ε D) (s : Session κ σ μ ε D) (i : Nat) (t : Session κ σ μ ε D) :
    Prop where
  going : Going M .releasing s t
  length : t.channels.length = s.channels.length
  flags : ∀ w ∈ t.flags, w.below i
  held : ∀ resource ∈ t.held, resource.above i

theorem controlRemove_going {channel : Channel κ σ μ D} (h : Going M .releasing s t)
    (hc : t.channels[i]? = some channel) (hf : Waiting.control i ∉ t.flags) :
    ∃ u : Session κ σ μ ε D, (if channel.controlChannel then
        (t.modifyChannel i ({ · with waitingForChannel := true })).request (.controlRemove i)
      else t) = u ∧ Going M .releasing s u ∧ u.channels.length = t.channels.length ∧
        (∃ channel', u.channels[i]? = some channel' ∧ channel'.engineChannel = channel.engineChannel) ∧
        (∀ w ∈ u.flags, w ∈ t.flags ∨ w = .control i) ∧
        ∀ resource ∈ u.held, resource ∈ t.held ∧ resource ≠ .control i := by
  refine ⟨_, rfl, ?_⟩
  split_ifs with ht
  · have hs := h.waitForChannel i (Or.inl rfl)
    refine ⟨h.requestControl hc ht hf rfl rfl (by simp [acquires]), ?_,
      ⟨{ channel with waitingForChannel := true }, ?_, rfl⟩, fun w hm => ?_, fun resource hm => ?_⟩
    · exact length_modify _ _ _
    · show (t.modifyChannel i ({ · with waitingForChannel := true })).channels[i]? = _
      rw [getElem?_modifyChannel, if_pos rfl, hc]
      rfl
    · rcases mem_flags_request.1 hm with ho | hn
      · exact Or.inl ho
      · exact Or.inr (Option.some.inj hn).symm
    · rw [hs.books.held_request rfl, mem_heldAfter] at hm
      obtain ⟨ho | hn, hk⟩ := hm
      · exact ⟨ho, fun heq => hk (heq ▸ rfl)⟩
      · simp [acquires] at hn
  · refine ⟨h, rfl, ⟨channel, hc, rfl⟩, fun w hm => Or.inl hm, fun resource hm => ⟨hm, ?_⟩⟩
    rintro rfl
    have hh := h.books.held _ hm
    simp [has, hc, ht] at hh

theorem terminationSubtract_going {channel channel' : Channel κ σ μ D} (h : Going M .releasing s t)
    (hc : t.channels[i]? = some channel') (hsm : channel'.engineChannel = channel.engineChannel)
    (hf : Waiting.termination (.engine i) ∉ t.flags) :
    ∃ u : Session κ σ μ ε D, (match channel.engineChannel.bind EngineChannel.termination with
      | none => t
      | some termination =>
        (t.modifyChannel i ({ · with waitingForTermination := true })).request (.terminationSubtract termination)) = u ∧
        Going M .releasing s u ∧ u.channels.length = t.channels.length ∧
        (∀ w ∈ u.flags, w ∈ t.flags ∨ w = .termination (.engine i)) ∧
        ∀ resource ∈ u.held, resource ∈ t.held ∧ resource ≠ .media (.engine i) := by
  refine ⟨_, rfl, ?_⟩
  have ht : channel'.engineTermination = channel.engineChannel.bind EngineChannel.termination := by
    rw [← hsm]
    rfl
  cases hw : channel.engineChannel.bind EngineChannel.termination with
  | none =>
    refine ⟨h, rfl, fun w hm => Or.inl hm, fun resource hm => ⟨hm, ?_⟩⟩
    rintro rfl
    have hh := h.books.held _ hm
    simp [has, hc, ht, hw] at hh
  | some termination =>
    rw [hw] at ht
    have hs := h.waitForTermination i
    obtain rfl : termination = .engine i := by
      rcases h.books.layout.engines i channel' hc with hnn | hso
      · simp [ht] at hnn
      · exact Option.some.inj (ht.symm.trans hso)
    refine ⟨h.requestTermination hc ht hf rfl rfl (by simp [acquires]), ?_,
      fun w hm => ?_, fun resource hm => ?_⟩
    · exact length_modify _ _ _
    · rcases mem_flags_request.1 hm with ho | hn
      · exact Or.inl ho
      · exact Or.inr (Option.some.inj hn).symm
    · rw [hs.books.held_request rfl, mem_heldAfter] at hm
      obtain ⟨ho | hn, hk⟩ := hm
      · exact ⟨ho, fun heq => hk (heq ▸ rfl)⟩
      · simp [acquires] at hn

theorem engineChannelClose_releasing (h : Going M .releasing s t) (i : Nat) :
    Going M .releasing s (t.engineChannelClose W i) ∧
      (t.engineChannelClose W i).channels.length = t.channels.length ∧
      (t.engineChannelClose W i).flags = t.flags ∧ (t.engineChannelClose W i).held = t.held := by
  obtain ⟨hg, hl⟩ := engineChannelClose_going (W := W) h i rfl
  refine ⟨hg, hl, ?_⟩
  unfold engineChannelClose
  split
  · exact ⟨rfl, rfl⟩
  · next engineChannel he =>
    have hs := (h.call (engineChannel.closeCalls i (W.channelClose i))).engineSet he
      (engineChannel.virtualClose_termination (W.channelClose i))
    dsimp only
    split_ifs
    · refine ⟨?_, ?_⟩
      · simp [Session.flags, request, see, subrequestAdd, modifyChannel, call,
          awaits]
      · rw [hs.books.held_request rfl]
        simp [heldAfter, acquires, releases, Session.held, modifyChannel, call]
    · exact ⟨rfl, rfl⟩

/-- **A channel is released.** -/
theorem channelRelease_releasing (h : Releasing M s i t) (hi : i < s.channels.length) :
    Releasing M s (i + 1) (t.channelRelease W i) := by
  obtain ⟨hg, hl, hf, hh⟩ := h
  obtain ⟨channel, hc⟩ : ∃ channel, t.channels[i]? = some channel :=
    ⟨_, List.getElem?_eq_getElem (hl ▸ hi)⟩
  have ht : Waiting.control i ∉ t.flags := fun hm => Nat.lt_irrefl i (hf _ hm)
  obtain ⟨u, hu, hgoing₁, hlength₁, ⟨channel', hc', hs⟩, hflags₁, hheld₁⟩ :=
    controlRemove_going hg hc ht
  have hr : Waiting.termination (.engine i) ∉ u.flags := by
    intro hm
    rcases hflags₁ _ hm with ho | heq
    · exact Nat.lt_irrefl i (hf _ ho)
    · simp at heq
  obtain ⟨v, hv, hgoing₂, hlength₂, hflags₂, hheld₂⟩ := terminationSubtract_going hgoing₁ hc' hs hr
  obtain ⟨hgoing₃, hlength₃, hflags₃, hheld₃⟩ := engineChannelClose_releasing (W := W) hgoing₂ i
  have heq : t.channelRelease W i = v.engineChannelClose W i := by
    unfold channelRelease
    rw [hc]
    dsimp only
    rw [hu]
    exact congrArg (engineChannelClose W · i) hv
  rw [heq]
  refine ⟨hgoing₃, hlength₃.trans (hlength₂.trans (hlength₁.trans hl)), fun w hm => ?_, fun resource hm => ?_⟩
  · rw [hflags₃] at hm
    rcases hflags₂ w hm with hm | rfl
    · rcases hflags₁ w hm with hm | rfl
      · exact (hf w hm).succ
      · exact Nat.lt_succ_self i
    · exact Nat.lt_succ_self i
  · rw [hheld₃] at hm
    obtain ⟨hm, hne⟩ := hheld₂ resource hm
    obtain ⟨hm, hne'⟩ := hheld₁ resource hm
    exact (hh resource hm).succ hne' hne

/-- **The slots below a position are released** as well. -/
structure SlotsReleasing (M : κ → StateMachine σ μ ε D) (s : Session κ σ μ ε D) (n i : Nat) (t : Session κ σ μ ε D) :
    Prop where
  going : Going M .releasing s t
  length : t.channels.length = s.channels.length
  slots : t.terminations.length = n
  flags : ∀ j, Waiting.termination (.rtp j) ∈ t.flags → j < i
  held : ∀ resource ∈ t.held, ∃ j, resource = .media (.rtp j) ∧ i ≤ j

/-- **A slot is released.** -/
theorem slotRelease_releasing {n i : Nat} (h : SlotsReleasing M s n i t) (hi : i < n) :
    SlotsReleasing M s n (i + 1) (t.slotRelease i) := by
  obtain ⟨hg, hln, hs, hf, hh⟩ := h
  obtain ⟨slot, hl⟩ : ∃ slot, t.terminations[i]? = some slot := ⟨_, List.getElem?_eq_getElem (hs ▸ hi)⟩
  have hr : slot.termination = .rtp i := hg.books.layout.slots i slot hl
  have ht : Books .releasing 0 (t.modifySlot i ({ · with waiting := true })) :=
    hg.books.modifySlot (fun _ _ => rfl) fun _ _ _ _ => rfl
  have heq : t.slotRelease i =
      (t.modifySlot i ({ · with waiting := true })).request (.terminationSubtract (.rtp i)) := by
    unfold slotRelease
    rw [hl]
    dsimp only
    rw [hr]
  rw [heq]
  refine ⟨hg.requestSlot hl ⟨rfl, rfl⟩ (fun hm => Nat.lt_irrefl i (hf i hm)) rfl rfl
    (by simp [acquires]), hln, ?_, fun j hm => ?_, fun resource hm => ?_⟩
  · exact (length_modify _ _ _).trans hs
  · rcases mem_flags_request.1 hm with ho | hn
    · exact Nat.lt_succ_of_lt (hf j ho)
    · obtain rfl : i = j := by simpa [awaits] using hn
      exact Nat.lt_succ_self i
  · rw [ht.held_request rfl, mem_heldAfter] at hm
    obtain ⟨ho | hn, hk⟩ := hm
    · obtain ⟨j, rfl, hle⟩ := hh resource ho
      refine ⟨j, rfl, Nat.lt_of_le_of_ne hle ?_⟩
      rintro rfl
      exact hk rfl
    · simp [acquires] at hn

/-! ## The termination -/

theorem terminateProcess_going (h : Books .deactivating 0 s) (ho : s.outstanding = []) :
    ∃ t, Going M .releasing s.terminating t ∧ t.channels.length = s.channels.length ∧ t.held = [] ∧
      s.terminateProcess W = if t.subrequestCount = 0 then t.terminateSend else t := by
  have hse : Books .releasing 0 (s.see .release) :=
    (h.see .releasing .release (by simp [Account.step, ho]) (Or.inl ho)).1
  have hs : Releasing M s.terminating 0 s.terminating := by
    refine ⟨⟨hse.stateSet ho .terminating, Kept.refl _⟩, rfl, fun w hm => ?_, fun resource _ => ?_⟩
    · simp [Session.flags, terminating, stateSet, see, ho] at hm
    · cases resource with
      | control j => exact Nat.zero_le j
      | media termination =>
        cases termination with
        | rtp j => exact trivial
        | engine j => exact Nat.zero_le j
  have hrs : Releasing M s.terminating 0
      (if s.terminating.context then s.terminating.request .resetAssociations else s.terminating) := by
    split_ifs
    · refine ⟨hs.going.request_plain .resetAssociations rfl rfl rfl, rfl, fun w hm => ?_, fun resource hm => ?_⟩
      · rcases mem_flags_request.1 hm with hl | hw
        · exact hs.flags w hl
        · simp [awaits] at hw
      · rw [hs.going.books.held_request rfl, mem_heldAfter] at hm
        obtain ⟨hl | hw, -⟩ := hm
        · exact hs.held resource hl
        · simp [acquires] at hw
    · exact hs
  obtain ⟨t, ht, hr⟩ : ∃ t, (if s.terminating.context then s.terminating.request .resetAssociations
      else s.terminating) = t ∧ Releasing M s.terminating 0 t := ⟨_, rfl, hrs⟩
  have hc : Releasing M s.terminating t.channels.length
      ((List.range t.channels.length).foldl (channelRelease W) t) :=
    foldl_range_invariant (fun i u => Releasing M s.terminating i u) _ hr fun i u hi hu =>
      channelRelease_releasing hu (hr.length ▸ hi)
  obtain ⟨u, hu, hc⟩ : ∃ u, (List.range t.channels.length).foldl (channelRelease W) t = u ∧
      Releasing M s.terminating t.channels.length u := ⟨_, rfl, hc⟩
  have hsl : SlotsReleasing M s.terminating u.terminations.length 0 u := by
    refine ⟨hc.going, hc.length, rfl, fun j hm => (hc.flags _ hm).elim, fun resource hm => ?_⟩
    have hb := hc.held resource hm
    have hh := hc.going.books.held resource hm
    have hln : t.channels.length = u.channels.length := hr.length.trans hc.length.symm
    cases resource with
    | control j =>
      have hn : u.channels[j]? = none := List.getElem?_eq_none (hln ▸ hb)
      simp [has, hn] at hh
    | media termination =>
      cases termination with
      | rtp j => exact ⟨j, rfl, Nat.zero_le j⟩
      | engine j =>
        have hn : u.channels[j]? = none := List.getElem?_eq_none (hln ▸ hb)
        simp [has, hn] at hh
  have ha : SlotsReleasing M s.terminating u.terminations.length u.terminations.length
      ((List.range u.terminations.length).foldl slotRelease u) :=
    foldl_range_invariant (fun i v => SlotsReleasing M s.terminating u.terminations.length i v) _ hsl
      fun i v hi hv => slotRelease_releasing hv hi
  refine ⟨(List.range u.terminations.length).foldl slotRelease u, ha.going, ha.length, ?_, ?_⟩
  · refine eq_nil_iff_forall_not_mem.2 fun resource hm => ?_
    obtain ⟨j, rfl, hle⟩ := ha.held resource hm
    have hh := ha.going.books.held _ hm
    have hn : ((List.range u.terminations.length).foldl slotRelease u).terminations[j]? = none :=
      List.getElem?_eq_none (Nat.le_trans (Nat.le_of_eq ha.slots) hle)
    simp [has, hn] at hh
  · rw [← hu, ← ht]
    rfl

end UniMrcp.MrcpServer
