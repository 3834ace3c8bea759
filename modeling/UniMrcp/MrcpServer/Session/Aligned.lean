import UniMrcp.MrcpServer.Session.Changes
import UniMrcp.MrcpServer.Session.Steps

/-!
# Positions of channels and of control media

A session reads the offer by the position of a channel in its own array, and fills the answer by the position that the
channel was created for.
-/

namespace UniMrcp.MrcpServer

open Apt Lib MrcpEngine List Option Session SessionDescriptor
open List (getElem?_map range length)
open Option (mem_some_iff mem_def some.inj isSome_iff_exists any_eq_true isSome)

variable {κ σ μ ε D : Type} {M : κ → StateMachine σ μ ε D} {P : Profile κ} {W : Environment}
  {s t u : Session κ σ μ ε D}

/-! ## What operations keep -/

/-- **What the operations of a session keep** of channels, offer and answer, and the subrequests that control channels
answer. -/
structure Continues (s t : Session κ σ μ ε D) : Prop where
  ids : t.ids = s.ids
  offer : t.offer.map SessionDescriptor.resourceNames = s.offer.map SessionDescriptor.resourceNames
  answer : ∀ answer' ∈ t.answer, ∃ answer ∈ s.answer, Fills answer answer'
  last : t.lastOffer = s.lastOffer ∧ t.lastAnswer = s.lastAnswer
  outstanding : ∀ subrequest ∈ s.outstanding, subrequest.answers.isSome → subrequest ∈ t.outstanding

theorem Continues.same (hi : t.ids = s.ids) (hf : t.offer = s.offer) (ha : t.answer = s.answer)
    (hl : t.lastOffer = s.lastOffer ∧ t.lastAnswer = s.lastAnswer) (ho : t.outstanding = s.outstanding) :
    Continues s t :=
  ⟨hi, by rw [hf], fun answer' h => ⟨answer', ha ▸ h, Fills.refl answer'⟩, hl,
    fun subrequest h _ => ho ▸ h⟩

theorem Continues.refl (s : Session κ σ μ ε D) : Continues s s := Continues.same rfl rfl rfl ⟨rfl, rfl⟩ rfl

theorem Continues.trans (h : Continues s t) (h' : Continues t u) : Continues s u := by
  refine ⟨h'.ids.trans h.ids, h'.offer.trans h.offer, fun answer'' hm => ?_,
    ⟨h'.last.1.trans h.last.1, h'.last.2.trans h.last.2⟩, fun subrequest hm hs => ?_⟩
  · obtain ⟨answer', ha', hf'⟩ := h'.answer answer'' hm
    obtain ⟨answer, ha, hf⟩ := h.answer answer' ha'
    exact ⟨answer, ha, hf.trans hf'⟩
  · exact h'.outstanding subrequest (h.outstanding subrequest hm hs) hs

@[simp] theorem Session.ids_modifyChannel (s : Session κ σ μ ε D) (i : Nat) {f : Channel κ σ μ D → Channel κ σ μ D}
    (hf : ∀ channel, (f channel).id = channel.id) : (s.modifyChannel i f).ids = s.ids := by
  refine ext_getElem? fun j => ?_
  unfold Session.ids
  rw [getElem?_map, getElem?_map, getElem?_modifyChannel]
  split_ifs
  · cases s.channels[j]? <;> simp [hf]
  · rfl

variable {f : SessionDescriptor → SessionDescriptor}

theorem modifyAnswer_continues (s : Session κ σ μ ε D) (hf : ∀ answer, Fills answer (f answer)) :
    Continues s (s.modifyAnswer f) := by
  cases ha : s.answer with
  | none =>
    unfold modifyAnswer
    rw [ha]
    exact Continues.same rfl rfl ha.symm ⟨rfl, rfl⟩ rfl
  | some answer =>
    unfold modifyAnswer
    rw [ha]
    refine ⟨rfl, rfl, fun answer' hm => ⟨answer, ha, ?_⟩, ⟨rfl, rfl⟩, fun _ h _ => h⟩
    obtain rfl := mem_some_iff.1 hm
    exact hf answer

theorem modifyOffer_continues (s : Session κ σ μ ε D)
    (hf : ∀ offer ∈ s.offer, (f offer).resourceNames = offer.resourceNames) : Continues s (s.modifyOffer f) := by
  refine ⟨rfl, ?_, fun answer' h => ⟨answer', h, Fills.refl answer'⟩, ⟨rfl, rfl⟩, fun _ h _ => h⟩
  show (s.offer.map f).map _ = _
  cases ho : s.offer with
  | none => rfl
  | some offer => exact congrArg some (hf offer ho)

variable {progress : Progress}

theorem Changes.continues (h : Changes progress s t) : Continues s t := by
  induction h with
  | refl => exact Continues.refl s
  | same _ hu ih =>
    simp only [Session.matter, Prod.mk.injEq] at hu
    obtain ⟨hc, -, ho, ha, hlo, hla, -, -, -, -, hs⟩ := hu
    exact ih.trans (Continues.same (congrArg (map Channel.id) hc) ho ha ⟨hlo, hla⟩ hs)
  | request _ subrequest _ _ ih =>
    refine ih.trans ⟨rfl, rfl, fun answer ha => ⟨answer, ha, Fills.refl answer⟩, ⟨rfl, rfl⟩, ?_⟩
    exact fun _ hm _ => mem_append_left _ hm
  | complete _ subrequest hn ih =>
    refine ih.trans ⟨rfl, rfl, fun answer ha => ⟨answer, ha, Fills.refl answer⟩, ⟨rfl, rfl⟩, fun x hm hs => ?_⟩
    refine (mem_erase_of_ne fun heq => ?_).2 hm
    rw [heq, hn] at hs
    simp at hs
  | modifyChannel _ i f hf ih =>
    refine ih.trans (Continues.same (ids_modifyChannel _ i fun channel => ?_) rfl rfl ⟨rfl, rfl⟩ rfl)
    exact congrArg (fun badge => badge.2.1) (hf channel)
  | modifyAnswer _ f hf ih => exact ih.trans (modifyAnswer_continues _ hf)
  | modifyOffer _ f hf ih => exact ih.trans (modifyOffer_continues _ fun offer _ => hf offer)
  | engineSet _ i calls _ _ _ ih =>
    exact ih.trans (Continues.same (ids_modifyChannel _ i fun _ => rfl) rfl rfl ⟨rfl, rfl⟩ rfl)
  | see _ _ _ ih | modifySlot _ _ _ _ ih | pushSlot _ _ _ ih | stateSet _ _ _ _ ih =>
    exact ih.trans (Continues.same rfl rfl rfl ⟨rfl, rfl⟩ rfl)

theorem terminateSend_continues (s : Session κ σ μ ε D) : Continues s s.terminateSend := by
  refine Continues.same ?_ rfl rfl ⟨rfl, rfl⟩ rfl
  simp [Session.ids, terminateSend, see, Function.comp_def]

theorem terminateProcess_continues (s : Session κ σ μ ε D) : Continues s (s.terminateProcess W) := by
  obtain ⟨t, u, ht, hc, heq⟩ := terminateProcess_changes (W := W) s
  have hs : Continues s s.terminating := Continues.same rfl rfl rfl ⟨rfl, rfl⟩ rfl
  have hu : Continues s u := by
    refine Continues.trans ?_ hc.continues
    rcases ht with rfl | rfl
    · exact hs
    · exact hs.trans (Changes.refl.request _ (Or.inl rfl) nofun : Changes .offering _ _).continues
  rw [heq]
  split_ifs
  · exact hu.trans (terminateSend_continues u)
  · exact hu

/-! ## Alignment -/

/-- An answer has a control media for each of its offer, and there is a channel for each. -/
def Covers (channels : Nat) (offer answer : SessionDescriptor) : Prop :=
  answer.controlMediaArr.length = offer.controlMediaArr.length ∧ offer.controlMediaArr.length ≤ channels ∧
    ∀ i < offer.controlMediaArr.length, answer.answered i

/-- **The channels are at their own positions**, and each of the first control media has a channel, and one in the
answer or a subrequest that gives it one. -/
structure AlignedBelow (n : Nat) (s : Session κ σ μ ε D) : Prop where
  positions : s.ids = List.range s.ids.length
  promised : ∀ offer ∈ s.offer, ∀ answer ∈ s.answer,
    answer.controlMediaArr.length = offer.controlMediaArr.length ∧ ∀ i < n, i < offer.controlMediaArr.length →
      i < s.ids.length ∧ (answer.answered i ∨ ∃ subrequest ∈ s.outstanding, subrequest.answers = some i)
  last : ∀ offer ∈ s.lastOffer, ∀ answer ∈ s.lastAnswer, Covers s.ids.length offer answer

def Session.Aligned (s : Session κ σ μ ε D) : Prop := ∀ n, AlignedBelow n s

def Session.Unanswered (s : Session κ σ μ ε D) : Prop := ∀ subrequest ∈ s.outstanding, subrequest.answers = none

theorem length_resourceNames (descriptor : SessionDescriptor) :
    descriptor.resourceNames.length = descriptor.controlMediaArr.length := by simp [resourceNames]

theorem Continues.offer_length (h : Continues s t) {offer' : SessionDescriptor} (ho : offer' ∈ t.offer) :
    ∃ offer ∈ s.offer, offer'.controlMediaArr.length = offer.controlMediaArr.length := by
  have hm := h.offer
  rw [mem_def.1 ho, map_some, eq_comm, map_eq_some_iff] at hm
  obtain ⟨offer, hmm, heq⟩ := hm
  refine ⟨offer, hmm, ?_⟩
  rw [← length_resourceNames, ← heq, length_resourceNames]

variable {n : Nat}

theorem AlignedBelow.continues (h : AlignedBelow n s) (he : Continues s t) : AlignedBelow n t := by
  obtain ⟨hp, hr, hls⟩ := h
  refine ⟨by rw [he.ids]; exact hp, fun offer' ho' answer' ha' => ?_, ?_⟩
  · obtain ⟨offer, ho, hl⟩ := he.offer_length ho'
    obtain ⟨answer, ha, hf⟩ := he.answer answer' ha'
    obtain ⟨hsm, ht⟩ := hr offer ho answer ha
    refine ⟨by rw [hf.1, hl, hsm], fun i hi hi' => ?_⟩
    obtain ⟨hc, hn⟩ := ht i hi (hl ▸ hi')
    refine ⟨he.ids ▸ hc, ?_⟩
    rcases hn with hh | ⟨subrequest, hm, hs⟩
    · exact Or.inl (hf.2 i hh)
    · exact Or.inr ⟨subrequest, he.outstanding subrequest hm (by simp [hs]), hs⟩
  · rw [he.last.1, he.last.2, he.ids]
    exact hls

theorem Session.Aligned.continues (h : s.Aligned) (he : Continues s t) : t.Aligned := fun n => (h n).continues he

variable {channel : Channel κ σ μ D}

theorem AlignedBelow.id_eq (h : AlignedBelow n s) {i : Nat} (hc : s.channels[i]? = some channel) :
    channel.id = i := by
  have hi : s.ids[i]? = some channel.id := by
    unfold Session.ids
    rw [getElem?_map, hc]
    rfl
  have hlt : i < s.ids.length := (List.getElem?_eq_some_iff.1 hi).1
  rw [h.positions, List.getElem?_range hlt] at hi
  exact (some.inj hi).symm

theorem answerSend_aligned (h : s.Aligned) (ht : s.Unanswered) : s.answerSend.Aligned := by
  cases ha : s.answer with
  | none =>
    unfold answerSend
    rw [ha]
    exact h.continues (Continues.same rfl rfl ha.symm ⟨rfl, rfl⟩ rfl)
  | some answer =>
    unfold answerSend
    rw [ha]
    refine fun n => ⟨(h 0).positions, fun offer ho => ?_, fun offer ho answer' ha' => ?_⟩
    · exact absurd (show offer ∈ (none : Option SessionDescriptor) from ho) (by simp)
    · have ho : offer ∈ s.offer := ho
      have ha' : answer' ∈ s.answer := ha ▸ ha'
      obtain ⟨hsm, he⟩ := (h offer.controlMediaArr.length).promised offer ho answer' ha'
      refine ⟨hsm, Nat.le_of_not_lt fun hlt => ?_, fun i hi => ?_⟩
      · have hl := (he s.ids.length hlt hlt).1
        omega
      · rcases (he i hi hi).2 with hh | ⟨subrequest, hm, hs⟩
        · exact hh
        · rw [ht subrequest hm] at hs
          simp at hs

/-! ## The end of a phase -/

theorem Changes.unanswered (h : Changes .working s t) (hs : s.Unanswered) : t.Unanswered := by
  induction h with
  | same _ hu ih =>
    simp only [Session.matter, Prod.mk.injEq] at hu
    obtain ⟨-, -, -, -, -, -, -, -, -, -, ho⟩ := hu
    unfold Session.Unanswered
    rw [ho]
    exact ih
  | request _ subrequest _ hn ih =>
    intro x hm
    rcases mem_append.1 hm with ho | hx
    · exact ih x ho
    · rw [mem_singleton.1 hx]
      exact hn rfl
  | complete _ subrequest _ ih => exact fun x hm => ih x (mem_of_mem_erase hm)
  | modifyAnswer _ f _ ih =>
    unfold Session.modifyAnswer
    split <;> exact ih
  | refl => exact hs
  | _ => assumption

theorem engineChannelsUpdate_aligned (h : s.Aligned) (ht : s.Unanswered) : (s.engineChannelsUpdate P W).Aligned := by
  cases ho : s.offer with
  | none =>
    unfold engineChannelsUpdate
    rw [ho]
    exact h
  | some descriptor =>
    obtain ⟨t, hc, heq⟩ := engineChannelsUpdate_changes (P := P) (W := W) s (by simp [ho])
    rw [heq]
    split_ifs
    · exact answerSend_aligned (h.continues hc.continues) (hc.unanswered ht)
    · exact h.continues hc.continues

/-! ## Completion -/

theorem subrequestRemove_aligned (h : s.Aligned) (hc : s.subrequestCount = s.outstanding.length + 1) :
    (s.subrequestRemove P W).Aligned := by
  obtain ⟨u, hu⟩ : ∃ u, u = ({ s with subrequestCount := s.subrequestCount - 1 } : Session κ σ μ ε D) := ⟨_, rfl⟩
  have ha : u.Aligned := by
    rw [hu]
    exact h.continues (Continues.same rfl rfl rfl ⟨rfl, rfl⟩ rfl)
  unfold subrequestRemove
  rw [if_neg (by omega), ← hu]
  dsimp only
  split_ifs with hz
  · exact ha
  · have ho : u.Unanswered := by
      have hc' : u.subrequestCount = u.outstanding.length := by
        rw [hu]
        show s.subrequestCount - 1 = s.outstanding.length
        omega
      have hn : u.outstanding = [] := length_eq_zero_iff.1 (by omega)
      intro x hm
      simp [hn] at hm
    cases u.state with
    | none => exact ha
    | generatingAnswer => exact engineChannelsUpdate_aligned ha ho
    | initializing => exact answerSend_aligned ha ho
    | deactivating => exact ha.continues (terminateProcess_continues u)
    | terminating => exact ha.continues (terminateSend_continues u)

theorem Session.Aligned.answered (h : s.Aligned) {i : Nat} (hi : t.ids = s.ids)
    (hf : t.offer = s.offer) (hl : t.lastOffer = s.lastOffer ∧ t.lastAnswer = s.lastAnswer)
    (ha : ∀ answer' ∈ t.answer, ∃ answer ∈ s.answer, ∃ media, answer' = answer.controlMediaSet i media)
    (ho : ∀ subrequest ∈ s.outstanding, subrequest.answers ≠ some i → subrequest ∈ t.outstanding) : t.Aligned := by
  intro n
  obtain ⟨hp, hr, hc⟩ := h n
  refine ⟨by rw [hi]; exact hp, fun offer hm answer' ha' => ?_, ?_⟩
  · obtain ⟨answer, hh, media, rfl⟩ := ha answer' ha'
    obtain ⟨hsm, ht⟩ := hr offer (hf ▸ hm) answer hh
    obtain ⟨hln, hfl⟩ := Fills.controlMediaSet answer i media
    refine ⟨hln.trans hsm, fun j hj hj' => ?_⟩
    obtain ⟨hch, he⟩ := ht j hj hj'
    refine ⟨hi ▸ hch, ?_⟩
    by_cases hij : i = j
    · left
      subst hij
      unfold SessionDescriptor.answered controlMediaGet controlMediaSet
      rw [List.getElem?_set_self (by omega)]
      rfl
    · rcases he with hd | ⟨subrequest, hs, hn⟩
      · exact Or.inl (hfl j hd)
      · exact Or.inr ⟨subrequest, ho subrequest hs (by simpa [hn] using Ne.symm hij), hn⟩
  · rw [hl.1, hl.2, hi]
    exact hc

theorem onChannelModify_aligned (h : s.Aligned) (hn : s.subrequestCount = s.outstanding.length)
    (ha : s.answer.isSome) {i : Nat} (han : subrequest.answers = some i)
    (hm : subrequest ∈ s.outstanding) (hw : s.waits (.control i)) {media : Option ControlDescriptor}
    (hd : media.isSome) : ((s.complete subrequest).onChannelModify P W i media).Aligned := by
  obtain ⟨media, rfl⟩ := isSome_iff_exists.1 hd
  obtain ⟨channel, hc, hwa⟩ := (any_eq_true _ _).1 hw
  have hc' : (s.complete subrequest).channels[i]? = some channel := hc
  have hl : (s.outstanding.erase subrequest).length + 1 = s.outstanding.length := by
    rw [length_erase_of_mem hm]
    have := length_pos_of_mem hm
    omega
  unfold onChannelModify
  rw [hc']
  dsimp only
  rw [if_pos hwa, (h 0).id_eq hc]
  refine (modifyAnswer_eq (s := (s.complete subrequest).modifyChannel i _) ha _).symm ▸ ?_
  refine subrequestRemove_aligned (h.answered (i := i) ?_ rfl ⟨rfl, rfl⟩ ?_ ?_) (hn.trans hl.symm)
  · exact ids_modifyChannel (s.complete subrequest) i fun _ => rfl
  · intro answer' ha'
    obtain ⟨answer, ht, rfl⟩ := Option.map_eq_some_iff.1 (mem_def.1 ha')
    exact ⟨answer, ht, _, rfl⟩
  · intro other ho hne
    refine (mem_erase_of_ne fun heq => ?_).2 ho
    exact hne (heq ▸ han)

theorem Session.Aligned.removes (h : s.Aligned) (hc : s.subrequestCount = s.outstanding.length + 1)
    (hr : Removes P W s u) : u.Aligned := by
  obtain ⟨t, ht, hl, rfl | rfl⟩ := hr
  · exact h.continues ht.continues
  · refine subrequestRemove_aligned (h.continues ht.continues) ?_
    simp only [Session.ledger, Prod.mk.injEq] at hl
    rw [hl.1, hl.2.1, hc]

variable {T : Terms M} {i : Nat}

/-- **A subrequest is completed.** -/
theorem onCompletion_aligned (h : Accounted T 0 [] 0 s) (ha : s.Aligned) {result : Result}
    (hm : subrequest ∈ s.outstanding) (hr : subrequest.answeredBy result) :
    ((s.complete subrequest).onCompletion P W result subrequest).Aligned := by
  obtain ⟨phase, hb, -⟩ := h.sound.counted
  have hl : (s.outstanding.erase subrequest).length + 1 = s.outstanding.length := by
    rw [length_erase_of_mem hm]
    have := length_pos_of_mem hm
    omega
  have hc : (s.complete subrequest).subrequestCount = (s.complete subrequest).outstanding.length + 1 :=
    hb.count.trans hl.symm
  have ht : ∀ w, subrequest.awaits = some w → s.waits w := fun w hw =>
    hb.waits w (mem_filterMap.2 ⟨subrequest, hm, hw⟩)
  have ho : subrequest.answers = none →
      ((s.complete subrequest).onCompletion P W result subrequest).Aligned := fun hn =>
    (ha.continues (Changes.refl.complete subrequest hn : Changes .still _ _).continues).removes hc
      (onCompletion_removes _ result subrequest)
  cases subrequest with
  | controlAdd i =>
    refine onChannelModify_aligned ha hb.count (h.answer hm fun phase hp => ?_)
      rfl hm (ht _ rfl) hr
    cases phase <;> simp_all [Phase.starts]
  | controlModify i =>
    refine onChannelModify_aligned ha hb.count (h.answer hm fun phase hp => ?_)
      rfl hm (ht _ rfl) hr
    cases phase <;> simp_all [Phase.starts]
  | _ => exact ho rfl

/-! ## State machines -/

theorem state_onDispatch (s : Session κ σ μ ε D) {output : Output μ ε D} (h : output.isDeactivated = false) :
    (s.onDispatch P W i output).state = s.state := by
  unfold onDispatch
  dsimp only
  split
  · split_ifs <;> rfl
  · rfl
  · cases h
  · rfl

theorem deactivated_aligned (h : s.Aligned) (hs : s.state = .deactivating) :
    (s.onDispatch P W i .deactivated).Aligned := by
  have hc : ((s.see (.out i .deactivated)).complete (.deactivate i)).Aligned :=
    h.continues (((Changes.refl.see _ rfl).complete _ rfl : Changes .still _ _).continues)
  show (((s.see (.out i .deactivated)).complete (.deactivate i)).subrequestRemove P W).Aligned
  obtain ⟨u, hu⟩ : ∃ u, u = (s.see (.out i .deactivated)).complete (.deactivate i) := ⟨_, rfl⟩
  have hs' : u.state = .deactivating := by rw [hu]; exact hs
  rw [← hu] at hc ⊢
  unfold subrequestRemove
  rw [hs']
  split_ifs
  · exact hc
  · dsimp only
    split_ifs
    · exact hc.continues (Continues.same rfl rfl rfl ⟨rfl, rfl⟩ rfl)
    · refine hc.continues (Continues.trans ?_ (terminateProcess_continues _))
      exact Continues.same rfl rfl rfl ⟨rfl, rfl⟩ rfl

theorem outputs_aligned {due : Due} {out : List (Output μ ε D)} (h : s.Aligned)
    (hd : due = .deactivation → s.state = .deactivating) (ha : (due.after out).isSome) :
    (out.foldl (onDispatch P W i) s).Aligned := by
  induction out generalizing s due with
  | nil => exact h
  | cons output out ih =>
    rw [foldl_cons]
    obtain ⟨due', hl⟩ := isSome_iff_exists.1 ha
    obtain ⟨next, hs, hr⟩ := Due.after_cons hl
    have hx : next = .deactivation → due = .deactivation := by
      intro hx
      cases output <;> cases due <;> simp_all [Due.step]
    cases ho : output.isDeactivated with
    | false =>
      exact ih (h.continues (onDispatch_changes s i ho).continues)
        (fun hn => (state_onDispatch s ho).trans (hd (hx hn))) (by rw [hr]; rfl)
    | true =>
      obtain rfl : output = .deactivated := by
        cases output <;> simp_all [Output.isDeactivated]
      obtain ⟨rfl, rfl⟩ : due = .deactivation ∧ next = .ended := by
        cases due <;> simp [Due.step] at hs
        exact ⟨rfl, hs.symm⟩
      refine ih (deactivated_aligned h (hd rfl)) (fun he : Due.ended = .deactivation => ?_) (by rw [hr]; rfl)
      cases he

theorem settle_aligned (due : Due) {r : Option (Handled σ μ ε D)} (h : s.Aligned)
    (hd : due = .deactivation → s.state = .deactivating)
    (ha : ∀ handled ∈ r, (due.after handled.out).isSome) : (s.settle P W i r).Aligned := by
  cases r with
  | none => exact h.continues (Continues.same rfl rfl rfl ⟨rfl, rfl⟩ rfl)
  | some r =>
    exact outputs_aligned (h.continues (Changes.refl.modifyChannel i _ fun _ => by rfl : Changes .still _ _).continues) hd (ha r rfl)

theorem machineDeactivate_aligned (h : s.Aligned)
    (hq : ∀ m r, s.machine i = some m → (M m.kind).deactivate m.machine = some r →
      ∀ output ∈ r.out, isQuiet output) :
    (s.machineDeactivate M P W i).Aligned := by
  unfold machineDeactivate
  cases hm : s.machine i with
  | none => exact h
  | some m =>
    have hs : (s.settle P W i ((M m.kind).deactivate m.machine)).Aligned := by
      refine settle_aligned .nothing h nofun fun r hr => ?_
      rw [Due.after_quiet _ (hq m r hm hr)]
      rfl
    dsimp only
    split_ifs
    · exact hs.continues (Changes.refl.request _ (Or.inr rfl) fun _ => rfl : Changes .still _ _).continues
    · exact hs

/-! ## Offers -/

theorem AlignedBelow.succ (h : AlignedBelow n s)
    (hn : ∀ offer ∈ s.offer, ∀ answer ∈ s.answer, n < offer.controlMediaArr.length →
      n < s.ids.length ∧ (answer.answered n ∨ ∃ subrequest ∈ s.outstanding, subrequest.answers = some n)) :
    AlignedBelow (n + 1) s := by
  obtain ⟨hp, hr, hl⟩ := h
  refine ⟨hp, fun offer ho answer ha => ?_, hl⟩
  obtain ⟨hs, he⟩ := hr offer ho answer ha
  refine ⟨hs, fun i hi hi' => ?_⟩
  rcases Nat.lt_succ_iff_lt_or_eq.1 hi with hlt | rfl
  · exact he i hlt hi'
  · exact hn offer ho answer ha hi'

theorem controlMediaReject_answered {id : Nat} {control : ControlDescriptor} {answer : SessionDescriptor}
    (h : answer ∈ (s.controlMediaReject id control).answer) (hid : id < answer.controlMediaArr.length) :
    answer.answered id := by
  unfold controlMediaReject modifyAnswer at h
  cases ha : s.answer with
  | none =>
    rw [ha] at h
    simp at h
  | some before =>
    rw [ha] at h
    obtain rfl := mem_some_iff.1 h
    unfold answered controlMediaGet controlMediaSet at *
    rw [List.getElem?_set_self (by simpa using hid)]
    rfl

theorem controlMediaModify_aligned {i : Nat} (h : AlignedBelow i s) (hi : i < s.ids.length)
    (hm : ∀ offer ∈ s.offer, i < offer.controlMediaArr.length → offer.answered i) :
    AlignedBelow (i + 1) (s.controlMediaModify i) := by
  have hc := (controlMediaModify_changes s i).continues
  refine (h.continues hc).succ fun offer ho answer ha hlt => ⟨hc.ids ▸ hi, ?_⟩
  obtain ⟨offer', ho', hl⟩ := hc.offer_length ho
  obtain ⟨control, ht⟩ := isSome_iff_exists.1 (hm offer' ho' (hl ▸ hlt))
  obtain ⟨channel, hh⟩ : ∃ channel, s.channels[i]? = some channel :=
    isSome_iff_exists.1 (by simpa [Session.ids] using hi)
  have hs : answer.controlMediaArr.length = offer.controlMediaArr.length :=
    ((h.continues hc).promised offer ho answer ha).1
  have hg : (s.modifyChannel i ({ · with waitingForChannel := false })).offer.bind (·.controlMediaGet i) =
      some control := by
    show s.offer.bind _ = _
    rw [mem_def.1 ho']
    exact ht
  unfold controlMediaModify at ha ⊢
  rw [hh] at ha ⊢
  dsimp only at ha ⊢
  rw [hg] at ha ⊢
  split_ifs at ha ⊢ with hco
  · exact Or.inr ⟨.controlModify i, mem_append_right _ (mem_singleton_self _), rfl⟩
  · rw [h.id_eq hh] at ha
    exact Or.inl (controlMediaReject_answered ha (by omega))

theorem AlignedBelow.push (h : AlignedBelow n s) (hid : channel.id = s.ids.length) :
    AlignedBelow n (s.pushChannel channel) := by
  obtain ⟨hp, hr, hls⟩ := h
  have hd : (s.pushChannel channel).ids = s.ids ++ [channel.id] := by
    simp [Session.ids, pushChannel]
  have hl : (s.pushChannel channel).ids.length = s.ids.length + 1 := by rw [hd, length_append]; rfl
  refine ⟨?_, fun offer ho answer ha => ?_, fun offer ho answer ha => ?_⟩
  · rw [hl, hd, hid, range_succ, ← hp]
  · obtain ⟨hs, he⟩ := hr offer ho answer ha
    refine ⟨hs, fun i hi hi' => ⟨?_, (he i hi hi').2⟩⟩
    have := (he i hi hi').1
    omega
  · obtain ⟨hs, hle, hn⟩ := hls offer ho answer ha
    exact ⟨hs, by omega, hn⟩

theorem channelCreate_continues (s : Session κ σ μ ε D) (resourceName : Bytes) (id : Nat)
    (cmidArr : Option (List Nat)) : Continues s (s.channelCreate M P W resourceName id cmidArr).1 := by
  have hs : ∀ status : SessionStatus, Continues s (s.modifyAnswer ({ · with status := status })) := fun status =>
    modifyAnswer_continues s fun answer => ⟨rfl, fun _ hi => hi⟩
  unfold channelCreate
  split_ifs
  · dsimp only
    split_ifs
    · exact Continues.same rfl rfl rfl ⟨rfl, rfl⟩ rfl
    · exact hs _
  · exact hs _

theorem channelCreate_some (s : Session κ σ μ ε D) {resourceName : Bytes} (id : Nat) (cmidArr : Option (List Nat))
    (h : P.resourceFind resourceName) :
    ∃ channel, (s.channelCreate M P W resourceName id cmidArr).2 = some channel ∧ channel.id = id := by
  unfold channelCreate
  rw [if_pos h]
  exact ⟨_, rfl, rfl⟩

/-- The control media of the offers that a session can take: one for each position, and from a position on of resources
that there are. -/
def Session.Offered (P : Profile κ) (i : Nat) (s : Session κ σ μ ε D) : Prop :=
  ∀ offer ∈ s.offer, offer.resourceNames.all Option.isSome ∧
    (offer.resourceNames.drop i).all (fun name => name.any P.resourceFind) = true

theorem Session.Offered.continues {j : Nat} (h : s.Offered P j) (hc : Continues s t) : t.Offered P j := by
  intro offer' ho'
  have hm := hc.offer
  rw [mem_def.1 ho', map_some, eq_comm, map_eq_some_iff] at hm
  obtain ⟨offer, hmm, heq⟩ := hm
  rw [← heq]
  exact h offer hmm

theorem Session.Offered.mono {i j : Nat} (h : s.Offered P i) (hi : i ≤ j) : s.Offered P j := by
  intro offer ho
  obtain ⟨ha, hd⟩ := h offer ho
  refine ⟨ha, all_eq_true.2 fun name hn => all_eq_true.1 hd name ?_⟩
  obtain ⟨k, rfl⟩ := Nat.exists_eq_add_of_le hi
  rw [← drop_drop] at hn
  exact mem_of_mem_drop hn

variable {offer : SessionDescriptor}

theorem resourceNames_controlMediaSet {i : Nat} {control : ControlDescriptor}
    (h : offer.resourceNames[i]? = some (some control.resourceName)) :
    (offer.controlMediaSet i control).resourceNames = offer.resourceNames := by
  unfold resourceNames controlMediaSet at *
  rw [map_set]
  refine ext_getElem? fun j => ?_
  rw [List.getElem?_set]
  split_ifs with hi hlt
  · rw [← hi, h]
    rfl
  · rw [← hi, List.getElem?_eq_none (by omega)]
  · rfl

theorem Session.Offered.control {i : Nat} (h : s.Offered P i) (ho : s.offer = some offer)
    (hi : i < offer.controlMediaArr.length) : ∃ control, offer.controlMediaGet i = some control ∧
      offer.resourceNames[i]? = some (some control.resourceName) ∧ P.resourceFind control.resourceName := by
  obtain ⟨ha, hd⟩ := h offer ho
  obtain ⟨media, hm⟩ : ∃ media, offer.controlMediaArr[i]? = some media := ⟨_, List.getElem?_eq_getElem hi⟩
  have hn : offer.resourceNames[i]? = some (media.map ControlDescriptor.resourceName) := by
    unfold resourceNames
    rw [getElem?_map, hm]
    rfl
  have hf : (media.map ControlDescriptor.resourceName).any P.resourceFind := by
    refine all_eq_true.1 hd _ (mem_of_getElem? (i := 0) ?_)
    rw [List.getElem?_drop]
    exact hn
  cases media with
  | none => simp at hf
  | some control =>
    refine ⟨control, ?_, hn, by simpa using hf⟩
    unfold controlMediaGet
    rw [hm]
    rfl

theorem controlMediaAnswer_aligned {i : Nat} (h : AlignedBelow i s) (hi : i < s.ids.length) (hid : channel.id = i)
    (control : ControlDescriptor) :
    AlignedBelow (i + 1) (if channel.controlChannel then
        (s.modifyChannel i ({ · with waitingForChannel := true })).request (.controlAdd i)
      else s.controlMediaReject channel.id control) ∧
    Continues s (if channel.controlChannel then
        (s.modifyChannel i ({ · with waitingForChannel := true })).request (.controlAdd i)
      else s.controlMediaReject channel.id control) := by
  split_ifs
  · have hc : Continues s ((s.modifyChannel i ({ · with waitingForChannel := true })).request (.controlAdd i)) :=
      ((Changes.refl.modifyChannel i _ fun _ => by rfl).request _ (Or.inl rfl) nofun : Changes .offering _ _).continues
    refine ⟨(h.continues hc).succ fun offer ho answer ha _ => ⟨hc.ids ▸ hi, ?_⟩, hc⟩
    exact Or.inr ⟨.controlAdd i, mem_append_right _ (mem_singleton_self _), rfl⟩
  · rw [hid]
    have hc := (controlMediaReject_changes s i control : Changes .offering _ _).continues
    refine ⟨(h.continues hc).succ fun offer ho answer ha hlt => ⟨hc.ids ▸ hi, ?_⟩, hc⟩
    have hs := ((h.continues hc).promised offer ho answer ha).1
    exact Or.inl (controlMediaReject_answered ha (by omega))

theorem controlMediaAdd_aligned {i : Nat} (h : AlignedBelow i s) (hd : s.ids.length = i) (hf : s.Offered P i)
    (ho : s.offer = some offer) (hi : i < offer.controlMediaArr.length) :
    AlignedBelow (i + 1) (s.controlMediaAdd M P W i) ∧ (s.controlMediaAdd M P W i).ids.length = i + 1 ∧
      (s.controlMediaAdd M P W i).offer.map resourceNames = some offer.resourceNames := by
  obtain ⟨control, ht, hnm, hfi⟩ := hf.control ho hi
  obtain ⟨channel, hh, hid⟩ := channelCreate_some (M := M) (W := W) s i (some control.cmidArr) hfi
  have hc := channelCreate_continues (M := M) (P := P) (W := W) s control.resourceName i (some control.cmidArr)
  obtain ⟨u, hu⟩ : ∃ u, u = (s.channelCreate M P W control.resourceName i (some control.cmidArr)).1 := ⟨_, rfl⟩
  rw [← hu] at hc
  have hp : s.channelCreate M P W control.resourceName i (some control.cmidArr) = (u, some channel) :=
    Prod.ext hu.symm hh
  have hn : u.channels.length = i := by
    have hl := congrArg length hc.ids
    rw [hd] at hl
    simpa [Session.ids] using hl
  -- the offer keeps its resources, and the channel is at its position
  have hs : Continues s (u.modifyOffer (·.controlMediaSet i { control with sessionId := u.id })) := by
    refine hc.trans (modifyOffer_continues u fun offer' ho' => resourceNames_controlMediaSet ?_)
    have hm := hc.offer
    rw [mem_def.1 ho', ho] at hm
    rw [some.inj hm]
    exact hnm
  obtain ⟨v, hv⟩ : ∃ v, v = (u.modifyOffer (·.controlMediaSet i { control with sessionId := u.id })).pushChannel channel :=
    ⟨_, rfl⟩
  have hpu : AlignedBelow i v := by
    rw [hv]
    exact (h.continues hs).push (by rw [hs.ids, hid, hd])
  have hvd : v.ids.length = i + 1 := by
    have hl := congrArg length hs.ids
    rw [hd] at hl
    have hps : v.ids = (u.modifyOffer (·.controlMediaSet i { control with sessionId := u.id })).ids ++ [channel.id] := by
      rw [hv]
      simp [Session.ids, pushChannel]
    rw [hps, length_append, hl]
    rfl
  have hvf : v.offer.map resourceNames = some offer.resourceNames := by
    rw [hv]
    refine hs.offer.trans ?_
    rw [ho]
    rfl
  obtain ⟨hal, han⟩ := controlMediaAnswer_aligned hpu (by omega) hid { control with sessionId := u.id }
  have heq : s.controlMediaAdd M P W i = (if channel.controlChannel then
      (v.modifyChannel i ({ · with waitingForChannel := true })).request (.controlAdd i)
      else v.controlMediaReject channel.id { control with sessionId := u.id }).engineTerminationAdd i channel := by
    unfold controlMediaAdd
    rw [ho, bind_some, ht]
    dsimp only
    rw [hp]
    dsimp only
    rw [hn, ← hv]
  rw [heq]
  have hc : ∀ w : Session κ σ μ ε D, Continues w (w.engineTerminationAdd i channel) := fun w =>
    (engineTerminationAdd_changes w i channel : Changes .offering _ _).continues
  have ha := han.trans (hc _)
  exact ⟨hal.continues (hc _), by rw [ha.ids, hvd], ha.offer.trans hvf⟩

variable {descriptor : SessionDescriptor}

theorem AlignedBelow.all (h : AlignedBelow n s)
    (ho : s.offer.map resourceNames = some descriptor.resourceNames)
    (hn : descriptor.controlMediaArr.length ≤ n) : s.Aligned := by
  obtain ⟨hp, hr, hl⟩ := h
  refine fun m => ⟨hp, fun offer hm answer ha => ?_, hl⟩
  obtain ⟨hs, he⟩ := hr offer hm answer ha
  have hln : offer.controlMediaArr.length = descriptor.controlMediaArr.length := by
    rw [mem_def.1 hm] at ho
    rw [← length_resourceNames, some.inj ho, length_resourceNames]
  exact ⟨hs, fun i _ hi' => he i (by omega) hi'⟩

/-- **The control media of an offer are processed.** -/
theorem controlMediaOfferProcess_aligned (h : AlignedBelow 0 s) (ho : s.offer = some descriptor)
    (hf : s.Offered P s.ids.length) : (s.controlMediaOfferProcess M P W descriptor).Aligned := by
  have hids : s.ids.length = s.channels.length := by simp [Session.ids]
  have hl : ∀ u, Continues s u → u.ids.length = s.channels.length := fun u hu => by rw [hu.ids, hids]
  have hp : s.offer.map resourceNames = some descriptor.resourceNames := by rw [ho]; rfl
  unfold controlMediaOfferProcess
  dsimp only
  obtain ⟨count, ht⟩ : ∃ count, count = min s.channels.length descriptor.controlMediaArr.length := ⟨_, rfl⟩
  rw [← ht]
  have hd : AlignedBelow count ((range count).foldl controlMediaModify s) ∧
      Continues s ((range count).foldl controlMediaModify s) := by
    refine foldl_range_invariant (fun i u => AlignedBelow i u ∧ Continues s u) _ ⟨h, Continues.refl s⟩ fun i u hi hu => ?_
    obtain ⟨ha, hc⟩ := hu
    refine ⟨controlMediaModify_aligned ha (by rw [hl u hc]; omega) fun offer hm hlt => ?_,
      hc.trans (controlMediaModify_changes u i).continues⟩
    obtain ⟨hal, -⟩ := hf.continues hc offer hm
    obtain ⟨media, hmd⟩ : ∃ media, offer.controlMediaArr[i]? = some media := ⟨_, List.getElem?_eq_getElem hlt⟩
    have hsm : (media.map ControlDescriptor.resourceName).isSome := by
      refine all_eq_true.1 hal _ (mem_of_getElem? (i := i) ?_)
      unfold resourceNames
      rw [getElem?_map, hmd]
      rfl
    unfold answered controlMediaGet
    rw [hmd]
    simpa using hsm
  generalize (range count).foldl controlMediaModify s = u at hd
  obtain ⟨ha, hc⟩ := hd
  have ho' := hc.offer.trans hp
  rcases Nat.le_total descriptor.controlMediaArr.length s.channels.length with hle | hle
  · rw [show descriptor.controlMediaArr.length - count = 0 by omega]
    exact ha.all ho' (by omega)
  · suffices had : (fun i (v : Session κ σ μ ε D) => AlignedBelow i v ∧ v.ids.length = i ∧
        v.offer.map resourceNames = some descriptor.resourceNames)
          (count + (descriptor.controlMediaArr.length - count))
          ((List.range' count (descriptor.controlMediaArr.length - count)).foldl (controlMediaAdd M P W) u) from
      had.1.all had.2.2 (by omega)
    refine foldl_range'_invariant (fun i v => AlignedBelow i v ∧ v.ids.length = i ∧
      v.offer.map resourceNames = some descriptor.resourceNames) _
      ⟨ha, by rw [hl u hc]; omega, ho'⟩ fun i v hi hi' hv => ?_
    obtain ⟨hvl, hvd, hvo⟩ := hv
    obtain ⟨offer, hs, hn⟩ := Option.map_eq_some_iff.1 hvo
    have hvf : v.Offered P i := by
      refine Session.Offered.mono (fun offer' hm => ?_) (show s.ids.length ≤ i by omega)
      rw [some.inj ((mem_def.1 hm).symm.trans hs), hn]
      exact hf descriptor ho
    have hln : offer.controlMediaArr.length = descriptor.controlMediaArr.length := by
      rw [← length_resourceNames, hn, length_resourceNames]
    obtain ⟨hx, hnxt, hnx⟩ :=
      controlMediaAdd_aligned (M := M) (W := W) hvl hvd hvf hs (by omega)
    exact ⟨hx, hnxt, hnx.trans (congrArg some hn)⟩

theorem offerProcess_aligned (hv2 : P.mrcpVersion = .v2) (h : s.Aligned) (ht : s.outstanding = [])
    (hf : descriptor.resourceNames.all isSome ∧
      (descriptor.resourceNames.drop s.channels.length).all (fun name => name.any P.resourceFind) = true) :
    (s.offerProcess M P W descriptor).Aligned := by
  have hc : Continues s (s.contextCreate W) ∧ (s.contextCreate W).outstanding = [] := by
    unfold contextCreate
    by_cases hr : s.context
    · rw [if_pos hr]
      exact ⟨Continues.refl s, ht⟩
    · rw [if_neg hr]
      exact ⟨Continues.same rfl rfl rfl ⟨rfl, rfl⟩ rfl, ht⟩
  unfold offerProcess
  generalize s.contextCreate W = u at hc
  obtain ⟨hn, hl⟩ := hc
  have hu := h.continues hn
  dsimp only
  split_ifs with hs
  · refine answerSend_aligned (fun n => ⟨(hu n).positions, fun offer ho answer ha => ?_, (hu n).last⟩) ?_
    · obtain rfl := mem_some_iff.1 ho
      obtain ⟨last, hls, hcm⟩ := (any_eq_true _ _).1 hs
      obtain ⟨hln, hle, hall⟩ := (hu n).last last hls answer ha
      have heq : descriptor.controlMediaArr.length = last.controlMediaArr.length := by
        simp only [sessionOffersCompare, arraysCompare, Bool.and_eq_true, beq_iff_eq] at hcm
        exact hcm.1.1.2.1
      refine ⟨hln.trans heq.symm, fun i _ hi => ⟨?_, Or.inl (hall i (by omega))⟩⟩
      show i < u.ids.length
      omega
    · intro subrequest hm
      have hm : subrequest ∈ u.outstanding := hm
      simp [hl] at hm
  · -- an answer is generated
    obtain ⟨v, hv⟩ : ∃ v, v = ((({ u with
        offer := some descriptor, answer := some (sessionAnswerCreate descriptor) } : Session κ σ μ ε D).stateSet
          .generatingAnswer).request .resetAssociations) := ⟨_, rfl⟩
    have hst : AlignedBelow 0 v := by
      rw [hv]
      refine ⟨(hu 0).positions, fun offer ho answer ha => ⟨?_, fun i hi => by omega⟩, (hu 0).last⟩
      obtain rfl := mem_some_iff.1 ho
      obtain rfl := mem_some_iff.1 ha
      simp [sessionAnswerCreate]
    have ho : v.offer = some descriptor := by rw [hv]; rfl
    have hd : v.ids.length = s.channels.length := by
      rw [show v.ids = u.ids by rw [hv]; rfl, hn.ids]
      simp [Session.ids]
    have hmd := controlMediaOfferProcess_aligned (M := M) (P := P) (W := W) hst ho (fun offer hm => by
      rw [some.inj ((mem_def.1 hm).symm.trans ho), hd]
      exact hf)
    have hal : (((v.controlMediaOfferProcess M P W descriptor).avMediaOfferProcess P descriptor).request
        .applyTopology).Aligned :=
      hmd.continues ((avMediaOfferProcess_changes _ descriptor).request _ (Or.inl rfl) nofun).continues
    have heq : answerGenerate M P W { u with offer := some descriptor } descriptor =
        ((v.controlMediaOfferProcess M P W descriptor).avMediaOfferProcess P descriptor).request .applyTopology := by
      unfold answerGenerate mediaOfferProcess
      rw [hv2]
      rw [hv]
      exact if_neg (Nat.succ_ne_zero _)
    rw [heq]
    exact hal

end UniMrcp.MrcpServer
