import UniMrcp.MrcpServer.Session.Changes

/-!
# Processing an offer

An offer starts subrequests for its control media and its audio media, and each of them has a flag of its own.
-/

namespace UniMrcp.MrcpServer

open Lib MrcpEngine List Subrequest
open Option (some.inj any_eq_true)

variable {κ σ μ ε D : Type} {M : κ → StateMachine σ μ ε D} {P : Profile κ} {W : Environment} {phase : Phase}
  {s t : Session κ σ μ ε D}

/-! ## Flags -/

@[simp] theorem Session.flags_modifyAnswer (s : Session κ σ μ ε D) (f : SessionDescriptor → SessionDescriptor) :
    (s.modifyAnswer f).flags = s.flags := by
  unfold Session.modifyAnswer
  split <;> rfl

@[simp] theorem Session.flags_call (s : Session κ σ μ ε D) (calls : List (Nat × EngineCall)) :
    (s.call calls).flags = s.flags := rfl

@[simp] theorem Session.channels_call (s : Session κ σ μ ε D) (calls : List (Nat × EngineCall)) :
    (s.call calls).channels = s.channels := rfl

@[simp] theorem Session.flags_modifyChannel (s : Session κ σ μ ε D) (i : Nat)
    (f : Channel κ σ μ D → Channel κ σ μ D) : (s.modifyChannel i f).flags = s.flags := rfl

@[simp] theorem Session.flags_modifySlot (s : Session κ σ μ ε D) (i : Nat) (f : Slot → Slot) :
    (s.modifySlot i f).flags = s.flags := rfl

@[simp] theorem Session.flags_modifyOffer (s : Session κ σ μ ε D) (f : SessionDescriptor → SessionDescriptor) :
    (s.modifyOffer f).flags = s.flags := rfl

@[simp] theorem Session.flags_pushChannel (s : Session κ σ μ ε D) (channel : Channel κ σ μ D) :
    (s.pushChannel channel).flags = s.flags := rfl

@[simp] theorem Session.flags_pushSlot (s : Session κ σ μ ε D) (slot : Slot) :
    (s.pushSlot slot).flags = s.flags := rfl

@[simp] theorem Session.channels_modifyAnswer (s : Session κ σ μ ε D) (f : SessionDescriptor → SessionDescriptor) :
    (s.modifyAnswer f).channels = s.channels := by
  unfold Session.modifyAnswer
  split <;> rfl

variable {extra : Nat}

theorem Books.channel_fresh (h : Books phase extra s) :
    Waiting.control s.channels.length ∉ s.flags ∧ Waiting.termination (.engine s.channels.length) ∉ s.flags := by
  refine ⟨fun hm => ?_, fun hm => ?_⟩
  · have hw := h.waits _ hm
    simp [Session.waits] at hw
  · have hw := h.waits _ hm
    simp [Session.waits] at hw

theorem Books.slot_fresh (h : Books phase extra s) : Waiting.termination (.rtp s.terminations.length) ∉ s.flags := by
  intro hm
  have hw := h.waits _ hm
  simp [Session.waits] at hw

variable {i : Nat} {channel : Channel κ σ μ D} {subrequest : Subrequest}

theorem Going.requestControl (h : Going M phase s t) (hc : t.channels[i]? = some channel)
    (ht : channel.controlChannel) (hf : Waiting.control i ∉ t.flags)
    (ha : subrequest.awaits = some (.control i)) (hs : phase.starts subrequest)
    (hac : ∀ resource, subrequest.acquires = some resource → resource = .control i) :
    Going M phase s ((t.modifyChannel i ({ · with waitingForChannel := true })).request subrequest) := by
  have hi : (t.modifyChannel i ({ · with waitingForChannel := true })).channels[i]? =
      some { channel with waitingForChannel := true } := by
    rw [Session.getElem?_modifyChannel, if_pos rfl, hc]
    rfl
  refine (h.waitForChannel i (Or.inl rfl)).request hs (fun w hw => ?_) fun resource hr => ?_
  · obtain rfl : Waiting.control i = w := some.inj (ha.symm.trans hw)
    exact ⟨hf, (any_eq_true _ _).2 ⟨_, hi, rfl⟩⟩
  · rw [hac resource hr]
    exact (any_eq_true _ _).2 ⟨_, hi, ht⟩

theorem Going.requestTermination (h : Going M phase s t) {termination : Termination}
    (hc : t.channels[i]? = some channel) (ht : channel.engineTermination = some termination)
    (hf : Waiting.termination (.engine i) ∉ t.flags)
    (ha : subrequest.awaits = some (.termination termination)) (hs : phase.starts subrequest)
    (hac : ∀ resource, subrequest.acquires = some resource → resource = .media termination) :
    Going M phase s ((t.modifyChannel i ({ · with waitingForTermination := true })).request subrequest) := by
  obtain rfl : termination = .engine i := by
    rcases h.books.layout.engines i channel hc with hn | hm
    · simp [ht] at hn
    · exact some.inj (ht.symm.trans hm)
  have hi : (t.modifyChannel i ({ · with waitingForTermination := true })).channels[i]? =
      some { channel with waitingForTermination := true } := by
    rw [Session.getElem?_modifyChannel, if_pos rfl, hc]
    rfl
  have ho : ({ channel with waitingForTermination := true } : Channel κ σ μ D).engineTermination ==
      some (.engine i) := by simpa [Channel.engineTermination] using ht
  refine (h.waitForTermination i).request hs (fun w hw => ?_) fun resource hr => ?_
  · obtain rfl : Waiting.termination (.engine i) = w := some.inj (ha.symm.trans hw)
    exact ⟨hf, (any_eq_true _ _).2 ⟨_, hi, Bool.and_eq_true_iff.2 ⟨rfl, ho⟩⟩⟩
  · rw [hac resource hr]
    exact (any_eq_true _ _).2 ⟨_, hi, ho⟩

theorem Going.requestSlot (h : Going M phase s t) {slot : Slot} {f : Slot → Slot}
    (hs : t.terminations[i]? = some slot) (hf : (f slot).termination = slot.termination ∧ (f slot).waiting)
    (hfr : Waiting.termination (.rtp i) ∉ t.flags) (ha : subrequest.awaits = some (.termination (.rtp i)))
    (hst : phase.starts subrequest)
    (hc : ∀ resource, subrequest.acquires = some resource → resource = .media (.rtp i)) :
    Going M phase s ((t.modifySlot i f).request subrequest) := by
  have hi : (t.modifySlot i f).terminations[i]? = some (f slot) := by
    rw [Session.getElem?_modifySlot, if_pos rfl, hs]
    rfl
  have hu : ∀ slot', t.terminations[i]? = some slot' → slot' = slot := by
    intro slot' hs'
    exact some.inj (hs'.symm.trans hs)
  have ht : Going M phase s (t.modifySlot i f) := by
    refine h.change (h.books.modifySlot (fun slot' hs' => ?_) fun _ slot' hs' _ => ?_) rfl rfl
    · rw [hu slot' hs']
      exact hf.1
    · rw [hu slot' hs']
      exact hf.2
  refine ht.request hst (fun w hw => ?_) fun resource hr => ?_
  · obtain rfl : Waiting.termination (.rtp i) = w := some.inj (ha.symm.trans hw)
    exact ⟨hfr, (any_eq_true _ _).2 ⟨_, hi, hf.2⟩⟩
  · rw [hc resource hr]
    exact Option.isSome_iff_exists.2 ⟨_, hi⟩

/-! ## Control media -/

section Answering

variable (hans : s.answer.isSome)
include hans

variable {i : Nat}

/-- **A control channel is modified.** -/
theorem controlMediaModify_going (h : Going M .answering s t) (hb : ∀ w ∈ t.flags, ∃ j < i, w = .control j) :
    Going M .answering s (t.controlMediaModify i) ∧ ∀ w ∈ (t.controlMediaModify i).flags, ∃ j < i + 1, w = .control j := by
  have hf : Waiting.control i ∉ t.flags := by
    intro hm
    obtain ⟨j, hj, heq⟩ := hb _ hm
    obtain rfl : i = j := by simpa using heq
    omega
  have hn : ∀ w ∈ t.flags, ∃ j < i + 1, w = .control j := by
    intro w hm
    obtain ⟨j, hj, rfl⟩ := hb w hm
    exact ⟨j, by omega, rfl⟩
  unfold Session.controlMediaModify
  cases hh : t.channels[i]? with
  | none => exact ⟨h, hn⟩
  | some channel =>
    have hc := h.waitForChannel i (b := false) (Or.inr hf)
    have hi : (t.modifyChannel i ({ · with waitingForChannel := false })).channels[i]? =
        some { channel with waitingForChannel := false } := by
      rw [Session.getElem?_modifyChannel, if_pos rfl, hh]
      rfl
    dsimp only
    split
    · exact ⟨hc, hn⟩
    · next control hd =>
      split_ifs with ht
      · refine ⟨hc.requestControl hi ht hf rfl rfl (by simp [acquires]), fun w hm => ?_⟩
        rcases Session.mem_flags_request.1 hm with ho | hw
        · exact hn w ho
        · exact ⟨i, by omega, (some.inj hw).symm⟩
      · refine ⟨hc.modifyAnswer hans _, fun w hm => hn w ?_⟩
        simpa [Session.controlMediaReject] using hm

/-- **A channel is created.** -/
theorem channelCreate_going (h : Going M .answering s t) (resourceName : Bytes) (id : Nat) (cmidArr : Option (List Nat)) :
    Going M .answering s (t.channelCreate M P W resourceName id cmidArr).1 ∧
      (t.channelCreate M P W resourceName id cmidArr).1.flags = t.flags ∧
      (t.channelCreate M P W resourceName id cmidArr).1.channels = t.channels ∧
      ∀ channel ∈ (t.channelCreate M P W resourceName id cmidArr).2,
        (channel.engineTermination = none ∨ channel.engineTermination = some (.engine t.channels.length)) ∧
          Created M channel.stateMachine := by
  unfold Session.channelCreate
  split_ifs with hr
  · refine ⟨?_, ?_, ?_, ?_⟩
    · dsimp only
      split_ifs
      · exact h.call _
      · exact h.modifyAnswer hans _
    · dsimp only
      split_ifs <;> simp
    · dsimp only
      split_ifs <;> simp
    · intro channel hc
      obtain rfl := Option.mem_some_iff.1 hc
      refine ⟨?_, fun machine hm => ?_⟩
      · cases he : P.engineFind resourceName with
        | none => exact Or.inl rfl
        | some kind =>
          cases hcr : W.engineChannelCreate id with
          | none => exact Or.inl (by simp [Channel.engineTermination])
          | some media =>
            cases media with
            | none => exact Or.inl (by simp [Channel.engineTermination])
            | some media => exact Or.inr (by simp [Channel.engineTermination])
      · obtain ⟨kind, -, rfl⟩ := Option.map_eq_some_iff.1 hm
        rfl
  · exact ⟨h.modifyAnswer hans _, by simp, by simp, by simp⟩

omit hans in
theorem engineTerminationAdd_going {channel channel' : Channel κ σ μ D} (h : Going M .answering s t)
    (hc : t.channels[i]? = some channel') (hs : channel'.engineChannel = channel.engineChannel)
    (hf : Waiting.termination (.engine i) ∉ t.flags) :
    Going M .answering s (t.engineTerminationAdd i channel) ∧
      ∀ w ∈ (t.engineTerminationAdd i channel).flags, w ∈ t.flags ∨ w = .termination (.engine i) := by
  unfold Session.engineTerminationAdd
  cases ht : channel.engineChannel.bind EngineChannel.termination with
  | none => exact ⟨h, fun w hm => Or.inl hm⟩
  | some termination =>
    have ho : channel'.engineTermination = some termination := by
      rw [Channel.engineTermination, hs]
      exact ht
    refine ⟨h.requestTermination hc ho hf rfl rfl (by simp [acquires]), fun w hm => ?_⟩
    rcases Session.mem_flags_request.1 hm with hl | hn
    · exact Or.inl hl
    · obtain rfl : Waiting.termination termination = w := some.inj hn
      rcases h.books.layout.engines i channel' hc with hnn | hso
      · simp [ho] at hnn
      · exact Or.inr (congrArg Waiting.termination (some.inj (ho.symm.trans hso)))

variable {channel : Channel κ σ μ D}

theorem controlMediaAnswer_going (h : Going M .answering s t) (hc : t.channels[i]? = some channel)
    (hf : Waiting.control i ∉ t.flags) (control : ControlDescriptor) :
    ∃ u : Session κ σ μ ε D, (if channel.controlChannel then
        (t.modifyChannel i ({ · with waitingForChannel := true })).request (.controlAdd i)
      else t.controlMediaReject channel.id control) = u ∧ Going M .answering s u ∧
        (∃ channel', u.channels[i]? = some channel' ∧ channel'.engineChannel = channel.engineChannel) ∧
        ∀ w ∈ u.flags, w ∈ t.flags ∨ w = .control i := by
  refine ⟨_, rfl, ?_⟩
  split_ifs with ht
  · refine ⟨h.requestControl hc ht hf rfl rfl ?_, ⟨{ channel with waitingForChannel := true }, ?_, rfl⟩,
      fun w hm => ?_⟩
    · intro resource hr
      exact (some.inj hr).symm
    · show (t.modifyChannel i ({ · with waitingForChannel := true })).channels[i]? = _
      rw [Session.getElem?_modifyChannel, if_pos rfl, hc]
      rfl
    · rcases Session.mem_flags_request.1 hm with ho | hn
      · exact Or.inl ho
      · exact Or.inr (some.inj hn).symm
  · refine ⟨h.modifyAnswer hans _, ⟨channel, ?_, rfl⟩, fun w hm => Or.inl ?_⟩
    · simpa [Session.controlMediaReject] using hc
    · simpa [Session.controlMediaReject] using hm

/-- **A control channel is added.** -/
theorem controlMediaAdd_going (h : Going M .answering s t) (hs : ∀ j, Waiting.termination (.rtp j) ∉ t.flags) :
    Going M .answering s (t.controlMediaAdd M P W i) ∧
      ∀ j, Waiting.termination (.rtp j) ∉ (t.controlMediaAdd M P W i).flags := by
  unfold Session.controlMediaAdd
  split
  · exact ⟨h, hs⟩
  · next control hd =>
    obtain ⟨hc, hf, hn, hh⟩ :=
      channelCreate_going (P := P) (W := W) hans h control.resourceName i (some control.cmidArr)
    split
    · next u heq =>
      rw [heq] at hc hf
      exact ⟨hc, by rwa [hf]⟩
    · next u channel heq =>
      rw [heq] at hc hf hn hh
      obtain ⟨ht, hcr⟩ := hh channel rfl
      rw [← hn] at ht
      have hr := hc.books.channel_fresh
      have hp := (hc.modifyOffer (·.controlMediaSet i { control with sessionId := u.id })).pushChannel
        ht hcr
      have hl : (u.channels ++ [channel])[u.channels.length]? = some channel := by simp
      obtain ⟨v, hv, hg, ⟨channel', hh', hsm⟩, hw⟩ := controlMediaAnswer_going hans hp hl hr.1
        { control with sessionId := u.id }
      have hr' : Waiting.termination (.engine u.channels.length) ∉ v.flags := by
        intro hm
        rcases hw _ hm with ho | heq
        · exact hr.2 ho
        · simp at heq
      obtain ⟨ha, hla⟩ := engineTerminationAdd_going hg hh' hsm hr'
      dsimp only
      rw [hv]
      refine ⟨ha, fun j hm => ?_⟩
      rcases hla _ hm with hm | heq
      · rcases hw _ hm with ho | heq
        · exact hs j (hf ▸ ho)
        · simp at heq
      · simp at heq

theorem controlMediaOfferProcess_going (h : Going M .answering s t) (hf : t.flags = [])
    (descriptor : SessionDescriptor) :
    Going M .answering s (t.controlMediaOfferProcess M P W descriptor) ∧
      ∀ j, Waiting.termination (.rtp j) ∉ (t.controlMediaOfferProcess M P W descriptor).flags := by
  unfold Session.controlMediaOfferProcess
  dsimp only
  generalize min t.channels.length descriptor.controlMediaArr.length = count
  have hm : Going M .answering s ((List.range count).foldl Session.controlMediaModify t) ∧
      ∀ w ∈ ((List.range count).foldl Session.controlMediaModify t).flags, ∃ j < count, w = .control j :=
    foldl_range_invariant (fun i u => Going M .answering s u ∧ ∀ w ∈ u.flags, ∃ j < i, w = Waiting.control j) _
      ⟨h, by simp [hf]⟩ fun i u _ hu => controlMediaModify_going hans hu.1 hu.2
  refine foldl_range'_invariant
    (fun _ u => Going M .answering s u ∧ ∀ j, Waiting.termination (.rtp j) ∉ u.flags) _ ⟨hm.1, fun j hmm => ?_⟩
    fun i u _ _ hu => controlMediaAdd_going hans hu.1 hu.2
  obtain ⟨_, _, heq⟩ := hm.2 _ hmm
  simp at heq

/-- **The resource of an offer is processed.** -/
theorem resourceOfferProcess_going (h : Going M .answering s t) (hf : t.flags = [])
    (descriptor : SessionDescriptor) :
    Going M .answering s (t.resourceOfferProcess M P W descriptor).1 ∧
      ∀ j, Waiting.termination (.rtp j) ∉ (t.resourceOfferProcess M P W descriptor).1.flags := by
  have hl : ∀ j, Waiting.termination (.rtp j) ∉ t.flags := by simp [hf]
  unfold Session.resourceOfferProcess
  split_ifs
  · exact ⟨h, hl⟩
  · obtain ⟨hc, hs, hch, hh⟩ :=
      channelCreate_going (P := P) (W := W) hans h descriptor.resourceName t.channels.length none
    split
    · next u heq =>
      rw [heq] at hc hs
      exact ⟨hc, by rwa [hs]⟩
    · next u channel heq =>
      rw [heq] at hc hs hch hh
      split_ifs
      · exact ⟨hc, by rwa [hs]⟩
      · obtain ⟨ht, hr⟩ := hh channel rfl
        rw [← hch] at ht
        have hp := hc.pushChannel ht hr
        have hls : (u.channels ++ [channel])[u.channels.length]? = some channel := by simp
        obtain ⟨ha, hla⟩ := engineTerminationAdd_going hp hls rfl hc.books.channel_fresh.2
        refine ⟨ha, fun j hm => ?_⟩
        rcases hla _ hm with ho | heq'
        · exact hl j (hs ▸ ho)
        · simp at heq'
  · exact ⟨h, hl⟩

/-! ## Audio media -/

omit hans in
theorem associationsSet_going (h : Going M .answering s t) (slot : Slot) :
    Going M .answering s (t.associationsSet slot) ∧ (t.associationsSet slot).flags = t.flags := by
  unfold Session.associationsSet
  induction slot.channels generalizing t with
  | nil => exact ⟨h, rfl⟩
  | cons i channels ih =>
    rw [foldl_cons]
    cases t.channels[i]?.bind Channel.engineChannel with
    | none => exact ih h
    | some engineChannel =>
      obtain ⟨hg, hf⟩ :=
        ih (h.request_plain (.addAssociation slot.termination engineChannel.termination) rfl rfl rfl)
      refine ⟨hg, hf.trans ?_⟩
      simp [Session.flags, Session.request, Session.see, Session.subrequestAdd, awaits]

omit hans in
/-- **An audio media is processed with its slot.** -/
theorem audioMediaProcess_going {command : Termination → Subrequest} (h : Going M .answering s t)
    (hc : command = .terminationAdd ∨ command = .terminationModify)
    (hf : Waiting.termination (.rtp i) ∉ t.flags) :
    Going M .answering s (t.audioMediaProcess P command i) ∧
      ∀ w ∈ (t.audioMediaProcess P command i).flags, w ∈ t.flags ∨ w = .termination (.rtp i) := by
  have hsm : Going M .answering s t ∧ ∀ w ∈ t.flags, w ∈ t.flags ∨ w = .termination (.rtp i) :=
    ⟨h, fun _ hm => Or.inl hm⟩
  unfold Session.audioMediaProcess
  split
  · exact hsm
  · next slot hs =>
    split
    · exact hsm
    · next media hmd =>
      dsimp only
      obtain ⟨slot', hs', ht⟩ : ∃ slot', (t.associationsBuild P slot media).1 = slot' ∧
          slot'.termination = .rtp i := ⟨_, rfl, h.books.layout.slots i slot hs⟩
      rw [hs']
      have hr : (command slot'.termination).awaits = some (.termination (.rtp i)) ∧
          Phase.answering.starts (command slot'.termination) ∧
          ∀ resource, (command slot'.termination).acquires = some resource → resource = .media (.rtp i) := by
        rw [ht]
        rcases hc with rfl | rfl <;> simp [awaits, Phase.starts, acquires, eq_comm]
      obtain ⟨ha, hst, hac⟩ := hr
      have hof := h.modifyOffer (·.audioMediaSet slot'.id (t.associationsBuild P slot media).2)
      have hd := hof.requestSlot (f := fun _ => { slot' with waiting := true }) hs
        ⟨ht.trans (h.books.layout.slots i slot hs).symm, rfl⟩ hf ha hst hac
      obtain ⟨hg, hl⟩ := associationsSet_going hd slot'
      refine ⟨hg, fun w hm => ?_⟩
      rw [hl] at hm
      rcases Session.mem_flags_request.1 hm with ho | hn
      · exact Or.inl ho
      · exact Or.inr (some.inj (hn.symm.trans ha))

omit hans in
theorem slotAdd_going (h : Going M .answering s t) (i : Nat) : Going M .answering s (t.slotAdd P i) := by
  have hp : Going M .answering s (t.pushSlot { termination := .rtp t.terminations.length, id := i }) :=
    h.change (h.books.pushSlot rfl) rfl rfl
  exact (audioMediaProcess_going hp (Or.inl rfl) h.books.slot_fresh).1

omit hans in
theorem avMediaOfferProcess_going (h : Going M .answering s t) (hs : ∀ j, Waiting.termination (.rtp j) ∉ t.flags)
    (descriptor : SessionDescriptor) : Going M .answering s (t.avMediaOfferProcess P descriptor) := by
  unfold Session.avMediaOfferProcess
  dsimp only
  generalize min t.terminations.length descriptor.audioMediaArr.length = count
  have hd : Going M .answering s ((List.range count).foldl (Session.audioMediaProcess P .terminationModify) t) ∧
      ∀ j, Waiting.termination (.rtp j) ∈
        ((List.range count).foldl (Session.audioMediaProcess P .terminationModify) t).flags → j < count := by
    refine foldl_range_invariant (fun i u => Going M .answering s u ∧
      ∀ j, Waiting.termination (.rtp j) ∈ u.flags → j < i) _ ⟨h, fun j hm => absurd hm (hs j)⟩ ?_
    rintro i u - ⟨hu, hb⟩
    obtain ⟨hg, hf⟩ := audioMediaProcess_going (P := P) hu (Or.inr rfl)
      fun hm => absurd (hb i hm) (Nat.lt_irrefl i)
    refine ⟨hg, fun j hm => ?_⟩
    rcases hf _ hm with ho | heq
    · exact Nat.lt_succ_of_lt (hb j ho)
    · obtain rfl : j = i := by simpa using heq
      exact Nat.lt_succ_self j
  exact foldl_range'_invariant (fun _ u => Going M .answering s u) _ hd.1 fun i u _ _ hu => slotAdd_going hu i

end Answering

theorem mediaOfferProcess_going (hans : s.answer.isSome) (h : Going M .answering s t) (hf : t.flags = [])
    (descriptor : SessionDescriptor) : Going M .answering s (t.mediaOfferProcess M P W descriptor) := by
  unfold Session.mediaOfferProcess
  cases P.mrcpVersion with
  | v1 =>
    obtain ⟨hr, hs⟩ := resourceOfferProcess_going (P := P) (W := W) hans h hf descriptor
    dsimp only
    split
    · next u heq =>
      rw [heq] at hr hs
      exact avMediaOfferProcess_going hr hs descriptor
    · next u heq =>
      rw [heq] at hr
      exact hr.modifyAnswer hans _
  | v2 =>
    obtain ⟨hc, hs⟩ := controlMediaOfferProcess_going (P := P) (W := W) hans h hf descriptor
    exact avMediaOfferProcess_going hc hs descriptor

def Session.generating (s : Session κ σ μ ε D) (descriptor : SessionDescriptor) : Session κ σ μ ε D :=
  ({ s with answer := some (sessionAnswerCreate descriptor) } : Session κ σ μ ε D).stateSet .generatingAnswer

theorem Books.stateSet (h : Books phase 0 s) (ho : s.outstanding = []) (state : SessionState) :
    Books phase 0 (s.stateSet state) := by
  refine h.same ?_ rfl rfl
  have hc := h.count
  rw [ho] at hc
  show (s.outstanding, 0, s.log) = (s.outstanding, s.subrequestCount, s.log)
  rw [hc]
  rfl

theorem answerGenerate_going (h : Books .answering 0 s) (ho : s.outstanding = []) (descriptor : SessionDescriptor) :
    Going M .answering (s.generating descriptor) (s.answerGenerate M P W descriptor) ∧
      (s.answerGenerate M P W descriptor).outstanding ≠ [] := by
  have hans : Books .answering 0 ({ s with answer := some (sessionAnswerCreate descriptor) } : Session κ σ μ ε D) :=
    h.same rfl rfl rfl
  have hb : Books .answering 0 (s.generating descriptor) := hans.stateSet ho .generatingAnswer
  have hs : Going M .answering (s.generating descriptor) (s.generating descriptor) := ⟨hb, Kept.refl _⟩
  have hf : ((s.generating descriptor).request .resetAssociations).flags = [] := by
    refine eq_nil_iff_forall_not_mem.2 fun w hm => ?_
    rcases Session.mem_flags_request.1 hm with hl | hn
    · simp [Session.flags, Session.generating, Session.stateSet, ho] at hl
    · simp [awaits] at hn
  have hd := mediaOfferProcess_going (P := P) (W := W) rfl (hs.request_plain .resetAssociations rfl rfl rfl)
    hf descriptor
  have heq : s.answerGenerate M P W descriptor =
      (((s.generating descriptor).request .resetAssociations).mediaOfferProcess M P W descriptor).request
        .applyTopology := by
    unfold Session.answerGenerate Session.generating
    exact if_neg (Nat.succ_ne_zero _ : ¬ Session.subrequestCount (Session.request _ _) = 0)
  rw [heq]
  exact ⟨hd.request_plain .applyTopology rfl rfl rfl, by simp [Session.request, Session.see, Session.subrequestAdd]⟩

/-! ## Engine channels -/

theorem engineChannelOpen_going (h : Going M .answering s t) (i : Nat) :
    Going M .answering s (t.engineChannelOpen W i) ∧ (t.engineChannelOpen W i).channels.length = t.channels.length := by
  unfold Session.engineChannelOpen
  split
  · exact ⟨h, rfl⟩
  · next engineChannel he =>
    have hs := (h.call (engineChannel.openCalls i (W.channelOpen i))).engineSet he
      (engineChannel.virtualOpen_termination (W.channelOpen i))
    dsimp only
    split_ifs
    · exact ⟨hs.request_plain (.engineOpen i) rfl rfl rfl, length_modify _ _ _⟩
    · exact ⟨hs, length_modify _ _ _⟩

theorem engineChannelClose_going (h : Going M phase s t) (i : Nat) (ht : phase.starts (.engineClose i)) :
    Going M phase s (t.engineChannelClose W i) ∧
      (t.engineChannelClose W i).channels.length = t.channels.length := by
  unfold Session.engineChannelClose
  split
  · exact ⟨h, rfl⟩
  · next engineChannel he =>
    have hs := (h.call (engineChannel.closeCalls i (W.channelClose i))).engineSet he
      (engineChannel.virtualClose_termination (W.channelClose i))
    dsimp only
    split_ifs
    · exact ⟨hs.request_plain (.engineClose i) ht rfl rfl, length_modify _ _ _⟩
    · exact ⟨hs, length_modify _ _ _⟩

theorem engineChannelUpdate_going (h : Going M .answering s t) (i : Nat) :
    Going M .answering s (t.engineChannelUpdate W i) ∧
      (t.engineChannelUpdate W i).channels.length = t.channels.length := by
  unfold Session.engineChannelUpdate
  split
  · exact ⟨h, rfl⟩
  · split_ifs
    · exact engineChannelOpen_going h i
    · exact engineChannelClose_going h i rfl

theorem engineChannelsUpdate_going (h : Books .answering 0 s) (ho : s.outstanding = [])
    (hf : s.offer.isSome) :
    ∃ t, (Going M .answering (s.stateSet .initializing) t ∧ t.channels.length = s.channels.length) ∧
      s.engineChannelsUpdate P W = if t.subrequestCount = 0 then t.answerSend else t := by
  have hs : Going M .answering (s.stateSet .initializing) (s.stateSet .initializing) ∧
      (s.stateSet .initializing).channels.length = s.channels.length :=
    ⟨⟨h.stateSet ho .initializing, Kept.refl _⟩, rfl⟩
  obtain ⟨descriptor, hd⟩ := Option.isSome_iff_exists.1 hf
  unfold Session.engineChannelsUpdate
  rw [hd]
  refine ⟨_, ?_, rfl⟩
  cases P.mrcpVersion with
  | v1 =>
    dsimp only
    split
    · exact hs
    · next i hfi => exact engineChannelOpen_going hs.1 i
  | v2 =>
    refine foldl_range_invariant (fun _ u => Going M .answering (s.stateSet .initializing) u ∧
      u.channels.length = s.channels.length) _ hs fun i u _ hu => ?_
    obtain ⟨hg, hl⟩ := engineChannelUpdate_going (W := W) hu.1 i
    exact ⟨hg, hl.trans hu.2⟩

end UniMrcp.MrcpServer
