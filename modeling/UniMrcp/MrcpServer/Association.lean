import UniMrcp.MrcpServer.Alignment
import UniMrcp.MrcpServer.Session.Associated

/-!
# Associations and offers
-/

namespace UniMrcp.MrcpServer

open Apt Lib MrcpEngine List Event Channel Session
open List (range' getElem?_map getElem?_eq_none range map)
open Option (bind_eq_some_iff some.inj elim_some bind_some some_ne_none)

variable {κ σ μ ε D : Type}

/-! ## Offers that fit -/

structure Candidate where
  media : Bool
  resourceName : Bytes
  cmidArr : Option (List Nat)
deriving DecidableEq

def Party.candidate (party : Party) : Candidate := ⟨party.termination.isSome, party.resourceName, party.cmidArr⟩

section Offers

variable (P : Profile κ) (W : Environment) (s : Session κ σ μ ε D) (descriptor : SessionDescriptor)

def mediaGiven (resourceName : Bytes) (id : Nat) : Bool :=
  (P.engineFind resourceName).isSome && (W.engineChannelCreate id).any Option.isSome

/-- An offer for MRCPv1 sets up a resource for which the session has no channel. -/
def Session.setsUp : Bool := descriptor.resourceState && (s.channelFind descriptor.resourceName).isNone

def Session.refuses : Bool :=
  P.mrcpVersion == .v1 && s.setsUp descriptor &&
    !(P.resourceFind descriptor.resourceName && (P.engineFind descriptor.resourceName).isSome &&
      (W.engineChannelCreate s.channels.length).isSome)

def Session.newcomers : List Candidate :=
  match P.mrcpVersion with
  | .v1 =>
    if s.setsUp descriptor && !s.refuses P W descriptor then
      [⟨mediaGiven P W descriptor.resourceName s.channels.length, descriptor.resourceName, none⟩]
    else []
  | .v2 =>
    (List.range' s.channels.length (descriptor.controlMediaArr.length - s.channels.length)).filterMap fun i =>
      (descriptor.controlMediaGet i).bind fun control =>
        if P.resourceFind control.resourceName then
          some ⟨mediaGiven P W control.resourceName i, control.resourceName, some control.cmidArr⟩
        else none

/-- The live channels with a media termination that there are once an offer is processed. -/
def Session.candidates : List Candidate :=
  (s.parties.map Party.candidate ++ s.newcomers P W descriptor).filter fun candidate =>
    candidate.media && live P (s.log ++ [.dispatch (.offer descriptor)]) candidate.resourceName

/-- The identifier of the audio media at a position, if the audio media of the offer are processed. -/
def Session.offeredMid (k : Nat) : Option Nat :=
  if s.refuses P W descriptor then none else (descriptor.audioMediaGet k).map RtpMedia.mid

def Session.slotCount : Nat :=
  if s.refuses P W descriptor then s.terminations.length
  else max s.terminations.length descriptor.audioMediaArr.length

def Session.oldMid (k : Nat) : Nat := s.places[k]?.elim 0 Place.mid

/-- **An offer rebuilds what is wanted**: audio media that it leaves out are not for a live channel, and if it makes
several of none or one, the first of them is for all live channels. -/
structure Session.Rebuilds : Prop where
  leftOut : ∀ k < s.slotCount P W descriptor, s.offeredMid P W descriptor k = none →
    ∀ candidate ∈ s.candidates P W descriptor,
      ¬ Wanted (s.slotCount P W descriptor) (s.oldMid k) candidate.cmidArr
  first : s.slotCount P W descriptor ≤ 1 ∨ 2 ≤ s.terminations.length ∨ ∀ mid ∈ s.offeredMid P W descriptor 0,
    ∀ candidate ∈ s.candidates P W descriptor, Wanted (s.slotCount P W descriptor) mid candidate.cmidArr

instance : Decidable (s.Rebuilds P W descriptor) :=
  decidable_of_iff ((∀ k < s.slotCount P W descriptor, s.offeredMid P W descriptor k = none →
      ∀ candidate ∈ s.candidates P W descriptor,
        ¬ Wanted (s.slotCount P W descriptor) (s.oldMid k) candidate.cmidArr) ∧
    (s.slotCount P W descriptor ≤ 1 ∨ 2 ≤ s.terminations.length ∨ ∀ mid ∈ s.offeredMid P W descriptor 0,
      ∀ candidate ∈ s.candidates P W descriptor, Wanted (s.slotCount P W descriptor) mid candidate.cmidArr))
    ⟨fun h => ⟨h.1, h.2⟩, fun h => ⟨h.leftOut, h.first⟩⟩

/-- An offer that is the last one again does not set up what was torn down; another one rebuilds what is wanted. -/
def Session.FitsOffer : Prop :=
  if s.lastOffer.any (sessionOffersCompare descriptor) then
    ∀ channel ∈ s.channels, live P (s.log ++ [.dispatch (.offer descriptor)]) channel.resourceName →
      live P s.log channel.resourceName
  else s.Rebuilds P W descriptor

instance : Decidable (s.FitsOffer P W descriptor) := by
  unfold Session.FitsOffer
  infer_instance

def Session.FitsDispatch : SignalingMessage μ D → Prop
  | .offer descriptor => s.FitsOffer P W descriptor
  | _ => True

instance : DecidablePred (s.FitsDispatch P W : SignalingMessage μ D → Prop)
  | .offer descriptor => inferInstanceAs (Decidable (s.FitsOffer P W descriptor))
  | .control .. => isTrue trivial
  | .terminate => isTrue trivial

/-- **An offer that is processed in a step fits.** -/
def Session.Fits : Environment × Input μ ε D → Prop
  | (W, .signaling message) => s.activeRequest.isSome = true ∨ s.FitsDispatch P W message
  | (W, .dispatch) => ∀ message ∈ s.activeRequest, s.FitsDispatch P W message
  | _ => True

instance : DecidablePred (s.Fits P : Environment × Input μ ε D → Prop)
  | (W, .signaling message) => inferInstanceAs (Decidable (s.activeRequest.isSome ∨ s.FitsDispatch P W message))
  | (W, .dispatch) => inferInstanceAs (Decidable (∀ message ∈ s.activeRequest, s.FitsDispatch P W message))
  | (_, .completed _ _) => isTrue trivial
  | (_, .engineResponse _ _) => isTrue trivial
  | (_, .engineEvent _ _) => isTrue trivial
  | (_, .proceed _) => isTrue trivial

end Offers

variable {M : κ → StateMachine σ μ ε D} {P : Profile κ} {W : Environment} {s t u : Session κ σ μ ε D}

/-! ## Channels -/

def Session.mids (s : Session κ σ μ ε D) : List (Option Nat) :=
  s.offer.elim [] fun offer => offer.audioMediaArr.map (Option.map RtpMedia.mid)

def Session.controls (s : Session κ σ μ ε D) : List (Option (Bytes × List Nat)) :=
  s.offer.elim [] fun offer => offer.controlMediaArr.map (Option.map fun control => (control.resourceName, control.cmidArr))

theorem map_set_same {α β : Type} {f : α → β} {l : List α} {i : Nat} {a b : α} (ha : l[i]? = some a) (hf : f b = f a) :
    (l.set i b).map f = l.map f := by
  refine ext_getElem? fun j => ?_
  rw [getElem?_map, getElem?_map, List.getElem?_set]
  split_ifs with hi hlt
  · subst hi
    rw [ha]
    exact congrArg some hf
  · subst hi
    rw [getElem?_eq_none (by omega)] at ha
    cases ha
  · rfl

/-- **Channels are added** while an offer is processed: nothing else changes that matters for associations. -/
structure Enrols (candidates : List Candidate) (s t : Session κ σ μ ε D) : Prop where
  new : ∃ parties, t.parties = s.parties ++ parties ∧ parties.map Party.candidate = candidates ∧
    ∀ (k : Nat) (party : Party), parties[k]? = some party →
      party.termination = none ∨ party.termination = some (.engine (s.parties.length + k))
  places : t.places = s.places
  state : t.state = s.state
  log : ∃ events, t.log = s.log ++ events ∧ events.all Event.isQuiet
  mids : t.mids = s.mids
  controls : t.controls = s.controls

variable {candidates : List Candidate}

theorem Enrols.refl (s : Session κ σ μ ε D) : Enrols [] s s :=
  ⟨⟨[], by simp, rfl, nofun⟩, rfl, rfl, ⟨[], by simp, rfl⟩, rfl, rfl⟩

theorem Enrols.same (h : Enrols candidates s t) (hp : u.parties = t.parties) (hpl : u.places = t.places)
    (hs : u.state = t.state) (hl : u.log = t.log) (hm : u.mids = t.mids) (hc : u.controls = t.controls) :
    Enrols candidates s u :=
  ⟨hp ▸ h.new, hpl.trans h.places, hs.trans h.state, hl ▸ h.log, hm.trans h.mids,
    hc.trans h.controls⟩

theorem Enrols.request (h : Enrols candidates s t) {subrequest : Subrequest}
    (hq : (start subrequest : Event μ ε D).isQuiet) : Enrols candidates s (t.request subrequest) := by
  obtain ⟨events, hl, ha⟩ := h.log
  refine ⟨h.new, h.places, h.state, ⟨events ++ [.start subrequest], ?_, ?_⟩, h.mids, h.controls⟩
  · show t.log ++ [start subrequest] = _
    rw [hl, append_assoc]
  · rw [all_append, ha]
    simpa using hq

theorem Enrols.modifyChannel (h : Enrols candidates s t) (i : Nat) {f : Channel κ σ μ D → Channel κ σ μ D}
    (hf : ∀ channel, t.channels[i]? = some channel → (f channel).party = channel.party) :
    Enrols candidates s (t.modifyChannel i f) := h.same (parties_modifyChannel t i hf) rfl rfl rfl rfl rfl

theorem Enrols.modifyAnswer (h : Enrols candidates s t) (f : SessionDescriptor → SessionDescriptor) :
    Enrols candidates s (t.modifyAnswer f) := by
  unfold Session.modifyAnswer
  split
  · exact h.same rfl rfl rfl rfl rfl rfl
  · exact h.same rfl rfl rfl rfl rfl rfl

theorem Enrols.controlMediaSet (h : Enrols candidates s t) {i : Nat} {control control' : ControlDescriptor}
    (hc : t.offer.bind (·.controlMediaGet i) = some control) (hn : control'.resourceName = control.resourceName)
    (hm : control'.cmidArr = control.cmidArr) : Enrols candidates s (t.modifyOffer (·.controlMediaSet i control')) := by
  obtain ⟨offer, ho, hg⟩ := bind_eq_some_iff.1 hc
  refine h.same rfl rfl rfl rfl ?_ ?_
  · show (t.offer.map _).elim _ _ = t.offer.elim _ _
    rw [ho]
    rfl
  · show (t.offer.map _).elim _ _ = t.offer.elim _ _
    rw [ho]
    show (offer.controlMediaArr.set i (some control')).map _ = offer.controlMediaArr.map _
    refine map_set_same (Option.join_eq_some_iff.1 hg) ?_
    simp [hn, hm]

theorem Enrols.pushChannel (h : Enrols candidates s t) {channel : Channel κ σ μ D}
    (hc : channel.party.termination = none ∨ channel.party.termination = some (.engine t.channels.length)) :
    Enrols (candidates ++ [channel.party.candidate]) s (t.pushChannel channel) := by
  obtain ⟨parties, hp, hn, hm⟩ := h.new
  have hl : t.channels.length = s.parties.length + parties.length := by
    rw [← length_append, ← hp]
    exact (length_map _).symm
  refine ⟨⟨parties ++ [channel.party], ?_, ?_, fun k party hk => ?_⟩, h.places, h.state, h.log, h.mids, h.controls⟩
  · show (t.channels ++ [channel]).map Channel.party = _
    rw [map_append, show t.channels.map Channel.party = _ from hp, append_assoc]
    rfl
  · rw [map_append, hn]
    rfl
  · rcases Nat.lt_trichotomy k parties.length with hlt | rfl | hgt
    · rw [List.getElem?_append_left hlt] at hk
      exact hm k party hk
    · rw [List.getElem?_append_right (Nat.le_refl _), Nat.sub_self] at hk
      obtain rfl : channel.party = party := some.inj hk
      rwa [hl] at hc
    · rw [getElem?_eq_none (by simp; omega)] at hk
      cases hk

theorem channelCreate_enrols (h : Enrols candidates s t) (resourceName : Bytes) (id : Nat)
    (cmidArr : Option (List Nat)) :
    Enrols candidates s (t.channelCreate M P W resourceName id cmidArr).1 ∧
      (t.channelCreate M P W resourceName id cmidArr).1.channels = t.channels ∧
      (t.channelCreate M P W resourceName id cmidArr).1.offer = t.offer ∧
      if P.resourceFind resourceName then
        ∃ channel, (t.channelCreate M P W resourceName id cmidArr).2 = some channel ∧
          (channel.party.termination = none ∨ channel.party.termination = some (.engine t.channels.length)) ∧
          channel.party.candidate = ⟨mediaGiven P W resourceName id, resourceName, cmidArr⟩ ∧
          channel.engineChannel.isSome = ((P.engineFind resourceName).isSome && (W.engineChannelCreate id).isSome)
      else (t.channelCreate M P W resourceName id cmidArr).2 = none := by
  have ha : ∀ f, (t.modifyAnswer f).channels = t.channels ∧ (t.modifyAnswer f).offer = t.offer := by
    intro f
    unfold modifyAnswer
    split
    · exact ⟨rfl, rfl⟩
    · exact ⟨rfl, rfl⟩
  unfold channelCreate
  split_ifs with hf
  · dsimp only
    refine ⟨?_, ?_, ?_, _, rfl, ?_, ?_, ?_⟩
    · split_ifs
      · exact h.same rfl rfl rfl rfl rfl rfl
      · exact h.modifyAnswer _
    · split_ifs
      · rfl
      · exact (ha _).1
    · split_ifs
      · rfl
      · exact (ha _).2
    · cases P.engineFind resourceName with
      | none => exact Or.inl rfl
      | some engine =>
        rcases hc : W.engineChannelCreate id with _ | _ | media
        · simp [Channel.party, engineTermination]
        · simp [Channel.party, engineTermination]
        · simp [Channel.party, engineTermination]
    · unfold mediaGiven
      cases P.engineFind resourceName with
      | none => rfl
      | some engine =>
        rcases hc : W.engineChannelCreate id with _ | _ | media
        · simp [Channel.party, engineTermination, Party.candidate]
        · simp [Channel.party, engineTermination, Party.candidate]
        · simp [Channel.party, engineTermination, Party.candidate]
    · cases P.engineFind resourceName <;> cases W.engineChannelCreate id <;> rfl
  · exact ⟨h.modifyAnswer _, (ha _).1, (ha _).2, rfl⟩

theorem engineTerminationAdd_enrols (h : Enrols candidates s t) (i : Nat) (channel : Channel κ σ μ D) :
    Enrols candidates s (t.engineTerminationAdd i channel) := by
  unfold engineTerminationAdd
  split
  · exact h
  · exact (h.modifyChannel i fun _ _ => by rfl).request rfl

theorem controlMediaModify_enrols (h : Enrols candidates s t) (i : Nat) :
    Enrols candidates s (t.controlMediaModify i) := by
  unfold controlMediaModify
  split
  · exact h
  · dsimp only
    split
    · exact h.modifyChannel i fun _ _ => by rfl
    · split_ifs
      · exact ((h.modifyChannel i fun _ _ => by rfl).modifyChannel i fun _ _ => by rfl).request rfl
      · exact (h.modifyChannel i fun _ _ => by rfl).modifyAnswer _

def newcomer (P : Profile κ) (W : Environment) (controls : List (Option (Bytes × List Nat))) (i : Nat) :
    Option Candidate :=
  controls[i]?.join.bind fun control =>
    if P.resourceFind control.1 then some ⟨mediaGiven P W control.1 i, control.1, some control.2⟩ else none

theorem Session.controls_get (s : Session κ σ μ ε D) (i : Nat) :
    s.controls[i]?.join = (s.offer.bind (·.controlMediaGet i)).map fun control =>
      (control.resourceName, control.cmidArr) := by
  unfold Session.controls SessionDescriptor.controlMediaGet
  cases s.offer with
  | none => rfl
  | some offer =>
    show (offer.controlMediaArr.map _)[i]?.join = offer.controlMediaArr[i]?.join.map _
    rw [getElem?_map]
    rcases offer.controlMediaArr[i]? with _ | _ | control <;> rfl

theorem controlMediaAdd_enrols (h : Enrols candidates s t) (i : Nat) :
    Enrols (candidates ++ (newcomer P W s.controls i).toList) s (t.controlMediaAdd M P W i) := by
  have ht := t.controls_get i
  rw [h.controls] at ht
  unfold controlMediaAdd newcomer
  rw [ht]
  split
  · next hnn =>
    rw [hnn]
    simpa using h
  · next control hct =>
    rw [hct]
    obtain ⟨hc, hn, ho, hg⟩ := channelCreate_enrols (M := M) (P := P) (W := W) h
      control.resourceName i (some control.cmidArr)
    show Enrols (candidates ++ (if P.resourceFind control.resourceName then
      some (⟨mediaGiven P W control.resourceName i, control.resourceName, some control.cmidArr⟩ : Candidate)
      else none).toList) s _
    split_ifs at hg ⊢ with hf
    · obtain ⟨channel, hh, hm, hcn, -⟩ := hg
      split
      · next t' heq =>
        rw [heq] at hh
        cases hh
      · next t' channel' heq =>
        rw [heq] at hc hn ho hh
        obtain rfl : channel' = channel := some.inj hh
        have ho : t'.offer = t.offer := ho
        have hs : Enrols candidates s (t'.modifyOffer (·.controlMediaSet i { control with sessionId := t'.id })) :=
          hc.controlMediaSet (show t'.offer.bind _ = some control by rw [ho]; exact hct) rfl rfl
        have hm' : channel'.party.termination = none ∨
            channel'.party.termination = some (.engine t'.channels.length) := by
          rw [show t'.channels = t.channels from hn]
          exact hm
        have hp := hs.pushChannel hm'
        rw [hcn] at hp
        apply engineTerminationAdd_enrols
        split_ifs
        · exact (hp.modifyChannel _ fun _ _ => by rfl).request rfl
        · exact hp.modifyAnswer _
    · split
      · next t' heq =>
        rw [heq] at hc
        simpa using hc
      · next t' channel' heq =>
        rw [heq] at hg
        cases hg

theorem controlMediaOfferProcess_enrols {descriptor : SessionDescriptor} (ho : s.offer = some descriptor)
    (hv2 : P.mrcpVersion = .v2) :
    Enrols (s.newcomers P W descriptor) s (s.controlMediaOfferProcess M P W descriptor) := by
  have hm : ∀ (is : List Nat) (t : Session κ σ μ ε D), Enrols [] s t →
      Enrols [] s (is.foldl controlMediaModify t) := by
    intro is
    induction is with
    | nil => exact fun t h => h
    | cons i is ih => exact fun t h => ih _ (controlMediaModify_enrols h i)
  have hd : ∀ (is : List Nat) (candidates : List Candidate) (t : Session κ σ μ ε D), Enrols candidates s t →
      Enrols (candidates ++ is.filterMap (newcomer P W s.controls)) s (is.foldl (controlMediaAdd M P W) t) := by
    intro is
    induction is with
    | nil => exact fun candidates t h => by simpa using h
    | cons i is ih =>
      intro candidates t h
      have hr := ih _ _ (controlMediaAdd_enrols (M := M) (P := P) (W := W) h i)
      rw [append_assoc] at hr
      rw [filterMap_cons]
      cases hn : newcomer P W s.controls i with
      | none => simpa [hn] using hr
      | some candidate => simpa [hn] using hr
  unfold controlMediaOfferProcess
  have ha := hd (range' (min s.channels.length descriptor.controlMediaArr.length)
    (descriptor.controlMediaArr.length - min s.channels.length descriptor.controlMediaArr.length)) [] _
    (hm (range (min s.channels.length descriptor.controlMediaArr.length)) s (Enrols.refl s))
  rw [nil_append] at ha
  have hn : s.newcomers P W descriptor =
      (range' (min s.channels.length descriptor.controlMediaArr.length)
        (descriptor.controlMediaArr.length - min s.channels.length descriptor.controlMediaArr.length)).filterMap
          (newcomer P W s.controls) := by
    unfold newcomers
    rw [hv2]
    dsimp only
    have hrn : range' s.channels.length (descriptor.controlMediaArr.length - s.channels.length) =
        range' (min s.channels.length descriptor.controlMediaArr.length)
          (descriptor.controlMediaArr.length - min s.channels.length descriptor.controlMediaArr.length) := by
      rcases Nat.le_total s.channels.length descriptor.controlMediaArr.length with hle | hle
      · rw [Nat.min_eq_left hle]
      · rw [Nat.min_eq_right hle, Nat.sub_eq_zero_of_le hle, Nat.sub_self]
        rfl
    rw [hrn]
    congr 1
    funext i
    unfold newcomer
    rw [s.controls_get, ho]
    rcases hg : descriptor.controlMediaGet i with _ | control
    · simp [hg]
    · simp [hg]
  rw [hn]
  exact ha

theorem resourceOfferProcess_known {descriptor : SessionDescriptor} (h : s.setsUp descriptor = false) :
    s.resourceOfferProcess M P W descriptor = (s, true) := by
  unfold setsUp at h
  unfold resourceOfferProcess
  split_ifs with hs hf
  · rfl
  · rw [hs] at h
    simp [hf] at h
  · rfl

theorem resourceOfferProcess_setsUp {descriptor : SessionDescriptor} (h : s.setsUp descriptor)
    {channel : Option (Channel κ σ μ D)}
    (hc : s.channelCreate M P W descriptor.resourceName s.channels.length none = (t, channel)) :
    s.resourceOfferProcess M P W descriptor = channel.elim (t, false) fun channel =>
      if channel.engineChannel.isNone then (t, false)
      else ((t.pushChannel channel).engineTerminationAdd t.channels.length channel, true) := by
  obtain ⟨hs, hn⟩ := Bool.and_eq_true_iff.1 h
  have hw : ¬ (s.channelFind descriptor.resourceName).isSome = true := by
    rw [Option.isNone_iff_eq_none] at hn
    rw [hn]
    exact Bool.false_ne_true
  unfold resourceOfferProcess
  simp only [if_pos hs, if_neg hw, hc]
  cases channel with
  | none => rfl
  | some channel => rfl

theorem resourceOfferProcess_enrols (descriptor : SessionDescriptor) (hv1 : P.mrcpVersion = .v1) :
    Enrols (s.newcomers P W descriptor) s (s.resourceOfferProcess M P W descriptor).1 ∧
      (s.resourceOfferProcess M P W descriptor).2 = !s.refuses P W descriptor := by
  obtain ⟨hr, hh, -, hg⟩ := channelCreate_enrols (M := M) (P := P) (W := W) (Enrols.refl s)
    descriptor.resourceName s.channels.length none
  have hrf : s.refuses P W descriptor = (s.setsUp descriptor && !(P.resourceFind descriptor.resourceName &&
      ((P.engineFind descriptor.resourceName).isSome && (W.engineChannelCreate s.channels.length).isSome))) := by
    unfold refuses
    rw [hv1]
    simp [Bool.and_assoc]
  have hw : s.newcomers P W descriptor = if s.setsUp descriptor && !s.refuses P W descriptor then
      [⟨mediaGiven P W descriptor.resourceName s.channels.length, descriptor.resourceName, none⟩] else [] := by
    unfold newcomers
    rw [hv1]
  rw [hw, hrf]
  cases hs : s.setsUp descriptor with
  | false =>
    rw [resourceOfferProcess_known hs]
    exact ⟨Enrols.refl s, rfl⟩
  | true =>
    rcases hc : s.channelCreate M P W descriptor.resourceName s.channels.length none with ⟨t, _ | channel⟩
    · rw [resourceOfferProcess_setsUp hs hc]
      rw [hc] at hr hg
      have hf : P.resourceFind descriptor.resourceName = false := by
        by_contra hf
        rw [if_pos (by simpa using hf)] at hg
        obtain ⟨_, h, -⟩ := hg
        cases h
      rw [hf]
      exact ⟨hr, rfl⟩
    · rw [resourceOfferProcess_setsUp hs hc]
      rw [hc] at hr hh hg
      have hf : P.resourceFind descriptor.resourceName := by
        by_contra hf
        rw [if_neg hf] at hg
        cases hg
      rw [if_pos hf] at hg
      obtain ⟨channel', h, hn, hcn, he⟩ := hg
      obtain rfl : channel = channel' := some.inj h
      rw [hf, Bool.true_and, ← he]
      cases hm : channel.engineChannel.isSome with
      | false =>
        have hnn : channel.engineChannel.isNone := by simpa using hm
        rw [elim_some, hnn]
        exact ⟨hr, rfl⟩
      | true =>
        have hnn : channel.engineChannel.isNone = false := by simpa using hm
        rw [elim_some, hnn]
        have hn' : channel.party.termination = none ∨
            channel.party.termination = some (.engine t.channels.length) := by
          rw [show t.channels = s.channels from hh]
          exact hn
        have hp := hr.pushChannel hn'
        rw [hcn] at hp
        exact ⟨engineTerminationAdd_enrols hp _ _, rfl⟩

/-! ## Audio media -/

theorem Session.mids_get (s : Session κ σ μ ε D) (i : Nat) :
    s.mids[i]?.join = (s.offer.bind (·.audioMediaGet i)).map RtpMedia.mid := by
  unfold Session.mids SessionDescriptor.audioMediaGet
  cases s.offer with
  | none => rfl
  | some offer =>
    show (offer.audioMediaArr.map _)[i]?.join = offer.audioMediaArr[i]?.join.map _
    rw [getElem?_map]
    rcases offer.audioMediaArr[i]? with _ | _ | media <;> rfl

/-- **The slots and the associations** once the audio media below a position are processed. -/
structure Built (s : Session κ σ μ ε D) (old k count : Nat) (t : Session κ σ μ ε D) : Prop where
  parties : t.parties = s.parties
  state : t.state = s.state
  mids : t.mids = s.mids
  length : t.places.length = count
  places : ∀ (j : Nat) (place : Place), t.places[j]? = some place →
    place = ⟨.rtp j, j, if j < k then s.mids[j]?.join.getD (s.oldMid j) else s.oldMid j⟩
  log : ∃ events, t.log = s.log ++ events ∧ events.all Event.isSteady
  pairs : ∀ (j : Nat) (termination : Termination), (.rtp j, some termination) ∈ associations t.log ↔
    j < k ∧ ∃ mid, s.mids[j]?.join = some mid ∧ ∃ party ∈ s.parties, party.termination = some termination ∧
      Wanted (max old (j + 1)) mid party.cmidArr

theorem associationsSet_adds (s : Session κ σ μ ε D) (slot : Slot) :
    (s.associationsSet slot).channels = s.channels ∧ (s.associationsSet slot).terminations = s.terminations ∧
      (s.associationsSet slot).offer = s.offer ∧ (s.associationsSet slot).state = s.state ∧
      ∃ events, (s.associationsSet slot).log = s.log ++ events ∧ events.all isSteady ∧
        ∀ pairs pair, pair ∈ events.foldl associate pairs ↔ pair ∈ pairs ∨ ∃ i ∈ slot.channels, ∃ engineChannel,
          s.channels[i]?.bind Channel.engineChannel = some engineChannel ∧
            pair = (slot.termination, engineChannel.termination) := by
  unfold associationsSet
  generalize slot.channels = is
  induction is generalizing s with
  | nil => exact ⟨rfl, rfl, rfl, rfl, [], by simp, rfl, by simp⟩
  | cons i is ih =>
    rw [foldl_cons]
    split
    · next hn =>
      obtain ⟨hc, h, ho, hs, events, hl, ht, hp⟩ := ih s
      refine ⟨hc, h, ho, hs, events, hl, ht, fun pairs pair => ?_⟩
      rw [hp, exists_mem_cons_iff]
      simp [hn]
    · next engineChannel he =>
      obtain ⟨hc, h, ho, hs, events, hl, ht, hp⟩ :=
        ih (s.request (.addAssociation slot.termination engineChannel.termination))
      refine ⟨hc, h, ho, hs,
        .start (.addAssociation slot.termination engineChannel.termination) :: events, ?_, ?_, fun pairs pair => ?_⟩
      · rw [hl]
        exact append_assoc _ _ _
      · simpa [isSteady] using ht
      · rw [foldl_cons, hp, exists_mem_cons_iff, ← or_assoc]
        show pair ∈ pairs ++ [(slot.termination, engineChannel.termination)] ∨ _ ↔ _
        rw [mem_append, mem_singleton, he]
        simp only [Option.some.injEq, exists_eq_left']
        rfl

theorem mediaModify_mid (media : RtpMedia) (direction : StreamDirection) :
    (mediaModify P media direction).mid = media.mid := by
  unfold mediaModify
  split_ifs <;> rfl

theorem associationsBuild_mid (s : Session κ σ μ ε D) (slot : Slot) (media : RtpMedia) :
    (s.associationsBuild P slot media).2.mid = media.mid := by
  unfold associationsBuild
  dsimp only
  split_ifs
  · generalize List.filterMap _ _ = directions
    induction directions generalizing media with
    | nil => rfl
    | cons direction directions ih => exact (ih _).trans (mediaModify_mid media direction)
  · rfl

theorem associationsBuild_channels (s : Session κ σ μ ε D) (slot : Slot) (media : RtpMedia) (termination : Termination) :
    (∃ i ∈ (s.associationsBuild P slot media).1.channels, ∃ engineChannel,
      s.channels[i]?.bind Channel.engineChannel = some engineChannel ∧ engineChannel.termination = some termination) ↔
        ∃ party ∈ s.parties, party.termination = some termination ∧
          Wanted s.terminations.length media.mid party.cmidArr := by
  unfold associationsBuild Session.parties
  simp only [mem_filter, mem_range]
  constructor
  · rintro ⟨i, ⟨-, ha⟩, engineChannel, he, ht⟩
    obtain ⟨channel, hc, hs⟩ := (Option.any_eq_true _ _).1 ha
    rw [hc, bind_some] at he
    refine ⟨channel.party, mem_map_of_mem (mem_of_getElem? hc), ?_,
      (wanted_iff s _ channel).1 hs⟩
    show channel.engineChannel.bind _ = _
    rw [he]
    exact ht
  · rintro ⟨_, hp, h, hw⟩
    obtain ⟨channel, hm, rfl⟩ := mem_map.1 hp
    obtain ⟨i, hc⟩ := mem_iff_getElem?.1 hm
    obtain ⟨hi, -⟩ := List.getElem?_eq_some_iff.1 hc
    obtain ⟨engineChannel, he, ht⟩ := bind_eq_some_iff.1 h
    refine ⟨i, ⟨hi, ?_⟩, engineChannel, by rw [hc]; exact he, ht⟩
    rw [hc]
    exact (wanted_iff s _ channel).2 hw

theorem getElem?_places (s : Session κ σ μ ε D) (i : Nat) : s.places[i]? = s.terminations[i]?.map Slot.place :=
  getElem?_map

/-- **An audio media is processed** with its slot. -/
theorem audioMediaProcess_built {old k count : Nat} (h : Built s old k count t) (hk : k < count)
    (hc : count = max old (k + 1)) {command : Termination → Subrequest}
    (hcm : ∀ termination, (start (command termination) : Event μ ε D).isQuiet) :
    Built s old (k + 1) count (t.audioMediaProcess P command k) := by
  obtain ⟨slot, hs⟩ : ∃ slot, t.terminations[k]? = some slot := by
    have hn : k < t.terminations.length := by rw [← length_places, h.length]; exact hk
    exact ⟨_, List.getElem?_eq_getElem hn⟩
  have hp : slot.place = ⟨.rtp k, k, s.oldMid k⟩ := by
    have := h.places k slot.place (by rw [getElem?_places, hs]; rfl)
    simpa using this
  have ht : slot.termination = .rtp k := congrArg Place.termination hp
  have hid : slot.id = k := congrArg Place.id hp
  have hm := t.mids_get k
  rw [h.mids] at hm
  unfold audioMediaProcess
  rw [hs]
  dsimp only
  rw [hid]
  cases hd : t.offer.bind (·.audioMediaGet k) with
  | none =>
    have hm : s.mids[k]?.join = none := by rw [hm, hd]; rfl
    refine ⟨h.parties, h.state, h.mids, h.length, fun j place hj => ?_, h.log, fun j termination => ?_⟩
    · rw [h.places j place hj]
      rcases Nat.lt_trichotomy j k with hlt | rfl | hgt
      · rw [if_pos hlt, if_pos (by omega)]
      · rw [if_neg (by omega), if_pos (by omega), hm]
        rfl
      · rw [if_neg (by omega), if_neg (by omega)]
    · rw [h.pairs]
      refine and_congr_left fun hx => ?_
      have hne : j ≠ k := by
        rintro rfl
        obtain ⟨mid, hsm, -⟩ := hx
        rw [hm] at hsm
        cases hsm
      omega
  | some media =>
    have hm : s.mids[k]?.join = some media.mid := by rw [hm, hd]; rfl
    obtain ⟨offer, ho, hget⟩ := bind_eq_some_iff.1 hd
    obtain ⟨slot', hs'⟩ : ∃ slot', slot' = (t.associationsBuild P slot media).1 := ⟨_, rfl⟩
    obtain ⟨media', hd'⟩ : ∃ media', media' = (t.associationsBuild P slot media).2 := ⟨_, rfl⟩
    have hp' : slot'.place = ⟨.rtp k, k, media.mid⟩ := by
      rw [hs']
      show (⟨slot.termination, slot.id, media.mid⟩ : Place) = _
      rw [ht, hid]
    have hm' : media'.mid = media.mid := by
      rw [hd']
      exact associationsBuild_mid t slot media
    have hh' := associationsBuild_channels (P := P) t slot media
    rw [← hs'] at hh'
    show Built s old (k + 1) count ((((t.modifyOffer (·.audioMediaSet
      (t.associationsBuild P slot media).1.id (t.associationsBuild P slot media).2)).modifySlot k fun _ =>
        { (t.associationsBuild P slot media).1 with waiting := true }).request
          (command (t.associationsBuild P slot media).1.termination)).associationsSet
            (t.associationsBuild P slot media).1)
    rw [← hs', ← hd', show slot'.id = k from congrArg Place.id hp']
    obtain ⟨v, hv⟩ : ∃ v, v = ((t.modifyOffer (·.audioMediaSet k media')).modifySlot k fun _ =>
      { slot' with waiting := true }).request (command slot'.termination) := ⟨_, rfl⟩
    rw [← hv]
    obtain ⟨hh, hl, hf, hsta, events, hg, hst, hpa⟩ := associationsSet_adds v slot'
    have hvl : v.log = t.log ++ [.start (command slot'.termination)] := by rw [hv]; rfl
    have hvsl : v.terminations = (t.modifySlot k fun _ => { slot' with waiting := true }).terminations := by
      rw [hv]
      rfl
    have hvc : v.channels = t.channels := by rw [hv]; rfl
    have hvs : associations v.log = associations t.log := by
      rw [hvl]
      exact associations_quiet _ (by simp [hcm])
    refine ⟨?_, ?_, ?_, ?_, fun j place hj => ?_, ?_, fun j termination => ?_⟩
    · show (v.associationsSet slot').channels.map Channel.party = _
      rw [hh, hvc]
      exact h.parties
    · rw [hsta, hv]
      exact h.state
    · rw [← h.mids]
      show (v.associationsSet slot').offer.elim _ _ = t.offer.elim _ _
      rw [hf, show v.offer = t.offer.map (·.audioMediaSet k media') by rw [hv]; rfl, ho]
      exact map_set_same (Option.join_eq_some_iff.1 hget) (congrArg some hm')
    · rw [length_places, hl, hvsl]
      show (t.terminations.modify k _).length = _
      rw [length_modify, ← length_places]
      exact h.length
    · rw [getElem?_places, hl, hvsl, getElem?_modifySlot] at hj
      by_cases hjk : j = k
      · subst hjk
        rw [if_pos rfl, hs] at hj
        obtain rfl : slot'.place = place := some.inj hj
        rw [hp', if_pos (by omega), hm]
        rfl
      · rw [if_neg (Ne.symm hjk), ← getElem?_places] at hj
        rw [h.places j place hj]
        by_cases hlt : j < k
        · rw [if_pos hlt, if_pos (by omega)]
        · rw [if_neg hlt, if_neg (by omega)]
    · obtain ⟨before, hb, hbf⟩ := h.log
      refine ⟨before ++ (.start (command slot'.termination) :: events), ?_, ?_⟩
      · rw [hg, hvl, hb]
        simp
      · rw [all_append, hbf, all_cons, hst,
          isSteady_of_isQuiet (hcm slot'.termination)]
        rfl
    · have hw : associations (v.associationsSet slot').log = events.foldl associate (associations v.log) := by
        unfold associations
        rw [hg, foldl_append]
      rw [hw, hpa, hvs, h.pairs, hvc, show slot'.termination = .rtp k from
        congrArg Place.termination hp']
      have hc' : t.terminations.length = max old (k + 1) := by rw [← length_places, h.length, hc]
      have hk := hh' termination
      rw [hc', h.parties] at hk
      constructor
      · rintro (⟨hj, hx⟩ | ⟨i, hi, engineChannel, he, hpai⟩)
        · exact ⟨by omega, hx⟩
        · obtain ⟨hrt, hsm⟩ := Prod.mk.injEq .. ▸ hpai
          obtain rfl : j = k := Termination.rtp.inj hrt
          exact ⟨by omega, media.mid, hm, hk.1 ⟨i, hi, engineChannel, he, hsm.symm⟩⟩
      · rintro ⟨hj, mid, hsm, hr⟩
        by_cases hjk : j = k
        · subst hjk
          obtain rfl : media.mid = mid := some.inj (hm.symm.trans hsm)
          obtain ⟨i, hi, engineChannel, he, ht⟩ := hk.2 hr
          exact Or.inr ⟨i, hi, engineChannel, he, by rw [ht]⟩
        · exact Or.inl ⟨by omega, mid, hsm, hr⟩

theorem pushSlot_built {old k : Nat} (h : Built s old k k t) (ho : s.terminations.length ≤ k) :
    Built s old k (k + 1) (t.pushSlot { termination := .rtp k, id := k }) := by
  have hp : (t.pushSlot { termination := .rtp k, id := k }).places = t.places ++ [⟨.rtp k, k, 0⟩] := by
    show (t.terminations ++ [_]).map Slot.place = _
    rw [map_append]
    rfl
  refine ⟨h.parties, h.state, h.mids, ?_, fun j place hj => ?_, h.log, h.pairs⟩
  · rw [hp, length_append, h.length]
    rfl
  · rw [hp] at hj
    by_cases hlt : j < k
    · rw [List.getElem?_append_left (by rw [h.length]; exact hlt)] at hj
      exact h.places j place hj
    · have hb := (List.getElem?_eq_some_iff.1 hj).1
      rw [length_append, h.length, length_singleton] at hb
      obtain rfl : j = k := by omega
      rw [List.getElem?_append_right (by rw [h.length]), h.length, Nat.sub_self] at hj
      obtain rfl : (⟨.rtp j, j, 0⟩ : Place) = place := some.inj hj
      have hn : s.oldMid j = 0 := by
        unfold oldMid
        rw [getElem?_eq_none (by rw [length_places]; exact ho)]
        rfl
      rw [if_neg hlt, hn]

theorem Session.Placed.built (hp : s.Placed) (hn : associations s.log = []) :
    Built s s.terminations.length 0 s.terminations.length s := by
  refine ⟨rfl, rfl, rfl, length_places s, fun j place hj => ?_, ⟨[], by simp, rfl⟩, fun j termination => ?_⟩
  · obtain ⟨ht, hid⟩ := hp.slots j place hj
    have ho : s.oldMid j = place.mid := by
      unfold oldMid
      rw [hj]
      rfl
    rw [if_neg (Nat.not_lt_zero _), ho, ← ht]
    exact congrArg (fun id => (⟨place.termination, id, place.mid⟩ : Place)) hid
  · rw [hn]
    simp

/-- **The audio media of an offer are processed.** -/
theorem avMediaOfferProcess_built (hp : s.Placed) (hn : associations s.log = [])
    (descriptor : SessionDescriptor) :
    Built s s.terminations.length descriptor.audioMediaArr.length
      (max s.terminations.length descriptor.audioMediaArr.length) (s.avMediaOfferProcess P descriptor) := by
  unfold avMediaOfferProcess
  dsimp only
  have hm : Built s s.terminations.length (min s.terminations.length descriptor.audioMediaArr.length)
      s.terminations.length ((range (min s.terminations.length descriptor.audioMediaArr.length)).foldl
        (audioMediaProcess P .terminationModify) s) :=
    foldl_range_invariant (fun k t => Built s s.terminations.length k s.terminations.length t) _ (hp.built hn)
      fun k t hk h => audioMediaProcess_built h (by omega) (by omega) fun _ => rfl
  obtain ⟨v, hv⟩ : ∃ v, v = (range (min s.terminations.length descriptor.audioMediaArr.length)).foldl
    (audioMediaProcess P .terminationModify) s := ⟨_, rfl⟩
  rw [← hv] at hm ⊢
  have hs : Built s s.terminations.length (min s.terminations.length descriptor.audioMediaArr.length)
      (max s.terminations.length (min s.terminations.length descriptor.audioMediaArr.length)) v := by
    rw [Nat.max_eq_left (Nat.min_le_left _ _)]
    exact hm
  have ha := foldl_range'_invariant
    (fun k t => Built s s.terminations.length k (max s.terminations.length k) t) (slotAdd P) hs
      fun k t hw (hk : k < _ + (descriptor.audioMediaArr.length -
        min s.terminations.length descriptor.audioMediaArr.length)) h => ?_
  · rw [Nat.add_sub_cancel' (Nat.min_le_right _ _)] at ha
    exact ha
  · -- a slot is added where there is none
    have hk' : s.terminations.length ≤ k := by omega
    rw [Nat.max_eq_right hk'] at h
    have hl : t.terminations.length = k := by rw [← length_places, h.length]
    unfold slotAdd
    rw [hl]
    refine audioMediaProcess_built ?_ (by omega) rfl fun _ => rfl
    rw [Nat.max_eq_right (by omega)]
    exact pushSlot_built h hk'

/-! ## Offers -/

theorem follows_of_rebuilds {descriptor : SessionDescriptor} (h : s.Rebuilds P W descriptor)
    (hl : t.places.length = s.slotCount P W descriptor)
    (hpl : ∀ (j : Nat) (place : Place), t.places[j]? = some place →
      place = ⟨.rtp j, j, (s.offeredMid P W descriptor j).getD (s.oldMid j)⟩)
    (he : ∀ (i : Nat) (party : Party), t.parties[i]? = some party →
      party.termination = none ∨ party.termination = some (.engine i))
    (hca : ∀ party ∈ t.parties, party.termination.isSome → live P t.log party.resourceName →
      party.candidate ∈ s.candidates P W descriptor)
    (hpa : ∀ (j : Nat) (termination : Termination), (.rtp j, some termination) ∈ associations t.log ↔
      ∃ mid, s.offeredMid P W descriptor j = some mid ∧ ∃ party ∈ t.parties, party.termination = some termination ∧
        Wanted (max s.terminations.length (j + 1)) mid party.cmidArr) : t.Placed ∧ t.Follows P := by
  refine ⟨⟨fun i place hi => ?_, he⟩, follows_iff.2 fun place hplc party hp termination hs hv => ?_⟩
  · rw [hpl i place hi]
    exact ⟨rfl, rfl⟩
  obtain ⟨j, hj⟩ := mem_iff_getElem?.1 hplc
  have hb : j < s.slotCount P W descriptor := by
    rw [← hl]
    exact (List.getElem?_eq_some_iff.1 hj).1
  have hc := hca party hp (by rw [hs]; rfl) hv
  -- no other channel has this termination
  have hu : ∀ party' ∈ t.parties, party'.termination = some termination → party' = party := by
    intro party' hmm hs'
    obtain ⟨i, hi⟩ := mem_iff_getElem?.1 hp
    obtain ⟨i', hi'⟩ := mem_iff_getElem?.1 hmm
    have hn := (he i party hi).resolve_left (by rw [hs]; exact some_ne_none _)
    have hn' := (he i' party' hi').resolve_left (by rw [hs']; exact some_ne_none _)
    have heq : Termination.engine i' = .engine i := some.inj ((hn'.symm.trans hs').trans
      (hs.symm.trans hn))
    obtain rfl : i' = i := Termination.engine.inj heq
    exact some.inj (hi'.symm.trans hi)
  rw [hpl j place hj, hpa, hl]
  cases hm : s.offeredMid P W descriptor j with
  | none =>
    refine iff_of_false ?_ (h.leftOut j hb hm _ hc)
    rintro ⟨_, ha, -⟩
    cases ha
  | some mid =>
    have hw : (∃ mid', some mid = some mid' ∧ ∃ party' ∈ t.parties, party'.termination = some termination ∧
        Wanted (max s.terminations.length (j + 1)) mid' party'.cmidArr) ↔
          Wanted (max s.terminations.length (j + 1)) mid party.cmidArr := by
      constructor
      · rintro ⟨mid', hm', party', hmm, hs', hw⟩
        obtain rfl := some.inj hm'
        rwa [hu party' hmm hs'] at hw
      · exact fun hw => ⟨mid, rfl, party, hp, hs, hw⟩
    rw [hw]
    show Wanted _ mid party.cmidArr ↔ Wanted _ mid party.cmidArr
    have ht : s.terminations.length ≤ s.slotCount P W descriptor := by
      unfold slotCount
      split_ifs
      · exact Nat.le_refl _
      · exact Nat.le_max_left _ _
    by_cases ho : s.slotCount P W descriptor ≤ 1
    · rw [show max s.terminations.length (j + 1) = s.slotCount P W descriptor by omega]
    · by_cases hsv : 2 ≤ max s.terminations.length (j + 1)
      · exact ⟨fun hw => hw.several hsv, fun hw => hw.several (by omega)⟩
      · -- the first of several media is processed when there is no other one
        obtain rfl : j = 0 := by omega
        have hf := (h.first.resolve_left ho).resolve_left (by omega) mid (by rw [hm]; rfl) _ hc
        exact ⟨fun _ => hf, fun _ => hf.several (by omega)⟩

theorem mediaOfferProcess_enrols {descriptor : SessionDescriptor} (ho : s.offer = some descriptor) :
    ∃ t, Enrols (s.newcomers P W descriptor) s t ∧ s.mediaOfferProcess M P W descriptor =
      if s.refuses P W descriptor then t.modifyAnswer ({ · with resourceState := false })
      else t.avMediaOfferProcess P descriptor := by
  unfold mediaOfferProcess
  cases hv : P.mrcpVersion with
  | v1 =>
    obtain ⟨he, hs⟩ := resourceOfferProcess_enrols (M := M) (W := W) (s := s) descriptor hv
    dsimp only
    split
    · next t heq =>
      rw [heq] at he hs
      have hr : s.refuses P W descriptor = false := by simpa using hs.symm
      exact ⟨t, he, by rw [hr]; rfl⟩
    · next t heq =>
      rw [heq] at he hs
      have hr : s.refuses P W descriptor := by simpa using hs.symm
      exact ⟨t, he, by rw [hr]; rfl⟩
  | v2 =>
    have hr : s.refuses P W descriptor = false := by
      unfold refuses
      rw [hv]
      rfl
    exact ⟨_, controlMediaOfferProcess_enrols ho hv, by rw [hr]; rfl⟩

theorem Enrols.placed (h : Enrols candidates s t) (hp : s.Placed) : t.Placed := by
  obtain ⟨parties, hr, -, hm⟩ := h.new
  refine ⟨fun i place hi => hp.slots i place (by rwa [← h.places]), fun i party hi => ?_⟩
  rw [hr] at hi
  by_cases hlt : i < s.parties.length
  · rw [List.getElem?_append_left hlt] at hi
    exact hp.engines i party hi
  · rw [List.getElem?_append_right (by omega)] at hi
    have hn := hm _ party hi
    rwa [Nat.add_sub_cancel' (by omega)] at hn

theorem newcomers_congr (h : t.channels = s.channels) (descriptor : SessionDescriptor) :
    t.newcomers P W descriptor = s.newcomers P W descriptor ∧ t.refuses P W descriptor = s.refuses P W descriptor := by
  unfold newcomers refuses setsUp channelFind
  rw [h]
  exact ⟨rfl, rfl⟩

def Session.processed (P : Profile κ) (W : Environment) (s : Session κ σ μ ε D) (descriptor : SessionDescriptor) : Nat :=
  if s.refuses P W descriptor then 0 else descriptor.audioMediaArr.length

theorem mediaOfferProcess_built {descriptor : SessionDescriptor} (hp : s.Placed) (hn : associations s.log = [])
    (ho : s.offer = some descriptor) :
    ∃ t, Enrols (s.newcomers P W descriptor) s t ∧
      Built t s.terminations.length (s.processed P W descriptor) (s.slotCount P W descriptor)
        (s.mediaOfferProcess M P W descriptor) := by
  obtain ⟨t, he, heq⟩ := mediaOfferProcess_enrols (M := M) (P := P) (W := W) ho
  obtain ⟨events, hg, hq⟩ := he.log
  have hn' : associations t.log = [] := by rw [hg, associations_quiet _ hq, hn]
  have hl : t.terminations.length = s.terminations.length := by
    rw [← length_places, he.places, length_places]
  refine ⟨t, he, ?_⟩
  rw [heq]
  unfold processed slotCount
  split_ifs
  · have hb := (he.placed hp).built hn'
    rw [hl] at hb
    unfold modifyAnswer
    split
    · exact ⟨hb.parties, hb.state, hb.mids, hb.length, hb.places, hb.log, hb.pairs⟩
    · exact ⟨hb.parties, hb.state, hb.mids, hb.length, hb.places, hb.log, hb.pairs⟩
  · have hb := avMediaOfferProcess_built (P := P) (he.placed hp) hn' descriptor
    rwa [hl] at hb

theorem offeredMid_eq {descriptor : SessionDescriptor} (ho : s.offer = some descriptor) (j : Nat) :
    s.offeredMid P W descriptor j = if j < s.processed P W descriptor then s.mids[j]?.join else none := by
  unfold offeredMid processed
  rw [s.mids_get, ho, bind_some]
  split_ifs with hr hlt hlt
  · omega
  · rfl
  · rfl
  · unfold SessionDescriptor.audioMediaGet
    rw [getElem?_eq_none (by omega)]
    rfl

theorem mediaOfferProcess_follows {descriptor : SessionDescriptor} (hp : s.Placed)
    (hrb : s.Rebuilds P W descriptor) (hh : t.channels = s.channels)
    (hs : t.terminations = s.terminations)
    (hl : t.log = s.log ++ [.dispatch (.offer descriptor), .start .resetAssociations])
    (ho : t.offer = some descriptor) :
    (t.mediaOfferProcess M P W descriptor).Placed ∧ (t.mediaOfferProcess M P W descriptor).Follows P := by
  have h : t.parties = s.parties := congrArg (map Channel.party) hh
  have hc : t.places = s.places := congrArg (map Slot.place) hs
  have hp' : t.Placed := hp.congr h hc
  have hrs : associations t.log = [] := by
    rw [hl]
    unfold associations
    rw [foldl_append]
    rfl
  obtain ⟨v, he, hb⟩ := mediaOfferProcess_built (M := M) (P := P) (W := W) hp' hrs ho
  obtain ⟨u, hu⟩ : ∃ u, u = t.mediaOfferProcess M P W descriptor := ⟨_, rfl⟩
  rw [← hu] at hb ⊢
  obtain ⟨hw, hr⟩ := newcomers_congr (P := P) (W := W) hh descriptor
  have hpr : t.processed P W descriptor = s.processed P W descriptor := by
    unfold processed
    rw [hr]
  have hn : t.slotCount P W descriptor = s.slotCount P W descriptor := by
    unfold slotCount
    rw [hr, hs]
  have hd : ∀ j, v.oldMid j = s.oldMid j := by
    intro j
    unfold oldMid
    rw [he.places, hc]
  have hf : ∀ j, s.offeredMid P W descriptor j =
      if j < s.processed P W descriptor then v.mids[j]?.join else none := by
    intro j
    have hm : t.offeredMid P W descriptor j = s.offeredMid P W descriptor j := by
      unfold offeredMid
      rw [hr]
    rw [← hm, offeredMid_eq ho, hpr, he.mids]
  rw [hs, hpr, hn] at hb
  rw [hw] at he
  refine follows_of_rebuilds hrb hb.length (fun j place hj => ?_) ?_ (fun party hpa hsm hv => ?_)
    fun j termination => ?_
  · rw [hb.places j place hj, hf j, hd j]
    split_ifs
    · rfl
    · rfl
  · rw [hb.parties]
    exact (he.placed hp').engines
  · -- the channels are those that the offer was checked for
    obtain ⟨parties, ha, hcn, -⟩ := he.new
    obtain ⟨events, hvl, hq⟩ := he.log
    obtain ⟨events', hul, ht⟩ := hb.log
    have hl' : u.log = (s.log ++ [.dispatch (.offer descriptor)]) ++ (.start .resetAssociations :: events ++ events') := by
      rw [hul, hvl, hl]
      simp
    have ht' : (start .resetAssociations :: events ++ events').all isSteady := by
      rw [all_append, ht, all_cons, all_isSteady hq]
      rfl
    rw [hl', live_steady _ ht'] at hv
    rw [hb.parties, ha, h] at hpa
    refine mem_filter.2 ⟨?_, Bool.and_eq_true_iff.2 ⟨hsm, hv⟩⟩
    rw [← hcn, ← map_append]
    exact mem_map_of_mem hpa
  · rw [hb.pairs, hf j, hb.parties]
    split_ifs with hlt
    · exact and_iff_right hlt
    · simp [hlt]

theorem answerGenerate_attends {descriptor : SessionDescriptor} (h : s.Attends P)
    (hr : s.Rebuilds P W descriptor) (hh : t.channels = s.channels)
    (hsl : t.terminations = s.terminations) (hg : t.log = s.log ++ [.dispatch (.offer descriptor)])
    (ho : t.offer = some descriptor) : (t.answerGenerate M P W descriptor).Attends P := by
  obtain ⟨u, hu⟩ : ∃ u, u = (({ t with answer := some (sessionAnswerCreate descriptor) } : Session κ σ μ ε D).stateSet
    .generatingAnswer).request .resetAssociations := ⟨_, rfl⟩
  have hl : u.log = s.log ++ [.dispatch (.offer descriptor), .start .resetAssociations] := by
    rw [hu]
    show t.log ++ [start .resetAssociations] = _
    rw [hg]
    simp
  have hc : u.channels = s.channels := by rw [hu]; exact hh
  have hs : u.terminations = s.terminations := by rw [hu]; exact hsl
  have hf : u.offer = some descriptor := by rw [hu]; exact ho
  have ht : u.state = .generatingAnswer := by rw [hu]; rfl
  obtain ⟨hp, hfl⟩ := mediaOfferProcess_follows (M := M) h.placed hr hc hs hl hf
  have hup : u.Placed := h.placed.congr (congrArg (map Channel.party) hc)
    (congrArg (map Slot.place) hs)
  have hrs : associations u.log = [] := by
    rw [hl]
    unfold associations
    rw [foldl_append]
    rfl
  obtain ⟨v, he, hb⟩ := mediaOfferProcess_built (M := M) (P := P) (W := W) hup hrs hf
  have hm : (u.mediaOfferProcess M P W descriptor).Attends P := by
    refine ⟨hp, Or.inr ⟨?_, hfl⟩⟩
    rw [hb.state, he.state, ht]
    decide
  have ha : ((u.mediaOfferProcess M P W descriptor).request .applyTopology).Attends P :=
    (framed_attends P W).changes hm (Changes.refl.request _ (Or.inr rfl) fun _ => rfl)
  unfold answerGenerate
  dsimp only
  rw [← hu]
  split_ifs
  · exact ha.leaves (answerSend_leaves _)
  · exact ha

theorem offerRepeated_attends {descriptor : SessionDescriptor} (h : s.Attends P)
    (hl : ∀ channel ∈ s.channels, live P (s.log ++ [.dispatch (.offer descriptor)]) channel.resourceName →
      live P s.log channel.resourceName) : (s.see (.dispatch (.offer descriptor))).Attends P := by
  refine ⟨h.placed.congr rfl rfl, ?_⟩
  rcases h.follows with hr | ⟨hs, hf⟩
  · refine Or.inl ?_
    show (s.log ++ _).any isRelease = true
    rw [any_append, hr, Bool.true_or]
  · refine Or.inr ⟨hs, fun slot hsl channel hc termination ht hl' => ?_⟩
    have hm : associations (s.log ++ [Event.dispatch (.offer descriptor)]) = associations s.log := by
      unfold associations
      rw [foldl_append]
      rfl
    show (slot.termination, some termination) ∈ associations (s.log ++ [Event.dispatch (.offer descriptor)]) ↔ _
    rw [hm]
    exact hf slot hsl channel hc termination ht (hl channel hc hl')

theorem offerProcess_attends {descriptor : SessionDescriptor} (h : s.Attends P) (hf : s.FitsOffer P W descriptor) :
    ((s.see (.dispatch (.offer descriptor))).offerProcess M P W descriptor).Attends P := by
  obtain ⟨hd, hc, hh, hs⟩ := contextCreate_same W (s.see (.dispatch (.offer descriptor)))
  obtain ⟨u, hu⟩ : ∃ u, u = (s.see (.dispatch (.offer descriptor))).contextCreate W := ⟨_, rfl⟩
  rw [← hu] at hd hc hh hs
  have hl : u.log = s.log ++ [.dispatch (.offer descriptor)] := congrArg (fun ledger => ledger.2.2) hd
  have hls : u.lastOffer = s.lastOffer := congrArg Core.lastOffer hc
  unfold Session.FitsOffer at hf
  unfold offerProcess
  rw [← hu]
  dsimp only
  rw [hls]
  split_ifs at hf ⊢ with hm
  · have hse := offerRepeated_attends h hf
    refine hse.leaves (Leaves.trans ?_ (answerSend_leaves _))
    exact Leaves.same hl (congrArg (map Channel.party) hh) (congrArg (map Slot.place) hs)
      (congrArg Core.state hc)
  · exact answerGenerate_attends h hf hh hs hl rfl

/-! ## Runs -/

variable {message : SignalingMessage μ D}

theorem dispatch_attends (h : s.Attends P) (hf : s.FitsDispatch P W message) :
    (s.dispatch M P W message).Attends P := by
  cases message with
  | offer descriptor => exact offerProcess_attends h hf
  | control channel resourceName message =>
    exact (framed_attends P W).onMessageReceive ((framed_attends P W).changes h (Changes.refl.see _ rfl)) _ _ _
  | terminate =>
    exact deactivate_attends ((framed_attends P W).changes h (Changes.refl.see _ rfl))

theorem Session.FitsDispatch.request (h : s.FitsDispatch P W message) (request : Option (SignalingMessage μ D))
    (dispatching : Bool) :
    ({ s with activeRequest := request, dispatching := dispatching } : Session κ σ μ ε D).FitsDispatch P W message := by
  cases message with
  | offer descriptor =>
    have hf : s.FitsOffer P W descriptor := h
    show Session.FitsOffer P W _ descriptor
    unfold Session.FitsOffer at hf ⊢
    split_ifs at hf ⊢
    · exact hf
    · exact ⟨hf.leftOut, hf.first⟩
  | control channel resourceName message => trivial
  | terminate => trivial

variable [DecidableEq μ]

theorem step_attends (h : s.Attends P) {input : Environment × Input μ ε D} (hf : s.Fits P input) :
    (s.step M P input).1.Attends P := by
  obtain ⟨W, input⟩ := input
  cases input with
  | signaling message =>
    show (s.signalingMessageProcess M P W message).Attends P
    unfold signalingMessageProcess
    split_ifs with ha
    · exact h.leaves (Leaves.same rfl rfl rfl rfl)
    · have hd : s.FitsDispatch P W message := hf.resolve_left ha
      have hs : ({ s with activeRequest := some message } : Session κ σ μ ε D).Attends P :=
        h.leaves (Leaves.same rfl rfl rfl rfl)
      exact dispatch_attends hs (hd.request (some message) s.dispatching)
  | completed subrequest result =>
    exact (framed_attends P W).removes (h.leaves (complete_leaves s subrequest)) (onCompletion_removes _ result subrequest)
  | engineResponse i message => exact (framed_attends P W).engineResponse h i message
  | engineEvent i message => exact (framed_attends P W).engineEvent h i message
  | dispatch =>
    show (s.activeRequest.elim s ({ s with dispatching := false }.dispatch M P W)).Attends P
    have hs : ({ s with dispatching := false } : Session κ σ μ ε D).Attends P :=
      h.leaves (Leaves.same rfl rfl rfl rfl)
    rcases ha : s.activeRequest with _ | message
    · exact h
    · have hd : s.FitsDispatch P W message := hf message ha
      have hdi := dispatch_attends (M := M) hs (hd.request s.activeRequest false)
      rwa [ha] at hdi
  | proceed i => exact (framed_attends P W).proceed h i

/-- **The associations of a session follow the offers** in every run in which each offer that is processed rebuilds what
is wanted. -/
theorem session_follows {inputs : List (Environment × Input μ ε D)}
    (h : EachStep (Session.step M P) (fun s input => s.Fits P input) {} inputs) :
    (run (Session.step M P) {} inputs).1.Follows P := by
  have hnew : ({} : Session κ σ μ ε D).Attends P := by
    refine ⟨⟨fun i place hi => ?_, fun i party hi => ?_⟩, Or.inr ⟨nofun, nofun⟩⟩
    · cases hi
    · cases hi
  have hall := run_invariant (fun s : Session κ σ μ ε D => s.Attends P) _ (fun s input hs hfits => step_attends hs hfits)
    {} inputs hnew h
  rcases hall.follows with hrel | ⟨-, hfollows⟩
  · -- nothing is live in a session that was released
    intro slot _ channel _ termination _ hlive
    unfold live at hlive
    rw [hrel] at hlive
    cases hlive
  · exact hfollows

/-! ## A resource that is torn down -/

def pairProfile : Profile Unit where
  mrcpVersion := .v1
  resourceFind name := name == [82] || name == [83]
  engineFind name := if name = [82] ∨ name = [83] then some (some ()) else none
  codecList := []

def setupOffer (resourceName : UInt8) : SessionDescriptor where
  resourceName := [resourceName]
  resourceState := true
  audioMediaArr := [some { port := 4000 }]

def pairSetup : List (Environment × Input RecorderMethod RecorderEvent Unit) :=
  [.signaling (.offer (setupOffer 82)), .completed .resetAssociations {}, .completed (.terminationAdd (.engine 0)) {},
    .completed (.terminationAdd (.rtp 0)) {}, .completed (.addAssociation (.rtp 0) (some (.engine 0))) {},
    .completed .applyTopology {}, .completed (.engineOpen 0) {},
    .signaling (.offer (setupOffer 83)), .completed .resetAssociations {}, .completed (.terminationAdd (.engine 1)) {},
    .completed (.terminationModify (.rtp 0)) {}, .completed (.addAssociation (.rtp 0) (some (.engine 0))) {},
    .completed (.addAssociation (.rtp 0) (some (.engine 1))) {}, .completed .applyTopology {},
    .completed (.engineOpen 1) {}].map (recorderEnvironment, ·)

/-- Both resources have the audio media once they are set up. -/
theorem session_follows_pairSetup :
    (run (Session.step (fun _ => recorderStateMachine plainHeaderOps) pairProfile) {} pairSetup).1.Follows pairProfile :=
  session_follows (by decide +kernel)

/-- The second resource is torn down then, without an audio media in the offer. -/
def pairTeardown : List (Environment × Input RecorderMethod RecorderEvent Unit) :=
  pairSetup ++ [.signaling (.offer { resourceName := [83] }), .completed .resetAssociations {},
    .completed .applyTopology {}].map (recorderEnvironment, ·)

def pairSession : Session Unit (RecorderStateMachine Unit) RecorderMethod RecorderEvent Unit :=
  (run (Session.step (fun _ => recorderStateMachine plainHeaderOps) pairProfile) {} pairTeardown).1

/-- The teardown is answered, and nothing is associated with the audio media any more: not the first resource either,
which is live. -/
theorem teardown_unfollowed :
    EachStep (Session.step (fun _ => recorderStateMachine plainHeaderOps) pairProfile)
        (fun s input => s.enabled input.2 = true ∧
          s.orderly (fun _ => recorderStateMachine plainHeaderOps) input.2 = true) {} pairTeardown ∧
      pairSession.lastAnswer.map SessionDescriptor.status = some .ok ∧ pairSession.outstanding = [] ∧
      live pairProfile pairSession.log [82] = true ∧ associations pairSession.log = [] ∧
      ¬ pairSession.Follows pairProfile := by
  have hnone : associations pairSession.log = [] := by decide +kernel
  refine ⟨by decide +kernel, by decide +kernel, by decide +kernel, by decide +kernel, hnone, fun h => ?_⟩
  obtain ⟨slot, hslot⟩ : ∃ slot, pairSession.terminations[0]? = some slot := ⟨_, rfl⟩
  obtain ⟨channel, hchan, hname, hterm, hcmids⟩ : ∃ channel, pairSession.channels[0]? = some channel ∧
      channel.resourceName = [82] ∧ channel.engineTermination = some (.engine 0) ∧ channel.cmidArr = none :=
    ⟨_, rfl, rfl, rfl, rfl⟩
  have hlive : live pairProfile pairSession.log channel.resourceName := by
    rw [hname]
    decide +kernel
  have hwanted := h slot (mem_of_getElem? hslot) channel (mem_of_getElem? hchan) (.engine 0) hterm
    hlive
  rw [hnone] at hwanted
  exact absurd (hwanted.2 (Or.inr (Or.inl hcmids))) not_mem_nil

end UniMrcp.MrcpServer
