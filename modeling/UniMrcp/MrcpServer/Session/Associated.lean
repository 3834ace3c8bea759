import UniMrcp.MrcpServer.Session.Changes

/-!
# Associations of the media of a session
-/

namespace UniMrcp.MrcpServer

open Apt MrcpEngine List Session Event

variable {κ σ μ ε D : Type}

def associate (pairs : List (Termination × Option Termination)) : Event μ ε D →
    List (Termination × Option Termination)
  | .start .resetAssociations => []
  | .start (.addAssociation termination assocTermination) => pairs ++ [(termination, assocTermination)]
  | _ => pairs

/-- The associations that were added after the last time that all were reset. -/
def associations (log : List (Event μ ε D)) : List (Termination × Option Termination) := log.foldl associate []

def tear (resourceName : Bytes) (down : Bool) : Event μ ε D → Bool
  | .dispatch (.offer descriptor) =>
    if stringCompare resourceName descriptor.resourceName then !descriptor.resourceState else down
  | _ => down

def tornDown (log : List (Event μ ε D)) (resourceName : Bytes) : Bool := log.foldl (tear resourceName) false

def Event.isRelease : Event μ ε D → Bool
  | .release => true
  | _ => false

/-- The channel of a resource is live: the session was not released and, for MRCPv1, the resource was not torn down. -/
def live (P : Profile κ) (log : List (Event μ ε D)) (resourceName : Bytes) : Bool :=
  !log.any Event.isRelease && (P.mrcpVersion == .v2 || !tornDown log resourceName)

/-- An audio media is for a channel: it is the only one, or the channel has no list of identifiers, or the list has its
identifier. -/
def Wanted (count mid : Nat) (cmidArr : Option (List Nat)) : Prop :=
  count = 1 ∨ cmidArr = none ∨ ∃ cmids ∈ cmidArr, mid ∈ cmids

instance (count mid : Nat) (cmidArr : Option (List Nat)) : Decidable (Wanted count mid cmidArr) := by
  exact inferInstanceAs (Decidable (_ ∨ _ ∨ _))

/-- **The associations follow the offers**: an audio media is associated with a live channel if and only if it is for
the channel. -/
def Session.Follows (P : Profile κ) (s : Session κ σ μ ε D) : Prop :=
  ∀ slot ∈ s.terminations, ∀ channel ∈ s.channels, ∀ termination ∈ channel.engineTermination,
    live P s.log channel.resourceName →
      ((slot.termination, some termination) ∈ associations s.log ↔
        Wanted s.terminations.length slot.mid channel.cmidArr)

theorem wanted_iff (s : Session κ σ μ ε D) (mid : Nat) (channel : Channel κ σ μ D) :
    s.associated mid channel ↔ Wanted s.terminations.length mid channel.cmidArr := by
  unfold associated Wanted
  cases channel.cmidArr <;> simp

theorem Wanted.several {count count' mid : Nat} {cmidArr : Option (List Nat)} (h : Wanted count mid cmidArr)
    (hc : 2 ≤ count) : Wanted count' mid cmidArr := by
  rcases h with ho | h
  · omega
  · exact Or.inr h

/-! ## What matters for associations -/

def Event.isSteady : Event μ ε D → Bool
  | .dispatch (.offer _) | .release => false
  | _ => true

structure Session.Placed (s : Session κ σ μ ε D) : Prop where
  slots : ∀ (i : Nat) (place : Place), s.places[i]? = some place → place.termination = .rtp i ∧ place.id = i
  engines : ∀ (i : Nat) (party : Party), s.parties[i]? = some party →
    party.termination = none ∨ party.termination = some (.engine i)

variable {M : κ → StateMachine σ μ ε D} {P : Profile κ} {W : Environment} {s t u : Session κ σ μ ε D}

variable {event : Event μ ε D}

theorem associate_quiet (h : event.isQuiet) (pairs : List (Termination × Option Termination)) :
    associate pairs event = pairs := by
  unfold associate
  split
  · simp [isQuiet] at h
  · simp [isQuiet] at h
  · rfl

theorem Event.isSteady_of_isQuiet (h : event.isQuiet) : event.isSteady := by
  unfold isSteady
  split
  · simp [isQuiet] at h
  · simp [isQuiet] at h
  · rfl

variable {events : List (Event μ ε D)}

theorem all_isSteady (h : events.all isQuiet) : events.all isSteady :=
  all_eq_true.2 fun event he => isSteady_of_isQuiet (all_eq_true.1 h event he)

theorem tear_steady (h : event.isSteady) (resourceName : Bytes) (down : Bool) :
    tear resourceName down event = down := by
  unfold tear
  split
  · simp [isSteady] at h
  · rfl

theorem isRelease_steady (h : event.isSteady) : event.isRelease = false := by
  unfold isRelease
  split
  · simp [isSteady] at h
  · rfl

variable (log : List (Event μ ε D))

theorem associations_quiet (h : events.all isQuiet) : associations (log ++ events) = associations log := by
  unfold associations
  rw [foldl_append]
  induction events generalizing log with
  | nil => rfl
  | cons event events ih =>
    obtain ⟨hq, hr⟩ := Bool.and_eq_true_iff.1 h
    rw [foldl_cons, associate_quiet hq]
    exact ih log hr

theorem tornDown_steady (h : events.all isSteady) (resourceName : Bytes) :
    tornDown (log ++ events) resourceName = tornDown log resourceName := by
  unfold tornDown
  rw [foldl_append]
  induction events generalizing log with
  | nil => rfl
  | cons event events ih =>
    obtain ⟨hs, hr⟩ := Bool.and_eq_true_iff.1 h
    rw [foldl_cons, tear_steady hs]
    exact ih log hr

theorem live_steady (h : events.all isSteady) (resourceName : Bytes) :
    live P (log ++ events) resourceName = live P log resourceName := by
  have hr : events.any isRelease = false := by
    rw [any_eq_false]
    intro event he
    rw [isRelease_steady (all_eq_true.1 h event he)]
    exact Bool.false_ne_true
  unfold live
  rw [tornDown_steady log h, any_append, hr, Bool.or_false]

theorem length_places (s : Session κ σ μ ε D) : s.places.length = s.terminations.length := length_map _

theorem follows_iff : s.Follows P ↔ ∀ place ∈ s.places, ∀ party ∈ s.parties, ∀ termination ∈ party.termination,
    live P s.log party.resourceName →
      ((place.termination, some termination) ∈ associations s.log ↔ Wanted s.places.length place.mid party.cmidArr) := by
  rw [length_places]
  unfold Session.Follows places parties
  rw [forall_mem_map]
  simp only [forall_mem_map]
  rfl

/-! ## What operations leave -/

/-- **What the operations of a session leave** that do not process offers: all stays as it is unless the session is
released. -/
structure Leaves (s t : Session κ σ μ ε D) : Prop where
  placed : s.Placed → t.Placed
  log : ∃ events, t.log = s.log ++ events ∧ (events.any Event.isRelease ∨
    t.parties = s.parties ∧ t.places = s.places ∧ events.all Event.isQuiet ∧
      (t.state = .terminating → s.state = .terminating))

theorem Session.Placed.congr (h : s.Placed) (hp : t.parties = s.parties) (hl : t.places = s.places) :
    t.Placed := ⟨hl ▸ h.slots, hp ▸ h.engines⟩

theorem Leaves.same (hg : t.log = s.log) (hp : t.parties = s.parties) (hl : t.places = s.places)
    (hs : t.state = s.state) : Leaves s t :=
  ⟨fun h => h.congr hp hl, [], by rw [hg, append_nil],
    Or.inr ⟨hp, hl, rfl, fun h => hs ▸ h⟩⟩

open Leaves

theorem Leaves.refl (s : Session κ σ μ ε D) : Leaves s s := same rfl rfl rfl rfl

theorem Leaves.trans (h : Leaves s t) (h' : Leaves t u) : Leaves s u := by
  obtain ⟨hpl, events, hl, h⟩ := h
  obtain ⟨hpl', events', hl', h'⟩ := h'
  refine ⟨hpl' ∘ hpl, events ++ events', by rw [hl', hl, append_assoc], ?_⟩
  rw [any_append, all_append, Bool.or_eq_true_iff, Bool.and_eq_true_iff]
  rcases h with hr | ⟨hpr, hp, hq, hs⟩
  · exact Or.inl (Or.inl hr)
  · rcases h' with hr | ⟨hpr', hp', hq', hs'⟩
    · exact Or.inl (Or.inr hr)
    · exact Or.inr ⟨hpr'.trans hpr, hp'.trans hp, ⟨hq, hq'⟩, hs ∘ hs'⟩

theorem Leaves.quiet (hl : t.log = s.log ++ [event]) (hq : event.isQuiet) (hp : t.parties = s.parties)
    (hpl : t.places = s.places) (hs : t.state = s.state) : Leaves s t :=
  ⟨fun h => h.congr hp hpl, [event], hl, Or.inr ⟨hp, hpl, by simpa using hq, fun h => hs ▸ h⟩⟩

theorem stateSet_leaves (s : Session κ σ μ ε D) {state : SessionState} (h : state ≠ .terminating) :
    Leaves s (s.stateSet state) :=
  ⟨fun hp => hp.congr rfl rfl, [], (append_nil _).symm,
    Or.inr ⟨rfl, rfl, rfl, fun hs => absurd hs h⟩⟩

theorem complete_leaves (s : Session κ σ μ ε D) (subrequest : Subrequest) : Leaves s (s.complete subrequest) :=
  Leaves.quiet (rfl : _ = s.log ++ [Event.complete subrequest]) rfl rfl rfl rfl

variable {f : Channel κ σ μ D → Channel κ σ μ D}

theorem parties_modifyChannel (s : Session κ σ μ ε D) (i : Nat)
    (hf : ∀ channel, s.channels[i]? = some channel → (f channel).party = channel.party) :
    (s.modifyChannel i f).parties = s.parties := by
  refine ext_getElem? fun j => ?_
  unfold parties
  rw [List.getElem?_map, List.getElem?_map, getElem?_modifyChannel]
  split_ifs with hi
  · subst hi
    cases hc : s.channels[i]? with
    | none => rfl
    | some channel => exact congrArg some (hf channel hc)
  · rfl

theorem places_modifySlot (s : Session κ σ μ ε D) (i : Nat) {f : Slot → Slot} (hf : ∀ slot, (f slot).place = slot.place) :
    (s.modifySlot i f).places = s.places := by
  refine ext_getElem? fun j => ?_
  unfold places
  rw [List.getElem?_map, List.getElem?_map, getElem?_modifySlot]
  split_ifs
  · cases s.terminations[j]? <;> simp [hf]
  · rfl

variable {progress : Progress}

theorem Changes.leaves (h : Changes progress s t) (hp : progress ≠ .offering) : Leaves s t := by
  induction h with
  | refl => exact Leaves.refl s
  | same _ hu ih =>
    simp only [Session.matter, Prod.mk.injEq] at hu
    obtain ⟨hc, ht, -, -, -, -, hl, -, -, hs, -⟩ := hu
    exact ih.trans (Leaves.same hl (congrArg (map Channel.party) hc) (congrArg (map Slot.place) ht) hs)
  | see _ event hq ih => exact ih.trans (Leaves.quiet rfl hq rfl rfl rfl)
  | request _ subrequest hq _ ih => exact ih.trans (Leaves.quiet rfl (hq.resolve_left hp) rfl rfl rfl)
  | complete _ subrequest _ ih => exact ih.trans (complete_leaves _ subrequest)
  | modifyChannel _ i f hf ih =>
    exact ih.trans (Leaves.same rfl (parties_modifyChannel _ i fun _ _ => congrArg Prod.fst (hf _)) rfl rfl)
  | modifySlot _ i f hf ih => exact ih.trans (Leaves.same rfl rfl (places_modifySlot _ i (hf.resolve_left hp)) rfl)
  | pushSlot _ slot ho => exact absurd ho hp
  | modifyAnswer _ f _ ih =>
    refine ih.trans ?_
    unfold Session.modifyAnswer
    split <;> exact Leaves.same rfl rfl rfl rfl
  | modifyOffer _ f _ ih => exact ih.trans (Leaves.same rfl rfl rfl rfl)
  | stateSet _ state _ hs ih => exact ih.trans (stateSet_leaves _ hs)
  | engineSet _ i calls _ he ht ih =>
    refine ih.trans (Leaves.same rfl (parties_modifyChannel _ i fun channel hc => ?_) rfl rfl)
    obtain ⟨channel', hc', he⟩ := Option.bind_eq_some_iff.1 he
    obtain rfl : channel' = channel := Option.some.inj (hc'.symm.trans hc)
    simp [Channel.party, Channel.engineTermination, he, ht]

theorem answerSend_leaves (s : Session κ σ μ ε D) : Leaves s s.answerSend := by
  unfold answerSend
  split
  · exact same rfl rfl rfl rfl
  · exact Leaves.quiet rfl rfl rfl rfl rfl

theorem engineChannelsUpdate_leaves (s : Session κ σ μ ε D) : Leaves s (s.engineChannelsUpdate P W) := by
  cases ho : s.offer with
  | none =>
    unfold engineChannelsUpdate
    rw [ho]
    exact refl s
  | some descriptor =>
    obtain ⟨t, hc, heq⟩ := engineChannelsUpdate_changes (P := P) (W := W) s (by simp [ho])
    rw [heq]
    split_ifs
    · exact (hc.leaves (by decide)).trans (answerSend_leaves t)
    · exact hc.leaves (by decide)

theorem terminateSend_placed (h : s.Placed) : s.terminateSend.Placed := by
  refine ⟨h.slots, fun i party hi => Or.inl ?_⟩
  have hi : ((s.channels.map fun channel => { channel with controlChannel := false, engineChannel := none }).map
      Channel.party)[i]? = some party := hi
  rw [map_map, List.getElem?_map] at hi
  obtain ⟨channel, -, rfl⟩ := Option.map_eq_some_iff.1 hi
  rfl

theorem released_leaves (hp : s.Placed → t.Placed) (events : List (Event μ ε D))
    (hl : t.log = s.log ++ .release :: events) : Leaves s t := ⟨hp, .release :: events, hl, Or.inl rfl⟩

theorem terminateProcess_leaves (s : Session κ σ μ ε D) : Leaves s (s.terminateProcess W) := by
  obtain ⟨t, u, ht, hc, heq⟩ := terminateProcess_changes (W := W) s
  have ho : (s.Placed → t.Placed) ∧ ∃ events, t.log = s.log ++ .release :: events := by
    rcases ht with rfl | rfl
    · exact ⟨fun h => h.congr rfl rfl, [], rfl⟩
    · exact ⟨fun h => h.congr rfl rfl, [.start .resetAssociations], append_assoc _ _ _⟩
  obtain ⟨hs, events, hl⟩ := ho
  obtain ⟨hp, events', hl', -⟩ := hc.leaves (by decide)
  have hu : u.log = s.log ++ .release :: (events ++ events') := by rw [hl', hl]; simp
  rw [heq]
  split_ifs
  · refine released_leaves (fun h => terminateSend_placed (hp (hs h)))
      (events ++ events' ++ [.terminateResponse]) ?_
    show u.log ++ [terminateResponse] = _
    rw [hu]
    simp
  · exact released_leaves (hp ∘ hs) _ hu

/-- **The session is released, or its associations follow the offers**, and it is not about to be removed. -/
structure Session.Attends (P : Profile κ) (s : Session κ σ μ ε D) : Prop where
  placed : s.Placed
  follows : s.log.any Event.isRelease ∨ s.state ≠ .terminating ∧ s.Follows P

theorem Session.Attends.leaves (h : s.Attends P) (h' : Leaves s t) : t.Attends P := by
  obtain ⟨hpl, events, hl, h'⟩ := h'
  refine ⟨hpl h.placed, ?_⟩
  rcases h.follows with hr | ⟨hs, hf⟩
  · exact Or.inl (by rw [hl, any_append, hr, Bool.true_or])
  · rcases h' with hr | ⟨hpr, hp, hq, hs'⟩
    · exact Or.inl (by rw [hl, any_append, hr, Bool.or_true])
    · refine Or.inr ⟨fun ht => hs (hs' ht), ?_⟩
      rw [follows_iff, hpr, hp, hl]
      simp only [live_steady _ (all_isSteady hq), associations_quiet _ hq]
      exact follows_iff.1 hf

theorem Session.Attends.terminateSend (h : s.Attends P) (hs : s.state = .terminating) :
    s.terminateSend.Attends P := by
  refine ⟨terminateSend_placed h.placed, ?_⟩
  rcases h.follows with hr | ⟨ho, -⟩
  · refine Or.inl ?_
    show (s.log ++ [terminateResponse]).any isRelease = true
    rw [any_append, hr, Bool.true_or]
  · exact absurd hs ho

theorem subrequestRemove_attends (h : s.Attends P) : (s.subrequestRemove P W).Attends P := by
  unfold subrequestRemove
  split_ifs
  · exact h
  · have hc : ({ s with subrequestCount := s.subrequestCount - 1 } : Session κ σ μ ε D).Attends P :=
      h.leaves (same rfl rfl rfl rfl)
    dsimp only
    split_ifs
    · exact hc
    · split
      · exact hc
      · exact hc.leaves (engineChannelsUpdate_leaves _)
      · exact hc.leaves (answerSend_leaves _)
      · exact hc.leaves (terminateProcess_leaves _)
      · next hs => exact hc.terminateSend hs

theorem framed_attends (P : Profile κ) (W : Environment) :
    Framed P W fun s : Session κ σ μ ε D => s.Attends P :=
  ⟨fun h hc => h.leaves (hc.leaves (by decide)), subrequestRemove_attends⟩

theorem deactivate_attends (h : s.Attends P) : (s.deactivate M P W).Attends P := by
  unfold deactivate
  have hs := h.leaves (stateSet_leaves s (by decide : SessionState.deactivating ≠ .terminating))
  have ha : ((List.range (s.stateSet .deactivating).channels.length).foldl (machineDeactivate M P W)
      (s.stateSet .deactivating)).Attends P := by
    generalize s.stateSet .deactivating = t at hs ⊢
    generalize List.range t.channels.length = is
    induction is generalizing t with
    | nil => exact hs
    | cons i is ih => exact ih _ ((framed_attends P W).machineDeactivate hs i)
  dsimp only
  split_ifs
  · exact ha.leaves (terminateProcess_leaves _)
  · exact ha

end UniMrcp.MrcpServer
