import UniMrcp.MrcpServer.Session.Books

/-!
# Changes of a session

What the operations of a session are made of, but for those that end a phase. What each change keeps, they keep.
-/

namespace UniMrcp.MrcpServer

open Apt MrcpEngine List Event Session SessionDescriptor

variable {κ σ μ ε D : Type}

/-! ## What is changed -/

structure Party where
  termination : Option Termination
  resourceName : Bytes
  cmidArr : Option (List Nat)
deriving DecidableEq

structure Place where
  termination : Termination
  id : Nat
  mid : Nat
deriving DecidableEq

def Channel.party (channel : Channel κ σ μ D) : Party :=
  ⟨channel.engineTermination, channel.resourceName, channel.cmidArr⟩

def Slot.place (slot : Slot) : Place := ⟨slot.termination, slot.id, slot.mid⟩

def Session.parties (s : Session κ σ μ ε D) : List Party := s.channels.map Channel.party

def Session.places (s : Session κ σ μ ε D) : List Place := s.terminations.map Slot.place

def Session.ids (s : Session κ σ μ ε D) : List Nat := s.channels.map Channel.id

def Event.isQuiet : Event μ ε D → Bool
  | .start .resetAssociations | .start (.addAssociation _ _) | .dispatch (.offer _) | .release => false
  | _ => true

def Subrequest.answers : Subrequest → Option Nat
  | .controlAdd i | .controlModify i => some i
  | _ => none

def SessionDescriptor.resourceNames (descriptor : SessionDescriptor) : List (Option Bytes) :=
  descriptor.controlMediaArr.map (Option.map ControlDescriptor.resourceName)

def SessionDescriptor.answered (descriptor : SessionDescriptor) (i : Nat) : Bool := (descriptor.controlMediaGet i).isSome

def Fills (answer answer' : SessionDescriptor) : Prop :=
  answer'.controlMediaArr.length = answer.controlMediaArr.length ∧ ∀ i, answer.answered i → answer'.answered i

variable (answer : SessionDescriptor)

theorem Fills.refl : Fills answer answer := ⟨rfl, fun _ h => h⟩

theorem Fills.trans {a b c : SessionDescriptor} (h : Fills a b) (h' : Fills b c) : Fills a c :=
  ⟨h'.1.trans h.1, fun i hi => h'.2 i (h.2 i hi)⟩

theorem Fills.controlMediaSet (i : Nat) (media : ControlDescriptor) :
    Fills answer (answer.controlMediaSet i media) := by
  refine ⟨by simp [SessionDescriptor.controlMediaSet], fun j hj => ?_⟩
  unfold answered controlMediaGet SessionDescriptor.controlMediaSet at *
  rw [List.getElem?_set]
  split_ifs with hi hlt
  · rfl
  · rw [← hi, List.getElem?_eq_none (by omega)] at hj
    simp at hj
  · exact hj

/-! ## Changes -/

/-- What is going on: no phase ends, an offer is processed, or engine channels are opened and closed. -/
inductive Progress
  | still
  | offering
  | working
deriving DecidableEq

def Channel.badge (channel : Channel κ σ μ D) : Party × Nat × Option EngineChannel :=
  (channel.party, channel.id, channel.engineChannel)

/-- All of a session but for its requests, its count of subrequests and its flags. -/
def Session.matter (s : Session κ σ μ ε D) :=
  (s.channels, s.terminations, s.offer, s.answer, s.lastOffer, s.lastAnswer, s.log, s.engineCalls, s.removed, s.state,
    s.outstanding)

/-- **The changes of a session**, one after another. -/
inductive Changes (progress : Progress) (s : Session κ σ μ ε D) : Session κ σ μ ε D → Prop
  | refl : Changes progress s s
  | same {t u} (h : Changes progress s t) (hu : u.matter = t.matter) : Changes progress s u
  | see {t} (h : Changes progress s t) (event : Event μ ε D) (hq : event.isQuiet) :
      Changes progress s (t.see event)
  | request {t} (h : Changes progress s t) (subrequest : Subrequest)
      (hq : progress = .offering ∨ (start subrequest : Event μ ε D).isQuiet)
      (hn : progress = .working → subrequest.answers = none) :
      Changes progress s (t.request subrequest)
  | complete {t} (h : Changes progress s t) (subrequest : Subrequest) (hn : subrequest.answers = none) :
      Changes progress s (t.complete subrequest)
  | modifyChannel {t} (h : Changes progress s t) (i : Nat) (f : Channel κ σ μ D → Channel κ σ μ D)
      (hf : ∀ channel, (f channel).badge = channel.badge) : Changes progress s (t.modifyChannel i f)
  | modifySlot {t} (h : Changes progress s t) (i : Nat) (f : Slot → Slot)
      (hf : progress = .offering ∨ ∀ slot, (f slot).place = slot.place) :
      Changes progress s (t.modifySlot i f)
  | pushSlot {t} (h : Changes progress s t) (slot : Slot) (hp : progress = .offering) :
      Changes progress s (t.pushSlot slot)
  | modifyAnswer {t} (h : Changes progress s t) (f : SessionDescriptor → SessionDescriptor)
      (hf : ∀ answer, Fills answer (f answer)) :
      Changes progress s (t.modifyAnswer f)
  | modifyOffer {t} (h : Changes progress s t) (f : SessionDescriptor → SessionDescriptor)
      (hf : ∀ offer, (f offer).resourceNames = offer.resourceNames) :
      Changes progress s (t.modifyOffer f)
  | stateSet {t} (h : Changes progress s t) (state : SessionState) (hp : progress = .working)
      (hs : state ≠ .terminating) : Changes progress s (t.stateSet state)
  | engineSet {t} (h : Changes progress s t) (i : Nat) (calls : List (Nat × EngineCall))
      {engine engine' : EngineChannel} (hp : progress = .working)
      (he : t.channels[i]?.bind Channel.engineChannel = some engine) (ht : engine'.termination = engine.termination) :
      Changes progress s ((t.call calls).modifyChannel i ({ · with engineChannel := some engine' }))

variable {M : κ → StateMachine σ μ ε D} {P : Profile κ} {W : Environment} {progress : Progress}
  {s t u : Session κ σ μ ε D}

open Changes

theorem Changes.trans (h : Changes progress s t) (h' : Changes progress t u) : Changes progress s u := by
  induction h' with
  | refl => exact h
  | same _ hu ih => exact ih.same hu
  | see _ event hq ih => exact ih.see event hq
  | request _ subrequest hq hn ih => exact ih.request subrequest hq hn
  | complete _ subrequest hn ih => exact ih.complete subrequest hn
  | modifyChannel _ i f hf ih => exact ih.modifyChannel i f hf
  | modifySlot _ i f hf ih => exact ih.modifySlot i f hf
  | pushSlot _ slot hp ih => exact ih.pushSlot slot hp
  | modifyAnswer _ f hf ih => exact ih.modifyAnswer f hf
  | modifyOffer _ f hf ih => exact ih.modifyOffer f hf
  | stateSet _ state hp hs ih => exact ih.stateSet state hp hs
  | engineSet _ i calls hp he ht ih => exact ih.engineSet i calls hp he ht

theorem Changes.foldl {α : Type} {f : Session κ σ μ ε D → α → Session κ σ μ ε D}
    (h : ∀ s a, Changes progress s (f s a)) (l : List α) (s : Session κ σ μ ε D) : Changes progress s (l.foldl f s) := by
  induction l generalizing s with
  | nil => exact refl
  | cons a l ih => exact (h s a).trans (ih (f s a))

/-! ## Media -/

section Media

variable (s : Session κ σ μ ε D)

theorem controlMediaReject_changes (id : Nat) (control : ControlDescriptor) :
    Changes progress s (s.controlMediaReject id control) :=
  refl.modifyAnswer _ fun answer => Fills.controlMediaSet answer id _

theorem engineTerminationAdd_changes (i : Nat) (channel : Channel κ σ μ D) :
    Changes progress s (s.engineTerminationAdd i channel) := by
  unfold engineTerminationAdd
  split
  · exact refl
  · exact (refl.modifyChannel i _ fun _ => by rfl).request _ (Or.inr rfl) fun _ => rfl

theorem controlMediaModify_changes (i : Nat) : Changes .offering s (s.controlMediaModify i) := by
  have hs : Changes .offering s (s.modifyChannel i ({ · with waitingForChannel := false })) :=
    refl.modifyChannel i _ fun _ => by rfl
  unfold controlMediaModify
  split
  · exact refl
  · dsimp only
    split
    · exact hs
    · split_ifs
      · exact (hs.modifyChannel i _ fun _ => by rfl).request _ (Or.inl rfl) nofun
      · exact hs.trans (controlMediaReject_changes _ _ _)

theorem associationsSet_changes (slot : Slot) : Changes .offering s (s.associationsSet slot) := by
  refine foldl (fun s i => ?_) slot.channels s
  split
  · exact refl
  · exact refl.request _ (Or.inl rfl) nofun

theorem audioMediaProcess_changes (command : Termination → Subrequest) (i : Nat) :
    Changes .offering s (s.audioMediaProcess P command i) := by
  unfold audioMediaProcess
  split
  · exact refl
  · split
    · exact refl
    · refine Changes.trans ?_ (associationsSet_changes _ _)
      exact ((refl.modifyOffer _ fun _ => by rfl).modifySlot i _ (Or.inl rfl)).request _ (Or.inl rfl) nofun

theorem avMediaOfferProcess_changes (descriptor : SessionDescriptor) :
    Changes .offering s (s.avMediaOfferProcess P descriptor) := by
  unfold avMediaOfferProcess
  refine (foldl (fun s i => audioMediaProcess_changes s .terminationModify i) _ s).trans (foldl (fun s i => ?_) _ _)
  exact (refl.pushSlot _ rfl).trans (audioMediaProcess_changes _ _ _)

/-! ## Engine channels and release -/

@[simp] theorem EngineChannel.virtualOpen_termination (channel : EngineChannel) (status : Bool) :
    (channel.virtualOpen status).1.termination = channel.termination := by
  unfold EngineChannel.virtualOpen
  split_ifs <;> rfl

@[simp] theorem EngineChannel.virtualClose_termination (channel : EngineChannel) (status : Bool) :
    (channel.virtualClose status).1.termination = channel.termination := by
  unfold EngineChannel.virtualClose
  split_ifs <;> rfl

theorem engineChannelOpen_changes (i : Nat) : Changes .working s (s.engineChannelOpen W i) := by
  unfold engineChannelOpen
  split
  · exact refl
  · next engine he =>
    have hs := (refl (s := s)).engineSet i (engine.openCalls i (W.channelOpen i)) rfl he
      (engine.virtualOpen_termination (W.channelOpen i))
    dsimp only
    split_ifs
    · exact hs.request _ (Or.inr rfl) fun _ => rfl
    · exact hs

theorem engineChannelClose_changes (i : Nat) : Changes .working s (s.engineChannelClose W i) := by
  unfold engineChannelClose
  split
  · exact refl
  · next engine he =>
    have hs := (refl (s := s)).engineSet i (engine.closeCalls i (W.channelClose i)) rfl he
      (engine.virtualClose_termination (W.channelClose i))
    dsimp only
    split_ifs
    · exact hs.request _ (Or.inr rfl) fun _ => rfl
    · exact hs

theorem engineChannelUpdate_changes (i : Nat) : Changes .working s (s.engineChannelUpdate W i) := by
  unfold engineChannelUpdate
  split
  · exact refl
  · split_ifs
    · exact engineChannelOpen_changes s i
    · exact engineChannelClose_changes s i

theorem engineChannelsUpdate_changes (ho : s.offer.isSome) : ∃ t, Changes .working s t ∧
    s.engineChannelsUpdate P W = if t.subrequestCount = 0 then t.answerSend else t := by
  have hs : Changes .working s (s.stateSet .initializing) := refl.stateSet _ rfl (by decide)
  obtain ⟨descriptor, hd⟩ := Option.isSome_iff_exists.1 ho
  unfold engineChannelsUpdate
  rw [hd]
  refine ⟨_, ?_, rfl⟩
  cases P.mrcpVersion with
  | v1 =>
    dsimp only
    split
    · exact hs
    · exact hs.trans (engineChannelOpen_changes _ _)
  | v2 => exact hs.trans (foldl (fun s i => engineChannelUpdate_changes s i) _ _)

theorem channelRelease_changes (i : Nat) : Changes .working s (s.channelRelease W i) := by
  unfold channelRelease
  split
  · exact refl
  · dsimp only
    refine Changes.trans ?_ (engineChannelClose_changes _ i)
    split
    · split_ifs
      · exact (refl.modifyChannel i _ fun _ => by rfl).request _ (Or.inr rfl) fun _ => rfl
      · exact refl
    · refine Changes.request (Changes.modifyChannel ?_ i _ fun _ => by rfl) _ (Or.inr rfl) fun _ => rfl
      split_ifs
      · exact (refl.modifyChannel i _ fun _ => by rfl).request _ (Or.inr rfl) fun _ => rfl
      · exact refl

theorem slotRelease_changes (i : Nat) : Changes progress s (s.slotRelease i) := by
  unfold slotRelease
  split
  · exact refl
  · exact (refl.modifySlot i _ (Or.inr fun _ => by rfl)).request _ (Or.inr rfl) fun _ => rfl

end Media

def Session.terminating (s : Session κ σ μ ε D) : Session κ σ μ ε D := (s.see .release).stateSet .terminating

theorem terminateProcess_changes (s : Session κ σ μ ε D) : ∃ t u,
    (t = s.terminating ∨ t = s.terminating.request .resetAssociations) ∧ Changes .working t u ∧
      s.terminateProcess W = if u.subrequestCount = 0 then u.terminateSend else u := by
  refine ⟨if s.context then s.terminating.request .resetAssociations else s.terminating, _, ?_,
    (foldl (fun s i => channelRelease_changes (W := W) s i) _ _).trans
      (foldl (fun s i => slotRelease_changes s i) _ _), rfl⟩
  split_ifs
  · exact Or.inr rfl
  · exact Or.inl rfl

/-! ## Completion -/

/-- A subrequest of the session is completed after some changes, or not. -/
def Removes (P : Profile κ) (W : Environment) (s u : Session κ σ μ ε D) : Prop :=
  ∃ t, Changes .still s t ∧ t.ledger = s.ledger ∧ (u = t ∨ u = t.subrequestRemove P W)

theorem removes_refl (s : Session κ σ μ ε D) : Removes P W s s := ⟨s, .refl, rfl, Or.inl rfl⟩

theorem Changes.removes (h : Changes .still s t) (hl : t.ledger = s.ledger) : Removes P W s (t.subrequestRemove P W) :=
  ⟨t, h, hl, Or.inr rfl⟩

section Completion

variable (s : Session κ σ μ ε D)

theorem ledger_modifyAnswer (f : SessionDescriptor → SessionDescriptor) : (s.modifyAnswer f).ledger = s.ledger := by
  unfold Session.modifyAnswer
  split <;> rfl

theorem onChannelModify_removes (i : Nat) (answer : Option ControlDescriptor) :
    Removes P W s (s.onChannelModify P W i answer) := by
  unfold onChannelModify
  split
  · split_ifs
    · exact ((refl.modifyChannel i _ fun _ => by rfl).modifyAnswer _ fun answer =>
        Fills.controlMediaSet answer _ _).removes (ledger_modifyAnswer _ _)
    · exact removes_refl s
  · exact removes_refl s

theorem onChannelRemove_removes (i : Nat) : Removes P W s (s.onChannelRemove P W i) := by
  unfold onChannelRemove
  split
  · exact removes_refl s
  · split_ifs
    · exact (refl.modifyChannel i _ fun _ => by rfl).removes rfl
    · exact removes_refl s

theorem onEngineChannelOpen_removes (status : Bool) : Removes P W s (s.onEngineChannelOpen P W status) := by
  unfold onEngineChannelOpen
  split_ifs
  · exact refl.removes rfl
  · exact (refl.modifyAnswer _ fun _ => by exact ⟨rfl, fun _ h => h⟩).removes (ledger_modifyAnswer _ _)

theorem onChannelTermination_removes (termination : Termination) :
    Removes P W s (s.onChannelTermination P W termination) := by
  unfold onChannelTermination
  split
  · exact removes_refl s
  · split_ifs
    · exact (refl.modifyChannel _ _ fun _ => by rfl).removes rfl
    · exact removes_refl s

theorem onTerminationModify_removes (termination : Termination) (localMedia : Option RtpMedia) :
    Removes P W s (s.onTerminationModify P W termination localMedia) := by
  unfold onTerminationModify
  split
  · exact onChannelTermination_removes s termination
  · next i _ =>
    split
    · exact removes_refl s
    · split_ifs
      · have hs : Changes .still s (s.modifySlot i ({ · with waiting := false })) :=
          refl.modifySlot i _ (Or.inr fun _ => by rfl)
        dsimp only
        split
        · exact hs.removes rfl
        · exact (hs.modifyAnswer _ fun _ => by exact ⟨rfl, fun _ h => h⟩).removes (ledger_modifyAnswer _ _)
      · exact removes_refl s

theorem onTerminationSubtract_removes (termination : Termination) :
    Removes P W s (s.onTerminationSubtract P W termination) := by
  unfold onTerminationSubtract
  split
  · exact onChannelTermination_removes s termination
  · split_ifs
    · exact (refl.modifySlot _ _ (Or.inr fun _ => by rfl)).removes rfl
    · exact removes_refl s

/-- **What the completion of a subrequest leads to.** -/
theorem onCompletion_removes (result : Result) (subrequest : Subrequest) :
    Removes P W s (s.onCompletion P W result subrequest) := by
  have hm : ∀ termination, Removes P W s ((result.remoteMedia.elim s (s.remoteMediaSet termination)).onTerminationModify
      P W termination result.localMedia) := by
    intro termination
    obtain ⟨t, ht, hc, hl⟩ : ∃ t, result.remoteMedia.elim s (s.remoteMediaSet termination) = t ∧
        Changes .still s t ∧ t.ledger = s.ledger := by
      refine ⟨_, rfl, ?_⟩
      cases result.remoteMedia with
      | none => exact ⟨refl, rfl⟩
      | some media =>
        show Changes .still s (s.remoteMediaSet termination media) ∧ (s.remoteMediaSet termination media).ledger = _
        unfold remoteMediaSet
        split
        · exact ⟨refl, rfl⟩
        · exact ⟨refl.modifyOffer _ fun _ => rfl, rfl⟩
    rw [ht]
    obtain ⟨u, hu, hul, hr⟩ := onTerminationModify_removes (P := P) (W := W) t termination result.localMedia
    exact ⟨u, hc.trans hu, hul.trans hl, hr⟩
  unfold onCompletion
  split
  · exact onChannelModify_removes s _ _
  · exact onChannelModify_removes s _ _
  · exact onChannelRemove_removes s _
  · exact hm _
  · exact hm _
  · exact onTerminationSubtract_removes s _
  · exact refl.removes rfl
  · exact refl.removes rfl
  · exact refl.removes rfl
  · exact onEngineChannelOpen_removes s _
  · exact refl.removes rfl
  · exact removes_refl s

end Completion

/-! ## State machines -/

theorem onDispatch_changes (s : Session κ σ μ ε D) (i : Nat) {output : Output μ ε D} (h : output.isDeactivated = false) :
    Changes .still s (onDispatch P W i s output) := by
  have hs : Changes .still s (s.see (.out i output)) := refl.see _ rfl
  unfold onDispatch
  dsimp only
  split
  · split_ifs
    · exact hs.modifyChannel i _ fun _ => by rfl
    · exact hs
  · exact hs.same rfl
  · cases h
  · exact hs

/-- **A property that changes keep**, and the completion of a subrequest. -/
structure Framed (P : Profile κ) (W : Environment) (I : Session κ σ μ ε D → Prop) : Prop where
  changes {s t : Session κ σ μ ε D} (h : I s) (hc : Changes .still s t) : I t
  subrequestRemove {s : Session κ σ μ ε D} (h : I s) : I (s.subrequestRemove P W)

namespace Framed

variable {I : Session κ σ μ ε D → Prop} (F : Framed P W I) (h : I s) (i : Nat)
include F h

theorem removes (hr : Removes P W s u) : I u := by
  obtain ⟨t, hc, -, rfl | rfl⟩ := hr
  · exact F.changes h hc
  · exact F.subrequestRemove (F.changes h hc)

theorem onDispatch (output : Output μ ε D) : I (onDispatch P W i s output) := by
  cases ho : output.isDeactivated with
  | false => exact F.changes h (onDispatch_changes s i ho)
  | true =>
    obtain rfl : output = .deactivated := by cases output <;> simp_all [Output.isDeactivated]
    exact F.subrequestRemove (F.changes h ((refl.see (.out i .deactivated) rfl).complete (.deactivate i) rfl))

theorem settle (r : Option (Handled σ μ ε D)) : I (s.settle P W i r) := by
  unfold Session.settle
  split
  · exact F.changes h (refl.same rfl)
  · next r =>
    have hm : I (s.modifyMachine i fun m => { m with machine := r.machine, pending := m.pending.or r.pending }) :=
      F.changes h (refl.modifyChannel i _ fun _ => by rfl)
    generalize s.modifyMachine i _ = t at hm
    induction r.out generalizing t with
    | nil => exact hm
    | cons output out ih => exact ih _ (F.onDispatch hm i output)

theorem machineDeactivate : I (s.machineDeactivate M P W i) := by
  unfold Session.machineDeactivate
  split
  · exact h
  · dsimp only
    split_ifs
    · exact F.changes (F.settle h i _) (refl.request _ (Or.inr rfl) fun _ => rfl)
    · exact F.settle h i _

theorem onMessageReceive (channel : Option Nat) (resourceName : Bytes) (message : Message μ D) :
    I (s.onMessageReceive M P W channel resourceName message) := by
  unfold Session.onMessageReceive
  split
  · exact h
  · exact F.settle h _ _

theorem proceed : I (s.proceed M P W i) := by
  unfold Session.proceed
  split
  · exact h
  · split
    · exact h
    · exact F.onDispatch (F.changes h ((refl.modifyChannel i _ fun _ => by rfl).see _ rfl)) i _

theorem engineEvent (message : MrcpEngine.Message ε D) : I (s.engineEvent M P W i message) := by
  unfold Session.engineEvent
  split
  · exact h
  · exact F.settle h i _

theorem engineResponse [DecidableEq μ] (message : Message μ D) : I (s.engineResponse M P W i message) := by
  unfold Session.engineResponse
  split
  · exact h
  · exact F.settle (F.changes h (refl.modifyChannel i _ fun _ => by rfl)) i _

end Framed

end UniMrcp.MrcpServer
