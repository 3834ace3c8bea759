import UniMrcp.MrcpServer.Session.Changes
import UniMrcp.MrcpServer.Session.EngineCalls

/-!
# Engine channels of a session

An engine channel is created for a channel of a session, opened and closed by the offers, and destroyed at the end.
-/

namespace UniMrcp.MrcpServer

open Apt Lib MrcpEngine List Session EngineChannel
open Option (map_some map_eq_some_iff)

variable {κ σ μ ε D : Type}

/-! ## What is known of engine channels -/

def Session.engines (s : Session κ σ μ ε D) : List (Option Bool) :=
  s.channels.map fun channel => channel.engineChannel.map EngineChannel.isOpen

def Lives : Option Bool → Option Life → Prop
  | some isOpen, life => life = some (if isOpen then .opened else .closed)
  | none, life => life = some .absent ∨ life = some .destroyed

/-- **The engine channels of a session are what they were called for**, and gone when it is removed. -/
structure Session.Called (s : Session κ σ μ ε D) : Prop where
  life : ∀ (i : Nat) (engine : Option Bool), s.engines[i]? = some engine →
    Lives engine (Life.after (callsOf i s.engineCalls))
  fresh : ∀ call ∈ s.engineCalls, call.1 < s.engines.length
  removed : s.removed → ∀ (i : Nat) (isOpen : Bool), s.engines[i]? ≠ some (some isOpen)

def Session.Shut (s : Session κ σ μ ε D) : Prop := ∀ i : Nat, s.engines[i]? ≠ some (some true)

/-- **The engine channels are closed when the session terminates.** -/
structure Session.Handles (s : Session κ σ μ ε D) : Prop extends s.Called where
  terminating : s.state = .terminating → s.Shut

structure Alike (s t : Session κ σ μ ε D) : Prop where
  engines : t.engines = s.engines
  calls : t.engineCalls = s.engineCalls
  removed : t.removed = s.removed
  state : t.state = s.state

structure Calling (s t : Session κ σ μ ε D) : Prop where
  calls : s.engineCalls <+: t.engineCalls
  called : s.Called → t.Called

/-- **An operation handles engine channels properly.** -/
structure Handling (s t : Session κ σ μ ε D) : Prop where
  calls : s.engineCalls <+: t.engineCalls
  handles : s.Handles → t.Handles

variable {M : κ → StateMachine σ μ ε D} {P : Profile κ} {W : Environment} {s t u : Session κ σ μ ε D}

theorem Alike.refl (s : Session κ σ μ ε D) : Alike s s := ⟨rfl, rfl, rfl, rfl⟩

theorem Alike.trans (h : Alike s t) (h' : Alike t u) : Alike s u :=
  ⟨h'.engines.trans h.engines, h'.calls.trans h.calls, h'.removed.trans h.removed, h'.state.trans h.state⟩

theorem Alike.calling (h : Alike s t) : Calling s t :=
  ⟨h.calls ▸ prefix_rfl, fun hs => ⟨fun i engine hi => by rw [h.calls]; exact hs.life i engine (h.engines ▸ hi),
    fun call hc => by rw [h.engines]; exact hs.fresh call (h.calls ▸ hc),
    fun hr => by rw [h.engines]; exact hs.removed (h.removed ▸ hr)⟩⟩

theorem Calling.trans (h : Calling s t) (h' : Calling t u) : Calling s u :=
  ⟨h.calls.trans h'.calls, h'.called ∘ h.called⟩

theorem Calling.handling (h : Calling s t) (hh : t.state = .terminating → (s.state = .terminating → s.Shut) → t.Shut) :
    Handling s t := ⟨h.calls, fun hs => ⟨h.called hs.toCalled, fun ht => hh ht hs.terminating⟩⟩

theorem Alike.handling (h : Alike s t) : Handling s t := by
  refine h.calling.handling fun ht hs => ?_
  unfold Session.Shut
  rw [h.engines]
  exact hs (h.state ▸ ht)

theorem Handling.refl (s : Session κ σ μ ε D) : Handling s s := (Alike.refl s).handling

theorem Handling.trans (h : Handling s t) (h' : Handling t u) : Handling s u :=
  ⟨h.calls.trans h'.calls, h'.handles ∘ h.handles⟩

open Handling

variable {α : Type} {f : Session κ σ μ ε D → α → Session κ σ μ ε D}

theorem Handling.foldl (h : ∀ s a, Handling s (f s a)) (l : List α) (s : Session κ σ μ ε D) :
    Handling s (l.foldl f s) := by
  induction l generalizing s with
  | nil => exact refl s
  | cons a l ih => exact (h s a).trans (ih (f s a))

/-! ## Operations that have nothing to do with engine channels -/

theorem getElem?_engines (s : Session κ σ μ ε D) (i : Nat) :
    s.engines[i]? = s.channels[i]?.map fun channel => channel.engineChannel.map EngineChannel.isOpen := List.getElem?_map

theorem engines_modifyChannel (s : Session κ σ μ ε D) (i : Nat) {f : Channel κ σ μ D → Channel κ σ μ D}
    (hf : ∀ channel, (f channel).engineChannel = channel.engineChannel) : (s.modifyChannel i f).engines = s.engines := by
  refine ext_getElem? fun j => ?_
  rw [getElem?_engines, getElem?_engines, getElem?_modifyChannel]
  split_ifs
  · cases s.channels[j]? <;> simp [hf]
  · rfl

variable {progress : Progress}

theorem Changes.alike (h : Changes progress s t) (hp : progress ≠ .working) : Alike s t := by
  induction h with
  | refl => exact Alike.refl s
  | same _ hu ih =>
    simp only [Session.matter, Prod.mk.injEq] at hu
    obtain ⟨hc, -, -, -, -, -, -, hl, hr, hs, -⟩ := hu
    exact ih.trans ⟨by unfold Session.engines; rw [hc], hl, hr, hs⟩
  | see _ _ _ ih => exact ih.trans ⟨rfl, rfl, rfl, rfl⟩
  | request _ _ _ _ ih => exact ih.trans ⟨rfl, rfl, rfl, rfl⟩
  | complete _ _ _ ih => exact ih.trans ⟨rfl, rfl, rfl, rfl⟩
  | modifyChannel _ i f hf ih =>
    exact ih.trans ⟨engines_modifyChannel _ i fun channel => congrArg (fun badge => badge.2.2) (hf channel), rfl, rfl, rfl⟩
  | modifySlot _ _ _ _ ih => exact ih.trans ⟨rfl, rfl, rfl, rfl⟩
  | pushSlot _ _ _ ih => exact ih.trans ⟨rfl, rfl, rfl, rfl⟩
  | modifyAnswer _ f _ ih =>
    refine ih.trans ?_
    unfold Session.modifyAnswer
    split <;> exact ⟨rfl, rfl, rfl, rfl⟩
  | modifyOffer _ _ _ ih => exact ih.trans ⟨rfl, rfl, rfl, rfl⟩
  | stateSet _ _ ho => exact absurd ho hp
  | engineSet _ _ _ ho => exact absurd ho hp

theorem see_alike (s : Session κ σ μ ε D) (event : Event μ ε D) : Alike s (s.see event) := ⟨rfl, rfl, rfl, rfl⟩

theorem request_alike (s : Session κ σ μ ε D) (subrequest : Subrequest) : Alike s (s.request subrequest) :=
  ⟨rfl, rfl, rfl, rfl⟩

theorem modifyAnswer_alike (s : Session κ σ μ ε D) (f : SessionDescriptor → SessionDescriptor) :
    Alike s (s.modifyAnswer f) := by
  unfold modifyAnswer
  split <;> exact ⟨rfl, rfl, rfl, rfl⟩

theorem answerSend_alike (s : Session κ σ μ ε D) : Alike s s.answerSend := by
  unfold answerSend
  split <;> exact ⟨rfl, rfl, rfl, rfl⟩

theorem Changes.alike_still (h : Changes .still s t) : Alike s t := h.alike (by decide)

theorem Changes.alike_offering (h : Changes .offering s t) : Alike s t := h.alike (by decide)

/-! ## Engine channels -/

theorem length_engines (s : Session κ σ μ ε D) : s.engines.length = s.channels.length := length_map _

theorem engines_engineSet (s : Session κ σ μ ε D) (i : Nat) (engine : EngineChannel) (j : Nat) :
    (s.modifyChannel i ({ · with engineChannel := some engine })).engines[j]? =
      if i = j then s.engines[j]?.map fun _ => some engine.isOpen else s.engines[j]? := by
  rw [getElem?_engines, getElem?_engines, getElem?_modifyChannel]
  split_ifs
  · cases s.channels[j]? <;> rfl
  · rfl

variable {i : Nat}

theorem engines_of_bind {engine : EngineChannel} (h : s.channels[i]?.bind Channel.engineChannel = some engine) :
    s.engines[i]? = some (some engine.isOpen) := by
  obtain ⟨channel, hc, he⟩ := Option.bind_eq_some_iff.1 h
  rw [getElem?_engines, hc, map_some, he]
  rfl

def lifeOf (isOpen : Bool) : Life := if isOpen then .opened else .closed

theorem engineSet_calling {engine engine' : EngineChannel}
    (hn : s.channels[i]?.bind Channel.engineChannel = some engine) (calls : List EngineCall)
    (hf : calls.foldlM Life.next (lifeOf engine.isOpen) = some (lifeOf engine'.isOpen)) :
    Calling s ((s.call (calls.map fun call => (i, call))).modifyChannel i
      ({ · with engineChannel := some engine' })) := by
  obtain ⟨t, ht⟩ : ∃ t, t = (s.call (calls.map fun call => (i, call))).modifyChannel i
    ({ · with engineChannel := some engine' }) := ⟨_, rfl⟩
  have he : ∀ j, t.engines[j]? = if i = j then s.engines[j]?.map fun _ => some engine'.isOpen else s.engines[j]? := by
    rw [ht]
    exact engines_engineSet _ i engine'
  have hl : t.engines.length = s.engines.length := by
    rw [ht, length_engines, length_engines]
    exact length_modify _ _ _
  have hc : t.engineCalls = s.engineCalls ++ calls.map fun call => (i, call) := by rw [ht]; rfl
  have hr : t.removed = s.removed := by rw [ht]; rfl
  rw [← ht]
  have hi := engines_of_bind hn
  refine ⟨hc ▸ prefix_append _ _, fun h => ⟨fun j engine'' hj => ?_, fun call hca => ?_,
    fun hg j isOpen hj => ?_⟩⟩
  · rw [hc, callsOf_append]
    rw [he] at hj
    by_cases hij : i = j
    · subst hij
      rw [if_pos rfl, hi] at hj
      obtain rfl : some engine'.isOpen = engine'' := Option.some.inj hj
      have hb : Life.after (callsOf i s.engineCalls) = some (lifeOf engine.isOpen) := h.life i _ hi
      rw [callsOf_tagged, Life.after_append, hb]
      exact hf
    · rw [if_neg hij] at hj
      rw [callsOf_tagged_other hij, append_nil]
      exact h.life j engine'' hj
  · rw [hl]
    rw [hc] at hca
    rcases mem_append.1 hca with ho | hw
    · exact h.fresh call ho
    · obtain ⟨_, -, rfl⟩ := mem_map.1 hw
      exact (List.getElem?_eq_some_iff.1 hi).1
  · exact h.removed (hr ▸ hg) i _ hi

variable (engine : EngineChannel)

theorem openCalls_eq (i : Nat) (status : Bool) :
    engine.openCalls i status = (if engine.isOpen then [] else [.openChannel status]).map fun call => (i, call) := by
  unfold openCalls
  split_ifs <;> rfl

theorem closeCalls_eq (i : Nat) (status : Bool) :
    engine.closeCalls i status = (if engine.isOpen then [.closeChannel status] else []).map fun call => (i, call) := by
  unfold closeCalls
  split_ifs <;> rfl

theorem engineChannelOpen_handling (i : Nat) (ht : s.state ≠ .terminating) :
    Handling s (s.engineChannelOpen W i) ∧ (s.engineChannelOpen W i).state = s.state := by
  unfold engineChannelOpen
  split
  · exact ⟨refl s, rfl⟩
  · next engine he =>
    have hs : Handling s ((s.call (engine.openCalls i (W.channelOpen i))).modifyChannel i
        ({ · with engineChannel := some (engine.virtualOpen (W.channelOpen i)).1 })) := by
      rw [openCalls_eq]
      refine (engineSet_calling he _ ?_).handling fun hr => absurd hr ht
      unfold virtualOpen
      cases ho : engine.isOpen with
      | true => simp [ho]
      | false => cases W.channelOpen i <;> rfl
    dsimp only
    split_ifs
    · exact ⟨hs.trans (request_alike _ _).handling, rfl⟩
    · exact ⟨hs, rfl⟩

def ClosedAt (i : Nat) (s t : Session κ σ μ ε D) : Prop :=
  ∀ j : Nat, t.engines[j]? = if i = j then s.engines[j]?.map fun engine => engine.map fun _ => false else s.engines[j]?

theorem ClosedAt.shut (h : ClosedAt i s t) (hs : s.Shut) : t.Shut := by
  intro j hj
  rw [h j] at hj
  split_ifs at hj
  · obtain ⟨engine, -, he⟩ := map_eq_some_iff.1 hj
    cases engine <;> cases he
  · exact hs j hj

/-- **An engine channel is closed**, if it is open. -/
theorem engineChannelClose_calling (s : Session κ σ μ ε D) (i : Nat) :
    Calling s (s.engineChannelClose W i) ∧ (s.engineChannelClose W i).state = s.state ∧
      ClosedAt i s (s.engineChannelClose W i) := by
  unfold engineChannelClose
  split
  · next h =>
    refine ⟨(Alike.refl s).calling, rfl, fun j => ?_⟩
    split_ifs with hi
    · subst hi
      rw [getElem?_engines]
      rcases hh : s.channels[i]? with _ | channel
      · rfl
      · rw [hh, Option.bind_some] at h
        rw [map_some, h]
        rfl
    · rfl
  · next engine hn =>
    have hc : (engine.virtualClose (W.channelClose i)).1.isOpen = false := by
      unfold virtualClose
      split_ifs with ho
      · rfl
      · simpa using ho
    have hs : Calling s ((s.call (engine.closeCalls i (W.channelClose i))).modifyChannel i
        ({ · with engineChannel := some (engine.virtualClose (W.channelClose i)).1 })) := by
      rw [closeCalls_eq]
      refine engineSet_calling hn _ ?_
      rw [hc]
      cases engine.isOpen <;> rfl
    have he : ClosedAt i s ((s.call (engine.closeCalls i (W.channelClose i))).modifyChannel i
        ({ · with engineChannel := some (engine.virtualClose (W.channelClose i)).1 })) := by
      intro j
      rw [engines_engineSet, hc]
      split_ifs with hi
      · subst hi
        rw [show (s.call _).engines = s.engines from rfl, engines_of_bind hn]
        rfl
      · rfl
    dsimp only
    split_ifs
    · exact ⟨hs.trans (request_alike _ _).calling, rfl, he⟩
    · exact ⟨hs, rfl, he⟩

theorem engineChannelClose_handling (s : Session κ σ μ ε D) (i : Nat) : Handling s (s.engineChannelClose W i) := by
  obtain ⟨hl, h, hc⟩ := engineChannelClose_calling (W := W) s i
  exact hl.handling fun ht hs => hc.shut (hs (h ▸ ht))

theorem engineChannelUpdate_handling (i : Nat) (hs : s.state ≠ .terminating) :
    Handling s (s.engineChannelUpdate W i) ∧ (s.engineChannelUpdate W i).state = s.state := by
  unfold engineChannelUpdate
  split
  · exact ⟨refl s, rfl⟩
  · split_ifs
    · exact engineChannelOpen_handling i hs
    · exact ⟨engineChannelClose_handling s i, (engineChannelClose_calling s i).2.1⟩

theorem stateSet_handling (s : Session κ σ μ ε D) {state : SessionState} (h : state ≠ .terminating) :
    Handling s (s.stateSet state) :=
  ⟨prefix_rfl, fun hs => ⟨⟨hs.life, hs.fresh, hs.removed⟩, fun ht => absurd ht h⟩⟩

theorem engineChannelsUpdate_handling (s : Session κ σ μ ε D) : Handling s (s.engineChannelsUpdate P W) := by
  have hs := stateSet_handling s (by decide : SessionState.initializing ≠ .terminating)
  have hn : ∀ t, Handling (s.stateSet .initializing) t →
      Handling s (if t.subrequestCount = 0 then t.answerSend else t) := by
    intro t h
    split_ifs
    · exact (hs.trans h).trans (answerSend_alike t).handling
    · exact hs.trans h
  have ha : ∀ (is : List Nat) (t : Session κ σ μ ε D), t.state = .initializing →
      Handling t (is.foldl (engineChannelUpdate W) t) := by
    intro is
    induction is with
    | nil => exact fun t _ => refl t
    | cons i is ih =>
      intro t ht
      obtain ⟨hu, hm⟩ := engineChannelUpdate_handling (W := W) (s := t) i (by rw [ht]; decide)
      exact hu.trans (ih _ (hm.trans ht))
  unfold engineChannelsUpdate
  cases ho : s.offer with
  | none => exact refl s
  | some descriptor =>
    cases hv : P.mrcpVersion with
    | v1 =>
      dsimp only
      cases hf : (s.stateSet .initializing).channelFind descriptor.resourceName with
      | none => exact hn _ (refl _)
      | some i =>
        exact hn _ (engineChannelOpen_handling i (by decide : SessionState.initializing ≠ .terminating)).1
    | v2 => exact hn _ (ha _ _ rfl)

/-! ## Termination -/

theorem channelRelease_calling (s : Session κ σ μ ε D) (i : Nat) :
    Calling s (s.channelRelease W i) ∧ (s.channelRelease W i).state = s.state ∧
      ClosedAt i s (s.channelRelease W i) := by
  unfold channelRelease
  split
  · next hn =>
    refine ⟨(Alike.refl s).calling, rfl, fun j => ?_⟩
    split_ifs with hi
    · subst hi
      rw [getElem?_engines, hn]
      rfl
    · rfl
  · next channel hh =>
    have hc : Alike s (if channel.controlChannel then
        (s.modifyChannel i ({ · with waitingForChannel := true })).request (.controlRemove i) else s) := by
      split_ifs
      · exact ((Changes.refl.modifyChannel i _ fun _ => by rfl).request _ (Or.inr rfl) fun _ => rfl).alike_still
      · exact Alike.refl s
    obtain ⟨t, ht⟩ : ∃ t, t = (if channel.controlChannel then
        (s.modifyChannel i ({ · with waitingForChannel := true })).request (.controlRemove i) else s) := ⟨_, rfl⟩
    rw [← ht] at hc ⊢
    cases channel.engineChannel.bind EngineChannel.termination with
    | none =>
      obtain ⟨h, hs, hl⟩ := engineChannelClose_calling (W := W) t i
      exact ⟨hc.calling.trans h, hs.trans hc.state, fun j => by rw [hl j, hc.engines]⟩
    | some termination =>
      have hb : Alike s ((t.modifyChannel i ({ · with waitingForTermination := true })).request
          (.terminationSubtract termination)) :=
        hc.trans ((Changes.refl.modifyChannel i _ fun _ => by rfl).request _ (Or.inr rfl) fun _ => rfl).alike_still
      obtain ⟨h, hs, hl⟩ := engineChannelClose_calling (W := W)
        ((t.modifyChannel i ({ · with waitingForTermination := true })).request (.terminationSubtract termination)) i
      exact ⟨hb.calling.trans h, hs.trans hb.state,
        fun j => by rw [hl j, hb.engines]⟩

theorem terminateSend_calling (hsh : s.Shut) : Calling s s.terminateSend ∧ s.terminateSend.Shut := by
  have hn : ∀ i : Nat, s.terminateSend.engines[i]? = s.engines[i]?.map fun _ => none := by
    intro i
    show ((s.channels.map _).map _)[i]? = _
    rw [map_map, List.getElem?_map, getElem?_engines]
    cases s.channels[i]? <;> rfl
  obtain ⟨held, hh⟩ : ∃ held, held = (List.range s.channels.length).filter fun i =>
    s.channels[i]?.any (·.engineChannel.isSome) := ⟨_, rfl⟩
  have hcl : s.terminateSend.engineCalls = s.engineCalls ++ held.map fun i => (i, .destroy) := by rw [hh]; rfl
  have hnd : held.Nodup := hh ▸ nodup_range.filter _
  have hm : ∀ i : Nat, i ∈ held ↔ ∃ isOpen, s.engines[i]? = some (some isOpen) := by
    intro i
    rw [hh, mem_filter, mem_range, getElem?_engines]
    constructor
    · rintro ⟨-, ha⟩
      obtain ⟨channel, hc, hs⟩ := (Option.any_eq_true _ _).1 ha
      obtain ⟨engine, he⟩ := Option.isSome_iff_exists.1 hs
      exact ⟨engine.isOpen, by rw [hc, map_some, he]; rfl⟩
    · rintro ⟨isOpen, hs⟩
      obtain ⟨channel, hc, he⟩ := map_eq_some_iff.1 hs
      obtain ⟨engine, he, -⟩ := map_eq_some_iff.1 he
      exact ⟨(List.getElem?_eq_some_iff.1 hc).1, by rw [hc]; simp [he]⟩
  refine ⟨⟨hcl ▸ prefix_append _ _, fun h => ⟨fun i engine hi => ?_, fun call hca => ?_,
    fun _ i isOpen hi => ?_⟩⟩, fun i hi => ?_⟩
  · rw [hn] at hi
    obtain ⟨engine', he', rfl⟩ := map_eq_some_iff.1 hi
    have hl := h.life i engine' he'
    rw [hcl, callsOf_append, callsOf_each hnd]
    cases engine' with
    | none =>
      have ht : i ∉ held := by
        rw [hm, he']
        rintro ⟨_, hb⟩
        cases hb
      rw [if_neg ht, append_nil]
      exact hl
    | some isOpen =>
      have hcls : isOpen = false := by
        by_contra ho
        rw [Bool.not_eq_false] at ho
        exact hsh i (ho ▸ he')
      have hl : Life.after (callsOf i s.engineCalls) = some (if isOpen then .opened else .closed) := hl
      rw [if_pos ((hm i).2 ⟨isOpen, he'⟩), Life.after_append, hl, hcls]
      exact Or.inr rfl
  · rw [hcl] at hca
    rw [length_engines, show s.terminateSend.channels.length = s.channels.length from length_map _, ← length_engines]
    rcases mem_append.1 hca with hd | hw
    · exact h.fresh call hd
    · obtain ⟨i, hi, rfl⟩ := mem_map.1 hw
      obtain ⟨isOpen, hs⟩ := (hm i).1 hi
      exact (List.getElem?_eq_some_iff.1 hs).1
  · rw [hn] at hi
    obtain ⟨_, -, hnn⟩ := map_eq_some_iff.1 hi
    cases hnn
  · rw [hn] at hi
    obtain ⟨_, -, hnn⟩ := map_eq_some_iff.1 hi
    cases hnn

theorem terminateSend_handling (hs : s.state = .terminating) : Handling s s.terminateSend := by
  refine ⟨prefix_append _ _, fun h => ?_⟩
  obtain ⟨hc, hh⟩ := terminateSend_calling (h.terminating hs)
  exact ⟨hc.called h.toCalled, fun _ => hh⟩

theorem terminateProcess_handling (s : Session κ σ μ ε D) : Handling s (s.terminateProcess W) := by
  obtain ⟨t, ht, heq⟩ : ∃ t, Calling s t ∧ s.terminateProcess W =
      let u := (List.range t.channels.length).foldl (channelRelease W) t
      let v := (List.range u.terminations.length).foldl slotRelease u
      if v.subrequestCount = 0 then v.terminateSend else v := by
    refine ⟨_, ?_, rfl⟩
    have hs : Calling s ((s.see .release).stateSet .terminating) :=
      ⟨prefix_rfl, fun h => ⟨h.life, h.fresh, h.removed⟩⟩
    split_ifs
    · exact hs.trans (request_alike _ _).calling
    · exact hs
  rw [heq]
  dsimp only
  -- the engine channels below a position are closed
  obtain ⟨u, hu⟩ : ∃ u, u = (List.range t.channels.length).foldl (channelRelease W) t := ⟨_, rfl⟩
  have ha : Calling s u ∧ ∀ j, u.engines[j]? =
      if j < t.channels.length then t.engines[j]?.map fun engine => engine.map fun _ => false else t.engines[j]? := by
    rw [hu]
    refine foldl_range_invariant (fun i v => Calling s v ∧ ∀ j : Nat, v.engines[j]? =
      if j < i then t.engines[j]?.map fun engine => engine.map fun _ => false else t.engines[j]?) _
      ⟨ht, fun j => by rw [if_neg (Nat.not_lt_zero j)]⟩ fun i v _ hv => ?_
    obtain ⟨hcl, -, hcls⟩ := channelRelease_calling (W := W) v i
    refine ⟨hv.1.trans hcl, fun j => ?_⟩
    rw [hcls j, hv.2 j]
    rcases Nat.lt_trichotomy j i with hlt | rfl | hgt
    · rw [if_neg (by omega), if_pos hlt, if_pos (by omega)]
    · rw [if_pos rfl, if_neg (Nat.lt_irrefl j), if_pos (by omega)]
    · rw [if_neg (by omega), if_neg (by omega), if_neg (by omega)]
  rw [← hu]
  have hh : u.Shut := by
    intro j hj
    rw [ha.2 j] at hj
    split_ifs at hj with hlt
    · obtain ⟨engine, -, he⟩ := map_eq_some_iff.1 hj
      cases engine <;> cases he
    · rw [List.getElem?_eq_none (by rw [length_engines]; omega)] at hj
      cases hj
  obtain ⟨v, hv⟩ : ∃ v, v = (List.range u.terminations.length).foldl slotRelease u := ⟨_, rfl⟩
  have hl : Alike u v := hv ▸ (Changes.foldl slotRelease_changes _ u).alike_still
  rw [← hv]
  have hvs : v.Shut := by
    unfold Session.Shut
    rw [hl.engines]
    exact hh
  have hc := ha.1.trans hl.calling
  split_ifs
  · obtain ⟨hn, hse⟩ := terminateSend_calling hvs
    exact (hc.trans hn).handling fun _ _ => hse
  · exact hc.handling fun _ _ => hvs

theorem subrequestRemove_handling (s : Session κ σ μ ε D) : Handling s (s.subrequestRemove P W) := by
  unfold subrequestRemove
  split_ifs
  · exact refl s
  · have hc : Handling s { s with subrequestCount := s.subrequestCount - 1 } :=
      Alike.handling ⟨rfl, rfl, rfl, rfl⟩
    dsimp only
    split_ifs
    · exact hc
    · split
      · exact hc
      · exact hc.trans (engineChannelsUpdate_handling _)
      · exact hc.trans (answerSend_alike _).handling
      · exact hc.trans (terminateProcess_handling _)
      · next hs => exact hc.trans (terminateSend_handling hs)

/-! ## Offers -/

structure Offering (s t : Session κ σ μ ε D) : Prop extends Calling s t where
  removed : t.removed = s.removed
  state : t.state = s.state

theorem Alike.offering (h : Alike s t) : Offering s t := ⟨h.calling, h.removed, h.state⟩

theorem Offering.trans (h : Offering s t) (h' : Offering t u) : Offering s u :=
  ⟨h.toCalling.trans h'.toCalling, h'.removed.trans h.removed, h'.state.trans h.state⟩

theorem Offering.foldl (h : ∀ s a, s.removed = false → Offering s (f s a)) (l : List α) (s : Session κ σ μ ε D)
    (hs : s.removed = false) : Offering s (l.foldl f s) := by
  induction l generalizing s with
  | nil => exact (Alike.refl s).offering
  | cons a l ih =>
    have ht := h s a hs
    exact ht.trans (ih (f s a) (ht.removed.trans hs))

theorem push_offering {engine : Option EngineChannel} (hl : engine.all (!·.isOpen)) (hs : s.removed = false)
    (he : t.engines = s.engines ++ [engine.map EngineChannel.isOpen])
    (hca : t.engineCalls = s.engineCalls ++ if engine.isSome then [(s.channels.length, .create)] else [])
    (hr : t.removed = s.removed) (hst : t.state = s.state) : Offering s t := by
  rw [← length_engines] at hca
  have hn : ∀ call ∈ (if engine.isSome then [(s.engines.length, EngineCall.create)] else []),
      call.1 = s.engines.length := by
    intro call hc
    split_ifs at hc
    · rw [mem_singleton.1 hc]
    · cases hc
  refine ⟨⟨hca ▸ prefix_append _ _, fun h => ⟨fun i engine' hi => ?_, fun call hc => ?_,
    fun hg => ?_⟩⟩, hr, hst⟩
  · rw [he] at hi
    rw [hca, callsOf_append]
    rcases Nat.lt_or_ge i s.engines.length with hlt | hge
    · rw [List.getElem?_append_left hlt] at hi
      rw [callsOf_notMem fun call hc => (hn call hc).trans_ne (Nat.ne_of_gt hlt), append_nil]
      exact h.life i engine' hi
    · -- nothing was called for the new channel before
      rw [callsOf_notMem fun call hc => Nat.ne_of_lt (Nat.lt_of_lt_of_le (h.fresh call hc) hge), nil_append]
      obtain ⟨hlt, -⟩ := List.getElem?_eq_some_iff.1 hi
      rw [length_append, length_singleton] at hlt
      obtain rfl : i = s.engines.length := by omega
      rw [List.getElem?_concat_length, Option.some.injEq] at hi
      subst hi
      cases engine with
      | none => exact Or.inl rfl
      | some engine =>
        have ht : engine.isOpen = false := by simpa using hl
        show Lives (some engine.isOpen) (Life.after (callsOf s.engines.length [(s.engines.length, .create)]))
        rw [callsOf_self, ht]
        rfl
  · rw [he, length_append]
    rw [hca] at hc
    rcases mem_append.1 hc with ho | ha
    · exact Nat.lt_succ_of_lt (h.fresh call ho)
    · rw [hn call ha]
      exact Nat.lt_succ_self _
  · rw [hr, hs] at hg
    cases hg

theorem channelCreate_calls (s : Session κ σ μ ε D) (resourceName : Bytes) (id : Nat) (cmidArr : Option (List Nat)) :
    match s.channelCreate M P W resourceName id cmidArr with
    | (t, none) => Alike s t
    | (t, some channel) =>
      t.channels = s.channels ∧
        t.engineCalls = s.engineCalls ++
          (if channel.engineChannel.isSome then [(s.channels.length, .create)] else []) ∧
        t.removed = s.removed ∧ t.state = s.state ∧ channel.engineChannel.all (!·.isOpen) := by
  unfold channelCreate
  split_ifs
  · dsimp only
    have hc : ((P.engineFind resourceName).bind fun _ => (W.engineChannelCreate id).map fun media =>
        { termination := media.map fun _ => Termination.engine s.channels.length
          audio := media.bind MediaTermination.audio : EngineChannel }).all (!·.isOpen) := by
      cases P.engineFind resourceName with
      | none => rfl
      | some _ => cases W.engineChannelCreate id <;> rfl
    split_ifs
    · exact ⟨rfl, rfl, rfl, rfl, hc⟩
    · have ha := modifyAnswer_alike s ({ · with status := .unacceptableResource })
      refine ⟨?_, ?_, ha.removed, ha.state, hc⟩
      · unfold modifyAnswer
        split <;> rfl
      · rw [append_nil]
        exact ha.calls
  · exact modifyAnswer_alike s _

variable (descriptor : SessionDescriptor)

theorem resourceOfferProcess_offering (hs : s.removed = false) :
    Offering s (s.resourceOfferProcess M P W descriptor).1 := by
  unfold resourceOfferProcess
  split_ifs
  · exact (Alike.refl s).offering
  · have h := channelCreate_calls (M := M) (P := P) (W := W) s descriptor.resourceName s.channels.length none
    revert h
    rcases s.channelCreate M P W descriptor.resourceName s.channels.length none with ⟨t, _ | channel⟩
    · exact Alike.offering
    · rintro ⟨hh, hc, hr, ht, hl⟩
      dsimp only
      split_ifs with he
      · -- without an engine channel, nothing was called
        rw [Option.isNone_iff_eq_none] at he
        rw [he, if_neg (by decide), append_nil] at hc
        exact Alike.offering ⟨by unfold Session.engines; rw [hh], hc, hr, ht⟩
      · have hp : Offering s (t.pushChannel channel) := by
          refine push_offering hl hs ?_ hc hr ht
          show (t.channels ++ [channel]).map _ = _
          rw [hh, map_append]
          rfl
        exact hp.trans (engineTerminationAdd_changes _ _ _).alike_still.offering
  · exact (Alike.refl s).offering

theorem controlMediaAdd_offering (s : Session κ σ μ ε D) (i : Nat) (hs : s.removed = false) :
    Offering s (s.controlMediaAdd M P W i) := by
  unfold controlMediaAdd
  split
  · exact (Alike.refl s).offering
  · next control _ =>
    have hc := channelCreate_calls (M := M) (P := P) (W := W) s control.resourceName i (some control.cmidArr)
    revert hc
    rcases s.channelCreate M P W control.resourceName i (some control.cmidArr) with ⟨t, _ | channel⟩
    · exact Alike.offering
    · rintro ⟨hh, h, hr, ht, hl⟩
      refine Offering.trans ?_ (engineTerminationAdd_changes _ _ _).alike_still.offering
      have hp : ∀ f, Offering s ((t.modifyOffer f).pushChannel channel) := by
        intro f
        refine push_offering hl hs ?_ h hr ht
        show (t.channels ++ [channel]).map _ = _
        rw [hh, map_append]
        rfl
      split_ifs
      · exact (hp _).trans ((Changes.refl.modifyChannel _ _ fun _ => by rfl).request _ (Or.inl rfl) nofun).alike_offering.offering
      · exact (hp _).trans (modifyAnswer_alike _ _).offering

theorem mediaOfferProcess_offering (hs : s.removed = false) : Offering s (s.mediaOfferProcess M P W descriptor) := by
  unfold mediaOfferProcess
  cases P.mrcpVersion with
  | v1 =>
    have hr := resourceOfferProcess_offering (M := M) (P := P) (W := W) descriptor hs
    revert hr
    rcases s.resourceOfferProcess M P W descriptor with ⟨t, _ | _⟩
    · exact fun hr => hr.trans (modifyAnswer_alike _ _).offering
    · exact fun hr => hr.trans (avMediaOfferProcess_changes _ _).alike_offering.offering
  | v2 =>
    have hm := (Changes.foldl controlMediaModify_changes
      (List.range (min s.channels.length descriptor.controlMediaArr.length)) s).alike_offering.offering
    have ha := Offering.foldl (controlMediaAdd_offering (M := M) (P := P) (W := W))
      (List.range' (min s.channels.length descriptor.controlMediaArr.length)
        (descriptor.controlMediaArr.length - min s.channels.length descriptor.controlMediaArr.length))
      _ (hm.removed.trans hs)
    exact (hm.trans ha).trans (avMediaOfferProcess_changes _ _).alike_offering.offering

theorem answerGenerate_handling (hs : s.removed = false) : Handling s (s.answerGenerate M P W descriptor) := by
  unfold answerGenerate
  dsimp only
  have hb : Handling s ({ s with answer := some (sessionAnswerCreate descriptor) }.stateSet .generatingAnswer) :=
    ⟨prefix_rfl, fun h => ⟨⟨h.life, h.fresh, h.removed⟩, fun hst => by cases hst⟩⟩
  obtain ⟨t, ht⟩ : ∃ t, t = { s with answer := some (sessionAnswerCreate descriptor) }.stateSet .generatingAnswer :=
    ⟨_, rfl⟩
  have hst : t.state = .generatingAnswer := by rw [ht]; rfl
  have hm : t.removed = false := by rw [ht]; exact hs
  rw [← ht] at hb ⊢
  have hr := (request_alike t .resetAssociations).offering
  have ho := (hr.trans (mediaOfferProcess_offering (M := M) (P := P) (W := W) descriptor
    (hr.removed.trans hm))).trans (request_alike _ .applyTopology).offering
  have hg := ho.toCalling.handling fun htr => absurd (ho.state.symm.trans htr)
    (by rw [hst]; decide)
  split_ifs
  · exact hb.trans (hg.trans (answerSend_alike _).handling)
  · exact hb.trans hg

theorem offerProcess_handling (hs : s.removed = false) : Handling s (s.offerProcess M P W descriptor) := by
  have hc : Alike s { s.contextCreate W with offer := some descriptor } := by
    unfold contextCreate
    split_ifs <;> exact ⟨rfl, rfl, rfl, rfl⟩
  unfold offerProcess
  dsimp only
  split_ifs
  · have hl : ∀ t : Session κ σ μ ε D, Alike t ({ t with answer := t.lastAnswer }.answerSend) := by
      intro t
      have ha : Alike t { t with answer := t.lastAnswer } := ⟨rfl, rfl, rfl, rfl⟩
      exact ha.trans (answerSend_alike _)
    exact (hc.trans (hl _)).handling
  · exact hc.handling.trans (answerGenerate_handling descriptor (hc.removed.trans hs))

theorem framed_handling (P : Profile κ) (W : Environment) (s : Session κ σ μ ε D) : Framed P W (Handling s) :=
  ⟨fun h hc => h.trans hc.alike_still.handling, fun h => h.trans (subrequestRemove_handling _)⟩

theorem deactivate_handling (s : Session κ σ μ ε D) : Handling s (s.deactivate M P W) := by
  have hs := stateSet_handling s (by decide : SessionState.deactivating ≠ .terminating)
  have ha := hs.trans (Handling.foldl (fun s i => (framed_handling P W s).machineDeactivate (M := M) (refl s) i)
    (List.range (s.stateSet .deactivating).channels.length) _)
  unfold deactivate
  dsimp only
  split_ifs
  · exact ha.trans (terminateProcess_handling _)
  · exact ha

/-! ## Steps -/

variable (message : SignalingMessage μ D)

theorem dispatch_handling (hs : s.removed = false) : Handling s (s.dispatch M P W message) := by
  have h := see_alike s (.dispatch message)
  unfold Session.dispatch
  refine h.handling.trans ?_
  cases message with
  | offer descriptor => exact offerProcess_handling descriptor hs
  | control channel resourceName message =>
    exact (framed_handling P W _).onMessageReceive (refl _) channel resourceName message
  | terminate => exact deactivate_handling _

theorem signalingMessageProcess_handling (hs : s.removed = false) :
    Handling s (s.signalingMessageProcess M P W message) := by
  unfold signalingMessageProcess
  split_ifs
  · exact Alike.handling ⟨rfl, rfl, rfl, rfl⟩
  · have ha : Alike s { s with activeRequest := some message } := ⟨rfl, rfl, rfl, rfl⟩
    exact ha.handling.trans (dispatch_handling message hs)

variable [DecidableEq μ]

theorem step_handling (input : Environment × Input μ ε D) (hs : s.removed = false) :
    Handling s (s.step M P input).1 := by
  obtain ⟨W, input⟩ := input
  cases input with
  | signaling message => exact signalingMessageProcess_handling message hs
  | completed subrequest result =>
    have hc : Alike s (s.complete subrequest) := ⟨rfl, rfl, rfl, rfl⟩
    exact (framed_handling P W s).removes hc.handling (onCompletion_removes _ result subrequest)
  | engineResponse i message => exact (framed_handling P W s).engineResponse (refl s) i message
  | engineEvent i message => exact (framed_handling P W s).engineEvent (refl s) i message
  | dispatch =>
    have ha : ∀ active : Option (SignalingMessage μ D),
        Handling s (active.elim s ({ s with dispatching := false }.dispatch M P W)) := by
      intro active
      cases active with
      | none => exact refl s
      | some message =>
        have hb : Alike s { s with dispatching := false } := ⟨rfl, rfl, rfl, rfl⟩
        exact hb.handling.trans (dispatch_handling message hs)
    exact ha s.activeRequest
  | proceed i => exact (framed_handling P W s).proceed (refl s) i

end UniMrcp.MrcpServer
