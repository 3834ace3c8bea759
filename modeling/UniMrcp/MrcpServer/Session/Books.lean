import UniMrcp.MrcpServer.Session

/-!
# The books of a session

Each of the outstanding subrequests that is guarded by a waiting flag has a flag of its own, and the flag is set.
-/

namespace UniMrcp.MrcpServer

open MrcpEngine List Session
open Option (mem_toList any_eq_true isSome_iff_exists)

inductive Phase
  /-- Neither an offer nor the termination is in progress. -/
  | idle
  | answering
  /-- The session terminates: its state machines are told to deactivate. -/
  | deactivating
  /-- The session terminates: it releases what it has. -/
  | releasing
  | ended
deriving DecidableEq

inductive Resource
  | control (channel : Nat)
  | media (termination : Termination)
deriving DecidableEq

def Subrequest.acquires : Subrequest → Option Resource
  | .controlAdd i => some (.control i)
  | .terminationAdd termination => some (.media termination)
  | _ => none

def Subrequest.releases : Subrequest → Option Resource
  | .controlRemove i => some (.control i)
  | .terminationSubtract termination => some (.media termination)
  | _ => none

def Phase.starts : Phase → Subrequest → Bool
  | .answering, .deactivate _ | .answering, .controlRemove _ | .answering, .terminationSubtract _ => false
  | .answering, _ => true
  | .deactivating, .deactivate _ => true
  | .releasing, .resetAssociations | .releasing, .controlRemove _ | .releasing, .terminationSubtract _
  | .releasing, .engineClose _ => true
  | _, _ => false

structure Account where
  phase : Phase := .idle
  /-- The subrequests that were started and are not completed. -/
  outstanding : List Subrequest := []
  held : List Resource := []
deriving DecidableEq

def heldAfter (held : List Resource) (subrequest : Subrequest) : List Resource :=
  (held ++ subrequest.acquires.toList).filter fun resource => subrequest.releases != some resource

theorem mem_heldAfter {held : List Resource} {subrequest : Subrequest} {resource : Resource} :
    resource ∈ heldAfter held subrequest ↔
      (resource ∈ held ∨ subrequest.acquires = some resource) ∧ subrequest.releases ≠ some resource := by
  unfold heldAfter
  rw [List.mem_filter, List.mem_append, Option.mem_toList, bne_iff_ne]

variable {μ ε D : Type}

/-- The account after an event; none, if the event must not happen. -/
def Account.step (a : Account) : Event μ ε D → Option Account
  | .dispatch (.offer _) => if a.phase = .idle then some { a with phase := .answering } else none
  | .dispatch (.control _ _ _) => if a.phase = .idle then some a else none
  | .dispatch .terminate => if a.phase = .idle then some { a with phase := .deactivating } else none
  | .start subrequest =>
    if a.phase.starts subrequest then
      some { a with outstanding := a.outstanding ++ [subrequest], held := heldAfter a.held subrequest }
    else none
  | .complete subrequest =>
    if subrequest ∈ a.outstanding then some { a with outstanding := a.outstanding.erase subrequest } else none
  | .answer _ => if a.phase = .answering ∧ a.outstanding = [] then some { a with phase := .idle } else none
  | .release =>
    if a.phase = .deactivating ∧ a.outstanding = [] then some { a with phase := .releasing } else none
  | .terminateResponse =>
    if a.phase = .releasing ∧ a.outstanding = [] ∧ a.held = [] then some { a with phase := .ended } else none
  | .out _ _ => some a

def Account.after (log : List (Event μ ε D)) : Option Account := log.foldlM Account.step {}

theorem Account.after_append {log : List (Event μ ε D)} {a : Account} (h : Account.after log = some a)
    (event : Event μ ε D) : Account.after (log ++ [event]) = a.step event := by
  unfold Account.after at h ⊢
  rw [List.foldlM_append, h]
  cases hs : a.step event <;> simp [hs]

/-! ## Waiting flags -/

/-- A waiting flag: `waiting_for_channel` of a channel, or that of the owner of a termination. -/
inductive Waiting
  | control (channel : Nat)
  | termination (termination : Termination)
deriving DecidableEq

def Subrequest.awaits : Subrequest → Option Waiting
  | .controlAdd i | .controlModify i | .controlRemove i => some (.control i)
  | .terminationAdd termination | .terminationModify termination | .terminationSubtract termination =>
    some (.termination termination)
  | _ => none

variable {κ σ μ ε D : Type}

def Channel.engineTermination (channel : Channel κ σ μ D) : Option Termination :=
  channel.engineChannel.bind EngineChannel.termination

def Session.waits (s : Session κ σ μ ε D) : Waiting → Bool
  | .control i => s.channels[i]?.any Channel.waitingForChannel
  | .termination (.rtp i) => s.terminations[i]?.any Slot.waiting
  | .termination (.engine i) =>
    s.channels[i]?.any fun channel => channel.waitingForTermination && channel.engineTermination == some (.engine i)

def Session.has (s : Session κ σ μ ε D) : Resource → Bool
  | .control i => s.channels[i]?.any Channel.controlChannel
  | .media (.rtp i) => s.terminations[i]?.isSome
  | .media (.engine i) => s.channels[i]?.any fun channel => channel.engineTermination == some (.engine i)

def Session.flags (s : Session κ σ μ ε D) : List Waiting := s.outstanding.filterMap Subrequest.awaits

def Session.held (s : Session κ σ μ ε D) : List Resource := (Account.after s.log).elim [] Account.held

structure Session.Layout (s : Session κ σ μ ε D) : Prop where
  slots : ∀ (i : Nat) (slot : Slot), s.terminations[i]? = some slot → slot.termination = .rtp i
  engines : ∀ (i : Nat) (channel : Channel κ σ μ D), s.channels[i]? = some channel →
    channel.engineTermination = none ∨ channel.engineTermination = some (.engine i)

def Session.ledger (s : Session κ σ μ ε D) : List Subrequest × Nat × List (Event μ ε D) :=
  (s.outstanding, s.subrequestCount, s.log)

/-- **The books of a session** in a phase: the count of subrequests is right, and the account tells the phase. -/
structure Books (phase : Phase) (extra : Nat) (s : Session κ σ μ ε D) : Prop where
  layout : s.Layout
  count : s.subrequestCount = s.outstanding.length + extra
  told : Account.after s.log = some ⟨phase, s.outstanding, s.held⟩
  starts : ∀ subrequest ∈ s.outstanding, phase.starts subrequest
  held : ∀ resource ∈ s.held, s.has resource
  nodup : s.flags.Nodup
  waits : ∀ w ∈ s.flags, s.waits w

variable {phase : Phase} {extra : Nat} {s t : Session κ σ μ ε D}

theorem Session.held_see (s : Session κ σ μ ε D) (event : Event μ ε D) {a b : Account}
    (h : Account.after s.log = some a) (hs : a.step event = some b) :
    Account.after (s.see event).log = some b ∧ (s.see event).held = b.held := by
  have ha : Account.after (s.see event).log = some b := (Account.after_append h event).trans hs
  exact ⟨ha, by simp [Session.held, ha]⟩

variable {subrequest : Subrequest}

theorem Books.held_request (h : Books phase extra s) (hs : phase.starts subrequest) :
    (s.request subrequest).held = heldAfter s.held subrequest :=
  (held_see s (.start subrequest) h.told
    (b := ⟨phase, s.outstanding ++ [subrequest], heldAfter s.held subrequest⟩) (by simp [Account.step, hs])).2

theorem Books.request (h : Books phase 0 s) (hs : phase.starts subrequest)
    (hf : ∀ w, subrequest.awaits = some w → w ∉ s.flags ∧ s.waits w)
    (hhs : ∀ resource, subrequest.acquires = some resource → s.has resource) :
    Books phase 0 (s.request subrequest) := by
  have ht := held_see s (.start subrequest) h.told
    (b := ⟨phase, s.outstanding ++ [subrequest], heldAfter s.held subrequest⟩) (by simp [Account.step, hs])
  have hl : (s.request subrequest).flags = s.flags ++ subrequest.awaits.toList := by
    unfold Session.flags
    show (s.outstanding ++ [subrequest]).filterMap Subrequest.awaits = _
    cases ha : subrequest.awaits <;> simp [filterMap_append, ha]
  have hh := h.held_request hs
  refine ⟨⟨h.layout.slots, h.layout.engines⟩, ?_, ?_, ?_, ?_, ?_, ?_⟩
  · show s.subrequestCount + 1 = (s.outstanding ++ [subrequest]).length + 0
    have := h.count
    simp only [length_append, length_singleton]
    omega
  · rw [hh]
    exact ht.1
  · exact forall_mem_append.2 ⟨h.starts, by simpa using hs⟩
  · rw [hh]
    intro resource hm
    rcases mem_append.1 (mem_filter.1 hm).1 with ho | hn
    · exact h.held resource ho
    · exact hhs resource (mem_toList.1 hn)
  · rw [hl]
    cases ha : subrequest.awaits with
    | none => simpa using h.nodup
    | some w =>
      refine nodup_append.2 ⟨h.nodup, by simp, fun w' hm w'' hw'' heq => ?_⟩
      obtain rfl : w'' = w := by simpa using hw''
      exact (hf w'' ha).1 (heq ▸ hm)
  · rw [hl]
    intro w hm
    rcases mem_append.1 hm with ho | hn
    · exact h.waits w ho
    · exact (hf w (mem_toList.1 hn)).2

variable {w : Waiting}

@[simp] theorem Session.mem_flags_request :
    w ∈ (s.request subrequest).flags ↔ w ∈ s.flags ∨ subrequest.awaits = some w := by
  show w ∈ (s.outstanding ++ [subrequest]).filterMap Subrequest.awaits ↔ _
  rw [filterMap_append, mem_append]
  simp [Session.flags]

theorem Books.see (h : Books phase extra s) (phase' : Phase) (event : Event μ ε D)
    (hs : Account.step ⟨phase, s.outstanding, s.held⟩ event = some ⟨phase', s.outstanding, s.held⟩)
    (hp : s.outstanding = [] ∨ phase' = phase) :
    Books phase' extra (s.see event) ∧ (s.see event).held = s.held := by
  obtain ⟨ht, hh⟩ := held_see s event h.told hs
  have hst : ∀ subrequest ∈ s.outstanding, phase'.starts subrequest := by
    rcases hp with ho | rfl
    · simp [ho]
    · exact h.starts
  refine ⟨⟨⟨h.layout.slots, h.layout.engines⟩, h.count, ?_, hst, ?_, h.nodup, h.waits⟩, hh⟩
  · rw [hh]
    exact ht
  · rw [hh]
    exact h.held

theorem Books.complete (h : Books phase 0 s) (hm : subrequest ∈ s.outstanding) :
    Books phase 1 (s.complete subrequest) ∧ (s.complete subrequest).held = s.held ∧
      ∀ w, subrequest.awaits = some w → w ∉ (s.complete subrequest).flags := by
  obtain ⟨ht, hh⟩ := held_see s (.complete subrequest) h.told
    (b := ⟨phase, s.outstanding.erase subrequest, s.held⟩) (by simp [Account.step, hm])
  have hh : (s.complete subrequest).held = s.held := hh
  have hs : List.Sublist (s.complete subrequest).flags s.flags := erase_sublist.filterMap Subrequest.awaits
  refine ⟨⟨⟨h.layout.slots, h.layout.engines⟩, ?_, ?_, fun subrequest hm => h.starts _ (mem_of_mem_erase hm), ?_,
    h.nodup.sublist hs, fun w hw => h.waits w (hs.subset hw)⟩, hh, fun w hw hf => ?_⟩
  · show s.subrequestCount = (s.outstanding.erase subrequest).length + 1
    have hps := length_pos_of_mem hm
    have hc := h.count
    have hl := length_erase_of_mem hm
    omega
  · rw [hh]
    exact ht
  · rw [hh]
    exact h.held
  · have hp := (perm_cons_erase hm).filterMap Subrequest.awaits
    rw [filterMap_cons_some hw] at hp
    exact (nodup_cons.1 (hp.nodup_iff.1 h.nodup)).1 hf

structure Core (μ D : Type) where
  activeRequest : Option (SignalingMessage μ D)
  requestQueue : List (SignalingMessage μ D)
  dispatching : Bool
  removed : Bool
  nullRead : Bool
  context : Bool
  state : SessionState
  offer : Bool
  answer : Bool
  lastOffer : Option SessionDescriptor
  lastAnswer : Option SessionDescriptor

def Session.core (s : Session κ σ μ ε D) : Core μ D :=
  ⟨s.activeRequest, s.requestQueue, s.dispatching, s.removed, s.nullRead, s.context, s.state, s.offer.isSome,
    s.answer.isSome, s.lastOffer, s.lastAnswer⟩

structure Staff (κ σ μ D : Type) where
  resourceName : Bytes
  machine : Option (ChannelMachine κ σ μ D)
  engine : Bool

def Channel.staff (channel : Channel κ σ μ D) : Staff κ σ μ D :=
  ⟨channel.resourceName, channel.stateMachine, channel.engineChannel.isSome⟩

def Session.staff (s : Session κ σ μ ε D) : List (Staff κ σ μ D) := s.channels.map Channel.staff

variable (M : κ → StateMachine σ μ ε D)

def Created (m : Option (ChannelMachine κ σ μ D)) : Prop :=
  ∀ machine ∈ m, machine = ⟨machine.kind, (M machine.kind).create, none, []⟩

/-- **What is kept** while an offer is processed or resources are released: all but channels and slots. -/
structure Kept (s t : Session κ σ μ ε D) : Prop where
  core : t.core = s.core
  staff : ∃ new, t.staff = s.staff ++ new ∧ ∀ x ∈ new, Created M x.machine

/-- **A session that processes something** in a phase, from a session on. -/
structure Going (phase : Phase) (s t : Session κ σ μ ε D) : Prop where
  books : Books phase 0 t
  kept : Kept M s t

variable {M}

theorem Kept.refl (s : Session κ σ μ ε D) : Kept M s s := ⟨rfl, [], by simp, by simp⟩

theorem Kept.trans {u : Session κ σ μ ε D} (h : Kept M s t) (h' : Kept M t u) : Kept M s u := by
  obtain ⟨hc, new, hn, ha⟩ := h
  obtain ⟨hc', new', hn', ha'⟩ := h'
  refine ⟨hc'.trans hc, new ++ new', by rw [hn', hn, append_assoc], fun x hx => ?_⟩
  rcases mem_append.1 hx with hx | hx
  · exact ha x hx
  · exact ha' x hx

theorem Kept.of_staff (hc : t.core = s.core) (hs : t.staff = s.staff) : Kept M s t :=
  ⟨hc, [], by simp [hs], by simp⟩

/-! ## Changes of channels and slots -/

theorem Session.getElem?_modifyChannel (s : Session κ σ μ ε D) (i j : Nat) (f : Channel κ σ μ D → Channel κ σ μ D) :
    (s.modifyChannel i f).channels[j]? = if i = j then s.channels[j]?.map f else s.channels[j]? := by
  simp only [Session.modifyChannel, List.getElem?_modify]
  split <;> simp

theorem Session.getElem?_modifySlot (s : Session κ σ μ ε D) (i j : Nat) (f : Slot → Slot) :
    (s.modifySlot i f).terminations[j]? = if i = j then s.terminations[j]?.map f else s.terminations[j]? := by
  simp only [Session.modifySlot, List.getElem?_modify]
  split <;> simp

structure Channel.Alike (flags : List Waiting) (i : Nat) (channel channel' : Channel κ σ μ D) : Prop where
  control : channel'.controlChannel = channel.controlChannel
  termination : channel'.engineTermination = channel.engineTermination
  waitingForChannel : Waiting.control i ∈ flags → channel.waitingForChannel →
    channel'.waitingForChannel = true
  waitingForTermination : Waiting.termination (.engine i) ∈ flags → channel.waitingForTermination →
    channel'.waitingForTermination = true

theorem Channel.Alike.refl (flags : List Waiting) (i : Nat) (channel : Channel κ σ μ D) :
    channel.Alike flags i channel := ⟨rfl, rfl, fun _ h => h, fun _ h => h⟩

structure Session.Extends (flags : List Waiting) (s t : Session κ σ μ ε D) : Prop where
  channels : ∀ (i : Nat) (channel : Channel κ σ μ D), s.channels[i]? = some channel →
    ∃ channel', t.channels[i]? = some channel' ∧ channel.Alike flags i channel'
  slots : ∀ (i : Nat) (slot : Slot), s.terminations[i]? = some slot →
    ∃ slot', t.terminations[i]? = some slot' ∧
      (Waiting.termination (.rtp i) ∈ flags → slot.waiting → slot'.waiting)

variable {flags : List Waiting}

theorem Session.Extends.has (h : s.Extends flags t) {resource : Resource} (hh : s.has resource) :
    t.has resource := by
  cases resource with
  | control i =>
    obtain ⟨channel, hi, hc⟩ := (any_eq_true _ _).1 hh
    obtain ⟨channel', hi', ha⟩ := h.channels i channel hi
    exact (any_eq_true _ _).2 ⟨channel', hi', ha.control.trans hc⟩
  | media termination =>
    cases termination with
    | rtp i =>
      obtain ⟨slot, hi⟩ := isSome_iff_exists.1 hh
      obtain ⟨slot', hi', -⟩ := h.slots i slot hi
      exact isSome_iff_exists.2 ⟨slot', hi'⟩
    | engine i =>
      obtain ⟨channel, hi, ho⟩ := (any_eq_true _ _).1 hh
      obtain ⟨channel', hi', ha⟩ := h.channels i channel hi
      exact (any_eq_true _ _).2 ⟨channel', hi', by rwa [ha.termination]⟩

theorem Session.Extends.waits (h : s.Extends flags t) (hm : w ∈ flags) (hw : s.waits w) :
    t.waits w := by
  cases w with
  | control i =>
    obtain ⟨channel, hi, ht⟩ := (any_eq_true _ _).1 hw
    obtain ⟨channel', hi', ha⟩ := h.channels i channel hi
    exact (any_eq_true _ _).2 ⟨channel', hi', ha.waitingForChannel hm ht⟩
  | termination termination =>
    cases termination with
    | rtp i =>
      obtain ⟨slot, hi, ht⟩ := (any_eq_true _ _).1 hw
      obtain ⟨slot', hi', hwa⟩ := h.slots i slot hi
      exact (any_eq_true _ _).2 ⟨slot', hi', hwa hm ht⟩
    | engine i =>
      obtain ⟨channel, hi, ht⟩ := (any_eq_true _ _).1 hw
      obtain ⟨channel', hi', ha⟩ := h.channels i channel hi
      obtain ⟨hs, ho⟩ := Bool.and_eq_true_iff.1 ht
      refine (any_eq_true _ _).2 ⟨channel', hi', Bool.and_eq_true_iff.2
        ⟨ha.waitingForTermination hm hs, ?_⟩⟩
      rwa [ha.termination]

theorem Books.change (h : Books phase extra s) (hd : t.ledger = s.ledger) (hla : t.Layout)
    (he : s.Extends s.flags t) : Books phase extra t := by
  obtain ⟨ho, hc, hl⟩ : t.outstanding = s.outstanding ∧ t.subrequestCount = s.subrequestCount ∧
      t.log = s.log := by simpa [Session.ledger] using hd
  have hh : t.held = s.held := by simp [Session.held, hl]
  have hf : t.flags = s.flags := by simp [Session.flags, ho]
  refine ⟨hla, ?_, ?_, ?_, ?_, ?_, ?_⟩
  · rw [hc, ho]
    exact h.count
  · rw [hl, ho, hh]
    exact h.told
  · rw [ho]
    exact h.starts
  · rw [hh]
    exact fun resource hm => he.has (h.held resource hm)
  · rw [hf]
    exact h.nodup
  · rw [hf]
    exact fun w hm => he.waits hm (h.waits w hm)

theorem Books.same (h : Books phase extra s) (hl : t.ledger = s.ledger) (hc : t.channels = s.channels)
    (hs : t.terminations = s.terminations) : Books phase extra t := by
  refine h.change hl ⟨?_, ?_⟩ ⟨fun i channel hi => ⟨channel, ?_, Channel.Alike.refl _ i channel⟩,
    fun i slot hi => ⟨slot, ?_, fun _ hw => hw⟩⟩
  · rw [hs]
    exact h.layout.slots
  · rw [hc]
    exact h.layout.engines
  · rwa [hc]
  · rwa [hs]

variable {i : Nat} {f : Channel κ σ μ D → Channel κ σ μ D}

theorem Books.modifyChannel (h : Books phase extra s)
    (hf : ∀ channel, s.channels[i]? = some channel → channel.Alike s.flags i (f channel)) :
    Books phase extra (s.modifyChannel i f) := by
  refine h.change rfl ⟨h.layout.slots, fun j channel' hj => ?_⟩
    ⟨fun j channel hj => ?_, fun j slot hj => ⟨slot, hj, fun _ hw => hw⟩⟩
  · rw [Session.getElem?_modifyChannel] at hj
    split_ifs at hj with hi
    · subst hi
      obtain ⟨channel, hc, rfl⟩ := Option.map_eq_some_iff.1 hj
      rw [(hf channel hc).termination]
      exact h.layout.engines i channel hc
    · exact h.layout.engines j channel' hj
  · rw [Session.getElem?_modifyChannel, hj]
    split_ifs with hi
    · subst hi
      exact ⟨f channel, rfl, hf channel hj⟩
    · exact ⟨channel, rfl, Channel.Alike.refl _ j channel⟩

theorem Books.modifySlot (h : Books phase extra s) {f : Slot → Slot}
    (hf : ∀ slot, s.terminations[i]? = some slot → (f slot).termination = slot.termination)
    (hwa : Waiting.termination (.rtp i) ∈ s.flags → ∀ slot, s.terminations[i]? = some slot →
      slot.waiting → (f slot).waiting) : Books phase extra (s.modifySlot i f) := by
  refine h.change rfl ⟨fun j slot hj => ?_, h.layout.engines⟩
    ⟨fun j channel hj => ⟨channel, hj, Channel.Alike.refl _ j channel⟩, fun j slot hj => ?_⟩
  · rw [Session.getElem?_modifySlot] at hj
    split_ifs at hj with hi
    · obtain ⟨slot', hs, rfl⟩ := Option.map_eq_some_iff.1 hj
      rw [hf slot' (hi ▸ hs)]
      exact h.layout.slots j slot' hs
    · exact h.layout.slots j slot hj
  · rw [Session.getElem?_modifySlot, hj]
    split_ifs with hi
    · subst hi
      exact ⟨f slot, rfl, fun hm hw => hwa hm slot hj hw⟩
    · exact ⟨slot, rfl, fun _ hw => hw⟩

theorem getElem?_push {α : Type} {l : List α} {a b : α} (h : (l ++ [a])[i]? = some b) :
    l[i]? = some b ∨ i = l.length ∧ a = b := by
  rcases Nat.lt_or_ge i l.length with hlt | hge
  · exact Or.inl ((List.getElem?_append_left hlt).symm.trans h)
  · rw [List.getElem?_append_right hge] at h
    obtain ⟨hlt, hg⟩ := List.getElem?_eq_some_iff.1 h
    simp only [length_singleton] at hlt
    exact Or.inr ⟨by omega, by simpa using hg⟩

theorem getElem?_push_of_some {α : Type} {l : List α} {b : α} (h : l[i]? = some b) (a : α) : (l ++ [a])[i]? = some b :=
  (List.getElem?_append_left (List.getElem?_eq_some_iff.1 h).1).trans h

variable {channel : Channel κ σ μ D}

theorem Books.pushChannel (h : Books phase extra s)
    (ht : channel.engineTermination = none ∨ channel.engineTermination = some (.engine s.channels.length)) :
    Books phase extra (s.pushChannel channel) := by
  refine h.change rfl ⟨h.layout.slots, fun j channel' hj => ?_⟩
    ⟨fun j channel' hj => ⟨channel', getElem?_push_of_some hj channel, Channel.Alike.refl _ j channel'⟩,
      fun j slot hj => ⟨slot, hj, fun _ hw => hw⟩⟩
  rcases getElem?_push hj with ho | ⟨rfl, rfl⟩
  · exact h.layout.engines j channel' ho
  · exact ht

theorem Books.pushSlot (h : Books phase extra s) {slot : Slot}
    (ht : slot.termination = .rtp s.terminations.length) : Books phase extra (s.pushSlot slot) := by
  refine h.change rfl ⟨fun j slot' hj => ?_, h.layout.engines⟩
    ⟨fun j channel hj => ⟨channel, hj, Channel.Alike.refl _ j channel⟩,
      fun j slot' hj => ⟨slot', getElem?_push_of_some hj slot, fun _ hw => hw⟩⟩
  rcases getElem?_push hj with ho | ⟨rfl, rfl⟩
  · exact h.layout.slots j slot' ho
  · exact ht

theorem Session.staff_modifyChannel
    (hf : ∀ channel, s.channels[i]? = some channel → (f channel).staff = channel.staff) :
    (s.modifyChannel i f).staff = s.staff := by
  refine ext_getElem? fun j => ?_
  unfold Session.staff
  rw [List.getElem?_map, List.getElem?_map, Session.getElem?_modifyChannel]
  split_ifs with hj
  · subst hj
    cases hi : s.channels[i]? with
    | none => rfl
    | some channel => simp [hf channel hi]
  · rfl

/-! ## Operations of a session that processes something -/

variable {u : Session κ σ μ ε D}

theorem Going.change (h : Going M phase s t) (hb : Books phase 0 u) (hc : u.core = t.core)
    (hs : u.staff = t.staff) : Going M phase s u := ⟨hb, h.kept.trans (Kept.of_staff hc hs)⟩

theorem Going.request (h : Going M phase s t) (hs : phase.starts subrequest)
    (hf : ∀ w, subrequest.awaits = some w → w ∉ t.flags ∧ t.waits w)
    (hh : ∀ resource, subrequest.acquires = some resource → t.has resource) :
    Going M phase s (t.request subrequest) :=
  h.change (h.books.request hs hf hh) rfl rfl

theorem Going.request_plain (h : Going M phase s t) (subrequest : Subrequest)
    (hs : phase.starts subrequest) (ha : subrequest.awaits = none)
    (hc : subrequest.acquires = none) : Going M phase s (t.request subrequest) :=
  h.request hs (by simp [ha]) (by simp [hc])

theorem Going.call (h : Going M phase s t) (calls : List (Nat × EngineCall)) : Going M phase s (t.call calls) :=
  h.change (h.books.same rfl rfl rfl) rfl rfl

theorem Going.modifyOffer (h : Going M phase s t) (f : SessionDescriptor → SessionDescriptor) :
    Going M phase s (t.modifyOffer f) :=
  h.change (h.books.same rfl rfl rfl) (by simp [Session.core, Session.modifyOffer]) rfl

theorem Going.answer (h : Going M phase s t) (ha : s.answer.isSome) : t.answer.isSome := by
  rw [← ha]
  exact congrArg Core.answer h.kept.core

theorem Session.modifyAnswer_eq (ha : s.answer.isSome) (f : SessionDescriptor → SessionDescriptor) :
    s.modifyAnswer f = { s with answer := s.answer.map f } := by
  obtain ⟨answer, hs⟩ := isSome_iff_exists.1 ha
  simp [Session.modifyAnswer, hs]

theorem Going.modifyAnswer (h : Going M phase s t) (ha : s.answer.isSome)
    (f : SessionDescriptor → SessionDescriptor) : Going M phase s (t.modifyAnswer f) := by
  rw [modifyAnswer_eq (h.answer ha)]
  exact h.change (h.books.same rfl rfl rfl) (by simp [Session.core]) rfl

theorem Going.waitForChannel (h : Going M phase s t) (i : Nat) {b : Bool}
    (hb : b ∨ Waiting.control i ∉ t.flags) :
    Going M phase s (t.modifyChannel i ({ · with waitingForChannel := b })) := by
  refine h.change (h.books.modifyChannel fun _ _ => ⟨rfl, rfl, fun hm _ => ?_, fun _ hw => hw⟩) rfl
    (staff_modifyChannel fun _ _ => rfl)
  exact hb.resolve_right fun hf => hf hm

theorem Going.waitForTermination (h : Going M phase s t) (i : Nat) :
    Going M phase s (t.modifyChannel i ({ · with waitingForTermination := true })) :=
  h.change (h.books.modifyChannel fun _ _ => ⟨rfl, rfl, fun _ hw => hw, fun _ _ => rfl⟩) rfl
    (staff_modifyChannel fun _ _ => rfl)

theorem Going.engineSet (h : Going M phase s t) {engine engine' : EngineChannel}
    (he : t.channels[i]?.bind Channel.engineChannel = some engine)
    (ht : engine'.termination = engine.termination) :
    Going M phase s (t.modifyChannel i ({ · with engineChannel := some engine' })) := by
  have hs : ∀ channel, t.channels[i]? = some channel → channel.engineChannel = some engine := by
    intro channel hc
    rwa [hc] at he
  refine h.change (h.books.modifyChannel fun channel hc =>
    ⟨rfl, ?_, fun _ hw => hw, fun _ hw => hw⟩) rfl (staff_modifyChannel fun channel hc => ?_)
  · simp [Channel.engineTermination, hs channel hc, ht]
  · simp [Channel.staff, hs channel hc]

theorem Going.pushChannel (h : Going M phase s t)
    (ht : channel.engineTermination = none ∨ channel.engineTermination = some (.engine t.channels.length))
    (hc : Created M channel.stateMachine) : Going M phase s (t.pushChannel channel) := by
  refine ⟨h.books.pushChannel ht, h.kept.trans ⟨rfl, [channel.staff], ?_, fun x hx => ?_⟩⟩
  · simp [Session.staff, Session.pushChannel]
  · obtain rfl : x = channel.staff := by simpa using hx
    exact hc

end UniMrcp.MrcpServer
