import UniMrcp.MrcpV2Transport.ClientAgent.Requests

/-!
# Channels are not assigned to closed connections

A connection that the peer closed stays in the list of the agent until its last channel is removed, and is found there.
-/

namespace UniMrcp.MrcpV2Transport

open Lib List Heap ClientAgent
open Option (not_mem_none some.inj)
open MrcpServer (ControlDescriptor)

variable {A : ClientProfile} {s t : ClientAgent} {ch : Nat}

def ClientAgent.leadsTo (A : ClientProfile) (s : ClientAgent) (descriptor : ControlDescriptor) (c : Nat) : Bool :=
  A.sockaddrInfoGet descriptor.ip == some (s.connection c).remoteIp && descriptor.port == (s.connection c).remotePort

def ClientAgent.usable (s : ClientAgent) : ClientInput → Bool
  | .modify ch _ _ | .remove ch => !s.gone ch
  | _ => true

def ClientAgent.attaches (s : ClientAgent) (ch : Nat) (descriptor : ControlDescriptor) : Prop :=
  descriptor.port ≠ 0 ∧ (s.channel ch).connection = none

instance (descriptor : ControlDescriptor) : Decidable (s.attaches ch descriptor) :=
  inferInstanceAs (Decidable (_ ∧ _))

/-- **The condition on a step.** When an existing connection is asked for, the first one to the server was not closed.
-/
def ClientAgent.unbroken (A : ClientProfile) (s : ClientAgent) : ClientInput → Prop
  | .modify ch descriptor _ => s.attaches ch descriptor → descriptor.connectionType = .existing →
    ∀ c ∈ s.connectionList.find? (s.leadsTo A descriptor), (s.connection c).sock
  | _ => True

/-! ## Steps that leave the connections of channels -/

structure Steady (s t : ClientAgent) : Prop where
  list : t.connectionList = s.connectionList
  count : t.connectionCount = s.connectionCount
  gone : ∀ ch, s.gone ch → t.gone ch
  destroyed : ∀ c, (t.connection c).destroyed = (s.connection c).destroyed
  channel : ∀ ch, (t.channel ch).connection = (s.channel ch).connection ∧
    (t.channel ch).removed = (s.channel ch).removed

theorem Steady.refl (s : ClientAgent) : Steady s s := ⟨rfl, rfl, fun _ h => h, fun _ => rfl, fun _ => ⟨rfl, rfl⟩⟩

theorem Steady.trans {u : ClientAgent} (h : Steady s t) (h' : Steady t u) : Steady s u := by
  refine ⟨h'.list.trans h.list, h'.count.trans h.count, fun ch hg => h'.gone ch (h.gone ch hg), fun c => ?_,
    fun ch => ⟨?_, ?_⟩⟩
  · exact (h'.destroyed c).trans (h.destroyed c)
  · exact (h'.channel ch).1.trans (h.channel ch).1
  · exact (h'.channel ch).2.trans (h.channel ch).2

theorem steady_see (s : ClientAgent) (event : ClientEvent) : Steady s (s.see event) := by
  refine ⟨rfl, rfl, fun ch hg => ?_, fun _ => rfl, fun _ => ⟨rfl, rfl⟩⟩
  exact any_append.trans (by rw [show s.log.any (ClientEvent.removes ch) = true from hg, Bool.true_or])

theorem steady_modifyChannel (s : ClientAgent) (ch : Nat) {f : ControlChannel → ControlChannel}
    (hf : ∀ channel, (f channel).connection = channel.connection ∧ (f channel).removed = channel.removed) :
    Steady s (s.modifyChannel ch f) := by
  refine ⟨rfl, rfl, fun _ h => h, fun _ => rfl, fun other => ⟨?_, ?_⟩⟩
  · exact channel_keeps (h := s.toHeap) (·.connection) (hf _).1 other
  · exact channel_keeps (h := s.toHeap) (·.removed) (hf _).2 other

theorem steady_modifyConnection (s : ClientAgent) (c : Nat) {f : Connection → Connection}
    (hf : ∀ connection, (f connection).destroyed = connection.destroyed) : Steady s (s.modifyConnection c f) :=
  ⟨rfl, rfl, fun _ h => h, connection_keeps (h := s.toHeap) (·.destroyed) (hf _), fun _ => ⟨rfl, rfl⟩⟩

theorem messageSend_steady (s : ClientAgent) (ch : Nat) (message : Message) (chunks : List Chunk) :
    Steady s (s.messageSend A ch message chunks) := by
  have hh := steady_see s (.handed ch message)
  have hr := hh.trans (steady_see _ (.received ch { responseCreate message with
    statusCode := statusCodeMethodFailed }))
  unfold ClientAgent.messageSend
  dsimp only
  split
  · exact hr
  · split_ifs
    · exact hr
    · exact hh.trans (steady_modifyChannel _ ch fun _ => ⟨rfl, rfl⟩)
    · exact hr

theorem messageHandler_steady (s : ClientAgent) (c : Nat) (message : Message) :
    Steady s (s.messageHandler c message).1 := by
  unfold messageHandler
  split
  · exact Steady.refl s
  · split_ifs
    · exact (steady_modifyChannel s _ (f := ({ · with requestTimer := false, activeRequest := none }))
        fun _ => ⟨rfl, rfl⟩).trans (steady_see _ _)
    · exact Steady.refl s
    · exact steady_see s _

theorem messagesHandle_steady (s : ClientAgent) (c : Nat) (parsed messages : List Message) :
    Steady s (s.messagesHandle c parsed messages) := by
  induction messages generalizing s parsed with
  | nil => exact steady_modifyConnection s c fun _ => rfl
  | cons message messages ih =>
    have hh := messageHandler_steady s c message
    unfold messagesHandle
    dsimp only
    split_ifs
    · exact hh.trans (ih _ _)
    · exact hh.trans (steady_modifyConnection _ c fun _ => rfl)

theorem channelDisconnect_steady (s : ClientAgent) (ch : Nat) : Steady s (s.channelDisconnect ch) := by
  unfold channelDisconnect
  split
  · exact (steady_see s _).trans (steady_modifyChannel _ ch fun _ => ⟨rfl, rfl⟩)
  · exact steady_see s _

theorem channelsDisconnect_steady (s : ClientAgent) (order : List Nat) :
    Steady s (order.foldl channelDisconnect s) := by
  induction order generalizing s with
  | nil => exact Steady.refl s
  | cons ch order ih => exact (channelDisconnect_steady s ch).trans (ih _)

theorem timerProc_steady (s : ClientAgent) (ch : Nat) : Steady s (s.timerProc ch) := by
  have hf := (steady_modifyChannel s ch (f := ({ · with requestTimer := false })) fun _ => ⟨rfl, rfl⟩).trans
    (steady_see _ (.fired ch))
  unfold timerProc
  dsimp only
  split
  · exact (hf.trans (steady_see _ _)).trans (steady_modifyChannel _ ch fun _ => ⟨rfl, rfl⟩)
  · exact hf

def ClientInput.plain : ClientInput → Bool
  | .modify .. | .remove _ | .destroy _ => false
  | _ => true

variable {input : ClientInput}

theorem step_steady (s : ClientAgent) (hp : input.plain) : Steady s (s.step A input).1 := by
  cases input with
  | modify | remove | destroy => cases hp
  | add ch descriptor => exact steady_see s _
  | send ch message chunks => exact messageSend_steady s ch message chunks
  | receive c messages =>
    show Steady s (s.receive c messages)
    unfold ClientAgent.receive
    split_ifs
    · exact messagesHandle_steady s c _ _
    · exact Steady.refl s
  | disconnect c order =>
    show Steady s (s.disconnect c order)
    unfold ClientAgent.disconnect
    split_ifs
    · exact (steady_modifyConnection s c (f := ({ · with sock := false })) fun _ => rfl).trans
        (channelsDisconnect_steady _ order)
    · exact Steady.refl s
  | timeout ch => exact timerProc_steady s ch

/-! ## The list of connections -/

/-- **The invariant of the list.** It has every connection once, and none that was destroyed or will be destroyed with a
channel. -/
structure Listed (s : ClientAgent) : Prop where
  nodup : s.connectionList.Nodup
  lt : ∀ c ∈ s.connectionList, c < s.connectionCount
  kept : ∀ c ∈ s.connectionList, (s.connection c).destroyed = false
  created : ∀ ch c, (s.channel ch).connection = some c → c < s.connectionCount
  removed : ∀ ch, (s.channel ch).removed → s.gone ch ∧
    ∀ c, (s.channel ch).connection = some c → c ∉ s.connectionList

theorem Listed.removed_false (h : Listed s) (hg : s.gone ch = false) : (s.channel ch).removed = false := by
  by_contra ht
  rw [(h.removed ch (by simpa using ht)).1] at hg
  cases hg

theorem Listed.steady (h : Listed s) (hs : Steady s t) : Listed t := by
  refine ⟨hs.list ▸ h.nodup, fun c hm => ?_, fun c hm => ?_, fun ch c hc => ?_, fun ch hr => ?_⟩
  · rw [hs.count]
    exact h.lt c (hs.list ▸ hm)
  · rw [hs.destroyed]
    exact h.kept c (hs.list ▸ hm)
  · rw [hs.count]
    exact h.created ch c ((hs.channel ch).1 ▸ hc)
  · rw [(hs.channel ch).2] at hr
    rw [(hs.channel ch).1, hs.list]
    exact ⟨hs.gone ch (h.removed ch hr).1, (h.removed ch hr).2⟩

theorem Listed.heap (h : Listed s) {k : Heap} (hc : s.connectionCount ≤ k.connectionCount)
    (hk : ∀ c ∈ s.connectionList, (k.connection c).destroyed = (s.connection c).destroyed)
    (hr : ∀ ch c, (k.channel ch).connection = some c → c < k.connectionCount)
    (hrm : ∀ ch, (k.channel ch).removed → s.gone ch ∧
      ∀ c, (k.channel ch).connection = some c → c ∉ s.connectionList) : Listed { s with toHeap := k } := by
  refine ⟨h.nodup, fun c hm => ?_, fun c hm => ?_, hr, hrm⟩
  · exact Nat.lt_of_lt_of_le (h.lt c hm) hc
  · exact (hk c hm).trans (h.kept c hm)

theorem connectionCreate_listed (h : Listed s) (descriptor : ControlDescriptor) (established : Bool) :
    Listed (s.connectionCreate A descriptor established).1 ∧
      ∀ c ∈ (s.connectionCreate A descriptor established).2,
        c < (s.connectionCreate A descriptor established).1.connectionCount := by
  unfold connectionCreate
  cases A.sockaddrInfoGet descriptor.ip with
  | none => exact ⟨h, fun c hc => absurd hc (not_mem_none c)⟩
  | some ip =>
    dsimp only
    split_ifs
    · generalize hn : ({ remoteIp := ip, remotePort := descriptor.port, sock := true } : Connection) = new
      have hs : (s.toHeap.connectionPush new).connection s.connectionCount = new := Function.update_self ..
      have ho : ∀ c, c < s.connectionCount → (s.toHeap.connectionPush new).connection c = s.connection c :=
        fun c hlt => Function.update_of_ne (Nat.ne_of_lt hlt) ..
      have hm : ∀ c, c ∈ s.connectionList ++ [s.connectionCount] ↔ c ∈ s.connectionList ∨ c = s.connectionCount := by
        intro c
        rw [mem_append, mem_singleton]
      refine ⟨⟨?_, fun c ht => ?_, fun c ht => ?_, fun ch c hc => ?_, fun ch hr => ?_⟩, fun c hc => ?_⟩
      · refine nodup_append.2 ⟨h.nodup, nodup_singleton _, fun c ht other ho heq => ?_⟩
        have hlt := h.lt c ht
        rw [heq, mem_singleton.1 ho] at hlt
        exact absurd hlt (Nat.lt_irrefl _)
      · rcases (hm c).1 ht with ht | rfl
        · exact Nat.lt_succ_of_lt (h.lt c ht)
        · exact Nat.lt_succ_self _
      · show ((s.toHeap.connectionPush new).connection c).destroyed = false
        rcases (hm c).1 ht with ht | rfl
        · rw [ho c (h.lt c ht)]
          exact h.kept c ht
        · rw [hs, ← hn]
      · exact Nat.lt_succ_of_lt (h.created ch c hc)
      · obtain ⟨hg, hnt⟩ := h.removed ch hr
        refine ⟨hg, fun c hc ht => ?_⟩
        rcases (hm c).1 ht with ht | rfl
        · exact hnt c hc ht
        · exact absurd (h.created ch _ hc) (Nat.lt_irrefl _)
      · obtain rfl : s.connectionCount = c := some.inj hc
        exact Nat.lt_succ_self _
    · exact ⟨h, fun c hc => absurd hc (not_mem_none c)⟩

theorem connectionGet_listed (h : Listed s) (descriptor : ControlDescriptor) (established : Bool) :
    Listed (s.connectionGet A descriptor established).1 ∧
      ∀ c ∈ (s.connectionGet A descriptor established).2,
        c < (s.connectionGet A descriptor established).1.connectionCount := by
  unfold connectionGet
  split_ifs
  · cases hf : s.connectionFind A descriptor with
    | none => exact connectionCreate_listed h descriptor established
    | some c =>
      refine ⟨h, fun c' hc' => ?_⟩
      obtain rfl : c = c' := some.inj hc'
      exact h.lt c (mem_of_find?_eq_some hf)
  · exact connectionCreate_listed h descriptor established

theorem connectionGet_channel (s : ClientAgent) (descriptor : ControlDescriptor) (established : Bool) :
    (s.connectionGet A descriptor established).1.channel = s.channel := by
  unfold connectionGet connectionCreate
  dsimp only
  repeat' split
  all_goals rfl

theorem Listed.reassign (h : Listed s) (hr : (s.channel ch).removed = false) {k : Heap}
    (hn : k.connectionCount = s.connectionCount) (hd : ∀ c, (k.connection c).destroyed = (s.connection c).destroyed)
    {assigned : Option Nat} (hs : k.channel ch = { s.channel ch with connection := assigned })
    (hlt : ∀ c, assigned = some c → c < s.connectionCount) (ho : ∀ ch', ch' ≠ ch → k.channel ch' = s.channel ch') :
    Listed { s with toHeap := k } := by
  refine h.heap (Nat.le_of_eq hn.symm) (fun c' _ => hd c') (fun ch' c' hc' => ?_) fun ch' hf => ?_
  · rw [hn]
    rcases eq_or_ne ch' ch with rfl | hne
    · exact hlt c' ((congrArg ControlChannel.connection hs).symm.trans hc')
    · rw [ho ch' hne] at hc'
      exact h.created ch' c' hc'
  · rcases eq_or_ne ch' ch with rfl | hne
    · rw [hs, hr] at hf
      cases hf
    · rw [ho ch' hne] at hf ⊢
      exact h.removed ch' hf

theorem connectionChannelAdd_listed (h : Listed s) (hr : (s.channel ch).removed = false) {c : Nat}
    (hc : c < s.connectionCount) : Listed { s with toHeap := s.toHeap.connectionChannelAdd c ch } := by
  refine h.reassign hr rfl (fun c' => ?_) (connectionChannelAdd_channel_self c ch) (fun c' hc' => ?_)
    fun ch' hne => connectionChannelAdd_channel_ne c hne
  · rcases eq_or_ne c' c with rfl | hne
    · rw [connectionChannelAdd_connection_self]
    · rw [connectionChannelAdd_connection_ne ch hne]
  · exact some.inj hc' ▸ hc

theorem connectionChannelRemove_listed (h : Listed s) (hr : (s.channel ch).removed = false) (c : Nat) :
    Listed { s with toHeap := s.toHeap.connectionChannelRemove c ch } := by
  refine h.reassign hr rfl (fun c' => ?_) (connectionChannelRemove_channel_self c ch) nofun
    fun ch' hne => connectionChannelRemove_channel_ne c hne
  rcases eq_or_ne c' c with rfl | hne
  · rw [connectionChannelRemove_connection_self]
  · rw [connectionChannelRemove_connection_ne ch hne]

theorem connectionRemove_listed (h : Listed s) (c : Nat) :
    Listed (s.connectionRemove c) ∧ c ∉ (s.connectionRemove c).connectionList := by
  have hl := h.steady (steady_modifyConnection s c (f := ({ · with sock := false })) fun _ => rfl)
  refine ⟨⟨h.nodup.erase c, fun c' hm => ?_, fun c' hm => ?_, hl.created, fun ch hr => ?_⟩, ?_⟩
  · exact h.lt c' (mem_of_mem_erase hm)
  · exact hl.kept c' (mem_of_mem_erase hm)
  · obtain ⟨hg, hn⟩ := hl.removed ch hr
    exact ⟨hg, fun c' hc' hm => hn c' hc' (mem_of_mem_erase hm)⟩
  · exact h.nodup.not_mem_erase

theorem channelModify_listed (h : Listed s) (hn : s.gone ch = false) (descriptor : ControlDescriptor)
    (established : Bool) : Listed (s.channelModify A ch descriptor established) := by
  unfold channelModify
  split
  · dsimp only
    generalize idResourceGenerate ⟨descriptor.sessionId, descriptor.resourceName⟩ = identifier
    have hi := steady_modifyChannel s ch (f := ({ · with identifier := identifier })) fun _ => ⟨rfl, rfl⟩
    have hl := h.steady hi
    have hr := (hi.channel ch).2.trans (h.removed_false hn)
    generalize s.modifyChannel ch ({ · with identifier := identifier }) = u at hl hr
    obtain ⟨hg, hlt⟩ := connectionGet_listed (A := A) hl descriptor established
    rw [← connectionGet_channel (A := A) u descriptor established] at hr
    cases hc : (u.connectionGet A descriptor established).2 with
    | some c => exact (connectionChannelAdd_listed hg hr (hlt c hc)).steady (steady_see _ _)
    | none => exact hg.steady (steady_see _ _)
  · exact h.steady (steady_see s _)

theorem channelRemove_listed (h : Listed s) (hg : s.gone ch = false) : Listed (s.channelRemove ch) := by
  unfold channelRemove
  cases hcn : (s.channel ch).connection with
  | none => exact h.steady (steady_see s _)
  | some c =>
    have hc := h.created ch c hcn
    have hu := connectionChannelRemove_listed h (h.removed_false hg) c
    dsimp only
    split_ifs
    · obtain ⟨hl, hn⟩ := connectionRemove_listed hu c
      have hg' : ∀ u : ClientAgent, (u.see (.removed ch true)).gone ch := by
        intro u
        exact any_append.trans (by simp [ClientEvent.removes])
      have ht : c < (connectionRemove
        { s with toHeap := s.toHeap.connectionChannelRemove c ch } c).connectionCount := hc
      generalize connectionRemove { s with toHeap := s.toHeap.connectionChannelRemove c ch } c = u
        at hl hn ht
      have hs := hl.steady (steady_see u (.removed ch true))
      have hh := fun ch' => channel_modifyChannel (h := u.toHeap) ch ch'
        ({ · with connection := some c, removed := true })
      refine hs.heap (k := u.toHeap.modifyChannel ch ({ · with connection := some c, removed := true }))
        (Nat.le_refl _) (fun _ _ => rfl) (fun ch' c' hc' => ?_) fun ch' hf => ?_
      · rw [hh ch'] at hc'
        split_ifs at hc'
        · obtain rfl : c = c' := some.inj hc'
          exact ht
        · exact hl.created ch' c' hc'
      · rw [hh ch'] at hf ⊢
        split_ifs at hf ⊢ with heq
        · refine ⟨heq ▸ hg' u, fun c' hc' => ?_⟩
          obtain rfl : c = c' := some.inj hc'
          exact hn
        · exact hs.removed ch' hf
    · exact hu.steady (steady_see _ _)

theorem channelDestroy_listed (h : Listed s) : Listed (s.channelDestroy ch) := by
  unfold channelDestroy
  cases hcn : (s.channel ch).connection with
  | none => exact h
  | some c =>
    split_ifs with hr
    · have hn := (h.removed ch hr).2 c hcn
      have hh := fun ch' => channel_modifyChannel (h := s.toHeap) ch ch' ({ · with connection := none })
      refine h.heap (k := (s.toHeap.modifyChannel ch ({ · with connection := none })).modifyConnection c
        ({ · with destroyed := true })) (Nat.le_refl _) (fun c' hm => ?_) (fun ch' c' hc' => ?_) fun ch' hf => ?_
      · have hne : c' ≠ c := by
          rintro rfl
          exact hn hm
        exact congrArg Connection.destroyed (modifyConnection_connection_ne _ hne)
      · rw [modifyConnection_channel, hh ch'] at hc'
        split_ifs at hc'
        exact h.created ch' c' hc'
      · rw [modifyConnection_channel, hh ch'] at hf ⊢
        split_ifs at hf ⊢ with heq
        · exact ⟨heq ▸ (h.removed ch hr).1, fun c' hc' => by cases hc'⟩
        · exact h.removed ch' hf
    · exact h

theorem step_listed (h : Listed s) (hu : s.usable input) : Listed (s.step A input).1 := by
  cases hp : input.plain with
  | true => exact h.steady (step_steady s hp)
  | false =>
    cases input with
    | add | send | receive | disconnect | timeout => cases hp
    | modify ch descriptor established =>
      exact channelModify_listed h (by simpa [usable] using hu) descriptor established
    | remove ch => exact channelRemove_listed h (by simpa [usable] using hu)
    | destroy ch => exact channelDestroy_listed h

theorem listed_init : Listed {} := by
  refine ⟨nodup_nil, fun c hm => ?_, fun c hm => ?_, fun ch c hc => ?_, fun ch hr => ?_⟩
  · cases hm
  · cases hm
  · cases hc
  · cases hr

/-! ## Assignments -/

/-- **What a step does to the connections of channels.** One that a channel gets is open; and when all that lead to the
server are closed, it gets a new one, or the answer tells that there is none. -/
structure Attachment (A : ClientProfile) (s : ClientAgent) (input : ClientInput) (t : ClientAgent) : Prop where
  alive : ∀ ch c, (t.channel ch).connection = some c → (s.channel ch).connection ≠ some c →
    (t.connection c).sock = true ∧ (t.connection c).destroyed = false
  renewed : ∀ ch descriptor established, input = .modify ch descriptor established → s.attaches ch descriptor →
    (∀ c ∈ s.connectionList, s.leadsTo A descriptor c → (s.connection c).sock = false) →
    (t.channel ch).connection = some s.connectionCount ∧ s.connectionCount < t.connectionCount ∨
      (t.channel ch).connection = none ∧ t.log = s.log ++ [.modified ch { descriptor with port := 0 } false]

/-- A channel gets the first connection of the list that leads to the server, or one that is created, or none. -/
inductive Assigned (A : ClientProfile) (s : ClientAgent) (ch : Nat) (descriptor : ControlDescriptor) (t : ClientAgent) :
    Prop
  | found (c : Nat) (hexisting : descriptor.connectionType = .existing)
      (hfirst : c ∈ s.connectionList.find? (s.leadsTo A descriptor)) (hc : (t.channel ch).connection = some c)
      (hsock : (t.connection c).sock = (s.connection c).sock)
      (hdest : (t.connection c).destroyed = (s.connection c).destroyed)
  | created (hnone : descriptor.connectionType = .existing → s.connectionList.find? (s.leadsTo A descriptor) = none)
      (hc : (t.channel ch).connection = some s.connectionCount) (hlt : s.connectionCount < t.connectionCount)
      (hsock : (t.connection s.connectionCount).sock)
      (hdest : (t.connection s.connectionCount).destroyed = false)
  | refused (hnone : descriptor.connectionType = .existing → s.connectionList.find? (s.leadsTo A descriptor) = none)
      (hc : (t.channel ch).connection = none)
      (hlog : t.log = s.log ++ [.modified ch { descriptor with port := 0 } false])

theorem connectionCreate_cases (s : ClientAgent) (descriptor : ControlDescriptor) (established : Bool) :
    (∃ connection list, connection.sock ∧ connection.destroyed = false ∧
      s.connectionCreate A descriptor established =
        ({ s with toHeap := s.toHeap.connectionPush connection, connectionList := list }, some s.connectionCount)) ∨
      s.connectionCreate A descriptor established = (s, none) := by
  unfold connectionCreate
  cases A.sockaddrInfoGet descriptor.ip with
  | none => exact Or.inr rfl
  | some ip =>
    split_ifs
    · exact Or.inl ⟨_, _, rfl, rfl, rfl⟩
    · exact Or.inr rfl

theorem connectionGet_cases (s : ClientAgent) (descriptor : ControlDescriptor) (established : Bool) :
    (∃ c, descriptor.connectionType = .existing ∧ c ∈ s.connectionList.find? (s.leadsTo A descriptor) ∧
      s.connectionGet A descriptor established = (s, some c)) ∨
    (descriptor.connectionType = .existing → s.connectionList.find? (s.leadsTo A descriptor) = none) ∧
      s.connectionGet A descriptor established = s.connectionCreate A descriptor established := by
  unfold connectionGet
  split_ifs with he
  · cases hf : s.connectionFind A descriptor with
    | none => exact Or.inr ⟨fun _ => hf, rfl⟩
    | some c => exact Or.inl ⟨c, he, hf, rfl⟩
  · exact Or.inr ⟨fun ht => absurd ht he, rfl⟩

theorem channelModify_assigned {descriptor : ControlDescriptor} (ht : s.attaches ch descriptor)
    (established : Bool) :
    Assigned A s ch descriptor (s.channelModify A ch descriptor established) ∧
      ∀ other, other ≠ ch → (s.channelModify A ch descriptor established).channel other = s.channel other := by
  obtain ⟨hp, hnn⟩ := ht
  unfold channelModify
  rw [if_pos ⟨hp, hnn⟩]
  generalize idResourceGenerate ⟨descriptor.sessionId, descriptor.resourceName⟩ = identifier
  have hl := modifyChannel_channel_self (h := s.toHeap) ch ({ · with identifier := identifier })
  have ho := fun other (hne : other ≠ ch) =>
    modifyChannel_channel_ne (h := s.toHeap) ({ · with identifier := identifier }) hne
  -- What is assigned keeps the socket of the connection, and the other channels.
  have ha : ∀ (k : Heap) (c : Nat), ((k.connectionChannelAdd c ch).channel ch).connection = some c ∧
      ((k.connectionChannelAdd c ch).connection c).sock = (k.connection c).sock ∧
      ((k.connectionChannelAdd c ch).connection c).destroyed = (k.connection c).destroyed ∧
      ∀ other, other ≠ ch → (k.connectionChannelAdd c ch).channel other = k.channel other := by
    intro k c
    refine ⟨?_, ?_, ?_, fun other => connectionChannelAdd_channel_ne c⟩
    · rw [connectionChannelAdd_channel_self]
    · rw [connectionChannelAdd_connection_self]
    · rw [connectionChannelAdd_connection_self]
  dsimp only
  obtain ⟨c, he, hf, hg⟩ | ⟨hn, hg⟩ := connectionGet_cases (A := A)
    (s.modifyChannel ch ({ · with identifier := identifier })) descriptor established
  · rw [hg]
    obtain ⟨hc, hs, hs', hk⟩ := ha (s.toHeap.modifyChannel ch ({ · with identifier := identifier })) c
    exact ⟨.found c he hf hc hs hs', fun other hne => (hk other hne).trans (ho other hne)⟩
  obtain ⟨connection, list, hsc, hd, hr⟩ | hr := connectionCreate_cases (A := A)
    (s.modifyChannel ch ({ · with identifier := identifier })) descriptor established
  · rw [hg, hr]
    obtain ⟨hc, hs, hs', hk⟩ := ha
      ((s.toHeap.modifyChannel ch ({ · with identifier := identifier })).connectionPush connection) s.connectionCount
    have hw : ((s.toHeap.modifyChannel ch ({ · with identifier := identifier })).connectionPush connection).connection
        s.connectionCount = connection := Function.update_self ..
    rw [hw] at hs hs'
    refine ⟨.created hn hc (Nat.lt_succ_self _) (hs.trans hsc) (hs'.trans hd), fun other hne => ?_⟩
    exact (hk other hne).trans (ho other hne)
  · rw [hg, hr]
    refine ⟨.refused hn ?_ rfl, ho⟩
    exact (congrArg ControlChannel.connection hl).trans hnn

theorem channelRemove_connection (s : ClientAgent) (ch other c : Nat)
    (hc : ((s.channelRemove ch).channel other).connection = some c) : (s.channel other).connection = some c := by
  unfold channelRemove at hc
  cases hn : (s.channel ch).connection with
  | none =>
    rw [hn] at hc
    exact hc
  | some c' =>
    have hs := connectionChannelRemove_channel_self (h := s.toHeap) c' ch
    have hk := fun other (hne : other ≠ ch) => connectionChannelRemove_channel_ne (h := s.toHeap) c' hne
    rw [hn] at hc
    dsimp only at hc
    generalize s.toHeap.connectionChannelRemove c' ch = k at hs hk hc
    split_ifs at hc
    · have hc : ((k.modifyChannel ch ({ · with connection := some c', removed := true })).channel other).connection =
        some c := hc
      rw [channel_modifyChannel] at hc
      split_ifs at hc with heq
      · rw [heq, hn]
        exact hc
      · rw [← hk other heq]
        exact hc
    · have ht : (k.channel other).connection = some c := hc
      rcases eq_or_ne other ch with rfl | hne
      · rw [hs] at ht
        cases ht
      · rw [← hk other hne]
        exact ht

theorem channelDestroy_connection (s : ClientAgent) (ch other c : Nat)
    (hc : ((s.channelDestroy ch).channel other).connection = some c) : (s.channel other).connection = some c := by
  unfold channelDestroy at hc
  cases hn : (s.channel ch).connection with
  | none =>
    rw [hn] at hc
    exact hc
  | some c' =>
    rw [hn] at hc
    split_ifs at hc
    · have hc : ((s.toHeap.modifyChannel ch ({ · with connection := none })).channel other).connection = some c := hc
      rw [channel_modifyChannel] at hc
      split_ifs at hc
      exact hc
    · exact hc

def ClientAgent.assigning (s : ClientAgent) : ClientInput → Prop
  | .modify ch descriptor _ => s.attaches ch descriptor
  | _ => False

theorem step_connection (hn : ¬ s.assigning input) {ch c : Nat}
    (hc : ((s.step A input).1.channel ch).connection = some c) : (s.channel ch).connection = some c := by
  cases hp : input.plain with
  | true => exact ((step_steady s hp).channel ch).1 ▸ hc
  | false =>
    cases input with
    | add | send | receive | disconnect | timeout => cases hp
    | remove key => exact channelRemove_connection s key ch c hc
    | destroy key => exact channelDestroy_connection s key ch c hc
    | modify key descriptor established =>
      have hs : s.channelModify A key descriptor established = s.see (.modified key descriptor true) := by
        exact if_neg hn
      have hc : ((s.channelModify A key descriptor established).channel ch).connection = some c := hc
      rw [hs] at hc
      exact hc

theorem attachment_iff (h : Listed s) : Attachment A s input (s.step A input).1 ↔ s.unbroken A input := by
  by_cases hs : s.assigning input
  swap
  · -- A step that assigns nothing.
    refine iff_of_true ⟨fun ch c hc hn => absurd (step_connection hs hc) hn, ?_⟩ ?_
    · rintro ch descriptor established rfl ha
      exact absurd ha hs
    · cases input with
      | modify ch descriptor established => exact fun ha => absurd ha hs
      | add | remove | destroy | send | receive | disconnect | timeout => trivial
  cases input with
  | add | remove | destroy | send | receive | disconnect | timeout => exact hs.elim
  | modify ch descriptor established =>
    have ha : s.attaches ch descriptor := hs
    obtain ⟨hg, ho⟩ := channelModify_assigned (A := A) ha established
    show Attachment A s (.modify ch descriptor established) (s.channelModify A ch descriptor established) ↔ _
    generalize s.channelModify A ch descriptor established = t at hg ho
    -- Only the channel itself gets a connection.
    have hsl : ∀ other c, (t.channel other).connection = some c → (s.channel other).connection ≠ some c →
        other = ch := by
      intro other c hc hn
      by_contra hne
      rw [ho other hne] at hc
      exact hn hc
    constructor
    · intro ht _ he c hf
      cases hg with
      | found c' _ hf' hc hsc _ =>
        obtain rfl : c = c' := some.inj (hf.symm.trans hf')
        rw [← hsc]
        exact (ht.alive ch c hc (by rw [ha.2]; exact (Option.some_ne_none c).symm)).1
      | created hnn | refused hnn =>
        rw [hnn he] at hf
        cases hf
    · intro hu
      refine ⟨fun other c hc hn => ?_, fun ch' descriptor' established' heq _ hcl => ?_⟩
      · obtain rfl := hsl other c hc hn
        cases hg with
        | found c' he hf hc' hsc hd =>
          obtain rfl : c = c' := some.inj (hc.symm.trans hc')
          have hm := mem_of_find?_eq_some hf
          exact ⟨hsc.trans (hu ha he c hf), hd.trans (h.kept c hm)⟩
        | created _ hc' _ hsc hd =>
          obtain rfl : s.connectionCount = c := some.inj (hc'.symm.trans hc)
          exact ⟨hsc, hd⟩
        | refused _ hc' =>
          rw [hc'] at hc
          cases hc
      · obtain ⟨rfl, rfl, rfl⟩ : ch = ch' ∧ descriptor = descriptor' ∧ established = established' := by
          injection heq with h1 h2 h3
          exact ⟨h1, h2, h3⟩
        cases hg with
        | found c he hf =>
          have hm := mem_of_find?_eq_some hf
          have hp := hu ha he c hf
          rw [hcl c hm (List.find?_some hf)] at hp
          cases hp
        | created _ hc hlt => exact Or.inl ⟨hc, hlt⟩
        | refused _ hc hl => exact Or.inr ⟨hc, hl⟩

/-- **Channels are assigned to connections that are alive**, in every run of the agent: each step of it does what
`Attachment` tells just when each step meets the condition. -/
theorem clientAgent_attachment (A : ClientProfile) (inputs : List ClientInput)
    (h : EachStep (ClientAgent.step A) (fun s input => s.usable input = true) {} inputs) :
    EachStep (ClientAgent.step A) (fun s input => Attachment A s input (s.step A input).1) {} inputs ↔
      EachStep (ClientAgent.step A) (ClientAgent.unbroken A) {} inputs := by
  constructor
  · intro hattachment
    exact eachStep_of_invariant Listed (fun s input => s.usable input = true ∧ Attachment A s input (s.step A input).1) _
      (fun s input hs hok => step_listed hs hok.1) (fun s input hs hok => (attachment_iff hs).1 hok.2) {} inputs
      listed_init (eachStep_and h hattachment)
  · intro hunbroken
    exact eachStep_of_invariant Listed (fun s input => s.usable input = true ∧ s.unbroken A input) _
      (fun s input hs hok => step_listed hs hok.1) (fun s input hs hok => (attachment_iff hs).2 hok.2) {} inputs
      listed_init (eachStep_and h hunbroken)

theorem clientAgent_attachment_sample :
    EachStep (ClientAgent.step sampleProfile) (fun s input => Attachment sampleProfile s input (s.step sampleProfile input).1)
        {} sampleInputs ↔
      EachStep (ClientAgent.step sampleProfile) (ClientAgent.unbroken sampleProfile) {} sampleInputs :=
  clientAgent_attachment sampleProfile sampleInputs (by decide +kernel)

/-- A channel is assigned to the connection that the peer closed, and that another channel still has. -/
theorem not_attachment_closed :
    let inputs : List ClientInput := [.modify 0 (sampleDescriptor [83]) true, .disconnect 0 [0],
      .modify 1 (sampleDescriptor [82]) true]
    EachStep (ClientAgent.step sampleProfile) (fun s input => s.enabled input = true ∧ s.usable input) {} inputs ∧
      ¬ EachStep (ClientAgent.step sampleProfile)
        (fun s input => Attachment sampleProfile s input (s.step sampleProfile input).1) {} inputs := by
  refine ⟨by decide +kernel, fun h => ?_⟩
  have halive := h.2.2.1.alive 1 0 (by decide +kernel) (by decide +kernel)
  exact absurd halive.1 (by decide +kernel)

end UniMrcp.MrcpV2Transport
