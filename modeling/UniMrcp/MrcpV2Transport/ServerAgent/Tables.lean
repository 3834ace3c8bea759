import UniMrcp.MrcpV2Transport.ServerAgent

/-!
# The tables of the server

A channel is in the table of pending channels or of its connection, and a connection is destroyed once.
-/

namespace UniMrcp.MrcpV2Transport

open Apt Mrcp Lib List Option Heap ServerAgent
open Option (some.inj)
open MrcpServer (ControlDescriptor)

variable {A : ServerProfile} {s t : ServerAgent} {ch c : Nat}

def ServerEvent.adds (ch : Nat) : ServerEvent → Bool
  | .added key _ _ => key == ch
  | _ => false

def ServerEvent.removes (ch : Nat) : ServerEvent → Bool
  | .removed key _ => key == ch
  | _ => false

def ServerAgent.known (s : ServerAgent) (ch : Nat) : Bool := s.log.any (ServerEvent.adds ch)

def ServerAgent.gone (s : ServerAgent) (ch : Nat) : Bool := s.log.any (ServerEvent.removes ch)

def ServerAgent.live (s : ServerAgent) (ch : Nat) : Prop := s.known ch = true ∧ s.gone ch = false

def ServerAgent.destructions (s : ServerAgent) (c : Nat) : Nat := s.log.count (.destroyed c)

/-- **The condition on a step.** A channel is added once, under an identifier that no pending channel has, removed once,
and then destroyed. -/
def ServerAgent.orderly (s : ServerAgent) : ServerInput → Bool
  | .add ch offer =>
    !s.known ch && (s.pendingChannelTable.lookup (idResourceGenerate ⟨offer.sessionId, offer.resourceName⟩)).isNone
  | .remove ch => s.known ch && !s.gone ch
  | .destroy ch => s.gone ch
  | _ => true

/-! ## The invariant -/

/-- **The invariant of the tables.** -/
structure Registered (s : ServerAgent) : Prop where
  linked : Heap.Linked s.live s.toHeap
  pending : ∀ id ch, s.pendingChannelTable.lookup id = some ch ↔
    s.live ch ∧ (s.channel ch).connection = none ∧ (s.channel ch).identifier = id
  unknown : ∀ ch, s.known ch = false → (s.channel ch).connection = none
  known : ∀ ch, s.gone ch → s.known ch
  removed : ∀ ch, s.gone ch = false → (s.channel ch).removed = false

/-- **The invariant of a connection.** It is destroyed once, when its socket is closed and no channel refers to it; its
timers are set only before. -/
structure Sound (s : ServerAgent) (c : Nat) : Prop where
  kept : (s.connection c).sock ∨ (∃ ch, (s.channel ch).connection = some c) ∨ s.connectionCount ≤ c →
    s.destructions c = 0
  destroyed : c < s.connectionCount → (s.connection c).sock = false →
    (∀ ch, (s.channel ch).connection ≠ some c) → s.destructions c = 1
  held : ∀ ch, s.gone ch → (s.channel ch).connection = some c →
    (s.connection c).sock = false ∧ (s.connection c).accessCount = 0 ∧ (s.channel ch).removed ∧
      c < s.connectionCount ∧ ∀ other, (s.channel other).connection = some c → other = ch
  ring : c ∈ s.connectionList ↔ (s.connection c).sock
  inactivity : (s.connection c).inactivityTimer → (s.connection c).sock
  termination : (s.connection c).terminationTimer →
    (s.connection c).sock = false ∧ (s.connection c).accessCount ≠ 0

/-- **The invariant of the agent.** -/
structure Kept (s : ServerAgent) : Prop where
  registered : Registered s
  sound : ∀ c, Sound s c
  nodup : s.connectionList.Nodup

theorem Sound.congr (h : Sound s c) (hn : t.connection c = s.connection c)
    (ht : t.connectionCount ≤ c ↔ s.connectionCount ≤ c) (hl : t.destructions c = s.destructions c)
    (hls : c ∈ t.connectionList ↔ c ∈ s.connectionList)
    (hh : ∀ ch, (t.channel ch).connection = some c ↔ (s.channel ch).connection = some c)
    (hg : ∀ ch, (s.channel ch).connection = some c →
      t.gone ch = s.gone ch ∧ (t.channel ch).removed = (s.channel ch).removed) : Sound t c := by
  refine ⟨fun hth => ?_, fun hlt hs hnn => ?_, fun ch hth hc => ?_, ?_, ?_, ?_⟩
  · rw [hl]
    refine h.kept ?_
    rwa [hn, ht, exists_congr hh] at hth
  · rw [hl]
    refine h.destroyed ?_ (hn ▸ hs) fun ch hc => hnn ch ((hh ch).2 hc)
    exact Nat.lt_of_not_le fun hle => absurd (ht.2 hle) (Nat.not_le.2 hlt)
  · have hc := (hh ch).1 hc
    rw [(hg ch hc).1] at hth
    obtain ⟨hs, ha, hr, hlt, ho⟩ := h.held ch hth hc
    rw [hn, (hg ch hc).2]
    refine ⟨hs, ha, hr, ?_, fun other hot => ho other ((hh other).1 hot)⟩
    exact Nat.lt_of_not_le fun hle => absurd (ht.1 hle) (Nat.not_le.2 hlt)
  · rw [hls, hn]
    exact h.ring
  · rw [hn]
    exact h.inactivity
  · rw [hn]
    exact h.termination

theorem Kept.lt_of_sock (h : Kept s) (hs : (s.connection c).sock) : c < s.connectionCount := by
  by_contra hle
  rw [h.registered.linked.fresh c (Nat.le_of_not_lt hle)] at hs
  cases hs

theorem Registered.live_or_gone (h : Registered s) (hc : (s.channel ch).connection = some c) :
    s.live ch ∨ s.gone ch := by
  cases hg : s.gone ch with
  | true => exact Or.inr rfl
  | false =>
    refine Or.inl ⟨?_, hg⟩
    by_contra hk
    rw [h.unknown ch (by simpa using hk)] at hc
    cases hc

theorem Registered.not_gone (h : Registered s) (hk : s.known ch = false) : s.gone ch = false :=
  Bool.eq_false_iff.2 fun hg => Bool.false_ne_true (hk.symm.trans (h.known ch hg))

theorem live_congr (hl : t.known ch = s.known ch ∧ t.gone ch = s.gone ch) : t.live ch ↔ s.live ch := by
  unfold live
  rw [hl.1, hl.2]

theorem Registered.congr (h : Registered s) (hc : ∀ ch, s.gone ch = false → t.channel ch = s.channel ch)
    (hb : ∀ c, (t.connection c).channelTable = (s.connection c).channelTable ∧
      (t.connection c).accessCount = (s.connection c).accessCount)
    (hf : ∀ c, t.connectionCount ≤ c → t.connection c = {})
    (hp : t.pendingChannelTable = s.pendingChannelTable)
    (hl : ∀ ch, t.known ch = s.known ch ∧ t.gone ch = s.gone ch) : Registered t := by
  have hv := fun ch => live_congr (hl ch)
  refine ⟨?_, fun id ch => ?_, fun ch hn => ?_, fun ch ht => ?_, fun ch hn => ?_⟩
  · refine (h.linked.live_congr fun ch _ => hv ch).congr (fun ch ht => ?_) hb hf
    rw [hc ch ((hv ch).1 ht).2]
    exact ⟨rfl, fun _ => rfl⟩
  · rw [hp, hv, h.pending]
    refine and_congr_right fun ht => ?_
    rw [hc ch ht.2]
  · rw [(hl ch).1] at hn
    rw [hc ch (h.not_gone hn)]
    exact h.unknown ch hn
  · rw [(hl ch).1]
    exact h.known ch ((hl ch).2 ▸ ht)
  · rw [(hl ch).2] at hn
    rw [hc ch hn]
    exact h.removed ch hn

/-- What is seen is neither that a channel is added or removed, nor that a connection other than `c` is destroyed. -/
def quiet (c : Nat) (events : List ServerEvent) : Prop :=
  ∀ event ∈ events, (∀ ch, event.adds ch = false ∧ event.removes ch = false) ∧
    ∀ other, other ≠ c → event ≠ .destroyed other

variable {events : List ServerEvent}

theorem log_quiet (hl : t.log = s.log ++ events) (hq : quiet c events) :
    (∀ ch, t.known ch = s.known ch ∧ t.gone ch = s.gone ch) ∧
      ∀ other, other ≠ c → t.destructions other = s.destructions other := by
  refine ⟨fun ch => ⟨?_, ?_⟩, fun other hne => ?_⟩
  · have hn : events.any (ServerEvent.adds ch) = false := any_eq_false.2 fun event hm => by
      rw [((hq event hm).1 ch).1]
      exact Bool.false_ne_true
    unfold ServerAgent.known
    rw [hl, any_append, hn, Bool.or_false]
  · have hn : events.any (ServerEvent.removes ch) = false := any_eq_false.2 fun event hm => by
      rw [((hq event hm).1 ch).2]
      exact Bool.false_ne_true
    unfold gone
    rw [hl, any_append, hn, Bool.or_false]
  · have hn : events.count (.destroyed other) = 0 :=
      count_eq_zero.2 fun hm => (hq _ hm).2 other hne rfl
    unfold destructions
    rw [hl, count_append, hn, Nat.add_zero]

theorem quiet_destroyed (c : Nat) : quiet c [.destroyed c] := by
  intro event hm
  rw [mem_singleton.1 hm]
  exact ⟨fun _ => ⟨rfl, rfl⟩, fun other hne heq => hne (ServerEvent.destroyed.inj heq).symm⟩

theorem Kept.change (h : Kept s) (c : Nat) (events : List ServerEvent)
    (hc : ∀ ch, t.channel ch = s.channel ch ∨ s.gone ch ∧ (s.channel ch).connection = some c ∧
      t.channel ch = { s.channel ch with connection := none })
    (hn : ∀ other, other ≠ c → t.connection other = s.connection other)
    (hb : (t.connection c).channelTable = (s.connection c).channelTable ∧
      (t.connection c).accessCount = (s.connection c).accessCount)
    (ht : ∀ other, other ≠ c → (t.connectionCount ≤ other ↔ s.connectionCount ≤ other))
    (hf : c < t.connectionCount) (hp : t.pendingChannelTable = s.pendingChannelTable)
    (hg : t.log = s.log ++ events) (hq : quiet c events)
    (hls : ∀ other, other ≠ c → (other ∈ t.connectionList ↔ other ∈ s.connectionList))
    (hd : t.connectionList.Nodup) (hsn : Sound t c) : Kept t := by
  obtain ⟨hh, hds⟩ := log_quiet hg hq
  refine ⟨h.registered.congr (fun ch hnt => ?_) (fun other => ?_) (fun other hle => ?_) hp hh,
    fun other => ?_, hd⟩
  · refine (hc ch).resolve_right fun hl => ?_
    exact Bool.false_ne_true (hnt.symm.trans hl.1)
  · rcases eq_or_ne other c with rfl | hne
    · exact hb
    · rw [hn other hne]
      exact ⟨rfl, rfl⟩
  · have hne : other ≠ c := fun heq => absurd (heq ▸ hle) (Nat.not_le.2 hf)
    rw [hn other hne]
    exact h.registered.linked.fresh other ((ht other hne).1 hle)
  · rcases eq_or_ne other c with rfl | hne
    · exact hsn
    · refine (h.sound other).congr (hn other hne) (ht other hne) (hds other hne) (hls other hne)
        (fun ch => ?_) fun ch _ => ⟨(hh ch).2, ?_⟩
      · obtain hs | ⟨-, ha, hl⟩ := hc ch
        · rw [hs]
        · rw [hl, ha]
          exact iff_of_false (some_ne_none other).symm fun heq => hne (some.inj heq).symm
      · obtain hs | ⟨-, -, hl⟩ := hc ch
        · rw [hs]
        · rw [hl]

theorem Sound.ofDestroyed (hz : s.destructions c = 0) (hl : t.log = s.log ++ [.destroyed c])
    (hlt : c < t.connectionCount) (hn : ∀ ch, (t.channel ch).connection ≠ some c)
    (h : (t.connection c).sock = false) (hls : c ∉ t.connectionList)
    (hi : (t.connection c).inactivityTimer = false)
    (ht : (t.connection c).terminationTimer = false) : Sound t c := by
  refine ⟨fun hh => ?_, fun _ _ _ => ?_, fun ch _ hc => absurd hc (hn ch),
    iff_of_false hls (h ▸ Bool.false_ne_true), fun hs => ?_, fun hs => ?_⟩
  · obtain ho | ⟨ch, hc⟩ | hle := hh
    · exact absurd (h.symm.trans ho) Bool.false_ne_true
    · exact absurd hc (hn ch)
    · exact absurd hlt (Nat.not_lt.2 hle)
  · unfold destructions
    rw [hl, count_append, count_singleton_self]
    exact congrArg (· + 1) hz
  · exact absurd (hi.symm.trans hs) Bool.false_ne_true
  · exact absurd (ht.symm.trans hs) Bool.false_ne_true

theorem connectionDestroy_self (c : Nat) :
    (s.connectionDestroy c).connection c = { s.connection c with destroyed := true } :=
  modifyConnection_connection_self (h := s.toHeap) c ({ · with destroyed := true })

theorem connectionDestroy_ne {other : Nat} (hne : other ≠ c) :
    (s.connectionDestroy c).connection other = s.connection other :=
  modifyConnection_connection_ne (h := s.toHeap) ({ · with destroyed := true }) hne

theorem Kept.see (h : Kept s) (hq : ∀ c, quiet c events) : Kept { s with log := s.log ++ events } := by
  have ht := (log_quiet (s := s) (t := { s with log := s.log ++ events }) rfl (hq 0)).1
  refine ⟨h.registered.congr (fun _ _ => rfl) (fun _ => ⟨rfl, rfl⟩) h.registered.linked.fresh rfl ht, fun c => ?_, h.nodup⟩
  refine (h.sound c).congr rfl Iff.rfl ?_ Iff.rfl (fun _ => Iff.rfl) fun ch _ => ⟨(ht ch).2, rfl⟩
  exact (log_quiet rfl (hq (c + 1))).2 c (Nat.ne_of_lt (Nat.lt_succ_self c))

theorem Kept.see_one (h : Kept s) {event : ServerEvent} (he : ∀ ch, event.adds ch = false ∧ event.removes ch = false)
    (hn : ∀ c, event ≠ .destroyed c) : Kept (s.see event) := by
  refine h.see fun _ event' hm => ?_
  rw [mem_singleton.1 hm]
  exact ⟨he, fun other _ => hn other⟩

theorem messageSend_kept (h : Kept s) (connection : Option Nat) (message : Message) (chunks : List Chunk) :
    Kept (s.messageSend connection message chunks) := by
  unfold ServerAgent.messageSend
  cases connection with
  | none => exact h
  | some c =>
    dsimp only
    split_ifs
    · exact h.see_one (fun _ => ⟨rfl, rfl⟩) fun _ heq => by cases heq
    · exact h

theorem channelModify_kept (h : Kept s) (offer : ControlDescriptor) : Kept (s.channelModify A ch offer) :=
  h.see_one (fun _ => ⟨rfl, rfl⟩) fun _ heq => by cases heq

theorem disconnectRaise_kept (h : Kept s) (order : List Nat) : Kept (s.disconnectRaise order) := by
  refine h.see fun _ event hm => ?_
  obtain ⟨ch, -, rfl⟩ := mem_map.1 hm
  exact ⟨fun _ => ⟨rfl, rfl⟩, fun _ _ heq => by cases heq⟩

theorem timers_kept (h : Kept s) {f : Connection → Connection} (hc : c < s.connectionCount)
    (hf : (f (s.connection c)).channelTable = (s.connection c).channelTable ∧
      (f (s.connection c)).accessCount = (s.connection c).accessCount ∧
      (f (s.connection c)).sock = (s.connection c).sock)
    (hi : (f (s.connection c)).inactivityTimer → (s.connection c).sock)
    (ht : (f (s.connection c)).terminationTimer →
      (s.connection c).sock = false ∧ (s.connection c).accessCount ≠ 0) : Kept (s.modifyConnection c f) := by
  have hl : (s.modifyConnection c f).connection c = f (s.connection c) := modifyConnection_connection_self c f
  refine h.change c [] (fun _ => Or.inl rfl) (fun other hne => modifyConnection_connection_ne f hne) ?_
    (fun _ _ => Iff.rfl) hc rfl
    (append_nil _).symm (fun _ hm => absurd hm not_mem_nil) (fun _ _ => Iff.rfl) h.nodup ?_
  · rw [hl]
    exact ⟨hf.1, hf.2.1⟩
  · have hs := h.sound c
    refine ⟨fun hh => hs.kept ?_, fun hlt hsc => hs.destroyed hlt ?_, fun ch hg hch => ?_, ?_, ?_, ?_⟩
    · rwa [hl, hf.2.2] at hh
    · rwa [hl, hf.2.2] at hsc
    · rw [hl, hf.2.1, hf.2.2]
      exact hs.held ch hg hch
    · rw [hl, hf.2.2]
      exact hs.ring
    · rw [hl, hf.2.2]
      exact hi
    · rw [hl, hf.2.1, hf.2.2]
      exact ht

/-! ## Closing and accepting -/

theorem Sound.not_held (h : Sound s c) (hs : (s.connection c).sock) (hg : s.gone ch) :
    (s.channel ch).connection ≠ some c :=
  fun hc => Bool.false_ne_true ((h.held ch hg hc).1.symm.trans hs)

theorem Sound.not_termination (h : Sound s c) (hc : (s.connection c).sock) :
    (s.connection c).terminationTimer = false :=
  Bool.eq_false_iff.2 fun hs => Bool.false_ne_true ((h.termination hs).1.symm.trans hc)

theorem Kept.none_of_count (h : Kept s) (hs : (s.connection c).sock)
    (ha : (s.connection c).accessCount = 0) (ch : Nat) : (s.channel ch).connection ≠ some c := by
  intro hc
  rcases h.registered.live_or_gone hc with hl | hg
  · exact h.registered.linked.none_of_count ha hl hc
  · exact (h.sound c).not_held hs hg hc

def ServerAgent.closed (s : ServerAgent) (c : Nat) : ServerAgent :=
  { s.modifyConnection c ({ · with sock := false, inactivityTimer := false }) with
    connectionList := s.connectionList.erase c }

theorem closed_self (c : Nat) :
    (s.closed c).connection c = { s.connection c with sock := false, inactivityTimer := false } :=
  modifyConnection_connection_self (h := s.toHeap) c ({ · with sock := false, inactivityTimer := false })

theorem closed_ne {other : Nat} (hne : other ≠ c) : (s.closed c).connection other = s.connection other :=
  modifyConnection_connection_ne (h := s.toHeap) ({ · with sock := false, inactivityTimer := false }) hne

theorem connectionClose_eq (timedout : Bool) (order : List Nat) : s.connectionClose A c timedout order =
    if (s.connection c).accessCount ≠ 0 then
      if timedout then (s.closed c).disconnectRaise order
      else if A.terminationTimeout ≠ 0 then (s.closed c).modifyConnection c ({ · with terminationTimer := true })
      else s.closed c
    else (s.closed c).connectionDestroy c := by
  have hc : (s.modifyConnection c ({ · with sock := false })).connectionRemove c = s.closed c :=
    congrArg (fun heap => ({ s with toHeap := heap, connectionList := s.connectionList.erase c } : ServerAgent))
      (modifyConnection_modifyConnection (h := s.toHeap) c ({ · with sock := false })
        ({ · with inactivityTimer := false }))
  unfold connectionClose
  dsimp only
  rw [hc, closed_self]

/-- **A connection is closed.** -/
theorem connectionClose_kept (h : Kept s) (hsc : (s.connection c).sock) (timedout : Bool) (order : List Nat) :
    Kept (s.connectionClose A c timedout order) := by
  have hc := h.lt_of_sock hsc
  have hs := h.sound c
  have hz : s.destructions c = 0 := hs.kept (Or.inl hsc)
  have hr : ∀ other, other ≠ c → (other ∈ (s.closed c).connectionList ↔ other ∈ s.connectionList) :=
    fun other hne => mem_erase_of_ne hne
  have hn : c ∉ (s.closed c).connectionList := h.nodup.not_mem_erase
  rw [connectionClose_eq]
  by_cases ha : (s.connection c).accessCount = 0
  · rw [if_neg (fun hne => hne ha)]
    have hl : ((s.closed c).connectionDestroy c).connection c =
        { s.connection c with sock := false, inactivityTimer := false, destroyed := true } := by
      rw [connectionDestroy_self, closed_self]
    refine h.change c [.destroyed c] (fun _ => Or.inl rfl)
      (fun other hne => (connectionDestroy_ne hne).trans (closed_ne hne)) (hl ▸ ⟨rfl, rfl⟩) (fun _ _ => Iff.rfl) hc rfl rfl
      (quiet_destroyed c) hr (h.nodup.erase c)
      (.ofDestroyed hz rfl hc (h.none_of_count hsc ha) (hl ▸ rfl) hn (hl ▸ rfl) ?_)
    rw [hl]
    exact hs.not_termination hsc
  · rw [if_pos ha]
    obtain ⟨ch, -, hh⟩ := h.registered.linked.exists_of_count ha
    have hcl : Kept (s.closed c) := by
      refine h.change c [] (fun _ => Or.inl rfl) (fun _ => closed_ne) (closed_self c ▸ ⟨rfl, rfl⟩) (fun _ _ => Iff.rfl) hc rfl
        (append_nil _).symm (fun _ hm => absurd hm not_mem_nil) hr (h.nodup.erase c)
        ⟨fun _ => hz, fun _ _ hnn => absurd hh (hnn ch), fun ch hth hh => absurd hh (hs.not_held hsc hth),
          ?_, ?_, ?_⟩
      · rw [closed_self]
        exact iff_of_false hn Bool.false_ne_true
      · rw [closed_self]
        exact fun ht => absurd ht Bool.false_ne_true
      · rw [closed_self]
        exact fun ht => absurd ((hs.not_termination hsc).symm.trans ht) Bool.false_ne_true
    split_ifs
    · exact disconnectRaise_kept hcl order
    · refine timers_kept hcl hc ⟨rfl, rfl, rfl⟩ ?_ fun _ => ?_
      · rw [closed_self]
        exact fun ht => absurd ht Bool.false_ne_true
      · rw [closed_self]
        exact ⟨rfl, ha⟩
    · exact hcl

theorem disconnect_kept (h : Kept s) : Kept (s.disconnect A c) := by
  unfold ServerAgent.disconnect
  split_ifs with hs
  · exact connectionClose_kept h hs false []
  · exact h

theorem inactivityTimerProc_kept (h : Kept s) (hm : (s.connection c).inactivityTimer) (order : List Nat) :
    Kept (s.inactivityTimerProc A c order) := by
  have hs := (h.sound c).inactivity hm
  have hf := timers_kept h (f := ({ · with inactivityTimer := false })) (h.lt_of_sock hs) ⟨rfl, rfl, rfl⟩
    (fun ht => absurd ht Bool.false_ne_true) (h.sound c).termination
  refine connectionClose_kept hf ?_ true order
  exact (congrArg Connection.sock (modifyConnection_connection_self (h := s.toHeap) c
    ({ · with inactivityTimer := false }))).trans hs

theorem terminationTimerProc_kept (h : Kept s) (ht : (s.connection c).terminationTimer)
    (order : List Nat) : Kept (s.terminationTimerProc c order) := by
  obtain ⟨ch, hl, hc⟩ := h.registered.linked.exists_of_count ((h.sound c).termination ht).2
  exact disconnectRaise_kept (timers_kept h (f := ({ · with terminationTimer := false }))
    (h.registered.linked.lt hl hc) ⟨rfl, rfl, rfl⟩ (h.sound c).inactivity
    fun hs => absurd hs Bool.false_ne_true) order

theorem connectionAccept_kept (h : Kept s) (remoteIp : Option Bytes) (polled : Bool) :
    Kept (s.connectionAccept A remoteIp polled) := by
  have hf := h.registered.linked.fresh s.connectionCount (Nat.le_refl _)
  have hs := h.sound s.connectionCount
  have hz : s.destructions s.connectionCount = 0 := hs.kept (Or.inr (Or.inr (Nat.le_refl _)))
  have hnn : ∀ ch, (s.channel ch).connection ≠ some s.connectionCount := by
    intro ch hh
    rcases h.registered.live_or_gone hh with hv | hg
    · exact Nat.lt_irrefl _ (h.registered.linked.lt hv hh)
    · exact Nat.lt_irrefl _ (hs.held ch hg hh).2.2.2.1
  have hnt : s.connectionCount ∉ s.connectionList := by
    intro hm
    have hsc := hs.ring.1 hm
    rw [hf] at hsc
    cases hsc
  have hn : ∀ other, other ≠ s.connectionCount → (s.connectionCount + 1 ≤ other ↔ s.connectionCount ≤ other) := by
    omega
  have hl : ∀ connection : Connection,
      (s.toHeap.connectionPush connection).connection s.connectionCount = connection := fun _ => Function.update_self ..
  have ho : ∀ (connection : Connection) (other : Nat), other ≠ s.connectionCount →
      (s.toHeap.connectionPush connection).connection other = s.connection other := fun _ _ hne =>
    Function.update_of_ne hne ..
  have hd : ∀ connection : Connection, connection.channelTable = ∅ → connection.accessCount = 0 →
      connection.sock = false → connection.inactivityTimer = false → connection.terminationTimer = false →
      Kept (connectionDestroy { s with toHeap := s.toHeap.connectionPush connection } s.connectionCount) := by
    intro connection hb ha hsc hi htr
    have ht : (connectionDestroy { s with toHeap := s.toHeap.connectionPush connection }
        s.connectionCount).connection s.connectionCount = { connection with destroyed := true } := by
      rw [connectionDestroy_self, hl]
    refine h.change s.connectionCount [.destroyed s.connectionCount] (fun _ => Or.inl rfl)
      (fun other hne => (connectionDestroy_ne hne).trans (ho connection other hne)) ?_ hn (Nat.lt_succ_self _) rfl
      rfl (quiet_destroyed _) (fun _ _ => Iff.rfl) h.nodup
      (.ofDestroyed hz rfl (Nat.lt_succ_self _) hnn (ht ▸ hsc) hnt (ht ▸ hi)
        (ht ▸ htr))
    rw [ht, hf]
    exact ⟨hb, ha⟩
  unfold connectionAccept
  cases remoteIp with
  | none => exact hd _ rfl rfl rfl rfl rfl
  | some remoteIp =>
    split_ifs
    · exact hd _ rfl rfl rfl rfl rfl
    · let f : Connection → Connection := ({ · with inactivityTimer := A.inactivityTimeout != 0 })
      have ht : ((s.toHeap.connectionPush { remoteIp, sock := true }).modifyConnection s.connectionCount f).connection
          s.connectionCount = { remoteIp, sock := true, inactivityTimer := A.inactivityTimeout != 0 } := by
        rw [modifyConnection_connection_self, hl]
      have hm : ∀ other, other ∈ s.connectionList ++ [s.connectionCount] ↔
          other ∈ s.connectionList ∨ other = s.connectionCount := by
        intro other
        rw [mem_append, mem_singleton]
      refine h.change s.connectionCount [] (fun _ => Or.inl rfl)
        (fun other hne => (modifyConnection_connection_ne f hne).trans (ho _ other hne)) ?_ hn
        (Nat.lt_succ_self _) rfl (append_nil _).symm (fun _ hm => absurd hm not_mem_nil)
        (fun other hne => (hm other).trans (or_iff_left hne)) ?_
        ⟨fun _ => hz, fun _ hsc => ?_, fun ch _ hh => absurd hh (hnn ch), ?_, fun _ => ?_, fun hst => ?_⟩
      · refine ⟨(congrArg Connection.channelTable ht).trans ?_, (congrArg Connection.accessCount ht).trans ?_⟩
        · rw [hf]
        · rw [hf]
      · refine nodup_append.2 ⟨h.nodup, nodup_singleton _, fun other hr c hc heq => ?_⟩
        rw [mem_singleton.1 hc] at heq
        exact hnt (heq ▸ hr)
      · exact absurd (hsc.symm.trans (congrArg Connection.sock ht)) Bool.false_ne_true
      · exact iff_of_true ((hm _).2 (Or.inr rfl)) (congrArg Connection.sock ht)
      · exact congrArg Connection.sock ht
      · exact absurd ((congrArg Connection.terminationTimer ht).symm.trans hst) Bool.false_ne_true

/-! ## Channels -/

theorem log_append {event : ServerEvent} (hl : t.log = s.log ++ [event]) :
    (∀ other, t.known other = (s.known other || event.adds other) ∧
      t.gone other = (s.gone other || event.removes other)) ∧
      ∀ c, event ≠ .destroyed c → t.destructions c = s.destructions c := by
  refine ⟨fun other => ⟨?_, ?_⟩, fun c hne => ?_⟩
  · unfold ServerAgent.known
    rw [hl, any_append, any_cons, any_nil, Bool.or_false]
  · unfold gone
    rw [hl, any_append, any_cons, any_nil, Bool.or_false]
  · have hn : [event].count (.destroyed c) = 0 :=
      count_eq_zero.2 fun hm => hne (mem_singleton.1 hm).symm
    unfold destructions
    rw [hl, count_append, hn, Nat.add_zero]

theorem channelAdd_kept (h : Kept s) {offer : ControlDescriptor} (hk : s.known ch = false)
    (hf : s.pendingChannelTable.lookup (idResourceGenerate ⟨offer.sessionId, offer.resourceName⟩) = none) :
    Kept (s.channelAdd A ch offer) := by
  generalize hid : idResourceGenerate ⟨offer.sessionId, offer.resourceName⟩ = identifier at hf
  have hr := h.registered
  have hnn := hr.unknown ch hk
  have hg := hr.not_gone hk
  have hs : (s.channelAdd A ch offer).channel ch = { s.channel ch with identifier := identifier } := by
    rw [← hid]
    exact modifyChannel_channel_self (h := s.toHeap) ch
      ({ · with identifier := idResourceGenerate ⟨offer.sessionId, offer.resourceName⟩ })
  have ho : ∀ other, other ≠ ch → (s.channelAdd A ch offer).channel other = s.channel other := fun other hne =>
    modifyChannel_channel_ne (h := s.toHeap)
      ({ · with identifier := idResourceGenerate ⟨offer.sessionId, offer.resourceName⟩ }) hne
  have hp : (s.channelAdd A ch offer).pendingChannelTable = s.pendingChannelTable.insert identifier ch := by
    rw [← hid]
    rfl
  obtain ⟨hsn, hd⟩ := log_append (s := s) (t := s.channelAdd A ch offer) rfl
  generalize ht : s.channelAdd A ch offer = t at hs ho hp hsn hd
  have hl : ∀ other, t.known other = (s.known other || ch == other) ∧ t.gone other = s.gone other :=
    fun other => ⟨(hsn other).1, (hsn other).2.trans (Bool.or_false _)⟩
  have ha : ∀ other, (t.channel other).connection = (s.channel other).connection ∧
      (t.channel other).removed = (s.channel other).removed := by
    intro other
    rcases eq_or_ne other ch with rfl | hne
    · rw [hs]
      exact ⟨rfl, rfl⟩
    · rw [ho other hne]
      exact ⟨rfl, rfl⟩
  have hv : ∀ other, t.live other ↔ s.live other ∨ other = ch := by
    intro other
    unfold live
    rw [(hl other).1, (hl other).2, Bool.or_eq_true, beq_iff_eq]
    constructor
    · rintro ⟨hk | rfl, hn⟩
      · exact Or.inl ⟨hk, hn⟩
      · exact Or.inr rfl
    · rintro (⟨hk, hn⟩ | rfl)
      · exact ⟨Or.inl hk, hn⟩
      · exact ⟨Or.inr rfl, hg⟩
  refine ⟨⟨?_, fun id other => ?_, fun other hn => ?_, fun other hh => ?_, fun other hn => ?_⟩, fun c => ?_, ?_⟩
  · have hb : Heap.Linked t.live s.toHeap := hr.linked.live_congr fun other hc => by
      rw [hv]
      refine or_iff_left ?_
      rintro rfl
      exact hc hnn
    subst ht
    refine hb.congr (fun other _ => ⟨(ha other).1, fun hc => ?_⟩) (fun _ => ⟨rfl, rfl⟩) hr.linked.fresh
    refine congrArg ControlChannel.identifier (ho other ?_)
    rintro rfl
    exact hc hnn
  · rw [hp, hv, (ha other).1]
    rcases eq_or_ne id identifier with rfl | hne
    · rw [AList.lookup_insert]
      constructor
      · intro heq
        obtain rfl := some.inj heq
        exact ⟨Or.inr rfl, hnn, by rw [hs]⟩
      · rintro ⟨hv | rfl, hc, hi⟩
        · rcases eq_or_ne other ch with rfl | hne
          · rfl
          · rw [ho other hne] at hi
            rw [(hr.pending id other).2 ⟨hv, hc, hi⟩] at hf
            cases hf
        · rfl
    · rw [AList.lookup_insert_ne hne, hr.pending]
      rcases eq_or_ne other ch with rfl | ho'
      · refine iff_of_false (fun hh => ?_) fun hh => hne ?_
        · rw [hh.1.1] at hk
          cases hk
        · rw [← hh.2.2, hs]
      · rw [ho other ho', or_iff_left ho']
  · rw [(ha other).1]
    rw [(hl other).1, Bool.or_eq_false_iff] at hn
    exact hr.unknown other hn.1
  · rw [(hl other).1, hr.known other ((hl other).2 ▸ hh), Bool.true_or]
  · rw [(ha other).2]
    exact hr.removed other ((hl other).2 ▸ hn)
  · subst ht
    refine (h.sound c).congr rfl Iff.rfl (hd c fun heq => by cases heq) Iff.rfl (fun other => ?_)
      fun other _ => ⟨(hl other).2, (ha other).2⟩
    rw [(ha other).1]
  · exact ht ▸ h.nodup

theorem channelMove_kept (h : Kept s) (hsc : (s.connection c).sock) {identifier : Bytes}
    (hnn : s.connectionChannelFind c identifier = none)
    (hp : s.pendingChannelTable.lookup identifier = some ch) :
    Kept { s with
      toHeap := s.toHeap.connectionChannelAdd c ch
      pendingChannelTable := s.pendingChannelTable.erase identifier } := by
  have hr := h.registered
  have hs := h.sound c
  obtain ⟨hv, hf, hid⟩ := (hr.pending identifier ch).1 hp
  subst hid
  have hl : (s.toHeap.connectionChannelAdd c ch).channel ch = { s.channel ch with connection := some c } :=
    connectionChannelAdd_channel_self c ch
  have ho : ∀ other, other ≠ ch → (s.toHeap.connectionChannelAdd c ch).channel other = s.channel other :=
    fun other hne => connectionChannelAdd_channel_ne c hne
  have hcs := connectionChannelAdd_connection_self (h := s.toHeap) c ch
  have hct : ∀ other, other ≠ c → (s.toHeap.connectionChannelAdd c ch).connection other = s.connection other :=
    fun other hne => connectionChannelAdd_connection_ne ch hne
  have ha := hr.linked.channelAdd hv hf (h.lt_of_sock hsc) hnn
  have hcn : (s.toHeap.connectionChannelAdd c ch).connectionCount = s.connectionCount := rfl
  generalize s.toHeap.connectionChannelAdd c ch = k at hl ho hcs hct ha hcn
  refine ⟨⟨ha, fun id other => ?_, fun other hn => ?_, hr.known, fun other hn => ?_⟩, fun c' => ?_, h.nodup⟩
  · show (s.pendingChannelTable.erase (s.channel ch).identifier).lookup id = some other ↔
      s.live other ∧ (k.channel other).connection = none ∧ (k.channel other).identifier = id
    rcases eq_or_ne id (s.channel ch).identifier with rfl | hne
    · rw [AList.lookup_erase]
      refine iff_of_false (fun heq => by cases heq) fun ht => ?_
      rcases eq_or_ne other ch with rfl | hne
      · rw [hl] at ht
        cases ht.2.1
      · rw [ho other hne] at ht
        rw [(hr.pending _ other).2 ht] at hp
        exact hne (some.inj hp)
    · rw [AList.lookup_erase_ne hne, hr.pending]
      rcases eq_or_ne other ch with rfl | ho'
      · refine iff_of_false (fun ht => hne ht.2.2.symm) fun ht => ?_
        rw [hl] at ht
        cases ht.2.1
      · rw [ho other ho']
  · show (k.channel other).connection = none
    have hne : other ≠ ch := by
      rintro rfl
      exact Bool.false_ne_true (hn.symm.trans hv.1)
    rw [ho other hne]
    exact hr.unknown other hn
  · show (k.channel other).removed = false
    rcases eq_or_ne other ch with rfl | hne
    · rw [hl]
      exact hr.removed other hn
    · rw [ho other hne]
      exact hr.removed other hn
  · rcases eq_or_ne c' c with rfl | hne
    · have hop : (k.connection c').sock := by
        rw [hcs]
        exact hsc
      refine ⟨fun _ => hs.kept (Or.inl hsc), fun _ hcl => ?_, fun other hg hc => ?_, ?_, fun _ => hop,
        fun hst => ?_⟩
      · exact absurd (hcl.symm.trans hop) Bool.false_ne_true
      · have hne : other ≠ ch := by
          rintro rfl
          exact Bool.false_ne_true (hv.2.symm.trans hg)
        have hc : (k.channel other).connection = some c' := hc
        rw [ho other hne] at hc
        exact absurd hc (hs.not_held hsc hg)
      · exact iff_of_true (hs.ring.2 hsc) hop
      · have hst : (k.connection c').terminationTimer := hst
        rw [hcs] at hst
        exact absurd ((hs.not_termination hsc).symm.trans hst) Bool.false_ne_true
    · refine (h.sound c').congr (hct c' hne) (by rw [← hcn]) rfl Iff.rfl (fun other => ?_) fun other hc => ⟨rfl, ?_⟩
      · show (k.channel other).connection = some c' ↔ _
        rcases eq_or_ne other ch with rfl | ho'
        · rw [hl, hf]
          exact iff_of_false (fun heq => hne (some.inj heq).symm) fun heq => by cases heq
        · rw [ho other ho']
      · show (k.channel other).removed = _
        rcases eq_or_ne other ch with rfl | ho'
        · rw [hl]
        · rw [ho other ho']

theorem channelAssociate_kept (h : Kept s) (hs : (s.connection c).sock) (message : Message) :
    Kept (s.channelAssociate c message).1 ∧ ((s.channelAssociate c message).1.connection c).sock := by
  unfold channelAssociate
  dsimp only
  cases hf : s.connectionChannelFind c (idResourceGenerate message.channelId) with
  | some ch => exact ⟨h, hs⟩
  | none =>
    cases hp : s.pendingChannelTable.lookup (idResourceGenerate message.channelId) with
    | none => exact ⟨h, hs⟩
    | some ch =>
      refine ⟨channelMove_kept h hs hf hp, ?_⟩
      exact (congrArg Connection.sock (connectionChannelAdd_connection_self (h := s.toHeap) c ch)).trans hs

theorem messageHandler_kept (h : Kept s) (hs : (s.connection c).sock) (parsed : Parsed) :
    Kept (s.messageHandler A c parsed) ∧ ((s.messageHandler A c parsed).connection c).sock := by
  unfold messageHandler
  cases parsed.message with
  | none => exact ⟨h, hs⟩
  | some message =>
    cases parsed.status with
    | incomplete => exact ⟨h, hs⟩
    | invalid =>
      refine ⟨messageSend_kept h _ _ _, ?_⟩
      unfold ServerAgent.messageSend
      dsimp only
      split_ifs
      · exact hs
      · exact hs
    | complete =>
      obtain ⟨hk, ho⟩ := channelAssociate_kept h hs message
      dsimp only
      generalize s.channelAssociate c message = r at hk ho
      cases r.2 with
      | none => exact ⟨hk, ho⟩
      | some ch =>
        have ht := timers_kept hk (f := ({ · with inactivityTimer := A.inactivityTimeout != 0 }))
          (hk.lt_of_sock ho) ⟨rfl, rfl, rfl⟩ (fun _ => ho) (hk.sound c).termination
        refine ⟨ht.see_one (fun _ => ⟨rfl, rfl⟩) (fun _ heq => by cases heq), ?_⟩
        exact (congrArg Connection.sock (modifyConnection_connection_self (h := r.1.toHeap) c
          ({ · with inactivityTimer := A.inactivityTimeout != 0 }))).trans ho

theorem receive_kept (h : Kept s) (parsed : List Parsed) : Kept (s.receive A c parsed) := by
  unfold ServerAgent.receive
  split_ifs with hs
  · induction parsed generalizing s with
    | nil => exact h
    | cons first parsed ih =>
      obtain ⟨hk, ho⟩ := messageHandler_kept (A := A) h hs first
      exact ih hk ho
  · exact h

theorem Registered.remove (h : Registered s) (hl : s.live ch) (hlg : t.log = s.log ++ [.removed ch true])
    (ho : ∀ other, other ≠ ch → t.channel other = s.channel other)
    (hln : Heap.Linked (fun other => s.live other ∧ other ≠ ch) t.toHeap)
    (hp : ∀ id other, t.pendingChannelTable.lookup id = some other ↔
      s.pendingChannelTable.lookup id = some other ∧ other ≠ ch) : Registered t := by
  obtain ⟨hs, -⟩ := log_append hlg
  have hk : ∀ other, t.known other = s.known other := fun other => (hs other).1.trans (Bool.or_false _)
  have hg : ∀ other, t.gone other = (s.gone other || ch == other) := fun other => (hs other).2
  have hl' : ∀ other, t.live other ↔ s.live other ∧ other ≠ ch := by
    intro other
    unfold live
    rw [hk, hg, Bool.or_eq_false_iff, beq_eq_false_iff_ne, ne_comm, and_assoc]
  refine ⟨hln.live_congr fun other _ => hl' other, fun id other => ?_, fun other hn => ?_, fun other ht => ?_,
    fun other hn => ?_⟩
  · rw [hp, h.pending, hl']
    constructor
    · rintro ⟨⟨h1, h2, h3⟩, hne⟩
      rw [ho other hne]
      exact ⟨⟨h1, hne⟩, h2, h3⟩
    · rintro ⟨⟨h1, hne⟩, h2, h3⟩
      rw [ho other hne] at h2 h3
      exact ⟨⟨h1, h2, h3⟩, hne⟩
  · rw [hk] at hn
    have hne : other ≠ ch := by
      rintro rfl
      exact Bool.false_ne_true (hn.symm.trans hl.1)
    rw [ho other hne]
    exact h.unknown other hn
  · rw [hk]
    rw [hg, Bool.or_eq_true, beq_iff_eq] at ht
    rcases ht with ht | rfl
    · exact h.known other ht
    · exact hl.1
  · rw [hg, Bool.or_eq_false_iff, beq_eq_false_iff_ne] at hn
    rw [ho other hn.2.symm]
    exact h.removed other hn.1

theorem pendingRemove_kept (h : Kept s) (hl : s.live ch) (hn : (s.channel ch).connection = none) :
    Kept { s with
      pendingChannelTable := s.pendingChannelTable.erase (s.channel ch).identifier
      log := s.log ++ [.removed ch true] } := by
  have hr := h.registered
  have ht := (hr.pending _ ch).2 ⟨hl, hn, rfl⟩
  refine ⟨hr.remove hl rfl (fun _ _ => rfl) ?_ fun id other => ?_, fun c => ?_, h.nodup⟩
  · refine hr.linked.live_congr fun other ha => and_iff_left ?_
    rintro rfl
    exact ha hn
  · rcases eq_or_ne id (s.channel ch).identifier with rfl | hne
    · rw [AList.lookup_erase, ht]
      refine iff_of_false (fun heq => by cases heq) fun hs => hs.2 ?_
      exact (some.inj hs.1).symm
    · rw [AList.lookup_erase_ne hne]
      refine (and_iff_left_of_imp fun hs => ?_).symm
      rintro rfl
      exact hne ((hr.pending id other).1 hs).2.2.symm
  · refine (h.sound c).congr rfl Iff.rfl ((log_append rfl).2 c fun heq => by cases heq) Iff.rfl (fun _ => Iff.rfl)
      fun other hc => ⟨?_, rfl⟩
    refine (((log_append rfl).1 other).2).trans ?_
    have hne : ch ≠ other := by
      rintro rfl
      rw [hn] at hc
      cases hc
    rw [show ServerEvent.removes other (.removed ch true) = (ch == other) from rfl, beq_eq_false_iff_ne.2 hne,
      Bool.or_false]

theorem assignedRemove_sound (h : Kept s) (hv : s.live ch) (hc : (s.channel ch).connection = some c)
    (hg : t.log = s.log ++ [.removed ch true])
    (ho : ∀ other, other ≠ ch → t.channel other = s.channel other)
    (hln : Heap.Linked (fun other => s.live other ∧ other ≠ ch) t.toHeap)
    (hli : t.connectionList = s.connectionList) (hcn : t.connectionCount = s.connectionCount)
    (hsc : (t.connection c).sock = (s.connection c).sock)
    (hi : (t.connection c).inactivityTimer = (s.connection c).inactivityTimer)
    (hls : (t.connection c).accessCount = 0 ∧ (s.connection c).sock = false →
      t.channel ch = { s.channel ch with connection := some c, removed := true } ∧
        (t.connection c).terminationTimer = false)
    (hm : ¬ ((t.connection c).accessCount = 0 ∧ (s.connection c).sock = false) →
      t.channel ch = { s.channel ch with connection := none } ∧
        (t.connection c).terminationTimer = (s.connection c).terminationTimer) : Sound t c := by
  have hr := h.registered
  have hs := h.sound c
  have hz : t.destructions c = 0 :=
    ((log_append hg).2 c fun heq => by cases heq).trans (hs.kept (Or.inr (Or.inl ⟨ch, hc⟩)))
  have hn : ∀ other, t.gone other = (s.gone other || ch == other) := fun other => ((log_append hg).1 other).2
  -- No removed channel refers to a connection that has a channel.
  have hh : ∀ other, s.gone other → (s.channel other).connection ≠ some c := by
    intro other ht ho'
    exact hr.linked.none_of_count (hs.held other ht ho').2.1 hv hc
  refine ⟨fun _ => hz, fun _ hl hnn => ?_, fun other ht ho' => ?_, ?_, ?_, fun hst => ?_⟩
  · rw [hsc] at hl
    by_cases ha : (t.connection c).accessCount = 0
    · have hsl := hls ⟨ha, hl⟩
      exact absurd (congrArg ControlChannel.connection hsl.1) (hnn ch)
    · obtain ⟨other, -, ho'⟩ := hln.exists_of_count ha
      exact absurd ho' (hnn other)
  · by_cases hcs : (t.connection c).accessCount = 0 ∧ (s.connection c).sock = false
    · have hsl := (hls hcs).1
      -- The channel that was removed is the only one that refers to the connection.
      have hon : ∀ key, (t.channel key).connection = some c → key = ch := by
        intro key hk
        by_contra hne
        have hb : (s.channel key).connection = some c := ho key hne ▸ hk
        rcases hr.live_or_gone hb with hv' | hn'
        · exact hln.none_of_count hcs.1 ⟨hv', hne⟩ hk
        · exact hh key hn' hb
      obtain rfl := hon other ho'
      refine ⟨hsc.trans hcs.2, hcs.1, congrArg ControlChannel.removed hsl, ?_, hon⟩
      rw [hcn]
      exact hr.linked.lt hv hc
    · have hsl := congrArg ControlChannel.connection (hm hcs).1
      have hne : other ≠ ch := by
        rintro rfl
        exact absurd (hsl.symm.trans ho') (some_ne_none c).symm
      rw [ho other hne] at ho'
      rw [hn, Bool.or_eq_true, beq_iff_eq] at ht
      exact absurd ho' (hh other (ht.resolve_right fun heq => hne heq.symm))
  · rw [hli, hsc]
    exact hs.ring
  · rw [hi, hsc]
    exact hs.inactivity
  · by_cases hcs : (t.connection c).accessCount = 0 ∧ (s.connection c).sock = false
    · exact absurd ((hls hcs).2.symm.trans hst) Bool.false_ne_true
    · have hl := (hs.termination ((hm hcs).2 ▸ hst)).1
      exact ⟨hsc.trans hl, fun ha => hcs ⟨ha, hl⟩⟩

theorem assignedRemove_kept (h : Kept s) (hv : s.live ch) (hc : (s.channel ch).connection = some c)
    (hl : t.log = s.log ++ [.removed ch true])
    (ho : ∀ other, other ≠ ch → t.channel other = s.channel other)
    (ht : ∀ c', c' ≠ c → t.connection c' = s.connection c')
    (hln : Heap.Linked (fun other => s.live other ∧ other ≠ ch) t.toHeap)
    (hp : t.pendingChannelTable = s.pendingChannelTable) (hs : t.connectionList = s.connectionList)
    (hn : t.connectionCount = s.connectionCount)
    (ha : ∀ c', (t.channel ch).connection = some c' → c' = c) (hsn : Sound t c) : Kept t := by
  refine ⟨h.registered.remove hv hl ho hln fun id other => ?_, fun c' => ?_, hs ▸ h.nodup⟩
  · rw [hp]
    refine (and_iff_left_of_imp fun hm => ?_).symm
    rintro rfl
    rw [((h.registered.pending id other).1 hm).2.1] at hc
    cases hc
  · rcases eq_or_ne c' c with rfl | hne
    · exact hsn
    · refine (h.sound c').congr (ht c' hne) (by rw [hn]) ((log_append hl).2 c' fun heq => by cases heq)
        (by rw [hs]) (fun other => ?_) fun other ha' => ?_
      · rcases eq_or_ne other ch with rfl | hne'
        · rw [hc]
          exact iff_of_false (fun heq => hne (ha c' heq)) fun heq => hne (some.inj heq).symm
        · rw [ho other hne']
      · have hne' : ch ≠ other := by
          rintro rfl
          exact hne (some.inj (ha'.symm.trans hc))
        refine ⟨((log_append hl).1 other).2.trans ?_, congrArg ControlChannel.removed (ho other hne'.symm)⟩
        rw [show ServerEvent.removes other (.removed ch true) = (ch == other) from rfl, beq_eq_false_iff_ne.2 hne',
          Bool.or_false]

/-- **A channel is removed.** -/
theorem channelRemove_kept (h : Kept s) (hl : s.live ch) : Kept (s.channelRemove ch) := by
  unfold channelRemove
  cases hc : (s.channel ch).connection with
  | none => exact pendingRemove_kept h hl hc
  | some c =>
    have hr := h.registered
    have hm := hr.linked.channelRemove hl hc
    have hs := connectionChannelRemove_channel_self (h := s.toHeap) c ch
    have ho := fun other (hne : other ≠ ch) =>
      connectionChannelRemove_channel_ne (h := s.toHeap) c hne
    have hcs := connectionChannelRemove_connection_self (h := s.toHeap) c ch
    have hct := fun c' (hne : c' ≠ c) => connectionChannelRemove_connection_ne (h := s.toHeap) ch hne
    have hn : (s.toHeap.connectionChannelRemove c ch).connectionCount = s.connectionCount := rfl
    have hln : Heap.Linked (fun other => s.live other ∧ other ≠ ch) (s.toHeap.connectionChannelRemove c ch) := by
      refine hm.live_congr fun other ha => and_iff_left ?_
      rintro rfl
      rw [hs] at ha
      exact ha rfl
    dsimp only
    generalize s.toHeap.connectionChannelRemove c ch = k at hs ho hcs hct hn hln
    have hsc : (k.connection c).sock = (s.connection c).sock := by
      rw [hcs]
    split_ifs with hca
    · -- The connection is kept for the channel, and its termination timer is killed.
      let f : ControlChannel → ControlChannel := ({ · with connection := some c, removed := true })
      let g : Connection → Connection := ({ · with terminationTimer := false })
      have hts : ((k.modifyChannel ch f).modifyConnection c g).channel ch =
          { s.channel ch with connection := some c, removed := true } := by
        refine (modifyChannel_channel_self ch f).trans ?_
        rw [hs]
      have htt : ∀ other, other ≠ ch →
          ((k.modifyChannel ch f).modifyConnection c g).channel other = s.channel other := fun other hne =>
        (modifyChannel_channel_ne f hne).trans (ho other hne)
      have ht : ((k.modifyChannel ch f).modifyConnection c g).connection c =
          { k.connection c with terminationTimer := false } := modifyConnection_connection_self c g
      have htct : ∀ c', c' ≠ c → ((k.modifyChannel ch f).modifyConnection c g).connection c' = s.connection c' :=
        fun c' hne => (modifyConnection_connection_ne g hne).trans (hct c' hne)
      have htl := (hln.modifyChannel (fun hl' => hl'.2 rfl) f).modifyConnection (f := g)
        (hn ▸ hr.linked.lt hl hc) rfl rfl
      have htc : ((k.modifyChannel ch f).modifyConnection c g).connectionCount = s.connectionCount := hn
      show Kept (see ⟨(k.modifyChannel ch f).modifyConnection c g, s.pendingChannelTable, s.connectionList,
        s.log⟩ (.removed ch true))
      generalize (k.modifyChannel ch f).modifyConnection c g = k' at hts htt ht htct htl htc
      refine assignedRemove_kept h hl hc rfl htt htct htl rfl rfl htc (fun c' hc' => ?_)
        (assignedRemove_sound h hl hc rfl htt htl rfl htc ?_ ?_ (fun _ => ⟨hts, ?_⟩) fun hnt => ?_)
      · exact (some.inj ((congrArg ControlChannel.connection hts).symm.trans hc')).symm
      · exact (congrArg Connection.sock ht).trans hsc
      · refine (congrArg Connection.inactivityTimer ht).trans ?_
        rw [hcs]
      · exact congrArg Connection.terminationTimer ht
      · refine absurd ⟨?_, ?_⟩ hnt
        · exact (congrArg Connection.accessCount ht).trans hca.1
        · exact hsc.symm.trans hca.2
    · show Kept (see ⟨k, s.pendingChannelTable, s.connectionList, s.log⟩ (.removed ch true))
      refine assignedRemove_kept h hl hc rfl ho hct hln rfl rfl hn (fun c' hc' => ?_)
        (assignedRemove_sound h hl hc rfl ho hln rfl hn hsc ?_ (fun hls => ?_) fun _ => ⟨hs, ?_⟩)
      · exact absurd ((congrArg ControlChannel.connection hs).symm.trans hc') (some_ne_none c').symm
      · exact (congrArg Connection.inactivityTimer hcs).trans rfl
      · exact absurd ⟨hls.1, hsc.trans hls.2⟩ hca
      · exact (congrArg Connection.terminationTimer hcs).trans rfl

theorem channelDestroy_kept (h : Kept s) (hg : s.gone ch) : Kept (s.channelDestroy ch) := by
  unfold channelDestroy
  cases hc : (s.channel ch).connection with
  | none => exact h
  | some c =>
    split_ifs
    · obtain ⟨hsc, hac, -, hlt, hn⟩ := (h.sound c).held ch hg hc
      have hs := h.sound c
      have hl := modifyChannel_channel_self (h := s.toHeap) ch ({ · with connection := none })
      have ho := fun other (hne : other ≠ ch) =>
        modifyChannel_channel_ne (h := s.toHeap) ({ · with connection := none }) hne
      have hh : (connectionDestroy (s.modifyChannel ch ({ · with connection := none })) c).connection c =
          { s.connection c with destroyed := true } := connectionDestroy_self c
      refine h.change c [.destroyed c] (fun other => ?_) (fun other hne => connectionDestroy_ne hne) (hh ▸ ⟨rfl, rfl⟩)
        (fun _ _ => Iff.rfl) hlt rfl rfl (quiet_destroyed c) (fun _ _ => Iff.rfl) h.nodup
        (.ofDestroyed (hs.kept (Or.inr (Or.inl ⟨ch, hc⟩))) rfl hlt (fun other ha => ?_) (hh ▸ hsc) ?_ ?_ ?_)
      · rcases eq_or_ne other ch with rfl | hne
        · exact Or.inr ⟨hg, hc, hl⟩
        · exact Or.inl (ho other hne)
      · rcases eq_or_ne other ch with rfl | hne
        · exact absurd ((congrArg ControlChannel.connection hl).symm.trans ha) (some_ne_none c).symm
        · exact hne (hn other ((congrArg ControlChannel.connection (ho other hne)).symm.trans ha))
      · exact fun hm => Bool.false_ne_true (hsc.symm.trans (hs.ring.1 hm))
      · rw [hh]
        exact Bool.eq_false_iff.2 fun ht => Bool.false_ne_true (hsc.symm.trans (hs.inactivity ht))
      · rw [hh]
        exact Bool.eq_false_iff.2 fun ht => (hs.termination ht).2 hac
    · exact h

/-! ## Runs -/

theorem step_kept (h : Kept s) {input : ServerInput} (he : s.enabled input)
    (ho : s.orderly input) : Kept (s.step A input).1 := by
  cases input with
  | add ch offer =>
    simp only [orderly, Bool.and_eq_true, Bool.not_eq_true', isNone_iff_eq_none] at ho
    exact channelAdd_kept h ho.1 ho.2
  | modify ch offer => exact channelModify_kept h offer
  | remove ch =>
    simp only [orderly, Bool.and_eq_true, Bool.not_eq_true'] at ho
    exact channelRemove_kept h ho
  | destroy ch => exact channelDestroy_kept h ho
  | send ch message chunks => exact messageSend_kept h _ message chunks
  | accept remoteIp polled => exact connectionAccept_kept h remoteIp polled
  | receive c parsed => exact receive_kept h parsed
  | disconnect c => exact disconnect_kept h
  | inactivity c order =>
    rw [enabled, Bool.and_eq_true] at he
    exact inactivityTimerProc_kept h he.1 order
  | termination c order =>
    rw [enabled, Bool.and_eq_true] at he
    exact terminationTimerProc_kept h he.1 order

/-- **The tables are right.** They have the channels that were added and not removed; a connection counts its channels,
and is destroyed once, when its socket is closed and no channel refers to it. -/
structure Tabled (s : ServerAgent) : Prop where
  placed : ∀ ch, s.live ch →
    (s.channel ch).connection = none ∧ s.pendingChannelTable.lookup (s.channel ch).identifier = some ch ∨
      ∃ c, (s.channel ch).connection = some c ∧ s.connectionChannelFind c (s.channel ch).identifier = some ch
  pending : ∀ id ch, s.pendingChannelTable.lookup id = some ch →
    s.live ch ∧ (s.channel ch).connection = none ∧ (s.channel ch).identifier = id
  table : ∀ c id ch, s.connectionChannelFind c id = some ch →
    s.live ch ∧ (s.channel ch).connection = some c ∧ (s.channel ch).identifier = id
  count : ∀ c, (s.connection c).accessCount = (s.channelsOf c).length ∧ (s.channelsOf c).Nodup
  destroyed : ∀ c, c < s.connectionCount →
    (s.destructions c = 1 ∧ (s.connection c).sock = false ∧ ∀ ch, (s.channel ch).connection ≠ some c) ∨
      s.destructions c = 0 ∧ ((s.connection c).sock ∨ ∃ ch, (s.channel ch).connection = some c)
  timers : ∀ c, (s.connection c).inactivityTimer ∨ (s.connection c).terminationTimer →
    s.destructions c = 0

theorem Kept.tabled (h : Kept s) : Tabled s := by
  have hr := h.registered
  refine ⟨fun ch hl => ?_, fun id ch => (hr.pending id ch).1, fun c id ch => (hr.linked.lookup c id ch).1,
    fun c => ⟨?_, hr.linked.nodup_channelsOf c⟩, fun c hlt => ?_, fun c hm => ?_⟩
  · cases hc : (s.channel ch).connection with
    | none => exact Or.inl ⟨rfl, (hr.pending _ ch).2 ⟨hl, hc, rfl⟩⟩
    | some c => exact Or.inr ⟨c, rfl, (hr.linked.lookup c _ ch).2 ⟨hl, hc, rfl⟩⟩
  · rw [hr.linked.count c]
    exact (length_map _).symm
  · have hs := h.sound c
    by_cases ht : (s.connection c).sock ∨ ∃ ch, (s.channel ch).connection = some c
    · exact Or.inr ⟨hs.kept (ht.imp_right Or.inl), ht⟩
    · rw [not_or, Bool.not_eq_true, not_exists] at ht
      exact Or.inl ⟨hs.destroyed hlt ht.1 ht.2, ht⟩
  · have hs := h.sound c
    rcases hm with hm | hm
    · exact hs.kept (Or.inl (hs.inactivity hm))
    · obtain ⟨ch, -, hc⟩ := hr.linked.exists_of_count (hs.termination hm).2
      exact hs.kept (Or.inr (Or.inl ⟨ch, hc⟩))

theorem kept_init : Kept {} := by
  have hl : ∀ ch, ¬ live {} ch := fun _ h => Bool.false_ne_true h.1
  refine ⟨⟨⟨fun c id ch => ?_, fun _ => rfl, fun _ _ => rfl⟩, fun id ch => ?_, fun _ _ => rfl, fun _ h => ?_, fun _ _ => rfl⟩,
    fun c => ⟨fun _ => rfl, fun h => ?_, fun _ h => ?_, ?_, fun h => ?_, fun h => ?_⟩, nodup_nil⟩
  · exact iff_of_false (fun h => by cases h) fun h => hl ch h.1
  · exact iff_of_false (fun h => by cases h) fun h => hl ch h.1
  · cases h
  · cases h
  · cases h
  · exact iff_of_false not_mem_nil Bool.false_ne_true
  · cases h
  · cases h

/-- **The tables are right**, in every run of the agent whose steps can happen and meet the condition. -/
theorem serverAgent_tabled (A : ServerProfile) (inputs : List ServerInput)
    (h : EachStep (ServerAgent.step A) (fun s input => s.enabled input = true ∧ s.orderly input) {} inputs) :
    Tabled (run (ServerAgent.step A) {} inputs).1 :=
  (run_invariant Kept _ (fun _ _ hs hok => step_kept hs hok.1 hok.2) {} inputs kept_init h).tabled

def serverProfile : ServerProfile where
  port := 1544
  inactivityTimeout := 600000
  terminationTimeout := 3000

def serverOffer (resourceName : Bytes) : ControlDescriptor :=
  { ip := [49], port := 9, connectionType := .new, sessionId := [97], resourceName }

def serverRequest (resourceName : Bytes) : Parsed :=
  { status := .complete, message := some { messageType := .request, requestId := 1, channelId := ⟨[97], resourceName⟩ } }

/-- A connection is accepted while two channels are pending, and rejected before. The peer disconnects, the termination
timer fires, and the channels are removed and destroyed. -/
def serverInputs : List ServerInput :=
  [.accept (some [49]) true, .add 0 (serverOffer [83]), .add 1 (serverOffer [82]), .accept (some [49]) true,
    .receive 1 [serverRequest [83]], .disconnect 1, .termination 1 [0], .remove 0, .remove 1, .destroy 0, .destroy 1]

theorem serverAgent_tabled_sample : Tabled (run (ServerAgent.step serverProfile) {} serverInputs).1 :=
  serverAgent_tabled serverProfile serverInputs (by decide +kernel)

/-- Two channels of a session are added with the same resource: the first one is no longer in any table. -/
theorem not_tabled_twice :
    let inputs : List ServerInput := [.add 0 (serverOffer [83]), .add 1 (serverOffer [83])]
    EachStep (ServerAgent.step serverProfile) (fun s input => s.enabled input = true) {} inputs ∧
      ¬ Tabled (run (ServerAgent.step serverProfile) {} inputs).1 := by
  refine ⟨by decide +kernel, fun h => ?_⟩
  obtain ⟨-, hthere⟩ | ⟨c, hc, -⟩ := h.placed 0 ⟨by decide +kernel, by decide +kernel⟩
  · exact absurd hthere (by decide +kernel)
  · cases hc

end UniMrcp.MrcpV2Transport
