import Mathlib.Data.List.AList
import UniMrcp.Mrcp.Message
import UniMrcp.MrcpServer.Descriptor

/-!
# Connections of version 2

What the connection agents of the client and of the server share: control channels, the connections that they are
assigned to, and the table of channels that each connection has.
-/

namespace UniMrcp.MrcpV2Transport

open Apt Mrcp List Function Option

/-! ## Channels and connections -/

/-- `mrcp_message_t`, as far as the agents read it. -/
structure Message where
  messageType : MessageType
  requestId : Nat
  channelId : ChannelId
  statusCode : Nat := 0
deriving DecidableEq

def statusCodeSuccess : Nat := 200

def statusCodeMethodFailed : Nat := 407

def responseCreate (request : Message) : Message :=
  { request with messageType := .response, statusCode := statusCodeSuccess }

/-- `apt_id_resource_generate`, with the separator `@`. -/
def idResourceGenerate (channelId : ChannelId) : Bytes := channelId.sessionId ++ 0x40 :: channelId.resourceName

/-- One chunk of a message: the result of the generator, and whether the socket has sent it. -/
abbrev Chunk := MessageStatus × Bool

def transmitted (chunks : List Chunk) : Bool := chunks.any fun chunk => chunk.1 != .invalid && chunk.2

structure ControlChannel where
  connection : Option Nat := none
  activeRequest : Option Message := none
  requestTimer : Bool := false
  removed : Bool := false
  identifier : Bytes := []
deriving DecidableEq

abbrev ChannelTable := AList fun _ : Bytes => Nat

structure Connection where
  remoteIp : Bytes := []
  remotePort : Nat := 0
  sock : Bool := false
  accessCount : Nat := 0
  useCount : Nat := 0
  channelTable : ChannelTable := ∅
  inactivityTimer : Bool := false
  terminationTimer : Bool := false
  /-- The messages that the receive buffer still holds from its start. -/
  received : List Message := []
  destroyed : Bool := false

structure Heap where
  channel : Nat → ControlChannel := fun _ => {}
  connection : Nat → Connection := fun _ => {}
  connectionCount : Nat := 0

namespace Heap

variable {h : Heap}

def modifyChannel (h : Heap) (ch : Nat) (f : ControlChannel → ControlChannel) : Heap :=
  { h with channel := Function.update h.channel ch (f (h.channel ch)) }

def modifyConnection (h : Heap) (c : Nat) (f : Connection → Connection) : Heap :=
  { h with connection := Function.update h.connection c (f (h.connection c)) }

def connectionPush (h : Heap) (connection : Connection) : Heap :=
  { h with
    connection := Function.update h.connection h.connectionCount connection
    connectionCount := h.connectionCount + 1 }

def connectionChannelAdd (h : Heap) (c ch : Nat) : Heap :=
  (h.modifyConnection c fun connection =>
    { connection with
      channelTable := connection.channelTable.insert (h.channel ch).identifier ch
      accessCount := connection.accessCount + 1
      useCount := connection.useCount + 1 }).modifyChannel ch ({ · with connection := some c })

def connectionChannelFind (h : Heap) (c : Nat) (identifier : Bytes) : Option Nat :=
  (h.connection c).channelTable.lookup identifier

/-- `mrcp_connection_channel_remove`, where the count of accesses wraps around. -/
def connectionChannelRemove (h : Heap) (c ch : Nat) : Heap :=
  (h.modifyConnection c fun connection =>
    { connection with
      channelTable := connection.channelTable.erase (h.channel ch).identifier
      accessCount := sizeSub connection.accessCount 1 }).modifyChannel ch ({ · with connection := none })

def channelsOf (h : Heap) (c : Nat) : List Nat := (h.connection c).channelTable.entries.map Sigma.snd

@[simp] theorem modifyChannel_connection (ch : Nat) (f : ControlChannel → ControlChannel) :
    (h.modifyChannel ch f).connection = h.connection := rfl

@[simp] theorem modifyConnection_channel (c : Nat) (f : Connection → Connection) :
    (h.modifyConnection c f).channel = h.channel := rfl

@[simp] theorem modifyChannel_channel_self (ch : Nat) (f : ControlChannel → ControlChannel) :
    (h.modifyChannel ch f).channel ch = f (h.channel ch) := update_self ..

@[simp] theorem modifyConnection_connection_self (c : Nat) (f : Connection → Connection) :
    (h.modifyConnection c f).connection c = f (h.connection c) := update_self ..

variable {ch other : Nat}

theorem modifyChannel_channel_ne (f : ControlChannel → ControlChannel) (hne : other ≠ ch) :
    (h.modifyChannel ch f).channel other = h.channel other := update_of_ne hne ..

variable {c : Nat}

theorem modifyConnection_connection_ne (f : Connection → Connection) (hne : other ≠ c) :
    (h.modifyConnection c f).connection other = h.connection other := update_of_ne hne ..

theorem modifyConnection_modifyConnection (c : Nat) (f g : Connection → Connection) :
    (h.modifyConnection c f).modifyConnection c g = h.modifyConnection c (g ∘ f) := by
  simp [modifyConnection]

theorem modifyChannel_same {f : ControlChannel → ControlChannel} (hf : f (h.channel ch) = h.channel ch) :
    h.modifyChannel ch f = h := by
  unfold modifyChannel
  rw [hf, update_eq_self]

theorem modifyConnection_same {f : Connection → Connection} (hf : f (h.connection c) = h.connection c) :
    h.modifyConnection c f = h := by
  unfold modifyConnection
  rw [hf, update_eq_self]

theorem channel_modifyChannel (ch other : Nat) (f : ControlChannel → ControlChannel) :
    (h.modifyChannel ch f).channel other = if other = ch then f (h.channel ch) else h.channel other :=
  update_apply ..

theorem channel_keeps {α : Type*} (g : ControlChannel → α) {f : ControlChannel → ControlChannel}
    (hg : g (f (h.channel ch)) = g (h.channel ch)) (other : Nat) :
    g ((h.modifyChannel ch f).channel other) = g (h.channel other) := by
  rcases eq_or_ne other ch with rfl | hne
  · rw [modifyChannel_channel_self, hg]
  · rw [modifyChannel_channel_ne f hne]

theorem connection_keeps {α : Type*} (g : Connection → α) {f : Connection → Connection}
    (hg : g (f (h.connection c)) = g (h.connection c)) (other : Nat) :
    g ((h.modifyConnection c f).connection other) = g (h.connection other) := by
  rcases eq_or_ne other c with rfl | hne
  · rw [modifyConnection_connection_self, hg]
  · rw [modifyConnection_connection_ne f hne]

theorem connectionChannelAdd_channel_ne (c : Nat) (hne : other ≠ ch) :
    (h.connectionChannelAdd c ch).channel other = h.channel other := modifyChannel_channel_ne _ hne

theorem connectionChannelAdd_connection_ne (ch : Nat) (hne : other ≠ c) :
    (h.connectionChannelAdd c ch).connection other = h.connection other := by
  unfold connectionChannelAdd
  rw [modifyChannel_connection, modifyConnection_connection_ne _ hne]

theorem connectionChannelRemove_channel_ne (c : Nat) (hne : other ≠ ch) :
    (h.connectionChannelRemove c ch).channel other = h.channel other := modifyChannel_channel_ne _ hne

theorem connectionChannelRemove_connection_ne (ch : Nat) (hne : other ≠ c) :
    (h.connectionChannelRemove c ch).connection other = h.connection other := by
  unfold connectionChannelRemove
  rw [modifyChannel_connection, modifyConnection_connection_ne _ hne]

@[simp] theorem connectionChannelAdd_channel_self (c ch : Nat) :
    (h.connectionChannelAdd c ch).channel ch = { h.channel ch with connection := some c } :=
  modifyChannel_channel_self ..

@[simp] theorem connectionChannelRemove_channel_self (c ch : Nat) :
    (h.connectionChannelRemove c ch).channel ch = { h.channel ch with connection := none } :=
  modifyChannel_channel_self ..

@[simp] theorem connectionChannelAdd_connection_self (c ch : Nat) :
    (h.connectionChannelAdd c ch).connection c =
      { h.connection c with
        channelTable := (h.connection c).channelTable.insert (h.channel ch).identifier ch
        accessCount := (h.connection c).accessCount + 1
        useCount := (h.connection c).useCount + 1 } := by
  unfold connectionChannelAdd
  rw [modifyChannel_connection, modifyConnection_connection_self]

@[simp] theorem connectionChannelRemove_connection_self (c ch : Nat) :
    (h.connectionChannelRemove c ch).connection c =
      { h.connection c with
        channelTable := (h.connection c).channelTable.erase (h.channel ch).identifier
        accessCount := sizeSub (h.connection c).accessCount 1 } := by
  unfold connectionChannelRemove
  rw [modifyChannel_connection, modifyConnection_connection_self]

/-! ## Tables and channels -/

/-- **The tables agree with the channels** that are `live`: a connection has a channel under its identifier just when it
is assigned to it; it counts them; and what was not created is not there. -/
structure Linked (live : Nat → Prop) (h : Heap) : Prop where
  lookup : ∀ c id ch, (h.connection c).channelTable.lookup id = some ch ↔
    live ch ∧ (h.channel ch).connection = some c ∧ (h.channel ch).identifier = id
  count : ∀ c, (h.connection c).accessCount = (h.connection c).channelTable.entries.length
  fresh : ∀ c, h.connectionCount ≤ c → h.connection c = {}

variable {live : Nat → Prop}

theorem Linked.lt (hl : Linked live h) (hv : live ch) (hc : (h.channel ch).connection = some c) :
    c < h.connectionCount := by
  by_contra hle
  have hk := (hl.lookup c _ ch).2 ⟨hv, hc, rfl⟩
  rw [hl.fresh c (Nat.le_of_not_lt hle)] at hk
  cases hk

theorem Linked.mem_channelsOf (hl : Linked live h) :
    ch ∈ h.channelsOf c ↔ live ch ∧ (h.channel ch).connection = some c := by
  constructor
  · intro hm
    obtain ⟨⟨id, _⟩, he, rfl⟩ := mem_map.1 hm
    obtain ⟨hv, hc, -⟩ := (hl.lookup c id _).1 (AList.mem_lookup_iff.2 he)
    exact ⟨hv, hc⟩
  · rintro ⟨hv, hc⟩
    exact mem_map.2 ⟨_, AList.mem_lookup_iff.1 ((hl.lookup c _ ch).2 ⟨hv, hc, rfl⟩), rfl⟩

theorem Linked.nodup_channelsOf (hl : Linked live h) (c : Nat) : (h.channelsOf c).Nodup := by
  have hk := (h.connection c).channelTable.nodupKeys
  refine List.Nodup.map_on (fun x hx y hy heq => ?_) hk.nodup
  obtain ⟨id, ch⟩ := x
  obtain ⟨id', ch'⟩ := y
  obtain rfl : ch = ch' := heq
  obtain ⟨-, -, hid⟩ := (hl.lookup c id ch).1 (AList.mem_lookup_iff.2 hx)
  obtain ⟨-, -, hid'⟩ := (hl.lookup c id' ch).1 (AList.mem_lookup_iff.2 hy)
  rw [← hid, hid']

theorem Linked.none_of_count (hl : Linked live h) (hn : (h.connection c).accessCount = 0) (hv : live ch) :
    (h.channel ch).connection ≠ some c := by
  intro hc
  have hm := hl.mem_channelsOf.2 ⟨hv, hc⟩
  have hnl : (h.connection c).channelTable.entries = [] := length_eq_zero_iff.1 ((hl.count c).symm.trans hn)
  simp [channelsOf, hnl] at hm

theorem Linked.exists_of_count (hl : Linked live h) (hc : (h.connection c).accessCount ≠ 0) :
    ∃ ch, live ch ∧ (h.channel ch).connection = some c := by
  have hne : h.channelsOf c ≠ [] := by
    intro hn
    have hz := congrArg List.length hn
    simp only [channelsOf, length_map, length_nil] at hz
    exact hc ((hl.count c).trans hz)
  obtain ⟨ch, hm⟩ := exists_mem_of_ne_nil _ hne
  exact ⟨ch, hl.mem_channelsOf.1 hm⟩

theorem Linked.congr {h' : Heap} (hl : Linked live h)
    (hh : ∀ ch, live ch → (h'.channel ch).connection = (h.channel ch).connection ∧
      ((h.channel ch).connection ≠ none → (h'.channel ch).identifier = (h.channel ch).identifier))
    (hn : ∀ c, (h'.connection c).channelTable = (h.connection c).channelTable ∧
      (h'.connection c).accessCount = (h.connection c).accessCount)
    (hf : ∀ c, h'.connectionCount ≤ c → h'.connection c = {}) : Linked live h' := by
  refine ⟨fun c id ch => ?_, fun c => ?_, hf⟩
  · rw [(hn c).1, hl.lookup c id ch]
    refine and_congr_right fun hv => ?_
    rw [(hh ch hv).1]
    refine and_congr_right fun hc => ?_
    rw [(hh ch hv).2 (by rw [hc]; exact some_ne_none c)]
  · rw [(hn c).1, (hn c).2]
    exact hl.count c

theorem Linked.modifyConnection (hl : Linked live h) {f : Connection → Connection} (hc : c < h.connectionCount)
    (ht : (f (h.connection c)).channelTable = (h.connection c).channelTable)
    (ha : (f (h.connection c)).accessCount = (h.connection c).accessCount) : Linked live (h.modifyConnection c f) := by
  refine hl.congr (fun _ _ => ⟨rfl, fun _ => rfl⟩) (fun other => ?_) fun other hle => ?_
  · exact ⟨connection_keeps (·.channelTable) ht other, connection_keeps (·.accessCount) ha other⟩
  · exact (modifyConnection_connection_ne f (Nat.ne_of_gt (Nat.lt_of_lt_of_le hc hle))).trans (hl.fresh other hle)

theorem Linked.modifyChannel (hl : Linked live h) (hc : ¬live ch) (f : ControlChannel → ControlChannel) :
    Linked live (h.modifyChannel ch f) := by
  refine hl.congr (fun other hv => ?_) (fun _ => ⟨rfl, rfl⟩) hl.fresh
  have hne : other ≠ ch := by
    rintro rfl
    exact hc hv
  rw [modifyChannel_channel_ne f hne]
  exact ⟨rfl, fun _ => rfl⟩

theorem Linked.live_congr {live' : Nat → Prop} (hl : Linked live h)
    (hv : ∀ ch, (h.channel ch).connection ≠ none → (live' ch ↔ live ch)) : Linked live' h := by
  refine ⟨fun c id ch => ?_, hl.count, hl.fresh⟩
  rw [hl.lookup c id ch]
  constructor
  · rintro ⟨h1, h2, h3⟩
    exact ⟨(hv ch (by rw [h2]; exact some_ne_none c)).2 h1, h2, h3⟩
  · rintro ⟨h1, h2, h3⟩
    exact ⟨(hv ch (by rw [h2]; exact some_ne_none c)).1 h1, h2, h3⟩

theorem Linked.connectionPush (hl : Linked live h) {connection : Connection} (ht : connection.channelTable = ∅)
    (hc : connection.accessCount = 0) : Linked live (h.connectionPush connection) := by
  have hs : (h.connectionPush connection).connection h.connectionCount = connection := update_self ..
  have ho : ∀ c, c ≠ h.connectionCount → (h.connectionPush connection).connection c = h.connection c :=
    fun c hne => update_of_ne hne ..
  refine hl.congr (fun _ _ => ⟨rfl, fun _ => rfl⟩) (fun c => ?_) fun c hle => ?_
  · rcases eq_or_ne c h.connectionCount with rfl | hne
    · rw [hs, hl.fresh _ (Nat.le_refl _), ht, hc]
      exact ⟨rfl, rfl⟩
    · rw [ho c hne]
      exact ⟨rfl, rfl⟩
  · have hle : h.connectionCount + 1 ≤ c := hle
    rw [ho c (by omega)]
    exact hl.fresh c (by omega)

theorem Linked.channelAdd (hl : Linked live h) (hv : live ch) (hnn : (h.channel ch).connection = none)
    (hc : c < h.connectionCount) (hn : (h.connection c).channelTable.lookup (h.channel ch).identifier = none) :
    Linked live (h.connectionChannelAdd c ch) := by
  have hnt : (h.channel ch).identifier ∉ (h.connection c).channelTable := AList.lookup_eq_none.1 hn
  refine ⟨fun c' id ch' => ?_, fun c' => ?_, fun c' hle => ?_⟩
  · have ho : ch' ≠ ch → (h.connectionChannelAdd c ch).channel ch' = h.channel ch' :=
      connectionChannelAdd_channel_ne c
    rcases eq_or_ne c' c with rfl | hcc
    · have hb : ((h.connectionChannelAdd c' ch).connection c').channelTable =
          (h.connection c').channelTable.insert (h.channel ch).identifier ch := by
        simp [connectionChannelAdd]
      rw [hb]
      rcases eq_or_ne id (h.channel ch).identifier with rfl | hid
      · rw [AList.lookup_insert]
        rcases eq_or_ne ch' ch with rfl | hh
        · simp [connectionChannelAdd, hv]
        · rw [ho hh]
          refine iff_of_false (fun heq => hh (Option.some.inj heq).symm) fun ht => ?_
          rw [(hl.lookup c' _ ch').2 ht] at hn
          cases hn
      · rw [AList.lookup_insert_ne hid, hl.lookup]
        rcases eq_or_ne ch' ch with rfl | hh
        · refine iff_of_false (fun ht => hid ht.2.2.symm) fun ht => hid ?_
          rw [← ht.2.2]
          simp [connectionChannelAdd]
        · rw [ho hh]
    · rw [connectionChannelAdd_connection_ne ch hcc, hl.lookup]
      rcases eq_or_ne ch' ch with rfl | hh
      · refine iff_of_false (fun ht => ?_) fun ht => hcc ?_
        · rw [hnn] at ht
          exact absurd ht.2.1 (some_ne_none c').symm
        · simpa [connectionChannelAdd, eq_comm] using ht.2.1
      · rw [ho hh]
  · rcases eq_or_ne c' c with rfl | hcc
    · rw [connectionChannelAdd_connection_self]
      rw [AList.entries_insert_of_notMem hnt, length_cons, hl.count c']
    · rw [connectionChannelAdd_connection_ne ch hcc]
      exact hl.count c'
  · have hcc : c' ≠ c := fun heq => absurd (heq ▸ hle) (Nat.not_le.2 hc)
    rw [connectionChannelAdd_connection_ne ch hcc]
    exact hl.fresh c' hle

theorem Linked.channelRemove (hl : Linked live h) (hv : live ch) (hc : (h.channel ch).connection = some c) :
    Linked live (h.connectionChannelRemove c ch) := by
  have ht := (hl.lookup c _ ch).2 ⟨hv, hc, rfl⟩
  refine ⟨fun c' id ch' => ?_, fun c' => ?_, fun c' hle => ?_⟩
  · have ho : ch' ≠ ch → (h.connectionChannelRemove c ch).channel ch' = h.channel ch' :=
      connectionChannelRemove_channel_ne c
    have hs : ((h.connectionChannelRemove c ch).channel ch).connection = none := by
      rw [connectionChannelRemove_channel_self]
    rcases eq_or_ne c' c with rfl | hcc
    · have hb : ((h.connectionChannelRemove c' ch).connection c').channelTable =
          (h.connection c').channelTable.erase (h.channel ch).identifier := by
        simp [connectionChannelRemove]
      rw [hb]
      rcases eq_or_ne id (h.channel ch).identifier with rfl | hid
      · rw [AList.lookup_erase]
        refine iff_of_false nofun fun ha => ?_
        rcases eq_or_ne ch' ch with rfl | hh
        · rw [hs] at ha
          exact absurd ha.2.1 (some_ne_none c').symm
        · rw [ho hh] at ha
          rw [(hl.lookup c' _ ch').2 ha] at ht
          exact hh (Option.some.inj ht)
      · rw [AList.lookup_erase_ne hid, hl.lookup]
        rcases eq_or_ne ch' ch with rfl | hh
        · refine iff_of_false (fun ha => hid ha.2.2.symm) fun ha => ?_
          rw [hs] at ha
          exact absurd ha.2.1 (some_ne_none c').symm
        · rw [ho hh]
    · rw [connectionChannelRemove_connection_ne ch hcc, hl.lookup]
      rcases eq_or_ne ch' ch with rfl | hh
      · refine iff_of_false (fun ha => hcc ?_) fun ha => ?_
        · exact Option.some.inj (ha.2.1.symm.trans hc)
        · rw [hs] at ha
          exact absurd ha.2.1 (some_ne_none c').symm
      · rw [ho hh]
  · rcases eq_or_ne c' c with rfl | hcc
    · have hm : (h.channel ch).identifier ∈ (h.connection c').channelTable.keys :=
        AList.mem_keys.1 (AList.lookup_isSome.1 (by rw [ht]; rfl))
      have hk : ((h.connection c').channelTable.erase (h.channel ch).identifier).keys.length =
          (h.connection c').channelTable.keys.length - 1 := by
        rw [AList.keys_erase]
        exact @length_erase_of_mem _ instBEqOfDecidableEq _ _ _ hm
      have hp := length_pos_of_mem hm
      simp only [AList.keys, List.keys, length_map] at hk hp
      rw [connectionChannelRemove_connection_self]
      rw [hl.count c', hk, sizeSub_of_le hp]
    · rw [connectionChannelRemove_connection_ne ch hcc]
      exact hl.count c'
  · have hcc : c' ≠ c := fun heq => absurd (heq ▸ hle) (Nat.not_le.2 (hl.lt hv hc))
    rw [connectionChannelRemove_connection_ne ch hcc]
    exact hl.fresh c' hle

end Heap

end UniMrcp.MrcpV2Transport
