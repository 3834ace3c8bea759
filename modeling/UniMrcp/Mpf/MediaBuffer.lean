import UniMrcp.Lib.Loop
import UniMrcp.Lib.Run
import UniMrcp.Mpf.Frame

/-!
# The media buffer

`mpf_buffer.c`: audio data and events are written in chunks and read in frames. Each call is one step.
-/

namespace UniMrcp.Mpf

open Lib List

def FrameType.or (t u : FrameType) : FrameType := ⟨t.audio || u.audio, t.video || u.video, t.event || u.event⟩

/-- `MEDIA_FRAME_TYPE_AUDIO` -/
def frameTypeAudio : FrameType := { audio := true }

/-- `mpf_chunk_t`: the type of its frame, and the data that its size counts. -/
structure MediaChunk where
  type : FrameType
  data : Bytes
  deriving DecidableEq

/-- `mpf_buffer_t`, with the ring of its chunks as a list. -/
structure MediaBuffer where
  head : List MediaChunk := []
  curChunk : Option MediaChunk := none
  remainingChunkSize : Nat := 0
  size : Nat := 0
  deriving DecidableEq

def bufferCreate : MediaBuffer := {}

/-- `mpf_buffer_restart`, which empties the ring and nothing else. -/
def bufferRestart (buffer : MediaBuffer) : MediaBuffer := { buffer with head := [] }

def bufferAudioWrite (buffer : MediaBuffer) (data : Bytes) : MediaBuffer :=
  { buffer with head := buffer.head ++ [⟨frameTypeAudio, data⟩], size := buffer.size + data.length }

def bufferEventWrite (buffer : MediaBuffer) (eventType : FrameType) : MediaBuffer :=
  { buffer with head := buffer.head ++ [⟨eventType, []⟩] }

def bufferGetSize (buffer : MediaBuffer) : Nat := buffer.size

/-! ## Reading -/

/-- A frame that is being read: its type, what was copied into it, and `remaining_frame_size`. -/
structure FrameRead where
  buffer : MediaBuffer
  type : FrameType
  copied : Bytes
  remaining : Nat

/-- The chunk that is read from, which is the next one of the ring if there is no current one. -/
def chunkNext (buffer : MediaBuffer) : Option (MediaBuffer × MediaChunk) :=
  match buffer.curChunk with
  | some chunk => some (buffer, chunk)
  | none =>
    match buffer.head with
    | [] => none
    | chunk :: head =>
      some ({ buffer with head := head, curChunk := some chunk, remainingChunkSize := chunk.data.length }, chunk)

/-- What is copied from a chunk: a part of it, or all that remains of it. -/
def chunkCopy (r : FrameRead) (buffer : MediaBuffer) (chunk : MediaChunk) : FrameRead :=
  let src := chunk.data.drop (chunk.data.length - buffer.remainingChunkSize)
  let type := r.type.or chunk.type
  if r.remaining < buffer.remainingChunkSize then
    { buffer := { buffer with
        remainingChunkSize := buffer.remainingChunkSize - r.remaining
        size := buffer.size - r.remaining }
      type := type
      copied := r.copied ++ src.take r.remaining
      remaining := 0 }
  else
    { buffer := { buffer with
        remainingChunkSize := 0
        size := buffer.size - buffer.remainingChunkSize
        curChunk := none }
      type := type
      copied := r.copied ++ src.take buffer.remainingChunkSize
      remaining := r.remaining - buffer.remainingChunkSize }

/-- One round of the loop of `mpf_buffer_frame_read`, which ends where the buffer is empty or the frame is full. -/
def frameReadRound (r : FrameRead) : FrameRead ⊕ FrameRead :=
  match chunkNext r.buffer with
  | none => .inl r
  | some (buffer, chunk) =>
    let r := chunkCopy r buffer chunk
    if r.remaining = 0 then .inl r else .inr r

def FrameRead.chunks (r : FrameRead) : Nat := r.buffer.head.length + if r.buffer.curChunk.isSome then 1 else 0

/-- `mpf_buffer_frame_read`. What is not filled of the frame is silence. -/
def bufferFrameRead (buffer : MediaBuffer) (frame : Frame) : MediaBuffer × Frame :=
  let r := whileLoop frameReadRound id FrameRead.chunks ⟨buffer, frame.type, [], frame.codecFrame.size⟩
  (r.buffer,
    { frame with
      type := r.type
      codecFrame := { frame.codecFrame with buffer := r.copied ++ List.replicate r.remaining 0 } })

inductive BufferOp
  | audioWrite (data : Bytes)
  | eventWrite (eventType : FrameType)
  | frameRead (frame : Frame)
  | restart
  deriving DecidableEq

def bufferStep (buffer : MediaBuffer) : BufferOp → MediaBuffer × Option Frame
  | .audioWrite data => (bufferAudioWrite buffer data, none)
  | .eventWrite eventType => (bufferEventWrite buffer eventType, none)
  | .frameRead frame => ((bufferFrameRead buffer frame).1, some (bufferFrameRead buffer frame).2)
  | .restart => (bufferRestart buffer, none)

/-! ## The media buffer as a queue -/

/-- An audio byte, or an event with its type. A write of no audio data is an event of the type of audio. -/
inductive BufferItem
  | byte (b : UInt8)
  | event (type : FrameType)
  deriving DecidableEq

def BufferItem.byte? : BufferItem → Option UInt8
  | .byte b => some b
  | .event _ => none

def BufferItem.type : BufferItem → FrameType
  | .byte _ => frameTypeAudio
  | .event type => type

def bytesOf (items : List BufferItem) : Bytes := items.filterMap BufferItem.byte?

def typeWith (type : FrameType) (items : List BufferItem) : FrameType :=
  items.foldl (fun type item => type.or item.type) type

/-- The items up to the last of `n` bytes, or all if there are fewer bytes, and the rest. -/
def takeItems : Nat → List BufferItem → List BufferItem × List BufferItem
  | _, [] => ([], [])
  | 0, item :: items => ([], item :: items)
  | n + 1, .byte b :: items => (.byte b :: (takeItems n items).1, (takeItems n items).2)
  | n + 1, .event type :: items => (.event type :: (takeItems (n + 1) items).1, (takeItems (n + 1) items).2)

/-- What a frame takes of a queue. A frame without room takes an event that comes first. -/
def frameItems (size : Nat) (items : List BufferItem) : List BufferItem :=
  if size = 0 then (items.take 1).filter (·.byte?.isNone) else (takeItems size items).1

/-- What a frame is given its type by: what it takes, or what comes first if it has no room. -/
def frameSees (size : Nat) (items : List BufferItem) : List BufferItem :=
  if size = 0 then items.take 1 else frameItems size items

def audioItems (data : Bytes) : List BufferItem :=
  if data = [] then [.event frameTypeAudio] else data.map .byte

structure BufferLog where
  written : List BufferItem := []
  read : List BufferItem := []
  deriving DecidableEq

def BufferLog.unread (log : BufferLog) : List BufferItem := log.written.drop log.read.length

def BufferLog.next (log : BufferLog) : BufferOp → BufferLog
  | .audioWrite data => { log with written := log.written ++ audioItems data }
  | .eventWrite eventType => { log with written := log.written ++ [.event eventType] }
  | .frameRead frame => { log with read := log.read ++ frameItems frame.codecFrame.size log.unread }
  | .restart => {}

/-- A frame of `size` bytes that was read: the bytes of its items, then silence, in the type of its items. -/
def frameOf (frame : Frame) (items : List BufferItem) : Frame :=
  { frame with
    type := typeWith frame.type (frameSees frame.codecFrame.size items)
    codecFrame := { frame.codecFrame with
      buffer := bytesOf (frameItems frame.codecFrame.size items) ++
        List.replicate (frame.codecFrame.size - (bytesOf (frameItems frame.codecFrame.size items)).length) 0 } }

/-- **A call of a queue**, from a log: what is read is the beginning of what was written, and the size is what was not
read. -/
structure Fifo (log : BufferLog) (op : BufferOp) (buffer : MediaBuffer) (out : Option Frame) : Prop where
  order : (log.next op).read <+: (log.next op).written
  frame : ∀ frame, op = .frameRead frame → out = some (frameOf frame log.unread)
  full : ∀ frame, op = .frameRead frame → (bytesOf (frameItems frame.codecFrame.size log.unread)).length =
    min frame.codecFrame.size (bytesOf log.unread).length
  size : bufferGetSize buffer = (bytesOf (log.next op).unread).length

/-! ## What a frame takes -/

variable (n : Nat)

@[simp] theorem takeItems_nil : takeItems n [] = ([], []) := by cases n <;> rfl

@[simp] theorem takeItems_zero (items : List BufferItem) : takeItems 0 items = ([], items) := by
  cases items <;> rfl

theorem takeItems_append (items : List BufferItem) : (takeItems n items).1 ++ (takeItems n items).2 = items := by
  induction items generalizing n with
  | nil => simp
  | cons item items ih =>
    cases n with
    | zero => rfl
    | succ n =>
      cases item with
      | byte b => simp [takeItems, ih]
      | event type => simp [takeItems, ih]

theorem takeItems_event {n : Nat} (h : n ≠ 0) (type : FrameType) (items : List BufferItem) :
    takeItems n (.event type :: items) = (.event type :: (takeItems n items).1, (takeItems n items).2) := by
  cases n with
  | zero => exact absurd rfl h
  | succ n => rfl

variable {data : Bytes}

theorem takeItems_bytes {n : Nat} (h : data.length ≤ n) (items : List BufferItem) :
    takeItems n (data.map .byte ++ items) =
      (data.map .byte ++ (takeItems (n - data.length) items).1, (takeItems (n - data.length) items).2) := by
  induction data generalizing n with
  | nil => simp
  | cons b data ih =>
    obtain ⟨m, rfl⟩ : ∃ m, n = m + 1 := ⟨n - 1, by simp at h; omega⟩
    have hle : data.length ≤ m := by simpa using h
    simp [takeItems, ih hle]

theorem takeItems_part {n : Nat} (h : n < data.length) (items : List BufferItem) :
    takeItems n (data.map .byte ++ items) = ((data.take n).map .byte, (data.drop n).map .byte ++ items) := by
  induction data generalizing n with
  | nil => simp at h
  | cons b data ih =>
    cases n with
    | zero => simp
    | succ n =>
      have hlt : n < data.length := by simpa using h
      simp [takeItems, ih hlt]

theorem frameItems_initial (size : Nat) (items : List BufferItem) : frameItems size items <+: items := by
  unfold frameItems
  split_ifs
  · cases items with
    | nil => simp
    | cons item items => cases item <;> simp [BufferItem.byte?, prefix_cons_iff]
  · exact ⟨_, takeItems_append size items⟩

@[simp] theorem bytesOf_append (items items' : List BufferItem) :
    bytesOf (items ++ items') = bytesOf items ++ bytesOf items' := filterMap_append

@[simp] theorem bytesOf_bytes (data : Bytes) : bytesOf (data.map .byte) = data := by
  induction data with
  | nil => rfl
  | cons b data ih => simpa [bytesOf, BufferItem.byte?] using ih

variable (type : FrameType)

@[simp] theorem bytesOf_event : bytesOf [.event type] = [] := rfl

theorem bytesOf_cons_byte (b : UInt8) (items : List BufferItem) :
    bytesOf (.byte b :: items) = b :: bytesOf items := rfl

@[simp] theorem bytesOf_audio (data : Bytes) : bytesOf (audioItems data) = data := by
  unfold audioItems
  split_ifs with h
  · simp [bytesOf, BufferItem.byte?, h]
  · exact bytesOf_bytes data

theorem length_bytesOf_takeItems (items : List BufferItem) :
    (bytesOf (takeItems n items).1).length = min n (bytesOf items).length := by
  induction items generalizing n with
  | nil => simp [bytesOf]
  | cons item items ih =>
    cases n with
    | zero => simp [bytesOf]
    | succ n =>
      cases item with
      | byte b =>
        show (bytesOf (.byte b :: (takeItems n items).1)).length = _
        rw [bytesOf_cons_byte, bytesOf_cons_byte, length_cons, length_cons, ih n, Nat.succ_min_succ]
      | event type => exact ih (n + 1)

theorem length_bytesOf_frameItems (size : Nat) (items : List BufferItem) :
    (bytesOf (frameItems size items)).length = min size (bytesOf items).length := by
  unfold frameItems
  split_ifs with hz
  · cases items with
    | nil => simp [bytesOf]
    | cons item items => cases item <;> simp [bytesOf, BufferItem.byte?, hz]
  · exact length_bytesOf_takeItems size items

theorem typeWith_append (items items' : List BufferItem) :
    typeWith type (items ++ items') = typeWith (typeWith type items) items' := foldl_append

theorem or_self (t u : FrameType) : (t.or u).or u = t.or u := by simp [FrameType.or]

theorem typeWith_bytes (h : data ≠ []) : typeWith type (data.map .byte) = type.or frameTypeAudio := by
  induction data generalizing type with
  | nil => exact absurd rfl h
  | cons b data ih =>
    cases data with
    | nil => rfl
    | cons b' data =>
      have hr := ih (type.or frameTypeAudio) (by simp)
      rw [or_self] at hr
      exact hr

/-! ## The queue in a buffer -/

def MediaChunk.items (chunk : MediaChunk) : List BufferItem :=
  if chunk.data = [] then [.event chunk.type] else chunk.data.map .byte

def MediaBuffer.current (buffer : MediaBuffer) : Bytes :=
  match buffer.curChunk with
  | none => []
  | some chunk => chunk.data.drop (chunk.data.length - buffer.remainingChunkSize)

def MediaBuffer.pending (buffer : MediaBuffer) : List BufferItem :=
  buffer.current.map .byte ++ buffer.head.flatMap MediaChunk.items

def MediaChunk.Proper (chunk : MediaChunk) : Prop := chunk.data ≠ [] → chunk.type = frameTypeAudio

structure MediaBuffer.Sound (buffer : MediaBuffer) : Prop where
  chunks : ∀ chunk ∈ buffer.head, chunk.Proper
  current : ∀ chunk, buffer.curChunk = some chunk → chunk.type = frameTypeAudio ∧ 0 < buffer.remainingChunkSize ∧
    buffer.remainingChunkSize ≤ chunk.data.length
  size : buffer.size = (bytesOf buffer.pending).length

structure FrameRead.Takes (r q : FrameRead) (taken seen left : List BufferItem) : Prop where
  sound : q.buffer.Sound
  pending : q.buffer.pending = left
  type : q.type = typeWith r.type seen
  copied : q.copied = r.copied ++ bytesOf taken
  remaining : q.remaining = r.remaining - (bytesOf taken).length

theorem FrameRead.Takes.trans {r q u : FrameRead} {taken seen left taken' seen' left' : List BufferItem}
    (h : r.Takes q taken seen left) (h' : q.Takes u taken' seen' left') :
    r.Takes u (taken ++ taken') (seen ++ seen') left' where
  sound := h'.sound
  pending := h'.pending
  type := by rw [h'.type, h.type, typeWith_append]
  copied := by rw [h'.copied, h.copied, bytesOf_append, append_assoc]
  remaining := by rw [h'.remaining, h.remaining, bytesOf_append, length_append, Nat.sub_sub]

theorem chunkNext_some {buffer buffer' : MediaBuffer} {chunk : MediaChunk} (h : buffer.Sound)
    (hn : chunkNext buffer = some (buffer', chunk)) :
    (∀ c ∈ buffer'.head, c.Proper) ∧ buffer'.size = buffer.size ∧ buffer'.curChunk = some chunk ∧
      buffer'.current.length = buffer'.remainingChunkSize ∧ buffer'.remainingChunkSize ≤ chunk.data.length ∧
      (buffer'.current = [] ∧ buffer.pending = .event chunk.type :: buffer'.head.flatMap MediaChunk.items ∨
        buffer'.current ≠ [] ∧ chunk.type = frameTypeAudio ∧
          buffer.pending = buffer'.current.map .byte ++ buffer'.head.flatMap MediaChunk.items) := by
  unfold chunkNext at hn
  cases hr : buffer.curChunk with
  | some c =>
    simp only [hr, Option.some.injEq, Prod.mk.injEq] at hn
    obtain ⟨rfl, rfl⟩ := hn
    obtain ⟨ht, hs, hle⟩ := h.current c hr
    have hl : buffer.current.length = buffer.remainingChunkSize := by
      simp only [MediaBuffer.current, hr, length_drop]
      omega
    refine ⟨h.chunks, rfl, hr, hl, hle, Or.inr ⟨?_, ht, rfl⟩⟩
    intro hnl
    rw [hnl, length_nil] at hl
    omega
  | none =>
    cases hh : buffer.head with
    | nil => simp [hr, hh] at hn
    | cons c head =>
      simp only [hr, hh, Option.some.injEq, Prod.mk.injEq] at hn
      obtain ⟨rfl, rfl⟩ := hn
      have hch : ∀ c' ∈ c :: head, c'.Proper := hh ▸ h.chunks
      have hp : buffer.pending = c.items ++ head.flatMap MediaChunk.items := by
        simp [MediaBuffer.pending, MediaBuffer.current, hr, hh]
      refine ⟨fun c' hc' => hch c' (mem_cons_of_mem _ hc'), rfl, rfl, ?_, Nat.le_refl _, ?_⟩
      · simp [MediaBuffer.current]
      · rw [hp, MediaChunk.items]
        by_cases hd : c.data = []
        · exact Or.inl ⟨by simp [MediaBuffer.current, hd], by simp [hd]⟩
        · exact Or.inr ⟨by simp [MediaBuffer.current, hd], hch c mem_cons_self hd,
            by simp [MediaBuffer.current, hd]⟩

theorem chunkNext_none {buffer : MediaBuffer} (hn : chunkNext buffer = none) : buffer.pending = [] := by
  unfold chunkNext at hn
  cases hc : buffer.curChunk with
  | some c => simp [hc] at hn
  | none =>
    cases hh : buffer.head with
    | nil => simp [MediaBuffer.pending, MediaBuffer.current, hc, hh]
    | cons c head => simp [hc, hh] at hn

section Copy

variable {r : FrameRead} {buffer : MediaBuffer} {chunk : MediaChunk}

theorem chunkCopy_all (hc : ∀ c ∈ buffer.head, c.Proper) (hr : buffer.curChunk = some chunk)
    (hl : buffer.current.length = buffer.remainingChunkSize) (hf : buffer.current.length ≤ r.remaining)
    {items : List BufferItem} (hi : bytesOf items = buffer.current)
    (ht : r.type.or chunk.type = typeWith r.type items)
    (hz : buffer.size = (bytesOf (items ++ buffer.head.flatMap MediaChunk.items)).length) :
    r.Takes (chunkCopy r buffer chunk) items items (buffer.head.flatMap MediaChunk.items) := by
  have hs : chunk.data.drop (chunk.data.length - buffer.remainingChunkSize) = buffer.current := by
    simp [MediaBuffer.current, hr]
  unfold chunkCopy
  rw [if_neg (by omega)]
  refine ⟨⟨hc, nofun, ?_⟩, ?_, ht, ?_, ?_⟩
  · rw [bytesOf_append, length_append, hi] at hz
    simp only [MediaBuffer.pending, MediaBuffer.current, map_nil, nil_append]
    omega
  · simp [MediaBuffer.pending, MediaBuffer.current]
  · rw [hs, ← hl, take_length, hi]
  · rw [hi, hl]

theorem chunkCopy_part (hh : ∀ c ∈ buffer.head, c.Proper) (hr : buffer.curChunk = some chunk)
    (hlen : buffer.current.length = buffer.remainingChunkSize) (hle : buffer.remainingChunkSize ≤ chunk.data.length)
    (ht : chunk.type = frameTypeAudio) (hln : r.remaining < buffer.current.length)
    (hz : buffer.size = (bytesOf (buffer.current.map .byte ++ buffer.head.flatMap MediaChunk.items)).length) :
    (chunkCopy r buffer chunk).remaining = 0 ∧
      r.Takes (chunkCopy r buffer chunk) ((buffer.current.take r.remaining).map .byte)
        ((buffer.current.take 1).map .byte)
        ((buffer.current.drop r.remaining).map .byte ++ buffer.head.flatMap MediaChunk.items) := by
  have hs : chunk.data.drop (chunk.data.length - buffer.remainingChunkSize) = buffer.current := by
    simp [MediaBuffer.current, hr]
  have hl : chunk.data.drop (chunk.data.length - (buffer.remainingChunkSize - r.remaining)) =
      buffer.current.drop r.remaining := by
    rw [← hs, drop_drop]
    congr 1
    omega
  have hne : buffer.current.take 1 ≠ [] := by
    intro hn
    have h := congrArg List.length hn
    rw [length_take, length_nil] at h
    omega
  unfold chunkCopy
  rw [if_pos (by omega)]
  refine ⟨rfl, ⟨hh, fun c hc => ?_, ?_⟩, ?_, ?_, ?_, ?_⟩
  · obtain rfl := Option.some.inj (hr.symm.trans hc)
    dsimp only
    exact ⟨ht, by omega, by omega⟩
  · simp only [MediaBuffer.pending, MediaBuffer.current, hr, hl, bytesOf_append, bytesOf_bytes,
      length_append, length_drop] at hz ⊢
    omega
  · simp only [MediaBuffer.pending, MediaBuffer.current, hr, hl]
  · rw [typeWith_bytes r.type hne, ht]
  · rw [hs, bytesOf_bytes]
  · rw [bytesOf_bytes, length_take]
    dsimp only
    omega

end Copy

/-! ## Reads -/

theorem chunkCopy_takes {r : FrameRead} {buffer : MediaBuffer} {chunk : MediaChunk} (h : r.buffer.Sound)
    (hx : chunkNext r.buffer = some (buffer, chunk)) :
    (∃ type rest, r.buffer.pending = .event type :: rest ∧
      r.Takes (chunkCopy r buffer chunk) [.event type] [.event type] rest) ∨
    ∃ (src : Bytes) (rest : List BufferItem), src ≠ [] ∧ r.buffer.pending = src.map .byte ++ rest ∧
      (src.length ≤ r.remaining → r.Takes (chunkCopy r buffer chunk) (src.map .byte) (src.map .byte) rest) ∧
      (r.remaining < src.length → (chunkCopy r buffer chunk).remaining = 0 ∧
        r.Takes (chunkCopy r buffer chunk) ((src.take r.remaining).map .byte) ((src.take 1).map .byte)
          ((src.drop r.remaining).map .byte ++ rest)) := by
  obtain ⟨hc, hs, hr, hl, hle, ⟨hn, hp⟩ | ⟨hne, ht, hp⟩⟩ := chunkNext_some h hx
  · refine Or.inl ⟨chunk.type, _, hp, ?_⟩
    refine chunkCopy_all hc hr hl (by simp [hn]) (by rw [bytesOf_event, hn]) rfl ?_
    rw [hs, h.size, hp]
    rfl
  · have hs' : buffer.size =
        (bytesOf (buffer.current.map .byte ++ buffer.head.flatMap MediaChunk.items)).length := by
      rw [hs, h.size, hp]
    refine Or.inr ⟨buffer.current, _, hne, hp, fun hf => ?_, fun hln => ?_⟩
    · exact chunkCopy_all hc hr hl hf (bytesOf_bytes _)
        (by rw [typeWith_bytes r.type hne, ht]) hs'
    · exact chunkCopy_part hc hr hl hle ht hln hs'

theorem frameReadRound_lowers : Lowers frameReadRound FrameRead.chunks := by
  intro r r' hr
  unfold frameReadRound at hr
  cases hn : chunkNext r.buffer with
  | none => simp [hn] at hr
  | some next =>
    obtain ⟨buffer, chunk⟩ := next
    simp only [hn] at hr
    split_ifs at hr with hf
    obtain rfl := Sum.inr.inj hr
    have hp : (chunkCopy r buffer chunk).chunks = buffer.head.length := by
      unfold chunkCopy at hf ⊢
      split_ifs at hf ⊢
      · exact absurd rfl hf
      · rfl
    rw [hp]
    unfold chunkNext at hn
    unfold FrameRead.chunks
    cases hc : r.buffer.curChunk with
    | some c =>
      simp only [hc, Option.some.injEq, Prod.mk.injEq] at hn
      obtain ⟨rfl, -⟩ := hn
      simp
    | none =>
      cases hh : r.buffer.head with
      | nil => simp [hc, hh] at hn
      | cons c head =>
        simp only [hc, hh, Option.some.injEq, Prod.mk.injEq] at hn
        obtain ⟨rfl, -⟩ := hn
        simp

theorem frameRead_takes (r : FrameRead) (h : r.buffer.Sound) (hro : r.remaining ≠ 0) :
    r.Takes (whileLoop frameReadRound id FrameRead.chunks r) (takeItems r.remaining r.buffer.pending).1
      (takeItems r.remaining r.buffer.pending).1 (takeItems r.remaining r.buffer.pending).2 := by
  revert h hro
  refine whileLoop_rec frameReadRound_lowers (fun r q => r.buffer.Sound → r.remaining ≠ 0 →
    r.Takes q (takeItems r.remaining r.buffer.pending).1 (takeItems r.remaining r.buffer.pending).1
      (takeItems r.remaining r.buffer.pending).2) ?_ ?_ r
  · intro r q hr h hro
    unfold frameReadRound at hr
    cases hn : chunkNext r.buffer with
    | none =>
      simp only [hn, Sum.inl.injEq] at hr
      subst hr
      rw [chunkNext_none hn, takeItems_nil]
      exact ⟨h, chunkNext_none hn, rfl, by simp [bytesOf], by simp [bytesOf]⟩
    | some next =>
      obtain ⟨buffer, chunk⟩ := next
      simp only [hn] at hr
      split_ifs at hr with hf
      obtain rfl := Sum.inl.inj hr
      obtain ⟨type, rest, -, ht⟩ | ⟨src, rest, hne, hp, ha, hpr⟩ := chunkCopy_takes h hn
      · have hm := ht.remaining
        rw [hf, bytesOf_event] at hm
        exact absurd hm.symm hro
      · rw [hp]
        rcases Nat.lt_or_ge r.remaining src.length with hl | hft
        · rw [takeItems_part hl]
          obtain ⟨-, ht⟩ := hpr hl
          have hsn : src.take r.remaining ≠ [] := by simp [hne, hro]
          refine { ht with type := ?_ }
          rw [ht.type, typeWith_bytes _ hsn, typeWith_bytes _ (by simp [hne])]
        · have ht := ha hft
          have hm := ht.remaining
          rw [hf, bytesOf_bytes] at hm
          rw [takeItems_bytes hft, show r.remaining - src.length = 0 by omega, takeItems_zero, append_nil]
          exact ht
  · intro r r' q hr ih h hro
    unfold frameReadRound at hr
    cases hn : chunkNext r.buffer with
    | none => simp [hn] at hr
    | some next =>
      obtain ⟨buffer, chunk⟩ := next
      simp only [hn] at hr
      split_ifs at hr with hf
      obtain rfl := Sum.inr.inj hr
      obtain ⟨type, rest, hp, ht⟩ | ⟨src, rest, hne, hp, ha, hpr⟩ := chunkCopy_takes h hn
      · have hs := ih ht.sound hf
        rw [ht.pending, ht.remaining, bytesOf_event, length_nil, Nat.sub_zero] at hs
        rw [hp, takeItems_event hro]
        exact ht.trans hs
      · have hft : src.length ≤ r.remaining := by
          by_contra hl
          exact hf (hpr (by omega)).1
        have ht := ha hft
        have hs := ih ht.sound hf
        rw [ht.pending, ht.remaining, bytesOf_bytes] at hs
        rw [hp, takeItems_bytes hft]
        exact ht.trans hs

theorem frameRead_empty (r : FrameRead) (h : r.buffer.Sound) (hr : r.remaining = 0) :
    ∃ left, r.buffer.pending = frameItems 0 r.buffer.pending ++ left ∧
      r.Takes (whileLoop frameReadRound id FrameRead.chunks r) (frameItems 0 r.buffer.pending)
        (frameSees 0 r.buffer.pending) left := by
  cases hn : chunkNext r.buffer with
  | none =>
    have hrn : frameReadRound r = .inl r := by simp [frameReadRound, hn]
    rw [whileLoop_inl frameReadRound_lowers hrn, chunkNext_none hn]
    exact ⟨[], rfl, h, chunkNext_none hn, rfl, by simp [frameItems, bytesOf], by simp [frameItems, bytesOf]⟩
  | some next =>
    obtain ⟨buffer, chunk⟩ := next
    have hd : (chunkCopy r buffer chunk).remaining = 0 := by
      unfold chunkCopy
      split_ifs <;> simp [hr]
    have hrn : frameReadRound r = .inl (chunkCopy r buffer chunk) := by simp [frameReadRound, hn, hd]
    rw [whileLoop_inl frameReadRound_lowers hrn]
    obtain ⟨type, rest, hp, ht⟩ | ⟨src, rest, hne, hp, -, hpr⟩ := chunkCopy_takes h hn
    · rw [hp]
      exact ⟨rest, rfl, ht⟩
    · obtain ⟨-, ht⟩ := hpr (by rw [hr]; exact length_pos_of_ne_nil hne)
      obtain ⟨b, src', rfl⟩ := exists_cons_of_ne_nil hne
      rw [hr] at ht
      rw [hp]
      exact ⟨_, rfl, ht⟩

/-- **A frame is read.** -/
theorem bufferFrameRead_holds {buffer : MediaBuffer} (h : buffer.Sound) (frame : Frame) :
    (bufferFrameRead buffer frame).1.Sound ∧ (bufferFrameRead buffer frame).2 = frameOf frame buffer.pending ∧
      buffer.pending = frameItems frame.codecFrame.size buffer.pending ++ (bufferFrameRead buffer frame).1.pending := by
  obtain ⟨left, hp, ht⟩ : ∃ left, buffer.pending = frameItems frame.codecFrame.size buffer.pending ++ left ∧
      FrameRead.Takes ⟨buffer, frame.type, [], frame.codecFrame.size⟩
        (whileLoop frameReadRound id FrameRead.chunks ⟨buffer, frame.type, [], frame.codecFrame.size⟩)
        (frameItems frame.codecFrame.size buffer.pending) (frameSees frame.codecFrame.size buffer.pending) left := by
    by_cases hz : frame.codecFrame.size = 0
    · have he := frameRead_empty ⟨buffer, frame.type, [], frame.codecFrame.size⟩ h hz
      rw [hz] at he ⊢
      exact he
    · have ht := frameRead_takes ⟨buffer, frame.type, [], frame.codecFrame.size⟩ h hz
      refine ⟨(takeItems frame.codecFrame.size buffer.pending).2, ?_, ?_⟩
      · rw [frameItems, if_neg hz]
        exact (takeItems_append _ _).symm
      · rw [frameSees, frameItems, if_neg hz, if_neg hz]
        exact ht
  refine ⟨ht.sound, ?_, hp.trans (by rw [show (bufferFrameRead buffer frame).1.pending = left from
    ht.pending])⟩
  unfold bufferFrameRead frameOf
  simp only [ht.type, ht.copied, ht.remaining, nil_append]

/-! ## Runs -/

def loggedStep (s : MediaBuffer × BufferLog) (op : BufferOp) : (MediaBuffer × BufferLog) × Option Frame :=
  (((bufferStep s.1 op).1, s.2.next op), (bufferStep s.1 op).2)

/-- **A buffer holds what was written and not read.** -/
structure Holds (s : MediaBuffer × BufferLog) : Prop where
  sound : s.1.Sound
  pending : s.1.pending = s.2.unread
  order : s.2.read <+: s.2.written

theorem holds_create : Holds (bufferCreate, {}) := ⟨⟨nofun, nofun, rfl⟩, rfl, prefix_rfl⟩

variable {s : MediaBuffer × BufferLog}

theorem Holds.write (h : Holds s) (chunk : MediaChunk) (hr : chunk.Proper) {op : BufferOp}
    (hb : (bufferStep s.1 op).1 =
      { s.1 with head := s.1.head ++ [chunk], size := s.1.size + (bytesOf chunk.items).length })
    (hl : s.2.next op = { s.2 with written := s.2.written ++ chunk.items }) : Holds (loggedStep s op).1 := by
  have hp : (bufferStep s.1 op).1.pending = s.1.pending ++ chunk.items := by
    rw [hb]
    simp [MediaBuffer.pending, MediaBuffer.current]
  refine ⟨⟨?_, ?_, ?_⟩, ?_, ?_⟩
  · show ∀ c ∈ (bufferStep s.1 op).1.head, c.Proper
    rw [hb]
    intro c hc
    rcases mem_append.1 hc with ho | hn
    · exact h.sound.chunks c ho
    · rw [mem_singleton.1 hn]
      exact hr
  · intro c hc
    rw [show (loggedStep s op).1.1 = (bufferStep s.1 op).1 from rfl, hb] at hc ⊢
    exact h.sound.current c hc
  · show (bufferStep s.1 op).1.size = (bytesOf (bufferStep s.1 op).1.pending).length
    rw [hp, hb, bytesOf_append, length_append, ← h.sound.size]
  · show (bufferStep s.1 op).1.pending = (s.2.next op).unread
    rw [hp, hl, h.pending, BufferLog.unread, BufferLog.unread]
    exact (drop_append_of_le_length h.order.length_le).symm
  · show (s.2.next op).read <+: (s.2.next op).written
    rw [hl]
    exact h.order.trans (prefix_append _ _)

theorem fifo_step (h : Holds s) (op : BufferOp) (ho : op = .restart → bufferGetSize s.1 = 0) :
    Holds (loggedStep s op).1 ∧ Fifo s.2 op (bufferStep s.1 op).1 (bufferStep s.1 op).2 := by
  have hn : Holds (loggedStep s op).1 := by
    cases op with
    | audioWrite data =>
      have hi : (⟨frameTypeAudio, data⟩ : MediaChunk).items = audioItems data := rfl
      refine h.write ⟨frameTypeAudio, data⟩ (fun _ => rfl) ?_ rfl
      rw [hi, bytesOf_audio]
      rfl
    | eventWrite eventType => exact h.write ⟨eventType, []⟩ (fun hne => absurd rfl hne) rfl rfl
    | frameRead frame =>
      obtain ⟨hsn, -, hp⟩ := bufferFrameRead_holds h.sound frame
      rw [h.pending] at hp
      obtain ⟨left, hl⟩ := h.order
      have hu : s.2.unread = left := by
        rw [BufferLog.unread, ← hl, drop_left]
      refine ⟨hsn, ?_, ?_⟩
      · show (bufferFrameRead s.1 frame).1.pending = s.2.written.drop (s.2.read ++ _).length
        rw [length_append, ← drop_drop, ← BufferLog.unread]
        obtain ⟨rest, hr⟩ := frameItems_initial frame.codecFrame.size s.2.unread
        have ht : (bufferFrameRead s.1 frame).1.pending = rest :=
          (append_right_inj _).1 (hp.symm.trans hr.symm)
        show _ = s.2.unread.drop (frameItems frame.codecFrame.size s.2.unread).length
        rw [ht]
        exact (drop_left' rfl).symm.trans (congrArg _ hr)
      · show s.2.read ++ frameItems frame.codecFrame.size s.2.unread <+: s.2.written
        rw [← hl, ← hu]
        exact (prefix_append_right_inj _).2 (frameItems_initial _ _)
    | restart =>
      have hs : s.1.size = 0 := ho rfl
      have hcr : s.1.curChunk = none := by
        cases hc : s.1.curChunk with
        | none => rfl
        | some chunk =>
          obtain ⟨-, hps, hle⟩ := h.sound.current chunk hc
          have hb := h.sound.size
          simp only [hs, MediaBuffer.pending, MediaBuffer.current, hc, bytesOf_append, bytesOf_bytes,
            length_append, length_drop] at hb
          omega
      have hp : (bufferRestart s.1).pending = [] := by
        simp [MediaBuffer.pending, MediaBuffer.current, bufferRestart, hcr]
      refine ⟨⟨nofun, fun chunk hh => ?_, ?_⟩, hp, prefix_rfl⟩
      · exact absurd (hcr.symm.trans hh) (by simp)
      · show s.1.size = (bytesOf (bufferRestart s.1).pending).length
        rw [hp, hs]
        rfl
  refine ⟨hn, ⟨hn.order, ?_, ?_, ?_⟩⟩
  · rintro frame rfl
    rw [← h.pending]
    exact congrArg some (bufferFrameRead_holds h.sound frame).2.1
  · exact fun frame _ => length_bytesOf_frameItems _ _
  · show (loggedStep s op).1.1.size = (bytesOf (loggedStep s op).1.2.unread).length
    rw [← hn.pending]
    exact hn.sound.size

/-- **A media buffer is a queue**, in every run, exactly when it is restarted only while it holds no byte. -/
theorem fifo_iff (ops : List BufferOp) :
    EachStep loggedStep (fun s op => Fifo s.2 op (bufferStep s.1 op).1 (bufferStep s.1 op).2) (bufferCreate, {}) ops ↔
      EachStep loggedStep (fun s op => op = .restart → bufferGetSize s.1 = 0) (bufferCreate, {}) ops := by
  constructor
  · refine eachStep_mono fun s op hfifo => ?_
    rintro rfl
    exact hfifo.size
  · exact fun hops => eachStep_of_invariant Holds _ _ (fun s op h hop => (fifo_step h op hop).1)
      (fun s op h hop => (fifo_step h op hop).2) _ ops holds_create hops

def frameOfOne : Frame := { (default : Frame) with codecFrame := { size := 1 } }

/-- After a restart the rest of the chunk is read that was the current one. -/
theorem not_fifo_restart : ¬ ∀ ops : List BufferOp, EachStep loggedStep
    (fun s op => Fifo s.2 op (bufferStep s.1 op).1 (bufferStep s.1 op).2) (bufferCreate, {}) ops := by
  intro h
  obtain ⟨-, -, -, hlast, -⟩ := h [.audioWrite [1, 2], .frameRead frameOfOne, .restart, .frameRead frameOfOne]
  exact absurd (hlast.frame frameOfOne rfl) (by decide)

end UniMrcp.Mpf
