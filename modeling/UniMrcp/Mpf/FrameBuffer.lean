import UniMrcp.Lib.Ring
import UniMrcp.Lib.Run
import UniMrcp.Mpf.Frame

/-!
# The frame buffer

`mpf_frame_buffer.c`: frames of one size in a cyclic array.
-/

namespace UniMrcp.Mpf

open Lib List UniMrcp.Mpf.Frame

/-! ## Data -/

/-- `mpf_frame_buffer_t`. Each frame holds its part of the raw data. -/
structure FrameBuffer where
  frames : List Frame
  frameSize : Nat
  writePos : Nat := 0
  readPos : Nat := 0
  deriving DecidableEq

/-- `mpf_frame_buffer_create`; the rest of a frame is not initialised, and `blank` is what is there. -/
def frameBufferCreate (blank : Frame) (frameSize frameCount : Nat) : FrameBuffer where
  frames := List.replicate frameCount { blank with type := .none, marker := .none }
  frameSize := frameSize

def frameBufferRestart (buffer : FrameBuffer) : FrameBuffer := { buffer with writePos := buffer.readPos }

/-- The body of the loop of `mpf_frame_buffer_write`: the type and a frame of the data are copied. -/
def frameBufferPut (buffer : FrameBuffer) (frame : Frame) (data : Bytes) : FrameBuffer :=
  { buffer with
    frames := buffer.frames.modify (buffer.writePos % buffer.frames.length) fun writeFrame =>
      { writeFrame with type := frame.type, codecFrame := ⟨data.take buffer.frameSize, buffer.frameSize⟩ }
    writePos := buffer.writePos + 1 }

/-- The loop of `mpf_frame_buffer_write`, with so much room: the buffer, and the size that is left. -/
def frameBufferFill (frame : Frame) : Nat → FrameBuffer → Bytes → Nat → FrameBuffer × Nat
  | 0, buffer, _, size => (buffer, size)
  | room + 1, buffer, data, size =>
    if size < buffer.frameSize then (buffer, size)
    else
      frameBufferFill frame room (frameBufferPut buffer frame data) (data.drop buffer.frameSize) (size - buffer.frameSize)

def frameBufferWrite (buffer : FrameBuffer) (frame : Frame) : FrameBuffer × Bool :=
  let r := frameBufferFill frame (buffer.frames.length - (buffer.writePos - buffer.readPos)) buffer
    frame.codecFrame.buffer frame.codecFrame.size
  (r.1, r.2 == 0)

/-- What `mpf_frame_buffer_read` copies of a frame into the one that it is given. -/
def frameCopy (mediaFrame src : Frame) : Frame where
  type := src.type
  marker := src.marker
  codecFrame := if src.type.audio then src.codecFrame else mediaFrame.codecFrame
  eventFrame := if src.type.event then src.eventFrame else mediaFrame.eventFrame

def frameBufferRead (buffer : FrameBuffer) (mediaFrame : Frame) : FrameBuffer × Frame :=
  match if buffer.readPos < buffer.writePos then buffer.frames[buffer.readPos % buffer.frames.length]? else none with
  | some src =>
    ({ buffer with
      frames := buffer.frames.set (buffer.readPos % buffer.frames.length) { src with type := .none, marker := .none }
      readPos := buffer.readPos + 1 }, frameCopy mediaFrame src)
  | none => (buffer, { mediaFrame with type := .none, marker := .none })

inductive FrameBufferOp
  | write (frame : Frame)
  /-- A read, into this frame. -/
  | read (mediaFrame : Frame)
  | restart
  deriving DecidableEq

/-- What a call gives back: whether a write succeeds, and the frame that was read. -/
abbrev FrameBufferResult := Option (Bool ⊕ Frame)

def frameBufferStep (buffer : FrameBuffer) : FrameBufferOp → FrameBuffer × FrameBufferResult
  | .write frame => ((frameBufferWrite buffer frame).1, some (.inl (frameBufferWrite buffer frame).2))
  | .read mediaFrame => ((frameBufferRead buffer mediaFrame).1, some (.inr (frameBufferRead buffer mediaFrame).2))
  | .restart => (frameBufferRestart buffer, none)

/-- So many frames of a size, cut from the data of a frame, with all its other parts. -/
def Frame.cut (frame : Frame) (frameSize : Nat) : Nat → Bytes → List Frame
  | 0, _ => []
  | count + 1, data =>
    { frame with codecFrame := ⟨data.take frameSize, frameSize⟩ } :: frame.cut frameSize count (data.drop frameSize)

def Frame.frames (frame : Frame) (frameSize : Nat) : List Frame :=
  frame.cut frameSize (frame.codecFrame.size / frameSize) frame.codecFrame.buffer

/-- The queue of frames that the buffer stands for: those of a write are accepted while there is room. -/
def frameFifoStep (frameSize frameCount : Nat) (queue : List Frame) : FrameBufferOp → List Frame × FrameBufferResult
  | .write frame =>
    (queue ++ (frame.frames frameSize).take (frameCount - queue.length),
      some (.inl (queue.length + (frame.frames frameSize).length ≤ frameCount)))
  | .read mediaFrame =>
    (queue.tail, some (.inr ((queue.head?.map (frameCopy mediaFrame)).getD
      { mediaFrame with type := .none, marker := .none })))
  | .restart => ([], none)

/-- **The condition on a write**: it has whole frames and at least one, has no event and no marker. -/
def Plain : FrameBufferOp → Prop
  | .write frame => frame.codecFrame.size ≠ 0 ∧ frame.type.event = false ∧ frame.marker = .none
  | _ => True

def Whole (frameSize : Nat) : FrameBufferOp → Prop
  | .write frame => frameSize ∣ frame.codecFrame.size
  | _ => True

/-! ## The invariant -/

def Frame.plain (frame : Frame) : Frame := { frame with eventFrame := default }

variable {frameSize frameCount room : Nat} {buffer : FrameBuffer} {queue : List Frame} {frame : Frame}

theorem frameCopy_congr {src : Frame} (h : src.plain = frame.plain) (he : frame.type.event = false)
    (mediaFrame : Frame) : frameCopy mediaFrame src = frameCopy mediaFrame frame := by
  obtain ⟨ht, hm, hc, -⟩ := mk.inj h
  simp [frameCopy, ht, hm, hc, he]

/-- The frames of the queue lie in the array, apart from their events, and the array has no marker. -/
structure Stored (frameSize frameCount : Nat) (buffer : FrameBuffer) (queue : List Frame) : Prop where
  size : buffer.frameSize = frameSize
  count : buffer.frames.length = frameCount
  pos : buffer.writePos = buffer.readPos + queue.length
  unmarked : ∀ frame ∈ buffer.frames, frame.marker = .none
  eventless : ∀ frame ∈ queue, frame.type.event = false
  lies : Lies (buffer.frames.map Frame.plain) buffer.readPos (queue.map Frame.plain)

theorem Stored.length_le (h : Stored frameSize frameCount buffer queue) : queue.length ≤ frameCount := by
  simpa [h.count] using h.lies.length_le

theorem map_plain_modify {frames : List Frame} (h : ∀ frame ∈ frames, frame.marker = .none)
    (hm : frame.marker = .none) (codecFrame : CodecFrame) (k : Nat) :
    (frames.modify k fun writeFrame => { writeFrame with type := frame.type, codecFrame := codecFrame }).map plain =
      (frames.map plain).set k { frame with codecFrame := codecFrame }.plain := by
  refine ext_getElem? fun i => ?_
  rw [List.getElem?_map, List.getElem?_modify, List.getElem?_set, List.getElem?_map, length_map]
  rcases eq_or_ne k i with rfl | hne
  · cases hs : frames[k]? with
    | none => simp [List.getElem?_eq_none_iff.1 hs]
    | some slot =>
      have hlt := (List.getElem?_eq_some_iff.1 hs).1
      simp [hlt, plain, hm, h slot (mem_of_getElem? hs)]
  · simp [hne]

/-- **A frame is stored** if there is room. -/
theorem Stored.put (h : Stored frameSize frameCount buffer queue) (hr : queue.length < frameCount)
    (he : frame.type.event = false) (hm : frame.marker = .none) (data : Bytes) :
    Stored frameSize frameCount (frameBufferPut buffer frame data)
      (queue ++ [{ frame with codecFrame := ⟨data.take frameSize, frameSize⟩ }]) := by
  refine ⟨h.size, by simp [frameBufferPut, h.count], by simp [frameBufferPut, h.pos, Nat.add_assoc], ?_, ?_, ?_⟩
  · intro slot hs
    obtain ⟨i, hi⟩ := mem_iff_getElem?.1 hs
    simp only [frameBufferPut, List.getElem?_modify, Option.map_eq_map, Option.map_eq_some_iff] at hi
    obtain ⟨old, ho, rfl⟩ := hi
    have := h.unmarked old (mem_of_getElem? ho)
    split_ifs <;> exact this
  · exact forall_mem_append.2 ⟨h.eventless, forall_mem_singleton.2 he⟩
  · have hp := h.lies.push (by simpa [h.count] using hr)
      { frame with codecFrame := ⟨data.take frameSize, frameSize⟩ }.plain
    rw [length_map, length_map, ← h.pos] at hp
    rw [map_append]
    show Lies ((buffer.frames.modify _ _).map plain) buffer.readPos _
    rw [map_plain_modify h.unmarked hm, h.size]
    exact hp

theorem length_cut (frame : Frame) (frameSize : Nat) (data : Bytes) (count : Nat) :
    (frame.cut frameSize count data).length = count := by
  induction count generalizing data with
  | zero => rfl
  | succ count ih => rw [Frame.cut, length_cons, ih]

theorem Stored.fill (h : Stored frameSize frameCount buffer queue) (hs : 0 < frameSize)
    (he : frame.type.event = false) (hm : frame.marker = .none) (data : Bytes) (count : Nat)
    (hr : room = frameCount - queue.length) :
    Stored frameSize frameCount (frameBufferFill frame room buffer data (count * frameSize)).1
        (queue ++ (frame.cut frameSize count data).take room) ∧
      ((frameBufferFill frame room buffer data (count * frameSize)).2 = 0 ↔ count ≤ room) := by
  induction room generalizing buffer queue data count with
  | zero => exact ⟨by simpa [frameBufferFill] using h, by simp [frameBufferFill, hs.ne']⟩
  | succ room ih =>
    rw [frameBufferFill, h.size]
    cases count with
    | zero => exact ⟨by simpa [hs, Frame.cut] using h, by simp [hs]⟩
    | succ count =>
      have hn : ¬(count + 1) * frameSize < frameSize := Nat.not_lt.2 (Nat.le_mul_of_pos_left _ (Nat.succ_pos _))
      have hl : (count + 1) * frameSize - frameSize = count * frameSize := by rw [Nat.succ_mul, Nat.add_sub_cancel]
      have hp := h.put (by omega) he hm data
      obtain ⟨ht, ha⟩ := ih hp (data.drop frameSize) count (by simp; omega)
      rw [if_neg hn, hl, Frame.cut, take_succ_cons]
      rw [append_assoc, singleton_append] at ht
      exact ⟨ht, ha.trans Nat.succ_le_succ_iff.symm⟩

theorem Stored.write (h : Stored frameSize frameCount buffer queue) (hz : 0 < frameSize)
    (hw : Whole frameSize (.write frame)) (hp : Plain (.write frame)) :
    Stored frameSize frameCount (frameBufferWrite buffer frame).1
        (queue ++ (frame.frames frameSize).take (frameCount - queue.length)) ∧
      (frameBufferWrite buffer frame).2 = decide (queue.length + (frame.frames frameSize).length ≤ frameCount) := by
  have hr : buffer.frames.length - (buffer.writePos - buffer.readPos) = frameCount - queue.length := by
    rw [h.count, h.pos, Nat.add_sub_cancel_left]
  have hle := h.length_le
  obtain ⟨hs, ha⟩ := h.fill hz hp.2.1 hp.2.2 frame.codecFrame.buffer
    (frame.codecFrame.size / frameSize) rfl
  rw [Nat.div_mul_cancel hw] at hs ha
  unfold frameBufferWrite
  rw [hr]
  refine ⟨hs, Bool.eq_iff_iff.2 ?_⟩
  rw [beq_iff_eq, ha, decide_eq_true_iff, Frame.frames, length_cut]
  omega

theorem Stored.read (h : Stored frameSize frameCount buffer queue) (mediaFrame : Frame) :
    Stored frameSize frameCount (frameBufferRead buffer mediaFrame).1 queue.tail ∧
      (frameBufferRead buffer mediaFrame).2 =
        (queue.head?.map (frameCopy mediaFrame)).getD { mediaFrame with type := .none, marker := .none } := by
  unfold frameBufferRead
  cases queue with
  | nil =>
    rw [if_neg (by simp [h.pos])]
    exact ⟨h, rfl⟩
  | cons frame queue =>
    obtain ⟨hr, hf, hrs⟩ := lies_cons.1 h.lies
    rw [length_map, List.getElem?_map, Option.map_eq_some_iff] at hf
    obtain ⟨src, hs, hp⟩ := hf
    have hm := h.unmarked src (mem_of_getElem? hs)
    obtain ⟨hv, he⟩ := forall_mem_cons.1 h.eventless
    rw [if_pos (by rw [h.pos, length_cons]; omega), hs]
    refine ⟨⟨h.size, by simpa using h.count, ?_, ?_, he, ?_⟩, frameCopy_congr hp hv mediaFrame⟩
    · show buffer.writePos = buffer.readPos + 1 + queue.length
      rw [h.pos, length_cons]
      omega
    · intro slot hl
      rcases mem_or_eq_of_mem_set hl with hl | rfl
      · exact h.unmarked slot hl
      · rfl
    · have ht := hrs.set hr { src with type := .none, marker := .none }.plain
      rw [length_map] at ht
      rwa [map_set]

theorem Stored.step (h : Stored frameSize frameCount buffer queue) (hz : 0 < frameSize) {op : FrameBufferOp}
    (hw : Whole frameSize op) (hp : Plain op) :
    Stored frameSize frameCount (frameBufferStep buffer op).1 (frameFifoStep frameSize frameCount queue op).1 ∧
      (frameBufferStep buffer op).2 = (frameFifoStep frameSize frameCount queue op).2 := by
  cases op with
  | write frame =>
    obtain ⟨hs, hr⟩ := h.write hz hw hp
    exact ⟨hs, congrArg (some ∘ Sum.inl) hr⟩
  | read mediaFrame =>
    obtain ⟨hs, hr⟩ := h.read mediaFrame
    exact ⟨hs, congrArg (some ∘ Sum.inr) hr⟩
  | restart => exact ⟨⟨h.size, h.count, rfl, h.unmarked, nofun, lies_nil _ _⟩, rfl⟩

theorem stored_create (blank : Frame) (frameSize frameCount : Nat) :
    Stored frameSize frameCount (frameBufferCreate blank frameSize frameCount) [] where
  size := rfl
  count := length_replicate
  pos := rfl
  unmarked _ hf := by rw [eq_of_mem_replicate hf]
  eventless := nofun
  lies := lies_nil _ _

def oneByte : Frame := ⟨{ audio := true }, .none, ⟨[1], 1⟩, default⟩

end UniMrcp.Mpf
