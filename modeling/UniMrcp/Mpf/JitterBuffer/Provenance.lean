import UniMrcp.Mpf.JitterBuffer

/-!
# Where the frames of the jitter buffer come from

A history of the jitter buffer beside its state: for what is in each slot, the playout position it was written for and
the number of restarts before.
-/

namespace UniMrcp.Mpf

open Lib

/-! ## The history -/

/-- The origin of a stored frame: the restarts before it was written, and its number in playout order. -/
structure Stamp where
  epoch : Nat
  number : Nat
  deriving DecidableEq

structure SlotStamps where
  audio : Option Stamp := none
  event : Option Stamp := none
  marker : Option Stamp := none
  deriving DecidableEq

structure Stamped where
  jb : JitterBuffer
  epoch : Nat
  stamps : Nat → SlotStamps

def Stamped.new (jb : JitterBuffer) : Stamped := { jb := jb, epoch := 0, stamps := fun _ => {} }

def JitterBuffer.frameNumber (jb : JitterBuffer) (ts : UInt32) : Nat := ts.toNat / jb.frameTs.toNat

/-- The positions visited by the fill loop, each with whether a frame is stored there. -/
def fillVisits : Nat → JitterBuffer → Bytes → UInt32 → List (UInt32 × Bool)
  | 0, _, _, _ => []
  | availableFrameCount + 1, jb, buffer, writeTs =>
    if buffer = [] then []
    else
      match codecDissect jb.codec buffer (jb.codecFrameGet writeTs) with
      | none => [(writeTs, false)]
      | some (buffer, codecFrame) =>
        (writeTs, true) ::
          fillVisits availableFrameCount (jb.audioSet writeTs codecFrame) buffer (writeTs + jb.frameTs)

/-- The positions that `jitterBufferWrite` visits. -/
def writeVisits (jb : JitterBuffer) (buffer : Bytes) (ts : UInt32) (marker : Bool) : List (UInt32 × Bool) :=
  match jitterBufferWritePosition jb ts marker with
  | (_, none) => []
  | (jb, some writeTs) => fillVisits (jb.availableFrameCount writeTs) jb buffer writeTs

/-- The position that `jitterBufferEventWrite` stores at, and whether it marks a new event. -/
def eventVisit (jb : JitterBuffer) (namedEvent : NamedEventFrame) (ts : UInt32) (marker : Bool) :
    Option (UInt32 × Bool) :=
  match jitterBufferEventPosition jb namedEvent ts marker with
  | (_, _, .error _) => none
  | (_, marker, .ok writeTs) => some (writeTs, marker)

namespace Stamped

variable (t : Stamped)

def stampAt (ts : UInt32) : Stamp := { epoch := t.epoch, number := t.jb.frameNumber ts }

/-- The history after audio frames were stored at the positions visited. -/
def stampAudio (stamps : Nat → SlotStamps) : List (UInt32 × Bool) → Nat → SlotStamps
  | [] => stamps
  | (_, false) :: visits => stampAudio stamps visits
  | (ts, true) :: visits =>
    stampAudio (Function.update stamps (t.jb.frameIndex ts)
      { stamps (t.jb.frameIndex ts) with audio := some (t.stampAt ts) }) visits

def stampEvent (namedEvent : NamedEventFrame) : Option (UInt32 × Bool) → Nat → SlotStamps
  | none => t.stamps
  | some (ts, marker) =>
    Function.update t.stamps (t.jb.frameIndex ts)
      { t.stamps (t.jb.frameIndex ts) with
        event := some (t.stampAt ts)
        marker := if marker ∨ namedEvent.edge then some (t.stampAt ts)
          else (t.stamps (t.jb.frameIndex ts)).marker }

def stampsAfter : JbOp → Nat → SlotStamps
  | .write buffer ts marker => t.stampAudio t.stamps (writeVisits t.jb buffer ts marker)
  | .eventWrite namedEvent ts marker => t.stampEvent namedEvent (eventVisit t.jb namedEvent ts marker)
  | .read _ => Function.update t.stamps (t.jb.frameIndex t.jb.readTs) {}
  | .restart => t.stamps

/-- The origins of what an operation returns: those of the slot a normal read visits. -/
def stampsOut : JbOp → SlotStamps
  | .read _ => if t.jb.writeTs > t.jb.readTs then t.stamps (t.jb.frameIndex t.jb.readTs) else {}
  | _ => {}

end Stamped

/-- One operation, with its history; it returns the origins along with its result. -/
def stampedStep (t : Stamped) (op : JbOp) : Stamped × (JbOut × SlotStamps) :=
  ({ jb := (jitterBufferStep t.jb op).1
     epoch := if op = .restart then t.epoch + 1 else t.epoch
     stamps := t.stampsAfter op },
    ((jitterBufferStep t.jb op).2, t.stampsOut op))

@[simp] theorem stampedStep_jb (t : Stamped) (op : JbOp) :
    (stampedStep t op).1.jb = (jitterBufferStep t.jb op).1 := rfl

theorem run_stampedStep_jb (t : Stamped) (ops : List JbOp) :
    (run stampedStep t ops).1.jb = (run jitterBufferStep t.jb ops).1 ∧
      (run stampedStep t ops).2.map Prod.fst = (run jitterBufferStep t.jb ops).2 := by
  induction ops generalizing t with
  | nil => exact ⟨rfl, rfl⟩
  | cons op ops ih =>
    obtain ⟨hj, ho⟩ := ih (stampedStep t op).1
    exact ⟨hj, congrArg (_ :: ·) ho⟩

/-! ## What computing a position leaves unchanged -/

/-- Two states with the same frames, pointers and dimensions. -/
structure SameStore (a b : JitterBuffer) : Prop where
  config : b.config = a.config
  codec : b.codec = a.codec
  frames : b.frames = a.frames
  frameCount : b.frameCount = a.frameCount
  frameTs : b.frameTs = a.frameTs
  frameSize : b.frameSize = a.frameSize
  maxPlayoutDelayTs : b.maxPlayoutDelayTs = a.maxPlayoutDelayTs
  writeTs : b.writeTs = a.writeTs
  readTs : b.readTs = a.readTs

namespace SameStore

variable {a b c : JitterBuffer}

theorem refl (a : JitterBuffer) : SameStore a a := ⟨rfl, rfl, rfl, rfl, rfl, rfl, rfl, rfl, rfl⟩

theorem trans (h : SameStore a b) (h' : SameStore b c) : SameStore a c :=
  ⟨h'.config.trans h.config, h'.codec.trans h.codec, h'.frames.trans h.frames, h'.frameCount.trans h.frameCount,
    h'.frameTs.trans h.frameTs, h'.frameSize.trans h.frameSize,
    h'.maxPlayoutDelayTs.trans h.maxPlayoutDelayTs, h'.writeTs.trans h.writeTs, h'.readTs.trans h.readTs⟩

theorem frameIndex (h : SameStore a b) (ts : UInt32) : b.frameIndex ts = a.frameIndex ts := by
  simp [JitterBuffer.frameIndex, h.frameTs, h.frameCount]

theorem frameNumber (h : SameStore a b) (ts : UInt32) : b.frameNumber ts = a.frameNumber ts := by
  simp [JitterBuffer.frameNumber, h.frameTs]

theorem availableFrameCount (h : SameStore a b) (ts : UInt32) :
    b.availableFrameCount ts = a.availableFrameCount ts := by
  simp [JitterBuffer.availableFrameCount, h.frameTs, h.frameCount, h.readTs]

end SameStore

section Positions

variable (jb : JitterBuffer)

variable (ts : UInt32)

theorem synchronize_sameStore : SameStore jb (jb.synchronize ts) := by
  unfold JitterBuffer.synchronize
  dsimp only
  split_ifs <;> exact ⟨rfl, rfl, rfl, rfl, rfl, rfl, rfl, rfl, rfl⟩

theorem jitterBufferWritePrepare_sameStore : SameStore jb (jitterBufferWritePrepare jb ts).1 := by
  unfold jitterBufferWritePrepare
  split_ifs
  · exact synchronize_sameStore jb ts
  · exact SameStore.refl jb

theorem jitterBufferSkewAdjust_sameStore (ts writeTs deltaTs : UInt32) :
    SameStore jb (jitterBufferSkewAdjust jb ts writeTs deltaTs).1 := by
  unfold jitterBufferSkewAdjust
  split_ifs <;> exact ⟨rfl, rfl, rfl, rfl, rfl, rfl, rfl, rfl, rfl⟩

theorem jitterBufferDelayAdjust_sameStore (writeTs deltaTs : UInt32) :
    SameStore jb (jitterBufferDelayAdjust jb writeTs deltaTs).1 := by
  unfold jitterBufferDelayAdjust
  dsimp only
  split_ifs <;> exact ⟨rfl, rfl, rfl, rfl, rfl, rfl, rfl, rfl, rfl⟩

theorem jitterBufferLateAdjust_sameStore (ts writeTs : UInt32) :
    SameStore jb (jitterBufferLateAdjust jb ts writeTs).1 := by
  unfold jitterBufferLateAdjust
  split_ifs
  · exact (jitterBufferSkewAdjust_sameStore jb ts writeTs _).trans (jitterBufferDelayAdjust_sameStore _ _ _)
  · exact jitterBufferDelayAdjust_sameStore _ _ _

theorem resync_sameStore (marker : Bool) : SameStore jb (jb.resync marker) := by
  unfold JitterBuffer.resync
  split_ifs <;> exact ⟨rfl, rfl, rfl, rfl, rfl, rfl, rfl, rfl, rfl⟩

theorem jitterBufferWritePosition_sameStore (marker : Bool) :
    SameStore jb (jitterBufferWritePosition jb ts marker).1 := by
  have hp := (resync_sameStore jb marker).trans (jitterBufferWritePrepare_sameStore _ ts)
  unfold jitterBufferWritePosition
  dsimp only
  split_ifs
  · exact hp
  · exact hp
  · exact hp.trans (jitterBufferLateAdjust_sameStore _ ts _)

variable (namedEvent : NamedEventFrame)

theorem eventStart_sameStore (writeTs : UInt32) :
    SameStore jb (jb.eventStart namedEvent writeTs) := ⟨rfl, rfl, rfl, rfl, rfl, rfl, rfl, rfl, rfl⟩

theorem jitterBufferEventDetect_sameStore (writeTs : UInt32) (marker : Bool) :
    SameStore jb (jitterBufferEventDetect jb namedEvent writeTs marker).1 := by
  have hs := eventStart_sameStore jb namedEvent writeTs
  unfold jitterBufferEventDetect
  cases jb.eventUpdate with
  | none => cases marker <;> exact hs
  | some update =>
    dsimp only
    split_ifs
    · exact hs
    · exact hs
    · exact hs
    · exact hs
    · exact SameStore.refl jb

theorem jitterBufferEventPlace_sameStore (writeTs : UInt32) (marker : Bool) :
    SameStore jb (jitterBufferEventPlace jb writeTs marker).1 := by
  unfold jitterBufferEventPlace
  dsimp only
  split_ifs <;> exact ⟨rfl, rfl, rfl, rfl, rfl, rfl, rfl, rfl, rfl⟩

theorem jitterBufferEventPosition_sameStore (ts : UInt32) (marker : Bool) :
    SameStore jb (jitterBufferEventPosition jb namedEvent ts marker).1 := by
  have hp := jitterBufferWritePrepare_sameStore jb ts
  have hd := hp.trans (jitterBufferEventDetect_sameStore (jitterBufferWritePrepare jb ts).1 namedEvent
    (jitterBufferWritePrepare jb ts).2 marker)
  unfold jitterBufferEventPosition
  dsimp only
  generalize jitterBufferEventDetect (jitterBufferWritePrepare jb ts).1 namedEvent
    (jitterBufferWritePrepare jb ts).2 marker = detected at hd ⊢
  obtain ⟨jb', _ | update⟩ := detected
  · exact hd.trans (jitterBufferEventPlace_sameStore jb' _ true)
  · dsimp only
    split_ifs
    · exact hd
    · exact hd.trans (jitterBufferEventPlace_sameStore jb' _ false)

end Positions

/-! ## The operations -/

section Operations

variable (jb : JitterBuffer)

theorem writeAdvance_eq (writeTs : UInt32) : ∃ ts, jb.writeAdvance writeTs = { jb with writeTs := ts } := by
  unfold JitterBuffer.writeAdvance
  split_ifs
  · exact ⟨writeTs, rfl⟩
  · exact ⟨jb.writeTs, rfl⟩

theorem jitterBufferFill_eq (n : Nat) (buffer : Bytes) (writeTs : UInt32) :
    ∃ frames, (jitterBufferFill n jb buffer writeTs).1 = { jb with frames := frames } := by
  induction n generalizing jb buffer writeTs with
  | zero => exact ⟨jb.frames, rfl⟩
  | succ n ih =>
    by_cases hb : buffer = []
    · exact ⟨jb.frames, by simp [jitterBufferFill, hb]⟩
    · simp only [jitterBufferFill, if_neg hb]
      cases codecDissect jb.codec buffer (jb.codecFrameGet writeTs) with
      | none => exact ⟨_, rfl⟩
      | some out =>
        obtain ⟨frames, h⟩ := ih (jb.audioSet writeTs out.2) out.1 (writeTs + jb.frameTs)
        exact ⟨frames, h⟩

theorem jitterBufferFill_frames_of_not_visited (n : Nat) (buffer : Bytes) (writeTs : UInt32) {i : Nat}
    (h : ∀ v ∈ fillVisits n jb buffer writeTs, jb.frameIndex v.1 ≠ i) :
    (jitterBufferFill n jb buffer writeTs).1.frames i = jb.frames i := by
  induction n generalizing jb buffer writeTs with
  | zero => rfl
  | succ n ih =>
    by_cases hb : buffer = []
    · simp [jitterBufferFill, hb]
    · simp only [fillVisits, if_neg hb] at h
      simp only [jitterBufferFill, if_neg hb]
      cases hd : codecDissect jb.codec buffer (jb.codecFrameGet writeTs) with
      | none =>
        rw [hd] at h
        exact Function.update_of_ne (h (writeTs, false) (by simp)).symm _ _
      | some out =>
        rw [hd] at h
        have hr := ih (jb.audioSet writeTs out.2) out.1 (writeTs + jb.frameTs)
          fun v hv => h v (List.mem_cons_of_mem _ hv)
        exact hr.trans (Function.update_of_ne (h (writeTs, true) (by simp)).symm _ _)

theorem jitterBufferWrite_cases (buffer : Bytes) (ts : UInt32) (marker : Bool) :
    ∃ jb', SameStore jb jb' ∧
      (((jitterBufferWritePosition jb ts marker).2 = none ∧
          jitterBufferWrite jb buffer ts marker = (jb', .discardTooLate) ∧
          writeVisits jb buffer ts marker = []) ∨
        ∃ writeTs, (jitterBufferWritePosition jb ts marker).2 = some writeTs ∧
          ((jb.availableFrameCount writeTs = 0 ∧
              jitterBufferWrite jb buffer ts marker = (jb', .discardTooEarly) ∧
              writeVisits jb buffer ts marker = []) ∨
            (jb.availableFrameCount writeTs ≠ 0 ∧
              jitterBufferWrite jb buffer ts marker =
                ((jitterBufferFill (jb.availableFrameCount writeTs) jb' buffer writeTs).1.writeAdvance
                  (jitterBufferFill (jb.availableFrameCount writeTs) jb' buffer writeTs).2, .ok) ∧
              writeVisits jb buffer ts marker =
                fillVisits (jb.availableFrameCount writeTs) jb' buffer writeTs))) := by
  have hs := jitterBufferWritePosition_sameStore jb ts marker
  refine ⟨_, hs, ?_⟩
  unfold jitterBufferWrite writeVisits jitterBufferPlace
  generalize jitterBufferWritePosition jb ts marker = place at hs ⊢
  obtain ⟨jb', _ | writeTs⟩ := place
  · exact Or.inl ⟨rfl, rfl, rfl⟩
  · refine Or.inr ⟨writeTs, rfl, ?_⟩
    have ha : jb'.availableFrameCount writeTs = jb.availableFrameCount writeTs := hs.availableFrameCount writeTs
    dsimp only
    rw [ha]
    by_cases h0 : jb.availableFrameCount writeTs = 0
    · refine Or.inl ⟨h0, ?_, ?_⟩
      · rw [h0, if_pos (Nat.le_refl 0)]
      · rw [h0]; rfl
    · exact Or.inr ⟨h0, by rw [if_neg (by omega)], rfl⟩

theorem jitterBufferEventWrite_cases (namedEvent : NamedEventFrame) (ts : UInt32) (marker : Bool) :
    ∃ jb', SameStore jb jb' ∧
      ((∃ result, jitterBufferEventWrite jb namedEvent ts marker = (jb', result) ∧
          eventVisit jb namedEvent ts marker = none) ∨
        ∃ writeTs isNew, (jitterBufferEventPosition jb namedEvent ts marker).2 = (isNew, .ok writeTs) ∧
          jitterBufferEventWrite jb namedEvent ts marker =
            ((jb'.eventSet writeTs namedEvent isNew).writeAdvance (writeTs + jb'.frameTs), .ok) ∧
          eventVisit jb namedEvent ts marker = some (writeTs, isNew)) := by
  have hs := jitterBufferEventPosition_sameStore jb namedEvent ts marker
  refine ⟨_, hs, ?_⟩
  unfold jitterBufferEventWrite eventVisit
  generalize jitterBufferEventPosition jb namedEvent ts marker = place
  obtain ⟨jb', isNew, result | writeTs⟩ := place
  · exact Or.inl ⟨result, rfl, rfl⟩
  · exact Or.inr ⟨writeTs, isNew, rfl, rfl, rfl⟩

theorem jitterBufferStatUpdate_sameStore : SameStore jb (jitterBufferStatUpdate jb) := by
  unfold jitterBufferStatUpdate
  dsimp only
  split <;> split_ifs <;> exact ⟨rfl, rfl, rfl, rfl, rfl, rfl, rfl, rfl, rfl⟩

theorem jitterBufferRead_sameStore (mediaFrame : Frame) :
    SameStore jb.readAdvance (jitterBufferRead jb mediaFrame).1 := by
  unfold jitterBufferRead
  dsimp only
  split_ifs
  · exact jitterBufferStatUpdate_sameStore jb.readAdvance
  · exact SameStore.refl jb.readAdvance

structure SameDims (a b : JitterBuffer) : Prop where
  config : b.config = a.config
  codec : b.codec = a.codec
  frameCount : b.frameCount = a.frameCount
  frameTs : b.frameTs = a.frameTs
  frameSize : b.frameSize = a.frameSize
  maxPlayoutDelayTs : b.maxPlayoutDelayTs = a.maxPlayoutDelayTs

theorem SameStore.dims {a b : JitterBuffer} (h : SameStore a b) : SameDims a b :=
  ⟨h.config, h.codec, h.frameCount, h.frameTs, h.frameSize, h.maxPlayoutDelayTs⟩

def JitterBuffer.readTsAfter (jb : JitterBuffer) : JbOp → UInt32
  | .read _ => jb.readTs + jb.frameTs
  | _ => jb.readTs

theorem jitterBufferStep_dims (op : JbOp) :
    SameDims jb (jitterBufferStep jb op).1 ∧ (jitterBufferStep jb op).1.readTs = jb.readTsAfter op := by
  cases op with
  | write buffer ts marker =>
    obtain ⟨jb', hs, hc⟩ := jitterBufferWrite_cases jb buffer ts marker
    simp only [jitterBufferStep]
    rcases hc with ⟨-, hw, -⟩ | ⟨writeTs, -, ⟨-, hw, -⟩ | ⟨-, hw, -⟩⟩
    · rw [hw]; exact ⟨hs.dims, hs.readTs⟩
    · rw [hw]; exact ⟨hs.dims, hs.readTs⟩
    · obtain ⟨frames, hf⟩ := jitterBufferFill_eq jb' (jb.availableFrameCount writeTs) buffer writeTs
      obtain ⟨ts', ha⟩ := writeAdvance_eq
        (jitterBufferFill (jb.availableFrameCount writeTs) jb' buffer writeTs).1
        (jitterBufferFill (jb.availableFrameCount writeTs) jb' buffer writeTs).2
      rw [hw, ha, hf]
      exact ⟨⟨hs.config, hs.codec, hs.frameCount, hs.frameTs, hs.frameSize, hs.maxPlayoutDelayTs⟩, hs.readTs⟩
  | eventWrite namedEvent ts marker =>
    obtain ⟨jb', hs, hc⟩ := jitterBufferEventWrite_cases jb namedEvent ts marker
    simp only [jitterBufferStep]
    rcases hc with ⟨result, hw, -⟩ | ⟨writeTs, isNew, -, hw, -⟩
    · rw [hw]; exact ⟨hs.dims, hs.readTs⟩
    · obtain ⟨ts', ha⟩ := writeAdvance_eq (jb'.eventSet writeTs namedEvent isNew) (writeTs + jb'.frameTs)
      rw [hw, ha]
      exact ⟨⟨hs.config, hs.codec, hs.frameCount, hs.frameTs, hs.frameSize, hs.maxPlayoutDelayTs⟩, hs.readTs⟩
  | read mediaFrame =>
    have hs := jitterBufferRead_sameStore jb mediaFrame
    exact ⟨⟨hs.config, hs.codec, hs.frameCount, hs.frameTs, hs.frameSize, hs.maxPlayoutDelayTs⟩, hs.readTs⟩
  | restart => exact ⟨⟨rfl, rfl, rfl, rfl, rfl, rfl⟩, rfl⟩

end Operations

end UniMrcp.Mpf
