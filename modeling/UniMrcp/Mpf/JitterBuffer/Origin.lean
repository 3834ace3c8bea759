import UniMrcp.Mpf.JitterBuffer

/-!
# The origin of RTP timestamps

The jitter buffer sees an RTP timestamp only through its distance to the write offset, which is taken from the first
timestamp after each synchronization.
-/

namespace UniMrcp.Mpf

open Lib JitterBuffer

/-! ## Operations that do not look at the offset -/

def JitterBuffer.withOffset (jb : JitterBuffer) (offset : Int32) : JitterBuffer :=
  { jb with writeTsOffset := offset }

/-- The operation with every RTP timestamp moved by `c`. -/
def JbOp.shift (c : UInt32) : JbOp → JbOp
  | .write buffer ts marker => .write buffer (ts + c) marker
  | .eventWrite namedEvent ts marker => .eventWrite namedEvent (ts + c) marker
  | .read mediaFrame => .read mediaFrame
  | .restart => .restart

section WithOffset

variable (jb : JitterBuffer) (offset : Int32)

theorem jitterBufferFill_withOffset (n : Nat) (buffer : Bytes) (writeTs : UInt32) :
    jitterBufferFill n (jb.withOffset offset) buffer writeTs =
      ((jitterBufferFill n jb buffer writeTs).1.withOffset offset, (jitterBufferFill n jb buffer writeTs).2) := by
  induction n generalizing jb buffer writeTs with
  | zero => rfl
  | succ n ih =>
    by_cases hb : buffer = []
    · simp [jitterBufferFill, hb]
    · have hd : codecDissect (jb.withOffset offset).codec buffer ((jb.withOffset offset).codecFrameGet writeTs) =
          codecDissect jb.codec buffer (jb.codecFrameGet writeTs) := rfl
      simp only [jitterBufferFill, if_neg hb, hd]
      cases codecDissect jb.codec buffer (jb.codecFrameGet writeTs) with
      | none => rfl
      | some out => exact ih (jb.audioSet writeTs out.2) out.1 (writeTs + jb.frameTs)

variable (writeTs : UInt32)

theorem writeAdvance_withOffset :
    (jb.withOffset offset).writeAdvance writeTs = (jb.writeAdvance writeTs).withOffset offset := by
  cases jb
  unfold writeAdvance withOffset
  split_ifs <;> rfl

theorem jitterBufferPlace_withOffset (buffer : Bytes) (writeTs : UInt32) :
    jitterBufferPlace (jb.withOffset offset) buffer writeTs =
      ((jitterBufferPlace jb buffer writeTs).1.withOffset offset, (jitterBufferPlace jb buffer writeTs).2) := by
  have ha : (jb.withOffset offset).availableFrameCount writeTs = jb.availableFrameCount writeTs := rfl
  unfold jitterBufferPlace
  rw [ha]
  split_ifs
  · rfl
  · rw [jitterBufferFill_withOffset]
    dsimp only
    rw [writeAdvance_withOffset]

theorem jitterBufferDelayAdjust_withOffset (writeTs deltaTs : UInt32) :
    jitterBufferDelayAdjust (jb.withOffset offset) writeTs deltaTs =
      ((jitterBufferDelayAdjust jb writeTs deltaTs).1.withOffset offset,
        (jitterBufferDelayAdjust jb writeTs deltaTs).2) := by
  cases jb
  unfold jitterBufferDelayAdjust withOffset
  dsimp only
  split_ifs <;> rfl

theorem jitterBufferEventDetect_withOffset (namedEvent : NamedEventFrame) (writeTs : UInt32) (marker : Bool) :
    jitterBufferEventDetect (jb.withOffset offset) namedEvent writeTs marker =
      ((jitterBufferEventDetect jb namedEvent writeTs marker).1.withOffset offset,
        (jitterBufferEventDetect jb namedEvent writeTs marker).2) := by
  have he : (jb.withOffset offset).eventUpdate = jb.eventUpdate := rfl
  unfold jitterBufferEventDetect
  rw [he]
  cases jb.eventUpdate with
  | none => cases marker <;> rfl
  | some update =>
    cases jb
    unfold withOffset
    dsimp only
    split_ifs <;> rfl

theorem jitterBufferEventPlace_withOffset (marker : Bool) :
    jitterBufferEventPlace (jb.withOffset offset) writeTs marker =
      ((jitterBufferEventPlace jb writeTs marker).1.withOffset offset,
        (jitterBufferEventPlace jb writeTs marker).2) := by
  cases jb
  unfold jitterBufferEventPlace withOffset
  dsimp only
  split_ifs <;> rfl

theorem jitterBufferStatUpdate_withOffset :
    jitterBufferStatUpdate (jb.withOffset offset) = (jitterBufferStatUpdate jb).withOffset offset := by
  cases jb
  unfold jitterBufferStatUpdate withOffset
  dsimp only
  split <;> split_ifs <;> rfl

theorem readAdvance_withOffset : (jb.withOffset offset).readAdvance = jb.readAdvance.withOffset offset := rfl

variable (mediaFrame : Frame)

theorem jitterBufferRead_withOffset :
    jitterBufferRead (jb.withOffset offset) mediaFrame =
      ((jitterBufferRead jb mediaFrame).1.withOffset offset, (jitterBufferRead jb mediaFrame).2) := by
  refine Prod.ext ?_ rfl
  unfold jitterBufferRead
  by_cases hs : jb.config.timeSkewDetection
  · rw [if_pos hs, if_pos (show (jb.withOffset offset).config.timeSkewDetection = true from hs),
      readAdvance_withOffset, jitterBufferStatUpdate_withOffset]
  · rw [if_neg hs, if_neg (show ¬(jb.withOffset offset).config.timeSkewDetection = true from hs),
      readAdvance_withOffset]

theorem jitterBufferRead_writeSync : (jitterBufferRead jb mediaFrame).1.writeSync = jb.writeSync := by
  cases jb
  unfold jitterBufferRead jitterBufferStatUpdate readAdvance frameSet
  dsimp only
  split <;> try rfl
  split <;> split_ifs <;> rfl

end WithOffset

/-! ## Two buffers with offsets apart -/

variable {c : UInt32} {a b : JitterBuffer}

/-- The second buffer is the first one with its offset moved by `c`. -/
def Shifted (c : UInt32) (a b : JitterBuffer) : Prop :=
  ∃ offset : Int32, b = a.withOffset offset ∧ offset.toUInt32 = a.writeTsOffset.toUInt32 + c

/-- The second buffer is the first one with its offset moved by `c`, or about to be computed anew. -/
def Alike (c : UInt32) (a b : JitterBuffer) : Prop :=
  ∃ offset : Int32, b = a.withOffset offset ∧
    (a.writeSync ∨ offset.toUInt32 = a.writeTsOffset.toUInt32 + c)

theorem Shifted.alike (h : Shifted c a b) : Alike c a b := by
  obtain ⟨offset, rfl, ho⟩ := h
  exact ⟨offset, rfl, Or.inr ho⟩

theorem Shifted.map {β : Type*} {f : JitterBuffer → JitterBuffer × β}
    (hf : ∀ jb offset, f (jb.withOffset offset) = ((f jb).1.withOffset offset, (f jb).2)) (h : Shifted c a b) :
    Shifted c (f a).1 (f b).1 ∧ (f b).2 = (f a).2 := by
  obtain ⟨offset, rfl, ho⟩ := h
  have hof : (f a).1.writeTsOffset = a.writeTsOffset :=
    congrArg (fun out => out.1.writeTsOffset) (hf a a.writeTsOffset)
  rw [hf]
  exact ⟨⟨offset, rfl, by rw [hof]; exact ho⟩, rfl⟩

theorem Shifted.tsPosition (h : Shifted c a b) (ts : UInt32) : b.tsPosition (ts + c) = a.tsPosition ts := by
  obtain ⟨offset, rfl, ho⟩ := h
  have hd : ts + c - offset.toUInt32 = ts - a.writeTsOffset.toUInt32 := by rw [ho]; grind
  exact congrArg (· + a.playoutDelayTs) hd

variable (ts : UInt32)

theorem synchronize_withOffset (offset : Int32) :
    Shifted c (a.synchronize ts) ((a.withOffset offset).synchronize (ts + c)) := by
  have hd : ts + c - a.readTs = ts - a.readTs + c := by grind
  refine ⟨(ts + c - a.readTs).toInt32, ?_, ?_⟩
  · cases a
    unfold synchronize withOffset
    dsimp only
    split_ifs <;> rfl
  · cases a
    unfold synchronize
    dsimp only at hd ⊢
    split_ifs <;> simpa using hd

theorem jitterBufferWritePrepare_alike (h : Alike c a b) :
    Shifted c (jitterBufferWritePrepare a ts).1 (jitterBufferWritePrepare b (ts + c)).1 ∧
      (jitterBufferWritePrepare b (ts + c)).2 = (jitterBufferWritePrepare a ts).2 := by
  have hs : Shifted c (jitterBufferWritePrepare a ts).1 (jitterBufferWritePrepare b (ts + c)).1 := by
    obtain ⟨offset, rfl, ho⟩ := h
    unfold jitterBufferWritePrepare
    by_cases hs : a.writeSync
    · rw [if_pos hs, if_pos (show (a.withOffset offset).writeSync = true from hs)]
      exact synchronize_withOffset ts offset
    · rw [if_neg hs, if_neg (show ¬(a.withOffset offset).writeSync = true from hs)]
      exact ⟨offset, rfl, ho.resolve_left hs⟩
  refine ⟨hs, ?_⟩
  have hp := hs.tsPosition ts
  obtain ⟨offset, hb, -⟩ := hs
  unfold jitterBufferWritePrepare at hp hb ⊢
  dsimp only at hp hb ⊢
  rw [hp, hb]
  rfl

theorem jitterBufferSkewAdjust_shifted (ts writeTs deltaTs : UInt32) (h : Shifted c a b) :
    Shifted c (jitterBufferSkewAdjust a ts writeTs deltaTs).1 (jitterBufferSkewAdjust b (ts + c) writeTs deltaTs).1 ∧
      (jitterBufferSkewAdjust b (ts + c) writeTs deltaTs).2 = (jitterBufferSkewAdjust a ts writeTs deltaTs).2 := by
  obtain ⟨offset, rfl, ho⟩ := h
  unfold jitterBufferSkewAdjust
  by_cases hm : a.maxLengthTs > 0 ∧ a.maxLengthTs.toUInt32 < a.playoutDelayTs
  · rw [if_pos hm, if_pos (show (a.withOffset offset).maxLengthTs > 0 ∧
      (a.withOffset offset).maxLengthTs.toUInt32 < (a.withOffset offset).playoutDelayTs from hm)]
    have hs : offset.toUInt32 - a.frameAllign (a.playoutDelayTs - a.maxLengthTs.toUInt32) =
        a.writeTsOffset.toUInt32 - a.frameAllign (a.playoutDelayTs - a.maxLengthTs.toUInt32) + c := by
      rw [ho]; grind
    refine (and_iff_left_of_imp fun hh => ?_).2 ⟨(offset.toUInt32 - a.frameAllign (a.playoutDelayTs -
      a.maxLengthTs.toUInt32)).toInt32, rfl, by simpa using hs⟩
    exact Prod.ext (Shifted.tsPosition hh ts) rfl
  · rw [if_neg hm, if_neg (show ¬((a.withOffset offset).maxLengthTs > 0 ∧
      (a.withOffset offset).maxLengthTs.toUInt32 < (a.withOffset offset).playoutDelayTs) from hm)]
    exact ⟨⟨offset, rfl, ho⟩, rfl⟩

theorem jitterBufferLateAdjust_shifted (ts writeTs : UInt32) (h : Shifted c a b) :
    Shifted c (jitterBufferLateAdjust a ts writeTs).1 (jitterBufferLateAdjust b (ts + c) writeTs).1 ∧
      (jitterBufferLateAdjust b (ts + c) writeTs).2 = (jitterBufferLateAdjust a ts writeTs).2 := by
  obtain ⟨hk, heq⟩ := jitterBufferSkewAdjust_shifted ts writeTs (a.readTs - writeTs) h
  have hr : b.readTs = a.readTs := by obtain ⟨_, rfl, -⟩ := h; rfl
  have hc : b.config = a.config := by obtain ⟨_, rfl, -⟩ := h; rfl
  unfold jitterBufferLateAdjust
  rw [hr, hc]
  by_cases hs : a.config.timeSkewDetection
  · rw [if_pos hs, if_pos hs]
    generalize jitterBufferSkewAdjust a ts writeTs (a.readTs - writeTs) = p at hk heq ⊢
    generalize jitterBufferSkewAdjust b (ts + c) writeTs (a.readTs - writeTs) = q at hk heq ⊢
    obtain ⟨a', out⟩ := p
    obtain ⟨b', out'⟩ := q
    obtain rfl : out' = out := heq
    exact hk.map (f := fun jb => jitterBufferDelayAdjust jb _ _)
      fun jb offset => jitterBufferDelayAdjust_withOffset jb offset _ _
  · rw [if_neg hs, if_neg hs]
    exact h.map (f := fun jb => jitterBufferDelayAdjust jb _ _)
      fun jb offset => jitterBufferDelayAdjust_withOffset jb offset _ _

/-! ## The operations -/

variable (marker : Bool)

theorem resync_alike (h : Alike c a b) : Alike c (a.resync marker) (b.resync marker) := by
  obtain ⟨offset, rfl, ho⟩ := h
  unfold resync
  by_cases hm : marker ∧ a.writeTs ≤ a.readTs
  · rw [if_pos hm, if_pos (show marker ∧ (a.withOffset offset).writeTs ≤ (a.withOffset offset).readTs from hm)]
    exact ⟨offset, rfl, Or.inl rfl⟩
  · rw [if_neg hm, if_neg (show ¬(marker ∧ (a.withOffset offset).writeTs ≤ (a.withOffset offset).readTs) from hm)]
    exact ⟨offset, rfl, ho⟩

theorem jitterBufferWritePosition_alike (h : Alike c a b) :
    Shifted c (jitterBufferWritePosition a ts marker).1 (jitterBufferWritePosition b (ts + c) marker).1 ∧
      (jitterBufferWritePosition b (ts + c) marker).2 = (jitterBufferWritePosition a ts marker).2 := by
  have hs := resync_alike marker h
  unfold jitterBufferWritePosition
  dsimp only
  generalize a.resync marker = a' at hs ⊢
  generalize b.resync marker = b' at hs ⊢
  obtain ⟨hp, hps⟩ := jitterBufferWritePrepare_alike ts hs
  rw [hps]
  have hr : (jitterBufferWritePrepare b' (ts + c)).1.readTs = (jitterBufferWritePrepare a' ts).1.readTs := by
    obtain ⟨_, hb, -⟩ := hp; rw [hb]; rfl
  have hw : (jitterBufferWritePrepare b' (ts + c)).1.writeTs = (jitterBufferWritePrepare a' ts).1.writeTs := by
    obtain ⟨_, hb, -⟩ := hp; rw [hb]; rfl
  rw [hr, hw]
  split_ifs
  · exact ⟨hp, rfl⟩
  · exact ⟨hp, rfl⟩
  · exact jitterBufferLateAdjust_shifted ts _ hp

theorem jitterBufferWrite_alike (buffer : Bytes) (ts : UInt32) (marker : Bool) (h : Alike c a b) :
    Shifted c (jitterBufferWrite a buffer ts marker).1 (jitterBufferWrite b buffer (ts + c) marker).1 ∧
      (jitterBufferWrite b buffer (ts + c) marker).2 = (jitterBufferWrite a buffer ts marker).2 := by
  obtain ⟨hs, hp⟩ := jitterBufferWritePosition_alike ts marker h
  unfold jitterBufferWrite
  generalize jitterBufferWritePosition a ts marker = p at hs hp
  generalize jitterBufferWritePosition b (ts + c) marker = q at hs hp
  obtain ⟨a', place⟩ := p
  obtain ⟨b', place'⟩ := q
  obtain rfl : place = place' := hp.symm
  cases place with
  | none => exact ⟨hs, rfl⟩
  | some writeTs =>
    exact hs.map (f := fun jb => jitterBufferPlace jb buffer writeTs)
      fun jb offset => jitterBufferPlace_withOffset jb offset buffer writeTs

/-- Where an event goes that arrives at the position `w` of a prepared buffer. -/
def eventPositioned (namedEvent : NamedEventFrame) (marker : Bool) (w : UInt32) (jb : JitterBuffer) :
    JitterBuffer × Bool × Except JbResult UInt32 :=
  let d := jitterBufferEventDetect jb namedEvent w marker
  d.2.elim ((jitterBufferEventPlace d.1 w true).1, true, (jitterBufferEventPlace d.1 w true).2) fun update =>
    if namedEvent.ignored update then (d.1, false, .error .ok)
    else ((jitterBufferEventPlace d.1 (w + update.duration.toUInt32) false).1, false,
      (jitterBufferEventPlace d.1 (w + update.duration.toUInt32) false).2)

theorem jitterBufferEventPosition_eq (jb : JitterBuffer) (namedEvent : NamedEventFrame) (ts : UInt32) (marker : Bool) :
    jitterBufferEventPosition jb namedEvent ts marker =
      eventPositioned namedEvent marker (jitterBufferWritePrepare jb ts).2 (jitterBufferWritePrepare jb ts).1 := by
  unfold jitterBufferEventPosition eventPositioned
  dsimp only
  generalize jitterBufferEventDetect (jitterBufferWritePrepare jb ts).1 namedEvent (jitterBufferWritePrepare jb ts).2
    marker = d
  obtain ⟨jb', _ | update⟩ := d <;> rfl

variable (namedEvent : NamedEventFrame)

theorem jitterBufferEventPosition_alike (ts : UInt32) (marker : Bool) (h : Alike c a b) :
    Shifted c (jitterBufferEventPosition a namedEvent ts marker).1
        (jitterBufferEventPosition b namedEvent (ts + c) marker).1 ∧
      (jitterBufferEventPosition b namedEvent (ts + c) marker).2 =
        (jitterBufferEventPosition a namedEvent ts marker).2 := by
  obtain ⟨hr, hp⟩ := jitterBufferWritePrepare_alike ts h
  rw [jitterBufferEventPosition_eq, jitterBufferEventPosition_eq, hp]
  generalize (jitterBufferWritePrepare a ts).2 = w
  refine hr.map (f := eventPositioned namedEvent marker w) fun jb offset => ?_
  unfold eventPositioned
  rw [jitterBufferEventDetect_withOffset]
  generalize jitterBufferEventDetect jb namedEvent w marker = d
  obtain ⟨jb', _ | update⟩ := d
  · simp only [jitterBufferEventPlace_withOffset, Option.elim]
  · simp only [Option.elim]
    split_ifs
    · rfl
    · simp only [jitterBufferEventPlace_withOffset]

theorem jitterBufferEventWrite_alike (ts : UInt32) (marker : Bool) (h : Alike c a b) :
    Shifted c (jitterBufferEventWrite a namedEvent ts marker).1
        (jitterBufferEventWrite b namedEvent (ts + c) marker).1 ∧
      (jitterBufferEventWrite b namedEvent (ts + c) marker).2 =
        (jitterBufferEventWrite a namedEvent ts marker).2 := by
  obtain ⟨hs, hp⟩ := jitterBufferEventPosition_alike namedEvent ts marker h
  unfold jitterBufferEventWrite
  generalize jitterBufferEventPosition a namedEvent ts marker = p at hs hp
  generalize jitterBufferEventPosition b namedEvent (ts + c) marker = q at hs hp
  obtain ⟨a', marker', place⟩ := p
  obtain ⟨b', out⟩ := q
  obtain rfl : out = (marker', place) := hp
  cases place with
  | error result => exact ⟨hs, rfl⟩
  | ok writeTs =>
    exact hs.map (f := fun jb =>
      ((jb.eventSet writeTs namedEvent marker').writeAdvance (writeTs + jb.frameTs), JbResult.ok)) fun jb offset =>
      Prod.ext (writeAdvance_withOffset (jb.eventSet writeTs namedEvent marker') offset _) rfl

theorem jitterBufferStep_alike (op : JbOp) (h : Alike c a b) :
    Alike c (jitterBufferStep a op).1 (jitterBufferStep b (op.shift c)).1 ∧
      (jitterBufferStep b (op.shift c)).2 = (jitterBufferStep a op).2 := by
  cases op with
  | write buffer ts marker =>
    obtain ⟨hs, ho⟩ := jitterBufferWrite_alike buffer ts marker h
    exact ⟨hs.alike, congrArg JbOut.result ho⟩
  | eventWrite namedEvent ts marker =>
    obtain ⟨hs, ho⟩ := jitterBufferEventWrite_alike namedEvent ts marker h
    exact ⟨hs.alike, congrArg JbOut.result ho⟩
  | read mediaFrame =>
    obtain ⟨offset, rfl, ho⟩ := h
    have hr := jitterBufferRead_withOffset a offset mediaFrame
    have ha := jitterBufferRead_withOffset a a.writeTsOffset mediaFrame
    have hf : (jitterBufferRead (a.withOffset offset) mediaFrame).2 = (jitterBufferRead a mediaFrame).2 := by
      rw [hr]
    refine ⟨⟨offset, congrArg Prod.fst hr, ?_⟩, congrArg JbOut.frame hf⟩
    have hof : (jitterBufferRead a mediaFrame).1.writeTsOffset = a.writeTsOffset :=
      congrArg (fun out => out.1.writeTsOffset) ha
    have hn := jitterBufferRead_writeSync a mediaFrame
    simp only [jitterBufferStep, hof, hn]
    exact ho
  | restart =>
    obtain ⟨offset, rfl, -⟩ := h
    exact ⟨⟨0, rfl, Or.inl rfl⟩, rfl⟩

/-- **The origin of RTP timestamps does not matter.** From a new buffer, moving every timestamp passed in by the
same amount changes no result code and no frame that is read. -/
theorem jitterBuffer_run_shift (jbConfig : Option JbConfig) (descriptor : CodecDescriptor) (codec : Codec)
    (c : UInt32) (ops : List JbOp) :
    (run jitterBufferStep (jitterBufferCreate jbConfig descriptor codec) (ops.map (JbOp.shift c))).2 =
      (run jitterBufferStep (jitterBufferCreate jbConfig descriptor codec) ops).2 := by
  have hnew : Alike c (jitterBufferCreate jbConfig descriptor codec)
      (jitterBufferCreate jbConfig descriptor codec) := ⟨0, rfl, Or.inl rfl⟩
  have hops : List.Forall₂ (fun op op' => op' = JbOp.shift c op) ops (ops.map (JbOp.shift c)) :=
    List.forall₂_map_right_iff.2 (List.forall₂_same.2 fun _ _ => rfl)
  have hout := (run_related (Alike c) (fun op op' => op' = JbOp.shift c op) (fun o o' => o' = o)
    (fun a b op op' hab hop => by subst hop; exact jitterBufferStep_alike op hab) hnew hops).2
  exact (List.forall₂_eq_eq_eq ▸ hout.imp fun _ _ h => h.symm : _ = _).symm

end UniMrcp.Mpf
