import UniMrcp.Mpf.JitterBuffer.Restart
import UniMrcp.Mpf.JitterBuffer.Window

/-!
# The configuration of the jitter buffer

The configuration is adjusted in four places: the maximal delay is taken down to whole frames, the initial one up.
-/

namespace UniMrcp.Mpf

open Lib List UInt32 JitterBuffer

/-- There are samples in a frame, and the initial delay, rounded up to a frame, is shorter than the maximal delay,
rounded down, in timestamp units and the former modulo 2^32. -/
structure JbConfig.Usable (config : JbConfig) (descriptor : CodecDescriptor) (attribs : CodecAttribs) : Prop where
  channels : descriptor.channelCount ≠ 0
  bits : attribs.bitsPerSample ≠ 0
  delay : codecFrameSamplesCalculate descriptor * config.validate.alignInitial.initialPlayoutDelay.toNat % 2 ^ 32 / 10 <
    codecFrameSamplesCalculate descriptor * (config.validate.maxPlayoutDelay.toNat / 10)

/-- The first packet of one frame is accepted, and returned by the read that reaches its position. -/
def FirstPacketPlays (jb : JitterBuffer) : Prop :=
  ∀ (packet : Bytes) (ts : UInt32) (marker : Bool) (out : List Frame) (mediaFrame : Frame),
    packet.length = jb.frameSize → out.length = jb.framesAhead (jb.arrivalTs ts marker) →
    (jitterBufferWrite jb packet ts marker).2 = .ok ∧
      (jitterBufferRead (run jitterBufferStep (jitterBufferWrite jb packet ts marker).1 (out.map .read)).1
        mediaFrame).2.type.audio = true ∧
      (jitterBufferRead (run jitterBufferStep (jitterBufferWrite jb packet ts marker).1 (out.map .read)).1
        mediaFrame).2.codecFrame.buffer = packet

/-! ## A run of reads -/

theorem run_read_spec (out : List Frame) {jb : JitterBuffer}
    (hw : jb.readTs.toNat + out.length * jb.frameTs.toNat < 2 ^ 32) :
    let jb' := (run jitterBufferStep jb (out.map .read)).1
    SameDims jb jb' ∧ jb'.writeTs = jb.writeTs ∧
      jb'.readTs.toNat = jb.readTs.toNat + out.length * jb.frameTs.toNat ∧
      ∀ i, (∀ k < out.length, (jb.readTs.toNat + k * jb.frameTs.toNat) / jb.frameTs.toNat % jb.frameCount ≠ i) →
        jb'.frames i = jb.frames i := by
  induction out generalizing jb with
  | nil => exact ⟨⟨rfl, rfl, rfl, rfl, rfl, rfl⟩, rfl, by simp, fun _ _ => rfl⟩
  | cons mediaFrame out ih =>
    rw [length_cons, Nat.add_mul, Nat.one_mul] at hw
    have hs := jitterBufferRead_sameStore jb mediaFrame
    have hr : (jitterBufferRead jb mediaFrame).1.readTs.toNat = jb.readTs.toNat + jb.frameTs.toNat := by
      rw [hs.readTs]
      exact toNat_add_of_lt (by omega)
    have ht : (jitterBufferRead jb mediaFrame).1.frameTs = jb.frameTs := hs.frameTs
    have hc : (jitterBufferRead jb mediaFrame).1.frameCount = jb.frameCount := hs.frameCount
    obtain ⟨hd, hwr, hp, hf⟩ := @ih (jitterBufferRead jb mediaFrame).1 (by rw [hr, ht]; omega)
    rw [hr, ht] at hp hf
    rw [hc] at hf
    refine ⟨⟨hd.config.trans hs.config, hd.codec.trans hs.codec, hd.frameCount.trans hs.frameCount,
      hd.frameTs.trans hs.frameTs, hd.frameSize.trans hs.frameSize,
      hd.maxPlayoutDelayTs.trans hs.maxPlayoutDelayTs⟩, hwr.trans hs.writeTs, ?_, fun i hi => ?_⟩
    · rw [length_cons, Nat.add_mul, Nat.one_mul]
      exact hp.trans (by omega)
    · refine (hf i fun k hk => ?_).trans ?_
      · have hk' := hi (k + 1) (by rw [length_cons]; omega)
        have hm : jb.readTs.toNat + jb.frameTs.toNat + k * jb.frameTs.toNat =
            jb.readTs.toNat + (k + 1) * jb.frameTs.toNat := by ring
        rwa [hm]
      · have h0 : jb.frameIndex jb.readTs ≠ i := by
          simpa [frameIndex] using hi 0 (by simp)
        rw [hs.frames]
        exact Function.update_of_ne h0.symm _ _

theorem run_read_drained (out : List Frame) {jb : JitterBuffer} (h : jb.Drained) :
    (run jitterBufferStep jb (out.map .read)).1.Drained := by
  induction out generalizing jb with
  | nil => exact h
  | cons mediaFrame out ih =>
    refine ih fun i => ?_
    simp only [jitterBufferStep, (jitterBufferRead_sameStore jb mediaFrame).frames]
    by_cases hi : i = jb.frameIndex jb.readTs
    · simp [readAdvance, frameSet, hi]
    · simpa [readAdvance, frameSet, hi] using h i

theorem read_after_reads {jb : JitterBuffer} (out : List Frame) (mediaFrame : Frame) {ts : UInt32}
    (ha : jb.frameTs.toNat ∣ jb.readTs.toNat) (hF : 0 < jb.frameTs.toNat)
    (hp : ts.toNat = jb.readTs.toNat + out.length * jb.frameTs.toNat) (hlt : out.length < jb.frameCount) :
    (jitterBufferRead (run jitterBufferStep jb (out.map .read)).1 mediaFrame).2 =
      if jb.writeTs > ts then (jb.frameGet ts).copyTo mediaFrame
      else { mediaFrame with type := .none, marker := .none } := by
  obtain ⟨hd, hw, hr, hf⟩ := run_read_spec out (hp ▸ ts.toNat_lt)
  generalize (run jitterBufferStep jb (out.map .read)).1 = reached at hd hw hr hf ⊢
  have hc : reached.readTs = ts := UInt32.toNat_inj.1 (hr.trans hp.symm)
  have hs : reached.frameGet ts = jb.frameGet ts := by
    have hi : reached.frameIndex ts = jb.frameIndex ts := by
      simp [frameIndex, hd.frameTs, hd.frameCount]
    unfold frameGet
    rw [hi]
    refine hf _ fun k hk heq => ?_
    -- the slots visited before are those of the frames before
    obtain ⟨n, hn⟩ := ha
    have hk' : (jb.readTs.toNat + k * jb.frameTs.toNat) / jb.frameTs.toNat = n + k := by
      rw [hn, Nat.mul_add_div hF, Nat.mul_div_cancel _ hF]
    have ht : ts.toNat / jb.frameTs.toNat = n + out.length := by
      rw [hp, hn, Nat.mul_add_div hF, Nat.mul_div_cancel _ hF]
    unfold frameIndex at heq
    rw [hk', ht] at heq
    have hm : k ≡ out.length [MOD jb.frameCount] := Nat.ModEq.add_left_cancel' n heq
    have := hm.eq_of_lt_of_lt (by omega) hlt
    omega
  unfold jitterBufferRead
  rw [hc, hs, hw]

/-! ## The first packet -/

section First

variable {jb : JitterBuffer} {packet : Bytes} {ts : UInt32} {marker : Bool}

theorem arrivalTs_of_writeSync (hs : jb.writeSync) :
    jb.arrivalTs ts marker = jb.frameAllign (jb.readTs + jb.playoutDelayTs) := by
  rw [arrivalTs, if_pos (Or.inl hs)]

theorem jitterBufferWritePosition_of_empty (ts : UInt32) (marker : Bool) (hw : jb.writeTs = jb.readTs) :
    (jitterBufferWritePosition jb ts marker).2 =
      if jb.readTs ≤ jb.arrivalTs ts marker then some (jb.arrivalTs ts marker) else none := by
  have hs := (resync_sameStore jb marker).trans (jitterBufferWritePrepare_sameStore (jb.resync marker) ts)
  unfold jitterBufferWritePosition
  dsimp only
  rw [hs.readTs, hs.writeTs, jitterBufferWritePrepare_resync, hw]
  by_cases hr : jb.readTs ≤ jb.arrivalTs ts marker
  · rw [if_pos hr, if_pos hr]
  · rw [if_neg hr, if_neg hr, if_pos (UInt32.not_le.1 hr)]

@[simp] theorem jitterBufferFill_nil (n : Nat) (jb : JitterBuffer) (writeTs : UInt32) :
    jitterBufferFill n jb [] writeTs = (jb, writeTs) := by
  cases n <;> simp [jitterBufferFill]

theorem jitterBufferFill_one {n : Nat} (hc : jb.codec.dissect = none) (hl : packet.length = jb.frameSize)
    (hs : jb.frameSize ≠ 0) (writeTs : UInt32) :
    jitterBufferFill (n + 1) jb packet writeTs =
      (jb.audioSet writeTs { buffer := packet, size := jb.frameSize }, writeTs + jb.frameTs) := by
  have hb : packet ≠ [] := by
    rintro rfl
    exact hs hl.symm
  have hd : codecDissect jb.codec packet (jb.codecFrameGet writeTs) =
      some ([], { buffer := packet, size := jb.frameSize }) := codecDissect_one hc hl hs
  simp only [jitterBufferFill, if_neg hb, hd, jitterBufferFill_nil]

theorem jitterBufferWrite_of_empty (hw : jb.writeTs = jb.readTs) (hc : jb.codec.dissect = none)
    (hl : packet.length = jb.frameSize) (hs : jb.frameSize ≠ 0)
    (hr : jb.readTs ≤ jb.arrivalTs ts marker) (hlt : jb.framesAhead (jb.arrivalTs ts marker) < jb.frameCount) :
    ∃ b, jitterBufferWrite jb packet ts marker = (b, .ok) ∧ SameDims jb b ∧ b.readTs = jb.readTs ∧
      b.writeTs = (if jb.arrivalTs ts marker + jb.frameTs > jb.readTs then jb.arrivalTs ts marker + jb.frameTs
        else jb.readTs) ∧
      (b.frameGet (jb.arrivalTs ts marker)).type.audio = true ∧
      (b.frameGet (jb.arrivalTs ts marker)).codecFrame = { buffer := packet, size := jb.frameSize } := by
  have hp := jitterBufferWritePosition_of_empty ts marker hw
  rw [if_pos hr] at hp
  have ha : jb.availableFrameCount (jb.arrivalTs ts marker) =
      (jb.frameCount - jb.framesAhead (jb.arrivalTs ts marker) - 1) + 1 := by
    rw [availableFrameCount_eq (Nat.le_of_lt hlt)]
    omega
  obtain ⟨jb', hm, hcs⟩ := jitterBufferWrite_cases jb packet ts marker
  rcases hcs with ⟨hn, -⟩ | ⟨writeTs, hso, ⟨h0, -⟩ | ⟨-, hwr, -⟩⟩
  · rw [hp] at hn; cases hn
  · rw [hp] at hso
    cases hso
    omega
  · rw [hp] at hso
    cases hso
    rw [hwr, ha, jitterBufferFill_one (by rw [hm.codec]; exact hc) (by rw [hm.frameSize]; exact hl)
      (by rw [hm.frameSize]; exact hs), hm.frameSize, hm.frameTs]
    generalize jb.arrivalTs ts marker = w
    have hg : (jb'.audioSet w { buffer := packet, size := jb.frameSize }).frames (jb'.frameIndex w) =
        { jb'.frameGet w with
          codecFrame := { buffer := packet, size := jb.frameSize }
          type := { (jb'.frameGet w).type with audio := true } } := Function.update_self _ _ _
    refine ⟨_, rfl, ?_⟩
    unfold writeAdvance
    have hwr' : (jb'.audioSet w { buffer := packet, size := jb.frameSize }).writeTs = jb.readTs :=
      hm.writeTs.trans hw
    rw [hwr']
    by_cases hgt : w + jb.frameTs > jb.readTs
    · rw [if_pos hgt, if_pos hgt]
      exact ⟨⟨hm.config, hm.codec, hm.frameCount, hm.frameTs, hm.frameSize, hm.maxPlayoutDelayTs⟩,
        hm.readTs, rfl, congrArg (fun f : Frame => f.type.audio) hg,
        congrArg Frame.codecFrame hg⟩
    · rw [if_neg hgt, if_neg hgt]
      exact ⟨⟨hm.config, hm.codec, hm.frameCount, hm.frameTs, hm.frameSize, hm.maxPlayoutDelayTs⟩,
        hm.readTs, hwr', congrArg (fun f : Frame => f.type.audio) hg,
        congrArg Frame.codecFrame hg⟩

end First

section Plays

variable {jb : JitterBuffer}

theorem arrivalTs_toNat (ts : UInt32) (marker : Bool) (hs : jb.writeSync)
    (hw : jb.readTs.toNat + jb.playoutDelayTs.toNat < 2 ^ 32) :
    (jb.arrivalTs ts marker).toNat =
      (jb.readTs.toNat + jb.playoutDelayTs.toNat) / jb.frameTs.toNat * jb.frameTs.toNat := by
  have hd := Nat.div_add_mod' (jb.readTs.toNat + jb.playoutDelayTs.toNat) jb.frameTs.toNat
  rw [arrivalTs_of_writeSync hs, frameAllign_toNat, toNat_add_of_lt hw]
  omega

theorem arrivalTs_spec (ts : UInt32) (marker : Bool) (hs : jb.writeSync)
    (ha : jb.frameTs.toNat ∣ jb.readTs.toNat) (hF : 0 < jb.frameTs.toNat)
    (hw : jb.readTs.toNat + jb.playoutDelayTs.toNat < 2 ^ 32) :
    (jb.arrivalTs ts marker).toNat =
        jb.readTs.toNat + jb.playoutDelayTs.toNat / jb.frameTs.toNat * jb.frameTs.toNat ∧
      jb.readTs ≤ jb.arrivalTs ts marker ∧
      jb.framesAhead (jb.arrivalTs ts marker) = jb.playoutDelayTs.toNat / jb.frameTs.toNat := by
  have hp : (jb.arrivalTs ts marker).toNat =
      jb.readTs.toNat + jb.playoutDelayTs.toNat / jb.frameTs.toNat * jb.frameTs.toNat := by
    obtain ⟨n, hn⟩ := ha
    rw [arrivalTs_toNat ts marker hs hw, hn, Nat.mul_add_div hF]
    ring
  have hle : jb.readTs ≤ jb.arrivalTs ts marker := by rw [le_iff_toNat_le]; omega
  refine ⟨hp, hle, ?_⟩
  rw [framesAhead_of_le hle, hp, Nat.add_sub_cancel_left, Nat.mul_div_cancel _ hF]

theorem firstPacketPlays_of_lt (hn : jb.writeSync) (hw : jb.writeTs = jb.readTs)
    (ha : jb.frameTs.toNat ∣ jb.readTs.toNat) (hc : jb.codec.dissect = none) (hs : jb.frameSize ≠ 0)
    (hF : 0 < jb.frameTs.toNat) (hlt : jb.playoutDelayTs.toNat / jb.frameTs.toNat < jb.frameCount)
    (he : (jb.readTs.toNat + jb.playoutDelayTs.toNat) / jb.frameTs.toNat * jb.frameTs.toNat +
      jb.frameTs.toNat < 2 ^ 32) : FirstPacketPlays jb := by
  intro packet ts marker out mediaFrame hl ho
  have hm := Nat.mod_lt (jb.readTs.toNat + jb.playoutDelayTs.toNat) hF
  have hv := Nat.div_add_mod' (jb.readTs.toNat + jb.playoutDelayTs.toNat) jb.frameTs.toNat
  have hr : jb.readTs.toNat + jb.playoutDelayTs.toNat < 2 ^ 32 := by omega
  obtain ⟨hp, hle, hh⟩ := arrivalTs_spec ts marker hn ha hF hr
  rw [← arrivalTs_toNat ts marker hn hr] at he
  obtain ⟨b, ht, hd, h, hwr, had, hcd⟩ :=
    jitterBufferWrite_of_empty hw hc hl hs hle (hh ▸ hlt)
  have hf : jb.arrivalTs ts marker + jb.frameTs > jb.arrivalTs ts marker := by
    rw [gt_iff_lt, lt_iff_toNat_lt, toNat_add_of_lt he]
    omega
  have hf' : jb.arrivalTs ts marker + jb.frameTs > jb.readTs := UInt32.lt_of_le_of_lt hle hf
  rw [if_pos hf'] at hwr
  rw [hh] at ho
  have hrd := @read_after_reads b out mediaFrame _ (by rw [hd.frameTs, h]; exact ha)
    (by rw [hd.frameTs]; exact hF) (by rw [h, hd.frameTs, ho]; exact hp)
    (by rw [hd.frameCount, ho]; exact hlt)
  rw [hwr, if_pos hf] at hrd
  rw [ht, hrd]
  refine ⟨rfl, had, ?_⟩
  simp [Frame.copyTo, had, hcd, ← hl]

theorem lt_of_firstPacketPlays (hn : jb.writeSync) (hw : jb.writeTs = jb.readTs)
    (hl : jb.frameTs.toNat ∣ jb.readTs.toNat) (hc : jb.codec.dissect = none) (hs : jb.frameSize ≠ 0)
    (hF : 0 < jb.frameTs.toNat) (hle : jb.playoutDelayTs.toNat / jb.frameTs.toNat ≤ jb.frameCount)
    (h : FirstPacketPlays jb) :
    jb.playoutDelayTs.toNat / jb.frameTs.toNat < jb.frameCount ∧
      (jb.readTs.toNat + jb.playoutDelayTs.toNat) / jb.frameTs.toNat * jb.frameTs.toNat + jb.frameTs.toNat <
        2 ^ 32 := by
  obtain ⟨ho, had, -⟩ := h (List.replicate jb.frameSize 0) 0 false
    (List.replicate (jb.framesAhead (jb.arrivalTs 0 false)) {}) {} length_replicate length_replicate
  have hwp := jitterBufferWritePosition_of_empty 0 false hw
  obtain ⟨jb', hsa, hcs⟩ := jitterBufferWrite_cases jb (List.replicate jb.frameSize 0) 0 false
  -- the position does not wrap around, or the packet would be too late
  have hwrp : jb.readTs.toNat + jb.playoutDelayTs.toNat < 2 ^ 32 := by
    by_contra hge
    have hla : ¬jb.readTs ≤ jb.arrivalTs 0 false := by
      have hr := jb.readTs.toNat_lt
      have hp := jb.playoutDelayTs.toNat_lt
      have hsu : (jb.readTs + jb.playoutDelayTs).toNat = jb.readTs.toNat + jb.playoutDelayTs.toNat - 2 ^ 32 := by
        rw [UInt32.toNat_add]
        omega
      rw [le_iff_toNat_le, arrivalTs_of_writeSync hn, frameAllign_toNat, hsu]
      omega
    rw [if_neg hla] at hwp
    rcases hcs with ⟨-, hwr, -⟩ | ⟨w, hps, -⟩
    · rw [hwr] at ho; cases ho
    · rw [hwp] at hps; cases hps
  obtain ⟨hps, hr, ha⟩ := arrivalTs_spec 0 false hn hl hF hwrp
  rw [if_pos hr] at hwp
  -- nor does it lie `frameCount` frames ahead, or the packet would be too early
  have hlt : jb.playoutDelayTs.toNat / jb.frameTs.toNat < jb.frameCount := by
    by_contra hge
    have h0 : jb.availableFrameCount (jb.arrivalTs 0 false) = 0 := by
      rw [availableFrameCount_eq (by omega)]
      omega
    rcases hcs with ⟨hnn, -⟩ | ⟨w, hm, ⟨-, hwr, -⟩ | ⟨hne, -⟩⟩
    · rw [hwp] at hnn; cases hnn
    · rw [hwr] at ho; cases ho
    · rw [hwp] at hm
      cases hm
      exact hne h0
  refine ⟨hlt, ?_⟩
  rw [← arrivalTs_toNat 0 false hn hwrp]
  -- if the end of the frame wraps around, the write position stays behind, and the read finds the buffer empty
  by_contra hge
  obtain ⟨b, hwr, hd, hrd, ht, -⟩ :=
    jitterBufferWrite_of_empty hw hc length_replicate hs hr (ha ▸ hlt)
  have hre := @read_after_reads b (List.replicate (jb.framesAhead (jb.arrivalTs 0 false)) {}) {} _
    (by rw [hd.frameTs, hrd]; exact hl) (by rw [hd.frameTs]; exact hF)
    (by rw [hrd, hd.frameTs, length_replicate, ha]; exact hps)
    (by rw [hd.frameCount, length_replicate, ha]; exact hlt)
  have hb : ¬b.writeTs > jb.arrivalTs 0 false := by
    have hw' := (jb.arrivalTs 0 false).toNat_lt
    have hF' := jb.frameTs.toNat_lt
    rw [le_iff_toNat_le] at hr
    rw [ht, gt_iff_lt, lt_iff_toNat_lt]
    split_ifs
    · rw [UInt32.toNat_add]
      omega
    · omega
  rw [hwr, hre, if_neg hb] at had
  cases had

theorem not_firstPacketPlays_of_frameSize (hs : jb.frameSize = 0) (hd : jb.Drained) : ¬FirstPacketPlays jb := by
  intro h
  obtain ⟨-, ha, -⟩ := h [] 0 false (List.replicate (jb.framesAhead (jb.arrivalTs 0 false)) {}) {}
    (by simp [hs]) length_replicate
  have hr : (jitterBufferWrite jb [] 0 false).1.Drained := by
    obtain ⟨jb', hm, hc⟩ := jitterBufferWrite_cases jb [] 0 false
    have hd' : jb'.Drained := fun i => by rw [hm.frames]; exact hd i
    rcases hc with ⟨-, hw, -⟩ | ⟨w, -, ⟨-, hw, -⟩ | ⟨-, hw, -⟩⟩
    · rw [hw]; exact hd'
    · rw [hw]; exact hd'
    · obtain ⟨ts', hv⟩ := writeAdvance_eq jb' w
      rw [hw, jitterBufferFill_nil, hv]
      exact hd'
  have hn := run_read_drained (List.replicate (jb.framesAhead (jb.arrivalTs 0 false)) {}) hr
  generalize (run jitterBufferStep (jitterBufferWrite jb [] 0 false).1 _).1 = b at ha hn
  unfold jitterBufferRead at ha
  dsimp only at ha
  split_ifs at ha
  · simp only [Frame.copyTo, frameGet, hn (b.frameIndex b.readTs)] at ha
    cases ha
  · cases ha

end Plays

/-! ## New buffers -/

section New

variable (jbConfig : Option JbConfig) {descriptor : CodecDescriptor} {attribs : CodecAttribs}

theorem codecFrameSamplesCalculate_lt (ht : descriptor.SupportedRate) :
    codecFrameSamplesCalculate descriptor < 2 ^ 17 := by
  have hc := descriptor.channelCount.toNat_lt
  have hr : descriptor.samplingRate.toNat ≤ 48000 := by
    rcases ht with h | h | h | h <;> rw [h] <;> decide
  have hm : descriptor.channelCount.toNat * 10 * descriptor.samplingRate.toNat ≤ 255 * 10 * 48000 :=
    Nat.mul_le_mul (Nat.mul_le_mul_right 10 (by omega)) hr
  unfold codecFrameSamplesCalculate codecFrameTimeBase
  omega

theorem codecFrameSamplesCalculate_pos (ht : descriptor.SupportedRate) (hc : descriptor.channelCount ≠ 0) :
    0 < codecFrameSamplesCalculate descriptor := by
  have hc' : 0 < descriptor.channelCount.toNat := Nat.pos_of_ne_zero fun h => hc (UInt8.toNat_inj.1 h)
  have hr : 8000 ≤ descriptor.samplingRate.toNat := by
    rcases ht with h | h | h | h <;> rw [h] <;> decide
  have hm : 1 * 10 * 8000 ≤ descriptor.channelCount.toNat * 10 * descriptor.samplingRate.toNat :=
    Nat.mul_le_mul (Nat.mul_le_mul_right 10 hc') hr
  unfold codecFrameSamplesCalculate codecFrameTimeBase
  omega

theorem codecFrameSizeCalculate_ne_zero (ht : descriptor.SupportedRate) (hc : descriptor.channelCount ≠ 0) :
    codecFrameSizeCalculate descriptor attribs ≠ 0 ↔ attribs.bitsPerSample ≠ 0 := by
  have hc' : 0 < descriptor.channelCount.toNat := Nat.pos_of_ne_zero fun h => hc (UInt8.toNat_inj.1 h)
  have hr : 8000 ≤ descriptor.samplingRate.toNat := by
    rcases ht with h | h | h | h <;> rw [h] <;> decide
  unfold codecFrameSizeCalculate codecFrameTimeBase
  constructor
  · intro h hb
    simp [hb] at h
  · intro hb
    have hb' : 0 < attribs.bitsPerSample.toNat := Nat.pos_of_ne_zero fun h => hb (UInt8.toNat_inj.1 h)
    have hm : 1 * 1 * 10 * 8000 ≤ descriptor.channelCount.toNat * attribs.bitsPerSample.toNat * 10 *
        descriptor.samplingRate.toNat := Nat.mul_le_mul (Nat.mul_le_mul_right 10 (Nat.mul_le_mul hc' hb')) hr
    omega

theorem jitterBufferCreate_toNat (hr : descriptor.SupportedRate) (codec : Codec) :
    (jitterBufferCreate jbConfig descriptor codec).frameTs.toNat = codecFrameSamplesCalculate descriptor ∧
      (jitterBufferCreate jbConfig descriptor codec).frameCount =
        (jbConfig.getD .init).validate.maxPlayoutDelay.toNat / 10 ∧
      (jitterBufferCreate jbConfig descriptor codec).playoutDelayTs.toNat =
        codecFrameSamplesCalculate descriptor *
          (jbConfig.getD .init).validate.alignInitial.initialPlayoutDelay.toNat % 2 ^ 32 / 10 := by
  have hb : codecFrameTimeBase.toUInt32.toNat = 10 := rfl
  have hlt := codecFrameSamplesCalculate_lt hr
  have ht : (codecFrameSamplesCalculate descriptor).toUInt32.toNat = codecFrameSamplesCalculate descriptor :=
    toNat_ofNat_of_lt' (lt_trans hlt (by decide))
  refine ⟨ht, ?_, ?_⟩
  · simp only [jitterBufferCreate, UInt32.toNat_div, hb]
  · simp only [jitterBufferCreate, UInt32.toNat_div, UInt32.toNat_mul, hb, ht]

theorem jitterBufferCreate_plays_iff (hr : descriptor.SupportedRate) :
    let jb := jitterBufferCreate jbConfig descriptor { attribs := attribs }
    (1 ≤ jb.frameCount ∧ jb.playoutDelayTs.toNat < jb.frameCount * jb.frameTs.toNat ∧ FirstPacketPlays jb) ↔
      (jbConfig.getD .init).Usable descriptor attribs := by
  intro jb
  obtain ⟨ht, hn, hd⟩ := jitterBufferCreate_toNat jbConfig hr { attribs := attribs }
  constructor
  · rintro ⟨-, hlt, hp⟩
    have hc : descriptor.channelCount ≠ 0 := by
      intro h0
      have hz : codecFrameSamplesCalculate descriptor = 0 := by simp [codecFrameSamplesCalculate, h0]
      rw [ht, hz] at hlt
      omega
    refine ⟨hc, ?_, ?_⟩
    · rw [← @codecFrameSizeCalculate_ne_zero descriptor attribs hr hc]
      intro hs
      exact not_firstPacketPlays_of_frameSize hs (fun _ => rfl) hp
    · rw [← hd, ← hn, ← ht, Nat.mul_comm]
      exact hlt
  · rintro ⟨hc, hb, hlt⟩
    have hF : 0 < jb.frameTs.toNat := by rw [ht]; exact codecFrameSamplesCalculate_pos hr hc
    rw [← hd, ← hn, ← ht, Nat.mul_comm] at hlt
    have hv : jb.playoutDelayTs.toNat / jb.frameTs.toNat < jb.frameCount := (Nat.div_lt_iff_lt_mul hF).2 hlt
    refine ⟨Nat.one_le_iff_ne_zero.2 fun h0 => Nat.not_lt_zero _ (h0 ▸ hv), hlt, ?_⟩
    refine firstPacketPlays_of_lt rfl rfl (Nat.dvd_zero _) rfl
      ((codecFrameSizeCalculate_ne_zero hr hc).2 hb) hF hv ?_
    -- a tenth of a timestamp and a frame do not wrap around
    have hsm : jb.frameTs.toNat < 2 ^ 17 := by rw [ht]; exact codecFrameSamplesCalculate_lt hr
    have htn : jb.playoutDelayTs.toNat ≤ 2 ^ 32 / 10 := by
      rw [hd]
      exact Nat.div_le_div_right (Nat.le_of_lt (Nat.mod_lt _ (by decide)))
    have hm := Nat.div_mul_le_self (jb.readTs.toNat + jb.playoutDelayTs.toNat) jb.frameTs.toNat
    have hrd : jb.readTs.toNat = 0 := rfl
    omega

end New

/-! ## Restarted buffers -/

section Restarted

variable {jb : JitterBuffer}

def JitterBuffer.initialDelayTs (jb : JitterBuffer) : UInt32 :=
  jb.frameTs * jb.config.initialPlayoutDelay / codecFrameTimeBase.toUInt32

theorem jitterBufferDelayAdjust_playoutDelayTs (writeTs deltaTs : UInt32) :
    (jitterBufferDelayAdjust jb writeTs deltaTs).1.playoutDelayTs = jb.playoutDelayTs ∨
      (jitterBufferDelayAdjust jb writeTs deltaTs).1.playoutDelayTs ≤ jb.maxPlayoutDelayTs := by
  unfold jitterBufferDelayAdjust
  dsimp only
  split_ifs with h0 ha hm hs
  · exact Or.inl rfl
  · exact Or.inl rfl
  · exact Or.inr (UInt32.not_lt.1 hm)
  · exact Or.inr (UInt32.not_lt.1 hm)
  · exact Or.inl rfl

theorem jitterBufferWritePrepare_playoutDelayTs (ts : UInt32) :
    (jitterBufferWritePrepare jb ts).1.playoutDelayTs = jb.playoutDelayTs := by
  unfold jitterBufferWritePrepare synchronize
  dsimp only
  split_ifs <;> rfl

theorem jitterBufferWritePosition_playoutDelayTs (ts : UInt32) (marker : Bool) :
    (jitterBufferWritePosition jb ts marker).1.playoutDelayTs = jb.playoutDelayTs ∨
      (jitterBufferWritePosition jb ts marker).1.playoutDelayTs ≤ jb.maxPlayoutDelayTs := by
  have hs := (resync_sameStore jb marker).trans (jitterBufferWritePrepare_sameStore (jb.resync marker) ts)
  have hp : (jitterBufferWritePrepare (jb.resync marker) ts).1.playoutDelayTs = jb.playoutDelayTs := by
    rw [jitterBufferWritePrepare_playoutDelayTs]
    unfold resync
    split_ifs <;> rfl
  unfold jitterBufferWritePosition jitterBufferLateAdjust
  dsimp only
  generalize jitterBufferWritePrepare (jb.resync marker) ts = prepared at hs hp ⊢
  split_ifs
  · exact Or.inl hp
  · exact Or.inl hp
  · have hk : (jitterBufferSkewAdjust prepared.1 ts prepared.2 (prepared.1.readTs - prepared.2)).1.playoutDelayTs =
        prepared.1.playoutDelayTs := by
      unfold jitterBufferSkewAdjust
      split_ifs <;> rfl
    have hm := (hs.trans (jitterBufferSkewAdjust_sameStore prepared.1 ts prepared.2
      (prepared.1.readTs - prepared.2))).maxPlayoutDelayTs
    rw [← hp, ← hk, ← hm]
    exact jitterBufferDelayAdjust_playoutDelayTs _ _
  · rw [← hp, ← hs.maxPlayoutDelayTs]
    exact jitterBufferDelayAdjust_playoutDelayTs _ _

theorem jitterBufferEventPosition_playoutDelayTs (namedEvent : NamedEventFrame) (ts : UInt32) (marker : Bool) :
    (jitterBufferEventPosition jb namedEvent ts marker).1.playoutDelayTs = jb.playoutDelayTs ∨
      (jitterBufferEventPosition jb namedEvent ts marker).1.playoutDelayTs ≤ jb.maxPlayoutDelayTs := by
  have h : ∀ (jb' : JitterBuffer) (w : UInt32) (isNew : Bool),
      (jitterBufferEventPlace jb' w isNew).1.playoutDelayTs = jb'.playoutDelayTs ∨
        (jitterBufferEventPlace jb' w isNew).1.playoutDelayTs ≤ jb'.maxPlayoutDelayTs := by
    intro jb' w isNew
    unfold jitterBufferEventPlace
    dsimp only
    split_ifs with hl ha hm hn
    · exact Or.inl rfl
    · exact Or.inl rfl
    · exact Or.inr (UInt32.not_lt.1 hm)
    · exact Or.inr (UInt32.not_lt.1 hm)
    · exact Or.inl rfl
    · exact Or.inl rfl
  have hd : ∀ (jb' : JitterBuffer) (w : UInt32),
      (jitterBufferEventDetect jb' namedEvent w marker).1.playoutDelayTs = jb'.playoutDelayTs := by
    intro jb' w
    unfold jitterBufferEventDetect
    cases jb'.eventUpdate with
    | none => cases marker <;> rfl
    | some update =>
      dsimp only
      split_ifs <;> rfl
  have hp := (hd (jitterBufferWritePrepare jb ts).1 (jitterBufferWritePrepare jb ts).2).trans
    (jitterBufferWritePrepare_playoutDelayTs ts)
  have hx := ((jitterBufferWritePrepare_sameStore jb ts).trans (jitterBufferEventDetect_sameStore
    (jitterBufferWritePrepare jb ts).1 namedEvent (jitterBufferWritePrepare jb ts).2 marker)).maxPlayoutDelayTs
  unfold jitterBufferEventPosition
  dsimp only
  generalize jitterBufferEventDetect (jitterBufferWritePrepare jb ts).1 namedEvent
    (jitterBufferWritePrepare jb ts).2 marker = detected at hp hx ⊢
  obtain ⟨jb', _ | update⟩ := detected
  · rw [← hp, ← hx]
    exact h _ _ _
  · dsimp only at hp hx ⊢
    split_ifs
    · exact Or.inl hp
    · rw [← hp, ← hx]
      exact h _ _ _

theorem jitterBufferPlace_playoutDelayTs (buffer : Bytes) (writeTs : UInt32) :
    (jitterBufferPlace jb buffer writeTs).1.playoutDelayTs = jb.playoutDelayTs := by
  unfold jitterBufferPlace
  split_ifs
  · rfl
  · obtain ⟨frames, hf⟩ := jitterBufferFill_eq jb (jb.availableFrameCount writeTs) buffer writeTs
    obtain ⟨ts', ha⟩ := writeAdvance_eq (jitterBufferFill (jb.availableFrameCount writeTs) jb buffer writeTs).1
      (jitterBufferFill (jb.availableFrameCount writeTs) jb buffer writeTs).2
    dsimp only
    rw [ha, hf]

theorem jitterBufferRead_playoutDelayTs (mediaFrame : Frame) :
    (jitterBufferRead jb mediaFrame).1.playoutDelayTs = jb.playoutDelayTs := by
  unfold jitterBufferRead jitterBufferStatUpdate
  dsimp only
  split
  · split <;> split_ifs <;> rfl
  · rfl

theorem jitterBufferStep_playoutDelayTs (op : JbOp) :
    (jitterBufferStep jb op).1.playoutDelayTs = jb.playoutDelayTs ∨
      (jitterBufferStep jb op).1.playoutDelayTs ≤ jb.maxPlayoutDelayTs ∨
      (jitterBufferStep jb op).1.playoutDelayTs = jb.initialDelayTs := by
  cases op with
  | write buffer ts marker =>
    have hp := @jitterBufferWritePosition_playoutDelayTs jb ts marker
    simp only [jitterBufferStep, jitterBufferWrite]
    generalize jitterBufferWritePosition jb ts marker = place at hp ⊢
    obtain ⟨jb', _ | w⟩ := place
    · exact hp.imp_right Or.inl
    · dsimp only at hp ⊢
      rw [jitterBufferPlace_playoutDelayTs]
      exact hp.imp_right Or.inl
  | eventWrite namedEvent ts marker =>
    have hp := @jitterBufferEventPosition_playoutDelayTs jb namedEvent ts marker
    simp only [jitterBufferStep, jitterBufferEventWrite]
    generalize jitterBufferEventPosition jb namedEvent ts marker = place at hp ⊢
    obtain ⟨jb', isNew, _ | w⟩ := place
    · exact hp.imp_right Or.inl
    · obtain ⟨ts', ha⟩ := writeAdvance_eq (jb'.eventSet w namedEvent isNew) (w + jb'.frameTs)
      dsimp only at hp ⊢
      rw [ha]
      exact hp.imp_right Or.inl
  | read mediaFrame => exact Or.inl (jitterBufferRead_playoutDelayTs mediaFrame)
  | restart =>
    simp only [jitterBufferStep, jitterBufferRestart, restartDelayTs]
    split_ifs
    · exact Or.inr (Or.inr rfl)
    · exact Or.inl rfl

def JitterBuffer.DelayBounded (jb : JitterBuffer) (delayTs : UInt32) : Prop :=
  delayTs.toNat / jb.frameTs.toNat ≤ jb.frameCount

/-- The bounds on the playout delays, and the codec that dissects by frame size: what every state of a run from a new
buffer has. -/
structure PlayoutBounded (jb : JitterBuffer) : Prop where
  playout : jb.DelayBounded jb.playoutDelayTs
  initial : jb.DelayBounded jb.initialDelayTs
  max : jb.DelayBounded jb.maxPlayoutDelayTs

theorem jitterBufferStep_playoutBounded (h : PlayoutBounded jb) (op : JbOp) :
    PlayoutBounded (jitterBufferStep jb op).1 := by
  obtain ⟨hm, -⟩ := jitterBufferStep_dims jb op
  have hb : ∀ {delayTs : UInt32}, jb.DelayBounded delayTs → (jitterBufferStep jb op).1.DelayBounded delayTs := by
    intro delayTs hd
    unfold JitterBuffer.DelayBounded at *
    rwa [hm.frameTs, hm.frameCount]
  refine ⟨?_, ?_, ?_⟩
  · rcases @jitterBufferStep_playoutDelayTs jb op with heq | hle | heq
    · rw [heq]; exact hb h.playout
    · exact hb (le_trans (Nat.div_le_div_right (UInt32.le_iff_toNat_le.1 hle)) h.max)
    · rw [heq]; exact hb h.initial
  · have hi : (jitterBufferStep jb op).1.initialDelayTs = jb.initialDelayTs := by
      simp only [initialDelayTs, hm.frameTs, hm.config]
    rw [hi]; exact hb h.initial
  · rw [hm.maxPlayoutDelayTs]; exact hb h.max

def JbOp.isRead : JbOp → Bool
  | .read _ => true
  | _ => false

theorem run_readTs (ops : List JbOp) {jb : JitterBuffer}
    (hw : jb.readTs.toNat + ops.countP JbOp.isRead * jb.frameTs.toNat < 2 ^ 32) :
    (run jitterBufferStep jb ops).1.readTs.toNat = jb.readTs.toNat + ops.countP JbOp.isRead * jb.frameTs.toNat ∧
      SameDims jb (run jitterBufferStep jb ops).1 := by
  induction ops generalizing jb with
  | nil => exact ⟨by simp, ⟨rfl, rfl, rfl, rfl, rfl, rfl⟩⟩
  | cons op ops ih =>
    obtain ⟨hm, hr⟩ := jitterBufferStep_dims jb op
    have hs : (jitterBufferStep jb op).1.readTs.toNat + ops.countP JbOp.isRead * jb.frameTs.toNat =
        jb.readTs.toNat + (op :: ops).countP JbOp.isRead * jb.frameTs.toNat := by
      rw [hr]
      cases op with
      | read mediaFrame =>
        rw [countP_cons_of_pos (by rfl), Nat.add_mul, Nat.one_mul] at hw ⊢
        rw [readTsAfter, toNat_add_of_lt (by omega)]
        omega
      | write buffer ts marker => rw [countP_cons_of_neg (by simp [JbOp.isRead])]; rfl
      | eventWrite namedEvent ts marker => rw [countP_cons_of_neg (by simp [JbOp.isRead])]; rfl
      | restart => rw [countP_cons_of_neg (by simp [JbOp.isRead])]; rfl
    obtain ⟨hp, hd⟩ := @ih (jitterBufferStep jb op).1 (by rw [hm.frameTs, hs]; exact hw)
    rw [hm.frameTs, hs] at hp
    exact ⟨hp, ⟨hd.config.trans hm.config, hd.codec.trans hm.codec, hd.frameCount.trans hm.frameCount,
      hd.frameTs.trans hm.frameTs, hd.frameSize.trans hm.frameSize,
      hd.maxPlayoutDelayTs.trans hm.maxPlayoutDelayTs⟩⟩

end Restarted

end UniMrcp.Mpf
