import Mathlib.Tactic.Ring
import Mathlib.Data.Nat.ModEq
import UniMrcp.Mpf.JitterBuffer.Provenance

/-!
# The write window of the jitter buffer

The frames that can be written are those from the read position to `frameCount` frames behind it.
-/

namespace UniMrcp.Mpf

open Lib List Function UInt32

/-! ## Positions -/

namespace JitterBuffer

variable (jb : JitterBuffer)

/-- No position that the buffer can use wraps around: those of its frames, and that of the playout delay. -/
def NoWrap : Prop :=
  jb.readTs.toNat + (jb.frameCount + 1) * jb.frameTs.toNat < 2 ^ 32 ∧
    jb.readTs.toNat + jb.playoutDelayTs.toNat < 2 ^ 32

instance : Decidable jb.NoWrap := inferInstanceAs (Decidable (_ ∧ _))

/-- The position of a packet when it arrives, by its timestamp, the offset and the playout delay. -/
def arrivalTs (ts : UInt32) (marker : Bool) : UInt32 :=
  jb.frameAllign ((if jb.writeSync ∨ (marker ∧ jb.writeTs ≤ jb.readTs) then jb.readTs
    else ts - jb.writeTsOffset.toUInt32) + jb.playoutDelayTs)

def framesAhead (ts : UInt32) : Nat := ((ts - jb.readTs) / jb.frameTs).toNat

end JitterBuffer

/-- A packet arrives at most `frameCount` frames ahead; if it is late, the playout delay is not longer than the buffer
and one frame. -/
def InWindow (jb : JitterBuffer) : JbOp → Prop
  | .write _ ts marker =>
    (jb.readTs ≤ jb.arrivalTs ts marker → jb.framesAhead (jb.arrivalTs ts marker) ≤ jb.frameCount) ∧
      (jb.arrivalTs ts marker < jb.readTs → jb.playoutDelayTs.toNat ≤ (jb.frameCount + 1) * jb.frameTs.toNat)
  | _ => True

instance (jb : JitterBuffer) (op : JbOp) : Decidable (InWindow jb op) := by
  cases op <;> unfold InWindow <;> infer_instance

section Positions

variable {jb : JitterBuffer}

theorem frameAllign_toNat (ts : UInt32) :
    (jb.frameAllign ts).toNat = ts.toNat - ts.toNat % jb.frameTs.toNat := by
  have hle : ts % jb.frameTs ≤ ts := by
    rw [le_iff_toNat_le, UInt32.toNat_mod]
    exact Nat.mod_le _ _
  unfold JitterBuffer.frameAllign
  split_ifs with h
  · rw [UInt32.toNat_sub_of_le _ _ hle, UInt32.toNat_mod]
  · have h0 : ts.toNat % jb.frameTs.toNat = 0 := by
      rw [← UInt32.toNat_mod, not_not.1 h]; rfl
    rw [h0, Nat.sub_zero]

variable {ts : UInt32}

theorem framesAhead_of_le (h : jb.readTs ≤ ts) :
    jb.framesAhead ts = (ts.toNat - jb.readTs.toNat) / jb.frameTs.toNat := by
  rw [JitterBuffer.framesAhead, UInt32.toNat_div, UInt32.toNat_sub_of_le _ _ h]

theorem toNat_add_of_lt {a b : UInt32} (h : a.toNat + b.toNat < 2 ^ 32) : (a + b).toNat = a.toNat + b.toNat := by
  rw [UInt32.toNat_add, Nat.mod_eq_of_lt h]

theorem framesAhead_le {n : Nat} (h : jb.readTs ≤ ts) (hlt : ts.toNat < jb.readTs.toNat + (n + 1) * jb.frameTs.toNat) :
    jb.framesAhead ts ≤ n := by
  rw [framesAhead_of_le h]
  rw [le_iff_toNat_le] at h
  refine Nat.lt_succ_iff.1 (Nat.div_lt_of_lt_mul ?_)
  rw [Nat.mul_comm, Nat.succ_eq_add_one]
  omega

theorem synchronize_tsPosition (jb : JitterBuffer) (ts : UInt32) :
    (jb.synchronize ts).frameAllign ((jb.synchronize ts).tsPosition ts) =
      jb.frameAllign (jb.readTs + jb.playoutDelayTs) := by
  have hs : ts - (ts - jb.readTs) = jb.readTs := by grind
  unfold JitterBuffer.synchronize
  dsimp only
  split_ifs <;> simp [JitterBuffer.tsPosition, JitterBuffer.frameAllign, hs]

theorem jitterBufferWritePrepare_resync (jb : JitterBuffer) (ts : UInt32) (marker : Bool) :
    (jitterBufferWritePrepare (jb.resync marker) ts).2 = jb.arrivalTs ts marker := by
  unfold jitterBufferWritePrepare JitterBuffer.resync JitterBuffer.arrivalTs
  by_cases hm : marker ∧ jb.writeTs ≤ jb.readTs
  · rw [if_pos hm, if_pos (Or.inr hm), if_pos rfl]
    exact synchronize_tsPosition _ ts
  · rw [if_neg hm]
    by_cases hs : jb.writeSync
    · rw [if_pos hs, if_pos (Or.inl hs)]
      exact synchronize_tsPosition jb ts
    · rw [if_neg hs, if_neg (not_or.2 ⟨hs, hm⟩)]
      rfl

/-! ## Late packets -/

theorem jitterBufferDelayAdjust_some {writeTs deltaTs w : UInt32}
    (h : (jitterBufferDelayAdjust jb writeTs deltaTs).2 = some w) :
    (deltaTs = 0 ∧ w = writeTs) ∨
      (deltaTs ≠ 0 ∧ jb.playoutDelayTs + deltaTs ≤ jb.maxPlayoutDelayTs ∧ w = writeTs + deltaTs) := by
  unfold jitterBufferDelayAdjust at h
  by_cases h0 : deltaTs = 0
  · rw [if_neg (not_not.2 h0)] at h
    exact Or.inl ⟨h0, (Option.some.inj h).symm⟩
  · rw [if_pos h0] at h
    split_ifs at h with ha hm
    exact Or.inr ⟨h0, UInt32.not_lt.1 hm, (Option.some.inj h).symm⟩

/-- The adjustment that the statistics ask for: that of a packet `deltaTs` late, or a longer one. -/
def skewDeltaTs (jb : JitterBuffer) (deltaTs : UInt32) : UInt32 :=
  let lengthTs := (jb.maxLengthTs - jb.minLengthTs).toUInt32
  if lengthTs > jb.playoutDelayTs + deltaTs then jb.frameAllign (lengthTs - jb.playoutDelayTs) else deltaTs

theorem jitterBufferSkewAdjust_cases (jb : JitterBuffer) (ts writeTs deltaTs : UInt32) :
    ((jitterBufferSkewAdjust jb ts writeTs deltaTs).1 = jb ∧
        (jitterBufferSkewAdjust jb ts writeTs deltaTs).2 = (writeTs, skewDeltaTs jb deltaTs)) ∨
      ∃ skewTs ≤ jb.playoutDelayTs,
        (jitterBufferSkewAdjust jb ts writeTs deltaTs).1.playoutDelayTs = jb.playoutDelayTs ∧
        (jitterBufferSkewAdjust jb ts writeTs deltaTs).2 = (jb.tsPosition ts + skewTs,
          if skewTs < skewDeltaTs jb deltaTs then skewDeltaTs jb deltaTs - skewTs else 0) := by
  unfold jitterBufferSkewAdjust
  by_cases hm : jb.maxLengthTs > 0 ∧ jb.maxLengthTs.toUInt32 < jb.playoutDelayTs
  · rw [if_pos hm]
    refine Or.inr ⟨jb.frameAllign (jb.playoutDelayTs - jb.maxLengthTs.toUInt32), ?_, rfl, ?_⟩
    · have hle : jb.maxLengthTs.toUInt32 ≤ jb.playoutDelayTs := UInt32.le_of_lt hm.2
      rw [le_iff_toNat_le, frameAllign_toNat, UInt32.toNat_sub_of_le _ _ hle]
      omega
    · refine Prod.ext ?_ rfl
      simp only [JitterBuffer.tsPosition, toUInt32_toInt32]
      grind
  · rw [if_neg hm]
    exact Or.inl ⟨rfl, rfl⟩

theorem skewDeltaTs_spec {deltaTs : UInt32} (hd : jb.frameTs.toNat ∣ deltaTs.toNat)
    (hlt : jb.playoutDelayTs.toNat + deltaTs.toNat < 2 ^ 32) :
    deltaTs.toNat ≤ (skewDeltaTs jb deltaTs).toNat ∧
      jb.playoutDelayTs.toNat + (skewDeltaTs jb deltaTs).toNat < 2 ^ 32 := by
  unfold skewDeltaTs
  dsimp only
  generalize (jb.maxLengthTs - jb.minLengthTs).toUInt32 = lengthTs
  split_ifs with hl
  · rw [gt_iff_lt, lt_iff_toNat_lt, toNat_add_of_lt hlt] at hl
    have hle : jb.playoutDelayTs ≤ lengthTs := by rw [le_iff_toNat_le]; omega
    have hs := UInt32.toNat_sub_of_le _ _ hle
    have hn := lengthTs.toNat_lt
    rw [frameAllign_toNat, hs]
    -- a multiple of the frame that is not longer than the length is not longer than its alignment
    have hm : deltaTs.toNat ≤ lengthTs.toNat - jb.playoutDelayTs.toNat -
        (lengthTs.toNat - jb.playoutDelayTs.toNat) % jb.frameTs.toNat := by
      obtain ⟨k, hk⟩ := hd
      have hv := Nat.div_add_mod (lengthTs.toNat - jb.playoutDelayTs.toNat) jb.frameTs.toNat
      have hle' : jb.frameTs.toNat * k ≤ lengthTs.toNat - jb.playoutDelayTs.toNat := by omega
      rcases Nat.eq_zero_or_pos jb.frameTs.toNat with h0 | hp
      · simp [hk, h0]
      · have hq : k ≤ (lengthTs.toNat - jb.playoutDelayTs.toNat) / jb.frameTs.toNat :=
          (Nat.le_div_iff_mul_le hp).2 (by rwa [Nat.mul_comm])
        have := Nat.mul_le_mul_left jb.frameTs.toNat hq
        omega
    omega
  · exact ⟨le_refl _, hlt⟩

theorem jitterBufferLateAdjust_window (jb : JitterBuffer) {ts writeTs w : UInt32} (ha : jb.frameTs.toNat ∣ jb.readTs.toNat)
    (hm : jb.maxPlayoutDelayTs.toNat / jb.frameTs.toNat ≤ jb.frameCount)
    (hpd : jb.playoutDelayTs.toNat ≤ (jb.frameCount + 1) * jb.frameTs.toNat) (hr : jb.NoWrap)
    (hw : writeTs = jb.frameAllign (jb.tsPosition ts)) (hl : writeTs < jb.readTs)
    (h : (jitterBufferLateAdjust jb ts writeTs).2 = some w) :
    jb.readTs ≤ w ∧ w.toNat < jb.readTs.toNat + (jb.frameCount + 1) * jb.frameTs.toNat := by
  obtain ⟨hw1, hw2⟩ := hr
  have hl' : writeTs.toNat < jb.readTs.toNat := UInt32.lt_iff_toNat_lt.1 hl
  have hn : writeTs.toNat = (jb.tsPosition ts).toNat - (jb.tsPosition ts).toNat % jb.frameTs.toNat := by
    rw [hw, frameAllign_toNat]
  -- frames have a length, otherwise every position would be aligned to the read position
  have hF : 0 < jb.frameTs.toNat := by
    rcases Nat.eq_zero_or_pos jb.frameTs.toNat with h0 | hp
    · rw [h0, Nat.zero_dvd] at ha; omega
    · exact hp
  have hv : jb.frameTs.toNat ∣ writeTs.toNat := hn ▸ Nat.dvd_sub_mod _
  have hm' : jb.maxPlayoutDelayTs.toNat < (jb.frameCount + 1) * jb.frameTs.toNat :=
    (Nat.div_lt_iff_lt_mul hF).1 (Nat.lt_succ_of_le hm)
  have hmd := Nat.mod_lt (jb.tsPosition ts).toNat hF
  have hdl : (jb.readTs - writeTs).toNat = jb.readTs.toNat - writeTs.toNat :=
    UInt32.toNat_sub_of_le _ _ (UInt32.le_of_lt hl)
  have hd : jb.frameTs.toNat ∣ (jb.readTs - writeTs).toNat := hdl ▸ Nat.dvd_sub ha hv
  have hFle : jb.frameTs.toNat ≤ (jb.readTs - writeTs).toNat := Nat.le_of_dvd (by omega) hd
  obtain ⟨hsk1, hsk2⟩ := skewDeltaTs_spec hd (by omega)
  unfold jitterBufferLateAdjust at h
  by_cases hs : jb.config.timeSkewDetection
  · rw [if_pos hs] at h
    have hsm := jitterBufferSkewAdjust_sameStore jb ts writeTs (jb.readTs - writeTs)
    have hc := jitterBufferSkewAdjust_cases jb ts writeTs (jb.readTs - writeTs)
    generalize jitterBufferSkewAdjust jb ts writeTs (jb.readTs - writeTs) = adjusted at h hsm hc
    obtain ⟨jb', out⟩ := adjusted
    dsimp only at h hsm hc
    rcases hc with ⟨rfl, rfl⟩ | ⟨skewTs, hk, hq, rfl⟩
    · -- no time skew: the playout delay is adjusted
      dsimp only at h
      rcases jitterBufferDelayAdjust_some h with ⟨h0, -⟩ | ⟨-, hle, rfl⟩
      · have hz := congrArg UInt32.toNat h0
        simp only [UInt32.toNat_zero] at hz
        omega
      · rw [le_iff_toNat_le, toNat_add_of_lt hsk2] at hle
        rw [le_iff_toNat_le, toNat_add_of_lt (by omega)]
        omega
    · -- the offset is moved by the skew, and the playout delay by what is then left
      have hk' : skewTs.toNat ≤ jb.playoutDelayTs.toNat := UInt32.le_iff_toNat_le.1 hk
      have hp : (jb.tsPosition ts + skewTs).toNat = (jb.tsPosition ts).toNat + skewTs.toNat :=
        toNat_add_of_lt (by omega)
      dsimp only at h
      by_cases hlt : skewTs < skewDeltaTs jb (jb.readTs - writeTs)
      · rw [if_pos hlt] at h
        have hlt' := UInt32.lt_iff_toNat_lt.1 hlt
        have hb := UInt32.toNat_sub_of_le _ _ (UInt32.le_of_lt hlt)
        rcases jitterBufferDelayAdjust_some h with ⟨h0, -⟩ | ⟨-, hle, rfl⟩
        · have hz := congrArg UInt32.toNat h0
          simp only [UInt32.toNat_zero] at hz
          omega
        · rw [hq, hsm.maxPlayoutDelayTs, le_iff_toNat_le, toNat_add_of_lt (by omega)] at hle
          rw [le_iff_toNat_le, toNat_add_of_lt (by omega)]
          omega
      · rw [if_neg hlt] at h
        have hlt' := UInt32.le_iff_toNat_le.1 (UInt32.not_lt.1 hlt)
        rcases jitterBufferDelayAdjust_some h with ⟨-, rfl⟩ | ⟨h0, -⟩
        · rw [le_iff_toNat_le]
          omega
        · exact absurd rfl h0
  · rw [if_neg hs] at h
    rcases jitterBufferDelayAdjust_some h with ⟨h0, -⟩ | ⟨-, -, rfl⟩
    · have hz := congrArg UInt32.toNat h0
      simp only [UInt32.toNat_zero] at hz
      omega
    · have hln : jb.frameTs.toNat ≤ (jb.frameCount + 1) * jb.frameTs.toNat := Nat.le_mul_of_pos_left _ (by omega)
      rw [le_iff_toNat_le, toNat_add_of_lt (by omega)]
      omega

variable {w : UInt32}

theorem jitterBufferWritePosition_window {buffer : Bytes} {marker : Bool} (ha : jb.frameTs.toNat ∣ jb.readTs.toNat)
    (hm : jb.maxPlayoutDelayTs.toNat / jb.frameTs.toNat ≤ jb.frameCount) (hwr : jb.NoWrap)
    (hi : InWindow jb (.write buffer ts marker)) (h : (jitterBufferWritePosition jb ts marker).2 = some w) :
    jb.readTs ≤ w ∧ jb.framesAhead w ≤ jb.frameCount := by
  have hs := (resync_sameStore jb marker).trans (jitterBufferWritePrepare_sameStore (jb.resync marker) ts)
  have hd : (jitterBufferWritePrepare (jb.resync marker) ts).1.playoutDelayTs = jb.playoutDelayTs := by
    unfold jitterBufferWritePrepare JitterBuffer.resync JitterBuffer.synchronize
    dsimp only
    split_ifs <;> rfl
  have hp := jitterBufferWritePrepare_resync jb ts marker
  unfold jitterBufferWritePosition at h
  dsimp only at h
  rw [hs.readTs, hp] at h
  by_cases hr : jb.arrivalTs ts marker ≥ jb.readTs
  · rw [if_pos hr] at h
    cases h
    exact ⟨hr, hi.1 hr⟩
  · rw [if_neg hr] at h
    split_ifs at h
    have hl := UInt32.not_le.1 hr
    have hw := jitterBufferLateAdjust_window (jitterBufferWritePrepare (jb.resync marker) ts).1
      (by rw [hs.frameTs, hs.readTs]; exact ha)
      (by rw [hs.maxPlayoutDelayTs, hs.frameTs, hs.frameCount]; exact hm)
      (by rw [hd, hs.frameTs, hs.frameCount]; exact hi.2 hl)
      (by
        unfold JitterBuffer.NoWrap
        rw [hs.readTs, hs.frameCount, hs.frameTs, hd]
        exact hwr)
      hp.symm (by rw [hs.readTs]; exact hl) h
    rw [hs.readTs, hs.frameCount, hs.frameTs] at hw
    exact ⟨hw.1, framesAhead_le hw.1 hw.2⟩

end Positions

/-! ## The window -/

/-- The frame numbers of the window: those from the read position to `frameCount` frames behind it. -/
def JitterBuffer.OfWindow (jb : JitterBuffer) (number : Nat) : Prop :=
  jb.frameNumber jb.readTs ≤ number ∧ (jb.frameCount ≠ 0 → number < jb.frameNumber jb.readTs + jb.frameCount)

theorem SameStore.framesAhead {a b : JitterBuffer} (h : SameStore a b) (ts : UInt32) :
    b.framesAhead ts = a.framesAhead ts := by
  simp [JitterBuffer.framesAhead, h.frameTs, h.readTs]

theorem SameStore.ofWindow {a b : JitterBuffer} (h : SameStore a b) {n : Nat} : b.OfWindow n ↔ a.OfWindow n := by
  simp [JitterBuffer.OfWindow, JitterBuffer.frameNumber, h.frameTs, h.readTs, h.frameCount]

section Window

variable {jb : JitterBuffer}

theorem JitterBuffer.OfWindow.unique {m n : Nat} (hm : jb.OfWindow m) (hn : jb.OfWindow n)
    (h : m % jb.frameCount = n % jb.frameCount) : m = n := by
  rcases Nat.eq_zero_or_pos jb.frameCount with h0 | hp
  · simpa [h0] using h
  · have hm' := hm.2 hp.ne'
    have hn' := hn.2 hp.ne'
    have hm1 := hm.1
    have hn1 := hn.1
    refine Nat.ModEq.eq_of_abs_lt h ?_
    rw [abs_lt]
    omega

theorem ofWindow_of_framesAhead {ts : UInt32} (ha : jb.frameTs.toNat ∣ jb.readTs.toNat) (h : jb.readTs ≤ ts)
    (hlt : jb.framesAhead ts < jb.frameCount) : jb.OfWindow (jb.frameNumber ts) := by
  rw [framesAhead_of_le h] at hlt
  rw [le_iff_toNat_le] at h
  refine ⟨Nat.div_le_div_right h, fun _ => ?_⟩
  unfold JitterBuffer.frameNumber
  obtain ⟨n, hn⟩ := ha
  rcases Nat.eq_zero_or_pos jb.frameTs.toNat with h0 | hp
  · rw [h0, Nat.div_zero, Nat.div_zero]; omega
  · have hs : ts.toNat = (ts.toNat - jb.readTs.toNat) + jb.frameTs.toNat * n := by omega
    rw [hs, Nat.add_mul_div_left _ _ hp, hn, Nat.mul_div_cancel_left _ hp]
    rw [hn] at hlt
    omega

theorem ofWindow_readTs : jb.OfWindow (jb.frameNumber jb.readTs) := ⟨le_refl _, fun _ => by omega⟩

variable {writeTs : UInt32} {v : UInt32 × Bool}

variable {buffer : Bytes}

theorem fillVisits_position {n : Nat} {jb : JitterBuffer} (hr : writeTs.toNat + n * jb.frameTs.toNat < 2 ^ 32)
    (hv : v ∈ fillVisits n jb buffer writeTs) : ∃ k < n, v.1.toNat = writeTs.toNat + k * jb.frameTs.toNat := by
  induction n generalizing jb buffer writeTs with
  | zero => simp [fillVisits] at hv
  | succ n ih =>
    have hn : (writeTs + jb.frameTs).toNat = writeTs.toNat + jb.frameTs.toNat :=
      toNat_add_of_lt (by rw [Nat.add_mul, Nat.one_mul] at hr; omega)
    by_cases hb : buffer = []
    · simp [fillVisits, hb] at hv
    · simp only [fillVisits, if_neg hb] at hv
      cases hd : codecDissect jb.codec buffer (jb.codecFrameGet writeTs) with
      | none =>
        rw [hd] at hv
        obtain rfl := mem_singleton.1 hv
        exact ⟨0, by omega, by simp⟩
      | some out =>
        rw [hd] at hv
        rcases mem_cons.1 hv with rfl | hv
        · exact ⟨0, by omega, by simp⟩
        · have hw' : (writeTs + jb.frameTs).toNat + n * (jb.audioSet writeTs out.2).frameTs.toNat < 2 ^ 32 := by
            rw [hn]
            rw [Nat.add_mul, Nat.one_mul] at hr
            exact lt_of_eq_of_lt (by simp only [JitterBuffer.audioSet, JitterBuffer.frameSet]; omega) hr
          obtain ⟨k, hk, hp⟩ := ih hw' hv
          refine ⟨k + 1, by omega, ?_⟩
          rw [hp, hn]
          simp only [JitterBuffer.audioSet, JitterBuffer.frameSet]
          ring

theorem fillVisits_window (ha : jb.frameTs.toNat ∣ jb.readTs.toNat)
    (hw : jb.readTs.toNat + (jb.frameCount + 1) * jb.frameTs.toNat < 2 ^ 32) (h : jb.readTs ≤ writeTs)
    (hle : jb.framesAhead writeTs ≤ jb.frameCount)
    (hv : v ∈ fillVisits (jb.frameCount - jb.framesAhead writeTs) jb buffer writeTs) :
    jb.OfWindow (jb.frameNumber v.1) := by
  have h' := UInt32.le_iff_toNat_le.1 h
  have hd := framesAhead_of_le h
  -- a position `d` frames ahead lies in front of the next frame
  have hn : jb.frameTs.toNat ≠ 0 →
      writeTs.toNat < jb.readTs.toNat + (jb.framesAhead writeTs + 1) * jb.frameTs.toNat := by
    intro h0
    have hlt := Nat.lt_mul_div_succ (writeTs.toNat - jb.readTs.toNat) (Nat.pos_of_ne_zero h0)
    rw [← hd, Nat.mul_comm] at hlt
    omega
  have hsp : (jb.framesAhead writeTs + 1) * jb.frameTs.toNat +
      (jb.frameCount - jb.framesAhead writeTs) * jb.frameTs.toNat = (jb.frameCount + 1) * jb.frameTs.toNat := by
    rw [← Nat.add_mul]
    congr 1
    omega
  have hr : writeTs.toNat + (jb.frameCount - jb.framesAhead writeTs) * jb.frameTs.toNat < 2 ^ 32 := by
    rcases Nat.eq_zero_or_pos jb.frameTs.toNat with h0 | hp
    · rw [h0]
      exact writeTs.toNat_lt
    · have hf := hn hp.ne'
      omega
  obtain ⟨k, hk, hp⟩ := fillVisits_position hr hv
  have hv' : jb.readTs ≤ v.1 := by rw [le_iff_toNat_le]; omega
  refine ofWindow_of_framesAhead ha hv' ?_
  rcases Nat.eq_zero_or_pos jb.frameTs.toNat with h0 | hF
  · rw [framesAhead_of_le hv', h0, Nat.div_zero]
    omega
  · refine lt_of_le_of_lt (framesAhead_le (n := jb.framesAhead writeTs + k) hv' ?_) (by omega)
    have hf := hn hF.ne'
    have hs : (jb.framesAhead writeTs + k + 1) * jb.frameTs.toNat =
        (jb.framesAhead writeTs + 1) * jb.frameTs.toNat + k * jb.frameTs.toNat := by ring
    omega

theorem availableFrameCount_eq (hle : jb.framesAhead writeTs ≤ jb.frameCount) :
    jb.availableFrameCount writeTs = jb.frameCount - jb.framesAhead writeTs := sizeSub_of_le hle

theorem eventVisit_window {namedEvent : NamedEventFrame} {ts : UInt32} {marker : Bool}
    (hal : jb.frameTs.toNat ∣ jb.readTs.toNat) (hv : eventVisit jb namedEvent ts marker = some v) :
    jb.OfWindow (jb.frameNumber v.1) := by
  -- what the placement of an event returns, in a buffer with the same store
  have hl : ∀ {jb' : JitterBuffer} (w w' : UInt32) (isNew : Bool), SameStore jb jb' →
      (jitterBufferEventPlace jb' w isNew).2 = .ok w' → jb.OfWindow (jb.frameNumber w') := by
    intro jb' w w' isNew hs h
    unfold jitterBufferEventPlace at h
    rw [hs.readTs, hs.frameTs, hs.frameCount] at h
    dsimp only at h
    have hr : w + (jb.readTs - w) = jb.readTs := by grind
    split_ifs at h with hla ha hm hn he
    · cases h
      rw [hr]
      exact ofWindow_readTs
    · cases h
      rw [hr]
      exact ofWindow_readTs
    · cases h
      exact ofWindow_of_framesAhead hal (UInt32.not_lt.1 hla) (Nat.lt_of_not_le he)
  have hpr := jitterBufferWritePrepare_sameStore jb ts
  have hd := hpr.trans (jitterBufferEventDetect_sameStore (jitterBufferWritePrepare jb ts).1 namedEvent
    (jitterBufferWritePrepare jb ts).2 marker)
  unfold eventVisit jitterBufferEventPosition at hv
  dsimp only at hv
  generalize jitterBufferEventDetect (jitterBufferWritePrepare jb ts).1 namedEvent
    (jitterBufferWritePrepare jb ts).2 marker = detected at hd hv
  obtain ⟨jb', _ | update⟩ := detected
  · dsimp only at hv
    generalize hp : jitterBufferEventPlace jb' (jitterBufferWritePrepare jb ts).2 true = place at hv
    obtain ⟨jb'', _ | w⟩ := place
    · cases hv
    · cases hv
      exact hl _ w true hd (congrArg Prod.snd hp)
  · dsimp only at hv
    split_ifs at hv
    generalize hp : jitterBufferEventPlace jb' ((jitterBufferWritePrepare jb ts).2 + update.duration.toUInt32)
      false = place at hv
    obtain ⟨jb'', _ | w⟩ := place
    · cases hv
    · cases hv
      exact hl _ w false hd (congrArg Prod.snd hp)

end Window

/-! ## The invariant -/

/-- A slot holds something with the origin `s`. -/
def SlotStamps.Holds (stamps : SlotStamps) (s : Stamp) : Prop :=
  stamps.audio = some s ∨ stamps.event = some s ∨ stamps.marker = some s

/-- The read position is a multiple of the frame, and each slot holds what was written for its one position of the
window. -/
structure Windowed (t : Stamped) : Prop where
  aligned : t.jb.frameTs.toNat ∣ t.jb.readTs.toNat
  maxDelay : t.jb.maxPlayoutDelayTs.toNat / t.jb.frameTs.toNat ≤ t.jb.frameCount
  held : ∀ i s, (t.stamps i).Holds s → s.number % t.jb.frameCount = i ∧ t.jb.OfWindow s.number

def Stamped.visited (t : Stamped) : JbOp → List UInt32
  | .write buffer ts marker => (writeVisits t.jb buffer ts marker).map Prod.fst
  | .eventWrite namedEvent ts marker => (eventVisit t.jb namedEvent ts marker).toList.map Prod.fst
  | _ => []

variable {t : Stamped} {op : JbOp}

theorem holds_stampsAfter {i : Nat} {s : Stamp} (h : (t.stampsAfter op i).Holds s) :
    (t.stamps i).Holds s ∨ ∃ ts ∈ t.visited op, t.jb.frameIndex ts = i ∧ s.number = t.jb.frameNumber ts := by
  cases op with
  | write buffer ts marker =>
    have hf : ∀ (visits : List (UInt32 × Bool)) (stamps : Nat → SlotStamps),
        (t.stampAudio stamps visits i).Holds s → (stamps i).Holds s ∨
          ∃ ts ∈ visits.map Prod.fst, t.jb.frameIndex ts = i ∧ s.number = t.jb.frameNumber ts := by
      intro visits
      induction visits with
      | nil => exact fun stamps h => Or.inl h
      | cons v visits ih =>
        intro stamps h
        obtain ⟨ts', stored⟩ := v
        cases stored with
        | false =>
          rcases ih stamps h with h | ⟨ts, ht, hi, hn⟩
          · exact Or.inl h
          · exact Or.inr ⟨ts, mem_cons_of_mem _ ht, hi, hn⟩
        | true =>
          rcases ih _ h with h | ⟨ts, ht, hi, hn⟩
          · by_cases hi : i = t.jb.frameIndex ts'
            · rw [hi, update_self] at h
              rcases h with h | h | h
              · exact Or.inr ⟨ts', by simp, hi.symm, by rw [← Option.some.inj h]; rfl⟩
              · exact Or.inl (Or.inr (Or.inl (hi ▸ h)))
              · exact Or.inl (Or.inr (Or.inr (hi ▸ h)))
            · rw [update_of_ne hi] at h
              exact Or.inl h
          · exact Or.inr ⟨ts, mem_cons_of_mem _ ht, hi, hn⟩
    exact hf _ _ h
  | eventWrite namedEvent ts marker =>
    simp only [Stamped.stampsAfter] at h
    simp only [Stamped.visited]
    cases hv : eventVisit t.jb namedEvent ts marker with
    | none =>
      rw [hv] at h
      exact Or.inl h
    | some v =>
      obtain ⟨ts', isNew⟩ := v
      rw [hv] at h
      simp only [Stamped.stampEvent] at h
      by_cases hi : i = t.jb.frameIndex ts'
      · rw [hi, update_self] at h
        rcases h with h | h | h
        · exact Or.inl (Or.inl (hi ▸ h))
        · exact Or.inr ⟨ts', by simp, hi.symm, by rw [← Option.some.inj h]; rfl⟩
        · dsimp only at h
          split_ifs at h
          · exact Or.inr ⟨ts', by simp, hi.symm, by rw [← Option.some.inj h]; rfl⟩
          · exact Or.inl (Or.inr (Or.inr (hi ▸ h)))
      · rw [update_of_ne hi] at h
        exact Or.inl h
  | read mediaFrame =>
    simp only [Stamped.stampsAfter] at h
    by_cases hi : i = t.jb.frameIndex t.jb.readTs
    · rw [hi, update_self] at h
      rcases h with h | h | h <;> cases h
    · rw [update_of_ne hi] at h
      exact Or.inl h
  | restart => exact Or.inl h

theorem not_holds_stampsAfter_read {mediaFrame : Frame} {s : Stamp} :
    ¬(t.stampsAfter (.read mediaFrame) (t.jb.frameIndex t.jb.readTs)).Holds s := by
  simp only [Stamped.stampsAfter, update_self]
  rintro (h | h | h) <;> cases h

theorem visited_window (h : Windowed t) (hw : t.jb.NoWrap) (hi : InWindow t.jb op) {ts : UInt32}
    (ht : ts ∈ t.visited op) : t.jb.OfWindow (t.jb.frameNumber ts) := by
  cases op with
  | write buffer ts' marker =>
    obtain ⟨v, hv, rfl⟩ := mem_map.1 ht
    obtain ⟨jb', hs, hc⟩ := jitterBufferWrite_cases t.jb buffer ts' marker
    rcases hc with ⟨-, -, hvs⟩ | ⟨writeTs, hp, ⟨-, -, hvs⟩ | ⟨-, -, hvs⟩⟩
    · rw [hvs] at hv; cases hv
    · rw [hvs] at hv; cases hv
    · obtain ⟨hr, hle⟩ := jitterBufferWritePosition_window h.aligned h.maxDelay hw hi hp
      have hle' : jb'.framesAhead writeTs ≤ jb'.frameCount := by rwa [hs.framesAhead, hs.frameCount]
      rw [hvs, ← hs.availableFrameCount, availableFrameCount_eq hle'] at hv
      have hm := fillVisits_window (by rw [hs.frameTs, hs.readTs]; exact h.aligned)
        (by rw [hs.frameTs, hs.readTs, hs.frameCount]; exact hw.1) (by rw [hs.readTs]; exact hr) hle' hv
      exact hs.ofWindow.1 (hs.frameNumber v.1 ▸ hm)
  | eventWrite namedEvent ts' marker =>
    obtain ⟨v, hv, rfl⟩ := mem_map.1 ht
    exact eventVisit_window h.aligned (Option.mem_toList.1 hv)
  | read mediaFrame => cases ht
  | restart => cases ht

/-- **One operation** keeps the invariant. -/
theorem stampedStep_windowed (h : Windowed t) (hw : t.jb.NoWrap) (hin : InWindow t.jb op) :
    Windowed (stampedStep t op).1 := by
  obtain ⟨hd, hr⟩ := jitterBufferStep_dims t.jb op
  -- the read position moves by a whole frame, or not at all
  have ht : (jitterBufferStep t.jb op).1.readTs.toNat = t.jb.readTs.toNat ∨
      ((∃ mediaFrame, op = .read mediaFrame) ∧
        (jitterBufferStep t.jb op).1.readTs.toNat = t.jb.readTs.toNat + t.jb.frameTs.toNat) := by
    cases op with
    | read mediaFrame =>
      refine Or.inr ⟨⟨mediaFrame, rfl⟩, ?_⟩
      have hm := hw.1
      rw [Nat.add_mul, Nat.one_mul] at hm
      rw [hr]
      exact toNat_add_of_lt (by omega)
    | write buffer ts marker => exact Or.inl (congrArg UInt32.toNat hr)
    | eventWrite namedEvent ts marker => exact Or.inl (congrArg UInt32.toNat hr)
    | restart => exact Or.inl rfl
  refine ⟨?_, ?_, ?_⟩
  · rw [stampedStep_jb, hd.frameTs]
    rcases ht with ht | ⟨-, ht⟩
    · rw [ht]; exact h.aligned
    · rw [ht]; exact Nat.dvd_add h.aligned (dvd_refl _)
  · rw [stampedStep_jb, hd.frameTs, hd.maxPlayoutDelayTs, hd.frameCount]
    exact h.maxDelay
  · intro i s hs
    have ho : s.number % t.jb.frameCount = i ∧ t.jb.OfWindow s.number := by
      rcases holds_stampsAfter hs with ho | ⟨ts, hts, rfl, hn⟩
      · exact h.held i s ho
      · exact ⟨by rw [hn]; rfl, hn ▸ visited_window h hw hin hts⟩
    obtain ⟨hi, hl, hh⟩ := ho
    rw [stampedStep_jb, hd.frameCount]
    refine ⟨hi, ?_⟩
    unfold JitterBuffer.OfWindow JitterBuffer.frameNumber at *
    rw [hd.frameTs, hd.frameCount]
    rcases ht with ht | ⟨⟨mediaFrame, rfl⟩, ht⟩
    · rw [ht]; exact ⟨hl, hh⟩
    · -- the slot at the old read position is empty now, so every number lies behind it
      rw [ht]
      rcases Nat.eq_zero_or_pos t.jb.frameTs.toNat with h0 | hp
      · rw [h0] at hl hh ⊢; exact ⟨hl, hh⟩
      · rw [Nat.add_div_right _ hp]
        have hne : s.number ≠ t.jb.readTs.toNat / t.jb.frameTs.toNat := by
          rintro heq
          refine @not_holds_stampsAfter_read t mediaFrame s ?_
          have hsl : i = t.jb.frameIndex t.jb.readTs := by rw [← hi, heq]; rfl
          exact hsl ▸ hs
        exact ⟨by omega, fun h0 => by have := hh h0; omega⟩

/-! ## The result -/

/-- No write visits a slot that holds a frame for another position, nor changes one that it does not visit. -/
structure KeepsOtherFrames (t : Stamped) (op : JbOp) : Prop where
  visited : ∀ ts ∈ t.visited op, ∀ s, (t.stamps (t.jb.frameIndex ts)).Holds s → s.number = t.jb.frameNumber ts
  others : ∀ i, (∀ ts ∈ t.visited op, t.jb.frameIndex ts ≠ i) →
    (jitterBufferStep t.jb op).1.frames i = t.jb.frames i

/-- A packet whose position lies `frameCount` frames or more ahead is too early, and changes nothing. -/
def TooEarlyDiscarded (jb : JitterBuffer) (buffer : Bytes) (ts : UInt32) (marker : Bool) : Prop :=
  ∀ w, (jitterBufferWritePosition jb ts marker).2 = some w → jb.frameCount ≤ jb.framesAhead w →
    (jitterBufferWrite jb buffer ts marker).2 = .discardTooEarly ∧
      (jitterBufferWrite jb buffer ts marker).1.frames = jb.frames ∧
      (jitterBufferWrite jb buffer ts marker).1.writeTs = jb.writeTs

/-- What is required of an operation: a write keeps to the window, and to its own frames. -/
def WindowKept (t : Stamped) : JbOp → Prop
  | .write buffer ts marker =>
    TooEarlyDiscarded t.jb buffer ts marker ∧ KeepsOtherFrames t (.write buffer ts marker)
  | .eventWrite namedEvent ts marker => KeepsOtherFrames t (.eventWrite namedEvent ts marker)
  | _ => True

theorem keepsOtherFrames_of_windowed (h : Windowed t) (hr : t.jb.NoWrap) (hin : InWindow t.jb op)
    (ho : ∀ mediaFrame, op ≠ .read mediaFrame) : KeepsOtherFrames t op := by
  refine ⟨fun ts ht s hs => ?_, fun i hi => ?_⟩
  · obtain ⟨hl, hn⟩ := h.held _ s hs
    exact hn.unique (visited_window h hr hin ht) hl
  · cases op with
    | write buffer ts marker =>
      obtain ⟨jb', hs, hc⟩ := jitterBufferWrite_cases t.jb buffer ts marker
      simp only [jitterBufferStep]
      simp only [Stamped.visited] at hi
      rcases hc with ⟨-, hw, -⟩ | ⟨writeTs, -, ⟨-, hw, -⟩ | ⟨-, hw, hv⟩⟩
      · rw [hw]; exact congrFun hs.frames i
      · rw [hw]; exact congrFun hs.frames i
      · obtain ⟨ts', ha⟩ := writeAdvance_eq
          (jitterBufferFill (t.jb.availableFrameCount writeTs) jb' buffer writeTs).1
          (jitterBufferFill (t.jb.availableFrameCount writeTs) jb' buffer writeTs).2
        rw [hw, ha]
        rw [hv] at hi
        refine (jitterBufferFill_frames_of_not_visited jb' _ buffer writeTs fun v hv' => ?_).trans
          (congrFun hs.frames i)
        rw [hs.frameIndex]
        exact hi v.1 (mem_map_of_mem hv')
    | eventWrite namedEvent ts marker =>
      obtain ⟨jb', hs, hc⟩ := jitterBufferEventWrite_cases t.jb namedEvent ts marker
      simp only [jitterBufferStep]
      simp only [Stamped.visited] at hi
      rcases hc with ⟨result, hw, -⟩ | ⟨writeTs, isNew, -, hw, hv⟩
      · rw [hw]; exact congrFun hs.frames i
      · obtain ⟨ts', ha⟩ := writeAdvance_eq (jb'.eventSet writeTs namedEvent isNew) (writeTs + jb'.frameTs)
        rw [hw, ha]
        rw [hv] at hi
        have hne : t.jb.frameIndex writeTs ≠ i := hi writeTs (by simp)
        rw [← hs.frameIndex] at hne
        exact (update_of_ne hne.symm _ _).trans (congrFun hs.frames i)
    | read mediaFrame => exact absurd rfl (ho mediaFrame)
    | restart => rfl

theorem windowKept_of_windowed (h : Windowed t) (hr : t.jb.NoWrap) (hi : InWindow t.jb op) : WindowKept t op := by
  cases op with
  | write buffer ts marker =>
    refine ⟨fun w hw hge => ?_, keepsOtherFrames_of_windowed h hr hi (by simp)⟩
    obtain ⟨-, hle⟩ := jitterBufferWritePosition_window h.aligned h.maxDelay hr hi hw
    have h0 : t.jb.availableFrameCount w = 0 := by rw [availableFrameCount_eq hle]; omega
    obtain ⟨jb', hs, hc⟩ := jitterBufferWrite_cases t.jb buffer ts marker
    rcases hc with ⟨hp, -⟩ | ⟨writeTs, hp, ⟨-, hwr, -⟩ | ⟨hne, -⟩⟩
    · rw [hw] at hp; cases hp
    · rw [hwr]; exact ⟨rfl, hs.frames, hs.writeTs⟩
    · rw [hw] at hp
      cases hp
      exact absurd h0 hne
  | eventWrite namedEvent ts marker => exact keepsOtherFrames_of_windowed h hr hi (by simp)
  | read mediaFrame => trivial
  | restart => trivial

variable (jbConfig : Option JbConfig)

theorem maxPlayoutDelayTs_new (descriptor : CodecDescriptor) (codec : Codec) :
    (jitterBufferCreate jbConfig descriptor codec).maxPlayoutDelayTs.toNat /
      (jitterBufferCreate jbConfig descriptor codec).frameTs.toNat ≤
        (jitterBufferCreate jbConfig descriptor codec).frameCount := by
  have hb : codecFrameTimeBase.toUInt32.toNat = 10 := rfl
  have hc : ∀ config : JbConfig, config.alignInitial.maxPlayoutDelay = config.maxPlayoutDelay := by
    intro config
    unfold JbConfig.alignInitial
    split_ifs <;> rfl
  simp only [jitterBufferCreate, hc]
  generalize (codecFrameSamplesCalculate descriptor).toUInt32 = frameTs
  generalize ((jbConfig.getD .init).validate).maxPlayoutDelay = delay
  rw [UInt32.toNat_div, UInt32.toNat_mul, UInt32.toNat_div, hb, Nat.div_div_eq_div_mul]
  rcases Nat.eq_zero_or_pos frameTs.toNat with h0 | hp
  · simp [h0]
  · calc frameTs.toNat * delay.toNat % 2 ^ 32 / (10 * frameTs.toNat)
        ≤ frameTs.toNat * delay.toNat / (10 * frameTs.toNat) := Nat.div_le_div_right (Nat.mod_le _ _)
      _ = delay.toNat / 10 := by rw [Nat.mul_comm 10, Nat.mul_div_mul_left _ _ hp]

theorem windowed_new (descriptor : CodecDescriptor) (codec : Codec) :
    Windowed (Stamped.new (jitterBufferCreate jbConfig descriptor codec)) := by
  refine ⟨Nat.dvd_zero _, ?_, fun i s hs => ?_⟩
  · exact maxPlayoutDelayTs_new jbConfig descriptor codec
  · rcases hs with h | h | h <;> cases h

/-- **The write window.** In every run from a new buffer in which no position wraps and no packet arrives more than
`frameCount` frames ahead, one that lies `frameCount` frames ahead is discarded as too early, and no write changes a
slot that holds an unread frame of another playout position. -/
theorem jitterBuffer_window_kept (jbConfig : Option JbConfig) (descriptor : CodecDescriptor) (codec : Codec)
    (ops : List JbOp)
    (h : EachStep stampedStep (fun t op => t.jb.NoWrap ∧ InWindow t.jb op)
      (Stamped.new (jitterBufferCreate jbConfig descriptor codec)) ops) :
    EachStep stampedStep WindowKept (Stamped.new (jitterBufferCreate jbConfig descriptor codec)) ops :=
  eachStep_of_invariant Windowed _ WindowKept (fun _ _ ht hok => stampedStep_windowed ht hok.1 hok.2)
    (fun _ _ ht hok => windowKept_of_windowed ht hok.1 hok.2) _ ops (windowed_new jbConfig descriptor codec) h

/-- A run that keeps to the window, with a packet exactly `frameCount` frames ahead. -/
theorem jitterBuffer_window_kept_run :
    EachStep stampedStep WindowKept
      (Stamped.new (jitterBufferCreate (some ⟨0, 10, 20, false, false⟩) ⟨8000, 1⟩ { attribs := ⟨8⟩ }))
      [.write (List.replicate 80 1) 1000 false, .write (List.replicate 80 2) 1080 false, .read {},
        .eventWrite { eventId := 1 } 1080 true, .restart] :=
  jitterBuffer_window_kept (some ⟨0, 10, 20, false, false⟩) ⟨8000, 1⟩ { attribs := ⟨8⟩ }
    [.write (List.replicate 80 1) 1000 false, .write (List.replicate 80 2) 1080 false, .read {},
      .eventWrite { eventId := 1 } 1080 true, .restart] (by decide)

/-- A packet five frames ahead in a buffer of two frames overwrites an unread frame of another position. -/
theorem jitterBuffer_window_overwritten :
    ¬∀ (jbConfig : Option JbConfig) (descriptor : CodecDescriptor) (codec : Codec) (ops : List JbOp),
      EachStep stampedStep (fun t _ => t.jb.NoWrap)
        (Stamped.new (jitterBufferCreate jbConfig descriptor codec)) ops →
      EachStep stampedStep WindowKept (Stamped.new (jitterBufferCreate jbConfig descriptor codec)) ops := by
  intro h
  have hrun := h (some ⟨0, 10, 20, false, false⟩) ⟨8000, 1⟩ { attribs := ⟨8⟩ }
    [.write (List.replicate 80 1) 1000 false, .write (List.replicate 80 2) 1320 false] (by decide)
  have hkeep := hrun.2.1.2.visited 400 (by decide) ⟨0, 1⟩ (Or.inl rfl)
  exact absurd hkeep (by decide)

end UniMrcp.Mpf
