import UniMrcp.Mpf.Rtp.Receiver

/-!
# Extended sequence numbers

What the receiver should know of the sequence numbers, as books that are kept of its events, and that its counters
agree with them.
-/

namespace UniMrcp.Mpf

open Lib List

/-- The number that a sequence number stands for: less than `MAX_DROPOUT` from the highest number on, or less than
`MAX_MISORDER` before it. -/
def extendedNumber (highest : ℤ) (seqNum : UInt16) : Option ℤ :=
  let ahead := ((seqNum.toNat : ℤ) - highest) % 2 ^ 16
  if ahead < 3000 then some (highest + ahead)
  else if 2 ^ 16 - 100 < ahead then some (highest + ahead - 2 ^ 16)
  else none

/-- The first sequence number since the last initialization, the extended numbers accepted, and the number of packets
counted. -/
structure RtpBooks where
  base : ℕ
  accepted : List ℤ
  counted : ℕ

def RtpBooks.empty : RtpBooks := ⟨0, [], 0⟩

def RtpBooks.expected (b : RtpBooks) : ℤ := if b.counted = 0 then 0 else b.accepted.max?.getD 0 - b.base + 1

def rtpRecord (b : RtpBooks) : RtpRxEvent → RtpBooks × Unit
  | .init seqNum => (⟨seqNum.toNat, [(seqNum.toNat : ℤ)], 0⟩, ())
  | .restart => (.empty, ())
  | .seqUpdate seqNum =>
    ({ b with
        accepted := (b.accepted.max?.bind fun highest => extendedNumber highest seqNum).toList ++ b.accepted
        counted := b.counted + 1 }, ())
  | .deviation _ => (b, ())
  | .write _ _ _ => (b, ())

def RtpBooks.Within (b : RtpBooks) : Prop := b.counted < 2 ^ 32 ∧ ∀ n ∈ b.accepted, n < 2 ^ 32 - 1

instance (b : RtpBooks) : Decidable b.Within := inferInstanceAs (Decidable (_ ∧ _))

def EntersWithin (b : RtpBooks) (e : RtpRxEvent) : Prop := (rtpRecord b e).1.Within

instance (b : RtpBooks) (e : RtpRxEvent) : Decidable (EntersWithin b e) :=
  inferInstanceAs (Decidable (RtpBooks.Within _))

structure RtpCounters where
  seqCycles : UInt32
  seqNumBase : UInt16
  seqNumMax : UInt16
  receivedPackets : UInt32
  expectedPrior : UInt32
  receivedPrior : UInt32
  deriving DecidableEq

def RtpReceiver.counters (r : RtpReceiver) : RtpCounters :=
  { seqCycles := r.history.seqCycles
    seqNumBase := r.history.seqNumBase
    seqNumMax := r.history.seqNumMax
    receivedPackets := r.stat.receivedPackets
    expectedPrior := r.periodicHistory.expectedPrior
    receivedPrior := r.periodicHistory.receivedPrior }

def RtpCounters.extended (c : RtpCounters) : ℕ := c.seqCycles.toNat + c.seqNumMax.toNat

structure Tracks (c : RtpCounters) (b : RtpBooks) : Prop where
  within : b.Within
  cycles : 2 ^ 16 ∣ c.seqCycles.toNat
  counted : c.receivedPackets.toNat = b.counted
  idle : b.accepted = [] → c.extended = 0 ∧ b.counted = 0
  highest : b.accepted ≠ [] → b.accepted.max? = some (c.extended : ℤ)
  base : b.accepted ≠ [] → c.seqNumBase.toNat = b.base ∧ b.base ≤ c.extended
  fresh : b.counted = 0 → c.seqCycles = 0 ∧ c.expectedPrior = 0 ∧ c.receivedPrior = 0
  receivedPrior : c.receivedPrior.toNat ≤ b.counted
  expectedPrior : (c.expectedPrior.toNat : ℤ) ≤ b.expected
  grown : (c.expectedPrior.toNat : ℤ) < b.expected → c.receivedPrior.toNat < b.counted

section Frame

variable (r : RtpReceiver)

@[simp] theorem counters_ssrcUpdate (ssrc : UInt32) : (rtpRxSsrcUpdate r ssrc).1.counters = r.counters := by
  rw [rtpRxSsrcUpdate]
  split
  · split <;> rfl
  · split
    · dsimp only
      split <;> rfl
    · rfl

@[simp] theorem counters_tsUpdate (descriptor : CodecDescriptor) (time : Int64) (ts : UInt32) (marker : Bool) :
    (rtpRxTsUpdate r descriptor time ts marker).1.counters = r.counters := by
  rw [rtpRxTsUpdate]
  split <;> rfl

@[simp] theorem counters_countDiscarded : r.countDiscarded.counters = r.counters := rfl

@[simp] theorem counters_countIgnored : r.countIgnored.counters = r.counters := rfl

@[simp] theorem counters_countInvalid : r.countInvalid.counters = r.counters := rfl

@[simp] theorem counters_jb (jb : JitterBuffer) : ({ r with jb := jb } : RtpReceiver).counters = r.counters := rfl

@[simp] theorem counters_eventReceive (packet : RtpPacket) : (rtpRxEventReceive r packet).counters = r.counters := by
  rw [rtpRxEventReceive]
  split <;> rfl

theorem counters_restart : (rtpRxRestart r).counters = ⟨0, 0, 0, 0, 0, 0⟩ := rfl

end Frame

/-! ### Entries -/

open RtpBooks

theorem tracks_empty : Tracks ⟨0, 0, 0, 0, 0, 0⟩ .empty where
  within := ⟨by decide, by simp [empty]⟩
  cycles := by decide
  counted := rfl
  idle _ := ⟨rfl, rfl⟩
  highest h := absurd rfl h
  base h := absurd rfl h
  fresh _ := ⟨rfl, rfl, rfl⟩
  receivedPrior := Nat.le_refl 0
  expectedPrior := by decide
  grown h := absurd h (by decide)

variable {c : RtpCounters} {b : RtpBooks}

open RtpCounters

theorem Tracks.init (h : Tracks c b) (h0 : b.counted = 0) (seqNum : UInt16) :
    Tracks { c with seqNumBase := seqNum, seqNumMax := seqNum } (rtpRecord b (.init seqNum)).1 := by
  obtain ⟨hc, hx, hr⟩ := h.fresh h0
  have ht : extended { c with seqNumBase := seqNum, seqNumMax := seqNum } = seqNum.toNat := by
    simp [extended, hc]
  have hs := seqNum.toNat_lt
  constructor
  · refine ⟨Nat.two_pow_pos 32, ?_⟩
    intro n hn
    rw [mem_singleton.1 hn]
    omega
  · exact h.cycles
  · exact h.counted.trans h0
  · intro he
    cases he
  · intro _
    rw [ht]
    rfl
  · intro _
    exact ⟨rfl, ht.symm.le⟩
  · intro _
    exact ⟨hc, hx, hr⟩
  · simp [hr]
  · simp [hx, expected, rtpRecord]
  · simp [hx, expected, rtpRecord]

/-- The counters behind `rtp_rx_seq_update`. -/
def RtpCounters.seqUpdate (c : RtpCounters) (seqNum : UInt16) : RtpCounters :=
  if seqNum - c.seqNumMax < maxDropout then
    { c with
      seqCycles := if seqNum < c.seqNumMax then c.seqCycles + UInt32.ofNat rtpSeqMod else c.seqCycles
      seqNumMax := seqNum
      receivedPackets := c.receivedPackets + 1 }
  else { c with receivedPackets := c.receivedPackets + 1 }

theorem counters_seqUpdate (r : RtpReceiver) (seqNum : UInt16) :
    (rtpRxSeqUpdate r seqNum).1.counters = r.counters.seqUpdate seqNum := by
  rw [rtpRxSeqUpdate, seqUpdate]
  split
  · rename_i h
    exact (if_pos (show seqNum - r.counters.seqNumMax < maxDropout from h)).symm
  · rename_i h
    rw [if_neg (show ¬ seqNum - r.counters.seqNumMax < maxDropout from h)]
    split <;> rfl

theorem ahead_toNat (hc : 2 ^ 16 ∣ c.seqCycles.toNat) (seqNum : UInt16) :
    (((seqNum - c.seqNumMax).toNat : ℕ) : ℤ) = ((seqNum.toNat : ℤ) - (c.extended : ℤ)) % 2 ^ 16 := by
  obtain ⟨k, hk⟩ := hc
  have hs := seqNum.toNat_lt
  have hm := c.seqNumMax.toNat_lt
  rw [UInt16.toNat_sub, extended, hk]
  omega

theorem extended_seqUpdate (hc : 2 ^ 16 ∣ c.seqCycles.toNat) (seqNum : UInt16) (ahead : ℤ)
    (ha : ((seqNum.toNat : ℤ) - (c.extended : ℤ)) % 2 ^ 16 = ahead) (hlt : ahead < 3000)
    (hw : (c.extended : ℤ) + ahead < 2 ^ 32) :
    ((c.seqUpdate seqNum).extended : ℤ) = c.extended + ahead ∧ 2 ^ 16 ∣ (c.seqUpdate seqNum).seqCycles.toNat := by
  have hh := ahead_toNat hc seqNum
  obtain ⟨k, hk⟩ := hc
  have hs := seqNum.toNat_lt
  have hm := c.seqNumMax.toNat_lt
  have hdr : seqNum - c.seqNumMax < maxDropout := by
    rw [UInt16.lt_iff_toNat_lt]
    have h3 : maxDropout.toNat = 3000 := rfl
    omega
  rw [seqUpdate, if_pos hdr]
  simp only [extended] at ha hw ⊢
  have hd : (UInt32.ofNat rtpSeqMod).toNat = 2 ^ 16 := rfl
  by_cases hr : seqNum < c.seqNumMax
  · have hlt := UInt16.lt_iff_toNat_lt.1 hr
    rw [if_pos hr, UInt32.toNat_add, hd, hk]
    rw [hk] at ha hw
    omega
  · have hge : ¬ seqNum.toNat < c.seqNumMax.toNat := fun h => hr (UInt16.lt_iff_toNat_lt.2 h)
    rw [if_neg hr, hk]
    rw [hk] at ha hw
    omega

theorem seqUpdate_of_far (hc : 2 ^ 16 ∣ c.seqCycles.toNat) (seqNum : UInt16)
    (h : 3000 ≤ ((seqNum.toNat : ℤ) - (c.extended : ℤ)) % 2 ^ 16) :
    c.seqUpdate seqNum = { c with receivedPackets := c.receivedPackets + 1 } := by
  apply if_neg
  rw [UInt16.lt_iff_toNat_lt]
  have ha := ahead_toNat hc seqNum
  have h3 : maxDropout.toNat = 3000 := rfl
  omega

@[simp] theorem seqUpdate_others (c : RtpCounters) (seqNum : UInt16) :
    (c.seqUpdate seqNum).seqNumBase = c.seqNumBase ∧ (c.seqUpdate seqNum).expectedPrior = c.expectedPrior ∧
      (c.seqUpdate seqNum).receivedPrior = c.receivedPrior ∧
      (c.seqUpdate seqNum).receivedPackets = c.receivedPackets + 1 := by
  rw [seqUpdate]
  split <;> exact ⟨rfl, rfl, rfl, rfl⟩

theorem max_cons {a h : ℤ} {l : List ℤ} (hl : l.max? = some h) : (a :: l).max? = some (max a h) := by
  rw [List.max?_cons, hl]
  rfl

theorem Tracks.entered (h : Tracks c b) (ha : b.accepted ≠ []) (seqNum : UInt16)
    (hw : EntersWithin b (.seqUpdate seqNum)) :
    2 ^ 16 ∣ (c.seqUpdate seqNum).seqCycles.toNat ∧ c.extended ≤ (c.seqUpdate seqNum).extended ∧
      (rtpRecord b (.seqUpdate seqNum)).1.accepted.max? = some ((c.seqUpdate seqNum).extended : ℤ) := by
  have hm := h.highest ha
  have hmm := (List.max?_eq_some_iff.1 hm).1
  simp only [EntersWithin, rtpRecord, hm, Option.bind_some, extendedNumber] at hw ⊢
  generalize hh : ((seqNum.toNat : ℤ) - (c.extended : ℤ)) % 2 ^ 16 = ahead at *
  have hnn : 0 ≤ ahead := hh ▸ Int.emod_nonneg _ (by decide)
  have hlt16 : ahead < 2 ^ 16 := hh ▸ Int.emod_lt_of_pos _ (by decide)
  by_cases hlt : ahead < 3000
  · rw [if_pos hlt] at hw ⊢
    have hn := hw.2 (c.extended + ahead) (by simp)
    obtain ⟨he, hc⟩ := extended_seqUpdate h.cycles seqNum ahead hh hlt (by omega)
    refine ⟨hc, by omega, ?_⟩
    rw [Option.toList_some, singleton_append, max_cons hm, he, max_eq_left (by omega)]
  · have hf := seqUpdate_of_far h.cycles seqNum (by omega)
    rw [if_neg hlt]
    have he : (c.seqUpdate seqNum).extended = c.extended := by rw [hf]; rfl
    rw [he]
    refine ⟨by rw [hf]; exact h.cycles, Nat.le_refl _, ?_⟩
    split
    · rw [Option.toList_some, singleton_append, max_cons hm, max_eq_right (by omega)]
    · exact hm

theorem Tracks.seqUpdate (h : Tracks c b) (ha : b.accepted ≠ []) (seqNum : UInt16)
    (hw : EntersWithin b (.seqUpdate seqNum)) : Tracks (c.seqUpdate seqNum) (rtpRecord b (.seqUpdate seqNum)).1 := by
  obtain ⟨hcc, hle, hm⟩ := h.entered ha seqNum hw
  obtain ⟨hs, he, hc, hpc⟩ := seqUpdate_others c seqNum
  have hcn : b.counted + 1 < 2 ^ 32 := hw.1
  have hne : (rtpRecord b (.seqUpdate seqNum)).1.accepted ≠ [] := by
    simp [rtpRecord, ha]
  have hn : (rtpRecord b (.seqUpdate seqNum)).1.expected = ((c.seqUpdate seqNum).extended : ℤ) - b.base + 1 := by
    rw [expected, hm]
    exact if_neg (Nat.succ_ne_zero _)
  have hl : (c.expectedPrior.toNat : ℤ) ≤ (c.extended : ℤ) - b.base + 1 := by
    have hr := h.expectedPrior
    have hb := (h.base ha).2
    rw [expected, h.highest ha] at hr
    split at hr
    · omega
    · exact hr
  constructor
  · exact hw
  · exact hcc
  · have hp := h.counted
    have ho : (1 : UInt32).toNat = 1 := rfl
    simp only [rtpRecord]
    rw [hpc, UInt32.toNat_add, ho]
    omega
  · intro h0
    exact absurd h0 hne
  · intro _
    exact hm
  · intro _
    obtain ⟨hb, hle'⟩ := h.base ha
    rw [hs]
    exact ⟨hb, hle'.trans hle⟩
  · intro h0
    cases h0
  · rw [hc]
    exact h.receivedPrior.trans (Nat.le_succ _)
  · rw [he, hn]
    omega
  · intro _
    rw [hc]
    exact Nat.lt_succ_of_le h.receivedPrior

/-! ## Steps -/

def Recorded (b : RtpBooks) (r : RtpReceiver) (events : List RtpRxEvent) : Prop :=
  EachStep rtpRecord EntersWithin b events → Tracks r.counters (run rtpRecord b events).1

theorem recorded_nil {r : RtpReceiver} (h : Tracks c b) (hr : r.counters = c) : Recorded b r [] := fun _ => hr ▸ h

theorem recorded_cons {r : RtpReceiver} {e : RtpRxEvent} {events : List RtpRxEvent}
    (h : EntersWithin b e → Recorded (rtpRecord b e).1 r events) : Recorded b r (e :: events) :=
  fun hw => h hw.1 hw.2

theorem recorded_restart (b : RtpBooks) (r : RtpReceiver) : Recorded b (rtpRxRestart r) [.restart] :=
  recorded_cons fun _ => recorded_nil tracks_empty (counters_restart r)

theorem recorded_failureThreshold {r : RtpReceiver} (h : Tracks r.counters b) :
    Recorded b (rtpRxFailureThresholdCheck r).1 (rtpRxFailureThresholdCheck r).2 := by
  rw [rtpRxFailureThresholdCheck]
  split
  · exact recorded_restart b r
  · exact recorded_nil h rfl

theorem recorded_write {r : RtpReceiver} (h : Tracks r.counters b) (packet : RtpPacket) (marker : Bool) :
    Recorded b (rtpRxWrite r packet marker).1 (rtpRxWrite r packet marker).2 := by
  rw [rtpRxWrite]
  split
  · exact recorded_failureThreshold h
  · exact recorded_nil h rfl

theorem recorded_codecReceive {r : RtpReceiver} (h : Tracks r.counters b) (descriptor : CodecDescriptor)
    (time : Int64) (packet : RtpPacket) :
    Recorded b (rtpRxCodecReceive r descriptor time packet).1 (rtpRxCodecReceive r descriptor time packet).2.2 := by
  have ht := counters_tsUpdate r descriptor time packet.timestamp packet.marker
  rw [rtpRxCodecReceive]
  generalize rtpRxTsUpdate r descriptor time packet.timestamp packet.marker = updated at *
  split
  · exact recorded_restart b _
  · rw [← ht] at h
    exact recorded_cons fun _ => recorded_cons fun _ => recorded_write h packet _

theorem recorded_payloadReceive {r : RtpReceiver} (h : Tracks r.counters b) (descriptors : RtpRxDescriptors)
    (time : Int64) (packet : RtpPacket) :
    Recorded b (rtpRxPayloadReceive r descriptors time packet).1
      (rtpRxPayloadReceive r descriptors time packet).2.2 := by
  rw [rtpRxPayloadReceive]
  split
  · exact recorded_codecReceive h descriptors.codec time packet
  · split
    · exact recorded_nil h (counters_eventReceive r packet)
    · exact recorded_nil h rfl

theorem recorded_sourceReceive {r : RtpReceiver} (h : Tracks r.counters b) (ha : b.accepted ≠ [])
    (descriptors : RtpRxDescriptors) (time : Int64) (packet : RtpPacket) :
    Recorded b (rtpRxSourceReceive r descriptors time packet).1
      (rtpRxSourceReceive r descriptors time packet).2.2 := by
  rw [rtpRxSourceReceive]
  refine recorded_cons fun hw => recorded_payloadReceive ?_ descriptors time packet
  rw [counters_seqUpdate]
  exact h.seqUpdate ha packet.sequence hw

theorem tracks_firstInit {r : RtpReceiver} (h : Tracks r.counters b) (time : Int64) (packet : RtpPacket) :
    Tracks (rtpRxFirstInit r time packet).1.counters (run rtpRecord b (rtpRxFirstInit r time packet).2).1 ∧
      (run rtpRecord b (rtpRxFirstInit r time packet).2).1.accepted ≠ [] := by
  have hc : r.stat.receivedPackets.toNat = b.counted := h.counted
  rw [rtpRxFirstInit]
  split
  · rename_i h0
    rw [h0] at hc
    exact ⟨h.init hc.symm packet.sequence, cons_ne_nil _ _⟩
  · rename_i h0
    refine ⟨h, fun he => h0 (UInt32.toNat_inj.1 ?_)⟩
    rw [hc, (h.idle he).2]
    rfl

theorem recorded_append {r : RtpReceiver} {es fs : List RtpRxEvent} (h : Recorded (run rtpRecord b es).1 r fs) :
    Recorded b r (es ++ fs) := by
  intro hw
  rw [eachStep_append] at hw
  rw [run_append]
  exact h hw.2

theorem recorded_packetReceive {r : RtpReceiver} (h : Tracks r.counters b) (descriptors : RtpRxDescriptors)
    (time : Int64) (packet : Option RtpPacket) :
    Recorded b (rtpRxPacketReceive r descriptors time packet).1
      (rtpRxPacketReceive r descriptors time packet).2.2 := by
  cases packet with
  | none => exact recorded_nil h rfl
  | some packet =>
    obtain ⟨hf, ha⟩ := tracks_firstInit h time packet
    rw [rtpRxPacketReceive]
    rw [← counters_ssrcUpdate _ packet.ssrc] at hf
    split
    · rw [← append_nil (rtpRxFirstInit r time packet).2]
      exact recorded_append (recorded_nil hf rfl)
    · refine recorded_append (recorded_cons fun _ => recorded_cons fun _ => recorded_sourceReceive ?_ ?_ _ _ _)
      · exact tracks_empty.init rfl packet.sequence
      · exact cons_ne_nil _ _
    · exact recorded_append (recorded_sourceReceive hf ha descriptors time packet)

theorem expectedPackets_toNat {r : RtpReceiver} (h : Tracks r.counters b) :
    ((expectedPackets r).toNat : ℤ) = b.expected := by
  have hc : r.stat.receivedPackets.toNat = b.counted := h.counted
  rw [expectedPackets, expected]
  by_cases h0 : r.stat.receivedPackets = 0
  · rw [if_neg (not_not.2 h0), if_pos (hc ▸ h0 ▸ rfl)]
    rfl
  · have hne : b.counted ≠ 0 := fun he => h0 (UInt32.toNat_inj.1 (hc.trans he))
    have ha : b.accepted ≠ [] := fun he => hne (h.idle he).2
    have hm := h.highest ha
    obtain ⟨hb, hle⟩ := h.base ha
    have hw := h.within.2 _ (List.max?_eq_some_iff.1 hm).1
    rw [if_pos h0, if_neg hne, hm]
    simp only [extended, RtpReceiver.counters, Option.getD_some] at hb hle hw ⊢
    have ho : (1 : UInt32).toNat = 1 := rfl
    rw [UInt32.toNat_add, UInt32.toNat_sub, UInt32.toNat_add, ho, UInt16.toNat_toUInt32, UInt16.toNat_toUInt32]
    omega

theorem tracks_report {r : RtpReceiver} (h : Tracks r.counters b) : Tracks (rtpPeriodicHistoryUpdate r).counters b := by
  have he := expectedPackets_toNat h
  have hc : r.stat.receivedPackets.toNat = b.counted := h.counted
  constructor
  · exact h.within
  · exact h.cycles
  · exact h.counted
  · exact h.idle
  · exact h.highest
  · exact h.base
  · intro h0
    refine ⟨(h.fresh h0).1, UInt32.toNat_inj.1 ?_, UInt32.toNat_inj.1 (hc.trans h0)⟩
    rw [expected, if_pos h0] at he
    exact_mod_cast he
  · exact hc.le
  · exact he.le
  · intro hlt
    exact absurd he hlt.ne

theorem tracks_step (r : RtpReceiver) (b : RtpBooks) (op : RtpRxOp) (h : Tracks r.counters b) :
    Recorded b (rtpReceiverStep r op).1 (rtpReceiverStep r op).2 := by
  cases op with
  | packet descriptors time packet => exact recorded_packetReceive h descriptors time packet
  | report directed =>
    cases directed with
    | true => exact recorded_nil (tracks_report h) rfl
    | false => exact recorded_nil h rfl
  | read frame => exact recorded_nil h rfl
  | «open» jb => exact recorded_nil h rfl
  | close => exact recorded_nil h rfl

def rtpBooks (jb : JitterBuffer) (ops : List RtpRxOp) : RtpBooks :=
  (run rtpRecord .empty (run rtpReceiverStep (rtpReceiverInit jb) ops).2.flatten).1

def RunWithin (jb : JitterBuffer) (ops : List RtpRxOp) : Prop :=
  EachStep rtpRecord EntersWithin .empty (run rtpReceiverStep (rtpReceiverInit jb) ops).2.flatten

theorem tracks_run {jb : JitterBuffer} {ops : List RtpRxOp} (h : RunWithin jb ops) :
    Tracks (run rtpReceiverStep (rtpReceiverInit jb) ops).1.counters (rtpBooks jb ops) :=
  run_recorded (fun r b => Tracks r.counters b) EntersWithin
    (fun r b op hr hw => tracks_step r b op hr hw) tracks_empty h

end UniMrcp.Mpf
