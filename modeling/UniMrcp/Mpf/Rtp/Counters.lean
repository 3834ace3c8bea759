import UniMrcp.Mpf.Rtp.Sequence

/-!
# The counters of the receiver are consistent
-/

namespace UniMrcp.Mpf

open Lib List

/-! ## Reports -/

/-- A packet was received if one was expected, and the fraction is that of the lost packets in 1/256. -/
structure ReportSound (r : RtpReceiver) : Prop where
  received : 0 < (expectedInterval r).toNat → 1 ≤ (receivedInterval r).toNat
  fraction : (rtpPeriodicHistoryUpdate r).rrStat.fraction.toNat =
    256 * (lostInterval r).toNat / (expectedInterval r).toNat
  below : 256 * (lostInterval r).toNat / (expectedInterval r).toNat < 256
  lost : (rtpPeriodicHistoryUpdate r).rrStat.lost.toInt ≤ (expectedPackets r).toNat

variable {r : RtpReceiver}

theorem fraction_toNat (hl : (lostInterval r).toNat < 2 ^ 24)
    (hlt : 0 < (expectedInterval r).toNat → (lostInterval r).toNat < (expectedInterval r).toNat) :
    (rtpPeriodicHistoryUpdate r).rrStat.fraction.toNat = 256 * (lostInterval r).toNat / (expectedInterval r).toNat ∧
      256 * (lostInterval r).toNat / (expectedInterval r).toNat < 256 := by
  have hb : 256 * (lostInterval r).toNat / (expectedInterval r).toNat < 256 := by
    rcases Nat.eq_zero_or_pos (expectedInterval r).toNat with h0 | hp
    · rw [h0, Nat.div_zero]
      decide
    · rw [Nat.div_lt_iff_lt_mul hp]
      have := hlt hp
      omega
  refine ⟨?_, hb⟩
  simp only [rtpPeriodicHistoryUpdate]
  split
  · rename_i h
    rcases h with h | h
    · simp [h]
    · simp [h]
  · have hs : (lostInterval r <<< 8).toNat = 256 * (lostInterval r).toNat := by
      rw [UInt32.toNat_shiftLeft, Nat.shiftLeft_eq]
      have h8 : (8 : UInt32).toNat % 32 = 8 := rfl
      rw [h8, Nat.mod_eq_of_lt (by omega), Nat.mul_comm]
    rw [UInt32.toNat_toUInt8, UInt32.toNat_div, hs, Nat.mod_eq_of_lt hb]

theorem lost_toInt_le (r : RtpReceiver) :
    (rtpPeriodicHistoryUpdate r).rrStat.lost.toInt ≤ (expectedPackets r).toNat := by
  simp only [rtpPeriodicHistoryUpdate]
  split
  · rename_i h
    have hgt := UInt32.lt_iff_toNat_lt.1 h
    have hs := UInt32.toNat_sub_of_le _ _ (UInt32.le_iff_toNat_le.2 hgt.le)
    have hm := Nat.mod_le ((expectedPackets r).toNat - r.stat.receivedPackets.toNat) (2 ^ 24)
    rw [BitVec.toInt_eq_toNat_cond, BitVec.toNat_setWidth, UInt32.toNat_toBitVec, hs]
    split <;> omega
  · exact Int.natCast_nonneg _

variable {b : RtpBooks}

theorem Tracks.reportSound (h : Tracks r.counters b) (hl : (lostInterval r).toNat < 2 ^ 24) : ReportSound r := by
  have he := expectedPackets_toNat h
  have hc : r.stat.receivedPackets.toNat = b.counted := h.counted
  have hpr : (r.periodicHistory.expectedPrior.toNat : ℤ) ≤ b.expected := h.expectedPrior
  have hpr' : r.periodicHistory.receivedPrior.toNat ≤ b.counted := h.receivedPrior
  have hg : (r.periodicHistory.expectedPrior.toNat : ℤ) < b.expected →
    r.periodicHistory.receivedPrior.toNat < b.counted := h.grown
  have hei : ((expectedInterval r).toNat : ℤ) = b.expected - r.periodicHistory.expectedPrior.toNat := by
    rw [expectedInterval, UInt32.toNat_sub_of_le _ _ (UInt32.le_iff_toNat_le.2 (by omega))]
    omega
  have hri : (receivedInterval r).toNat = b.counted - r.periodicHistory.receivedPrior.toNat := by
    rw [receivedInterval, UInt32.toNat_sub_of_le _ _ (UInt32.le_iff_toNat_le.2 (by omega)), hc]
  have hr : 0 < (expectedInterval r).toNat → 1 ≤ (receivedInterval r).toNat := by
    intro hp
    have := hg (by omega)
    omega
  have hlt : 0 < (expectedInterval r).toNat → (lostInterval r).toNat < (expectedInterval r).toNat := by
    intro hp
    have ho := hr hp
    rw [lostInterval]
    split
    · rename_i hgt
      have hgt := UInt32.lt_iff_toNat_lt.1 hgt
      rw [UInt32.toNat_sub_of_le _ _ (UInt32.le_iff_toNat_le.2 hgt.le)]
      omega
    · exact hp
  obtain ⟨hf, hb⟩ := fraction_toNat hl hlt
  exact ⟨hr, hf, hb, lost_toInt_le r⟩

/-! ## Between restarts -/

def Settled (c : RtpCounters) : Prop := c.receivedPackets = 0 → c.extended = 0

/-- Behind the update of the sequence number a packet leaves the counters as they are, or restarts the receiver at
last. -/
structure Stays (r r' : RtpReceiver) (events : List RtpRxEvent) : Prop where
  ssrc : r'.rrStat.ssrc = r.rrStat.ssrc
  counters : r'.counters = if events.getLast? = some .restart then ⟨0, 0, 0, 0, 0, 0⟩ else r.counters

theorem stays_write (r : RtpReceiver) (packet : RtpPacket) (marker : Bool) :
    Stays r (rtpRxWrite r packet marker).1 (rtpRxWrite r packet marker).2 := by
  rw [rtpRxWrite]
  split
  · rw [rtpRxFailureThresholdCheck]
    split <;> exact ⟨rfl, rfl⟩
  · exact ⟨rfl, rfl⟩

theorem stays_codecReceive (r : RtpReceiver) (descriptor : CodecDescriptor) (time : Int64) (packet : RtpPacket) :
    Stays r (rtpRxCodecReceive r descriptor time packet).1 (rtpRxCodecReceive r descriptor time packet).2.2 := by
  have ht := counters_tsUpdate r descriptor time packet.timestamp packet.marker
  have hs : (rtpRxTsUpdate r descriptor time packet.timestamp packet.marker).1.rrStat.ssrc = r.rrStat.ssrc := by
    rw [rtpRxTsUpdate]
    dsimp only
    split <;> rfl
  rw [rtpRxCodecReceive]
  dsimp only
  generalize rtpRxTsUpdate r descriptor time packet.timestamp packet.marker = updated at *
  split
  · exact ⟨hs, rfl⟩
  · obtain ⟨hw, hc⟩ := stays_write updated.1 packet updated.2.2
    generalize rtpRxWrite updated.1 packet updated.2.2 = written at *
    refine ⟨hw.trans hs, hc.trans ?_⟩
    cases written.2 with
    | nil => exact ht
    | cons event events => simp only [getLast?_cons_cons, ht]

theorem stays_payloadReceive (r : RtpReceiver) (descriptors : RtpRxDescriptors) (time : Int64) (packet : RtpPacket) :
    Stays r (rtpRxPayloadReceive r descriptors time packet).1
      (rtpRxPayloadReceive r descriptors time packet).2.2 := by
  rw [rtpRxPayloadReceive]
  split
  · exact stays_codecReceive r descriptors.codec time packet
  · split
    · refine ⟨?_, counters_eventReceive r packet⟩
      rw [rtpRxEventReceive]
      dsimp only
      split <;> rfl
    · exact ⟨rfl, rfl⟩

/-- What an operation does to the extended number: it is zero while no packet is counted, and without a restart it
does not get lower. -/
structure Advances (r r' : RtpReceiver) (events : List RtpRxEvent) : Prop where
  settled : Settled r'.counters
  le : .restart ∉ events → r.counters.extended ≤ r'.counters.extended

theorem advances_of_counters {r r' : RtpReceiver} (hs : Settled r.counters) (h : r'.counters = r.counters)
    (events : List RtpRxEvent) : Advances r r' events :=
  ⟨h ▸ hs, fun _ => h ▸ Nat.le_refl _⟩

theorem advances_sourceReceive (h : Tracks r.counters b) (ha : b.accepted ≠ []) (descriptors : RtpRxDescriptors)
    (time : Int64) (packet : RtpPacket) (hw : EntersWithin b (.seqUpdate packet.sequence)) :
    Advances r (rtpRxSourceReceive r descriptors time packet).1
      (rtpRxSourceReceive r descriptors time packet).2.2 := by
  obtain ⟨-, hle, -⟩ := h.entered ha packet.sequence hw
  have hc := (h.seqUpdate ha packet.sequence hw).counted
  rw [← counters_seqUpdate] at hle hc
  rw [rtpRxSourceReceive]
  have hp := (stays_payloadReceive (rtpRxSeqUpdate r packet.sequence).1 descriptors time packet).counters
  split at hp
  · rename_i hm
    constructor
    · rw [hp]
      intro _
      rfl
    · intro hn
      exact absurd (mem_cons_of_mem _ (mem_of_getLast? hm)) hn
  · constructor
    · rw [hp]
      intro h0
      rw [h0] at hc
      cases hc
    · intro _
      rw [hp]
      exact hle

theorem ssrcUpdate_firstInit (h0 : r.stat.receivedPackets = 0) (time : Int64) (packet : RtpPacket) :
    (rtpRxSsrcUpdate (rtpRxFirstInit r time packet).1 packet.ssrc).2 = .update := by
  rw [rtpRxFirstInit, if_pos h0]
  obtain ⟨known, hk, -⟩ :=
    rtpRxSsrcUpdate_known (show (rtpRxStatInit r packet time).rrStat.ssrc = packet.ssrc from rfl)
  exact congrArg Prod.snd hk

theorem advances_packetReceive (h : Tracks r.counters b) (hs : Settled r.counters) (descriptors : RtpRxDescriptors)
    (time : Int64) (packet : Option RtpPacket)
    (hw : EachStep rtpRecord EntersWithin b (rtpRxPacketReceive r descriptors time packet).2.2) :
    Advances r (rtpRxPacketReceive r descriptors time packet).1
      (rtpRxPacketReceive r descriptors time packet).2.2 := by
  cases packet with
  | none => exact ⟨hs, fun _ => Nat.le_refl _⟩
  | some packet =>
    obtain ⟨hf, ha⟩ := tracks_firstInit h time packet
    -- the initialization by the first packet does not lower the number
    have hi : r.counters.extended ≤
        (rtpRxSsrcUpdate (rtpRxFirstInit r time packet).1 packet.ssrc).1.counters.extended := by
      rw [counters_ssrcUpdate, rtpRxFirstInit]
      split
      · rename_i h0
        rw [hs h0]
        exact Nat.zero_le _
      · exact Nat.le_refl _
    rw [← counters_ssrcUpdate _ packet.ssrc] at hf
    rw [rtpRxPacketReceive] at hw ⊢
    dsimp only at hw ⊢
    split at hw
    · rename_i hp
      have hne : r.stat.receivedPackets ≠ 0 := by
        intro h0
        rw [ssrcUpdate_firstInit h0] at hp
        cases hp
      have hc : (rtpRxFirstInit r time packet).1.counters = r.counters := by
        rw [rtpRxFirstInit, if_neg hne]
      exact advances_of_counters hs
        ((counters_countInvalid _).trans ((counters_ssrcUpdate _ packet.ssrc).trans hc)) _
    · -- the restart
      rw [eachStep_append] at hw
      have hi : Tracks (rtpRxStatInit (rtpRxRestart
          (rtpRxSsrcUpdate (rtpRxFirstInit r time packet).1 packet.ssrc).1) packet time).counters
          (rtpRecord .empty (.init packet.sequence)).1 := tracks_empty.init rfl packet.sequence
      have hd := advances_sourceReceive hi (cons_ne_nil _ _) descriptors time packet hw.2.2.2.1
      exact ⟨hd.settled, fun hn => absurd (mem_append_right _ mem_cons_self) hn⟩
    · -- the known source
      rw [eachStep_append] at hw
      have hd := advances_sourceReceive hf ha descriptors time packet hw.2.1
      refine ⟨hd.settled, fun hn => hi.trans (hd.le fun hm => hn ?_)⟩
      exact mem_append_right _ hm

theorem advances_step (h : Tracks r.counters b) (hs : Settled r.counters) (op : RtpRxOp)
    (hw : EachStep rtpRecord EntersWithin b (rtpReceiverStep r op).2) :
    Advances r (rtpReceiverStep r op).1 (rtpReceiverStep r op).2 := by
  cases op with
  | packet descriptors time packet => exact advances_packetReceive h hs descriptors time packet hw
  | report directed =>
    cases directed with
    | true => exact ⟨hs, fun _ => Nat.le_refl _⟩
    | false => exact ⟨hs, fun _ => Nat.le_refl _⟩
  | read frame => exact ⟨hs, fun _ => Nat.le_refl _⟩
  | «open» jb => exact ⟨hs, fun _ => Nat.le_refl _⟩
  | close => exact ⟨hs, fun _ => Nat.le_refl _⟩

variable {ops : List RtpRxOp}

theorem settled_run {jb : JitterBuffer} (h : RunWithin jb ops) :
    Tracks (run rtpReceiverStep (rtpReceiverInit jb) ops).1.counters (rtpBooks jb ops) ∧
      Settled (run rtpReceiverStep (rtpReceiverInit jb) ops).1.counters :=
  run_recorded (fun r b => Tracks r.counters b ∧ Settled r.counters) EntersWithin
    (fun r b op hr hw => ⟨tracks_step r b op hr.1 hw, (advances_step hr.1 hr.2 op hw).settled⟩)
    ⟨tracks_empty, fun _ => rfl⟩ h

theorem extended_mono (h : Tracks r.counters b) (hs : Settled r.counters)
    (hw : EachStep rtpRecord EntersWithin b (run rtpReceiverStep r ops).2.flatten)
    (hn : .restart ∉ (run rtpReceiverStep r ops).2.flatten) :
    r.counters.extended ≤ (run rtpReceiverStep r ops).1.counters.extended := by
  induction ops generalizing r b with
  | nil => exact Nat.le_refl _
  | cons op ops ih =>
    rw [run_cons, flatten_cons] at hn hw
    rw [eachStep_append] at hw
    rw [mem_append, not_or] at hn
    have ha := advances_step h hs op hw.1
    exact (ha.le hn.1).trans (ih (tracks_step r b op h hw.1) ha.settled hw.2 hn.2)

/-- The extended number is the highest one accepted since the last initialization, it does not get lower without a
restart, and a report with fewer than 2^24 packets lost in its interval is sound. -/
structure RtpCountersConsistent (jb : JitterBuffer) (ops : List RtpRxOp) : Prop where
  highest : (rtpBooks jb ops).accepted ≠ [] → (rtpBooks jb ops).accepted.max? =
    some ((run rtpReceiverStep (rtpReceiverInit jb) ops).1.counters.extended : ℤ)
  mono : ∀ before after, ops = before ++ after →
    .restart ∉ (run rtpReceiverStep (run rtpReceiverStep (rtpReceiverInit jb) before).1 after).2.flatten →
      (run rtpReceiverStep (rtpReceiverInit jb) before).1.counters.extended ≤
        (run rtpReceiverStep (rtpReceiverInit jb) ops).1.counters.extended
  report : (lostInterval (run rtpReceiverStep (rtpReceiverInit jb) ops).1).toNat < 2 ^ 24 →
    ReportSound (run rtpReceiverStep (rtpReceiverInit jb) ops).1

/-- **In a run whose books stay within 32 bits the counters of the receiver are consistent.** -/
theorem rtpCounters_consistent (jb : JitterBuffer) (ops : List RtpRxOp) (h : RunWithin jb ops) :
    RtpCountersConsistent jb ops := by
  have htracks := tracks_run h
  refine ⟨htracks.highest, ?_, htracks.reportSound⟩
  rintro before after rfl hno
  rw [RunWithin, run_append, flatten_append, eachStep_append] at h
  obtain ⟨hbefore, hsettled⟩ := settled_run h.1
  rw [run_append]
  exact extended_mono hbefore hsettled h.2 hno

/-! ## Wraps -/

def noisePacket (seqNum : UInt16) : RtpPacket :=
  { sequence := seqNum, timestamp := 0, ssrc := 0, type := 13, marker := false, payload := [], namedEvent := default }

def cnPacket (seqNum : UInt16) : RtpRxOp :=
  .packet { codec := ⟨8000, 1⟩, payloadType := 0, eventPayloadType := none } 0 (some (noisePacket seqNum))

def pcmuJitterBuffer : JitterBuffer := jitterBufferCreate none ⟨8000, 1⟩ { attribs := ⟨8⟩ }

/-- Two packets, the sequence number of the second wrapped, and a report. -/
theorem rtpCounters_consistent_sample :
    RtpCountersConsistent pcmuJitterBuffer [cnPacket 65535, cnPacket 0, .report true] :=
  rtpCounters_consistent pcmuJitterBuffer [cnPacket 65535, cnPacket 0, .report true] (by
    simp only [RunWithin]
    decide)

theorem cnPacket_step {first : RtpReceiver × List RtpRxEvent} (seqNum : UInt16)
    (hf : rtpRxFirstInit r 0 (noisePacket seqNum) = first) (hs : first.1.rrStat.ssrc = 0) :
    (rtpReceiverStep r (cnPacket seqNum)).1.counters = first.1.counters.seqUpdate seqNum ∧
      (rtpReceiverStep r (cnPacket seqNum)).1.rrStat.ssrc = 0 ∧
      (rtpReceiverStep r (cnPacket seqNum)).2 = first.2 ++ [.seqUpdate seqNum] := by
  obtain ⟨known, hk, hp, -⟩ :=
    rtpRxSsrcUpdate_known (show first.1.rrStat.ssrc = (noisePacket seqNum).ssrc from hs)
  have hc := counters_ssrcUpdate first.1 (noisePacket seqNum).ssrc
  rw [hk] at hc
  simp only [rtpReceiverStep, cnPacket, rtpRxPacketReceive, hf, hk]
  obtain ⟨hq, -⟩ := rtpRxSeqUpdate_kept known seqNum
  refine ⟨?_, ?_, rfl⟩
  · rw [← hc, ← counters_seqUpdate]
    rfl
  · rw [← hs, ← hp, ← hq]
    rfl

def cnPackets (n : ℕ) : List RtpRxOp := (List.range n).map fun i => cnPacket (UInt16.ofNat (2048 * i))

theorem seqUpdate_2048 {c : RtpCounters} (hc : 2 ^ 16 ∣ c.seqCycles.toNat) (seqNum : UInt16)
    (hs : seqNum.toNat = (c.seqNumMax.toNat + 2048) % 2 ^ 16) :
    (c.seqUpdate seqNum).extended = (c.extended + 2048) % 2 ^ 32 ∧
      2 ^ 16 ∣ (c.seqUpdate seqNum).seqCycles.toNat ∧ (c.seqUpdate seqNum).seqNumMax = seqNum := by
  obtain ⟨k, hk⟩ := hc
  have hm := c.seqNumMax.toNat_lt
  have hcc := c.seqCycles.toNat_lt
  have hr : seqNum - c.seqNumMax < maxDropout := by
    rw [UInt16.lt_iff_toNat_lt, UInt16.toNat_sub]
    have h3 : maxDropout.toNat = 3000 := rfl
    omega
  rw [RtpCounters.seqUpdate, if_pos hr]
  simp only [RtpCounters.extended]
  have hd : (UInt32.ofNat rtpSeqMod).toNat = 2 ^ 16 := rfl
  by_cases hw : seqNum < c.seqNumMax
  · have hlt := UInt16.lt_iff_toNat_lt.1 hw
    rw [if_pos hw, UInt32.toNat_add, hd, hk]
    refine ⟨?_, ?_, trivial⟩ <;> omega
  · have hge : ¬ seqNum.toNat < c.seqNumMax.toNat := fun h => hw (UInt16.lt_iff_toNat_lt.2 h)
    rw [if_neg hw, hk]
    refine ⟨?_, ?_, trivial⟩ <;> omega

theorem cnPackets_run (jb : JitterBuffer) (n : ℕ) (hn : n < 2 ^ 31) :
    let reached := run rtpReceiverStep (rtpReceiverInit jb) (cnPackets (n + 1))
    reached.1.rrStat.ssrc = 0 ∧ reached.1.counters.receivedPackets.toNat = n + 1 ∧
      2 ^ 16 ∣ reached.1.counters.seqCycles.toNat ∧
      reached.1.counters.seqNumMax.toNat = 2048 * n % 2 ^ 16 ∧
      reached.1.counters.extended = 2048 * n % 2 ^ 32 ∧ .restart ∉ reached.2.flatten := by
  induction n with
  | zero =>
    obtain ⟨hcn, hss, he⟩ := cnPacket_step (r := rtpReceiverInit jb) 0 (if_pos rfl) rfl
    have hc : (rtpReceiverStep (rtpReceiverInit jb) (cnPacket 0)).1.counters = ⟨0, 0, 0, 1, 0, 0⟩ :=
      hcn.trans (show RtpCounters.seqUpdate ⟨0, 0, 0, 0, 0, 0⟩ 0 = _ by decide)
    have ho : cnPackets (0 + 1) = [cnPacket 0] := rfl
    dsimp only
    simp only [ho, run_cons, run_nil, hc, he]
    exact ⟨hss, by decide⟩
  | succ n ih =>
    have ha : cnPackets (n + 1 + 1) = cnPackets (n + 1) ++ [cnPacket (UInt16.ofNat (2048 * (n + 1)))] := by
      rw [cnPackets, range_succ, map_append]
      rfl
    obtain ⟨hss, hr, hcc, hm, hx, hno⟩ := ih (by omega)
    dsimp only
    rw [ha, run_append]
    generalize run rtpReceiverStep (rtpReceiverInit jb) (cnPackets (n + 1)) = reached at *
    have h0 : reached.1.stat.receivedPackets ≠ 0 := by
      intro h0
      have : reached.1.counters.receivedPackets = 0 := h0
      rw [this] at hr
      cases hr
    obtain ⟨hcn, hss', he⟩ := cnPacket_step (UInt16.ofNat (2048 * (n + 1))) (if_neg h0) hss
    have hs : (UInt16.ofNat (2048 * (n + 1))).toNat = (reached.1.counters.seqNumMax.toNat + 2048) % 2 ^ 16 := by
      rw [UInt16.toNat_ofNat', hm]
      omega
    obtain ⟨hx', hcc', hm'⟩ := seqUpdate_2048 hcc _ hs
    simp only [run_cons, run_nil, hcn]
    refine ⟨hss', ?_, hcc', ?_, ?_, ?_⟩
    · have ho : (1 : UInt32).toNat = 1 := rfl
      rw [(seqUpdate_others _ _).2.2.2, UInt32.toNat_add, hr, ho]
      omega
    · rw [hm', UInt16.toNat_ofNat']
    · rw [hx', hx]
      omega
    · rw [flatten_append, he]
      simpa using hno

/-- Not every run has consistent counters: after 2^21 packets, without a restart, the extended number is zero. -/
theorem not_rtpCounters_consistent : ¬ ∀ jb ops, RtpCountersConsistent jb ops := by
  intro h
  have happend : cnPackets (2 ^ 21 + 1) = cnPackets (2 ^ 21) ++ [cnPacket (UInt16.ofNat (2048 * 2 ^ 21))] := by
    rw [cnPackets, range_succ, map_append]
    rfl
  have hbefore := cnPackets_run pcmuJitterBuffer (2 ^ 21 - 1) (by omega)
  have hafter := cnPackets_run pcmuJitterBuffer (2 ^ 21) (by omega)
  dsimp only at hbefore hafter
  have hle := (h pcmuJitterBuffer (cnPackets (2 ^ 21 + 1))).mono _ _ happend ?_
  · rw [hafter.2.2.2.2.1] at hle
    have hext := hbefore.2.2.2.2.1
    rw [show 2 ^ 21 - 1 + 1 = 2 ^ 21 from rfl] at hext
    rw [hext] at hle
    revert hle
    decide
  · have hno := hafter.2.2.2.2.2
    rw [happend, run_append, flatten_append, mem_append, not_or] at hno
    exact hno.2

end UniMrcp.Mpf
