import UniMrcp.Mpf.Rtp.Counters
import UniMrcp.Mpf.Rtp.Source

/-!
# The block of a receiver report

What the block should carry, as books of the packets received: the extended highest sequence number of its source, and
the estimate of RFC 3550 (A.8) of the deviations.
-/

namespace UniMrcp.Mpf

open Lib List Function

/-! ## The books -/

/-- The number that ends in a sequence number and is the closest to the highest one so far. -/
def closestNumber (highest : ℤ) (seqNum : UInt16) : ℤ :=
  highest + (((seqNum.toNat : ℤ) - highest + 2 ^ 15) % 2 ^ 16 - 2 ^ 15)

theorem closestNumber_of_extended {highest number : ℤ} {seqNum : UInt16}
    (h : extendedNumber highest seqNum = some number) : closestNumber highest seqNum = number := by
  unfold extendedNumber at h
  unfold closestNumber
  dsimp only at h
  split_ifs at h <;> cases h <;> omega

/-- The highest number with one more packet. -/
def highestWith (highest : Option ℤ) (seqNum : UInt16) : ℤ :=
  highest.elim seqNum.toNat fun highest => max highest (closestNumber highest seqNum)

/-- The sum of RFC 3550 (A.8), 16 times the estimate, with one more deviation. -/
def jitterAdd (sum : UInt32) (deviation : Int32) : UInt32 := sum + (deviation.toUInt32 - ((sum + 8) >>> 4))

def jitterSum (deviations : List Int32) : UInt32 := deviations.foldl jitterAdd 0

def jitterEstimate (deviations : List Int32) : UInt32 := jitterSum deviations >>> 4

def deviationsOf (events : List RtpRxEvent) : List Int32 :=
  events.filterMap fun
    | .deviation deviation => some deviation
    | _ => none

theorem deviationsOf_append (es fs : List RtpRxEvent) : deviationsOf (es ++ fs) = deviationsOf es ++ deviationsOf fs :=
  List.filterMap_append

/-- The extended highest sequence number received from each source, and the deviations accumulated. -/
structure RrBooks where
  highest : UInt32 → Option ℤ := fun _ => none
  deviations : List Int32 := []

def RrBooks.received (b : RrBooks) : RtpRxOp → UInt32 → Option ℤ
  | .packet _ _ (some packet) =>
    update b.highest packet.ssrc (some (highestWith (b.highest packet.ssrc) packet.sequence))
  | _ => b.highest

def rrStep (s : RtpReceiver × RrBooks) (op : RtpRxOp) : (RtpReceiver × RrBooks) × Unit :=
  (((rtpReceiverStep s.1 op).1, ⟨s.2.received op, s.2.deviations ++ deviationsOf (rtpReceiverStep s.1 op).2⟩), ())

/-- The block carries the extended highest sequence number received from its source, in 32 bits, and the estimate. -/
structure RrBlockRight (s : RtpReceiver × RrBooks) : Prop where
  lastSeq : ∀ highest, s.2.highest (rtcpRrGenerate s.1).ssrc = some highest →
    ((rtcpRrGenerate s.1).lastSeq.toNat : ℤ) = highest % 2 ^ 32
  jitter : (rtcpRrGenerate s.1).jitter = jitterEstimate s.2.deviations

/-- A source is taken up with a packet: the first one, or the one that ends the probation. -/
def TakesUp (r : RtpReceiver) (time : Int64) (packet : RtpPacket) : Prop :=
  r.stat.receivedPackets = 0 ∨ ssrcResult r time packet = .restart

/-- A packet restarts the receiver: there is a drift, or too many packets were discarded. -/
def Restarts (r : RtpReceiver) (descriptors : RtpRxDescriptors) (time : Int64) (packet : RtpPacket) : Prop :=
  (rtpRxPacketReceive r descriptors time (some packet)).2.2.getLast? = some .restart

instance (r : RtpReceiver) (time : Int64) (packet : RtpPacket) : Decidable (TakesUp r time packet) :=
  inferInstanceAs (Decidable (_ ∨ _))

instance (r : RtpReceiver) (descriptors : RtpRxDescriptors) (time : Int64) (packet : RtpPacket) :
    Decidable (Restarts r descriptors time packet) :=
  inferInstanceAs (Decidable (_ = _))

/-- The highest number stays below 2^16 (in 32 bits) and is less than `MAX_DROPOUT` above the former one; a source is
taken up with its highest number; and the receiver is not restarted. -/
structure PacketFits (s : RtpReceiver × RrBooks) (descriptors : RtpRxDescriptors) (time : Int64) (packet : RtpPacket)
    (number : ℤ) : Prop where
  restarted : Restarts s.1 descriptors time packet → number % 2 ^ 32 = 0
  takenUp : ¬Restarts s.1 descriptors time packet → TakesUp s.1 time packet → number % 2 ^ 32 = packet.sequence.toNat
  later : ¬Restarts s.1 descriptors time packet → ¬TakesUp s.1 time packet →
    ∀ highest, s.2.highest packet.ssrc = some highest → number % 2 ^ 32 < 2 ^ 16 ∧ number < highest + 3000

def NumberFits (s : RtpReceiver × RrBooks) : RtpRxOp → Prop
  | .packet descriptors time (some packet) => ssrcResult s.1 time packet = .probation ∨
    PacketFits s descriptors time packet (highestWith (s.2.highest packet.ssrc) packet.sequence)
  | _ => True

/-- The number of a packet that is not in probation fits, and the sum over the deviations is zero. -/
structure RrFits (s : RtpReceiver × RrBooks) (op : RtpRxOp) : Prop where
  number : NumberFits s op
  jitter : jitterSum (s.2.deviations ++ deviationsOf (rtpReceiverStep s.1 op).2) = 0

/-! ## The sum in the receiver -/

def Accumulates (r r' : RtpReceiver) (events : List RtpRxEvent) : Prop :=
  r'.rrStat.jitter = (deviationsOf events).foldl jitterAdd r.rrStat.jitter

section Accumulates

variable (r : RtpReceiver)

theorem jitter_ssrcUpdate (ssrc : UInt32) : (rtpRxSsrcUpdate r ssrc).1.rrStat.jitter = r.rrStat.jitter := by
  rw [rtpRxSsrcUpdate]
  split
  · split <;> rfl
  · split
    · dsimp only
      split <;> rfl
    · rfl

theorem jitter_firstInit (time : Int64) (packet : RtpPacket) :
    (rtpRxFirstInit r time packet).1.rrStat.jitter = r.rrStat.jitter ∧
      deviationsOf (rtpRxFirstInit r time packet).2 = [] := by
  rw [rtpRxFirstInit]
  split <;> exact ⟨rfl, rfl⟩

theorem jitter_tsUpdate (descriptor : CodecDescriptor) (time : Int64) (ts : UInt32) (marker : Bool) :
    (rtpRxTsUpdate r descriptor time ts marker).1.rrStat.jitter =
      if (rtpRxTsUpdate r descriptor time ts marker).2.1 = .drift then r.rrStat.jitter
      else jitterAdd r.rrStat.jitter (rtpDeviation r descriptor time ts) := by
  rw [rtpRxTsUpdate]
  dsimp only
  split
  · exact (if_pos rfl).symm
  · exact (if_neg (show ¬ RtpTsResult.update = .drift by decide)).symm

theorem jitter_write (packet : RtpPacket) (marker : Bool) :
    (rtpRxWrite r packet marker).1.rrStat.jitter = r.rrStat.jitter ∧
      deviationsOf (rtpRxWrite r packet marker).2 = [] := by
  rw [rtpRxWrite]
  split
  · rw [rtpRxFailureThresholdCheck]
    split <;> exact ⟨rfl, rfl⟩
  · exact ⟨rfl, rfl⟩

theorem accumulates_codecReceive (descriptor : CodecDescriptor) (time : Int64) (packet : RtpPacket) :
    Accumulates r (rtpRxCodecReceive r descriptor time packet).1
      (rtpRxCodecReceive r descriptor time packet).2.2 := by
  have ht := jitter_tsUpdate r descriptor time packet.timestamp packet.marker
  rw [rtpRxCodecReceive]
  dsimp only
  generalize rtpRxTsUpdate r descriptor time packet.timestamp packet.marker = updated at *
  split
  · rename_i h
    rw [if_pos h] at ht
    exact ht
  · rename_i h
    rw [if_neg h] at ht
    obtain ⟨hj, hn⟩ := jitter_write updated.1 packet updated.2.2
    generalize rtpRxWrite updated.1 packet updated.2.2 = written at *
    rw [Accumulates, hj, ht]
    change _ = (rtpDeviation r descriptor time packet.timestamp :: deviationsOf written.2).foldl jitterAdd _
    rw [hn]
    rfl

variable (descriptors : RtpRxDescriptors)

theorem accumulates_payloadReceive (time : Int64) (packet : RtpPacket) :
    Accumulates r (rtpRxPayloadReceive r descriptors time packet).1
      (rtpRxPayloadReceive r descriptors time packet).2.2 := by
  rw [rtpRxPayloadReceive]
  split
  · exact accumulates_codecReceive r descriptors.codec time packet
  · split
    · rw [rtpRxEventReceive]
      dsimp only
      split <;> rfl
    · rfl

theorem accumulates_sourceReceive (time : Int64) (packet : RtpPacket) :
    Accumulates r (rtpRxSourceReceive r descriptors time packet).1
      (rtpRxSourceReceive r descriptors time packet).2.2 := by
  have hp := accumulates_payloadReceive (rtpRxSeqUpdate r packet.sequence).1 descriptors time packet
  rw [Accumulates, (rtpRxSeqUpdate_kept r packet.sequence).1] at hp
  exact hp

theorem accumulates_packetReceive (time : Int64) (packet : Option RtpPacket) :
    Accumulates r (rtpRxPacketReceive r descriptors time packet).1
      (rtpRxPacketReceive r descriptors time packet).2.2 := by
  cases packet with
  | none => rfl
  | some packet =>
    obtain ⟨hf, hn⟩ := jitter_firstInit r time packet
    rw [← jitter_ssrcUpdate _ packet.ssrc] at hf
    rw [rtpRxPacketReceive]
    dsimp only
    generalize rtpRxSsrcUpdate (rtpRxFirstInit r time packet).1 packet.ssrc = source at *
    generalize rtpRxFirstInit r time packet = first at *
    split
    · rw [Accumulates, hn]
      exact hf
    · have hs := accumulates_sourceReceive (rtpRxStatInit (rtpRxRestart source.1) packet time) descriptors time
        packet
      rw [Accumulates, deviationsOf_append, hn, ← hf]
      exact hs
    · have hs := accumulates_sourceReceive source.1 descriptors time packet
      rw [Accumulates, deviationsOf_append, hn, ← hf]
      exact hs

theorem accumulates_step (op : RtpRxOp) : Accumulates r (rtpReceiverStep r op).1 (rtpReceiverStep r op).2 := by
  cases op with
  | packet descriptors time packet => exact accumulates_packetReceive r descriptors time packet
  | report directed => cases directed <;> rfl
  | read frame => rfl
  | «open» jb => rfl
  | close => rfl

end Accumulates

theorem shiftRight_eq_self_iff (x : UInt32) : x = x >>> 4 ↔ x = 0 := by
  rw [← UInt32.toNat_inj, ← UInt32.toNat_inj, UInt32.toNat_shiftRight, Nat.shiftRight_eq_div_pow]
  have h4 : (4 : UInt32).toNat % 32 = 4 := rfl
  have h0 : (0 : UInt32).toNat = 0 := rfl
  rw [h4, h0]
  omega

/-! ## The numbers -/

theorem seqNumMax_iff {highest : ℤ} {c : RtpCounters} (hc : (c.seqNumMax.toNat : ℤ) = highest % 2 ^ 32)
    (seqNum : UInt16) :
    ((c.seqUpdate seqNum).seqNumMax.toNat : ℤ) = highestWith (some highest) seqNum % 2 ^ 32 ↔
      highestWith (some highest) seqNum % 2 ^ 32 < 2 ^ 16 ∧ highestWith (some highest) seqNum < highest + 3000 := by
  have hs := seqNum.toNat_lt
  have hm := c.seqNumMax.toNat_lt
  have hd := UInt16.toNat_sub seqNum c.seqNumMax
  have h3 : maxDropout.toNat = 3000 := rfl
  simp only [highestWith, Option.elim_some, closestNumber, RtpCounters.seqUpdate, UInt16.lt_iff_toNat_lt, h3]
  split <;> dsimp only <;> omega

section Packet

variable {r : RtpReceiver} (descriptors : RtpRxDescriptors) (time : Int64) (packet : RtpPacket)

theorem sourceReceive_seqNumMax (r : RtpReceiver) :
    let received := rtpRxSourceReceive r descriptors time packet
    received.1.rrStat.ssrc = r.rrStat.ssrc ∧ received.1.history.seqNumMax =
      if received.2.2.getLast? = some .restart then 0 else (r.counters.seqUpdate packet.sequence).seqNumMax := by
  obtain ⟨hs, hc⟩ := stays_payloadReceive (rtpRxSeqUpdate r packet.sequence).1 descriptors time packet
  rw [rtpRxSourceReceive]
  generalize rtpRxPayloadReceive (rtpRxSeqUpdate r packet.sequence).1 descriptors time packet = received at *
  refine ⟨hs.trans (congrArg RtcpRrStat.ssrc (rtpRxSeqUpdate_kept r packet.sequence).1), ?_⟩
  have hm : received.1.history.seqNumMax = received.1.counters.seqNumMax := rfl
  rw [hm, hc, counters_seqUpdate]
  dsimp only
  cases received.2.2 with
  | nil => rfl
  | cons event events =>
    rw [getLast?_cons_cons]
    split <;> rfl

theorem seqUpdate_base (c : RtpCounters) (seqNum : UInt16) :
    ({ c with seqNumBase := seqNum, seqNumMax := seqNum }.seqUpdate seqNum).seqNumMax = seqNum := by
  rw [RtpCounters.seqUpdate]
  split <;> rfl

theorem followed_seqNumMax (source : RtpReceiver) (before : List RtpRxEvent)
    (h : rtpRxPacketReceive r descriptors time (some packet) =
      ((rtpRxSourceReceive source descriptors time packet).1, (rtpRxSourceReceive source descriptors time packet).2.1,
        before ++ (rtpRxSourceReceive source descriptors time packet).2.2)) :
    let r' := (rtpRxPacketReceive r descriptors time (some packet)).1
    r'.rrStat.ssrc = source.rrStat.ssrc ∧ r'.history.seqNumMax =
      if Restarts r descriptors time packet then 0 else (source.counters.seqUpdate packet.sequence).seqNumMax := by
  obtain ⟨hs, hm⟩ := sourceReceive_seqNumMax descriptors time packet source
  have hl : Restarts r descriptors time packet ↔
      (rtpRxSourceReceive source descriptors time packet).2.2.getLast? = some .restart := by
    unfold Restarts
    rw [h, rtpRxSourceReceive]
    dsimp only
    rw [getLast?_append_cons]
  refine ⟨by rw [h]; exact hs, ?_⟩
  simp only [hl]
  rw [h]
  exact hm

theorem packet_cases (r : RtpReceiver) :
    let r' := (rtpRxPacketReceive r descriptors time (some packet)).1
    (ssrcResult r time packet = .probation ∧ r.rrStat.ssrc ≠ packet.ssrc ∧ r'.rrStat.ssrc = r.rrStat.ssrc ∧
        r'.history.seqNumMax = r.history.seqNumMax ∧ r'.stat.receivedPackets = r.stat.receivedPackets) ∨
      (ssrcResult r time packet ≠ .probation ∧ r'.rrStat.ssrc = packet.ssrc ∧
        (¬TakesUp r time packet → r.stat.receivedPackets ≠ 0 ∧ r.rrStat.ssrc = packet.ssrc) ∧
        r'.history.seqNumMax = if Restarts r descriptors time packet then 0
          else if TakesUp r time packet then packet.sequence else (r.counters.seqUpdate packet.sequence).seqNumMax) := by
  by_cases hz : r.stat.receivedPackets = 0
  · have hf : rtpRxFirstInit r time packet = (rtpRxStatInit r packet time, [.init packet.sequence]) := if_pos hz
    obtain ⟨known, hk, hs, -⟩ :=
      rtpRxSsrcUpdate_known (show (rtpRxStatInit r packet time).rrStat.ssrc = packet.ssrc from rfl)
    have hc := counters_ssrcUpdate (rtpRxStatInit r packet time) packet.ssrc
    rw [hk] at hc
    obtain ⟨hs', hm⟩ := followed_seqNumMax descriptors time packet known [.init packet.sequence]
      (by rw [rtpRxPacketReceive, hf]; dsimp only; rw [hk])
    refine .inr ⟨?_, hs'.trans (congrArg RtcpRrStat.ssrc hs), fun h => absurd (.inl hz) h, ?_⟩
    · rw [ssrcResult, hf, hk]
      simp
    · rw [hm, if_pos (show TakesUp r time packet from .inl hz), hc]
      exact congrArg _ (seqUpdate_base r.counters packet.sequence)
  · have hf : rtpRxFirstInit r time packet = (r, []) := if_neg hz
    by_cases hs : r.rrStat.ssrc = packet.ssrc
    · obtain ⟨known, hk, hs', -⟩ := rtpRxSsrcUpdate_known hs
      have hc := counters_ssrcUpdate r packet.ssrc
      rw [hk] at hc
      have hu : ssrcResult r time packet = .update := by rw [ssrcResult, hf, hk]
      have ht : ¬TakesUp r time packet := by simp [TakesUp, hz, hu]
      obtain ⟨hss, hm⟩ := followed_seqNumMax descriptors time packet known []
        (by rw [rtpRxPacketReceive, hf]; dsimp only; rw [hk])
      refine .inr ⟨by simp [hu], hss.trans ((congrArg RtcpRrStat.ssrc hs').trans hs), fun _ => ⟨hz, hs⟩, ?_⟩
      rw [hm, if_neg ht, hc]
    · have hu := ssrcUpdate_foreign hs
      cases hp : (probe r.history.ssrcNew r.history.ssrcProbation packet.ssrc).2.2 with
      | false =>
        obtain ⟨hr, he⟩ := foreign_probation descriptors time packet hz hs hp
        exact .inl ⟨hr, hs, by rw [he]; exact ⟨rfl, rfl, rfl⟩⟩
      | true =>
        obtain ⟨hr, -⟩ := foreign_restart descriptors time packet hz hs hp
        rw [hp, if_pos rfl] at hu
        obtain ⟨hss, hm⟩ := followed_seqNumMax descriptors time packet _ [.restart, .init packet.sequence]
          (by rw [rtpRxPacketReceive, hf]; dsimp only; rw [hu]; rfl)
        have ht : TakesUp r time packet := .inr hr
        refine .inr ⟨by simp [hr], hss, fun h => absurd ht h, ?_⟩
        rw [hm, if_pos ht]
        exact congrArg _ (seqUpdate_base ⟨0, 0, 0, 0, 0, 0⟩ packet.sequence)

end Packet

/-! ## Runs -/

/-- What holds of the block of each state, and what is known of the source that the receiver has taken up. -/
structure RrInv (s : RtpReceiver × RrBooks) : Prop where
  right : RrBlockRight s
  sum : s.1.rrStat.jitter = jitterSum s.2.deviations
  known : s.1.stat.receivedPackets ≠ 0 → (s.2.highest s.1.rrStat.ssrc).isSome

variable {s : RtpReceiver × RrBooks}

theorem rrInv_start (jb : JitterBuffer) : RrInv (rtpReceiverInit jb, {}) :=
  ⟨⟨nofun, (shiftRight_eq_self_iff 0).2 rfl⟩, rfl, fun h => absurd rfl h⟩

theorem rrBlockRight_of_sum (hs : s.1.rrStat.jitter = jitterSum s.2.deviations) : RrBlockRight s ↔
    (∀ highest, s.2.highest s.1.rrStat.ssrc = some highest → (s.1.history.seqNumMax.toNat : ℤ) = highest % 2 ^ 32) ∧
      jitterSum s.2.deviations = 0 := by
  have hm : (rtcpRrGenerate s.1).lastSeq.toNat = s.1.history.seqNumMax.toNat := UInt16.toNat_toUInt32 _
  have hj : (rtcpRrGenerate s.1).jitter = jitterSum s.2.deviations := hs
  constructor
  · rintro ⟨hl, he⟩
    rw [hj, jitterEstimate, shiftRight_eq_self_iff] at he
    exact ⟨fun highest hh => hm ▸ hl highest hh, he⟩
  · rintro ⟨hl, hz⟩
    refine ⟨fun highest hh => hm ▸ hl highest hh, ?_⟩
    rw [hj, jitterEstimate, shiftRight_eq_self_iff]
    exact hz

theorem RrInv.sum_step (h : RrInv s) (op : RtpRxOp) :
    (rrStep s op).1.1.rrStat.jitter = jitterSum (rrStep s op).1.2.deviations := by
  have ha := accumulates_step s.1 op
  rw [Accumulates, h.sum] at ha
  exact ha.trans foldl_append.symm

theorem RrInv.lastSeq (h : RrInv s) (highest : ℤ) (hh : s.2.highest s.1.rrStat.ssrc = some highest) :
    (s.1.history.seqNumMax.toNat : ℤ) = highest % 2 ^ 32 :=
  ((rrBlockRight_of_sum h.sum).1 h.right).1 highest hh

theorem RrInv.number_step (h : RrInv s) (op : RtpRxOp) :
    (∀ highest, (rrStep s op).1.2.highest (rrStep s op).1.1.rrStat.ssrc = some highest →
      ((rrStep s op).1.1.history.seqNumMax.toNat : ℤ) = highest % 2 ^ 32) ↔ NumberFits s op := by
  cases op with
  | packet descriptors time packet =>
    cases packet with
    | none => exact iff_of_true h.lastSeq trivial
    | some packet =>
      simp only [rrStep, rtpReceiverStep, RrBooks.received, NumberFits]
      rcases packet_cases descriptors time packet s.1 with ⟨hp, hne, hs, hm, -⟩ | ⟨hp, hs, hk, hm⟩
      · refine iff_of_true (fun highest hh => ?_) (.inl hp)
        rw [hs, update_of_ne hne] at hh
        rw [hm]
        exact h.lastSeq highest hh
      · rw [hs, update_self, hm, or_iff_right hp]
        simp only [Option.some.injEq, forall_eq']
        by_cases hr : Restarts s.1 descriptors time packet
        · rw [if_pos hr]
          exact ⟨fun hz => ⟨fun _ => hz.symm, absurd hr, absurd hr⟩, fun hf => (hf.restarted hr).symm⟩
        rw [if_neg hr]
        by_cases ht : TakesUp s.1 time packet
        · rw [if_pos ht]
          exact ⟨fun hz => ⟨(absurd · hr), fun _ _ => hz.symm, fun _ hn => absurd ht hn⟩,
            fun hf => (hf.takenUp hr ht).symm⟩
        · rw [if_neg ht]
          obtain ⟨hc, hss⟩ := hk ht
          obtain ⟨highest, hh⟩ := Option.isSome_iff_exists.1 (h.known hc)
          have hi := seqNumMax_iff (c := s.1.counters) (h.lastSeq highest hh) packet.sequence
          rw [hss] at hh
          rw [hh, hi]
          constructor
          · intro hb
            refine ⟨(absurd · hr), fun _ hn => absurd hn ht, fun _ _ former hf => ?_⟩
            obtain rfl := Option.some.inj (hh.symm.trans hf)
            exact hb
          · exact fun hf => hf.later hr ht highest hh
  | report directed => cases directed <;> exact iff_of_true h.lastSeq trivial
  | read frame => exact iff_of_true h.lastSeq trivial
  | «open» jb => exact iff_of_true h.lastSeq trivial
  | close => exact iff_of_true h.lastSeq trivial

theorem RrInv.right_step (h : RrInv s) (op : RtpRxOp) : RrBlockRight (rrStep s op).1 ↔ RrFits s op := by
  rw [rrBlockRight_of_sum (h.sum_step op), h.number_step op]
  exact ⟨fun hf => ⟨hf.1, hf.2⟩, fun hf => ⟨hf.number, hf.jitter⟩⟩

theorem RrInv.known_step (h : RrInv s) (op : RtpRxOp) (hc : (rrStep s op).1.1.stat.receivedPackets ≠ 0) :
    ((rrStep s op).1.2.highest (rrStep s op).1.1.rrStat.ssrc).isSome := by
  cases op with
  | packet descriptors time packet =>
    cases packet with
    | none => exact h.known hc
    | some packet =>
      simp only [rrStep, rtpReceiverStep, RrBooks.received] at hc ⊢
      rcases packet_cases descriptors time packet s.1 with ⟨-, hne, hs, -, hr⟩ | ⟨-, hs, -⟩
      · rw [hs, update_of_ne hne]
        exact h.known (hr ▸ hc)
      · rw [hs, update_self]
        rfl
  | report directed => cases directed <;> exact h.known hc
  | read frame => exact h.known hc
  | «open» jb => exact h.known hc
  | close => exact h.known hc

theorem RrInv.step (h : RrInv s) {op : RtpRxOp} (hf : RrFits s op) : RrInv (rrStep s op).1 :=
  ⟨(h.right_step op).2 hf, h.sum_step op, h.known_step op⟩

/-- **The blocks of all reports carry what their fields are defined to carry exactly if all packets fit.** -/
theorem rrBlockRight_iff (jb : JitterBuffer) (ops : List RtpRxOp) :
    EachStep rrStep (fun s op => RrBlockRight (rrStep s op).1) (rtpReceiverInit jb, {}) ops ↔
      EachStep rrStep RrFits (rtpReceiverInit jb, {}) ops :=
  eachStep_iff_of_invariant RrInv _ _ (fun _ _ h hf => h.step hf) (fun _ op h => h.right_step op) _ ops (rrInv_start jb)

/-- Not in every run: behind the packets 65535 and 0 the block has the last sequence number 0, without the cycle. -/
theorem not_rrBlockRight_wrapped : ¬ ∀ jb ops,
    EachStep rrStep (fun s op => RrBlockRight (rrStep s op).1) (rtpReceiverInit jb, {}) ops := by
  intro h
  have hseq := (h pcmuJitterBuffer [cnPacket 65535, cnPacket 0]).2.1.lastSeq 65536 (by decide)
  revert hseq
  decide

end UniMrcp.Mpf
