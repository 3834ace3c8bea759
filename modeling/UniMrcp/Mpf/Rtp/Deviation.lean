import UniMrcp.Mpf.Rtp.Receiver

/-!
# Silence and the deviation of timestamps

The elapsed time in samples is a 32-bit product that is divided by 1000, so that a product that wraps gives another
number of samples.
-/

namespace UniMrcp.Mpf

open List

/-- A product is taken modulo 2^32 by a multiple of 1000 wraps, and what is left of it is not negative or a whole
number of thousands. -/
def ProductSurvives (product : ℤ) : Prop :=
  1000 ∣ product.bdiv (2 ^ 32) ∧ (0 ≤ product.bmod (2 ^ 32) ∨ 1000 ∣ product.bmod (2 ^ 32))

instance (product : ℤ) : Decidable (ProductSurvives product) := inferInstanceAs (Decidable (_ ∧ _))

theorem productSurvives_iff (product : ℤ) :
    ProductSurvives product ↔ ∃ j, (product.bmod (2 ^ 32)).tdiv 1000 = product / 1000 + 2 ^ 32 * j := by
  have hd := Int.bmod_add_bdiv product (2 ^ 32)
  rw [ProductSurvives]
  generalize product.bmod (2 ^ 32) = b at *
  generalize product.bdiv (2 ^ 32) = k at *
  push_cast at hd
  subst hd
  constructor
  · rintro ⟨⟨m, rfl⟩, hb⟩
    refine ⟨-m, ?_⟩
    rcases hb with hb | ⟨n, rfl⟩
    · rw [Int.tdiv_eq_ediv_of_nonneg hb]
      omega
    · rw [Int.mul_tdiv_cancel_left _ (by decide)]
      omega
  · rintro ⟨j, hj⟩
    have hr := Int.tmod_add_mul_tdiv b 1000
    have hlt := Int.tmod_lt_of_pos b (show (0 : ℤ) < 1000 by decide)
    have hgt := Int.lt_tmod_of_pos b (show (0 : ℤ) < 1000 by decide)
    have hk : k = 1000 * -j := by omega
    subst hk
    refine ⟨⟨-j, rfl⟩, ?_⟩
    by_cases hb : 0 ≤ b
    · exact Or.inl hb
    · have hs := Int.tmod_nonneg 1000 (show 0 ≤ -b by omega)
      rw [Int.neg_tmod] at hs
      exact Or.inr (by omega)

/-! ## The deviation -/

theorem not_exceeds_iff (x : Int32) :
    ¬ (if x < 0 then -x else x) > deviationThreshold ↔ -4000 ≤ x.toInt ∧ x.toInt ≤ 4000 ∨ x.toInt = -2 ^ 31 := by
  have hl := x.le_toInt
  have hh := x.toInt_lt
  have h4 : (4000 : Int32).toInt = 4000 := by decide
  rw [gt_iff_lt, Int32.lt_iff_toInt_lt, deviationThreshold, h4]
  by_cases hx : x < 0
  · have hx0 : x.toInt < 0 := Int32.lt_iff_toInt_lt.1 hx
    rw [if_pos hx, Int32.toInt_neg]
    by_cases hm : x.toInt = -2 ^ 31
    · rw [hm]
      decide
    · rw [Int.bmod_eq_of_le (by omega) (by omega)]
      omega
  · have hx0 : ¬ x.toInt < 0 := fun h => hx (Int32.lt_iff_toInt_lt.2 h)
    rw [if_neg hx]
    omega

section Gap

variable (receiver : RtpReceiver) (descriptor : CodecDescriptor) (time : Int64) (ts : UInt32)

def elapsedMsec : ℤ := (time.toInt - receiver.history.timeLast.toInt) / 1000

/-- The product of the elapsed time, the number of channels and the sampling rate. -/
def elapsedProduct : ℤ :=
  elapsedMsec receiver time * descriptor.channelCount.toNat * descriptor.samplingRate.toNat

/-- The RTP timestamp has gone by with the elapsed time in samples, modulo 2^32 and up to the deviation threshold. -/
def HealthyGap : Prop :=
  ∃ e j : ℤ, -4000 ≤ e ∧ e ≤ 4000 ∧
    ((ts - receiver.history.tsLast).toNat : ℤ) = elapsedProduct receiver descriptor time / 1000 + e + 2 ^ 32 * j

def TimeForward : Prop := 0 ≤ receiver.history.timeLast.toInt ∧ receiver.history.timeLast.toInt ≤ time.toInt

instance : Decidable (TimeForward receiver time) := inferInstanceAs (Decidable (_ ∧ _))

variable {receiver time}

theorem rtpTimeDiff_toInt (ht : TimeForward receiver time) :
    (rtpTimeDiff receiver time).toInt = (elapsedMsec receiver time).bmod (2 ^ 32) := by
  obtain ⟨h0, hle⟩ := ht
  have hh := time.toInt_lt
  have h1000 : (1000 : Int64).toInt = 1000 := by decide
  have hs : (time - receiver.history.timeLast).toInt = time.toInt - receiver.history.timeLast.toInt := by
    rw [Int64.toInt_sub]
    apply Int.bmod_eq_of_le <;> omega
  rw [rtpTimeDiff, Int64.toInt_toInt32, Int64.toInt_div, hs, h1000, Int.tdiv_eq_ediv_of_nonneg (by omega),
    elapsedMsec]
  congr 1
  apply Int.bmod_eq_of_le <;> omega

theorem toInt_sub_unsigned (q : Int32) (x : UInt32) :
    (q.toUInt32 - x).toInt32.toInt = (q.toInt - (x.toNat : ℤ)).bmod (2 ^ 32) := by
  have hx : (q.toUInt32 - x).toInt32.toInt = (q.toBitVec - x.toBitVec).toInt := rfl
  have hn : x.toBitVec.toInt = (x.toNat : ℤ).bmod (2 ^ 32) := BitVec.toInt_eq_toNat_bmod x.toBitVec
  rw [hx, BitVec.toInt_sub, hn, Int.sub_bmod_bmod]
  rfl

theorem elapsedSamples_toInt (ht : TimeForward receiver time) :
    (rtpTimeDiff receiver time * Int32.ofNat descriptor.channelCount.toNat *
      Int32.ofNat descriptor.samplingRate.toNat / 1000).toInt =
    ((elapsedProduct receiver descriptor time).bmod (2 ^ 32)).tdiv 1000 := by
  have hc := descriptor.channelCount.toNat_lt
  have hr := descriptor.samplingRate.toNat_lt
  have h1000 : (1000 : Int32).toInt = 1000 := by decide
  rw [Int32.toInt_div, Int32.toInt_mul, Int32.toInt_mul, rtpTimeDiff_toInt ht, Int32.toInt_ofNat_of_lt (by omega),
    Int32.toInt_ofNat_of_lt (by omega), h1000, Int.bmod_mul_bmod, Int.mul_assoc, Int.bmod_mul_bmod, ← Int.mul_assoc]
  change ((((elapsedProduct receiver descriptor time).bmod (2 ^ 32)).tdiv 1000).bmod (2 ^ 32)) = _
  have hl := Int.le_bmod (x := elapsedProduct receiver descriptor time) (m := 2 ^ 32) (by decide)
  have hh := Int.bmod_lt (x := elapsedProduct receiver descriptor time) (m := 2 ^ 32) (by decide)
  generalize (elapsedProduct receiver descriptor time).bmod (2 ^ 32) = b at *
  have hm := Int.tmod_add_mul_tdiv b 1000
  have hlt := Int.tmod_lt_of_pos b (show (0 : ℤ) < 1000 by decide)
  have hgt := Int.lt_tmod_of_pos b (show (0 : ℤ) < 1000 by decide)
  push_cast at hl hh
  apply Int.bmod_eq_of_le <;> omega

theorem not_drift_iff (ht : TimeForward receiver time) (marker : Bool) :
    (rtpRxTsUpdate receiver descriptor time ts marker).2.1 = .update ↔
      ∃ e j : ℤ, (-4000 ≤ e ∧ e ≤ 4000 ∨ e = 2 ^ 31) ∧ ((ts - receiver.history.tsLast).toNat : ℤ) =
        ((elapsedProduct receiver descriptor time).bmod (2 ^ 32)).tdiv 1000 + e + 2 ^ 32 * j := by
  have hu : (rtpRxTsUpdate receiver descriptor time ts marker).2.1 = .update ↔
      ¬ rtpDeviation receiver descriptor time ts > deviationThreshold := by
    simp only [rtpRxTsUpdate]
    split_ifs with h <;> simp [h]
  rw [hu]
  simp only [rtpDeviation]
  rw [not_exceeds_iff, toInt_sub_unsigned, elapsedSamples_toInt descriptor ht]
  generalize ((elapsedProduct receiver descriptor time).bmod (2 ^ 32)).tdiv 1000 = q
  generalize ((ts - receiver.history.tsLast).toNat : ℤ) = d
  have hv := Int.bmod_add_bdiv (q - d) (2 ^ 32)
  have hl := Int.le_bmod (x := q - d) (m := 2 ^ 32) (by decide)
  have hh := Int.bmod_lt (x := q - d) (m := 2 ^ 32) (by decide)
  generalize (q - d).bmod (2 ^ 32) = b at *
  generalize (q - d).bdiv (2 ^ 32) = k at *
  push_cast at hv hl hh
  constructor
  · intro h
    exact ⟨-b, -k, by omega, by omega⟩
  · rintro ⟨e, j, he, hd⟩
    omega

end Gap

/-! ## Delivery -/

/-- A packet is delivered: its timestamp is in line, and it is passed to the jitter buffer. -/
structure RtpDelivered (receiver : RtpReceiver) (descriptors : RtpRxDescriptors) (time : Int64) (packet : RtpPacket) :
    Prop where
  update : (rtpRxTsUpdate receiver descriptors.codec time packet.timestamp packet.marker).2.1 = .update
  write : ∃ marker, RtpRxEvent.write packet.payload packet.timestamp marker ∈
    (rtpRxPacketReceive receiver descriptors time (some packet)).2.2

/-- A packet of the stream: it comes from the known source behind another packet, with audio of the codec. -/
structure RtpOfStream (receiver : RtpReceiver) (descriptors : RtpRxDescriptors) (packet : RtpPacket) : Prop where
  received : receiver.stat.receivedPackets ≠ 0
  source : packet.ssrc = receiver.rrStat.ssrc
  codec : packet.type = descriptors.payloadType

theorem rtpRxTsUpdate_congr {r r' : RtpReceiver} (ht : r'.history.tsLast = r.history.tsLast)
    (hm : r'.history.timeLast = r.history.timeLast) (descriptor : CodecDescriptor) (time : Int64) (ts : UInt32)
    (marker : Bool) :
    (rtpRxTsUpdate r' descriptor time ts marker).2.1 = (rtpRxTsUpdate r descriptor time ts marker).2.1 := by
  have hf : rtpTimeDiff r' time = rtpTimeDiff r time := by rw [rtpTimeDiff, rtpTimeDiff, hm]
  have hd : rtpDeviation r' descriptor time ts = rtpDeviation r descriptor time ts := by
    simp only [rtpDeviation, hf, ht]
  simp only [rtpRxTsUpdate, hd]
  split_ifs <;> rfl

variable {packet : RtpPacket}

theorem codecReceive_write {receiver : RtpReceiver} {descriptor : CodecDescriptor} {time : Int64}
    (h : (rtpRxTsUpdate receiver descriptor time packet.timestamp packet.marker).2.1 = .update) :
    ∃ marker, RtpRxEvent.write packet.payload packet.timestamp marker ∈
      (rtpRxCodecReceive receiver descriptor time packet).2.2 := by
  simp only [rtpRxCodecReceive, h, reduceCtorEq, if_false]
  exact ⟨_, mem_cons_of_mem _ mem_cons_self⟩

theorem rtpDelivered_iff_update {receiver : RtpReceiver} {descriptors : RtpRxDescriptors} {time : Int64}
    (hp : RtpOfStream receiver descriptors packet) :
    RtpDelivered receiver descriptors time packet ↔
      (rtpRxTsUpdate receiver descriptors.codec time packet.timestamp packet.marker).2.1 = .update := by
  constructor
  · exact RtpDelivered.update
  · intro h
    refine ⟨h, ?_⟩
    have hf : rtpRxFirstInit receiver time packet = (receiver, []) := if_neg hp.received
    obtain ⟨known, hk, -, ht, hm⟩ := rtpRxSsrcUpdate_known hp.source.symm
    obtain ⟨-, ht', hm'⟩ := rtpRxSeqUpdate_kept known packet.sequence
    have hu := (rtpRxTsUpdate_congr (ht'.trans ht) (hm'.trans hm) descriptors.codec time
      packet.timestamp packet.marker).trans h
    obtain ⟨marker, hmm⟩ := codecReceive_write hu
    refine ⟨marker, ?_⟩
    simp only [rtpRxPacketReceive, hf, hk, rtpRxSourceReceive, rtpRxPayloadReceive, if_pos hp.codec,
      nil_append]
    exact mem_cons_of_mem _ hmm

/-- **After an elapsed time every packet of the stream with a healthy gap is delivered exactly when the product of the
elapsed time with the number of channels and the sampling rate survives its wraps.** -/
theorem delivered_iff (receiver : RtpReceiver) (descriptors : RtpRxDescriptors) (time : Int64)
    (hr : receiver.stat.receivedPackets ≠ 0) (ht : TimeForward receiver time) :
    (∀ packet, RtpOfStream receiver descriptors packet →
        HealthyGap receiver descriptors.codec time packet.timestamp → RtpDelivered receiver descriptors time packet) ↔
      ProductSurvives (elapsedProduct receiver descriptors.codec time) := by
  rw [productSurvives_iff]
  constructor
  · intro h
    -- a packet with the given deviation from the elapsed time
    have hall : ∀ e : ℤ, -4000 ≤ e → e ≤ 4000 → ∃ e' j : ℤ, (-4000 ≤ e' ∧ e' ≤ 4000 ∨ e' = 2 ^ 31) ∧
        elapsedProduct receiver descriptors.codec time / 1000 + e =
          ((elapsedProduct receiver descriptors.codec time).bmod (2 ^ 32)).tdiv 1000 + e' + 2 ^ 32 * j := by
      intro e hlo hhi
      obtain ⟨d, k, hlt, hdk⟩ : ∃ (d : ℕ) (k : ℤ), d < 2 ^ 32 ∧
          elapsedProduct receiver descriptors.codec time / 1000 + e = d + 2 ^ 32 * k :=
        ⟨((elapsedProduct receiver descriptors.codec time / 1000 + e) % 2 ^ 32).toNat,
          (elapsedProduct receiver descriptors.codec time / 1000 + e) / 2 ^ 32, by omega, by omega⟩
      let packet : RtpPacket :=
        { sequence := 0, timestamp := UInt32.ofNat d + receiver.history.tsLast, ssrc := receiver.rrStat.ssrc,
          type := descriptors.payloadType, marker := false, payload := [], namedEvent := {} }
      have hp : RtpOfStream receiver descriptors packet := ⟨hr, rfl, rfl⟩
      have hts : ((packet.timestamp - receiver.history.tsLast).toNat : ℤ) = d := by
        rw [UInt32.add_sub_cancel, UInt32.toNat_ofNat', Nat.mod_eq_of_lt hlt]
      have hdel := (h packet hp ⟨e, -k, hlo, hhi, by rw [hts]; omega⟩).update
      rw [not_drift_iff descriptors.codec packet.timestamp ht, hts] at hdel
      obtain ⟨e', j, he', hd⟩ := hdel
      exact ⟨e', j + k, he', by omega⟩
    obtain ⟨e, j, he, h1⟩ := hall 4000 (by decide) (by decide)
    obtain ⟨e', j', he', h2⟩ := hall (-4000) (by decide) (by decide)
    exact ⟨-j, by omega⟩
  · rintro ⟨j, hj⟩ packet hp ⟨e, j', hlo, hhi, hd⟩
    rw [rtpDelivered_iff_update hp, not_drift_iff descriptors.codec packet.timestamp ht]
    exact ⟨e, j' - j, Or.inl ⟨hlo, hhi⟩, by omega⟩

/-- A receiver of 8000 Hz audio behind its first packet, with sequence number, timestamp and arrival time zero. -/
def firstPacketReceived : RtpReceiver :=
  { rtpReceiverInit (jitterBufferCreate none ⟨8000, 1⟩ { attribs := ⟨8⟩ }) with
    stat := { RtpRxStat.reset with receivedPackets := 1 } }

def pcmuDescriptors : RtpRxDescriptors := { codec := ⟨8000, 1⟩, payloadType := 0, eventPayloadType := none }

/-- After a minute of silence a packet with a healthy gap is delivered. -/
theorem delivered_iff_sample :
    RtpDelivered firstPacketReceived pcmuDescriptors 60000000
      { sequence := 1, timestamp := 480000, ssrc := 0, type := 0, marker := true, payload := [], namedEvent := {} } :=
  (delivered_iff firstPacketReceived pcmuDescriptors 60000000 (by decide) (by decide)).2 (by decide) _
    ⟨by decide, by decide, by decide⟩ ⟨0, 0, by decide⟩

/-- After 300 seconds of silence a packet whose timestamp has gone by with the elapsed time is not delivered. -/
theorem not_delivered_after_silence : ¬ ∀ receiver descriptors time packet, descriptors.codec.SupportedRate →
    TimeForward receiver time → RtpOfStream receiver descriptors packet →
    HealthyGap receiver descriptors.codec time packet.timestamp → RtpDelivered receiver descriptors time packet := by
  intro h
  let packet : RtpPacket :=
    { sequence := 1, timestamp := 2400000, ssrc := 0, type := 0, marker := true, payload := [], namedEvent := {} }
  have hdelivered := h firstPacketReceived pcmuDescriptors 300000000 packet (by decide) (by decide)
    ⟨by decide, by decide, by decide⟩ ⟨0, 0, by decide⟩
  exact absurd hdelivered.update (by decide)

end UniMrcp.Mpf
