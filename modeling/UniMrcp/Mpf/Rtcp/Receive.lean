import UniMrcp.Mpf.Rtcp.Packet

/-!
# Reception of RTCP packets

`mpf_rtcp_compound_packet_receive` of `mpf_rtp_stream.c`: a walk over the packets of a datagram that converts them in
place and goes on by the declared length. The buffer goes on behind the received bytes, with any content.
-/

namespace UniMrcp.Mpf

open Lib List RtcpHeader

/-! ## One packet -/

/-- What is taken from a packet: the statistics of a sender report, or a report block. -/
inductive RtcpReport where
  | sr (stat : RtcpSrStat)
  | rr (stat : RtcpRrStat)
  deriving DecidableEq

/-- Where a packet starts, its header in host order, the offsets that were read or converted, and the reports that were
taken. -/
structure RtcpVisit where
  offset : ℕ
  header : RtcpHeader
  touched : List ℕ
  reports : List RtcpReport

def RtcpVisit.next (v : RtcpVisit) : ℕ := v.offset + 4 * (v.header.length.toNat + 1)

/-- `rtcp_sr_get`: conversion in place of the statistics at offset `p`. -/
def rtcpSrGet (buffer : ℕ → UInt8) (p : ℕ) : (ℕ → UInt8) × RtcpSrStat :=
  let stat := rtcpSrNtoh (RtcpSrStat.load buffer p)
  (store buffer p stat.bytes, stat)

/-- `rtcp_rr_get`: conversion in place of the block at offset `p`. -/
def rtcpRrGet (buffer : ℕ → UInt8) (p : ℕ) : (ℕ → UInt8) × RtcpRrStat :=
  let stat := rtcpRrNtoh (RtcpRrStat.load buffer p)
  (store buffer p stat.bytes, stat)

def rtcpHeaderOffsets (p : ℕ) : List ℕ := List.range' p 4

def rtcpSrOffsets (p : ℕ) : List ℕ := List.range' p 24

/-- The offsets of a report block, up to the last field that is read or converted. -/
def rtcpRrOffsets (p : ℕ) : List ℕ := List.range' p 16

/-- The body of the loop of `mpf_rtcp_compound_packet_receive`. -/
def rtcpPacketReceive (buffer : ℕ → UInt8) (p : ℕ) : (ℕ → UInt8) × RtcpVisit :=
  let header := RtcpHeader.load buffer p
  let header := { header with length := swap16 header.length }
  let buffer := store buffer p header.bytes
  if header.pt = RtcpType.sr.code then
    let (buffer, sr) := rtcpSrGet buffer (p + 4)
    if header.count ≠ 0 then
      let (buffer, rr) := rtcpRrGet buffer (p + 28)
      (buffer, ⟨p, header, rtcpHeaderOffsets p ++ (rtcpSrOffsets (p + 4) ++ rtcpRrOffsets (p + 28)), [.sr sr, .rr rr]⟩)
    else
      (buffer, ⟨p, header, rtcpHeaderOffsets p ++ rtcpSrOffsets (p + 4), [.sr sr]⟩)
  else if header.pt = RtcpType.rr.code then
    let buffer := store buffer (p + 4) (u32Bytes (swap32 (loadU32 buffer (p + 4))))
    if header.count ≠ 0 then
      let (buffer, rr) := rtcpRrGet buffer (p + 8)
      (buffer, ⟨p, header, rtcpHeaderOffsets p ++ (List.range' (p + 4) 4 ++ rtcpRrOffsets (p + 8)), [.rr rr]⟩)
    else
      (buffer, ⟨p, header, rtcpHeaderOffsets p ++ List.range' (p + 4) 4, []⟩)
  else
    -- SDES, BYE and unknown packets
    (buffer, ⟨p, header, rtcpHeaderOffsets p, []⟩)

@[simp] theorem rtcpPacketReceive_offset (buffer : ℕ → UInt8) (p : ℕ) : (rtcpPacketReceive buffer p).2.offset = p := by
  simp only [rtcpPacketReceive, rtcpSrGet, rtcpRrGet]
  split_ifs <;> rfl

/-- The header in the buffer at offset `p`, with the length in host order. -/
def rtcpHeaderAt (buffer : ℕ → UInt8) (p : ℕ) : RtcpHeader :=
  { RtcpHeader.load buffer p with length := swap16 (loadU16 buffer (p + 2)) }

@[simp] theorem rtcpPacketReceive_header (buffer : ℕ → UInt8) (p : ℕ) :
    (rtcpPacketReceive buffer p).2.header = rtcpHeaderAt buffer p := by
  simp only [rtcpPacketReceive, rtcpSrGet, rtcpRrGet]
  split_ifs <;> rfl

theorem lt_next (buffer : ℕ → UInt8) (p : ℕ) : p + 4 ≤ (rtcpPacketReceive buffer p).2.next := by
  rw [RtcpVisit.next, rtcpPacketReceive_offset]
  omega

/-! ## All packets -/

/-- The end of a reception: the result, the packets received, and all offsets that were read or converted. -/
structure RtcpReceipt where
  result : Bool
  visits : List RtcpVisit
  touched : List ℕ

def RtcpReceipt.reports (r : RtcpReceipt) : List RtcpReport := r.visits.flatMap RtcpVisit.reports

/-- The loop of `mpf_rtcp_compound_packet_receive`, from the packet at offset `p` on. -/
def rtcpPacketsReceive (length : ℕ) (buffer : ℕ → UInt8) (p : ℕ) : RtcpReceipt :=
  if p < length then
    if (RtcpHeader.load buffer p).version = rtpVersion then
      let packet := rtcpPacketReceive buffer p
      let rest := rtcpPacketsReceive length packet.1 packet.2.next
      ⟨rest.result, packet.2 :: rest.visits, packet.2.touched ++ rest.touched⟩
    else
      -- the version is read from the first byte
      ⟨false, [], [p]⟩
  else
    ⟨decide (p = length), [], []⟩
termination_by length - p
decreasing_by
  have h := lt_next buffer p
  omega

/-- `mpf_rtcp_compound_packet_receive` on a buffer with `length` received bytes. -/
def rtcpCompoundPacketReceive (buffer : ℕ → UInt8) (length : ℕ) : RtcpReceipt := rtcpPacketsReceive length buffer 0

/-- A packet is received at offset `p`: the walk is within the received bytes and finds the version. -/
def RtcpPacketAt (length : ℕ) (buffer : ℕ → UInt8) (p : ℕ) : Prop :=
  p < length ∧ (RtcpHeader.load buffer p).version = rtpVersion

variable {length p : ℕ} {buffer : ℕ → UInt8}

theorem rtcpPacketsReceive_of_packet (h : RtcpPacketAt length buffer p) :
    rtcpPacketsReceive length buffer p =
      let rest := rtcpPacketsReceive length (rtcpPacketReceive buffer p).1 (rtcpPacketReceive buffer p).2.next
      ⟨rest.result, (rtcpPacketReceive buffer p).2 :: rest.visits,
        (rtcpPacketReceive buffer p).2.touched ++ rest.touched⟩ := by
  rw [rtcpPacketsReceive, if_pos h.1, if_pos h.2]

theorem rtcpPacketsReceive_of_not (h : ¬ RtcpPacketAt length buffer p) :
    (rtcpPacketsReceive length buffer p).visits = [] ∧
      ∀ o ∈ (rtcpPacketsReceive length buffer p).touched, o < length := by
  rw [rtcpPacketsReceive]
  split_ifs with hp hv
  · exact absurd ⟨hp, hv⟩ h
  · simpa using hp
  · simp

/-- The packets the walk comes to, each with the buffer as the packets before it have left it. -/
inductive RtcpReached (length : ℕ) : (ℕ → UInt8) → ℕ → (ℕ → UInt8) → ℕ → Prop where
  | here (buffer : ℕ → UInt8) (p : ℕ) : RtcpReached length buffer p buffer p
  | next {buffer b : ℕ → UInt8} {p q : ℕ} (h : RtcpPacketAt length buffer p)
    (hr : RtcpReached length (rtcpPacketReceive buffer p).1 (rtcpPacketReceive buffer p).2.next b q) :
    RtcpReached length buffer p b q

variable {v : RtcpVisit}

theorem mem_visits_iff :
    v ∈ (rtcpPacketsReceive length buffer p).visits ↔
      ∃ b q, RtcpReached length buffer p b q ∧ RtcpPacketAt length b q ∧ v = (rtcpPacketReceive b q).2 := by
  constructor
  · intro hv
    induction buffer, p using rtcpPacketsReceive.induct length with
    | case1 buffer p hp hvr packet ih =>
      rw [rtcpPacketsReceive_of_packet ⟨hp, hvr⟩] at hv
      rcases mem_cons.1 hv with rfl | hv
      · exact ⟨buffer, p, .here buffer p, ⟨hp, hvr⟩, rfl⟩
      · obtain ⟨b, q, hr, hq⟩ := ih hv
        exact ⟨b, q, .next ⟨hp, hvr⟩ hr, hq⟩
    | case2 buffer p hp hvr =>
      rw [(rtcpPacketsReceive_of_not fun h => hvr h.2).1] at hv
      cases hv
    | case3 buffer p hp =>
      rw [(rtcpPacketsReceive_of_not fun h => hp h.1).1] at hv
      cases hv
  · rintro ⟨b, q, hr, hq, rfl⟩
    induction hr with
    | here buffer p =>
      rw [rtcpPacketsReceive_of_packet hq]
      exact mem_cons_self
    | next h hr ih =>
      rw [rtcpPacketsReceive_of_packet h]
      exact mem_cons_of_mem _ (ih hq)

theorem touched_of_mem_visits (hv : v ∈ (rtcpPacketsReceive length buffer p).visits) :
    ∀ o ∈ v.touched, o ∈ (rtcpPacketsReceive length buffer p).touched := by
  obtain ⟨b, q, hr, hq, rfl⟩ := mem_visits_iff.1 hv
  clear hv
  intro o ho
  induction hr with
  | here buffer p =>
    rw [rtcpPacketsReceive_of_packet hq]
    exact mem_append_left _ ho
  | next h hr ih =>
    rw [rtcpPacketsReceive_of_packet h]
    exact mem_append_right _ (ih hq ho)

theorem mem_touched {p o : ℕ} (ho : o ∈ (rtcpPacketsReceive length buffer p).touched) :
    o < length ∨ ∃ v ∈ (rtcpPacketsReceive length buffer p).visits, o ∈ v.touched := by
  induction buffer, p using rtcpPacketsReceive.induct length with
  | case1 buffer p hp hr packet ih =>
    rw [rtcpPacketsReceive_of_packet ⟨hp, hr⟩] at ho ⊢
    rcases mem_append.1 ho with ho | ho
    · exact Or.inr ⟨_, mem_cons_self, ho⟩
    · rcases ih ho with h | ⟨v, hv, ho⟩
      · exact Or.inl h
      · exact Or.inr ⟨v, mem_cons_of_mem _ hv, ho⟩
  | case2 buffer p hp hr => exact Or.inl ((rtcpPacketsReceive_of_not fun h => hr h.2).2 o ho)
  | case3 buffer p hp => exact Or.inl ((rtcpPacketsReceive_of_not fun h => hp h.1).2 o ho)

theorem visits_length_le (length : ℕ) (buffer : ℕ → UInt8) (p : ℕ) :
    4 * (rtcpPacketsReceive length buffer p).visits.length ≤ (length + 3) - p := by
  induction buffer, p using rtcpPacketsReceive.induct length with
  | case1 buffer p hp hv packet ih =>
    rw [rtcpPacketsReceive_of_packet ⟨hp, hv⟩]
    have hn := lt_next buffer p
    simp only [packet] at ih
    simp only [length_cons]
    omega
  | case2 buffer p hp hv => simp [(rtcpPacketsReceive_of_not fun h => hv h.2).1]
  | case3 buffer p hp => simp [(rtcpPacketsReceive_of_not fun h => hp h.1).1]

/-! ## Reception within the received bytes -/

def RtcpHeader.IsReport (h : RtcpHeader) : Prop := h.pt = RtcpType.sr.code ∨ h.pt = RtcpType.rr.code

instance (h : RtcpHeader) : Decidable h.IsReport := inferInstanceAs (Decidable (_ ∨ _))

def RtcpHeader.need (h : RtcpHeader) : ℕ :=
  if h.pt = RtcpType.sr.code then 28 + 24 * h.count.toNat
  else if h.pt = RtcpType.rr.code then 8 + 24 * h.count.toNat
  else 4

/-- The header, the declared length and the report blocks of a packet are within the `room` bytes left. -/
structure RtcpHeader.Fits (h : RtcpHeader) (room : ℕ) : Prop where
  header : 4 ≤ room
  declared : 4 * (h.length.toNat + 1) ≤ room
  blocks : h.need ≤ room

/-- The reception of a datagram keeps to its `length` bytes. A packet that does not fit is ignored, and none comes after
it. -/
structure RtcpStaysInside (buffer : ℕ → UInt8) (length : ℕ) : Prop where
  ends : (rtcpCompoundPacketReceive buffer length).visits.length ≤ length
  inside : ∀ o ∈ (rtcpCompoundPacketReceive buffer length).touched, o < length
  ignored : ∀ v ∈ (rtcpCompoundPacketReceive buffer length).visits, ¬ v.header.Fits (length - v.offset) →
    (∀ o ∈ v.touched, o < v.offset + 4) ∧ length ≤ v.next

/-- Each packet the walk comes to has its four header bytes, and each report packet fits. -/
def RtcpWellSized (buffer : ℕ → UInt8) (length : ℕ) : Prop :=
  ∀ b p, RtcpReached length buffer 0 b p → RtcpPacketAt length b p →
    p + 4 ≤ length ∧ ((rtcpHeaderAt b p).IsReport → (rtcpHeaderAt b p).Fits (length - p))

/-! ## What a packet touches -/

section Touched

variable {buffer : ℕ → UInt8} {p : ℕ}

variable {h : RtcpHeader}

theorem count_pos (hc : h.count ≠ 0) : 1 ≤ h.count.toNat := by
  have : h.count.toNat ≠ 0 := fun h0 => hc (BitVec.eq_of_toNat_eq (by simpa using h0))
  omega

theorem need_of_sr (hs : h.pt = RtcpType.sr.code) : h.need = 28 + 24 * h.count.toNat := if_pos hs

theorem need_of_rr (hr : h.pt = RtcpType.rr.code) : h.need = 8 + 24 * h.count.toNat := by
  rw [need, if_neg, if_pos hr]
  rw [hr]
  decide

theorem need_of_not_report (hr : ¬ h.IsReport) : h.need = 4 := by
  obtain ⟨hs, hrr⟩ := not_or.1 hr
  rw [need, if_neg hs, if_neg hrr]

theorem touched_lt_need {o : ℕ} (ho : o ∈ (rtcpPacketReceive buffer p).2.touched) :
    o < p + (rtcpHeaderAt buffer p).need := by
  simp only [rtcpPacketReceive, rtcpSrGet, rtcpRrGet, rtcpHeaderOffsets, rtcpSrOffsets, rtcpRrOffsets] at ho
  by_cases hs : (load buffer p).pt = RtcpType.sr.code
  · have hn := need_of_sr (h := rtcpHeaderAt buffer p) hs
    by_cases hc : (load buffer p).count ≠ 0
    · have hp := count_pos (h := rtcpHeaderAt buffer p) hc
      simp only [if_pos hs, if_pos hc, mem_append, mem_range'_1] at ho
      omega
    · simp only [if_pos hs, if_neg hc, mem_append, mem_range'_1] at ho
      omega
  · by_cases hr : (load buffer p).pt = RtcpType.rr.code
    · have hn := need_of_rr (h := rtcpHeaderAt buffer p) hr
      by_cases hc : (load buffer p).count ≠ 0
      · have hp := count_pos (h := rtcpHeaderAt buffer p) hc
        simp only [if_neg hs, if_pos hr, if_pos hc, mem_append, mem_range'_1] at ho
        omega
      · simp only [if_neg hs, if_pos hr, if_neg hc, mem_append, mem_range'_1] at ho
        omega
    · have hn := need_of_not_report (h := rtcpHeaderAt buffer p) (not_or.2 ⟨hs, hr⟩)
      simp only [if_neg hs, if_neg hr, mem_range'_1] at ho
      omega

theorem header_touched (buffer : ℕ → UInt8) (p : ℕ) : p + 3 ∈ (rtcpPacketReceive buffer p).2.touched := by
  simp only [rtcpPacketReceive, rtcpSrGet, rtcpRrGet, rtcpHeaderOffsets]
  split_ifs <;> simp

theorem report_touched (h : (rtcpHeaderAt buffer p).IsReport) : p + 4 ∈ (rtcpPacketReceive buffer p).2.touched := by
  rw [RtcpHeader.IsReport] at h
  simp only [rtcpPacketReceive, rtcpSrGet, rtcpRrGet, rtcpSrOffsets, rtcpHeaderOffsets]
  split_ifs with hs hc hr hc
  · simp
  · simp
  · simp
  · simp
  · exact absurd h (not_or.2 ⟨hs, hr⟩)

end Touched

/-! ## The condition -/

variable {length : ℕ}

theorem RtcpWellSized.inside {buffer : ℕ → UInt8} (h : RtcpWellSized buffer length) :
    ∀ o ∈ (rtcpCompoundPacketReceive buffer length).touched, o < length := by
  intro o ho
  rcases mem_touched ho with ho | ⟨v, hv, ho⟩
  · exact ho
  · obtain ⟨b, q, hr, hq, rfl⟩ := mem_visits_iff.1 hv
    obtain ⟨hh, hf⟩ := h b q hr hq
    have hn := touched_lt_need ho
    by_cases hp : (rtcpHeaderAt b q).IsReport
    · have hb := (hf hp).blocks
      omega
    · rw [need_of_not_report hp] at hn
      omega

theorem RtcpWellSized.ignored {buffer : ℕ → UInt8} (h : RtcpWellSized buffer length) :
    ∀ v ∈ (rtcpCompoundPacketReceive buffer length).visits, ¬ v.header.Fits (length - v.offset) →
      (∀ o ∈ v.touched, o < v.offset + 4) ∧ length ≤ v.next := by
  intro v hv hn
  obtain ⟨b, q, hr, hq, rfl⟩ := mem_visits_iff.1 hv
  obtain ⟨hh, hf⟩ := h b q hr hq
  rw [rtcpPacketReceive_header, rtcpPacketReceive_offset] at hn
  have hp : ¬ (rtcpHeaderAt b q).IsReport := fun hp => hn (hf hp)
  have hd := need_of_not_report hp
  constructor
  · intro o ho
    have ho := touched_lt_need ho
    rw [rtcpPacketReceive_offset]
    omega
  · -- only the declared length can be too long
    by_contra hlt
    rw [RtcpVisit.next, rtcpPacketReceive_header, rtcpPacketReceive_offset] at hlt
    apply hn
    constructor <;> omega

theorem RtcpStaysInside.wellSized {buffer : ℕ → UInt8} (h : RtcpStaysInside buffer length) :
    RtcpWellSized buffer length := by
  intro b p hr hp
  have hv : (rtcpPacketReceive b p).2 ∈ (rtcpCompoundPacketReceive buffer length).visits :=
    mem_visits_iff.2 ⟨b, p, hr, hp, rfl⟩
  constructor
  · have := h.inside _ (touched_of_mem_visits hv _ (header_touched b p))
    omega
  · intro hrp
    by_contra hn
    have hi := h.ignored _ hv (by rwa [rtcpPacketReceive_header, rtcpPacketReceive_offset])
    have := hi.1 _ (report_touched hrp)
    rw [rtcpPacketReceive_offset] at this
    omega

/-- **The reception of a datagram keeps to the received bytes exactly when each packet the walk comes to has its four
header bytes, and each sender or receiver report fits in what is left.** -/
theorem rtcpStaysInside_iff (buffer : ℕ → UInt8) (length : ℕ) :
    RtcpStaysInside buffer length ↔ RtcpWellSized buffer length := by
  constructor
  · exact RtcpStaysInside.wellSized
  · intro h
    have hn := visits_length_le length buffer 0
    refine ⟨?_, h.inside, h.ignored⟩
    rw [rtcpCompoundPacketReceive]
    omega

def bareSenderReport : ℕ → UInt8 := fun i => [0x80, 200, 0, 0].getD i 0

/-- Such a sender report is read and converted behind the datagram. -/
theorem not_rtcpStaysInside_bare : ¬ RtcpStaysInside bareSenderReport 4 := by
  intro h
  have hp : RtcpPacketAt 4 bareSenderReport 0 := ⟨by decide, by decide⟩
  have hfits := (h.wellSized bareSenderReport 0 (.here _ _) hp).2 (Or.inl (by decide))
  exact absurd hfits.blocks (by decide)

end UniMrcp.Mpf
