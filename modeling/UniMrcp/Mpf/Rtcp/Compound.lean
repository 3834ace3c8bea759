import UniMrcp.Mpf.Rtcp.Receive

/-!
# Compound packets that are understood
-/

namespace UniMrcp.Mpf

open Lib List RtcpHeader

structure RtcpPart where
  bytes : List UInt8
  reports : List RtcpReport

/-- The part is received wherever its bytes are found, and nothing behind its end is changed. -/
structure RtcpPart.Good (part : RtcpPart) : Prop where
  aligned : part.bytes.length % 4 = 0
  nonempty : 0 < part.bytes.length
  version : ∀ buffer p, BytesAt buffer p part.bytes → (RtcpHeader.load buffer p).version = rtpVersion
  next : ∀ buffer p, BytesAt buffer p part.bytes → (rtcpPacketReceive buffer p).2.next = p + part.bytes.length
  reports : ∀ buffer p, BytesAt buffer p part.bytes → (rtcpPacketReceive buffer p).2.reports = part.reports
  frame : ∀ buffer p, BytesAt buffer p part.bytes → ∀ i, p + part.bytes.length ≤ i →
    (rtcpPacketReceive buffer p).1 i = buffer i

theorem receive_parts {parts : List RtcpPart} (hg : ∀ part ∈ parts, part.Good) {buffer : ℕ → UInt8} {p length : ℕ}
    (hp : p % 4 = 0) (hb : BytesAt buffer p (parts.flatMap RtcpPart.bytes))
    (hl : length = p + (parts.flatMap RtcpPart.bytes).length) :
    (rtcpPacketsReceive length buffer p).result = true ∧
      (rtcpPacketsReceive length buffer p).reports = parts.flatMap RtcpPart.reports ∧
      (∀ v ∈ (rtcpPacketsReceive length buffer p).visits, v.offset % 4 = 0) ∧
      p + ((rtcpPacketsReceive length buffer p).visits.map fun v => 4 * (v.header.length.toNat + 1)).sum = length := by
  induction parts generalizing buffer p with
  | nil =>
    have he : length = p := hl
    rw [rtcpPacketsReceive, if_neg (by omega)]
    exact ⟨by simp [he], rfl, by simp, by simp [he]⟩
  | cons part parts ih =>
    obtain ⟨hr, hpa⟩ := forall_mem_cons.1 hg
    rw [flatMap_cons, bytesAt_append] at hb
    rw [flatMap_cons, length_append] at hl
    have hnn := hr.nonempty
    have ha := hr.aligned
    have hk : RtcpPacketAt length buffer p := ⟨by omega, hr.version buffer p hb.1⟩
    have hn := hr.next buffer p hb.1
    have hrp := hr.reports buffer p hb.1
    have hh : BytesAt (rtcpPacketReceive buffer p).1 (p + part.bytes.length) (parts.flatMap RtcpPart.bytes) :=
      hb.2.congr (hr.frame buffer p hb.1)
    obtain ⟨hre, hs, ho, hm⟩ := ih hpa (by omega) hh (by omega)
    rw [rtcpPacketsReceive_of_packet hk, hn]
    refine ⟨hre, ?_, ?_, ?_⟩
    · rw [RtcpReceipt.reports] at hs ⊢
      rw [flatMap_cons, flatMap_cons, hrp, hs]
    · intro v hv
      rcases mem_cons.1 hv with rfl | hv
      · rw [rtcpPacketReceive_offset]
        exact hp
      · exact ho v hv
    · rw [RtcpVisit.next, rtcpPacketReceive_offset] at hn
      rw [map_cons, sum_cons]
      omega

/-! ## Good parts -/

/-- A header of the version whose declared length is `size` bytes. -/
structure RtcpHeader.Declares (h : RtcpHeader) (size : ℕ) : Prop where
  version : h.version = rtpVersion
  length : 4 * ((swap16 h.length).toNat + 1) = size

section Parts

variable {h : RtcpHeader} {rest : List UInt8} {buffer : ℕ → UInt8} {p : ℕ}

theorem header_at (hb : BytesAt buffer p (h.bytes ++ rest)) :
    load buffer p = h ∧ BytesAt buffer (p + 4) rest := by
  rw [bytesAt_append] at hb
  exact ⟨load_of_bytesAt hb.1, hb.2⟩

theorem next_at (hb : BytesAt buffer p (h.bytes ++ rest)) {size : ℕ} (hd : h.Declares size) :
    (rtcpPacketReceive buffer p).2.next = p + size := by
  have hl : loadU16 buffer (p + 2) = h.length := congrArg RtcpHeader.length (header_at hb).1
  rw [RtcpVisit.next, rtcpPacketReceive_offset, rtcpPacketReceive_header, rtcpHeaderAt]
  rw [hl, hd.length]

theorem RtcpPart.good_of {h : RtcpHeader} {rest : List UInt8} {reports : List RtcpReport}
    (hd : h.Declares (4 + rest.length))
    (hr : ∀ buffer p, BytesAt buffer p (h.bytes ++ rest) → (rtcpPacketReceive buffer p).2.reports = reports ∧
      ∀ i, p + (4 + rest.length) ≤ i → (rtcpPacketReceive buffer p).1 i = buffer i) :
    RtcpPart.Good ⟨h.bytes ++ rest, reports⟩ where
  aligned := by
    have := hd.length
    simp only [length_append, bytes_length]
    omega
  nonempty := by simp only [length_append, bytes_length]; omega
  version buffer p hb := by rw [(header_at hb).1, hd.version]
  next buffer p hb := by rw [next_at hb hd, length_append, bytes_length]
  reports buffer p hb := (hr buffer p hb).1
  frame buffer p hb i hi := (hr buffer p hb).2 i (by simpa using hi)

abbrev RtcpHeader.host (h : RtcpHeader) : RtcpHeader := { h with length := swap16 h.length }

variable (sr : RtcpSrStat)

theorem good_sr (hd : h.Declares 28) (hp : h.pt = RtcpType.sr.code) (hc : ¬ h.count ≠ 0) :
    RtcpPart.Good ⟨h.bytes ++ sr.bytes, [.sr (rtcpSrNtoh sr)]⟩ := by
  apply RtcpPart.good_of hd
  intro buffer p hb
  obtain ⟨hl, hs⟩ := header_at hb
  have hs := hs.store_of_disjoint (q := p) (b := h.host.bytes) (Or.inr (by simp))
  simp only [rtcpPacketReceive, rtcpSrGet, hl, if_pos hp, if_neg hc]
  rw [RtcpSrStat.load_of_bytesAt hs]
  refine ⟨rfl, fun i hi => ?_⟩
  rw [RtcpSrStat.bytes_length] at hi
  rw [store_of_ge (by simp; omega), store_of_ge (by simp; omega)]

theorem good_srRr (rr : RtcpRrStat) (hd : h.Declares 52) (hp : h.pt = RtcpType.sr.code) (hc : h.count ≠ 0) :
    RtcpPart.Good ⟨h.bytes ++ (sr.bytes ++ rr.bytes), [.sr (rtcpSrNtoh sr), .rr (rtcpRrNtoh rr)]⟩ := by
  apply RtcpPart.good_of hd
  intro buffer p hb
  obtain ⟨hl, hrs⟩ := header_at hb
  obtain ⟨hs, hr⟩ := bytesAt_append.1 hrs
  rw [RtcpSrStat.bytes_length] at hr
  have hs := hs.store_of_disjoint (q := p) (b := h.host.bytes) (Or.inr (by simp))
  have hr := (hr.store_of_disjoint (q := p) (b := h.host.bytes) (Or.inr (by simp))).store_of_disjoint
    (q := p + 4) (b := (rtcpSrNtoh sr).bytes) (Or.inr (by simp))
  simp only [rtcpPacketReceive, rtcpSrGet, rtcpRrGet, hl, if_pos hp, if_pos hc]
  rw [RtcpSrStat.load_of_bytesAt hs, RtcpRrStat.load_of_bytesAt hr]
  refine ⟨rfl, fun i hi => ?_⟩
  rw [length_append, RtcpSrStat.bytes_length, RtcpRrStat.bytes_length] at hi
  rw [store_of_ge (by simp; omega), store_of_ge (by simp; omega), store_of_ge (by simp; omega)]

theorem rr_ne_sr : RtcpType.rr.code ≠ RtcpType.sr.code := by decide

variable (ssrc : UInt32)

theorem good_rr (rr : RtcpRrStat) (hd : h.Declares 32) (hp : h.pt = RtcpType.rr.code) (hc : h.count ≠ 0) :
    RtcpPart.Good ⟨h.bytes ++ (u32Bytes ssrc ++ rr.bytes), [.rr (rtcpRrNtoh rr)]⟩ := by
  apply RtcpPart.good_of hd
  intro buffer p hb
  obtain ⟨hl, hrs⟩ := header_at hb
  obtain ⟨hs, hr⟩ := bytesAt_append.1 hrs
  rw [u32Bytes_length] at hr
  have hs := hs.store_of_disjoint (q := p) (b := h.host.bytes) (Or.inr (by simp))
  have hr := (hr.store_of_disjoint (q := p) (b := h.host.bytes) (Or.inr (by simp))).store_of_disjoint
    (q := p + 4) (b := u32Bytes (swap32 ssrc)) (Or.inr (by simp))
  have hn : ¬ h.pt = RtcpType.sr.code := hp ▸ rr_ne_sr
  simp only [rtcpPacketReceive, rtcpRrGet, hl, if_neg hn, if_pos hp, if_pos hc]
  rw [loadU32_of_bytesAt hs, RtcpRrStat.load_of_bytesAt hr]
  refine ⟨rfl, fun i hi => ?_⟩
  rw [length_append, u32Bytes_length, RtcpRrStat.bytes_length] at hi
  rw [store_of_ge (by simp; omega), store_of_ge (by simp; omega), store_of_ge (by simp; omega)]

theorem good_rr_uncounted (rest : List UInt8) (hd : h.Declares (8 + rest.length)) (hp : h.pt = RtcpType.rr.code)
    (hc : ¬ h.count ≠ 0) : RtcpPart.Good ⟨h.bytes ++ (u32Bytes ssrc ++ rest), []⟩ := by
  apply RtcpPart.good_of (by rw [length_append, u32Bytes_length]; convert hd using 1; omega)
  intro buffer p hb
  obtain ⟨hl, -⟩ := header_at hb
  have hn : ¬ h.pt = RtcpType.sr.code := hp ▸ rr_ne_sr
  simp only [rtcpPacketReceive, hl, if_neg hn, if_pos hp, if_neg hc]
  refine ⟨trivial, fun i hi => ?_⟩
  rw [length_append, u32Bytes_length] at hi
  rw [store_of_ge (by simp; omega), store_of_ge (by simp; omega)]

theorem good_other (rest : List UInt8) (hd : h.Declares (4 + rest.length)) (hs : ¬ h.pt = RtcpType.sr.code)
    (hr : ¬ h.pt = RtcpType.rr.code) : RtcpPart.Good ⟨h.bytes ++ rest, []⟩ := by
  apply RtcpPart.good_of hd
  intro buffer p hb
  obtain ⟨hl, -⟩ := header_at hb
  simp only [rtcpPacketReceive, hl, if_neg hs, if_neg hr]
  refine ⟨trivial, fun i hi => ?_⟩
  rw [store_of_ge (by simp; omega)]

end Parts

end UniMrcp.Mpf
