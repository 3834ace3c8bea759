import UniMrcp.Mpf.Rtcp.Compound
import UniMrcp.Mpf.Rtp.Receiver

/-!
# What is sent is understood
-/

namespace UniMrcp.Mpf

open Lib List

/-- What the generation reads of `mpf_rtp_stream_t`. -/
structure RtcpSource where
  direction : StreamDirection
  srStat : RtcpSrStat
  timestamp : UInt32
  receiver : RtpReceiver
  localIp : Bytes

def maxRtcpPacketSize : ℕ := 1500

/-- The bytes of a buffer on the stack. Its end, at `maxRtcpPacketSize`, is not modelled. -/
abbrev Buffer := ℕ → Option UInt8

def Buffer.put (m : Buffer) (p : ℕ) (bytes : List UInt8) : Buffer := store m p (bytes.map some)

/-! ## Packets -/

/-- The sender statistics of `rtcp_sr_generate` in host order; `ntp` is the time that `apt_ntp_time_get` finds. -/
def rtcpSrGenerate (stream : RtcpSource) (ntp : UInt32 × UInt32) : RtcpSrStat :=
  { stream.srStat with ntpSec := ntp.1, ntpFrac := ntp.2, rtpTs := stream.timestamp }

/-- `rtcp_report_generate` at offset `p`: either a sender or a receiver report. -/
def rtcpReportGenerate (stream : RtcpSource) (ntp : UInt32 × UInt32) (m : Buffer) (p : ℕ) : Buffer × ℕ :=
  let header := rtcpHeaderInit .rr
  let header := if stream.direction.sends then { header with pt := RtcpType.sr.code } else header
  let header := if stream.direction.receives then { header with count := 1 } else header
  if header.pt = RtcpType.sr.code then
    let m := m.put (p + 4) (rtcpSrHton (rtcpSrGenerate stream ntp)).bytes
    if header.count ≠ 0 then
      let m := m.put (p + 28) (rtcpRrHton (rtcpRrGenerate stream.receiver)).bytes
      (m.put p (rtcpHeaderLengthSet header 52).bytes, 52)
    else (m.put p (rtcpHeaderLengthSet header 28).bytes, 28)
  else
    let m := m.put (p + 4) (u32Bytes (swap32 stream.srStat.ssrc))
    let m := m.put (p + 8) (rtcpRrHton (rtcpRrGenerate stream.receiver)).bytes
    (m.put p (rtcpHeaderLengthSet header 32).bytes, 32)

def rtcpPadding (offset : ℕ) : ℕ := 4 - offset % 4

/-- `rtcp_sdes_generate` at offset `p`: the address as the CNAME, the end marker and padding. -/
def rtcpSdesGenerate (stream : RtcpSource) (m : Buffer) (p : ℕ) : Buffer × ℕ :=
  let header := rtcpHeaderInit .sdes
  let header := { header with count := header.count + 1 }
  let m := m.put (p + 4) (u32Bytes (swap32 stream.srStat.ssrc))
  -- RTCP_SDES_CNAME
  let m := m.put (p + 8) [1]
  let length := UInt8.ofNat stream.localIp.length
  let m := m.put (p + 9) [length]
  let m := m.put (p + 10) (stream.localIp.take length.toNat)
  let offset := 10 + length.toNat
  let m := m.put (p + offset) (List.replicate (rtcpPadding offset) 0)
  let offset := offset + rtcpPadding offset
  (m.put p (rtcpHeaderLengthSet header offset).bytes, offset)

/-- `rtcp_bye_generate` at offset `p`. The offset goes on by the length byte of the reason. -/
def rtcpByeGenerate (stream : RtcpSource) (reason : Bytes) (m : Buffer) (p : ℕ) : Buffer × ℕ :=
  let header := rtcpHeaderInit .bye
  let m := m.put (p + 4) (u32Bytes (swap32 stream.srStat.ssrc))
  let header := { header with count := header.count + 1 }
  let offset := 4 + header.count.toNat * 4
  if reason.length ≠ 0 then
    let m := m.put (p + 9) reason
    let length := UInt8.ofNat reason.length
    let m := m.put (p + 8) [length]
    let offset := offset + length.toNat
    let m := m.put (p + 9 + reason.length) (List.replicate (rtcpPadding reason.length) 0)
    let offset := offset + rtcpPadding reason.length
    (m.put p (rtcpHeaderLengthSet header offset).bytes, offset)
  else (m.put p (rtcpHeaderLengthSet header offset).bytes, offset)

/-- The update of the periodic history before a report, in a stream with a direction. -/
def RtcpSource.update (stream : RtcpSource) : RtcpSource :=
  if stream.direction ≠ .none then { stream with receiver := rtpPeriodicHistoryUpdate stream.receiver } else stream

/-- `mpf_rtcp_report_send` in an initialized session: the buffer and the length that are sent, SR or RR and SDES. -/
def rtcpReportSend (stream : RtcpSource) (ntp : UInt32 × UInt32) : Buffer × ℕ :=
  let stream := stream.update
  let report := rtcpReportGenerate stream ntp (fun _ => none) 0
  let sdes := rtcpSdesGenerate stream report.1 report.2
  (sdes.1, report.2 + sdes.2)

/-- `mpf_rtcp_bye_send` in an initialized session: SR or RR, SDES and BYE. -/
def rtcpByeSend (stream : RtcpSource) (ntp : UInt32 × UInt32) (reason : Bytes) : Buffer × ℕ :=
  let stream := stream.update
  let report := rtcpReportGenerate stream ntp (fun _ => none) 0
  let sdes := rtcpSdesGenerate stream report.1 report.2
  let bye := rtcpByeGenerate stream reason sdes.1 (report.2 + sdes.2)
  (bye.1, report.2 + sdes.2 + bye.2)

open Buffer RtcpPart RtcpSource

/-! ## The buffer -/

section Put

variable {m : Buffer} {p q : ℕ} {a b : List UInt8}

/-- The bytes are written in the buffer from offset `p` on. -/
def Buffer.Has (m : Buffer) (p : ℕ) (bytes : List UInt8) : Prop := BytesAt m p (bytes.map some)

theorem Buffer.has_put (m : Buffer) (p : ℕ) (a : List UInt8) : (m.put p a).Has p a := bytesAt_store m p _

theorem Buffer.put_append (hq : q = p + a.length) : (m.put p a).put q b = m.put p (a ++ b) := by
  subst hq
  have h := store_append m p (a.map some) (b.map some)
  rwa [length_map, ← map_append] at h

theorem Buffer.put_before (hq : q = p + a.length) : (m.put q b).put p a = m.put p (a ++ b) := by
  subst hq
  have h := store_before m p (a.map some) (b.map some)
  rwa [length_map, ← map_append] at h

theorem Buffer.has_append : m.Has p (a ++ b) ↔ m.Has p a ∧ m.Has (p + a.length) b := by
  rw [Buffer.Has, map_append, bytesAt_append, length_map]
  rfl

theorem Buffer.put_of_lt {i : ℕ} (h : i < p) : m.put p a i = m i := store_of_lt h

theorem Buffer.Has.congr {m' : Buffer} (h : m.Has p a) (he : ∀ i, i < p + a.length → m' i = m i) : m'.Has p a := by
  rw [Buffer.Has, bytesAt_iff] at h ⊢
  intro i hi
  rw [length_map] at hi
  rw [he (p + i) (by omega)]
  exact h i _

end Put

/-- A generator at offset `p` has written the part, returned its length, and left alone what is before it. -/
structure Emits (m : Buffer) (p : ℕ) (generated : Buffer × ℕ) (part : RtcpPart) : Prop where
  good : part.Good
  has : generated.1.Has p part.bytes
  length : generated.2 = part.bytes.length
  frame : ∀ i, i < p → generated.1 i = m i

structure Compound (packet : Buffer × ℕ) (parts : List RtcpPart) : Prop where
  good : ∀ part ∈ parts, part.Good
  has : packet.1.Has 0 (parts.flatMap RtcpPart.bytes)
  length : packet.2 = (parts.flatMap RtcpPart.bytes).length

theorem compound_nil (m : Buffer) : Compound (m, 0) [] := ⟨by simp, trivial, rfl⟩

theorem Compound.append {packet generated : Buffer × ℕ} {parts : List RtcpPart} {part : RtcpPart}
    (h : Compound packet parts) (he : Emits packet.1 packet.2 generated part) :
    Compound (generated.1, packet.2 + generated.2) (parts ++ [part]) := by
  have hl := h.length
  constructor
  · intro q hq
    rcases mem_append.1 hq with hq | hq
    · exact h.good q hq
    · rw [mem_singleton.1 hq]
      exact he.good
  · rw [flatMap_append, flatMap_singleton, has_append, Nat.zero_add, ← hl]
    refine ⟨h.has.congr fun i hi => he.frame i ?_, he.has⟩
    omega
  · rw [flatMap_append, flatMap_singleton, length_append, ← hl, he.length]

/-! ## The generators -/

theorem declares_lengthSet {h : RtcpHeader} (size : ℕ) (hv : h.version = rtpVersion) (h4 : size % 4 = 0)
    (hp : 0 < size) (hlt : size < 2 ^ 16) : (rtcpHeaderLengthSet h size).Declares size := by
  refine ⟨hv, ?_⟩
  have h4' : (4 : UInt16).toNat = 4 := rfl
  have h1 : (1 : UInt16).toNat = 1 := rfl
  rw [rtcpHeaderLengthSet, swap16_swap16, UInt16.toNat_sub, UInt16.toNat_div, UInt16.toNat_ofNat', h4', h1]
  omega

/-- The reports that `rtcp_report_generate` puts in: SR statistics when sending, with a block when also receiving, else
a block. -/
def RtcpSource.putIn (stream : RtcpSource) (ntp : UInt32 × UInt32) : List RtcpReport :=
  match stream.direction with
  | .duplex => [.sr (rtcpSrGenerate stream ntp), .rr (rtcpRrGenerate stream.receiver)]
  | .send => [.sr (rtcpSrGenerate stream ntp)]
  | .receive => [.rr (rtcpRrGenerate stream.receiver)]
  | .none => [.rr (rtcpRrGenerate stream.receiver)]

def reportHeader (direction : StreamDirection) : RtcpHeader :=
  { rtcpHeaderInit .rr with
    pt := if direction.sends then RtcpType.sr.code else RtcpType.rr.code
    count := if direction.receives then 1 else 0 }

section Generators

variable (stream : RtcpSource) (ntp : UInt32 × UInt32) (m : Buffer) (p : ℕ)

/-- The report as a part. Without a direction the block is there, but not counted. -/
def RtcpSource.reportPart : RtcpPart :=
  match stream.direction with
  | .duplex =>
    ⟨(rtcpHeaderLengthSet (reportHeader .duplex) 52).bytes ++ ((rtcpSrHton (rtcpSrGenerate stream ntp)).bytes ++
      (rtcpRrHton (rtcpRrGenerate stream.receiver)).bytes),
      [.sr (rtcpSrGenerate stream ntp), .rr (rtcpRrGenerate stream.receiver)]⟩
  | .send =>
    ⟨(rtcpHeaderLengthSet (reportHeader .send) 28).bytes ++ (rtcpSrHton (rtcpSrGenerate stream ntp)).bytes,
      [.sr (rtcpSrGenerate stream ntp)]⟩
  | .receive =>
    ⟨(rtcpHeaderLengthSet (reportHeader .receive) 32).bytes ++ (u32Bytes (swap32 stream.srStat.ssrc) ++
      (rtcpRrHton (rtcpRrGenerate stream.receiver)).bytes), [.rr (rtcpRrGenerate stream.receiver)]⟩
  | .none =>
    ⟨(rtcpHeaderLengthSet (reportHeader .none) 32).bytes ++ (u32Bytes (swap32 stream.srStat.ssrc) ++
      (rtcpRrHton (rtcpRrGenerate stream.receiver)).bytes), []⟩

theorem good_reportPart : (stream.reportPart ntp).Good := by
  rw [reportPart]
  split
  · have h := good_srRr (rtcpSrHton (rtcpSrGenerate stream ntp)) (rtcpRrHton (rtcpRrGenerate stream.receiver))
      (declares_lengthSet (h := reportHeader .duplex) 52 rfl rfl (by decide) (by decide)) rfl (by decide)
    rwa [rtcpSrNtoh_hton, rtcpRrNtoh_hton] at h
  · have h := good_sr (rtcpSrHton (rtcpSrGenerate stream ntp))
      (declares_lengthSet (h := reportHeader .send) 28 rfl rfl (by decide) (by decide)) rfl (by decide)
    rwa [rtcpSrNtoh_hton] at h
  · have h := good_rr (swap32 stream.srStat.ssrc) (rtcpRrHton (rtcpRrGenerate stream.receiver))
      (declares_lengthSet (h := reportHeader .receive) 32 rfl rfl (by decide) (by decide)) rfl (by decide)
    rwa [rtcpRrNtoh_hton] at h
  · exact good_rr_uncounted (swap32 stream.srStat.ssrc) (rtcpRrHton (rtcpRrGenerate stream.receiver)).bytes
      (declares_lengthSet (h := reportHeader .none) 32 rfl rfl (by decide) (by decide)) rfl (by decide)

theorem emits_of_put {m : Buffer} {p : ℕ} {generated : Buffer × ℕ} {part : RtcpPart} (more : List UInt8)
    (hg : part.Good) (hl : generated.2 = part.bytes.length)
    (hp : generated.1 = m.put p (part.bytes ++ more)) : Emits m p generated part := by
  have hh := has_put m p (part.bytes ++ more)
  rw [← hp] at hh
  refine ⟨hg, (has_append.1 hh).1, hl, fun i hi => ?_⟩
  rw [hp]
  exact put_of_lt hi

theorem emits_report : Emits m p (rtcpReportGenerate stream ntp m p) (stream.reportPart ntp) := by
  have hg := good_reportPart stream ntp
  rw [reportPart] at hg ⊢
  rw [rtcpReportGenerate]
  split at hg
  · rename_i hd
    rw [hd]
    refine emits_of_put [] hg rfl ?_
    rw [append_nil, ← put_before (q := p + 4) rfl, ← put_append rfl]
    rfl
  · rename_i hd
    rw [hd]
    refine emits_of_put [] hg rfl ?_
    rw [append_nil, ← put_before (q := p + 4) rfl]
    rfl
  · rename_i hd
    rw [hd]
    refine emits_of_put [] hg rfl ?_
    rw [append_nil, ← put_before (q := p + 4) rfl, ← put_append rfl]
    rfl
  · rename_i hd
    rw [hd]
    refine emits_of_put [] hg rfl ?_
    rw [append_nil, ← put_before (q := p + 4) rfl, ← put_append rfl]
    rfl

def sourceHeader (pt : RtcpType) : RtcpHeader := { rtcpHeaderInit pt with count := 1 }

def RtcpPart.other (pt : RtcpType) (rest : List UInt8) : RtcpPart :=
  ⟨(rtcpHeaderLengthSet (sourceHeader pt) (4 + rest.length)).bytes ++ rest, []⟩

theorem good_sourcePart {pt : RtcpType} (hs : pt ≠ .sr) (hr : pt ≠ .rr) {rest : List UInt8}
    (h4 : rest.length % 4 = 0) (hlt : 4 + rest.length < 2 ^ 16) : (other pt rest).Good := by
  apply good_other
  · exact declares_lengthSet _ rfl (by omega) (by omega) hlt
  · exact fun h => hs (RtcpType.code_inj h)
  · exact fun h => hr (RtcpType.code_inj h)

/-- What `rtcp_sdes_generate` puts behind the header. -/
def RtcpSource.sdesBytes : List UInt8 :=
  let length := UInt8.ofNat stream.localIp.length
  u32Bytes (swap32 stream.srStat.ssrc) ++ ([1] ++ ([length] ++ (stream.localIp.take length.toNat ++
    List.replicate (rtcpPadding (10 + length.toNat)) 0)))

theorem take_length_ofNat (bytes : List UInt8) : (bytes.take (UInt8.ofNat bytes.length).toNat).length =
    (UInt8.ofNat bytes.length).toNat := by
  rw [length_take, UInt8.toNat_ofNat']
  exact min_eq_left (Nat.mod_le _ _)

theorem sdesBytes_length : stream.sdesBytes.length = 6 + (UInt8.ofNat stream.localIp.length).toNat +
    rtcpPadding (10 + (UInt8.ofNat stream.localIp.length).toNat) := by
  simp only [sdesBytes, length_append, take_length_ofNat, u32Bytes_length, length_replicate,
    length_singleton]
  omega

theorem emits_sdes : Emits m p (rtcpSdesGenerate stream m p) (.other .sdes stream.sdesBytes) := by
  have hl := sdesBytes_length stream
  have hb := (UInt8.ofNat stream.localIp.length).toNat_lt
  have hs : 4 + stream.sdesBytes.length = 10 + (UInt8.ofNat stream.localIp.length).toNat +
      rtcpPadding (10 + (UInt8.ofNat stream.localIp.length).toNat) := by omega
  have hg : (other .sdes stream.sdesBytes).Good := by
    apply good_sourcePart (by decide) (by decide)
    · simp only [rtcpPadding] at hl
      omega
    · simp only [rtcpPadding] at hl
      omega
  refine emits_of_put [] hg ?_ ?_
  · simp only [other, length_append, RtcpHeader.bytes_length]
    exact hs.symm
  · have hi := take_length_ofNat stream.localIp
    simp only [rtcpSdesGenerate]
    rw [put_append (q := p + (10 + (UInt8.ofNat stream.localIp.length).toNat)) (by rw [hi]; omega),
      put_append (q := p + 10) rfl, put_append (q := p + 9) rfl, put_append (q := p + 8) rfl,
      put_before (q := p + 4) rfl, append_nil, other, hs]
    rfl

/-- What `rtcp_bye_generate` puts behind the header: the packet ends one byte before the end of the padding where the
length byte is not counted. -/
def RtcpSource.byeBytes (reason : Bytes) : List UInt8 :=
  u32Bytes (swap32 stream.srStat.ssrc) ++
    if reason.length ≠ 0 then
      (UInt8.ofNat reason.length :: (reason ++ List.replicate (rtcpPadding reason.length) 0)).take
        ((UInt8.ofNat reason.length).toNat + rtcpPadding reason.length)
    else []

def byeMore (reason : Bytes) : List UInt8 :=
  if reason.length ≠ 0 then
    (UInt8.ofNat reason.length :: (reason ++ List.replicate (rtcpPadding reason.length) 0)).drop
      ((UInt8.ofNat reason.length).toNat + rtcpPadding reason.length)
  else []

variable (reason : Bytes)

theorem byeBytes_length : (stream.byeBytes reason).length =
    if reason.length ≠ 0 then 4 + ((UInt8.ofNat reason.length).toNat + rtcpPadding reason.length) else 4 := by
  have hle : (UInt8.ofNat reason.length).toNat ≤ reason.length := by
    rw [UInt8.toNat_ofNat']
    exact Nat.mod_le _ _
  rw [byeBytes]
  split
  · simp only [length_append, length_take, length_cons, length_replicate, u32Bytes_length]
    omega
  · rfl

theorem byeBytes_append_more : stream.byeBytes reason ++ byeMore reason =
    u32Bytes (swap32 stream.srStat.ssrc) ++
      if reason.length ≠ 0 then
        [UInt8.ofNat reason.length] ++ (reason ++ List.replicate (rtcpPadding reason.length) 0)
      else [] := by
  rw [byeBytes, byeMore, append_assoc]
  split
  · rw [take_append_drop, singleton_append]
  · rfl

theorem emits_bye : Emits m p (rtcpByeGenerate stream reason m p) (.other .bye (stream.byeBytes reason)) := by
  have hl := byeBytes_length stream reason
  have hm := byeBytes_append_more stream reason
  have hb := (UInt8.ofNat reason.length).toNat_lt
  have hd : (UInt8.ofNat reason.length).toNat = reason.length % 2 ^ 8 := UInt8.toNat_ofNat'
  have hg : (other .bye (stream.byeBytes reason)).Good := by
    apply good_sourcePart (by decide) (by decide)
    · rw [hl]
      simp only [rtcpPadding]
      split <;> omega
    · rw [hl]
      simp only [rtcpPadding]
      split <;> omega
  have hn : (other .bye (stream.byeBytes reason)).bytes.length = 4 + (stream.byeBytes reason).length := by
    simp only [other, length_append, RtcpHeader.bytes_length]
  by_cases h0 : reason.length ≠ 0
  · simp only [if_pos h0] at hl hm
    have hs : 4 + (stream.byeBytes reason).length =
        8 + (UInt8.ofNat reason.length).toNat + rtcpPadding reason.length := by omega
    apply emits_of_put (byeMore reason) hg
    · rw [hn, hs]
      simp only [rtcpByeGenerate, if_pos h0]
      rfl
    · rw [other, append_assoc, hm, hs]
      simp only [rtcpByeGenerate, if_pos h0]
      rw [put_before (q := p + 9) rfl, put_append (a := [UInt8.ofNat reason.length] ++ reason) (by
        rw [length_append, length_singleton]; omega), put_append (q := p + 8) rfl,
        put_before (q := p + 4) rfl, append_assoc]
      rfl
  · simp only [if_neg h0] at hl hm
    apply emits_of_put (byeMore reason) hg
    · rw [hn, hl]
      simp only [rtcpByeGenerate, if_neg h0]
      rfl
    · rw [other, append_assoc, hm, hl]
      simp only [rtcpByeGenerate, if_neg h0]
      rw [put_before (q := p + 4) rfl, append_nil]
      rfl

end Generators

/-! ## Compound packets -/

/-- All of the `length` bytes were written, and the reception succeeds with exactly these reports, over aligned packets
whose declared lengths add up to the length. -/
structure RtcpUnderstood (packet : Buffer × ℕ) (reports : List RtcpReport) : Prop where
  written : ∀ i, i < packet.2 → (packet.1 i).isSome
  result : ∀ buffer : ℕ → UInt8, (∀ i b, packet.1 i = some b → buffer i = b) →
    (rtcpCompoundPacketReceive buffer packet.2).result = true
  reports : ∀ buffer : ℕ → UInt8, (∀ i b, packet.1 i = some b → buffer i = b) →
    (rtcpCompoundPacketReceive buffer packet.2).reports = reports
  aligned : ∀ buffer : ℕ → UInt8, (∀ i b, packet.1 i = some b → buffer i = b) →
    ∀ v ∈ (rtcpCompoundPacketReceive buffer packet.2).visits, v.offset % 4 = 0
  lengths : ∀ buffer : ℕ → UInt8, (∀ i b, packet.1 i = some b → buffer i = b) →
    ((rtcpCompoundPacketReceive buffer packet.2).visits.map fun v => 4 * (v.header.length.toNat + 1)).sum = packet.2

theorem Buffer.Has.isSome {m : Buffer} {p : ℕ} {a : List UInt8} (h : m.Has p a) {i : ℕ} (hi : i < a.length) :
    (m (p + i)).isSome := by
  rw [Buffer.Has, bytesAt_iff] at h
  rw [h i (by rwa [length_map]), getElem_map]
  rfl

theorem Buffer.Has.bytesAt {m : Buffer} {p : ℕ} {a : List UInt8} (h : m.Has p a) {buffer : ℕ → UInt8}
    (hb : ∀ i b, m i = some b → buffer i = b) : BytesAt buffer p a := by
  rw [Buffer.Has, bytesAt_iff] at h
  rw [bytesAt_iff]
  intro i hi
  apply hb
  rw [h i (by rwa [length_map]), getElem_map]

variable {packet : Buffer × ℕ}

theorem Compound.understood {parts : List RtcpPart} (h : Compound packet parts) :
    RtcpUnderstood packet (parts.flatMap RtcpPart.reports) := by
  have hr (buffer : ℕ → UInt8) (hb : ∀ i b, packet.1 i = some b → buffer i = b) :=
    receive_parts h.good (Nat.zero_mod 4) (h.has.bytesAt hb) (h.length.trans (Nat.zero_add _).symm)
  constructor
  · intro i hi
    have hm := h.has.isSome (h.length ▸ hi)
    rwa [Nat.zero_add] at hm
  · exact fun buffer hb => (hr buffer hb).1
  · exact fun buffer hb => (hr buffer hb).2.1
  · exact fun buffer hb => (hr buffer hb).2.2.1
  · intro buffer hb
    have hs := (hr buffer hb).2.2.2
    rwa [Nat.zero_add] at hs

theorem RtcpUnderstood.reports_unique {reports reports' : List RtcpReport} (h : RtcpUnderstood packet reports)
    (h' : RtcpUnderstood packet reports') : reports = reports' := by
  have hb : ∀ i b, packet.1 i = some b → (packet.1 i).getD 0 = b := fun i b hi => by rw [hi, Option.getD_some]
  rw [← h.reports (fun i => (packet.1 i).getD 0) hb, ← h'.reports (fun i => (packet.1 i).getD 0) hb]

section Sent

variable (stream : RtcpSource) (ntp : UInt32 × UInt32)

theorem compound_reportSend : Compound (rtcpReportSend stream ntp)
    ([stream.update.reportPart ntp] ++ [.other .sdes stream.update.sdesBytes]) := by
  have hr := (compound_nil fun _ => none).append (emits_report stream.update ntp (fun _ => none) 0)
  rw [Nat.zero_add] at hr
  exact hr.append (emits_sdes stream.update _ _)

theorem compound_byeSend (reason : Bytes) : Compound (rtcpByeSend stream ntp reason)
    ([stream.update.reportPart ntp] ++ [.other .sdes stream.update.sdesBytes] ++
      [.other .bye (stream.update.byeBytes reason)]) :=
  (compound_reportSend stream ntp).append (emits_bye stream.update _ _ reason)

theorem rtcpSend_understood :
    RtcpUnderstood (rtcpReportSend stream ntp) (stream.update.reportPart ntp).reports ∧
      ∀ reason, RtcpUnderstood (rtcpByeSend stream ntp reason) (stream.update.reportPart ntp).reports := by
  constructor
  · have h := (compound_reportSend stream ntp).understood
    rwa [flatMap_append, flatMap_singleton, flatMap_singleton, other, append_nil] at h
  · intro reason
    have h := (compound_byeSend stream ntp reason).understood
    rwa [flatMap_append, flatMap_append, flatMap_singleton, flatMap_singleton,
      flatMap_singleton, other, other, append_nil, append_nil] at h

theorem reportPart_reports_iff :
    (stream.reportPart ntp).reports = stream.putIn ntp ↔ stream.direction ≠ .none := by
  rw [reportPart, putIn]
  cases stream.direction <;> simp

theorem update_direction : stream.update.direction = stream.direction := by
  rw [update]
  split <;> rfl

theorem understood_putIn_iff {packet : Buffer × ℕ}
    (h : RtcpUnderstood packet (stream.update.reportPart ntp).reports) :
    RtcpUnderstood packet (stream.update.putIn ntp) ↔ stream.direction ≠ .none := by
  rw [← update_direction stream, ← reportPart_reports_iff stream.update ntp]
  constructor
  · exact fun h' => h.reports_unique h'
  · intro he
    rwa [he] at h

/-- **The compound packets of a stream are understood with the statistics and the block that were put in exactly when
the stream has a direction.** -/
theorem rtcpSend_understood_iff :
    (RtcpUnderstood (rtcpReportSend stream ntp) (stream.update.putIn ntp) ↔ stream.direction ≠ .none) ∧
      ∀ reason, RtcpUnderstood (rtcpByeSend stream ntp reason) (stream.update.putIn ntp) ↔ stream.direction ≠ .none :=
  ⟨understood_putIn_iff stream ntp (rtcpSend_understood stream ntp).1,
    fun reason => understood_putIn_iff stream ntp ((rtcpSend_understood stream ntp).2 reason)⟩

/-- A stream without a direction: the block of its receiver report is sent, but not counted. -/
def idleSource : RtcpSource :=
  { direction := .none
    srStat := ⟨1, 0, 0, 0, 0, 0⟩
    timestamp := 0
    receiver := rtpReceiverInit (jitterBufferCreate none ⟨8000, 1⟩ { attribs := ⟨8⟩ })
    localIp := [] }

/-- Its report fits in a packet, but is not understood with the block that was put in. -/
theorem not_rtcpSend_understood_idle : (rtcpReportSend idleSource (0, 0)).2 ≤ maxRtcpPacketSize ∧
    ¬ RtcpUnderstood (rtcpReportSend idleSource (0, 0)) (idleSource.update.putIn (0, 0)) := by
  refine ⟨by decide, fun h => ?_⟩
  have he := (rtcpSend_understood idleSource (0, 0)).1.reports_unique h
  exact absurd he (cons_ne_nil _ _).symm

end Sent

end UniMrcp.Mpf
