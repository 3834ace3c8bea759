import Mathlib.Tactic.IntervalCases
import UniMrcp.Lib.Memory

/-!
# RTCP packets

`mpf_rtcp_packet.h` and the RTCP statistics of `mpf_rtp_stat.h`. A structure of the source is a structure here; its
layout on a little-endian host is `bytes`, and `load` reads it back from memory.
-/

namespace UniMrcp.Mpf

open Lib

/-- The packet types (`rtcp_type_e`). -/
inductive RtcpType where
  | sr
  | rr
  | sdes
  | bye
  | app
  deriving DecidableEq

def RtcpType.code : RtcpType → UInt8
  | .sr => 200
  | .rr => 201
  | .sdes => 202
  | .bye => 203
  | .app => 204

theorem RtcpType.code_inj {a b : RtcpType} (h : a.code = b.code) : a = b := by
  cases a <;> cases b <;> first | rfl | exact absurd h (by decide)

def rtpVersion : BitVec 2 := 2

/-- The header (`rtcp_header_t`). The length is a 16-bit field in the byte order the code has put it in. -/
structure RtcpHeader where
  version : BitVec 2
  padding : BitVec 1
  count : BitVec 5
  pt : UInt8
  length : UInt16
  deriving DecidableEq

/-- The statistics of a sender report (`rtcp_sr_stat_t`). -/
structure RtcpSrStat where
  ssrc : UInt32
  ntpSec : UInt32
  ntpFrac : UInt32
  rtpTs : UInt32
  sentPackets : UInt32
  sentOctets : UInt32
  deriving DecidableEq

/-- A report block (`rtcp_rr_stat_t`). The number of lost packets is a signed field of 24 bits. -/
structure RtcpRrStat where
  ssrc : UInt32
  fraction : UInt8
  lost : BitVec 24
  lastSeq : UInt32
  jitter : UInt32
  lsr : UInt32
  dlsr : UInt32
  deriving DecidableEq

/-- Statistics all zero (`mpf_rtcp_sr_stat_reset`). -/
def RtcpSrStat.reset : RtcpSrStat := ⟨0, 0, 0, 0, 0, 0⟩

/-- Statistics all zero (`mpf_rtcp_rr_stat_reset`). -/
def RtcpRrStat.reset : RtcpRrStat := ⟨0, 0, 0, 0, 0, 0, 0⟩

/-! ## Layout -/

def RtcpHeader.bytes (h : RtcpHeader) : List UInt8 :=
  UInt8.ofBitVec (h.version ++ h.padding ++ h.count) :: h.pt :: u16Bytes h.length

def RtcpHeader.load (m : ℕ → UInt8) (p : ℕ) : RtcpHeader :=
  { version := (m p).toBitVec.extractLsb' 6 2
    padding := (m p).toBitVec.extractLsb' 5 1
    count := (m p).toBitVec.extractLsb' 0 5
    pt := m (p + 1)
    length := loadU16 m (p + 2) }

def RtcpSrStat.bytes (s : RtcpSrStat) : List UInt8 :=
  u32Bytes s.ssrc ++ (u32Bytes s.ntpSec ++ (u32Bytes s.ntpFrac ++ (u32Bytes s.rtpTs ++
    (u32Bytes s.sentPackets ++ u32Bytes s.sentOctets))))

def RtcpSrStat.load (m : ℕ → UInt8) (p : ℕ) : RtcpSrStat :=
  { ssrc := loadU32 m p
    ntpSec := loadU32 m (p + 4)
    ntpFrac := loadU32 m (p + 8)
    rtpTs := loadU32 m (p + 12)
    sentPackets := loadU32 m (p + 16)
    sentOctets := loadU32 m (p + 20) }

def lostBytes (lost : BitVec 24) : List UInt8 :=
  [UInt8.ofBitVec (lost.extractLsb' 0 8), UInt8.ofBitVec (lost.extractLsb' 8 8), UInt8.ofBitVec (lost.extractLsb' 16 8)]

@[simp] theorem lostBytes_length (lost : BitVec 24) : (lostBytes lost).length = 3 := rfl

def loadLost (m : ℕ → UInt8) (p : ℕ) : BitVec 24 :=
  (m (p + 2)).toBitVec ++ (m (p + 1)).toBitVec ++ (m p).toBitVec

def RtcpRrStat.bytes (s : RtcpRrStat) : List UInt8 :=
  u32Bytes s.ssrc ++ (s.fraction :: (lostBytes s.lost ++ (u32Bytes s.lastSeq ++ (u32Bytes s.jitter ++
    (u32Bytes s.lsr ++ u32Bytes s.dlsr)))))

def RtcpRrStat.load (m : ℕ → UInt8) (p : ℕ) : RtcpRrStat :=
  { ssrc := loadU32 m p
    fraction := m (p + 4)
    lost := loadLost m (p + 5)
    lastSeq := loadU32 m (p + 8)
    jitter := loadU32 m (p + 12)
    lsr := loadU32 m (p + 16)
    dlsr := loadU32 m (p + 20) }

@[simp] theorem RtcpHeader.bytes_length (h : RtcpHeader) : h.bytes.length = 4 := rfl

@[simp] theorem RtcpSrStat.bytes_length (s : RtcpSrStat) : s.bytes.length = 24 := rfl

@[simp] theorem RtcpRrStat.bytes_length (s : RtcpRrStat) : s.bytes.length = 24 := rfl

section Load

variable {m : ℕ → UInt8} {p : ℕ}

theorem extract_fields (version : BitVec 2) (padding : BitVec 1) (count : BitVec 5) :
    (version ++ padding ++ count).extractLsb' 6 2 = version ∧
      (version ++ padding ++ count).extractLsb' 5 1 = padding ∧
      (version ++ padding ++ count).extractLsb' 0 5 = count := by
  refine ⟨?_, ?_, ?_⟩ <;>
  · apply BitVec.eq_of_getLsbD_eq
    intro i hi
    simp only [BitVec.getLsbD_extractLsb', BitVec.getLsbD_append]
    grind

theorem RtcpHeader.load_of_bytesAt {h : RtcpHeader} (hb : BytesAt m p h.bytes) : RtcpHeader.load m p = h := by
  rw [RtcpHeader.bytes, bytesAt_cons, bytesAt_cons] at hb
  obtain ⟨h0, h1, h2⟩ := hb
  obtain ⟨hv, hp, hc⟩ := extract_fields h.version h.padding h.count
  rw [RtcpHeader.load, h0, h1, loadU16_of_bytesAt h2]
  exact congr (congr (congrArg (fun a b c => RtcpHeader.mk a b c h.pt h.length) hv) hp) hc

theorem RtcpSrStat.load_of_bytesAt {s : RtcpSrStat} (hb : BytesAt m p s.bytes) : RtcpSrStat.load m p = s := by
  simp only [RtcpSrStat.bytes, bytesAt_append, u32Bytes_length, Nat.add_assoc, Nat.reduceAdd] at hb
  obtain ⟨h0, h1, h2, h3, h4, h5⟩ := hb
  simp only [RtcpSrStat.load, loadU32_of_bytesAt h0, loadU32_of_bytesAt h1, loadU32_of_bytesAt h2,
    loadU32_of_bytesAt h3, loadU32_of_bytesAt h4, loadU32_of_bytesAt h5]

theorem loadLost_of_bytesAt {lost : BitVec 24} (hb : BytesAt m p (lostBytes lost)) : loadLost m p = lost := by
  simp only [lostBytes, bytesAt_cons, Nat.add_assoc, Nat.reduceAdd] at hb
  obtain ⟨h0, h1, h2, -⟩ := hb
  rw [loadLost, h0, h1, h2]
  apply BitVec.eq_of_getLsbD_eq
  intro i hi
  simp only [BitVec.getLsbD_append, BitVec.getLsbD_extractLsb']
  grind

theorem RtcpRrStat.load_of_bytesAt {s : RtcpRrStat} (hb : BytesAt m p s.bytes) : RtcpRrStat.load m p = s := by
  simp only [RtcpRrStat.bytes, bytesAt_append, bytesAt_cons, u32Bytes_length, lostBytes_length, Nat.add_assoc,
    Nat.reduceAdd] at hb
  obtain ⟨h0, h1, h2, h3, h4, h5, h6⟩ := hb
  simp only [RtcpRrStat.load, h1, loadU32_of_bytesAt h0, loadLost_of_bytesAt h2, loadU32_of_bytesAt h3,
    loadU32_of_bytesAt h4, loadU32_of_bytesAt h5, loadU32_of_bytesAt h6]

end Load

def rtcpHeaderInit (pt : RtcpType) : RtcpHeader :=
  { version := rtpVersion, padding := 0, count := 0, pt := pt.code, length := 0 }

/-- `rtcp_header_length_set`: the length in words without the first one, in network order. -/
def rtcpHeaderLengthSet (h : RtcpHeader) (length : ℕ) : RtcpHeader :=
  { h with length := swap16 (UInt16.ofNat length / 4 - 1) }

def rtcpSrHton (s : RtcpSrStat) : RtcpSrStat :=
  { ssrc := swap32 s.ssrc
    ntpSec := swap32 s.ntpSec
    ntpFrac := swap32 s.ntpFrac
    rtpTs := swap32 s.rtpTs
    sentPackets := swap32 s.sentPackets
    sentOctets := swap32 s.sentOctets }

def rtcpSrNtoh (s : RtcpSrStat) : RtcpSrStat :=
  { ssrc := swap32 s.ssrc
    ntpSec := swap32 s.ntpSec
    ntpFrac := swap32 s.ntpFrac
    rtpTs := swap32 s.rtpTs
    sentPackets := swap32 s.sentPackets
    sentOctets := swap32 s.sentOctets }

/-- The exchange of the outer bytes: the field is promoted to a signed word of 32 bits, and the result is cut to 24
bits. -/
def lostSwap (lost : BitVec 24) : BitVec 24 :=
  let lost : BitVec 32 := lost.signExtend 32
  ((lost.sshiftRight 16 &&& 0x000000ff) ||| (lost &&& 0x0000ff00) ||| (lost <<< 16 &&& 0x00ff0000)).setWidth 24

def rtcpRrHton (s : RtcpRrStat) : RtcpRrStat :=
  { s with
    ssrc := swap32 s.ssrc
    lastSeq := swap32 s.lastSeq
    jitter := swap32 s.jitter
    lost := lostSwap s.lost }

def rtcpRrNtoh (s : RtcpRrStat) : RtcpRrStat :=
  { s with
    ssrc := swap32 s.ssrc
    lastSeq := swap32 s.lastSeq
    jitter := swap32 s.jitter
    lost := lostSwap s.lost }

@[simp] theorem lostSwap_lostSwap (lost : BitVec 24) : lostSwap (lostSwap lost) = lost := by
  apply BitVec.eq_of_getLsbD_eq
  intro i hi
  simp only [lostSwap, BitVec.getLsbD_setWidth, BitVec.getLsbD_or, BitVec.getLsbD_and, BitVec.getLsbD_sshiftRight,
    BitVec.getLsbD_shiftLeft, BitVec.getLsbD_signExtend]
  interval_cases i <;> simp

@[simp] theorem rtcpSrNtoh_hton (s : RtcpSrStat) : rtcpSrNtoh (rtcpSrHton s) = s := by
  simp [rtcpSrNtoh, rtcpSrHton]

@[simp] theorem rtcpRrNtoh_hton (s : RtcpRrStat) : rtcpRrNtoh (rtcpRrHton s) = s := by
  simp [rtcpRrNtoh, rtcpRrHton]

end UniMrcp.Mpf
