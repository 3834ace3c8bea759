import UniMrcp.Apr
import UniMrcp.Mpf.Rtcp.Packet

/-!
# The payload of an RTP packet

`rtp_rx_header_skip` on the bytes of a received datagram, in a buffer that is longer than what was received.
-/

namespace UniMrcp.Mpf

open Lib List Option

/-- The bit-fields in the first byte of `rtp_header_t`. -/
structure RtpHeader where
  count : BitVec 4
  extension : BitVec 1
  padding : BitVec 1
  version : BitVec 2
  deriving DecidableEq

def RtpHeader.ofByte (b : UInt8) : RtpHeader where
  count := BitVec.ofNat 4 b.toNat
  extension := BitVec.ofNat 1 (b.toNat / 2 ^ 4)
  padding := BitVec.ofNat 1 (b.toNat / 2 ^ 5)
  version := BitVec.ofNat 2 (b.toNat / 2 ^ 6)

/-- `sizeof(rtp_header_t)` -/
def sizeofRtpHeader : ℕ := 12

/-- `sizeof(apr_uint32_t)` -/
def sizeofUInt32 : ℕ := 4

/-- What `rtp_rx_header_skip` gives back, and the offsets of the bytes that it read. -/
structure RtpSkip where
  payload : Option (ℕ × ℕ)
  touched : List ℕ
  deriving DecidableEq

def rtpRxHeaderSkip (buffer : ℕ → UInt8) (size : ℕ) : RtpSkip :=
  let header := RtpHeader.ofByte (buffer 0)
  if header.version ≠ rtpVersion then ⟨none, [0]⟩
  else
    let offset := sizeofRtpHeader + header.count.toNat * sizeofUInt32
    -- the length of the extension header is behind its profile
    let extLength := swap16 (loadU16 buffer (offset + 2))
    let touched := if header.extension = 1 then [0, offset + 2, offset + 3] else [0]
    let offset := if header.extension = 1 then offset + extLength.toNat * sizeofUInt32 else offset
    if size ≤ offset then ⟨none, touched⟩ else ⟨some (offset, size - offset), touched⟩

def rtpHeader (datagram : Bytes) : RtpHeader := RtpHeader.ofByte (datagram.headD 0)

def behindSources (datagram : Bytes) : Bytes := datagram.drop (12 + 4 * (rtpHeader datagram).count.toNat)

/-- The number of words of an extension: the second half of its header, the high byte first. -/
def extensionWords : Bytes → Option ℕ
  | _ :: _ :: hi :: lo :: _ => some (2 ^ 8 * hi.toNat + lo.toNat)
  | _ => none

def behindExtension (bytes : Bytes) : Option Bytes :=
  (extensionWords bytes).map fun words => bytes.drop (4 + 4 * words)

def rtpPayload (datagram : Bytes) : Option Bytes :=
  let rest := if (rtpHeader datagram).extension = 1 then behindExtension (behindSources datagram)
    else some (behindSources datagram)
  rest.filter (· ≠ [])

structure IsRtp (datagram : Bytes) : Prop where
  ne_nil : datagram ≠ []
  version : (rtpHeader datagram).version = rtpVersion
  padding : (rtpHeader datagram).padding = 0

/-- **What has to be done with a datagram** with `rest` behind it: the payload is found, and nothing else is read. -/
structure SkipsHeader (rest : ℕ → UInt8) (datagram : Bytes) : Prop where
  payload : (rtpRxHeaderSkip (store rest 0 datagram) datagram.length).payload.map
    (fun found => (List.range' found.1 found.2).map (store rest 0 datagram)) = rtpPayload datagram
  inside : ∀ o ∈ (rtpRxHeaderSkip (store rest 0 datagram) datagram.length).touched, o < datagram.length

/-- An extension header in the datagram, with an extension behind it that leaves no byte of payload. -/
def ExtensionCut (datagram : Bytes) : Prop :=
  ∃ words, extensionWords (behindSources datagram) = some words ∧ (behindSources datagram).length ≤ 4 * words

section Skip

variable {rest : ℕ → UInt8} {datagram : Bytes}

theorem received {p i : ℕ} {b : UInt8} (h : (datagram.drop p)[i]? = some b) : store rest 0 datagram (p + i) = b := by
  rw [List.getElem?_drop] at h
  simp [store, h]

theorem header_received (h : datagram ≠ []) : RtpHeader.ofByte (store rest 0 datagram 0) = rtpHeader datagram := by
  cases datagram with
  | nil => exact absurd rfl h
  | cons b bytes => rfl

theorem received_from (rest : ℕ → UInt8) (datagram : Bytes) (p : ℕ) :
    (List.range' p (datagram.length - p)).map (store rest 0 datagram) = datagram.drop p := by
  apply ext_getElem
  · simp
  · intro i hi hi'
    rw [getElem_map, getElem_range', Nat.one_mul]
    exact received (List.getElem?_eq_getElem hi')

theorem extLength_received {p words : ℕ} (h : extensionWords (datagram.drop p) = some words) :
    (swap16 (loadU16 (store rest 0 datagram) (p + 2))).toNat = words ∧ p + 4 ≤ datagram.length := by
  match ht : datagram.drop p, h with
  | profile :: profile' :: hi :: lo :: bytes, h =>
    have hl := congrArg List.length ht
    simp only [length_drop, length_cons] at hl
    have hh : store rest 0 datagram (p + 2) = hi := received (by rw [ht]; rfl)
    have hlo : store rest 0 datagram (p + 3) = lo := received (by rw [ht]; rfl)
    refine ⟨?_, by omega⟩
    rw [loadU16, Nat.add_assoc, hh, hlo, swap16_u16Of, ← Option.some.inj h]
    have hlt := lo.toNat_lt
    have hlt' := hi.toNat_lt
    simp only [u16Of, UInt16.toNat_ofNat']
    omega

theorem extensionWords_isSome {bytes : Bytes} (h : 4 ≤ bytes.length) : ∃ words, extensionWords bytes = some words := by
  match bytes, h with
  | _ :: _ :: hi :: lo :: _, _ => exact ⟨_, rfl⟩

/-! ## The two kinds of packets -/

def sourcesEnd (datagram : Bytes) : ℕ := 12 + 4 * (rtpHeader datagram).count.toNat

/-- What is found at `offset`. -/
def foundAt (datagram : Bytes) (offset : ℕ) : Option (ℕ × ℕ) :=
  if datagram.length ≤ offset then none else some (offset, datagram.length - offset)

theorem skip_plain (h : IsRtp datagram) (hx : (rtpHeader datagram).extension ≠ 1) :
    rtpRxHeaderSkip (store rest 0 datagram) datagram.length = ⟨foundAt datagram (sourcesEnd datagram), [0]⟩ := by
  unfold rtpRxHeaderSkip
  rw [header_received h.ne_nil]
  simp only [h.version, ne_eq, not_true_eq_false, if_false, hx, sizeofRtpHeader, sizeofUInt32, Nat.mul_comm _ 4]
  split_ifs with hle
  · rw [foundAt, sourcesEnd, if_pos hle]
  · rw [foundAt, sourcesEnd, if_neg hle]

theorem skip_extended (h : IsRtp datagram) (hx : (rtpHeader datagram).extension = 1) :
    rtpRxHeaderSkip (store rest 0 datagram) datagram.length =
      ⟨foundAt datagram (sourcesEnd datagram +
        4 * (swap16 (loadU16 (store rest 0 datagram) (sourcesEnd datagram + 2))).toNat),
        [0, sourcesEnd datagram + 2, sourcesEnd datagram + 3]⟩ := by
  unfold rtpRxHeaderSkip
  rw [header_received h.ne_nil]
  simp only [h.version, ne_eq, not_true_eq_false, if_false, hx, if_true, sizeofRtpHeader, sizeofUInt32,
    Nat.mul_comm _ 4]
  split_ifs with hle
  · rw [foundAt, sourcesEnd, if_pos hle]
  · rw [foundAt, sourcesEnd, if_neg hle]

theorem foundAt_payload (rest : ℕ → UInt8) (datagram : Bytes) (p : ℕ) :
    (foundAt datagram p).map (fun found => (List.range' found.1 found.2).map (store rest 0 datagram)) =
      (some (datagram.drop p)).filter (· ≠ []) := by
  unfold foundAt
  split_ifs with h
  · rw [drop_eq_nil_of_le h]
    rfl
  · rw [map_some, received_from, filter_some, if_pos]
    simpa using h

theorem skipsHeader_plain (h : IsRtp datagram) (hx : (rtpHeader datagram).extension ≠ 1) :
    SkipsHeader rest datagram := by
  refine ⟨?_, ?_⟩
  · rw [skip_plain h hx, foundAt_payload, rtpPayload, if_neg hx]
    rfl
  · rw [skip_plain h hx]
    intro o ho
    rw [mem_singleton.1 ho]
    exact length_pos_iff.2 h.ne_nil

theorem rtpPayload_extended (hx : (rtpHeader datagram).extension = 1) {words : ℕ}
    (hw : extensionWords (behindSources datagram) = some words) :
    rtpPayload datagram = (some (datagram.drop (sourcesEnd datagram + (4 + 4 * words)))).filter (· ≠ []) := by
  rw [rtpPayload, if_pos hx, behindExtension, hw, map_some, behindSources, drop_drop]
  rfl

theorem filter_drop_eq_iff (bytes : Bytes) {p q : ℕ} (h : p < q) :
    (some (bytes.drop p)).filter (· ≠ []) = (some (bytes.drop q)).filter (· ≠ []) ↔ bytes.length ≤ p := by
  constructor
  · intro heq
    by_contra hlt
    have hp : bytes.drop p ≠ [] := by simpa using hlt
    rw [filter_some, filter_some, if_pos (by simpa using hp)] at heq
    split_ifs at heq with hq
    have hl := congrArg List.length (Option.some.inj heq)
    simp only [length_drop] at hl
    omega
  · intro hle
    rw [drop_eq_nil_of_le hle, drop_eq_nil_of_le (hle.trans h.le)]

theorem skipsHeader_extended (h : IsRtp datagram) (hx : (rtpHeader datagram).extension = 1) :
    SkipsHeader rest datagram ↔ ExtensionCut datagram := by
  have hb : (behindSources datagram).length = datagram.length - sourcesEnd datagram := by
    rw [behindSources, length_drop, sourcesEnd]
  have hr : ∀ {words}, extensionWords (behindSources datagram) = some words →
      (swap16 (loadU16 (store rest 0 datagram) (sourcesEnd datagram + 2))).toNat = words ∧
        sourcesEnd datagram + 4 ≤ datagram.length := fun hw => extLength_received hw
  constructor
  · intro hg
    have hi := hg.inside (sourcesEnd datagram + 3) (by simp [skip_extended h hx])
    obtain ⟨words, hw⟩ := extensionWords_isSome (show 4 ≤ (behindSources datagram).length by omega)
    have hl := (hr hw).1
    have hp := hg.payload
    rw [skip_extended h hx, foundAt_payload, rtpPayload_extended hx hw, hl,
      filter_drop_eq_iff _ (by omega)] at hp
    exact ⟨words, hw, by omega⟩
  · rintro ⟨words, hw, hc⟩
    obtain ⟨hl, hle⟩ := hr hw
    refine ⟨?_, ?_⟩
    · rw [skip_extended h hx, foundAt_payload, rtpPayload_extended hx hw, hl,
        filter_drop_eq_iff _ (by omega)]
      omega
    · rw [skip_extended h hx]
      intro o ho
      simp only [mem_cons, not_mem_nil, or_false] at ho
      omega

end Skip

/-- **The payload is found** exactly where the packet has no extension or its extension is cut. -/
theorem skipsHeader_iff {datagram : Bytes} (h : IsRtp datagram) (rest : ℕ → UInt8) :
    SkipsHeader rest datagram ↔ ((rtpHeader datagram).extension = 1 → ExtensionCut datagram) := by
  by_cases hx : (rtpHeader datagram).extension = 1
  · rw [skipsHeader_extended h hx]
    exact ⟨fun hcut _ => hcut, fun hcut => hcut hx⟩
  · exact ⟨fun _ h => absurd h hx, fun _ => skipsHeader_plain h hx⟩

def extendedPacket : Bytes := [0x90, 0, 0, 1, 0, 0, 0, 0, 0, 0, 0, 7] ++ [0xBE, 0xDE, 0, 1] ++ [1, 2, 3, 4] ++ [5, 6]

theorem isRtp_extendedPacket : IsRtp extendedPacket := ⟨by decide, by decide, by decide⟩

/-- The last word of an extension is taken for payload. -/
theorem not_skipsHeader_extended : ¬ ∀ datagram, IsRtp datagram → ∀ rest, SkipsHeader rest datagram := by
  intro h
  exact absurd (h extendedPacket isRtp_extendedPacket (fun _ => 0)).payload (by decide)

/-- An extension that is cut behind its header. -/
theorem skipsHeader_iff_cut : SkipsHeader (fun _ => 0) (extendedPacket.take 16) := by
  refine (skipsHeader_iff ⟨by decide, by decide, by decide⟩ _).2 fun _ => ⟨1, by decide, by decide⟩

end UniMrcp.Mpf
