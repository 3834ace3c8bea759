import UniMrcp.Apt.TextStream
import UniMrcp.Mpf.Frame

/-!
# Codecs

Descriptors and capabilities of codecs (`mpf_codec_descriptor.c`), and the manager that knows the codecs
(`mpf_codec_manager.c`).
-/

namespace UniMrcp.Mpf.Path

open Apt List

/-- `mpf_codec_descriptor_t`. The buffer of a string may be NULL. -/
structure CodecDescriptor where
  payloadType : UInt8
  name : Option Bytes := none
  samplingRate : UInt16 := 0
  channelCount : UInt8 := 0
  format : Option Bytes := none
  enabled : Bool := true
deriving DecidableEq

def rtpPtDynamic : UInt8 := 96

def rtpPtUnknown : UInt8 := 128

/-- `apt_string_compare`, of strings whose buffer may be NULL. -/
def namesCompare (name1 name2 : Option Bytes) : Bool := stringCompare (name1.getD []) (name2.getD [])

/-- `mpf_codec_descriptors_match`: static payload types are compared, and nothing else for them. -/
def codecDescriptorsMatch (descriptor1 descriptor2 : CodecDescriptor) : Bool :=
  if descriptor1.payloadType < rtpPtDynamic ∧ descriptor2.payloadType < rtpPtDynamic then
    descriptor1.payloadType == descriptor2.payloadType
  else
    namesCompare descriptor1.name descriptor2.name && descriptor1.samplingRate == descriptor2.samplingRate &&
      descriptor1.channelCount == descriptor2.channelCount

def lpcmCodecName : Bytes := ascii "LPCM"

/-- `mpf_codec_lpcm_descriptor_match` -/
def lpcmDescriptorMatch (descriptor : CodecDescriptor) : Bool := namesCompare descriptor.name (some lpcmCodecName)

/-- `mpf_codec_lpcm_descriptor_create` -/
def lpcmDescriptorCreate (samplingRate : UInt16) (channelCount : UInt8) : CodecDescriptor where
  payloadType := rtpPtUnknown
  name := some lpcmCodecName
  samplingRate := samplingRate
  channelCount := channelCount

/-- `mpf_codec_attribs_t`; the rates are a mask. -/
structure CodecAttribs where
  name : Bytes
  bitsPerSample : UInt8
  sampleRates : UInt32
deriving DecidableEq

structure CodecCapabilities where
  attribArr : List CodecAttribs
  allowNamedEvents : Bool
deriving DecidableEq

/-- `mpf_sample_rate_mask_get` -/
def sampleRateMask (samplingRate : UInt16) : UInt32 :=
  if samplingRate = 8000 then 0x01
  else if samplingRate = 16000 then 0x02
  else if samplingRate = 32000 then 0x04
  else if samplingRate = 48000 then 0x08
  else 0x00

def sampleRateSupported : UInt32 := 0x0F

def samplingRateCheck (samplingRate : UInt16) (mask : UInt32) : Bool := sampleRateMask samplingRate &&& mask != 0

/-- `mpf_codec_capabilities_attribs_find`, which looks at the rates only. -/
def capabilitiesAttribsFind (capabilities : CodecCapabilities) (descriptor : CodecDescriptor) : Option CodecAttribs :=
  capabilities.attribArr.find? fun attribs => samplingRateCheck descriptor.samplingRate attribs.sampleRates

/-- `mpf_codec_descriptor_create_by_capabilities`: the peer's descriptor if its rate is supported, else linear PCM. -/
def codecDescriptorCreateByCapabilities (capabilities : CodecCapabilities) (peer : Option CodecDescriptor) :
    CodecDescriptor :=
  match peer.bind fun peer => (capabilitiesAttribsFind capabilities peer).map fun attribs => (peer, attribs) with
  | none => lpcmDescriptorCreate 8000 1
  | some (peer, attribs) =>
    if namesCompare peer.name (some attribs.name) then peer
    else { peer with payloadType := rtpPtUnknown, name := some attribs.name }

/-! ## Codecs -/

/-- The manipulators of the codecs, `mpf_codec_g711.c` and `mpf_codec_linear.c`. -/
inductive CodecVtable
  | g711
  | l16
deriving DecidableEq

/-- The size that `decode` sets. -/
def CodecVtable.decodedSize : CodecVtable → Nat → Nat
  | .g711, size => size * 2
  | .l16, size => size

structure Codec where
  vtable : CodecVtable
  attribs : CodecAttribs
  staticDescriptor : Option CodecDescriptor
deriving DecidableEq

/-- The rate and the channels of audio, on which the size of a frame depends. -/
abbrev Format := Mpf.CodecDescriptor

def CodecDescriptor.toFormat (descriptor : CodecDescriptor) : Format :=
  ⟨descriptor.samplingRate, descriptor.channelCount⟩

/-- `mpf_codec_frame_size_calculate` -/
def codecFrameSize (descriptor : CodecDescriptor) (attribs : CodecAttribs) : Nat :=
  codecFrameSizeCalculate descriptor.toFormat ⟨attribs.bitsPerSample⟩

/-- `mpf_codec_linear_frame_size_calculate`, of two bytes for a sample. -/
def codecLinearFrameSize (samplingRate : UInt16) (channelCount : UInt8) : Nat :=
  channelCount.toNat * 2 * codecFrameTimeBase * samplingRate.toNat / 1000

/-- `mpf_codec_descriptor_match_by_attribs`: the descriptor as it is changed if it matches. -/
def codecDescriptorMatchByAttribs (descriptor : CodecDescriptor) (staticDescriptor : Option CodecDescriptor)
    (attribs : CodecAttribs) : Option CodecDescriptor :=
  if descriptor.payloadType < rtpPtDynamic then
    (staticDescriptor.filter (·.payloadType = descriptor.payloadType)).map fun static =>
      { descriptor with
        name := static.name, samplingRate := static.samplingRate, channelCount := static.channelCount }
  else if namesCompare (some attribs.name) descriptor.name &&
      samplingRateCheck descriptor.samplingRate attribs.sampleRates then some descriptor
  else none

/-- `mpf_codec_manager_codec_get`: the first codec that matches, and the descriptor as it is changed. -/
def codecManagerCodecGet (codecArr : List Codec) (descriptor : CodecDescriptor) : Option (Codec × CodecDescriptor) :=
  codecArr.findSome? fun codec =>
    (codecDescriptorMatchByAttribs descriptor codec.staticDescriptor codec.attribs).map fun changed => (codec, changed)

/-- `mpf_codec_g711u_create` -/
def g711u : Codec where
  vtable := .g711
  attribs := ⟨ascii "PCMU", 8, sampleRateSupported⟩
  staticDescriptor := some {
    payloadType := 0
    name := some (ascii "PCMU")
    samplingRate := 8000
    channelCount := 1 }

/-- `mpf_codec_g711a_create` -/
def g711a : Codec where
  vtable := .g711
  attribs := ⟨ascii "PCMA", 8, sampleRateSupported⟩
  staticDescriptor := some {
    payloadType := 8
    name := some (ascii "PCMA")
    samplingRate := 8000
    channelCount := 1 }

/-- `mpf_codec_l16_create` -/
def l16 : Codec where
  vtable := .l16
  attribs := ⟨ascii "L16", 16, sampleRateSupported⟩
  staticDescriptor := none

/-- `mpf_engine_codec_manager_create` -/
def codecManager : List Codec := [g711u, g711a, l16]

theorem supported_of_samplingRateCheck {samplingRate : UInt16} {mask : UInt32}
    (h : samplingRateCheck samplingRate mask) :
    samplingRate = 8000 ∨ samplingRate = 16000 ∨ samplingRate = 32000 ∨ samplingRate = 48000 := by
  by_contra ho
  simp only [not_or] at ho
  simp [samplingRateCheck, sampleRateMask, ho] at h

variable {codec : Codec}

theorem codecManagerCodecGet_spec {descriptor changed : CodecDescriptor}
    (h : codecManagerCodecGet codecManager descriptor = some (codec, changed)) : codec ∈ codecManager ∧
      (changed.samplingRate = 8000 ∨ changed.samplingRate = 16000 ∨ changed.samplingRate = 32000 ∨
        changed.samplingRate = 48000) := by
  obtain ⟨codec', hmm, hg⟩ := exists_of_findSome?_eq_some h
  obtain ⟨changed', hm, heq⟩ := Option.map_eq_some_iff.1 hg
  obtain ⟨rfl, rfl⟩ := Prod.mk.inj heq
  refine ⟨hmm, ?_⟩
  unfold codecDescriptorMatchByAttribs at hm
  split at hm
  · obtain ⟨static, hs, rfl⟩ := Option.map_eq_some_iff.1 hm
    have hs := (Option.filter_eq_some_iff.1 hs).1
    simp only [codecManager, mem_cons, not_mem_nil, or_false] at hmm
    rcases hmm with rfl | rfl | rfl
    · obtain rfl := Option.some.inj hs
      exact Or.inl rfl
    · obtain rfl := Option.some.inj hs
      exact Or.inl rfl
    · cases hs
  · split at hm
    · rename_i hc
      obtain rfl := Option.some.inj hm
      exact supported_of_samplingRateCheck (Bool.and_eq_true_iff.1 hc).2
    · cases hm

theorem decodedSize_eq {descriptor changed : CodecDescriptor}
    (h : codecManagerCodecGet codecManager descriptor = some (codec, changed)) :
    codec.vtable.decodedSize (codecFrameSize changed codec.attribs) =
      codecLinearFrameSize changed.samplingRate changed.channelCount := by
  obtain ⟨hm, hr⟩ := codecManagerCodecGet_spec h
  unfold codecFrameSize codecFrameSizeCalculate CodecDescriptor.toFormat codecLinearFrameSize codecFrameTimeBase
  generalize changed.channelCount.toNat = channels
  simp only [codecManager, mem_cons, not_mem_nil, or_false] at hm
  rcases hm with rfl | rfl | rfl <;> rcases hr with hr | hr | hr | hr <;> rw [hr] <;>
    simp [CodecVtable.decodedSize, g711u, g711a, l16] <;> omega

end UniMrcp.Mpf.Path
