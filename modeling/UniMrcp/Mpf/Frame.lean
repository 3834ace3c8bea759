import UniMrcp.Apr

/-!
# Media frames and codecs

The data that passes through the media engine: `mpf_codec_descriptor.h`, `mpf_codec.h`, `mpf_named_event.h`,
`mpf_frame.h` and `mpf_stream_descriptor.h`.
-/

namespace UniMrcp.Mpf

/-- The directions of a stream (`mpf_stream_direction_e`). -/
inductive StreamDirection where
  | none
  | send
  | receive
  | duplex
  deriving DecidableEq

/-- `direction & STREAM_DIRECTION_SEND`. -/
def StreamDirection.sends : StreamDirection → Bool
  | .send => true
  | .duplex => true
  | _ => false

/-- `direction & STREAM_DIRECTION_RECEIVE`. -/
def StreamDirection.receives : StreamDirection → Bool
  | .receive => true
  | .duplex => true
  | _ => false

/-! ## Codecs -/

/-- `CODEC_FRAME_TIME_BASE`: the time base of a codec frame in msec. -/
def codecFrameTimeBase : Nat := 10

/-- The fields of `mpf_codec_descriptor_t` that the size of a frame depends on. -/
structure CodecDescriptor where
  samplingRate : UInt16
  channelCount : UInt8
  deriving DecidableEq

/-- The sampling rates of `MPF_SAMPLE_RATE_SUPPORTED`. -/
def CodecDescriptor.SupportedRate (descriptor : CodecDescriptor) : Prop :=
  descriptor.samplingRate = 8000 ∨ descriptor.samplingRate = 16000 ∨ descriptor.samplingRate = 32000 ∨
    descriptor.samplingRate = 48000

instance (descriptor : CodecDescriptor) : Decidable descriptor.SupportedRate := by
  unfold CodecDescriptor.SupportedRate; infer_instance

/-- The field of `mpf_codec_attribs_t` that the size of a frame depends on. -/
structure CodecAttribs where
  bitsPerSample : UInt8
  deriving DecidableEq

/-- The encoded size of a frame in bytes (`mpf_codec_frame_size_calculate`). -/
def codecFrameSizeCalculate (descriptor : CodecDescriptor) (attribs : CodecAttribs) : Nat :=
  descriptor.channelCount.toNat * attribs.bitsPerSample.toNat * codecFrameTimeBase *
    descriptor.samplingRate.toNat / 1000 / 8

/-- The number of samples of a frame (`mpf_codec_frame_samples_calculate`). -/
def codecFrameSamplesCalculate (descriptor : CodecDescriptor) : Nat :=
  descriptor.channelCount.toNat * codecFrameTimeBase * descriptor.samplingRate.toNat / 1000

structure CodecFrame where
  buffer : Bytes := []
  size : Nat := 0
  deriving DecidableEq

/-- The fields of `mpf_codec_t` that receiving uses; `dissect` is the virtual method, `NULL` in the codecs of the
library. -/
structure Codec where
  attribs : CodecAttribs
  dissect : Option (Bytes → CodecFrame → Option (Bytes × CodecFrame)) := none

/-- Navigate to the next codec frame in a buffer which may contain several (`mpf_codec_dissect`). -/
def codecDissect (codec : Codec) (buffer : Bytes) (frame : CodecFrame) : Option (Bytes × CodecFrame) :=
  match codec.dissect with
  | some dissect => dissect buffer frame
  | none =>
    if frame.size ≤ buffer.length ∧ frame.size ≠ 0 then
      some (buffer.drop frame.size, { frame with buffer := buffer.take frame.size })
    else none

theorem codecDissect_one {codec : Codec} {buffer : Bytes} {frame : CodecFrame} (hc : codec.dissect = none)
    (hl : buffer.length = frame.size) (hs : frame.size ≠ 0) :
    codecDissect codec buffer frame = some ([], { frame with buffer := buffer }) := by
  have hb : buffer ≠ [] := by
    rintro rfl
    exact hs hl.symm
  simp [codecDissect, hc, ← hl, hb]

/-- A named event (`mpf_named_event_frame_t`); `reserved` is not read by any function. -/
structure NamedEventFrame where
  eventId : UInt8 := 0
  volume : Fin 64 := 0
  edge : Bool := false
  duration : UInt16 := 0
  deriving DecidableEq

instance : Inhabited NamedEventFrame := ⟨{}⟩

/-- The type of a frame: the flags of `mpf_frame_type_e`. -/
structure FrameType where
  audio : Bool := false
  video : Bool := false
  event : Bool := false
  deriving DecidableEq

/-- `MEDIA_FRAME_TYPE_NONE`. -/
def FrameType.none : FrameType := {}

/-- The marker of a frame (`mpf_frame_marker_e`). -/
inductive FrameMarker where
  | none
  | startOfEvent
  | endOfEvent
  | newSegment
  deriving DecidableEq

/-- A media frame (`mpf_frame_t`). -/
structure Frame where
  type : FrameType := .none
  marker : FrameMarker := .none
  codecFrame : CodecFrame := {}
  eventFrame : NamedEventFrame := {}
  deriving DecidableEq

instance : Inhabited Frame := ⟨{}⟩

end UniMrcp.Mpf
