import UniMrcp.Lib.Run
import UniMrcp.Mpf.Frame

/-!
# The jitter buffer

`mpf_jitter_buffer.c`: a cyclic array of frames, a read and a write position in timestamp units, and an offset that
takes RTP timestamps to positions, in 32 bits. Where the code divides by zero the model goes on with a quotient of zero.
-/

namespace UniMrcp.Mpf

open Lib

/-- The result of a write (`jb_result_t`). -/
inductive JbResult where
  | ok
  | discardNotAlligned
  | discardTooLate
  | discardTooEarly
  deriving DecidableEq

/-- The configuration (`mpf_jb_config_t`), delays in msec. -/
structure JbConfig where
  minPlayoutDelay : UInt32
  initialPlayoutDelay : UInt32
  maxPlayoutDelay : UInt32
  adaptive : Bool
  timeSkewDetection : Bool
  deriving DecidableEq

/-- The default configuration (`mpf_jb_config_init`). -/
def JbConfig.init : JbConfig :=
  { adaptive := false, initialPlayoutDelay := 0, minPlayoutDelay := 0, maxPlayoutDelay := 0,
    timeSkewDetection := true }

/-- Where `event_write_update` points, when it is not `NULL`: to the base frame of the event, or into a slot. -/
inductive EventRef where
  | base
  | frame (index : Nat)
  deriving DecidableEq

/-- `mpf_jitter_buffer_t`. The array of frames is a function on slots of which the first `frameCount` are in use. -/
structure JitterBuffer where
  config : JbConfig
  codec : Codec
  frames : Nat → Frame
  frameCount : Nat
  frameTs : UInt32
  frameSize : Nat
  playoutDelayTs : UInt32
  maxPlayoutDelayTs : UInt32
  writeSync : Bool
  writeTsOffset : Int32
  writeTs : UInt32
  readTs : UInt32
  minLengthTs : Int32
  maxLengthTs : Int32
  measurmentCount : UInt32
  eventWriteBaseTs : UInt32
  eventWriteBase : NamedEventFrame
  eventWriteUpdate : Option EventRef

/-! ## Create and restart -/

/-- The validation of the configuration in `mpf_jitter_buffer_create`. -/
def JbConfig.validate (config : JbConfig) : JbConfig :=
  let config := if config.minPlayoutDelay > config.initialPlayoutDelay then
    { config with minPlayoutDelay := config.initialPlayoutDelay } else config
  let config := if config.maxPlayoutDelay < config.initialPlayoutDelay then
    { config with maxPlayoutDelay := 2 * config.initialPlayoutDelay } else config
  if config.maxPlayoutDelay = 0 then { config with maxPlayoutDelay := 600 } else config

def JbConfig.alignInitial (config : JbConfig) : JbConfig :=
  if config.initialPlayoutDelay % codecFrameTimeBase.toUInt32 ≠ 0 then
    { config with initialPlayoutDelay := config.initialPlayoutDelay +
        (codecFrameTimeBase.toUInt32 - config.initialPlayoutDelay % codecFrameTimeBase.toUInt32) }
  else config

/-- `mpf_jitter_buffer_create`; no configuration stands for the null pointer. -/
def jitterBufferCreate (jbConfig : Option JbConfig) (descriptor : CodecDescriptor) (codec : Codec) :
    JitterBuffer :=
  let config := (jbConfig.getD .init).validate
  let frameTs := (codecFrameSamplesCalculate descriptor).toUInt32
  let frameCount := (config.maxPlayoutDelay / codecFrameTimeBase.toUInt32).toNat
  let config := config.alignInitial
  { config := config
    codec := codec
    frames := fun _ => default
    frameCount := frameCount
    frameTs := frameTs
    frameSize := codecFrameSizeCalculate descriptor codec.attribs
    playoutDelayTs := frameTs * config.initialPlayoutDelay / codecFrameTimeBase.toUInt32
    maxPlayoutDelayTs := frameTs * config.maxPlayoutDelay / codecFrameTimeBase.toUInt32
    writeSync := true
    writeTsOffset := 0
    writeTs := 0
    readTs := 0
    minLengthTs := 0
    maxLengthTs := 0
    measurmentCount := 0
    eventWriteBaseTs := 0
    eventWriteBase := default
    eventWriteUpdate := none }

namespace JitterBuffer

variable (jb : JitterBuffer)

/-- The playout delay that `mpf_jitter_buffer_restart` leaves: one that has reached its maximum starts over. -/
def restartDelayTs : UInt32 :=
  if jb.config.adaptive ∧ jb.playoutDelayTs = jb.maxPlayoutDelayTs then
    jb.frameTs * jb.config.initialPlayoutDelay / codecFrameTimeBase.toUInt32
  else jb.playoutDelayTs

/-- The slot of a position: the index computed by `mpf_jitter_buffer_frame_get`. -/
def frameIndex (ts : UInt32) : Nat := ts.toNat / jb.frameTs.toNat % jb.frameCount

/-- The frame at a position (`mpf_jitter_buffer_frame_get`). -/
def frameGet (ts : UInt32) : Frame := jb.frames (jb.frameIndex ts)

/-- A store through the pointer that `mpf_jitter_buffer_frame_get` returns. -/
def frameSet (ts : UInt32) (frame : Frame) : JitterBuffer :=
  { jb with frames := Function.update jb.frames (jb.frameIndex ts) frame }

/-- A timestamp rounded down to a multiple of the frame (`mpf_jitter_buffer_frame_allign`). -/
def frameAllign (ts : UInt32) : UInt32 := if ts % jb.frameTs ≠ 0 then ts - ts % jb.frameTs else ts

/-- The named event that `event_write_update` points to. -/
def eventUpdate : Option NamedEventFrame :=
  match jb.eventWriteUpdate with
  | none => none
  | some .base => some jb.eventWriteBase
  | some (.frame index) => some (jb.frames index).eventFrame

end JitterBuffer

def jitterBufferRestart (jb : JitterBuffer) : JitterBuffer :=
  { jb with
    writeSync := true
    writeTsOffset := 0
    writeTs := jb.readTs
    eventWriteBaseTs := 0
    eventWriteBase := default
    eventWriteUpdate := none
    playoutDelayTs := jb.restartDelayTs }

/-! ## Writing -/

/-- The synchronization of `mpf_jitter_buffer_write_prepare`: the offset is calculated and the statistics reset. -/
def JitterBuffer.synchronize (jb : JitterBuffer) (ts : UInt32) : JitterBuffer :=
  let jb := { jb with writeTsOffset := (ts - jb.readTs).toInt32, writeSync := false }
  if jb.config.timeSkewDetection then
    { jb with
      minLengthTs := jb.playoutDelayTs.toInt32
      maxLengthTs := jb.playoutDelayTs.toInt32
      measurmentCount := 0 }
  else jb

/-- The position of an RTP timestamp, with the current offset and playout delay. -/
def JitterBuffer.tsPosition (jb : JitterBuffer) (ts : UInt32) : UInt32 :=
  ts - jb.writeTsOffset.toUInt32 + jb.playoutDelayTs

/-- `mpf_jitter_buffer_write_prepare`, which always succeeds: the state, synchronized, and the write position. -/
def jitterBufferWritePrepare (jb : JitterBuffer) (ts : UInt32) : JitterBuffer × UInt32 :=
  let jb := if jb.writeSync then jb.synchronize ts else jb
  (jb, jb.frameAllign (jb.tsPosition ts))

/-- The part of `mpf_jitter_buffer_write` that looks for a time skew. -/
def jitterBufferSkewAdjust (jb : JitterBuffer) (ts writeTs deltaTs : UInt32) : JitterBuffer × UInt32 × UInt32 :=
  let lengthTs := (jb.maxLengthTs - jb.minLengthTs).toUInt32
  let deltaTs :=
    if lengthTs > jb.playoutDelayTs + deltaTs then jb.frameAllign (lengthTs - jb.playoutDelayTs) else deltaTs
  if jb.maxLengthTs > 0 ∧ jb.maxLengthTs.toUInt32 < jb.playoutDelayTs then
    let skewTs := jb.frameAllign (jb.playoutDelayTs - jb.maxLengthTs.toUInt32)
    let jb := { jb with
      writeTsOffset := (jb.writeTsOffset.toUInt32 - skewTs).toInt32
      minLengthTs := (jb.minLengthTs.toUInt32 + skewTs).toInt32
      maxLengthTs := (jb.maxLengthTs.toUInt32 + skewTs).toInt32 }
    (jb, jb.tsPosition ts, if skewTs < deltaTs then deltaTs - skewTs else 0)
  else (jb, writeTs, deltaTs)

/-- The part of `mpf_jitter_buffer_write` that adjusts the playout delay; no position if the packet is discarded. -/
def jitterBufferDelayAdjust (jb : JitterBuffer) (writeTs deltaTs : UInt32) : JitterBuffer × Option UInt32 :=
  if deltaTs ≠ 0 then
    if jb.config.adaptive = false then (jb, none)
    else if jb.playoutDelayTs + deltaTs > jb.maxPlayoutDelayTs then (jb, none)
    else
      let jb := { jb with playoutDelayTs := jb.playoutDelayTs + deltaTs }
      let jb :=
        if jb.config.timeSkewDetection then
          { jb with
            minLengthTs := (jb.minLengthTs.toUInt32 + deltaTs).toInt32
            maxLengthTs := (jb.maxLengthTs.toUInt32 + deltaTs).toInt32 }
        else jb
      (jb, some (writeTs + deltaTs))
  else (jb, some writeTs)

/-- The part of `mpf_jitter_buffer_write` for a packet that arrived too late. -/
def jitterBufferLateAdjust (jb : JitterBuffer) (ts writeTs : UInt32) : JitterBuffer × Option UInt32 :=
  let deltaTs := jb.readTs - writeTs
  if jb.config.timeSkewDetection then
    let (jb, writeTs, deltaTs) := jitterBufferSkewAdjust jb ts writeTs deltaTs
    jitterBufferDelayAdjust jb writeTs deltaTs
  else jitterBufferDelayAdjust jb writeTs deltaTs

/-- A marker starts a new talkspurt: the next write synchronizes if the buffer is empty. -/
def JitterBuffer.resync (jb : JitterBuffer) (marker : Bool) : JitterBuffer :=
  if marker ∧ jb.writeTs ≤ jb.readTs then { jb with writeSync := true } else jb

/-- The first part of `mpf_jitter_buffer_write`: the state, and the position of the packet unless it is too late. -/
def jitterBufferWritePosition (jb : JitterBuffer) (ts : UInt32) (marker : Bool) : JitterBuffer × Option UInt32 :=
  let (jb, writeTs) := jitterBufferWritePrepare (jb.resync marker) ts
  if writeTs ≥ jb.readTs then (jb, some writeTs)
  else if writeTs < jb.writeTs then (jb, none)
  else jitterBufferLateAdjust jb ts writeTs

/-- The number of frames available to write at a position, in the unsigned arithmetic of the code. -/
def JitterBuffer.availableFrameCount (jb : JitterBuffer) (writeTs : UInt32) : Nat :=
  sizeSub jb.frameCount ((writeTs - jb.readTs) / jb.frameTs).toNat

/-- The codec frame at a position, with the size it is given before the packet is dissected into it. -/
def JitterBuffer.codecFrameGet (jb : JitterBuffer) (ts : UInt32) : CodecFrame :=
  { (jb.frameGet ts).codecFrame with size := jb.frameSize }

def JitterBuffer.codecFrameSet (jb : JitterBuffer) (ts : UInt32) (codecFrame : CodecFrame) : JitterBuffer :=
  jb.frameSet ts { jb.frameGet ts with codecFrame := codecFrame }

def JitterBuffer.audioSet (jb : JitterBuffer) (ts : UInt32) (codecFrame : CodecFrame) : JitterBuffer :=
  jb.frameSet ts
    { jb.frameGet ts with codecFrame := codecFrame, type := { (jb.frameGet ts).type with audio := true } }

/-- The loop of `mpf_jitter_buffer_write` over the frames of a packet. -/
def jitterBufferFill : Nat → JitterBuffer → Bytes → UInt32 → JitterBuffer × UInt32
  | 0, jb, _, writeTs => (jb, writeTs)
  | availableFrameCount + 1, jb, buffer, writeTs =>
    if buffer = [] then (jb, writeTs)
    else
      match codecDissect jb.codec buffer (jb.codecFrameGet writeTs) with
      | none => (jb.codecFrameSet writeTs (jb.codecFrameGet writeTs), writeTs)
      | some (buffer, codecFrame) =>
        jitterBufferFill availableFrameCount (jb.audioSet writeTs codecFrame) buffer (writeTs + jb.frameTs)

def JitterBuffer.writeAdvance (jb : JitterBuffer) (writeTs : UInt32) : JitterBuffer :=
  if writeTs > jb.writeTs then { jb with writeTs := writeTs } else jb

/-- The last part of `mpf_jitter_buffer_write`: the frames of the packet are stored, as far as there are frames
available. -/
def jitterBufferPlace (jb : JitterBuffer) (buffer : Bytes) (writeTs : UInt32) : JitterBuffer × JbResult :=
  if jb.availableFrameCount writeTs ≤ 0 then (jb, .discardTooEarly)
  else
    let filled := jitterBufferFill (jb.availableFrameCount writeTs) jb buffer writeTs
    (filled.1.writeAdvance filled.2, .ok)

/-- `mpf_jitter_buffer_write`; the size of the packet is the length of `buffer`. -/
def jitterBufferWrite (jb : JitterBuffer) (buffer : Bytes) (ts : UInt32) (marker : Bool) :
    JitterBuffer × JbResult :=
  match jitterBufferWritePosition jb ts marker with
  | (jb, none) => (jb, .discardTooLate)
  | (jb, some writeTs) => jitterBufferPlace jb buffer writeTs

/-! ## Writing named events -/

def JitterBuffer.eventStart (jb : JitterBuffer) (namedEvent : NamedEventFrame) (writeTs : UInt32) : JitterBuffer :=
  { jb with eventWriteBase := namedEvent, eventWriteUpdate := some .base, eventWriteBaseTs := writeTs }

/-- The detection of a new event in `mpf_jitter_buffer_event_write`; else the last update of the event in progress. -/
def jitterBufferEventDetect (jb : JitterBuffer) (namedEvent : NamedEventFrame) (writeTs : UInt32) (marker : Bool) :
    JitterBuffer × Option NamedEventFrame :=
  if marker then (jb.eventStart namedEvent writeTs, none)
  else
    match jb.eventUpdate with
    | none => (jb.eventStart namedEvent writeTs, none)
    | some update =>
      if jb.eventWriteBase.eventId ≠ namedEvent.eventId then (jb.eventStart namedEvent writeTs, none)
      else if jb.eventWriteBaseTs ≠ writeTs then
        if writeTs > jb.eventWriteBaseTs + update.duration.toUInt32 + 4 * jb.frameTs then
          (jb.eventStart namedEvent writeTs, none)
        else (jb.eventStart namedEvent writeTs, some namedEvent)
      else (jb, some update)

/-- An update of the event in progress that is ignored: something from the past, or a retransmission without new
data. -/
def NamedEventFrame.ignored (namedEvent update : NamedEventFrame) : Bool :=
  namedEvent.duration < update.duration ∨
    (namedEvent.duration = update.duration ∧ (update.edge ∨ update.edge = namedEvent.edge))

/-- An event frame is stored at a position, and becomes the last update of the event. -/
def JitterBuffer.eventSet (jb : JitterBuffer) (ts : UInt32) (namedEvent : NamedEventFrame) (marker : Bool) :
    JitterBuffer :=
  { jb.frameSet ts
      { jb.frameGet ts with
        eventFrame := namedEvent
        type := { (jb.frameGet ts).type with event := true }
        marker := if marker then .startOfEvent
          else if namedEvent.edge then .endOfEvent else (jb.frameGet ts).marker } with
    eventWriteUpdate := some (.frame (jb.frameIndex ts)) }

/-- The placement of an event in `mpf_jitter_buffer_event_write`, or the reason to discard it. -/
def jitterBufferEventPlace (jb : JitterBuffer) (writeTs : UInt32) (marker : Bool) :
    JitterBuffer × Except JbResult UInt32 :=
  if writeTs < jb.readTs then
    if jb.config.adaptive = false then (jb, .error .discardTooLate)
    else
      let deltaTs := jb.readTs - writeTs
      if jb.playoutDelayTs + deltaTs > jb.maxPlayoutDelayTs then (jb, .error .discardTooLate)
      else
        let jb := { jb with playoutDelayTs := jb.playoutDelayTs + deltaTs }
        let writeTs := writeTs + deltaTs
        (if marker then { jb with eventWriteBaseTs := writeTs } else jb, .ok writeTs)
  else if ((writeTs - jb.readTs) / jb.frameTs).toNat ≥ jb.frameCount then (jb, .error .discardTooEarly)
  else (jb, .ok writeTs)

/-- The first part of `mpf_jitter_buffer_event_write`: whether the event is new, and its position or the result. -/
def jitterBufferEventPosition (jb : JitterBuffer) (namedEvent : NamedEventFrame) (ts : UInt32) (marker : Bool) :
    JitterBuffer × Bool × Except JbResult UInt32 :=
  let (jb, writeTs) := jitterBufferWritePrepare jb ts
  match jitterBufferEventDetect jb namedEvent writeTs marker with
  | (jb, none) =>
    let (jb, place) := jitterBufferEventPlace jb writeTs true
    (jb, true, place)
  | (jb, some update) =>
    if namedEvent.ignored update then (jb, false, .error .ok)
    else
      let (jb, place) := jitterBufferEventPlace jb (writeTs + update.duration.toUInt32) false
      (jb, false, place)

def jitterBufferEventWrite (jb : JitterBuffer) (namedEvent : NamedEventFrame) (ts : UInt32) (marker : Bool) :
    JitterBuffer × JbResult :=
  match jitterBufferEventPosition jb namedEvent ts marker with
  | (jb, _, .error result) => (jb, result)
  | (jb, marker, .ok writeTs) => ((jb.eventSet writeTs namedEvent marker).writeAdvance (writeTs + jb.frameTs), .ok)

/-- The statistics of `mpf_jitter_buffer_stat_update`. -/
def jitterBufferStatUpdate (jb : JitterBuffer) : JitterBuffer :=
  let jb :=
    if jb.measurmentCount = 50 then
      let meanLengthTs := jb.minLengthTs + (jb.maxLengthTs - jb.minLengthTs) / 2
      { jb with minLengthTs := meanLengthTs, maxLengthTs := meanLengthTs, measurmentCount := 0 }
    else jb
  let lengthTs := (jb.writeTs - jb.readTs).toInt32
  let jb :=
    if lengthTs > jb.maxLengthTs then { jb with maxLengthTs := lengthTs }
    else if lengthTs < jb.minLengthTs then { jb with minLengthTs := lengthTs }
    else jb
  { jb with measurmentCount := jb.measurmentCount + 1 }

/-- What `mpf_jitter_buffer_read` copies from a slot to the caller's frame in a normal read. -/
def Frame.copyTo (src mediaFrame : Frame) : Frame :=
  { type := src.type
    marker := src.marker
    codecFrame := if src.type.audio then
        { size := src.codecFrame.size, buffer := src.codecFrame.buffer.take src.codecFrame.size }
      else mediaFrame.codecFrame
    eventFrame := if src.type.event then src.eventFrame else mediaFrame.eventFrame }

/-- The slot at the read position is cleared and the read position advanced. -/
def JitterBuffer.readAdvance (jb : JitterBuffer) : JitterBuffer :=
  { jb.frameSet jb.readTs { jb.frameGet jb.readTs with type := .none, marker := .none } with
    readTs := jb.readTs + jb.frameTs }

/-- `mpf_jitter_buffer_read` into the caller's frame. -/
def jitterBufferRead (jb : JitterBuffer) (mediaFrame : Frame) : JitterBuffer × Frame :=
  (if jb.config.timeSkewDetection then jitterBufferStatUpdate jb.readAdvance else jb.readAdvance,
    if jb.writeTs > jb.readTs then (jb.frameGet jb.readTs).copyTo mediaFrame
    else { mediaFrame with type := .none, marker := .none })

/-- The current playout delay in msec (`mpf_jitter_buffer_playout_delay_get`). -/
def jitterBufferPlayoutDelayGet (jb : JitterBuffer) : UInt32 :=
  if jb.config.adaptive = false then jb.config.initialPlayoutDelay
  else jb.playoutDelayTs * codecFrameTimeBase.toUInt32 / jb.frameTs

inductive JbOp where
  | write (buffer : Bytes) (ts : UInt32) (marker : Bool)
  | eventWrite (namedEvent : NamedEventFrame) (ts : UInt32) (marker : Bool)
  | read (mediaFrame : Frame)
  | restart
  deriving DecidableEq

inductive JbOut where
  | result (result : JbResult)
  | frame (frame : Frame)
  | restarted
  deriving DecidableEq

def jitterBufferStep (jb : JitterBuffer) : JbOp → JitterBuffer × JbOut
  | .write buffer ts marker =>
    ((jitterBufferWrite jb buffer ts marker).1, .result (jitterBufferWrite jb buffer ts marker).2)
  | .eventWrite namedEvent ts marker =>
    ((jitterBufferEventWrite jb namedEvent ts marker).1, .result (jitterBufferEventWrite jb namedEvent ts marker).2)
  | .read mediaFrame => ((jitterBufferRead jb mediaFrame).1, .frame (jitterBufferRead jb mediaFrame).2)
  | .restart => (jitterBufferRestart jb, .restarted)

end UniMrcp.Mpf
