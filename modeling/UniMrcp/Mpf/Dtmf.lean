import UniMrcp.Mpf.Frame

/-!
# DTMF digits as named events

`mpf_dtmf_generator.c` sends the digits of a queue as named events, one frame for every tick of the media clock, and
`mpf_dtmf_detector.c` finds the digits in the frames it gets. Tones in the audio are left out.
-/

namespace UniMrcp.Mpf

def dtmfEventIdMax : UInt8 := 15

def dtmfCharToEventId (dtmfChar : UInt8) : UInt8 :=
  if 0x30 ≤ dtmfChar && dtmfChar ≤ 0x39 then dtmfChar - 0x30
  else if dtmfChar == 0x2A then 10
  else if dtmfChar == 0x23 then 11
  else if 0x41 ≤ dtmfChar && dtmfChar ≤ 0x44 then 12 + dtmfChar - 0x41
  else 255

def eventIdToDtmfChar (eventId : UInt8) : UInt8 :=
  if eventId ≤ 9 then 0x30 + eventId
  else if eventId == 10 then 0x2A
  else if eventId == 11 then 0x23
  else if eventId ≤ 15 then 0x41 + eventId - 12
  else 0

def isDtmfDigit (dtmfChar : UInt8) : Bool := dtmfCharToEventId dtmfChar ≤ dtmfEventIdMax

/-! ## The generator -/

/-- `mpf_dtmf_generator_state_e` -/
inductive DtmfGeneratorState
  | idle
  | tone
  | ending
  | silence
  deriving DecidableEq

/-- `mpf_dtmf_generator_t`, less the tone generator. -/
structure DtmfGenerator where
  state : DtmfGeneratorState
  /-- `MPF_DTMF_GENERATOR_INBAND` is set in the band. -/
  inband : Bool
  /-- `MPF_DTMF_GENERATOR_OUTBAND` is set in the band. -/
  outband : Bool
  queue : Bytes
  eventId : UInt8
  toneDuration : UInt32
  silenceDuration : UInt32
  counter : UInt32
  frameDuration : UInt32
  eventDuration : UInt32
  newSegment : Bool
  eventsPtime : UInt32
  sinceLastEvent : UInt32
  deriving DecidableEq

/-- The fields of `mpf_audio_stream_t` that a generator is created for. -/
structure DtmfStream where
  rxDescriptor : Option CodecDescriptor
  rxEventDescriptor : Option CodecDescriptor

/-- `mpf_dtmf_generator_create_ex`; what is not assigned before it is read is 0 here. -/
def dtmfGeneratorCreateEx (stream : DtmfStream) (inband outband : Bool) (toneMs silenceMs : UInt32) :
    Option DtmfGenerator :=
  let inband := inband && stream.rxDescriptor.isSome
  let outband := outband && stream.rxEventDescriptor.isSome
  match stream.rxEventDescriptor <|> stream.rxDescriptor with
  | none => none
  | some descriptor =>
    if inband || outband then
      let sampleRateEvents := descriptor.samplingRate.toUInt32
      some
        { state := .idle
          inband := inband
          outband := outband
          queue := []
          eventId := 0
          toneDuration := sampleRateEvents / 1000 * toneMs
          silenceDuration := sampleRateEvents / 1000 * silenceMs
          counter := 0
          frameDuration := sampleRateEvents / 1000 * codecFrameTimeBase.toUInt32
          eventDuration := 0
          newSegment := false
          eventsPtime := codecFrameTimeBase.toUInt32
          sinceLastEvent := 0 }
    else none

def dtmfgenQueueLen : Nat := 32

/-- `mpf_dtmf_generator_enqueue`, of a string that ends at its first NUL. -/
def dtmfGeneratorEnqueue (generator : DtmfGenerator) (digits : Bytes) : DtmfGenerator × Bool :=
  let digits := digits.takeWhile (· != 0)
  if generator.queue.length + digits.length > dtmfgenQueueLen then (generator, false)
  else ({ generator with queue := generator.queue ++ digits }, true)

/-- The loop that takes the next valid digit from the queue: the last event identifier, and what is left. -/
def dtmfDigitTake (eventId : UInt8) : Bytes → UInt8 × Bytes
  | [] => (eventId, [])
  | digit :: queue =>
    let eventId := dtmfCharToEventId digit
    if eventId > dtmfEventIdMax then dtmfDigitTake eventId queue else (eventId, queue)

/-- The part of `mpf_dtmf_generator_put_frame` that takes the next digit, when the generator is idle. -/
def dtmfDigitStart (generator : DtmfGenerator) : DtmfGenerator :=
  if generator.state = .idle ∧ generator.queue ≠ [] then
    let r := dtmfDigitTake generator.eventId generator.queue
    let generator := { generator with eventId := r.1, queue := r.2 }
    if r.1 ≤ dtmfEventIdMax then
      { generator with
        state := .tone
        counter := 0
        eventDuration := 0
        sinceLastEvent := generator.eventsPtime
        newSegment := false }
    else generator
  else generator

theorem dtmfEventVolume_lt : 10 < 64 := by decide

def dtmfEventVolume : Fin 64 := ⟨10, dtmfEventVolume_lt⟩

def dtmfEventFrame (generator : DtmfGenerator) (frame : Frame) (marker : FrameMarker) (edge : Bool)
    (duration : UInt32) : Frame :=
  { frame with
    type := { frame.type with event := true }
    marker := marker
    eventFrame :=
      { eventId := generator.eventId, volume := dtmfEventVolume, edge := edge, duration := duration.toUInt16 } }

/-- The named event of the tone state. The tone is shortened a bit if its duration is too long for a segment. -/
def dtmfTonePut (generator : DtmfGenerator) (frame : Frame) : DtmfGenerator × Frame :=
  let long := generator.eventDuration > 0xFFFF
  let duration := if long then 0xFFFF else generator.eventDuration
  let eventDuration := if long then 0 else generator.eventDuration
  if generator.counter ≥ generator.toneDuration then
    ({ generator with
        state := .ending
        counter := 0
        newSegment := if long then true else generator.newSegment
        eventDuration := eventDuration },
      dtmfEventFrame generator frame .endOfEvent true duration)
  else
    -- the first chunk of the event, a new segment, or neither
    let first := generator.counter = generator.frameDuration
    let marker : FrameMarker :=
      if first then .startOfEvent else if generator.newSegment then .newSegment else .none
    let newSegment := if first then generator.newSegment else false
    ({ generator with newSegment := if long then true else newSegment, eventDuration := eventDuration },
      dtmfEventFrame generator frame marker false duration)

def dtmfAudioFrame (generator : DtmfGenerator) (frame : Frame) : Frame :=
  if generator.inband then { frame with type := { frame.type with audio := true } } else frame

/-- The tone state of `mpf_dtmf_generator_put_frame`. -/
def dtmfTone (generator : DtmfGenerator) (frame : Frame) : DtmfGenerator × Frame :=
  let generator :=
    { generator with
      counter := generator.counter + generator.frameDuration
      eventDuration := generator.eventDuration + generator.frameDuration }
  let frame := dtmfAudioFrame generator frame
  if generator.outband then
    let sinceLastEvent := generator.sinceLastEvent + codecFrameTimeBase.toUInt32
    if sinceLastEvent ≥ generator.eventsPtime then
      dtmfTonePut { generator with sinceLastEvent := 0 } frame
    else ({ generator with sinceLastEvent := sinceLastEvent }, frame)
  else if generator.counter ≥ generator.toneDuration then
    ({ generator with state := .silence, counter := 0 }, frame)
  else (generator, frame)

/-- The ending state of `mpf_dtmf_generator_put_frame`: the final packet is sent two times more. -/
def dtmfEnding (generator : DtmfGenerator) (frame : Frame) : DtmfGenerator × Frame :=
  let sinceLastEvent := generator.sinceLastEvent + codecFrameTimeBase.toUInt32
  if sinceLastEvent ≥ generator.eventsPtime then
    let generator := { generator with sinceLastEvent := 0, counter := generator.counter + 1 }
    let duration := if generator.newSegment then 0xFFFF else generator.eventDuration
    let frame := dtmfAudioFrame generator (dtmfEventFrame generator frame .endOfEvent true duration)
    if generator.counter ≥ 2 then
      ({ generator with state := .silence, counter := generator.counter * generator.frameDuration }, frame)
    else (generator, frame)
  else ({ generator with sinceLastEvent := sinceLastEvent }, frame)

/-- The silence state of `mpf_dtmf_generator_put_frame`. -/
def dtmfSilence (generator : DtmfGenerator) : DtmfGenerator :=
  let generator := { generator with counter := generator.counter + generator.frameDuration }
  if generator.counter ≥ generator.silenceDuration then { generator with state := .idle } else generator

/-- `mpf_dtmf_generator_put_frame`, which answers whether the frame is to be sent. -/
def dtmfGeneratorPutFrame (generator : DtmfGenerator) (frame : Frame) : DtmfGenerator × Frame × Bool :=
  let generator := dtmfDigitStart generator
  match generator.state with
  | .idle => (generator, frame, false)
  | .tone => ((dtmfTone generator frame).1, (dtmfTone generator frame).2, true)
  | .ending => ((dtmfEnding generator frame).1, (dtmfEnding generator frame).2, true)
  | .silence => (dtmfSilence generator, frame, false)

/-- `mpf_dtmf_detector_t` of an out-of-band detector. -/
structure DtmfDetector where
  buf : Bytes := []
  lostDigits : Nat := 0
  deriving DecidableEq

def dtmfdetBufferLen : Nat := 32

def dtmfDetectorAddDigit (detector : DtmfDetector) (digit : UInt8) : DtmfDetector :=
  if digit = 0 then detector
  else if detector.buf.length < dtmfdetBufferLen then { detector with buf := detector.buf ++ [digit] }
  else { detector with lostDigits := detector.lostDigits + 1 }

def dtmfDetectorGetFrame (detector : DtmfDetector) (frame : Frame) : DtmfDetector :=
  if frame.type.event ∧ frame.eventFrame.eventId ≤ dtmfEventIdMax ∧ frame.marker = .startOfEvent then
    dtmfDetectorAddDigit detector (eventIdToDtmfChar frame.eventFrame.eventId)
  else detector

/-- `mpf_dtmf_detector_digit_get`, which answers NUL if there is no digit. -/
def dtmfDetectorDigitGet (detector : DtmfDetector) : DtmfDetector × UInt8 :=
  match detector.buf with
  | [] => (detector, 0)
  | digit :: buf => ({ detector with buf := buf }, digit)

end UniMrcp.Mpf
