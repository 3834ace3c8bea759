import UniMrcp.Lib.Run
import UniMrcp.Mpf.Frame
import UniMrcp.Mpf.Rtcp.Packet

/-!
# The RTP transmitter

The transmitting part of `mpf_rtp_stream.c`: codec frames are put together to packets, events are sent at once.
-/

namespace UniMrcp.Mpf

open Lib List

/-! ## Data -/

structure RtpTxHeader where
  marker : Bool := false
  type : UInt8 := 0
  sequence : UInt16 := 0
  timestamp : UInt32 := 0
  ssrc : UInt32 := 0
  deriving DecidableEq

/-- `rtp_transmitter_t`, with the header and the payload in `packet_data`. -/
structure RtpTransmitter where
  ptime : UInt16 := 0
  packetFrames : UInt16 := 0
  currentFrames : UInt16 := 0
  samplesPerFrame : UInt32 := 0
  inactivity : Bool := false
  lastSeqNum : UInt16 := 0
  timestamp : UInt32 := 0
  timestampBase : UInt32 := 0
  packetHeader : RtpTxHeader := {}
  packetPayload : Bytes := []
  packetSize : ℕ := 0
  srStat : RtcpSrStat := .reset
  deriving DecidableEq

/-- What transmitting uses of a stream: the descriptors and the codec, `ptime`, and whether a talkspurt ends with an
RTCP packet. -/
structure RtpTxStream where
  descriptor : CodecDescriptor
  attribs : CodecAttribs
  payloadType : UInt8
  eventPayloadType : Option UInt8
  settingsPtime : Option UInt16
  byePerTalkspurt : Bool
  deriving DecidableEq

def RtpTxStream.frameSize (stream : RtpTxStream) : ℕ := codecFrameSizeCalculate stream.descriptor stream.attribs

/-- `sizeof(rtp_header_t)` -/
def rtpHeaderSize : ℕ := 12

/-- `sizeof(mpf_named_event_frame_t)` -/
def namedEventSize : UInt32 := 4

def ptimeOf (stream : RtpTxStream) (transmitter : RtpTransmitter) : UInt16 :=
  if transmitter.ptime = 0 then
    match stream.settingsPtime with
    | some ptime => if ptime ≠ 0 then ptime else 20
    | none => 20
  else transmitter.ptime

def rtpTxStreamOpen (stream : RtpTxStream) (transmitter : RtpTransmitter) : RtpTransmitter :=
  { transmitter with
    ptime := ptimeOf stream transmitter
    packetFrames := ptimeOf stream transmitter / UInt16.ofNat codecFrameTimeBase
    currentFrames := 0
    inactivity := true }

/-- The bytes that are allocated for `packet_data`. -/
def allocatedSize (stream : RtpTxStream) (transmitter : RtpTransmitter) : ℕ :=
  rtpHeaderSize + transmitter.packetFrames.toNat * stream.frameSize

/-- A frame is copied into `packet_data` up to `packetSize`; audio or an event is handed to the socket; a talkspurt
ends. -/
inductive RtpTxEvent where
  | copied (packetSize : ℕ)
  | data (header : RtpTxHeader) (payload : Bytes)
  | event (header : RtpTxHeader) (namedEvent : NamedEventFrame)
  | bye
  deriving DecidableEq

def rtpHeaderPrepare (transmitter : RtpTransmitter) (payloadType : UInt8) (marker : Bool) (timestamp : UInt32) :
    RtpTxHeader :=
  { marker := marker, type := payloadType, timestamp := timestamp, ssrc := transmitter.srStat.ssrc }

def RtpTransmitter.countSent (transmitter : RtpTransmitter) (octets : UInt32) : RtpTransmitter :=
  { transmitter with
    srStat := { transmitter.srStat with
      sentPackets := transmitter.srStat.sentPackets + 1
      sentOctets := transmitter.srStat.sentOctets + octets } }

/-- The copy of a frame in `mpf_rtp_data_send`, behind what is in the packet. -/
def rtpDataCopy (transmitter : RtpTransmitter) (frame : Frame) : RtpTransmitter :=
  { transmitter with
    packetPayload := transmitter.packetPayload.take (transmitter.packetSize - rtpHeaderSize) ++
      frame.codecFrame.buffer.take frame.codecFrame.size
    packetSize := transmitter.packetSize + frame.codecFrame.size
    currentFrames := transmitter.currentFrames + 1 }

/-- `mpf_rtp_data_send`, where `taken` is the success of `apr_socket_sendto`. -/
def rtpDataSend (transmitter : RtpTransmitter) (frame : Frame) (taken : Bool) :
    RtpTransmitter × Bool × List RtpTxEvent :=
  let transmitter := rtpDataCopy transmitter frame
  let copied := RtpTxEvent.copied transmitter.packetSize
  if transmitter.currentFrames = transmitter.packetFrames then
    let transmitter := { transmitter with lastSeqNum := transmitter.lastSeqNum + 1, currentFrames := 0 }
    let sent := RtpTxEvent.data { transmitter.packetHeader with sequence := transmitter.lastSeqNum }
      (transmitter.packetPayload.take (transmitter.packetSize - rtpHeaderSize))
    if taken then
      (transmitter.countSent (UInt32.ofNat transmitter.packetSize - UInt32.ofNat rtpHeaderSize), true, [copied, sent])
    else (transmitter, false, [copied, sent])
  else (transmitter, true, [copied])

def rtpEventSend (transmitter : RtpTransmitter) (payloadType : UInt8) (frame : Frame) (taken : Bool) :
    RtpTransmitter × Bool × List RtpTxEvent :=
  let header := rtpHeaderPrepare transmitter payloadType (frame.marker = .startOfEvent) transmitter.timestampBase
  let transmitter := { transmitter with lastSeqNum := transmitter.lastSeqNum + 1 }
  let sent := RtpTxEvent.event { header with sequence := transmitter.lastSeqNum }
    { frame.eventFrame with edge := frame.marker = .endOfEvent }
  if taken then (transmitter.countSent namedEventSize, true, [sent]) else (transmitter, false, [sent])

def Frame.hasCodecFrame (frame : Frame) : Bool := frame.type = .none || frame.type.audio

/-- A frame of the codec, and whether the socket takes the packet of its event and that of its audio. -/
structure TxFrame (frameSize : ℕ) where
  frame : Frame
  sized : frame.hasCodecFrame →
    frame.codecFrame.size = frameSize ∧ frame.codecFrame.buffer.length = frameSize
  eventTaken : Bool
  audioTaken : Bool

/-- The part of `mpf_rtp_stream_transmit` for a frame without media. -/
def transmitNone (stream : RtpTxStream) (transmitter : RtpTransmitter) (frame : Frame) (taken : Bool) :
    RtpTransmitter × Bool × List RtpTxEvent :=
  if transmitter.inactivity then (transmitter, true, [])
  else if transmitter.currentFrames = 0 then
    ({ transmitter with inactivity := true }, true, if stream.byePerTalkspurt then [.bye] else [])
  else rtpDataSend transmitter frame taken

/-- The part of `mpf_rtp_stream_transmit` for an event. -/
def transmitEvent (stream : RtpTxStream) (transmitter : RtpTransmitter) (frame : Frame) (taken : Bool) :
    RtpTransmitter × Bool × List RtpTxEvent :=
  match stream.eventPayloadType with
  | none => (transmitter, true, [])
  | some payloadType =>
    let transmitter :=
      if frame.marker = .startOfEvent ∨ frame.marker = .newSegment then
        { transmitter with timestampBase := transmitter.timestamp }
      else transmitter
    rtpEventSend transmitter payloadType frame taken

def rtpPacketStart (stream : RtpTxStream) (transmitter : RtpTransmitter) : RtpTransmitter :=
  { transmitter with
    packetHeader := rtpHeaderPrepare transmitter stream.payloadType transmitter.inactivity transmitter.timestamp
    packetSize := rtpHeaderSize
    inactivity := false }

/-- The part of `mpf_rtp_stream_transmit` for audio. -/
def transmitAudio (stream : RtpTxStream) (transmitter : RtpTransmitter) (frame : Frame) (taken : Bool) :
    RtpTransmitter × Bool × List RtpTxEvent :=
  rtpDataSend (if transmitter.currentFrames = 0 then rtpPacketStart stream transmitter else transmitter) frame taken

def rtpStreamTransmit (stream : RtpTxStream) (transmitter : RtpTransmitter) (input : TxFrame stream.frameSize) :
    RtpTransmitter × Bool × List RtpTxEvent :=
  let transmitter := { transmitter with timestamp := transmitter.timestamp + transmitter.samplesPerFrame }
  let frame := input.frame
  if frame.type = .none then transmitNone stream transmitter frame input.audioTaken
  else
    let event :=
      if frame.type.event then transmitEvent stream transmitter frame input.eventTaken else (transmitter, true, [])
    if frame.type.audio then
      let audio := transmitAudio stream event.1 frame input.audioTaken
      (audio.1, audio.2.1, event.2.2 ++ audio.2.2)
    else event

/-! ## The packets that a transmitter sends -/

/-- A codec frame: its timestamp, whether it has audio, and its bytes. -/
structure TxItem where
  timestamp : UInt32
  audio : Bool
  data : Bytes
  deriving DecidableEq

structure AudioPacket where
  marker : Bool
  timestamp : UInt32
  payload : Bytes
  deriving DecidableEq

def dataOf (items : List TxItem) : Bytes := items.flatMap TxItem.data

def Silent (items : List TxItem) : Prop := ∀ item ∈ items, item.audio = false

/-- Frames cut into packets of `n` frames, the first of which has audio. What is between them is silent. The marker is
set in the first packet of all, and behind silence. -/
inductive Blocks (n : ℕ) : List TxItem → List AudioPacket → Prop
  | nil : Blocks n [] []
  | packet {items gap rest : List TxItem} {packets : List AudioPacket} {first : TxItem}
      (before : Blocks n items packets) (silent : Silent gap) (audio : first.audio)
      (length : rest.length + 1 = n) :
      Blocks n (items ++ gap ++ first :: rest)
        (packets ++ [⟨decide (items = [] ∨ gap ≠ []), first.timestamp, dataOf (first :: rest)⟩])

/-- The number of calls, the codec frames that were passed, and what happened. -/
structure TxLog where
  calls : ℕ := 0
  items : List TxItem := []
  events : List RtpTxEvent := []
  deriving DecidableEq

def audioPackets (events : List RtpTxEvent) : List AudioPacket :=
  events.filterMap fun
    | .data header payload => some ⟨header.marker, header.timestamp, payload⟩
    | _ => none

def sequences (events : List RtpTxEvent) : List UInt16 :=
  events.filterMap fun
    | .data header _ => some header.sequence
    | .event header _ => some header.sequence
    | _ => none

def itemsOf (timestamp : UInt32) (frame : Frame) : List TxItem :=
  if frame.hasCodecFrame then
    [⟨timestamp, frame.type.audio, frame.codecFrame.buffer.take frame.codecFrame.size⟩]
  else []

/-- A call of `mpf_rtp_stream_transmit`, with the history. -/
def loggedTransmit (stream : RtpTxStream) (s : RtpTransmitter × TxLog) (input : TxFrame stream.frameSize) :
    (RtpTransmitter × TxLog) × Bool :=
  let sent := rtpStreamTransmit stream s.1 input
  ((sent.1,
    { calls := s.2.calls + 1
      items := s.2.items ++ itemsOf (s.1.timestamp + s.1.samplesPerFrame) input.frame
      events := s.2.events ++ sent.2.2 }), sent.2.1)

/-- **What has to hold** of a transmitter that was opened as `start`: its packets are those of the frames, and the rest
of these waits; no copy goes beyond the end of the packet; sequence numbers count up; and timestamps count the calls. -/
structure Packetised (stream : RtpTxStream) (start : RtpTransmitter) (s : RtpTransmitter × TxLog) : Prop where
  packets : ∃ blocks gap waiting, s.2.items = blocks ++ gap ++ waiting ∧ Silent gap ∧
    Blocks start.packetFrames.toNat blocks (audioPackets s.2.events) ∧
    (waiting = [] ∨ waiting.length < start.packetFrames.toNat ∧ (waiting.head?.map TxItem.audio) = some true)
  fits : ∀ size, .copied size ∈ s.2.events → size ≤ allocatedSize stream start
  numbered : sequences s.2.events =
    (List.range (sequences s.2.events).length).map fun i => start.lastSeqNum + UInt16.ofNat (i + 1)
  clock : s.1.timestamp = start.timestamp + start.samplesPerFrame * UInt32.ofNat s.2.calls

/-! ## The invariant -/

/-- The sequence numbers so far, of which `last` is the last one. -/
structure Numbered (start : RtpTransmitter) (last : UInt16) (numbers : List UInt16) : Prop where
  last : last = start.lastSeqNum + UInt16.ofNat numbers.length
  count : numbers = (List.range numbers.length).map fun i => start.lastSeqNum + UInt16.ofNat (i + 1)

theorem Numbered.next {start : RtpTransmitter} {last : UInt16} {numbers : List UInt16}
    (h : Numbered start last numbers) : Numbered start (last + 1) (numbers ++ [last + 1]) := by
  have hn : last + 1 = start.lastSeqNum + UInt16.ofNat (numbers.length + 1) := by
    rw [UInt16.ofNat_add, ← UInt16.add_assoc, ← h.last]
    rfl
  constructor
  · rw [length_append, length_singleton]
    exact hn
  · rw [length_append, length_singleton, range_succ, map_append, ← h.count, map_singleton,
      ← hn]

/-- A packet that is being filled with the frames `waiting`, which have `size` bytes each. -/
structure Packing (size : ℕ) (t : RtpTransmitter) (marker : Bool) (timestamp : UInt32) (waiting : List TxItem) :
    Prop where
  marker : t.packetHeader.marker = marker
  timestamp : t.packetHeader.timestamp = timestamp
  payload : t.packetPayload.take (t.packetSize - rtpHeaderSize) = dataOf waiting
  data : (dataOf waiting).length = waiting.length * size
  packetSize : t.packetSize = rtpHeaderSize + waiting.length * size
  current : t.currentFrames.toNat = waiting.length
  active : t.inactivity = false

/-- The frames and the packets so far: either silence goes on behind the last packet, or the next one is being
filled. -/
inductive Waits (size n : ℕ) (t : RtpTransmitter) : List TxItem → List AudioPacket → Prop
  | idle {items gap : List TxItem} {packets : List AudioPacket} (before : Blocks n items packets)
      (silent : Silent gap) (current : t.currentFrames = 0)
      (inactivity : t.inactivity = decide (items = [] ∨ gap ≠ [])) : Waits size n t (items ++ gap) packets
  | filling {items gap rest : List TxItem} {packets : List AudioPacket} {first : TxItem}
      (before : Blocks n items packets) (silent : Silent gap) (audio : first.audio) (lt : rest.length + 1 < n)
      (packing : Packing size t (decide (items = [] ∨ gap ≠ [])) first.timestamp (first :: rest)) :
      Waits size n t (items ++ gap ++ first :: rest) packets

/-- The invariant of a run from `start`. -/
structure Filling (stream : RtpTxStream) (start t : RtpTransmitter) (items : List TxItem)
    (events : List RtpTxEvent) : Prop where
  frames : t.packetFrames = start.packetFrames
  fits : ∀ size, .copied size ∈ events → size ≤ allocatedSize stream start
  numbered : Numbered start t.lastSeqNum (sequences events)
  waits : Waits stream.frameSize start.packetFrames.toNat t items (audioPackets events)

theorem filling_open (stream : RtpTxStream) (transmitter : RtpTransmitter) :
    Filling stream (rtpTxStreamOpen stream transmitter) (rtpTxStreamOpen stream transmitter) [] [] where
  frames := rfl
  fits := nofun
  numbered := ⟨(UInt16.add_zero _).symm, rfl⟩
  waits := Waits.idle .nil (fun _ h => absurd h not_mem_nil) rfl rfl

@[simp] theorem sequences_append (es fs : List RtpTxEvent) : sequences (es ++ fs) = sequences es ++ sequences fs :=
  filterMap_append

@[simp] theorem audioPackets_append (es fs : List RtpTxEvent) :
    audioPackets (es ++ fs) = audioPackets es ++ audioPackets fs := filterMap_append

/-! ## One frame that is copied -/

section DataSend

variable {stream : RtpTxStream} {start t : RtpTransmitter} {frame : Frame} {waiting : List TxItem} {size : ℕ}
  {marker : Bool} {timestamp : UInt32} {item : TxItem}

theorem Packing.copy (h : Packing size t marker timestamp waiting)
    (hs : frame.codecFrame.size = size ∧ frame.codecFrame.buffer.length = size)
    (hi : item.data = frame.codecFrame.buffer.take frame.codecFrame.size)
    (hlt : waiting.length < t.packetFrames.toNat) :
    Packing size (rtpDataCopy t frame) marker timestamp (waiting ++ [item]) := by
  have hd : dataOf (waiting ++ [item]) = dataOf waiting ++ frame.codecFrame.buffer.take frame.codecFrame.size := by
    rw [dataOf, flatMap_append, flatMap_singleton, hi]
    rfl
  have hn : (frame.codecFrame.buffer.take frame.codecFrame.size).length = size := by
    rw [length_take, hs.1, hs.2, Nat.min_self]
  have hl : (dataOf (waiting ++ [item])).length = (waiting ++ [item]).length * size := by
    rw [hd, length_append, hn, h.data, length_append, length_singleton, Nat.succ_mul]
  have hp : (rtpDataCopy t frame).packetSize = rtpHeaderSize + (waiting ++ [item]).length * size := by
    show t.packetSize + frame.codecFrame.size = _
    rw [h.packetSize, hs.1, length_append, length_singleton, Nat.succ_mul, Nat.add_assoc]
  refine ⟨h.marker, h.timestamp, ?_, hl, hp, ?_, h.active⟩
  · rw [hp, Nat.add_sub_cancel_left, ← hl]
    show (t.packetPayload.take (t.packetSize - rtpHeaderSize) ++ _).take _ = _
    rw [h.payload, ← hd, take_length]
  · show (t.currentFrames + 1).toNat = _
    have hb := t.packetFrames.toNat_lt
    rw [UInt16.toNat_add, h.current, length_append, length_singleton]
    exact Nat.mod_eq_of_lt (by simp only [UInt16.toNat_one]; omega)

theorem dataSend_waits (h : Packing size (rtpDataCopy t frame) marker timestamp waiting)
    (hlt : waiting.length < t.packetFrames.toNat) (taken : Bool) :
    rtpDataSend t frame taken =
      (rtpDataCopy t frame, true, [.copied (rtpHeaderSize + waiting.length * size)]) := by
  have hne : (rtpDataCopy t frame).currentFrames ≠ (rtpDataCopy t frame).packetFrames := by
    intro heq
    have hc := h.current
    rw [heq] at hc
    exact absurd hc hlt.ne'
  rw [rtpDataSend, if_neg hne, h.packetSize]

theorem dataSend_sends (h : Packing size (rtpDataCopy t frame) marker timestamp waiting)
    (hf : waiting.length = t.packetFrames.toNat) (taken : Bool) :
    (rtpDataSend t frame taken).1.packetFrames = t.packetFrames ∧
    (rtpDataSend t frame taken).1.currentFrames = 0 ∧ (rtpDataSend t frame taken).1.inactivity = false ∧
    (rtpDataSend t frame taken).1.lastSeqNum = t.lastSeqNum + 1 ∧
    ∃ header : RtpTxHeader, header.marker = marker ∧ header.timestamp = timestamp ∧
      header.sequence = t.lastSeqNum + 1 ∧
      (rtpDataSend t frame taken).2.2 =
        [.copied (rtpHeaderSize + waiting.length * size), .data header (dataOf waiting)] := by
  have heq : (rtpDataCopy t frame).currentFrames = (rtpDataCopy t frame).packetFrames :=
    UInt16.toNat_inj.1 (h.current.trans hf)
  have hp : (rtpDataCopy t frame).packetPayload.take ((rtpDataCopy t frame).packetSize - rtpHeaderSize) =
      dataOf waiting := h.payload
  unfold rtpDataSend
  dsimp only
  rw [if_pos heq, hp]
  cases taken with
  | true =>
    exact ⟨rfl, rfl, h.active, rfl, { t.packetHeader with sequence := t.lastSeqNum + 1 }, h.marker, h.timestamp, rfl, by
      rw [h.packetSize]
      rfl⟩
  | false =>
    exact ⟨rfl, rfl, h.active, rfl, { t.packetHeader with sequence := t.lastSeqNum + 1 }, h.marker, h.timestamp, rfl, by
      rw [h.packetSize]
      rfl⟩

theorem dataSend_filling {items gap rest : List TxItem} {events : List RtpTxEvent} {first : TxItem}
    (hf : t.packetFrames = start.packetFrames)
    (ht : ∀ size, .copied size ∈ events → size ≤ allocatedSize stream start)
    (hnm : Numbered start t.lastSeqNum (sequences events))
    (hb : Blocks start.packetFrames.toNat items (audioPackets events)) (hsl : Silent gap)
    (hn : waiting ++ [item] = first :: rest) (hd : first.audio)
    (hpc : Packing stream.frameSize t (decide (items = [] ∨ gap ≠ [])) first.timestamp waiting)
    (hs : frame.codecFrame.size = stream.frameSize ∧ frame.codecFrame.buffer.length = stream.frameSize)
    (hi : item.data = frame.codecFrame.buffer.take frame.codecFrame.size)
    (hlt : waiting.length < start.packetFrames.toNat) (taken : Bool) :
    Filling stream start (rtpDataSend t frame taken).1 (items ++ gap ++ (waiting ++ [item]))
      (events ++ (rtpDataSend t frame taken).2.2) := by
  have hc := hpc.copy hs hi (hf ▸ hlt)
  have hl : (waiting ++ [item]).length = waiting.length + 1 := by simp
  have hrm : rtpHeaderSize + (waiting ++ [item]).length * stream.frameSize ≤ allocatedSize stream start := by
    rw [hl]
    exact Nat.add_le_add_left (Nat.mul_le_mul_right _ hlt) _
  have hrs : rest.length + 1 = waiting.length + 1 := by
    rw [← hl, hn, length_cons]
  have ht' : ∀ size, size = rtpHeaderSize + (waiting ++ [item]).length * stream.frameSize →
      size ≤ allocatedSize stream start := fun size hs => hs ▸ hrm
  by_cases hfl : waiting.length + 1 = start.packetFrames.toNat
  · obtain ⟨hk, hr, ha, hq, header, hmr, hts, hsq, he⟩ :=
      dataSend_sends hc (by rw [hl, hfl, hf]) taken
    refine ⟨hk.trans hf, ?_, ?_, ?_⟩
    · intro size hm
      rw [he] at hm
      rcases mem_append.1 hm with hm | hm
      · exact ht size hm
      · exact ht' size (by simpa using hm)
    · rw [he, sequences_append, hq,
        show sequences [_, .data header _] = [header.sequence] from rfl, hsq]
      exact hnm.next
    · have hp := Blocks.packet hb hsl hd (hrs.trans hfl)
      rw [he, audioPackets_append, hn,
        show audioPackets [_, .data header _] = [⟨header.marker, header.timestamp, _⟩] from rfl, hmr, hts]
      have ha' : (rtpDataSend t frame taken).1.inactivity =
          decide (items ++ gap ++ first :: rest = [] ∨ ([] : List TxItem) ≠ []) := by
        rw [ha]
        simp
      have hidl : Waits stream.frameSize _ (rtpDataSend t frame taken).1 (items ++ gap ++ first :: rest ++ []) _ :=
        .idle hp (fun _ h => absurd h not_mem_nil) hr ha'
      rwa [append_nil] at hidl
  · have he := dataSend_waits hc (by rw [hl, hf]; omega) taken
    rw [he]
    refine ⟨hf, ?_, ?_, ?_⟩
    · intro size hm
      rcases mem_append.1 hm with hm | hm
      · exact ht size hm
      · exact ht' size (by simpa using hm)
    · rw [sequences_append, show sequences [.copied _] = [] from rfl, append_nil]
      exact hnm
    · rw [audioPackets_append, show audioPackets [.copied _] = [] from rfl, append_nil]
      rw [hn] at hc ⊢
      exact .filling hb hsl hd (by omega) hc

end DataSend

/-! ## One call -/

structure SameFilling (t t' : RtpTransmitter) : Prop where
  packetFrames : t'.packetFrames = t.packetFrames
  currentFrames : t'.currentFrames = t.currentFrames
  inactivity : t'.inactivity = t.inactivity
  packetHeader : t'.packetHeader = t.packetHeader
  packetPayload : t'.packetPayload = t.packetPayload
  packetSize : t'.packetSize = t.packetSize

theorem Silent.snoc {items : List TxItem} (h : Silent items) (item : TxItem) (hi : item.audio = false) :
    Silent (items ++ [item]) := by
  intro x hx
  rcases mem_append.1 hx with ho | hn
  · exact h x ho
  · rw [mem_singleton.1 hn]
    exact hi

variable {packets : List AudioPacket}

theorem Waits.active {size n : ℕ} {t : RtpTransmitter} {items : List TxItem} (h : Waits size n t items packets)
    (hc : t.currentFrames ≠ 0) : t.inactivity = false := by
  cases h with
  | idle before silent current inactivity => exact absurd current hc
  | filling before silent audio lt packing => exact packing.active

theorem Waits.congr {size n : ℕ} {t t' : RtpTransmitter} {items : List TxItem} (h : Waits size n t items packets)
    (hs : SameFilling t t') : Waits size n t' items packets := by
  cases h with
  | idle before silent current inactivity =>
    exact .idle before silent (hs.currentFrames.trans current) (hs.inactivity.trans inactivity)
  | filling before silent audio lt packing =>
    refine .filling before silent audio lt ⟨?_, ?_, ?_, packing.data, ?_, ?_, ?_⟩
    · rw [hs.packetHeader]
      exact packing.marker
    · rw [hs.packetHeader]
      exact packing.timestamp
    · rw [hs.packetPayload, hs.packetSize]
      exact packing.payload
    · rw [hs.packetSize]
      exact packing.packetSize
    · rw [hs.currentFrames]
      exact packing.current
    · rw [hs.inactivity]
      exact packing.active

section Transmit

variable {stream : RtpTxStream} {start t t' : RtpTransmitter} {frame : Frame} {items : List TxItem}
  {events : List RtpTxEvent}

theorem Filling.congr (h : Filling stream start t items events) (hs : SameFilling t t')
    (hq : t'.lastSeqNum = t.lastSeqNum) : Filling stream start t' items events where
  frames := hs.packetFrames.trans h.frames
  fits := h.fits
  numbered := by
    rw [hq]
    exact h.numbered
  waits := h.waits.congr hs

theorem event_filling (h : Filling stream start t items events) (frame : Frame) (taken : Bool) :
    Filling stream start (transmitEvent stream t frame taken).1 items
      (events ++ (transmitEvent stream t frame taken).2.2) := by
  cases ht : stream.eventPayloadType with
  | none =>
    simp only [transmitEvent, ht, append_nil]
    exact h
  | some payloadType =>
    obtain ⟨hs, hq, header, namedEvent, hsq, he⟩ :
        SameFilling t (transmitEvent stream t frame taken).1 ∧
          (transmitEvent stream t frame taken).1.lastSeqNum = t.lastSeqNum + 1 ∧ ∃ header namedEvent,
            RtpTxHeader.sequence header = t.lastSeqNum + 1 ∧
              (transmitEvent stream t frame taken).2.2 = [.event header namedEvent] := by
      simp only [transmitEvent, ht, rtpEventSend]
      cases taken with
      | true => split_ifs <;> exact ⟨⟨rfl, rfl, rfl, rfl, rfl, rfl⟩, rfl, _, _, rfl, rfl⟩
      | false => split_ifs <;> exact ⟨⟨rfl, rfl, rfl, rfl, rfl, rfl⟩, rfl, _, _, rfl, rfl⟩
    rw [he]
    refine ⟨hs.packetFrames.trans h.frames, ?_, ?_, ?_⟩
    · intro size hm
      exact h.fits size (by simpa using hm)
    · rw [sequences_append, show sequences [.event header _] = [header.sequence] from rfl, hsq, hq]
      exact h.numbered.next
    · rw [audioPackets_append, show audioPackets [.event header _] = [] from rfl, append_nil]
      exact h.waits.congr hs

theorem Filling.copy (h : Filling stream start t items events) (hc : t.currentFrames ≠ 0) (item : TxItem)
    (hs : frame.codecFrame.size = stream.frameSize ∧ frame.codecFrame.buffer.length = stream.frameSize)
    (hi : item.data = frame.codecFrame.buffer.take frame.codecFrame.size) (taken : Bool) :
    Filling stream start (rtpDataSend t frame taken).1 (items ++ [item])
      (events ++ (rtpDataSend t frame taken).2.2) := by
  obtain ⟨hf, ht, hn, hw⟩ := h
  generalize hp : audioPackets events = packets at hw
  cases hw with
  | idle before silent current inactivity => exact absurd current hc
  | filling before silent audio lt packing =>
    subst hp
    rw [append_assoc]
    exact dataSend_filling hf ht hn before silent rfl audio packing hs hi lt taken

theorem none_filling (h : Filling stream start t items events) (timestamp : UInt32)
    (hz : frame.codecFrame.size = stream.frameSize ∧ frame.codecFrame.buffer.length = stream.frameSize)
    (taken : Bool) :
    Filling stream start (transmitNone stream t frame taken).1
      (items ++ [⟨timestamp, false, frame.codecFrame.buffer.take frame.codecFrame.size⟩])
      (events ++ (transmitNone stream t frame taken).2.2) := by
  by_cases hc : t.currentFrames = 0
  · obtain ⟨hf, ht, hn, hw⟩ := h
    generalize hp : audioPackets events = packets at hw
    cases hw with
    | idle before silent current inactivity =>
      subst hp
      rw [append_assoc]
      have hs := silent.snoc ⟨timestamp, false, frame.codecFrame.buffer.take frame.codecFrame.size⟩ rfl
      cases ha : t.inactivity with
      | true =>
        have hl : transmitNone stream t frame taken = (t, true, []) := by
          rw [transmitNone, if_pos ha]
        rw [hl, append_nil]
        exact ⟨hf, ht, hn, .idle before hs hc (by rw [ha]; simp)⟩
      | false =>
        have hl : transmitNone stream t frame taken =
            ({ t with inactivity := true }, true, if stream.byePerTalkspurt then [.bye] else []) := by
          rw [transmitNone, ha, if_neg Bool.false_ne_true, if_pos hc]
        rw [hl]
        refine ⟨hf, ?_, ?_, ?_⟩
        · intro size hm
          cases hb : stream.byePerTalkspurt <;> exact ht size (by simpa [hb] using hm)
        · cases hb : stream.byePerTalkspurt <;> simpa [hb, sequences] using hn
        · have hpc : audioPackets (events ++ if stream.byePerTalkspurt then [.bye] else []) =
              audioPackets events := by
            cases hb : stream.byePerTalkspurt <;> simp [audioPackets]
          rw [hpc]
          exact .idle before hs hc (by simp)
    | filling before silent audio lt packing =>
      have hwa := packing.current
      rw [hc] at hwa
      cases hwa
  · have ha := h.waits.active hc
    have hl : transmitNone stream t frame taken = rtpDataSend t frame taken := by
      rw [transmitNone, ha, if_neg Bool.false_ne_true, if_neg hc]
    rw [hl]
    exact h.copy hc _ hz rfl taken

theorem audio_filling (h : Filling stream start t items events) (hps : 0 < start.packetFrames.toNat)
    (hs : frame.codecFrame.size = stream.frameSize ∧ frame.codecFrame.buffer.length = stream.frameSize)
    (taken : Bool) :
    Filling stream start (transmitAudio stream t frame taken).1
      (items ++ [⟨t.timestamp, true, frame.codecFrame.buffer.take frame.codecFrame.size⟩])
      (events ++ (transmitAudio stream t frame taken).2.2) := by
  by_cases hc : t.currentFrames = 0
  · obtain ⟨hf, ht, hn, hw⟩ := h
    generalize hp : audioPackets events = packets at hw
    cases hw with
    | idle before silent current inactivity =>
      subst hp
      have hcn : [] ++ [TxItem.mk t.timestamp true (frame.codecFrame.buffer.take frame.codecFrame.size)] =
          [TxItem.mk t.timestamp true (frame.codecFrame.buffer.take frame.codecFrame.size)] := rfl
      have hl : transmitAudio stream t frame taken = rtpDataSend (rtpPacketStart stream t) frame taken := by
        rw [transmitAudio, if_pos hc]
      have hf' : (rtpPacketStart stream t).packetFrames = start.packetFrames := hf
      rw [hl]
      refine dataSend_filling hf' ht hn before silent hcn rfl ?_ hs rfl hps taken
      refine ⟨inactivity, rfl, ?_, by simp [dataOf], by simp [rtpPacketStart], congrArg UInt16.toNat hc, rfl⟩
      rw [show (rtpPacketStart stream t).packetSize - rtpHeaderSize = 0 from rfl, take_zero]
      rfl
    | filling before silent audio lt packing =>
      have hwa := packing.current
      rw [hc] at hwa
      cases hwa
  · have hl : transmitAudio stream t frame taken = rtpDataSend t frame taken := by
      rw [transmitAudio, if_neg hc]
    rw [hl]
    exact h.copy hc _ hs rfl taken

def RtpTransmitter.tick (t : RtpTransmitter) : RtpTransmitter := { t with timestamp := t.timestamp + t.samplesPerFrame }

def transmitEvents (stream : RtpTxStream) (t : RtpTransmitter) (input : TxFrame stream.frameSize) :
    RtpTransmitter × Bool × List RtpTxEvent :=
  if input.frame.type.event then transmitEvent stream t input.frame input.eventTaken else (t, true, [])

theorem events_filling (h : Filling stream start t items events) (input : TxFrame stream.frameSize) :
    Filling stream start (transmitEvents stream t input).1 items (events ++ (transmitEvents stream t input).2.2) := by
  unfold transmitEvents
  split_ifs
  · exact event_filling h input.frame input.eventTaken
  · rw [append_nil]
    exact h

theorem timestamp_events (input : TxFrame stream.frameSize) :
    (transmitEvents stream t input).1.timestamp = t.timestamp := by
  unfold transmitEvents transmitEvent rtpEventSend
  cases stream.eventPayloadType with
  | none => split_ifs <;> rfl
  | some payloadType => split_ifs <;> rfl

theorem transmit_filling (h : Filling stream start t items events) (input : TxFrame stream.frameSize)
    (ho : 0 < start.packetFrames.toNat ∨ input.frame.type.audio = false) :
    Filling stream start (rtpStreamTransmit stream t input).1
      (items ++ itemsOf (t.timestamp + t.samplesPerFrame) input.frame)
      (events ++ (rtpStreamTransmit stream t input).2.2) := by
  have ht : Filling stream start t.tick items events := h.congr ⟨rfl, rfl, rfl, rfl, rfl, rfl⟩ rfl
  by_cases hn : input.frame.type = .none
  · have hl : rtpStreamTransmit stream t input = transmitNone stream t.tick input.frame input.audioTaken := by
      rw [rtpStreamTransmit, if_pos hn]
      rfl
    have hc : input.frame.hasCodecFrame = true := by simp [Frame.hasCodecFrame, hn]
    rw [hl, itemsOf, if_pos hc, hn]
    exact none_filling ht _ (input.sized hc) input.audioTaken
  · have he := events_filling ht input
    cases ha : input.frame.type.audio with
    | true =>
      have hl : rtpStreamTransmit stream t input =
          ((transmitAudio stream (transmitEvents stream t.tick input).1 input.frame input.audioTaken).1,
            (transmitAudio stream (transmitEvents stream t.tick input).1 input.frame input.audioTaken).2.1,
            (transmitEvents stream t.tick input).2.2 ++
              (transmitAudio stream (transmitEvents stream t.tick input).1 input.frame input.audioTaken).2.2) := by
        rw [rtpStreamTransmit, if_neg hn, if_pos ha]
        rfl
      have hc : input.frame.hasCodecFrame = true := by simp [Frame.hasCodecFrame, ha]
      have hf := audio_filling he (ho.resolve_right (by simp [ha])) (input.sized hc)
        input.audioTaken
      rw [timestamp_events] at hf
      rw [hl, itemsOf, if_pos hc, ha, ← append_assoc]
      exact hf
    | false =>
      have hl : rtpStreamTransmit stream t input = transmitEvents stream t.tick input := by
        rw [rtpStreamTransmit, if_neg hn, ha]
        rfl
      have hc : ¬ input.frame.hasCodecFrame = true := by simp [Frame.hasCodecFrame, hn, ha]
      rw [hl, itemsOf, if_neg hc, append_nil]
      exact he

end Transmit

def RtpTransmitter.clock (t : RtpTransmitter) : UInt32 × UInt32 := (t.timestamp, t.samplesPerFrame)

section Clock

variable {stream : RtpTxStream} (t : RtpTransmitter) (frame : Frame) (taken : Bool)

theorem clock_dataSend : (rtpDataSend t frame taken).1.clock = t.clock := by
  unfold rtpDataSend
  dsimp only
  split_ifs <;> rfl

theorem clock_transmitNone : (transmitNone stream t frame taken).1.clock = t.clock := by
  rw [transmitNone]
  split
  · rfl
  · split
    · rfl
    · exact clock_dataSend t frame taken

theorem clock_transmitEvent : (transmitEvent stream t frame taken).1.clock = t.clock := by
  unfold transmitEvent rtpEventSend
  cases stream.eventPayloadType with
  | none => rfl
  | some payloadType =>
    cases taken with
    | true => dsimp only; split_ifs <;> rfl
    | false => dsimp only; split_ifs <;> rfl

theorem clock_transmitAudio : (transmitAudio stream t frame taken).1.clock = t.clock := by
  unfold transmitAudio
  rw [clock_dataSend]
  split_ifs <;> rfl

theorem clock_transmit (input : TxFrame stream.frameSize) :
    (rtpStreamTransmit stream t input).1.clock = (t.timestamp + t.samplesPerFrame, t.samplesPerFrame) := by
  unfold rtpStreamTransmit
  dsimp only
  split_ifs
  · exact clock_transmitNone _ _ _
  · exact (clock_transmitAudio _ _ _).trans (clock_transmitEvent _ _ _)
  · exact clock_transmitAudio _ _ _
  · exact clock_transmitEvent _ _ _
  · rfl

end Clock

/-! ## Runs -/

structure Transmitted (stream : RtpTxStream) (start : RtpTransmitter) (s : RtpTransmitter × TxLog) : Prop where
  filling : Filling stream start s.1 s.2.items s.2.events
  clock : s.1.timestamp = start.timestamp + start.samplesPerFrame * UInt32.ofNat s.2.calls
  samples : s.1.samplesPerFrame = start.samplesPerFrame

section Run

variable {stream : RtpTxStream} {start : RtpTransmitter} {s : RtpTransmitter × TxLog}

theorem transmitted_open (stream : RtpTxStream) (transmitter : RtpTransmitter) :
    Transmitted stream (rtpTxStreamOpen stream transmitter) (rtpTxStreamOpen stream transmitter, {}) where
  filling := filling_open stream transmitter
  clock := by simp
  samples := rfl

theorem clock_logged (h : Transmitted stream start s) (input : TxFrame stream.frameSize) :
    (loggedTransmit stream s input).1.1.timestamp =
        start.timestamp + start.samplesPerFrame * UInt32.ofNat (loggedTransmit stream s input).1.2.calls ∧
      (loggedTransmit stream s input).1.1.samplesPerFrame = start.samplesPerFrame := by
  have hc := clock_transmit s.1 input
  have ht : (rtpStreamTransmit stream s.1 input).1.timestamp = s.1.timestamp + s.1.samplesPerFrame :=
    congrArg Prod.fst hc
  refine ⟨?_, (congrArg Prod.snd hc).trans h.samples⟩
  show (rtpStreamTransmit stream s.1 input).1.timestamp =
    start.timestamp + start.samplesPerFrame * UInt32.ofNat (s.2.calls + 1)
  rw [ht, h.clock, h.samples, UInt32.ofNat_add, show UInt32.ofNat 1 = 1 from rfl]
  grind

theorem transmitted_step (h : Transmitted stream start s) (input : TxFrame stream.frameSize)
    (ho : 0 < start.packetFrames.toNat ∨ input.frame.type.audio = false) :
    Transmitted stream start (loggedTransmit stream s input).1 where
  filling := transmit_filling h.filling input ho
  clock := (clock_logged h input).1
  samples := (clock_logged h input).2

theorem Transmitted.packetised (h : Transmitted stream start s) : Packetised stream start s where
  packets := by
    have hw := h.filling.waits
    generalize s.2.items = items at hw ⊢
    generalize audioPackets s.2.events = packets at hw ⊢
    cases hw with
    | idle before silent current inactivity => exact ⟨_, _, [], (append_nil _).symm, silent, before, .inl rfl⟩
    | filling before silent audio lt packing =>
      exact ⟨_, _, _, rfl, silent, before, .inr ⟨lt, congrArg some audio⟩⟩
  fits := h.filling.fits
  numbered := h.filling.numbered.count
  clock := h.clock

theorem silent_of_packetised (h : Packetised stream start s) (hz : start.packetFrames.toNat = 0) :
    Silent s.2.items := by
  obtain ⟨blocks, gap, waiting, hi, hs, hb, hw⟩ := h.packets
  have hn : blocks = [] := by
    generalize audioPackets s.2.events = packets at hb
    cases hb with
    | nil => rfl
    | packet before silent audio length => omega
  have he : waiting = [] := hw.resolve_right fun hlt => by omega
  rw [hi, hn, he, nil_append, append_nil]
  exact hs

theorem not_packetised (hz : start.packetFrames.toNat = 0) {input : TxFrame stream.frameSize}
    (ha : input.frame.type.audio) : ¬ Packetised stream start (loggedTransmit stream s input).1 := by
  intro h
  have hc : input.frame.hasCodecFrame = true := by simp [Frame.hasCodecFrame, ha]
  have hs := silent_of_packetised h hz
    ⟨s.1.timestamp + s.1.samplesPerFrame, input.frame.type.audio,
      input.frame.codecFrame.buffer.take input.frame.codecFrame.size⟩
    (mem_append_right _ (by
      rw [itemsOf, if_pos hc]
      exact mem_singleton.2 rfl))
  exact absurd (ha.symm.trans hs) nofun

end Run

theorem packetFrames_pos_iff (stream : RtpTxStream) (transmitter : RtpTransmitter) :
    0 < (rtpTxStreamOpen stream transmitter).packetFrames.toNat ↔ 10 ≤ (ptimeOf stream transmitter).toNat := by
  show 0 < (ptimeOf stream transmitter / 10).toNat ↔ _
  rw [UInt16.toNat_div, show (10 : UInt16).toNat = 10 from rfl]
  omega

/-- **The transmitter sends its frames in packets**, in every run, exactly when the packetization time is at least that
of a frame, or where there is no audio. -/
theorem packetised_iff (stream : RtpTxStream) (transmitter : RtpTransmitter)
    (inputs : List (TxFrame stream.frameSize)) :
    EachStep (loggedTransmit stream) (fun s input => Packetised stream (rtpTxStreamOpen stream transmitter)
        (loggedTransmit stream s input).1) (rtpTxStreamOpen stream transmitter, {}) inputs ↔
      ∀ input ∈ inputs, 10 ≤ (ptimeOf stream transmitter).toNat ∨ input.frame.type.audio = false := by
  have hforall : EachStep (loggedTransmit stream)
      (fun _ input => 10 ≤ (ptimeOf stream transmitter).toNat ∨ input.frame.type.audio = false)
      (rtpTxStreamOpen stream transmitter, {}) inputs ↔ _ := eachStep_forall_iff _
  rw [← hforall]
  refine eachStep_iff_of_invariant (Transmitted stream (rtpTxStreamOpen stream transmitter)) _ _ ?_ ?_ _ inputs
    (transmitted_open stream transmitter)
  · intro s input h hok
    rw [← packetFrames_pos_iff] at hok
    exact transmitted_step h input hok
  · intro s input h
    rw [← packetFrames_pos_iff]
    constructor
    · intro hright
      by_contra hnot
      obtain ⟨hzero, haudio⟩ := not_or.1 hnot
      exact not_packetised (Nat.eq_zero_of_not_pos hzero) (by simpa using haudio) hright
    · exact fun hok => (transmitted_step h input hok).packetised

def shortStream : RtpTxStream := ⟨⟨8000, 1⟩, ⟨8⟩, 0, none, some 5, false⟩

def audioInput : TxFrame shortStream.frameSize where
  frame := { (default : Frame) with
    type := { audio := true }, codecFrame := { buffer := List.replicate 80 0, size := 80 } }
  sized := fun _ => by decide
  eventTaken := true
  audioTaken := true

/-- The first frame is copied beyond the end of the packet. -/
theorem not_packetised_short : ¬ ∀ stream transmitter (inputs : List (TxFrame stream.frameSize)),
    EachStep (loggedTransmit stream) (fun s input => Packetised stream (rtpTxStreamOpen stream transmitter)
      (loggedTransmit stream s input).1) (rtpTxStreamOpen stream transmitter, {}) inputs := by
  intro h
  have hfirst := (h shortStream {} [audioInput]).1
  exact absurd (hfirst.fits 92 (by decide)) (by decide)

end UniMrcp.Mpf
