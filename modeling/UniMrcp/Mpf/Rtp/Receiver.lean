import UniMrcp.Mpf.JitterBuffer
import UniMrcp.Mpf.Rtcp.Packet

/-!
# The RTP receiver

The receiving part of `mpf_rtp_stream.c` on the data of `mpf_rtp_defs.h` and `mpf_rtp_stat.h`. A packet is taken as
its header was parsed, in host order. The signed arithmetic of the code wraps at 32 bits.
-/

namespace UniMrcp.Mpf

open Lib

/-! ## Data -/

def maxDropout : UInt16 := 3000

def maxMisorder : ℕ := 100

def rtpSeqMod : ℕ := 2 ^ 16

/-- `DISCARDED_TO_RECEIVED_RATIO_THRESHOLD`, in percent. -/
def discardedToReceivedRatioThreshold : UInt32 := 30

def deviationThreshold : Int32 := 4000

/-- `INTER_TALKSPURT_GAP`, in msec. -/
def interTalkspurtGap : Int32 := 1000

/-- The statistics of a receiver (`rtp_rx_stat_t`). -/
structure RtpRxStat where
  receivedPackets : UInt32
  invalidPackets : UInt32
  discardedPackets : UInt32
  ignoredPackets : UInt32
  lostPackets : UInt32
  restarts : UInt8
  deriving DecidableEq

/-- The history of a receiver (`rtp_rx_history_t`); times are in microseconds. -/
structure RtpRxHistory where
  seqCycles : UInt32
  seqNumBase : UInt16
  seqNumMax : UInt16
  tsLast : UInt32
  timeLast : Int64
  ssrcNew : UInt32
  ssrcProbation : UInt8
  deriving DecidableEq

/-- The history since the last report (`rtp_rx_periodic_history_t`). -/
structure RtpRxPeriodicHistory where
  receivedPrior : UInt32
  expectedPrior : UInt32
  discardedPrior : UInt32
  jitterMin : UInt32
  jitterMax : UInt32
  deriving DecidableEq

def RtpRxStat.reset : RtpRxStat := ⟨0, 0, 0, 0, 0, 0⟩

def RtpRxHistory.reset : RtpRxHistory := ⟨0, 0, 0, 0, 0, 0, 0⟩

def RtpRxPeriodicHistory.reset : RtpRxPeriodicHistory := ⟨0, 0, 0, 0, 0⟩

/-- The receiver (`rtp_receiver_t`), once its jitter buffer was created. -/
structure RtpReceiver where
  jb : JitterBuffer
  rrStat : RtcpRrStat
  stat : RtpRxStat
  history : RtpRxHistory
  periodicHistory : RtpRxPeriodicHistory

/-- `rtp_receiver_init`, with the jitter buffer that `mpf_rtp_rx_stream_open` creates. -/
def rtpReceiverInit (jb : JitterBuffer) : RtpReceiver :=
  { jb := jb, rrStat := .reset, stat := .reset, history := .reset, periodicHistory := .reset }

/-- A packet behind `rtp_rx_header_skip`: the fields that are used, the payload, and the payload read as a named event.
-/
structure RtpPacket where
  sequence : UInt16
  timestamp : UInt32
  ssrc : UInt32
  type : UInt8
  marker : Bool
  payload : Bytes
  namedEvent : NamedEventFrame

/-- What the stream expects: `rx_descriptor` with its payload type, and the payload type of `rx_event_descriptor`
where there is one. -/
structure RtpRxDescriptors where
  codec : CodecDescriptor
  payloadType : UInt8
  eventPayloadType : Option UInt8
  deriving DecidableEq

def rtpRxOverallStatReset (receiver : RtpReceiver) : RtpReceiver :=
  { receiver with stat := .reset, history := .reset, periodicHistory := .reset }

def rtpRxStatInit (receiver : RtpReceiver) (packet : RtpPacket) (time : Int64) : RtpReceiver :=
  { receiver with
    rrStat := { receiver.rrStat with ssrc := packet.ssrc }
    history := { receiver.history with
      seqNumBase := packet.sequence
      seqNumMax := packet.sequence
      tsLast := packet.timestamp
      timeLast := time } }

def rtpRxRestart (receiver : RtpReceiver) : RtpReceiver :=
  let restarts := receiver.stat.restarts + 1
  let receiver := rtpRxOverallStatReset receiver
  let receiver := { receiver with jb := jitterBufferRestart receiver.jb }
  { receiver with stat := { receiver.stat with restarts := restarts } }

/-- The number of packets expected since the last initialization, as `rtp_periodic_history_update` calculates it. -/
def expectedPackets (receiver : RtpReceiver) : UInt32 :=
  if receiver.stat.receivedPackets ≠ 0 then
    receiver.history.seqCycles + receiver.history.seqNumMax.toUInt32 - receiver.history.seqNumBase.toUInt32 + 1
  else 0

/-- `expected_interval` of `rtp_periodic_history_update`. -/
def expectedInterval (receiver : RtpReceiver) : UInt32 :=
  expectedPackets receiver - receiver.periodicHistory.expectedPrior

/-- `received_interval` of `rtp_periodic_history_update`. -/
def receivedInterval (receiver : RtpReceiver) : UInt32 :=
  receiver.stat.receivedPackets - receiver.periodicHistory.receivedPrior

/-- `lost_interval` of `rtp_periodic_history_update`. -/
def lostInterval (receiver : RtpReceiver) : UInt32 :=
  if expectedInterval receiver > receivedInterval receiver then
    expectedInterval receiver - receivedInterval receiver
  else 0

/-- `rtp_periodic_history_update`. The fraction is cut to 8 bits and the number of lost packets to 24. -/
def rtpPeriodicHistoryUpdate (receiver : RtpReceiver) : RtpReceiver :=
  { receiver with
    rrStat := { receiver.rrStat with
      fraction :=
        if expectedInterval receiver = 0 ∨ lostInterval receiver = 0 then 0
        else ((lostInterval receiver <<< 8) / expectedInterval receiver).toUInt8
      lost :=
        if expectedPackets receiver > receiver.stat.receivedPackets then
          (expectedPackets receiver - receiver.stat.receivedPackets).toBitVec.setWidth 24
        else 0 }
    periodicHistory :=
      { expectedPrior := expectedPackets receiver
        receivedPrior := receiver.stat.receivedPackets
        discardedPrior := receiver.stat.discardedPackets
        jitterMin := receiver.rrStat.jitter
        jitterMax := receiver.rrStat.jitter } }

/-- The report block of `rtcp_rr_generate`, before it is put in network order. -/
def rtcpRrGenerate (receiver : RtpReceiver) : RtcpRrStat :=
  { receiver.rrStat with lastSeq := receiver.history.seqNumMax.toUInt32 }

/-- `rtp_ssrc_result_e`. -/
inductive RtpSsrcResult where
  | update
  | probation
  | restart
  deriving DecidableEq

def rtpRxSsrcUpdate (receiver : RtpReceiver) (ssrc : UInt32) : RtpReceiver × RtpSsrcResult :=
  if receiver.rrStat.ssrc = ssrc then
    -- known ssrc
    if receiver.history.ssrcProbation ≠ 0 then
      ({ receiver with history := { receiver.history with ssrcProbation := 0, ssrcNew := 0 } }, .update)
    else (receiver, .update)
  else if receiver.history.ssrcNew = ssrc then
    let receiver :=
      { receiver with history := { receiver.history with ssrcProbation := receiver.history.ssrcProbation - 1 } }
    if receiver.history.ssrcProbation = 0 then
      ({ receiver with rrStat := { receiver.rrStat with ssrc := ssrc } }, .restart)
    else (receiver, .probation)
  else
    ({ receiver with history := { receiver.history with ssrcNew := ssrc, ssrcProbation := 5 } }, .probation)

theorem rtpRxSsrcUpdate_known {receiver : RtpReceiver} {ssrc : UInt32} (h : receiver.rrStat.ssrc = ssrc) :
    ∃ known, rtpRxSsrcUpdate receiver ssrc = (known, .update) ∧ known.rrStat = receiver.rrStat ∧
      known.history.tsLast = receiver.history.tsLast ∧ known.history.timeLast = receiver.history.timeLast := by
  rw [rtpRxSsrcUpdate, if_pos h]
  split
  · exact ⟨_, rfl, rfl, rfl, rfl⟩
  · exact ⟨_, rfl, rfl, rfl, rfl⟩

/-- `rtp_seq_result_e`. -/
inductive RtpSeqResult where
  | update
  | misorder
  | drift
  deriving DecidableEq

def rtpRxSeqUpdate (receiver : RtpReceiver) (seqNum : UInt16) : RtpReceiver × RtpSeqResult :=
  let seqDelta := seqNum - receiver.history.seqNumMax
  let counted :=
    { receiver with stat := { receiver.stat with receivedPackets := receiver.stat.receivedPackets + 1 } }
  if seqDelta < maxDropout then
    ({ counted with
        history := { receiver.history with
          seqCycles :=
            -- the sequence number wrapped
            if seqNum < receiver.history.seqNumMax then receiver.history.seqCycles + UInt32.ofNat rtpSeqMod
            else receiver.history.seqCycles
          seqNumMax := seqNum } }, .update)
  else if seqDelta.toNat ≤ rtpSeqMod - maxMisorder then (counted, .drift)
  else (counted, .misorder)

theorem rtpRxSeqUpdate_kept (receiver : RtpReceiver) (seqNum : UInt16) :
    (rtpRxSeqUpdate receiver seqNum).1.rrStat = receiver.rrStat ∧
      (rtpRxSeqUpdate receiver seqNum).1.history.tsLast = receiver.history.tsLast ∧
      (rtpRxSeqUpdate receiver seqNum).1.history.timeLast = receiver.history.timeLast := by
  rw [rtpRxSeqUpdate]
  split
  · exact ⟨rfl, rfl, rfl⟩
  · split <;> exact ⟨rfl, rfl, rfl⟩

/-- `rtp_ts_result_e`. -/
inductive RtpTsResult where
  | update
  | drift
  deriving DecidableEq

def rtpTimeDiff (receiver : RtpReceiver) (time : Int64) : Int32 := ((time - receiver.history.timeLast) / 1000).toInt32

/-- The deviation of `rtp_rx_ts_update`: the elapsed time in samples less the timestamps gone by, without its sign. -/
def rtpDeviation (receiver : RtpReceiver) (descriptor : CodecDescriptor) (time : Int64) (ts : UInt32) : Int32 :=
  let deviation := rtpTimeDiff receiver time * Int32.ofNat descriptor.channelCount.toNat *
    Int32.ofNat descriptor.samplingRate.toNat / 1000
  let deviation := (deviation.toUInt32 - (ts - receiver.history.tsLast)).toInt32
  if deviation < 0 then -deviation else deviation

def jitterUpdate (jitter : UInt32) (deviation : Int32) : UInt32 :=
  jitter + (deviation.toUInt32 - ((jitter + 8) >>> 4))

/-- `rtp_rx_ts_update`, which also gives the marker back. -/
def rtpRxTsUpdate (receiver : RtpReceiver) (descriptor : CodecDescriptor) (time : Int64) (ts : UInt32) (marker : Bool) :
    RtpReceiver × RtpTsResult × Bool :=
  let marker := if !marker && rtpTimeDiff receiver time > interTalkspurtGap then true else marker
  let deviation := rtpDeviation receiver descriptor time ts
  if deviation > deviationThreshold then (receiver, .drift, marker)
  else
    let jitter := jitterUpdate receiver.rrStat.jitter deviation
    ({ receiver with
        rrStat := { receiver.rrStat with jitter := jitter }
        history := { receiver.history with timeLast := time, tsLast := ts }
        periodicHistory := { receiver.periodicHistory with
          jitterMin := if jitter < receiver.periodicHistory.jitterMin then jitter
            else receiver.periodicHistory.jitterMin
          jitterMax := if jitter > receiver.periodicHistory.jitterMax then jitter
            else receiver.periodicHistory.jitterMax } }, .update, marker)

/-! ## Packets -/

/-- An initialization, the update of the sequence number, a deviation accumulated, a restart, and a write to the jitter
buffer. -/
inductive RtpRxEvent where
  | init (seqNum : UInt16)
  | seqUpdate (seqNum : UInt16)
  | deviation (deviation : Int32)
  | restart
  | write (payload : Bytes) (ts : UInt32) (marker : Bool)
  deriving DecidableEq

def rtpRxFailureThresholdCheck (receiver : RtpReceiver) : RtpReceiver × List RtpRxEvent :=
  let received := receiver.stat.receivedPackets - receiver.periodicHistory.receivedPrior
  let discarded := receiver.stat.discardedPackets - receiver.periodicHistory.discardedPrior
  if discarded * 100 > received * discardedToReceivedRatioThreshold then (rtpRxRestart receiver, [.restart])
  else (receiver, [])

def RtpReceiver.countDiscarded (receiver : RtpReceiver) : RtpReceiver :=
  { receiver with stat := { receiver.stat with discardedPackets := receiver.stat.discardedPackets + 1 } }

def RtpReceiver.countIgnored (receiver : RtpReceiver) : RtpReceiver :=
  { receiver with stat := { receiver.stat with ignoredPackets := receiver.stat.ignoredPackets + 1 } }

def RtpReceiver.countInvalid (receiver : RtpReceiver) : RtpReceiver :=
  { receiver with stat := { receiver.stat with invalidPackets := receiver.stat.invalidPackets + 1 } }

/-- A packet of the codec is written to the jitter buffer, and counted where the buffer discards it. -/
def rtpRxWrite (receiver : RtpReceiver) (packet : RtpPacket) (marker : Bool) : RtpReceiver × List RtpRxEvent :=
  let written := jitterBufferWrite receiver.jb packet.payload packet.timestamp marker
  let receiver := { receiver with jb := written.1 }
  if written.2 ≠ .ok then rtpRxFailureThresholdCheck receiver.countDiscarded else (receiver, [])

/-- The part of `rtp_rx_packet_receive` for a packet of the codec. -/
def rtpRxCodecReceive (receiver : RtpReceiver) (descriptor : CodecDescriptor) (time : Int64) (packet : RtpPacket) :
    RtpReceiver × Bool × List RtpRxEvent :=
  let updated := rtpRxTsUpdate receiver descriptor time packet.timestamp packet.marker
  if updated.2.1 = .drift then (rtpRxRestart updated.1, false, [.restart])
  else
    let written := rtpRxWrite updated.1 packet updated.2.2
    (written.1, true, .deviation (rtpDeviation receiver descriptor time packet.timestamp) ::
      .write packet.payload packet.timestamp updated.2.2 :: written.2)

/-- The part of `rtp_rx_packet_receive` for a named event. -/
def rtpRxEventReceive (receiver : RtpReceiver) (packet : RtpPacket) : RtpReceiver :=
  let written := jitterBufferEventWrite receiver.jb packet.namedEvent packet.timestamp packet.marker
  let receiver := { receiver with jb := written.1 }
  if written.2 ≠ .ok then receiver.countDiscarded else receiver

/-- The part of `rtp_rx_packet_receive` behind the update of the sequence number. -/
def rtpRxPayloadReceive (receiver : RtpReceiver) (descriptors : RtpRxDescriptors) (time : Int64) (packet : RtpPacket) :
    RtpReceiver × Bool × List RtpRxEvent :=
  if packet.type = descriptors.payloadType then rtpRxCodecReceive receiver descriptors.codec time packet
  else if some packet.type = descriptors.eventPayloadType then (rtpRxEventReceive receiver packet, true, [])
  else
    -- a CN packet, or an invalid payload type
    (receiver.countIgnored, true, [])

/-- The part of `rtp_rx_packet_receive` behind the update of the source. -/
def rtpRxSourceReceive (receiver : RtpReceiver) (descriptors : RtpRxDescriptors) (time : Int64) (packet : RtpPacket) :
    RtpReceiver × Bool × List RtpRxEvent :=
  let received := rtpRxPayloadReceive (rtpRxSeqUpdate receiver packet.sequence).1 descriptors time packet
  (received.1, received.2.1, .seqUpdate packet.sequence :: received.2.2)

/-- The initialization by the first packet in `rtp_rx_packet_receive`. -/
def rtpRxFirstInit (receiver : RtpReceiver) (time : Int64) (packet : RtpPacket) : RtpReceiver × List RtpRxEvent :=
  if receiver.stat.receivedPackets = 0 then (rtpRxStatInit receiver packet time, [.init packet.sequence])
  else (receiver, [])

/-- `rtp_rx_packet_receive`, where `none` is a packet that `rtp_rx_header_skip` refuses. -/
def rtpRxPacketReceive (receiver : RtpReceiver) (descriptors : RtpRxDescriptors) (time : Int64) :
    Option RtpPacket → RtpReceiver × Bool × List RtpRxEvent
  | none => (receiver.countInvalid, false, [])
  | some packet =>
    let first := rtpRxFirstInit receiver time packet
    let source := rtpRxSsrcUpdate first.1 packet.ssrc
    match source.2 with
    | .probation => (source.1.countInvalid, false, first.2)
    | .restart =>
      let received :=
        rtpRxSourceReceive (rtpRxStatInit (rtpRxRestart source.1) packet time) descriptors time packet
      (received.1, received.2.1, first.2 ++ .restart :: .init packet.sequence :: received.2.2)
    | .update =>
      let received := rtpRxSourceReceive source.1 descriptors time packet
      (received.1, received.2.1, first.2 ++ received.2.2)

/-- A packet arrives, a report is generated (with or without a direction), a frame is read, the receiver is opened with
a new jitter buffer or closed. -/
inductive RtpRxOp where
  | packet (descriptors : RtpRxDescriptors) (time : Int64) (packet : Option RtpPacket)
  | report (directed : Bool)
  | read (frame : Frame)
  | open (jb : JitterBuffer)
  | close

/-- `mpf_rtp_rx_stream_close`: the number of lost packets for the log. -/
def rtpRxStreamClose (receiver : RtpReceiver) : RtpReceiver :=
  { receiver with
    stat := { receiver.stat with
      lostPackets :=
        if expectedPackets receiver > receiver.stat.receivedPackets then
          expectedPackets receiver - receiver.stat.receivedPackets
        else 0 } }

/-- One operation. A report without a direction leaves the history as it is. -/
def rtpReceiverStep (receiver : RtpReceiver) : RtpRxOp → RtpReceiver × List RtpRxEvent
  | .packet descriptors time packet =>
    ((rtpRxPacketReceive receiver descriptors time packet).1, (rtpRxPacketReceive receiver descriptors time packet).2.2)
  | .report directed => (if directed then rtpPeriodicHistoryUpdate receiver else receiver, [])
  | .read frame => ({ receiver with jb := (jitterBufferRead receiver.jb frame).1 }, [])
  | .open jb => ({ receiver with jb := jb }, [])
  | .close => (rtpRxStreamClose receiver, [])

end UniMrcp.Mpf
