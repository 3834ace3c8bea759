import UniMrcp.Lib.Run
import UniMrcp.Mpf.Path.Codec

/-!
# Bridges, multipliers and mixers

The objects that carry frames from sources to sinks (`mpf_bridge.c`, `mpf_multiplier.c`, `mpf_mixer.c`), with the
decoders and encoders that are set around them.
-/

namespace UniMrcp.Mpf.Path

/-- `mpf_audio_stream_t`, and what the methods that open it return. -/
structure AudioStream where
  capabilities : Option CodecCapabilities
  rxDescriptor : Option CodecDescriptor := none
  rxEventDescriptor : Option CodecDescriptor := none
  txDescriptor : Option CodecDescriptor := none
  txEventDescriptor : Option CodecDescriptor := none
  rxOpens : Bool := true
  txOpens : Bool := true
deriving DecidableEq

def validated (capabilities : CodecCapabilities) (own peer : Option CodecDescriptor) : CodecDescriptor :=
  own.getD (codecDescriptorCreateByCapabilities capabilities peer)

def eventValidated (capabilities : CodecCapabilities) (own peer : Option CodecDescriptor) : Option CodecDescriptor :=
  own.or (if capabilities.allowNamedEvents then peer else none)

/-- `mpf_audio_stream_rx_validate` -/
def rxValidate (stream : AudioStream) (descriptor eventDescriptor : Option CodecDescriptor) : Option AudioStream :=
  stream.capabilities.map fun capabilities =>
    { stream with
      rxDescriptor := some (validated capabilities stream.rxDescriptor descriptor)
      rxEventDescriptor := eventValidated capabilities stream.rxEventDescriptor eventDescriptor }

/-- `mpf_audio_stream_tx_validate` -/
def txValidate (stream : AudioStream) (descriptor eventDescriptor : Option CodecDescriptor) : Option AudioStream :=
  stream.capabilities.map fun capabilities =>
    { stream with
      txDescriptor := some (validated capabilities stream.txDescriptor descriptor)
      txEventDescriptor := eventValidated capabilities stream.txEventDescriptor eventDescriptor }

/-- A stream as an object sees it: the descriptor of its frames, and the decoder or encoder before it with the
descriptor behind. -/
structure Endpoint where
  descriptor : Option CodecDescriptor
  converter : Option (Codec × CodecDescriptor) := none
deriving DecidableEq

/-- A decoder or an encoder is set (`mpf_decoder_create`, `mpf_encoder_create`), unless the descriptor is one of
linear PCM or there is no codec. -/
def converterSet (descriptor : Option CodecDescriptor) : Endpoint :=
  match descriptor with
  | none => ⟨none, none⟩
  | some own =>
    if lpcmDescriptorMatch own then ⟨some own, none⟩
    else
      match codecManagerCodecGet codecManager own with
      | none => ⟨some own, none⟩
      | some (codec, changed) =>
        ⟨some (lpcmDescriptorCreate changed.samplingRate changed.channelCount), some (codec, changed)⟩

/-! ## Creation -/

/-- An object that has been created. A bridge has one sink, and its frames are those of a codec if it is a null
bridge. -/
inductive MediaObject
  | distributor (source : Endpoint) (sinks : List Endpoint) (codec : Option Codec) (frameSize : Nat)
  | mixer (sources : List Endpoint) (sink : Endpoint) (frameSize : Nat)
deriving DecidableEq

def linearFrameSize (descriptor : Option CodecDescriptor) : Nat :=
  (descriptor.map fun descriptor => codecLinearFrameSize descriptor.samplingRate descriptor.channelCount).getD 0

def linearBridgeCreate (source sink : Endpoint) (opens : Bool) : Option MediaObject :=
  if opens then some (.distributor source [sink] none (linearFrameSize source.descriptor)) else none

/-- `mpf_null_bridge_create`, which the codec manager is asked about the descriptor of the source only. -/
def nullBridgeCreate (rx tx : CodecDescriptor) (opens : Bool) : Option MediaObject :=
  match codecManagerCodecGet codecManager rx with
  | none => none
  | some (codec, changed) =>
    if opens then
      some (.distributor ⟨some changed, none⟩ [⟨some tx, none⟩] (some codec) (codecFrameSize changed codec.attribs))
    else none

/-- The rates of the two ends of a bridge differ. There is no resampler (`mpf_resampler_create`). -/
def ratesDiffer (source sink : Endpoint) : Bool :=
  source.descriptor.map (·.samplingRate) != sink.descriptor.map (·.samplingRate)

/-- `mpf_bridge_create`, of two streams that are not NULL. -/
def bridgeCreate (source sink : AudioStream) : Option MediaObject := do
  let source ← rxValidate source sink.txDescriptor sink.txEventDescriptor
  let sink ← txValidate sink source.rxDescriptor source.rxEventDescriptor
  let rx ← source.rxDescriptor
  let tx ← sink.txDescriptor
  let opens := source.rxOpens && sink.txOpens
  if codecDescriptorsMatch rx tx then nullBridgeCreate rx tx opens
  else
    let source := converterSet (some rx)
    let sink := converterSet (some tx)
    if ratesDiffer source sink then none else linearBridgeCreate source sink opens

/-- A source or a sink of an array, which is left as it is if it is not valid. -/
def arrayEndpoint (own : Option CodecDescriptor) (validated : Option CodecDescriptor) : Endpoint :=
  match validated with
  | none => ⟨own, none⟩
  | some descriptor => converterSet (some descriptor)

def sinkEndpoint (sink : AudioStream) : Endpoint :=
  arrayEndpoint sink.txDescriptor ((txValidate sink none none).bind (·.txDescriptor))

def sourceEndpoint (source : AudioStream) : Endpoint :=
  arrayEndpoint source.rxDescriptor ((rxValidate source none none).bind (·.rxDescriptor))

/-- `mpf_multiplier_create`, of a source and an array that are not NULL. Whether the streams open is not looked at. -/
def multiplierCreate (source : AudioStream) (sinkArr : List (Option AudioStream)) : Option MediaObject :=
  if sinkArr = [] then none
  else
    source.capabilities.map fun _ =>
      let source := sourceEndpoint source
      .distributor source (sinkArr.reduceOption.map sinkEndpoint) none (linearFrameSize source.descriptor)

/-- `mpf_mixer_create`, of an array and a sink that are not NULL. -/
def mixerCreate (sourceArr : List (Option AudioStream)) (sink : AudioStream) : Option MediaObject :=
  if sourceArr = [] then none
  else
    sink.capabilities.map fun _ =>
      let sink := sinkEndpoint sink
      .mixer (sourceArr.reduceOption.map sourceEndpoint) sink (linearFrameSize sink.descriptor)

/-! ## Frames -/

/-- The size of the codec frame, and the formats of its audio: not known if frames of a codec are taken for linear ones.
-/
structure Frame where
  size : Nat
  audio : List (Option Format) := []
deriving DecidableEq

/-- What a source does when it is read: it has no audio, it has a frame of its own, or it fills the frame that it
gets. -/
inductive Read
  | nothing
  | frame
  | filled
deriving DecidableEq

/-- The format of the frames of an endpoint: linear ones, or those of the codec of a null bridge. -/
def Endpoint.format (codec : Option Codec) (e : Endpoint) : Option Format :=
  e.descriptor.bind fun descriptor =>
    if codec.isSome || lpcmDescriptorMatch descriptor then some descriptor.toFormat else none

def Endpoint.frameSize (codec : Option Codec) (e : Endpoint) : Nat :=
  match codec, e.descriptor with
  | some codec, some descriptor => codecFrameSize descriptor codec.attribs
  | _, _ => linearFrameSize e.descriptor

/-- The size of a frame that an endpoint has of its own. A decoder sets the size that it decodes to. -/
def Endpoint.ownSize (codec : Option Codec) (e : Endpoint) : Nat :=
  match e.converter with
  | some (codec, descriptor) => codec.vtable.decodedSize (codecFrameSize descriptor codec.attribs)
  | none => e.frameSize codec

/-- `read_frame`, into a frame of some size. A decoder does not fill the frame: it decodes a frame of its own. -/
def Endpoint.read (codec : Option Codec) (e : Endpoint) (size : Nat) : Read → Frame
  | .nothing => ⟨size, []⟩
  | .frame => ⟨e.ownSize codec, [e.format codec]⟩
  | .filled => ⟨if e.converter.isSome then e.ownSize codec else size, [e.format codec]⟩

/-- The loop of `mpf_mixer_process` for one source: `mpf_frames_mix` mixes frames of the same size only. -/
def mixNext (r : Nat × Frame) (read : Endpoint × Read) : Nat × Frame :=
  let frame := read.1.read none r.1 read.2
  (frame.size, if r.2.size = frame.size then { r.2 with audio := r.2.audio ++ frame.audio } else r.2)

structure MediaPath where
  object : MediaObject
  size : Nat

def MediaObject.frameSize : MediaObject → Nat
  | .distributor _ _ _ frameSize => frameSize
  | .mixer _ _ frameSize => frameSize

def MediaObject.start (object : MediaObject) : MediaPath := ⟨object, object.frameSize⟩

def MediaObject.sources : MediaObject → List Endpoint
  | .distributor source _ _ _ => [source]
  | .mixer sources _ _ => sources

def MediaObject.codec : MediaObject → Option Codec
  | .distributor _ _ codec _ => codec
  | .mixer _ _ _ => none

/-- `mpf_bridge_process`, `mpf_null_bridge_process`, `mpf_multiplier_process` and `mpf_mixer_process`: what the sources
do, and the frames that the sinks are passed. -/
def MediaPath.step (p : MediaPath) (reads : List Read) : MediaPath × List (Frame × Endpoint) :=
  match p.object with
  | .distributor source sinks codec _ =>
    let frame := source.read codec p.size (reads.headD .nothing)
    (⟨p.object, frame.size⟩, sinks.map fun sink => (frame, sink))
  | .mixer sources sink frameSize =>
    let r := (sources.zip reads).foldl mixNext (p.size, ⟨frameSize, []⟩)
    (⟨p.object, r.1⟩, [(r.2, sink)])

end UniMrcp.Mpf.Path
