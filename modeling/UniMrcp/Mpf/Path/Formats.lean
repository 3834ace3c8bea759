import Mathlib.Data.List.ReduceOption
import UniMrcp.Mpf.Path.MediaObject

/-!
# The formats of a media path
-/

namespace UniMrcp.Mpf.Path

open Apt Lib List
open Option (some.inj isSome_iff_exists some_ne_none map_some isSome_some)

/-! ## Objects -/

/-- The frame that a sink is passed has its size, and all audio in it is of its format. -/
def Matches (codec : Option Codec) (passed : Frame × Endpoint) : Prop :=
  ∃ f, passed.2.format codec = some f ∧ passed.1.size = passed.2.frameSize codec ∧ ∀ g ∈ passed.1.audio, g = some f

/-- The sources have formats, their frames fit into the buffer, and in every run of `process` the sinks are passed
frames of their formats. -/
structure Arranged (o : MediaObject) : Prop where
  buffers : ∀ e ∈ o.sources, (e.format o.codec).isSome ∧ e.frameSize o.codec ≤ o.frameSize
  frames : ∀ reads, EachStep MediaPath.step (fun p r => ∀ passed ∈ (p.step r).2, Matches o.codec passed) o.start reads

def formatSize (codec : Option Codec) (f : Format) : Nat :=
  match codec with
  | some codec => codecFrameSizeCalculate f ⟨codec.attribs.bitsPerSample⟩
  | none => codecLinearFrameSize f.samplingRate f.channelCount

theorem frameSize_of_format {codec : Option Codec} {e : Endpoint} {f : Format} (h : e.format codec = some f) :
    e.frameSize codec = formatSize codec f := by
  obtain ⟨descriptor, hd, hf⟩ := Option.bind_eq_some_iff.1 h
  unfold Endpoint.frameSize
  rw [hd]
  split at hf
  · obtain rfl := some.inj hf
    cases codec <;> rfl
  · cases hf

def Endpoint.Exact (codec : Option Codec) (e : Endpoint) : Prop := e.ownSize codec = e.frameSize codec

theorem exact_converterSet (descriptor : Option CodecDescriptor) : (converterSet descriptor).Exact none := by
  unfold converterSet
  split
  · rfl
  · split
    · rfl
    · split
      · rfl
      · rename_i codec changed hg
        exact decodedSize_eq hg

section Distributor

variable {source : Endpoint} {codec : Option Codec}

theorem size_read (he : source.Exact codec) (r : Read) :
    (source.read codec (source.frameSize codec) r).size = source.frameSize codec := by
  cases r with
  | nothing => rfl
  | frame => exact he
  | filled =>
    show (if _ then _ else _) = _
    split
    · exact he
    · rfl

theorem audio_read {size : Nat} {r : Read} : ∀ g ∈ (source.read codec size r).audio, g = source.format codec := by
  cases r with
  | nothing => exact nofun
  | frame => exact fun g hg => mem_singleton.1 hg
  | filled => exact fun g hg => mem_singleton.1 hg

theorem distributor_arranged_iff (source : Endpoint) (codec : Option Codec) (sinks : List Endpoint)
    (hx : source.Exact codec) :
    Arranged (.distributor source sinks codec (source.frameSize codec)) ↔
      ∃ f, source.format codec = some f ∧ ∀ sink ∈ sinks, sink.format codec = some f := by
  constructor
  · intro h
    obtain ⟨f, hf⟩ := isSome_iff_exists.1 (h.buffers source (mem_singleton.2 rfl)).1
    refine ⟨f, hf, fun sink hs => ?_⟩
    -- the source has a frame of its own
    have ht := (h.frames [[.frame]]).1
    obtain ⟨g, hg, -, ha⟩ := ht (_, sink) (mem_map.2 ⟨sink, hs, rfl⟩)
    have hfg : some f = some g := by
      rw [← hf]
      exact ha _ (mem_singleton.2 rfl)
    exact hg.trans hfg.symm
  · rintro ⟨f, hf, hsi⟩
    constructor
    · intro e he
      obtain rfl := mem_singleton.1 he
      exact ⟨isSome_iff_exists.2 ⟨f, hf⟩, Nat.le_refl _⟩
    · intro reads
      -- the size that is left in the frame is always that of the source
      refine eachStep_of_invariant
        (fun p => p = ⟨.distributor source sinks codec (source.frameSize codec), source.frameSize codec⟩)
        (fun _ _ => True) _ ?_ ?_ _ reads rfl (eachStep_true _ _)
      · rintro p r rfl -
        exact congrArg (MediaPath.mk _) (size_read hx _)
      · rintro p r rfl - passed hp
        obtain ⟨sink, hs, rfl⟩ := mem_map.1 hp
        have hr := hsi sink hs
        refine ⟨f, hr, ?_, fun g hg => (audio_read g hg).trans hf⟩
        exact (size_read hx _).trans ((frameSize_of_format hf).trans (frameSize_of_format hr).symm)

end Distributor

section Mixer

variable {sources : List Endpoint} {sink : Endpoint} {f : Format}

/-- Audio that is mixed has the format of the sink: the source has it, or is decoded to smaller frames, which are not
mixed. -/
def Mixes (f : Format) (e : Endpoint) : Prop :=
  ∃ g, e.format none = some g ∧ (g = f ∨ e.converter.isSome ∧ formatSize none g < formatSize none f)

def MixOf (f : Format) (mix : Frame) : Prop := mix.size = formatSize none f ∧ ∀ g ∈ mix.audio, g = some f

variable {r : Nat × Frame}

theorem mixOf_next {e : Endpoint} (hx : e.Exact none) (he : Mixes f e) (h : MixOf f r.2) (read : Read) :
    MixOf f (mixNext r (e, read)).2 := by
  obtain ⟨g, hg, hf⟩ := he
  have ho : e.ownSize none = formatSize none g := hx.trans (frameSize_of_format hg)
  have ha (hfg : g = f) : MixOf f { r.2 with audio := r.2.audio ++ [e.format none] } := by
    refine ⟨h.1, fun g' hg' => ?_⟩
    rcases mem_append.1 hg' with hg' | hg'
    · exact h.2 g' hg'
    · rw [mem_singleton.1 hg', hg, hfg]
  unfold mixNext
  dsimp only
  split
  · rename_i hs
    rw [h.1] at hs
    cases read with
    | nothing => simpa [Endpoint.read] using h
    | frame =>
      refine ha (hf.resolve_right fun hm => ?_)
      have hs : formatSize none f = e.ownSize none := hs
      omega
    | filled =>
      refine ha (hf.resolve_right fun hm => ?_)
      have hs : formatSize none f = e.ownSize none := hs.trans (if_pos hm.1)
      omega
  · exact h

theorem mixOf_foldl (he : ∀ e ∈ sources, e.Exact none) (hm : ∀ e ∈ sources, Mixes f e)
    {reads : List (Endpoint × Read)} (hr : ∀ p ∈ reads, p.1 ∈ sources) (h : MixOf f r.2) :
    MixOf f (reads.foldl mixNext r).2 := by
  induction reads generalizing r with
  | nil => exact h
  | cons p reads ih =>
    have hp := hr p mem_cons_self
    exact ih (fun q hq => hr q (mem_cons_of_mem _ hq)) (mixOf_next (he _ hp) (hm _ hp) h p.2)

theorem foldl_nothing (es : List Endpoint) (r : Nat × Frame) :
    (es.map fun e => (e, Read.nothing)).foldl mixNext r = r := by
  induction es with
  | nil => rfl
  | cons e es ih =>
    have hn : mixNext r (e, .nothing) = r := by
      show (r.1, if r.2.size = r.1 then { r.2 with audio := r.2.audio ++ [] } else r.2) = r
      split <;> simp
    rw [map_cons, foldl_cons, hn, ih]

theorem foldl_one (before after : List Endpoint) (e : Endpoint) (read : Read) (r : Nat × Frame) :
    ((before ++ e :: after).zip (before.map (fun _ => Read.nothing) ++ [read])).foldl mixNext r =
      mixNext r (e, read) := by
  rw [zip_append (by simp), foldl_append]
  have hb : before.zip (before.map fun _ => Read.nothing) = before.map fun e => (e, Read.nothing) := by
    rw [zip_map_right, zip_eq_zipWith, zipWith_self, map_map]
    rfl
  rw [hb, foldl_nothing]
  simp

theorem mixer_arranged_iff (sink : Endpoint) (hx : ∀ e ∈ sources, e.Exact none) :
    Arranged (.mixer sources sink (sink.frameSize none)) ↔
      ∃ f, sink.format none = some f ∧ ∀ e ∈ sources, Mixes f e := by
  constructor
  · intro h
    have hm (reads : List Read) := (h.frames [reads]).1 (_, sink) (mem_singleton.2 rfl)
    obtain ⟨f, hf, -, -⟩ := hm []
    have hf : sink.format none = some f := hf
    have hn : sink.frameSize none = formatSize none f := frameSize_of_format hf
    refine ⟨f, hf, fun e he => ?_⟩
    obtain ⟨hsm, hb⟩ := h.buffers e he
    obtain ⟨g, hg⟩ := isSome_iff_exists.1 hsm
    have hg : e.format none = some g := hg
    refine ⟨g, hg, ?_⟩
    have hle : formatSize none g ≤ formatSize none f := by
      rw [← frameSize_of_format hg, ← hn]
      exact hb
    have ho : e.ownSize none = formatSize none g := (hx e he).trans (frameSize_of_format hg)
    obtain ⟨before, after, rfl⟩ := append_of_mem he
    -- the source alone has audio, and it is mixed
    have hmx (read : Read) (hs : (e.read none (formatSize none f) read).size = formatSize none f)
        (hd : (e.read none (formatSize none f) read).audio = [e.format none]) : g = f := by
      obtain ⟨f', hf', -, ha⟩ := hm (before.map (fun _ => .nothing) ++ [read])
      obtain rfl := some.inj (hf.symm.trans hf')
      have hl := foldl_one before after e read (sink.frameSize none, ⟨sink.frameSize none, []⟩)
      have hmix : e.format none ∈ (((before ++ e :: after).zip (before.map (fun _ => Read.nothing) ++ [read])).foldl
          mixNext (sink.frameSize none, ⟨sink.frameSize none, []⟩)).2.audio := by
        rw [hl, hn]
        simp [mixNext, hs, hd]
      exact some.inj (hg.symm.trans (ha _ hmix))
    by_cases hc : e.converter.isSome
    · rcases Nat.lt_or_eq_of_le hle with hlt | heq
      · exact Or.inr ⟨hc, hlt⟩
      · exact Or.inl (hmx .frame (ho.trans heq) rfl)
    · exact Or.inl (hmx .filled (if_neg hc) rfl)
  · rintro ⟨f, hf, hmi⟩
    have hs := frameSize_of_format hf
    constructor
    · intro e he
      obtain ⟨g, hg, ht⟩ := hmi e he
      refine ⟨isSome_iff_exists.2 ⟨g, hg⟩, ?_⟩
      show e.frameSize none ≤ sink.frameSize none
      rw [frameSize_of_format hg, hs]
      rcases ht with rfl | ⟨-, hlt⟩
      · exact Nat.le_refl _
      · omega
    · intro reads
      refine eachStep_of_invariant (fun p => p.object = .mixer sources sink (sink.frameSize none))
        (fun _ _ => True) _ ?_ ?_ _ reads rfl (eachStep_true _ _)
      · rintro ⟨object, size⟩ r rfl -
        rfl
      · rintro ⟨object, size⟩ r rfl - passed hps
        obtain rfl := mem_singleton.1 hps
        have hl : MixOf f ((sources.zip r).foldl mixNext (size, ⟨sink.frameSize none, []⟩)).2 :=
          mixOf_foldl hx hmi (fun p hp => (of_mem_zip hp).1) ⟨hs, nofun⟩
        exact ⟨f, hf, hl.1.trans hs.symm, hl.2⟩

end Mixer

/-! ## Streams -/

def lpcmFormat (descriptor : CodecDescriptor) : Option Format :=
  if lpcmDescriptorMatch descriptor then some descriptor.toFormat else none

/-- The format of the linear frames of a descriptor: its own, or that to which its codec decodes. -/
def linearFormat (descriptor : CodecDescriptor) : Option Format :=
  if lpcmDescriptorMatch descriptor then some descriptor.toFormat
  else (codecManagerCodecGet codecManager descriptor).map fun r => r.2.toFormat

/-- The format of the linear frames of a stream of a multiplier or a mixer. A stream without capabilities is left as it
is. -/
def streamFormat (capabilities : Option CodecCapabilities) (own : Option CodecDescriptor) : Option Format :=
  match capabilities with
  | some capabilities => linearFormat (validated capabilities own none)
  | none => own.bind lpcmFormat

/-- The frames of two descriptors are of the same format. Nothing is asked without a codec, or if linear rates differ.
-/
def DescriptorsFit (rx tx : CodecDescriptor) : Prop :=
  if codecDescriptorsMatch rx tx then
    ∀ codec changed, codecManagerCodecGet codecManager rx = some (codec, changed) → changed.toFormat = tx.toFormat
  else
    ((linearFormat rx).getD rx.toFormat).samplingRate = ((linearFormat tx).getD tx.toFormat).samplingRate →
      ∃ f, linearFormat rx = some f ∧ linearFormat tx = some f

/-- The streams of a bridge fit, if both have capabilities and open. -/
def BridgeFits (source sink : AudioStream) : Prop :=
  ∀ capabilities capabilities', source.capabilities = some capabilities → sink.capabilities = some capabilities' →
    source.rxOpens → sink.txOpens →
    let rx := validated capabilities source.rxDescriptor sink.txDescriptor
    DescriptorsFit rx (validated capabilities' sink.txDescriptor (some rx))

def MultiplierFits (source : AudioStream) (sinkArr : List (Option AudioStream)) : Prop :=
  source.capabilities.isSome → sinkArr ≠ [] → ∃ f, streamFormat source.capabilities source.rxDescriptor = some f ∧
    ∀ sink, some sink ∈ sinkArr → streamFormat sink.capabilities sink.txDescriptor = some f

def Decoded (source : AudioStream) : Prop :=
  ∃ capabilities, source.capabilities = some capabilities ∧
    lpcmDescriptorMatch (validated capabilities source.rxDescriptor none) = false

/-- The sources of a mixer have the format of the sink, or are decoded to smaller frames, which the mixer drops. -/
def MixerFits (sourceArr : List (Option AudioStream)) (sink : AudioStream) : Prop :=
  sink.capabilities.isSome → sourceArr ≠ [] → ∃ f, streamFormat sink.capabilities sink.txDescriptor = some f ∧
    ∀ source, some source ∈ sourceArr → ∃ g, streamFormat source.capabilities source.rxDescriptor = some g ∧
      (g = f ∨ Decoded source ∧ formatSize none g < formatSize none f)

theorem lpcmDescriptorMatch_create (samplingRate : UInt16) (channelCount : UInt8) :
    lpcmDescriptorMatch (lpcmDescriptorCreate samplingRate channelCount) := by
  show namesCompare (some lpcmCodecName) (some lpcmCodecName) = true
  decide

variable {descriptor : CodecDescriptor}

theorem converterSet_lpcm (h : lpcmDescriptorMatch descriptor) :
    converterSet (some descriptor) = ⟨some descriptor, none⟩ := by
  simp [converterSet, h]

theorem converterSet_coded {descriptor changed : CodecDescriptor} {codec : Codec}
    (h : lpcmDescriptorMatch descriptor = false)
    (hg : codecManagerCodecGet codecManager descriptor = some (codec, changed)) : converterSet (some descriptor) =
      ⟨some (lpcmDescriptorCreate changed.samplingRate changed.channelCount), some (codec, changed)⟩ := by
  simp [converterSet, h, hg]

theorem converterSet_unknown (hg : codecManagerCodecGet codecManager descriptor = none) :
    converterSet (some descriptor) = ⟨some descriptor, none⟩ := by
  by_cases h : lpcmDescriptorMatch descriptor
  · exact converterSet_lpcm h
  · simp [converterSet, h, hg]

theorem format_converterSet (descriptor : CodecDescriptor) :
    (converterSet (some descriptor)).format none = linearFormat descriptor := by
  unfold linearFormat
  by_cases h : lpcmDescriptorMatch descriptor
  · rw [converterSet_lpcm h, if_pos h]
    simp [Endpoint.format, h]
  · rw [if_neg h]
    cases hg : codecManagerCodecGet codecManager descriptor with
    | none =>
      rw [converterSet_unknown hg]
      simp [Endpoint.format, h]
    | some r =>
      rw [converterSet_coded (by simpa using h) hg]
      simp [Endpoint.format, lpcmDescriptorMatch_create]
      rfl

theorem descriptor_converterSet (descriptor : CodecDescriptor) :
    (converterSet (some descriptor)).descriptor.map (·.samplingRate) =
      some ((linearFormat descriptor).getD descriptor.toFormat).samplingRate := by
  unfold linearFormat
  by_cases h : lpcmDescriptorMatch descriptor
  · rw [converterSet_lpcm h, if_pos h]
    rfl
  · rw [if_neg h]
    cases hg : codecManagerCodecGet codecManager descriptor with
    | none =>
      rw [converterSet_unknown hg]
      rfl
    | some r =>
      rw [converterSet_coded (by simpa using h) hg]
      rfl

theorem frameSize_none (e : Endpoint) : e.frameSize none = linearFrameSize e.descriptor := by
  unfold Endpoint.frameSize
  split
  · rename_i hc _
    cases hc
  · rfl

theorem nullBridgeCreate_closed (rx tx : CodecDescriptor) : nullBridgeCreate rx tx false = none := by
  unfold nullBridgeCreate
  split <;> rfl

theorem nullBridge_arranged_iff (rx tx : CodecDescriptor) : (∀ o, nullBridgeCreate rx tx true = some o → Arranged o) ↔
    ∀ codec changed, codecManagerCodecGet codecManager rx = some (codec, changed) → changed.toFormat = tx.toFormat := by
  unfold nullBridgeCreate
  cases hg : codecManagerCodecGet codecManager rx with
  | none => simp
  | some r =>
    obtain ⟨codec, changed⟩ := r
    have hi := distributor_arranged_iff ⟨some changed, none⟩ (some codec) [⟨some tx, none⟩] rfl
    constructor
    · rintro h codec' changed' heq
      obtain ⟨rfl, rfl⟩ := Prod.mk.inj (some.inj heq)
      obtain ⟨f, hf, hs⟩ := hi.1 (h _ rfl)
      exact some.inj (hf.trans (hs _ mem_cons_self).symm)
    · rintro h o ho
      obtain rfl := some.inj ho
      refine hi.2 ⟨changed.toFormat, rfl, fun sink hsi => ?_⟩
      obtain rfl := mem_singleton.1 hsi
      exact congrArg some (h codec changed rfl).symm

theorem linearBridge_arranged_iff (rx tx : CodecDescriptor) :
    (∀ o, linearBridgeCreate (converterSet (some rx)) (converterSet (some tx)) true = some o → Arranged o) ↔
      ∃ f, linearFormat rx = some f ∧ linearFormat tx = some f := by
  have hi := distributor_arranged_iff _ none [converterSet (some tx)] (exact_converterSet (some rx))
  rw [frameSize_none, format_converterSet] at hi
  constructor
  · intro h
    obtain ⟨f, hf, hs⟩ := hi.1 (h _ rfl)
    exact ⟨f, hf, (format_converterSet tx).symm.trans (hs _ mem_cons_self)⟩
  · rintro ⟨f, hf, hf'⟩ o ho
    obtain rfl := some.inj ho
    refine hi.2 ⟨f, hf, fun sink hsi => ?_⟩
    rw [mem_singleton.1 hsi, format_converterSet, hf']

theorem bridgeCreate_eq {source sink : AudioStream} {capabilities capabilities' : CodecCapabilities}
    (hs : source.capabilities = some capabilities) (hn : sink.capabilities = some capabilities') :
    bridgeCreate source sink =
      let rx := validated capabilities source.rxDescriptor sink.txDescriptor
      let tx := validated capabilities' sink.txDescriptor (some rx)
      if codecDescriptorsMatch rx tx then nullBridgeCreate rx tx (source.rxOpens && sink.txOpens)
      else if ratesDiffer (converterSet (some rx)) (converterSet (some tx)) then none
      else linearBridgeCreate (converterSet (some rx)) (converterSet (some tx)) (source.rxOpens && sink.txOpens) := by
  simp [bridgeCreate, rxValidate, txValidate, hs, hn]

theorem ratesDiffer_iff (rx tx : CodecDescriptor) :
    ratesDiffer (converterSet (some rx)) (converterSet (some tx)) = true ↔
      ((linearFormat rx).getD rx.toFormat).samplingRate ≠ ((linearFormat tx).getD tx.toFormat).samplingRate := by
  unfold ratesDiffer
  rw [descriptor_converterSet, descriptor_converterSet]
  simp

theorem descriptors_arranged_iff (rx tx : CodecDescriptor) :
    (∀ o, (if codecDescriptorsMatch rx tx then nullBridgeCreate rx tx true
      else if ratesDiffer (converterSet (some rx)) (converterSet (some tx)) then none
      else linearBridgeCreate (converterSet (some rx)) (converterSet (some tx)) true) = some o → Arranged o) ↔
      DescriptorsFit rx tx := by
  unfold DescriptorsFit
  by_cases hm : codecDescriptorsMatch rx tx
  · rw [if_pos hm, if_pos hm]
    exact nullBridge_arranged_iff rx tx
  · rw [if_neg hm, if_neg hm]
    have hr := ratesDiffer_iff rx tx
    by_cases hd : ratesDiffer (converterSet (some rx)) (converterSet (some tx))
    · rw [if_pos hd]
      exact ⟨fun _ heq => absurd heq (hr.1 hd), fun _ o ho => absurd ho.symm (some_ne_none o)⟩
    · rw [if_neg hd, linearBridge_arranged_iff]
      have hs := not_not.1 (mt hr.2 hd)
      exact ⟨fun h _ => h, fun h => h hs⟩

theorem descriptors_closed (rx tx : CodecDescriptor) :
    (if codecDescriptorsMatch rx tx then nullBridgeCreate rx tx false
      else if ratesDiffer (converterSet (some rx)) (converterSet (some tx)) then none
      else linearBridgeCreate (converterSet (some rx)) (converterSet (some tx)) false) = none := by
  rw [nullBridgeCreate_closed]
  split
  · rfl
  · split <;> rfl

theorem bridge_arranged_iff (source sink : AudioStream) :
    (∀ o, bridgeCreate source sink = some o → Arranged o) ↔ BridgeFits source sink := by
  cases hs : source.capabilities with
  | none => simp [bridgeCreate, rxValidate, BridgeFits, hs]
  | some capabilities =>
    cases hn : sink.capabilities with
    | none => simp [bridgeCreate, rxValidate, txValidate, BridgeFits, hs, hn]
    | some capabilities' =>
      have hi := descriptors_arranged_iff (validated capabilities source.rxDescriptor sink.txDescriptor)
        (validated capabilities' sink.txDescriptor
          (some (validated capabilities source.rxDescriptor sink.txDescriptor)))
      have hf : BridgeFits source sink ↔ (source.rxOpens → sink.txOpens →
          DescriptorsFit (validated capabilities source.rxDescriptor sink.txDescriptor)
            (validated capabilities' sink.txDescriptor
              (some (validated capabilities source.rxDescriptor sink.txDescriptor)))) := by
        constructor
        · exact fun h => h capabilities capabilities' hs hn
        · intro h c c' hc hc'
          obtain rfl := some.inj (hs.symm.trans hc)
          obtain rfl := some.inj (hn.symm.trans hc')
          exact h
      rw [bridgeCreate_eq hs hn, hf]
      by_cases hp : (source.rxOpens && sink.txOpens)
      · obtain ⟨hr, ht⟩ := Bool.and_eq_true_iff.1 hp
        rw [hp]
        exact ⟨fun h _ _ => hi.1 h, fun h => hi.2 (h hr ht)⟩
      · have hl : ¬ (source.rxOpens = true ∧ sink.txOpens = true) := fun h => hp (by simp [h.1, h.2])
        rw [Bool.not_eq_true] at hp
        rw [hp]
        refine ⟨fun _ hr ht => absurd ⟨hr, ht⟩ hl, fun _ o ho => ?_⟩
        exact absurd (ho.symm.trans (descriptors_closed _ _)) (some_ne_none o)

/-! ## Arrays of streams -/

theorem format_arrayEndpoint (capabilities : Option CodecCapabilities) (own : Option CodecDescriptor) :
    (arrayEndpoint own (capabilities.map fun capabilities => validated capabilities own none)).format none =
      streamFormat capabilities own := by
  cases capabilities with
  | none => rfl
  | some capabilities => exact format_converterSet _

theorem exact_arrayEndpoint (own descriptor : Option CodecDescriptor) : (arrayEndpoint own descriptor).Exact none := by
  cases descriptor with
  | none => rfl
  | some descriptor => exact exact_converterSet _

theorem format_sinkEndpoint (sink : AudioStream) :
    (sinkEndpoint sink).format none = streamFormat sink.capabilities sink.txDescriptor := by
  rw [← format_arrayEndpoint]
  unfold sinkEndpoint txValidate
  cases sink.capabilities <;> rfl

theorem format_sourceEndpoint (source : AudioStream) :
    (sourceEndpoint source).format none = streamFormat source.capabilities source.rxDescriptor := by
  rw [← format_arrayEndpoint]
  unfold sourceEndpoint rxValidate
  cases source.capabilities <;> rfl

theorem converter_sourceEndpoint {source : AudioStream} {g : Format}
    (hg : streamFormat source.capabilities source.rxDescriptor = some g) :
    (sourceEndpoint source).converter.isSome ↔ Decoded source := by
  unfold sourceEndpoint rxValidate Decoded
  cases hc : source.capabilities with
  | none => simp [arrayEndpoint]
  | some capabilities =>
    rw [hc] at hg
    have hg : linearFormat (validated capabilities source.rxDescriptor none) = some g := hg
    simp only [map_some, Option.bind_some, arrayEndpoint, Option.some.injEq, exists_eq_left']
    generalize validated capabilities source.rxDescriptor none = descriptor at hg
    by_cases h : lpcmDescriptorMatch descriptor
    · simp [converterSet_lpcm h, h]
    · rw [Bool.not_eq_true] at h
      unfold linearFormat at hg
      rw [h] at hg
      obtain ⟨⟨codec, changed⟩, ht, -⟩ := Option.map_eq_some_iff.1 hg
      simp [converterSet_coded h ht, h]

theorem forall_reduceOption {f : AudioStream → Endpoint} {P : Endpoint → Prop} {streams : List (Option AudioStream)} :
    (∀ e ∈ streams.reduceOption.map f, P e) ↔ ∀ stream, some stream ∈ streams → P (f stream) := by
  simp [reduceOption_mem_iff]

theorem multiplier_arranged_iff (source : AudioStream) (sinkArr : List (Option AudioStream)) :
    (∀ o, multiplierCreate source sinkArr = some o → Arranged o) ↔ MultiplierFits source sinkArr := by
  unfold multiplierCreate MultiplierFits
  by_cases he : sinkArr = []
  · simp [he]
  · have hx : (sourceEndpoint source).Exact none := exact_arrayEndpoint _ _
    have hi := distributor_arranged_iff _ none (sinkArr.reduceOption.map sinkEndpoint) hx
    rw [frameSize_none, format_sourceEndpoint] at hi
    simp only [forall_reduceOption, format_sinkEndpoint] at hi
    rw [if_neg he]
    cases hc : source.capabilities with
    | none => simp
    | some capabilities =>
      rw [hc] at hi
      simp only [map_some, Option.some.injEq, forall_eq', isSome_some, forall_const, he, ne_eq,
        not_false_eq_true]
      exact hi

theorem mixer_streams_arranged_iff (sourceArr : List (Option AudioStream)) (sink : AudioStream) :
    (∀ o, mixerCreate sourceArr sink = some o → Arranged o) ↔ MixerFits sourceArr sink := by
  unfold mixerCreate MixerFits
  by_cases he : sourceArr = []
  · simp [he]
  · have hx : ∀ e ∈ sourceArr.reduceOption.map sourceEndpoint, e.Exact none :=
      forall_reduceOption.2 fun _ _ => exact_arrayEndpoint _ _
    have hi := mixer_arranged_iff (sinkEndpoint sink) hx
    rw [frameSize_none, format_sinkEndpoint] at hi
    simp only [forall_reduceOption, Mixes, format_sourceEndpoint] at hi
    rw [if_neg he]
    cases hc : sink.capabilities with
    | none => simp
    | some capabilities =>
      rw [hc] at hi
      simp only [map_some, Option.some.injEq, forall_eq', isSome_some, forall_const, he, ne_eq,
        not_false_eq_true]
      refine hi.trans (exists_congr fun f => and_congr_right fun _ => forall₂_congr fun source _ => ?_)
      refine exists_congr fun g => and_congr_right fun hg => or_congr_right (and_congr_left fun _ => ?_)
      exact converter_sourceEndpoint hg

inductive Creation
  | bridge (source sink : AudioStream)
  | multiplier (source : AudioStream) (sinkArr : List (Option AudioStream))
  | mixer (sourceArr : List (Option AudioStream)) (sink : AudioStream)

def Creation.create : Creation → Option MediaObject
  | .bridge source sink => bridgeCreate source sink
  | .multiplier source sinkArr => multiplierCreate source sinkArr
  | .mixer sourceArr sink => mixerCreate sourceArr sink

def Creation.Fits : Creation → Prop
  | .bridge source sink => BridgeFits source sink
  | .multiplier source sinkArr => MultiplierFits source sinkArr
  | .mixer sourceArr sink => MixerFits sourceArr sink

/-- **An object that carries frames is arranged exactly for streams that fit.** -/
theorem arranged_iff (c : Creation) : (∀ o, c.create = some o → Arranged o) ↔ c.Fits := by
  cases c with
  | bridge source sink => exact bridge_arranged_iff source sink
  | multiplier source sinkArr => exact multiplier_arranged_iff source sinkArr
  | mixer sourceArr sink => exact mixer_streams_arranged_iff sourceArr sink

def wideband : AudioStream where
  capabilities := some ⟨[⟨lpcmCodecName, 16, sampleRateSupported⟩], true⟩
  rxDescriptor := some {
    payloadType := 96
    name := some (ascii "L16")
    samplingRate := 16000
    channelCount := 1 }

def channelStream : AudioStream where
  capabilities := some ⟨[⟨lpcmCodecName, 16, 0x03⟩], true⟩

/-- The stream is passed on to two channels, which are opened with the default descriptor. -/
theorem not_arranged :
    ¬ ∀ source sinkArr o, multiplierCreate source sinkArr = some o → Arranged o := by
  intro h
  have harranged := h wideband [some channelStream, some channelStream] _ rfl
  obtain ⟨f, hf, hsize, -⟩ := (harranged.frames [[.frame]]).1 _ mem_cons_self
  revert hsize
  decide

end UniMrcp.Mpf.Path
