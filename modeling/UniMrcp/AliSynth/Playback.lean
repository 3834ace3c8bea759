import UniMrcp.AliSynth.Pool

/-!
# One SPEAK request of the synthesizer plugin

What happens from `EngineSynthStart` on until SPEAK-COMPLETE. The SDK delivers the chunks, `synthMain` puts them into
the queue, and the media engine reads frames from it, each in a thread of its own. A read takes several steps.
-/

namespace UniMrcp.AliSynth

open Lib Mrcp MrcpV2Transport AliSynthChannel

/-! ## The data -/

inductive ReadStage
  | outside
  | readVoiceData
  | readVoiceFrameData
  /-- `m_Play` is cleared next. -/
  | stopPlay
deriving DecidableEq

inductive Synthesis
  | notStarted
  | going
  | completed
  | failed
deriving DecidableEq

structure Playback where
  /-- The SPEAK request, until the task of the engine stores it. -/
  pending : Option Nat
  synthChannel : SynthChannel
  /-- The channel of the pool that `AliSynthCh` points to. -/
  channel : AliSynthChannel
  stage : ReadStage
  worker : SynthMainStage
  synthesis : Synthesis
  received : List (List UInt8)
  /-- The bytes of them that were written to frames. -/
  heard : List UInt8
deriving DecidableEq

/-- A SPEAK request for which a channel of the pool has been started, and its `synthMain` pushed. -/
def Playback.initial (channel : AliSynthChannel) (id request : Nat) : Playback where
  pending := some request
  synthChannel := { SynthChannel.initial with aliSynthCh := some id }
  channel := channel
  stage := .outside
  worker := .queued
  synthesis := .notStarted
  received := []
  heard := []

inductive PlaybackInput
  /-- The task of the engine stores the SPEAK request. -/
  | store
  | pause
  | resume
  | stop (request : Nat)
  /-- `synthMain` goes on; when it begins, the SDK's request can be started or not. -/
  | synthMain (started : Bool)
  | binaryDataReceived (data : List UInt8)
  | synthesisCompleted
  | taskFailed
  | channelClosed
  /-- The media engine goes on with a read, or begins one. -/
  | read
deriving DecidableEq

inductive PlaybackOutput
  | response (request : Nat) (statusCode : Nat) (requestState : RequestState)
  | speakComplete (request : Nat)
deriving DecidableEq

/-! ## Reading -/

/-- `readVoiceFrameData`: what is written to the frame, zeros behind it, and whether `m_Play` is to be cleared. -/
def AliSynthChannel.readVoiceFrameData (channel : AliSynthChannel) (size : Nat) :
    AliSynthChannel × List UInt8 × Bool :=
  let frame := channel.voiceFrame
  let bytes := (frame.buffer.getD []).drop frame.cur
  if size < frame.size && frame.buffer.isSome then
    ({ channel with voiceFrame := { frame with cur := frame.cur + size, size := frame.size - size } },
      bytes.take size, false)
  else
    ({ channel with voiceFrame := { frame with buffer := none, size := 0, cur := 0 } }, bytes.take frame.size,
      frame.item == 1 && channel.voiceQueue.isEmpty)

/-- `Ali_synth_stream_read` up to `readVoiceData`, with `EngineReadFrame`. -/
def Playback.streamRead (p : Playback) : Playback × List PlaybackOutput :=
  match p.synthChannel.stopResponse with
  | some request =>
    ({ p with synthChannel := { p.synthChannel with stopResponse := none, speakRequest := none, paused := false } },
      [.response request statusCodeSuccess .complete])
  | none =>
    match p.synthChannel.speakRequest with
    | some request =>
      if p.synthChannel.paused then (p, [])
      else if p.synthChannel.aliSynthCh.isSome && p.channel.play then ({ p with stage := .readVoiceData }, [])
      else ({ p with synthChannel := { p.synthChannel with speakRequest := none } }, [.speakComplete request])
    | none => (p, [])

/-- `readVoiceData` up to `readVoiceFrameData`. -/
def Playback.readVoiceData (p : Playback) : Playback :=
  if p.channel.play then
    if p.channel.voiceFrame.size ≠ 0 then { p with stage := .readVoiceFrameData }
    else
      match p.channel.voiceQueue with
      | data :: voiceQueue =>
        { p with
          channel := { p.channel with
            voiceFrame := ⟨some data, data.length, 0, p.channel.voiceQueue.length⟩, voiceQueue := voiceQueue }
          stage := .readVoiceFrameData }
      | [] => { p with stage := .outside }
  else { p with stage := .outside }

def Playback.readVoiceFrameData (p : Playback) (size : Nat) : Playback :=
  let (channel, bytes, stopPlay) := p.channel.readVoiceFrameData size
  { p with channel := channel, heard := p.heard ++ bytes, stage := if stopPlay then .stopPlay else .outside }

def Playback.read (p : Playback) (size : Nat) : Playback × List PlaybackOutput :=
  match p.stage with
  | .outside => p.streamRead
  | .readVoiceData => (p.readVoiceData, [])
  | .readVoiceFrameData => (p.readVoiceFrameData size, [])
  | .stopPlay => ({ p with channel := { p.channel with play := false }, stage := .outside }, [])

def Playback.synthMain (p : Playback) (started : Bool) : Playback :=
  match p.worker with
  | .queued =>
    if started then { p with worker := .running, synthesis := .going }
    else { p with worker := .finished, channel := p.channel.synthMainEnd }
  | .running =>
    if p.channel.started then { p with channel := p.channel.transfer }
    else { p with worker := .finished, channel := p.channel.synthMainEnd }
  | .finished => p

def Playback.store (p : Playback) : Playback :=
  match p.pending with
  | some request => { p with pending := none, synthChannel := { p.synthChannel with speakRequest := some request } }
  | none => p

/-- A step of one thread, for frames of some size. The SDK reports chunks, completion or failure while the synthesis
goes on. -/
def Playback.step (size : Nat) (p : Playback) : PlaybackInput → Playback × List PlaybackOutput
  | .store => (p.store, [])
  | .pause => ({ p with synthChannel := { p.synthChannel with paused := true } }, [])
  | .resume => ({ p with synthChannel := { p.synthChannel with paused := false } }, [])
  | .stop request => ({ p with synthChannel := { p.synthChannel with stopResponse := some request } }, [])
  | .synthMain started => (p.synthMain started, [])
  | .binaryDataReceived data =>
    (if p.synthesis = .going then
      { p with channel := p.channel.onBinaryDataReceived data, received := p.received ++ [data] }
    else p, [])
  | .synthesisCompleted =>
    (if p.synthesis = .going then { p with channel := p.channel.onSynthesisCompleted, synthesis := .completed }
    else p, [])
  | .taskFailed =>
    (if p.synthesis = .going then { p with channel := p.channel.onTaskFailed, synthesis := .failed }
    else p, [])
  -- `OnChannelClosed` releases the SDK's request
  | .channelClosed => (p, [])
  | .read => p.read size

/-! ## SPEAK-COMPLETE means that everything was played -/

def speakCompletes (outputs : List PlaybackOutput) : Nat :=
  outputs.countP fun | .speakComplete _ => true | .response .. => false

/-- SPEAK-COMPLETE is sent after a failure, or when the synthesis is complete and all its chunks have been read. -/
def CompleteRight (size : Nat) (p : Playback) (input : PlaybackInput) : Prop :=
  speakCompletes (p.step size input).2 ≠ 0 →
    p.synthesis = .failed ∨ p.synthesis = .completed ∧ p.heard = p.received.flatten

/-- **The condition on a step.** Where the last chunk of an empty queue is read to its end, the synthesis has failed, or
it is complete and the queue has had all its chunks, of which there is one at least. -/
def PlaybackOrderly (size : Nat) (p : Playback) : PlaybackInput → Prop
  | .read => p.stage = .readVoiceFrameData → p.channel.voiceFrame.size ≤ size → p.channel.voiceFrame.item = 1 →
      p.channel.voiceQueue = [] → p.synthesis = .failed ∨
        p.synthesis = .completed ∧ p.channel.cursors = p.channel.voice.length
  | .synthesisCompleted => p.synthesis = .going → p.received.flatten ≠ []
  | _ => True

instance (size : Nat) (p : Playback) (input : PlaybackInput) : Decidable (PlaybackOrderly size p input) :=
  match input with
  | .read => inferInstanceAs (Decidable (p.stage = .readVoiceFrameData → p.channel.voiceFrame.size ≤ size →
      p.channel.voiceFrame.item = 1 → p.channel.voiceQueue = [] → p.synthesis = .failed ∨
        p.synthesis = .completed ∧ p.channel.cursors = p.channel.voice.length))
  | .synthesisCompleted => inferInstanceAs (Decidable (p.synthesis = .going → p.received.flatten ≠ []))
  | .store | .pause | .resume | .stop _ | .synthMain _ | .binaryDataReceived _ | .taskFailed | .channelClosed =>
    isTrue trivial

/-! ## The channel -/

def AliSynthChannel.rest (channel : AliSynthChannel) : List UInt8 :=
  (channel.voiceFrame.buffer.getD []).drop channel.voiceFrame.cur

def AliSynthChannel.left (channel : AliSynthChannel) : List UInt8 :=
  channel.rest ++ (channel.voiceQueue.flatten ++ (channel.voice.drop channel.cursors).flatten)

/-- **What the functions of the channel keep.** -/
structure ChannelKept (channel : AliSynthChannel) : Prop where
  frame : channel.rest.length = channel.voiceFrame.size
  queue : ∀ data ∈ channel.voiceQueue, data ≠ []
  voice : ∀ data ∈ channel.voice, data ≠ []
  cursors : channel.cursors ≤ channel.voice.length
  /-- The queue has not become shorter since the chunk was taken from it. -/
  item : channel.voiceFrame.size ≠ 0 →
    1 ≤ channel.voiceFrame.item ∧ channel.voiceFrame.item ≤ channel.voiceQueue.length + 1

section Channel

variable {channel : AliSynthChannel}

theorem channelKept_start {session : Nat} {speakText : List UInt8} {started : AliSynthChannel}
    (h : channel.start speakText session = some started) :
    ChannelKept started ∧ started.play ∧ started.started ∧ started.left = [] := by
  unfold start at h
  split_ifs at h
  obtain rfl := Option.some.inj h
  exact ⟨⟨rfl, nofun, nofun, Nat.le_refl 0, fun hs => absurd rfl hs⟩, rfl, rfl, rfl⟩

theorem transfer_cases (channel : AliSynthChannel) :
    channel.transfer = channel ∧ (channel.voice.length ≤ channel.cursors ∨ maxQueueSize ≤ channel.voiceQueue.length) ∨
    ∃ hlt : channel.cursors < channel.voice.length, channel.voiceQueue.length < maxQueueSize ∧
      channel.transfer = { channel with
        voiceQueue := channel.voiceQueue ++ [channel.voice[channel.cursors]], cursors := channel.cursors + 1 } := by
  unfold transfer
  rcases Nat.lt_or_ge channel.cursors channel.voice.length with hlt | hge
  · rw [List.getElem?_eq_getElem hlt]
    split_ifs with hr
    · exact Or.inr ⟨hlt, hr, rfl⟩
    · exact Or.inl ⟨rfl, Or.inr (Nat.le_of_not_lt hr)⟩
  · rw [List.getElem?_eq_none hge]
    exact Or.inl ⟨rfl, Or.inl hge⟩

theorem transfer_left (channel : AliSynthChannel) : channel.transfer.left = channel.left := by
  rcases transfer_cases channel with ⟨heq, -⟩ | ⟨hlt, -, heq⟩
  · rw [heq]
  · rw [heq]
    unfold left rest
    rw [List.drop_eq_getElem_cons hlt, List.flatten_append, List.flatten_cons, List.flatten_cons, List.flatten_nil,
      List.append_nil, List.append_assoc]

theorem ChannelKept.transfer (h : ChannelKept channel) : ChannelKept channel.transfer := by
  rcases transfer_cases channel with ⟨heq, -⟩ | ⟨hlt, -, heq⟩
  · rw [heq]
    exact h
  · rw [heq]
    refine ⟨h.frame, ?_, h.voice, hlt, fun hs => ?_⟩
    · intro data hd
      rcases List.mem_append.1 hd with hq | hn
      · exact h.queue data hq
      · rw [List.mem_singleton.1 hn]
        exact h.voice _ (List.getElem_mem hlt)
    · obtain ⟨ho, hle⟩ := h.item hs
      refine ⟨ho, Nat.le_trans hle ?_⟩
      rw [List.length_append, List.length_singleton]
      omega

theorem onBinaryDataReceived_left (h : ChannelKept channel) (data : List UInt8) :
    (channel.onBinaryDataReceived data).left = channel.left ++ data := by
  unfold onBinaryDataReceived
  split_ifs with he
  · rw [List.isEmpty_iff.1 he, List.append_nil]
  · unfold left rest
    rw [List.drop_append_of_le_length h.cursors, List.flatten_append, List.flatten_cons, List.flatten_nil,
      List.append_nil, List.append_assoc, List.append_assoc]

theorem ChannelKept.onBinaryDataReceived (h : ChannelKept channel) (data : List UInt8) :
    ChannelKept (channel.onBinaryDataReceived data) := by
  unfold AliSynthChannel.onBinaryDataReceived
  split_ifs with he
  · exact h
  · refine ⟨h.frame, h.queue, ?_, ?_, h.item⟩
    · intro data' hd'
      rcases List.mem_append.1 hd' with hv | hn
      · exact h.voice data' hv
      · rw [List.mem_singleton.1 hn]
        exact fun hl => he (List.isEmpty_iff.2 hl)
    · show channel.cursors ≤ (channel.voice ++ [data]).length
      have hle := h.cursors
      rw [List.length_append]
      omega

theorem ChannelKept.synthMainEnd (h : ChannelKept channel) : ChannelKept channel.synthMainEnd :=
  ⟨h.frame, h.queue, nofun, Nat.le_refl 0, h.item⟩

theorem ChannelKept.flags (h : ChannelKept channel) (started play runing : Bool) :
    ChannelKept { channel with started := started, play := play, runing := runing } :=
  ⟨h.frame, h.queue, h.voice, h.cursors, h.item⟩

theorem ChannelKept.pop (h : ChannelKept channel) (hs : channel.voiceFrame.size = 0) {data : List UInt8}
    {voiceQueue : List (List UInt8)} (hq : channel.voiceQueue = data :: voiceQueue) :
    ChannelKept { channel with
      voiceFrame := ⟨some data, data.length, 0, channel.voiceQueue.length⟩, voiceQueue := voiceQueue } ∧
      left { channel with
        voiceFrame := ⟨some data, data.length, 0, channel.voiceQueue.length⟩, voiceQueue := voiceQueue } =
        channel.left ∧ data ≠ [] := by
  have hr : channel.rest = [] := List.length_eq_zero_iff.1 (h.frame.trans hs)
  refine ⟨⟨rfl, ?_, h.voice, h.cursors, fun _ => ?_⟩, ?_, h.queue data (by rw [hq]; exact List.mem_cons_self ..)⟩
  · intro data' hd'
    exact h.queue data' (by rw [hq]; exact List.mem_cons_of_mem _ hd')
  · dsimp only
    rw [hq, List.length_cons]
    omega
  · have hl : channel.left =
        data ++ voiceQueue.flatten ++ (channel.voice.drop channel.cursors).flatten := by
      unfold left
      rw [hr, hq, List.flatten_cons, List.nil_append]
    rw [hl, List.append_assoc]
    rfl

theorem ChannelKept.readVoiceFrameData (h : ChannelKept channel) (size : Nat) :
    ∃ voiceFrame bytes, channel.readVoiceFrameData size = ({ channel with voiceFrame := voiceFrame }, bytes,
        decide (channel.voiceFrame.size ≤ size ∧ channel.voiceFrame.item = 1 ∧ channel.voiceQueue = [])) ∧
      ChannelKept { channel with voiceFrame := voiceFrame } ∧
      bytes ++ left { channel with voiceFrame := voiceFrame } = channel.left ∧
      voiceFrame.size = channel.voiceFrame.size - size := by
  have hb : (channel.voiceFrame.buffer.getD []).drop channel.voiceFrame.cur = channel.rest := rfl
  unfold AliSynthChannel.readVoiceFrameData
  dsimp only
  rw [hb]
  rcases Nat.lt_or_ge size channel.voiceFrame.size with hlt | hge
  · -- the chunk goes on
    have hs : channel.voiceFrame.buffer.isSome := by
      by_contra hnn
      have hf := h.frame
      unfold rest at hf
      rw [Option.not_isSome_iff_eq_none.1 hnn, Option.getD_none, List.drop_nil, List.length_nil] at hf
      omega
    have hn : (channel.voiceFrame.buffer.getD []).drop (channel.voiceFrame.cur + size) = channel.rest.drop size := by
      rw [← hb, List.drop_drop]
    rw [hs, decide_eq_true hlt, Bool.and_true, if_pos rfl]
    refine ⟨_, _, Prod.ext rfl (Prod.ext rfl ?_), ⟨?_, h.queue, h.voice, h.cursors, fun _ => ?_⟩, ?_, rfl⟩
    · exact (decide_eq_false (by omega)).symm
    · show ((channel.voiceFrame.buffer.getD []).drop (channel.voiceFrame.cur + size)).length = _
      rw [hn, List.length_drop, h.frame]
    · exact h.item (by omega)
    · unfold left
      rw [← List.append_assoc]
      refine congrArg (· ++ _) ?_
      show channel.rest.take size ++ (channel.voiceFrame.buffer.getD []).drop (channel.voiceFrame.cur + size) = _
      rw [hn, List.take_append_drop]
  · -- the chunk ends
    rw [decide_eq_false (by omega), Bool.false_and, if_neg Bool.false_ne_true]
    refine ⟨_, _, Prod.ext rfl (Prod.ext rfl ?_), ⟨rfl, h.queue, h.voice, h.cursors, fun hz => absurd rfl hz⟩,
      ?_, ?_⟩
    · rw [Bool.eq_iff_iff, decide_eq_true_iff, Bool.and_eq_true_iff, beq_iff_eq, List.isEmpty_iff]
      exact ⟨fun hbo => ⟨hge, hbo⟩, And.right⟩
    · unfold left
      rw [← List.append_assoc]
      refine congrArg (· ++ _) ?_
      show channel.rest.take channel.voiceFrame.size ++ [] = _
      rw [← h.frame, List.take_length, List.append_nil]
    · show 0 = _
      omega

end Channel

def AliSynthChannel.HasMore (channel : AliSynthChannel) : Prop :=
  channel.voiceFrame.size ≠ 0 ∨ channel.voiceQueue ≠ [] ∨ channel.cursors < channel.voice.length

/-- **What orderly steps keep.** -/
structure PlaybackKept (p : Playback) : Prop where
  channel : ChannelKept p.channel
  /-- What has been read and what is left are the chunks in order. -/
  flow : p.synthesis ≠ .failed → p.heard ++ p.channel.left = p.received.flatten
  started : p.synthesis ≠ .failed → p.channel.started
  queued : p.worker = .queued → p.synthesis = .notStarted
  running : p.synthesis = .going ∨ p.synthesis = .completed → p.worker = .running
  silent : p.synthesis = .notStarted → p.received = []
  frame : p.stage = .readVoiceFrameData → p.channel.voiceFrame.size ≠ 0
  /-- Nothing is played any more when all has been read, or after a failure. -/
  played : p.channel.play = false ∨ p.stage = .stopPlay →
    p.synthesis = .failed ∨ p.synthesis = .completed ∧ p.heard = p.received.flatten
  failed : p.synthesis = .failed → p.channel.play = false
  audio : p.synthesis = .completed → p.received.flatten ≠ []
  /-- While chunks are played, something is left of them. -/
  more : p.channel.play → p.stage ≠ .stopPlay → p.received.flatten ≠ [] → p.channel.HasMore

theorem playbackKept_initial {channel started : AliSynthChannel} {speakText : List UInt8} {session : Nat}
    (h : channel.start speakText session = some started) (id request : Nat) :
    PlaybackKept (.initial started id request) := by
  obtain ⟨hk, hp, ht, hl⟩ := channelKept_start h
  refine ⟨hk, fun _ => hl, fun _ => ht, fun _ => rfl, nofun, fun _ => rfl, nofun, ?_, nofun, nofun, ?_⟩
  · rintro (hn | hs)
    · exact absurd (hn.symm.trans hp) Bool.false_ne_true
    · cases hs
  · exact fun _ _ hr => absurd rfl hr

section Steps

variable {p : Playback}

theorem PlaybackKept.quiet (h : PlaybackKept p) (pending : Option Nat) (synthChannel : SynthChannel) :
    PlaybackKept { p with pending := pending, synthChannel := synthChannel } :=
  ⟨h.channel, h.flow, h.started, h.queued, h.running, h.silent, h.frame, h.played, h.failed, h.audio, h.more⟩

/-! ### The read -/

theorem PlaybackKept.setStage (h : PlaybackKept p) (hn : p.stage ≠ .stopPlay) {stage : ReadStage}
    (hs : stage ≠ .stopPlay) (hf : stage = .readVoiceFrameData → p.channel.voiceFrame.size ≠ 0) :
    PlaybackKept { p with stage := stage } where
  channel := h.channel
  flow := h.flow
  started := h.started
  queued := h.queued
  running := h.running
  silent := h.silent
  frame := hf
  played hst := h.played (hst.imp_right fun ht => absurd ht hs)
  failed := h.failed
  audio := h.audio
  more hp _ := h.more hp hn

theorem readVoiceData_cases (p : Playback) :
    (p.channel.play ∧ p.channel.voiceFrame.size ≠ 0 ∧
      p.readVoiceData = { p with stage := .readVoiceFrameData }) ∨
    (p.channel.play ∧ p.channel.voiceFrame.size = 0 ∧ ∃ data voiceQueue,
      p.channel.voiceQueue = data :: voiceQueue ∧ p.readVoiceData = { p with
        channel := { p.channel with
          voiceFrame := ⟨some data, data.length, 0, p.channel.voiceQueue.length⟩, voiceQueue := voiceQueue }
        stage := .readVoiceFrameData }) ∨
    (p.channel.play = false ∨ p.channel.voiceFrame.size = 0 ∧ p.channel.voiceQueue = []) ∧
      p.readVoiceData = { p with stage := .outside } := by
  unfold Playback.readVoiceData
  by_cases hp : p.channel.play
  · rw [if_pos hp]
    by_cases hs : p.channel.voiceFrame.size = 0
    · rw [if_neg (not_not.2 hs)]
      cases p.channel.voiceQueue with
      | nil => exact Or.inr (Or.inr ⟨Or.inr ⟨hs, rfl⟩, rfl⟩)
      | cons data voiceQueue => exact Or.inr (Or.inl ⟨hp, hs, data, voiceQueue, rfl, rfl⟩)
    · rw [if_pos hs]
      exact Or.inl ⟨hp, hs, rfl⟩
  · rw [if_neg hp]
    exact Or.inr (Or.inr ⟨Or.inl (Bool.eq_false_iff.2 hp), rfl⟩)

theorem PlaybackKept.readVoiceData (h : PlaybackKept p) (ht : p.stage = .readVoiceData) :
    PlaybackKept p.readVoiceData := by
  have hn : p.stage ≠ .stopPlay := by rw [ht]; exact nofun
  rcases readVoiceData_cases p with ⟨-, hs, heq⟩ | ⟨hpl, hs, data, voiceQueue, hq, heq⟩ | ⟨-, heq⟩
  · rw [heq]
    exact h.setStage hn nofun fun _ => hs
  · obtain ⟨hk, hf, hd⟩ := h.channel.pop hs hq
    have hl : data.length ≠ 0 := fun hz => hd (List.length_eq_zero_iff.1 hz)
    rw [heq]
    refine ⟨hk, fun hfl => ?_, h.started, h.queued, h.running, h.silent, fun _ => hl, ?_, h.failed,
      h.audio, fun _ _ _ => Or.inl hl⟩
    · rw [hf]
      exact h.flow hfl
    · rintro (hst | hp)
      · exact absurd (hst.symm.trans hpl) Bool.false_ne_true
      · cases hp
  · rw [heq]
    exact h.setStage hn nofun nofun

variable {size : Nat}

theorem PlaybackKept.readVoiceFrameData (h : PlaybackKept p) (hs : p.stage = .readVoiceFrameData)
    (ho : PlaybackOrderly size p .read) : PlaybackKept (p.readVoiceFrameData size) := by
  obtain ⟨voiceFrame, bytes, heq, hk, hlf, hz⟩ := h.channel.readVoiceFrameData size
  have hf : p.synthesis ≠ .failed →
      p.heard ++ bytes ++ left { p.channel with voiceFrame := voiceFrame } = p.received.flatten := by
    intro hl
    rw [List.append_assoc, hlf]
    exact h.flow hl
  unfold Playback.readVoiceFrameData
  rw [heq]
  dsimp only
  by_cases he : p.channel.voiceFrame.size ≤ size ∧ p.channel.voiceFrame.item = 1 ∧ p.channel.voiceQueue = []
  · rw [decide_eq_true he, if_pos rfl]
    refine ⟨hk, hf, h.started, h.queued, h.running, h.silent, nofun, fun _ => ?_, h.failed, h.audio,
      fun _ ht => absurd rfl ht⟩
    obtain ⟨hle, hi, hq⟩ := he
    rcases ho hs hle hi hq with hl | ⟨hc, hr⟩
    · exact Or.inl hl
    · refine Or.inr ⟨hc, ?_⟩
      have hrs : left { p.channel with voiceFrame := voiceFrame } = [] := by
        have hn : rest { p.channel with voiceFrame := voiceFrame } = [] :=
          List.length_eq_zero_iff.1 (hk.frame.trans (hz.trans (Nat.sub_eq_zero_of_le hle)))
        unfold left
        rw [hn]
        rw [hq, hr, List.drop_length]
        rfl
      have ha := hf (by rw [hc]; exact nofun)
      rwa [hrs, List.append_nil] at ha
  · rw [decide_eq_false he, if_neg Bool.false_ne_true]
    refine ⟨hk, hf, h.started, h.queued, h.running, h.silent, nofun, ?_, h.failed, h.audio, fun _ _ _ => ?_⟩
    · rintro (hp | ht)
      · rcases h.played (Or.inl hp) with hl | ⟨hc, hh⟩
        · exact Or.inl hl
        · refine Or.inr ⟨hc, ?_⟩
          have hf' := hf (by rw [hc]; exact nofun)
          rw [hh, List.append_assoc] at hf'
          have hn := List.append_eq_nil_iff.1 (List.append_right_eq_self.1 hf')
          rw [hn.1, List.append_nil]
          exact hh
      · cases ht
    · show voiceFrame.size ≠ 0 ∨ p.channel.voiceQueue ≠ [] ∨ _
      by_contra hnn
      rw [not_or, not_or, not_not, not_not] at hnn
      obtain ⟨hzr, hq, -⟩ := hnn
      obtain ⟨hon, hle⟩ := h.channel.item (h.frame hs)
      rw [hq, List.length_nil] at hle
      exact he ⟨by omega, by omega, hq⟩

theorem PlaybackKept.stopPlay (h : PlaybackKept p) (hs : p.stage = .stopPlay) :
    PlaybackKept { p with channel := { p.channel with play := false }, stage := .outside } where
  channel := h.channel.flags p.channel.started false p.channel.runing
  flow := h.flow
  started := h.started
  queued := h.queued
  running := h.running
  silent := h.silent
  frame := nofun
  played _ := h.played (Or.inr hs)
  failed _ := rfl
  audio := h.audio
  more := nofun

theorem PlaybackKept.read (h : PlaybackKept p) (ho : PlaybackOrderly size p .read) : PlaybackKept (p.read size).1 := by
  unfold Playback.read
  cases hs : p.stage with
  | outside =>
    have hn : p.stage ≠ .stopPlay := by rw [hs]; exact nofun
    unfold Playback.streamRead
    cases p.synthChannel.stopResponse with
    | some request => exact h.quiet _ _
    | none =>
      cases p.synthChannel.speakRequest with
      | none => exact h
      | some request =>
        split_ifs
        · exact h
        · exact h.setStage hn nofun nofun
        · exact h.quiet _ _
  | readVoiceData => exact h.readVoiceData hs
  | readVoiceFrameData => exact h.readVoiceFrameData hs ho
  | stopPlay => exact h.stopPlay hs

/-! ### The other threads -/

theorem PlaybackKept.store (h : PlaybackKept p) : PlaybackKept p.store := by
  unfold Playback.store
  cases p.pending with
  | none => exact h
  | some request => exact h.quiet _ _

theorem PlaybackKept.transfer (h : PlaybackKept p) : PlaybackKept { p with channel := p.channel.transfer } := by
  have hl := transfer_left p.channel
  have hk := h.channel.transfer
  rcases transfer_cases p.channel with ⟨heq, -⟩ | ⟨hlt, -, heq⟩
  · rw [heq]
    exact h
  · rw [heq] at hl hk ⊢
    refine ⟨hk, fun hf => ?_, h.started, h.queued, h.running, h.silent, h.frame, h.played, h.failed, h.audio,
      fun _ _ _ => Or.inr (Or.inl (List.append_ne_nil_of_right_ne_nil _ (List.cons_ne_nil _ _)))⟩
    rw [hl]
    exact h.flow hf

theorem PlaybackKept.synthMain (h : PlaybackKept p) (started : Bool) : PlaybackKept (p.synthMain started) := by
  unfold Playback.synthMain
  cases hw : p.worker with
  | queued =>
    have hs := h.queued hw
    have hrc := h.silent hs
    have hsn : ¬(p.channel.play = false ∨ p.stage = .stopPlay) := by
      intro hst
      rcases h.played hst with hf | ⟨hc, -⟩
      · exact absurd (hs.symm.trans hf) nofun
      · exact absurd (hs.symm.trans hc) nofun
    have ht : p.received.flatten = [] := by rw [hrc]; rfl
    have hl := h.flow (by rw [hs]; exact nofun)
    dsimp only
    split_ifs
    · exact ⟨h.channel, fun _ => hl, fun _ => h.started (by rw [hs]; exact nofun), nofun, fun _ => rfl, nofun,
        h.frame, fun hst => absurd hst hsn, nofun, nofun, fun _ _ hm => absurd ht hm⟩
    · refine ⟨h.channel.synthMainEnd, fun _ => ?_, h.started, nofun, ?_, h.silent, h.frame, h.played, h.failed, h.audio,
        fun _ _ hm => absurd ht hm⟩
      · rw [ht, List.append_eq_nil_iff] at hl
        obtain ⟨hh, hlf⟩ := hl
        obtain ⟨hrs, hq⟩ := List.append_eq_nil_iff.1 hlf
        have hnl : p.channel.synthMainEnd.left = p.channel.rest ++ (p.channel.voiceQueue.flatten ++ []) := rfl
        rw [hnl, hh, hrs, (List.append_eq_nil_iff.1 hq).1, ht]
        rfl
      · dsimp only
        rw [hs]
        rintro (hg | hc)
        · cases hg
        · cases hc
  | running =>
    dsimp only
    split_ifs with hr
    · rw [← hw]
      exact h.transfer
    · have hf : p.synthesis = .failed := by
        by_contra hn
        exact hr (h.started hn)
      have hp := h.failed hf
      refine ⟨h.channel.synthMainEnd, fun hn => absurd hf hn, fun hn => absurd hf hn, nofun, ?_,
        h.silent, h.frame, h.played, h.failed, h.audio, fun hpl => absurd (hp.symm.trans hpl) nofun⟩
      rw [hf]
      rintro (hg | hc)
      · cases hg
      · cases hc
  | finished => exact h

theorem PlaybackKept.binaryDataReceived (h : PlaybackKept p) (hg : p.synthesis = .going) (data : List UInt8) :
    PlaybackKept { p with channel := p.channel.onBinaryDataReceived data, received := p.received ++ [data] } := by
  have hfl : (p.channel.onBinaryDataReceived data).started = p.channel.started ∧
      (p.channel.onBinaryDataReceived data).play = p.channel.play ∧
      (p.channel.onBinaryDataReceived data).voiceFrame = p.channel.voiceFrame := by
    unfold onBinaryDataReceived
    split_ifs <;> exact ⟨rfl, rfl, rfl⟩
  obtain ⟨hst, hp, hfr⟩ := hfl
  have hsn : ¬(p.channel.play = false ∨ p.stage = .stopPlay) := by
    intro hs
    rcases h.played hs with hf | ⟨hc, -⟩
    · exact absurd (hg.symm.trans hf) nofun
    · exact absurd (hg.symm.trans hc) nofun
  have hno : p.synthesis ≠ .notStarted := by rw [hg]; exact nofun
  have hn : p.synthesis ≠ .failed := by rw [hg]; exact nofun
  have hnt : p.synthesis ≠ .completed := by rw [hg]; exact nofun
  refine ⟨h.channel.onBinaryDataReceived data, fun hf => ?_, fun hf => ?_, h.queued, h.running, ?_, ?_, ?_,
    ?_, ?_, ?_⟩
  · dsimp only
    rw [onBinaryDataReceived_left h.channel, ← List.append_assoc, h.flow hf, List.flatten_append,
      List.flatten_singleton]
  · dsimp only
    rw [hst]
    exact h.started hf
  · exact fun hsl => absurd hsl hno
  · dsimp only
    rw [hfr]
    exact h.frame
  · dsimp only
    rw [hp]
    exact fun hs => absurd hs hsn
  · exact fun hf => absurd hf hn
  · exact fun hc => absurd hc hnt
  · intro hl ht hr
    rw [hp] at hl
    by_cases he : data.isEmpty
    · have hm : p.channel.onBinaryDataReceived data = p.channel := by
        unfold onBinaryDataReceived
        rw [if_pos he]
      rw [hm]
      refine h.more hl ht fun hnl => hr ?_
      rw [List.flatten_append, hnl, List.isEmpty_iff.1 he]
      rfl
    · refine Or.inr (Or.inr ?_)
      have hle := h.channel.cursors
      unfold onBinaryDataReceived
      rw [if_neg he]
      dsimp only
      rw [List.length_append, List.length_singleton]
      omega

theorem PlaybackKept.synthesisCompleted (h : PlaybackKept p) (hg : p.synthesis = .going)
    (ho : p.received.flatten ≠ []) :
    PlaybackKept { p with channel := p.channel.onSynthesisCompleted, synthesis := .completed } := by
  have hn : p.synthesis ≠ .failed := by rw [hg]; exact nofun
  have hsn : ¬(p.channel.play = false ∨ p.stage = .stopPlay) := by
    intro hs
    rcases h.played hs with hf | ⟨hc, -⟩
    · exact absurd hf hn
    · exact absurd (hg.symm.trans hc) nofun
  have hm : ∃ runing, p.channel.onSynthesisCompleted = { p.channel with runing := runing } := by
    unfold onSynthesisCompleted
    split_ifs
    · exact ⟨false, rfl⟩
    · exact ⟨p.channel.runing, rfl⟩
  obtain ⟨runing, hm⟩ := hm
  rw [hm]
  refine ⟨h.channel.flags p.channel.started p.channel.play runing, fun _ => h.flow hn,
    fun _ => h.started hn, fun hq => absurd (hg.symm.trans (h.queued hq)) nofun,
    fun _ => h.running (Or.inl hg), nofun, h.frame, fun hs => absurd hs hsn, nofun, fun _ => ho,
    h.more⟩

theorem PlaybackKept.taskFailed (h : PlaybackKept p) (hg : p.synthesis = .going) :
    PlaybackKept { p with channel := p.channel.onTaskFailed, synthesis := .failed } where
  channel := h.channel.flags false false false
  flow hn := absurd rfl hn
  started hn := absurd rfl hn
  queued hq := absurd (hg.symm.trans (h.queued hq)) nofun
  running := nofun
  silent := nofun
  frame := h.frame
  played _ := Or.inl rfl
  failed _ := rfl
  audio := nofun
  more := nofun

end Steps

variable (size : Nat)

theorem playbackKept_step (p : Playback) (input : PlaybackInput) (h : PlaybackKept p)
    (ho : PlaybackOrderly size p input) : PlaybackKept (p.step size input).1 := by
  unfold Playback.step
  cases input with
  | store => exact h.store
  | pause => exact h.quiet _ _
  | resume => exact h.quiet _ _
  | stop request => exact h.quiet _ _
  | synthMain started => exact h.synthMain started
  | binaryDataReceived data =>
    split_ifs with hg
    · exact h.binaryDataReceived hg data
    · exact h
  | synthesisCompleted =>
    split_ifs with hg
    · exact h.synthesisCompleted hg (ho hg)
    · exact h
  | taskFailed =>
    split_ifs with hg
    · exact h.taskFailed hg
    · exact h
  | channelClosed => exact h
  | read => exact h.read ho

/-! ## The event -/

theorem streamRead_cases (p : Playback) :
    p.streamRead.2 = [] ∧ p.streamRead.1.synthChannel = p.synthChannel ∧ p.streamRead.1.pending = p.pending ∨
    (∃ request, p.synthChannel.stopResponse = none ∧ p.synthChannel.speakRequest = some request ∧
      (p.synthChannel.aliSynthCh.isSome && p.channel.play) = false ∧ p.streamRead =
        ({ p with synthChannel := { p.synthChannel with speakRequest := none } }, [.speakComplete request])) ∨
    ∃ request, p.synthChannel.stopResponse = some request ∧ p.streamRead =
      ({ p with synthChannel := { p.synthChannel with stopResponse := none, speakRequest := none, paused := false } },
        [.response request MrcpV2Transport.statusCodeSuccess .complete]) := by
  unfold Playback.streamRead
  cases p.synthChannel.stopResponse with
  | some request => exact Or.inr (Or.inr ⟨request, rfl, rfl⟩)
  | none =>
    cases p.synthChannel.speakRequest with
    | none => exact Or.inl ⟨rfl, rfl, rfl⟩
    | some request =>
      split_ifs with hs hp
      · exact Or.inl ⟨rfl, rfl, rfl⟩
      · exact Or.inl ⟨rfl, rfl, rfl⟩
      · exact Or.inr (Or.inl ⟨request, rfl, rfl, Bool.eq_false_iff.2 hp, rfl⟩)

theorem read_silent {p : Playback} (hs : p.stage ≠ .outside) (size : Nat) :
    (p.read size).2 = [] ∧ (p.read size).1.synthChannel = p.synthChannel ∧ (p.read size).1.pending = p.pending := by
  unfold Playback.read
  cases hr : p.stage with
  | outside => exact absurd hr hs
  | readVoiceData =>
    rcases readVoiceData_cases p with ⟨-, -, heq⟩ | ⟨-, -, data, voiceQueue, -, heq⟩ | ⟨-, heq⟩ <;> rw [heq] <;>
      exact ⟨rfl, rfl, rfl⟩
  | readVoiceFrameData => exact ⟨rfl, rfl, rfl⟩
  | stopPlay => exact ⟨rfl, rfl, rfl⟩

theorem read_outside {p : Playback} (hs : p.stage = .outside) (size : Nat) : p.read size = p.streamRead := by
  unfold Playback.read
  rw [hs]

theorem read_synthesis (p : Playback) (size : Nat) : (p.read size).1.synthesis = p.synthesis := by
  unfold Playback.read
  cases p.stage with
  | outside =>
    unfold Playback.streamRead
    cases p.synthChannel.stopResponse with
    | some request => rfl
    | none =>
      cases p.synthChannel.speakRequest with
      | none => rfl
      | some request => dsimp only; split_ifs <;> rfl
  | readVoiceData =>
    rcases readVoiceData_cases p with ⟨-, -, heq⟩ | ⟨-, -, data, voiceQueue, -, heq⟩ | ⟨-, heq⟩ <;> rw [heq]
  | readVoiceFrameData => rfl
  | stopPlay => rfl

theorem synthMain_synthChannel (p : Playback) (started : Bool) :
    (p.synthMain started).synthChannel = p.synthChannel ∧ (p.synthMain started).pending = p.pending := by
  unfold Playback.synthMain
  cases p.worker with
  | queued => dsimp only; split_ifs <;> exact ⟨rfl, rfl⟩
  | running => dsimp only; split_ifs <;> exact ⟨rfl, rfl⟩
  | finished => exact ⟨rfl, rfl⟩

theorem step_aliSynthCh (p : Playback) (input : PlaybackInput) :
    (p.step size input).1.synthChannel.aliSynthCh = p.synthChannel.aliSynthCh := by
  unfold Playback.step
  cases input with
  | store =>
    unfold Playback.store
    cases p.pending <;> rfl
  | synthMain started => exact congrArg SynthChannel.aliSynthCh (synthMain_synthChannel p started).1
  | binaryDataReceived data => dsimp only; split_ifs <;> rfl
  | synthesisCompleted => dsimp only; split_ifs <;> rfl
  | taskFailed => dsimp only; split_ifs <;> rfl
  | read =>
    by_cases hs : p.stage = .outside
    · rw [read_outside hs]
      rcases streamRead_cases p with ⟨-, hm, -⟩ | ⟨request, -, -, -, heq⟩ | ⟨request, -, heq⟩
      · rw [hm]
      · rw [heq]
      · rw [heq]
    · rw [(read_silent hs size).2.1]
  | pause => rfl
  | resume => rfl
  | stop request => rfl
  | channelClosed => rfl

theorem PlaybackKept.completeRight {p : Playback} (h : PlaybackKept p) (hc : p.synthChannel.aliSynthCh.isSome)
    (size : Nat) (input : PlaybackInput) : CompleteRight size p input := by
  intro hs
  cases input with
  | read =>
    have hr : (p.step size .read).2 = (p.read size).2 := rfl
    rw [hr] at hs
    by_cases ht : p.stage = .outside
    · rw [read_outside ht] at hs
      rcases streamRead_cases p with ⟨hn, -⟩ | ⟨request, -, -, hp, -⟩ | ⟨request, -, heq⟩
      · rw [hn] at hs
        exact absurd rfl hs
      · rw [hc, Bool.true_and] at hp
        exact h.played (Or.inl hp)
      · rw [heq] at hs
        exact absurd rfl hs
    · rw [(read_silent ht size).1] at hs
      exact absurd rfl hs
  | store => exact absurd rfl hs
  | pause => exact absurd rfl hs
  | resume => exact absurd rfl hs
  | stop request => exact absurd rfl hs
  | synthMain started => exact absurd rfl hs
  | binaryDataReceived data => exact absurd rfl hs
  | synthesisCompleted => exact absurd rfl hs
  | taskFailed => exact absurd rfl hs
  | channelClosed => exact absurd rfl hs

end UniMrcp.AliSynth
