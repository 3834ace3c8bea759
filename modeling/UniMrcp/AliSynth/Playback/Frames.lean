import UniMrcp.AliSynth.Playback

/-!
# The frames that are read

Calls of `readVoiceData`, one after the other, with chunks that are put into the queue between them.
-/

namespace UniMrcp.AliSynth

open Lib List

/-! ## Calls -/

/-- The bytes that a call copies, the zeros behind them, whether it reads only what is in the buffer, and the buffers it
frees. -/
structure VoiceRead where
  copied : List UInt8 := []
  zeros : Nat := 0
  inside : Bool := true
  freed : List (List UInt8) := []
deriving DecidableEq

def AliSynthChannel.held (channel : AliSynthChannel) : List (List UInt8) :=
  channel.voiceFrame.buffer.toList ++ channel.voiceQueue

/-- `readVoiceFrameData`, and the `memcpy`, `memset` and `delete[]` of it. -/
def AliSynthChannel.frameRead (channel : AliSynthChannel) (size : Nat) : AliSynthChannel × VoiceRead :=
  let (next, copied, stopPlay) := channel.readVoiceFrameData size
  let length := min size channel.voiceFrame.size
  ({ next with play := next.play && !stopPlay },
    { copied
      zeros := size - length
      inside := decide (channel.voiceFrame.cur + length ≤ (channel.voiceFrame.buffer.getD []).length)
      freed := if next.voiceFrame.buffer.isSome then [] else channel.voiceFrame.buffer.toList })

def AliSynthChannel.readVoiceData (channel : AliSynthChannel) (size : Nat) : AliSynthChannel × VoiceRead :=
  if channel.play then
    if channel.voiceFrame.size ≠ 0 then channel.frameRead size
    else
      match channel.voiceQueue with
      | data :: voiceQueue =>
        AliSynthChannel.frameRead { channel with
          voiceFrame := ⟨some data, data.length, 0, channel.voiceQueue.length⟩, voiceQueue := voiceQueue } size
      | [] => (channel, { zeros := size })
  else (channel, { zeros := size })

inductive VoiceOp
  | start (speakText : List UInt8) (engineCh : Nat)
  /-- `synthMain` puts a chunk into the queue. -/
  | push (data : List UInt8)
  | readVoiceData
deriving DecidableEq

/-- `start` frees the buffers that the channel has. -/
def voiceStep (size : Nat) (channel : AliSynthChannel) : VoiceOp → AliSynthChannel × VoiceRead
  | .start speakText engineCh =>
    match channel.start speakText engineCh with
    | some started => (started, { freed := channel.held })
    | none => (channel, {})
  | .push data => ({ channel with voiceQueue := channel.voiceQueue ++ [data] }, {})
  | .readVoiceData => channel.readVoiceData size

def AliSynthChannel.audio (channel : AliSynthChannel) : List UInt8 := channel.rest ++ channel.voiceQueue.flatten

def VoiceOp.pushed : VoiceOp → List (List UInt8)
  | .push data => [data]
  | _ => []

def VoiceOp.starts : VoiceOp → Bool
  | .start speakText _ => !speakText.isEmpty
  | _ => false

/-- **What holds of a call of `readVoiceData`.** It reads nothing outside the chunk, and frees what the channel held.
The frame has the next bytes, with zeros only where a chunk ends. -/
structure ReadRight (size : Nat) (channel : AliSynthChannel) (r : AliSynthChannel × VoiceRead) : Prop where
  inside : r.2.inside
  freed : channel.held = r.2.freed ++ r.1.held
  audio : channel.audio = r.2.copied ++ r.1.audio
  whole : r.2.copied.length + r.2.zeros = size
  zeros : r.2.zeros ≠ 0 → channel.play = false ∨ channel.audio = [] ∨ r.2.copied ≠ [] ∧ r.1.rest = []
  played : channel.play → r.1.play = false → r.1.audio = []

/-- **What holds of a step.** `start` leaves nothing to be read. -/
def StepRight (size : Nat) (channel : AliSynthChannel) (op : VoiceOp) : Prop :=
  match op with
  | .start speakText _ => speakText ≠ [] → (voiceStep size channel op).2.freed = channel.held ∧
      (voiceStep size channel op).1.held = [] ∧ (voiceStep size channel op).1.audio = []
  | .push data => (voiceStep size channel op).1.held = channel.held ++ [data] ∧
      (voiceStep size channel op).1.audio = channel.audio ++ data
  | .readVoiceData => ReadRight size channel (voiceStep size channel op)

/-! ## Steps -/

structure VoiceKept (channel : AliSynthChannel) : Prop where
  kept : ChannelKept channel
  voice : channel.voice = []
  buffer : channel.voiceFrame.size = 0 → channel.voiceFrame.buffer = none

variable {channel : AliSynthChannel}

theorem voiceKept_initial : VoiceKept .initial :=
  ⟨⟨rfl, nofun, nofun, Nat.le_refl 0, fun h => absurd rfl h⟩, rfl, fun _ => rfl⟩

theorem left_eq_audio (h : channel.voice = []) : channel.left = channel.audio := by
  unfold AliSynthChannel.left AliSynthChannel.audio
  rw [h, drop_nil, flatten_nil, append_nil]

theorem VoiceKept.frameRead (h : VoiceKept channel) (hs : channel.voiceFrame.size ≠ 0) (size : Nat) :
    ReadRight size channel (channel.frameRead size) ∧ VoiceKept (channel.frameRead size).1 := by
  obtain ⟨data, hb⟩ : ∃ data, channel.voiceFrame.buffer = some data := by
    cases hb : channel.voiceFrame.buffer with
    | none =>
      have hf := h.kept.frame
      rw [AliSynthChannel.rest, hb, Option.getD_none, drop_nil] at hf
      exact absurd hf.symm hs
    | some data => exact ⟨data, rfl⟩
  have hr : (data.drop channel.voiceFrame.cur).length = channel.voiceFrame.size := by
    rw [← h.kept.frame, AliSynthChannel.rest, hb, Option.getD_some]
  -- the bytes of the chunk that are copied, and its buffer after that
  have hf : (channel.readVoiceFrameData size).2.1.length = min size channel.voiceFrame.size ∧
      (channel.readVoiceFrameData size).1.voiceFrame.buffer =
        if size < channel.voiceFrame.size then some data else none := by
    unfold AliSynthChannel.readVoiceFrameData
    by_cases hlt : size < channel.voiceFrame.size
    · simp [hb, hlt, hr]
    · simp [hb, hlt, hr, Nat.le_of_not_lt hlt]
  obtain ⟨voiceFrame, copied, heq, hk, hl, hx⟩ := h.kept.readVoiceFrameData size
  rw [heq] at hf
  obtain ⟨hc, hb'⟩ := hf
  dsimp only at hc hb'
  rw [left_eq_audio h.voice, (left_eq_audio h.voice : AliSynthChannel.left { channel with voiceFrame := voiceFrame } = _)] at hl
  have hr' : voiceFrame.size = 0 → AliSynthChannel.rest { channel with voiceFrame := voiceFrame } = [] :=
    fun hz => length_eq_zero_iff.1 (hk.frame.trans hz)
  rw [length_drop] at hr
  unfold AliSynthChannel.frameRead
  rw [heq, hb]
  dsimp only
  rw [hb']
  refine ⟨⟨decide_eq_true ?_, ?_, hl.symm, ?_, fun hze => ?_, fun hp ht => ?_⟩,
    ⟨hk.frame, hk.queue, hk.voice, hk.cursors, hk.item⟩, h.voice, fun hz => ?_⟩
  · rw [Option.getD_some]
    omega
  · show channel.voiceFrame.buffer.toList ++ channel.voiceQueue = _ ++ (voiceFrame.buffer.toList ++ channel.voiceQueue)
    rw [hb, hb']
    by_cases hlt : size < channel.voiceFrame.size
    · rw [if_pos hlt]
      rfl
    · rw [if_neg hlt]
      rfl
  · show copied.length + (size - min size channel.voiceFrame.size) = size
    omega
  · have hze : size - min size channel.voiceFrame.size ≠ 0 := hze
    refine Or.inr (Or.inr ⟨fun hn => ?_, hr' (by omega)⟩)
    have hn : copied = [] := hn
    rw [hn, length_nil] at hc
    omega
  · rw [hp, Bool.true_and, Bool.not_eq_false', decide_eq_true_eq] at ht
    show AliSynthChannel.rest { channel with voiceFrame := voiceFrame } ++ channel.voiceQueue.flatten = []
    rw [hr' (by omega), ht.2.2]
    rfl
  · have hz : voiceFrame.size = 0 := hz
    exact hb'.trans (if_neg (by omega))

theorem VoiceKept.readVoiceData (h : VoiceKept channel) (size : Nat) :
    ReadRight size channel (channel.readVoiceData size) ∧ VoiceKept (channel.readVoiceData size).1 := by
  have hsl : channel.play = false ∨ channel.audio = [] →
      ReadRight size channel (channel, { zeros := size }) ∧ VoiceKept channel := fun hnn =>
    ⟨⟨rfl, rfl, rfl, Nat.zero_add _, fun _ => hnn.imp_right Or.inl,
      fun hp hn => absurd (hp.symm.trans hn) Bool.false_ne_true.symm⟩, h⟩
  unfold AliSynthChannel.readVoiceData
  split_ifs with hp hs
  · exact h.frameRead hs size
  · have hs := not_not.1 hs
    have hrs : channel.rest = [] := length_eq_zero_iff.1 (h.kept.frame.trans hs)
    split
    · rename_i data voiceQueue hq
      obtain ⟨hk, -, hd⟩ := h.kept.pop hs hq
      have hl : data.length ≠ 0 := fun hz => hd (length_eq_zero_iff.1 hz)
      have hpp : VoiceKept { channel with
          voiceFrame := ⟨some data, data.length, 0, channel.voiceQueue.length⟩, voiceQueue := voiceQueue } :=
        ⟨hk, h.voice, fun hz => absurd hz hl⟩
      obtain ⟨hr, hx⟩ := hpp.frameRead hl size
      have hh : channel.held = data :: voiceQueue := by
        rw [AliSynthChannel.held, h.buffer hs, hq]
        rfl
      have ha : channel.audio = data ++ voiceQueue.flatten := by
        rw [AliSynthChannel.audio, hrs, hq, flatten_cons, nil_append]
      refine ⟨⟨hr.inside, hh.trans hr.freed, ha.trans hr.audio, hr.whole, fun hze => ?_, hr.played⟩, hx⟩
      exact (hr.zeros hze).imp_right (Or.imp_left fun hnl => ha.trans hnl)
    · rename_i hq
      refine hsl (Or.inr ?_)
      rw [AliSynthChannel.audio, hrs, hq]
      rfl
  · exact hsl (Or.inl (Bool.eq_false_iff.2 hp))

theorem voiceKept_step (h : VoiceKept channel) (size : Nat) (op : VoiceOp) (hp : ∀ data ∈ op.pushed, data ≠ []) :
    StepRight size channel op ∧ VoiceKept (voiceStep size channel op).1 := by
  cases op with
  | start speakText engineCh =>
    cases speakText with
    | nil => exact ⟨fun hne => absurd rfl hne, h⟩
    | cons first rest =>
      have hs : channel.start (first :: rest) engineCh = some _ := rfl
      exact ⟨fun _ => ⟨rfl, rfl, rfl⟩, (channelKept_start hs).1, rfl, fun _ => rfl⟩
  | push data =>
    refine ⟨⟨(append_assoc ..).symm, ?_⟩, ⟨h.kept.frame, ?_, h.kept.voice, h.kept.cursors, fun hz => ?_⟩,
      h.voice, h.buffer⟩
    · show channel.rest ++ (channel.voiceQueue ++ [data]).flatten = channel.rest ++ channel.voiceQueue.flatten ++ data
      simp
    · exact forall_mem_append.2 ⟨h.kept.queue, hp⟩
    · obtain ⟨ho, hle⟩ := h.kept.item hz
      refine ⟨ho, Nat.le_trans hle ?_⟩
      show _ ≤ (channel.voiceQueue ++ [data]).length + 1
      rw [length_append]
      omega
  | readVoiceData => exact h.readVoiceData size

/-! ## Runs -/

def pushed (ops : List VoiceOp) : List (List UInt8) := ops.flatMap VoiceOp.pushed

def Proper (ops : List VoiceOp) : Prop := ∀ data ∈ pushed ops, data ≠ []

theorem Proper.append {ops ops' : List VoiceOp} (h : Proper ops) (h' : Proper ops') : Proper (ops ++ ops') := by
  unfold Proper pushed
  rw [flatMap_append]
  exact forall_mem_append.2 ⟨h, h'⟩

variable {ops : List VoiceOp}

theorem voiceKept_run (h : VoiceKept channel) (size : Nat) (ho : Proper ops) :
    VoiceKept (run (voiceStep size) channel ops).1 ∧ EachStep (voiceStep size) (StepRight size) channel ops := by
  induction ops generalizing channel with
  | nil => exact ⟨h, trivial⟩
  | cons op ops ih =>
    obtain ⟨hp, ho⟩ := forall_mem_append.1 ho
    obtain ⟨hr, hk⟩ := voiceKept_step h size op hp
    obtain ⟨hl, hs⟩ := ih hk ho
    exact ⟨hl, hr, hs⟩

variable {size : Nat}

theorem freed_held (h : EachStep (voiceStep size) (StepRight size) channel ops) :
    (run (voiceStep size) channel ops).2.flatMap VoiceRead.freed ++ (run (voiceStep size) channel ops).1.held =
      channel.held ++ pushed ops := by
  induction ops generalizing channel with
  | nil => exact (append_nil _).symm
  | cons op ops ih =>
    obtain ⟨hr, hs⟩ := h
    have ho : channel.held ++ op.pushed = (voiceStep size channel op).2.freed ++ (voiceStep size channel op).1.held := by
      cases op with
      | start speakText engineCh =>
        cases speakText with
        | nil => exact append_nil _
        | cons first rest => rfl
      | push data => exact hr.1.symm
      | readVoiceData => exact (append_nil _).trans hr.freed
    rw [run_cons, flatMap_cons, append_assoc, ih hs, ← append_assoc, ← ho, append_assoc]
    rfl

theorem copied_audio (h : EachStep (voiceStep size) (StepRight size) channel ops)
    (hp : ∀ op ∈ ops, op.starts = false) :
    (run (voiceStep size) channel ops).2.flatMap VoiceRead.copied ++ (run (voiceStep size) channel ops).1.audio =
      channel.audio ++ (pushed ops).flatten := by
  induction ops generalizing channel with
  | nil => exact (append_nil _).symm
  | cons op ops ih =>
    obtain ⟨hr, hs⟩ := h
    obtain ⟨hp, hrs⟩ := forall_mem_cons.1 hp
    have ho : channel.audio ++ op.pushed.flatten =
        (voiceStep size channel op).2.copied ++ (voiceStep size channel op).1.audio := by
      cases op with
      | start speakText engineCh =>
        cases speakText with
        | nil => exact append_nil _
        | cons first rest => cases hp
      | push data => simpa [voiceStep, VoiceOp.pushed] using hr.2.symm
      | readVoiceData => exact (append_nil _).trans hr.audio
    rw [run_cons, flatMap_cons, append_assoc, ih hs hrs, ← append_assoc, ← ho, append_assoc]
    simp [pushed]

/-- **The voice of a speech is a FIFO of bytes**, whose frames are filled up with zeros at the end of each chunk. What
is copied after `start` are the chunks in order, each of which is freed once. -/
theorem voice_fifo (size : Nat) (before after : List VoiceOp) (speakText : List UInt8) (engineCh : Nat)
    (htext : speakText ≠ []) (hbefore : Proper before) (hafter : Proper after)
    (hplain : ∀ op ∈ after, op.starts = false) :
    EachStep (voiceStep size) (StepRight size) .initial (before ++ .start speakText engineCh :: after) ∧
      (run (voiceStep size) .initial (before ++ .start speakText engineCh :: after)).2.flatMap VoiceRead.freed ++
          (run (voiceStep size) .initial (before ++ .start speakText engineCh :: after)).1.held =
        pushed (before ++ .start speakText engineCh :: after) ∧
      (run (voiceStep size) (run (voiceStep size) .initial (before ++ [.start speakText engineCh])).1 after).2.flatMap
          VoiceRead.copied ++ (run (voiceStep size) .initial (before ++ .start speakText engineCh :: after)).1.audio =
        (pushed after).flatten := by
  have hstart : Proper (before ++ [.start speakText engineCh]) := hbefore.append (forall_mem_nil _)
  rw [append_cons]
  obtain ⟨-, hsteps⟩ := voiceKept_run voiceKept_initial size (hstart.append hafter)
  obtain ⟨hfirst, hsecond⟩ := (eachStep_append _ _ _ _).1 hsteps
  refine ⟨hsteps, freed_held hsteps, ?_⟩
  have haudio : (run (voiceStep size) .initial (before ++ [.start speakText engineCh])).1.audio = [] := by
    rw [run_append]
    exact ((eachStep_at hfirst).2 htext).2.2
  rw [run_append _ _ _ after]
  exact (copied_audio hsecond hplain).trans (congrArg (· ++ _) haudio)

def twoChunks : List VoiceOp := [.push [1, 2, 3], .push [4], .readVoiceData, .readVoiceData, .readVoiceData]

theorem proper_twoChunks : Proper twoChunks := by simp [Proper, pushed, twoChunks, VoiceOp.pushed]

theorem voice_fifo_twoChunks :
    (run (voiceStep 2) (run (voiceStep 2) .initial [.start [65] 0]).1 twoChunks).2.flatMap VoiceRead.copied ++
      (run (voiceStep 2) .initial (.start [65] 0 :: twoChunks)).1.audio = [1, 2, 3, 4] :=
  (voice_fifo 2 [] twoChunks [65] 0 (cons_ne_nil _ _) (forall_mem_nil _) proper_twoChunks (by decide)).2.2

/-- **There is a gap between two chunks**: a zero is put behind the first one, while the second one is in the queue. -/
theorem not_gapless : ¬ ∀ (size : Nat) (ops : List VoiceOp), 0 < size → Proper ops →
    EachStep (voiceStep size) (fun channel op =>
      (voiceStep size channel op).2.zeros ≠ 0 → (voiceStep size channel op).1.voiceQueue = []) .initial ops := by
  intro h
  exact absurd (h 2 (.start [65] 0 :: twoChunks) Nat.two_pos proper_twoChunks) (by decide)

end UniMrcp.AliSynth
