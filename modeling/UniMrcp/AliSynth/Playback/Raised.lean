import UniMrcp.AliSynth.Playback
import UniMrcp.Lib.Run

/-!
# SPEAK-COMPLETE is sent once
-/

namespace UniMrcp.AliSynth

open Lib AliSynthChannel Playback

/-- A part of a run in which the media engine and `synthMain` both go on, without PAUSE and STOP. -/
structure FairBlock (block : List PlaybackInput) : Prop where
  read : .read ∈ block
  synthMain : ∃ started, .synthMain started ∈ block
  notPaused : .pause ∉ block
  notStopped : ∀ request, .stop request ∉ block

/-- **What should hold of a run.** -/
structure PlaybackRight (size : Nat) (start : Playback) (inputs : List PlaybackInput) : Prop where
  complete : EachStep (Playback.step size) (CompleteRight size) start inputs
  once : speakCompletes (run (Playback.step size) start inputs).2.flatten ≤ 1
  /-- When the synthesis has ended, it is sent after finitely many reads. -/
  raised : (∀ request, .stop request ∉ inputs) →
    let p := (run (Playback.step size) start inputs).1
    p.synthesis = .completed ∨ p.synthesis = .failed → p.pending = none → p.synthChannel.paused = false →
      ∃ n, ∀ blocks : List (List PlaybackInput), n ≤ blocks.length → (∀ block ∈ blocks, FairBlock block) →
        EachStep (Playback.step size) (PlaybackOrderly size) p blocks.flatten →
        speakCompletes (run (Playback.step size) start (inputs ++ blocks.flatten)).2.flatten = 1

/-! ## The number of events -/

def Playback.owed (p : Playback) : Nat := p.pending.toList.length + p.synthChannel.speakRequest.toList.length

def Playback.Unstopped (p : Playback) : Prop :=
  p.synthChannel.stopResponse = none ∧ (p.pending.isSome → p.synthChannel.speakRequest = none)

theorem owed_of_same {p q : Playback} (hs : q.synthChannel.speakRequest = p.synthChannel.speakRequest)
    (hp : q.pending = p.pending) : q.owed = p.owed := by
  unfold owed
  rw [hs, hp]

theorem unstopped_of_same {p q : Playback} (h : p.Unstopped) (hc : q.synthChannel = p.synthChannel)
    (hp : q.pending = p.pending) : q.Unstopped := by
  unfold Playback.Unstopped at h ⊢
  rwa [hc, hp]

theorem step_owed (size : Nat) (p : Playback) (input : PlaybackInput) :
    speakCompletes (p.step size input).2 + (p.step size input).1.owed ≤ p.owed ∧
      (p.Unstopped → (∀ request, input ≠ .stop request) → (p.step size input).1.Unstopped ∧
        speakCompletes (p.step size input).2 + (p.step size input).1.owed = p.owed) := by
  have hs : ∀ q : Playback, q.synthChannel = p.synthChannel → q.pending = p.pending →
      speakCompletes [] + q.owed ≤ p.owed ∧ (p.Unstopped → (∀ request, input ≠ .stop request) → q.Unstopped ∧
        speakCompletes [] + q.owed = p.owed) := by
    intro q hc hp
    have ho : speakCompletes [] + q.owed = p.owed :=
      (Nat.zero_add _).trans (owed_of_same (congrArg SynthChannel.speakRequest hc) hp)
    exact ⟨ho.le, fun hu _ => ⟨unstopped_of_same hu hc hp, ho⟩⟩
  unfold step
  cases input with
  | store =>
    unfold Playback.store
    cases hp : p.pending with
    | none => exact hs p rfl rfl
    | some request =>
      have ho : p.owed = 1 + p.synthChannel.speakRequest.toList.length := by
        unfold owed
        rw [hp]
        rfl
      rw [ho]
      refine ⟨Nat.le_add_right 1 _, fun hu _ => ⟨⟨hu.1, nofun⟩, ?_⟩⟩
      rw [hu.2 (by rw [hp]; rfl)]
      rfl
  | pause => exact ⟨(Nat.zero_add _).le, fun hu _ => ⟨hu, Nat.zero_add _⟩⟩
  | resume => exact ⟨(Nat.zero_add _).le, fun hu _ => ⟨hu, Nat.zero_add _⟩⟩
  | stop request => exact ⟨(Nat.zero_add _).le, fun _ hno => absurd rfl (hno request)⟩
  | synthMain started =>
    obtain ⟨hc, hp⟩ := synthMain_synthChannel p started
    exact hs _ hc hp
  | binaryDataReceived data => dsimp only; split_ifs <;> exact hs _ rfl rfl
  | synthesisCompleted => dsimp only; split_ifs <;> exact hs _ rfl rfl
  | taskFailed => dsimp only; split_ifs <;> exact hs _ rfl rfl
  | channelClosed => exact hs p rfl rfl
  | read =>
    by_cases ht : p.stage = .outside
    · rw [read_outside ht]
      rcases streamRead_cases p with ⟨hn, hc, hp⟩ | ⟨request, -, hsp, -, heq⟩ | ⟨request, hst, heq⟩
      · rw [hn]
        exact hs _ hc hp
      · rw [heq]
        have ho : p.owed = p.pending.toList.length + 1 := by
          unfold owed
          rw [hsp]
          rfl
        have h : speakCompletes [.speakComplete request] +
            owed { p with synthChannel := { p.synthChannel with speakRequest := none } } = p.owed := by
          rw [ho, Nat.add_comm]
          rfl
        exact ⟨h.le, fun hu _ => ⟨⟨hu.1, fun _ => rfl⟩, h⟩⟩
      · rw [heq]
        refine ⟨?_, fun hu _ => absurd (hu.1.symm.trans hst) nofun⟩
        exact (Nat.zero_add _).trans_le (Nat.add_le_add_left (Nat.zero_le _) _)
    · obtain ⟨hn, hc, hp⟩ := read_silent ht size
      rw [hn]
      exact hs _ hc hp

theorem speakCompletes_flatten (outputs : List (List PlaybackOutput)) :
    speakCompletes outputs.flatten = (outputs.map speakCompletes).sum :=
  List.countP_flatten ..

/-! ## What is to be done -/

/-- What is to be done before the playback ends: bytes to be read, chunks to be queued, and `m_Play` to be cleared. -/
def AliSynthChannel.load (channel : AliSynthChannel) : Nat :=
  channel.left.length + (if channel.play then 1 else 0) + (channel.voice.length - channel.cursors)

def Playback.ready (p : Playback) : Bool :=
  !p.channel.play || p.stage == .stopPlay || p.channel.voiceFrame.size != 0 || !p.channel.voiceQueue.isEmpty

theorem ready_iff (p : Playback) : p.ready ↔ p.channel.play = false ∨ p.stage = .stopPlay ∨
    p.channel.voiceFrame.size ≠ 0 ∨ p.channel.voiceQueue ≠ [] := by
  simp [ready, or_assoc]

def ReadStage.rank : ReadStage → Bool → Nat
  | .outside, play => if play then 3 else 1
  | .readVoiceData, _ => 2
  | .readVoiceFrameData, _ => 1
  | .stopPlay, _ => 2

theorem ReadStage.rank_bounds (stage : ReadStage) (play : Bool) : 1 ≤ stage.rank play ∧ stage.rank play ≤ 3 := by
  cases stage <;> cases play <;> decide

def Playback.rank (p : Playback) : Nat := if p.ready then p.stage.rank p.channel.play else 4

theorem rank_of_ready {p : Playback} (hr : p.ready) : p.rank = p.stage.rank p.channel.play := if_pos hr

theorem rank_of_not_ready {p : Playback} (hr : ¬p.ready = true) : p.rank = 4 := if_neg hr

def Playback.work (p : Playback) : Nat := 4 * p.channel.load + p.rank

theorem rank_bounds (p : Playback) : 1 ≤ p.rank ∧ p.rank ≤ 4 := by
  have hb := p.stage.rank_bounds p.channel.play
  unfold rank
  split_ifs
  · omega
  · omega

theorem work_lt_of_load {p q : Playback} (h : q.channel.load < p.channel.load) : q.work < p.work := by
  have hq := (rank_bounds q).2
  have hp := (rank_bounds p).1
  unfold work
  omega

theorem work_lt_of_rank {p q : Playback} (hl : q.channel.load ≤ p.channel.load) (hr : q.rank < p.rank) :
    q.work < p.work := by
  unfold work
  omega

structure Awaiting (p : Playback) : Prop where
  kept : PlaybackKept p
  ended : p.synthesis = .completed ∨ p.synthesis = .failed
  stored : p.pending = none
  asked : p.synthChannel.speakRequest.isSome
  unpaused : p.synthChannel.paused = false
  unstopped : p.synthChannel.stopResponse = none

section Awaiting

variable {p : Playback}

theorem Awaiting.of_same (h : Awaiting p) {q : Playback} (hk : PlaybackKept q)
    (hc : q.synthChannel = p.synthChannel) (hp : q.pending = p.pending) (hs : q.synthesis = p.synthesis) : Awaiting q := by
  refine ⟨hk, ?_, ?_, ?_, ?_, ?_⟩
  · rw [hs]
    exact h.ended
  · rw [hp]
    exact h.stored
  · rw [hc]
    exact h.asked
  · rw [hc]
    exact h.unpaused
  · rw [hc]
    exact h.unstopped

theorem Awaiting.notGoing (h : Awaiting p) : p.synthesis ≠ .going := by
  rcases h.ended with hc | hf
  · rw [hc]
    exact nofun
  · rw [hf]
    exact nofun

/-! ### The reads -/

theorem Awaiting.streamRead (h : Awaiting p) :
    speakCompletes p.streamRead.2 ≠ 0 ∨
      p.channel.play ∧ p.streamRead = ({ p with stage := .readVoiceData }, []) := by
  obtain ⟨request, hs⟩ := Option.isSome_iff_exists.1 h.asked
  unfold Playback.streamRead
  rw [h.unstopped, hs, h.unpaused]
  dsimp only
  rw [if_neg Bool.false_ne_true]
  split_ifs with hp
  · exact Or.inr ⟨(Bool.and_eq_true_iff.1 hp).2, rfl⟩
  · exact Or.inl (Nat.succ_ne_zero 0)

theorem Awaiting.read_ready (h : Awaiting p) {size : Nat} (hsz : 0 < size) (hre : p.ready) :
    speakCompletes (p.read size).2 ≠ 0 ∨ (p.read size).1.work < p.work := by
  have hh := (ready_iff p).1 hre
  have hr := rank_of_ready hre
  cases hs : p.stage with
  | outside =>
    rw [read_outside hs]
    refine h.streamRead.imp_right fun ⟨hp, heq⟩ => ?_
    rw [heq]
    refine work_lt_of_rank (Nat.le_refl _) ?_
    rw [hr, hs, hp, rank_of_ready]
    · exact Nat.lt_succ_self 2
    · rw [ready_iff]
      refine hh.imp_right fun hrs => Or.inr (hrs.resolve_left ?_)
      rw [hs]
      exact nofun
  | readVoiceData =>
    right
    have hd : (p.read size).1 = p.readVoiceData := by unfold Playback.read; rw [hs]
    rw [hd]
    rcases readVoiceData_cases p with ⟨-, hm, heq⟩ | ⟨-, hz, data, voiceQueue, hq, heq⟩ | ⟨hnn, heq⟩
    · rw [heq]
      refine work_lt_of_rank (Nat.le_refl _) ?_
      rw [hr, hs, rank_of_ready]
      · exact Nat.lt_succ_self 1
      · exact (ready_iff _).2 (Or.inr (Or.inr (Or.inl hm)))
    · obtain ⟨-, hl, hdt⟩ := h.kept.channel.pop hz hq
      rw [heq]
      refine work_lt_of_rank ?_ ?_
      · unfold load
        rw [hl]
      · rw [hr, hs, rank_of_ready]
        · exact Nat.lt_succ_self 1
        · exact (ready_iff _).2 (Or.inr (Or.inr (Or.inl fun hn => hdt (List.length_eq_zero_iff.1 hn))))
    · rw [heq]
      have hp : p.channel.play = false := by
        rcases hnn with hp | ⟨hz, hq⟩
        · exact hp
        · rcases hh with hp | ht | hm | hm
          · exact hp
          · rw [hs] at ht
            cases ht
          · exact absurd hz hm
          · exact absurd hq hm
      refine work_lt_of_rank (Nat.le_refl _) ?_
      rw [hr, hs, rank_of_ready]
      · dsimp only
        rw [hp]
        decide
      · exact (ready_iff _).2 (Or.inl hp)
  | readVoiceFrameData =>
    right
    obtain ⟨voiceFrame, bytes, heq, hk, hl, hls⟩ := h.kept.channel.readVoiceFrameData size
    have hd : (p.read size).1.channel = { p.channel with voiceFrame := voiceFrame } := by
      unfold Playback.read
      rw [hs]
      unfold Playback.readVoiceFrameData
      rw [heq]
    have hm := h.kept.frame hs
    refine work_lt_of_load ?_
    rw [hd]
    unfold load AliSynthChannel.left
    dsimp only
    have hf := h.kept.channel.frame
    have hf' := hk.frame
    dsimp only at hf'
    rw [List.length_append, @List.length_append _ p.channel.rest, hf, hf']
    omega
  | stopPlay =>
    right
    have hd : (p.read size).1 = { p with channel := { p.channel with play := false }, stage := .outside } := by
      unfold Playback.read
      rw [hs]
    rw [hd]
    refine work_lt_of_rank ?_ ?_
    · show p.channel.left.length + 0 + (p.channel.voice.length - p.channel.cursors) ≤ p.channel.load
      unfold load
      omega
    · rw [hr, hs, rank_of_ready]
      · exact Nat.lt_succ_self 1
      · exact (ready_iff _).2 (Or.inl rfl)

theorem Awaiting.read_notReady (h : Awaiting p) (size : Nat) (hr : ¬p.ready = true) :
    speakCompletes (p.read size).2 ≠ 0 ∨ (p.read size).1.work = p.work ∧ ¬(p.read size).1.ready = true := by
  have hnn := mt (ready_iff p).2 hr
  rw [not_or, not_or, not_or, not_not, not_not] at hnn
  obtain ⟨hp, ht, hz, hq⟩ := hnn
  have ho : ∀ stage : ReadStage, stage ≠ .stopPlay →
      work { p with stage := stage } = p.work ∧ ¬ready { p with stage := stage } = true := by
    intro stage hs
    have hn : ¬ready { p with stage := stage } = true := by
      rw [ready_iff]
      rintro (hp' | ht' | hm | hm)
      · exact hp hp'
      · exact hs ht'
      · exact hm hz
      · exact hm hq
    refine ⟨?_, hn⟩
    unfold work
    rw [rank_of_not_ready hr, rank_of_not_ready hn]
  cases hs : p.stage with
  | outside =>
    rw [read_outside hs]
    refine h.streamRead.imp_right fun ⟨_, heq⟩ => ?_
    rw [heq]
    exact ho .readVoiceData nofun
  | readVoiceData =>
    right
    have hre : (p.read size).1 = p.readVoiceData := by unfold Playback.read; rw [hs]
    rw [hre]
    rcases readVoiceData_cases p with ⟨-, hm, -⟩ | ⟨-, -, data, voiceQueue, hsm, -⟩ | ⟨-, heq⟩
    · exact absurd hz hm
    · rw [hq] at hsm
      cases hsm
    · rw [heq]
      exact ho .outside nofun
  | readVoiceFrameData => exact absurd hz (h.kept.frame hs)
  | stopPlay => exact absurd hs ht

theorem Awaiting.read_same (h : Awaiting p) (size : Nat) : speakCompletes (p.read size).2 ≠ 0 ∨
    (p.read size).1.synthChannel = p.synthChannel ∧ (p.read size).1.pending = p.pending := by
  by_cases hs : p.stage = .outside
  · rw [read_outside hs]
    refine h.streamRead.imp_right fun ⟨_, heq⟩ => ?_
    rw [heq]
    exact ⟨rfl, rfl⟩
  · exact Or.inr (read_silent hs size).2

/-! ### The worker -/

theorem Awaiting.notQueued (h : Awaiting p) : p.worker ≠ .queued := by
  intro hw
  have hn := h.kept.queued hw
  rcases h.ended with hc | hf
  · exact absurd (hn.symm.trans hc) nofun
  · exact absurd (hn.symm.trans hf) nofun

theorem Awaiting.synthMain (h : Awaiting p) (started : Bool) :
    (p.synthMain started).work < p.work ∨
      (p.synthMain started).work = p.work ∧ (p.synthMain started).ready = p.ready ∧ p.ready := by
  have hs : p.synthesis = .failed → p.ready :=
    fun hf => (ready_iff p).2 (Or.inl (h.kept.failed hf))
  unfold Playback.synthMain
  cases hw : p.worker with
  | queued => exact absurd hw h.notQueued
  | running =>
    dsimp only
    split_ifs with hst
    · rcases transfer_cases p.channel with ⟨hsm, hn⟩ | ⟨hlt, -, hv⟩
      · right
        rw [hsm]
        refine ⟨rfl, rfl, ?_⟩
        by_contra hr
        have hi := mt (ready_iff p).2 hr
        rw [not_or, not_or, not_or, not_not, not_not] at hi
        obtain ⟨hp, ht, hz, hq⟩ := hi
        rcases h.ended with hc | hf
        · rcases h.kept.more (Bool.not_eq_false _ |>.mp hp) ht (h.kept.audio hc) with
            hm | hm | hm
          · exact hm hz
          · exact hm hq
          · rw [hq, List.length_nil] at hn
            unfold maxQueueSize at hn
            omega
        · exact hr (hs hf)
      · left
        have hl := transfer_left p.channel
        refine work_lt_of_load ?_
        unfold load
        rw [hl, hv]
        dsimp only
        omega
    · have hf : p.synthesis = .failed := by
        by_contra hnt
        exact hst (h.kept.started hnt)
      have hd : p.channel.synthMainEnd.load ≤ p.channel.load := by
        unfold load AliSynthChannel.left
        show (p.channel.rest ++ (p.channel.voiceQueue.flatten ++ [])).length + _ + 0 ≤ _
        rw [List.append_nil, List.length_append, List.length_append, List.length_append]
        show _ + (if p.channel.play then 1 else 0) + 0 ≤ _
        omega
      rcases Nat.lt_or_eq_of_le hd with hlt | heq
      · exact Or.inl (work_lt_of_load hlt)
      · refine Or.inr ⟨?_, rfl, hs hf⟩
        unfold work
        rw [heq]
        rfl
  | finished =>
    refine Or.inr ⟨rfl, rfl, ?_⟩
    rcases h.ended with hc | hf
    · exact absurd (hw.symm.trans (h.kept.running (Or.inr hc))) nofun
    · exact hs hf

theorem Awaiting.synthMain_synthesis (h : Awaiting p) (started : Bool) :
    (p.synthMain started).synthesis = p.synthesis := by
  unfold Playback.synthMain
  cases hw : p.worker with
  | queued => exact absurd hw h.notQueued
  | running => dsimp only; split_ifs <;> rfl
  | finished => rfl

end Awaiting

/-! ## The runs -/

def Attended (size : Nat) (p : Playback) (input : PlaybackInput) : Prop :=
  PlaybackOrderly size p input ∧ input ≠ .pause ∧ ∀ request, input ≠ .stop request

/-- **Reads and `synthMain` bring the event nearer.** -/
theorem helpful {size : Nat} (hz : 0 < size) :
    Helpful (step size) Awaiting (Attended size) (fun outputs => speakCompletes outputs ≠ 0) work
      (fun p => p.ready = true) (fun input => input = .read) (fun input => ∃ started, input = .synthMain started) := by
  rintro p input h ⟨ho, hps, hst⟩
  have hk := playbackKept_step size p input h.kept ho
  -- a step that changes nothing of what is to be done
  have hs : Awaiting (p.step size input).1 → (p.step size input).1.work = p.work →
      (p.step size input).1.ready = p.ready → input ≠ .read → (∀ started, input ≠ .synthMain started) →
      speakCompletes (p.step size input).2 ≠ 0 ∨ Awaiting (p.step size input).1 ∧
        ((p.step size input).1.work < p.work ∨ (p.step size input).1.work = p.work ∧
          ((p.step size input).1.ready ↔ p.ready) ∧ (p.ready → ¬input = .read) ∧
          (¬p.ready = true → ¬∃ started, input = .synthMain started)) := by
    intro hx hw hr hre hm
    exact Or.inr ⟨hx, Or.inr ⟨hw, by rw [hr], fun _ => hre, fun _ ⟨started, heq⟩ => hm started heq⟩⟩
  have hn : (p.step size input).1 = p → input ≠ .read → (∀ started, input ≠ .synthMain started) →
      speakCompletes (p.step size input).2 ≠ 0 ∨ Awaiting (p.step size input).1 ∧
        ((p.step size input).1.work < p.work ∨ (p.step size input).1.work = p.work ∧
          ((p.step size input).1.ready ↔ p.ready) ∧ (p.ready → ¬input = .read) ∧
          (¬p.ready = true → ¬∃ started, input = .synthMain started)) :=
    fun heq => hs (heq.symm ▸ h) (by rw [heq]) (by rw [heq])
  cases input with
  | store => exact hn (by unfold step Playback.store; rw [h.stored]) nofun nofun
  | pause => exact absurd rfl hps
  | resume => exact hs ⟨hk, h.ended, h.stored, h.asked, rfl, h.unstopped⟩ rfl rfl nofun nofun
  | stop request => exact absurd rfl (hst request)
  | synthMain started =>
    obtain ⟨hc, hp⟩ := synthMain_synthChannel p started
    refine Or.inr ⟨h.of_same hk hc hp (h.synthMain_synthesis started), ?_⟩
    refine (h.synthMain started).imp_right fun ⟨hw, hr, ht⟩ => ⟨hw, ?_, fun _ => nofun, ?_⟩
    · exact iff_of_true (hr.trans ht) ht
    · exact fun hno => absurd ht hno
  | binaryDataReceived data => exact hn (if_neg h.notGoing) nofun nofun
  | synthesisCompleted => exact hn (if_neg h.notGoing) nofun nofun
  | taskFailed => exact hn (if_neg h.notGoing) nofun nofun
  | channelClosed => exact hn rfl nofun nofun
  | read =>
    show speakCompletes (p.read size).2 ≠ 0 ∨ _
    rcases h.read_same size with hsn | ⟨hc, hp⟩
    · exact Or.inl hsn
    have hx : Awaiting (p.read size).1 := h.of_same hk hc hp (read_synthesis p size)
    by_cases hr : p.ready
    · exact (h.read_ready hz hr).imp_right fun hlt => ⟨hx, Or.inl hlt⟩
    · refine (h.read_notReady size hr).imp_right fun ⟨hw, hno⟩ =>
        ⟨hx, Or.inr ⟨hw, ?_, ?_, fun _ => nofun⟩⟩
      · exact iff_of_false hno hr
      · exact fun ht => absurd ht hr

variable (size : Nat)

theorem speakCompletes_run_le (p : Playback) (inputs : List PlaybackInput) :
    speakCompletes (run (step size) p inputs).2.flatten ≤ p.owed := by
  have hs := run_spent_le (fun p input => (step_owed size p input).1) p inputs
  rw [← speakCompletes_flatten] at hs
  omega

theorem speakCompletes_run_eq {p : Playback} {inputs : List PlaybackInput} (h : p.Unstopped)
    (ht : ∀ request, .stop request ∉ inputs) :
    speakCompletes (run (step size) p inputs).2.flatten + (run (step size) p inputs).1.owed = p.owed ∧
      (run (step size) p inputs).1.Unstopped := by
  have ho : EachStep (step size) (fun _ input => ∀ request, input ≠ .stop request) p inputs := by
    refine eachStep_of_forall (fun input hi request heq => ?_) p
    rw [heq] at hi
    exact ht request hi
  have hs : ∀ p input, Playback.Unstopped p → (∀ request, input ≠ .stop request) →
      (p.step size input).1.Unstopped ∧ speakCompletes (p.step size input).2 + (p.step size input).1.owed = p.owed :=
    fun p input hu hn => (step_owed size p input).2 hu hn
  refine ⟨?_, run_invariant Playback.Unstopped _ (fun p input hu hn => (hs p input hu hn).1) p inputs h ho⟩
  have hp := run_spent_eq Playback.Unstopped _ hs h ho
  rwa [← speakCompletes_flatten] at hp

theorem speakCompletes_run_append (p : Playback) (inputs inputs' : List PlaybackInput) :
    speakCompletes (run (step size) p (inputs ++ inputs')).2.flatten =
      speakCompletes (run (step size) p inputs).2.flatten +
        speakCompletes (run (step size) (run (step size) p inputs).1 inputs').2.flatten := by
  rw [run_append]
  rw [List.flatten_append]
  exact List.countP_append ..

theorem Awaiting.raised {p : Playback} (h : Awaiting p) {size : Nat} (hs : 0 < size)
    {blocks : List (List PlaybackInput)} (hl : p.work < blocks.length) (hf : ∀ block ∈ blocks, FairBlock block)
    (ho : EachStep (step size) (PlaybackOrderly size) p blocks.flatten) :
    1 ≤ speakCompletes (run (step size) p blocks.flatten).2.flatten := by
  have ha : EachStep (step size) (Attended size) p blocks.flatten := by
    refine eachStep_and ho (eachStep_of_forall (fun input hi => ?_) p)
    obtain ⟨block, hb, hm⟩ := List.mem_flatten.1 hi
    refine ⟨fun heq => (hf block hb).notPaused (heq ▸ hm), fun request heq => ?_⟩
    exact (hf block hb).notStopped request (heq ▸ hm)
  have hk : ∀ block ∈ blocks, (∃ input ∈ block, input = .read) ∧
      ∃ input ∈ block, ∃ started, input = .synthMain started := by
    intro block hb
    obtain ⟨started, hm⟩ := (hf block hb).synthMain
    exact ⟨⟨_, (hf block hb).read, rfl⟩, _, hm, started, rfl⟩
  obtain ⟨outputs, hm, hn⟩ := (helpful hs).blocks h hl hk ha
  rw [speakCompletes_flatten]
  exact List.sum_pos_iff_exists_pos_nat.2 ⟨_, List.mem_map_of_mem hm, Nat.pos_of_ne_zero hn⟩

/-- **In a run whose steps are orderly, SPEAK-COMPLETE is sent once, when everything was played.** -/
theorem playbackRight_of_orderly {size : Nat} (hsize : 0 < size) {channel started : AliSynthChannel}
    {speakText : List UInt8} {session : Nat} (hstart : channel.start speakText session = some started)
    (id request : Nat) (inputs : List PlaybackInput)
    (h : EachStep (Playback.step size) (PlaybackOrderly size) (.initial started id request) inputs) :
    PlaybackRight size (.initial started id request) inputs where
  complete := by
    refine eachStep_of_invariant (fun p => PlaybackKept p ∧ p.synthChannel.aliSynthCh.isSome)
      (PlaybackOrderly size) (CompleteRight size) (fun p input hp hok => ⟨playbackKept_step size p input hp.1 hok, ?_⟩)
      (fun p input hp _ => hp.1.completeRight hp.2 size input) _ inputs ⟨playbackKept_initial hstart id request, rfl⟩ h
    rw [step_aliSynthCh]
    exact hp.2
  once := speakCompletes_run_le size (.initial started id request) inputs
  raised := by
    intro hstop p hended hpend hpaused
    have hkept : PlaybackKept p := run_invariant PlaybackKept (PlaybackOrderly size) (playbackKept_step size) _ inputs
      (playbackKept_initial hstart id request) h
    obtain ⟨howed, hun⟩ := speakCompletes_run_eq size (p := .initial started id request) ⟨rfl, fun _ => rfl⟩ hstop
    change _ + p.owed = 1 at howed
    refine ⟨p.work + 1, fun blocks hlen hfair hok => ?_⟩
    have hle := speakCompletes_run_le size (.initial started id request) (inputs ++ blocks.flatten)
    change _ ≤ 1 at hle
    rw [speakCompletes_run_append] at hle ⊢
    cases hspeak : p.synthChannel.speakRequest with
    | none =>
      have hzero : p.owed = 0 := by
        unfold Playback.owed
        rw [hpend, hspeak]
        rfl
      omega
    | some asked =>
      have hawaiting : Awaiting p := ⟨hkept, hended, hpend, by rw [hspeak]; rfl, hpaused, hun.1⟩
      have hraised := hawaiting.raised hsize hlen hfair hok
      change 1 ≤ speakCompletes (run (Playback.step size)
        (run (Playback.step size) (.initial started id request) inputs).1 blocks.flatten).2.flatten at hraised
      omega

/-- Two chunks, in frames of two bytes; the second chunk is in the queue before the first is played. -/
theorem playbackRight_twoChunks :
    PlaybackRight 2 (.initial ⟨some 0, true, true, true, [], 0, ⟨none, 0, 0, 0⟩, []⟩ 0 7)
      [.store, .synthMain true, .binaryDataReceived [1, 2, 3], .binaryDataReceived [4], .synthMain true,
        .synthMain true, .synthesisCompleted, .read, .read, .read, .read, .read, .read, .read, .read, .read, .read, .read] :=
  playbackRight_of_orderly (by decide) (rfl : AliSynthChannel.initial.start [0x48, 0x69] 0 = _) 0 7 _ (by decide)

/-- The second chunk comes when the first one has been played: SPEAK-COMPLETE is sent before it is read. -/
theorem not_completeRight_underrun :
    ¬EachStep (Playback.step 160) (CompleteRight 160)
      (.initial ⟨some 0, true, true, true, [], 0, ⟨none, 0, 0, 0⟩, []⟩ 0 7)
      [.store, .synthMain true, .binaryDataReceived [1, 2, 3], .synthMain true, .read, .read, .read, .read,
        .binaryDataReceived [4], .read] := by
  intro h
  obtain ⟨-, -, -, -, -, -, -, -, -, hlast, -⟩ := h
  rcases hlast (by decide) with hfailed | ⟨hcompleted, -⟩
  · exact absurd hfailed (by decide)
  · exact absurd hcompleted (by decide)

end UniMrcp.AliSynth
