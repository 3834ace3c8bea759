import UniMrcp.AliSynth.Pool

/-!
# The channels of the pool are exclusive, and all come back
-/

namespace UniMrcp.AliSynth

open Lib MrcpV2Transport List Function SynthPool

/-- The calls of `synthMain` for a channel of the pool have finished. -/
def SynthPool.Free (p : SynthPool) (id : Nat) : Prop := ∀ e ∈ p.executions, e.channel = id → e.stage = .finished

/-- **What should hold of a step.** A SPEAK request for which no channel is idle fails, and no null pointer is
followed. -/
def SynthStepRight (p : SynthPool) (input : SynthPoolInput) : Prop :=
  ∀ session request body pushed, input = .speak session request true (some body) pushed → p.phase session = .opened →
    (∀ id < p.maxChannels, p.idlePool id = false) →
    (p.engineSynthStart session (body.takeWhile (· != 0)) pushed).2.2 = false ∧
      SynthOutput.nullChannel ∉ (p.step input).2 ∧
      ∃ statusCode requestState, SynthOutput.response request statusCode requestState ∈ (p.step input).2 ∧
        statusCode ≠ statusCodeSuccess

/-- **What should hold of a state.** -/
structure SynthPoolRight (p : SynthPool) : Prop where
  oneMap : ∀ id < p.maxChannels, p.busyPool id = !p.idlePool id
  /-- One synthesizer channel at most uses a channel. -/
  used : ∀ session other id, (p.synthChannel session).aliSynthCh = some id →
    (p.synthChannel other).aliSynthCh = some id → session = other
  /-- One call of `synthMain` at most executes a channel. -/
  executed : ∀ (i j : Nat) (e e' : Execution), p.executions[i]? = some e → p.executions[j]? = some e' →
    e.stage = .running → e'.stage = .running → e.channel = e'.channel → i = j
  /-- When all synthesizer channels are closed, all channels are idle. -/
  returned : (∀ session, p.phase session ≠ .opened) → ∀ id < p.maxChannels, p.idlePool id

/-- **The condition on a step.** A SPEAK request has a body, its channel has none of the pool, and one is idle for which
no `synthMain` goes on. -/
def SynthPoolOrderly (p : SynthPool) : SynthPoolInput → Prop
  | .speak session _ descriptor body _ => p.phase session = .opened → descriptor →
      (p.synthChannel session).aliSynthCh = none ∧
      ∃ speakTxt, body = some speakTxt ∧ ∃ id < p.maxChannels, p.idlePool id ∧
        (∀ other < id, p.idlePool other = false) ∧ (speakTxt.takeWhile (· != 0) ≠ [] → p.Free id)
  | _ => True

/-- **What orderly steps keep.** -/
structure SynthPoolKept (p : SynthPool) : Prop where
  oneMap : ∀ id < p.maxChannels, p.busyPool id = !p.idlePool id
  used : ∀ session id, (p.synthChannel session).aliSynthCh = some id →
    id < p.maxChannels ∧ p.busyPool id ∧ p.phase session = .opened
  exclusive : ∀ session other id, (p.synthChannel session).aliSynthCh = some id →
    (p.synthChannel other).aliSynthCh = some id → session = other
  /-- A busy channel is that of a synthesizer channel. -/
  held : ∀ id < p.maxChannels, p.busyPool id → ∃ session, (p.synthChannel session).aliSynthCh = some id
  /-- One call of `synthMain` for a channel at most has not finished. -/
  single : ∀ (i j : Nat) (e e' : Execution), p.executions[i]? = some e → p.executions[j]? = some e' →
    e.stage ≠ .finished → e'.stage ≠ .finished → e.channel = e'.channel → i = j

theorem synthPoolKept_initial (maxChannels : Nat) : SynthPoolKept (.initial maxChannels) where
  oneMap id hid := by
    have hlt : id < maxChannels := hid
    simp [initial, hlt]
  used := nofun
  exclusive := nofun
  held := nofun
  single := nofun

theorem SynthPoolKept.right {p : SynthPool} (h : SynthPoolKept p) : SynthPoolRight p where
  oneMap := h.oneMap
  used := h.exclusive
  executed i j e e' he he' hr hr' :=
    h.single i j e e' he he' (by rw [hr]; exact nofun) (by rw [hr']; exact nofun)
  returned hc id hid := by
    by_contra hi
    have hb := h.oneMap id hid
    rw [Bool.eq_false_iff.2 hi] at hb
    obtain ⟨session, hs⟩ := h.held id hid hb
    exact hc session (h.used session id hs).2.2

section Steps

variable {p : SynthPool}

theorem setSynthChannel_aliSynthCh (p : SynthPool) (session : Nat) (synthChannel : SynthChannel) (other : Nat) :
    ((p.setSynthChannel session synthChannel).synthChannel other).aliSynthCh =
      if other = session then synthChannel.aliSynthCh else (p.synthChannel other).aliSynthCh := by
  unfold setSynthChannel
  dsimp only
  split_ifs with heq
  · rw [heq, update_self]
  · rw [update_of_ne heq]

theorem SynthPoolKept.quiet (h : SynthPoolKept p) (channel : Nat → AliSynthChannel) {synthChannel : Nat → SynthChannel}
    (hm : ∀ session, (synthChannel session).aliSynthCh = (p.synthChannel session).aliSynthCh) :
    SynthPoolKept { p with channel := channel, synthChannel := synthChannel } where
  oneMap := h.oneMap
  used session id hs := h.used session id ((hm session).symm.trans hs)
  exclusive session other id hs ho :=
    h.exclusive session other id ((hm session).symm.trans hs) ((hm other).symm.trans ho)
  held id hid hb := (h.held id hid hb).imp fun session hs => (hm session).trans hs
  single := h.single

theorem SynthPoolKept.setChannel (h : SynthPoolKept p) (id : Nat) (channel : AliSynthChannel) :
    SynthPoolKept (p.setChannel id channel) := h.quiet _ fun _ => rfl

theorem SynthPoolKept.setSynthChannel (h : SynthPoolKept p) (session : Nat) {synthChannel : SynthChannel}
    (hs : synthChannel.aliSynthCh = (p.synthChannel session).aliSynthCh) :
    SynthPoolKept (p.setSynthChannel session synthChannel) := by
  refine h.quiet p.channel fun other => ?_
  have ho := setSynthChannel_aliSynthCh p session synthChannel other
  rcases eq_or_ne other session with rfl | hne
  · rw [if_pos rfl] at ho
    exact ho.trans hs
  · rwa [if_neg hne] at ho

/-! ### The pool -/

theorem SynthPoolKept.take (h : SynthPoolKept p) {session id : Nat} (hid : id < p.maxChannels)
    (hi : p.idlePool id) (hnn : (p.synthChannel session).aliSynthCh = none)
    (hp : p.phase session = .opened) :
    SynthPoolKept ({ p with
      idlePool := Function.update p.idlePool id false
      busyPool := Function.update p.busyPool id true }.setAliSynthCh session (some id)) := by
  have ht : p.busyPool id = false := by rw [h.oneMap id hid, hi, Bool.not_true]
  have hn : ∀ other, (p.synthChannel other).aliSynthCh ≠ some id := by
    intro other ho
    exact absurd (ht.symm.trans (h.used other id ho).2.1) Bool.false_ne_true
  unfold setAliSynthCh
  refine ⟨?_, ?_, ?_, ?_, h.single⟩
  · intro other ho
    show Function.update p.busyPool id true other = !Function.update p.idlePool id false other
    rcases eq_or_ne other id with rfl | hne
    · rw [update_self, update_self, Bool.not_false]
    · rw [update_of_ne hne, update_of_ne hne]
      exact h.oneMap other ho
  · intro other id' ho
    rw [setSynthChannel_aliSynthCh] at ho
    show id' < p.maxChannels ∧ Function.update p.busyPool id true id' = true ∧ p.phase other = .opened
    split_ifs at ho with heq
    · obtain rfl := Option.some.inj ho
      exact ⟨hid, update_self .., heq ▸ hp⟩
    · obtain ⟨hlt, hb, hh⟩ := h.used other id' ho
      refine ⟨hlt, ?_, hh⟩
      rw [update_of_ne, hb]
      rintro rfl
      exact hn other ho
  · intro first second id' hf hs
    rw [setSynthChannel_aliSynthCh] at hf hs
    split_ifs at hf hs with heq heq'
    · exact heq.trans heq'.symm
    · obtain rfl := Option.some.inj hf
      exact absurd hs (hn second)
    · obtain rfl := Option.some.inj hs
      exact absurd hf (hn first)
    · exact h.exclusive first second id' hf hs
  · intro other ho hb
    change Function.update p.busyPool id true other = true at hb
    rcases eq_or_ne other id with rfl | hne
    · exact ⟨session, by rw [setSynthChannel_aliSynthCh, if_pos rfl]⟩
    · rw [update_of_ne hne] at hb
      obtain ⟨user, hu⟩ := h.held other ho hb
      refine ⟨user, ?_⟩
      rw [setSynthChannel_aliSynthCh, if_neg]
      · exact hu
      · rintro rfl
        rw [hnn] at hu
        cases hu

theorem SynthPoolKept.release (h : SynthPoolKept p) {session id : Nat}
    (hs : (p.synthChannel session).aliSynthCh = some id) :
    SynthPoolKept ((p.releaseChannel id).setAliSynthCh session none) := by
  have ht : ∀ other id', ((p.setAliSynthCh session none).synthChannel other).aliSynthCh = some id' →
      other ≠ session ∧ id' ≠ id ∧ (p.synthChannel other).aliSynthCh = some id' := by
    intro other id' ho
    unfold setAliSynthCh at ho
    rw [setSynthChannel_aliSynthCh] at ho
    split_ifs at ho with heq
    refine ⟨heq, ?_, ho⟩
    rintro rfl
    exact heq (h.exclusive other session id' ho hs)
  refine ⟨?_, ?_, ?_, ?_, h.single⟩
  · intro other ho
    show Function.update p.busyPool id false other = !Function.update p.idlePool id true other
    rcases eq_or_ne other id with rfl | hne
    · rw [update_self, update_self, Bool.not_true]
    · rw [update_of_ne hne, update_of_ne hne]
      exact h.oneMap other ho
  · intro other id' ho
    obtain ⟨-, hne, hl⟩ := ht other id' ho
    obtain ⟨hlt, hb, hh⟩ := h.used other id' hl
    refine ⟨hlt, ?_, hh⟩
    show Function.update p.busyPool id false id' = true
    rw [update_of_ne hne, hb]
  · intro first second id' hf hc
    exact h.exclusive first second id' (ht first id' hf).2.2 (ht second id' hc).2.2
  · intro other ho hb
    change Function.update p.busyPool id false other = true at hb
    rcases eq_or_ne other id with rfl | hne
    · rw [update_self] at hb
      cases hb
    · rw [update_of_ne hne] at hb
      obtain ⟨user, hu⟩ := h.held other ho hb
      refine ⟨user, ?_⟩
      have hp := setSynthChannel_aliSynthCh (p.releaseChannel id) session
        { p.synthChannel session with aliSynthCh := none } user
      rw [if_neg] at hp
      · exact hp.trans hu
      · rintro rfl
        rw [hs] at hu
        exact hne (Option.some.inj hu).symm

theorem releaseChannel_taken (h : SynthPoolKept p) {id : Nat} (hid : id < p.maxChannels)
    (hi : p.idlePool id) :
    releaseChannel { p with
      idlePool := Function.update p.idlePool id false
      busyPool := Function.update p.busyPool id true } id = p := by
  have hn : p.busyPool id = false := by rw [h.oneMap id hid, hi, Bool.not_true]
  unfold releaseChannel
  simp only [update_idem]
  rw [← hi, update_eq_self, ← hn, update_eq_self]

/-! ### The executions -/

theorem SynthPoolKept.push (h : SynthPoolKept p) {id : Nat} (hf : p.Free id) :
    SynthPoolKept { p with executions := p.executions ++ [⟨id, .queued⟩] } := by
  refine ⟨h.oneMap, h.used, h.exclusive, h.held, ?_⟩
  have hl : ∀ (i : Nat) (e : Execution), (p.executions ++ [⟨id, .queued⟩])[i]? = some e →
      p.executions[i]? = some e ∨ i = p.executions.length ∧ e = ⟨id, .queued⟩ := by
    intro i e he
    rcases Nat.lt_or_ge i p.executions.length with hlt | hge
    · exact Or.inl (by rwa [List.getElem?_append_left hlt] at he)
    · right
      rw [List.getElem?_append_right hge, List.getElem?_singleton] at he
      split_ifs at he with hz
      exact ⟨by omega, (Option.some.inj he).symm⟩
  intro i j e e' he he' hg hg' hs
  rcases hl i e he with he | ⟨rfl, rfl⟩
  · rcases hl j e' he' with he' | ⟨rfl, rfl⟩
    · exact h.single i j e e' he he' hg hg' hs
    · exact absurd (hf e (mem_of_getElem? he) hs) hg
  · rcases hl j e' he' with he' | ⟨rfl, rfl⟩
    · exact absurd (hf e' (mem_of_getElem? he') hs.symm) hg'
    · rfl

theorem SynthPoolKept.setStage (h : SynthPoolKept p) {i : Nat} {e : Execution} (he : p.executions[i]? = some e)
    (hg : e.stage ≠ .finished) (stage : SynthMainStage) : SynthPoolKept (p.setStage i e stage) := by
  refine ⟨h.oneMap, h.used, h.exclusive, h.held, ?_⟩
  have hlt : i < p.executions.length := (List.getElem?_eq_some_iff.1 he).1
  -- every call that has not finished now had not finished before, and is for the same channel
  have hb : ∀ (j : Nat) (e' : Execution), (p.executions.set i { e with stage := stage })[j]? = some e' →
      e'.stage ≠ .finished → ∃ old, p.executions[j]? = some old ∧ old.stage ≠ .finished ∧ old.channel = e'.channel := by
    intro j e' he' hg'
    rcases eq_or_ne i j with rfl | hne
    · rw [List.getElem?_set_self hlt] at he'
      obtain rfl := Option.some.inj he'
      exact ⟨e, he, hg, rfl⟩
    · rw [List.getElem?_set_ne hne] at he'
      exact ⟨e', he', hg', rfl⟩
  intro j k e' e'' he' he'' hg' hg'' hs
  obtain ⟨old, ho, hl, hc⟩ := hb j e' he' hg'
  obtain ⟨old', ho', hl', hc'⟩ := hb k e'' he'' hg''
  exact h.single j k old old' ho ho' hl hl' (hc.trans (hs.trans hc'.symm))

theorem SynthPoolKept.callback (h : SynthPoolKept p) (i : Nat) (change : AliSynthChannel → AliSynthChannel) :
    SynthPoolKept (p.callback i change) := by
  unfold SynthPool.callback
  cases p.executions[i]? with
  | none => exact h
  | some e => exact h.setChannel e.channel _

theorem SynthPoolKept.synthMain (h : SynthPoolKept p) (i : Nat) (started : Bool) :
    SynthPoolKept (p.synthMain i started) := by
  unfold SynthPool.synthMain
  cases he : p.executions[i]? with
  | none => exact h
  | some e =>
    dsimp only
    cases hs : e.stage with
    | queued =>
      have hg : e.stage ≠ .finished := by rw [hs]; exact nofun
      dsimp only
      split_ifs
      · exact h.setStage he hg .running
      · exact (h.setChannel e.channel _).setStage he hg .finished
    | running =>
      have hg : e.stage ≠ .finished := by rw [hs]; exact nofun
      dsimp only
      split_ifs
      · exact h.setChannel e.channel _
      · exact (h.setChannel e.channel _).setStage he hg .finished
    | finished => exact h

/-! ### The operations -/

theorem newChannel_of_idle {id : Nat} (hid : id < p.maxChannels) (hi : p.idlePool id)
    (hf : ∀ other < id, p.idlePool other = false) :
    p.newChannel = ({ p with
        idlePool := Function.update p.idlePool id false
        busyPool := Function.update p.busyPool id true }, some id) := by
  have h : (List.range p.maxChannels).find? p.idlePool = some id := by
    refine List.find?_range_eq_some.2 ⟨hi, mem_range.2 hid, fun other hlt => ?_⟩
    rw [hf other hlt, Bool.not_false]
  unfold newChannel
  rw [h]

theorem ne_nil_of_start {channel channel' : AliSynthChannel} {speakTxt : List UInt8} {session : Nat}
    (h : channel.start speakTxt session = some channel') : speakTxt ≠ [] := by
  rintro rfl
  cases h

theorem SynthPoolKept.engineSynthStart (h : SynthPoolKept p) {session id : Nat} {speakTxt : List UInt8} (pushed : Bool)
    (ho : p.phase session = .opened) (hn : (p.synthChannel session).aliSynthCh = none)
    (hid : id < p.maxChannels) (hi : p.idlePool id) (hr : ∀ other < id, p.idlePool other = false)
    (hf : speakTxt ≠ [] → p.Free id) : SynthPoolKept (p.engineSynthStart session speakTxt pushed).1 := by
  unfold SynthPool.engineSynthStart
  rw [newChannel_of_idle hid hi hr]
  dsimp only
  cases ht : (p.channel id).start speakTxt session with
  | none =>
    rw [releaseChannel_taken h hid hi]
    exact h.setSynthChannel session hn.symm
  | some channel =>
    have hs := (h.take hid hi hn ho).setChannel id channel
    cases pushed with
    | true => exact hs.push (hf (ne_nil_of_start ht))
    | false => exact hs

theorem SynthPoolKept.speak (h : SynthPoolKept p) {session request : Nat} {descriptor : Bool}
    {body : Option (List UInt8)} {pushed : Bool} (ho : p.phase session = .opened)
    (hk : SynthPoolOrderly p (.speak session request descriptor body pushed)) :
    SynthPoolKept (p.speak session request descriptor body pushed).1 := by
  cases descriptor with
  | false => exact h
  | true =>
    obtain ⟨hn, speakTxt, rfl, id, hid, hi, hr, hf⟩ := hk ho rfl
    exact (h.engineSynthStart pushed ho hn hid hi hr hf).setSynthChannel session rfl

theorem SynthPoolKept.engineSynthStop (h : SynthPoolKept p) (session : Nat) :
    SynthPoolKept (p.engineSynthStop session) ∧
      ((p.engineSynthStop session).synthChannel session).aliSynthCh = none := by
  unfold SynthPool.engineSynthStop
  cases hs : (p.synthChannel session).aliSynthCh with
  | none => exact ⟨h, hs⟩
  | some id =>
    refine ⟨(h.setChannel id _).release hs, ?_⟩
    unfold setAliSynthCh
    rw [setSynthChannel_aliSynthCh, if_pos rfl]

theorem SynthPoolKept.setPhase (h : SynthPoolKept p) {session : Nat} {phase : ChannelPhase}
    (hp : (p.synthChannel session).aliSynthCh = none ∨ phase = .opened) :
    SynthPoolKept { p with phase := Function.update p.phase session phase } where
  oneMap := h.oneMap
  used other id ho := by
    obtain ⟨hlt, hb, hop⟩ := h.used other id ho
    refine ⟨hlt, hb, ?_⟩
    dsimp only
    rcases eq_or_ne other session with rfl | hne
    · rw [update_self]
      rcases hp with hn | hp
      · exact absurd (ho.symm.trans hn) nofun
      · exact hp
    · rw [update_of_ne hne, hop]
  exclusive := h.exclusive
  held := h.held
  single := h.single

end Steps

/-! ## The runs -/

theorem synthPoolKept_step (p : SynthPool) (input : SynthPoolInput) (h : SynthPoolKept p)
    (ho : SynthPoolOrderly p input) : SynthPoolKept (p.step input).1 := by
  cases input with
  | channelOpen session =>
    unfold step
    dsimp only
    split_ifs
    · exact h.setPhase (Or.inr rfl)
    · exact h
  | speak session request descriptor body pushed =>
    unfold step
    dsimp only
    split_ifs with hp
    · exact h.speak hp ho
    · exact h
  | stop session request =>
    unfold step
    dsimp only
    split_ifs
    · exact h.setSynthChannel session rfl
    · exact h
  | streamClose session => exact (h.engineSynthStop session).1
  | channelClose session =>
    obtain ⟨hk, hn⟩ := h.engineSynthStop session
    have hc := @SynthPoolKept.setPhase _ hk session .closed (Or.inl hn)
    have hh : (p.engineSynthStop session).phase = p.phase := by
      unfold engineSynthStop
      split <;> rfl
    rwa [hh] at hc
  | synthMain execution started => exact h.synthMain execution started
  | binaryDataReceived execution data => exact h.callback execution (·.onBinaryDataReceived data)
  | synthesisCompleted execution => exact h.callback execution AliSynthChannel.onSynthesisCompleted
  | taskFailed execution => exact h.callback execution AliSynthChannel.onTaskFailed

theorem synthStepRight_of_orderly {p : SynthPool} {input : SynthPoolInput} (ho : SynthPoolOrderly p input) :
    SynthStepRight p input := by
  rintro session request body pushed rfl hp hn
  obtain ⟨-, -, -, id, hid, hi, -, -⟩ := ho hp rfl
  exact absurd ((hn id hid).symm.trans hi) Bool.false_ne_true

/-- **In a run whose steps are orderly, the channels of the pool are exclusive, and all come back.** -/
theorem synthPoolRight_of_orderly (maxChannels : Nat) (inputs : List SynthPoolInput)
    (h : EachStep SynthPool.step SynthPoolOrderly (.initial maxChannels) inputs) :
    EachStep SynthPool.step SynthStepRight (.initial maxChannels) inputs ∧
      SynthPoolRight (run SynthPool.step (.initial maxChannels) inputs).1 :=
  ⟨eachStep_mono (fun _ _ => synthStepRight_of_orderly) h,
    (run_invariant SynthPoolKept SynthPoolOrderly synthPoolKept_step (.initial maxChannels) inputs
      (synthPoolKept_initial maxChannels) h).right⟩

/-- Two calls share a pool of two channels, one has nothing to say, and a third call comes when they are over. -/
theorem synthPoolRight_calls :
    SynthPoolRight (run SynthPool.step (.initial 2) [.channelOpen 0, .channelOpen 1,
      .speak 0 1 true (some [0x48, 0x69]) true, .speak 1 2 true (some []) true, .synthMain 0 true, .streamClose 0,
      .synthMain 0 true, .channelClose 0,
      .channelClose 1, .channelOpen 2, .speak 2 3 true (some [0x4F, 0x4B]) true]).1 := by
  refine (synthPoolRight_of_orderly 2 _ ?_).2
  refine ⟨trivial, trivial, fun _ _ => ⟨rfl, _, rfl, 0, by decide, by decide, by decide, fun _ => ?_⟩,
    fun _ _ => ⟨rfl, _, rfl, 1, by decide, by decide, by decide, fun htext => absurd rfl htext⟩, trivial, trivial,
    trivial, trivial, trivial, trivial, fun _ _ => ⟨rfl, _, rfl, 0, by decide, by decide, by decide, fun _ => ?_⟩,
    trivial⟩
  · exact nofun
  · intro e he _
    obtain rfl := mem_singleton.1 he
    rfl

/-- Two calls with a pool of one channel: the second SPEAK request follows a null pointer. -/
theorem not_synthStepRight_exhausted :
    ¬EachStep SynthPool.step SynthStepRight (.initial 1)
      [.channelOpen 0, .channelOpen 1, .speak 0 1 true (some [0x48, 0x69]) true,
        .speak 1 2 true (some [0x48, 0x69]) true] := by
  intro h
  obtain ⟨-, -, -, hstep, -⟩ := h
  obtain ⟨-, hnull, -⟩ := hstep 1 2 [0x48, 0x69] true rfl rfl (by decide)
  exact hnull (mem_cons_self ..)

end UniMrcp.AliSynth
