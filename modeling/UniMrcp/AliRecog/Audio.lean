import UniMrcp.AliRecog.Channel
import UniMrcp.Lib.Run

/-!
# The audio of a recognition

The bridges of the media engine rewrite their frames on every tick and hand pointers to them to a channel of the pool.
-/

namespace UniMrcp.AliRecog

open List AliChannel

/-- Where a call of `AliChannel::RecogMain` stands. -/
inductive RecogMain where
  /-- `OnRecogRequestInit` is next. -/
  | init
  | loop
  /-- `apr_queue_pop` is next. -/
  | pop
  /-- `apr_queue_pop` waits for a frame. -/
  | waiting
  /-- `sendAudio` is next. -/
  | send (frame : Nat)
  /-- The statements after the label `END` are next. -/
  | ending
  | done
  deriving DecidableEq

def RecogMain.held : RecogMain → List Nat
  | .send frame => [frame]
  | _ => []

/-- One channel of the pool, the frames of the bridges and the threads that use them. -/
structure AudioPath where
  frames : Nat → Bytes
  /-- The channel. The SDK's request is named by the recognition it serves. -/
  channel : AliChannel
  /-- `m_FrameQueue`, the pointers to the frames that wait to be sent. -/
  frameQueue : List Nat
  /-- The frames whose `apr_queue_push` waits for room. -/
  writers : List Nat
  /-- The calls of `RecogMain` on the channel. -/
  threads : List RecogMain
  /-- How many recognitions the channel has started; the last one has this number. -/
  recognition : Nat
  /-- The contents of the frames written during a recognition, each with the number of the recognition. -/
  written : List (Nat × Bytes)
  /-- The arguments of `sendAudio`, each with the number of the recognition that the SDK's request serves. -/
  sent : List (Nat × Bytes)

def AudioPath.initial : AudioPath := ⟨fun _ => [], .initial, [], [], [], 0, [], []⟩

inductive AudioInput where
  /-- A bridge reads the next frame of its source into its frame. -/
  | readFrame (frame : Nat) (contents : Bytes)
  /-- The stream of a bridge passes its frame to `EngineWriteFrame`. -/
  | writeFrame (frame : Nat)
  /-- A waiting `apr_queue_push` goes on. -/
  | resume (writer : Nat)
  /-- `EngineRecogStart` takes the channel from the pool, and pushes the task or fails to. -/
  | start (pushed : Bool)
  /-- `AliChannel::Stop`. -/
  | stop
  | taskFailed
  | channelClosed
  /-- A call of `RecogMain` goes on; the request is initialised, the token checked or the audio sent, or not. -/
  | recogMain (thread : Nat) (succeeds : Bool)
  deriving DecidableEq

/-! ## The steps -/

/-- `AliChannel::WriteFrame`. -/
def AudioPath.channelWriteFrame (s : AudioPath) (frame : Nat) : AudioPath :=
  if s.channel.runing then
    match aprQueuePush s.frameQueue frame with
    | some queue => { s with frameQueue := queue }
    | none => { s with writers := s.writers ++ [frame] }
  else s

/-- `CAliEngine::EngineWriteFrame`. -/
def AudioPath.engineWriteFrame (s : AudioPath) (frame : Nat) : AudioPath :=
  if s.channel.isWork then
    { s.channelWriteFrame frame with written := s.written ++ [(s.recognition, s.frames frame)] }
  else s

/-- A waiting push goes on: the frame is pushed, or dropped when the queue is still full. -/
def AudioPath.resumeWriter (s : AudioPath) (writer : Nat) : AudioPath :=
  match s.writers[writer]? with
  | some frame =>
    match aprQueuePush s.frameQueue frame with
    | some queue =>
      { s with frameQueue := queue, writers := s.writers.eraseIdx writer }
    | none => { s with writers := s.writers.eraseIdx writer }
  | none => s

/-- `CAliEngine::EngineRecogStart`: `NewChannel` returns only channels that do not work. -/
def AudioPath.engineRecogStart (s : AudioPath) (pushed : Bool) : AudioPath :=
  if s.channel.isWork then s
  else
    { s with
      channel := s.channel.start
      recognition := s.recognition + 1
      threads := if pushed then s.threads ++ [.init] else s.threads }

def AudioPath.popped (s : AudioPath) (thread : Nat) (empty : AudioPath) : AudioPath :=
  match aprQueuePop s.frameQueue with
  | some (frame, queue) =>
    { s with
      frameQueue := queue
      threads := s.threads.set thread (.send frame) }
  | none => empty

/-- `sendAudio` on what the pointer points to now. -/
def AudioPath.sendAudio (s : AudioPath) (frame : Nat) : AudioPath :=
  match s.channel.recogRequest with
  | some recognition => { s with sent := s.sent ++ [(recognition, s.frames frame)] }
  | none => s

/-- `AliChannel::RecogMain`, up to its next statement that other threads can see. -/
def AudioPath.recogMain (s : AudioPath) (thread : Nat) (succeeds : Bool) : AudioPath :=
  match s.threads[thread]? with
  | some .init =>
    { s with
      channel := { s.channel with recogRequest := some s.recognition }
      threads := s.threads.set thread (if succeeds then .loop else .ending) }
  | some .loop =>
    { s with threads := s.threads.set thread (if s.channel.starting && succeeds then .pop else .ending) }
  | some .pop => s.popped thread { s with threads := s.threads.set thread .waiting }
  | some .waiting =>
    -- awake and nothing to pop: the queue was interrupted
    s.popped thread { s with channel := s.channel.recogExit, threads := s.threads.set thread .ending }
  | some (.send frame) =>
    if succeeds || s.channel.recogRequest.isNone then
      { s.sendAudio frame with threads := s.threads.set thread .loop }
    else
      { s.sendAudio frame with channel := s.channel.recogExit, threads := s.threads.set thread .ending }
  | some .ending =>
    { s with channel := s.channel.recogMainEnd, threads := s.threads.set thread .done }
  | _ => s

/-- One step of one thread. A bridge whose push waits does not read. -/
def AudioPath.step (s : AudioPath) : AudioInput → AudioPath × Unit
  | .readFrame frame contents =>
    (if frame ∈ s.writers then s else { s with frames := Function.update s.frames frame contents }, ())
  | .writeFrame frame => (if frame ∈ s.writers then s else s.engineWriteFrame frame, ())
  | .resume writer => (s.resumeWriter writer, ())
  | .start pushed => (s.engineRecogStart pushed, ())
  | .stop => ({ s with channel := s.channel.stop }, ())
  | .taskFailed => ({ s with channel := s.channel.onTaskFailed }, ())
  | .channelClosed => ({ s with channel := s.channel.onChannelClosed }, ())
  | .recogMain thread succeeds => (s.recogMain thread succeeds, ())

def bytesOf (recognition : Nat) (audio : List (Nat × Bytes)) : Bytes :=
  ((audio.filter (·.1 == recognition)).map (·.2)).flatten

def AudioPath.outstanding (s : AudioPath) : List Nat :=
  s.threads.flatMap RecogMain.held ++ s.frameQueue ++ s.writers

def AudioPath.Over (s : AudioPath) (recognition : Nat) : Prop :=
  recognition < s.recognition ∨ (s.channel.starting = false ∧ ∀ thread ∈ s.threads, thread = .done)

/-- The SDK is given the frames of each recognition as they were written: those so far, and all in the end. -/
def AudioIntact (s : AudioPath) : Prop :=
  ∀ recognition, bytesOf recognition s.sent <+: bytesOf recognition s.written ∧
    (s.Over recognition → bytesOf recognition s.sent = bytesOf recognition s.written)

/-- No frame that is still to be sent is rewritten, the queue has room and its reader runs, and a recognition starts
when no call of `RecogMain` is left. -/
def Undisturbed (s : AudioPath) : AudioInput → Prop
  | .readFrame frame contents => frame ∈ s.outstanding → s.frames frame = contents
  | .writeFrame _ => s.channel.starting → s.channel.runing ∧ s.frameQueue.length < frameQueueCapacity
  | .resume _ => True
  | .start _ => ∀ thread ∈ s.threads, thread = .done
  | .stop => s.frameQueue = []
  | .taskFailed => s.frameQueue = []
  | .channelClosed => s.frameQueue = []
  | .recogMain thread _ => s.threads[thread]? = some .ending → s.frameQueue = []

instance (s : AudioPath) (input : AudioInput) : Decidable (Undisturbed s input) := by
  cases input <;> unfold Undisturbed <;> infer_instance

/-! ## The invariant -/

variable (recognition : Nat)

@[simp] theorem bytesOf_nil : bytesOf recognition [] = [] := rfl

@[simp] theorem bytesOf_append (before after : List (Nat × Bytes)) :
    bytesOf recognition (before ++ after) = bytesOf recognition before ++ bytesOf recognition after := by
  simp [bytesOf]

@[simp] theorem bytesOf_self (contents : Bytes) : bytesOf recognition [(recognition, contents)] = contents := by
  simp [bytesOf]

theorem bytesOf_of_ne {recognition other : Nat} (h : other ≠ recognition) (contents : Bytes) :
    bytesOf recognition [(other, contents)] = [] := by
  simp [bytesOf, h]

def RecogMain.Requests : RecogMain → Prop
  | .loop => True
  | .pop => True
  | .waiting => True
  | .send _ => True
  | _ => False

/-- Of the calls of `RecogMain` all but one, the reader, have returned, and what it holds and the queue has is what is
still to be sent. -/
structure Flowing (s : AudioPath) (returned : Nat) (reader : RecogMain) : Prop where
  threads : s.threads = List.replicate returned .done ++ [reader] ∨ (s.threads = [] ∧ reader = .done)
  writers : s.writers = []
  current : bytesOf s.recognition s.written =
    bytesOf s.recognition s.sent ++ ((reader.held ++ s.frameQueue).map s.frames).flatten
  earlier : ∀ recognition < s.recognition, bytesOf recognition s.sent = bytesOf recognition s.written
  later : ∀ recognition > s.recognition, bytesOf recognition s.sent = [] ∧ bytesOf recognition s.written = []
  request : reader.Requests → s.channel.recogRequest = some s.recognition
  idle : s.channel.starting = false → s.frameQueue = []

theorem flowing_initial : Flowing .initial 0 .done := by
  constructor <;> simp [AudioPath.initial, initial, RecogMain.Requests]

variable {s : AudioPath} {returned : Nat} {reader : RecogMain}

open RecogMain

theorem Flowing.audioIntact (h : Flowing s returned reader) : AudioIntact s := by
  intro recognition
  rcases Nat.lt_trichotomy recognition s.recognition with hlt | heq | hgt
  · rw [h.earlier recognition hlt]
    exact ⟨prefix_rfl, fun _ => rfl⟩
  · subst heq
    constructor
    · rw [h.current]
      exact prefix_append _ _
    · rintro (hlt | ⟨hs, hd⟩)
      · omega
      · have hr : reader = .done := by
          rcases h.threads with ht | ht
          · exact hd reader (by simp [ht])
          · exact ht.2
        simp [h.current, h.idle hs, hr, held]
  · obtain ⟨hn, hw⟩ := h.later recognition hgt
    rw [hn, hw]
    exact ⟨prefix_rfl, fun _ => rfl⟩

variable {frame : Nat}

open AudioPath

theorem Flowing.mem_outstanding (h : Flowing s returned reader) (hf : frame ∈ reader.held ++ s.frameQueue) :
    frame ∈ s.outstanding := by
  unfold outstanding
  rcases h.threads with ht | ⟨ht, rfl⟩
  · simp only [mem_append] at hf
    simp only [ht, mem_append, flatMap_append]
    rcases hf with hh | hq
    · exact Or.inl (Or.inl (Or.inr (by simpa using hh)))
    · exact Or.inl (Or.inr hq)
  · simp only [held, nil_append] at hf
    simp [hf]

/-! ## Every step keeps it -/

theorem Flowing.readFrame (h : Flowing s returned reader) {contents : Bytes}
    (ho : Undisturbed s (.readFrame frame contents)) :
    Flowing { s with frames := Function.update s.frames frame contents } returned reader := by
  have hf : (reader.held ++ s.frameQueue).map (Function.update s.frames frame contents) =
      (reader.held ++ s.frameQueue).map s.frames := by
    apply map_congr_left
    intro other ht
    by_cases heq : other = frame
    · subst heq
      rw [Function.update_self]
      exact (ho (h.mem_outstanding ht)).symm
    · rw [Function.update_of_ne heq]
  exact { h with current := by rw [hf]; exact h.current }

theorem Flowing.writeFrame (h : Flowing s returned reader) (ho : Undisturbed s (.writeFrame frame)) :
    Flowing (s.engineWriteFrame frame) returned reader := by
  unfold engineWriteFrame
  split
  · rename_i hw
    obtain ⟨hr, hm⟩ := ho hw
    simp only [channelWriteFrame, hr, if_true, aprQueuePush_of_lt hm]
    refine { h with current := ?_, earlier := ?_, later := ?_, idle := ?_ }
    · simp [h.current]
    · intro recognition hlt
      have hne : s.recognition ≠ recognition := Nat.ne_of_gt hlt
      simp [bytesOf_of_ne hne, h.earlier recognition hlt]
    · intro recognition hgt
      have hne : s.recognition ≠ recognition := Nat.ne_of_lt hgt
      simp [bytesOf_of_ne hne, h.later recognition hgt]
    · intro hs
      exact absurd (hw.symm.trans hs) (by simp)
  · exact h

theorem Flowing.start (h : Flowing s returned reader) {pushed : Bool} (ho : Undisturbed s (.start pushed)) :
    ∃ returned' reader', Flowing (s.engineRecogStart pushed) returned' reader' := by
  have ho : ∀ thread ∈ s.threads, thread = .done := ho
  have hd : reader = .done := by
    rcases h.threads with ht | ht
    · exact ho reader (by simp [ht])
    · exact ht.2
  subst hd
  unfold engineRecogStart
  split
  · exact ⟨returned, .done, h⟩
  · rename_i hw
    have hq : s.frameQueue = [] := h.idle (by simpa [isWork] using hw)
    have hc : bytesOf s.recognition s.written = bytesOf s.recognition s.sent := by
      simpa [hq, held] using h.current
    have ha : s.threads = List.replicate s.threads.length .done := eq_replicate_iff.2 ⟨rfl, ho⟩
    -- the recognition before has all its audio, the new one none
    have hn : ∀ threads returned' reader', reader'.held = [] → ¬ reader'.Requests →
        (threads = List.replicate returned' RecogMain.done ++ [reader'] ∨ (threads = [] ∧ reader' = .done)) →
        Flowing { s with channel := s.channel.start, recognition := s.recognition + 1, threads := threads }
          returned' reader' := by
      intro threads returned' reader' hh hrq ht
      obtain ⟨hs, hwr⟩ := h.later (s.recognition + 1) (by omega)
      refine ⟨ht, h.writers, ?_, ?_, ?_, fun hr => absurd hr hrq, fun _ => hq⟩
      · simp [hs, hwr, hh, hq]
      · intro recognition hlt
        by_cases heq : recognition = s.recognition
        · rw [heq, hc]
        · exact h.earlier recognition (by simp only at hlt; omega)
      · intro recognition hgt
        exact h.later recognition (by simp only at hgt; omega)
    cases pushed with
    | true =>
      refine ⟨s.threads.length, .init, hn _ _ _ rfl (by simp [RecogMain.Requests]) (Or.inl ?_)⟩
      rw [if_pos rfl, ← ha]
    | false => exact ⟨returned, .done, hn _ _ _ rfl (by simp [RecogMain.Requests]) h.threads⟩

theorem Flowing.channel (h : Flowing s returned reader) {channel : AliChannel}
    (hq : channel.recogRequest = s.channel.recogRequest) (he : s.frameQueue = []) :
    Flowing { s with channel := channel } returned reader where
  threads := h.threads
  writers := h.writers
  current := h.current
  earlier := h.earlier
  later := h.later
  request := fun hr => hq.trans (h.request hr)
  idle := fun _ => he

/-! ### The reader -/

@[simp] theorem sendAudio_channel (s : AudioPath) (frame : Nat) : (s.sendAudio frame).channel = s.channel := by
  unfold sendAudio
  split <;> rfl

theorem Flowing.proceed {reader reader' : RecogMain} {channel : AliChannel} (h : Flowing s returned reader)
    (ht : s.threads = List.replicate returned .done ++ [reader]) (hh : reader.held = reader'.held)
    (hst : channel.starting = false → s.channel.starting = false)
    (hr : reader'.Requests → channel.recogRequest = some s.recognition) :
    Flowing { s with channel := channel, threads := s.threads.set returned reader' } returned reader' where
  threads := Or.inl (by simp [ht])
  writers := h.writers
  current := by simp [← hh, h.current]
  earlier := h.earlier
  later := h.later
  request := hr
  idle := fun hs => h.idle (hst hs)

theorem Flowing.popped (h : Flowing s returned reader)
    (ht : s.threads = List.replicate returned .done ++ [reader]) (hh : reader.held = [])
    (hr : reader.Requests) {empty : AudioPath} (he : ∃ reader', Flowing empty returned reader') :
    ∃ reader', Flowing (s.popped returned empty) returned reader' := by
  unfold AudioPath.popped
  cases hq : s.frameQueue with
  | nil => exact he
  | cons frame queue =>
    simp only [aprQueuePop]
    refine ⟨.send frame, Or.inl (by simp [ht]), h.writers, ?_, h.earlier, h.later, fun _ => h.request hr,
      ?_⟩
    · have hc := h.current
      rw [hh, hq] at hc
      exact hc
    · intro hs
      exact absurd (h.idle hs) (by simp [hq])

theorem Flowing.sendAudio (h : Flowing s returned (.send frame)) {reader' : RecogMain} {channel : AliChannel}
    (ht : s.threads = List.replicate returned .done ++ [.send frame]) (hh : reader'.held = [])
    (hst : channel.starting = s.channel.starting) (hr : channel.recogRequest = s.channel.recogRequest) :
    Flowing { s.sendAudio frame with channel := channel, threads := s.threads.set returned reader' } returned
      reader' := by
  have hn : s.channel.recogRequest = some s.recognition := h.request trivial
  simp only [AudioPath.sendAudio, hn]
  refine ⟨Or.inl (by simp [ht]), h.writers, ?_, ?_, ?_, fun _ => hr.trans hn, ?_⟩
  · have hc := h.current
    simp only [held] at hc
    simpa [hh] using hc
  · intro recognition hlt
    have hne : s.recognition ≠ recognition := Nat.ne_of_gt hlt
    simp [bytesOf_of_ne hne, h.earlier recognition hlt]
  · intro recognition hgt
    have hne : s.recognition ≠ recognition := Nat.ne_of_lt hgt
    simp [bytesOf_of_ne hne, h.later recognition hgt]
  · intro hs
    exact h.idle (hst ▸ hs)

theorem Flowing.recogMain (h : Flowing s returned reader) {thread : Nat} {succeeds : Bool}
    (ho : Undisturbed s (.recogMain thread succeeds)) :
    ∃ reader', Flowing (s.recogMain thread succeeds) returned reader' := by
  rcases h.threads with ht | ⟨ht, rfl⟩
  · rcases Nat.lt_trichotomy thread returned with hlt | rfl | hgt
    · have hd : s.threads[thread]? = some .done := by
        simp [ht, List.getElem?_append_left, hlt]
      exact ⟨reader, by simpa [AudioPath.recogMain, hd] using h⟩
    · have hr : s.threads[thread]? = some reader := by simp [ht]
      unfold AudioPath.recogMain
      rw [hr]
      cases reader with
      | init =>
        refine ⟨_, h.proceed ht ?_ id (fun _ => rfl)⟩
        cases succeeds <;> rfl
      | loop =>
        refine ⟨_, h.proceed ht ?_ id (fun _ => h.request trivial)⟩
        cases s.channel.starting && succeeds <;> rfl
      | pop =>
        exact h.popped ht rfl trivial
          ⟨.waiting, h.proceed ht rfl id (fun _ => h.request trivial)⟩
      | waiting =>
        refine h.popped ht rfl trivial ⟨.ending, h.proceed ht rfl ?_ nofun⟩
        unfold recogExit
        split <;> simp
      | send frame =>
        have hn : s.channel.recogRequest.isNone = false := by rw [h.request trivial]; rfl
        cases succeeds with
        | true => exact ⟨.loop, h.sendAudio ht rfl (by simp) (by simp)⟩
        | false =>
          simp only [hn, Bool.or_self, Bool.false_eq_true, if_false]
          refine ⟨.ending, h.sendAudio ht rfl ?_ ?_⟩ <;> unfold recogExit <;> split <;> simp
      | ending =>
        have hq : s.frameQueue = [] := ho hr
        refine ⟨.done, Or.inl (by simp [ht]), h.writers, ?_, h.earlier, h.later, nofun, fun _ => hq⟩
        simpa [recogMainEnd, held] using h.current
      | done => exact ⟨.done, h⟩
    · have hn : s.threads[thread]? = none := by
        rw [List.getElem?_eq_none_iff, ht]
        simp
        omega
      exact ⟨reader, by simpa [AudioPath.recogMain, hn] using h⟩
  · exact ⟨.done, by simpa [AudioPath.recogMain, ht] using h⟩

theorem flowing_step {input : AudioInput} (h : ∃ returned reader, Flowing s returned reader)
    (ho : Undisturbed s input) : ∃ returned reader, Flowing (s.step input).1 returned reader := by
  obtain ⟨returned, reader, h⟩ := h
  have hw : ∀ frame, frame ∉ s.writers := by simp [h.writers]
  cases input with
  | readFrame frame contents =>
    simp only [step, if_neg (hw frame)]
    exact ⟨returned, reader, h.readFrame ho⟩
  | writeFrame frame =>
    simp only [step, if_neg (hw frame)]
    exact ⟨returned, reader, h.writeFrame ho⟩
  | resume writer => exact ⟨returned, reader, by simpa [step, resumeWriter, h.writers] using h⟩
  | start pushed => exact h.start ho
  | stop => exact ⟨returned, reader, h.channel rfl ho⟩
  | taskFailed => exact ⟨returned, reader, h.channel rfl ho⟩
  | channelClosed => exact ⟨returned, reader, h.channel rfl ho⟩
  | recogMain thread succeeds =>
    obtain ⟨reader', h'⟩ := h.recogMain ho
    exact ⟨returned, reader', h'⟩

/-- **On undisturbed steps the audio is intact.** -/
theorem audioIntact_of_undisturbed (inputs : List AudioInput)
    (h : Lib.EachStep AudioPath.step Undisturbed .initial inputs) :
    AudioIntact (Lib.run AudioPath.step .initial inputs).1 := by
  obtain ⟨_, _, hflowing⟩ := Lib.run_invariant (fun s => ∃ returned reader, Flowing s returned reader) Undisturbed
    (fun _ _ => flowing_step) .initial inputs ⟨0, .done, flowing_initial⟩ h
  exact hflowing.audioIntact

/-- Two frames are sent one by one, and the recognition is stopped. -/
theorem audioIntact_two_frames : AudioIntact (Lib.run AudioPath.step .initial
    [.start true, .recogMain 0 true, .recogMain 0 true, .readFrame 0 [1, 2], .writeFrame 0, .recogMain 0 true,
      .recogMain 0 true, .recogMain 0 true, .readFrame 0 [3, 4], .writeFrame 0, .recogMain 0 true, .recogMain 0 true,
      .stop, .recogMain 0 true, .recogMain 0 true]).1 :=
  audioIntact_of_undisturbed _ (by decide)

/-- The second frame is written before the first is sent: the SDK gets the second in its place. -/
theorem not_audioIntact : ¬ AudioIntact (Lib.run AudioPath.step .initial
    [.start true, .readFrame 0 [1, 2], .writeFrame 0, .readFrame 0 [3, 4], .writeFrame 0, .recogMain 0 true,
      .recogMain 0 true, .recogMain 0 true, .recogMain 0 true]).1 := by
  intro h
  have hprefix := (h 1).1
  revert hprefix
  decide

end UniMrcp.AliRecog
