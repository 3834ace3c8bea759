import UniMrcp.Lib.History
import UniMrcp.Lib.Run
import UniMrcp.Mpf.Frame

/-!
# The activity detector

`mpf_activity_detector.c`: speech and silence are told apart by the level of the audio, frame by frame.
-/

namespace UniMrcp.Mpf

open Lib

/-- `mpf_detector_event_e` -/
inductive DetectorEvent
  | none
  | activity
  | inactivity
  | noinput
  deriving DecidableEq

/-- `mpf_detector_state_e` -/
inductive DetectorState
  | inactivity
  | activityTransition
  | activity
  | inactivityTransition
  deriving DecidableEq

structure ActivityDetector where
  levelThreshold : UInt64 := 2
  /-- What has to be heard, in msec, until there is activity. -/
  speechTimeout : UInt64 := 300
  /-- What has to be silent until there is inactivity. -/
  silenceTimeout : UInt64 := 300
  noinputTimeout : UInt64 := 5000
  state : DetectorState := .inactivity
  duration : UInt64 := 0
  deriving DecidableEq

/-- `mpf_activity_detector_create` -/
def detectorCreate : ActivityDetector := {}

/-- `mpf_activity_detector_reset` -/
def detectorReset (detector : ActivityDetector) : ActivityDetector :=
  { detector with duration := 0, state := .inactivity }

/-- `mpf_activity_detector_level_set` -/
def detectorLevelSet (detector : ActivityDetector) (levelThreshold : UInt64) : ActivityDetector :=
  { detector with levelThreshold := levelThreshold }

/-- `mpf_activity_detector_noinput_timeout_set` -/
def detectorNoinputTimeoutSet (detector : ActivityDetector) (noinputTimeout : UInt64) : ActivityDetector :=
  { detector with noinputTimeout := noinputTimeout }

/-- `mpf_activity_detector_speech_timeout_set` -/
def detectorSpeechTimeoutSet (detector : ActivityDetector) (speechTimeout : UInt64) : ActivityDetector :=
  { detector with speechTimeout := speechTimeout }

/-- `mpf_activity_detector_silence_timeout_set` -/
def detectorSilenceTimeoutSet (detector : ActivityDetector) (silenceTimeout : UInt64) : ActivityDetector :=
  { detector with silenceTimeout := silenceTimeout }

/-- `mpf_activity_detector_state_change` -/
def detectorStateChange (detector : ActivityDetector) (state : DetectorState) : ActivityDetector :=
  { detector with duration := 0, state := state }

def samples : Bytes → List Int
  | lo :: hi :: rest => (lo.toNat + 256 * hi.toNat : Int).bmod (2 ^ 16) :: samples rest
  | _ => []

/-- `mpf_activity_detector_level_calculate`: the mean of the absolute values. An odd last byte is left out. -/
def levelCalculate (frame : CodecFrame) : UInt64 :=
  let count := frame.size / 2
  let sum := (samples (frame.buffer.take (2 * count))).foldl
    (fun sum cur => if cur < 0 then sum - UInt64.ofInt cur else sum + UInt64.ofInt cur) (0 : UInt64)
  sum / UInt64.ofNat count

/-- A frame whose level can be calculated: audio has at least one sample, and as many bytes as its size says. -/
structure AudibleFrame where
  frame : Frame
  sampled : frame.type.audio → 2 ≤ frame.codecFrame.size ∧ frame.codecFrame.size < 2 ^ 64 ∧
    frame.codecFrame.size ≤ frame.codecFrame.buffer.length

def levelOf (frame : AudibleFrame) : UInt64 :=
  if frame.frame.type.audio then levelCalculate frame.frame.codecFrame else 0

def durationAdd (detector : ActivityDetector) : ActivityDetector :=
  { detector with duration := detector.duration + UInt64.ofNat codecFrameTimeBase }

/-- `mpf_activity_detector_process` -/
def detectorProcess (detector : ActivityDetector) (frame : AudibleFrame) : ActivityDetector × DetectorEvent :=
  let level := levelOf frame
  match detector.state with
  | .inactivity =>
    if detector.levelThreshold ≤ level then (detectorStateChange detector .activityTransition, .none)
    else
      let detector := durationAdd detector
      (detector, if detector.noinputTimeout ≤ detector.duration then .noinput else .none)
  | .activityTransition =>
    if detector.levelThreshold ≤ level then
      let detector := durationAdd detector
      if detector.speechTimeout ≤ detector.duration then (detectorStateChange detector .activity, .activity)
      else (detector, .none)
    else (detectorStateChange detector .inactivity, .none)
  | .activity =>
    if detector.levelThreshold ≤ level then (durationAdd detector, .none)
    else (detectorStateChange detector .inactivityTransition, .none)
  | .inactivityTransition =>
    if detector.levelThreshold ≤ level then (detectorStateChange detector .activity, .none)
    else
      let detector := durationAdd detector
      if detector.silenceTimeout ≤ detector.duration then (detectorStateChange detector .inactivity, .inactivity)
      else (detector, .none)

/-! ## What the events of the activity detector mean -/

structure Tick where
  frame : AudibleFrame
  event : DetectorEvent

def Tick.isTurn (tick : Tick) : Bool := tick.event = .activity ∨ tick.event = .inactivity

def lastTurn (trace : List Tick) : Option DetectorEvent := (lastWith Tick.isTurn trace).map Tick.event

def Loud (detector : ActivityDetector) (frame : AudibleFrame) : Prop := detector.levelThreshold ≤ levelOf frame

def Tick.Speech (detector : ActivityDetector) (tick : Tick) : Prop := Loud detector tick.frame ∧ tick.event = .none

def Tick.Pause (detector : ActivityDetector) (tick : Tick) : Prop := ¬ Loud detector tick.frame ∧ tick.event = .none

def Tick.Quiet (detector : ActivityDetector) (tick : Tick) : Prop :=
  ¬ Loud detector tick.frame ∧ tick.isTurn = false

/-- **What an event tells.** Activity and inactivity alternate. Each ends a run of frames of its kind, of which all but
the first count for the timeout. No input is told without activity, after a timeout without a frame at or above the
threshold. -/
structure EventRight (detector : ActivityDetector) (trace : List Tick) (frame : AudibleFrame) (event : DetectorEvent) :
    Prop where
  activity : event = .activity → lastTurn trace ≠ some .activity ∧ Loud detector frame ∧
    ∃ n, EndsIn (Tick.Speech detector) (n + 1) trace ∧
      detector.speechTimeout.toNat ≤ (n + 1) * codecFrameTimeBase
  inactivity : event = .inactivity → lastTurn trace = some .activity ∧ ¬ Loud detector frame ∧
    ∃ n, EndsIn (Tick.Pause detector) (n + 1) trace ∧
      detector.silenceTimeout.toNat ≤ (n + 1) * codecFrameTimeBase
  noinput : event = .noinput → lastTurn trace ≠ some .activity ∧ ¬ Loud detector frame ∧
    ∃ n, EndsIn (Tick.Quiet detector) n trace ∧
      detector.noinputTimeout.toNat ≤ (n + 1) * codecFrameTimeBase

def tickStep (s : ActivityDetector × List Tick) (frame : AudibleFrame) :
    (ActivityDetector × List Tick) × DetectorEvent :=
  (((detectorProcess s.1 frame).1, s.2 ++ [⟨frame, (detectorProcess s.1 frame).2⟩]), (detectorProcess s.1 frame).2)

def PhaseRight (detector : ActivityDetector) (trace : List Tick) (duration : UInt64) : DetectorState → Prop
  | .inactivity => lastTurn trace ≠ some .activity ∧
    ∃ n, EndsIn (Tick.Quiet detector) n trace ∧ duration.toNat ≤ n * codecFrameTimeBase
  | .activityTransition => lastTurn trace ≠ some .activity ∧
    ∃ n, EndsIn (Tick.Speech detector) (n + 1) trace ∧ duration.toNat ≤ n * codecFrameTimeBase
  | .activity => lastTurn trace = some .activity
  | .inactivityTransition => lastTurn trace = some .activity ∧
    ∃ n, EndsIn (Tick.Pause detector) (n + 1) trace ∧ duration.toNat ≤ n * codecFrameTimeBase

structure SameSettings (detector detector' : ActivityDetector) : Prop where
  level : detector'.levelThreshold = detector.levelThreshold
  speech : detector'.speechTimeout = detector.speechTimeout
  silence : detector'.silenceTimeout = detector.silenceTimeout
  noinput : detector'.noinputTimeout = detector.noinputTimeout

theorem SameSettings.stateChange {detector detector' : ActivityDetector} (h : SameSettings detector detector')
    (state : DetectorState) : SameSettings detector (detectorStateChange detector' state) :=
  ⟨h.level, h.speech, h.silence, h.noinput⟩

theorem SameSettings.durationAdd {detector detector' : ActivityDetector} (h : SameSettings detector detector') :
    SameSettings detector (durationAdd detector') := ⟨h.level, h.speech, h.silence, h.noinput⟩

/-- The invariant of a run from `detector`. -/
structure Traced (detector : ActivityDetector) (s : ActivityDetector × List Tick) : Prop where
  settings : SameSettings detector s.1
  phase : PhaseRight detector s.2 s.1.duration s.1.state

structure ActivityDetector.Fresh (detector : ActivityDetector) : Prop where
  state : detector.state = .inactivity
  duration : detector.duration = 0

theorem fresh_create : detectorCreate.Fresh := ⟨rfl, rfl⟩

theorem fresh_reset (detector : ActivityDetector) : (detectorReset detector).Fresh := ⟨rfl, rfl⟩

theorem ActivityDetector.Fresh.set {detector : ActivityDetector} (h : detector.Fresh) (value : UInt64) :
    (detectorLevelSet detector value).Fresh ∧ (detectorNoinputTimeoutSet detector value).Fresh ∧
      (detectorSpeechTimeoutSet detector value).Fresh ∧ (detectorSilenceTimeoutSet detector value).Fresh :=
  ⟨⟨h.1, h.2⟩, ⟨h.1, h.2⟩, ⟨h.1, h.2⟩, h.1, h.2⟩

theorem ActivityDetector.Fresh.traced {detector : ActivityDetector} (h : detector.Fresh) :
    Traced detector (detector, []) := by
  refine ⟨⟨rfl, rfl, rfl, rfl⟩, ?_⟩
  rw [h.state]
  exact ⟨by simp [lastTurn, lastWith], 0, endsIn_zero _ _, by simp [h.duration]⟩

/-! ## One frame -/

section Frame

variable {detector : ActivityDetector} {trace : List Tick} {frame : AudibleFrame} {event : DetectorEvent}

theorem lastTurn_turn (trace : List Tick) (frame : AudibleFrame) (h : event = .activity ∨ event = .inactivity) :
    lastTurn (trace ++ [⟨frame, event⟩]) = some event := by
  rw [lastTurn, lastWith_snoc_pos]
  · rfl
  · simpa [Tick.isTurn] using h

theorem lastTurn_other (trace : List Tick) (frame : AudibleFrame) (h : event ≠ .activity) (h' : event ≠ .inactivity) :
    lastTurn (trace ++ [⟨frame, event⟩]) = lastTurn trace := by
  rw [lastTurn, lastTurn, lastWith_snoc_neg]
  simp [Tick.isTurn, h, h']

@[simp] theorem lastTurn_none (trace : List Tick) (frame : AudibleFrame) :
    lastTurn (trace ++ [⟨frame, .none⟩]) = lastTurn trace := lastTurn_other trace frame nofun nofun

@[simp] theorem lastTurn_noinput (trace : List Tick) (frame : AudibleFrame) :
    lastTurn (trace ++ [⟨frame, .noinput⟩]) = lastTurn trace := lastTurn_other trace frame nofun nofun

theorem durationAdd_le {duration : UInt64} {n : Nat} (h : duration.toNat ≤ n * codecFrameTimeBase) :
    (duration + UInt64.ofNat codecFrameTimeBase).toNat ≤ (n + 1) * codecFrameTimeBase := by
  have hw : (duration + UInt64.ofNat codecFrameTimeBase).toNat ≤ duration.toNat + codecFrameTimeBase := by
    rw [UInt64.toNat_add]
    exact Nat.mod_le _ _
  rw [Nat.add_mul, Nat.one_mul]
  omega

theorem eventRight_none (detector : ActivityDetector) (trace : List Tick) (frame : AudibleFrame) :
    EventRight detector trace frame .none := ⟨nofun, nofun, nofun⟩

variable {s : ActivityDetector × List Tick}

variable (d : ActivityDetector)

theorem tick_of_process (event : DetectorEvent) (hp : detectorProcess s.1 frame = (d, event))
    (hs : SameSettings detector d) (hh : PhaseRight detector (s.2 ++ [⟨frame, event⟩]) d.duration d.state)
    (hr : EventRight detector s.2 frame event) :
    Traced detector (tickStep s frame).1 ∧ EventRight detector s.2 frame (detectorProcess s.1 frame).2 := by
  unfold tickStep
  rw [hp]
  exact ⟨⟨hs, hh⟩, hr⟩

theorem tick_of_none (hp : detectorProcess s.1 frame = (d, .none)) (hs : SameSettings detector d)
    (hh : PhaseRight detector (s.2 ++ [⟨frame, .none⟩]) d.duration d.state) :
    Traced detector (tickStep s frame).1 ∧ EventRight detector s.2 frame (detectorProcess s.1 frame).2 :=
  tick_of_process d .none hp hs hh (eventRight_none _ _ _)

variable (h : Traced detector s) (frame)
include h

theorem Traced.loud : s.1.levelThreshold ≤ levelOf frame ↔ Loud detector frame := by
  rw [Loud, h.settings.level]

theorem tick_inactivity (hs : s.1.state = .inactivity) :
    Traced detector (tickStep s frame).1 ∧ EventRight detector s.2 frame (detectorProcess s.1 frame).2 := by
  obtain ⟨hr, n, hq, hd⟩ : PhaseRight detector s.2 s.1.duration .inactivity := hs ▸ h.phase
  by_cases hl : Loud detector frame
  · refine tick_of_none (detectorStateChange s.1 .activityTransition) ?_ (h.settings.stateChange _) ?_
    · simp [detectorProcess, hs, h.loud, hl]
    · refine ⟨by rwa [lastTurn_none], 0, (endsIn_zero _ _).snoc ⟨hl, rfl⟩, ?_⟩
      simp [detectorStateChange]
  · have hm := durationAdd_le hd
    by_cases ht : s.1.noinputTimeout ≤ s.1.duration + UInt64.ofNat codecFrameTimeBase
    · refine tick_of_process (durationAdd s.1) .noinput ?_ h.settings.durationAdd ?_ ⟨nofun, nofun, fun _ => ?_⟩
      · simp [detectorProcess, hs, h.loud, hl, durationAdd, ht]
      · rw [show (durationAdd s.1).state = .inactivity from hs]
        exact ⟨by rwa [lastTurn_noinput], n + 1, hq.snoc ⟨hl, rfl⟩, hm⟩
      · refine ⟨hr, hl, n, hq, ?_⟩
        rw [← h.settings.noinput]
        exact (UInt64.le_iff_toNat_le.1 ht).trans hm
    · refine tick_of_none (durationAdd s.1) ?_ h.settings.durationAdd ?_
      · simp [detectorProcess, hs, h.loud, hl, durationAdd, ht]
      · rw [show (durationAdd s.1).state = .inactivity from hs]
        exact ⟨by rwa [lastTurn_none], n + 1, hq.snoc ⟨hl, rfl⟩, hm⟩

theorem tick_activityTransition (hs : s.1.state = .activityTransition) :
    Traced detector (tickStep s frame).1 ∧ EventRight detector s.2 frame (detectorProcess s.1 frame).2 := by
  obtain ⟨hr, n, hp, hd⟩ : PhaseRight detector s.2 s.1.duration .activityTransition :=
    hs ▸ h.phase
  have hm := durationAdd_le hd
  by_cases hl : Loud detector frame
  · by_cases ht : s.1.speechTimeout ≤ s.1.duration + UInt64.ofNat codecFrameTimeBase
    · refine tick_of_process (detectorStateChange (durationAdd s.1) .activity) .activity ?_
        (h.settings.durationAdd.stateChange _) (lastTurn_turn _ _ (.inl rfl)) ⟨fun _ => ?_, nofun, nofun⟩
      · simp [detectorProcess, hs, h.loud, hl, durationAdd, ht]
      · refine ⟨hr, hl, n, hp, ?_⟩
        rw [← h.settings.speech]
        exact (UInt64.le_iff_toNat_le.1 ht).trans hm
    · refine tick_of_none (durationAdd s.1) ?_ h.settings.durationAdd ?_
      · simp [detectorProcess, hs, h.loud, hl, durationAdd, ht]
      · rw [show (durationAdd s.1).state = .activityTransition from hs]
        exact ⟨by rwa [lastTurn_none], n + 1, hp.snoc ⟨hl, rfl⟩, hm⟩
  · refine tick_of_none (detectorStateChange s.1 .inactivity) ?_ (h.settings.stateChange _) ?_
    · simp [detectorProcess, hs, h.loud, hl]
    · refine ⟨by rwa [lastTurn_none], 0, endsIn_zero _ _, ?_⟩
      simp [detectorStateChange]

theorem tick_activity (hs : s.1.state = .activity) :
    Traced detector (tickStep s frame).1 ∧ EventRight detector s.2 frame (detectorProcess s.1 frame).2 := by
  have ht : lastTurn s.2 = some .activity := by
    have hp := h.phase
    rwa [hs] at hp
  by_cases hl : Loud detector frame
  · refine tick_of_none (durationAdd s.1) ?_ h.settings.durationAdd ?_
    · simp [detectorProcess, hs, h.loud, hl]
    · rw [show (durationAdd s.1).state = .activity from hs]
      exact (lastTurn_none _ _).trans ht
  · refine tick_of_none (detectorStateChange s.1 .inactivityTransition) ?_ (h.settings.stateChange _) ?_
    · simp [detectorProcess, hs, h.loud, hl]
    · refine ⟨by rwa [lastTurn_none], 0, (endsIn_zero _ _).snoc ⟨hl, rfl⟩, ?_⟩
      simp [detectorStateChange]

theorem tick_inactivityTransition (hs : s.1.state = .inactivityTransition) :
    Traced detector (tickStep s frame).1 ∧ EventRight detector s.2 frame (detectorProcess s.1 frame).2 := by
  obtain ⟨hr, n, hp, hd⟩ : PhaseRight detector s.2 s.1.duration .inactivityTransition :=
    hs ▸ h.phase
  have hm := durationAdd_le hd
  by_cases hl : Loud detector frame
  · refine tick_of_none (detectorStateChange s.1 .activity) ?_ (h.settings.stateChange _)
      ((lastTurn_none _ _).trans hr)
    simp [detectorProcess, hs, h.loud, hl]
  · by_cases ht : s.1.silenceTimeout ≤ s.1.duration + UInt64.ofNat codecFrameTimeBase
    · refine tick_of_process (detectorStateChange (durationAdd s.1) .inactivity) .inactivity ?_
        (h.settings.durationAdd.stateChange _) ?_ ⟨nofun, fun _ => ?_, nofun⟩
      · simp [detectorProcess, hs, h.loud, hl, durationAdd, ht]
      · refine ⟨?_, 0, endsIn_zero _ _, by simp [detectorStateChange]⟩
        rw [lastTurn_turn _ _ (.inr rfl)]
        exact nofun
      · refine ⟨hr, hl, n, hp, ?_⟩
        rw [← h.settings.silence]
        exact (UInt64.le_iff_toNat_le.1 ht).trans hm
    · refine tick_of_none (durationAdd s.1) ?_ h.settings.durationAdd ?_
      · simp [detectorProcess, hs, h.loud, hl, durationAdd, ht]
      · rw [show (durationAdd s.1).state = .inactivityTransition from hs]
        exact ⟨by rwa [lastTurn_none], n + 1, hp.snoc ⟨hl, rfl⟩, hm⟩

theorem tickStep_traced :
    Traced detector (tickStep s frame).1 ∧ EventRight detector s.2 frame (detectorProcess s.1 frame).2 := by
  cases hs : s.1.state with
  | inactivity => exact tick_inactivity frame h hs
  | activityTransition => exact tick_activityTransition frame h hs
  | activity => exact tick_activity frame h hs
  | inactivityTransition => exact tick_inactivityTransition frame h hs

end Frame

/-- **Each event tells what was heard**, for all frames, from a detector that is new or was reset. -/
theorem events_right {detector : ActivityDetector} (h : detector.Fresh) (frames : List AudibleFrame) :
    EachStep tickStep (fun s frame => EventRight detector s.2 frame (detectorProcess s.1 frame).2) (detector, [])
      frames :=
  eachStep_of_invariant (Traced detector) (fun _ _ => True) _ (fun _ frame h _ => (tickStep_traced frame h).1)
    (fun _ frame h _ => (tickStep_traced frame h).2) _ frames h.traced (eachStep_true _ _)

def oneSample (lo hi : UInt8) : AudibleFrame where
  frame := { (default : Frame) with type := { audio := true }, codecFrame := { buffer := [lo, hi], size := 2 } }
  sampled := fun _ => by simp

/-- Two frames of speech and two of silence, at timeouts of one frame. -/
theorem events_right_twice : EachStep tickStep
    (fun s frame => EventRight (detectorSpeechTimeoutSet (detectorSilenceTimeoutSet detectorCreate 10) 10) s.2 frame
      (detectorProcess s.1 frame).2) (detectorSpeechTimeoutSet (detectorSilenceTimeoutSet detectorCreate 10) 10, [])
    [oneSample 0 128, oneSample 9 0, oneSample 0 0, oneSample 1 0] ∧
    (run tickStep (detectorSpeechTimeoutSet (detectorSilenceTimeoutSet detectorCreate 10) 10, [])
      [oneSample 0 128, oneSample 9 0, oneSample 0 0, oneSample 1 0]).2 = [.none, .activity, .none, .inactivity] :=
  ⟨events_right ((fresh_create.set 10).2.2.2.set 10).2.2.1 _, by decide⟩

end UniMrcp.Mpf
