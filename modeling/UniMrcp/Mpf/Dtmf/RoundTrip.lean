import Mathlib.Data.List.TakeWhile
import UniMrcp.Lib.Run
import UniMrcp.Mpf.Dtmf
import UniMrcp.Mpf.Dtmf.Dialler

/-!
# Digits from the generator to the detector

The generator is a dialler, and the detector adds each digit that the dialler signals.
-/

namespace UniMrcp.Mpf

open Lib List Function Option
open List (replicate length)

variable {digit : UInt8}

theorem eventIdToDtmfChar_charToEventId (h : isDtmfDigit digit) :
    eventIdToDtmfChar (dtmfCharToEventId digit) = digit := by
  have ha : ∀ n : Fin 256, isDtmfDigit (UInt8.ofNat n.val) →
      eventIdToDtmfChar (dtmfCharToEventId (UInt8.ofNat n.val)) = UInt8.ofNat n.val := by decide +kernel
  have hd : UInt8.ofNat digit.toNat = digit := UInt8.ofNat_toNat
  have ht := ha ⟨digit.toNat, digit.toNat_lt⟩
  rw [hd] at ht
  exact ht h

theorem dtmfCharToEventId_le (h : isDtmfDigit digit) : dtmfCharToEventId digit ≤ dtmfEventIdMax := by
  simpa [isDtmfDigit] using h

theorem ne_zero_of_isDtmfDigit (h : isDtmfDigit digit) : digit ≠ 0 := by
  rintro rfl
  exact absurd h (by decide)

theorem dtmfDigitTake_spec (eventId : UInt8) (queue : Bytes) :
    (∃ digit, isDtmfDigit digit ∧ (dtmfDigitTake eventId queue).1 = dtmfCharToEventId digit ∧
      queue.filter isDtmfDigit = digit :: (dtmfDigitTake eventId queue).2.filter isDtmfDigit) ∨
    queue.filter isDtmfDigit = [] ∧ (dtmfDigitTake eventId queue).2 = [] ∧
      (queue ≠ [] → ¬(dtmfDigitTake eventId queue).1 ≤ dtmfEventIdMax) := by
  induction queue generalizing eventId with
  | nil => exact Or.inr ⟨rfl, rfl, fun h => absurd rfl h⟩
  | cons digit queue ih =>
    unfold dtmfDigitTake
    by_cases hid : dtmfCharToEventId digit > dtmfEventIdMax
    · have hn : isDtmfDigit digit = false := by
        simp only [isDtmfDigit, decide_eq_false_iff_not, UInt8.not_le]
        exact hid
      rw [if_pos hid, filter_cons_of_neg (by simp [hn])]
      rcases ih (dtmfCharToEventId digit) with hf | ⟨hl, hr, hs⟩
      · exact Or.inl hf
      · refine Or.inr ⟨hl, hr, fun _ => ?_⟩
        cases queue with
        | nil => exact UInt8.not_le.2 hid
        | cons next queue => exact hs (by simp)
    · have hd : isDtmfDigit digit := by
        simpa [isDtmfDigit, UInt8.not_lt] using hid
      rw [if_neg hid, filter_cons_of_pos hd]
      exact Or.inl ⟨digit, hd, rfl, rfl⟩

/-! ## The generator as a dialler -/

def DtmfGenerator.timing (generator : DtmfGenerator) : Timing where
  wrap := UInt32.size
  frame := generator.frameDuration.toNat
  tone := generator.toneDuration.toNat
  silence := generator.silenceDuration.toNat
  frame_lt := generator.frameDuration.toNat_lt_size

def DtmfGenerator.InPhase (generator : DtmfGenerator) : Phase UInt8 → Prop
  | .idle => generator.state = .idle
  | .tone digit ticks => generator.state = .tone ∧ isDtmfDigit digit ∧
      generator.eventId = dtmfCharToEventId digit ∧
      generator.counter.toNat = ticks * generator.frameDuration.toNat % UInt32.size ∧ generator.sinceLastEvent = 0
  | .ending again => generator.state = .ending ∧ generator.counter.toNat = again ∧ again ≤ 1 ∧
      generator.sinceLastEvent = 0
  | .silence ticks => generator.state = .silence ∧
      generator.counter.toNat = ticks * generator.frameDuration.toNat % UInt32.size

structure DtmfGenerator.Timed (t : Timing) (generator : DtmfGenerator) : Prop where
  timing : generator.timing = t
  outband : generator.outband
  ptime : generator.eventsPtime = codecFrameTimeBase.toUInt32

structure DtmfGenerator.Refines (t : Timing) (generator : DtmfGenerator) (phase : Phase UInt8)
    (pending : List UInt8) : Prop where
  timed : generator.Timed t
  phase : generator.InPhase phase
  pending : generator.queue.filter isDtmfDigit = pending

def dtmfDetectorSignal (detector : DtmfDetector) (signal : Option UInt8) : DtmfDetector :=
  signal.elim detector (dtmfDetectorAddDigit detector)

variable (detector : DtmfDetector)

theorem dtmfDetectorGetFrame_event (generator : DtmfGenerator) (frame : Frame) (marker : FrameMarker) (edge : Bool)
    (duration : UInt32) (hd : isDtmfDigit digit) (hid : generator.eventId = dtmfCharToEventId digit) :
    dtmfDetectorGetFrame detector (dtmfEventFrame generator frame marker edge duration) =
      dtmfDetectorSignal detector (if marker = .startOfEvent then some digit else none) := by
  have hle := dtmfCharToEventId_le hd
  unfold dtmfDetectorGetFrame dtmfEventFrame dtmfDetectorSignal
  rw [hid, eventIdToDtmfChar_charToEventId hd]
  by_cases hm : marker = .startOfEvent <;> simp [hm, hle]

theorem dtmfDetectorGetFrame_notStart {frame : Frame} (h : frame.marker ≠ .startOfEvent) :
    dtmfDetectorGetFrame detector frame = detector := by
  unfold dtmfDetectorGetFrame
  rw [if_neg fun hc => h hc.2.2]

theorem dtmfAudioFrame_marker (generator : DtmfGenerator) (frame : Frame) :
    (dtmfAudioFrame generator frame).marker = frame.marker := by
  unfold dtmfAudioFrame
  split_ifs <;> rfl

variable {t : Timing} {ticks : Nat}

/-- **The named event of a tone.** -/
theorem dtmfTonePut_refines (generator : DtmfGenerator) (ht : generator.Timed t)
    (hh : generator.InPhase (.tone digit ticks)) (frame : Frame) (detector : DtmfDetector) :
    (dtmfTonePut generator frame).1.Refines t (t.toneTick digit ticks).1 (generator.queue.filter isDtmfDigit) ∧
      dtmfDetectorGetFrame detector (dtmfTonePut generator frame).2 =
        dtmfDetectorSignal detector (t.toneTick digit ticks).2 := by
  obtain ⟨h, hd, hid, hn, hs⟩ := hh
  obtain ⟨rfl, ho, hp⟩ := ht
  have hend : generator.counter ≥ generator.toneDuration ↔
      generator.timing.tone ≤ ticks * generator.timing.frame % generator.timing.wrap := by
    rw [show ticks * generator.timing.frame % generator.timing.wrap = generator.counter.toNat from hn.symm]
    exact UInt32.le_iff_toNat_le
  have hr : generator.counter = generator.frameDuration ↔
      ticks * generator.timing.frame % generator.timing.wrap = generator.timing.frame := by
    rw [show ticks * generator.timing.frame % generator.timing.wrap = generator.counter.toNat from hn.symm]
    exact UInt32.toNat_inj.symm
  unfold dtmfTonePut
  by_cases he : generator.counter ≥ generator.toneDuration
  · rw [if_pos he, Timing.toneTick_end (hend.1 he)]
    refine ⟨⟨⟨rfl, ho, hp⟩, ⟨rfl, rfl, by omega, hs⟩, rfl⟩, ?_⟩
    rw [dtmfDetectorGetFrame_event detector generator frame _ _ _ hd hid]
    simp
  · rw [if_neg he, Timing.toneTick_on fun hc => he (hend.2 hc)]
    refine ⟨⟨⟨rfl, ho, hp⟩, ⟨h, hd, hid, hn, hs⟩, rfl⟩, ?_⟩
    rw [dtmfDetectorGetFrame_event detector generator frame _ _ _ hd hid]
    by_cases hf : generator.counter = generator.frameDuration
    · rw [if_pos hf, if_pos rfl, if_pos (hr.1 hf)]
    · rw [if_neg hf, if_neg fun hc => hf (hr.2 hc)]
      split_ifs <;> first | rfl | contradiction

theorem counter_succ {counter frame : UInt32} (h : counter.toNat = ticks * frame.toNat % UInt32.size) :
    (counter + frame).toNat = (ticks + 1) * frame.toNat % UInt32.size := by
  rw [UInt32.toNat_add, h, Nat.succ_mul]
  exact Nat.mod_add_mod _ _ _

theorem dtmfTone_refines (generator : DtmfGenerator) (ticks : Nat) (ht : generator.Timed t)
    (hs : generator.state = .tone) (hd : isDtmfDigit digit)
    (hid : generator.eventId = dtmfCharToEventId digit)
    (hc : generator.counter.toNat = ticks * generator.frameDuration.toNat % UInt32.size)
    (hn : generator.sinceLastEvent + codecFrameTimeBase.toUInt32 ≥ generator.eventsPtime) (frame : Frame)
    (detector : DtmfDetector) :
    (dtmfTone generator frame).1.Refines t (t.toneTick digit (ticks + 1)).1 (generator.queue.filter isDtmfDigit) ∧
      dtmfDetectorGetFrame detector (dtmfTone generator frame).2 =
        dtmfDetectorSignal detector (t.toneTick digit (ticks + 1)).2 := by
  unfold dtmfTone
  rw [if_pos ht.outband, if_pos hn]
  exact dtmfTonePut_refines { generator with
      counter := generator.counter + generator.frameDuration
      eventDuration := generator.eventDuration + generator.frameDuration
      sinceLastEvent := 0 } ⟨ht.timing, ht.outband, ht.ptime⟩
    ⟨hs, hd, hid, counter_succ hc, rfl⟩ _ detector

variable {generator : DtmfGenerator}

/-- **The end of a tone** is signalled again. -/
theorem dtmfEnding_refines (hm : generator.Timed t) {again : Nat} (hh : generator.InPhase (.ending again))
    (frame : Frame) (detector : DtmfDetector) :
    (dtmfEnding generator frame).1.Refines t (if 2 ≤ again + 1 then .silence 2 else .ending (again + 1))
        (generator.queue.filter isDtmfDigit) ∧
      dtmfDetectorGetFrame detector (dtmfEnding generator frame).2 = detector := by
  obtain ⟨h, hcn, hle, hsn⟩ := hh
  obtain ⟨rfl, ho, hp⟩ := hm
  have hps : generator.sinceLastEvent + codecFrameTimeBase.toUInt32 ≥ generator.eventsPtime := by
    rw [hsn, hp]
    decide
  have hs : (generator.counter + 1).toNat = again + 1 := by
    rw [UInt32.toNat_add, hcn]
    exact Nat.mod_eq_of_lt (by simp only [UInt32.toNat_one]; omega)
  have hn : generator.counter + 1 ≥ 2 ↔ 2 ≤ again + 1 := by
    rw [← hs]
    exact UInt32.le_iff_toNat_le
  unfold dtmfEnding
  rw [if_pos hps]
  by_cases he : generator.counter + 1 ≥ 2
  · rw [if_pos he, if_pos (hn.1 he)]
    refine ⟨⟨⟨rfl, ho, hp⟩, ⟨rfl, ?_⟩, rfl⟩, ?_⟩
    · have ht : again + 1 = 2 := by
        have hge := hn.1 he
        omega
      rw [UInt32.toNat_mul, hs, ht]
    · apply dtmfDetectorGetFrame_notStart
      rw [dtmfAudioFrame_marker]
      simp [dtmfEventFrame]
  · rw [if_neg he, if_neg fun hc => he (hn.2 hc)]
    refine ⟨⟨⟨rfl, ho, hp⟩, ⟨h, hs, ?_, rfl⟩, rfl⟩, ?_⟩
    · have hlt := mt hn.2 he
      omega
    · apply dtmfDetectorGetFrame_notStart
      rw [dtmfAudioFrame_marker]
      simp [dtmfEventFrame]

theorem dtmfSilence_refines (ht : generator.Timed t) (hh : generator.InPhase (.silence ticks)) :
    (dtmfSilence generator).Refines t
      (if t.silence ≤ (ticks + 1) * t.frame % t.wrap then .idle else .silence (ticks + 1))
      (generator.queue.filter isDtmfDigit) := by
  obtain ⟨h, hcn⟩ := hh
  obtain ⟨rfl, ho, hp⟩ := ht
  have hs := counter_succ hcn
  have hn : generator.counter + generator.frameDuration ≥ generator.silenceDuration ↔
      generator.timing.silence ≤ (ticks + 1) * generator.timing.frame % generator.timing.wrap := by
    rw [show (ticks + 1) * generator.timing.frame % generator.timing.wrap =
      (generator.counter + generator.frameDuration).toNat from hs.symm]
    exact UInt32.le_iff_toNat_le
  unfold dtmfSilence
  by_cases he : generator.counter + generator.frameDuration ≥ generator.silenceDuration
  · rw [if_pos he, if_pos (hn.1 he)]
    exact ⟨⟨rfl, ho, hp⟩, rfl, rfl⟩
  · rw [if_neg he, if_neg fun hc => he (hn.2 hc)]
    exact ⟨⟨rfl, ho, hp⟩, ⟨h, hs⟩, rfl⟩

structure DtmfGenerator.Begins (t : Timing) (generator : DtmfGenerator) (digit : UInt8) : Prop where
  timed : generator.Timed t
  state : generator.state = .tone
  valid : isDtmfDigit digit
  eventId : generator.eventId = dtmfCharToEventId digit
  counter : generator.counter = 0
  eventDuration : generator.eventDuration = 0
  newSegment : generator.newSegment = false
  since : generator.sinceLastEvent + codecFrameTimeBase.toUInt32 ≥ generator.eventsPtime

variable {pending : List UInt8}

theorem digitStart_digit (ht : generator.Timed t) (hi : generator.state = .idle)
    (hp : generator.queue.filter isDtmfDigit = digit :: pending) :
    (dtmfDigitStart generator).Begins t digit ∧ (dtmfDigitStart generator).queue.filter isDtmfDigit = pending := by
  have hq : generator.queue ≠ [] := by
    rintro hn
    simp [hn] at hp
  rcases dtmfDigitTake_spec generator.eventId generator.queue with ⟨digit', hd, hid, hf⟩ | ⟨hf, -⟩
  · obtain ⟨rfl, rfl⟩ := cons_eq_cons.1 (hp.symm.trans hf)
    have hs : dtmfDigitStart generator = { generator with
          eventId := (dtmfDigitTake generator.eventId generator.queue).1
          queue := (dtmfDigitTake generator.eventId generator.queue).2
          state := .tone
          counter := 0
          eventDuration := 0
          sinceLastEvent := generator.eventsPtime
          newSegment := false } := by
      unfold dtmfDigitStart
      rw [if_pos ⟨hi, hq⟩]
      exact if_pos (hid ▸ dtmfCharToEventId_le hd)
    rw [hs]
    refine ⟨⟨⟨ht.timing, ht.outband, ht.ptime⟩, rfl, hd, hid, rfl, rfl, rfl, ?_⟩, rfl⟩
    dsimp only
    rw [ht.ptime]
    decide
  · exact absurd (hp.symm.trans hf) (cons_ne_nil _ _)

theorem digitStart_none (ht : generator.Timed t) (hi : generator.state = .idle)
    (hp : generator.queue.filter isDtmfDigit = []) : (dtmfDigitStart generator).Refines t .idle [] := by
  unfold dtmfDigitStart
  by_cases hq : generator.queue = []
  · rw [if_neg fun hc => hc.2 hq]
    exact ⟨ht, hi, hp⟩
  · rcases dtmfDigitTake_spec generator.eventId generator.queue with ⟨digit, -, -, hf⟩ | ⟨-, hr, hl⟩
    · exact absurd (hp.symm.trans hf) (cons_ne_nil _ _).symm
    · rw [if_pos ⟨hi, hq⟩]
      rw [if_neg (hl hq)]
      exact ⟨⟨ht.timing, ht.outband, ht.ptime⟩, hi, by rw [hr]; rfl⟩

theorem digitStart_of_ne_idle (h : generator.state ≠ .idle) :
    dtmfDigitStart generator = generator := if_neg fun hc => h hc.1

theorem putFrame_tone (h : (dtmfDigitStart generator).state = .tone) (frame : Frame) :
    dtmfGeneratorPutFrame generator frame =
      ((dtmfTone (dtmfDigitStart generator) frame).1, (dtmfTone (dtmfDigitStart generator) frame).2, true) := by
  simp only [dtmfGeneratorPutFrame, h]

theorem putFrame_idle (h : (dtmfDigitStart generator).state = .idle) (frame : Frame) :
    dtmfGeneratorPutFrame generator frame = (dtmfDigitStart generator, frame, false) := by
  simp only [dtmfGeneratorPutFrame, h]

theorem putFrame_ending (h : generator.state = .ending) (frame : Frame) :
    dtmfGeneratorPutFrame generator frame =
      ((dtmfEnding generator frame).1, (dtmfEnding generator frame).2, true) := by
  have hs : dtmfDigitStart generator = generator := digitStart_of_ne_idle (by simp [h])
  simp only [dtmfGeneratorPutFrame, hs, h]

theorem putFrame_silence (h : generator.state = .silence) (frame : Frame) :
    dtmfGeneratorPutFrame generator frame = (dtmfSilence generator, frame, false) := by
  have hs : dtmfDigitStart generator = generator := digitStart_of_ne_idle (by simp [h])
  simp only [dtmfGeneratorPutFrame, hs, h]

def dtmfDetectorFeed (detector : DtmfDetector) (r : Frame × Bool) : DtmfDetector :=
  if r.2 then dtmfDetectorGetFrame detector r.1 else detector

theorem putFrame_refines {phase : Phase UInt8} (h : generator.Refines t phase pending) (frame : Frame)
    (detector : DtmfDetector) :
    (dtmfGeneratorPutFrame generator frame).1.Refines t (t.next phase pending).1 (t.next phase pending).2.1 ∧
      dtmfDetectorFeed detector (dtmfGeneratorPutFrame generator frame).2 =
        dtmfDetectorSignal detector (t.next phase pending).2.2 := by
  obtain ⟨ht, hp, rfl⟩ := h
  cases phase with
  | idle =>
    have hi : generator.state = .idle := hp
    cases hn : generator.queue.filter isDtmfDigit with
    | nil =>
      have hs := digitStart_none ht hi hn
      rw [putFrame_idle hs.phase]
      exact ⟨hs, rfl⟩
    | cons digit pending =>
      obtain ⟨hb, hrs⟩ := digitStart_digit ht hi hn
      have hc : (dtmfDigitStart generator).counter.toNat =
          0 * (dtmfDigitStart generator).frameDuration.toNat % UInt32.size := by
        rw [hb.counter, Nat.zero_mul]
        rfl
      obtain ⟨hr, hf⟩ := dtmfTone_refines (dtmfDigitStart generator) 0 hb.timed hb.state
        hb.valid hb.eventId hc hb.since frame detector
      rw [putFrame_tone hb.state]
      rw [hrs] at hr
      exact ⟨hr, hf⟩
  | tone digit ticks =>
    obtain ⟨hst, hd, hid, hc, hsn⟩ := hp
    have hs : dtmfDigitStart generator = generator := digitStart_of_ne_idle (by simp [hst])
    have hps : generator.sinceLastEvent + codecFrameTimeBase.toUInt32 ≥ generator.eventsPtime := by
      rw [hsn, ht.ptime]
      decide
    rw [putFrame_tone (by rw [hs, hst]), hs]
    exact dtmfTone_refines generator ticks ht hst hd hid hc hps frame detector
  | ending again =>
    rw [putFrame_ending hp.1]
    exact dtmfEnding_refines ht hp frame detector
  | silence ticks =>
    rw [putFrame_silence hp.1]
    exact ⟨dtmfSilence_refines ht hp, rfl⟩

/-! ## Sessions -/

/-- A generator whose frames are fed to a detector, the text that was enqueued and the digits that were got. -/
structure DtmfSession where
  generator : DtmfGenerator
  detector : DtmfDetector := {}
  enqueued : Bytes := []
  got : Bytes := []

inductive DtmfInput
  | enqueue (digits : Bytes)
  /-- A tick of the media clock, with the frame that the generator is to put its event into. -/
  | tick (frame : Frame)
  | digitGet

def dtmfStep (s : DtmfSession) : DtmfInput → DtmfSession × Unit
  | .enqueue digits =>
    let r := dtmfGeneratorEnqueue s.generator digits
    ({ s with
        generator := r.1
        enqueued := if r.2 then s.enqueued ++ digits.takeWhile (· != 0) else s.enqueued }, ())
  | .tick frame =>
    let r := dtmfGeneratorPutFrame s.generator frame
    ({ s with generator := r.1, detector := dtmfDetectorFeed s.detector r.2 }, ())
  | .digitGet =>
    let r := dtmfDetectorDigitGet s.detector
    ({ s with detector := r.1, got := if r.2 = 0 then s.got else s.got ++ [r.2] }, ())

def DtmfSession.asked (s : DtmfSession) : Bytes := s.enqueued.filter isDtmfDigit

/-- There is room in the detector for the digits that are enqueued and not got yet. -/
def HasRoom (s : DtmfSession) : DtmfInput → Prop
  | .enqueue digits => s.asked.length + (digits.filter isDtmfDigit).length ≤ s.got.length + dtmfdetBufferLen
  | _ => True

/-- Whatever is enqueued, ticked and got: some ticks later the detector has the digits that were enqueued, each once and
in order. -/
def DigitsArrive (generator : DtmfGenerator) : Prop :=
  ∀ inputs, EachStep dtmfStep HasRoom { generator := generator } inputs →
    ∃ n, ∀ frames : List Frame, n ≤ frames.length →
      let s := (run dtmfStep { generator := generator }
        (inputs ++ frames.map .tick ++ List.replicate dtmfdetBufferLen .digitGet)).1
      s.got = s.asked

structure DtmfSession.Follows (t : Timing) (s : DtmfSession) (a : Dialler UInt8) : Prop where
  refines : s.generator.Refines t a.phase a.pending
  asked : s.asked = a.pushed
  arrived : (s.got ++ s.detector.buf).Sublist a.signalled
  digits : (0 : UInt8) ∉ s.detector.buf

theorem signal_buf (signal : Option UInt8) :
    (dtmfDetectorSignal detector signal).buf = detector.buf ∨
      (dtmfDetectorSignal detector signal).buf = detector.buf ++ signal.toList ∧ 0 ∉ signal.toList := by
  cases signal with
  | none => exact Or.inl rfl
  | some digit =>
    simp only [dtmfDetectorSignal, elim_some, dtmfDetectorAddDigit]
    split_ifs with hz
    · exact Or.inl rfl
    · exact Or.inr ⟨rfl, by simpa using fun hc : (0 : UInt8) = digit => hz hc.symm⟩
    · exact Or.inl rfl

variable {s : DtmfSession} {a : Dialler UInt8}

theorem follows_tick (h : s.Follows t a) (frame : Frame) : (dtmfStep s (.tick frame)).1.Follows t (a.tick t) := by
  obtain ⟨hr, hf⟩ := putFrame_refines h.refines frame s.detector
  refine ⟨hr, h.asked, ?_, ?_⟩
  · show (s.got ++ (dtmfDetectorFeed s.detector _).buf).Sublist (a.signalled ++ _)
    rw [hf]
    rcases signal_buf s.detector (t.next a.phase a.pending).2.2 with heq | ⟨heq, -⟩
    · rw [heq]
      exact h.arrived.trans (sublist_append_left _ _)
    · rw [heq, ← append_assoc]
      exact h.arrived.append (List.Sublist.refl _)
  · show (0 : UInt8) ∉ (dtmfDetectorFeed s.detector _).buf
    rw [hf]
    rcases signal_buf s.detector (t.next a.phase a.pending).2.2 with heq | ⟨heq, hz⟩
    · rw [heq]
      exact h.digits
    · rw [heq, mem_append]
      exact not_or.2 ⟨h.digits, hz⟩

def enqueuedDigits (s : DtmfSession) (digits : Bytes) : Bytes :=
  if (dtmfGeneratorEnqueue s.generator digits).2 then (digits.takeWhile (· != 0)).filter isDtmfDigit else []

theorem follows_enqueue (h : s.Follows t a) (digits : Bytes) :
    (dtmfStep s (.enqueue digits)).1.Follows t (a.push (enqueuedDigits s digits)) := by
  obtain ⟨⟨ht, hh, hn⟩, ha, hr, hd⟩ := h
  unfold DtmfSession.asked at ha
  by_cases hl : s.generator.queue.length + (digits.takeWhile (· != 0)).length > dtmfgenQueueLen
  · have he : dtmfGeneratorEnqueue s.generator digits = (s.generator, false) := if_pos hl
    simp only [dtmfStep, enqueuedDigits, Dialler.push, he, Bool.false_eq_true, if_false, append_nil]
    exact ⟨⟨ht, hh, hn⟩, ha, hr, hd⟩
  · have he : dtmfGeneratorEnqueue s.generator digits =
        ({ s.generator with queue := s.generator.queue ++ digits.takeWhile (· != 0) }, true) := if_neg hl
    simp only [dtmfStep, enqueuedDigits, Dialler.push, he, if_true]
    refine ⟨⟨⟨ht.timing, ht.outband, ht.ptime⟩, ?_, ?_⟩, ?_, hr, hd⟩
    · cases hp : a.phase <;> (rw [hp] at hh; exact hh)
    · simp [hn]
    · simp [DtmfSession.asked, ha]

theorem follows_digitGet (h : s.Follows t a) :
    (dtmfStep s .digitGet).1.Follows t a ∧
      (dtmfStep s .digitGet).1.got ++ (dtmfStep s .digitGet).1.detector.buf = s.got ++ s.detector.buf ∧
      (dtmfStep s .digitGet).1.detector.buf = s.detector.buf.tail := by
  obtain ⟨hr, ha, har, hd⟩ := h
  unfold dtmfStep dtmfDetectorDigitGet
  cases hb : s.detector.buf with
  | nil =>
    simp only [if_true, tail_nil, hb]
    exact ⟨⟨hr, ha, har, hd⟩, trivial, trivial⟩
  | cons digit buf =>
    rw [hb] at hd har
    have hne : digit ≠ 0 := by
      rintro rfl
      exact hd mem_cons_self
    simp only [if_neg hne]
    refine ⟨⟨hr, ha, ?_, ?_⟩, ?_, rfl⟩
    · simpa using har
    · exact fun hc => hd (mem_cons_of_mem _ hc)
    · simp

theorem follows_digitGets (k : Nat) (h : s.Follows t a) :
    (run dtmfStep s (replicate k .digitGet)).1.Follows t a ∧
      (run dtmfStep s (replicate k .digitGet)).1.got ++
          (run dtmfStep s (replicate k .digitGet)).1.detector.buf = s.got ++ s.detector.buf ∧
      (run dtmfStep s (replicate k .digitGet)).1.detector.buf = s.detector.buf.drop k := by
  induction k generalizing s with
  | zero => exact ⟨h, rfl, rfl⟩
  | succ k ih =>
    obtain ⟨hf, hs, ht⟩ := follows_digitGet h
    obtain ⟨hf', hs', hd⟩ := ih hf
    rw [replicate_succ, run_cons]
    refine ⟨hf', hs'.trans hs, ?_⟩
    rw [hd, ht, drop_tail]

theorem follows_ticks (frames : List Frame) (h : s.Follows t a) :
    (run dtmfStep s (frames.map .tick)).1.Follows t ((Dialler.tick t)^[frames.length] a) := by
  induction frames generalizing s a with
  | nil => exact h
  | cons frame frames ih =>
    rw [map_cons, run_cons, length_cons, iterate_succ_apply]
    exact ih (follows_tick h frame)

/-! ## A sound timing -/

structure DtmfSession.Lossless (t : Timing) (s : DtmfSession) (a : Dialler UInt8) : Prop where
  follows : s.Follows t a
  orderly : a.Orderly t
  arrived : s.got ++ s.detector.buf = a.signalled
  room : a.pushed.length ≤ s.got.length + dtmfdetBufferLen

theorem DtmfSession.Follows.isDtmfDigit (h : s.Follows t a) (hm : digit ∈ a.pushed) : isDtmfDigit digit := by
  rw [← h.asked] at hm
  exact (mem_filter.1 hm).2

theorem lossless_tick (ht : t.Sound) (h : s.Lossless t a) (frame : Frame) :
    (dtmfStep s (.tick frame)).1.Lossless t (a.tick t) := by
  have ho := orderly_tick ht h.orderly
  refine ⟨follows_tick h.follows frame, ho, ?_, h.room⟩
  obtain ⟨-, hf⟩ := putFrame_refines h.follows.refines frame s.detector
  have hg : (a.tick t).signalled = a.signalled ++ (t.next a.phase a.pending).2.2.toList := rfl
  show s.got ++ (dtmfDetectorFeed s.detector _).buf = _
  rw [hf, hg]
  cases hs : (t.next a.phase a.pending).2.2 with
  | none => simpa [dtmfDetectorSignal] using h.arrived
  | some digit =>
    have hd := ho.digits
    rw [hg, hs, Dialler.tick_pushed] at hd
    have hm : digit ∈ a.pushed := by
      rw [← hd]
      simp
    have hne : digit ≠ 0 := ne_zero_of_isDtmfDigit (h.follows.isDtmfDigit hm)
    have hl := congrArg length hd
    have hr := h.room
    have ha := congrArg length h.arrived
    simp only [length_append, toList_some, length_singleton] at hl ha
    have hlt : s.detector.buf.length < dtmfdetBufferLen := by omega
    simp only [dtmfDetectorSignal, elim_some, dtmfDetectorAddDigit, if_neg hne, if_pos hlt, toList_some]
    rw [← h.arrived, append_assoc]

theorem lossless_step (ht : t.Sound) (h : ∃ a, s.Lossless t a) (input : DtmfInput) (hr : HasRoom s input) :
    ∃ a, (dtmfStep s input).1.Lossless t a := by
  obtain ⟨a, hl⟩ := h
  cases input with
  | enqueue digits =>
    refine ⟨_, follows_enqueue hl.follows digits, orderly_push hl.orderly _, hl.arrived, ?_⟩
    have hle : (enqueuedDigits s digits).length ≤ (digits.filter isDtmfDigit).length := by
      unfold enqueuedDigits
      split_ifs
      · exact ((takeWhile_sublist _).filter _).length_le
      · exact Nat.zero_le _
    have ha := congrArg length hl.follows.asked
    unfold HasRoom at hr
    show (a.pushed ++ _).length ≤ s.got.length + dtmfdetBufferLen
    rw [length_append]
    omega
  | tick frame => exact ⟨_, lossless_tick ht hl frame⟩
  | digitGet =>
    obtain ⟨hf, hs, htl⟩ := follows_digitGet hl.follows
    refine ⟨a, hf, hl.orderly, hs.trans hl.arrived, ?_⟩
    have hr := hl.room
    have hn := congrArg length hs
    have htl' := congrArg length htl
    simp only [length_append, length_tail] at hn htl'
    omega

theorem lossless_ticks (ht : t.Sound) (frames : List Frame) (h : s.Lossless t a) :
    (run dtmfStep s (frames.map .tick)).1.Lossless t ((Dialler.tick t)^[frames.length] a) := by
  induction frames generalizing s a with
  | nil => exact h
  | cons frame frames ih =>
    rw [map_cons, run_cons, length_cons, iterate_succ_apply]
    exact ih (lossless_tick ht h frame)

structure DtmfGenerator.New (generator : DtmfGenerator) : Prop where
  state : generator.state = .idle
  queue : generator.queue = []
  outband : generator.outband
  ptime : generator.eventsPtime = codecFrameTimeBase.toUInt32

theorem DtmfGenerator.New.follows (h : generator.New) :
    ({ generator := generator } : DtmfSession).Follows generator.timing {} := by
  refine ⟨⟨⟨rfl, h.outband, h.ptime⟩, h.state, ?_⟩, rfl, List.Sublist.refl _, by simp⟩
  rw [h.queue]
  rfl

/-- **With sound timing the digits arrive.** -/
theorem digitsArrive_of_sound (hw : generator.New) (ht : generator.timing.Sound) : DigitsArrive generator := by
  intro inputs hrm
  obtain ⟨a, hl⟩ := run_invariant (fun s => ∃ a, s.Lossless generator.timing a) HasRoom
    (fun s input h hr => lossless_step ht h input hr) _ inputs
    ⟨{}, hw.follows, orderly_new, rfl, Nat.zero_le _⟩ hrm
  obtain ⟨n, hd⟩ := exists_done ht.toneEnds ht.silenceEnds a
  refine ⟨n, fun frames hn => ?_⟩
  have hc := lossless_ticks ht frames hl
  have hs : (Dialler.tick generator.timing)^[frames.length] a = (Dialler.tick generator.timing)^[n] a := by
    obtain ⟨m, hm⟩ := Nat.exists_eq_add_of_le' hn
    rw [hm, iterate_add_apply, iterate_of_done hd]
  rw [hs] at hc
  rw [append_assoc, run_append, run_append]
  dsimp only
  generalize (run dtmfStep (run dtmfStep { generator := generator } inputs).1 (frames.map .tick)).1 = s
    at hc ⊢
  obtain ⟨hf, hg, hdr⟩ := follows_digitGets dtmfdetBufferLen hc.follows
  have ha := hc.orderly.digits
  rw [hd.2, append_nil] at ha
  have har := hc.arrived
  have he : s.detector.buf.drop dtmfdetBufferLen = [] := by
    apply drop_eq_nil_of_le
    have hrm' := hc.room
    have hln := congrArg length har
    rw [ha, length_append] at hln
    omega
  rw [hdr, he, append_nil] at hg
  rw [hg, har, ha]
  exact hf.asked.symm

/-! ## A timing that is not sound -/

theorem exists_of_digitsArrive (hw : generator.New) (h : DigitsArrive generator) (P : Dialler UInt8 → Prop)
    (keep : ∀ a, P a → P (a.tick generator.timing)) (digits : Bytes) (hd : digits.length ≤ dtmfgenQueueLen)
    (hv : ∀ digit ∈ digits, isDtmfDigit digit) (hst : P (({} : Dialler UInt8).push digits)) :
    ∃ a, P a ∧ digits.Sublist a.signalled := by
  have hfi : digits.filter isDtmfDigit = digits := filter_eq_self.2 hv
  have ht : digits.takeWhile (· != 0) = digits := by
    refine takeWhile_eq_self_iff.2 fun digit hm => ?_
    simpa using ne_zero_of_isDtmfDigit (hv digit hm)
  have hrm : EachStep dtmfStep HasRoom { generator := generator } [.enqueue digits] := by
    refine ⟨?_, trivial⟩
    show 0 + (digits.filter isDtmfDigit).length ≤ 0 + dtmfdetBufferLen
    rw [hfi]
    exact Nat.add_le_add_left hd 0
  obtain ⟨n, hn⟩ := h _ hrm
  have ha := hn (replicate n default) (by simp)
  have he : enqueuedDigits { generator := generator } digits = digits := by
    have hl : ¬generator.queue.length + (digits.takeWhile (· != 0)).length > dtmfgenQueueLen := by
      rw [ht, hw.queue, length_nil, Nat.zero_add]
      exact Nat.not_lt.2 hd
    have hc : (dtmfGeneratorEnqueue generator digits).2 := congrArg Prod.snd (if_neg hl)
    rw [enqueuedDigits, if_pos hc, ht, hfi]
  have hf := follows_ticks (replicate n default) (follows_enqueue hw.follows digits)
  rw [he] at hf
  have hP : ∀ k, P ((Dialler.tick generator.timing)^[k] (({} : Dialler UInt8).push digits)) ∧
      ((Dialler.tick generator.timing)^[k] (({} : Dialler UInt8).push digits)).pushed = digits := by
    intro k
    induction k with
    | zero => exact ⟨hst, rfl⟩
    | succ k ih =>
      rw [iterate_succ_apply']
      exact ⟨keep _ ih.1, ih.2⟩
  obtain ⟨hp, hs⟩ := hP (replicate n (default : Frame)).length
  generalize (Dialler.tick generator.timing)^[(replicate n (default : Frame)).length]
    (({} : Dialler UInt8).push digits) = a at hf hp hs
  refine ⟨a, hp, ?_⟩
  rw [append_assoc, singleton_append, run_cons, run_append] at ha
  generalize (run dtmfStep (dtmfStep { generator := generator } (.enqueue digits)).1
    ((replicate n default).map .tick)).1 = s at hf ha
  obtain ⟨hf', -, -⟩ := follows_digitGets dtmfdetBufferLen hf
  generalize (run dtmfStep s (replicate dtmfdetBufferLen .digitGet)).1 = s' at hf' ha
  have hk : s'.asked = digits := hf'.asked.trans hs
  have hr : s'.got.Sublist a.signalled :=
    (sublist_append_left s'.got s'.detector.buf).trans hf'.arrived
  rwa [ha, hk] at hr

theorem not_digitsArrive_of_short (hn : generator.New) (hh : generator.timing.tone ≤ generator.timing.frame) :
    ¬DigitsArrive generator := by
  intro h
  obtain ⟨a, ha, hs⟩ := exists_of_digitsArrive hn h Dialler.Silent (fun a => silent_tick hh) [0x31] (by decide)
    (all_eq_true.1 (by decide)) ⟨nofun, rfl⟩
  rw [ha.signalled] at hs
  have hl := hs.length_le
  simp at hl

theorem not_digitsArrive_of_endless (hn : generator.New)
    (he : ¬(Reaches generator.timing.wrap generator.timing.frame generator.timing.tone ∧
      Reaches generator.timing.wrap generator.timing.frame generator.timing.silence)) : ¬DigitsArrive generator := by
  intro h
  obtain ⟨a, ha, hs⟩ := exists_of_digitsArrive hn h (Dialler.Stuck generator.timing 0x31 0x32)
    (fun a => stuck_tick he) [0x31, 0x32] (by decide) (all_eq_true.1 (by decide))
    ⟨fun _ => rfl, nofun, nofun, nofun, by simp⟩
  have hm : (0x32 : UInt8) ∈ a.signalled := hs.subset (by simp)
  exact absurd (ha.signalled _ hm) (by decide)

theorem new_of_createEx {rxDescriptor : Option CodecDescriptor} {descriptor : CodecDescriptor} {inband : Bool}
    {toneMs silenceMs : UInt32}
    (h : dtmfGeneratorCreateEx ⟨rxDescriptor, some descriptor⟩ inband true toneMs silenceMs = some generator) :
    generator.New := by
  simp only [dtmfGeneratorCreateEx, isSome_some, Bool.and_true, Bool.or_true, if_true] at h
  obtain rfl := Option.some.inj h
  exact ⟨rfl, rfl, rfl, rfl⟩

/-- **The round trip.** The digits that are enqueued in a generator of named events come out of the detector, each once
and in order, if and only if its durations make a sound timing: a tone is longer than a frame, and the counter comes to
the end of a tone and of a silence. -/
theorem digitsArrive_iff (rxDescriptor : Option CodecDescriptor) (descriptor : CodecDescriptor) (inband : Bool)
    (toneMs silenceMs : UInt32) (generator : DtmfGenerator)
    (hcreate : dtmfGeneratorCreateEx ⟨rxDescriptor, some descriptor⟩ inband true toneMs silenceMs = some generator) :
    DigitsArrive generator ↔ generator.timing.Sound := by
  have hnew := new_of_createEx hcreate
  refine ⟨fun h => ?_, digitsArrive_of_sound hnew⟩
  have hlong : generator.timing.frame < generator.timing.tone := by
    by_contra hshort
    exact not_digitsArrive_of_short hnew (Nat.le_of_not_lt hshort) h
  by_contra hsound
  exact not_digitsArrive_of_endless hnew (fun hends => hsound ⟨hlong, hends.1, hends.2⟩) h

/-- The generator of `mpf_dtmf_generator_create`, for a clock of 8000 Hz. -/
def defaultDtmfGenerator : DtmfGenerator where
  state := .idle
  inband := false
  outband := true
  queue := []
  eventId := 0
  toneDuration := 560
  silenceDuration := 400
  counter := 0
  frameDuration := 80
  eventDuration := 0
  newSegment := false
  eventsPtime := 10
  sinceLastEvent := 0

/-- With the default durations the digits arrive. -/
theorem digitsArrive_default : DigitsArrive defaultDtmfGenerator :=
  (digitsArrive_iff none ⟨8000, 1⟩ false 70 50 defaultDtmfGenerator (by decide)).2
    ⟨by decide, reaches_of_le (by decide) (by decide), reaches_of_le (by decide) (by decide)⟩

/-- With a tone of 10 msec, one frame, no digit arrives. -/
theorem not_digitsArrive_frame :
    dtmfGeneratorCreateEx ⟨none, some ⟨8000, 1⟩⟩ false true 10 50 =
        some { defaultDtmfGenerator with toneDuration := 80 } ∧
      ¬DigitsArrive { defaultDtmfGenerator with toneDuration := 80 } :=
  ⟨by decide, not_digitsArrive_of_short ⟨rfl, rfl, rfl, rfl⟩ (by decide)⟩

end UniMrcp.Mpf
