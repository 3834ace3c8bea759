import UniMrcp.Mpf.Dtmf.RoundTrip
import UniMrcp.Mpf.Dtmf.Segments

/-!
# The stream of named events

The frames of a generator of named events, watched tick by tick.
-/

namespace UniMrcp.Mpf

open Lib List Timing

/-! ## What is seen -/

def sentEvent (r : Frame × Bool) : Option SentEvent :=
  if r.2 ∧ r.1.type.event then some ⟨r.1.marker, r.1.eventFrame⟩ else none

/-- The events of a digit, and the ticks without an event before them. -/
structure DigitLog where
  gap : ℕ
  events : List SentEvent
  deriving DecidableEq

def DigitLog.eventId (digit : DigitLog) : Option UInt8 := digit.events.head?.map (·.event.eventId)

/-- The digits enqueued and heard, the ticks without an event since the last one heard, and the events of the next one.
-/
structure EventLog where
  pushed : Bytes := []
  digits : List DigitLog := []
  gap : ℕ := 0
  current : List SentEvent := []

def EventLog.see (log : EventLog) : Option SentEvent → EventLog
  | some e => { log with current := log.current ++ [e] }
  | none =>
    if log.current = [] then { log with gap := log.gap + 1 }
    else { log with digits := log.digits ++ [⟨log.gap, log.current⟩], gap := 1, current := [] }

def EventLog.all (log : EventLog) : List DigitLog :=
  log.digits ++ if log.current = [] then [] else [⟨log.gap, log.current⟩]

structure EventSession where
  generator : DtmfGenerator
  log : EventLog := {}

/-- What may happen: digits are enqueued, or the media clock ticks, with the frame to put an event into. -/
inductive GeneratorInput
  | enqueue (digits : Bytes)
  | tick (frame : Frame)

def eventStep (s : EventSession) : GeneratorInput → EventSession × Unit
  | .enqueue digits =>
    let r := dtmfGeneratorEnqueue s.generator digits
    ({ generator := r.1
       log :=
        if r.2 then { s.log with pushed := s.log.pushed ++ (digits.takeWhile (· != 0)).filter isDtmfDigit }
        else s.log }, ())
  | .tick frame =>
    let r := dtmfGeneratorPutFrame s.generator frame
    ({ generator := r.1, log := s.log.see (sentEvent r.2) }, ())

def eventIds (digits : Bytes) : List (Option UInt8) := digits.map fun digit => some (dtmfCharToEventId digit)

/-- **What was heard is right**: the events of each digit; a silence between two digits; and the digits heard and left
are those enqueued. -/
structure EventsRight (s : EventSession) : Prop where
  digits : ∀ digit ∈ s.log.digits, DigitEvents s.generator.frameDuration.toNat digit.events
  current : s.log.current ≠ [] → ∃ rest, DigitEvents s.generator.frameDuration.toNat (s.log.current ++ rest)
  silence : ∀ digit ∈ s.log.all.tail,
    s.generator.silenceDuration.toNat ≤ (digit.gap + 2) * s.generator.frameDuration.toNat
  once : s.log.all.map DigitLog.eventId ++ eventIds (s.generator.queue.filter isDtmfDigit) = eventIds s.log.pushed

structure Finished (s : EventSession) : Prop where
  idle : s.generator.state = .idle
  queue : s.generator.queue.filter isDtmfDigit = []

/-- **The stream of a generator is right**, whenever digits are enqueued and the clock ticks, and some ticks later it
has finished. -/
def NamedEventsRight (generator : DtmfGenerator) : Prop :=
  ∀ inputs, EventsRight (run eventStep { generator := generator } inputs).1 ∧
    ∃ n, ∀ frames : List Frame, n ≤ frames.length →
      Finished (run eventStep { generator := generator } (inputs ++ frames.map .tick)).1

/-- No tone of the timing ends at the tick behind one at which a segment was full. -/
def Timing.CutRight (t : Timing) : Prop :=
  ∀ n, 0 < n → t.Below (n * segmentTicks t.frame) →
    (n * segmentTicks t.frame + 1) * t.frame % t.wrap < t.tone

/-! ## One event -/

/-- A generator in the middle of a tone: the duration in its segment, and whether a segment is full. -/
structure DtmfGenerator.InSegment (generator : DtmfGenerator) (k : ℕ) : Prop where
  duration : generator.eventDuration.toNat =
    k % segmentTicks generator.frameDuration.toNat * generator.frameDuration.toNat
  newSegment : generator.newSegment ↔ 0 < k ∧ k % segmentTicks generator.frameDuration.toNat = 0

def DtmfGenerator.endDuration (generator : DtmfGenerator) : UInt16 :=
  (if generator.newSegment then (0xFFFF : UInt32) else generator.eventDuration).toUInt16

section Put

variable {generator : DtmfGenerator} {k : ℕ} (hf : FrameLength generator.frameDuration.toNat)
  (hdur : generator.eventDuration.toNat =
    (k % segmentTicks generator.frameDuration.toNat + 1) * generator.frameDuration.toNat)
include hf hdur

theorem long_iff : generator.eventDuration > 0xFFFF ↔ (k + 1) % segmentTicks generator.frameDuration.toNat = 0 := by
  have hlt : k % segmentTicks generator.frameDuration.toNat < segmentTicks generator.frameDuration.toNat :=
    Nat.mod_lt _ (Nat.succ_pos _)
  rw [gt_iff_lt, UInt32.lt_iff_toNat_lt, hdur, succ_mod_segment]
  show maxEventDuration < _ ↔ _
  by_cases h : k % segmentTicks generator.frameDuration.toNat + 1 = segmentTicks generator.frameDuration.toNat
  · rw [if_pos h, h]
    exact iff_of_true (segment_full hf) rfl
  · rw [if_neg h]
    refine iff_of_false (fun hl => ?_) (Nat.succ_ne_zero _)
    have hp := segment_lt hf (show k % segmentTicks generator.frameDuration.toNat + 1 <
      segmentTicks generator.frameDuration.toNat by omega)
    omega

theorem duration_put :
    (if generator.eventDuration > 0xFFFF then (0xFFFF : UInt32) else generator.eventDuration).toUInt16 =
      segmentDuration generator.frameDuration.toNat (k + 1) := by
  apply UInt16.toNat_inj.1
  rw [segmentDuration_toNat hf]
  by_cases hl : generator.eventDuration > 0xFFFF
  · rw [if_pos hl, if_pos ((long_iff hf hdur).1 hl)]
    rfl
  · have hn := mt (long_iff hf hdur).2 hl
    have hne : k % segmentTicks generator.frameDuration.toNat + 1 ≠ segmentTicks generator.frameDuration.toNat := by
      intro heq
      rw [succ_mod_segment, if_pos heq] at hn
      exact hn rfl
    rw [if_neg hl, if_neg hn, UInt32.toNat_toUInt16, hdur, succ_mod_segment, if_neg hne]
    have hlt := segment_lt hf (show k % segmentTicks generator.frameDuration.toNat + 1 <
      segmentTicks generator.frameDuration.toNat by
        have := Nat.mod_lt k (show 0 < segmentTicks generator.frameDuration.toNat from Nat.succ_pos _)
        omega)
    exact Nat.mod_eq_of_lt (by unfold maxEventDuration at hlt; omega)

theorem duration_left :
    (if generator.eventDuration > 0xFFFF then (0 : UInt32) else generator.eventDuration).toNat =
      (k + 1) % segmentTicks generator.frameDuration.toNat * generator.frameDuration.toNat := by
  by_cases hl : generator.eventDuration > 0xFFFF
  · rw [if_pos hl, (long_iff hf hdur).1 hl, Nat.zero_mul]
    rfl
  · have hn := mt (long_iff hf hdur).2 hl
    rw [succ_mod_segment] at hn ⊢
    split_ifs at hn ⊢ with h
    · exact absurd rfl hn
    · exact hdur

variable (hsegment : generator.newSegment ↔ 0 < k ∧ k % segmentTicks generator.frameDuration.toNat = 0)
  (frame : Frame)
include hsegment

theorem tonePut_on (h : ¬generator.counter ≥ generator.toneDuration)
    (hr : generator.counter = generator.frameDuration ↔ k = 0) :
    (dtmfTonePut generator frame).1.InSegment (k + 1) ∧
      sentEvent ((dtmfTonePut generator frame).2, true) =
        some (toneEvent generator.frameDuration.toNat generator.eventId (k + 1)) := by
  have hn := long_iff hf hdur
  have hp := duration_put hf hdur
  have hlf := duration_left hf hdur
  have ho := succ_mod_segment_eq_one hf k
  unfold dtmfTonePut
  rw [if_neg h]
  refine ⟨⟨hlf, ?_⟩, ?_⟩
  · dsimp only
    by_cases hl : generator.eventDuration > 0xFFFF
    · rw [if_pos hl]
      exact iff_of_true rfl ⟨Nat.succ_pos k, hn.1 hl⟩
    · rw [if_neg hl]
      refine iff_of_false ?_ fun hc => hl (hn.2 hc.2)
      by_cases hk : k = 0
      · rw [if_pos (hr.2 hk), hsegment]
        omega
      · rw [if_neg (mt hr.1 hk)]
        exact Bool.false_ne_true
  · have hm : (if generator.counter = generator.frameDuration then FrameMarker.startOfEvent
        else if generator.newSegment = true then .newSegment else .none) =
        if k + 1 = 1 then .startOfEvent
        else if (k + 1) % segmentTicks generator.frameDuration.toNat = 1 then .newSegment else .none := by
      by_cases hk : k = 0
      · rw [if_pos (hr.2 hk), if_pos (show k + 1 = 1 by omega)]
      · rw [if_neg (mt hr.1 hk), if_neg (show ¬k + 1 = 1 by omega)]
        simp only [hsegment, ho, Nat.pos_of_ne_zero hk, true_and]
    simp only [sentEvent, dtmfEventFrame, true_and, if_true, toneEvent, hp, hm]

theorem tonePut_end (he : generator.counter ≥ generator.toneDuration) :
    sentEvent ((dtmfTonePut generator frame).2, true) =
        some (endEvent generator.frameDuration.toNat generator.eventId (k + 1)) ∧
      (EndsRight generator.frameDuration.toNat (k + 1) →
        (dtmfTonePut generator frame).1.endDuration = segmentDuration generator.frameDuration.toNat (k + 1)) := by
  have hp := duration_put hf hdur
  have ho := succ_mod_segment_eq_one hf k
  unfold dtmfTonePut
  rw [if_pos he]
  constructor
  · simp only [sentEvent, dtmfEventFrame, true_and, if_true, endEvent, hp]
  · intro hr
    rw [← hp]
    unfold DtmfGenerator.endDuration
    by_cases hl : generator.eventDuration > 0xFFFF
    · simp only [if_pos hl, if_true]
    · have hn : ¬generator.newSegment = true := by
        rw [hsegment]
        rintro ⟨hs, hfl⟩
        rcases hr with h1 | hne
        · omega
        · exact hne (ho.2 hfl)
      simp only [if_neg hl, if_neg hn]

end Put

/-! ## A tick of a tone -/

section Tone

variable {t : Timing} {generator : DtmfGenerator} {k : ℕ} (htimed : generator.Timed t) (hf : FrameLength t.frame)
  (hsince : generator.sinceLastEvent + codecFrameTimeBase.toUInt32 ≥ generator.eventsPtime)
include htimed hsince

theorem dtmfTone_eq (frame : Frame) :
    dtmfTone generator frame =
      dtmfTonePut { generator with
        counter := generator.counter + generator.frameDuration
        eventDuration := generator.eventDuration + generator.frameDuration
        sinceLastEvent := 0 } (dtmfAudioFrame { generator with
        counter := generator.counter + generator.frameDuration
        eventDuration := generator.eventDuration + generator.frameDuration } frame) := by
  unfold dtmfTone
  rw [if_pos htimed.outband, if_pos hsince]

variable (hcounter : generator.counter.toNat = k * generator.frameDuration.toNat % UInt32.size)
  (hsegment : generator.InSegment k)
include hf hcounter hsegment

omit htimed hsince hcounter in
theorem eventDuration_succ (ht : generator.timing = t) :
    (generator.eventDuration + generator.frameDuration).toNat =
      (k % segmentTicks generator.frameDuration.toNat + 1) * generator.frameDuration.toNat := by
  subst ht
  have hlt := segment_lt hf (Nat.mod_lt k (show 0 < segmentTicks generator.frameDuration.toNat from Nat.succ_pos _))
  have hle : generator.frameDuration.toNat ≤ 650 := hf.le
  have hp : k % segmentTicks generator.frameDuration.toNat * generator.frameDuration.toNat < maxEventDuration := hlt
  rw [UInt32.toNat_add, hsegment.duration, Nat.succ_mul]
  unfold maxEventDuration at hp
  exact Nat.mod_eq_of_lt (by omega)

theorem dtmfTone_on (hr : Reaches t.wrap t.frame t.tone) (hb : t.Below (k + 1)) (frame : Frame) :
    (dtmfTone generator frame).1.InSegment (k + 1) ∧
      sentEvent ((dtmfTone generator frame).2, true) = some (toneEvent t.frame generator.eventId (k + 1)) := by
  have hdur := eventDuration_succ hf hsegment htimed.timing
  have hs := counter_succ hcounter
  rw [dtmfTone_eq htimed hsince]
  obtain ⟨rfl, -, -⟩ := htimed
  refine @tonePut_on { generator with
      counter := generator.counter + generator.frameDuration
      eventDuration := generator.eventDuration + generator.frameDuration
      sinceLastEvent := 0 } k hf hdur hsegment.newSegment _ ?_ ?_
  · intro he
    have hlt := hb (k + 1) (Nat.succ_pos k) (Nat.le_refl _)
    have hle := UInt32.le_iff_toNat_le.1 he
    rw [hs] at hle
    exact absurd hlt (Nat.not_lt.2 hle)
  · dsimp only
    rw [← UInt32.toNat_inj, hs]
    constructor
    · intro heq
      by_contra hk
      have hne := mul_mod_ne_of_below hr (by omega) hb
      rw [Nat.mod_eq_of_lt generator.timing.frame_lt] at hne
      exact hne heq
    · rintro rfl
      rw [Nat.zero_add, Nat.one_mul]
      exact Nat.mod_eq_of_lt generator.timing.frame_lt

theorem dtmfTone_end (he : t.tone ≤ (k + 1) * t.frame % t.wrap) (frame : Frame) :
    sentEvent ((dtmfTone generator frame).2, true) = some (endEvent t.frame generator.eventId (k + 1)) ∧
      (EndsRight t.frame (k + 1) →
        (dtmfTone generator frame).1.endDuration = segmentDuration t.frame (k + 1)) := by
  have hdur := eventDuration_succ hf hsegment htimed.timing
  have hs := counter_succ hcounter
  rw [dtmfTone_eq htimed hsince]
  obtain ⟨rfl, -, -⟩ := htimed
  refine @tonePut_end { generator with
      counter := generator.counter + generator.frameDuration
      eventDuration := generator.eventDuration + generator.frameDuration
      sinceLastEvent := 0 } k hf hdur hsegment.newSegment _ ?_
  refine UInt32.le_iff_toNat_le.2 ?_
  rw [hs]
  exact he

end Tone

/-! ## What is heard -/

theorem DigitEvents.ne_nil {frame : ℕ} {events : List SentEvent} (h : DigitEvents frame events) : events ≠ [] := by
  rintro rfl
  obtain ⟨body, last, heq, -⟩ := h.ends
  simp at heq

variable (log : EventLog)

open EventLog

theorem see_none_all : (log.see none).all = log.all := by
  by_cases h : log.current = [] <;> simp [see, EventLog.all, h]

theorem see_some_eventIds (e : SentEvent) :
    (log.see (some e)).all.map DigitLog.eventId =
      log.all.map DigitLog.eventId ++ if log.current = [] then [some e.event.eventId] else [] := by
  cases h : log.current with
  | nil => simp [see, EventLog.all, h, DigitLog.eventId]
  | cons first events => simp [see, EventLog.all, h, DigitLog.eventId]

/-- The silence before the next digit was long enough, if there was a digit before it. -/
def EventLog.Spaced (t : Timing) (log : EventLog) : Prop := log.digits ≠ [] → t.silence ≤ (log.gap + 2) * t.frame

def EventLog.Sounding (t : Timing) (generator : DtmfGenerator) (log : EventLog) : Phase UInt8 → Prop
  | .idle => log.current = [] ∧ log.Spaced t
  | .tone _ k => 0 < k ∧ t.Below k ∧ generator.InSegment k ∧
      log.current = toneEvents t.frame generator.eventId k ∧ log.Spaced t
  | .ending again => ∃ k, EndsRight t.frame (k + 1) ∧ generator.endDuration = segmentDuration t.frame (k + 1) ∧
      log.current = toneEvents t.frame generator.eventId k ++
        List.replicate (again + 1) (endEvent t.frame generator.eventId (k + 1)) ∧ log.Spaced t
  | .silence ticks => ticks = 2 ∧ DigitEvents t.frame log.current ∧ log.Spaced t ∨
      log.current = [] ∧ log.digits ≠ [] ∧ log.gap + 2 = ticks

/-- **What was heard** of a generator in a phase of a dialler. -/
structure Heard (t : Timing) (s : EventSession) (phase : Phase UInt8) (pending : List UInt8) : Prop where
  refines : s.generator.Refines t phase pending
  sounding : s.log.Sounding t s.generator phase
  digits : ∀ digit ∈ s.log.digits, DigitEvents t.frame digit.events
  silence : ∀ digit ∈ s.log.digits.tail, t.silence ≤ (digit.gap + 2) * t.frame
  once : s.log.all.map DigitLog.eventId ++ eventIds pending = eventIds s.log.pushed

section Heard

variable {t : Timing} {s : EventSession} {phase phase' : Phase UInt8} {pending pending' : List UInt8}
  {generator : DtmfGenerator}

theorem Heard.event (h : Heard t s phase pending) (hr : generator.Refines t phase' pending') (e : SentEvent)
    (hs : (s.log.see (some e)).Sounding t generator phase')
    (ho : (if s.log.current = [] then [some e.event.eventId] else []) ++ eventIds pending' = eventIds pending) :
    Heard t ⟨generator, s.log.see (some e)⟩ phase' pending' := by
  refine ⟨hr, hs, h.digits, h.silence, ?_⟩
  rw [see_some_eventIds, append_assoc, ho]
  exact h.once

theorem Heard.pause (h : Heard t s phase pending) (hr : generator.Refines t phase' pending)
    (hs : (s.log.see none).Sounding t generator phase')
    (hg : s.log.current ≠ [] → DigitEvents t.frame s.log.current ∧ s.log.Spaced t) :
    Heard t ⟨generator, s.log.see none⟩ phase' pending := by
  refine ⟨hr, hs, ?_, ?_, ?_⟩
  · intro digit hm
    by_cases hc : s.log.current = []
    · simp only [see, if_pos hc] at hm
      exact h.digits digit hm
    · simp only [see, if_neg hc, mem_append, mem_singleton] at hm
      rcases hm with hm | rfl
      · exact h.digits digit hm
      · exact (hg hc).1
  · intro digit hm
    by_cases hc : s.log.current = []
    · simp only [see, if_pos hc] at hm
      exact h.silence digit hm
    · simp only [see, if_neg hc] at hm
      by_cases hd : s.log.digits = []
      · simp [hd] at hm
      · rw [tail_append_of_ne_nil hd, mem_append, mem_singleton] at hm
        rcases hm with hm | rfl
        · exact h.silence digit hm
        · exact (hg hc).2 hd
  · dsimp only
    rw [see_none_all]
    cases hc : s.log.current <;> simpa [see, hc] using h.once

theorem Heard.right (hf : FrameLength t.frame) (h : Heard t s phase pending) : EventsRight s := by
  have ht := h.refines.timed.timing
  have hp := h.refines.pending
  subst ht
  have hr : s.log.current ≠ [] →
      (∃ rest, DigitEvents s.generator.timing.frame (s.log.current ++ rest)) ∧ s.log.Spaced s.generator.timing := by
    intro hne
    have hn := h.sounding
    cases phase with
    | idle => exact absurd hn.1 hne
    | tone digit k =>
      obtain ⟨-, -, -, heq, hs⟩ := hn
      rw [heq]
      exact ⟨exists_digitEvents_tone hf _ _, hs⟩
    | ending again =>
      obtain ⟨k, hg, -, heq, hs⟩ := hn
      obtain ⟨-, -, hle, -⟩ := h.refines.phase
      rw [heq]
      exact ⟨exists_digitEvents_end hf _ hg (by omega), hs⟩
    | silence ticks =>
      rcases hn with ⟨-, hdg, hs⟩ | ⟨hl, -⟩
      · exact ⟨⟨[], by rwa [append_nil]⟩, hs⟩
      · exact absurd hl hne
  refine ⟨h.digits, fun hne => (hr hne).1, ?_, ?_⟩
  · intro digit hm
    unfold EventLog.all at hm
    by_cases hc : s.log.current = []
    · rw [if_pos hc, append_nil] at hm
      exact h.silence digit hm
    · rw [if_neg hc] at hm
      by_cases hd : s.log.digits = []
      · simp [hd] at hm
      · rw [tail_append_of_ne_nil hd, mem_append, mem_singleton] at hm
        rcases hm with hm | rfl
        · exact h.silence digit hm
        · exact (hr hc).2 hd
  · rw [hp]
    exact h.once

/-! ### A tone -/

structure Toned (t : Timing) (generator : DtmfGenerator) (log : EventLog) (digit : UInt8) (k : ℕ) : Prop where
  timed : generator.Timed t
  state : generator.state = .tone
  eventId : generator.eventId = dtmfCharToEventId digit
  counter : generator.counter.toNat = k * generator.frameDuration.toNat % UInt32.size
  segment : generator.InSegment k
  since : generator.sinceLastEvent + codecFrameTimeBase.toUInt32 ≥ generator.eventsPtime
  below : t.Below k
  current : log.current = toneEvents t.frame generator.eventId k
  spaced : log.Spaced t

theorem Heard.toned {digit : UInt8} {k : ℕ} (h : Heard t s (.tone digit k) pending) :
    Toned t (dtmfDigitStart s.generator) s.log digit k := by
  obtain ⟨hs, -, hid, hcounter, hsince⟩ := h.refines.phase
  obtain ⟨-, hb, hsegment, hc, hp⟩ := h.sounding
  rw [digitStart_of_ne_idle (by simp [hs])]
  refine ⟨h.refines.timed, hs, hid, hcounter, hsegment, ?_, hb, hc, hp⟩
  rw [hsince, h.refines.timed.ptime]
  decide

theorem Heard.toned_begin {digit : UInt8} (h : Heard t s .idle (digit :: pending)) :
    Toned t (dtmfDigitStart s.generator) s.log digit 0 := by
  obtain ⟨hb, -⟩ := digitStart_digit h.refines.timed h.refines.phase h.refines.pending
  obtain ⟨hc, hs⟩ := h.sounding
  refine ⟨hb.timed, hb.state, hb.eventId, ?_, ⟨?_, ?_⟩, hb.since, ?_, hc, hs⟩
  · rw [hb.counter, Nat.zero_mul]
    rfl
  · rw [hb.eventDuration, Nat.zero_mod, Nat.zero_mul]
    rfl
  · simp [hb.newSegment]
  · intro j hp hle
    omega

theorem dtmfTone_eventId (generator : DtmfGenerator) (frame : Frame) :
    (dtmfTone generator frame).1.eventId = generator.eventId := by
  unfold dtmfTone dtmfTonePut
  dsimp only
  split_ifs <;> rfl

variable {digit : UInt8} {k : ℕ} (hf : FrameLength t.frame)
include hf

theorem Toned.on (h : Heard t s phase pending) (ht : Toned t (dtmfDigitStart s.generator) s.log digit k)
    (hc : Reaches t.wrap t.frame t.tone) (he : ¬t.tone ≤ (k + 1) * t.frame % t.wrap) (frame : Frame)
    (hr : (eventStep s (.tick frame)).1.generator.Refines t (.tone digit (k + 1)) pending')
    (ho : (if s.log.current = [] then [some (dtmfCharToEventId digit)] else []) ++ eventIds pending' =
      eventIds pending) : Heard t (eventStep s (.tick frame)).1 (.tone digit (k + 1)) pending' := by
  have hb := ht.below.succ (Nat.lt_of_not_le he)
  obtain ⟨hsegment, hs⟩ := dtmfTone_on ht.timed hf ht.since ht.counter ht.segment hc hb frame
  have hid := dtmfTone_eventId (dtmfDigitStart s.generator) frame
  unfold eventStep at hr ⊢
  dsimp only at hr ⊢
  rw [putFrame_tone ht.state] at hr ⊢
  rw [hs]
  refine h.event hr _ ⟨Nat.succ_pos k, hb, hsegment, ?_, ht.spaced⟩ ?_
  · dsimp only
    rw [hid, toneEvents_succ, ← ht.current]
    rfl
  · rw [← ht.eventId] at ho
    exact ho

theorem Toned.last (ht : Toned t (dtmfDigitStart s.generator) s.log digit k)
    (he : t.tone ≤ (k + 1) * t.frame % t.wrap) (frame : Frame) :
    (eventStep s (.tick frame)).1.log.current = toneEvents t.frame (dtmfCharToEventId digit) k ++
      [endEvent t.frame (dtmfCharToEventId digit) (k + 1)] := by
  obtain ⟨hs, -⟩ := dtmfTone_end ht.timed hf ht.since ht.counter ht.segment he frame
  unfold eventStep
  dsimp only
  rw [putFrame_tone ht.state, hs, ← ht.eventId, ← ht.current]
  rfl

theorem Toned.ends (h : Heard t s phase pending) (ht : Toned t (dtmfDigitStart s.generator) s.log digit k)
    (he : t.tone ≤ (k + 1) * t.frame % t.wrap) (hg : EndsRight t.frame (k + 1)) (frame : Frame)
    (hr : (eventStep s (.tick frame)).1.generator.Refines t (.ending 0) pending')
    (ho : (if s.log.current = [] then [some (dtmfCharToEventId digit)] else []) ++ eventIds pending' =
      eventIds pending) : Heard t (eventStep s (.tick frame)).1 (.ending 0) pending' := by
  obtain ⟨hs, hdur⟩ := dtmfTone_end ht.timed hf ht.since ht.counter ht.segment he frame
  have hid := dtmfTone_eventId (dtmfDigitStart s.generator) frame
  unfold eventStep at hr ⊢
  dsimp only at hr ⊢
  rw [putFrame_tone ht.state] at hr ⊢
  rw [hs]
  refine h.event hr _ ⟨k, hg, hdur hg, ?_, ht.spaced⟩ ?_
  · dsimp only
    rw [hid, ← ht.current]
    rfl
  · rw [← ht.eventId] at ho
    exact ho

/-! ### The end of a tone, and a silence -/

omit hf in
theorem dtmfEnding_sent {again : ℕ} (htimed : generator.Timed t) (hp : generator.InPhase (.ending again))
    (frame : Frame) :
    sentEvent ((dtmfEnding generator frame).2, true) =
        some ⟨.endOfEvent, ⟨generator.eventId, dtmfEventVolume, true, generator.endDuration⟩⟩ ∧
      (dtmfEnding generator frame).1.endDuration = generator.endDuration ∧
      (dtmfEnding generator frame).1.eventId = generator.eventId := by
  obtain ⟨-, -, -, hsince⟩ := hp
  have hs : generator.sinceLastEvent + codecFrameTimeBase.toUInt32 ≥ generator.eventsPtime := by
    rw [hsince, htimed.ptime]
    decide
  unfold dtmfEnding dtmfAudioFrame dtmfEventFrame sentEvent DtmfGenerator.endDuration
  dsimp only
  rw [if_pos hs]
  split_ifs <;> simp_all

/-- **A tick at the end of a tone.** -/
theorem heard_ending {again : ℕ} (h : Heard t s (.ending again) pending) (frame : Frame)
    (hr : (eventStep s (.tick frame)).1.generator.Refines t
      (if 2 ≤ again + 1 then .silence 2 else .ending (again + 1)) pending) :
    Heard t (eventStep s (.tick frame)).1 (if 2 ≤ again + 1 then .silence 2 else .ending (again + 1)) pending := by
  obtain ⟨hn, hdur, hid⟩ := dtmfEnding_sent h.refines.timed h.refines.phase frame
  obtain ⟨k, hg, hl, hc, hs⟩ := h.sounding
  obtain ⟨hst, -, hle, -⟩ := h.refines.phase
  have he : (⟨.endOfEvent, ⟨s.generator.eventId, dtmfEventVolume, true, s.generator.endDuration⟩⟩ : SentEvent) =
      endEvent t.frame s.generator.eventId (k + 1) := by
    rw [hl]
    rfl
  have hne : s.log.current ≠ [] := by simp [hc, replicate_succ]
  unfold eventStep at hr ⊢
  dsimp only at hr ⊢
  rw [putFrame_ending hst] at hr ⊢
  rw [hn, he]
  have hm : (s.log.see (some (endEvent t.frame s.generator.eventId (k + 1)))).current =
      toneEvents t.frame s.generator.eventId k ++
        List.replicate (again + 1 + 1) (endEvent t.frame s.generator.eventId (k + 1)) := by
    rw [replicate_succ', ← append_assoc, ← hc]
    rfl
  refine h.event hr _ ?_ (by rw [if_neg hne, nil_append])
  by_cases ht : 2 ≤ again + 1
  · rw [if_pos ht]
    left
    obtain rfl : again = 1 := by omega
    rw [hm]
    exact ⟨rfl, digitEvents_tone hf _ hg, hs⟩
  · rw [if_neg ht]
    refine ⟨k, hg, hdur.trans hl, ?_, hs⟩
    rw [hm, ← hid]

omit hf

/-- **A tick of a silence.** -/
theorem heard_silence {ticks : ℕ} (h : Heard t s (.silence ticks) pending) (frame : Frame)
    (hr : (eventStep s (.tick frame)).1.generator.Refines t
      (if t.silence ≤ (ticks + 1) * t.frame % t.wrap then .idle else .silence (ticks + 1)) pending) :
    Heard t (eventStep s (.tick frame)).1
      (if t.silence ≤ (ticks + 1) * t.frame % t.wrap then .idle else .silence (ticks + 1)) pending := by
  have hs := h.sounding
  have hse : sentEvent (frame, false) = none := if_neg fun hc => Bool.false_ne_true hc.1
  unfold eventStep at hr ⊢
  dsimp only at hr ⊢
  rw [putFrame_silence h.refines.phase.1] at hr ⊢
  rw [hse]
  have hx : (s.log.see none).current = [] ∧ (s.log.see none).digits ≠ [] ∧
      (s.log.see none).gap + 2 = ticks + 1 := by
    rcases hs with ⟨rfl, hd, -⟩ | ⟨hn, hg, hgp⟩
    · simp [see, hd.ne_nil]
    · simp only [see, if_pos hn]
      exact ⟨hn, hg, by omega⟩
  refine h.pause hr ?_ ?_
  · by_cases he : t.silence ≤ (ticks + 1) * t.frame % t.wrap
    · rw [if_pos he]
      refine ⟨hx.1, fun _ => ?_⟩
      rw [hx.2.2]
      exact he.trans (Nat.mod_le _ _)
    · rw [if_neg he]
      exact Or.inr hx
  · intro hne
    rcases hs with ⟨-, hd, hp⟩ | ⟨hn, -⟩
    · exact ⟨hd, hp⟩
    · exact absurd hn hne

theorem heard_idle (h : Heard t s .idle []) (frame : Frame)
    (hr : (eventStep s (.tick frame)).1.generator.Refines t .idle []) :
    Heard t (eventStep s (.tick frame)).1 .idle [] := by
  obtain ⟨hn, hs⟩ := h.sounding
  have ht := digitStart_none h.refines.timed h.refines.phase h.refines.pending
  have hsn : sentEvent (frame, false) = none := if_neg fun hc => Bool.false_ne_true hc.1
  unfold eventStep at hr ⊢
  dsimp only at hr ⊢
  rw [putFrame_idle ht.phase] at hr ⊢
  rw [hsn]
  refine h.pause hr ⟨?_, ?_⟩ fun hne => absurd hn hne
  · simp [see, hn]
  · simp only [EventLog.Spaced, see, if_pos hn]
    intro hd
    exact (hs hd).trans (Nat.mul_le_mul_right _ (by omega))

end Heard

/-! ## Runs -/

theorem Timing.CutRight.endsRight {t : Timing} (hc : t.CutRight) {k : ℕ} (hb : t.Below k)
    (he : t.tone ≤ (k + 1) * t.frame % t.wrap) (hf : FrameLength t.frame) : EndsRight t.frame (k + 1) := by
  by_contra ht
  obtain ⟨hne, ho⟩ := not_or.1 ht
  have hl := (succ_mod_segment_eq_one hf k).1 (not_not.1 ho)
  obtain ⟨n, hn⟩ := Nat.dvd_of_mod_eq_zero hl
  obtain rfl : k = n * segmentTicks t.frame := hn.trans (Nat.mul_comm _ _)
  have hp : 0 < n := Nat.pos_of_ne_zero fun hz => hne (by rw [hz, Nat.zero_mul])
  exact absurd (hc n hp hb) (Nat.not_lt.2 he)

section Run

variable {t : Timing} {s : EventSession} {phase : Phase UInt8} {pending : List UInt8}

theorem tick_refines (h : s.generator.Refines t phase pending) (frame : Frame) :
    (eventStep s (.tick frame)).1.generator.Refines t (t.next phase pending).1 (t.next phase pending).2.1 :=
  (putFrame_refines h frame {}).1

theorem ticks_refine (frames : List Frame) {a : Dialler UInt8} (h : s.generator.Refines t a.phase a.pending) :
    (run eventStep s (frames.map .tick)).1.generator.Refines t ((Dialler.tick t)^[frames.length] a).phase
      ((Dialler.tick t)^[frames.length] a).pending := by
  induction frames generalizing s a with
  | nil => exact h
  | cons frame frames ih =>
    rw [map_cons, run_cons, length_cons, Function.iterate_succ_apply]
    exact ih (tick_refines h frame)

/-- **A tick** of a generator whose tones end right. -/
theorem heard_tick (hf : FrameLength t.frame) (hc : Reaches t.wrap t.frame t.tone) (ht : t.CutRight)
    (h : Heard t s phase pending) (frame : Frame) :
    Heard t (eventStep s (.tick frame)).1 (t.next phase pending).1 (t.next phase pending).2.1 := by
  have hr := tick_refines h.refines frame
  cases phase with
  | idle =>
    cases pending with
    | nil => exact heard_idle h frame hr
    | cons digit pending =>
      have hn : s.log.current = [] := h.sounding.1
      have ho : (if s.log.current = [] then [some (dtmfCharToEventId digit)] else []) ++ eventIds pending =
          eventIds (digit :: pending) := by
        rw [if_pos hn]
        rfl
      simp only [Timing.next] at hr ⊢
      by_cases he : t.tone ≤ (0 + 1) * t.frame % t.wrap
      · rw [toneTick_end he] at hr ⊢
        exact h.toned_begin.ends hf h he (Or.inl rfl) frame hr ho
      · rw [toneTick_on he] at hr ⊢
        exact h.toned_begin.on hf h hc he frame hr ho
  | tone digit k =>
    obtain ⟨hp, hb, -, hcr, -⟩ := h.sounding
    have hne : s.log.current ≠ [] := by
      rw [hcr]
      simpa [toneEvents] using hp.ne'
    have ho : (if s.log.current = [] then [some (dtmfCharToEventId digit)] else []) ++ eventIds pending =
        eventIds pending := by rw [if_neg hne, nil_append]
    simp only [Timing.next] at hr ⊢
    by_cases he : t.tone ≤ (k + 1) * t.frame % t.wrap
    · rw [toneTick_end he] at hr ⊢
      exact h.toned.ends hf h he (ht.endsRight hb he hf) frame hr ho
    · rw [toneTick_on he] at hr ⊢
      exact h.toned.on hf h hc he frame hr ho
  | ending again => exact heard_ending hf h frame hr
  | silence ticks => exact heard_silence h frame hr

/-- **Digits are enqueued.** -/
theorem heard_enqueue (h : Heard t s phase pending) (digits : Bytes) :
    ∃ pending', Heard t (eventStep s (.enqueue digits)).1 phase pending' := by
  obtain ⟨⟨htimed, hp, hn⟩, hs, hd, hsl, ho⟩ := h
  by_cases hl : s.generator.queue.length + (digits.takeWhile (· != 0)).length > dtmfgenQueueLen
  · have he : dtmfGeneratorEnqueue s.generator digits = (s.generator, false) := if_pos hl
    refine ⟨pending, ?_⟩
    simp only [eventStep, he, Bool.false_eq_true, if_false]
    exact ⟨⟨htimed, hp, hn⟩, hs, hd, hsl, ho⟩
  · have he : dtmfGeneratorEnqueue s.generator digits =
        ({ s.generator with queue := s.generator.queue ++ digits.takeWhile (· != 0) }, true) := if_neg hl
    refine ⟨pending ++ (digits.takeWhile (· != 0)).filter isDtmfDigit, ?_⟩
    simp only [eventStep, he, if_true]
    refine ⟨⟨⟨htimed.timing, htimed.outband, htimed.ptime⟩, ?_, ?_⟩, ?_, hd, hsl, ?_⟩
    · cases phase <;> exact hp
    · simp [hn]
    · cases phase with
      | tone digit k =>
        obtain ⟨hps, hb, hsegment, hr⟩ := hs
        exact ⟨hps, hb, ⟨hsegment.duration, hsegment.newSegment⟩, hr⟩
      | idle => exact hs
      | ending again => exact hs
      | silence ticks => exact hs
    · simp only [eventIds, map_append] at ho ⊢
      rw [← append_assoc]
      exact congrArg (· ++ _) ho

theorem heard_step (hf : FrameLength t.frame) (hr : Reaches t.wrap t.frame t.tone) (hc : t.CutRight)
    (h : ∃ phase pending, Heard t s phase pending) (input : GeneratorInput) :
    ∃ phase pending, Heard t (eventStep s input).1 phase pending := by
  obtain ⟨phase, pending, h⟩ := h
  cases input with
  | enqueue digits => exact ⟨phase, heard_enqueue h digits⟩
  | tick frame => exact ⟨_, _, heard_tick hf hr hc h frame⟩

theorem finished_iff (h : s.generator.Refines t phase pending) : Finished s ↔ phase = .idle ∧ pending = [] := by
  obtain ⟨-, hp, rfl⟩ := h
  have hi : s.generator.state = .idle ↔ phase = .idle := by
    cases phase with
    | idle => exact iff_of_true hp rfl
    | tone digit k => simp [hp.1]
    | ending again => simp [hp.1]
    | silence ticks => simp [hp.1]
  exact ⟨fun hs => ⟨hi.1 hs.idle, hs.queue⟩, fun hs => ⟨hi.2 hs.1, hs.2⟩⟩

end Run

/-! ## The stream of a generator -/

theorem DtmfGenerator.New.heard {generator : DtmfGenerator} (h : generator.New) :
    Heard generator.timing { generator := generator } .idle [] := by
  refine ⟨⟨⟨rfl, h.outband, h.ptime⟩, h.state, ?_⟩, ⟨rfl, fun hne => absurd rfl hne⟩, nofun, nofun, rfl⟩
  rw [h.queue]
  rfl

theorem namedEventsRight {generator : DtmfGenerator} (hw : generator.New) (hf : FrameLength generator.timing.frame)
    (ht : Reaches generator.timing.wrap generator.timing.frame generator.timing.tone)
    (hs : Reaches generator.timing.wrap generator.timing.frame generator.timing.silence)
    (hct : generator.timing.CutRight) : NamedEventsRight generator := by
  intro inputs
  obtain ⟨phase, pending, h⟩ := run_invariant
    (fun s => ∃ phase pending, Heard generator.timing s phase pending) (fun _ _ => True)
    (fun s input h _ => heard_step hf ht hct h input) _ inputs ⟨_, _, hw.heard⟩ (eachStep_true _ _)
  refine ⟨h.right hf, ?_⟩
  obtain ⟨n, hd⟩ := exists_done ht hs ⟨phase, pending, [], []⟩
  refine ⟨n, fun frames hn => ?_⟩
  have hc := @ticks_refine _ _ frames ⟨phase, pending, [], []⟩ h.refines
  have hsm : (Dialler.tick generator.timing)^[frames.length] ⟨phase, pending, [], []⟩ =
      (Dialler.tick generator.timing)^[n] ⟨phase, pending, [], []⟩ := by
    obtain ⟨m, hm⟩ := Nat.exists_eq_add_of_le' hn
    rw [hm, Function.iterate_add_apply, iterate_of_done hd]
  rw [hsm] at hc
  rw [run_append]
  exact (finished_iff hc).2 hd

theorem enqueue_new {generator : DtmfGenerator} (hn : generator.New) (digits : Bytes)
    (hl : digits.length ≤ dtmfgenQueueLen) (hv : ∀ digit ∈ digits, isDtmfDigit digit) :
    Heard generator.timing (eventStep { generator := generator } (.enqueue digits)).1 .idle digits := by
  have ht : digits.takeWhile (· != 0) = digits := by
    refine takeWhile_eq_self_iff.2 fun digit hm => ?_
    simpa using ne_zero_of_isDtmfDigit (hv digit hm)
  obtain ⟨pending, h⟩ := heard_enqueue hn.heard digits
  have hq : (eventStep { generator := generator } (.enqueue digits)).1.generator.queue = digits := by
    simp only [eventStep, dtmfGeneratorEnqueue, ht, hn.queue, length_nil, Nat.zero_add,
      if_neg (Nat.not_lt.2 hl), nil_append]
  have hp := h.refines.pending
  rw [hq, filter_eq_self.2 hv] at hp
  exact hp ▸ h

theorem not_namedEventsRight_of_endless {generator : DtmfGenerator} (hw : generator.New)
    (he : ¬(Reaches generator.timing.wrap generator.timing.frame generator.timing.tone ∧
      Reaches generator.timing.wrap generator.timing.frame generator.timing.silence)) :
    ¬NamedEventsRight generator := by
  intro h
  obtain ⟨-, n, hn⟩ := h [.enqueue [0x31, 0x32]]
  have hfi := hn (List.replicate n default) (by simp)
  have ht : ∀ k, Dialler.Stuck generator.timing (0x31 : UInt8) 0x32
      ((Dialler.tick generator.timing)^[k] ⟨.idle, [0x31, 0x32], [], []⟩) := by
    intro k
    induction k with
    | zero => exact ⟨fun _ => rfl, nofun, nofun, nofun, by simp⟩
    | succ k ih =>
      rw [Function.iterate_succ_apply']
      exact stuck_tick he ih
  have hs := enqueue_new hw [0x31, 0x32] (by decide) (all_eq_true.1 (by decide))
  have hc := @ticks_refine _ _ (List.replicate n default) ⟨.idle, [0x31, 0x32], [], []⟩ hs.refines
  rw [singleton_append, run_cons] at hfi
  obtain ⟨hi, hp⟩ := (finished_iff hc).1 hfi
  rw [(ht _).start hi] at hp
  exact absurd hp (cons_ne_nil _ _)

theorem heard_ticks_tone {t : Timing} {s : EventSession} {digit : UInt8} (hf : FrameLength t.frame)
    (hc : Reaches t.wrap t.frame t.tone) (h : Heard t s .idle [digit]) {k : ℕ} (hb : t.Below (k + 1)) :
    Heard t (run eventStep s (List.replicate (k + 1) (.tick default))).1 (.tone digit (k + 1)) [] := by
  induction k with
  | zero =>
    have he := Nat.not_le.2 (hb 1 (by omega) (by omega))
    have hr := tick_refines h.refines default
    simp only [Timing.next] at hr
    rw [toneTick_on he] at hr
    refine h.toned_begin.on hf h hc he default hr ?_
    rw [if_pos h.sounding.1]
    rfl
  | succ k ih =>
    have hb' : t.Below (k + 1) := fun j hp hle => hb j hp (by omega)
    have ht := ih hb'
    have he := Nat.not_le.2 (hb (k + 1 + 1) (by omega) (by omega))
    rw [replicate_succ', run_append]
    generalize (run eventStep s (List.replicate (k + 1) (.tick default))).1 = s' at ht ⊢
    have hr := tick_refines ht.refines default
    simp only [Timing.next] at hr
    rw [toneTick_on he] at hr
    have hne : s'.log.current ≠ [] := by
      rw [ht.sounding.2.2.2.1]
      simp [toneEvents]
    refine ht.toned.on hf ht hc he default hr ?_
    rw [if_neg hne, nil_append]

theorem not_namedEventsRight_of_cut {generator : DtmfGenerator} (hn : generator.New)
    (hf : FrameLength generator.timing.frame)
    (hrc : Reaches generator.timing.wrap generator.timing.frame generator.timing.tone)
    (hc : ¬generator.timing.CutRight) : ¬NamedEventsRight generator := by
  intro h
  unfold Timing.CutRight at hc
  push Not at hc
  obtain ⟨n, hp, hb, he⟩ := hc
  obtain ⟨k, hk⟩ : ∃ k, n * segmentTicks generator.timing.frame = k + 1 :=
    Nat.exists_eq_succ_of_ne_zero (Nat.mul_pos hp (Nat.succ_pos _)).ne'
  have hfl : (k + 1) % segmentTicks generator.timing.frame = 0 := by rw [← hk, Nat.mul_mod_left]
  rw [hk] at hb he
  have ht := heard_ticks_tone hf hrc
    (enqueue_new hn [0x31] (by decide) (all_eq_true.1 (by decide))) hb
  have hl := ht.toned.last hf he default
  have hr := (h (.enqueue [0x31] :: (List.replicate (k + 1) (.tick default) ++ [.tick default]))).1
  rw [run_cons, run_append] at hr
  generalize (run eventStep (eventStep { generator := generator } (.enqueue [0x31])).1
    (List.replicate (k + 1) (.tick default))).1 = s at ht hl hr
  obtain ⟨rest, hd⟩ := hr.current (by
    show (eventStep s (.tick default)).1.log.current ≠ []
    simp [hl])
  have hm := (tick_refines ht.refines default).timed.timing
  have hs : (eventStep s (.tick default)).1.generator.frameDuration.toNat = generator.timing.frame :=
    congrArg Timing.frame hm
  change DigitEvents (eventStep s (.tick default)).1.generator.frameDuration.toNat
    ((eventStep s (.tick default)).1.log.current ++ rest) at hd
  rw [hs, hl, append_assoc, singleton_append] at hd
  exact not_digitEvents_cut hf _ (Nat.succ_pos k) hfl rest hd

theorem frameLength_of_createEx {rxDescriptor : Option CodecDescriptor} {descriptor : CodecDescriptor} {inband : Bool}
    {toneMs silenceMs : UInt32} {generator : DtmfGenerator}
    (h : dtmfGeneratorCreateEx ⟨rxDescriptor, some descriptor⟩ inband true toneMs silenceMs = some generator)
    (hp : 0 < generator.frameDuration) : FrameLength generator.timing.frame := by
  have hr : generator.timing.frame = descriptor.samplingRate.toNat / 1000 * 10 := by
    simp only [dtmfGeneratorCreateEx, Option.isSome_some, Bool.and_true, Bool.or_true, if_true] at h
    obtain rfl := Option.some.inj h
    have hlt := descriptor.samplingRate.toNat_lt
    show (descriptor.samplingRate.toUInt32 / 1000 * codecFrameTimeBase.toUInt32).toNat = _
    rw [UInt32.toNat_mul, UInt32.toNat_div, UInt16.toNat_toUInt32]
    exact Nat.mod_eq_of_lt (show descriptor.samplingRate.toNat / 1000 * 10 < 2 ^ 32 by omega)
  have hlt := descriptor.samplingRate.toNat_lt
  refine ⟨UInt32.lt_iff_toNat_lt.1 hp, ?_, ?_⟩
  · rw [hr]
    omega
  · rw [hr]
    exact Nat.dvd_mul_left 10 _

/-- **The stream of named events.** A generator of named events sends each digit once, as its events, with a silence
before the next one, and finishes, if and only if the counter comes to the end of a tone and of a silence and no tone
ends at the tick behind a full segment. -/
theorem namedEventsRight_iff (rxDescriptor : Option CodecDescriptor) (descriptor : CodecDescriptor) (inband : Bool)
    (toneMs silenceMs : UInt32) (generator : DtmfGenerator)
    (hcreate : dtmfGeneratorCreateEx ⟨rxDescriptor, some descriptor⟩ inband true toneMs silenceMs = some generator)
    (hframe : 0 < generator.frameDuration) :
    NamedEventsRight generator ↔
      Reaches generator.timing.wrap generator.timing.frame generator.timing.tone ∧
        Reaches generator.timing.wrap generator.timing.frame generator.timing.silence ∧
        generator.timing.CutRight := by
  have hnew := new_of_createEx hcreate
  have hf := frameLength_of_createEx hcreate hframe
  refine ⟨fun h => ?_, fun ⟨htone, hsilence, hcut⟩ => namedEventsRight hnew hf htone hsilence hcut⟩
  have hends : Reaches generator.timing.wrap generator.timing.frame generator.timing.tone ∧
      Reaches generator.timing.wrap generator.timing.frame generator.timing.silence := by
    by_contra hends
    exact not_namedEventsRight_of_endless hnew hends h
  refine ⟨hends.1, hends.2, ?_⟩
  by_contra hcut
  exact not_namedEventsRight_of_cut hnew hf hends.1 hcut h

/-- With the default durations the stream is right. -/
theorem namedEventsRight_default : NamedEventsRight defaultDtmfGenerator := by
  refine (namedEventsRight_iff none ⟨8000, 1⟩ false 70 50 defaultDtmfGenerator (by decide) (by decide)).2
    ⟨reaches_of_le (by decide) (by decide), reaches_of_le (by decide) (by decide), ?_⟩
  intro n hpos hbelow
  have hle : 8 ≤ n * segmentTicks defaultDtmfGenerator.timing.frame :=
    le_trans (by decide) (Nat.le_mul_of_pos_left (segmentTicks defaultDtmfGenerator.timing.frame) hpos)
  exact absurd (hbelow 8 (by decide) hle) (by decide)

/-- A tone of 8201 msec ends behind a full segment of 820 frames. -/
theorem not_namedEventsRight_segment :
    dtmfGeneratorCreateEx ⟨none, some ⟨8000, 1⟩⟩ false true 8201 50 =
        some { defaultDtmfGenerator with toneDuration := 65608 } ∧
      ¬NamedEventsRight { defaultDtmfGenerator with toneDuration := 65608 } := by
  refine ⟨by decide, not_namedEventsRight_of_cut ⟨rfl, rfl, rfl, rfl⟩ ⟨by decide, by decide, by decide⟩
    (reaches_of_le (by decide) (by decide)) ?_⟩
  intro hcut
  refine absurd (hcut 1 (by decide) ?_) (by decide)
  intro j hpos hle
  have hsegment : 1 * segmentTicks (DtmfGenerator.timing { defaultDtmfGenerator with toneDuration := 65608 }).frame =
      820 := by decide
  rw [hsegment] at hle
  show j * 80 % 4294967296 < 65608
  exact Nat.lt_of_le_of_lt (Nat.mod_le _ _) (by omega)

end UniMrcp.Mpf
