import Mathlib.Data.List.Chain
import UniMrcp.Mpf.Dtmf

/-!
# The named events of a digit

A digit is sent as events whose durations grow up to a bound, from where they begin again in a new segment.
-/

namespace UniMrcp.Mpf

open List

structure SentEvent where
  marker : FrameMarker
  event : NamedEventFrame
  deriving DecidableEq

def maxEventDuration : ℕ := 0xFFFF

/-- **An event after another one**, at ticks of `frame` units: its duration grows, or a new segment begins, and is
marked. -/
def Follows (frame : ℕ) (a b : SentEvent) : Prop :=
  if a.event.duration.toNat = maxEventDuration then b.marker = .newSegment ∧ b.event.duration.toNat = frame
  else b.marker ≠ .newSegment ∧ a.event.duration < b.event.duration

def SentEvent.Ends (e : SentEvent) : Prop := e.marker = .endOfEvent ∧ e.event.edge

/-- **The events of a digit**: each follows the one before, and the last one, which ends the digit, is sent three times.
-/
structure DigitEvents (frame : ℕ) (events : List SentEvent) : Prop where
  ends : ∃ body last, events = body ++ List.replicate 3 last ∧ last.Ends ∧
    (∀ e ∈ body, e.marker ≠ .endOfEvent ∧ e.event.edge = false) ∧ (body ++ [last]).IsChain (Follows frame)
  same : ∃ id, ∀ e ∈ events, e.event.eventId = id

/-- The ticks of a segment, at `frame` units a tick. -/
def segmentTicks (frame : ℕ) : ℕ := maxEventDuration / frame + 1

structure FrameLength (frame : ℕ) : Prop where
  pos : 0 < frame
  le : frame ≤ 650
  ten : 10 ∣ frame

theorem succ_mod_segment (frame k : ℕ) :
    (k + 1) % segmentTicks frame =
      if k % segmentTicks frame + 1 = segmentTicks frame then 0 else k % segmentTicks frame + 1 := by
  have hlt : k % segmentTicks frame < segmentTicks frame := Nat.mod_lt _ (Nat.succ_pos _)
  rw [← Nat.mod_add_mod]
  split_ifs with h
  · rw [h, Nat.mod_self]
  · exact Nat.mod_eq_of_lt (by omega)

section Segment

variable {frame : ℕ} (hf : FrameLength frame)
include hf

theorem segmentTicks_gt : 2 < segmentTicks frame := by
  have hd : 100 ≤ maxEventDuration / frame := (Nat.le_div_iff_mul_le hf.pos).2 (by
    have := hf.le
    unfold maxEventDuration
    omega)
  unfold segmentTicks
  omega

theorem segment_lt {j : ℕ} (h : j < segmentTicks frame) : j * frame < maxEventDuration := by
  obtain ⟨c, rfl⟩ := hf.ten
  have hle : j * (10 * c) ≤ maxEventDuration := by
    have hj : j ≤ maxEventDuration / (10 * c) := Nat.lt_succ_iff.1 h
    exact (Nat.le_div_iff_mul_le hf.pos).1 hj
  have ht : j * (10 * c) = 10 * (j * c) := Nat.mul_left_comm j 10 c
  rw [ht] at hle ⊢
  unfold maxEventDuration at hle ⊢
  omega

theorem segment_full : maxEventDuration < segmentTicks frame * frame :=
  Nat.lt_mul_of_div_lt (Nat.lt_succ_self _) hf.pos

theorem succ_mod_segment_eq_one (k : ℕ) : (k + 1) % segmentTicks frame = 1 ↔ k % segmentTicks frame = 0 := by
  have hgt := segmentTicks_gt hf
  rw [succ_mod_segment]
  split_ifs with h
  · constructor
    · exact nofun
    · intro h0
      omega
  · omega

end Segment

/-! ## The events of a tone -/

def segmentDuration (frame k : ℕ) : UInt16 :=
  if k % segmentTicks frame = 0 then UInt16.ofNat maxEventDuration else UInt16.ofNat (k % segmentTicks frame * frame)

/-- The event at the `k`th tick of a tone. -/
def toneEvent (frame : ℕ) (id : UInt8) (k : ℕ) : SentEvent where
  marker := if k = 1 then .startOfEvent else if k % segmentTicks frame = 1 then .newSegment else .none
  event := { eventId := id, volume := dtmfEventVolume, edge := false, duration := segmentDuration frame k }

/-- The events of the first `k` ticks. -/
def toneEvents (frame : ℕ) (id : UInt8) (k : ℕ) : List SentEvent :=
  (List.range k).map fun i => toneEvent frame id (i + 1)

/-- The event at the end of a tone of `k` ticks. -/
def endEvent (frame : ℕ) (id : UInt8) (k : ℕ) : SentEvent where
  marker := .endOfEvent
  event := { eventId := id, volume := dtmfEventVolume, edge := true, duration := segmentDuration frame k }

theorem toneEvents_succ (frame : ℕ) (id : UInt8) (k : ℕ) :
    toneEvents frame id (k + 1) = toneEvents frame id k ++ [toneEvent frame id (k + 1)] := by
  rw [toneEvents, range_succ, map_append]
  rfl

def EndsRight (frame k : ℕ) : Prop := k = 1 ∨ k % segmentTicks frame ≠ 1

section Tone

variable {frame : ℕ} (hf : FrameLength frame)
include hf

theorem segmentDuration_toNat (k : ℕ) : (segmentDuration frame k).toNat =
    if k % segmentTicks frame = 0 then maxEventDuration else k % segmentTicks frame * frame := by
  have hlt := segment_lt hf (Nat.mod_lt k (show 0 < segmentTicks frame from Nat.succ_pos _))
  unfold segmentDuration
  split_ifs
  · rfl
  · exact Nat.mod_eq_of_lt (by unfold maxEventDuration at hlt; omega)

theorem segmentDuration_eq_max (k : ℕ) :
    (segmentDuration frame k).toNat = maxEventDuration ↔ k % segmentTicks frame = 0 := by
  have hlt := segment_lt hf (Nat.mod_lt k (show 0 < segmentTicks frame from Nat.succ_pos _))
  rw [segmentDuration_toNat hf]
  split_ifs with h
  · exact iff_of_true rfl h
  · exact iff_of_false hlt.ne h

variable {k : ℕ}

theorem segmentDuration_lt (h : k % segmentTicks frame ≠ 0) :
    segmentDuration frame k < segmentDuration frame (k + 1) := by
  have hlt := segment_lt hf (Nat.mod_lt k (show 0 < segmentTicks frame from Nat.succ_pos _))
  rw [UInt16.lt_iff_toNat_lt, segmentDuration_toNat hf, segmentDuration_toNat hf, if_neg h, succ_mod_segment]
  by_cases hl : k % segmentTicks frame + 1 = segmentTicks frame
  · rw [if_pos hl, if_pos rfl]
    exact hlt
  · rw [if_neg hl, if_neg (Nat.succ_ne_zero _)]
    exact Nat.mul_lt_mul_of_pos_right (Nat.lt_succ_self _) hf.pos

theorem segmentDuration_begin (h : k % segmentTicks frame = 0) : (segmentDuration frame (k + 1)).toNat = frame := by
  have ho := (succ_mod_segment_eq_one hf k).2 h
  rw [segmentDuration_toNat hf, ho, if_neg Nat.one_ne_zero, Nat.one_mul]

variable (id : UInt8)

theorem toneEvent_follows (hp : 0 < k) : Follows frame (toneEvent frame id k) (toneEvent frame id (k + 1)) := by
  unfold Follows
  split_ifs with hm
  · have hl := (segmentDuration_eq_max hf k).1 hm
    refine ⟨?_, segmentDuration_begin hf hl⟩
    simp [toneEvent, (succ_mod_segment_eq_one hf k).2 hl, hp.ne']
  · have hr : k % segmentTicks frame ≠ 0 := fun h => hm ((segmentDuration_eq_max hf k).2 h)
    refine ⟨?_, segmentDuration_lt hf hr⟩
    have hn := mt (succ_mod_segment_eq_one hf k).1 hr
    simp [toneEvent, hn, hp.ne']

theorem endEvent_follows (h : k % segmentTicks frame ≠ 0) :
    Follows frame (toneEvent frame id k) (endEvent frame id (k + 1)) := by
  have hm : ¬ (toneEvent frame id k).event.duration.toNat = maxEventDuration :=
    fun hm => h ((segmentDuration_eq_max hf k).1 hm)
  rw [Follows, if_neg hm]
  exact ⟨nofun, segmentDuration_lt hf h⟩

theorem toneEvents_isChain (k : ℕ) : (toneEvents frame id k).IsChain (Follows frame) := by
  refine (isChain_map _).2 (isChain_iff_getElem.2 fun i hi => ?_)
  simp only [getElem_range]
  exact toneEvent_follows hf id (Nat.succ_pos i)

variable {e : SentEvent}

omit hf in
theorem toneEvents_open (h : e ∈ toneEvents frame id k) :
    e.marker ≠ .endOfEvent ∧ e.event.edge = false ∧ e.event.eventId = id := by
  obtain ⟨i, -, rfl⟩ := mem_map.1 h
  refine ⟨?_, rfl, rfl⟩
  unfold toneEvent
  split_ifs <;> exact nofun

theorem chain_snoc (h : 0 < k → Follows frame (toneEvent frame id k) e) :
    (toneEvents frame id k ++ [e]).IsChain (Follows frame) := by
  refine (toneEvents_isChain hf id k).append (isChain_singleton e) ?_
  intro a ha b hb
  cases k with
  | zero => cases ha
  | succ k =>
    rw [toneEvents_succ, List.getLast?_concat] at ha
    obtain rfl : e = b := by simpa using hb
    obtain rfl : toneEvent frame id (k + 1) = a := by simpa using ha
    exact h (Nat.succ_pos k)

theorem digitEvents_tone (h : EndsRight frame (k + 1)) :
    DigitEvents frame (toneEvents frame id k ++ List.replicate 3 (endEvent frame id (k + 1))) := by
  refine ⟨⟨_, _, rfl, ⟨rfl, rfl⟩, fun e he => ?_, chain_snoc hf id fun hp => endEvent_follows hf id ?_⟩, id, ?_⟩
  · obtain ⟨hm, hd, -⟩ := toneEvents_open id he
    exact ⟨hm, hd⟩
  · intro h0
    rcases h with h1 | hne
    · omega
    · exact hne ((succ_mod_segment_eq_one hf k).2 h0)
  · intro e he
    rcases mem_append.1 he with ht | hn
    · exact (toneEvents_open id ht).2.2
    · rw [eq_of_mem_replicate hn]
      rfl

theorem exists_digitEvents_tone (k : ℕ) : ∃ rest, DigitEvents frame (toneEvents frame id k ++ rest) := by
  by_cases hk : EndsRight frame (k + 1)
  · exact ⟨_, digitEvents_tone hf id hk⟩
  · have hgt := segmentTicks_gt hf
    have ho : (k + 1) % segmentTicks frame = 1 := not_not.1 (not_or.1 hk).2
    have hn : EndsRight frame (k + 1 + 1) := by
      right
      rw [succ_mod_segment, ho, if_neg (by omega)]
      omega
    refine ⟨toneEvent frame id (k + 1) :: List.replicate 3 (endEvent frame id (k + 1 + 1)), ?_⟩
    have hd := digitEvents_tone hf id hn
    rwa [toneEvents_succ, append_assoc] at hd

theorem exists_digitEvents_end {k n : ℕ} (h : EndsRight frame (k + 1)) (hn : n ≤ 3) :
    ∃ rest, DigitEvents frame
      (toneEvents frame id k ++ List.replicate n (endEvent frame id (k + 1)) ++ rest) := by
  refine ⟨List.replicate (3 - n) (endEvent frame id (k + 1)), ?_⟩
  rw [append_assoc, replicate_append_replicate, Nat.add_sub_cancel' hn]
  exact digitEvents_tone hf id h

theorem not_digitEvents_cut (hp : 0 < k) (hfu : k % segmentTicks frame = 0) (rest : List SentEvent) :
    ¬ DigitEvents frame (toneEvents frame id k ++ endEvent frame id (k + 1) :: rest) := by
  rintro ⟨⟨body, last, heq, hs, hb, hc⟩, -⟩
  have hsm : body = toneEvents frame id k ∧ last = endEvent frame id (k + 1) := by
    rcases append_eq_append_iff.1 heq with ⟨middle, hm, hr⟩ | ⟨middle, hm, hr⟩
    · cases middle with
      | nil => exact ⟨by simpa using hm, (cons_eq_cons.1 hr).1.symm⟩
      | cons e middle =>
        obtain rfl : endEvent frame id (k + 1) = e := (cons_eq_cons.1 hr).1
        exact absurd rfl (hb (endEvent frame id (k + 1)) (by simp [hm])).1
    · cases middle with
      | nil => exact ⟨by simpa using hm.symm, (cons_eq_cons.1 hr).1⟩
      | cons e middle =>
        obtain rfl : last = e := (cons_eq_cons.1 hr).1
        have h : last ∈ toneEvents frame id k := by simp [hm]
        exact absurd hs.1 (toneEvents_open id h).1
  obtain ⟨rfl, rfl⟩ := hsm
  obtain ⟨j, rfl⟩ : ∃ j, k = j + 1 := ⟨k - 1, by omega⟩
  rw [toneEvents_succ, append_assoc, singleton_append, isChain_append_cons_cons] at hc
  have hl := hc.2.1
  have hx : (toneEvent frame id (j + 1)).event.duration.toNat = maxEventDuration :=
    (segmentDuration_eq_max hf _).2 hfu
  rw [Follows, if_pos hx] at hl
  exact absurd hl.1 nofun

end Tone

end UniMrcp.Mpf
