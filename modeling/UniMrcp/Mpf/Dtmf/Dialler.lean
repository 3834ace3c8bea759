import UniMrcp.Lib.Wrapping

/-!
# A dialler

What a generator of named events is for: a dialler signals the digits that were pushed, one after the other. It is in a
phase, whose length is measured by a counter that grows by one frame at every tick and wraps.
-/

namespace UniMrcp.Mpf

open Lib List Function

/-- The durations of a dialler, in the units of its counter, and the number of values that the counter has. -/
structure Timing where
  wrap : Nat
  frame : Nat
  tone : Nat
  silence : Nat
  frame_lt : frame < wrap

/-- A tone is longer than a frame, and the counter comes to the end of a tone and of a silence. -/
structure Timing.Sound (t : Timing) : Prop where
  long : t.frame < t.tone
  toneEnds : Reaches t.wrap t.frame t.tone
  silenceEnds : Reaches t.wrap t.frame t.silence

variable {α : Type}

inductive Phase (α : Type)
  | idle
  | tone (digit : α) (ticks : Nat)
  | ending (again : Nat)
  | silence (ticks : Nat)

def Timing.toneTick (t : Timing) (digit : α) (ticks : Nat) : Phase α × Option α :=
  let counter := ticks * t.frame % t.wrap
  if t.tone ≤ counter then (.ending 0, none)
  else (.tone digit ticks, if counter = t.frame then some digit else none)

variable {ticks : Nat}

theorem Timing.toneTick_end {t : Timing} (h : t.tone ≤ ticks * t.frame % t.wrap) (digit : α) :
    t.toneTick digit ticks = (.ending 0, none) := if_pos h

theorem Timing.toneTick_on {t : Timing} (h : ¬t.tone ≤ ticks * t.frame % t.wrap) (digit : α) :
    t.toneTick digit ticks =
      (.tone digit ticks, if ticks * t.frame % t.wrap = t.frame then some digit else none) := if_neg h

structure Dialler (α : Type) where
  phase : Phase α := .idle
  pending : List α := []
  pushed : List α := []
  signalled : List α := []

def Dialler.push (a : Dialler α) (digits : List α) : Dialler α :=
  { a with pending := a.pending ++ digits, pushed := a.pushed ++ digits }

def Timing.next (t : Timing) : Phase α → List α → Phase α × List α × Option α
  | .idle, [] => (.idle, [], none)
  | .idle, digit :: pending => ((t.toneTick digit 1).1, pending, (t.toneTick digit 1).2)
  | .tone digit ticks, pending =>
    ((t.toneTick digit (ticks + 1)).1, pending, (t.toneTick digit (ticks + 1)).2)
  | .ending again, pending => (if 2 ≤ again + 1 then .silence 2 else .ending (again + 1), pending, none)
  | .silence ticks, pending =>
    (if t.silence ≤ (ticks + 1) * t.frame % t.wrap then .idle else .silence (ticks + 1), pending, none)

def Dialler.tick (t : Timing) (a : Dialler α) : Dialler α :=
  let r := t.next a.phase a.pending
  { a with phase := r.1, pending := r.2.1, signalled := a.signalled ++ r.2.2.toList }

@[simp] theorem Dialler.push_phase (a : Dialler α) (digits : List α) : (a.push digits).phase = a.phase := rfl
@[simp] theorem Dialler.push_pushed (a : Dialler α) (digits : List α) :
    (a.push digits).pushed = a.pushed ++ digits := rfl
@[simp] theorem Dialler.push_signalled (a : Dialler α) (digits : List α) :
    (a.push digits).signalled = a.signalled := rfl
@[simp] theorem Dialler.tick_pushed (t : Timing) (a : Dialler α) : (a.tick t).pushed = a.pushed := rfl

/-! ## A sound timing -/

variable {t : Timing}

def Timing.Below (t : Timing) (ticks : Nat) : Prop := ∀ j, 0 < j → j ≤ ticks → j * t.frame % t.wrap < t.tone

theorem Timing.Below.succ (h : t.Below ticks) (hlt : (ticks + 1) * t.frame % t.wrap < t.tone) :
    t.Below (ticks + 1) := by
  intro j hp hle
  rcases Nat.lt_or_eq_of_le hle with hj | rfl
  · exact h j hp (by omega)
  · exact hlt

structure Dialler.Orderly (t : Timing) (a : Dialler α) : Prop where
  digits : a.signalled ++ a.pending = a.pushed
  below : ∀ digit ticks, a.phase = .tone digit ticks → 0 < ticks ∧ t.Below ticks

theorem orderly_new : ({} : Dialler α).Orderly t := ⟨rfl, nofun⟩

variable {a : Dialler α}

theorem orderly_push (h : a.Orderly t) (digits : List α) : (a.push digits).Orderly t := by
  refine ⟨?_, h.below⟩
  show a.signalled ++ (a.pending ++ digits) = a.pushed ++ digits
  rw [← append_assoc, h.digits]

theorem toneTick_first (ht : t.Sound) (digit : α) : t.toneTick digit 1 = (.tone digit 1, some digit) := by
  have hm : 1 * t.frame % t.wrap = t.frame := by rw [Nat.one_mul, Nat.mod_eq_of_lt t.frame_lt]
  have hl := ht.long
  rw [Timing.toneTick_on (by omega), if_pos hm]

theorem toneTick_later (ht : t.Sound) (hp : 0 < ticks) (hb : t.Below ticks) (digit : α) :
    t.toneTick digit (ticks + 1) = (.ending 0, none) ∨
      t.toneTick digit (ticks + 1) = (.tone digit (ticks + 1), none) ∧ t.Below (ticks + 1) := by
  by_cases he : t.tone ≤ (ticks + 1) * t.frame % t.wrap
  · exact Or.inl (Timing.toneTick_end he digit)
  · right
    have hb' := hb.succ (Nat.lt_of_not_le he)
    have hne := mul_mod_ne_of_below ht.toneEnds (by omega) hb'
    rw [Nat.mod_eq_of_lt t.frame_lt] at hne
    rw [Timing.toneTick_on he, if_neg hne]
    exact ⟨rfl, hb'⟩

/-- **A tick** of a dialler with sound timing. -/
theorem orderly_tick (ht : t.Sound) (h : a.Orderly t) : (a.tick t).Orderly t := by
  obtain ⟨phase, pending, pushed, signalled⟩ := a
  obtain ⟨hd, hl⟩ := h
  cases phase with
  | idle =>
    cases pending with
    | nil => exact ⟨by simpa [Dialler.tick, Timing.next] using hd, nofun⟩
    | cons digit pending =>
      simp only [Dialler.tick, Timing.next, toneTick_first ht]
      refine ⟨by simpa using hd, ?_⟩
      intro digit' ticks heq
      obtain ⟨-, rfl⟩ := Phase.tone.inj heq
      refine ⟨by omega, ?_⟩
      intro j hp hle
      obtain rfl : j = 1 := by omega
      rw [Nat.one_mul, Nat.mod_eq_of_lt t.frame_lt]
      exact ht.long
  | tone digit ticks =>
    obtain ⟨hp, hb⟩ := hl digit ticks rfl
    rcases toneTick_later ht hp hb digit with heq | ⟨heq, hb'⟩
    · simp only [Dialler.tick, Timing.next, heq]
      exact ⟨by simpa using hd, nofun⟩
    · simp only [Dialler.tick, Timing.next, heq]
      refine ⟨by simpa using hd, ?_⟩
      intro digit' ticks' heq'
      obtain ⟨-, rfl⟩ := Phase.tone.inj heq'
      exact ⟨by omega, hb'⟩
  | ending again =>
    simp only [Dialler.tick, Timing.next]
    refine ⟨by simpa using hd, ?_⟩
    intro digit ticks heq
    split_ifs at heq
  | silence ticks =>
    simp only [Dialler.tick, Timing.next]
    refine ⟨by simpa using hd, ?_⟩
    intro digit ticks' heq
    split_ifs at heq

/-! ## The end of a dialler -/

/-- Some ticks later the dialler is as `Q` says, and no digit was taken. -/
def Dialler.Leads (t : Timing) (Q : Phase α → Prop) (a : Dialler α) : Prop :=
  ∃ n, Q ((Dialler.tick t)^[n] a).phase ∧ ((Dialler.tick t)^[n] a).pending = a.pending

variable {Q : Phase α → Prop}

theorem Dialler.Leads.now (h : Q a.phase) : a.Leads t Q := ⟨0, h, rfl⟩

theorem Dialler.Leads.tick (hp : (a.tick t).pending = a.pending) (h : (a.tick t).Leads t Q) : a.Leads t Q := by
  obtain ⟨n, hq, hn⟩ := h
  refine ⟨n + 1, ?_, ?_⟩
  · rwa [iterate_succ_apply]
  · rw [iterate_succ_apply, hn, hp]

theorem Dialler.Leads.trans {Q R : Phase α → Prop} (h : a.Leads t Q)
    (hQ : ∀ b : Dialler α, Q b.phase → b.pending = a.pending → b.Leads t R) : a.Leads t R := by
  obtain ⟨n, hq, hp⟩ := h
  obtain ⟨m, hr, hp'⟩ := hQ _ hq hp
  refine ⟨m + n, ?_, ?_⟩
  · rwa [iterate_add_apply]
  · rw [iterate_add_apply, hp', hp]

theorem leads_of_silence {m : Nat} (hm : t.silence ≤ m * t.frame % t.wrap) (hlt : ticks < m)
    (h : a.phase = .silence ticks) : a.Leads t (· = .idle) := by
  induction hn : m - ticks generalizing ticks a with
  | zero => omega
  | succ n ih =>
    have hp : (a.tick t).pending = a.pending := by simp [Dialler.tick, h, Timing.next]
    apply Dialler.Leads.tick hp
    by_cases he : t.silence ≤ (ticks + 1) * t.frame % t.wrap
    · exact .now (by simp [Dialler.tick, h, Timing.next, he])
    · have hne : ticks + 1 ≠ m := by
        rintro rfl
        exact he hm
      have hx : (a.tick t).phase = .silence (ticks + 1) := by simp [Dialler.tick, h, Timing.next, he]
      exact ih (by omega) hx (by omega)

theorem leads_of_tone {m : Nat} (hm : t.tone ≤ m * t.frame % t.wrap) {digit : α} (hlt : ticks < m)
    (h : a.phase = .tone digit ticks) : a.Leads t (· = .ending 0) := by
  induction hn : m - ticks generalizing ticks a with
  | zero => omega
  | succ n ih =>
    have hp : (a.tick t).pending = a.pending := by simp [Dialler.tick, h, Timing.next]
    apply Dialler.Leads.tick hp
    by_cases he : t.tone ≤ (ticks + 1) * t.frame % t.wrap
    · exact .now (by simp [Dialler.tick, h, Timing.next, Timing.toneTick, he])
    · have hne : ticks + 1 ≠ m := by
        rintro rfl
        exact he hm
      have hx : (a.tick t).phase = .tone digit (ticks + 1) := by
        simp [Dialler.tick, h, Timing.next, Timing.toneTick, he]
      exact ih (by omega) hx (by omega)

theorem leads_of_ending {again : Nat} (h : a.phase = .ending again) : a.Leads t (· = .silence 2) := by
  have hl : ∀ {again : Nat} {a : Dialler α}, 0 < again → a.phase = .ending again → a.Leads t (· = .silence 2) := by
    intro again a hp h
    refine .tick (by simp [Dialler.tick, h, Timing.next]) (.now ?_)
    simp only [Dialler.tick, h, Timing.next]
    exact if_pos (by omega)
  cases again with
  | zero =>
    have hn : (a.tick t).phase = .ending 1 := by simp [Dialler.tick, h, Timing.next]
    exact .tick (by simp [Dialler.tick, h, Timing.next]) (hl (by omega) hn)
  | succ again => exact hl (by omega) h

theorem leads_idle (ht : Reaches t.wrap t.frame t.tone) (hsi : Reaches t.wrap t.frame t.silence)
    (a : Dialler α) : a.Leads t (· = .idle) := by
  have hw : 0 < t.wrap := Nat.lt_of_le_of_lt (Nat.zero_le _) t.frame_lt
  have hs : ∀ {ticks} {a : Dialler α}, a.phase = .silence ticks → a.Leads t (· = .idle) := by
    intro ticks a h
    obtain ⟨m, hlt, hm⟩ := reaches_after hsi hw ticks
    exact leads_of_silence hm hlt h
  have he : ∀ {again} {a : Dialler α}, a.phase = .ending again → a.Leads t (· = .idle) := fun h =>
    (leads_of_ending h).trans fun _ hq _ => hs hq
  cases h : a.phase with
  | idle => exact .now h
  | tone digit ticks =>
    obtain ⟨m, hlt, hm⟩ := reaches_after ht hw ticks
    exact (leads_of_tone hm hlt h).trans fun _ hq _ => he hq
  | ending again => exact he h
  | silence ticks => exact hs h

def Dialler.Done (a : Dialler α) : Prop := a.phase = .idle ∧ a.pending = []

theorem exists_done (ht : Reaches t.wrap t.frame t.tone) (hs : Reaches t.wrap t.frame t.silence)
    (a : Dialler α) : ∃ n, ((Dialler.tick t)^[n] a).Done := by
  induction hn : a.pending.length generalizing a with
  | zero =>
    obtain ⟨n, hi, hp⟩ := leads_idle ht hs a
    exact ⟨n, hi, hp.trans (length_eq_zero_iff.1 hn)⟩
  | succ k ih =>
    obtain ⟨n, hi, hp⟩ := leads_idle ht hs a
    obtain ⟨digit, rest, hr⟩ := exists_cons_of_length_eq_add_one hn
    have hl : (((Dialler.tick t)^[n] a).tick t).pending.length = k := by
      have hx : (((Dialler.tick t)^[n] a).tick t).pending = rest := by
        simp [Dialler.tick, hi, hp, hr, Timing.next]
      rw [hx]
      simpa [hr] using hn
    obtain ⟨m, hd⟩ := ih _ hl
    refine ⟨m + (n + 1), ?_⟩
    rwa [iterate_add_apply, iterate_succ_apply']

theorem tick_of_done (h : a.Done) : a.tick t = a := by
  obtain ⟨phase, pending, pushed, signalled⟩ := a
  obtain ⟨rfl, rfl⟩ := h
  simp [Dialler.tick, Timing.next]

theorem iterate_of_done (h : a.Done) (n : Nat) : (Dialler.tick t)^[n] a = a := by
  induction n with
  | zero => rfl
  | succ n ih => rw [iterate_succ_apply, tick_of_done h, ih]

/-! ## A timing that is not sound -/

structure Dialler.Silent (a : Dialler α) : Prop where
  phase : ∀ digit ticks, a.phase ≠ .tone digit ticks
  signalled : a.signalled = []

theorem silent_tick (hh : t.tone ≤ t.frame) (h : a.Silent) : (a.tick t).Silent := by
  obtain ⟨phase, pending, pushed, signalled⟩ := a
  obtain ⟨hp, hs⟩ := h
  subst hs
  cases phase with
  | idle =>
    cases pending with
    | nil => exact ⟨nofun, rfl⟩
    | cons digit pending =>
      have hm : 1 * t.frame % t.wrap = t.frame := by rw [Nat.one_mul, Nat.mod_eq_of_lt t.frame_lt]
      simp only [Dialler.tick, Timing.next, Timing.toneTick, hm, if_pos hh]
      exact ⟨nofun, rfl⟩
  | tone digit ticks => exact absurd rfl (hp digit ticks)
  | ending again =>
    refine ⟨?_, rfl⟩
    intro digit ticks heq
    simp only [Dialler.tick, Timing.next] at heq
    split_ifs at heq
  | silence ticks =>
    refine ⟨?_, rfl⟩
    intro digit ticks heq
    simp only [Dialler.tick, Timing.next] at heq
    split_ifs at heq

/-- A dialler that has not come to its second digit, as it is in a tone or a silence that may not end. -/
structure Dialler.Stuck (t : Timing) (first second : α) (a : Dialler α) : Prop where
  start : a.phase = .idle → a.pending = [first, second]
  tone : ∀ digit ticks, a.phase = .tone digit ticks → digit = first
  ending : ∀ again, a.phase = .ending again → Reaches t.wrap t.frame t.tone
  silence : ∀ ticks, a.phase = .silence ticks → Reaches t.wrap t.frame t.tone
  signalled : ∀ digit ∈ a.signalled, digit = first

theorem stuck_toneTick (first : α) (ticks : Nat) :
    (t.toneTick first ticks = (.ending 0, none) ∧ Reaches t.wrap t.frame t.tone) ∨
      ∃ signal : Option α, t.toneTick first ticks = (.tone first ticks, signal) ∧
        ∀ digit ∈ signal.toList, digit = first := by
  by_cases he : t.tone ≤ ticks * t.frame % t.wrap
  · exact Or.inl ⟨Timing.toneTick_end he first, ticks, he⟩
  · refine Or.inr ⟨_, Timing.toneTick_on he first, ?_⟩
    split_ifs <;> simp

theorem stuck_tick {first second : α} (hn : ¬(Reaches t.wrap t.frame t.tone ∧ Reaches t.wrap t.frame t.silence))
    (h : a.Stuck t first second) : (a.tick t).Stuck t first second := by
  obtain ⟨phase, pending, pushed, signalled⟩ := a
  obtain ⟨ht, htn, he, hl, hg⟩ := h
  have hmr : ∀ signal : Option α, (∀ digit ∈ signal.toList, digit = first) →
      ∀ digit ∈ signalled ++ signal.toList, digit = first := by
    intro signal hs digit hm
    rcases mem_append.1 hm with hm | hm
    · exact hg digit hm
    · exact hs digit hm
  cases phase with
  | idle =>
    obtain rfl := ht rfl
    simp only [Dialler.tick, Timing.next]
    rcases stuck_toneTick (t := t) first 1 with ⟨heq, hr⟩ | ⟨signal, heq, hs⟩
    · rw [heq]
      exact ⟨nofun, nofun, fun _ _ => hr, nofun, by simpa using hg⟩
    · rw [heq]
      exact ⟨nofun, fun _ _ hp => (Phase.tone.inj hp).1.symm, nofun, nofun, hmr signal hs⟩
  | tone digit ticks =>
    obtain rfl := htn digit ticks rfl
    simp only [Dialler.tick, Timing.next]
    rcases stuck_toneTick (t := t) digit (ticks + 1) with ⟨heq, hr⟩ | ⟨signal, heq, hs⟩
    · rw [heq]
      exact ⟨nofun, nofun, fun _ _ => hr, nofun, by simpa using hg⟩
    · rw [heq]
      exact ⟨nofun, fun _ _ hp => (Phase.tone.inj hp).1.symm, nofun, nofun, hmr signal hs⟩
  | ending again =>
    have hr := he again rfl
    simp only [Dialler.tick, Timing.next]
    split_ifs
    · exact ⟨nofun, nofun, nofun, fun _ _ => hr, by simpa using hg⟩
    · exact ⟨nofun, nofun, fun _ _ => hr, nofun, by simpa using hg⟩
  | silence ticks =>
    have hr := hl ticks rfl
    simp only [Dialler.tick, Timing.next]
    split_ifs with hd
    · exact absurd ⟨hr, ticks + 1, hd⟩ hn
    · exact ⟨nofun, nofun, nofun, fun _ _ => hr, by simpa using hg⟩

end UniMrcp.Mpf
