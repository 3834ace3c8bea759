import UniMrcp.Lib.Run
import UniMrcp.Mpf.Dtmf
import Mathlib.Algebra.Order.Ring.Int
import Mathlib.Data.List.ReduceOption

/-!
# The DTMF detector

The in-band detector (`mpf_dtmf_detector.c`) decides on a digit or none for each window of samples.
-/

namespace UniMrcp.Mpf

open Lib List

/-- The digits of `mpf_dtmf_detector_t`, where 0 is none: here with the count, which need not be the length of the
text. -/
structure DigitSlots where
  buf : List UInt8 := []
  digits : Nat := 0
  lostDigits : Nat := 0
  last1 : UInt8 := 0
  last2 : UInt8 := 0
  curr : UInt8 := 0
deriving DecidableEq

/-- `mpf_dtmf_detector_add_digit` -/
def DigitSlots.addDigit (s : DigitSlots) (digit : UInt8) : DigitSlots :=
  if digit = 0 then s
  else if s.digits < dtmfdetBufferLen then { s with buf := s.buf.take s.digits ++ [digit], digits := s.digits + 1 }
  else { s with lostDigits := s.lostDigits + 1 }

/-- `mpf_dtmf_detector_digit_get` -/
def DigitSlots.digitGet (s : DigitSlots) : DigitSlots × UInt8 :=
  match s.buf with
  | [] => (s, 0)
  | digit :: buf => ({ s with buf := buf, digits := s.digits - 1 }, digit)

/-- The last part of `goertzel_energies_digit`, and the digit that is added. -/
def DigitSlots.window (s : DigitSlots) (digit : UInt8) : DigitSlots × Option UInt8 :=
  let (t, added) :=
    if digit ≠ s.curr then
      if digit ≠ 0 ∧ s.last1 = digit ∧ s.last2 = digit then ({ s with curr := digit }.addDigit digit, some digit)
      else if s.last1 ≠ s.curr ∧ s.last2 ≠ s.curr then ({ s with curr := 0 }, none)
      else (s, none)
    else (s, none)
  ({ t with last1 := s.last2, last2 := digit }, added)

variable {s : DigitSlots} {w d : UInt8}

/-- Three windows in a row are decided as a digit that is not held. -/
def DigitSlots.Completes (s : DigitSlots) (w : UInt8) : Prop := w ≠ s.curr ∧ w ≠ 0 ∧ s.last1 = w ∧ s.last2 = w

instance (s : DigitSlots) (w : UInt8) : Decidable (s.Completes w) := inferInstanceAs (Decidable (_ ∧ _))

open DigitSlots

theorem addDigit_slots (s : DigitSlots) (w : UInt8) :
    (s.addDigit w).last1 = s.last1 ∧ (s.addDigit w).last2 = s.last2 ∧ (s.addDigit w).curr = s.curr := by
  unfold addDigit
  split_ifs <;> exact ⟨rfl, rfl, rfl⟩

theorem window_added (s : DigitSlots) (w : UInt8) : (s.window w).2 = if s.Completes w then some w else none := by
  unfold DigitSlots.window DigitSlots.Completes
  split_ifs <;> simp_all

theorem window_last1 (s : DigitSlots) (w : UInt8) : (s.window w).1.last1 = s.last2 := rfl

theorem window_last2 (s : DigitSlots) (w : UInt8) : (s.window w).1.last2 = w := rfl

theorem window_curr (s : DigitSlots) (w : UInt8) : (s.window w).1.curr =
    if s.Completes w then w else if w ≠ s.curr ∧ s.last1 ≠ s.curr ∧ s.last2 ≠ s.curr then 0 else s.curr := by
  by_cases h : s.Completes w
  · rw [if_pos h]
    unfold DigitSlots.window
    rw [if_pos h.1, if_pos h.2]
    exact (addDigit_slots _ w).2.2
  · rw [if_neg h]
    unfold DigitSlots.window
    split_ifs <;> simp_all [DigitSlots.Completes]

theorem window_buffer (s : DigitSlots) (w : UInt8) :
    (s.window w).1.buf = ((s.window w).2.elim s s.addDigit).buf ∧
      (s.window w).1.digits = ((s.window w).2.elim s s.addDigit).digits ∧
      (s.window w).1.lostDigits = ((s.window w).2.elim s s.addDigit).lostDigits := by
  unfold DigitSlots.window addDigit
  split_ifs <;> simp_all

/-! ## Presses of a key -/

/-- Three successive windows are not decided as `d`. -/
def Interrupted (d : UInt8) (windows : List UInt8) : Prop :=
  ∃ a b c, [a, b, c] <:+: windows ∧ a ≠ d ∧ b ≠ d ∧ c ≠ d

theorem interrupted_cons {windows : List UInt8} : Interrupted d (w :: windows) ↔
    (∃ b c rest, windows = b :: c :: rest ∧ w ≠ d ∧ b ≠ d ∧ c ≠ d) ∨ Interrupted d windows := by
  constructor
  · rintro ⟨a, b, c, hi, ha, hb, hc⟩
    rcases infix_cons_iff.1 hi with hp | hi
    · obtain ⟨rest, hr⟩ := hp
      obtain ⟨rfl, rfl⟩ := cons.inj hr
      exact Or.inl ⟨b, c, rest, rfl, ha, hb, hc⟩
    · exact Or.inr ⟨a, b, c, hi, ha, hb, hc⟩
  · rintro (⟨b, c, rest, rfl, ha, hb, hc⟩ | ⟨a, b, c, hi, h⟩)
    · exact ⟨w, b, c, ⟨[], rest, rfl⟩, ha, hb, hc⟩
    · exact ⟨a, b, c, hi.trans (suffix_cons _ _).isInfix, h⟩

def DigitSlots.reports (s : DigitSlots) (windows : List UInt8) : List UInt8 :=
  (run DigitSlots.window s windows).2.reduceOption

theorem reports_cons (s : DigitSlots) (w : UInt8) (windows : List UInt8) :
    s.reports (w :: windows) = (s.window w).2.toList ++ (s.window w).1.reports windows := by
  unfold reports
  rw [run_cons]
  cases (s.window w).2 <;> rfl

theorem held_reports {windows : List UInt8} (hc : s.curr = d)
    (h : ¬ Interrupted d (s.last1 :: s.last2 :: windows)) : (s.reports windows).count d = 0 := by
  induction windows generalizing s with
  | nil => rfl
  | cons w windows ih =>
    have ht : ¬ (s.last1 ≠ d ∧ s.last2 ≠ d ∧ w ≠ d) := fun hne =>
      h (interrupted_cons.2 (Or.inl ⟨s.last2, w, windows, rfl, hne.1, hne.2.1, hne.2.2⟩))
    have hn : ¬ s.Completes w := by
      rintro ⟨hne, -, h1, h2⟩
      rw [hc] at hne
      exact ht ⟨h1 ▸ hne, h2 ▸ hne, hne⟩
    have hh : (s.window w).1.curr = d := by
      rw [window_curr, if_neg hn, if_neg fun hne => ht (hc ▸ ⟨hne.2.1, hne.2.2, hne.1⟩), hc]
    have hr := ih hh fun hi => h (interrupted_cons.2 (Or.inr hi))
    rw [reports_cons, window_added, if_neg hn]
    exact hr

theorem press_at_most_once {windows : List UInt8} (h : ¬ Interrupted d windows) :
    (s.reports windows).count d ≤ 1 := by
  induction windows generalizing s with
  | nil => exact Nat.zero_le 1
  | cons w windows ih =>
    have hr : ¬ Interrupted d windows := fun hi => h (interrupted_cons.2 (Or.inr hi))
    rw [reports_cons, count_append, window_added]
    by_cases hw : s.Completes w ∧ w = d
    · obtain ⟨ha, rfl⟩ := hw
      have hh := held_reports (s := (s.window w).1) (d := w)
        (by rw [window_curr, if_pos ha]) (by
          rw [window_last1, window_last2, ha.2.2.2, interrupted_cons, interrupted_cons]
          rintro (⟨_, _, _, -, hne, -⟩ | ⟨_, _, _, -, hne, -⟩ | hi)
          · exact hne rfl
          · exact hne rfl
          · exact hr hi)
      rw [if_pos ha, hh]
      simp
    · have hz : count d (if s.Completes w then some w else none).toList = 0 := by
        split_ifs with ha
        · exact count_eq_zero.2 fun hm => hw ⟨ha, (mem_singleton.1 hm).symm⟩
        · rfl
      rw [hz, Nat.zero_add]
      exact ih hr

theorem replicate_reports (hc : s.curr = d) (n : Nat) : s.reports (replicate n d) = [] := by
  induction n generalizing s with
  | zero => rfl
  | succ n ih =>
    have hn : ¬ s.Completes d := fun ha => ha.1 hc.symm
    rw [replicate_succ, reports_cons, window_added, if_neg hn, ih]
    · rfl
    · rw [window_curr, if_neg hn, if_neg fun hne => hne.1 hc.symm, hc]

/-- `d` is neither held nor decided last. -/
def DigitSlots.Free (s : DigitSlots) (d : UInt8) : Prop := s.curr ≠ d ∧ s.last2 ≠ d

theorem free_run {gap : List UInt8} (hd : d ≠ 0) (h : ∀ w ∈ gap, w ≠ d) (hs : s.Free d) :
    (run DigitSlots.window s gap).1.Free d := by
  induction gap generalizing s with
  | nil => exact hs
  | cons w gap ih =>
    have hw : w ≠ d := h w mem_cons_self
    refine ih (fun v hv => h v (mem_cons_of_mem _ hv)) ⟨?_, hw⟩
    rw [window_curr]
    split_ifs
    · exact hw
    · exact hd.symm
    · exact hs.1

theorem gap_free {gap : List UInt8} (hd : d ≠ 0) (h : ∀ w ∈ gap, w ≠ d) (hl : 3 ≤ gap.length) :
    (run DigitSlots.window s gap).1.Free d := by
  obtain ⟨a, b, c, gap, rfl⟩ : ∃ a b c rest, gap = a :: b :: c :: rest := by
    match gap, hl with
    | a :: b :: c :: rest, _ => exact ⟨a, b, c, rest, rfl⟩
  obtain ⟨ha, hb, hc, hs⟩ : a ≠ d ∧ b ≠ d ∧ c ≠ d ∧ ∀ w ∈ gap, w ≠ d := by simpa using h
  rw [run_cons, run_cons, run_cons]
  refine free_run hd hs ⟨?_, hc⟩
  rw [window_curr]
  split_ifs with _ hr
  · exact hc
  · exact hd.symm
  · rintro rfl
    exact hr ⟨hc, ha, hb⟩

theorem press_reports (hd : d ≠ 0) (hs : s.Free d) (n : Nat) : s.reports (replicate (n + 3) d) = [d] := by
  obtain ⟨hr, hl⟩ := hs
  have h1 : ¬ s.Completes d := fun ha => hl ha.2.2.2
  have hc1 : (s.window d).1.curr ≠ d := by
    rw [window_curr, if_neg h1]
    split_ifs
    · exact hd.symm
    · exact hr
  have h2 : ¬ (s.window d).1.Completes d := fun ha => hl ha.2.2.1
  have hc2 : ((s.window d).1.window d).1.curr ≠ d := by
    rw [window_curr, if_neg h2]
    split_ifs
    · exact hd.symm
    · exact hc1
  have h3 : ((s.window d).1.window d).1.Completes d := ⟨hc2.symm, hd, rfl, rfl⟩
  rw [replicate_succ, replicate_succ, replicate_succ, reports_cons, reports_cons, reports_cons, window_added,
    window_added, window_added, if_neg h1, if_neg h2, if_pos h3, replicate_reports]
  · rfl
  · rw [window_curr, if_pos h3]

theorem reports_append (s : DigitSlots) (before after : List UInt8) :
    s.reports (before ++ after) = s.reports before ++ (run DigitSlots.window s before).1.reports after := by
  simp only [reports, run_append, reduceOption_append]

theorem press_once {before gap : List UInt8} (hd : d ≠ 0) (hg : ∀ w ∈ gap, w ≠ d)
    (hl : 3 ≤ gap.length ∨ ∀ w ∈ before, w ≠ d) (n : Nat) :
    reports {} (before ++ gap ++ replicate (n + 3) d) = reports {} (before ++ gap) ++ [d] := by
  rw [reports_append]
  congr 1
  refine press_reports hd ?_ n
  rw [run_append]
  rcases hl with hl | hb
  · exact gap_free hd hg hl
  · exact free_run hd hg (free_run hd hb ⟨hd.symm, hd.symm⟩)

/-! ## A detector that is heard and read -/

inductive DetectorInput where
  | window (digit : UInt8)
  | get
deriving DecidableEq

def DetectorInput.digit? : DetectorInput → Option UInt8
  | .window digit => some digit
  | .get => none

/-- A detector, with the windows, newest first, the digit added last and the windows since, and the digits added, stored
and returned. -/
structure Hearing where
  detector : DigitSlots := {}
  windows : List UInt8 := []
  last : Option UInt8 := none
  since : List UInt8 := []
  added : List UInt8 := []
  stored : List UInt8 := []
  got : List UInt8 := []

def Hearing.add (h : Hearing) (digit : UInt8) : Hearing :=
  { h with
    last := some digit
    since := []
    added := h.added ++ [digit]
    stored := if h.detector.digits < dtmfdetBufferLen then h.stored ++ [digit] else h.stored }

def Hearing.hear (h : Hearing) : DetectorInput → Hearing
  | .window digit =>
    let (detector, added) := h.detector.window digit
    { added.elim { h with since := digit :: h.since } h.add with detector, windows := digit :: h.windows }
  | .get =>
    let (detector, digit) := h.detector.digitGet
    { h with detector, got := if digit = 0 then h.got else h.got ++ [digit] }

theorem hear_window (h : Hearing) (w : UInt8) : h.hear (.window w) =
    { (h.detector.window w).2.elim { h with since := w :: h.since } h.add with
      detector := (h.detector.window w).1, windows := w :: h.windows } := rfl

/-- The digit is due at this window: three in a row, and it is not the one added last or it was interrupted. -/
def Hearing.Due (h : Hearing) (digit : UInt8) : Prop :=
  digit ≠ 0 ∧ (∃ rest, h.windows = digit :: digit :: rest) ∧ (h.last = some digit → Interrupted digit h.since)

structure Hearing.Inv (h : Hearing) : Prop where
  last1 : h.detector.last1 = h.windows.tail.headD 0
  last2 : h.detector.last2 = h.windows.headD 0
  held : ∀ d ≠ 0, h.detector.curr = d ↔ h.last = some d ∧ ¬ Interrupted d h.since
  since : ∀ d, h.last = some d → ∃ rest, h.windows = h.since ++ d :: rest
  nonzero : 0 ∉ h.detector.buf
  digits : h.detector.digits = h.detector.buf.length
  room : h.detector.digits ≤ dtmfdetBufferLen
  order : h.got ++ h.detector.buf = h.stored
  sublist : h.stored <+ h.added
  count : h.stored.length + h.detector.lostDigits = h.added.length

variable {h : Hearing}

theorem Hearing.Inv.completes_iff (hi : h.Inv) (w : UInt8) : h.detector.Completes w ↔ h.Due w := by
  unfold DigitSlots.Completes Hearing.Due
  rw [hi.last1, hi.last2]
  by_cases hw : w = 0
  · simp [hw]
  have hc : w ≠ h.detector.curr ↔ (h.last = some w → Interrupted w h.since) := by
    rw [ne_comm, Ne, hi.held w hw, not_and, not_not]
  have ht : (h.windows.tail.headD 0 = w ∧ h.windows.headD 0 = w) ↔ ∃ rest, h.windows = w :: w :: rest := by
    match h.windows with
    | [] => simp [Ne.symm hw]
    | [a] => simp [Ne.symm hw]
    | a :: b :: rest => simp [and_comm]
  rw [hc, ht]
  tauto

theorem Hearing.Inv.new : ({} : Hearing).Inv where
  last1 := rfl
  last2 := rfl
  held _ hd := ⟨fun h => absurd h.symm hd, fun h => nomatch h.1⟩
  since _ h := nomatch h
  nonzero := not_mem_nil
  digits := rfl
  room := Nat.zero_le _
  order := rfl
  sublist := Sublist.refl _
  count := rfl

theorem Hearing.Inv.interrupted_iff (hi : h.Inv) (hl : h.last = some d) (hh : ¬ Interrupted d h.since)
    (w : UInt8) : Interrupted d (w :: h.since) ↔ w ≠ d ∧ h.detector.last1 ≠ d ∧ h.detector.last2 ≠ d := by
  obtain ⟨rest, hr⟩ := hi.since d hl
  rw [interrupted_cons, or_iff_left hh, hi.last1, hi.last2, hr]
  match h.since with
  | [] => simp
  | [b] => simp
  | b :: c :: since => simp [and_comm]

theorem Hearing.Inv.add (hi : h.Inv) (ha : h.detector.Completes w) : (h.hear (.window w)).Inv := by
  have hw : w ≠ 0 := ha.2.1
  have ho : (h.detector.window w).2 = some w := by rw [window_added, if_pos ha]
  obtain ⟨hb, hd, hs⟩ := window_buffer h.detector w
  simp only [ho, Option.elim_some, addDigit, if_neg hw] at hb hd hs
  rw [hear_window, ho, Option.elim_some]
  have hn : h.detector.buf.take h.detector.digits = h.detector.buf := by rw [hi.digits, take_length]
  refine ⟨hi.last2, rfl, fun d _ => ?_, fun d hl => ⟨h.windows, ?_⟩, ?_, ?_, ?_, ?_, ?_, ?_⟩
  · rw [window_curr, if_pos ha]
    exact ⟨fun heq => ⟨congrArg some heq, fun ⟨_, _, _, hin, _⟩ => nomatch hin.length_le⟩,
      fun hl => Option.some.inj hl.1⟩
  · exact congrArg (· :: h.windows) (Option.some.inj hl)
  · rw [hb]
    split_ifs
    · rw [hn, mem_append, mem_singleton]
      exact fun hm => hm.elim hi.nonzero fun heq => hw heq.symm
    · exact hi.nonzero
  · rw [hb, hd]
    split_ifs
    · rw [hn, length_append, hi.digits]
      rfl
    · exact hi.digits
  · rw [hd]
    split_ifs with hr
    · exact hr
    · exact hi.room
  · simp only [hb, Hearing.add]
    split_ifs
    · rw [hn, ← append_assoc, hi.order]
    · exact hi.order
  · simp only [Hearing.add]
    split_ifs
    · exact hi.sublist.append (Sublist.refl _)
    · exact hi.sublist.trans (sublist_append_left _ _)
  · have hc := hi.count
    simp only [hs, Hearing.add]
    split_ifs <;> simp only [length_append, length_singleton] <;> omega

theorem Hearing.Inv.pass (hi : h.Inv) (hn : ¬ h.detector.Completes w) : (h.hear (.window w)).Inv := by
  have ho : (h.detector.window w).2 = none := by rw [window_added, if_neg hn]
  obtain ⟨hb, hg, hs⟩ := window_buffer h.detector w
  rw [ho] at hb hg hs
  rw [hear_window, ho, Option.elim_none]
  refine ⟨hi.last2, rfl, fun d hd => ?_, fun d hl => ?_, ?_, ?_, ?_, ?_, hi.sublist, ?_⟩
  · rw [window_curr, if_neg hn]
    by_cases hc : h.detector.curr = d
    · obtain ⟨hl, hh⟩ := (hi.held d hd).1 hc
      rw [hc, hi.interrupted_iff hl hh]
      split_ifs with hr
      · exact ⟨fun heq => absurd heq.symm hd, fun hnn => absurd hr hnn.2⟩
      · exact ⟨fun _ => ⟨hl, hr⟩, fun _ => rfl⟩
    · have hf : ¬ (h.last = some d ∧ ¬ Interrupted d (w :: h.since)) := fun ⟨hl, hh⟩ =>
        hc ((hi.held d hd).2 ⟨hl, fun hin => hh (interrupted_cons.2 (Or.inr hin))⟩)
      rw [iff_false_right hf]
      split_ifs
      · exact hd.symm
      · exact hc
  · obtain ⟨rest, ht⟩ := hi.since d hl
    exact ⟨rest, congrArg (w :: ·) ht⟩
  · exact hb ▸ hi.nonzero
  · exact (hg.trans hi.digits).trans (congrArg length hb.symm)
  · exact hg ▸ hi.room
  · exact hb ▸ hi.order
  · exact hs ▸ hi.count

theorem digitGet_eq (s : DigitSlots) : s.digitGet.2 = s.buf.headD 0 ∧ s.digitGet.1.buf = s.buf.tail := by
  unfold digitGet
  split <;> simp_all

theorem Hearing.Inv.got_get (hi : h.Inv) : (h.hear .get).got = h.got ++ h.detector.buf.take 1 := by
  show (if h.detector.digitGet.2 = 0 then h.got else h.got ++ [h.detector.digitGet.2]) = _
  have hz := hi.nonzero
  rw [(digitGet_eq _).1]
  cases hb : h.detector.buf with
  | nil => simp
  | cons digit rest =>
    have hne : digit ≠ 0 := fun heq => hz (by simp [hb, heq])
    simp [hne]

theorem Hearing.Inv.get (hi : h.Inv) : (h.hear .get).Inv := by
  have heq : ∃ rest digit, h.detector.buf = digit ++ rest ∧ h.hear .get = { h with
      detector := { h.detector with buf := rest, digits := h.detector.digits - digit.length }
      got := h.got ++ digit } := by
    obtain ⟨⟨buf, _, _, _, _, _⟩, _⟩ := h
    cases buf with
    | nil => exact ⟨[], [], rfl, by simp [Hearing.hear, digitGet]⟩
    | cons digit rest =>
      have hg : digit ≠ 0 := fun hz => hi.nonzero (hz ▸ mem_cons_self)
      exact ⟨rest, [digit], rfl, by simp [Hearing.hear, digitGet, hg]⟩
  obtain ⟨rest, digit, hb, heq⟩ := heq
  have hd := hi.digits
  have hr := hi.room
  rw [hb, length_append] at hd
  rw [heq]
  refine ⟨hi.last1, hi.last2, hi.held, hi.since, fun hm => hi.nonzero (hb ▸ mem_append_right _ hm), ?_, ?_,
    ?_, hi.sublist, hi.count⟩
  · show h.detector.digits - digit.length = rest.length
    omega
  · show h.detector.digits - digit.length ≤ _
    omega
  · rw [append_assoc, ← hb]
    exact hi.order

theorem Hearing.Inv.hear (hi : h.Inv) (i : DetectorInput) : (h.hear i).Inv := by
  cases i with
  | window w =>
    by_cases ha : h.detector.Completes w
    · exact hi.add ha
    · exact hi.pass ha
  | get => exact hi.get

theorem Hearing.Inv.run (hi : h.Inv) (is : List DetectorInput) : (is.foldl Hearing.hear h).Inv := by
  induction is generalizing h with
  | nil => exact hi
  | cons i is ih => exact ih (hi.hear i)

def DigitSlots.Like (s t : DigitSlots) : Prop := s.last1 = t.last1 ∧ s.last2 = t.last2 ∧ s.curr = t.curr

theorem DigitSlots.Like.window {s t : DigitSlots} (hs : s.Like t) (w : UInt8) :
    (s.window w).2 = (t.window w).2 ∧ (s.window w).1.Like (t.window w).1 := by
  obtain ⟨h1, h2, hc⟩ := hs
  have hi : s.Completes w ↔ t.Completes w := by unfold DigitSlots.Completes; rw [h1, h2, hc]
  refine ⟨?_, h2, rfl, ?_⟩
  · simp only [window_added, hi]
  · simp only [window_curr, hi, h1, h2, hc]

theorem added_reports (is : List DetectorInput) (hs : h.detector.Like s) :
    (is.foldl Hearing.hear h).added = h.added ++ s.reports (is.filterMap DetectorInput.digit?) ∧
      (is.foldl Hearing.hear h).windows = (is.filterMap DetectorInput.digit?).reverse ++ h.windows := by
  induction is generalizing h s with
  | nil => exact ⟨(append_nil _).symm, rfl⟩
  | cons i is ih =>
    cases i with
    | get =>
      have hg : h.detector.digitGet.1.Like s := by
        unfold digitGet
        split <;> exact hs
      exact ih (h := h.hear .get) hg
    | window w =>
      obtain ⟨ho, hl⟩ := hs.window w
      have ha : (h.hear (.window w)).added = h.added ++ (s.window w).2.toList := by
        rw [← ho, hear_window]
        cases (h.detector.window w).2
        · exact (append_nil _).symm
        · rfl
      obtain ⟨hr, hw⟩ := ih (h := h.hear (.window w)) hl
      refine ⟨hr.trans ?_, hw.trans ?_⟩
      · rw [ha, append_assoc, ← reports_cons]
        rfl
      · rw [filterMap_cons_some (f := DetectorInput.digit?) rfl, reverse_cons, append_assoc]
        rfl

/-- **The digits are debounced.** A digit is added at the third window in a row that is decided as it, unless it was
added last and not interrupted. Each press of three windows or more, three windows after the last one, is reported once,
one with one or two misjudged windows at a time once at most. A read takes the first digit of the buffer, so that the
digits are returned in order. -/
theorem debounced (is : List DetectorInput) :
    let h := is.foldl Hearing.hear {}
    (∀ w d, (h.detector.window w).2 = some d ↔ d = w ∧ h.Due w) ∧
      h.windows = (is.filterMap DetectorInput.digit?).reverse ∧
      h.added = DigitSlots.reports {} (is.filterMap DetectorInput.digit?) ∧
      (∀ d before gap n, d ≠ 0 → (∀ w ∈ gap, w ≠ d) → (3 ≤ gap.length ∨ ∀ w ∈ before, w ≠ d) →
        DigitSlots.reports {} (before ++ gap ++ replicate (n + 3) d) = DigitSlots.reports {} (before ++ gap) ++ [d]) ∧
      (∀ d before press, ¬ Interrupted d press →
        (DigitSlots.reports {} (before ++ press)).count d ≤ (DigitSlots.reports {} before).count d + 1) ∧
      h.detector.digitGet.2 = h.detector.buf.headD 0 ∧ h.detector.digitGet.1.buf = h.detector.buf.tail ∧
      (h.hear .get).got = h.got ++ h.detector.buf.take 1 ∧
      h.got ++ h.detector.buf = h.stored ∧ h.stored <+ h.added ∧ h.detector.digits = h.detector.buf.length ∧
      h.detector.digits + h.detector.lostDigits + h.got.length = h.added.length := by
  intro h
  have hi : h.Inv := Hearing.Inv.new.run is
  obtain ⟨had, hw⟩ := added_reports (h := {}) (s := {}) is ⟨rfl, rfl, rfl⟩
  refine ⟨fun w d => ?_, hw.trans (append_nil _), had, fun d before gap n hd => (press_once hd · · n),
    fun d before press hp => ?_, (digitGet_eq _).1, (digitGet_eq _).2, hi.got_get, hi.order, hi.sublist, hi.digits, ?_⟩
  · rw [window_added, ← hi.completes_iff w]
    by_cases ha : h.detector.Completes w
    · rw [if_pos ha, Option.some_inj, eq_comm, and_iff_left ha]
    · rw [if_neg ha]
      exact iff_of_false nofun fun heq => ha heq.2
  · rw [reports_append, count_append]
    exact Nat.add_le_add_left (press_at_most_once hp) _
  · have hc := hi.count
    rw [← hi.order, length_append, ← hi.digits] at hc
    omega

/-! ## Samples -/

section Samples

/-- `goertzel_state_t`, in an exact arithmetic. -/
structure GoertzelState (R : Type*) where
  coef : R
  s1 : R
  s2 : R

/-- `mpf_dtmf_detector_t`: the filters of the rows come first. -/
structure ToneDetector (R : Type*) extends DigitSlots where
  inband : Bool
  outband : Bool
  energies : List (GoertzelState R)
  totenergy : R
  wsamples : Nat
  nsamples : Nat

def freq2digits : List (List UInt8) :=
  [[0x31, 0x32, 0x33, 0x41], [0x34, 0x35, 0x36, 0x42], [0x37, 0x38, 0x39, 0x43], [0x2A, 0x30, 0x23, 0x44]]

variable {R : Type*} [CommRing R] [LinearOrder R]

def GoertzelState.energy (e : GoertzelState R) : R := e.s1 * e.s1 + e.s2 * e.s2 - e.coef * e.s1 * e.s2

def maxEnergy (energies : List (GoertzelState R)) : Option Nat × R :=
  energies.zipIdx.foldl (fun m e => if m.2 < e.1.energy then (some e.2, e.1.energy) else m) (none, 0)

/-- The decision of `goertzel_energies_digit`, with the comparisons in whole numbers. -/
def ToneDetector.digit (d : ToneDetector R) : UInt8 :=
  let (rmax, reng) := maxEnergy (d.energies.take 4)
  let (cmax, ceng) := maxEnergy (d.energies.drop 4)
  if reng * 102 < 80000000000 * d.wsamples ∨ ceng * 102 < 80000000000 * d.wsamples then 0
  else if reng < ceng ∧ reng * 1000 < ceng * 398 then 0
  else if ceng < reng ∧ ceng * 1000 < reng * 158 then 0
  else if 4 * (reng + ceng) < d.totenergy then 0
  else (cmax.map fun c => (freq2digits.getD (rmax.getD 0) []).getD c 0).getD 0

/-- `goertzel_energies_digit` -/
def ToneDetector.energiesDigit (d : ToneDetector R) : ToneDetector R :=
  { d with
    toDigitSlots := (d.toDigitSlots.window d.digit).1
    energies := d.energies.map fun e => { e with s1 := 0, s2 := 0 }
    totenergy := 0 }

/-- `goertzel_sample`, and the end of a window. -/
def ToneDetector.sample (d : ToneDetector R) (sample : Int) : ToneDetector R :=
  let d := { d with
    energies := d.energies.map fun e => { e with s1 := e.s2, s2 := sample + e.coef * e.s2 - e.s1 }
    totenergy := d.totenergy + (sample * sample : Int)
    nsamples := d.nsamples + 1 }
  if d.wsamples ≤ d.nsamples then { d.energiesDigit with nsamples := 0 } else d

structure ToneFrame where
  event : Option UInt8 := none
  start : Bool := false
  audio : Bool := true
  samples : List Int := []

/-- `mpf_dtmf_detector_get_frame` -/
def ToneDetector.getFrame (d : ToneDetector R) (frame : ToneFrame) : ToneDetector R :=
  match d.outband && frame.start, frame.event.filter (· ≤ dtmfEventIdMax) with
  | true, some event => { d with inband := false, toDigitSlots := d.toDigitSlots.addDigit (eventIdToDtmfChar event) }
  | _, _ => if d.inband && frame.audio then frame.samples.foldl ToneDetector.sample d else d

/-- `mpf_dtmf_detector_reset` -/
def ToneDetector.reset (d : ToneDetector R) : ToneDetector R :=
  { d with toDigitSlots := {}, nsamples := 0, totenergy := 0 }

/-- `mpf_dtmf_detector_create_ex`, with the coefficients of the filters. -/
def toneDetectorCreate (inband outband : Bool) (coefs : List R) (wsamples : Nat) : ToneDetector R :=
  ⟨{}, inband, outband, coefs.map fun coef => ⟨coef, 0, 0⟩, 0, wsamples, 0⟩

inductive ToneInput where
  | frame (frame : ToneFrame)
  | get

def ToneDetector.hear (d : ToneDetector R) : ToneInput → ToneDetector R
  | .frame frame => d.getFrame frame
  | .get => { d with toDigitSlots := d.toDigitSlots.digitGet.1 }

def ToneDetector.AtRest (d : ToneDetector R) : Prop := ∀ e ∈ d.energies, e.s1 = 0 ∧ e.s2 = 0

/-- The detector was created so, and its filters have something within a window only. -/
structure ToneDetector.Of (outband : Bool) (coefs : List R) (wsamples : Nat) (d : ToneDetector R) : Prop where
  outband : d.outband = outband
  coefs : d.energies.map (·.coef) = coefs
  wsamples : d.wsamples = wsamples
  rest : d.nsamples = 0 → d.AtRest

variable {outband : Bool} {coefs : List R} {wsamples : Nat} {d : ToneDetector R}

theorem ToneDetector.Of.sample (h : d.Of outband coefs wsamples) (sample : Int) :
    (d.sample sample).Of outband coefs wsamples := by
  unfold ToneDetector.sample ToneDetector.energiesDigit
  dsimp only
  split_ifs
  · refine ⟨h.outband, ?_, h.wsamples, fun _ e he => ?_⟩
    · rw [map_map, map_map]
      exact h.coefs
    · obtain ⟨e, -, rfl⟩ := mem_map.1 he
      exact ⟨rfl, rfl⟩
  · exact ⟨h.outband, by rw [map_map]; exact h.coefs, h.wsamples, nofun⟩

theorem ToneDetector.Of.samples (h : d.Of outband coefs wsamples) (samples : List Int) :
    (samples.foldl ToneDetector.sample d).Of outband coefs wsamples := by
  induction samples generalizing d with
  | nil => exact h
  | cons sample samples ih => exact ih (h.sample sample)

theorem ToneDetector.Of.getFrame (h : d.Of outband coefs wsamples) (frame : ToneFrame) :
    (d.getFrame frame).Of outband coefs wsamples := by
  unfold ToneDetector.getFrame
  split
  · exact ⟨h.outband, h.coefs, h.wsamples, h.rest⟩
  · split_ifs
    · exact h.samples _
    · exact h

theorem ToneDetector.Of.hear (h : d.Of outband coefs wsamples) (is : List ToneInput) :
    (is.foldl ToneDetector.hear d).Of outband coefs wsamples := by
  induction is generalizing d with
  | nil => exact h
  | cons i is ih =>
    cases i with
    | frame frame => exact ih (h.getFrame frame)
    | get => exact ih (d := d.hear .get) ⟨h.outband, h.coefs, h.wsamples, h.rest⟩

omit [LinearOrder R] in
theorem ToneDetector.Of.reset (h : d.Of outband coefs wsamples) (hrest : d.AtRest) :
    d.reset = toneDetectorCreate d.inband outband coefs wsamples := by
  have he : coefs.map (fun coef => ⟨coef, 0, 0⟩) = d.energies := by
    rw [← h.coefs, map_map]
    refine (map_congr_left fun e he => ?_).trans (map_id _)
    obtain ⟨h1, h2⟩ := hrest e he
    exact congrArg₂ (GoertzelState.mk e.coef) h1.symm h2.symm
  unfold ToneDetector.reset toneDetectorCreate
  rw [he, h.outband, h.wsamples]

theorem samples_inband (samples : List Int) : (samples.foldl ToneDetector.sample d).inband = d.inband := by
  induction samples generalizing d with
  | nil => rfl
  | cons sample samples ih =>
    refine ih.trans ?_
    unfold ToneDetector.sample ToneDetector.energiesDigit
    dsimp only
    split_ifs <;> rfl

theorem frames_samples {frames : List ToneFrame} (h : ∀ frame ∈ frames, frame.event = none ∧ frame.audio) :
    frames.foldl ToneDetector.getFrame d =
      if d.inband then (frames.flatMap (·.samples)).foldl ToneDetector.sample d else d := by
  induction frames generalizing d with
  | nil => split_ifs <;> rfl
  | cons frame frames ih =>
    obtain ⟨he, ha⟩ := h frame mem_cons_self
    have hf : d.getFrame frame = if d.inband then frame.samples.foldl ToneDetector.sample d else d := by
      simp [ToneDetector.getFrame, he, ha]
    rw [foldl_cons, ih fun frame hm => h frame (mem_cons_of_mem _ hm), hf, flatMap_cons, foldl_append]
    split_ifs with hin hin' <;> simp_all [samples_inband]

/-- **A detector that is reset while its filters are at rest is like a new one**, if no event has turned it off, and audio
frames can be cut in any way. -/
theorem reset_like_new (inband outband : Bool) (coefs : List R) (wsamples : Nat) (is : List ToneInput)
    (hrest : (is.foldl ToneDetector.hear (toneDetectorCreate inband outband coefs wsamples)).AtRest)
    (hin : (is.foldl ToneDetector.hear (toneDetectorCreate inband outband coefs wsamples)).inband = inband) :
    (is.foldl ToneDetector.hear (toneDetectorCreate inband outband coefs wsamples)).reset =
        toneDetectorCreate inband outband coefs wsamples ∧
      ∀ (d : ToneDetector R) (frames frames' : List ToneFrame),
        (∀ frame ∈ frames, frame.event = none ∧ frame.audio) →
        (∀ frame ∈ frames', frame.event = none ∧ frame.audio) →
        frames.flatMap (·.samples) = frames'.flatMap (·.samples) →
        frames.foldl ToneDetector.getFrame d = frames'.foldl ToneDetector.getFrame d := by
  have hnew : (toneDetectorCreate inband outband coefs wsamples).Of outband coefs wsamples := by
    refine ⟨rfl, ?_, rfl, fun _ e he => ?_⟩
    · exact (map_map ..).trans (map_id _)
    · obtain ⟨coef, -, rfl⟩ := mem_map.1 he
      exact ⟨rfl, rfl⟩
  refine ⟨?_, fun d frames frames' h h' heq => ?_⟩
  · rw [(hnew.hear is).reset hrest, hin]
  · rw [frames_samples h, frames_samples h', heq]

/-- Silence leaves the filters at rest, at any place of a window. -/
theorem reset_like_new_silence :
    ((toneDetectorCreate true false (replicate 8 (0 : Int)) 102).hear (.frame ⟨none, false, true, [0, 0, 0]⟩)).reset =
      toneDetectorCreate true false (replicate 8 0) 102 :=
  (reset_like_new true false (replicate 8 0) 102 [.frame ⟨none, false, true, [0, 0, 0]⟩] (by unfold ToneDetector.AtRest; decide) rfl).1

end Samples

def toneFrame (start length : Nat) : ToneFrame :=
  { samples := (range' start length).map fun k => if k % 4 < 2 then 4000 else -4000 }

/-- A tone is reported by a new detector, and not by one that was reset amid the tone. -/
theorem reset_remembers :
    ((toneDetectorCreate true false (replicate 8 (0 : Int)) 102).getFrame (toneFrame 0 306)).buf = [0x31] ∧
      (((toneDetectorCreate true false (replicate 8 (0 : Int)) 102).getFrame (toneFrame 0 50)).reset.getFrame
        (toneFrame 0 306)).buf = [] := by
  decide +kernel

end UniMrcp.Mpf
