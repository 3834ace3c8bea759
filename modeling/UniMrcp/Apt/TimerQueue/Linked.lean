import Mathlib.Data.List.Nodup
import Mathlib.Data.List.Perm.Basic
import UniMrcp.Apt.TimerQueue

/-!
# The timer queue and its observer

`Linked R q l`: the ring of `q` holds the timers that are armed by what was seen of the queue, each once, and each
timer's wait is related to its scheduled time by `R`.
-/

namespace UniMrcp.Apt

open Lib List Function Timeline

variable {τ : Type}

abbrev WaitRel := Nat → Nat → Nat → Bool → Wait → Prop

/-- The ring holds the armed timers, each once, and `R` relates the wait of each to its scheduled time. -/
structure Linked (R : WaitRel) (q : TimerQueue τ) (l : Timeline τ) : Prop where
  nodup : q.ring.Nodup
  armed : ∀ t, t ∈ q.ring ↔ ∃ w, l.pending t = some w
  idle : ∀ t, t ∉ q.ring → q.scheduledTime t = 0
  timed : ∀ t w, l.pending t = some w →
    R l.clock (q.scheduledTime t).toNat q.elapsedTime.toNat q.reset w

def Sorted (q : TimerQueue τ) : Prop := q.ring.Pairwise fun a b => q.scheduledTime a ≤ q.scheduledTime b

theorem linked_create (R : WaitRel) (proc : τ → Bool) : Linked R (timerQueueCreate proc) start := by
  constructor <;> simp [timerQueueCreate, start]

theorem Linked.mem_of_pending {R : WaitRel} {q : TimerQueue τ} {l : Timeline τ} (h : Linked R q l) {t : τ} {w : Wait}
    (hw : l.pending t = some w) : t ∈ q.ring :=
  (h.armed t).2 ⟨w, hw⟩

theorem Linked.mono {R S : WaitRel} {q : TimerQueue τ} {l : Timeline τ} (h : Linked R q l)
    (hRS : ∀ t w, l.pending t = some w → t ∈ q.ring →
      R l.clock (q.scheduledTime t).toNat q.elapsedTime.toNat q.reset w →
      S l.clock (q.scheduledTime t).toNat q.elapsedTime.toNat q.reset w) : Linked S q l :=
  ⟨h.nodup, h.armed, h.idle, fun t w hw => hRS t w hw (h.mem_of_pending hw) (h.timed t w hw)⟩

theorem elapsed?_eq_some {q : TimerQueue τ} {t : τ} (h : q.elapsed? = some t) :
    t ∈ q.ring ∧ q.scheduledTime t ≤ q.elapsedTime := by
  unfold TimerQueue.elapsed? at h
  cases hr : q.ring with
  | nil => simp [hr] at h
  | cons u r =>
    simp only [hr] at h
    split at h
    · simp at h
    · rename_i hle
      simp only [Option.some.injEq] at h
      subst h
      exact ⟨mem_cons_self, UInt32.not_lt.1 hle⟩

theorem ringInsert_perm (f : τ → UInt32) (t : τ) (r : List τ) : (ringInsert f t r).Perm (t :: r) := by
  induction r with
  | nil => exact List.Perm.refl _
  | cons it rest ih =>
    unfold ringInsert
    split
    · exact List.Perm.refl _
    · exact (ih.cons it).trans (List.Perm.swap t it rest)

theorem ringInsert_sorted {f : τ → UInt32} {t : τ} {r : List τ} (h : r.Pairwise fun a b => f b ≤ f a) :
    (ringInsert f t r).Pairwise fun a b => f b ≤ f a := by
  induction r with
  | nil => simp [ringInsert]
  | cons it rest ih =>
    obtain ⟨hi, hr⟩ := pairwise_cons.1 h
    unfold ringInsert
    split
    · rename_i hle
      refine pairwise_cons.2 ⟨?_, h⟩
      intro u hu
      rcases mem_cons.1 hu with rfl | hu
      · exact hle
      · exact UInt32.le_trans (hi u hu) hle
    · rename_i hle
      refine pairwise_cons.2 ⟨?_, ih hr⟩
      intro u hu
      rcases mem_cons.1 ((ringInsert_perm f t rest).mem_iff.1 hu) with rfl | hu
      · exact UInt32.le_of_lt (UInt32.not_le.1 hle)
      · exact hi u hu

theorem timerQueueTimeoutGet_fst (q : TimerQueue τ) : (timerQueueTimeoutGet q).1 = { q with reset := false } := by
  unfold timerQueueTimeoutGet
  split <;> rfl

/-! ## Removing a timer -/

variable [DecidableEq τ]

@[simp] theorem unlink_ring (q : TimerQueue τ) (t : τ) : (q.unlink t).ring = q.ring.erase t := rfl
@[simp] theorem unlink_scheduledTime (q : TimerQueue τ) (t : τ) :
    (q.unlink t).scheduledTime = Function.update q.scheduledTime t 0 := rfl
@[simp] theorem unlink_elapsedTime (q : TimerQueue τ) (t : τ) : (q.unlink t).elapsedTime = q.elapsedTime := rfl
@[simp] theorem unlink_reset (q : TimerQueue τ) (t : τ) : (q.unlink t).reset = q.reset := rfl

@[simp] theorem timerRemove_ring (q : TimerQueue τ) (t : τ) : (timerRemove q t).ring = q.ring.erase t := by
  unfold timerRemove
  dsimp only
  split <;> rfl

@[simp] theorem timerRemove_scheduledTime (q : TimerQueue τ) (t : τ) :
    (timerRemove q t).scheduledTime = Function.update q.scheduledTime t 0 := by
  unfold timerRemove
  dsimp only
  split <;> rfl

theorem timerRemove_of_ne_nil {q : TimerQueue τ} {t : τ} (h : q.ring.erase t ≠ []) : timerRemove q t = q.unlink t :=
  if_neg h

theorem unlink_linked {R : WaitRel} {q : TimerQueue τ} {l : Timeline τ} (h : Linked R q l) (t : τ) :
    Linked R (q.unlink t) { l with pending := Function.update l.pending t none } := by
  refine ⟨h.nodup.erase t, ?_, ?_, ?_⟩
  · intro u
    by_cases hu : u = t
    · subst hu
      simp [h.nodup.mem_erase_iff]
    · simp [h.nodup.mem_erase_iff, hu, h.armed u]
  · intro u hu
    by_cases ht : u = t
    · simp [ht]
    · have hr : u ∉ q.ring := fun hm => hu (h.nodup.mem_erase_iff.2 ⟨ht, hm⟩)
      simp [ht, h.idle u hr]
  · intro u w hw
    have ht : u ≠ t := by
      intro ht
      simp [ht] at hw
    simp only [update_of_ne ht] at hw
    simpa [ht] using h.timed u w hw

/-- A command on the timer `t` finds its scheduled time in order: a timer in the ring has one. -/
def InOrder (q : TimerQueue τ) (t : τ) : Prop := t ∈ q.ring → q.scheduledTime t ≠ 0

instance (q : TimerQueue τ) (t : τ) : Decidable (InOrder q t) := inferInstanceAs (Decidable (_ → _))

theorem timerRelease_ring {q : TimerQueue τ} {t : τ} (ht : InOrder q t) : (timerRelease q t).ring = q.ring.erase t := by
  unfold timerRelease
  split
  · simp
  · rename_i h0
    have hr : t ∉ q.ring := fun hm => h0 (ht hm)
    exact (erase_of_not_mem hr).symm

theorem timerRelease_of_mem {q : TimerQueue τ} {t u : τ} (hu : u ∈ (timerRelease q t).ring) :
    (timerRelease q t).elapsedTime = q.elapsedTime ∧ (timerRelease q t).reset = q.reset := by
  unfold timerRelease at hu ⊢
  split
  · rename_i h0
    rw [if_pos h0, timerRemove_ring] at hu
    rw [timerRemove_of_ne_nil (ne_nil_of_mem hu)]
    exact ⟨rfl, rfl⟩
  · exact ⟨rfl, rfl⟩

@[simp] theorem timerRelease_scheduledTime (q : TimerQueue τ) (t : τ) :
    (timerRelease q t).scheduledTime = Function.update q.scheduledTime t 0 := by
  unfold timerRelease
  split
  · simp
  · rename_i h0
    simp only [ne_eq, not_not] at h0
    rw [← h0, update_eq_self]

theorem timerRelease_linked {R : WaitRel} {q : TimerQueue τ} {l : Timeline τ} (h : Linked R q l) {t : τ}
    (ht : InOrder q t) : Linked R (timerRelease q t) { l with pending := Function.update l.pending t none } := by
  have hn := timerRelease_ring ht
  obtain ⟨hd, ha, hi, hm⟩ := unlink_linked h t
  refine ⟨by rw [hn]; exact hd, by rw [hn]; exact ha, ?_, ?_⟩
  · rw [hn, timerRelease_scheduledTime]
    exact hi
  · intro u w hw
    have hu : u ∈ (timerRelease q t).ring := by
      rw [hn]
      exact (ha u).2 ⟨w, hw⟩
    obtain ⟨he, hr⟩ := timerRelease_of_mem hu
    rw [he, hr, timerRelease_scheduledTime]
    exact hm u w hw

theorem timerKill_fst (q : TimerQueue τ) (t : τ) : (timerKill q t).1 = timerRelease q t := by
  unfold timerKill timerRelease
  by_cases h : q.scheduledTime t = 0 <;> simp [h]

theorem timerSchedule_ring_perm (q : TimerQueue τ) (t : τ) (n : UInt32) :
    (timerSchedule q t n).ring.Perm (t :: q.ring) := by
  unfold timerSchedule
  dsimp only
  split
  · rename_i h
    rw [h]
  · exact (reverse_perm _).trans ((ringInsert_perm _ t _).trans ((reverse_perm _).cons t))

@[simp] theorem timerSchedule_scheduledTime (q : TimerQueue τ) (t : τ) (n : UInt32) :
    (timerSchedule q t n).scheduledTime = Function.update q.scheduledTime t (q.elapsedTime + n) := by
  unfold timerSchedule
  dsimp only
  split <;> rfl

@[simp] theorem timerSchedule_elapsedTime (q : TimerQueue τ) (t : τ) (n : UInt32) :
    (timerSchedule q t n).elapsedTime = q.elapsedTime := by
  unfold timerSchedule
  dsimp only
  split <;> rfl

@[simp] theorem timerSchedule_reset (q : TimerQueue τ) (t : τ) (n : UInt32) :
    (timerSchedule q t n).reset = q.reset := by
  unfold timerSchedule
  dsimp only
  split <;> rfl

theorem timerSchedule_linked {R : WaitRel} {q : TimerQueue τ} {l : Timeline τ} (h : Linked R q l) {t : τ}
    {n : UInt32} {w : Wait} (ht : t ∉ q.ring) (hn : q.elapsedTime.toNat + n.toNat < 2 ^ 32)
    (hR : R l.clock (q.elapsedTime.toNat + n.toNat) q.elapsedTime.toNat q.reset w) :
    Linked R (timerSchedule q t n) { l with pending := Function.update l.pending t (some w) } := by
  have hp := timerSchedule_ring_perm q t n
  have hd : (t :: q.ring).Nodup := nodup_cons.2 ⟨ht, h.nodup⟩
  refine ⟨hp.nodup_iff.2 hd, ?_, ?_, ?_⟩
  · intro u
    rw [hp.mem_iff]
    by_cases hu : u = t
    · simp [hu]
    · simp [hu, h.armed u]
  · intro u hu
    rw [hp.mem_iff, mem_cons, not_or] at hu
    simp [hu.1, h.idle u hu.2]
  · intro u w' hw
    by_cases hu : u = t
    · subst hu
      simp only [update_self, Option.some.injEq] at hw
      subst hw
      have htn : (q.elapsedTime + n).toNat = q.elapsedTime.toNat + n.toNat := by
        rw [UInt32.toNat_add, Nat.mod_eq_of_lt hn]
      simpa [htn] using hR
    · simp only [update_of_ne hu] at hw
      simpa [hu] using h.timed u w' hw

/-- A command that finds the scheduled time of its timer in order, and does not set one past the end of the
32-bit times. -/
def TimerCmdOk (q : TimerQueue τ) : TimerCmd τ → Prop
  | .set t n => n ≠ 0 → q.proc t →
    InOrder q t ∧ (timerRelease q t).elapsedTime.toNat + n.toNat < 2 ^ 32
  | .kill t => InOrder q t
  | .pass _ => True

instance (q : TimerQueue τ) : ∀ c, Decidable (TimerCmdOk q c)
  | .set _ _ => inferInstanceAs (Decidable (_ → _ → _))
  | .kill t => inferInstanceAs (Decidable (InOrder q t))
  | .pass _ => isTrue trivial

/-- A timer that is set has a wait that meets `R`, and `R` survives the passing of time. -/
def TimerCmdFits (R : WaitRel) (q : TimerQueue τ) (l : Timeline τ) : TimerCmd τ → Prop
  | .set t n => n ≠ 0 → q.proc t → R l.clock ((timerRelease q t).elapsedTime.toNat + n.toNat)
      (timerRelease q t).elapsedTime.toNat (timerRelease q t).reset ⟨n.toNat, 0, 0, l.clock, true⟩
  | .kill _ => True
  | .pass us => ∀ s e b w, R l.clock s e b w → R (l.clock + us) s e b w

theorem timerCmdStep_shown {R : WaitRel} {P : Timeline τ → Wait → Prop} {q : TimerQueue τ} {l : Timeline τ}
    (h : Linked R q l) (c : TimerCmd τ) (hk : TimerCmdOk q c) (hf : TimerCmdFits R q l c) :
    Shown observe (Linked R) (FiresWhen P) l (timerCmdStep q c).1 (timerCmdStep q c).2 := by
  cases c with
  | pass us =>
    refine shown_cons trivial (shown_nil ?_)
    exact ⟨h.nodup, h.armed, h.idle, fun t w hw => hf _ _ _ _ (h.timed t w hw)⟩
  | kill t =>
    refine shown_cons trivial (shown_nil ?_)
    simp only [timerCmdStep, timerKill_fst]
    exact timerRelease_linked h hk
  | set t n =>
    by_cases ha : n = 0 ∨ q.proc t = false
    · have hs : timerSet q t n = (q, false) := if_pos ha
      simp only [timerCmdStep, hs]
      exact shown_nil h
    · have hs : timerSet q t n = (timerSchedule (timerRelease q t) t n, true) := if_neg ha
      obtain ⟨hn, hp⟩ := not_or.1 ha
      have hp : q.proc t := by simpa using hp
      obtain ⟨ho, hlt⟩ := hk hn hp
      have hr := timerRelease_linked h ho
      have hm : t ∉ (timerRelease q t).ring := by
        rw [timerRelease_ring ho]
        exact h.nodup.not_mem_erase
      have hc := timerSchedule_linked hr (w := ⟨n.toNat, 0, 0, l.clock, true⟩) hm hlt (hf hn hp)
      rw [update_idem] at hc
      simp only [timerCmdStep, hs]
      exact shown_cons trivial (shown_nil hc)

/-! ## Callbacks -/

/-- The callback of the next timer, if its time has elapsed, gives its commands in order, and each fits. -/
def TimerProcOk (q : TimerQueue τ) (proc : τ → List (TimerCmd τ)) : Prop :=
  match q.elapsed? with
  | none => True
  | some t => EachStep timerCmdStep TimerCmdOk (q.unlink t) (proc t)

instance (q : TimerQueue τ) (proc : τ → List (TimerCmd τ)) : Decidable (TimerProcOk q proc) := by
  unfold TimerProcOk
  cases q.elapsed? with
  | none => exact isTrue trivial
  | some t => exact EachStep.decidable _ _ _ _

structure Lasting (R : WaitRel) (I : TimerQueue τ → Prop) : Prop where
  fits : ∀ (q : TimerQueue τ) (l : Timeline τ) (c : TimerCmd τ), TimerCmdFits R q l c
  cmd : ∀ (q : TimerQueue τ) (l : Timeline τ) (c : TimerCmd τ),
    Linked R q l → I q → TimerCmdOk q c → I (timerCmdStep q c).1
  unlink : ∀ (q : TimerQueue τ) (l : Timeline τ) (t : τ), Linked R q l → I q → I (q.unlink t)

variable {R : WaitRel} {I : TimerQueue τ → Prop} {P : Timeline τ → Wait → Prop}

theorem timerCmds_shown (hR : Lasting R I) {q : TimerQueue τ} {l : Timeline τ} (h : Linked R q l ∧ I q)
    (cmds : List (TimerCmd τ)) (ho : EachStep timerCmdStep TimerCmdOk q cmds) :
    Shown observe (fun q l => Linked R q l ∧ I q) (FiresWhen P) l (timerCmds q cmds).1
      (timerCmds q cmds).2 := by
  refine run_watched (fun q l => Linked R q l ∧ I q) TimerCmdOk (FiresWhen P) ?_ h ho
  intro q l c h ho
  exact (timerCmdStep_shown h.1 c ho (hR.fits q l c)).mono fun _ hl => ⟨hl, hR.cmd q l c h.1 h.2 ho⟩

theorem timerProcess_shown (hR : Lasting R I) (hP : ∀ (l : Timeline τ) s e b w, R l.clock s e b w → s ≤ e → P l w)
    {q : TimerQueue τ} {l : Timeline τ} (h : Linked R q l ∧ I q) (proc : τ → List (TimerCmd τ))
    (ho : TimerProcOk q proc) :
    Shown observe (fun q l => Linked R q l ∧ I q) (FiresWhen P) l (timerProcess q proc).1
      (timerProcess q proc).2 := by
  unfold timerProcess
  unfold TimerProcOk at ho
  cases ht : q.elapsed? with
  | none => exact shown_nil h
  | some t =>
    simp only [ht] at ho
    obtain ⟨hm, hle⟩ := elapsed?_eq_some ht
    obtain ⟨w, hw⟩ := (h.1.armed t).1 hm
    have hf : FiresWhen P l (.fire t) :=
      ⟨w, hw, hP l _ _ _ w (h.1.timed t w hw) (UInt32.le_iff_toNat_le.1 hle)⟩
    exact shown_cons hf (timerCmds_shown hR ⟨unlink_linked h.1 t, hR.unlink q l t h.1 h.2⟩ (proc t) ho)

theorem run_timerProcess_of_none {q : TimerQueue τ} (h : q.elapsed? = none)
    (procs : List (τ → List (TimerCmd τ))) : (run timerProcess q procs).1 = q := by
  induction procs with
  | nil => rfl
  | cons proc procs ih =>
    have hs : timerProcess q proc = (q, []) := by simp [timerProcess, h]
    rw [run_cons, hs]
    exact ih

theorem run_timerProcess_quiet (n : Nat) (q : TimerQueue τ) (hn : q.ring.length ≤ n) :
    (run timerProcess q (List.replicate n fun _ => [])).1.elapsed? = none := by
  induction n generalizing q with
  | zero =>
    have hr : q.ring = [] := length_eq_zero_iff.1 (Nat.le_zero.1 hn)
    simp [TimerQueue.elapsed?, hr]
  | succ n ih =>
    cases ht : q.elapsed? with
    | none =>
      rw [run_timerProcess_of_none ht]
      exact ht
    | some t =>
      have hs : (timerProcess q fun _ => []).1 = q.unlink t := by simp [timerProcess, ht, timerCmds]
      rw [replicate_succ, run_cons, hs]
      apply ih
      rw [unlink_ring, length_erase_of_mem (elapsed?_eq_some ht).1]
      omega

theorem eachStep_quiet (n : Nat) (q : TimerQueue τ) :
    EachStep timerProcess TimerProcOk q (List.replicate n fun _ => []) := by
  induction n generalizing q with
  | zero => trivial
  | succ n ih =>
    refine ⟨?_, ih _⟩
    unfold TimerProcOk
    cases q.elapsed? with
    | none => trivial
    | some t => trivial

theorem timersLoop_not_elapsed (q : TimerQueue τ) (procs : List (τ → List (TimerCmd τ))) :
    (timersLoop q procs).1.elapsed? = none :=
  run_timerProcess_quiet _ _ (Nat.le_refl _)

theorem timersLoop_shown (hR : Lasting R I) (hP : ∀ (l : Timeline τ) s e b w, R l.clock s e b w → s ≤ e → P l w)
    {q : TimerQueue τ} {l : Timeline τ} (h : Linked R q l ∧ I q) (procs : List (τ → List (TimerCmd τ)))
    (ho : EachStep timerProcess TimerProcOk q procs) :
    Shown observe (fun q l => Linked R q l ∧ I q) (FiresWhen P) l (timersLoop q procs).1
      (timersLoop q procs).2 := by
  have keep := fun q l proc (h : Linked R q l ∧ I q) ho => timerProcess_shown hR hP h proc ho
  have hp := run_watched (fun q l => Linked R q l ∧ I q) TimerProcOk (FiresWhen P) keep h ho
  exact shown_append hp
    (run_watched (fun q l => Linked R q l ∧ I q) TimerProcOk (FiresWhen P) keep hp.1 (eachStep_quiet _ _))

theorem linked_wait {S : WaitRel} {q q' : TimerQueue τ} {l : Timeline τ} (h : Linked R q l)
    (hq : q' = { q with reset := q'.reset })
    (hS : ∀ s e w, R l.clock s e q.reset w → S l.clock s e q'.reset { w with fresh := false }) :
    Linked S q' (l.observe .wait).1 := by
  rw [hq]
  refine ⟨h.nodup, ?_, h.idle, ?_⟩
  · intro t
    simp [observe, h.armed t]
  · intro t w hw
    simp only [observe, Option.map_eq_some_iff] at hw
    obtain ⟨w', hw', rfl⟩ := hw
    exact hS _ _ _ (h.timed t w' hw')

@[simp] theorem timerQueueElapse_ring (q : TimerQueue τ) (d : UInt32) : (timerQueueElapse q d).ring = q.ring := by
  unfold timerQueueElapse
  dsimp only
  split <;> rfl

@[simp] theorem timerQueueElapse_reset (q : TimerQueue τ) (d : UInt32) :
    (timerQueueElapse q d).reset = q.reset := by
  unfold timerQueueElapse
  dsimp only
  split <;> rfl

theorem timerQueueElapse_cases (q : TimerQueue τ) (d : UInt32) :
    (q.elapsedTime + d < 0xFFFF ∧ (timerQueueElapse q d).elapsedTime = q.elapsedTime + d ∧
      (timerQueueElapse q d).scheduledTime = q.scheduledTime) ∨
    (0xFFFF ≤ q.elapsedTime + d ∧ (timerQueueElapse q d).elapsedTime = 0 ∧
      (∀ t ∈ q.ring, (timerQueueElapse q d).scheduledTime t = q.scheduledTime t - (q.elapsedTime + d)) ∧
      ∀ t ∉ q.ring, (timerQueueElapse q d).scheduledTime t = q.scheduledTime t) := by
  unfold timerQueueElapse
  by_cases h : 0xFFFF ≤ q.elapsedTime + d
  · right
    rw [if_pos h]
    refine ⟨h, rfl, ?_, ?_⟩ <;> intro t ht <;> simp [timersReschedule, ht]
  · left
    rw [if_neg h]
    exact ⟨UInt32.not_le.1 h, rfl, rfl⟩

theorem timerQueueElapse_idle {q : TimerQueue τ} {d : UInt32} {t : τ} (ht : t ∉ q.ring) :
    (timerQueueElapse q d).scheduledTime t = q.scheduledTime t := by
  obtain ⟨-, -, hs⟩ | ⟨-, -, -, hs⟩ := timerQueueElapse_cases q d
  · rw [hs]
  · exact hs t ht

theorem timerQueueElapse_linked {S : WaitRel} {q : TimerQueue τ} {l : Timeline τ} {d : UInt32} (h : Linked R q l)
    (hS : ∀ t w, l.pending t = some w → S l.clock ((timerQueueElapse q d).scheduledTime t).toNat
      (timerQueueElapse q d).elapsedTime.toNat q.reset (w.longer d.toNat)) :
    Linked S (timerQueueElapse q d) (l.observe (.elapse d.toNat)).1 := by
  refine ⟨by simpa using h.nodup, ?_, ?_, ?_⟩
  · intro t
    simp [observe, h.armed t]
  · intro t ht
    rw [timerQueueElapse_ring] at ht
    rw [timerQueueElapse_idle ht, h.idle t ht]
  · intro t w hw
    simp only [observe, Option.map_eq_some_iff] at hw
    obtain ⟨w', hw', rfl⟩ := hw
    rw [timerQueueElapse_reset]
    exact hS t w' hw'

end UniMrcp.Apt
