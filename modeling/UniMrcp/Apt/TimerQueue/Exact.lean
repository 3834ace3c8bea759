import UniMrcp.Apt.TimerQueue.Linked

/-!
# A timer queue that counts exactly

As long as nothing sends the queue astray, the time left to each timer is the rest of its wait, and the ring is
sorted. A property `X` of the reset flag and the wait can be kept along.
-/

namespace UniMrcp.Apt

open Lib List

variable {τ : Type} {X : Bool → Wait → Prop}

/-! ## Inside a call and between calls -/

def Exact (X : Bool → Wait → Prop) (_ s e : Nat) (reset : Bool) (w : Wait) : Prop :=
  s + w.waited = e + w.timeout ∧ X reset w

/-- The property `X` holds of a timer that has just been set. -/
def HoldsWhenSet (X : Bool → Wait → Prop) : Prop := ∀ reset n clock, 0 < n → X reset ⟨n, 0, 0, clock, true⟩

def Orderly (q : TimerQueue τ) : Prop := Sorted q ∧ q.elapsedTime < 0xFFFF

def Ahead (X : Bool → Wait → Prop) (c s e : Nat) (reset : Bool) (w : Wait) : Prop := e < s ∧ Exact X c s e reset w

def Settled (X : Bool → Wait → Prop) (q : TimerQueue τ) (l : Timeline τ) : Prop := Linked (Ahead X) q l ∧ Orderly q

theorem settled_create (X : Bool → Wait → Prop) (proc : τ → Bool) :
    Settled X (timerQueueCreate proc) Timeline.start := by
  refine ⟨linked_create (Ahead X) proc, ?_, ?_⟩
  · simp [Sorted, timerQueueCreate]
  · exact (by decide : (0 : UInt32) < 0xFFFF)

variable {q : TimerQueue τ} {l : Timeline τ} {t : τ}

theorem Settled.waiting (h : Settled X q l) {w : Wait} (hw : l.pending t = some w) : w.waited < w.timeout := by
  obtain ⟨hlt, he, -⟩ := h.1.timed t w hw
  omega

theorem Settled.later (h : Settled X q l) (ht : t ∈ q.ring) : q.elapsedTime < q.scheduledTime t := by
  obtain ⟨w, hw⟩ := (h.1.armed t).1 ht
  exact UInt32.lt_iff_toNat_lt.2 (h.1.timed t w hw).1

theorem Sorted.sublist (h : Sorted q) {r : List τ} (hr : r.Sublist q.ring) {f : τ → UInt32}
    (hf : ∀ t ∈ r, f t = q.scheduledTime t) : r.Pairwise fun a b => f a ≤ f b := by
  refine List.Pairwise.imp_of_mem ?_ (List.Pairwise.sublist hr h)
  intro a b ha hb hab
  rw [hf a ha, hf b hb]
  exact hab

theorem Sorted.later (hs : Sorted q) (h : q.elapsed? = none) : ∀ t ∈ q.ring, q.elapsedTime < q.scheduledTime t := by
  unfold TimerQueue.elapsed? at h
  unfold Sorted at hs
  cases hr : q.ring with
  | nil => simp
  | cons u r =>
    simp only [hr, ite_eq_left_iff, reduceCtorEq, imp_false, not_not] at h
    rw [hr, pairwise_cons] at hs
    intro t ht
    rcases mem_cons.1 ht with rfl | ht
    · exact h
    · exact UInt32.lt_of_lt_of_le h (hs.1 t ht)

variable {d : UInt32}

theorem elapse_toNat (he : q.elapsedTime < 0xFFFF) (hd : d.toNat + 0xFFFF ≤ 2 ^ 32) :
    (q.elapsedTime + d).toNat = q.elapsedTime.toNat + d.toNat := by
  have he' : q.elapsedTime.toNat < 0xFFFF := UInt32.lt_iff_toNat_lt.1 he
  rw [UInt32.toNat_add, Nat.mod_eq_of_lt (by omega)]

theorem toNat_pos {n : UInt32} (hn : n ≠ 0) : 0 < n.toNat :=
  Nat.pos_of_ne_zero fun e => hn (UInt32.toNat_inj.1 e)

variable [DecidableEq τ]

/-! ## The order of the ring -/

theorem unlink_sorted (hn : q.ring.Nodup) (h : Sorted q) (t : τ) : Sorted (q.unlink t) := by
  refine h.sublist erase_sublist ?_
  intro u hu
  have ht : u ≠ t := (hn.mem_erase_iff.1 hu).1
  simp [ht]

theorem timerRelease_orderly (hn : q.ring.Nodup) (h : Orderly q) (ht : InOrder q t) : Orderly (timerRelease q t) := by
  refine ⟨?_, ?_⟩
  · unfold Sorted
    rw [timerRelease_ring ht, timerRelease_scheduledTime]
    exact unlink_sorted hn h.1 t
  · unfold timerRelease timerRemove
    dsimp only
    split_ifs
    · exact (by decide : (0 : UInt32) < 0xFFFF)
    · exact h.2
    · exact h.2

theorem timerSchedule_sorted (h : Sorted q) (ht : t ∉ q.ring) (n : UInt32) : Sorted (timerSchedule q t n) := by
  have hf : ∀ u ∈ q.ring, Function.update q.scheduledTime t (q.elapsedTime + n) u = q.scheduledTime u := by
    intro u hu
    have hut : u ≠ t := fun e => ht (e ▸ hu)
    simp [hut]
  have hr := h.sublist (List.Sublist.refl _) hf
  unfold Sorted
  rw [timerSchedule_scheduledTime]
  unfold timerSchedule timerInsert
  dsimp only
  split
  · simp
  · rw [pairwise_reverse]
    exact ringInsert_sorted (pairwise_reverse.2 hr)

theorem timerSchedule_orderly (h : Orderly q) (ht : t ∉ q.ring) (n : UInt32) : Orderly (timerSchedule q t n) := by
  refine ⟨timerSchedule_sorted h.1 ht n, ?_⟩
  rw [timerSchedule_elapsedTime]
  exact h.2

theorem timerCmdStep_orderly (hd : q.ring.Nodup) (h : Orderly q) {c : TimerCmd τ} (hk : TimerCmdOk q c) :
    Orderly (timerCmdStep q c).1 := by
  cases c with
  | pass us => exact h
  | kill t =>
    simp only [timerCmdStep, timerKill_fst]
    exact timerRelease_orderly hd h hk
  | set t n =>
    simp only [timerCmdStep, timerSet]
    split
    · exact h
    · rename_i ha
      obtain ⟨hn, hp⟩ := not_or.1 ha
      obtain ⟨ho, -⟩ := hk hn (by simpa using hp)
      refine timerSchedule_orderly (timerRelease_orderly hd h ho) ?_ n
      rw [timerRelease_ring ho]
      exact hd.not_mem_erase

theorem exact_lasting (hX : HoldsWhenSet X) : Lasting (Exact X) (Orderly (τ := τ)) := by
  refine ⟨?_, ?_, ?_⟩
  · intro q l c
    cases c with
    | set t n => exact fun hn _ => ⟨rfl, hX _ _ _ (toNat_pos hn)⟩
    | kill t => trivial
    | pass us => exact fun _ _ _ _ h => h
  · exact fun q l c h hI ho => timerCmdStep_orderly h.nodup hI ho
  · exact fun q l t h hI => ⟨unlink_sorted h.nodup hI.1 t, hI.2⟩

/-! ## Waits -/

theorem timerQueueElapse_exact (h : Settled X q l) (hX : ∀ b w, X b w → w.waited < w.timeout → X b (w.longer d.toNat))
    (hd : d.toNat + 0xFFFF ≤ 2 ^ 32)
    (hla : 0xFFFF ≤ q.elapsedTime + d → ∀ t ∈ q.ring, q.elapsedTime + d ≤ q.scheduledTime t) :
    Linked (Exact X) (timerQueueElapse q d) (l.observe (.elapse d.toNat)).1 ∧ Orderly (timerQueueElapse q d) := by
  have hwt := fun t w (hw : l.pending t = some w) => h.waiting hw
  obtain ⟨hl, hs, he⟩ := h
  have had := elapse_toNat he hd
  obtain ⟨hlt, hm, hc⟩ | ⟨hge, hm, hc, -⟩ := timerQueueElapse_cases q d
  · refine ⟨timerQueueElapse_linked hl ?_, ?_, by rw [hm]; exact hlt⟩
    · intro t w hw
      obtain ⟨-, hex, hx⟩ := hl.timed t w hw
      rw [hc, hm, had]
      refine ⟨?_, hX _ _ hx (hwt t w hw)⟩
      simp only [Wait.longer]
      omega
    · unfold Sorted
      rw [timerQueueElapse_ring, hc]
      exact hs
  · have hla := hla hge
    have hsb : ∀ t ∈ q.ring, ((timerQueueElapse q d).scheduledTime t).toNat =
        (q.scheduledTime t).toNat - (q.elapsedTime.toNat + d.toNat) := by
      intro t ht
      rw [hc t ht, UInt32.toNat_sub_of_le _ _ (hla t ht), had]
    refine ⟨timerQueueElapse_linked hl ?_, ?_, by rw [hm]; decide⟩
    · intro t w hw
      obtain ⟨-, hex, hx⟩ := hl.timed t w hw
      have ht := hl.mem_of_pending hw
      have hle := UInt32.le_iff_toNat_le.1 (hla t ht)
      rw [hsb t ht, hm]
      refine ⟨?_, hX _ _ hx (hwt t w hw)⟩
      simp only [Wait.longer, UInt32.toNat_zero]
      omega
    · unfold Sorted
      rw [timerQueueElapse_ring]
      refine hs.imp_of_mem ?_
      intro a b ha hb hab
      rw [UInt32.le_iff_toNat_le] at hab ⊢
      rw [hsb a ha, hsb b hb]
      exact Nat.sub_le_sub_right hab _

variable {P : Timeline τ → Wait → Prop}

theorem timersLoop_settled (hX : HoldsWhenSet X) (hP : ∀ l b w, X b w → w.timeout ≤ w.waited → P l w)
    (h : Linked (Exact X) q l ∧ Orderly q) (procs : List (τ → List (TimerCmd τ)))
    (ho : EachStep timerProcess TimerProcOk q procs) :
    Shown Timeline.observe (Settled X) (FiresWhen P) l (timersLoop q procs).1 (timersLoop q procs).2 := by
  have hd : ∀ (l : Timeline τ) s e b w, Exact X l.clock s e b w → s ≤ e → P l w := by
    intro l s e b w hw hle
    obtain ⟨hex, hx⟩ := hw
    exact hP l b w hx (by omega)
  have hl := timersLoop_shown (exact_lasting hX) hd h procs ho
  have he := timersLoop_not_elapsed q procs
  refine hl.mono fun m hm => ⟨hm.1.mono ?_, hm.2⟩
  intro t w _ ht hw
  exact ⟨UInt32.lt_iff_toNat_lt.1 (hm.2.1.later he t ht), hw⟩

theorem timerCmdStep_settled (hX : HoldsWhenSet X) (h : Settled X q l) (c : TimerCmd τ) (ho : TimerCmdOk q c) :
    Shown Timeline.observe (Settled X) (FiresWhen P) l (timerCmdStep q c).1 (timerCmdStep q c).2 := by
  refine (timerCmdStep_shown h.1 c ho ?_).mono fun _ hl => ⟨hl, timerCmdStep_orderly h.1.nodup h.2 ho⟩
  cases c with
  | set t n =>
    intro hn _
    have hp := toNat_pos hn
    exact ⟨by omega, rfl, hX _ _ _ hp⟩
  | kill t => trivial
  | pass us => exact fun _ _ _ _ hw => hw

/-! ## No timer is lost or reordered -/

/-- The state of the queue between two calls, as its callers see it. -/
structure Kept (q : TimerQueue τ) (l : Timeline τ) : Prop where
  sorted : Sorted q
  nodup : q.ring.Nodup
  armed : ∀ t, t ∈ q.ring ↔ ∃ w, l.pending t = some w
  later : ∀ t ∈ q.ring, q.elapsedTime < q.scheduledTime t
  waiting : ∀ t w, l.pending t = some w → w.waited < w.timeout

def FreshWhenReset (reset : Bool) (w : Wait) : Prop := reset = true → w.fresh

theorem freshWhenReset_set : HoldsWhenSet FreshWhenReset := fun _ _ _ _ _ => rfl

variable {q : TimerQueue τ} {l : Timeline τ}

theorem Settled.kept (h : Settled FreshWhenReset q l) : Kept q l :=
  ⟨h.2.1, h.1.nodup, h.1.armed, fun _ ht => h.later ht, fun _ _ hw => h.waiting hw⟩

variable [DecidableEq τ]

/-- A call that does not send the queue astray. Commands find the scheduled time of their timer in order and within 32
bits. A wait that is counted stays below 2^32, and when it reaches 0xFFFF no timer is scheduled before the new time. -/
def TimerOpOk (q : TimerQueue τ) : TimerOp τ → Prop
  | .cmd c => TimerCmdOk q c
  | .timeoutGet => True
  | .advance d procs => q.ring ≠ [] → q.reset = false →
    d.toNat + 0xFFFF ≤ 2 ^ 32 ∧
    (0xFFFF ≤ q.elapsedTime + d → ∀ t ∈ q.ring, q.elapsedTime + d ≤ q.scheduledTime t) ∧
    EachStep timerProcess TimerProcOk (timerQueueElapse q d) procs

instance (q : TimerQueue τ) : ∀ op, Decidable (TimerOpOk q op)
  | .cmd c => inferInstanceAs (Decidable (TimerCmdOk q c))
  | .timeoutGet => isTrue trivial
  | .advance _ _ => inferInstanceAs (Decidable (_ → _ → _ ∧ _ ∧ _))

theorem timerQueueAdvance_shown (h : Settled FreshWhenReset q l) (d : UInt32) (procs : List (τ → List (TimerCmd τ)))
    (ho : TimerOpOk q (.advance d procs)) :
    Shown Timeline.observe (Settled FreshWhenReset) (FiresWhen Punctual) l (timerQueueAdvance q d procs).1
      (timerQueueAdvance q d procs).2 := by
  unfold timerQueueAdvance
  split
  · exact shown_nil h
  rename_i hne
  cases hr : q.reset with
  | true =>
    -- the timers that are armed were set in this wait, and the observer does not count it for them either
    refine shown_cons trivial (shown_nil ?_)
    rw [Timeline.observe_skip_of_fresh fun t w hw => (h.1.timed t w hw).2.2 hr]
    exact h
  | false =>
    obtain ⟨hd, hl, hp⟩ := ho hne hr
    have he := timerQueueElapse_exact h (fun _ _ hx _ => hx) hd hl
    exact shown_cons trivial (timersLoop_settled freshWhenReset_set (fun _ _ _ _ hle => hle) he procs hp)

theorem timerQueueTimeoutGet_settled (h : Settled FreshWhenReset q l) :
    Settled FreshWhenReset (timerQueueTimeoutGet q).1 (l.observe .wait).1 := by
  rw [timerQueueTimeoutGet_fst]
  refine ⟨linked_wait h.1 rfl ?_, h.2⟩
  intro s e w hw
  obtain ⟨hlt, he, -⟩ := hw
  exact ⟨hlt, he, fun hr => absurd hr (by simp)⟩

theorem timerQueueStep_shown (h : Settled FreshWhenReset q l) (op : TimerOp τ) (ho : TimerOpOk q op) :
    Shown Timeline.observe (Settled FreshWhenReset) (FiresWhen Punctual) l (timerQueueStep q op).1
      (timerQueueStep q op).2 := by
  cases op with
  | cmd c => exact timerCmdStep_settled freshWhenReset_set h c ho
  | timeoutGet => exact shown_cons trivial (shown_nil (timerQueueTimeoutGet_settled h))
  | advance d procs => exact timerQueueAdvance_shown h d procs ho

/-- **No timer is lost or reordered.** In a run whose calls do not send the queue astray, a timer fires in the first
advance at which its timeout has gone by, and what the callers rely on holds of the state that is reached. -/
theorem timerQueue_kept (proc : τ → Bool) (ops : List (TimerOp τ))
    (h : EachStep timerQueueStep TimerOpOk (timerQueueCreate proc) ops) :
    EachStep Timeline.observe (FiresWhen Punctual) Timeline.start
      (run timerQueueStep (timerQueueCreate proc) ops).2.flatten ∧
    Kept (run timerQueueStep (timerQueueCreate proc) ops).1
      (Timeline.start.after (run timerQueueStep (timerQueueCreate proc) ops).2.flatten) := by
  have hrun := run_watched (Settled FreshWhenReset) TimerOpOk (FiresWhen Punctual)
    (fun _ _ op hs hok => timerQueueStep_shown hs op hok) (settled_create _ proc) h
  exact ⟨hrun.2, hrun.1.kept⟩

/-- A run over the threshold of 0xFFFF: a timer of 100 seconds fires in the second advance, and its callback sets
another one. -/
theorem timerQueue_kept_run :
    EachStep Timeline.observe (FiresWhen Punctual) Timeline.start
      (run timerQueueStep (timerQueueCreate fun _ => true)
        [.cmd (.set false 100000), .timeoutGet, .advance 65536 [], .timeoutGet,
          .advance 40000 [fun _ => [.set true 5]]]).2.flatten ∧
    Kept (run timerQueueStep (timerQueueCreate fun _ => true)
        [.cmd (.set false 100000), .timeoutGet, .advance 65536 [], .timeoutGet,
          .advance 40000 [fun _ => [.set true 5]]]).1
      (Timeline.start.after (run timerQueueStep (timerQueueCreate fun _ => true)
        [.cmd (.set false 100000), .timeoutGet, .advance 65536 [], .timeoutGet,
          .advance 40000 [fun _ => [.set true 5]]]).2.flatten) :=
  timerQueue_kept (fun _ => true) _ (by decide)

/-- An advance of 65536 finds one timer due at 65530 and one at 100000. The first is set back to 2^32 - 6 and does
not fire, and the ring is no longer sorted. -/
theorem timerQueue_timer_lost :
    (run timerQueueStep (timerQueueCreate fun _ => true)
        [.cmd (.set false 65530), .cmd (.set true 100000), .timeoutGet, .advance 65536 []]).2.flatten =
      [.set false 65530, .set true 100000, .wait, .elapse 65536] ∧
    (run timerQueueStep (timerQueueCreate fun _ => true)
        [.cmd (.set false 65530), .cmd (.set true 100000), .timeoutGet, .advance 65536 []]).1.scheduledTime false =
      4294967290 ∧
    ¬ Kept (run timerQueueStep (timerQueueCreate fun _ => true)
        [.cmd (.set false 65530), .cmd (.set true 100000), .timeoutGet, .advance 65536 []]).1
      (Timeline.start.after (run timerQueueStep (timerQueueCreate fun _ => true)
        [.cmd (.set false 65530), .cmd (.set true 100000), .timeoutGet, .advance 65536 []]).2.flatten) := by
  refine ⟨by decide, by decide, ?_⟩
  intro hk
  have hw := hk.waiting false ⟨65530, 65536, 1, 0, false⟩ (by decide)
  exact absurd hw (by decide)

end UniMrcp.Apt
