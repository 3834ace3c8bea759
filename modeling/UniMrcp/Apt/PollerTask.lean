import UniMrcp.Apt.TimerQueue.Linked

/-!
# The poller task

The loop of the poller task asks its timer queue for a timeout, waits for messages and descriptors, processes them,
and advances the queue by the time that went by since the wait began. The clock counts microseconds.
-/

namespace UniMrcp.Apt

open Lib Timeline

variable {τ : Type} [DecidableEq τ]

structure Handling (τ : Type) where
  timerQueue : TimerQueue τ
  clock : Nat

def TimerCmd.time : TimerCmd τ → Nat
  | .pass us => us
  | _ => 0

def handlerStep (h : Handling τ) (c : TimerCmd τ) : Handling τ × List (TimerEvent τ) :=
  (⟨(timerCmdStep h.timerQueue c).1, h.clock + c.time⟩, (timerCmdStep h.timerQueue c).2)

structure PollerTask (τ : Type) where
  timerQueue : TimerQueue τ
  clock : Nat
  timeLast : Nat

structure PollerRound (τ : Type) where
  /-- The time until `time_last` is read. -/
  entry : Nat
  /-- The time spent in `apt_pollset_poll`. -/
  wait : Nat
  polled : Bool
  /-- What the handlers of the messages and the descriptors do. -/
  handlers : List (TimerCmd τ)
  /-- What the callbacks do that the advance calls. -/
  procs : List (τ → List (TimerCmd τ))

def pollerTaskCreate (proc : τ → Bool) : PollerTask τ := ⟨timerQueueCreate proc, 0, 0⟩

def clockAfter (clock : Nat) : List (TimerEvent τ) → Nat
  | [] => clock
  | .pass us :: es => clockAfter (clock + us) es
  | _ :: es => clockAfter clock es

def pollerTaskBegin (p : PollerTask τ) (r : PollerRound τ) : Bool × PollerTask τ :=
  let q := timerQueueTimeoutGet p.timerQueue
  match q.2 with
  | some _ => (true, ⟨q.1, p.clock + r.entry, p.clock + r.entry⟩)
  | none => (false, ⟨q.1, p.clock + r.entry, p.timeLast⟩)

def pollerTaskHandle (p : PollerTask τ) (r : PollerRound τ) : Handling τ × List (TimerEvent τ) :=
  let h := run handlerStep ⟨p.timerQueue, p.clock + r.wait⟩ r.handlers
  (h.1, h.2.flatten)

/-- The time since `time_last`, in milliseconds, when `time_now` is the clock. -/
def Handling.elapsed (h : Handling τ) (timeLast : Nat) : UInt32 := UInt32.ofNat ((h.clock - timeLast) / 1000)

def pollerTaskEnd (timed : Bool) (timeLast : Nat) (h : Handling τ) (procs : List (τ → List (TimerCmd τ))) :
    TimerQueue τ × List (TimerEvent τ) :=
  if timed = true ∧ timeLast < h.clock then timerQueueAdvance h.timerQueue (h.elapsed timeLast) procs
  else (h.timerQueue, [])

/-- One round of the loop of `apt_poller_task_run`. -/
def pollerTaskRound (p : PollerTask τ) (r : PollerRound τ) : PollerTask τ × List (TimerEvent τ) :=
  let b := pollerTaskBegin p r
  if r.polled = false then
    ({ b.2 with clock := b.2.clock + r.wait }, [.wait, .pass r.entry, .pass r.wait])
  else
    let h := pollerTaskHandle b.2 r
    let a := pollerTaskEnd b.1 b.2.timeLast h.1 r.procs
    (⟨a.1, clockAfter h.1.clock a.2, b.2.timeLast⟩, [.wait, .pass r.entry, .pass r.wait] ++ h.2 ++ a.2)

/-! ## Timers of the poller task do not fire early -/

/-! ## The waits, by the clock -/

/-- The time left to a timer is at least the rest of its wait, which has gone by on the clock up to a millisecond. -/
def ByClock (c s e : Nat) (_ : Bool) (w : Wait) : Prop :=
  e + w.timeout ≤ s + w.waited ∧ 1000 * w.waited + w.setAt < c + 1000

/-- If the wait that began at `timeLast` will be counted, the wait of each timer had gone by when it began. If not, each
timer was set in it. -/
def InWait (timed : Bool) (timeLast c s e : Nat) (reset : Bool) (w : Wait) : Prop :=
  ByClock c s e reset w ∧ (timed → reset = false → 1000 * w.waited + w.setAt < timeLast + 1000) ∧
    (reset → w.fresh)

variable {l : Timeline τ} {b : Bool} {w : Wait}

theorem byClock_notEarly {s e : Nat} (h : ByClock l.clock s e b w) (hle : s ≤ e) : NotEarly 1000 l w := by
  obtain ⟨hl, hg⟩ := h
  unfold NotEarly
  omega

theorem byClock_later {c s e us : Nat} (h : ByClock c s e b w) : ByClock (c + us) s e b w := by
  obtain ⟨hl, hg⟩ := h
  exact ⟨hl, by omega⟩

variable {timed : Bool}

theorem inWait_later {timeLast c s e us : Nat} (h : InWait timed timeLast c s e b w) :
    InWait timed timeLast (c + us) s e b w :=
  ⟨byClock_later h.1, h.2⟩

theorem elapsed_le (h : Handling τ) (timeLast : Nat) :
    1000 * (h.elapsed timeLast).toNat ≤ h.clock - timeLast := by
  have hm : (h.elapsed timeLast).toNat ≤ (h.clock - timeLast) / 1000 := by
    exact Nat.mod_le _ _
  omega

theorem pollerTaskBegin_cases (p : PollerTask τ) (r : PollerRound τ) :
    (pollerTaskBegin p r).2.timerQueue = { p.timerQueue with reset := false } ∧
    (pollerTaskBegin p r).2.clock = p.clock + r.entry ∧
    ((pollerTaskBegin p r).1 → (pollerTaskBegin p r).2.timeLast = p.clock + r.entry) := by
  unfold pollerTaskBegin
  cases h : (timerQueueTimeoutGet p.timerQueue).2 <;> simp [h, timerQueueTimeoutGet_fst]

variable [DecidableEq τ]

theorem byClock_lasting : Lasting (τ := τ) ByClock fun _ => True := by
  refine ⟨?_, fun _ _ _ _ _ _ => trivial, fun _ _ _ _ _ => trivial⟩
  intro q l c
  cases c with
  | set t n =>
    intro _ _
    constructor <;> dsimp only <;> omega
  | kill t => trivial
  | pass us => exact fun _ _ _ _ h => byClock_later h

theorem after_clock (l : Timeline τ) (es : List (TimerEvent τ)) :
    (run observe l es).1.clock = clockAfter l.clock es := by
  induction es generalizing l with
  | nil => rfl
  | cons e es ih =>
    rw [run_cons]
    rw [ih]
    cases e <;> rfl

variable {q : TimerQueue τ}

theorem linked_pass {R : WaitRel} (h : Linked R q l) {us : Nat} (hR : ∀ c s e b w, R c s e b w → R (c + us) s e b w) :
    Linked R q (l.observe (.pass us)).1 :=
  ⟨h.nodup, h.armed, h.idle, fun t w hw => hR _ _ _ _ _ (h.timed t w hw)⟩

/-- A handler sets a timer when no wait is timed, or the wait will not be counted, or in the millisecond in which it
began. -/
def HandlerOk (timed : Bool) (timeLast : Nat) (h : Handling τ) (c : TimerCmd τ) : Prop :=
  TimerCmdOk h.timerQueue c ∧
    match c with
    | .set t n => n ≠ 0 → h.timerQueue.proc t →
      timed = false ∨ (timerRelease h.timerQueue t).reset ∨ h.clock < timeLast + 1000
    | _ => True

instance (timed : Bool) (timeLast : Nat) (h : Handling τ) : ∀ c, Decidable (HandlerOk timed timeLast h c)
  | .set _ _ => inferInstanceAs (Decidable (_ ∧ (_ → _ → _ ∨ _ ∨ _)))
  | .kill _ => inferInstanceAs (Decidable (_ ∧ True))
  | .pass _ => inferInstanceAs (Decidable (_ ∧ True))

def Handled (timed : Bool) (timeLast : Nat) (h : Handling τ) (l : Timeline τ) : Prop :=
  Linked (InWait timed timeLast) h.timerQueue l ∧ l.clock = h.clock

theorem timerCmdStep_clock (q : TimerQueue τ) (c : TimerCmd τ) (clock : Nat) :
    clockAfter clock (timerCmdStep q c).2 = clock + c.time := by
  cases c with
  | pass us => rfl
  | kill t => rfl
  | set t n =>
    simp only [timerCmdStep]
    split <;> rfl

variable {timeLast : Nat} {h : Handling τ}

theorem handlerStep_shown (hh : Handled timed timeLast h l) (c : TimerCmd τ) (ho : HandlerOk timed timeLast h c) :
    Shown observe (Handled timed timeLast) (FiresWhen (NotEarly 1000)) l (handlerStep h c).1
      (handlerStep h c).2 := by
  obtain ⟨hl, hcl⟩ := hh
  have hf : TimerCmdFits (InWait timed timeLast) h.timerQueue l c := by
    cases c with
    | pass us => exact fun _ _ _ _ hw => inWait_later hw
    | kill t => trivial
    | set t n =>
      intro hn hp
      refine ⟨⟨by dsimp only; omega, by dsimp only; omega⟩, ?_, fun _ => rfl⟩
      intro ht hr
      obtain hc | hc | hc := ho.2 hn hp
      · simp [ht] at hc
      · simp [hr] at hc
      · dsimp only
        omega
  have hm := timerCmdStep_shown (P := NotEarly 1000) hl c ho.1 hf
  refine ⟨⟨hm.1, ?_⟩, hm.2⟩
  rw [after_clock, hcl]
  exact timerCmdStep_clock _ _ _

/-! ## The advance -/

theorem timerQueueElapse_left {t : τ} (ht : t ∈ q.ring) (d : UInt32)
    (h : q.elapsedTime.toNat + w.timeout ≤ (q.scheduledTime t).toNat + w.waited) :
    (timerQueueElapse q d).elapsedTime.toNat + w.timeout ≤
      ((timerQueueElapse q d).scheduledTime t).toNat + (w.waited + d.toNat) := by
  have hd : (q.elapsedTime + d).toNat ≤ q.elapsedTime.toNat + d.toNat := by
    rw [UInt32.toNat_add]
    exact Nat.mod_le _ _
  obtain ⟨-, hm, hs⟩ | ⟨-, hm, hs, -⟩ := timerQueueElapse_cases q d
  · rw [hm, hs]
    omega
  · -- a timer that was overdue is scheduled far ahead, and so not early
    have hlt := (q.elapsedTime + d).toNat_lt
    have hlt' := (q.scheduledTime t).toNat_lt
    rw [hm, hs t ht, UInt32.toNat_sub, UInt32.toNat_zero]
    omega

theorem pollerTask_elapse (hh : Handled true timeLast h l) (hr : h.timerQueue.reset = false)
    (hlt : timeLast < h.clock) :
    Linked ByClock (timerQueueElapse h.timerQueue (h.elapsed timeLast))
      (l.observe (.elapse (h.elapsed timeLast).toNat)).1 := by
  obtain ⟨hl, hc⟩ := hh
  refine timerQueueElapse_linked hl ?_
  intro t w hw
  obtain ⟨⟨hf, -⟩, ht, -⟩ := hl.timed t w hw
  have ht := ht rfl hr
  have hm := elapsed_le h timeLast
  refine ⟨timerQueueElapse_left (hl.mem_of_pending hw) _ hf, ?_⟩
  simp only [Wait.longer, hc]
  omega

/-- The callbacks of an advance that is counted find the scheduled times of their timers in order, and set no time
past the 32 bits. -/
def AdvanceOk (timed : Bool) (timeLast : Nat) (h : Handling τ) (procs : List (τ → List (TimerCmd τ))) : Prop :=
  timed = true → timeLast < h.clock → h.timerQueue.ring ≠ [] → h.timerQueue.reset = false →
    EachStep timerProcess TimerProcOk (timerQueueElapse h.timerQueue (h.elapsed timeLast)) procs

instance (timed : Bool) (timeLast : Nat) (h : Handling τ) (procs : List (τ → List (TimerCmd τ))) :
    Decidable (AdvanceOk timed timeLast h procs) :=
  inferInstanceAs (Decidable (_ → _ → _ → _ → _))

theorem pollerTaskEnd_shown (hh : Handled timed timeLast h l) (procs : List (τ → List (TimerCmd τ)))
    (ho : AdvanceOk timed timeLast h procs) :
    Shown observe (Linked ByClock) (FiresWhen (NotEarly 1000)) l (pollerTaskEnd timed timeLast h procs).1
      (pollerTaskEnd timed timeLast h procs).2 := by
  have hs : Linked ByClock h.timerQueue l := hh.1.mono fun _ _ _ _ hw => hw.1
  unfold pollerTaskEnd
  split
  swap
  · exact shown_nil hs
  rename_i ha
  obtain ⟨rfl, hlt⟩ := ha
  unfold timerQueueAdvance
  split
  · exact shown_nil hs
  rename_i hne
  cases hr : h.timerQueue.reset with
  | true =>
    refine shown_cons trivial (shown_nil ?_)
    rw [observe_skip_of_fresh fun t w hw => (hh.1.timed t w hw).2.2 hr]
    exact hs
  | false =>
    have he := pollerTask_elapse hh hr hlt
    have hl := timersLoop_shown (P := NotEarly 1000) byClock_lasting
      (fun _ _ _ _ _ hw hle => byClock_notEarly hw hle) ⟨he, trivial⟩ procs (ho rfl hlt hne hr)
    exact shown_cons trivial (hl.mono fun _ hm => hm.1)

/-! ## Rounds -/

def PollerRoundOk (p : PollerTask τ) (r : PollerRound τ) : Prop :=
  let b := pollerTaskBegin p r
  r.polled = true →
    EachStep handlerStep (HandlerOk b.1 b.2.timeLast) ⟨b.2.timerQueue, b.2.clock + r.wait⟩ r.handlers ∧
    AdvanceOk b.1 b.2.timeLast (pollerTaskHandle b.2 r).1 r.procs

instance (p : PollerTask τ) (r : PollerRound τ) : Decidable (PollerRoundOk p r) :=
  inferInstanceAs (Decidable (_ → _ ∧ _))

def Rested (p : PollerTask τ) (l : Timeline τ) : Prop := Linked ByClock p.timerQueue l ∧ l.clock = p.clock

variable {p : PollerTask τ}

theorem pollerTaskBegin_handled (h : Rested p l) (r : PollerRound τ) :
    Handled (pollerTaskBegin p r).1 (pollerTaskBegin p r).2.timeLast
      ⟨(pollerTaskBegin p r).2.timerQueue, (pollerTaskBegin p r).2.clock + r.wait⟩
      (run observe l [.wait, .pass r.entry, .pass r.wait]).1 := by
  obtain ⟨hl, hcl⟩ := h
  obtain ⟨hq, hc, hs⟩ := pollerTaskBegin_cases p r
  generalize pollerTaskBegin p r = b at hq hc hs ⊢
  have hb : Linked (InWait b.1 b.2.timeLast) b.2.timerQueue (l.observe .wait).1 := by
    refine linked_wait hl (by rw [hq]) ?_
    intro s e w hw
    refine ⟨hw, ?_, ?_⟩
    · intro ht _
      have hg := hw.2
      rw [hs ht, ← hcl]
      dsimp only
      omega
    · intro hr
      simp [hq] at hr
  refine ⟨linked_pass (linked_pass hb fun _ _ _ _ _ => inWait_later) fun _ _ _ _ _ => inWait_later, ?_⟩
  rw [after_clock, hc, hcl]
  rfl

theorem pollerTaskHandle_shown (h : Rested p l) {r : PollerRound τ}
    (ho : EachStep handlerStep (HandlerOk (pollerTaskBegin p r).1 (pollerTaskBegin p r).2.timeLast)
      ⟨(pollerTaskBegin p r).2.timerQueue, (pollerTaskBegin p r).2.clock + r.wait⟩ r.handlers) :
    Shown observe (Handled (pollerTaskBegin p r).1 (pollerTaskBegin p r).2.timeLast)
      (FiresWhen (NotEarly 1000)) l (pollerTaskHandle (pollerTaskBegin p r).2 r).1
      ([.wait, .pass r.entry, .pass r.wait] ++ (pollerTaskHandle (pollerTaskBegin p r).2 r).2) := by
  have hb := pollerTaskBegin_handled h r
  exact shown_append ⟨hb, trivial, trivial, trivial, trivial⟩
    (run_watched _ _ _ (fun _ _ c hh hc => handlerStep_shown hh c hc) hb ho)

theorem pollerTaskRound_shown (h : Rested p l) (r : PollerRound τ) (ho : PollerRoundOk p r) :
    Shown observe Rested (FiresWhen (NotEarly 1000)) l (pollerTaskRound p r).1 (pollerTaskRound p r).2 := by
  unfold pollerTaskRound
  split
  · have hb := pollerTaskBegin_handled h r
    exact ⟨⟨hb.1.mono fun _ _ _ _ hw => hw.1, hb.2⟩, trivial, trivial, trivial, trivial⟩
  · rename_i hp
    obtain ⟨hha, hr⟩ := ho (by simpa using hp)
    have hh := pollerTaskHandle_shown h hha
    have hc := hh.1.2
    have he := pollerTaskEnd_shown hh.1 r.procs hr
    refine shown_append hh ⟨⟨he.1, ?_⟩, he.2⟩
    rw [after_clock, hc]

/-- **Timers never fire early.** In a run of the poller task whose handlers set their timers when no wait is timed, the
queue has just been emptied, or the wait has just begun, no timer fires before its time, up to a millisecond. -/
theorem pollerTask_not_early (proc : τ → Bool) (rounds : List (PollerRound τ))
    (h : EachStep pollerTaskRound PollerRoundOk (pollerTaskCreate proc) rounds) :
    EachStep Timeline.observe (FiresWhen (NotEarly 1000)) Timeline.start
      (run pollerTaskRound (pollerTaskCreate proc) rounds).2.flatten :=
  (run_watched Rested PollerRoundOk (FiresWhen (NotEarly 1000)) (fun _ _ r hp hok => pollerTaskRound_shown hp r hok)
    ⟨linked_create ByClock proc, rfl⟩ h).2

/-- A timer of ten milliseconds is set while no other is armed, and its callback sets one of five. -/
theorem pollerTask_not_early_run :
    EachStep Timeline.observe (FiresWhen (NotEarly 1000)) Timeline.start
      (run pollerTaskRound (pollerTaskCreate fun _ : Bool => true)
        [⟨0, 3000, true, [.set false 10], []⟩, ⟨5, 10000, true, [], [fun _ => [.pass 40, .set true 5]]⟩,
          ⟨5, 5000, true, [], []⟩]).2.flatten :=
  pollerTask_not_early _ _ (by decide)

/-- A timer of ten seconds is armed, and five seconds into the wait a handler sets another one of one second. It
fires in the same round, when no time at all has gone by. -/
theorem pollerTask_early :
    (run pollerTaskRound (pollerTaskCreate fun _ : Bool => true)
        [⟨0, 0, true, [.set false 10000], []⟩, ⟨0, 5000000, true, [.set true 1000], []⟩]).2.flatten =
      [.wait, .pass 0, .pass 0, .set false 10000,
        .wait, .pass 0, .pass 5000000, .set true 1000, .elapse 5000, .fire true] ∧
    ¬ EachStep Timeline.observe (FiresWhen (NotEarly 1000)) Timeline.start
      (run pollerTaskRound (pollerTaskCreate fun _ : Bool => true)
        [⟨0, 0, true, [.set false 10000], []⟩, ⟨0, 5000000, true, [.set true 1000], []⟩]).2.flatten := by
  decide

end UniMrcp.Apt
