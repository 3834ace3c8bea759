import Mathlib.Algebra.Ring.Nat
import UniMrcp.Lib.Run

/-!
# What a one-shot timer service owes its callers

A trace of a timer service is a list of events. `Timeline` is what an observer of the trace knows.
-/

namespace UniMrcp.Lib

variable {τ : Type*}

inductive TimerEvent (τ : Type*)
  /-- A timer is set, to fire after a number of ticks. -/
  | set (t : τ) (timeout : Nat)
  /-- A timer is killed. -/
  | kill (t : τ)
  /-- The callback of a timer is called. -/
  | fire (t : τ)
  /-- The caller begins to wait. -/
  | wait
  /-- The wait is over and the service counts `d` ticks. -/
  | elapse (d : Nat)
  /-- The wait of `d` ticks is over and the service does not count it. -/
  | skip (d : Nat)
  /-- The clock goes on. -/
  | pass (us : Nat)
deriving DecidableEq

/-! ## The observer -/

structure Wait where
  /-- The ticks it was set for. -/
  timeout : Nat
  /-- The ticks that went by in the waits since it was set. -/
  waited : Nat
  /-- The number of these waits. -/
  advances : Nat
  /-- The clock when it was set. -/
  setAt : Nat
  /-- It was set after the last wait began. -/
  fresh : Bool
deriving DecidableEq

/-- A wait of `d` ticks more. -/
def Wait.longer (d : Nat) (w : Wait) : Wait := { w with waited := w.waited + d, advances := w.advances + 1 }

structure Timeline (τ : Type*) where
  clock : Nat
  /-- The timers that are armed. -/
  pending : τ → Option Wait

def Timeline.start : Timeline τ := ⟨0, fun _ => none⟩

section Observe

variable [DecidableEq τ]

/-- The observer sees one event. A wait that the service does not count still goes by for the timers that were
armed when it began. -/
def Timeline.observe (l : Timeline τ) : TimerEvent τ → Timeline τ × Unit
  | .set t n => ({ l with pending := Function.update l.pending t (some ⟨n, 0, 0, l.clock, true⟩) }, ())
  | .kill t => ({ l with pending := Function.update l.pending t none }, ())
  | .fire t => ({ l with pending := Function.update l.pending t none }, ())
  | .wait => ({ l with pending := fun t => (l.pending t).map fun w => { w with fresh := false } }, ())
  | .elapse d => ({ l with pending := fun t => (l.pending t).map (Wait.longer d) }, ())
  | .skip d => ({ l with pending := fun t => (l.pending t).map fun w => if w.fresh then w else w.longer d }, ())
  | .pass us => ({ l with clock := l.clock + us }, ())

def Timeline.after (l : Timeline τ) (es : List (TimerEvent τ)) : Timeline τ := (run Timeline.observe l es).1

/-- A wait that is not counted does not go by for the timers that were set in it. -/
theorem Timeline.observe_skip_of_fresh {l : Timeline τ} (h : ∀ t w, l.pending t = some w → w.fresh) (d : Nat) :
    (l.observe (.skip d)).1 = l := by
  have hs : (fun t => (l.pending t).map fun w => if w.fresh then w else w.longer d) = l.pending := by
    funext t
    cases hw : l.pending t with
    | none => rfl
    | some w => simp [h t w hw]
  unfold Timeline.observe
  dsimp only
  rw [hs]

/-- Whenever a timer fires it is armed, and its wait has `P`. -/
def FiresWhen (P : Timeline τ → Wait → Prop) (l : Timeline τ) : TimerEvent τ → Prop
  | .fire t => ∃ w, l.pending t = some w ∧ P l w
  | _ => True

instance (P : Timeline τ → Wait → Prop) [∀ l w, Decidable (P l w)] (l : Timeline τ) :
    ∀ e : TimerEvent τ, Decidable (FiresWhen P l e)
  | .fire t =>
    match h : l.pending t with
    | some w => decidable_of_iff (P l w) (by simp [FiresWhen, h])
    | none => isFalse (by simp [FiresWhen, h])
  | .set _ _ | .kill _ | .wait | .elapse _ | .skip _ | .pass _ => isTrue trivial

/-- The ticks counted since the timer was set have reached its timeout. -/
def Punctual (_ : Timeline τ) (w : Wait) : Prop := w.timeout ≤ w.waited

/-- The clock, in units of `unit` to the tick, is within one tick of the time the timer was set for, or past
it. -/
def NotEarly (unit : Nat) (l : Timeline τ) (w : Wait) : Prop := w.setAt + unit * w.timeout < l.clock + unit

instance (unit : Nat) (l : Timeline τ) (w : Wait) : Decidable (NotEarly unit l w) :=
  inferInstanceAs (Decidable (_ < _))

end Observe

end UniMrcp.Lib
