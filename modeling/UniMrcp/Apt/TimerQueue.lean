import UniMrcp.Lib.Timeline

/-!
# The timer queue of the toolkit

`apt_timer_queue_t` keeps the timers that are set in a ring, sorted by the time they are scheduled at. Times are
32-bit counts of milliseconds since `elapsed_time` was last set back to zero.
-/

namespace UniMrcp.Apt

open Lib

variable {τ : Type} [DecidableEq τ]

structure TimerQueue (τ : Type) where
  ring : List τ
  elapsedTime : UInt32
  /-- Whether `elapsedTime` is reset or not. -/
  reset : Bool
  /-- The time each timer is scheduled at, zero if it is not set. -/
  scheduledTime : τ → UInt32
  /-- Whether the timer was created with a callback. -/
  proc : τ → Bool

/-- `apt_timer_queue_create`, and `apt_timer_create` for its timers. -/
def timerQueueCreate (proc : τ → Bool) : TimerQueue τ := ⟨[], 0, false, fun _ => 0, proc⟩

/-- `APR_RING_REMOVE` of a timer, which is no longer scheduled. -/
def TimerQueue.unlink (q : TimerQueue τ) (t : τ) : TimerQueue τ :=
  { q with ring := q.ring.erase t, scheduledTime := Function.update q.scheduledTime t 0 }

def timerRemove (q : TimerQueue τ) (t : τ) : TimerQueue τ :=
  let q' := q.unlink t
  if q'.ring = [] then { q' with elapsedTime := 0, reset := true } else q'

/-- The loop of `apt_timer_insert` over the ring, from its last timer to the first. -/
def ringInsert (scheduledTime : τ → UInt32) (t : τ) : List τ → List τ
  | [] => [t]
  | it :: rest =>
    if scheduledTime it ≤ scheduledTime t then t :: it :: rest else it :: ringInsert scheduledTime t rest

def timerInsert (q : TimerQueue τ) (t : τ) : TimerQueue τ :=
  { q with ring := (ringInsert q.scheduledTime t q.ring.reverse).reverse }

/-- `apt_timer_set` first removes a timer that is scheduled. -/
def timerRelease (q : TimerQueue τ) (t : τ) : TimerQueue τ :=
  if q.scheduledTime t ≠ 0 then timerRemove q t else q

/-- `apt_timer_set` then schedules the timer relative to the elapsed time, and links it into the ring. -/
def timerSchedule (q : TimerQueue τ) (t : τ) (timeout : UInt32) : TimerQueue τ :=
  let q' := { q with scheduledTime := Function.update q.scheduledTime t (q.elapsedTime + timeout) }
  if q'.ring = [] then { q' with ring := [t] } else timerInsert q' t

def timerSet (q : TimerQueue τ) (t : τ) (timeout : UInt32) : TimerQueue τ × Bool :=
  if timeout = 0 ∨ q.proc t = false then (q, false) else (timerSchedule (timerRelease q t) t timeout, true)

def timerKill (q : TimerQueue τ) (t : τ) : TimerQueue τ × Bool :=
  if q.scheduledTime t = 0 then (q, false) else (timerRemove q t, true)

def timerQueueTimeoutGet (q : TimerQueue τ) : TimerQueue τ × Option UInt32 :=
  match q.ring with
  | [] => ({ q with reset := false }, none)
  | t :: _ => ({ q with reset := false }, some (q.scheduledTime t - q.elapsedTime))

/-! ## Advancing -/

def timersReschedule (q : TimerQueue τ) : TimerQueue τ :=
  { q with
    scheduledTime := fun t => if t ∈ q.ring then q.scheduledTime t - q.elapsedTime else q.scheduledTime t
    elapsedTime := 0 }

/-- `apt_timer_queue_advance` increments the elapsed time, and reschedules the timers when it gets large. -/
def timerQueueElapse (q : TimerQueue τ) (elapsedTime : UInt32) : TimerQueue τ :=
  let q' := { q with elapsedTime := q.elapsedTime + elapsedTime }
  if 0xFFFF ≤ q'.elapsedTime then timersReschedule q' else q'

/-- What a callback or a handler does, as far as the queue and the clock can tell. -/
inductive TimerCmd (τ : Type)
  /-- It calls `apt_timer_set`. -/
  | set (t : τ) (timeout : UInt32)
  /-- It calls `apt_timer_kill`. -/
  | kill (t : τ)
  | pass (us : Nat)
deriving DecidableEq

def timerCmdStep (q : TimerQueue τ) : TimerCmd τ → TimerQueue τ × List (TimerEvent τ)
  | .set t n => ((timerSet q t n).1, if (timerSet q t n).2 then [.set t n.toNat] else [])
  | .kill t => ((timerKill q t).1, [.kill t])
  | .pass us => (q, [.pass us])

def timerCmds (q : TimerQueue τ) (cmds : List (TimerCmd τ)) : TimerQueue τ × List (TimerEvent τ) :=
  ((run timerCmdStep q cmds).1, (run timerCmdStep q cmds).2.flatten)

/-- The timer the loop of `apt_timer_queue_advance` takes next, if its time has elapsed. -/
def TimerQueue.elapsed? (q : TimerQueue τ) : Option τ :=
  match q.ring with
  | [] => none
  | t :: _ => if q.elapsedTime < q.scheduledTime t then none else some t

/-- One round of the loop of `apt_timer_queue_advance`: the first timer is unlinked and its callback `proc` called, if
its time has elapsed. -/
def timerProcess (q : TimerQueue τ) (proc : τ → List (TimerCmd τ)) : TimerQueue τ × List (TimerEvent τ) :=
  match q.elapsed? with
  | none => (q, [])
  | some t => ((timerCmds (q.unlink t) (proc t)).1, .fire t :: (timerCmds (q.unlink t) (proc t)).2)

def timersProcess (q : TimerQueue τ) (procs : List (τ → List (TimerCmd τ))) :
    TimerQueue τ × List (TimerEvent τ) :=
  ((run timerProcess q procs).1, (run timerProcess q procs).2.flatten)

/-- The callbacks of the timers in the ring, when they leave the timers alone. -/
def TimerQueue.quiet (q : TimerQueue τ) : List (τ → List (TimerCmd τ)) :=
  List.replicate q.ring.length fun _ => []

/-- The loop of `apt_timer_queue_advance`. The callbacks do what `procs` says in turn, and those after them nothing, so
that the loop ends. -/
def timersLoop (q : TimerQueue τ) (procs : List (τ → List (TimerCmd τ))) : TimerQueue τ × List (TimerEvent τ) :=
  let r := timersProcess q procs
  let s := timersProcess r.1 r.1.quiet
  (s.1, r.2 ++ s.2)

def timerQueueAdvance (q : TimerQueue τ) (elapsedTime : UInt32) (procs : List (τ → List (TimerCmd τ))) :
    TimerQueue τ × List (TimerEvent τ) :=
  if q.ring = [] then (q, [])
  -- elapsed_time has just been reset, do not advance
  else if q.reset then (q, [.skip elapsedTime.toNat])
  else
    let r := timersLoop (timerQueueElapse q elapsedTime) procs
    (r.1, .elapse elapsedTime.toNat :: r.2)

inductive TimerOp (τ : Type)
  | cmd (c : TimerCmd τ)
  | timeoutGet
  | advance (elapsedTime : UInt32) (procs : List (τ → List (TimerCmd τ)))

def timerQueueStep (q : TimerQueue τ) : TimerOp τ → TimerQueue τ × List (TimerEvent τ)
  | .cmd c => timerCmdStep q c
  | .timeoutGet => ((timerQueueTimeoutGet q).1, [.wait])
  | .advance d procs => timerQueueAdvance q d procs

end UniMrcp.Apt
