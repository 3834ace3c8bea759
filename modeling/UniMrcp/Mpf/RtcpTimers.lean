import UniMrcp.Apt.TimerQueue
import UniMrcp.Apt.TimerQueue.Exact

/-!
# RTCP timers keep running

The reset flag of the timer queue is set when the last timer is removed and cleared by
`apt_timer_queue_timeout_get`, which the media engine never calls.
-/

namespace UniMrcp.Mpf

open Lib Apt

variable {σ : Type}

/-! ## RTP streams -/

structure RtpSettings where
  rtcp : Bool
  rtcpTxInterval : UInt16
  rtcpRxResolution : UInt16
deriving DecidableEq

inductive RtcpTimer (σ : Type)
  | tx (stream : σ)
  | rx (stream : σ)
deriving DecidableEq

def RtcpTimer.interval (settings : σ → RtpSettings) : RtcpTimer σ → UInt16
  | .tx s => (settings s).rtcpTxInterval
  | .rx s => (settings s).rtcpRxResolution

/-- `mpf_rtp_stream_create` creates a timer if RTCP is on and the timer has an interval. -/
def RtcpTimer.created (settings : σ → RtpSettings) : RtcpTimer σ → Bool
  | .tx s => (settings s).rtcp && (settings s).rtcpTxInterval != 0
  | .rx s => (settings s).rtcp && (settings s).rtcpRxResolution != 0

/-- `mpf_rtcp_tx_timer_proc` and `mpf_rtcp_rx_timer_proc` re-schedule their timer. -/
def rtcpTimerProc (settings : σ → RtpSettings) (t : RtcpTimer σ) : List (TimerCmd (RtcpTimer σ)) :=
  [.set t (t.interval settings).toUInt32]

def rtcpTimersSet (settings : σ → RtpSettings) (s : σ) : List (TimerCmd (RtcpTimer σ)) :=
  ([.tx s, .rx s].filter (RtcpTimer.created settings)).map fun t => .set t (t.interval settings).toUInt32

def rtcpTimersKill (settings : σ → RtpSettings) (s : σ) : List (TimerCmd (RtcpTimer σ)) :=
  ([.tx s, .rx s].filter (RtcpTimer.created settings)).map .kill

/-- `mpf_media_state_e` -/
inductive MediaState
  | disabled
  | enabled
deriving DecidableEq

/-- The part of `mpf_rtp_stream_media_negotiate` that enables or disables the session. -/
def mediaStateNegotiate (settings : σ → RtpSettings) (s : σ) (state remote : MediaState) :
    MediaState × List (TimerCmd (RtcpTimer σ)) :=
  if state = .disabled ∧ remote = .enabled then (.enabled, rtcpTimersSet settings s)
  else if state = .enabled ∧ remote = .disabled then (.disabled, rtcpTimersKill settings s)
  else (state, [])

/-- `mpf_rtp_stream_media_negotiate`; a session without a common codec is rejected. -/
def rtpStreamMediaNegotiate (settings : σ → RtpSettings) (s : σ) (state remote : MediaState) (intersect : Bool) :
    MediaState × List (TimerCmd (RtcpTimer σ)) :=
  let r := mediaStateNegotiate settings s state remote
  if remote = .enabled ∧ intersect = false then (.disabled, r.2 ++ rtcpTimersKill settings s) else r

def rtpStreamRemove (settings : σ → RtpSettings) (s : σ) (state : MediaState) :
    MediaState × List (TimerCmd (RtcpTimer σ)) :=
  if state = .enabled then (.disabled, rtcpTimersKill settings s) else (state, [])

structure MpfEngine (σ : Type) where
  timerQueue : TimerQueue (RtcpTimer σ)
  settings : σ → RtpSettings
  state : σ → MediaState

def mpfEngineCreate (settings : σ → RtpSettings) : MpfEngine σ :=
  ⟨timerQueueCreate (RtcpTimer.created settings), settings, fun _ => .disabled⟩

/-- `MPF_TIMER_RESOLUTION`, in milliseconds. -/
def mpfTimerResolution : UInt32 := 100

inductive MpfOp (σ : Type)
  /-- A stream negotiates its media, when it has both descriptors. -/
  | negotiate (s : σ) (remote : MediaState) (intersect : Bool)
  | remove (s : σ)
  /-- The scheduler calls `mpf_engine_timer_proc`. -/
  | timerProc
deriving DecidableEq

variable [DecidableEq σ]

def MpfEngine.apply (e : MpfEngine σ) (s : σ) (r : MediaState × List (TimerCmd (RtcpTimer σ))) :
    MpfEngine σ × List (TimerEvent (RtcpTimer σ)) :=
  ({ e with timerQueue := (timerCmds e.timerQueue r.2).1, state := Function.update e.state s r.1 },
    (timerCmds e.timerQueue r.2).2)

def MpfEngine.procs (e : MpfEngine σ) : List (RtcpTimer σ → List (TimerCmd (RtcpTimer σ))) :=
  List.replicate e.timerQueue.ring.length (rtcpTimerProc e.settings)

/-- `mpf_engine_timer_proc`. One period of the scheduler's timer is over. -/
def mpfEngineTimerProc (e : MpfEngine σ) : MpfEngine σ × List (TimerEvent (RtcpTimer σ)) :=
  let r := timerQueueAdvance e.timerQueue mpfTimerResolution e.procs
  ({ e with timerQueue := r.1 }, .wait :: r.2)

def mpfEngineStep (e : MpfEngine σ) : MpfOp σ → MpfEngine σ × List (TimerEvent (RtcpTimer σ))
  | .negotiate s remote intersect =>
    e.apply s (rtpStreamMediaNegotiate e.settings s (e.state s) remote intersect)
  | .remove s => e.apply s (rtpStreamRemove e.settings s (e.state s))
  | .timerProc => mpfEngineTimerProc e

variable {σ : Type}

def advancesOf (timeout : Nat) : Nat := (timeout + 99) / 100

def Paced (_ : Bool) (w : Wait) : Prop := w.waited = 100 * w.advances ∧ w.waited < w.timeout + 100

theorem paced_set : HoldsWhenSet Paced := by
  intro _ n _ hn
  exact ⟨rfl, Nat.lt_add_right 100 hn⟩

theorem Paced.longer {b : Bool} {w : Wait} (h : Paced b w) (hw : w.waited < w.timeout) :
    Paced b (w.longer mpfTimerResolution.toNat) := by
  have h100 : mpfTimerResolution.toNat = 100 := rfl
  obtain ⟨ha, -⟩ := h
  constructor <;> simp only [Wait.longer, h100] <;> omega

def InTime (_ : Timeline (RtcpTimer σ)) (w : Wait) : Prop :=
  w.timeout ≤ w.waited ∧ w.advances ≤ advancesOf w.timeout

theorem Paced.inTime {b : Bool} {w : Wait} (h : Paced b w) (hw : w.timeout ≤ w.waited)
    (l : Timeline (RtcpTimer σ)) : InTime l w := by
  obtain ⟨ha, hlt⟩ := h
  refine ⟨hw, ?_⟩
  unfold advancesOf
  omega

/-! ## The commands of the streams -/

def Small : TimerCmd (RtcpTimer σ) → Prop
  | .set _ n => n.toNat < 2 ^ 16
  | _ => True

theorem small_set (t : RtcpTimer σ) (n : UInt16) : Small (.set t n.toUInt32) := by
  simpa [Small] using n.toNat_lt

variable (settings : σ → RtpSettings)

variable (s : σ)

theorem small_timersSet : ∀ c ∈ rtcpTimersSet settings s, Small c := by
  intro c hc
  obtain ⟨t, -, rfl⟩ := List.mem_map.1 hc
  exact small_set _ _

theorem small_timersKill : ∀ c ∈ rtcpTimersKill settings s, Small c := by
  intro c hc
  obtain ⟨t, -, rfl⟩ := List.mem_map.1 hc
  trivial

theorem small_mediaStateNegotiate (state remote : MediaState) :
    ∀ c ∈ (mediaStateNegotiate settings s state remote).2, Small c := by
  unfold mediaStateNegotiate
  split_ifs
  · exact small_timersSet settings s
  · exact small_timersKill settings s
  · simp

theorem small_negotiate (state remote : MediaState) (intersect : Bool) :
    ∀ c ∈ (rtpStreamMediaNegotiate settings s state remote intersect).2, Small c := by
  have hr := small_mediaStateNegotiate settings s state remote
  unfold rtpStreamMediaNegotiate
  split_ifs
  · intro c hc
    rcases List.mem_append.1 hc with hc | hc
    · exact hr c hc
    · exact small_timersKill settings s c hc
  · exact hr

theorem small_remove (state : MediaState) : ∀ c ∈ (rtpStreamRemove settings s state).2, Small c := by
  unfold rtpStreamRemove
  split_ifs
  · exact small_timersKill settings s
  · simp

variable {q : TimerQueue (RtcpTimer σ)}

theorem small_elapsed (h : Orderly q) {n : UInt32} (hn : n.toNat < 2 ^ 16) :
    q.elapsedTime.toNat + n.toNat < 2 ^ 32 := by
  have he : q.elapsedTime.toNat < 0xFFFF := UInt32.lt_iff_toNat_lt.1 h.2
  omega

theorem paced_due (l : Timeline (RtcpTimer σ)) (s e : Nat) (b : Bool) (w : Wait) (hw : Exact Paced l.clock s e b w)
    (hle : s ≤ e) : InTime l w := by
  obtain ⟨he, hx⟩ := hw
  exact hx.inTime (by omega) l

variable [DecidableEq σ]

variable {l : Timeline (RtcpTimer σ)}

theorem settled_wait (h : Settled Paced q l) : Settled Paced q (l.observe .wait).1 :=
  ⟨linked_wait h.1 rfl fun _ _ _ hw => hw, h.2⟩

theorem Small.ok (h : Settled Paced q l) {c : TimerCmd (RtcpTimer σ)} (hc : Small c) : TimerCmdOk q c := by
  have ho : ∀ t, InOrder q t := by
    intro t ht h0
    have hlt := UInt32.lt_iff_toNat_lt.1 (h.later ht)
    simp [h0] at hlt
  cases c with
  | pass us => trivial
  | kill t => exact ho t
  | set t n => exact fun _ _ => ⟨ho t, small_elapsed (timerRelease_orderly h.1.nodup h.2 (ho t)) hc⟩

theorem timerCmds_settled (h : Settled Paced q l) {cmds : List (TimerCmd (RtcpTimer σ))} (hm : ∀ c ∈ cmds, Small c) :
    Shown Timeline.observe (Settled Paced) (FiresWhen InTime) l (timerCmds q cmds).1 (timerCmds q cmds).2 :=
  run_watched (Settled Paced) (fun _ c => Small c) (FiresWhen InTime)
    (fun _ _ c hs hc => timerCmdStep_settled paced_set hs c (hc.ok hs)) h (eachStep_of_forall hm q)

theorem rtcpTimerProc_ok (h : Linked (Exact Paced) q l ∧ Orderly q) (settings : σ → RtpSettings) :
    TimerProcOk q (rtcpTimerProc settings) := by
  unfold TimerProcOk
  cases ht : q.elapsed? with
  | none => trivial
  | some t =>
    refine ⟨fun _ _ => ⟨?_, ?_⟩, trivial⟩
    · intro hm
      exact absurd hm h.1.nodup.not_mem_erase
    · have hr : timerRelease (q.unlink t) t = q.unlink t := by simp [timerRelease]
      rw [hr]
      exact small_elapsed (q := q) h.2 (small_set t (t.interval settings))

theorem rtcpTimerProcs_ok (h : Linked (Exact Paced) q l ∧ Orderly q) (settings : σ → RtpSettings) (n : Nat) :
    EachStep timerProcess TimerProcOk q (List.replicate n (rtcpTimerProc settings)) := by
  refine eachStep_of_watched (fun q l => Linked (Exact Paced) q l ∧ Orderly q)
    (fun _ proc => proc = rtcpTimerProc settings) TimerProcOk (FiresWhen InTime)
    (fun _ _ proc hq ho => timerProcess_shown (exact_lasting paced_set) paced_due hq proc ho) ?_ h
    (eachStep_of_forall (by simp) q)
  rintro q l proc hq rfl
  exact rtcpTimerProc_ok hq settings

/-- An advance that finds a timer in the ring finds the reset flag clear, and when it sets the elapsed time back no
timer is scheduled before the new time. -/
def MpfOpOk (e : MpfEngine σ) : MpfOp σ → Prop
  | .timerProc => e.timerQueue.ring ≠ [] → e.timerQueue.reset = false ∧
    (0xFFFF ≤ e.timerQueue.elapsedTime + mpfTimerResolution → ∀ t ∈ e.timerQueue.ring,
      e.timerQueue.elapsedTime + mpfTimerResolution ≤ e.timerQueue.scheduledTime t)
  | _ => True

instance (e : MpfEngine σ) : ∀ op, Decidable (MpfOpOk e op)
  | .timerProc => inferInstanceAs (Decidable (_ → _ ∧ _))
  | .negotiate _ _ _ => isTrue trivial
  | .remove _ => isTrue trivial

variable {e : MpfEngine σ}

theorem mpfEngine_elapse (h : Settled Paced e.timerQueue l) (ho : MpfOpOk e .timerProc)
    (hne : e.timerQueue.ring ≠ []) :
    Linked (Exact Paced) (timerQueueElapse e.timerQueue mpfTimerResolution)
        (l.observe (.elapse mpfTimerResolution.toNat)).1 ∧
      Orderly (timerQueueElapse e.timerQueue mpfTimerResolution) :=
  timerQueueElapse_exact h (fun _ _ hx hw => hx.longer hw) (by decide) (ho hne).2

theorem mpfEngine_advance_shown (h : Settled Paced e.timerQueue l) (ho : MpfOpOk e .timerProc) :
    Shown Timeline.observe (Settled Paced) (FiresWhen InTime) l
      (timerQueueAdvance e.timerQueue mpfTimerResolution e.procs).1
      (timerQueueAdvance e.timerQueue mpfTimerResolution e.procs).2 := by
  unfold timerQueueAdvance
  split
  · exact shown_nil h
  · rename_i hne
    rw [if_neg (by simp [(ho hne).1])]
    have he := mpfEngine_elapse h ho hne
    exact shown_cons trivial (timersLoop_settled paced_set (fun l _ _ hx hle => hx.inTime hle l) he e.procs
      (rtcpTimerProcs_ok he e.settings _))

theorem mpfEngineStep_shown (h : Settled Paced e.timerQueue l) (op : MpfOp σ) (ho : MpfOpOk e op) :
    Shown Timeline.observe (fun e l => Settled Paced e.timerQueue l) (FiresWhen InTime) l (mpfEngineStep e op).1
      (mpfEngineStep e op).2 := by
  cases op with
  | negotiate s remote intersect => exact timerCmds_settled h (small_negotiate _ _ _ _ _)
  | remove s => exact timerCmds_settled h (small_remove _ _ _)
  | timerProc => exact shown_cons trivial (mpfEngine_advance_shown (settled_wait h) ho)

/-- **RTCP timers keep running.** In a run of the engine whose advances find the reset flag clear, and no overdue timer
when they set the elapsed time back, a timer that fires was armed and fires within the advances its timeout takes, and
an armed one has not seen that many. -/
theorem rtcpTimers_keep_running (settings : σ → RtpSettings) (ops : List (MpfOp σ))
    (h : EachStep mpfEngineStep MpfOpOk (mpfEngineCreate settings) ops) :
    EachStep Timeline.observe (FiresWhen fun _ w => w.timeout ≤ w.waited ∧ w.advances ≤ advancesOf w.timeout + 1)
      Timeline.start (run mpfEngineStep (mpfEngineCreate settings) ops).2.flatten ∧
    ∀ t w, (Timeline.start.after (run mpfEngineStep (mpfEngineCreate settings) ops).2.flatten).pending t = some w →
      w.advances < advancesOf w.timeout := by
  have hrun := run_watched (fun (e : MpfEngine σ) l => Settled Paced e.timerQueue l) MpfOpOk (FiresWhen InTime)
    (fun _ _ op hs hok => mpfEngineStep_shown hs op hok) (settled_create Paced _) h
  refine ⟨eachStep_mono ?_ hrun.2, ?_⟩
  · intro l e he
    cases e with
    | fire t =>
      obtain ⟨w, hw, hin, hadv⟩ := he
      exact ⟨w, hw, hin, Nat.le_succ_of_le hadv⟩
    | _ => trivial
  · intro t w hw
    have hlt := hrun.1.waiting hw
    obtain ⟨-, -, hadv, -⟩ := hrun.1.1.timed t w hw
    unfold advancesOf
    omega

/-- A session with a timer of 250 milliseconds: it fires in the third advance, and again in the sixth. -/
theorem rtcpTimers_keep_running_session :
    EachStep Timeline.observe (FiresWhen fun _ w => w.timeout ≤ w.waited ∧ w.advances ≤ advancesOf w.timeout + 1)
      Timeline.start (run mpfEngineStep (mpfEngineCreate fun _ : Unit => ⟨true, 250, 0⟩)
        (.negotiate () .enabled true :: List.replicate 6 .timerProc)).2.flatten ∧
    ∀ t w, (Timeline.start.after (run mpfEngineStep (mpfEngineCreate fun _ : Unit => ⟨true, 250, 0⟩)
        (.negotiate () .enabled true :: List.replicate 6 .timerProc)).2.flatten).pending t = some w →
      w.advances < advancesOf w.timeout :=
  rtcpTimers_keep_running _ _ (by decide)

/-- A session is enabled, disabled and enabled again. Its timer of 250 milliseconds, set in the second session, has
not fired after ten advances. -/
theorem rtcpTimers_stop :
    (run mpfEngineStep (mpfEngineCreate fun _ : Unit => ⟨true, 250, 0⟩)
        (.negotiate () .enabled true :: .negotiate () .disabled true :: .negotiate () .enabled true ::
          List.replicate 10 .timerProc)).2.flatten.all (fun e => e != .fire (.tx ())) = true ∧
    (Timeline.start.after (run mpfEngineStep (mpfEngineCreate fun _ : Unit => ⟨true, 250, 0⟩)
        (.negotiate () .enabled true :: .negotiate () .disabled true :: .negotiate () .enabled true ::
          List.replicate 10 .timerProc)).2.flatten).pending (.tx ()) =
      some ⟨250, 1000, 10, 0, false⟩ ∧
    advancesOf 250 + 1 < 10 := by
  decide

end UniMrcp.Mpf
