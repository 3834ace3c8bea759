import UniMrcp.Lib.Run

/-!
# Task messages

Who owns a message that is passed to `apt_task_msg_signal` (`apt_task.c`), with the three implementations of
`signal_msg` and the loops that read the queues. A message has the number of the call that passes it.
-/

namespace UniMrcp.Apt

open Lib List Function

/-- The implementations of `signal_msg`. -/
inductive TaskKind where
  | poller
  | consumer
  | engine
  deriving DecidableEq

section Signals

variable (queue : List ℕ) (msg : ℕ) (pushed woken : Bool)

/-- `apt_poller_task_msg_signal`. `apt_cyclic_queue_push` does not fail: a full queue is resized. -/
def aptPollerTaskMsgSignal : List ℕ × Bool :=
  let status := true
  let status := if woken then status else false
  (queue ++ [msg], status)

/-- `apt_consumer_task_msg_signal`: `apr_queue_push` succeeds or not. -/
def aptConsumerTaskMsgSignal : List ℕ × Bool := (if pushed then queue ++ [msg] else queue, pushed)

def mpfEngineMsgSignal : List ℕ × Bool := (queue ++ [msg], true)

/-- `task->vtable.signal_msg` -/
def TaskKind.signalMsg : TaskKind → List ℕ × Bool
  | .poller => aptPollerTaskMsgSignal queue msg woken
  | .consumer => aptConsumerTaskMsgSignal queue msg pushed
  | .engine => mpfEngineMsgSignal queue msg

end Signals

/-! ## Steps -/

/-- The queues, the messages in process, the task and the result of each signal, and what was processed and released. -/
structure TaskQueues (τ : Type) where
  queue : τ → List ℕ
  current : τ → Option ℕ
  sent : List (τ × Bool)
  processed : List ℕ
  released : List ℕ

variable {τ : Type} [DecidableEq τ]

def taskQueuesCreate : TaskQueues τ := ⟨fun _ => [], fun _ => none, [], [], []⟩

/-- `apt_task_msg_signal` with a new message: it is released where the signal fails. -/
def aptTaskMsgSignal (kind : τ → TaskKind) (s : TaskQueues τ) (t : τ) (pushed woken : Bool) : TaskQueues τ :=
  let msg := s.sent.length
  let r := (kind t).signalMsg (s.queue t) msg pushed woken
  { s with
    queue := Function.update s.queue t r.1
    sent := s.sent ++ [(t, r.2)]
    released := if r.2 then s.released else s.released ++ [msg] }

/-- A task that is not processing a message takes the next one and processes it (`apt_task_msg_process`). -/
def aptTaskMsgPop (s : TaskQueues τ) (t : τ) : TaskQueues τ :=
  match s.current t, s.queue t with
  | none, msg :: rest =>
    { s with
      queue := Function.update s.queue t rest
      current := Function.update s.current t (some msg)
      processed := s.processed ++ [msg] }
  | _, _ => s

/-- `apt_task_msg_process` ends: the message is released. -/
def aptTaskMsgDone (s : TaskQueues τ) (t : τ) : TaskQueues τ :=
  match s.current t with
  | some msg => { s with current := Function.update s.current t none, released := s.released ++ [msg] }
  | none => s

/-- `running` says that the loop has not ended, `woken` that the wake-up of a poller task is not read yet, and `awake`
that the thread is inside `apt_poller_task_wakeup_process` or `mpf_engine_main`. -/
structure TaskThread where
  running : Bool
  awake : Bool
  woken : Bool

structure Tasks (τ : Type) extends TaskQueues τ where
  thread : τ → TaskThread

def tasksCreate : Tasks τ := ⟨taskQueuesCreate, fun _ => ⟨true, false, false⟩⟩

def Tasks.threadSet (s : Tasks τ) (t : τ) (thread : TaskThread) : Tasks τ :=
  { s with thread := Function.update s.thread t thread }

/-- `apt_poller_task_wakeup_process` and the loop of `mpf_engine_main` take messages until the queue is empty. -/
def aptTaskQueueProcess (s : Tasks τ) (t : τ) : Tasks τ :=
  if s.queue t = [] then s.threadSet t { s.thread t with awake := false }
  else { s with toTaskQueues := aptTaskMsgPop s.toTaskQueues t }

/-- `apt_poller_task_run`, between two messages. -/
def aptPollerTaskRun (s : Tasks τ) (t : τ) : Tasks τ :=
  if (s.thread t).awake then aptTaskQueueProcess s t
  else if (s.thread t).running && (s.thread t).woken then
    s.threadSet t { s.thread t with awake := true, woken := false }
  else s

/-- `apt_consumer_task_run`, between two messages. -/
def aptConsumerTaskRun (s : Tasks τ) (t : τ) : Tasks τ :=
  if (s.thread t).running then { s with toTaskQueues := aptTaskMsgPop s.toTaskQueues t } else s

/-- The thread of the scheduler of a media engine, between two messages: `mpf_engine_main` is called on every tick. -/
def mpfEngineRun (s : Tasks τ) (t : τ) : Tasks τ :=
  if (s.thread t).awake then aptTaskQueueProcess s t
  else if (s.thread t).running then s.threadSet t { s.thread t with awake := true }
  else s

/-- The next step of the thread of a task. The end of a message `ends` the loop where the termination of the task waited
for it; the scheduler of a media engine does not read that flag. -/
def aptTaskAdvance (kind : τ → TaskKind) (s : Tasks τ) (t : τ) (ends : Bool) : Tasks τ :=
  match s.current t with
  | some _ =>
    { s with toTaskQueues := aptTaskMsgDone s.toTaskQueues t }.threadSet t
      { s.thread t with running := (s.thread t).running && (!ends || kind t = TaskKind.engine) }
  | none =>
    match kind t with
    | .poller => aptPollerTaskRun s t
    | .consumer => aptConsumerTaskRun s t
    | .engine => mpfEngineRun s t

/-- `mpf_scheduler_stop`, which `mpf_engine_terminate` calls in the thread that terminates the task. -/
def mpfSchedulerStop (kind : τ → TaskKind) (s : Tasks τ) (t : τ) : Tasks τ :=
  if kind t = .engine then s.threadSet t { s.thread t with running := false } else s

/-- What happens next, with the outcomes of the push and the wake-up of a signal. -/
inductive TaskMsgOp (τ : Type) where
  | signal (t : τ) (pushed woken : Bool)
  | advance (t : τ) (ends : Bool)
  | stop (t : τ)

def taskMsgStep (kind : τ → TaskKind) (s : Tasks τ) : TaskMsgOp τ → Tasks τ × Unit
  | .signal t pushed woken =>
    ({ s with toTaskQueues := aptTaskMsgSignal kind s.toTaskQueues t pushed woken }.threadSet t
      { s.thread t with woken := (s.thread t).woken || woken }, ())
  | .advance t ends => (aptTaskAdvance kind s t ends, ())
  | .stop t => (mpfSchedulerStop kind s t, ())

def TaskMsgOp.advances (t : τ) : TaskMsgOp τ → Bool
  | .advance u _ => u = t
  | _ => false

/-- A refused message is released once, and in no queue. An accepted one is in the queue of its task, then processed
once, and then released once. -/
structure MsgHeld (s : TaskQueues τ) (msg : ℕ) (t : τ) (result : Bool) : Prop where
  elsewhere : ∀ u, u ≠ t → msg ∉ s.queue u ∧ s.current u ≠ some msg
  refused : result = false → msg ∉ s.queue t ∧ s.current t ≠ some msg ∧ msg ∉ s.processed ∧ s.released.count msg = 1
  accepted : result → (s.queue t).count msg + s.processed.count msg = 1 ∧
    s.released.count msg + (if s.current t = some msg then 1 else 0) = s.processed.count msg

def MsgsHeld (s : TaskQueues τ) : Prop := ∀ msg t result, s.sent[msg]? = some (t, result) → MsgHeld s msg t result

/-- Every message is held by whom the code says, and an accepted one has been released once when the thread of its task
has gone on for as many steps as the queue takes. -/
def MsgsOwned (kind : τ → TaskKind) (s : Tasks τ) : Prop :=
  MsgsHeld s.toTaskQueues ∧ ∀ msg t, s.sent[msg]? = some (t, true) → ∀ n, 3 * (s.queue t).length + 1 ≤ n →
    (run (taskMsgStep kind) s (replicate n (.advance t false))).1.released.count msg = 1

/-- A signal to a poller task wakes it up, and no message comes to a task, or is left in its queue, when its loop has
ended. -/
def TaskMsgOp.Kept (kind : τ → TaskKind) (s : Tasks τ) : TaskMsgOp τ → Prop
  | .signal t pushed woken =>
    match kind t with
    | .poller => woken = true ∧ ((s.thread t).running || (s.thread t).awake) = true
    | .consumer => pushed = true → (s.thread t).running = true
    | .engine => ((s.thread t).running || (s.thread t).awake) = true
  | .advance t ends => kind t = .consumer → s.current t ≠ none → ends = true → s.queue t = []
  | .stop t => kind t = .engine → (s.thread t).awake = false → s.queue t = []

/-! ## Where a message is held -/

/-- A message of `t` that was accepted or refused, or neither because it is not sent yet. -/
structure Counted (s : TaskQueues τ) (msg : ℕ) (t : τ) (accepted refused : Bool) : Prop where
  elsewhere : ∀ u, u ≠ t → (s.queue u).count msg = 0 ∧ s.current u ≠ some msg
  begun : s.current t = some msg → 0 < s.processed.count msg
  queued : (s.queue t).count msg + s.processed.count msg = accepted.toNat
  freed : s.released.count msg + (if s.current t = some msg then 1 else 0) =
    s.processed.count msg + refused.toNat

structure MsgInv (s : TaskQueues τ) : Prop where
  counted : ∀ msg t result, s.sent[msg]? = some (t, result) → Counted s msg t result !result
  fresh : ∀ msg t, s.sent.length ≤ msg → Counted s msg t false false

/-- Only the push of a consumer task can fail. -/
def TaskKind.pushes (pushed : Bool) : TaskKind → Bool
  | .consumer => pushed
  | _ => true

omit [DecidableEq τ] in
theorem signalMsg_result_iff (kind : TaskKind) (queue : List ℕ) (msg : ℕ) (pushed woken : Bool) :
    (kind.signalMsg queue msg pushed woken).1 = (if kind.pushes pushed then queue ++ [msg] else queue) ∧
      ((kind.signalMsg queue msg pushed woken).2 = kind.pushes pushed ↔ (kind = .poller → woken = true)) := by
  cases kind <;> cases pushed <;> cases woken <;>
    simp [TaskKind.signalMsg, TaskKind.pushes, aptPollerTaskMsgSignal, aptConsumerTaskMsgSignal, mpfEngineMsgSignal]

section Steps

variable {kind : τ → TaskKind} {s s' : TaskQueues τ} {msg : ℕ} {t : τ} {accepted refused : Bool}

omit [DecidableEq τ] in
theorem msgInv_create : MsgInv (taskQueuesCreate : TaskQueues τ) :=
  ⟨fun msg t result h => by simp [taskQueuesCreate] at h,
    fun msg t _ => ⟨fun u _ => by simp [taskQueuesCreate], by simp [taskQueuesCreate], rfl, rfl⟩⟩

omit [DecidableEq τ] in
theorem Counted.of_same (h : Counted s msg t accepted refused)
    (hq : ∀ u, (s'.queue u).count msg = (s.queue u).count msg)
    (hc : ∀ u, s'.current u = some msg ↔ s.current u = some msg)
    (hp : s'.processed.count msg = s.processed.count msg) (hr : s'.released.count msg = s.released.count msg) :
    Counted s' msg t accepted refused := by
  refine ⟨fun u hu => ?_, fun hm => ?_, ?_, ?_⟩
  · rw [hq, Ne, hc]
    exact h.elsewhere u hu
  · rw [hp]
    exact h.begun ((hc t).1 hm)
  · rw [hq, hp]
    exact h.queued
  · simp only [hr, hc, hp]
    exact h.freed

omit [DecidableEq τ] in
theorem MsgInv.held (h : MsgInv s) : MsgsHeld s := by
  intro msg t result hm
  have hc := h.counted msg t result hm
  refine ⟨fun u hu => ⟨count_eq_zero.1 (hc.elsewhere u hu).1, (hc.elsewhere u hu).2⟩, ?_, ?_⟩
  · rintro rfl
    have hq := hc.queued
    have hf := hc.freed
    simp only [Bool.toNat_false, Nat.add_eq_zero_iff] at hq
    have hn : s.current t ≠ some msg := fun hm => Nat.ne_of_gt (hc.begun hm) hq.2
    rw [if_neg hn, hq.2] at hf
    exact ⟨count_eq_zero.1 hq.1, hn, count_eq_zero.1 hq.2, hf⟩
  · rintro rfl
    exact ⟨hc.queued, hc.freed⟩

omit [DecidableEq τ] in
theorem MsgInv.sent_of_mem (h : MsgInv s) (hm : msg ∈ s.queue t) : s.sent[msg]? = some (t, true) := by
  have hpos := count_pos_iff.2 hm
  cases hs : s.sent[msg]? with
  | none =>
    have hq := (h.fresh msg t (List.getElem?_eq_none_iff.1 hs)).queued
    rw [Bool.toNat_false] at hq
    omega
  | some r =>
    obtain ⟨u, result⟩ := r
    have hc := h.counted msg u result hs
    have hu : t = u := by
      by_contra hu
      exact Nat.ne_of_gt hpos (hc.elsewhere t hu).1
    subst hu
    cases result with
    | false =>
      have hq := hc.queued
      rw [Bool.toNat_false] at hq
      omega
    | true => rfl

theorem Counted.pop (h : Counted s msg t accepted refused) (u : τ) :
    Counted (aptTaskMsgPop s u) msg t accepted refused := by
  rw [aptTaskMsgPop]
  split
  · rename_i m rest hcur hqu
    by_cases hm : m = msg
    · subst hm
      have hu : u = t := by
        by_contra hu
        exact absurd (h.elsewhere u hu).1 (by simp [hqu])
      subst hu
      have hq := h.queued
      have hf := h.freed
      rw [hqu, count_cons_self] at hq
      rw [if_neg (by simp [hcur])] at hf
      refine ⟨fun v hv => ?_, fun _ => ?_, ?_, ?_⟩
      · simpa [update_of_ne hv] using h.elsewhere v hv
      · simp
      · simp only [update_self, count_append, count_singleton_self]
        omega
      · simp only [update_self, count_append, count_singleton_self, if_true]
        omega
    · refine h.of_same (fun v => ?_) (fun v => ?_) (by simp [hm]) rfl
      · by_cases hv : v = u
        · subst hv
          simp [hqu, hm]
        · simp [update_of_ne hv]
      · by_cases hv : v = u
        · subst hv
          simp [hcur, hm]
        · simp [update_of_ne hv]
  · exact h

theorem Counted.done (h : Counted s msg t accepted refused) (u : τ) :
    Counted (aptTaskMsgDone s u) msg t accepted refused := by
  rw [aptTaskMsgDone]
  split
  · rename_i m hcur
    by_cases hm : m = msg
    · subst hm
      have hu : u = t := by
        by_contra hu
        exact (h.elsewhere u hu).2 hcur
      subst hu
      have hf := h.freed
      rw [if_pos hcur] at hf
      refine ⟨fun v hv => ?_, by simp, h.queued, ?_⟩
      · simpa [update_of_ne hv] using h.elsewhere v hv
      · simpa using hf
    · refine h.of_same (fun _ => rfl) (fun v => ?_) rfl (by simp [hm])
      by_cases hv : v = u
      · subst hv
        simp [hcur, hm]
      · simp [update_of_ne hv]
  · exact h

omit [DecidableEq τ] in
theorem MsgInv.of_counted (h : MsgInv s) (hs : s'.sent = s.sent)
    (hc : ∀ msg t accepted refused, Counted s msg t accepted refused → Counted s' msg t accepted refused) :
    MsgInv s' :=
  ⟨fun msg t result hm => hc _ _ _ _ (h.counted msg t result (hs ▸ hm)),
    fun msg t hm => hc _ _ _ _ (h.fresh msg t (hs ▸ hm))⟩

theorem aptTaskMsgPop_sent (s : TaskQueues τ) (t : τ) : (aptTaskMsgPop s t).sent = s.sent := by
  rw [aptTaskMsgPop]
  split <;> rfl

theorem aptTaskMsgDone_sent (s : TaskQueues τ) (t : τ) : (aptTaskMsgDone s t).sent = s.sent := by
  rw [aptTaskMsgDone]
  split <;> rfl

theorem MsgInv.pop (h : MsgInv s) (t : τ) : MsgInv (aptTaskMsgPop s t) :=
  h.of_counted (aptTaskMsgPop_sent s t) fun _ _ _ _ hc => hc.pop t

theorem MsgInv.done (h : MsgInv s) (t : τ) : MsgInv (aptTaskMsgDone s t) :=
  h.of_counted (aptTaskMsgDone_sent s t) fun _ _ _ _ hc => hc.done t

theorem aptTaskMsgSignal_queue (s : TaskQueues τ) (t : τ) (pushed woken : Bool) :
    (aptTaskMsgSignal kind s t pushed woken).queue t =
      if (kind t).pushes pushed then s.queue t ++ [s.sent.length] else s.queue t :=
  (update_self ..).trans (signalMsg_result_iff ..).1

theorem aptTaskMsgSignal_queue_other (s : TaskQueues τ) {t u : τ} (hu : u ≠ t) (pushed woken : Bool) :
    (aptTaskMsgSignal kind s t pushed woken).queue u = s.queue u :=
  update_of_ne hu ..

theorem Counted.signal_old (h : Counted s msg t accepted refused) (hm : msg ≠ s.sent.length) (u : τ)
    (pushed woken : Bool) : Counted (aptTaskMsgSignal kind s u pushed woken) msg t accepted refused := by
  refine h.of_same (fun v => ?_) (fun _ => Iff.rfl) rfl ?_
  · by_cases hv : v = u
    · subst hv
      rw [aptTaskMsgSignal_queue]
      split
      · simp [hm.symm]
      · rfl
    · rw [aptTaskMsgSignal_queue_other s hv]
  · simp only [aptTaskMsgSignal]
    split
    · rfl
    · simp [hm.symm]

theorem MsgInv.signal_new (h : MsgInv s) (t : τ) (pushed woken : Bool) :
    Counted (aptTaskMsgSignal kind s t pushed woken) s.sent.length t ((kind t).pushes pushed)
      !((kind t).signalMsg (s.queue t) s.sent.length pushed woken).2 := by
  have hf := h.fresh s.sent.length t (Nat.le_refl _)
  have hq := hf.queued
  have hr := hf.freed
  rw [Bool.toNat_false, Nat.add_eq_zero_iff] at hq
  rw [hq.2, Bool.toNat_false, Nat.add_eq_zero_iff] at hr
  have hp : (aptTaskMsgSignal kind s t pushed woken).processed = s.processed := rfl
  have hc : (aptTaskMsgSignal kind s t pushed woken).current = s.current := rfl
  refine ⟨fun u hu => ?_, hf.begun, ?_, ?_⟩
  · rw [aptTaskMsgSignal_queue_other s hu]
    exact hf.elsewhere u hu
  · rw [hp, aptTaskMsgSignal_queue, hq.2]
    split
    · rename_i hp
      simp [hp, hq.1]
    · rename_i hp
      simp [hp, hq.1]
  · simp only [hc, hp]
    rw [hr.2, hq.2]
    simp only [aptTaskMsgSignal]
    cases ((kind t).signalMsg (s.queue t) s.sent.length pushed woken).2 with
    | false => simp [hr.1]
    | true => simp [hr.1]

theorem MsgInv.signal_iff (h : MsgInv s) (t : τ) (pushed woken : Bool) :
    (MsgsHeld (aptTaskMsgSignal kind s t pushed woken) → kind t = .poller → woken = true) ∧
      ((kind t = .poller → woken = true) → MsgInv (aptTaskMsgSignal kind s t pushed woken)) := by
  have hs : (aptTaskMsgSignal kind s t pushed woken).sent =
      s.sent ++ [(t, ((kind t).signalMsg (s.queue t) s.sent.length pushed woken).2)] := rfl
  have hc : Counted (aptTaskMsgSignal kind s t pushed woken) _ _ _ _ := h.signal_new t pushed woken
  rw [← (signalMsg_result_iff (kind t) (s.queue t) s.sent.length pushed woken).2]
  generalize ((kind t).signalMsg (s.queue t) s.sent.length pushed woken).2 = result at hs hc ⊢
  constructor
  · intro hh
    have hn := hh s.sent.length t result (by rw [hs, List.getElem?_concat_length])
    have hq := hc.queued
    cases result with
    | false =>
      rw [count_eq_zero.2 (hn.refused rfl).1, count_eq_zero.2 (hn.refused rfl).2.2.1] at hq
      cases hp : (kind t).pushes pushed with
      | false => rfl
      | true => simp [hp] at hq
    | true =>
      rw [(hn.accepted rfl).1] at hq
      cases hp : (kind t).pushes pushed with
      | false => simp [hp] at hq
      | true => rfl
  · rintro rfl
    refine ⟨fun msg u result hm => ?_, fun msg u hm => ?_⟩
    · rw [hs, List.getElem?_append] at hm
      split at hm
      · rename_i hlt
        exact (h.counted msg u result hm).signal_old (Nat.ne_of_lt hlt) ..
      · obtain ⟨hlt, he⟩ := List.getElem?_eq_some_iff.1 hm
        rw [length_singleton] at hlt
        have hm : msg = s.sent.length := by omega
        subst hm
        simp only [Nat.sub_self, getElem_cons_zero, Prod.mk.injEq] at he
        obtain ⟨rfl, rfl⟩ := he
        exact hc
    · rw [hs, length_append, length_singleton] at hm
      exact (h.fresh msg u (by omega)).signal_old (by omega) ..

end Steps

/-! ## The threads -/

section Threads

/-- The thread takes the next message of the queue in its next step. -/
def TaskThread.takes (kind : TaskKind) (thread : TaskThread) : Bool :=
  if kind = .consumer then thread.running else thread.awake

/-- The thread comes to the next message of the queue. -/
def TaskThread.reads (thread : TaskThread) : TaskKind → Bool
  | .poller => thread.awake || thread.running && thread.woken
  | .consumer => thread.running
  | .engine => thread.awake || thread.running

structure TasksInv (kind : τ → TaskKind) (s : Tasks τ) : Prop where
  msgs : MsgInv s.toTaskQueues
  reads : ∀ t, s.queue t ≠ [] → (s.thread t).reads (kind t)
  inside : ∀ t, s.current t ≠ none → (s.thread t).takes (kind t)

variable {kind : τ → TaskKind} {s : Tasks τ} {t : τ} {msg : ℕ}

omit [DecidableEq τ] in
theorem tasksInv_create : TasksInv kind tasksCreate :=
  ⟨msgInv_create, fun _ h => absurd rfl h, fun _ h => absurd rfl h⟩

omit [DecidableEq τ] in
theorem reads_of_takes {kind : TaskKind} {thread : TaskThread} (h : thread.takes kind) : thread.reads kind := by
  cases kind <;> simp_all [TaskThread.takes, TaskThread.reads]

@[simp] theorem threadSet_queues (s : Tasks τ) (t : τ) (thread : TaskThread) :
    (s.threadSet t thread).toTaskQueues = s.toTaskQueues := rfl

@[simp] theorem threadSet_self (s : Tasks τ) (t : τ) (thread : TaskThread) :
    (s.threadSet t thread).thread t = thread :=
  update_self ..

theorem threadSet_of_ne (s : Tasks τ) {t u : τ} (thread : TaskThread) (h : u ≠ t) :
    (s.threadSet t thread).thread u = s.thread u :=
  update_of_ne h ..

@[simp] theorem aptTaskMsgDone_queue (s : TaskQueues τ) (t : τ) : (aptTaskMsgDone s t).queue = s.queue := by
  rw [aptTaskMsgDone]
  split <;> rfl

theorem round_cases (kind : TaskKind) (hk : kind ≠ .consumer) {starts : Bool} {thread : TaskThread}
    (hr : (s.thread t).reads kind = ((s.thread t).awake || starts)) (ha : thread.awake = true) :
    let next := if (s.thread t).awake then aptTaskQueueProcess s t
      else if starts then s.threadSet t thread else s
    (s.thread t).takes kind ∧ s.queue t ≠ [] ∧ next = { s with toTaskQueues := aptTaskMsgPop s.toTaskQueues t } ∨
      s.queue t = [] ∧ (∃ thread, next = s.threadSet t thread) ∨
      (s.thread t).takes kind = false ∧ (s.thread t).reads kind ∧
        (∃ thread, next = s.threadSet t thread ∧ thread.takes kind) ∨
      (s.thread t).reads kind = false ∧ next = s := by
  dsimp only
  rw [hr, TaskThread.takes, if_neg hk]
  cases (s.thread t).awake with
  | true =>
    rw [if_pos rfl, aptTaskQueueProcess]
    split
    · rename_i hq
      exact Or.inr (Or.inl ⟨hq, _, rfl⟩)
    · rename_i hq
      exact Or.inl ⟨rfl, hq, rfl⟩
  | false =>
    rw [if_neg Bool.false_ne_true]
    cases starts with
    | true => exact Or.inr (Or.inr (Or.inl ⟨rfl, rfl, thread, rfl, by rwa [TaskThread.takes, if_neg hk]⟩))
    | false => exact Or.inr (Or.inr (Or.inr ⟨rfl, rfl⟩))

theorem aptTaskAdvance_cases (kind : τ → TaskKind) (s : Tasks τ) (t : τ) (ends : Bool) :
    (∃ msg thread, s.current t = some msg ∧
      aptTaskAdvance kind s t ends = { s with toTaskQueues := aptTaskMsgDone s.toTaskQueues t }.threadSet t thread ∧
      thread.awake = (s.thread t).awake ∧ (kind t = .consumer → ends = false → thread = s.thread t)) ∨
    s.current t = none ∧
      ((s.thread t).takes (kind t) ∧ s.queue t ≠ [] ∧
          aptTaskAdvance kind s t ends = { s with toTaskQueues := aptTaskMsgPop s.toTaskQueues t } ∨
        s.queue t = [] ∧ (∃ thread, aptTaskAdvance kind s t ends = s.threadSet t thread) ∨
        (s.thread t).takes (kind t) = false ∧ (s.thread t).reads (kind t) ∧
          (∃ thread, aptTaskAdvance kind s t ends = s.threadSet t thread ∧ thread.takes (kind t)) ∨
        (s.thread t).reads (kind t) = false ∧ aptTaskAdvance kind s t ends = s) := by
  rw [aptTaskAdvance]
  cases hc : s.current t with
  | some msg =>
    refine Or.inl ⟨msg, _, rfl, rfl, rfl, fun hk he => ?_⟩
    simp [he]
  | none =>
    refine Or.inr ⟨rfl, ?_⟩
    cases hk : kind t with
    | consumer =>
      dsimp only [aptConsumerTaskRun, TaskThread.takes, TaskThread.reads]
      by_cases hr : (s.thread t).running = true
      · rw [if_pos hr]
        by_cases hq : s.queue t = []
        · refine Or.inr (Or.inl ⟨hq, s.thread t, ?_⟩)
          simp [aptTaskMsgPop, hc, hq, Tasks.threadSet]
        · exact Or.inl ⟨hr, hq, rfl⟩
      · rw [if_neg hr]
        exact Or.inr (Or.inr (Or.inr ⟨Bool.eq_false_iff.2 hr, rfl⟩))
    | poller => exact round_cases .poller (by decide) rfl rfl
    | engine => exact round_cases .engine (by decide) rfl rfl

theorem aptTaskAdvance_other (kind : τ → TaskKind) (s : Tasks τ) (ends : Bool) {t u : τ} (hu : u ≠ t) :
    (aptTaskAdvance kind s t ends).queue u = s.queue u ∧ (aptTaskAdvance kind s t ends).current u = s.current u ∧
      (aptTaskAdvance kind s t ends).thread u = s.thread u := by
  rcases aptTaskAdvance_cases kind s t ends with ⟨msg, thread, hc, he, -⟩ |
    ⟨hc, ⟨-, hq, he⟩ | ⟨-, thread, he⟩ | ⟨-, -, thread, he, -⟩ | ⟨-, he⟩⟩
  · rw [he, threadSet_of_ne _ _ hu]
    simp [aptTaskMsgDone, hc, update_of_ne hu]
  · rw [he]
    obtain ⟨msg, rest, hq⟩ := exists_cons_of_ne_nil hq
    simp [aptTaskMsgPop, hc, hq, update_of_ne hu]
  · rw [he, threadSet_of_ne _ _ hu]
    exact ⟨rfl, rfl, rfl⟩
  · rw [he, threadSet_of_ne _ _ hu]
    exact ⟨rfl, rfl, rfl⟩
  · rw [he]
    exact ⟨rfl, rfl, rfl⟩

theorem MsgInv.advance (h : MsgInv s.toTaskQueues) (t : τ) (ends : Bool) :
    MsgInv (aptTaskAdvance kind s t ends).toTaskQueues := by
  rcases aptTaskAdvance_cases kind s t ends with ⟨msg, thread, hc, he, -⟩ |
    ⟨hc, ⟨-, hq, he⟩ | ⟨-, thread, he⟩ | ⟨-, -, thread, he, -⟩ | ⟨-, he⟩⟩ <;> rw [he]
  · exact h.done t
  · exact h.pop t
  · exact h
  · exact h
  · exact h

theorem TasksInv.advance (h : TasksInv kind s) {t : τ} {ends : Bool} (hk : (TaskMsgOp.advance t ends).Kept kind s) :
    TasksInv kind (aptTaskAdvance kind s t ends) := by
  refine ⟨h.msgs.advance t ends, fun u => ?_, fun u => ?_⟩
  · by_cases hu : u = t
    · subst hu
      rcases aptTaskAdvance_cases kind s u ends with ⟨msg, thread, hc, he, ha, hth⟩ |
        ⟨hc, ⟨ht, hq, he⟩ | ⟨hq, thread, he⟩ | ⟨-, -, thread, he, ht⟩ | ⟨-, he⟩⟩ <;> rw [he]
      · intro hq
        have hin := h.inside u (hc ▸ Option.some_ne_none _)
        rw [threadSet_queues, aptTaskMsgDone_queue] at hq
        rw [threadSet_self]
        apply reads_of_takes
        by_cases hcon : kind u = .consumer
        · have hends : ends = false := by
            by_contra hends
            exact hq (hk hcon (hc ▸ Option.some_ne_none _) (by simpa using hends))
          rwa [hth hcon hends]
        · rw [TaskThread.takes, if_neg hcon] at hin ⊢
          rwa [ha]
      · exact fun _ => reads_of_takes ht
      · exact fun hq' => absurd hq hq'
      · intro _
        rw [threadSet_self]
        exact reads_of_takes ht
      · exact h.reads u
    · obtain ⟨hq, -, ht⟩ := aptTaskAdvance_other kind s ends hu
      rw [hq, ht]
      exact h.reads u
  · by_cases hu : u = t
    · subst hu
      rcases aptTaskAdvance_cases kind s u ends with ⟨msg, thread, hc, he, -⟩ |
        ⟨hc, ⟨ht, hq, he⟩ | ⟨hq, thread, he⟩ | ⟨-, -, thread, he, ht⟩ | ⟨-, he⟩⟩ <;> rw [he]
      · intro hn
        exact absurd (by simp [aptTaskMsgDone, hc]) hn
      · exact fun _ => ht
      · exact fun hn => absurd hc hn
      · exact fun hn => absurd hc hn
      · exact fun hn => absurd hc hn
    · obtain ⟨-, hc, ht⟩ := aptTaskAdvance_other kind s ends hu
      rw [hc, ht]
      exact h.inside u

theorem TasksInv.stop (h : TasksInv kind s) {t : τ} (hk : (TaskMsgOp.stop t).Kept kind s) :
    TasksInv kind (mpfSchedulerStop kind s t) := by
  rw [mpfSchedulerStop]
  split
  · rename_i he
    refine ⟨h.msgs, fun u hq => ?_, fun u hc => ?_⟩
    · by_cases hu : u = t
      · subst hu
        rw [threadSet_self, he]
        have ha : (s.thread u).awake = true := by
          by_contra ha
          exact hq (hk he (by simpa using ha))
        simp [TaskThread.reads, ha]
      · rw [threadSet_of_ne _ _ hu]
        exact h.reads u hq
    · have ht := h.inside u hc
      by_cases hu : u = t
      · subst hu
        rw [threadSet_self]
        rw [he] at ht ⊢
        exact ht
      · rwa [threadSet_of_ne _ _ hu]
  · exact h

omit [DecidableEq τ] in
theorem kept_woken {pushed woken : Bool} (hk : (TaskMsgOp.signal t pushed woken).Kept kind s) :
    kind t = .poller → woken = true := by
  intro he
  rw [TaskMsgOp.Kept, he] at hk
  exact hk.1

theorem TasksInv.signal (h : TasksInv kind s) {t : τ} {pushed woken : Bool}
    (hk : (TaskMsgOp.signal t pushed woken).Kept kind s) :
    TasksInv kind (taskMsgStep kind s (.signal t pushed woken)).1 := by
  refine ⟨(h.msgs.signal_iff _ _ _).2 (kept_woken hk), fun u => ?_, fun u hc => ?_⟩
  · dsimp only [taskMsgStep]
    by_cases hu : u = t
    · subst hu
      rw [threadSet_queues, threadSet_self, aptTaskMsgSignal_queue]
      have hr := h.reads u
      rw [TaskMsgOp.Kept] at hk
      cases he : kind u with
      | poller =>
        rw [he] at hk
        obtain ⟨rfl, hl⟩ := hk
        intro _
        simpa [TaskThread.reads, or_comm] using hl
      | consumer =>
        rw [he] at hk hr
        cases pushed with
        | false => exact hr
        | true => exact fun _ => hk rfl
      | engine =>
        rw [he] at hk
        intro _
        simpa [TaskThread.reads, or_comm] using hk
    · rw [threadSet_queues, threadSet_of_ne _ _ hu, aptTaskMsgSignal_queue_other _ hu]
      exact h.reads u
  · have ht := h.inside u hc
    dsimp only [taskMsgStep]
    by_cases hu : u = t
    · subst hu
      rw [threadSet_self]
      exact ht
    · rwa [threadSet_of_ne _ _ hu]

theorem TasksInv.step (h : TasksInv kind s) {op : TaskMsgOp τ} (hk : op.Kept kind s) :
    TasksInv kind (taskMsgStep kind s op).1 := by
  cases op with
  | signal t pushed woken => exact h.signal hk
  | advance t ends => exact h.advance hk
  | stop t => exact h.stop hk

/-! ## A message that waits is released -/

/-- The message is being processed, or comes to it in `n` steps of the thread. -/
def Waits (kind : τ → TaskKind) (s : Tasks τ) (t : τ) (msg n : ℕ) : Prop :=
  s.current t = some msg ∧ n = 1 ∨
    ∃ before after, s.queue t = before ++ msg :: after ∧
      n = 3 * before.length + if s.current t = none then if (s.thread t).takes (kind t) then 2 else 3 else 4

omit [DecidableEq τ] in
theorem Waits.pos {n : ℕ} (h : Waits kind s t msg n) : 1 ≤ n := by
  rcases h with ⟨-, rfl⟩ | ⟨before, after, -, rfl⟩
  · exact Nat.le_refl 1
  · split
    · split <;> omega
    · omega

theorem released_advance (t : τ) (ends : Bool) (h : msg ∈ s.released) :
    msg ∈ (aptTaskAdvance kind s t ends).released := by
  rcases aptTaskAdvance_cases kind s t ends with ⟨m, thread, hc, he, -⟩ |
    ⟨hc, ⟨-, hq, he⟩ | ⟨-, thread, he⟩ | ⟨-, -, thread, he, -⟩ | ⟨-, he⟩⟩ <;> rw [he]
  · simp [aptTaskMsgDone, hc, h]
  · obtain ⟨m, rest, hq⟩ := exists_cons_of_ne_nil hq
    simp [aptTaskMsgPop, hc, hq, h]
  · exact h
  · exact h
  · exact h

theorem TasksInv.waits_advance (h : TasksInv kind s) {n : ℕ} (hw : Waits kind s t msg n) (ends : Bool) :
    msg ∈ (aptTaskAdvance kind s t ends).released ∨
      ∃ m, Waits kind (aptTaskAdvance kind s t ends) t msg m ∧ m + 1 ≤ n := by
  rcases aptTaskAdvance_cases kind s t ends with ⟨m, thread, hc, he, -⟩ |
    ⟨hc, ⟨ht, hq, he⟩ | ⟨hq, thread, he⟩ | ⟨ht, -, thread, he, ht'⟩ | ⟨ht, he⟩⟩ <;> rw [he]
  · rcases hw with ⟨hc', -⟩ | ⟨before, after, hq, rfl⟩
    · rw [hc] at hc'
      cases hc'
      exact Or.inl (by simp [aptTaskMsgDone, hc])
    · refine Or.inr ⟨_, Or.inr ⟨before, after, by simpa using hq, rfl⟩, ?_⟩
      have hn : (aptTaskMsgDone s.toTaskQueues t).current t = none := by simp [aptTaskMsgDone, hc]
      have hs : ¬s.current t = none := hc ▸ Option.some_ne_none m
      rw [threadSet_queues, if_pos hn, if_neg hs]
      split <;> omega
  · rcases hw with ⟨hc', -⟩ | ⟨before, after, hq', rfl⟩
    · rw [hc] at hc'
      cases hc'
    · rw [if_pos hc, if_pos ht]
      cases before with
      | nil => exact Or.inr ⟨1, Or.inl ⟨by simp [aptTaskMsgPop, hc, hq'], rfl⟩, by omega⟩
      | cons x before =>
        have hn : (aptTaskMsgPop s.toTaskQueues t).current t = some x := by simp [aptTaskMsgPop, hc, hq']
        refine Or.inr ⟨_, Or.inr ⟨before, after, by simp [aptTaskMsgPop, hc, hq'], rfl⟩, ?_⟩
        rw [hn, if_neg (by simp), length_cons]
        omega
  · rcases hw with ⟨hc', -⟩ | ⟨before, after, hq', -⟩
    · rw [hc] at hc'
      cases hc'
    · simp [hq] at hq'
  · rcases hw with ⟨hc', -⟩ | ⟨before, after, hq', rfl⟩
    · rw [hc] at hc'
      cases hc'
    · refine Or.inr ⟨_, Or.inr ⟨before, after, hq', rfl⟩, ?_⟩
      rw [threadSet_queues, threadSet_self, if_pos hc, if_pos ht', if_pos hc, ht, if_neg Bool.false_ne_true]
  · rcases hw with ⟨hc', -⟩ | ⟨before, after, hq', -⟩
    · rw [hc] at hc'
      cases hc'
    · have hr := h.reads t (by simp [hq'])
      rw [ht] at hr
      cases hr

omit [DecidableEq τ] in
theorem Waits.congr {s' : Tasks τ} {n : ℕ} (h : Waits kind s t msg n) {later : List ℕ}
    (hq : s'.queue t = s.queue t ++ later) (hc : s'.current t = s.current t)
    (ht : s.current t = none → s.queue t ≠ [] → (s'.thread t).takes (kind t) = (s.thread t).takes (kind t)) :
    Waits kind s' t msg n := by
  rcases h with ⟨hm, rfl⟩ | ⟨before, after, hb, rfl⟩
  · exact Or.inl ⟨hc.trans hm, rfl⟩
  · refine Or.inr ⟨before, after ++ later, by simp [hq, hb], ?_⟩
    rw [hc]
    split
    · rename_i hn
      rw [ht hn (by simp [hb])]
    · rfl

theorem TasksInv.waits_step (h : TasksInv kind s) {n : ℕ} (hw : Waits kind s t msg n) {op : TaskMsgOp τ}
    (hk : op.Kept kind s) : msg ∈ (taskMsgStep kind s op).1.released ∨
      ∃ m, Waits kind (taskMsgStep kind s op).1 t msg m ∧ m + (if op.advances t then 1 else 0) ≤ n := by
  cases op with
  | signal u pushed woken =>
    refine Or.inr ⟨n, ?_, Nat.le_refl n⟩
    dsimp only [taskMsgStep]
    by_cases hu : t = u
    · subst hu
      refine hw.congr (?_ : _ = _ ++ if (kind t).pushes pushed then [s.sent.length] else []) rfl fun _ _ => ?_
      · rw [threadSet_queues, aptTaskMsgSignal_queue]
        split
        · rfl
        · exact (append_nil _).symm
      · rw [threadSet_self]
        rfl
    · refine hw.congr (?_ : _ = _ ++ []) rfl fun _ _ => ?_
      · rw [threadSet_queues, aptTaskMsgSignal_queue_other _ hu, append_nil]
      · rw [threadSet_of_ne _ _ hu]
  | advance u ends =>
    by_cases hu : t = u
    · subst hu
      rw [TaskMsgOp.advances, decide_eq_true rfl, if_pos rfl]
      exact h.waits_advance hw ends
    · obtain ⟨hq, hc, ht⟩ := aptTaskAdvance_other kind s ends hu
      have ha : (TaskMsgOp.advance u ends).advances t = false := decide_eq_false (Ne.symm hu)
      rw [ha]
      exact Or.inr ⟨n, hw.congr (hq.trans (append_nil _).symm) hc fun _ _ => congrArg _ ht, Nat.le_refl n⟩
  | stop u =>
    refine Or.inr ⟨n, ?_, Nat.le_refl n⟩
    dsimp only [taskMsgStep]
    rw [mpfSchedulerStop]
    split
    · rename_i he
      refine hw.congr (append_nil _).symm rfl fun _ _ => ?_
      by_cases hu : t = u
      · subst hu
        rw [threadSet_self, he]
        rfl
      · rw [threadSet_of_ne _ _ hu]
    · exact hw

theorem released_step (op : TaskMsgOp τ) (h : msg ∈ s.released) : msg ∈ (taskMsgStep kind s op).1.released := by
  cases op with
  | signal u pushed woken =>
    change msg ∈ if _ then s.released else s.released ++ [_]
    split
    · exact h
    · exact mem_append_left _ h
  | advance u ends => exact released_advance u ends h
  | stop u =>
    dsimp only [taskMsgStep]
    rw [mpfSchedulerStop]
    split <;> exact h

theorem sent_step (op : TaskMsgOp τ) {r : τ × Bool} (h : s.sent[msg]? = some r) :
    (taskMsgStep kind s op).1.sent[msg]? = some r := by
  cases op with
  | signal u pushed woken =>
    change (s.sent ++ [_])[msg]? = some r
    rwa [getElem?_append_left (List.getElem?_eq_some_iff.1 h).1]
  | advance u ends =>
    dsimp only [taskMsgStep]
    rcases aptTaskAdvance_cases kind s u ends with ⟨m, thread, hc, he, -⟩ |
      ⟨hc, ⟨-, hq, he⟩ | ⟨-, thread, he⟩ | ⟨-, -, thread, he, -⟩ | ⟨-, he⟩⟩ <;> rw [he]
    · simpa [aptTaskMsgDone, hc] using h
    · obtain ⟨m, rest, hq⟩ := exists_cons_of_ne_nil hq
      simpa [aptTaskMsgPop, hc, hq] using h
    · exact h
    · exact h
    · exact h
  | stop u =>
    dsimp only [taskMsgStep]
    rw [mpfSchedulerStop]
    split <;> exact h

variable {ops : List (TaskMsgOp τ)}

theorem TasksInv.run (h : TasksInv kind s) (hk : EachStep (taskMsgStep kind) (TaskMsgOp.Kept kind) s ops) :
    TasksInv kind (Lib.run (taskMsgStep kind) s ops).1 :=
  run_invariant (TasksInv kind) (TaskMsgOp.Kept kind) (fun _ _ hs => hs.step) s ops h hk

theorem TasksInv.waits_run (h : TasksInv kind s) (hk : EachStep (taskMsgStep kind) (TaskMsgOp.Kept kind) s ops)
    {n : ℕ} (hw : msg ∈ s.released ∨ Waits kind s t msg n) :
    msg ∈ (Lib.run (taskMsgStep kind) s ops).1.released ∨ 1 + ops.countP (TaskMsgOp.advances t) ≤ n := by
  induction ops generalizing s n with
  | nil =>
    refine hw.imp_right fun hw => ?_
    have := hw.pos
    simpa using this
  | cons op ops ih =>
    rw [run_cons, countP_cons]
    rcases hw with hr | hw
    · exact Or.inl ((ih (h.step hk.1) hk.2 (Or.inl (released_step op hr)) (n := 0)).resolve_right (by omega))
    · rcases h.waits_step hw hk.1 with hr | ⟨m, hw, hm⟩
      · exact Or.inl ((ih (h.step hk.1) hk.2 (Or.inl hr) (n := 0)).resolve_right (by omega))
      · exact (ih (h.step hk.1) hk.2 (Or.inr hw)).imp_right fun hn => by omega

theorem sent_run {r : τ × Bool} (h : s.sent[msg]? = some r) :
    (run (taskMsgStep kind) s ops).1.sent[msg]? = some r := by
  induction ops generalizing s with
  | nil => exact h
  | cons op ops ih => exact ih (sent_step op h)

theorem TasksInv.released (h : TasksInv kind s) (hk : EachStep (taskMsgStep kind) (TaskMsgOp.Kept kind) s ops)
    (hm : s.sent[msg]? = some (t, true)) (hn : 3 * (s.queue t).length + 1 ≤ ops.countP (TaskMsgOp.advances t)) :
    (Lib.run (taskMsgStep kind) s ops).1.released.count msg = 1 := by
  obtain ⟨hp, hl⟩ := (h.msgs.held msg t true hm).accepted rfl
  obtain ⟨n, hw, hle⟩ : ∃ n, (msg ∈ s.released ∨ Waits kind s t msg n) ∧ n ≤ 3 * (s.queue t).length + 1 := by
    by_cases hc : s.current t = some msg
    · exact ⟨1, Or.inr (Or.inl ⟨hc, rfl⟩), by omega⟩
    by_cases hq : msg ∈ s.queue t
    · obtain ⟨before, after, hb⟩ := append_of_mem hq
      refine ⟨_, Or.inr (Or.inr ⟨before, after, hb, rfl⟩), ?_⟩
      rw [hb, length_append, length_cons]
      split
      · split <;> omega
      · omega
    · rw [count_eq_zero.2 hq] at hp
      rw [if_neg hc] at hl
      exact ⟨0, Or.inl (count_pos_iff.1 (by omega)), by omega⟩
  have hr := (h.waits_run hk hw).resolve_right (by omega)
  obtain ⟨hp', hl'⟩ := ((h.run hk).msgs.held msg t true (sent_run hm)).accepted rfl
  have := count_pos_iff.2 hr
  omega

/-! ## Messages that nobody takes -/

theorem not_msgsOwned_of_stranded (h : MsgInv s.toTaskQueues) (hc : s.current t = none) (hq : s.queue t ≠ [])
    (hr : (s.thread t).reads (kind t) = false) : ¬MsgsOwned kind s := by
  intro ho
  have hs (n : ℕ) : (run (taskMsgStep kind) s (replicate n (.advance t false))).1 = s := by
    induction n with
    | zero => rfl
    | succ n ih =>
      have he : aptTaskAdvance kind s t false = s := by
        rcases aptTaskAdvance_cases kind s t false with ⟨m, thread, hc', -⟩ |
          ⟨-, ⟨ht, -⟩ | ⟨hq', -⟩ | ⟨-, ht, -⟩ | ⟨-, he⟩⟩
        · simp [hc] at hc'
        · simp [reads_of_takes ht] at hr
        · exact absurd hq' hq
        · simp [hr] at ht
        · exact he
      rw [replicate_succ, run_cons]
      change (run _ (aptTaskAdvance kind s t false) _).1 = s
      rw [he, ih]
  obtain ⟨msg, rest, hm⟩ := exists_cons_of_ne_nil hq
  have hsent := h.sent_of_mem (hm ▸ mem_cons_self : msg ∈ s.queue t)
  have hone := ho.2 msg t hsent _ (Nat.le_refl _)
  obtain ⟨hp, hl⟩ := (h.held msg t true hsent).accepted rfl
  rw [hs] at hone
  rw [hm, count_cons_self] at hp
  omega

theorem kept_replicate (s : Tasks τ) (t : τ) (n : ℕ) :
    EachStep (taskMsgStep kind) (TaskMsgOp.Kept kind) s (replicate n (.advance t false)) := by
  induction n generalizing s with
  | zero => trivial
  | succ n ih => exact ⟨fun _ _ h => absurd h Bool.false_ne_true, ih _⟩

theorem TasksInv.owned (h : TasksInv kind s) : MsgsOwned kind s :=
  ⟨h.msgs.held, fun msg t hm n hn =>
    h.released (kept_replicate s t n) hm (by simpa [countP_replicate, TaskMsgOp.advances] using hn)⟩

theorem TasksInv.kept_signal (h : TasksInv kind s) {pushed woken : Bool}
    (ho : MsgsOwned kind (taskMsgStep kind s (.signal t pushed woken)).1) :
    (TaskMsgOp.signal t pushed woken).Kept kind s := by
  have hw := (h.msgs.signal_iff t pushed woken).1 ho.1
  have hr (hp : (kind t).pushes pushed = true) :
      TaskThread.reads { s.thread t with woken := (s.thread t).woken || woken } (kind t) = true := by
    by_contra hr
    refine not_msgsOwned_of_stranded (t := t) ((h.msgs.signal_iff t pushed woken).2 hw) ?_ ?_ ?_ ho
    · by_contra hc
      exact hr (reads_of_takes (h.inside t hc))
    · dsimp only [taskMsgStep]
      rw [threadSet_queues, aptTaskMsgSignal_queue, if_pos hp]
      simp
    · dsimp only [taskMsgStep]
      rw [threadSet_self]
      exact Bool.eq_false_iff.2 hr
  rw [TaskMsgOp.Kept]
  cases he : kind t with
  | poller =>
    rw [he] at hr
    have hr := hr rfl
    simp only [TaskThread.reads, Bool.or_eq_true, Bool.and_eq_true] at hr
    refine ⟨hw he, Bool.or_eq_true_iff.2 ?_⟩
    exact hr.symm.imp_left And.left
  | consumer =>
    rw [he] at hr
    exact hr
  | engine =>
    rw [he] at hr
    have hr := hr rfl
    rw [TaskThread.reads, Bool.or_comm] at hr
    exact hr

theorem TasksInv.step_iff (h : TasksInv kind s) (op : TaskMsgOp τ) :
    MsgsOwned kind (taskMsgStep kind s op).1 ↔ op.Kept kind s := by
  refine ⟨fun ho => ?_, fun hk => (h.step hk).owned⟩
  cases op with
  | signal t pushed woken => exact h.kept_signal ho
  | advance t ends =>
    intro he hc hends
    by_contra hq
    obtain ⟨msg, hc⟩ := Option.ne_none_iff_exists'.1 hc
    dsimp only [taskMsgStep] at ho
    rw [aptTaskAdvance, hc] at ho
    refine not_msgsOwned_of_stranded (t := t) (h.msgs.done t) (by simp [aptTaskMsgDone, hc]) ?_ ?_ ho
    · rwa [threadSet_queues, aptTaskMsgDone_queue]
    · simp [TaskThread.reads, he, hends]
  | stop t =>
    intro he ha
    by_contra hq
    dsimp only [taskMsgStep] at ho
    rw [mpfSchedulerStop, if_pos he] at ho
    refine not_msgsOwned_of_stranded (s := s.threadSet t _) (t := t) h.msgs ?_ hq ?_ ho
    · by_contra hc
      have ht := h.inside t hc
      rw [TaskThread.takes, he, if_neg (by decide), ha] at ht
      cases ht
    · simp [TaskThread.reads, he, ha]

end Threads

/-- **In every order of signals and steps of the threads, all messages are owned after every step exactly when every
signal to a poller task wakes it up, and no message comes to a task, or is left in its queue, whose loop has ended.
A message that was accepted is then released once in every continuation in which the thread of its task goes on.** -/
theorem msgOwned_iff (kind : τ → TaskKind) (ops : List (TaskMsgOp τ)) :
    (EachStep (taskMsgStep kind) (fun s op => MsgsOwned kind (taskMsgStep kind s op).1) tasksCreate ops ↔
      EachStep (taskMsgStep kind) (TaskMsgOp.Kept kind) tasksCreate ops) ∧
    ∀ before after, ops = before ++ after → EachStep (taskMsgStep kind) (TaskMsgOp.Kept kind) tasksCreate ops →
      let s := (run (taskMsgStep kind) tasksCreate before).1
      ∀ msg t, s.sent[msg]? = some (t, true) →
        3 * (s.queue t).length + 1 ≤ after.countP (TaskMsgOp.advances t) →
        (run (taskMsgStep kind) s after).1.released.count msg = 1 := by
  refine ⟨?_, ?_⟩
  · exact eachStep_iff_of_invariant (TasksInv kind) _ _ (fun _ _ hs => hs.step) (fun _ _ hs => hs.step_iff _)
      tasksCreate ops tasksInv_create
  · rintro before after rfl hk s msg t hm hn
    obtain ⟨hb, ha⟩ := (eachStep_append _ _ before after).1 hk
    exact (tasksInv_create.run hb).released ha hm hn

/-- The message of a signal that fails to wake up a poller task is released, and is then taken out of the queue and
released again. -/
theorem not_msgOwned_poller :
    let ops : List (TaskMsgOp ℕ) := [.signal 0 true false, .signal 0 true true, .advance 0 false, .advance 0 false,
      .advance 0 false]
    (run (taskMsgStep fun _ => TaskKind.poller) tasksCreate ops).1.released = [0, 0] ∧
      ¬ EachStep (taskMsgStep fun _ => TaskKind.poller)
        (fun s op => MsgsOwned (fun _ => TaskKind.poller) (taskMsgStep (fun _ => TaskKind.poller) s op).1)
        tasksCreate ops := by
  refine ⟨rfl, fun h => ?_⟩
  have hheld := h.1.1 0 0 false rfl
  exact (hheld.refused rfl).1 mem_cons_self

end UniMrcp.Apt
