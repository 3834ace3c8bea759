import UniMrcp.Apt.TaskTree

/-!
# Offline and online coordination
-/

namespace UniMrcp.Apt

open Lib List Function TaskStates

variable {τ : Type} [DecidableEq τ]

/-! ## The books of a mode -/

def TaskStates.books (s : TaskStates τ) (mode : TaskMode) : Books τ :=
  { handled := fun t => s.handled t mode
    completed := fun t => s.completed t mode
    pending := fun t => s.pending t mode
    requests := fun t => (s.queue t).count (.request mode)
    replies := fun t => (s.queue t).count (.complete mode)
    sent := s.sent mode }

section Counts

variable (count : τ → TaskMode → ℕ) (t : τ) (mode : TaskMode) (f : ℕ → ℕ)

theorem countAt_same : (fun u => countAt count t mode f u mode) =
    Function.update (fun u => count u mode) t (f (count t mode)) := by
  funext u
  by_cases hu : u = t
  · subst hu
    simp [countAt]
  · simp [countAt, hu]

theorem countAt_other {m : TaskMode} (h : m ≠ mode) : (fun u => countAt count t mode f u m) = fun u => count u m := by
  funext u
  simp [countAt, h]

theorem count_signal (queue : τ → List CoreTaskMsg) (msg kind : CoreTaskMsg) :
    (fun u => (Function.update queue t (queue t ++ [msg]) u).count kind) = fun u =>
      (queue u).count kind + if u = t ∧ msg = kind then 1 else 0 := by
  funext u
  by_cases hu : u = t
  · subst hu
    rw [update_self, count_append, count_singleton]
    simp
  · rw [update_of_ne hu, if_neg (fun h => hu h.1)]
    rfl

theorem count_take {queue : τ → List CoreTaskMsg} {msg : CoreTaskMsg} {rest : List CoreTaskMsg}
    (h : queue t = msg :: rest) (kind : CoreTaskMsg) :
    (fun u => (Function.update queue t rest u).count kind) =
      if msg = kind then Function.update (fun u => (queue u).count kind) t ((queue t).count kind - 1)
      else fun u => (queue u).count kind := by
  funext u
  by_cases hu : u = t
  · subst hu
    by_cases hk : msg = kind
    · subst hk
      simp [h]
    · simp [h, hk]
  · by_cases hk : msg = kind
    · simp [hu, hk]
    · simp [hu, hk]

end Counts

section Functions

variable {tree : TaskTree τ} {s : TaskStates τ} {t : τ} {mode m : TaskMode}

theorem taskRequest_eq : taskRequest mode s t = aptTaskCoreMsgSignal s t (.request mode) := by cases mode <;> rfl

theorem books_childRequest (child : τ) : (taskChildRequest mode t s child).books m =
    if m = mode then
      { s.books m with
        requests := fun u => (s.books m).requests u + if u = child then 1 else 0
        pending := Function.update (s.books m).pending t ((s.books m).pending t + 1) }
    else s.books m := by
  rw [taskChildRequest, taskRequest_eq, aptTaskCoreMsgSignal, books]
  rw [count_signal, count_signal]
  split
  · rename_i hm
    subst hm
    rw [countAt_same]
    simp [books]
  · rename_i hm
    rw [countAt_other _ _ _ _ hm]
    simp [books, Ne.symm hm]

theorem books_childRequests {children : List τ} (hn : children.Nodup) (s : TaskStates τ) :
    (children.foldl (taskChildRequest mode t) s).books m =
      if m = mode then
        { s.books m with
          requests := fun u => (s.books m).requests u + if u ∈ children then 1 else 0
          pending := Function.update (s.books m).pending t ((s.books m).pending t + children.length) }
      else s.books m := by
  induction children generalizing s with
  | nil => simp
  | cons child children ih =>
    obtain ⟨ht, hn⟩ := nodup_cons.1 hn
    rw [foldl_cons, ih hn, books_childRequest]
    split
    · have hm (u : τ) : ((if u = child then 1 else 0) + if u ∈ children then 1 else 0 : ℕ) =
          if u ∈ child :: children then 1 else 0 := by
        by_cases hu : u = child
        · subst hu
          simp [ht]
        · simp [hu]
      simp only [update_self, update_idem, Nat.add_assoc, hm, length_cons]
      rw [Nat.add_comm 1]
    · rfl

theorem books_raise : (taskCompleteRaise tree mode s t).books m =
    if m = mode then (s.books m).raise tree t else s.books m := by
  have hc : (fun u => countAt s.completed t mode (· + 1) u m) =
      if m = mode then Function.update (fun u => s.completed u m) t (s.completed t m + 1)
      else fun u => s.completed u m := by
    split
    · rename_i hm
      subst hm
      exact countAt_same ..
    · rename_i hm
      exact countAt_other _ _ _ _ hm
  rw [taskCompleteRaise]
  split
  · rename_i p hp
    rw [aptTaskCoreMsgSignal, books]
    rw [count_signal, count_signal, hc]
    split
    · rename_i hm
      subst hm
      simp [books, Books.raise, hp, eq_comm]
    · rename_i hm
      simp [books, Ne.symm hm]
  · rename_i hp
    rw [books]
    rw [hc]
    split
    · simp [books, Books.raise, hp]
    · rfl

theorem books_requestProcess :
    (taskRequestProcess tree mode s t).books m =
      if m = mode then ((s.books m).ask tree t).raiseIdle tree t else s.books m := by
  have ha : ((tree.children t).foldl (taskChildRequest mode t) s).books m =
      if m = mode then (s.books m).ask tree t else s.books m := books_childRequests (tree.nodup t) s
  have hd : ((tree.children t).foldl (taskChildRequest mode t) s).pending t mode =
      ((s.books mode).ask tree t).pending t := by
    have h : ((tree.children t).foldl (taskChildRequest mode t) s).books mode =
        if mode = mode then (s.books mode).ask tree t else s.books mode := books_childRequests (tree.nodup t) s
    rw [if_pos rfl] at h
    exact congrFun (congrArg Books.pending h) t
  rw [taskRequestProcess, hd]
  by_cases hm : m = mode
  · subst hm
    rw [if_pos rfl] at ha ⊢
    rw [Books.raiseIdle]
    split
    · rw [books_raise, if_pos rfl, ha]
    · exact ha
  · rw [if_neg hm] at ha ⊢
    split
    · rw [books_raise, if_neg hm, ha]
    · exact ha

def Books.answer (b : Books τ) (t : τ) : Books τ :=
  { b with pending := Function.update b.pending t (b.pending t - 1) }

theorem books_requestComplete (hp : s.pending t mode ≠ 0) :
    (taskRequestComplete tree mode s t).books m =
      if m = mode then ((s.books m).answer t).raiseIdle tree t else s.books m := by
  have ha : ({ s with pending := countAt s.pending t mode (· - 1) } : TaskStates τ).books m =
      if m = mode then (s.books m).answer t else s.books m := by
    rw [books]
    split
    · rename_i hm
      subst hm
      rw [countAt_same]
      rfl
    · rename_i hm
      rw [countAt_other _ _ _ _ hm]
      rfl
  have hd : countAt s.pending t mode (· - 1) t mode = ((s.books mode).answer t).pending t := by
    simp [countAt, Books.answer, books]
  rw [taskRequestComplete, if_neg hp]
  simp only [hd]
  by_cases hm : m = mode
  · subst hm
    rw [if_pos rfl] at ha ⊢
    rw [Books.raiseIdle]
    split
    · rw [books_raise, if_pos rfl, ha]
    · exact ha
  · rw [if_neg hm] at ha ⊢
    split
    · rw [books_raise, if_neg hm, ha]
    · exact ha

theorem books_take {msg : CoreTaskMsg} {rest : List CoreTaskMsg} (h : s.queue t = msg :: rest) :
    (countHandled { s with queue := Function.update s.queue t rest } t msg).books m =
      if msg = .request m then (s.books m).take t
      else if msg = .complete m then
        { s.books m with replies := Function.update (s.books m).replies t ((s.books m).replies t - 1) }
      else s.books m := by
  have hr := count_take t h (.request m)
  have hp := count_take t h (.complete m)
  cases msg with
  | request mode =>
    rw [if_neg (by simp)] at hp
    rw [countHandled, books]
    rw [hr, hp]
    by_cases hm : m = mode
    · subst hm
      rw [countAt_same, if_pos rfl, if_pos rfl]
      rfl
    · have hne : CoreTaskMsg.request mode ≠ .request m := fun e => hm (CoreTaskMsg.request.inj e).symm
      rw [countAt_other _ _ _ _ hm, if_neg hne, if_neg hne, if_neg (by simp)]
      rfl
  | complete mode =>
    rw [if_neg (by simp)] at hr ⊢
    rw [countHandled, books]
    rw [hr, hp]
    split
    · rfl
    · rfl

theorem aptCoreTaskMsgProcess_request :
    aptCoreTaskMsgProcess tree s t (.request mode) = taskRequestProcess tree mode s t := by cases mode <;> rfl

theorem aptCoreTaskMsgProcess_complete :
    aptCoreTaskMsgProcess tree s t (.complete mode) = taskRequestComplete tree mode s t := by cases mode <;> rfl

end Functions

/-! ## Runs -/

section Runs

variable {tree : TaskTree τ} {s : TaskStates τ}

theorem settling_process (h : ∀ mode, Settling tree (s.books mode)) {t : τ}
    (hs : TaskTreeOp.Serial tree s (.process t)) (mode : TaskMode) :
    Settling tree ((taskProcessNext tree s t).books mode) := by
  rw [taskProcessNext]
  split
  · exact h mode
  · rename_i msg rest hq
    cases msg with
    | request m =>
      rw [aptCoreTaskMsgProcess_request, books_requestProcess, books_take hq]
      by_cases hm : mode = m
      · subst hm
        rw [if_pos rfl, if_pos rfl]
        apply settling_request (h mode)
        · exact count_pos_iff.2 (hq ▸ mem_cons_self)
        · exact fun ht => hs ht mode (by rw [hq]; rfl)
      · rw [if_neg hm, if_neg (fun e => hm (CoreTaskMsg.request.inj e).symm), if_neg (by simp)]
        exact h mode
    | complete m =>
      have hr : 0 < (s.books m).replies t := count_pos_iff.2 (hq ▸ mem_cons_self)
      obtain ⟨hp, hst⟩ := settling_reply (h m) hr
      rw [aptCoreTaskMsgProcess_complete]
      rw [books_requestComplete (show (countHandled { s with queue := Function.update s.queue t rest } t
        (.complete m)).pending t m ≠ 0 from hp), books_take hq]
      by_cases hm : mode = m
      · subst hm
        rw [if_pos rfl, if_neg (by simp), if_pos rfl]
        exact hst
      · rw [if_neg hm, if_neg (by simp), if_neg (fun e => hm (CoreTaskMsg.complete.inj e).symm)]
        exact h mode

theorem settling_step (h : ∀ mode, Settling tree (s.books mode)) {op : TaskTreeOp τ} (hs : op.Serial tree s)
    (mode : TaskMode) : Settling tree ((taskTreeStep tree s op).1.books mode) := by
  cases op with
  | send m =>
    have hb : (taskTreeStep tree s (.send m)).1.books mode =
        if mode = m then (s.books mode).send tree else s.books mode := by
      rw [taskTreeStep, taskRequest_eq, aptTaskCoreMsgSignal, books]
      dsimp only
      rw [count_signal, count_signal]
      split
      · rename_i hm
        subst hm
        simp only [books, Books.send, reduceCtorEq, and_false, and_true, if_false, Nat.add_zero]
        congr 1
        funext u
        by_cases hu : u = tree.root
        · subst hu
          simp
        · simp [hu]
      · rename_i hm
        simp [books, Ne.symm hm]
    rw [hb]
    split
    · exact settling_send (h mode)
    · exact h mode
  | process t => exact settling_process h hs mode

end Runs

/-- Each request sent to the root is completed at most once, after all tasks below; when no message is waiting, each
was. -/
structure Coordinated (tree : TaskTree τ) (s : TaskStates τ) : Prop where
  once : ∀ mode, s.completed tree.root mode ≤ s.sent mode
  after : ∀ mode d, Relation.ReflTransGen (fun p c => tree.parent c = some p) tree.root d →
    s.completed tree.root mode ≤ s.completed d mode
  settled : (∀ t, s.queue t = []) → ∀ mode, s.completed tree.root mode = s.sent mode ∧ ∀ t, s.pending t mode = 0

/-- **In every state reached from the start, if the root does not process a request while one of its mode is pending,
each request sent to it is completed once, after all tasks below, and nothing stays pending.** -/
theorem taskTree_coordinated (tree : TaskTree τ) {ops : List (TaskTreeOp τ)}
    (h : EachStep (taskTreeStep tree) (fun s op => op.Serial tree s) taskStatesCreate ops) :
    Coordinated tree (run (taskTreeStep tree) taskStatesCreate ops).1 := by
  have hs : ∀ mode, Settling tree ((run (taskTreeStep tree) taskStatesCreate ops).1.books mode) :=
    run_invariant (fun s => ∀ mode, Settling tree (s.books mode)) (fun s op => op.Serial tree s)
      (fun _ _ hs hop => settling_step hs hop) _ ops
      (fun _ => settling_zero rfl fun _ => ⟨rfl, rfl, rfl, rfl, rfl⟩) h
  generalize (run (taskTreeStep tree) taskStatesCreate ops).1 = s at hs
  constructor
  · intro mode
    have hle := (hs mode).balanced.completed_le tree.root
    have hroot := (hs mode).balanced.askedRoot
    simp only [TaskStates.books] at hle hroot
    omega
  · exact fun mode d hd => (hs mode).balanced.completed_le_descendant hd
  · intro hqueue mode
    have hreqs (t : τ) : (s.books mode).requests t = 0 := by simp [TaskStates.books, hqueue]
    have hreplies (t : τ) : (s.books mode).replies t = 0 := by simp [TaskStates.books, hqueue]
    have hsettled := (hs mode).settled hreqs hreplies
    refine ⟨?_, fun t => (hsettled t).1⟩
    have hroot := (hs mode).balanced.askedRoot
    rw [hreqs, ← (hsettled tree.root).2] at hroot
    exact hroot

def chainParent : Fin 3 → Option (Fin 3)
  | 0 => none
  | 1 => some 0
  | 2 => some 1

theorem chainParent_lt : ∀ c p : Fin 3, chainParent c = some p → 3 - c.val < 3 - p.val := by decide

def chainTree : TaskTree (Fin 3) where
  root := 0
  parent := chainParent
  children
    | 0 => [1]
    | 1 => [2]
    | 2 => []
  parent_eq_none := by decide
  mem_children := by decide
  nodup := by decide
  wellFounded := Subrelation.wf (fun {c p} h => chainParent_lt c p h) (measure fun t : Fin 3 => 3 - t.val).wf

/-- The tasks are brought online while they are taken offline, and taken offline once more after that. -/
def chainSerialOps : List (TaskTreeOp (Fin 3)) :=
  [.send .offline, .process 0, .send .online, .process 1, .process 0, .process 2, .process 1, .process 1, .process 2] ++
    [.process 0, .process 1, .send .offline, .process 0, .process 0, .process 1, .process 2, .process 1, .process 0]

/-- The root completes all three requests. -/
theorem taskTree_coordinated_chain :
    Coordinated chainTree (run (taskTreeStep chainTree) taskStatesCreate chainSerialOps).1 ∧
      (run (taskTreeStep chainTree) taskStatesCreate chainSerialOps).1.completed 0 .offline = 2 ∧
      (run (taskTreeStep chainTree) taskStatesCreate chainSerialOps).1.completed 0 .online = 1 :=
  ⟨taskTree_coordinated chainTree (by decide), by decide, by decide⟩

/-- The child asks twice before it hears of its own child, and replies once. -/
def chainOverlapOps : List (TaskTreeOp (Fin 3)) :=
  [.send .offline, .send .offline, .process 0, .process 0, .process 1, .process 1, .process 2, .process 2] ++
    [.process 1, .process 1, .process 0]

/-- No message is waiting, no request was completed, and the root waits for one more reply. -/
theorem not_taskTree_coordinated_overlap :
    (∀ t, (run (taskTreeStep chainTree) taskStatesCreate chainOverlapOps).1.queue t = []) ∧
      (run (taskTreeStep chainTree) taskStatesCreate chainOverlapOps).1.pending 0 .offline = 1 ∧
      ¬ Coordinated chainTree (run (taskTreeStep chainTree) taskStatesCreate chainOverlapOps).1 := by
  have hqueue : ∀ t, (run (taskTreeStep chainTree) taskStatesCreate chainOverlapOps).1.queue t = [] := by decide
  have hpend : (run (taskTreeStep chainTree) taskStatesCreate chainOverlapOps).1.pending 0 .offline = 1 := by decide
  refine ⟨hqueue, hpend, fun h => ?_⟩
  have hzero := (h.settled hqueue .offline).2 0
  omega

end UniMrcp.Apt
