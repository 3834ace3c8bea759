import Mathlib.Order.WellFounded
import UniMrcp.Lib.Incidence
import UniMrcp.Lib.Run

/-!
# Trees of tasks

Tasks are taken offline and brought online by messages (`apt_task.c`): a request goes from each task to its children,
and a task that has heard of all of them completes and tells its parent. Every task has a queue of its own; all tasks
are running, so that every signal succeeds.
-/

namespace UniMrcp.Apt

open Lib Function

/-- The tasks of a tree: the ring of child tasks of each task, in order. No task is below itself. -/
structure TaskTree (τ : Type) where
  root : τ
  parent : τ → Option τ
  children : τ → List τ
  parent_eq_none : ∀ t, parent t = none ↔ t = root
  mem_children : ∀ p c, c ∈ children p ↔ parent c = some p
  nodup : ∀ p, (children p).Nodup
  wellFounded : WellFounded fun c p => parent c = some p

inductive TaskMode where
  | offline
  | online
  deriving DecidableEq

/-- The core messages `CORE_TASK_MSG_TAKEOFFLINE_*` and `CORE_TASK_MSG_BRINGONLINE_*`. -/
inductive CoreTaskMsg where
  | request (mode : TaskMode)
  | complete (mode : TaskMode)
  deriving DecidableEq

/-- The queues, `pending_off` and `pending_on`, the requests each task has processed and completed, and those sent to
the root. -/
structure TaskStates (τ : Type) where
  queue : τ → List CoreTaskMsg
  pending : τ → TaskMode → ℕ
  handled : τ → TaskMode → ℕ
  completed : τ → TaskMode → ℕ
  sent : TaskMode → ℕ

variable {τ : Type} [DecidableEq τ]

def taskStatesCreate : TaskStates τ := ⟨fun _ => [], fun _ _ => 0, fun _ _ => 0, fun _ _ => 0, fun _ => 0⟩

def countAt (count : τ → TaskMode → ℕ) (t : τ) (mode : TaskMode) (f : ℕ → ℕ) : τ → TaskMode → ℕ :=
  fun u m => if u = t ∧ m = mode then f (count u m) else count u m

def aptTaskCoreMsgSignal (s : TaskStates τ) (t : τ) (msg : CoreTaskMsg) : TaskStates τ :=
  { s with queue := Function.update s.queue t (s.queue t ++ [msg]) }

def aptTaskOffline (s : TaskStates τ) (t : τ) : TaskStates τ := aptTaskCoreMsgSignal s t (.request .offline)

def aptTaskOnline (s : TaskStates τ) (t : τ) : TaskStates τ := aptTaskCoreMsgSignal s t (.request .online)

def taskRequest : TaskMode → TaskStates τ → τ → TaskStates τ
  | .offline => aptTaskOffline
  | .online => aptTaskOnline

/-! ## Processing -/

variable (tree : TaskTree τ)

def taskCompleteRaise (mode : TaskMode) (s : TaskStates τ) (t : τ) : TaskStates τ :=
  let s := { s with completed := countAt s.completed t mode (· + 1) }
  match tree.parent t with
  | some p => aptTaskCoreMsgSignal s p (.complete mode)
  | none => s

def aptTaskOfflineCompleteRaise (s : TaskStates τ) (t : τ) : TaskStates τ := taskCompleteRaise tree .offline s t

def aptTaskOnlineCompleteRaise (s : TaskStates τ) (t : τ) : TaskStates τ := taskCompleteRaise tree .online s t

def taskChildRequest (mode : TaskMode) (t : τ) (s : TaskStates τ) (child : τ) : TaskStates τ :=
  let s := taskRequest mode s child
  { s with pending := countAt s.pending t mode (· + 1) }

def taskRequestProcess (mode : TaskMode) (s : TaskStates τ) (t : τ) : TaskStates τ :=
  let s := (tree.children t).foldl (taskChildRequest mode t) s
  if s.pending t mode = 0 then taskCompleteRaise tree mode s t else s

def aptTaskOfflineRequestProcess (s : TaskStates τ) (t : τ) : TaskStates τ := taskRequestProcess tree .offline s t

def aptTaskOnlineRequestProcess (s : TaskStates τ) (t : τ) : TaskStates τ := taskRequestProcess tree .online s t

/-- A child task has completed; after the last one that is pending the task completes. -/
def taskRequestComplete (mode : TaskMode) (s : TaskStates τ) (t : τ) : TaskStates τ :=
  if s.pending t mode = 0 then s
  else
    let s := { s with pending := countAt s.pending t mode (· - 1) }
    if s.pending t mode = 0 then taskCompleteRaise tree mode s t else s

def aptTaskOfflineRequestComplete (s : TaskStates τ) (t : τ) : TaskStates τ := taskRequestComplete tree .offline s t

def aptTaskOnlineRequestComplete (s : TaskStates τ) (t : τ) : TaskStates τ := taskRequestComplete tree .online s t

/-- `apt_core_task_msg_process`, as far as these messages go. -/
def aptCoreTaskMsgProcess (s : TaskStates τ) (t : τ) : CoreTaskMsg → TaskStates τ
  | .request .offline => aptTaskOfflineRequestProcess tree s t
  | .complete .offline => aptTaskOfflineRequestComplete tree s t
  | .request .online => aptTaskOnlineRequestProcess tree s t
  | .complete .online => aptTaskOnlineRequestComplete tree s t

def countHandled (s : TaskStates τ) (t : τ) : CoreTaskMsg → TaskStates τ
  | .request mode => { s with handled := countAt s.handled t mode (· + 1) }
  | .complete _ => s

def taskProcessNext (s : TaskStates τ) (t : τ) : TaskStates τ :=
  match s.queue t with
  | [] => s
  | msg :: rest =>
    aptCoreTaskMsgProcess tree (countHandled { s with queue := Function.update s.queue t rest } t msg) t msg

/-- A request is sent to the root task, or a task processes its next message. -/
inductive TaskTreeOp (τ : Type) where
  | send (mode : TaskMode)
  | process (t : τ)

def taskTreeStep (s : TaskStates τ) : TaskTreeOp τ → TaskStates τ × Unit
  | .send mode =>
    (taskRequest mode { s with sent := fun m => if m = mode then s.sent m + 1 else s.sent m } tree.root, ())
  | .process t => (taskProcessNext tree s t, ())

/-- The root task does not process a request while an earlier one of its mode is pending. -/
def TaskTreeOp.Serial (s : TaskStates τ) : TaskTreeOp τ → Prop
  | .send _ => True
  | .process t => t = tree.root → ∀ mode, (s.queue t).head? = some (.request mode) → s.pending t mode = 0

instance (s : TaskStates τ) (op : TaskTreeOp τ) : Decidable (op.Serial tree s) :=
  match op with
  | .send _ => isTrue trivial
  | .process t => decidable_of_iff (t = tree.root →
      ((s.queue t).head? = some (.request .offline) → s.pending t .offline = 0) ∧
        ((s.queue t).head? = some (.request .online) → s.pending t .online = 0))
      ⟨fun h ht mode => match mode with
        | .offline => (h ht).1
        | .online => (h ht).2, fun h ht => ⟨h ht .offline, h ht .online⟩⟩

/-! ## The books of requests in a tree -/

structure Books (τ : Type) where
  handled : τ → ℕ
  completed : τ → ℕ
  pending : τ → ℕ
  requests : τ → ℕ
  replies : τ → ℕ
  sent : ℕ

namespace Books

variable (tree : TaskTree τ) (b : Books τ)

def send : Books τ :=
  { b with sent := b.sent + 1, requests := Function.update b.requests tree.root (b.requests tree.root + 1) }

def take (t : τ) : Books τ :=
  { b with
    requests := Function.update b.requests t (b.requests t - 1)
    handled := Function.update b.handled t (b.handled t + 1) }

def ask (t : τ) : Books τ :=
  { b with
    requests := fun u => b.requests u + if u ∈ tree.children t then 1 else 0
    pending := Function.update b.pending t (b.pending t + (tree.children t).length) }

def reply (t : τ) : Books τ :=
  { b with
    replies := Function.update b.replies t (b.replies t - 1)
    pending := Function.update b.pending t (b.pending t - 1) }

def raise (t : τ) : Books τ :=
  { b with
    completed := Function.update b.completed t (b.completed t + 1)
    replies := fun u => b.replies u + if tree.parent t = some u then 1 else 0 }

end Books

/-! ## Balance -/

def Books.outstanding (tree : TaskTree τ) (b : Books τ) (p : τ) : ℕ :=
  ((tree.children p).map fun c => b.handled p - b.completed c).sum

/-- Requests go down the tree one at a time: no task has one it has not asked its children for, or completed one that a
child has not. -/
structure Balanced (tree : TaskTree τ) (b : Books τ) : Prop where
  asked : ∀ p c, tree.parent c = some p → b.handled c + b.requests c = b.handled p
  serial : ∀ p c, tree.parent c = some p → b.handled p ≤ b.completed c + 1
  below : ∀ p c, tree.parent c = some p → b.completed p ≤ b.completed c
  askedRoot : b.handled tree.root + b.requests tree.root = b.sent
  serialRoot : b.handled tree.root ≤ b.completed tree.root + 1
  completed_le : ∀ t, b.completed t ≤ b.handled t
  pending : ∀ p, b.pending p = b.outstanding tree p + b.replies p

def Books.Idle (b : Books τ) (t : τ) : Prop := b.pending t = 0 ↔ b.completed t = b.handled t

section Tree

variable {tree : TaskTree τ} {b : Books τ} {t p c : τ}

omit [DecidableEq τ] in
theorem parent_ne_self (tree : TaskTree τ) (t : τ) : tree.parent t ≠ some t := tree.wellFounded.irrefl.irrefl t

omit [DecidableEq τ] in
theorem Balanced.handled_le (h : Balanced tree b) (t : τ) : b.handled t ≤ b.completed t + 1 := by
  cases hp : tree.parent t with
  | none =>
    rw [(tree.parent_eq_none t).1 hp]
    exact h.serialRoot
  | some p =>
    have := h.asked p t hp
    have := h.serial p t hp
    omega

omit [DecidableEq τ] in
theorem Balanced.idle_of_request (h : Balanced tree b) (ht : t ≠ tree.root) (hr : 0 < b.requests t) :
    b.completed t = b.handled t := by
  cases hp : tree.parent t with
  | none => exact absurd ((tree.parent_eq_none t).1 hp) ht
  | some p =>
    have := h.asked p t hp
    have := h.serial p t hp
    have := h.completed_le t
    omega

omit [DecidableEq τ] in
theorem outstanding_eq_zero :
    b.outstanding tree p = 0 ↔ ∀ c, tree.parent c = some p → b.handled p ≤ b.completed c := by
  rw [Books.outstanding]
  constructor
  · intro h c hc
    have hm : b.handled p - b.completed c ∈ (tree.children p).map fun c => b.handled p - b.completed c :=
      List.mem_map.2 ⟨c, (tree.mem_children p c).2 hc, rfl⟩
    by_contra hlt
    obtain hne : b.handled p - b.completed c ≠ 0 := by omega
    exact hne (List.sum_eq_zero_iff_forall_eq_nat.1 h _ hm)
  · intro h
    refine List.sum_eq_zero fun n hn => ?_
    obtain ⟨c, hc, rfl⟩ := List.mem_map.1 hn
    have := h c ((tree.mem_children p c).1 hc)
    omega

/-! ## Changes -/

theorem balanced_send (h : Balanced tree b) : Balanced tree (b.send tree) := by
  refine ⟨?_, h.serial, h.below, ?_, h.serialRoot, h.completed_le, h.pending⟩
  · intro p c hc
    have hne : c ≠ tree.root := by
      rintro rfl
      rw [(tree.parent_eq_none tree.root).2 rfl] at hc
      cases hc
    simpa [Books.send, update_of_ne hne] using h.asked p c hc
  · have := h.askedRoot
    simp only [Books.send, update_self]
    omega

theorem balanced_ask (h : Balanced tree b) (hr : 0 < b.requests t) (hi : b.completed t = b.handled t)
    (hpn : b.pending t = 0) : Balanced tree ((b.take t).ask tree t) := by
  have hot := h.pending t
  have hh {c : τ} (hc : tree.parent c = some t) : b.handled c = b.handled t ∧ b.completed c = b.handled t := by
    have := outstanding_eq_zero.1 (show b.outstanding tree t = 0 by omega) c hc
    have := h.completed_le c
    have := h.asked t c hc
    omega
  constructor
  · intro p c hc
    have ha := h.asked p c hc
    by_cases hp : p = t
    · subst hp
      have hct : c ≠ p := fun e => parent_ne_self tree p (e ▸ hc)
      simp only [Books.ask, Books.take, update_self, update_of_ne hct,
        if_pos ((tree.mem_children p c).2 hc)]
      omega
    · have hn : c ∉ tree.children t := fun hm =>
        hp (Option.some.inj (hc.symm.trans ((tree.mem_children t c).1 hm)))
      by_cases hct : c = t
      · subst hct
        simp only [Books.ask, Books.take, update_self, update_of_ne hp, if_neg hn]
        omega
      · simpa only [Books.ask, Books.take, update_of_ne hp, update_of_ne hct, if_neg hn,
          Nat.add_zero] using ha
  · intro p c hc
    by_cases hp : p = t
    · subst hp
      have := (hh hc).2
      simp only [Books.ask, Books.take, update_self]
      omega
    · simpa only [Books.ask, Books.take, update_of_ne hp] using h.serial p c hc
  · exact h.below
  · have hn : tree.root ∉ tree.children t := fun hm => by
      have := (tree.mem_children t tree.root).1 hm
      rw [(tree.parent_eq_none tree.root).2 rfl] at this
      cases this
    have hrt := h.askedRoot
    by_cases ht : tree.root = t
    · subst ht
      simp only [Books.ask, Books.take, update_self, if_neg hn]
      omega
    · simpa only [Books.ask, Books.take, update_of_ne ht, if_neg hn, Nat.add_zero] using hrt
  · have hrt := h.serialRoot
    by_cases ht : tree.root = t
    · subst ht
      simp only [Books.ask, Books.take, update_self]
      omega
    · simpa only [Books.ask, Books.take, update_of_ne ht] using hrt
  · intro u
    have := h.completed_le u
    by_cases hu : u = t
    · subst hu
      simp only [Books.ask, Books.take, update_self]
      omega
    · simpa only [Books.ask, Books.take, update_of_ne hu] using this
  · intro p
    by_cases hp : p = t
    · subst hp
      have ho : ((tree.children p).map fun c => b.handled p + 1 - b.completed c) =
          (tree.children p).map fun _ => 1 := List.map_congr_left fun c hc => by
        have := (hh ((tree.mem_children p c).1 hc)).2
        omega
      simp only [Books.ask, Books.take, Books.outstanding, update_self]
      rw [ho]
      simp only [List.map_const', List.sum_replicate_nat]
      omega
    · simpa only [Books.ask, Books.take, Books.outstanding, update_of_ne hp] using h.pending p

theorem balanced_reply (h : Balanced tree b) (hr : 0 < b.replies t) : Balanced tree (b.reply t) := by
  refine ⟨h.asked, h.serial, h.below, h.askedRoot, h.serialRoot, h.completed_le, ?_⟩
  intro p
  have hn := h.pending p
  by_cases hp : p = t
  · subst hp
    simp only [Books.reply, update_self]
    change b.pending p - 1 = b.outstanding tree p + (b.replies p - 1)
    omega
  · simp only [Books.reply, update_of_ne hp]
    exact hn

theorem balanced_raise (h : Balanced tree b) (hlt : b.completed t < b.handled t) (ho : b.outstanding tree t = 0) :
    Balanced tree (b.raise tree t) := by
  constructor
  · exact h.asked
  · intro p c hc
    have := h.serial p c hc
    by_cases hct : c = t
    · subst hct
      simp only [Books.raise, update_self]
      omega
    · simpa only [Books.raise, update_of_ne hct] using this
  · intro p c hc
    have hb := h.below p c hc
    by_cases hpt : p = t
    · subst hpt
      have hct : c ≠ p := fun e => parent_ne_self tree p (e ▸ hc)
      have := outstanding_eq_zero.1 ho c hc
      simp only [Books.raise, update_self, update_of_ne hct]
      omega
    · by_cases hct : c = t
      · subst hct
        simp only [Books.raise, update_self, update_of_ne hpt]
        omega
      · simpa only [Books.raise, update_of_ne hpt, update_of_ne hct] using hb
  · exact h.askedRoot
  · have hr := h.serialRoot
    by_cases ht : tree.root = t
    · subst ht
      simp only [Books.raise, update_self]
      omega
    · simpa only [Books.raise, update_of_ne ht] using hr
  · intro u
    have := h.completed_le u
    by_cases hu : u = t
    · subst hu
      simp only [Books.raise, update_self]
      omega
    · simpa only [Books.raise, update_of_ne hu] using this
  · intro p
    have hn := h.pending p
    by_cases hp : tree.parent t = some p
    · -- the parent has one child less to wait for, and one more reply
      have hle := h.asked p t hp
      have hm := sum_map_pred (f := fun c => b.handled p - b.completed c)
        (g := fun c => b.handled p - Function.update b.completed t (b.completed t + 1) c) (tree.nodup p)
        ((tree.mem_children p t).2 hp)
        (by rw [update_self]; omega) (fun c hc => by rw [update_of_ne hc])
      simp only [Books.raise, Books.outstanding, if_pos hp] at hn ⊢
      omega
    · have hs : ((tree.children p).map fun c => b.handled p -
          Function.update b.completed t (b.completed t + 1) c) =
            (tree.children p).map fun c => b.handled p - b.completed c := List.map_congr_left fun c hc => by
        have hct : c ≠ t := by
          rintro rfl
          exact hp ((tree.mem_children p c).1 hc)
        rw [update_of_ne hct]
      simp only [Books.raise, Books.outstanding, if_neg hp, hs]
      exact hn

/-! ## Steps -/

structure Settling (tree : TaskTree τ) (b : Books τ) : Prop where
  balanced : Balanced tree b
  idle : ∀ t, b.Idle t

def Books.raiseIdle (tree : TaskTree τ) (b : Books τ) (t : τ) : Books τ :=
  if b.pending t = 0 then b.raise tree t else b

theorem settling_raiseIdle (h : Balanced tree b) (hi : ∀ u, u ≠ t → b.Idle u) (hlt : b.completed t < b.handled t) :
    Settling tree (b.raiseIdle tree t) := by
  have hle := h.handled_le t
  have hp := h.pending t
  rw [Books.raiseIdle]
  split
  · rename_i hz
    refine ⟨balanced_raise h hlt (by omega), fun u => ?_⟩
    by_cases hu : u = t
    · subst hu
      simp only [Books.Idle, Books.raise, update_self]
      omega
    · simpa only [Books.Idle, Books.raise, update_of_ne hu] using hi u hu
  · rename_i hz
    refine ⟨h, fun u => ?_⟩
    by_cases hu : u = t
    · subst hu
      rw [Books.Idle]
      omega
    · exact hi u hu

omit [DecidableEq τ] in
theorem settling_zero (hs : b.sent = 0) (hz : ∀ t, b.handled t = 0 ∧ b.completed t = 0 ∧ b.pending t = 0 ∧
    b.requests t = 0 ∧ b.replies t = 0) : Settling tree b := by
  have ho (p : τ) : b.outstanding tree p = 0 := outstanding_eq_zero.2 fun c _ => by simp [(hz p).1]
  refine ⟨⟨?_, ?_, ?_, ?_, ?_, ?_, ?_⟩, ?_⟩
  · intro p c _
    simp [(hz p).1, (hz c).1, (hz c).2.2.2.1]
  · intro p c _
    simp [(hz p).1]
  · intro p c _
    simp [(hz p).2.1]
  · simp [(hz tree.root).1, (hz tree.root).2.2.2.1, hs]
  · simp [(hz tree.root).1]
  · intro t
    simp [(hz t).2.1]
  · intro p
    simp [ho, (hz p).2.2.1, (hz p).2.2.2.2]
  · intro t
    simp [Books.Idle, (hz t).1, (hz t).2.1, (hz t).2.2.1]

theorem settling_send (h : Settling tree b) : Settling tree (b.send tree) := ⟨balanced_send h.balanced, h.idle⟩

theorem settling_request (h : Settling tree b) (hr : 0 < b.requests t) (hrt : t = tree.root → b.pending t = 0) :
    Settling tree (((b.take t).ask tree t).raiseIdle tree t) := by
  have hi : b.completed t = b.handled t := by
    by_cases ht : t = tree.root
    · exact (h.idle t).1 (hrt ht)
    · exact h.balanced.idle_of_request ht hr
  apply settling_raiseIdle (balanced_ask h.balanced hr hi ((h.idle t).2 hi))
  · intro u hu
    simpa only [Books.Idle, Books.ask, Books.take, update_of_ne hu] using h.idle u
  · simp only [Books.ask, Books.take, update_self]
    omega

theorem settling_reply (h : Settling tree b) (hr : 0 < b.replies t) :
    b.pending t ≠ 0 ∧ Settling tree ((b.reply t).raiseIdle tree t) := by
  have hp := h.balanced.pending t
  have hi := h.idle t
  have hle := h.balanced.completed_le t
  rw [Books.Idle] at hi
  refine ⟨by omega, ?_⟩
  apply settling_raiseIdle (balanced_reply h.balanced hr)
  · intro u hu
    simpa only [Books.Idle, Books.reply, update_of_ne hu] using h.idle u
  · change b.completed t < b.handled t
    omega

omit [DecidableEq τ] in
theorem Balanced.completed_le_descendant (h : Balanced tree b) {d : τ}
    (hd : Relation.ReflTransGen (fun p c => tree.parent c = some p) t d) : b.completed t ≤ b.completed d := by
  induction hd with
  | refl => exact Nat.le_refl _
  | tail _ hc ih => exact ih.trans (h.below _ _ hc)

omit [DecidableEq τ] in
theorem Settling.settled (h : Settling tree b) (hr : ∀ t, b.requests t = 0)
    (hrp : ∀ t, b.replies t = 0) (t : τ) : b.pending t = 0 ∧ b.completed t = b.handled t := by
  -- from the tasks without children upwards
  induction t using tree.wellFounded.induction with
  | _ t ih =>
    have ho : b.outstanding tree t = 0 := by
      refine outstanding_eq_zero.2 fun c hc => ?_
      have := (ih c hc).2
      have := h.balanced.asked t c hc
      have := hr c
      omega
    have hp : b.pending t = 0 := by rw [h.balanced.pending, ho, hrp]
    exact ⟨hp, (h.idle t).1 hp⟩

end Tree

end UniMrcp.Apt
