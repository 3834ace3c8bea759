import UniMrcp.Lib.Ring
import UniMrcp.Lib.Run

/-!
# The cyclic queue

`apt_cyclic_queue.c`: a queue of objects in an array that grows when it is full.
-/

namespace UniMrcp.Apt

open Lib List

variable {α : Type}

/-! ## Data -/

/-- `apt_cyclic_queue_t`, with the cells that nothing was written to, and whether an access has left the array. -/
structure CyclicQueue (α : Type) where
  data : List (Option α)
  maxSize : Nat
  actualSize : Nat := 0
  head : Nat := 0
  tail : Nat := 0
  outside : Bool := false
  deriving DecidableEq

def cyclicQueueCreate (size : Nat) : CyclicQueue α := { data := List.replicate size none, maxSize := size }

/-- `apt_cyclic_queue_resize`: what lies from the head on comes first, then what lies before it. -/
def cyclicQueueResize (queue : CyclicQueue α) : CyclicQueue α :=
  let newSize := queue.maxSize + queue.maxSize / 2
  let offset := queue.maxSize - queue.head
  let copied := (queue.data.drop queue.head).take offset ++ queue.data.take queue.head
  { queue with
    data := copied ++ List.replicate (newSize - copied.length) none
    tail := 0
    head := queue.maxSize
    maxSize := newSize }

/-- The part of `apt_cyclic_queue_push` that stores the object. -/
def cyclicQueueStore (queue : CyclicQueue α) (obj : α) : CyclicQueue α :=
  { queue with
    data := queue.data.set queue.head (some obj)
    head := (queue.head + 1) % queue.maxSize
    actualSize := queue.actualSize + 1
    outside := queue.outside || decide (queue.data.length ≤ queue.head) }

def cyclicQueuePush (queue : CyclicQueue α) (obj : α) : CyclicQueue α :=
  cyclicQueueStore (if queue.maxSize ≤ queue.actualSize then cyclicQueueResize queue else queue) obj

/-- `apt_cyclic_queue_pop`, which returns `NULL` if there is nothing. -/
def cyclicQueuePop (queue : CyclicQueue α) : CyclicQueue α × Option α :=
  if queue.actualSize = 0 then (queue, none)
  else
    ({ queue with
      tail := (queue.tail + 1) % queue.maxSize
      actualSize := queue.actualSize - 1
      outside := queue.outside || decide (queue.data.length ≤ queue.tail) }, queue.data[queue.tail]?.join)

def cyclicQueueClear (queue : CyclicQueue α) : CyclicQueue α := { queue with actualSize := 0, head := 0, tail := 0 }

def cyclicQueueIsEmpty (queue : CyclicQueue α) : Bool := if queue.actualSize ≠ 0 then true else false

inductive QueueOp (α : Type)
  | push (obj : α)
  | pop
  | clear

def cyclicQueueStep (queue : CyclicQueue α) : QueueOp α → CyclicQueue α × Option α
  | .push obj => (cyclicQueuePush queue obj, none)
  | .pop => cyclicQueuePop queue
  | .clear => (cyclicQueueClear queue, none)

def fifoStep (objs : List α) : QueueOp α → List α × Option α
  | .push obj => (objs ++ [obj], none)
  | .pop => (objs.tail, objs.head?)
  | .clear => ([], none)

/-- The calls return what they return of a queue without a bound, and no access leaves the array. -/
def IsFifo (size : Nat) (ops : List (QueueOp α)) : Prop :=
  (run cyclicQueueStep (cyclicQueueCreate size) ops).2 = (run fifoStep [] ops).2 ∧
    (run cyclicQueueStep (cyclicQueueCreate size) ops).1.outside = false

def TellsEmpty (size : Nat) (ops : List (QueueOp α)) : Prop :=
  cyclicQueueIsEmpty (run cyclicQueueStep (cyclicQueueCreate size) ops).1 = (run fifoStep [] ops).1.isEmpty

/-- **The condition on a step**: an array of one cell does not grow. -/
def roomy (size : Nat) (objs : List α) : QueueOp α → Prop
  | .push _ => 2 ≤ size ∨ objs = []
  | _ => True

/-! ## The invariant -/

structure Wound (size : Nat) (queue : CyclicQueue α) (objs : List α) : Prop where
  inside : queue.outside = false
  length : queue.data.length = queue.maxSize
  pos : 0 < queue.maxSize
  sized : 2 ≤ size ↔ 2 ≤ queue.maxSize
  count : queue.actualSize = objs.length
  lies : ∃ p, queue.tail = p % queue.maxSize ∧ queue.head = (p + objs.length) % queue.maxSize ∧
    Lies queue.data p (objs.map some)

variable {size : Nat} {queue : CyclicQueue α} {objs : List α}

theorem wound_create (h : 0 < size) : Wound size (cyclicQueueCreate size) ([] : List α) where
  inside := rfl
  length := length_replicate
  pos := h
  sized := Iff.rfl
  count := rfl
  lies := ⟨0, rfl, rfl, lies_nil _ _⟩

theorem Wound.store (h : Wound size queue objs) (hr : objs.length < queue.maxSize) (obj : α) :
    Wound size (cyclicQueueStore queue obj) (objs ++ [obj]) := by
  obtain ⟨p, ht, hh, hl⟩ := h.lies
  have hlt : queue.head < queue.data.length := by
    rw [hh, h.length]
    exact Nat.mod_lt _ h.pos
  refine ⟨?_, by simp [cyclicQueueStore, h.length], h.pos, h.sized, by simp [cyclicQueueStore, h.count], p, ht, ?_, ?_⟩
  · simp [cyclicQueueStore, h.inside, hlt]
  · show (queue.head + 1) % queue.maxSize = _ % queue.maxSize
    rw [hh, Nat.mod_add_mod, length_append, length_singleton, Nat.add_assoc]
  · have hp := hl.push (by rwa [length_map, h.length]) (some obj)
    rw [length_map, h.length, ← hh] at hp
    show Lies (queue.data.set queue.head (some obj)) p _
    rwa [map_append]

theorem Wound.resize (h : Wound size queue objs) (hs : 2 ≤ size) (hf : objs.length = queue.maxSize) :
    Wound size (cyclicQueueResize queue) objs ∧ objs.length < (cyclicQueueResize queue).maxSize := by
  obtain ⟨p, -, hh, hls⟩ := h.lies
  have hx := h.sized.1 hs
  have hg : (cyclicQueueResize queue).maxSize = queue.maxSize + queue.maxSize / 2 := rfl
  have hlt : queue.maxSize < queue.maxSize + queue.maxSize / 2 := by omega
  have hm : (objs.map some).length = queue.data.length := by rw [length_map, hf, h.length]
  have hc : (queue.data.drop queue.head).take (queue.maxSize - queue.head) ++ queue.data.take queue.head =
      objs.map some := by
    have hu := hls.unrolled hm
    rw [hh, hf, Nat.add_mod_right, take_of_length_le (by rw [length_drop, h.length])]
    rwa [h.length] at hu
  have hd : (cyclicQueueResize queue).data =
      objs.map some ++ List.replicate (queue.maxSize + queue.maxSize / 2 - objs.length) none := by
    simp only [cyclicQueueResize, hc, length_map]
  have hl : (cyclicQueueResize queue).data.length = queue.maxSize + queue.maxSize / 2 := by
    rw [hd, length_append, length_map, length_replicate]
    omega
  refine ⟨⟨h.inside, hl, by omega, by omega, h.count, 0, rfl, ?_, ?_⟩, by omega⟩
  · rw [hg, Nat.zero_add, hf, Nat.mod_eq_of_lt hlt]
    rfl
  · refine ⟨by rw [hl, hm, h.length]; omega, fun i hi => ?_⟩
    rw [hl, Nat.zero_add, Nat.mod_eq_of_lt (by rw [hm, h.length] at hi; omega), hd,
      List.getElem?_append_left hi]

theorem Wound.push (h : Wound size queue objs) {obj : α} (hr : roomy size objs (.push obj)) :
    Wound size (cyclicQueuePush queue obj) (objs ++ [obj]) := by
  obtain ⟨p, -, -, hl⟩ := h.lies
  have hle : objs.length ≤ queue.maxSize := by simpa [h.length] using hl.length_le
  have hp := h.pos
  unfold cyclicQueuePush
  rw [h.count]
  split_ifs with hf
  · have hs : 2 ≤ size := hr.resolve_right fun hn => by
      rw [hn, length_nil] at hf
      omega
    obtain ⟨hw, hlt⟩ := h.resize hs (by omega)
    exact hw.store hlt obj
  · exact h.store (by omega) obj

theorem Wound.pop (h : Wound size queue objs) :
    Wound size (cyclicQueuePop queue).1 objs.tail ∧ (cyclicQueuePop queue).2 = objs.head? := by
  unfold cyclicQueuePop
  rw [h.count]
  cases objs with
  | nil => exact ⟨h, rfl⟩
  | cons obj objs =>
    obtain ⟨p, ht, hh, hl⟩ := h.lies
    obtain ⟨-, hf, hr⟩ := lies_cons.1 hl
    rw [h.length, ← ht] at hf
    have hlt : queue.tail < queue.data.length := (List.getElem?_eq_some_iff.1 hf).1
    refine ⟨⟨?_, h.length, h.pos, h.sized, rfl, p + 1, ?_, ?_, hr⟩, ?_⟩
    · simp [h.inside, hlt]
    · show (queue.tail + 1) % queue.maxSize = _ % queue.maxSize
      rw [ht, Nat.mod_add_mod]
    · rw [Nat.add_right_comm]
      exact hh
    · simp [hf]

variable {op : QueueOp α}

theorem Wound.step (h : Wound size queue objs) (hr : roomy size objs op) :
    Wound size (cyclicQueueStep queue op).1 (fifoStep objs op).1 ∧
      (cyclicQueueStep queue op).2 = (fifoStep objs op).2 := by
  cases op with
  | push obj => exact ⟨h.push hr, rfl⟩
  | pop => exact h.pop
  | clear => exact ⟨⟨h.inside, h.length, h.pos, h.sized, rfl, 0, (Nat.zero_mod _).symm, (Nat.zero_mod _).symm,
      lies_nil _ _⟩, rfl⟩

theorem Wound.outside (h : Wound size queue objs) (hr : ¬roomy size objs op) :
    (cyclicQueueStep queue op).1.outside = true := by
  cases op with
  | push obj =>
    obtain ⟨hs, hn⟩ := not_or.1 hr
    obtain ⟨p, -, -, hl⟩ := h.lies
    have hle : objs.length ≤ queue.maxSize := by simpa [h.length] using hl.length_le
    have hp := length_pos_iff.2 hn
    have ho : queue.maxSize = 1 := by
      have := h.sized
      have := h.pos
      omega
    have hf : queue.maxSize ≤ queue.actualSize := by rw [h.count]; omega
    have hln := h.length
    show (cyclicQueuePush queue obj).outside = true
    rw [cyclicQueuePush, if_pos hf]
    simp only [cyclicQueueStore, cyclicQueueResize, ho, Bool.or_eq_true, decide_eq_true_eq, length_append,
      length_take, length_drop, length_replicate]
    omega
  | pop => exact absurd trivial hr
  | clear => exact absurd trivial hr

theorem outside_step (queue : CyclicQueue α) (op : QueueOp α) (h : queue.outside) :
    (cyclicQueueStep queue op).1.outside = true := by
  cases op with
  | push obj =>
    have hr : (if queue.maxSize ≤ queue.actualSize then cyclicQueueResize queue else queue).outside = true := by
      split_ifs <;> exact h
    simp [cyclicQueueStep, cyclicQueuePush, cyclicQueueStore, hr]
  | pop =>
    unfold cyclicQueueStep cyclicQueuePop
    split_ifs
    · exact h
    · simp [h]
  | clear => exact h

theorem outside_run {queue : CyclicQueue α} (h : queue.outside) (ops : List (QueueOp α)) :
    (run cyclicQueueStep queue ops).1.outside = true :=
  run_invariant (fun queue => queue.outside = true) (fun _ _ => True) (fun queue op hq _ => outside_step queue op hq)
    queue ops h (eachStep_true queue ops)

theorem Wound.run (h : Wound size queue objs) (ops : List (QueueOp α)) :
    ((Lib.run cyclicQueueStep queue ops).1.outside = false ↔ EachStep fifoStep (roomy size) objs ops) ∧
      (EachStep fifoStep (roomy size) objs ops →
        Wound size (Lib.run cyclicQueueStep queue ops).1 (Lib.run fifoStep objs ops).1 ∧
          (Lib.run cyclicQueueStep queue ops).2 = (Lib.run fifoStep objs ops).2) := by
  induction ops generalizing queue objs with
  | nil => exact ⟨iff_of_true h.inside trivial, fun _ => ⟨h, rfl⟩⟩
  | cons op ops ih =>
    simp only [run_cons, eachStep_cons]
    by_cases hr : roomy size objs op
    · obtain ⟨hn, ht⟩ := h.step hr
      obtain ⟨hi, hk⟩ := ih hn
      refine ⟨hi.trans (and_iff_right hr).symm, fun ho => ?_⟩
      obtain ⟨hw, hot⟩ := hk ho.2
      exact ⟨hw, by rw [ht, hot]⟩
    · have ht := outside_run (h.outside hr) ops
      refine ⟨iff_of_false (fun hin => ?_) fun ho => hr ho.1, fun ho => absurd ho.1 hr⟩
      exact absurd (hin.symm.trans ht) Bool.false_ne_true

/-- **The cyclic queue** is a queue without a bound exactly when its first size is not 1, or each object is pushed to an
empty queue; and it never tells rightly whether it is empty. -/
theorem cyclicQueue_fifo (size : Nat) (hsize : 1 ≤ size) (ops : List (QueueOp α)) :
    ¬(IsFifo size ops ∧ TellsEmpty size ops) ∧ (IsFifo size ops ↔ EachStep fifoStep (roomy size) [] ops) ∧
      (IsFifo size ops → cyclicQueueIsEmpty (run cyclicQueueStep (cyclicQueueCreate size) ops).1 =
        !(run fifoStep [] ops).1.isEmpty) := by
  obtain ⟨hinside, hkept⟩ := (wound_create (α := α) hsize).run ops
  have hinverted : IsFifo size ops → cyclicQueueIsEmpty (run cyclicQueueStep (cyclicQueueCreate size) ops).1 =
      !(run fifoStep [] ops).1.isEmpty := by
    intro hfifo
    have hcnt := (hkept (hinside.1 hfifo.2)).1.count
    unfold cyclicQueueIsEmpty
    rw [hcnt]
    cases (run fifoStep [] ops).1 <;> rfl
  refine ⟨fun h => ?_, ⟨fun h => hinside.1 h.2, fun h => ⟨(hkept h).2, hinside.2 h⟩⟩, hinverted⟩
  exact Bool.not_ne_self _ ((hinverted h.1).symm.trans h.2)

theorem cyclicQueue_fifo_pair : ¬(IsFifo 2 [.push 7, .push 8, .push 9, .pop] ∧
    TellsEmpty 2 [.push 7, .push 8, .push 9, .pop]) :=
  (cyclicQueue_fifo 2 (by decide) [.push 7, .push 8, .push 9, .pop]).1

/-- An empty queue says that it is not empty, and a queue of one cell is overrun by its second object. -/
theorem not_fifo_single : ¬TellsEmpty 1 ([] : List (QueueOp Nat)) ∧ ¬IsFifo 1 [.push 7, .push 8] := by
  unfold TellsEmpty IsFifo
  decide

end UniMrcp.Apt
