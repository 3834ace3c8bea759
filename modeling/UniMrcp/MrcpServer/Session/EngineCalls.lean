import Mathlib.Data.List.Induction
import UniMrcp.MrcpServer.Session

/-!
# Calls of engines

An engine channel is created, opened and closed, and destroyed.
-/

namespace UniMrcp.MrcpServer

open List
open Option (some.inj)

inductive Life
  | absent
  | closed
  | opened
  | destroyed
deriving DecidableEq

/-- **The order of calls**: an engine channel is opened when it is closed, closed when it is open, and destroyed when it
is closed. -/
def Life.next : Life → EngineCall → Option Life
  | .absent, .create => some .closed
  | .closed, .openChannel status => some (if status then .opened else .closed)
  | .opened, .closeChannel _ => some .closed
  | .closed, .destroy => some .destroyed
  | _, _ => none

def Life.after (calls : List EngineCall) : Option Life := calls.foldlM Life.next .absent

theorem Life.after_append (calls calls' : List EngineCall) :
    Life.after (calls ++ calls') = (Life.after calls).bind fun life => calls'.foldlM Life.next life := by
  unfold Life.after
  rw [foldlM_append]
  rfl

/-! ## What is called for an engine channel -/

def EngineCall.isClose : EngineCall → Bool
  | .closeChannel _ => true
  | _ => false

def EngineCall.goesOn : EngineCall → Bool
  | .openChannel _ | .destroy => true
  | _ => false

/-- **The calls for an engine channel are as they should be.** -/
structure Proper (calls : List EngineCall) : Prop where
  created : ∀ before after, calls = before ++ .create :: after → before = []
  destroyed : ∀ before after, calls = before ++ .destroy :: after → .create ∈ before ∧ after = []
  /-- Every accepted open is followed by one close before the next open, and before the destruction. -/
  closed : ∀ before between call after, calls = before ++ .openChannel true :: between ++ call :: after →
    call.goesOn → (∀ c ∈ between, ¬ c.goesOn) → between.countP EngineCall.isClose = 1

variable {call : EngineCall}

theorem Life.next_cases {l l' : Life} (h : l.next call = some l') :
    (l = .absent ∧ call = .create ∧ l' = .closed) ∨
      (∃ status, l = .closed ∧ call = .openChannel status ∧ l' = if status then .opened else .closed) ∨
      (∃ status, l = .opened ∧ call = .closeChannel status ∧ l' = .closed) ∨
      (l = .closed ∧ call = .destroy ∧ l' = .destroyed) := by
  unfold Life.next at h
  split at h
  · exact Or.inl ⟨rfl, rfl, (some.inj h).symm⟩
  · next status => exact Or.inr (Or.inl ⟨status, rfl, rfl, (some.inj h).symm⟩)
  · next status => exact Or.inr (Or.inr (Or.inl ⟨status, rfl, rfl, (some.inj h).symm⟩))
  · exact Or.inr (Or.inr (Or.inr ⟨rfl, rfl, (some.inj h).symm⟩))
  · cases h

variable {after : List EngineCall}

theorem Life.foldlM_cons_inv {l life : Life} (h : (call :: after).foldlM Life.next l = some life) :
    ∃ l', l.next call = some l' ∧ after.foldlM Life.next l' = some life := by
  rw [foldlM_cons] at h
  exact Option.bind_eq_some_iff.1 h

variable {life : Life}

open Life

theorem Life.after_split {before after : List EngineCall} (h : Life.after (before ++ after) = some life) :
    ∃ l, Life.after before = some l ∧ after.foldlM Life.next l = some life := by
  rw [after_append] at h
  exact Option.bind_eq_some_iff.1 h

variable {calls : List EngineCall}

theorem Life.mem_calls (h : Life.after calls = some life) :
    (.create ∈ calls ↔ life ≠ .absent) ∧ (.destroy ∈ calls ↔ life = .destroyed) := by
  induction calls using List.reverseRecOn generalizing life with
  | nil =>
    obtain rfl : Life.absent = life := some.inj h
    simp
  | append_singleton calls call ih =>
    obtain ⟨l, hl, hr⟩ := after_split h
    obtain ⟨l', hn, hs⟩ := foldlM_cons_inv hr
    obtain rfl : l' = life := some.inj hs
    obtain ⟨hc, hd⟩ := ih hl
    rw [mem_append, mem_append, mem_singleton, mem_singleton, hc, hd]
    rcases next_cases hn with ⟨rfl, rfl, rfl⟩ | ⟨status, rfl, rfl, rfl⟩ | ⟨status, rfl, rfl, rfl⟩ | ⟨rfl, rfl, rfl⟩
    · decide
    · cases status <;> simp
    · simp
    · decide

theorem Life.absent_nil (h : Life.after calls = some .absent) : calls = [] := by
  rcases eq_nil_or_concat calls with rfl | ⟨before, call, rfl⟩
  · rfl
  · rw [concat_eq_append] at h
    obtain ⟨l, -, hr⟩ := after_split h
    obtain ⟨l', hn, hl⟩ := foldlM_cons_inv hr
    obtain rfl : l' = .absent := some.inj hl
    rcases next_cases hn with ⟨-, -, h⟩ | ⟨status, -, -, h⟩ | ⟨_, -, -, h⟩ | ⟨-, -, h⟩
    · cases h
    · cases status <;> cases h
    · cases h
    · cases h

theorem Life.destroyed_nil (h : calls.foldlM Life.next .destroyed = some life) : calls = [] := by
  cases calls with
  | nil => rfl
  | cons call calls =>
    obtain ⟨l', hn, -⟩ := foldlM_cons_inv h
    rcases next_cases hn with ⟨h, -⟩ | ⟨_, h, -⟩ | ⟨_, h, -⟩ | ⟨h, -⟩ <;> cases h

theorem Life.closed_once {between after : List EngineCall}
    (h : (between ++ call :: after).foldlM Life.next .opened = some life) (hc : call.goesOn)
    (hb : ∀ c ∈ between, ¬ c.goesOn) : between.countP EngineCall.isClose = 1 := by
  cases between with
  | nil =>
    obtain ⟨l', hn, -⟩ := foldlM_cons_inv h
    rcases next_cases hn with ⟨h, -⟩ | ⟨_, h, -⟩ | ⟨_, -, rfl, -⟩ | ⟨h, -⟩
    · cases h
    · cases h
    · cases hc
    · cases h
  | cons close between =>
    obtain ⟨l', hn, hr⟩ := foldlM_cons_inv h
    rcases next_cases hn with ⟨h, -⟩ | ⟨_, h, -⟩ | ⟨_, -, rfl, rfl⟩ | ⟨h, -⟩
    · cases h
    · cases h
    · -- after the close, whatever comes next goes on
      cases between with
      | nil => rfl
      | cons c between =>
        obtain ⟨l'', hn', -⟩ := foldlM_cons_inv hr
        have ht := hb c (mem_cons_of_mem _ mem_cons_self)
        rcases next_cases hn' with ⟨h, -⟩ | ⟨_, -, rfl, -⟩ | ⟨_, h, -⟩ | ⟨-, rfl, -⟩
        · cases h
        · exact absurd rfl ht
        · cases h
        · exact absurd rfl ht
    · cases h

/-- **Calls in order are as they should be.** -/
theorem proper_of_life (h : Life.after calls = some life) : Proper calls := by
  have hs : ∀ {before after call}, calls = before ++ call :: after → ∃ l l', Life.after before = some l ∧
      l.next call = some l' ∧ after.foldlM Life.next l' = some life := by
    rintro before after call rfl
    obtain ⟨l, hl, hr⟩ := after_split h
    obtain ⟨l', hn, ha⟩ := foldlM_cons_inv hr
    exact ⟨l, l', hl, hn, ha⟩
  refine ⟨fun before after hc => ?_, fun before after hc => ?_,
    fun before between call after hc hca hb => ?_⟩
  · obtain ⟨l, l', hl, hn, -⟩ := hs hc
    rcases next_cases hn with ⟨rfl, -⟩ | ⟨_, -, h, -⟩ | ⟨_, -, h, -⟩ | ⟨-, h, -⟩
    · exact absent_nil hl
    · cases h
    · cases h
    · cases h
  · obtain ⟨l, l', hl, hn, ha⟩ := hs hc
    rcases next_cases hn with ⟨-, h, -⟩ | ⟨_, -, h, -⟩ | ⟨_, -, h, -⟩ | ⟨rfl, -, rfl⟩
    · cases h
    · cases h
    · cases h
    · exact ⟨(mem_calls hl).1.2 (by decide), destroyed_nil ha⟩
  · rw [append_assoc, cons_append] at hc
    obtain ⟨l, l', hl, hn, ha⟩ := hs hc
    rcases next_cases hn with ⟨-, h, -⟩ | ⟨status, -, h, rfl⟩ | ⟨_, -, h, -⟩ | ⟨-, h, -⟩
    · cases h
    · obtain rfl : true = status := EngineCall.openChannel.inj h
      exact closed_once ha hca hb
    · cases h
    · cases h

def callsOf {α : Type} [DecidableEq α] (a : α) (calls : List (α × EngineCall)) : List EngineCall :=
  calls.filterMap fun call => if call.1 = a then some call.2 else none

section CallsOf

variable {α : Type} [DecidableEq α]

theorem callsOf_append (a : α) (calls calls' : List (α × EngineCall)) :
    callsOf a (calls ++ calls') = callsOf a calls ++ callsOf a calls' := filterMap_append

theorem callsOf_self (a : α) (call : EngineCall) : callsOf a [(a, call)] = [call] := by simp [callsOf]

theorem callsOf_other {a b : α} (h : b ≠ a) (call : EngineCall) : callsOf a [(b, call)] = [] := by simp [callsOf, h]

theorem callsOf_notMem {a : α} {calls : List (α × EngineCall)} (h : ∀ call ∈ calls, call.1 ≠ a) :
    callsOf a calls = [] := by
  unfold callsOf
  rw [filterMap_eq_nil_iff]
  intro call hc
  rw [if_neg (h call hc)]

theorem callsOf_tagged (i : α) (calls : List EngineCall) : callsOf i (calls.map fun call => (i, call)) = calls := by
  induction calls with
  | nil => rfl
  | cons call calls ih =>
    rw [map_cons, ← singleton_append, callsOf_append, callsOf_self, ih]
    rfl

theorem callsOf_tagged_other {i j : α} (h : i ≠ j) (calls : List EngineCall) :
    callsOf j (calls.map fun call => (i, call)) = [] := by
  refine callsOf_notMem fun call hc => ?_
  obtain ⟨_, -, rfl⟩ := mem_map.1 hc
  exact h

theorem callsOf_each {l : List α} (h : l.Nodup) (call : EngineCall) (i : α) :
    callsOf i (l.map fun j => (j, call)) = if i ∈ l then [call] else [] := by
  induction l with
  | nil => rfl
  | cons j l ih =>
    obtain ⟨hn, hd⟩ := nodup_cons.1 h
    rw [map_cons, ← singleton_append, callsOf_append, ih hd]
    by_cases hi : j = i
    · subst hi
      rw [callsOf_self, if_neg hn, if_pos mem_cons_self]
      rfl
    · rw [callsOf_other hi, nil_append]
      simp [Ne.symm hi]

end CallsOf

end UniMrcp.MrcpServer
