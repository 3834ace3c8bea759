import Mathlib.Data.List.Rotate
import Mathlib.Data.Nat.ModEq

/-!
# Cyclic arrays

A queue lies in an array from a position on, modulo the size of the array.
-/

namespace UniMrcp.Lib

open List

variable {α : Type*} {cells xs : List α} {p : Nat} {x : α}

/-- The queue lies in the cells from position `p` on. -/
structure Lies (cells : List α) (p : Nat) (xs : List α) : Prop where
  length_le : xs.length ≤ cells.length
  cell : ∀ i < xs.length, cells[(p + i) % cells.length]? = xs[i]?

theorem lies_nil (cells : List α) (p : Nat) : Lies cells p [] := ⟨Nat.zero_le _, nofun⟩

theorem eq_of_add_mod {n i j : Nat} (hi : i < n) (hj : j < n) (h : (p + i) % n = (p + j) % n) : i = j := by
  have hm : i ≡ j [MOD n] := Nat.ModEq.add_left_cancel' p h
  rwa [Nat.ModEq, Nat.mod_eq_of_lt hi, Nat.mod_eq_of_lt hj] at hm

theorem Lies.push (h : Lies cells p xs) (hr : xs.length < cells.length) (x : α) :
    Lies (cells.set ((p + xs.length) % cells.length) x) p (xs ++ [x]) := by
  refine ⟨by simpa [Nat.succ_le_iff] using hr, fun i hi => ?_⟩
  rw [length_append, length_singleton] at hi
  rw [length_set]
  rcases Nat.lt_or_eq_of_le (Nat.le_of_lt_succ hi) with hlt | rfl
  · have hne : (p + xs.length) % cells.length ≠ (p + i) % cells.length := by
      intro heq
      have := eq_of_add_mod hr (hlt.trans hr) heq
      omega
    rw [List.getElem?_set_ne hne, h.cell i hlt, List.getElem?_append_left hlt]
  · rw [List.getElem?_set_self (Nat.mod_lt _ (by omega)), List.getElem?_concat_length]

theorem lies_cons : Lies cells p (x :: xs) ↔
    xs.length < cells.length ∧ cells[p % cells.length]? = some x ∧ Lies cells (p + 1) xs := by
  constructor
  · intro h
    have hl : xs.length < cells.length := h.length_le
    refine ⟨hl, by simpa using h.cell 0 (Nat.succ_pos _), hl.le, fun i hi => ?_⟩
    simpa [Nat.add_assoc, Nat.add_comm 1 i] using h.cell (i + 1) (Nat.succ_lt_succ hi)
  · rintro ⟨hl, hf, hr⟩
    refine ⟨hl, fun i hi => ?_⟩
    cases i with
    | zero => simpa using hf
    | succ i => simpa [Nat.add_assoc, Nat.add_comm 1 i] using hr.cell i (Nat.lt_of_succ_lt_succ hi)

theorem Lies.set (h : Lies cells (p + 1) xs) (hr : xs.length < cells.length) (x : α) :
    Lies (cells.set (p % cells.length) x) (p + 1) xs := by
  refine ⟨by simpa using h.length_le, fun i hi => ?_⟩
  have hne : p % cells.length ≠ (p + 1 + i) % cells.length := by
    intro heq
    have hz : (p + 0) % cells.length = (p + (1 + i)) % cells.length := by rw [Nat.add_zero, ← Nat.add_assoc]; exact heq
    have := eq_of_add_mod (by omega) (by omega) hz
    omega
  rw [length_set, List.getElem?_set_ne hne]
  exact h.cell i hi

/-- The queue takes all cells: it is what comes from its first cell on, and then what comes before. -/
theorem Lies.unrolled (h : Lies cells p xs) (hf : xs.length = cells.length) :
    cells.drop (p % cells.length) ++ cells.take (p % cells.length) = xs := by
  rw [← rotate_eq_drop_append_take_mod]
  refine ext_getElem? fun i => ?_
  rcases Nat.lt_or_ge i cells.length with hi | hi
  · rw [List.getElem?_rotate hi, Nat.add_comm, h.cell i (hf ▸ hi)]
  · rw [List.getElem?_eq_none (by simpa using hi), List.getElem?_eq_none (hf ▸ hi)]

end UniMrcp.Lib
