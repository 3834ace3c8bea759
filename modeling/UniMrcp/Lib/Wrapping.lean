import Mathlib.Data.Nat.ModEq

/-!
# Counters that wrap

A counter of `n` values that starts at 0 and grows by `d` at every step has the value `k * d % n` after `k` steps.

`Reaches`, the counter is at a bound or above it at some time.
-/

namespace UniMrcp.Lib

variable {n d t k : Nat}

/-- A counter of `n` values that grows by `d` is at `t` or above at some time. -/
def Reaches (n d t : Nat) : Prop := ∃ k, t ≤ k * d % n

theorem reaches_after (h : Reaches n d t) (hn : 0 < n) (m : Nat) : ∃ k, m < k ∧ t ≤ k * d % n := by
  obtain ⟨k, hk⟩ := h
  refine ⟨k + n * (m + 1), ?_, ?_⟩
  · have hle : m + 1 ≤ n * (m + 1) := Nat.le_mul_of_pos_left (m + 1) hn
    omega
  · rwa [Nat.add_mul, Nat.mul_assoc, Nat.add_mul_mod_self_left]

theorem reaches_of_le (hd : 0 < d) (h : t + d ≤ n) : Reaches n d t := by
  refine ⟨(t + d - 1) / d, ?_⟩
  have hv := Nat.div_add_mod (t + d - 1) d
  have hm := Nat.mod_lt (t + d - 1) hd
  rw [Nat.mul_comm] at hv
  rw [Nat.mod_eq_of_lt (by omega)]
  omega

theorem exists_lt_of_mul_mod_eq_zero (h : Reaches n d t) (ht : 0 < t) (hk : 0 < k) (hz : k * d % n = 0) :
    ∃ j, 0 < j ∧ j < k ∧ t ≤ j * d % n := by
  obtain ⟨m, hm⟩ := h
  have hs : m * d % n = m % k * d % n := by
    have hp : m * d = m / k * (k * d) + m % k * d := by
      calc m * d = (k * (m / k) + m % k) * d := by rw [Nat.div_add_mod]
        _ = m / k * (k * d) + m % k * d := by rw [Nat.add_mul, Nat.mul_comm k (m / k), Nat.mul_assoc]
    have hl : m / k * (k * d) % n = 0 := by rw [Nat.mul_mod, hz, Nat.mul_zero, Nat.zero_mod]
    rw [hp, Nat.add_mod, hl, Nat.zero_add, Nat.mod_mod]
  rw [hs] at hm
  refine ⟨m % k, ?_, Nat.mod_lt m hk, hm⟩
  by_contra hj
  obtain hj : m % k = 0 := by omega
  rw [hj, Nat.zero_mul, Nat.zero_mod] at hm
  omega

/-- **A counter that has stayed below a bound that it reaches** is not back at its first step. -/
theorem mul_mod_ne_of_below (h : Reaches n d t) (hk : 1 < k) (hb : ∀ j, 0 < j → j ≤ k → j * d % n < t) :
    k * d % n ≠ d % n := by
  intro heq
  obtain ⟨i, rfl⟩ : ∃ i, k = i + 1 := ⟨k - 1, by omega⟩
  have hz : i * d % n = 0 := by
    have hm : i * d + d ≡ 0 + d [MOD n] := by
      rw [Nat.succ_mul] at heq
      rw [Nat.zero_add]
      exact heq
    exact Nat.ModEq.add_right_cancel' d hm
  have ht : 0 < t := by
    have ho := hb 1 (by omega) (by omega)
    omega
  obtain ⟨j, hj, hlt, hle⟩ := exists_lt_of_mul_mod_eq_zero h ht (by omega) hz
  have hj' := hb j hj (by omega)
  omega

end UniMrcp.Lib
