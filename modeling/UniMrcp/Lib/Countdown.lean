import Mathlib.Data.List.Perm.Basic

/-!
# Countdowns

Something waits for a list of completions, and goes on with the last of them, whatever their order.
-/

namespace UniMrcp.Lib

open List

variable {σ τ : Type*}

/-- A state waits for a list of completions, in whatever order. `Q` relates the states before and after one. -/
structure Counts (complete : σ → τ → σ) (Waits : List τ → σ → Prop) (Q : σ → σ → Prop) : Prop where
  perm : ∀ {rest rest' s}, rest.Perm rest' → Waits rest s → Waits rest' s
  keep : ∀ {a rest s}, rest ≠ [] → Waits (a :: rest) s → Waits rest (complete s a) ∧ Q s (complete s a)
  refl : ∀ s, Q s s
  trans : ∀ {s t u}, Q s t → Q t u → Q s u

variable {complete : σ → τ → σ} {Waits : List τ → σ → Prop} {Q : σ → σ → Prop}

variable {last : τ}

theorem Counts.before_last (h : Counts complete Waits Q) {before : List τ} {s : σ} (hs : Waits (before ++ [last]) s) :
    Waits [last] (before.foldl complete s) ∧ Q s (before.foldl complete s) := by
  induction before generalizing s with
  | nil => exact ⟨hs, h.refl s⟩
  | cons a before ih =>
    obtain ⟨hr, ht⟩ := h.keep (by simp) hs
    obtain ⟨hl, ho⟩ := ih hr
    exact ⟨hl, h.trans ht ho⟩

theorem exists_perm_last {rest : List τ} (h : last ∈ rest) : ∃ before, (before ++ [last]).Perm rest := by
  obtain ⟨l₁, l₂, rfl⟩ := append_of_mem h
  refine ⟨l₁ ++ l₂, ?_⟩
  rw [append_assoc]
  exact List.Perm.append_left l₁ (perm_append_singleton last l₂)

/-- **A countdown.** All completions of what a state waits for, in any order: the last one finds a state that waits for
nothing else. -/
theorem Counts.countdown (h : Counts complete Waits Q) {rest before : List τ} {s : σ} (hs : Waits rest s)
    (ho : (before ++ [last]).Perm rest) :
    ∃ u, Waits [last] u ∧ Q s u ∧ (before ++ [last]).foldl complete s = complete u last := by
  obtain ⟨hl, ht⟩ := h.before_last (h.perm ho.symm hs)
  refine ⟨_, hl, ht, ?_⟩
  rw [foldl_append]
  rfl

end UniMrcp.Lib
