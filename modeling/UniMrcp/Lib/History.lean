import Mathlib.Data.List.DropRight

/-!
# What a history ends in
-/

namespace UniMrcp.Lib

open List

variable {α : Type*}

/-- The last `n` items of `l` have `p`. -/
def EndsIn (p : α → Prop) (n : Nat) (l : List α) : Prop := n ≤ l.length ∧ ∀ x ∈ l.rtake n, p x

instance (p : α → Prop) [DecidablePred p] (n : Nat) (l : List α) : Decidable (EndsIn p n l) :=
  inferInstanceAs (Decidable (_ ∧ _))

variable {p q : α → Prop} {n : Nat} {l : List α}

@[simp] theorem endsIn_zero (p : α → Prop) (l : List α) : EndsIn p 0 l := by simp [EndsIn]

variable {x : α}

theorem EndsIn.snoc (h : EndsIn p n l) (hx : p x) : EndsIn p (n + 1) (l ++ [x]) := by
  refine ⟨by simpa using h.1, ?_⟩
  rw [rtake_concat_succ]
  intro y hy
  rcases mem_append.1 hy with ho | hn
  · exact h.2 y ho
  · rw [mem_singleton.1 hn]
    exact hx

theorem endsIn_snoc : EndsIn p (n + 1) (l ++ [x]) ↔ EndsIn p n l ∧ p x := by
  refine ⟨fun h => ⟨⟨by simpa using h.1, fun y hy => h.2 y ?_⟩, h.2 x ?_⟩, fun h => h.1.snoc h.2⟩
  · rw [rtake_concat_succ]
    exact mem_append_left _ hy
  · rw [rtake_concat_succ]
    exact mem_append_right _ (mem_singleton.2 rfl)

theorem endsIn_append_replicate (p : α → Prop) (l : List α) (hx : p x) (n k : Nat) :
    EndsIn p (n + k) (l ++ List.replicate k x) ↔ EndsIn p n l := by
  induction k with
  | zero => simp
  | succ k ih =>
    rw [replicate_succ', ← append_assoc, ← Nat.add_assoc, endsIn_snoc, ih]
    exact and_iff_left hx

/-- The last item with `p`. -/
def lastWith (p : α → Bool) (l : List α) : Option α := (l.filter p).getLast?

theorem lastWith_snoc_pos {p : α → Bool} (l : List α) (hx : p x) : lastWith p (l ++ [x]) = some x := by
  simp [lastWith, hx]

theorem lastWith_snoc_neg {p : α → Bool} (l : List α) (hx : p x = false) : lastWith p (l ++ [x]) = lastWith p l := by
  simp [lastWith, hx]

end UniMrcp.Lib
