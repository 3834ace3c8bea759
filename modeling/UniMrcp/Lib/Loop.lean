import Mathlib.Data.Sum.Basic

/-!
# Loops with a measure

A loop whose body either ends it with a result or goes on with another state. It is computed with fuel, one more than
the measure of its start.
-/

namespace UniMrcp.Lib

open List

variable {σ ρ : Type*}

/-- At most `n` rounds of a loop, with the result `stop s` where they do not suffice. -/
def loop (body : σ → ρ ⊕ σ) (stop : σ → ρ) : Nat → σ → ρ
  | 0, s => stop s
  | n + 1, s =>
    match body s with
    | .inl r => r
    | .inr s' => loop body stop n s'

def whileLoop (body : σ → ρ ⊕ σ) (stop : σ → ρ) (measure : σ → Nat) (s : σ) : ρ :=
  loop body stop (measure s + 1) s

variable {body : σ → ρ ⊕ σ} {stop : σ → ρ} {measure : σ → Nat}

def Lowers (body : σ → ρ ⊕ σ) (measure : σ → Nat) : Prop := ∀ s s', body s = .inr s' → measure s' < measure s

theorem loop_fuel (h : Lowers body measure) (n m : Nat) (s : σ) (hn : measure s < n) (hm : measure s < m) :
    loop body stop n s = loop body stop m s := by
  induction n generalizing m s with
  | zero => exact absurd hn (Nat.not_lt_zero _)
  | succ n ih =>
    cases m with
    | zero => exact absurd hm (Nat.not_lt_zero _)
    | succ m =>
      unfold loop
      cases hb : body s with
      | inl r => rfl
      | inr s' =>
        have hlt := h s s' hb
        exact ih m s' (by omega) (by omega)

/-- **The loop unrolled once.** -/
theorem whileLoop_eq (h : Lowers body measure) (s : σ) :
    whileLoop body stop measure s =
      match body s with
      | .inl r => r
      | .inr s' => whileLoop body stop measure s' := by
  unfold whileLoop
  rw [loop]
  cases hb : body s with
  | inl r => rfl
  | inr s' => exact loop_fuel h _ _ s' (h s s' hb) (Nat.lt_succ_self _)

variable {s : σ}

theorem whileLoop_inl (h : Lowers body measure) {r : ρ} (hb : body s = .inl r) : whileLoop body stop measure s = r := by
  rw [whileLoop_eq h, hb]

theorem whileLoop_inr (h : Lowers body measure) {s s' : σ} (hb : body s = .inr s') :
    whileLoop body stop measure s = whileLoop body stop measure s' := by
  rw [whileLoop_eq h, hb]

/-- **The rule for loops.** What every round leads to from what the next one leads to, the loop leads to. -/
theorem whileLoop_rec (h : Lowers body measure) (P : σ → ρ → Prop) (last : ∀ s r, body s = .inl r → P s r)
    (next : ∀ s s' r, body s = .inr s' → P s' r → P s r) (s : σ) : P s (whileLoop body stop measure s) := by
  induction hn : measure s using Nat.strongRecOn generalizing s with
  | ind n ih =>
    cases hb : body s with
    | inl r =>
      rw [whileLoop_inl h hb]
      exact last s r hb
    | inr s' =>
      rw [whileLoop_inr h hb]
      exact next s s' _ hb (ih (measure s') (hn ▸ h s s' hb) s' rfl)

/-- **The rule for two loops.** If rounds from related states end both loops with related results, or go on with
related states, then the loops end with related results. -/
theorem whileLoop_related {τ ρ' : Type*} {body' : τ → ρ' ⊕ τ} {stop' : τ → ρ'} {measure' : τ → Nat}
    (h : Lowers body measure) (h' : Lowers body' measure') (R : σ → τ → Prop) (Q : ρ → ρ' → Prop)
    (round : ∀ s t, R s t → Sum.LiftRel Q R (body s) (body' t)) {t : τ} (hs : R s t) :
    Q (whileLoop body stop measure s) (whileLoop body' stop' measure' t) := by
  induction hn : measure s using Nat.strongRecOn generalizing s t with
  | ind n ih =>
    have hr := round s t hs
    cases hb : body s with
    | inl r =>
      cases hb' : body' t with
      | inl r' =>
        rw [whileLoop_inl h hb, whileLoop_inl h' hb']
        simpa [hb, hb'] using hr
      | inr t' => simp [hb, hb'] at hr
    | inr s' =>
      cases hb' : body' t with
      | inl r' => simp [hb, hb'] at hr
      | inr t' =>
        rw [whileLoop_inr h hb, whileLoop_inr h' hb']
        exact ih (measure s') (hn ▸ h s s' hb) (by simpa [hb, hb'] using hr) rfl

/-! ## Loops over positions -/

section Positions

variable {σ : Type*}

variable (P : Nat → σ → Prop) {s : σ}

/-- **The rule for a loop over positions.** What holds at the start, and what the body takes from each position to the
next, holds after the last one. -/
theorem foldl_range'_invariant (body : σ → Nat → σ) {start count : Nat} (h : P start s)
    (step : ∀ i s, start ≤ i → i < start + count → P i s → P (i + 1) (body s i)) :
    P (start + count) ((List.range' start count).foldl body s) := by
  induction count generalizing start s with
  | zero => exact h
  | succ count ih =>
    have hr := ih (step start s (Nat.le_refl _) (by omega) h) fun i s hi hc => step i s (by omega) (by omega)
    rw [List.range'_succ, foldl_cons, show start + (count + 1) = start + 1 + count by omega]
    exact hr

theorem foldl_range_invariant (body : σ → Nat → σ) {count : Nat} (h : P 0 s)
    (step : ∀ i s, i < count → P i s → P (i + 1) (body s i)) : P count ((List.range count).foldl body s) := by
  have hr : P (0 + count) ((List.range' 0 count).foldl body s) :=
    foldl_range'_invariant P body h fun i s _ hi => step i s (by omega)
  rwa [Nat.zero_add, ← range_eq_range'] at hr

/-- A loop over the occupied positions of a list, `k` of them seen before it, that ends as soon as it has seen as many
as the state counts. -/
def loopOccupied (occupied : σ → Nat → Bool) (count : σ → Nat) (body : σ → Nat → σ) : List Nat → Nat → σ → σ
  | [], _, s => s
  | i :: is, k, s =>
    if k < count s then
      if occupied s i then loopOccupied occupied count body is (k + 1) (body s i)
      else loopOccupied occupied count body is k s
    else s

variable {occupied : σ → Nat → Bool} {count : σ → Nat}

theorem loopOccupied_invariant {body : σ → Nat → σ} (Inv : σ → Prop) (keep : ∀ s i, Inv s → Inv (body s i))
    (positions : List Nat) (k : Nat) (h : Inv s) : Inv (loopOccupied occupied count body positions k s) := by
  induction positions generalizing k s with
  | nil => exact h
  | cons i is ih =>
    rw [loopOccupied]
    split
    · split
      · exact ih (k + 1) (keep s i h)
      · exact ih k h
    · exact h

/-- **The early end makes no difference.** If the body leaves the occupied positions and their count alone, and the
count is right, the loop goes over all occupied positions. -/
theorem loopOccupied_eq {body : σ → Nat → σ} (ho : ∀ s i, occupied (body s i) = occupied s)
    (hc : ∀ s i, count (body s i) = count s) {positions : List Nat} {k : Nat}
    (h : count s = k + (positions.filter (occupied s)).length) :
    loopOccupied occupied count body positions k s = (positions.filter (occupied s)).foldl body s := by
  induction positions generalizing k s with
  | nil => rfl
  | cons i is ih =>
    rw [loopOccupied]
    by_cases hi : occupied s i
    · rw [filter_cons_of_pos hi, length_cons] at h
      rw [if_pos (by omega), if_pos hi, filter_cons_of_pos hi, foldl_cons, ih, ho]
      rw [hc, ho]
      omega
    · rw [filter_cons_of_neg hi] at h ⊢
      rw [if_neg hi]
      split
      · exact ih h
      · rename_i hk
        have hn : is.filter (occupied s) = [] := eq_nil_of_length_eq_zero (by omega)
        rw [hn, foldl_nil]

end Positions

end UniMrcp.Lib
