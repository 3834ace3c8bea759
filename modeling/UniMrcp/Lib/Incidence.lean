import Mathlib.Algebra.BigOperators.Group.List.Basic
import Mathlib.Algebra.Ring.Nat
import Mathlib.Data.Finset.Card

/-!
# Incidence matrices

A matrix of entries that are on or off, and how many entries of a row or a column are on.
-/

namespace UniMrcp.Lib

open List

variable {ι : Type*}

section Entries

variable [DecidableEq ι]

def setEntry (m : ι → ι → Bool) (i j : ι) (on : Bool) : ι → ι → Bool :=
  fun a b => if a = i ∧ b = j then on else m a b

variable {m : ι → ι → Bool} {i j a b : ι} {on : Bool}

theorem setEntry_off_iff : setEntry m i j false a b ↔ m a b ∧ ¬ (a = i ∧ b = j) := by
  rw [setEntry]
  split
  · rename_i h
    simp [h]
  · rename_i h
    simp [h]

theorem setEntry_on_iff : setEntry m i j true a b ↔ m a b ∨ (a = i ∧ b = j) := by
  rw [setEntry]
  split
  · rename_i h
    simp [h]
  · rename_i h
    simp [h]

theorem setEntry_transpose : (fun a b => setEntry m i j on b a) = setEntry (fun a b => m b a) j i on := by
  funext a b
  simp only [setEntry, and_comm]

end Entries

/-! ## Counts -/

def onInRow (s : Finset ι) (m : ι → ι → Bool) (i : ι) : ℕ := (s.filter fun j => m i j = true).card

def onInCol (s : Finset ι) (m : ι → ι → Bool) (j : ι) : ℕ := (s.filter fun i => m i j = true).card

section Counts

variable {s : Finset ι} {m : ι → ι → Bool} {i j : ι}

theorem onInRow_eq_zero : onInRow s m i = 0 ↔ ∀ j ∈ s, ¬ m i j = true := Finset.card_filter_eq_zero_iff

theorem onInCol_eq_zero : onInCol s m j = 0 ↔ ∀ i ∈ s, ¬ m i j = true := Finset.card_filter_eq_zero_iff

theorem onInRow_lt (hj : j ∈ s) (h : ¬ m i j = true) : onInRow s m i < s.card :=
  Finset.card_lt_card (Finset.filter_ssubset.2 ⟨j, hj, h⟩)

theorem onInCol_lt (hi : i ∈ s) (h : ¬ m i j = true) : onInCol s m j < s.card :=
  Finset.card_lt_card (Finset.filter_ssubset.2 ⟨i, hi, h⟩)

theorem onInCol_eq_onInRow (s : Finset ι) (m : ι → ι → Bool) (j : ι) :
    onInCol s m j = onInRow s (fun a b => m b a) j := rfl

variable [DecidableEq ι]

theorem onInRow_on (hj : j ∈ s) (h : ¬ m i j = true) (a : ι) :
    onInRow s (setEntry m i j true) a = onInRow s m a + if a = i then 1 else 0 := by
  rw [onInRow, onInRow]
  split
  · rename_i ha
    subst ha
    have hn : j ∉ s.filter fun b => m a b = true := fun hm => h (Finset.mem_filter.1 hm).2
    rw [← Finset.card_insert_of_notMem hn]
    congr 1
    ext b
    simp only [Finset.mem_filter, Finset.mem_insert, setEntry_on_iff, true_and]
    constructor
    · rintro ⟨hb, ho | rfl⟩
      · exact Or.inr ⟨hb, ho⟩
      · exact Or.inl rfl
    · rintro (rfl | ⟨hb, ho⟩)
      · exact ⟨hj, Or.inr rfl⟩
      · exact ⟨hb, Or.inl ho⟩
  · rename_i ha
    simp only [setEntry_on_iff, ha, false_and, or_false, Nat.add_zero]

theorem onInRow_off (hj : j ∈ s) (h : m i j) (a : ι) :
    onInRow s (setEntry m i j false) a + (if a = i then 1 else 0) = onInRow s m a := by
  rw [onInRow, onInRow]
  split
  · rename_i ha
    subst ha
    have hm : j ∈ s.filter fun b => m a b = true := Finset.mem_filter.2 ⟨hj, h⟩
    rw [← Finset.card_erase_add_one hm]
    congr 2
    ext b
    simp only [Finset.mem_filter, Finset.mem_erase, setEntry_off_iff, true_and]
    tauto
  · rename_i ha
    simp only [setEntry_off_iff, ha, false_and, not_false_eq_true, and_true, Nat.add_zero]

theorem onInCol_on (hi : i ∈ s) (h : ¬ m i j = true) (b : ι) :
    onInCol s (setEntry m i j true) b = onInCol s m b + if b = j then 1 else 0 := by
  rw [onInCol_eq_onInRow, setEntry_transpose, onInRow_on hi h]
  rfl

theorem onInCol_off (hi : i ∈ s) (h : m i j) (b : ι) :
    onInCol s (setEntry m i j false) b + (if b = j then 1 else 0) = onInCol s m b := by
  rw [onInCol_eq_onInRow, setEntry_transpose, onInRow_off hi h]
  rfl

end Counts

section Along

variable {f : ι → ℕ} {is : List ι}

theorem sum_map_le_one (hd : is.Nodup) (hle : ∀ i ∈ is, f i ≤ 1)
    (ho : ∀ i ∈ is, ∀ j ∈ is, f i ≠ 0 → f j ≠ 0 → i = j) : (is.map f).sum ≤ 1 := by
  induction is with
  | nil => exact Nat.zero_le 1
  | cons i is ih =>
    obtain ⟨hi, hd⟩ := nodup_cons.1 hd
    rw [map_cons, sum_cons]
    by_cases h0 : f i = 0
    · rw [h0, Nat.zero_add]
      exact ih hd (fun j hj => hle j (mem_cons_of_mem i hj))
        fun j hj k hk => ho j (mem_cons_of_mem i hj) k (mem_cons_of_mem i hk)
    · have hr : (is.map f).sum = 0 := by
        refine sum_eq_zero fun n hn => ?_
        obtain ⟨j, hj, rfl⟩ := mem_map.1 hn
        by_contra hf
        exact hi (ho i mem_cons_self j (mem_cons_of_mem i hj) h0 hf ▸ hj)
      have := hle i mem_cons_self
      omega

theorem sum_map_pred {g : ι → ℕ} {i : ι} (hn : is.Nodup) (hi : i ∈ is) (hl : g i + 1 = f i)
    (hs : ∀ j, j ≠ i → g j = f j) : (is.map g).sum + 1 = (is.map f).sum := by
  induction is with
  | nil => cases hi
  | cons j is ih =>
    obtain ⟨hj, hn⟩ := nodup_cons.1 hn
    rw [map_cons, sum_cons, map_cons, sum_cons]
    rcases mem_cons.1 hi with rfl | hi
    · have hr : is.map g = is.map f := map_congr_left fun k hk => hs k fun e => hj (e ▸ hk)
      rw [hr]
      omega
    · have hne : j ≠ i := fun e => hj (e ▸ hi)
      have := ih hn hi
      rw [hs j hne]
      omega

theorem exists_of_sum_map_ne_zero (h : (is.map f).sum ≠ 0) : ∃ i ∈ is, f i ≠ 0 := by
  by_contra ht
  apply h
  refine sum_eq_zero fun n hn => ?_
  obtain ⟨i, hi, rfl⟩ := mem_map.1 hn
  by_contra hf
  exact ht ⟨i, hi, hf⟩

theorem eq_of_length_le_one {i j : ι} (h : is.length ≤ 1) (hi : i ∈ is) (hj : j ∈ is) : i = j := by
  obtain ⟨k, rfl⟩ := length_eq_one_iff.1 (Nat.le_antisymm h (length_pos_of_mem hi))
  rw [mem_singleton.1 hi, mem_singleton.1 hj]

end Along

end UniMrcp.Lib
