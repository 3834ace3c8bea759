import Mathlib.Data.List.Nodup

/-!
# Ledgers of numbered orders

Orders are numbered as they are issued, and wait at desks until they are answered. A ledger is balanced if every order
that counts waits at one desk, or was answered once.
-/

namespace UniMrcp.Lib

open List

/-- Numbers that were issued, the numbers that wait at each desk, and how often each number was answered. -/
structure Ledger (κ : Type*) where
  issued : ℕ
  desk : κ → List ℕ
  answers : ℕ → ℕ

namespace Ledger

variable {κ : Type*} {counts counts' : ℕ → Prop} {l l' : Ledger κ} {k k' : κ} {n : ℕ}

/-- **Every order that counts waits at one desk, or was answered once.** An order that waits was not answered. -/
structure Balanced (counts : ℕ → Prop) (l : Ledger κ) : Prop where
  nodup : ∀ k, (l.desk k).Nodup
  apart : ∀ k k' n, n ∈ l.desk k → n ∈ l.desk k' → k = k'
  issued : ∀ k, ∀ n ∈ l.desk k, n < l.issued
  unissued : ∀ n, l.issued ≤ n → l.answers n = 0
  waiting : ∀ k, ∀ n ∈ l.desk k, l.answers n = 0
  answered : ∀ n, n < l.issued → counts n → (∀ k, n ∉ l.desk k) → l.answers n = 1

theorem balanced_empty (h : l.issued = 0) (hd : ∀ k, l.desk k = []) (ha : ∀ n, l.answers n = 0) :
    Balanced counts l where
  nodup k := hd k ▸ nodup_nil
  apart k _ _ hn _ := absurd (hd k ▸ hn) not_mem_nil
  issued k _ hn := absurd (hd k ▸ hn) not_mem_nil
  unissued n _ := ha n
  waiting _ n _ := ha n
  answered n hn _ _ := absurd (h ▸ hn) (Nat.not_lt_zero n)

theorem Balanced.mono (h : Balanced counts l) (hcn : ∀ n, n < l.issued → counts' n → counts n) :
    Balanced counts' l :=
  ⟨h.nodup, h.apart, h.issued, h.unissued, h.waiting, fun n hn hc => h.answered n hn (hcn n hn hc)⟩

theorem Balanced.congr (h : Balanced counts l) (hi : l'.issued = l.issued) (hd : ∀ k, l'.desk k = l.desk k)
    (ha : ∀ n, l'.answers n = l.answers n) : Balanced counts l' := by
  obtain ⟨issued, desk, answers⟩ := l
  obtain ⟨issued', desk', answers'⟩ := l'
  obtain rfl : issued' = issued := hi
  obtain rfl : desk' = desk := funext hd
  obtain rfl : answers' = answers := funext ha
  exact h

theorem Balanced.notMem (h : Balanced counts l) (hn : n ∈ l.desk k) (k' : κ) (hne : k' ≠ k) : n ∉ l.desk k' :=
  fun hn' => hne (h.apart k' k n hn' hn)

/-- **An order is issued**, and waits at the end of a desk. -/
theorem Balanced.issue (h : Balanced counts l) (k : κ) (hi : l'.issued = l.issued + 1)
    (hd : l'.desk k = l.desk k ++ [l.issued]) (ho : ∀ k', k' ≠ k → l'.desk k' = l.desk k')
    (ha : ∀ n, l'.answers n = l.answers n) : Balanced counts l' := by
  have hw : ∀ k, l.issued ∉ l.desk k := fun k hm => Nat.lt_irrefl _ (h.issued k _ hm)
  have hm : ∀ k' n, n ∈ l'.desk k' ↔ n ∈ l.desk k' ∨ k' = k ∧ n = l.issued := by
    intro k' n
    rcases eq_or_ne k' k with rfl | hne
    · simp [hd]
    · simp [ho k' hne, hne]
  refine ⟨fun k' => ?_, fun k₁ k₂ n h₁ h₂ => ?_, fun k' n hn => ?_, fun n hn => ?_, fun k' n hn => ?_,
    fun n hn hc hno => ?_⟩
  · rcases eq_or_ne k' k with rfl | hne
    · rw [hd]
      exact (h.nodup k').append (nodup_singleton _) (disjoint_singleton.2 (hw k'))
    · rw [ho k' hne]
      exact h.nodup k'
  · rcases (hm k₁ n).1 h₁ with h₁ | ⟨rfl, rfl⟩
    · rcases (hm k₂ n).1 h₂ with h₂ | ⟨rfl, rfl⟩
      · exact h.apart k₁ k₂ n h₁ h₂
      · exact absurd h₁ (hw k₁)
    · rcases (hm k₂ _).1 h₂ with h₂ | ⟨rfl, -⟩
      · exact absurd h₂ (hw k₂)
      · rfl
  · rcases (hm k' n).1 hn with hn | ⟨-, rfl⟩
    · have := h.issued k' n hn
      omega
    · omega
  · rw [ha]
    exact h.unissued n (by omega)
  · rw [ha]
    rcases (hm k' n).1 hn with hn | ⟨-, rfl⟩
    · exact h.waiting k' n hn
    · exact h.unissued _ (Nat.le_refl _)
  · rw [ha]
    have hne : n ≠ l.issued := by
      rintro rfl
      exact hno k ((hm k _).2 (Or.inr ⟨rfl, rfl⟩))
    exact h.answered n (by omega) hc fun k' hk' => hno k' ((hm k' n).2 (Or.inl hk'))

/-- **An order moves** from the front of a desk to the end of another one. -/
theorem Balanced.move (h : Balanced counts l) (k k' : κ) (n : ℕ) (rest : List ℕ) (hf : l.desk k = n :: rest)
    (hne : k' ≠ k) (hi : l'.issued = l.issued) (hd : l'.desk k = rest) (ht : l'.desk k' = l.desk k' ++ [n])
    (ho : ∀ j, j ≠ k → j ≠ k' → l'.desk j = l.desk j) (ha : ∀ n, l'.answers n = l.answers n) :
    Balanced counts l' := by
  have hn : n ∈ l.desk k := hf ▸ mem_cons_self
  obtain ⟨hnt, hr⟩ := nodup_cons.1 (hf ▸ h.nodup k)
  have hw : ∀ j m, m ∈ l'.desk j ↔ m ≠ n ∧ m ∈ l.desk j ∨ m = n ∧ j = k' := by
    intro j m
    rcases eq_or_ne j k with rfl | hj
    · rw [hd, hf, mem_cons]
      constructor
      · intro hm
        exact Or.inl ⟨fun heq => hnt (heq ▸ hm), Or.inr hm⟩
      · rintro (⟨hm, heq | hm'⟩ | ⟨-, heq⟩)
        · exact absurd heq hm
        · exact hm'
        · exact absurd heq.symm hne
    · have hnj : n ∉ l.desk j := h.notMem hn _ hj
      rcases eq_or_ne j k' with rfl | hj'
      · rw [ht, mem_append, mem_singleton]
        constructor
        · rintro (hm | rfl)
          · exact Or.inl ⟨fun heq => hnj (heq ▸ hm), hm⟩
          · exact Or.inr ⟨rfl, rfl⟩
        · rintro (⟨-, hm⟩ | ⟨rfl, -⟩)
          · exact Or.inl hm
          · exact Or.inr rfl
      · rw [ho j hj hj']
        constructor
        · intro hm
          exact Or.inl ⟨fun heq => hnj (heq ▸ hm), hm⟩
        · rintro (⟨-, hm⟩ | ⟨-, heq⟩)
          · exact hm
          · exact absurd heq hj'
  refine ⟨fun j => ?_, fun j₁ j₂ m h₁ h₂ => ?_, fun j m hm => ?_, fun m hm => ?_, fun j m hm => ?_,
    fun m hm hc hno => ?_⟩
  · rcases eq_or_ne j k with rfl | hj
    · rw [hd]
      exact hr
    · rcases eq_or_ne j k' with rfl | hj'
      · rw [ht]
        exact (h.nodup j).append (nodup_singleton _) (disjoint_singleton.2 (h.notMem hn _ hj))
      · rw [ho j hj hj']
        exact h.nodup j
  · rcases (hw j₁ m).1 h₁ with ⟨hm, h₁⟩ | ⟨rfl, rfl⟩
    · rcases (hw j₂ m).1 h₂ with ⟨-, h₂⟩ | ⟨rfl, -⟩
      · exact h.apart j₁ j₂ m h₁ h₂
      · exact absurd rfl hm
    · rcases (hw j₂ m).1 h₂ with ⟨hm, -⟩ | ⟨-, rfl⟩
      · exact absurd rfl hm
      · rfl
  · rw [hi]
    rcases (hw j m).1 hm with ⟨-, hm⟩ | ⟨rfl, -⟩
    · exact h.issued j m hm
    · exact h.issued k m hn
  · rw [ha]
    exact h.unissued m (hi ▸ hm)
  · rw [ha]
    rcases (hw j m).1 hm with ⟨-, hm⟩ | ⟨rfl, -⟩
    · exact h.waiting j m hm
    · exact h.waiting k m hn
  · rw [ha]
    have hm' : m ≠ n := by
      rintro rfl
      exact hno k' ((hw k' m).2 (Or.inr ⟨rfl, rfl⟩))
    exact h.answered m (hi ▸ hm) hc fun j hj => hno j ((hw j m).2 (Or.inl ⟨hm', hj⟩))

/-- **An order is taken** from the front of a desk, and answered if it counts. -/
theorem Balanced.take (h : Balanced counts l) (k : κ) (n : ℕ) (rest : List ℕ) (hf : l.desk k = n :: rest)
    (hi : l'.issued = l.issued) (hd : l'.desk k = rest) (ho : ∀ j, j ≠ k → l'.desk j = l.desk j)
    (ha : ∀ m, m ≠ n → l'.answers m = l.answers m) (hn : counts n → l'.answers n = l.answers n + 1) :
    Balanced counts l' := by
  have hmm : n ∈ l.desk k := hf ▸ mem_cons_self
  obtain ⟨ht, hr⟩ := nodup_cons.1 (hf ▸ h.nodup k)
  have hw : ∀ j m, m ∈ l'.desk j ↔ m ≠ n ∧ m ∈ l.desk j := by
    intro j m
    rcases eq_or_ne j k with rfl | hj
    · rw [hd, hf, mem_cons]
      constructor
      · intro hm
        exact ⟨fun heq => ht (heq ▸ hm), Or.inr hm⟩
      · rintro ⟨hm, heq | hm'⟩
        · exact absurd heq hm
        · exact hm'
    · rw [ho j hj]
      exact ⟨fun hm => ⟨fun heq => h.notMem hmm _ hj (heq ▸ hm), hm⟩, fun hm => hm.2⟩
  have hlt := h.issued k n hmm
  refine ⟨fun j => ?_, fun j₁ j₂ m h₁ h₂ => ?_, fun j m hm => ?_, fun m hm => ?_, fun j m hm => ?_,
    fun m hm hc hno => ?_⟩
  · rcases eq_or_ne j k with rfl | hj
    · rw [hd]
      exact hr
    · rw [ho j hj]
      exact h.nodup j
  · exact h.apart j₁ j₂ m ((hw j₁ m).1 h₁).2 ((hw j₂ m).1 h₂).2
  · rw [hi]
    exact h.issued j m ((hw j m).1 hm).2
  · rw [ha m (by omega)]
    exact h.unissued m (by omega)
  · obtain ⟨hm, hmm⟩ := (hw j m).1 hm
    rw [ha m hm]
    exact h.waiting j m hmm
  · rcases eq_or_ne m n with rfl | hm'
    · rw [hn hc, h.waiting k m hmm]
    · rw [ha m hm']
      exact h.answered m (by omega) hc fun j hj => hno j ((hw j m).2 ⟨hm', hj⟩)

end Ledger

end UniMrcp.Lib
