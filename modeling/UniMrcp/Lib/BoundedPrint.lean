import Mathlib.Data.List.TakeWhile
import Mathlib.Data.List.Range
import UniMrcp.Lib.Memory

/-!
# Printing into a bounded buffer

Texts are printed one after the other into a buffer, each by a call that is told how much room is left and cuts what
does not fit, but counts it. The room is calculated with a subtraction that may borrow.
-/

namespace UniMrcp.Lib

open List

variable {α : Type}

/-- A call: where it prints, how many cells it is told are left, and how many it writes. -/
structure PrintCall where
  position : Nat
  size : Nat
  used : Nat
deriving DecidableEq

/-- Memory from the first cell of the buffer on, and beyond its end, with the calls made so far. -/
structure Printed (α : Type) where
  memory : Nat → α
  calls : List PrintCall

/-- What is written of a text with room for `size` cells: what fits before the terminator. -/
def cut (nul : α) (size : Nat) (text : List α) : List α :=
  if size = 0 then [] else text.take (size - 1) ++ [nul]

def print (nul : α) (b : Printed α) (position size : Nat) (text : List α) : Printed α × Nat :=
  (⟨store b.memory position (cut nul size text), b.calls ++ [⟨position, size, (cut nul size text).length⟩]⟩,
    text.length)

/-- The next call of a function that prints from `position` on with room for `size` cells. -/
def printNext (nul : α) (sub : Nat → Nat → Nat) (position size : Nat) (p : Printed α × Nat) (text : List α) :
    Printed α × Nat :=
  ((print nul p.1 (position + p.2) (sub size p.2) text).1, p.2 + (print nul p.1 (position + p.2) (sub size p.2) text).2)

/-- The calls of a function that is told where to print and how much room is left, and counts what it prints. -/
def printAll (nul : α) (sub : Nat → Nat → Nat) (b : Printed α) (position size : Nat) (texts : List (List α)) :
    Printed α × Nat :=
  texts.foldl (printNext nul sub position size) (b, 0)

def blockNext (nul : α) (sub : Nat → Nat → Nat) (size : Nat) (p : Printed α × Nat) (texts : List (List α)) :
    Printed α × Nat :=
  ((printAll nul sub p.1 p.2 (sub size p.2) texts).1, p.2 + (printAll nul sub p.1 p.2 (sub size p.2) texts).2)

def printBlocks (nul : α) (sub : Nat → Nat → Nat) (b : Printed α) (size : Nat) (blocks : List (List (List α))) :
    Printed α × Nat :=
  blocks.foldl (blockNext nul sub size) (b, 0)

/-- What a reader finds in a buffer of `size` cells: the cells before the first terminator. -/
def string [DecidableEq α] (nul : α) (b : Printed α) (size : Nat) : List α :=
  ((List.range size).map b.memory).takeWhile (· ≠ nul)

/-- Every call has been told the room that is left, and has written inside the buffer. -/
def Contained (b : Printed α) (size : Nat) : Prop :=
  ∀ c ∈ b.calls, c.position + c.size = size ∧ c.position + c.used ≤ size

instance (b : Printed α) (size : Nat) : Decidable (Contained b size) := by
  unfold Contained
  infer_instance

/-! ## What the buffer holds -/

/-- The buffer holds as much of the text as fits, and a terminator. If all of it fits, nothing was written outside. -/
structure Holds (nul : α) (b : Printed α) (size : Nat) (text : List α) : Prop where
  cells : ∀ i (h : i < text.length), i < size - 1 → b.memory i = text[i]
  terminator : b.memory (min text.length (size - 1)) = nul
  contained : text.length < size → Contained b size

variable {nul : α} {b : Printed α} {position size : Nat} {text : List α}

theorem length_cut (h : 0 < size) : (cut nul size text).length = min text.length (size - 1) + 1 := by
  simp [cut, Nat.ne_of_gt h]
  omega

theorem cut_getElem {i : Nat} (h : i < min text.length (size - 1)) (hi : i < (cut nul size text).length) :
    (cut nul size text)[i] = text[i] := by
  have hs : size ≠ 0 := by omega
  have hl : i < (text.take (size - 1)).length := by rw [length_take]; omega
  simp only [cut, hs, if_false]
  rw [getElem_append_left hl, getElem_take]

theorem cut_last (h : 0 < size) (hi : min text.length (size - 1) < (cut nul size text).length) :
    (cut nul size text)[min text.length (size - 1)] = nul := by
  simp only [cut, Nat.ne_of_gt h, if_false]
  rw [getElem_append_right (by rw [length_take]; omega)]
  simp

/-- One call after the text `before`, with the room that is left told rightly unless there is none. -/
theorem Holds.print {before : List α} {room : Nat} (hs : 0 < size) (h : Holds nul b size before)
    (hr : before.length < size → room = size - before.length) :
    Holds nul (print nul b before.length room text).1 size (before ++ text) := by
  by_cases hlt : before.length < size
  · -- the text is cut where the buffer ends
    have hr := hr hlt
    have hp : 0 < room := by omega
    have hn : (cut nul room text).length = min text.length (room - 1) + 1 := length_cut hp
    constructor
    · intro i hi hl
      by_cases hb : i < before.length
      · rw [getElem_append_left hb]
        exact (store_of_lt hb).trans (h.cells i hb hl)
      · obtain ⟨k, rfl⟩ : ∃ k, i = before.length + k := ⟨i - before.length, by omega⟩
        rw [length_append] at hi
        have hk : k < min text.length (room - 1) := by omega
        rw [getElem_append_right (by omega)]
        simp only [Nat.add_sub_cancel_left]
        exact (store_within (by omega)).trans (cut_getElem hk _)
    · have he : min (before ++ text).length (size - 1) = before.length + min text.length (room - 1) := by
        rw [length_append]
        omega
      rw [he]
      exact (store_within (by omega)).trans (cut_last hp _)
    · intro ha c hc
      rw [length_append] at ha
      rcases mem_append.1 hc with hc | hc
      · exact h.contained hlt c hc
      · obtain rfl := mem_singleton.1 hc
        simp only [hn]
        omega
  · -- everything is written behind the end of the buffer
    constructor
    · intro i hi hl
      have hb : i < before.length := by omega
      rw [getElem_append_left hb]
      exact (store_of_lt hb).trans (h.cells i hb hl)
    · have he : min (before ++ text).length (size - 1) = size - 1 := by
        rw [length_append]
        omega
      have ht := h.terminator
      rw [show min before.length (size - 1) = size - 1 by omega] at ht
      rw [he]
      exact (store_of_lt (by omega)).trans ht
    · intro ha
      rw [length_append] at ha
      omega

theorem Holds.string [DecidableEq α] (hs : 0 < size) (h : Holds nul b size text) (ht : nul ∉ text) :
    string nul b size = text.take (size - 1) := by
  have hm : (List.range size).map b.memory = text.take (size - 1) ++
      nul :: ((List.range size).map b.memory).drop (min text.length (size - 1) + 1) := by
    apply ext_getElem
    · simp
      omega
    · intro i hi hi'
      rw [getElem_map, getElem_range]
      rcases Nat.lt_trichotomy i (min text.length (size - 1)) with hlt | heq | hgt
      · rw [getElem_append_left (by rw [length_take]; omega), getElem_take]
        exact h.cells i (by omega) (by omega)
      · subst heq
        rw [getElem_append_right (by rw [length_take]; omega)]
        simpa [Nat.min_comm] using h.terminator
      · rw [getElem_append_right (by rw [length_take]; omega)]
        rw [getElem_cons, dif_neg (by rw [length_take]; omega), getElem_drop, getElem_map, getElem_range]
        congr 1
        rw [length_take]
        omega
  unfold Lib.string
  rw [hm, takeWhile_append_of_pos]
  · simp
  · intro x hx
    have hne : x ≠ nul := fun heq => ht (heq ▸ mem_of_mem_take hx)
    simpa using hne

/-- What holds of a text and is kept by printing each part, holds of the text with all parts. -/
theorem foldl_flatten {σ ι : Type} (R : σ → List α → Prop) (step : σ → ι → σ) (render : ι → List α)
    (keep : ∀ s text i, R s text → R (step s i) (text ++ render i)) (s : σ) (text : List α) (h : R s text)
    (is : List ι) : R (is.foldl step s) (text ++ (is.map render).flatten) := by
  induction is generalizing s text with
  | nil => simpa using h
  | cons i is ih => simpa [append_assoc] using ih _ _ (keep s text i h)

section Calls

variable {sub : Nat → Nat → Nat} (hsub : ∀ a b, b ≤ a → sub a b = a - b)
include hsub

/-- The calls of one function, which was told the room that is left unless there is none. -/
theorem printAll_spec (hs : 0 < size) (texts : List (List α)) {before : List α} {room : Nat}
    (h : Holds nul b size before) (hr : before.length < size → room = size - before.length) :
    Holds nul (printAll nul sub b before.length room texts).1 size (before ++ texts.flatten) ∧
      (printAll nul sub b before.length room texts).2 = texts.flatten.length := by
  have hf := foldl_flatten (fun p printed => Holds nul p.1 size (before ++ printed) ∧ p.2 = printed.length)
    (printNext nul sub before.length room) id ?_ (b, 0) [] ⟨by simpa using h, rfl⟩ texts
  · simpa [printAll] using hf
  · rintro ⟨b, count⟩ printed text ⟨hp, rfl⟩
    constructor
    · have hn : Holds nul (print nul b (before ++ printed).length (sub room printed.length) text).1 size
          (before ++ printed ++ text) := by
        refine hp.print hs fun hlt => ?_
        rw [length_append] at hlt ⊢
        rw [hr (by omega), hsub _ _ (by omega)]
        omega
      rw [length_append, append_assoc] at hn
      exact hn
    · simp [printNext, print]

/-- **The buffer holds as much of the text as fits**, and the length of the whole text is counted. -/
theorem printBlocks_spec (hs : 0 < size) (blocks : List (List (List α))) (h : Holds nul b size []) :
    Holds nul (printBlocks nul sub b size blocks).1 size blocks.flatten.flatten ∧
      (printBlocks nul sub b size blocks).2 = blocks.flatten.flatten.length := by
  have hf := foldl_flatten (fun p printed => Holds nul p.1 size printed ∧ p.2 = printed.length)
    (blockNext nul sub size) List.flatten ?_ (b, 0) [] ⟨h, rfl⟩ blocks
  · simpa [printBlocks, flatten_flatten] using hf
  · rintro ⟨b, count⟩ printed texts ⟨hp, rfl⟩
    obtain ⟨hn, hc⟩ :=
      printAll_spec hsub hs texts hp fun hlt => hsub size printed.length (by omega)
    exact ⟨hn, by simp [blockNext, hc]⟩

end Calls

end UniMrcp.Lib
