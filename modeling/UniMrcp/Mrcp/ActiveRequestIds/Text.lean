import Mathlib.Algebra.BigOperators.Group.List.Basic
import UniMrcp.Mrcp.GenericHeader.Accessor

/-!
# The text of an Active-Request-Id-List

The buffer for the text has room for ten characters for each request-id and for the commas, but not for a NUL.
-/

namespace UniMrcp.Mrcp

open Apt List

/-! ## Request-ids in decimal -/

def idsText (ids : List Nat) : Bytes := [0x2C].intercalate (ids.map decimal)

theorem digit_of_mem_decimal {n : Nat} {b : UInt8} (h : b ∈ decimal n) : 0x30 ≤ b.toNat ∧ b.toNat ≤ 0x39 := by
  obtain ⟨c, hc, rfl⟩ := mem_map.1 h
  have hd := Nat.isDigit_of_mem_toDigits (by decide) (by decide) hc
  simp only [Char.isDigit, Bool.and_eq_true, decide_eq_true_eq] at hd
  have hl : 48 ≤ c.toNat := hd.1
  have hh : c.toNat ≤ 57 := hd.2
  have hb : c.toNat < UInt8.size := by
    show c.toNat < 256
    omega
  rw [UInt8.toNat_ofNat_of_lt' hb]
  exact ⟨hl, hh⟩

variable (n : Nat)

theorem comma_notMem_decimal : (0x2C : UInt8) ∉ decimal n := fun h => by
  have := (digit_of_mem_decimal h).1
  simp at this

theorem minus_notMem_decimal : (0x2D : UInt8) ∉ decimal n := fun h => by
  have := (digit_of_mem_decimal h).1
  simp at this

theorem length_decimal_le_iff {n k : Nat} (hk : 0 < k) : (decimal n).length ≤ k ↔ n < 10 ^ k := by
  rw [decimal, length_map, Nat.length_toDigits_le_iff (by decide) hk]

theorem length_decimal_pos : 0 < (decimal n).length := by
  rw [decimal, length_map]
  exact Nat.length_toDigits_pos

variable (id : Nat)

@[simp] theorem idsText_singleton : idsText [id] = decimal id := by simp [idsText]

theorem idsText_cons_cons (id id' : Nat) (ids : List Nat) :
    idsText (id :: id' :: ids) = decimal id ++ 0x2C :: idsText (id' :: ids) := by
  simp [idsText, intercalate_cons_cons]

def idsLength (ids : List Nat) : Nat := (ids.map fun id => (decimal id).length + 1).sum

@[simp] theorem idsLength_nil : idsLength [] = 0 := rfl

@[simp] theorem idsLength_cons (ids : List Nat) :
    idsLength (id :: ids) = (decimal id).length + 1 + idsLength ids := by simp [idsLength]

theorem idsLength_perm {ids order : List Nat} (h : order.Perm ids) : idsLength order = idsLength ids :=
  (h.map _).sum_eq

variable {ids : List Nat}

theorem length_idsText (h : ids ≠ []) : (idsText ids).length + 1 = idsLength ids := by
  induction ids with
  | nil => exact absurd rfl h
  | cons id ids ih =>
    cases ids with
    | nil => simp
    | cons id' ids =>
      have := ih (by simp)
      rw [idsText_cons_cons, idsLength_cons]
      simp only [length_append, length_cons]
      omega

theorem count_comma_idsText (h : ids ≠ []) : (idsText ids).count 0x2C + 1 = ids.length := by
  induction ids with
  | nil => exact absurd rfl h
  | cons id ids ih =>
    have hid : (decimal id).count 0x2C = 0 := count_eq_zero.2 (comma_notMem_decimal id)
    cases ids with
    | nil => simp [hid]
    | cons id' ids =>
      have := ih (by simp)
      rw [idsText_cons_cons, count_append, count_cons_self, hid, length_cons]
      omega

theorem minus_notMem_idsText (ids : List Nat) : (0x2D : UInt8) ∉ idsText ids := by
  induction ids with
  | nil => simp [idsText]
  | cons id ids ih =>
    cases ids with
    | nil => simpa using minus_notMem_decimal id
    | cons id' ids =>
      rw [idsText_cons_cons, mem_append, mem_cons]
      rintro (h | h | h)
      · exact minus_notMem_decimal id h
      · exact absurd h (by decide)
      · exact ih h

/-! ## Writing -/

theorem requestIdText_of_lt {id : Nat} (h : id < 2 ^ 31) : requestIdText id = decimal id := if_pos h

theorem length_requestIdText_le : (requestIdText id).length ≤ 11 := by
  unfold requestIdText
  split_ifs with h
  · have : (decimal id).length ≤ 10 := (length_decimal_le_iff (by decide)).2 (by omega)
    omega
  · have : (decimal (2 ^ 32 - id)).length ≤ 10 := (length_decimal_le_iff (by decide)).2 (by omega)
    rw [length_cons]
    omega

theorem comma_notMem_requestIdText : (0x2C : UInt8) ∉ requestIdText id := by
  unfold requestIdText
  split_ifs
  · exact comma_notMem_decimal id
  · rw [mem_cons]
    rintro (h | h)
    · exact absurd h (by decide)
    · exact comma_notMem_decimal _ h

variable {size : Nat} {text : Bytes}

theorem snprintf_of_lt (h : text.length < size) : snprintf size text = text :=
  take_of_length_le (by omega)

theorem requestIdsWrite_cons (h : text ≠ []) (id : Nat) (ids : List Nat) :
    requestIdsWrite size text (id :: ids) =
      requestIdsWrite size (text ++ 0x2C :: snprintf (size - (text.length + 1)) (requestIdText id)) ids := by
  simp [requestIdsWrite, h]

theorem prefix_requestIdsWrite (size : Nat) (text : Bytes) (ids : List Nat) :
    text <+: requestIdsWrite size text ids := by
  induction ids generalizing text with
  | nil => exact prefix_rfl
  | cons id ids ih =>
    refine List.IsPrefix.trans ?_ (ih _)
    split_ifs with h
    · simp [h]
    · simp [append_assoc]

theorem count_comma_requestIdsWrite (h : text ≠ []) (ids : List Nat) :
    (requestIdsWrite size text ids).count 0x2C = text.count 0x2C + ids.length := by
  induction ids generalizing text with
  | nil => rfl
  | cons id ids ih =>
    have hid : (snprintf (size - (text.length + 1)) (requestIdText id)).count 0x2C = 0 :=
      count_eq_zero.2 fun hm => comma_notMem_requestIdText id (mem_of_mem_take hm)
    rw [requestIdsWrite_cons h, ih (by simp), count_append, count_cons_self, hid, length_cons]
    omega

theorem requestIdsWrite_text (h : text ≠ [])
    (hr : text.length + (ids.map fun id => (requestIdText id).length + 1).sum < size) :
    requestIdsWrite size text ids = text ++ (ids.map fun id => 0x2C :: requestIdText id).flatten := by
  induction ids generalizing text with
  | nil => simp [requestIdsWrite]
  | cons id ids ih =>
    rw [map_cons, sum_cons] at hr
    rw [requestIdsWrite_cons h, snprintf_of_lt (by omega), ih (by simp)]
    · simp
    · simp only [length_append, length_cons]
      omega

theorem requestIdsWrite_exact (h : text ≠ []) (hi : ∀ id ∈ ids, id < 2 ^ 31)
    (hr : text.length + idsLength ids < size) :
    requestIdsWrite size text ids = text ++ (ids.map fun id => 0x2C :: decimal id).flatten := by
  have ht : ∀ id ∈ ids, requestIdText id = decimal id := fun id hid => requestIdText_of_lt (hi id hid)
  have hl : (ids.map fun id => (requestIdText id).length + 1) = ids.map fun id => (decimal id).length + 1 :=
    map_congr_left fun id hid => by rw [ht id hid]
  have hc : (ids.map fun id => 0x2C :: requestIdText id) = ids.map fun id => 0x2C :: decimal id :=
    map_congr_left fun id hid => by rw [ht id hid]
  rw [requestIdsWrite_text h (by rw [hl]; exact hr), hc]

theorem requestIdsWrite_full (h : text ≠ []) (hne : ids ≠ []) (hi : ∀ id ∈ ids, id < 2 ^ 31)
    (hr : text.length + idsLength ids = size) : (requestIdsWrite size text ids).length + 1 = size := by
  induction ids generalizing text with
  | nil => exact absurd rfl hne
  | cons id ids ih =>
    obtain ⟨hid, hi⟩ := forall_mem_cons.1 hi
    rw [idsLength_cons] at hr
    have hp := length_decimal_pos id
    rw [requestIdsWrite_cons h, requestIdText_of_lt hid]
    cases ids with
    | nil =>
      simp only [idsLength_nil] at hr
      simp only [requestIdsWrite, snprintf, length_append, length_cons, length_take]
      omega
    | cons id' ids =>
      rw [idsLength_cons] at hr
      rw [snprintf_of_lt (by omega)]
      apply ih (by simp) (by simp) hi
      simp only [length_append, length_cons, idsLength_cons]
      omega

theorem minus_mem_requestIdsWrite {id : Nat} (hm : id ∈ ids) (hid : 2 ^ 31 ≤ id)
    (hr : text.length + 12 * ids.length ≤ size + 9) : (0x2D : UInt8) ∈ requestIdsWrite size text ids := by
  induction ids generalizing text with
  | nil => simp at hm
  | cons id' ids ih =>
    rw [length_cons] at hr
    unfold requestIdsWrite
    set text' := if text = [] then [] else text ++ [0x2C] with ht'
    have hl : text'.length ≤ text.length + 1 := by
      rw [ht']
      split_ifs <;> simp
    have hw := length_requestIdText_le id'
    rcases mem_cons.1 hm with rfl | hm
    · apply (prefix_requestIdsWrite _ _ _).subset
      apply mem_append_right
      obtain ⟨k, hk⟩ : ∃ k, size - text'.length - 1 = k + 1 := ⟨size - text'.length - 2, by omega⟩
      have hn : requestIdText id = 0x2D :: decimal (2 ^ 32 - id) := if_neg (Nat.not_lt.2 hid)
      simp [snprintf, hn, hk]
    · apply ih hm
      simp only [length_append, snprintf, length_take]
      omega

/-! ## The text of a list -/

theorem requestIdListGenerate_cons (ids : List Nat) :
    requestIdListGenerate (id :: ids) =
      requestIdsWrite (11 * ids.length + 10) (snprintf (11 * ids.length + 10) (requestIdText id)) ids := by
  have hs : 10 * (id :: ids).length + ((id :: ids).length - 1) = 11 * ids.length + 10 := by
    simp only [length_cons]
    omega
  unfold requestIdListGenerate
  rw [hs]
  simp [requestIdsWrite]

theorem requestIdText_ne_nil : requestIdText id ≠ [] := by
  unfold requestIdText
  split_ifs
  · exact ne_nil_of_length_pos (length_decimal_pos id)
  · simp

theorem snprintf_ne_nil (hs : 2 ≤ size) (h : text ≠ []) : snprintf size text ≠ [] := by
  simp only [snprintf, ne_eq, take_eq_nil_iff, not_or]
  exact ⟨by omega, h⟩

theorem count_comma_requestIdListGenerate (h : ids ≠ []) : (requestIdListGenerate ids).count 0x2C + 1 = ids.length := by
  cases ids with
  | nil => exact absurd rfl h
  | cons id ids =>
    have hid : (snprintf (11 * ids.length + 10) (requestIdText id)).count 0x2C = 0 :=
      count_eq_zero.2 fun hm => comma_notMem_requestIdText id (mem_of_mem_take hm)
    rw [requestIdListGenerate_cons,
      count_comma_requestIdsWrite (snprintf_ne_nil (by omega) (requestIdText_ne_nil id)), hid, length_cons]
    omega

theorem idsText_cons (ids : List Nat) :
    idsText (id :: ids) = decimal id ++ (ids.map fun id => 0x2C :: decimal id).flatten := by
  induction ids generalizing id with
  | nil => simp
  | cons id' ids ih => simp [idsText_cons_cons, ih]

theorem idsLength_le (hi : ∀ id ∈ ids, id < 2 ^ 31) :
    idsLength ids ≤ 11 * ids.length ∧ (idsLength ids < 11 * ids.length ↔ ∃ id ∈ ids, id < 10 ^ 9) := by
  induction ids with
  | nil => simp
  | cons id ids ih =>
    obtain ⟨hid, hi⟩ := forall_mem_cons.1 hi
    obtain ⟨hle, hlt⟩ := ih hi
    have ht : (decimal id).length ≤ 10 := (length_decimal_le_iff (by decide)).2 (by omega)
    have hn : (decimal id).length ≤ 9 ↔ id < 10 ^ 9 := length_decimal_le_iff (by decide)
    rw [idsLength_cons, length_cons, exists_mem_cons_iff, ← hlt, ← hn]
    omega

theorem requestIdListGenerate_iff (hne : ids ≠ []) (hl : ids.length ≤ maxActiveRequestIdCount) :
    (∃ order : List Nat, order.Perm ids ∧ requestIdListGenerate ids = idsText order) ↔
      (∀ id ∈ ids, id < 2 ^ 31) ∧ ∃ id ∈ ids, id < 10 ^ 9 := by
  have hv : ids.length ≤ 5 := hl
  constructor
  · rintro ⟨order, hr, ht⟩
    have hp : ∀ id ∈ ids, id < 2 ^ 31 := by
      intro id hm
      by_contra hid
      apply minus_notMem_idsText order
      rw [← ht]
      refine minus_mem_requestIdsWrite hm (by omega) ?_
      simp only [length_nil]
      omega
    refine ⟨hp, ?_⟩
    obtain ⟨hle, hlt⟩ := idsLength_le hp
    -- else the text is one character short
    by_contra ha
    have hf : idsLength ids = 11 * ids.length := by
      have := mt hlt.1 ha
      omega
    have ho : (idsText order).length + 1 = 11 * ids.length := by
      rw [length_idsText fun h => hne (nil_perm.1 (h ▸ hr)), idsLength_perm hr, hf]
    rw [← ht] at ho
    cases ids with
    | nil => exact hne rfl
    | cons id ids =>
      obtain ⟨hid, hi⟩ := forall_mem_cons.1 hp
      obtain ⟨hle', -⟩ := idsLength_le hi
      have hn : (decimal id).length ≤ 10 := (length_decimal_le_iff (by decide)).2 (by omega)
      rw [idsLength_cons, length_cons] at hf
      rw [requestIdListGenerate_cons, requestIdText_of_lt hid, length_cons] at ho
      cases ids with
      | nil =>
        simp only [requestIdsWrite, snprintf, length_take, length_nil] at ho
        omega
      | cons id' ids =>
        rw [length_cons] at *
        rw [snprintf_of_lt (by omega)] at ho
        have hf : (requestIdsWrite (11 * (ids.length + 1) + 10) (decimal id) (id' :: ids)).length + 1 =
            11 * (ids.length + 1) + 10 :=
          requestIdsWrite_full (ne_nil_of_length_pos (length_decimal_pos id)) (by simp) hi (by omega)
        omega
  · rintro ⟨hp, hs⟩
    refine ⟨ids, List.Perm.refl _, ?_⟩
    obtain ⟨-, hlt⟩ := idsLength_le hp
    have hrm := hlt.2 hs
    cases ids with
    | nil => exact absurd rfl hne
    | cons id ids =>
      obtain ⟨hid, hi⟩ := forall_mem_cons.1 hp
      rw [idsLength_cons, length_cons] at hrm
      rw [requestIdListGenerate_cons, requestIdText_of_lt hid, snprintf_of_lt (by omega), idsText_cons]
      exact requestIdsWrite_exact (ne_nil_of_length_pos (length_decimal_pos id)) hi (by omega)

theorem requestIdListGenerate_take_iff (hne : ids ≠ []) :
    (∃ order : List Nat, order.Perm ids ∧ requestIdListGenerate (ids.take maxActiveRequestIdCount) = idsText order) ↔
      ids.length ≤ maxActiveRequestIdCount ∧ (∀ id ∈ ids, id < 2 ^ 31) ∧ ∃ id ∈ ids, id < 10 ^ 9 := by
  constructor
  · rintro ⟨order, hp, ht⟩
    have hl : ids.length ≤ maxActiveRequestIdCount := by
      have hk : ids.take maxActiveRequestIdCount ≠ [] := by
        simpa [take_eq_nil_iff, maxActiveRequestIdCount] using hne
      have hc := count_comma_requestIdListGenerate hk
      rw [ht, count_comma_idsText fun h => hne (nil_perm.1 (h ▸ hp)), hp.length_eq,
        length_take] at hc
      omega
    rw [take_of_length_le hl] at ht
    exact ⟨hl, (requestIdListGenerate_iff hne hl).1 ⟨order, hp, ht⟩⟩
  · rintro ⟨hl, hf⟩
    rw [take_of_length_le hl]
    exact (requestIdListGenerate_iff hne hl).2 hf

end UniMrcp.Mrcp
