import Mathlib.Algebra.Ring.Nat

/-!
# Bytes in memory

A memory gives every offset its content. Words are laid out as on a little-endian host.
-/

namespace UniMrcp.Lib

/-! ## Content -/

section Content

variable {α : Type*} {m : ℕ → α} {p q : ℕ} {a b : List α}

/-- The memory after `bs` was put at offset `p`. -/
def store (m : ℕ → α) (p : ℕ) (bs : List α) : ℕ → α :=
  fun i => if p ≤ i then bs[i - p]?.getD (m i) else m i

/-- The memory has `bs` from offset `p` on. -/
def BytesAt (m : ℕ → α) : ℕ → List α → Prop
  | _, [] => True
  | p, b :: bs => m p = b ∧ BytesAt m (p + 1) bs

@[simp] theorem bytesAt_nil (m : ℕ → α) (p : ℕ) : BytesAt m p [] := trivial

@[simp] theorem bytesAt_cons (m : ℕ → α) (p : ℕ) (b : α) (bs : List α) :
    BytesAt m p (b :: bs) ↔ m p = b ∧ BytesAt m (p + 1) bs := Iff.rfl

theorem bytesAt_append : BytesAt m p (a ++ b) ↔ BytesAt m p a ∧ BytesAt m (p + a.length) b := by
  induction a generalizing p with
  | nil => simp
  | cons x a ih => simp [ih, and_assoc, Nat.add_assoc, Nat.add_comm 1]

theorem bytesAt_iff : BytesAt m p a ↔ ∀ i (h : i < a.length), m (p + i) = a[i] := by
  induction a generalizing p with
  | nil => simp
  | cons x a ih =>
    rw [bytesAt_cons, ih]
    constructor
    · rintro ⟨hx, ha⟩ i hi
      cases i with
      | zero => simpa using hx
      | succ i => simpa [Nat.add_assoc, Nat.add_comm 1] using ha i (by simpa using hi)
    · intro h
      refine ⟨h 0 (Nat.zero_lt_succ _), fun i hi => ?_⟩
      rw [Nat.add_assoc, Nat.add_comm 1]
      exact h (i + 1) (Nat.succ_lt_succ hi)

variable {i : ℕ}

theorem store_of_lt (h : i < p) : store m p a i = m i := by
  simp [store, Nat.not_le.2 h]

theorem store_of_ge (h : p + a.length ≤ i) : store m p a i = m i := by
  have hi : a[i - p]? = none := List.getElem?_eq_none (by omega)
  simp [store, hi]

theorem store_within (h : i < a.length) : store m p a (p + i) = a[i] := by
  simp [store, h]

theorem bytesAt_store (m : ℕ → α) (p : ℕ) (a : List α) : BytesAt (store m p a) p a :=
  bytesAt_iff.2 fun _ h => store_within h

theorem BytesAt.congr {m' : ℕ → α} (h : BytesAt m p a) (he : ∀ i, p ≤ i → m' i = m i) : BytesAt m' p a := by
  rw [bytesAt_iff] at h ⊢
  intro i hi
  rw [he (p + i) (Nat.le_add_right p i)]
  exact h i hi

theorem store_append (m : ℕ → α) (p : ℕ) (a b : List α) :
    store (store m p a) (p + a.length) b = store m p (a ++ b) := by
  funext i
  simp only [store]
  by_cases hi : p + a.length ≤ i
  · have ha : a[i - p]? = none := List.getElem?_eq_none (by omega)
    have hi' : p ≤ i := by omega
    rw [if_pos hi, if_pos hi', if_pos hi', ha, List.getElem?_append_right (by omega)]
    congr 2
    omega
  · rw [if_neg hi]
    by_cases hp : p ≤ i
    · rw [if_pos hp, if_pos hp, List.getElem?_append_left (by omega)]
    · rw [if_neg hp, if_neg hp]

theorem store_before (m : ℕ → α) (p : ℕ) (a b : List α) :
    store (store m (p + a.length) b) p a = store m p (a ++ b) := by
  funext i
  simp only [store]
  by_cases hi : p + a.length ≤ i
  · have ha : a[i - p]? = none := List.getElem?_eq_none (by omega)
    have hi' : p ≤ i := by omega
    rw [if_pos hi, if_pos hi', if_pos hi', ha, List.getElem?_append_right (by omega), Option.getD_none]
    congr 2
    omega
  · rw [if_neg hi]
    by_cases hp : p ≤ i
    · rw [if_pos hp, if_pos hp, List.getElem?_append_left (by omega)]
    · rw [if_neg hp, if_neg hp]

theorem BytesAt.store_of_disjoint (h : BytesAt m p a) (hd : p + a.length ≤ q ∨ q + b.length ≤ p) :
    BytesAt (store m q b) p a := by
  rw [bytesAt_iff] at h ⊢
  intro i hi
  rw [← h i hi]
  rcases hd with hd | hd
  · exact store_of_lt (by omega)
  · exact store_of_ge (by omega)

end Content

def u16Bytes (x : UInt16) : List UInt8 := [UInt8.ofNat x.toNat, UInt8.ofNat (x.toNat / 2 ^ 8)]

def u32Bytes (x : UInt32) : List UInt8 :=
  [UInt8.ofNat x.toNat, UInt8.ofNat (x.toNat / 2 ^ 8), UInt8.ofNat (x.toNat / 2 ^ 16), UInt8.ofNat (x.toNat / 2 ^ 24)]

def u16Of (a b : UInt8) : UInt16 := UInt16.ofNat (a.toNat + 2 ^ 8 * b.toNat)

def u32Of (a b c d : UInt8) : UInt32 :=
  UInt32.ofNat (a.toNat + 2 ^ 8 * b.toNat + 2 ^ 16 * c.toNat + 2 ^ 24 * d.toNat)

variable (x : UInt32)

@[simp] theorem u32Bytes_length : (u32Bytes x).length = 4 := rfl

theorem u16Of_bytes (x : UInt16) : u16Of (UInt8.ofNat x.toNat) (UInt8.ofNat (x.toNat / 2 ^ 8)) = x := by
  apply UInt16.toNat_inj.1
  have hx := x.toNat_lt
  simp only [u16Of, UInt16.toNat_ofNat', UInt8.toNat_ofNat']
  omega

theorem u32Of_bytes : u32Of (UInt8.ofNat x.toNat) (UInt8.ofNat (x.toNat / 2 ^ 8))
    (UInt8.ofNat (x.toNat / 2 ^ 16)) (UInt8.ofNat (x.toNat / 2 ^ 24)) = x := by
  apply UInt32.toNat_inj.1
  have hx := x.toNat_lt
  simp only [u32Of, UInt32.toNat_ofNat', UInt8.toNat_ofNat']
  omega

def loadU16 (m : ℕ → UInt8) (p : ℕ) : UInt16 := u16Of (m p) (m (p + 1))

def loadU32 (m : ℕ → UInt8) (p : ℕ) : UInt32 := u32Of (m p) (m (p + 1)) (m (p + 2)) (m (p + 3))

theorem loadU16_of_bytesAt {m : ℕ → UInt8} {p : ℕ} {x : UInt16} (h : BytesAt m p (u16Bytes x)) : loadU16 m p = x := by
  rw [loadU16, h.1, h.2.1]
  exact u16Of_bytes x

theorem loadU32_of_bytesAt {m : ℕ → UInt8} {p : ℕ} {x : UInt32} (h : BytesAt m p (u32Bytes x)) : loadU32 m p = x := by
  rw [loadU32, h.1, h.2.1, h.2.2.1, h.2.2.2.1]
  exact u32Of_bytes x

def swap16 (x : UInt16) : UInt16 := u16Of (UInt8.ofNat (x.toNat / 2 ^ 8)) (UInt8.ofNat x.toNat)

def swap32 (x : UInt32) : UInt32 :=
  u32Of (UInt8.ofNat (x.toNat / 2 ^ 24)) (UInt8.ofNat (x.toNat / 2 ^ 16)) (UInt8.ofNat (x.toNat / 2 ^ 8))
    (UInt8.ofNat x.toNat)

theorem swap16_u16Of (a b : UInt8) : swap16 (u16Of a b) = u16Of b a := by
  have ha := a.toNat_lt
  have hb := b.toNat_lt
  have hx : (u16Of a b).toNat = a.toNat + 2 ^ 8 * b.toNat := by
    simp only [u16Of, UInt16.toNat_ofNat']
    omega
  have h0 : UInt8.ofNat (u16Of a b).toNat = a := by
    apply UInt8.toNat_inj.1
    simp only [hx, UInt8.toNat_ofNat']
    omega
  have h1 : UInt8.ofNat ((u16Of a b).toNat / 2 ^ 8) = b := by
    apply UInt8.toNat_inj.1
    simp only [hx, UInt8.toNat_ofNat']
    omega
  rw [swap16, h0, h1]

theorem swap32_u32Of (a b c d : UInt8) : swap32 (u32Of a b c d) = u32Of d c b a := by
  have ha := a.toNat_lt
  have hb := b.toNat_lt
  have hc := c.toNat_lt
  have hd := d.toNat_lt
  have hx : (u32Of a b c d).toNat = a.toNat + 2 ^ 8 * b.toNat + 2 ^ 16 * c.toNat + 2 ^ 24 * d.toNat := by
    simp only [u32Of, UInt32.toNat_ofNat']
    omega
  have h0 : UInt8.ofNat (u32Of a b c d).toNat = a := by
    apply UInt8.toNat_inj.1
    simp only [hx, UInt8.toNat_ofNat']
    omega
  have h1 : UInt8.ofNat ((u32Of a b c d).toNat / 2 ^ 8) = b := by
    apply UInt8.toNat_inj.1
    simp only [hx, UInt8.toNat_ofNat']
    omega
  have h2 : UInt8.ofNat ((u32Of a b c d).toNat / 2 ^ 16) = c := by
    apply UInt8.toNat_inj.1
    simp only [hx, UInt8.toNat_ofNat']
    omega
  have h3 : UInt8.ofNat ((u32Of a b c d).toNat / 2 ^ 24) = d := by
    apply UInt8.toNat_inj.1
    simp only [hx, UInt8.toNat_ofNat']
    omega
  rw [swap32, h0, h1, h2, h3]

@[simp] theorem swap16_swap16 (x : UInt16) : swap16 (swap16 x) = x := by
  rw [← u16Of_bytes x, swap16_u16Of, swap16_u16Of]

@[simp] theorem swap32_swap32 : swap32 (swap32 x) = x := by
  rw [← u32Of_bytes x, swap32_u32Of, swap32_u32Of]

end UniMrcp.Lib
