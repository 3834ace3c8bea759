import UniMrcp.Mpf.Context

/-!
# The counters of the association matrix
-/

namespace UniMrcp.Mpf

open Lib List MpfContext
open List (range range')

variable {τ : Type}

/-! ## Counts -/

section Counts

variable {p : Prop} [Decidable p] {n : UInt8} {on on' : ℕ}

theorem count_off (hn : n.toNat = on) (h : on' + (if p then 1 else 0) = on) :
    (if p then n - 1 else n).toNat = on' := by
  split at h
  · rename_i hp
    have h1 : (1 : UInt8).toNat = 1 := rfl
    rw [if_pos hp, UInt8.toNat_sub_of_le, h1]
    · omega
    · rw [UInt8.le_iff_toNat_le]
      omega
  · rename_i hp
    rw [if_neg hp]
    omega

theorem count_on (hn : n.toNat = on) (h : on' = on + if p then 1 else 0) (hlt : p → on < 255) :
    (if p then n + 1 else n).toNat = on' := by
  split at h
  · rename_i hp
    have hlt := hlt hp
    have h1 : (1 : UInt8).toNat = 1 := rfl
    rw [if_pos hp, UInt8.toNat_add, h1]
    omega
  · rename_i hp
    rw [if_neg hp]
    omega

end Counts

namespace MpfContext

/-- The counts of the slots are those of their rows and columns, and entries are on between occupied slots only. -/
structure Counted (c : MpfContext τ) : Prop where
  tx : ∀ i < c.capacity, (c.header i).txCount.toNat = onInRow c.slots c.matrix i
  rx : ∀ i < c.capacity, (c.header i).rxCount.toNat = onInCol c.slots c.matrix i
  within : ∀ i j, c.matrix i j → i < c.capacity ∧ j < c.capacity
  between : ∀ i j, c.matrix i j → c.occupied i ∧ c.occupied j

structure Sheds (c c' : MpfContext τ) : Prop where
  capacity : c'.capacity = c.capacity
  count : c'.count = c.count
  linked : c'.linked = c.linked
  termination : ∀ i, (c'.header i).termination = (c.header i).termination
  matrix : ∀ i j, c'.matrix i j → c.matrix i j
  counted : c.Counted → c'.Counted

section Slots

variable {c c' : MpfContext τ} {i j : ℕ}

theorem mem_slots : i ∈ c.slots ↔ i < c.capacity := Finset.mem_range

theorem Sheds.refl (c : MpfContext τ) : Sheds c c := ⟨rfl, rfl, rfl, fun _ => rfl, fun _ _ h => h, fun h => h⟩

theorem Sheds.trans {c'' : MpfContext τ} (h : Sheds c c') (h' : Sheds c' c'') : Sheds c c'' :=
  ⟨h'.capacity.trans h.capacity, h'.count.trans h.count, h'.linked.trans h.linked,
    fun i => (h'.termination i).trans (h.termination i), fun i j ho => h.matrix i j (h'.matrix i j ho),
    fun hc => h'.counted (h.counted hc)⟩

theorem Sheds.occupied (h : Sheds c c') : c'.occupied = c.occupied := by
  funext i
  rw [MpfContext.occupied, h.termination]
  rfl

variable {body : MpfContext τ → ℕ → MpfContext τ}

theorem Sheds.foldl (h : ∀ c i, Sheds c (body c i)) (is : List ℕ) (c : MpfContext τ) : Sheds c (is.foldl body c) := by
  induction is generalizing c with
  | nil => exact Sheds.refl c
  | cons i is ih => exact (h c i).trans (ih (body c i))

variable {is : List ℕ}

theorem Sheds.foldl_off (h : ∀ c i, Sheds c (body c i)) {k : ℕ} (hk : k ∈ is)
    (ho : ∀ c', Sheds c c' → ¬ (body c' k).matrix i j = true) : ¬ (is.foldl body c).matrix i j = true := by
  induction is generalizing c with
  | nil => cases hk
  | cons a is ih =>
    rcases mem_cons.1 hk with rfl | hk
    · exact fun hn => ho c (Sheds.refl c) ((Sheds.foldl h is (body c k)).matrix i j hn)
    · exact ih hk fun c' hc' => ho c' ((h c a).trans hc')

/-! ## Entries -/

theorem Counted.switchOff (h : c.Counted) (i j : ℕ) : (c.switchOff i j).Counted := by
  rw [MpfContext.switchOff]
  split
  · rename_i ho
    obtain ⟨hi, hj⟩ := h.within i j ho
    have hr := onInRow_off (mem_slots.2 hj) ho
    have hc := onInCol_off (mem_slots.2 hi) ho
    constructor
    · exact fun a ha => count_off (h.tx a ha) (hr a)
    · exact fun b hb => count_off (h.rx b hb) (hc b)
    · exact fun a b hab => h.within a b (setEntry_off_iff.1 hab).1
    · exact fun a b hab => h.between a b (setEntry_off_iff.1 hab).1
  · exact h

theorem switchOff_matrix_iff {a b : ℕ} :
    (c.switchOff i j).matrix a b = true ↔ c.matrix a b ∧ ¬ (a = i ∧ b = j) := by
  rw [MpfContext.switchOff]
  split
  · exact setEntry_off_iff
  · rename_i hf
    constructor
    · rintro ho
      refine ⟨ho, ?_⟩
      rintro ⟨rfl, rfl⟩
      exact hf ho
    · exact fun h => h.1

theorem sheds_switchOff (c : MpfContext τ) (i j : ℕ) : Sheds c (c.switchOff i j) := by
  have hs : (c.switchOff i j).capacity = c.capacity ∧ (c.switchOff i j).count = c.count ∧
      (c.switchOff i j).linked = c.linked ∧
        ∀ a, ((c.switchOff i j).header a).termination = (c.header a).termination := by
    rw [MpfContext.switchOff]
    split <;> exact ⟨rfl, rfl, rfl, fun _ => rfl⟩
  obtain ⟨hp, hc, hl, ht⟩ := hs
  exact ⟨hp, hc, hl, ht, fun a b ho => (switchOff_matrix_iff.1 ho).1,
    fun h => h.switchOff i j⟩

theorem Counted.switchOn (h : c.Counted) (hp : c.capacity ≤ 255) (hi : i < c.capacity) (hj : j < c.capacity)
    (hoi : c.occupied i) (hoj : c.occupied j) (compatible : Bool) :
    (c.switchOn i j compatible).Counted := by
  rw [MpfContext.switchOn]
  split_ifs with ho hm
  · exact h
  · have hr := onInRow_on (mem_slots.2 hj) ho
    have hc := onInCol_on (mem_slots.2 hi) ho
    have hl := onInRow_lt (mem_slots.2 hj) ho
    have ht := onInCol_lt (mem_slots.2 hi) ho
    have hcr : c.slots.card = c.capacity := Finset.card_range _
    constructor
    · intro a ha
      refine count_on (h.tx a ha) (hr a) fun hai => ?_
      subst hai
      omega
    · intro b hb
      refine count_on (h.rx b hb) (hc b) fun hbj => ?_
      subst hbj
      omega
    · intro a b hab
      rcases setEntry_on_iff.1 hab with hab | ⟨rfl, rfl⟩
      · exact h.within a b hab
      · exact ⟨hi, hj⟩
    · intro a b hab
      rcases setEntry_on_iff.1 hab with hab | ⟨rfl, rfl⟩
      · exact h.between a b hab
      · exact ⟨hoi, hoj⟩
  · exact h

theorem switchOn_same (c : MpfContext τ) (i j : ℕ) (compatible : Bool) :
    (c.switchOn i j compatible).capacity = c.capacity ∧ (c.switchOn i j compatible).count = c.count ∧
      (c.switchOn i j compatible).linked = c.linked ∧
      ∀ a, ((c.switchOn i j compatible).header a).termination = (c.header a).termination := by
  rw [MpfContext.switchOn]
  split_ifs <;> exact ⟨rfl, rfl, rfl, fun _ => rfl⟩

theorem sheds_dissociate (i : ℕ) (c : MpfContext τ) (j : ℕ) : Sheds c (c.dissociate i j) :=
  (sheds_switchOff c i j).trans (sheds_switchOff _ j i)

theorem dissociate_off (i : ℕ) (c : MpfContext τ) (j : ℕ) :
    ¬ (c.dissociate i j).matrix i j = true ∧ ¬ (c.dissociate i j).matrix j i = true := by
  constructor
  · intro ho
    exact (switchOff_matrix_iff.1 (switchOff_matrix_iff.1 ho).1).2 ⟨rfl, rfl⟩
  · intro ho
    exact (switchOff_matrix_iff.1 ho).2 ⟨rfl, rfl⟩

theorem foldl_dissociate_off (i : ℕ) (c : MpfContext τ) (hj : j ∈ is) :
    ¬ (is.foldl (MpfContext.dissociate i) c).matrix i j = true ∧
      ¬ (is.foldl (MpfContext.dissociate i) c).matrix j i = true :=
  ⟨Sheds.foldl_off (sheds_dissociate i) hj fun c' _ => (dissociate_off i c' j).1,
    Sheds.foldl_off (sheds_dissociate i) hj fun c' _ => (dissociate_off i c' j).2⟩

end Slots

end MpfContext

/-! ## The invariant -/

variable [DecidableEq τ]

def MpfContext.occupiedCount (c : MpfContext τ) : ℕ := (c.slots.filter fun i => c.occupied i = true).card

/-- The counters, the slots and the ring agree with the matrix and the header. -/
structure MpfMedia.Sound (s : MpfMedia τ) : Prop where
  capacity : s.context.capacity ≤ 255
  counted : s.context.Counted
  count : s.context.count = s.context.occupiedCount
  slot : ∀ i < s.context.capacity, ∀ t, (s.context.header i).termination = some t → s.slot t = i
  linked : s.context.linked ↔ 0 < s.context.count

section Sound

variable {s : MpfMedia τ} {t u : τ} {c : MpfContext τ}

omit [DecidableEq τ] in
theorem occupiedCount_eq_length (c : MpfContext τ) :
    c.occupiedCount = ((range c.capacity).filter c.occupied).length := by
  have h : c.slots.filter (fun i => c.occupied i = true) = ((range c.capacity).filter c.occupied).toFinset := by
    ext i
    simp [MpfContext.slots]
  rw [MpfContext.occupiedCount, h, toFinset_card_of_nodup (nodup_range.filter _)]

omit [DecidableEq τ] in
theorem occupiedCount_succ {c c' : MpfContext τ} {i : ℕ} (hc : c'.capacity = c.capacity) (hi : i < c.capacity)
    (hf : ¬ c.occupied i = true) (h : ∀ a, c'.occupied a ↔ a = i ∨ c.occupied a) :
    c'.occupiedCount = c.occupiedCount + 1 := by
  have hn : i ∉ c.slots.filter fun a => c.occupied a = true := fun hm => hf (Finset.mem_filter.1 hm).2
  rw [MpfContext.occupiedCount, MpfContext.occupiedCount, ← Finset.card_insert_of_notMem hn]
  congr 1
  ext a
  rw [Finset.mem_filter, Finset.mem_insert, Finset.mem_filter, h a, MpfContext.slots, MpfContext.slots, hc]
  constructor
  · rintro ⟨ha, rfl | ho⟩
    · exact Or.inl rfl
    · exact Or.inr ⟨ha, ho⟩
  · rintro (rfl | ⟨ha, ho⟩)
    · exact ⟨Finset.mem_range.2 hi, Or.inl rfl⟩
    · exact ⟨ha, Or.inr ho⟩

omit [DecidableEq τ] in
theorem occupiedCount_congr {c c' : MpfContext τ} (hc : c'.capacity = c.capacity)
    (h : c'.occupied = c.occupied) : c'.occupiedCount = c.occupiedCount := by
  rw [MpfContext.occupiedCount, MpfContext.occupiedCount, MpfContext.slots, MpfContext.slots, hc, h]

omit [DecidableEq τ] in
theorem mem_occupied {i : ℕ} :
    i ∈ (range c.capacity).filter c.occupied ↔ i < c.capacity ∧ c.occupied i := by
  rw [mem_filter, mem_range]

omit [DecidableEq τ] in
theorem occupied_of_termination {i : ℕ} (h : (c.header i).termination = some t) : c.occupied i := by
  rw [MpfContext.occupied, h]
  rfl

omit [DecidableEq τ] in
theorem loopOccupied_sheds {body : MpfContext τ → ℕ → MpfContext τ} (hb : ∀ c i, MpfContext.Sheds c (body c i))
    (hc : c.count = c.occupiedCount) :
    loopOccupied MpfContext.occupied MpfContext.count body (range c.capacity) 0 c =
      ((range c.capacity).filter c.occupied).foldl body c := by
  apply loopOccupied_eq (fun c i => (hb c i).occupied) (fun c i => (hb c i).count)
  rw [Nat.zero_add, ← occupiedCount_eq_length, hc]

omit [DecidableEq τ] in
theorem MpfMedia.Sound.sheds (h : s.Sound) (hc : s.context.Sheds c) : ({ s with context := c } : MpfMedia τ).Sound := by
  refine ⟨hc.capacity.trans_le h.capacity, hc.counted h.counted, ?_, ?_, ?_⟩
  · exact (hc.count.trans h.count).trans (occupiedCount_congr hc.capacity hc.occupied).symm
  · intro i hi t ht
    exact h.slot i (hc.capacity ▸ hi) t ((hc.termination i).symm.trans ht)
  · change c.linked = true ↔ 0 < c.count
    rw [hc.linked, hc.count, h.linked]

omit [DecidableEq τ] in
theorem sound_create {capacity : ℕ} (hc : capacity ≤ 255) (slot : τ → ℕ) (audioStream : τ → Option StreamDirection) :
    (⟨mpfContextCreate capacity, slot, audioStream⟩ : MpfMedia τ).Sound := by
  have hr (i : ℕ) : onInRow (Finset.range capacity) (fun _ _ => false) i = 0 := onInRow_eq_zero.2 (by simp)
  have hl (i : ℕ) : onInCol (Finset.range capacity) (fun _ _ => false) i = 0 := onInCol_eq_zero.2 (by simp)
  refine ⟨hc, ⟨?_, ?_, ?_, ?_⟩, ?_, ?_, ?_⟩
  · exact fun i _ => (hr i).symm
  · exact fun i _ => (hl i).symm
  · exact fun i j h => Bool.noConfusion h
  · exact fun i j h => Bool.noConfusion h
  · exact (Finset.card_filter_eq_zero_iff.2 fun i _ h => Bool.noConfusion h).symm
  · exact fun i _ t h => nomatch h
  · simp [mpfContextCreate]

/-! ## Operations -/

theorem MpfMedia.Sound.terminationAdd (h : s.Sound) (ht : ¬ s.Holds t) : (mpfContextTerminationAdd s t).1.Sound := by
  rw [mpfContextTerminationAdd]
  split
  · rename_i i hfi
    have hi : i < s.context.capacity := mem_range.1 (mem_of_find?_eq_some hfi)
    have hf : ¬ s.context.occupied i = true := by simpa using List.find?_some hfi
    have hr : onInRow s.context.slots s.context.matrix i = 0 :=
      onInRow_eq_zero.2 fun j _ ho => hf (h.counted.between i j ho).1
    have hc : onInCol s.context.slots s.context.matrix i = 0 :=
      onInCol_eq_zero.2 fun j _ ho => hf (h.counted.between j i ho).2
    refine ⟨h.capacity, ⟨?_, ?_, h.counted.within, ?_⟩, ?_, ?_, ?_⟩
    · intro a ha
      by_cases hai : a = i
      · subst hai
        simpa [MpfContext.slots] using hr.symm
      · simpa [Function.update_of_ne hai, MpfContext.slots] using h.counted.tx a ha
    · intro a ha
      by_cases hai : a = i
      · subst hai
        simpa [MpfContext.slots] using hc.symm
      · simpa [Function.update_of_ne hai, MpfContext.slots] using h.counted.rx a ha
    · intro a b ho
      obtain ⟨ha, hb⟩ := h.counted.between a b ho
      have hai : a ≠ i := fun e => hf (e ▸ ha)
      have hbi : b ≠ i := fun e => hf (e ▸ hb)
      simpa [MpfContext.occupied, Function.update_of_ne hai, Function.update_of_ne hbi] using And.intro ha hb
    · refine Eq.trans (congrArg (· + 1) h.count) (Eq.symm ?_)
      refine occupiedCount_succ ?_ hi hf fun a => ?_
      · rfl
      by_cases hai : a = i
      · simp [hai, MpfContext.occupied]
      · simp [hai, MpfContext.occupied]
    · intro a ha u hu
      by_cases hai : a = i
      · subst hai
        have hu : t = u := by simpa using hu
        exact hu ▸ Function.update_self ..
      · have hu : (s.context.header a).termination = some u := by simpa [Function.update_of_ne hai] using hu
        have hut : u ≠ t := fun e => ht ⟨a, mem_range.2 ha, e ▸ hu⟩
        exact (Function.update_of_ne hut ..).trans (h.slot a ha u hu)
    · have hl := h.linked
      dsimp only
      split
      · simp
      · rw [hl]
        omega
  · exact h

theorem MpfMedia.Sound.vacate (h : s.Sound) {i : ℕ} (hi : i < s.context.capacity)
    (ht : (s.context.header i).termination = some t)
    (hf : ∀ a b, s.context.matrix a b → a ≠ i ∧ b ≠ i) :
    MpfMedia.Sound
      { s with
        context :=
          { s.context with
            header := Function.update s.context.header i { s.context.header i with termination := none }
            count := s.context.count - 1
            linked := if s.context.count - 1 = 0 then false else s.context.linked }
        slot := Function.update s.slot t noSlot } := by
  refine ⟨h.capacity, ⟨?_, ?_, h.counted.within, ?_⟩, ?_, ?_, ?_⟩
  · intro a ha
    have hx := h.counted.tx a ha
    by_cases hai : a = i
    · subst hai
      simpa [MpfContext.slots] using hx
    · simpa [Function.update_of_ne hai, MpfContext.slots] using hx
  · intro a ha
    have hr := h.counted.rx a ha
    by_cases hai : a = i
    · subst hai
      simpa [MpfContext.slots] using hr
    · simpa [Function.update_of_ne hai, MpfContext.slots] using hr
  · intro a b ho
    obtain ⟨hai, hb⟩ := hf a b ho
    simpa [MpfContext.occupied, Function.update_of_ne hai, Function.update_of_ne hb] using h.counted.between a b ho
  · have hc (n : ℕ) (hn : s.context.occupiedCount = n + 1) : s.context.count - 1 = n := by
      have := h.count
      omega
    apply hc
    refine occupiedCount_succ ?_ hi ?_ fun a => ?_
    · rfl
    · simp [MpfContext.occupied]
    by_cases hai : a = i
    · simp [hai, occupied_of_termination ht]
    · simp [hai, MpfContext.occupied]
  · intro a ha u hu
    have hai : a ≠ i := by
      rintro rfl
      simp at hu
    have hau : (s.context.header a).termination = some u := by simpa [Function.update_of_ne hai] using hu
    have hut : u ≠ t := by
      rintro rfl
      exact hai ((h.slot a ha u hau).symm.trans (h.slot i hi u ht))
    exact (Function.update_of_ne hut ..).trans (h.slot a ha u hau)
  · have hl := h.linked
    dsimp only
    split
    · rename_i hz
      simp [hz]
    · rw [hl]
      omega

theorem MpfMedia.Sound.terminationSubtract (h : s.Sound) : (mpfContextTerminationSubtract s t).1.Sound := by
  rw [mpfContextTerminationSubtract]
  split
  · exact h
  · rename_i hl
    split
    · exact h
    · rename_i ht
      rw [loopOccupied_sheds (sheds_dissociate (s.slot t)) h.count]
      rw [not_not] at ht
      have hh := MpfContext.Sheds.foldl (sheds_dissociate (s.slot t))
        ((range s.context.capacity).filter s.context.occupied) s.context
      have ho (j : ℕ) (hj : j < s.context.capacity ∧ s.context.occupied j) :=
        foldl_dissociate_off (s.slot t) s.context (mem_occupied.2 hj)
      generalize ((range s.context.capacity).filter s.context.occupied).foldl
        (MpfContext.dissociate (s.slot t)) s.context = c at hh ho
      have hs := h.sheds hh
      refine hs.vacate (t := t) (i := s.slot t) ?_ ?_ ?_
      · change s.slot t < c.capacity
        rw [hh.capacity]
        omega
      · exact (hh.termination (s.slot t)).trans ht
      · intro a b hn
        obtain ⟨hoa, hob⟩ := hs.counted.between a b hn
        obtain ⟨ha, hb⟩ := hs.counted.within a b hn
        rw [hh.capacity] at ha hb
        rw [hh.occupied] at hoa hob
        constructor
        · rintro rfl
          exact (ho b ⟨hb, hob⟩).1 hn
        · rintro rfl
          exact (ho a ⟨ha, hoa⟩).2 hn

omit [DecidableEq τ] in
theorem MpfMedia.Sound.switchOn (h : s.Sound) {i j : ℕ} (hi : i < s.context.capacity)
    (hj : j < s.context.capacity) (ho : s.context.occupied i)
    (hoj : s.context.occupied j) (compatible : Bool) :
    ({ s with context := s.context.switchOn i j compatible } : MpfMedia τ).Sound := by
  obtain ⟨hp, hc, hl, ht⟩ := switchOn_same s.context i j compatible
  have hn := h.counted.switchOn h.capacity hi hj ho hoj compatible
  generalize s.context.switchOn i j compatible = c at hp hc hl ht hn
  have hoc : c.occupied = s.context.occupied := by
    funext a
    rw [MpfContext.occupied, ht]
    rfl
  refine ⟨hp.trans_le h.capacity, hn, ?_, ?_, ?_⟩
  · exact (hc.trans h.count).trans (occupiedCount_congr hp hoc).symm
  · intro a ha u hu
    exact h.slot a (hp ▸ ha) u ((ht a).symm.trans hu)
  · change c.linked = true ↔ 0 < c.count
    rw [hl, hc, h.linked]

theorem MpfMedia.Sound.associationAdd (h : s.Sound) : (mpfContextAssociationAdd s t u).1.Sound := by
  rw [mpfContextAssociationAdd]
  split
  · rename_i hp
    obtain ⟨⟨hi, hj⟩, ht, hu⟩ := hp
    have ho := occupied_of_termination ht
    have hoj := occupied_of_termination hu
    have hf := h.switchOn hi hj ho hoj
      (streamDirectionCompatibilityCheck (s.audioStream t) (s.audioStream u))
    obtain ⟨hc, -, -, hr⟩ := switchOn_same s.context (s.slot t) (s.slot u)
      (streamDirectionCompatibilityCheck (s.audioStream t) (s.audioStream u))
    apply hf.switchOn
    · exact hj.trans_eq hc.symm
    · exact hi.trans_eq hc.symm
    · exact occupied_of_termination ((hr (s.slot u)).trans hu)
    · exact occupied_of_termination ((hr (s.slot t)).trans ht)
  · exact h

theorem MpfMedia.Sound.associationRemove (h : s.Sound) : (mpfContextAssociationRemove s t u).1.Sound := by
  rw [mpfContextAssociationRemove]
  split
  · exact h.sheds (sheds_dissociate _ _ _)
  · exact h

omit [DecidableEq τ] in
theorem MpfMedia.Sound.topologyDestroy (h : s.Sound) :
    ({ s with context := mpfContextTopologyDestroy s.context } : MpfMedia τ).Sound :=
  ⟨h.capacity, ⟨h.counted.tx, h.counted.rx, h.counted.within, h.counted.between⟩, h.count, h.slot, h.linked⟩

omit [DecidableEq τ] in
theorem sheds_dissociateOccupied (i : ℕ) (c : MpfContext τ) (j : ℕ) :
    MpfContext.Sheds c (if c.occupied j then c.dissociate i j else c) := by
  split
  · exact sheds_dissociate i c j
  · exact MpfContext.Sheds.refl c

omit [DecidableEq τ] in
theorem sheds_resetSlot (c : MpfContext τ) (i : ℕ) : MpfContext.Sheds c (c.resetSlot i) := by
  rw [MpfContext.resetSlot]
  split
  · exact MpfContext.Sheds.refl c
  · exact MpfContext.Sheds.foldl (sheds_dissociateOccupied i) _ c

omit [DecidableEq τ] in
theorem resetSlot_off (h : c.Counted) {i j : ℕ} (hi : i < c.capacity) (hij : i ≤ j) :
    ¬ (c.resetSlot i).matrix i j = true ∧ ¬ (c.resetSlot i).matrix j i = true := by
  rw [MpfContext.resetSlot]
  split
  · rename_i hz
    obtain ⟨ht, hx⟩ := hz
    have hr : onInRow c.slots c.matrix i = 0 := by
      rw [← h.tx i hi, ht]
      rfl
    have hl : onInCol c.slots c.matrix i = 0 := by
      rw [← h.rx i hi, hx]
      rfl
    constructor
    · exact fun ho => onInRow_eq_zero.1 hr j (MpfContext.mem_slots.2 (h.within i j ho).2) ho
    · exact fun ho => onInCol_eq_zero.1 hl j (MpfContext.mem_slots.2 (h.within j i ho).1) ho
  · have hs := MpfContext.Sheds.foldl (sheds_dissociateOccupied i) (range' i (c.capacity - i)) c
    have hn := hs.counted h
    by_cases hj : j < c.capacity ∧ c.occupied j
    · have hm : j ∈ range' i (c.capacity - i) := mem_range'_1.2 ⟨hij, by omega⟩
      constructor
      · refine MpfContext.Sheds.foldl_off (sheds_dissociateOccupied i) hm fun c' hc' => ?_
        rw [if_pos (by rw [hc'.occupied, hj.2])]
        exact (dissociate_off i c' j).1
      · refine MpfContext.Sheds.foldl_off (sheds_dissociateOccupied i) hm fun c' hc' => ?_
        rw [if_pos (by rw [hc'.occupied, hj.2])]
        exact (dissociate_off i c' j).2
    · -- a slot outside, or an empty one, has no entries
      constructor
      · intro ho
        apply hj
        rw [← hs.capacity, ← hs.occupied]
        exact ⟨(hn.within i j ho).2, (hn.between i j ho).2⟩
      · intro ho
        apply hj
        rw [← hs.capacity, ← hs.occupied]
        exact ⟨(hn.within j i ho).1, (hn.between j i ho).1⟩

omit [DecidableEq τ] in
theorem MpfMedia.Sound.associationsReset (h : s.Sound) :
    (mpfContextAssociationsReset s).Sound ∧ ∀ i j, ¬ (mpfContextAssociationsReset s).context.matrix i j = true := by
  have hd := h.topologyDestroy
  rw [mpfContextAssociationsReset]
  generalize hc : mpfContextTopologyDestroy s.context = c at hd
  have hp : c.capacity = s.context.capacity := by rw [← hc]; rfl
  rw [← hp, loopOccupied_sheds sheds_resetSlot hd.count]
  have hh := MpfContext.Sheds.foldl sheds_resetSlot ((range c.capacity).filter c.occupied) c
  have hs := hd.sheds hh
  refine ⟨hs, fun a b ho => ?_⟩
  obtain ⟨ha, hb⟩ := hd.counted.within a b (hh.matrix a b ho)
  obtain ⟨hoa, hob⟩ := hd.counted.between a b (hh.matrix a b ho)
  -- the round of the smaller index
  rcases Nat.le_total a b with hab | hba
  · refine MpfContext.Sheds.foldl_off sheds_resetSlot (mem_occupied.2 ⟨ha, hoa⟩) (fun c' hc' => ?_) ho
    exact (resetSlot_off (hc'.counted hd.counted) (ha.trans_eq hc'.capacity.symm) hab).1
  · refine MpfContext.Sheds.foldl_off sheds_resetSlot (mem_occupied.2 ⟨hb, hob⟩) (fun c' hc' => ?_) ho
    exact (resetSlot_off (hc'.counted hd.counted) (hb.trans_eq hc'.capacity.symm) hba).2

omit [DecidableEq τ] in
theorem MpfMedia.Sound.topologyApply_eq (h : s.Sound) (found : Converters τ) :
    mpfContextTopologyApply found s = ((range s.context.capacity).filter s.context.occupied).foldl
      (mpfContextSlotApply found) { s with context := mpfContextTopologyDestroy s.context } := by
  rw [mpfContextTopologyApply]
  apply loopOccupied_eq
  · exact fun _ _ => rfl
  · exact fun _ _ => rfl
  · rw [Nat.zero_add]
    exact h.count.trans (occupiedCount_eq_length s.context)

omit [DecidableEq τ] in
theorem MpfMedia.Sound.topologyApply (h : s.Sound) (found : Converters τ) :
    (mpfContextTopologyApply found s).Sound := by
  rw [h.topologyApply_eq]
  have hd := h.topologyDestroy
  generalize { s with context := mpfContextTopologyDestroy s.context } = s' at hd ⊢
  generalize (range s.context.capacity).filter _ = is
  induction is generalizing s' with
  | nil => exact hd
  | cons i is ih =>
    apply ih
    exact ⟨hd.capacity, ⟨hd.counted.tx, hd.counted.rx, hd.counted.within, hd.counted.between⟩, hd.count, hd.slot,
      hd.linked⟩

omit [DecidableEq τ] in
theorem MpfMedia.Sound.process (h : s.Sound) (decodes : τ → Bool) :
    ({ s with context := (mpfContextFactoryProcess s.context decodes).1 } : MpfMedia τ).Sound := by
  rw [mpfContextFactoryProcess]
  split
  · exact ⟨h.capacity, ⟨h.counted.tx, h.counted.rx, h.counted.within, h.counted.between⟩, h.count, h.slot, h.linked⟩
  · exact h

theorem MpfMedia.Sound.slotSet (h : s.Sound) (ht : ¬ s.Holds t) (i : ℕ) :
    ({ s with slot := Function.update s.slot t i } : MpfMedia τ).Sound := by
  refine ⟨h.capacity, h.counted, h.count, ?_, h.linked⟩
  intro a ha u hu
  have hut : u ≠ t := fun e => ht ⟨a, mem_range.2 ha, e ▸ hu⟩
  exact (Function.update_of_ne hut ..).trans (h.slot a ha u hu)

theorem MpfMedia.Sound.step (h : s.Sound) {op : ContextOp τ} (ho : op.Allowed s) :
    (mpfMediaStep s op).1.Sound := by
  cases op with
  | terminationAdd t => exact h.terminationAdd ho
  | terminationSubtract t => exact h.terminationSubtract
  | associationAdd t u => exact h.associationAdd
  | associationRemove t u => exact h.associationRemove
  | associationsReset => exact h.associationsReset.1
  | topologyApply found => exact h.topologyApply found
  | topologyDestroy => exact h.topologyDestroy
  | process decodes => exact h.process decodes
  | streamSet t direction => exact ⟨h.capacity, h.counted, h.count, h.slot, h.linked⟩
  | slotSet t i => exact h.slotSet ho i

end Sound

/-- **After every sequence of operations on a context for at most 255 terminations, of which none is added twice, the
counters, the slots and the ring agree with the matrix and the header, and a reset switches all off.** -/
theorem mpfMedia_sound {capacity : ℕ} (hcap : capacity ≤ 255) (slot : τ → ℕ)
    (audioStream : τ → Option StreamDirection) {ops : List (ContextOp τ)}
    (h : EachStep mpfMediaStep (fun s op => op.Allowed s) ⟨mpfContextCreate capacity, slot, audioStream⟩ ops) :
    (run mpfMediaStep ⟨mpfContextCreate capacity, slot, audioStream⟩ ops).1.Sound ∧
      ∀ i j, (mpfContextAssociationsReset
        (run mpfMediaStep ⟨mpfContextCreate capacity, slot, audioStream⟩ ops).1).context.matrix i j = false := by
  have hs := run_invariant MpfMedia.Sound (fun s op => op.Allowed s) (fun _ _ hs hop => hs.step hop) _ ops
    (sound_create hcap slot audioStream) h
  refine ⟨hs, fun i j => ?_⟩
  rw [← Bool.not_eq_true]
  exact hs.associationsReset.2 i j

/-- Two terminations are added and associated with each other and with themselves, and one of them is subtracted. -/
theorem mpfMedia_sound_pair :
    (run mpfMediaStep (⟨mpfContextCreate 2, fun _ => 0, fun _ => some .duplex⟩ : MpfMedia ℕ)
      [.terminationAdd 7, .terminationAdd 8, .associationAdd 7 8, .associationAdd 7 7,
        .terminationSubtract 8]).1.Sound :=
  (mpfMedia_sound (by decide) _ _ (by decide)).1

end UniMrcp.Mpf
