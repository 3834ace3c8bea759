import UniMrcp.Apr
import UniMrcp.Lib.Run

/-!
# Header fields and header sections

A header section keeps its fields in a ring, in order, and those with a numeric identifier in an array, too.
-/

namespace UniMrcp.Apt

structure HeaderField where
  name : Bytes
  value : Bytes
  /-- The numeric identifier; none stands for `UNKNOWN_HEADER_FIELD_ID`. -/
  id : Option Nat := none
deriving DecidableEq

structure HeaderSection where
  ring : List HeaderField
  arr : List (Option HeaderField)
deriving DecidableEq

def headerSectionInit : HeaderSection := ⟨[], []⟩

def headerSectionArrayAlloc (header : HeaderSection) (maxFieldCount : Nat) : HeaderSection :=
  if maxFieldCount = 0 then header else { header with arr := List.replicate maxFieldCount none }

/-- The entry of the array for a field, if the field has an identifier within the array. -/
def HeaderSection.entry (header : HeaderSection) (field : HeaderField) : Option (Option HeaderField) :=
  field.id.bind fun id => header.arr[id]?

def HeaderSection.setEntry (header : HeaderSection) (field : HeaderField) : List (Option HeaderField) :=
  match field.id with
  | none => header.arr
  | some id => header.arr.set id (some field)

def headerSectionFieldAdd (header : HeaderSection) (field : HeaderField) : HeaderSection × Bool :=
  match header.entry field with
  | some (some _) => (header, false)
  | _ => (⟨header.ring ++ [field], header.setEntry field⟩, true)

def headerSectionFieldSet (header : HeaderSection) (field : HeaderField) : HeaderSection × Bool :=
  match header.entry field with
  | some none => ({ header with arr := header.setEntry field }, true)
  | _ => (header, false)

/-- A field is inserted into the ring before the first one with a greater identifier. -/
def fieldRingInsert (field : HeaderField) : List HeaderField → List HeaderField
  | [] => [field]
  | it :: ring =>
    if field.id.any fun id => it.id.all (id < ·) then field :: it :: ring else it :: fieldRingInsert field ring

def headerSectionFieldInsert (header : HeaderSection) (field : HeaderField) : HeaderSection × Bool :=
  match header.entry field with
  | some (some _) => (header, false)
  | some none => (⟨fieldRingInsert field header.ring, header.setEntry field⟩, true)
  | none => ({ header with ring := header.ring ++ [field] }, true)

def headerSectionFieldGet (header : HeaderSection) (id : Nat) : Option HeaderField := header.arr.getD id none

/-- What is assigned to a field that `apt_header_section_field_get` found: the array refers to a field of the ring. -/
def headerSectionFieldReplace (header : HeaderSection) (id : Nat) (old new : HeaderField) : HeaderSection :=
  ⟨header.ring.replace old new, header.arr.set id (some new)⟩

def headerSectionFieldCheck (header : HeaderSection) (id : Nat) : Bool := (header.arr.getD id none).isSome

/-! ## The ring and the array -/

open Lib List

def unknownHeaderFieldId : Nat := 2 ^ 64 - 1

/-- A field as the ring and the array refer to it. It is a `duplicate` if it was refused by the array. -/
structure RingField where
  address : Nat
  id : Nat
  duplicate : Bool := false
deriving DecidableEq

/-- `apt_header_section_t`, where the array has the addresses of fields. -/
structure FieldSection where
  ring : List RingField := []
  arr : List (Option Nat)
  next : Nat := 0
deriving DecidableEq

inductive SectionCall where
  | add (id : Nat)
  | insert (id : Nat)
  | set (address id : Nat)
  | remove (address : Nat)

variable (s : FieldSection)

namespace FieldSection

/-- `apt_header_section_field_add` of a new field -/
def add (id : Nat) : FieldSection × Bool :=
  match s.arr[id]? with
  | some (some _) => (s, false)
  | _ => (⟨s.ring ++ [⟨s.next, id, false⟩], s.arr.set id (some s.next), s.next + 1⟩, true)

def ringInsert (field : RingField) : List RingField → List RingField
  | [] => [field]
  | it :: ring => if field.id < it.id then field :: it :: ring else it :: ringInsert field ring

/-- `apt_header_section_field_insert` of a new field -/
def insert (id : Nat) : FieldSection × Bool :=
  match s.arr[id]? with
  | some (some _) => (s, false)
  | some none => (⟨ringInsert ⟨s.next, id, false⟩ s.ring, s.arr.set id (some s.next), s.next + 1⟩, true)
  | none => (⟨s.ring ++ [⟨s.next, id, false⟩], s.arr, s.next + 1⟩, true)

def identified (address id : Nat) (duplicate : Bool) (field : RingField) : RingField :=
  if field.address = address then { field with id, duplicate } else field

/-- A field of the ring is identified, as the parsers do it, and `apt_header_section_field_set` is called. -/
def set (address id : Nat) : FieldSection × Bool :=
  match s.arr[id]? with
  | some none =>
    ({ s with ring := s.ring.map (identified address id false), arr := s.arr.set id (some address) }, true)
  | some (some _) => ({ s with ring := s.ring.map (identified address id true) }, false)
  | none => ({ s with ring := s.ring.map (identified address id false) }, false)

/-- `apt_header_section_field_remove` of a field of the ring -/
def remove (address : Nat) : FieldSection × Bool :=
  match s.ring.find? (·.address == address) with
  | none => (s, false)
  | some field => ({ s with ring := s.ring.filter (·.address != address), arr := s.arr.set field.id none }, true)

def call : SectionCall → FieldSection × Bool
  | .add id => s.add id
  | .insert id => s.insert id
  | .set address id => s.set address id
  | .remove address => s.remove address

/-- A field is inserted with an identifier of the array, and one that is identified is in the ring without such an
identifier. -/
def Expects : SectionCall → Prop
  | .insert id => id < s.arr.length
  | .set address _ => ∃ field ∈ s.ring, field.address = address ∧ s.arr.length ≤ field.id
  | _ => True

/-- No other field of the ring has the identifier of the field that is removed. -/
def Alone : SectionCall → Prop
  | .remove address => ∀ field ∈ s.ring, field.address = address → field.id < s.arr.length →
      ∀ other ∈ s.ring, other.id = field.id → other = field
  | _ => True

/-! ## What holds of both -/

/-- The array refers to fields of the ring, and each field with an identifier of the array is the one referred to or a
duplicate. -/
structure Consistent : Prop where
  fresh : ∀ field ∈ s.ring, field.address < s.next
  unique : ∀ field ∈ s.ring, ∀ other ∈ s.ring, field.address = other.address → field = other
  refers : ∀ id address, s.arr[id]? = some (some address) → ∃ field ∈ s.ring, field.address = address ∧ field.id = id
  found : ∀ field ∈ s.ring, field.id < s.arr.length →
    ∃ address, s.arr[field.id]? = some (some address) ∧ (address = field.address ∨ field.duplicate)

variable {s}

theorem mem_ringInsert {field other : RingField} {ring : List RingField} :
    other ∈ ringInsert field ring ↔ other = field ∨ other ∈ ring := by
  induction ring with
  | nil => simp [ringInsert]
  | cons it ring ih =>
    unfold ringInsert
    split
    · simp
    · rw [mem_cons, ih, mem_cons]
      tauto

theorem ringInsert_sorted {field : RingField} {ring : List RingField} (h : ring.Pairwise (·.id ≤ ·.id)) :
    (ringInsert field ring).Pairwise (·.id ≤ ·.id) := by
  induction ring with
  | nil => exact pairwise_singleton _ _
  | cons it ring ih =>
    obtain ⟨hi, hr⟩ := pairwise_cons.1 h
    unfold ringInsert
    split
    next hlt =>
      refine pairwise_cons.2 ⟨fun other hm => ?_, h⟩
      rcases mem_cons.1 hm with rfl | hm
      · exact Nat.le_of_lt hlt
      · exact Nat.le_trans (Nat.le_of_lt hlt) (hi other hm)
    next hle =>
      refine pairwise_cons.2 ⟨fun other hm => ?_, ih hr⟩
      rcases mem_ringInsert.1 hm with rfl | hm
      · exact Nat.le_of_not_lt hle
      · exact hi other hm

theorem Consistent.put {id : Nat} {ring : List RingField} (h : s.Consistent)
    (hfr : ∀ address, s.arr[id]? ≠ some (some address))
    (hr : ∀ field, field ∈ ring ↔ field = ⟨s.next, id, false⟩ ∨ field ∈ s.ring) :
    Consistent ⟨ring, s.arr.set id (some s.next), s.next + 1⟩ := by
  have ht : ∀ field ∈ s.ring, field.id < s.arr.length → field.id ≠ id := by
    rintro field hm hlt rfl
    obtain ⟨address, ha, -⟩ := h.found field hm hlt
    exact hfr address ha
  refine ⟨fun field hm => ?_, fun field hm other ho heq => ?_, fun id' address ha => ?_, fun field hm hlt => ?_⟩
  · rcases (hr field).1 hm with rfl | hm
    · exact Nat.lt_succ_self _
    · exact Nat.lt_succ_of_lt (h.fresh field hm)
  · rcases (hr field).1 hm with rfl | hm <;> rcases (hr other).1 ho with rfl | ho
    · rfl
    · exact absurd heq.symm (Nat.ne_of_lt (h.fresh other ho))
    · exact absurd heq (Nat.ne_of_lt (h.fresh field hm))
    · exact h.unique field hm other ho heq
  · rw [getElem?_set] at ha
    split_ifs at ha with heq
    · cases ha
      exact ⟨_, (hr _).2 (Or.inl rfl), rfl, heq⟩
    · obtain ⟨field, hm, hf⟩ := h.refers id' address ha
      exact ⟨field, (hr field).2 (Or.inr hm), hf⟩
  · dsimp only at hlt ⊢
    rw [length_set] at hlt
    rcases (hr field).1 hm with rfl | hm
    · exact ⟨s.next, getElem?_set_self hlt, Or.inl rfl⟩
    · rw [getElem?_set_ne (ht field hm hlt).symm]
      exact h.found field hm hlt

theorem Consistent.add (h : s.Consistent) (id : Nat) : (s.add id).1.Consistent := by
  unfold FieldSection.add
  split
  · exact h
  next hf => exact h.put hf fun field => by rw [mem_append, mem_singleton, or_comm]

theorem Consistent.insert (h : s.Consistent) {id : Nat} (hid : id < s.arr.length) :
    (s.insert id).1.Consistent := by
  unfold FieldSection.insert
  split
  · exact h
  next hf => exact h.put (fun address ha => by simp_all) fun field => mem_ringInsert
  next hn => exact absurd hid (Nat.not_lt.2 (getElem?_eq_none_iff.1 hn))

theorem insert_sorted {id : Nat} (hid : id < s.arr.length) (h : s.ring.Pairwise (·.id ≤ ·.id)) :
    (s.insert id).1.ring.Pairwise (·.id ≤ ·.id) := by
  unfold insert
  split
  · exact h
  · exact ringInsert_sorted h
  next hn => exact absurd hid (Nat.not_lt.2 (getElem?_eq_none_iff.1 hn))

theorem Consistent.remove (h : s.Consistent) {address : Nat} (ha : s.Alone (.remove address)) :
    (s.remove address).1.Consistent := by
  unfold FieldSection.remove
  cases hf : s.ring.find? (·.address == address) with
  | none => exact h
  | some field =>
    have hm : field ∈ s.ring := mem_of_find?_eq_some hf
    obtain rfl : field.address = address := by simpa using find?_some hf
    have hk : ∀ other ∈ s.ring, other ∈ s.ring.filter (·.address != field.address) ↔ other ≠ field := by
      intro other ho
      rw [mem_filter, and_iff_right ho, bne_iff_ne, Ne, not_iff_not]
      exact ⟨h.unique other ho field hm, congrArg _⟩
    refine ⟨fun other ho => h.fresh other (mem_of_mem_filter ho), fun other ho other' ho' =>
      h.unique other (mem_of_mem_filter ho) other' (mem_of_mem_filter ho'), fun id address hid => ?_,
      fun other ho hlt => ?_⟩
    · dsimp only at hid
      rw [getElem?_set] at hid
      split_ifs at hid with heq
      · cases hid
      · obtain ⟨other, ho, rfl, rfl⟩ := h.refers id address hid
        exact ⟨other, (hk other ho).2 fun heq' => heq (congrArg RingField.id heq'.symm), rfl, rfl⟩
    · have ho' := mem_of_mem_filter ho
      rw [length_set] at hlt
      have hne : field.id ≠ other.id := fun heq =>
        (hk other ho').1 ho (ha field hm rfl (heq ▸ hlt) other ho' heq.symm)
      rw [getElem?_set_ne hne]
      exact h.found other ho' hlt

theorem identified_address (address id : Nat) (duplicate : Bool) (field : RingField) :
    (identified address id duplicate field).address = field.address := by
  unfold identified
  split <;> rfl

theorem identified_of_ne {address id : Nat} {duplicate : Bool} {field : RingField} (h : field.address ≠ address) :
    identified address id duplicate field = field := if_neg h

theorem Consistent.identify {field : RingField} {id : Nat} {duplicate : Bool} {arr : List (Option Nat)}
    (h : s.Consistent) (hm : field ∈ s.ring) (hu : s.arr.length ≤ field.id) (hl : arr.length = s.arr.length)
    (hd : ∀ i address : Nat, s.arr[i]? = some (some address) → arr[i]? = some (some address))
    (hn : ∀ i address : Nat, arr[i]? = some (some address) →
      s.arr[i]? = some (some address) ∨ i = id ∧ address = field.address)
    (he : id < arr.length → ∃ address, arr[id]? = some (some address) ∧
      (address = field.address ∨ duplicate)) :
    Consistent ⟨s.ring.map (identified field.address id duplicate), arr, s.next⟩ := by
  have hs : identified field.address id duplicate field = { field with id, duplicate } := if_pos rfl
  have hk : ∀ other ∈ s.ring, other ≠ field → identified field.address id duplicate other = other :=
    fun other ho hne => identified_of_ne fun heq => hne (h.unique other ho field hm heq)
  refine ⟨fun other ho => ?_, fun other ho other' ho' heq => ?_, fun i address ha => ?_, fun other ho hlt => ?_⟩
  · obtain ⟨other, hi, rfl⟩ := mem_map.1 ho
    rw [identified_address]
    exact h.fresh other hi
  · obtain ⟨other, hi, rfl⟩ := mem_map.1 ho
    obtain ⟨other', hi', rfl⟩ := mem_map.1 ho'
    rw [identified_address, identified_address] at heq
    rw [h.unique other hi other' hi' heq]
  · rcases hn i address ha with ha | ⟨rfl, rfl⟩
    · obtain ⟨other, ho, rfl, rfl⟩ := h.refers i address ha
      have hlt : other.id < s.arr.length := (List.getElem?_eq_some_iff.1 ha).1
      have hne : other ≠ field := fun heq => absurd (heq ▸ hlt) (Nat.not_lt.2 hu)
      exact ⟨other, mem_map.2 ⟨other, ho, hk other ho hne⟩, rfl, rfl⟩
    · exact ⟨_, mem_map.2 ⟨field, hm, hs⟩, rfl, rfl⟩
  · obtain ⟨other, hi, rfl⟩ := mem_map.1 ho
    by_cases heq : other = field
    · subst heq
      rw [hs] at hlt ⊢
      exact he hlt
    · rw [hk other hi heq] at hlt ⊢
      obtain ⟨address, ha, hr⟩ := h.found other hi (hl ▸ hlt)
      exact ⟨address, hd _ _ ha, hr⟩

theorem Consistent.set (h : s.Consistent) {address id : Nat} (he : s.Expects (.set address id)) :
    (s.set address id).1.Consistent := by
  obtain ⟨field, hm, rfl, hu⟩ := he
  unfold FieldSection.set
  split
  next hf =>
    have hlt : id < s.arr.length := (List.getElem?_eq_some_iff.1 hf).1
    refine h.identify hm hu length_set (fun i address ha => ?_) (fun i address ha => ?_) fun _ =>
      ⟨_, getElem?_set_self hlt, Or.inl rfl⟩
    · rwa [getElem?_set_ne]
      rintro rfl
      exact absurd (hf.symm.trans ha) nofun
    · rw [getElem?_set] at ha
      split_ifs at ha with heq
      · cases ha
        exact Or.inr ⟨heq.symm, rfl⟩
      · exact Or.inl ha
  next address' hs =>
    exact h.identify hm hu rfl (fun _ _ ha => ha) (fun _ _ ha => Or.inl ha) fun _ => ⟨address', hs, Or.inr rfl⟩
  next hn =>
    exact h.identify hm hu rfl (fun _ _ ha => ha) (fun _ _ ha => Or.inl ha) fun hlt =>
      absurd hlt (Nat.not_lt.2 (getElem?_eq_none_iff.1 hn))

theorem Consistent.call (h : s.Consistent) {c : SectionCall} (he : s.Expects c) (ha : s.Alone c) :
    (s.call c).1.Consistent := by
  cases c with
  | add id => exact h.add id
  | insert id => exact h.insert he
  | set address id => exact h.set he
  | remove address => exact h.remove ha

/-! ## Sections of addresses and of fields -/

/-- A field with its name and value, which its address tells. -/
def shown (text : Nat → Bytes × Bytes) (field : RingField) : HeaderField :=
  ⟨(text field.address).1, (text field.address).2, if field.id = unknownHeaderFieldId then none else some field.id⟩

/-- The section with the names and values of its fields. -/
def header (s : FieldSection) (text : Nat → Bytes × Bytes) : HeaderSection where
  ring := s.ring.map (shown text)
  arr := s.arr.mapIdx fun id => Option.map fun address => shown text ⟨address, id, false⟩

variable (text : Nat → Bytes × Bytes) (id : Nat)

theorem entry_header (hl : s.arr.length ≤ unknownHeaderFieldId) (address : Nat) :
    (s.header text).entry (shown text ⟨address, id, false⟩) =
      s.arr[id]?.map (Option.map fun address => shown text ⟨address, id, false⟩) := by
  by_cases hid : id = unknownHeaderFieldId
  · simp [HeaderSection.entry, shown, hid, getElem?_eq_none hl]
  · simp [HeaderSection.entry, shown, header, hid, getElem?_mapIdx]

theorem setEntry_header (hl : s.arr.length ≤ unknownHeaderFieldId) (address : Nat) :
    (s.header text).setEntry (shown text ⟨address, id, false⟩) =
      (s.arr.set id (some address)).mapIdx fun id => Option.map fun address => shown text ⟨address, id, false⟩ := by
  by_cases hid : id = unknownHeaderFieldId
  · simp [HeaderSection.setEntry, shown, header, hid, set_eq_of_length_le hl]
  · simp [HeaderSection.setEntry, shown, header, hid, mapIdx_set]

theorem header_add (hl : s.arr.length ≤ unknownHeaderFieldId) :
    headerSectionFieldAdd (s.header text) (shown text ⟨s.next, id, false⟩) =
      ((s.add id).1.header text, (s.add id).2) := by
  have hs := setEntry_header text id hl s.next
  unfold headerSectionFieldAdd add
  rw [entry_header text id hl, hs]
  rcases s.arr[id]? with _ | _ | address <;> simp [header]

theorem fieldRingInsert_shown (field : RingField) (hid : field.id < unknownHeaderFieldId) (ring : List RingField) :
    fieldRingInsert (shown text field) (ring.map (shown text)) = (ringInsert field ring).map (shown text) := by
  induction ring with
  | nil => rfl
  | cons it ring ih =>
    have hc : ((shown text field).id.any fun id => (shown text it).id.all (id < ·)) = true ↔ field.id < it.id := by
      simp only [shown, Nat.ne_of_lt hid, if_false, Option.any_some]
      split_ifs with hu <;> simp [*]
    rw [ringInsert, map_cons, fieldRingInsert, ih]
    split_ifs <;> simp_all

theorem header_insert (hl : s.arr.length ≤ unknownHeaderFieldId) :
    headerSectionFieldInsert (s.header text) (shown text ⟨s.next, id, false⟩) =
      ((s.insert id).1.header text, (s.insert id).2) := by
  have hs := setEntry_header text id hl s.next
  unfold headerSectionFieldInsert insert
  rw [entry_header text id hl, hs]
  cases he : s.arr[id]? with
  | none => simp [header]
  | some entry =>
    have hid := Nat.lt_of_lt_of_le (List.getElem?_eq_some_iff.1 he).1 hl
    cases entry with
    | none => simp [header, fieldRingInsert_shown text ⟨s.next, id, false⟩ hid]
    | some address => simp

theorem header_set (hl : s.arr.length ≤ unknownHeaderFieldId) (address : Nat) :
    headerSectionFieldSet ⟨((s.set address id).1.header text).ring, (s.header text).arr⟩
      (shown text ⟨address, id, false⟩) = ((s.set address id).1.header text, (s.set address id).2) := by
  have hs := setEntry_header text id hl address
  have he := entry_header text id hl address
  unfold HeaderSection.setEntry at hs
  unfold HeaderSection.entry at he
  unfold headerSectionFieldSet set HeaderSection.setEntry HeaderSection.entry
  dsimp only
  rw [he, hs]
  rcases s.arr[id]? with _ | _ | address <;> simp [header]

theorem header_get (h : s.Consistent) {field : HeaderField}
    (hf : headerSectionFieldGet (s.header text) id = some field) : field ∈ (s.header text).ring := by
  rw [headerSectionFieldGet, getD_eq_getElem?_getD, header, getElem?_mapIdx] at hf
  cases ha : s.arr[id]? with
  | none => simp [ha] at hf
  | some entry =>
    obtain ⟨address, rfl, rfl⟩ : ∃ address, entry = some address ∧ shown text ⟨address, id, false⟩ = field := by
      simpa [ha] using hf
    obtain ⟨field, hm, rfl, rfl⟩ := h.refers id address ha
    exact mem_map.2 ⟨field, hm, rfl⟩

end FieldSection

/-- A section with an array of `n` entries. -/
def fieldSectionInit (n : Nat) : FieldSection := { arr := replicate n none }

/-- **The ring and the array agree**, if no field is removed while another one has its identifier: the array refers to
fields of the ring, one of two fields with the same identifier is a duplicate, none is hidden, and a field is inserted
in its place. -/
theorem section_consistent (n : Nat) (calls : List SectionCall)
    (h : EachStep FieldSection.call (fun s c => s.Expects c ∧ s.Alone c) (fieldSectionInit n) calls) :
    let s := (run FieldSection.call (fieldSectionInit n) calls).1
    (∀ id address, s.arr[id]? = some (some address) → ∃ field ∈ s.ring, field.address = address ∧ field.id = id) ∧
      (∀ field ∈ s.ring, ∀ other ∈ s.ring, field.id < s.arr.length → field.id = other.id →
        field = other ∨ field.duplicate ∨ other.duplicate) ∧
      (∀ field ∈ s.ring, field.id < s.arr.length → ∃ address, s.arr[field.id]? = some (some address)) ∧
      ∀ id < s.arr.length, s.ring.Pairwise (·.id ≤ ·.id) → (s.insert id).1.ring.Pairwise (·.id ≤ ·.id) := by
  intro s
  have hi : (fieldSectionInit n).Consistent :=
    ⟨nofun, nofun, fun _ _ ha => absurd (eq_of_mem_replicate (mem_of_getElem? ha)) nofun, nofun⟩
  have hs : s.Consistent :=
    run_invariant FieldSection.Consistent _ (fun _ _ hs hc => hs.call hc.1 hc.2) _ _ hi h
  refine ⟨hs.refers, fun field hm other ho hlt heq => ?_, fun field hm hlt => ?_, fun id hid hsr =>
    FieldSection.insert_sorted hid hsr⟩
  · obtain ⟨address, ha, hr⟩ := hs.found field hm hlt
    obtain ⟨address', ha', hr'⟩ := hs.found other ho (heq ▸ hlt)
    obtain rfl : address = address' := by simpa [heq ▸ ha] using ha'
    rcases hr with rfl | hd
    · exact hr'.imp (hs.unique field hm other ho) Or.inr
    · exact Or.inr (Or.inl hd)
  · obtain ⟨address, ha, -⟩ := hs.found field hm hlt
    exact ⟨address, ha⟩

theorem section_consistent_two :
    ((run FieldSection.call (fieldSectionInit 3) [.add 1, .insert 0]).1.insert 2).1.ring.Pairwise (·.id ≤ ·.id) :=
  (section_consistent 3 [.add 1, .insert 0]
    ⟨⟨trivial, trivial⟩, ⟨(by decide : 0 < 3), trivial⟩, trivial⟩).2.2.2 2 (by decide) (by decide)

/-- A field that is removed hides its duplicate. -/
theorem section_hides : ¬ ∀ calls, EachStep FieldSection.call FieldSection.Expects (fieldSectionInit 3) calls →
    let s := (run FieldSection.call (fieldSectionInit 3) calls).1
    ∀ field ∈ s.ring, field.id < s.arr.length → ∃ address, s.arr[field.id]? = some (some address) := by
  intro h
  obtain ⟨address, ha⟩ := h [.add 9, .add 9, .set 0 1, .set 1 1, .remove 0]
    ⟨trivial, trivial, ⟨⟨0, 9, false⟩, by decide, rfl, by decide⟩, ⟨⟨1, 9, false⟩, by decide, rfl, by decide⟩, trivial,
      trivial⟩ ⟨1, 1, true⟩ (by decide) (by decide)
  cases ha

end UniMrcp.Apt
