import UniMrcp.Mpf.RtpStream

/-!
# The codecs that an intersection chooses
-/

namespace UniMrcp.Mpf.Path

open Apt Lib List Path.CodecDescriptor CodecList

def CodecDescriptor.eligible (list2 : CodecList) (named : Bool) (descriptor : CodecDescriptor) : Bool :=
  descriptor.enabled && eventDescriptorCheck descriptor == named && (list2.find descriptor).isSome

/-- The first enabled codec of a kind that has an enabled first match. -/
def CodecList.choice (list1 list2 : CodecList) (named : Bool) : Option Nat :=
  list1.descriptors.findIdx? (CodecDescriptor.eligible list2 named)

def CodecList.counterpart (list1 list2 : CodecList) (named : Bool) : Option Nat :=
  (list1.choice list2 named).bind fun i => (list1.descriptors[i]?).bind list2.find

def CodecList.settled (list : CodecList) (primary event : Option Nat) : CodecList :=
  CodecList.keepPreferred { list with primaryDescriptor := primary, eventDescriptor := event }

variable {list1 list2 : CodecList}

/-! ## The loop -/

/-- The lists after the loop has been through `k` descriptors of the first one. -/
structure Sifted (list1 list2 : CodecList) (k : Nat) (lists : CodecList × CodecList) : Prop where
  arr1 : lists.1.arr = list1.arr
  arr2 : lists.2.arr = list2.arr
  descriptors2 : lists.2.descriptors = list2.descriptors
  chosen : ∀ named, lists.1.preferred named =
    (list1.descriptors.take k).findIdx? (CodecDescriptor.eligible list2 named)
  counterpart : ∀ named, lists.2.preferred named =
    (lists.1.preferred named).bind fun i => (list1.descriptors[i]?).bind list2.find
  descriptors1 : ∀ i, lists.1.descriptors[i]? = (list1.descriptors[i]?).map fun d =>
    if i < k then { d with enabled := lists.1.preferred (eventDescriptorCheck d) == some i } else d

theorem find_congr {list : CodecList} (h : list.descriptors = list2.descriptors) : list.find = list2.find := by
  funext d
  unfold find
  rw [h]

section Next

variable {lists : CodecList × CodecList} {k : Nat} {d : CodecDescriptor}

theorem intersectNext_hit {j : Nat} (hd : lists.1.descriptors[k]? = some d) (he : d.enabled)
    (hn : lists.1.preferred (eventDescriptorCheck d) = none) (hf : lists.2.find d = some j) :
    intersectNext lists k =
      (lists.1.prefer (eventDescriptorCheck d) k, lists.2.prefer (eventDescriptorCheck d) j) := by
  simp [intersectNext, hd, he, hn, hf]

variable (list : CodecList)

theorem descriptors_disable (k i : Nat) : (list.disable k).descriptors[i]? =
    (list.descriptors[i]?).map fun d => if k = i then { d with enabled := false } else d :=
  List.getElem?_modify _ k list.descriptors i

theorem disable_disabled (hd : lists.1.descriptors[k]? = some d) (he : d.enabled = false) :
    lists.1.disable k = lists.1 := by
  have hs : (lists.1.disable k).descriptors = lists.1.descriptors := by
    refine ext_getElem? fun i => ?_
    rw [descriptors_disable]
    split
    · rename_i hi
      rw [← hi, hd, Option.map_some, ← he]
    · exact congrFun Option.map_id_fun' _
  exact congrArg (fun descriptors => { lists.1 with descriptors }) hs

theorem intersectNext_miss (hd : lists.1.descriptors[k]? = some d)
    (h : d.enabled → lists.1.preferred (eventDescriptorCheck d) = none → lists.2.find d = none) :
    intersectNext lists k = (lists.1.disable k, lists.2) := by
  unfold intersectNext
  rw [hd]
  dsimp only
  split
  · rename_i he
    rw [disable_disabled hd he]
  · rename_i he
    split
    · rfl
    · rename_i hn
      rw [h (by simpa using he) (by simpa using hn)]

theorem preferred_prefer (named named' : Bool) (i : Nat) :
    (list.prefer named i).preferred named' = if named' = named then some i else list.preferred named' := by
  cases named <;> cases named' <;> rfl

theorem arr_prefer (named : Bool) (i : Nat) : (list.prefer named i).arr = list.arr := by
  cases named <;> rfl

theorem descriptors_prefer (named : Bool) (i : Nat) : (list.prefer named i).descriptors = list.descriptors := by
  cases named <;> rfl

theorem preferred_disable (named : Bool) (i : Nat) : (list.disable i).preferred named = list.preferred named := rfl

theorem sifted_next (h : Sifted list1 list2 k lists) (hk : k < list1.descriptors.length) :
    Sifted list1 list2 (k + 1) (intersectNext lists k) := by
  obtain ⟨d, hd1⟩ : ∃ d, list1.descriptors[k]? = some d := ⟨_, List.getElem?_eq_getElem hk⟩
  have hd : lists.1.descriptors[k]? = some d := by
    rw [h.descriptors1, hd1, Option.map_some, if_neg (Nat.lt_irrefl k)]
  have ht : list1.descriptors.take (k + 1) = list1.descriptors.take k ++ [d] := by
    rw [take_add_one, hd1, Option.toList_some]
  have hc : ∀ named, (list1.descriptors.take (k + 1)).findIdx? (eligible list2 named) =
      (lists.1.preferred named).or (if d.eligible list2 named then some k else none) := by
    intro named
    rw [h.chosen, ht, List.findIdx?_append, List.findIdx?_singleton, length_take_of_le (Nat.le_of_lt hk)]
    split <;> simp
  have hb : ∀ {named i}, lists.1.preferred named = some i → i < k := by
    intro named i hi
    rw [h.chosen] at hi
    obtain ⟨hlt, -⟩ := List.findIdx?_eq_some_iff_getElem.1 hi
    exact Nat.lt_of_lt_of_le hlt (length_take_le _ _)
  have hf : lists.2.find = list2.find := find_congr h.descriptors2
  have hl : ∀ named, d.eligible list2 named ↔
      d.enabled ∧ eventDescriptorCheck d = named ∧ (list2.find d).isSome := by
    intro named
    simp [eligible, and_assoc]
  by_cases hh : d.enabled ∧ lists.1.preferred (eventDescriptorCheck d) = none ∧ (list2.find d).isSome
  · obtain ⟨he, hnn, hs⟩ := hh
    obtain ⟨j, hj⟩ := Option.isSome_iff_exists.1 hs
    rw [intersectNext_hit hd he hnn (by rw [hf, hj])]
    refine ⟨?_, ?_, ?_, fun named => ?_, fun named => ?_, fun i => ?_⟩
    · rw [arr_prefer, h.arr1]
    · rw [arr_prefer, h.arr2]
    · rw [descriptors_prefer, h.descriptors2]
    · rw [hc, preferred_prefer]
      by_cases hn : named = eventDescriptorCheck d
      · rw [if_pos hn, if_pos ((hl named).2 ⟨he, hn.symm, hs⟩), hn, hnn, Option.none_or]
      · rw [if_neg hn, if_neg fun h => hn ((hl named).1 h).2.1.symm, Option.or_none]
    · rw [preferred_prefer, preferred_prefer]
      by_cases hn : named = eventDescriptorCheck d
      · rw [if_pos hn, if_pos hn, Option.bind_some, hd1, Option.bind_some, hj]
      · rw [if_neg hn, if_neg hn]
        exact h.counterpart named
    · rw [descriptors_prefer, h.descriptors1]
      refine Option.map_congr fun d' hd' => ?_
      rw [preferred_prefer]
      rcases Nat.lt_trichotomy i k with hi | rfl | hi
      · rw [if_pos hi, if_pos (Nat.lt_succ_of_lt hi)]
        by_cases hkn : eventDescriptorCheck d' = eventDescriptorCheck d
        · have hne : k ≠ i := Nat.ne_of_gt hi
          simp [hkn, hnn, hne]
        · rw [if_neg hkn]
      · obtain rfl : d = d' := Option.some.inj (hd1.symm.trans hd')
        rw [if_neg (Nat.lt_irrefl i), if_pos (Nat.lt_succ_self i), if_pos rfl, beq_self_eq_true, ← he]
      · rw [if_neg (by omega), if_neg (by omega)]
  · have hm : d.enabled → lists.1.preferred (eventDescriptorCheck d) = none → list2.find d = none := by
      intro he hnn
      exact Option.not_isSome_iff_eq_none.1 fun hs => hh ⟨he, hnn, hs⟩
    rw [intersectNext_miss hd (by rwa [hf])]
    refine { h with chosen := fun named => ?_, descriptors1 := fun i => ?_ }
    · rw [hc, preferred_disable]
      split
      · rename_i hn
        obtain ⟨he, rfl, hs⟩ := (hl named).1 hn
        obtain ⟨i, hi⟩ := Option.ne_none_iff_exists'.1 fun hnn => hh ⟨he, hnn, hs⟩
        rw [hi, Option.some_or]
      · rw [Option.or_none]
    · rw [descriptors_disable, h.descriptors1, Option.map_map]
      refine Option.map_congr fun d' hd' => ?_
      simp only [Function.comp_apply, preferred_disable]
      rcases Nat.lt_trichotomy i k with hi | rfl | hi
      · rw [if_neg (Nat.ne_of_gt hi), if_pos hi, if_pos (Nat.lt_succ_of_lt hi)]
      · have hla : lists.1.preferred (eventDescriptorCheck d') ≠ some i := fun hk => Nat.lt_irrefl i (hb hk)
        rw [if_pos rfl, if_neg (Nat.lt_irrefl i), if_pos (Nat.lt_succ_self i), beq_eq_false_iff_ne.2 hla]
      · rw [if_neg (Nat.ne_of_lt hi), if_neg (by omega), if_neg (by omega)]

end Next

theorem sifted_foldl (list1 list2 : CodecList) : Sifted list1 list2 list1.descriptors.length
    ((List.range list1.descriptors.length).foldl intersectNext (list1.unpreferred, list2.unpreferred)) := by
  refine foldl_range_invariant (Sifted list1 list2) intersectNext ?_ fun i lists hi h => sifted_next h hi
  refine ⟨rfl, rfl, rfl, ?_, ?_, fun i => (congrFun Option.map_id_fun' _).symm⟩
  · intro named
    cases named <;> rfl
  · intro named
    cases named <;> rfl

/-! ## The closed form -/

theorem settled_choice (list1 list2 : CodecList) (named : Bool) :
    (list1.settled (list1.choice list2 false) (list1.choice list2 true)).preferred named =
      list1.choice list2 named := by
  cases named <;> rfl

theorem settled_counterpart (list1 list2 : CodecList) (named : Bool) :
    (list2.settled (list1.counterpart list2 false) (list1.counterpart list2 true)).preferred named =
      list1.counterpart list2 named := by
  cases named <;> rfl

variable (list : CodecList)

theorem settled_descriptors (primary event : Option Nat) (i : Nat) :
    (list.settled primary event).descriptors[i]? =
      (list.descriptors[i]?).map fun d => { d with enabled := primary == some i || event == some i } :=
  List.getElem?_mapIdx

theorem CodecList.eq_of {list list' : CodecList} (ha : list.arr = list'.arr)
    (hp : ∀ named, list.preferred named = list'.preferred named)
    (hd : ∀ i : Nat, list.descriptors[i]? = list'.descriptors[i]?) : list = list' := by
  obtain ⟨arr, descriptors, primary, event⟩ := list
  obtain rfl : arr = list'.arr := ha
  obtain rfl : descriptors = list'.descriptors := ext_getElem? hd
  obtain rfl : primary = list'.primaryDescriptor := hp false
  obtain rfl : event = list'.eventDescriptor := hp true
  rfl

variable {named : Bool}

theorem choice_spec {i : Nat} (h : list1.choice list2 named = some i) :
    ∃ d j, list1.descriptors[i]? = some d ∧ d.enabled ∧ eventDescriptorCheck d = named ∧
      list2.find d = some j ∧ list1.counterpart list2 named = some j := by
  obtain ⟨hlt, he, -⟩ := List.findIdx?_eq_some_iff_getElem.1 h
  have hd : list1.descriptors[i]? = some list1.descriptors[i] := List.getElem?_eq_getElem hlt
  simp only [eligible, Bool.and_eq_true, beq_iff_eq] at he
  obtain ⟨⟨hn, hm⟩, hs⟩ := he
  obtain ⟨j, hj⟩ := Option.isSome_iff_exists.1 hs
  exact ⟨_, j, hd, hn, hm, hj, by rw [CodecList.counterpart, h, Option.bind_some, hd, Option.bind_some, hj]⟩

/-- **The lists of an intersection.** -/
theorem codecListsIntersect_eq (list1 list2 : CodecList) :
    codecListsIntersect list1 list2 =
      (list1.settled (list1.choice list2 false) (list1.choice list2 true),
        list2.settled (list1.counterpart list2 false) (list1.counterpart list2 true),
          (list1.choice list2 false).isSome) := by
  have h := sifted_foldl list1 list2
  unfold codecListsIntersect
  dsimp only
  revert h
  generalize (List.range list1.descriptors.length).foldl intersectNext (list1.unpreferred, list2.unpreferred) = lists
  intro h
  have hc : ∀ named, lists.1.preferred named = list1.choice list2 named := by
    intro named
    rw [h.chosen, take_length]
    rfl
  have hn : ∀ named, lists.2.preferred named = list1.counterpart list2 named := by
    intro named
    rw [h.counterpart, hc]
    rfl
  have hl1 : lists.1 = list1.settled (list1.choice list2 false) (list1.choice list2 true) := by
    refine eq_of h.arr1 (fun named => ?_) fun i => ?_
    · rw [settled_choice, hc]
    · rw [settled_descriptors, h.descriptors1]
      refine Option.map_congr fun d hd => ?_
      -- the choice of the other kind is another descriptor
      have ho : (list1.choice list2 (!eventDescriptorCheck d) == some i) = false := by
        refine beq_eq_false_iff_ne.2 fun hi => ?_
        obtain ⟨d', -, hd', -, hm, -⟩ := choice_spec hi
        obtain rfl : d = d' := Option.some.inj (hd.symm.trans hd')
        exact absurd hm (by simp)
      rw [if_pos (List.getElem?_eq_some_iff.1 hd).1, hc]
      cases hk : eventDescriptorCheck d with
      | true =>
        rw [hk] at ho
        rw [show (list1.choice list2 false == some i) = false from ho, Bool.false_or]
      | false =>
        rw [hk] at ho
        rw [show (list1.choice list2 true == some i) = false from ho, Bool.or_false]
  have hl2 : lists.2 =
      { list2 with
        primaryDescriptor := list1.counterpart list2 false
        eventDescriptor := list1.counterpart list2 true } := by
    refine eq_of h.arr2 (fun named => ?_) fun i => by rw [h.descriptors2]
    cases named with
    | true => exact hn true
    | false => exact hn false
  rw [hl1, hl2]
  refine Prod.ext rfl (Prod.ext rfl ?_)
  show Option.any _ ((list1.choice list2 false).bind fun i => _) = _
  cases hh : list1.choice list2 false with
  | none => rfl
  | some i =>
    obtain ⟨d, -, hd, -⟩ := choice_spec hh
    rw [Option.bind_some, settled_descriptors, hd]
    simp

/-! ## What holds of the lists -/

/-- A primary codec is enabled, and so is a codec of the other list that it matches. -/
def CodecDescriptor.matched (list2 : CodecList) (d : CodecDescriptor) : Bool :=
  d.enabled && !eventDescriptorCheck d && list2.descriptors.any fun e => e.enabled && codecDescriptorsMatch d e

structure Intersection (list1 list2 : CodecList) (r : CodecList × CodecList × Bool) : Prop where
  only : ∀ list ∈ [r.1, r.2.1], ∀ i d, list.descriptors[i]? = some d → d.enabled →
    list.primaryDescriptor = some i ∨ list.eventDescriptor = some i
  together : ∀ named, r.1.preferred named = none ∧ r.2.1.preferred named = none ∨
    ∃ i j d e, r.1.preferred named = some i ∧ r.2.1.preferred named = some j ∧ r.1.descriptors[i]? = some d ∧
      r.2.1.descriptors[j]? = some e ∧ eventDescriptorCheck d = named ∧ codecDescriptorsMatch d e
  first : r.1.primaryDescriptor = list1.descriptors.findIdx? (CodecDescriptor.matched list2)
  disabled : ∀ named i d, d.enabled = false → (list1.descriptors[i]? = some d → r.1.preferred named ≠ some i) ∧
    (list2.descriptors[i]? = some d → r.2.1.preferred named ≠ some i)
  again : codecListsIntersect r.1 r.2.1 = r

theorem settled_only (primary event : Option Nat) (i : Nat) (d : CodecDescriptor)
    (hd : (list.settled primary event).descriptors[i]? = some d) (he : d.enabled) :
    (list.settled primary event).primaryDescriptor = some i ∨ (list.settled primary event).eventDescriptor = some i := by
  rw [settled_descriptors, Option.map_eq_some_iff] at hd
  obtain ⟨d', -, rfl⟩ := hd
  show primary = some i ∨ event = some i
  simpa using he

theorem counterpart_spec {i : Nat} (h : list1.choice list2 named = some i) :
    ∃ d j e, list1.descriptors[i]? = some d ∧ eventDescriptorCheck d = named ∧ d.enabled ∧
      list1.counterpart list2 named = some j ∧ list2.descriptors[j]? = some e ∧ e.enabled ∧
        list2.descriptors.findIdx? (codecDescriptorsMatch d) = some j ∧ codecDescriptorsMatch d e := by
  obtain ⟨d, j, hd, hn, hm, hfi, hc⟩ := choice_spec h
  obtain ⟨hf, ha⟩ := Option.filter_eq_some_iff.1 hfi
  obtain ⟨hlt, ht, -⟩ := List.findIdx?_eq_some_iff_getElem.1 hf
  have he := List.getElem?_eq_getElem hlt
  rw [he] at ha
  exact ⟨d, j, _, hd, hm, hn, hc, he, ha, hf, ht⟩

theorem settled_chosen {i : Nat} (h : list1.choice list2 named = some i) : ∃ j d e,
    list1.counterpart list2 named = some j ∧
      (list1.settled (list1.choice list2 false) (list1.choice list2 true)).descriptors[i]? = some d ∧
      (list2.settled (list1.counterpart list2 false) (list1.counterpart list2 true)).descriptors[j]? = some e ∧
      eventDescriptorCheck d = named ∧ d.enabled ∧ e.enabled ∧ codecDescriptorsMatch d e := by
  obtain ⟨d, j, e, hd, hn, -, hj, he, -, -, hm⟩ := counterpart_spec h
  have hd' := settled_descriptors list1 (list1.choice list2 false) (list1.choice list2 true) i
  have he' := settled_descriptors list2 (list1.counterpart list2 false) (list1.counterpart list2 true) j
  rw [hd] at hd'
  rw [he] at he'
  refine ⟨j, _, _, hj, hd', he', hn, ?_, ?_, hm⟩
  · cases named <;> simp [h]
  · cases named <;> simp [hj]

theorem findIdx?_settled (primary event : Option Nat) (d : CodecDescriptor) :
    (list.settled primary event).descriptors.findIdx? (codecDescriptorsMatch d) =
      list.descriptors.findIdx? (codecDescriptorsMatch d) := by
  have hm : (list.settled primary event).descriptors.map (codecDescriptorsMatch d) =
      list.descriptors.map (codecDescriptorsMatch d) := by
    refine ext_getElem? fun i => ?_
    rw [List.getElem?_map, List.getElem?_map, settled_descriptors, Option.map_map]
    rfl
  have hid : ∀ descriptors : List CodecDescriptor, descriptors.findIdx? (codecDescriptorsMatch d) =
      (descriptors.map (codecDescriptorsMatch d)).findIdx? id := fun descriptors => by
    rw [List.findIdx?_map, Function.id_comp]
  rw [hid, hm, ← hid]

theorem settled_settled (primary event : Option Nat) :
    (list.settled primary event).settled primary event = list.settled primary event := by
  refine eq_of rfl (fun named => rfl) fun i => ?_
  rw [settled_descriptors, settled_descriptors, Option.map_map]
  rfl

theorem findIdx?_eq_of_iff {α : Type*} {p : α → Bool} {l : List α} {c : Option Nat}
    (h : ∀ i a, l[i]? = some a → (p a ↔ c = some i)) (hlt : ∀ i, c = some i → i < l.length) :
    l.findIdx? p = c := by
  cases c with
  | none =>
    refine List.findIdx?_eq_none_iff.2 fun a ha => ?_
    obtain ⟨i, hi⟩ := List.getElem?_of_mem ha
    exact Bool.eq_false_iff.2 fun hp => nomatch (h i a hi).1 hp
  | some i =>
    refine List.findIdx?_eq_some_iff_getElem.2 ⟨hlt i rfl, ?_, fun j hj hp => ?_⟩
    · exact (h i _ (List.getElem?_eq_getElem (hlt i rfl))).2 rfl
    · have hij := (h j _ (List.getElem?_eq_getElem (Nat.lt_trans hj (hlt i rfl)))).1 hp
      exact absurd (Option.some.inj hij) (Nat.ne_of_gt hj)

/-- **The chosen codecs are chosen again.** -/
theorem intersect_again (list1 list2 : CodecList) :
    codecListsIntersect (list1.settled (list1.choice list2 false) (list1.choice list2 true))
        (list2.settled (list1.counterpart list2 false) (list1.counterpart list2 true)) =
      (list1.settled (list1.choice list2 false) (list1.choice list2 true),
        list2.settled (list1.counterpart list2 false) (list1.counterpart list2 true),
          (list1.choice list2 false).isSome) := by
  generalize hL1 : list1.settled (list1.choice list2 false) (list1.choice list2 true) = L1
  generalize hL2 : list2.settled (list1.counterpart list2 false) (list1.counterpart list2 true) = L2
  have hs : ∀ i : Nat, L1.descriptors[i]? = (list1.descriptors[i]?).map fun d =>
      { d with enabled := list1.choice list2 false == some i || list1.choice list2 true == some i } := by
    intro i
    rw [← hL1, settled_descriptors]
  have hf : ∀ {named i d}, list1.choice list2 named = some i → list1.descriptors[i]? = some d → ∀ b,
      L2.find { d with enabled := b } = list1.counterpart list2 named := by
    intro named i d hi hd b
    obtain ⟨d', j, e, hd', -, -, hj, he, -, hr, -⟩ := counterpart_spec hi
    obtain rfl : d = d' := Option.some.inj (hd.symm.trans hd')
    rw [hj, find, Option.filter_eq_some_iff, ← hL2]
    refine ⟨(findIdx?_settled _ _ _ _).trans hr, ?_⟩
    rw [settled_descriptors, he]
    cases named <;> simp [hj]
  have hc : ∀ named, L1.choice L2 named = list1.choice list2 named := by
    intro named
    refine findIdx?_eq_of_iff (fun i d hd => ?_) fun i hi => ?_
    · rw [hs, Option.map_eq_some_iff] at hd
      obtain ⟨d', hd', rfl⟩ := hd
      constructor
      · intro hl
        simp only [eligible, Bool.and_eq_true, Bool.or_eq_true, beq_iff_eq] at hl
        obtain ⟨⟨hh, hn⟩, -⟩ := hl
        obtain ⟨named', hi⟩ : ∃ named', list1.choice list2 named' = some i :=
          hh.elim (fun h => ⟨false, h⟩) fun h => ⟨true, h⟩
        obtain ⟨d, -, hd, -, rfl, -⟩ := choice_spec hi
        obtain rfl : d' = d := Option.some.inj (hd'.symm.trans hd)
        exact hn ▸ hi
      · intro hi
        obtain ⟨d, j, hd, -, hn, -, hj⟩ := choice_spec hi
        obtain rfl : d' = d := Option.some.inj (hd'.symm.trans hd)
        have hm : (list1.choice list2 false == some i || list1.choice list2 true == some i) := by
          cases named <;> simp [hi]
        have hk : eventDescriptorCheck { d' with enabled := true } = named := hn
        simp [eligible, hf hi hd', hj, hm, hk]
    · obtain ⟨d, -, hd, -⟩ := choice_spec hi
      have hd' := hs i
      rw [hd, Option.map_some] at hd'
      exact (List.getElem?_eq_some_iff.1 hd').1
  have hcn : ∀ named, L1.counterpart L2 named = list1.counterpart list2 named := by
    intro named
    unfold CodecList.counterpart
    rw [hc]
    cases hi : list1.choice list2 named with
    | none => rfl
    | some i =>
      obtain ⟨d, -, hd, -⟩ := choice_spec hi
      rw [Option.bind_some, hs, hd, Option.map_some, Option.bind_some, hf hi hd, CodecList.counterpart, hi]
  rw [codecListsIntersect_eq, hc, hc, hcn, hcn, ← hL1, ← hL2, settled_settled,
    settled_settled]

/-! ## The first match -/

theorem findIdx?_eq_findIdx?_iff {α : Type*} {p q : α → Bool} {l : List α} (h : ∀ a, p a → q a) :
    l.findIdx? p = l.findIdx? q ↔ ∀ a, l.find? q = some a → p a := by
  induction l with
  | nil => simp
  | cons a l ih =>
    rw [List.findIdx?_cons, List.findIdx?_cons, List.find?_cons]
    cases hq : q a with
    | true =>
      cases hp : p a with
      | true => simp [hp]
      | false => simp [hp]
    | false =>
      have hp : p a = false := Bool.eq_false_iff.2 fun hp => Bool.eq_false_iff.1 hq (h a hp)
      rw [hp, ← ih]
      exact (Option.map_injective Nat.succ_injective).eq_iff

theorem find_isSome (d : CodecDescriptor) : (list.find d).isSome ↔
    ∃ e, list.descriptors.find? (codecDescriptorsMatch d) = some e ∧ e.enabled := by
  rw [List.find?_eq_bind_findIdx?_getElem?, find]
  cases list.descriptors.findIdx? (codecDescriptorsMatch d) with
  | none => simp
  | some j => simp [Option.isSome_filter, Option.any_eq_true]

theorem matched_of_eligible (d : CodecDescriptor) (h : eligible list2 false d) :
    matched list2 d := by
  simp only [eligible, Bool.and_eq_true, beq_iff_eq] at h
  obtain ⟨⟨hn, hk⟩, hs⟩ := h
  obtain ⟨e, he, hn'⟩ := (find_isSome list2 d).1 hs
  have ha : list2.descriptors.any (fun e => e.enabled && codecDescriptorsMatch d e) :=
    any_eq_true.2 ⟨e, mem_of_find?_eq_some he, by rw [hn', List.find?_some he, Bool.and_self]⟩
  simp [matched, hn, hk, ha]

theorem eligible_iff_of_matched {d : CodecDescriptor} (h : matched list2 d) :
    eligible list2 false d ↔
      ∀ e, list2.descriptors.find? (codecDescriptorsMatch d) = some e → e.enabled := by
  simp only [matched, Bool.and_eq_true, Bool.not_eq_true', any_eq_true] at h
  obtain ⟨⟨hn, hk⟩, e, he, -, hm⟩ := h
  obtain ⟨e', he'⟩ := Option.isSome_iff_exists.1 (List.find?_isSome.2 ⟨e, he, hm⟩)
  have hl : eligible list2 false d = (list2.find d).isSome := by
    simp [eligible, hn, hk]
  rw [hl, find_isSome, he']
  simp

def pcmu : CodecDescriptor where
  payloadType := 0
  name := some (ascii "PCMU")
  samplingRate := 8000
  channelCount := 1

end UniMrcp.Mpf.Path
