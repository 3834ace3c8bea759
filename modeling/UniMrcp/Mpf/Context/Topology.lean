import Mathlib.Algebra.Order.Group.Nat
import Mathlib.Algebra.Order.BigOperators.Group.List
import UniMrcp.Mpf.Context.Counters

/-!
# What a topology delivers
-/

namespace UniMrcp.Mpf

open Lib List StreamEvent MpfObject
open Option (some.inj mem_toList)

variable {τ : Type} [DecidableEq τ]

/-- For every association that is on, a bridge can be created, both ends are valid, and have linear frames of one size.
-/
def ConvertersFound (found : Converters τ) (s : MpfMedia τ) : Prop :=
  ∀ i j, s.context.matrix i j → ∃ source sink, s.streamOf i = some source ∧ s.streamOf j = some sink ∧
    found.bridge source sink ∧ found.rxValid source ∧ found.txValid sink ∧
      found.rxSize source = found.txSize sink

/-! ## Objects -/

def StreamEvent.writesTo (u : τ) : StreamEvent τ → Bool
  | .read _ => false
  | .write sink _ => sink = u

@[simp] theorem writesTo_read (u t : τ) : (read t).writesTo u = false := rfl

@[simp] theorem writesTo_write (u sink : τ) (sources : List τ) :
    (write sink sources).writesTo u = decide (sink = u) := rfl

def MpfObject.frames : MpfObject τ → List (StreamEvent τ)
  | .bridge source sink => [.read source, .write sink [source]]
  | .multiplier source sinks => .read source :: sinks.map fun sink => .write sink [source]
  | .mixer sources sink _ _ => (sources.map fun source => .read source.1) ++ [.write sink (sources.map Prod.fst)]

def MpfObject.Fits : MpfObject τ → Prop
  | .mixer sources _ frameSize mixSize => frameSize = mixSize ∧ ∀ source ∈ sources, source.2 = mixSize
  | _ => True

section Objects

variable {decodes : τ → Bool}

omit [DecidableEq τ] in
theorem mpfFramesMix_foldl {mixSize : ℕ} {sources : List (τ × ℕ)} (h : ∀ source ∈ sources, source.2 = mixSize)
    (mixed : List τ) :
    sources.foldl (mpfFramesMix decodes mixSize) (mixSize, mixed) = (mixSize, mixed ++ sources.map Prod.fst) := by
  induction sources generalizing mixed with
  | nil => simp
  | cons source sources ih =>
    obtain ⟨hs, hr⟩ := forall_mem_cons.1 h
    have hz : (if decodes source.1 then source.2 else mixSize) = mixSize := by split <;> [exact hs; rfl]
    rw [foldl_cons, mpfFramesMix]
    rw [hz, if_pos rfl, ih hr, map_cons, append_assoc, singleton_append]

omit [DecidableEq τ] in
theorem MpfObject.Fits.process {object : MpfObject τ} (h : object.Fits) :
    object.process decodes = (object, object.frames) := by
  cases object with
  | bridge source sink => rfl
  | multiplier source sinks => rfl
  | mixer sources sink frameSize mixSize =>
    obtain ⟨rfl, hs⟩ := h
    rw [MpfObject.process, mpfFramesMix_foldl hs]
    rfl

omit [DecidableEq τ] in
theorem mpfContextProcess_of_fits {c : MpfContext τ} (h : ∀ object ∈ c.objects, object.Fits) :
    mpfContextProcess c decodes = (c, c.objects.flatMap frames) := by
  have hm : c.objects.map (fun object => (object.process decodes).1) = c.objects := by
    conv_rhs => rw [← map_id c.objects]
    exact map_congr_left fun object ho => by rw [(h object ho).process]; rfl
  have hf : c.objects.flatMap (fun object => (object.process decodes).2) = c.objects.flatMap frames :=
    flatMap_congr fun object ho => by rw [(h object ho).process]
  rw [mpfContextProcess, hm, hf]

end Objects

def slotObjects (found : Converters τ) (s : MpfMedia τ) (i : ℕ) : List (MpfObject τ) :=
  (mpfContextSourceObject found s i).toList ++ (mpfContextSinkObject found s i).toList

def MpfContext.occupiedSlots (c : MpfContext τ) : List ℕ := (List.range c.capacity).filter c.occupied

section Apply

variable {found : Converters τ} {s : MpfMedia τ}

omit [DecidableEq τ] in
theorem foldl_slotApply (is : List ℕ) (objects : List (MpfObject τ)) :
    is.foldl (mpfContextSlotApply found) { s with context := { s.context with objects := objects } } =
      { s with context := { s.context with objects := objects ++ is.flatMap (slotObjects found s) } } := by
  induction is generalizing objects with
  | nil => simp
  | cons i is ih =>
    rw [foldl_cons, flatMap_cons, ← append_assoc]
    exact ih (objects ++ slotObjects found s i)

omit [DecidableEq τ] in
theorem topologyApply_objects (h : s.Sound) : mpfContextTopologyApply found s =
    { s with context := { s.context with objects := s.context.occupiedSlots.flatMap (slotObjects found s) } } := by
  rw [h.topologyApply_eq]
  exact foldl_slotApply _ []

omit [DecidableEq τ] in
theorem nodup_occupiedSlots (c : MpfContext τ) : c.occupiedSlots.Nodup := nodup_range.filter _

omit [DecidableEq τ] in
theorem occupiedSlots_of_not_linked (h : s.Sound) (hl : ¬ s.context.linked = true) : s.context.occupiedSlots = [] := by
  rw [h.linked, Nat.pos_iff_ne_zero, not_not, h.count, occupiedCount_eq_length] at hl
  exact eq_nil_of_length_eq_zero hl

end Apply

section Associations

variable {s : MpfMedia τ} {i j : ℕ}

omit [DecidableEq τ] in
theorem mem_sinksOf (h : s.Sound) : j ∈ s.context.sinksOf i ↔ s.context.matrix i j := by
  rw [MpfContext.sinksOf, mem_filter, mem_range, Bool.and_eq_true]
  exact ⟨fun hj => hj.2.2, fun ho => ⟨(h.counted.within i j ho).2, (h.counted.between i j ho).2, ho⟩⟩

omit [DecidableEq τ] in
theorem mem_sourcesOf (h : s.Sound) : i ∈ s.context.sourcesOf j ↔ s.context.matrix i j := by
  rw [MpfContext.sourcesOf, mem_filter, mem_range, Bool.and_eq_true]
  exact ⟨fun hi => hi.2.2, fun ho => ⟨(h.counted.within i j ho).1, (h.counted.between i j ho).1, ho⟩⟩

variable (c : MpfContext τ)

omit [DecidableEq τ] in
theorem nodup_sinksOf (i : ℕ) : (c.sinksOf i).Nodup := nodup_range.filter _

omit [DecidableEq τ] in
theorem nodup_sourcesOf (j : ℕ) : (c.sourcesOf j).Nodup := nodup_range.filter _

omit [DecidableEq τ] in
theorem sinksOf_length (h : s.Sound) (hi : i < s.context.capacity) :
    (s.context.sinksOf i).length = (s.context.header i).txCount.toNat := by
  rw [h.counted.tx i hi, onInRow, ← toFinset_card_of_nodup (nodup_sinksOf s.context i)]
  congr 1
  ext j
  rw [mem_toFinset, Finset.mem_filter]
  exact (mem_sinksOf h).trans
    ⟨fun ho => ⟨MpfContext.mem_slots.2 (h.counted.within i j ho).2, ho⟩, fun hj => hj.2⟩

omit [DecidableEq τ] in
theorem sourcesOf_length (h : s.Sound) (hj : j < s.context.capacity) :
    (s.context.sourcesOf j).length = (s.context.header j).rxCount.toNat := by
  rw [h.counted.rx j hj, onInCol, ← toFinset_card_of_nodup (nodup_sourcesOf s.context j)]
  congr 1
  ext i
  rw [mem_toFinset, Finset.mem_filter]
  exact (mem_sourcesOf h).trans
    ⟨fun ho => ⟨MpfContext.mem_slots.2 (h.counted.within i j ho).1, ho⟩, fun hi => hi.2⟩

omit [DecidableEq τ] in
theorem streamOf_termination {t : τ} (h : s.streamOf i = some t) : (s.context.header i).termination = some t :=
  (Option.filter_eq_some_iff.1 h).1

omit [DecidableEq τ] in
theorem streamOf_inj (h : s.Sound) (hi : i < s.context.capacity) (hj : j < s.context.capacity) {t : τ}
    (ht : s.streamOf i = some t) (htj : s.streamOf j = some t) : i = j :=
  (h.slot i hi t (streamOf_termination ht)).symm.trans (h.slot j hj t (streamOf_termination htj))

end Associations

/-! ## What the objects of a slot read and write -/

def sourceFrames (found : Converters τ) (s : MpfMedia τ) (i : ℕ) : List (StreamEvent τ) :=
  (mpfContextSourceObject found s i).toList.flatMap MpfObject.frames

def sinkFrames (found : Converters τ) (s : MpfMedia τ) (i : ℕ) : List (StreamEvent τ) :=
  (mpfContextSinkObject found s i).toList.flatMap MpfObject.frames

section Frames

variable {found : Converters τ} {s : MpfMedia τ} {i j : ℕ} {object : MpfObject τ}

omit [DecidableEq τ] in
theorem sourceObject_cases (h : s.Sound) (hi : i < s.context.capacity)
    (ho : mpfContextSourceObject found s i = some object) :
    (∃ j source sink, s.context.matrix i j ∧ ¬ 1 < (s.context.header j).rxCount ∧
      s.streamOf i = some source ∧ s.streamOf j = some sink ∧ object = .bridge source sink) ∨
    (1 < (s.context.header i).txCount ∧ ∃ source, s.streamOf i = some source ∧
      object = .multiplier source ((s.context.sinksOf i).filterMap s.streamOf)) := by
  rw [mpfContextSourceObject] at ho
  split_ifs at ho with hp hn
  · left
    rw [mpfContextBridgeCreate] at ho
    split at ho
    · cases ho
    · rename_i j hj
      have hon : s.context.matrix i j := (mem_sinksOf h).1 (mem_of_head? hj)
      split_ifs at ho with hr
      split at ho
      · rename_i source sink hs hsn
        split_ifs at ho
        exact ⟨j, source, sink, hon, hr, hs, hsn, (some.inj ho).symm⟩
      · cases ho
  · right
    refine ⟨?_, ?_⟩
    · rw [UInt8.lt_iff_toNat_lt] at hp ⊢
      have hne : (s.context.header i).txCount.toNat ≠ 1 := fun e => hn (UInt8.toNat_inj.1 e)
      have h0 : (0 : UInt8).toNat = 0 := rfl
      have h1 : (1 : UInt8).toNat = 1 := rfl
      omega
    · rw [mpfContextMultiplierCreate] at ho
      split at ho
      · cases ho
      · rename_i source hs
        split_ifs at ho
        refine ⟨source, hs, ?_⟩
        rw [← sinksOf_length h hi, take_length] at ho
        exact (some.inj ho).symm

omit [DecidableEq τ] in
theorem sinkObject_cases (h : s.Sound) (hj : j < s.context.capacity)
    (ho : mpfContextSinkObject found s j = some object) :
    1 < (s.context.header j).rxCount ∧ ∃ sink, s.streamOf j = some sink ∧
      object = .mixer ((s.context.sourcesOf j).filterMap fun i =>
        (s.streamOf i).map fun source => (source, found.rxSize source)) sink
        (found.txSize sink) (found.txSize sink) := by
  rw [mpfContextSinkObject] at ho
  split_ifs at ho with hr
  refine ⟨hr, ?_⟩
  rw [mpfContextMixerCreate] at ho
  split at ho
  · cases ho
  · rename_i sink hs
    split_ifs at ho
    refine ⟨sink, hs, ?_⟩
    rw [← sourcesOf_length h hj, take_length] at ho
    exact (some.inj ho).symm

omit [DecidableEq τ] in
theorem sourceObject_none (h : s.Sound) (ho : s.context.matrix i j)
    (hr : 1 < (s.context.header j).rxCount) (ht : ¬ 1 < (s.context.header i).txCount) :
    mpfContextSourceObject found s i = none ∧ ∀ k, s.context.matrix i k → k = j := by
  have hi := (h.counted.within i j ho).1
  have hl := sinksOf_length h hi
  have hm := (mem_sinksOf h).2 ho
  have h1 : (1 : UInt8).toNat = 1 := rfl
  rw [UInt8.lt_iff_toNat_lt, h1, ← hl] at ht
  obtain ⟨k, hk⟩ := length_eq_one_iff.1
    (Nat.le_antisymm (Nat.le_of_not_lt ht) (length_pos_of_mem hm))
  have hj : j = k := by simpa [hk] using hm
  subst hj
  constructor
  · rw [mpfContextSourceObject]
    split_ifs with hp hn
    · rw [mpfContextBridgeCreate, hk]
      simp only [List.head?_cons, if_pos hr]
    · refine absurd (UInt8.toNat_inj.1 ?_) hn
      rw [← hl, hk]
      rfl
    · rfl
  · intro k' hk'
    simpa [hk] using (mem_sinksOf h).2 hk'

omit [DecidableEq τ] in
theorem frames_of_sourceObject (ho : mpfContextSourceObject found s i = some object) :
    sourceFrames found s i = object.frames := by
  rw [sourceFrames, ho]
  exact flatMap_singleton _ _

omit [DecidableEq τ] in
theorem frames_of_sinkObject (ho : mpfContextSinkObject found s i = some object) :
    sinkFrames found s i = object.frames := by
  rw [sinkFrames, ho]
  exact flatMap_singleton _ _

omit [DecidableEq τ] in
theorem nodup_streams (h : s.Sound) {is : List ℕ} (hs : is.Nodup) (hlt : ∀ i ∈ is, i < s.context.capacity) :
    (is.filterMap s.streamOf).Nodup := by
  rw [List.Nodup, pairwise_filterMap]
  refine List.Pairwise.imp_of_mem (fun {i j} hi hj hne => ?_) hs
  rintro t ht u hu rfl
  exact hne (streamOf_inj h (hlt i hi) (hlt j hj) ht hu)

theorem reads_source (h : s.Sound) (hi : i < s.context.capacity) (t : τ) :
    (sourceFrames found s i).count (.read t) ≤ 1 ∧ ((sourceFrames found s i).count (.read t) ≠ 0 →
      s.streamOf i = some t ∧ mpfContextSourceObject found s i ≠ none) := by
  cases ho : mpfContextSourceObject found s i with
  | none => simp [sourceFrames, ho]
  | some object =>
    rw [frames_of_sourceObject ho]
    rcases sourceObject_cases h hi ho with ⟨j, source, sink, -, -, hs, -, rfl⟩ | ⟨-, source, hs, rfl⟩
    · by_cases ht : source = t
      · subst ht
        simp [frames, hs]
      · simp [frames, ht]
    · have hw (sinks : List τ) :
          (sinks.map fun sink => write sink [source]).count (.read t) = 0 :=
        count_eq_zero.2 (by simp)
      by_cases ht : source = t
      · subst ht
        simp [frames, hs, hw]
      · simp [frames, ht, hw]

omit [DecidableEq τ] in
theorem mixer_sources (js : List ℕ) (size : τ → ℕ) :
    (js.filterMap fun i => (s.streamOf i).map fun source => (source, size source)).map Prod.fst =
      js.filterMap s.streamOf := by
  rw [map_filterMap]
  congr 1
  funext i
  cases s.streamOf i <;> rfl

theorem reads_sink (h : s.Sound) (hj : j < s.context.capacity) (t : τ) :
    (sinkFrames found s j).count (.read t) ≤ 1 ∧ ((sinkFrames found s j).count (.read t) ≠ 0 →
      1 < (s.context.header j).rxCount ∧ ∃ i, s.context.matrix i j ∧ s.streamOf i = some t) := by
  cases ho : mpfContextSinkObject found s j with
  | none => simp [sinkFrames, ho]
  | some object =>
    rw [frames_of_sinkObject ho]
    obtain ⟨hr, sink, -, rfl⟩ := sinkObject_cases h hj ho
    have hc (sources : List (τ × ℕ)) (mixed : List τ) :
        ((sources.map fun source => read source.1) ++ [write sink mixed]).count (.read t) =
          (sources.map Prod.fst).count t := by
      induction sources with
      | nil => simp
      | cons source sources ih => simp_all [count_cons]
    have hlt : ∀ i ∈ s.context.sourcesOf j, i < s.context.capacity := fun i hi =>
      (h.counted.within i j ((mem_sourcesOf h).1 hi)).1
    rw [frames, hc, mixer_sources]
    constructor
    · exact nodup_iff_count_le_one.1 (nodup_streams h (nodup_sourcesOf _ j) hlt) t
    · intro hne
      obtain ⟨i, hi, ht⟩ := mem_filterMap.1 (count_pos_iff.1 (Nat.pos_of_ne_zero hne))
      exact ⟨hr, i, (mem_sourcesOf h).1 hi, ht⟩

theorem writes_source (h : s.Sound) (hi : i < s.context.capacity) (u : τ) :
    (sourceFrames found s i).countP (writesTo u) ≤ 1 ∧
      ((sourceFrames found s i).countP (writesTo u) ≠ 0 →
        mpfContextSourceObject found s i ≠ none ∧ ∃ j, s.context.matrix i j ∧ s.streamOf j = some u) := by
  cases ho : mpfContextSourceObject found s i with
  | none => simp [sourceFrames, ho]
  | some object =>
    rw [frames_of_sourceObject ho]
    rcases sourceObject_cases h hi ho with ⟨j, source, sink, hn, -, -, hs, rfl⟩ | ⟨-, source, -, rfl⟩
    · by_cases hu : sink = u
      · subst hu
        simpa [frames] using ⟨j, hn, hs⟩
      · simp [frames, hu]
    · have hc (sinks : List τ) : (read source :: sinks.map fun sink =>
          write sink [source]).countP (writesTo u) = sinks.count u := by
        rw [countP_cons_of_neg (by simp), countP_map, List.count]
        congr 1
      have hlt : ∀ j ∈ s.context.sinksOf i, j < s.context.capacity := fun j hj =>
        (h.counted.within i j ((mem_sinksOf h).1 hj)).2
      rw [frames, hc]
      constructor
      · exact nodup_iff_count_le_one.1 (nodup_streams h (nodup_sinksOf _ i) hlt) u
      · intro hne
        obtain ⟨j, hj, hu⟩ := mem_filterMap.1 (count_pos_iff.1 (Nat.pos_of_ne_zero hne))
        exact ⟨by simp, j, (mem_sinksOf h).1 hj, hu⟩

theorem writes_sink (h : s.Sound) (hj : j < s.context.capacity) (u : τ) :
    (sinkFrames found s j).countP (writesTo u) ≤ 1 ∧
      ((sinkFrames found s j).countP (writesTo u) ≠ 0 →
        1 < (s.context.header j).rxCount ∧ s.streamOf j = some u) := by
  cases ho : mpfContextSinkObject found s j with
  | none => simp [sinkFrames, ho]
  | some object =>
    rw [frames_of_sinkObject ho]
    obtain ⟨hr, sink, hs, rfl⟩ := sinkObject_cases h hj ho
    have hd (sources : List (τ × ℕ)) :
        (sources.map fun source => read source.1).countP (writesTo u) = 0 := by
      refine countP_eq_zero.2 fun event he => ?_
      obtain ⟨source, -, rfl⟩ := mem_map.1 he
      exact Bool.false_ne_true
    rw [frames, countP_append, hd]
    by_cases hu : sink = u
    · subst hu
      simp [hr, hs]
    · simp [hu]

end Frames

/-! ## Delivery -/

/-- Each stream is read and written at most once, and what is read from the source of an association is in what is
written to its sink. -/
structure DeliversOnce (s : MpfMedia τ) (events : List (StreamEvent τ)) : Prop where
  reads : ∀ t, events.count (.read t) ≤ 1
  writes : ∀ u, events.countP (StreamEvent.writesTo u) ≤ 1
  delivers : ∀ i j t u, s.context.matrix i j → s.streamOf i = some t → s.streamOf j = some u →
    streamDirectionCompatibilityCheck (s.audioStream t) (s.audioStream u) →
    .read t ∈ events ∧ ∃ sources, .write u sources ∈ events ∧ t ∈ sources

def NoManyToMany (c : MpfContext τ) : Prop :=
  ∀ i j, c.matrix i j → ¬ (1 < (c.header i).txCount ∧ 1 < (c.header j).rxCount)

def topologyFrames (found : Converters τ) (s : MpfMedia τ) : List (StreamEvent τ) :=
  s.context.occupiedSlots.flatMap fun i => sourceFrames found s i ++ sinkFrames found s i

section Delivery

variable {found : Converters τ} {s : MpfMedia τ}

omit [DecidableEq τ] in
theorem lt_of_mem_occupiedSlots {c : MpfContext τ} {i : ℕ} (h : i ∈ c.occupiedSlots) : i < c.capacity :=
  (mem_occupied.1 h).1

omit [DecidableEq τ] in
theorem countP_topologyFrames (p : StreamEvent τ → Bool) : (topologyFrames found s).countP p =
    (s.context.occupiedSlots.map fun i => (sourceFrames found s i).countP p).sum +
      (s.context.occupiedSlots.map fun i => (sinkFrames found s i).countP p).sum := by
  rw [topologyFrames, countP_flatMap, ← sum_map_add]
  congr 1
  exact map_congr_left fun i _ => countP_append

theorem reads_le_one (h : s.Sound) (hmm : NoManyToMany s.context) (t : τ) :
    (topologyFrames found s).count (.read t) ≤ 1 := by
  -- a slot whose stream a mixer reads makes no object as a source
  have hm {i j : ℕ} (hj : j < s.context.capacity) (ht : s.streamOf i = some t) (hi : i < s.context.capacity)
      (hd : (sinkFrames found s j).count (.read t) ≠ 0) :
      mpfContextSourceObject found s i = none ∧ ∀ k, s.context.matrix i k → k = j := by
    obtain ⟨hx, i', ho, ht'⟩ := (reads_sink h hj t).2 hd
    rw [streamOf_inj h hi (h.counted.within i' j ho).1 ht ht']
    exact sourceObject_none h ho hx fun htx => hmm i' j ho ⟨htx, hx⟩
  have hsr : (s.context.occupiedSlots.map fun i => (sourceFrames found s i).count (.read t)).sum ≤ 1 := by
    apply sum_map_le_one (nodup_occupiedSlots s.context)
    · exact fun i hi => (reads_source h (lt_of_mem_occupiedSlots hi) t).1
    · intro i hi j hj hri hr
      exact streamOf_inj h (lt_of_mem_occupiedSlots hi) (lt_of_mem_occupiedSlots hj)
        ((reads_source h (lt_of_mem_occupiedSlots hi) t).2 hri).1
        ((reads_source h (lt_of_mem_occupiedSlots hj) t).2 hr).1
  have hsi : (s.context.occupiedSlots.map fun i => (sinkFrames found s i).count (.read t)).sum ≤ 1 := by
    apply sum_map_le_one (nodup_occupiedSlots s.context)
    · exact fun i hi => (reads_sink h (lt_of_mem_occupiedSlots hi) t).1
    · intro j hj k hk hr hrk
      obtain ⟨-, i, ho, ht⟩ := (reads_sink h (lt_of_mem_occupiedSlots hj) t).2 hr
      exact (hm (lt_of_mem_occupiedSlots hk) ht (h.counted.within i j ho).1 hrk).2 j ho
  have hnt : ¬ ((s.context.occupiedSlots.map fun i => (sourceFrames found s i).count (.read t)).sum ≠ 0 ∧
      (s.context.occupiedSlots.map fun i => (sinkFrames found s i).count (.read t)).sum ≠ 0) := by
    rintro ⟨hs, hn⟩
    obtain ⟨i, hi, hri⟩ := exists_of_sum_map_ne_zero hs
    obtain ⟨j, hj, hr⟩ := exists_of_sum_map_ne_zero hn
    obtain ⟨ht, hb⟩ := (reads_source h (lt_of_mem_occupiedSlots hi) t).2 hri
    exact hb (hm (lt_of_mem_occupiedSlots hj) ht (lt_of_mem_occupiedSlots hi) hr).1
  have htt : (topologyFrames found s).count (.read t) = _ + _ := countP_topologyFrames _
  simp only [List.count] at *
  omega

theorem writes_le_one (h : s.Sound) (hm : NoManyToMany s.context) (u : τ) :
    (topologyFrames found s).countP (writesTo u) ≤ 1 := by
  -- a slot that makes an object as a source has no sink of several sources
  have hs {i j : ℕ} (hb : mpfContextSourceObject found s i ≠ none) (ho : s.context.matrix i j) :
      ¬ 1 < (s.context.header j).rxCount := fun hr =>
    hb (sourceObject_none h ho hr fun ht => hm i j ho ⟨ht, hr⟩).1
  have hsr : (s.context.occupiedSlots.map fun i =>
      (sourceFrames found s i).countP (writesTo u)).sum ≤ 1 := by
    apply sum_map_le_one (nodup_occupiedSlots s.context)
    · exact fun i hi => (writes_source h (lt_of_mem_occupiedSlots hi) u).1
    · intro i hi k hk hw hwk
      obtain ⟨hb, j, ho, hu⟩ := (writes_source h (lt_of_mem_occupiedSlots hi) u).2 hw
      obtain ⟨-, j', ho', hu'⟩ := (writes_source h (lt_of_mem_occupiedSlots hk) u).2 hwk
      have hj := (h.counted.within i j ho).2
      rw [streamOf_inj h (h.counted.within k j' ho').2 hj hu' hu] at ho'
      have hr := hs hb ho
      have h1 : (1 : UInt8).toNat = 1 := rfl
      rw [UInt8.lt_iff_toNat_lt, h1, ← sourcesOf_length h hj, not_lt] at hr
      exact eq_of_length_le_one hr ((mem_sourcesOf h).2 ho) ((mem_sourcesOf h).2 ho')
  have hn : (s.context.occupiedSlots.map fun i =>
      (sinkFrames found s i).countP (writesTo u)).sum ≤ 1 := by
    apply sum_map_le_one (nodup_occupiedSlots s.context)
    · exact fun i hi => (writes_sink h (lt_of_mem_occupiedSlots hi) u).1
    · intro i hi j hj hw hwj
      exact streamOf_inj h (lt_of_mem_occupiedSlots hi) (lt_of_mem_occupiedSlots hj)
        ((writes_sink h (lt_of_mem_occupiedSlots hi) u).2 hw).2
        ((writes_sink h (lt_of_mem_occupiedSlots hj) u).2 hwj).2
  have hnt : ¬ ((s.context.occupiedSlots.map fun i =>
      (sourceFrames found s i).countP (writesTo u)).sum ≠ 0 ∧ (s.context.occupiedSlots.map fun i =>
        (sinkFrames found s i).countP (writesTo u)).sum ≠ 0) := by
    rintro ⟨hc, hsi⟩
    obtain ⟨i, hi, hw⟩ := exists_of_sum_map_ne_zero hc
    obtain ⟨k, hk, hwk⟩ := exists_of_sum_map_ne_zero hsi
    obtain ⟨hb, j, ho, hu⟩ := (writes_source h (lt_of_mem_occupiedSlots hi) u).2 hw
    obtain ⟨hr, huk⟩ := (writes_sink h (lt_of_mem_occupiedSlots hk) u).2 hwk
    rw [streamOf_inj h (lt_of_mem_occupiedSlots hk) (h.counted.within i j ho).2 huk hu] at hr
    exact hs hb ho hr
  have htt : (topologyFrames found s).countP (writesTo u) = _ := countP_topologyFrames _
  omega

omit [DecidableEq τ] in
theorem mem_topologyFrames {event : StreamEvent τ} {i : ℕ} (hi : i ∈ s.context.occupiedSlots)
    (h : event ∈ sourceFrames found s i ∨ event ∈ sinkFrames found s i) : event ∈ topologyFrames found s :=
  mem_flatMap.2 ⟨i, hi, mem_append.2 h⟩

omit [DecidableEq τ] in
theorem mem_occupiedSlots_of_on (h : s.Sound) {i j : ℕ} (ho : s.context.matrix i j) :
    i ∈ s.context.occupiedSlots ∧ j ∈ s.context.occupiedSlots := by
  obtain ⟨hi, hj⟩ := h.counted.within i j ho
  obtain ⟨hoi, hoj⟩ := h.counted.between i j ho
  exact ⟨mem_occupied.2 ⟨hi, hoi⟩, mem_occupied.2 ⟨hj, hoj⟩⟩

variable {t u : τ}

omit [DecidableEq τ] in
theorem sinkObject_mixer (h : s.Sound) (hf : ConvertersFound found s) {i j : ℕ}
    (hn : s.context.matrix i j) (ht : s.streamOf i = some t) (hu : s.streamOf j = some u)
    (hr : 1 < (s.context.header j).rxCount) :
    .read t ∈ sinkFrames found s j ∧ ∃ sources, .write u sources ∈ sinkFrames found s j ∧ t ∈ sources := by
  obtain ⟨source, sink, hc, hsn, -, -, hx, -⟩ := hf i j hn
  obtain rfl := some.inj (hu.symm.trans hsn)
  have ho : mpfContextSinkObject found s j = some (.mixer ((s.context.sourcesOf j).filterMap fun i =>
      (s.streamOf i).map fun source => (source, found.rxSize source)) u (found.txSize u) (found.txSize u)) := by
    rw [mpfContextSinkObject, if_pos hr, mpfContextMixerCreate]
    simp only [hu, hx, if_true]
    rw [← sourcesOf_length h (h.counted.within i j hn).2, take_length]
  rw [frames_of_sinkObject ho, frames, mixer_sources]
  have hm : t ∈ (s.context.sourcesOf j).filterMap s.streamOf :=
    mem_filterMap.2 ⟨i, (mem_sourcesOf h).2 hn, ht⟩
  constructor
  · apply mem_append_left
    rw [← mixer_sources _ found.rxSize] at hm
    obtain ⟨source, hs, rfl⟩ := mem_map.1 hm
    exact mem_map.2 ⟨source, hs, rfl⟩
  · exact ⟨_, mem_append_right _ (mem_singleton.2 rfl), hm⟩

omit [DecidableEq τ] in
theorem sourceObject_multiplier (h : s.Sound) (hf : ConvertersFound found s) {i j : ℕ}
    (hn : s.context.matrix i j) (ht : s.streamOf i = some t) (hu : s.streamOf j = some u)
    (hx : 1 < (s.context.header i).txCount) :
    .read t ∈ sourceFrames found s i ∧ .write u [t] ∈ sourceFrames found s i := by
  obtain ⟨source, sink, hs, hsn, -, hr, -, -⟩ := hf i j hn
  obtain rfl := some.inj (ht.symm.trans hs)
  have hp : 0 < (s.context.header i).txCount := by
    have h0 : (0 : UInt8).toNat = 0 := rfl
    have h1 : (1 : UInt8).toNat = 1 := rfl
    rw [UInt8.lt_iff_toNat_lt] at hx ⊢
    omega
  have hon : ¬ (s.context.header i).txCount = 1 := fun e => absurd hx (e ▸ UInt8.lt_irrefl 1)
  have ho : mpfContextSourceObject found s i =
      some (.multiplier t ((s.context.sinksOf i).filterMap s.streamOf)) := by
    rw [mpfContextSourceObject, if_pos hp, if_neg hon, mpfContextMultiplierCreate]
    simp only [ht, hr, if_true]
    rw [← sinksOf_length h (h.counted.within i j hn).1, take_length]
  rw [frames_of_sourceObject ho, frames]
  have hm : u ∈ (s.context.sinksOf i).filterMap s.streamOf :=
    mem_filterMap.2 ⟨j, (mem_sinksOf h).2 hn, hu⟩
  exact ⟨mem_cons_self, mem_cons_of_mem _ (mem_map.2 ⟨u, hm, rfl⟩)⟩

omit [DecidableEq τ] in
theorem sourceObject_bridge (h : s.Sound) (hf : ConvertersFound found s) {i j : ℕ}
    (hn : s.context.matrix i j) (ht : s.streamOf i = some t) (hu : s.streamOf j = some u)
    (hx : ¬ 1 < (s.context.header i).txCount) (hr : ¬ 1 < (s.context.header j).rxCount) :
    .read t ∈ sourceFrames found s i ∧ .write u [t] ∈ sourceFrames found s i := by
  obtain ⟨source, sink, hs, hsn, hb, -, -, -⟩ := hf i j hn
  obtain rfl := some.inj (ht.symm.trans hs)
  obtain rfl := some.inj (hu.symm.trans hsn)
  have hl := sinksOf_length h (h.counted.within i j hn).1
  have hm := (mem_sinksOf h).2 hn
  have h1 : (1 : UInt8).toNat = 1 := rfl
  rw [UInt8.lt_iff_toNat_lt, h1, ← hl, not_lt] at hx
  have hon := Nat.le_antisymm hx (length_pos_of_mem hm)
  obtain ⟨k, hk⟩ := length_eq_one_iff.1 hon
  obtain rfl : j = k := by simpa [hk] using hm
  have hc : (s.context.header i).txCount = 1 := UInt8.toNat_inj.1 (hl.symm.trans hon)
  have ho : mpfContextSourceObject found s i = some (.bridge t u) := by
    rw [mpfContextSourceObject, hc, if_pos (by decide), if_pos rfl, mpfContextBridgeCreate, hk]
    simp only [List.head?_cons, if_neg hr, ht, hu, hb, if_true]
  rw [frames_of_sourceObject ho]
  exact ⟨mem_cons_self, mem_cons_of_mem _ mem_cons_self⟩

omit [DecidableEq τ] in
theorem topologyFrames_delivers (h : s.Sound) (hf : ConvertersFound found s) {i j : ℕ}
    (ho : s.context.matrix i j) (ht : s.streamOf i = some t) (hu : s.streamOf j = some u) :
    .read t ∈ topologyFrames found s ∧ ∃ sources, .write u sources ∈ topologyFrames found s ∧ t ∈ sources := by
  obtain ⟨hi, hj⟩ := mem_occupiedSlots_of_on h ho
  by_cases hr : 1 < (s.context.header j).rxCount
  · obtain ⟨hd, sources, hw, hm⟩ := sinkObject_mixer h hf ho ht hu hr
    exact ⟨mem_topologyFrames hj (Or.inr hd), sources, mem_topologyFrames hj (Or.inr hw), hm⟩
  · have hs : .read t ∈ sourceFrames found s i ∧ .write u [t] ∈ sourceFrames found s i := by
      by_cases hx : 1 < (s.context.header i).txCount
      · exact sourceObject_multiplier h hf ho ht hu hx
      · exact sourceObject_bridge h hf ho ht hu hx hr
    exact ⟨mem_topologyFrames hi (Or.inl hs.1), [t], mem_topologyFrames hi (Or.inl hs.2),
      mem_singleton.2 rfl⟩

theorem reads_twice (h : s.Sound) (hf : ConvertersFound found s) {i j : ℕ} (ho : s.context.matrix i j)
    (ht : s.streamOf i = some t) (hu : s.streamOf j = some u) (hx : 1 < (s.context.header i).txCount)
    (hr : 1 < (s.context.header j).rxCount) : 1 < (topologyFrames found s).count (.read t) := by
  obtain ⟨hi, hj⟩ := mem_occupiedSlots_of_on h ho
  have hs := count_pos_iff.2 (sourceObject_multiplier h hf ho ht hu hx).1
  have hsi := count_pos_iff.2 (sinkObject_mixer h hf ho ht hu hr).1
  have hsr := le_sum_of_mem (mem_map_of_mem (f := fun i => (sourceFrames found s i).count (.read t)) hi)
  have hn := le_sum_of_mem (mem_map_of_mem (f := fun i => (sinkFrames found s i).count (.read t)) hj)
  have htt : (topologyFrames found s).count (.read t) = _ + _ := countP_topologyFrames _
  simp only [List.count] at *
  omega

theorem deliversOnce_topologyFrames_iff (h : s.Sound) (hf : ConvertersFound found s) :
    DeliversOnce s (topologyFrames found s) ↔ NoManyToMany s.context := by
  constructor
  · rintro hd i j ho ⟨hx, hr⟩
    obtain ⟨t, u, ht, hu, -⟩ := hf i j ho
    have hw := reads_twice h hf ho ht hu hx hr
    have hn := hd.reads t
    omega
  · intro hm
    exact ⟨reads_le_one h hm, writes_le_one h hm,
      fun i j t u ho ht hu _ => topologyFrames_delivers h hf ho ht hu⟩

/-! ## Ticks -/

omit [DecidableEq τ] in
theorem topologyApply_fits (h : s.Sound) (hf : ConvertersFound found s) :
    ∀ object ∈ (mpfContextTopologyApply found s).context.objects, object.Fits := by
  rw [topologyApply_objects h]
  intro object ho
  obtain ⟨i, hi, ho⟩ := mem_flatMap.1 ho
  have hi := lt_of_mem_occupiedSlots hi
  rcases mem_append.1 ho with ho | ho
  · rcases sourceObject_cases h hi (mem_toList.1 ho) with ⟨_, _, _, -, -, -, -, rfl⟩ | ⟨-, _, -, rfl⟩
    · trivial
    · trivial
  · obtain ⟨-, sink, hn, rfl⟩ := sinkObject_cases h hi (mem_toList.1 ho)
    refine ⟨rfl, fun source hs => ?_⟩
    obtain ⟨k, hk, hs⟩ := mem_filterMap.1 hs
    obtain ⟨t, ht, rfl⟩ := Option.map_eq_some_iff.1 hs
    obtain ⟨t', u', ht', hu', -, -, -, hz⟩ := hf k i ((mem_sourcesOf h).1 hk)
    obtain rfl := some.inj (ht.symm.trans ht')
    obtain rfl := some.inj (hn.symm.trans hu')
    exact hz

omit [DecidableEq τ] in
theorem process_topologyApply (h : s.Sound) (hfo : ConvertersFound found s) (decodes : τ → Bool) :
    mpfContextFactoryProcess (mpfContextTopologyApply found s).context decodes =
      ((mpfContextTopologyApply found s).context, topologyFrames found s) := by
  have hf := topologyApply_fits h hfo
  have hr : (s.context.occupiedSlots.flatMap (slotObjects found s)).flatMap frames =
      topologyFrames found s := by
    rw [flatMap_assoc, topologyFrames]
    exact flatMap_congr fun i _ => flatMap_append
  rw [topologyApply_objects h] at hf ⊢
  rw [mpfContextFactoryProcess]
  split
  · rw [mpfContextProcess_of_fits hf]
    exact congrArg (Prod.mk _) hr
  · rename_i hl
    rw [topologyFrames, occupiedSlots_of_not_linked h hl]
    rfl

omit [DecidableEq τ] in
theorem run_topologyApply (h : s.Sound) (hf : ConvertersFound found s) (ticks : List (τ → Bool)) :
    (run mpfContextFactoryProcess (mpfContextTopologyApply found s).context ticks).2 =
      List.replicate ticks.length (topologyFrames found s) := by
  induction ticks with
  | nil => rfl
  | cons decodes ticks ih =>
    rw [run_cons, process_topologyApply h hf, ih]
    rfl

end Delivery

/-- **In every state of a context for at most 255 terminations, if a topology that is applied finds its converters,
all ticks after it read and write each stream at most once and deliver along each association exactly when no source
of several sinks has a sink of several sources.** -/
theorem topology_deliversOnce_iff {capacity : ℕ} (hcap : capacity ≤ 255) (slot : τ → ℕ)
    (audioStream : τ → Option StreamDirection) {ops : List (ContextOp τ)}
    (h : EachStep mpfMediaStep (fun s op => op.Allowed s) ⟨mpfContextCreate capacity, slot, audioStream⟩ ops)
    {found : Converters τ} {s : MpfMedia τ}
    (hs : s = (run mpfMediaStep ⟨mpfContextCreate capacity, slot, audioStream⟩ ops).1)
    (hfound : ConvertersFound found s) :
    (∀ ticks : List (τ → Bool), ∀ events ∈
      (run mpfContextFactoryProcess (mpfContextTopologyApply found s).context ticks).2, DeliversOnce s events) ↔
      NoManyToMany s.context := by
  have hsound : s.Sound := by
    rw [hs]
    exact run_invariant MpfMedia.Sound (fun s op => op.Allowed s) (fun _ _ hs hop => hs.step hop) _ ops
      (sound_create hcap slot audioStream) h
  rw [← deliversOnce_topologyFrames_iff hsound hfound]
  constructor
  · intro hticks
    apply hticks [fun _ => false]
    rw [run_topologyApply hsound hfound]
    exact mem_singleton.2 rfl
  · intro hframes ticks events hevs
    rw [run_topologyApply hsound hfound] at hevs
    rwa [eq_of_mem_replicate hevs]

def linearConverters : Converters τ := ⟨fun _ _ => true, fun _ => true, fun _ => true, fun _ => 160, fun _ => 160⟩

omit [DecidableEq τ] in
theorem convertersFound_linear {s : MpfMedia τ} (h : s.Sound) (ht : ∀ i < s.context.capacity,
    ∀ j < s.context.capacity, s.context.matrix i j → (s.streamOf i).isSome ∧ (s.streamOf j).isSome) :
    ConvertersFound linearConverters s := by
  intro i j ho
  obtain ⟨hi, hj⟩ := h.counted.within i j ho
  obtain ⟨hs, hn⟩ := ht i hi j hj ho
  obtain ⟨source, hs⟩ := Option.isSome_iff_exists.1 hs
  obtain ⟨sink, hn⟩ := Option.isSome_iff_exists.1 hn
  exact ⟨source, sink, hs, hn, rfl, rfl, rfl, rfl⟩

def duplexMedia : MpfMedia ℕ := ⟨mpfContextCreate 5, fun _ => 0, fun _ => some .duplex⟩

theorem sound_duplexMedia {ops : List (ContextOp ℕ)}
    (h : EachStep mpfMediaStep (fun s op => op.Allowed s) duplexMedia ops) :
    (run mpfMediaStep duplexMedia ops).1.Sound :=
  run_invariant MpfMedia.Sound (fun s op => op.Allowed s) (fun _ _ hs ho => hs.step ho) _ ops
    (sound_create (by decide) _ _) h

def pairOps : List (ContextOp ℕ) := [.terminationAdd 0, .terminationAdd 1, .associationAdd 0 1]

/-- They are bridged. -/
theorem topology_deliversOnce_pair : (∀ ticks : List (ℕ → Bool), ∀ events ∈ (run mpfContextFactoryProcess
      (mpfContextTopologyApply linearConverters (run mpfMediaStep duplexMedia pairOps).1).context ticks).2,
        DeliversOnce (run mpfMediaStep duplexMedia pairOps).1 events) ↔
      NoManyToMany (run mpfMediaStep duplexMedia pairOps).1.context :=
  have hops : EachStep mpfMediaStep (fun s op => op.Allowed s) duplexMedia pairOps := by decide
  topology_deliversOnce_iff (by decide) (fun _ => 0) (fun _ => some .duplex) hops rfl
    (convertersFound_linear (sound_duplexMedia hops) (by decide))

def conferenceOps : List (ContextOp ℕ) :=
  [.terminationAdd 0, .terminationAdd 1, .terminationAdd 2, .associationAdd 0 1, .associationAdd 0 2,
    .associationAdd 1 2]

/-- Each of them is read by its multiplier and by the mixers of the others. -/
theorem not_topology_deliversOnce_conference :
    EachStep mpfMediaStep (fun s op => op.Allowed s) duplexMedia conferenceOps ∧
      ConvertersFound linearConverters (run mpfMediaStep duplexMedia conferenceOps).1 ∧
      ¬ DeliversOnce (run mpfMediaStep duplexMedia conferenceOps).1 (mpfContextFactoryProcess
        (mpfContextTopologyApply linearConverters (run mpfMediaStep duplexMedia conferenceOps).1).context
          fun _ => false).2 := by
  refine ⟨by decide, convertersFound_linear (sound_duplexMedia (by decide)) (by decide), fun h => ?_⟩
  have hreads := h.reads 0
  have hthree : (mpfContextFactoryProcess
      (mpfContextTopologyApply linearConverters (run mpfMediaStep duplexMedia conferenceOps).1).context
        fun _ => false).2.count (.read 0) = 3 := by decide
  omega

end UniMrcp.Mpf
