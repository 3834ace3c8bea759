import UniMrcp.Mrcp.StartLine.RoundTrip
import UniMrcp.Mrcp.TypedFields

/-!
# Typed values survive the wire

The text that a header generates for a value is read back as the same value.
-/

namespace UniMrcp.Mrcp

open Lib Apt List

/-! ## Request-ids -/

theorem endsNumber_requestId {rest : Bytes} (h : rest = [] ∨ rest.head? = some 0x2C) : EndsNumber rest := by
  rcases h with rfl | h
  · exact endsNumber_nil
  · intro ch hc
    obtain rfl := Option.some.inj (h.symm.trans hc)
    rfl

variable {ids : List Nat}

theorem requestIdListRead_text (hi : ∀ id ∈ ids, id < 2 ^ 32) {count : Nat} (hc : ids.length ≤ count)
    (s : TextStream) (hs : s.rest = [0x2C].intercalate (ids.map requestIdText)) (hb : s.beyond = []) :
    requestIdListRead count s = ids := by
  induction ids generalizing count s with
  | nil =>
    cases count with
    | zero => rfl
    | succ count => rw [requestIdListRead, textFieldRead_nil s hs]
  | cons id ids ih =>
    obtain ⟨hid, hi⟩ := forall_mem_cons.1 hi
    obtain ⟨count, rfl⟩ : ∃ count', count = count' + 1 := ⟨count - 1, by rw [length_cons] at hc; omega⟩
    have hf : IsField 0x2C (requestIdText id) := isField_requestIdText rfl (by decide) id
    cases ids with
    | nil =>
      have hr := textFieldRead_last hf s (by simpa using hs)
      rw [requestIdListRead, hr]
      dsimp only
      rw [requestIdParse_text hid (endsNumber_requestId (Or.inl hb)),
        ih hi (Nat.zero_le count) ⟨s.done ++ requestIdText id, [], s.beyond, s.isEos⟩ rfl hb]
    | cons id' ids =>
      rw [map_cons, map_cons, intercalate_cons_cons, append_assoc, singleton_append] at hs
      have hr := textFieldRead_sep hf s hs
      rw [requestIdListRead, hr]
      dsimp only
      have h := ih hi (Nat.le_of_succ_le_succ hc) ⟨s.done ++ requestIdText id ++ [0x2C],
        [0x2C].intercalate ((id' :: ids).map requestIdText), s.beyond, s.isEos⟩ rfl hb
      rw [requestIdParse_text hid (endsNumber_requestId (Or.inr rfl))]
      exact congrArg (id :: ·) h

/-- Request-ids that the buffer has room for: those with less than ten characters each, on average. -/
def RequestIdsFit (ids : List Nat) : Prop :=
  ids = [] ∨ (ids.map fun id => (requestIdText id).length).sum < 10 * ids.length

instance (ids : List Nat) : Decidable (RequestIdsFit ids) := inferInstanceAs (Decidable (_ ∨ _))

theorem sum_map_add_one {α : Type*} (f : α → Nat) (l : List α) :
    (l.map fun a => f a + 1).sum = (l.map f).sum + l.length := by
  induction l with
  | nil => rfl
  | cons a l ih =>
    simp only [map_cons, sum_cons, length_cons, ih]
    omega

theorem requestIdListGenerate_of_fit (h : RequestIdsFit ids) :
    requestIdListGenerate ids = [0x2C].intercalate (ids.map requestIdText) := by
  cases ids with
  | nil => rfl
  | cons id ids =>
    have hr := h.resolve_left (cons_ne_nil id ids)
    have hc := sum_map_add_one (fun id => (requestIdText id).length) ids
    simp only [map_cons, sum_cons, length_cons] at hr
    rw [requestIdListGenerate_cons, snprintf_of_lt (by omega),
      requestIdsWrite_text (requestIdText_ne_nil id) (by omega), map_cons, intercalate_cons_eq,
      flatMap_map, flatMap_def]

theorem requestIdListParse_generate (hl : ids.length ≤ maxActiveRequestIdCount) (hi : ∀ id ∈ ids, id < 2 ^ 32)
    (h : RequestIdsFit ids) : requestIdListParse (requestIdListGenerate ids) = ids := by
  rw [requestIdListGenerate_of_fit h]
  exact requestIdListRead_text hi hl _ rfl rfl

/-! ## Name-value pairs -/

/-- A pair whose text stands for it: a name and a value without separators and leading spaces. -/
structure ProperPair (pair : Bytes × Bytes) : Prop where
  name : IsField 0x3D pair.1
  noSeparator : (0x3B : UInt8) ∉ pair.1
  valueSpace : pair.2.head? ≠ some tokenSp
  valueSeparator : (0x3B : UInt8) ∉ pair.2

variable {pair : Bytes × Bytes}

theorem pairText_of_proper (h : ProperPair pair) :
    pairText pair = pair.1 ++ if pair.2 = [] then [] else 0x3D :: pair.2 := if_neg h.name.nonempty

theorem isField_pairText (h : ProperPair pair) : IsField 0x3B (pairText pair) := by
  obtain ⟨name, value⟩ := pair
  rw [pairText_of_proper h]
  refine ⟨fun hn => h.name.nonempty (append_eq_nil_iff.1 hn).1, ?_, ?_⟩
  · rw [List.head?_append_of_ne_nil _ h.name.nonempty]
    exact h.name.noSpace
  · rw [mem_append]
    rintro (hm | hm)
    · exact h.noSeparator hm
    · split_ifs at hm
      · cases hm
      · rcases mem_cons.1 hm with heq | hm
        · exact absurd heq (by decide)
        · exact h.valueSeparator hm

theorem length_pairText (h : ProperPair pair) : (pairText pair).length = pairLength pair := by
  rw [pairText_of_proper h, pairLength, length_append]
  split_ifs
  · rfl
  · rw [length_cons, Nat.add_comm pair.2.length 1]

theorem pairParse_text (h : ProperPair pair) (beyond : Bytes) : pairParse ⟨pairText pair, beyond⟩ = pair := by
  obtain ⟨name, value⟩ := pair
  rw [pairText_of_proper h]
  split_ifs with hv
  · rw [append_nil]
    have hr := textFieldRead_init h.name beyond
    simp only [pairParse, hr]
    rw [textFieldRead_nil _ rfl]
    exact congrArg (Prod.mk name) hv.symm
  · have hr := textFieldRead_sep h.name (textStreamInit ⟨name ++ 0x3D :: value, beyond⟩) rfl
    have hf : IsField 0x3B value := ⟨hv, h.valueSpace, h.valueSeparator⟩
    simp only [pairParse, hr]
    rw [textFieldRead_last hf _ rfl]
    rfl

theorem length_intercalate (separator : UInt8) (fields : List Bytes) :
    ([separator].intercalate fields).length = (fields.map List.length).sum + (fields.length - 1) := by
  induction fields with
  | nil => rfl
  | cons field fields ih =>
    cases fields with
    | nil => simp
    | cons field' fields =>
      rw [intercalate_cons_cons, length_append, length_append, ih]
      simp only [map_cons, sum_cons, length_cons, length_nil]
      omega

variable {pairs : List (Bytes × Bytes)}

theorem length_pairsText (h : ∀ pair ∈ pairs, ProperPair pair) :
    ([0x3B].intercalate (pairs.map pairText)).length = pairArrayLength pairs := by
  have hl : (pairs.map pairText).map List.length = pairs.map pairLength := by
    rw [map_map]
    exact map_congr_left fun pair hp => length_pairText (h pair hp)
  rw [length_intercalate, hl, length_map, pairArrayLength]

theorem pairArrayGenerate_of_proper (h : ∀ pair ∈ pairs, ProperPair pair) :
    pairArrayGenerate (some pairs) = some ([0x3B].intercalate (pairs.map pairText)) := by
  have hl := length_pairsText h
  rw [pairArrayLength] at hl
  simp [pairArrayGenerate, hl]

theorem pairArrayParse_generate (h : ∀ pair ∈ pairs, ProperPair pair) (arr : List (Bytes × Bytes)) :
    pairArrayParse arr ((pairArrayGenerate (some pairs)).getD []) = arr ++ pairs := by
  rw [pairArrayGenerate_of_proper h, Option.getD_some]
  have hfi : ∀ field ∈ pairs.map pairText, IsField 0x3B field := by
    intro field hf
    obtain ⟨pair, hp, rfl⟩ := mem_map.1 hf
    exact isField_pairText (h pair hp)
  have hpa : ∀ (arr : List (Bytes × Bytes)) (field beyond : Bytes), field ∈ pairs.map pairText →
      arr ++ [pairParse ⟨field, beyond⟩] = arr ++ [pairParse ⟨field, []⟩] := by
    intro arr field beyond hf
    obtain ⟨pair, hp, rfl⟩ := mem_map.1 hf
    rw [pairParse_text (h pair hp), pairParse_text (h pair hp)]
  have hr : fieldsRead 0x3B (fun arr field => arr ++ [pairParse field]) arr
      (textStreamInit ⟨[0x3B].intercalate (pairs.map pairText), []⟩) =
      (pairs.map pairText).foldl (fun arr field => arr ++ [pairParse ⟨field, []⟩]) arr :=
    fieldsRead_intercalate hfi _ rfl (fun arr field beyond hf _ => hpa arr field beyond hf) arr
  have hl : pairArrayParse arr ([0x3B].intercalate (pairs.map pairText)) =
      fieldsRead 0x3B (fun arr field => arr ++ [pairParse field]) arr
        (textStreamInit ⟨[0x3B].intercalate (pairs.map pairText), []⟩) := rfl
  rw [hl, hr]
  clear hr hl hpa hfi
  induction pairs generalizing arr with
  | nil => simp
  | cons pair pairs ih =>
    obtain ⟨hp, hs⟩ := forall_mem_cons.1 h
    rw [map_cons, foldl_cons, pairParse_text hp, ih hs, append_assoc]
    rfl

/-- **An array of name-value pairs** is read back from its text, which is as long as it is declared to be. -/
theorem pairArray_survives (pairs : List (Bytes × Bytes)) (h : ∀ pair ∈ pairs, ProperPair pair) :
    ∃ text, pairArrayGenerate (some pairs) = some text ∧ text = [0x3B].intercalate (pairs.map pairText) ∧
      text.length = pairArrayLength pairs ∧ pairArrayParse [] text = pairs := by
  have hgenerate := pairArrayGenerate_of_proper h
  have hparse := pairArrayParse_generate h []
  rw [hgenerate, Option.getD_some] at hparse
  exact ⟨_, hgenerate, rfl, length_pairsText h, hparse⟩

theorem pairArray_survives_two : ∃ text, pairArrayGenerate (some [(ascii "a", ascii "b=c"), (ascii "d", [])]) =
    some text ∧ text = [0x3B].intercalate ([(ascii "a", ascii "b=c"), (ascii "d", [])].map pairText) ∧
      text.length = pairArrayLength [(ascii "a", ascii "b=c"), (ascii "d", [])] ∧
        pairArrayParse [] text = [(ascii "a", ascii "b=c"), (ascii "d", [])] := by
  refine pairArray_survives _ (forall_mem_cons.2 ⟨?_, forall_mem_singleton.2 ?_⟩)
  · exact ⟨⟨by decide, by decide, by decide⟩, by decide, by decide, by decide⟩
  · exact ⟨⟨by decide, by decide, by decide⟩, by decide, by decide, by decide⟩

theorem speechUnit_text : ∀ unit < speechUnitCount, ∃ name,
    stringTableStrGet speechUnitStringTable speechUnitCount unit = some name ∧ name ≠ [] ∧
      name.all (· != tokenSp) = true ∧ stringTableIdFind speechUnitStringTable speechUnitCount name = unit := by
  intro unit hu
  have hu : unit < 4 := hu
  interval_cases unit <;> exact ⟨_, rfl, by decide, by decide, by decide⟩

theorem numericSpeechLengthParse_text {numeric : NumericSpeechLength} (hu : numeric.unit < speechUnitCount)
    (hln : numeric.length < 2 ^ 63) (sign : UInt8) :
    ∃ text, numericSpeechLengthGenerate sign numeric = (sign :: text, true) ∧
      ∀ old, numericSpeechLengthParse old text = (numeric, true) := by
  obtain ⟨name, h, hne, hs, hf⟩ := speechUnit_text numeric.unit hu
  refine ⟨decimal numeric.length ++ tokenSp :: name, ?_, fun old => ?_⟩
  · rw [numericSpeechLengthGenerate, h]
    rfl
  · have hn : tokenSp ∉ name := fun hm => by simpa using all_eq_true.1 hs tokenSp hm
    have hl : IsField tokenSp name :=
      ⟨hne, fun hh => hn (mem_of_mem_head? hh), hn⟩
    have hd : IsField tokenSp (decimal numeric.length) := isField_decimal rfl numeric.length
    have hr := textFieldRead_sep hd
      (textStreamInit ⟨decimal numeric.length ++ tokenSp :: name, []⟩) rfl
    have he : EndsNumber (tokenSp :: name ++ []) := endsNumber_cons.2 rfl
    rw [numericSpeechLengthParse, hr]
    dsimp only
    rw [textFieldRead_last hl _ rfl]
    dsimp only
    rw [hf]
    show (({ length := sizeValueParse ⟨decimal numeric.length, tokenSp :: name ++ []⟩, unit := numeric.unit } :
      NumericSpeechLength), true) = _
    rw [sizeValueParse_decimal _ he, min_eq_left (by omega)]

/-- A speech length whose text stands for it: a tag is there and does not begin with a sign, a length fits a `long`. -/
def SpeechLengthWritable : SpeechLengthValue → Prop
  | .text tag => tag ≠ [] ∧ tag.head? ≠ some 0x2B ∧ tag.head? ≠ some 0x2D
  | .numericPositive numeric | .numericNegative numeric => numeric.length < 2 ^ 63 ∧ numeric.unit < speechUnitCount
  | .unknown => False

theorem speechLengthValueParse_generate {value : SpeechLengthValue} (h : SpeechLengthWritable value)
    (old : SpeechLengthValue) : (speechLengthValueParse old (speechLengthGenerate value).1).1 = value := by
  cases value with
  | text tag =>
    obtain ⟨hne, hp, hm⟩ := h
    obtain ⟨ch, tag, rfl⟩ := exists_cons_of_ne_nil hne
    have hp : ch ≠ 0x2B := fun heq => hp (congrArg some heq)
    have hm : ch ≠ 0x2D := fun heq => hm (congrArg some heq)
    simp [speechLengthGenerate, speechLengthValueParse, hp, hm]
  | numericPositive numeric =>
    obtain ⟨text, ht, hr⟩ := numericSpeechLengthParse_text h.2 h.1 0x2B
    simp [speechLengthGenerate, ht, speechLengthValueParse, hr]
  | numericNegative numeric =>
    obtain ⟨text, ht, hr⟩ := numericSpeechLengthParse_text h.2 h.1 0x2D
    simp [speechLengthGenerate, SpeechLengthValue.numeric, ht, speechLengthValueParse, hr]
  | unknown => exact h.elim

/-! ## Prosody -/

variable {value : ℚ}

theorem exists_floatText_nonneg (h : 0 ≤ value) :
    ∃ ch rest, floatValueGenerate value = ch :: rest ∧ isDigit ch := by
  obtain ⟨digits, ht, -, ch, rest, rfl, hc⟩ := exists_floatValueGenerate value
  rw [if_neg (not_lt.2 h), nil_append] at ht
  exact ⟨ch, rest, ht, hc⟩

theorem exists_floatText_neg (h : value < 0) : ∃ rest, floatValueGenerate value = 0x2D :: rest := by
  obtain ⟨digits, ht, -⟩ := exists_floatValueGenerate value
  rw [if_pos h] at ht
  exact ⟨digits, ht⟩

/-- A prosody volume whose text stands for it: a number is not negative, and a relative change is. -/
def ProsodyVolumeWritable : ProsodyVolume → Prop
  | .label label => label < prosodyVolumeCount
  | .numeric value => 0 ≤ value ∧ SixPlaces value
  | .relativeChange value => value < 0 ∧ SixPlaces value
  | .unknown => False

theorem prosodyVolumeParse_generate {value : ProsodyVolume} (h : ProsodyVolumeWritable value) (old : ProsodyVolume) :
    (prosodyVolumeParse old (prosodyVolumeGenerate value)).1 = value := by
  cases value with
  | label label =>
    have hl : label < 7 := h
    interval_cases label <;> rfl
  | numeric value =>
    obtain ⟨ch, rest, ht, hc⟩ := exists_floatText_nonneg h.1
    have hv := (floatValueParse_eq_iff value).2 h.2
    have hs : ¬ (ch = 0x2B ∨ ch = 0x2D) := by
      rintro (rfl | rfl) <;> exact absurd hc (by decide)
    rw [ht] at hv
    rw [prosodyVolumeGenerate, ht, prosodyVolumeParse, if_neg hs, if_pos hc, hv]
  | relativeChange value =>
    obtain ⟨rest, ht⟩ := exists_floatText_neg h.1
    have hv := (floatValueParse_eq_iff value).2 h.2
    rw [ht] at hv
    rw [prosodyVolumeGenerate, ht, prosodyVolumeParse, if_pos (Or.inr rfl), hv]
  | unknown => exact h.elim

/-- A prosody rate whose text stands for it: a relative change is not negative. -/
def ProsodyRateWritable : ProsodyRate → Prop
  | .label label => label < prosodyRateCount
  | .relativeChange value => 0 ≤ value ∧ SixPlaces value
  | .unknown => False

theorem prosodyRateParse_generate {value : ProsodyRate} (h : ProsodyRateWritable value) (old : ProsodyRate) :
    (prosodyRateParse old (prosodyRateGenerate value)).1 = value := by
  cases value with
  | label label =>
    have hl : label < 6 := h
    interval_cases label <;> rfl
  | relativeChange value =>
    obtain ⟨ch, rest, ht, hc⟩ := exists_floatText_nonneg h.1
    have hv := (floatValueParse_eq_iff value).2 h.2
    rw [ht] at hv
    rw [prosodyRateGenerate, ht, prosodyRateParse, if_pos hc, hv]
  | unknown => exact h.elim

/-! ## Values -/

/-- A percentage without a fraction, which fits a `long`. -/
def PercentageWritable (value : ℚ) : Prop := ∃ n : Nat, n < 2 ^ 63 ∧ value = n / 100

theorem sizeValueParseAsFloat_generate (h : PercentageWritable value) :
    sizeValueParseAsFloat (sizeValueGenerateFromFloat value) = value := by
  obtain ⟨n, hn, rfl⟩ := h
  have hf : ⌊((n : ℚ) / 100 + 1 / 1000) * 100⌋₊ = n := by
    rw [Nat.floor_eq_iff (by positivity)]
    constructor <;> linarith
  rw [sizeValueParseAsFloat, sizeValueGenerateFromFloat, hf, Nat.mod_eq_of_lt (by omega),
    (sizeValueParse_eq_iff n).2 hn]

/-- A value whose text stands for it, to be read in place of another value of its kind. -/
def TypedValue.Writable : TypedValue → TypedValue → Prop
  | .string _, .string _ => True
  | .size value, .size _ => value < 2 ^ 63
  | .decimal value, .decimal _ => SixPlaces value
  | .percentage value, .percentage _ => PercentageWritable value
  | .boolean _, .boolean _ => True
  | .voiceGender value, .voiceGender _ => value < voiceGenderCount
  | .cause table value, .cause table' _ => table = table' ∧ value < table.items.length
  | .character _, .character _ => True
  | .speechLength value, .speechLength _ => SpeechLengthWritable value
  | .prosodyVolume value, .prosodyVolume _ => ProsodyVolumeWritable value
  | .prosodyRate value, .prosodyRate _ => ProsodyRateWritable value
  | .requestIds value, .requestIds _ =>
    value.length ≤ maxActiveRequestIdCount ∧ (∀ id ∈ value, id < 2 ^ 32) ∧ RequestIdsFit value
  | .pairs value, .pairs old => old.getD [] = [] ∧ ∃ pairs, value = some pairs ∧ ∀ pair ∈ pairs, ProperPair pair
  | _, _ => False

/-- **A value is read back from its text.** -/
theorem parse_generate {value old : TypedValue} (h : value.Writable old) :
    old.parse value.generate = value ∧ value.Generates := by
  unfold TypedValue.Writable at h
  split at h
  · exact ⟨rfl, trivial⟩
  · exact ⟨congrArg _ ((sizeValueParse_eq_iff _).2 h), trivial⟩
  · exact ⟨congrArg _ ((floatValueParse_eq_iff _).2 h), trivial⟩
  · exact ⟨congrArg _ (sizeValueParseAsFloat_generate h), trivial⟩
  · exact ⟨congrArg _ (congrArg Prod.fst (booleanValueParse_generate _ _)), trivial⟩
  · next value _ =>
    have hv : value < 3 := h
    interval_cases value <;> exact ⟨rfl, trivial⟩
  · next table value _ _ =>
    obtain ⟨rfl, hv⟩ := h
    obtain ⟨text, ht, hp⟩ := sizeValueParse_completionCause hv le_rfl table.small
    have hs := table.small
    refine ⟨?_, hv⟩
    simp only [TypedValue.parse, TypedValue.generate, ht, Option.getD_some, completionCauseParse, hp]
    rw [Nat.mod_eq_of_lt (by omega)]
  · exact ⟨rfl, trivial⟩
  · exact ⟨congrArg _ (speechLengthValueParse_generate h _), trivial⟩
  · exact ⟨congrArg _ (prosodyVolumeParse_generate h _), trivial⟩
  · exact ⟨congrArg _ (prosodyRateParse_generate h _), trivial⟩
  · exact ⟨congrArg _ (requestIdListParse_generate h.1 h.2.1 h.2.2), trivial⟩
  · obtain ⟨ho, pairs, rfl, hpa⟩ := h
    refine ⟨?_, trivial⟩
    simp only [TypedValue.parse, TypedValue.generate, ho, pairArrayParse_generate hpa, nil_append]
  · exact h.elim

/-! ## Headers -/

/-- **A value survives the wire**: the other header parses what is generated for it, and keeps the values that it had.
-/
def Survives (kind : HeaderKind) (src dst : kind.Data) (id : Nat) : Prop :=
  (kind.vtable.generateField src id).2 = true ∧
    (kind.vtable.parseField dst id (kind.vtable.generateField src id).1).2 = true ∧
      ∃ value, (kind.values src)[id]? = some value ∧
        kind.values (kind.vtable.parseField dst id (kind.vtable.generateField src id).1).1 =
          (kind.values dst).set id value

/-- **Values survive the wire** in every header, if their text can stand for them. -/
theorem headerValue_survives (kind : HeaderKind) (src dst : kind.Data) (id : Nat) (value old : TypedValue)
    (hval : (kind.values src)[id]? = some value) (hold : (kind.values dst)[id]? = some old)
    (h : value.Writable old) : Survives kind src dst id := by
  have hcodes := headerKind_codes kind
  obtain ⟨hparse, hgenerates⟩ := parse_generate h
  obtain ⟨htext, hgenerated⟩ := hcodes.generate src id value hval
  have hid : id < kind.vtable.fieldCount := by
    rw [← hcodes.length src]
    exact (List.getElem?_eq_some_iff.1 hval).1
  obtain ⟨hparsed, hvalues⟩ := hcodes.parse dst id (kind.vtable.generateField src id).1 hid
  refine ⟨hgenerated hgenerates, hparsed, value, hval, ?_⟩
  rw [hvalues, htext, modify_eq_set_getElem?, hold]
  exact congrArg ((kind.values dst).set id) hparse

/-- A jump of ten words survives. -/
theorem headerValue_survives_jump :
    Survives .synthesizer { jumpSize := .numericPositive ⟨10, 1⟩ } { killOnBargeIn := true } 0 :=
  headerValue_survives .synthesizer _ _ 0 (.speechLength (.numericPositive ⟨10, 1⟩)) (.speechLength .unknown) rfl rfl
    ⟨by decide, by decide⟩

theorem parse_of_survives {kind : HeaderKind} {src dst : kind.Data} {id : Nat} {value old : TypedValue}
    (h : Survives kind src dst id) (hv : (kind.values src)[id]? = some value)
    (ho : (kind.values dst)[id]? = some old) : old.parse value.generate = value := by
  have hc := headerKind_codes kind
  obtain ⟨-, -, value', hv', hl⟩ := h
  obtain rfl : value = value' := Option.some.inj (hv.symm.trans hv')
  obtain ⟨ht, -⟩ := hc.generate src id value hv
  have hid : id < kind.vtable.fieldCount := by
    rw [← hc.length src]
    exact (List.getElem?_eq_some_iff.1 hv).1
  rw [(hc.parse dst id _ hid).2, ht, modify_eq_set_getElem?, ho] at hl
  have hd : id < (kind.values dst).length := (List.getElem?_eq_some_iff.1 ho).1
  have ha := congrArg (·[id]?) hl
  simpa [hd] using ha

/-- **Not every value survives**: the text does not tell a tag with a sign from a number of units, a negative volume
from a relative change, a negative rate from a label, or a separator within a value from one behind it; an empty tag has
no text; a size is read as a `long`, a percentage has no fraction and a decimal number six places; what is read of pairs
is added. A list of request-ids is cut off and a positive relative change read as a volume. -/
theorem not_headerValue_survives :
    ¬ Survives .synthesizer { jumpSize := .text (ascii "+now") } {} 0 ∧
    ¬ Survives .synthesizer { jumpSize := .text [] } {} 0 ∧
    ¬ Survives .synthesizer { voiceParam.age := 2 ^ 63 } {} 6 ∧
    ¬ Survives .synthesizer { prosodyParam.volume := .numeric (-1) } {} 9 ∧
    ¬ Survives .synthesizer { prosodyParam.rate := .relativeChange (-1) } {} 10 ∧
    ¬ Survives .recorder { sensitivityLevel := 1 / 10 ^ 7 } {} 0 ∧
    ¬ Survives (.recognizer .v1) { confidenceThreshold := 505 / 1000 } {} 0 ∧
    ¬ Survives .generic { vendorSpecificParams := some [(ascii "a", ascii "1;2")] } {} 11 ∧
    ¬ Survives .generic { vendorSpecificParams := some [(ascii "a", ascii "1")] }
      { vendorSpecificParams := some [(ascii "a", ascii "1")] } 11 ∧
    ¬ Survives .generic { activeRequestIdList := [10 ^ 9] } {} 0 ∧
    ¬ Survives .synthesizer { prosodyParam.volume := .relativeChange 1 } {} 9 := by
  refine ⟨fun h => ?_, fun h => ?_, fun h => ?_, fun h => ?_, fun h => ?_, fun h => ?_, fun h => ?_, fun h => ?_,
    fun h => ?_, fun h => ?_, fun h => ?_⟩ <;> have hparse := parse_of_survives h rfl rfl
  · exact absurd (TypedValue.speechLength.inj hparse) (by decide)
  · exact absurd (TypedValue.speechLength.inj hparse) (by decide)
  · exact absurd ((sizeValueParse_eq_iff _).1 (TypedValue.size.inj hparse)) (by decide)
  · exact absurd (TypedValue.prosodyVolume.inj hparse) (by decide +kernel)
  · exact absurd (TypedValue.prosodyRate.inj hparse) (by decide +kernel)
  · exact absurd (TypedValue.decimal.inj hparse) (by decide +kernel)
  · exact absurd (TypedValue.percentage.inj hparse) (by decide +kernel)
  · exact absurd (TypedValue.pairs.inj hparse) (by decide +kernel)
  · exact absurd (TypedValue.pairs.inj hparse) (by decide +kernel)
  · exact absurd (TypedValue.requestIds.inj hparse) (by decide +kernel)
  · exact absurd (TypedValue.prosodyVolume.inj hparse) (by decide +kernel)

end UniMrcp.Mrcp
