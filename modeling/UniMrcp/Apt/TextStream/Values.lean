import Mathlib.Data.List.Induction
import Mathlib.Data.Rat.Floor
import UniMrcp.Apt.TextOutput
import UniMrcp.Apt.TextStream.Fields

/-!
# The values of header fields

What the toolkit reads from the text of a value and writes into it. A `float` is an exact decimal number.
-/

namespace UniMrcp.Apt

open List

open Mrcp (decimal digit_of_mem_decimal length_decimal_pos length_decimal_le_iff)

def tokenTrue : Bytes := ascii "true"
def tokenFalse : Bytes := ascii "false"

/-- `apt_boolean_value_parse`, which leaves the value as it is if it does not find one. -/
def booleanValueParse (str : Bytes) (value : Bool) : Bool × Bool :=
  if (str.take tokenTrue.length).map toLower = tokenTrue then (true, true)
  else if (str.take tokenFalse.length).map toLower = tokenFalse then (false, true)
  else (value, false)

def booleanValueGenerate (value : Bool) : Bytes := if value then tokenTrue else tokenFalse

theorem booleanValueParse_generate (value old : Bool) :
    booleanValueParse (booleanValueGenerate value) old = (value, true) := by
  cases value <;> rfl

def exponentValue : Bytes → Int
  | [] => 0
  | ch :: rest =>
    if ch = 0x65 ∨ ch = 0x45 then
      match rest with
      | 0x2D :: rest => -digitsValue 0 rest
      | 0x2B :: rest => digitsValue 0 rest
      | rest => digitsValue 0 rest
    else 0

/-- A decimal number without its sign: digits, a fraction and an exponent. -/
def decimalValue (text : Bytes) : ℚ :=
  let whole := text.takeWhile isDigit
  let rest := text.dropWhile isDigit
  let isPoint := rest.head? = some 0x2E
  let fraction := if isPoint then rest.tail.takeWhile isDigit else []
  let exponent := if isPoint then rest.tail.dropWhile isDigit else rest
  if whole ++ fraction = [] then 0
  else digitsValue 0 (whole ++ fraction) / 10 ^ fraction.length * 10 ^ exponentValue exponent

/-- `atof`: white space, a sign and a decimal number. -/
def atof (text : Bytes) : ℚ :=
  match text.dropWhile isSpace with
  | 0x2D :: rest => -decimalValue rest
  | 0x2B :: rest => decimalValue rest
  | rest => decimalValue rest

def floatValueParse (str : Str) : ℚ := atof (str.bytes ++ str.beyond)

def paddedDecimal (width n : Nat) : Bytes := List.replicate (width - (decimal n).length) 0x30 ++ decimal n

/-- The millionths of a number that `%f` writes. -/
def millionths (value : ℚ) : Nat := ⌊|value| * 10 ^ 6 + 1 / 2⌋₊

/-- `apr_psprintf` with `%f`. -/
def floatText (value : ℚ) : Bytes :=
  (if value < 0 then [0x2D] else []) ++
    (decimal (millionths value / 10 ^ 6) ++ 0x2E :: paddedDecimal 6 (millionths value % 10 ^ 6))

/-- The loop of `apt_float_value_generate` that removes trailing zeros, over the text from its end. -/
def trailingZerosRemove : Bytes → Bytes
  | last :: ch :: rest =>
    if last = 0x30 ∧ ch ≠ 0x2E then trailingZerosRemove (ch :: rest) else last :: ch :: rest
  | text => text

def floatValueGenerate (value : ℚ) : Bytes := (trailingZerosRemove (floatText value).reverse).reverse

/-! ## Decimal numbers that are read back -/

def AllDigits (digits : Bytes) : Prop := ∀ ch ∈ digits, isDigit ch

theorem AllDigits.append {digits digits' : Bytes} (h : AllDigits digits) (h' : AllDigits digits') :
    AllDigits (digits ++ digits') := by
  intro ch hc
  rcases mem_append.1 hc with hc | hc
  · exact h ch hc
  · exact h' ch hc

theorem allDigits_replicate (k : Nat) : AllDigits (List.replicate k 0x30) := by
  intro ch hc
  rw [(mem_replicate.1 hc).2]
  decide

theorem allDigits_decimal (n : Nat) : AllDigits (decimal n) := by
  intro ch hc
  simpa [isDigit, UInt8.le_iff_toNat_le] using digit_of_mem_decimal hc

theorem allDigits_paddedDecimal (width n : Nat) : AllDigits (paddedDecimal width n) :=
  (allDigits_replicate _).append (allDigits_decimal n)

variable {digits : Bytes}

theorem digitsValue_append (h : AllDigits digits) (acc : Nat) (rest : Bytes) :
    digitsValue acc (digits ++ rest) = digitsValue (acc * 10 ^ digits.length + digitsValue 0 digits) rest := by
  induction digits using List.reverseRecOn generalizing acc rest with
  | nil => simp [digitsValue]
  | append_singleton digits ch ih =>
    have hd : AllDigits digits := fun ch hc => h ch (mem_append_left _ hc)
    have hc : isDigit ch = true := h ch (by simp)
    rw [append_assoc, ih hd, ih hd 0 [ch], singleton_append]
    simp only [digitsValue, hc, if_true, length_append, length_singleton, pow_succ]
    congr 1
    ring

theorem digitsValue_allDigits (h : AllDigits digits) (acc : Nat) :
    digitsValue acc digits = acc * 10 ^ digits.length + digitsValue 0 digits := by
  simpa [digitsValue] using digitsValue_append h acc []

theorem digitsValue_replicate (k : Nat) : digitsValue 0 (List.replicate k 0x30) = 0 := by
  induction k with
  | zero => rfl
  | succ k ih => exact ih

theorem digitsValue_paddedDecimal (width n : Nat) : digitsValue 0 (paddedDecimal width n) = n := by
  have hz := digitsValue_append (allDigits_replicate (width - (decimal n).length)) 0 (decimal n)
  have hd := digitsValue_decimal n endsNumber_nil
  rw [paddedDecimal, hz, digitsValue_replicate, Nat.zero_mul]
  simpa using hd

theorem length_paddedDecimal {width n : Nat} (hw : 0 < width) (h : n < 10 ^ width) :
    (paddedDecimal width n).length = width := by
  have hle := (length_decimal_le_iff hw).2 h
  simp only [paddedDecimal, length_append, length_replicate]
  omega

theorem takeWhile_allDigits (h : AllDigits digits) {rest : Bytes} (hr : EndsNumber rest) :
    (digits ++ rest).takeWhile isDigit = digits ∧ (digits ++ rest).dropWhile isDigit = rest := by
  rw [takeWhile_append_of_pos h, dropWhile_append_of_pos h]
  cases rest with
  | nil => simp
  | cons ch rest =>
    have hc := endsNumber_cons.1 hr
    simp [hc]

theorem decimalValue_point {whole fraction : Bytes} (hw : AllDigits whole) (hf : AllDigits fraction)
    (hne : fraction ≠ []) :
    decimalValue (whole ++ 0x2E :: fraction) = digitsValue 0 (whole ++ fraction) / 10 ^ fraction.length := by
  obtain ⟨hk, hd⟩ := takeWhile_allDigits hw (endsNumber_cons.2 rfl : EndsNumber (0x2E :: fraction))
  have ht : fraction.takeWhile isDigit = fraction ∧ fraction.dropWhile isDigit = [] := by
    simpa using takeWhile_allDigits hf endsNumber_nil
  simp [decimalValue, hk, hd, ht.1, ht.2, hne, exponentValue]

theorem exists_trailingZerosRemove (front : Bytes) {fraction : Bytes} (h : AllDigits fraction) (hne : fraction ≠ []) :
    ∃ kept k, kept ≠ [] ∧ fraction = kept ++ List.replicate k 0x30 ∧
      (trailingZerosRemove (front ++ 0x2E :: fraction).reverse).reverse = front ++ 0x2E :: kept := by
  induction fraction using List.reverseRecOn with
  | nil => exact absurd rfl hne
  | append_singleton digits last ih =>
    have hd : AllDigits digits := fun ch hc => h ch (mem_append_left _ hc)
    rcases eq_nil_or_concat digits with rfl | ⟨digits', ch, rfl⟩
    · exact ⟨[last], 0, by simp, by simp, by simp [trailingZerosRemove]⟩
    · rw [concat_eq_append] at *
      by_cases hl : last = 0x30
      · have hc : ch ≠ 0x2E := by
          rintro rfl
          exact absurd (hd 0x2E (by simp)) (by decide)
        obtain ⟨kept, k, hk, hs, hr⟩ := ih hd (by simp)
        refine ⟨kept, k + 1, hk, ?_, ?_⟩
        · rw [hs, hl, append_assoc, replicate_succ']
        · rw [← hr]
          simp [trailingZerosRemove, hl, hc]
      · exact ⟨digits' ++ [ch] ++ [last], 0, by simp, by simp, by simp [trailingZerosRemove, hl]⟩

variable (value : ℚ)

theorem exists_floatValueGenerate : ∃ digits, floatValueGenerate value =
      (if value < 0 then [0x2D] else []) ++ digits ∧ decimalValue digits = millionths value / 10 ^ 6 ∧
      ∃ ch rest, digits = ch :: rest ∧ isDigit ch := by
  set m := millionths value with hm
  have h : m % 10 ^ 6 < 10 ^ 6 := Nat.mod_lt _ (by decide)
  have hl : (paddedDecimal 6 (m % 10 ^ 6)).length = 6 := length_paddedDecimal (by decide) h
  have hp := allDigits_paddedDecimal 6 (m % 10 ^ 6)
  have hne : paddedDecimal 6 (m % 10 ^ 6) ≠ [] := ne_nil_of_length_pos (by omega)
  have hw := allDigits_decimal (m / 10 ^ 6)
  obtain ⟨kept, k, hke, hs, hr⟩ := exists_trailingZerosRemove
    ((if value < 0 then [0x2D] else []) ++ decimal (m / 10 ^ 6)) hp hne
  have hk : AllDigits kept := fun ch hc => hp ch (by rw [hs]; exact mem_append_left _ hc)
  refine ⟨decimal (m / 10 ^ 6) ++ 0x2E :: kept, ?_, ?_, ?_⟩
  · rw [floatValueGenerate, floatText, ← hm, ← append_assoc, hr, append_assoc]
  · have hv : digitsValue 0 (decimal (m / 10 ^ 6) ++ kept) * 10 ^ k = m := by
      have ha := digitsValue_append hw 0 (paddedDecimal 6 (m % 10 ^ 6))
      have hz := digitsValue_append (hw.append hk) 0 (List.replicate k 0x30)
      rw [append_assoc, ← hs, ha] at hz
      rw [digitsValue_allDigits hp, digitsValue_paddedDecimal, hl,
        digitsValue_allDigits (allDigits_replicate k), digitsValue_replicate, length_replicate,
        show digitsValue 0 (decimal (m / 10 ^ 6)) = m / 10 ^ 6 by
          simpa only [append_nil] using digitsValue_decimal (m / 10 ^ 6) endsNumber_nil] at hz
      simp only [Nat.zero_mul, Nat.zero_add, Nat.add_zero] at hz
      omega
    have hpl : kept.length + k = 6 := by
      rw [hs] at hl
      simpa using hl
    rw [decimalValue_point hw hk hke]
    generalize digitsValue 0 (decimal (m / 10 ^ 6) ++ kept) = digits at hv
    rw [← hv, ← hpl, div_eq_div_iff (by positivity) (by positivity), pow_add]
    push_cast
    ring
  · obtain ⟨ch, rest, hn, hc⟩ := exists_decimal_cons (m / 10 ^ 6)
    exact ⟨ch, rest ++ 0x2E :: kept, by rw [hn, cons_append], hc⟩

theorem floatValueParse_generate :
    floatValueParse ⟨floatValueGenerate value, []⟩ =
      if value < 0 then -((millionths value : ℚ) / 10 ^ 6) else (millionths value : ℚ) / 10 ^ 6 := by
  obtain ⟨digits, ht, hv, ch, rest, rfl, hc⟩ := exists_floatValueGenerate value
  rw [floatValueParse, ht, ← hv, append_nil]
  split_ifs with hn
  · rfl
  · have hs : (ch :: rest).dropWhile isSpace = ch :: rest := by simp [isSpace_of_isDigit hc]
    rw [nil_append]
    unfold atof
    rw [hs]
    split
    · next heq => simp_all [isDigit]
    · next heq => simp_all [isDigit]
    · rfl

def SixPlaces (value : ℚ) : Prop := ∃ n : Int, value = n / 10 ^ 6

theorem floatValueParse_eq_iff : floatValueParse ⟨floatValueGenerate value, []⟩ = value ↔ SixPlaces value := by
  rw [floatValueParse_generate]
  constructor
  · intro h
    rw [← h]
    split_ifs
    · exact ⟨-(millionths value : Int), by push_cast; ring⟩
    · exact ⟨(millionths value : Int), by push_cast; rfl⟩
  · rintro ⟨n, rfl⟩
    have hm : millionths ((n : ℚ) / 10 ^ 6) = n.natAbs := by
      unfold millionths
      have ha : |((n : ℚ) / 10 ^ 6)| * 10 ^ 6 = (n.natAbs : ℚ) := by
        rw [abs_div, abs_of_pos (by positivity : (0 : ℚ) < 10 ^ 6), div_mul_cancel₀ _ (by positivity)]
        rw [Nat.cast_natAbs, Int.cast_abs]
      rw [ha, Nat.floor_eq_iff (by positivity)]
      constructor <;> norm_num
    rw [hm]
    have hg : (n : ℚ) / 10 ^ 6 < 0 ↔ n < 0 := by
      rw [div_lt_iff₀ (by positivity), zero_mul, Int.cast_lt_zero]
    rw [Nat.cast_natAbs]
    split_ifs with hn
    · rw [abs_of_neg (hg.1 hn)]
      push_cast
      ring
    · rw [abs_of_nonneg (by simpa using mt hg.2 hn)]

/-- `apt_completion_cause_generate`: three digits, a space and the name of the cause. -/
def completionCauseGenerate (table : List StrTableItem) (size cause : Nat) : Option Bytes :=
  (stringTableStrGet table size cause).bind fun name =>
    let digits := paddedDecimal 3 cause ++ [tokenSp]
    if digits.length = 4 then some (digits ++ name) else none

/-- A completion cause that is read as a number: `apt_size_value_parse`, assigned to an enumeration of 32 bits. -/
def completionCauseParse (value : Bytes) : Nat := sizeValueParse ⟨value, []⟩ % 2 ^ 32

theorem atol_allDigits (h : AllDigits digits) (hne : digits ≠ []) {rest : Bytes} (hr : EndsNumber rest) :
    atol (digits ++ rest) = (min (digitsValue 0 digits) (2 ^ 63 - 1) : Nat) := by
  obtain ⟨ch, digits, rfl⟩ := exists_cons_of_ne_nil hne
  have hc := h ch mem_cons_self
  have hs : (ch :: digits ++ rest).dropWhile isSpace = ch :: (digits ++ rest) := by
    simp [isSpace_of_isDigit hc]
  have hv : digitsValue 0 (ch :: (digits ++ rest)) = digitsValue 0 (ch :: digits) := by
    rw [← cons_append, digitsValue_append h, digitsValue_of_endsNumber hr]
    simp
  unfold atol
  rw [hs]
  split
  · next heq => simp_all [isDigit]
  · next heq => simp_all [isDigit]
  · rw [hv]

theorem sizeValueParse_completionCause {table : List StrTableItem} {size cause : Nat} (hc : cause < size)
    (hz : size ≤ table.length) (hm : table.length ≤ 1000) :
    ∃ text, completionCauseGenerate table size cause = some text ∧ sizeValueParse ⟨text, []⟩ = cause := by
  have hl : (paddedDecimal 3 cause).length = 3 := length_paddedDecimal (by decide) (by omega)
  have hi : cause < table.length := by omega
  refine ⟨paddedDecimal 3 cause ++ tokenSp :: table[cause].value, ?_, ?_⟩
  · simp [completionCauseGenerate, stringTableStrGet, hc, hl, List.getElem?_eq_getElem hi]
  · have hs : EndsNumber (tokenSp :: table[cause].value) := endsNumber_cons.2 rfl
    have hne : paddedDecimal 3 cause ≠ [] := ne_nil_of_length_pos (by omega)
    rw [sizeValueParse, append_nil, atol_allDigits (allDigits_paddedDecimal 3 cause) hne hs,
      digitsValue_paddedDecimal]
    omega

end UniMrcp.Apt
