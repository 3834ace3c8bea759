import Mathlib.Data.List.TakeWhile
import UniMrcp.Mrcp.ActiveRequestIds.Text

/-!
# Reading what was written

Numbers in decimal and fields with separators between them, when they are read back.
-/

namespace UniMrcp.Apt

open Lib List Bool
open Mrcp (decimal digit_of_mem_decimal length_decimal_pos)

/-! ## Numbers -/

def EndsNumber (rest : Bytes) : Prop := ∀ ch, rest.head? = some ch → isDigit ch = false

@[simp] theorem endsNumber_nil : EndsNumber [] := by simp [EndsNumber]

variable {rest : Bytes}

variable {ch : UInt8}

@[simp] theorem endsNumber_cons : EndsNumber (ch :: rest) ↔ isDigit ch = false := by
  simp [EndsNumber]

theorem digitsValue_of_endsNumber (h : EndsNumber rest) (acc : Nat) : digitsValue acc rest = acc := by
  cases rest with
  | nil => rfl
  | cons ch rest => simp [digitsValue, endsNumber_cons.1 h]

theorem isDigit_digit {c : Char} (h : c.isDigit) :
    isDigit (UInt8.ofNat c.toNat) ∧ (UInt8.ofNat c.toNat - 0x30).toNat = c.toNat - 48 := by
  simp only [Char.isDigit, and_eq_true, decide_eq_true_eq] at h
  have hl : 48 ≤ c.toNat := h.1
  have hh : c.toNat ≤ 57 := h.2
  have hb : (UInt8.ofNat c.toNat).toNat = c.toNat := UInt8.toNat_ofNat_of_lt' (by show c.toNat < 256; omega)
  constructor
  · simp only [isDigit, and_eq_true, decide_eq_true_eq, UInt8.le_iff_toNat_le, hb]
    exact ⟨hl, hh⟩
  · rw [UInt8.toNat_sub_of_le _ _ (UInt8.le_iff_toNat_le.2 (by rw [hb]; exact hl)), hb]
    rfl

theorem digitsValue_digits {digits : List Char} (h : ∀ c ∈ digits, c.isDigit) (acc : Nat) (rest : Bytes) :
    digitsValue acc (digits.map (fun c => UInt8.ofNat c.toNat) ++ rest) =
      digitsValue (Nat.ofDigitChars 10 digits acc) rest := by
  induction digits generalizing acc with
  | nil => simp
  | cons c digits ih =>
    obtain ⟨hd, hv⟩ := isDigit_digit (h c mem_cons_self)
    have hr := ih fun c hc => h c (mem_cons_of_mem _ hc)
    have ha : acc * 10 + (c.toNat - 48) = 10 * acc + (c.toNat - '0'.toNat) := by
      rw [Nat.mul_comm]
      rfl
    rw [map_cons, cons_append, digitsValue, if_pos hd, hv, hr, Nat.ofDigitChars_cons, ha]

variable (n : Nat)

theorem digitsValue_decimal (h : EndsNumber rest) : digitsValue 0 (decimal n ++ rest) = n := by
  have hd : ∀ c ∈ Nat.toDigits 10 n, c.isDigit := fun c hc =>
    Nat.isDigit_of_mem_toDigits (by decide) (by decide) hc
  rw [decimal, digitsValue_digits hd, Nat.ofDigitChars_toDigits (by decide) (by decide),
    digitsValue_of_endsNumber h]

theorem exists_decimal_cons : ∃ ch digits, decimal n = ch :: digits ∧ isDigit ch := by
  cases hn : decimal n with
  | nil => exact absurd (length_decimal_pos n) (by simp [hn])
  | cons ch digits =>
    have hc := digit_of_mem_decimal (n := n) (b := ch) (by simp [hn])
    refine ⟨ch, digits, rfl, ?_⟩
    simpa [isDigit, UInt8.le_iff_toNat_le] using hc

theorem isSpace_of_isDigit (h : isDigit ch) : isSpace ch = false := by
  simp only [isDigit, and_eq_true, decide_eq_true_eq, UInt8.le_iff_toNat_le, UInt8.reduceToNat] at h
  simp only [isSpace, tokenSp, or_eq_false_iff, beq_eq_false_iff_ne, ne_eq, and_eq_false_imp,
    decide_eq_true_eq, decide_eq_false_iff_not, UInt8.le_iff_toNat_le, UInt8.reduceToNat, ← UInt8.toNat_inj]
  omega

theorem atol_decimal (h : EndsNumber rest) : atol (decimal n ++ rest) = (min n (2 ^ 63 - 1) : Nat) := by
  have hv := digitsValue_decimal n h
  obtain ⟨ch, digits, hn, hc⟩ := exists_decimal_cons n
  have hs : (decimal n ++ rest).dropWhile isSpace = ch :: (digits ++ rest) := by
    simp [hn, isSpace_of_isDigit hc]
  rw [hn, cons_append] at hv
  unfold atol
  rw [hs]
  split
  · next heq => simp_all [isDigit]
  · next heq => simp_all [isDigit]
  · rw [hv]

theorem sizeValueParse_decimal {beyond : Bytes} (h : EndsNumber beyond) :
    sizeValueParse ⟨decimal n, beyond⟩ = min n (2 ^ 63 - 1) := by
  rw [sizeValueParse, atol_decimal n h]
  omega

theorem sizeValueParse_eq_iff : sizeValueParse ⟨decimal n, []⟩ = n ↔ n < 2 ^ 63 := by
  rw [sizeValueParse_decimal n endsNumber_nil]
  omega

/-! ## Fields -/

/-- A field that is read as it is: there is something in it, it does not begin with a space, and the separator is not
in it. -/
structure IsField (separator : UInt8) (field : Bytes) : Prop where
  nonempty : field ≠ []
  noSpace : field.head? ≠ some tokenSp
  noSeparator : separator ∉ field

theorem isField_decimal {separator : UInt8} (hs : isDigit separator = false) (n : Nat) :
    IsField separator (decimal n) := by
  obtain ⟨ch, digits, hn, hc⟩ := exists_decimal_cons n
  refine ⟨by simp [hn], ?_, fun hm => ?_⟩
  · rw [hn, List.head?_cons]
    rintro heq
    obtain rfl := Option.some.inj heq
    exact absurd hc (by decide)
  · obtain ⟨hl, hh⟩ := digit_of_mem_decimal hm
    simp only [isDigit, and_eq_false_imp, decide_eq_true_eq, decide_eq_false_iff_not,
      UInt8.le_iff_toNat_le] at hs
    exact hs hl hh

variable {separator : UInt8} {field : Bytes}

theorem IsField.dropWhile (h : IsField separator field) (rest : Bytes) :
    (field ++ rest).dropWhile (· == tokenSp) = field ++ rest := by
  obtain ⟨hn, hs, -⟩ := h
  cases field with
  | nil => exact absurd rfl hn
  | cons ch field =>
    have hc : (ch == tokenSp) = false := by simpa using hs
    simp [hc]

theorem takeWhile_of_notMem (h : separator ∉ field) (rest : Bytes) :
    (field ++ separator :: rest).takeWhile (· != separator) = field := by
  have hf : ∀ ch ∈ field, (ch != separator) := fun ch hc =>
    bne_iff_ne.2 fun heq => h (heq ▸ hc)
  rw [takeWhile_append_of_pos hf]
  simp

theorem takeWhile_of_notMem_last (h : separator ∉ field) : field.takeWhile (· != separator) = field :=
  takeWhile_eq_self_iff.2 fun _ hc => bne_iff_ne.2 fun heq => h (heq ▸ hc)

theorem textFieldRead_sep (h : IsField separator field) (s : TextStream) (hs : s.rest = field ++ separator :: rest) :
    textFieldRead s separator =
      ({ s with done := s.done ++ field ++ [separator], rest := rest },
        some ⟨field, separator :: rest ++ s.beyond⟩) := by
  simp only [textFieldRead, hs, h.dropWhile, takeWhile_of_notMem h.noSeparator, TextStream.advanceTo,
    drop_left, drop_one, tail_cons, h.nonempty, if_false, length_append, length_cons]
  have ht : (field ++ separator :: rest).take (field.length + (rest.length + 1) - rest.length) =
      field ++ [separator] := by
    rw [take_append, take_of_length_le (by omega)]
    simp [show field.length + (rest.length + 1) - rest.length - field.length = 1 by omega]
  rw [ht, append_assoc]

theorem textFieldRead_last (h : IsField separator field) (s : TextStream) (hs : s.rest = field) :
    textFieldRead s separator =
      ({ s with done := s.done ++ field, rest := [] }, some ⟨field, s.beyond⟩) := by
  have hd : field.dropWhile (· == tokenSp) = field := by simpa using h.dropWhile []
  simp [textFieldRead, hs, hd, takeWhile_of_notMem_last h.noSeparator, TextStream.advanceTo, h.nonempty]

theorem textFieldRead_init (h : IsField separator field) (beyond : Bytes) :
    textFieldRead (textStreamInit ⟨field, beyond⟩) separator =
      (⟨field, [], beyond, false⟩, some ⟨field, beyond⟩) :=
  textFieldRead_last h (textStreamInit ⟨field, beyond⟩) rfl

theorem textFieldRead_nil (s : TextStream) (hs : s.rest = []) : textFieldRead s separator = (s, none) := by
  cases s
  simp_all [textFieldRead, TextStream.advanceTo]

/-! ## Loops over fields -/

variable {σ : Type*} {parse : σ → Str → σ}

def fieldsStep (separator : UInt8) (parse : σ → Str → σ) (a : σ × TextStream) : σ ⊕ (σ × TextStream) :=
  match textFieldRead a.2 separator with
  | (_, none) => .inl a.1
  | (stream, some field) => .inr (parse a.1 field, stream)

def fieldsRead (separator : UInt8) (parse : σ → Str → σ) (a : σ) (stream : TextStream) : σ :=
  whileLoop (fieldsStep separator parse) Prod.fst (fun a => a.2.rest.length) (a, stream)

theorem textFieldRead_lt {s s' : TextStream} {str : Str} (h : textFieldRead s separator = (s', some str)) :
    s'.rest.length < s.rest.length := by
  simp only [textFieldRead, Prod.mk.injEq] at h
  obtain ⟨rfl, hf⟩ := h
  split at hf
  · exact absurd hf (by simp)
  · next hne =>
    have hs := (dropWhile_suffix (· == tokenSp) (l := s.rest)).length_le
    have hf := (takeWhile_sublist (· != separator) (l := s.rest.dropWhile (· == tokenSp))).length_le
    have hp := length_pos_of_ne_nil hne
    simp only [TextStream.advanceTo, length_drop]
    omega

theorem fieldsStep_lowers : Lowers (fieldsStep separator parse) fun a => a.2.rest.length := by
  intro a a' h
  unfold fieldsStep at h
  split at h
  · exact absurd h (by simp)
  · next heq =>
    obtain rfl := Sum.inr.inj h
    exact textFieldRead_lt heq

theorem fieldsRead_none {a : σ} {s s' : TextStream} (h : textFieldRead s separator = (s', none)) :
    fieldsRead separator parse a s = a :=
  whileLoop_inl fieldsStep_lowers (by simp [fieldsStep, h])

theorem fieldsRead_some {a : σ} {s s' : TextStream} {str : Str} (h : textFieldRead s separator = (s', some str)) :
    fieldsRead separator parse a s = fieldsRead separator parse (parse a str) s' :=
  whileLoop_inr fieldsStep_lowers (by simp [fieldsStep, h])

theorem fieldsRead_intercalate {g : σ → Bytes → σ} {fields : List Bytes} (hl : ∀ f ∈ fields, IsField separator f)
    (s : TextStream) (hs : s.rest = [separator].intercalate fields)
    (hp : ∀ a f beyond, f ∈ fields → (beyond = s.beyond ∨ beyond.head? = some separator) →
      parse a ⟨f, beyond⟩ = g a f) (a : σ) :
    fieldsRead separator parse a s = fields.foldl g a := by
  induction fields generalizing s a with
  | nil => exact fieldsRead_none (textFieldRead_nil s hs)
  | cons f fields ih =>
    have hf := hl f mem_cons_self
    cases fields with
    | nil =>
      have hr := textFieldRead_last hf s (by simpa using hs)
      rw [fieldsRead_some hr, hp a f _ mem_cons_self (.inl rfl), fieldsRead_none (textFieldRead_nil _ rfl)]
      rfl
    | cons f' fields =>
      rw [intercalate_cons_cons, append_assoc, singleton_append] at hs
      have hr := textFieldRead_sep hf s hs
      rw [fieldsRead_some hr, hp a f _ mem_cons_self (.inr rfl), foldl_cons]
      apply ih
      · exact fun f hf => hl f (mem_cons_of_mem _ hf)
      · rfl
      · exact fun a f beyond hf => hp a f beyond (mem_cons_of_mem _ hf)

theorem intercalate_cons_eq (separator : UInt8) (f : Bytes) (fields : List Bytes) :
    [separator].intercalate (f :: fields) = f ++ fields.flatMap (separator :: ·) := by
  induction fields generalizing f with
  | nil => simp
  | cons f' fields ih => simp [intercalate_cons_cons, ih]

end UniMrcp.Apt
