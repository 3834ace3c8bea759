import UniMrcp.Apt.TextMessage.RoundTrip
import UniMrcp.Apt.TextStream.Fields
import UniMrcp.Mrcp.StartLine.Generator

/-!
# Start lines on the wire

A request-id, which is printed as a signed number, is read back, and so is a start line.
-/

namespace UniMrcp.Mrcp

open Apt List
open Option (bind_eq_bind bind_some)

theorem requestIdParse_text {id : Nat} (hid : id < 2 ^ 32) {beyond : Bytes} (he : EndsNumber beyond) :
    requestIdParse ⟨requestIdText id, beyond⟩ = id := by
  unfold requestIdText
  split_ifs with hp
  · rw [requestIdParse, sizeValueParse_decimal id he]
    omega
  · have hv := digitsValue_decimal (2 ^ 32 - id) he
    have ha : atol (0x2D :: (decimal (2 ^ 32 - id) ++ beyond)) = -((2 ^ 32 - id : Nat) : Int) := by
      show -((min (digitsValue 0 (decimal (2 ^ 32 - id) ++ beyond)) (2 ^ 63) : Nat) : Int) = _
      rw [hv, min_eq_left (by omega)]
    rw [requestIdParse, sizeValueParse, List.cons_append, ha]
    omega

theorem isField_requestIdText {separator : UInt8} (hd : isDigit separator = false) (hm : separator ≠ 0x2D)
    (id : Nat) : IsField separator (requestIdText id) := by
  unfold requestIdText
  split_ifs
  · exact isField_decimal hd id
  · have hg : IsField separator (decimal (2 ^ 32 - id)) := isField_decimal hd _
    refine ⟨by simp, by simp [tokenSp], ?_⟩
    simpa [hm] using hg.noSeparator

theorem oneLine_decimal (n : Nat) : OneLine (decimal n) := fun ch hc => by
  have hd := (digit_of_mem_decimal hc).1
  constructor <;> (rintro rfl; exact absurd hd (by decide))

/-! ## Start lines -/

structure IsMethodName (name : Bytes) : Prop where
  field : IsField tokenSp name
  oneLine : OneLine name
  begins : ∀ ch ∈ name.head?, isSpace ch = false ∧ isDigit ch = false ∧ ch ≠ 0x2D ∧ ch ≠ 0x2B
  noVersion : ¬mrcpName <+: name

/-- The start lines that may be sent. -/
def StartLine.Proper (startLine : StartLine) : Prop :=
  startLine.version ≠ .unknown ∧ startLine.requestId < 2 ^ 32 ∧
    match startLine.messageType with
    | .unknown => False
    | .request => IsMethodName startLine.methodName ∧ startLine.statusCode = 0 ∧ startLine.requestState = .unknown
    | .response => startLine.statusCode < 2 ^ 32 ∧ startLine.requestState ≠ .unknown
    | .event => IsMethodName startLine.methodName ∧ startLine.statusCode = 0 ∧ startLine.requestState ≠ .unknown

/-- The start line that is read. The length is not part of version 1, nor is the method of a response. -/
def StartLine.read (startLine : StartLine) (length : Nat) : StartLine :=
  { startLine with
    length := if startLine.version = .v2 then length else 0
    methodName := if startLine.messageType = .response then [] else startLine.methodName
    methodId := none }

theorem fieldRead_sep {field rest : Bytes} (h : IsField tokenSp field) (s : TextStream)
    (hs : s.rest = field ++ ([tokenSp] ++ rest)) :
    fieldRead s = ({ s with done := s.done ++ field ++ [tokenSp], rest := rest },
      some ⟨field, tokenSp :: rest ++ s.beyond⟩) := textFieldRead_sep h s hs

theorem fieldRead_last {field : Bytes} (h : IsField tokenSp field) (s : TextStream) (hs : s.rest = field) :
    fieldRead s = ({ s with done := s.done ++ field, rest := [] }, some ⟨field, s.beyond⟩) := textFieldRead_last h s hs

theorem endsNumber_space (rest : Bytes) : EndsNumber (tokenSp :: rest) := by simp [isDigit, tokenSp]

theorem statusCodeParse_text {code : Nat} (h : code < 2 ^ 32) (rest : Bytes) :
    statusCodeParse ⟨decimal code, tokenSp :: rest⟩ = code := by
  rw [statusCodeParse, sizeValueParse_decimal _ (endsNumber_space rest)]
  omega

theorem requestState_text {state : RequestState} (h : state ≠ .unknown) :
    IsField tokenSp (requestStateText state) ∧ OneLine (requestStateText state) ∧
      requestStateParse (requestStateText state) = state := by
  cases state <;> first | exact absurd rfl h | exact ⟨⟨by decide, by decide, by decide⟩, by decide, by decide⟩

theorem versionText_field {version : Version} (h : version ≠ .unknown) :
    IsField tokenSp (versionText version) ∧ OneLine (versionText version) ∧
        versionParse (versionText version) = version ∧
      requestStateParse (versionText version) = .unknown ∧ mrcpName <+: versionText version := by
  cases version <;> first
    | exact absurd rfl h
    | exact ⟨⟨by decide, by decide, by decide⟩, by decide, by decide, by decide, by decide⟩

theorem requestIdParse_name {name : Bytes} (h : IsMethodName name) (beyond : Bytes) :
    requestIdParse ⟨name, beyond⟩ = 0 ∧ name.head? ≠ some 0x30 := by
  cases name with
  | nil => exact absurd rfl h.field.nonempty
  | cons ch name =>
    obtain ⟨hs, hd, hm, hp⟩ := h.begins ch rfl
    have ha : atol (ch :: (name ++ beyond)) = 0 := by
      rw [atol, dropWhile_cons_of_neg (by simp [hs])]
      split
      · next heq => exact absurd (cons.inj heq).1 hm
      · next heq => exact absurd (cons.inj heq).1 hp
      · simp [digitsValue, hd]
    refine ⟨by simp [requestIdParse, sizeValueParse, ha], ?_⟩
    rintro ⟨⟩
    exact absurd hd (by decide)

theorem oneLine_requestIdText (id : Nat) : OneLine (requestIdText id) := by
  unfold requestIdText
  split_ifs
  · exact oneLine_decimal id
  · exact oneLine_cons.2 ⟨by decide, oneLine_decimal _⟩

theorem oneLine_startLineText {startLine : StartLine} (h : startLine.Proper) (length : Nat) :
    OneLine (startLineText startLine (decimal length)) := by
  obtain ⟨type, version, len, id, name, methodId, code, state⟩ := startLine
  obtain ⟨hv, -, ht⟩ := h
  have hsp : OneLine [tokenSp] := by decide
  have hid := oneLine_requestIdText id
  have hvl := (versionText_field hv).2.1
  cases type with
  | unknown => exact ht.elim
  | request =>
    obtain ⟨hn, rfl, -⟩ := ht
    have hl : OneLine [] := nofun
    cases version with
    | unknown => exact absurd rfl hv
    | v1 => exact (((hn.oneLine.append hsp).append (hid.append hsp)).append hl).append hvl
    | v2 => exact (((hvl.append hsp).append (oneLine_decimal _)).append hsp).append ((hn.oneLine.append hsp).append hid)
  | response =>
    have hr := ((hid.append hsp).append ((oneLine_decimal code).append hsp)).append (requestState_text ht.2).2.1
    cases version with
    | unknown => exact absurd rfl hv
    | v1 => exact (hvl.append hsp).append hr
    | v2 => exact (((hvl.append hsp).append (oneLine_decimal _)).append hsp).append hr
  | event =>
    obtain ⟨hn, -, hs⟩ := ht
    have hst := (requestState_text hs).2.1
    cases version with
    | unknown => exact absurd rfl hv
    | v1 => exact ((hn.oneLine.append hsp).append (hid.append hsp)).append (hst.append hsp) |>.append hvl
    | v2 =>
      exact (((hvl.append hsp).append (oneLine_decimal _)).append hsp).append
        ((((hn.oneLine.append hsp).append hid).append hsp).append hst)

/-- **A start line is read** as it was generated. -/
theorem startLineParse_text {startLine : StartLine} (h : startLine.Proper) {length : Nat} (hl : length < 2 ^ 63)
    {beyond : Bytes} (hb : EndsNumber beyond) :
    startLineParse ⟨startLineText startLine (decimal length), beyond⟩ = some (startLine.read length) := by
  obtain ⟨type, version, len, id, name, methodId, code, state⟩ := startLine
  obtain ⟨hv, hid, ht⟩ := h
  have hlen : IsField tokenSp (decimal length) := isField_decimal (by decide) _
  have hfid : IsField tokenSp (requestIdText id) := isField_requestIdText (by decide) (by decide) id
  have hdl : ∀ rest, sizeValueParse ⟨decimal length, tokenSp :: rest⟩ = length := fun rest => by
    rw [sizeValueParse_decimal _ (endsNumber_space rest)]
    omega
  have hpid : ∀ rest, requestIdParse ⟨requestIdText id, tokenSp :: rest⟩ = id :=
    fun rest => requestIdParse_text hid (endsNumber_space rest)
  cases version with
  | unknown => exact absurd rfl hv
  | v1 =>
    obtain ⟨hvf, -, hvp, hvs, hvm⟩ := versionText_field (show Version.v1 ≠ .unknown by decide)
    cases type with
    | unknown => exact ht.elim
    | request =>
      obtain ⟨hn, rfl, rfl⟩ := ht
      simp only [startLineText, requestLineHead, requestMarkText, if_true, append_nil, append_assoc, startLineParse]
      rw [fieldRead_sep hn.field _ rfl]
      simp only [bind_eq_bind, bind_some, hn.noVersion, if_false, requestLineParse]
      rw [fieldRead_sep hfid _ rfl]
      simp only [bind_some, cons_append, hpid]
      rw [fieldRead_last hvf _ rfl]
      simp [hvs, hvp, StartLine.read, startLineInit]
    | response =>
      obtain ⟨hc, hs⟩ := ht
      obtain ⟨hsf, -, hsp⟩ := requestState_text hs
      simp only [startLineText, responseText, append_assoc, startLineParse]
      rw [fieldRead_sep hvf _ rfl]
      simp only [bind_eq_bind, bind_some, hvm, if_true, hvp, responseLineParse]
      rw [fieldRead_sep hfid _ rfl]
      simp only [bind_some, cons_append, hpid]
      rw [fieldRead_sep (isField_decimal (by decide) code) _ rfl]
      simp only [bind_some, cons_append, statusCodeParse_text hc]
      rw [fieldRead_last hsf _ rfl]
      simp [hsp, StartLine.read, startLineInit]
    | event =>
      obtain ⟨hn, rfl, hs⟩ := ht
      obtain ⟨hsf, -, hsp⟩ := requestState_text hs
      simp only [startLineText, requestLineHead, requestMarkText, append_assoc, startLineParse]
      rw [fieldRead_sep hn.field _ rfl]
      simp only [bind_eq_bind, bind_some, hn.noVersion, if_false, requestLineParse]
      rw [fieldRead_sep hfid _ rfl]
      simp only [bind_some, cons_append, hpid]
      rw [fieldRead_sep hsf _ rfl]
      simp only [bind_some, hsp, hs, if_false]
      rw [fieldRead_last hvf _ rfl]
      simp [hvp, StartLine.read, startLineInit]
  | v2 =>
    obtain ⟨hvf, -, hvp, -, hvm⟩ := versionText_field (show Version.v2 ≠ .unknown by decide)
    simp only [startLineText, append_assoc, startLineParse]
    rw [fieldRead_sep hvf _ rfl]
    simp only [bind_eq_bind, bind_some, hvm, if_true, hvp, v2StartLineParse]
    rw [fieldRead_sep hlen _ rfl]
    simp only [bind_some, cons_append, hdl, v2LineText]
    cases type with
    | unknown => exact ht.elim
    | request =>
      obtain ⟨hn, rfl, rfl⟩ := ht
      simp only [append_assoc]
      rw [fieldRead_sep hn.field _ rfl]
      simp only [bind_some]
      rw [if_pos (requestIdParse_name hn _), v2RequestParse]
      rw [fieldRead_last hfid _ rfl]
      simp only [bind_some, bind_eq_bind]
      rw [show fieldRead _ = _ from textFieldRead_nil _ rfl]
      simp [requestIdParse_text hid hb, StartLine.read, startLineInit, textStreamInit]
    | response =>
      obtain ⟨hc, hs⟩ := ht
      obtain ⟨hsf, -, hsp⟩ := requestState_text hs
      have hn : ¬(id = 0 ∧ (requestIdText id).head? ≠ some 0x30) := by
        rintro ⟨rfl, hh⟩
        exact hh (by decide)
      simp only [responseText, append_assoc]
      rw [fieldRead_sep hfid _ rfl]
      simp only [bind_some, cons_append, hpid]
      rw [if_neg hn, v2ResponseParse, fieldRead_sep (isField_decimal (by decide) code) _ rfl]
      simp only [bind_some, bind_eq_bind, cons_append, statusCodeParse_text hc]
      rw [fieldRead_last hsf _ rfl]
      simp [hsp, StartLine.read, startLineInit]
    | event =>
      obtain ⟨hn, rfl, hs⟩ := ht
      obtain ⟨hsf, -, hsp⟩ := requestState_text hs
      simp only [append_assoc]
      rw [fieldRead_sep hn.field _ rfl]
      simp only [bind_some]
      rw [if_pos (requestIdParse_name hn _), v2RequestParse]
      rw [fieldRead_sep hfid _ rfl]
      simp only [bind_some, bind_eq_bind]
      rw [fieldRead_last hsf _ rfl]
      simp [hpid, hsp, StartLine.read, startLineInit]

end UniMrcp.Mrcp
