import UniMrcp.Apt.TextMessage.Generator
import UniMrcp.Apt.TextMessage.Resync

/-!
# Reading a message that was generated

The lines of a start line and of header fields, and the body behind them, are read as they were generated.
-/

namespace UniMrcp.Apt

open Lib List PairScan

def OneLine (text : Bytes) : Prop := ∀ ch ∈ text, ch ≠ tokenCr ∧ ch ≠ tokenLf

instance (text : Bytes) : Decidable (OneLine text) :=
  decidable_of_iff (text.all (fun ch => ch != tokenCr && ch != tokenLf) = true) (by simp [OneLine])

theorem OneLine.append {text text' : Bytes} (h : OneLine text) (h' : OneLine text') : OneLine (text ++ text') := by
  intro ch hc
  rcases mem_append.1 hc with hc | hc
  · exact h ch hc
  · exact h' ch hc

theorem oneLine_cons {ch : UInt8} {text : Bytes} :
    OneLine (ch :: text) ↔ (ch ≠ tokenCr ∧ ch ≠ tokenLf) ∧ OneLine text := by
  simp [OneLine]

theorem lineScan_crlf {line : Bytes} (h : OneLine line) (rest : Bytes) :
    lineScan (line ++ (crlf ++ rest)) = some (line, rest) := by
  induction line with
  | nil => rfl
  | cons ch line ih =>
    obtain ⟨⟨hc, hl⟩, hn⟩ := oneLine_cons.1 h
    simp [lineScan, hc, hl, ih hn]

theorem textLineRead_crlf {line rest : Bytes} (h : OneLine line) {s : TextStream}
    (hs : s.rest = line ++ (crlf ++ rest)) :
    textLineRead s = (s.advanceTo rest, some ⟨line, crlf ++ rest ++ s.beyond⟩) := by
  simp [textLineRead, hs, lineScan_crlf h, TextStream.ahead]

/-! ## Header fields -/

structure Readable (field : HeaderField) : Prop where
  nonempty : field.name ≠ []
  nameBegins : ∀ ch, field.name.head? = some ch → textIsWsp ch = false
  noColon : 0x3A ∉ field.name
  nameLine : OneLine field.name
  valueBegins : ∀ ch, field.value.head? = some ch → textIsWsp ch = false
  valueLine : OneLine field.value

theorem headerScan_append {text : Bytes} (h : OneLine text) (pair : PairScan) (rest : Bytes) :
    headerScan pair (text ++ rest) = headerScan (text.foldl step pair) rest := by
  induction text generalizing pair with
  | nil => rfl
  | cons ch text ih =>
    obtain ⟨⟨hc, hl⟩, ht⟩ := oneLine_cons.1 h
    simp [headerScan, hc, hl, ih ht]

theorem foldl_name {text : Bytes} (h : 0x3A ∉ text) (name : Bytes) :
    text.foldl step { name := some name } = { name := some (name ++ text) } := by
  induction text generalizing name with
  | nil => simp
  | cons ch text ih =>
    obtain ⟨hc, ht⟩ := not_or.1 (mem_cons.not.1 h)
    have hs : step { name := some name } ch = { name := some (name ++ [ch]) } := by
      simp [step, Ne.symm hc]
    rw [foldl_cons, hs, ih ht, append_assoc, singleton_append]

theorem foldl_value (text name value : Bytes) :
    text.foldl step ⟨some name, true, some value⟩ = ⟨some name, true, some (value ++ text)⟩ := by
  induction text generalizing value with
  | nil => simp
  | cons ch text ih =>
    have hs : step ⟨some name, true, some value⟩ ch = ⟨some name, true, some (value ++ [ch])⟩ := rfl
    rw [foldl_cons, hs, ih, append_assoc, singleton_append]

variable {field : HeaderField}

theorem foldl_line (h : Readable field) :
    ((field.name ++ [0x3A, tokenSp] ++ field.value).foldl step {}).result =
      some (field.name, field.value) := by
  obtain ⟨name, value, id⟩ := field
  obtain ⟨hn, hna, hc, -, hv, -⟩ := h
  cases name with
  | nil => exact absurd rfl hn
  | cons ch name =>
    obtain ⟨hh, hr⟩ := not_or.1 (mem_cons.not.1 hc)
    have hb : step {} ch = { name := some [ch] } := by simp [step, hna ch rfl]
    have hs : [0x3A, tokenSp].foldl step { name := some (ch :: name) } =
        ⟨some (ch :: name), true, none⟩ := by
      simp [step, textIsWsp, tokenSp]
    have hm : (ch :: name).foldl step {} = { name := some (ch :: name) } := by
      rw [foldl_cons, hb, foldl_name hr, singleton_append]
    rw [foldl_append, foldl_append, hm, hs]
    cases value with
    | nil => rfl
    | cons ch' value =>
      have hb' : step ⟨some (ch :: name), true, none⟩ ch' = ⟨some (ch :: name), true, some [ch']⟩ := by
        simp [step, hv ch' rfl]
      rw [foldl_cons, hb', foldl_value]
      rfl

theorem textHeaderRead_line (h : Readable field) {s : TextStream} {rest : Bytes}
    (hs : s.rest = fieldLine field ++ rest) :
    textHeaderRead s = (s.advanceTo rest, some (field.name, field.value)) := by
  have hl : OneLine (field.name ++ [0x3A, tokenSp] ++ field.value) :=
    (h.nameLine.append (by decide)).append h.valueLine
  have hc : headerScan {} s.rest =
      some ((field.name ++ [0x3A, tokenSp] ++ field.value).foldl step {}, rest) := by
    rw [hs, fieldLine, append_assoc, headerScan_append hl]
    rfl
  simp only [textHeaderRead, hc, foldl_line h]

theorem foldingRead_of_noSpace {s : TextStream} (h : ∀ ch, s.rest.head? = some ch → textIsWsp ch = false) :
    foldingRead s = (s, []) := by
  refine whileLoop_inl foldingStep_lowers ?_
  unfold foldingStep
  cases hr : s.rest with
  | nil => rfl
  | cons ch rest => simp [h ch (by simp [hr])]

theorem headerFieldParse_line (h : Readable field) {s : TextStream} {rest : Bytes}
    (hs : s.rest = fieldLine field ++ rest) (hr : ∀ ch, rest.head? = some ch → textIsWsp ch = false) :
    headerFieldParse s = (s.advanceTo rest, some ⟨field.name, field.value, none⟩) := by
  have hf : foldingRead (s.advanceTo rest) = (s.advanceTo rest, []) := foldingRead_of_noSpace hr
  simp [headerFieldParse, textHeaderRead_line h hs, h.nonempty, hf]

theorem headerFieldParse_crlf {s : TextStream} {rest : Bytes} (hs : s.rest = crlf ++ rest) :
    headerFieldParse s = (s.advanceTo rest, some ⟨[], [], none⟩) := by
  have hr : textHeaderRead s = (s.advanceTo rest, some ([], [])) := by
    have hc : headerScan {} s.rest = some ({}, rest) := by
      rw [hs]
      rfl
    simp only [textHeaderRead, hc]
    rfl
  simp [headerFieldParse, hr]

/-! ## Header sections -/

def unidentified (fields : List HeaderField) : List HeaderField := fields.map fun field => { field with id := none }

theorem advanceTo_advanceTo (s : TextStream) {rest rest' : Bytes} (h : rest <:+ s.rest) (h' : rest' <:+ rest) :
    (s.advanceTo rest).advanceTo rest' = s.advanceTo rest' := by
  obtain ⟨text, ht⟩ := h
  obtain ⟨text', rfl⟩ := h'
  have hf : s.rest.take (s.rest.length - (text' ++ rest').length) = text := by
    simp [← ht]
  have hs : (text' ++ rest').take ((text' ++ rest').length - rest'.length) = text' := by simp
  have hb : s.rest.take (s.rest.length - rest'.length) = text ++ text' := by
    rw [← ht, ← append_assoc]
    refine take_left' ?_
    simp only [length_append]
    omega
  simp only [TextStream.advanceTo, hf, hs, hb, append_assoc]

theorem advanceTo_append (done text rest beyond : Bytes) (isEos : Bool) :
    TextStream.advanceTo ⟨done, text ++ rest, beyond, isEos⟩ rest = ⟨done ++ text, rest, beyond, isEos⟩ := by
  simp [TextStream.advanceTo]

theorem fieldLines_noSpace {fields : List HeaderField} (h : ∀ field ∈ fields, Readable field) (rest : Bytes)
    (ch : UInt8)
    (hc : (fields.flatMap fieldLine ++ (crlf ++ rest)).head? = some ch) : textIsWsp ch = false := by
  cases fields with
  | nil =>
    obtain rfl := Option.some.inj hc
    decide
  | cons field fields =>
    have hf := h field mem_cons_self
    refine hf.nameBegins ch ?_
    rw [flatMap_cons, fieldLine] at hc
    simp only [append_assoc] at hc
    rwa [List.head?_append_of_ne_nil _ hf.nonempty] at hc

/-- **A header section is parsed from its lines.** -/
theorem headerSectionParse_lines {fields : List HeaderField} (h : ∀ field ∈ fields, Readable field)
    (header : HeaderSection) {s : TextStream} {rest : Bytes} (he : s.isEos = false)
    (hs : s.rest = fields.flatMap fieldLine ++ (crlf ++ rest)) :
    headerSectionParse header s =
      ({ header with ring := header.ring ++ unidentified fields }, s.advanceTo rest, true) := by
  induction fields generalizing header s with
  | nil =>
    have hl : headerFieldParse s = (s.advanceTo rest, some ⟨[], [], none⟩) :=
      headerFieldParse_crlf (by simpa using hs)
    have hr : ({ header with ring := header.ring ++ unidentified [] } : HeaderSection) = header := by
      simp [unidentified]
    rw [hr]
    exact whileLoop_inl sectionStep_lowers (by simp [sectionStep, hl])
  | cons field fields ih =>
    have hf := h field mem_cons_self
    rw [flatMap_cons, append_assoc] at hs
    have hl := headerFieldParse_line hf hs (fieldLines_noSpace (fun field hm => h field (mem_cons_of_mem _ hm)) rest)
    have hg : textIsEos (s.advanceTo (fields.flatMap fieldLine ++ (crlf ++ rest))) = false := by
      simp [textIsEos, he, crlf]
    have ht : sectionStep (header, s) = .inr ((headerSectionFieldAdd header ⟨field.name, field.value, none⟩).1,
        s.advanceTo (fields.flatMap fieldLine ++ (crlf ++ rest))) := by
      simp [sectionStep, hl, hf.nonempty, sectionNext, hg]
    have ha : (headerSectionFieldAdd header ⟨field.name, field.value, none⟩).1 =
        { header with ring := header.ring ++ [{ field with id := none }] } := rfl
    have hli := ih (fun field hm => h field (mem_cons_of_mem _ hm))
      { header with ring := header.ring ++ [{ field with id := none }] }
      (s := s.advanceTo (fields.flatMap fieldLine ++ (crlf ++ rest))) he rfl
    rw [advanceTo_advanceTo s ⟨_, hs.symm⟩ ⟨fields.flatMap fieldLine ++ crlf, by simp⟩] at hli
    rw [headerSectionParse, whileLoop_inr sectionStep_lowers ht, ha]
    simpa [headerSectionParse, unidentified] using hli

/-! ## Messages -/

section Run

open TextMessage

variable {M : Type} [TextMessage M] {vt : MessageParserVTable M} {p : MessageParser M} {s : TextStream} {m : M}
  {text rest : Bytes}

def withBody (m : M) (text : Bytes) : M := if text = [] then m else setBody m ⟨some text, text.length⟩

theorem headerAccepted_text (hv : vt.onBodyComplete = none) (hb : (body m).length = text.length)
    (hs : s.rest = text ++ rest) (p : MessageParser M) :
    ∃ parser, headerAccepted vt p m s = ⟨parser, s.advanceTo rest, .complete, some (withBody m text)⟩ ∧
      parser.stage = .startLine := by
  unfold headerAccepted withBody
  by_cases hn : text = []
  · subst hn
    have ht : s.advanceTo rest = s := by
      cases s
      simp_all [TextStream.advanceTo]
    rw [hb, ht]
    exact ⟨_, rfl, rfl⟩
  · have hl : text.length ≠ 0 := fun h => hn (eq_nil_of_length_eq_zero h)
    have hr : s.rest.take text.length = text := by rw [hs, take_left]
    have hf : s.rest.drop text.length = rest := by rw [hs, drop_left]
    have hm : ¬s.rest.length < text.length := by
      rw [hs, length_append]
      omega
    simp only [hb, hl, hn, if_false, bodyStage, body_setBody, bodyRead, bodyExtend, bodyComplete, hv,
      Nat.sub_zero, hr, hf, hm, setBody_setBody, Option.map_some, nil_append, Nat.zero_add,
      reduceCtorEq]
    exact ⟨_, rfl, rfl⟩

variable {s' : TextStream} {fields : List HeaderField} {accept : M → M × Bool}

theorem messageParserRun_header {m' : M} (hv : vt.onHeaderComplete = some accept) (h : p.stage = .startLine)
    (hk : p.skipLf = false) (ht : vt.onStart s = (s', some m)) (he : s'.isEos = false)
    (hf : ∀ field ∈ fields, Readable field) (hs : s'.rest = fields.flatMap fieldLine ++ (crlf ++ rest))
    (ha : accept (setHeader m { header m with ring := (header m).ring ++ unidentified fields }) = (m', true)) :
    ∃ p', messageParserRun vt p s = headerAccepted vt p' m' (s'.advanceTo rest) := by
  have hc := headerSectionParse_lines hf (header m) he hs
  unfold messageParserRun parserStage pendingLfSkip
  simp only [h, hk, Bool.false_eq_true, if_false, startLineStage, ht, headerStage, hc,
    Bool.true_eq_false, hv, ha]
  exact ⟨_, rfl⟩

theorem messageParserRun_text {m' : M} (hv : vt.onHeaderComplete = some accept) (hv' : vt.onBodyComplete = none)
    (h : p.stage = .startLine) (hk : p.skipLf = false) (ht : vt.onStart s = (s', some m))
    (he : s'.isEos = false) (hf : ∀ field ∈ fields, Readable field)
    (hs : s'.rest = fields.flatMap fieldLine ++ (crlf ++ (text ++ rest)))
    (ha : accept (setHeader m { header m with ring := (header m).ring ++ unidentified fields }) = (m', true))
    (hb : (body m').length = text.length) :
    ∃ parser, messageParserRun vt p s = ⟨parser, s'.advanceTo rest, .complete, some (withBody m' text)⟩ ∧
      parser.stage = .startLine := by
  obtain ⟨p', hr⟩ := messageParserRun_header hv h hk ht he hf hs ha
  have hsf : text ++ rest <:+ s'.rest := ⟨fields.flatMap fieldLine ++ crlf, by simp [hs]⟩
  have hc := headerAccepted_text (s := s'.advanceTo (text ++ rest)) hv' hb rfl p'
  rwa [advanceTo_advanceTo s' hsf (suffix_append text rest), ← hr] at hc

end Run

end UniMrcp.Apt
