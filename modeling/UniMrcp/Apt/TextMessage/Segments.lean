import UniMrcp.Apt.TextMessage.RoundTrip

/-!
# Messages that are cut into chunks

Messages that are sent one after another are received, however their text is cut into chunks.
-/

namespace UniMrcp.Apt

open Lib List

/-! ## Streams that end within a message -/

def AtCut (s : TextStream) : Prop := s.rest = [] ∧ s.done.getLast? = some tokenCr

theorem atCut_cr (done text beyond : Bytes) (isEos : Bool) : AtCut ⟨done ++ (text ++ [tokenCr]), [], beyond, isEos⟩ :=
  ⟨rfl, by simp [← append_assoc]⟩

theorem not_atCut_crlf (done text rest beyond : Bytes) (isEos : Bool) :
    ¬AtCut ⟨done ++ (text ++ crlf), rest, beyond, isEos⟩ := by
  rintro ⟨-, hl⟩
  have hc : done ++ (text ++ crlf) = done ++ text ++ [tokenCr] ++ [tokenLf] := by simp [crlf]
  simp only [hc, getLast?_concat] at hl
  exact absurd hl (by decide)

theorem oneLine_nil : OneLine [] := forall_mem_nil _

theorem lineScan_none {text : Bytes} (h : OneLine text) : lineScan text = none := by
  induction text with
  | nil => rfl
  | cons ch text ih =>
    obtain ⟨⟨hc, hl⟩, ht⟩ := oneLine_cons.1 h
    simp [lineScan, hc, hl, ih ht]

theorem lineScan_cr {line : Bytes} (h : OneLine line) (rest : Bytes) :
    lineScan (line ++ tokenCr :: rest) = some (line, skipLf rest) := by
  induction line with
  | nil => rfl
  | cons ch line ih =>
    obtain ⟨⟨hc, hl⟩, ht⟩ := oneLine_cons.1 h
    simp [lineScan, hc, hl, ih ht]

theorem headerScan_none {text : Bytes} (h : OneLine text) (pair : PairScan) : headerScan pair text = none := by
  rw [← append_nil text, headerScan_append h]
  rfl

theorem append_cut {x t a b : Bytes} (h : x ++ t = a ++ b) :
    (∃ u, a = x ++ u ∧ t = u ++ b ∧ u ≠ []) ∨ ∃ x', x = a ++ x' ∧ b = x' ++ t := by
  rcases append_eq_append_iff.1 h with ⟨u, hu, ht⟩ | hx
  · by_cases hn : u = []
    · exact .inr ⟨[], by simp [hu, hn], by simp [ht, hn]⟩
    · exact .inl ⟨u, hu, ht, hn⟩
  · exact .inr hx

def lineOf (field : HeaderField) : Bytes := field.name ++ [0x3A, tokenSp] ++ field.value

variable {field : HeaderField}

theorem oneLine_field (h : Readable field) : OneLine (lineOf field) :=
  (h.nameLine.append (by decide)).append h.valueLine

theorem headerFieldParse_cr (h : Readable field) (done beyond : Bytes) :
    headerFieldParse ⟨done, lineOf field ++ [tokenCr], beyond, false⟩ =
      (⟨done ++ (lineOf field ++ [tokenCr]), [], beyond, false⟩,
        some ⟨field.name, field.value, none⟩) := by
  have hc : headerScan {} (lineOf field ++ [tokenCr]) =
      some ((lineOf field).foldl PairScan.step {}, []) := by
    rw [headerScan_append (oneLine_field h)]
    rfl
  have hr : textHeaderRead ⟨done, lineOf field ++ [tokenCr], beyond, false⟩ =
      (⟨done ++ (lineOf field ++ [tokenCr]), [], beyond, false⟩,
        some (field.name, field.value)) := by
    have hl : ((lineOf field).foldl PairScan.step {}).result = some (field.name, field.value) := foldl_line h
    simp only [textHeaderRead, hc, hl, TextStream.advanceTo, length_nil, Nat.sub_zero, take_length]
  have hf : ∀ done : Bytes, foldingRead ⟨done, [], beyond, false⟩ = (⟨done, [], beyond, false⟩, []) :=
    fun done => foldingRead_of_noSpace (by simp)
  simp only [headerFieldParse, hr, h.nonempty, if_false, hf, flatten_nil, append_nil]

theorem headerSectionParse_none {text : Bytes} (h : OneLine text) (header : HeaderSection) (done beyond : Bytes) :
    headerSectionParse header ⟨done, text, beyond, false⟩ = (header, ⟨done, text, beyond, true⟩, false) := by
  refine whileLoop_inl sectionStep_lowers ?_
  simp [sectionStep, headerFieldParse, textHeaderRead, headerScan_none h, sectionNext, textIsEos, TextStream.setEos]

/-- What is found of header fields in a text that ends before their section does. -/
inductive SectionCut (fields : List HeaderField) (t : Bytes) : List HeaderField → TextStream → Bool → Prop
  | within {found left : List HeaderField} {s : TextStream} : fields = found ++ left → textIsEos s → ¬AtCut s →
      s.rest ++ t = left.flatMap fieldLine ++ crlf → SectionCut fields t found s false
  | behindCr {found left : List HeaderField} {s : TextStream} : fields = found ++ left → AtCut s →
      t = tokenLf :: (left.flatMap fieldLine ++ crlf) → SectionCut fields t found s false
  | last {s : TextStream} : AtCut s → s.isEos = false → t = [tokenLf] → SectionCut fields t fields s true

theorem SectionCut.cons {fields found : List HeaderField} {t : Bytes} {s : TextStream} {ended : Bool}
    (h : SectionCut fields t found s ended) (field : HeaderField) :
    SectionCut (field :: fields) t (field :: found) s ended := by
  cases h with
  | within hf he hn hs => exact .within (by rw [hf, cons_append]) he hn hs
  | behindCr hf hc ht => exact .behindCr (by rw [hf, cons_append]) hc ht
  | last hc he ht => exact .last hc he ht

def ParsesUpTo (fields : List HeaderField) (t : Bytes) (header : HeaderSection) (s : TextStream) : Prop :=
  ∃ found s' ended, headerSectionParse header s =
      ({ header with ring := header.ring ++ unidentified found }, s', ended) ∧
    SectionCut fields t found s' ended

theorem headerSectionParse_cut {fields : List HeaderField} (h : ∀ field ∈ fields, Readable field)
    (header : HeaderSection) (done beyond : Bytes) {x t : Bytes} (ht : t ≠ [])
    (hx : x ++ t = fields.flatMap fieldLine ++ crlf)
    (hn : ¬AtCut ⟨done, x, beyond, false⟩) :
    ParsesUpTo fields t header ⟨done, x, beyond, false⟩ := by
  have hwithin : ∀ {fields : List HeaderField} (header : HeaderSection) (done : Bytes) {x : Bytes}, OneLine x →
      x ++ t = fields.flatMap fieldLine ++ crlf → ¬AtCut ⟨done, x, beyond, false⟩ →
      ParsesUpTo fields t header ⟨done, x, beyond, false⟩ :=
    fun header done x ho hx hn => ⟨[], ⟨done, x, beyond, true⟩, false,
      by simp [headerSectionParse_none ho, unidentified], .within rfl (by simp [textIsEos]) hn hx⟩
  induction fields generalizing header done x with
  | nil =>
    rcases x with _ | ⟨ch, x⟩
    · exact hwithin header done oneLine_nil hx hn
    · -- the CR of the empty line
      obtain ⟨rfl, hx'⟩ := cons.inj (show ch :: (x ++ t) = tokenCr :: [tokenLf] from hx)
      obtain ⟨rfl, rfl⟩ | ⟨-, rfl⟩ := append_eq_singleton_iff.1 hx'
      · have hl : headerFieldParse ⟨done, [tokenCr], beyond, false⟩ =
            (⟨done ++ [tokenCr], [], beyond, false⟩, some ⟨[], [], none⟩) := by
          simp [headerFieldParse, textHeaderRead, headerScan, skipLf, PairScan.result, TextStream.advanceTo]
        refine ⟨[], ⟨done ++ [tokenCr], [], beyond, false⟩, true, ?_, .last ⟨rfl, by simp⟩ rfl rfl⟩
        rw [show ({ header with ring := header.ring ++ unidentified [] }
            : HeaderSection) = header by simp [unidentified]]
        exact whileLoop_inl sectionStep_lowers (by simp [sectionStep, hl])
      · exact absurd rfl ht
  | cons field fields ih =>
    have hf := h field mem_cons_self
    have ha : (headerSectionFieldAdd header ⟨field.name, field.value, none⟩).1 =
        { header with ring := header.ring ++ unidentified [field] } := rfl
    have hs : x ++ t = lineOf field ++ (tokenCr :: tokenLf ::
        (fields.flatMap fieldLine ++ crlf)) := by
      rw [hx]
      simp [fieldLine, lineOf, crlf]
    rcases append_eq_append_iff.1 hs with ⟨u, hu, -⟩ | ⟨x', rfl, hr⟩
    · exact hwithin header done (fun ch hc => oneLine_field hf ch (hu ▸ mem_append_left u hc)) hx hn
    rcases x' with _ | ⟨ch, x'⟩
    · exact hwithin header done (by simpa using oneLine_field hf) hx hn
    obtain ⟨rfl, hr'⟩ := cons.inj hr
    rcases x' with _ | ⟨ch, x'⟩
    · refine ⟨[field], _, false, ?_, .behindCr (show field :: fields = [field] ++ fields from rfl)
          (atCut_cr done (lineOf field) beyond false) hr'.symm⟩
      refine whileLoop_inl sectionStep_lowers ?_
      simp only [sectionStep, headerFieldParse_cr hf, hf.nonempty, if_false, sectionNext, ha]
      rfl
    obtain ⟨rfl, hr''⟩ := cons.inj hr'
    change fields.flatMap fieldLine ++ crlf = x' ++ t at hr''
    have hl : lineOf field ++ tokenCr :: tokenLf :: x' = fieldLine field ++ x' := by
      simp [fieldLine, lineOf, crlf]
    have hn' : ¬AtCut ⟨done ++ fieldLine field, x', beyond, false⟩ := not_atCut_crlf done _ x' beyond false
    rw [hl]
    have hb : ∀ ch, x'.head? = some ch → textIsWsp ch = false := by
      intro ch hc
      refine fieldLines_noSpace (fun field hm => h field (mem_cons_of_mem _ hm)) [] ch ?_
      rw [append_nil, hr'']
      rw [head?_append, hc, Option.some_or]
    have hp := headerFieldParse_line hf (s := ⟨done, fieldLine field ++ x', beyond, false⟩) rfl hb
    rw [advanceTo_append] at hp
    by_cases he : x' = []
    · subst he
      refine ⟨[field], _, false, ?_, .within (show field :: fields = [field] ++ fields from rfl)
          (by simp [textIsEos]) hn' hr''.symm⟩
      refine whileLoop_inl sectionStep_lowers ?_
      simp only [sectionStep, hp, hf.nonempty, if_false, sectionNext, ha]
      rfl
    · obtain ⟨found, s, ended, hsec, hcut⟩ := ih (fun field hm => h field (mem_cons_of_mem _ hm))
        { header with ring := header.ring ++ unidentified [field] } (done ++ fieldLine field) hr''.symm hn'
      refine ⟨field :: found, s, ended, ?_, hcut.cons field⟩
      have hring : header.ring ++ unidentified (field :: found) =
          header.ring ++ unidentified [field] ++ unidentified found := by simp [unidentified]
      rw [hring]
      refine (whileLoop_inr sectionStep_lowers ?_).trans hsec
      simp only [sectionStep, hp, hf.nonempty, if_false, sectionNext, ha]
      simp [textIsEos, he]

/-! ## Messages and their texts -/

section Messages

open TextMessage

variable {M : Type} [TextMessage M]

def withFields (m : M) (fields : List HeaderField) : M :=
  setHeader m { header m with ring := (header m).ring ++ unidentified fields }

theorem withFields_nil (m : M) : withFields m [] = m := by
  rw [withFields, unidentified, map_nil, append_nil]
  exact setHeader_header m

theorem withFields_withFields (m : M) (fields fields' : List HeaderField) :
    withFields (withFields m fields) fields' = withFields m (fields ++ fields') := by
  simp [withFields, header_setHeader, setHeader_setHeader, unidentified]

/-- A message and its text: what the start line opens, and what is accepted behind the header section. -/
structure Spelling (parse : Str → Option M) (accept : M → M × Bool) where
  line : Bytes
  fields : List HeaderField
  text : Bytes
  opened : M
  accepted : M
  oneLine : OneLine line
  readable : ∀ field ∈ fields, Readable field
  opens : ∀ beyond, parse ⟨line, tokenCr :: beyond⟩ = some opened
  accepts : accept (withFields opened fields) = (accepted, true)
  length : (body accepted).length = text.length

variable {parse : Str → Option M} {accept : M → M × Bool}

def Spelling.bytes (w : Spelling parse accept) : Bytes :=
  w.line ++ (crlf ++ (w.fields.flatMap fieldLine ++ (crlf ++ w.text)))

def Spelling.message (w : Spelling parse accept) : M := withBody w.accepted w.text

def bytesOf (ws : List (Spelling parse accept)) : Bytes := ws.flatMap Spelling.bytes

/-- A parser for which there is still this text, of the rest of the first message and of the others. -/
inductive Expects : MessageParser M → Bytes → List (Spelling parse accept) → Prop
  | startLine {p : MessageParser M} {ws : List (Spelling parse accept)} : p.stage = .startLine → p.skipLf = false →
      Expects p (bytesOf ws) ws
  | header {p : MessageParser M} {w : Spelling parse accept} {ws : List (Spelling parse accept)}
      {found left : List HeaderField} : p.stage = .header → p.skipLf = false →
      p.context = some (withFields w.opened found) → w.fields = found ++ left →
      Expects p (left.flatMap fieldLine ++ (crlf ++ (w.text ++ bytesOf ws))) (w :: ws)
  | body {p : MessageParser M} {w : Spelling parse accept} {ws : List (Spelling parse accept)} {read left : Bytes} :
      p.stage = .body → p.skipLf = false → p.context = some (setBody w.accepted ⟨some read, read.length⟩) →
      p.contentLength = w.text.length → w.text = read ++ left → left ≠ [] → Expects p (left ++ bytesOf ws) (w :: ws)
  | pendingLf {p : MessageParser M} {z : Bytes} {ws : List (Spelling parse accept)} : p.skipLf = true →
      Expects { p with skipLf := false } z ws → Expects p (tokenLf :: z) ws

/-- What a run leaves, when the text `t` has not arrived. -/
inductive Outcome (r : RunResult M) (t : Bytes) : List (Spelling parse accept) → Prop
  | waits {ws : List (Spelling parse accept)} : r.message = none → textIsEos r.stream → (t = [] → ws = []) →
      Expects r.parser (r.stream.rest ++ t) ws → Outcome r t ws
  | complete {w : Spelling parse accept} {ws : List (Spelling parse accept)} : r.status = .complete →
      r.message = some w.message → r.stream.isEos = false → Expects r.parser (r.stream.rest ++ t) ws →
      Outcome r t (w :: ws)

variable {vt : MessageParserVTable M} {p : MessageParser M} {w : Spelling parse accept}
  {ws : List (Spelling parse accept)} {x t : Bytes}

theorem bodyStage_outcome (hv : vt.onBodyComplete = none) (hp : p.stage = .body) (hk : p.skipLf = false)
    (hl : p.contentLength = w.text.length) {read left : Bytes} (hw : w.text = read ++ left) (hne : left ≠ [])
    (hx : x ++ t = left ++ bytesOf ws) (done beyond : Bytes) :
    Outcome (bodyStage vt p (setBody w.accepted ⟨some read, read.length⟩) ⟨done, x, beyond, false⟩) t (w :: ws) := by
  have hd : p.contentLength - read.length = left.length := by rw [hl, hw, length_append, Nat.add_sub_cancel_left]
  simp only [bodyStage, body_setBody, bodyRead, bodyExtend, bodyComplete, hv, hd, setBody_setBody, Option.map_some,
    reduceCtorEq, if_false]
  rcases append_cut hx with ⟨left', rfl, rfl, hne'⟩ | ⟨x', rfl, hb⟩
  · have hlt : x.length < (x ++ left').length := by simp [length_pos_iff.2 hne']
    have ht : x.take (x ++ left').length = x := take_of_length_le hlt.le
    simp only [hlt, if_true, ht, TextStream.advanceTo, drop_length]
    exact .waits rfl (by simp [textIsEos]) (fun h => absurd (append_eq_nil_iff.1 h).1 hne')
      (.body hp hk (by simp) hl (show w.text = read ++ x ++ left' by rw [hw, append_assoc]) hne')
  · have hm : w.message = setBody w.accepted ⟨some (read ++ left), read.length + left.length⟩ := by
      have hn : w.text ≠ [] := by simp [hw, hne]
      rw [Spelling.message, withBody, if_neg hn, hw, length_append]
    have hlt : ¬(left ++ x').length < left.length := by simp
    simp only [hlt, if_false, take_left, drop_left, advanceTo_append]
    refine .complete rfl (by rw [hm]; rfl) rfl ?_
    show Expects _ (x' ++ t) ws
    rw [← hb]
    exact .startLine rfl hk

theorem headerAccepted_outcome (hv : vt.onBodyComplete = none) (hk : p.skipLf = false)
    (hx : x ++ t = w.text ++ bytesOf ws)
    (done beyond : Bytes) :
    Outcome (headerAccepted vt p w.accepted ⟨done, x, beyond, false⟩) t (w :: ws) ∧
      (headerAccepted vt p w.accepted ⟨done, x, beyond, false⟩).parser.skipLf = false := by
  unfold headerAccepted
  by_cases hn : w.text = []
  · have hm : w.message = w.accepted := by rw [Spelling.message, withBody, if_pos hn]
    rw [if_pos (by rw [w.length, hn, length_nil])]
    refine ⟨.complete rfl (by rw [hm]; rfl) rfl ?_, hk⟩
    have hs : Expects { p with context := some w.accepted, stage := .startLine } (bytesOf ws) ws := .startLine rfl hk
    rwa [← nil_append (bytesOf ws), ← hn, ← hx] at hs
  · rw [if_neg fun hl => hn (eq_nil_of_length_eq_zero (w.length.symm.trans hl))]
    refine ⟨bodyStage_outcome (p := { p with
      context := some (setBody w.accepted ⟨some [], 0⟩), contentLength := (body w.accepted).length, stage := .body })
      hv rfl hk w.length rfl hn hx done beyond, ?_⟩
    simp only [bodyStage, bodyComplete, hv]
    split_ifs <;> exact hk

theorem Outcome.pendingLf {r : RunResult M} (h : Outcome r t ws) (hk : r.parser.skipLf = false)
    (hr : r.stream.rest = []) :
    Outcome { r with parser := { r.parser with skipLf := true } } (tokenLf :: t) ws := by
  have hp : ({ r.parser with skipLf := false } : MessageParser M) = r.parser := by rw [← hk]
  cases h with
  | waits hm he ht hx =>
    rw [hr, nil_append] at hx
    exact .waits hm he nofun (by rw [hr]; exact .pendingLf rfl (hp.symm ▸ hx))
  | complete hs hm he hx =>
    rw [hr, nil_append] at hx
    exact .complete hs hm he (by rw [hr]; exact .pendingLf rfl (hp.symm ▸ hx))

theorem headerAccepted_skipLf (m : M) (done beyond : Bytes) :
    headerAccepted vt { p with skipLf := true } m ⟨done, [], beyond, false⟩ =
      { headerAccepted vt { p with skipLf := false } m ⟨done, [], beyond, false⟩ with
        parser := { (headerAccepted vt { p with skipLf := false } m ⟨done, [], beyond, false⟩).parser with
          skipLf := true } } := by
  unfold headerAccepted bodyStage bodyComplete bodyRead
  dsimp only
  split_ifs <;> rfl

/-- **The header stage**, wherever the text ends. -/
theorem headerStage_outcome (ha : vt.onHeaderComplete = some accept) (hv : vt.onBodyComplete = none)
    (hp : p.stage = .header) (hk : p.skipLf = false) {found left : List HeaderField} (hw : w.fields = found ++ left)
    (hx : x ++ t = left.flatMap fieldLine ++ (crlf ++ (w.text ++ bytesOf ws))) (done beyond : Bytes)
    (hn : ¬AtCut ⟨done, x, beyond, false⟩) :
    Outcome (headerStage vt p (withFields w.opened found) ⟨done, x, beyond, false⟩) t (w :: ws) := by
  have hl : ∀ field ∈ left, Readable field := fun field hm => w.readable field (hw ▸ mem_append_right found hm)
  have haccept : accept (withFields w.opened w.fields) = (w.accepted, true) := w.accepts
  have hset : ∀ fields, setHeader (withFields w.opened found) { header (withFields w.opened found) with
      ring := (header (withFields w.opened found)).ring ++ unidentified fields } =
          withFields w.opened (found ++ fields) :=
    fun fields => withFields_withFields w.opened found fields
  rw [← append_assoc] at hx
  rcases append_cut hx with ⟨u, hu, rfl, hne⟩ | ⟨x', rfl, hb⟩
  · obtain ⟨found', s, ended, hsec, hcut⟩ :=
      headerSectionParse_cut hl (header (withFields w.opened found)) done beyond hne hu.symm hn
    simp only [headerStage, hsec, hset]
    cases hcut with
    | @within _ left' _ hf he hc hs =>
      have ht : crlfSegmentationTest p s = p := if_neg hc
      rw [if_pos rfl, ht]
      refine .waits rfl he (fun h => absurd (append_eq_nil_iff.1 h).1 hne) ?_
      rw [← append_assoc, hs, append_assoc]
      exact .header hp hk rfl (by rw [hw, hf, append_assoc])
    | @behindCr _ left' _ hf hc hs =>
      have ht : crlfSegmentationTest p s = { p with skipLf := true } := if_pos hc
      rw [if_pos rfl, ht]
      refine .waits rfl (by simp [textIsEos, hc.1]) (fun h => absurd (append_eq_nil_iff.1 h).1 hne) ?_
      rw [hc.1, nil_append, hs, cons_append, append_assoc]
      exact .pendingLf rfl (.header hp rfl rfl (by rw [hw, hf, append_assoc]))
    | last hc he hs =>
      obtain ⟨done', rest, beyond', eos⟩ := s
      obtain rfl : rest = [] := hc.1
      obtain rfl : eos = false := he
      have ht : crlfSegmentationTest p ⟨done', [], beyond', false⟩ = { p with skipLf := true } := if_pos hc
      obtain ⟨ho, hf⟩ := headerAccepted_outcome (p := { p with context := some w.accepted, skipLf := false }) hv rfl
        (nil_append (w.text ++ bytesOf ws)) done' beyond'
      have hs' : headerAccepted vt { p with context := some w.accepted, skipLf := true } w.accepted _ = _ :=
        headerAccepted_skipLf (p := { p with context := some w.accepted }) w.accepted done' beyond'
      have hrest : (headerAccepted vt { p with context := some w.accepted, skipLf := false } w.accepted
          ⟨done', [], beyond', false⟩).stream.rest = [] :=
        eq_nil_of_length_eq_zero (Nat.le_zero.1 (headerAccepted_reads vt _ _ _))
      have hp' := ho.pendingLf hf hrest
      rw [hs, singleton_append]
      simpa only [Bool.true_eq_false, if_false, ← hw, haccept, ha, ht, hs'] using hp'
  · have hsec := headerSectionParse_lines hl (header (withFields w.opened found))
      (s := ⟨done, left.flatMap fieldLine ++ crlf ++ x', beyond, false⟩) rfl (append_assoc _ _ _)
    rw [advanceTo_append] at hsec
    have ht : crlfSegmentationTest p ⟨done ++ (left.flatMap fieldLine ++ crlf), x', beyond, false⟩ = p :=
      if_neg (not_atCut_crlf done _ x' beyond false)
    simp only [headerStage, hsec, hset, ← hw, haccept, ha, ht, Bool.true_eq_false, if_false]
    exact (headerAccepted_outcome (p := { p with context := some w.accepted }) hv hk hb.symm _ beyond).1

structure TakesLines (vt : MessageParserVTable M) (parse : Str → Option M) (accept : M → M × Bool) : Prop where
  onStart : ∀ s, vt.onStart s = ((textLineRead s).1, (textLineRead s).2.bind parse)
  onHeaderComplete : vt.onHeaderComplete = some accept
  onBodyComplete : vt.onBodyComplete = none

/-- **The start line stage**, wherever the text ends. -/
theorem startLineStage_outcome (h : TakesLines vt parse accept) (hp : p.stage = .startLine) (hk : p.skipLf = false)
    (hx : x ++ t = bytesOf ws) (done beyond : Bytes) : Outcome (startLineStage vt p ⟨done, x, beyond, false⟩) t ws := by
  have hnone : OneLine x → Outcome (startLineStage vt p ⟨done, x, beyond, false⟩) t ws := by
    intro ho
    simp only [startLineStage, h.onStart, textLineRead, lineScan_none ho, Option.bind_none]
    refine .waits rfl (by simp [textIsEos, TextStream.setEos]) ?_
        (by rw [TextStream.setEos, hx]; exact .startLine hp hk)
    rintro rfl
    cases ws with
    | nil => rfl
    | cons w ws =>
      rw [append_nil] at hx
      exact absurd rfl (ho tokenCr (by simp [hx, bytesOf, Spelling.bytes, crlf])).1
  rcases ws with _ | ⟨w, ws⟩
  · exact hnone ((append_eq_nil_iff.1 hx).1 ▸ oneLine_nil)
  have hx' : x ++ t = w.line ++ (tokenCr :: tokenLf ::
      (w.fields.flatMap fieldLine ++ (crlf ++ (w.text ++ bytesOf ws)))) := by
    rw [hx]
    simp [bytesOf, Spelling.bytes, crlf]
  rcases append_eq_append_iff.1 hx' with ⟨u, hu, -⟩ | ⟨x', rfl, hb⟩
  · exact hnone fun ch hc => w.oneLine ch (hu ▸ mem_append_left u hc)
  rcases x' with _ | ⟨ch, x'⟩
  · exact hnone (by simpa using w.oneLine)
  obtain ⟨rfl, hb'⟩ := cons.inj hb
  have hstart : ∀ x', vt.onStart ⟨done, w.line ++ tokenCr :: x', beyond, false⟩ =
      (TextStream.advanceTo ⟨done, w.line ++ tokenCr :: x', beyond, false⟩ (skipLf x'), some w.opened) := by
    intro x'
    simp only [h.onStart, textLineRead, lineScan_cr w.oneLine, TextStream.ahead, append_assoc, drop_left,
      Option.bind_some, cons_append, w.opens]
  rcases x' with _ | ⟨ch, x'⟩
  · -- the text ends between CR and LF
    have hs : TextStream.advanceTo ⟨done, w.line ++ [tokenCr], beyond, false⟩ (skipLf []) =
        ⟨done ++ (w.line ++ [tokenCr]), [], beyond, false⟩ := by simp [TextStream.advanceTo, skipLf]
    have hc : ∀ p : MessageParser M, ∀ isEos,
        crlfSegmentationTest p ⟨done ++ (w.line ++ [tokenCr]), [], beyond, isEos⟩ =
        { p with skipLf := true } := fun p isEos => if_pos (atCut_cr done w.line beyond isEos)
    simp only [startLineStage, hstart, hs, hc, headerStage, headerSectionParse_none oneLine_nil, if_true]
    refine .waits rfl rfl ?_ ?_
    · rintro rfl
      simp at hb'
    · rw [nil_append, show t = _ from hb'.symm]
      refine .pendingLf rfl (.header rfl rfl ?_ (show w.fields = [] ++ w.fields from rfl))
      rw [withFields_nil, setHeader_header]
  · obtain ⟨rfl, hb''⟩ := cons.inj hb'
    have hl : w.line ++ tokenCr :: tokenLf :: x' = w.line ++ crlf ++ x' := by simp [crlf]
    have hs : TextStream.advanceTo ⟨done, w.line ++ tokenCr :: tokenLf :: x', beyond, false⟩ (skipLf (tokenLf :: x')) =
        ⟨done ++ (w.line ++ crlf), x', beyond, false⟩ := by
      rw [hl]
      exact advanceTo_append done _ x' beyond false
    have hc : crlfSegmentationTest p ⟨done ++ (w.line ++ crlf), x', beyond, false⟩ = p :=
      if_neg (not_atCut_crlf done w.line x' beyond false)
    simp only [startLineStage, hstart, hs, hc]
    have ho := headerStage_outcome (p := { p with context := some w.opened, stage := .header }) h.onHeaderComplete
      h.onBodyComplete rfl hk (show w.fields = [] ++ w.fields from rfl) hb''.symm (done ++ (w.line ++ crlf)) beyond
      (not_atCut_crlf done w.line x' beyond false)
    rwa [withFields_nil] at ho

theorem messageParserRun_spelling (h : TakesLines vt parse accept) (w : Spelling parse accept)
    (hp : p.stage = .startLine) (hk : p.skipLf = false) (done rest beyond : Bytes) :
    ∃ p', messageParserRun vt p ⟨done, w.bytes ++ rest, beyond, false⟩ =
      ⟨p', ⟨done ++ w.bytes, rest, beyond, false⟩, .complete, some w.message⟩ := by
  have ht : w.bytes ++ rest =
      w.line ++ (crlf ++ (w.fields.flatMap fieldLine ++ (crlf ++ (w.text ++ rest)))) := by simp [Spelling.bytes]
  generalize hs : (⟨done, w.bytes ++ rest, beyond, false⟩ : TextStream) = s
  have hr : s.rest = w.bytes ++ rest := hs ▸ rfl
  have ho : vt.onStart s =
      (s.advanceTo (w.fields.flatMap fieldLine ++ (crlf ++ (w.text ++ rest))), some w.opened) := by
    rw [h.onStart, textLineRead_crlf w.oneLine (hr.trans ht)]
    exact congrArg (Prod.mk _) (w.opens _)
  have he : s.isEos = false := hs ▸ rfl
  obtain ⟨p', hrun, -⟩ := messageParserRun_text h.onHeaderComplete h.onBodyComplete hp hk ho he w.readable rfl w.accepts
    w.length
  have hf : w.fields.flatMap fieldLine ++ (crlf ++ (w.text ++ rest)) <:+ s.rest :=
    ⟨w.line ++ crlf, by rw [hr, ht, append_assoc]⟩
  have hl : rest <:+ w.fields.flatMap fieldLine ++ (crlf ++ (w.text ++ rest)) :=
    ⟨w.fields.flatMap fieldLine ++ (crlf ++ w.text), by simp⟩
  refine ⟨p', hrun.trans ?_⟩
  rw [advanceTo_advanceTo s hf hl, ← hs]
  simp [TextStream.advanceTo, Spelling.message]

/-- **A run of the parser**, wherever the text ends. -/
theorem messageParserRun_outcome (h : TakesLines vt parse accept) {z : Bytes} (he : Expects p z ws) (hz : z = x ++ t)
    (hne : x ≠ []) (done beyond : Bytes) : Outcome (messageParserRun vt p ⟨done, x, beyond, false⟩) t ws := by
  have hrun : ∀ {p : MessageParser M} {z x : Bytes} {done : Bytes}, p.skipLf = false → Expects p z ws → z = x ++ t →
      ¬AtCut ⟨done, x, beyond, false⟩ → Outcome (parserStage vt p ⟨done, x, beyond, false⟩) t ws := by
    intro p z x done hf he hz hn
    obtain ⟨context, length, stage, skip⟩ := p
    cases he with
    | startLine hp hk =>
      obtain rfl : stage = .startLine := hp
      exact startLineStage_outcome h rfl hk hz.symm done beyond
    | header hp hk hc hw =>
      obtain rfl : stage = .header := hp
      obtain rfl : context = some _ := hc
      exact headerStage_outcome h.onHeaderComplete h.onBodyComplete rfl hk hw hz.symm done beyond hn
    | body hp hk hc hl hw hne =>
      obtain rfl : stage = .body := hp
      obtain rfl : context = some _ := hc
      exact bodyStage_outcome h.onBodyComplete rfl hk hl hw hne hz.symm done beyond
    | pendingLf hk => exact absurd (hf.symm.trans hk) nofun
  obtain ⟨context, length, stage, skip⟩ := p
  cases skip with
  | false => exact hrun rfl he hz fun hc => hne hc.1
  | true =>
    cases he with
    | startLine _ hk => exact absurd hk nofun
    | header _ hk => exact absurd hk nofun
    | body _ hk => exact absurd hk nofun
    | pendingLf _ he =>
      obtain ⟨x', rfl, rfl⟩ : ∃ x', x = tokenLf :: x' ∧ _ = x' ++ t := by
        rcases x with _ | ⟨ch, x'⟩
        · exact absurd rfl hne
        · obtain ⟨rfl, hz'⟩ := cons.inj hz
          exact ⟨x', rfl, hz'⟩
      have hs : pendingLfSkip (⟨context, length, stage, true⟩ : MessageParser M) ⟨done, tokenLf :: x', beyond, false⟩ =
          ⟨done ++ [tokenLf], x', beyond, false⟩ := advanceTo_append done [tokenLf] x' beyond false
      have ho := hrun rfl he rfl (show ¬AtCut ⟨done ++ [tokenLf], x', beyond, false⟩ by simp [AtCut, tokenLf, tokenCr])
      rwa [← hs] at ho

/-! ## Receiving -/

theorem Expects.eq_nil {z : Bytes} (h : Expects p z ws) (hz : z = []) : ws = [] := by
  cases h with
  | startLine =>
    cases ws with
    | nil => rfl
    | cons w ws => simp [bytesOf, Spelling.bytes, crlf] at hz
  | header => simp [crlf] at hz
  | body _ _ _ _ _ hne => exact absurd (append_eq_nil_iff.1 hz).1 hne
  | pendingLf => cases hz

variable {κ : Type} {handle : MessageHandler M κ}

/-- What a handler knows once messages were given to it. -/
def handled (handle : MessageHandler M κ) (k : κ) (messages : List M) : κ :=
  messages.foldl (fun k m => (handle k .complete (some m)).1) k

/-- What is received of a text, when the text `t` has not arrived: messages, and the beginning of another one. -/
def Received (handle : MessageHandler M κ) (k : κ) (ws : List (Spelling parse accept)) (t : Bytes)
    (c : TextReceiver M κ) : Prop :=
  ∃ found left, ws = found ++ left ∧ c.handler = handled handle k (found.map Spelling.message) ∧ (t = [] → left = []) ∧
    Expects c.parser (c.stream.rest ++ t) left

theorem receiveLoop_received (h : TakesLines vt parse accept) (hm : MindsMessages handle)
    (hg : ∀ k m, (handle k .complete (some m)).2 = true) (he : Expects p (x ++ t) ws) (hne : x ≠ [])
    (done beyond : Bytes)
    (k : κ) : ∃ c, receiveLoop vt handle ⟨⟨done, x, beyond, false⟩, p, k⟩ = (c, true) ∧ Received handle k ws t c := by
  induction ws generalizing p x done beyond k with
  | nil =>
    cases messageParserRun_outcome h he rfl hne done beyond with
    | waits hn hs ht hx =>
      exact ⟨_, receiveLoop_ends hm hn hs, [], [], rfl, rfl, fun _ => rfl, hx⟩
  | cons w ws ih =>
    cases messageParserRun_outcome h he rfl hne done beyond with
    | waits hn hs ht hx =>
      exact ⟨_, receiveLoop_ends hm hn hs, [], w :: ws, rfl, rfl, ht, hx⟩
    | complete hst hw hs hx =>
      generalize hr : messageParserRun vt p ⟨done, x, beyond, false⟩ = r at hst hw hs hx
      obtain ⟨p', ⟨done', x', beyond', eos⟩, status, message⟩ := r
      obtain rfl : status = .complete := hst
      obtain rfl : message = some w.message := hw
      obtain rfl : eos = false := hs
      by_cases hx' : x' = []
      · subst hx'
        refine ⟨⟨⟨done', [], beyond', false⟩, p', (handle k .complete (some w.message)).1⟩,
          whileLoop_inl (receiveStep_lowers vt handle) ?_, [w], ws, rfl, rfl, fun ht => hx.eq_nil (by simp [ht]), hx⟩
        simp [receiveStep, hr, hg, textIsEos]
      · obtain ⟨c, hl, found, left, rfl, hh, ht, hc⟩ := ih hx hx' done' beyond' (handle k .complete (some w.message)).1
        refine ⟨c, (whileLoop_inr (receiveStep_lowers vt handle) ?_).trans hl, w :: found, left, rfl, hh, ht, hc⟩
        simp [receiveStep, hr, hg, textIsEos, hx']

theorem messageReceive_chunks (h : TakesLines vt parse accept) (hm : MindsMessages handle)
    (hg : ∀ k m, (handle k .complete (some m)).2 = true) {chunks : List Bytes} (hne : ∀ chunk ∈ chunks, chunk ≠ [])
    (c : TextReceiver M κ) (he : Expects c.parser (c.stream.done ++ chunks.flatten) ws) (hw : chunks = [] → ws = []) :
    (chunks.foldl (messageReceive vt handle) c).handler = handled handle c.handler (ws.map Spelling.message) := by
  induction chunks generalizing c ws with
  | nil =>
    obtain rfl := hw rfl
    rfl
  | cons chunk chunks ih =>
    obtain ⟨hn, hne⟩ := forall_mem_cons.1 hne
    rw [flatten_cons, ← append_assoc] at he
    obtain ⟨c', hl, found, left, rfl, hh, ht, hc⟩ := receiveLoop_received h hm hg he (by simp [hn]) [] [] c.handler
    have hs : (textStreamScroll c'.stream).1.done = c'.stream.rest := by
      unfold textStreamScroll
      split_ifs with hr
      · exact hr.symm
      · rfl
      · rfl
    have hr : messageReceive vt handle c chunk = { c' with stream := (textStreamScroll c'.stream).1 } := by
      have hr : receiveLoop vt handle { c with stream := textStreamReceive c.stream chunk } = (c', true) := hl
      simp [messageReceive, hr]
    rw [foldl_cons, hr, ih hne _ (by rw [hs]; exact hc) fun hnil => ht (by rw [hnil]; rfl), hh, handled, handled,
        handled,
      map_append, foldl_append]

theorem messageReceive_cut {α : Type} {text : α → Bytes} {P : α → M → Prop} (h : TakesLines vt parse accept)
    (hm : MindsMessages handle) (hg : ∀ k m, (handle k .complete (some m)).2 = true) {sends : List α}
    (hs : ∀ t ∈ sends, ∃ w : Spelling parse accept, w.bytes = text t ∧ P t w.message) {chunks : List Bytes}
    (hne : ∀ chunk ∈ chunks, chunk ≠ []) (hf : chunks.flatten = sends.flatMap text) (k : κ) :
    ∃ received, Forall₂ P sends received ∧
      (chunks.foldl (messageReceive vt handle) ⟨textStreamInit ⟨[], []⟩, messageParserCreate M, k⟩).handler =
        handled handle k received := by
  obtain ⟨ws, hb, hw⟩ : ∃ ws : List (Spelling parse accept), sends.flatMap text = bytesOf ws ∧
      Forall₂ P sends (ws.map Spelling.message) := by
    clear hf
    induction sends with
    | nil => exact ⟨[], rfl, .nil⟩
    | cons t sends ih =>
      obtain ⟨⟨w, hb, hw⟩, hs⟩ := forall_mem_cons.1 hs
      obtain ⟨ws, hbs, hws⟩ := ih hs
      exact ⟨w :: ws, by rw [flatMap_cons, hbs, ← hb]; rfl, .cons hw hws⟩
  have he : Expects (messageParserCreate M) chunks.flatten ws := by
    rw [hf, hb]
    exact .startLine rfl rfl
  refine ⟨_, hw, messageReceive_chunks h hm hg hne ⟨textStreamInit ⟨[], []⟩, messageParserCreate M, k⟩ he ?_⟩
  rintro rfl
  exact he.eq_nil rfl

end Messages

end UniMrcp.Apt
