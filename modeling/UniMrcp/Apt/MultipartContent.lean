import UniMrcp.Apt.TextStream
import UniMrcp.Apt.TextMessage.RoundTrip
import UniMrcp.Apt.TextStream.Fields

/-!
# Multipart contents

A body of several parts, each of which has a header section and is preceded by a line with the boundary.
-/

namespace UniMrcp.Apt

open Lib List
open Mrcp (decimal digit_of_mem_decimal)

def contentLengthHeader : Bytes := ascii "Content-Length"
def contentTypeHeader : Bytes := ascii "Content-Type"
def contentIdHeader : Bytes := ascii "Content-Id"

def contentHeaders : List Bytes := [contentLengthHeader, contentTypeHeader, contentIdHeader]

/-- `DEFAULT_HYPHENS` -/
def hyphens : Bytes := [0x2D, 0x2D]

def multipartContentCreate (maxContentSize : Nat) : TextBuffer :=
  textBufferInit (if maxContentSize = 0 then 4096 else maxContentSize)

def multipartContentInitialize (boundary : Bytes) : TextWriter :=
  textEolInsert.andThen ((textStringInsert hyphens).andThen ((textStringInsert boundary).andThen textEolInsert))

def textHeaderNameInsert (name : Bytes) : TextWriter := fun b =>
  if b.room ≤ name.length + 2 then (b, false) else (b.put (name ++ [0x3A, tokenSp]), true)

def insertSome (insert : Bytes → TextWriter) : Option Bytes → TextWriter
  | none => fun b => (b, true)
  | some str => insert str

def multipartContentAdd2 (boundary : Bytes) (contentType contentId body : Option Bytes) : TextWriter :=
  (multipartContentInitialize boundary).andThen
    ((insertSome (textNameValueInsert contentTypeHeader) contentType).andThen
      ((insertSome (textNameValueInsert contentIdHeader) contentId).andThen
        ((insertSome (fun body => (textHeaderNameInsert contentLengthHeader).andThen
            ((textSizeValueInsert body.length).andThen textEolInsert)) body).andThen
          (textEolInsert.andThen (insertSome textStringInsert body)))))

def multipartContentFinalize (boundary : Bytes) : TextWriter :=
  textEolInsert.andThen ((textStringInsert hyphens).andThen
    ((textStringInsert boundary).andThen ((textStringInsert hyphens).andThen textEolInsert)))

/-- What `apt_multipart_content_add2` is called with. -/
structure AddedPart where
  contentType : Option Bytes := none
  contentId : Option Bytes := none
  body : Option Bytes := none

def multipartContentGenerate (maxContentSize : Nat) (boundary : Bytes) (parts : List AddedPart) : Option Bytes :=
  let add (part : AddedPart) := multipartContentAdd2 boundary part.contentType part.contentId part.body
  let r := parts.foldr (fun part w => (add part).andThen w) (multipartContentFinalize boundary)
    (multipartContentCreate maxContentSize)
  if r.2 then some r.1.text else none

/-! ## Reading -/

structure ContentPart where
  header : HeaderSection
  body : Bytes := []
  type : Option Bytes := none
  id : Option Bytes := none
  length : Option Bytes := none
deriving DecidableEq

/-- `apt_multipart_content_t`, whose parts are read. The boundary is empty until it is known. -/
structure MultipartContent where
  stream : TextStream
  boundary : Bytes

inductive GetResult
  | failed
  | final
  | part (part : ContentPart)
  /-- A body of more bytes than there are in memory is copied. -/
  | overrun
deriving DecidableEq

def multipartContentAssign (body boundary : Bytes) : MultipartContent := ⟨textStreamInit ⟨body, []⟩, boundary⟩

/-- `strncmp` of a name and the name of a header, up to the length of the former. -/
def startsHeader (name header : Bytes) : Bool :=
  let own := name.takeWhile (· != 0)
  if own.length < name.length then own == header else own.isPrefixOf header

def ContentPart.tell (part : ContentPart) (field : HeaderField) : ContentPart :=
  if startsHeader field.name contentLengthHeader then { part with length := some field.value }
  else if startsHeader field.name contentTypeHeader then { part with type := some field.value }
  else if startsHeader field.name contentIdHeader then { part with id := some field.value }
  else part

def partOfHeader (header : HeaderSection) : ContentPart := header.ring.foldl ContentPart.tell { header }

def atoi (text : Bytes) : Int := (atol text).bmod (2 ^ 32)

/-- The body, whose length is told by the part. A negative one passes the check against the end of the stream. -/
def contentBodyGet (c : MultipartContent) (part : ContentPart) : MultipartContent × GetResult :=
  match part.length with
  | none | some [] => (c, .part part)
  | some value =>
    if atoi value < 0 then (c, .overrun)
    else if c.stream.rest.length < (atoi value).toNat then (c, .failed)
    else
      ({ c with stream := c.stream.advanceTo (c.stream.rest.drop (atoi value).toNat) },
        .part { part with body := c.stream.rest.take (atoi value).toNat })

/-- A line with a boundary: the boundary, without trailing spaces, and whether it is the final one. -/
def boundaryOfLine (line : Bytes) : Bytes × Bool :=
  let boundary := (line.reverse.dropWhile (· == tokenSp)).reverse
  if hyphens.isSuffixOf boundary then (boundary.take (boundary.length - 2), true) else (boundary, false)

/-- A line with a boundary is read: whether it is the final one, unless it is another boundary. -/
def boundaryGet (c : MultipartContent) (line : Bytes) : MultipartContent × Option Bool :=
  let b := boundaryOfLine line
  if c.boundary ≠ [] ∧ (c.boundary.length == b.1.length && strncasecmp c.boundary b.1) = false then (c, none)
  -- learn boundary from the content
  else (⟨c.stream, if c.boundary = [] then b.1 else c.boundary⟩, some b.2)

/-- `apt_multipart_content_get`, up to the header section of a part. -/
def multipartBoundaryGet (c : MultipartContent) : MultipartContent × Option Bool :=
  let s := c.stream.advanceTo (c.stream.rest.dropWhile (· != 0x2D))
  if textIsEos s then ({ c with stream := s }, none)
  else
    let s := s.advanceTo (s.rest.dropWhile (· == 0x2D))
    if textIsEos s then ({ c with stream := s }, none)
    else
      match textLineRead s with
      | (s, none) => ({ c with stream := s }, none)
      | (s, some line) => boundaryGet { c with stream := s } line.bytes

def multipartContentGet (c : MultipartContent) : MultipartContent × GetResult :=
  match multipartBoundaryGet c with
  | (c, none) => (c, .failed)
  | (c, some true) => (c, .final)
  | (c, some false) =>
    let h := headerSectionParse headerSectionInit c.stream
    if h.2.2 = false then ({ c with stream := h.2.1 }, .failed)
    else contentBodyGet { c with stream := h.2.1 } (partOfHeader h.1)

def getStep (c : MultipartContent) (_ : Unit) : MultipartContent × GetResult := multipartContentGet c

def AddedPart.fields (part : AddedPart) : List HeaderField :=
  (part.contentType.map (⟨contentTypeHeader, ·, none⟩)).toList ++
    (part.contentId.map (⟨contentIdHeader, ·, none⟩)).toList ++
      (part.body.map (⟨contentLengthHeader, decimal ·.length, none⟩)).toList

def AddedPart.text (boundary : Bytes) (part : AddedPart) : Bytes :=
  crlf ++ (hyphens ++ (boundary ++ crlf)) ++ (part.fields.flatMap fieldLine ++ (crlf ++ part.body.getD []))

def finalText (boundary : Bytes) : Bytes := crlf ++ (hyphens ++ (boundary ++ (hyphens ++ crlf)))

def multipartText (boundary : Bytes) (parts : List AddedPart) : Bytes :=
  parts.flatMap (AddedPart.text boundary) ++ finalText boundary

theorem emits_insertSome {insert : Bytes → TextWriter} {text : Bytes → Bytes}
    (h : ∀ str, Emits (insert str) (text str)) :
    ∀ str : Option Bytes, Emits (insertSome insert str) ((str.map text).getD [])
  | none => fun b _ => by simp [insertSome]
  | some str => h str

theorem emits_textHeaderNameInsert (name : Bytes) : Emits (textHeaderNameInsert name) (name ++ [0x3A, tokenSp]) := by
  intro b hb
  simp only [length_append, length_cons, length_nil] at hb
  exact if_neg (by omega)

theorem emits_multipartContentAdd2 (boundary : Bytes) (part : AddedPart) :
    Emits (multipartContentAdd2 boundary part.contentType part.contentId part.body) (part.text boundary) := by
  have hi : Emits (multipartContentInitialize boundary) (crlf ++ (hyphens ++ (boundary ++ crlf))) :=
    emits_textEolInsert.andThen ((emits_textStringInsert _).andThen
      ((emits_textStringInsert _).andThen emits_textEolInsert))
  have hl := fun body : Bytes => (emits_textHeaderNameInsert contentLengthHeader).andThen
    ((emits_textSizeValueInsert body.length).andThen emits_textEolInsert)
  have he := hi.andThen ((emits_insertSome (emits_textNameValueInsert contentTypeHeader) part.contentType).andThen
    ((emits_insertSome (emits_textNameValueInsert contentIdHeader) part.contentId).andThen
      ((emits_insertSome hl part.body).andThen
        (emits_textEolInsert.andThen (emits_insertSome emits_textStringInsert part.body)))))
  refine (congrArg (Emits _) ?_).mp he
  obtain ⟨_ | type, _ | id, _ | body⟩ := part <;> simp [AddedPart.text, AddedPart.fields, fieldLine]

theorem emits_multipartText (boundary : Bytes) (parts : List AddedPart) :
    Emits (parts.foldr (fun part w =>
        (multipartContentAdd2 boundary part.contentType part.contentId part.body).andThen w)
      (multipartContentFinalize boundary)) (multipartText boundary parts) := by
  induction parts with
  | nil =>
    exact emits_textEolInsert.andThen ((emits_textStringInsert _).andThen ((emits_textStringInsert _).andThen
      ((emits_textStringInsert _).andThen emits_textEolInsert)))
  | cons part parts ih =>
    rw [multipartText, flatMap_cons, append_assoc]
    exact (emits_multipartContentAdd2 boundary part).andThen ih

/-! ## Reading what was added -/

/-- A line of a boundary is read as such: it does not begin with a hyphen, nor end with one or with a space. -/
structure IsBoundary (boundary : Bytes) : Prop where
  nonempty : boundary ≠ []
  begins : boundary.head? ≠ some 0x2D
  ends : ∀ ch, boundary.getLast? = some ch → ch ≠ tokenSp ∧ ch ≠ 0x2D
  oneLine : OneLine boundary

/-- The header fields are read as they are, and the length of the body fits an `int`. -/
structure AddedPart.Fits (part : AddedPart) : Prop where
  fields : ∀ str, str ∈ part.contentType ∨ str ∈ part.contentId →
    OneLine str ∧ ∀ ch, str.head? = some ch → textIsWsp ch = false
  body : ∀ body ∈ part.body, body.length < 2 ^ 31

def AddedPart.content (part : AddedPart) : ContentPart where
  header := ⟨part.fields, []⟩
  body := part.body.getD []
  type := part.contentType
  id := part.contentId
  length := part.body.map (decimal ·.length)

variable {boundary : Bytes} {part : AddedPart}

theorem strncasecmp_self (str : Bytes) : strncasecmp str str := by
  induction str with
  | nil => rfl
  | cons ch str ih => simp [strncasecmp, ih]

theorem boundaryOfLine_boundary (h : IsBoundary boundary) : boundaryOfLine boundary = (boundary, false) := by
  obtain ⟨init, ch, rfl⟩ := eq_nil_or_concat boundary |>.resolve_left h.nonempty
  obtain ⟨hs, hh⟩ := h.ends ch (by simp)
  have hn : ¬hyphens <:+ init ++ [ch] := by
    rintro ⟨before, hb⟩
    have hl := congrArg getLast? hb
    simp only [hyphens, getLast?_append, getLast?_cons_cons, getLast?_singleton, Option.some_or,
      Option.some.injEq] at hl
    exact hh hl.symm
  simp [boundaryOfLine, hs, hn]

theorem boundaryOfLine_final (boundary : Bytes) : boundaryOfLine (boundary ++ hyphens) = (boundary, true) := by
  have hr : ((boundary ++ hyphens).reverse.dropWhile (· == tokenSp)).reverse = boundary ++ hyphens := by
    simp [hyphens, tokenSp]
  simp only [boundaryOfLine, hr]
  simp [hyphens]

theorem multipartBoundaryGet_line {c : MultipartContent} {line rest : Bytes} (he : c.stream.isEos = false)
    (hs : c.stream.rest = crlf ++ (hyphens ++ (line ++ (crlf ++ rest)))) (hl : OneLine line)
    (hb : line.head? ≠ some 0x2D) :
    multipartBoundaryGet c = boundaryGet { c with stream := c.stream.advanceTo rest } line := by
  have hp : c.stream.rest.dropWhile (· != 0x2D) = hyphens ++ (line ++ (crlf ++ rest)) := by
    rw [hs]
    simp [crlf, hyphens, tokenCr, tokenLf]
  have hh : (hyphens ++ (line ++ (crlf ++ rest))).dropWhile (· == 0x2D) = line ++ (crlf ++ rest) := by
    cases line with
    | nil => simp [crlf, hyphens, tokenCr]
    | cons ch line =>
      have hc : ch ≠ 0x2D := fun hc => hb (by simp [hc])
      simp [hyphens, hc]
  have hsf : hyphens ++ (line ++ (crlf ++ rest)) <:+ c.stream.rest := ⟨crlf, hs.symm⟩
  have hsl : line ++ (crlf ++ rest) <:+ c.stream.rest := (suffix_append _ _).trans hsf
  have hne : line ++ (crlf ++ rest) ≠ [] := by simp [crlf]
  unfold multipartBoundaryGet
  simp only [hp, advanceTo_rest, hh, advanceTo_advanceTo c.stream hsf (suffix_append _ _)]
  have hr := textLineRead_crlf hl (s := c.stream.advanceTo (line ++ (crlf ++ rest))) rfl
  rw [advanceTo_advanceTo c.stream hsl ((suffix_append _ _).trans (suffix_append _ _))] at hr
  simp [textIsEos, he, hne, hyphens, hr]

theorem readable_contentHeader {name value : Bytes} (hn : name ∈ contentHeaders)
    (hv : OneLine value ∧ ∀ ch, value.head? = some ch → textIsWsp ch = false) : Readable ⟨name, value, none⟩ := by
  have hh : ∀ name ∈ contentHeaders, name ≠ [] ∧ (∀ ch ∈ name.head?, textIsWsp ch = false) ∧ 0x3A ∉ name ∧
      OneLine name := by
    decide +kernel
  obtain ⟨hne, hb, hc, hl⟩ := hh name hn
  exact ⟨hne, hb, hc, hl, hv.2, hv.1⟩

theorem AddedPart.readable (h : ∀ str, str ∈ part.contentType ∨ str ∈ part.contentId →
    OneLine str ∧ ∀ ch, str.head? = some ch → textIsWsp ch = false) : ∀ field ∈ part.fields, Readable field := by
  intro field hf
  simp only [AddedPart.fields, mem_append, Option.mem_toList, Option.map_eq_some_iff] at hf
  rcases hf with (⟨str, hs, rfl⟩ | ⟨str, hs, rfl⟩) | ⟨body, -, rfl⟩
  · exact readable_contentHeader (by simp [contentHeaders]) (h str (Or.inl hs))
  · exact readable_contentHeader (by simp [contentHeaders]) (h str (Or.inr hs))
  · have hd : ∀ ch ∈ decimal body.length, 0x30 ≤ ch ∧ ch ≤ 0x39 := fun ch hc => digit_of_mem_decimal hc
    refine readable_contentHeader (by simp [contentHeaders]) ⟨fun ch hc => ?_, fun ch hc => ?_⟩
    · constructor <;> (rintro rfl; exact absurd (hd _ hc).1 (by decide))
    · have hc := (hd ch (mem_of_mem_head? hc)).1
      by_contra hw
      simp only [textIsWsp, Bool.not_eq_false, Bool.or_eq_true, beq_iff_eq] at hw
      rcases hw with rfl | rfl <;> exact absurd hc (by decide)

theorem atoi_decimal {n : Nat} (h : n < 2 ^ 31) : atoi (decimal n) = n := by
  have ha := atol_decimal (n := n) endsNumber_nil
  rw [append_nil] at ha
  rw [atoi, ha, Int.bmod_eq_of_le] <;> omega

theorem partOfHeader_fields (part : AddedPart) :
    partOfHeader ⟨part.fields, []⟩ = { part.content with body := [] } := by
  obtain ⟨_ | type, _ | id, _ | body⟩ := part <;> rfl

theorem headerSectionParse_part (h : ∀ field ∈ part.fields, Readable field) (rest : Bytes) {s : TextStream}
    (he : s.isEos = false)
    (hs : s.rest = part.fields.flatMap fieldLine ++ (crlf ++ rest)) :
    headerSectionParse headerSectionInit s = (⟨part.fields, []⟩, s.advanceTo rest, true) := by
  have hf : unidentified part.fields = part.fields := by
    obtain ⟨_ | type, _ | id, _ | body⟩ := part <;> rfl
  rw [headerSectionParse_lines h headerSectionInit he hs, hf]
  rfl

theorem boundaryGet_of_eq {c : MultipartContent} {line : Bytes} {isFinal : Bool}
    (hb : boundaryOfLine line = (boundary, isFinal))
    (hc : c.boundary = [] ∨ c.boundary = boundary) : boundaryGet c line = (⟨c.stream, boundary⟩, some isFinal) := by
  rcases hc with hc | hc <;> simp [boundaryGet, hb, hc, strncasecmp_self]

theorem contentBodyGet_content (hp : part.Fits) {s : TextStream} {rest : Bytes}
    (hs : s.rest = part.body.getD [] ++ rest) :
    contentBodyGet ⟨s, boundary⟩ { part.content with body := [] } =
      (⟨s.advanceTo rest, boundary⟩, .part part.content) := by
  obtain ⟨type, id, _ | body⟩ := part
  · have ht : s.advanceTo rest = s := by
      cases s
      simp_all [TextStream.advanceTo]
    rw [ht]
    rfl
  · have ha := atoi_decimal (hp.body body rfl)
    obtain ⟨ch, digits, hd, -⟩ := exists_decimal_cons (n := body.length)
    have hr : s.rest = body ++ rest := hs
    have hn : ¬((body.length : Int) < 0) := by omega
    rw [hd] at ha
    simp [contentBodyGet, AddedPart.content, hd, ha, hn, hr]

theorem multipartContentGet_body {c : MultipartContent} {rest : Bytes} (hb : IsBoundary boundary)
    (hp : ∀ field ∈ part.fields, Readable field) (he : c.stream.isEos = false)
    (hs : c.stream.rest = part.text boundary ++ rest) (hc : c.boundary = [] ∨ c.boundary = boundary) :
    multipartContentGet c = contentBodyGet ⟨c.stream.advanceTo (part.body.getD [] ++ rest), boundary⟩
      { part.content with body := [] } := by
  have hl : c.stream.rest =
      crlf ++ (hyphens ++ (boundary ++ (crlf ++ (part.fields.flatMap fieldLine ++
        (crlf ++ (part.body.getD [] ++ rest)))))) := by
    rw [hs]
    simp [AddedPart.text]
  have hsf : part.fields.flatMap fieldLine ++ (crlf ++ (part.body.getD [] ++ rest)) <:+ c.stream.rest :=
    ⟨crlf ++ hyphens ++ boundary ++ crlf, by simp [hl]⟩
  have hsb : part.body.getD [] ++ rest <:+ part.fields.flatMap fieldLine ++ (crlf ++ (part.body.getD [] ++ rest)) :=
    ⟨part.fields.flatMap fieldLine ++ crlf, by simp⟩
  have hh := headerSectionParse_part hp (part.body.getD [] ++ rest) (s := c.stream.advanceTo _) he rfl
  rw [advanceTo_advanceTo c.stream hsf hsb] at hh
  have hg := (multipartBoundaryGet_line he hl hb.oneLine hb.begins).trans
      (boundaryGet_of_eq (boundaryOfLine_boundary hb) hc)
  simp only [multipartContentGet, hg, hh, Bool.true_eq_false, if_false]
  rw [partOfHeader_fields]

theorem multipartContentGet_part {c : MultipartContent} {rest : Bytes} (hb : IsBoundary boundary) (hp : part.Fits)
    (he : c.stream.isEos = false) (hs : c.stream.rest = part.text boundary ++ rest)
    (hc : c.boundary = [] ∨ c.boundary = boundary) :
    multipartContentGet c = (⟨c.stream.advanceTo rest, boundary⟩, .part part.content) := by
  have hsf : part.body.getD [] ++ rest <:+ c.stream.rest :=
    ⟨crlf ++ (hyphens ++ (boundary ++ crlf)) ++ (part.fields.flatMap fieldLine ++ crlf), by simp [hs, AddedPart.text]⟩
  rw [multipartContentGet_body hb (AddedPart.readable hp.fields) he hs hc, contentBodyGet_content hp rfl,
    advanceTo_advanceTo c.stream hsf (suffix_append _ _)]

/-- **The final boundary is read.** -/
theorem multipartContentGet_final {c : MultipartContent} (hb : IsBoundary boundary) (he : c.stream.isEos = false)
    (hs : c.stream.rest = finalText boundary) (hc : c.boundary = [] ∨ c.boundary = boundary) :
    (multipartContentGet c).2 = .final := by
  have hl : c.stream.rest = crlf ++ (hyphens ++ ((boundary ++ hyphens) ++ (crlf ++ []))) := by
    rw [hs]
    simp [finalText]
  have hh : (boundary ++ hyphens).head? ≠ some 0x2D := by
    rw [head?_append_of_ne_nil _ hb.nonempty]
    exact hb.begins
  rw [multipartContentGet, (multipartBoundaryGet_line he hl (hb.oneLine.append (by decide)) hh).trans
    (boundaryGet_of_eq (boundaryOfLine_final boundary) hc)]

/-- **Multipart contents are read back**: each part with its header fields and its body, whatever the bytes of the
bodies, and then the final one, with the boundary given or learned. -/
theorem multipartContent_roundTrips (size : Nat) (parts : List AddedPart) (hb : IsBoundary boundary)
    (hp : ∀ part ∈ parts, part.Fits) (hroom : (multipartText boundary parts).length <
    (multipartContentCreate size).room)
    (given : Bytes) (hg : given = [] ∨ given = boundary) :
    ∃ text, multipartContentGenerate size boundary parts = some text ∧
      (run getStep (multipartContentAssign text given) (replicate (parts.length + 1) ())).2 =
        parts.map (.part ·.content) ++ [.final] := by
  refine ⟨multipartText boundary parts, ?_, ?_⟩
  · simp only [multipartContentGenerate, emits_multipartText boundary parts _ hroom, if_true]
    rfl
  · have hr : ∀ c : MultipartContent, c.stream.isEos = false → c.stream.rest = multipartText boundary parts →
        (c.boundary = [] ∨ c.boundary = boundary) →
        (run getStep c (replicate (parts.length + 1) ())).2 = parts.map (.part ·.content) ++ [.final] := by
      clear hroom
      induction parts with
      | nil =>
        intro c he hs hc
        simp [getStep, multipartContentGet_final hb he hs hc]
      | cons part parts ih =>
        intro c he hs hc
        rw [multipartText, flatMap_cons, append_assoc] at hs
        have hg := multipartContentGet_part hb (hp part mem_cons_self) he hs hc
        have ht := ih (fun part hm => hp part (mem_cons_of_mem _ hm))
          ⟨c.stream.advanceTo (multipartText boundary parts), boundary⟩ he rfl (Or.inr rfl)
        rw [length_cons, replicate_succ, run_cons, getStep, hg, map_cons, cons_append, ← ht]
        rfl
    exact hr _ rfl rfl hg

theorem multipartContent_roundTrips_text :
    ∃ text, multipartContentGenerate 0 (ascii "break")
        [{ contentType := some (ascii "text/plain"), body := some hyphens }] =
      some text ∧
      (run getStep (multipartContentAssign text []) [(), ()]).2 =
        [.part (AddedPart.content { contentType := some (ascii "text/plain"), body := some hyphens }), .final] :=
  multipartContent_roundTrips 0 [_] ⟨by decide, by decide, by rintro ch ⟨⟩; decide, by decide⟩
    (by simpa using ⟨by simp [textIsWsp, ascii, OneLine]; decide, by decide⟩) (by decide +kernel) [] (Or.inl rfl)

theorem contentBodyGet_overrun {body : Bytes} (hl : 2 ^ 31 ≤ body.length) (hu : body.length < 2 ^ 32)
    (c : MultipartContent) :
    (contentBodyGet c { AddedPart.content { body := some body } with body := [] }).2 = .overrun := by
  have ha := atol_decimal (n := body.length) endsNumber_nil
  rw [append_nil] at ha
  have hn : atoi (decimal body.length) < 0 := by
    rw [atoi, ha, min_eq_left (by omega), Int.bmod_def]
    omega
  obtain ⟨ch, digits, hd, -⟩ := exists_decimal_cons (n := body.length)
  rw [hd] at hn
  simp [contentBodyGet, AddedPart.content, hd, hn]

/-- A boundary that is empty, and a body that is longer than an `int` tells. -/
theorem not_multipartContent_roundTrips :
    (multipartContentGenerate 0 [] [{ body := some (ascii "x") }]).map
        (fun text => (run getStep (multipartContentAssign text []) [(), ()]).2) =
      some [.part (AddedPart.content { body := some (ascii "x") }), .failed] ∧
    ∀ body : Bytes, 2 ^ 31 ≤ body.length → body.length < 2 ^ 32 →
      (multipartContentGenerate (body.length + 100) (ascii "b") [{ body := some body }]).map
        (fun text => (multipartContentGet (multipartContentAssign text [])).2) = some .overrun := by
  refine ⟨by decide +kernel, fun body hl hu => ?_⟩
  have hd : (decimal body.length).length ≤ 10 := by
    rw [decimal, length_map]
    exact (Nat.length_toDigits_le_iff (by decide) (by decide)).2 (by omega)
  have hr : (multipartText (ascii "b") [{ body := some body }]).length <
      (multipartContentCreate (body.length + 100)).room := by
    simp [multipartText, AddedPart.text, AddedPart.fields, finalText, fieldLine, multipartContentCreate, textBufferInit,
      hyphens, crlf, contentLengthHeader, ascii]
    omega
  have hb : IsBoundary (ascii "b") := ⟨by decide, by decide, by rintro ch ⟨⟩; decide, by decide⟩
  have he := emits_multipartText (ascii "b") [{ body := some body }] _ hr
  simp only [multipartContentGenerate, he, if_true, Option.map_some]
  have hf : ∀ field ∈ AddedPart.fields { body := some body }, Readable field := AddedPart.readable (by simp)
  have hg := multipartContentGet_body (c := multipartContentAssign
      (multipartText (ascii "b") [{ body := some body }]) []) hb hf rfl
    (by rw [multipartText, flatMap_singleton]; rfl) (Or.inl rfl)
  exact congrArg some ((congrArg Prod.snd hg).trans (contentBodyGet_overrun hl hu _))

/-! ## Contents from anywhere -/

/-- What is known of a part is the value of a header field of exactly this name. -/
def ToldBy (fields : List HeaderField) (part : ContentPart) : Prop :=
  ∀ p ∈ contentHeaders.zip [part.length, part.type, part.id], ∀ value ∈ p.2,
    ∃ field ∈ fields, field.name = p.1 ∧ field.value = value

/-- No header field is taken for another one, and the length of the body is not negative. -/
def HonestHeader (header : HeaderSection) : Prop :=
  (∀ field ∈ header.ring, ∀ name ∈ contentHeaders, startsHeader field.name name → field.name = name) ∧
    ∀ value ∈ (partOfHeader header).length, 0 ≤ atoi value

instance (header : HeaderSection) : Decidable (HonestHeader header) := inferInstanceAs (Decidable (_ ∧ _))

/-- **The condition on a call**: the header section behind the next boundary is honest. -/
def MultipartContent.honest (c : MultipartContent) (_ : Unit) : Bool :=
  match multipartBoundaryGet c with
  | (c, some false) => decide (HonestHeader (headerSectionParse headerSectionInit c.stream).1)
  | _ => true

/-- **What should hold of a call**, for a content. -/
structure GetRight (content : Bytes) (c : MultipartContent) (_ : Unit) : Prop where
  inside : (multipartContentGet c).2 ≠ .overrun
  part : ∀ part, (multipartContentGet c).2 = .part part → part.body <:+: content ∧
    (multipartContentGet c).1.stream.rest.length < c.stream.rest.length ∧ ToldBy part.header.ring part

theorem ToldBy.tell {fields : List HeaderField} {part : ContentPart} {field : HeaderField} (h : ToldBy fields part)
    (hf : field ∈ fields) (hn : ∀ name ∈ contentHeaders, startsHeader field.name name → field.name = name) :
    ToldBy fields (part.tell field) := by
  simp only [ToldBy, contentHeaders, zip_cons_cons, zip_nil_left, forall_mem_cons, not_mem_nil, false_implies,
      implies_true, and_true] at h hn ⊢
  obtain ⟨hl, ht, hi⟩ := h
  unfold ContentPart.tell
  split_ifs with h1 h2 h3
  · exact ⟨by rintro _ ⟨⟩; exact ⟨field, hf, hn.1 h1, rfl⟩, ht, hi⟩
  · exact ⟨hl, by rintro _ ⟨⟩; exact ⟨field, hf, hn.2.1 h2, rfl⟩, hi⟩
  · exact ⟨hl, ht, by rintro _ ⟨⟩; exact ⟨field, hf, hn.2.2 h3, rfl⟩⟩
  · exact ⟨hl, ht, hi⟩

theorem toldBy_partOfHeader {header : HeaderSection} (h : HonestHeader header) :
    ToldBy header.ring (partOfHeader header) := by
  have hr : ∀ fields ⊆ header.ring, ∀ part, ToldBy header.ring part →
      ToldBy header.ring (fields.foldl ContentPart.tell part) := by
    intro fields hs
    induction fields with
    | nil => exact fun part hp => hp
    | cons field fields ih =>
      intro part hp
      have hf := hs mem_cons_self
      exact ih (fun f hm => hs (mem_cons_of_mem _ hm)) _ (hp.tell hf (h.1 field hf))
  exact hr _ (fun f hm => hm) _ (by simp [ToldBy, contentHeaders])

theorem partOfHeader_header (header : HeaderSection) :
    (partOfHeader header).header = header ∧ (partOfHeader header).body = [] := by
  have hr : ∀ (fields : List HeaderField) (part : ContentPart),
      (fields.foldl ContentPart.tell part).header = part.header ∧
      (fields.foldl ContentPart.tell part).body = part.body := by
    intro fields
    induction fields with
    | nil => exact fun part => ⟨rfl, rfl⟩
    | cons field fields ih =>
      intro part
      rw [foldl_cons, (ih _).1, (ih _).2, ContentPart.tell]
      split_ifs <;> exact ⟨rfl, rfl⟩
  exact hr _ _

theorem multipartBoundaryGet_suffix (c : MultipartContent) :
    (multipartBoundaryGet c).1.stream.rest <:+ c.stream.rest := by
  have hp : c.stream.rest.dropWhile (· != 0x2D) <:+ c.stream.rest := dropWhile_suffix _
  have hh := (dropWhile_suffix (· == (0x2D : UInt8)) (l := c.stream.rest.dropWhile (· != 0x2D))).trans hp
  unfold multipartBoundaryGet
  dsimp only
  split_ifs
  · exact hp
  · exact hh
  · split
    · next s hl => exact (congrArg Prod.fst hl ▸ (textLineRead_reads _).suffix).trans hh
    · next s line hl =>
      unfold boundaryGet
      dsimp only
      split_ifs <;> exact (congrArg Prod.fst hl ▸ (textLineRead_reads _).suffix).trans hh

theorem contentBodyGet_right {c : MultipartContent} {part : ContentPart} (h : ∀ value ∈ part.length, 0 ≤ atoi value)
    (hb : part.body = []) :
    (contentBodyGet c part).2 ≠ .overrun ∧ (contentBodyGet c part).1.stream.rest <:+ c.stream.rest ∧
      ∀ p, (contentBodyGet c part).2 = .part p → p.body <:+: c.stream.rest ∧ p.header = part.header ∧
        ∀ fields, ToldBy fields part → ToldBy fields p := by
  unfold contentBodyGet
  split
  · exact ⟨nofun, suffix_rfl, by rintro p ⟨⟩; exact ⟨hb ▸ nil_infix, rfl, fun _ ht => ht⟩⟩
  · exact ⟨nofun, suffix_rfl, by rintro p ⟨⟩; exact ⟨hb ▸ nil_infix, rfl, fun _ ht => ht⟩⟩
  · next value _ hv =>
    split_ifs with hn hl
    · exact absurd (h value hv) (Int.not_le.2 hn)
    · exact ⟨nofun, suffix_rfl, nofun⟩
    · exact ⟨nofun, drop_suffix _ _, by rintro p ⟨⟩; exact ⟨IsPrefix.isInfix <| take_prefix _ _, rfl, fun _ ht => ht⟩⟩

theorem getRight_of_honest {content : Bytes} {c : MultipartContent} (hc : c.stream.rest <:+ content)
    (h : c.honest () = true) :
    GetRight content c () ∧ (multipartContentGet c).1.stream.rest <:+ content := by
  have hs := multipartBoundaryGet_suffix c
  unfold MultipartContent.honest at h
  suffices hr : (multipartContentGet c).2 ≠ .overrun ∧ (multipartContentGet c).1.stream.rest <:+ content ∧
      ∀ part, (multipartContentGet c).2 = .part part → part.body <:+: content ∧
        (multipartContentGet c).1.stream.rest.length < c.stream.rest.length ∧ ToldBy part.header.ring part from
    ⟨⟨hr.1, hr.2.2⟩, hr.2.1⟩
  unfold multipartContentGet
  cases hg : multipartBoundaryGet c with
  | mk c' isFinal =>
    rw [hg] at hs h
    have hcc : c'.stream.rest <:+ content := hs.trans hc
    rcases isFinal with _ | _ | _
    · exact ⟨nofun, hcc, nofun⟩
    · have hh := of_decide_eq_true h
      obtain ⟨hsf, -, hlt⟩ := headerSectionParse_reads headerSectionInit c'.stream
      dsimp only
      split_ifs with hf
      · exact ⟨nofun, hsf.trans hcc, nofun⟩
      · obtain ⟨ho, hsb, hp⟩ := contentBodyGet_right
            (c := ⟨(headerSectionParse headerSectionInit c'.stream).2.1, c'.boundary⟩)
          hh.2 (partOfHeader_header _).2
        refine ⟨ho, hsb.trans (hsf.trans hcc), fun part hpart => ?_⟩
        obtain ⟨hbody, heq, htold⟩ := hp part hpart
        rw [heq, (partOfHeader_header _).1]
        exact ⟨hbody.trans (hsf.trans hcc).isInfix,
          lt_of_le_of_lt hsb.length_le (lt_of_lt_of_le (hlt (Bool.not_eq_false _ ▸ hf)) hs.length_le),
          htold _ (toldBy_partOfHeader hh)⟩
    · exact ⟨nofun, hcc, nofun⟩

/-- **Multipart contents from anywhere are read safely** as long as the header sections of their parts are honest:
bodies lie in the content, the position goes on, and what is known of a part is the value of a field of just this name.
-/
theorem multipartContent_safe (content boundary : Bytes) (calls : List Unit)
    (h : EachStep getStep (fun c call => c.honest call = true) (multipartContentAssign content boundary) calls) :
    EachStep getStep (GetRight content) (multipartContentAssign content boundary) calls :=
  eachStep_of_invariant (fun c : MultipartContent => c.stream.rest <:+ content) _ _
    (fun _ _ hc ho => (getRight_of_honest hc ho).2) (fun _ _ hc ho => (getRight_of_honest hc ho).1) _ _ suffix_rfl h

theorem multipartContent_safe_text :
    EachStep getStep (GetRight (ascii "--b\r\nContent-Length: 2\r\n\r\nhi\r\n--b--\r\n"))
      (multipartContentAssign (ascii "--b\r\nContent-Length: 2\r\n\r\nhi\r\n--b--\r\n") []) [(), ()] :=
  multipartContent_safe _ _ _ (by decide +kernel)

/-- A negative length, and a field whose name is the beginning of another one. -/
theorem not_multipartContent_safe :
    (multipartContentGet (multipartContentAssign (ascii "--b\r\nContent-Length: -5\r\n\r\nhi") [])).2 = .overrun ∧
      (multipartContentGet (multipartContentAssign (ascii "--b\r\nContent: x\r\n\r\n") [])).2 =
        .part { header := ⟨[⟨ascii "Content", ascii "x", none⟩], []⟩, length := some (ascii "x") } := by
  decide +kernel

end UniMrcp.Apt
