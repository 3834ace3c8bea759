import UniMrcp.Apt.TextStream
import UniMrcp.Apt.HeaderField

/-!
# The text message parser

`apt_message_parser_t` parses messages of a start line, a header section and a body from a text stream that is
received in pieces. What is particular to a protocol is in its vtable.
-/

namespace UniMrcp.Apt

open Lib

/-- One round of the loop of `apt_header_field_parse` over folding lines: white space, and the rest of its line. -/
def foldingStep (f : TextStream × List Bytes) : (TextStream × List Bytes) ⊕ (TextStream × List Bytes) :=
  match f.1.rest with
  | [] => .inl f
  | ch :: rest =>
    if textIsWsp ch = false then .inl f
    else
      let r := textLineRead (textWhiteSpacesSkip (f.1.advanceTo rest))
      .inr (r.1, f.2 ++ (r.2.map Str.bytes).toList)

/-- The loop of `apt_header_field_parse` over folding lines. -/
def foldingRead (s : TextStream) : TextStream × List Bytes :=
  whileLoop foldingStep id (fun f => f.1.rest.length) (s, [])

def headerFieldParse (s : TextStream) : TextStream × Option HeaderField :=
  let r := textHeaderRead s
  match r.2 with
  | none => (r.1, none)
  | some (name, value) =>
    if name = [] then (r.1, some ⟨[], value, none⟩)
    else
      let f := foldingRead r.1
      (f.1, some ⟨name, value ++ f.2.flatten, none⟩)

/-- The result of a parsed header section: the section, the stream, and whether its end was found. -/
abbrev HeaderSectionResult := HeaderSection × TextStream × Bool

/-- A round of the loop of `apt_header_section_parse` goes on unless the end of the stream is reached. -/
def sectionNext (header : HeaderSection) (s : TextStream) : HeaderSectionResult ⊕ (HeaderSection × TextStream) :=
  if textIsEos s then .inl (header, s, false) else .inr (header, s)

/-- One round of the loop of `apt_header_section_parse`. -/
def sectionStep (h : HeaderSection × TextStream) : HeaderSectionResult ⊕ (HeaderSection × TextStream) :=
  let r := headerFieldParse h.2
  match r.2 with
  -- malformed header => skip to the next one
  | none => sectionNext h.1 r.1
  | some field =>
    if field.name = [] then .inl (h.1, r.1, true)
    else sectionNext (headerSectionFieldAdd h.1 field).1 r.1

def headerSectionParse (header : HeaderSection) (s : TextStream) : HeaderSectionResult :=
  whileLoop sectionStep (fun h => (h.1, h.2, false)) (fun h => h.2.rest.length) (header, s)

/-! ## Messages -/

/-- The body of a message: what of it was read into its buffer, and its length. -/
structure Body where
  buf : Option Bytes := none
  length : Nat := 0
deriving DecidableEq

/-- A message with a header section and a body, which the parser's context refers to. -/
class TextMessage (M : Type) where
  header : M → HeaderSection
  setHeader : M → HeaderSection → M
  body : M → Body
  setBody : M → Body → M
  header_setHeader : ∀ m h, header (setHeader m h) = h
  setHeader_setHeader : ∀ m h h', setHeader (setHeader m h) h' = setHeader m h'
  setHeader_header : ∀ m, setHeader m (header m) = m
  body_setBody : ∀ m b, body (setBody m b) = b
  setBody_setBody : ∀ m b b', setBody (setBody m b) b' = setBody m b'

structure MessageParserVTable (M : Type) where
  /-- Reads the start line and creates a message, unless it fails. -/
  onStart : TextStream → TextStream × Option M
  /-- It reads on, unless the end of the stream is reached. -/
  onStart_reads : ∀ s, Reads s (onStart s).1
  onHeaderComplete : Option (M → M × Bool)
  onBodyComplete : Option (M → M)

/-- `apt_message_stage_e` -/
inductive MessageStage
  | startLine
  | header
  | body
deriving DecidableEq

/-- `apt_message_status_e` -/
inductive MessageStatus
  | complete
  | incomplete
  | invalid
deriving DecidableEq

/-- `apt_message_parser_t`, less its vtable. -/
structure MessageParser (M : Type) where
  context : Option M
  contentLength : Nat
  stage : MessageStage
  skipLf : Bool

def messageParserCreate (M : Type) : MessageParser M := ⟨none, 0, .startLine, false⟩

structure RunResult (M : Type) where
  parser : MessageParser M
  stream : TextStream
  status : MessageStatus
  message : Option M

variable {M : Type}

/-! ## The parser -/

/-- `apt_crlf_segmentation_test`: segmentation may occur between CR and LF. -/
def crlfSegmentationTest (p : MessageParser M) (s : TextStream) : MessageParser M :=
  if s.rest = [] ∧ s.done.getLast? = some tokenCr then { p with skipLf := true } else p

def pendingLfSkip (p : MessageParser M) (s : TextStream) : TextStream := if p.skipLf then textLfSkip s else s

section Run

variable [TextMessage M] (vt : MessageParserVTable M)

open TextMessage

/-- The text that `apt_message_body_read` reads of the body. -/
def bodyRead (p : MessageParser M) (m : M) (s : TextStream) : Bytes :=
  s.rest.take (p.contentLength - (body m).length)

/-- The message once `apt_message_body_read` has read more of the body. -/
def bodyExtend (m : M) (text : Bytes) : M :=
  setBody m ⟨(body m).buf.map (· ++ text), (body m).length + text.length⟩

def messageComplete (p : MessageParser M) (m : M) (s : TextStream) : RunResult M :=
  ⟨{ p with context := some m, stage := .startLine }, s, .complete, some m⟩

/-- The body of a message is read, after `apt_message_body_read`. -/
def bodyComplete (p : MessageParser M) (m : M) (s : TextStream) : RunResult M :=
  messageComplete p (vt.onBodyComplete.elim m (· m)) s

/-- The body stage of `apt_message_parser_run`. -/
def bodyStage (p : MessageParser M) (m : M) (s : TextStream) : RunResult M :=
  if (body m).buf = none then bodyComplete vt p m s
  else
    let text := bodyRead p m s
    let m' := bodyExtend m text
    let s' := s.advanceTo (s.rest.drop text.length)
    if s.rest.length < p.contentLength - (body m).length then ⟨{ p with context := some m' }, s', .incomplete, none⟩
    else bodyComplete vt p m' s'

/-- The end of the header stage, when the vtable has accepted the header: the body is allocated and its stage begins, if
there is one. -/
def headerAccepted (p : MessageParser M) (m : M) (s : TextStream) : RunResult M :=
  if (body m).length = 0 then messageComplete p m s
  else
    let m' := setBody m ⟨some [], 0⟩
    bodyStage vt { p with context := some m', contentLength := (body m).length, stage := .body } m' s

/-- The header stage of `apt_message_parser_run`. -/
def headerStage (p : MessageParser M) (m : M) (s : TextStream) : RunResult M :=
  let r := headerSectionParse (header m) s
  let m' := setHeader m r.1
  let p' := { crlfSegmentationTest p r.2.1 with context := some m' }
  if r.2.2 = false then ⟨p', r.2.1, .incomplete, none⟩
  else
    match vt.onHeaderComplete with
    | none => headerAccepted vt p' m' r.2.1
    | some onHeaderComplete =>
      let c := onHeaderComplete m'
      if c.2 = false then ⟨{ p' with context := some c.1 }, r.2.1, .invalid, none⟩
      else headerAccepted vt { p' with context := some c.1 } c.1 r.2.1

/-- The start line stage of `apt_message_parser_run`. -/
def startLineStage (p : MessageParser M) (s : TextStream) : RunResult M :=
  let r := vt.onStart s
  match r.2 with
  | none => ⟨p, r.1, if textIsEos r.1 then .incomplete else .invalid, none⟩
  | some m => headerStage vt { crlfSegmentationTest p r.1 with context := some m, stage := .header } m r.1

/-- The stage of the parser. Past the start line the context refers to a message, so that the last case does not
arise. -/
def parserStage (p : MessageParser M) (s : TextStream) : RunResult M :=
  match p.stage, p.context with
  | .startLine, _ => startLineStage vt p s
  | .header, some m => headerStage vt p m s
  | .body, some m => bodyStage vt p m s
  | _, none => ⟨p, s.setEos, .incomplete, none⟩

/-- `apt_message_parser_run`. Every way through the body of its loop leaves the loop. -/
def messageParserRun (p : MessageParser M) (s : TextStream) : RunResult M :=
  parserStage vt { p with skipLf := false } (pendingLfSkip p s)

/-- A connection that receives messages: the stream, the parser, and what its handler knows. -/
structure TextReceiver (M κ : Type) where
  stream : TextStream
  parser : MessageParser M
  handler : κ

def TextReceiver.measure {κ : Type} (c : TextReceiver M κ) : Nat :=
  2 * c.stream.rest.length + if c.parser.stage = .body then 1 else 0

abbrev MessageHandler (M κ : Type) := κ → MessageStatus → Option M → κ × Bool

/-- A round of the loop that runs the parser and calls the handler, which ends with whether the stream has been read. -/
def receiveStep {κ : Type} (handle : MessageHandler M κ) (c : TextReceiver M κ) :
    (TextReceiver M κ × Bool) ⊕ TextReceiver M κ :=
  let r := messageParserRun vt c.parser c.stream
  let h := handle c.handler r.status r.message
  let c' : TextReceiver M κ := ⟨r.stream, r.parser, h.1⟩
  if h.2 = false then .inl (c', false)
  else if textIsEos r.stream then .inl (c', true)
  else .inr c'

def receiveLoop {κ : Type} (handle : MessageHandler M κ) (c : TextReceiver M κ) : TextReceiver M κ × Bool :=
  whileLoop (receiveStep vt handle) (fun c => (c, false)) TextReceiver.measure c

/-- A chunk is stored behind what is left of the last one, parsed and handled, and what was not read is moved to the
front of the buffer, unless the handler asked to stop. -/
def messageReceive {κ : Type} (handle : MessageHandler M κ) (c : TextReceiver M κ) (chunk : Bytes) :
    TextReceiver M κ :=
  let r := receiveLoop vt handle { c with stream := textStreamReceive c.stream chunk }
  if r.2 then { r.1 with stream := (textStreamScroll r.1.stream).1 } else r.1

end Run

end UniMrcp.Apt
