import UniMrcp.Apt.TextMessage.Chunked

/-!
# The RTSP generator

The start lines of RTSP, and the vtable of the text message generator for RTSP. Every insertion is checked.
-/

namespace UniMrcp.UniRtsp

open Apt List
open Mrcp (decimal)

/-! ## Start lines -/

/-- `rtsp_version_e` -/
inductive Version
  | unknown
  | v1
deriving DecidableEq

def Version.number : Version → Nat
  | .unknown => 0
  | .v1 => 1

def rtspName : Bytes := ascii "RTSP"

def rtspMethodStringTable : List StrTableItem :=
  [⟨ascii "SETUP", 0⟩, ⟨ascii "ANNOUNCE", 0⟩, ⟨ascii "TEARDOWN", 0⟩, ⟨ascii "DESCRIBE", 0⟩, ⟨ascii "OPTIONS", 0⟩]

def rtspMethodCount : Nat := 5

/-- `rtsp_start_line_t`. The name of a method is found by its identifier. -/
inductive StartLine
  | unknown
  | request (methodId : Nat) (url : Bytes) (version : Version)
  | response (version : Version) (statusCode : Nat) (reason : Bytes)
deriving DecidableEq

def versionGenerate (version : Version) : TextWriter := nameVersionGenerate rtspName version.number

def requestLineGenerate (methodId : Nat) (url : Bytes) (version : Version) : TextWriter := fun b =>
  match stringTableStrGet rtspMethodStringTable rtspMethodCount methodId with
  | none => (b, false)
  | some methodName =>
    ((((textStringInsert methodName).andThen textSpaceInsert).andThen (textStringInsert url)).andThen
      textSpaceInsert).andThen (versionGenerate version) b

def statusLineGenerate (version : Version) (statusCode : Nat) (reason : Bytes) : TextWriter :=
  ((((versionGenerate version).andThen textSpaceInsert).andThen (textSizeValueInsert statusCode)).andThen
    textSpaceInsert).andThen (textStringInsert reason)

def startLineGenerate : StartLine → TextWriter
  | .unknown => fun b => (b, false)
  | .request methodId url version => (requestLineGenerate methodId url version).andThen textEolInsert
  | .response version statusCode reason => (statusLineGenerate version statusCode reason).andThen textEolInsert

/-- `rtsp_message_t`, with the header section of its header. -/
structure Message where
  startLine : StartLine
  headerSection : HeaderSection
  body : Body
deriving DecidableEq

instance : TextMessage Message where
  header m := m.headerSection
  setHeader m h := { m with headerSection := h }
  body m := m.body
  setBody m b := { m with body := b }
  header_setHeader _ _ := rfl
  setHeader_setHeader _ _ _ := rfl
  setHeader_header _ := rfl
  body_setBody _ _ := rfl
  setBody_setBody _ _ _ := rfl

def generatorOnStart (message : Message) (b : TextBuffer) : Message × TextBuffer × Bool :=
  (message, startLineGenerate message.startLine b)

/-- `generator_vtable`, without a handler of complete headers. -/
def generatorVTable : MessageGeneratorVTable Message := ⟨generatorOnStart, none⟩

def versionText (version : Version) : Bytes := nameVersionText rtspName version.number

/-- The text of a start line; there is none for an unknown message or an unknown method. -/
def startLineText : StartLine → Option Bytes
  | .unknown => none
  | .request methodId url version =>
    (stringTableStrGet rtspMethodStringTable rtspMethodCount methodId).map fun methodName =>
      methodName ++ [tokenSp] ++ url ++ [tokenSp] ++ versionText version
  | .response version statusCode reason =>
    some (versionText version ++ [tokenSp] ++ decimal statusCode ++ [tokenSp] ++ reason)

/-- The start line and the header section of a message, if it has a start line. -/
def headerText (message : Message) : Option Bytes :=
  (startLineText message.startLine).map fun line =>
    line ++ crlf ++ (message.headerSection.ring.flatMap fieldLine ++ crlf)

def Message.headerNeed (message : Message) : Nat := ((headerText message).map List.length).getD 0

/-! ## What is generated when there is room -/

theorem emits_versionGenerate (version : Version) : Emits (versionGenerate version) (versionText version) :=
  emits_nameVersionGenerate rtspName (by cases version <;> rfl)

variable {startLine : StartLine}

theorem emits_startLineGenerate {line : Bytes} (h : startLineText startLine = some line) :
    Emits (startLineGenerate startLine) (line ++ crlf) := by
  cases startLine with
  | unknown => simp [startLineText] at h
  | request methodId url version =>
    obtain ⟨methodName, hm, rfl⟩ := Option.map_eq_some_iff.1 h
    have hl := (((emits_textStringInsert methodName).andThen emits_textSpaceInsert).andThen
      (emits_textStringInsert url)).andThen emits_textSpaceInsert
    have hr : requestLineGenerate methodId url version =
        ((((textStringInsert methodName).andThen textSpaceInsert).andThen (textStringInsert url)).andThen
          textSpaceInsert).andThen (versionGenerate version) := by
      unfold requestLineGenerate
      rw [hm]
    rw [startLineGenerate, hr]
    exact (hl.andThen (emits_versionGenerate version)).andThen emits_textEolInsert
  | response version statusCode reason =>
    obtain rfl := Option.some.inj h
    have hl := (((emits_versionGenerate version).andThen emits_textSpaceInsert).andThen
      (emits_textSizeValueInsert statusCode)).andThen emits_textSpaceInsert
    exact (hl.andThen (emits_textStringInsert reason)).andThen emits_textEolInsert

theorem startLineGenerate_refused (h : startLineText startLine = none) (b : TextBuffer) :
    startLineGenerate startLine b = (b, false) := by
  cases startLine with
  | unknown => rfl
  | request methodId url version =>
    have hm : stringTableStrGet rtspMethodStringTable rtspMethodCount methodId = none := by
      simpa [startLineText] using h
    simp [startLineGenerate, TextWriter.andThen, requestLineGenerate, hm]
  | response version statusCode reason => simp [startLineText] at h

theorem headerText_of_some {message : Message} {text : Bytes} (h : headerText message = some text) :
    HeaderText generatorVTable message message.headerNeed message text true := by
  obtain ⟨line, hl, rfl⟩ := Option.map_eq_some_iff.1 h
  have hn : message.headerNeed =
      (line ++ crlf ++ (message.headerSection.ring.flatMap fieldLine ++ crlf)).length := by
    simp [Message.headerNeed, headerText, hl]
  intro size hz
  simp only [length_append] at hn
  have ht : startLineGenerate message.startLine (textBufferInit size) = _ :=
    emits_startLineGenerate hl _ (by rw [textBufferInit_room, length_append]; omega)
  have hs : headerSectionGenerate message.headerSection ((textBufferInit size).put (line ++ crlf)) = _ :=
    headerSectionGenerate_of_room _ _ (by
      rw [put_room, textBufferInit_room]
      simp only [length_append]
      omega)
  simp only [headerGenerate, generatorVTable, generatorOnStart, ht, Bool.true_eq_false, if_false,
    TextMessage.header, hs, put_put]
  simp only [TextBuffer.put, textBufferInit_text, textBufferInit_room, nil_append, append_assoc,
    length_append, Prod.mk.injEq, TextBuffer.mk.injEq, true_and, and_true]
  omega

theorem headerText_of_message (message : Message) :
    ∃ text ok, HeaderText generatorVTable message message.headerNeed message text ok := by
  cases ht : headerText message with
  | some text => exact ⟨text, true, headerText_of_some ht⟩
  | none =>
    refine ⟨[], false, fun size _ => ?_⟩
    have hn : message.headerNeed = 0 := by simp [Message.headerNeed, ht]
    have hr := startLineGenerate_refused (Option.map_eq_none_iff.1 ht) (textBufferInit size)
    simp only [headerGenerate, generatorVTable, generatorOnStart, hr, if_true, hn]
    rfl

end UniMrcp.UniRtsp
