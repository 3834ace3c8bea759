import UniMrcp.Apt.TextMessage.Resync
import UniMrcp.Mrcp.Message

/-!
# The MRCP parser

The vtable of the text message parser for MRCP.
-/

namespace UniMrcp.Mrcp

open Lib Apt

variable {D : Type}

/-- `mrcp_parser_t`, less its text message parser. -/
structure MrcpParser (D : Type) where
  resourceFactory : ResourceFactory D
  resource : Option (Resource D)

/-- The message that `mrcp_parser_on_start` creates for a start line. -/
def messageOfStartLine (parser : MrcpParser D) (line : Str) : Option (Message D) := do
  let startLine ← startLineParse line
  let message := { messageCreate D with startLine := startLine }
  if startLine.version = .v1 then
    let resource ← parser.resource
    let message := { message with channelId := { message.channelId with resourceName := resource.name } }
    let r := messageResourceSet message resource
    if r.2 then some r.1 else none
  else some message

def parserOnStart (parser : MrcpParser D) (stream : TextStream) : TextStream × Option (Message D) :=
  let r := textLineRead stream
  (r.1, r.2.bind (messageOfStartLine parser))

/-- The channel identifier of a message of version 2 is parsed and its resource associated. -/
def channelResourceSet (parser : MrcpParser D) (message : Message D) : Message D × Bool :=
  match channelIdParse message.channelId message.header with
  | none => (message, false)
  | some (channelId, header) =>
    let message := { message with channelId := channelId, header := header }
    match resourceFind parser.resourceFactory channelId.resourceName with
    | none => (message, false)
    | some resource => messageResourceSet message resource

/-- The content length, if it is there and not zero, is the length of the body. -/
def contentLengthSet (message : Message D) : Message D :=
  if genericHeaderPropertyCheck message genericHeaderContentLength then
    match genericHeaderGet message with
    | some header =>
      if header.contentLength = 0 then message
      else { message with body := { message.body with length := header.contentLength } }
    | none => message
  else message

def parserOnHeaderComplete (parser : MrcpParser D) (message : Message D) : Message D × Bool :=
  let r := if message.startLine.version = .v2 then channelResourceSet parser message else (message, true)
  if r.2 then (contentLengthSet { r.1 with header := headerFieldsParse r.1.header }, true) else r

def parserVTable (parser : MrcpParser D) : MessageParserVTable (Message D) where
  onStart := parserOnStart parser
  onStart_reads s := textLineRead_reads s
  onHeaderComplete := some (parserOnHeaderComplete parser)
  onBodyComplete := none

def synthMethodStringTable : List StrTableItem :=
  [⟨ascii "SET-PARAMS", 10⟩, ⟨ascii "GET-PARAMS", 0⟩, ⟨ascii "SPEAK", 1⟩, ⟨ascii "STOP", 1⟩, ⟨ascii "PAUSE", 0⟩,
    ⟨ascii "RESUME", 0⟩, ⟨ascii "BARGE-IN-OCCURRED", 0⟩, ⟨ascii "CONTROL", 0⟩, ⟨ascii "DEFINE-LEXICON", 0⟩]

def synthEventStringTable : List StrTableItem := [⟨ascii "SPEECH-MARKER", 3⟩, ⟨ascii "SPEAK-COMPLETE", 3⟩]

/-- A synthesizer resource with the methods and events of `mrcp_synth_resource_create`, which leaves all header fields
to the generic header. -/
def synthResource : Resource Unit where
  name := ascii "speechsynth"
  methodStrTable _ := synthMethodStringTable
  methodCount := 9
  eventStrTable _ := synthEventStringTable
  eventCount := 2
  resourceHeaderVTable _ := ⟨(), fun data _ _ => (data, false), [], 0⟩

def synthParser : MrcpParser Unit := ⟨⟨fun name => if name = synthResource.name then some synthResource else none⟩, none⟩

/-! ## The MRCP parser after a message -/

theorem parserVTable_startsWithLine (parser : MrcpParser D) :
    StartsWithLine (parserVTable parser) (messageOfStartLine parser) := ⟨fun _ => rfl, fun _ => rfl⟩

/-- **After a message** that is complete or invalid, in a run that completes no refused header, the parser finds in what
is left and in what follows what a new parser finds there. -/
theorem messagesAfter_resync (parser : MrcpParser D) (p : MessageParser (Message D)) (s : TextStream)
    (hend : (messageParserRun (parserVTable parser) p s).status ≠ .incomplete)
    (hrefused : headerRefused (parserVTable parser) p s = false) (chunks : List Bytes) :
    messagesAfter (parserVTable parser) (messageParserRun (parserVTable parser) p s).parser
        (messageParserRun (parserVTable parser) p s).stream chunks =
      messagesAfter (parserVTable parser) (messageParserCreate (Message D))
        (messageParserRun (parserVTable parser) p s).stream chunks := by
  have hstage := stage_of_not_headerRefused hrefused hend
  exact messagesAfter_restarted (parserVTable_startsWithLine parser) (Or.inr ⟨hstage, rfl⟩) _ _

structure MessageView where
  requestId : Nat
  methodName : Bytes
  fields : List (Bytes × Bytes)
  body : Option Bytes
deriving DecidableEq

/-- The request-id, the method, the header fields and the body of a message. -/
def Message.view (m : Message D) : MessageView :=
  ⟨m.startLine.requestId, m.startLine.methodName, m.header.headerSection.ring.map fun f => (f.name, f.value), m.body.buf⟩

def speakWithoutChannel : Bytes := ascii "MRCP/2.0 40 SPEAK 1\r\nFoo: bar\r\n\r\n"

def stopOfChannel : Bytes := ascii "MRCP/2.0 61 STOP 2\r\nChannel-Identifier: a@speechsynth\r\n\r\n"

/-- The STOP request that follows a message on the same connection is found. -/
theorem messagesAfter_resync_stop :
    ((messagesAfter (parserVTable synthParser)
      (messageParserRun (parserVTable synthParser) (messageParserCreate _) (textStreamInit ⟨stopOfChannel, []⟩)).parser
      (messageParserRun (parserVTable synthParser) (messageParserCreate _) (textStreamInit ⟨stopOfChannel, []⟩)).stream
      [stopOfChannel]).map Message.view) = [⟨2, ascii "STOP", [], none⟩] := by
  rw [messagesAfter_resync synthParser (messageParserCreate _) (textStreamInit ⟨stopOfChannel, []⟩)
    (by decide +kernel) (by decide +kernel)]
  decide +kernel

/-- After a SPEAK request that was refused a STOP request is found as SPEAK, with the request-id and the header fields
of the one that was refused. -/
theorem messagesAfter_refused :
    (messageParserRun (parserVTable synthParser) (messageParserCreate _)
        (textStreamInit ⟨speakWithoutChannel, []⟩)).status = .invalid ∧
      (messagesAfter (parserVTable synthParser)
        (messageParserRun (parserVTable synthParser) (messageParserCreate _)
          (textStreamInit ⟨speakWithoutChannel, []⟩)).parser
        (messageParserRun (parserVTable synthParser) (messageParserCreate _)
          (textStreamInit ⟨speakWithoutChannel, []⟩)).stream [stopOfChannel]).map Message.view =
        [⟨1, ascii "SPEAK", [(ascii "Foo", ascii "bar")], none⟩] ∧
      (messagesAfter (parserVTable synthParser) (messageParserCreate _)
        (messageParserRun (parserVTable synthParser) (messageParserCreate _)
          (textStreamInit ⟨speakWithoutChannel, []⟩)).stream [stopOfChannel]).map Message.view =
        [⟨2, ascii "STOP", [], none⟩] := by
  refine ⟨?_, ?_, ?_⟩ <;> decide +kernel

end UniMrcp.Mrcp
