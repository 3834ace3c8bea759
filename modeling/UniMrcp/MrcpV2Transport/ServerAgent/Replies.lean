import UniMrcp.Mrcp.Stream
import UniMrcp.MrcpV2Transport.ServerAgent

/-!
# The answers to malformed requests

`mrcp_server_message_handler` answers a message that is rejected if there is one. The parser hands none out.
-/

namespace UniMrcp.MrcpV2Transport

open Lib Apt
open Mrcp (ChannelId MrcpParser Resource ResourceFactory)

variable {D : Type}

def messageOf (message : Mrcp.Message D) : Message where
  messageType := message.startLine.messageType
  requestId := message.startLine.requestId
  channelId := message.channelId
  statusCode := message.startLine.statusCode

/-- What the parser returns, as `mrcp_server_message_handler` reads it; `reply` are the chunks of the response. -/
def parsedOf (reply : Mrcp.Message D → List Chunk) (status : MessageStatus) (message : Option (Mrcp.Message D)) :
    Parsed where
  status := status
  message := (message.filter fun m => status != .invalid || m.resource.isSome).map messageOf
  chunks := message.elim [] reply

/-- `mrcp_server_message_handler`, with the parser's message. -/
def ServerAgent.parsedMessageHandler (A : ServerProfile) (conn : Nat) (reply : Mrcp.Message D → List Chunk) :
    MessageHandler (Mrcp.Message D) ServerAgent := fun s status message =>
  (s.messageHandler A conn (parsedOf reply status message), true)

/-- The parser of a connection, which has no resource for messages of version 1. -/
def connectionParser (factory : ResourceFactory D) : MrcpParser D := ⟨factory, none⟩

/-- The receiver of a connection: its stream and parser, and the agent. -/
abbrev ConnectionReceiver (D : Type) := TextReceiver (Mrcp.Message D) ServerAgent

section Receive

variable (A : ServerProfile) (factory : ResourceFactory D) (conn : Nat) (reply : Mrcp.Message D → List Chunk)

/-- `mrcp_server_poller_signal_process`, for a chunk of bytes that is received over a connection. -/
def connectionReceive (r : ConnectionReceiver D) (chunk : Bytes) : ConnectionReceiver D × Unit :=
  (if (r.handler.connection conn).sock then
    messageReceive (Mrcp.parserVTable (connectionParser factory)) (ServerAgent.parsedMessageHandler A conn reply) r chunk
  else r, ())

/-- A round of the loop for a chunk begins with `r'`. -/
def Round (r : ConnectionReceiver D) (chunk : Bytes) (r' : ConnectionReceiver D) : Prop :=
  (r.handler.connection conn).sock = true ∧
    Relation.ReflTransGen
      (fun r r' => receiveStep (Mrcp.parserVTable (connectionParser factory))
        (ServerAgent.parsedMessageHandler A conn reply) r = .inr r')
      { r with stream := textStreamReceive r.stream chunk } r'

def roundResult (r : ConnectionReceiver D) : RunResult (Mrcp.Message D) :=
  messageParserRun (Mrcp.parserVTable (connectionParser factory)) r.parser r.stream

def roundLog (r : ConnectionReceiver D) : List ServerEvent :=
  (ServerAgent.parsedMessageHandler A conn reply r.handler (roundResult factory r).status
    (roundResult factory r).message).1.log

/-! ## Messages that are rejected -/

def channelResource (m : Mrcp.Message D) : Option (ChannelId × Resource D) :=
  (Mrcp.channelIdParse m.channelId m.header).bind fun r =>
    (Mrcp.resourceFind factory r.1.resourceName).map fun resource => (r.1, resource)

/-- A message of version 2 for a known resource, with a method or an event that the resource does not have. -/
def Unrecognized (m : Mrcp.Message D) : Prop :=
  m.startLine.version = .v2 ∧
    ∃ r, channelResource factory m = some r ∧ (Mrcp.methodIdSet m.startLine r.2).2 = false

def roundCompletes (r : ConnectionReceiver D) : Option (Mrcp.Message D) :=
  headerCompleted (Mrcp.parserVTable (connectionParser factory)) r.parser r.stream

/-- A message that the parser rejects is answered once, if its channel identifier names a known resource; one that it
accepts is given to at most one channel. -/
structure RepliesRight (r : ConnectionReceiver D) : Prop where
  rejected : ∀ m id resource, (roundResult factory r).status = .invalid → roundCompletes factory r = some m →
    channelResource factory m = some (id, resource) →
    roundLog A factory conn reply r = r.handler.log ++
      [.sent conn ⟨.response, m.startLine.requestId, id, statusCodeUnrecognizedMessage⟩]
  accepted : ∀ m, (roundResult factory r).status = .complete → (roundResult factory r).message = some m →
    roundLog A factory conn reply r = r.handler.log ∨
      ∃ ch, roundLog A factory conn reply r = r.handler.log ++ [.received ch (messageOf m)]

/-- No message is rejected in a round though its channel identifier names a known resource. -/
def Recognized (r : ConnectionReceiver D) : Prop := ∀ m, roundCompletes factory r = some m → ¬Unrecognized factory m

variable {A factory conn reply}

theorem onHeaderComplete_of_channelResource {m : Mrcp.Message D} {id : ChannelId} {resource : Resource D}
    (h : channelResource factory m = some (id, resource)) :
    (Mrcp.parserOnHeaderComplete (connectionParser factory) m).2 = false ↔ Unrecognized factory m := by
  obtain ⟨⟨id', header⟩, hid, hf⟩ := Option.bind_eq_some_iff.1 h
  obtain ⟨resource', hrs, heq⟩ := Option.map_eq_some_iff.1 hf
  obtain ⟨rfl, rfl⟩ := Prod.mk.inj heq
  unfold Mrcp.parserOnHeaderComplete
  by_cases hv : m.startLine.version = .v2
  · have hs : (Mrcp.channelResourceSet (connectionParser factory) m).2 =
        (Mrcp.methodIdSet m.startLine resource').2 := by
      simp only [Mrcp.channelResourceSet, hid, connectionParser, hrs]
      rfl
    simp only [hv, if_true, hs]
    cases hm : (Mrcp.methodIdSet m.startLine resource').2 with
    | true =>
      refine iff_of_false nofun ?_
      rintro ⟨-, r, hr, hrf⟩
      obtain rfl := Option.some.inj (h.symm.trans hr)
      exact Bool.false_ne_true (hrf.symm.trans hm)
    | false => exact iff_of_true (hs.trans hm) ⟨hv, _, h, hm⟩
  · simp only [if_neg hv, if_true]
    exact iff_of_false nofun fun hu => hv hu.1

theorem roundLog_of_invalid {r : ConnectionReceiver D} (h : (roundResult factory r).status = .invalid) :
    roundLog A factory conn reply r = r.handler.log := by
  have hn : (roundResult factory r).message = none :=
    messageParserRun_proper _ _ (by unfold roundResult at h; rw [h]; exact nofun)
  unfold roundLog ServerAgent.parsedMessageHandler
  rw [hn]
  rfl

omit factory reply in
theorem messageHandler_complete (s : ServerAgent) (message : Message) (chunks : List Chunk) :
    (s.messageHandler A conn ⟨.complete, some message, chunks⟩).log = s.log ∨
      ∃ ch, (s.messageHandler A conn ⟨.complete, some message, chunks⟩).log = s.log ++ [.received ch message] := by
  have ha : (s.channelAssociate conn message).1.log = s.log := by
    unfold ServerAgent.channelAssociate
    dsimp only
    cases s.connectionChannelFind conn (idResourceGenerate message.channelId) with
    | some ch => rfl
    | none => cases s.pendingChannelTable.lookup (idResourceGenerate message.channelId) <;> rfl
  unfold ServerAgent.messageHandler
  dsimp only
  cases (s.channelAssociate conn message).2 with
  | none => exact Or.inl ha
  | some ch => exact Or.inr ⟨ch, congrArg (· ++ [ServerEvent.received ch message]) ha⟩

theorem repliesRight_iff (r : ConnectionReceiver D) :
    RepliesRight A factory conn reply r ↔ Recognized factory r := by
  constructor
  · rintro h m hc ⟨hv, ⟨id, resource⟩, hr, ht⟩
    have hi : (roundResult factory r).status = .invalid :=
      (invalid_iff_refused rfl hc).2
        ((onHeaderComplete_of_channelResource hr).2 ⟨hv, _, hr, ht⟩)
    have hl := h.rejected m id resource hi hc hr
    rw [roundLog_of_invalid hi] at hl
    simp at hl
  · intro h
    constructor
    · intro m id resource hi hc hr
      have hf := (invalid_iff_refused rfl hc).1 hi
      exact absurd ((onHeaderComplete_of_channelResource hr).1 hf) (h m hc)
    · intro m hco hm
      unfold roundLog ServerAgent.parsedMessageHandler
      rw [hco, hm]
      exact messageHandler_complete r.handler (messageOf m) (reply m)

variable (A factory conn reply)

/-- **The answers to malformed requests.** Whatever is received over a connection, every message that the parser rejects
is answered, if its resource is known, and every one that it accepts is given to at most one channel, if and only if no
message of version 2 for a known resource has a method or an event that it does not have. -/
theorem replies_iff (r : ConnectionReceiver D) (chunks : List Bytes) :
    EachStep (connectionReceive A factory conn reply)
        (fun r chunk => ∀ r', Round A factory conn reply r chunk r' → RepliesRight A factory conn reply r') r chunks ↔
      EachStep (connectionReceive A factory conn reply)
        (fun r chunk => ∀ r', Round A factory conn reply r chunk r' → Recognized factory r') r chunks := by
  simp only [repliesRight_iff]

end Receive

def answeringProfile : ServerProfile where
  port := 1544

def openAgent : ServerAgent := { connection := fun _ => { sock := true } }

def unknownMethod : Bytes := ascii "MRCP/2.0 60 FLY 7\r\nChannel-Identifier: a@speechsynth\r\n\r\n"

/-- The request is rejected, and not answered. -/
theorem not_replies_unknownMethod :
    let reply : Mrcp.Message Unit → List Chunk := fun _ => [(.complete, true)]
    let r : ConnectionReceiver Unit := ⟨textStreamInit ⟨[], []⟩, messageParserCreate _, openAgent⟩
    ¬EachStep (connectionReceive answeringProfile Mrcp.synthParser.resourceFactory 0 reply)
      (fun r chunk => ∀ r', Round answeringProfile Mrcp.synthParser.resourceFactory 0 reply r chunk r' →
        RepliesRight answeringProfile Mrcp.synthParser.resourceFactory 0 reply r') r [unknownMethod] := by
  intro reply r h
  have hright := (repliesRight_iff _).1 (h.1 _ ⟨rfl, .refl⟩)
  have hcheck : (roundCompletes Mrcp.synthParser.resourceFactory
      { r with stream := textStreamReceive r.stream unknownMethod }).elim false (fun m =>
        m.startLine.version == .v2 && (channelResource Mrcp.synthParser.resourceFactory m).elim false fun found =>
          !(Mrcp.methodIdSet m.startLine found.2).2) = true := by decide +kernel
  cases hm : roundCompletes Mrcp.synthParser.resourceFactory
      { r with stream := textStreamReceive r.stream unknownMethod } with
  | none =>
    rw [hm] at hcheck
    cases hcheck
  | some m =>
    rw [hm] at hcheck
    obtain ⟨hver, hfound⟩ := Bool.and_eq_true_iff.1 hcheck
    cases hres : channelResource Mrcp.synthParser.resourceFactory m with
    | none =>
      rw [hres] at hfound
      cases hfound
    | some found =>
      rw [hres] at hfound
      exact hright m hm ⟨beq_iff_eq.1 hver, found, hres, by simpa using hfound⟩

end UniMrcp.MrcpV2Transport
