import Mathlib.Data.List.Perm.Basic
import UniMrcp.MrcpV2Transport.ClientAgent

/-!
# One response for each request of a client channel

A request is responded to at most once, and nothing reaches a channel after its removal was answered.
-/

namespace UniMrcp.MrcpV2Transport

open Apt Mrcp Lib List Heap ClientEvent ControlChannel ClientAgent
open Option (some.inj mem_def)
open MrcpServer (ControlDescriptor)

variable {A : ClientProfile} {s t : ClientAgent} {ch : Nat}

/-- The identifier of the request that is handed to the agent for a channel. -/
def ClientEvent.handedId (ch : Nat) : ClientEvent → Option Nat
  | .handed key message => if key = ch then some message.requestId else none
  | _ => none

def ClientEvent.answeredId (ch : Nat) : ClientEvent → Option Nat
  | .received key message => if key = ch ∧ message.messageType = .response then some message.requestId else none
  | _ => none

def ClientEvent.removes (ch : Nat) : ClientEvent → Bool
  | .removed key _ => key == ch
  | _ => false

def ClientEvent.reaches (ch : Nat) : ClientEvent → Bool
  | .received key _ | .disconnected key | .fired key => key == ch
  | _ => false

def handedIds (ch : Nat) (log : List ClientEvent) : List Nat := log.filterMap (ClientEvent.handedId ch)

def answeredIds (ch : Nat) (log : List ClientEvent) : List Nat := log.filterMap (ClientEvent.answeredId ch)

def ClientAgent.gone (s : ClientAgent) (ch : Nat) : Bool := s.log.any (ClientEvent.removes ch)

def ControlChannel.activeIds (channel : ControlChannel) : List Nat :=
  (channel.activeRequest.map Message.requestId).toList

variable (key : Nat)

@[simp] theorem handedId_handed (message : Message) :
    handedId ch (.handed key message) = if key = ch then some message.requestId else none := rfl

@[simp] theorem handedId_received (message : Message) : handedId ch (.received key message) = none := rfl

@[simp] theorem handedId_disconnected : handedId ch (.disconnected key) = none := rfl

@[simp] theorem answeredId_received (message : Message) : answeredId ch (.received key message) =
    if key = ch ∧ message.messageType = .response then some message.requestId else none := rfl

@[simp] theorem answeredId_handed (message : Message) : answeredId ch (.handed key message) = none := rfl

@[simp] theorem answeredId_disconnected : answeredId ch (.disconnected key) = none := rfl

def ClientAgent.responseChannel (s : ClientAgent) (c : Nat) (message : Message) : Option Nat :=
  if message.messageType = .response then s.connectionChannelFind c (idResourceGenerate message.channelId) else none

/-- Responses are expected: each is to the request that its channel waits for, and no two are for one channel. -/
def ClientAgent.expects (s : ClientAgent) (c : Nat) (messages : List Message) : Bool :=
  (messages.all fun message => (s.responseChannel c message).all fun ch =>
    (s.channel ch).activeRequest.any (·.requestId == message.requestId)) &&
  decide (messages.filterMap (s.responseChannel c)).Nodup

/-- **The condition on a step.** A channel is not used after its removal, nor removed while its timer is set, nor given
an identifier of another one; it sends one request at a time; and responses are expected. -/
def ClientAgent.orderly (A : ClientProfile) (s : ClientAgent) : ClientInput → Bool
  | .modify ch descriptor _ =>
    !s.gone ch && (descriptor.port == 0 || (s.channel ch).connection.isSome || descriptor.connectionType != .existing ||
      (s.connectionFind A descriptor).all fun c =>
        (s.connectionChannelFind c (idResourceGenerate ⟨descriptor.sessionId, descriptor.resourceName⟩)).isNone)
  | .remove ch => !s.gone ch && !(s.channel ch).requestTimer
  | .send ch _ chunks =>
    !s.gone ch && ((s.channel ch).activeRequest.isNone || !transmitted chunks)
  | .receive c messages => s.expects c messages
  | _ => true

/-! ## The invariant -/

/-- **The invariant of the agent**, while a connection is being closed for the channels `closing`. -/
structure Orderly (closing : List Nat) (s : ClientAgent) : Prop where
  linked : Heap.Linked (fun ch => s.gone ch = false) s.toHeap
  served : ∀ ch, (handedIds ch s.log).Perm (answeredIds ch s.log ++ (s.channel ch).activeIds)
  active : ∀ ch, s.gone ch = false → (s.channel ch).activeRequest.isSome →
    (∃ c, (s.channel ch).connection = some c ∧ (s.connection c).sock) ∨ ch ∈ closing
  closing : ∀ ch ∈ closing, s.gone ch = false
  timers : ∀ ch, s.gone ch → (s.channel ch).requestTimer = false
  removed : ∀ ch, (s.channel ch).removed → s.gone ch
  received : ∀ c, (s.connection c).received = []
  created : ∀ ch c, (s.channel ch).connection = some c → c < s.connectionCount
  quiet : s.log.Pairwise fun earlier later => ∀ ch, earlier.removes ch → later.reaches ch = false

variable {closing : List Nat}

theorem gone_append (s : ClientAgent) (heap : Heap) (list : List Nat) (events : List ClientEvent) (ch : Nat) :
    gone ⟨heap, list, s.log ++ events⟩ ch = (s.gone ch || events.any (removes ch)) :=
  any_append

variable {f : ControlChannel → ControlChannel}

theorem Orderly.modify (h : Orderly closing s) {k : Nat} (events : List ClientEvent)
    (hp : (f (s.channel k)).connection = (s.channel k).connection ∧
      (f (s.channel k)).identifier = (s.channel k).identifier ∧ (f (s.channel k)).removed = (s.channel k).removed)
    (he : ∀ event ∈ events, ∀ ch, event.removes ch = false ∧ (event.reaches ch → s.gone ch = false))
    (htm : s.gone k → (f (s.channel k)).requestTimer = false)
    (ht : s.gone k = false → (f (s.channel k)).activeRequest.isSome →
      (∃ c, (s.channel k).connection = some c ∧ (s.connection c).sock) ∨ k ∈ closing)
    (hs : ((s.channel k).activeIds ++ handedIds k events).Perm (answeredIds k events ++ (f (s.channel k)).activeIds))
    (ho : ∀ ch, ch ≠ k → handedIds ch events = [] ∧ answeredIds ch events = []) :
    Orderly closing { s with toHeap := s.toHeap.modifyChannel k f, log := s.log ++ events } := by
  have hg : ∀ ch, gone { s with toHeap := s.toHeap.modifyChannel k f, log := s.log ++ events } ch =
      s.gone ch := by
    intro ch
    rw [gone_append s, any_eq_false.2 fun event hm => by rw [(he event hm ch).1]; exact Bool.false_ne_true,
      Bool.or_false]
  have hh : ∀ ch, (s.toHeap.modifyChannel k f).channel ch = if ch = k then f (s.channel k) else s.channel ch :=
    fun ch => channel_modifyChannel k ch f
  have ha : ∀ ch, ((s.toHeap.modifyChannel k f).channel ch).connection = (s.channel ch).connection :=
    channel_keeps (h := s.toHeap) (·.connection) hp.1
  refine ⟨?_, fun ch => ?_, fun ch => ?_, fun ch hm => ?_, fun ch => ?_, fun ch hre => ?_, h.received,
    fun ch c hc => h.created ch c ((ha ch).symm.trans hc), ?_⟩
  · simp only [hg]
    refine h.linked.congr (fun ch _ => ⟨ha ch, fun _ => ?_⟩) (fun _ => ⟨rfl, rfl⟩) h.linked.fresh
    exact channel_keeps (h := s.toHeap) (·.identifier) hp.2.1 ch
  · show (handedIds ch (s.log ++ events)).Perm (answeredIds ch (s.log ++ events) ++
      ((s.toHeap.modifyChannel k f).channel ch).activeIds)
    have hap : handedIds ch (s.log ++ events) = handedIds ch s.log ++ handedIds ch events ∧
        answeredIds ch (s.log ++ events) = answeredIds ch s.log ++ answeredIds ch events :=
      ⟨filterMap_append, filterMap_append⟩
    rw [hap.1, hap.2, hh ch]
    split_ifs with hk
    · subst hk
      have hb := (h.served ch).append_right (handedIds ch events)
      rw [append_assoc] at hb ⊢
      exact hb.trans (hs.append_left _)
    · rw [(ho ch hk).1, (ho ch hk).2, append_nil, append_nil]
      exact h.served ch
  · rw [hg]
    show s.gone ch = false → ((s.toHeap.modifyChannel k f).channel ch).activeRequest.isSome = true → (∃ c,
      ((s.toHeap.modifyChannel k f).channel ch).connection = some c ∧ (s.connection c).sock) ∨ ch ∈ closing
    rw [ha ch, hh ch]
    split_ifs with hk
    · subst hk
      exact ht
    · exact h.active ch
  · rw [hg]
    exact h.closing ch hm
  · rw [hg]
    show s.gone ch = true → ((s.toHeap.modifyChannel k f).channel ch).requestTimer = false
    rw [hh ch]
    split_ifs with hk
    · subst hk
      exact htm
    · exact h.timers ch
  · rw [hg]
    exact h.removed ch ((channel_keeps (h := s.toHeap) (·.removed) hp.2.2 ch).symm.trans hre)
  · refine pairwise_append.2 ⟨h.quiet, ?_, fun earlier her later hl ch hr => ?_⟩
    · refine pairwise_of_forall_mem_list fun earlier her later _ ch hr => ?_
      rw [(he earlier her ch).1] at hr
      cases hr
    · by_contra hrc
      have hn := (he later hl ch).2 (by simpa using hrc)
      have hth : s.gone ch := any_eq_true.2 ⟨earlier, her, hr⟩
      rw [hth] at hn
      cases hn

theorem Orderly.see (h : Orderly closing s) (k : Nat) {events : List ClientEvent}
    (he : ∀ event ∈ events, ∀ ch, event.removes ch = false ∧ (event.reaches ch → s.gone ch = false))
    (hs : (handedIds k events).Perm (answeredIds k events))
    (ho : ∀ ch, ch ≠ k → handedIds ch events = [] ∧ answeredIds ch events = []) :
    Orderly closing { s with log := s.log ++ events } := by
  have hsm : s.toHeap.modifyChannel k id = s.toHeap := modifyChannel_same rfl
  have hm := h.modify (k := k) (f := id) events ⟨rfl, rfl, rfl⟩ he (h.timers k) (h.active k)
    (perm_append_comm.trans (hs.append_right _)) ho
  rw [hsm] at hm
  exact hm

theorem requestRefuse_orderly (h : Orderly closing s) (hg : s.gone ch = false) (message : Message) :
    Orderly closing ((s.see (.handed ch message)).requestCancel ch message) := by
  have hr : ∀ response : Message, response.messageType = .response → response.requestId = message.requestId →
      Orderly closing { s with log := s.log ++ [.handed ch message, .received ch response] } := by
    intro response hrs hid
    refine h.see ch ?_ ?_ ?_
    · intro event hm other
      simp only [mem_cons, not_mem_nil, or_false] at hm
      rcases hm with rfl | rfl
      · exact ⟨rfl, nofun⟩
      · refine ⟨rfl, fun hc => ?_⟩
        obtain rfl : ch = other := by simpa [reaches] using hc
        exact hg
    · have hh : handedIds ch [.handed ch message, .received ch response] = [message.requestId] := by
        simp [handedIds]
      have ha : answeredIds ch [.handed ch message, .received ch response] = [message.requestId] := by
        simp [answeredIds, filterMap_cons, hrs, hid]
      rw [hh, ha]
    · intro other hne
      simp [handedIds, answeredIds, hne.symm]
  have hs : (s.see (.handed ch message)).requestCancel ch message = { s with log := s.log ++ [.handed ch message,
      .received ch { responseCreate message with statusCode := statusCodeMethodFailed }] } := by
    simp [see, requestCancel]
  rw [hs]
  exact hr _ rfl rfl

theorem messageSend_orderly (h : Orderly closing s) (hg : s.gone ch = false) (message : Message)
    (chunks : List Chunk) (ha : (s.channel ch).activeRequest = none ∨ transmitted chunks = false) :
    Orderly closing (s.messageSend A ch message chunks) := by
  have hr := requestRefuse_orderly h hg message
  unfold ClientAgent.messageSend
  dsimp only
  cases hc : ((s.see (.handed ch message)).channel ch).connection with
  | none => exact hr
  | some c =>
    dsimp only
    split_ifs with hs hn
    · exact hr
    · have hnn := ha.resolve_right (by rw [hn]; exact Bool.noConfusion)
      refine h.modify [.handed ch message] ⟨rfl, rfl, rfl⟩ ?_ ?_ ?_ ?_ ?_
      · intro event hm other
        obtain rfl := mem_singleton.1 hm
        exact ⟨rfl, nofun⟩
      · intro ht
        rw [hg] at ht
        cases ht
      · intro _ _
        exact Or.inl ⟨c, hc, by simpa [see] using hs⟩
      · simp [handedIds, answeredIds, activeIds, hnn]
      · intro other hne
        simp [handedIds, answeredIds, hne.symm]
    · exact hr

/-! ## What ends a request -/

theorem answer_orderly (h : Orderly closing s) (hg : s.gone ch = false) {active : Message}
    (hc : (s.channel ch).activeRequest = some active) (response : Message)
    (hr : response.messageType = .response) (hid : response.requestId = active.requestId)
    (before : List ClientEvent) (hb : ∀ event ∈ before, event = .fired ch)
    (hf : f (s.channel ch) = { s.channel ch with activeRequest := none, requestTimer := false }) :
    Orderly closing { s with
      toHeap := s.toHeap.modifyChannel ch f, log := s.log ++ (before ++ [.received ch response]) } := by
  have hs : ∀ other, handedIds other before = [] ∧ answeredIds other before = [] := by
    intro other
    constructor <;> refine filterMap_eq_nil_iff.2 fun event hm => ?_
    · rw [hb event hm]
      rfl
    · rw [hb event hm]
      rfl
  have hi : ∀ other, handedIds other (before ++ [.received ch response]) = [] ∧
      answeredIds other (before ++ [.received ch response]) = if ch = other then [active.requestId] else [] := by
    intro other
    have ha : answeredIds other (before ++ [.received ch response]) =
        answeredIds other before ++ answeredIds other [.received ch response] := filterMap_append
    have ha' : handedIds other (before ++ [.received ch response]) =
        handedIds other before ++ handedIds other [.received ch response] := filterMap_append
    rw [ha, ha', (hs other).1, (hs other).2]
    refine ⟨rfl, ?_⟩
    split_ifs with heq <;> simp [answeredIds, hr, hid, heq]
  refine h.modify (before ++ [.received ch response]) ?_ ?_ ?_ ?_ ?_ ?_
  · rw [hf]
    exact ⟨rfl, rfl, rfl⟩
  · intro event hm other
    have hrc : event.reaches other → ch = other := by
      rcases mem_append.1 hm with hm | hm
      · rw [hb event hm]
        simp [reaches]
      · rw [mem_singleton.1 hm]
        simp [reaches]
    refine ⟨?_, fun ht => hrc ht ▸ hg⟩
    rcases mem_append.1 hm with hm | hm
    · rw [hb event hm]
      rfl
    · rw [mem_singleton.1 hm]
      rfl
  · intro _
    rw [hf]
  · intro _ hsm
    rw [hf] at hsm
    cases hsm
  · rw [(hi ch).1, (hi ch).2, hf, if_pos rfl]
    simp [activeIds, hc]
  · intro other hne
    rw [(hi other).1, (hi other).2, if_neg hne.symm]
    exact ⟨rfl, rfl⟩

/-- **The request timer fires.** -/
theorem timerProc_orderly (h : Orderly closing s) (ht : (s.channel ch).requestTimer) :
    Orderly closing (s.timerProc ch) := by
  have hg : s.gone ch = false := by
    by_contra hh
    rw [h.timers ch (by simpa using hh)] at ht
    cases ht
  have hs : ((s.modifyChannel ch ({ · with requestTimer := false })).see (.fired ch)).channel ch =
      { s.channel ch with requestTimer := false } :=
    modifyChannel_channel_self (h := s.toHeap) ch ({ · with requestTimer := false })
  unfold timerProc
  dsimp only
  rw [hs]
  cases ha : (s.channel ch).activeRequest with
  | none =>
    refine h.modify (k := ch) (f := ({ · with requestTimer := false })) [.fired ch] ⟨rfl, rfl, rfl⟩ ?_
      (fun _ => rfl) (h.active ch) ?_ fun _ _ => ⟨rfl, rfl⟩
    swap
    · exact perm_append_comm
    intro event hm other
    obtain rfl := mem_singleton.1 hm
    refine ⟨rfl, fun hr => ?_⟩
    obtain rfl : ch = other := by simpa [reaches] using hr
    exact hg
  | some active =>
    have hn := answer_orderly h hg ha
      { responseCreate active with statusCode := statusCodeMethodFailed } rfl rfl [.fired ch]
      (fun event hm => mem_singleton.1 hm) (f := ({ · with activeRequest := none, requestTimer := false })) rfl
    have hp : ((s.toHeap.modifyChannel ch ({ · with requestTimer := false })).modifyChannel ch
        ({ · with activeRequest := none })) =
        s.toHeap.modifyChannel ch ({ · with activeRequest := none, requestTimer := false }) := by
      simp [Heap.modifyChannel]
    simpa [requestCancel, ClientAgent.modifyChannel, see, hp] using hn

/-! ## Receiving -/

variable {message : Message}

theorem receivedOther_orderly (h : Orderly closing s) (hg : s.gone ch = false)
    (ho : message.messageType ≠ .response) : Orderly closing (s.see (.received ch message)) := by
  have hn : ∀ other, answeredIds other [.received ch message] = [] := by
    intro other
    simp [answeredIds, ho]
  refine h.see ch ?_ (by rw [hn]; rfl) fun other _ => ⟨rfl, hn other⟩
  intro event hm other
  obtain rfl := mem_singleton.1 hm
  refine ⟨rfl, fun hr => ?_⟩
  obtain rfl : ch = other := by simpa [reaches] using hr
  exact hg

structure Handled (s t : ClientAgent) (answered : Option Nat) : Prop where
  connection : t.connection = s.connection
  other : ∀ ch, ch ∉ answered → t.channel ch = s.channel ch
  active : ∀ ch ∈ answered, (t.channel ch).activeRequest = none
  handed : ∀ ch, handedIds ch t.log = handedIds ch s.log

variable {c : Nat}

/-- **A message that is expected is handled.** -/
theorem messageHandler_orderly (h : Orderly closing s)
    (he : ∀ ch ∈ s.responseChannel c message,
      (s.channel ch).activeRequest.any (·.requestId == message.requestId) = true) :
    (s.messageHandler c message).2 = true ∧ Orderly closing (s.messageHandler c message).1 ∧
      Handled s (s.messageHandler c message).1 (s.responseChannel c message) := by
  have hh : ∀ key other, handedIds other (s.log ++ [.received key message]) = handedIds other s.log := by
    intro key other
    simp [handedIds]
  unfold messageHandler
  cases hf : s.connectionChannelFind c (idResourceGenerate message.channelId) with
  | none =>
    have hn : s.responseChannel c message = none := by
      simp [responseChannel, hf]
    rw [hn]
    exact ⟨rfl, h, rfl, fun _ _ => rfl, nofun, fun _ => rfl⟩
  | some ch =>
    have hg : s.gone ch = false := ((h.linked.lookup c _ ch).1 hf).1
    dsimp only
    split_ifs with hr ha
    · have hs : s.responseChannel c message = some ch := by
        simp [responseChannel, hf, hr]
      obtain ⟨active, ha, hid⟩ := (Option.any_eq_true _ _).1 ha
      refine ⟨rfl, ?_, rfl, fun other hne => ?_, fun other hm => ?_, hh ch⟩
      · exact answer_orderly h hg ha message hr (beq_iff_eq.1 hid).symm [] (by simp)
          (f := ({ · with requestTimer := false, activeRequest := none })) rfl
      · rw [hs] at hne
        have hne : other ≠ ch := fun heq => hne (by rw [heq]; rfl)
        exact modifyChannel_channel_ne (h := s.toHeap) ({ · with requestTimer := false, activeRequest := none }) hne
      · rw [hs] at hm
        obtain rfl : ch = other := some.inj hm
        exact congrArg ControlChannel.activeRequest (modifyChannel_channel_self (h := s.toHeap) ch
          ({ · with requestTimer := false, activeRequest := none }))
    · have hs : s.responseChannel c message = some ch := by
        simp [responseChannel, hf, hr]
      exact absurd (he ch hs) ha
    · have hn : s.responseChannel c message = none := by
        simp [responseChannel, hr]
      rw [hn]
      exact ⟨rfl, receivedOther_orderly h hg hr, rfl, fun _ _ => rfl, nofun, hh ch⟩

variable {messages : List Message}

theorem expects_iff : s.expects c messages ↔
    (∀ message ∈ messages, ∀ ch ∈ s.responseChannel c message,
      (s.channel ch).activeRequest.any (·.requestId == message.requestId) = true) ∧
      (messages.filterMap (s.responseChannel c)).Nodup := by
  unfold expects
  rw [Bool.and_eq_true, all_eq_true, decide_eq_true_eq]
  refine and_congr_left fun _ => forall₂_congr fun message _ => ?_
  cases s.responseChannel c message <;> simp

theorem messagesHandle_orderly (h : Orderly closing s) (he : s.expects c messages)
    (parsed : List Message) :
    Orderly closing (s.messagesHandle c parsed messages) ∧
      (∀ ch, (∃ message ∈ messages, s.responseChannel c message = some ch) ∨ (s.channel ch).activeRequest = none →
        ((s.messagesHandle c parsed messages).channel ch).activeRequest = none) ∧
      ∀ ch, handedIds ch (s.messagesHandle c parsed messages).log = handedIds ch s.log := by
  induction messages generalizing s parsed with
  | nil =>
    have hs : s.messagesHandle c parsed [] = s := by
      have hrc : ({ s.connection c with received := [] } : Connection) = s.connection c := by
        rw [← h.received c]
      exact congrArg (fun heap => ({ s with toHeap := heap } : ClientAgent))
        (modifyConnection_same (f := ({ · with received := [] })) hrc)
    rw [hs]
    refine ⟨h, fun ch hc => hc.resolve_left ?_, fun _ => rfl⟩
    rintro ⟨message, hm, -⟩
    cases hm
  | cons message messages ih =>
    obtain ⟨hx, hn⟩ := expects_iff.1 he
    obtain ⟨htr, ho, hh⟩ := messageHandler_orderly h (hx message mem_cons_self)
    unfold messagesHandle
    rw [if_pos htr]
    generalize (s.messageHandler c message).1 = t at ho hh
    have hr : t.responseChannel c = s.responseChannel c := by
      funext other
      unfold responseChannel Heap.connectionChannelFind
      rw [hh.connection]
    -- No later response is for the channel of this one.
    have hl : ∀ other ∈ messages, ∀ ch ∈ s.responseChannel c other, ch ∉ s.responseChannel c message := by
      intro other hm ch hc hth
      rw [filterMap_cons, mem_def.1 hth] at hn
      exact (nodup_cons.1 hn).1 (mem_filterMap.2 ⟨other, hm, hc⟩)
    have he' : t.expects c messages := by
      refine expects_iff.2 ⟨fun other hm ch hc => ?_, ?_⟩
      · rw [hr] at hc
        rw [hh.other ch (hl other hm ch hc)]
        exact hx other (mem_cons_of_mem _ hm) ch hc
      · rw [hr]
        exact hn.sublist ((sublist_cons_self message messages).filterMap _)
    obtain ⟨ho', hnn, hha⟩ := ih ho he' (parsed ++ [message])
    refine ⟨ho', fun ch hc => hnn ch ?_, fun ch => (hha ch).trans (hh.handed ch)⟩
    by_cases ht : ch ∈ s.responseChannel c message
    · exact Or.inr (hh.active ch ht)
    · rcases hc with ⟨other, hm, hot⟩ | hc
      · rcases mem_cons.1 hm with rfl | hm
        · exact absurd hot ht
        · exact Or.inl ⟨other, hm, by rw [hr]; exact hot⟩
      · exact Or.inr (by rw [hh.other ch ht]; exact hc)

/-! ## Disconnects -/

theorem channelDisconnect_orderly (h : Orderly (ch :: closing) s) :
    Orderly closing (s.channelDisconnect ch) ∧ ((s.channelDisconnect ch).channel ch).activeRequest = none ∧
      (∀ other, (s.channel other).activeRequest = none → ((s.channelDisconnect ch).channel other).activeRequest = none) ∧
      ∀ other, handedIds other (s.channelDisconnect ch).log = handedIds other s.log := by
  have hg : s.gone ch = false := h.closing ch mem_cons_self
  -- A channel that has no request does not wait for the disconnect.
  have hl : ∀ t : ClientAgent, Orderly (ch :: closing) t → (t.channel ch).activeRequest = none → Orderly closing t := by
    intro t ht hn
    refine ⟨ht.linked, ht.served, fun other hh hs => ?_, fun other hm => ht.closing other
      (mem_cons_of_mem _ hm), ht.timers, ht.removed, ht.received, ht.created, ht.quiet⟩
    rcases ht.active other hh hs with ho | hm
    · exact Or.inl ho
    · rcases mem_cons.1 hm with rfl | hm
      · rw [hn] at hs
        cases hs
      · exact Or.inr hm
  unfold channelDisconnect
  cases ha : (s.channel ch).activeRequest with
  | some active =>
    have han := answer_orderly h hg ha
      { responseCreate active with statusCode := statusCodeMethodFailed } rfl rfl [] (by simp)
      (f := ({ · with activeRequest := none, requestTimer := false })) rfl
    have hsl : ((s.toHeap.modifyChannel ch ({ · with activeRequest := none, requestTimer := false })).channel
        ch).activeRequest = none := by
      rw [modifyChannel_channel_self]
    refine ⟨hl _ han hsl, hsl, fun other hn => ?_, fun other => ?_⟩
    · show ((s.toHeap.modifyChannel ch ({ · with activeRequest := none, requestTimer := false })).channel
        other).activeRequest = none
      rw [channel_modifyChannel]
      split_ifs
      · rfl
      · exact hn
    · show handedIds other (s.log ++ [_]) = _
      simp [handedIds]
  | none =>
    refine ⟨hl _ (h.see ch ?_ (List.Perm.refl []) fun _ _ => ⟨rfl, rfl⟩) ha, ha, fun _ hn => hn,
      fun other => ?_⟩
    · intro event hm other
      obtain rfl := mem_singleton.1 hm
      refine ⟨rfl, fun hr => ?_⟩
      obtain rfl : ch = other := by simpa [reaches] using hr
      exact hg
    · show handedIds other (s.log ++ [_]) = _
      simp [handedIds]

variable {order : List Nat}

theorem channelsDisconnect_orderly (h : Orderly order s) :
    Orderly [] (order.foldl channelDisconnect s) ∧
      (∀ ch, ch ∈ order ∨ (s.channel ch).activeRequest = none →
        ((order.foldl channelDisconnect s).channel ch).activeRequest = none) ∧
      ∀ ch, handedIds ch (order.foldl channelDisconnect s).log = handedIds ch s.log := by
  induction order generalizing s with
  | nil => exact ⟨h, fun ch hc => hc.resolve_left not_mem_nil, fun _ => rfl⟩
  | cons ch order ih =>
    obtain ⟨ho, hs, hk, hh⟩ := channelDisconnect_orderly h
    obtain ⟨ho', hn, hh'⟩ := ih ho
    refine ⟨ho', fun other ht => hn other ?_, fun other => (hh' other).trans (hh other)⟩
    rcases ht with hm | ht
    · rcases mem_cons.1 hm with rfl | hm
      · exact Or.inr hs
      · exact Or.inl hm
    · exact Or.inr (hk other ht)

/-- **The peer disconnects.** -/
theorem disconnect_orderly (h : Orderly [] s) (ho : order.Perm (s.channelsOf c)) :
    Orderly [] (s.disconnect c order) ∧
      (∀ ch, (s.connection c).sock → s.gone ch = false → (s.channel ch).connection = some c →
        ((s.disconnect c order).channel ch).activeRequest = none) ∧
      ∀ ch, handedIds ch (s.disconnect c order).log = handedIds ch s.log := by
  unfold ClientAgent.disconnect
  split_ifs with hs
  · have hc : c < s.connectionCount := by
      by_contra hle
      rw [h.linked.fresh c (Nat.le_of_not_lt hle)] at hs
      cases hs
    have hn : ∀ other, other ≠ c →
        (s.modifyConnection c ({ · with sock := false })).connection other = s.connection other := fun other hne =>
      modifyConnection_connection_ne (h := s.toHeap) ({ · with sock := false }) hne
    have hl : Orderly order (s.modifyConnection c ({ · with sock := false })) := by
      refine ⟨h.linked.modifyConnection (f := ({ · with sock := false })) hc rfl rfl, h.served, ?_, ?_, h.timers, h.removed, fun other => ?_, h.created,
        h.quiet⟩
      · intro ch hg ha
        obtain ⟨c', hc', hp⟩ := (h.active ch hg ha).resolve_right not_mem_nil
        rcases eq_or_ne c' c with rfl | hne
        · exact Or.inr (ho.mem_iff.2 (h.linked.mem_channelsOf.2 ⟨hg, hc'⟩))
        · exact Or.inl ⟨c', hc', by rw [hn c' hne]; exact hp⟩
      · intro ch hm
        exact (h.linked.mem_channelsOf.1 (ho.mem_iff.1 hm)).1
      · exact (connection_keeps (h := s.toHeap) (f := ({ · with sock := false })) (·.received) rfl other).trans
          (h.received other)
    obtain ⟨hr, hnn, hh⟩ := channelsDisconnect_orderly hl
    refine ⟨hr, fun ch _ hg hch => hnn ch (Or.inl ?_), hh⟩
    exact ho.mem_iff.2 (h.linked.mem_channelsOf.2 ⟨hg, hch⟩)
  · exact ⟨h, fun _ hp => absurd hp hs, fun _ => rfl⟩

/-! ## Channels -/

theorem Orderly.relink (h : Orderly [] s) (events : List ClientEvent) (hl : t.log = s.log ++ events)
    (hs : ∀ event ∈ events, ∀ ch, event.handedId ch = none ∧ event.answeredId ch = none ∧ event.reaches ch = false)
    (hln : Heap.Linked (fun ch => t.gone ch = false) t.toHeap)
    (ha : ∀ ch, (t.channel ch).activeRequest = (s.channel ch).activeRequest)
    (ho : ∀ ch c, t.gone ch = false → (s.channel ch).connection = some c → (s.connection c).sock →
      (t.channel ch).connection = some c ∧ (t.connection c).sock)
    (htm : ∀ ch, t.gone ch → (t.channel ch).requestTimer = false)
    (hr : ∀ ch, (t.channel ch).removed → t.gone ch)
    (hrc : ∀ c, (t.connection c).received = [])
    (hcr : ∀ ch c, (t.channel ch).connection = some c → c < t.connectionCount) : Orderly [] t := by
  have hg : ∀ ch, t.gone ch = false → s.gone ch = false := by
    intro ch hn
    unfold gone at hn ⊢
    rw [hl, any_append, Bool.or_eq_false_iff] at hn
    exact hn.1
  refine ⟨hln, fun ch => ?_, fun ch ht hsm => ?_, nofun, htm, hr, hrc, hcr, ?_⟩
  · have hi : handedIds ch t.log = handedIds ch s.log ∧ answeredIds ch t.log = answeredIds ch s.log := by
      have hnn : handedIds ch events = [] ∧ answeredIds ch events = [] :=
        ⟨filterMap_eq_nil_iff.2 fun event hm => (hs event hm ch).1,
          filterMap_eq_nil_iff.2 fun event hm => (hs event hm ch).2.1⟩
      rw [hl, handedIds, answeredIds, filterMap_append, filterMap_append]
      exact ⟨(congrArg _ hnn.1).trans (append_nil _), (congrArg _ hnn.2).trans (append_nil _)⟩
    rw [hi.1, hi.2, activeIds, ha ch]
    exact h.served ch
  · rw [ha ch] at hsm
    obtain ⟨c, hc, hsc⟩ := (h.active ch (hg ch ht) hsm).resolve_right not_mem_nil
    exact Or.inl ⟨c, ho ch c ht hc hsc⟩
  · rw [hl]
    refine pairwise_append.2 ⟨h.quiet, ?_, fun earlier _ later hla ch _ => (hs later hla ch).2.2⟩
    exact pairwise_of_forall_mem_list fun earlier _ later hla ch _ => (hs later hla ch).2.2

theorem Orderly.seeSilent (h : Orderly [] s) (event : ClientEvent)
    (hs : ∀ ch, event.handedId ch = none ∧ event.answeredId ch = none ∧ event.reaches ch = false ∧
      event.removes ch = false) : Orderly [] (s.see event) := by
  refine h.see 0 ?_ ?_ fun ch _ => ?_
  · intro other hm ch
    obtain rfl := mem_singleton.1 hm
    refine ⟨(hs ch).2.2.2, fun hr => ?_⟩
    rw [(hs ch).2.2.1] at hr
    cases hr
  · simp [handedIds, answeredIds, (hs 0).1, (hs 0).2.1]
  · simp [handedIds, answeredIds, (hs ch).1, (hs ch).2.1]

structure Gotten (A : ClientProfile) (s : ClientAgent) (descriptor : ControlDescriptor) (t : ClientAgent) (c : Nat) :
    Prop where
  lt : c < t.connectionCount
  table : descriptor.connectionType = .existing ∧ s.connectionFind A descriptor = some c ∧ t = s ∨
    c = s.connectionCount ∧ (t.connection c).channelTable = ∅ ∧ (t.connection c).sock

/-- **A channel gets a connection.** -/
theorem connectionGet_orderly (h : Orderly [] s) (descriptor : ControlDescriptor) (hp : descriptor.port ≠ 0)
    (established : Bool) :
    Orderly [] (s.connectionGet A descriptor established).1 ∧
      (s.connectionGet A descriptor established).1.channel = s.channel ∧
      (s.connectionGet A descriptor established).1.log = s.log ∧
      ∀ c ∈ (s.connectionGet A descriptor established).2,
        Gotten A s descriptor (s.connectionGet A descriptor established).1 c := by
  have hr : Orderly [] (s.connectionCreate A descriptor established).1 ∧
      (s.connectionCreate A descriptor established).1.channel = s.channel ∧
      (s.connectionCreate A descriptor established).1.log = s.log ∧
      ∀ c ∈ (s.connectionCreate A descriptor established).2,
        Gotten A s descriptor (s.connectionCreate A descriptor established).1 c := by
    unfold connectionCreate
    cases A.sockaddrInfoGet descriptor.ip with
    | none => exact ⟨h, rfl, rfl, nofun⟩
    | some ip =>
      dsimp only
      split_ifs
      · generalize hn : ({ remoteIp := ip, remotePort := descriptor.port, sock := true } : Connection) = new
        have hs : (s.toHeap.connectionPush new).connection s.connectionCount = new := Function.update_self ..
        have ho : ∀ c, c < s.connectionCount →
            (s.toHeap.connectionPush new).connection c = s.connection c := fun c hlt =>
          Function.update_of_ne (Nat.ne_of_lt hlt) ..
        refine ⟨h.relink [] (append_nil _).symm nofun (h.linked.connectionPush ?_ ?_) (fun _ => rfl) ?_
          h.timers h.removed (fun c => ?_) fun ch c hc => Nat.lt_succ_of_lt (h.created ch c hc), rfl, rfl, fun c hc => ?_⟩
        · rw [← hn]
        · rw [← hn]
        · intro ch c _ hc hsc
          refine ⟨hc, ?_⟩
          show ((s.toHeap.connectionPush new).connection c).sock = true
          rw [ho c (h.created ch c hc)]
          exact hsc
        · show (Function.update s.connection s.connectionCount new c).received = []
          rw [Function.update_apply]
          split_ifs
          · rw [← hn]
          · exact h.received c
        · obtain rfl : s.connectionCount = c := some.inj hc
          refine ⟨Nat.lt_succ_self _, Or.inr ⟨rfl, ?_, ?_⟩⟩
          · show ((s.toHeap.connectionPush new).connection s.connectionCount).channelTable = ∅
            rw [hs, ← hn]
          · show ((s.toHeap.connectionPush new).connection s.connectionCount).sock = true
            rw [hs, ← hn]
      · exact ⟨h, rfl, rfl, nofun⟩
  unfold connectionGet
  split_ifs with he
  · cases hf : s.connectionFind A descriptor with
    | none => exact hr
    | some c =>
      refine ⟨h, rfl, rfl, fun c' hc' => ?_⟩
      obtain rfl : c = c' := some.inj hc'
      refine ⟨?_, Or.inl ⟨he, hf, rfl⟩⟩
      by_contra hle
      have hm := List.find?_some hf
      rw [Bool.and_eq_true, beq_iff_eq, beq_iff_eq, h.linked.fresh c (Nat.le_of_not_lt hle)] at hm
      exact hp hm.2
  · exact hr

theorem identify_orderly (h : Orderly [] s) (hn : (s.channel ch).connection = none) (identifier : Bytes) :
    Orderly [] (s.modifyChannel ch ({ · with identifier := identifier })) := by
  have hk {α : Type} (g : ControlChannel → α) (hg : ∀ channel id, g { channel with identifier := id } = g channel) :
      ∀ other, g ((s.modifyChannel ch ({ · with identifier := identifier })).channel other) = g (s.channel other) :=
    channel_keeps (h := s.toHeap) (f := ({ · with identifier := identifier })) g (hg _ _)
  have ha := hk (·.connection) fun _ _ => rfl
  refine h.relink [] (append_nil _).symm nofun (h.linked.congr (fun other _ => ⟨ha other, fun hs => ?_⟩)
    (fun _ => ⟨rfl, rfl⟩) h.linked.fresh) (hk (·.activeRequest) fun _ _ => rfl)
    (fun other c _ hc hsc => ⟨(ha other).trans hc, hsc⟩)
    (fun other ht => (hk (·.requestTimer) (fun _ _ => rfl) other).trans (h.timers other ht))
    (fun other hr => h.removed other ((hk (·.removed) (fun _ _ => rfl) other).symm.trans hr)) h.received
    fun other c hc => h.created other c ((ha other).symm.trans hc)
  have hne : other ≠ ch := by
    rintro rfl
    exact hs hn
  exact congrArg ControlChannel.identifier
    (modifyChannel_channel_ne (h := s.toHeap) ({ · with identifier := identifier }) hne)

theorem assign_orderly (h : Orderly [] s) (hgn : s.gone ch = false) (hn : (s.channel ch).connection = none)
    (hc : c < s.connectionCount) (hf : s.connectionChannelFind c (s.channel ch).identifier = none) :
    Orderly [] { s with toHeap := s.toHeap.connectionChannelAdd c ch } := by
  have hh {α : Type} (g : ControlChannel → α) (hg : ∀ channel c, g { channel with connection := c } = g channel) :
      ∀ other, g ((s.toHeap.connectionChannelAdd c ch).channel other) = g (s.channel other) :=
    channel_keeps (f := ({ · with connection := some c })) g (hg _ _)
  have hcn : ∀ other, ((s.toHeap.connectionChannelAdd c ch).connection other).sock = (s.connection other).sock ∧
      ((s.toHeap.connectionChannelAdd c ch).connection other).received = (s.connection other).received := by
    intro other
    rcases eq_or_ne other c with rfl | hne
    · rw [connectionChannelAdd_connection_self]
      exact ⟨rfl, rfl⟩
    · rw [connectionChannelAdd_connection_ne ch hne]
      exact ⟨rfl, rfl⟩
  have ho := fun other (hne : other ≠ ch) =>
    congrArg ControlChannel.connection (connectionChannelAdd_channel_ne (h := s.toHeap) c hne)
  refine h.relink [] (append_nil _).symm nofun (h.linked.channelAdd hgn hn hc hf)
    (hh (·.activeRequest) fun _ _ => rfl)
    (fun other c' _ hc' hs => ⟨?_, (hcn c').1.trans hs⟩)
    (fun other ht => (hh (·.requestTimer) (fun _ _ => rfl) other).trans (h.timers other ht))
    (fun other hr => h.removed other ((hh (·.removed) (fun _ _ => rfl) other).symm.trans hr))
    (fun other => (hcn other).2.trans (h.received other)) fun other c' hc' => ?_
  · refine (ho other ?_).trans hc'
    rintro rfl
    rw [hn] at hc'
    cases hc'
  · rcases eq_or_ne other ch with rfl | hne
    · have hl := congrArg ControlChannel.connection (connectionChannelAdd_channel_self (h := s.toHeap) c other)
      exact some.inj (hl.symm.trans hc') ▸ hc
    · exact h.created other c' ((ho other hne).symm.trans hc')

theorem channelModify_orderly (h : Orderly [] s) {descriptor : ControlDescriptor} (hgn : s.gone ch = false)
    (hw : descriptor.port ≠ 0 → (s.channel ch).connection = none → descriptor.connectionType = .existing →
      ∀ c ∈ s.connectionFind A descriptor,
        s.connectionChannelFind c (idResourceGenerate ⟨descriptor.sessionId, descriptor.resourceName⟩) = none)
    (established : Bool) : Orderly [] (s.channelModify A ch descriptor established) := by
  have hsn : ∀ t : ClientAgent, Orderly [] t → ∀ d status, Orderly [] (t.see (.modified ch d status)) :=
    fun t ht d status => ht.seeSilent _ fun _ => ⟨rfl, rfl, rfl, rfl⟩
  unfold channelModify
  by_cases ha : descriptor.port ≠ 0 ∧ (s.channel ch).connection = none
  · obtain ⟨hp, hn⟩ := ha
    rw [if_pos ⟨hp, hn⟩]
    generalize hid : idResourceGenerate ⟨descriptor.sessionId, descriptor.resourceName⟩ = identifier at hw
    have hm := identify_orderly h hn identifier
    have hs : (s.modifyChannel ch ({ · with identifier := identifier })).channel ch =
        { s.channel ch with identifier := identifier } :=
      modifyChannel_channel_self (h := s.toHeap) ch ({ · with identifier := identifier })
    obtain ⟨ho, hh, hl, hg⟩ := connectionGet_orderly (A := A) hm descriptor hp established
    have hfi : (s.modifyChannel ch ({ · with identifier := identifier })).connectionFind A descriptor =
      s.connectionFind A descriptor := rfl
    dsimp only
    generalize hr : (s.modifyChannel ch ({ · with identifier := identifier })).connectionGet A descriptor established = r
      at ho hh hl hg
    cases hc : r.2 with
    | none => exact hsn _ ho _ _
    | some c =>
      have hs' := (congrFun hh ch).trans hs
      have hg := hg c hc
      refine hsn _ (assign_orderly ho ?_ ?_ hg.lt ?_) _ _
      · unfold gone
        rw [hl]
        exact hgn
      · rw [hs']
        exact hn
      · rw [hs']
        rcases hg.table with ⟨he, hf, hsm⟩ | ⟨-, hb, -⟩
        · rw [hsm]
          exact hw hp hn he c hf
        · unfold Heap.connectionChannelFind
          rw [hb]
          rfl
  · rw [if_neg ha]
    exact hsn s h descriptor true

theorem Orderly.unlink (h : Orderly [] s) (htm : (s.channel ch).requestTimer = false)
    (hg : t.log = s.log ++ [.removed ch true])
    (hln : Heap.Linked (fun other => s.gone other = false ∧ other ≠ ch) t.toHeap)
    (ho : ∀ other, other ≠ ch → t.channel other = s.channel other)
    (hs : (t.channel ch).activeRequest = (s.channel ch).activeRequest ∧
      (t.channel ch).requestTimer = (s.channel ch).requestTimer ∧
      ∀ c, (t.channel ch).connection = some c → c < t.connectionCount)
    (hsc : ∀ other c, s.gone other = false → other ≠ ch → (s.channel other).connection = some c →
      (s.connection c).sock = true → (t.connection c).sock)
    (hrc : ∀ c, (t.connection c).received = []) (hcn : t.connectionCount = s.connectionCount) :
    Orderly [] t := by
  have hn : ∀ other, t.gone other = (s.gone other || ch == other) := by
    intro other
    unfold gone
    rw [hg, any_append]
    simp [removes]
  have hl : ∀ other, t.gone other = false ↔ s.gone other = false ∧ other ≠ ch := by
    intro other
    rw [hn other, Bool.or_eq_false_iff, beq_eq_false_iff_ne]
    exact and_congr_right fun _ => ne_comm
  refine h.relink _ hg ?_ ?_ (fun other => ?_) (fun other c hnt hc hp => ?_) (fun other ht => ?_)
    (fun other hr => ?_) hrc fun other c hc => ?_
  · intro event hm other
    rw [mem_singleton.1 hm]
    exact ⟨rfl, rfl, rfl⟩
  · simp only [hl]
    exact hln
  · rcases eq_or_ne other ch with rfl | hne
    · exact hs.1
    · rw [ho other hne]
  · obtain ⟨hl, hne⟩ := (hl other).1 hnt
    rw [ho other hne]
    exact ⟨hc, hsc other c hl hne hc hp⟩
  · rcases eq_or_ne other ch with rfl | hne
    · exact hs.2.1.trans htm
    · rw [hn other, Bool.or_eq_true, beq_iff_eq] at ht
      rw [ho other hne]
      exact h.timers other (ht.resolve_right hne.symm)
  · rw [hn other, Bool.or_eq_true, beq_iff_eq]
    rcases eq_or_ne other ch with rfl | hne
    · exact Or.inr rfl
    · rw [ho other hne] at hr
      exact Or.inl (h.removed other hr)
  · rcases eq_or_ne other ch with rfl | hne
    · exact hs.2.2 c hc
    · rw [ho other hne] at hc
      exact hcn ▸ h.created other c hc

theorem channelRemove_orderly (h : Orderly [] s) (hg : s.gone ch = false)
    (hm : (s.channel ch).requestTimer = false) : Orderly [] (s.channelRemove ch) := by
  unfold channelRemove
  cases hco : (s.channel ch).connection with
  | none =>
    refine h.unlink hm rfl (h.linked.live_congr fun other ha => and_iff_left ?_) (fun _ _ => rfl)
      ⟨rfl, rfl, fun c hc => h.created ch c hc⟩ (fun _ _ _ _ _ ho => ho) h.received rfl
    rintro rfl
    exact ha hco
  | some c =>
    have hr := h.linked.channelRemove hg hco
    have ht := fun other (hne : other ≠ ch) =>
      connectionChannelRemove_channel_ne (h := s.toHeap) c hne
    have hs := connectionChannelRemove_channel_self (h := s.toHeap) c ch
    have hcn : ∀ c', ((s.toHeap.connectionChannelRemove c ch).connection c').sock = (s.connection c').sock ∧
        ((s.toHeap.connectionChannelRemove c ch).connection c').received = [] := by
      intro c'
      rcases eq_or_ne c' c with rfl | hne
      · rw [connectionChannelRemove_connection_self]
        exact ⟨rfl, h.received c'⟩
      · rw [connectionChannelRemove_connection_ne ch hne]
        exact ⟨rfl, h.received c'⟩
    have hc : c < s.connectionCount := h.created ch c hco
    have hl : Heap.Linked (fun other => s.gone other = false ∧ other ≠ ch) (s.toHeap.connectionChannelRemove c ch) := by
      refine hr.live_congr fun other ha => and_iff_left ?_
      rintro rfl
      rw [hs] at ha
      exact ha rfl
    have hn : (s.toHeap.connectionChannelRemove c ch).connectionCount = s.connectionCount := rfl
    dsimp only
    generalize s.toHeap.connectionChannelRemove c ch = u at hr ht hs hcn hl hn
    have hact := congrArg ControlChannel.activeRequest hs
    have hti := congrArg ControlChannel.requestTimer hs
    have ha := congrArg ControlChannel.connection hs
    split_ifs with hac
    · -- The connection of the last channel is closed: no other channel has it.
      let f : Connection → Connection := ({ · with sock := false })
      let g : ControlChannel → ControlChannel := ({ · with connection := some c, removed := true })
      show Orderly [] (see ⟨(u.modifyConnection c f).modifyChannel ch g, s.connectionList.erase c, s.log⟩
        (.removed ch true))
      have hts := modifyChannel_channel_self (h := u.modifyConnection c f) ch g
      have htt := fun other (hne : other ≠ ch) =>
        modifyChannel_channel_ne (h := u.modifyConnection c f) g hne
      refine h.unlink hm rfl ((hl.modifyConnection (f := f) (hn ▸ hc) rfl rfl).modifyChannel (·.2 rfl) g)
        (fun other hne => (htt other hne).trans (ht other hne)) ⟨?_, ?_, fun c' hc' => ?_⟩
        (fun other c' hv hne hc' ho => ?_) (fun c' => ?_) hn
      · exact (congrArg ControlChannel.activeRequest hts).trans hact
      · exact (congrArg ControlChannel.requestTimer hts).trans hti
      · exact hn ▸ some.inj ((congrArg ControlChannel.connection hts).symm.trans hc') ▸ hc
      · have hne' : c' ≠ c := by
          rintro rfl
          refine hr.none_of_count hac hv ?_
          rw [ht other hne]
          exact hc'
        exact (congrArg Connection.sock (modifyConnection_connection_ne f hne')).trans
          ((hcn c').1.trans ho)
      · exact (connection_keeps (f := f) (·.received) rfl c').trans (hcn c').2
    · refine h.unlink hm rfl hl ht ⟨hact, hti, fun c' hc' => ?_⟩ (fun other c' _ _ _ ho => ?_)
        (fun c' => (hcn c').2) hn
      · cases ha.symm.trans hc'
      · exact (hcn c').1.trans ho

theorem channelDestroy_orderly (h : Orderly [] s) : Orderly [] (s.channelDestroy ch) := by
  unfold channelDestroy
  cases hcn : (s.channel ch).connection with
  | none => exact h
  | some c =>
    split_ifs with hr
    · have hg := h.removed ch hr
      have hc := h.created ch c hcn
      have hl : ∀ other, s.gone other = false → other ≠ ch := by
        rintro other hn rfl
        rw [hg] at hn
        cases hn
      let f : ControlChannel → ControlChannel := ({ · with connection := none })
      let g : Connection → Connection := ({ · with destroyed := true })
      show Orderly [] ⟨(s.toHeap.modifyChannel ch f).modifyConnection c g, s.connectionList, s.log⟩
      have hs := modifyChannel_channel_self (h := s.toHeap) ch f
      have ho := fun other (hne : other ≠ ch) => modifyChannel_channel_ne (h := s.toHeap) f hne
      refine h.relink [] (append_nil _).symm nofun
        ((h.linked.modifyChannel (fun hn => hl ch hn rfl) f).modifyConnection (f := g) hc rfl rfl)
        (channel_keeps (h := s.toHeap) (f := f) (·.activeRequest) rfl) (fun other c' hn hc' hp => ⟨?_, ?_⟩)
        (fun other ht => ?_) (fun other hf => ?_) (fun c' => ?_) fun other c' hc' => ?_
      · exact (congrArg ControlChannel.connection (ho other (hl other hn))).trans hc'
      · exact (connection_keeps (h := s.toHeap) (f := g) (·.sock) rfl c').trans hp
      · exact (channel_keeps (h := s.toHeap) (f := f) (·.requestTimer) rfl other).trans (h.timers other ht)
      · exact h.removed other ((channel_keeps (h := s.toHeap) (f := f) (·.removed) rfl other).symm.trans hf)
      · exact (connection_keeps (h := s.toHeap) (f := g) (·.received) rfl c').trans (h.received c')
      · rcases eq_or_ne other ch with rfl | hne
        · cases (congrArg ControlChannel.connection hs).symm.trans hc'
        · exact h.created other c' ((congrArg ControlChannel.connection (ho other hne)).symm.trans hc')
    · exact h

/-! ## Runs -/

/-- The input answers the request of a channel, lets it time out, or closes its connection. -/
def ClientAgent.ends (s : ClientAgent) (ch : Nat) (request : Message) : ClientInput → Prop
  | .timeout key => key = ch
  | .disconnect c _ => (s.channel ch).connection = some c
  | .receive c messages => (s.channel ch).connection = some c ∧ ∃ message ∈ messages,
    message.messageType = .response ∧ message.requestId = request.requestId ∧
      idResourceGenerate message.channelId = (s.channel ch).identifier
  | _ => False

variable {input : ClientInput}

theorem step_orderly (h : Orderly [] s) (he : s.enabled input) (ho : s.orderly A input) :
    Orderly [] (s.step A input).1 := by
  cases input with
  | add ch descriptor => exact h.seeSilent _ fun _ => ⟨rfl, rfl, rfl, rfl⟩
  | modify ch descriptor established =>
    simp only [orderly, Bool.and_eq_true, Bool.not_eq_true'] at ho
    refine channelModify_orderly h ho.1 (fun hp hn hx c hc => ?_) established
    have hf := ho.2
    rw [mem_def.1 hc] at hf
    simpa [hp, hn, hx] using hf
  | remove ch =>
    simp only [orderly, Bool.and_eq_true, Bool.not_eq_true'] at ho
    exact channelRemove_orderly h ho.1 ho.2
  | destroy ch => exact channelDestroy_orderly h
  | send ch message chunks =>
    simp only [orderly, Bool.and_eq_true, Bool.or_eq_true, Bool.not_eq_true', Option.isNone_iff_eq_none]
      at ho
    exact messageSend_orderly h ho.1 message chunks ho.2
  | receive c messages =>
    show Orderly [] (s.receive c messages)
    unfold ClientAgent.receive
    split_ifs
    · rw [h.received c]
      exact (messagesHandle_orderly h ho []).1
    · exact h
  | disconnect c order => exact (disconnect_orderly h (isPerm_iff.1 he)).1
  | timeout ch => exact timerProc_orderly h he

theorem ends_activeRequest (h : Orderly [] s) {request : Message} (hen : s.enabled input)
    (hr : s.orderly A input) (ha : (s.channel ch).activeRequest = some request)
    (hg : s.gone ch = false) (he : s.ends ch request input) :
    ((s.step A input).1.channel ch).activeRequest = none ∧
      handedIds ch (s.step A input).1.log = handedIds ch s.log := by
  obtain ⟨c, hc, ho⟩ := (h.active ch hg (by rw [ha]; rfl)).resolve_right not_mem_nil
  cases input with
  | add | modify | remove | destroy | send => exact he.elim
  | timeout key =>
    obtain rfl : key = ch := he
    have hs : ((s.modifyChannel key ({ · with requestTimer := false })).see (.fired key)).channel key =
        { s.channel key with requestTimer := false } :=
      modifyChannel_channel_self (h := s.toHeap) key ({ · with requestTimer := false })
    show ((s.timerProc key).channel key).activeRequest = none ∧ handedIds key (s.timerProc key).log = handedIds key s.log
    unfold timerProc
    dsimp only
    rw [hs, ha]
    refine ⟨?_, ?_⟩
    · have hch : ∀ t : Heap, ((t.modifyChannel key ({ · with activeRequest := none })).channel key).activeRequest =
          none := by
        intro t
        rw [modifyChannel_channel_self]
      exact hch _
    show handedIds key (s.log ++ [_] ++ [_]) = _
    simp [handedIds, handedId]
  | disconnect c' order =>
    have hc' : (s.channel ch).connection = some c' := he
    obtain rfl : c = c' := some.inj (hc.symm.trans hc')
    obtain ⟨-, hn, hh⟩ := disconnect_orderly h (isPerm_iff.1 hen)
    exact ⟨hn ch ho hg hc, hh ch⟩
  | receive c' messages =>
    obtain ⟨hc', message, hm, hrs, -, hi⟩ := he
    obtain rfl : c = c' := some.inj (hc.symm.trans hc')
    obtain ⟨-, hn, hh⟩ := messagesHandle_orderly h hr []
    have hrc : (s.step A (.receive c messages)).1 = s.messagesHandle c [] messages := by
      show s.receive c messages = _
      unfold ClientAgent.receive
      rw [if_pos ho, h.received c]
      rfl
    rw [hrc]
    refine ⟨hn ch (Or.inl ⟨message, hm, ?_⟩), hh ch⟩
    unfold responseChannel
    rw [if_pos hrs, hi]
    exact (h.linked.lookup c _ ch).2 ⟨hg, hc, rfl⟩

/-- **Every request has one response, and nothing comes after a removal.** -/
structure Served (A : ClientProfile) (s : ClientAgent) : Prop where
  once : ∀ ch, (handedIds ch s.log).Perm (answeredIds ch s.log ++ (s.channel ch).activeIds)
  ended : ∀ ch request input, (s.channel ch).activeRequest = some request → s.gone ch = false →
    s.enabled input → s.orderly A input → s.ends ch request input →
    (answeredIds ch (s.step A input).1.log).Perm (answeredIds ch s.log ++ [request.requestId])
  quiet : s.log.Pairwise fun earlier later => ∀ ch, earlier.removes ch → later.reaches ch = false

theorem Orderly.servedAll (h : Orderly [] s) : Served A s := by
  refine ⟨h.served, fun ch request input ha hg he ho hn => ?_, h.quiet⟩
  obtain ⟨hnn, hh⟩ := ends_activeRequest h he ho ha hg hn
  have hf := (step_orderly h he ho).served ch
  have hb := h.served ch
  rw [hh, activeIds, hnn] at hf
  rw [activeIds, ha] at hb
  simpa using hf.symm.trans hb

theorem orderly_init : Orderly [] {} := by
  refine ⟨⟨fun c id ch => ?_, fun _ => rfl, fun _ _ => rfl⟩, fun _ => List.Perm.refl _, fun _ _ h => ?_, nofun,
    fun _ _ => rfl,
    fun _ h => ?_, fun _ => rfl, fun _ _ h => ?_, List.Pairwise.nil⟩
  · refine iff_of_false nofun fun h => ?_
    cases h.2.1
  · cases h
  · cases h
  · cases h

/-- **One response for each request**, in every run of the agent whose steps can happen and meet the condition. -/
theorem clientAgent_served (A : ClientProfile) (inputs : List ClientInput)
    (h : EachStep (ClientAgent.step A) (fun s input => s.enabled input = true ∧ s.orderly A input) {} inputs) :
    Served A (run (ClientAgent.step A) {} inputs).1 :=
  (run_invariant (Orderly []) _ (fun _ _ hs hok => step_orderly hs hok.1 hok.2) {} inputs orderly_init h).servedAll

/-- An agent whose requests time out, and that takes the text of an address for the address. -/
def sampleProfile : ClientProfile where
  requestTimeout := 5000
  offerNewConnection := false
  sockaddrInfoGet := some

def sampleDescriptor (resourceName : Bytes) : ControlDescriptor :=
  { ip := [49], port := 1544, connectionType := .existing, sessionId := [97], resourceName }

def sampleMessage (messageType : MessageType) (requestId : Nat) (resourceName : Bytes) : Message :=
  { messageType, requestId, channelId := ⟨[97], resourceName⟩ }

/-- Two channels share a connection. The request of the one is answered, and that of the other times out; they are
removed. -/
def sampleInputs : List ClientInput :=
  [.add 0 (sampleDescriptor [83]), .modify 0 (sampleDescriptor [83]) true, .modify 1 (sampleDescriptor [82]) true,
    .send 0 (sampleMessage .request 1 [83]) [(.complete, true)], .send 1 (sampleMessage .request 2 [82]) [(.complete, true)],
    .receive 0 [sampleMessage .event 1 [83], sampleMessage .response 1 [83]], .timeout 1,
    .send 1 (sampleMessage .request 3 [82]) [(.complete, true)], .disconnect 0 [1, 0], .remove 0, .remove 1, .destroy 1]

theorem clientAgent_served_sample : Served sampleProfile (run (ClientAgent.step sampleProfile) {} sampleInputs).1 :=
  clientAgent_served sampleProfile sampleInputs (by decide +kernel)

/-- The timer of a channel that was removed while its request waits fires, and a response is delivered. -/
theorem not_served_removed :
    let inputs : List ClientInput := [.modify 0 (sampleDescriptor [83]) true,
      .send 0 (sampleMessage .request 1 [83]) [(.complete, true)], .remove 0, .timeout 0]
    EachStep (ClientAgent.step sampleProfile) (fun s input => s.enabled input = true) {} inputs ∧
      ¬ Served sampleProfile (run (ClientAgent.step sampleProfile) {} inputs).1 := by
  refine ⟨by decide +kernel, fun h => ?_⟩
  have hquiet := pairwise_iff_getElem.1 h.quiet 2 3 (by decide +kernel) (by decide +kernel) (by decide) 0
  exact absurd (hquiet (by decide +kernel)) (by decide +kernel)

end UniMrcp.MrcpV2Transport
