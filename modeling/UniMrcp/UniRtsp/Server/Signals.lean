import UniMrcp.UniRtsp.Server

/-!
# The signals of the server

What every run of the server keeps, whatever the application accepts or refuses.
-/

namespace UniMrcp.UniRtsp

open Apt Lib List Function Server ServerSession

variable {A : ServerProfile} {s t u : Server} {id c : Nat}

@[simp] theorem Server.see_session (s : Server) (event : ServerEvent) : (s.see event).session = s.session := rfl

@[simp] theorem Server.see_connection (s : Server) (event : ServerEvent) : (s.see event).connection = s.connection :=
  rfl

@[simp] theorem Server.see_log (s : Server) (event : ServerEvent) : (s.see event).log = s.log ++ [event] := rfl

@[simp] theorem Server.modifySession_connection (s : Server) (id : Nat) (f : ServerSession → ServerSession) :
    (s.modifySession id f).connection = s.connection := rfl

@[simp] theorem Server.modifySession_log (s : Server) (id : Nat) (f : ServerSession → ServerSession) :
    (s.modifySession id f).log = s.log := rfl

@[simp] theorem Server.modifySession_self (s : Server) (id : Nat) (f : ServerSession → ServerSession) :
    (s.modifySession id f).session id = f (s.session id) := update_self ..

variable {other : Nat}

theorem Server.modifySession_ne (s : Server) (f : ServerSession → ServerSession) (hne : other ≠ id) :
    (s.modifySession id f).session other = s.session other := update_of_ne hne ..

@[simp] theorem Server.modifyConnection_self (s : Server) (c : Nat) (f : ServerConnection → ServerConnection) :
    (s.modifyConnection c f).connection c = f (s.connection c) := update_self ..

theorem Server.modifyConnection_ne (s : Server) (f : ServerConnection → ServerConnection) (hne : other ≠ c) :
    (s.modifyConnection c f).connection other = s.connection other := update_of_ne hne ..

/-! ## Steady steps -/

/-- **The tables are not changed**, nor the signals and sessions; a session is terminating just when this was seen; and
no fault is seen, if `p` holds. -/
structure Steady (p : Prop) (s t : Server) : Prop where
  connection : t.connection = s.connection
  connectionCount : t.connectionCount = s.connectionCount
  sessionCount : t.sessionCount = s.sessionCount
  signals : t.signals = s.signals
  session : ∀ id, (t.session id).connection = (s.session id).connection ∧ (t.session id).id = (s.session id).id ∧
    (t.session id).destroyed = (s.session id).destroyed ∧ (t.session id).closing = (s.session id).closing
  fresh : ∀ id, s.sessionCount ≤ id → t.session id = s.session id
  terminated : ∀ id, t.log.count (.terminated id) + (s.session id).terminating.toNat =
    s.log.count (.terminated id) + (t.session id).terminating.toNat
  sessionDestroyed : ∀ id, t.log.count (.sessionDestroyed id) = s.log.count (.sessionDestroyed id)
  connectionDestroyed : ∀ c, t.log.count (.connectionDestroyed c) = s.log.count (.connectionDestroyed c)
  fault : p → .fault ∉ s.log → .fault ∉ t.log

variable {p q : Prop}

theorem steady_refl (s : Server) : Steady p s s :=
  ⟨rfl, rfl, rfl, rfl, fun _ => ⟨rfl, rfl, rfl, rfl⟩, fun _ _ => rfl, fun _ => rfl, fun _ => rfl, fun _ => rfl,
    fun _ h => h⟩

theorem Steady.trans (h : Steady p s t) (h' : Steady p t u) : Steady p s u where
  connection := h'.connection.trans h.connection
  connectionCount := h'.connectionCount.trans h.connectionCount
  sessionCount := h'.sessionCount.trans h.sessionCount
  signals := h'.signals.trans h.signals
  session id := by
    obtain ⟨h1, h2, h3, h4⟩ := h.session id
    obtain ⟨h1', h2', h3', h4'⟩ := h'.session id
    exact ⟨h1'.trans h1, h2'.trans h2, h3'.trans h3, h4'.trans h4⟩
  fresh id hid := (h'.fresh id (h.sessionCount ▸ hid)).trans (h.fresh id hid)
  terminated id := by
    have h1 := h.terminated id
    have h2 := h'.terminated id
    omega
  sessionDestroyed id := (h'.sessionDestroyed id).trans (h.sessionDestroyed id)
  connectionDestroyed c := (h'.connectionDestroyed c).trans (h.connectionDestroyed c)
  fault hp hs := h'.fault hp (h.fault hp hs)

theorem Steady.mono (h : Steady p s t) (hp : q → p) : Steady q s t := { h with fault := fun hq => h.fault (hp hq) }

def ServerEvent.plain : ServerEvent → Bool
  | .received .. | .began .. | .sent .. => true
  | _ => false

theorem count_see_of_ne {event other : ServerEvent} (h : other ≠ event) :
    (s.see other).log.count event = s.log.count event := by
  rw [see_log, count_append, count_singleton, beq_false_of_ne h]
  rfl

theorem count_see_self (s : Server) (event : ServerEvent) : (s.see event).log.count event = s.log.count event + 1 := by
  rw [see_log, count_append, count_singleton_self]

variable {event : ServerEvent}

theorem see_steady (h : event.plain) : Steady p s (s.see event) := by
  have hne : ∀ other : ServerEvent, other.plain = false → event ≠ other := by
    rintro other ho rfl
    exact Bool.false_ne_true (ho.symm.trans h)
  refine { steady_refl (p := p) s with
    terminated := fun id => ?_, sessionDestroyed := fun id => ?_, connectionDestroyed := fun c => ?_,
    fault := fun _ hs hm => ?_ }
  · rw [count_see_of_ne (hne _ rfl), see_session]
  · rw [count_see_of_ne (hne _ rfl)]
  · rw [count_see_of_ne (hne _ rfl)]
  · rcases mem_append.1 hm with hm | hm
    · exact hs hm
    · exact hne .fault rfl (mem_singleton.1 hm).symm

theorem fault_steady (hp : ¬ p) : Steady p s (s.see .fault) :=
  { steady_refl (p := p) s with
    terminated := fun id => by rw [count_see_of_ne (fun h => by cases h), see_session]
    sessionDestroyed := fun id => count_see_of_ne fun h => by cases h
    connectionDestroyed := fun c => count_see_of_ne fun h => by cases h
    fault := fun h => absurd h hp }

theorem modifySession_steady {f : ServerSession → ServerSession} (hid : id < s.sessionCount)
    (hf : (f (s.session id)).connection = (s.session id).connection ∧ (f (s.session id)).id = (s.session id).id ∧
      (f (s.session id)).destroyed = (s.session id).destroyed ∧ (f (s.session id)).closing = (s.session id).closing)
    (ht : (f (s.session id)).terminating = (s.session id).terminating) :
    Steady p s (s.modifySession id f) := by
  refine { steady_refl (p := p) s with
    session := fun other => ?_, fresh := fun other ho => ?_, terminated := fun other => ?_ }
  · rcases eq_or_ne other id with rfl | hne
    · rw [modifySession_self]
      exact hf
    · rw [s.modifySession_ne f hne]
      exact ⟨rfl, rfl, rfl, rfl⟩
  · exact s.modifySession_ne f (by omega)
  · rcases eq_or_ne other id with rfl | hne
    · rw [modifySession_self, ht, modifySession_log]
    · rw [s.modifySession_ne f hne, modifySession_log]

theorem messageSend_steady (c : Nat) (message : RtspMessage) (answers : Option Nat) :
    Steady p s (s.messageSend c message answers) := by
  unfold Server.messageSend
  split_ifs
  · exact see_steady rfl
  · exact steady_refl s

theorem terminateRequest_steady (hid : id < s.sessionCount) : Steady p s (s.terminateRequest id) := by
  unfold Server.terminateRequest
  split_ifs with ht
  · exact steady_refl s
  · refine { steady_refl (p := p) s with
      session := fun other => ?_, fresh := fun other ho => ?_, terminated := fun other => ?_,
      sessionDestroyed := fun other => ?_, connectionDestroyed := fun c => ?_, fault := fun _ hs hm => ?_ }
    · rcases eq_or_ne other id with rfl | hne
      · rw [see_session, modifySession_self]
        exact ⟨rfl, rfl, rfl, rfl⟩
      · rw [see_session, s.modifySession_ne _ hne]
        exact ⟨rfl, rfl, rfl, rfl⟩
    · rw [see_session, s.modifySession_ne _ (Nat.ne_of_gt (Nat.lt_of_lt_of_le hid ho))]
    · rcases eq_or_ne other id with rfl | hne
      · rw [count_see_self, see_session, modifySession_self, modifySession_log]
        rw [Bool.not_eq_true] at ht
        rw [ht]
        rfl
      · rw [count_see_of_ne (fun h => hne (ServerEvent.terminated.inj h).symm), see_session,
          s.modifySession_ne _ hne, modifySession_log]
    · rw [count_see_of_ne (fun h => by cases h), modifySession_log]
    · rw [count_see_of_ne (fun h => by cases h), modifySession_log]
    · rcases mem_append.1 hm with hm | hm
      · exact hs hm
      · cases mem_singleton.1 hm

theorem handleMessage_steady (hid : id < s.sessionCount) (request : Received) (accepted : Bool) :
    Steady p s (s.handleMessage A id request accepted).1 := by
  unfold Server.handleMessage
  split_ifs
  · exact modifySession_steady (f := ({ · with owed := true })) hid ⟨rfl, rfl, rfl, rfl⟩ rfl
  · exact messageSend_steady _ _ _

def Received.named (request : Received) : Bool := request.methodId != methodTeardown || request.resourceName.isSome

theorem messageHandle_steady (hid : id < s.sessionCount) (request : Received) (accepted : Bool) :
    Steady (request.named) s (s.messageHandle A id request accepted).1 := by
  unfold Server.messageHandle
  have hb : Steady (request.named) s (s.see (.began id request.number)) := see_steady rfl
  refine hb.trans ?_
  have hid : id < (s.see (.began id request.number)).sessionCount := hid
  generalize s.see (.began id request.number) = t at hid
  dsimp only
  split_ifs with ht
  · split
    · next hn => exact fault_steady (by simp [Received.named, ht, hn])
    · next name hm =>
      have hr : Steady (request.named) t (t.resourceRemove id name) :=
        modifySession_steady hid ⟨rfl, rfl, rfl, rfl⟩ rfl
      refine hr.trans ?_
      have hid : id < (t.resourceRemove id name).sessionCount := hid
      split_ifs
      · exact terminateRequest_steady hid
      · exact handleMessage_steady hid request accepted
  · exact handleMessage_steady hid request accepted

theorem activate_steady (hid : id < s.sessionCount) (request : Received) : Steady p s (s.activate id request) :=
  modifySession_steady hid ⟨rfl, rfl, rfl, rfl⟩ rfl

theorem eventProcess_steady (message : RtspMessage) : Steady p s (s.eventProcess id message) := by
  unfold Server.eventProcess
  split
  · exact steady_refl s
  · exact messageSend_steady _ _ _

/-- The requests that a response takes from a session name their resources, where the session is searched for them. -/
def ServerSession.named (session : ServerSession) (message : RtspMessage) : Bool :=
  session.activeRequest.all fun request =>
    !nameless request message && (session.ends request message || session.requestQueue.head?.all Received.named)

theorem responseSend_steady (hid : id < s.sessionCount) (request : Received) (message : RtspMessage) :
    Steady p s (s.responseSend id request message) := by
  unfold Server.responseSend
  generalize (if request.methodId = methodDescribe then message else message.setSession (s.session id).id) = message
  have hs : Steady p s (s.modifySession id fun session =>
      { session with resourceTable := session.answered request message, lastCseq := message.header.cseq }) :=
    modifySession_steady hid ⟨rfl, rfl, rfl, rfl⟩ rfl
  exact hs.trans (messageSend_steady _ _ _)

theorem responseSend_requests (request : Received) (message : RtspMessage) :
    ((s.responseSend id request message).session id).activeRequest = (s.session id).activeRequest ∧
      ((s.responseSend id request message).session id).requestQueue = (s.session id).requestQueue := by
  unfold Server.responseSend Server.messageSend
  dsimp only
  split_ifs <;> simp

theorem requestPop_steady (hid : id < s.sessionCount) (accepted : Bool) :
    Steady ((s.session id).requestQueue.head?.all Received.named) s (s.requestPop A id accepted) := by
  unfold Server.requestPop
  cases hq : (s.session id).requestQueue with
  | nil => exact modifySession_steady hid ⟨rfl, rfl, rfl, rfl⟩ rfl
  | cons next queue =>
    have hp : Steady (next.named) s
        (s.modifySession id ({ · with activeRequest := some next, requestQueue := queue })) :=
      modifySession_steady hid ⟨rfl, rfl, rfl, rfl⟩ rfl
    exact hp.trans (messageHandle_steady (hp.sessionCount.symm ▸ hid) next accepted)

/-- **A response is processed.** -/
theorem responseProcess_steady (hid : id < s.sessionCount) (message : RtspMessage) (accepted : Bool) :
    Steady ((s.session id).named message) s (s.responseProcess A id message accepted) := by
  unfold Server.responseProcess
  cases ha : (s.session id).activeRequest with
  | none => exact steady_refl s
  | some request =>
    have hn : (s.session id).named message ↔ nameless request message = false ∧
        ((s.session id).ends request message ∨ (s.session id).requestQueue.head?.all Received.named) := by
      simp [named, ha]
    rw [hn]
    dsimp only
    split_ifs with hm he
    · exact fault_steady fun h => absurd hm (by simp [h.1])
    · have hs : Steady True s (s.responseSend id request message) := responseSend_steady hid request message
      have hd : Steady True (s.responseSend id request message)
          ((s.responseSend id request message).modifySession id ({ · with activeRequest := none })) :=
        modifySession_steady (hs.sessionCount.symm ▸ hid) ⟨rfl, rfl, rfl, rfl⟩ rfl
      have hlt := (hs.trans hd).sessionCount.symm ▸ hid
      exact ((hs.trans hd).trans (terminateRequest_steady hlt)).mono fun _ => trivial
    · refine (responseSend_steady hid request message).trans ?_
      refine (requestPop_steady ((responseSend_steady (p := True) hid request message).sessionCount.symm ▸ hid)
        accepted).mono fun h => ?_
      rw [(responseSend_requests request message).2]
      simpa [he] using h.2

def Server.sessionOf (s : Server) (c : Nat) (message : RtspMessage) : Option Nat :=
  if message.startLine.isRequest && headerPropertyCheck message.header .sessionId then
    (s.connection c).sessionTable.lookup message.header.sessionId
  else none

/-- A request that is handled names its resource, where its session is searched for it. -/
def Server.names (s : Server) : ServerInput → Bool
  | .receive c message _ _ => (s.sessionOf c message).all fun id =>
    (s.session id).terminating || (s.session id).activeRequest.isSome || Received.named ⟨s.received, message⟩
  | .process _ =>
    match s.signals with
    | .send id message :: _ => message.startLine.isRequest || (s.session id).named message
    | _ => true
  | _ => true

theorem destinationAssign_same (s : Server) (c : Nat) (message : RtspMessage) :
    (s.destinationAssign c message).startLine = message.startLine ∧
      (s.destinationAssign c message).header.headerSection = message.header.headerSection ∧
      (s.destinationAssign c message).header.sessionId = message.header.sessionId := by
  unfold Server.destinationAssign
  split_ifs <;> exact ⟨rfl, rfl, rfl⟩

/-! ## The invariant -/

/-- **The invariant of tables and signals.** -/
structure Wired (s : Server) : Prop where
  fresh : ∀ id, s.sessionCount ≤ id → s.session id = {}
  unopened : ∀ c, s.connectionCount ≤ c → s.connection c = {}
  located : ∀ id, id < s.sessionCount → (s.session id).connection < s.connectionCount
  listed : ∀ c key id, (s.connection c).sessionTable.lookup key = some id →
    id < s.sessionCount ∧ (s.session id).connection = c ∧ (s.session id).id = key
  live : ∀ signal ∈ s.signals, s.live signal.session
  last : s.signals.Pairwise fun a b => a = .terminate a.session → b.session ≠ a.session
  closing : ∀ id, s.live id → ((s.session id).closing ↔ .terminate id ∈ s.signals)

theorem live_iff : s.live id ↔ id < s.sessionCount ∧ (s.session id).destroyed = false := by
  simp [Server.live]

variable {signal : Signal}

theorem Wired.lt_of_mem (h : Wired s) (hm : signal ∈ s.signals) :
    signal.session < s.sessionCount := (live_iff.1 (h.live signal hm)).1

theorem Wired.lt_of_sock (h : Wired s) (hs : (s.connection c).sock) : c < s.connectionCount := by
  by_contra hle
  rw [h.unopened c (Nat.le_of_not_lt hle)] at hs
  cases hs

theorem Steady.live_eq (hs : Steady p s t) (id : Nat) : t.live id = s.live id := by
  unfold Server.live
  rw [hs.sessionCount, (hs.session id).2.2.1]

theorem Wired.steady (h : Wired s) (hs : Steady p s t) : Wired t where
  fresh id hid := (hs.fresh id (hs.sessionCount ▸ hid)).trans (h.fresh id (hs.sessionCount ▸ hid))
  unopened c hc := by
    rw [hs.connection]
    exact h.unopened c (hs.connectionCount ▸ hc)
  located id hid := by
    rw [(hs.session id).1, hs.connectionCount]
    exact h.located id (hs.sessionCount ▸ hid)
  listed c key id hl := by
    rw [hs.connection] at hl
    rw [hs.sessionCount, (hs.session id).1, (hs.session id).2.1]
    exact h.listed c key id hl
  live signal hm := by
    rw [hs.live_eq]
    exact h.live signal (hs.signals ▸ hm)
  last := by
    rw [hs.signals]
    exact h.last
  closing id hv := by
    rw [(hs.session id).2.2.2, hs.signals]
    exact h.closing id (hs.live_eq id ▸ hv)

theorem Wired.congr (h : Wired s) (hs : t.session = s.session) (hc : t.sessionCount = s.sessionCount)
    (hco : t.connection = s.connection) (hn : t.connectionCount = s.connectionCount)
    (hg : t.signals = s.signals) : Wired t := by
  obtain ⟨online, session, sessionCount, connection, connectionCount, signals, received, log⟩ := s
  obtain ⟨online', session', sessionCount', connection', connectionCount', signals', received', log'⟩ := t
  subst hs hc hco hn hg
  exact ⟨h.fresh, h.unopened, h.located, h.listed, h.live, h.last, h.closing⟩

theorem Wired.see (h : Wired s) (event : ServerEvent) : Wired (s.see event) := h.congr rfl rfl rfl rfl rfl

theorem Wired.modifyConnection (h : Wired s) {f : ServerConnection → ServerConnection} (hc : c < s.connectionCount)
    (hf : ∀ key id, (f (s.connection c)).sessionTable.lookup key = some id →
      (s.connection c).sessionTable.lookup key = some id) : Wired (s.modifyConnection c f) where
  fresh := h.fresh
  unopened other ho := by
    rw [s.modifyConnection_ne f (Nat.ne_of_gt (Nat.lt_of_lt_of_le hc ho))]
    exact h.unopened other ho
  located := h.located
  listed other key id hl := by
    rcases eq_or_ne other c with rfl | hne
    · rw [modifyConnection_self] at hl
      exact h.listed other key id (hf key id hl)
    · rw [s.modifyConnection_ne f hne] at hl
      exact h.listed other key id hl
  live := h.live
  last := h.last
  closing := h.closing

variable {signals : List Signal}

theorem Wired.sessionDestroy (h : Wired s) (hid : id < s.sessionCount) (hs : signals.Sublist s.signals)
    (hf : ∀ signal ∈ s.signals, signal.session ≠ id → signal ∈ signals)
    (hn : ∀ signal ∈ signals, signal.session ≠ id) : Wired ((s.taken signals).sessionDestroy id) := by
  have hl : ((s.taken signals).sessionDestroy id).session id = { s.session id with destroyed := true } :=
    s.modifySession_self id ({ · with destroyed := true })
  have ho : ∀ other, other ≠ id → ((s.taken signals).sessionDestroy id).session other = s.session other :=
    fun other hne => s.modifySession_ne ({ · with destroyed := true }) hne
  have hv : ∀ other, other ≠ id → ((s.taken signals).sessionDestroy id).live other = s.live other := by
    intro other hne
    unfold Server.live
    rw [ho other hne]
    rfl
  refine ⟨fun other hle => ?_, h.unopened, fun other hlt => ?_, fun c key other hk => ?_, fun signal hm => ?_,
    h.last.sublist hs, fun other ht => ?_⟩
  · rw [ho other (Nat.ne_of_gt (Nat.lt_of_lt_of_le hid hle))]
    exact h.fresh other hle
  · rcases eq_or_ne other id with rfl | hne
    · rw [hl]
      exact h.located other hlt
    · rw [ho other hne]
      exact h.located other hlt
  · rcases eq_or_ne other id with rfl | hne
    · rw [hl]
      exact h.listed c key other hk
    · rw [ho other hne]
      exact h.listed c key other hk
  · rw [hv _ (hn signal hm)]
    exact h.live signal (hs.subset hm)
  · have hne : other ≠ id := by
      rintro rfl
      rw [live_iff, hl] at ht
      exact absurd ht.2 (by simp)
    rw [ho other hne, h.closing other (hv other hne ▸ ht)]
    exact ⟨fun hm => hf _ hm hne, fun hm => hs.subset hm⟩

def Server.created (s : Server) (c : Nat) (sessionId : Bytes) : Server := (s.setupProcess c (some sessionId)).1

theorem setupProcess_some (s : Server) (c : Nat) (sessionId : Bytes) :
    s.setupProcess c (some sessionId) = (s.created c sessionId, some s.sessionCount) := rfl

theorem created_session (s : Server) (c : Nat) (sessionId : Bytes) :
    (s.created c sessionId).session s.sessionCount = { connection := c, id := sessionId } := update_self ..

variable (sessionId : Bytes)

theorem created_session_ne (hne : other ≠ s.sessionCount) :
    (s.created c sessionId).session other = s.session other := update_of_ne hne ..

theorem created_table (s : Server) (c : Nat) (sessionId : Bytes) :
    ((s.created c sessionId).connection c).sessionTable =
      (s.connection c).sessionTable.insert sessionId s.sessionCount := by
  unfold Server.created Server.setupProcess
  rw [modifyConnection_self]

theorem created_connection_ne (hne : other ≠ c) :
    (s.created c sessionId).connection other = s.connection other := update_of_ne hne ..

theorem Wired.created (h : Wired s) (hc : c < s.connectionCount) (sessionId : Bytes) :
    Wired (s.created c sessionId) := by
  have hn : (s.created c sessionId).sessionCount = s.sessionCount + 1 := rfl
  have hne : ∀ id, id < s.sessionCount → id ≠ s.sessionCount := fun _ => Nat.ne_of_lt
  refine ⟨fun id hid => ?_, fun other ho => ?_, fun id hid => ?_, fun other key id hl => ?_,
    fun signal hm => ?_, h.last, fun id hv => ?_⟩
  · rw [hn] at hid
    rw [created_session_ne sessionId (by omega)]
    exact h.fresh id (by omega)
  · rw [created_connection_ne sessionId (Nat.ne_of_gt (Nat.lt_of_lt_of_le hc ho))]
    exact h.unopened other ho
  · rcases eq_or_ne id s.sessionCount with rfl | hid'
    · rw [created_session]
      exact hc
    · rw [created_session_ne sessionId hid']
      exact h.located id (by omega)
  · have hd : (s.connection other).sessionTable.lookup key = some id → id < s.sessionCount + 1 ∧
        ((s.created c sessionId).session id).connection = other ∧ ((s.created c sessionId).session id).id = key := by
      intro hl
      obtain ⟨hlt, ht⟩ := h.listed other key id hl
      rw [created_session_ne sessionId (hne id hlt)]
      exact ⟨Nat.lt_succ_of_lt hlt, ht⟩
    rcases eq_or_ne other c with rfl | ho
    · rw [created_table] at hl
      rcases eq_or_ne key sessionId with rfl | hk
      · rw [AList.lookup_insert] at hl
        obtain rfl := Option.some.inj hl
        rw [created_session]
        exact ⟨Nat.lt_succ_self _, rfl, rfl⟩
      · rw [AList.lookup_insert_ne hk] at hl
        exact hd hl
    · rw [created_connection_ne sessionId ho] at hl
      exact hd hl
  · have hlt := h.lt_of_mem hm
    rw [live_iff, created_session_ne sessionId (hne _ hlt)]
    exact ⟨Nat.lt_succ_of_lt hlt, (live_iff.1 (h.live signal hm)).2⟩
  · rcases eq_or_ne id s.sessionCount with rfl | hid
    · rw [created_session]
      refine iff_of_false (by simp) fun hm => ?_
      exact absurd (h.lt_of_mem hm) (Nat.lt_irrefl _)
    · rw [live_iff, created_session_ne sessionId hid] at hv
      rw [created_session_ne sessionId hid]
      exact h.closing id (live_iff.2 ⟨by have := hv.1; omega, hv.2⟩)

/-! ## Steps -/

theorem newRequestProcess_wired (h : Wired s) (hc : c < s.connectionCount) (request : Received)
    (created : Option Bytes) (accepted : Bool) : Wired (s.newRequestProcess A c request created accepted) := by
  have he : ∀ status, Wired (s.errorRespond A c request status) := fun status =>
    h.steady (p := True) (messageSend_steady _ _ _)
  unfold Server.newRequestProcess
  split_ifs
  · cases created with
    | none => exact he _
    | some sessionId =>
      rw [setupProcess_some]
      have hr := h.created hc sessionId
      have hlt : s.sessionCount < (s.created c sessionId).sessionCount := Nat.lt_succ_self _
      have ha : Steady (request.named) (s.created c sessionId)
        ((s.created c sessionId).activate s.sessionCount request) := activate_steady hlt request
      have hs := ha.trans
        (messageHandle_steady (A := A) (ha.sessionCount.symm ▸ hlt) request accepted)
      dsimp only
      generalize ((s.created c sessionId).activate s.sessionCount request).messageHandle A s.sessionCount request
        accepted = r at hs
      obtain ⟨t, handled⟩ := r
      have ht := hr.steady hs
      cases handled with
      | true => exact ht
      | false =>
        refine ht.sessionDestroy (hs.sessionCount.symm ▸ hlt) (List.Sublist.refl _) (fun _ hm _ => hm)
          fun signal hm => ?_
        have hm : signal ∈ s.signals := hs.signals ▸ hm
        exact Nat.ne_of_lt (h.lt_of_mem hm)
  · exact he _
  · exact he _
  · exact he _

theorem sessionRequestProcess_steady (hid : id < s.sessionCount) (request : Received) (accepted : Bool) :
    Steady ((s.session id).destroyed = false ∧ ((s.session id).terminating ∨
        (s.session id).activeRequest.isSome = true ∨ request.named)) s
      (s.sessionRequestProcess A c id request accepted) := by
  unfold Server.sessionRequestProcess
  split_ifs with hd ht ha
  · exact fault_steady fun h => Bool.false_ne_true (h.1.symm.trans hd)
  · exact messageSend_steady _ _ _
  · exact modifySession_steady hid ⟨rfl, rfl, rfl, rfl⟩ rfl
  · refine (activate_steady hid request).trans ?_
    refine (messageHandle_steady ?_ request accepted).mono fun h => ?_
    · exact (activate_steady (p := True) hid request).sessionCount.symm ▸ hid
    · rcases h.2 with h | h | h
      · exact absurd h ht
      · exact absurd h ha
      · exact h

theorem requestProcess_wired (h : Wired s) (hc : c < s.connectionCount) (request : Received) (created : Option Bytes)
    (accepted : Bool) : Wired (s.requestProcess A c request created accepted) := by
  unfold Server.requestProcess
  split_ifs
  · split
    · exact h.steady (p := True) (messageSend_steady _ _ _)
    · next id hl => exact h.steady (sessionRequestProcess_steady (h.listed _ _ _ hl).1 request accepted)
  · exact newRequestProcess_wired h hc request created accepted

theorem messageHandler_wired (h : Wired s) (hs : (s.connection c).sock) (message : RtspMessage)
    (created : Option Bytes) (accepted : Bool) : Wired (s.messageHandler A c message created accepted) := by
  have hc := h.lt_of_sock hs
  have ht : Wired (s.timerSet A c) := h.modifyConnection hc fun _ _ h => h
  have ha : Wired ((s.timerSet A c).arrive c ((s.timerSet A c).destinationAssign c message)) :=
    ht.congr rfl rfl rfl rfl rfl
  unfold Server.messageHandler
  dsimp only
  split_ifs
  · exact requestProcess_wired ha hc _ created accepted
  · exact ht

theorem sessionClose_steady (hid : id < s.sessionCount) :
    Steady ((s.session id).destroyed = false) s (s.sessionClose id) := by
  unfold Server.sessionClose
  split_ifs with hd
  · exact fault_steady fun h => Bool.false_ne_true (h.symm.trans hd)
  · exact terminateRequest_steady hid

variable {order : List Nat}

theorem foldl_sessionClose_steady (ho : ∀ id ∈ order, id < s.sessionCount) :
    Steady (∀ id ∈ order, (s.session id).destroyed = false) s (order.foldl Server.sessionClose s) := by
  induction order generalizing s with
  | nil => exact steady_refl s
  | cons id order ih =>
    have hf := sessionClose_steady (ho id mem_cons_self)
    have hr := ih (s := s.sessionClose id) fun other hm =>
      hf.sessionCount.symm ▸ ho other (mem_cons_of_mem id hm)
    refine (hf.mono fun hp => hp id mem_cons_self).trans (hr.mono fun hp other hm => ?_)
    rw [(hf.session other).2.2.1]
    exact hp other (mem_cons_of_mem id hm)

theorem Wired.mem_sessionsOf (h : Wired s) (hm : id ∈ s.sessionsOf c) :
    id < s.sessionCount ∧ (s.session id).connection = c ∧
      (s.connection c).sessionTable.lookup (s.session id).id = some id := by
  obtain ⟨⟨key, _⟩, he, rfl⟩ := mem_map.1 hm
  have hl := AList.mem_lookup_iff.2 he
  obtain ⟨hlt, hc, hk⟩ := h.listed c key _ hl
  exact ⟨hlt, hc, hk ▸ hl⟩

def Server.closed (s : Server) (c : Nat) : Server :=
  s.modifyConnection c ({ · with sock := false, inactivityTimer := false })

theorem connectionClose_cases (hs : (s.connection c).sock) (order : List Nat) :
    s.connectionClose c order =
      if (s.connection c).sessionTable.entries.length ≠ 0 then order.foldl Server.sessionClose (s.closed c)
      else (s.closed c).connectionDestroy c := by
  have ht : ((s.closed c).connection c).sessionTable = (s.connection c).sessionTable := by
    unfold Server.closed
    rw [modifyConnection_self]
  unfold Server.connectionClose
  rw [if_pos hs, ← ht]
  rfl

theorem connectionClose_wired (h : Wired s) (ho : order.Perm (s.sessionsOf c)) :
    Wired (s.connectionClose c order) := by
  cases hs : (s.connection c).sock with
  | false =>
    unfold Server.connectionClose
    rw [hs]
    exact h
  | true =>
    have hc := h.lt_of_sock hs
    have hl : Wired (s.closed c) := h.modifyConnection hc fun _ _ h => h
    rw [connectionClose_cases hs]
    split_ifs
    · exact hl.steady (foldl_sessionClose_steady fun id hm => (h.mem_sessionsOf (ho.mem_iff.1 hm)).1)
    · have hd := hl.modifyConnection (f := ({ · with destroyed := true })) hc fun _ _ h => h
      exact hd.see _

theorem terminateRespond_steady : Steady p s (s.terminateRespond A id) := by
  unfold Server.terminateRespond
  split
  · exact steady_refl s
  · exact messageSend_steady _ _ _

theorem lookup_of_lookup_erase {table : AList fun _ : Bytes => Nat} {erased key : Bytes}
    (h : (table.erase erased).lookup key = some id) : table.lookup key = some id := by
  rcases eq_or_ne key erased with rfl | hne
  · rw [AList.lookup_erase] at h
    cases h
  · rwa [AList.lookup_erase_ne hne] at h

theorem Wired.taken (h : Wired s) (hs : s.signals = signal :: signals) (hl : ∀ id, signal ≠ .terminate id) :
    Wired (s.taken signals) := by
  refine ⟨h.fresh, h.unopened, h.located, h.listed, fun other hm => ?_, ?_, fun id hv => ?_⟩
  · exact h.live other (hs ▸ mem_cons_of_mem signal hm)
  · have hl := h.last
    rw [hs] at hl
    exact (pairwise_cons.1 hl).2
  · refine (h.closing id hv).trans ?_
    rw [hs, mem_cons]
    exact or_iff_right fun heq => hl id heq.symm

theorem Wired.rest_ne (h : Wired s) (hs : s.signals = .terminate id :: signals) :
    ∀ signal ∈ signals, signal.session ≠ id := by
  intro signal hm
  have hl := h.last
  rw [hs] at hl
  exact (pairwise_cons.1 hl).1 signal hm rfl

theorem taken_terminateRespond (signals : List Signal) :
    (s.taken signals).terminateRespond A id = (s.terminateRespond A id).taken signals := by
  have hs : (s.taken signals).session id = s.session id := rfl
  unfold Server.terminateRespond
  rw [hs]
  split
  · rfl
  · have hc : (s.taken signals).connection = s.connection := rfl
    unfold Server.messageSend
    rw [hc]
    split_ifs <;> rfl

/-- **A session is terminated.** -/
theorem doTerminate_wired (h : Wired s) (hs : s.signals = .terminate id :: signals) :
    Wired ((s.taken signals).doTerminate A id) := by
  have hm : Signal.terminate id ∈ s.signals := hs ▸ mem_cons_self
  have hid : id < s.sessionCount := h.lt_of_mem hm
  have ht : Steady True s (s.terminateRespond A id) := terminateRespond_steady
  have hr := h.steady ht
  unfold Server.doTerminate
  rw [taken_terminateRespond]
  have hs : (s.terminateRespond A id).signals = .terminate id :: signals := ht.signals.trans hs
  have hid : id < (s.terminateRespond A id).sessionCount := ht.sessionCount.symm ▸ hid
  generalize s.terminateRespond A id = t at hr hs hid
  have hc := hr.located id hid
  have hrm : Wired (t.sessionRemove id) :=
    hr.modifyConnection hc fun _ _ hk => lookup_of_lookup_erase hk
  have hd : Wired (((t.sessionRemove id).taken signals).sessionDestroy id) := by
    have hs' : (t.sessionRemove id).signals = .terminate id :: signals := hs
    refine hrm.sessionDestroy hid ?_ (fun signal hm hne => ?_) (hr.rest_ne hs)
    · rw [hs']
      exact sublist_cons_self _ _
    · rw [hs'] at hm
      exact (mem_cons.1 hm).resolve_left fun heq => hne (heq ▸ rfl)
  unfold Server.sessionEnd Server.connectionRelease
  split_ifs
  · have hl := hd.modifyConnection (f := ({ · with destroyed := true })) hc fun _ _ h => h
    exact hl.see _
  · exact hd

theorem process_wired (h : Wired s) (accepted : Bool) : Wired (s.process A accepted) := by
  unfold Server.process
  split
  · exact h
  · next signal signals hs =>
    have hm : signal ∈ s.signals := hs ▸ mem_cons_self
    have hl := live_iff.1 (h.live signal hm)
    have hh : ((s.taken signals).session signal.session).destroyed ≠ true := by
      show (s.session signal.session).destroyed ≠ true
      simp [hl.2]
    unfold Server.signalProcess
    rw [if_neg hh]
    cases signal with
    | send id message =>
      have ht := h.taken hs fun _ heq => by cases heq
      dsimp only
      split_ifs
      · exact ht.steady (p := True) (eventProcess_steady message)
      · exact ht.steady (responseProcess_steady (s := s.taken signals) hl.1 message accepted)
    | terminate id => exact doTerminate_wired h hs
    | release id =>
      have ht := h.taken hs fun _ heq => by cases heq
      exact ht.steady (p := True) (terminateRequest_steady (s := s.taken signals) hl.1)

theorem ServerSession.signalled_same (session : ServerSession) (signal : Signal) :
    (session.signalled signal).connection = session.connection ∧ (session.signalled signal).id = session.id ∧
      (session.signalled signal).destroyed = session.destroyed ∧
      (session.signalled signal).terminating = session.terminating := by
  cases signal with
  | send id message =>
    unfold signalled
    dsimp only
    split_ifs <;> exact ⟨rfl, rfl, rfl, rfl⟩
  | terminate id => exact ⟨rfl, rfl, rfl, rfl⟩
  | release id => exact ⟨rfl, rfl, rfl, rfl⟩

/-- **The application signals.** -/
theorem controlMessageSignal_wired (h : Wired s) (hl : s.live signal.session)
    (hp : (s.session signal.session).closing = false) : Wired (s.controlMessageSignal signal) := by
  have hid := (live_iff.1 hl).1
  have hsl : (s.controlMessageSignal signal).session signal.session =
      (s.session signal.session).signalled signal := update_self ..
  have ho : ∀ other, other ≠ signal.session → (s.controlMessageSignal signal).session other = s.session other :=
    fun other hne => update_of_ne hne ..
  have hs : ∀ id, ((s.controlMessageSignal signal).session id).connection = (s.session id).connection ∧
      ((s.controlMessageSignal signal).session id).id = (s.session id).id ∧
      ((s.controlMessageSignal signal).session id).destroyed = (s.session id).destroyed := by
    intro id
    rcases eq_or_ne id signal.session with rfl | hne
    · rw [hsl]
      obtain ⟨h1, h2, h3, -⟩ := signalled_same (s.session signal.session) signal
      exact ⟨h1, h2, h3⟩
    · rw [ho id hne]
      exact ⟨rfl, rfl, rfl⟩
  have hl' : ∀ id, (s.controlMessageSignal signal).live id = s.live id := by
    intro id
    unfold Server.live
    rw [(hs id).2.2]
    rfl
  have hn : .terminate signal.session ∉ s.signals := fun hm =>
    Bool.false_ne_true (hp.symm.trans ((h.closing _ hl).2 hm))
  refine ⟨fun id hle => ?_, h.unopened, fun id hlt => ?_, fun c key id hk => ?_, fun other hm => ?_, ?_,
    fun id ht => ?_⟩
  · rw [ho id (Nat.ne_of_gt (Nat.lt_of_lt_of_le hid hle))]
    exact h.fresh id hle
  · rw [(hs id).1]
    exact h.located id hlt
  · rw [(hs id).1, (hs id).2.1]
    exact h.listed c key id hk
  · rw [hl']
    rcases mem_append.1 hm with hm | hm
    · exact h.live other hm
    · rw [mem_singleton.1 hm]
      exact hl
  · refine pairwise_append.2 ⟨h.last, pairwise_singleton _ _, fun a ha b hb heq hss => ?_⟩
    rw [mem_singleton.1 hb] at hss
    rw [heq, ← hss] at ha
    exact hn ha
  · rw [hl'] at ht
    have hm : .terminate id ∈ (s.controlMessageSignal signal).signals ↔
        .terminate id ∈ s.signals ∨ .terminate id = signal := by
      show .terminate id ∈ s.signals ++ [signal] ↔ _
      rw [mem_append, mem_singleton]
    rw [hm, ← h.closing id ht]
    rcases eq_or_ne id signal.session with rfl | hne
    · rw [hsl]
      cases signal with
      | send id message =>
        simp only [signalled]
        split_ifs <;> simp
      | terminate id => simp [signalled, Signal.session]
      | release id => simp [signalled]
    · rw [ho id hne]
      refine (or_iff_left ?_).symm
      rintro rfl
      exact hne rfl

theorem accepted_connection (s : Server) (clientIp : Bytes) :
    (s.connectionAccept A clientIp).connection s.connectionCount =
      { clientIp := clientIp, sock := true, inactivityTimer := A.inactivityTimeout != 0 } :=
      update_self ..

theorem accepted_connection_ne (clientIp : Bytes) (hne : c ≠ s.connectionCount) :
    (s.connectionAccept A clientIp).connection c = s.connection c := update_of_ne hne ..

theorem connectionAccept_wired (h : Wired s) (clientIp : Bytes) : Wired (s.connectionAccept A clientIp) := by
  refine ⟨h.fresh, fun c hc => ?_, fun id hid => ?_, fun c key id hl => ?_, h.live, h.last, h.closing⟩
  · have hc : s.connectionCount + 1 ≤ c := hc
    rw [accepted_connection_ne clientIp (by omega)]
    exact h.unopened c (by omega)
  · exact Nat.lt_succ_of_lt (h.located id hid)
  · rcases eq_or_ne c s.connectionCount with rfl | hne
    · rw [accepted_connection] at hl
      cases hl
    · rw [accepted_connection_ne clientIp hne] at hl
      exact h.listed c key id hl

theorem step_wired (h : Wired s) {input : ServerInput} (he : s.enabled input) :
    Wired (s.step A input).1 := by
  cases input with
  | accept clientIp => exact connectionAccept_wired h clientIp
  | receive c message created accepted =>
    have hs := (Bool.and_eq_true_iff.1 he).1
    exact messageHandler_wired h hs message created accepted
  | disconnect c order => exact connectionClose_wired h (isPerm_iff.1 (Bool.and_eq_true_iff.1 he).2)
  | inactivity c order => exact connectionClose_wired h (isPerm_iff.1 (Bool.and_eq_true_iff.1 he).2)
  | signal signal =>
    obtain ⟨hl, ho⟩ := Bool.and_eq_true_iff.1 he
    exact controlMessageSignal_wired h hl (by simpa using ho)
  | process accepted => exact process_wired h accepted
  | offline => exact h.congr rfl rfl rfl rfl rfl
  | online => exact h.congr rfl rfl rfl rfl rfl

theorem wired_start : Wired {} where
  fresh _ _ := rfl
  unopened _ _ := rfl
  located _ hid := absurd hid (Nat.not_lt_zero _)
  listed _ _ _ hl := by cases hl
  live _ hm := absurd hm not_mem_nil
  last := List.Pairwise.nil
  closing _ hv := absurd (live_iff.1 hv).1 (Nat.not_lt_zero _)

end UniMrcp.UniRtsp
