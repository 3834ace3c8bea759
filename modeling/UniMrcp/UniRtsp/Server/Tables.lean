import UniMrcp.UniRtsp.Server.Signals

/-!
# The session tables of the server

A session is terminated once and destroyed once, and so is a connection when its table is empty.
-/

namespace UniMrcp.UniRtsp

open Apt Lib List Server Received

variable {A : ServerProfile} {s t : Server} {id c : Nat} {p : Prop}

/-- **The tables have just the sessions that are there**, which are terminated and destroyed once at most. -/
structure Tables (s : Server) : Prop where
  table : ∀ c key id, (s.connection c).sessionTable.lookup key = some id ↔
    s.live id ∧ (s.session id).connection = c ∧ (s.session id).id = key
  terminated : ∀ id, s.log.count (.terminated id) = (s.session id).terminating.toNat
  sessionDestroyed : ∀ id, s.log.count (.sessionDestroyed id) = (s.session id).destroyed.toNat
  fault : .fault ∉ s.log

/-- A connection was accepted, its socket is closed, and its table is empty. -/
def Server.over (s : Server) (c : Nat) : Bool :=
  decide (c < s.connectionCount) && !(s.connection c).sock && (s.connection c).sessionTable.entries.length == 0

/-- **The tables are right**, and a connection was destroyed once if it is over. -/
structure Tabled (s : Server) : Prop extends Tables s where
  connectionDestroyed : ∀ c, s.log.count (.connectionDestroyed c) = (s.over c).toNat

def Server.creates (s : Server) (message : RtspMessage) (created : Option Bytes) : Bool :=
  message.startLine.isRequest && !headerPropertyCheck message.header .sessionId &&
    (message.startLine.methodId == methodSetup || message.startLine.methodId == methodDescribe) && s.online &&
    created.isSome

/-- **The condition on a step.** The first request of a session is not refused, and resources that are searched for have
names. -/
def Server.orderly (s : Server) (input : ServerInput) : Bool :=
  s.names input &&
    match input with
    | .receive _ message created accepted => !s.creates message created || accepted
    | _ => true

/-! ## What keeps the tables -/

theorem Tabled.steady (h : Tabled s) (hs : Steady p s t) (hp : p) : Tabled t where
  table c key id := by
    rw [hs.connection, hs.live_eq, (hs.session id).1, (hs.session id).2.1]
    exact h.table c key id
  terminated id := by
    have hc := hs.terminated id
    rw [h.terminated id] at hc
    omega
  sessionDestroyed id := by
    rw [hs.sessionDestroyed, (hs.session id).2.2.1]
    exact h.sessionDestroyed id
  fault := hs.fault hp h.fault
  connectionDestroyed c := by
    have ho : t.over c = s.over c := by
      unfold Server.over
      rw [hs.connection, hs.connectionCount]
    rw [hs.connectionDestroyed, ho]
    exact h.connectionDestroyed c

theorem Tables.lookup (h : Tables s) (hl : s.live id) :
    (s.connection (s.session id).connection).sessionTable.lookup (s.session id).id = some id :=
  (h.table _ _ id).2 ⟨hl, rfl, rfl⟩

theorem entries_length_ne_zero {table : AList fun _ : Bytes => Nat} {key : Bytes}
    (h : table.lookup key = some id) : table.entries.length ≠ 0 := by
  intro hz
  have hm := AList.mem_lookup_iff.1 h
  rw [length_eq_zero_iff.1 hz] at hm
  cases hm

theorem Tables.release (h : Tables s) (hc : c < s.connectionCount) (hn : s.log.count (.connectionDestroyed c) = 0)
    (hot : ∀ other, other ≠ c → s.log.count (.connectionDestroyed other) = (s.over other).toNat) :
    Tabled (s.connectionRelease c) := by
  have ho : s.over c ↔ (s.connection c).sock = false ∧ (s.connection c).sessionTable.entries.length = 0 := by
    simp [Server.over, hc]
  unfold Server.connectionRelease
  split_ifs with hcn
  · have ht : ∀ other, ((s.connectionDestroy c).connection other).sessionTable = (s.connection other).sessionTable ∧
        ((s.connectionDestroy c).connection other).sock = (s.connection other).sock := by
      intro other
      rcases eq_or_ne other c with rfl | hne
      · have hs : (s.connectionDestroy other).connection other = { s.connection other with destroyed := true } :=
          s.modifyConnection_self other ({ · with destroyed := true })
        rw [hs]
        exact ⟨rfl, rfl⟩
      · have hne' : (s.connectionDestroy c).connection other = s.connection other :=
          s.modifyConnection_ne ({ · with destroyed := true }) hne
        rw [hne']
        exact ⟨rfl, rfl⟩
    have ho' : ∀ other, (s.connectionDestroy c).over other = s.over other := by
      intro other
      unfold Server.over
      rw [(ht other).1, (ht other).2]
      rfl
    have hl : ∀ event, event ≠ .connectionDestroyed c → (s.connectionDestroy c).log.count event = s.log.count event :=
      fun event hne => count_see_of_ne hne.symm
    refine ⟨⟨fun other key id => ?_, fun id => ?_, fun id => ?_, fun hm => ?_⟩, fun other => ?_⟩
    · rw [(ht other).1]
      exact h.table other key id
    · rw [hl _ (fun heq => by cases heq)]
      exact h.terminated id
    · rw [hl _ (fun heq => by cases heq)]
      exact h.sessionDestroyed id
    · rcases mem_append.1 hm with hm | hm
      · exact h.fault hm
      · cases mem_singleton.1 hm
    · rw [ho']
      rcases eq_or_ne other c with rfl | hne
      · have hcnt : (s.connectionDestroy other).log.count (.connectionDestroyed other) =
            s.log.count (.connectionDestroyed other) + 1 := count_see_self _ _
        rw [hcnt, hn, ho.2 hcn]
        rfl
      · rw [hl _ fun heq => hne (ServerEvent.connectionDestroyed.inj heq)]
        exact hot other hne
  · refine ⟨h, fun other => ?_⟩
    rcases eq_or_ne other c with rfl | hne
    · have hnt : s.over other = false := by
        rw [Bool.eq_false_iff]
        exact fun heq => hcn (ho.1 heq)
      rw [hn, hnt]
      rfl
    · exact hot other hne

def Server.sessionGone (s : Server) (id : Nat) : Server := (s.sessionRemove id).sessionDestroy id

theorem gone_session (s : Server) (id : Nat) : (s.sessionGone id).session id = { s.session id with destroyed := true } :=
  (s.sessionRemove id).modifySession_self id ({ · with destroyed := true })

theorem gone_session_ne {other : Nat} (hne : other ≠ id) : (s.sessionGone id).session other = s.session other :=
  (s.sessionRemove id).modifySession_ne ({ · with destroyed := true }) hne

theorem gone_table (s : Server) (id : Nat) :
    ((s.sessionGone id).connection (s.session id).connection).sessionTable =
      (s.connection (s.session id).connection).sessionTable.erase (s.session id).id := by
  unfold Server.sessionGone Server.sessionRemove Server.sessionDestroy
  rw [see_connection, modifySession_connection, modifyConnection_self]

theorem gone_connection_ne (hne : c ≠ (s.session id).connection) :
    (s.sessionGone id).connection c = s.connection c := by
  unfold Server.sessionGone Server.sessionRemove Server.sessionDestroy
  rw [see_connection, modifySession_connection, s.modifyConnection_ne _ hne]

theorem gone_tables (h : Tables s) (hl : s.live id) : Tables (s.sessionGone id) := by
  have hid := live_iff.1 hl
  have hlk := h.lookup hl
  have hl' : ∀ other, (s.sessionGone id).live other ↔ s.live other ∧ other ≠ id := by
    intro other
    rw [live_iff, live_iff]
    rcases eq_or_ne other id with rfl | hne
    · rw [gone_session]
      simp
    · rw [gone_session_ne hne]
      exact (and_iff_left hne).symm
  have hg : ∀ event, event ≠ .sessionDestroyed id → (s.sessionGone id).log.count event = s.log.count event :=
    fun event hne => count_see_of_ne hne.symm
  refine ⟨fun c key other => ?_, fun other => ?_, fun other => ?_, fun hm => ?_⟩
  · rw [hl']
    rcases eq_or_ne other id with rfl | ho
    · refine iff_of_false (fun ht => ?_) fun ht => ht.1.2 rfl
      rcases eq_or_ne c (s.session other).connection with rfl | hc
      · rw [gone_table] at ht
        obtain ⟨-, -, rfl⟩ := (h.table _ _ _).1 (lookup_of_lookup_erase ht)
        rw [AList.lookup_erase] at ht
        cases ht
      · rw [gone_connection_ne hc] at ht
        exact hc ((h.table _ _ _).1 ht).2.1.symm
    · rw [gone_session_ne ho, and_iff_left ho]
      rcases eq_or_ne c (s.session id).connection with rfl | hc
      · rw [gone_table]
        rcases eq_or_ne key (s.session id).id with rfl | hk
        · rw [AList.lookup_erase]
          refine iff_of_false (fun heq => by cases heq) fun ht => ho ?_
          exact Option.some.inj (((h.table _ _ _).2 ht).symm.trans hlk)
        · rw [AList.lookup_erase_ne hk]
          exact h.table _ _ _
      · rw [gone_connection_ne hc]
        exact h.table _ _ _
  · rw [hg _ (fun heq => by cases heq), h.terminated other]
    rcases eq_or_ne other id with rfl | hne
    · rw [gone_session]
    · rw [gone_session_ne hne]
  · rcases eq_or_ne other id with rfl | hne
    · have hn : (s.sessionGone other).log.count (.sessionDestroyed other) =
          s.log.count (.sessionDestroyed other) + 1 := count_see_self _ _
      rw [hn, gone_session, h.sessionDestroyed other, hid.2]
      rfl
    · rw [hg _ fun heq => hne (ServerEvent.sessionDestroyed.inj heq), gone_session_ne hne]
      exact h.sessionDestroyed other
  · rcases mem_append.1 hm with hm | hm
    · exact h.fault hm
    · cases mem_singleton.1 hm

theorem sessionEnd_tabled (h : Tabled s) (hl : s.live id)
    (hc : (s.session id).connection < s.connectionCount) : Tabled (s.sessionEnd id) := by
  have hd : ∀ c, (s.sessionGone id).log.count (.connectionDestroyed c) = (s.over c).toNat := by
    intro c
    have hn : (s.sessionGone id).log.count (.connectionDestroyed c) = s.log.count (.connectionDestroyed c) :=
      count_see_of_ne fun heq => by cases heq
    rw [hn]
    exact h.connectionDestroyed c
  refine (gone_tables h.toTables hl).release hc ?_ fun other hne => ?_
  · have ho : s.over (s.session id).connection = false := by
      simp [Server.over, entries_length_ne_zero (h.lookup hl)]
    rw [hd, ho]
    rfl
  · have ho : (s.sessionGone id).over other = s.over other := by
      unfold Server.over
      rw [gone_connection_ne hne]
      rfl
    rw [hd, ho]

theorem Tables.modifyConnection (h : Tables s) {f : ServerConnection → ServerConnection}
    (hf : (f (s.connection c)).sessionTable = (s.connection c).sessionTable) : Tables (s.modifyConnection c f) := by
  refine ⟨fun other key id => ?_, h.terminated, h.sessionDestroyed, h.fault⟩
  rcases eq_or_ne other c with rfl | hne
  · rw [modifyConnection_self, hf]
    exact h.table other key id
  · rw [s.modifyConnection_ne f hne]
    exact h.table other key id

theorem timerSet_tabled (h : Tabled s) (c : Nat) : Tabled (s.timerSet A c) := by
  refine ⟨h.toTables.modifyConnection rfl, fun other => ?_⟩
  have ho : (s.timerSet A c).over other = s.over other := by
    unfold Server.over Server.timerSet
    rcases eq_or_ne other c with rfl | hne
    · rw [modifyConnection_self]
      rfl
    · rw [s.modifyConnection_ne _ hne]
      rfl
  rw [ho]
  exact h.connectionDestroyed other

theorem connectionClose_tabled (hw : Wired s) (h : Tabled s) {order : List Nat}
    (hor : order.Perm (s.sessionsOf c)) : Tabled (s.connectionClose c order) := by
  cases hs : (s.connection c).sock with
  | false =>
    unfold Server.connectionClose
    rw [hs]
    exact h
  | true =>
    have hc := hw.lt_of_sock hs
    have hl : (s.closed c).connection c = { s.connection c with sock := false, inactivityTimer := false } :=
      s.modifyConnection_self c ({ · with sock := false, inactivityTimer := false })
    have hr : Tabled ((s.closed c).connectionRelease c) := by
      refine (h.toTables.modifyConnection rfl).release hc ?_ fun other hne => ?_
      · have ho : s.over c = false := by simp [Server.over, hs]
        exact (h.connectionDestroyed c).trans (by rw [ho]; rfl)
      · have ho : (s.closed c).over other = s.over other := by
          unfold Server.over Server.closed
          rw [s.modifyConnection_ne _ hne]
          rfl
        exact (h.connectionDestroyed other).trans (by rw [← ho]; rfl)
    rw [connectionClose_cases hs]
    unfold Server.connectionRelease at hr
    rw [hl] at hr
    split_ifs with hn
    · rw [if_neg fun heq => hn heq.2] at hr
      refine hr.steady (foldl_sessionClose_steady fun id hm => ?_) fun id hm => ?_
      · exact (hw.mem_sessionsOf (hor.mem_iff.1 hm)).1
      · obtain ⟨-, -, hk⟩ := hw.mem_sessionsOf (hor.mem_iff.1 hm)
        exact (live_iff.1 ((h.table _ _ _).1 hk).1).2
    · rwa [if_pos ⟨rfl, not_not.1 hn⟩] at hr

/-! ## What begins -/

theorem connectionAccept_tabled (hw : Wired s) (h : Tabled s) (clientIp : Bytes) :
    Tabled (s.connectionAccept A clientIp) := by
  have ho : s.connection s.connectionCount = {} := hw.unopened _ (Nat.le_refl _)
  refine ⟨⟨fun c key id => ?_, h.terminated, h.sessionDestroyed, h.fault⟩, fun c => ?_⟩
  · rcases eq_or_ne c s.connectionCount with rfl | hne
    · rw [accepted_connection]
      have hn := h.table s.connectionCount key id
      rw [ho] at hn
      exact hn
    · rw [accepted_connection_ne clientIp hne]
      exact h.table c key id
  · have hv : (s.connectionAccept A clientIp).over c = s.over c := by
      unfold Server.over
      rcases eq_or_ne c s.connectionCount with rfl | hne
      · rw [accepted_connection, ho]
        simp
      · rw [accepted_connection_ne clientIp hne]
        have hc : (s.connectionAccept A clientIp).connectionCount = s.connectionCount + 1 := rfl
        have hlt : c < s.connectionCount + 1 ↔ c < s.connectionCount := by omega
        rw [hc, decide_eq_decide.2 hlt]
    rw [hv]
    exact h.connectionDestroyed c

theorem created_tabled (hw : Wired s) (h : Tabled s) (hs : (s.connection c).sock) {sessionId : Bytes}
    (hnw : (s.connection c).sessionTable.lookup sessionId = none) : Tabled (s.created c sessionId) := by
  have hl : s.session s.sessionCount = {} := hw.fresh _ (Nat.le_refl _)
  have hv : ∀ id, (s.created c sessionId).live id ↔ s.live id ∨ id = s.sessionCount := by
    intro id
    have hc : (s.created c sessionId).sessionCount = s.sessionCount + 1 := rfl
    rw [live_iff, live_iff, hc]
    rcases eq_or_ne id s.sessionCount with rfl | hne
    · rw [created_session]
      simp
    · rw [created_session_ne sessionId hne, or_iff_left hne]
      exact and_congr_left fun _ => by omega
  have hnt : s.live s.sessionCount = false := by simp [Server.live]
  refine ⟨⟨fun other key id => ?_, fun id => ?_, fun id => ?_, h.fault⟩, fun other => ?_⟩
  · rw [hv]
    rcases eq_or_ne id s.sessionCount with rfl | hid
    · have hn : (s.connection other).sessionTable.lookup key ≠ some s.sessionCount := fun hlk =>
        absurd (hw.listed _ _ _ hlk).1 (Nat.lt_irrefl _)
      rw [created_session]
      rcases eq_or_ne other c with rfl | ho
      · rw [created_table]
        rcases eq_or_ne key sessionId with rfl | hk
        · rw [AList.lookup_insert]
          exact iff_of_true rfl ⟨Or.inr rfl, rfl, rfl⟩
        · rw [AList.lookup_insert_ne hk]
          exact iff_of_false hn fun ht => hk ht.2.2.symm
      · rw [created_connection_ne sessionId ho]
        exact iff_of_false hn fun ht => ho ht.2.1.symm
    · rw [created_session_ne sessionId hid, or_iff_left hid, ← h.table]
      rcases eq_or_ne other c with rfl | ho
      · rw [created_table]
        rcases eq_or_ne key sessionId with rfl | hk
        · rw [AList.lookup_insert, hnw]
          exact iff_of_false (fun heq => hid (Option.some.inj heq).symm) fun heq => by cases heq
        · rw [AList.lookup_insert_ne hk]
      · rw [created_connection_ne sessionId ho]
  · rcases eq_or_ne id s.sessionCount with rfl | hid
    · rw [created_session]
      exact (h.terminated s.sessionCount).trans (by rw [hl])
    · rw [created_session_ne sessionId hid]
      exact h.terminated id
  · rcases eq_or_ne id s.sessionCount with rfl | hid
    · rw [created_session]
      exact (h.sessionDestroyed s.sessionCount).trans (by rw [hl])
    · rw [created_session_ne sessionId hid]
      exact h.sessionDestroyed id
  · have hov : (s.created c sessionId).over other = s.over other := by
      rcases eq_or_ne other c with rfl | ho
      · have hp : ((s.created other sessionId).connection other).sock := by
          unfold Server.created Server.setupProcess
          rw [modifyConnection_self]
          exact hs
        simp [Server.over, hp, hs]
      · unfold Server.over
        rw [created_connection_ne sessionId ho]
        rfl
    rw [hov]
    exact h.connectionDestroyed other

variable {accepted : Bool}

variable {created : Option Bytes}

theorem newRequestProcess_tabled (hw : Wired s) (h : Tabled s) (hsc : (s.connection c).sock)
    (request : Received)
    (hn : ∀ sessionId, created = some sessionId → (s.connection c).sessionTable.lookup sessionId = none)
    (hc : request.methodId = methodSetup ∨ request.methodId = methodDescribe → s.online →
      created.isSome → accepted) : Tabled (s.newRequestProcess A c request created accepted) := by
  have he : ∀ status, Tabled (s.errorRespond A c request status) := fun status =>
    h.steady (p := True) (messageSend_steady _ _ _) trivial
  unfold Server.newRequestProcess
  split_ifs with hm ho
  · cases created with
    | none => exact he _
    | some sessionId =>
      obtain rfl := hc hm ho rfl
      rw [setupProcess_some]
      have hr := created_tabled hw h hsc (hn sessionId rfl)
      have hlt : s.sessionCount < (s.created c sessionId).sessionCount := Nat.lt_succ_self _
      have ht : request.methodId ≠ methodTeardown := by
        rcases hm with heq | heq <;> rw [heq] <;> decide
      have ha : Steady (request.named) (s.created c sessionId)
        ((s.created c sessionId).activate s.sessionCount request) := activate_steady hlt request
      have hs := ha.trans
        (messageHandle_steady (A := A) (ha.sessionCount.symm ▸ hlt) request true)
      have hh : (((s.created c sessionId).activate s.sessionCount request).messageHandle A s.sessionCount request
          true).2 = true := by
        unfold Server.messageHandle Server.handleMessage
        simp [ht]
      dsimp only
      generalize ((s.created c sessionId).activate s.sessionCount request).messageHandle A s.sessionCount request
        true = r at hs hh
      obtain ⟨t, handled⟩ := r
      obtain rfl : handled = true := hh
      exact hr.steady hs (by simp [named, ht])
  · exact he _
  · exact he _
  · exact he _

theorem arrive_steady (c : Nat) (message : RtspMessage) : Steady p s (s.arrive c message) :=
  have hs : Steady p s (s.see (.received c ⟨s.received, message⟩)) := see_steady rfl
  ⟨rfl, rfl, rfl, rfl, hs.session, hs.fresh, hs.terminated, hs.sessionDestroyed, hs.connectionDestroyed,
    hs.fault⟩

theorem messageHandler_tabled (hw : Wired s) (h : Tabled s) {message : RtspMessage}
    (he : s.enabled (.receive c message created accepted))
    (hd : s.orderly (.receive c message created accepted)) :
    Tabled (s.messageHandler A c message created accepted) := by
  obtain ⟨hsc, hn⟩ := Bool.and_eq_true_iff.1 he
  obtain ⟨hm, hf⟩ := Bool.and_eq_true_iff.1 hd
  have htm := timerSet_tabled (A := A) h c
  have hwt : Wired (s.timerSet A c) := hw.modifyConnection (hw.lt_of_sock hsc) fun _ _ h => h
  have hs : (s.timerSet A c).connection c =
      { s.connection c with inactivityTimer := A.inactivityTimeout != 0 } := s.modifyConnection_self c _
  obtain ⟨hl, hc, hid⟩ := destinationAssign_same (s.timerSet A c) c message
  unfold Server.messageHandler
  dsimp only
  generalize (s.timerSet A c).destinationAssign c message = assigned at hl hc hid
  rw [hl]
  split_ifs with hr
  · have ha : Steady True (s.timerSet A c) ((s.timerSet A c).arrive c assigned) := arrive_steady c assigned
    have ht := htm.steady ha trivial
    have hwr := hwt.steady ha
    have hh : headerPropertyCheck assigned.header .sessionId = headerPropertyCheck message.header .sessionId := by
      unfold headerPropertyCheck
      rw [hc]
    have hme : assigned.startLine.methodId = message.startLine.methodId := by rw [hl]
    unfold Server.requestProcess
    rw [hh, hid, ha.connection, hs]
    split_ifs with hss
    · have hof : s.sessionOf c message = (s.connection c).sessionTable.lookup message.header.sessionId := by
        unfold Server.sessionOf
        rw [hr, hss]
        rfl
      split
      · exact ht.steady (p := True) (messageSend_steady _ _ _) trivial
      · next id hk =>
        have hv := ((h.table _ _ _).1 hk).1
        refine ht.steady (sessionRequestProcess_steady (s := (s.timerSet A c).arrive c assigned)
          (live_iff.1 hv).1 _ accepted) ?_
        have hm : (s.session id).terminating ∨ (s.session id).activeRequest.isSome ∨
            named ⟨s.received, message⟩ = true := by
          simpa [Server.names, hof, hk, or_assoc] using hm
        have hna : named ⟨(s.timerSet A c).received, assigned⟩ = named ⟨s.received, message⟩ := by
          unfold named methodId resourceName
          rw [hl]
        rw [hna]
        exact ⟨(live_iff.1 hv).2, hm⟩
    · refine newRequestProcess_tabled hwr ht ?_ _ (fun sessionId heq => ?_) fun hmt ho hcre => ?_
      · rw [ha.connection, hs]
        exact hsc
      · rw [ha.connection, hs]
        rw [heq] at hn
        exact Option.isNone_iff_eq_none.1 hn
      · have hcr : s.creates message created := by
          have ho : s.online := ho
          have hmt : message.startLine.methodId = methodSetup ∨ message.startLine.methodId = methodDescribe :=
            hme ▸ hmt
          simp [Server.creates, hr, hss, hmt, ho, hcre]
        simpa [hcr] using hf
  · exact htm

theorem controlMessageSignal_tabled (h : Tabled s) (signal : Signal) : Tabled (s.controlMessageSignal signal) := by
  have hs : ∀ id, ((s.controlMessageSignal signal).session id).connection = (s.session id).connection ∧
      ((s.controlMessageSignal signal).session id).id = (s.session id).id ∧
      ((s.controlMessageSignal signal).session id).destroyed = (s.session id).destroyed ∧
      ((s.controlMessageSignal signal).session id).terminating = (s.session id).terminating := by
    intro id
    rcases eq_or_ne id signal.session with rfl | hne
    · have hl : (s.controlMessageSignal signal).session signal.session =
          (s.session signal.session).signalled signal := Function.update_self ..
      rw [hl]
      exact ServerSession.signalled_same _ _
    · have ho : (s.controlMessageSignal signal).session id = s.session id := Function.update_of_ne hne ..
      rw [ho]
      exact ⟨rfl, rfl, rfl, rfl⟩
  refine ⟨⟨fun c key id => ?_, fun id => ?_, fun id => ?_, h.fault⟩, h.connectionDestroyed⟩
  · have hv : (s.controlMessageSignal signal).live id = s.live id := by
      unfold Server.live
      rw [(hs id).2.2.1]
      rfl
    rw [hv, (hs id).1, (hs id).2.1]
    exact h.table c key id
  · rw [(hs id).2.2.2]
    exact h.terminated id
  · rw [(hs id).2.2.1]
    exact h.sessionDestroyed id

theorem Tabled.taken (h : Tabled s) (signals : List Signal) : Tabled (s.taken signals) :=
  ⟨⟨h.table, h.terminated, h.sessionDestroyed, h.fault⟩, h.connectionDestroyed⟩

/-- **The next task message is processed.** -/
theorem process_tabled (hw : Wired s) (h : Tabled s) (ho : s.orderly (.process accepted)) :
    Tabled (s.process A accepted) := by
  have hn := (Bool.and_eq_true_iff.1 ho).1
  unfold Server.process
  split
  · exact h
  · next signal signals hg =>
    have hm : signal ∈ s.signals := hg ▸ mem_cons_self
    have hl := hw.live signal hm
    obtain ⟨hid, hh⟩ := live_iff.1 hl
    have ht := h.taken signals
    have hh : ((s.taken signals).session signal.session).destroyed ≠ true := by
      show (s.session signal.session).destroyed ≠ true
      simp [hh]
    unfold Server.signalProcess
    rw [if_neg hh]
    cases signal with
    | send id message =>
      dsimp only
      split_ifs with hr
      · exact ht.steady (p := True) (eventProcess_steady message) trivial
      · refine ht.steady (responseProcess_steady (s := s.taken signals) hid message accepted) ?_
        show (s.session id).named message = true
        simpa [Server.names, hg, hr] using hn
    | terminate id =>
      have hs : Steady True (s.taken signals) ((s.taken signals).terminateRespond A id) := terminateRespond_steady
      refine sessionEnd_tabled (ht.steady hs trivial) ?_ ?_
      · rw [hs.live_eq]
        exact hl
      · rw [(hs.session id).1, hs.connectionCount]
        exact hw.located id hid
    | release id =>
      exact ht.steady (p := True) (terminateRequest_steady (s := s.taken signals) hid) trivial

/-! ## Runs -/

theorem step_tabled (hw : Wired s) (h : Tabled s) {input : ServerInput} (he : s.enabled input)
    (ho : s.orderly input) : Tabled (s.step A input).1 := by
  cases input with
  | accept clientIp => exact connectionAccept_tabled hw h clientIp
  | receive c message created accepted => exact messageHandler_tabled hw h he ho
  | disconnect c order => exact connectionClose_tabled hw h (isPerm_iff.1 (Bool.and_eq_true_iff.1 he).2)
  | inactivity c order => exact connectionClose_tabled hw h (isPerm_iff.1 (Bool.and_eq_true_iff.1 he).2)
  | signal signal => exact controlMessageSignal_tabled h signal
  | process accepted => exact process_tabled hw h ho
  | offline => exact ⟨⟨h.table, h.terminated, h.sessionDestroyed, h.fault⟩, h.connectionDestroyed⟩
  | online => exact ⟨⟨h.table, h.terminated, h.sessionDestroyed, h.fault⟩, h.connectionDestroyed⟩

theorem tabled_start : Tabled {} where
  table c key id := by
    refine iff_of_false (fun hl => by cases hl) fun ht => ?_
    exact absurd (live_iff.1 ht.1).1 (Nat.not_lt_zero _)
  terminated _ := rfl
  sessionDestroyed _ := rfl
  fault := not_mem_nil
  connectionDestroyed _ := rfl

/-- **The session tables.** In every run whose steps are orderly, the tables have just the sessions that are there,
sessions are terminated and destroyed at most once, and a connection once when it is over. -/
theorem server_tabled (A : ServerProfile) (inputs : List ServerInput)
    (h : EachStep (Server.step A) (fun s input => s.enabled input = true ∧ s.orderly input) {} inputs) :
    Tabled (run (Server.step A) {} inputs).1 := by
  have hboth : Wired (run (Server.step A) {} inputs).1 ∧ Tabled (run (Server.step A) {} inputs).1 := by
    refine run_invariant (fun s => Wired s ∧ Tabled s) _ (fun s input hs hstep => ?_) _ _ ⟨wired_start, tabled_start⟩ h
    exact ⟨step_wired hs.1 hstep.1, step_tabled hs.1 hs.2 hstep.1 hstep.2⟩
  exact hboth.2

def setupMessage : RtspMessage :=
  { startLine := .request (ascii "SETUP") methodSetup (ascii "rtsp://host/synth") (some (ascii "synth")) .v1
    header := headerInit .none
    body := {} }

def setupResponse : RtspMessage := { setupMessage with startLine := .response .v1 Status.ok.code (ascii "OK") }

def wholeSession : List ServerInput :=
  [.accept (ascii "10.0.0.1"), .receive 0 setupMessage (some (ascii "a1")) true, .signal (.send 0 setupResponse),
    .process true, .signal (.release 0), .process true, .signal (.terminate 0), .process true, .disconnect 0 []]

theorem tabled_wholeSession : Tabled (run (Server.step {}) {} wholeSession).1 :=
  server_tabled {} wholeSession (by decide)

def refusedSession : List ServerInput :=
  [.accept (ascii "10.0.0.1"), .receive 0 setupMessage (some (ascii "a1")) false]

/-- **A session that is refused stays in the table** when it is destroyed. -/
theorem not_tabled_refused :
    EachStep (Server.step {}) (fun s input => s.enabled input = true) {} refusedSession ∧
      ¬ Tabled (run (Server.step {}) {} refusedSession).1 := by
  refine ⟨by decide, fun h => ?_⟩
  have hlook : ((run (Server.step {}) {} refusedSession).1.connection 0).sessionTable.lookup (ascii "a1") =
      some 0 := by
    decide
  exact absurd ((h.table 0 (ascii "a1") 0).1 hlook).1 (by decide)

end UniMrcp.UniRtsp
