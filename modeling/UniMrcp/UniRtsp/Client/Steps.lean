import UniMrcp.UniRtsp.Client.Lines

/-!
# The steps of the client

What the client does for a session keeps its line coherent, and leaves the others as they are.
-/

namespace UniMrcp.UniRtsp

open Apt Lib List Function Client RtspMessage ClientEvent

variable {A : ClientProfile} {s t u : Client} {id c : Nat} {hand : List ClientRequest} {left : List Bytes}
  {signalled : List Nat}

/-! ## Requests -/

structure Alike (session former : ClientSession) : Prop where
  activeRequest : session.activeRequest = former.activeRequest
  pendingRequestQueue : session.pendingRequestQueue = former.pendingRequestQueue
  termState : session.termState = former.termState
  closing : session.closing = former.closing
  destroyed : session.destroyed = former.destroyed
  connection : ∀ c, former.connection = some c → session.connection = some c

variable (session : ClientSession)

theorem alike_refl : Alike session session := ⟨rfl, rfl, rfl, rfl, rfl, fun _ h => h⟩

theorem Alike.trans {session former first : ClientSession} (h : Alike session former) (h' : Alike former first) :
    Alike session first :=
  ⟨h.activeRequest.trans h'.activeRequest, h.pendingRequestQueue.trans h'.pendingRequestQueue,
    h.termState.trans h'.termState, h.closing.trans h'.closing, h.destroyed.trans h'.destroyed,
    fun c hc => h.connection c (h'.connection c hc)⟩

theorem RtspLine.setUrl_same (line : RtspLine) (url : Bytes) : (line.setUrl url).methodId = line.methodId ∧
    (line.setUrl url).resourceName = line.resourceName ∧ (line.setUrl url).isRequest = line.isRequest := by
  cases line <;> exact ⟨rfl, rfl, rfl⟩

variable (cseq : UInt64)

theorem prepare_like (request : ClientRequest) : (session.prepare cseq request).Like request := by
  obtain ⟨hm, hn, hr⟩ :=
    request.message.startLine.setUrl_same (session.urlGenerate request.resourceName)
  have hl : (session.prepare cseq request).message.startLine =
      request.message.startLine.setUrl (session.urlGenerate request.resourceName) := by
    unfold ClientSession.prepare setCseq
    split_ifs <;> rfl
  have h : (session.prepare cseq request).message.header.headerSection.arr.length =
      request.message.header.headerSection.arr.length := by
    unfold ClientSession.prepare setCseq
    rw [headerPropertyAdd_length]
    split_ifs
    · unfold setSession
      rw [headerPropertyAdd_length]
    · rfl
  refine ⟨rfl, ?_, ?_, ?_⟩
  · unfold ClientRequest.methodId
    rw [hl, hm]
  · rw [hl, hn]
  · unfold proper
    rw [hl, hn, hr, h]

theorem RtspMessage.proper_iff {message : RtspMessage} : message.proper ↔
    message.startLine.isRequest ∧ message.startLine.resourceName.isSome ∧
      message.header.headerSection.arr.length = rtspHeaderFieldCount := by
  simp [proper, and_assoc]

variable {request : ClientRequest}

theorem prepare_cseq (h : request.message.proper) :
    headerPropertyCheck (session.prepare cseq request).message.header .cseq = true := by
  have hl := (proper_iff.1 h).2.2
  unfold ClientSession.prepare setCseq
  refine headerPropertyCheck_self _ ?_
  show 0 < _
  split_ifs
  · unfold setSession
    rw [headerPropertyAdd_length]
    show 0 < request.message.header.headerSection.arr.length
    rw [hl]
    decide
  · show 0 < request.message.header.headerSection.arr.length
    rw [hl]
    decide

theorem touch_eq (h : (s.connection c).destroyed = false) : s.touch c = s := by
  unfold Client.touch
  rw [h]
  rfl

theorem connectionEnsure_coherent (h : Coherent id hand left signalled (s.line id))
    (hh : (s.session id).destroyed = false) :
    Acts id s (s.connectionEnsure A id).1 ∧ Coherent id hand left signalled ((s.connectionEnsure A id).1.line id) ∧
      Alike ((s.connectionEnsure A id).1.session id) (s.session id) ∧
      (s.connectionEnsure A id).1.seen id = s.seen id ∧
      ∀ c, (s.connectionEnsure A id).2 = some c → c = id ∧
        ((s.connectionEnsure A id).1.session id).connection = some id := by
  unfold Client.connectionEnsure
  cases hn : (s.session id).connection with
  | some c =>
    refine ⟨acts_refl id s, h, alike_refl _, rfl, ?_⟩
    rintro c' heq
    obtain rfl := h.owned c hn
    exact ⟨(Option.some.inj heq).symm, hn⟩
  | none =>
    unfold Client.connectionCreate
    split_ifs with hco
    · dsimp only
      have hl : (((({ s with connects := s.connects + 1 }.modifyConnection id fun _ =>
          { sock := true }).modifySession id ({ · with connection := some id })).modifyConnection id
            ({ · with handleTable := [id] })).line id) =
            ((s.line id).modifyConnection fun _ => { sock := true, handleTable := [id] }).modifySession
              ({ · with connection := some id }) := by
        rw [line_modifyConnection, line_modifySession, line_modifyConnection]
        rfl
      have hs := congrArg ClientLine.session hl
      refine ⟨?_, ?_, ?_, congrArg ClientLine.seen hl, ?_⟩
      · have ht : Acts id s { s with connects := s.connects + 1 } := ⟨fun _ _ => rfl, rfl, rfl, rfl, rfl⟩
        exact ht.trans ((acts_modifyConnection _ id _).trans ((acts_modifySession _ id _).trans
          (acts_modifyConnection _ id _)))
      · rw [hl]
        exact h.connect hn hh
      · rw [line_session] at hs
        rw [hs]
        exact ⟨rfl, rfl, rfl, rfl, rfl, fun c hc => (by cases hn.symm.trans hc)⟩
      · rintro c heq
        rw [line_session] at hs
        rw [hs]
        exact ⟨(Option.some.inj heq).symm, rfl⟩
    · refine ⟨⟨fun _ _ => rfl, rfl, rfl, rfl, rfl⟩, h, alike_refl _, rfl, ?_⟩
      rintro c heq
      cases heq

theorem messageSend_cases (s : Client) (id : Nat) (message : RtspMessage)
    (ht : (s.connection id).destroyed = false) : Acts id s (s.messageSend A id message).1 ∧
      (((s.messageSend A id message).1.line id = (s.line id).see (.sent id message) ∧
          (s.messageSend A id message).2 = true) ∨
        ((s.messageSend A id message).1.line id = s.line id ∧ (s.messageSend A id message).2 = false)) := by
  unfold Client.messageSend
  rw [touch_eq ht]
  dsimp only
  have hc : Acts id s { s with sends := s.sends + 1 } := ⟨fun _ _ => rfl, rfl, rfl, rfl, rfl⟩
  split_ifs
  · have hs : (ClientEvent.sent id message).about = id := rfl
    exact ⟨hc.trans (acts_see _ hs rfl), Or.inl ⟨line_see { s with sends := s.sends + 1 } hs, rfl⟩⟩
  · exact ⟨hc, Or.inr ⟨rfl, rfl⟩⟩
  · exact ⟨acts_refl id s, Or.inr ⟨rfl, rfl⟩⟩

theorem requestPush_line (s : Client) (id : Nat) (request : ClientRequest) :
    (s.requestPush A id id request).line id = (((s.line id).modifyConnection fun connection =>
        { connection with inprogressRequestQueue := connection.inprogressRequestQueue ++ [id] }).modifySession
      fun session =>
        { session with
          activeRequest := some request
          requestTimer := (s.session id).requestTimer || A.requestTimeout != 0 }).see (.pushed id request) := by
  have hp : (pushed id request).about = id := rfl
  unfold Client.requestPush
  rw [line_see _ hp, line_modifySession, line_modifyConnection]
  rfl

theorem requestPush_acts (s : Client) (id : Nat) (request : ClientRequest) :
    Acts id s (s.requestPush A id id request) := by
  have hp : (pushed id request).about = id := rfl
  exact (acts_modifyConnection s id _).trans ((acts_modifySession _ id _).trans (acts_see _ hp rfl))

theorem Coherent.open (h : Coherent id hand left signalled (s.line id)) (ht : (s.session id).destroyed = false) :
    (s.connection id).destroyed = false := by
  have hc := h.destroyed
  rw [line_session, ht, Bool.false_and] at hc
  exact hc

theorem requestSend_coherent (h : Coherent id (request :: hand) left signalled (s.line id))
    (hn : (s.session id).activeRequest = none) (hm : (s.session id).connection = some id)
    (ht : (s.session id).destroyed = false)
    (hsn : (s.session id).closing = false → (s.line id).pushed.Sublist (s.line id).answered)
    (hq : headerPropertyCheck request.message.header .cseq) :
    Acts id s (s.messageSend A id request.message).1 ∧
      ((s.messageSend A id request.message).2 ∧
          Coherent id hand left signalled
            (((s.messageSend A id request.message).1.requestPush A id id request).line id) ∧
          Alike (((s.messageSend A id request.message).1.requestPush A id id request).session id)
            { s.session id with activeRequest := some request } ∨
        (s.messageSend A id request.message).2 = false ∧
          Coherent id (request :: hand) left signalled ((s.messageSend A id request.message).1.line id) ∧
          Alike ((s.messageSend A id request.message).1.session id) (s.session id)) := by
  obtain ⟨ha, hc⟩ := messageSend_cases (A := A) s id request.message (h.open ht)
  refine ⟨ha, ?_⟩
  generalize s.messageSend A id request.message = r at hc
  rcases hc with ⟨hl, ho⟩ | ⟨hl, ho⟩
  · have hs : r.1.session id = s.session id := congrArg ClientLine.session hl
    have hp := requestPush_line (A := A) r.1 id request
    refine Or.inl ⟨ho, ?_, ?_⟩
    · rw [hp, hl]
      refine (h.see rfl rfl).push hn hm (fun hop => ?_) hq _
      have hb := hsn hop
      rw [ClientLine.pushed_see, ClientLine.answered_see]
      exact (append_nil _).symm ▸ (append_nil _).symm ▸ hb
    · rw [← line_session, hp, hl]
      exact ⟨rfl, rfl, rfl, rfl, rfl, fun _ h => h⟩
  · have hs : r.1.session id = s.session id := congrArg ClientLine.session hl
    refine Or.inr ⟨ho, ?_, ?_⟩
    · rw [hl]
      exact h
    · rw [hs]
      exact alike_refl _

theorem requestProcess_coherent (h : Coherent id (request :: hand) left signalled (s.line id))
    (hn : (s.session id).activeRequest = none) (ht : (s.session id).destroyed = false)
    (hse : (s.session id).closing = false → (s.line id).pushed.Sublist (s.line id).answered) :
    Acts id s (s.requestProcess A id request).1 ∧
      ((s.requestProcess A id request).2.2 ∧
          Coherent id hand left signalled ((s.requestProcess A id request).1.line id) ∧
          Alike ((s.requestProcess A id request).1.session id)
            { s.session id with activeRequest := some (s.requestProcess A id request).2.1 } ∨
        (s.requestProcess A id request).2.2 = false ∧
          Coherent id ((s.requestProcess A id request).2.1 :: hand) left signalled
            ((s.requestProcess A id request).1.line id) ∧
          (s.requestProcess A id request).2.1.Like request ∧
          Alike ((s.requestProcess A id request).1.session id) (s.session id)) := by
  obtain ⟨hc, hs, ha, hsee, hid⟩ := connectionEnsure_coherent (A := A) h ht
  unfold Client.requestProcess
  generalize s.connectionEnsure A id = r at hc hs ha hsee hid
  obtain ⟨t, _ | c⟩ := r
  · exact ⟨hc, Or.inr ⟨rfl, hs, ⟨rfl, rfl, rfl, rfl⟩, ha⟩⟩
  · obtain ⟨rfl, hm⟩ := hid c rfl
    dsimp only at hc hs ha hsee hm ⊢
    have ht' : (t.session c).destroyed = false := ha.destroyed.trans ht
    rw [touch_eq (hs.open ht')]
    have hp : request.message.proper :=
      h.proper request (mem_requests.2 (Or.inr (Or.inl mem_cons_self)))
    have hk := prepare_like (t.session c) ((t.connection c).lastCseq + 1) request
    have hq := prepare_cseq (t.session c) ((t.connection c).lastCseq + 1) hp
    generalize (t.session c).prepare ((t.connection c).lastCseq + 1) request = request' at hk hq
    have hst := (hs.lastCseq hm ((t.connection c).lastCseq + 1)).like hk
    rw [← line_modifyConnection] at hst
    have hse' : (t.session c).closing = false → (t.line c).pushed.Sublist (t.line c).answered := by
      intro ho
      have hb := hse (ha.closing.symm.trans ho)
      unfold ClientLine.pushed ClientLine.answered at hb ⊢
      rw [line_seen, hsee]
      exact hb
    obtain ⟨hc', hcs⟩ := requestSend_coherent (A := A) hst (ha.activeRequest.trans hn) hm ht'
      hse' hq
    have hl := hc.trans ((acts_modifyConnection t c _).trans hc')
    generalize Client.messageSend A _ c request'.message = r at hcs hl
    obtain ⟨v, sent⟩ := r
    rcases hcs with ⟨rfl, hs', ha'⟩ | ⟨rfl, hs', ha'⟩
    · refine ⟨hl.trans (requestPush_acts v c request'), Or.inl ⟨rfl, hs', ?_⟩⟩
      exact ha'.trans ⟨rfl, ha.pendingRequestQueue, ha.termState, ha.closing, ha.destroyed,
        ha.connection⟩
    · exact ⟨hl, Or.inr ⟨rfl, hs', hk, ha'.trans ha⟩⟩

/-! ## Responses -/

structure TablesAfter (id : Nat) (l : ClientLine) (request : ClientRequest) (sessionId : Bytes)
    (resourceTable : AList fun _ : Bytes => ClientRequest) (sessionTable : AList fun _ : Bytes => Nat) : Prop where
  fresh : l.session.connection = none → sessionTable = l.connection.sessionTable ∧ resourceTable.entries = []
  table : sessionTable.entries = [] ∨ sessionTable.entries = [⟨sessionId, id⟩] ∧ resourceTable.entries ≠ []
  named : ∀ name request, resourceTable.lookup name = some request →
    request.message.startLine.resourceName = some name
  keys : l.session.termState = .inProgress → ∀ name, name ∈ resourceTable.keys ↔
    name ≠ request.resourceName ∧ name ∈ l.session.resourceTable.keys

theorem resourceName_eq (h : request.message.proper) :
    request.message.startLine.resourceName = some request.resourceName := by
  have hs := (proper_iff.1 h).2.1
  unfold ClientRequest.resourceName
  cases hn : request.message.startLine.resourceName with
  | none =>
    rw [hn] at hs
    cases hs
  | some name => rfl

variable {response : RtspMessage}

/-- **A resource is added.** -/
theorem resourceAdd_line (h : Coherent id (request :: hand) left signalled (s.line id))
    (hm : (s.session id).connection = some id) (hse : request.methodId = methodSetup) :
    ∃ sessionId resourceTable sessionTable, Acts id s (s.resourceAdd id request response) ∧
      (s.resourceAdd id request response).line id =
        ⟨{ s.session id with id := sessionId, resourceTable := resourceTable },
          { s.connection id with sessionTable := sessionTable }, s.seen id⟩ ∧
      TablesAfter id (s.line id) request sessionId resourceTable sessionTable := by
  have hsl : request ∈ (s.line id).requests (request :: hand) :=
    mem_requests.2 (Or.inr (Or.inl mem_cons_self))
  have hna := resourceName_eq (h.proper request hsl)
  have hs : (s.line id).session.termState ≠ .inProgress := by
    intro hs
    have hr := h.teardown hs request hsl
    rw [hse] at hr
    cases hr
  have hnm : ∀ name other, ((s.session id).resourceTable.insert request.resourceName request).lookup name =
      some other → other.message.startLine.resourceName = some name := by
    intro name other hl
    rcases eq_or_ne name request.resourceName with rfl | hne
    · rw [AList.lookup_insert] at hl
      rw [← Option.some.inj hl, hna]
    · rw [AList.lookup_insert_ne hne] at hl
      exact h.named name other hl
  have he : ((s.session id).resourceTable.insert request.resourceName request).entries ≠ [] :=
    cons_ne_nil _ _
  unfold Client.resourceAdd
  split_ifs with hf
  · unfold Client.sessionAdd
    have hc : ((s.modifySession id ({ · with id := response.header.sessionId })).session id).connection =
        some id := by
      rw [← line_session, line_modifySession]
      exact hm
    dsimp only
    rw [hc]
    refine ⟨response.header.sessionId, _, (s.connection id).sessionTable.insert response.header.sessionId id, ?_, ?_,
      ⟨fun hn => (by cases hm.symm.trans hn), Or.inr ⟨?_, he⟩, hnm, fun heq => absurd heq hs⟩⟩
    · exact (acts_modifySession s id _).trans ((acts_modifyConnection _ id _).trans (acts_modifySession _ id _))
    · rw [line_modifySession, line_modifyConnection, line_modifySession]
      rfl
    · have hem : (s.connection id).sessionTable.entries = [] := by
        refine h.table.resolve_right fun ht => ht.2 ?_
        exact length_eq_zero_iff.1 hf.1
      show List.kinsert response.header.sessionId id (s.connection id).sessionTable.entries = _
      rw [hem]
      rfl
  · refine ⟨(s.session id).id, _, (s.connection id).sessionTable, acts_modifySession s id _,
      line_modifySession s id _, ⟨fun hn => (by cases hm.symm.trans hn), ?_, hnm,
        fun heq => absurd heq hs⟩⟩
    exact h.table.imp_right fun ht => ⟨ht.1, he⟩

/-- **A resource is removed.** -/
theorem resourceRemove_line (h : Coherent id (request :: hand) left signalled (s.line id)) :
    ∃ sessionId resourceTable sessionTable, Acts id s (s.resourceRemove id request) ∧
      (s.resourceRemove id request).line id =
        ⟨{ s.session id with id := sessionId, resourceTable := resourceTable },
          { s.connection id with sessionTable := sessionTable }, s.seen id⟩ ∧
      TablesAfter id (s.line id) request sessionId resourceTable sessionTable := by
  have hm : ∀ name other, ((s.session id).resourceTable.erase request.resourceName).lookup name = some other →
      other.message.startLine.resourceName = some name := by
    intro name other hl
    rcases eq_or_ne name request.resourceName with rfl | hne
    · rw [AList.lookup_erase] at hl
      cases hl
    · rw [AList.lookup_erase_ne hne] at hl
      exact h.named name other hl
  have hk : ∀ name, name ∈ ((s.session id).resourceTable.erase request.resourceName).keys ↔
      name ≠ request.resourceName ∧ name ∈ (s.session id).resourceTable.keys := by
    intro name
    rw [← AList.mem_keys, AList.mem_erase, AList.mem_keys]
  have he : (s.session id).connection = none →
      ((s.session id).resourceTable.erase request.resourceName).entries = [] := by
    intro hn
    have hb : (s.session id).resourceTable.entries = [] := (h.fresh hn).2.2
    show List.kerase request.resourceName (s.session id).resourceTable.entries = []
    rw [hb]
    rfl
  have hs : (s.modifySession id fun session =>
      { session with resourceTable := session.resourceTable.erase request.resourceName }).session id =
      { s.session id with resourceTable := (s.session id).resourceTable.erase request.resourceName } :=
    update_self ..
  unfold Client.resourceRemove
  dsimp only
  split_ifs with hls
  · rw [hs] at hls
    unfold Client.sessionRemove
    rw [hs]
    split
    · next c hsm =>
      obtain rfl := h.owned c hsm
      refine ⟨(s.session c).id, _, (s.connection c).sessionTable.erase (s.session c).id,
        (acts_modifySession s c _).trans (acts_modifyConnection _ c _), ?_,
        ⟨fun hn => (by cases hsm.symm.trans hn), Or.inl ?_, hm, fun _ => hk⟩⟩
      · rw [line_modifyConnection, line_modifySession]
        rfl
      · show List.kerase (s.session c).id (s.connection c).sessionTable.entries = []
        rcases h.table with ht | ⟨ht, -⟩
        · rw [show (s.connection c).sessionTable.entries = [] from ht]
          rfl
        · rw [show (s.connection c).sessionTable.entries = [⟨(s.session c).id, c⟩] from ht]
          simp [List.kerase]
    · next hn =>
      refine ⟨(s.session id).id, _, (s.connection id).sessionTable, acts_modifySession s id _,
        line_modifySession s id _, ⟨fun _ => ⟨rfl, he hn⟩, Or.inl ?_, hm, fun _ => hk⟩⟩
      rw [show s.connection id = {} from (h.fresh hn).1]
      rfl
  · rw [hs] at hls
    refine ⟨(s.session id).id, _, (s.connection id).sessionTable, acts_modifySession s id _,
      line_modifySession s id _, ⟨fun hn => ⟨rfl, he hn⟩, ?_, hm, fun _ => hk⟩⟩
    exact h.table.imp_right fun ht => ⟨ht.1, fun heq => hls (length_eq_zero_iff.2 heq)⟩

/-- **A request in hand is responded to.** -/
theorem responseProcess_coherent (h : Coherent id (request :: hand) left signalled (s.line id))
    (hn : (s.session id).activeRequest = none) (hh : (s.session id).destroyed = false)
    (hse : response.startLine.statusCode = Status.ok.code → (s.session id).connection = some id)
    (hcr : headerPropertyCheck request.message.header .cseq →
      response.header.cseq = request.message.header.cseq) :
    Acts id s (s.responseProcess id request response) ∧
      Coherent id hand left signalled ((s.responseProcess id request response).line id) ∧
      Alike ((s.responseProcess id request response).session id) (s.session id) := by
  have hu : ∃ sessionId resourceTable sessionTable, Acts id s (s.resourcesUpdate id request response) ∧
      (s.resourcesUpdate id request response).line id =
        ⟨{ s.session id with id := sessionId, resourceTable := resourceTable },
          { s.connection id with sessionTable := sessionTable }, s.seen id⟩ ∧
      TablesAfter id (s.line id) request sessionId resourceTable sessionTable := by
    unfold Client.resourcesUpdate
    split_ifs with ha hm
    · exact resourceAdd_line h (hse ha.2) ha.1
    · exact resourceRemove_line h
    · refine ⟨_, _, _, acts_refl id s, rfl, ⟨fun hn => ⟨rfl, (h.fresh hn).2.2⟩, h.table, h.named, ?_⟩⟩
      intro hst
      have hsl : request ∈ (s.line id).requests (request :: hand) :=
        mem_requests.2 (Or.inr (Or.inl mem_cons_self))
      exact absurd (h.teardown hst request hsl) hm
  obtain ⟨sessionId, resourceTable, sessionTable, hc, hl, ht⟩ := hu
  have hs := h.respond hn sessionId resourceTable sessionTable ht.fresh ht.table
    (fun hg => absurd (hh.symm.trans hg) Bool.false_ne_true) ht.named ht.keys hcr
  have hr : (responded id request response).about = id := rfl
  have hst : ((s.resourcesUpdate id request response).session id).termState = (s.session id).termState := by
    rw [← line_session, hl]
  unfold Client.responseProcess
  dsimp only
  rw [hst]
  by_cases he : (s.line id).session.termState ≠ .inProgress
  · rw [if_pos he] at hs
    rw [if_pos (show (s.session id).termState ≠ .inProgress from he)]
    refine ⟨hc.trans (acts_see _ hr rfl), ?_, ?_⟩
    · rw [line_see _ hr, hl]
      exact hs
    · show Alike ((s.resourcesUpdate id request response).session id) (s.session id)
      rw [← line_session, hl]
      exact ⟨rfl, rfl, rfl, rfl, rfl, fun _ h => h⟩
  · rw [if_neg he] at hs
    rw [if_neg (show ¬ (s.session id).termState ≠ .inProgress from he)]
    refine ⟨hc, ?_, ?_⟩
    · rw [hl]
      exact hs
    · rw [← line_session, hl]
      exact ⟨rfl, rfl, rfl, rfl, rfl, fun _ h => h⟩

theorem errorRespond_coherent (h : Coherent id (request :: hand) left signalled (s.line id))
    (hn : (s.session id).activeRequest = none) (ht : (s.session id).destroyed = false) :
    Acts id s (s.responseProcess id request (request.errorResponse A)) ∧
      Coherent id hand left signalled ((s.responseProcess id request (request.errorResponse A)).line id) ∧
      Alike ((s.responseProcess id request (request.errorResponse A)).session id) (s.session id) := by
  refine responseProcess_coherent h hn ht (fun ho => ?_) fun hc => ?_
  · unfold ClientRequest.errorResponse ClientRequest.responseCreate at ho
    rw [responseCreate_startLine] at ho
    cases ho
  · exact (responseCreate_cseq A.delivery _ _ _ hc).2

/-! ## Requests that wait -/

structure Level (session former : ClientSession) : Prop where
  termState : session.termState = former.termState
  closing : session.closing = former.closing
  destroyed : session.destroyed = former.destroyed
  connection : ∀ c, former.connection = some c → session.connection = some c

theorem level_refl : Level session session := ⟨rfl, rfl, rfl, fun _ h => h⟩

theorem Alike.level {session former : ClientSession} (h : Alike session former) : Level session former :=
  ⟨h.termState, h.closing, h.destroyed, h.connection⟩

theorem Level.trans {session former first : ClientSession} (h : Level session former) (h' : Level former first) :
    Level session first :=
  ⟨h.termState.trans h'.termState, h.closing.trans h'.closing, h.destroyed.trans h'.destroyed,
    fun c hc => h.connection c (h'.connection c hc)⟩

theorem Coherent.idle (h : Coherent id [] left signalled (s.line id)) (hn : (s.session id).activeRequest = none)
    (ho : (s.session id).closing = false) : (s.line id).pushed.Sublist (s.line id).answered := by
  have hs := h.sent ho
  rw [line_session, hn] at hs
  simpa [numbers] using hs

theorem pendingLoop_coherent (queue : List ClientRequest) : ∀ {s : Client}, Coherent id [] left signalled (s.line id) →
    (s.session id).activeRequest = none → (s.session id).destroyed = false →
    (s.session id).pendingRequestQueue = queue →
    Acts id s (Client.pendingLoop A id queue s).1 ∧
      Coherent id [] left signalled ((Client.pendingLoop A id queue s).1.line id) ∧
      Level ((Client.pendingLoop A id queue s).1.session id) (s.session id) ∧
      ((Client.pendingLoop A id queue s).2 ∧
          ((Client.pendingLoop A id queue s).1.session id).activeRequest.isSome = true ∨
        (Client.pendingLoop A id queue s).2 = false ∧
          ((Client.pendingLoop A id queue s).1.session id).activeRequest = none ∧
          ((Client.pendingLoop A id queue s).1.session id).pendingRequestQueue = []) := by
  induction queue with
  | nil =>
    intro s h hn _ hq
    exact ⟨acts_refl id s, h, level_refl _, Or.inr ⟨rfl, hn, hq⟩⟩
  | cons request queue ih =>
    intro s h hn ht hq
    have hx := h.next hn hq
    rw [← line_modifySession] at hx
    have hsl : (s.modifySession id ({ · with pendingRequestQueue := queue })).session id =
        { s.session id with pendingRequestQueue := queue } := update_self ..
    have hc := acts_modifySession s id ({ · with pendingRequestQueue := queue })
    have hi : ((s.modifySession id ({ · with pendingRequestQueue := queue })).session id).closing = false →
        ((s.modifySession id ({ · with pendingRequestQueue := queue })).line id).pushed.Sublist
          ((s.modifySession id ({ · with pendingRequestQueue := queue })).line id).answered := by
      rw [hsl]
      exact h.idle hn
    obtain ⟨hc', hcs⟩ := requestProcess_coherent (A := A) hx (by rw [hsl]; exact hn)
      (by rw [hsl]; exact ht) hi
    have hl := hc.trans hc'
    rw [hsl] at hcs
    rw [Client.pendingLoop]
    generalize (s.modifySession id ({ · with pendingRequestQueue := queue })).requestProcess A id request = r
      at hl hcs ⊢
    obtain ⟨t, request', sent⟩ := r
    rcases hcs with ⟨rfl, hs, ha⟩ | ⟨rfl, hs, -, ha⟩
    · refine ⟨hl, hs, ⟨ha.termState, ha.closing, ha.destroyed, ha.connection⟩, Or.inl ⟨rfl, ?_⟩⟩
      rw [ha.activeRequest]
      rfl
    · obtain ⟨hc'', hs', ha'⟩ := errorRespond_coherent (A := A) hs (ha.activeRequest.trans hn)
        (ha.destroyed.trans ht)
      have hh := ha'.trans ha
      obtain ⟨hc3, hs3, hv, hcs⟩ := ih hs' (hh.activeRequest.trans hn)
        (hh.destroyed.trans ht) hh.pendingRequestQueue
      exact ⟨(hl.trans hc'').trans hc3, hs3,
        hv.trans ⟨hh.termState, hh.closing, hh.destroyed, hh.connection⟩, hcs⟩

/-- **A request is processed, or waits.** -/
theorem messageProcess_coherent {left' : List Bytes}
    (h : Coherent id [] left (request.number.toList ++ signalled) (s.line id))
    (hh : (s.session id).destroyed = false)
    (hp : (s.session id).activeRequest = none → (s.session id).pendingRequestQueue = [])
    (hr : request.message.proper) (htr : Tears (s.line id) request left left') :
    Acts id s (s.messageProcess A id request) ∧
      Coherent id [] left' signalled ((s.messageProcess A id request).line id) ∧
      Level ((s.messageProcess A id request).session id) (s.session id) ∧
      (((s.messageProcess A id request).session id).activeRequest = none →
        ((s.messageProcess A id request).session id).pendingRequestQueue = []) := by
  unfold Client.messageProcess
  split_ifs with ht
  · have hl : (s.modifySession id fun session =>
        { session with pendingRequestQueue := session.pendingRequestQueue ++ [request] }).session id =
        { s.session id with pendingRequestQueue := (s.session id).pendingRequestQueue ++ [request] } :=
      update_self ..
    refine ⟨acts_modifySession s id _, ?_, ?_, ?_⟩
    · rw [line_modifySession]
      exact h.enqueue hr htr
    · rw [hl]
      exact ⟨rfl, rfl, rfl, fun _ h => h⟩
    · rw [hl]
      intro hn
      rw [show (s.session id).activeRequest = none from hn] at ht
      cases ht
  · have hn : (s.session id).activeRequest = none := Option.not_isSome_iff_eq_none.1 ht
    obtain ⟨hc, hcs⟩ := requestProcess_coherent (A := A) (h.take hn (hp hn) hr htr) hn
      hh (h.idle hn)
    generalize s.requestProcess A id request = r at hc hcs
    obtain ⟨t, request', sent⟩ := r
    rcases hcs with ⟨rfl, hs, ha⟩ | ⟨rfl, hs, -, ha⟩
    · refine ⟨hc, hs, ⟨ha.termState, ha.closing, ha.destroyed, ha.connection⟩, fun hcn => ?_⟩
      cases ha.activeRequest.symm.trans hcn
    · obtain ⟨hc', hs', ha'⟩ := errorRespond_coherent (A := A) hs (ha.activeRequest.trans hn)
        (ha.destroyed.trans hh)
      have hch := ha'.trans ha
      exact ⟨hc.trans hc', hs', hch.level,
        fun _ => hch.pendingRequestQueue.trans (hp hn)⟩

/-! ## Terminations -/

theorem teardownRequest_proper (A : ClientProfile) (name : Bytes) :
    (teardownRequest A (some name)).message.proper = true := by
  rw [proper_iff]
  exact ⟨rfl, rfl, rfl⟩

theorem resourceTeardown_coherent {name : Bytes} (h : Coherent id [] (name :: left) signalled (s.line id))
    (ht : (s.session id).destroyed = false)
    (hp : (s.session id).activeRequest = none → (s.session id).pendingRequestQueue = []) :
    Acts id s (Client.resourceTeardown A id s name) ∧
      Coherent id [] left signalled ((Client.resourceTeardown A id s name).line id) ∧
      Level ((Client.resourceTeardown A id s name).session id) (s.session id) ∧
      (((Client.resourceTeardown A id s name).session id).activeRequest = none →
        ((Client.resourceTeardown A id s name).session id).pendingRequestQueue = []) := by
  unfold Client.resourceTeardown
  cases hl : (s.session id).resourceTable.lookup name with
  | none =>
    refine ⟨acts_refl id s, h.drop ?_, level_refl _, hp⟩
    rw [← AList.mem_keys]
    exact AList.lookup_eq_none.1 hl
  | some setupRequest =>
    have hn : setupRequest.message.startLine.resourceName = some name := h.named name setupRequest hl
    dsimp only
    rw [hn]
    have hs : Coherent id [] (name :: left) ([] ++ signalled) (s.line id) := h
    refine messageProcess_coherent hs ht hp (teardownRequest_proper A name) ?_
    refine fun _ => ⟨rfl, rfl, ?_⟩
    rw [← AList.mem_keys, ← AList.lookup_isSome]
    exact Option.isSome_of_eq_some hl

/-- **The resources are torn down.** -/
theorem resourcesTeardown_coherent (h : Coherent id [] left signalled (s.line id))
    (hn : (s.session id).activeRequest = none) (hp : (s.session id).pendingRequestQueue = [])
    (hc : (s.session id).closing) (ht : (s.session id).destroyed = false) :
    Acts id s (s.resourcesTeardown A id) ∧ Coherent id [] [] signalled ((s.resourcesTeardown A id).line id) ∧
      Level ((s.resourcesTeardown A id).session id) { s.session id with termState := .inProgress } ∧
      (((s.resourcesTeardown A id).session id).activeRequest = none →
        ((s.resourcesTeardown A id).session id).pendingRequestQueue = []) := by
  have hb := h.begin hn hp hc (A.walk_perm (s.session id).resourceTable.keys)
  rw [← line_modifySession] at hb
  have hsl : (s.modifySession id ({ · with termState := .inProgress })).session id =
      { s.session id with termState := .inProgress } := update_self ..
  have hlp : ∀ (names : List Bytes) (t : Client), Coherent id [] names signalled (t.line id) →
      (t.session id).destroyed = false →
      ((t.session id).activeRequest = none → (t.session id).pendingRequestQueue = []) →
      Acts id t (names.foldl (Client.resourceTeardown A id) t) ∧
        Coherent id [] [] signalled ((names.foldl (Client.resourceTeardown A id) t).line id) ∧
        Level ((names.foldl (Client.resourceTeardown A id) t).session id) (t.session id) ∧
        (((names.foldl (Client.resourceTeardown A id) t).session id).activeRequest = none →
          ((names.foldl (Client.resourceTeardown A id) t).session id).pendingRequestQueue = []) := by
    intro names
    induction names with
    | nil => exact fun t h _ hp => ⟨acts_refl id t, h, level_refl _, hp⟩
    | cons name names ih =>
      intro t h ht hp
      obtain ⟨ha, hs, hl, hp'⟩ := resourceTeardown_coherent (A := A) h ht hp
      obtain ⟨ha', hs', hl', hp''⟩ := ih _ hs (hl.destroyed.trans ht) hp'
      exact ⟨ha.trans ha', hs', hl'.trans hl, hp''⟩
  obtain ⟨ha, hs, hl, hp'⟩ := hlp _ _ hb (by rw [hsl]; exact ht)
    (by rw [hsl]; exact fun _ => hp)
  rw [hsl] at hl
  exact ⟨(acts_modifySession s id _).trans ha, hs, hl, hp'⟩

/-- **What a session is like when nothing is done for it**: requests and the termination wait behind the active one. -/
structure Rests (session : ClientSession) : Prop where
  pending : session.activeRequest = none → session.pendingRequestQueue = []
  ending : session.termState ≠ .none → session.activeRequest.isSome
  gone : session.destroyed → session.activeRequest = none

theorem Coherent.empty (h : Coherent id hand left signalled (s.line id))
    (hs : (s.session id).termState = .inProgress) (ht : (s.session id).resourceTable.entries = []) :
    (s.session id).activeRequest = none ∧ (s.session id).pendingRequestQueue = [] := by
  have hks : (s.session id).resourceTable.keys = [] := by
    unfold AList.keys
    rw [ht]
    rfl
  have hn : (s.line id).requests hand = [] := by
    refine eq_nil_iff_forall_not_mem.2 fun request hr => ?_
    have hk := (h.torn hs).2 request hr
    rw [line_session, hks] at hk
    cases hk
  obtain ⟨hl, hg⟩ := append_eq_nil_iff.1 hn
  refine ⟨?_, hg⟩
  have ha := (append_eq_nil_iff.1 hl).1
  cases hm : (s.session id).activeRequest with
  | none => rfl
  | some request =>
    rw [line_session, hm] at ha
    cases ha

theorem Coherent.connected (h : Coherent id hand left signalled (s.line id))
    (ha : (s.session id).activeRequest.isSome) : (s.session id).connection = some id := by
  cases hc : (s.session id).connection with
  | none =>
    have hn : (s.session id).activeRequest = none := (h.fresh hc).2.1
    rw [hn] at ha
    cases ha
  | some c => rw [h.owned c hc]

theorem terminateRespond_line (h : Coherent id hand left signalled (s.line id))
    (hs : (s.session id).connection = some id) (ht : (s.session id).destroyed = false) :
    Acts id s (s.terminateRespond id) ∧
      (s.terminateRespond id).line id = (((s.line id).modifyConnection fun connection =>
        { connection with handleTable := connection.handleTable.erase id }).modifySession
          ({ · with termState := .none, destroyed := true })).see (.terminateResponse id) := by
  have hr : (terminateResponse id).about = id := rfl
  unfold Client.terminateRespond
  rw [hs]
  dsimp only
  rw [touch_eq (h.open ht)]
  refine ⟨?_, ?_⟩
  · exact (acts_modifyConnection s id _).trans ((acts_modifySession _ id _).trans (acts_see _ hr rfl))
  · rw [line_see _ hr, line_modifySession, line_modifyConnection]

theorem terminateCheck_coherent (h : Coherent id [] [] signalled (s.line id))
    (hm : (s.session id).connection = some id) (ht : (s.session id).destroyed = false)
    (hp : (s.session id).activeRequest = none → (s.session id).pendingRequestQueue = [])
    (hs : (s.session id).termState = .inProgress) :
    Acts id s (s.terminateCheck id id).1 ∧ Coherent id [] [] signalled ((s.terminateCheck id id).1.line id) ∧
      Rests ((s.terminateCheck id id).1.session id) ∧
      ((s.terminateCheck id id).1.session id).closing = (s.session id).closing ∧
      (((s.terminateCheck id id).1.session id).termState ≠ .none ∨
        ((s.terminateCheck id id).1.session id).destroyed = true) ∧
      ((s.terminateCheck id id).2 → ((s.terminateCheck id id).1.session id).destroyed = false) := by
  have hl : (s.session id).closing := by
    cases hl : (s.session id).closing with
    | true => rfl
    | false => cases (h.staying hl).symm.trans hs
  unfold Client.terminateCheck
  split_ifs with hlen
  · have hb : (s.session id).resourceTable.entries = [] := length_eq_zero_iff.1 hlen
    obtain ⟨hn, hq⟩ := h.empty hs hb
    obtain ⟨ha, hln⟩ := terminateRespond_line h hm ht
    have hco : (s.terminateRespond id).connection id =
        { s.connection id with handleTable := (s.connection id).handleTable.erase id } :=
      congrArg ClientLine.connection hln
    have ho : ((s.terminateRespond id).connection id).destroyed = false := by
      rw [hco]
      exact h.open ht
    have hh : ((s.terminateRespond id).connection id).handleTable.length = 0 := by
      have hf := h.handles hm
      rw [line_session, ht] at hf
      rw [hco]
      show ((s.line id).connection.handleTable.erase id).length = 0
      rw [hf]
      simp
    have hd : (connectionDestroyed id).about = id := rfl
    rw [touch_eq ho, if_pos hh]
    unfold Client.connectionDestroy
    rw [touch_eq ho]
    have hss : (((s.terminateRespond id).modifyConnection id ({ · with sock := false, destroyed := true })).see
        (.connectionDestroyed id)).session id = { s.session id with termState := .none, destroyed := true } :=
      congrArg ClientLine.session hln
    refine ⟨ha.trans ((acts_modifyConnection _ id _).trans (acts_see _ hd rfl)), ?_, ?_, ?_, ?_, ?_⟩
    · rw [line_see _ hd, line_modifyConnection, hln]
      exact h.finish hm hl ht hb
    · rw [hss]
      exact ⟨fun _ => hq, fun hc => absurd rfl hc, fun _ => hn⟩
    · rw [hss]
    · rw [hss]
      exact Or.inr rfl
    · intro hc
      cases hc
  · refine ⟨acts_refl id s, h, ⟨hp, fun _ => ?_, fun hc => ?_⟩, rfl, Or.inl ?_, fun _ => ht⟩
    · -- The resources that are left are those of the requests.
      by_contra hn
      have hn : (s.session id).activeRequest = none := Option.not_isSome_iff_eq_none.1 hn
      have hrq : (s.line id).requests [] = [] := by
        simp [ClientLine.requests, hn, hp hn]
      refine hlen (length_eq_zero_iff.2 ?_)
      have hk : (s.session id).resourceTable.keys = [] := by
        refine eq_nil_iff_forall_not_mem.2 fun name hnm => ?_
        rcases h.covered hs name hnm with hlf | ⟨request, hr, -⟩
        · cases hlf
        · rw [hrq] at hr
          cases hr
      exact map_eq_nil_iff.1 hk
    · cases ht.symm.trans hc
    · rw [hs]
      exact TerminationState.noConfusion

end UniMrcp.UniRtsp
