import UniMrcp.UniRtsp.Client.Steps

/-!
# The connections of the client

What happens to a connection keeps the line of its session coherent.
-/

namespace UniMrcp.UniRtsp

open Apt Lib List Function Option Client ClientEvent

variable {A : ClientProfile} {s t u : Client} {id c : Nat} {hand : List ClientRequest} {left : List Bytes}
  {signalled : List Nat}

/-! ## What a message does -/

structure Advances (session former : ClientSession) : Prop where
  closing : session.closing = former.closing
  idle : former.termState = .none → former.destroyed = false → session.termState = .none ∧ session.destroyed = false
  ending : former.termState ≠ .none ∨ former.destroyed →
    session.termState ≠ .none ∨ session.destroyed

theorem Level.advances {session former : ClientSession} (h : Level session former) : Advances session former := by
  refine ⟨h.closing, ?_, ?_⟩
  · rw [h.termState, h.destroyed]
    exact fun hs ht => ⟨hs, ht⟩
  · rw [h.termState, h.destroyed]
    exact fun he => he

theorem Advances.trans {session former first : ClientSession} (h : Advances session former)
    (h' : Advances former first) : Advances session first := by
  refine ⟨h.closing.trans h'.closing, fun hs ht => ?_, fun he => h.ending (h'.ending he)⟩
  obtain ⟨hs', ht'⟩ := h'.idle hs ht
  exact h.idle hs' ht'

/-- **What is done for a session** leaves the other lines, and keeps its own line coherent and at rest. -/
structure Handled (id : Nat) (signalled : List Nat) (s : Client) (r : Client × Bool) : Prop where
  acts : Acts id s r.1
  coherent : Coherent id [] [] signalled (r.1.line id)
  rests : Rests (r.1.session id)
  advances : Advances (r.1.session id) (s.session id)
  there : r.2 → (r.1.session id).destroyed = false

theorem Handled.after {r : Client × Bool} (h : Handled id signalled t r) (ha : Acts id s t)
    (hd : Advances (t.session id) (s.session id)) : Handled id signalled s r :=
  ⟨ha.trans h.acts, h.coherent, h.rests, h.advances.trans hd, h.there⟩

theorem Coherent.closing (h : Coherent id hand left signalled (s.line id)) (hs : (s.session id).termState ≠ .none) :
    (s.session id).closing = true := by
  cases hc : (s.session id).closing with
  | true => rfl
  | false => exact absurd (h.staying hc) hs

theorem terminationProceed_handled (h : Coherent id [] [] signalled (s.line id))
    (hm : (s.session id).connection = some id) (ht : (s.session id).destroyed = false)
    (hnn : (s.session id).activeRequest = none) (hp : (s.session id).pendingRequestQueue = []) :
    Handled id signalled s (s.terminationProceed A id id) := by
  unfold Client.terminationProceed
  cases hs : (s.session id).termState with
  | none =>
    refine ⟨acts_refl id s, h, ⟨fun _ => hp, fun hc => absurd hs hc, fun _ => hnn⟩, ?_,
      fun _ => ht⟩
    exact (level_refl _).advances
  | requested =>
    have hl := h.closing (by rw [hs]; exact TerminationState.noConfusion)
    obtain ⟨ha, hn, hv, hp'⟩ := resourcesTeardown_coherent (A := A) h hnn hp hl ht
    obtain ⟨ha', hn', hr, hl', he, ht'⟩ := terminateCheck_coherent hn
      (hv.connection id hm) (hv.destroyed.trans ht) hp' hv.termState
    refine ⟨ha.trans ha', hn', hr, ⟨hl'.trans hv.closing, ?_, fun _ => he⟩, ht'⟩
    intro hc
    cases hs.symm.trans hc
  | inProgress =>
    obtain ⟨ha, hn, hr, hl, he, ht'⟩ := terminateCheck_coherent h hm ht
      (fun _ => hp) hs
    refine ⟨ha, hn, hr, ⟨hl, ?_, fun _ => he⟩, ht'⟩
    intro hc
    cases hs.symm.trans hc

/-! ## What is received -/

def Announces (event : ClientEvent) (s : Client) (c : Nat) (response : RtspMessage) : Prop :=
  event = .arrived c response.header.cseq ∨
    event = .timedOut c ∧ ∃ request, (s.session c).activeRequest = some request ∧
      request.message.header.cseq = response.header.cseq

variable {request : ClientRequest} {cseq : UInt64}

theorem requestPop_eq (h : Coherent c [] left signalled (s.line c))
    (hs : (s.session c).activeRequest = some request) (hc : request.message.header.cseq = cseq)
    (event : ClientEvent) :
    (s.see event).requestPop c cseq =
      (((s.see event).modifyConnection c fun connection =>
          { connection with inprogressRequestQueue := connection.inprogressRequestQueue.erase c }).modifySession c
        ({ · with activeRequest := none, requestTimer := false }), some (c, request)) := by
  have hq : ((s.see event).connection c).inprogressRequestQueue = [c] := by
    have hb := h.queue
    rw [line_session, hs] at hb
    exact hb
  have ha : ((s.see event).session c).activeRequest = some request := hs
  have hf : (s.see event).inprogress c cseq = some (c, request) := by
    unfold Client.inprogress
    have hl : (some request).filter (·.message.header.cseq == cseq) = some request :=
      filter_some_pos (beq_iff_eq.2 hc)
    rw [hq, List.findSome?_cons, ha, hl]
    rfl
  unfold Client.requestPop
  rw [hf]

theorem requestPop_none (h : Coherent c [] left signalled (s.line c))
    (hn : (s.session c).activeRequest.filter (·.message.header.cseq == cseq) = none) (event : ClientEvent) :
    (s.see event).requestPop c cseq = (s.see event, none) := by
  have hf : (s.see event).inprogress c cseq = none := by
    refine List.findSome?_eq_none_iff.2 fun id hid => ?_
    have hq : ((s.see event).connection c).inprogressRequestQueue =
      ((s.session c).activeRequest.map fun _ => c).toList := h.queue
    rw [hq] at hid
    cases ha : (s.session c).activeRequest with
    | none =>
      rw [ha] at hid
      cases hid
    | some request =>
      rw [ha] at hid
      obtain rfl := mem_singleton.1 hid
      show ((s.session id).activeRequest.filter (·.message.header.cseq == cseq)).map (id, ·) = none
      rw [hn]
      rfl
  unfold Client.requestPop
  rw [hf]

theorem responseHandle_handled {event : ClientEvent} {response : RtspMessage}
    (h : Coherent c [] [] signalled (s.line c)) (hr : Rests (s.session c))
    (ht : (s.session c).destroyed = false)
    (he : Announces event s c response) :
    Handled c signalled s ((s.see event).responseHandle A c response) := by
  have hb : event.about = c := by
    rcases he with rfl | ⟨rfl, -⟩ <;> rfl
  have hh : event.hands = none := by
    rcases he with rfl | ⟨rfl, -⟩ <;> rfl
  have hpl : event.plain := by
    rcases he with rfl | ⟨rfl, -⟩ <;> rfl
  unfold Client.responseHandle
  rw [touch_eq (show ((s.see event).connection c).destroyed = false from h.open ht)]
  by_cases hm : ∃ request, (s.session c).activeRequest = some request ∧
      request.message.header.cseq = response.header.cseq
  · obtain ⟨request, hs, hc⟩ := hm
    have hco := h.connected (isSome_of_eq_some hs)
    rw [requestPop_eq h hs hc]
    dsimp only
    have hma : (∃ cseq, event = .arrived c cseq ∧ request.message.header.cseq = cseq) ∨ event = .timedOut c := by
      rcases he with rfl | ⟨rfl, -⟩
      · exact Or.inl ⟨_, rfl, hc⟩
      · exact Or.inr rfl
    have hp := h.pop hs hma
    rw [← line_see s hb, ← line_modifyConnection, ← line_modifySession] at hp
    have ha := (acts_see s hb hh).trans ((acts_modifyConnection _ c fun connection =>
        { connection with inprogressRequestQueue := connection.inprogressRequestQueue.erase c }).trans
      (acts_modifySession _ c ({ · with activeRequest := none, requestTimer := false })))
    have hss : (((s.see event).modifyConnection c fun connection =>
          { connection with inprogressRequestQueue := connection.inprogressRequestQueue.erase c }).modifySession c
        ({ · with activeRequest := none, requestTimer := false })).session c =
          { s.session c with activeRequest := none, requestTimer := false } := update_self ..
    generalize ((s.see event).modifyConnection c fun connection =>
          { connection with inprogressRequestQueue := connection.inprogressRequestQueue.erase c }).modifySession c
        ({ · with activeRequest := none, requestTimer := false }) = t at hp ha hss ⊢
    obtain ⟨ha1, hn1, hal1⟩ := responseProcess_coherent hp (by rw [hss])
      (by rw [hss]; exact ht) (fun _ => by rw [hss]; exact hco) (fun _ => hc.symm)
    have hnn1 : ((t.responseProcess c request response).session c).activeRequest = none := by
      rw [hal1.activeRequest, hss]
    have ht1 : ((t.responseProcess c request response).session c).destroyed = false := by
      rw [hal1.destroyed, hss]
      exact ht
    have hl1 : Level ((t.responseProcess c request response).session c) (s.session c) := by
      have hl := hal1.level
      rw [hss] at hl
      exact ⟨hl.termState, hl.closing, hl.destroyed, hl.connection⟩
    obtain ⟨ha2, hn2, hl2, hca⟩ := pendingLoop_coherent (A := A) _ hn1 hnn1 ht1 rfl
    have hall := ha.trans (ha1.trans ha2)
    have hl := hl2.trans hl1
    unfold Client.pendingRequestsProcess
    generalize Client.pendingLoop A c _ (t.responseProcess c request response) = r at hn2 hca hall hl
    obtain ⟨u, sent⟩ := r
    rcases hca with ⟨rfl, hac⟩ | ⟨rfl, hnn, hpn⟩
    · refine ⟨hall, hn2, ⟨fun hcn => ?_, fun _ => hac, fun hcn => ?_⟩, hl.advances, fun _ => ?_⟩
      · rw [show (u.session c).activeRequest = none from hcn] at hac
        cases hac
      · cases (hl.destroyed.trans ht).symm.trans hcn
      · exact hl.destroyed.trans ht
    · exact (terminationProceed_handled hn2 (hl.connection c hco) (hl.destroyed.trans ht) hnn
        hpn).after hall hl.advances
  · have hnn : (s.session c).activeRequest.filter (·.message.header.cseq == response.header.cseq) = none := by
      rw [filter_eq_none_iff]
      intro request hs hc
      exact hm ⟨request, hs, beq_iff_eq.1 hc⟩
    rw [requestPop_none h hnn]
    have har : event = .arrived c response.header.cseq := he.resolve_right fun hcn => hm hcn.2
    refine ⟨acts_see s hb hh, ?_, hr, (level_refl _).advances, fun _ => ht⟩
    rw [line_see s hb]
    refine h.see hpl ?_
    rw [har]
    show (s.session c).activeRequest.filter (·.message.header.cseq != response.header.cseq) =
      (s.session c).activeRequest
    cases hs : (s.session c).activeRequest with
    | none => rfl
    | some request => exact filter_some_pos (bne_iff_ne.2 fun hc => hm ⟨request, hs, hc⟩)

theorem Coherent.lookup {sessionId : Bytes} (h : Coherent c hand left signalled (s.line c))
    (hl : (s.connection c).sessionTable.lookup sessionId = some id) : id = c := by
  have hm : (⟨sessionId, id⟩ : Sigma fun _ : Bytes => Nat) ∈ (s.connection c).sessionTable.entries :=
    AList.mem_lookup_iff.1 hl
  rcases h.table with he | ⟨he, -⟩
  · rw [show (s.connection c).sessionTable.entries = [] from he] at hm
    cases hm
  · rw [show (s.connection c).sessionTable.entries = [⟨(s.session c).id, c⟩] from he] at hm
    cases mem_singleton.1 hm
    rfl

theorem messageSend_handled (h : Coherent c [] [] signalled (s.line c)) (hr : Rests (s.session c))
    (ht : (s.session c).destroyed = false) (message : RtspMessage) :
    Handled c signalled s ((s.messageSend A c message).1, true) := by
  obtain ⟨ha, hc⟩ := messageSend_cases (A := A) s c message (h.open ht)
  generalize s.messageSend A c message = r at ha hc
  have hs : r.1.session c = s.session c := by
    rcases hc with ⟨hl, -⟩ | ⟨hl, -⟩ <;> exact congrArg ClientLine.session hl
  refine ⟨ha, ?_, ?_, ?_, fun _ => ?_⟩
  · rcases hc with ⟨hl, -⟩ | ⟨hl, -⟩
    · rw [hl]
      exact h.see rfl rfl
    · rw [hl]
      exact h
  · rw [hs]
    exact hr
  · rw [hs]
    exact (level_refl _).advances
  · rw [hs]
    exact ht

theorem eventProcess_handled (h : Coherent c [] [] signalled (s.line c)) (hr : Rests (s.session c))
    (ht : (s.session c).destroyed = false) (message : RtspMessage) :
    Handled c signalled s (s.eventProcess A c message, true) := by
  unfold Client.eventProcess
  dsimp only
  split
  · next id hl =>
    have hl : (s.connection c).sessionTable.lookup message.header.sessionId = some id := by
      split_ifs at hl
      exact hl
    obtain rfl := h.lookup hl
    have he : (sessionEvent id message).about = id := rfl
    have hs : Coherent id [] [] signalled ((s.see (.sessionEvent id message)).line id) := by
      rw [line_see _ he]
      exact h.see rfl rfl
    exact (messageSend_handled hs hr ht _).after (acts_see s he rfl) (level_refl _).advances
  · exact messageSend_handled h hr ht _

theorem messageHandler_handled (h : Coherent c [] [] signalled (s.line c)) (hr : Rests (s.session c))
    (ht : (s.session c).destroyed = false) (message : RtspMessage) :
    Handled c signalled s ((s.arrive c message).messageHandler A c message) := by
  unfold Client.arrive Client.messageHandler
  cases hl : message.startLine with
  | unknown => exact ⟨acts_refl c s, h, hr, (level_refl _).advances, fun _ => ht⟩
  | request => exact eventProcess_handled h hr ht message
  | response => exact responseHandle_handled h hr ht (Or.inl rfl)

theorem receive_handled (messages : List RtspMessage) : ∀ {s : Client}, Coherent c [] [] signalled (s.line c) →
    Rests (s.session c) → (s.session c).destroyed = false →
    Handled c signalled s (Client.receive A c messages s, false) := by
  induction messages with
  | nil =>
    intro s h hr ht
    rw [Client.receive, touch_eq (h.open ht)]
    exact ⟨acts_refl c s, h, hr, (level_refl _).advances, fun hc => (by cases hc)⟩
  | cons message messages ih =>
    intro s h hr ht
    have hh := messageHandler_handled (A := A) h hr ht message
    rw [Client.receive]
    generalize (s.arrive c message).messageHandler A c message = r at hh
    obtain ⟨t, proceed⟩ := r
    cases proceed with
    | true =>
      have ht' := hh.there rfl
      dsimp only
      rw [touch_eq (hh.coherent.open ht')]
      exact (ih hh.coherent hh.rests ht').after hh.acts hh.advances
    | false =>
      exact ⟨hh.acts, hh.coherent, hh.rests, hh.advances, fun hc => (by cases hc)⟩

/-! ## Timers and disconnects -/

theorem requestCancel_eq (ha : (s.session id).activeRequest = some request)
    (hc : (s.session id).connection = some c) (statusCode reason : Nat) :
    s.requestCancel A id statusCode reason = s.responseHandle A c (request.responseCreate A statusCode reason) := by
  unfold Client.requestCancel
  rw [ha, hc]
  dsimp only
  have hl : (request.responseCreate A statusCode reason).startLine = _ := responseCreate_startLine ..
  unfold Client.messageHandler
  rw [hl]

/-- **The active request times out.** -/
theorem timerProc_handled (h : Coherent id [] [] signalled (s.line id)) (hr : Rests (s.session id))
    (ht : (s.session id).requestTimer) :
    Handled id signalled s ((s.see (.timedOut id)).timerProc A id, false) := by
  obtain ⟨request, ha⟩ := Option.isSome_iff_exists.1 (h.timer ht)
  have ha : (s.session id).activeRequest = some request := ha
  have hc := h.connected (isSome_of_eq_some ha)
  have hh : (s.session id).destroyed = false := by
    cases hd : (s.session id).destroyed with
    | false => rfl
    | true => cases ha.symm.trans (hr.gone hd)
  have hs : (s.modifySession id ({ · with requestTimer := false })).session id =
      { s.session id with requestTimer := false } := update_self ..
  have hfr : Coherent id [] [] signalled ((s.modifySession id ({ · with requestTimer := false })).line id) := by
    rw [line_modifySession]
    exact h.fire
  have hcs := (responseCreate_cseq A.delivery request.message.startLine.version statusCodeRequestTimeout
    reasonPhraseRequestTimeout (h.cseq request ha)).2
  have hn : Announces (.timedOut id) (s.modifySession id ({ · with requestTimer := false })) id
      (request.responseCreate A statusCodeRequestTimeout reasonPhraseRequestTimeout) :=
    Or.inr ⟨rfl, request, by rw [hs]; exact ha, hcs.symm⟩
  have hhn := responseHandle_handled (A := A) hfr
    (by rw [hs]; exact ⟨hr.pending, hr.ending, hr.gone⟩) (by rw [hs]; exact hh) hn
  have hst : (s.see (.timedOut id)).timerProc A id =
      (((s.modifySession id ({ · with requestTimer := false })).see (.timedOut id)).responseHandle A id
        (request.responseCreate A statusCodeRequestTimeout reasonPhraseRequestTimeout)).1 := by
    have hw : (s.see (.timedOut id)).modifySession id ({ · with requestTimer := false }) =
        (s.modifySession id ({ · with requestTimer := false })).see (.timedOut id) := rfl
    have hss : ((s.modifySession id ({ · with requestTimer := false })).see (.timedOut id)).session id =
        { s.session id with requestTimer := false } := hs
    unfold Client.timerProc
    dsimp only
    rw [hw, hss]
    rw [hc, if_pos isSome_some]
    rw [requestCancel_eq (s := (s.modifySession id ({ · with requestTimer := false })).see (.timedOut id))
      (by rw [hss]; exact ha) (by rw [hss]; exact hc)]
  rw [hst]
  have hf := hhn.after (acts_modifySession s id _) (by
    rw [hs]
    exact Level.advances ⟨rfl, rfl, rfl, fun _ h => h⟩)
  exact ⟨hf.acts, hf.coherent, hf.rests, hf.advances, fun hco => (by cases hco)⟩

theorem Coherent.opened (h : Coherent c hand left signalled (s.line c)) (hs : (s.connection c).sock) :
    (s.session c).connection = some c ∧ (s.session c).destroyed = false := by
  have hm : (s.session c).connection = some c := by
    cases hc : (s.session c).connection with
    | none =>
      have hf : s.connection c = {} := (h.fresh hc).1
      rw [hf] at hs
      cases hs
    | some c' => rw [h.owned c' hc]
  refine ⟨hm, ?_⟩
  cases hd : (s.session c).destroyed with
  | false => rfl
  | true =>
    have hc := h.destroyed
    rw [line_session, hd, hm] at hc
    cases (h.closed hc).symm.trans hs

def ClientLine.lose (l : ClientLine) (id : Nat) : ClientLine :=
  (l.see (.lost id)).modifyConnection ({ · with sock := false })

theorem onDisconnect_line (h : Coherent c [] [] signalled (s.line c)) (hr : Rests (s.session c))
    (hsc : (s.connection c).sock) (hcl : (s.connection c).inprogressRequestQueue = []) :
    Acts c s ((s.see (.lost c)).onDisconnect A c) ∧
      ((s.see (.lost c)).onDisconnect A c).line c =
        if (s.connection c).sessionTable.entries = [] then (s.line c).lose c
        else ((s.line c).lose c).see (.terminateEvent c) := by
  obtain ⟨hm, hh⟩ := h.opened hsc
  have hn : (s.session c).activeRequest = none := by
    have hq := h.queue
    rw [line_connection, hcl] at hq
    cases ha : (s.session c).activeRequest with
    | none => rfl
    | some request =>
      rw [line_session, ha] at hq
      cases hq
  have ht : (s.session c).termState = .none := by
    by_contra ht
    have ha := hr.ending ht
    rw [hn] at ha
    cases ha
  have hls : (lost c).about = c := rfl
  have hv : (terminateEvent c).about = c := rfl
  have ho := h.open hh
  have hhn : (s.connection c).handleTable.length ≠ 0 := by
    have hb : (s.connection c).handleTable = [c] := by
      have hb := h.handles hm
      rw [line_session, hh] at hb
      exact hb
    rw [hb]
    exact Nat.one_ne_zero
  have hs : (((s.see (.lost c)).modifyConnection c ({ · with sock := false })).connection c) =
      { s.connection c with sock := false } := update_self ..
  have hc : Acts c s ((s.see (.lost c)).modifyConnection c ({ · with sock := false })) :=
    (acts_see s hls rfl).trans (acts_modifyConnection _ c _)
  have hl : ((s.see (.lost c)).modifyConnection c ({ · with sock := false })).line c = (s.line c).lose c := by
    rw [line_modifyConnection, line_see _ hls]
    rfl
  have hss : ((s.see (.lost c)).modifyConnection c ({ · with sock := false })).session c = s.session c := rfl
  unfold Client.onDisconnect
  rw [touch_eq (show ((s.see (.lost c)).connection c).destroyed = false from ho)]
  generalize (s.see (.lost c)).modifyConnection c ({ · with sock := false }) = t at hs hc hl hss ⊢
  dsimp only
  rw [hs]
  rw [hcl, length_nil, Client.cancelLoop, touch_eq (by rw [hs]; exact ho), hs, if_pos hhn]
  rcases h.table with he | ⟨he, -⟩
  · have he : (s.connection c).sessionTable.entries = [] := he
    have hk : A.walk (s.connection c).sessionTable.keys = [] := by
      refine perm_nil.1 ((A.walk_perm _).trans ?_)
      unfold AList.keys
      rw [he]
      exact List.Perm.refl _
    rw [hk, if_pos he, foldl_nil]
    exact ⟨hc, hl⟩
  · have he : (s.connection c).sessionTable.entries = [⟨(s.session c).id, c⟩] := he
    have hk : A.walk (s.connection c).sessionTable.keys = [(s.session c).id] := by
      refine perm_singleton.1 ((A.walk_perm _).trans ?_)
      unfold AList.keys
      rw [he]
      exact List.Perm.refl _
    have hlk : (t.connection c).sessionTable.lookup (s.session c).id = some c := by
      rw [hs]
      refine AList.mem_lookup_iff.2 ?_
      show (⟨(s.session c).id, c⟩ : Sigma fun _ : Bytes => Nat) ∈ (s.connection c).sessionTable.entries
      rw [he]
      exact mem_singleton_self _
    have hra : Client.sessionRaise A c t (s.session c).id = t.see (.terminateEvent c) := by
      unfold Client.sessionRaise
      rw [hlk]
      dsimp only
      unfold Client.terminateRaise
      rw [hss, hr.pending hn, Client.pendingCancel]
      dsimp only
      rw [hss, if_pos ht]
    rw [hk, foldl_cons, foldl_nil, hra, if_neg (by rw [he]; exact cons_ne_nil _ _)]
    exact ⟨hc.trans (acts_see _ hv rfl), by rw [line_see _ hv, hl]⟩

theorem onDisconnect_handled (h : Coherent c [] [] signalled (s.line c)) (hr : Rests (s.session c))
    (hs : (s.connection c).sock) (hc : (s.connection c).inprogressRequestQueue = []) :
    Handled c signalled s ((s.see (.lost c)).onDisconnect A c, false) := by
  obtain ⟨hac, hl⟩ := onDisconnect_line (A := A) h hr hs hc
  obtain ⟨hm, -⟩ := h.opened hs
  have hn : (s.session c).activeRequest = none := by
    have hq := h.queue
    rw [line_connection, hc] at hq
    cases ha : (s.session c).activeRequest with
    | none => rfl
    | some request =>
      rw [line_session, ha] at hq
      cases hq
  have hls : Coherent c [] [] signalled ((s.line c).lose c) := by
    have ha : (lost c).outstanding (s.line c).session.activeRequest =
        (s.line c).session.activeRequest := by
      rw [line_session, hn]
      rfl
    exact (h.see rfl ha).close hm
  have hss : ((s.see (.lost c)).onDisconnect A c).session c = s.session c := by
    rw [← line_session, hl]
    split_ifs <;> rfl
  refine ⟨hac, ?_, ?_, ?_, fun hcn => (by cases hcn)⟩
  · rw [hl]
    split_ifs
    · exact hls
    · exact hls.see rfl rfl
  · rw [hss]
    exact hr
  · rw [hss]
    exact (level_refl _).advances

theorem terminateProcess_coherent (h : Coherent id [] [] signalled (s.line id)) (hr : Rests (s.session id))
    (ht : (s.session id).destroyed = false) (hc : (s.session id).closing) :
    Acts id s (s.terminateProcess A id) ∧ Coherent id [] [] signalled ((s.terminateProcess A id).line id) ∧
      Rests ((s.terminateProcess A id).session id) ∧ ((s.terminateProcess A id).session id).closing ∧
      (((s.terminateProcess A id).session id).termState ≠ .none ∨
        ((s.terminateProcess A id).session id).destroyed = true) := by
  unfold Client.terminateProcess
  cases hn : (s.session id).connection with
  | none =>
    have hre : (terminateResponse id).about = id := rfl
    have hs : ((s.modifySession id ({ · with destroyed := true })).see (.terminateResponse id)).session id =
        { s.session id with destroyed := true } := update_self ..
    refine ⟨(acts_modifySession s id _).trans (acts_see _ hre rfl), ?_, ?_, ?_, ?_⟩
    · rw [line_see _ hre, line_modifySession]
      exact h.leave hn hc ht
    · rw [hs]
      exact ⟨hr.pending, hr.ending, fun _ => (h.fresh hn).2.1⟩
    · rw [hs]
      exact hc
    · rw [hs]
      exact Or.inr rfl
  | some c =>
    obtain rfl := h.owned c hn
    split_ifs with ha
    · have hs : (s.modifySession c ({ · with termState := .requested })).session c =
          { s.session c with termState := .requested } := update_self ..
      refine ⟨acts_modifySession s c _, ?_, ?_, ?_, ?_⟩
      · rw [line_modifySession]
        exact h.request hc
      · rw [hs]
        exact ⟨hr.pending, fun _ => ha, hr.gone⟩
      · rw [hs]
        exact hc
      · rw [hs]
        exact Or.inl TerminationState.noConfusion
    · have hnn : (s.session c).activeRequest = none := Option.not_isSome_iff_eq_none.1 ha
      obtain ⟨hac, hsn, hl, hp⟩ := resourcesTeardown_coherent (A := A) h hnn (hr.pending hnn)
        hc ht
      obtain ⟨hac', hsn', hr', hc', he, -⟩ := terminateCheck_coherent hsn
        (hl.connection c hn) (hl.destroyed.trans ht) hp hl.termState
      exact ⟨hac.trans hac', hsn', hr', (hc'.trans hl.closing).trans hc, he⟩

end UniMrcp.UniRtsp
