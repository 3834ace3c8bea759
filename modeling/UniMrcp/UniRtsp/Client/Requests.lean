import UniMrcp.UniRtsp.Client.Connections

/-!
# The requests of the client

Every request is responded to once, in order, or it waits.
-/

namespace UniMrcp.UniRtsp

open Apt Lib List Client ClientLine

variable {A : ClientProfile} {s t : Client} {id c : Nat}

def ClientSignal.number : ClientSignal → Option Nat
  | .send _ request => request.number
  | .terminate _ => none

/-- A signal is to send a request that was created by `rtsp_request_create`. -/
def ClientSignal.sends : ClientSignal → Bool
  | .send _ request => request.message.proper
  | .terminate _ => false

def Client.waiting (s : Client) (id : Nat) : List ClientSignal := s.signals.filter (·.session == id)

def Client.signalled (s : Client) (id : Nat) : List Nat := (s.waiting id).filterMap ClientSignal.number

/-- **What is signalled for a session**: requests, until the application has terminated it, and nothing once this is
processed. -/
inductive Stage (id : Nat) (session : ClientSession) : List ClientSignal → Prop
  | asking {signals : List ClientSignal} (closing : session.closing = false)
      (sends : ∀ signal ∈ signals, signal.sends) : Stage id session signals
  | leaving {signals : List ClientSignal} (closing : session.closing) (termState : session.termState = .none)
      (destroyed : session.destroyed = false) (sends : ∀ signal ∈ signals, signal.sends) :
      Stage id session (signals ++ [.terminate id])
  | ending (closing : session.closing) (ending : session.termState ≠ .none ∨ session.destroyed) :
      Stage id session []

variable {signals : List ClientSignal}

theorem Stage.advance {session former : ClientSession} (h : Stage id former signals)
    (ha : Advances session former) : Stage id session signals := by
  cases h with
  | asking hc hs => exact Stage.asking (ha.closing.trans hc) hs
  | leaving hc ht hh hs =>
    obtain ⟨ht', hh'⟩ := ha.idle ht hh
    exact Stage.leaving (ha.closing.trans hc) ht' hh' hs
  | ending hc he => exact Stage.ending (ha.closing.trans hc) (ha.ending he)

/-! ## The invariant -/

/-- **The invariant of a session.** -/
structure Kept (s : Client) (id : Nat) : Prop where
  coherent : Coherent id [] [] (s.signalled id) (s.line id)
  rests : Rests (s.session id)
  stage : Stage id (s.session id) (s.waiting id)
  distinct : (s.line id).handed.Pairwise (· < ·)
  bound : ∀ number ∈ (s.line id).handed, number < s.handed
  fresh : s.sessionCount ≤ id → s.line id = {} ∧ s.waiting id = []

theorem Kept.congr (h : Kept s id) (hl : t.line id = s.line id) (hw : t.waiting id = s.waiting id)
    (hh : s.handed ≤ t.handed) (hc : s.sessionCount ≤ t.sessionCount) : Kept t id := by
  have hs : t.session id = s.session id := congrArg ClientLine.session hl
  refine ⟨?_, ?_, ?_, ?_, ?_, ?_⟩
  · unfold Client.signalled
    rw [hl, hw]
    exact h.coherent
  · rw [hs]
    exact h.rests
  · rw [hs, hw]
    exact h.stage
  · rw [hl]
    exact h.distinct
  · rw [hl]
    exact fun number hm => Nat.lt_of_lt_of_le (h.bound number hm) hh
  · intro hid
    rw [hl, hw]
    exact h.fresh (Nat.le_trans hc hid)

theorem Kept.other {other : Nat} (h : Kept s other) (ha : Acts id s t) (hne : other ≠ id) : Kept t other := by
  refine h.congr (ha.line other hne) ?_ (Nat.le_of_eq ha.handed.symm) (Nat.le_of_eq ha.sessionCount.symm)
  unfold Client.waiting
  rw [ha.signals]

theorem Kept.acts (h : Kept s id) (hid : id < s.sessionCount) (ha : Acts id s t)
    (hs : Coherent id [] [] (s.signalled id) (t.line id)) (hr : Rests (t.session id))
    (ht : Stage id (t.session id) (s.waiting id)) : Kept t id := by
  have hw : t.waiting id = s.waiting id := by
    unfold Client.waiting
    rw [ha.signals]
  refine ⟨?_, hr, hw ▸ ht, ?_, ?_, ?_⟩
  · unfold Client.signalled
    rw [hw]
    exact hs
  · rw [ha.hands]
    exact h.distinct
  · rw [ha.hands, ha.handed]
    exact h.bound
  · intro hc
    rw [ha.sessionCount] at hc
    exact absurd hid (Nat.not_lt.2 hc)

theorem kept_of_handled {r : Client × Bool} (h : ∀ other, Kept s other) (hid : id < s.sessionCount)
    (hr : Handled id (s.signalled id) s r) (other : Nat) : Kept r.1 other := by
  rcases eq_or_ne other id with rfl | hne
  · exact (h other).acts hid hr.acts hr.coherent hr.rests ((h other).stage.advance hr.advances)
  · exact (h other).other hr.acts hne

theorem Kept.created (h : Kept s id) (hl : s.line id ≠ {}) : id < s.sessionCount := by
  by_contra hc
  exact hl (h.fresh (Nat.not_lt.1 hc)).1

/-! ## What the application does -/

theorem coherent_created (id : Nat) (serverIp : Bytes) (serverPort : UInt16) (resourceLocation : Bytes) :
    Coherent id [] [] [] { session :=
      { serverIp := serverIp, serverPort := serverPort, resourceLocation := resourceLocation } } where
  owned _ hs := by cases hs
  fresh _ := ⟨rfl, rfl, rfl⟩
  queue := rfl
  handles hs := by cases hs
  destroyed := rfl
  closed hc := by cases hc
  table := Or.inl rfl
  timer hc := by cases hc
  gone hc := by cases hc
  destructions := rfl
  responses := rfl
  fault := not_mem_nil
  terminated := iff_of_false not_mem_nil Bool.false_ne_true
  outstanding := rfl
  named _ _ hl := by cases hl
  proper _ hm := absurd hm not_mem_nil
  cseq _ hs := by cases hs
  handed _ := rfl
  sent _ := List.Sublist.refl _
  carried _ _ _ hm := absurd hm not_mem_nil
  staying _ := rfl
  teardown hc := by cases hc
  covered hc := by cases hc
  torn hc := by cases hc

variable {left : List Bytes} {signalled : List Nat} {l : ClientLine}

theorem Coherent.hand (h : Coherent id [] left signalled l) (number : Nat) :
    Coherent id [] left (signalled ++ [number]) (l.see (.handed id number)) := by
  refine { h with
    destructions := ?_, responses := ?_, fault := ?_, terminated := ?_, outstanding := ?_, handed := ?_, sent := ?_,
    carried := ?_ }
  · exact (count_see_ne _ (fun heq => by cases heq)).trans h.destructions
  · exact (count_see_ne _ (fun heq => by cases heq)).trans h.responses
  · exact fun hm => h.fault ((mem_see _ (fun heq => by cases heq)).1 hm)
  · exact (mem_see _ (fun heq => by cases heq)).trans h.terminated
  · exact (outstanding_see _ _).trans h.outstanding
  · intro ho
    rw [handed_see, answered_see, h.handed ho]
    show _ ++ [number] = l.answered ++ [] ++ numbers (l.requests []) ++ (signalled ++ [number])
    simp
  · intro ho
    rw [pushed_see, answered_see]
    exact (append_nil _).symm ▸ (append_nil _).symm ▸ h.sent ho
  · intro session request response hm
    exact h.carried session request response ((mem_see _ (fun heq => by cases heq)).1 hm)

theorem Coherent.signal (h : Coherent id [] left signalled l) :
    Coherent id [] left signalled ((l.modifySession ({ · with closing := true })).see (.terminated id)) := by
  refine { h with
    gone := fun hg => ⟨(h.gone hg).1, rfl⟩, destructions := ?_, responses := ?_, fault := ?_, terminated := ?_,
    outstanding := ?_, handed := ?_, sent := ?_, carried := ?_, staying := ?_ }
  · exact (count_see_ne _ (fun heq => by cases heq)).trans h.destructions
  · exact (count_see_ne _ (fun heq => by cases heq)).trans h.responses
  · exact fun hm => h.fault ((mem_see _ (fun heq => by cases heq)).1 hm)
  · exact iff_of_true (mem_append_right _ (mem_singleton_self _)) rfl
  · exact (outstanding_see _ _).trans h.outstanding
  · intro ho
    cases ho
  · intro ho
    cases ho
  · intro session request response hm
    exact h.carried session request response ((mem_see _ (fun heq => by cases heq)).1 hm)
  · intro ho
    cases ho

variable {signal : ClientSignal}

theorem waiting_self (hs : t.signals = s.signals ++ [signal]) (heq : signal.session = id) :
    t.waiting id = s.waiting id ++ [signal] := by
  unfold Client.waiting
  rw [hs, filter_append, filter_cons_of_pos (by simp [heq])]
  rfl

theorem waiting_ne (hs : t.signals = s.signals ++ [signal]) (hne : signal.session ≠ id) :
    t.waiting id = s.waiting id := by
  unfold Client.waiting
  rw [hs, filter_append, filter_cons_of_neg (by simp [hne])]
  exact append_nil _

/-- **The application creates a session.** -/
theorem sessionCreate_kept (h : ∀ id, Kept s id) (serverIp : Bytes) (serverPort : UInt16) (resourceLocation : Bytes)
    (id : Nat) : Kept (s.sessionCreate serverIp serverPort resourceLocation) id := by
  rcases eq_or_ne id s.sessionCount with rfl | hne
  · obtain ⟨hl, hw⟩ := (h s.sessionCount).fresh (Nat.le_refl _)
    have hc : (s.sessionCreate serverIp serverPort resourceLocation).line s.sessionCount = { session :=
        { serverIp := serverIp, serverPort := serverPort, resourceLocation := resourceLocation } } := by
      have hco : s.connection s.sessionCount = {} := congrArg ClientLine.connection hl
      have hsn : s.seen s.sessionCount = [] := congrArg ClientLine.seen hl
      have hsl : (s.sessionCreate serverIp serverPort resourceLocation).session s.sessionCount =
          { serverIp := serverIp, serverPort := serverPort, resourceLocation := resourceLocation } :=
        Function.update_self ..
      show (⟨(s.sessionCreate serverIp serverPort resourceLocation).session s.sessionCount,
        s.connection s.sessionCount, s.seen s.sessionCount⟩ : ClientLine) = _
      rw [hsl, hco, hsn]
    have hs := congrArg ClientLine.session hc
    have hw' : (s.sessionCreate serverIp serverPort resourceLocation).waiting s.sessionCount = [] := hw
    rw [line_session] at hs
    refine ⟨?_, ?_, ?_, ?_, ?_, fun hn => absurd hn (Nat.not_le.2 (Nat.lt_succ_self _))⟩
    · unfold Client.signalled
      rw [hc, hw']
      exact coherent_created _ _ _ _
    · rw [hs]
      exact ⟨fun _ => rfl, fun hn => absurd rfl hn, fun hn => (by cases hn)⟩
    · rw [hs, hw']
      exact Stage.asking rfl fun _ hm => absurd hm not_mem_nil
    · rw [hc]
      exact List.Pairwise.nil
    · rw [hc]
      exact fun _ hm => absurd hm not_mem_nil
  · refine (h id).congr ?_ rfl (Nat.le_refl _) (Nat.le_succ _)
    have ho : (s.sessionCreate serverIp serverPort resourceLocation).session id = s.session id :=
      Function.update_of_ne hne ..
    show (⟨(s.sessionCreate serverIp serverPort resourceLocation).session id, s.connection id, s.seen id⟩ :
      ClientLine) = _
    rw [ho]
    rfl

theorem sessionRequest_kept (h : ∀ id, Kept s id) {message : RtspMessage} (hid : id < s.sessionCount)
    (ho : (s.session id).closing = false) (hp : message.proper) (other : Nat) :
    Kept (s.sessionRequest id message) other := by
  have hs : (s.sessionRequest id message).signals = s.signals ++ [.send id ⟨some s.handed, message⟩] := rfl
  have ha : (ClientEvent.handed id s.handed).about = id := rfl
  rcases eq_or_ne other id with rfl | hne
  · have hl : (s.sessionRequest other message).line other = (s.line other).see (.handed other s.handed) :=
      line_see { s with
        signals := s.signals ++ [ClientSignal.send other ⟨some s.handed, message⟩], handed := s.handed + 1 } ha
    have hss : (s.sessionRequest other message).session other = s.session other := rfl
    have hw : _ = s.waiting other ++ [_] := waiting_self hs rfl
    refine ⟨?_, ?_, ?_, ?_, ?_, fun hcn => absurd hid (Nat.not_lt.2 hcn)⟩
    · unfold Client.signalled
      rw [hl, hw, filterMap_append]
      exact (h other).coherent.hand s.handed
    · rw [hss]
      exact (h other).rests
    · rw [hss, hw]
      have ht := (h other).stage
      generalize s.waiting other = signals at ht ⊢
      cases ht with
      | asking hc hsn =>
        refine Stage.asking hc fun signal hm => ?_
        rcases mem_append.1 hm with hm | hm
        · exact hsn signal hm
        · rw [mem_singleton.1 hm]
          exact hp
      | leaving hc => cases hc.symm.trans ho
      | ending hc => cases hc.symm.trans ho
    · rw [hl, handed_see]
      refine pairwise_append.2 ⟨(h other).distinct, pairwise_singleton _ _,
        fun number hn last hls => ?_⟩
      rw [mem_singleton.1 hls]
      exact (h other).bound number hn
    · rw [hl, handed_see]
      intro number hn
      rcases mem_append.1 hn with hn | hn
      · exact Nat.lt_succ_of_lt ((h other).bound number hn)
      · rw [mem_singleton.1 hn]
        exact Nat.lt_succ_self _
  · refine (h other).congr ?_ ?_ (Nat.le_succ _) (Nat.le_refl _)
    · exact line_see_ne { s with
        signals := s.signals ++ [ClientSignal.send id ⟨some s.handed, message⟩], handed := s.handed + 1 } hne.symm
    · exact waiting_ne hs hne.symm

/-- **The application terminates a session.** -/
theorem sessionTerminate_kept (h : ∀ id, Kept s id) (hid : id < s.sessionCount)
    (ho : (s.session id).closing = false) (other : Nat) : Kept (s.sessionTerminate id) other := by
  have hs : (s.sessionTerminate id).signals = s.signals ++ [.terminate id] := rfl
  have ha : (ClientEvent.terminated id).about = id := rfl
  rcases eq_or_ne other id with rfl | hne
  · have hl : (s.sessionTerminate other).line other =
        ((s.line other).modifySession ({ · with closing := true })).see (.terminated other) := by
      unfold Client.sessionTerminate
      rw [line_see _ ha, line_modifySession]
      rfl
    have hss : (s.sessionTerminate other).session other = { s.session other with closing := true } :=
      Function.update_self ..
    have hw : _ = s.waiting other ++ [_] := waiting_self hs rfl
    have hh : ((s.sessionTerminate other).line other).handed = (s.line other).handed := by
      rw [hl, handed_see]
      exact append_nil _
    refine ⟨?_, ?_, ?_, ?_, ?_, fun hn => absurd hid (Nat.not_lt.2 hn)⟩
    · unfold Client.signalled
      rw [hl, hw, filterMap_append]
      show Coherent other [] [] (s.signalled other ++ []) _
      rw [append_nil]
      exact (h other).coherent.signal
    · rw [hss]
      exact ⟨(h other).rests.pending, (h other).rests.ending, (h other).rests.gone⟩
    · rw [hss, hw]
      have ht := (h other).stage
      have hst := (h other).coherent.staying ho
      have hth : (s.session other).destroyed = false := by
        cases hd : (s.session other).destroyed with
        | false => rfl
        | true => cases ((h other).coherent.gone hd).2.symm.trans ho
      generalize s.waiting other = signals at ht ⊢
      cases ht with
      | asking _ hsn => exact Stage.leaving rfl hst hth hsn
      | leaving hc => cases hc.symm.trans ho
      | ending hc => cases hc.symm.trans ho
    · rw [hh]
      exact (h other).distinct
    · rw [hh]
      exact (h other).bound
  · refine (h other).congr ?_ ?_ (Nat.le_refl _) (Nat.le_refl _)
    · unfold Client.sessionTerminate
      rw [line_see_ne _ (show (ClientEvent.terminated id).about ≠ other from hne.symm)]
      exact (acts_modifySession _ id _).line other hne
    · exact waiting_ne hs hne.symm

/-! ## Steps -/

variable {session : ClientSession}

theorem Stage.head (h : Stage id session (signal :: signals)) (hg : signal.session = id)
    (hso : session.closing = false → session.termState = .none ∧ session.destroyed = false) :
    session.termState = .none ∧ session.destroyed = false ∧
      (signal.sends ∧ (∀ session', Level session' session → Stage id session' signals) ∨
        signal = .terminate id ∧ signals = [] ∧ session.closing) := by
  generalize ha : signal :: signals = all at h
  cases h with
  | asking hc hs =>
    subst ha
    obtain ⟨ht, hh⟩ := hso hc
    refine ⟨ht, hh, Or.inl ⟨hs signal mem_cons_self, fun session' hl => ?_⟩⟩
    exact Stage.asking (hl.closing.trans hc) fun other hm => hs other (mem_cons_of_mem _ hm)
  | @leaving sends hc ht hh hs =>
    refine ⟨ht, hh, ?_⟩
    cases sends with
    | nil =>
      obtain ⟨rfl, rfl⟩ := List.cons.inj ha
      exact Or.inr ⟨rfl, rfl, hc⟩
    | cons first sends =>
      obtain ⟨rfl, rfl⟩ := List.cons.inj ha
      refine Or.inl ⟨hs signal mem_cons_self, fun session' hl => ?_⟩
      exact Stage.leaving (hl.closing.trans hc) (hl.termState.trans ht)
        (hl.destroyed.trans hh) fun other hm => hs other (mem_cons_of_mem _ hm)
  | ending => cases ha

/-- **A signal is processed.** -/
theorem signalProcess_kept (h : ∀ id, Kept s id) (hg : s.signals = signal :: signals) (other : Nat) :
    Kept ((s.taken signals).signalProcess A signal) other := by
  obtain ⟨id, hid⟩ : ∃ id, signal.session = id := ⟨_, rfl⟩
  have hw : s.waiting id = signal :: (s.taken signals).waiting id := by
    unfold Client.waiting
    rw [hg, filter_cons_of_pos (by simp [hid])]
    rfl
  have hlt : id < s.sessionCount := by
    by_contra hc
    have hn := ((h id).fresh (Nat.not_lt.1 hc)).2
    rw [hw] at hn
    cases hn
  have hot : ∀ other, other ≠ id → Kept (s.taken signals) other := by
    intro other hne
    refine (h other).congr rfl ?_ (Nat.le_refl _) (Nat.le_refl _)
    unfold Client.waiting
    rw [hg, filter_cons_of_neg (by rw [hid]; simpa using hne.symm)]
    rfl
  have hs : Coherent id [] [] (signal.number.toList ++ (s.taken signals).signalled id)
      ((s.taken signals).line id) := by
    have hb := (h id).coherent
    unfold Client.signalled at hb
    rw [hw, filterMap_cons] at hb
    show Coherent id [] [] _ (s.line id)
    cases hnm : signal.number <;> rw [hnm] at hb <;> exact hb
  have hst := (h id).stage
  rw [hw] at hst
  obtain ⟨hsta, ht, hcs⟩ := hst.head hid fun ho => by
    refine ⟨(h id).coherent.staying ho, ?_⟩
    cases hd : (s.session id).destroyed with
    | false => rfl
    | true => cases ((h id).coherent.gone hd).2.symm.trans ho
  -- What is done for the session leaves the others.
  have hk : Acts id (s.taken signals) ((s.taken signals).signalProcess A signal) →
      Coherent id [] [] ((s.taken signals).signalled id) (((s.taken signals).signalProcess A signal).line id) →
      Rests (((s.taken signals).signalProcess A signal).session id) →
      Stage id (((s.taken signals).signalProcess A signal).session id) ((s.taken signals).waiting id) →
      Kept ((s.taken signals).signalProcess A signal) other := by
    intro ha hs hr hst
    rcases eq_or_ne other id with rfl | hne
    · refine ⟨?_, hr, ?_, ?_, ?_, fun hc => ?_⟩
      · have hm : ((s.taken signals).signalProcess A signal).waiting other = (s.taken signals).waiting other := by
          unfold Client.waiting
          rw [ha.signals]
        unfold Client.signalled
        rw [hm]
        exact hs
      · have hm : ((s.taken signals).signalProcess A signal).waiting other = (s.taken signals).waiting other := by
          unfold Client.waiting
          rw [ha.signals]
        rw [hm]
        exact hst
      · rw [ha.hands]
        exact (h other).distinct
      · rw [ha.hands, ha.handed]
        exact (h other).bound
      · rw [ha.sessionCount] at hc
        exact absurd hlt (Nat.not_lt.2 hc)
    · exact (hot other hne).other ha hne
  have ht' : ((s.taken signals).session signal.session).destroyed ≠ true := by
    rw [hid]
    show (s.session id).destroyed ≠ true
    simp [ht]
  unfold Client.signalProcess at hk ⊢
  rw [if_neg ht'] at hk ⊢
  rcases hcs with ⟨hse, hx⟩ | ⟨rfl, hre, hl⟩
  · cases signal with
    | terminate => cases hse
    | send id' request =>
      obtain rfl : id' = id := hid
      have htr : Tears ((s.taken signals).line id') request [] [] := by
        intro hc
        cases hsta.symm.trans hc
      obtain ⟨ha, hs', hv, hp⟩ := messageProcess_coherent (A := A) hs ht
        (h id').rests.pending hse htr
      refine hk ha hs' ⟨hp, fun hc => ?_, fun hc => ?_⟩ (hx _ hv)
      · exact absurd (hv.termState.trans hsta) hc
      · cases (hv.destroyed.trans ht).symm.trans hc
  · obtain ⟨ha, hs', hr, hl', he⟩ := terminateProcess_coherent (A := A) hs (h id).rests ht
      hl
    refine hk ha hs' hr ?_
    have hn : (s.taken signals).waiting id = [] := hre
    rw [hn]
    exact Stage.ending hl' he

theorem process_kept (h : ∀ id, Kept s id) (other : Nat) : Kept (s.process A) other := by
  unfold Client.process
  cases hs : s.signals with
  | nil => exact h other
  | cons signal signals =>
    exact signalProcess_kept h hs other

/-- **The condition**: the peer does not disconnect while a request is in progress on the connection. -/
def Client.calm (s : Client) : ClientInput → Bool
  | .disconnect c => (s.connection c).inprogressRequestQueue.isEmpty
  | _ => true

theorem Kept.lt_of_sock (h : Kept s c) (hs : (s.connection c).sock) : c < s.sessionCount := by
  refine h.created fun hl => ?_
  have hc : s.connection c = {} := congrArg ClientLine.connection hl
  rw [hc] at hs
  cases hs

/-- **A step keeps the sessions.** -/
theorem step_kept (h : ∀ id, Kept s id) {input : ClientInput} (he : s.enabled input)
    (hc : s.calm input) (id : Nat) : Kept (s.step A input).1 id := by
  cases input with
  | create serverIp serverPort resourceLocation => exact sessionCreate_kept h _ _ _ id
  | request session message =>
    obtain ⟨⟨hid, ho⟩, hp⟩ : (session < s.sessionCount ∧ (s.session session).closing = false) ∧
        message.proper := by
      simpa [Client.enabled] using he
    exact sessionRequest_kept h hid ho hp id
  | terminate session =>
    obtain ⟨hid, ho⟩ : session < s.sessionCount ∧ (s.session session).closing = false := by
      simpa [Client.enabled] using he
    exact sessionTerminate_kept h hid ho id
  | process => exact process_kept h id
  | receive c messages =>
    obtain ⟨-, hh⟩ := (h c).coherent.opened he
    exact kept_of_handled h ((h c).lt_of_sock he) (receive_handled messages (h c).coherent (h c).rests hh) id
  | timeout session =>
    have ht : (s.session session).requestTimer := he
    have hid : session < s.sessionCount := by
      refine (h session).created fun hl => ?_
      have hs : s.session session = {} := congrArg ClientLine.session hl
      rw [hs] at ht
      cases ht
    exact kept_of_handled h hid (timerProc_handled (h session).coherent (h session).rests ht) id
  | disconnect c =>
    have hq : (s.connection c).inprogressRequestQueue = [] := isEmpty_iff.1 hc
    exact kept_of_handled h ((h c).lt_of_sock he)
      (onDisconnect_handled (h c).coherent (h c).rests he hq) id

theorem kept_start (id : Nat) : Kept {} id where
  coherent := coherent_created id [] 0 []
  rests := ⟨fun _ => rfl, fun hc => absurd rfl hc, fun hc => (by cases hc)⟩
  stage := Stage.asking rfl fun _ hm => absurd hm not_mem_nil
  distinct := List.Pairwise.nil
  bound _ hm := absurd hm not_mem_nil
  fresh _ := ⟨rfl, rfl⟩

theorem kept_run {inputs : List ClientInput}
    (h : EachStep (Client.step A) (fun s input => s.enabled input = true ∧ s.calm input) {} inputs) (id : Nat) :
    Kept (run (Client.step A) {} inputs).1 id :=
  run_invariant (fun s => ∀ id, Kept s id) _ (fun _ _ hs ht => step_kept hs ht.1 ht.2) _ _ kept_start h id

/-! ## The requests -/

/-- The requests of a session that wait: the one that is not answered yet, those that wait behind it, and those that are
signalled. -/
def Client.unanswered (s : Client) (id : Nat) : List Nat :=
  numbers ((s.line id).outstanding.toList ++ (s.session id).pendingRequestQueue) ++ s.signalled id

/-- **The requests of a session are responded to.** Those handed over before a termination were responded to once, or
wait, in order; a session has an active request just when it was sent and waits; and a response has the CSeq of its
request. -/
structure Responsive (s : Client) (id : Nat) : Prop where
  active : (s.session id).activeRequest.isSome ↔
    ∃ c, (s.session id).connection = some c ∧ id ∈ (s.connection c).inprogressRequestQueue
  pending : (s.session id).activeRequest = none → (s.session id).pendingRequestQueue = []
  outstanding : (s.line id).outstanding = (s.session id).activeRequest
  ordered : (s.session id).closing = false → (s.line id).handed = (s.line id).answered ++ s.unanswered id
  once : (s.session id).closing = false → ∀ number ∈ (s.line id).handed,
    (s.line id).answered.count number = if number ∈ s.unanswered id then 0 else 1
  sent : (s.session id).closing = false → (s.line id).pushed.Sublist (s.line id).handed
  carried : ∀ session request response, .responded session request response ∈ s.seen id →
    headerPropertyCheck request.message.header .cseq → response.header.cseq = request.message.header.cseq

theorem count_of_nodup {all done rest : List Nat} (hn : all.Nodup) (ha : all = done ++ rest) {number : Nat}
    (hm : number ∈ all) : done.count number = if number ∈ rest then 0 else 1 := by
  subst ha
  obtain ⟨hd, -, hp⟩ := nodup_append.1 hn
  split_ifs with hr
  · exact count_eq_zero.2 fun hm' => hp number hm' number hr rfl
  · exact count_eq_one_of_mem hd ((mem_append.1 hm).resolve_right hr)

theorem Kept.responsive (h : Kept s id) : Responsive s id := by
  have hr : (s.session id).closing = false → (s.line id).handed = (s.line id).answered ++ s.unanswered id := by
    intro ho
    rw [h.coherent.handed ho, append_assoc]
    unfold Client.unanswered ClientLine.requests
    rw [h.coherent.outstanding, append_nil]
    rfl
  have hn : (s.line id).handed.Nodup := h.distinct.imp Nat.ne_of_lt
  refine ⟨?_, h.rests.pending, h.coherent.outstanding, hr, fun ho number hm => ?_, fun ho => ?_,
    h.coherent.carried⟩
  · constructor
    · intro ha
      refine ⟨id, h.coherent.connected ha, ?_⟩
      obtain ⟨request, hs⟩ := Option.isSome_iff_exists.1 ha
      have hq := h.coherent.queue
      rw [line_session, hs] at hq
      rw [show (s.connection id).inprogressRequestQueue = [id] from hq]
      exact mem_singleton_self id
    · rintro ⟨c, hc, hm⟩
      obtain rfl := h.coherent.owned c hc
      have hq := h.coherent.queue
      cases ha : (s.session c).activeRequest with
      | some request => rfl
      | none =>
        rw [line_session, ha] at hq
        rw [show (s.connection c).inprogressRequestQueue = [] from hq] at hm
        cases hm
  · exact count_of_nodup hn (hr ho) hm
  · rw [h.coherent.handed ho, append_assoc]
    refine (h.coherent.sent ho).trans ?_
    unfold ClientLine.requests
    rw [append_nil, numbers_append, append_assoc]
    exact append_sublist_append_left _ |>.2 (sublist_append_left _ _)

/-- **The requests.** In every run of the client with an application that keeps its contract, where no peer disconnects
while a request is in progress, the requests of every session are responded to. -/
theorem client_responsive (A : ClientProfile) (inputs : List ClientInput)
    (h : EachStep (Client.step A) (fun s input => s.enabled input = true ∧ s.calm input) {} inputs) (id : Nat) :
    Responsive (run (Client.step A) {} inputs).1 id :=
  (kept_run h id).responsive

def setupRequest : RtspMessage := messageCreate .none (.request [] methodSetup [] (some (ascii "synth")) .v1)

def serverResponse (cseq : UInt64) : RtspMessage :=
  ((messageCreate .none (.response .v1 Status.ok.code (ascii "OK"))).setCseq cseq).setSession (ascii "a1")

/-- A resource is set up while another request waits, which times out; then the peer disconnects. -/
def quietSession : List ClientInput :=
  [.create (ascii "10.0.0.1") 554 (ascii "media"), .request 0 setupRequest, .process, .request 0 setupRequest, .process,
    .receive 0 [serverResponse 1], .timeout 0, .disconnect 0]

theorem responsive_quietSession : Responsive (run (Client.step { requestTimeout := 5000 }) {} quietSession).1 0 :=
  client_responsive { requestTimeout := 5000 } quietSession (by decide) 0

def lostRequest : List ClientInput :=
  [.create (ascii "10.0.0.1") 554 (ascii "media"), .request 0 setupRequest, .process, .disconnect 0]

/-- **A request that is in progress when the peer disconnects is not responded to**, and stays the active one of a
session that is in no queue. -/
theorem not_responsive_disconnected :
    EachStep (Client.step {}) (fun s input => s.enabled input = true) {} lostRequest ∧
      ((run (Client.step {}) {} lostRequest).1.line 0).handed = [0] ∧
      ((run (Client.step {}) {} lostRequest).1.line 0).answered = [] ∧
      (run (Client.step {}) {} lostRequest).1.unanswered 0 = [] ∧
      ¬ Responsive (run (Client.step {}) {} lostRequest).1 0 := by
  refine ⟨by decide, by decide, by decide, by decide, fun h => ?_⟩
  have honce := h.once (by decide) 0 (by decide)
  exact absurd honce (by decide)

end UniMrcp.UniRtsp
