import UniMrcp.MrcpClient.Session.Reads

/-!
# Every request of the application is answered once

A session responds to the requests of the application in order, one by one, as long as what a request starts is
completed.
-/

namespace UniMrcp.MrcpClient

open Apt Mrcp Lib List Option Bool Session

variable {P : Profile} {W : Environment} {s : Session} {request : AppMessage}

/-- **What a request needs**, so that something is completed that it has started, or it is responded to at once. -/
def Session.proceeds (W : Environment) (s : Session) : AppMessage → Bool
  | .sessionUpdate | .channelRemove _ => s.offer.isSome && W.accepts .offer
  | .channelAdd key => W.accepts .offer && ((s.channelFind key).isNone || s.offer.isSome)
  | .sessionTerminate => W.accepts .terminate
  | .resourceDiscover => true
  | .control key _ => s.id == [] || W.accepts (.control key)

def Session.registers (P : Profile) (W : Environment) (s : Session) : Bool :=
  agentsSelected P W && s.status != .failure && W.createClientSession

/-- A request that is cancelled leaves the queue as it is. After the termination nothing is expected. -/
def Session.dispatches (P : Profile) (W : Environment) (s : Session) (message : AppMessage) : Bool :=
  if s.state = .terminating then true
  else if s.disconnected && !message.isSessionTerminate then s.requestQueue.isEmpty
  else if s.registered then s.proceeds W message
  else message.isSessionTerminate || !s.registers P W || s.proceeds W message

/-- The signaling agent takes the offer that follows, and a termination has nothing behind it and is not ended by the
topology. -/
def Session.completesLast (W : Environment) (s : Session) (subrequest : Subrequest) : Bool :=
  match s.state with
  | .generatingOffer => W.accepts .offer
  | .terminating => s.requestQueue.isEmpty && subrequest != .destroyTopology
  | _ => true

/-- An answer has no more media than the session has channels, and if it is not accepted, nothing is counted since a
discovery that failed. Several discoveries are answered with descriptors. -/
def Session.completes (W : Environment) (s : Session) (result : Result) : Subrequest → Bool
  | .offer =>
    result.answer.all fun answer =>
      answer.descriptor.controlMediaArr.length ≤ s.channels.length &&
        answer.descriptor.audioMediaArr.length ≤ s.terminations.length &&
        (answer.accepted || s.subrequestCount == 0)
  | .discover name => result.descriptor.isSome || s.outstanding == [.discover name]
  | subrequest => s.outstanding != [subrequest] || s.completesLast W subrequest

/-- **The condition on a step** under which a session answers the requests. -/
def Session.answerable (P : Profile) (s : Session) : Environment × Input → Bool
  | (W, .request message) => s.activeRequest.isSome || s.dispatches P W message
  | (W, .dispatch) => s.activeRequest.all (s.dispatches P W)
  | (W, .completed subrequest result) => s.completes W result subrequest
  | (_, .receive _ message) =>
    message.messageType != .response || P.mrcpVersion != .v1 || (s.channelFindByName message.resourceName).isSome
  | (_, .disconnect) => true

/-! ## Dispatch -/

theorem requestProcess_sound (h : Serving s request) (hr : s.registered)
    (hp : s.proceeds W request) : Sound P (s.requestProcess P W request) := by
  have hs : Serving { s with status := .success } request :=
    ⟨⟨h.told, h.active, h.dispatching, h.registered, h.slots⟩, h.outstanding, h.state⟩
  unfold requestProcess
  cases request with
  | sessionUpdate =>
    obtain ⟨ho, ha⟩ := Bool.and_eq_true_iff.1 hp
    have hu : Session.sessionUpdate W { s with status := .success } =
        offerSend W { s with status := .success } := by
      unfold Session.sessionUpdate
      rw [← not_isSome, show ({ s with status := .success } : Session).offer.isSome = true from ho,
        Bool.not_true, if_neg Bool.false_ne_true]
    dsimp only
    rw [hu]
    exact offerSend_sound hs hr ho ha
  | channelRemove key =>
    obtain ⟨ho, ha⟩ := Bool.and_eq_true_iff.1 hp
    exact channelModify_sound hs hr ho ha key false
  | channelAdd key =>
    obtain ⟨ha, hfo⟩ := Bool.and_eq_true_iff.1 hp
    refine channelAdd_sound hs hr (fun hf => ?_) ha
    rcases Bool.or_eq_true_iff.1 hfo with hn | ho
    · have hf : (s.channelFind key).isSome := hf
      rw [← not_isSome, hf] at hn
      cases hn
    · exact ho
  | sessionTerminate => exact sessionTerminate_sound hs hr hp
  | resourceDiscover => exact resourceDiscover_sound hs hr
  | control key message =>
    refine messageSend_sound hs hr ?_
    rcases Bool.or_eq_true_iff.1 hp with hid | ha
    · exact Or.inl (by simpa using hid)
    · exact Or.inr ha

/-- **A request is dispatched.** -/
theorem requestDispatch_sound (h : Serving s request) (hd : s.dispatches P W request) :
    Sound P (s.requestDispatch P W request) := by
  have hs : ∀ status, Serving { s with status := status } request := fun status =>
    ⟨⟨h.told, h.active, h.dispatching, h.registered, h.slots⟩, h.outstanding, h.state⟩
  have hf : ∀ status, s.requestQueue = [] → Sound P ({ s with status := status } : Session).failureMessageRaise :=
    fun status hq => .resting ((hs status).toBusy.rests (failureMessageRaise_responded (hs status).toBusy
      hq) h.outstanding h.state)
  unfold dispatches at hd
  unfold requestDispatch
  rw [if_neg h.state] at hd ⊢
  split_ifs at hd ⊢ with hn hr htr
  · exact hf .cancel (isEmpty_iff.1 hd)
  · exact requestProcess_sound h hr hd
  · have hq := h.registered (not_eq_true _ ▸ hr)
    exact .resting ((hs .success).toBusy.rests (sigResponseRaise_responded (hs .success).toBusy fun _ => hq)
      h.outstanding h.state)
  · have hq := h.registered (not_eq_true _ ▸ hr)
    unfold register
    cases ha : agentsSelected P W with
    | false => exact hf .failure hq
    | true =>
      simp only [↓reduceIte]
      split_ifs with hfa hc
      · exact hf s.status hq
      · exact hf .failure hq
      · -- The session is registered, and everything that the request needs is as it was.
        have hg : s.registers P W := by
          simp only [not_eq_true'] at hc
          simp [registers, ha, hfa, hc]
        have hp : s.proceeds W request := by
          simpa [htr, hg] using hd
        have hqt : Serving ({ s with registered := true }.see .sessionAdd) request := by
          refine ⟨⟨?_, h.active, h.dispatching, fun _ => hq, h.slots⟩, h.outstanding, h.state⟩
          have ht := (see_quiet s .sessionAdd rfl).told
          show submitted (s.see .sessionAdd).log = answered (s.see .sessionAdd).log ++ request :: s.requestQueue
          rw [ht.1, ht.2]
          exact h.told
        exact requestProcess_sound hqt rfl (by cases request <;> exact hp)

/-! ## Completion -/

theorem sessionTerminateRaise_sound (hb : Busy s .sessionTerminate) (ho : s.outstanding = [])
    (hq : s.requestQueue = []) (hs : s.state = .terminating) (status : SigStatusCode) :
    Sound P (s.sessionTerminateRaise status) := by
  obtain ⟨destroyed, heq, -, -⟩ := controlDestroy_foldl s s.channels.length
  have hl := controlDestroy_length s (List.range s.channels.length)
  unfold sessionTerminateRaise
  generalize (List.range s.channels.length).foldl controlDestroy s = t at heq hl
  have ht : submitted (t.log ++ [.sessionRemove]) = submitted s.log ∧
      answered (t.log ++ [.sessionRemove]) = answered s.log := by
    rw [heq]
    simp [submitted, answered, filterMap_append, Event.submits, Event.answers]
  have he : ∀ u : Session, u.log = t.log ++ [.sessionRemove] → u.activeRequest = t.activeRequest →
      u.requestQueue = t.requestQueue → u.dispatching = t.dispatching → u.registered = t.registered →
      u.terminations = t.terminations → u.channels = t.channels → u.outstanding = t.outstanding → u.state = t.state →
      Sound P (u.sigResponseRaise false) := by
    intro u hg ha h hd hrg hr hc hut hus
    have hq' : u.requestQueue = [] := by rw [h, heq, hq]
    have hu : Busy u .sessionTerminate := by
      refine ⟨?_, ?_, ?_, fun _ => hq', ?_⟩
      · rw [hg, ht.1, ht.2, hq', ← hq]
        exact hb.told
      · rw [ha, heq]
        exact hb.active
      · rw [hd, heq]
        exact hb.dispatching
      · rw [hr, hc, hl, heq]
        exact hb.slots
    refine .ended (hu.ended (sigResponseRaise_responded hu fun _ => hq') ?_ hq' ?_)
    · rw [hut, heq]
      exact ho
    · rw [hus, heq]
      exact hs
  split_ifs
  · exact he _ rfl rfl rfl rfl rfl rfl rfl rfl rfl
  · exact he _ rfl rfl rfl rfl rfl rfl rfl rfl rfl

variable {result : Result} {subrequest : Subrequest}

theorem proceed_sound (hb : Busy s request) (hg : s.registered) (ho : s.outstanding = [])
    (hf : subrequest.fits P.mrcpVersion s.state) (h : s.state = .generatingOffer → s.offer.isSome)
    (htr : s.state = .terminating → request = .sessionTerminate)
    (ha : s.state = .generatingOffer → W.accepts .offer)
    (hq : s.state = .terminating → s.requestQueue = [] ∧ subrequest ≠ .destroyTopology) :
    Sound P (proceed W result subrequest s) := by
  have hr : ∀ t : Session, Busy t request → t.outstanding = [] → t.state ≠ .terminating →
      Sound P (t.sigResponseRaise true) := fun t ht htt hts =>
    .resting (ht.rests (sigResponseRaise_responded ht nofun) htt hts)
  cases hs : s.state with
  | none =>
    rw [hs] at hf
    cases subrequest <;> exact hf.elim
  | generatingOffer =>
    have hsr : Serving s request := ⟨hb, ho, by rw [hs]; nofun⟩
    have hn : Sound P (s.offerSend W) := offerSend_sound hsr hg (h hs) (ha hs)
    rw [hs] at hf
    cases subrequest with
    | controlAdd | terminationAdd => exact hn
    | _ => exact hf.elim
  | processingAnswer =>
    have hne : s.state ≠ .terminating := by rw [hs]; nofun
    have hd : Sound P (s.mediaProceed W) := by
      unfold mediaProceed
      rw [hs]
      exact hr s hb ho hne
    rw [hs] at hf
    cases subrequest with
    | controlModify i =>
      unfold proceed
      split_ifs
      · exact hr s hb ho hne
      · exact hr { s with status := .failure }
          ⟨hb.told, hb.active, hb.dispatching, hb.registered, hb.slots⟩ ho hne
    | terminationModify | resetAssociations | addAssociation | applyTopology => exact hd
    | _ => exact hf.elim
  | terminating =>
    obtain rfl := htr hs
    obtain ⟨hm, hp⟩ := hq hs
    have he := sessionTerminateRaise_sound (P := P) hb ho hm hs
    rw [hs] at hf
    cases subrequest with
    | controlRemove i => exact he _
    | terminate => exact he _
    | destroyTopology => exact absurd rfl hp
    | terminationSubtract termination =>
      cases termination with
      | rtp i => exact he _
      | channel i => exact .ended (hb.ended (sigResponseRaise_responded hb nofun) ho hm hs)
    | _ => cases hf
  | discovering =>
    have hne : s.state ≠ .terminating := by rw [hs]; nofun
    rw [hs] at hf
    cases subrequest with
    | discover name => exact .resting (hb.rests (discoverRaise_responded hb) ho hne)
    | _ => exact hf.elim

theorem isCounted_of_fits {version : Version} {state : SessionState} (h : subrequest.fits version state) :
    subrequest.isCounted := by
  cases state <;> cases subrequest <;> first | rfl | exact h.elim | cases h

theorem takes_or_failed (hb : Busy s request) (hc : s.completes W result subrequest) :
    s.takes result subrequest ∨
      ∃ name, subrequest = .discover name ∧ result.descriptor = none ∧ s.outstanding = [.discover name] := by
  cases subrequest with
  | discover name =>
    rcases Bool.or_eq_true_iff.1 hc with hs | ho
    · exact Or.inl ⟨by rw [hb.active]; rfl, hs⟩
    · cases hd : result.descriptor with
      | none => exact Or.inr ⟨name, rfl, rfl, by simpa using ho⟩
      | some descriptor => exact Or.inl ⟨by rw [hb.active]; rfl, by rw [hd]; rfl⟩
  | _ => exact Or.inl trivial

variable {name : Option Bytes}

theorem onCompletion_discoverFailed (hb : Busy s request) (hd : result.descriptor = none) :
    (s.complete (.discover name)).onCompletion P W result (.discover name) =
      { s.complete (.discover name) with status := .failure }.sigResponseRaise true := by
  have ha : (s.complete (.discover name)).activeRequest = some request := hb.active
  simp [onCompletion, discoverResponseProcess, hd, ha]

theorem discoverFailed_sound (hb : Busy s request) (ht : s.state ≠ .terminating)
    (hd : result.descriptor = none) (ho : s.outstanding = [.discover name]) :
    Sound P ((s.complete (.discover name)).onCompletion P W result (.discover name)) := by
  have hc := hb.quiet (complete_quiet s (.discover name))
  have hs : Busy { s.complete (.discover name) with status := .failure } request :=
    ⟨hc.told, hc.active, hc.dispatching, hc.registered, hc.slots⟩
  rw [onCompletion_discoverFailed hb hd]
  refine .resting (hs.rests (sigResponseRaise_responded hs nofun) ?_ ht)
  show s.outstanding.erase (.discover name) = []
  rw [ho, erase_cons_head]

theorem counting_completed (hb : Busy s request) (hr : s.registered) (h : Counting P s request)
    (hm : subrequest ∈ s.outstanding) (hcm : s.completes W result subrequest)
    (ht : s.takes result subrequest) : Sound P ((s.complete subrequest).onCompletion P W result subrequest) := by
  have hf := h.fits subrequest hm
  have hc := isCounted_of_fits hf
  have hw : Waits (subrequest :: s.outstanding.erase subrequest) s := h.waits.perm (perm_cons_erase hm)
  rcases eq_or_ne (s.outstanding.erase subrequest) [] with hl | hrs
  · have hsn : s.outstanding = [subrequest] := by
      simpa [hl] using perm_cons_erase hm
    rw [hl] at hw
    obtain ⟨u, hu, hq, ho, -⟩ := hw.completed_last (P := P) (W := W) hc ht
    rw [hu]
    have hn : s.completesLast W subrequest := by
      cases subrequest with
      | discover name =>
        unfold completesLast
        cases hs : s.state <;> rw [hs] at hf <;> first | rfl | cases hf
      | offer | control => cases hc
      | _ => simpa [completes, hsn] using hcm
    unfold completesLast at hn
    refine proceed_sound (hb.quiet hq) (hq.registered.trans hr) (ho.trans hl)
      (hq.state ▸ hf) ?_ ?_ ?_ ?_
    · rw [hq.state, hq.offer]
      exact h.offer
    · rw [hq.state]
      exact h.terminating
    · intro hs
      rw [hq.state] at hs
      simpa [hs] using hn
    · intro hs
      rw [hq.state] at hs
      rw [hq.queue]
      simpa [hs] using hn
  · obtain ⟨hw', hq, ho⟩ := hw.completed_rest (P := P) (W := W) hrs hc ht
    generalize (s.complete subrequest).onCompletion P W result subrequest = t at hw' hq ho
    refine .counting (hb.quiet hq) (hq.registered.trans hr) ⟨ho ▸ hw', ho ▸ hrs, ?_, ?_, ?_⟩
    · intro other hot
      rw [hq.state]
      exact h.fits other (mem_of_mem_erase (ho ▸ hot))
    · rw [hq.state, hq.offer]
      exact h.offer
    · rw [hq.state]
      exact h.terminating

/-! ## Steps -/

theorem Sound.unanswered (h : Sound P s) (more : List Event) (hsb : submitted more = [])
    (ha : answered more = []) (disconnected : Bool) :
    Sound P { s with log := s.log ++ more, disconnected := disconnected } := by
  have ht : submitted (s.log ++ more) = submitted s.log ∧ answered (s.log ++ more) = answered s.log := by
    constructor
    · rw [submitted, filterMap_append]
      exact (congrArg _ hsb).trans (append_nil _)
    · rw [answered, filterMap_append]
      exact (congrArg _ ha).trans (append_nil _)
  have hs : ∀ request, Busy s request →
      Busy { s with log := s.log ++ more, disconnected := disconnected } request := fun request hb =>
    ⟨by rw [ht.1, ht.2]; exact hb.told, hb.active, hb.dispatching, hb.registered, hb.slots⟩
  cases h with
  | resting rests =>
    refine .resting ⟨?_, rests.dispatching, rests.idle, rests.registered, rests.slots, rests.outstanding,
      rests.state⟩
    rw [ht.1, ht.2]
    exact rests.told
  | offering busy registered outstanding offer state =>
    exact .offering (hs _ busy) registered outstanding offer state
  | counting busy registered counting =>
    exact .counting (hs _ busy) registered ⟨⟨counting.waits.count, counting.waits.nodup, counting.waits.waiting⟩,
      counting.outstanding, counting.fits, counting.offer, counting.terminating⟩
  | controlling busy registered outstanding state =>
    exact .controlling (hs _ busy) registered outstanding state
  | ended ended =>
    obtain ⟨event, hm, he⟩ := ended.terminated
    refine .ended ⟨?_, ?_, ⟨event, mem_append_left _ hm, he⟩, ended.idle, ended.dispatching,
      ended.outstanding, ended.state⟩
    · rw [due_append ended.terminated, ht.2]
      exact ended.due
    · rw [ht.1, ht.2]
      exact ended.ordered

theorem Sound.push (h : Sound P s) (ha : s.activeRequest.isSome) (hd : s.dispatching = false)
    (message : AppMessage) :
    Sound P { s with log := s.log ++ [.request message], requestQueue := s.requestQueue ++ [message] } := by
  have hsb : submitted (s.log ++ [.request message]) = submitted s.log ++ [message] := filterMap_append
  have hn : answered (s.log ++ [.request message]) = answered s.log := by
    rw [answered, filterMap_append]
    exact append_nil _
  have hs : ∀ request, Busy s request → s.registered →
      Busy { s with log := s.log ++ [.request message], requestQueue := s.requestQueue ++ [message] } request := by
    intro request hb hr
    refine ⟨?_, hb.active, hb.dispatching, fun ht => (Bool.eq_false_iff.1 ht hr).elim, hb.slots⟩
    rw [hsb, hn, hb.told]
    simp
  cases h with
  | resting rests =>
    rw [rests.dispatching, ha] at hd
    cases hd
  | offering busy registered outstanding offer state =>
    exact .offering (hs _ busy registered) registered outstanding offer state
  | counting busy registered counting =>
    exact .counting (hs _ busy registered) registered ⟨⟨counting.waits.count, counting.waits.nodup,
      counting.waits.waiting⟩, counting.outstanding, counting.fits, counting.offer, counting.terminating⟩
  | controlling busy registered outstanding state =>
    exact .controlling (hs _ busy registered) registered outstanding state
  | ended ended =>
    obtain ⟨event, hm, he⟩ := ended.terminated
    refine .ended ⟨?_, ?_, ⟨event, mem_append_left _ hm, he⟩, ?_, ended.dispatching, ended.outstanding,
      ended.state⟩
    · rw [due_append ended.terminated, hn]
      exact ended.due
    · rw [hsb, hn]
      exact ended.ordered.trans (prefix_append _ _)
    · intro hnn
      have hnn : s.activeRequest = none := hnn
      rw [hnn] at ha
      cases ha

/-- **A request arrives.** -/
theorem appMessageProcess_sound (h : Sound P s) {message : AppMessage} (hd : s.dispatching = false)
    (han : s.activeRequest.isSome ∨ s.dispatches P W message) :
    Sound P (s.appMessageProcess P W message) := by
  unfold appMessageProcess
  cases ha : s.activeRequest with
  | some active =>
    have hs : (s.see (.request message)).activeRequest.isSome := by
      show s.activeRequest.isSome = true
      rw [ha]
      rfl
    rw [if_pos hs]
    exact h.push (by rw [ha]; rfl) hd message
  | none =>
    have hn : (s.see (.request message)).activeRequest.isSome = false := by
      show s.activeRequest.isSome = false
      rw [ha]
      rfl
    rw [if_neg (by rw [hn]; exact Bool.false_ne_true)]
    have hds := han.resolve_left (by rw [ha]; exact Bool.false_ne_true)
    cases h with
    | resting rests =>
      have hq := rests.idle ha
      refine requestDispatch_sound ⟨⟨?_, rfl, hd, fun _ => hq, rests.slots⟩, rests.outstanding,
        rests.state⟩ ?_
      · show submitted (s.log ++ [.request message]) = answered (s.log ++ [.request message]) ++ message :: s.requestQueue
        rw [submitted, answered, filterMap_append, filterMap_append]
        refine (congrArg (· ++ [message]) rests.told).trans ?_
        rw [ha, hq]
        simp [answered, Event.answers]
      · cases message <;> exact hds
    | ended ended =>
      obtain ⟨event, hm, he⟩ := ended.terminated
      unfold requestDispatch
      rw [if_pos (show (s.see (.request message)).state = .terminating from ended.state)]
      refine .ended ⟨?_, ?_, ⟨event, mem_append_left _ hm, he⟩, fun hn => absurd hn (some_ne_none _),
        ended.dispatching, ended.outstanding, ended.state⟩
      · show due (s.log ++ [.request message]) <+: answered (s.log ++ [.request message])
        rw [due_append ended.terminated, answered, filterMap_append]
        exact ended.due.trans (prefix_append _ _)
      · show answered (s.log ++ [.request message]) <+: submitted (s.log ++ [.request message])
        rw [submitted, answered, filterMap_append, filterMap_append]
        exact (append_nil _).symm ▸ ended.ordered.trans (prefix_append _ _)
    | offering busy | counting busy | controlling busy =>
      rw [busy.active] at ha
      cases ha

theorem dispatch_sound (h : Sound P s) (hd : s.dispatching)
    (hn : s.activeRequest.all (s.dispatches P W)) :
    Sound P (s.activeRequest.elim s ({ s with dispatching := false }.requestDispatch P W)) := by
  have hi : ∀ request, Busy s request → False := fun request hb => by
    rw [hb.dispatching] at hd
    cases hd
  cases h with
  | resting rests =>
    obtain ⟨request, ha⟩ := Option.isSome_iff_exists.1 (rests.dispatching.symm.trans hd)
    have he : s.activeRequest.elim s ({ s with dispatching := false }.requestDispatch P W) =
        { s with dispatching := false }.requestDispatch P W request :=
      congrArg (Option.elim · s ({ s with dispatching := false }.requestDispatch P W)) ha
    rw [ha] at hn
    rw [he]
    refine requestDispatch_sound (s := { s with dispatching := false })
      ⟨⟨?_, ha, rfl, fun hnt => ?_, rests.slots⟩, rests.outstanding, rests.state⟩ ?_
    · have ht := rests.told
      rw [ha] at ht
      exact ht
    · rw [rests.registered hnt] at ha
      cases ha
    · cases request <;> exact hn
  | offering busy | counting busy | controlling busy => exact (hi _ busy).elim
  | ended ended =>
    rw [ended.dispatching] at hd
    cases hd

/-- **What was started is completed.** -/
theorem completed_sound (h : Sound P s) (hm : subrequest ∈ s.outstanding) (ht : subrequest.isControl = false)
    (hc : s.completes W result subrequest) :
    Sound P ((s.complete subrequest).onCompletion P W result subrequest) := by
  cases h with
  | resting rests =>
    rw [rests.outstanding] at hm
    cases hm
  | offering busy registered outstanding offer state =>
    obtain rfl : subrequest = .offer := by simpa [outstanding] using hm
    have hb := busy.quiet (complete_quiet s .offer)
    have hr : ∀ a ∈ result.answer, a.accepted ∨ s.subrequestCount = 0 := by
      intro a ha
      unfold completes at hc
      rw [Option.mem_def.1 ha] at hc
      simp only [all_some, and_eq_true, or_eq_true, beq_iff_eq] at hc
      exact hc.2
    refine answerProcess_sound (s := { s.complete .offer with id := result.sessionId.getD (s.complete .offer).id })
      ⟨⟨hb.told, hb.active, hb.dispatching, hb.registered, hb.slots⟩, ?_, state⟩ registered offer _ hr
    show s.outstanding.erase .offer = []
    rw [outstanding]
    rfl
  | counting busy registered counting =>
    rcases takes_or_failed busy hc with hk | ⟨name, rfl, hd, ho⟩
    · exact counting_completed busy registered counting hm hc hk
    · refine discoverFailed_sound busy (fun hs => ?_) hd ho
      have hf := counting.fits _ hm
      rw [hs] at hf
      cases hf
  | controlling busy registered outstanding =>
    rw [outstanding, mem_singleton] at hm
    rw [hm] at ht
    cases ht
  | ended ended =>
    rw [ended.outstanding] at hm
    cases hm

variable {message : ControlMessage}

/-- **An MRCP request is responded to.** -/
theorem response_sound {key : Nat} (h : Sound P s) (hm : .control key ∈ s.outstanding)
    (hre : message.messageType = .response)
    (hf : P.mrcpVersion = .v1 → (s.channelFindByName message.resourceName).isSome) :
    Sound P ((s.complete (.control key)).messageReceive P key message) := by
  cases h with
  | resting rests =>
    rw [rests.outstanding] at hm
    cases hm
  | offering busy registered outstanding =>
    rw [outstanding] at hm
    cases mem_singleton.1 hm
  | counting busy registered counting => cases isCounted_of_fits (counting.fits _ hm)
  | ended ended =>
    rw [ended.outstanding] at hm
    cases hm
  | controlling busy registered outstanding state =>
    obtain ⟨-⟩ : Subrequest.control key = .control _ := mem_singleton.1 (outstanding ▸ hm)
    have hb := busy.quiet (complete_quiet s (.control key))
    have hr : ∀ target, Sound P ((s.complete (.control key)).controlMessageRaise target message) := by
      intro target
      refine .resting (hb.rests (controlMessageRaise_responded hb hre) ?_ state)
      show s.outstanding.erase (.control key) = []
      rw [outstanding, erase_cons_head]
    unfold Session.messageReceive
    split_ifs with hv
    · obtain ⟨channel, hc⟩ := Option.isSome_iff_exists.1 (hf hv)
      rw [show (s.complete (.control key)).channelFindByName message.resourceName = some channel from hc]
      exact hr channel.key
    · exact hr key

theorem event_sound (h : Sound P s) (key : Nat) (hre : message.messageType ≠ .response) :
    Sound P (s.messageReceive P key message) := by
  have hr : ∀ target, Sound P (s.controlMessageRaise target message) := by
    intro target
    unfold controlMessageRaise
    cases ht : message.messageType with
    | response => exact absurd ht hre
    | event => exact h.unanswered [.controlEvent target message] rfl rfl s.disconnected
    | request | unknown => exact h
  unfold Session.messageReceive
  split_ifs
  · cases s.channelFindByName message.resourceName with
    | none => exact h
    | some channel => exact hr channel.key
  · exact hr key

theorem terminateEventProcess_sound (h : Sound P s) : Sound P s.terminateEventProcess := by
  unfold terminateEventProcess
  dsimp only
  split_ifs
  · exact h
  · exact h.unanswered [.terminateEvent] rfl rfl true
  · have hs := h.unanswered [] rfl rfl true
    rw [append_nil] at hs
    exact hs

variable {input : Environment × Input}

theorem step_sound (h : Sound P s) (he : s.enabled input.2) (ha : s.answerable P input) :
    Sound P (s.step P input).1 := by
  obtain ⟨W, input⟩ := input
  cases input with
  | request message =>
    exact appMessageProcess_sound h (by simpa [enabled] using he)
      (by simpa [answerable] using ha)
  | dispatch => exact dispatch_sound h he ha
  | completed subrequest result =>
    simp only [enabled, and_eq_true, not_eq_true', contains_iff_mem] at he
    exact completed_sound h he.1.2 he.2 ha
  | receive key message =>
    simp only [enabled, and_eq_true, or_eq_true, bne_iff_ne, contains_iff_mem] at he
    simp only [answerable, or_eq_true, bne_iff_ne] at ha
    show Sound P ((if message.messageType = .response then s.complete (.control key) else s).messageReceive P key message)
    split_ifs with hr
    · refine response_sound h (he.2.resolve_left (not_not_intro hr)) hr fun hv => ?_
      rcases ha with (hn | hn) | hf
      · exact absurd hr hn
      · exact absurd hv hn
      · exact hf
    · exact event_sound h key hr
  | disconnect => exact terminateEventProcess_sound h

/-- **One step reads what is there.** -/
theorem step_reads (h : Sound P s) (he : s.enabled input.2) (hn : s.answerable P input) :
    (s.step P input).1.badRead = s.badRead := by
  obtain ⟨W, input⟩ := input
  cases input with
  | request message =>
    show (s.appMessageProcess P W message).badRead = s.badRead
    unfold appMessageProcess
    dsimp only
    split_ifs
    · rfl
    · exact requestDispatch_reads P W { s.see (.request message) with activeRequest := some message } message
  | dispatch =>
    have hd : ∀ active : Option AppMessage,
        (active.elim s ({ s with dispatching := false }.requestDispatch P W)).badRead = s.badRead := by
      intro active
      cases active with
      | none => rfl
      | some request => exact requestDispatch_reads P W { s with dispatching := false } request
    exact hd s.activeRequest
  | completed subrequest result =>
    simp only [enabled, and_eq_true, not_eq_true', contains_iff_mem] at he
    have hm : subrequest ∈ s.outstanding := he.1.2
    have hc : s.completes W result subrequest := hn
    cases h with
    | resting rests =>
      rw [rests.outstanding] at hm
      cases hm
    | ended ended =>
      rw [ended.outstanding] at hm
      cases hm
    | controlling busy registered outstanding =>
      rw [outstanding, mem_singleton] at hm
      subst hm
      cases he.2
    | offering busy registered outstanding =>
      obtain rfl : subrequest = .offer := by simpa [outstanding] using hm
      have hl : ∀ a ∈ result.answer, a.descriptor.controlMediaArr.length ≤ s.channels.length ∧
          a.descriptor.audioMediaArr.length ≤ s.terminations.length := by
        intro a ha
        unfold completes at hc
        rw [Option.mem_def.1 ha] at hc
        simp only [all_some, and_eq_true, decide_eq_true_eq] at hc
        exact hc.1
      exact answerProcess_reads P W { s.complete .offer with id := result.sessionId.getD (s.complete .offer).id }
        result.answer hl
    | counting busy registered counting =>
      have hf := counting.fits subrequest hm
      rcases takes_or_failed busy hc with hk | ⟨name, rfl, hde, -⟩
      · exact onCompletion_reads (s := s.complete subrequest) (isCounted_of_fits hf)
          (fun flag hfl => counting.waits.waiting flag (mem_filterMap.2 ⟨subrequest, hm, hfl⟩)) hk hf
          counting.offer
      · exact (congrArg Session.badRead (onCompletion_discoverFailed (W := W) busy hde)).trans
          (sigResponseRaise_kept { s.complete (.discover name) with status := .failure } true).badRead
  | receive key message =>
    have hr : ∀ t : Session, t.badRead = s.badRead → (t.messageReceive P key message).badRead = s.badRead := by
      intro t ht
      unfold Session.messageReceive
      split_ifs
      · cases t.channelFindByName message.resourceName with
        | none => exact ht
        | some channel => exact (controlMessageRaise_kept t channel.key message).badRead.trans ht
      · exact (controlMessageRaise_kept t key message).badRead.trans ht
    show ((if message.messageType = .response then s.complete (.control key) else s).messageReceive P key
      message).badRead = s.badRead
    split_ifs
    · exact hr _ rfl
    · exact hr _ rfl
  | disconnect =>
    show s.terminateEventProcess.badRead = s.badRead
    unfold terminateEventProcess
    dsimp only
    split_ifs <;> rfl

/-- **The requests of a session are answered**: in order, each at most once, and when nothing is outstanding all that
arrived before the response to a request to terminate were. -/
structure Answered (s : Session) : Prop where
  ordered : answered s.log <+: submitted s.log
  idle : s.activeRequest = none → s.requestQueue = []
  complete : s.dispatching = false → s.outstanding = [] → due s.log <+: answered s.log
  badRead : s.badRead = false

theorem Sound.answered (h : Sound P s) (hr : s.badRead = false) : Answered s := by
  have hs : ∀ request, Busy s request → s.outstanding ≠ [] → Answered s := by
    intro request hb ho
    refine ⟨?_, ?_, fun _ hn => absurd hn ho, hr⟩
    · rw [hb.told]
      exact prefix_append _ _
    · intro hn
      rw [hb.active] at hn
      cases hn
  cases h with
  | resting rests =>
    refine ⟨?_, rests.idle, fun hd _ => ?_, hr⟩
    · rw [rests.told]
      exact prefix_append _ _
    · have hn : s.activeRequest = none := by
        simpa using rests.dispatching.symm.trans hd
      have ht := rests.told
      rw [hn, rests.idle hn] at ht
      have ha : submitted s.log = UniMrcp.MrcpClient.answered s.log := by simpa using ht
      exact ha ▸ due_prefix s.log
  | offering busy registered outstanding => exact hs _ busy (by rw [outstanding]; nofun)
  | counting busy registered counting => exact hs _ busy counting.outstanding
  | controlling busy registered outstanding => exact hs _ busy (by rw [outstanding]; nofun)
  | ended ended => exact ⟨ended.ordered, ended.idle, fun _ _ => ended.due, hr⟩

theorem sound_init (P : Profile) : Sound P {} :=
  .resting ⟨rfl, rfl, fun _ => rfl, fun _ => rfl, rfl, rfl, nofun⟩

/-- **Every request is answered once and in order**, in every run of a session whose steps can happen and meet the
condition. -/
theorem requests_answered (P : Profile) (inputs : List (Environment × Input))
    (h : EachStep (Session.step P) (fun s input => s.enabled input.2 = true ∧ s.answerable P input) {} inputs) :
    Answered (run (Session.step P) {} inputs).1 := by
  have hinv : Sound P (run (Session.step P) {} inputs).1 ∧ (run (Session.step P) {} inputs).1.badRead = false :=
    run_invariant (fun s => Sound P s ∧ s.badRead = false) _
      (fun s input hs hok => ⟨step_sound hs.1 hok.1 hok.2, (step_reads hs.1 hok.1 hok.2).trans hs.2⟩) {} inputs
      ⟨sound_init P, rfl⟩ h
  exact hinv.1.answered hinv.2

/-- A call with an MRCP request, behind which the request to terminate waits. -/
def callRequests : List (Environment × Input) :=
  callInputs ++
    [.request (.control 0 { messageType := .request }), .request .sessionTerminate,
      .receive 0 { messageType := .response }, .dispatch,
      .completed .destroyTopology {}, .completed (.terminationSubtract (.channel 0)) {},
      .completed (.terminationSubtract (.rtp 0)) {}, .completed (.controlRemove 0) {}, .completed .terminate {},
      .request .resourceDiscover].map (callEnvironment, ·)

theorem requests_answered_call : Answered (run (Session.step callProfile) {} callRequests).1 :=
  requests_answered callProfile callRequests (by decide +kernel)

/-- An update of a session without an offer is never answered. -/
theorem not_answered_update :
    EachStep (Session.step callProfile) (fun s input => s.enabled input.2 = true) {}
        [(callEnvironment, .request .sessionUpdate)] ∧
      ¬ Answered (run (Session.step callProfile) {} [(callEnvironment, .request .sessionUpdate)]).1 := by
  refine ⟨by decide +kernel, fun h => ?_⟩
  have hcomp := h.complete (by decide +kernel) (by decide +kernel)
  exact absurd hcomp (by decide +kernel)

end UniMrcp.MrcpClient
