import Mathlib.Data.List.TakeWhile
import UniMrcp.MrcpClient.AnswerStatus

/-!
# Stages of a client session

What a session that answers every request is doing.
-/

namespace UniMrcp.MrcpClient

open Apt Mrcp Lib List Session Starts
open MrcpServer (RtpMedia SessionDescriptor)

variable {P : Profile} {W : Environment} {s t : Session} {request : AppMessage}

def Event.submits : Event → Option AppMessage
  | .request message => some message
  | _ => none

def Event.answers : Event → Option AppMessage
  | .response r => some r.request
  | _ => none

def submitted (log : List Event) : List AppMessage := log.filterMap Event.submits

def answered (log : List Event) : List AppMessage := log.filterMap Event.answers

/-- The requests that have arrived before the response to a request to terminate. -/
def due (log : List Event) : List AppMessage := submitted (log.takeWhile fun event => event.answers != some .sessionTerminate)

theorem due_prefix (log : List Event) : due log <+: submitted log := by
  obtain ⟨rest, hr⟩ := takeWhile_prefix (l := log) fun event => event.answers != some .sessionTerminate
  exact ⟨submitted rest, by rw [due, submitted, submitted, ← filterMap_append, hr]; rfl⟩

theorem due_append {log more : List Event} (h : ∃ event ∈ log, event.answers = some .sessionTerminate) :
    due (log ++ more) = due log := by
  obtain ⟨event, hm, he⟩ := h
  unfold due
  rw [takeWhile_append, if_neg]
  intro hl
  have ha := takeWhile_eq_self_iff.1 ((takeWhile_sublist _).eq_of_length hl) event hm
  simp [he] at ha

theorem Quiet.told (h : Quiet s t) : submitted t.log = submitted s.log ∧ answered t.log = answered s.log := by
  obtain ⟨more, hm, hq⟩ := h.log
  have hn : submitted more = [] ∧ answered more = [] := by
    constructor <;> refine filterMap_eq_nil_iff.2 fun event hmm => ?_
    all_goals
      have he := hq event hmm
      cases event <;> first | rfl | cases he
  constructor
  · rw [hm, submitted, filterMap_append]
    exact (congrArg _ hn.1).trans (append_nil _)
  · rw [hm, answered, filterMap_append]
    exact (congrArg _ hn.2).trans (append_nil _)

/-! ## Stages -/

structure Busy (s : Session) (request : AppMessage) : Prop where
  told : submitted s.log = answered s.log ++ request :: s.requestQueue
  active : s.activeRequest = some request
  dispatching : s.dispatching = false
  registered : s.registered = false → s.requestQueue = []
  slots : s.terminations.length = s.channels.length

structure Rests (s : Session) : Prop where
  told : submitted s.log = answered s.log ++ (s.activeRequest.toList ++ s.requestQueue)
  dispatching : s.dispatching = s.activeRequest.isSome
  idle : s.activeRequest = none → s.requestQueue = []
  registered : s.registered = false → s.activeRequest = none
  slots : s.terminations.length = s.channels.length
  outstanding : s.outstanding = []
  state : s.state ≠ .terminating

structure Ended (s : Session) : Prop where
  due : due s.log <+: answered s.log
  ordered : answered s.log <+: submitted s.log
  terminated : ∃ event ∈ s.log, event.answers = some .sessionTerminate
  idle : s.activeRequest = none → s.requestQueue = []
  dispatching : s.dispatching = false
  outstanding : s.outstanding = []
  state : s.state = .terminating

def Subrequest.fits (version : Version) : SessionState → Subrequest → Prop
  | .generatingOffer, .controlAdd _ | .generatingOffer, .terminationAdd _ => True
  | .processingAnswer, subrequest => subrequest.isOfAnswer version
  | .terminating, subrequest => subrequest.isRelease = true
  | .discovering, .discover _ => True
  | _, _ => False

structure Counting (P : Profile) (s : Session) (request : AppMessage) : Prop where
  waits : Waits s.outstanding s
  outstanding : s.outstanding ≠ []
  fits : ∀ subrequest ∈ s.outstanding, subrequest.fits P.mrcpVersion s.state
  offer : s.state = .generatingOffer → s.offer.isSome
  terminating : s.state = .terminating → request = .sessionTerminate

/-- **The stages of a session** that answers every request. -/
inductive Sound (P : Profile) (s : Session) : Prop
  | resting (rests : Rests s)
  | offering {request : AppMessage} (busy : Busy s request) (registered : s.registered)
      (outstanding : s.outstanding = [.offer]) (offer : s.offer.isSome)
      (state : s.state ≠ .terminating)
  | counting {request : AppMessage} (busy : Busy s request) (registered : s.registered)
      (counting : Counting P s request)
  | controlling {key : Nat} {message : ControlMessage} (busy : Busy s (.control key message))
      (registered : s.registered) (outstanding : s.outstanding = [.control key])
      (state : s.state ≠ .terminating)
  | ended (ended : Ended s)

theorem Busy.quiet (h : Busy s request) (hq : Quiet s t) : Busy t request := by
  have hl : t.channels.length = s.channels.length := by
    simpa using congrArg List.length hq.controlChannels
  refine ⟨?_, hq.active.trans h.active, hq.dispatching.trans h.dispatching, ?_, ?_⟩
  · rw [hq.told.1, hq.told.2, hq.queue]
    exact h.told
  · rw [hq.registered, hq.queue]
    exact h.registered
  · rw [hq.slots, hl]
    exact h.slots

/-! ## Responses -/

structure Responded (s t : Session) (request : AppMessage) : Prop where
  log : ∃ response : Response, response.request = request ∧ t.log = s.log ++ [.response response]
  active : t.activeRequest = s.requestQueue.head?
  queue : t.requestQueue = s.requestQueue.tail
  dispatching : t.dispatching = s.requestQueue.head?.isSome
  registered : t.registered = s.registered
  slots : t.terminations.length = s.terminations.length ∧ t.channels.length = s.channels.length
  outstanding : t.outstanding = s.outstanding
  state : t.state = s.state

theorem Responded.told (h : Responded s t request) (hb : Busy s request) :
    submitted t.log = submitted s.log ∧ answered t.log = answered s.log ++ [request] ∧
      submitted t.log = answered t.log ++ (t.activeRequest.toList ++ t.requestQueue) := by
  obtain ⟨response, hr, hl⟩ := h.log
  have hs : submitted t.log = submitted s.log := by
    rw [hl, submitted, filterMap_append]
    exact append_nil _
  have ha : answered t.log = answered s.log ++ [request] := by
    rw [hl, answered, filterMap_append, ← hr]
    rfl
  refine ⟨hs, ha, ?_⟩
  rw [hs, hb.told, ha, h.active, h.queue]
  cases s.requestQueue <;> simp

theorem Busy.rests (hb : Busy s request) (h : Responded s t request) (ho : s.outstanding = [])
    (hs : s.state ≠ .terminating) : Rests t := by
  refine ⟨(h.told hb).2.2, ?_, ?_, ?_, ?_, h.outstanding.trans ho, h.state ▸ hs⟩
  · rw [h.dispatching, h.active]
  · intro hn
    rw [h.active] at hn
    rw [h.queue, List.head?_eq_none_iff.1 hn]
    rfl
  · intro hu
    rw [h.active, hb.registered (h.registered ▸ hu)]
    rfl
  · rw [h.slots.1, h.slots.2]
    exact hb.slots

theorem Busy.ended (hb : Busy s .sessionTerminate) (h : Responded s t .sessionTerminate) (ho : s.outstanding = [])
    (hq : s.requestQueue = []) (hs : s.state = .terminating) : Ended t := by
  have ht := (h.told hb).2.2
  have hr : submitted t.log = answered t.log := by
    rw [ht, h.active, h.queue, hq]
    simp
  obtain ⟨response, hre, hl⟩ := h.log
  refine ⟨hr ▸ due_prefix t.log, hr ▸ prefix_refl _, ⟨.response response, ?_, ?_⟩, ?_, ?_,
    h.outstanding.trans ho, h.state.trans hs⟩
  · rw [hl]
    simp
  · show some response.request = _
    rw [hre]
  · intro _
    rw [h.queue, hq]
    rfl
  · rw [h.dispatching, hq]
    rfl

theorem sigResponseRaise_responded (hb : Busy s request) {process : Bool}
    (hp : process = false → s.requestQueue = []) : Responded s (s.sigResponseRaise process) request := by
  refine ⟨⟨_, rfl, sigResponseRaise_log hb.active process⟩, ?_, ?_, ?_, ?_, ?_, ?_, ?_⟩
  all_goals
    have hd := hb.dispatching
    unfold sigResponseRaise
    rw [hb.active]
    cases process <;> cases hs : s.disconnected
  all_goals simp_all [see, requestPop]

theorem failureMessageRaise_responded (hb : Busy s request) (hq : s.requestQueue = []) :
    Responded s s.failureMessageRaise request := by
  have hd := hb.dispatching
  unfold failureMessageRaise
  rw [hb.active]
  refine ⟨⟨_, rfl, rfl⟩, ?_, ?_, ?_, rfl, ⟨rfl, rfl⟩, rfl, rfl⟩ <;> simp [see, hq, hd]

theorem discoverRaise_responded (hb : Busy s request) : Responded s s.discoverRaise request := by
  unfold discoverRaise
  rw [hb.active]
  exact ⟨⟨_, rfl, rfl⟩, rfl, rfl, rfl, rfl, ⟨rfl, rfl⟩, rfl, rfl⟩

variable {message : ControlMessage}

theorem controlMessageRaise_responded {key target : Nat} {sent : ControlMessage}
    (hb : Busy s (.control target sent)) (hm : message.messageType = .response) :
    Responded s (s.controlMessageRaise key message) (.control target sent) := by
  unfold controlMessageRaise
  rw [hm, hb.active]
  exact ⟨⟨_, rfl, rfl⟩, rfl, rfl, rfl, rfl, ⟨rfl, rfl⟩, rfl, rfl⟩

/-! ## What a request starts -/

structure Serving (s : Session) (request : AppMessage) : Prop extends Busy s request where
  outstanding : s.outstanding = []
  state : s.state ≠ .terminating

theorem offerSend_sound (h : Serving s request) (hr : s.registered) (ho : s.offer.isSome)
    (ha : W.accepts .offer) : Sound P (s.offerSend W) := by
  obtain ⟨offer, hs⟩ := Option.isSome_iff_exists.1 ho
  have hn : s.offerSend W = s.start .offer := by
    simp [offerSend, hs, ha]
  rw [hn]
  refine .offering (h.toBusy.quiet (start_quiet s .offer)) hr ?_ ho h.state
  show s.outstanding ++ [.offer] = _
  rw [h.outstanding]
  rfl

variable {owns : Flag → Prop} {kind : Subrequest → Prop}

theorem Serving.starts {t : Session} (hb : Busy s request) (ho : s.outstanding = [])
    (hc : s.subrequestCount = 0) (hr : s.registered) (hs : Starts owns kind s t)
    (hf : ∀ subrequest, kind subrequest → subrequest.fits P.mrcpVersion s.state)
    (h : s.state = .generatingOffer → s.offer.isSome)
    (htr : s.state = .terminating → request = .sessionTerminate) :
    Busy t request ∧ t.registered ∧
      (t.subrequestCount = 0 ∧ t.outstanding = [] ∨ t.subrequestCount ≠ 0 ∧ Counting P t request) := by
  obtain ⟨new, hn⟩ := hs
  have hw : t.outstanding = new := by rw [hn.outstanding, ho, nil_append]
  have ht := hn.waits hc
  refine ⟨hb.quiet hn.quiet, hn.quiet.registered.trans hr, ?_⟩
  rcases eq_or_ne new [] with rfl | hne
  · exact Or.inl ⟨ht.count, hw⟩
  · refine Or.inr ⟨?_, ?_, ?_, ?_, ?_, ?_⟩
    · rw [ht.count]
      exact fun hz => hne (length_eq_zero_iff.1 hz)
    · exact hw ▸ ht
    · exact hw ▸ hne
    · intro subrequest hm
      rw [hn.quiet.state]
      exact hf subrequest (hn.kinds subrequest (hw ▸ hm))
    · rw [hn.quiet.state, hn.quiet.offer]
      exact h
    · rw [hn.quiet.state]
      exact htr

theorem modifyOffer_starts (s : Session) (f : SessionDescriptor → SessionDescriptor) :
    Starts owns kind s (s.modifyOffer f) := by
  refine nothing (modifyOffer_quiet s f) ?_ ?_ ?_ <;> unfold modifyOffer <;> cases s.offer
  all_goals first | rfl | exact fun flag => rfl

theorem controlOffer_starts {i : Nat} (hi : i < s.channels.length) (P : Profile) (W : Environment) (name : Bytes) :
    Starts (fun flag => flag = .channel i) (Subrequest.fits P.mrcpVersion .generatingOffer) s
      (s.controlOffer P W i name) := by
  unfold controlOffer
  split_ifs
  · exact modifyOffer_starts s _
  · have hm : Starts (fun _ => False) (Subrequest.fits P.mrcpVersion .generatingOffer) s
        (s.modifyOffer (controlOfferAdd · name)) := modifyOffer_starts s _
    have hh : (s.modifyOffer (controlOfferAdd · name)).has (.channel i) :=
      (modifyOffer_quiet s _).has (.channel i) hi
    exact (hm.trans (request_flag (show Subrequest.fits _ _ (.controlAdd i) from trivial) rfl hh)
      fun _ h => h.elim).mono
      (fun _ h => h.resolve_left id) fun _ h => h

theorem mediaOffer_starts {i : Nat} (hi : i < s.channels.length) (hs : i < s.terminations.length)
    (P : Profile) (W : Environment) (setup : ChannelSetup) :
    Starts (fun flag => flag = .termination i ∨ flag = .slot i) (Subrequest.fits P.mrcpVersion .generatingOffer) s
      (s.mediaOffer W i setup) := by
  unfold mediaOffer
  cases setup.termination with
  | none =>
    obtain ⟨ho, ht, hl⟩ := localMediaAdd_books s i setup.localMedia
    exact nothing (localMediaAdd_quiet s i setup.localMedia) ho ht hl
  | some termination =>
    have hc : Quiet s { s with context := true } := Quiet.same rfl rfl rfl rfl rfl rfl rfl rfl rfl rfl rfl
    have hh : Starts (fun flag => flag = .termination i) (Subrequest.fits P.mrcpVersion .generatingOffer) s
        ({ s with context := true }.request W (.terminationAdd (.channel i))) :=
      (request_flag trivial rfl (hc.has (.termination i) hi)).after hc rfl rfl fun _ => rfl
    obtain ⟨new, hn⟩ := hh
    generalize { s with context := true }.request W (.terminationAdd (.channel i)) = t at hn
    have hm : Quiet t (t.modifySlot i ({ · with termination := true })) := modifySlot_quiet t i _
    refine trans ⟨new, hn⟩ ((request_flag trivial rfl ((hn.quiet.trans hm).has (.slot i)
      hs)).after hm rfl rfl fun flag => ?_) ?_
    · exact waiting_modifySlot t i (f := ({ · with termination := true })) (fun _ => rfl) flag
    · rintro flag rfl hf
      cases hf

theorem channelModify_sound (h : Serving s request) (hr : s.registered)
    (ho : s.offer.isSome) (ha : W.accepts .offer) (key : Nat) (enable : Bool) :
    Sound P (s.channelModify P W key enable) := by
  obtain ⟨offer, hs⟩ := Option.isSome_iff_exists.1 ho
  unfold channelModify
  rw [hs]
  exact offerSend_sound ⟨⟨h.told, h.active, h.dispatching, h.registered, h.slots⟩, h.outstanding, h.state⟩
    hr rfl ha

def Session.channelAdded (P : Profile) (s : Session) (key : Nat) : Session :=
  ({ s with offer := some (s.offer.getD {}) }.stateSet .generatingOffer).channelPush P key (P.channel key)

def Session.channelOffered (P : Profile) (W : Environment) (s : Session) (key : Nat) : Session :=
  ((s.channelAdded P key).controlOffer P W s.channels.length (P.channel key).resourceName).mediaOffer W
    s.channels.length (P.channel key)

variable {key : Nat}

theorem channelAdd_new (hf : ¬ (s.channelFind key).isSome = true) :
    s.channelAdd P W key = if (s.channelOffered P W key).subrequestCount = 0 then (s.channelOffered P W key).offerSend W
      else s.channelOffered P W key := by
  unfold channelAdd
  rw [if_neg hf]
  rfl

theorem channelAdd_sound (h : Serving s request) (hr : s.registered)
    (hof : (s.channelFind key).isSome → s.offer.isSome) (hac : W.accepts .offer) :
    Sound P (s.channelAdd P W key) := by
  by_cases hf : (s.channelFind key).isSome
  · unfold channelAdd
    rw [if_pos hf]
    exact channelModify_sound h hr (hof hf) hac key true
  · have ha := channelAdd_new (P := P) (W := W) hf
    have hu : s.channelAdded P key = ({ s with offer := some (s.offer.getD {}) }.stateSet .generatingOffer).channelPush P
        key (P.channel key) := rfl
    have ht : s.channelOffered P W key = ((s.channelAdded P key).controlOffer P W s.channels.length
        (P.channel key).resourceName).mediaOffer W s.channels.length (P.channel key) := rfl
    generalize s.channelOffered P W key = t at ha ht
    generalize s.channelAdded P key = u at hu ht
    have hb : Busy u request := by
      rw [hu]
      refine ⟨h.told, h.active, h.dispatching, h.registered, ?_⟩
      simp [channelPush, stateSet, h.slots]
    have hc : s.channels.length < u.channels.length := by
      rw [hu]
      simp [channelPush, stateSet]
    have hsl : s.channels.length < u.terminations.length := hb.slots ▸ hc
    have hs : Starts (fun _ => True) (Subrequest.fits P.mrcpVersion .generatingOffer) u t := by
      rw [ht]
      obtain ⟨new, hn⟩ := controlOffer_starts hc P W (P.channel key).resourceName
      have hq := hn.quiet
      refine (trans ⟨new, hn⟩ (mediaOffer_starts (hq.has (.channel _) hc) (hq.has (.slot _) hsl)
        P W (P.channel key)) ?_).mono (fun _ _ => trivial) fun _ hft => hft
      rintro flag rfl (hl | hl) <;> cases hl
    have hst : u.state = .generatingOffer := by
      rw [hu]
      rfl
    have huf : u.offer.isSome := by
      rw [hu]
      rfl
    have huc : u.subrequestCount = 0 ∧ u.outstanding = [] ∧ u.registered := by
      rw [hu]
      exact ⟨rfl, h.outstanding, hr⟩
    have htq : t.state = .generatingOffer ∧ t.offer.isSome := by
      obtain ⟨new, hn⟩ := hs
      exact ⟨hn.quiet.state.trans hst, hn.quiet.offer.trans huf⟩
    obtain ⟨htb, htr, ⟨hz, ho⟩ | ⟨hcnt, hcn⟩⟩ :=
      Serving.starts (P := P) hb huc.2.1 huc.1 huc.2.2 hs (fun _ hft => hst ▸ hft)
        (fun _ => huf) (fun hte => absurd (hst.symm.trans hte) (by decide))
    · rw [ha, if_pos hz]
      refine offerSend_sound ⟨htb, ho, ?_⟩ htr htq.2 hac
      rw [htq.1]
      decide
    · rw [ha, if_neg hcnt]
      exact .counting htb htr hcn

theorem sessionTerminate_sound (h : Serving s .sessionTerminate) (hr : s.registered)
    (ha : W.accepts .terminate) : Sound P (s.sessionTerminate W) := by
  have hb : Busy (s.stateSet .terminating) .sessionTerminate :=
    ⟨h.told, h.active, h.dispatching, h.registered, h.slots⟩
  obtain ⟨ht, htr, ⟨hz, -⟩ | ⟨-, hc⟩⟩ :=
    Serving.starts (P := P) hb h.outstanding rfl hr (sessionTerminate_starts ha s)
      (fun _ hl => hl) nofun fun _ => rfl
  · exact absurd hz (sessionTerminate_count W s).ne'
  · exact .counting ht htr hc

/-- **Resources are discovered**. -/
theorem resourceDiscover_sound (h : Serving s request) (hg : s.registered) :
    Sound P (s.resourceDiscover P W) := by
  obtain ⟨u, hu⟩ : ∃ u, u = { s with answer := none }.stateSet .discovering := ⟨_, rfl⟩
  obtain ⟨t, ht⟩ : ∃ t : Session, t = if P.mrcpVersion = .v1 then
      P.resources.foldl (fun s name => Session.request W s (.discover (some name))) u else u.request W (.discover none) :=
    ⟨_, rfl⟩
  have hd : s.resourceDiscover P W =
      if t.subrequestCount = 0 then { t with status := .failure }.sigResponseRaise true else t := by
    unfold resourceDiscover
    rw [ht, hu]
  have hbs : Busy u request := by
    rw [hu]
    exact ⟨h.told, h.active, h.dispatching, h.registered, h.slots⟩
  have hr : Starts (fun _ => False) (Subrequest.fits P.mrcpVersion .discovering) u t := by
    have hn : ∀ (s : Session) (name : Option Bytes), Starts (fun _ => False)
        (Subrequest.fits P.mrcpVersion .discovering) s (s.request W (.discover name)) := fun s name =>
      request_plain (show Subrequest.fits _ _ (.discover name) from trivial) rfl
    rw [ht]
    split_ifs
    · exact foldl_list (fun s name => hn s (some name)) P.resources
    · exact hn u none
  have hs : u.state = .discovering ∧ u.outstanding = [] ∧ u.subrequestCount = 0 ∧ u.registered := by
    rw [hu]
    exact ⟨rfl, h.outstanding, rfl, hg⟩
  have hts : t.state = .discovering := by
    obtain ⟨new, hw⟩ := hr
    exact hw.quiet.state.trans hs.1
  obtain ⟨hb, htr, ⟨hz, ho⟩ | ⟨hc, hcn⟩⟩ :=
    Serving.starts (P := P) hbs hs.2.1 hs.2.2.1 hs.2.2.2 hr (fun _ hft => hs.1 ▸ hft)
      (fun hgn => absurd (hs.1.symm.trans hgn) nofun)
      (fun hte => absurd (hs.1.symm.trans hte) nofun)
  · rw [hd, if_pos hz]
    have hf : Busy { t with status := .failure } request :=
      ⟨hb.told, hb.active, hb.dispatching, hb.registered, hb.slots⟩
    refine .resting (hf.rests (sigResponseRaise_responded hf nofun) ho ?_)
    show t.state ≠ _
    rw [hts]
    nofun
  · rw [hd, if_neg hc]
    exact .counting hb htr hcn

theorem messageSend_sound (h : Serving s (.control key message)) (hr : s.registered)
    (ha : s.id = [] ∨ W.accepts (.control key)) : Sound P (s.messageSend W key message) := by
  unfold Session.messageSend
  split_ifs with hid hs
  · exact .resting (h.toBusy.rests (controlMessageRaise_responded h.toBusy rfl) h.outstanding h.state)
  · have hn : Quiet s { s with lastRequestId := s.lastRequestId + 1 } :=
      Quiet.same rfl rfl rfl rfl rfl rfl rfl rfl rfl rfl rfl
    have hse := (hn.trans (start_quiet _ (.control key))).trans
      (see_quiet _ (.send key { message with sessionId := s.id, requestId := s.lastRequestId + 1 }) rfl)
    refine .controlling (h.toBusy.quiet hse) hr ?_ h.state
    show s.outstanding ++ [.control key] = _
    rw [h.outstanding]
    rfl
  · rcases ha with he | ha
    · exact absurd he hid
    · exact absurd ha hs

theorem answerProcess_sound (h : Serving s request) (hr : s.registered)
    (hof : s.offer.isSome) (answer : Option Answer)
    (hj : ∀ a ∈ answer, a.accepted ∨ s.subrequestCount = 0) : Sound P (s.answerProcess P W answer) := by
  have hf : ∀ t : Session, Busy t request → t.outstanding = [] → t.state ≠ .terminating →
      Sound P (t.sigResponseRaise true) := fun t ht ho hst =>
    .resting (ht.rests (sigResponseRaise_responded ht nofun) ho hst)
  unfold answerProcess
  rw [← Option.not_isSome, hof, Bool.not_true, if_neg Bool.false_ne_true]
  cases answer with
  | none =>
    exact hf { s with status := .failure } ⟨h.told, h.active, h.dispatching, h.registered, h.slots⟩ h.outstanding
      h.state
  | some answer =>
    show Sound P (if (s.answerTake P W answer).subrequestCount = 0 then (s.answerTake P W answer).sigResponseRaise true
      else s.answerTake P W answer)
    cases ha : answer.accepted with
    | false =>
      have hk : s.answerTake P W answer =
          { s with status := .terminate, answer := some answer.descriptor } := by
        simp [answerTake, ha]
      rw [hk, if_pos ((hj answer rfl).resolve_left (by rw [ha]; exact Bool.false_ne_true))]
      exact hf { s with status := .terminate, answer := some answer.descriptor }
        ⟨h.told, h.active, h.dispatching, h.registered, h.slots⟩ h.outstanding h.state
    | true =>
      obtain ⟨status, -, hs⟩ := answerTake_starts P W s ha
      have hb : Busy { s.stateSet .processingAnswer with status := status } request :=
        ⟨h.told, h.active, h.dispatching, h.registered, h.slots⟩
      have hts : (s.answerTake P W answer).state = .processingAnswer := by
        obtain ⟨new, hn⟩ := hs
        exact hn.quiet.state
      obtain ⟨ht, htr, ⟨hz, ho⟩ | ⟨hc, hcn⟩⟩ :=
        Serving.starts (P := P) hb h.outstanding rfl hr hs (fun _ han => han) nofun nofun
      · rw [if_pos hz]
        exact hf _ ht ho (by rw [hts]; nofun)
      · rw [if_neg hc]
        exact .counting ht htr hcn

end UniMrcp.MrcpClient
