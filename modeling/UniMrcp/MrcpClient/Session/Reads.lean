import UniMrcp.MrcpClient.Session.Stages

/-!
# What a client session reads

An offer is read where there is one, and the arrays of a session where they have an element.
-/

namespace UniMrcp.MrcpClient

open Apt Mrcp List Session
open List (range)
open MrcpServer (ControlDescriptor RtpMedia SessionDescriptor)

variable {P : Profile} {W : Environment} {s t u : Session}

/-- **Nothing is read that is not there**, and what is there stays. -/
structure Kept (s t : Session) : Prop where
  badRead : t.badRead = s.badRead
  offer : t.offer.isSome = s.offer.isSome
  channels : t.channels.length = s.channels.length
  slots : t.terminations.length = s.terminations.length

theorem Kept.refl (s : Session) : Kept s s := ⟨rfl, rfl, rfl, rfl⟩

theorem Kept.trans (h : Kept s t) (h' : Kept t u) : Kept s u :=
  ⟨h'.badRead.trans h.badRead, h'.offer.trans h.offer, h'.channels.trans h.channels, h'.slots.trans h.slots⟩

open Kept

theorem Kept.foldl {body : Session → Nat → Session} {n : Nat}
    (hb : ∀ t i, Kept s t → i < n → Kept t (body t i)) : Kept s ((range n).foldl body s) := by
  induction n with
  | zero => exact refl s
  | succ n ih =>
    rw [range_succ, foldl_append]
    have hf := ih fun t i ht hi => hb t i ht (by omega)
    exact hf.trans (hb _ n hf (by omega))

theorem Kept.ite {c : Prop} [Decidable c] (h : c → Kept s t) : Kept s (if c then t else s) := by
  split_ifs with hc
  · exact h hc
  · exact refl s

theorem setWaiting_kept (s : Session) (flag : Flag) (b : Bool) : Kept s (s.setWaiting flag b) := by
  cases flag <;> refine ⟨rfl, rfl, ?_, ?_⟩
  all_goals simp [setWaiting, modifyChannel, modifySlot]

theorem request_kept (W : Environment) (s : Session) (subrequest : Subrequest) :
    Kept s (s.request W subrequest) := by
  unfold Session.request
  split_ifs
  · have hs : Kept s (s.start subrequest) := ⟨rfl, rfl, rfl, rfl⟩
    cases subrequest.flag with
    | none => exact hs.trans ⟨rfl, rfl, rfl, rfl⟩
    | some flag => exact (hs.trans (setWaiting_kept _ flag true)).trans ⟨rfl, rfl, rfl, rfl⟩
  · exact refl s

theorem modifyOffer_kept (ho : s.offer.isSome) (f : SessionDescriptor → SessionDescriptor) :
    Kept s (s.modifyOffer f) := by
  obtain ⟨offer, hs⟩ := Option.isSome_iff_exists.1 ho
  unfold modifyOffer
  rw [hs]
  exact ⟨rfl, by rw [hs]; rfl, rfl, rfl⟩

theorem modifySlot_kept (s : Session) (i : Nat) (f : Slot → Slot) : Kept s (s.modifySlot i f) :=
  ⟨rfl, rfl, rfl, length_modify _ _ _⟩

theorem localMediaAdd_kept (ho : s.offer.isSome) (i : Nat) (localMedia : Option RtpMedia) :
    Kept s (s.localMediaAdd i localMedia) := by
  cases localMedia with
  | none => exact refl s
  | some media => exact (modifyOffer_kept ho _).trans (modifySlot_kept _ i _)

theorem offerSend_kept (W : Environment) (ho : s.offer.isSome) : Kept s (s.offerSend W) := by
  unfold offerSend
  rw [← Option.not_isSome, ho, Bool.not_true, if_neg Bool.false_ne_true]
  split_ifs
  · exact ⟨rfl, rfl, rfl, rfl⟩
  · exact refl s

theorem sigResponseRaise_kept (s : Session) (process : Bool) : Kept s (s.sigResponseRaise process) := by
  unfold sigResponseRaise
  cases s.activeRequest with
  | none => exact refl s
  | some request => cases hd : s.disconnected <;> cases process <;> exact ⟨rfl, rfl, rfl, rfl⟩

theorem failureMessageRaise_kept (s : Session) : Kept s s.failureMessageRaise := by
  unfold failureMessageRaise
  cases s.activeRequest <;> exact ⟨rfl, rfl, rfl, rfl⟩

theorem discoverRaise_kept (s : Session) : Kept s s.discoverRaise := by
  unfold discoverRaise
  cases s.activeRequest <;> exact ⟨rfl, rfl, rfl, rfl⟩

theorem controlMessageRaise_kept (s : Session) (key : Nat) (message : ControlMessage) :
    Kept s (s.controlMessageRaise key message) := by
  unfold controlMessageRaise
  cases message.messageType with
  | response =>
    cases s.activeRequest with
    | none => exact refl s
    | some request => cases request <;> exact ⟨rfl, rfl, rfl, rfl⟩
  | event => exact ⟨rfl, rfl, rfl, rfl⟩
  | request | unknown => exact refl s

theorem sessionTerminateRaise_kept (s : Session) (status : SigStatusCode) :
    Kept s (s.sessionTerminateRaise status) := by
  have hd : Kept s ((range s.channels.length).foldl controlDestroy s) := by
    refine foldl fun t i _ _ => ?_
    unfold controlDestroy
    split_ifs
    · exact ⟨rfl, rfl, length_modify _ _ _, rfl⟩
    · exact refl t
  unfold sessionTerminateRaise
  generalize (range s.channels.length).foldl controlDestroy s = t at hd
  refine hd.trans (trans (t := t.see .sessionRemove) ⟨rfl, rfl, rfl, rfl⟩ ?_)
  split_ifs
  · exact sigResponseRaise_kept _ false
  · exact trans (t := { t.see .sessionRemove with status := status }) ⟨rfl, rfl, rfl, rfl⟩
      (sigResponseRaise_kept _ false)

/-! ## Requests -/

theorem channelModify_reads (P : Profile) (W : Environment) (s : Session) (key : Nat) (enable : Bool) :
    (s.channelModify P W key enable).badRead = s.badRead := by
  unfold channelModify
  cases s.offer with
  | none => rfl
  | some offer => exact (offerSend_kept W rfl).badRead

theorem controlOffer_kept (P : Profile) (W : Environment) (ho : s.offer.isSome) (i : Nat) (name : Bytes) :
    Kept s (s.controlOffer P W i name) := by
  unfold controlOffer
  split_ifs
  · exact modifyOffer_kept ho _
  · exact (modifyOffer_kept ho _).trans (request_kept W _ _)

theorem mediaOffer_kept (W : Environment) (ho : s.offer.isSome) (i : Nat) (setup : ChannelSetup) :
    Kept s (s.mediaOffer W i setup) := by
  unfold mediaOffer
  cases setup.termination with
  | none => exact localMediaAdd_kept ho _ _
  | some termination =>
    have hc : Kept s ({ s with context := true }.request W (.terminationAdd (.channel i))) :=
      trans (t := { s with context := true }) ⟨rfl, rfl, rfl, rfl⟩ (request_kept W _ _)
    exact (hc.trans (modifySlot_kept _ _ _)).trans (request_kept W _ _)

theorem channelAdd_reads (P : Profile) (W : Environment) (s : Session) (key : Nat) :
    (s.channelAdd P W key).badRead = s.badRead := by
  by_cases h : (s.channelFind key).isSome
  · unfold Session.channelAdd
    rw [if_pos h]
    exact channelModify_reads P W s key true
  · have hs : (s.channelAdded P key).badRead = s.badRead := rfl
    have ho : (s.channelAdded P key).offer.isSome := rfl
    have ha := channelAdd_new (P := P) (W := W) h
    have hf : Kept (s.channelAdded P key) (s.channelOffered P W key) := by
      have hc := controlOffer_kept P W ho s.channels.length (P.channel key).resourceName
      exact hc.trans (mediaOffer_kept W (hc.offer.trans ho) _ _)
    rw [ha]
    split_ifs
    · exact ((hf.trans (offerSend_kept W (hf.offer.trans ho))).badRead).trans hs
    · exact hf.badRead.trans hs

theorem sessionTerminate_kept (W : Environment) (s : Session) : Kept s (s.sessionTerminate W) := by
  have hd : Kept s (if s.context then (s.stateSet .terminating).request W .destroyTopology
      else s.stateSet .terminating) :=
    trans (t := s.stateSet .terminating) ⟨rfl, rfl, rfl, rfl⟩ (ite fun _ => request_kept W _ _)
  have hc : ∀ t : Session, Kept t ((range t.channels.length).foldl (channelRelease W) t) := by
    refine fun t => foldl fun u i _ _ => ?_
    unfold channelRelease
    cases u.channels[i]? with
    | none => exact refl u
    | some channel => exact (ite fun _ => request_kept W u _).trans (ite fun _ => request_kept W _ _)
  have hs : ∀ t : Session,
      Kept t (if t.context then (range t.terminations.length).foldl (slotRelease W) t else t) :=
    fun t => ite fun _ => foldl fun u i _ _ => ite fun _ => request_kept W u _
  have hr := (hd.trans (hc _)).trans (hs _)
  refine hr.trans (trans (t := subrequestAdd _) ⟨rfl, rfl, rfl, rfl⟩ (ite fun _ => ?_))
  exact ⟨rfl, rfl, rfl, rfl⟩

theorem resourceDiscover_kept (P : Profile) (W : Environment) (s : Session) : Kept s (s.resourceDiscover P W) := by
  have hn : ∀ (names : List Bytes) (t : Session),
      Kept t (names.foldl (fun s name => Session.request W s (.discover (some name))) t) := by
    intro names
    induction names with
    | nil => exact refl
    | cons name names ih => exact fun t => (request_kept W t _).trans (ih _)
  have hs : Kept s ({ s with answer := none }.stateSet .discovering) := ⟨rfl, rfl, rfl, rfl⟩
  have hr : Kept s (if P.mrcpVersion = .v1 then P.resources.foldl
      (fun s name => Session.request W s (.discover (some name))) ({ s with answer := none }.stateSet .discovering)
      else ({ s with answer := none }.stateSet .discovering).request W (.discover none)) := by
    split_ifs
    · exact hs.trans (hn P.resources _)
    · exact hs.trans (request_kept W _ _)
  have hf : ∀ t : Session, Kept t ({ t with status := .failure }.sigResponseRaise true) := fun t =>
    trans (t := { t with status := .failure }) ⟨rfl, rfl, rfl, rfl⟩ (sigResponseRaise_kept _ true)
  exact hr.trans (ite fun _ => hf _)

theorem messageSend_kept (W : Environment) (s : Session) (key : Nat) (message : ControlMessage) :
    Kept s (s.messageSend W key message) := by
  unfold Session.messageSend
  split_ifs
  · exact controlMessageRaise_kept s key _
  · exact ⟨rfl, rfl, rfl, rfl⟩
  · exact ⟨rfl, rfl, rfl, rfl⟩

theorem requestProcess_reads (P : Profile) (W : Environment) (s : Session) (message : AppMessage) :
    (s.requestProcess P W message).badRead = s.badRead := by
  cases message with
  | sessionUpdate =>
    show (Session.sessionUpdate W { s with status := .success }).badRead = s.badRead
    unfold Session.sessionUpdate
    split_ifs with ho
    · rfl
    · exact (offerSend_kept W (by simpa [Option.isSome_iff_ne_none] using ho)).badRead
  | sessionTerminate => exact (sessionTerminate_kept W { s with status := .success }).badRead
  | channelAdd key => exact channelAdd_reads P W { s with status := .success } key
  | channelRemove key => exact channelModify_reads P W { s with status := .success } key false
  | resourceDiscover => exact (resourceDiscover_kept P W { s with status := .success }).badRead
  | control key message => exact (messageSend_kept W { s with status := .success } key message).badRead

theorem requestDispatch_reads (P : Profile) (W : Environment) (s : Session) (message : AppMessage) :
    (s.requestDispatch P W message).badRead = s.badRead := by
  have hf : ∀ status, ({ s with status := status } : Session).failureMessageRaise.badRead = s.badRead :=
    fun status => (failureMessageRaise_kept { s with status := status }).badRead
  unfold requestDispatch
  split_ifs
  · rfl
  · exact hf .cancel
  · exact requestProcess_reads P W s message
  · exact (sigResponseRaise_kept { s with status := .success } false).badRead
  · unfold register
    cases agentsSelected P W with
    | false => exact hf .failure
    | true =>
      simp only [↓reduceIte]
      split_ifs
      · exact hf s.status
      · exact hf .failure
      · exact requestProcess_reads P W ({ s with registered := true }.see .sessionAdd) message

/-! ## Completions -/

variable {descriptor : SessionDescriptor}

theorem controlMediaAnswerProcess_kept (W : Environment)
    (hl : descriptor.controlMediaArr.length ≤ s.channels.length) :
    Kept s (s.controlMediaAnswerProcess W descriptor) := by
  have hm : ∀ id, Kept { s with id := id } ((range descriptor.controlMediaArr.length).foldl
      (Session.controlModify W) { s with id := id }) := by
    refine fun id => foldl fun t i ht hi => ?_
    have hc : i < t.channels.length := ht.channels ▸ Nat.lt_of_lt_of_le hi hl
    unfold Session.controlModify
    rw [if_pos hc]
    exact request_kept W t _
  have hid : ∀ id, Kept s { s with id := id } := fun _ => ⟨rfl, rfl, rfl, rfl⟩
  exact (hid _).trans (hm _)

theorem slotModify_kept (W : Environment) {i : Nat} (h : i < s.terminations.length) : Kept s (s.slotModify W i) := by
  unfold slotModify
  rw [List.getElem?_eq_getElem h]
  exact ite fun _ => (request_kept W s _).trans (ite fun _ => request_kept W _ _)

theorem avMediaAnswerProcess_kept (W : Environment)
    (hl : descriptor.audioMediaArr.length ≤ s.terminations.length) :
    Kept s (s.avMediaAnswerProcess W descriptor) :=
  foldl fun _ _ ht hi => slotModify_kept W (ht.slots ▸ Nat.lt_of_lt_of_le hi hl)

theorem answerAccept_kept (P : Profile) (W : Environment)
    (hc : descriptor.controlMediaArr.length ≤ s.channels.length)
    (ha : descriptor.audioMediaArr.length ≤ s.terminations.length) : Kept s (s.answerAccept P W descriptor) := by
  have hr : Kept s ((s.stateSet .processingAnswer).associationsReset W) :=
    trans (t := s.stateSet .processingAnswer) ⟨rfl, rfl, rfl, rfl⟩ (ite fun _ => request_kept W _ _)
  have hd : ∀ t : Session, Kept s t → Kept s (if P.mrcpVersion = .v1 then t.resourceAnswerProcess W descriptor
      else (t.controlMediaAnswerProcess W descriptor).avMediaAnswerProcess W descriptor) := by
    intro t ht
    split_ifs
    · unfold resourceAnswerProcess
      refine ht.trans (ite fun _ => ?_)
      split_ifs
      · exact avMediaAnswerProcess_kept W (ht.slots ▸ ha)
      · exact ⟨rfl, rfl, rfl, rfl⟩
    · have hm := ht.trans (controlMediaAnswerProcess_kept W (ht.channels ▸ hc))
      exact hm.trans (avMediaAnswerProcess_kept W (hm.slots ▸ ha))
  exact (hd _ hr).trans (ite fun _ => request_kept W _ _)

theorem answerProcess_reads (P : Profile) (W : Environment) (s : Session) (answer : Option Answer)
    (hl : ∀ a ∈ answer, a.descriptor.controlMediaArr.length ≤ s.channels.length ∧
      a.descriptor.audioMediaArr.length ≤ s.terminations.length) :
    (s.answerProcess P W answer).badRead = s.badRead := by
  unfold answerProcess
  split_ifs
  · rfl
  · cases answer with
    | none => exact (sigResponseRaise_kept { s with status := .failure } true).badRead
    | some answer =>
      obtain ⟨hc, ha⟩ := hl answer rfl
      have ht : (s.answerTake P W answer).badRead = s.badRead := by
        unfold answerTake
        split_ifs
        · exact (answerAccept_kept P W hc ha).badRead
        · rfl
      dsimp only
      split_ifs
      · exact (sigResponseRaise_kept _ true).badRead.trans ht
      · exact ht

variable {result : Result} {subrequest : Subrequest}

theorem proceed_kept (version : Version) (hf : subrequest.fits version s.state)
    (ho : s.state = .generatingOffer → s.offer.isSome) : Kept s (proceed W result subrequest s) := by
  have hm : Kept s (s.mediaProceed W) := by
    unfold mediaProceed
    cases hs : s.state with
    | generatingOffer => exact offerSend_kept W (ho hs)
    | processingAnswer => exact sigResponseRaise_kept s true
    | none | terminating | discovering => exact refl s
  cases subrequest with
  | controlAdd i | terminationAdd termination =>
    cases hs : s.state with
    | generatingOffer => exact offerSend_kept W (ho hs)
    | none | processingAnswer | terminating | discovering =>
      rw [hs] at hf
      cases hf
  | controlModify i =>
    unfold proceed
    split_ifs
    · exact sigResponseRaise_kept s true
    · exact trans (t := { s with status := .failure }) ⟨rfl, rfl, rfl, rfl⟩ (sigResponseRaise_kept _ true)
  | controlRemove i => exact sessionTerminateRaise_kept s _
  | terminate => exact sessionTerminateRaise_kept s _
  | terminationSubtract termination =>
    cases termination with
    | rtp i => exact sessionTerminateRaise_kept s _
    | channel i => exact sigResponseRaise_kept s true
  | discover name => exact discoverRaise_kept s
  | terminationModify | resetAssociations | addAssociation | applyTopology | destroyTopology | offer | control =>
    exact hm

variable {version : Version}

theorem taken_kept (hf : subrequest.fits version s.state)
    (ho : s.state = .generatingOffer → s.offer.isSome) : Kept s (s.taken P result subrequest) := by
  cases subrequest with
  | controlAdd i | controlModify i | controlRemove i => exact setWaiting_kept s (.channel i) false
  | terminationModify i => exact setWaiting_kept s (.slot i) false
  | terminationSubtract termination => exact setWaiting_kept s termination.flag false
  | resetAssociations | addAssociation slot | applyTopology | destroyTopology | terminate | offer | control key =>
    exact refl s
  | terminationAdd termination =>
    cases termination with
    | channel i => exact setWaiting_kept s (.termination i) false
    | rtp i =>
      have hs : s.state = .generatingOffer := by
        cases hs : s.state <;> rw [hs] at hf <;> first | rfl | cases hf
      have ht := setWaiting_kept s (.slot i) false
      exact ht.trans (localMediaAdd_kept (ht.offer.trans (ho hs)) i result.localMedia)
  | discover name =>
    unfold taken
    cases result.descriptor with
    | none => exact refl s
    | some descriptor =>
      dsimp only [Subrequest.flag, Option.elim_none]
      split_ifs
      · exact ⟨rfl, rfl, rfl, rfl⟩
      · exact refl s
      · exact ⟨rfl, rfl, rfl, rfl⟩

theorem onCompletion_reads (hc : subrequest.isCounted)
    (hw : ∀ flag ∈ subrequest.flag, s.waiting flag) (ht : s.takes result subrequest)
    (hf : subrequest.fits version s.state) (ho : s.state = .generatingOffer → s.offer.isSome) :
    (s.onCompletion P W result subrequest).badRead = s.badRead := by
  have hk : Kept s (s.taken P result subrequest) := taken_kept hf ho
  have hs := (taken_quiet (P := P) s result subrequest).1.state
  have hl : ∀ count, Kept { s.taken P result subrequest with subrequestCount := count }
      (proceed W result subrequest { s.taken P result subrequest with subrequestCount := count }) := fun count =>
    proceed_kept version (hs ▸ hf) fun hg => hk.offer.trans (ho (hs ▸ hg))
  rw [onCompletion_eq hc hw fun name hn => by subst hn; exact ht]
  unfold subrequestRemove
  dsimp only
  split_ifs
  · exact hk.badRead
  · exact (hl _).badRead.trans hk.badRead
  · exact hk.badRead

/-! ## Answers of any length -/

variable {body : Session → Nat → Session}

theorem foldl_badRead (size : Session → Nat) (hs : ∀ t i, size (body t i) = size t)
    (hr : ∀ t i, (body t i).badRead = (t.badRead || decide (size t ≤ i))) (s : Session) (n : Nat) :
    ((range n).foldl body s).badRead = (s.badRead || decide (size s < n)) := by
  have hl : ∀ n, size ((range n).foldl body s) = size s := by
    intro n
    induction n with
    | zero => rfl
    | succ n ih => rw [range_succ, foldl_append, foldl_cons, foldl_nil, hs, ih]
  induction n with
  | zero => simp
  | succ n ih =>
    rw [range_succ, foldl_append, foldl_cons, foldl_nil, hr, hl, ih, Bool.or_assoc, ← Bool.decide_or]
    congr 2
    exact propext (by omega)

theorem controlModify_channels (W : Environment) (s : Session) (i : Nat) :
    (s.controlModify W i).channels.length = s.channels.length := by
  unfold Session.controlModify
  split_ifs
  · exact (request_kept W s _).channels
  · rfl

theorem controlModify_badRead (W : Environment) (s : Session) (i : Nat) :
    (s.controlModify W i).badRead = (s.badRead || decide (s.channels.length ≤ i)) := by
  unfold Session.controlModify
  split_ifs with h
  · simp [(request_kept W s _).badRead, Nat.not_le_of_lt h]
  · simp [Nat.le_of_not_lt h]

theorem slotModify_beyond (W : Environment) {i : Nat} (h : s.terminations.length ≤ i) :
    s.slotModify W i = { s with badRead := true } := by
  unfold slotModify
  rw [List.getElem?_eq_none h]

theorem slotModify_slots (W : Environment) (s : Session) (i : Nat) :
    (s.slotModify W i).terminations.length = s.terminations.length := by
  by_cases h : i < s.terminations.length
  · exact (slotModify_kept W h).slots
  · rw [slotModify_beyond W (Nat.le_of_not_lt h)]

theorem slotModify_badRead (W : Environment) (s : Session) (i : Nat) :
    (s.slotModify W i).badRead = (s.badRead || decide (s.terminations.length ≤ i)) := by
  by_cases h : i < s.terminations.length
  · simp [(slotModify_kept W h).badRead, Nat.not_le_of_lt h]
  · simp [slotModify_beyond W (Nat.le_of_not_lt h), Nat.le_of_not_lt h]

/-- The calls of `mrcp_client_control_channel_modify`: the channel, and the control descriptor that is passed. -/
def Session.controlModifyCalls (s : Session) (descriptor : SessionDescriptor) : List (Nat × Option ControlDescriptor) :=
  ((List.range descriptor.controlMediaArr.length).filter (· < s.channels.length)).map fun i =>
    (i, descriptor.controlMediaGet i)

theorem foldl_controlModify (W : Environment) (s : Session) (n : Nat) :
    ((range n).foldl (controlModify W) s).channels.length = s.channels.length ∧
      ((range n).foldl (controlModify W) s).outstanding =
        s.outstanding ++ (((range n).filter (· < s.channels.length)).map .controlModify).filter W.accepts := by
  induction n with
  | zero => exact ⟨rfl, (append_nil _).symm⟩
  | succ n ih =>
    obtain ⟨hl, ho⟩ := ih
    rw [range_succ, foldl_append, foldl_cons, foldl_nil]
    refine ⟨(controlModify_channels W _ n).trans hl, ?_⟩
    rw [filter_append, map_append, filter_append, ← append_assoc, ← ho, ← hl]
    generalize (range n).foldl (controlModify W) s = t
    unfold Session.controlModify
    split_ifs with h
    · simp [request_outstanding, h]
    · simp [h]

theorem controlMediaAnswerProcess_calls (W : Environment) (s : Session) (descriptor : SessionDescriptor) :
    (s.controlMediaAnswerProcess W descriptor).outstanding = s.outstanding ++
      ((s.controlModifyCalls descriptor).map fun call => .controlModify call.1).filter W.accepts := by
  rw [Session.controlModifyCalls, map_map]
  exact (foldl_controlModify W _ _).2

/-- The answer is processed with the elements that there are, and no control descriptor is missing. -/
structure AnswerSafe (W : Environment) (s : Session) (descriptor : SessionDescriptor) : Prop where
  control : ({ s with badRead := false }.controlMediaAnswerProcess W descriptor).badRead = false
  media : ({ s with badRead := false }.avMediaAnswerProcess W descriptor).badRead = false
  descriptors : ∀ call ∈ s.controlModifyCalls descriptor, call.2.isSome

/-- **An answer is processed safely exactly if it is not longer than the session**, and has no empty entry. -/
theorem answerSafe_iff (W : Environment) (s : Session) (descriptor : SessionDescriptor) :
    AnswerSafe W s descriptor ↔ descriptor.controlMediaArr.length ≤ s.channels.length ∧
      descriptor.audioMediaArr.length ≤ s.terminations.length ∧ none ∉ descriptor.controlMediaArr := by
  have hctrl : ({ s with badRead := false }.controlMediaAnswerProcess W descriptor).badRead =
      decide (s.channels.length < descriptor.controlMediaArr.length) :=
    foldl_badRead (·.channels.length) (controlModify_channels W) (controlModify_badRead W) _ _
  have haud : ({ s with badRead := false }.avMediaAnswerProcess W descriptor).badRead =
      decide (s.terminations.length < descriptor.audioMediaArr.length) :=
    foldl_badRead (·.terminations.length) (slotModify_slots W) (slotModify_badRead W) _ _
  have hcall : descriptor.controlMediaArr.length ≤ s.channels.length →
      ((∀ call ∈ s.controlModifyCalls descriptor, call.2.isSome) ↔ none ∉ descriptor.controlMediaArr) := by
    intro hlen
    simp only [Session.controlModifyCalls, mem_map, mem_filter, mem_range, decide_eq_true_eq,
      forall_exists_index, and_imp, SessionDescriptor.controlMediaGet]
    constructor
    · intro h hmem
      obtain ⟨i, hi, hget⟩ := getElem_of_mem hmem
      have hsm := h _ i hi (Nat.lt_of_lt_of_le hi hlen) rfl
      rw [List.getElem?_eq_getElem hi, hget] at hsm
      cases hsm
    · rintro h _ i hi - rfl
      rw [List.getElem?_eq_getElem hi]
      cases hget : descriptor.controlMediaArr[i] with
      | none => exact absurd (hget ▸ getElem_mem hi) h
      | some media => rfl
  constructor
  · rintro ⟨hc, ha, hd⟩
    rw [hctrl, decide_eq_false_iff_not, Nat.not_lt] at hc
    rw [haud, decide_eq_false_iff_not, Nat.not_lt] at ha
    exact ⟨hc, ha, (hcall hc).1 hd⟩
  · rintro ⟨hc, ha, hd⟩
    exact ⟨by simpa [hctrl] using hc, by simpa [haud] using ha, (hcall hc).2 hd⟩

/-- A session with one channel is answered with two control media. -/
theorem not_answerSafe : ¬ AnswerSafe { accepts := fun _ => true }
    { channels := [{ key := 0, resourceName := [], termination := none, controlChannel := true }], terminations := [{}] }
    { controlMediaArr := [some { resourceName := [] }, some { resourceName := [] }] } := by
  intro h
  exact absurd h.control (by decide)

end UniMrcp.MrcpClient
