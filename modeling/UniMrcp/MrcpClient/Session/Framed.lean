import UniMrcp.MrcpClient.Session

/-!
# What a client session keeps

A property of the log, the channels, the slots and the media context is kept by all that a session does, apart from the
addition of a channel and the subtraction of terminations, if the changes of a field keep it.
-/

namespace UniMrcp.MrcpClient

open Apt Mrcp List Session
open MrcpServer (RtpMedia SessionDescriptor)

def Event.subtracts : Event → Bool
  | .start (.terminationSubtract _) => true
  | _ => false

variable {P : Profile} {W : Environment} {s t : Session} {I : Session → Prop}

/-- **A property that is kept** by the changes of a field. -/
structure Framed (I : Session → Prop) : Prop where
  same : ∀ {s t : Session}, I s → t.log = s.log → t.channels = s.channels → t.terminations = s.terminations →
    t.context = s.context → I t
  see : ∀ {s : Session} {event : Event}, I s → event.subtracts = false → I (s.see event)
  modifyChannel : ∀ {s : Session} (i : Nat) {f : Channel → Channel}, I s →
    (∀ channel, (f channel).termination = channel.termination) → I (s.modifyChannel i f)
  modifySlot : ∀ {s : Session} (i : Nat) {f : Slot → Slot}, I s →
    (∀ slot, (f slot).termination = slot.termination) → I (s.modifySlot i f)

namespace Framed

variable (hI : Framed I)

include hI

theorem setWaiting (h : I s) (flag : Flag) (b : Bool) : I (s.setWaiting flag b) := by
  cases flag with
  | channel i | termination i => exact hI.modifyChannel i h fun _ => rfl
  | slot i => exact hI.modifySlot i h fun _ => rfl

variable {subrequest : Subrequest}

theorem start (h : I s) (hs : (Event.start subrequest).subtracts = false) : I (s.start subrequest) := by
  apply hI.see
  · exact hI.same h rfl rfl rfl rfl
  · exact hs

theorem request (h : I s) (W : Environment) (hs : (Event.start subrequest).subtracts = false) :
    I (s.request W subrequest) := by
  unfold Session.request
  split
  · have hst := hI.start h hs
    cases subrequest.flag with
    | none => exact hI.same hst rfl rfl rfl rfl
    | some flag => exact hI.same (hI.setWaiting hst flag true) rfl rfl rfl rfl
  · exact h

/-! ## Responses -/

theorem logged (h : I s) (event : Event) (he : event.subtracts = false) (log : t.log = s.log ++ [event])
    (channels : t.channels = s.channels) (slots : t.terminations = s.terminations) (context : t.context = s.context) :
    I t :=
  hI.same (hI.see h he) log channels slots context

theorem sigResponseRaise (h : I s) (process : Bool) : I (s.sigResponseRaise process) := by
  unfold Session.sigResponseRaise
  cases s.activeRequest with
  | none => exact h
  | some request =>
    cases s.disconnected <;> cases process <;>
      exact hI.logged h (.response { request, status := _ }) rfl rfl rfl rfl rfl

theorem failureMessageRaise (h : I s) : I s.failureMessageRaise := by
  unfold Session.failureMessageRaise
  cases s.activeRequest with
  | none => exact h
  | some request => exact hI.logged h _ rfl rfl rfl rfl rfl

theorem discoverRaise (h : I s) : I s.discoverRaise := by
  unfold Session.discoverRaise
  cases s.activeRequest with
  | none => exact h
  | some request => exact hI.logged h _ rfl rfl rfl rfl rfl

theorem controlMessageRaise (h : I s) (key : Nat) (message : ControlMessage) :
    I (s.controlMessageRaise key message) := by
  unfold Session.controlMessageRaise
  cases message.messageType with
  | response =>
    cases s.activeRequest with
    | none => exact h
    | some request =>
      cases request with
      | control target request => exact hI.logged h _ rfl rfl rfl rfl rfl
      | _ => exact h
  | event => exact hI.logged h _ rfl rfl rfl rfl rfl
  | request | unknown => exact h

omit hI in
theorem foldl {α : Type} (h : I s) {body : Session → α → Session} (hb : ∀ t a, I t → I (body t a)) (l : List α) :
    I (l.foldl body s) := by
  induction l generalizing s with
  | nil => exact h
  | cons a l ih => exact ih (hb s a h)

theorem controlDestroy (h : I s) (i : Nat) : I (s.controlDestroy i) := by
  unfold Session.controlDestroy
  split
  · apply hI.see
    · exact hI.modifyChannel i h fun _ => rfl
    · rfl
  · exact h

theorem sessionTerminateRaise (h : I s) (status : SigStatusCode) : I (s.sessionTerminateRaise status) := by
  have hd := foldl h (fun t i ht => hI.controlDestroy ht i) (List.range s.channels.length)
  generalize hs : (List.range s.channels.length).foldl Session.controlDestroy s = t at hd
  have hr : I (t.see .sessionRemove) := hI.see hd rfl
  unfold Session.sessionTerminateRaise
  rw [hs]
  dsimp only
  split
  · exact hI.sigResponseRaise hr false
  · apply hI.sigResponseRaise
    exact hI.same hr rfl rfl rfl rfl

/-! ## Requests -/

theorem modifyOffer (h : I s) (f : SessionDescriptor → SessionDescriptor) : I (s.modifyOffer f) := by
  unfold Session.modifyOffer
  cases s.offer <;> exact hI.same h rfl rfl rfl rfl

theorem localMediaAdd (h : I s) (i : Nat) (localMedia : Option RtpMedia) : I (s.localMediaAdd i localMedia) := by
  cases localMedia with
  | none => exact h
  | some media => exact hI.modifySlot i (hI.modifyOffer h _) fun _ => rfl

theorem offerSend (h : I s) (W : Environment) : I (s.offerSend W) := by
  unfold Session.offerSend
  split
  · exact hI.same h rfl rfl rfl rfl
  · split
    · exact hI.start h rfl
    · exact h

theorem channelModify (h : I s) (P : Profile) (W : Environment) (key : Nat) (enable : Bool) :
    I (s.channelModify P W key enable) := by
  unfold Session.channelModify
  cases s.offer with
  | none => exact h
  | some offer =>
    dsimp only
    apply hI.offerSend
    exact hI.same h rfl rfl rfl rfl

theorem controlOffer (h : I s) (P : Profile) (W : Environment) (i : Nat) (resourceName : Bytes) :
    I (s.controlOffer P W i resourceName) := by
  unfold Session.controlOffer
  split
  · exact hI.modifyOffer h _
  · exact hI.request (hI.modifyOffer h _) W rfl

theorem resourceDiscover (h : I s) (P : Profile) (W : Environment) : I (s.resourceDiscover P W) := by
  have hs : I ({ s with answer := none }.stateSet .discovering) := hI.same h rfl rfl rfl rfl
  unfold Session.resourceDiscover
  dsimp only
  generalize { s with answer := none }.stateSet .discovering = t at hs
  have hr : I (if P.mrcpVersion = .v1 then
      P.resources.foldl (fun s name => Session.request W s (.discover (some name))) t
      else t.request W (.discover none)) := by
    split
    · exact foldl hs (fun u name hu => hI.request hu W rfl) P.resources
    · exact hI.request hs W rfl
  generalize (if P.mrcpVersion = .v1 then
      P.resources.foldl (fun s name => Session.request W s (.discover (some name))) t
      else t.request W (.discover none)) = u at hr
  split
  · apply hI.sigResponseRaise
    exact hI.same hr rfl rfl rfl rfl
  · exact hr

theorem messageSend (h : I s) (W : Environment) (key : Nat) (message : ControlMessage) :
    I (s.messageSend W key message) := by
  unfold Session.messageSend
  split
  · exact hI.controlMessageRaise h key _
  · dsimp only
    split
    · have hs : I (({ s with lastRequestId := s.lastRequestId + 1 } : Session).start (.control key)) := by
        apply hI.start
        · exact hI.same h rfl rfl rfl rfl
        · rfl
      exact hI.see hs rfl
    · exact hI.same h rfl rfl rfl rfl

/-! ## Answers -/

theorem slotModify (h : I s) (W : Environment) (i : Nat) : I (s.slotModify W i) := by
  unfold Session.slotModify
  cases s.terminations[i]? with
  | none => exact hI.same h rfl rfl rfl rfl
  | some slot =>
    dsimp only
    split
    · have hm : I (s.request W (.terminationModify i)) := hI.request h W rfl
      split
      · exact hI.request hm W rfl
      · exact hm
    · exact h

theorem avMediaAnswerProcess (h : I s) (W : Environment) (descriptor : SessionDescriptor) :
    I (s.avMediaAnswerProcess W descriptor) :=
  foldl h (fun _ i ht => hI.slotModify ht W i) _

theorem controlMediaAnswerProcess (h : I s) (W : Environment) (descriptor : SessionDescriptor) :
    I (s.controlMediaAnswerProcess W descriptor) := by
  unfold Session.controlMediaAnswerProcess
  dsimp only
  apply foldl
  · exact hI.same h rfl rfl rfl rfl
  · intro t i ht
    unfold Session.controlModify
    split
    · exact hI.request ht W rfl
    · exact hI.same ht rfl rfl rfl rfl

theorem resourceAnswerProcess (h : I s) (W : Environment) (descriptor : SessionDescriptor) :
    I (s.resourceAnswerProcess W descriptor) := by
  unfold Session.resourceAnswerProcess
  split
  · split
    · exact hI.avMediaAnswerProcess h W descriptor
    · exact hI.same h rfl rfl rfl rfl
  · exact h

theorem request_if (h : I s) (W : Environment) {c : Prop} [Decidable c]
    (hs : (Event.start subrequest).subtracts = false) : I (if c then s.request W subrequest else s) := by
  split
  · exact hI.request h W hs
  · exact h

theorem answerAccept (h : I s) (P : Profile) (W : Environment) (descriptor : SessionDescriptor) :
    I (s.answerAccept P W descriptor) := by
  unfold Session.answerAccept
  refine hI.request_if ?_ W rfl
  have hr : I (if (s.stateSet .processingAnswer).context then
      (s.stateSet .processingAnswer).request W .resetAssociations else s.stateSet .processingAnswer) := by
    apply hI.request_if
    · exact hI.same h rfl rfl rfl rfl
    · rfl
  split
  · exact hI.resourceAnswerProcess hr W descriptor
  · exact hI.avMediaAnswerProcess (hI.controlMediaAnswerProcess hr W descriptor) W descriptor

theorem answerProcess (h : I s) (P : Profile) (W : Environment) (answer : Option Answer) :
    I (s.answerProcess P W answer) := by
  unfold Session.answerProcess
  split
  · exact h
  · cases answer with
    | none =>
      dsimp only
      apply hI.sigResponseRaise
      exact hI.same h rfl rfl rfl rfl
    | some answer =>
      have ht : I (s.answerTake P W answer) := by
        unfold answerTake
        split
        · exact hI.same (hI.answerAccept h P W answer.descriptor) rfl rfl rfl rfl
        · exact hI.same h rfl rfl rfl rfl
      dsimp only
      split
      · exact hI.sigResponseRaise ht true
      · exact ht

/-! ## Completions -/

theorem subrequestRemove (h : I s) {last : Session → Session} (hl : ∀ t, I t → I (last t)) :
    I (s.subrequestRemove last) := by
  unfold Session.subrequestRemove
  dsimp only
  split
  · exact h
  · split
    · apply hl
      exact hI.same h rfl rfl rfl rfl
    · exact hI.same h rfl rfl rfl rfl

theorem onWaited (h : I s) (flag : Flag) {last update : Session → Session} (hl : ∀ t, I t → I (last t))
    (hu : ∀ t, I t → I (update t)) : I (s.onWaited flag last update) := by
  unfold Session.onWaited
  split
  · exact hI.subrequestRemove (hu _ (hI.setWaiting h flag false)) hl
  · exact h

theorem mediaProceed (h : I s) (W : Environment) : I (s.mediaProceed W) := by
  unfold Session.mediaProceed
  cases s.state with
  | generatingOffer => exact hI.offerSend h W
  | processingAnswer => exact hI.sigResponseRaise h true
  | none | terminating | discovering => exact h

theorem discoverResponseProcess (h : I s) (P : Profile) (descriptor : Option SessionDescriptor) :
    I (s.discoverResponseProcess P descriptor) := by
  unfold Session.discoverResponseProcess
  split
  · exact h
  · cases descriptor with
    | none =>
      dsimp only
      apply hI.sigResponseRaise
      exact hI.same h rfl rfl rfl rfl
    | some descriptor =>
      dsimp only
      apply hI.subrequestRemove
      · split
        · split
          · exact hI.same h rfl rfl rfl rfl
          · exact h
        · exact hI.same h rfl rfl rfl rfl
      · exact fun _ ht => hI.discoverRaise ht

theorem onCompletion (h : I s) (P : Profile) (W : Environment) (result : Result) (subrequest : Subrequest) :
    I (s.onCompletion P W result subrequest) := by
  have hp (t : Session) (ht : I t) : I (t.mediaProceed W) := hI.mediaProceed ht W
  have hn (t : Session) (ht : I t) : I (t.offerSend W) := hI.offerSend ht W
  have hs (t : Session) (ht : I t) : I t := ht
  cases subrequest with
  | controlAdd i => exact hI.onWaited h (.channel i) hn hs
  | controlModify i =>
    refine hI.onWaited h (.channel i) (fun t ht => ?_) hs
    split
    · exact hI.sigResponseRaise ht true
    · apply hI.sigResponseRaise
      exact hI.same ht rfl rfl rfl rfl
  | controlRemove i => exact hI.onWaited h (.channel i) (fun t ht => hI.sessionTerminateRaise ht _) hs
  | terminationAdd termination =>
    cases termination with
    | rtp i => exact hI.onWaited h (.slot i) hn fun t ht => hI.localMediaAdd ht i result.localMedia
    | channel i => exact hI.onWaited h (.termination i) hn hs
  | terminationModify i => exact hI.onWaited h (.slot i) hp hs
  | terminationSubtract termination =>
    cases termination with
    | rtp i => exact hI.onWaited h (.slot i) (fun t ht => hI.sessionTerminateRaise ht .success) hs
    | channel i => exact hI.onWaited h (.termination i) (fun t ht => hI.sigResponseRaise ht true) hs
  | resetAssociations | addAssociation _ | applyTopology | destroyTopology => exact hI.subrequestRemove h hp
  | terminate => exact hI.subrequestRemove h fun t ht => hI.sessionTerminateRaise ht .success
  | discover name => exact hI.discoverResponseProcess h P result.descriptor
  | offer =>
    apply hI.answerProcess
    exact hI.same h rfl rfl rfl rfl
  | control key => exact h

/-! ## Steps -/

variable (hadd : ∀ t key, I t → I (t.channelAdd P W key))

include hadd

theorem requestProcess (h : I s) {message : AppMessage}
    (hterm : message = .sessionTerminate → I ({ s with status := .success } : Session) →
      I (({ s with status := .success } : Session).sessionTerminate W)) : I (s.requestProcess P W message) := by
  have hs : I ({ s with status := .success } : Session) := hI.same h rfl rfl rfl rfl
  cases message with
  | sessionUpdate =>
    unfold Session.requestProcess Session.sessionUpdate
    dsimp only
    split
    · exact hs
    · exact hI.offerSend hs W
  | sessionTerminate => exact hterm rfl hs
  | channelAdd key => exact hadd _ key hs
  | channelRemove key => exact hI.channelModify hs P W key false
  | resourceDiscover => exact hI.resourceDiscover hs P W
  | control key message => exact hI.messageSend hs W key message

theorem requestDispatch (h : I s) {message : AppMessage}
    (hterm : message = .sessionTerminate → s.state ≠ .terminating → I ({ s with status := .success } : Session) →
      I (({ s with status := .success } : Session).sessionTerminate W)) : I (s.requestDispatch P W message) := by
  unfold Session.requestDispatch
  split
  · exact h
  · rename_i hst
    split
    · apply hI.failureMessageRaise
      exact hI.same h rfl rfl rfl rfl
    · split
      · exact hI.requestProcess hadd h fun hm => hterm hm hst
      · split
        · apply hI.sigResponseRaise
          exact hI.same h rfl rfl rfl rfl
        · rename_i hm
          have hs : I (if agentsSelected P W then s else { s with status := .failure }) := by
            split
            · exact h
            · exact hI.same h rfl rfl rfl rfl
          unfold register
          dsimp only
          generalize (if agentsSelected P W then s else { s with status := .failure }) = t at hs
          split
          · exact hI.failureMessageRaise hs
          · split
            · apply hI.failureMessageRaise
              exact hI.same hs rfl rfl rfl rfl
            · apply hI.requestProcess hadd
              · exact hI.logged hs .sessionAdd rfl rfl rfl rfl rfl
              · rintro rfl
                exact absurd rfl hm

theorem step (h : I s) (input : Input)
    (hterm : ∀ t : Session, I t → s.state ≠ .terminating → (input = .request .sessionTerminate ∧
      s.activeRequest = none ∧ t.log = s.log ++ [.request .sessionTerminate] ∨ input = .dispatch ∧
      s.activeRequest = some .sessionTerminate ∧ t.log = s.log) → I (t.sessionTerminate W)) :
    I (Session.step P s (W, input)).1 := by
  have hc (subrequest : Subrequest) : I (s.complete subrequest) :=
    hI.logged h (.complete subrequest) rfl rfl rfl rfl rfl
  cases input with
  | request message =>
    have hn : I (s.see (.request message)) := hI.see h rfl
    change I (s.appMessageProcess P W message)
    unfold appMessageProcess
    dsimp only
    split
    · exact hI.same hn rfl rfl rfl rfl
    · rename_i ha
      apply hI.requestDispatch hadd
      · exact hI.same hn rfl rfl rfl rfl
      · rintro rfl hs ht
        have hnone : s.activeRequest = none := by simpa [Session.see] using ha
        exact hterm _ ht hs (Or.inl ⟨rfl, hnone, rfl⟩)
  | dispatch =>
    change I (s.activeRequest.elim s ({ s with dispatching := false }.requestDispatch P W))
    cases ha : s.activeRequest with
    | none => exact h
    | some message =>
      dsimp only [Option.elim_some]
      apply hI.requestDispatch hadd
      · exact hI.same h rfl rfl rfl rfl
      · rintro rfl hs ht
        exact hterm _ ht hs (Or.inr ⟨rfl, ha, rfl⟩)
  | completed subrequest result => exact hI.onCompletion (hc subrequest) P W result subrequest
  | receive key message =>
    have hrc (t : Session) (ht : I t) : I (t.messageReceive P key message) := by
      unfold Session.messageReceive
      split
      · cases t.channelFindByName message.resourceName with
        | none => exact ht
        | some channel => exact hI.controlMessageRaise ht channel.key message
      · exact hI.controlMessageRaise ht key message
    apply hrc
    split
    · exact hc (.control key)
    · exact h
  | disconnect =>
    change I s.terminateEventProcess
    unfold terminateEventProcess
    dsimp only
    split
    · exact h
    · split
      · exact hI.logged h .terminateEvent rfl rfl rfl rfl rfl
      · exact hI.same h rfl rfl rfl rfl

end Framed

end UniMrcp.MrcpClient
