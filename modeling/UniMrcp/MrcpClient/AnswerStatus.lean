import UniMrcp.MrcpClient.Termination

/-!
# The status of the response to an offer

The response follows the last of the completions, which alone records that a control channel cannot be modified.
-/

namespace UniMrcp.MrcpClient

open Apt Mrcp Lib List Session Starts
open MrcpServer (SessionDescriptor)

variable {P : Profile} {W : Environment} {s : Session}

/-! ## What is started -/

def Subrequest.isOfAnswer (version : Version) : Subrequest → Prop
  | .controlModify _ => version ≠ .v1
  | .terminationModify _ | .addAssociation _ | .resetAssociations | .applyTopology => True
  | _ => False

variable {version : Version}

theorem Subrequest.isPlain_of_isOfAnswer {subrequest : Subrequest} (h : subrequest.isOfAnswer version) :
    subrequest.isPlain := by
  cases subrequest <;> first | rfl | exact h.elim

theorem controlModify_starts (hv : P.mrcpVersion ≠ .v1) (W : Environment) (s : Session) (i : Nat) :
    Starts (fun flag => flag = .channel i) (·.isOfAnswer P.mrcpVersion) s (s.controlModify W i) := by
  unfold Session.controlModify
  split_ifs with hi
  · exact request_flag hv rfl hi
  · exact nothing (Quiet.same rfl rfl rfl rfl rfl rfl rfl rfl rfl rfl rfl) rfl rfl fun _ => rfl

theorem slotModify_starts (W : Environment) (s : Session) (i : Nat) :
    Starts (fun flag => flag = .slot i) (·.isOfAnswer P.mrcpVersion) s (s.slotModify W i) := by
  unfold slotModify
  cases hs : s.terminations[i]? with
  | none => exact nothing (Quiet.same rfl rfl rfl rfl rfl rfl rfl rfl rfl rfl rfl) rfl rfl fun _ => rfl
  | some slot =>
    have hi : s.has (.slot i) := (List.getElem?_eq_some_iff.1 hs).1
    refine ite fun _ => ?_
    have hm : Starts (fun flag => flag = .slot i) (·.isOfAnswer P.mrcpVersion) s
        (s.request W (.terminationModify i)) := request_flag trivial rfl hi
    have ha : ∀ t : Session, Starts (fun _ => False) (·.isOfAnswer P.mrcpVersion) t
        (if t.channels[i]?.any (·.termination.isSome) then t.request W (.addAssociation i) else t) := fun t =>
      ite fun _ => request_plain trivial rfl
    exact (hm.trans (ha _) fun _ _ h => h).mono (fun _ h => h.resolve_right id) fun _ h => h

theorem avMediaAnswerProcess_starts (W : Environment) (s : Session) (descriptor : SessionDescriptor) :
    Starts (fun flag => ∃ i < descriptor.audioMediaArr.length, flag = .slot i) (·.isOfAnswer P.mrcpVersion) s
      (s.avMediaAnswerProcess W descriptor) := by
  refine foldl (slotModify_starts W) ?_ _
  rintro i j flag rfl h
  cases h
  rfl

theorem controlMediaAnswerProcess_starts (hv : P.mrcpVersion ≠ .v1) (W : Environment) (s : Session)
    (descriptor : SessionDescriptor) :
    Starts (fun flag => ∃ i < descriptor.controlMediaArr.length, flag = .channel i) (·.isOfAnswer P.mrcpVersion) s
      (s.controlMediaAnswerProcess W descriptor) := by
  unfold controlMediaAnswerProcess
  refine after (foldl (controlModify_starts hv W) ?_ _)
    (Quiet.same rfl rfl rfl rfl rfl rfl rfl rfl rfl rfl rfl) rfl rfl fun _ => rfl
  rintro i j flag rfl h
  cases h
  rfl

def Session.associationsReset (W : Environment) (s : Session) : Session :=
  if s.context then s.request W .resetAssociations else s

theorem associationsReset_starts (W : Environment) (s : Session) :
    Starts (fun _ => False) (·.isOfAnswer P.mrcpVersion) s (s.associationsReset W) :=
  ite fun _ => request_plain trivial rfl

theorem associationsReset_status (W : Environment) (s : Session) (status : SigStatusCode) :
    { s.associationsReset W with status := status } = { s with status := status }.associationsReset W := by
  unfold associationsReset Session.request
  split_ifs <;> rfl

theorem answerMedia_starts (P : Profile) (W : Environment) (s : Session) (descriptor : SessionDescriptor) :
    ∃ status, (status = s.status ∨ P.mrcpVersion = .v1 ∧ status = .failure) ∧
      ∃ owns, Starts owns (·.isOfAnswer P.mrcpVersion) { s with status := status }
        (if P.mrcpVersion = .v1 then (s.associationsReset W).resourceAnswerProcess W descriptor
          else ((s.associationsReset W).controlMediaAnswerProcess W descriptor).avMediaAnswerProcess W descriptor) := by
  by_cases hv : P.mrcpVersion = .v1
  · rw [if_pos hv]
    unfold resourceAnswerProcess
    split_ifs
    · exact ⟨s.status, Or.inl rfl, _, (associationsReset_starts W s).trans
        (avMediaAnswerProcess_starts W _ descriptor) fun _ h => h.elim⟩
    · refine ⟨.failure, Or.inr ⟨hv, rfl⟩, fun _ => False, ?_⟩
      rw [associationsReset_status]
      exact associationsReset_starts W _
    · exact ⟨s.status, Or.inl rfl, _, associationsReset_starts W s⟩
  · rw [if_neg hv]
    refine ⟨s.status, Or.inl rfl, _, (associationsReset_starts W s).trans ((controlMediaAnswerProcess_starts hv W _
      descriptor).trans (avMediaAnswerProcess_starts W _ descriptor) ?_) fun _ h => h.elim⟩
    rintro flag ⟨i, -, rfl⟩ ⟨j, -, h⟩
    cases h

theorem answerAccept_starts (P : Profile) (W : Environment) (s : Session) (descriptor : SessionDescriptor) :
    ∃ status, (status = s.status ∨ P.mrcpVersion = .v1 ∧ status = .failure) ∧
      Starts (fun _ => True) (·.isOfAnswer P.mrcpVersion) { s.stateSet .processingAnswer with status := status }
        (s.answerAccept P W descriptor) := by
  obtain ⟨status, hs, owns, ht⟩ := answerMedia_starts P W (s.stateSet .processingAnswer) descriptor
  refine ⟨status, hs, ?_⟩
  have ha : ∀ t : Session, Starts (fun _ => False) (·.isOfAnswer P.mrcpVersion) t
      (if t.context then t.request W .applyTopology else t) := fun t => ite fun _ => request_plain trivial rfl
  exact (ht.trans (ha _) fun _ _ h => h).mono (fun _ _ => trivial) fun _ h => h

variable {answer : Answer}

theorem answerTake_starts (P : Profile) (W : Environment) (s : Session) (ha : answer.accepted) :
    ∃ status, (status = s.status ∨ P.mrcpVersion = .v1 ∧ status = .failure) ∧
      Starts (fun _ => True) (·.isOfAnswer P.mrcpVersion) { s.stateSet .processingAnswer with status := status }
        (s.answerTake P W answer) := by
  obtain ⟨status, hs, ht⟩ := answerAccept_starts P W s answer.descriptor
  refine ⟨status, hs, ?_⟩
  unfold answerTake
  rw [if_pos ha]
  have hk : Starts (fun _ => False) (·.isOfAnswer P.mrcpVersion) (s.answerAccept P W answer.descriptor)
      { s.answerAccept P W answer.descriptor with answer := some answer.descriptor } :=
    nothing (Quiet.same rfl rfl rfl rfl rfl rfl rfl rfl rfl rfl rfl) rfl rfl fun _ => rfl
  exact (ht.trans hk fun _ _ h => h).mono (fun _ _ => trivial) fun _ h => h

/-! ## The response -/

def Session.responseStatus (s : Session) : Option SigStatusCode :=
  match s.log.getLast? with
  | some (.response response) => some response.status
  | _ => none

def Completion.fails (completion : Completion) : Bool :=
  match completion.subrequest with
  | .controlModify _ => !completion.result.status
  | _ => false

theorem Completion.version_of_fails (completion : Completion) (h : completion.fails)
    (ha : completion.subrequest.isOfAnswer version) : version ≠ .v1 := by
  obtain ⟨environment, subrequest, result⟩ := completion
  cases subrequest with
  | controlModify i => exact ha
  | _ => cases h

theorem sigResponseRaise_responseStatus (ha : s.activeRequest.isSome) :
    (s.sigResponseRaise true).responseStatus = some (if s.disconnected then .terminate else s.status) := by
  obtain ⟨request, hr⟩ := Option.isSome_iff_exists.1 ha
  unfold responseStatus
  rw [sigResponseRaise_log hr, List.getLast?_append]
  rfl

theorem proceed_responseStatus {last : Completion} (hn : last.subrequest.isOfAnswer P.mrcpVersion)
    (hs : s.state = .processingAnswer) (ha : s.activeRequest.isSome) :
    (proceed last.environment last.result last.subrequest s).responseStatus =
      some (if s.disconnected then .terminate else if last.fails then .failure else s.status) := by
  obtain ⟨environment, subrequest, result⟩ := last
  have hm : ∀ W : Environment, mediaProceed W s = s.sigResponseRaise true := fun W => by
    simp [mediaProceed, hs]
  cases subrequest with
  | controlModify i =>
    unfold proceed Completion.fails
    cases hr : result.status
    · exact sigResponseRaise_responseStatus (s := { s with status := .failure }) ha
    · exact sigResponseRaise_responseStatus ha
  | terminationModify | addAssociation | resetAssociations | applyTopology =>
    exact (congrArg responseStatus (hm environment)).trans (sigResponseRaise_responseStatus ha)
  | controlAdd | controlRemove | terminationAdd | terminationSubtract | destroyTopology | terminate | discover | offer
  | control => exact hn.elim

theorem completedAll_responseStatus (hf : s.offer.isSome) (hc : s.activeRequest.isSome)
    (h : answer.accepted) :
    ∃ status, (status = s.status ∨ P.mrcpVersion = .v1 ∧ status = .failure) ∧ ∀ order : List Completion,
      (s.outstanding ++ order.map Completion.subrequest).Perm (s.answerProcess P W (some answer)).outstanding →
        (∀ completion ∈ order, completion.subrequest.isOfAnswer P.mrcpVersion) ∧
        (order.foldl (completed P) (s.answerProcess P W (some answer))).responseStatus =
          some (if s.disconnected then .terminate
            else if order.getLast?.any Completion.fails then .failure else status) := by
  obtain ⟨status, hs, new, hn⟩ := answerTake_starts P W s h
  refine ⟨status, hs, fun order ho => ?_⟩
  obtain ⟨offer, hsm⟩ := Option.isSome_iff_exists.1 hf
  have hr : s.answerProcess P W (some answer) =
      if (s.answerTake P W answer).subrequestCount = 0 then (s.answerTake P W answer).sigResponseRaise true
      else s.answerTake P W answer := by
    simp [answerProcess, hsm]
  have hp : (order.map Completion.subrequest).Perm new := by
    have ht : (s.answerProcess P W (some answer)).outstanding = s.outstanding ++ new := by
      rw [hr]
      split_ifs
      · exact (sigResponseRaise_outstanding _ true).trans hn.outstanding
      · exact hn.outstanding
    rw [ht] at ho
    exact (perm_append_left_iff _).1 ho
  have hk : ∀ completion ∈ order, completion.subrequest.isOfAnswer P.mrcpVersion := fun completion hm =>
    hn.kinds _ (hp.mem_iff.1 (mem_map_of_mem hm))
  have hcn : (s.answerTake P W answer).subrequestCount = order.length := by
    rw [hn.count, ← hp.length_eq, length_map]
    exact Nat.zero_add _
  refine ⟨hk, ?_⟩
  rw [hr, hcn]
  rcases eq_or_ne order [] with rfl | hne
  · have hq := hn.quiet
    refine (sigResponseRaise_responseStatus (s := s.answerTake P W answer) ?_).trans ?_
    · exact hq.active ▸ hc
    · rw [hq.disconnected, hq.status]
      rfl
  · obtain ⟨before, last, rfl⟩ : ∃ before last, order = before ++ [last] :=
      ⟨order.dropLast, order.getLast hne, (dropLast_append_getLast hne).symm⟩
    rw [if_neg (by simp)]
    obtain ⟨u, hq, -, hu⟩ := (hn.waits rfl).completedAll (P := P)
      (fun subrequest hm => Subrequest.isPlain_of_isOfAnswer (hn.kinds subrequest hm)) hp
    have ha := hn.quiet.trans hq
    rw [hu, proceed_responseStatus (hk last (by simp)) ha.state (ha.active ▸ hc), ha.disconnected,
      ha.status]
    simp [stateSet]

/-! ## Independence of the order -/

/-- **The status is determined** whatever the order of the completions, and is success only if every control channel was
modified. -/
def StatusDetermined (P : Profile) (s : Session) (completions : List Completion) : Prop :=
  ∃ status, ∀ order : List Completion, order.Perm completions →
    (order.foldl (Session.completed P) s).responseStatus = some status ∧
      (status = .success → ∀ completion ∈ completions, completion.fails = false)

/-- **When the status of a response is determined.** For an answer that is accepted, and all that it has started in any
order, the status is determined just when the session is disconnected or has failed before, no control channel fails to
be modified, or nothing else than such failures is completed. -/
theorem answerProcess_statusDetermined_iff (s : Session) (answer : Answer) (hoffer : s.offer.isSome)
    (hact : s.activeRequest.isSome) (haccepted : answer.accepted) (completions : List Completion)
    (hcompletions : (s.outstanding ++ completions.map Completion.subrequest).Perm
      (s.answerProcess P W (some answer)).outstanding) :
    StatusDetermined P (s.answerProcess P W (some answer)) completions ↔
      s.disconnected ∨ s.status = .failure ∨ (∀ completion ∈ completions, completion.fails = false) ∨
        ∀ completion ∈ completions, completion.fails := by
  obtain ⟨status, hstat, hall⟩ := completedAll_responseStatus (P := P) (W := W) hoffer hact haccepted
  have horder : ∀ order : List Completion, order.Perm completions →
      (∀ completion ∈ order, completion.subrequest.isOfAnswer P.mrcpVersion) ∧
      (order.foldl (Session.completed P) (s.answerProcess P W (some answer))).responseStatus =
        some (if s.disconnected then .terminate
          else if order.getLast?.any Completion.fails then .failure else status) := fun order hperm =>
    hall order (((hperm.map Completion.subrequest).append_left s.outstanding).trans hcompletions)
  have hlast : ∀ order : List Completion, order.Perm completions → ∀ b, (∀ c ∈ completions, c.fails = b) →
      completions ≠ [] → order.getLast?.any Completion.fails = b := by
    intro order hperm b hb hne
    have hne' : order ≠ [] := fun h => hne (by simpa [h] using hperm.symm)
    rw [List.getLast?_eq_some_getLast hne']
    exact hb _ (hperm.mem_iff.1 (getLast_mem hne'))
  constructor
  · rintro ⟨code, hcode⟩
    by_contra hnot
    simp only [not_or, not_forall, Bool.not_eq_true, Bool.not_eq_false] at hnot
    obtain ⟨hconnected, hnofailure, ⟨a, ha, hafails⟩, ⟨b, hb, hbfails⟩⟩ := hnot
    obtain ⟨before, hbefore⟩ := exists_perm_last ha
    obtain ⟨before', hbefore'⟩ := exists_perm_last hb
    have hacode := (hcode _ hbefore).1
    have hbcode := (hcode _ hbefore').1
    rw [(horder _ hbefore).2] at hacode
    rw [(horder _ hbefore').2] at hbcode
    simp only [hconnected, Bool.false_eq_true, if_false, List.getLast?_concat, Option.any_some, hafails, hbfails,
      if_true] at hacode hbcode
    -- A control channel was to be modified, so that the version is not the first, and nothing has failed before.
    have hver : P.mrcpVersion ≠ .v1 := a.version_of_fails hafails ((horder _ hbefore).1 a (by simp))
    rcases hstat with rfl | ⟨hv1, -⟩
    · exact hnofailure (Option.some.inj (hbcode.trans hacode.symm))
    · exact hver hv1
  · rintro (hdisconnected | hfailure | hnone | hevery)
    · refine ⟨.terminate, fun order hperm => ⟨?_, nofun⟩⟩
      rw [(horder order hperm).2, hdisconnected]
      rfl
    · obtain rfl : status = .failure := by
        rcases hstat with rfl | ⟨-, rfl⟩
        · exact hfailure
        · rfl
      refine ⟨if s.disconnected then .terminate else .failure, fun order hperm => ⟨?_, ?_⟩⟩
      · rw [(horder order hperm).2, ite_self]
      · split_ifs <;> exact nofun
    · refine ⟨if s.disconnected then .terminate else status, fun order hperm => ⟨?_, fun _ => hnone⟩⟩
      rw [(horder order hperm).2]
      rcases eq_or_ne completions [] with rfl | hne
      · rw [hperm.eq_nil]
        rfl
      · rw [hlast order hperm false hnone hne]
        rfl
    · rcases eq_or_ne completions [] with rfl | hne
      · refine ⟨if s.disconnected then .terminate else status, fun order hperm => ⟨?_, fun _ c hc => by cases hc⟩⟩
        rw [(horder order hperm).2, hperm.eq_nil]
        rfl
      · refine ⟨if s.disconnected then .terminate else .failure, fun order hperm => ⟨?_, ?_⟩⟩
        · rw [(horder order hperm).2, hlast order hperm true hevery hne]
          rfl
        · split_ifs <;> exact nofun

def offeredSession : Session := ((run (Session.step callProfile) {} (callInputs.take 4)).1).complete .offer

/-- The status of the response of the call is determined. -/
theorem answerProcess_statusDetermined_call :
    let completions := callOrder [.resetAssociations, .controlModify 0, .terminationModify 0, .addAssociation 0,
      .applyTopology]
    StatusDetermined callProfile (offeredSession.answerProcess callProfile callEnvironment (some callAnswer)) completions ↔
      offeredSession.disconnected ∨ offeredSession.status = .failure ∨
        (∀ completion ∈ completions, completion.fails = false) ∨ ∀ completion ∈ completions, completion.fails :=
  answerProcess_statusDetermined_iff (W := callEnvironment) offeredSession callAnswer (by decide +kernel)
    (by decide +kernel) (by decide) _ (by decide +kernel)

def modifyFailed : Completion := ⟨callEnvironment, .controlModify 0, { status := false }⟩

def otherCompletions : List Completion :=
  callOrder [.resetAssociations, .terminationModify 0, .addAssociation 0, .applyTopology]

/-- It is not when the control channel cannot be modified, since it depends on which completion is the last. -/
theorem not_statusDetermined_modifyFailed :
    (offeredSession.outstanding ++ (modifyFailed :: otherCompletions).map Completion.subrequest).Perm
        (offeredSession.answerProcess callProfile callEnvironment (some callAnswer)).outstanding ∧
      ¬ StatusDetermined callProfile (offeredSession.answerProcess callProfile callEnvironment (some callAnswer))
        (modifyFailed :: otherCompletions) := by
  refine ⟨by decide +kernel, ?_⟩
  rintro ⟨status, hstat⟩
  have hfirst := (hstat (modifyFailed :: otherCompletions) (List.Perm.refl _)).1
  have hlast := (hstat (otherCompletions ++ [modifyFailed]) perm_append_comm).1
  have hdiffer : ((modifyFailed :: otherCompletions).foldl (Session.completed callProfile)
        (offeredSession.answerProcess callProfile callEnvironment (some callAnswer))).responseStatus ≠
      ((otherCompletions ++ [modifyFailed]).foldl (Session.completed callProfile)
        (offeredSession.answerProcess callProfile callEnvironment (some callAnswer))).responseStatus := by decide +kernel
  exact hdiffer (hfirst.trans hlast.symm)

end UniMrcp.MrcpClient
