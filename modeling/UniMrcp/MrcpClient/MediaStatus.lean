import UniMrcp.Mpf.Engine.Commands
import UniMrcp.MrcpClient.Session.Framed

/-!
# Failed media commands of a client session

A session sends commands to the media engine and hears of each with a status code, which its handlers do not read.
-/

namespace UniMrcp.MrcpClient

open Apt Lib Mpf Mrcp List MpfCommand Session
open MrcpServer (RtpMedia SessionDescriptor)

def Subrequest.mpfCommand : Subrequest → Option (MpfCommand Termination)
  | .terminationAdd termination => some (.addTermination termination)
  | .terminationModify slot => some (.modifyTermination (.rtp slot))
  | .terminationSubtract termination => some (.subtractTermination termination)
  | .resetAssociations => some .resetAssociations
  | .addAssociation slot => some (.addAssociation (.rtp slot) (some (.channel slot)))
  | .applyTopology => some .applyTopology
  | .destroyTopology => some .destroyTopology
  | _ => none

def Subrequest.isTermination : Subrequest → Bool
  | .terminationAdd _ | .terminationModify _ | .terminationSubtract _ => true
  | _ => false

def Event.mpfCommand : Event → Option (MpfCommand Termination)
  | .start subrequest => subrequest.mpfCommand
  | _ => none

def Event.raised : Event → Option SigStatusCode
  | .response r => some r.status
  | _ => none

def Session.mpfCommands (s : Session) : List (MpfCommand Termination) := s.log.filterMap Event.mpfCommand

/-- The number of terminations of the media context of a session, given to `mpf_engine_context_create`. -/
def maxTerminationCount : Nat := 5

/-- A command is completed with the status code with which the media engine has answered it. -/
def Session.served (E : MediaEngine Termination) (s : Session) : Input → Bool
  | .completed subrequest result => subrequest.mpfCommand.all fun command =>
      (E.responses maxTerminationCount s.mpfCommands).contains ⟨command, mpfStatusCode result.status⟩
  | _ => true

def Environment.takesMedia (W : Environment) : Prop :=
  ∀ subrequest : Subrequest, subrequest.mpfCommand.isSome → W.accepts subrequest

/-- A session has added as many terminations as its media context has room for, or fewer. -/
def Session.fits (s : Session) : Bool := s.mpfCommands.countP MpfCommand.isAdd ≤ maxTerminationCount

def Session.dispatched (s : Session) : Input → Option AppMessage
  | .request message => if s.activeRequest.isNone then some message else none
  | .dispatch => s.activeRequest
  | _ => none

/-- The session has subtracted terminations, and goes on to terminate once more. -/
def Session.releasesAgain (s : Session) (input : Input) : Bool :=
  s.mpfCommands.any MpfCommand.isSubtract && s.state != .terminating && s.dispatched input == some .sessionTerminate

/-- After a command for a termination has failed, the response that is raised next is not one of success. -/
def FailuresReported (P : Profile) (inputs : List (Environment × Input)) : Prop :=
  ∀ before W subrequest result after, inputs = before ++ (W, .completed subrequest result) :: after →
    subrequest.isTermination → result.status = false →
      ∀ status ∈ ((run (Session.step P) {} inputs).1.log.drop
        (run (Session.step P) {} before).1.log.length).findSome? Event.raised, status ≠ .success

/-! ## The invariant -/

/-- What is subtracted was added before, and is subtracted once; all terminations were added, but for those that are
due. -/
structure Tended (due : Termination → Prop) (s : Session) : Prop where
  once : SubtractsOnce s.mpfCommands
  channels : ∀ i, s.channels[i]?.any (·.termination.isSome) →
    .addTermination (.channel i) ∈ s.mpfCommands ∨ due (.channel i)
  slots : ∀ i, s.terminations[i]?.any Slot.termination →
    .addTermination (.rtp i) ∈ s.mpfCommands ∨ due (.rtp i)

variable {P : Profile} {W : Environment} {due due' : Termination → Prop} {s t : Session}

namespace Tended

theorem same (h : Tended due s) (log : t.log = s.log) (channels : t.channels = s.channels)
    (slots : t.terminations = s.terminations) : Tended due t := by
  obtain ⟨ho, hc, hs⟩ := h
  constructor
  · rwa [mpfCommands, log]
  · rwa [mpfCommands, log, channels]
  · rwa [mpfCommands, log, slots]

theorem mono (h : Tended due s) (hd : ∀ termination, due termination →
    .addTermination termination ∈ s.mpfCommands ∨ due' termination) : Tended due' s := by
  refine ⟨h.once, fun i hi => ?_, fun i hi => ?_⟩
  · exact (h.channels i hi).elim Or.inl (hd _)
  · exact (h.slots i hi).elim Or.inl (hd _)

theorem mpfCommands_see (s : Session) (event : Event) :
    (s.see event).mpfCommands = s.mpfCommands ++ event.mpfCommand.toList := by
  unfold mpfCommands Session.see
  cases h : event.mpfCommand <;> simp [filterMap_append, h]

theorem see (h : Tended due s) {event : Event} (he : ∀ termination,
    event.mpfCommand = some (.subtractTermination termination) →
      .addTermination termination ∈ s.mpfCommands ∧ .subtractTermination termination ∉ s.mpfCommands) :
    Tended due (s.see event) := by
  have hcm := mpfCommands_see s event
  have hm {command : MpfCommand Termination} (hc : command ∈ s.mpfCommands) :
      command ∈ (s.see event).mpfCommands := by
    rw [hcm]
    exact mem_append_left _ hc
  constructor
  · rw [hcm]
    cases hd : event.mpfCommand with
    | none => simpa using h.once
    | some command =>
      apply subtractsOnce_append_one h.once
      rintro termination rfl
      exact he termination hd
  · exact fun i hi => (h.channels i hi).imp_left hm
  · exact fun i hi => (h.slots i hi).imp_left hm

theorem modifyChannel (h : Tended due s) (i : Nat) {f : Channel → Channel}
    (hf : ∀ channel, (f channel).termination = channel.termination) : Tended due (s.modifyChannel i f) := by
  refine ⟨h.once, fun j hj => h.channels j ?_, h.slots⟩
  unfold Session.modifyChannel at hj
  rw [List.getElem?_modify] at hj
  cases hc : s.channels[j]? with
  | none => simp [hc] at hj
  | some channel =>
    rw [hc] at hj
    by_cases hi : i = j
    · simpa [hi, hf] using hj
    · simpa [hi] using hj

theorem modifySlot (h : Tended due s) (i : Nat) {f : Slot → Slot}
    (hf : ∀ slot, (f slot).termination → slot.termination ∨ due (.rtp i)) :
    Tended due (s.modifySlot i f) := by
  refine ⟨h.once, h.channels, fun j hj => ?_⟩
  unfold Session.modifySlot at hj
  rw [List.getElem?_modify] at hj
  cases hs : s.terminations[j]? with
  | none => simp [hs] at hj
  | some slot =>
    rw [hs] at hj
    have ho (ht : slot.termination) :
        .addTermination (.rtp j) ∈ s.mpfCommands ∨ due (.rtp j) := h.slots j (by simp [hs, ht])
    by_cases hi : i = j
    · subst hi
      rcases hf slot (by simpa using hj) with ht | hd
      · exact ho ht
      · exact Or.inr hd
    · exact ho (by simpa [hi] using hj)

theorem framed : Framed (Tended due) where
  same h log channels slots _ := h.same log channels slots
  see {s event} h he := h.see fun termination hc => by
    cases event with
    | start subrequest =>
      cases subrequest with
      | terminationSubtract termination => cases he
      | _ => cases hc
    | _ => cases hc
  modifyChannel i _ h hf := h.modifyChannel i hf
  modifySlot i _ h hf := h.modifySlot i fun slot ht => Or.inl (hf slot ▸ ht)

variable {subrequest : Subrequest}

theorem requestSubtract (h : Tended due s) (W : Environment) {termination : Termination}
    (ha : .addTermination termination ∈ s.mpfCommands) (hn : .subtractTermination termination ∉ s.mpfCommands) :
    Tended due (s.request W (.terminationSubtract termination)) := by
  unfold Session.request
  split
  · have hs : Tended due (s.start (.terminationSubtract termination)) := by
      refine see (s := { s with outstanding := s.outstanding ++ [.terminationSubtract termination] })
        (h.same rfl rfl rfl) ?_
      rintro other ⟨⟩
      exact ⟨ha, hn⟩
    exact (framed.setWaiting hs termination.flag true).same rfl rfl rfl
  · exact h

/-! ## Channels -/

theorem mpfCommands_request (s : Session) (ha : W.accepts subrequest) :
    (s.request W subrequest).mpfCommands = s.mpfCommands ++ subrequest.mpfCommand.toList := by
  have hf (t : Session) (flag : Flag) : (t.setWaiting flag true).log = t.log := by cases flag <;> rfl
  have hs : (s.start subrequest).mpfCommands = s.mpfCommands ++ subrequest.mpfCommand.toList :=
    mpfCommands_see { s with outstanding := s.outstanding ++ [subrequest] } (.start subrequest)
  rw [Session.request, if_pos ha, ← hs]
  cases subrequest.flag with
  | none => rfl
  | some flag => exact congrArg (List.filterMap Event.mpfCommand) (hf _ flag)

theorem requestAdd {termination : Termination} (h : Tended (· = termination) s) (hW : W.takesMedia) :
    Tended (fun _ => False) (s.request W (.terminationAdd termination)) := by
  apply mono (framed.request h W rfl)
  rintro _ rfl
  rw [mpfCommands_request s (hW _ rfl)]
  exact Or.inl (mem_append_right _ (mem_singleton_self _))

theorem channelPush (h : Tended (fun _ => False) s) (P : Profile) (key : Nat) (setup : ChannelSetup) :
    Tended (fun termination => setup.termination.isSome = true ∧ termination = .channel s.channels.length)
      (s.channelPush P key setup) := by
  refine ⟨h.once, fun i hi => ?_, fun i hi => ?_⟩
  · unfold Session.channelPush at hi
    rw [List.getElem?_append] at hi
    split at hi
    · exact (h.channels i hi).imp_right False.elim
    · rename_i hlt
      have hl : i = s.channels.length := by
        by_contra hne
        rw [List.getElem?_eq_none (by simp; omega)] at hi
        cases hi
      subst hl
      exact Or.inr ⟨by simpa using hi, rfl⟩
  · unfold Session.channelPush at hi
    rw [List.getElem?_append] at hi
    split at hi
    · exact (h.slots i hi).imp_right False.elim
    · obtain ⟨slot, hs, ht⟩ := (Option.any_eq_true _ _).1 hi
      obtain rfl := mem_singleton.1 (mem_of_getElem? hs)
      cases ht

variable {i : Nat}

theorem mediaOffer {setup : ChannelSetup}
    (h : Tended (fun termination => setup.termination.isSome = true ∧ termination = .channel i) s) (hW : W.takesMedia) :
    Tended (fun _ => False) (s.mediaOffer W i setup) := by
  unfold Session.mediaOffer
  cases hs : setup.termination with
  | none => exact framed.localMediaAdd (h.mono fun _ hd => by simp [hs] at hd) i setup.localMedia
  | some media =>
    have hc : Tended (· = .channel i) ({ s with context := true } : Session) :=
      (h.mono fun _ hd => Or.inr hd.2).same rfl rfl rfl
    have ha := hc.requestAdd hW
    have hr : Tended (· = .rtp i)
        (Session.request W { s with context := true } (.terminationAdd (.channel i))) :=
      ha.mono fun _ hd => hd.elim
    exact (hr.modifySlot i (f := ({ · with termination := true })) fun _ _ => Or.inr rfl).requestAdd hW

theorem channelAdd (h : Tended (fun _ => False) s) (P : Profile) (hW : W.takesMedia) (key : Nat) :
    Tended (fun _ => False) (s.channelAdd P W key) := by
  unfold Session.channelAdd
  dsimp only
  split
  · exact framed.channelModify h P W key true
  · have hs : Tended (fun _ => False) ({ s with offer := some (s.offer.getD {}) }.stateSet .generatingOffer) :=
      h.same rfl rfl rfl
    have ho := mediaOffer (framed.controlOffer (hs.channelPush P key (P.channel key)) P W
      s.channels.length (P.channel key).resourceName) hW
    split
    · exact framed.offerSend ho W
    · exact ho

/-! ## Release -/

theorem mem_mpfCommands_request {command : MpfCommand Termination}
    (h : command ∈ (s.request W subrequest).mpfCommands) :
    command ∈ s.mpfCommands ∨ subrequest.mpfCommand = some command := by
  by_cases ha : W.accepts subrequest
  · rw [mpfCommands_request s ha] at h
    exact (mem_append.1 h).imp_right fun hm => Option.mem_toList.1 hm
  · rw [Session.request, if_neg ha] at h
    exact Or.inl h

def Left (left : Termination → Prop) (s : Session) : Prop :=
  Tended (fun _ => False) s ∧ ∀ termination, left termination → .subtractTermination termination ∉ s.mpfCommands

theorem left_request {left : Termination → Prop} (h : Left left s) (W : Environment)
    (ho : (Event.start subrequest).subtracts = false) : Left left (s.request W subrequest) := by
  refine ⟨framed.request h.1 W ho, fun termination hl hm => ?_⟩
  rcases mem_mpfCommands_request hm with hm | hc
  · exact h.2 termination hl hm
  · cases subrequest <;> cases hc
    cases ho

theorem left_subtract {left left' : Termination → Prop} (termination : Termination) (h : Left left s)
    (hl : left termination) (ha : .addTermination termination ∈ s.mpfCommands)
    (hl' : ∀ other, left' other → left other ∧ other ≠ termination) (W : Environment) :
    Left left' (s.request W (.terminationSubtract termination)) := by
  constructor
  · exact h.1.requestSubtract W ha (h.2 termination hl)
  · intro other ho hm
    obtain ⟨hl, hne⟩ := hl' other ho
    rcases mem_mpfCommands_request hm with hm | hc
    · exact h.2 other hl hm
    · cases hc
      exact hne rfl

def channelsFrom (i : Nat) : Termination → Prop
  | .channel j => i ≤ j
  | .rtp _ => True

def slotsFrom (i : Nat) : Termination → Prop
  | .channel _ => False
  | .rtp j => i ≤ j

theorem channelRelease (h : Left (channelsFrom i) s) (W : Environment) :
    Left (channelsFrom (i + 1)) (s.channelRelease W i) := by
  have hn {t : Session} (left : Left (channelsFrom i) t) : Left (channelsFrom (i + 1)) t := by
    refine ⟨left.1, fun termination hf => left.2 termination ?_⟩
    cases termination with
    | channel j => exact (Nat.le_succ i).trans hf
    | rtp j => trivial
  unfold Session.channelRelease
  cases hh : s.channels[i]? with
  | none => exact hn h
  | some channel =>
    dsimp only
    have hr : Left (channelsFrom i) (if channel.controlChannel then s.request W (.controlRemove i) else s) := by
      split
      · exact left_request h W rfl
      · exact h
    have ha (ht : channel.termination.isSome) : .addTermination (.channel i) ∈
        (if channel.controlChannel then s.request W (.controlRemove i) else s).mpfCommands := by
      have hm := (h.1.channels i (by simp [hh, ht])).resolve_right id
      split
      · by_cases hc : W.accepts (.controlRemove i)
        · rw [mpfCommands_request s hc]
          exact mem_append_left _ hm
        · rwa [Session.request, if_neg hc]
      · exact hm
    generalize (if channel.controlChannel then s.request W (.controlRemove i) else s) = t at hr ha
    split
    · rename_i ht
      refine left_subtract (.channel i) hr (Nat.le_refl i) (ha ht)
        (fun other ho => ?_) W
      cases other with
      | channel j =>
        have hlt : i + 1 ≤ j := ho
        exact ⟨Nat.le_of_succ_le hlt, fun e => by cases e; omega⟩
      | rtp j => exact ⟨trivial, nofun⟩
    · exact hn hr

theorem slotRelease (h : Left (slotsFrom i) s) (W : Environment) : Left (slotsFrom (i + 1)) (s.slotRelease W i) := by
  unfold Session.slotRelease
  split
  · rename_i ht
    have ha := (h.1.slots i ht).resolve_right id
    refine left_subtract (.rtp i) h (Nat.le_refl i) ha (fun other ho => ?_) W
    cases other with
    | channel j => exact ho.elim
    | rtp j =>
      have hlt : i + 1 ≤ j := ho
      exact ⟨Nat.le_of_succ_le hlt, fun e => by cases e; omega⟩
  · refine ⟨h.1, fun termination hf => h.2 termination ?_⟩
    cases termination with
    | channel j => exact hf
    | rtp j => exact (Nat.le_succ i).trans hf

theorem sessionTerminate (h : Tended (fun _ => False) s) (W : Environment)
    (hn : s.mpfCommands.any isSubtract = false) : Tended (fun _ => False) (s.sessionTerminate W) := by
  have ht : Left (channelsFrom 0) (if (s.stateSet .terminating).context then
      (s.stateSet .terminating).request W .destroyTopology else s.stateSet .terminating) := by
    have hl : Left (channelsFrom 0) (s.stateSet .terminating) := by
      refine ⟨h.same rfl rfl rfl, fun termination _ hm => ?_⟩
      have hb := any_eq_false.1 hn _ hm
      exact hb rfl
    split
    · exact left_request hl W rfl
    · exact hl
  unfold Session.sessionTerminate
  dsimp only
  generalize (if (s.stateSet .terminating).context then
      (s.stateSet .terminating).request W .destroyTopology else s.stateSet .terminating) = t at ht
  have hr : Left (channelsFrom t.channels.length)
      ((List.range t.channels.length).foldl (Session.channelRelease W) t) :=
    foldl_range_invariant (fun i u => Left (channelsFrom i) u) _ ht fun i u _ hu => channelRelease hu W
  generalize (List.range t.channels.length).foldl (Session.channelRelease W) t = u at hr
  have hs : Tended (fun _ => False)
      (if u.context then (List.range u.terminations.length).foldl (Session.slotRelease W) u else u) := by
    split
    · have hl : Left (slotsFrom 0) u := by
        refine ⟨hr.1, fun termination hf => ?_⟩
        cases termination with
        | channel j => exact hf.elim
        | rtp j => exact hr.2 _ trivial
      exact (foldl_range_invariant (fun i v => Left (slotsFrom i) v) _ hl fun i v _ hv => slotRelease hv W).1
    · exact hr.1
  generalize (if u.context then (List.range u.terminations.length).foldl (Session.slotRelease W) u else u) = v at hs
  split
  · apply framed.start
    · exact hs.same rfl rfl rfl
    · rfl
  · exact hs.same rfl rfl rfl

/-- **One step.** -/
theorem step (h : Tended (fun _ => False) s) (P : Profile) {input : Environment × Input} (hW : input.1.takesMedia)
    (hl : s.releasesAgain input.2 = false) : Tended (fun _ => False) (Session.step P s input).1 := by
  refine framed.step (fun t key ht => ht.channelAdd P hW key) h input.2 fun t ht hs hd =>
    ht.sessionTerminate input.1 ?_
  have hd : s.dispatched input.2 = some .sessionTerminate ∧ t.mpfCommands = s.mpfCommands := by
    rcases hd with ⟨hi, ha, hlog⟩ | ⟨hi, ha, hlog⟩
    · refine ⟨by simp [hi, dispatched, ha], ?_⟩
      rw [mpfCommands, hlog, filterMap_append]
      exact append_nil _
    · exact ⟨by rw [hi]; exact ha, by rw [mpfCommands, hlog, mpfCommands]⟩
  rw [hd.2]
  simpa [releasesAgain, hd.1, hs] using hl

end Tended

theorem tended_new : Tended (fun _ => False) ({} : Session) := by
  refine ⟨fun before t after heq => ?_, fun i hi => ?_, fun i hi => ?_⟩
  · cases before <;> cases heq
  · simp at hi
  · simp at hi

theorem failure_of_served {E : MediaEngine Termination} {subrequest : Subrequest} {result : Result}
    (hs : s.served E (.completed subrequest result)) (ht : result.status = false)
    {command : MpfCommand Termination} (hc : subrequest.mpfCommand = some command) :
    ⟨command, .failure⟩ ∈ E.responses maxTerminationCount s.mpfCommands := by
  have hs : (subrequest.mpfCommand.all fun command =>
    (E.responses maxTerminationCount s.mpfCommands).contains ⟨command, mpfStatusCode result.status⟩) = true := hs
  rw [hc, ht] at hs
  simpa [mpfStatusCode] using hs

theorem failuresReported_of_fits (P : Profile) (E : MediaEngine Termination) {inputs : List (Environment × Input)}
    (hmd : ∀ input ∈ inputs, input.1.takesMedia)
    (h : EachStep (Session.step P) (fun s input => s.served E input.2 = true ∧ s.fits ∧
      s.releasesAgain input.2 = false) {} inputs) : FailuresReported P inputs := by
  intro before W subrequest result after hi ht hst status hrs
  subst hi
  obtain ⟨hb, hr, hf, -⟩ := eachStep_at h
  have hk : EachStep (Session.step P) (fun _ input => input.1.takesMedia) {} before :=
    eachStep_of_forall (fun input hm => hmd input (mem_append_left _ hm)) _
  have hn := run_invariant (Tended fun _ => False) _ (fun s input hs ho => hs.step P ho.2 ho.1.2.2) {} before
    tended_new (eachStep_and hb hk)
  have hc {command : MpfCommand Termination} (hd : subrequest.mpfCommand = some command) :
      MpfStatusCode.failure = .success :=
    E.responses_success (of_decide_eq_true hf) hn.once _ (failure_of_served hr hst hd)
  cases subrequest with
  | terminationAdd u => cases hc rfl
  | terminationModify u => cases hc rfl
  | terminationSubtract u => cases hc rfl
  | _ => cases ht

end UniMrcp.MrcpClient
