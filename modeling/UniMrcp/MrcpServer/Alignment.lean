import UniMrcp.MrcpServer.Accounting
import UniMrcp.MrcpServer.Session.Aligned

/-!
# Alignment of channels with the control media of offers
-/

namespace UniMrcp.MrcpServer

open Lib MrcpEngine Session

variable {κ σ μ ε D : Type} {M : κ → StateMachine σ μ ε D} {P : Profile κ} {W : Environment}
  {s : Session κ σ μ ε D}

/-! ## Steps -/

/-- An offer has a control media at each position, and those for which the session has no channel yet are of resources
that there are. -/
def Session.acceptsOffer (P : Profile κ) (s : Session κ σ μ ε D) : SignalingMessage μ D → Bool
  | .offer descriptor => descriptor.resourceNames.all Option.isSome &&
      (descriptor.resourceNames.drop s.channels.length).all fun name => name.any P.resourceFind
  | _ => true

def Session.accepts (P : Profile κ) (s : Session κ σ μ ε D) : Input μ ε D → Bool
  | .signaling message => s.activeRequest.isSome || s.acceptsOffer P message
  | .dispatch => s.activeRequest.all (s.acceptsOffer P)
  | _ => true

/-- **The machines are told to deactivate.** -/
theorem deactivate_aligned (h : Idle (Terms.order M) .terminate s) (hal : s.Aligned)
    (ho : s.orderlyDispatch M .terminate) :
    ((s.see (.dispatch .terminate)).deactivate M P W).Aligned := by
  have hl := s.lawfulDispatch_of_orderly ho
  obtain ⟨u, hu⟩ : ∃ u, u = (s.see (.dispatch .terminate)).stateSet .deactivating := ⟨_, rfl⟩
  have hs : u.Aligned := by
    rw [hu]
    exact hal.continues (Continues.same rfl rfl rfl ⟨rfl, rfl⟩ rfl)
  have ha : Deactivating (Terms.order M) s u.channels.length
      ((List.range u.channels.length).foldl (Session.machineDeactivate M P W) u) ∧
        ((List.range u.channels.length).foldl (Session.machineDeactivate M P W) u).Aligned := by
    refine foldl_range_invariant (fun i v => Deactivating (Terms.order M) s i v ∧ v.Aligned) _
      ⟨hu ▸ h.deactivating, hs⟩ fun i v _ hv => ?_
    refine ⟨machineDeactivate_deactivating hl h.staffed hv.1,
      machineDeactivate_aligned hv.2 fun m r hm hr output hmm => ?_⟩
    -- the machine is as it was at first
    have hm' : s.machine i = some m := by
      rw [machine_eq] at hm ⊢
      rw [← hv.1.above i (Nat.le_refl i)]
      exact hm
    obtain ⟨r', hr', hq, -⟩ := hl i m [] hm' trivial
    obtain rfl := Option.some.inj (hr.symm.trans hr')
    exact hq output hmm
  obtain ⟨v, hv⟩ : ∃ v, v = (List.range u.channels.length).foldl (Session.machineDeactivate M P W) u := ⟨_, rfl⟩
  rw [← hv] at ha
  have heq : (s.see (.dispatch .terminate)).deactivate M P W =
      if v.subrequestCount = 0 then v.terminateProcess W else v := by
    rw [hv, hu]
    rfl
  rw [heq]
  split_ifs
  · exact ha.2.continues (terminateProcess_continues v)
  · exact ha.2

theorem dispatch_aligned (hv2 : P.mrcpVersion = .v2) {message : SignalingMessage μ D} (h : Idle (Terms.order M) message s)
    (ha : s.Aligned) (ho : s.orderlyDispatch M message) (hc : s.acceptsOffer P message) :
    (s.dispatch M P W message).Aligned := by
  have hs : (s.see (.dispatch message)).Aligned := ha.continues (Continues.same rfl rfl rfl ⟨rfl, rfl⟩ rfl)
  cases message with
  | offer descriptor =>
    exact offerProcess_aligned hv2 hs h.out (Bool.and_eq_true_iff.1 hc)
  | control channel resourceName message =>
    show ((s.see (.dispatch (.control channel resourceName message))).onMessageReceive M P W channel resourceName
      message).Aligned
    unfold Session.onMessageReceive
    cases hh : (s.see (.dispatch (.control channel resourceName message))).controlHandled M channel resourceName
        message with
    | none => exact hs
    | some handled =>
      have ho : (s.controlHandled M channel resourceName message).all (fun r => keepsDue .response r.2) :=
        ho
      rw [show s.controlHandled M channel resourceName message = some handled from hh] at ho
      refine settle_aligned .response hs nofun fun r hr => ?_
      have hk : keepsDue .response handled.2 := ho
      rw [Option.mem_def.1 hr] at hk
      exact hk
  | terminate => exact deactivate_aligned h ha ho

/-! ## Runs -/

variable [DecidableEq μ]

theorem step_aligned (hv2 : P.mrcpVersion = .v2) (h : Accounted (Terms.order M) 0 [] 0 s) (ha : s.Aligned)
    {input : Input μ ε D} (he : s.enabled input) (ho : s.orderly M input)
    (hc : s.accepts P input) : (s.step M P (W, input)).1.Aligned := by
  cases input with
  | signaling message =>
    show (s.signalingMessageProcess M P W message).Aligned
    unfold Session.signalingMessageProcess
    split_ifs with hs
    · exact ha.continues (Continues.same rfl rfl rfl ⟨rfl, rfl⟩ rfl)
    · have ht : s.activeRequest = none := by simpa using hs
      have ho : (s.activeRequest.isSome || s.orderlyDispatch M message) := ho
      have hc : (s.activeRequest.isSome || s.acceptsOffer P message) := hc
      rw [ht] at ho hc
      exact dispatch_aligned hv2 (h.idle_signaling (dispatching_of_signaling he) ht)
        (ha.continues (Continues.same rfl rfl rfl ⟨rfl, rfl⟩ rfl)) ho hc
  | completed subrequest result =>
    obtain ⟨⟨-, hmm⟩, hrs⟩ : (_ ∧ subrequest ∈ s.outstanding) ∧ subrequest.answeredBy result := by
      simpa only [Session.enabled, Bool.and_eq_true, List.contains_iff_mem] using he
    exact onCompletion_aligned h ha hmm hrs
  | engineResponse i message =>
    show (s.engineResponse M P W i message).Aligned
    have ho : (s.machine i).all (fun m => keepsDue (s.due i) ((M m.kind).responseUpdate m.machine message)) :=
      ho
    unfold Session.engineResponse
    cases hm : s.machine i with
    | none => exact ha
    | some m =>
      rw [hm] at ho
      refine settle_aligned (s.due i) (ha.continues
        (Changes.refl.modifyChannel i _ fun _ => by rfl : Changes .still _ _).continues)
        (fun hd => (due_deactivation hd).1) fun r hr => ?_
      have hk : keepsDue (s.due i) ((M m.kind).responseUpdate m.machine message) := ho
      rw [Option.mem_def.1 hr] at hk
      exact hk
  | engineEvent i message =>
    show (s.engineEvent M P W i message).Aligned
    have ho : (s.machine i).all (fun m => keepsDue (s.due i) ((M m.kind).eventUpdate m.machine message)) :=
      ho
    unfold Session.engineEvent
    cases hm : s.machine i with
    | none => exact ha
    | some m =>
      rw [hm] at ho
      refine settle_aligned (s.due i) ha (fun hd => (due_deactivation hd).1) fun r hr => ?_
      have hk : keepsDue (s.due i) ((M m.kind).eventUpdate m.machine message) := ho
      rw [Option.mem_def.1 hr] at hk
      exact hk
  | dispatch =>
    have hds : s.dispatching := (Bool.and_eq_true_iff.1 he).2
    show (s.activeRequest.elim s ({ s with dispatching := false }.dispatch M P W)).Aligned
    have ho : s.activeRequest.all (s.orderlyDispatch M) := ho
    have hc : s.activeRequest.all (s.acceptsOffer P) := hc
    cases ht : s.activeRequest with
    | none => exact ha
    | some message =>
      rw [ht] at ho hc
      exact dispatch_aligned hv2 (h.idle_dispatch hds message)
        (ha.continues (Continues.same rfl rfl rfl ⟨rfl, rfl⟩ rfl)) ho hc
  | proceed i =>
    show (s.proceed M P W i).Aligned
    unfold Session.proceed
    split
    · exact ha
    · split
      · exact ha
      · exact ha.continues
          (((Changes.refl.modifyChannel i _ fun _ => by rfl).see _ rfl).trans (onDispatch_changes _ i rfl)).continues

/-- **The channels are aligned with the control media**: each is at the position of its control media in the offer. The
last answer has a control media at each position of its offer, and there is one channel for each. -/
structure Session.ControlAligned (s : Session κ σ μ ε D) : Prop where
  position : ∀ (i : Nat) (channel : Channel κ σ μ D), s.channels[i]? = some channel → channel.id = i
  answered : ∀ offer ∈ s.lastOffer, ∀ answer ∈ s.lastAnswer, Covers s.channels.length offer answer

def controlMedia (resourceName port : Nat) : Option ControlDescriptor :=
  some { resourceName := [UInt8.ofNat resourceName], port := port }

/-- A recorder is offered; a recorder, a resource that there is not, and a recorder; and two recorders. All subrequests
are completed. -/
def rejectedMedia : List (Environment × Input RecorderMethod RecorderEvent Unit) :=
  [.signaling (.offer { controlMediaArr := [controlMedia 82 9] }),
    .completed .resetAssociations {}, .completed (.controlAdd 0) { answer := controlMedia 82 1544 },
    .completed (.terminationAdd (.engine 0)) {}, .completed .applyTopology {}, .completed (.engineOpen 0) {},
    .signaling (.offer { controlMediaArr := [controlMedia 82 9, controlMedia 88 9, controlMedia 82 9] }),
    .completed .resetAssociations {}, .completed (.controlModify 0) { answer := controlMedia 82 1544 },
    .completed (.controlAdd 1) { answer := controlMedia 82 1544 },
    .completed (.terminationAdd (.engine 1)) {}, .completed .applyTopology {}, .completed (.engineOpen 1) {},
    .signaling (.offer { controlMediaArr := [controlMedia 82 9, controlMedia 82 9] }),
    .completed .resetAssociations {}, .completed (.controlModify 0) { answer := controlMedia 82 1544 },
    .completed (.controlModify 1) { answer := controlMedia 82 1544 }, .completed .applyTopology {}].map
    (recorderEnvironment, ·)

def rejectedMediaSession : Session Unit (RecorderStateMachine Unit) RecorderMethod RecorderEvent Unit :=
  (run (Session.step (fun _ => recorderStateMachine plainHeaderOps) recorderProfile) {} rejectedMedia).1

end UniMrcp.MrcpServer
