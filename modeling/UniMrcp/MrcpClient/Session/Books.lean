import UniMrcp.Lib.Countdown
import UniMrcp.MrcpClient.Session

/-!
# The books of a client session

What a session waits for is what it counts.
-/

namespace UniMrcp.MrcpClient

open Apt Mrcp Lib List Session
open MrcpServer (RtpMedia SessionDescriptor)

variable {P : Profile} {W : Environment} {s t u : Session}

def Session.has (s : Session) : Flag → Prop
  | .channel i | .termination i => i < s.channels.length
  | .slot i => i < s.terminations.length

theorem Session.getElem?_modifyChannel (s : Session) (i j : Nat) (f : Channel → Channel) :
    (s.modifyChannel i f).channels[j]? = if i = j then s.channels[j]?.map f else s.channels[j]? := by
  unfold Session.modifyChannel
  rw [List.getElem?_modify]
  split_ifs <;> simp

theorem Session.getElem?_modifySlot (s : Session) (i j : Nat) (f : Slot → Slot) :
    (s.modifySlot i f).terminations[j]? = if i = j then s.terminations[j]?.map f else s.terminations[j]? := by
  unfold Session.modifySlot
  rw [List.getElem?_modify]
  split_ifs <;> simp

variable {flag : Flag}

theorem Session.waiting_setWaiting_self (h : s.has flag) : (s.setWaiting flag true).waiting flag := by
  cases flag with
  | channel i | termination i =>
    have h : i < s.channels.length := h
    simp [Session.waiting, Session.setWaiting, Session.getElem?_modifyChannel, h]
  | slot i =>
    have h : i < s.terminations.length := h
    simp [Session.waiting, Session.setWaiting, Session.getElem?_modifySlot, h]

variable {f : Channel → Channel}

theorem Session.any_modifyChannel {i j : Nat} {p : Channel → Bool} (h : i = j → ∀ channel, p (f channel) = p channel) :
    (s.modifyChannel i f).channels[j]?.any p = s.channels[j]?.any p := by
  rw [Session.getElem?_modifyChannel]
  split_ifs with hi
  · cases s.channels[j]? with
    | none => rfl
    | some channel => exact h hi channel
  · rfl

theorem Session.waiting_setWaiting_ne {flag other : Flag} {b : Bool} (h : other ≠ flag) :
    (s.setWaiting flag b).waiting other = s.waiting other := by
  cases flag with
  | channel i =>
    cases other with
    | channel j => exact any_modifyChannel fun hi => absurd (by rw [hi]) h
    | termination j => exact any_modifyChannel fun _ _ => rfl
    | slot j => rfl
  | termination i =>
    cases other with
    | channel j => exact any_modifyChannel fun _ _ => rfl
    | termination j => exact any_modifyChannel fun hi => absurd (by rw [hi]) h
    | slot j => rfl
  | slot i =>
    cases other with
    | channel j | termination j => rfl
    | slot j =>
      have hi : i ≠ j := fun hi => h (by rw [hi])
      simp [Session.waiting, Session.setWaiting, Session.getElem?_modifySlot, hi]

/-! ## What is left as it is -/

def Event.isQuiet : Event → Bool
  | .start _ | .complete _ | .send _ _ | .sessionAdd => true
  | _ => false

/-- **What is left as it is** while a session starts subrequests and waits for them. -/
structure Quiet (s t : Session) : Prop where
  active : t.activeRequest = s.activeRequest
  queue : t.requestQueue = s.requestQueue
  registered : t.registered = s.registered
  disconnected : t.disconnected = s.disconnected
  dispatching : t.dispatching = s.dispatching
  state : t.state = s.state
  status : t.status = s.status
  offer : t.offer.isSome = s.offer.isSome
  controlChannels : t.channels.map Channel.controlChannel = s.channels.map Channel.controlChannel
  slots : t.terminations.length = s.terminations.length
  log : ∃ more, t.log = s.log ++ more ∧ ∀ event ∈ more, event.isQuiet

theorem Quiet.same (active : t.activeRequest = s.activeRequest) (queue : t.requestQueue = s.requestQueue)
    (registered : t.registered = s.registered) (disconnected : t.disconnected = s.disconnected)
    (dispatching : t.dispatching = s.dispatching) (state : t.state = s.state) (status : t.status = s.status)
    (offer : t.offer.isSome = s.offer.isSome)
    (controlChannels : t.channels.map Channel.controlChannel = s.channels.map Channel.controlChannel)
    (slots : t.terminations.length = s.terminations.length) (log : t.log = s.log) : Quiet s t :=
  ⟨active, queue, registered, disconnected, dispatching, state, status, offer, controlChannels, slots,
    [], by rw [log, append_nil], by simp⟩

open Quiet

theorem Quiet.refl (s : Session) : Quiet s s := same rfl rfl rfl rfl rfl rfl rfl rfl rfl rfl rfl

theorem Quiet.trans (h : Quiet s t) (h' : Quiet t u) : Quiet s u := by
  obtain ⟨more, hr, hq⟩ := h.log
  obtain ⟨more', hr', hq'⟩ := h'.log
  refine ⟨h'.active.trans h.active, h'.queue.trans h.queue, h'.registered.trans h.registered,
    h'.disconnected.trans h.disconnected, h'.dispatching.trans h.dispatching, h'.state.trans h.state,
    h'.status.trans h.status, h'.offer.trans h.offer, h'.controlChannels.trans h.controlChannels,
    h'.slots.trans h.slots, more ++ more', ?_, ?_⟩
  · rw [hr', hr, append_assoc]
  · intro event he
    rcases mem_append.1 he with hm | hm
    · exact hq event hm
    · exact hq' event hm

theorem Quiet.has (h : Quiet s t) (flag : Flag) (hs : s.has flag) : t.has flag := by
  have hl : t.channels.length = s.channels.length := by
    simpa using congrArg List.length h.controlChannels
  have hsl := h.slots
  cases flag <;> unfold Session.has at * <;> omega

theorem see_quiet (s : Session) (event : Event) (h : event.isQuiet) : Quiet s (s.see event) :=
  ⟨rfl, rfl, rfl, rfl, rfl, rfl, rfl, rfl, rfl, rfl, [event], rfl, by simpa using h⟩

theorem modifyChannel_quiet (s : Session) (i : Nat)
    (hf : ∀ channel, (f channel).controlChannel = channel.controlChannel) : Quiet s (s.modifyChannel i f) := by
  refine same rfl rfl rfl rfl rfl rfl rfl rfl ?_ rfl rfl
  apply ext_getElem?
  intro j
  rw [List.getElem?_map, List.getElem?_map, Session.getElem?_modifyChannel]
  split_ifs
  · cases s.channels[j]? <;> simp [hf]
  · rfl

theorem modifySlot_quiet (s : Session) (i : Nat) (f : Slot → Slot) : Quiet s (s.modifySlot i f) := by
  refine same rfl rfl rfl rfl rfl rfl rfl rfl rfl ?_ rfl
  simp [Session.modifySlot]

theorem setWaiting_quiet (s : Session) (flag : Flag) (b : Bool) : Quiet s (s.setWaiting flag b) := by
  cases flag with
  | channel i | termination i => exact modifyChannel_quiet s i fun _ => rfl
  | slot i => exact modifySlot_quiet s i _

theorem start_quiet (s : Session) (subrequest : Subrequest) : Quiet s (s.start subrequest) :=
  trans (t := { s with outstanding := s.outstanding ++ [subrequest] })
    (same rfl rfl rfl rfl rfl rfl rfl rfl rfl rfl rfl) (see_quiet _ _ rfl)

theorem complete_quiet (s : Session) (subrequest : Subrequest) : Quiet s (s.complete subrequest) :=
  trans (t := { s with outstanding := s.outstanding.erase subrequest })
    (same rfl rfl rfl rfl rfl rfl rfl rfl rfl rfl rfl) (see_quiet _ _ rfl)

theorem modifyOffer_quiet (s : Session) (f : SessionDescriptor → SessionDescriptor) : Quiet s (s.modifyOffer f) := by
  unfold Session.modifyOffer
  cases ho : s.offer with
  | none => exact same rfl rfl rfl rfl rfl rfl rfl (by rw [ho]) rfl rfl rfl
  | some offer => exact same rfl rfl rfl rfl rfl rfl rfl (by rw [ho]; rfl) rfl rfl rfl

theorem localMediaAdd_quiet (s : Session) (i : Nat) (localMedia : Option RtpMedia) :
    Quiet s (s.localMediaAdd i localMedia) := by
  cases localMedia with
  | none => exact refl s
  | some media => exact (modifyOffer_quiet s _).trans (modifySlot_quiet _ i _)

theorem waiting_modifySlot (s : Session) (i : Nat) {f : Slot → Slot} (hf : ∀ slot, (f slot).waiting = slot.waiting)
    (flag : Flag) : (s.modifySlot i f).waiting flag = s.waiting flag := by
  cases flag with
  | channel j | termination j => rfl
  | slot j =>
    unfold Session.waiting
    dsimp only
    rw [Session.getElem?_modifySlot]
    split_ifs
    · cases s.terminations[j]? <;> simp [hf]
    · rfl

theorem localMediaAdd_books (s : Session) (i : Nat) (localMedia : Option RtpMedia) :
    (s.localMediaAdd i localMedia).outstanding = s.outstanding ∧
      (s.localMediaAdd i localMedia).subrequestCount = s.subrequestCount ∧
      ∀ flag, (s.localMediaAdd i localMedia).waiting flag = s.waiting flag := by
  cases localMedia with
  | none => exact ⟨rfl, rfl, fun _ => rfl⟩
  | some media =>
    unfold Session.localMediaAdd Session.modifyOffer
    cases s.offer with
    | none => exact ⟨rfl, rfl, waiting_modifySlot _ i fun _ => rfl⟩
    | some offer => exact ⟨rfl, rfl, waiting_modifySlot _ i fun _ => rfl⟩

/-! ## Subrequests that are started -/

def flagsOf (subrequests : List Subrequest) : List Flag := subrequests.filterMap Subrequest.flag

/-- The subrequests `new` are started from `s` to `t`: they are of one kind, with distinct flags that `owns` tells. -/
structure Started (owns : Flag → Prop) (kind : Subrequest → Prop) (new : List Subrequest) (s t : Session) : Prop where
  quiet : Quiet s t
  outstanding : t.outstanding = s.outstanding ++ new
  count : t.subrequestCount = s.subrequestCount + new.length
  kinds : ∀ subrequest ∈ new, kind subrequest
  nodup : (flagsOf new).Nodup
  waiting : ∀ flag ∈ flagsOf new, t.waiting flag ∧ owns flag
  raised : ∀ flag, s.waiting flag → t.waiting flag

/-- **Subrequests are started** from `s` to `t`. -/
def Starts (owns : Flag → Prop) (kind : Subrequest → Prop) (s t : Session) : Prop := ∃ new, Started owns kind new s t

variable {owns owns' : Flag → Prop} {kind kind' : Subrequest → Prop}

theorem Starts.nothing (quiet : Quiet s t) (outstanding : t.outstanding = s.outstanding)
    (count : t.subrequestCount = s.subrequestCount) (raised : ∀ flag, t.waiting flag = s.waiting flag) :
    Starts owns kind s t :=
  ⟨[], quiet, by rw [outstanding, append_nil], count, by simp, by simp [flagsOf], by simp [flagsOf],
    fun flag h => (raised flag).trans h⟩

theorem Starts.refl (s : Session) : Starts owns kind s s := Starts.nothing (Quiet.refl s) rfl rfl fun _ => rfl

theorem Starts.mono (h : Starts owns kind s t) (ho : ∀ flag, owns flag → owns' flag)
    (hk : ∀ subrequest, kind subrequest → kind' subrequest) : Starts owns' kind' s t := by
  obtain ⟨new, hn⟩ := h
  exact ⟨new, hn.quiet, hn.outstanding, hn.count, fun subrequest hm => hk _ (hn.kinds _ hm), hn.nodup,
    fun flag hm => ⟨(hn.waiting flag hm).1, ho _ (hn.waiting flag hm).2⟩, hn.raised⟩

theorem Starts.trans (h : Starts owns kind s t) (h' : Starts owns' kind t u)
    (hd : ∀ flag, owns flag → ¬ owns' flag) : Starts (fun flag => owns flag ∨ owns' flag) kind s u := by
  obtain ⟨new, hn⟩ := h
  obtain ⟨new', hn'⟩ := h'
  have hf : flagsOf (new ++ new') = flagsOf new ++ flagsOf new' := filterMap_append
  refine ⟨new ++ new', hn.quiet.trans hn'.quiet, ?_, ?_, ?_, ?_, ?_, ?_⟩
  · rw [hn'.outstanding, hn.outstanding, append_assoc]
  · rw [hn'.count, hn.count, length_append, Nat.add_assoc]
  · intro subrequest hm
    rcases mem_append.1 hm with hm | hm
    · exact hn.kinds _ hm
    · exact hn'.kinds _ hm
  · rw [hf, nodup_append]
    refine ⟨hn.nodup, hn'.nodup, fun flag hm other hm' heq => ?_⟩
    subst heq
    exact hd flag (hn.waiting flag hm).2 (hn'.waiting flag hm').2
  · intro flag hm
    rw [hf] at hm
    rcases mem_append.1 hm with hm | hm
    · exact ⟨hn'.raised flag (hn.waiting flag hm).1, Or.inl (hn.waiting flag hm).2⟩
    · exact ⟨(hn'.waiting flag hm).1, Or.inr (hn'.waiting flag hm).2⟩
  · exact fun flag hl => hn'.raised flag (hn.raised flag hl)

theorem Starts.after (h : Starts owns kind t u) (quiet : Quiet s t) (outstanding : t.outstanding = s.outstanding)
    (count : t.subrequestCount = s.subrequestCount) (raised : ∀ flag, t.waiting flag = s.waiting flag) :
    Starts owns kind s u := by
  have hn : Starts (fun _ => False) kind s t := Starts.nothing quiet outstanding count raised
  exact (hn.trans h fun _ hl => hl.elim).mono (fun _ hf => hf.resolve_left id) fun _ hk => hk

variable {subrequest : Subrequest}

theorem Starts.request (hk : kind subrequest) (hw : ∀ flag ∈ subrequest.flag, owns flag)
    (hh : ∀ flag ∈ subrequest.flag, s.has flag) : Starts owns kind s (s.request W subrequest) := by
  unfold Session.request
  split_ifs
  · cases hf : subrequest.flag with
    | none =>
      exact ⟨[subrequest], (start_quiet s subrequest).trans (same rfl rfl rfl rfl rfl rfl rfl rfl rfl rfl rfl), rfl,
        rfl, by simpa using hk, by simp [flagsOf, hf], by simp [flagsOf, hf], fun _ h => h⟩
    | some flag =>
      have hs : (((s.start subrequest).setWaiting flag true).subrequestAdd).waiting flag :=
        waiting_setWaiting_self ((start_quiet s subrequest).has flag (hh flag hf))
      refine ⟨[subrequest], ?_, ?_, ?_, by simpa using hk, by simp [flagsOf, hf], ?_, ?_⟩
      · exact ((start_quiet s subrequest).trans (setWaiting_quiet _ flag true)).trans
          (same rfl rfl rfl rfl rfl rfl rfl rfl rfl rfl rfl)
      · cases flag <;> rfl
      · cases flag <;> rfl
      · intro other ho
        obtain rfl : other = flag := by simpa [flagsOf, hf] using ho
        exact ⟨hs, hw other hf⟩
      · intro other ho
        rcases eq_or_ne other flag with rfl | hne
        · exact hs
        · exact (waiting_setWaiting_ne (s := s.start subrequest) hne).trans ho
  · exact Starts.refl s

theorem Starts.request_flag (hk : kind subrequest) (hf : subrequest.flag = some flag) (hh : s.has flag) :
    Starts (fun other => other = flag) kind s (s.request W subrequest) := by
  apply Starts.request hk <;> intro other ho <;> obtain rfl : flag = other := by simpa [hf] using ho
  · rfl
  · exact hh

theorem Starts.request_plain (hk : kind subrequest) (hf : subrequest.flag = none) :
    Starts (fun _ => False) kind s (s.request W subrequest) := by
  apply Starts.request hk <;> intro flag hm <;> simp [hf] at hm

theorem Starts.ite {c : Prop} [Decidable c] (h : c → Starts owns kind s t) :
    Starts owns kind s (if c then t else s) := by
  split_ifs with hc
  · exact h hc
  · exact Starts.refl s

theorem Starts.foldl {body : Session → Nat → Session} {at_ : Nat → Flag → Prop}
    (hb : ∀ s i, Starts (at_ i) kind s (body s i)) (hd : ∀ i j flag, at_ i flag → at_ j flag → i = j)
    (n : Nat) : Starts (fun flag => ∃ i < n, at_ i flag) kind s ((List.range n).foldl body s) := by
  induction n with
  | zero => exact Starts.refl s
  | succ n ih =>
    rw [range_succ, foldl_append]
    refine (ih.trans (hb _ n) ?_).mono ?_ fun _ h => h
    · rintro flag ⟨i, hi, hf⟩ hf'
      have := hd i n flag hf hf'
      omega
    · rintro flag (⟨i, hi, hf⟩ | hf)
      · exact ⟨i, by omega, hf⟩
      · exact ⟨n, by omega, hf⟩

theorem Starts.foldl_list {τ : Type} {body : Session → τ → Session}
    (hb : ∀ s a, Starts (fun _ => False) kind s (body s a)) (l : List τ) :
    Starts (fun _ => False) kind s (l.foldl body s) := by
  induction l generalizing s with
  | nil => exact Starts.refl s
  | cons a l ih => exact ((hb s a).trans ih fun _ h => h.elim).mono (fun _ h => h.elim id id) fun _ h => h

/-! ## Completions -/

/-- **A session waits for a list of subrequests**: it counts them, and their flags are distinct and raised. -/
structure Waits (rest : List Subrequest) (s : Session) : Prop where
  count : s.subrequestCount = rest.length
  nodup : (flagsOf rest).Nodup
  waiting : ∀ flag ∈ flagsOf rest, s.waiting flag

theorem Started.waits {new : List Subrequest} (h : Started owns kind new s t) (hc : s.subrequestCount = 0) :
    Waits new t :=
  ⟨by rw [h.count, hc, Nat.zero_add], h.nodup, fun flag hm => (h.waiting flag hm).1⟩

theorem Waits.perm {rest rest' : List Subrequest} (h : Waits rest s) (hp : rest.Perm rest') : Waits rest' s :=
  ⟨h.count.trans hp.length_eq, (hp.filterMap Subrequest.flag).nodup_iff.1 h.nodup,
    fun flag hm => h.waiting flag ((hp.filterMap Subrequest.flag).mem_iff.2 hm)⟩

def Subrequest.isCounted : Subrequest → Bool
  | .offer | .control _ => false
  | _ => true

/-- What the handler of a completion changes before it removes the subrequest. -/
def Session.taken (P : Profile) (s : Session) (result : Result) (subrequest : Subrequest) : Session :=
  let s := subrequest.flag.elim s (s.setWaiting · false)
  match subrequest with
  | .terminationAdd (.rtp i) => s.localMediaAdd i result.localMedia
  | .discover _ =>
    match result.descriptor with
    | some descriptor =>
      if P.mrcpVersion = .v1 then
        if descriptor.resourceState then { s with answer := some (discoveredAdd (s.answer.getD descriptor) descriptor) }
        else s
      else { s with answer := some descriptor }
    | none => s
  | _ => s

def Session.proceed (W : Environment) (result : Result) : Subrequest → Session → Session
  | .controlAdd _ | .terminationAdd _ => Session.offerSend W
  | .controlModify _ => fun s => (if result.status then s else { s with status := .failure }).sigResponseRaise true
  | .controlRemove _ => (Session.sessionTerminateRaise · (if result.status then .success else .failure))
  | .terminationSubtract (.rtp _) | .terminate => (Session.sessionTerminateRaise · .success)
  | .terminationSubtract (.channel _) => (Session.sigResponseRaise · true)
  | .discover _ => Session.discoverRaise
  | _ => Session.mediaProceed W

variable {result : Result}

theorem onCompletion_eq (hc : subrequest.isCounted)
    (hw : ∀ flag ∈ subrequest.flag, s.waiting flag)
    (hs : ∀ name, subrequest = .discover name → s.activeRequest.isSome ∧ result.descriptor.isSome)
    :
    s.onCompletion P W result subrequest =
      (s.taken P result subrequest).subrequestRemove (Session.proceed W result subrequest) := by
  cases subrequest with
  | controlAdd i | controlModify i | controlRemove i | terminationModify i => exact if_pos (hw _ rfl)
  | terminationAdd termination | terminationSubtract termination => cases termination <;> exact if_pos (hw _ rfl)
  | resetAssociations | addAssociation slot | applyTopology | destroyTopology | terminate => rfl
  | discover name =>
    obtain ⟨ha, h⟩ := hs name rfl
    obtain ⟨request, hr⟩ := Option.isSome_iff_exists.1 ha
    obtain ⟨descriptor, hd⟩ := Option.isSome_iff_exists.1 h
    simp [Session.onCompletion, Session.discoverResponseProcess, Session.taken, Session.proceed, hr, hd,
      Subrequest.flag]
  | offer | control key => cases hc

theorem taken_quiet (s : Session) (result : Result) (subrequest : Subrequest) :
    Quiet s (s.taken P result subrequest) ∧ (s.taken P result subrequest).outstanding = s.outstanding ∧
      (s.taken P result subrequest).subrequestCount = s.subrequestCount ∧
      ∀ flag ∉ subrequest.flag, (s.taken P result subrequest).waiting flag = s.waiting flag := by
  have hl : ∀ lowered : Flag,
      Quiet s (s.setWaiting lowered false) ∧ (s.setWaiting lowered false).outstanding = s.outstanding ∧
        (s.setWaiting lowered false).subrequestCount = s.subrequestCount ∧
        ∀ flag ∉ some lowered, (s.setWaiting lowered false).waiting flag = s.waiting flag := by
    intro lowered
    refine ⟨setWaiting_quiet s lowered false, ?_, ?_, fun flag hg => ?_⟩
    · cases lowered <;> rfl
    · cases lowered <;> rfl
    · exact waiting_setWaiting_ne fun heq => hg (by rw [heq]; rfl)
  have hs : ∀ t : Session, Quiet s t → t.outstanding = s.outstanding → t.subrequestCount = s.subrequestCount →
      (∀ flag, t.waiting flag = s.waiting flag) → Quiet s t ∧ t.outstanding = s.outstanding ∧
        t.subrequestCount = s.subrequestCount ∧ ∀ flag ∉ subrequest.flag, t.waiting flag = s.waiting flag :=
    fun t hq ho hc hf => ⟨hq, ho, hc, fun flag _ => hf flag⟩
  cases subrequest with
  | controlAdd i | controlModify i | controlRemove i => exact hl (.channel i)
  | terminationModify i => exact hl (.slot i)
  | terminationSubtract termination => exact hl termination.flag
  | resetAssociations | addAssociation slot | applyTopology | destroyTopology | terminate | offer | control key =>
    exact hs s (refl s) rfl rfl fun _ => rfl
  | terminationAdd termination =>
    cases termination with
    | channel i => exact hl (.termination i)
    | rtp i =>
      obtain ⟨hq, ho, hc, hf⟩ := hl (.slot i)
      obtain ⟨ho', hc', hf'⟩ := localMediaAdd_books (s.setWaiting (.slot i) false) i result.localMedia
      exact ⟨hq.trans (localMediaAdd_quiet _ i result.localMedia), ho'.trans ho, hc'.trans hc,
        fun flag hg => (hf' flag).trans (hf flag hg)⟩
  | discover name =>
    unfold Session.taken
    dsimp only [Subrequest.flag, Option.elim_none]
    cases result.descriptor with
    | none => exact hs s (refl s) rfl rfl fun _ => rfl
    | some descriptor =>
      dsimp only
      split_ifs
      · exact hs _ (same rfl rfl rfl rfl rfl rfl rfl rfl rfl rfl rfl) rfl rfl fun _ => rfl
      · exact hs s (refl s) rfl rfl fun _ => rfl
      · exact hs _ (same rfl rfl rfl rfl rfl rfl rfl rfl rfl rfl rfl) rfl rfl fun _ => rfl

def Session.takes (s : Session) (result : Result) : Subrequest → Prop
  | .discover _ => s.activeRequest.isSome = true ∧ result.descriptor.isSome
  | _ => True

variable {rest : List Subrequest}

theorem Waits.completed (h : Waits (subrequest :: rest) s) (hcn : subrequest.isCounted)
    (ht : s.takes result subrequest) :
    ∃ u, (s.complete subrequest).onCompletion P W result subrequest =
        u.subrequestRemove (Session.proceed W result subrequest) ∧
      Quiet s u ∧ u.outstanding = s.outstanding.erase subrequest ∧ u.subrequestCount = rest.length + 1 ∧
      (flagsOf rest).Nodup ∧ ∀ flag ∈ flagsOf rest, u.waiting flag := by
  obtain ⟨hq, ho, hc, hl⟩ := taken_quiet (P := P) (s.complete subrequest) result subrequest
  have hs : flagsOf (subrequest :: rest) = subrequest.flag.toList ++ flagsOf rest := by
    unfold flagsOf
    cases hf : subrequest.flag <;> simp [hf]
  have hn := h.nodup
  have hw := h.waiting
  rw [hs] at hn hw
  obtain ⟨-, hr, hd⟩ := nodup_append.1 hn
  refine ⟨(s.complete subrequest).taken P result subrequest, ?_, (complete_quiet s subrequest).trans hq, ho,
    hc.trans h.count, hr, fun flag hm => ?_⟩
  · refine onCompletion_eq hcn (fun flag hf => hw flag ?_) fun name hnm => ?_
    · exact mem_append_left _ (Option.mem_toList.2 hf)
    · subst hnm
      exact ht
  · rw [hl flag fun hf => hd flag (Option.mem_toList.2 hf) flag hm rfl]
    exact hw flag (mem_append_right _ hm)

theorem Waits.completed_rest (h : Waits (subrequest :: rest) s) (hr : rest ≠ [])
    (hc : subrequest.isCounted) (ht : s.takes result subrequest) :
    Waits rest ((s.complete subrequest).onCompletion P W result subrequest) ∧
      Quiet s ((s.complete subrequest).onCompletion P W result subrequest) ∧
      ((s.complete subrequest).onCompletion P W result subrequest).outstanding = s.outstanding.erase subrequest := by
  obtain ⟨u, hu, hq, ho, hcn, hn, hw⟩ := h.completed (P := P) (W := W) hc ht
  have hl : 0 < rest.length := length_pos_iff.2 hr
  rw [hu]
  unfold Session.subrequestRemove
  rw [if_neg (by omega), if_neg (by show ¬ u.subrequestCount - 1 = 0; omega)]
  refine ⟨⟨?_, hn, hw⟩, hq.trans (same rfl rfl rfl rfl rfl rfl rfl rfl rfl rfl rfl), ho⟩
  show u.subrequestCount - 1 = rest.length
  omega

theorem Waits.completed_last (h : Waits [subrequest] s) (hn : subrequest.isCounted)
    (ht : s.takes result subrequest) :
    ∃ u, (s.complete subrequest).onCompletion P W result subrequest = Session.proceed W result subrequest u ∧
      Quiet s u ∧ u.outstanding = s.outstanding.erase subrequest ∧ u.subrequestCount = 0 := by
  obtain ⟨u, hu, hq, ho, hc, -, -⟩ := h.completed (P := P) (W := W) hn ht
  have hc : u.subrequestCount = 1 := hc
  refine ⟨{ u with subrequestCount := u.subrequestCount - 1 }, ?_,
    hq.trans (same rfl rfl rfl rfl rfl rfl rfl rfl rfl rfl rfl), ho, by simp [hc]⟩
  rw [hu]
  unfold Session.subrequestRemove
  rw [if_neg (by omega), if_pos (by show u.subrequestCount - 1 = 0; omega)]

theorem sigResponseRaise_log {request : AppMessage} (h : s.activeRequest = some request) (process : Bool) :
    (s.sigResponseRaise process).log =
      s.log ++ [.response { request, status := if s.disconnected then .terminate else s.status }] := by
  unfold Session.sigResponseRaise
  rw [h]
  cases hd : s.disconnected <;> cases process <;> rfl

theorem sigResponseRaise_outstanding (s : Session) (process : Bool) :
    (s.sigResponseRaise process).outstanding = s.outstanding := by
  unfold Session.sigResponseRaise
  cases s.activeRequest with
  | none => rfl
  | some request => cases hd : s.disconnected <;> cases process <;> rfl

theorem request_outstanding (W : Environment) (s : Session) (subrequest : Subrequest) :
    (s.request W subrequest).outstanding = s.outstanding ++ [subrequest].filter W.accepts := by
  unfold Session.request
  split_ifs with h
  · rw [filter_cons_of_pos h]
    cases subrequest.flag with
    | none => rfl
    | some flag => cases flag <;> rfl
  · rw [filter_cons_of_neg h, filter_nil, append_nil]

/-- The completion of a subrequest, with what it is completed with, and what the session is answered meanwhile. -/
structure Completion where
  environment : Environment
  subrequest : Subrequest
  result : Result

def Session.completed (P : Profile) (s : Session) (completion : Completion) : Session :=
  (s.complete completion.subrequest).onCompletion P completion.environment completion.result completion.subrequest

def Subrequest.isPlain : Subrequest → Bool
  | .offer | .control _ | .discover _ => false
  | _ => true

theorem takes_of_isPlain (h : subrequest.isPlain) (s : Session) (result : Result) :
    subrequest.isCounted ∧ s.takes result subrequest := by
  cases subrequest <;> first | exact ⟨rfl, trivial⟩ | cases h

theorem counts_completed (P : Profile) : Counts (Session.completed P)
    (fun rest s => Waits (rest.map Completion.subrequest) s ∧ ∀ completion ∈ rest, completion.subrequest.isPlain)
    Quiet := by
  refine ⟨fun hp h => ⟨h.1.perm (hp.map _), fun c hc => h.2 c (hp.mem_iff.2 hc)⟩, ?_, refl, trans⟩
  rintro completion rest s hr ⟨hw, hl⟩
  obtain ⟨hn, ht⟩ := takes_of_isPlain (hl completion mem_cons_self) s completion.result
  obtain ⟨hw', hq, -⟩ := hw.completed_rest (P := P) (W := completion.environment) (by simpa using hr)
    hn ht
  exact ⟨⟨hw', fun c hc => hl c (mem_cons_of_mem _ hc)⟩, hq⟩

theorem Waits.completedAll {before : List Completion} {last : Completion} (h : Waits rest s)
    (hp : ∀ subrequest ∈ rest, subrequest.isPlain)
    (ho : ((before ++ [last]).map Completion.subrequest).Perm rest) :
    ∃ u, Quiet s u ∧ u.subrequestCount = 0 ∧ (before ++ [last]).foldl (Session.completed P) s =
      Session.proceed last.environment last.result last.subrequest u := by
  have ha : ∀ c ∈ before ++ [last], c.subrequest.isPlain := fun c hc =>
    hp _ (ho.mem_iff.1 (mem_map_of_mem hc))
  obtain ⟨u, ⟨hw, hl⟩, hq, hu⟩ := (counts_completed P).countdown ⟨h.perm ho.symm, ha⟩ (List.Perm.refl _)
  obtain ⟨hcn, ht⟩ := takes_of_isPlain (hl last (mem_singleton_self _)) u last.result
  obtain ⟨v, hv, hq', -, hn⟩ := hw.completed_last (P := P) (W := last.environment) hcn ht
  exact ⟨v, hq.trans hq', hn, hu.trans hv⟩

end UniMrcp.MrcpClient
