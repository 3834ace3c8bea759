import UniMrcp.MrcpClient.MediaStatus
import UniMrcp.MrcpClient.Session.Books

/-!
# Termination of a client session

A termination starts a subrequest for all that the session has, and one for the signaling.
-/

namespace UniMrcp.MrcpClient

open Apt Mrcp Lib List Session Starts Channel
open MrcpServer (ControlDescriptor SessionDescriptor)

variable {P : Profile} {W : Environment} {s : Session}

/-! ## What is started -/

def Subrequest.isRelease : Subrequest → Bool
  | .controlRemove _ | .terminationSubtract _ | .destroyTopology | .terminate => true
  | _ => false

theorem Subrequest.isPlain_of_isRelease {subrequest : Subrequest} (h : subrequest.isRelease) :
    subrequest.isPlain := by
  cases subrequest <;> first | rfl | cases h

theorem channelRelease_starts (W : Environment) (s : Session) (i : Nat) :
    Starts (fun flag => flag = .channel i ∨ flag = .termination i) (·.isRelease = true) s (s.channelRelease W i) := by
  unfold channelRelease
  cases hh : s.channels[i]? with
  | none => exact refl s
  | some channel =>
    have hi : s.has (.channel i) := (List.getElem?_eq_some_iff.1 hh).1
    have hc : Starts (fun flag => flag = .channel i) (·.isRelease = true) s
        (if channel.controlChannel then s.request W (.controlRemove i) else s) :=
      ite fun _ => request_flag rfl rfl hi
    dsimp only
    generalize (if channel.controlChannel then s.request W (.controlRemove i) else s) = t at hc
    obtain ⟨new, hn⟩ := hc
    have hi' : t.has (.termination i) := hn.quiet.has (.channel i) hi
    refine trans ⟨new, hn⟩ (ite fun _ => request_flag rfl rfl hi') ?_
    rintro flag rfl hf
    cases hf

theorem slotRelease_starts (W : Environment) (s : Session) (i : Nat) :
    Starts (fun flag => flag = .slot i) (·.isRelease = true) s (s.slotRelease W i) := by
  refine ite fun hs => request_flag rfl rfl ?_
  by_contra hl
  rw [List.getElem?_eq_none (Nat.le_of_not_lt hl)] at hs
  cases hs

theorem terminateRequest_eq (ha : W.accepts .terminate) :
    (if W.accepts .terminate then s.subrequestAdd.start .terminate else s.subrequestAdd) = s.request W .terminate := by
  unfold Session.request
  rw [if_pos ha, if_pos ha]
  rfl

theorem terminate_starts (W : Environment) (s : Session) :
    Starts (fun _ => False) (·.isRelease = true) s (s.request W .terminate) := request_plain rfl rfl

theorem sessionTerminate_starts (ha : W.accepts .terminate) (s : Session) :
    Starts (fun _ => True) (·.isRelease = true) (s.stateSet .terminating) (s.sessionTerminate W) := by
  have hd : Starts (fun _ => False) (·.isRelease = true) (s.stateSet .terminating)
      (if s.context then (s.stateSet .terminating).request W .destroyTopology else s.stateSet .terminating) :=
    ite fun _ => request_plain rfl rfl
  have hc : ∀ t : Session,
      Starts (fun flag => ∃ i < t.channels.length, flag = .channel i ∨ flag = .termination i) (·.isRelease = true) t
        ((List.range t.channels.length).foldl (channelRelease W) t) := fun t => by
    refine foldl (channelRelease_starts W) ?_ _
    rintro i j flag (rfl | rfl) (h | h) <;> cases h <;> rfl
  have hs : ∀ t : Session, Starts (fun flag => ∃ i < t.terminations.length, flag = .slot i) (·.isRelease = true) t
      (if t.context then (List.range t.terminations.length).foldl (slotRelease W) t else t) := fun t => by
    refine ite fun _ => foldl (slotRelease_starts W) ?_ _
    rintro i j flag rfl h
    cases h
    rfl
  have hr := ((hd.trans (hc _) fun _ h => h.elim).trans (hs _) ?_).trans
    (terminate_starts W _) fun _ _ h => h
  · rw [← terminateRequest_eq ha] at hr
    exact hr.mono (fun _ _ => trivial) fun _ h => h
  · rintro flag (h | ⟨i, -, rfl | rfl⟩) ⟨j, -, hj⟩
    · exact h
    · cases hj
    · cases hj

theorem sessionTerminate_count (W : Environment) (s : Session) : 0 < (s.sessionTerminate W).subrequestCount := by
  unfold sessionTerminate
  split_ifs <;> exact Nat.succ_pos _

/-! ## The end of a session -/

theorem controlDestroy_length (s : Session) (l : List Nat) :
    (l.foldl controlDestroy s).channels.length = s.channels.length := by
  induction l generalizing s with
  | nil => rfl
  | cons i l ih =>
    rw [foldl_cons, ih]
    unfold controlDestroy
    split_ifs <;> simp [see, modifyChannel]

theorem controlDestroy_foldl (s : Session) (n : Nat) :
    ∃ destroyed : List Nat,
      (List.range n).foldl controlDestroy s =
        { s with
          channels := ((List.range n).foldl controlDestroy s).channels
          log := s.log ++ destroyed.map Event.controlDestroy } ∧
      (∀ i, n ≤ i → ((List.range n).foldl controlDestroy s).channels[i]? = s.channels[i]?) ∧
      ∀ i < n, s.channels[i]?.any controlChannel → i ∈ destroyed := by
  induction n with
  | zero => exact ⟨[], by simp, fun _ _ => rfl, fun _ h => absurd h (by omega)⟩
  | succ n ih =>
    obtain ⟨destroyed, heq, hc, hm⟩ := ih
    rw [range_succ, foldl_append]
    generalize (List.range n).foldl controlDestroy s = t at heq hc
    show ∃ destroyed : List Nat, t.controlDestroy n = { s with
        channels := (t.controlDestroy n).channels, log := s.log ++ destroyed.map Event.controlDestroy } ∧
      (∀ i, n + 1 ≤ i → (t.controlDestroy n).channels[i]? = s.channels[i]?) ∧ _
    unfold controlDestroy
    rw [hc n (Nat.le_refl n)]
    split_ifs with hn
    · refine ⟨destroyed ++ [n], ?_, fun i hi => ?_, fun i hi ht => ?_⟩
      · rw [heq]
        simp [see, modifyChannel]
      · show (t.modifyChannel n _).channels[i]? = _
        rw [getElem?_modifyChannel, if_neg (by omega)]
        exact hc i (by omega)
      · rcases Nat.lt_succ_iff_lt_or_eq.1 hi with hlt | rfl
        · exact mem_append_left _ (hm i hlt ht)
        · exact mem_append_right _ (mem_singleton_self _)
    · refine ⟨destroyed, heq, fun i hi => hc i (by omega), fun i hi ht => ?_⟩
      rcases Nat.lt_succ_iff_lt_or_eq.1 hi with hlt | rfl
      · exact hm i hlt ht
      · exact absurd ht hn

theorem sessionTerminateRaise_log {request : AppMessage} (h : s.activeRequest = some request) (status : SigStatusCode) :
    ∃ (destroyed : List Nat) (code : SigStatusCode),
      (s.sessionTerminateRaise status).log =
        s.log ++ (destroyed.map Event.controlDestroy ++ [.sessionRemove]) ++ [.response { request, status := code }] ∧
      ∀ i, s.channels[i]?.any controlChannel → i ∈ destroyed := by
  obtain ⟨destroyed, heq, -, hm⟩ := controlDestroy_foldl s s.channels.length
  unfold sessionTerminateRaise
  generalize (List.range s.channels.length).foldl controlDestroy s = t at heq
  have ha : t.activeRequest = some request := by rw [heq]; exact h
  have hl : t.log = s.log ++ destroyed.map Event.controlDestroy := by rw [heq]
  have hm' : ∀ i, s.channels[i]?.any controlChannel → i ∈ destroyed := by
    intro i hi
    refine hm i ?_ hi
    by_contra hn
    rw [List.getElem?_eq_none (Nat.le_of_not_lt hn)] at hi
    cases hi
  have he : ∀ u : Session, u.activeRequest = some request → u.log = t.log ++ [.sessionRemove] →
      (u.sigResponseRaise false).log = s.log ++ (destroyed.map Event.controlDestroy ++ [.sessionRemove]) ++
        [.response { request, status := if u.disconnected then .terminate else u.status }] := by
    intro u hu hul
    rw [sigResponseRaise_log hu, hul, hl, append_assoc s.log]
  split_ifs
  · exact ⟨destroyed, _, he (t.see .sessionRemove) ha rfl, hm'⟩
  · exact ⟨destroyed, _, he { t.see .sessionRemove with status := status } ha rfl, hm'⟩

/-! ## Proper termination -/

def Event.isResponse : Event → Bool
  | .response _ => true
  | _ => false

/-- **A proper termination**: after all else comes one response, and before it the control channels are destroyed and
the session is removed. -/
def Terminates (s : Session) (log : List Event) : Prop :=
  ∃ before response, log = before ++ [.response response] ∧ response.request = .sessionTerminate ∧
    (∀ event ∈ before, event.isResponse = false) ∧ .sessionRemove ∈ before ∧
    ∀ i, s.channels[i]?.any Channel.controlChannel → .controlDestroy i ∈ before

/-- A subrequest whose handler does not end the session: that of the termination of a channel, or of the topology. -/
def Subrequest.isLoose : Subrequest → Bool
  | .terminationSubtract (.channel _) | .destroyTopology => true
  | _ => false

theorem Event.not_isResponse_of_isQuiet {event : Event} (h : event.isQuiet) :
    event.isResponse = false ∧ event ≠ .sessionRemove := by
  cases event <;> simp_all [Event.isQuiet, Event.isResponse]

theorem sessionTerminateRaise_terminates {t u : Session} (hq : Quiet t u) (ht : ∃ more, t.log = s.log ++ more ∧
    ∀ event ∈ more, event.isQuiet) (hc : u.channels.map controlChannel =
      s.channels.map controlChannel) (ha : u.activeRequest = some .sessionTerminate)
    (status : SigStatusCode) : ∃ more, (u.sessionTerminateRaise status).log = s.log ++ more ∧ Terminates s more := by
  obtain ⟨destroyed, code, hl, h⟩ := sessionTerminateRaise_log ha status
  obtain ⟨more, hm, hr⟩ := ht
  obtain ⟨more', hm', hr'⟩ := hq.log
  refine ⟨more ++ more' ++ (destroyed.map Event.controlDestroy ++ [.sessionRemove]) ++
    [.response { request := .sessionTerminate, status := code }], ?_, _, _, rfl, rfl, ?_, ?_, ?_⟩
  · rw [hl, hm', hm]
    simp only [append_assoc]
  · intro event he
    rcases mem_append.1 he with he | he
    · rcases mem_append.1 he with he | he
      · exact (Event.not_isResponse_of_isQuiet (hr event he)).1
      · exact (Event.not_isResponse_of_isQuiet (hr' event he)).1
    · rcases mem_append.1 he with he | he
      · obtain ⟨i, -, rfl⟩ := mem_map.1 he
        rfl
      · obtain rfl := mem_singleton.1 he
        rfl
  · simp
  · intro i hi
    have hi' : u.channels[i]?.any controlChannel := by
      have hg := congrArg (·[i]?) hc
      simp only [List.getElem?_map] at hg
      cases hu : u.channels[i]? <;> cases hs : s.channels[i]? <;> simp_all
    simpa using Or.inr (Or.inr (h i hi'))

theorem proceed_terminates_iff {t u : Session} {last : Completion} (hr : last.subrequest.isRelease)
    (hq : Quiet t u) (hl : ∃ more, t.log = s.log ++ more ∧ ∀ event ∈ more, event.isQuiet)
    (hc : u.channels.map controlChannel = s.channels.map controlChannel)
    (ha : u.activeRequest = some .sessionTerminate) (hs : u.state = .terminating) :
    (∃ more, (proceed last.environment last.result last.subrequest u).log = s.log ++ more ∧ Terminates s more) ↔
      last.subrequest.isLoose = false := by
  have hn : ∀ status, ∃ more, (u.sessionTerminateRaise status).log = s.log ++ more ∧ Terminates s more :=
    sessionTerminateRaise_terminates hq hl hc ha
  have hu : ∃ more, u.log = s.log ++ more ∧ ∀ event ∈ more, event.isQuiet := by
    obtain ⟨more, hm, h⟩ := hl
    obtain ⟨more', hm', h'⟩ := hq.log
    refine ⟨more ++ more', by rw [hm', hm, append_assoc], fun event he => ?_⟩
    rcases mem_append.1 he with he | he
    · exact h event he
    · exact h' event he
  obtain ⟨quiet, hu, ht⟩ := hu
  obtain ⟨environment, subrequest, result⟩ := last
  cases subrequest with
  | controlRemove i => exact iff_of_true (hn _) rfl
  | terminate => exact iff_of_true (hn _) rfl
  | destroyTopology =>
    refine iff_of_false ?_ (Bool.false_ne_true ·.symm)
    rintro ⟨more, hm, before, response, rfl, -⟩
    have hnt : proceed environment result .destroyTopology u = u := by
      simp [proceed, mediaProceed, hs]
    rw [hnt, hu] at hm
    obtain rfl := append_cancel_left hm
    exact absurd (ht (.response response) (by simp)) Bool.false_ne_true
  | terminationSubtract termination =>
    cases termination with
    | rtp i => exact iff_of_true (hn _) rfl
    | channel i =>
      refine iff_of_false ?_ (Bool.false_ne_true ·.symm)
      rintro ⟨more, hm, before, response, rfl, -, -, hrm, -⟩
      have hrs := sigResponseRaise_log ha true
      rw [show proceed environment result (.terminationSubtract (.channel i)) u = u.sigResponseRaise true from rfl,
        hrs, hu, append_assoc] at hm
      obtain ⟨rfl, -⟩ := append_inj' (append_cancel_left hm) rfl
      exact (Event.not_isResponse_of_isQuiet (ht _ hrm)).2 rfl
  | controlAdd | controlModify | terminationAdd | terminationModify | resetAssociations | addAssociation
  | applyTopology | discover | offer | control => cases hr

theorem sessionTerminate_terminates_iff (s : Session) (hact : s.activeRequest = some .sessionTerminate)
    (haccepts : W.accepts .terminate) (order : List Completion)
    (horder : (s.outstanding ++ order.map Completion.subrequest).Perm (s.sessionTerminate W).outstanding) :
    (∃ more, (order.foldl (Session.completed P) (s.sessionTerminate W)).log = s.log ++ more ∧ Terminates s more) ↔
      ∀ last ∈ order.getLast?, last.subrequest.isLoose = false := by
  obtain ⟨new, hnew⟩ := sessionTerminate_starts haccepts s
  have hperm : (order.map Completion.subrequest).Perm new := by
    rw [hnew.outstanding] at horder
    exact (perm_append_left_iff _).1 horder
  have hne : order ≠ [] := by
    rintro rfl
    have hcnt := sessionTerminate_count W s
    rw [hnew.count, ← hperm.length_eq] at hcnt
    exact Nat.lt_irrefl 0 hcnt
  obtain ⟨before, last, rfl⟩ : ∃ before last, order = before ++ [last] :=
    ⟨order.dropLast, order.getLast hne, (dropLast_append_getLast hne).symm⟩
  have hplain : ∀ subrequest ∈ new, subrequest.isPlain := fun subrequest hmem =>
    Subrequest.isPlain_of_isRelease (hnew.kinds subrequest hmem)
  obtain ⟨u, hquiet, -, hu⟩ := (hnew.waits rfl).completedAll (P := P) hplain hperm
  have hrelease : last.subrequest.isRelease :=
    hnew.kinds _ (hperm.mem_iff.1 (mem_map_of_mem (by simp)))
  have hall := hnew.quiet.trans hquiet
  rw [hu, proceed_terminates_iff (s := s) hrelease hquiet hnew.quiet.log hall.controlChannels
    (hall.active.trans hact) hall.state]
  simp

/-! ## What a session has in the media context -/

/-- The terminations that the application has given with the channels. -/
def Session.owners (s : Session) : List (Option MediaTermination) := s.channels.map Channel.termination

/-- Whether the slots have an RTP termination. -/
def Session.used (s : Session) : List Bool := s.terminations.map Slot.termination

def Session.media (s : Session) : Bool × List (Option MediaTermination) × List Bool := (s.context, s.owners, s.used)

theorem map_modify_same {α β : Type} {f : α → α} {g : α → β} (hf : ∀ a, g (f a) = g a) (l : List α) (i : Nat) :
    (l.modify i f).map g = l.map g := by
  apply ext_getElem?
  intro j
  rw [List.getElem?_map, List.getElem?_map, List.getElem?_modify]
  cases l[j]? with
  | none => rfl
  | some a => by_cases hi : i = j <;> simp [hi, hf]

theorem framed_media (s : Session) : Framed (fun t => t.media = s.media) where
  same h _ channels slots context := by rw [← h, Session.media, owners, used, channels, slots, context]; rfl
  see h _ := h
  modifyChannel i _ h hf := by
    rw [← h, Session.media, owners, modifyChannel, map_modify_same hf]
    rfl
  modifySlot i _ h hf := by
    rw [← h, Session.media, used, modifySlot, map_modify_same hf]
    rfl

theorem media_request (W : Environment) (s : Session) (subrequest : Subrequest) :
    (s.request W subrequest).media = s.media := by
  unfold Session.request
  split
  · cases subrequest.flag with
    | none => rfl
    | some flag => exact (framed_media s).setWaiting (s := s.start subrequest) rfl flag true
  · rfl

theorem media_channelRelease (W : Environment) (s : Session) (i : Nat) : (s.channelRelease W i).media = s.media := by
  have hi (t : Session) (c : Bool) (subrequest : Subrequest) :
      (if c then t.request W subrequest else t).media = t.media := by
    split
    · exact media_request W t subrequest
    · rfl
  unfold channelRelease
  cases s.channels[i]? with
  | none => rfl
  | some channel => exact (hi _ _ _).trans (hi _ _ _)

theorem media_slotRelease (W : Environment) (s : Session) (i : Nat) : (s.slotRelease W i).media = s.media := by
  unfold slotRelease
  split
  · exact media_request W s _
  · rfl

theorem media_foldl {body : Session → Nat → Session} (hb : ∀ t i, (body t i).media = t.media) (l : List Nat)
    (s : Session) : (l.foldl body s).media = s.media :=
  Framed.foldl (I := fun t => t.media = s.media) rfl (fun t i ht => (hb t i).trans ht) l

theorem media_sessionTerminate (W : Environment) (s : Session) : (s.sessionTerminate W).media = s.media := by
  have hc (t : Session) : ((List.range t.channels.length).foldl (channelRelease W) t).media = t.media :=
    media_foldl (media_channelRelease W) _ t
  have hs (t : Session) :
      (if t.context then (List.range t.terminations.length).foldl (slotRelease W) t else t).media = t.media := by
    split
    · exact media_foldl (media_slotRelease W) _ t
    · rfl
  have hd : (if s.context then (s.stateSet .terminating).request W .destroyTopology
      else s.stateSet .terminating).media = s.media := by
    split
    · exact media_request W _ _
    · rfl
  have hr := ((hs _).trans (hc _)).trans hd
  unfold Session.sessionTerminate
  dsimp only
  split
  · exact hr
  · exact hr

/-- Each channel has a slot. The terminations of channels are in a media context, in which a slot has one too. -/
structure Coupled (s : Session) : Prop where
  slots : s.used.length = s.owners.length
  owned : s.context = false → ∀ owner ∈ s.owners, owner = none
  used : s.context → true ∈ s.used

theorem Coupled.of_media {t : Session} (h : Coupled s) (hm : t.media = s.media) : Coupled t := by
  simp only [Session.media, Prod.mk.injEq] at hm
  obtain ⟨hc, ho, hs⟩ := hm
  constructor
  · rw [ho, hs]
    exact h.slots
  · rw [ho, hc]
    exact h.owned
  · rw [hs, hc]
    exact h.used

theorem framed_coupled : Framed Coupled where
  same {s _} h log channels slots context := h.of_media ((framed_media s).same rfl log channels slots context)
  see h _ := h.of_media rfl
  modifyChannel {s} i _ h hf := h.of_media ((framed_media s).modifyChannel i rfl hf)
  modifySlot {s} i _ h hf := h.of_media ((framed_media s).modifySlot i rfl hf)

theorem coupled_new : Coupled ({} : Session) :=
  ⟨rfl, fun _ _ h => absurd h not_mem_nil, fun h => absurd h Bool.false_ne_true⟩

theorem used_modifySlot (s : Session) (i : Nat) :
    (s.modifySlot i ({ · with termination := true })).used = s.used.set i true := by
  unfold Session.used modifySlot
  apply ext_getElem?
  intro j
  rw [List.getElem?_map, List.getElem?_modify, List.getElem?_set, List.getElem?_map]
  by_cases hi : i = j
  · subst hi
    by_cases hl : i < s.terminations.length <;> simp [hl]
  · simp [hi]

theorem Coupled.mediaOffer {t : Session} (h : Coupled s) (key : Nat) (setup : ChannelSetup)
    (ht : t.media = (s.channelPush P key setup).media) (W : Environment) :
    Coupled (t.mediaOffer W s.channels.length setup) := by
  simp only [Session.media, Prod.mk.injEq] at ht
  obtain ⟨hc, ho, hs⟩ := ht
  have ho : t.owners = s.owners ++ [setup.termination] := by rw [ho, owners, channelPush, map_append]; rfl
  have hs : t.used = s.used ++ [false] := by rw [hs, Session.used, channelPush, map_append]; rfl
  have hl : s.used.length = s.channels.length := h.slots.trans (length_map ..)
  unfold Session.mediaOffer
  cases hset : setup.termination with
  | none =>
    apply framed_coupled.localMediaAdd
    refine ⟨by rw [ho, hs, length_append, length_append, h.slots]; rfl, fun hf owner hm => ?_, fun hu => ?_⟩
    · rw [ho, mem_append, mem_singleton] at hm
      exact hm.elim (h.owned (hc.symm.trans hf) owner) fun he => he.trans hset
    · rw [hs]
      exact mem_append_left _ (h.used (hc.symm.trans hu))
  | some termination =>
    dsimp only
    have hm := media_request W { t with context := true } (.terminationAdd (.channel s.channels.length))
    generalize Session.request W { t with context := true } (.terminationAdd (.channel s.channels.length)) = u at hm
    simp only [Session.media, Prod.mk.injEq] at hm
    obtain ⟨huc, huo, hus⟩ := hm
    refine of_media ⟨?_, fun hf => ?_, fun _ => ?_⟩ (media_request W (u.modifySlot s.channels.length _) _)
    · rw [used_modifySlot, hus]
      show (t.used.set _ true).length = u.owners.length
      rw [huo]
      show _ = t.owners.length
      rw [length_set, ho, hs, length_append, length_append, h.slots]
      rfl
    · exact absurd (huc.symm.trans hf) (Bool.noConfusion ·)
    · rw [used_modifySlot, hus]
      show true ∈ t.used.set _ true
      rw [hs, ← hl, set_append_right _ _ (Nat.le_refl _)]
      simp

theorem Coupled.channelAdd (h : Coupled s) (P : Profile) (W : Environment) (key : Nat) :
    Coupled (s.channelAdd P W key) := by
  unfold Session.channelAdd
  dsimp only
  split
  · exact framed_coupled.channelModify h P W key true
  · have hs : Coupled ({ s with offer := some (s.offer.getD {}) }.stateSet .generatingOffer) := h.of_media rfl
    have ho := hs.mediaOffer (P := P) key (P.channel key)
      ((framed_media _).controlOffer rfl P W s.channels.length (P.channel key).resourceName) W
    split
    · exact framed_coupled.offerSend ho W
    · exact ho

theorem Coupled.step (h : Coupled s) (P : Profile) (input : Environment × Input) :
    Coupled (Session.step P s input).1 :=
  framed_coupled.step (fun _ key ht => ht.channelAdd P input.1 key) h input.2 fun t ht _ _ =>
    ht.of_media (media_sessionTerminate input.1 t)

/-! ## The last completion -/

/-- The media engine is asked for it. -/
def Subrequest.isMedia (subrequest : Subrequest) : Bool := subrequest.mpfCommand.isSome

theorem slotRelease_outstanding (hW : W.takesMedia) (s : Session) (i : Nat) :
    (s.slotRelease W i).outstanding =
      s.outstanding ++ if s.used[i]? = some true then [.terminationSubtract (.rtp i)] else [] := by
  have hu : s.used[i]? = some true ↔ s.terminations[i]?.any Slot.termination := by
    rw [used, List.getElem?_map]
    cases s.terminations[i]? <;> simp
  unfold slotRelease
  split
  · rename_i ht
    rw [if_pos (hu.2 ht), request_outstanding, filter_cons_of_pos (hW _ rfl), filter_nil]
  · rename_i ht
    rw [if_neg (mt hu.1 ht), append_nil]

theorem slotReleases_outstanding (hW : W.takesMedia) (s : Session) (n : Nat) :
    ((List.range n).foldl (slotRelease W) s).outstanding = s.outstanding ++
      ((List.range n).filter fun i => s.used[i]? = some true).map fun i => .terminationSubtract (.rtp i) := by
  induction n with
  | zero => exact (append_nil _).symm
  | succ n ih =>
    have hm := media_foldl (media_slotRelease W) (List.range n) s
    simp only [Session.media, Prod.mk.injEq] at hm
    rw [range_succ, foldl_append, foldl_cons, foldl_nil, slotRelease_outstanding hW, ih, hm.2.2, filter_append,
      map_append, append_assoc]
    by_cases hn : s.used[n]? = some true <;> simp [hn]

theorem channelReleases_outstanding (W : Environment) (h : ∀ owner ∈ s.owners, owner = none) (n : Nat) :
    ∃ removed, ((List.range n).foldl (channelRelease W) s).outstanding = s.outstanding ++ removed ∧
      ∀ subrequest ∈ removed, subrequest.isMedia = false := by
  induction n with
  | zero => exact ⟨[], (append_nil _).symm, fun _ hm => absurd hm not_mem_nil⟩
  | succ n ih =>
    obtain ⟨removed, ho, hr⟩ := ih
    have hm := media_foldl (media_channelRelease W) (List.range n) s
    rw [range_succ, foldl_append, foldl_cons, foldl_nil]
    generalize (List.range n).foldl (channelRelease W) s = t at ho hm
    simp only [Session.media, Prod.mk.injEq] at hm
    unfold channelRelease
    cases hc : t.channels[n]? with
    | none => exact ⟨removed, ho, hr⟩
    | some channel =>
      have hn : channel.termination = none := by
        apply h
        rw [← hm.2.1]
        exact mem_map_of_mem (mem_of_getElem? hc)
      dsimp only
      rw [hn, Option.isSome_none, if_neg Bool.false_ne_true]
      split
      · refine ⟨removed ++ [.controlRemove n].filter W.accepts, ?_, fun subrequest hs => ?_⟩
        · rw [request_outstanding, ho, append_assoc]
        · rcases mem_append.1 hs with hs | hs
          · exact hr subrequest hs
          · obtain rfl := mem_singleton.1 (mem_filter.1 hs).1
            rfl
      · exact ⟨removed, ho, hr⟩

theorem Coupled.sessionTerminate_media (h : Coupled s) (hW : W.takesMedia) :
    ∃ before released, (s.sessionTerminate W).outstanding.filter Subrequest.isMedia = before ++ released ∧
      (∀ subrequest ∈ released, subrequest.isLoose = false) ∧
      (released = [] → before = s.outstanding.filter Subrequest.isMedia) := by
  have hlast : ∀ t : Session, (if W.accepts .terminate then t.subrequestAdd.start .terminate
      else t.subrequestAdd).outstanding.filter Subrequest.isMedia = t.outstanding.filter Subrequest.isMedia := by
    intro t
    split
    · show (t.outstanding ++ [Subrequest.terminate]).filter _ = _
      rw [filter_append]
      exact append_nil _
    · rfl
  have hm (t : Session) : ((List.range t.channels.length).foldl (channelRelease W) t).media = t.media :=
    media_foldl (media_channelRelease W) _ t
  unfold Session.sessionTerminate
  dsimp only
  rw [hlast]
  cases hc : s.context with
  | false =>
    obtain ⟨removed, ho, hr⟩ := channelReleases_outstanding W (s := s.stateSet .terminating) (h.owned hc)
      (s.stateSet .terminating).channels.length
    have hm := hm (s.stateSet .terminating)
    simp only [Session.media, Prod.mk.injEq] at hm
    have hc' : (s.stateSet .terminating).context = false := hc
    have hr : removed.filter Subrequest.isMedia = [] := filter_eq_nil_iff.2 fun x hx => by simp [hr x hx]
    rw [hc', if_neg Bool.false_ne_true, hm.1, hc', if_neg Bool.false_ne_true, ho, filter_append, hr, append_nil]
    exact ⟨_, [], (append_nil _).symm, fun _ hx => absurd hx not_mem_nil, fun _ => rfl⟩
  | true =>
    have hd := media_request W (s.stateSet .terminating) .destroyTopology
    have hc' : (s.stateSet .terminating).context = true := hc
    rw [hc', if_pos rfl]
    generalize (s.stateSet .terminating).request W .destroyTopology = t at hd
    have ht := (hm t).trans hd
    generalize (List.range t.channels.length).foldl (channelRelease W) t = u at ht
    simp only [Session.media, Prod.mk.injEq] at ht
    obtain ⟨huc, -, huu⟩ := ht
    rw [huc, hc', if_pos rfl, slotReleases_outstanding hW, filter_append]
    refine ⟨_, _, rfl, fun subrequest hs => ?_, fun hn => ?_⟩
    · obtain ⟨i, -, rfl⟩ := mem_map.1 (mem_filter.1 hs).1
      rfl
    · -- a slot has a termination
      obtain ⟨i, hi, hu⟩ := getElem_of_mem (h.used hc)
      have hl : s.used.length = u.terminations.length := by
        rw [← length_map Slot.termination]
        exact congrArg length huu.symm
      have hin : (.terminationSubtract (.rtp i) : Subrequest) ∈
          (((List.range u.terminations.length).filter fun i => u.used[i]? = some true).map
            fun i => .terminationSubtract (.rtp i)).filter Subrequest.isMedia := by
        refine mem_filter.2 ⟨mem_map.2 ⟨i, mem_filter.2 ⟨mem_range.2 (hl ▸ hi), ?_⟩, rfl⟩, rfl⟩
        have hus : u.used = s.used := huu
        simp [hus, List.getElem?_eq_getElem hi, hu]
      rw [hn] at hin
      exact absurd hin not_mem_nil

def callProfile : Profile where
  mrcpVersion := .v2
  mpfFactory := true
  resources := []
  channel _ := { resourceName := [83], termination := some ⟨some { send := true }⟩ }

def callEnvironment : Environment where
  accepts _ := true

def callAnswer : Answer where
  responseCode := 200
  descriptor :=
    { controlMediaArr := [some { resourceName := [83], sessionId := [49], port := 1544 }]
      audioMediaArr := [some { port := 5000 }] }

def callInputs : List (Environment × Input) :=
  [.request (.channelAdd 0),
    .completed (.terminationAdd (.channel 0)) {}, .completed (.controlAdd 0) {},
    .completed (.terminationAdd (.rtp 0)) { localMedia := some { port := 4000 } },
    .completed .offer { answer := some callAnswer },
    .completed .resetAssociations {}, .completed (.controlModify 0) {}, .completed (.terminationModify 0) {},
    .completed (.addAssociation 0) {}, .completed .applyTopology {}].map (callEnvironment, ·)

def callSession : Session :=
  { (run (Session.step callProfile) {} callInputs).1 with activeRequest := some .sessionTerminate }

def callOrder (order : List Subrequest) : List Completion := order.map fun subrequest => ⟨callEnvironment, subrequest, {}⟩

/-- A session that calls `mrcp_client_session_terminate`: that of a run, apart from the fields that are set with the
request. -/
def Session.Dispatched (P : Profile) (s : Session) : Prop :=
  ∃ inputs, s = { (run (Session.step P) {} inputs).1 with
    activeRequest := some .sessionTerminate, status := s.status, dispatching := s.dispatching, log := s.log }

/-- **The termination of a session is proper, in whatever order all that is started is completed**, if the signaling
agent takes the request and the media engine answers its requests in order. -/
theorem sessionTerminate_terminates (s : Session) (hs : s.Dispatched P) (haccepts : W.accepts .terminate)
    (hW : W.takesMedia) (order : List Completion)
    (horder : (s.outstanding ++ order.map Completion.subrequest).Perm (s.sessionTerminate W).outstanding)
    (hmedia : s.outstanding.filter Subrequest.isMedia ++
        (order.map Completion.subrequest).filter Subrequest.isMedia =
      (s.sessionTerminate W).outstanding.filter Subrequest.isMedia) :
    ∃ more, (order.foldl (Session.completed P) (s.sessionTerminate W)).log = s.log ++ more ∧ Terminates s more := by
  obtain ⟨inputs, he⟩ := hs
  have hc : Coupled s := by
    have hr := run_invariant Coupled (fun _ _ => True) (fun t input ht _ => ht.step P input) {} inputs coupled_new
      (eachStep_true _ inputs)
    rw [he]
    exact hr.of_media rfl
  have hact : s.activeRequest = some .sessionTerminate := by rw [he]
  refine (sessionTerminate_terminates_iff s hact haccepts order horder).2 fun last hl => ?_
  by_contra hloose
  have hlm : last.subrequest.isMedia := by
    revert hloose
    cases last.subrequest <;> first | exact fun _ => rfl | exact fun h => absurd rfl h
  obtain ⟨before, released, ho, hr, hn⟩ := hc.sessionTerminate_media hW
  obtain ⟨init, rfl⟩ : ∃ init, order = init ++ [last] := by
    obtain ⟨hne, hl⟩ := List.getLast?_eq_some_iff.1 hl
    exact ⟨_, hl⟩
  rw [ho, map_append, filter_append, map_singleton, filter_cons_of_pos hlm, filter_nil, ← append_assoc] at hmedia
  rcases eq_nil_or_concat released with rfl | ⟨front, x, rfl⟩
  · rw [hn rfl] at hmedia
    simpa using congrArg length hmedia
  · rw [concat_eq_append, ← append_assoc] at hmedia
    obtain ⟨-, hx⟩ := append_inj' hmedia rfl
    exact hloose ((singleton_inj.1 hx) ▸ hr x (by simp))

/-- The termination of this call, with the RTP termination last. -/
theorem sessionTerminate_terminates_call :
    ∃ more, ((callOrder [.terminate, .destroyTopology, .terminationSubtract (.channel 0), .controlRemove 0,
        .terminationSubtract (.rtp 0)]).foldl (Session.completed callProfile)
          (callSession.sessionTerminate callEnvironment)).log = callSession.log ++ more ∧
      Terminates callSession more :=
  sessionTerminate_terminates callSession ⟨callInputs, rfl⟩ rfl (fun _ _ => rfl) _ (by decide +kernel)
    (by decide +kernel)

end UniMrcp.MrcpClient
