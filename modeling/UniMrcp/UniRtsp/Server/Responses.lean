import UniMrcp.Lib.Ledger
import UniMrcp.UniRtsp.Server.Tables

/-!
# The responses of the server

Every request is answered once as long as its connection is open, or it waits with its session.
-/

namespace UniMrcp.UniRtsp

open Apt Lib List Function Server ServerSession ServerEvent
open Option (some_ne_none mem_toList some.inj toList_none)

variable {A : ServerProfile} {s t : Server} {id c : Nat} {hand : Option Nat}

def Carries (response request : RtspMessage) : Prop :=
  headerPropertyCheck request.header .cseq = true →
    headerPropertyCheck response.header .cseq ∧ response.header.cseq = request.header.cseq

instance (response request : RtspMessage) : Decidable (Carries response request) :=
  inferInstanceAs (Decidable (_ → _))

theorem Carries.setSession {response request : RtspMessage} (h : Carries response request) (sessionId : Bytes) :
    Carries (response.setSession sessionId) request := by
  intro hc
  obtain ⟨ht, hs⟩ := h hc
  refine ⟨?_, (headerPropertyAdd_cseq _ _).trans hs⟩
  exact (headerPropertyCheck_add { response.header with sessionId := sessionId } (by decide)).trans ht

theorem carries_responseCreate (A : ServerProfile) (request : Received) (status : Status) :
    Carries (request.responseCreate A status) request.message :=
  responseCreate_cseq A.delivery request.message.startLine.version status.code status.reason

def ServerSession.requests (session : ServerSession) : List Received :=
  session.activeRequest.toList ++ session.requestQueue

def ServerEvent.answers (number : Nat) : ServerEvent → Bool
  | .sent _ _ (some answered) => answered == number
  | _ => false

def ServerEvent.begins (id : Nat) : ServerEvent → Option Nat
  | .began session number => if session = id then some number else none
  | _ => none

def ServerEvent.arrives : ServerEvent → Option Nat
  | .received _ request => some request.number
  | _ => none

def Server.answers (s : Server) (number : Nat) : Nat := s.log.countP (ServerEvent.answers number)

def Server.begun (s : Server) (id : Nat) : List Nat := s.log.filterMap (ServerEvent.begins id)

def Signal.responseFor (id : Nat) : Signal → Option RtspMessage
  | .send session message => if session = id ∧ message.startLine.isRequest = false then some message else none
  | _ => none

def Server.responses (s : Server) (id : Nat) : List RtspMessage := s.signals.filterMap (Signal.responseFor id)

def Server.counts (s : Server) (number : Nat) : Prop :=
  ∃ c request, ServerEvent.received c request ∈ s.log ∧ request.number = number ∧ (s.connection c).sock

def Server.desk (s : Server) (id : Nat) : List Nat :=
  if s.live id then (s.session id).requests.map Received.number else []

def Server.ledger (s : Server) (hand : Option Nat) : Ledger (Option Nat) where
  issued := s.received
  desk place := place.elim hand.toList s.desk
  answers := s.answers

/-! ## The invariant -/

/-- **The invariant of a session**: its requests are handled in order, and the active one is to be answered, or its
response to be processed, or the session to be terminated. -/
structure Attended (session : ServerSession) (responses : List RtspMessage) (begun : List Nat)
    (log : List ServerEvent) : Prop where
  sorted : (begun ++ session.requestQueue.map Received.number).Pairwise (· < ·)
  queued : session.requestQueue ≠ [] → session.activeRequest.isSome ∨ session.terminating
  owed : session.owed → session.activeRequest.isSome
  answering : ∀ message ∈ responses, session.owed = false ∧
    ∃ request, session.activeRequest = some request ∧ Carries message request.message
  single : responses.length ≤ 1
  awaited : session.activeRequest.isSome →
    session.owed ∨ responses ≠ [] ∨ session.terminating ∨ session.closing
  known : ∀ request ∈ session.requests, ServerEvent.received session.connection request ∈ log

/-- **The invariant of the server.** -/
structure Prompt (hand : Option Nat) (s : Server) : Prop where
  wired : Wired s
  balanced : (s.ledger hand).Balanced s.counts
  attended : ∀ id, s.live id → Attended (s.session id) (s.responses id) (s.begun id) s.log
  begun : ∀ id, (s.begun id).Pairwise (· < ·)
  bound : ∀ id, ∀ number ∈ s.begun id, number < hand.getD s.received
  unbegun : ∀ id, s.sessionCount ≤ id → s.begun id = []
  opened : ∀ c request, ServerEvent.received c request ∈ s.log → c < s.connectionCount
  numbered : s.log.filterMap ServerEvent.arrives = List.range s.received
  inHand : ∀ number, hand = some number → number + 1 = s.received
  sent : ∀ c message number, ServerEvent.sent c message (some number) ∈ s.log →
    ∃ request, ServerEvent.received c request ∈ s.log ∧ request.number = number ∧ Carries message request.message

def ServerEvent.silent : ServerEvent → Bool
  | .received .. => false
  | .began .. => false
  | .sent _ _ answers => answers.isNone
  | _ => true

def ServerEvent.within (id : Nat) : ServerEvent → Bool
  | .received .. => false
  | .began session _ => session == id
  | _ => true

variable {event : ServerEvent}

theorem ServerEvent.within_of_silent (h : event.silent) : event.within id := by
  cases event with
  | received => cases h
  | began => cases h
  | _ => rfl

variable {events : List ServerEvent}

theorem within_silent (hs : ∀ event ∈ events, event.silent) (id : Nat) :
    ∀ event ∈ events, event.within id :=
  fun event hm => within_of_silent (hs event hm)

theorem countP_answers_silent (hs : ∀ event ∈ events, event.silent) (number : Nat) :
    events.countP (ServerEvent.answers number) = 0 := by
  refine countP_eq_zero.2 fun event hm => ?_
  have he := hs event hm
  cases event with
  | sent c message answers =>
    cases answers with
    | none => exact Bool.false_ne_true
    | some _ => cases he
  | _ => exact Bool.false_ne_true

theorem begins_silent (hs : ∀ event ∈ events, event.silent) (id : Nat) :
    events.filterMap (begins id) = [] := by
  refine filterMap_eq_nil_iff.2 fun event hm => ?_
  have he := hs event hm
  cases event with
  | began => cases he
  | _ => rfl

theorem arrives_within (hw : ∀ event ∈ events, event.within id) :
    events.filterMap arrives = [] := by
  refine filterMap_eq_nil_iff.2 fun event hm => ?_
  have he := hw event hm
  cases event with
  | received c request => cases he
  | _ => rfl

theorem received_within (hl : t.log = s.log ++ events) (hw : ∀ event ∈ events, event.within id)
    (c : Nat) (request : Received) :
    ServerEvent.received c request ∈ t.log ↔ ServerEvent.received c request ∈ s.log := by
  rw [hl, mem_append]
  refine or_iff_left fun hm => ?_
  cases hw _ hm

theorem answers_append (hl : t.log = s.log ++ events) (number : Nat) :
    t.answers number = s.answers number + events.countP (ServerEvent.answers number) := by
  unfold Server.answers
  rw [hl, countP_append]

theorem begun_append (hl : t.log = s.log ++ events) (id : Nat) :
    t.begun id = s.begun id ++ events.filterMap (begins id) := by
  unfold Server.begun
  rw [hl, filterMap_append]

def Hushed (s t : Server) : Prop := ∃ events, t.log = s.log ++ events ∧ ∀ event ∈ events, event.silent

theorem hushed_of_eq (hl : t.log = s.log) : Hushed s t :=
  ⟨[], hl.trans (append_nil _).symm, forall_mem_nil _⟩

theorem hushed_see (hl : t.log = s.log ++ [event]) (hs : event.silent) : Hushed s t :=
  ⟨[event], hl, forall_mem_singleton.2 hs⟩

variable {u : Server}

theorem Hushed.trans (h : Hushed s t) (h' : Hushed t u) : Hushed s u := by
  obtain ⟨events, hl, hs⟩ := h
  obtain ⟨events', hl', hs'⟩ := h'
  exact ⟨events ++ events', by rw [hl', hl, append_assoc], forall_mem_append.2 ⟨hs, hs'⟩⟩

structure ServerSession.Relaxed (session former : ServerSession) : Prop where
  activeRequest : session.activeRequest = former.activeRequest
  requestQueue : session.requestQueue = former.requestQueue
  connection : session.connection = former.connection
  owed : session.owed = former.owed
  terminating : former.terminating → session.terminating
  closing : former.closing → session.closing

theorem ServerSession.relaxed_refl (session : ServerSession) : session.Relaxed session :=
  ⟨rfl, rfl, rfl, rfl, fun h => h, fun h => h⟩

theorem ServerSession.Relaxed.trans {a b c : ServerSession} (h : c.Relaxed b) (h' : b.Relaxed a) : c.Relaxed a :=
  ⟨h.activeRequest.trans h'.activeRequest, h.requestQueue.trans h'.requestQueue, h.connection.trans h'.connection,
    h.owed.trans h'.owed, fun heq => h.terminating (h'.terminating heq), fun heq => h.closing (h'.closing heq)⟩

theorem ServerSession.Relaxed.requests {session former : ServerSession} (h : session.Relaxed former) :
    session.requests = former.requests := by
  unfold ServerSession.requests
  rw [h.activeRequest, h.requestQueue]

variable {responses : List RtspMessage} {begun : List Nat}

theorem Attended.relax {session former : ServerSession} {log log' : List ServerEvent}
    (h : Attended former responses begun log) (hr : session.Relaxed former) (hl : ∀ event ∈ log, event ∈ log') :
    Attended session responses begun log' where
  sorted := by
    rw [hr.requestQueue]
    exact h.sorted
  queued hq := by
    rw [hr.activeRequest]
    exact (h.queued (hr.requestQueue ▸ hq)).imp_right hr.terminating
  owed ho := by
    rw [hr.activeRequest]
    exact h.owed (hr.owed ▸ ho)
  answering message hm := by
    rw [hr.owed, hr.activeRequest]
    exact h.answering message hm
  single := h.single
  awaited ha := by
    rw [hr.owed]
    exact (h.awaited (hr.activeRequest ▸ ha)).imp_right (Or.imp_right (Or.imp hr.terminating hr.closing))
  known request hm := by
    rw [hr.connection]
    exact hl _ (h.known request (hr.requests ▸ hm))

/-- **The requests stay where they are.** -/
theorem Prompt.relax (h : Prompt hand s) (hw : Wired t) (hv : ∀ id, t.live id = s.live id)
    (hc : t.sessionCount = s.sessionCount)
    (hss : ∀ id, s.live id → (t.session id).Relaxed (s.session id))
    (hrs : ∀ id, t.responses id = s.responses id) (hr : t.received = s.received)
    (hcn : s.connectionCount ≤ t.connectionCount)
    (hsc : ∀ c, c < s.connectionCount → (t.connection c).sock → (s.connection c).sock)
    (hh : Hushed s t) : Prompt hand t := by
  obtain ⟨events, hl, hs⟩ := hh
  have hm := received_within hl (within_silent hs 0)
  have hb : ∀ id, t.begun id = s.begun id := fun id => by
    rw [begun_append hl, begins_silent hs, append_nil]
  have ha : ∀ number, t.answers number = s.answers number := fun number => by
    rw [answers_append hl, countP_answers_silent hs, Nat.add_zero]
  refine ⟨hw, ?_, fun id hid => ?_, fun id => ?_, fun id number hn => ?_, fun id hid => ?_,
    fun c request ht => ?_, ?_, ?_, fun c message number ht => ?_⟩
  · have hco : ∀ number, number < (s.ledger hand).issued → t.counts number → s.counts number := by
      rintro number - ⟨c, request, ht, hn, ho⟩
      have ht := (hm c request).1 ht
      exact ⟨c, request, ht, hn, hsc c (h.opened c request ht) ho⟩
    refine (h.balanced.mono hco).congr hr (fun place => ?_) ha
    cases place with
    | none => rfl
    | some id =>
      show t.desk id = s.desk id
      unfold Server.desk
      rw [hv]
      split_ifs with hid
      · rw [(hss id hid).requests]
      · rfl
  · rw [hv] at hid
    rw [hrs, hb]
    exact (h.attended id hid).relax (hss id hid) fun event he => hl ▸ mem_append_left _ he
  · rw [hb]
    exact h.begun id
  · rw [hr]
    exact h.bound id number (hb id ▸ hn)
  · rw [hb]
    exact h.unbegun id (hc ▸ hid)
  · exact Nat.lt_of_lt_of_le (h.opened c request ((hm c request).1 ht)) hcn
  · rw [hl, filterMap_append, arrives_within (within_silent hs 0), append_nil, hr]
    exact h.numbered
  · rw [hr]
    exact h.inHand
  · rw [hl, mem_append] at ht
    obtain ⟨request, hq, hre⟩ :=
      h.sent c message number (ht.resolve_right fun hno => nomatch hs _ hno)
    exact ⟨request, (hm c request).2 hq, hre⟩

/-! ## Requests that move -/

/-- **One session is changed** at most. -/
structure Local (id : Nat) (s t : Server) : Prop where
  session : ∀ other, other ≠ id → t.session other = s.session other
  sessionCount : t.sessionCount = s.sessionCount
  sock : ∀ c, (t.connection c).sock = (s.connection c).sock
  connectionCount : t.connectionCount = s.connectionCount
  received : t.received = s.received

theorem local_refl (id : Nat) (s : Server) : Local id s s := ⟨fun _ _ => rfl, rfl, fun _ => rfl, rfl, rfl⟩

theorem Local.trans (h : Local id s t) (h' : Local id t u) : Local id s u where
  session other hne := (h'.session other hne).trans (h.session other hne)
  sessionCount := h'.sessionCount.trans h.sessionCount
  sock c := (h'.sock c).trans (h.sock c)
  connectionCount := h'.connectionCount.trans h.connectionCount
  received := h'.received.trans h.received

theorem modifySession_local (s : Server) (id : Nat) (f : ServerSession → ServerSession) :
    Local id s (s.modifySession id f) :=
  ⟨fun _ hne => s.modifySession_ne f hne, rfl, fun _ => rfl, rfl, rfl⟩

theorem see_local (id : Nat) (s : Server) (event : ServerEvent) : Local id s (s.see event) :=
  ⟨fun _ _ => rfl, rfl, fun _ => rfl, rfl, rfl⟩

theorem messageSend_local (id : Nat) (s : Server) (c : Nat) (message : RtspMessage) (answers : Option Nat) :
    Local id s (s.messageSend c message answers) := by
  unfold Server.messageSend
  split_ifs
  · exact see_local id s _
  · exact local_refl id s

variable {other : Nat}

theorem Local.desk (h : Local id s t) (hne : other ≠ id) : t.desk other = s.desk other := by
  unfold Server.desk Server.live
  rw [h.sessionCount, h.session other hne]

theorem Local.place (h : Local id s t) {hand' place : Option Nat} (hp : place = none → hand' = hand)
    (hne : place ≠ some id) : (t.ledger hand').desk place = (s.ledger hand).desk place := by
  cases place with
  | none =>
    obtain rfl := hp rfl
    rfl
  | some other => exact h.desk fun heq => hne (congrArg some heq)

theorem Prompt.change (h : Prompt hand s) (hw : Wired t) (hl : Local id s t)
    (hbl : (s.ledger hand).Balanced t.counts → (t.ledger none).Balanced t.counts)
    (hrs : ∀ other, other ≠ id → t.responses other = s.responses other)
    (hg : t.log = s.log ++ events) (he : ∀ event ∈ events, event.within id) (first : Option Nat)
    (hf : events.filterMap (begins id) = first.toList)
    (hnw : ∀ number, first = some number →
      id < s.sessionCount ∧ number < s.received ∧ ∀ former ∈ s.begun id, former < number)
    (ha : t.live id →
      Attended (t.session id) (t.responses id) (s.begun id ++ first.toList) t.log)
    (hsn : ∀ c message number, ServerEvent.sent c message (some number) ∈ events →
      ∃ request, ServerEvent.received c request ∈ s.log ∧ request.number = number ∧
        Carries message request.message) : Prompt none t := by
  have hm := received_within hg he
  have ho : ∀ other, other ≠ id → t.begun other = s.begun other := by
    intro other hne
    have hnn : events.filterMap (begins other) = [] := by
      refine filterMap_eq_nil_iff.2 fun event ht => ?_
      have hv := he event ht
      cases event with
      | began session number =>
        have hss : session = id := by simpa [within] using hv
        exact if_neg fun heq : session = other => hne (heq ▸ hss)
      | _ => rfl
    rw [begun_append hg, hnn, append_nil]
  have hs : t.begun id = s.begun id ++ first.toList := by rw [begun_append hg, hf]
  have hh : hand.getD s.received ≤ s.received := by
    cases hh : hand with
    | none => exact Nat.le_refl _
    | some number =>
      have := h.inHand number hh
      show number ≤ s.received
      omega
  refine ⟨hw, hbl (h.balanced.mono fun number _ hc => ?_), fun other ht => ?_, fun other => ?_,
    fun other number hn => ?_, fun other hle => ?_, fun c request ht => ?_, ?_,
    fun _ heq => (some_ne_none _ heq.symm).elim, fun c message number ht => ?_⟩
  · obtain ⟨c, request, ht, hn, hp⟩ := hc
    exact ⟨c, request, (hm c request).1 ht, hn, hl.sock c ▸ hp⟩
  · rcases eq_or_ne other id with rfl | hne
    · exact hs ▸ ha ht
    · have hlv : t.live other = s.live other := by
        unfold Server.live
        rw [hl.sessionCount, hl.session other hne]
      rw [hl.session other hne, hrs other hne, ho other hne]
      refine (h.attended other (hlv ▸ ht)).relax (relaxed_refl _) fun event hv => ?_
      exact hg ▸ mem_append_left _ hv
  · rcases eq_or_ne other id with rfl | hne
    · rw [hs]
      refine pairwise_append.2 ⟨h.begun other, ?_, fun former hfr number hn => ?_⟩
      · cases first with
        | none => exact List.Pairwise.nil
        | some number => exact pairwise_singleton _ _
      · exact (hnw number (mem_toList.1 hn)).2.2 former hfr
    · rw [ho other hne]
      exact h.begun other
  · have hb : number ∈ s.begun other → number < t.received := by
      intro hn
      have := h.bound other number hn
      rw [hl.received]
      omega
    rcases eq_or_ne other id with rfl | hne
    · rw [hs] at hn
      refine (mem_append.1 hn).elim hb fun hn => ?_
      exact hl.received ▸ (hnw number (mem_toList.1 hn)).2.1
    · exact hb (ho other hne ▸ hn)
  · rw [hl.sessionCount] at hle
    rcases eq_or_ne other id with rfl | hne
    · cases first with
      | none => exact hs.trans ((append_nil _).trans (h.unbegun other hle))
      | some number => exact absurd (hnw number rfl).1 (Nat.not_lt.2 hle)
    · rw [ho other hne]
      exact h.unbegun other hle
  · rw [hl.connectionCount]
    exact h.opened c request ((hm c request).1 ht)
  · rw [hg, filterMap_append, arrives_within he, append_nil, hl.received]
    exact h.numbered
  · have hsn : ∃ request, ServerEvent.received c request ∈ s.log ∧ request.number = number ∧
        Carries message request.message := by
      rw [hg, mem_append] at ht
      exact ht.elim (h.sent c message number) (hsn c message number)
    obtain ⟨request, hr, hre⟩ := hsn
    exact ⟨request, (hm c request).2 hr, hre⟩

variable {number : Nat} {request : Received} {message : RtspMessage}

theorem desk_of_live (hl : s.live id) : s.desk id = (s.session id).requests.map Received.number :=
  if_pos hl

theorem desk_of_gone (hg : s.live id = false) : s.desk id = [] := if_neg (hg ▸ Bool.false_ne_true)

theorem responses_congr (hs : t.signals = s.signals) (id : Nat) : t.responses id = s.responses id := by
  unfold Server.responses
  rw [hs]

theorem countP_answers_sent (c : Nat) (message : RtspMessage) (number answered : Nat) :
    [ServerEvent.sent c message (some answered)].countP (ServerEvent.answers number) =
      if answered = number then 1 else 0 := by
  simp [countP_singleton, ServerEvent.answers]

theorem Prompt.new_hand (h : Prompt (some number) s) (hid : id < s.sessionCount) :
    id < s.sessionCount ∧ number < s.received ∧ ∀ former ∈ s.begun id, former < number := by
  have hn := h.inHand number rfl
  exact ⟨hid, by omega, h.bound id⟩

theorem Prompt.settle (h : Prompt (some request.number) s) (hw : Wired t) (hl : Local id s t)
    (hi : s.desk id = []) (hn : t.live id = false) (hs : t.signals = s.signals)
    (hr : ServerEvent.received c request ∈ s.log) (hcr : Carries message request.message)
    (hg : t.log = s.log ++ events) (he : ∀ event ∈ events, event.within id)
    (hc : ∀ asked, events.countP (ServerEvent.answers asked) = if request.number = asked then 1 else 0)
    (hsn : ∀ other sent number, ServerEvent.sent other sent (some number) ∈ events →
      ServerEvent.sent other sent (some number) = .sent c message (some request.number))
    (first : Option Nat) (hf : events.filterMap (begins id) = first.toList)
    (hnw : ∀ number, first = some number → number = request.number ∧ id < s.sessionCount) : Prompt none t := by
  refine h.change hw hl (fun hb => ?_) (fun _ _ => responses_congr hs _) hg he first hf
    (fun number hm => ?_) (fun hv => absurd (hn.symm.trans hv) Bool.false_ne_true)
    fun other sent number hmm => ?_
  · refine hb.take none request.number [] rfl hl.received rfl (fun place hne => ?_) (fun number hne => ?_)
      fun _ => ?_
    · rcases eq_or_ne place (some id) with rfl | ho
      · exact (desk_of_gone hn).trans hi.symm
      · exact hl.place (fun heq => absurd heq hne) ho
    · exact (answers_append hg number).trans (by rw [hc, if_neg hne.symm]; rfl)
    · exact (answers_append hg request.number).trans (by rw [hc, if_pos rfl]; rfl)
  · obtain ⟨rfl, hid⟩ := hnw number hm
    exact h.new_hand hid
  · obtain ⟨rfl, rfl, ha⟩ := ServerEvent.sent.inj (hsn other sent number hmm)
    obtain rfl := some.inj ha
    exact ⟨request, hr, rfl, hcr⟩

theorem Prompt.respond (h : Prompt (some request.number) s) (hs : (s.connection c).sock)
    (hr : ServerEvent.received c request ∈ s.log) (status : Status) :
    Prompt none (s.errorRespond A c request status) := by
  have ht : s.errorRespond A c request status =
      s.see (.sent c (request.responseCreate A status) (some request.number)) := if_pos hs
  have hg : s.live s.sessionCount = false := by simp [Server.live]
  rw [ht]
  exact h.settle (h.wired.see _) (see_local s.sessionCount s _) (desk_of_gone hg) hg rfl hr
    (carries_responseCreate A request status) rfl (forall_mem_singleton.2 rfl)
    (fun asked => countP_answers_sent c _ asked _) (fun _ _ _ hm => mem_singleton.1 hm) none rfl (by simp)

theorem Prompt.refuse (h : Prompt (some request.number) s) (hw : Wired t) (hl : Local id s t)
    (hid : id < s.sessionCount) (hi : s.desk id = []) (hgn : t.live id = false)
    (hs : t.signals = s.signals) (hr : ServerEvent.received c request ∈ s.log)
    (hc : Carries message request.message)
    (hg : t.log = s.log ++ [.began id request.number, .sent c message (some request.number), .sessionDestroyed id]) :
    Prompt none t := by
  refine h.settle hw hl hi hgn hs hr hc hg ?_ (fun asked => ?_)
    (fun other sent number hm => ?_) (some request.number) ?_
    fun number hn => ⟨(some.inj hn).symm, hid⟩
  · simp [within]
  · exact countP_answers_sent c message asked request.number
  · simpa using hm
  · simp [begins]

theorem Prompt.notMem_desk (h : Prompt (some number) s) (id : Nat) : number ∉ s.desk id :=
  h.balanced.notMem (k := none) (mem_singleton_self number) (some id) (some_ne_none id)

theorem Prompt.lt_hand {number waiting : Nat} (h : Prompt (some number) s) (id : Nat) (hm : waiting ∈ s.desk id) :
    waiting < number := by
  have hlt : waiting < s.received := h.balanced.issued (some id) waiting hm
  have hn := h.inHand number rfl
  have hne : waiting ≠ number := fun heq => h.notMem_desk id (heq ▸ hm)
  omega

theorem Local.toDesk (hl : Local id s t)
    (hd : t.desk id = s.desk id ++ [request.number]) (ha : ∀ number, t.answers number = s.answers number)
    {counts : Nat → Prop} (hb : (s.ledger (some request.number)).Balanced counts) :
    (t.ledger none).Balanced counts :=
  hb.move none (some id) request.number [] rfl (some_ne_none id) hl.received rfl hd
    (fun _ hne hne' => hl.place (fun heq => absurd heq hne) hne') ha

theorem Prompt.enqueue (h : Prompt (some request.number) s) (hw : Wired t) (hl : Local id s t)
    (hv : s.live id) (hc : (s.session id).activeRequest.isSome)
    (hr : ServerEvent.received (s.session id).connection request ∈ s.log)
    (hs : t.session id = { s.session id with requestQueue := (s.session id).requestQueue ++ [request] })
    (hsg : t.signals = s.signals) (hg : t.log = s.log) : Prompt none t := by
  have ha := h.attended id hv
  have hv' : t.live id := by
    rw [live_iff, hl.sessionCount, hs]
    exact live_iff.1 hv
  have hd : t.desk id = s.desk id ++ [request.number] := by
    rw [desk_of_live hv', desk_of_live hv, hs]
    simp [ServerSession.requests]
  refine h.change hw hl (hl.toDesk hd fun number => ?_) (fun other _ => responses_congr hsg other)
    (hg.trans (append_nil _).symm) (forall_mem_nil _) none rfl nofun (fun _ => ?_)
    fun _ _ _ hm => absurd hm not_mem_nil
  · unfold Server.answers
    rw [hg]
  · rw [responses_congr hsg, toList_none, append_nil, hs, hg]
    refine ⟨?_, fun _ => Or.inl hc, ha.owed, ha.answering, ha.single, ha.awaited,
      fun waiting hm => ?_⟩
    · show (s.begun id ++ ((s.session id).requestQueue ++ [request]).map Received.number).Pairwise (· < ·)
      rw [map_append, ← append_assoc, pairwise_append]
      refine ⟨ha.sorted, pairwise_singleton _ _, fun number hm last hls => ?_⟩
      rw [mem_singleton.1 hls]
      rcases mem_append.1 hm with hm | hm
      · exact h.bound id number hm
      · refine h.lt_hand id ?_
        rw [desk_of_live hv, ServerSession.requests, map_append]
        exact mem_append_right _ hm
    · have hm : waiting ∈ (s.session id).activeRequest.toList ++ ((s.session id).requestQueue ++ [request]) := hm
      rw [← append_assoc] at hm
      rcases mem_append.1 hm with hm | hm
      · exact ha.known waiting hm
      · rw [mem_singleton.1 hm]
        exact hr

theorem Prompt.begin (h : Prompt (some request.number) s) (hw : Wired t) (hl : Local id s t)
    (hv : s.live id) (hi : (s.session id).requests = []) (hno : s.responses id = [])
    (hr : ServerEvent.received (s.session id).connection request ∈ s.log) (hv' : t.live id)
    (ha : (t.session id).activeRequest = some request) (hq : (t.session id).requestQueue = [])
    (hc : (t.session id).connection = (s.session id).connection)
    (haw : (t.session id).owed ∨ (t.session id).terminating) (hsg : t.signals = s.signals)
    (hg : t.log = s.log ++ .began id request.number :: events) (hs : ∀ event ∈ events, event.silent) :
    Prompt none t := by
  have hd : t.desk id = s.desk id ++ [request.number] := by
    rw [desk_of_live hv, hi, desk_of_live hv', ServerSession.requests, ha, hq]
    rfl
  have hn := h.new_hand (live_iff.1 hv).1
  refine h.change hw hl (hl.toDesk hd fun number => ?_) (fun other _ => responses_congr hsg other) hg
    (forall_mem_cons.2 ⟨beq_self_eq_true id, within_silent hs id⟩) (some request.number) ?_
    (fun number hnm => some.inj hnm ▸ hn) (fun _ => ?_) fun other message number hm => ?_
  · exact (answers_append hg number).trans (congrArg (s.answers number + ·) (countP_answers_silent hs number))
  · have hse : begins id (.began id request.number) = some request.number := if_pos rfl
    rw [filterMap_cons_some hse, begins_silent hs]
    rfl
  · rw [responses_congr hsg, hno]
    refine ⟨?_, fun hne => absurd hq hne, fun _ => by rw [ha]; rfl, forall_mem_nil _,
      Nat.zero_le _, fun _ => haw.imp_right fun ht => Or.inr (Or.inl ht),
      fun waiting hm => ?_⟩
    · rw [hq]
      refine pairwise_append.2 ⟨?_, List.Pairwise.nil, fun _ _ _ hm => absurd hm not_mem_nil⟩
      refine pairwise_append.2 ⟨h.begun id, pairwise_singleton _ _, fun former hm last hls => ?_⟩
      rw [mem_singleton.1 hls]
      exact hn.2.2 former hm
    · rw [ServerSession.requests, ha, hq] at hm
      rw [mem_singleton.1 hm, hc, hg]
      exact mem_append_left _ hr
  · rcases mem_cons.1 hm with heq | hm
    · cases heq
    · cases hs _ hm

theorem eq_of_filterMap {α β : Type} {f : α → Option β} {l : List α} (h : (l.filterMap f).Nodup) {a b : α} {x : β}
    (ha : a ∈ l) (hb : b ∈ l) (hx : f a = some x) (hbx : f b = some x) : a = b := by
  induction l with
  | nil => cases ha
  | cons y l ih =>
    have hr : (l.filterMap f).Nodup := by
      cases hy : f y with
      | none => rwa [filterMap_cons_none hy] at h
      | some z =>
        rw [filterMap_cons_some hy] at h
        exact (nodup_cons.1 h).2
    have hf : ∀ {w : α}, f y = some x → w ∈ l → f w ≠ some x := by
      intro w hy hw hwx
      rw [filterMap_cons_some hy] at h
      exact (nodup_cons.1 h).1 (mem_filterMap.2 ⟨w, hw, hwx⟩)
    rcases mem_cons.1 ha with rfl | ha'
    · rcases mem_cons.1 hb with rfl | hb'
      · rfl
      · exact absurd hbx (hf hx hb')
    · rcases mem_cons.1 hb with rfl | hb'
      · exact absurd hx (hf hbx ha')
      · exact ih hr ha' hb'

theorem Prompt.connection_eq (h : Prompt hand s) {request request' : Received}
    (ht : ServerEvent.received c request ∈ s.log) (ht' : ServerEvent.received other request' ∈ s.log)
    (hn : request'.number = request.number) : other = c := by
  have hd : (s.log.filterMap arrives).Nodup := h.numbered ▸ nodup_range
  have heq := eq_of_filterMap hd ht' ht (congrArg some hn) rfl
  exact (ServerEvent.received.inj heq).1

def Server.answerEvents (s : Server) (c : Nat) (message : RtspMessage) (number : Nat) : List ServerEvent :=
  if (s.connection c).sock then [.sent c message (some number)] else []

theorem messageSend_log (s : Server) (c : Nat) (message : RtspMessage) (number : Nat) :
    (s.messageSend c message (some number)).log = s.log ++ s.answerEvents c message number := by
  unfold Server.messageSend Server.answerEvents
  split_ifs
  · rfl
  · exact (append_nil _).symm

theorem mem_answerEvents (h : event ∈ s.answerEvents c message number) : event = .sent c message (some number) := by
  unfold Server.answerEvents at h
  split_ifs at h
  · exact mem_singleton.1 h
  · cases h

theorem countP_answerEvents (s : Server) (c : Nat) (message : RtspMessage) (number asked : Nat) :
    (s.answerEvents c message number).countP (ServerEvent.answers asked) =
      if number = asked ∧ (s.connection c).sock then 1 else 0 := by
  unfold Server.answerEvents
  split_ifs with ho hc hc
  · rw [countP_answers_sent, if_pos hc.1]
  · rw [countP_answers_sent, if_neg fun heq => hc ⟨heq, ho⟩]
  · exact absurd hc.2 ho
  · rfl

def beganEvents (id : Nat) (first : Option Received) : List ServerEvent :=
  first.toList.map fun next => .began id next.number

theorem Prompt.answer (h : Prompt none s) (first : Option Received) (rest : List Received) (hw : Wired t)
    (hl : Local id s t) (hv : s.live id)
    (ha : (s.session id).activeRequest = some request)
    (ho : ∀ other, other ≠ id → t.responses other = s.responses other)
    (hcr : Carries message request.message)
    (hq : (s.session id).requestQueue = first.toList ++ rest)
    (hg : t.log = s.log ++ (s.answerEvents (s.session id).connection message request.number ++
      (beganEvents id first ++ events))) (hsl : ∀ event ∈ events, event.silent)
    (hgn : t.live id = false → (s.session id).requestQueue = [])
    (ht : t.live id → (t.session id).activeRequest = first ∧ (t.session id).requestQueue = rest ∧
      (t.session id).connection = (s.session id).connection ∧ t.responses id = [] ∧
      ((t.session id).owed → first.isSome) ∧
      (first.isSome → (t.session id).owed ∨ (t.session id).terminating) ∧
      (rest ≠ [] → first.isSome ∨ (t.session id).terminating)) : Prompt none t := by
  have hat := h.attended id hv
  have hk := hat.known request (by rw [ServerSession.requests, ha]; exact mem_cons_self)
  have hb : ∀ asked, (beganEvents id first).countP (ServerEvent.answers asked) = 0 := by
    intro asked
    cases first <;> rfl
  have hc : ∀ asked, t.answers asked =
      s.answers asked + if request.number = asked ∧ (s.connection (s.session id).connection).sock then 1 else 0 := by
    intro asked
    rw [answers_append hg, countP_append, countP_append, hb, countP_answers_silent hsl,
      countP_answerEvents]
    rfl
  have hd : t.desk id = (s.session id).requestQueue.map Received.number := by
    cases hv' : t.live id with
    | true =>
      obtain ⟨hf, hr, -⟩ := ht hv'
      rw [desk_of_live hv', ServerSession.requests, hf, hr, hq]
    | false => rw [desk_of_gone hv', hgn hv', map_nil]
  have hs : (s.begun id ++ ((first.map Received.number).toList ++ rest.map Received.number)).Pairwise (· < ·) := by
    have hs := hat.sorted
    rw [hq, map_append] at hs
    cases first <;> exact hs
  have he : ∀ event ∈ s.answerEvents (s.session id).connection message request.number ++
      (beganEvents id first ++ events), event.within id := by
    refine forall_mem_append.2 ⟨fun event hm => mem_answerEvents hm ▸ rfl, forall_mem_append.2
      ⟨?_, within_silent hsl id⟩⟩
    cases first with
    | none => exact forall_mem_nil _
    | some next => exact forall_mem_singleton.2 (beq_self_eq_true id)
  refine h.change hw hl (fun hbl => ?_) ho hg he (first.map Received.number) ?_
    (fun number hn => ?_) (fun hv' => ?_) fun c sent number hm => ?_
  · refine hbl.take (some id) request.number ((s.session id).requestQueue.map Received.number) ?_ hl.received
      hd (fun place hne => hl.place (fun _ => rfl) hne) (fun number hne => ?_) fun hco => ?_
    · exact (desk_of_live hv).trans (by rw [ServerSession.requests, ha]; rfl)
    · exact (hc number).trans (by rw [if_neg fun heq => hne heq.1.symm]; rfl)
    · obtain ⟨other, request', ht, hn, hp⟩ := hco
      obtain rfl := h.connection_eq hk ((received_within hg he _ _).1 ht) hn
      exact (hc request.number).trans (by rw [if_pos ⟨rfl, hl.sock _ ▸ hp⟩]; rfl)
  · have hno : (s.answerEvents (s.session id).connection message request.number).filterMap
        (begins id) = [] :=
      filterMap_eq_nil_iff.2 fun event hm => mem_answerEvents hm ▸ rfl
    rw [filterMap_append, filterMap_append, hno, begins_silent hsl]
    cases first <;> simp [beganEvents, begins]
  · obtain ⟨next, rfl, rfl⟩ := Option.map_eq_some_iff.1 hn
    refine ⟨(live_iff.1 hv).1, h.balanced.issued (some id) _ ?_, fun former hfo => ?_⟩
    · show next.number ∈ s.desk id
      rw [desk_of_live hv, ServerSession.requests, hq]
      simp
    · exact (pairwise_append.1 hs).2.2 former hfo _ (mem_append_left _ (mem_singleton_self _))
  · obtain ⟨hf, hr, hcn, hre, how, haw, htr⟩ := ht hv'
    rw [hre]
    refine ⟨?_, fun hne => ?_, fun heq => ?_, forall_mem_nil _, Nat.zero_le _, fun hsm => ?_,
      fun waiting hm => ?_⟩
    · rw [hr, append_assoc]
      exact hs
    · rw [hf]
      exact htr (hr ▸ hne)
    · rw [hf]
      exact how heq
    · exact (haw (hf ▸ hsm)).imp_right fun htr => Or.inr (Or.inl htr)
    · rw [ServerSession.requests, hf, hr, ← hq] at hm
      rw [hcn, hg]
      exact mem_append_left _ (hat.known waiting (mem_append_right _ hm))
  · rcases mem_append.1 hm with hm | hm
    · obtain ⟨rfl, rfl, han⟩ := ServerEvent.sent.inj (mem_answerEvents hm)
      obtain rfl := some.inj han
      exact ⟨request, hk, rfl, hcr⟩
    · rcases mem_append.1 hm with hm | hm
      · cases first <;> simp [beganEvents] at hm
      · cases hsl _ hm

/-! ## Requests that are handled -/

/-- **A session begins with a request** that is accepted: it is owed, or the session is to be terminated. -/
structure Took (id : Nat) (request : Received) (s t : Server) : Prop where
  near : Local id s t
  signals : t.signals = s.signals
  activeRequest : (t.session id).activeRequest = (s.session id).activeRequest
  requestQueue : (t.session id).requestQueue = (s.session id).requestQueue
  connection : (t.session id).connection = (s.session id).connection
  awaited : (t.session id).owed ∨ (t.session id).terminating
  log : ∃ events, t.log = s.log ++ .began id request.number :: events ∧ ∀ event ∈ events, event.silent

theorem terminateRequest_spec (s : Server) (id : Nat) :
    Local id s (s.terminateRequest id) ∧ (s.terminateRequest id).signals = s.signals ∧
      ((s.terminateRequest id).session id) = { s.session id with terminating := true } ∧
      Hushed s (s.terminateRequest id) := by
  unfold Server.terminateRequest
  split_ifs with ht
  · refine ⟨local_refl id s, rfl, ?_, hushed_of_eq rfl⟩
    rw [← ht]
  · refine ⟨(modifySession_local s id _).trans (see_local id _ _), rfl, ?_, hushed_see rfl rfl⟩
    rw [see_session, modifySession_self]

theorem messageHandle_took (hn : request.named) (s : Server) (id : Nat) :
    Took id request s (s.messageHandle A id request true).1 := by
  have ho : ∀ t : Server, Local id s t → t.signals = s.signals →
      (t.session id).activeRequest = (s.session id).activeRequest →
      (t.session id).requestQueue = (s.session id).requestQueue →
      (t.session id).connection = (s.session id).connection → t.log = s.log ++ [.began id request.number] →
      Took id request s (t.handleMessage A id request true).1 := by
    intro t hl h ha hq hcn hg
    have ht : (t.handleMessage A id request true).1 = t.modifySession id ({ · with owed := true }) := rfl
    rw [ht]
    refine ⟨hl.trans (modifySession_local t id _), h, ?_, ?_, ?_, Or.inl ?_, [], hg,
      forall_mem_nil _⟩
    · rw [modifySession_self]
      exact ha
    · rw [modifySession_self]
      exact hq
    · rw [modifySession_self]
      exact hcn
    · rw [modifySession_self]
  have hb : Local id s (s.see (.began id request.number)) := see_local id s _
  unfold Server.messageHandle
  split_ifs with hr
  · cases hna : request.resourceName with
    | none => simp [Received.named, hr, hna] at hn
    | some name =>
      have hs := (s.see (.began id request.number)).modifySession_self id fun session =>
        { session with resourceTable := session.resourceTable.erase name }
      have hc : Local id s ((s.see (.began id request.number)).resourceRemove id name) :=
        hb.trans (modifySession_local _ id _)
      have hg : ((s.see (.began id request.number)).resourceRemove id name).log =
          s.log ++ [.began id request.number] := rfl
      have h : ((s.see (.began id request.number)).resourceRemove id name).signals = s.signals := rfl
      have hs : ((s.see (.began id request.number)).resourceRemove id name).session id =
        { s.session id with resourceTable := (s.session id).resourceTable.erase name } := hs
      dsimp only
      generalize (s.see (.began id request.number)).resourceRemove id name = t at hs hc hg h
      split_ifs
      · obtain ⟨hnr, hm, hss, events, he, hsi⟩ := terminateRequest_spec t id
        refine ⟨hc.trans hnr, hm.trans h, ?_, ?_, ?_, Or.inr ?_, events, ?_, hsi⟩
        · rw [hss, hs]
        · rw [hss, hs]
        · rw [hss, hs]
        · rw [hss]
        · rw [he, hg, append_assoc]
          rfl
      · exact ho t hc h (by rw [hs]) (by rw [hs]) (by rw [hs]) hg
  · exact ho _ hb rfl rfl rfl rfl rfl

theorem activate_spec (s : Server) (id : Nat) (request : Received) :
    Local id s (s.activate id request) ∧
      (s.activate id request).session id = { s.session id with activeRequest := some request } :=
  ⟨modifySession_local s id _, s.modifySession_self id _⟩

variable {session : ServerSession}

variable {log : List ServerEvent}

theorem Attended.responses_nil (h : Attended session responses begun log) (hi : session.activeRequest = none) :
    responses = [] := by
  cases responses with
  | nil => rfl
  | cons message rest =>
    obtain ⟨-, request, ha, -⟩ := h.answering message mem_cons_self
    rw [hi] at ha
    cases ha

theorem Prompt.handle (h : Prompt (some request.number) s) (hl : s.live id)
    (hi : (s.session id).activeRequest = none) (hq : (s.session id).requestQueue = [])
    (hr : ServerEvent.received (s.session id).connection request ∈ s.log) (hn : request.named) :
    Prompt none ((s.activate id request).messageHandle A id request true).1 := by
  obtain ⟨ha, hs⟩ := activate_spec s id request
  have ht := messageHandle_took (A := A) hn (s.activate id request) id
  have hid := live_iff.1 hl
  have hst : Steady (request.named) s ((s.activate id request).messageHandle A id request true).1 :=
    (activate_steady hid.1 request).trans (messageHandle_steady (s := s.activate id request) hid.1 request true)
  generalize ((s.activate id request).messageHandle A id request true).1 = t at ht hst
  obtain ⟨events, hg, hsi⟩ := ht.log
  refine h.begin (h.wired.steady hst) (ha.trans ht.near) hl ?_
    ((h.attended id hl).responses_nil hi) hr ?_ ?_ ?_ ?_ ht.awaited ht.signals hg hsi
  · rw [ServerSession.requests, hi, hq]
    rfl
  · rw [hst.live_eq]
    exact hl
  · rw [ht.activeRequest, hs]
  · rw [ht.requestQueue, hs]
    exact hq
  · rw [ht.connection, hs]

theorem Prompt.created (h : Prompt hand s) (hc : c < s.connectionCount) (sessionId : Bytes) :
    Prompt hand (s.created c sessionId) := by
  have hd : ∀ id, (s.created c sessionId).desk id = s.desk id := by
    intro id
    unfold Server.desk
    rcases eq_or_ne id s.sessionCount with rfl | hne
    · have hn : s.live s.sessionCount = false := by simp [Server.live]
      rw [created_session, hn, if_neg Bool.false_ne_true]
      split_ifs <;> rfl
    · have hl : (s.created c sessionId).live id = s.live id := by
        have ht : (s.created c sessionId).sessionCount = s.sessionCount + 1 := rfl
        have hlt : id < s.sessionCount + 1 ↔ id < s.sessionCount := by omega
        unfold Server.live
        rw [created_session_ne sessionId hne, ht, decide_eq_decide.2 hlt]
      rw [hl, created_session_ne sessionId hne]
  have hcn : ∀ number, (s.created c sessionId).counts number → s.counts number := by
    rintro number ⟨other, request, hh, hm, ho⟩
    refine ⟨other, request, hh, hm, ?_⟩
    rcases eq_or_ne other c with rfl | hne
    · unfold Server.created Server.setupProcess at ho
      rwa [modifyConnection_self] at ho
    · rwa [created_connection_ne sessionId hne] at ho
  refine ⟨h.wired.created hc sessionId, ?_, fun id hl => ?_, h.begun, h.bound, fun id hle => ?_, h.opened,
    h.numbered, h.inHand, h.sent⟩
  · refine (h.balanced.mono fun number _ => hcn number).congr rfl (fun place => ?_) fun _ => rfl
    cases place with
    | none => rfl
    | some id => exact hd id
  · rcases eq_or_ne id s.sessionCount with rfl | hne
    · have hb : (s.created c sessionId).begun s.sessionCount = [] := h.unbegun _ (Nat.le_refl _)
      have hr : (s.created c sessionId).responses s.sessionCount = [] := by
        refine filterMap_eq_nil_iff.2 fun signal hmm => ?_
        have hlt := h.wired.lt_of_mem hmm
        cases signal with
        | send session message =>
          exact if_neg fun heq => absurd heq.1 (Nat.ne_of_lt hlt)
        | _ => rfl
      rw [created_session, hb, hr]
      refine ⟨List.Pairwise.nil, fun hne => absurd rfl hne, fun heq => absurd heq Bool.false_ne_true,
        forall_mem_nil _, Nat.zero_le _, fun heq => absurd heq Bool.false_ne_true,
        forall_mem_nil _⟩
    · rw [created_session_ne sessionId hne]
      refine h.attended id (live_iff.2 ?_)
      rw [live_iff, created_session_ne sessionId hne] at hl
      exact ⟨by have hlt : id < s.sessionCount + 1 := hl.1; omega, hl.2⟩
  · exact h.unbegun id (by have hle : s.sessionCount + 1 ≤ id := hle; omega)

/-- **A request arrives** over an open connection. -/
theorem Prompt.arrive (h : Prompt none s) (hc : c < s.connectionCount) (message : RtspMessage) :
    Prompt (some s.received) (s.arrive c message) := by
  have hl : (s.arrive c message).log = s.log ++ [.received c ⟨s.received, message⟩] := rfl
  have hb : ∀ id, (s.arrive c message).begun id = s.begun id := fun id => by
    rw [begun_append hl]
    exact append_nil _
  have hcn : ∀ number, number < s.received → (s.arrive c message).counts number → s.counts number := by
    rintro number hlt ⟨other, request, ht, hn, ho⟩
    rw [hl, mem_append] at ht
    refine ⟨other, request, ht.resolve_right fun ht => ?_, hn, ho⟩
    rw [(ServerEvent.received.inj (mem_singleton.1 ht)).2] at hn
    exact absurd hn.symm (Nat.ne_of_lt hlt)
  refine ⟨h.wired.congr rfl rfl rfl rfl rfl, ?_, fun id hv => ?_, fun id => ?_, fun id number hm => ?_,
    fun id hle => ?_, fun other request ht => ?_, ?_, fun number heq => ?_, fun other sent number ht => ?_⟩
  · refine (h.balanced.mono hcn).issue none rfl rfl (fun place hne => ?_) fun number => ?_
    · cases place with
      | none => exact absurd rfl hne
      | some id => rfl
    · exact (answers_append hl number).trans (Nat.add_zero _)
  · rw [hb]
    exact (h.attended id hv).relax (relaxed_refl _) fun event he => mem_append_left _ he
  · rw [hb]
    exact h.begun id
  · exact h.bound id number (hb id ▸ hm)
  · rw [hb]
    exact h.unbegun id hle
  · rw [hl, mem_append] at ht
    rcases ht with ht | ht
    · exact h.opened other request ht
    · rw [(ServerEvent.received.inj (mem_singleton.1 ht)).1]
      exact hc
  · have hrc : (s.arrive c message).received = s.received + 1 := rfl
    rw [hl, filterMap_append, h.numbered, hrc, range_succ]
    rfl
  · obtain rfl := some.inj heq
    rfl
  · rw [hl, mem_append] at ht
    rcases ht with ht | ht
    · obtain ⟨request, hr, hs⟩ := h.sent other sent number ht
      exact ⟨request, mem_append_left _ hr, hs⟩
    · cases mem_singleton.1 ht

/-! ## What is received -/

theorem errorRespond_open (hs : (s.connection c).sock) (request : Received) (status : Status) :
    s.errorRespond A c request status =
      s.see (.sent c (request.responseCreate A status) (some request.number)) := if_pos hs

theorem messageHandle_refused (ht : request.methodId ≠ methodTeardown) (s : Server) (id : Nat)
    (hc : (s.session id).connection = c) (hs : (s.connection c).sock) :
    s.messageHandle A id request false =
      ((s.see (.began id request.number)).see
        (.sent c (request.responseCreate A .internalServerError) (some request.number)), false) := by
  subst hc
  have hn : (s.see (.began id request.number)).errorRespond A (s.session id).connection request
      .internalServerError = (s.see (.began id request.number)).see (.sent (s.session id).connection
        (request.responseCreate A .internalServerError) (some request.number)) :=
    errorRespond_open (s := s.see (.began id request.number)) hs request _
  unfold Server.messageHandle Server.handleMessage
  rw [if_neg ht, if_neg Bool.false_ne_true, ← hn]
  rfl

theorem messageHandle_accepted (ht : request.methodId ≠ methodTeardown) (s : Server) (id : Nat) :
    (s.messageHandle A id request true).2 = true := by
  unfold Server.messageHandle Server.handleMessage
  simp [ht]

/-- **A new request is processed** that is in hand. -/
theorem newRequestProcess_prompt (request : Received) (h : Prompt (some request.number) s)
    (hsc : (s.connection c).sock) (hr : ServerEvent.received c request ∈ s.log)
    (created : Option Bytes) (accepted : Bool) : Prompt none (s.newRequestProcess A c request created accepted) := by
  have hc := h.wired.lt_of_sock hsc
  unfold Server.newRequestProcess
  split_ifs with hm ho
  · cases created with
    | none => exact h.respond hsc hr _
    | some sessionId =>
      rw [setupProcess_some]
      have hcr := h.created hc sessionId
      have hs := created_session s c sessionId
      have hv : (s.created c sessionId).live s.sessionCount := by
        rw [live_iff, hs]
        exact ⟨Nat.lt_succ_self _, rfl⟩
      have hr : ServerEvent.received ((s.created c sessionId).session s.sessionCount).connection request ∈
          (s.created c sessionId).log := by
        rw [hs]
        exact hr
      have ht : request.methodId ≠ methodTeardown := by
        rcases hm with heq | heq <;> rw [heq] <;> decide
      have hp : ((s.created c sessionId).connection c).sock := by
        unfold Server.created Server.setupProcess
        rw [modifyConnection_self]
        exact hsc
      have hw := newRequestProcess_wired (A := A) h.wired hc request (some sessionId) accepted
      unfold Server.newRequestProcess at hw
      rw [if_pos hm, if_pos ho, setupProcess_some] at hw
      cases accepted with
      | true =>
        have hh := hcr.handle (A := A) hv (by rw [hs]) (by rw [hs]) hr
          (by simp [Received.named, ht])
        have htr := messageHandle_accepted (A := A) ht
          ((s.created c sessionId).activate s.sessionCount request) s.sessionCount
        dsimp only
        generalize ((s.created c sessionId).activate s.sessionCount request).messageHandle A s.sessionCount request
          true = r at hh htr
        obtain ⟨t, handled⟩ := r
        obtain rfl : handled = true := htr
        exact hh
      | false =>
        obtain ⟨hac, ha⟩ := activate_spec (s.created c sessionId) s.sessionCount request
        have hf := messageHandle_refused (A := A) (c := c) ht
          ((s.created c sessionId).activate s.sessionCount request) s.sessionCount (by rw [ha, hs]) hp
        dsimp only at hw ⊢
        rw [hf] at hw ⊢
        have hr : ServerEvent.received c request ∈ (s.created c sessionId).log := by
          rw [hs] at hr
          exact hr
        have hl : ((s.created c sessionId).activate s.sessionCount request).log = (s.created c sessionId).log := rfl
        have hg : ((s.created c sessionId).activate s.sessionCount request).signals =
            (s.created c sessionId).signals := rfl
        generalize (s.created c sessionId).activate s.sessionCount request = t at hac ha hw hl hg
        refine hcr.refuse hw ?_ (Nat.lt_succ_self _) ?_ ?_ hg hr
          (carries_responseCreate A request .internalServerError) ?_
        · exact (((hac.trans (see_local _ t _)).trans (see_local _ _ _)).trans
            (modifySession_local _ _ _)).trans (see_local _ _ _)
        · rw [desk_of_live hv, hs]
          rfl
        · simp [Server.live, Server.sessionDestroy]
        · simp [Server.sessionDestroy, hl]
  · exact h.respond hsc hr _
  · exact h.respond hsc hr _
  · exact h.respond hsc hr _

theorem sessionRequestProcess_prompt (request : Received) (h : Prompt (some request.number) s)
    (hs : (s.connection c).sock) (hr : ServerEvent.received c request ∈ s.log)
    (hl : s.live id) (hc : (s.session id).connection = c)
    (hn : (s.session id).terminating ∨ (s.session id).activeRequest.isSome ∨ request.named) :
    Prompt none (s.sessionRequestProcess A c id request true) := by
  have hid := live_iff.1 hl
  have hr' : ServerEvent.received (s.session id).connection request ∈ s.log := hc.symm ▸ hr
  unfold Server.sessionRequestProcess
  split_ifs with hd ht ha
  · exact absurd (hid.2.symm.trans hd) Bool.false_ne_true
  · exact h.respond hs hr _
  · have hst : Steady True s (s.modifySession id fun session =>
        { session with requestQueue := session.requestQueue ++ [request] }) :=
      modifySession_steady hid.1 ⟨rfl, rfl, rfl, rfl⟩ rfl
    exact h.enqueue (h.wired.steady hst) (modifySession_local s id _) hl ha hr'
      (s.modifySession_self id _) rfl rfl
  · have hi : (s.session id).activeRequest = none := by simpa using ha
    have hq : (s.session id).requestQueue = [] := by
      by_contra hne
      rcases (h.attended id hl).queued hne with heq | heq
      · exact ha heq
      · exact ht heq
    refine h.handle hl hi hq hr' ?_
    rcases hn with heq | heq | heq
    · exact absurd heq ht
    · exact absurd heq ha
    · exact heq

/-! ## What is signalled -/

variable {signals : List Signal}

variable {signal : Signal}

theorem responses_taken (hs : s.signals = signal :: signals) (hn : signal.responseFor id = none) :
    (s.taken signals).responses id = s.responses id := by
  unfold Server.responses
  rw [hs, filterMap_cons_none hn]
  rfl

theorem modifySession_send (s : Server) (id : Nat) {f : ServerSession → ServerSession} (message : RtspMessage)
    (number : Nat) (hf : (f (s.session id)).Relaxed (s.session id)) {t u : Server} (ht : s.modifySession id f = t)
    (hu : t.messageSend (t.session id).connection message (some number) = u) :
    Local id s u ∧ u.signals = s.signals ∧ (u.session id).Relaxed (s.session id) ∧
      u.log = s.log ++ s.answerEvents (s.session id).connection message number := by
  subst ht hu
  have hs := s.modifySession_self id f
  have hk : ∀ t c, (Server.messageSend t c message (some number)).signals = t.signals ∧
      (Server.messageSend t c message (some number)).session = t.session := by
    intro t c
    unfold Server.messageSend
    split_ifs <;> exact ⟨rfl, rfl⟩
  refine ⟨(modifySession_local s id f).trans (messageSend_local id _ _ _ _), (hk _ _).1, ?_, ?_⟩
  · rw [(hk _ _).2, hs]
    exact hf
  · rw [messageSend_log, hs, hf.connection]
    rfl

theorem responseSend_spec (s : Server) (id : Nat) (request : Received) (message : RtspMessage) :
    Local id s (s.responseSend id request message) ∧ (s.responseSend id request message).signals = s.signals ∧
      ((s.responseSend id request message).session id).Relaxed (s.session id) ∧
      ∃ sent, (∀ asked, Carries message asked → Carries sent asked) ∧
        (s.responseSend id request message).log =
          s.log ++ s.answerEvents (s.session id).connection sent request.number := by
  have hs : ∃ sent, (if request.methodId = methodDescribe then message else message.setSession (s.session id).id) =
      sent ∧ ∀ asked, Carries message asked → Carries sent asked := by
    split_ifs
    · exact ⟨_, rfl, fun _ h => h⟩
    · exact ⟨_, rfl, fun _ h => h.setSession _⟩
  obtain ⟨sent, heq, hc⟩ := hs
  unfold Server.responseSend
  rw [heq]
  obtain ⟨hl, hsg, hr, hg⟩ := modifySession_send s id sent request.number
    (f := fun session => { session with resourceTable := session.answered request sent, lastCseq := sent.header.cseq })
    ⟨rfl, rfl, rfl, rfl, fun h => h, fun h => h⟩ rfl rfl
  exact ⟨hl, hsg, hr, sent, hc, hg⟩

structure Replied (id : Nat) (request : Received) (s u : Server) : Prop where
  near : Local id s u
  relaxed : (u.session id).Relaxed (s.session id)
  others : ∀ other, other ≠ id → u.responses other = s.responses other
  none : u.responses id = []
  log : ∃ sent, Carries sent request.message ∧
    u.log = s.log ++ s.answerEvents (s.session id).connection sent request.number

theorem Prompt.reply (h : Prompt none s) (first : Option Received) (hv : s.live id)
    (ha : (s.session id).activeRequest = some request) (hr : Replied id request s u) (hw : Wired t)
    (hl : Local id u t) (hsg : t.signals = u.signals) (ht : t.live id)
    (hq : (s.session id).requestQueue = first.toList ++ (t.session id).requestQueue)
    (hg : t.log = u.log ++ (beganEvents id first ++ events)) (hsl : ∀ event ∈ events, event.silent)
    (hf : (t.session id).activeRequest = first)
    (hc : (t.session id).connection = (u.session id).connection)
    (ho : (t.session id).owed → first.isSome)
    (haw : first.isSome → (t.session id).owed ∨ (t.session id).terminating)
    (hre : (t.session id).requestQueue ≠ [] → first.isSome ∨ (t.session id).terminating) :
    Prompt none t := by
  obtain ⟨sent, hcr, hn⟩ := hr.log
  have hs : ∀ other, t.responses other = u.responses other := responses_congr hsg
  refine h.answer first _ hw (hr.near.trans hl) hv ha
    (fun other hne => (hs other).trans (hr.others other hne)) hcr hq ?_ hsl (fun hgn => absurd (hgn.symm.trans ht) Bool.false_ne_true) fun _ =>
      ⟨hf, rfl, hc.trans hr.relaxed.connection, (hs id).trans hr.none, ho, haw, hre⟩
  rw [hg, hn, append_assoc]

theorem responseProcess_prompt (h : Prompt none s) (hg : s.signals = .send id message :: signals)
    (hre : message.startLine.isRequest = false) (hv : s.live id)
    (hm : (s.session id).named message) :
    Prompt none ((s.taken signals).responseProcess A id message true) := by
  have hat := h.attended id hv
  have hf : Signal.responseFor id (.send id message) = some message := if_pos ⟨rfl, hre⟩
  have hrs : s.responses id = message :: (s.taken signals).responses id := by
    unfold Server.responses
    rw [hg, filterMap_cons_some hf]
    rfl
  have hnn : (s.taken signals).responses id = [] := by
    have hsn := hat.single
    rw [hrs, length_cons] at hsn
    exact length_eq_zero_iff.1 (by omega)
  obtain ⟨ho, request, ha, hc⟩ :=
    hat.answering message (hrs ▸ mem_cons_self)
  have hm : nameless request message = false ∧ ((s.session id).ends request message ∨
      (s.session id).requestQueue.head?.all Received.named = true) := by
    simpa [ServerSession.named, ha] using hm
  have hst := responseProcess_steady (A := A) (s := s.taken signals) (live_iff.1 hv).1 message true
  have hw := (h.wired.taken hg fun _ heq => by cases heq).steady hst
  have ht := (hst.live_eq id).trans hv
  have hss : (s.taken signals).session = s.session := rfl
  have hr : Replied id request s ((s.taken signals).responseSend id request message) := by
    obtain ⟨hn, hsm, hrl, sent, hse, hl⟩ := responseSend_spec (s.taken signals) id request message
    refine ⟨⟨hn.session, hn.sessionCount, hn.sock, hn.connectionCount, hn.received⟩, hrl,
      fun other hne => ?_, (responses_congr hsm id).trans hnn, sent, hse _ hc, hl⟩
    exact (responses_congr hsm other).trans (responses_taken hg (if_neg fun heq => hne heq.1.symm))
  unfold Server.responseProcess at hw ht ⊢
  rw [hss, ha] at hw ht ⊢
  dsimp only at hw ht ⊢
  rw [if_neg (by rw [hm.1]; exact Bool.false_ne_true)] at hw ht ⊢
  generalize (s.taken signals).responseSend id request message = u at *
  split_ifs at hw ht ⊢ with he
  · obtain ⟨hnr, hsm, hs, events, hl, hsi⟩ :=
      terminateRequest_spec (u.modifySession id ({ · with activeRequest := none })) id
    rw [modifySession_self] at hs
    refine h.reply none hv ha hr hw ((modifySession_local u id _).trans hnr) hsm ht ?_ hl
      hsi (by rw [hs]) (by rw [hs]) (fun heq => ?_) (by simp) fun _ => Or.inr (by rw [hs])
    · rw [hs]
      exact hr.relaxed.requestQueue.symm
    · rw [hs] at heq
      exact absurd (ho.symm.trans (hr.relaxed.owed.symm.trans heq)) Bool.false_ne_true
  · have hx := hm.2.resolve_left he
    unfold Server.requestPop at hw ht ⊢
    rw [hr.relaxed.requestQueue] at hw ht ⊢
    cases hq : (s.session id).requestQueue with
    | nil =>
      rw [hq] at hw ht
      have hs := u.modifySession_self id ({ · with activeRequest := none })
      have hi : (u.session id).requestQueue = [] := hr.relaxed.requestQueue.trans hq
      refine h.reply none hv ha hr hw (modifySession_local u id _) rfl ht ?_
        (append_nil _).symm (forall_mem_nil _) (by rw [hs]) (by rw [hs]) (fun heq => ?_) (by simp)
        fun hne => absurd ?_ hne
      · rw [hs, hq, hi]
        rfl
      · rw [hs] at heq
        exact absurd (ho.symm.trans (hr.relaxed.owed.symm.trans heq)) Bool.false_ne_true
      · rw [hs]
        exact hi
    | cons next queue =>
      rw [hq] at hw ht hx
      have hs := u.modifySession_self id ({ · with activeRequest := some next, requestQueue := queue })
      have hk := messageHandle_took (A := A) hx
        (u.modifySession id ({ · with activeRequest := some next, requestQueue := queue })) id
      obtain ⟨events, hl, hsi⟩ := hk.log
      refine h.reply (some next) hv ha hr hw ((modifySession_local u id _).trans hk.near)
        hk.signals ht ?_ hl hsi (by rw [hk.activeRequest, hs]) (by rw [hk.connection, hs])
        (fun _ => rfl) (fun _ => hk.awaited) fun _ => Or.inl rfl
      rw [hk.requestQueue, hs]
      exact hq

theorem sessionEnd_spec (s : Server) (id : Nat) :
    Local id s (s.sessionEnd id) ∧ ((s.sessionEnd id).session id).destroyed ∧
      (s.sessionEnd id).signals = s.signals ∧ Hushed s (s.sessionEnd id) := by
  have hs : ∀ c, (((s.sessionRemove id).sessionDestroy id).connection c).sock = (s.connection c).sock := by
    intro c
    show ((s.sessionRemove id).connection c).sock = _
    unfold Server.sessionRemove
    rcases eq_or_ne c (s.session id).connection with rfl | hne
    · rw [modifyConnection_self]
    · rw [s.modifyConnection_ne _ hne]
  have h : ∀ other, other ≠ id → ((s.sessionRemove id).sessionDestroy id).session other = s.session other :=
    fun other hne => (s.sessionRemove id).modifySession_ne ({ · with destroyed := true }) hne
  have hl : (((s.sessionRemove id).sessionDestroy id).session id).destroyed :=
    congrArg ServerSession.destroyed ((s.sessionRemove id).modifySession_self id ({ · with destroyed := true }))
  have hh : Hushed s ((s.sessionRemove id).sessionDestroy id) := hushed_see rfl rfl
  unfold Server.sessionEnd Server.connectionRelease
  split_ifs
  · refine ⟨⟨h, rfl, fun c => ?_, rfl, rfl⟩, hl, rfl, hh.trans (hushed_see rfl rfl)⟩
    rw [← hs c]
    unfold Server.connectionDestroy
    rw [see_connection]
    rcases eq_or_ne c (s.session id).connection with rfl | hne
    · rw [modifyConnection_self]
    · rw [((s.sessionRemove id).sessionDestroy id).modifyConnection_ne _ hne]
  · exact ⟨⟨h, rfl, hs, rfl, rfl⟩, hl, rfl, hh⟩

theorem Prompt.vanish (h : Prompt none s) (hw : Wired t) (hl : Local id s t) (hi : s.desk id = [])
    (hn : t.live id = false) (ho : ∀ other, other ≠ id → t.responses other = s.responses other)
    (hh : Hushed s t) : Prompt none t := by
  obtain ⟨events, hg, hs⟩ := hh
  refine h.change hw hl (fun hb => hb.congr hl.received (fun place => ?_) fun number => ?_) ho hg
    (within_silent hs id) none (begins_silent hs id) nofun
    (fun hv => absurd (hn.symm.trans hv) Bool.false_ne_true) fun _ _ _ hm => nomatch hs _ hm
  · rcases eq_or_ne place (some id) with rfl | hne
    · exact (desk_of_gone hn).trans hi.symm
    · exact hl.place (fun _ => rfl) hne
  · exact (answers_append hg number).trans (congrArg (s.answers number + ·) (countP_answers_silent hs number))

theorem doTerminate_prompt (h : Prompt none s) (hg : s.signals = .terminate id :: signals)
    (hq : (s.session id).requestQueue = []) : Prompt none ((s.taken signals).doTerminate A id) := by
  have hl : s.live id := h.wired.live (.terminate id) (hg ▸ mem_cons_self)
  have hw := doTerminate_wired (A := A) h.wired hg
  unfold Server.doTerminate at hw ⊢
  obtain ⟨hn, hd, hs, hh⟩ := sessionEnd_spec ((s.taken signals).terminateRespond A id) id
  have hgn : (((s.taken signals).terminateRespond A id).sessionEnd id).live id = false := by
    simp [Server.live, hd]
  have hr : ∀ other, (s.taken signals).responses other = s.responses other := fun other =>
    responses_taken hg rfl
  have hss : (s.taken signals).session = s.session := rfl
  generalize ((s.taken signals).terminateRespond A id).sessionEnd id = t at *
  unfold Server.terminateRespond at hn hh hs
  rw [hss] at hn hh hs
  cases hc : (s.session id).activeRequest with
  | none =>
    rw [hc] at hn hh hs
    refine h.vanish hw ⟨hn.session, hn.sessionCount, hn.sock, hn.connectionCount, hn.received⟩ ?_ hgn
      (fun other _ => (responses_congr hs other).trans (hr other)) hh
    rw [desk_of_live hl, ServerSession.requests, hc, hq]
    rfl
  | some request =>
    rw [hc] at hn hh hs
    dsimp only at hn hh hs
    have hcr := (carries_responseCreate A request .ok).setSession (s.session id).id
    generalize (request.responseCreate A .ok).setSession (s.session id).id = message at hn hh hs hcr
    have hsn := messageSend_log (s.taken signals) (s.session id).connection message request.number
    have hk : ((s.taken signals).messageSend (s.session id).connection message (some request.number)).signals =
        (s.taken signals).signals := by
      unfold Server.messageSend
      split_ifs <;> rfl
    have ha := (messageSend_local id (s.taken signals) (s.session id).connection message (some request.number)).trans
      hn
    obtain ⟨events, hlg, hsl⟩ := hh
    refine h.answer none [] hw ⟨ha.session, ha.sessionCount, ha.sock, ha.connectionCount, ha.received⟩ hl
      hc (fun other _ => (responses_congr (hs.trans hk) other).trans (hr other)) hcr hq ?_
      hsl (fun _ => hq) fun ht => absurd (hgn.symm.trans ht) Bool.false_ne_true
    rw [hlg, hsn, append_assoc]
    rfl

/-! ## Steps -/

/-- **The contract of the application**: it responds once to a request that it accepted, with the CSeq of the
request. -/
def Server.answersOnce (s : Server) : ServerInput → Bool
  | .signal (.send id message) => message.startLine.isRequest ||
    ((s.session id).owed && (s.session id).activeRequest.all fun request => decide (Carries message request.message))
  | _ => true

/-- **The condition on a step.** What is searched for has a name, and what was destroyed is not used; a request of a
session is accepted; and a session is terminated when no request waits. -/
def Server.prompt (s : Server) (input : ServerInput) : Bool :=
  s.names input &&
    match input with
    | .receive c message _ accepted => (s.sessionOf c message).all fun id => !(s.session id).destroyed && accepted
    | .process accepted =>
      accepted &&
        match s.signals with
        | .terminate id :: _ => (s.session id).requestQueue.isEmpty
        | _ => true
    | .disconnect _ order | .inactivity _ order => order.all fun id => !(s.session id).destroyed
    | _ => true

theorem Prompt.still (h : Prompt hand s) (hw : Wired t) (hs : t.session = s.session)
    (hc : t.sessionCount = s.sessionCount) (hr : ∀ id, t.responses id = s.responses id)
    (hrc : t.received = s.received) (hn : s.connectionCount ≤ t.connectionCount)
    (hsc : ∀ c, c < s.connectionCount → (t.connection c).sock → (s.connection c).sock)
    (hh : Hushed s t) : Prompt hand t := by
  refine h.relax hw (fun id => ?_) hc (fun id _ => ?_) hr hrc hn hsc hh
  · unfold Server.live
    rw [hs, hc]
  · rw [hs]
    exact relaxed_refl _

theorem Prompt.modifyConnection (h : Prompt hand s) {f : ServerConnection → ServerConnection}
    (hw : Wired (s.modifyConnection c f))
    (hf : (f (s.connection c)).sock → (s.connection c).sock) : Prompt hand (s.modifyConnection c f) := by
  refine h.still hw rfl rfl (fun _ => rfl) rfl (Nat.le_refl _) (fun other _ ho => ?_) (hushed_of_eq rfl)
  rcases eq_or_ne other c with rfl | hne
  · rw [modifyConnection_self] at ho
    exact hf ho
  · rwa [s.modifyConnection_ne f hne] at ho

variable {accepted : Bool}

theorem messageHandler_prompt (h : Prompt none s) {created : Option Bytes}
    (he : s.enabled (.receive c message created accepted))
    (hp : s.prompt (.receive c message created accepted)) :
    Prompt none (s.messageHandler A c message created accepted) := by
  have hs := (Bool.and_eq_true_iff.1 he).1
  obtain ⟨hn, hh⟩ := Bool.and_eq_true_iff.1 hp
  have hc := h.wired.lt_of_sock hs
  have hsl : (s.timerSet A c).connection c =
      { s.connection c with inactivityTimer := A.inactivityTimeout != 0 } := s.modifyConnection_self c _
  have hm : Prompt none (s.timerSet A c) :=
    h.modifyConnection (h.wired.modifyConnection hc fun _ _ h => h) fun _ => hs
  obtain ⟨hl, hse, hid⟩ := destinationAssign_same (s.timerSet A c) c message
  unfold Server.messageHandler
  dsimp only
  generalize (s.timerSet A c).destinationAssign c message = assigned at hl hse hid
  rw [hl]
  split_ifs with hr
  · have ha := hm.arrive hc assigned
    have hcn : ((s.timerSet A c).arrive c assigned).connection c = (s.timerSet A c).connection c := rfl
    have ho : (((s.timerSet A c).arrive c assigned).connection c).sock := by
      rw [hcn, hsl]
      exact hs
    have ht : ServerEvent.received c ⟨(s.timerSet A c).received, assigned⟩ ∈
        ((s.timerSet A c).arrive c assigned).log := mem_append_right _ (mem_singleton_self _)
    have hch : headerPropertyCheck assigned.header .sessionId = headerPropertyCheck message.header .sessionId := by
      unfold headerPropertyCheck
      rw [hse]
    unfold Server.requestProcess
    rw [hch, hid, hcn, hsl]
    split_ifs with hss
    · have hf : s.sessionOf c message = (s.connection c).sessionTable.lookup message.header.sessionId := by
        unfold Server.sessionOf
        rw [hr, hss]
        rfl
      split
      · exact ha.respond ho ht _
      · next id hk =>
        obtain ⟨hlt, hco, -⟩ := h.wired.listed _ _ _ hk
        obtain ⟨hd, rfl⟩ : (s.session id).destroyed = false ∧ accepted := by
          simpa [hf, hk] using hh
        have hn : (s.session id).terminating ∨ (s.session id).activeRequest.isSome ∨
            Received.named ⟨s.received, message⟩ = true := by
          simpa [Server.names, hf, hk, or_assoc] using hn
        have hna : Received.named ⟨(s.timerSet A c).received, assigned⟩ = Received.named ⟨s.received, message⟩ := by
          unfold Received.named Received.methodId Received.resourceName
          rw [hl]
        refine sessionRequestProcess_prompt ⟨(s.timerSet A c).received, assigned⟩ ha ho ht ?_ hco ?_
        · exact live_iff.2 ⟨hlt, hd⟩
        · rw [hna]
          exact hn
    · exact newRequestProcess_prompt ⟨(s.timerSet A c).received, assigned⟩ ha ho ht created accepted
  · exact hm

structure Calm (s t : Server) : Prop where
  session : ∀ id, (t.session id).Relaxed (s.session id)
  received : t.received = s.received
  sock : ∀ c, (t.connection c).sock → (s.connection c).sock
  log : Hushed s t

theorem calm_refl (s : Server) : Calm s s :=
  ⟨fun _ => relaxed_refl _, rfl, fun _ h => h, hushed_of_eq rfl⟩

theorem Calm.trans (h : Calm s t) (h' : Calm t u) : Calm s u :=
  ⟨fun id => (h'.session id).trans (h.session id), h'.received.trans h.received,
    fun c ho => h.sock c (h'.sock c ho), h.log.trans h'.log⟩

theorem see_calm (hs : event.silent) : Calm s (s.see event) :=
  ⟨fun _ => relaxed_refl _, rfl, fun _ h => h, hushed_see rfl hs⟩

theorem terminateRequest_calm (s : Server) (id : Nat) : Calm s (s.terminateRequest id) := by
  obtain ⟨hn, -, hs, hl⟩ := terminateRequest_spec s id
  refine ⟨fun other => ?_, hn.received, fun c ho => hn.sock c ▸ ho, hl⟩
  rcases eq_or_ne other id with rfl | hne
  · rw [hs]
    exact ⟨rfl, rfl, rfl, rfl, fun _ => rfl, fun h => h⟩
  · rw [hn.session other hne]
    exact relaxed_refl _

theorem Prompt.calm {p : Prop} (h : Prompt hand s) (hs : Steady p s t) (hc : Calm s t) : Prompt hand t := by
  exact h.relax (h.wired.steady hs) hs.live_eq hs.sessionCount (fun id _ => hc.session id)
    (responses_congr hs.signals) hc.received hs.connectionCount.ge (fun c _ => hc.sock c) hc.log

theorem foldl_sessionClose_calm (order : List Nat) (s : Server) : Calm s (order.foldl Server.sessionClose s) := by
  induction order generalizing s with
  | nil => exact calm_refl s
  | cons id order ih =>
    have hf : Calm s (s.sessionClose id) := by
      unfold Server.sessionClose
      split_ifs
      · exact see_calm rfl
      · exact terminateRequest_calm s id
    exact hf.trans (ih _)

theorem eventProcess_calm (s : Server) (id : Nat) (message : RtspMessage) : Calm s (s.eventProcess id message) := by
  unfold Server.eventProcess
  split
  · exact calm_refl s
  · unfold Server.messageSend
    split_ifs
    · exact see_calm rfl
    · exact calm_refl s

theorem connectionClose_prompt (h : Prompt none s) {order : List Nat} (ho : order.Perm (s.sessionsOf c)) :
    Prompt none (s.connectionClose c order) := by
  cases hs : (s.connection c).sock with
  | false =>
    unfold Server.connectionClose
    rw [hs]
    exact h
  | true =>
    have hc := h.wired.lt_of_sock hs
    have hl : Prompt none (s.closed c) :=
      h.modifyConnection (h.wired.modifyConnection hc fun _ _ h => h) fun _ => hs
    rw [connectionClose_cases hs]
    split_ifs
    · refine hl.calm (foldl_sessionClose_steady fun id hm => ?_) (foldl_sessionClose_calm order _)
      exact (h.wired.mem_sessionsOf (ho.mem_iff.1 hm)).1
    · have hw : Wired ((s.closed c).modifyConnection c ({ · with destroyed := true })) :=
        hl.wired.modifyConnection hc fun _ _ h => h
      exact (hl.modifyConnection hw fun hp => hp).still (hw.see _) rfl rfl (fun _ => rfl) rfl
        (Nat.le_refl _) (fun _ _ h => h) (hushed_see rfl rfl)

theorem connectionAccept_prompt (h : Prompt none s) (clientIp : Bytes) :
    Prompt none (s.connectionAccept A clientIp) := by
  refine h.still (connectionAccept_wired h.wired clientIp) rfl rfl (fun _ => rfl) rfl (Nat.le_succ _)
    (fun other hlt ho => ?_) (hushed_of_eq rfl)
  rwa [accepted_connection_ne clientIp (Nat.ne_of_lt hlt)] at ho

theorem responses_signalled (s : Server) (signal : Signal) (id : Nat) :
    (s.controlMessageSignal signal).responses id = s.responses id ++ (signal.responseFor id).toList := by
  have hs : (s.controlMessageSignal signal).signals = s.signals ++ [signal] := rfl
  unfold Server.responses
  rw [hs, filterMap_append]
  cases hf : signal.responseFor id with
  | none => simp [hf]
  | some message => simp [hf]

/-- **The application signals.** -/
theorem controlMessageSignal_prompt (h : Prompt none s) (hv : s.live signal.session)
    (hp : (s.session signal.session).closing = false) (hon : s.answersOnce (.signal signal)) :
    Prompt none (s.controlMessageSignal signal) := by
  have hw := controlMessageSignal_wired h.wired hv hp
  have hv' : ∀ id, (s.controlMessageSignal signal).live id = s.live id := by
    intro id
    unfold Server.live
    rcases eq_or_ne id signal.session with rfl | hne
    · have hs : (s.controlMessageSignal signal).session signal.session =
          (s.session signal.session).signalled signal := update_self ..
      rw [hs, ((s.session signal.session).signalled_same signal).2.2.1]
      rfl
    · have ho : (s.controlMessageSignal signal).session id = s.session id := update_of_ne hne ..
      rw [ho]
      rfl
  have hrl : (∀ id, (signal.responseFor id) = none) →
      ((s.session signal.session).signalled signal).Relaxed (s.session signal.session) →
      Prompt none (s.controlMessageSignal signal) := by
    intro hn hre
    refine h.relax hw hv' rfl (fun id _ => ?_) (fun id => ?_) rfl (Nat.le_refl _) (fun _ _ h => h)
      (hushed_of_eq rfl)
    · rcases eq_or_ne id signal.session with rfl | hne
      · have hs : (s.controlMessageSignal signal).session signal.session =
            (s.session signal.session).signalled signal := update_self ..
        rw [hs]
        exact hre
      · have ho : (s.controlMessageSignal signal).session id = s.session id := update_of_ne hne ..
        rw [ho]
        exact relaxed_refl _
    · rw [responses_signalled, hn]
      exact append_nil _
  cases signal with
  | terminate id => exact hrl (fun _ => rfl) ⟨rfl, rfl, rfl, rfl, fun h => h, fun _ => rfl⟩
  | release id => exact hrl (fun _ => rfl) (relaxed_refl _)
  | send id message =>
    cases hr : message.startLine.isRequest with
    | true =>
      refine hrl (fun _ => if_neg fun heq => ?_) ?_
      · exact absurd (heq.2.symm.trans hr) Bool.false_ne_true
      · have hsm : (s.session id).signalled (.send id message) = s.session id := if_pos hr
        show ((s.session id).signalled (.send id message)).Relaxed (s.session id)
        rw [hsm]
        exact relaxed_refl _
    | false =>
      have hv : s.live id := hv
      have ha := h.attended id hv
      obtain ⟨how, hc⟩ : (s.session id).owed ∧
          (s.session id).activeRequest.all (fun request => decide (Carries message request.message)) = true := by
        simpa [Server.answersOnce, hr] using hon
      obtain ⟨request, ht⟩ := Option.isSome_iff_exists.1 (ha.owed how)
      have hc : Carries message request.message := by simpa [ht] using hc
      have hs : (s.controlMessageSignal (.send id message)).session id = { s.session id with owed := false } := by
        have hg : (s.session id).signalled (.send id message) = { s.session id with owed := false } :=
          if_neg (by rw [hr]; exact Bool.false_ne_true)
        exact (update_self ..).trans hg
      have ho : ∀ other, other ≠ id →
          (s.controlMessageSignal (.send id message)).session other = s.session other :=
        fun other hne => update_of_ne hne ..
      have hn : s.responses id = [] := by
        cases hrs : s.responses id with
        | nil => rfl
        | cons first rest =>
          have hnt := (ha.answering first (hrs ▸ mem_cons_self)).1
          exact absurd (hnt.symm.trans how) Bool.false_ne_true
      have hrs : (s.controlMessageSignal (.send id message)).responses id = [message] := by
        have hf : Signal.responseFor id (.send id message) = some message := if_pos ⟨rfl, hr⟩
        rw [responses_signalled, hn, hf]
        rfl
      have hl : Local id s (s.controlMessageSignal (.send id message)) := ⟨ho, rfl, fun _ => rfl, rfl, rfl⟩
      refine h.change hw hl (fun hb => hb.congr rfl (fun place => ?_) fun _ => rfl)
        (fun other hne => ?_) (append_nil _).symm (forall_mem_nil _) none rfl nofun (fun _ => ?_)
        fun _ _ _ hm => absurd hm not_mem_nil
      · rcases eq_or_ne place (some id) with rfl | hne
        · show (s.controlMessageSignal (.send id message)).desk id = s.desk id
          unfold Server.desk
          rw [hv', hs]
          rfl
        · exact hl.place (fun _ => rfl) hne
      · have hf : Signal.responseFor other (.send id message) = none := if_neg fun heq => hne heq.1.symm
        rw [responses_signalled, hf]
        exact append_nil _
      · rw [hs, hrs, toList_none, append_nil]
        refine ⟨ha.sorted, ha.queued, fun heq => absurd heq Bool.false_ne_true, fun sent hm => ?_,
          Nat.le_refl _, fun _ => Or.inr (Or.inl (cons_ne_nil _ _)), ha.known⟩
        rw [mem_singleton.1 hm]
        exact ⟨rfl, request, ht, hc⟩

/-- **The next task message is processed.** -/
theorem process_prompt (h : Prompt none s) (hp : s.prompt (.process accepted)) :
    Prompt none (s.process A accepted) := by
  obtain ⟨hnm, hc⟩ := Bool.and_eq_true_iff.1 hp
  obtain ⟨rfl, hq⟩ := Bool.and_eq_true_iff.1 hc
  have hw := process_wired (A := A) h.wired true
  unfold Server.process at hw ⊢
  split
  · exact h
  · next signal signals hs =>
    have hm : signal ∈ s.signals := hs ▸ mem_cons_self
    have hl := h.wired.live signal hm
    obtain ⟨hid, ht⟩ := live_iff.1 hl
    have ht : ((s.taken signals).session signal.session).destroyed ≠ true := by
      show (s.session signal.session).destroyed ≠ true
      simp [ht]
    have hk : (∀ id, signal.responseFor id = none) → (∀ id, signal ≠ .terminate id) →
        Prompt none (s.taken signals) := by
      intro hn hls
      exact h.still (h.wired.taken hs hls) rfl rfl (fun id => responses_taken hs (hn id)) rfl
        (Nat.le_refl _) (fun _ _ h => h) (hushed_of_eq rfl)
    unfold Server.signalProcess
    rw [if_neg ht]
    cases signal with
    | send id message =>
      dsimp only
      split_ifs with hr
      · have hn : ∀ other, Signal.responseFor other (.send id message) = none := fun other =>
          if_neg fun heq => absurd (heq.2.symm.trans hr) Bool.false_ne_true
        exact (hk hn fun _ heq => by cases heq).calm (p := True) (eventProcess_steady message)
          (eventProcess_calm _ id message)
      · refine responseProcess_prompt h hs (by simpa using hr) hl ?_
        simpa [Server.names, hs, hr] using hnm
    | terminate id =>
      refine doTerminate_prompt h hs ?_
      rw [hs] at hq
      exact isEmpty_iff.1 hq
    | release id =>
      exact (hk (fun _ => rfl) fun _ heq => by cases heq).calm (p := True)
        (terminateRequest_steady (s := s.taken signals) hid) (terminateRequest_calm _ id)

theorem step_prompt (h : Prompt none s) {input : ServerInput} (he : s.enabled input)
    (ho : s.answersOnce input) (hp : s.prompt input) : Prompt none (s.step A input).1 := by
  cases input with
  | accept clientIp => exact connectionAccept_prompt h clientIp
  | receive c message created accepted => exact messageHandler_prompt h he hp
  | disconnect c order => exact connectionClose_prompt h (isPerm_iff.1 (Bool.and_eq_true_iff.1 he).2)
  | inactivity c order => exact connectionClose_prompt h (isPerm_iff.1 (Bool.and_eq_true_iff.1 he).2)
  | signal signal =>
    obtain ⟨hl, hop⟩ := Bool.and_eq_true_iff.1 he
    exact controlMessageSignal_prompt h hl (by simpa using hop) ho
  | process accepted => exact process_prompt h hp
  | offline | online =>
    exact h.still (h.wired.congr rfl rfl rfl rfl rfl) rfl rfl (fun _ => rfl) rfl (Nat.le_refl _) (fun _ _ h => h)
      (hushed_of_eq rfl)

/-! ## Runs -/

/-- A request waits with a session that is there, as its active request or in its queue. -/
def Server.waits (s : Server) (number : Nat) : Prop := ∃ id, number ∈ s.desk id

/-- **The requests are answered.** Each one that came over an open connection and does not wait was answered once, with
its CSeq, over its connection; a session begins with its requests in order; and what the active request waits for is to
come. -/
structure Answered (s : Server) : Prop where
  numbered : s.log.filterMap ServerEvent.arrives = List.range s.received
  answered : ∀ c request, ServerEvent.received c request ∈ s.log → (s.connection c).sock →
    ¬ s.waits request.number → s.answers request.number = 1
  waiting : ∀ number, s.waits number → s.answers number = 0
  carried : ∀ c message number, ServerEvent.sent c message (some number) ∈ s.log →
    ∃ request, ServerEvent.received c request ∈ s.log ∧ request.number = number ∧ Carries message request.message
  ordered : ∀ id, (s.begun id).Pairwise (· < ·)
  queued : ∀ id, s.live id → (s.session id).requestQueue ≠ [] →
    (s.session id).activeRequest.isSome = true ∨ (s.session id).terminating
  awaited : ∀ id, s.live id → (s.session id).activeRequest.isSome →
    (s.session id).owed = true ∨ s.responses id ≠ [] ∨ (s.session id).terminating ∨
      .terminate id ∈ s.signals

theorem Prompt.toAnswered (h : Prompt none s) : Answered s where
  numbered := h.numbered
  answered c request ht ho hw := by
    have hm : request.number ∈ List.range s.received :=
      h.numbered ▸ mem_filterMap.2 ⟨_, ht, rfl⟩
    refine h.balanced.answered request.number (mem_range.1 hm) ⟨c, request, ht, rfl, ho⟩
      fun place hd => ?_
    cases place with
    | none => cases hd
    | some id => exact hw ⟨id, hd⟩
  waiting number := by
    rintro ⟨id, hd⟩
    exact h.balanced.waiting (some id) number hd
  carried := h.sent
  ordered := h.begun
  queued id hl := (h.attended id hl).queued
  awaited id hl ha := by
    rw [← h.wired.closing id hl]
    exact (h.attended id hl).awaited ha

theorem prompt_start : Prompt none {} where
  wired := wired_start
  balanced := by
    refine Ledger.balanced_empty rfl (fun place => ?_) fun _ => rfl
    cases place with
    | none => rfl
    | some id => rfl
  attended id hl := absurd (live_iff.1 hl).1 (Nat.not_lt_zero _)
  begun _ := List.Pairwise.nil
  bound _ _ hm := absurd hm not_mem_nil
  unbegun _ _ := rfl
  opened _ _ hm := absurd hm not_mem_nil
  numbered := rfl
  inHand _ heq := (some_ne_none _ heq.symm).elim
  sent _ _ _ hm := absurd hm not_mem_nil

/-- **The responses.** In every run of the server with an application that keeps its contract, whose steps meet the
condition, the requests are answered. -/
theorem server_answered (A : ServerProfile) (inputs : List ServerInput)
    (h : EachStep (Server.step A)
      (fun s input => s.enabled input = true ∧ s.answersOnce input ∧ s.prompt input) {} inputs) :
    Answered (run (Server.step A) {} inputs).1 := by
  refine Prompt.toAnswered ?_
  exact run_invariant (Prompt none) _ (fun s input hs hstep => step_prompt hs hstep.1 hstep.2.1 hstep.2.2) _ _
    prompt_start h

def announceMessage (cseq : UInt64) : RtspMessage :=
  let line := .request (ascii "ANNOUNCE") methodAnnounce (ascii "rtsp://host/synth") (some (ascii "synth")) .v1
  ({ setupMessage with startLine := line }.setCseq cseq).setSession (ascii "a1")

/-- A session is set up while another request waits, which is answered after that. -/
def pipelinedSession : List ServerInput :=
  [.accept (ascii "10.0.0.1"), .receive 0 (setupMessage.setCseq 1) (some (ascii "a1")) true,
    .receive 0 (announceMessage 2) none true, .signal (.send 0 (setupResponse.setCseq 1)), .process true,
    .signal (.send 0 (setupResponse.setCseq 2)), .process true]

theorem answered_pipelinedSession : Answered (run (Server.step {}) {} pipelinedSession).1 :=
  server_answered {} pipelinedSession (by decide)

/-- A request of a session that is set up is refused, another one follows, and the session is terminated. -/
def refusedRequest : List ServerInput :=
  [.accept (ascii "10.0.0.1"), .receive 0 (setupMessage.setCseq 1) (some (ascii "a1")) true,
    .signal (.send 0 (setupResponse.setCseq 1)), .process true, .receive 0 (announceMessage 2) none false,
    .receive 0 (announceMessage 3) none true, .signal (.release 0), .process true, .signal (.terminate 0),
    .process true]

/-- **A request that is refused stays the active one**: the next one is not handled, and at the end of the session the
refused one is answered again, and the next one is not. -/
theorem not_answered_refused :
    EachStep (Server.step {}) (fun s input => s.enabled input = true ∧ s.answersOnce input) {} refusedRequest ∧
      (run (Server.step {}) {} refusedRequest).1.answers 1 = 2 ∧
      (run (Server.step {}) {} refusedRequest).1.answers 2 = 0 ∧
      ¬ Answered (run (Server.step {}) {} refusedRequest).1 := by
  refine ⟨by decide, by decide, by decide, fun h => ?_⟩
  have hgone : ∀ number, ¬ (run (Server.step {}) {} refusedRequest).1.waits number := by
    rintro number ⟨id, hmem⟩
    have hcnt : (run (Server.step {}) {} refusedRequest).1.sessionCount = 1 := rfl
    have hdead : (run (Server.step {}) {} refusedRequest).1.live id = false := by
      cases id with
      | zero => decide
      | succ id => simp [Server.live, hcnt]
    rw [Server.desk, hdead] at hmem
    cases hmem
  have hthere : (run (Server.step {}) {} refusedRequest).1.log.any (fun event =>
      match event with
      | .received c request => c == 0 && request.number == 2
      | _ => false) = true := by decide
  obtain ⟨event, hmem, hev⟩ := any_eq_true.1 hthere
  cases event with
  | received c request =>
    obtain ⟨hc, hnum⟩ : c = 0 ∧ request.number = 2 := by simpa using hev
    have honce := h.answered c request hmem (by rw [hc]; decide) (hgone _)
    rw [hnum] at honce
    exact absurd honce (by decide)
  | _ => cases hev

end UniMrcp.UniRtsp
