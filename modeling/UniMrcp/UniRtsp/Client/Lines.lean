import UniMrcp.UniRtsp.Client

/-!
# The lines of the client

A session, its connection and what was seen of both are a line.
-/

namespace UniMrcp.UniRtsp

open Apt Lib List Option

variable {A : ClientProfile} {s t u : Client} {id c : Nat} {hand : List ClientRequest} {left : List Bytes}
  {signalled : List Nat}

structure ClientLine where
  session : ClientSession := {}
  connection : ClientConnection := {}
  seen : List ClientEvent := []

variable {l : ClientLine}

def Client.seen (s : Client) (id : Nat) : List ClientEvent := s.log.filter (·.about == id)

def Client.line (s : Client) (id : Nat) : ClientLine := ⟨s.session id, s.connection id, s.seen id⟩

def ClientLine.see (l : ClientLine) (event : ClientEvent) : ClientLine := { l with seen := l.seen ++ [event] }

def ClientLine.modifySession (l : ClientLine) (f : ClientSession → ClientSession) : ClientLine :=
  { l with session := f l.session }

def ClientLine.modifyConnection (l : ClientLine) (f : ClientConnection → ClientConnection) : ClientLine :=
  { l with connection := f l.connection }

@[simp] theorem Client.line_session (s : Client) (id : Nat) : (s.line id).session = s.session id := rfl

@[simp] theorem Client.line_connection (s : Client) (id : Nat) : (s.line id).connection = s.connection id := rfl

@[simp] theorem Client.line_seen (s : Client) (id : Nat) : (s.line id).seen = s.seen id := rfl

variable {event : ClientEvent}

theorem Client.line_see (s : Client) (h : event.about = id) : (s.see event).line id = (s.line id).see event := by
  simp [Client.line, Client.see, Client.seen, ClientLine.see, filter_append, h]

theorem Client.line_see_ne (s : Client) (h : event.about ≠ id) : (s.see event).line id = s.line id := by
  simp [Client.line, Client.see, Client.seen, filter_append, h]

theorem Client.line_modifySession (s : Client) (id : Nat) (f : ClientSession → ClientSession) :
    (s.modifySession id f).line id = (s.line id).modifySession f := by
  simp [Client.line, Client.modifySession, Client.seen, ClientLine.modifySession]

theorem Client.line_modifyConnection (s : Client) (id : Nat) (f : ClientConnection → ClientConnection) :
    (s.modifyConnection id f).line id = (s.line id).modifyConnection f := by
  simp [Client.line, Client.modifyConnection, Client.seen, ClientLine.modifyConnection]

/-! ## What a line tells -/

def ClientEvent.hands : ClientEvent → Option Nat
  | .handed _ number => some number
  | _ => none

def ClientEvent.answers : ClientEvent → Option Nat
  | .responded _ request _ => request.number
  | _ => none

def ClientEvent.pushes : ClientEvent → Option Nat
  | .pushed _ request => request.number
  | _ => none

/-- The request that is not answered yet after an event: it was sent, and has not timed out, and the connection is not
lost. -/
def ClientEvent.outstanding (waiting : Option ClientRequest) : ClientEvent → Option ClientRequest
  | .pushed _ request => some request
  | .arrived _ cseq => waiting.filter (·.message.header.cseq != cseq)
  | .timedOut _ => none
  | .lost _ => none
  | _ => waiting

def ClientLine.handed (l : ClientLine) : List Nat := l.seen.filterMap ClientEvent.hands

def ClientLine.answered (l : ClientLine) : List Nat := l.seen.filterMap ClientEvent.answers

def ClientLine.pushed (l : ClientLine) : List Nat := l.seen.filterMap ClientEvent.pushes

def ClientLine.outstanding (l : ClientLine) : Option ClientRequest := l.seen.foldl ClientEvent.outstanding none

def ClientLine.requests (l : ClientLine) (hand : List ClientRequest) : List ClientRequest :=
  l.session.activeRequest.toList ++ hand ++ l.session.pendingRequestQueue

def numbers (requests : List ClientRequest) : List Nat := requests.filterMap ClientRequest.number

@[simp] theorem ClientLine.handed_see (l : ClientLine) (event : ClientEvent) :
    (l.see event).handed = l.handed ++ event.hands.toList := by
  unfold ClientLine.handed ClientLine.see
  rw [filterMap_append]
  cases h : event.hands <;> simp [h]

@[simp] theorem ClientLine.answered_see (l : ClientLine) (event : ClientEvent) :
    (l.see event).answered = l.answered ++ event.answers.toList := by
  unfold ClientLine.answered ClientLine.see
  rw [filterMap_append]
  cases h : event.answers <;> simp [h]

@[simp] theorem ClientLine.pushed_see (l : ClientLine) (event : ClientEvent) :
    (l.see event).pushed = l.pushed ++ event.pushes.toList := by
  unfold ClientLine.pushed ClientLine.see
  rw [filterMap_append]
  cases h : event.pushes <;> simp [h]

@[simp] theorem ClientLine.outstanding_see (l : ClientLine) (event : ClientEvent) :
    (l.see event).outstanding = event.outstanding l.outstanding := by
  simp [ClientLine.outstanding, ClientLine.see, foldl_append]

theorem numbers_append (requests requests' : List ClientRequest) :
    numbers (requests ++ requests') = numbers requests ++ numbers requests' := filterMap_append

/-- **No other line is changed**, nor the signals, and no request is handed to the client. -/
structure Acts (id : Nat) (s t : Client) : Prop where
  line : ∀ other, other ≠ id → t.line other = s.line other
  signals : t.signals = s.signals
  sessionCount : t.sessionCount = s.sessionCount
  handed : t.handed = s.handed
  hands : (t.line id).handed = (s.line id).handed

theorem acts_refl (id : Nat) (s : Client) : Acts id s s := ⟨fun _ _ => rfl, rfl, rfl, rfl, rfl⟩

theorem Acts.trans (h : Acts id s t) (h' : Acts id t u) : Acts id s u :=
  ⟨fun other hne => (h'.line other hne).trans (h.line other hne), h'.signals.trans h.signals,
    h'.sessionCount.trans h.sessionCount, h'.handed.trans h.handed, h'.hands.trans h.hands⟩

theorem acts_see (s : Client) (h : event.about = id) (hh : event.hands = none) : Acts id s (s.see event) := by
  refine ⟨fun _ hne => s.line_see_ne (h.trans_ne hne.symm), rfl, rfl, rfl, ?_⟩
  rw [s.line_see h, ClientLine.handed_see, hh]
  exact append_nil _

theorem acts_modifySession (s : Client) (id : Nat) (f : ClientSession → ClientSession) :
    Acts id s (s.modifySession id f) := by
  refine ⟨fun other hne => ?_, rfl, rfl, rfl, rfl⟩
  simp [Client.line, Client.modifySession, Client.seen, Function.update_of_ne hne]

theorem acts_modifyConnection (s : Client) (id : Nat) (f : ClientConnection → ClientConnection) :
    Acts id s (s.modifyConnection id f) := by
  refine ⟨fun other hne => ?_, rfl, rfl, rfl, rfl⟩
  simp [Client.line, Client.modifyConnection, Client.seen, Function.update_of_ne hne]

/-- **The invariant of a line**, with requests in hand, resources still to be torn down, and requests signalled and not
processed. -/
structure Coherent (id : Nat) (hand : List ClientRequest) (left : List Bytes) (signalled : List Nat) (l : ClientLine) :
    Prop where
  owned : ∀ c, l.session.connection = some c → c = id
  fresh : l.session.connection = none →
    l.connection = {} ∧ l.session.activeRequest = none ∧ l.session.resourceTable.entries = []
  queue : l.connection.inprogressRequestQueue = (l.session.activeRequest.map fun _ => id).toList
  handles : l.session.connection = some id → l.connection.handleTable = if l.session.destroyed then [] else [id]
  destroyed : l.connection.destroyed = (l.session.destroyed && l.session.connection.isSome)
  closed : l.connection.destroyed → l.connection.sock = false
  table : l.connection.sessionTable.entries = [] ∨
    l.connection.sessionTable.entries = [⟨l.session.id, id⟩] ∧ l.session.resourceTable.entries ≠ []
  timer : l.session.requestTimer → l.session.activeRequest.isSome
  gone : l.session.destroyed → l.session.resourceTable.entries = [] ∧ l.session.closing
  destructions : l.seen.count (.connectionDestroyed id) = l.connection.destroyed.toNat
  responses : l.seen.count (.terminateResponse id) = l.session.destroyed.toNat
  fault : .fault id ∉ l.seen
  terminated : .terminated id ∈ l.seen ↔ l.session.closing
  outstanding : l.outstanding = l.session.activeRequest
  named : ∀ name request, l.session.resourceTable.lookup name = some request →
    request.message.startLine.resourceName = some name
  proper : ∀ request ∈ l.requests hand, request.message.proper
  cseq : ∀ request, l.session.activeRequest = some request →
    headerPropertyCheck request.message.header .cseq
  handed : l.session.closing = false → l.handed = l.answered ++ numbers (l.requests hand) ++ signalled
  sent : l.session.closing = false → l.pushed.Sublist (l.answered ++ numbers (l.session.activeRequest.toList ++ hand))
  carried : ∀ session request response, .responded session request response ∈ l.seen →
    headerPropertyCheck request.message.header .cseq → response.header.cseq = request.message.header.cseq
  staying : l.session.closing = false → l.session.termState = .none
  teardown : l.session.termState = .inProgress → ∀ request ∈ l.requests hand, request.methodId = methodTeardown
  covered : l.session.termState = .inProgress → ∀ name ∈ l.session.resourceTable.keys,
    name ∈ left ∨ ∃ request ∈ l.requests hand, request.resourceName = name
  torn : l.session.termState = .inProgress →
    (left ++ (l.requests hand).map ClientRequest.resourceName).Nodup ∧
      ∀ request ∈ l.requests hand, request.resourceName ∈ l.session.resourceTable.keys

/-! ## What happens to a line -/

def ClientEvent.plain : ClientEvent → Bool
  | .sent .. | .sessionEvent .. | .terminateEvent _ | .arrived .. | .timedOut _ | .lost _ => true
  | _ => false

theorem count_see_ne {event other : ClientEvent} (l : ClientLine) (h : event ≠ other) :
    (l.see event).seen.count other = l.seen.count other := by
  unfold ClientLine.see
  rw [count_append, count_singleton, beq_false_of_ne h]
  rfl

theorem mem_see {event other : ClientEvent} (l : ClientLine) (h : event ≠ other) :
    other ∈ (l.see event).seen ↔ other ∈ l.seen := by
  simp [ClientLine.see, h.symm]

/-- **Something else is seen.** -/
theorem Coherent.see (h : Coherent id hand left signalled l) (hp : event.plain)
    (hc : event.outstanding l.session.activeRequest = l.session.activeRequest) :
    Coherent id hand left signalled (l.see event) := by
  have hne : ∀ other : ClientEvent, other.plain = false → event ≠ other := by
    rintro other ht rfl
    exact Bool.false_ne_true (ht.symm.trans hp)
  have hh : event.hands = none := by cases event <;> first | rfl | cases hp
  have ha : event.answers = none := by cases event <;> first | rfl | cases hp
  have hs : event.pushes = none := by cases event <;> first | rfl | cases hp
  refine { h with
    destructions := ?_, responses := ?_, fault := ?_, terminated := ?_, outstanding := ?_, handed := ?_, sent := ?_,
    carried := ?_ }
  · rw [count_see_ne l (hne _ rfl)]
    exact h.destructions
  · rw [count_see_ne l (hne _ rfl)]
    exact h.responses
  · rw [mem_see l (hne _ rfl)]
    exact h.fault
  · rw [mem_see l (hne _ rfl)]
    exact h.terminated
  · rw [ClientLine.outstanding_see, h.outstanding]
    exact hc
  · intro ho
    rw [ClientLine.handed_see, ClientLine.answered_see, hh, ha, toList_none, append_nil,
      append_nil]
    exact h.handed ho
  · intro ho
    rw [ClientLine.pushed_see, ClientLine.answered_see, hs, ha, toList_none, append_nil,
      append_nil]
    exact h.sent ho
  · intro session request response hm
    rw [mem_see l (hne _ rfl)] at hm
    exact h.carried session request response hm

theorem Coherent.connect (h : Coherent id hand left signalled l) (hn : l.session.connection = none)
    (ht : l.session.destroyed = false) :
    Coherent id hand left signalled ((l.modifyConnection fun _ => { sock := true, handleTable := [id] }).modifySession
      ({ · with connection := some id })) := by
  obtain ⟨-, ha, htb⟩ := h.fresh hn
  refine { h with
    owned := ?_, fresh := ?_, queue := ?_, handles := ?_, destroyed := ?_, closed := ?_, table := Or.inl rfl,
    destructions := ?_ }
  · rintro c heq
    exact (Option.some.inj heq).symm
  · rintro hc
    cases hc
  · show [] = (l.session.activeRequest.map fun _ => id).toList
    rw [ha]
    rfl
  · intro _
    show [id] = if l.session.destroyed then [] else [id]
    rw [ht]
    rfl
  · show false = (l.session.destroyed && true)
    rw [ht]
    rfl
  · rintro hc
    cases hc
  · have hb := h.destroyed
    rw [hn, isSome_none, Bool.and_false] at hb
    show l.seen.count _ = 0
    rw [h.destructions, hb]
    rfl

theorem Coherent.close (h : Coherent id hand left signalled l) (hs : l.session.connection = some id) :
    Coherent id hand left signalled (l.modifyConnection ({ · with sock := false })) :=
  { h with fresh := fun hn => (by cases hs.symm.trans hn), closed := fun _ => rfl }

theorem Coherent.fire (h : Coherent id hand left signalled l) :
    Coherent id hand left signalled (l.modifySession ({ · with requestTimer := false })) :=
  { h with timer := fun hc => (by cases hc) }

theorem Coherent.lastCseq (h : Coherent id hand left signalled l) (hs : l.session.connection = some id)
    (cseq : UInt64) : Coherent id hand left signalled (l.modifyConnection ({ · with lastCseq := cseq })) :=
  { h with fresh := fun hn => by cases hs.symm.trans hn }

structure ClientRequest.Like (request former : ClientRequest) : Prop where
  number : request.number = former.number
  methodId : request.methodId = former.methodId
  resourceName : request.message.startLine.resourceName = former.message.startLine.resourceName
  proper : request.message.proper = former.message.proper

theorem numbers_cons (request : ClientRequest) (requests : List ClientRequest) :
    numbers (request :: requests) = request.number.toList ++ numbers requests := by
  unfold numbers
  rw [filterMap_cons]
  cases request.number <;> rfl

theorem mem_requests {request : ClientRequest} :
    request ∈ l.requests hand ↔
      l.session.activeRequest = some request ∨ request ∈ hand ∨ request ∈ l.session.pendingRequestQueue := by
  simp [ClientLine.requests]

theorem Coherent.like {request former : ClientRequest} (h : Coherent id (former :: hand) left signalled l)
    (hl : request.Like former) : Coherent id (request :: hand) left signalled l := by
  have hnu : numbers (l.requests (request :: hand)) = numbers (l.requests (former :: hand)) := by
    simp only [ClientLine.requests, numbers_append, numbers_cons, hl.number]
  have hm : ∀ other ∈ l.requests (request :: hand), other = request ∨ other ∈ l.requests (former :: hand) := by
    intro other ho
    simp only [mem_requests, mem_cons] at ho ⊢
    tauto
  have hf : former ∈ l.requests (former :: hand) := mem_requests.2 (Or.inr (Or.inl mem_cons_self))
  have hn : request.resourceName = former.resourceName := by
    unfold ClientRequest.resourceName
    rw [hl.resourceName]
  have hna : (l.requests (request :: hand)).map ClientRequest.resourceName =
      (l.requests (former :: hand)).map ClientRequest.resourceName := by
    simp [ClientLine.requests, hn]
  refine { h with proper := ?_, handed := ?_, sent := ?_, teardown := ?_, covered := ?_, torn := ?_ }
  · intro other ho
    rcases hm other ho with rfl | ho
    · rw [hl.proper]
      exact h.proper former hf
    · exact h.proper other ho
  · intro hp
    rw [hnu]
    exact h.handed hp
  · intro hp
    have hb := h.sent hp
    rw [numbers_append, numbers_cons, ← hl.number, ← numbers_cons, ← numbers_append] at hb
    exact hb
  · intro hs other ho
    rcases hm other ho with rfl | ho
    · rw [hl.methodId]
      exact h.teardown hs former hf
    · exact h.teardown hs other ho
  · intro hs name hn
    rcases h.covered hs name hn with hlf | ⟨other, ho, heq⟩
    · exact Or.inl hlf
    · right
      by_cases hsl : other = former
      · subst hsl
        exact ⟨request, mem_requests.2 (Or.inr (Or.inl mem_cons_self)), hn.trans heq⟩
      · refine ⟨other, ?_, heq⟩
        simp only [mem_requests, mem_cons] at ho ⊢
        tauto
  · intro hs
    obtain ⟨hd, hk⟩ := h.torn hs
    refine ⟨hna ▸ hd, fun other ho => ?_⟩
    rcases hm other ho with rfl | ho
    · rw [hn]
      exact hk former hf
    · exact hk other ho

theorem Coherent.push {request : ClientRequest} (h : Coherent id (request :: hand) left signalled l)
    (hn : l.session.activeRequest = none) (hs : l.session.connection = some id)
    (hsn : l.session.closing = false → l.pushed.Sublist l.answered)
    (hc : headerPropertyCheck request.message.header .cseq) (timer : Bool) :
    Coherent id hand left signalled (((l.modifyConnection fun connection =>
        { connection with inprogressRequestQueue := connection.inprogressRequestQueue ++ [id] }).modifySession
      fun session => { session with activeRequest := some request, requestTimer := timer }).see
        (.pushed id request)) := by
  have hr : l.requests (request :: hand) = [request] ++ hand ++ l.session.pendingRequestQueue := by
    simp [ClientLine.requests, hn]
  refine { h with
    fresh := ?_, queue := ?_, timer := fun _ => rfl, destructions := ?_, responses := ?_, fault := ?_,
    terminated := ?_, outstanding := ?_, proper := ?_, cseq := ?_, handed := ?_, sent := ?_, carried := ?_,
    teardown := ?_, covered := ?_, torn := ?_ }
  · intro hcn
    cases hs.symm.trans hcn
  · show l.connection.inprogressRequestQueue ++ [id] = [id]
    rw [h.queue, hn]
    rfl
  · exact (count_see_ne _ (fun heq => by cases heq)).trans h.destructions
  · exact (count_see_ne _ (fun heq => by cases heq)).trans h.responses
  · exact fun hm => h.fault ((mem_see _ (fun heq => by cases heq)).1 hm)
  · exact (mem_see _ (fun heq => by cases heq)).trans h.terminated
  · exact ClientLine.outstanding_see _ _
  · show ∀ other ∈ [request] ++ hand ++ l.session.pendingRequestQueue, _
    rw [← hr]
    exact h.proper
  · rintro other heq
    rw [← Option.some.inj heq]
    exact hc
  · intro ho
    rw [ClientLine.handed_see, ClientLine.answered_see]
    show l.handed ++ [] = l.answered ++ [] ++ numbers ([request] ++ hand ++ l.session.pendingRequestQueue) ++ signalled
    rw [append_nil, append_nil, ← hr]
    exact h.handed ho
  · intro ho
    rw [ClientLine.pushed_see, ClientLine.answered_see]
    show (l.pushed ++ request.number.toList).Sublist (l.answered ++ [] ++ numbers ([request] ++ hand))
    rw [append_nil, singleton_append, numbers_cons]
    exact (hsn ho).append (sublist_append_left _ _)
  · intro session other response hm
    exact h.carried session other response ((mem_see _ (fun heq => by cases heq)).1 hm)
  · show l.session.termState = .inProgress → ∀ other ∈ [request] ++ hand ++ l.session.pendingRequestQueue, _
    rw [← hr]
    exact h.teardown
  · intro ht name hnm
    refine (h.covered ht name hnm).imp_right ?_
    rintro ⟨other, hot, heq⟩
    exact ⟨other, show other ∈ [request] ++ hand ++ l.session.pendingRequestQueue from hr ▸ hot, heq⟩
  · show l.session.termState = .inProgress →
      (left ++ ([request] ++ hand ++ l.session.pendingRequestQueue).map ClientRequest.resourceName).Nodup ∧
        ∀ other ∈ [request] ++ hand ++ l.session.pendingRequestQueue, _
    rw [← hr]
    exact h.torn

theorem Coherent.pop {request : ClientRequest} (h : Coherent id [] left signalled l)
    (hs : l.session.activeRequest = some request)
    (he : (∃ cseq, event = .arrived id cseq ∧ request.message.header.cseq = cseq) ∨ event = .timedOut id) :
    Coherent id [request] left signalled (((l.see event).modifyConnection fun connection =>
        { connection with inprogressRequestQueue := connection.inprogressRequestQueue.erase id }).modifySession
      ({ · with activeRequest := none, requestTimer := false })) := by
  have hr : l.requests [] = [] ++ [request] ++ l.session.pendingRequestQueue := by
    simp [ClientLine.requests, hs]
  have hp := h.sent
  rw [hs] at hp
  have hne : ∀ other : ClientEvent, (∀ cseq, other ≠ .arrived id cseq) → other ≠ .timedOut id → event ≠ other := by
    rintro other h1 h2 rfl
    rcases he with ⟨cseq, heq, -⟩ | heq
    · exact h1 cseq heq
    · exact h2 heq
  have hq : event.hands = none ∧ event.answers = none ∧ event.pushes = none ∧
      event.outstanding (some request) = none := by
    rcases he with ⟨cseq, rfl, rfl⟩ | rfl
    · simp [ClientEvent.hands, ClientEvent.answers, ClientEvent.pushes, ClientEvent.outstanding]
    · simp [ClientEvent.hands, ClientEvent.answers, ClientEvent.pushes, ClientEvent.outstanding]
  obtain ⟨hh, ha, hpu, hot⟩ := hq
  refine { h with
    fresh := ?_, queue := ?_, timer := ?_, destructions := ?_, responses := ?_, fault := ?_, terminated := ?_,
    outstanding := ?_, proper := ?_, cseq := ?_, handed := ?_, sent := ?_,
    carried := ?_, teardown := ?_, covered := ?_, torn := ?_ }
  · intro hn
    exact absurd (h.fresh hn).2.1 (by simp [hs])
  · show l.connection.inprogressRequestQueue.erase id = []
    rw [h.queue, hs]
    simp
  · intro hc
    cases hc
  · exact (count_see_ne _ (hne _ (fun _ heq => by cases heq) (fun heq => by cases heq))).trans h.destructions
  · exact (count_see_ne _ (hne _ (fun _ heq => by cases heq) (fun heq => by cases heq))).trans h.responses
  · exact fun hm => h.fault ((mem_see _ (hne _ (fun _ heq => by cases heq) (fun heq => by cases heq))).1 hm)
  · exact (mem_see _ (hne _ (fun _ heq => by cases heq) (fun heq => by cases heq))).trans h.terminated
  · show (l.see event).outstanding = none
    rw [ClientLine.outstanding_see, h.outstanding, hs]
    exact hot
  · show ∀ other ∈ [] ++ [request] ++ l.session.pendingRequestQueue, _
    rw [← hr]
    exact h.proper
  · intro other heq
    cases heq
  · intro ho
    show (l.see event).handed =
      (l.see event).answered ++ numbers ([] ++ [request] ++ l.session.pendingRequestQueue) ++ signalled
    rw [ClientLine.handed_see, ClientLine.answered_see, hh, ha, toList_none, append_nil,
      append_nil, ← hr]
    exact h.handed ho
  · intro ho
    show (l.see event).pushed.Sublist ((l.see event).answered ++ numbers [request])
    rw [ClientLine.pushed_see, ClientLine.answered_see, ha, hpu, toList_none, append_nil,
      append_nil]
    exact hp ho
  · intro session other response hm
    exact h.carried session other response
      ((mem_see _ (hne _ (fun _ heq => by cases heq) (fun heq => by cases heq))).1 hm)
  · show l.session.termState = .inProgress → ∀ other ∈ [] ++ [request] ++ l.session.pendingRequestQueue, _
    rw [← hr]
    exact h.teardown
  · intro hst name hnm
    refine (h.covered hst name hnm).imp_right ?_
    rintro ⟨other, ht, heq⟩
    exact ⟨other, show other ∈ [] ++ [request] ++ l.session.pendingRequestQueue from hr ▸ ht, heq⟩
  · show l.session.termState = .inProgress →
      (left ++ ([] ++ [request] ++ l.session.pendingRequestQueue).map ClientRequest.resourceName).Nodup ∧
        ∀ other ∈ [] ++ [request] ++ l.session.pendingRequestQueue, _
    rw [← hr]
    exact h.torn

theorem Coherent.respond {request : ClientRequest} {response : RtspMessage}
    (h : Coherent id (request :: hand) left signalled l) (hn : l.session.activeRequest = none) (sessionId : Bytes)
    (resourceTable : AList fun _ : Bytes => ClientRequest) (sessionTable : AList fun _ : Bytes => Nat)
    (hf : l.session.connection = none → sessionTable = l.connection.sessionTable ∧ resourceTable.entries = [])
    (htb : sessionTable.entries = [] ∨ sessionTable.entries = [⟨sessionId, id⟩] ∧ resourceTable.entries ≠ [])
    (hg : l.session.destroyed → resourceTable.entries = [])
    (hnm : ∀ name request, resourceTable.lookup name = some request →
      request.message.startLine.resourceName = some name)
    (hk : l.session.termState = .inProgress → ∀ name, name ∈ resourceTable.keys ↔
      name ≠ request.resourceName ∧ name ∈ l.session.resourceTable.keys)
    (hcr : headerPropertyCheck request.message.header .cseq →
      response.header.cseq = request.message.header.cseq) :
    Coherent id hand left signalled
      (let l' : ClientLine := ⟨{ l.session with id := sessionId, resourceTable := resourceTable },
        { l.connection with sessionTable := sessionTable }, l.seen⟩
      if l.session.termState ≠ .inProgress then l'.see (.responded id request response) else l') := by
  have hm : ∀ other ∈ l.requests hand, other ∈ l.requests (request :: hand) := by
    intro other ho
    simp only [mem_requests, mem_cons] at ho ⊢
    tauto
  have hr : l.requests (request :: hand) = request :: l.requests hand := by
    simp [ClientLine.requests, hn]
  have hp : l.session.closing = false → l.session.termState ≠ .inProgress := by
    intro hp hs
    cases (h.staying hp).symm.trans hs
  have hf' : l.session.connection = none → ({ l.connection with sessionTable := sessionTable } : ClientConnection) =
      {} ∧ l.session.activeRequest = none ∧ resourceTable.entries = [] := by
    intro hc
    obtain ⟨hsm, hrs⟩ := hf hc
    refine ⟨?_, hn, hrs⟩
    rw [hsm]
    exact (h.fresh hc).1
  have hpr : ∀ other ∈ l.requests hand, other.message.proper :=
    fun other ho => h.proper other (hm other ho)
  have hg' : l.session.destroyed → resourceTable.entries = [] ∧ l.session.closing :=
    fun hd => ⟨hg hd, (h.gone hd).2⟩
  split_ifs with hs
  · refine { h with
      fresh := hf', table := htb, gone := hg', named := hnm, proper := hpr,
      destructions := ?_, responses := ?_, fault := ?_, terminated := ?_, outstanding := ?_, handed := ?_, sent := ?_,
      carried := ?_, teardown := fun heq => absurd heq hs, covered := fun heq => absurd heq hs,
      torn := fun heq => absurd heq hs }
    · exact (count_see_ne _ (fun heq => by cases heq)).trans h.destructions
    · exact (count_see_ne _ (fun heq => by cases heq)).trans h.responses
    · exact fun hm => h.fault ((mem_see _ (fun heq => by cases heq)).1 hm)
    · exact (mem_see _ (fun heq => by cases heq)).trans h.terminated
    · exact (ClientLine.outstanding_see _ _).trans h.outstanding
    · intro hp
      rw [ClientLine.handed_see, ClientLine.answered_see]
      show l.handed ++ [] = l.answered ++ request.number.toList ++ numbers (l.requests hand) ++ signalled
      rw [append_nil, append_assoc l.answered, ← numbers_cons, ← hr]
      exact h.handed hp
    · intro hp
      rw [ClientLine.pushed_see, ClientLine.answered_see]
      show (l.pushed ++ []).Sublist
        (l.answered ++ request.number.toList ++ numbers (l.session.activeRequest.toList ++ hand))
      rw [append_nil, append_assoc, hn, toList_none, nil_append, ← numbers_cons]
      have hb := h.sent hp
      rw [hn] at hb
      exact hb
    · intro session other answer ht
      rcases mem_append.1 ht with ht | ht
      · exact h.carried session other answer ht
      · cases mem_singleton.1 ht
        exact hcr
  · rw [not_not] at hs
    obtain ⟨hnd, ht⟩ := h.torn hs
    rw [hr, map_cons] at hnd
    obtain ⟨ho, hre⟩ := nodup_cons.1 (perm_middle.nodup_iff.1 hnd)
    refine { h with
      fresh := hf', table := htb, gone := hg', named := hnm, proper := hpr,
      handed := fun hc => absurd hs (hp hc), sent := fun hc => absurd hs (hp hc),
      teardown := ?_, covered := ?_, torn := ?_ }
    · exact fun _ other ho => h.teardown hs other (hm other ho)
    · intro _ name hna
      obtain ⟨hne, hb⟩ := (hk hs name).1 hna
      refine (h.covered hs name hb).imp_right ?_
      rintro ⟨other, ho, heq⟩
      rw [hr, mem_cons] at ho
      rcases ho with rfl | ho
      · exact absurd heq.symm hne
      · exact ⟨other, ho, heq⟩
    · refine fun _ => ⟨hre, fun request' hq' => (hk hs _).2 ⟨?_, ht request' (hm _ hq')⟩⟩
      intro heq
      exact ho (mem_append_right _ (mem_map.2 ⟨request', hq', heq⟩))

def Tears (l : ClientLine) (request : ClientRequest) (left left' : List Bytes) : Prop :=
  l.session.termState = .inProgress → request.methodId = methodTeardown ∧ left = request.resourceName :: left' ∧
    request.resourceName ∈ l.session.resourceTable.keys

variable {left' : List Bytes}

theorem Coherent.take {request : ClientRequest} (h : Coherent id [] left (request.number.toList ++ signalled) l)
    (hn : l.session.activeRequest = none) (hpn : l.session.pendingRequestQueue = [])
    (hpr : request.message.proper) (ht : Tears l request left left') :
    Coherent id [request] left' signalled l := by
  have hb : l.requests [] = [] := by simp [ClientLine.requests, hn, hpn]
  have hr : l.requests [request] = [request] := by simp [ClientLine.requests, hn, hpn]
  refine { h with proper := ?_, handed := ?_, sent := ?_, teardown := ?_, covered := ?_, torn := ?_ }
  · rw [hr]
    rintro other ho
    rw [mem_singleton.1 ho]
    exact hpr
  · intro hp
    have hh := h.handed hp
    rw [hb] at hh
    rw [hr, numbers_cons, hh]
    simp [numbers]
  · intro hp
    have hsn := h.sent hp
    rw [hn] at hsn ⊢
    exact hsn.trans (append_sublist_append_left _ |>.2 (nil_sublist _))
  · rw [hr]
    rintro hs other ho
    rw [mem_singleton.1 ho]
    exact (ht hs).1
  · intro hs name hm
    obtain ⟨-, rfl, -⟩ := ht hs
    rcases h.covered hs name hm with hth | ⟨other, ho, -⟩
    · refine (mem_cons.1 hth).symm.imp_right fun heq => ⟨request, ?_, heq.symm⟩
      exact mem_requests.2 (Or.inr (Or.inl (mem_singleton_self _)))
    · rw [hb] at ho
      cases ho
  · intro hs
    obtain ⟨-, rfl, hk⟩ := ht hs
    have hd := (h.torn hs).1
    rw [hb, map_nil, append_nil] at hd
    rw [hr]
    refine ⟨?_, fun other ho => ?_⟩
    · exact (perm_append_singleton _ _).nodup_iff.2 hd
    · rw [mem_singleton.1 ho]
      exact hk

/-- **A request is enqueued** that was signalled. -/
theorem Coherent.enqueue {request : ClientRequest} (h : Coherent id [] left (request.number.toList ++ signalled) l)
    (hp : request.message.proper) (ht : Tears l request left left') :
    Coherent id [] left' signalled (l.modifySession fun session =>
      { session with pendingRequestQueue := session.pendingRequestQueue ++ [request] }) := by
  have hr : (l.modifySession fun session =>
      { session with pendingRequestQueue := session.pendingRequestQueue ++ [request] }).requests [] =
      l.requests [] ++ [request] := by
    simp [ClientLine.requests, ClientLine.modifySession]
  refine { h with proper := ?_, handed := ?_, teardown := ?_, covered := ?_, torn := ?_ }
  · rw [hr]
    intro other ho
    rcases mem_append.1 ho with ho | ho
    · exact h.proper other ho
    · rw [mem_singleton.1 ho]
      exact hp
  · intro hop
    rw [hr, numbers_append, numbers_cons]
    have hh := h.handed hop
    show l.handed = l.answered ++ (numbers (l.requests []) ++ (request.number.toList ++ [])) ++ signalled
    rw [hh]
    simp
  · rw [hr]
    intro hs other ho
    rcases mem_append.1 ho with ho | ho
    · exact h.teardown hs other ho
    · rw [mem_singleton.1 ho]
      exact (ht hs).1
  · rw [hr]
    intro hs name hn
    obtain ⟨-, rfl, -⟩ := ht hs
    rcases h.covered hs name hn with hth | ⟨other, ho, heq⟩
    · refine (mem_cons.1 hth).symm.imp_right fun heq => ⟨request, ?_, heq.symm⟩
      exact mem_append_right _ (mem_singleton_self _)
    · exact Or.inr ⟨other, mem_append_left _ ho, heq⟩
  · rw [hr]
    intro hs
    obtain ⟨-, rfl, hk⟩ := ht hs
    obtain ⟨hd, hks⟩ := h.torn hs
    refine ⟨?_, fun other ho => ?_⟩
    · rw [map_append, ← append_assoc]
      exact (perm_append_singleton _ _).nodup_iff.2 hd
    · rcases mem_append.1 ho with ho | ho
      · exact hks other ho
      · rw [mem_singleton.1 ho]
        exact hk

theorem Coherent.next {request : ClientRequest} {queue : List ClientRequest} (h : Coherent id [] left signalled l)
    (hn : l.session.activeRequest = none) (hp : l.session.pendingRequestQueue = request :: queue) :
    Coherent id [request] left signalled (l.modifySession ({ · with pendingRequestQueue := queue })) := by
  have hr : l.requests [] = [] ++ [request] ++ queue := by
    simp [ClientLine.requests, hn, hp]
  have ha : (l.modifySession ({ · with pendingRequestQueue := queue })).requests [request] = l.requests [] := by
    rw [hr]
    simp [ClientLine.requests, ClientLine.modifySession, hn]
  refine { h with proper := ?_, handed := ?_, sent := ?_, teardown := ?_, covered := ?_, torn := ?_ }
  · rw [ha]
    exact h.proper
  · rw [ha]
    exact h.handed
  · intro ho
    have hs := h.sent ho
    show l.pushed.Sublist (l.answered ++ numbers (l.session.activeRequest.toList ++ [request]))
    rw [hn] at hs ⊢
    exact hs.trans (append_sublist_append_left _ |>.2 (nil_sublist _))
  · rw [ha]
    exact h.teardown
  · rw [ha]
    exact h.covered
  · rw [ha]
    exact h.torn

theorem Coherent.begin (h : Coherent id [] left signalled l) (hn : l.session.activeRequest = none)
    (hp : l.session.pendingRequestQueue = []) (hc : l.session.closing)
    (hl : left'.Perm l.session.resourceTable.keys) :
    Coherent id [] left' signalled (l.modifySession ({ · with termState := .inProgress })) := by
  have hr : l.requests [] = [] := by simp [ClientLine.requests, hn, hp]
  refine { h with staying := ?_, teardown := ?_, covered := ?_, torn := ?_ }
  · intro hop
    cases hc.symm.trans hop
  · intro _ other ho
    exact absurd (show other ∈ l.requests [] from ho) (by simp [hr])
  · exact fun _ name hm => Or.inl (hl.mem_iff.2 hm)
  · show _ → (left' ++ (l.requests []).map ClientRequest.resourceName).Nodup ∧ ∀ other ∈ l.requests [], _
    rw [hr]
    intro _
    rw [map_nil, append_nil]
    exact ⟨hl.nodup_iff.2 (AList.keys_nodup _), fun other ho => absurd ho not_mem_nil⟩

theorem Coherent.drop {name : Bytes} (h : Coherent id hand (name :: left) signalled l)
    (hn : name ∉ l.session.resourceTable.keys) : Coherent id hand left signalled l := by
  refine { h with covered := fun hs other ho => ?_, torn := fun hs => ?_ }
  · refine (h.covered hs other ho).imp_left fun ht => ?_
    rcases mem_cons.1 ht with rfl | ht
    · exact absurd ho hn
    · exact ht
  · exact ⟨(nodup_cons.1 (h.torn hs).1).2, (h.torn hs).2⟩

theorem Coherent.request (h : Coherent id hand left signalled l) (hl : l.session.closing) :
    Coherent id hand left signalled (l.modifySession ({ · with termState := .requested })) := by
  refine { h with staying := ?_, teardown := ?_, covered := ?_, torn := ?_ }
  · intro ho
    cases hl.symm.trans ho
  · intro hc
    cases hc
  · intro hc
    cases hc
  · intro hc
    cases hc

theorem Coherent.finish (h : Coherent id hand left signalled l) (hs : l.session.connection = some id)
    (hl : l.session.closing) (ht : l.session.destroyed = false)
    (htb : l.session.resourceTable.entries = []) :
    Coherent id hand left signalled ((((l.modifyConnection fun connection =>
        { connection with handleTable := connection.handleTable.erase id }).modifySession
          ({ · with termState := .none, destroyed := true })).see (.terminateResponse id)).modifyConnection
            ({ · with sock := false, destroyed := true }) |>.see (.connectionDestroyed id)) := by
  have hco := h.destroyed
  rw [ht, Bool.false_and] at hco
  refine { h with
    fresh := ?_, handles := ?_, destroyed := ?_, closed := fun _ => rfl, gone := fun _ => ⟨htb, hl⟩,
    destructions := ?_, responses := ?_, fault := ?_, terminated := ?_, outstanding := ?_, handed := ?_, sent := ?_,
    carried := ?_, staying := fun _ => rfl, teardown := ?_, covered := ?_, torn := ?_ }
  · intro hc
    cases hs.symm.trans hc
  · intro _
    show l.connection.handleTable.erase id = []
    rw [h.handles hs, ht]
    simp
  · show true = (true && l.session.connection.isSome)
    rw [hs]
    rfl
  · have hb := h.destructions
    rw [hco] at hb
    simp only [ClientLine.see, ClientLine.modifyConnection, ClientLine.modifySession, count_append]
    rw [hb]
    simp
  · have hb := h.responses
    rw [ht] at hb
    simp only [ClientLine.see, ClientLine.modifyConnection, ClientLine.modifySession, count_append]
    rw [hb]
    simp
  · simpa [ClientLine.see, ClientLine.modifyConnection, ClientLine.modifySession] using h.fault
  · simpa [ClientLine.see, ClientLine.modifyConnection, ClientLine.modifySession] using h.terminated
  · exact (ClientLine.outstanding_see _ _).trans ((ClientLine.outstanding_see _ _).trans h.outstanding)
  · intro ho
    cases hl.symm.trans ho
  · intro ho
    cases hl.symm.trans ho
  · intro session request response hm
    refine h.carried session request response ?_
    simpa [ClientLine.see, ClientLine.modifyConnection, ClientLine.modifySession] using hm
  · intro hc
    cases hc
  · intro hc
    cases hc
  · intro hc
    cases hc

theorem Coherent.leave (h : Coherent id hand left signalled l) (hn : l.session.connection = none)
    (hc : l.session.closing) (ht : l.session.destroyed = false) :
    Coherent id hand left signalled ((l.modifySession ({ · with destroyed := true })).see (.terminateResponse id)) := by
  have hcn := h.destroyed
  rw [ht, Bool.false_and] at hcn
  refine { h with
    handles := ?_, destroyed := ?_, gone := fun _ => ⟨(h.fresh hn).2.2, hc⟩, destructions := ?_,
    responses := ?_, fault := ?_, terminated := ?_, outstanding := ?_, handed := ?_, sent := ?_, carried := ?_ }
  · intro hco
    cases hn.symm.trans hco
  · show l.connection.destroyed = (true && l.session.connection.isSome)
    rw [hcn, hn]
    rfl
  · exact (count_see_ne _ (fun heq => by cases heq)).trans h.destructions
  · have hb := h.responses
    rw [ht] at hb
    simp only [ClientLine.see, ClientLine.modifySession, count_append]
    rw [hb]
    simp
  · exact fun hm => h.fault ((mem_see _ (fun heq => by cases heq)).1 hm)
  · exact (mem_see _ (fun heq => by cases heq)).trans h.terminated
  · exact (ClientLine.outstanding_see _ _).trans h.outstanding
  · intro ho
    cases hc.symm.trans ho
  · intro ho
    cases hc.symm.trans ho
  · intro session request response hm
    exact h.carried session request response ((mem_see _ (fun heq => by cases heq)).1 hm)

end UniMrcp.UniRtsp
