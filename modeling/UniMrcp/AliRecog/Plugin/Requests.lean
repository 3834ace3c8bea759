import UniMrcp.AliRecog.Plugin.Contract

/-!
# The requests of the recognizer plugin

Orderly steps keep the promise of `Contract`.
-/

namespace UniMrcp.AliRecog

open Mrcp MrcpEngine List Function ChPointer

/-! ## The invariant -/

/-- How often the request has been taken up: by the task of the engine, a thread that starts, or a request of the SDK.
-/
def Plugin.created (p : Plugin) (request : Nat) : Nat :=
  (if p.engineTask = some (request, .start) then 1 else 0) +
    p.threads.countP (fun r => r.stage == .init && r.request == request) +
    p.sdk.countP (fun r => r.request == request)

def Plugin.pending (p : Plugin) (request : Nat) : Nat :=
  (if p.engineTask = some (request, .start) ∨ p.engineTask = some (request, .respond) then 1 else 0) +
    if (p.recogChannel (p.sessionOf request)).stopResponse = some request then 1 else 0

def Plugin.Owned (p : Plugin) (id request : Nat) : Prop :=
  (p.stopped request → (p.channel id).ch = none) ∧
    (p.stopped request = false → (p.recogChannel (p.sessionOf request)).ch = .channel id)

/-- What orderly steps keep. Within a step, the response to `due` is neither sent nor stored yet. -/
structure Kept (p : Plugin) (log : List Output) (due : Option Nat) : Prop where
  task : ∀ request stage, p.engineTask = some (request, stage) → ∃ session id,
    p.requests[request]? = some ⟨session, .recognize⟩ ∧ (p.recogChannel session).ch = .channel id ∧
      (stage = .start → p.Owned id request)
  stop : ∀ session request, (p.recogChannel session).stopResponse = some request →
    p.requests[request]? = some ⟨session, .stop⟩ ∧ (p.recogChannel session).streamClosed = false
  stored : ∀ session, (p.recogChannel session).recogRequest.isSome → (p.recogChannel session).ch.target.isSome
  stoppedKnown : ∀ request, p.stopped request → request < p.requests.length
  thread : ∀ r ∈ p.threads, r.stage = .init → p.Owned r.channel r.request
  sdk : ∀ r ∈ p.sdk, (r.reported || r.closed) = false → p.Owned r.channel r.request
  created : ∀ request, p.created request ≤ if request < p.requests.length then 1 else 0
  answers : ∀ request, log.countP (Output.answers request) + p.pending request + (if due = some request then 1 else 0) =
    if request < p.requests.length then 1 else 0
  completes : ∀ request, p.stopped request = false → log.countP (Output.completes request) =
    p.sdk.countP (fun r => r.request == request && r.reported)
  noInvalidRead : Output.invalidRead ∉ log
  noNotStarted : ∀ request, Output.notStarted request ∉ log
  recognized : ∀ request session statusCode requestState, p.requests[request]? = some ⟨session, .recognize⟩ →
    Output.response request statusCode requestState ∈ log →
    (statusCode = statusCodeSuccess ∧ requestState = .inProgress) ∨ statusCode = statusCodeMethodFailed
  ownChannel : ∀ session request, Output.recognitionComplete session request ∈ log →
    session = p.sessionOf request ∧ request < p.requests.length

variable {r : Request}

theorem sessionOf_eq {p : Plugin} {request : Nat} (h : p.requests[request]? = some r) :
    p.sessionOf request = r.session := by
  simp [Plugin.sessionOf, h]

theorem lt_of_request {p : Plugin} {request : Nat} (h : p.requests[request]? = some r) : request < p.requests.length :=
  (List.getElem?_eq_some_iff.1 h).1

theorem kept_initial (maxChannels : Nat) (record : Bool) : Kept (.initial maxChannels record) [] none := by
  constructor <;> simp [Plugin.initial, Plugin.created, Plugin.pending]

/-- **The invariant implies the contract.** -/
theorem Kept.contract {t : Trace} (h : Kept t.plugin t.log none) : Contract t where
  noInvalidRead := h.noInvalidRead
  recognized := h.recognized
  notStarted := fun request _ hn => absurd hn (h.noNotStarted request)
  ownChannel := fun session request hm => (h.ownChannel session request hm).1
  answered := by
    intro request hlt
    have ha := h.answers request
    simp only [if_pos hlt, reduceCtorEq, if_false, Nat.add_zero] at ha
    by_cases hp : t.plugin.pending request = 0
    · exact Or.inl (by omega)
    · refine Or.inr ⟨by omega, ?_⟩
      unfold Plugin.pending at hp
      by_cases ht : t.plugin.engineTask = some (request, .start) ∨ t.plugin.engineTask = some (request, .respond)
      · exact ht.imp_right Or.inl
      · rw [if_neg ht] at hp
        have hs : (t.plugin.recogChannel (t.plugin.sessionOf request)).stopResponse = some request := by
          by_contra hne
          simp [hne] at hp
        exact Or.inr (Or.inr ⟨hs, (h.stop _ _ hs).2⟩)
  completed := by
    intro request _ _ hst
    rw [h.completes request hst]
    have hc := h.created request
    have hle : t.plugin.sdk.countP (fun r => r.request == request && r.reported) ≤
        t.plugin.sdk.countP (fun r => r.request == request) :=
      countP_mono_left fun r _ => by simp +contextual
    have ho : t.plugin.created request ≤ 1 := by split at hc <;> omega
    unfold Plugin.created at ho
    constructor
    · rintro ⟨r, hm, hq, hrp⟩
      have hps : 0 < t.plugin.sdk.countP (fun r => r.request == request && r.reported) :=
        countP_pos_iff.2 ⟨r, hm, by simp [hq, hrp]⟩
      omega
    · intro hn
      rw [countP_eq_zero]
      intro r hm hr
      simp only [Bool.and_eq_true, beq_iff_eq] at hr
      exact hn ⟨r, hm, hr.1, hr.2⟩

/-! ## Steps that change one thing -/

section Changes

variable {p : Plugin} {log : List Output} {due : Option Nat}

@[simp] theorem setChannel_recogChannel (id : Nat) (channel : AliChannel) :
    (p.setChannel id channel).recogChannel = p.recogChannel := rfl

@[simp] theorem setRecogChannel_channel (session : Nat) (recogChannel : RecogChannel) :
    (p.setRecogChannel session recogChannel).channel = p.channel := rfl

variable {channel : AliChannel}

theorem setChannel_ch {id id' : Nat} (h : channel.ch = none ∨ channel.ch = (p.channel id).ch) :
    ((p.setChannel id channel).channel id').ch = none ∨
      ((p.setChannel id channel).channel id').ch = (p.channel id').ch := by
  unfold Plugin.setChannel
  by_cases hid : id' = id
  · subst hid
    simpa using h
  · simp [update_of_ne hid]

theorem setRecogChannel_ch {session session' : Nat} {recogChannel : RecogChannel}
    (h : recogChannel.ch = (p.recogChannel session).ch) :
    ((p.setRecogChannel session recogChannel).recogChannel session').ch = (p.recogChannel session').ch := by
  unfold Plugin.setRecogChannel
  by_cases hs : session' = session
  · subst hs
    simpa using h
  · simp [update_of_ne hs]

theorem Plugin.Owned.mono {p' : Plugin} {id request : Nat} (h : p.Owned id request)
    (ht : p'.stopped request = p.stopped request)
    (hc : (p'.channel id).ch = none ∨ (p'.channel id).ch = (p.channel id).ch)
    (hr : (p'.recogChannel (p'.sessionOf request)).ch = (p.recogChannel (p.sessionOf request)).ch) :
    p'.Owned id request := by
  constructor
  · intro hs
    rcases hc with hc | hc
    · exact hc
    · rw [hc, h.1 (ht ▸ hs)]
  · intro hs
    rw [hr, h.2 (ht ▸ hs)]

theorem Kept.setChannel (h : Kept p log due) {id : Nat} (hc : channel.ch = none ∨ channel.ch = (p.channel id).ch) :
    Kept (p.setChannel id channel) log due := by
  have hw : ∀ {id' request}, p.Owned id' request → (p.setChannel id channel).Owned id' request :=
    fun ho => ho.mono rfl (setChannel_ch hc) rfl
  refine { h with task := ?_, thread := fun r hr hs => hw (h.thread r hr hs)
                  sdk := fun r hr hs => hw (h.sdk r hr hs) }
  intro request stage ht
  obtain ⟨session, id', hq, hc', ho⟩ := h.task request stage ht
  exact ⟨session, id', hq, hc', fun hst => hw (ho hst)⟩

theorem Kept.setPools (h : Kept p log due) (idle busy : Nat → Bool) :
    Kept { p with idlePool := idle, busyPool := busy } log due := { h with }

theorem Kept.releaseChannel (h : Kept p log due) (id : Nat) : Kept (p.releaseChannel id) log due := by
  unfold Plugin.releaseChannel
  split
  · exact h
  · exact h.setPools _ _

theorem resetChannelPoolState_eq (p : Plugin) (id : Nat) :
    ∃ idle busy, p.resetChannelPoolState id = { p with idlePool := idle, busyPool := busy } := by
  unfold Plugin.resetChannelPoolState
  split
  · exact ⟨_, _, rfl⟩
  · exact ⟨_, _, rfl⟩

theorem Kept.silent (h : Kept p log due) : Kept p (log ++ []) due := by rwa [append_nil]

theorem Kept.startOfInput (h : Kept p log due) (session request : Nat) :
    Kept p (log ++ [.startOfInput session request]) due where
  task := h.task
  stop := h.stop
  stored := h.stored
  stoppedKnown := h.stoppedKnown
  thread := h.thread
  sdk := h.sdk
  created := h.created
  answers := by simpa [Output.answers] using h.answers
  completes := by simpa [Output.completes] using h.completes
  noInvalidRead := by simpa using h.noInvalidRead
  noNotStarted := by simpa using h.noNotStarted
  recognized := by simpa using h.recognized
  ownChannel := by simpa using h.ownChannel

theorem Kept.respond {request : Nat} (h : Kept p log (some request)) {statusCode : Nat} {requestState : RequestState}
    (hr : (∃ session, p.requests[request]? = some ⟨session, .recognize⟩) →
      (statusCode = statusCodeSuccess ∧ requestState = .inProgress) ∨ statusCode = statusCodeMethodFailed) :
    Kept p (log ++ [.response request statusCode requestState]) none where
  task := h.task
  stop := h.stop
  stored := h.stored
  stoppedKnown := h.stoppedKnown
  thread := h.thread
  sdk := h.sdk
  created := h.created
  answers := by
    intro other
    have ha := h.answers other
    simp only [Option.some.injEq] at ha
    simp only [countP_append, countP_cons, countP_nil, Output.answers, beq_iff_eq, reduceCtorEq,
      if_false]
    omega
  completes := by simpa [Output.completes] using h.completes
  noInvalidRead := by simpa using h.noInvalidRead
  noNotStarted := by simpa using h.noNotStarted
  recognized := by
    intro other session statusCode' requestState' ho hm
    rcases mem_append.1 hm with hm | hm
    · exact h.recognized other session statusCode' requestState' ho hm
    · simp only [mem_singleton, Output.response.injEq] at hm
      obtain ⟨rfl, rfl, rfl⟩ := hm
      exact hr ⟨session, ho⟩
  ownChannel := by simpa using h.ownChannel

theorem Kept.channelStop (h : Kept p log due) {session id : Nat} (hc : (p.recogChannel session).ch = .channel id) :
    Kept ((p.markStopped session).setChannel id (p.channel id).stop) log due := by
  have ht : ∀ {request}, p.stopped request → (p.markStopped session).stopped request := by
    intro request hs
    simp [Plugin.markStopped, hs]
  have ht' : ∀ {request}, (p.markStopped session).stopped request = false → p.stopped request = false := by
    intro request hs
    simp only [Plugin.markStopped, Bool.or_eq_false_iff] at hs
    exact hs.1
  have hw : ∀ {id' request}, p.Owned id' request →
      ((p.markStopped session).setChannel id (p.channel id).stop).Owned id' request := by
    intro id' request ho
    constructor
    · intro hs
      have hn : (p.channel id').ch = none ∨ id' = id := by
        cases hs' : p.stopped request with
        | true => exact Or.inl (ho.1 hs')
        | false =>
          have hss : p.sessionOf request = session := by
            simp only [Plugin.setChannel, Plugin.markStopped, hs', Bool.false_or] at hs
            obtain ⟨r, hr, hrs⟩ := (Option.any_eq_true _ _).1 hs
            rw [sessionOf_eq hr]
            simpa using hrs
          have hid := ho.2 hs'
          rw [hss, hc] at hid
          exact Or.inr (ChPointer.channel.inj hid).symm
      rcases hn with hn | rfl
      · have hp : (p.channel id).stop.ch = none ∨ (p.channel id).stop.ch = (p.channel id).ch := Or.inl rfl
        rcases (setChannel_ch hp : ((p.setChannel id (p.channel id).stop).channel id').ch = none ∨ _) with heq | heq
        · exact heq
        · exact heq.trans hn
      · simp [Plugin.setChannel, AliChannel.stop]
    · intro hs
      exact ho.2 (ht' hs)
  refine { h with task := ?_, stoppedKnown := ?_, thread := fun r hr hs => hw (h.thread r hr hs)
                  sdk := fun r hr hs => hw (h.sdk r hr hs)
                  completes := fun request hs => h.completes request (ht' hs) }
  · intro request stage hts
    obtain ⟨session', id', hq, hc', ho⟩ := h.task request stage hts
    exact ⟨session', id', hq, hc', fun hg => hw (ho hg)⟩
  · intro request hs
    simp only [Plugin.setChannel, Plugin.markStopped, Bool.or_eq_true] at hs
    rcases hs with hs | hs
    · exact h.stoppedKnown request hs
    · obtain ⟨r, hr, -⟩ := (Option.any_eq_true _ _).1 hs
      exact lt_of_request hr

theorem Kept.stopSession (h : Kept p log due) {session id : Nat} (hc : (p.recogChannel session).ch = .channel id) :
    Kept ((p.markStopped session).channelStop session).1
      (log ++ ((p.markStopped session).channelStop session).2) due := by
  have hc' : ((p.markStopped session).recogChannel session).ch = .channel id := hc
  unfold Plugin.channelStop
  rw [hc']
  exact (h.channelStop hc).silent

end Changes

/-! ## The task of the engine -/

section EngineTask

variable {p : Plugin} {log : List Output}

theorem sessionOf_append {r : Request} {request : Nat} (h : request < p.requests.length) :
    ({ p with requests := p.requests ++ [r] } : Plugin).sessionOf request = p.sessionOf request := by
  simp [Plugin.sessionOf, List.getElem?_append_left h]

theorem Kept.lt_of_created {due : Option Nat} (h : Kept p log due) {request : Nat} (hc : p.created request ≠ 0) :
    request < p.requests.length := by
  by_contra hge
  have hle := h.created request
  rw [if_neg hge] at hle
  omega

theorem created_of_thread {r : RecogThread} (hr : r ∈ p.threads) (hs : r.stage = .init) : p.created r.request ≠ 0 := by
  have hp : 0 < p.threads.countP (fun t => t.stage == .init && t.request == r.request) :=
    countP_pos_iff.2 ⟨r, hr, by simp [hs]⟩
  unfold Plugin.created
  omega

theorem created_of_sdk {r : SdkRequest} (hr : r ∈ p.sdk) : p.created r.request ≠ 0 := by
  have hp : 0 < p.sdk.countP (fun t => t.request == r.request) := countP_pos_iff.2 ⟨r, hr, by simp⟩
  unfold Plugin.created
  omega

theorem Kept.take (h : Kept p log none) (hts : p.engineTask = none) (session : Nat) (method : RecogMethod) :
    Kept { p with requests := p.requests ++ [⟨session, method⟩] } log (some p.requests.length) := by
  have hw : ∀ {id request}, request < p.requests.length → p.Owned id request →
      ({ p with requests := p.requests ++ [⟨session, method⟩] } : Plugin).Owned id request :=
    fun hlt ho => ho.mono rfl (Or.inr rfl) (by rw [sessionOf_append hlt])
  have hl : ∀ {request r}, p.requests[request]? = some r →
      (p.requests ++ [⟨session, method⟩])[request]? = some r :=
    fun hr => by rw [List.getElem?_append_left (lt_of_request hr), hr]
  constructor
  · intro request stage heq
    exact absurd (hts.symm.trans heq) nofun
  · intro session' request ht
    exact ⟨hl (h.stop session' request ht).1, (h.stop session' request ht).2⟩
  · exact h.stored
  · intro request hs
    have hlt := h.stoppedKnown request hs
    simp only [length_append, length_singleton]
    omega
  · exact fun r hr hs => hw (h.lt_of_created (created_of_thread hr hs)) (h.thread r hr hs)
  · exact fun r hr hs => hw (h.lt_of_created (created_of_sdk hr)) (h.sdk r hr hs)
  · intro request
    have hc : p.created request ≤ _ := h.created request
    refine le_trans (hc : ({ p with requests := _ } : Plugin).created request ≤ _) ?_
    simp only [length_append, length_singleton]
    split_ifs <;> omega
  · intro request
    have ha := h.answers request
    have hp : ({ p with requests := p.requests ++ [⟨session, method⟩] } : Plugin).pending request =
        p.pending request := by
      unfold Plugin.pending
      by_cases hlt : request < p.requests.length
      · rw [sessionOf_append hlt]
      · have hn : ∀ session', (p.recogChannel session').stopResponse ≠ some request :=
          fun session' ht => hlt (lt_of_request (h.stop session' request ht).1)
        simp [hn]
    rw [hp]
    simp only [reduceCtorEq, if_false, Option.some.injEq, length_append, length_singleton] at ha ⊢
    split_ifs at ha ⊢ <;> omega
  · exact h.completes
  · exact h.noInvalidRead
  · exact h.noNotStarted
  · intro request session' statusCode requestState hq hm
    by_cases hlt : request < p.requests.length
    · rw [List.getElem?_append_left hlt] at hq
      exact h.recognized request session' statusCode requestState hq hm
    · -- no response to a request that was not taken up yet
      have ha := h.answers request
      have hps : 0 < log.countP (Output.answers request) :=
        countP_pos_iff.2 ⟨_, hm, by simp [Output.answers]⟩
      rw [if_neg hlt] at ha
      omega
  · intro session' request hm
    obtain ⟨hss, hlt⟩ := h.ownChannel session' request hm
    refine ⟨hss.trans (sessionOf_append hlt).symm, ?_⟩
    simp only [length_append, length_singleton]
    omega

theorem setRecogChannel_keeps {α : Type} (f : RecogChannel → α) {session : Nat} {recogChannel : RecogChannel}
    (h : f recogChannel = f (p.recogChannel session)) (session' : Nat) :
    f ((p.setRecogChannel session recogChannel).recogChannel session') = f (p.recogChannel session') := by
  unfold Plugin.setRecogChannel
  by_cases hs : session' = session
  · subst hs
    simpa using h
  · simp [update_of_ne hs]

section Assign

variable {session id : Nat}

@[simp] theorem assign_requests : (p.assign session id).requests = p.requests := rfl
@[simp] theorem assign_threads : (p.assign session id).threads = p.threads := rfl
@[simp] theorem assign_sdk : (p.assign session id).sdk = p.sdk := rfl
@[simp] theorem assign_stopped : (p.assign session id).stopped = p.stopped := rfl
@[simp] theorem assign_sessionOf (request : Nat) : (p.assign session id).sessionOf request = p.sessionOf request := rfl

theorem assign_keeps {α : Type} (f : RecogChannel → α)
    (h : ∀ recogChannel ch, f { recogChannel with ch := ch } = f recogChannel) (session' : Nat) :
    f ((p.assign session id).recogChannel session') = f (p.recogChannel session') :=
  setRecogChannel_keeps f (h _ _) session'

variable (session' : Nat)

@[simp] theorem assign_stopResponse :
    ((p.assign session id).recogChannel session').stopResponse = (p.recogChannel session').stopResponse :=
  assign_keeps (·.stopResponse) (fun _ _ => rfl) session'

@[simp] theorem assign_streamClosed :
    ((p.assign session id).recogChannel session').streamClosed = (p.recogChannel session').streamClosed :=
  assign_keeps (·.streamClosed) (fun _ _ => rfl) session'

@[simp] theorem assign_recogRequest :
    ((p.assign session id).recogChannel session').recogRequest = (p.recogChannel session').recogRequest :=
  assign_keeps (·.recogRequest) (fun _ _ => rfl) session'

@[simp] theorem assign_ch : ((p.assign session id).recogChannel session).ch = .channel id := by
  simp [Plugin.assign, Plugin.setRecogChannel]

theorem assign_ch_of_ne {session' : Nat} (h : session' ≠ session) :
    ((p.assign session id).recogChannel session').ch = (p.recogChannel session').ch := by
  simp [Plugin.assign, Plugin.setRecogChannel, update_of_ne h]

theorem assign_channel_of_ne {id' : Nat} (h : id' ≠ id) : (p.assign session id).channel id' = p.channel id' := by
  simp [Plugin.assign, Plugin.setChannel, update_of_ne h]

theorem Plugin.Owned.assign {id' request : Nat} (h : p.Owned id' request) (hid : id' ≠ id)
    (hss : p.stopped request = false → p.sessionOf request ≠ session) :
    (p.assign session id).Owned id' request := by
  constructor
  · intro hs
    rw [assign_channel_of_ne hid]
    exact h.1 hs
  · intro hs
    rw [assign_sessionOf, assign_ch_of_ne (hss hs)]
    exact h.2 hs

end Assign

theorem Kept.assign {request session id : Nat} (h : Kept p log (some request)) (hts : p.engineTask = none)
    (hq : p.requests[request]? = some ⟨session, .recognize⟩) (hc : p.created request = 0)
    (hp : p.stopped request = false) (hqt : p.Quiet id) (hg : ¬ p.Going session) :
    Kept { p.assign session id with engineTask := some (request, .start) } log none := by
  constructor
  · intro request' stage heq
    obtain ⟨rfl, rfl⟩ : request = request' ∧ RecognizeStage.start = stage := by simpa using heq
    refine ⟨session, id, hq, assign_ch, fun _ => ⟨fun hs => ?_, fun _ => ?_⟩⟩
    · exact absurd (hp.symm.trans hs) Bool.false_ne_true
    have hss : p.sessionOf request = session := sessionOf_eq hq
    show ((p.assign session id).recogChannel (p.sessionOf request)).ch = .channel id
    rw [hss, assign_ch]
  · intro session' request' hs
    have hs : (p.recogChannel session').stopResponse = some request' := (assign_stopResponse session').symm.trans hs
    exact ⟨(h.stop session' request' hs).1, (assign_streamClosed session').trans (h.stop session' request' hs).2⟩
  · intro session' hs
    show ((p.assign session id).recogChannel session').ch.target.isSome
    by_cases hss : session' = session
    · subst hss
      simp [target]
    · rw [assign_ch_of_ne hss]
      exact h.stored session' (by simpa using hs)
  · exact h.stoppedKnown
  · intro r hr hs
    refine (h.thread r hr hs).assign ?_ ?_
    · intro hid
      rw [hqt.1 r hr hid] at hs
      cases hs
    · exact fun ht hss => hg (Or.inl ⟨r, hr, hs, hss, ht⟩)
  · intro r hr hs
    refine (h.sdk r hr hs).assign ?_ ?_
    · intro hid
      rw [hqt.2 r hr hid, Bool.or_true] at hs
      exact Bool.noConfusion hs
    · exact fun ht hss => hg (Or.inr ⟨r, hr, hs, hss, ht⟩)
  · intro other
    have ho := h.created other
    show (if some (request, RecognizeStage.start) = some (other, .start) then 1 else 0) + p.threads.countP _ +
      p.sdk.countP _ ≤ if other < p.requests.length then 1 else 0
    unfold Plugin.created at ho hc
    rw [hts] at ho hc
    by_cases heq : request = other
    · subst heq
      rw [if_pos (lt_of_request hq)]
      simp only [if_true]
      omega
    · simpa [heq] using ho
  · intro other
    have ho := h.answers other
    have hn : ({ p.assign session id with engineTask := some (request, .start) } : Plugin).pending other =
        p.pending other + if request = other then 1 else 0 := by
      show _ + (if ((p.assign session id).recogChannel (p.sessionOf other)).stopResponse = some other then 1 else 0) = _
      unfold Plugin.pending
      rw [assign_stopResponse]
      simp [hts]
      omega
    rw [hn]
    show _ + _ + _ = if other < p.requests.length then 1 else 0
    rw [← ho]
    simp
    omega
  · exact h.completes
  · exact h.noInvalidRead
  · exact h.noNotStarted
  · exact h.recognized
  · exact h.ownChannel

variable {recogChannel : RecogChannel}

theorem Plugin.Owned.setRecogChannel {id request session : Nat} (h : p.Owned id request)
    (hc : recogChannel.ch = (p.recogChannel session).ch) : (p.setRecogChannel session recogChannel).Owned id request :=
  h.mono rfl (Or.inr rfl) (setRecogChannel_ch hc)

def owing (stopResponse due : Option Nat) (request : Nat) : Nat :=
  (if stopResponse = some request then 1 else 0) + if due = some request then 1 else 0

theorem Kept.setRecogChannel {due due' : Option Nat} {session : Nat} (h : Kept p log due)
    (hc : recogChannel.ch = (p.recogChannel session).ch)
    (hp : ∀ request, recogChannel.stopResponse = some request →
      p.requests[request]? = some ⟨session, .stop⟩ ∧ recogChannel.streamClosed = false)
    (hst : recogChannel.recogRequest.isSome → recogChannel.ch.target.isSome)
    (hl : ∀ request, p.sessionOf request = session → owing recogChannel.stopResponse due' request =
      owing (p.recogChannel session).stopResponse due request)
    (hot : ∀ request, p.sessionOf request ≠ session → (due' = some request ↔ due = some request)) :
    Kept (p.setRecogChannel session recogChannel) log due' := by
  have hh : ∀ session', ((p.setRecogChannel session recogChannel).recogChannel session').ch =
      (p.recogChannel session').ch := fun _ => setRecogChannel_ch hc
  have ht : (p.setRecogChannel session recogChannel).recogChannel session = recogChannel := by
    simp [Plugin.setRecogChannel]
  have hrs : ∀ {session'}, session' ≠ session →
      (p.setRecogChannel session recogChannel).recogChannel session' = p.recogChannel session' := by
    intro session' hne
    simp [Plugin.setRecogChannel, update_of_ne hne]
  constructor
  · intro request stage hts
    obtain ⟨session', id, hq, hid, ho⟩ := h.task request stage hts
    exact ⟨session', id, hq, (hh session').trans hid, fun hs => (ho hs).setRecogChannel hc⟩
  · intro session' request hs
    by_cases hss : session' = session
    · subst hss
      rw [ht] at hs ⊢
      exact hp request hs
    · rw [hrs hss] at hs ⊢
      exact h.stop session' request hs
  · intro session' hs
    by_cases hss : session' = session
    · subst hss
      rw [ht] at hs ⊢
      exact hst hs
    · rw [hrs hss] at hs ⊢
      exact h.stored session' hs
  · exact h.stoppedKnown
  · exact fun r hr hs => (h.thread r hr hs).setRecogChannel hc
  · exact fun r hr hs => (h.sdk r hr hs).setRecogChannel hc
  · exact h.created
  · intro request
    show _ = if request < p.requests.length then 1 else 0
    rw [← h.answers request]
    show _ + (_ + (if ((p.setRecogChannel session recogChannel).recogChannel (p.sessionOf request)).stopResponse =
      some request then 1 else 0)) + _ = _ + (_ + _) + _
    have hk : (p.setRecogChannel session recogChannel).engineTask = p.engineTask := rfl
    rw [hk]
    by_cases hss : p.sessionOf request = session
    · have hw := hl request hss
      unfold owing at hw
      rw [hss, ht]
      omega
    · rw [hrs hss]
      simp only [hot request hss]
  · exact h.completes
  · exact h.noInvalidRead
  · exact h.noNotStarted
  · exact h.recognized
  · exact h.ownChannel

theorem Kept.storeStop {request session : Nat} (h : Kept p log (some request))
    (hr : p.requests[request]? = some ⟨session, .stop⟩) (hs : (p.recogChannel session).stopResponse = none)
    (hc : (p.recogChannel session).streamClosed = false) :
    Kept (p.setRecogChannel session { p.recogChannel session with stopResponse := some request }) log none := by
  refine h.setRecogChannel rfl ?_ (h.stored session) ?_ ?_
  · intro other heq
    obtain rfl : request = other := Option.some.inj heq
    exact ⟨hr, hc⟩
  · intro other _
    simp [owing, hs]
  · intro other hss
    constructor
    · exact nofun
    · intro heq
      obtain rfl : request = other := Option.some.inj heq
      exact absurd (sessionOf_eq hr) hss

theorem Kept.sendStop {request session : Nat} (h : Kept p log none)
    (hs : (p.recogChannel session).stopResponse = some request) :
    Kept (p.setRecogChannel session { p.recogChannel session with stopResponse := none, recogRequest := none })
      (log ++ [.response request statusCodeSuccess .complete]) none := by
  have hr := (h.stop session request hs).1
  have hd : Kept (p.setRecogChannel session
      { p.recogChannel session with stopResponse := none, recogRequest := none }) log (some request) := by
    refine h.setRecogChannel rfl nofun nofun ?_ ?_
    · intro other _
      simp [owing, hs]
    · intro other hss
      constructor
      · intro heq
        obtain rfl : request = other := Option.some.inj heq
        exact absurd (sessionOf_eq hr) hss
      · exact nofun
  refine hd.respond ?_
  rintro ⟨session', hc⟩
  exact absurd (hr.symm.trans hc) (by simp)

theorem Kept.closeStream {due : Option Nat} {session : Nat} (h : Kept p log due)
    (hs : (p.recogChannel session).stopResponse = none) :
    Kept (p.setRecogChannel session { p.recogChannel session with streamClosed := true }) log due := by
  refine h.setRecogChannel rfl ?_ (h.stored session) (fun _ _ => rfl) (fun _ _ => Iff.rfl)
  intro request heq
  exact absurd (hs.symm.trans heq) nofun

theorem Kept.push {request session id : Nat} (h : Kept p log none) (ht : p.engineTask = some (request, .start))
    (hq : p.requests[request]? = some ⟨session, .recognize⟩) (hh : (p.recogChannel session).ch = .channel id) :
    Kept { p with engineTask := some (request, .respond), threads := p.threads ++ [⟨id, request, .init⟩] }
      log none := by
  obtain ⟨session', id', hq', hh', ho⟩ := h.task request .start ht
  obtain rfl : session = session' := by simpa [hq] using hq'
  obtain rfl : id = id' := ChPointer.channel.inj (hh.symm.trans hh')
  refine { h with task := ?_, thread := ?_, created := ?_, answers := ?_ }
  · intro request' stage heq
    obtain ⟨rfl, rfl⟩ : request = request' ∧ RecognizeStage.respond = stage := by simpa using heq
    exact ⟨session, id, hq, hh, nofun⟩
  · intro r hr hs
    rcases mem_append.1 hr with hr | hr
    · exact h.thread r hr hs
    · obtain rfl := mem_singleton.1 hr
      exact ho rfl
  · intro other
    have hc := h.created other
    unfold Plugin.created at hc ⊢
    rw [ht] at hc
    by_cases heq : request = other
    · subst heq
      simp at hc ⊢
      omega
    · simpa [heq] using hc
  · intro other
    have ha := h.answers other
    unfold Plugin.pending at ha ⊢
    rw [ht] at ha
    simp only [Option.some.injEq, Prod.mk.injEq, reduceCtorEq, and_false, and_true, or_false, false_or] at ha ⊢
    exact ha

variable {request : Nat}

theorem Kept.respondRecognize (h : Kept p log none) (ht : p.engineTask = some (request, .respond)) :
    Kept { p with engineTask := some (request, .store) }
      (log ++ [.response request statusCodeSuccess .inProgress]) none := by
  have hd : Kept { p with engineTask := some (request, .store) } log (some request) := by
    refine { h with task := ?_, created := ?_, answers := ?_ }
    · intro request' stage heq
      obtain ⟨rfl, rfl⟩ : request = request' ∧ RecognizeStage.store = stage := by simpa using heq
      obtain ⟨session, id, hr, hh, -⟩ := h.task request .respond ht
      exact ⟨session, id, hr, hh, nofun⟩
    · intro other
      have hc := h.created other
      unfold Plugin.created at hc ⊢
      rw [ht] at hc
      simpa using hc
    · intro other
      have ha := h.answers other
      unfold Plugin.pending at ha ⊢
      rw [ht] at ha
      simp only [Option.some.injEq, Prod.mk.injEq, reduceCtorEq, and_false, and_true, or_false, false_or,
        if_false] at ha ⊢
      show _ + (0 + (if (p.recogChannel (p.sessionOf other)).stopResponse = some other then 1 else 0)) + _ = _
      refine Eq.trans ?_ ha
      omega
  exact hd.respond fun _ => Or.inl ⟨rfl, rfl⟩

theorem Kept.storeRequest (h : Kept p log none) (ht : p.engineTask = some (request, .store)) :
    Kept (({ p with engineTask := none } : Plugin).setRecogChannel (p.sessionOf request)
      { p.recogChannel (p.sessionOf request) with recogRequest := some request }) log none := by
  obtain ⟨session, id, hr, hid, -⟩ := h.task request .store ht
  have hs : p.sessionOf request = session := sessionOf_eq hr
  have hn : Kept { p with engineTask := none } log none := by
    refine { h with task := nofun, created := ?_, answers := ?_ }
    · intro other
      have hc := h.created other
      unfold Plugin.created at hc ⊢
      rw [ht] at hc
      simpa using hc
    · intro other
      have ha := h.answers other
      unfold Plugin.pending at ha ⊢
      rw [ht] at ha
      simp only [Option.some.injEq, Prod.mk.injEq, reduceCtorEq, and_false, or_false, if_false] at ha ⊢
      exact ha
  rw [hs]
  refine hn.setRecogChannel rfl (h.stop session) (fun _ => ?_) (fun _ _ => rfl) (fun _ _ => Iff.rfl)
  simp [hid, target]

theorem newChannel_eq {id : Nat} (h : p.newChannel.2 = some id) :
    ∃ idle busy, p.newChannel = ({ p with idlePool := idle, busyPool := busy }, some id) := by
  unfold Plugin.newChannel at h ⊢
  dsimp only at h ⊢
  split at h
  · obtain rfl := Option.some.inj h
    exact ⟨_, _, rfl⟩
  · exact absurd h nofun

theorem Kept.recognize {request session id : Nat} (h : Kept p log (some request)) (ht : p.engineTask = none)
    (hr : p.requests[request]? = some ⟨session, .recognize⟩) (hc : p.created request = 0)
    (hs : p.stopped request = false) (hid : p.newChannel.2 = some id) (hq : p.Quiet id)
    (hg : ¬ p.Going session) :
    Kept (p.recognize session request true).1 (log ++ (p.recognize session request true).2) none := by
  obtain ⟨idle, busy, heq⟩ := newChannel_eq hid
  unfold Plugin.recognize
  rw [if_pos rfl, heq, append_nil]
  exact (h.setPools idle busy).assign ht hr hc hs hq hg

theorem Kept.requestDispatch {session : Nat} {method : RecogMethod} {descriptor : Bool} (h : Kept p log none)
    (ht : p.engineTask = none) (ho : Orderly ⟨p, log⟩ (.request session method descriptor)) :
    Kept (p.requestDispatch session method descriptor).1
      (log ++ (p.requestDispatch session method descriptor).2) none := by
  have hk := h.take ht session method
  have hn : (p.requests ++ [⟨session, method⟩])[p.requests.length]? = some ⟨session, method⟩ := by simp
  -- all but RECOGNIZE and STOP are answered at once
  have hp : method ≠ .recognize → Kept { p with requests := p.requests ++ [⟨session, method⟩] }
      (log ++ [.response p.requests.length statusCodeSuccess .complete]) none := by
    intro hm
    refine hk.respond ?_
    rintro ⟨session', hrc⟩
    exact absurd (congrArg Request.method (Option.some.inj (hn.symm.trans hrc))) hm
  cases method with
  | recognize =>
    cases descriptor with
    | false => exact hk.respond fun _ => Or.inr rfl
    | true =>
      obtain ⟨hq, hsm, hg⟩ := ho ht rfl
      obtain ⟨id, hid⟩ := Option.isSome_iff_exists.1 hsm
      have hc : p.created p.requests.length = 0 := by
        have hle := h.created p.requests.length
        rw [if_neg (Nat.lt_irrefl _)] at hle
        omega
      have hstp : p.stopped p.requests.length = false := by
        cases hs : p.stopped p.requests.length with
        | false => rfl
        | true => exact absurd (h.stoppedKnown _ hs) (Nat.lt_irrefl _)
      have hf : ({ p with requests := p.requests ++ [⟨session, .recognize⟩] } : Plugin).newChannel.2 = some id := by
        rw [← hid]
        unfold Plugin.newChannel
        dsimp only
        split <;> rfl
      refine hk.recognize ht hn hc hstp hf (hq _ hid) ?_
      rintro (⟨r, hr, hs, hss, hst⟩ | ⟨r, hr, hs, hss, hst⟩)
      · rw [sessionOf_append (h.lt_of_created (created_of_thread hr hs))] at hss
        exact hg (Or.inl ⟨r, hr, hs, hss, hst⟩)
      · rw [sessionOf_append (h.lt_of_created (created_of_sdk hr))] at hss
        exact hg (Or.inr ⟨r, hr, hs, hss, hst⟩)
  | stop =>
    obtain ⟨hh, hsto, hl⟩ := ho ht
    obtain ⟨id, hid⟩ := Option.isSome_iff_exists.1 hh
    have hstr := hk.storeStop hn hsto hl
    exact hstr.stopSession (by simpa [Plugin.setRecogChannel] using target_eq_some.1 hid)
  | setParams => exact hp nofun
  | getParams => exact hp nofun
  | defineGrammar => exact hp nofun
  | interpret => exact hp nofun
  | getResult => exact hp nofun
  | startInputTimers => exact hp nofun
  | startPhraseEnrollment => exact hp nofun
  | enrollmentRollback => exact hp nofun
  | endPhraseEnrollment => exact hp nofun
  | modifyPhrase => exact hp nofun
  | deletePhrase => exact hp nofun

theorem Kept.recognizeProceed {stage : RecognizeStage} {pushed : Bool} (h : Kept p log none)
    (ht : p.engineTask = some (request, stage)) (ho : Orderly ⟨p, log⟩ (.engineTask pushed)) :
    Kept (p.recognizeProceed request stage pushed).1 (log ++ (p.recognizeProceed request stage pushed).2) none := by
  cases stage with
  | start =>
    obtain ⟨session, id, hq, hc, -⟩ := h.task request .start ht
    obtain ⟨rfl, hrc⟩ := ho _ ht rfl
    have hs : p.sessionOf request = session := sessionOf_eq hq
    have hd : (p.record && (p.channel id).ch.isNone) = false := by
      cases hr : p.record with
      | false => rfl
      | true =>
        have hm := hrc hr id (by rw [hs, hc]; rfl)
        simpa using hm
    have hst : (p.channel id).start.ch = none ∨ (p.channel id).start.ch = (p.channel id).ch := Or.inr rfl
    obtain ⟨idle, busy, hp⟩ := resetChannelPoolState_eq (p.setChannel id (p.channel id).start) id
    have hps := ((h.setChannel hst).setPools idle busy).push ht hq hc
    simp only [Plugin.recognizeProceed, hs, hc, Plugin.engineRecogStart, hd, if_true, hp]
    simpa using hps
  | respond => exact h.respondRecognize ht
  | store =>
    rw [show (p.recognizeProceed request .store pushed).2 = [] from rfl, append_nil]
    exact h.storeRequest ht

end EngineTask

section MediaEngine

variable {p : Plugin} {log : List Output}

theorem Kept.streamWrite (h : Kept p log none) (session : Nat) (activity : Bool) :
    Kept (p.streamWrite session activity).1 (log ++ (p.streamWrite session activity).2) none := by
  unfold Plugin.streamWrite
  dsimp only
  cases hs : (p.recogChannel session).stopResponse with
  | some request => exact h.sendStop hs
  | none =>
    cases hr : (p.recogChannel session).recogRequest with
    | none => simpa using h
    | some request =>
      obtain ⟨id, hid⟩ := Option.isSome_iff_exists.1 (h.stored session (by rw [hr]; rfl))
      rw [target_eq_some.1 hid]
      cases activity with
      | true => exact h.startOfInput session request
      | false => simpa using h

theorem Kept.streamClose (h : Kept p log none) {session : Nat} (ho : Orderly ⟨p, log⟩ (.streamClose session)) :
    Kept (p.streamClose session).1 (log ++ (p.streamClose session).2) none := by
  obtain ⟨hc, hs⟩ := ho
  obtain ⟨id, hid⟩ := Option.isSome_iff_exists.1 hc
  have hl := h.closeStream hs
  have hc' : ((p.setRecogChannel session { p.recogChannel session with streamClosed := true }).recogChannel
      session).ch = .channel id := by
    simpa [Plugin.setRecogChannel] using target_eq_some.1 hid
  have hr := hl.stopSession hc'
  unfold Plugin.streamClose
  dsimp only
  split
  · exact hr.releaseChannel _
  · exact hr

end MediaEngine

/-! ## The recognitions -/

section Recognitions

variable {p : Plugin} {log : List Output}

variable {thread : Nat}

theorem Kept.setThread {due : Option Nat} (h : Kept p log due) {before after : RecogThread}
    (ht : p.threads[thread]? = some before) (hb : before.stage ≠ .init) (ha : after.stage ≠ .init) :
    Kept { p with threads := p.threads.set thread after } log due := by
  obtain ⟨hlt, hg⟩ := List.getElem?_eq_some_iff.1 ht
  refine { h with thread := ?_, created := ?_ }
  · intro r hr hs
    rcases mem_or_eq_of_mem_set hr with hr | rfl
    · exact h.thread r hr hs
    · exact absurd hs ha
  · intro request
    have hc := h.created request
    unfold Plugin.created at hc ⊢
    rw [countP_set hlt, hg]
    simpa [hb, ha] using hc

theorem Kept.initRequest {due : Option Nat} (h : Kept p log due) {thread id request : Nat}
    (ht : p.threads[thread]? = some ⟨id, request, .init⟩) :
    Kept { p with
      threads := p.threads.set thread ⟨id, request, .loop⟩
      sdk := p.sdk ++ [⟨id, request, false, false⟩] } log due := by
  obtain ⟨hlt, hg⟩ := List.getElem?_eq_some_iff.1 ht
  refine { h with thread := ?_, sdk := ?_, created := ?_, completes := ?_ }
  · intro r hr hs
    rcases mem_or_eq_of_mem_set hr with hr | rfl
    · exact h.thread r hr hs
    · exact absurd hs nofun
  · intro r hr hs
    rcases mem_append.1 hr with hr | hr
    · exact h.sdk r hr hs
    · obtain rfl := mem_singleton.1 hr
      exact h.thread _ (mem_of_getElem? ht) rfl
  · intro other
    have hc := h.created other
    have hp : request = other → 0 < p.threads.countP (fun r => r.stage == .init && r.request == other) := by
      rintro rfl
      exact countP_pos_iff.2 ⟨_, mem_of_getElem? ht, by simp⟩
    unfold Plugin.created at hc ⊢
    rw [countP_set hlt, hg, countP_append, countP_singleton]
    by_cases heq : request = other
    · have hp := hp heq
      simp only [heq, beq_self_eq_true, Bool.and_self, if_true, reduceCtorEq, beq_iff_eq, Bool.and_true]
      show _ + (_ - 1 + 0) + (_ + 1) ≤ _
      omega
    · simpa [heq] using hc
  · intro other hs
    rw [h.completes other hs, countP_append]
    simp

theorem Kept.recogMain (h : Kept p log none) {started : Bool} (ho : Orderly ⟨p, log⟩ (.recogMain thread started)) :
    Kept (p.recogMain thread started).1 (log ++ (p.recogMain thread started).2) none := by
  unfold Plugin.recogMain
  cases ht : p.threads[thread]? with
  | none => exact h.silent
  | some r =>
    obtain ⟨id, request, stage⟩ := r
    cases stage with
    | init =>
      obtain rfl : started = true := ho _ ht rfl
      have hc : Kept (p.setChannel id { p.channel id with recogRequest := some p.sdk.length }) log none :=
        h.setChannel (Or.inr rfl)
      exact (hc.initRequest ht).silent
    | loop =>
      have he : Kept { p with threads := p.threads.set thread ⟨id, request, .ending⟩ } log none :=
        h.setThread ht nofun nofun
      exact he.silent
    | ending =>
      have hc : Kept (p.setChannel id (p.channel id).recogMainEnd) log none := h.setChannel (Or.inl rfl)
      have hd : Kept { p.setChannel id (p.channel id).recogMainEnd with
          threads := p.threads.set thread ⟨id, request, .done⟩ } log none := hc.setThread ht nofun nofun
      exact hd.silent
    | done => exact h.silent

variable {sdk : Nat} {r : SdkRequest}

theorem countP_set_eq (hr : p.sdk[sdk]? = some r) {r' : SdkRequest} {q : SdkRequest → Bool} (hq : q r = q r') :
    (p.sdk.set sdk r').countP q = p.sdk.countP q := by
  obtain ⟨hlt, hg⟩ := List.getElem?_eq_some_iff.1 hr
  have hp : q r → 0 < p.sdk.countP q := fun h => countP_pos_iff.2 ⟨r, mem_of_getElem? hr, h⟩
  rw [countP_set hlt, hg, ← hq]
  split
  · have := hp ‹_›
    omega
  · omega

theorem Kept.reported (h : Kept p log none) (hr : p.sdk[sdk]? = some r) (hl : (r.reported || r.closed) = false) :
    Kept (p.setReported sdk r) (log ++ if p.stopped r.request then [] else
      [.recognitionComplete (p.sessionOf r.request) r.request]) none := by
  obtain ⟨hlt, hg⟩ := List.getElem?_eq_some_iff.1 hr
  obtain ⟨hrp, -⟩ := Bool.or_eq_false_iff.1 hl
  constructor
  · exact h.task
  · exact h.stop
  · exact h.stored
  · exact h.stoppedKnown
  · exact h.thread
  · intro r' hr' hs
    rcases mem_or_eq_of_mem_set hr' with hr' | rfl
    · exact h.sdk r' hr' hs
    · exact absurd hs (by simp)
  · intro request
    have hc := h.created request
    show _ + (p.sdk.set sdk { r with reported := true }).countP _ ≤ _
    rw [countP_set_eq hr]
    exacts [hc, rfl]
  · intro request
    show _ + p.pending request + _ = if request < p.requests.length then 1 else 0
    rw [← h.answers request]
    split <;> simp [Output.answers]
  · intro request hs
    have hs : p.stopped request = false := hs
    have hcm := h.completes request hs
    rw [countP_append, hcm]
    show _ = (p.sdk.set sdk { r with reported := true }).countP _
    rw [countP_set hlt, hg]
    by_cases heq : r.request = request
    · subst heq
      simp [hs, hrp, Output.completes]
    · split <;> simp [heq, Output.completes]
  · split <;> simpa using h.noInvalidRead
  · split <;> simpa using h.noNotStarted
  · split <;> simpa [Plugin.setReported] using h.recognized
  · intro session request hm
    rcases mem_append.1 hm with hm | hm
    · exact h.ownChannel session request hm
    · split at hm
      · exact absurd hm (by simp)
      · obtain ⟨rfl, rfl⟩ : session = p.sessionOf r.request ∧ request = r.request := by simpa using hm
        exact ⟨rfl, h.lt_of_created (created_of_sdk (mem_of_getElem? hr))⟩

theorem Kept.onMrcpRecogCompleted (h : Kept p log none) (hr : p.sdk[sdk]? = some r)
    (hl : (r.reported || r.closed) = false) (hsr : p.Serves sdk) :
    Kept ((p.setReported sdk r).onMrcpRecogCompleted r.channel).1
      (log ++ ((p.setReported sdk r).onMrcpRecogCompleted r.channel).2) none := by
  have hp := h.reported hr hl
  unfold Plugin.onMrcpRecogCompleted
  cases ht : p.stopped r.request with
  | true =>
    have hc : ((p.setReported sdk r).channel r.channel).ch = none :=
      (h.sdk r (mem_of_getElem? hr) hl).1 ht
    rw [if_pos ht] at hp
    rw [hc]
    exact hp
  | false =>
    rcases hsr r hr with hs | ⟨hc, hq⟩
    · exact absurd (ht.symm.trans hs) nofun
    · have hc' : ((p.setReported sdk r).channel r.channel).ch = some (p.sessionOf r.request) := hc
      have hq' : ((p.setReported sdk r).recogChannel (p.sessionOf r.request)).recogRequest = some r.request :=
        hq
      rw [if_neg (by simp [ht])] at hp
      simp only [hc', hq']
      exact hp.setChannel (Or.inr hc'.symm)

theorem Kept.recognitionCompleted (h : Kept p log none) (hsr : p.Serves sdk) :
    Kept (p.report sdk Plugin.onRecognitionCompleted).1
      (log ++ (p.report sdk Plugin.onRecognitionCompleted).2) none := by
  unfold Plugin.report
  cases hr : p.sdk[sdk]? with
  | none => exact h.silent
  | some r =>
    cases hs : r.reported || r.closed with
    | true => simpa [hs] using h
    | false =>
      simp only [hs, Bool.false_eq_true, if_false]
      exact (h.onMrcpRecogCompleted hr hs hsr).setChannel (Or.inr rfl)

theorem Kept.taskFailed (h : Kept p log none) (ho : Orderly ⟨p, log⟩ (.taskFailed sdk)) :
    Kept (p.report sdk Plugin.onTaskFailed).1 (log ++ (p.report sdk Plugin.onTaskFailed).2) none := by
  obtain ⟨hsr, hwr⟩ := ho
  unfold Plugin.report
  cases hr : p.sdk[sdk]? with
  | none => exact h.silent
  | some r =>
    cases hl : r.reported || r.closed with
    | true => simpa [hl] using h
    | false =>
      simp only [hl, Bool.false_eq_true, if_false]
      have hwr' : ((p.setReported sdk r).channel r.channel).isWork = (p.channel r.channel).isWork := rfl
      unfold Plugin.onTaskFailed
      cases hw : (p.channel r.channel).isWork with
      | true =>
        rw [hwr', hw, if_pos rfl]
        exact (h.onMrcpRecogCompleted hr hl hsr).setChannel (Or.inr rfl)
      | false =>
        have ht : p.stopped r.request := by
          rcases hwr r hr with hs | hs
          · exact hs
          · exact absurd (hw.symm.trans hs) nofun
        have hp := h.reported hr hl
        rw [if_pos ht] at hp
        rw [hwr', hw, if_neg nofun]
        exact hp.setChannel (Or.inr rfl)

theorem Kept.channelClosed (h : Kept p log none) (sdk : Nat) :
    Kept (p.onChannelClosed sdk).1 (log ++ (p.onChannelClosed sdk).2) none := by
  unfold Plugin.onChannelClosed
  cases hr : p.sdk[sdk]? with
  | none => exact h.silent
  | some r =>
    cases hl : r.closed with
    | true => simpa [hl] using h
    | false =>
      simp only [hl, Bool.false_eq_true, if_false]
      have hc : Kept (p.setChannel r.channel (p.channel r.channel).onChannelClosed) log none :=
        h.setChannel (Or.inl rfl)
      refine Kept.silent { hc with sdk := ?_, created := ?_, completes := ?_ }
      · intro r' hr' hs
        rcases mem_or_eq_of_mem_set hr' with hr' | rfl
        · exact hc.sdk r' hr' hs
        · exact absurd hs (by simp)
      · intro request
        have hcr := hc.created request
        show _ + (p.sdk.set sdk { r with closed := true }).countP _ ≤ _
        rw [countP_set_eq hr]
        exacts [hcr, rfl]
      · intro request hs
        rw [hc.completes request hs]
        refine (countP_set_eq hr ?_).symm
        rfl

end Recognitions

theorem kept_step {t : Trace} {input : Input} (h : Kept t.plugin t.log none) (ho : Orderly t input) :
    Kept (t.step input).1.plugin (t.step input).1.log none := by
  show Kept (t.plugin.step input).1 (t.log ++ (t.plugin.step input).2) none
  cases input with
  | request session method descriptor =>
    cases ht : t.plugin.engineTask with
    | some task => simpa [Plugin.step, ht] using h
    | none =>
      simp only [Plugin.step, ht, Option.isSome_none, Bool.false_eq_true, if_false]
      exact h.requestDispatch ht ho
  | engineTask pushed =>
    cases ht : t.plugin.engineTask with
    | none => simpa [Plugin.step, ht] using h
    | some task =>
      obtain ⟨request, stage⟩ := task
      simp only [Plugin.step, ht]
      exact h.recognizeProceed ht ho
  | streamWrite session activity => exact h.streamWrite session activity
  | streamClose session => exact h.streamClose ho
  | recogMain thread started => exact h.recogMain ho
  | resultChanged sdk => exact h.silent
  | recognitionCompleted sdk => exact h.recognitionCompleted ho
  | taskFailed sdk => exact h.taskFailed ho
  | channelClosed sdk => exact h.channelClosed sdk

/-- **In orderly runs every request is served as promised.** -/
theorem contract_of_orderly (maxChannels : Nat) (record : Bool) (inputs : List Input)
    (h : Lib.EachStep Trace.step Orderly (.initial maxChannels record) inputs) :
    Contract (Lib.run Trace.step (.initial maxChannels record) inputs).1 := by
  have hkept := Lib.run_invariant (fun t : Trace => Kept t.plugin t.log none) Orderly (fun _ _ => kept_step)
    (.initial maxChannels record) inputs (kept_initial maxChannels record) h
  exact hkept.contract

/-- Two sessions recognize on two channels of the pool; one recognition completes, the other one is stopped. -/
theorem contract_two_sessions : Contract (Lib.run Trace.step (.initial 2 false)
    [.request 0 .recognize true, .engineTask true, .engineTask true, .engineTask true, .recogMain 0 true,
      .request 1 .recognize true, .engineTask true, .recogMain 1 true, .engineTask true, .engineTask true,
      .streamWrite 0 true, .resultChanged 0, .recognitionCompleted 0, .channelClosed 0, .recogMain 0 true,
      .recogMain 0 true, .request 1 .stop true, .streamWrite 1 false, .channelClosed 1, .streamClose 0]).1 :=
  contract_of_orderly 2 false _ (by decide)

/-- A session ends without a recognition: the pointer that is read was never assigned. -/
theorem not_contract : ¬ Contract (Lib.run Trace.step (.initial 1 false) [.streamClose 0]).1 := by
  intro h
  exact h.noInvalidRead (by decide)

end UniMrcp.AliRecog
