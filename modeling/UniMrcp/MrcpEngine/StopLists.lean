import UniMrcp.Mrcp.ActiveRequestIds.Text
import UniMrcp.MrcpEngine.Recog
import UniMrcp.MrcpEngine.Served
import UniMrcp.MrcpEngine.Synth

/-!
# The Active-Request-Id-List of a STOP response

The response to STOP lists the in-progress request that was stopped and the pending requests that were removed.
-/

namespace UniMrcp.MrcpEngine

open Apt Mrcp List Option

variable {σ μ ε D : Type}

/-! ## The list of a header -/

/-- The values of the Active-Request-Id-List header fields that are generated for a header. -/
def activeRequestIdListTexts (header : MessageHeader D) : List Bytes :=
  (header.headerSection.ring.filter fun field => field.name = activeRequestIdListName).map HeaderField.value

/-- The header lists the request-ids, in some order; without request-ids, it has no list. -/
def Lists (header : MessageHeader D) (ids : List Nat) : Prop :=
  ∃ order : List Nat, order.Perm ids ∧ activeRequestIdListTexts header = if order = [] then [] else [idsText order]

/-- A header without an Active-Request-Id-List, as `mrcp_response_create` makes it. -/
structure NoList (header : MessageHeader D) : Prop where
  accessor : header.genericHeaderAccessor.isSome
  list : activeRequestIdList header = []
  entry : header.headerSection.arr[genericHeaderActiveRequestIdList]? = some none
  texts : activeRequestIdListTexts header = []

def IdsFit (ids : List Nat) : Prop :=
  ids.length ≤ maxActiveRequestIdCount ∧ (∀ id ∈ ids, id < 2 ^ 31) ∧ (ids = [] ∨ ∃ id ∈ ids, id < 10 ^ 9)

theorem noList_create (ops : HeaderOps D) : NoList ops.create := by
  have hs : ops.create.headerSection =
      ⟨[], List.replicate (genericHeaderCount + ops.resourceHeaderVTable.fieldCount) none⟩ := by
    simp [HeaderOps.create, messageHeaderDataAlloc, headerSectionArrayAlloc, genericHeaderVTable, genericHeaderCount,
      messageHeaderInit, headerSectionInit]
  refine ⟨rfl, rfl, ?_, ?_⟩
  · rw [hs]
    exact List.getElem?_replicate_of_lt (by simp only [genericHeaderActiveRequestIdList, genericHeaderCount]; omega)
  · simp [activeRequestIdListTexts, hs]

variable (header : MessageHeader D)

@[simp] theorem accessor_append (requestId : Nat) :
    (activeRequestIdListAppend header requestId).genericHeaderAccessor.isSome = header.genericHeaderAccessor.isSome := by
  simp [activeRequestIdListAppend, genericHeaderModify]

theorem activeRequestIdList_append {header : MessageHeader D} (h : header.genericHeaderAccessor.isSome)
    (requestId : Nat) : activeRequestIdList (activeRequestIdListAppend header requestId) =
      if maxActiveRequestIdCount ≤ (activeRequestIdList header).length then activeRequestIdList header
      else activeRequestIdList header ++ [requestId] := by
  obtain ⟨⟨vtable, generic⟩, hs⟩ := Option.isSome_iff_exists.1 h
  simp only [activeRequestIdList, activeRequestIdListAppend, genericHeaderModify, hs, map_some, getD_some]
  split_ifs <;> rfl

theorem foldl_activeRequestIdListAppend (removed : List (Message μ D)) (h : header.genericHeaderAccessor.isSome) :
    let appended := removed.foldl (fun header pending => activeRequestIdListAppend header pending.requestId) header
    appended.headerSection = header.headerSection ∧ appended.genericHeaderAccessor.isSome ∧
      ((activeRequestIdList header).length ≤ maxActiveRequestIdCount → activeRequestIdList appended =
        (activeRequestIdList header ++ removed.map Message.requestId).take maxActiveRequestIdCount) := by
  induction removed generalizing header with
  | nil =>
    refine ⟨rfl, h, fun hle => ?_⟩
    simp only [foldl_nil, map_nil, append_nil]
    exact (take_of_length_le hle).symm
  | cons pending removed ih =>
    obtain ⟨hs, hc, hl⟩ :=
      ih (activeRequestIdListAppend header pending.requestId) ((accessor_append _ _).trans h)
    refine ⟨hs, hc, fun hle => ?_⟩
    have ha := activeRequestIdList_append h pending.requestId
    simp only [foldl_cons, map_cons]
    split_ifs at ha with hf
    · rw [hl (by rw [ha]; exact hle), ha, take_append_of_le_length hf,
        take_append_of_le_length hf]
    · rw [hl (by rw [ha]; simp; omega), ha, append_assoc]
      rfl

theorem texts_add (ha : header.genericHeaderAccessor.isSome)
    (he : header.headerSection.arr[genericHeaderActiveRequestIdList]? = some none)
    (ht : activeRequestIdListTexts header = []) :
    activeRequestIdListTexts (activeRequestIdListAdd header) =
        [requestIdListGenerate (activeRequestIdList header)] ∧
      ∃ field, (activeRequestIdListAdd header).headerSection.arr[genericHeaderActiveRequestIdList]? = some (some field) := by
  obtain ⟨⟨vtable, generic⟩, hs⟩ := Option.isSome_iff_exists.1 ha
  have hl : genericHeaderActiveRequestIdList < header.headerSection.arr.length := by
    by_contra hl
    simp [List.getElem?_eq_none (not_lt.1 hl)] at he
  unfold activeRequestIdListTexts at ht ⊢
  simp only [activeRequestIdListAdd, hs, headerSectionFieldAdd, HeaderSection.entry, HeaderSection.setEntry,
    bind_some, he, activeRequestIdList, map_some, getD_some]
  refine ⟨?_, ?_⟩
  · rw [filter_append, map_append, ht]
    simp
  · simp [hl]

theorem headerSection_add {header : MessageHeader D} {field : HeaderField}
    (h : header.headerSection.arr[genericHeaderActiveRequestIdList]? = some (some field)) :
    (activeRequestIdListAdd header).headerSection = header.headerSection := by
  unfold activeRequestIdListAdd
  split
  · rfl
  · simp [headerSectionFieldAdd, HeaderSection.entry, h]

theorem accessor_add : (activeRequestIdListAdd header).genericHeaderAccessor = header.genericHeaderAccessor := by
  unfold activeRequestIdListAdd
  split <;> rfl

/-! ## The response to STOP -/

variable {response : Message μ D}

theorem lists_removed_iff (h : NoList response.header) (queue : List (Message μ D)) (request : Message μ D) :
    Lists (pendingRequestsRemove queue request response).response.header
        ((queue.filter (selected request)).map Message.requestId) ↔
      IdsFit ((queue.filter (selected request)).map Message.requestId) := by
  obtain ⟨hs, ha, hl⟩ := foldl_activeRequestIdListAppend response.header (queue.filter (selected request)) h.accessor
  unfold pendingRequestsRemove
  dsimp only
  set removed := queue.filter (selected request)
  set header := removed.foldl (fun header pending => activeRequestIdListAppend header pending.requestId) response.header
  have hi : activeRequestIdList header = (removed.map Message.requestId).take maxActiveRequestIdCount := by
    have := hl (by simp [h.list])
    rwa [h.list, nil_append] at this
  rcases eq_or_ne (removed.map Message.requestId) [] with hn | hne
  · have ht : activeRequestIdListTexts header = [] := by
      unfold activeRequestIdListTexts
      rw [hs]
      exact h.texts
    rw [hi, hn]
    simp [Lists, IdsFit, ht]
  · have hm : activeRequestIdList header ≠ [] := by
      rw [hi]
      simpa [take_eq_nil_iff, maxActiveRequestIdCount] using hne
    rw [if_neg hm]
    have ht : activeRequestIdListTexts (activeRequestIdListAdd header) =
        [requestIdListGenerate ((removed.map Message.requestId).take maxActiveRequestIdCount)] := by
      rw [← hi]
      refine (texts_add header ha (by rw [hs]; exact h.entry) ?_).1
      unfold activeRequestIdListTexts
      rw [hs]
      exact h.texts
    unfold Lists IdsFit
    rw [ht]
    simp only [hne, false_or]
    rw [← requestIdListGenerate_take_iff hne]
    constructor
    · rintro ⟨order, hp, hte⟩
      have ho : order ≠ [] := fun hn => hne (nil_perm.1 (hn ▸ hp))
      exact ⟨order, hp, by simpa [ho] using hte⟩
    · rintro ⟨order, hp, hte⟩
      have ho : order ≠ [] := fun hn => hne (nil_perm.1 (hn ▸ hp))
      exact ⟨order, hp, by simpa [ho] using hte⟩

theorem lists_stopped_iff (h : NoList response.header) (queue : List (Message μ D)) (request stopped : Message μ D) :
    Lists (pendingRequestsRemove queue request (activeRequestList response stopped)).response.header
        (stopped.requestId :: (queue.filter (selected request)).map Message.requestId) ↔
      queue.filter (selected request) = [] ∧ stopped.requestId < 10 ^ 9 := by
  have hi : activeRequestIdList (activeRequestIdListAppend response.header stopped.requestId) = [stopped.requestId] := by
    rw [activeRequestIdList_append h.accessor, h.list]
    rfl
  obtain ⟨hte, field, hf⟩ := texts_add (activeRequestIdListAppend response.header stopped.requestId)
    ((accessor_append _ _).trans h.accessor) h.entry h.texts
  rw [hi] at hte
  have ha : (activeRequestList response stopped).header.genericHeaderAccessor.isSome := by
    unfold activeRequestList
    rw [accessor_add, accessor_append]
    exact h.accessor
  obtain ⟨hs, -⟩ := foldl_activeRequestIdListAppend (activeRequestList response stopped).header
    (queue.filter (selected request))
    ha
  -- the field is there, and is not added again
  have hk : activeRequestIdListTexts
      (pendingRequestsRemove queue request (activeRequestList response stopped)).response.header =
        [requestIdListGenerate [stopped.requestId]] := by
    rw [← hte]
    unfold pendingRequestsRemove activeRequestIdListTexts
    dsimp only
    split_ifs
    · rw [hs]
      rfl
    · rw [headerSection_add (hs ▸ hf), hs]
      rfl
  unfold Lists
  rw [hk]
  constructor
  · rintro ⟨order, hp, ht⟩
    have ho : order ≠ [] := fun hn => cons_ne_nil _ _ (nil_perm.1 (hn ▸ hp))
    have ht : requestIdListGenerate [stopped.requestId] = idsText order := by simpa [ho] using ht
    -- the text has no comma
    have hr : queue.filter (selected request) = [] := by
      have hc := count_comma_requestIdListGenerate (cons_ne_nil stopped.requestId [])
      rw [ht, count_comma_idsText ho, hp.length_eq] at hc
      simpa using hc
    rw [hr] at hp
    obtain ⟨-, hh⟩ := (requestIdListGenerate_iff (cons_ne_nil _ _) (by simp [maxActiveRequestIdCount])).1
      ⟨order, hp, ht⟩
    exact ⟨hr, by simpa using hh⟩
  · rintro ⟨hr, hh⟩
    obtain ⟨order, hp, ht⟩ := (requestIdListGenerate_iff (cons_ne_nil stopped.requestId [])
      (by simp [maxActiveRequestIdCount])).2 ⟨by simp; omega, by simpa using hh⟩
    have ho : order ≠ [] := fun hn => cons_ne_nil _ _ (nil_perm.1 (hn ▸ hp))
    refine ⟨order, by simpa [hr] using hp, ?_⟩
    rw [if_neg ho, ht]

/-! ## The state machines -/

def removedOf (out : List (Output μ ε D)) : List (Message μ D) :=
  out.filterMap fun
    | .removePending message => some message
    | _ => none

theorem response_of_removed {removed : List (Message μ D)} {active : Bool} {response message : Message μ D}
    (h : Output.response message ∈ removed.map (Output.removePending (ε := ε)) ++
      if active then [.response response] else [.deactivated]) :
    message = response ∧ removedOf (removed.map (Output.removePending (ε := ε)) ++
      if active then [.response response] else [.deactivated]) = removed := by
  have hr : removedOf (removed.map (Output.removePending (ε := ε))) = removed := by
    simp [removedOf, filterMap_map]
  rcases mem_append.1 h with h | h
  · obtain ⟨_, _, h⟩ := mem_map.1 h
    cases h
  · cases active with
    | false => simp at h
    | true =>
      refine ⟨by simpa using h, ?_⟩
      unfold removedOf at hr ⊢
      rw [filterMap_append, hr]
      simp

/-- When the response to STOP lists the requests that were removed: at once, if they fit; when the engine responds, if
no pending one is removed. -/
def StopListsIff (M : StateMachine σ μ ε D) (stop : μ) (activeRequest inProgress : σ → Option (Message μ D))
    (queue : σ → List (Message μ D)) : Prop :=
  (∀ s message r response, message.methodId = some stop → M.requestUpdate s message = some r →
    Output.response response ∈ r.out →
    (Lists response.header ((removedOf r.out).map Message.requestId) ↔
      IdsFit (((queue s).filter (selected message)).map Message.requestId))) ∧
  ∀ s request message r response, activeRequest s = some request → message.methodId = some stop →
    NoList message.header → M.responseUpdate s message = some r → Output.response response ∈ r.out →
    (Lists response.header (((inProgress s).toList ++ removedOf r.out).map Message.requestId) ↔
      (queue s).filter (selected request) = [] ∧ ∀ stopped ∈ inProgress s, stopped.requestId < 10 ^ 9)

variable (ops : HeaderOps D)

theorem synth_stopListsIff : StopListsIff (synthStateMachine ops) .stop SynthStateMachine.activeRequest
    SynthStateMachine.speaker SynthStateMachine.queue := by
  constructor
  · intro s message r response ht hr hs
    have hr : methodUpdate (synthRequestMethod ops) s message = some r := hr
    simp only [methodUpdate, ht, synthRequestMethod, Option.some.injEq] at hr
    subst hr
    unfold synthRequestStop at hs ⊢
    split_ifs at hs ⊢
    · simp [synthRequestDispatch] at hs
    · obtain ⟨rfl, hm⟩ := response_of_removed hs
      exact (congrArg (fun removed => Lists _ (removed.map Message.requestId)) hm).to_iff.trans
        (lists_removed_iff (show NoList (responseCreate ops message).header from noList_create ops) s.queue message)
  · intro s request message r response ha ht hn hr hs
    have hr : responseStateUpdate SynthStateMachine.activeRequest (synthResponseMethod ops) s message = some r := hr
    unfold responseStateUpdate at hr
    rw [ha] at hr
    dsimp only at hr
    split_ifs at hr with hid
    · obtain rfl := Option.some.inj hr
      simp at hs
    · simp only [methodUpdate, ht, synthResponseMethod, synthResponseStop] at hr
      obtain ⟨speaker, hp, rfl⟩ := Option.map_eq_some_iff.1 hr
      obtain ⟨rfl, hm⟩ := response_of_removed hs
      refine (congrArg (fun removed => Lists _ ((s.speaker.toList ++ removed).map Message.requestId))
        hm).to_iff.trans ?_
      rw [hp]
      exact (lists_stopped_iff hn s.queue request speaker).trans (by simp)

theorem recog_stopListsIff : StopListsIff (recogStateMachine ops) .stop RecogStateMachine.activeRequest
    RecogStateMachine.recog RecogStateMachine.queue := by
  constructor
  · intro s message r response ht hr hs
    have hr : methodUpdate (recogRequestMethod ops) s message = some r := hr
    simp only [methodUpdate, ht, recogRequestMethod] at hr
    -- the queue is the same when a recognizer that has recognized is idle again
    have answered : ∀ s' : RecogStateMachine D, s'.queue = s.queue →
        r = (recogResponseDispatch { s' with queue := s'.queue.filter (!selected message ·) }
            (pendingRequestsRemove s'.queue message (responseCreate ops message)).response).precede
          ((s'.queue.filter (selected message)).map .removePending) →
        (Lists response.header ((removedOf r.out).map Message.requestId) ↔
          IdsFit ((s.queue.filter (selected message)).map Message.requestId)) := by
      rintro s' hq rfl
      obtain ⟨rfl, hm⟩ := response_of_removed hs
      refine (congrArg (fun removed => Lists _ (removed.map Message.requestId)) hm).to_iff.trans ?_
      rw [hq]
      exact lists_removed_iff (show NoList (responseCreate ops message).header from noList_create ops) s.queue message
    unfold recogRequestStop at hr
    split_ifs at hr
    · split at hr
      · obtain rfl := Option.some.inj hr
        simp [recogRequestDispatch] at hs
      · obtain ⟨recog, -, hr⟩ := Option.map_eq_some_iff.1 hr
        split_ifs at hr
        · subst hr
          simp [recogRequestDispatch] at hs
        · exact answered s rfl hr.symm
    · refine answered (recognizedReset s) ?_ (Option.some.inj hr).symm
      unfold recognizedReset
      split_ifs <;> rfl
  · intro s request message r response ha ht hn hr hs
    have hr : responseStateUpdate RecogStateMachine.activeRequest (recogResponseMethod ops) s message = some r := hr
    unfold responseStateUpdate at hr
    rw [ha] at hr
    dsimp only at hr
    split_ifs at hr with hid
    · obtain rfl := Option.some.inj hr
      simp at hs
    · simp only [methodUpdate, ht, recogResponseMethod, recogResponseStop] at hr
      obtain ⟨recog, hc, rfl⟩ := Option.map_eq_some_iff.1 hr
      obtain ⟨rfl, hm⟩ := response_of_removed hs
      refine (congrArg (fun removed => Lists _ ((s.recog.toList ++ removed).map Message.requestId)) hm).to_iff.trans ?_
      rw [hc]
      exact (lists_stopped_iff hn s.queue request recog).trans (by simp)

/-- **When the response to STOP lists what it should**, for the synthesizer and the recognizer in any state: if it is
sent at once, when the removed requests fit into the list and its text; if the engine responds without a list, when no
pending request is removed and the stopped one has less than ten digits. -/
theorem stop_lists_iff :
    StopListsIff (synthStateMachine ops) .stop SynthStateMachine.activeRequest SynthStateMachine.speaker
        SynthStateMachine.queue ∧
      StopListsIff (recogStateMachine ops) .stop RecogStateMachine.activeRequest RecogStateMachine.recog
        RecogStateMachine.queue :=
  ⟨synth_stopListsIff ops, recog_stopListsIff ops⟩

/-- The response of the engine to STOP request 3, as it is dispatched when request 1 is stopped. -/
def stopDispatched (queue : List (Message SynthMethod Unit)) : Message SynthMethod Unit :=
  (pendingRequestsRemove queue (plainRequest 3 .stop)
    (activeRequestList (plainMessage 3 .stop .complete 200) (plainRequest 1 .speak))).response

def stopAlone : List (Input SynthMethod SynthEvent Unit) :=
  [.client (plainRequest 1 .speak), .response (plainMessage 1 .speak .inProgress 200), .pop, .client (plainRequest 3 .stop)]

/-- The response lists request 1. -/
theorem stop_lists_alone : Lists (stopDispatched []).header [1] :=
  ((stop_lists_iff plainHeaderOps).1.2 (sessionAfter (synthStateMachine plainHeaderOps) stopAlone).machine
    (plainRequest 3 .stop) (plainMessage 3 .stop .complete 200) _ (stopDispatched []) rfl rfl (noList_create _) rfl
    (mem_append_right _ (mem_singleton.2 rfl))).2 (by decide +kernel)

/-- Request 1 is spoken, request 2 is pending, and STOP is sent to the engine. -/
def stopPending : List (Input SynthMethod SynthEvent Unit) :=
  [.client (plainRequest 1 .speak), .response (plainMessage 1 .speak .inProgress 200), .pop,
    .client (plainRequest 2 .speak), .pop, .client (plainRequest 3 .stop)]

/-- The response removes request 2, and does not list it. -/
theorem synth_stopPending : Legal (synthStateMachine plainHeaderOps) Conditions.none stopPending ∧
    ∃ r response, (synthStateMachine plainHeaderOps).responseUpdate
        (sessionAfter (synthStateMachine plainHeaderOps) stopPending).machine (plainMessage 3 .stop .complete 200) = some r ∧
      Output.response response ∈ r.out ∧ (removedOf r.out).map Message.requestId = [2] ∧ ¬ Lists response.header [1, 2] := by
  have hmem := mem_append_right ([{ plainRequest 2 SynthMethod.speak with requestState := .pending }].map
    (Output.removePending (ε := SynthEvent))) (mem_singleton.2 (rfl : Output.response (stopDispatched
      [{ plainRequest 2 .speak with requestState := .pending }]) = _))
  refine ⟨by decide +kernel, _, _, rfl, hmem, by decide +kernel, ?_⟩
  exact ((synth_stopListsIff plainHeaderOps).2 (sessionAfter (synthStateMachine plainHeaderOps) stopPending).machine
    (plainRequest 3 .stop) (plainMessage 3 .stop .complete 200) _ _ rfl rfl (noList_create _) rfl hmem).not.2
      (by decide +kernel)

end UniMrcp.MrcpEngine
