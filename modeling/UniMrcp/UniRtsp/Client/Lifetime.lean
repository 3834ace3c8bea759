import UniMrcp.UniRtsp.Client.Requests

/-!
# The life of sessions and connections

A termination is responded to once, and a connection destroyed once, with its last handle.
-/

namespace UniMrcp.UniRtsp

open Apt Lib List

variable {A : ClientProfile} {s t : Client} {id c : Nat}

/-- How often a session was told that it is terminated, by an event or a response. -/
def Client.told (s : Client) (id : Nat) : Nat :=
  s.log.count (.terminateEvent id) + s.log.count (.terminateResponse id)

/-- **The life of a session and its connection.** A termination is responded to once at most, with no resource left; the
connection is destroyed once, when it has no handle any more; and what was destroyed is not used. -/
structure Lifetime (s : Client) (id : Nat) : Prop where
  once : s.log.count (.terminateResponse id) ≤ 1
  responded : .terminateResponse id ∈ s.log →
    .terminated id ∈ s.log ∧ (s.session id).resourceTable.entries.length = 0
  awaited : .terminated id ∈ s.log → .terminateResponse id ∉ s.log →
    .terminate id ∈ s.signals ∨ (s.session id).termState ≠ .none ∧ (s.line id).outstanding.isSome
  owned : ∀ c, (s.session id).connection = some c → c = id
  destroyed : s.log.count (.connectionDestroyed id) =
    if (s.session id).connection.isSome ∧ (s.connection id).handleTable = [] then 1 else 0
  untouched : .fault id ∉ s.log

/-- **The condition**: the session table of a connection that is lost has the sessions of its handle table. -/
def Client.registered (s : Client) : ClientInput → Bool
  | .disconnect c => (s.connection c).handleTable.all fun id => (s.connection c).sessionTable.entries.any (·.2 == id)
  | _ => true

/-- **A disconnect** ends with one terminate event or terminate response for every session of the handle table. -/
def Informed (A : ClientProfile) (s : Client) : ClientInput → Prop
  | .disconnect c =>
    ∀ id ∈ (s.connection c).handleTable, (s.step A (.disconnect c)).1.told id = s.told id + 1
  | _ => True

instance (A : ClientProfile) (s : Client) : ∀ input, Decidable (Informed A s input)
  | .disconnect c => inferInstanceAs (Decidable (∀ id ∈ (s.connection c).handleTable, _))
  | .create .. | .request .. | .terminate _ | .process | .receive .. | .timeout _ => isTrue trivial

theorem count_seen (s : Client) (event : ClientEvent) (h : event.about = id) :
    (s.seen id).count event = s.log.count event :=
  count_filter (beq_iff_eq.2 h)

theorem mem_seen (s : Client) (event : ClientEvent) (h : event.about = id) : event ∈ s.seen id ↔ event ∈ s.log := by
  unfold Client.seen
  rw [mem_filter, and_iff_left (beq_iff_eq.2 h)]

theorem Kept.lifetime (h : Kept s id) : Lifetime s id := by
  have hr : s.log.count (.terminateResponse id) = (s.session id).destroyed.toNat := by
    rw [← count_seen s (.terminateResponse id) rfl]
    exact h.coherent.responses
  have hrs : .terminateResponse id ∈ s.log ↔ (s.session id).destroyed := by
    rw [← count_pos_iff, hr]
    cases (s.session id).destroyed <;> decide
  have ht : .terminated id ∈ s.log ↔ (s.session id).closing := by
    rw [← mem_seen s (.terminated id) rfl]
    exact h.coherent.terminated
  refine ⟨?_, ?_, ?_, h.coherent.owned, ?_, ?_⟩
  · rw [hr]
    exact Bool.toNat_le _
  · intro hm
    obtain ⟨hb, hc⟩ := h.coherent.gone (hrs.1 hm)
    exact ⟨ht.2 hc, length_eq_zero_iff.2 hb⟩
  · intro hm hnt
    have hc := ht.1 hm
    have hth : (s.session id).destroyed ≠ true := fun hco => hnt (hrs.2 hco)
    have hst := h.stage
    have hg : ∀ signal ∈ s.waiting id, signal ∈ s.signals := fun signal hsi => (mem_filter.1 hsi).1
    generalize s.waiting id = signals at hst hg
    cases hst with
    | asking ho => cases hc.symm.trans ho
    | leaving => exact Or.inl (hg _ (mem_append_right _ (mem_singleton_self _)))
    | ending _ he =>
      have hs := he.resolve_right hth
      exact Or.inr ⟨hs, by rw [h.coherent.outstanding]; exact h.rests.ending hs⟩
  · have hd : s.log.count (.connectionDestroyed id) = (s.connection id).destroyed.toNat := by
      rw [← count_seen s (.connectionDestroyed id) rfl]
      exact h.coherent.destructions
    have hde : (s.connection id).destroyed = ((s.session id).destroyed && (s.session id).connection.isSome) :=
      h.coherent.destroyed
    rw [hd, hde]
    cases hn : (s.session id).connection with
    | none => simp
    | some c =>
      obtain rfl := h.coherent.owned c hn
      have hh := h.coherent.handles hn
      rw [Client.line_connection, Client.line_session] at hh
      rw [hh]
      cases (s.session c).destroyed <;> simp
  · rw [← mem_seen s (.fault id) rfl]
    exact h.coherent.fault

theorem onDisconnect_told (h : Kept s c) (hs : (s.connection c).sock)
    (hq : (s.connection c).inprogressRequestQueue = []) (hg : s.registered (.disconnect c)) :
    ∀ id ∈ (s.connection c).handleTable, (s.step A (.disconnect c)).1.told id = s.told id + 1 := by
  intro id hid
  obtain ⟨hm, ht⟩ := h.coherent.opened hs
  obtain rfl : id = c := by
    have hh := h.coherent.handles hm
    rw [Client.line_connection, Client.line_session, ht] at hh
    rw [hh] at hid
    exact mem_singleton.1 hid
  have hn : (s.connection id).sessionTable.entries ≠ [] := by
    intro hc
    have ha := all_eq_true.1 hg id hid
    rw [hc] at ha
    cases ha
  obtain ⟨-, hl⟩ := onDisconnect_line (A := A) h.coherent h.rests hs hq
  rw [if_neg hn] at hl
  have hsn : (s.step A (.disconnect id)).1.seen id = s.seen id ++ [.lost id] ++ [.terminateEvent id] :=
    congrArg ClientLine.seen hl
  have he (t : Client) : (t.seen id).count (.terminateEvent id) = t.log.count (.terminateEvent id) :=
    count_seen t _ rfl
  have hr (t : Client) : (t.seen id).count (.terminateResponse id) = t.log.count (.terminateResponse id) :=
    count_seen t _ rfl
  unfold Client.told
  rw [← he, ← he, ← hr, ← hr, hsn]
  simp only [count_append, count_singleton_self, count_singleton, beq_iff_eq, reduceCtorEq, if_false]
  omega

theorem step_informed (h : ∀ id, Kept s id) {input : ClientInput} (he : s.enabled input)
    (hc : s.calm input) (hr : s.registered input) : Informed A s input := by
  cases input with
  | disconnect c => exact onDisconnect_told (h c) he (isEmpty_iff.1 hc) hr
  | _ => trivial

/-- **The life of sessions and connections.** In every run of the client with an application that keeps its contract,
whose disconnects meet the condition, sessions and connections live as they should. -/
theorem client_lifetime (A : ClientProfile) (inputs : List ClientInput)
    (h : EachStep (Client.step A)
      (fun s input => s.enabled input = true ∧ s.calm input ∧ s.registered input) {} inputs) :
    (∀ id, Lifetime (run (Client.step A) {} inputs).1 id) ∧ EachStep (Client.step A) (Informed A) {} inputs := by
  constructor
  · intro id
    have hcalm : EachStep (Client.step A) (fun s input => s.enabled input = true ∧ s.calm input) {} inputs :=
      eachStep_mono (fun _ _ hstep => ⟨hstep.1, hstep.2.1⟩) h
    exact (kept_run hcalm id).lifetime
  · exact eachStep_of_invariant (fun s => ∀ id, Kept s id) _ _
      (fun _ _ hs hstep => step_kept hs hstep.1 hstep.2.1)
      (fun _ _ hs hstep => step_informed hs hstep.1 hstep.2.1 hstep.2.2) _ _ kept_start h

/-- A session is terminated, once while a request is in progress; another one is told that its connection is lost, and
terminated. -/
def wholeSessions : List ClientInput :=
  [.create (ascii "10.0.0.1") 554 (ascii "media"), .request 0 setupRequest, .process, .terminate 0, .process,
    .receive 0 [serverResponse 1], .receive 0 [serverResponse 2], .create (ascii "10.0.0.2") 554 [],
    .request 1 setupRequest, .process, .receive 1 [serverResponse 1], .disconnect 1, .terminate 1, .process]

theorem lifetime_wholeSessions :
    (∀ id, Lifetime (run (Client.step {}) {} wholeSessions).1 id) ∧
      EachStep (Client.step {}) (Informed {}) {} wholeSessions :=
  client_lifetime {} wholeSessions (by decide)

/-- The peer disconnects while a request is in progress, and then the session is terminated. -/
def lostSession : List ClientInput :=
  [.create (ascii "10.0.0.1") 554 (ascii "media"), .request 0 setupRequest, .process, .disconnect 0, .terminate 0,
    .process]

/-- A request is answered by a server that does not set up the resource, and the peer disconnects. -/
def unnamedSession : List ClientInput :=
  [.create (ascii "10.0.0.1") 554 (ascii "media"), .request 0 setupRequest, .process,
    .receive 0 [{ serverResponse 1 with startLine := .response .v1 Status.notFound.code (ascii "Not Found") }],
    .disconnect 0]

/-- **A session that is terminated after its connection was lost with a request in progress is not responded to**, and
waits for nothing; and one without an identifier is not told of the loss. -/
theorem not_lifetime_disconnected :
    (EachStep (Client.step {}) (fun s input => s.enabled input = true) {} lostSession ∧
        ¬ Lifetime (run (Client.step {}) {} lostSession).1 0 ∧
        ¬ EachStep (Client.step {}) (Informed {}) {} lostSession) ∧
      EachStep (Client.step {}) (fun s input => s.enabled input = true ∧ s.calm input) {} unnamedSession ∧
      ¬ EachStep (Client.step {}) (Informed {}) {} unnamedSession := by
  refine ⟨⟨by decide, fun h => ?_, by decide⟩, by decide, by decide⟩
  rcases h.awaited (by decide) (by decide) with hsignal | ⟨-, houtstanding⟩
  · exact absurd hsignal (by decide)
  · exact absurd houtstanding (by decide)

end UniMrcp.UniRtsp
