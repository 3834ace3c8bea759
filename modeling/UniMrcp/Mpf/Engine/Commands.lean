import UniMrcp.Mpf.Context.Counters

/-!
# The commands of the media engine

The engine processes the commands of a session in the order in which they were sent, and answers each with a status
code (`mpf_engine_msg_process`). What the handlers of a termination do with its descriptor is not followed.
-/

namespace UniMrcp.Mpf

open Lib List MpfContext

variable {τ : Type} [DecidableEq τ]

/-- `mpf_command_type_e`, with the terminations. -/
inductive MpfCommand (τ : Type) where
  | addTermination (t : τ)
  | modifyTermination (t : τ)
  | subtractTermination (t : τ)
  | addAssociation (t : τ) (u : Option τ)
  | removeAssociation (t : τ) (u : Option τ)
  | resetAssociations
  | applyTopology
  | destroyTopology
  deriving DecidableEq

/-- `mpf_status_code_e` -/
inductive MpfStatusCode where
  | success
  | failure
  deriving DecidableEq

/-- `mpf_message_t` of a response. -/
structure MpfResponse (τ : Type) where
  command : MpfCommand τ
  statusCode : MpfStatusCode
  deriving DecidableEq

def mpfStatusCode (status : Bool) : MpfStatusCode := if status then .success else .failure

/-- `mpf_engine_msg_process`, for one message. An association with a null termination is not followed. -/
def mpfEngineMsgProcess (found : Converters τ) (s : MpfMedia τ) (command : MpfCommand τ) : MpfMedia τ × MpfResponse τ :=
  match command with
  | .addTermination t =>
    let r := mpfContextTerminationAdd s t
    (r.1, ⟨command, mpfStatusCode r.2⟩)
  | .modifyTermination _ => (s, ⟨command, .success⟩)
  | .subtractTermination t =>
    let r := mpfContextTerminationSubtract s t
    (r.1, ⟨command, mpfStatusCode r.2⟩)
  | .addAssociation t u => (u.elim s fun u => (mpfContextAssociationAdd s t u).1, ⟨command, .success⟩)
  | .removeAssociation t u => (u.elim s fun u => (mpfContextAssociationRemove s t u).1, ⟨command, .success⟩)
  | .resetAssociations => (mpfContextAssociationsReset s, ⟨command, .success⟩)
  | .applyTopology => (mpfContextTopologyApply found s, ⟨command, .success⟩)
  | .destroyTopology => ({ s with context := mpfContextTopologyDestroy s.context }, ⟨command, .success⟩)

def MpfCommand.isAdd : MpfCommand τ → Bool
  | .addTermination _ => true
  | _ => false

def MpfCommand.isSubtract : MpfCommand τ → Bool
  | .subtractTermination _ => true
  | _ => false

/-! ## Slots -/

structure MpfMedia.SameSlots (s s' : MpfMedia τ) : Prop where
  capacity : s'.context.capacity = s.context.capacity
  termination : ∀ i, (s'.context.header i).termination = (s.context.header i).termination
  slot : s'.slot = s.slot

section Slots

variable {s s' : MpfMedia τ} {c : MpfContext τ} {t u : τ} {i : ℕ}

omit [DecidableEq τ] in
theorem sameSlots_refl (s : MpfMedia τ) : s.SameSlots s := ⟨rfl, fun _ => rfl, rfl⟩

omit [DecidableEq τ] in
theorem sameSlots_of_sheds (h : MpfContext.Sheds s.context c) : s.SameSlots { s with context := c } :=
  ⟨h.capacity, h.termination, rfl⟩

omit [DecidableEq τ] in
theorem sheds_loopOccupied {body : MpfContext τ → ℕ → MpfContext τ} (h : ∀ c i, MpfContext.Sheds c (body c i))
    (is : List ℕ) (c : MpfContext τ) :
    MpfContext.Sheds c (loopOccupied MpfContext.occupied MpfContext.count body is 0 c) :=
  loopOccupied_invariant (fun c' => MpfContext.Sheds c c') (fun c' i hc' => hc'.trans (h c' i)) is 0
    (MpfContext.Sheds.refl c)

theorem sameSlots_associationAdd : s.SameSlots (mpfContextAssociationAdd s t u).1 := by
  rw [mpfContextAssociationAdd]
  split
  · obtain ⟨hc, -, -, ht⟩ := switchOn_same s.context (s.slot t) (s.slot u)
      (streamDirectionCompatibilityCheck (s.audioStream t) (s.audioStream u))
    obtain ⟨hc', -, -, ht'⟩ := switchOn_same (s.context.switchOn (s.slot t) (s.slot u)
      (streamDirectionCompatibilityCheck (s.audioStream t) (s.audioStream u))) (s.slot u) (s.slot t)
      (streamDirectionCompatibilityCheck (s.audioStream u) (s.audioStream t))
    exact ⟨hc'.trans hc, fun i => (ht' i).trans (ht i), rfl⟩
  · exact sameSlots_refl s

theorem sameSlots_associationRemove : s.SameSlots (mpfContextAssociationRemove s t u).1 := by
  rw [mpfContextAssociationRemove]
  split
  · exact sameSlots_of_sheds (sheds_dissociate _ _ _)
  · exact sameSlots_refl s

omit [DecidableEq τ] in
theorem sameSlots_associationsReset : s.SameSlots (mpfContextAssociationsReset s) := by
  have hs := sheds_loopOccupied sheds_resetSlot (List.range s.context.capacity)
    (mpfContextTopologyDestroy s.context)
  exact ⟨hs.capacity, hs.termination, rfl⟩

variable (found : Converters τ)

omit [DecidableEq τ] in
theorem sameSlots_topologyApply : s.SameSlots (mpfContextTopologyApply found s) := by
  apply loopOccupied_invariant (fun s' => s.SameSlots s')
  · exact fun s' i h => ⟨h.capacity, h.termination, h.slot⟩
  · exact ⟨rfl, fun _ => rfl, rfl⟩

variable {command : MpfCommand τ}

theorem sameSlots_process (s : MpfMedia τ) (ha : command.isAdd = false) (hs : command.isSubtract = false) :
    s.SameSlots (mpfEngineMsgProcess found s command).1 ∧
      (mpfEngineMsgProcess found s command).2.statusCode = .success := by
  cases command with
  | addTermination t => cases ha
  | subtractTermination t => cases hs
  | modifyTermination t => exact ⟨sameSlots_refl s, rfl⟩
  | addAssociation t u =>
    cases u with
    | none => exact ⟨sameSlots_refl s, rfl⟩
    | some u => exact ⟨sameSlots_associationAdd, rfl⟩
  | removeAssociation t u =>
    cases u with
    | none => exact ⟨sameSlots_refl s, rfl⟩
    | some u => exact ⟨sameSlots_associationRemove, rfl⟩
  | resetAssociations => exact ⟨sameSlots_associationsReset, rfl⟩
  | applyTopology => exact ⟨sameSlots_topologyApply found, rfl⟩
  | destroyTopology => exact ⟨⟨rfl, fun _ => rfl, rfl⟩, rfl⟩

theorem terminationAdd_cases (s : MpfMedia τ) (t : τ) :
    (∃ i < s.context.capacity, s.context.occupied i = false ∧ (mpfContextTerminationAdd s t).2 ∧
      (mpfContextTerminationAdd s t).1.context.capacity = s.context.capacity ∧
      (mpfContextTerminationAdd s t).1.context.header = Function.update s.context.header i ⟨some t, 0, 0⟩ ∧
      (mpfContextTerminationAdd s t).1.slot = Function.update s.slot t i) ∨
    (s.context.occupiedCount = s.context.capacity ∧ mpfContextTerminationAdd s t = (s, false)) := by
  cases hf : (List.range s.context.capacity).find? fun i => !s.context.occupied i with
  | some i =>
    refine Or.inl ⟨i, mem_range.1 (mem_of_find?_eq_some hf), ?_, ?_⟩
    · simpa using List.find?_some hf
    · rw [mpfContextTerminationAdd, hf]
      exact ⟨rfl, rfl, rfl, rfl⟩
  | none =>
    refine Or.inr ⟨?_, ?_⟩
    · have ha : ∀ i ∈ List.range s.context.capacity, s.context.occupied i := by
        simpa using List.find?_eq_none.1 hf
      rw [occupiedCount_eq_length, filter_eq_self.2 ha, length_range]
    · rw [mpfContextTerminationAdd, hf]

theorem terminationSubtract_cases (s : MpfMedia τ) (t : τ) :
    ((s.slot t < s.context.capacity ∧ (s.context.header (s.slot t)).termination = some t) ∧
      (mpfContextTerminationSubtract s t).2 = true ∧
      (mpfContextTerminationSubtract s t).1.context.capacity = s.context.capacity ∧
      (∀ i, ((mpfContextTerminationSubtract s t).1.context.header i).termination =
        if i = s.slot t then none else (s.context.header i).termination) ∧
      (mpfContextTerminationSubtract s t).1.slot = Function.update s.slot t noSlot) ∨
    (¬ (s.slot t < s.context.capacity ∧ (s.context.header (s.slot t)).termination = some t) ∧
      mpfContextTerminationSubtract s t = (s, false)) := by
  by_cases hs : s.context.capacity ≤ s.slot t
  · refine Or.inr ⟨fun h => ?_, ?_⟩
    · omega
    · rw [mpfContextTerminationSubtract]
      exact if_pos hs
  · by_cases ht : (s.context.header (s.slot t)).termination = some t
    · have hh := sheds_loopOccupied (sheds_dissociate (s.slot t)) (List.range s.context.capacity)
        s.context
      have hr : mpfContextTerminationSubtract s t = _ := if_neg hs
      rw [if_neg (not_not.2 ht)] at hr
      refine Or.inl ⟨⟨by omega, ht⟩, ?_⟩
      rw [hr]
      refine ⟨rfl, hh.capacity, fun i => ?_, rfl⟩
      by_cases hi : i = s.slot t
      · simp [hi]
      · simpa [hi] using hh.termination i
    · refine Or.inr ⟨fun h => ht h.2, ?_⟩
      rw [mpfContextTerminationSubtract]
      exact (if_neg hs).trans (if_pos ht)

/-! ## Room -/

omit [DecidableEq τ] in
theorem occupiedCount_mono {c c' : MpfContext τ} (hc : c'.capacity = c.capacity)
    (h : ∀ i, c'.occupied i → c.occupied i) : c'.occupiedCount ≤ c.occupiedCount := by
  rw [MpfContext.occupiedCount, MpfContext.occupiedCount, MpfContext.slots, MpfContext.slots, hc]
  apply Finset.card_le_card
  intro i hi
  obtain ⟨hi, ho⟩ := Finset.mem_filter.1 hi
  exact Finset.mem_filter.2 ⟨hi, h i ho⟩

theorem occupiedCount_process_le (s : MpfMedia τ) (command : MpfCommand τ) :
    (mpfEngineMsgProcess found s command).1.context.capacity = s.context.capacity ∧
      (mpfEngineMsgProcess found s command).1.context.occupiedCount ≤
        s.context.occupiedCount + if command.isAdd then 1 else 0 := by
  by_cases ho : command.isAdd = false ∧ command.isSubtract = false
  · have hs := (sameSlots_process found s ho.1 ho.2).1
    refine ⟨hs.capacity, (occupiedCount_mono hs.capacity fun i hi => ?_).trans (Nat.le_add_right _ _)⟩
    rwa [MpfContext.occupied, hs.termination] at hi
  · cases command with
    | addTermination t =>
      rcases terminationAdd_cases s t with ⟨i, hi, hf, -, hc, hh, -⟩ | ⟨-, h⟩
      · have hoc (a : ℕ) : (mpfContextTerminationAdd s t).1.context.occupied a ↔
            a = i ∨ s.context.occupied a := by
          by_cases ha : a = i
          · simp [MpfContext.occupied, hh, ha]
          · simp [MpfContext.occupied, hh, ha]
        exact ⟨hc, (occupiedCount_succ hc hi (by simp [hf]) hoc).le⟩
      · rw [mpfEngineMsgProcess, h]
        exact ⟨rfl, Nat.le_add_right _ _⟩
    | subtractTermination t =>
      rcases terminationSubtract_cases s t with ⟨-, -, hc, ht, -⟩ | ⟨-, hl⟩
      · refine ⟨hc, occupiedCount_mono hc fun i hi => ?_⟩
        change ((mpfContextTerminationSubtract s t).1.context.header i).termination.isSome = true at hi
        rw [ht] at hi
        split at hi
        · cases hi
        · exact hi
      · rw [mpfEngineMsgProcess, hl]
        exact ⟨rfl, Nat.le_add_right _ _⟩
    | _ => exact absurd ⟨rfl, rfl⟩ ho

theorem occupiedCount_run_le (s : MpfMedia τ) (commands : List (MpfCommand τ)) :
    (run (mpfEngineMsgProcess found) s commands).1.context.capacity = s.context.capacity ∧
      (run (mpfEngineMsgProcess found) s commands).1.context.occupiedCount ≤
        s.context.occupiedCount + commands.countP MpfCommand.isAdd := by
  induction commands generalizing s with
  | nil => exact ⟨rfl, Nat.le_refl _⟩
  | cons command commands ih =>
    obtain ⟨hc, hn⟩ := occupiedCount_process_le found s command
    obtain ⟨hc', hn'⟩ := ih (mpfEngineMsgProcess found s command).1
    refine ⟨hc'.trans hc, ?_⟩
    rw [run_cons, countP_cons]
    dsimp only
    omega

theorem statusCode_process (hr : command.isAdd → s.context.occupiedCount < s.context.capacity)
    (hs : command.isSubtract = false) : (mpfEngineMsgProcess found s command).2.statusCode = .success := by
  by_cases ha : command.isAdd = false
  · exact (sameSlots_process found s ha hs).2
  · cases command with
    | addTermination t =>
      rcases terminationAdd_cases s t with ⟨i, -, -, ht, -⟩ | ⟨hf, -⟩
      · exact if_pos ht
      · have := hr rfl
        omega
    | _ => exact absurd rfl ha

def MpfMedia.InSlot (s : MpfMedia τ) (t : τ) : Prop :=
  s.slot t < s.context.capacity ∧ (s.context.header (s.slot t)).termination = some t

theorem inSlot_process (h : s.InSlot t) (hm : command ≠ .subtractTermination t) :
    (mpfEngineMsgProcess found s command).1.InSlot t := by
  obtain ⟨hlt, ht⟩ := h
  by_cases ho : command.isAdd = false ∧ command.isSubtract = false
  · have hs := (sameSlots_process found s ho.1 ho.2).1
    rw [MpfMedia.InSlot, hs.slot, hs.capacity, hs.termination]
    exact ⟨hlt, ht⟩
  · cases command with
    | addTermination u =>
      rcases terminationAdd_cases s u with ⟨i, hi, hf, -, hc, hh, hl⟩ | ⟨-, hfu⟩
      · change (mpfContextTerminationAdd s u).1.InSlot t
        rw [MpfMedia.InSlot, hc, hh, hl]
        by_cases htu : t = u
        · subst htu
          simp [hi]
        · have hne : s.slot t ≠ i := by
            rintro rfl
            rw [occupied_of_termination ht] at hf
            cases hf
          simp [htu, hne, hlt, ht]
      · rw [mpfEngineMsgProcess, hfu]
        exact ⟨hlt, ht⟩
    | subtractTermination u =>
      have htu : t ≠ u := fun e => hm (e ▸ rfl)
      rcases terminationSubtract_cases s u with ⟨⟨-, hu⟩, -, hc, hte, hl⟩ | ⟨-, hfl⟩
      · have hne : s.slot t ≠ s.slot u := by
          intro e
          rw [e, hu] at ht
          exact htu (Option.some.inj ht).symm
        change (mpfContextTerminationSubtract s u).1.InSlot t
        rw [MpfMedia.InSlot, hc, hte, hl, Function.update_of_ne htu, if_neg hne]
        exact ⟨hlt, ht⟩
      · rw [mpfEngineMsgProcess, hfl]
        exact ⟨hlt, ht⟩
    | _ => exact absurd ⟨rfl, rfl⟩ ho

theorem inSlot_add (hr : s.context.occupiedCount < s.context.capacity) (t : τ) :
    (mpfEngineMsgProcess found s (.addTermination t)).1.InSlot t := by
  rcases terminationAdd_cases s t with ⟨i, hi, -, -, hc, hh, hs⟩ | ⟨hf, -⟩
  · change (mpfContextTerminationAdd s t).1.InSlot t
    rw [MpfMedia.InSlot, hc, hh, hs]
    simp [hi]
  · omega

theorem statusCode_subtract (h : s.InSlot t) :
    (mpfEngineMsgProcess found s (.subtractTermination t)).2.statusCode = .success := by
  rcases terminationSubtract_cases s t with ⟨-, hs, -⟩ | ⟨hn, -⟩
  · exact if_pos hs
  · exact absurd h hn

end Slots

/-! ## Runs -/

def SubtractsOnce (commands : List (MpfCommand τ)) : Prop :=
  ∀ before t after, commands = before ++ .subtractTermination t :: after →
    .addTermination t ∈ before ∧ .subtractTermination t ∉ before

omit [DecidableEq τ] in
theorem subtractsOnce_append_one {commands : List (MpfCommand τ)} {command : MpfCommand τ}
    (h : SubtractsOnce commands) (hc : ∀ t, command = .subtractTermination t →
      .addTermination t ∈ commands ∧ .subtractTermination t ∉ commands) : SubtractsOnce (commands ++ [command]) := by
  intro before t after heq
  rcases eq_nil_or_concat after with rfl | ⟨after, last, rfl⟩
  · obtain ⟨rfl, hl⟩ := append_inj' heq rfl
    exact hc t (singleton_inj.1 hl)
  · rw [concat_eq_append, ← cons_append, ← append_assoc] at heq
    exact h before t after (append_inj' heq rfl).1

/-- What the creation of media objects finds, and the slots and audio streams of terminations before they are added. -/
structure MediaEngine (τ : Type) where
  found : Converters τ
  slot : τ → ℕ
  audioStream : τ → Option StreamDirection

namespace MediaEngine

variable (E : MediaEngine τ) (capacity : ℕ)

def process (commands : List (MpfCommand τ)) : MpfMedia τ × List (MpfResponse τ) :=
  run (mpfEngineMsgProcess E.found) ⟨mpfContextCreate capacity, E.slot, E.audioStream⟩ commands

def responses (commands : List (MpfCommand τ)) : List (MpfResponse τ) := (E.process capacity commands).2

variable {capacity}

variable {commands : List (MpfCommand τ)}

theorem room_process (h : commands.countP MpfCommand.isAdd < capacity) :
    (E.process capacity commands).1.context.occupiedCount < (E.process capacity commands).1.context.capacity := by
  have hr := occupiedCount_run_le E.found ⟨mpfContextCreate capacity, E.slot, E.audioStream⟩ commands
  have he : (mpfContextCreate capacity : MpfContext τ).occupiedCount = 0 :=
    Finset.card_filter_eq_zero_iff.2 fun i _ h => Bool.noConfusion h
  change (E.process capacity commands).1.context.capacity = capacity ∧
    (E.process capacity commands).1.context.occupiedCount ≤ (mpfContextCreate capacity : MpfContext τ).occupiedCount +
      commands.countP MpfCommand.isAdd at hr
  omega

theorem response_command (s : MpfMedia τ) (command : MpfCommand τ) :
    (mpfEngineMsgProcess E.found s command).2.command = command := by cases command <;> rfl

theorem response_cases (h : commands.countP MpfCommand.isAdd ≤ capacity) {response : MpfResponse τ}
    (hm : response ∈ E.responses capacity commands) :
    ∃ before after, commands = before ++ response.command :: after ∧
      (response.command.isAdd → before.countP MpfCommand.isAdd < capacity) ∧
      response.statusCode =
        (mpfEngineMsgProcess E.found (E.process capacity before).1 response.command).2.statusCode := by
  obtain ⟨before, command, after, rfl, rfl⟩ := exists_of_mem_run _ hm
  rw [response_command]
  refine ⟨before, after, rfl, fun ha => ?_, rfl⟩
  rw [countP_append, countP_cons_of_pos ha] at h
  omega

theorem responses_failure (h : commands.countP MpfCommand.isAdd ≤ capacity) :
    ∀ response ∈ E.responses capacity commands,
      response.statusCode = .failure → response.command.isSubtract := by
  intro response hm hf
  obtain ⟨before, after, rfl, hb, hs⟩ := E.response_cases h hm
  by_contra hsb
  rw [statusCode_process E.found (fun ha => E.room_process (hb ha)) (by simpa using hsb),
    hf] at hs
  cases hs

theorem inSlot_of_added {t : τ} (h : commands.countP MpfCommand.isAdd ≤ capacity)
    (ha : .addTermination t ∈ commands) (hs : .subtractTermination t ∉ commands) :
    (E.process capacity commands).1.InSlot t := by
  induction commands using List.reverseRecOn with
  | nil => cases ha
  | append_singleton commands command ih =>
    rw [countP_append, countP_singleton] at h
    rw [process, run_append]
    by_cases hl : command = .addTermination t
    · subst hl
      rw [MpfCommand.isAdd, if_pos rfl] at h
      exact inSlot_add E.found (E.room_process (by omega)) t
    · have hm : .addTermination t ∈ commands := by
        rcases mem_append.1 ha with hm | hm
        · exact hm
        · exact absurd (mem_singleton.1 hm).symm hl
      apply inSlot_process E.found (ih (by omega) hm fun hm => hs (mem_append_left _ hm))
      rintro rfl
      exact hs (mem_append_right _ (mem_singleton_self _))

theorem responses_success (h : commands.countP MpfCommand.isAdd ≤ capacity) (ho : SubtractsOnce commands) :
    ∀ response ∈ E.responses capacity commands,
      response.statusCode = .success := by
  intro response hm
  obtain ⟨before, after, heq, hb, hst⟩ := E.response_cases h hm
  rw [hst]
  by_cases hs : response.command.isSubtract = false
  · exact statusCode_process E.found (fun ha => E.room_process (hb ha)) hs
  · have ht : ∃ t, response.command = .subtractTermination t := by
      cases hc : response.command with
      | subtractTermination t => exact ⟨t, rfl⟩
      | _ =>
        rw [hc] at hs
        exact absurd rfl hs
    obtain ⟨t, ht⟩ := ht
    rw [ht] at heq ⊢
    obtain ⟨ha, hn⟩ := ho before t after heq
    apply statusCode_subtract
    refine E.inSlot_of_added ?_ ha hn
    rw [heq, countP_append] at h
    omega

end MediaEngine

end UniMrcp.Mpf
