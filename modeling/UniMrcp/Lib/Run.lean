import Mathlib.Algebra.BigOperators.Group.List.Basic
import Mathlib.Algebra.Ring.Nat
import Mathlib.Data.List.Forall2

/-!
# Runs of a deterministic machine

A machine is a function `step : σ → ι → σ × ο`: it reads one input, changes its state and puts out one output.
-/

namespace UniMrcp.Lib

open List

section Run

variable {σ ι ο : Type*} (step : σ → ι → σ × ο)

/-- The state reached from `s` on a list of inputs, with the outputs in order. -/
def run : σ → List ι → σ × List ο
  | s, [] => (s, [])
  | s, i :: is => ((run (step s i).1 is).1, (step s i).2 :: (run (step s i).1 is).2)

variable (s : σ)

@[simp] theorem run_nil : run step s [] = (s, []) := rfl

@[simp] theorem run_cons (i : ι) (is : List ι) :
    run step s (i :: is) = ((run step (step s i).1 is).1, (step s i).2 :: (run step (step s i).1 is).2) := rfl

/-- A run on two lists of inputs is a run on the first and then on the second. -/
theorem run_append (is js : List ι) :
    run step s (is ++ js) =
      ((run step (run step s is).1 js).1, (run step s is).2 ++ (run step (run step s is).1 js).2) := by
  induction is generalizing s with
  | nil => rfl
  | cons i is ih => simp [ih]

variable {is : List ι}

theorem exists_of_mem_run {s : σ} {o : ο} (h : o ∈ (run step s is).2) :
    ∃ before i after, is = before ++ i :: after ∧ o = (step (run step s before).1 i).2 := by
  induction is generalizing s with
  | nil => cases h
  | cons i is ih =>
    rcases mem_cons.1 h with rfl | h
    · exact ⟨[], i, is, rfl, rfl⟩
    · obtain ⟨before, j, after, rfl, ho⟩ := ih h
      exact ⟨i :: before, j, after, rfl, ho⟩

/-- `P` holds of every step of the run: of the state before the step and the input it reads. -/
def EachStep (P : σ → ι → Prop) : σ → List ι → Prop
  | _, [] => True
  | s, i :: is => P s i ∧ EachStep P (step s i).1 is

@[simp] theorem eachStep_nil (P : σ → ι → Prop) (s : σ) : EachStep step P s [] := trivial

@[simp] theorem eachStep_cons (P : σ → ι → Prop) (s : σ) (i : ι) (is : List ι) :
    EachStep step P s (i :: is) ↔ P s i ∧ EachStep step P (step s i).1 is := Iff.rfl

/-- A condition on the steps can be evaluated along a run. -/
instance EachStep.decidable (P : σ → ι → Prop) [∀ s i, Decidable (P s i)] :
    ∀ (s : σ) (is : List ι), Decidable (EachStep step P s is)
  | _, [] => isTrue trivial
  | s, i :: is => @instDecidableAnd _ _ (inferInstance : Decidable (P s i)) (EachStep.decidable P (step s i).1 is)

variable {P : σ → ι → Prop}

theorem eachStep_append (is js : List ι) :
    EachStep step P s (is ++ js) ↔ EachStep step P s is ∧ EachStep step P (run step s is).1 js := by
  induction is generalizing s with
  | nil => simp
  | cons i is ih => simp [ih, and_assoc]

variable {step}

theorem eachStep_at {s : σ} {before after : List ι} {i : ι} (h : EachStep step P s (before ++ i :: after)) :
    EachStep step P s before ∧ P (run step s before).1 i := by
  obtain ⟨hb, ha⟩ := (eachStep_append step s before (i :: after)).1 h
  exact ⟨hb, ha.1⟩

theorem eachStep_mono {P Q : σ → ι → Prop} (h : ∀ s i, P s i → Q s i) :
    ∀ {s : σ} {is : List ι}, EachStep step P s is → EachStep step Q s is
  | _, [], _ => trivial
  | _, _ :: _, ⟨hp, hr⟩ => ⟨h _ _ hp, eachStep_mono h hr⟩

theorem eachStep_and {P Q : σ → ι → Prop} : ∀ {s : σ} {is : List ι}, EachStep step P s is → EachStep step Q s is →
    EachStep step (fun s i => P s i ∧ Q s i) s is
  | _, [], _, _ => trivial
  | _, _ :: _, ⟨hp, hr⟩, ⟨hq, hr'⟩ => ⟨⟨hp, hq⟩, eachStep_and hr hr'⟩

variable (Inv : σ → Prop)

/-- **The invariant rule.** What the start has and every step that meets `ok` keeps, the state reached has. -/
theorem run_invariant (ok : σ → ι → Prop) (keep : ∀ s i, Inv s → ok s i → Inv (step s i).1) (s : σ) (is : List ι)
    (hs : Inv s) (h : EachStep step ok s is) : Inv (run step s is).1 := by
  induction is generalizing s with
  | nil => exact hs
  | cons i is ih => exact ih _ (keep s i hs h.1) h.2

/-- **The invariant rule for steps.** What every step from a state with the invariant has, every step of a run
has. -/
theorem eachStep_of_invariant (ok P : σ → ι → Prop) (keep : ∀ s i, Inv s → ok s i → Inv (step s i).1)
    (out : ∀ s i, Inv s → ok s i → P s i) (s : σ) (is : List ι) (hs : Inv s) (h : EachStep step ok s is) :
    EachStep step P s is := by
  induction is generalizing s with
  | nil => trivial
  | cons i is ih => exact ⟨out s i hs h.1, ih _ (keep s i hs h.1) h.2⟩

/-- **The invariant rule for two conditions.** If they are the same in a state with the invariant, and every step that
meets them keeps it, they are the same of runs. -/
theorem eachStep_iff_of_invariant (P Q : σ → ι → Prop) (keep : ∀ s i, Inv s → Q s i → Inv (step s i).1)
    (same : ∀ s i, Inv s → (P s i ↔ Q s i)) (s : σ) (is : List ι) (hs : Inv s) :
    EachStep step P s is ↔ EachStep step Q s is := by
  induction is generalizing s with
  | nil => exact Iff.rfl
  | cons i is ih =>
    rw [eachStep_cons, eachStep_cons, same s i hs]
    exact and_congr_right fun hq => ih _ (keep s i hs hq)

variable {p : ι → Prop}

theorem eachStep_of_forall (h : ∀ i ∈ is, p i) (s : σ) : EachStep step (fun _ i => p i) s is := by
  induction is generalizing s with
  | nil => trivial
  | cons i is ih =>
    obtain ⟨hi, hs⟩ := forall_mem_cons.1 h
    exact ⟨hi, ih hs _⟩

theorem eachStep_forall_iff : EachStep step (fun _ i => p i) s is ↔ ∀ i ∈ is, p i := by
  refine ⟨fun h => ?_, fun h => eachStep_of_forall h s⟩
  induction is generalizing s with
  | nil => exact fun i hi => absurd hi not_mem_nil
  | cons i is ih => exact forall_mem_cons.2 ⟨h.1, ih _ h.2⟩

theorem eachStep_true : ∀ (s : σ) (is : List ι), EachStep step (fun _ _ => True) s is
  | _, [] => trivial
  | s, i :: is => ⟨trivial, eachStep_true (step s i).1 is⟩

end Run

section TwoRuns

variable {σ τ ι κ ο π : Type*} {step : σ → ι → σ × ο} {step' : τ → κ → τ × π}

/-- **The rule for two runs.** If steps on related inputs keep two states related and give related outputs, so do
runs. -/
theorem run_related (R : σ → τ → Prop) (In : ι → κ → Prop) (Out : ο → π → Prop)
    (keep : ∀ s t i k, R s t → In i k → R (step s i).1 (step' t k).1 ∧ Out (step s i).2 (step' t k).2)
    {s : σ} {t : τ} {is : List ι} {ks : List κ} (hs : R s t) (hi : List.Forall₂ In is ks) :
    R (run step s is).1 (run step' t ks).1 ∧ List.Forall₂ Out (run step s is).2 (run step' t ks).2 := by
  induction hi generalizing s t with
  | nil => exact ⟨hs, List.Forall₂.nil⟩
  | cons hk _ ih =>
    obtain ⟨hs', ho⟩ := keep _ _ _ _ hs hk
    obtain ⟨hR, hO⟩ := ih hs'
    exact ⟨hR, List.Forall₂.cons ho hO⟩

end TwoRuns

section Watched

variable {σ τ ι ε π : Type*} {step : σ → ι → σ × List ε} {watch : τ → ε → τ × π}

/-- After the events `es`, watched from `l`, the states `s` and the watcher's are related, and every event had
`P`. -/
def Shown (watch : τ → ε → τ × π) (R : σ → τ → Prop) (P : τ → ε → Prop) (l : τ) (s : σ) (es : List ε) : Prop :=
  R s (run watch l es).1 ∧ EachStep watch P l es

variable {R : σ → τ → Prop} {P : τ → ε → Prop} {l : τ} {s : σ}

theorem shown_nil (h : R s l) : Shown watch R P l s [] :=
  ⟨h, trivial⟩

variable {es : List ε}

theorem shown_of_related (h : R s (run watch l es).1) : Shown watch R (fun _ _ => True) l s es :=
  ⟨h, eachStep_true l es⟩

theorem shown_cons {e : ε} (hp : P l e) (h : Shown watch R P (watch l e).1 s es) : Shown watch R P l s (e :: es) :=
  ⟨h.1, hp, h.2⟩

theorem shown_append {σ' : Type*} {R' : σ' → τ → Prop} {s' : σ'} {es fs : List ε} (h : Shown watch R P l s es)
    (h' : Shown watch R' P (run watch l es).1 s' fs) : Shown watch R' P l s' (es ++ fs) := by
  refine ⟨?_, (eachStep_append watch l es fs).2 ⟨h.2, h'.2⟩⟩
  rw [run_append]
  exact h'.1

theorem Shown.mono {R R' : σ → τ → Prop} (h : Shown watch R P l s es) (hR : ∀ m, R s m → R' s m) :
    Shown watch R' P l s es :=
  ⟨hR _ h.1, h.2⟩

variable {is : List ι}

/-- **The rule for a watched machine.** If every step from related states shows its events, so does a run. -/
theorem run_watched (R : σ → τ → Prop) (ok : σ → ι → Prop) (P : τ → ε → Prop)
    (keep : ∀ s l i, R s l → ok s i → Shown watch R P l (step s i).1 (step s i).2) (hs : R s l)
    (h : EachStep step ok s is) : Shown watch R P l (run step s is).1 (run step s is).2.flatten := by
  induction is generalizing s l with
  | nil => exact shown_nil hs
  | cons i is ih =>
    have hi := keep s l i hs h.1
    exact shown_append hi (ih hi.1 h.2)

/-- **The counting rule.** If the watcher has room for `φ` more events with `p` than it has seen with `q`, there are not
more events with `p` than there are with `q`. -/
theorem countP_le_of_eachStep (p q : ε → Bool) (φ : τ → Nat)
    (step : ∀ l e, P l e → (if p e then 1 else 0) + φ (watch l e).1 ≤ (if q e then 1 else 0) + φ l)
    (h : EachStep watch P l es) : es.countP p ≤ es.countP q + φ l := by
  induction es generalizing l with
  | nil => simp
  | cons e es ih =>
    have hs := step l e h.1
    have hr := ih h.2
    rw [countP_cons, countP_cons]
    omega

/-- A condition on the steps that follows from the relation and a weaker condition. -/
theorem eachStep_of_watched (R : σ → τ → Prop) (ok ok' : σ → ι → Prop) (P : τ → ε → Prop)
    (keep : ∀ s l i, R s l → ok' s i → Shown watch R P l (step s i).1 (step s i).2)
    (strengthen : ∀ s l i, R s l → ok s i → ok' s i) (hs : R s l) (h : EachStep step ok s is) :
    EachStep step ok' s is := by
  induction is generalizing s l with
  | nil => trivial
  | cons i is ih =>
    have hi := strengthen s l i hs h.1
    exact ⟨hi, ih (keep s l i hs hi).1 h.2⟩

/-- **The rule for a recorded machine.** If every step from related states whose events all have `P` keeps the states
related, so does a run whose events all have `P`. -/
theorem run_recorded (R : σ → τ → Prop) (P : τ → ε → Prop)
    (keep : ∀ s l i, R s l → EachStep watch P l (step s i).2 → R (step s i).1 (run watch l (step s i).2).1)
    (hs : R s l) (h : EachStep watch P l (run step s is).2.flatten) :
    R (run step s is).1 (run watch l (run step s is).2.flatten).1 := by
  induction is generalizing s l with
  | nil => exact hs
  | cons i is ih =>
    rw [run_cons, flatten_cons, eachStep_append] at h
    rw [run_cons, flatten_cons, run_append]
    exact ih (keep s l i hs h.1) h.2

end Watched

/-! ## Runs that spend a budget, and runs that make progress -/

variable {σ ι ο : Type*} {step : σ → ι → σ × ο}

section Budget

variable {spent : ο → ℕ} {budget : σ → ℕ}

/-- If every step pays for its output, a run does not put out more than there was. -/
theorem run_spent_le (pay : ∀ s i, spent (step s i).2 + budget (step s i).1 ≤ budget s) (s : σ) (is : List ι) :
    ((run step s is).2.map spent).sum + budget (run step s is).1 ≤ budget s := by
  induction is generalizing s with
  | nil => simp
  | cons i is ih =>
    rw [run_cons, map_cons, sum_cons]
    have hs := pay s i
    have hr := ih (step s i).1
    dsimp only
    omega

/-- If every step that meets `ok` pays for its output and for nothing else, a run puts out what is missing after it. -/
theorem run_spent_eq (Inv : σ → Prop) (ok : σ → ι → Prop)
    (pay : ∀ s i, Inv s → ok s i → Inv (step s i).1 ∧ spent (step s i).2 + budget (step s i).1 = budget s) {s : σ}
    {is : List ι} (hs : Inv s) (h : EachStep step ok s is) :
    ((run step s is).2.map spent).sum + budget (run step s is).1 = budget s := by
  induction is generalizing s with
  | nil => simp
  | cons i is ih =>
    rw [run_cons, map_cons, sum_cons]
    obtain ⟨hn, ht⟩ := pay s i hs h.1
    have hr := ih hn h.2
    dsimp only
    omega

end Budget

/-! ## Progress -/

/-- A measure that no step raises. A step that neither meets the goal nor lowers it keeps whether the state is ready. -/
def Helpful (step : σ → ι → σ × ο) (Inv : σ → Prop) (ok : σ → ι → Prop) (goal : ο → Prop) (measure : σ → ℕ)
    (ready : σ → Prop) (first second : ι → Prop) : Prop :=
  ∀ s i, Inv s → ok s i → goal (step s i).2 ∨ Inv (step s i).1 ∧ (measure (step s i).1 < measure s ∨
    measure (step s i).1 = measure s ∧ (ready (step s i).1 ↔ ready s) ∧ (ready s → ¬first i) ∧ (¬ready s → ¬second i))

section Progress

variable {Inv : σ → Prop} {ok : σ → ι → Prop} {goal : ο → Prop} {measure : σ → ℕ} {ready : σ → Prop}
  {first second : ι → Prop}

variable {s : σ}

variable {is : List ι}

/-- A run meets the goal, or lowers the measure, or has had no input that could have. -/
theorem Helpful.run (h : Helpful step Inv ok goal measure ready first second) (hs : Inv s)
    (hk : EachStep step ok s is) :
    (∃ o ∈ (run step s is).2, goal o) ∨ Inv (run step s is).1 ∧ (measure (run step s is).1 < measure s ∨
      measure (run step s is).1 = measure s ∧ (ready s → ∀ i ∈ is, ¬first i) ∧ (¬ready s → ∀ i ∈ is, ¬second i)) := by
  induction is generalizing s with
  | nil =>
    refine Or.inr ⟨hs, Or.inr ⟨rfl, fun _ i hi => ?_, fun _ i hi => ?_⟩⟩
    · cases hi
    · cases hi
  | cons i is ih =>
    rw [run_cons]
    rcases h s i hs hk.1 with hg | ⟨hn, ht⟩
    · exact Or.inl ⟨_, mem_cons_self .., hg⟩
    rcases ih hn hk.2 with ⟨o, ho, hg⟩ | ⟨hl, hrs⟩
    · exact Or.inl ⟨o, mem_cons_of_mem _ ho, hg⟩
    refine Or.inr ⟨hl, ?_⟩
    dsimp only
    rcases ht with hlt | ⟨heq, hd, hf, hc⟩
    · exact Or.inl (by omega)
    · refine hrs.imp (fun hlt => by omega) fun ⟨heq', hf', hc'⟩ =>
        ⟨heq'.trans heq, fun hr => ?_, fun hr => ?_⟩
      · exact forall_mem_cons.2 ⟨hf hr, hf' (hd.2 hr)⟩
      · exact forall_mem_cons.2 ⟨hc hr, hc' fun hr' => hr (hd.1 hr')⟩

/-- **Inputs of both kinds lower the measure, or meet the goal.** -/
theorem Helpful.block (h : Helpful step Inv ok goal measure ready first second) (hs : Inv s)
    (ho : EachStep step ok s is) (hf : ∃ i ∈ is, first i) (hc : ∃ i ∈ is, second i) :
    (∃ o ∈ (Lib.run step s is).2, goal o) ∨
      Inv (Lib.run step s is).1 ∧ measure (Lib.run step s is).1 < measure s := by
  refine (h.run hs ho).imp_right fun ⟨hl, hrs⟩ => ⟨hl, hrs.resolve_right fun ⟨_, hn, hn'⟩ => ?_⟩
  by_cases hr : ready s
  · obtain ⟨i, hi, hk⟩ := hf
    exact hn hr i hi hk
  · obtain ⟨i, hi, hk⟩ := hc
    exact hn' hr i hi hk

/-- **More blocks of both kinds than the measure says meet the goal.** -/
theorem Helpful.blocks (h : Helpful step Inv ok goal measure ready first second) {blocks : List (List ι)} (hs : Inv s)
    (hl : measure s < blocks.length) (hn : ∀ is ∈ blocks, (∃ i ∈ is, first i) ∧ ∃ i ∈ is, second i)
    (hk : EachStep step ok s blocks.flatten) : ∃ o ∈ (Lib.run step s blocks.flatten).2, goal o := by
  induction blocks generalizing s with
  | nil => exact absurd hl (Nat.not_lt_zero _)
  | cons is blocks ih =>
    obtain ⟨⟨hf, hc⟩, ht⟩ := forall_mem_cons.1 hn
    rw [flatten_cons] at hk ⊢
    obtain ⟨hk, hk'⟩ := (eachStep_append step s is blocks.flatten).1 hk
    rw [run_append]
    rcases h.block hs hk hf hc with ⟨o, ho, hg⟩ | ⟨hls, hlt⟩
    · exact ⟨o, mem_append_left _ ho, hg⟩
    · rw [length_cons] at hl
      obtain ⟨o, ho, hg⟩ := ih hls (by omega) ht hk'
      exact ⟨o, mem_append_right _ ho, hg⟩

end Progress

end UniMrcp.Lib
