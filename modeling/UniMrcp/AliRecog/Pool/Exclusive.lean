import Mathlib.Data.List.Range
import UniMrcp.AliRecog.Plugin.Contract
import UniMrcp.AliRecog.Pool

/-!
# The channels of the pool are exclusive, and none is lost
-/

namespace UniMrcp.AliRecog

open Lib List Function
open Option (some.inj)

def Pool.Free (p : Pool) (id : Nat) : Prop := ∀ r ∈ p.recognitions, r.channel = id → r.finished

/-- No recognition is in progress, and every recognizer channel that has a channel of the pool is closed. -/
structure Pool.AtRest (p : Pool) : Prop where
  engineTask : p.engineTask = none
  finished : ∀ r ∈ p.recognitions, r.finished
  closed : ∀ session, (p.user session).ch.target.isSome → (p.user session).closing = .closed

/-- What some calls of `NewChannel`, one after the other, hand out. -/
def Pool.newChannels : Nat → Pool → List (Option Nat)
  | 0, _ => []
  | n + 1, p => p.newChannel.2 :: Pool.newChannels n p.newChannel.1

/-- **What should hold of a step.** -/
structure PoolStepRight (p : Pool) (input : PoolInput) : Prop where
  /-- A channel is handed out when its recognitions have finished. -/
  handedOut : ∀ session, input = .recogStart session → p.engineTask = none → ∀ id ∈ p.newChannel.2, p.Free id
  /-- When a call of `RecogMain` finishes, no later recognition has started on its channel and not finished. -/
  finishing : ∀ (i : Nat) (r : Recognition), input = .recogMain i → p.recognitions[i]? = some r → r.finished = false →
    (∀ (j : Nat) (r' : Recognition), i < j → p.recognitions[j]? = some r' → r'.channel = r.channel →
        r'.finished = true) ∧
      ∀ session stage, p.engineTask = some (session, r.channel, stage) → stage = .resetChannelPoolState

/-- **What should hold of a state.** A channel is not in both maps, and at rest `NewChannel` can hand out every one. -/
structure PoolRight (p : Pool) : Prop where
  oneMap : ∀ id, ¬(p.idlePool id ∧ p.busyPool id)
  regained : p.AtRest → ∀ id < p.maxChannels, some id ∈ Pool.newChannels p.maxChannels p

def Pool.Releases (p : Pool) (session id : Nat) : Prop :=
  (p.user session).ch = .channel id ∧
    ((p.user session).closing = .opened ∨
      (p.user session).closing = .stopped ∧ (p.channel id).isWork = false)

/-- **The condition on a step.** -/
def PoolOrderly (p : Pool) : PoolInput → Prop
  -- the channels whose `RecogMain` runs are marked as working, and the channel that the recognizer channel has had is
  -- in a map, or another recognizer channel will release it
  | .recogStart session => p.engineTask = none →
      (∀ r ∈ p.recognitions, r.finished = false → (p.channel r.channel).isWork) ∧
      ∀ id ∈ (p.user session).ch.target, p.idlePool id ∨ p.busyPool id ∨
        ∃ other, other ≠ session ∧ p.Releases other id
  -- the thread pool fails to take a task only while the stream is open
  | .engineTask pushed => ∀ session id, p.engineTask = some (session, id, .taskPush) → pushed = false →
      (p.user session).closing = .opened
  -- no null or unassigned pointer is followed
  | .stop session => p.engineTask = none → (p.user session).ch.target.isSome
  | .recogStop session => (p.user session).closing = .opened → (p.user session).ch.target.isSome
  -- the channel was not just handed out
  | .releaseChannel session => (p.user session).closing = .stopped →
      ∀ id ∈ (p.user session).ch.target, ∀ other, p.engineTask ≠ some (other, id, .start)
  | _ => True

/-- **What orderly steps keep.** -/
structure PoolKept (p : Pool) : Prop where
  oneMap : ∀ id, p.idlePool id → p.busyPool id = false
  /-- The channel that the task of the engine has been given. -/
  held : ∀ session id stage, p.engineTask = some (session, id, stage) →
    (p.user session).ch = .channel id ∧ p.busyPool id = false ∧
      (p.idlePool id → (p.channel id).isWork = false) ∧
      (stage = .start → p.idlePool id = false ∧ (p.channel id).isWork = false) ∧
      (stage ≠ .resetChannelPoolState → p.Free id) ∧
      (stage = .resetChannelPoolState → (p.channel id).isWork → ¬p.Free id)
  working : ∀ id, (p.channel id).isWork → ¬p.Free id ∨
    (∃ session, p.engineTask = some (session, id, .taskPush)) ∨
    (p.idlePool id = false ∧ p.busyPool id = false ∧
      ∃ session, (p.user session).ch = .channel id ∧ (p.user session).closing = .opened)
  placed : ∀ id < p.maxChannels, p.idlePool id ∨ p.busyPool id ∨
    (∃ session stage, p.engineTask = some (session, id, stage)) ∨ ∃ session, p.Releases session id
  /-- One recognition goes on on a channel at most. -/
  single : ∀ (i j : Nat) (r r' : Recognition), p.recognitions[i]? = some r → p.recognitions[j]? = some r' →
    r.finished = false → r'.finished = false → r.channel = r'.channel → i = j

theorem poolKept_initial (maxChannels : Nat) : PoolKept (.initial maxChannels) where
  oneMap _ _ := rfl
  held := nofun
  working := nofun
  placed id hid := Or.inl (by simpa [Pool.initial] using hid)
  single := nofun

/-! ## The pool hands out what it has -/

/-- A channel that `NewChannel` may hand out. -/
def Pool.available (p : Pool) (id : Nat) : Bool :=
  (p.idlePool id || p.busyPool id && !(p.channel id).isWork) && !(p.channel id).isWork

theorem newChannel_cases (p : Pool) :
    (∃ id, p.newChannel = ({ p with
        idlePool := Function.update (fun id => p.idlePool id || p.busyPool id && !(p.channel id).isWork) id false
        busyPool := fun id => p.busyPool id && (p.channel id).isWork }, some id) ∧
      id < p.maxChannels ∧ p.available id ∧ ∀ other < id, p.available other = false) ∨
    p.newChannel = ({ p with
        idlePool := fun id => p.idlePool id || p.busyPool id && !(p.channel id).isWork
        busyPool := fun id => p.busyPool id && (p.channel id).isWork }, none) ∧
      ∀ id < p.maxChannels, p.available id = false := by
  unfold Pool.newChannel
  dsimp only
  cases hf : (List.range p.maxChannels).find? fun id =>
      (p.idlePool id || p.busyPool id && !(p.channel id).isWork) && !(p.channel id).isWork with
  | some id =>
    obtain ⟨ha, hm, hb⟩ := List.find?_range_eq_some.1 hf
    refine Or.inl ⟨id, rfl, mem_range.1 hm, ha, fun other hlt => ?_⟩
    have ho := hb other hlt
    exact (Bool.not_eq_true' (p.available other)).mp ho
  | none =>
    refine Or.inr ⟨rfl, fun id hlt => ?_⟩
    exact Bool.eq_false_iff.2 (List.find?_eq_none.1 hf id (mem_range.2 hlt))

theorem newChannels_eq (p : Pool) {n first : Nat} (hn : first + n = p.maxChannels)
    (h : ∀ id < p.maxChannels, p.available id = decide (first ≤ id)) :
    Pool.newChannels n p = (List.range' first n).map some := by
  induction n generalizing p first with
  | zero => rfl
  | succ n ih =>
    rcases newChannel_cases p with ⟨id, heq, hlt, ha, hb⟩ | ⟨-, hnn⟩
    · rw [h id hlt, decide_eq_true_iff] at ha
      have hid : id = first := by
        by_contra hne
        have hf := hb first (by omega)
        rw [h first (by omega), decide_eq_false_iff_not] at hf
        omega
      subst hid
      rw [Pool.newChannels, heq, List.range'_succ, map_cons]
      refine congrArg (some id :: ·) (ih _ (show id + 1 + n = p.maxChannels by omega) ?_)
      intro other ho
      have ht := h other ho
      unfold Pool.available at ht ⊢
      dsimp only
      rcases Nat.lt_trichotomy other id with hlt' | rfl | hgt
      · rw [update_of_ne (by omega)]
        rw [decide_eq_false (by omega)] at ht ⊢
        cases hw : (p.channel other).isWork <;> simp_all
      · rw [update_self, decide_eq_false (by omega)]
        cases (p.channel other).isWork <;> simp
      · rw [update_of_ne (by omega)]
        rw [decide_eq_true (by omega)] at ht ⊢
        cases hw : (p.channel other).isWork <;> simp_all
    · have hf := hnn first (by omega)
      rw [h first (by omega), decide_eq_false_iff_not] at hf
      omega

theorem PoolKept.right {p : Pool} (h : PoolKept p) : PoolRight p where
  oneMap id := fun ⟨hi, hb⟩ => absurd ((h.oneMap id hi).symm.trans hb) Bool.false_ne_true
  regained hs id hlt := by
    have hw : ∀ id, (p.channel id).isWork = false := by
      intro id
      by_contra hw
      rcases h.working id (by simpa using hw) with hf | ⟨session, ht⟩ | ⟨-, -, session, hh, ho⟩
      · exact hf fun r hr _ => hs.finished r hr
      · rw [hs.engineTask] at ht
        cases ht
      · have hc := hs.closed session (by rw [hh]; rfl)
        rw [ho] at hc
        cases hc
    have ha : ∀ id < p.maxChannels, p.available id = decide (0 ≤ id) := by
      intro id hlt
      simp only [Pool.available, hw, Bool.not_false, Bool.and_true, Nat.zero_le, decide_true, Bool.or_eq_true]
      rcases h.placed id hlt with hi | hb | ⟨session, stage, ht⟩ | ⟨session, hh, hl⟩
      · exact Or.inl hi
      · exact Or.inr hb
      · rw [hs.engineTask] at ht
        cases ht
      · have hc := hs.closed session (by rw [hh]; rfl)
        rw [hc] at hl
        rcases hl with ho | ⟨hst, -⟩
        · cases ho
        · cases hst
    rw [newChannels_eq p (Nat.zero_add _) ha]
    exact mem_map.2 ⟨id, by simpa [mem_range'] using hlt, rfl⟩

/-! ## What the steps keep -/

section Steps

variable {p : Pool}

theorem calm_false {channel : Nat → AliChannel}
    (hw : ∀ id, (channel id).isWork → (p.channel id).isWork) {id : Nat}
    (hn : (p.channel id).isWork = false) : (channel id).isWork = false :=
  Bool.eq_false_iff.2 fun hc => absurd (hn.symm.trans (hw id hc)) Bool.false_ne_true

theorem PoolKept.calm (h : PoolKept p) (channel : Nat → AliChannel)
    (hr : ∀ id, (channel id).isWork → (p.channel id).isWork) :
    PoolKept { p with channel := channel } where
  oneMap := h.oneMap
  held session id stage ht := by
    obtain ⟨hc, hb, hd, hst, hf, hrs⟩ := h.held session id stage ht
    exact ⟨hc, hb, fun hi => calm_false hr (hd hi),
      fun hs => ⟨(hst hs).1, calm_false hr (hst hs).2⟩, hf, fun hs hw => hrs hs (hr id hw)⟩
  working id hw := h.working id (hr id hw)
  placed id hlt := by
    rcases h.placed id hlt with hd | hb | ht | ⟨session, hc, hl⟩
    · exact Or.inl hd
    · exact Or.inr (Or.inl hb)
    · exact Or.inr (Or.inr (Or.inl ht))
    · refine Or.inr (Or.inr (Or.inr ⟨session, hc, ?_⟩))
      exact hl.imp_right fun ⟨hp, hn⟩ => ⟨hp, calm_false hr hn⟩
  single := h.single

theorem PoolKept.setChannel (h : PoolKept p) (id : Nat) {channel : AliChannel}
    (hw : channel.isWork → (p.channel id).isWork) : PoolKept (p.setChannel id channel) := by
  refine h.calm _ fun other ho => ?_
  rcases eq_or_ne other id with rfl | hne
  · rw [update_self] at ho
    exact hw ho
  · rwa [update_of_ne hne] at ho

theorem PoolKept.callback (h : PoolKept p) (recognition : Nat) {change : AliChannel → AliChannel}
    (hc : ∀ channel, (change channel).isWork = true → channel.isWork = true) :
    PoolKept (p.callback recognition change) := by
  unfold Pool.callback
  cases p.recognitions[recognition]? with
  | none => exact h
  | some r => exact h.setChannel r.channel (hc _)

theorem PoolKept.channelStop (h : PoolKept p) (session : Nat) : PoolKept (p.channelStop session) := by
  unfold Pool.channelStop
  cases (p.user session).ch with
  | channel id => exact h.setChannel id nofun
  | null => exact h
  | unassigned => exact h

theorem PoolKept.setClosing (h : PoolKept p) {session : Nat} {closing : CloseStage}
    (hwr : ∀ id, (p.user session).ch = .channel id → (p.user session).closing = .opened →
      (p.channel id).isWork = false)
    (hp : ∀ id, p.Releases session id → p.idlePool id ∨ p.busyPool id ∨
      closing = .stopped ∧ (p.channel id).isWork = false) :
    PoolKept (p.setUser session { p.user session with closing }) := by
  have hu : ∀ other, other ≠ session →
      (p.setUser session { p.user session with closing }).user other = p.user other := fun other hne =>
    update_of_ne hne ..
  have hs : (p.setUser session { p.user session with closing }).user session = { p.user session with closing } :=
    update_self ..
  refine ⟨h.oneMap, fun other id stage ht => ?_, fun id hw => ?_, fun id hlt => ?_, h.single⟩
  · obtain ⟨hc, hr⟩ := h.held other id stage ht
    refine ⟨?_, hr⟩
    rcases eq_or_ne other session with rfl | hne
    · rw [hs]
      exact hc
    · rwa [hu other hne]
  · refine (h.working id hw).imp_right (Or.imp_right fun ⟨hi, hb, other, hc, ho⟩ => ?_)
    have hne : other ≠ session := by
      rintro rfl
      exact Bool.false_ne_true ((hwr id hc ho).symm.trans hw)
    refine ⟨hi, hb, other, ?_⟩
    rw [hu other hne]
    exact ⟨hc, ho⟩
  · refine (h.placed id hlt).elim Or.inl fun hr => hr.elim (Or.inr ∘ Or.inl) fun hr => ?_
    rcases hr with ht | ⟨other, hl⟩
    · exact Or.inr (Or.inr (Or.inl ht))
    · rcases eq_or_ne other session with rfl | hne
      · refine (hp id hl).imp_right (Or.imp_right fun hst => Or.inr ⟨other, ?_⟩)
        unfold Pool.Releases
        rw [hs]
        exact ⟨hl.1, Or.inr hst⟩
      · refine Or.inr (Or.inr (Or.inr ⟨other, ?_⟩))
        unfold Pool.Releases
        rwa [hu other hne]

theorem PoolKept.stopping (h : PoolKept p) {session : Nat}
    (hn : ∀ id, (p.user session).ch = .channel id → (p.channel id).isWork = false) :
    PoolKept (p.setUser session { p.user session with closing := .stopped }) :=
  h.setClosing (fun id hc _ => hn id hc) fun id hr => Or.inr (Or.inr ⟨rfl, hn id hr.1⟩)

theorem PoolKept.engineRecogStop (h : PoolKept p) (session : Nat) : PoolKept (p.engineRecogStop session) := by
  unfold Pool.engineRecogStop
  split_ifs
  · have hu : (p.channelStop session).user = p.user := by
      unfold Pool.channelStop
      split <;> rfl
    have hs : PoolKept ((p.channelStop session).setUser session
        { (p.channelStop session).user session with closing := .stopped }) := by
      refine (h.channelStop session).stopping fun id hc => ?_
      rw [hu] at hc
      unfold Pool.channelStop
      rw [hc]
      show (Function.update p.channel id _ id).isWork = false
      rw [update_self]
      rfl
    rwa [hu] at hs
  · exact h

theorem PoolKept.closing (h : PoolKept p) {session : Nat} (hs : (p.user session).closing = .stopped)
    (hp : ∀ id, (p.user session).ch = .channel id → (p.channel id).isWork = false →
      p.idlePool id ∨ p.busyPool id) :
    PoolKept (p.setUser session { p.user session with closing := .closed }) := by
  refine h.setClosing (fun _ _ ho => ?_) fun id ⟨hc, hr⟩ => ?_
  · rw [hs] at ho
    cases ho
  · rw [hs] at hr
    rcases hr with ho | ⟨-, hn⟩
    · cases ho
    · exact (hp id hc hn).imp_right Or.inl

theorem PoolKept.releaseChannel (h : PoolKept p) {id : Nat}
    (hl : ∀ session, p.engineTask ≠ some (session, id, .start)) :
    PoolKept (p.releaseChannel id) ∧
      ((p.channel id).isWork = false → (p.releaseChannel id).idlePool id) := by
  unfold Pool.releaseChannel
  by_cases hc : ((p.channel id).isWork || p.idlePool id)
  · rw [if_pos hc]
    refine ⟨h, fun hn => ?_⟩
    rwa [hn, Bool.false_or] at hc
  · rw [if_neg hc]
    obtain ⟨hn, hi⟩ := Bool.or_eq_false_iff.1 (Bool.eq_false_iff.2 hc)
    refine ⟨⟨?_, ?_, ?_, ?_, h.single⟩, fun _ => update_self ..⟩
    · intro other ho
      dsimp only at ho ⊢
      rcases eq_or_ne other id with rfl | hne
      · rw [update_self]
      · rw [update_of_ne hne] at ho ⊢
        exact h.oneMap other ho
    · intro session other stage ht
      obtain ⟨hh, hb, hi', hs, hr⟩ := h.held session other stage ht
      dsimp only
      rcases eq_or_ne other id with rfl | hne
      · rw [update_self, update_self]
        refine ⟨hh, rfl, fun _ => hn, ?_, hr⟩
        rintro rfl
        exact absurd ht (hl session)
      · rw [update_of_ne hne, update_of_ne hne]
        exact ⟨hh, hb, hi', hs, hr⟩
    · intro other hw
      have hne : other ≠ id := by
        rintro rfl
        exact absurd (hn.symm.trans hw) Bool.false_ne_true
      dsimp only
      rw [update_of_ne hne, update_of_ne hne]
      exact h.working other hw
    · intro other hlt
      dsimp only
      rcases eq_or_ne other id with rfl | hne
      · exact Or.inl (update_self ..)
      · rw [update_of_ne hne, update_of_ne hne]
        exact h.placed other hlt

theorem releaseChannel_user (p : Pool) (id : Nat) : (p.releaseChannel id).user = p.user := by
  unfold Pool.releaseChannel
  split_ifs <;> rfl

theorem releaseChannel_channel (p : Pool) (id : Nat) : (p.releaseChannel id).channel = p.channel := by
  unfold Pool.releaseChannel
  split_ifs <;> rfl

theorem releaseChannel_setUser (p : Pool) (session id : Nat) (user : PoolUser) :
    (p.setUser session user).releaseChannel id = (p.releaseChannel id).setUser session user := by
  unfold Pool.releaseChannel Pool.setUser
  split_ifs <;> rfl

theorem PoolKept.engineRecogRelease (h : PoolKept p) {session : Nat} (ho : PoolOrderly p (.releaseChannel session)) :
    PoolKept (p.engineRecogRelease session) := by
  unfold Pool.engineRecogRelease
  by_cases hs : (p.user session).closing = .stopped
  · rw [if_pos hs]
    generalize hl : ({ p.user session with closing := .closed } : PoolUser) = closed
    have hse : ((p.setUser session closed).user session).ch = (p.user session).ch := by
      show (Function.update p.user session closed session).ch = _
      rw [update_self, ← hl]
    have hsl : (∀ id, (p.user session).ch ≠ .channel id) → PoolKept (p.setUser session closed) := by
      intro hno
      rw [← hl]
      exact h.closing hs fun id hc => absurd hc (hno id)
    dsimp only
    rw [hse]
    cases hc : (p.user session).ch with
    | channel id =>
      obtain ⟨hk, hi⟩ := h.releaseChannel (ho hs id (by rw [hc]; rfl))
      dsimp only
      rw [releaseChannel_setUser, ← hl, ← releaseChannel_user p id]
      refine hk.closing (by rw [releaseChannel_user, hs]) fun id' hc' hn => ?_
      rw [releaseChannel_user, hc] at hc'
      obtain rfl := ChPointer.channel.inj hc'
      rw [releaseChannel_channel] at hn
      exact Or.inl (hi hn)
    | null => exact hsl fun id => by rw [hc]; exact nofun
    | unassigned => exact hsl fun id => by rw [hc]; exact nofun
  · rw [if_neg hs]
    exact h

theorem PoolKept.recogMain (h : PoolKept p) (i : Nat) : PoolKept (p.recogMain i) := by
  unfold Pool.recogMain
  cases hr : p.recognitions[i]? with
  | none => exact h
  | some r =>
    dsimp only
    by_cases hf : r.finished
    · rw [if_pos hf]
      exact h
    · rw [if_neg hf]
      have ht : PoolKept (p.setChannel r.channel (p.channel r.channel).recogMainEnd) := h.setChannel r.channel nofun
      have hl : ((p.setChannel r.channel (p.channel r.channel).recogMainEnd).channel r.channel).isWork = false := by
        show (Function.update p.channel r.channel _ r.channel).isWork = false
        rw [update_self]
        rfl
      generalize hq : p.setChannel r.channel (p.channel r.channel).recogMainEnd = q at ht hl
      have hrc : q.recognitions = p.recognitions := by rw [← hq]; rfl
      have hg : ∀ j r', (p.recognitions.set i { r with finished := true })[j]? = some r' →
          j = i ∧ r' = { r with finished := true } ∨ j ≠ i ∧ p.recognitions[j]? = some r' := by
        intro j r' hj
        rcases eq_or_ne j i with rfl | hne
        · have hlt : j < p.recognitions.length := (List.getElem?_eq_some_iff.1 hr).1
          rw [List.getElem?_set_self hlt] at hj
          exact Or.inl ⟨rfl, (some.inj hj).symm⟩
        · rw [List.getElem?_set_ne hne.symm] at hj
          exact Or.inr ⟨hne, hj⟩
      have hfr : ∀ id, q.Free id →
          ({ q with recognitions := p.recognitions.set i { r with finished := true } } : Pool).Free id := by
        intro id hid r' hm hc
        obtain ⟨j, hj⟩ := mem_iff_getElem?.1 hm
        rcases hg j r' hj with ⟨-, rfl⟩ | ⟨-, ho⟩
        · rfl
        · exact hid r' (by rw [hrc]; exact mem_of_getElem? ho) hc
      have hn : ∀ id, id ≠ r.channel → ¬q.Free id →
          ¬({ q with recognitions := p.recognitions.set i { r with finished := true } } : Pool).Free id := by
        intro id hne hno hid
        refine hno fun r' hm hc => ?_
        rw [hrc] at hm
        obtain ⟨j, hj⟩ := mem_iff_getElem?.1 hm
        have hji : j ≠ i := by
          rintro rfl
          rw [hr] at hj
          obtain rfl := some.inj hj
          exact hne hc.symm
        exact hid r' (mem_of_getElem? ((List.getElem?_set_ne hji.symm).trans hj)) hc
      have hwr : ∀ id, (q.channel id).isWork → id ≠ r.channel := by
        rintro id hw rfl
        exact absurd (hl.symm.trans hw) Bool.false_ne_true
      refine ⟨ht.oneMap, ?_, ?_, ht.placed, ?_⟩
      · intro session id stage hts
        obtain ⟨hc, hb, hi, hst, hh, hrs⟩ := ht.held session id stage hts
        exact ⟨hc, hb, hi, hst, fun hs => hfr id (hh hs),
          fun hs hw => hn id (hwr id hw) (hrs hs hw)⟩
      · intro id hw
        exact (ht.working id hw).imp_left (hn id (hwr id hw))
      · intro j k r' r'' hj hk hj' hk' hc
        rcases hg j r' hj with ⟨-, rfl⟩ | ⟨-, hj⟩
        · cases hj'
        · rcases hg k r'' hk with ⟨-, rfl⟩ | ⟨-, hk⟩
          · cases hk'
          · exact h.single j k r' r'' hj hk hj' hk' hc

/-! ### The task of the engine -/

theorem engineTask_inj {session session' id id' : Nat} {stage stage' : StartStage}
    (ht : p.engineTask = some (session, id, stage)) (ht' : p.engineTask = some (session', id', stage')) :
    session' = session ∧ id' = id ∧ stage' = stage := by
  rw [ht] at ht'
  cases ht'
  exact ⟨rfl, rfl, rfl⟩

theorem PoolKept.placed_else (h : PoolKept p) {session id other : Nat} {stage : StartStage}
    (ht : p.engineTask = some (session, id, stage)) (hne : other ≠ id) (hlt : other < p.maxChannels) :
    p.idlePool other ∨ p.busyPool other ∨ ∃ session, p.Releases session other := by
  refine (h.placed other hlt).imp_right (Or.imp_right fun hr => hr.resolve_left ?_)
  rintro ⟨session', stage', ht'⟩
  exact hne (engineTask_inj ht ht').2.1

theorem PoolKept.working_else (h : PoolKept p) {session id other : Nat} {stage : StartStage}
    (ht : p.engineTask = some (session, id, stage)) (hne : other ≠ id) (hw : (p.channel other).isWork) :
    ¬p.Free other ∨ p.idlePool other = false ∧ p.busyPool other = false ∧
      ∃ session, (p.user session).ch = .channel other ∧ (p.user session).closing = .opened := by
  refine (h.working other hw).imp_right fun hr => hr.resolve_left ?_
  rintro ⟨session', ht'⟩
  exact hne (engineTask_inj ht ht').2.1

theorem PoolKept.start (h : PoolKept p) {session id : Nat} (ht : p.engineTask = some (session, id, .start)) :
    PoolKept { p.setChannel id (p.channel id).start with engineTask := some (session, id, .taskPush) } := by
  obtain ⟨hc, hb, hi, hs, hf, -⟩ := h.held session id .start ht
  have ho : ∀ other, other ≠ id → (Function.update p.channel id (p.channel id).start) other = p.channel other :=
    fun other hne => update_of_ne hne ..
  refine ⟨h.oneMap, ?_, ?_, ?_, h.single⟩
  · intro session' id' stage ht'
    obtain ⟨rfl, heq⟩ := Prod.mk.inj (some.inj ht')
    obtain ⟨rfl, rfl⟩ := Prod.mk.inj heq
    refine ⟨hc, hb, fun hh => ?_, nofun, fun _ => hf nofun, nofun⟩
    exact absurd ((hs rfl).1.symm.trans hh) Bool.false_ne_true
  · intro other hw
    rcases eq_or_ne other id with rfl | hne
    · exact Or.inr (Or.inl ⟨session, rfl⟩)
    · change ((Function.update p.channel id (p.channel id).start) other).isWork = true at hw
      rw [ho other hne] at hw
      exact (h.working_else ht hne hw).imp_right Or.inr
  · intro other hlt
    rcases eq_or_ne other id with rfl | hne
    · exact Or.inr (Or.inr (Or.inl ⟨session, _, rfl⟩))
    · refine (h.placed_else ht hne hlt).imp_right (Or.imp_right fun ⟨session', hc', hr⟩ => Or.inr ⟨session', hc', ?_⟩)
      refine hr.imp_right fun ⟨hst, hn⟩ => ⟨hst, ?_⟩
      show ((Function.update p.channel id (p.channel id).start) other).isWork = false
      rwa [ho other hne]

theorem PoolKept.push (h : PoolKept p) {session id : Nat} (ht : p.engineTask = some (session, id, .taskPush)) :
    PoolKept { p with
      engineTask := some (session, id, .resetChannelPoolState)
      recognitions := p.recognitions ++ [⟨session, id, false⟩] } := by
  obtain ⟨hc, hbu, hi, -, hf, -⟩ := h.held session id .taskPush ht
  have hb : ¬({ p with
      engineTask := some (session, id, .resetChannelPoolState)
      recognitions := p.recognitions ++ [⟨session, id, false⟩] } : Pool).Free id := by
    intro hn
    exact absurd (hn ⟨session, id, false⟩ (by simp) rfl) Bool.false_ne_true
  refine ⟨h.oneMap, ?_, ?_, ?_, ?_⟩
  · intro session' id' stage ht'
    obtain ⟨rfl, heq⟩ := Prod.mk.inj (some.inj ht')
    obtain ⟨rfl, rfl⟩ := Prod.mk.inj heq
    exact ⟨hc, hbu, hi, nofun, fun hne => absurd rfl hne, fun _ _ => hb⟩
  · intro other hw
    rcases eq_or_ne other id with rfl | hne
    · exact Or.inl hb
    · refine (h.working_else ht hne hw).imp (fun hnt hn => hnt fun r hr => ?_) Or.inr
      exact hn r (mem_append_left _ hr)
  · intro other hlt
    rcases eq_or_ne other id with rfl | hne
    · exact Or.inr (Or.inr (Or.inl ⟨session, _, rfl⟩))
    · exact (h.placed_else ht hne hlt).imp_right (Or.imp_right Or.inr)
  · have hl : ∀ (i : Nat) (r : Recognition), (p.recognitions ++ [⟨session, id, false⟩])[i]? = some r →
        p.recognitions[i]? = some r ∨ i = p.recognitions.length ∧ r = ⟨session, id, false⟩ := by
      intro i r hr
      rcases Nat.lt_or_ge i p.recognitions.length with hlt | hge
      · exact Or.inl (by rwa [List.getElem?_append_left hlt] at hr)
      · right
        rw [List.getElem?_append_right hge, List.getElem?_singleton] at hr
        split_ifs at hr with hz
        exact ⟨by omega, (some.inj hr).symm⟩
    intro i j r r' hr hr' hg hg' hs
    rcases hl i r hr with hr | ⟨rfl, rfl⟩
    · rcases hl j r' hr' with hr' | ⟨rfl, rfl⟩
      · exact h.single i j r r' hr hr' hg hg' hs
      · exact absurd (hg.symm.trans (hf nofun r (mem_of_getElem? hr) hs)) Bool.false_ne_true
    · rcases hl j r' hr' with hr' | ⟨rfl, rfl⟩
      · exact absurd (hg'.symm.trans (hf nofun r' (mem_of_getElem? hr') hs.symm)) Bool.false_ne_true
      · rfl

theorem PoolKept.pushFailed (h : PoolKept p) {session id : Nat} (ht : p.engineTask = some (session, id, .taskPush))
    (ho : (p.user session).closing = .opened) : PoolKept { p with engineTask := none } := by
  obtain ⟨hc, hb, hi, -, -, -⟩ := h.held session id .taskPush ht
  refine ⟨h.oneMap, nofun, fun other hw => ?_, fun other hlt => ?_, h.single⟩
  · rcases eq_or_ne other id with rfl | hne
    · refine Or.inr (Or.inr ⟨?_, hb, session, hc, ho⟩)
      exact Bool.eq_false_iff.2 fun hh => absurd ((hi hh).symm.trans hw) Bool.false_ne_true
    · exact (h.working_else ht hne hw).imp_right Or.inr
  · rcases eq_or_ne other id with rfl | hne
    · exact Or.inr (Or.inr (Or.inr ⟨session, hc, Or.inl ho⟩))
    · exact (h.placed_else ht hne hlt).imp_right (Or.imp_right Or.inr)

theorem PoolKept.reset (h : PoolKept p) {session id : Nat}
    (hs : p.engineTask = some (session, id, .resetChannelPoolState)) :
    PoolKept { p.resetChannelPoolState id with engineTask := none } := by
  obtain ⟨-, hb, hi, -, -, hrs⟩ := h.held session id _ hs
  have hr : ∀ other, (p.channel other).isWork → ¬p.Free other ∨ other ≠ id ∧
      p.idlePool other = false ∧ p.busyPool other = false ∧
      ∃ session, (p.user session).ch = .channel other ∧ (p.user session).closing = .opened := by
    intro other hw
    rcases eq_or_ne other id with rfl | hne
    · exact Or.inl (hrs rfl hw)
    · exact (h.working_else hs hne hw).imp_right fun ho => ⟨hne, ho⟩
  unfold Pool.resetChannelPoolState
  by_cases hwo : (p.channel id).isWork
  · rw [if_pos hwo]
    refine ⟨?_, nofun, ?_, ?_, h.single⟩
    · intro other ht
      dsimp only at ht ⊢
      rcases eq_or_ne other id with rfl | hne
      · exact absurd ((hi ht).symm.trans hwo) Bool.false_ne_true
      · rw [update_of_ne hne]
        exact h.oneMap other ht
    · intro other hw
      refine (hr other hw).imp_right fun ⟨hne, hi', hb', ho⟩ => Or.inr ⟨hi', ?_, ho⟩
      dsimp only
      rwa [update_of_ne hne]
    · intro other hlt
      dsimp only
      rcases eq_or_ne other id with rfl | hne
      · exact Or.inr (Or.inl (update_self ..))
      · rw [update_of_ne hne]
        exact (h.placed_else hs hne hlt).imp_right (Or.imp_right Or.inr)
  · rw [if_neg hwo]
    refine ⟨?_, nofun, ?_, ?_, h.single⟩
    · intro other ht
      dsimp only at ht ⊢
      rcases eq_or_ne other id with rfl | hne
      · exact hb
      · rw [update_of_ne hne] at ht
        exact h.oneMap other ht
    · intro other hw
      refine (hr other hw).imp_right fun ⟨hne, hi', hb', ho⟩ => Or.inr ⟨?_, hb', ho⟩
      dsimp only
      rwa [update_of_ne hne]
    · intro other hlt
      dsimp only
      rcases eq_or_ne other id with rfl | hne
      · exact Or.inl (update_self ..)
      · rw [update_of_ne hne]
        exact (h.placed_else hs hne hlt).imp_right (Or.imp_right Or.inr)

theorem PoolKept.sweep (h : PoolKept p) (ht : p.engineTask = none) :
    PoolKept { p with
      idlePool := fun id => p.idlePool id || p.busyPool id && !(p.channel id).isWork
      busyPool := fun id => p.busyPool id && (p.channel id).isWork } := by
  refine ⟨?_, ?_, ?_, ?_, h.single⟩
  · intro id hh
    dsimp only at hh ⊢
    rcases Bool.or_eq_true_iff.1 hh with hi | hm
    · rw [h.oneMap id hi, Bool.false_and]
    · rw [Bool.not_eq_true' _ |>.mp (Bool.and_eq_true_iff.1 hm).2, Bool.and_false]
  · intro session id stage ht'
    rw [ht] at ht'
    cases ht'
  · intro id hw
    refine (h.working id hw).imp_right (Or.imp_right fun ⟨hi, hb, ho⟩ => ⟨?_, ?_, ho⟩)
    · dsimp only
      rw [hi, hb, Bool.false_and, Bool.false_or]
    · dsimp only
      rw [hb, Bool.false_and]
  · intro id hlt
    dsimp only
    rcases h.placed id hlt with hi | hb | hr
    · exact Or.inl (by rw [hi, Bool.true_or])
    · rw [hb]
      cases hwr : (p.channel id).isWork with
      | true => exact Or.inr (Or.inl rfl)
      | false => exact Or.inl (by simp)
    · exact Or.inr (Or.inr hr)

theorem PoolKept.setPointer (h : PoolKept p) (hs : p.engineTask = none) {session : Nat}
    (ho : ∀ id ∈ (p.user session).ch.target, p.idlePool id ∨ p.busyPool id ∨
      ∃ other, other ≠ session ∧ p.Releases other id) (ch : ChPointer) :
    PoolKept (p.setUser session { p.user session with ch := ch }) := by
  refine ⟨h.oneMap, ?_, ?_, ?_, h.single⟩
  · intro other id stage hs'
    change p.engineTask = _ at hs'
    rw [hs] at hs'
    cases hs'
  · intro id hw
    refine (h.working id hw).imp_right (Or.imp_right fun ⟨hi, hb, user, hc, hp⟩ => ⟨hi, hb, ?_⟩)
    have hh : ∃ other, other ≠ session ∧ (p.user other).ch = .channel id ∧ (p.user other).closing = .opened := by
      rcases eq_or_ne user session with rfl | hne
      · rcases ho id (by rw [hc]; rfl) with ht | ht | ⟨other, hne, hc', hp' | ⟨-, hn⟩⟩
        · exact absurd (hi.symm.trans ht) Bool.false_ne_true
        · exact absurd (hb.symm.trans ht) Bool.false_ne_true
        · exact ⟨other, hne, hc', hp'⟩
        · exact absurd (hn.symm.trans hw) Bool.false_ne_true
      · exact ⟨user, hne, hc, hp⟩
    obtain ⟨other, hne, hbt⟩ := hh
    refine ⟨other, ?_⟩
    show (Function.update p.user session _ other).ch = _ ∧ (Function.update p.user session _ other).closing = _
    rwa [update_of_ne hne]
  · intro id hlt
    have hot : ∀ other, other ≠ session → p.Releases other id →
        (p.setUser session { p.user session with ch := ch }).Releases other id := by
      intro other hne hr
      show (Function.update p.user session _ other).ch = _ ∧ ((Function.update p.user session _ other).closing = _ ∨
        (Function.update p.user session _ other).closing = _ ∧ _)
      rwa [update_of_ne hne]
    rcases h.placed id hlt with ht | ht | hs' | ⟨user, hr⟩
    · exact Or.inl ht
    · exact Or.inr (Or.inl ht)
    · exact Or.inr (Or.inr (Or.inl hs'))
    · rcases eq_or_ne user session with rfl | hne
      · rcases ho id (by rw [hr.1]; rfl) with ht | ht | ⟨other, hne, hr'⟩
        · exact Or.inl ht
        · exact Or.inr (Or.inl ht)
        · exact Or.inr (Or.inr (Or.inr ⟨other, hot other hne hr'⟩))
      · exact Or.inr (Or.inr (Or.inr ⟨user, hot user hne hr⟩))

theorem PoolKept.handOut (h : PoolKept p) (ht : p.engineTask = none) {session id : Nat}
    (hc : (p.user session).ch = .channel id) (hi : p.idlePool id) (hn : (p.channel id).isWork = false)
    (hf : p.Free id) :
    PoolKept { p with
      idlePool := Function.update p.idlePool id false
      engineTask := some (session, id, .start) } := by
  have hwr : ∀ other, (p.channel other).isWork → other ≠ id := by
    rintro other hw rfl
    exact absurd (hn.symm.trans hw) Bool.false_ne_true
  refine ⟨?_, ?_, ?_, ?_, h.single⟩
  · intro other hh
    dsimp only at hh ⊢
    rcases eq_or_ne other id with rfl | hne
    · exact h.oneMap other hi
    · rw [update_of_ne hne] at hh
      exact h.oneMap other hh
  · intro session' id' stage ht'
    obtain ⟨rfl, heq⟩ := Prod.mk.inj (some.inj ht')
    obtain ⟨rfl, rfl⟩ := Prod.mk.inj heq
    have hg : Function.update p.idlePool id false id = false := update_self ..
    exact ⟨hc, h.oneMap id hi, fun _ => hn, fun _ => ⟨hg, hn⟩, fun _ => hf, nofun⟩
  · intro other hw
    dsimp only
    rw [update_of_ne (hwr other hw)]
    rcases h.working other hw with hb | ⟨session', ht'⟩ | ho
    · exact Or.inl hb
    · rw [ht] at ht'
      cases ht'
    · exact Or.inr (Or.inr ho)
  · intro other hlt
    dsimp only
    rcases eq_or_ne other id with rfl | hne
    · exact Or.inr (Or.inr (Or.inl ⟨session, .start, rfl⟩))
    · rw [update_of_ne hne]
      rcases h.placed other hlt with hh | hh | ⟨session', stage, ht'⟩ | hr
      · exact Or.inl hh
      · exact Or.inr (Or.inl hh)
      · rw [ht] at ht'
        cases ht'
      · exact Or.inr (Or.inr (Or.inr hr))

theorem free_of_available {id : Nat} (ha : p.available id)
    (hm : ∀ r ∈ p.recognitions, r.finished = false → (p.channel r.channel).isWork) : p.Free id := by
  rintro r hr rfl
  by_contra hg
  have hn := (Bool.and_eq_true_iff.1 ha).2
  rw [hm r hr (Bool.eq_false_iff.2 hg)] at hn
  cases hn

theorem PoolKept.engineRecogStart (h : PoolKept p) {session : Nat} (ht : p.engineTask = none)
    (hk : PoolOrderly p (.recogStart session)) : PoolKept (p.engineRecogStart session) := by
  obtain ⟨hm, ho⟩ := hk ht
  have hs := h.sweep ht
  have hp := fun ch => @PoolKept.setPointer _ hs ht session (fun id hid => by
    dsimp only
    rcases ho id hid with hi | hb | hr
    · exact Or.inl (by rw [hi, Bool.true_or])
    · rw [hb]
      cases (p.channel id).isWork with
      | true => exact Or.inr (Or.inl rfl)
      | false => exact Or.inl (by simp)
    · exact Or.inr (Or.inr hr)) ch
  unfold Pool.engineRecogStart
  rcases newChannel_cases p with ⟨id, heq, hlt, ha, -⟩ | ⟨heq, -⟩
  · rw [heq]
    obtain ⟨hh, hn⟩ := Bool.and_eq_true_iff.1 ha
    have hl : (Function.update p.user session { p.user session with ch := .channel id } session).ch =
        .channel id := by
      rw [update_self]
    have hf : p.Free id := free_of_available ha hm
    have hg := (hp (.channel id)).handOut ht hl hh (Bool.not_eq_true' _ |>.mp hn) hf
    exact hg.setChannel id (fun hw => hw)
  · rw [heq]
    exact hp .null

end Steps

/-! ## The runs -/

/-- **Every orderly step keeps the invariant.** -/
theorem poolKept_step (p : Pool) (input : PoolInput) (h : PoolKept p) (ho : PoolOrderly p input) :
    PoolKept (p.step input).1 := by
  cases input with
  | recogStart session =>
    by_cases ht : p.engineTask = none
    · simp only [Pool.step, ht, Option.isSome_none, Bool.false_eq_true, if_false]
      exact h.engineRecogStart ht ho
    · simp only [Pool.step, Option.isSome_iff_ne_none.2 ht, if_true]
      exact h
  | engineTask pushed =>
    simp only [Pool.step]
    cases ht : p.engineTask with
    | none => exact h
    | some task =>
      obtain ⟨session, id, stage⟩ := task
      cases stage with
      | start => exact h.start ht
      | taskPush =>
        cases pushed with
        | true => exact h.push ht
        | false => exact h.pushFailed ht (ho session id ht rfl)
      | resetChannelPoolState => exact h.reset ht
  | stop session =>
    simp only [Pool.step]
    split_ifs
    · exact h
    · exact h.channelStop session
  | recogStop session => exact h.engineRecogStop session
  | releaseChannel session => exact h.engineRecogRelease ho
  | recogExit i =>
    refine h.callback i fun channel hw => ?_
    unfold AliChannel.recogExit at hw
    split_ifs at hw
    · exact hw
    · exact hw
  | recogMain i => exact h.recogMain i
  | recognitionCompleted i => exact h.callback i fun _ hw => hw
  | taskFailed i => exact h.callback i nofun
  | channelClosed i => exact h.callback i nofun

theorem PoolKept.stepRight {p : Pool} (h : PoolKept p) {input : PoolInput} (ho : PoolOrderly p input) :
    PoolStepRight p input where
  handedOut := by
    rintro session rfl ht id hid
    rcases newChannel_cases p with ⟨id', heq, -, ha, -⟩ | ⟨heq, -⟩
    · rw [heq] at hid
      obtain rfl := some.inj hid
      exact free_of_available ha (ho ht).1
    · rw [heq] at hid
      cases hid
  finishing := by
    rintro i r rfl hr hg
    refine ⟨fun j r' hlt hr' hs => ?_, fun session stage ht => ?_⟩
    · by_contra hg'
      have hi := h.single i j r r' hr hr' hg (Bool.eq_false_iff.2 hg') hs.symm
      omega
    · by_contra hne
      obtain ⟨-, -, -, -, hf, -⟩ := h.held session r.channel stage ht
      exact absurd (hg.symm.trans (hf hne r (mem_of_getElem? hr) rfl)) Bool.false_ne_true

/-- **In a run whose steps are orderly, the channels of the pool are exclusive, and none is lost.** -/
theorem poolRight_of_orderly (maxChannels : Nat) (inputs : List PoolInput)
    (h : EachStep Pool.step PoolOrderly (.initial maxChannels) inputs) :
    EachStep Pool.step PoolStepRight (.initial maxChannels) inputs ∧
      PoolRight (run Pool.step (.initial maxChannels) inputs).1 :=
  ⟨eachStep_of_invariant PoolKept PoolOrderly PoolStepRight poolKept_step (fun _ _ hkept hok => hkept.stepRight hok)
      (.initial maxChannels) inputs (poolKept_initial maxChannels) h,
    (run_invariant PoolKept PoolOrderly poolKept_step (.initial maxChannels) inputs (poolKept_initial maxChannels)
      h).right⟩

/-- Two recognizer channels share a pool of two channels, and one of them starts a second recognition. -/
theorem poolRight_shared :
    PoolRight (run Pool.step (.initial 2) [.recogStart 0, .engineTask true, .engineTask true, .engineTask true,
      .recogStart 1, .engineTask true, .engineTask true, .engineTask true, .recogExit 0, .recogMain 0, .recogStart 0,
      .engineTask true, .engineTask true, .engineTask true, .recogStop 1, .releaseChannel 1, .recogMain 1]).1 := by
  refine (poolRight_of_orderly 2 _ ?_).2
  have hpush : ∀ {p : Pool}, PoolOrderly p (.engineTask true) := fun _ _ _ hpushed => absurd hpushed nofun
  refine ⟨fun _ => ⟨nofun, nofun⟩, hpush, hpush, hpush, fun _ => ⟨by decide, nofun⟩, hpush, hpush, hpush, trivial,
    trivial, fun _ => ⟨by decide, ?_⟩, hpush, hpush, hpush, fun _ => rfl, fun _ _ _ => nofun, trivial,
    trivial⟩
  rintro id hid
  obtain rfl := Option.some.inj hid
  exact Or.inr (Or.inl rfl)

/-- A recognition is stopped while its `RecogMain` goes on: the channel is handed out again. -/
theorem not_poolStepRight_stopped :
    ¬EachStep Pool.step PoolStepRight (.initial 1)
      [.recogStart 0, .engineTask true, .engineTask true, .engineTask true, .stop 0, .recogStart 1] := by
  intro h
  obtain ⟨-, -, -, -, -, hstep, -⟩ := h
  have hfree := hstep.handedOut 1 rfl rfl 0 rfl
  exact absurd (hfree ⟨0, 0, false⟩ (by decide) rfl) nofun

end UniMrcp.AliRecog
