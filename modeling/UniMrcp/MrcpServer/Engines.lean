import Mathlib.Data.Finset.Card
import UniMrcp.MrcpServer.Accounting
import UniMrcp.MrcpServer.Session.EngineChannels

/-!
# Engines of a server

The engines are shared by all sessions of a server. An engine counts the channels that it has created and that are not
destroyed, and creates no more than it is configured for.
-/

namespace UniMrcp.MrcpServer

open Apt Lib MrcpEngine List Function Life

/-! ## Engines -/

structure Engine where
  isOpen : Bool := false
  curChannelCount : Nat := 0
  /-- `max_channel_count` of the configuration; zero for no limit. -/
  maxChannelCount : Nat
deriving DecidableEq

/-- `mrcp_engine_virtual_open`, by which an engine is only told to open. -/
def Engine.virtualOpen (engine : Engine) (status : Bool) : Engine × Bool :=
  if engine.isOpen then (engine, false) else (engine, status)

def Engine.onOpen (engine : Engine) (status : Bool) : Engine := { engine with isOpen := status }

def Engine.virtualClose (engine : Engine) (status : Bool) : Engine × Bool :=
  if engine.isOpen then ({ engine with isOpen := false }, status) else (engine, false)

def Engine.onClose (engine : Engine) : Engine := { engine with isOpen := false }

/-- `mrcp_engine_channel_virtual_create`, where `create_channel` of the engine gives a channel or does not. -/
def Engine.channelVirtualCreate (engine : Engine) (created : Bool) : Engine × Bool :=
  if !engine.isOpen then (engine, false)
  else if engine.maxChannelCount ≠ 0 ∧ engine.maxChannelCount ≤ engine.curChannelCount then (engine, false)
  else if created then ({ engine with curChannelCount := engine.curChannelCount + 1 }, true)
  else (engine, false)

def Engine.channelVirtualDestroy (engine : Engine) : Engine :=
  if engine.curChannelCount ≠ 0 then { engine with curChannelCount := engine.curChannelCount - 1 } else engine

def Engine.called (engine : Engine) : EngineCall → Engine
  | .create => (engine.channelVirtualCreate true).1
  | .destroy => engine.channelVirtualDestroy
  | .openChannel _ | .closeChannel _ => engine

def Engine.grants (engine : Engine) : EngineCall → Bool
  | .create => (engine.channelVirtualCreate true).2
  | _ => true

def Engine.Limited (engine : Engine) : Prop :=
  engine.maxChannelCount ≠ 0 → engine.curChannelCount ≤ engine.maxChannelCount

variable {engine : Engine}

open Engine

theorem Engine.called_create (h : engine.grants .create) :
    (engine.called .create).curChannelCount = engine.curChannelCount + 1 ∧ (engine.called .create).Limited := by
  unfold grants at h
  unfold called Engine.Limited
  revert h
  unfold channelVirtualCreate
  split_ifs with _ hl
  · intro h
    cases h
  · intro h
    cases h
  · rintro -
    refine ⟨rfl, fun hne => ?_⟩
    dsimp only at hne ⊢
    by_contra hlt
    exact hl ⟨hne, by omega⟩
  · next hc => exact absurd rfl hc

theorem Engine.Limited.called (h : engine.Limited) {call : EngineCall} (hg : engine.grants call) :
    (engine.called call).Limited := by
  cases call with
  | create => exact (called_create hg).2
  | openChannel _ => exact h
  | closeChannel _ => exact h
  | destroy =>
    unfold Engine.called channelVirtualDestroy Engine.Limited
    split_ifs
    · intro hne
      have hle := h hne
      dsimp only
      omega
    · exact h

/-! ## Servers -/

variable {E κ σ μ ε D : Type}

/-- What a session of a server is set up with: the engine of a resource, with the kind of state machine that it
creates. -/
structure ServerProfile (E κ : Type) where
  mrcpVersion : MrcpVersion
  resourceFind : Bytes → Bool
  engineTable : Bytes → Option (E × Option κ)
  codecList : List CodecDescriptor

def ServerProfile.profile (T : ServerProfile E κ) : Profile κ where
  mrcpVersion := T.mrcpVersion
  resourceFind := T.resourceFind
  engineFind name := (T.engineTable name).map Prod.snd
  codecList := T.codecList

/-- `mrcp_server_t`: its engines and its sessions. An engine channel is named by its session and its channel. -/
structure Server (E κ σ μ ε D : Type) where
  engines : E → Engine
  sessions : Nat → Session κ σ μ ε D
  /-- `engine` of an engine channel. -/
  engineOf : Nat × Nat → Option E
  /-- The engines were called so far, for these engine channels. -/
  calls : List ((Nat × Nat) × EngineCall)

def Server.create (maxChannelCount : E → Nat) : Server E κ σ μ ε D where
  engines e := { maxChannelCount := maxChannelCount e }
  sessions _ := {}
  engineOf _ := none
  calls := []

section Step

variable (M : κ → StateMachine σ μ ε D) (T : Nat → ServerProfile E κ)

/-- The engine that is called: the one that is found for the resource of the channel, and the same one ever after. -/
def Server.engineFor (S : Server E κ σ μ ε D) (channel : Nat × Nat) : EngineCall → Option E
  | .create => (S.sessions channel.1).channels[channel.2]?.bind fun c =>
      ((T channel.1).engineTable c.resourceName).map Prod.fst
  | _ => S.engineOf channel

def newCalls (k : Nat) (s t : Session κ σ μ ε D) : List ((Nat × Nat) × EngineCall) :=
  (t.engineCalls.drop s.engineCalls.length).map fun call => ((k, call.1), call.2)

variable [DecidableEq E]

def Server.engineCall (S : Server E κ σ μ ε D) (call : (Nat × Nat) × EngineCall) : Server E κ σ μ ε D :=
  { S with
    engines := (S.engineFor T call.1 call.2).elim S.engines fun e =>
      Function.update S.engines e ((S.engines e).called call.2)
    engineOf := Function.update S.engineOf call.1 (S.engineFor T call.1 call.2)
    calls := S.calls ++ [call] }

def Server.granted (S : Server E κ σ μ ε D) : List ((Nat × Nat) × EngineCall) → Bool
  | [] => true
  | call :: calls =>
    (S.engineFor T call.1 call.2).all (fun e => (S.engines e).grants call.2) && (S.engineCall T call).granted calls

inductive ServerInput (E μ ε D : Type)
  | session (k : Nat) (environment : Environment) (input : Input μ ε D)
  | engineOpen (engine : E) (status : Bool)
  | engineOnOpen (engine : E) (status : Bool)
  | engineClose (engine : E) (status : Bool)
  | engineOnClose (engine : E)

def Server.modifyEngine (S : Server E κ σ μ ε D) (e : E) (f : Engine → Engine) : Server E κ σ μ ε D :=
  { S with engines := Function.update S.engines e (f (S.engines e)) }

def Server.setSession (S : Server E κ σ μ ε D) (k : Nat) (s : Session κ σ μ ε D) : Server E κ σ μ ε D :=
  { S with sessions := Function.update S.sessions k s }

variable [DecidableEq μ]

def Server.stepped (S : Server E κ σ μ ε D) (k : Nat) (environment : Environment) (input : Input μ ε D) :
    Session κ σ μ ε D := ((S.sessions k).step M (T k).profile (environment, input)).1

def Server.step (S : Server E κ σ μ ε D) : ServerInput E μ ε D → Server E κ σ μ ε D × Unit
  | .session k environment input =>
    let s := S.stepped M T k environment input
    ((newCalls k (S.sessions k) s).foldl (Server.engineCall T) (S.setSession k s), ())
  | .engineOpen e status => (S.modifyEngine e fun engine => (engine.virtualOpen status).1, ())
  | .engineOnOpen e status => (S.modifyEngine e (·.onOpen status), ())
  | .engineClose e status => (S.modifyEngine e fun engine => (engine.virtualClose status).1, ())
  | .engineOnClose e => (S.modifyEngine e Engine.onClose, ())

/-- An input can happen: it can happen to the session, and the engine channels that this is answered are those that
the engines grant. -/
def Server.enabled (S : Server E κ σ μ ε D) : ServerInput E μ ε D → Bool
  | .session k environment input =>
    let s := S.stepped M T k environment input
    (S.sessions k).enabled input && (S.setSession k s).granted T (newCalls k (S.sessions k) s)
  | _ => true

end Step

/-! ## Runs -/

section Runs

variable [DecidableEq E] {M : κ → StateMachine σ μ ε D} {T : Nat → ServerProfile E κ} {S : Server E κ σ μ ε D}

def Server.channelsOf (S : Server E κ σ μ ε D) (e : E) (call : EngineCall) : Finset (Nat × Nat) :=
  ((S.calls.filter fun c => c.2 = call ∧ S.engineOf c.1 = some e).map Prod.fst).toFinset

/-- **The engine channels of a server are balanced.** -/
structure Server.Balanced (S : Server E κ σ μ ε D) : Prop where
  /-- An engine counts the engine channels that are created and not destroyed. -/
  count : ∀ e, (S.engines e).curChannelCount = (S.channelsOf e .create \ S.channelsOf e .destroy).card
  limit : ∀ e, (S.engines e).maxChannelCount ≠ 0 → (S.engines e).curChannelCount ≤ (S.engines e).maxChannelCount
  proper : ∀ channel, Proper (callsOf channel S.calls)
  /-- Every engine channel of a session that was removed was destroyed. -/
  ended : ∀ k i, (S.sessions k).removed → .create ∈ callsOf (k, i) S.calls → .destroy ∈ callsOf (k, i) S.calls

variable {call : EngineCall} {channel : Nat × Nat}

theorem mem_channelsOf {e : E} :
    channel ∈ S.channelsOf e call ↔ call ∈ callsOf channel S.calls ∧ S.engineOf channel = some e := by
  unfold Server.channelsOf callsOf
  simp only [mem_toFinset, mem_map, mem_filter, decide_eq_true_eq, mem_filterMap]
  constructor
  · rintro ⟨⟨channel', call'⟩, ⟨hm, rfl, he⟩, rfl⟩
    exact ⟨⟨(channel', call'), hm, if_pos rfl⟩, he⟩
  · rintro ⟨⟨⟨channel', call'⟩, hm, hc⟩, he⟩
    split_ifs at hc with hh
    obtain rfl : call' = call := Option.some.inj hc
    subst hh
    exact ⟨(channel', call'), ⟨hm, rfl, he⟩, rfl⟩

structure Server.Counted (S : Server E κ σ μ ε D) : Prop where
  count : ∀ e, (S.engines e).curChannelCount = (S.channelsOf e .create \ S.channelsOf e .destroy).card
  limit : ∀ e, (S.engines e).Limited

variable (c : (Nat × Nat) × EngineCall)

theorem callsOf_engineCall (channel : Nat × Nat) :
    callsOf channel (S.engineCall T c).calls =
      callsOf channel S.calls ++ if c.1 = channel then [c.2] else [] := by
  unfold Server.engineCall
  rw [callsOf_append]
  obtain ⟨channel', call⟩ := c
  split_ifs with h
  · rw [show channel' = channel from h, callsOf_self]
  · rw [callsOf_other h]

theorem engineOf_engineCall (channel : Nat × Nat) :
    (S.engineCall T c).engineOf channel = if channel = c.1 then S.engineFor T c.1 c.2 else S.engineOf channel :=
  update_apply _ _ _ _

theorem engines_engineCall (e : E) :
    (S.engineCall T c).engines e =
      if S.engineFor T c.1 c.2 = some e then (S.engines e).called c.2 else S.engines e := by
  unfold Server.engineCall
  dsimp only
  cases S.engineFor T c.1 c.2 with
  | none => rfl
  | some e' =>
    rw [Option.elim_some, update_apply]
    by_cases h : e = e'
    · rw [if_pos h, if_pos (congrArg some h.symm), h]
    · rw [if_neg h, if_neg fun heq => h (Option.some.inj heq).symm]

theorem mem_channelsOf_engineCall {c : (Nat × Nat) × EngineCall} {e : E} :
    channel ∈ (S.engineCall T c).channelsOf e call ↔
      if channel = c.1 then (call ∈ callsOf channel S.calls ∨ call = c.2) ∧ S.engineFor T c.1 c.2 = some e
      else channel ∈ S.channelsOf e call := by
  rw [mem_channelsOf, callsOf_engineCall, engineOf_engineCall]
  by_cases h : channel = c.1
  · rw [if_pos h, if_pos h, if_pos h.symm, mem_append, mem_singleton]
  · rw [if_neg h, if_neg h, if_neg (Ne.symm h), append_nil, mem_channelsOf]

theorem limit_engineCall {c : (Nat × Nat) × EngineCall} (h : ∀ e, (S.engines e).Limited)
    (hg : ∀ e, S.engineFor T c.1 c.2 = some e → (S.engines e).grants c.2) (e : E) :
    ((S.engineCall T c).engines e).Limited := by
  rw [engines_engineCall]
  split_ifs with he
  · exact (h e).called (hg e he)
  · exact h e

theorem Server.Counted.create (h : S.Counted) (ha : callsOf channel S.calls = [])
    (hg : ∀ e, S.engineFor T channel .create = some e → (S.engines e).grants .create) :
    (S.engineCall T (channel, .create)).Counted := by
  refine ⟨fun e => ?_, limit_engineCall h.limit hg⟩
  have hn : ∀ call, channel ∉ S.channelsOf e call := by
    intro call hm
    rw [mem_channelsOf, ha] at hm
    exact not_mem_nil hm.1
  have hd : (S.engineCall T (channel, .create)).channelsOf e .destroy = S.channelsOf e .destroy := by
    ext channel'
    rw [mem_channelsOf_engineCall]
    by_cases hc : channel' = channel
    · subst hc
      simp [ha, hn]
    · rw [if_neg hc]
  rw [engines_engineCall, hd]
  by_cases he : S.engineFor T channel .create = some e
  · have hr : (S.engineCall T (channel, .create)).channelsOf e .create =
        insert channel (S.channelsOf e .create) := by
      ext channel'
      rw [mem_channelsOf_engineCall, Finset.mem_insert]
      by_cases hc : channel' = channel
      · simp [hc, he]
      · simp [hc]
    rw [if_pos he, hr, (called_create (hg e he)).1, h.count,
      Finset.insert_sdiff_of_notMem _ (hn _),
      Finset.card_insert_of_notMem fun hm => hn _ (Finset.mem_sdiff.1 hm).1]
  · have hr : (S.engineCall T (channel, .create)).channelsOf e .create = S.channelsOf e .create := by
      ext channel'
      rw [mem_channelsOf_engineCall]
      by_cases hc : channel' = channel
      · subst hc
        simp [he, hn]
      · rw [if_neg hc]
    rw [if_neg he, hr, h.count]

theorem Server.Counted.destroy (h : S.Counted) (hr : .create ∈ callsOf channel S.calls)
    (hk : .destroy ∉ callsOf channel S.calls) : (S.engineCall T (channel, .destroy)).Counted := by
  refine ⟨fun e => ?_, limit_engineCall h.limit fun _ _ => rfl⟩
  have hf : S.engineFor T channel .destroy = S.engineOf channel := rfl
  have hcr : (S.engineCall T (channel, .destroy)).channelsOf e .create = S.channelsOf e .create := by
    ext channel'
    rw [mem_channelsOf_engineCall]
    by_cases hc : channel' = channel
    · subst hc
      simp [mem_channelsOf, hf]
    · rw [if_neg hc]
  rw [engines_engineCall, hcr]
  by_cases he : S.engineOf channel = some e
  · have hd : (S.engineCall T (channel, .destroy)).channelsOf e .destroy =
        insert channel (S.channelsOf e .destroy) := by
      ext channel'
      rw [mem_channelsOf_engineCall, Finset.mem_insert]
      by_cases hc : channel' = channel
      · simp [hc, hf, he]
      · simp [hc]
    have hm : channel ∈ S.channelsOf e .create \ S.channelsOf e .destroy := by
      rw [Finset.mem_sdiff, mem_channelsOf, mem_channelsOf]
      exact ⟨⟨hr, he⟩, fun hde => hk hde.1⟩
    have hp := Finset.card_pos.2 ⟨channel, hm⟩
    have hn := h.count e
    rw [if_pos (hf.trans he), hd, Finset.sdiff_insert, Finset.card_erase_of_mem hm, ← hn]
    unfold called channelVirtualDestroy
    rw [if_pos (by omega)]
  · have hd : (S.engineCall T (channel, .destroy)).channelsOf e .destroy = S.channelsOf e .destroy := by
      ext channel'
      rw [mem_channelsOf_engineCall]
      by_cases hc : channel' = channel
      · subst hc
        simp [mem_channelsOf, hf, he]
      · rw [if_neg hc]
    rw [if_neg (show S.engineFor T channel .destroy ≠ some e from he), hd, h.count]

theorem Server.Counted.other (h : S.Counted) (hc : call ≠ .create) (hd : call ≠ .destroy) :
    (S.engineCall T (channel, call)).Counted := by
  have hf : S.engineFor T channel call = S.engineOf channel := by
    cases call <;> first | rfl | exact absurd rfl hc
  have hs : ∀ e, (S.engineCall T (channel, call)).engines e = S.engines e := by
    intro e
    rw [engines_engineCall]
    split_ifs
    · cases call <;> first | rfl | exact absurd rfl hc | exact absurd rfl hd
    · rfl
  have hch : ∀ e call', call' ≠ call → (S.engineCall T (channel, call)).channelsOf e call' = S.channelsOf e call' := by
    intro e call' hne
    ext channel'
    rw [mem_channelsOf_engineCall]
    by_cases hh : channel' = channel
    · subst hh
      simp [mem_channelsOf, hf, hne]
    · rw [if_neg hh]
  refine ⟨fun e => ?_, fun e => ?_⟩
  · rw [hs, hch e .create hc.symm, hch e .destroy hd.symm]
    exact h.count e
  · rw [hs]
    exact h.limit e

theorem Server.Counted.engineCall (h : S.Counted) {c : (Nat × Nat) × EngineCall}
    (hg : ∀ e, S.engineFor T c.1 c.2 = some e → (S.engines e).grants c.2)
    (ho : (Life.after (callsOf c.1 (S.calls ++ [c]))).isSome) : (S.engineCall T c).Counted := by
  obtain ⟨channel, call⟩ := c
  obtain ⟨life, hf⟩ := Option.isSome_iff_exists.1 ho
  rw [callsOf_append, callsOf_self] at hf
  obtain ⟨l, hl, hr⟩ := after_split hf
  obtain ⟨l', hn, -⟩ := foldlM_cons_inv hr
  rcases next_cases hn with ⟨rfl, rfl, -⟩ | ⟨_, -, rfl, -⟩ | ⟨_, -, rfl, -⟩ | ⟨rfl, rfl, -⟩
  · exact h.create (absent_nil hl) hg
  · exact h.other (by simp) (by simp)
  · exact h.other (by simp) (by simp)
  · obtain ⟨hc, hd⟩ := mem_calls hl
    exact h.destroy (hc.2 (by decide)) fun hm => absurd (hd.1 hm) (by decide)

theorem Server.Counted.foldl {calls : List ((Nat × Nat) × EngineCall)} (h : S.Counted) (hr : S.granted T calls)
    (ho : ∀ channel, (Life.after (callsOf channel (S.calls ++ calls))).isSome) :
    (calls.foldl (Server.engineCall T) S).Counted := by
  induction calls generalizing S with
  | nil => exact h
  | cons c calls ih =>
    obtain ⟨hg, hs⟩ := Bool.and_eq_true_iff.1 hr
    have hc : (S.engineCall T c).calls ++ calls = S.calls ++ c :: calls := by
      unfold Server.engineCall
      rw [append_assoc, singleton_append]
    refine ih (h.engineCall (fun e he => ?_) ?_) hs fun channel => ?_
    · rw [he, Option.all_some] at hg
      exact hg
    · -- what comes later does not make the calls so far any better
      obtain ⟨life, hf⟩ := Option.isSome_iff_exists.1 (ho c.1)
      rw [← singleton_append, ← append_assoc, callsOf_append] at hf
      obtain ⟨l, hl, -⟩ := after_split hf
      rw [hl]
      rfl
    · rw [hc]
      exact ho channel

/-- **The sessions and the engines of a server agree.** -/
structure Server.Agree (S : Server E κ σ μ ε D) : Prop extends S.Counted where
  handles : ∀ k, (S.sessions k).Handles
  calls : ∀ k i, callsOf (k, i) S.calls = callsOf i (S.sessions k).engineCalls

variable {s : Session κ σ μ ε D}

theorem Session.Called.callsOf_none (h : s.Called) {i : Nat} (he : s.engines[i]? = none) :
    callsOf i s.engineCalls = [] := by
  refine callsOf_notMem fun call hc hi => ?_
  have hlt := h.fresh call hc
  have hle := List.getElem?_eq_none_iff.1 he
  omega

theorem Session.Called.inOrder (h : s.Called) (i : Nat) : ∃ life, Life.after (callsOf i s.engineCalls) = some life := by
  rcases he : s.engines[i]? with _ | engine
  · rw [h.callsOf_none he]
    exact ⟨.absent, rfl⟩
  · have hl := h.life i engine he
    cases engine with
    | none => exact hl.elim (fun h => ⟨_, h⟩) fun h => ⟨_, h⟩
    | some isOpen => exact ⟨_, hl⟩

theorem Server.Agree.balanced (h : S.Agree) : S.Balanced := by
  refine ⟨h.count, h.limit, fun channel => ?_, fun k i hr hc => ?_⟩
  · rw [h.calls]
    exact proper_of_life ((h.handles channel.1).toCalled.inOrder channel.2).choose_spec
  · have hl := (h.handles k).toCalled
    rw [h.calls] at hc ⊢
    obtain ⟨life, hf⟩ := hl.inOrder i
    have hm := mem_calls hf
    rw [hm.2]
    have hp := hm.1.1 hc
    -- the channel has no engine channel any more, but had one
    rcases he : (S.sessions k).engines[i]? with _ | _ | isOpen
    · rw [hl.callsOf_none he] at hc
      cases hc
    · rcases hl.life i none he with ha | hd
      · exact absurd (Option.some.inj (hf.symm.trans ha)) hp
      · exact Option.some.inj (hf.symm.trans hd)
    · exact absurd he (hl.removed hr i isOpen)

theorem callsOf_newCalls (k : Nat) (s t : Session κ σ μ ε D) (channel : Nat × Nat) :
    callsOf channel (newCalls k s t) =
      if k = channel.1 then callsOf channel.2 (t.engineCalls.drop s.engineCalls.length) else [] := by
  obtain ⟨k', i⟩ := channel
  unfold newCalls callsOf
  rw [filterMap_map]
  split_ifs with hk
  · obtain rfl : k = k' := hk
    refine congrArg (fun f => List.filterMap f _) (funext fun call => ?_)
    show (if (k, call.1) = (k, i) then some call.2 else none) = if call.1 = i then some call.2 else none
    by_cases hi : call.1 = i
    · rw [if_pos hi, if_pos (congrArg (Prod.mk k) hi)]
    · rw [if_neg hi, if_neg fun heq => hi (congrArg Prod.snd heq)]
  · rw [filterMap_eq_nil_iff]
    intro call _
    exact if_neg fun heq => hk (congrArg Prod.fst heq)

theorem calls_foldl (calls : List ((Nat × Nat) × EngineCall)) (S : Server E κ σ μ ε D) :
    (calls.foldl (Server.engineCall T) S).calls = S.calls ++ calls ∧
      (calls.foldl (Server.engineCall T) S).sessions = S.sessions := by
  induction calls generalizing S with
  | nil => exact ⟨(append_nil _).symm, rfl⟩
  | cons call calls ih =>
    obtain ⟨hc, hs⟩ := ih (S.engineCall T call)
    exact ⟨hc.trans (append_assoc _ _ _), hs⟩

theorem Server.Agree.modifyEngine (h : S.Agree) (e : E) {f : Engine → Engine}
    (hc : ∀ engine, (f engine).curChannelCount = engine.curChannelCount)
    (hl : ∀ engine, (f engine).maxChannelCount = engine.maxChannelCount) : (S.modifyEngine e f).Agree := by
  have hs : ∀ e', ((S.modifyEngine e f).engines e').curChannelCount = (S.engines e').curChannelCount ∧
      ((S.modifyEngine e f).engines e').maxChannelCount = (S.engines e').maxChannelCount := by
    intro e'
    unfold Server.modifyEngine
    dsimp only
    rw [update_apply]
    split_ifs with he
    · rw [he]
      exact ⟨hc _, hl _⟩
    · exact ⟨rfl, rfl⟩
  refine ⟨⟨fun e' => (hs e').1.trans (h.count e'), fun e' => ?_⟩, h.handles, h.calls⟩
  unfold Engine.Limited
  rw [(hs e').1, (hs e').2]
  exact h.limit e'

theorem agree_create (maxChannelCount : E → Nat) : (Server.create maxChannelCount : Server E κ σ μ ε D).Agree := by
  refine ⟨⟨fun e => rfl, fun e _ => Nat.zero_le _⟩, fun k => ⟨⟨fun i engine hi => ?_, fun call hc => ?_, ?_⟩, ?_⟩,
    fun _ _ => rfl⟩
  · cases hi
  · cases hc
  · intro h
    cases h
  · intro h
    cases h

variable [DecidableEq μ]

theorem Session.removed_of_enabled {input : Input μ ε D} (h : s.enabled input) : s.removed = false := by
  have ha := Session.alive_of_enabled h
  unfold Session.alive at ha
  rw [Bool.and_eq_true_iff, Bool.not_eq_true'] at ha
  exact ha.1

/-- **A step of a session** is one of the server. -/
theorem Server.Agree.session (h : S.Agree) (k : Nat) (environment : Environment) (input : Input μ ε D)
    (he : S.enabled M T (.session k environment input)) :
    (S.step M T (.session k environment input)).1.Agree := by
  obtain ⟨hi, hg⟩ := Bool.and_eq_true_iff.1 he
  have hs : Handling (S.sessions k) (S.stepped M T k environment input) :=
    step_handling (environment, input) (Session.removed_of_enabled hi)
  obtain ⟨t, ht⟩ : ∃ t, t = S.stepped M T k environment input := ⟨_, rfl⟩
  obtain ⟨calls, hc⟩ : ∃ calls, calls = newCalls k (S.sessions k) t := ⟨_, rfl⟩
  have hl : (S.step M T (.session k environment input)).1 =
      calls.foldl (Server.engineCall T) (S.setSession k t) := by rw [hc, ht]; rfl
  rw [← ht] at hs
  rw [← ht, ← hc] at hg
  have hse : ∀ k', ((S.setSession k t).sessions k') = if k' = k then t else S.sessions k' :=
    fun k' => update_apply _ _ _ _
  have htl : t.engineCalls = (S.sessions k).engineCalls ++ t.engineCalls.drop (S.sessions k).engineCalls.length :=
    (prefix_append_drop hs.calls)
  have hh : ∀ k', ((S.setSession k t).sessions k').Handles := by
    intro k'
    rw [hse]
    split_ifs
    · exact hs.handles (h.handles k)
    · exact h.handles k'
  have ha : ∀ k' i, callsOf (k', i) (S.calls ++ calls) = callsOf i ((S.setSession k t).sessions k').engineCalls := by
    intro k' i
    rw [callsOf_append, hc, callsOf_newCalls, h.calls, hse]
    by_cases hk : k' = k
    · rw [if_pos hk.symm, if_pos hk, ← callsOf_append, hk, ← htl]
    · rw [if_neg (Ne.symm hk), if_neg hk, append_nil]
  rw [hl]
  obtain ⟨hf, hss⟩ := calls_foldl (T := T) calls (S.setSession k t)
  have hn : (S.setSession k t).Counted := ⟨h.count, h.limit⟩
  refine ⟨hn.foldl hg fun channel => ?_, fun k' => ?_, fun k' i => ?_⟩
  · show (Life.after (callsOf channel (S.calls ++ calls))).isSome
    rw [ha]
    exact Option.isSome_iff_exists.2 ((hh channel.1).toCalled.inOrder channel.2)
  · rw [hss]
    exact hh k'
  · rw [hf, hss]
    exact ha k' i

theorem Server.Agree.step (h : S.Agree) (input : ServerInput E μ ε D) (he : S.enabled M T input) :
    (S.step M T input).1.Agree := by
  cases input with
  | session k environment input => exact h.session k environment input he
  | engineOpen e status =>
    have hs : ∀ engine : Engine, (engine.virtualOpen status).1 = engine := by
      intro engine
      unfold virtualOpen
      split_ifs <;> rfl
    exact h.modifyEngine e (fun engine => congrArg _ (hs engine)) fun engine => congrArg _ (hs engine)
  | engineOnOpen e status => exact h.modifyEngine e (f := (·.onOpen status)) (fun _ => rfl) fun _ => rfl
  | engineClose e status =>
    have hs : ∀ engine : Engine, (engine.virtualClose status).1.curChannelCount = engine.curChannelCount ∧
        (engine.virtualClose status).1.maxChannelCount = engine.maxChannelCount := by
      intro engine
      unfold virtualClose
      split_ifs <;> exact ⟨rfl, rfl⟩
    exact h.modifyEngine e (fun engine => (hs engine).1) fun engine => (hs engine).2
  | engineOnClose e => exact h.modifyEngine e (f := onClose) (fun _ => rfl) fun _ => rfl

/-- **The engine channels of a server are balanced in every run.** -/
theorem engines_balanced {maxChannelCount : E → Nat} {inputs : List (ServerInput E μ ε D)}
    (h : EachStep (Server.step M T) (fun S input => S.enabled M T input) (Server.create maxChannelCount) inputs) :
    (run (Server.step M T) (Server.create maxChannelCount) inputs).1.Balanced :=
  (run_invariant Server.Agree (fun S input => S.enabled M T input) (fun _ input hS hi => hS.step input hi) _ inputs
    (agree_create maxChannelCount) h).balanced

end Runs

/-- The recorder of `recorderProfile` has an engine. -/
def recorderServerProfile : ServerProfile Unit Unit where
  mrcpVersion := recorderProfile.mrcpVersion
  resourceFind := recorderProfile.resourceFind
  engineTable name := (recorderProfile.engineFind name).map fun kind => ((), kind)
  codecList := recorderProfile.codecList

def recorderServerCall : List (ServerInput Unit RecorderMethod RecorderEvent Unit) :=
  [.engineOpen () true, .engineOnOpen () true] ++
    recorderCall.map (fun input => .session 0 input.1 input.2) ++ [.engineClose () true, .engineOnClose ()]

/-- The engine channels in this call, with an engine for one of them. -/
theorem engines_balanced_recorderServerCall :
    (run (Server.step (fun _ => recorderStateMachine plainHeaderOps) fun _ => recorderServerProfile)
      (Server.create fun _ => 1) recorderServerCall).1.Balanced :=
  engines_balanced (by decide +kernel)

end UniMrcp.MrcpServer
