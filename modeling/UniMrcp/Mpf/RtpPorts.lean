import UniMrcp.Lib.Ring

/-!
# RTP ports

The termination factory splits the configured range of ports among the media engines
(`mpf_rtp_termination_factory.c`), and a stream looks for a port in that of its engine (`mpf_rtp_stream.c`).
-/

namespace UniMrcp.Mpf

open Lib List

/-! ## The ranges and the search -/

def aprPort (n : Nat) : Nat := n % 65536

/-- The ports of `mpf_rtp_config_t`. -/
structure RtpPorts where
  portMin : Nat
  portMax : Nat
  portCur : Nat
deriving DecidableEq

def RtpPorts.advance (c : RtpPorts) : RtpPorts :=
  let cur := aprPort (c.portCur + 2)
  { c with portCur := if c.portMax ≤ cur then c.portMin else cur }

structure PortSearch where
  config : RtpPorts
  tried : List Nat
  found : Bool

/-- The loop of `mpf_rtp_stream_local_media_create`, where the `k`-th port that is tried is bound if `bind k`. -/
def portSearch (bind : Nat → Bool) (first : Nat) : Nat → Nat → RtpPorts → Option PortSearch
  | 0, _, _ => none
  | fuel + 1, k, c =>
    if bind k then some ⟨c.advance, [c.portCur], true⟩
    else if first = c.advance.portCur then some ⟨c.advance, [c.portCur], false⟩
    else (portSearch bind first fuel (k + 1) c.advance).map fun s => { s with tried := c.portCur :: s.tried }

structure MediaEngineSlot where
  mediaEngine : Nat
  rtpConfig : RtpPorts
deriving DecidableEq

structure RtpTerminationFactory where
  config : RtpPorts
  mediaEngineSlots : List MediaEngineSlot := []

def rtpTerminationFactoryCreate (config : RtpPorts) : RtpTerminationFactory :=
  { config := { config with portCur := config.portMin } }

def portsPerEngine (config : RtpPorts) (engines : Nat) : Nat :=
  let ports := aprPort ((config.portMax - config.portMin) / engines)
  if ports % 2 ≠ 0 then ports - 1 else ports

def rewriteSlots (ports : Nat) : Nat → List MediaEngineSlot → List MediaEngineSlot
  | _, [] => []
  | prev, [slot] => [{ slot with rtpConfig := { slot.rtpConfig with portMin := prev, portCur := prev } }]
  | prev, slot :: slots =>
    { slot with rtpConfig := ⟨prev, aprPort (prev + ports), prev⟩ } ::
      rewriteSlots ports (aprPort (prev + ports)) slots

/-- `mpf_rtp_factory_engine_assign` -/
def engineAssign (f : RtpTerminationFactory) (engine : Nat) : RtpTerminationFactory :=
  if f.mediaEngineSlots.any (·.mediaEngine == engine) then f
  else { f with mediaEngineSlots :=
    match f.mediaEngineSlots with
    | [] => [⟨engine, f.config⟩]
    | slot :: slots =>
      let ports := portsPerEngine f.config (slots.length + 2)
      let max := aprPort (slot.rtpConfig.portMin + ports)
      { slot with rtpConfig := { slot.rtpConfig with portMax := max } } ::
        rewriteSlots ports max (slots ++ [⟨engine, f.config⟩]) }

/-- The configuration of an engine, as `mpf_rtp_termination_add` looks it up. -/
def configOf (engine : Nat) (config : RtpPorts) : List MediaEngineSlot → RtpPorts
  | [] => config
  | slot :: slots => if slot.mediaEngine = engine then slot.rtpConfig else configOf engine config slots

/-- A search for a port, in the configuration of an engine. There are no more than 65536 ports to try. -/
def portAllocate (engine : Nat) (bind : Nat → Bool) (config : RtpPorts) :
    List MediaEngineSlot → Option (RtpTerminationFactory × PortSearch)
  | [] => (portSearch bind config.portCur 65536 0 config).map fun s => (⟨s.config, []⟩, s)
  | slot :: slots =>
    if slot.mediaEngine = engine then
      (portSearch bind slot.rtpConfig.portCur 65536 0 slot.rtpConfig).map fun s =>
        (⟨config, { slot with rtpConfig := s.config } :: slots⟩, s)
    else (portAllocate engine bind config slots).map fun r =>
      ({ r.1 with mediaEngineSlots := slot :: r.1.mediaEngineSlots }, r.2)

def RtpTerminationFactory.allocateAll (f : RtpTerminationFactory) :
    List (Nat × (Nat → Bool)) → Option RtpTerminationFactory
  | [] => some f
  | (engine, bind) :: rest =>
    (portAllocate engine bind f.config f.mediaEngineSlots).bind fun r => r.1.allocateAll rest

/-! ## One search -/

/-- The range has a port, and the cursor does not wrap around at 16 bits unless the range begins with 0. -/
structure RtpPorts.Sound (c : RtpPorts) : Prop where
  some : c.portMin < c.portMax
  bound : c.portMax ≤ 65535
  wrap : c.portMax < 65535 ∨ c.portMin % 2 = 1 ∨ c.portMin = 0

def RtpPorts.count (c : RtpPorts) : Nat := (c.portMax - c.portMin + 1) / 2

/-- The port that is tried after `i` others. -/
def RtpPorts.port (c : RtpPorts) (i : Nat) : Nat := c.portMin + 2 * (i % c.count)

variable {c : RtpPorts} {i k fuel : Nat} (bind : Nat → Bool)

theorem RtpPorts.Sound.count_pos (h : c.Sound) : 0 < c.count := by
  have := h.some
  unfold RtpPorts.count
  omega

theorem RtpPorts.Sound.port_spec (h : c.Sound) (i : Nat) :
    c.portMin ≤ c.port i ∧ c.port i < c.portMax ∧ 2 ∣ c.port i - c.portMin := by
  have hlt : i % c.count < c.count := Nat.mod_lt _ h.count_pos
  have := h.some
  unfold RtpPorts.port
  refine ⟨Nat.le_add_right _ _, ?_, ⟨i % c.count, Nat.add_sub_cancel_left ..⟩⟩
  have hc : 2 * c.count ≤ c.portMax - c.portMin + 1 := Nat.mul_div_le _ 2
  omega

theorem RtpPorts.Sound.advance (h : c.Sound) (hr : c.portCur = c.port i) :
    c.advance = { c with portCur := c.port (i + 1) } := by
  have hlt : i % c.count < c.count := Nat.mod_lt _ h.count_pos
  have hsc : (i + 1) % c.count = if i % c.count + 1 < c.count then i % c.count + 1 else 0 := by
    rw [← Nat.mod_add_mod]
    split_ifs with h1
    · exact Nat.mod_eq_of_lt h1
    · rw [show i % c.count + 1 = c.count by omega, Nat.mod_self]
  obtain ⟨hs, hb, hw⟩ := h
  have hc : c.count = (c.portMax - c.portMin + 1) / 2 := rfl
  have hp : c.port i = c.portMin + 2 * (i % c.count) := rfl
  have hn : c.port (i + 1) = c.portMin + 2 * ((i + 1) % c.count) := rfl
  unfold RtpPorts.advance aprPort
  rw [hn, hsc, hr, hp]
  dsimp only
  congr 1
  split_ifs <;> omega

theorem portSearch_spec (h : c.Sound) (hk : k < c.count) (hf : c.count ≤ k + fuel) (t : Nat) :
    ∃ s, portSearch bind (c.port i) fuel t { c with portCur := c.port (i + k) } = some s ∧
      s.tried = (range' k s.tried.length).map (fun j => c.port (i + j)) ∧ k + s.tried.length ≤ c.count ∧
      s.config = { c with portCur := c.port (i + k + s.tried.length) } := by
  induction fuel generalizing k t with
  | zero => omega
  | succ fuel ih =>
    have ha : ({ c with portCur := c.port (i + k) } : RtpPorts).advance = { c with portCur := c.port (i + k + 1) } :=
      RtpPorts.Sound.advance (c := { c with portCur := c.port (i + k) }) ⟨h.some, h.bound, h.wrap⟩ rfl
    unfold portSearch
    rw [ha]
    split_ifs with hb hr
    · exact ⟨_, rfl, rfl, hk, rfl⟩
    · exact ⟨_, rfl, rfl, hk, rfl⟩
    · have hn : k + 1 < c.count := by
        refine lt_of_le_of_ne hk fun heq => hr ?_
        unfold RtpPorts.port
        rw [Nat.add_assoc, heq, Nat.add_mod_right]
      obtain ⟨s, hs, ht, hl, hc⟩ := ih hn (by omega) (t + 1)
      refine ⟨_, by rw [Nat.add_assoc, hs]; rfl, ?_, ?_, ?_⟩
      · rw [length_cons, range'_succ, map_cons, ← ht]
      · rw [length_cons]
        omega
      · rw [length_cons, hc, show i + k + (s.tried.length + 1) = i + (k + 1) + s.tried.length by omega]

theorem portSearch_tried (h : c.Sound) (hr : c.portCur = c.port i) :
    ∃ s j, portSearch bind c.portCur 65536 0 c = some s ∧ s.config = { c with portCur := c.port j } ∧ s.tried.Nodup ∧
      ∀ port ∈ s.tried, c.portMin ≤ port ∧ port < c.portMax ∧ 2 ∣ port - c.portMin := by
  have hlt : i % c.count < c.count := Nat.mod_lt _ h.count_pos
  have hp : c.port (i % c.count) = c.port i := by unfold RtpPorts.port; rw [Nat.mod_mod]
  have hb := h.bound
  obtain ⟨s, hs, ht, hl, hc⟩ := portSearch_spec bind h h.count_pos
    (by unfold RtpPorts.count; omega : c.count ≤ 0 + 65536) 0
  rw [Nat.add_zero, hp, ← hr] at hs
  refine ⟨s, _, hs, hc, ?_, fun port hm => ?_⟩
  · rw [ht]
    refine (nodup_range' ..).map_on fun a ha b hb heq => ?_
    rw [mem_range'_1] at ha hb
    have hm : (i % c.count + a) % c.count = (i % c.count + b) % c.count := by unfold RtpPorts.port at heq; omega
    exact eq_of_add_mod (by omega) (by omega) hm
  · rw [ht] at hm
    obtain ⟨j, -, rfl⟩ := mem_map.1 hm
    exact h.port_spec _

/-! ## The ranges of the engines -/

/-- The ranges of `n` engines from `lo` on. -/
def layout (ports max : Nat) : Nat → Nat → List RtpPorts
  | _, 0 => []
  | lo, 1 => [⟨lo, max, lo⟩]
  | lo, n + 2 => ⟨lo, lo + ports, lo⟩ :: layout ports max (lo + ports) (n + 1)

variable {ports max lo n : Nat}

theorem rewriteSlots_layout (slot : MediaEngineSlot) (slots : List MediaEngineSlot)
    (h : lo + ports * slots.length ≤ 65535) :
    (rewriteSlots ports lo (slots ++ [slot])).map (·.rtpConfig) =
        layout ports slot.rtpConfig.portMax lo (slots.length + 1) ∧
      (rewriteSlots ports lo (slots ++ [slot])).map (·.mediaEngine) = (slots ++ [slot]).map (·.mediaEngine) := by
  induction slots generalizing lo with
  | nil => exact ⟨rfl, rfl⟩
  | cons first slots ih =>
    rw [length_cons, Nat.mul_succ] at h
    have hp : aprPort (lo + ports) = lo + ports := Nat.mod_eq_of_lt (by omega)
    have heq : rewriteSlots ports lo (first :: slots ++ [slot]) =
        { first with rtpConfig := ⟨lo, lo + ports, lo⟩ } :: rewriteSlots ports (lo + ports) (slots ++ [slot]) := by
      rw [← hp]
      cases slots <;> rfl
    obtain ⟨hl, he⟩ := ih (by omega : lo + ports + ports * slots.length ≤ 65535)
    rw [heq, map_cons, map_cons, hl, he]
    exact ⟨rfl, rfl⟩

theorem portsPerEngine_even (c : RtpPorts) (n : Nat) : portsPerEngine c n % 2 = 0 := by
  unfold portsPerEngine
  dsimp only
  split_ifs <;> omega

theorem portsPerEngine_spec (h : c.portMin < c.portMax) (hx : c.portMax ≤ 65535) (hn : 0 < n) :
    c.portMin + portsPerEngine c n * n ≤ c.portMax ∧ (2 * n ≤ c.portMax - c.portMin → 2 ≤ portsPerEngine c n) := by
  have hle : (c.portMax - c.portMin) / n ≤ c.portMax - c.portMin := Nat.div_le_self _ _
  have hr : aprPort ((c.portMax - c.portMin) / n) = (c.portMax - c.portMin) / n := Nat.mod_eq_of_lt (by omega)
  have hl : (c.portMax - c.portMin) / n * n ≤ c.portMax - c.portMin := Nat.div_mul_le_self _ _
  have hp : portsPerEngine c n ≤ (c.portMax - c.portMin) / n := by
    unfold portsPerEngine
    rw [hr]
    dsimp only
    split_ifs <;> omega
  have := Nat.mul_le_mul_right n hp
  refine ⟨by omega, fun hm => ?_⟩
  have h2 : 2 ≤ (c.portMax - c.portMin) / n := (Nat.le_div_iff_mul_le hn).2 hm
  unfold portsPerEngine
  rw [hr]
  dsimp only
  split_ifs <;> omega

structure Assigned (c : RtpPorts) (engines : List Nat) (f : RtpTerminationFactory) : Prop where
  whole : f.config = { c with portCur := c.portMin }
  names : f.mediaEngineSlots.map (·.mediaEngine) = engines
  laid : f.mediaEngineSlots.map (·.rtpConfig) =
    layout (portsPerEngine c engines.length) c.portMax c.portMin engines.length

variable {engines : List Nat} {f : RtpTerminationFactory}

theorem Assigned.assign (h : Assigned c engines f) {engine : Nat} (hn : engine ∉ engines)
    (hmn : c.portMin < c.portMax) (hx : c.portMax ≤ 65535) :
    Assigned c (engines ++ [engine]) (engineAssign f engine) := by
  obtain ⟨hc, rfl, hl⟩ := h
  have ha : ¬ f.mediaEngineSlots.any (·.mediaEngine == engine) := by
    rw [any_eq_true]
    rintro ⟨slot, hm, heq⟩
    exact hn (mem_map.2 ⟨slot, hm, by simpa using heq⟩)
  unfold engineAssign
  rw [if_neg ha]
  cases hs : f.mediaEngineSlots with
  | nil =>
    refine ⟨hc, rfl, ?_⟩
    rw [map_singleton, hc]
    rfl
  | cons slot slots =>
    rw [hs, length_map, length_cons] at hl
    have hh : slot.rtpConfig.portMin = c.portMin ∧ slot.rtpConfig.portCur = c.portMin := by
      cases slots <;>
        exact ⟨(congrArg RtpPorts.portMin (cons.inj hl).1 :), (congrArg RtpPorts.portCur (cons.inj hl).1 :)⟩
    obtain ⟨hle, -⟩ := portsPerEngine_spec (n := slots.length + 2) hmn hx (Nat.succ_pos _)
    have hp : portsPerEngine f.config = portsPerEngine c := by rw [hc]; rfl
    rw [Nat.mul_add] at hle
    have hr : aprPort (c.portMin + portsPerEngine c (slots.length + 2)) =
        c.portMin + portsPerEngine c (slots.length + 2) := Nat.mod_eq_of_lt (by omega)
    obtain ⟨hla, hnm⟩ := rewriteSlots_layout ⟨engine, f.config⟩ slots
      (by omega : c.portMin + portsPerEngine c (slots.length + 2) +
        portsPerEngine c (slots.length + 2) * slots.length ≤ 65535)
    refine ⟨hc, ?_, ?_⟩
    · dsimp only
      rw [hp, hh.1, hr, map_cons, hnm, map_append]
      rfl
    · dsimp only
      rw [hp, hh.1, hh.2, hr, map_cons, hla, hc]
      simp only [length_append, length_map, length_cons, length_nil]
      rfl

theorem assigned (h : c.portMin < c.portMax) (hx : c.portMax ≤ 65535) (hn : engines.Nodup) :
    Assigned c engines (engines.foldl engineAssign (rtpTerminationFactoryCreate c)) := by
  induction engines using List.reverseRecOn with
  | nil => exact ⟨rfl, rfl, rfl⟩
  | append_singleton engines engine ih =>
    rw [foldl_append]
    exact (ih (hn.sublist (sublist_append_left _ _))).assign
      (fun hm => disjoint_of_nodup_append hn hm (mem_singleton_self _)) h hx

theorem mem_layout (hp : ports % 2 = 0) (hl : lo < max) (hrm : n ≤ 1 ∨ 2 ≤ ports ∧ lo + ports * n ≤ max)
    (hc : c ∈ layout ports max lo n) :
    lo ≤ c.portMin ∧ c.portMin < c.portMax ∧ c.portMax ≤ max ∧ c.portCur = c.portMin ∧
      (c.portMax < max ∨ c.portMin % 2 = lo % 2 ∧ (n ≤ 1 → c.portMin = lo)) := by
  induction n generalizing lo with
  | zero => cases hc
  | succ n ih =>
    cases n with
    | zero =>
      obtain rfl := mem_singleton.1 hc
      exact ⟨le_rfl, hl, le_rfl, rfl, Or.inr ⟨rfl, fun _ => rfl⟩⟩
    | succ n =>
      obtain ⟨h2, hle⟩ := hrm.resolve_left (by omega)
      rw [Nat.mul_succ] at hle
      have hml : 2 * 1 ≤ ports * (n + 1) := Nat.mul_le_mul h2 (Nat.succ_pos n)
      rcases mem_cons.1 hc with rfl | hc
      · exact ⟨le_rfl, by simpa using by omega, by simpa using by omega, rfl, Or.inl (by simpa using by omega)⟩
      · obtain ⟨h1, hlt, hm, hr, ho⟩ := ih (by omega : lo + ports < max) (Or.inr ⟨h2, by omega⟩) hc
        exact ⟨by omega, hlt, hm, hr, ho.imp_right fun h => ⟨by omega, fun h => by omega⟩⟩

theorem layout_pairwise (hp : ports % 2 = 0) (hlo : lo < max) (hm : n ≤ 1 ∨ 2 ≤ ports ∧ lo + ports * n ≤ max) :
    (layout ports max lo n).Pairwise fun a b => a.portMax ≤ b.portMin := by
  induction n generalizing lo with
  | zero => exact Pairwise.nil
  | succ n ih =>
    cases n with
    | zero => exact pairwise_singleton _ _
    | succ n =>
      obtain ⟨h2, hle⟩ := hm.resolve_left (by omega)
      rw [Nat.mul_succ] at hle
      have hl : 2 * 1 ≤ ports * (n + 1) := Nat.mul_le_mul h2 (Nat.succ_pos n)
      have hr : n + 1 ≤ 1 ∨ 2 ≤ ports ∧ lo + ports + ports * (n + 1) ≤ max := Or.inr ⟨h2, by omega⟩
      exact pairwise_cons.2 ⟨fun b hb => (mem_layout hp (by omega) hr hb).1, ih (by omega) hr⟩

/-! ## Runs of searches -/

def Moved (c₀ c : RtpPorts) : Prop := c₀.Sound ∧ ∃ i, c = { c₀ with portCur := c₀.port i }

def MovedSlot (s₀ s : MediaEngineSlot) : Prop := s₀.mediaEngine = s.mediaEngine ∧ Moved s₀.rtpConfig s.rtpConfig

theorem Moved.search {c₀ : RtpPorts} (h : Moved c₀ c) :
    ∃ s, portSearch bind c.portCur 65536 0 c = some s ∧ Moved c₀ s.config ∧ s.tried.Nodup ∧
      ∀ port ∈ s.tried, c₀.portMin ≤ port ∧ port < c₀.portMax ∧ 2 ∣ port - c₀.portMin := by
  obtain ⟨hs, i, rfl⟩ := h
  obtain ⟨s, j, hr, hc, hn, ht⟩ := portSearch_tried bind (i := i)
    (c := { c₀ with portCur := c₀.port i }) ⟨hs.some, hs.bound, hs.wrap⟩ rfl
  exact ⟨s, hr, ⟨hs, j, hc⟩, hn, ht⟩

theorem allocate_spec {c₀ : RtpPorts} {slots₀ slots : List MediaEngineSlot} (hc : Moved c₀ c)
    (hs : Forall₂ MovedSlot slots₀ slots) (engine : Nat) :
    ∃ r, portAllocate engine bind c slots = some r ∧ Moved c₀ r.1.config ∧
      Forall₂ MovedSlot slots₀ r.1.mediaEngineSlots ∧ r.2.tried.Nodup ∧
      ∀ port ∈ r.2.tried, (configOf engine c₀ slots₀).portMin ≤ port ∧ port < (configOf engine c₀ slots₀).portMax ∧
        2 ∣ port - (configOf engine c₀ slots₀).portMin := by
  induction hs with
  | nil =>
    obtain ⟨s, h, hm, ht⟩ := hc.search bind
    exact ⟨(⟨s.config, []⟩, s), by unfold portAllocate; rw [h]; rfl, hm, Forall₂.nil, ht⟩
  | @cons slot₀ slot slots₀ slots hl hs ih =>
    unfold portAllocate configOf
    rw [hl.1]
    split_ifs with heq
    · obtain ⟨s, h, hm, ht⟩ := hl.2.search bind
      exact ⟨(⟨c, { slot with rtpConfig := s.config } :: slots⟩, s), by rw [h]; rfl, hc,
        Forall₂.cons ⟨hl.1, hm⟩ hs, ht⟩
    · obtain ⟨r, hr, hm, hrs, ht⟩ := ih
      exact ⟨({ r.1 with mediaEngineSlots := slot :: r.1.mediaEngineSlots }, r.2), by rw [hr]; rfl, hm,
        Forall₂.cons hl hrs, ht⟩

theorem allocateAll_spec {c₀ : RtpPorts} {slots₀ : List MediaEngineSlot} (searches : List (Nat × (Nat → Bool)))
    (hc : Moved c₀ f.config) (hs : Forall₂ MovedSlot slots₀ f.mediaEngineSlots) :
    ∃ f', f.allocateAll searches = some f' ∧ Moved c₀ f'.config ∧ Forall₂ MovedSlot slots₀ f'.mediaEngineSlots := by
  induction searches generalizing f with
  | nil => exact ⟨f, rfl, hc, hs⟩
  | cons search searches ih =>
    obtain ⟨r, hr, hm, hrs, -⟩ := allocate_spec search.2 hc hs search.1
    obtain ⟨f', hf, h⟩ := ih hm hrs
    exact ⟨f', by unfold RtpTerminationFactory.allocateAll; rw [hr]; exact hf, h⟩

/-- The engines have ranges of their own. After any searches, each search ends, and tries ports of its range, even ones
above the first, each once. -/
structure PortsShared (config : RtpPorts) (f : RtpTerminationFactory) : Prop where
  inside : ∀ slot ∈ f.mediaEngineSlots, config.portMin ≤ slot.rtpConfig.portMin ∧
    slot.rtpConfig.portMin < slot.rtpConfig.portMax ∧ slot.rtpConfig.portMax ≤ config.portMax
  disjoint : f.mediaEngineSlots.Pairwise fun a b => a.rtpConfig.portMax ≤ b.rtpConfig.portMin
  searches : ∀ (searches : List (Nat × (Nat → Bool))) (engine : Nat) (bind : Nat → Bool),
    let range := configOf engine f.config f.mediaEngineSlots
    ∃ f' r, f.allocateAll searches = some f' ∧
      portAllocate engine bind f'.config f'.mediaEngineSlots = some r ∧ r.2.tried.Nodup ∧
      ∀ port ∈ r.2.tried, range.portMin ≤ port ∧ port < range.portMax ∧ 2 ∣ port - range.portMin

theorem Moved.start (h : c.Sound) (hc : c.portCur = c.portMin) : Moved c c := by
  obtain ⟨lo, _, cur⟩ := c
  obtain rfl : cur = lo := hc
  exact ⟨h, 0, by unfold RtpPorts.port; rw [Nat.zero_mod]; rfl⟩

/-- **The ports are shared**, where there are two ports for each of several engines and the range does not end with the
last port of all. -/
theorem ports_shared (hmin : c.portMin < c.portMax) (hmax : c.portMax ≤ 65535) (hnd : engines.Nodup)
    (hroom : engines.length ≤ 1 ∨ 2 * engines.length ≤ c.portMax - c.portMin)
    (hwrap : c.portMax < 65535 ∨ c.portMin % 2 = 1 ∨ c.portMin = 0 ∧ engines.length ≤ 1) :
    PortsShared c (engines.foldl engineAssign (rtpTerminationFactoryCreate c)) := by
  obtain ⟨hwhole, -, hlaid⟩ := assigned hmin hmax hnd
  generalize engines.foldl engineAssign (rtpTerminationFactoryCreate c) = f at *
  have hp := portsPerEngine_even c engines.length
  have hfit : engines.length ≤ 1 ∨ 2 ≤ portsPerEngine c engines.length ∧
      c.portMin + portsPerEngine c engines.length * engines.length ≤ c.portMax := by
    rcases Nat.eq_zero_or_pos engines.length with hz | hpos
    · exact Or.inl (by omega)
    · obtain ⟨hle, h2⟩ := portsPerEngine_spec hmin hmax hpos
      exact hroom.imp_right fun h => ⟨h2 h, hle⟩
  have hslot : ∀ slot ∈ f.mediaEngineSlots, _ := fun slot hm =>
    mem_layout hp hmin hfit (hlaid ▸ mem_map_of_mem (f := MediaEngineSlot.rtpConfig) hm)
  have hsound : ∀ slot ∈ f.mediaEngineSlots, slot.rtpConfig.Sound := fun slot hm => by
    obtain ⟨h1, hlt, hle, -, hor⟩ := hslot slot hm
    exact ⟨hlt, by omega, by omega⟩
  refine ⟨fun slot hm => ?_, ?_, fun searches engine bind => ?_⟩
  · obtain ⟨h1, hlt, hle, -⟩ := hslot slot hm
    exact ⟨h1, hlt, hle⟩
  · exact pairwise_map.1 (hlaid ▸ layout_pairwise hp hmin hfit)
  · have hconfig : Moved f.config f.config := by
      rw [hwhole]
      exact Moved.start ⟨hmin, hmax, by dsimp only; omega⟩ rfl
    have hslots : Forall₂ MovedSlot f.mediaEngineSlots f.mediaEngineSlots := forall₂_same.2 fun slot hm =>
      ⟨rfl, Moved.start (hsound slot hm) (hslot slot hm).2.2.2.1⟩
    obtain ⟨f', hf, hc, hs⟩ := allocateAll_spec searches hconfig hslots
    obtain ⟨r, hr, -, -, ht⟩ := allocate_spec bind hc hs engine
    exact ⟨f', r, hf, hr, ht⟩

theorem ports_shared_two :
    PortsShared ⟨5000, 6000, 0⟩ ([1, 2].foldl engineAssign (rtpTerminationFactoryCreate ⟨5000, 6000, 0⟩)) :=
  ports_shared (by decide) (by decide) (by decide) (by decide) (by decide)

/-- The cursor goes from the last port to 0. -/
theorem ports_wrap : ¬ PortsShared ⟨65532, 65535, 0⟩
    ([1].foldl engineAssign (rtpTerminationFactoryCreate ⟨65532, 65535, 0⟩)) := by
  intro h
  obtain ⟨f, r, hf, hr, -, ht⟩ := h.searches [(1, fun _ => true), (1, fun _ => true)] 1 fun _ => true
  obtain rfl := Option.some.inj hf
  obtain rfl := Option.some.inj hr
  exact absurd (ht 0 mem_cons_self).1 (by decide)

end UniMrcp.Mpf
