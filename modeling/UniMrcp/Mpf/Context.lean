import UniMrcp.Lib.Incidence
import UniMrcp.Lib.Loop
import UniMrcp.Lib.Run
import UniMrcp.Mpf.Frame

/-!
# Media contexts

The association matrix of `mpf_context.c`: terminations are placed in slots, associations between them are switched on
and off, and the topology is built from the matrix. A termination and its audio stream have one name; the context is the
only one of its factory that is followed.
-/

namespace UniMrcp.Mpf

open Lib

variable {τ : Type} [DecidableEq τ]

/-- Media processing objects. A mixer knows the frame size of each source, and has the sizes of its frame and of its
mixed frame. -/
inductive MpfObject (τ : Type) where
  | bridge (source sink : τ)
  | multiplier (source : τ) (sinks : List τ)
  | mixer (sources : List (τ × ℕ)) (sink : τ) (frameSize mixSize : ℕ)
  deriving DecidableEq

structure HeaderItem (τ : Type) where
  termination : Option τ
  txCount : UInt8
  rxCount : UInt8
  deriving DecidableEq

/-- `mpf_context_t`, and whether it is linked in the ring of its factory. -/
structure MpfContext (τ : Type) where
  capacity : ℕ
  count : ℕ
  header : ℕ → HeaderItem τ
  matrix : ℕ → ℕ → Bool
  linked : Bool
  objects : List (MpfObject τ)

/-- The context, the slot of each termination, and the direction of its audio stream where there is one. -/
structure MpfMedia (τ : Type) where
  context : MpfContext τ
  slot : τ → ℕ
  audioStream : τ → Option StreamDirection

def mpfContextCreate (maxTerminationCount : ℕ) : MpfContext τ :=
  { capacity := maxTerminationCount
    count := 0
    header := fun _ => ⟨none, 0, 0⟩
    matrix := fun _ _ => false
    linked := false
    objects := [] }

/-- The slot `(apr_size_t)-1`. -/
def noSlot : ℕ := 2 ^ 64 - 1

namespace MpfContext

variable (c : MpfContext τ)

def occupied (i : ℕ) : Bool := (c.header i).termination.isSome

def slots : Finset ℕ := Finset.range c.capacity

/-- `item->on = 0` with the counts of the source and the sink, where the item is on. -/
def switchOff (i j : ℕ) : MpfContext τ :=
  if c.matrix i j then
    { c with
      matrix := setEntry c.matrix i j false
      header := fun a =>
        { c.header a with
          txCount := if a = i then (c.header a).txCount - 1 else (c.header a).txCount
          rxCount := if a = j then (c.header a).rxCount - 1 else (c.header a).rxCount } }
  else c

/-- `item->on = 1` with the counts of the source and the sink, where the item is off and the directions are
compatible. -/
def switchOn (i j : ℕ) (compatible : Bool) : MpfContext τ :=
  if c.matrix i j then c
  else if compatible then
    { c with
      matrix := setEntry c.matrix i j true
      header := fun a =>
        { c.header a with
          txCount := if a = i then (c.header a).txCount + 1 else (c.header a).txCount
          rxCount := if a = j then (c.header a).rxCount + 1 else (c.header a).rxCount } }
  else c

end MpfContext

def streamDirectionCompatibilityCheck (source sink : Option StreamDirection) : Bool :=
  match source, sink with
  | some a, some b => a.receives && b.sends
  | _, _ => false

/-- `mpf_context_termination_add`: the first slot that is free. -/
def mpfContextTerminationAdd (s : MpfMedia τ) (t : τ) : MpfMedia τ × Bool :=
  let c := s.context
  match (List.range c.capacity).find? fun i => !c.occupied i with
  | some i =>
    ({ s with
      context :=
        { c with
          linked := if c.count = 0 then true else c.linked
          header := Function.update c.header i ⟨some t, 0, 0⟩
          count := c.count + 1 }
      slot := Function.update s.slot t i }, true)
  | none => (s, false)

/-- The body of the loop of `mpf_context_termination_subtract`: both items of slots `i` and `j`. -/
def MpfContext.dissociate (i : ℕ) (c : MpfContext τ) (j : ℕ) : MpfContext τ := (c.switchOff i j).switchOff j i

def mpfContextTerminationSubtract (s : MpfMedia τ) (t : τ) : MpfMedia τ × Bool :=
  let i := s.slot t
  if s.context.capacity ≤ i then (s, false)
  else if (s.context.header i).termination ≠ some t then (s, false)
  else
    let c := loopOccupied MpfContext.occupied MpfContext.count (MpfContext.dissociate i)
      (List.range s.context.capacity) 0 s.context
    ({ s with
      context :=
        { c with
          header := Function.update c.header i { c.header i with termination := none }
          count := c.count - 1
          linked := if c.count - 1 = 0 then false else c.linked }
      slot := Function.update s.slot t noSlot }, true)

def MpfMedia.Placed (s : MpfMedia τ) (t u : τ) : Prop :=
  (s.slot t < s.context.capacity ∧ s.slot u < s.context.capacity) ∧
    (s.context.header (s.slot t)).termination = some t ∧ (s.context.header (s.slot u)).termination = some u

instance (s : MpfMedia τ) (t u : τ) : Decidable (s.Placed t u) := inferInstanceAs (Decidable (_ ∧ _))

def mpfContextAssociationAdd (s : MpfMedia τ) (t u : τ) : MpfMedia τ × Bool :=
  if s.Placed t u then
    let i := s.slot t
    let j := s.slot u
    let c := s.context.switchOn i j (streamDirectionCompatibilityCheck (s.audioStream t) (s.audioStream u))
    let c := c.switchOn j i (streamDirectionCompatibilityCheck (s.audioStream u) (s.audioStream t))
    ({ s with context := c }, true)
  else (s, false)

def mpfContextAssociationRemove (s : MpfMedia τ) (t u : τ) : MpfMedia τ × Bool :=
  if s.Placed t u then ({ s with context := s.context.dissociate (s.slot t) (s.slot u) }, true) else (s, false)

/-- The body of the outer loop of `mpf_context_associations_reset`: the rest of the row and the column of a slot. -/
def MpfContext.resetSlot (c : MpfContext τ) (i : ℕ) : MpfContext τ :=
  if (c.header i).txCount = 0 ∧ (c.header i).rxCount = 0 then c
  else (List.range' i (c.capacity - i)).foldl (fun c j => if c.occupied j then c.dissociate i j else c) c

def mpfContextTopologyDestroy (c : MpfContext τ) : MpfContext τ := { c with objects := [] }

def mpfContextAssociationsReset (s : MpfMedia τ) : MpfMedia τ :=
  { s with
    context := loopOccupied MpfContext.occupied MpfContext.count MpfContext.resetSlot
      (List.range s.context.capacity) 0 (mpfContextTopologyDestroy s.context) }

/-! ## Topology -/

/-- Whether a bridge can be created between two streams, whether a receiver or a transmitter is valid, and the sizes of
frames. -/
structure Converters (τ : Type) where
  bridge : τ → τ → Bool
  rxValid : τ → Bool
  txValid : τ → Bool
  rxSize : τ → ℕ
  txSize : τ → ℕ

def MpfMedia.streamOf (s : MpfMedia τ) (i : ℕ) : Option τ :=
  (s.context.header i).termination.filter fun t => (s.audioStream t).isSome

/-- The slots whose termination is a sink of slot `i`, in order. -/
def MpfContext.sinksOf (c : MpfContext τ) (i : ℕ) : List ℕ :=
  (List.range c.capacity).filter fun j => c.occupied j && c.matrix i j

/-- The slots whose termination is a source of slot `j`, in order. -/
def MpfContext.sourcesOf (c : MpfContext τ) (j : ℕ) : List ℕ :=
  (List.range c.capacity).filter fun i => c.occupied i && c.matrix i j

/-- `mpf_context_bridge_create`: to the first sink, unless a mixer will be created for it instead. -/
def mpfContextBridgeCreate (found : Converters τ) (s : MpfMedia τ) (i : ℕ) : Option (MpfObject τ) :=
  match (s.context.sinksOf i).head? with
  | none => none
  | some j =>
    if 1 < (s.context.header j).rxCount then none
    else
      match s.streamOf i, s.streamOf j with
      | some source, some sink => if found.bridge source sink then some (.bridge source sink) else none
      | _, _ => none

/-- `mpf_context_multiplier_create`: to as many sinks as are counted. -/
def mpfContextMultiplierCreate (found : Converters τ) (s : MpfMedia τ) (i : ℕ) : Option (MpfObject τ) :=
  match s.streamOf i with
  | none => none
  | some source =>
    if found.rxValid source then
      some (.multiplier source
        (((s.context.sinksOf i).take (s.context.header i).txCount.toNat).filterMap s.streamOf))
    else none

/-- `mpf_context_mixer_create`: from as many sources as are counted. -/
def mpfContextMixerCreate (found : Converters τ) (s : MpfMedia τ) (j : ℕ) : Option (MpfObject τ) :=
  match s.streamOf j with
  | none => none
  | some sink =>
    if found.txValid sink then
      some (.mixer (((s.context.sourcesOf j).take (s.context.header j).rxCount.toNat).filterMap fun i =>
        (s.streamOf i).map fun source => (source, found.rxSize source)) sink (found.txSize sink) (found.txSize sink))
    else none

/-- The object that slot `i` makes as a source. -/
def mpfContextSourceObject (found : Converters τ) (s : MpfMedia τ) (i : ℕ) : Option (MpfObject τ) :=
  if 0 < (s.context.header i).txCount then
    if (s.context.header i).txCount = 1 then mpfContextBridgeCreate found s i
    else mpfContextMultiplierCreate found s i
  else none

/-- The object that slot `i` makes as a sink. -/
def mpfContextSinkObject (found : Converters τ) (s : MpfMedia τ) (i : ℕ) : Option (MpfObject τ) :=
  if 1 < (s.context.header i).rxCount then mpfContextMixerCreate found s i else none

/-- The body of the loop of `mpf_context_topology_apply`, with `mpf_context_object_add` of what was created. -/
def mpfContextSlotApply (found : Converters τ) (s : MpfMedia τ) (i : ℕ) : MpfMedia τ :=
  { s with
    context :=
      { s.context with
        objects := s.context.objects ++ ((mpfContextSourceObject found s i).toList ++
          (mpfContextSinkObject found s i).toList) } }

def mpfContextTopologyApply (found : Converters τ) (s : MpfMedia τ) : MpfMedia τ :=
  loopOccupied (fun s => s.context.occupied) (fun s => s.context.count) (mpfContextSlotApply found)
    (List.range s.context.capacity) 0 { s with context := mpfContextTopologyDestroy s.context }

/-- A frame is read from a source, or a frame is written to a sink with what was read from some sources. -/
inductive StreamEvent (τ : Type) where
  | read (source : τ)
  | write (sink : τ) (sources : List τ)
  deriving DecidableEq

/-- A frame is read and mixed, if it has the size of the mixed frame. A source that is decoded sets the size. -/
def mpfFramesMix (decodes : τ → Bool) (mixSize : ℕ) (r : ℕ × List τ) (source : τ × ℕ) : ℕ × List τ :=
  let size := if decodes source.1 then source.2 else r.1
  (size, if mixSize = size then r.2 ++ [source.1] else r.2)

/-- The `process` function of an object: the object after it, and the frames read and written. -/
def MpfObject.process (decodes : τ → Bool) : MpfObject τ → MpfObject τ × List (StreamEvent τ)
  | .bridge source sink => (.bridge source sink, [.read source, .write sink [source]])
  | .multiplier source sinks =>
    (.multiplier source sinks, .read source :: sinks.map fun sink => .write sink [source])
  | .mixer sources sink frameSize mixSize =>
    let mixed := sources.foldl (mpfFramesMix decodes mixSize) (frameSize, [])
    (.mixer sources sink mixed.1 mixSize, (sources.map fun source => .read source.1) ++ [.write sink mixed.2])

/-- `mpf_context_process` in a tick in which some sources have a frame decoded. -/
def mpfContextProcess (c : MpfContext τ) (decodes : τ → Bool) : MpfContext τ × List (StreamEvent τ) :=
  ({ c with objects := c.objects.map fun object => (object.process decodes).1 },
    c.objects.flatMap fun object => (object.process decodes).2)

/-- `mpf_context_factory_process`, as far as this context goes. -/
def mpfContextFactoryProcess (c : MpfContext τ) (decodes : τ → Bool) : MpfContext τ × List (StreamEvent τ) :=
  if c.linked then mpfContextProcess c decodes else (c, [])

/-- The operations on the context, and what happens elsewhere to the directions and the slots of terminations. -/
inductive ContextOp (τ : Type) where
  | terminationAdd (t : τ)
  | terminationSubtract (t : τ)
  | associationAdd (t u : τ)
  | associationRemove (t u : τ)
  | associationsReset
  | topologyApply (found : Converters τ)
  | topologyDestroy
  | process (decodes : τ → Bool)
  | streamSet (t : τ) (direction : StreamDirection)
  | slotSet (t : τ) (i : ℕ)

def mpfMediaStep (s : MpfMedia τ) : ContextOp τ → MpfMedia τ × List (StreamEvent τ)
  | .terminationAdd t => ((mpfContextTerminationAdd s t).1, [])
  | .terminationSubtract t => ((mpfContextTerminationSubtract s t).1, [])
  | .associationAdd t u => ((mpfContextAssociationAdd s t u).1, [])
  | .associationRemove t u => ((mpfContextAssociationRemove s t u).1, [])
  | .associationsReset => (mpfContextAssociationsReset s, [])
  | .topologyApply found => (mpfContextTopologyApply found s, [])
  | .topologyDestroy => ({ s with context := mpfContextTopologyDestroy s.context }, [])
  | .process decodes =>
    let tick := mpfContextFactoryProcess s.context decodes
    ({ s with context := tick.1 }, tick.2)
  | .streamSet t direction => ({ s with audioStream := Function.update s.audioStream t (some direction) }, [])
  | .slotSet t i => ({ s with slot := Function.update s.slot t i }, [])

def MpfMedia.Holds (s : MpfMedia τ) (t : τ) : Prop :=
  ∃ i ∈ List.range s.context.capacity, (s.context.header i).termination = some t

instance (s : MpfMedia τ) (t : τ) : Decidable (s.Holds t) :=
  inferInstanceAs (Decidable (∃ i ∈ List.range s.context.capacity, _))

/-- A termination is added, or gets its slot from another context, only when it is not in the context. -/
def ContextOp.Allowed (s : MpfMedia τ) : ContextOp τ → Prop
  | .terminationAdd t => ¬ s.Holds t
  | .slotSet t _ => ¬ s.Holds t
  | _ => True

instance (s : MpfMedia τ) (op : ContextOp τ) : Decidable (op.Allowed s) := by
  cases op <;> unfold ContextOp.Allowed <;> infer_instance

end UniMrcp.Mpf
