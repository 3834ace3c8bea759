import Mathlib.Algebra.BigOperators.Group.List.Basic
import Mathlib.Algebra.Ring.Int.Defs
import UniMrcp.Mpf.Frame

/-!
# The mixer

A mixer reads a frame from each source into one buffer, and adds the samples in 16 bits (`mpf_mixer.c`).
-/

namespace UniMrcp.Mpf

/-- A frame of 16-bit samples: the size in bytes, and the samples in its buffer. -/
structure LinearFrame where
  type : FrameType := .none
  marker : FrameMarker := .none
  size : Nat
  sample : Nat → Int16 := fun _ => 0

def framesMix (mixFrame frame : LinearFrame) : LinearFrame :=
  if mixFrame.size ≠ frame.size then mixFrame
  else if frame.type.audio then
    { mixFrame with
      type := { mixFrame.type with audio := true }
      sample := fun i => if i < frame.size / 2 then mixFrame.sample i + frame.sample i else mixFrame.sample i }
  else mixFrame

/-- A source by its `read_frame`, which may change anything in the frame that it gets. -/
abbrev Source := LinearFrame → LinearFrame

structure Mixer where
  frame : LinearFrame
  mixFrame : LinearFrame

def LinearFrame.reset (frame : LinearFrame) : LinearFrame := { frame with type := .none, marker := .none }

/-- What the loop of `mpf_mixer_process` does with an element of `source_arr`. -/
def Mixer.readSource (mixer : Mixer) : Option Source → Mixer
  | none => mixer
  | some readFrame =>
    let frame := readFrame mixer.frame.reset
    ⟨frame, framesMix mixer.mixFrame frame⟩

def Mixer.clear (mixer : Mixer) : Mixer :=
  { mixer with mixFrame := { mixer.mixFrame.reset with sample := fun _ => 0 } }

/-- `mpf_mixer_process`: the sink is passed `mixFrame`. -/
def Mixer.process (mixer : Mixer) (sourceArr : List (Option Source)) : Mixer :=
  sourceArr.foldl Mixer.readSource mixer.clear

/-- The frames that the sources leave, one after the other in the same buffer. -/
def delivered (frame : LinearFrame) : List (Option Source) → List LinearFrame
  | [] => []
  | none :: sourceArr => delivered frame sourceArr
  | some readFrame :: sourceArr => readFrame frame.reset :: delivered (readFrame frame.reset) sourceArr

def heard (size : Nat) (frame : LinearFrame) : Bool := frame.type.audio && size == frame.size

def exactSum (size : Nat) (frames : List LinearFrame) (i : Nat) : Int :=
  ((frames.filter (heard size)).map fun frame => (frame.sample i).toInt).sum

def nearest (sum : Int) : Int := max (-2 ^ 15) (min (2 ^ 15 - 1) sum)

/-- What a mixer is for: the frame is audio if a source is heard, and its samples are the sums, as near as it gets. -/
structure Mixed (size : Nat) (frames : List LinearFrame) (mixFrame : LinearFrame) : Prop where
  audio : mixFrame.type.audio ↔ ∃ frame ∈ frames, heard size frame
  sample : ∀ i < size / 2, (mixFrame.sample i).toInt = nearest (exactSum size frames i)

/-! ## The sums -/

variable {mixFrame frame : LinearFrame} {i : Nat}

theorem framesMix_of_heard (h : heard mixFrame.size frame) : framesMix mixFrame frame =
    { mixFrame with
      type := { mixFrame.type with audio := true }
      sample := fun i => if i < mixFrame.size / 2 then mixFrame.sample i + frame.sample i else mixFrame.sample i } := by
  simp only [heard, Bool.and_eq_true, beq_iff_eq] at h
  unfold framesMix
  rw [if_neg (not_not_intro h.2), if_pos h.1, h.2]

theorem framesMix_of_not_heard (h : heard mixFrame.size frame = false) : framesMix mixFrame frame = mixFrame := by
  unfold framesMix
  split_ifs with hs ha
  · rfl
  · rw [ne_eq, not_not] at hs
    simp [heard, hs, ha] at h
  · rfl

theorem framesMix_size : (framesMix mixFrame frame).size = mixFrame.size := by
  cases h : heard mixFrame.size frame with
  | true => rw [framesMix_of_heard h]
  | false => rw [framesMix_of_not_heard h]

variable (sourceArr : List (Option Source)) (mixer : Mixer)

theorem foldl_audio : (sourceArr.foldl Mixer.readSource mixer).mixFrame.type.audio ↔
    mixer.mixFrame.type.audio ∨
      ∃ frame ∈ delivered mixer.frame sourceArr, heard mixer.mixFrame.size frame := by
  induction sourceArr generalizing mixer with
  | nil => simp [delivered]
  | cons source sourceArr ih =>
    cases source with
    | none => exact ih mixer
    | some readFrame =>
      rw [List.foldl_cons, ih, delivered]
      show (framesMix mixer.mixFrame (readFrame mixer.frame.reset)).type.audio = true ∨
        (∃ frame ∈ delivered (readFrame mixer.frame.reset) sourceArr, heard (framesMix _ _).size frame) ↔ _
      rw [framesMix_size]
      cases h : heard mixer.mixFrame.size (readFrame mixer.frame.reset) with
      | true => simp [framesMix_of_heard h, h]
      | false => simp [framesMix_of_not_heard h, h]

theorem foldl_sample (hi : i < mixer.mixFrame.size / 2) :
    ((sourceArr.foldl Mixer.readSource mixer).mixFrame.sample i).toInt =
      ((mixer.mixFrame.sample i).toInt + exactSum mixer.mixFrame.size (delivered mixer.frame sourceArr) i).bmod
        (2 ^ 16) := by
  induction sourceArr generalizing mixer with
  | nil => simp [delivered, exactSum]
  | cons source sourceArr ih =>
    cases source with
    | none => exact ih mixer hi
    | some readFrame =>
      rw [List.foldl_cons, ih _ (by simpa only [Mixer.readSource, framesMix_size] using hi), delivered]
      simp only [Mixer.readSource, framesMix_size, exactSum]
      cases h : heard mixer.mixFrame.size (readFrame mixer.frame.reset) with
      | true =>
        rw [List.filter_cons_of_pos h, List.map_cons, List.sum_cons, framesMix_of_heard h]
        simp only [if_pos hi, Int16.toInt_add, Int.bmod_add_bmod, Int.add_assoc]
      | false => rw [List.filter_cons_of_neg (by simp [h]), framesMix_of_not_heard h]

theorem process_sample (hi : i < mixer.mixFrame.size / 2) : ((mixer.process sourceArr).mixFrame.sample i).toInt =
    (exactSum mixer.mixFrame.size (delivered mixer.frame sourceArr) i).bmod (2 ^ 16) := by
  rw [Mixer.process, foldl_sample sourceArr mixer.clear hi]
  exact congrArg (Int.bmod · (2 ^ 16)) (Int.zero_add _)

theorem bmod_eq_nearest (sum : Int) : sum.bmod (2 ^ 16) = nearest sum ↔ 2 ^ 16 ∣ sum - nearest sum := by
  simp only [nearest, Int.bmod_def]
  omega

/-- **A mixer mixes exactly if each sum is in the range of 16 bits**, or beyond it by a multiple of 65536. -/
theorem mixed_iff (mixer : Mixer) (sourceArr : List (Option Source)) :
    Mixed mixer.mixFrame.size (delivered mixer.frame sourceArr) (mixer.process sourceArr).mixFrame ↔
      ∀ i < mixer.mixFrame.size / 2,
        2 ^ 16 ∣ exactSum mixer.mixFrame.size (delivered mixer.frame sourceArr) i -
          nearest (exactSum mixer.mixFrame.size (delivered mixer.frame sourceArr) i) := by
  constructor
  · intro h i hi
    exact (bmod_eq_nearest _).1 ((process_sample sourceArr mixer hi).symm.trans (h.sample i hi))
  · intro h
    refine ⟨?_, fun i hi => (process_sample sourceArr mixer hi).trans ((bmod_eq_nearest _).2 (h i hi))⟩
    exact (foldl_audio sourceArr mixer.clear).trans (or_iff_right Bool.false_ne_true)

/-- Two loud speakers: 32767 and 1 make -32768. -/
theorem not_mixed :
    ¬ Mixed 2 (delivered ⟨.none, .none, 2, fun _ => 0⟩
        [some fun frame => { frame with type := { audio := true }, sample := fun _ => 32767 },
          some fun frame => { frame with type := { audio := true }, sample := fun _ => 1 }])
      (Mixer.process ⟨⟨.none, .none, 2, fun _ => 0⟩, ⟨.none, .none, 2, fun _ => 0⟩⟩
        [some fun frame => { frame with type := { audio := true }, sample := fun _ => 32767 },
          some fun frame => { frame with type := { audio := true }, sample := fun _ => 1 }]).mixFrame := by
  intro h
  exact absurd (h.sample 0 (by decide)) (by decide)

end UniMrcp.Mpf
