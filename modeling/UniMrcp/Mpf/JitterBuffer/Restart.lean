import UniMrcp.Mpf.JitterBuffer.Provenance

/-!
# Restarting the jitter buffer

`mpf_jitter_buffer_restart` moves the pointers and leaves the frames in their slots.
-/

namespace UniMrcp.Mpf

open Lib JitterBuffer Stamped

def JitterBuffer.Drained (jb : JitterBuffer) : Prop := ∀ i, (jb.frames i).type = .none

/-- What a frame holds has its origin on record, and was written in an epoch from `epoch` on. -/
structure SlotSince (epoch : Nat) (frame : Frame) (stamps : SlotStamps) : Prop where
  audio : frame.type.audio → ∃ s, stamps.audio = some s ∧ epoch ≤ s.epoch
  event : frame.type.event → ∃ s, stamps.event = some s ∧ epoch ≤ s.epoch
  marker : frame.marker ≠ .none → frame.type.event ∧ ∃ s, stamps.marker = some s ∧ epoch ≤ s.epoch

/-- What the slots hold was written from `epoch` on. -/
structure HeldSince (epoch : Nat) (t : Stamped) : Prop where
  le_epoch : epoch ≤ t.epoch
  slots : ∀ i, SlotSince epoch (t.jb.frames i) (t.stamps i)

/-- A read returns only an audio frame, an event frame and a marker that were written from `epoch` on. -/
def ReadsSince (epoch : Nat) (t : Stamped) (op : JbOp) : Prop :=
  ∀ mediaFrame, op = .read mediaFrame →
    SlotSince epoch (jitterBufferRead t.jb mediaFrame).2 (t.stampsOut op)

section Slots

variable {epoch : Nat} {frame : Frame} {stamps : SlotStamps}

theorem SlotSince.of_none (ht : frame.type = .none) (hm : frame.marker = .none) : SlotSince epoch frame stamps := by
  refine ⟨fun h => ?_, fun h => ?_, fun h => absurd hm h⟩ <;> rw [ht] at h <;> cases h

theorem SlotSince.withCodecFrame (h : SlotSince epoch frame stamps) (codecFrame : CodecFrame) :
    SlotSince epoch { frame with codecFrame := codecFrame } stamps := ⟨h.audio, h.event, h.marker⟩

theorem SlotSince.withAudio (h : SlotSince epoch frame stamps) (codecFrame : CodecFrame) {s : Stamp}
    (hs : epoch ≤ s.epoch) :
    SlotSince epoch { frame with codecFrame := codecFrame, type := { frame.type with audio := true } }
      { stamps with audio := some s } :=
  ⟨fun _ => ⟨s, rfl, hs⟩, h.event, h.marker⟩

theorem SlotSince.withEvent (h : SlotSince epoch frame stamps) (namedEvent : NamedEventFrame) (isNew : Bool)
    {s : Stamp} (hs : epoch ≤ s.epoch) :
    SlotSince epoch
      { frame with
        eventFrame := namedEvent
        type := { frame.type with event := true }
        marker := if isNew then .startOfEvent else if namedEvent.edge then .endOfEvent else frame.marker }
      { stamps with
        event := some s
        marker := if isNew ∨ namedEvent.edge then some s else stamps.marker } := by
  refine ⟨h.audio, fun _ => ⟨s, rfl, hs⟩, fun hm => ⟨rfl, ?_⟩⟩
  cases isNew with
  | true => exact ⟨s, by simp, hs⟩
  | false =>
    cases he : namedEvent.edge with
    | true => exact ⟨s, by simp, hs⟩
    | false =>
      obtain ⟨-, s', hs', hle⟩ := h.marker (by simpa [he] using hm)
      exact ⟨s', by simpa using hs', hle⟩

theorem SlotSince.copyTo (h : SlotSince epoch frame stamps) (mediaFrame : Frame) :
    SlotSince epoch (frame.copyTo mediaFrame) stamps := ⟨h.audio, h.event, h.marker⟩

end Slots

/-! ## Operations -/

section Operations

variable {epoch : Nat} {t : Stamped}

theorem jitterBufferFill_slotSince (he : epoch ≤ t.epoch) (n : Nat) {jb : JitterBuffer} {stamps : Nat → SlotStamps}
    (hd : ∀ ts, jb.frameIndex ts = t.jb.frameIndex ts) (buffer : Bytes) (writeTs : UInt32)
    (h : ∀ i, SlotSince epoch (jb.frames i) (stamps i)) (i : Nat) :
    SlotSince epoch ((jitterBufferFill n jb buffer writeTs).1.frames i)
      (t.stampAudio stamps (fillVisits n jb buffer writeTs) i) := by
  induction n generalizing jb stamps buffer writeTs with
  | zero => exact h i
  | succ n ih =>
    by_cases hb : buffer = []
    · simpa [jitterBufferFill, fillVisits, hb, stampAudio] using h i
    · simp only [jitterBufferFill, fillVisits, if_neg hb]
      cases codecDissect jb.codec buffer (jb.codecFrameGet writeTs) with
      | none =>
        by_cases hi : i = jb.frameIndex writeTs
        · subst hi
          simpa [codecFrameSet, frameSet, frameGet, stampAudio]
            using (h (jb.frameIndex writeTs)).withCodecFrame _
        · simpa [codecFrameSet, frameSet, stampAudio, hi] using h i
      | some out =>
        refine ih (show ∀ ts, (jb.audioSet writeTs out.2).frameIndex ts = _ from hd) out.1 (writeTs + jb.frameTs)
          fun j => ?_
        rw [← hd]
        by_cases hj : j = jb.frameIndex writeTs
        · subst hj
          simpa [audioSet, frameSet, frameGet]
            using (h (jb.frameIndex writeTs)).withAudio out.2 (s := t.stampAt writeTs) he
        · simpa [audioSet, frameSet, hj] using h j

theorem stampedStep_heldSince (h : HeldSince epoch t) (op : JbOp) : HeldSince epoch (stampedStep t op).1 := by
  refine ⟨le_trans h.le_epoch ?_, ?_⟩
  · simp only [stampedStep]
    split_ifs
    · exact Nat.le_succ _
    · exact le_refl _
  cases op with
  | write buffer ts marker =>
    obtain ⟨jb', hs, hc⟩ := jitterBufferWrite_cases t.jb buffer ts marker
    have hl : ∀ i, SlotSince epoch (jb'.frames i) (t.stamps i) := hs.frames ▸ h.slots
    intro i
    simp only [stampedStep, jitterBufferStep, stampsAfter]
    rcases hc with ⟨-, hw, hv⟩ | ⟨writeTs, -, ⟨-, hw, hv⟩ | ⟨-, hw, hv⟩⟩
    · rw [hw, hv]; exact hl i
    · rw [hw, hv]; exact hl i
    · rw [hw, hv]
      obtain ⟨ts', ha⟩ := writeAdvance_eq
        (jitterBufferFill (t.jb.availableFrameCount writeTs) jb' buffer writeTs).1
        (jitterBufferFill (t.jb.availableFrameCount writeTs) jb' buffer writeTs).2
      rw [ha]
      exact jitterBufferFill_slotSince h.le_epoch _ hs.frameIndex buffer writeTs hl i
  | eventWrite namedEvent ts marker =>
    obtain ⟨jb', hs, hc⟩ := jitterBufferEventWrite_cases t.jb namedEvent ts marker
    have hl : ∀ i, SlotSince epoch (jb'.frames i) (t.stamps i) := hs.frames ▸ h.slots
    intro i
    simp only [stampedStep, jitterBufferStep, stampsAfter]
    rcases hc with ⟨result, hw, hv⟩ | ⟨writeTs, isNew, -, hw, hv⟩
    · rw [hw, hv]; exact hl i
    · rw [hw, hv]
      obtain ⟨ts', ha⟩ := writeAdvance_eq (jb'.eventSet writeTs namedEvent isNew) (writeTs + jb'.frameTs)
      rw [ha]
      simp only [stampEvent, ← hs.frameIndex]
      by_cases hi : i = jb'.frameIndex writeTs
      · subst hi
        simpa [eventSet, frameSet, frameGet]
          using (hl (jb'.frameIndex writeTs)).withEvent namedEvent isNew (s := t.stampAt writeTs) h.le_epoch
      · simpa [eventSet, frameSet, hi] using hl i
  | read mediaFrame =>
    intro i
    have hf := (jitterBufferRead_sameStore t.jb mediaFrame).frames
    simp only [stampedStep, jitterBufferStep, stampsAfter, hf]
    by_cases hi : i = t.jb.frameIndex t.jb.readTs
    · subst hi
      refine SlotSince.of_none ?_ ?_ <;> simp [readAdvance, frameSet]
    · simpa [readAdvance, frameSet, hi] using h.slots i
  | restart => exact h.slots

theorem readsSince_of_heldSince (h : HeldSince epoch t) (op : JbOp) : ReadsSince epoch t op := by
  rintro mediaFrame rfl
  simp only [jitterBufferRead, stampsOut]
  split_ifs
  · exact (h.slots _).copyTo mediaFrame
  · exact SlotSince.of_none rfl rfl

theorem restart_heldSince (h : HeldSince 0 t) (hd : t.jb.Drained) :
    HeldSince (t.epoch + 1) (stampedStep t .restart).1 := by
  refine ⟨le_refl _, fun i => SlotSince.of_none (hd i) ?_⟩
  by_contra hm
  have he := ((h.slots i).marker hm).1
  rw [hd i] at he
  cases he

end Operations

theorem heldSince_new (jbConfig : Option JbConfig) (descriptor : CodecDescriptor) (codec : Codec) :
    HeldSince 0 (new (jitterBufferCreate jbConfig descriptor codec)) :=
  ⟨le_refl _, fun _ => SlotSince.of_none rfl rfl⟩

/-- **A restart of a drained buffer discards the old stream.** In every run from a new buffer, if no slot holds an
unread frame when it is restarted, then no read after that returns a frame, an event or a marker that was written
before. -/
theorem jitterBuffer_restart_discards (jbConfig : Option JbConfig) (descriptor : CodecDescriptor) (codec : Codec)
    (before after : List JbOp)
    (hd : (run jitterBufferStep (jitterBufferCreate jbConfig descriptor codec) before).1.Drained) :
    let t := (run stampedStep (Stamped.new (jitterBufferCreate jbConfig descriptor codec)) before).1
    EachStep stampedStep (ReadsSince (t.epoch + 1)) (stampedStep t .restart).1 after := by
  intro t
  have ht : HeldSince 0 t := run_invariant (HeldSince 0) (fun _ _ => True)
    (fun _ op h _ => stampedStep_heldSince h op) _ before (heldSince_new jbConfig descriptor codec)
    (eachStep_true _ _)
  have hjb : t.jb = (run jitterBufferStep (jitterBufferCreate jbConfig descriptor codec) before).1 :=
    (run_stampedStep_jb _ before).1
  exact eachStep_of_invariant (HeldSince (t.epoch + 1)) (fun _ _ => True) _
    (fun _ op h _ => stampedStep_heldSince h op) (fun _ op h _ => readsSince_of_heldSince h op) _ after
    (restart_heldSince ht (hjb ▸ hd)) (eachStep_true _ _)

/-- A buffer that is drained by two reads discards the packet before its restart. -/
theorem jitterBuffer_restart_discards_drained :
    EachStep stampedStep (ReadsSince 1)
      (run stampedStep (Stamped.new (jitterBufferCreate (some ⟨0, 10, 20, false, false⟩) ⟨8000, 1⟩ { attribs := ⟨8⟩ }))
        [.write (List.replicate 80 1) 1000 false, .read {}, .read {}, .restart]).1
      [.write (List.replicate 80 2) 5000 false, .read {}, .read {}] :=
  jitterBuffer_restart_discards (some ⟨0, 10, 20, false, false⟩) ⟨8000, 1⟩ { attribs := ⟨8⟩ }
    [.write (List.replicate 80 1) 1000 false, .read {}, .read {}]
    [.write (List.replicate 80 2) 5000 false, .read {}, .read {}] (by rintro (_ | _ | i) <;> rfl)

/-- An audio frame survives a restart: it waits in the slot at the read position, and the first packet after the
restart is placed behind it. -/
theorem jitterBuffer_restart_stale :
    ¬∀ (jbConfig : Option JbConfig) (descriptor : CodecDescriptor) (codec : Codec) (before after : List JbOp),
      let t := (run stampedStep (Stamped.new (jitterBufferCreate jbConfig descriptor codec)) before).1
      EachStep stampedStep (ReadsSince (t.epoch + 1)) (stampedStep t .restart).1 after := by
  intro h
  have hrun := h (some ⟨0, 10, 20, false, false⟩) ⟨8000, 1⟩ { attribs := ⟨8⟩ }
    [.write (List.replicate 80 1) 1000 false, .read {}] [.write (List.replicate 80 2) 5000 false, .read {}]
  obtain ⟨s, hs, hle⟩ := (hrun.2.1 {} rfl).audio rfl
  have hold : (some ⟨0, 1⟩ : Option Stamp) = some s := hs
  cases hold
  exact absurd hle (by decide)

end UniMrcp.Mpf
