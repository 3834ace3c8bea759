import UniMrcp.Lib.History
import UniMrcp.Mpf.Rtp.Receiver

/-!
# The source of a stream

Packets of another source are refused until that source has sent several of them in a row.
-/

namespace UniMrcp.Mpf

open Lib List
open List (replicate)

/-- The source, and the sources of the foreign packets since it was last heard. -/
structure SourceLog where
  source : Option UInt32 := none
  foreign : List UInt32 := []
  deriving DecidableEq

def SourceLog.Followed (log : SourceLog) (ssrc : UInt32) : Prop := EndsIn (· = ssrc) 5 log.foreign

instance (log : SourceLog) (ssrc : UInt32) : Decidable (log.Followed ssrc) :=
  inferInstanceAs (Decidable (EndsIn _ _ _))

def SourceLog.next (log : SourceLog) (ssrc : UInt32) : SourceLog :=
  if log.source = none ∨ log.source = some ssrc ∨ log.Followed ssrc then ⟨some ssrc, []⟩
  else { log with foreign := log.foreign ++ [ssrc] }

def SourceLog.after (log : SourceLog) : RtpRxOp → SourceLog
  | .packet _ _ (some packet) => log.next packet.ssrc
  | _ => log

def sourcedStep (s : RtpReceiver × SourceLog) (op : RtpRxOp) : (RtpReceiver × SourceLog) × List RtpRxEvent :=
  (((rtpReceiverStep s.1 op).1, s.2.after op), (rtpReceiverStep s.1 op).2)

/-- The result of `rtp_rx_ssrc_update` in `rtp_rx_packet_receive`. -/
def ssrcResult (receiver : RtpReceiver) (time : Int64) (packet : RtpPacket) : RtpSsrcResult :=
  (rtpRxSsrcUpdate (rtpRxFirstInit receiver time packet).1 packet.ssrc).2

/-- A packet is refused: it is counted and its source is noted, and nothing else happens. -/
def Refused (receiver receiver' : RtpReceiver) (events : List RtpRxEvent) : Prop :=
  events = [] ∧ ∃ ssrcNew ssrcProbation, receiver' = { receiver.countInvalid with
    history := { receiver.history with ssrcNew := ssrcNew, ssrcProbation := ssrcProbation } }

/-- A packet's source becomes the source if five packets of it have followed its first one, with none of the source or a
third one in between. -/
structure SourceRight (s : RtpReceiver × SourceLog) (descriptors : RtpRxDescriptors) (time : Int64)
    (packet : RtpPacket) : Prop where
  restart : ssrcResult s.1 time packet = .restart ↔
    ∃ source, s.2.source = some source ∧ packet.ssrc ≠ source ∧ s.2.Followed packet.ssrc
  refused : ∀ source, s.2.source = some source → packet.ssrc ≠ source → ¬ s.2.Followed packet.ssrc →
    Refused s.1 (rtpRxPacketReceive s.1 descriptors time (some packet)).1
      (rtpRxPacketReceive s.1 descriptors time (some packet)).2.2

/-- A packet of another source is neither the first one since a restart nor the sixth one in a row from source zero. -/
structure ForeignOk (s : RtpReceiver × SourceLog) (packet : RtpPacket) : Prop where
  counted : s.1.stat.receivedPackets ≠ 0
  sixth : packet.ssrc = 0 → s.2.foreign ≠ List.replicate 5 0

/-! ## Receivers at rest -/

/-- The source of the receiver is `ssrc`, and there is no new one in sight. -/
structure AtRest (ssrc : UInt32) (receiver : RtpReceiver) : Prop where
  ssrc : receiver.rrStat.ssrc = ssrc
  ssrcNew : receiver.history.ssrcNew = 0
  ssrcProbation : receiver.history.ssrcProbation = 0

section AtRest

variable {ssrc : UInt32} {r : RtpReceiver}

theorem atRest_restart (h : r.rrStat.ssrc = ssrc) : AtRest ssrc (rtpRxRestart r) := ⟨h, rfl, rfl⟩

theorem atRest_seqUpdate (h : AtRest ssrc r) (seqNum : UInt16) : AtRest ssrc (rtpRxSeqUpdate r seqNum).1 := by
  rw [rtpRxSeqUpdate]
  split
  · exact ⟨h.ssrc, h.ssrcNew, h.ssrcProbation⟩
  · split
    · exact ⟨h.ssrc, h.ssrcNew, h.ssrcProbation⟩
    · exact ⟨h.ssrc, h.ssrcNew, h.ssrcProbation⟩

theorem atRest_tsUpdate (h : AtRest ssrc r) (descriptor : CodecDescriptor) (time : Int64) (ts : UInt32)
    (marker : Bool) : AtRest ssrc (rtpRxTsUpdate r descriptor time ts marker).1 := by
  unfold rtpRxTsUpdate
  dsimp only
  split
  · exact h
  · exact ⟨h.ssrc, h.ssrcNew, h.ssrcProbation⟩

theorem atRest_write (h : AtRest ssrc r) (packet : RtpPacket) (marker : Bool) :
    AtRest ssrc (rtpRxWrite r packet marker).1 := by
  unfold rtpRxWrite rtpRxFailureThresholdCheck
  dsimp only
  split_ifs
  · exact atRest_restart h.ssrc
  · exact ⟨h.ssrc, h.ssrcNew, h.ssrcProbation⟩
  · exact ⟨h.ssrc, h.ssrcNew, h.ssrcProbation⟩

theorem atRest_codecReceive (h : AtRest ssrc r) (descriptor : CodecDescriptor) (time : Int64) (packet : RtpPacket) :
    AtRest ssrc (rtpRxCodecReceive r descriptor time packet).1 := by
  have ht := atRest_tsUpdate h descriptor time packet.timestamp packet.marker
  unfold rtpRxCodecReceive
  dsimp only
  split_ifs
  · exact atRest_restart ht.ssrc
  · exact atRest_write ht packet _

theorem atRest_payloadReceive (h : AtRest ssrc r) (descriptors : RtpRxDescriptors) (time : Int64)
    (packet : RtpPacket) : AtRest ssrc (rtpRxPayloadReceive r descriptors time packet).1 := by
  unfold rtpRxPayloadReceive rtpRxEventReceive
  dsimp only
  split_ifs
  · exact atRest_codecReceive h descriptors.codec time packet
  · exact ⟨h.ssrc, h.ssrcNew, h.ssrcProbation⟩
  · exact ⟨h.ssrc, h.ssrcNew, h.ssrcProbation⟩
  · exact ⟨h.ssrc, h.ssrcNew, h.ssrcProbation⟩

theorem atRest_sourceReceive (h : AtRest ssrc r) (descriptors : RtpRxDescriptors) (time : Int64)
    (packet : RtpPacket) : AtRest ssrc (rtpRxSourceReceive r descriptors time packet).1 :=
  atRest_payloadReceive (atRest_seqUpdate h packet.sequence) descriptors time packet

end AtRest

/-! ## New sources -/

/-- What the receiver has noted of foreign packets. Source zero is taken for one that has been noted. -/
inductive Probing : List UInt32 → UInt32 → UInt8 → Prop
  | idle : Probing [] 0 0
  | zeros (k : Nat) (hpos : 0 < k) (hle : k ≤ 5) : Probing (List.replicate k 0) 0 (0 - UInt8.ofNat k)
  | counting (before : List UInt32) (ssrc : UInt32) (k : Nat) (hpos : 0 < k) (hle : k ≤ 5)
      (hlast : before.getLast? ≠ some ssrc) (hzero : before = [] → ssrc ≠ 0) :
      Probing (before ++ List.replicate k ssrc) ssrc (6 - UInt8.ofNat k)

/-- The rule of `rtp_rx_ssrc_update` for a foreign packet: what is noted, and whether its source becomes the source. -/
def probe (ssrcNew : UInt32) (ssrcProbation : UInt8) (ssrc : UInt32) : UInt32 × UInt8 × Bool :=
  if ssrcNew = ssrc then (ssrc, ssrcProbation - 1, ssrcProbation - 1 = 0) else (ssrc, 5, false)

section Probing

variable {foreign : List UInt32} {ssrcNew ssrc : UInt32} {ssrcProbation : UInt8}

theorem endsIn_row {before : List UInt32} (hl : before.getLast? ≠ some ssrc) (n k : Nat) :
    EndsIn (· = ssrc) n (before ++ replicate k ssrc) ↔ n ≤ k := by
  constructor
  · intro h
    by_contra hlt
    obtain ⟨m, rfl⟩ : ∃ m, n = m + 1 + k := ⟨n - k - 1, by omega⟩
    rw [endsIn_append_replicate (· = ssrc) before rfl (m + 1) k] at h
    rcases eq_nil_or_concat before with rfl | ⟨init, last, rfl⟩
    · exact absurd h.1 (Nat.not_succ_le_zero m)
    · rw [concat_eq_append] at h hl
      rw [List.getLast?_concat] at hl
      exact hl (congrArg some (endsIn_snoc.1 h).2)
  · intro hle
    obtain ⟨j, rfl⟩ : ∃ j, k = j + n := ⟨k - n, by omega⟩
    rw [replicate_add, ← append_assoc]
    have hr := endsIn_append_replicate (· = ssrc) (before ++ replicate j ssrc) rfl 0 n
    rw [Nat.zero_add] at hr
    exact hr.2 (endsIn_zero _ _)

variable {k : Nat}

theorem getLast?_row (before : List UInt32) (hp : 0 < k) (ssrc : UInt32) :
    (before ++ replicate k ssrc).getLast? = some ssrc := by
  obtain ⟨j, rfl⟩ : ∃ j, k = j + 1 := ⟨k - 1, by omega⟩
  rw [replicate_succ', ← append_assoc, List.getLast?_concat]

theorem Probing.last (h : Probing foreign ssrcNew ssrcProbation) :
    foreign = [] ∧ ssrcNew = 0 ∨ foreign.getLast? = some ssrcNew := by
  cases h with
  | idle => exact .inl ⟨rfl, rfl⟩
  | zeros k hp hle => exact .inr (getLast?_row [] hp 0)
  | counting before ssrcNew k hp hle hl hz => exact .inr (getLast?_row before hp ssrcNew)

theorem Probing.start (h : Probing foreign ssrcNew ssrcProbation) (hne : ssrcNew ≠ ssrc) :
    Probing (foreign ++ [ssrc]) ssrc 5 ∧ ¬ EndsIn (· = ssrc) 5 foreign := by
  have hl : foreign.getLast? ≠ some ssrc := by
    rcases h.last with ⟨rfl, -⟩ | hl
    · simp
    · rw [hl]
      exact fun h => hne (Option.some.inj h)
  refine ⟨.counting foreign ssrc 1 Nat.one_pos (by decide) hl ?_, ?_⟩
  · rintro rfl rfl
    rcases h.last with ⟨-, hn⟩ | hl
    · exact hne hn
    · cases hl
  · have hr := endsIn_row hl 5 0
    simpa using hr

theorem probation_succ (start : UInt8) (k : Nat) : start - UInt8.ofNat k - 1 = start - UInt8.ofNat (k + 1) := by
  rw [UInt8.ofNat_add, show UInt8.ofNat 1 = 1 from rfl]
  grind

theorem probation_eq_zero (hp : 0 < k) (hle : k ≤ 5) : 6 - UInt8.ofNat (k + 1) = 0 ↔ 5 ≤ k := by
  interval_cases k <;> decide

theorem zeros_ne_zero (hlt : k < 5) : 0 - UInt8.ofNat (k + 1) ≠ 0 := by
  interval_cases k <;> decide

theorem Probing.next (h : Probing foreign ssrcNew ssrcProbation) (hx : ssrc = 0 → foreign ≠ replicate 5 0) :
    ((probe ssrcNew ssrcProbation ssrc).2.2 ↔ EndsIn (· = ssrc) 5 foreign) ∧
      (¬ EndsIn (· = ssrc) 5 foreign →
        Probing (foreign ++ [ssrc]) (probe ssrcNew ssrcProbation ssrc).1 (probe ssrcNew ssrcProbation ssrc).2.1) := by
  by_cases hn : ssrcNew = ssrc
  · rw [probe, if_pos hn]
    cases h with
    | idle =>
      refine ⟨by simp [EndsIn], fun _ => ?_⟩
      rw [← hn]
      exact .zeros 1 Nat.one_pos (by decide)
    | zeros k hp hle =>
      have hlt : k ≠ 5 := fun h5 => hx hn.symm (h5 ▸ rfl)
      have hr : EndsIn (· = 0) 5 ([] ++ replicate k (0 : UInt32)) ↔ 5 ≤ k := endsIn_row (by simp) 5 k
      rw [nil_append] at hr
      rw [← hn, hr]
      have hlt' : k < 5 := by omega
      have hs := Probing.zeros (k + 1) (Nat.succ_pos k) hlt'
      rw [replicate_succ'] at hs
      rw [probation_succ]
      refine ⟨?_, fun _ => hs⟩
      rw [decide_eq_true_iff]
      exact iff_of_false (zeros_ne_zero hlt') (by omega)
    | counting before ssrcNew k hp hle hl hz =>
      rw [← hn, endsIn_row hl]
      rw [probation_succ]
      refine ⟨decide_eq_true_iff.trans (probation_eq_zero hp hle), fun hlt => ?_⟩
      have hs := Probing.counting before ssrcNew (k + 1) (Nat.succ_pos k) (by omega) hl hz
      rwa [replicate_succ', ← append_assoc] at hs
  · rw [probe, if_neg hn]
    obtain ⟨ht, he⟩ := h.start hn
    exact ⟨iff_of_false Bool.false_ne_true he, fun _ => ht⟩

theorem Probing.sixth (h : Probing foreign ssrcNew ssrcProbation) (hf : foreign = replicate 5 0) :
    (probe ssrcNew ssrcProbation 0).2.2 = false := by
  cases h with
  | idle => cases hf
  | zeros k hp hle =>
    have hk := congrArg List.length hf
    simp only [length_replicate] at hk
    subst hk
    rfl
  | counting before ssrcNew k hp hle hl hz =>
    have ha : ∀ x ∈ before ++ replicate k ssrcNew, x = 0 := by
      rw [hf]
      exact fun x hx => eq_of_mem_replicate hx
    have hn : ssrcNew = 0 := ha ssrcNew (mem_append_right _ (mem_replicate.2 ⟨hp.ne', rfl⟩))
    rcases eq_nil_or_concat before with rfl | ⟨init, last, rfl⟩
    · exact absurd hn (hz rfl)
    · have hr : last = 0 := ha last (by simp)
      rw [concat_eq_append, List.getLast?_concat, hr, hn] at hl
      exact absurd rfl hl

end Probing

/-! ## One packet -/

structure Sourced (s : RtpReceiver × SourceLog) : Prop where
  unknown : s.2.source = none → s.1.stat.receivedPackets = 0
  ssrc : ∀ source, s.2.source = some source → s.1.rrStat.ssrc = source
  probing : Probing s.2.foreign s.1.history.ssrcNew s.1.history.ssrcProbation
  restarted : s.1.stat.receivedPackets = 0 → s.2.foreign = []

theorem sourced_init (jb : JitterBuffer) : Sourced (rtpReceiverInit jb, {}) :=
  ⟨fun _ => rfl, nofun, .idle, fun _ => rfl⟩

theorem AtRest.sourced {ssrc : UInt32} {r : RtpReceiver} (h : AtRest ssrc r) : Sourced (r, ⟨some ssrc, []⟩) := by
  refine ⟨nofun, ?_, ?_, fun _ => rfl⟩
  · rintro source ⟨⟩
    exact h.ssrc
  · rw [h.ssrcNew, h.ssrcProbation]
    exact .idle

theorem Probing.ssrcNew_eq_zero {foreign : List UInt32} {ssrcNew : UInt32} (h : Probing foreign ssrcNew 0) :
    ssrcNew = 0 := by
  generalize hp : (0 : UInt8) = ssrcProbation at h
  cases h with
  | idle => rfl
  | zeros k hs hle => rfl
  | counting before ssrcNew k hs hle hl hz => interval_cases k <;> exact absurd hp (by decide)

section Packet

variable {r : RtpReceiver} {log : SourceLog} {foreign : List UInt32} {ssrc : UInt32}

theorem ssrcUpdate_known (h : r.rrStat.ssrc = ssrc)
    (hp : Probing foreign r.history.ssrcNew r.history.ssrcProbation) :
    (rtpRxSsrcUpdate r ssrc).2 = .update ∧ AtRest ssrc (rtpRxSsrcUpdate r ssrc).1 := by
  unfold rtpRxSsrcUpdate
  rw [if_pos h]
  split_ifs with hr
  · exact ⟨rfl, h, rfl, rfl⟩
  · have hz : r.history.ssrcProbation = 0 := not_not.1 hr
    rw [hz] at hp
    exact ⟨rfl, h, hp.ssrcNew_eq_zero, hz⟩

theorem ssrcUpdate_foreign (h : r.rrStat.ssrc ≠ ssrc) :
    rtpRxSsrcUpdate r ssrc =
      if (probe r.history.ssrcNew r.history.ssrcProbation ssrc).2.2 then
        ({ r with
            rrStat := { r.rrStat with ssrc := ssrc }
            history := { r.history with ssrcNew := ssrc, ssrcProbation := 0 } }, .restart)
      else
        ({ r with
            history := { r.history with
              ssrcNew := (probe r.history.ssrcNew r.history.ssrcProbation ssrc).1
              ssrcProbation := (probe r.history.ssrcNew r.history.ssrcProbation ssrc).2.1 } }, .probation) := by
  unfold rtpRxSsrcUpdate probe
  rw [if_neg h]
  by_cases hn : r.history.ssrcNew = ssrc
  · subst hn
    by_cases hz : r.history.ssrcProbation - 1 = 0
    · simp [hz]
    · simp [hz]
  · simp [hn]

variable (descriptors : RtpRxDescriptors) (time : Int64) (packet : RtpPacket)

theorem atRest_of_update (foreign : List UInt32)
    (h : (rtpRxFirstInit r time packet).1.rrStat.ssrc = packet.ssrc)
    (hp : Probing foreign (rtpRxFirstInit r time packet).1.history.ssrcNew
      (rtpRxFirstInit r time packet).1.history.ssrcProbation) :
    ssrcResult r time packet = .update ∧
      AtRest packet.ssrc (rtpRxPacketReceive r descriptors time (some packet)).1 := by
  obtain ⟨hr, hre⟩ := ssrcUpdate_known h hp
  refine ⟨hr, ?_⟩
  unfold rtpRxPacketReceive
  dsimp only
  rw [hr]
  exact atRest_sourceReceive hre descriptors time packet

theorem atRest_packet (h : Sourced (r, log)) (hf : r.stat.receivedPackets = 0 ∨ log.source = some packet.ssrc) :
    ssrcResult r time packet = .update ∧
      AtRest packet.ssrc (rtpRxPacketReceive r descriptors time (some packet)).1 := by
  by_cases hz : r.stat.receivedPackets = 0
  · refine atRest_of_update descriptors time packet log.foreign ?_ ?_
    · rw [rtpRxFirstInit, if_pos hz]
      rfl
    · rw [rtpRxFirstInit, if_pos hz]
      exact h.probing
  · have hs := h.ssrc packet.ssrc (hf.resolve_left hz)
    refine atRest_of_update descriptors time packet log.foreign ?_ ?_
    · rw [rtpRxFirstInit, if_neg hz]
      exact hs
    · rw [rtpRxFirstInit, if_neg hz]
      exact h.probing

theorem foreign_restart (hc : r.stat.receivedPackets ≠ 0) (h : r.rrStat.ssrc ≠ packet.ssrc)
    (hp : (probe r.history.ssrcNew r.history.ssrcProbation packet.ssrc).2.2) :
    ssrcResult r time packet = .restart ∧
      AtRest packet.ssrc (rtpRxPacketReceive r descriptors time (some packet)).1 := by
  have hf : rtpRxFirstInit r time packet = (r, []) := if_neg hc
  have hu := ssrcUpdate_foreign h
  rw [hp, if_pos rfl] at hu
  constructor
  · rw [ssrcResult, hf, hu]
  · unfold rtpRxPacketReceive
    dsimp only
    rw [hf]
    rw [hu]
    refine atRest_sourceReceive ?_ descriptors time packet
    exact ⟨rfl, rfl, rfl⟩

theorem foreign_probation (hc : r.stat.receivedPackets ≠ 0) (h : r.rrStat.ssrc ≠ packet.ssrc)
    (hp : (probe r.history.ssrcNew r.history.ssrcProbation packet.ssrc).2.2 = false) :
    ssrcResult r time packet = .probation ∧ rtpRxPacketReceive r descriptors time (some packet) =
      ({ r.countInvalid with
          history := { r.history with
            ssrcNew := (probe r.history.ssrcNew r.history.ssrcProbation packet.ssrc).1
            ssrcProbation := (probe r.history.ssrcNew r.history.ssrcProbation packet.ssrc).2.1 } }, false, []) := by
  have hf : rtpRxFirstInit r time packet = (r, []) := if_neg hc
  have hu := ssrcUpdate_foreign h
  rw [hp, if_neg Bool.false_ne_true] at hu
  constructor
  · rw [ssrcResult, hf, hu]
  · unfold rtpRxPacketReceive
    dsimp only
    rw [hf]
    rw [hu]
    rfl

theorem packet_known (h : Sourced (r, log)) (hk : ∀ source, log.source = some source → packet.ssrc = source) :
    SourceRight (r, log) descriptors time packet ∧
      Sourced ((rtpRxPacketReceive r descriptors time (some packet)).1, log.next packet.ssrc) := by
  have hc : log.source = none ∨ log.source = some packet.ssrc := by
    cases hs : log.source with
    | none => exact .inl rfl
    | some source => exact .inr (congrArg some (hk source hs).symm)
  obtain ⟨hre, ht⟩ := atRest_packet descriptors time packet h
    (hc.imp_left fun hn => h.unknown hn)
  have hx : log.next packet.ssrc = ⟨some packet.ssrc, []⟩ := if_pos (or_assoc.1 (.inl hc))
  refine ⟨⟨⟨fun hr => ?_, ?_⟩, fun source hs hne _ => absurd (hk source hs) hne⟩, ?_⟩
  · rw [show ssrcResult r time packet = .update from hre] at hr
    cases hr
  · rintro ⟨source, hs, hne, -⟩
    exact absurd (hk source hs) hne
  · rw [hx]
    exact ht.sourced

variable {source : UInt32}

theorem not_sourceRight_restarted (h : Sourced (r, log)) (hs : log.source = some source)
    (hne : packet.ssrc ≠ source) (hz : r.stat.receivedPackets = 0) :
    ¬ SourceRight (r, log) descriptors time packet := by
  intro hg
  have hn : log.foreign = [] := h.restarted hz
  obtain ⟨-, ssrcNew, ssrcProbation, hf⟩ := hg.refused source hs hne
    (by simp [SourceLog.Followed, hn, EndsIn])
  obtain ⟨-, hr⟩ := atRest_packet descriptors time packet h (.inl hz)
  rw [hf] at hr
  exact hne (hr.ssrc.symm.trans (h.ssrc source hs))

theorem packet_foreign (h : Sourced (r, log)) (hs : log.source = some source) (hne : packet.ssrc ≠ source)
    (hc : r.stat.receivedPackets ≠ 0) (hx : packet.ssrc = 0 → log.foreign ≠ replicate 5 0) :
    SourceRight (r, log) descriptors time packet ∧
      Sourced ((rtpRxPacketReceive r descriptors time (some packet)).1, log.next packet.ssrc) := by
  have hfr : r.rrStat.ssrc ≠ packet.ssrc := by
    rw [h.ssrc source hs]
    exact hne.symm
  obtain ⟨hi, hnx⟩ := h.probing.next hx
  by_cases hf : log.Followed packet.ssrc
  · obtain ⟨hr, hre⟩ := foreign_restart descriptors time packet hc hfr
      (hi.2 hf)
    refine ⟨⟨iff_of_true hr ⟨source, hs, hne, hf⟩, fun _ _ _ hn => absurd hf hn⟩, ?_⟩
    rw [SourceLog.next, if_pos (.inr (.inr hf))]
    exact hre.sourced
  · have hp := Bool.eq_false_iff.2 fun ht => hf (hi.1 ht)
    obtain ⟨hr, hrc⟩ := foreign_probation descriptors time packet hc hfr hp
    refine ⟨⟨iff_of_false ?_ ?_, fun _ _ _ _ => ?_⟩, ?_⟩
    · rw [show ssrcResult r time packet = .probation from hr]
      exact nofun
    · rintro ⟨_, _, _, h⟩
      exact hf h
    · rw [show rtpRxPacketReceive r descriptors time (some packet) = _ from hrc]
      exact ⟨rfl, _, _, rfl⟩
    · rw [hrc, SourceLog.next, if_neg]
      · exact ⟨fun hnn => absurd (hs.symm.trans hnn) nofun, h.ssrc, hnx hf,
          fun hz => absurd hz hc⟩
      · rw [hs, not_or, not_or]
        exact ⟨nofun, fun heq => hne (Option.some.inj heq).symm, hf⟩

theorem not_sourceRight_sixth (h : Sourced (r, log)) (hs : log.source = some source) (hne : packet.ssrc ≠ source)
    (hc : r.stat.receivedPackets ≠ 0) (hz : packet.ssrc = 0) (hf : log.foreign = replicate 5 0) :
    ¬ SourceRight (r, log) descriptors time packet := by
  intro hg
  have hfr : r.rrStat.ssrc ≠ packet.ssrc := by
    rw [h.ssrc source hs]
    exact hne.symm
  have hp : (probe r.history.ssrcNew r.history.ssrcProbation packet.ssrc).2.2 = false := by
    rw [hz]
    exact h.probing.sixth hf
  have hre : ssrcResult r time packet = .probation :=
    (foreign_probation descriptors time packet hc hfr hp).1
  have hl : log.Followed packet.ssrc := by
    rw [SourceLog.Followed, hf, hz]
    exact (endsIn_append_replicate (· = 0) [] rfl 0 5).2 (endsIn_zero _ _)
  have hr : ssrcResult r time packet = .restart := hg.restart.2 ⟨source, hs, hne, hl⟩
  rw [hre] at hr
  cases hr

theorem sourceRight_packet (h : Sourced (r, log)) :
    (SourceRight (r, log) descriptors time packet ↔
      ∀ source, log.source = some source → packet.ssrc ≠ source → ForeignOk (r, log) packet) ∧
    ((∀ source, log.source = some source → packet.ssrc ≠ source → ForeignOk (r, log) packet) →
      Sourced ((rtpRxPacketReceive r descriptors time (some packet)).1, log.next packet.ssrc)) := by
  by_cases hk : ∀ source, log.source = some source → packet.ssrc = source
  · obtain ⟨hr, hn⟩ := packet_known descriptors time packet h hk
    exact ⟨iff_of_true hr fun source hs hne => absurd (hk source hs) hne, fun _ => hn⟩
  · simp only [not_forall, exists_prop] at hk
    obtain ⟨source, hs, hne⟩ := hk
    by_cases ho : ForeignOk (r, log) packet
    · obtain ⟨hr, hn⟩ := packet_foreign descriptors time packet h hs hne ho.counted ho.sixth
      exact ⟨iff_of_true hr fun _ _ _ => ho, fun _ => hn⟩
    · refine ⟨iff_of_false (fun hr => ho ⟨fun hz => ?_, fun hz hf => ?_⟩)
        fun ha => ho (ha source hs hne), fun ha => absurd (ha source hs hne) ho⟩
      · exact not_sourceRight_restarted descriptors time packet h hs hne hz hr
      · by_cases hc : r.stat.receivedPackets = 0
        · exact not_sourceRight_restarted descriptors time packet h hs hne hc hr
        · exact not_sourceRight_sixth descriptors time packet h hs hne hc hz hf hr

end Packet

/-! ## Runs -/

def PacketRight (s : RtpReceiver × SourceLog) (op : RtpRxOp) : Prop :=
  ∀ descriptors time packet, op = .packet descriptors time (some packet) → SourceRight s descriptors time packet

def PacketOk (s : RtpReceiver × SourceLog) (op : RtpRxOp) : Prop :=
  ∀ descriptors time packet, op = .packet descriptors time (some packet) →
    ∀ source, s.2.source = some source → packet.ssrc ≠ source → ForeignOk s packet

variable {s : RtpReceiver × SourceLog}

theorem sourced_other (h : Sourced s) {op : RtpRxOp}
    (ho : ∀ descriptors time packet, op ≠ .packet descriptors time (some packet)) : Sourced (sourcedStep s op).1 := by
  cases op with
  | packet descriptors time packet =>
    cases packet with
    | none => exact ⟨h.unknown, h.ssrc, h.probing, h.restarted⟩
    | some packet => exact absurd rfl (ho descriptors time packet)
  | report directed =>
    cases directed with
    | true => exact ⟨h.unknown, h.ssrc, h.probing, h.restarted⟩
    | false => exact h
  | read frame => exact ⟨h.unknown, h.ssrc, h.probing, h.restarted⟩
  | «open» jb => exact ⟨h.unknown, h.ssrc, h.probing, h.restarted⟩
  | close => exact ⟨h.unknown, h.ssrc, h.probing, h.restarted⟩

theorem sourced_step (h : Sourced s) (op : RtpRxOp) :
    (PacketRight s op ↔ PacketOk s op) ∧ (PacketOk s op → Sourced (sourcedStep s op).1) := by
  by_cases hp : ∃ descriptors time packet, op = .packet descriptors time (some packet)
  · obtain ⟨descriptors, time, packet, rfl⟩ := hp
    obtain ⟨hi, hn⟩ := sourceRight_packet descriptors time packet h
    refine ⟨⟨fun hr => ?_, fun ho => ?_⟩, fun ho => hn (ho descriptors time packet rfl)⟩
    · rintro _ _ _ ⟨⟩
      exact hi.1 (hr descriptors time packet rfl)
    · rintro _ _ _ ⟨⟩
      exact hi.2 (ho descriptors time packet rfl)
  · have ht : ∀ descriptors time packet, op ≠ .packet descriptors time (some packet) :=
      fun descriptors time packet heq => hp ⟨descriptors, time, packet, heq⟩
    exact ⟨iff_of_true (fun _ _ _ heq => absurd heq (ht _ _ _)) fun _ _ _ heq => absurd heq (ht _ _ _),
      fun _ => sourced_other h ht⟩

/-- **A new source comes in after six packets in a row**, in every run, exactly when no foreign packet is the first one
since a restart and none is the sixth one of source zero since the source was heard. -/
theorem sourceRight_iff (jb : JitterBuffer) (ops : List RtpRxOp) :
    EachStep sourcedStep PacketRight (rtpReceiverInit jb, {}) ops ↔
      EachStep sourcedStep PacketOk (rtpReceiverInit jb, {}) ops :=
  eachStep_iff_of_invariant Sourced _ _ (fun _ op h hok => (sourced_step h op).2 hok)
    (fun _ op h => (sourced_step h op).1) _ ops (sourced_init jb)

def noiseFrom (ssrc : UInt32) : RtpRxOp :=
  .packet ⟨⟨8000, 1⟩, 0, none⟩ 0 (some ⟨0, 0, ssrc, 13, false, [], default⟩)

/-- Six packets of source zero in a row do not bring it in. -/
theorem not_sourceRight_zero : ¬ ∀ jb ops, EachStep sourcedStep PacketRight (rtpReceiverInit jb, {}) ops := by
  intro h
  have hrun := h (jitterBufferCreate none ⟨8000, 1⟩ { attribs := ⟨8⟩ })
    ([noiseFrom 7] ++ List.replicate 6 (noiseFrom 0))
  obtain ⟨-, -, -, -, -, -, hsixth, -⟩ := hrun
  exact absurd ((hsixth _ _ _ rfl).restart.2 ⟨7, rfl, by decide, by decide⟩) (by decide)

end UniMrcp.Mpf
