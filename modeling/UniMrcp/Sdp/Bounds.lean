import UniMrcp.Sdp.Generate

/-!
# The buffers that SDP is printed into
-/

namespace UniMrcp.Sdp

open Apt Lib UniRtsp List
open Mpf.Path (CodecDescriptor)
open Mrcp (decimal digit_of_mem_decimal)

/-- Every call has been told the room that is left and writes inside the buffer, and what is returned is all of the
text. -/
structure PrintSafe (b : Printed UInt8) (size offset : Nat) (text : Bytes) : Prop where
  contained : Contained b size
  stored : offset ≤ (string 0 b size).length
  whole : 0 < offset → string 0 b size = text

/-- The local buffer is printed into safely, and a body is all of the text. -/
structure RtspSafe (g : RtspGenerated) (text : Bytes) : Prop where
  buffer : ∀ sdp, g.buffer = some sdp → PrintSafe sdp.1 rtspBufferSize sdp.2 text
  body : ∀ bytes, g.message.body.buf = some bytes → bytes = text

/-! ## No NUL is printed -/

theorem nul_notMem_takeWhile (bytes : Bytes) : (0 : UInt8) ∉ bytes.takeWhile (· ≠ 0) := fun h => by
  simpa using mem_takeWhile_imp h

theorem nul_notMem_decimal (n : Nat) : (0 : UInt8) ∉ decimal n := fun h => by
  have := (digit_of_mem_decimal h).1
  simp at this

variable (str : AptStr)

theorem nul_notMem_text : (0 : UInt8) ∉ str.text := by
  cases str with
  | none => decide
  | some bytes => exact nul_notMem_takeWhile bytes

theorem nul_notMem_or (bytes : Bytes) : (0 : UInt8) ∉ str.or bytes := nul_notMem_takeWhile _

variable (descriptor : SessionDescriptor)

theorem nul_notMem_sessionIp : (0 : UInt8) ∉ descriptor.sessionIp := by
  unfold SessionDescriptor.sessionIp
  split
  · exact nul_notMem_text _
  · exact nul_notMem_or _ _

theorem nul_notMem_sessionText : (0 : UInt8) ∉ descriptor.sessionText := by
  have ho := nul_notMem_or descriptor.origin (ascii "-")
  have hi := nul_notMem_sessionIp descriptor
  simp only [SessionDescriptor.sessionText, mem_append, not_or, hi, ho, not_false_eq_true, and_true]
  decide

theorem nul_notMem_names (proto : MrcpServer.ProtoType) (setupType : MrcpServer.SetupType)
    (connectionType : MrcpServer.ConnectionType) : (0 : UInt8) ∉ (mrcpProtoGet proto).getD [] ∧
    (0 : UInt8) ∉ (mrcpSetupTypeGet setupType).getD [] ∧
      (0 : UInt8) ∉ (mrcpConnectionTypeGet connectionType).getD [] := by
  cases proto <;> cases setupType <;> cases connectionType <;> decide

def NulFree (texts : List Bytes) : Prop := ∀ text ∈ texts, (0 : UInt8) ∉ text

theorem nulFree_nil : NulFree [] := nofun

theorem nulFree_append {texts texts' : List Bytes} (h : NulFree texts) (h' : NulFree texts') :
    NulFree (texts ++ texts') := fun text ht => (mem_append.1 ht).elim (h text) (h' text)

variable {text : Bytes} {texts : List Bytes}

theorem nulFree_cons (h : (0 : UInt8) ∉ text) (h' : NulFree texts) :
    NulFree (text :: texts) := forall_mem_cons.2 ⟨h, h'⟩

theorem nulFree_singleton (h : (0 : UInt8) ∉ text) : NulFree [text] := nulFree_cons h nulFree_nil

theorem nulFree_map {α : Type} {render : α → Bytes} (h : ∀ a, (0 : UInt8) ∉ render a) (as : List α) :
    NulFree (as.map render) := forall_mem_map.2 fun a _ => h a

theorem nulFree_flatMap {α : Type} {render : α → List Bytes} (h : ∀ a, NulFree (render a)) (as : List α) :
    NulFree (as.flatMap render) := fun text ht =>
  let ⟨a, _, ha⟩ := mem_flatMap.1 ht
  h a text ha

theorem nulFree_formatTexts (codecs : List CodecDescriptor) : NulFree (formatTexts codecs) := by
  unfold formatTexts
  split
  · exact nulFree_singleton (by decide)
  · apply nulFree_map
    intro codec
    simp only [mem_append, nul_notMem_decimal, or_false]
    decide

theorem nulFree_codecTexts (codec : CodecDescriptor) : NulFree (codecTexts codec) := by
  unfold codecTexts
  split
  · exact nulFree_nil
  · apply nulFree_cons
    · simp only [mem_append, nul_notMem_decimal, nul_notMem_text, or_false]
      decide
    · split
      · exact nulFree_nil
      · apply nulFree_singleton
        simp only [mem_append, nul_notMem_decimal, nul_notMem_text, or_false]
        decide

variable (media : RtpMedia)

theorem nulFree_attributeTexts : NulFree (attributeTexts media) := by
  apply nulFree_append
  · cases media.direction with
    | none => exact nulFree_nil
    | send => exact nulFree_singleton (by decide)
    | receive => exact nulFree_singleton (by decide)
    | duplex => exact nulFree_singleton (by decide)
  · split
    · apply nulFree_singleton
      simp only [mem_append, nul_notMem_decimal, or_false]
      decide
    · exact nulFree_nil

theorem nulFree_rtpMediaTexts {connection mid : List Bytes} (hc : NulFree connection) (hm : NulFree mid)
    (media : RtpMedia) : NulFree (rtpMediaTexts connection mid media) := by
  unfold rtpMediaTexts
  split
  · split
    · exact nulFree_nil
    · rename_i codecs _
      have hl : NulFree [ascii "m=audio " ++ decimal media.port.toNat ++ ascii " RTP/AVP"] := by
        apply nulFree_singleton
        simp only [mem_append, nul_notMem_decimal, or_false]
        decide
      have he : NulFree [ascii "\r\n"] := nulFree_singleton (by decide)
      have hd := nulFree_flatMap nulFree_codecTexts (enabledCodecs codecs)
      have ha := nulFree_attributeTexts media
      exact nulFree_append (nulFree_append (nulFree_append (nulFree_append (nulFree_append (nulFree_append hl
        (nulFree_formatTexts codecs)) he) hc) hd) ha) hm
  · exact nulFree_append (nulFree_singleton (by decide)) hm

theorem nulFree_connectionTexts : NulFree (connectionTexts descriptor media) := by
  unfold connectionTexts
  split
  · apply nulFree_singleton
    simp only [mem_append, nul_notMem_text, or_false]
    decide
  · exact nulFree_nil

theorem nulFree_sdpControlMediaTexts (media : ControlDescriptor) (offer : Bool) :
    NulFree (sdpControlMediaTexts media offer) := by
  obtain ⟨hp, hs, hc⟩ :=
    nul_notMem_names media.proto media.setupType media.connectionType
  have h : (0 : UInt8) ∉ (if media.port ≠ 0 then setupText media else []) := by
    split
    · simp only [setupText, mem_append, hs, hc, or_false]
      decide
    · exact nofun
  have hr : (0 : UInt8) ∉ resourceText media offer := by
    unfold resourceText
    split <;> simp only [mem_append, nul_notMem_text, or_false] <;> decide
  apply nulFree_cons
  · simp only [mem_append, nul_notMem_decimal, hp, h, hr, or_false]
    decide
  · apply nulFree_map
    intro cmid
    simp only [mem_append, nul_notMem_decimal, or_false]
    decide

theorem nul_notMem_flatten {blocks : List (List Bytes)} (h : ∀ texts ∈ blocks, NulFree texts) :
    (0 : UInt8) ∉ blocks.flatten.flatten := fun hm => by
  obtain ⟨text, ht, hn⟩ := mem_flatten.1 hm
  obtain ⟨texts, hte, ht⟩ := mem_flatten.1 ht
  exact h texts hte text ht hn

theorem nul_notMem_sdpText (offer : Bool) : (0 : UInt8) ∉ sdpText descriptor offer := by
  apply nul_notMem_flatten
  intro texts ht
  rcases mem_cons.1 ht with rfl | ht
  · exact nulFree_singleton (nul_notMem_sessionText descriptor)
  · obtain ⟨media, _, rfl⟩ := mem_map.1 ht
    have hm (mid : UInt64) : NulFree [ascii "a=mid:" ++ decimal mid.toNat ++ ascii "\r\n"] := by
      apply nulFree_singleton
      simp only [mem_append, nul_notMem_decimal, or_false]
      decide
    cases media with
    | audio media => exact nulFree_rtpMediaTexts (nulFree_connectionTexts descriptor media) (hm media.mid) media
    | video media => exact nulFree_rtpMediaTexts (nulFree_connectionTexts descriptor media) (hm media.mid) media
    | control media => exact nulFree_sdpControlMediaTexts media offer

theorem nul_notMem_rtspSdpText : (0 : UInt8) ∉ rtspSdpText descriptor := by
  apply nul_notMem_flatten
  intro texts ht
  rcases mem_cons.1 ht with rfl | ht
  · exact nulFree_singleton (nul_notMem_sessionText descriptor)
  · obtain ⟨media, _, rfl⟩ := mem_map.1 ht
    cases media with
    | audio media => exact nulFree_rtpMediaTexts nulFree_nil nulFree_nil media
    | video media => exact nulFree_rtpMediaTexts nulFree_nil nulFree_nil media
    | control media => exact nulFree_nil

/-! ## Descriptions that fit -/

section Printing

variable (memory : Nat → UInt8) {size : Nat}

theorem holds_emptyBuffer : Holds 0 (emptyBuffer memory) size [] where
  cells := nofun
  terminator := by simp [emptyBuffer, store]
  contained := fun _ => nofun

theorem print_spec (hs : 0 < size) (blocks : List (List Bytes)) :
    Holds 0 (printBlocks 0 sizeSub (emptyBuffer memory) size blocks).1 size blocks.flatten.flatten ∧
      (printBlocks 0 sizeSub (emptyBuffer memory) size blocks).2 = blocks.flatten.flatten.length :=
  printBlocks_spec (fun _ _ => sizeSub_of_le) hs blocks (holds_emptyBuffer memory)

variable {blocks : List (List Bytes)}

theorem printSafe_iff (hz : 0 < size) (hn : (0 : UInt8) ∉ blocks.flatten.flatten) :
    PrintSafe (printBlocks 0 sizeSub (emptyBuffer memory) size blocks).1 size
      (printBlocks 0 sizeSub (emptyBuffer memory) size blocks).2 blocks.flatten.flatten ↔
      blocks.flatten.flatten.length < size := by
  obtain ⟨hh, hc⟩ := print_spec memory hz blocks
  have hs := hh.string hz hn
  rw [hc]
  constructor
  · intro h
    have ht := h.stored
    rw [hs, length_take] at ht
    omega
  · intro h
    have hw : blocks.flatten.flatten.take (size - 1) = blocks.flatten.flatten := take_of_length_le (by omega)
    rw [hw] at hs
    exact ⟨hh.contained h, hs ▸ Nat.le_refl _, fun _ => hs⟩

theorem range_memory (hs : 0 < size) (h : blocks.flatten.flatten.length < size) :
    (List.range (printBlocks 0 sizeSub (emptyBuffer memory) size blocks).2).map
      (printBlocks 0 sizeSub (emptyBuffer memory) size blocks).1.memory = blocks.flatten.flatten := by
  obtain ⟨hh, hc⟩ := print_spec memory hs blocks
  apply ext_getElem
  · simp [hc]
  · intro i hi hi'
    rw [getElem_map, getElem_range]
    exact hh.cells i hi' (by omega)

end Printing

theorem rtspSafe_iff (message : RtspMessage) (memory : Nat → UInt8) (descriptor : SessionDescriptor)
    (hbd : message.body.buf = none) : RtspSafe (rtspBodySet message (rtspSdpGenerate memory descriptor))
      (rtspSdpText descriptor) ↔ (rtspSdpText descriptor).length < rtspBufferSize := by
  have hs : 0 < rtspBufferSize := by decide
  have hf : (rtspBodySet message (rtspSdpGenerate memory descriptor)).buffer =
      some (rtspSdpGenerate memory descriptor) := by
    unfold rtspBodySet
    split <;> rfl
  have hsf := printSafe_iff memory hs (nul_notMem_rtspSdpText descriptor)
  constructor
  · intro h
    exact hsf.1 (h.buffer _ hf)
  · intro h
    constructor
    · intro sdp hd
      obtain rfl := Option.some.inj (hf.symm.trans hd)
      exact hsf.2 h
    · intro bytes hb
      unfold rtspBodySet at hb
      split at hb
      · rw [show ({ message with header := _ } : RtspMessage).body = message.body from rfl, hbd] at hb
        cases hb
      · obtain rfl := Option.some.inj hb
        exact range_memory memory hs h

theorem body_responseCreate (delivery : Delivery) (version : Version) (header : Header) (statusCode reason : Nat) :
    (responseCreate delivery version header statusCode reason).body.buf = none := by
  unfold responseCreate
  split <;> split <;> rfl

/-- **SDP generation is safe exactly for the descriptions that fit**, and for a teardown and a refusal, which have no
description. -/
theorem generate_safe_iff (memory : Nat → UInt8) {size : Nat} (hsize : 0 < size) (descriptor : SessionDescriptor)
    (offer : Bool) (delivery : Delivery) (resourceMap : List (Bytes × Bytes)) (version : Version) (request : Header) :
    (PrintSafe (sdpStringGenerate memory size descriptor offer).1 size
        (sdpStringGenerate memory size descriptor offer).2 (sdpText descriptor offer) ↔
      (sdpText descriptor offer).length < size) ∧
    (RtspSafe (rtspRequestGenerate delivery memory descriptor resourceMap) (rtspSdpText descriptor) ↔
      (descriptor.resourceState → (rtspSdpText descriptor).length < rtspBufferSize)) ∧
    (RtspSafe (rtspResponseGenerate delivery memory version request descriptor) (rtspSdpText descriptor) ↔
      (descriptor.status = .ok → (rtspSdpText descriptor).length < rtspBufferSize)) := by
  refine ⟨printSafe_iff memory hsize (nul_notMem_sdpText descriptor offer), ?_, ?_⟩
  · unfold rtspRequestGenerate
    split
    · rename_i hstate
      exact ⟨fun _ h => absurd (hstate.symm.trans h) Bool.false_ne_true, fun _ => ⟨nofun, nofun⟩⟩
    · rename_i hstate
      rw [rtspSafe_iff _ _ _ rfl]
      exact ⟨fun h _ => h, fun h => h (by simpa using hstate)⟩
  · have hbody := body_responseCreate delivery version request (rtspStatus descriptor.status).code
      (rtspStatus descriptor.status).reason
    unfold rtspResponseGenerate
    dsimp only
    generalize responseCreate delivery version request _ _ = response at hbody ⊢
    split
    · rename_i hstat
      refine ⟨fun _ h => absurd h hstat, fun _ => ⟨nofun, fun bytes hbytes => ?_⟩⟩
      cases hbody.symm.trans hbytes
    · rename_i hstat
      refine (rtspSafe_iff _ memory descriptor ?_).trans ⟨fun h _ => h, fun h => h ?_⟩
      · exact hbody
      · simpa using hstat

def channelAnswer : SessionDescriptor where
  ip := some (ascii "10.0.0.1")
  controlMediaArr := [some {
    port := 1544
    proto := .tcp
    setupType := .passive
    connectionType := .new
    resourceName := some (ascii "speechsynth")
    sessionId := some (ascii "1a")
    cmidArr := [1] }]

/-- The last byte of the buffer is for the NUL. -/
theorem generate_safe_channelAnswer :
    PrintSafe (sdpStringGenerate (fun _ => 0xFF) 166 channelAnswer false).1 166
      (sdpStringGenerate (fun _ => 0xFF) 166 channelAnswer false).2 (sdpText channelAnswer false) :=
  (generate_safe_iff (fun _ => 0xFF) (by decide) channelAnswer false .unicast [] .v1 (headerInit .unicast)).1.2
    (by decide +kernel)

def longNameAnswer : SessionDescriptor where
  ip := some (ascii "10.0.0.1")
  controlMediaArr := [some {
    proto := .tcp
    resourceName := some (List.replicate 2000 0x61)
    sessionId := some (ascii "1a") }]

/-- It does not fit into the buffers of the SIP agents. -/
theorem not_generate_safe : ¬ ∀ (memory : Nat → UInt8) (size : Nat) (descriptor : SessionDescriptor) (offer : Bool),
    0 < size → PrintSafe (sdpStringGenerate memory size descriptor offer).1 size
      (sdpStringGenerate memory size descriptor offer).2 (sdpText descriptor offer) := by
  intro h
  have hfits := (printSafe_iff (fun _ => 0) (by decide) (nul_notMem_sdpText longNameAnswer false)).1
    (h (fun _ => 0) 2048 longNameAnswer false (by decide))
  have hlen : (sdpText longNameAnswer false).length = 2106 := by decide +kernel
  have hfits : (sdpText longNameAnswer false).length < 2048 := hfits
  omega

end UniMrcp.Sdp
