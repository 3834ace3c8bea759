import UniMrcp.Mpf.RtpStream.Choice

/-!
# The state, the direction and the timers of an RTP stream
-/

namespace UniMrcp.Mpf.Path

open Apt Lib

def Preferred (list1 list2 : CodecList) : Prop :=
  ∃ i j d e, list1.primaryDescriptor = some i ∧ list2.primaryDescriptor = some j ∧ list1.descriptors[i]? = some d ∧
    list2.descriptors[j]? = some e ∧ d.enabled ∧ e.enabled ∧ codecDescriptorsMatch d e

theorem toLower_eq_zero {ch : UInt8} (h : toLower ch = 0) : ch = 0 := by
  rw [toLower] at h
  split at h
  · grind
  · exact h

theorem strncasecmp_of {str1 str2 : Bytes} (h : strncasecmp str1 str2) : strncasecmp str2 str1 := by
  induction str1 generalizing str2 with
  | nil => cases str2 <;> rfl
  | cons ch1 str1 ih =>
    cases str2 with
    | nil => rfl
    | cons ch2 str2 =>
      simp only [strncasecmp, Bool.and_eq_true, Bool.or_eq_true, beq_iff_eq] at h ⊢
      refine ⟨h.1.symm, h.2.imp (fun hz => ?_) ih⟩
      exact toLower_eq_zero (by rw [← h.1, hz]; rfl)

theorem stringCompare_of {str1 str2 : Bytes} (h : stringCompare str1 str2) : stringCompare str2 str1 := by
  simp only [stringCompare, Bool.and_eq_true, beq_iff_eq, bne_iff_ne, ne_eq] at h ⊢
  obtain ⟨⟨hl, hne⟩, hm⟩ := h
  refine ⟨⟨hl.symm, ?_⟩, strncasecmp_of hm⟩
  rintro rfl
  exact hne (List.length_eq_zero_iff.1 hl)

theorem codecDescriptorsMatch_of {d e : CodecDescriptor} (h : codecDescriptorsMatch d e) :
    codecDescriptorsMatch e d := by
  unfold codecDescriptorsMatch at h ⊢
  by_cases hs : d.payloadType < rtpPtDynamic ∧ e.payloadType < rtpPtDynamic
  · rw [if_pos hs, beq_iff_eq] at h
    rw [if_pos hs.symm, beq_iff_eq]
    exact h.symm
  · rw [if_neg hs] at h
    rw [if_neg fun hs' => hs hs'.symm]
    simp only [Bool.and_eq_true, beq_iff_eq] at h ⊢
    exact ⟨⟨stringCompare_of h.1.1, h.1.2.symm⟩, h.2.symm⟩

variable {list1 list2 : CodecList}

theorem Preferred.symm (h : Preferred list1 list2) : Preferred list2 list1 := by
  obtain ⟨i, j, d, e, hi, hj, hd, he, hd', he', hm⟩ := h
  exact ⟨j, i, e, d, hj, hi, he, hd, he', hd', codecDescriptorsMatch_of hm⟩

theorem preferred_intersect (h : (codecListsIntersect list1 list2).2.2) :
    Preferred (codecListsIntersect list1 list2).1 (codecListsIntersect list1 list2).2.1 := by
  rw [codecListsIntersect_eq] at h ⊢
  obtain ⟨i, hi⟩ := Option.isSome_iff_exists.1 h
  obtain ⟨j, d, e, hj, hd, he, -, hn, hn', hm⟩ := settled_chosen hi
  exact ⟨i, j, d, e, hi, hj, hd, he, hn, hn', hm⟩

theorem preferred_mediaIntersect {own : Bool} (h : (mediaIntersect own list1 list2).2.2) :
    Preferred (mediaIntersect own list1 list2).1 (mediaIntersect own list1 list2).2.1 := by
  cases own with
  | true => exact preferred_intersect h
  | false =>
    have hp : Preferred (codecListsIntersect list2 list1).1 (codecListsIntersect list2 list1).2.1 :=
      preferred_intersect h
    exact hp.symm

def EventOf (p : Option CodecPointer) (list : CodecList) : Prop := ∀ q, p = some q → q.arr = list.arr

/-- The direction is the reverse of the remote one, and the descriptors that it uses are enabled and match in the two
lists. -/
structure Negotiated (s : RtpStream) (localMedia remoteMedia : RtpMediaDescriptor) : Prop where
  ofLocal : s.localMedia = some localMedia
  ofRemote : s.remoteMedia = some remoteMedia
  direction : s.direction = reverseDirectionGet remoteMedia.direction
  codecs : s.direction ≠ .none → ∃ i j d e, localMedia.codecList.descriptors[i]? = some d ∧
    remoteMedia.codecList.descriptors[j]? = some e ∧ d.enabled ∧ e.enabled ∧
      codecDescriptorsMatch d e ∧
      (s.direction.receives → s.rxDescriptor = some ⟨localMedia.codecList.arr, i⟩) ∧
      (s.direction.sends → s.txDescriptor = some ⟨remoteMedia.codecList.arr, j⟩)
  rxEvent : EventOf s.rxEventDescriptor localMedia.codecList
  txEvent : EventOf s.txEventDescriptor remoteMedia.codecList

/-- The state agrees with its direction, descriptors and timers after a call, by which the local media could be set up
or not. -/
structure Agrees (s : RtpStream) (ok : Bool) : Prop where
  silent : s.state = .disabled ∨ ok = false → s.direction = .none ∧ s.txArmed = false ∧ s.rxArmed = false
  armed : s.state = .enabled → s.txArmed = s.txTimer ∧ s.rxArmed = s.rxTimer
  negotiated : s.state = .enabled → ∃ localMedia remoteMedia, Negotiated s localMedia remoteMedia

structure Timed (s : RtpStream) : Prop where
  killed : s.state = .disabled → s.txArmed = false ∧ s.rxArmed = false
  armed : s.state = .enabled → s.txArmed = s.txTimer ∧ s.rxArmed = s.rxTimer

structure Kept (s : RtpStream) : Prop where
  timed : Timed s
  silent : s.state = .disabled → s.direction = .none
  negotiated : s.state = .enabled → ∃ localMedia remoteMedia, Negotiated s localMedia remoteMedia ∧
    (s.direction ≠ .none → Preferred localMedia.codecList remoteMedia.codecList)

theorem Kept.agrees {s : RtpStream} (h : Kept s) {ok : Bool} (ho : ok = false → s.state = .disabled) :
    Agrees s ok where
  silent := fun hs =>
    have hd := hs.elim id ho
    ⟨h.silent hd, h.timed.killed hd⟩
  armed := h.timed.armed
  negotiated := fun hs =>
    let ⟨localMedia, remoteMedia, hn, _⟩ := h.negotiated hs
    ⟨localMedia, remoteMedia, hn⟩

theorem kept_disabled {s : RtpStream} (hs : s.state = .disabled) (hd : s.direction = .none)
    (ht : s.txArmed = false) (hr : s.rxArmed = false) : Kept s where
  timed := ⟨fun _ => ⟨ht, hr⟩, fun h => absurd (hs.symm.trans h) nofun⟩
  silent := fun _ => hd
  negotiated := fun h => absurd (hs.symm.trans h) nofun

theorem kept_create (settings : RtpStreamSettings) : Kept (rtpStreamCreate settings) :=
  kept_disabled rfl rfl rfl rfl

/-- The local media is set up: the sockets are opened where they have to be, and a codec has a rate of the
capabilities. -/
def localOk (s : RtpStream) (d : RtpStreamDescriptor) (E : SocketPair) : Bool :=
  match s.localMedia, d.localMedia with
  | none, media =>
    E.opened && (codecListMatch (localCodecList s.settings E.arr ((media.map (·.codecList)).getD {})) d.capabilities).2
  | some old, some media => E.updated old media && (updatedCodecList E.arr media.codecList d.capabilities).2
  | some _, none => true

def localList (s : RtpStream) (d : RtpStreamDescriptor) (E : SocketPair) : CodecList :=
  match s.localMedia, d.localMedia with
  | none, media =>
    (codecListMatch (localCodecList s.settings E.arr ((media.map (·.codecList)).getD {})) d.capabilities).1
  | some _, some media => (updatedCodecList E.arr media.codecList d.capabilities).1
  | some old, none => old.codecList

/-- An event descriptor that the stream has is in the list, or there is one in the list that replaces it. -/
def EventFits (p : Option CodecPointer) (used : Bool) (list : CodecList) : Prop :=
  EventOf p list ∨ used ∧ list.eventDescriptor.isSome

/-- The event descriptors of a stream fit lists that are negotiated for a direction. -/
def EventsFit (s : RtpStream) (direction : StreamDirection) (localList remoteList : CodecList) : Prop :=
  EventFits s.rxEventDescriptor direction.receives localList ∧ EventFits s.txEventDescriptor direction.sends remoteList

/-- The lists of a local and a remote medium fit: if they have a codec in common, the event descriptors of the stream
fit. -/
def RemoteFits (s : RtpStream) (list : CodecList) (remoteMedia : RtpMediaDescriptor) : Prop :=
  (mediaIntersect s.settings.ownPreference list remoteMedia.codecList).2.2 = true →
    EventsFit s (reverseDirectionGet remoteMedia.direction)
      (mediaIntersect s.settings.ownPreference list remoteMedia.codecList).1
      (mediaIntersect s.settings.ownPreference list remoteMedia.codecList).2.1

/-- The local media of an enabled stream can be set up; without remote media, its codecs still match those of the remote
media; disabled remote media has no direction; and a stream without direction is removed. -/
def Fits (s : RtpStream) : RtpStreamCall → Prop
  | .modify d E =>
    match localOk s d E, d.remoteMedia with
    | false, _ => s.state = .disabled
    | true, none => s.state = .enabled → ∀ remoteMedia, s.remoteMedia = some remoteMedia →
      (s.direction ≠ .none → Preferred (localList s d E) remoteMedia.codecList) ∧
        EventsFit s s.direction (localList s d E) remoteMedia.codecList
    | true, some remoteMedia =>
      match remoteMedia.state with
      | .disabled => remoteMedia.direction = .none
      | .enabled => RemoteFits s (localList s d E) remoteMedia
  | .remove => s.direction = .none

/-! ## One call -/

section Step

variable {s : RtpStream} {localMedia remoteMedia : RtpMediaDescriptor}

theorem txDescriptorsSet_sends (hs : s.direction.sends) (h : s.remoteMedia = some remoteMedia) :
    txDescriptorsSet s =
      { s with
        txDescriptor := remoteMedia.codecList.primary
        txEventDescriptor := remoteMedia.codecList.event.or s.txEventDescriptor } := by
  unfold txDescriptorsSet
  rw [hs, h]

theorem txDescriptorsSet_not (hs : s.direction.sends = false) : txDescriptorsSet s = s := by
  unfold txDescriptorsSet
  rw [hs]

theorem rxDescriptorsSet_receives (hr : s.direction.receives) (h : s.localMedia = some localMedia) :
    rxDescriptorsSet s =
      { s with
        rxDescriptor := localMedia.codecList.primary
        rxEventDescriptor := localMedia.codecList.event.or s.rxEventDescriptor } := by
  unfold rxDescriptorsSet
  rw [hr, h]

theorem rxDescriptorsSet_not (hr : s.direction.receives = false) : rxDescriptorsSet s = s := by
  unfold rxDescriptorsSet
  rw [hr]

theorem descriptorsSet_none (h : s.direction = .none) : descriptorsSet s = s := by
  unfold descriptorsSet
  rw [txDescriptorsSet_not (by rw [h]; rfl), rxDescriptorsSet_not (by rw [h]; rfl)]

theorem descriptorsSet_eq (hl : s.localMedia = some localMedia) (hm : s.remoteMedia = some remoteMedia) :
    descriptorsSet s =
      { s with
        txDescriptor := if s.direction.sends then remoteMedia.codecList.primary else s.txDescriptor
        txEventDescriptor :=
          if s.direction.sends then remoteMedia.codecList.event.or s.txEventDescriptor else s.txEventDescriptor
        rxDescriptor := if s.direction.receives then localMedia.codecList.primary else s.rxDescriptor
        rxEventDescriptor :=
          if s.direction.receives then localMedia.codecList.event.or s.rxEventDescriptor
          else s.rxEventDescriptor } := by
  unfold descriptorsSet
  cases hs : s.direction.sends with
  | true =>
    rw [txDescriptorsSet_sends hs hm]
    cases hr : s.direction.receives with
    | true => exact rxDescriptorsSet_receives hr hl
    | false => exact rxDescriptorsSet_not hr
  | false =>
    rw [txDescriptorsSet_not hs]
    cases hr : s.direction.receives with
    | true => exact rxDescriptorsSet_receives hr hl
    | false => exact rxDescriptorsSet_not hr

variable {p : Option CodecPointer} {list : CodecList}

theorem eventOf_or (h : EventFits p true list) : EventOf (list.event.or p) list := by
  intro q hq
  cases he : list.eventDescriptor with
  | none =>
    have hq : p = some q := by simpa [CodecList.event, he] using hq
    exact h.elim (fun h => h q hq) fun h => by simp [he] at h
  | some i =>
    have hq : (⟨list.arr, i⟩ : CodecPointer) = q := by simpa [CodecList.event, he] using hq
    exact hq ▸ rfl

theorem eventOf_set {used : Bool} (h : EventFits p used list) : EventOf (if used then list.event.or p else p) list := by
  cases used with
  | true => exact eventOf_or h
  | false => exact h.elim id fun h => absurd h.1 nofun

theorem kept_descriptorsSet (hs : s.state = .enabled) (ht : Timed s) (hl : s.localMedia = some localMedia)
    (hm : s.remoteMedia = some remoteMedia) (h : s.direction = reverseDirectionGet remoteMedia.direction)
    (hp : s.direction ≠ .none → Preferred localMedia.codecList remoteMedia.codecList)
    (hv : EventsFit s s.direction localMedia.codecList remoteMedia.codecList) : Kept (descriptorsSet s) := by
  rw [descriptorsSet_eq hl hm]
  constructor
  · exact ⟨ht.killed, ht.armed⟩
  · intro hds
    exact absurd (hs.symm.trans hds) nofun
  · refine fun _ => ⟨localMedia, remoteMedia, ⟨hl, hm, h, ?_, ?_, ?_⟩, hp⟩
    · intro hu
      obtain ⟨i, j, d, e, hi, hj, hd, he, hd', he', hmt⟩ := hp hu
      refine ⟨i, j, d, e, hd, he, hd', he', hmt, ?_, ?_⟩
      · intro hc
        have hr : localMedia.codecList.primary = some ⟨localMedia.codecList.arr, i⟩ := by
          rw [CodecList.primary, hi, Option.map_some]
        exact (if_pos hc).trans hr
      · intro hn
        have hr : remoteMedia.codecList.primary = some ⟨remoteMedia.codecList.arr, j⟩ := by
          rw [CodecList.primary, hj, Option.map_some]
        exact (if_pos hn).trans hr
    · exact eventOf_set hv.1
    · exact eventOf_set hv.2

theorem localMediaSet_eq (s : RtpStream) (d : RtpStreamDescriptor) (E : SocketPair) :
    ∃ l, localMediaSet s d E = ({ s with localMedia := some l }, localOk s d E) ∧ l.codecList = localList s d E := by
  obtain ⟨settings, state, old, remote, direction, rx, rxEvent, tx, txEvent, txArmed, rxArmed⟩ := s
  obtain ⟨capabilities, media, remote'⟩ := d
  cases old with
  | none => cases media <;> refine ⟨_, rfl, ?_⟩ <;> rfl
  | some old => cases media <;> refine ⟨_, rfl, ?_⟩ <;> rfl

/-! ### Negotiation -/

theorem Timed.kill (h : Timed s) : s.timersKill.txArmed = false ∧ s.timersKill.rxArmed = false := by
  show (s.txArmed && !s.txTimer) = false ∧ (s.rxArmed && !s.rxTimer) = false
  cases hs : s.state with
  | disabled =>
    rw [(h.killed hs).1, (h.killed hs).2]
    exact ⟨rfl, rfl⟩
  | enabled =>
    rw [(h.armed hs).1, (h.armed hs).2]
    exact ⟨Bool.and_not_self _, Bool.and_not_self _⟩

theorem timed_stateNegotiate (h : Timed s) (remote : MediaState) :
    Timed (stateNegotiate s remote) ∧ (stateNegotiate s remote).state = remote := by
  unfold stateNegotiate
  cases hs : s.state with
  | disabled =>
    cases remote with
    | disabled => exact ⟨h, hs⟩
    | enabled =>
      refine ⟨⟨nofun, fun _ => ?_⟩, rfl⟩
      show (s.txArmed || s.txTimer) = s.txTimer ∧ (s.rxArmed || s.rxTimer) = s.rxTimer
      rw [(h.killed hs).1, (h.killed hs).2]
      exact ⟨rfl, rfl⟩
  | enabled =>
    cases remote with
    | disabled => exact ⟨⟨fun _ => h.kill, nofun⟩, rfl⟩
    | enabled => exact ⟨h, hs⟩

theorem stateNegotiate_events (remote : MediaState) :
    (stateNegotiate s remote).rxEventDescriptor = s.rxEventDescriptor ∧
      (stateNegotiate s remote).txEventDescriptor = s.txEventDescriptor ∧
        (stateNegotiate s remote).settings = s.settings := by
  unfold stateNegotiate
  split
  · exact ⟨rfl, rfl, rfl⟩
  · split <;> exact ⟨rfl, rfl, rfl⟩

theorem kept_negotiate_disabled (ht : Timed s) (hr : remoteMedia.state = .disabled)
    (h : remoteMedia.direction = .none) : Kept (descriptorsSet (mediaNegotiate s localMedia remoteMedia)) := by
  obtain ⟨ht', hs'⟩ := timed_stateNegotiate ht remoteMedia.state
  have hd : (stateNegotiate s remoteMedia.state).state = .disabled := hs'.trans hr
  obtain ⟨hx, hrx⟩ := ht'.killed hd
  have hn : reverseDirectionGet remoteMedia.direction = .none := by rw [h]; rfl
  unfold mediaNegotiate
  rw [if_neg (by rw [hr]; exact nofun), descriptorsSet_none hn]
  exact kept_disabled hd hn hx hrx

theorem kept_negotiate_enabled (ht : Timed s) (hr : remoteMedia.state = .enabled)
    (hf : RemoteFits s localMedia.codecList remoteMedia) :
    Kept (descriptorsSet (mediaNegotiate s localMedia remoteMedia)) := by
  obtain ⟨ht', hs'⟩ := timed_stateNegotiate ht remoteMedia.state
  obtain ⟨h, htx, hst⟩ := stateNegotiate_events (s := s) remoteMedia.state
  unfold mediaNegotiate
  dsimp only
  rw [if_pos hr]
  unfold RemoteFits at hf
  rw [← hst] at hf
  cases ho : (mediaIntersect (stateNegotiate s remoteMedia.state).settings.ownPreference localMedia.codecList
      remoteMedia.codecList).2.2 with
  | true =>
    obtain ⟨hx, htxf⟩ := hf ho
    rw [if_pos rfl]
    refine kept_descriptorsSet (hs'.trans hr) ⟨ht'.killed, ht'.armed⟩ rfl rfl rfl ?_ ⟨?_, ?_⟩
    · exact fun _ => preferred_mediaIntersect ho
    · exact h ▸ hx
    · exact htx ▸ htxf
  | false =>
    rw [if_neg nofun, descriptorsSet_none rfl]
    exact kept_disabled rfl rfl ht'.kill.1 ht'.kill.2

/-! ### Calls -/

theorem disabled_or_enabled (state : MediaState) : state = .disabled ∨ state = .enabled := by
  cases state with
  | disabled => exact Or.inl rfl
  | enabled => exact Or.inr rfl

theorem kept_local {l : RtpMediaDescriptor} (h : Kept s) (hf : s.state = .enabled →
    ∀ remoteMedia, s.remoteMedia = some remoteMedia →
      (s.direction ≠ .none → Preferred l.codecList remoteMedia.codecList) ∧
        EventsFit s s.direction l.codecList remoteMedia.codecList) :
    Kept (descriptorsSet { s with localMedia := some l }) := by
  rcases disabled_or_enabled s.state with hs | hs
  · have hnn : ({ s with localMedia := some l } : RtpStream).direction = .none := h.silent hs
    rw [descriptorsSet_none hnn]
    obtain ⟨ht, hr⟩ := h.timed.killed hs
    exact kept_disabled hs hnn ht hr
  · obtain ⟨_, remoteMedia, hn, -⟩ := h.negotiated hs
    obtain ⟨hp, he⟩ := hf hs remoteMedia hn.ofRemote
    exact kept_descriptorsSet hs ⟨h.timed.killed, h.timed.armed⟩ rfl hn.ofRemote hn.direction
      hp he

theorem remoteMediaSet_false (s : RtpStream) (remoteMedia : Option RtpMediaDescriptor) :
    remoteMediaSet s remoteMedia false = s := by
  unfold remoteMediaSet
  split
  · contradiction
  · rfl

theorem kept_modify (h : Kept s) (d : RtpStreamDescriptor) (E : SocketPair) (hf : Fits s (.modify d E)) :
    Kept (s.modify d E).1 ∧ ((s.modify d E).2 = false → (s.modify d E).1.state = .disabled) := by
  obtain ⟨l, hse, hl⟩ := localMediaSet_eq s d E
  unfold RtpStream.modify
  rw [hse]
  have ht : Timed { s with localMedia := some l } := ⟨h.timed.killed, h.timed.armed⟩
  unfold Fits at hf
  cases ho : localOk s d E with
  | false =>
    simp only [ho] at hf
    dsimp only
    rw [remoteMediaSet_false]
    have hk : Kept (descriptorsSet { s with localMedia := some l }) :=
      kept_local h fun he => absurd (hf.symm.trans he) nofun
    refine ⟨hk, fun _ => ?_⟩
    have hn : ({ s with localMedia := some l } : RtpStream).direction = .none := h.silent hf
    rw [descriptorsSet_none hn]
    exact hf
  | true =>
    refine ⟨?_, nofun⟩
    cases hr : d.remoteMedia with
    | none =>
      simp only [ho, hr, ← hl] at hf
      exact kept_local h hf
    | some remoteMedia =>
      simp only [ho, hr, ← hl] at hf
      cases hs : remoteMedia.state with
      | disabled =>
        simp only [hs] at hf
        exact kept_negotiate_disabled ht hs hf
      | enabled =>
        simp only [hs] at hf
        exact kept_negotiate_enabled ht hs hf

theorem kept_remove (h : Kept s) (hf : s.direction = .none) : Kept s.remove := by
  unfold RtpStream.remove
  cases hs : s.state with
  | disabled => exact h
  | enabled => exact kept_disabled rfl hf h.timed.kill.1 h.timed.kill.2

theorem kept_step (h : Kept s) (c : RtpStreamCall) (hf : Fits s c) :
    Kept (s.step c).1 ∧ Agrees (s.step c).1 (s.step c).2 := by
  cases c with
  | modify d E =>
    obtain ⟨hk, ho⟩ := kept_modify h d E hf
    exact ⟨hk, hk.agrees ho⟩
  | remove =>
    have hk : Kept s.remove := kept_remove h hf
    exact ⟨hk, hk.agrees nofun⟩

end Step

/-- **A stream agrees after every call of a run whose calls fit.** -/
theorem agrees_of_fits (settings : RtpStreamSettings) (calls : List RtpStreamCall)
    (h : EachStep RtpStream.step Fits (rtpStreamCreate settings) calls) :
    EachStep RtpStream.step (fun s c => Agrees (s.step c).1 (s.step c).2) (rtpStreamCreate settings) calls :=
  eachStep_of_invariant Kept Fits _ (fun _ c hs hfits => (kept_step hs c hfits).1)
    (fun _ c hs hfits => (kept_step hs c hfits).2) _ calls (kept_create settings) h

def rtcpSettings : RtpStreamSettings where
  timers := ⟨true, 5000, 1000⟩
  codecList := [pcmu, eventDescriptorCreate 8000]

/-- Remote media with PCMU and possibly named events, in an array of its own. -/
def remoteOffer (arr : Nat) (events : Bool) : RtpMediaDescriptor where
  state := .enabled
  port := 6000
  direction := .duplex
  codecList := { arr, descriptors := if events then [pcmu, eventDescriptorCreate 8000] else [pcmu] }

/-- A stream is enabled, disabled again and removed. -/
theorem agrees_until_removed :
    EachStep RtpStream.step (fun s c => Agrees (s.step c).1 (s.step c).2) (rtpStreamCreate rtcpSettings)
      [.modify { remoteMedia := some (remoteOffer 2 true) } { port := 5000, arr := 1 },
        .modify { remoteMedia := some {} } {}, .remove] :=
  agrees_of_fits _ _ ⟨fun _ => ⟨Or.inl nofun, Or.inl nofun⟩, rfl, rfl, trivial⟩

/-- The peer offers events and then no longer offers them: the descriptor of the first offer is still used. -/
theorem not_agrees : ¬ ∀ settings calls,
    EachStep RtpStream.step (fun s c => Agrees (s.step c).1 (s.step c).2) (rtpStreamCreate settings) calls := by
  intro h
  have hagrees := (h rtcpSettings
    [.modify { remoteMedia := some (remoteOffer 2 true) } { port := 5000, arr := 1 },
      .modify { remoteMedia := some (remoteOffer 3 false) } {}]).2.1
  obtain ⟨_, media, hnegotiated⟩ := hagrees.negotiated (by decide)
  have hmedia : some media.codecList.arr = some 3 := by
    refine (congrArg (Option.map fun m : RtpMediaDescriptor => m.codecList.arr) hnegotiated.ofRemote).symm.trans ?_
    decide
  have harr : 2 = media.codecList.arr := hnegotiated.txEvent ⟨2, 1⟩ (by decide)
  rw [← harr] at hmedia
  revert hmedia
  decide

end UniMrcp.Mpf.Path
