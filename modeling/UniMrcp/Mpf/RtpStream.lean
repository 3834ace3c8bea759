import UniMrcp.Mpf.RtcpTimers
import UniMrcp.Mpf.Path.Codec

/-!
# Negotiation of RTP streams

What `mpf_rtp_stream_modify` and `mpf_rtp_stream_remove` do with the state of a stream, its media, its direction, its
descriptors and its RTCP timers (`mpf_rtp_stream.c`, with the lists of `mpf_codec_descriptor.c`).
-/

namespace UniMrcp.Mpf.Path

open Apt

/-! ## Lists of codecs -/

/-- `mpf_codec_list_t`: the array in which the descriptors are, and the preferred ones. -/
structure CodecList where
  arr : Nat := 0
  descriptors : List CodecDescriptor := []
  primaryDescriptor : Option Nat := none
  eventDescriptor : Option Nat := none
deriving DecidableEq

structure CodecPointer where
  arr : Nat
  index : Nat
deriving DecidableEq

def CodecList.primary (list : CodecList) : Option CodecPointer := list.primaryDescriptor.map fun i => ⟨list.arr, i⟩

def CodecList.event (list : CodecList) : Option CodecPointer := list.eventDescriptor.map fun i => ⟨list.arr, i⟩

def eventDescriptorCreate (samplingRate : UInt16) : CodecDescriptor where
  payloadType := 101
  name := some (ascii "telephone-event")
  samplingRate := samplingRate
  channelCount := 1
  format := some (ascii "0-15")

def eventDescriptorCheck (descriptor : CodecDescriptor) : Bool :=
  namesCompare descriptor.name (some (ascii "telephone-event"))

/-- `mpf_codec_manager_codec_list_get`, into an array that is allocated. -/
def codecManagerCodecListGet (arr : Nat) : CodecList :=
  ⟨arr, codecManager.filterMap (·.staticDescriptor) ++ [eventDescriptorCreate 8000], none, none⟩

def descriptorMatch (capabilities : CodecCapabilities) (descriptor : CodecDescriptor) : CodecDescriptor :=
  { descriptor with
    enabled := descriptor.enabled && (capabilitiesAttribsFind capabilities descriptor).isSome }

/-- `mpf_codec_list_match`: the list, and whether a descriptor matches. Without capabilities it is not called. -/
def codecListMatch (list : CodecList) : Option CodecCapabilities → CodecList × Bool
  | none => (list, true)
  | some capabilities =>
    ({ list with descriptors := list.descriptors.map (descriptorMatch capabilities) },
      (list.descriptors.map (descriptorMatch capabilities)).any (·.enabled))

def CodecList.preferred (list : CodecList) (named : Bool) : Option Nat :=
  if named then list.eventDescriptor else list.primaryDescriptor

def CodecList.prefer (list : CodecList) (named : Bool) (i : Nat) : CodecList :=
  if named then { list with eventDescriptor := some i } else { list with primaryDescriptor := some i }

def CodecList.disable (list : CodecList) (i : Nat) : CodecList :=
  { list with descriptors := list.descriptors.modify i fun descriptor => { descriptor with enabled := false } }

/-- `mpf_codec_list_descriptor_find`, which takes the first match, and whether that is enabled. -/
def CodecList.find (list : CodecList) (descriptor : CodecDescriptor) : Option Nat :=
  (list.descriptors.findIdx? (codecDescriptorsMatch descriptor)).filter fun j =>
    (list.descriptors[j]?).any (·.enabled)

/-- The loop of `mpf_codec_lists_intersect` for one descriptor of the first list. -/
def intersectNext (lists : CodecList × CodecList) (i : Nat) : CodecList × CodecList :=
  match lists.1.descriptors[i]? with
  | none => lists
  | some descriptor =>
    if descriptor.enabled = false then lists
    else
      let named := eventDescriptorCheck descriptor
      if (lists.1.preferred named).isSome then (lists.1.disable i, lists.2)
      else
        match lists.2.find descriptor with
        | some j => (lists.1.prefer named i, lists.2.prefer named j)
        | none => (lists.1.disable i, lists.2)

/-- The descriptors that are not preferred are disabled, the preferred ones enabled. -/
def CodecList.keepPreferred (list : CodecList) : CodecList :=
  { list with
    descriptors := list.descriptors.mapIdx fun j descriptor =>
      { descriptor with enabled := list.primaryDescriptor == some j || list.eventDescriptor == some j } }

def CodecList.unpreferred (list : CodecList) : CodecList :=
  { list with primaryDescriptor := none, eventDescriptor := none }

def codecListsIntersect (list1 list2 : CodecList) : CodecList × CodecList × Bool :=
  let lists := (List.range list1.descriptors.length).foldl intersectNext (list1.unpreferred, list2.unpreferred)
  (lists.1, lists.2.keepPreferred,
    (lists.1.primaryDescriptor.bind fun i => lists.1.descriptors[i]?).any (·.enabled))

/-! ## Streams -/

structure RtpMediaDescriptor where
  state : MediaState := .disabled
  ip : Option Bytes := none
  extIp : Option Bytes := none
  port : UInt16 := 0
  direction : StreamDirection := .none
  ptime : UInt16 := 0
  codecList : CodecList := {}
  mid : UInt64 := 0
  id : Nat := 0
deriving DecidableEq

/-- `mpf_rtp_settings_t` and the addresses of `mpf_rtp_config_t`. -/
structure RtpStreamSettings where
  timers : RtpSettings
  ptime : UInt16 := 0
  codecList : List CodecDescriptor := []
  ownPreference : Bool := true
  ip : Option Bytes := none
  extIp : Option Bytes := none
deriving DecidableEq

/-- `mpf_rtp_stream_t` and its base. The callback of a timer sets it again, so that it is armed until it is killed. -/
structure RtpStream where
  settings : RtpStreamSettings
  state : MediaState := .disabled
  localMedia : Option RtpMediaDescriptor := none
  remoteMedia : Option RtpMediaDescriptor := none
  direction : StreamDirection := .none
  rxDescriptor : Option CodecPointer := none
  rxEventDescriptor : Option CodecPointer := none
  txDescriptor : Option CodecPointer := none
  txEventDescriptor : Option CodecPointer := none
  txArmed : Bool := false
  rxArmed : Bool := false
deriving DecidableEq

structure RtpStreamDescriptor where
  capabilities : Option CodecCapabilities := none
  localMedia : Option RtpMediaDescriptor := none
  remoteMedia : Option RtpMediaDescriptor := none
deriving DecidableEq

/-- Whether the sockets are created and bound, the port tried last, and the array allocated for a list of codecs. -/
structure SocketPair where
  opened : Bool := true
  port : UInt16 := 0
  arr : Nat := 0
deriving DecidableEq

def RtpStream.txTimer (s : RtpStream) : Bool := RtcpTimer.created (fun _ : Unit => s.settings.timers) (.tx ())

def RtpStream.rxTimer (s : RtpStream) : Bool := RtcpTimer.created (fun _ : Unit => s.settings.timers) (.rx ())

def RtpStream.timersSet (s : RtpStream) : RtpStream :=
  { s with txArmed := s.txArmed || s.txTimer, rxArmed := s.rxArmed || s.rxTimer }

def RtpStream.timersKill (s : RtpStream) : RtpStream :=
  { s with txArmed := s.txArmed && !s.txTimer, rxArmed := s.rxArmed && !s.rxTimer }

def RtpMediaDescriptor.disableUnless (media : RtpMediaDescriptor) (ok : Bool) : RtpMediaDescriptor :=
  { media with state := if ok then media.state else .disabled }

def localCodecList (settings : RtpStreamSettings) (arr : Nat) (list : CodecList) : CodecList :=
  if list.descriptors ≠ [] then list
  else if settings.codecList = [] then codecManagerCodecListGet arr
  else { list with arr, descriptors := settings.codecList }

/-- `mpf_rtp_stream_local_media_create` -/
def localMediaCreate (s : RtpStream) (d : RtpStreamDescriptor) (E : SocketPair) : RtpStream × Bool :=
  let media := d.localMedia.getD { state := .enabled, direction := .duplex }
  let media := { media with id := (d.remoteMedia.map RtpMediaDescriptor.id).getD media.id }
  let unaddressed := (media.ip.getD []).length = 0
  let media :=
    { media with
      ip := if unaddressed then s.settings.ip else media.ip
      extIp := if unaddressed then s.settings.extIp else media.extIp }
  let media := { media with port := if media.port = 0 then E.port else media.port }
  let media := media.disableUnless E.opened
  let media := { media with ptime := if s.settings.ptime ≠ 0 then s.settings.ptime else media.ptime }
  let r := codecListMatch (localCodecList s.settings E.arr media.codecList) d.capabilities
  let media := { media.disableUnless r.2 with codecList := r.1 }
  ({ s with localMedia := some media }, E.opened && r.2)

def updatedCodecList (arr : Nat) (list : CodecList) (capabilities : Option CodecCapabilities) : CodecList × Bool :=
  codecListMatch (if list.descriptors = [] then codecManagerCodecListGet arr else list) capabilities

def SocketPair.updated (E : SocketPair) (old media : RtpMediaDescriptor) : Bool :=
  if namesCompare old.ip media.ip = false ∨ old.port ≠ media.port then E.opened else true

/-- `mpf_rtp_stream_local_media_update` -/
def localMediaUpdate (s : RtpStream) (old media : RtpMediaDescriptor) (capabilities : Option CodecCapabilities)
    (E : SocketPair) : RtpStream × Bool :=
  let r := updatedCodecList E.arr media.codecList capabilities
  let ok := E.updated old media && r.2
  ({ s with localMedia := some { media.disableUnless ok with codecList := r.1 } }, ok)

/-- `mpf_stream_reverse_direction_get` -/
def reverseDirectionGet : StreamDirection → StreamDirection
  | .send => .receive
  | .receive => .send
  | direction => direction

/-- The part of `mpf_rtp_stream_media_negotiate` that enables or disables the session. -/
def stateNegotiate (s : RtpStream) (remote : MediaState) : RtpStream :=
  if s.state = .disabled ∧ remote = .enabled then { s.timersSet with state := .enabled }
  else if s.state = .enabled ∧ remote = .disabled then { s.timersKill with state := .disabled }
  else s

/-- The lists of a local and a remote medium, intersected in the order of the preference. -/
def mediaIntersect (ownPreference : Bool) (localList remoteList : CodecList) : CodecList × CodecList × Bool :=
  if ownPreference then codecListsIntersect localList remoteList
  else
    let r := codecListsIntersect remoteList localList
    (r.2.1, r.1, r.2.2)

/-- `mpf_rtp_stream_media_negotiate`, of media that are not NULL. -/
def mediaNegotiate (s : RtpStream) (localMedia remoteMedia : RtpMediaDescriptor) : RtpStream :=
  let s := stateNegotiate s remoteMedia.state
  let localMedia :=
    { localMedia with
      id := remoteMedia.id
      mid := remoteMedia.mid
      ptime := remoteMedia.ptime
      state := remoteMedia.state
      direction := reverseDirectionGet remoteMedia.direction }
  if remoteMedia.state = .enabled then
    let r := mediaIntersect s.settings.ownPreference localMedia.codecList remoteMedia.codecList
    let localMedia := { localMedia with codecList := r.1 }
    let remoteMedia := { remoteMedia with codecList := r.2.1 }
    if r.2.2 then
      { s with localMedia := some localMedia, remoteMedia := some remoteMedia, direction := localMedia.direction }
    else
      -- the session is rejected
      { s.timersKill with
        state := .disabled
        localMedia := some { localMedia with direction := .none, state := .disabled }
        remoteMedia := some remoteMedia
        direction := .none }
  else { s with localMedia := some localMedia, remoteMedia := some remoteMedia, direction := localMedia.direction }

/-- The descriptors of what a stream sends: an event descriptor is only replaced by another one. -/
def txDescriptorsSet (s : RtpStream) : RtpStream :=
  match s.direction.sends, s.remoteMedia with
  | true, some media =>
    { s with
      txDescriptor := media.codecList.primary
      txEventDescriptor := media.codecList.event.or s.txEventDescriptor }
  | _, _ => s

def rxDescriptorsSet (s : RtpStream) : RtpStream :=
  match s.direction.receives, s.localMedia with
  | true, some media =>
    { s with
      rxDescriptor := media.codecList.primary
      rxEventDescriptor := media.codecList.event.or s.rxEventDescriptor }
  | _, _ => s

/-- The end of `mpf_rtp_stream_modify`. A direction comes with local and remote media. -/
def descriptorsSet (s : RtpStream) : RtpStream := rxDescriptorsSet (txDescriptorsSet s)

/-- The part of `mpf_rtp_stream_modify` that sets up the local media. -/
def localMediaSet (s : RtpStream) (d : RtpStreamDescriptor) (E : SocketPair) : RtpStream × Bool :=
  match s.localMedia, d.localMedia with
  | none, _ => localMediaCreate s d E
  | some old, some media => localMediaUpdate s old media d.capabilities E
  | some _, none => (s, true)

/-- The part of `mpf_rtp_stream_modify` that negotiates, if there is remote media and the local media is set up. -/
def remoteMediaSet (s : RtpStream) (remoteMedia : Option RtpMediaDescriptor) (ok : Bool) : RtpStream :=
  match s.localMedia, remoteMedia, ok with
  | some localMedia, some remoteMedia, true => mediaNegotiate s localMedia remoteMedia
  | _, _, _ => s

def RtpStream.modify (s : RtpStream) (d : RtpStreamDescriptor) (E : SocketPair) : RtpStream × Bool :=
  let r := localMediaSet s d E
  (descriptorsSet (remoteMediaSet r.1 d.remoteMedia r.2), r.2)

def RtpStream.remove (s : RtpStream) : RtpStream :=
  if s.state = .enabled then { s.timersKill with state := .disabled } else s

inductive RtpStreamCall
  | modify (d : RtpStreamDescriptor) (E : SocketPair)
  | remove
deriving DecidableEq

def RtpStream.step (s : RtpStream) : RtpStreamCall → RtpStream × Bool
  | .modify d E => s.modify d E
  | .remove => (s.remove, true)

def rtpStreamCreate (settings : RtpStreamSettings) : RtpStream where
  settings := settings

end UniMrcp.Mpf.Path
