import UniMrcp.UniRtsp.Header

/-!
# RTSP header fields on the wire

The typed members of an RTSP header are generated into header fields, and parsed from them.
-/

namespace UniMrcp.UniRtsp

open Apt List Option Transport PortRange Header
open Mrcp (decimal digit_of_mem_decimal)

/-! ## Header sections -/

/-- A header section whose array has room for all header fields, each under the number that its name finds. -/
structure Sound (headerSection : HeaderSection) : Prop where
  size : headerSection.arr.length = rtspHeaderFieldCount
  named : ∀ id field, headerSection.arr[id]? = some (some field) →
    stringTableIdFind rtspHeaderStringTable rtspHeaderFieldCount field.name = id

theorem sound_headerInit (delivery : Delivery) : Sound (headerInit delivery).headerSection := by
  refine ⟨rfl, fun id field h => ?_⟩
  have hn : (headerInit delivery).headerSection.arr = List.replicate rtspHeaderFieldCount none := rfl
  rw [hn, List.getElem?_replicate] at h
  split at h
  · exact absurd (Option.some.inj h) (by simp)
  · exact absurd h (by simp)

variable (header : Header)

@[simp] theorem headerFieldValueParse_headerSection (id : Option HeaderFieldId) (value : Bytes) :
    (headerFieldValueParse header id value).1.headerSection = header.headerSection := by
  cases id with
  | none => rfl
  | some id => cases id <;> rfl

variable (field : HeaderField)

@[simp] theorem headerFieldParse_headerSection :
    (headerFieldParse header field).1.headerSection = header.headerSection := by
  unfold headerFieldParse
  split <;> simp

theorem headerFieldParse_id :
    (headerFieldParse header field).2.id = some (stringTableIdFind rtspHeaderStringTable rtspHeaderFieldCount
      (headerFieldParse header field).2.name) := rfl

variable (id : HeaderFieldId)

theorem exists_name :
    ∃ name, stringTableStrGet rtspHeaderStringTable rtspHeaderFieldCount id.index = some name ∧
      stringTableIdFind rtspHeaderStringTable rtspHeaderFieldCount name = id.index ∧
      HeaderFieldId.ofIndex id.index = some id := by
  cases id <;> exact ⟨_, rfl, by decide, rfl⟩

theorem HeaderFieldId.index_lt : id.index < rtspHeaderFieldCount := by
  cases id <;> decide

/-- The value that a header field has before it is generated: none if there is no such header field. -/
def Header.formerValue (header : Header) (id : HeaderFieldId) : Bytes :=
  ((headerSectionFieldGet header.headerSection id.index).map HeaderField.value).getD []

theorem Sound.entry {headerSection : HeaderSection} (h : Sound headerSection) (id : HeaderFieldId) :
    headerSection.arr[id.index]? = some (headerSectionFieldGet headerSection id.index) := by
  have hlt : id.index < headerSection.arr.length := h.size ▸ id.index_lt
  rw [headerSectionFieldGet, getD_eq_getElem?_getD, List.getElem?_eq_getElem hlt, getD_some]

theorem exists_propertyAdd {header : Header} (h : Sound header.headerSection) (id : HeaderFieldId) :
    ∃ field, headerSectionFieldGet (headerPropertyAdd header id).1.headerSection id.index = some field ∧
      stringTableIdFind rtspHeaderStringTable rtspHeaderFieldCount field.name = id.index ∧
      field.value = headerFieldValueGenerate header id (header.formerValue id) := by
  have he := h.entry id
  have hlt : id.index < header.headerSection.arr.length := h.size ▸ id.index_lt
  unfold headerPropertyAdd formerValue
  cases hg : headerSectionFieldGet header.headerSection id.index with
  | some field =>
    refine ⟨{ field with value := headerFieldValueGenerate header id field.value }, ?_, ?_, rfl⟩
    · simp [headerSectionFieldGet, headerSectionFieldReplace, hlt]
    · exact h.named id.index field (hg ▸ he)
  | none =>
    obtain ⟨name, hn, hf, -⟩ := exists_name id
    refine ⟨⟨name, headerFieldValueGenerate header id [], some id.index⟩, ?_, hf, rfl⟩
    simp only [hn, headerSectionFieldInsert, HeaderSection.entry, bind_some, he, hg,
      HeaderSection.setEntry]
    simp [headerSectionFieldGet, hlt]

/-! ## The text of a transport -/

def attribText (attrib : TransportAttrib) (value : Bytes) : Bytes := attrib.text ++ 0x3D :: value

def PortRange.text (range : PortRange) : Bytes :=
  decimal range.min.toNat ++ if range.min < range.max then 0x2D :: decimal range.max.toNat else []

def Delivery.texts : Delivery → List Bytes
  | .unicast => [TransportAttrib.unicast.text]
  | .multicast => [TransportAttrib.multicast.text]
  | .none => []
  | .other _ => []

def PortRange.texts (attrib : TransportAttrib) (range : PortRange) : List Bytes :=
  if portRangeIsValid range then [attribText attrib range.text] else []

def modeTexts (mode : Bytes) : List Bytes := if mode = [] then [] else [attribText .mode mode]

def Transport.attribTexts (transport : Transport) : List Bytes :=
  transport.delivery.texts ++ transport.clientPortRange.texts .clientPort ++
    transport.serverPortRange.texts .serverPort ++ modeTexts transport.mode

def Transport.specText (transport : Transport) : Bytes :=
  transport.protocol.text.getD [] ++ 0x2F :: transport.profile.text.getD []

def Transport.text (transport : Transport) : Bytes :=
  [(0x3B : UInt8)].intercalate (transport.specText :: transport.attribTexts)

theorem writes_textCharInsert (ch : UInt8) : Writes (fun b => (textCharInsert ch b).1) [ch] :=
  writes_of_emits fun _ hb => if_pos hb

theorem writes_textStringInsert (str : Bytes) : Writes (fun b => (textStringInsert str b).1) str :=
  writes_of_emits (emits_textStringInsert str)

theorem writes_textSizeValueInsert (value : Nat) : Writes (fun b => (textSizeValueInsert value b).1) (decimal value) :=
  writes_of_emits (emits_textSizeValueInsert value)

theorem writes_id : Writes (fun b => b) [] := fun b _ => (put_nil b).symm

variable (attrib : TransportAttrib)

variable (range : PortRange)

theorem writes_portRangeGenerate : Writes (portRangeGenerate attrib range) (attribText attrib range.text) := by
  have hm := ((writes_textStringInsert attrib.text).comp (writes_textCharInsert 0x3D)).comp
    (writes_textSizeValueInsert range.min.toNat)
  intro b hb
  unfold portRangeGenerate attribText PortRange.text at *
  split
  · next hlt =>
    have hx := (hm.comp (writes_textCharInsert 0x2D)).comp (writes_textSizeValueInsert range.max.toNat)
    have hw := hx b (by simpa [hlt] using hb)
    simpa [hlt] using hw
  · next hge =>
    have hw := hm b (by simpa [hge] using hb)
    simpa [hge] using hw

theorem writes_portRangeInsert : Writes (portRangeInsert attrib range) ((range.texts attrib).flatMap (0x3B :: ·)) := by
  unfold portRangeInsert texts
  split
  · simpa using (writes_textCharInsert 0x3B).comp (writes_portRangeGenerate attrib range)
  · exact writes_id

theorem writes_modeInsert (mode : Bytes) : Writes (modeInsert mode) ((modeTexts mode).flatMap (0x3B :: ·)) := by
  unfold modeInsert modeTexts
  split
  · exact writes_id
  · simpa [attribText] using (((writes_textCharInsert 0x3B).comp
      (writes_textStringInsert TransportAttrib.mode.text)).comp (writes_textCharInsert 0x3D)).comp
      (writes_textStringInsert mode)

variable {delivery : Delivery}

theorem exists_deliveryInsert (h : delivery = .unicast ∨ delivery = .multicast) :
    ∃ f, deliveryInsert delivery = (fun b => some (f b)) ∧ Writes f (delivery.texts.flatMap (0x3B :: ·)) := by
  obtain rfl | rfl := h
  · exact ⟨_, rfl, by simpa [Delivery.texts] using
      (writes_textCharInsert 0x3B).comp (writes_textStringInsert TransportAttrib.unicast.text)⟩
  · exact ⟨_, rfl, by simpa [Delivery.texts] using
      (writes_textCharInsert 0x3B).comp (writes_textStringInsert TransportAttrib.multicast.text)⟩

variable {transport : Transport}

/-- **What is generated if it fits.** -/
theorem transportGenerate_eq (h : transport.protocol ≠ .none) (hr : transport.profile ≠ .none)
    (hd : transport.delivery = .unicast ∨ transport.delivery = .multicast)
    (ht : transport.text.length < transportBufferSize) : transportGenerate transport = some transport.text := by
  obtain ⟨protocol, h⟩ : ∃ text, transport.protocol.text = some text := by
    cases hp : transport.protocol with
    | rtp => exact ⟨_, rfl⟩
    | none => exact absurd hp h
  obtain ⟨profile, hr⟩ : ∃ text, transport.profile.text = some text := by
    cases hp : transport.profile with
    | avp => exact ⟨_, rfl⟩
    | savp => exact ⟨_, rfl⟩
    | none => exact absurd hp hr
  obtain ⟨f, hf, hwr⟩ := exists_deliveryInsert hd
  have hs := ((writes_textStringInsert protocol).comp (writes_textCharInsert 0x2F)).comp
    (writes_textStringInsert profile)
  have ha := (((hs.comp hwr).comp (writes_portRangeInsert .clientPort transport.clientPortRange)).comp
    (writes_portRangeInsert .serverPort transport.serverPortRange)).comp (writes_modeInsert transport.mode)
  have hx : transport.text = protocol ++ [0x2F] ++ profile ++ transport.delivery.texts.flatMap (0x3B :: ·) ++
      (transport.clientPortRange.texts .clientPort).flatMap (0x3B :: ·) ++
      (transport.serverPortRange.texts .serverPort).flatMap (0x3B :: ·) ++
      (modeTexts transport.mode).flatMap (0x3B :: ·) := by
    simp [Transport.text, intercalate_cons_eq, specText, attribTexts, h, hr]
  rw [hx] at ht ⊢
  have hw := ha (textBufferInit transportBufferSize) (by rw [textBufferInit_room]; exact_mod_cast ht)
  simp only [transportGenerate, h, hr, hf, bind_eq_bind, bind_some]
  exact congrArg (fun b => some b.text) hw

/-! ## Parsing the text of a transport -/

variable {beyond : Bytes}

theorem port_decimal (port : UInt16) (h : EndsNumber beyond) :
    UInt16.ofNat (sizeValueParse ⟨decimal port.toNat, beyond⟩) = port := by
  have hp := port.toNat_lt
  rw [sizeValueParse_decimal _ h, Nat.min_eq_left (by omega), UInt16.ofNat_toNat]

def PortRange.readOver (range former : PortRange) : PortRange :=
  if range.min < range.max then range else { former with min := range.min }

theorem portRangeParse_text (range former : PortRange) (s : TextStream) (hs : s.rest = range.text)
    (hb : EndsNumber s.beyond) : portRangeParse former s = range.readOver former := by
  have hm : IsField 0x2D (decimal range.min.toNat) := isField_decimal (by decide) _
  unfold PortRange.text at hs
  unfold readOver
  by_cases hlt : range.min < range.max
  · have hx : IsField 0x3B (decimal range.max.toNat) := isField_decimal (by decide) _
    rw [if_pos hlt] at hs ⊢
    have he : EndsNumber (0x2D :: decimal range.max.toNat ++ s.beyond) := by simp [isDigit]
    have hp := port_decimal range.min he
    have hp' := port_decimal range.max hb
    simp only [portRangeParse, textFieldRead_sep hm s hs, hp]
    rw [textFieldRead_last hx _ rfl]
    simp only [hp']
  · rw [if_neg hlt, append_nil] at hs
    have hp := port_decimal range.min hb
    simp only [portRangeParse, textFieldRead_last hm s hs, hp, if_neg hlt]
    rw [textFieldRead_nil _ rfl]

theorem isField_attrib : IsField 0x3D attrib.text := by
  cases attrib <;> exact ⟨by decide, by decide, by decide⟩

theorem transportAttribFind_text : transportAttribFind attrib.text = some attrib := by
  cases attrib <;> decide

theorem textFieldRead_attribText (value beyond : Bytes) :
    ∃ stream, textFieldRead (textStreamInit ⟨attribText attrib value, beyond⟩) 0x3D =
        (stream, some ⟨attrib.text, 0x3D :: value ++ beyond⟩) ∧ stream.rest = value ∧ stream.beyond = beyond :=
  ⟨_, textFieldRead_sep (isField_attrib attrib) _ rfl, rfl, rfl⟩

theorem transportAttribParse_range {attrib : TransportAttrib} (h : attrib = .clientPort ∨ attrib = .serverPort)
    (range : PortRange) (transport : Transport) (hb : EndsNumber beyond) :
    transportAttribParse transport ⟨attribText attrib range.text, beyond⟩ =
      { transport with clientPortRange := range.readOver transport.clientPortRange } := by
  obtain ⟨stream, hr, hs, ht⟩ := textFieldRead_attribText attrib range.text beyond
  have hn := portRangeParse_text range transport.clientPortRange stream hs (ht ▸ hb)
  unfold transportAttribParse
  simp only [hr, transportAttribFind_text]
  obtain rfl | rfl := h <;> simp only [hn]

variable {text : Bytes}

theorem transportAttribParse_delivery (h : text ∈ delivery.texts) (transport : Transport) (beyond : Bytes) :
    transportAttribParse transport ⟨text, beyond⟩ = { transport with delivery := delivery } := by
  cases delivery with
  | unicast =>
    obtain rfl := mem_singleton.1 h
    simp only [transportAttribParse, textFieldRead_init (isField_attrib .unicast), transportAttribFind_text]
  | multicast =>
    obtain rfl := mem_singleton.1 h
    simp only [transportAttribParse, textFieldRead_init (isField_attrib .multicast), transportAttribFind_text]
  | none => exact absurd h not_mem_nil
  | other value => exact absurd h not_mem_nil

def withoutSpaces (value : Bytes) : Bytes := value.dropWhile (· == tokenSp)

theorem withoutSpaces_eq_iff (value : Bytes) : withoutSpaces value = value ↔ value.head? ≠ some tokenSp := by
  unfold withoutSpaces
  rw [dropWhile_eq_self_iff]
  cases value with
  | nil => simp
  | cons ch value => simp

def modeReadOver (mode former : Bytes) : Bytes := if withoutSpaces mode = [] then former else withoutSpaces mode

variable {mode : Bytes}

theorem transportAttribParse_mode (h : 0x3B ∉ mode) (transport : Transport) (beyond : Bytes) :
    transportAttribParse transport ⟨attribText .mode mode, beyond⟩ =
      { transport with mode := modeReadOver mode transport.mode } := by
  obtain ⟨stream, hr, hs, -⟩ := textFieldRead_attribText .mode mode beyond
  have hm : 0x3B ∉ withoutSpaces mode := fun hm => h ((dropWhile_suffix _).subset hm)
  have hv : transportAttribValueParse transport.mode stream = modeReadOver mode transport.mode := by
    unfold transportAttribValueParse textFieldRead modeReadOver
    simp only [hs]
    rw [← withoutSpaces, takeWhile_of_notMem_last hm]
    by_cases hn : withoutSpaces mode = []
    · simp only [hn, if_true]
    · simp only [hn, if_false]
  unfold transportAttribParse
  simp only [hr, transportAttribFind_text, hv]

theorem transportProtocolParse_specText (h : transport.protocol ≠ .none)
    (hf : transport.profile ≠ .none) (former : Transport) (beyond : Bytes) :
    transportProtocolParse former ⟨transport.specText, beyond⟩ =
      ({ former with protocol := transport.protocol, profile := transport.profile, lowerProtocol := .udp }, true) := by
  have hr : ∀ profile, IsField 0x2F profile → profileFind profile = transport.profile →
      transportProtocolParse former ⟨ascii "RTP" ++ 0x2F :: profile, beyond⟩ =
        ({ former with protocol := .rtp, profile := transport.profile, lowerProtocol := .udp }, true) := by
    intro profile hl hfi
    have ht : IsField 0x2F (ascii "RTP") := ⟨by decide, by decide, by decide⟩
    have h : transportProtocolFind (ascii "RTP") = .rtp := by decide
    have hs := textFieldRead_sep ht (textStreamInit ⟨ascii "RTP" ++ 0x2F :: profile, beyond⟩) rfl
    simp only [transportProtocolParse, hs, h, reduceCtorEq, if_false]
    rw [textFieldRead_last hl _ rfl]
    simp only [hfi, if_neg hf]
    rw [textFieldRead_nil _ rfl]
  unfold specText
  cases hp : transport.protocol with
  | none => exact absurd hp h
  | rtp =>
    cases hq : transport.profile with
    | avp =>
      rw [hq] at hr
      exact hr (ascii "AVP") ⟨by decide, by decide, by decide⟩ (by decide)
    | savp =>
      rw [hq] at hr
      exact hr (ascii "SAVP") ⟨by decide, by decide, by decide⟩ (by decide)
    | none => exact absurd hq hf

structure Transport.Known (transport : Transport) : Prop where
  protocol : transport.protocol ≠ .none
  profile : transport.profile ≠ .none
  delivery : transport.delivery = .unicast ∨ transport.delivery = .multicast
  mode : 0x3B ∉ transport.mode

def PortRange.readIfValid (range former : PortRange) : PortRange :=
  if portRangeIsValid range then range.readOver former else former

def Transport.readBack (transport : Transport) : Transport where
  protocol := transport.protocol
  profile := transport.profile
  lowerProtocol := .udp
  delivery := transport.delivery
  -- both ranges go to the client's one
  clientPortRange := transport.serverPortRange.readIfValid (transport.clientPortRange.readIfValid portRangeInit)
  serverPortRange := portRangeInit
  source := []
  destination := []
  mode := withoutSpaces transport.mode

theorem semicolon_notMem_decimal (n : Nat) : (0x3B : UInt8) ∉ decimal n := fun h =>
  absurd (digit_of_mem_decimal h).2 (by decide)

theorem semicolon_notMem_rangeText : (0x3B : UInt8) ∉ range.text := by
  have hm := semicolon_notMem_decimal range.min.toNat
  have hx := semicolon_notMem_decimal range.max.toNat
  unfold PortRange.text
  split <;> simp [hm, hx]

theorem isField_attribText {value : Bytes} (h : 0x3B ∉ value) : IsField 0x3B (attribText attrib value) := by
  have hn : attrib.text ≠ [] ∧ attrib.text.head? ≠ some tokenSp ∧ (0x3B : UInt8) ∉ attrib.text := by
    cases attrib <;> decide
  refine ⟨by simp [attribText], ?_, ?_⟩
  · rw [attribText, List.head?_append_of_ne_nil _ hn.1]
    exact hn.2.1
  · simp [attribText, hn.2.2, h]

theorem isField_delivery (h : text ∈ delivery.texts) : IsField 0x3B text := by
  cases delivery with
  | unicast =>
    obtain rfl := mem_singleton.1 h
    exact ⟨by decide, by decide, by decide⟩
  | multicast =>
    obtain rfl := mem_singleton.1 h
    exact ⟨by decide, by decide, by decide⟩
  | none => exact absurd h not_mem_nil
  | other value => exact absurd h not_mem_nil

theorem Transport.mem_attribTexts (h : text ∈ transport.attribTexts) :
    text ∈ transport.delivery.texts ∨ (∃ attrib range, (attrib = .clientPort ∨ attrib = .serverPort) ∧
      text = attribText attrib (PortRange.text range)) ∨ text = attribText .mode transport.mode := by
  simp only [attribTexts, texts, modeTexts, mem_append] at h
  rcases h with ((h | h) | h) | h
  · exact .inl h
  · split at h
    · exact .inr (.inl ⟨.clientPort, _, .inl rfl, mem_singleton.1 h⟩)
    · exact absurd h not_mem_nil
  · split at h
    · exact .inr (.inl ⟨.serverPort, _, .inr rfl, mem_singleton.1 h⟩)
    · exact absurd h not_mem_nil
  · split at h
    · exact absurd h not_mem_nil
    · exact .inr (.inr (mem_singleton.1 h))

theorem Transport.Known.isField (h : transport.Known) (hm : text ∈ transport.attribTexts) : IsField 0x3B text := by
  rcases mem_attribTexts hm with hd | ⟨attrib, range, -, rfl⟩ | rfl
  · exact isField_delivery hd
  · exact isField_attribText attrib (semicolon_notMem_rangeText range)
  · exact isField_attribText .mode h.mode

theorem Transport.Known.attribParse_beyond (h : transport.Known) (hm : text ∈ transport.attribTexts)
    (former : Transport) (hb : EndsNumber beyond) :
    transportAttribParse former ⟨text, beyond⟩ = transportAttribParse former ⟨text, []⟩ := by
  rcases mem_attribTexts hm with hd | ⟨attrib, range, ha, rfl⟩ | rfl
  · rw [transportAttribParse_delivery hd, transportAttribParse_delivery hd]
  · rw [transportAttribParse_range ha range former hb,
      transportAttribParse_range ha range former endsNumber_nil]
  · rw [transportAttribParse_mode h.mode, transportAttribParse_mode h.mode]

def attribRead (transport : Transport) (text : Bytes) : Transport := transportAttribParse transport ⟨text, []⟩

theorem foldl_delivery (h : delivery = .unicast ∨ delivery = .multicast) (transport : Transport) :
    delivery.texts.foldl attribRead transport = { transport with delivery := delivery } := by
  obtain rfl | rfl := h
  · have hm : TransportAttrib.unicast.text ∈ Delivery.unicast.texts := mem_singleton.2 rfl
    exact transportAttribParse_delivery hm transport []
  · have hm : TransportAttrib.multicast.text ∈ Delivery.multicast.texts := mem_singleton.2 rfl
    exact transportAttribParse_delivery hm transport []

theorem foldl_range {attrib : TransportAttrib} (h : attrib = .clientPort ∨ attrib = .serverPort) (range : PortRange)
    (transport : Transport) :
    (range.texts attrib).foldl attribRead transport =
      { transport with clientPortRange := range.readIfValid transport.clientPortRange } := by
  unfold texts readIfValid
  split
  · exact transportAttribParse_range h range transport endsNumber_nil
  · rfl

theorem foldl_mode (h : 0x3B ∉ mode) (ht : transport.mode = []) :
    (modeTexts mode).foldl attribRead transport = { transport with mode := withoutSpaces mode } := by
  have ho : modeReadOver mode transport.mode = withoutSpaces mode := by
    unfold modeReadOver
    split
    · next hn => rw [ht, hn]
    · rfl
  unfold modeTexts
  split
  · next hn =>
    subst hn
    show transport = { transport with mode := [] }
    rw [← ht]
  · rw [← ho]
    exact transportAttribParse_mode h transport []

/-- **What is parsed from the text of a transport.** -/
theorem transportParse_text (h : transport.Known) (delivery : Delivery) :
    transportParse (transportInit delivery) transport.text = (transport.readBack, true) := by
  obtain ⟨first, rest, ha⟩ : ∃ first rest, transport.attribTexts = first :: rest := by
    refine exists_cons_of_ne_nil ?_
    obtain hd | hd := h.delivery <;> simp [attribTexts, Delivery.texts, hd]
  have hs : IsField 0x3B transport.specText := by
    unfold specText
    cases hp : transport.protocol with
    | none => exact absurd hp h.protocol
    | rtp =>
      cases hq : transport.profile with
      | avp => exact ⟨by decide, by decide, by decide⟩
      | savp => exact ⟨by decide, by decide, by decide⟩
      | none => exact absurd hq h.profile
  have hr : ∀ former text beyond, text ∈ transport.attribTexts →
      (beyond = [] ∨ beyond.head? = some 0x3B) →
        transportAttribParse former ⟨text, beyond⟩ = attribRead former text := by
    rintro former text beyond hm (rfl | hh)
    · rfl
    · refine h.attribParse_beyond hm former fun ch hc => ?_
      obtain rfl := Option.some.inj (hh.symm.trans hc)
      decide
  have hl := fieldsRead_intercalate (fun _ => h.isField)
    ⟨transport.specText ++ [0x3B], [(0x3B : UInt8)].intercalate transport.attribTexts, [], false⟩ rfl hr
  have ht : (textStreamInit ⟨transport.text, []⟩).rest =
      transport.specText ++ 0x3B :: [(0x3B : UInt8)].intercalate transport.attribTexts := by
    simp [textStreamInit, Transport.text, ha, intercalate_cons_cons]
  have hrd := textFieldRead_sep hs (textStreamInit ⟨transport.text, []⟩) ht
  unfold transportParse
  simp only [hrd, transportProtocolParse_specText h.protocol h.profile]
  have hst : ({ textStreamInit ⟨transport.text, []⟩ with
      done := (textStreamInit ⟨transport.text, []⟩).done ++ transport.specText ++ [0x3B],
      rest := [(0x3B : UInt8)].intercalate transport.attribTexts } : TextStream) =
      ⟨transport.specText ++ [0x3B], [(0x3B : UInt8)].intercalate transport.attribTexts, [], false⟩ := rfl
  rw [hst, hl, attribTexts, foldl_append, foldl_append, foldl_append,
    foldl_delivery h.delivery, foldl_range (.inl rfl), foldl_range (.inr rfl), foldl_mode h.mode rfl]
  rfl

/-! ## What survives -/

def Header.typed (header : Header) : Header := { header with headerSection := headerSectionInit }

/-- A header with the typed member of one header field taken from another one. -/
def Header.withMember (header source : Header) : HeaderFieldId → Header
  | .cseq => { header with cseq := source.cseq }
  | .transport => { header with transport := source.transport }
  | .sessionId => { header with sessionId := source.sessionId }
  | .rtpInfo => { header with rtpInfo := source.rtpInfo }
  | .contentType => { header with contentType := source.contentType }
  | .contentLength => { header with contentLength := source.contentLength }

/-- A header that was initialized, with one header field that came over the wire. -/
def headerReceive (delivery : Delivery) (name value : Bytes) : Header :=
  { headerInit delivery with headerSection := { (headerInit delivery).headerSection with
    ring := [⟨name, value, none⟩] } }

/-- The header field that is generated for a member is parsed as this member, and as nothing else. -/
def Header.Survives (header : Header) (id : HeaderFieldId) : Prop :=
  ∃ field, headerSectionFieldGet (headerPropertyAdd header id).1.headerSection id.index = some field ∧
    ∀ delivery, (headerFieldsParse (headerReceive delivery field.name field.value)).typed =
      ((headerInit delivery).withMember header id).typed

/-- A range of ports: there is none, or the lower port is not 0 and not above the upper one. -/
def PortRange.Proper (range : PortRange) : Prop := range = portRangeInit ∨ 0 < range.min ∧ range.min ≤ range.max

/-- A transport that RTSP knows, whose text fits the buffer it is generated into. -/
structure Transport.Proper (transport : Transport) : Prop extends transport.Known where
  clientPortRange : transport.clientPortRange.Proper
  serverPortRange : transport.serverPortRange.Proper
  fits : transport.text.length < transportBufferSize

def Header.Proper (header : Header) : HeaderFieldId → Prop
  | .transport => header.transport.Proper
  | .sessionId => 0x3B ∉ header.sessionId
  | _ => True

/-- A transport without what is not generated, without a server's range, and without what is read in another way. -/
structure Transport.Plain (transport : Transport) : Prop where
  lowerProtocol : transport.lowerProtocol = .udp
  source : transport.source = []
  destination : transport.destination = []
  serverPortRange : transport.serverPortRange = portRangeInit
  clientPortRange : transport.clientPortRange = portRangeInit ∨
    transport.clientPortRange.min < transport.clientPortRange.max
  mode : transport.mode.head? ≠ some tokenSp

/-- The members that survive: numbers of less than 2^63, and a content type that is known or was not known before. -/
def Header.Plain (header : Header) : HeaderFieldId → Prop
  | .cseq => header.cseq.toNat < 2 ^ 63
  | .contentLength => header.contentLength.toNat < 2 ^ 63
  | .transport => header.transport.Plain
  | .contentType => header.contentType = .none → contentTypeFind (header.formerValue .contentType) = .none
  | _ => True

theorem typed_headerFieldsParse (delivery : Delivery) {name : Bytes} {id : HeaderFieldId}
    (hn : stringTableIdFind rtspHeaderStringTable rtspHeaderFieldCount name = id.index) (value : Bytes) :
    (headerFieldsParse (headerReceive delivery name value)).typed =
      if value = [] then (headerInit delivery).typed
      else (headerFieldValueParse (headerInit delivery) (some id) value).1.typed := by
  have hid : HeaderFieldId.ofIndex id.index = some id := by cases id <;> rfl
  simp only [headerFieldsParse, headerReceive, foldl_cons, foldl_nil, headerFieldsStep, headerFieldParse,
    hn, hid]
  split
  · rfl
  · cases id <;> rfl

variable (n : UInt64)

theorem ofNat_min_eq_iff : UInt64.ofNat (min n.toNat (2 ^ 63 - 1)) = n ↔ n.toNat < 2 ^ 63 := by
  have hn := n.toNat_lt
  rw [← UInt64.toNat_inj, UInt64.toNat_ofNat_of_lt' (by show _ < 2 ^ 64; omega)]
  omega

theorem sizeValue_eq_iff : UInt64.ofNat (sizeValueParse ⟨decimal n.toNat, []⟩) = n ↔ n.toNat < 2 ^ 63 := by
  rw [sizeValueParse_decimal n.toNat endsNumber_nil, ofNat_min_eq_iff]

theorem sessionIdParse_eq {sessionId : Bytes} (h : 0x3B ∉ sessionId) : sessionIdParse sessionId = sessionId := by
  have hn : (sessionId.takeWhile (· != 0)).idxOf? 0x3B = none :=
    List.idxOf?_eq_none_iff.2 fun hm => h ((takeWhile_sublist _).subset hm)
  simp only [sessionIdParse, hn]

theorem PortRange.Proper.readIfValid_eq_iff {range : PortRange} (h : range.Proper) :
    range.readIfValid portRangeInit = range ↔ range = portRangeInit ∨ range.min < range.max := by
  obtain rfl | ⟨hm, hx⟩ := h
  · simp [readIfValid, portRangeIsValid, portRangeInit]
  · have hv : portRangeIsValid range := by
      simp only [portRangeIsValid, Bool.not_eq_true', Bool.and_eq_false_imp, beq_iff_eq]
      intro hz
      rw [hz] at hm
      exact absurd hm (by decide)
    have hne : range ≠ portRangeInit := fun heq => by
      subst heq
      exact absurd hv (by decide)
    rw [readIfValid, if_pos hv, readOver]
    split
    · next hlt => simp [hlt]
    · next hge =>
      refine ⟨fun heq => ?_, fun heq => (heq.elim (fun h => absurd h hne) fun h => absurd h hge)⟩
      have hz : range.max = 0 := (congrArg max heq).symm
      rw [hz] at hx
      exact absurd (UInt16.lt_of_lt_of_le hm hx) (by decide)

theorem Transport.Proper.readBack_eq_iff (h : transport.Proper) : transport.readBack = transport ↔ transport.Plain := by
  constructor
  · intro heq
    have hs : transport.serverPortRange = portRangeInit := (congrArg Transport.serverPortRange heq).symm
    have hc := congrArg Transport.clientPortRange heq
    have hm : withoutSpaces transport.mode = transport.mode := congrArg Transport.mode heq
    simp only [readBack, hs] at hc
    exact ⟨(congrArg Transport.lowerProtocol heq).symm, (congrArg Transport.source heq).symm,
      (congrArg Transport.destination heq).symm, hs, h.clientPortRange.readIfValid_eq_iff.1 hc,
      (withoutSpaces_eq_iff _).1 hm⟩
  · intro hp
    have hc := h.clientPortRange.readIfValid_eq_iff.2 hp.clientPortRange
    have hm := (withoutSpaces_eq_iff _).2 hp.mode
    have hs : readIfValid portRangeInit transport.clientPortRange = transport.clientPortRange := rfl
    obtain ⟨_, _, _, _, _, _, _, _, _⟩ := transport
    obtain ⟨rfl, rfl, rfl, rfl, -, -⟩ := hp
    simp only [readBack, hc, hm, hs]

theorem ContentType.text_find {contentType : ContentType} (h : contentType.text = some text) :
    text ≠ [] ∧ contentTypeFind text = contentType := by
  cases contentType with
  | sdp =>
    obtain rfl := Option.some.inj h
    decide
  | mrcp =>
    obtain rfl := Option.some.inj h
    decide
  | none => exact absurd h (by simp [ContentType.text])

def Header.Reads (header : Header) (id : HeaderFieldId) (value : Bytes) : Prop :=
  ∀ delivery, (if value = [] then (headerInit delivery).typed
    else (headerFieldValueParse (headerInit delivery) (some id) value).1.typed) =
      ((headerInit delivery).withMember header id).typed

theorem survives_iff_reads {header : Header} (hs : Sound header.headerSection) (id : HeaderFieldId) :
    header.Survives id ↔ header.Reads id (headerFieldValueGenerate header id (header.formerValue id)) := by
  obtain ⟨field, hg, hn, hv⟩ := exists_propertyAdd hs id
  unfold Header.Survives Header.Reads
  rw [hg]
  simp only [Option.some.injEq, exists_eq_left', typed_headerFieldsParse _ hn, hv]

theorem reads_cseq : header.Reads .cseq (decimal header.cseq.toNat) ↔ header.cseq.toNat < 2 ^ 63 := by
  rw [← sizeValue_eq_iff]
  unfold Header.Reads
  simp only [decimal_ne_nil, if_false]
  exact ⟨fun h => congrArg Header.cseq (h .none), fun h delivery =>
    congrArg (fun n => ({ headerInit delivery with cseq := n } : Header).typed) h⟩

theorem reads_contentLength :
    header.Reads .contentLength (decimal header.contentLength.toNat) ↔ header.contentLength.toNat < 2 ^ 63 := by
  rw [← sizeValue_eq_iff]
  unfold Header.Reads
  simp only [decimal_ne_nil, if_false]
  exact ⟨fun h => congrArg Header.contentLength (h .none), fun h delivery =>
    congrArg (fun n => ({ headerInit delivery with contentLength := n } : Header).typed) h⟩

theorem reads_transport {header : Header} (h : header.transport.Proper) :
    header.Reads .transport header.transport.text ↔ header.transport.Plain := by
  have hne : header.transport.text ≠ [] := by
    simp [Transport.text, intercalate_cons_eq, specText]
  rw [← h.readBack_eq_iff]
  unfold Header.Reads
  simp only [hne, if_false, headerFieldValueParse]
  constructor
  · intro hr
    have ht := congrArg Header.transport (hr .none)
    simpa only [typed, headerInit, transportParse_text h.toKnown, withMember] using ht
  · intro heq delivery
    have hp := transportParse_text h.toKnown delivery
    rw [heq] at hp
    have hi : (headerInit delivery).transport = transportInit delivery := rfl
    rw [hi, hp]
    rfl

theorem reads_contentType (former : Bytes) :
    header.Reads .contentType (header.contentType.text.getD former) ↔
      (header.contentType = .none → contentTypeFind former = .none) := by
  unfold Header.Reads
  cases ht : header.contentType.text with
  | some text =>
    obtain ⟨hne, hf⟩ := ContentType.text_find ht
    have hk : header.contentType ≠ .none := fun h => by simp [h, ContentType.text] at ht
    simp only [getD_some, hne, if_false, headerFieldValueParse, hf, hk, false_implies, iff_true]
    exact fun _ => rfl
  | none =>
    have hn : header.contentType = .none := by
      cases hc : header.contentType <;> simp_all [ContentType.text, stringTableStrGet, rtspContentTypeStringTable,
        rtspContentTypeCount]
    simp only [getD_none, hn, true_implies]
    constructor
    · intro h
      have hm := congrArg Header.contentType (h .none)
      split at hm
      · next hl =>
        rw [hl]
        decide
      · simpa only [headerFieldValueParse, typed, withMember, hn] using hm
    · intro h delivery
      split
      · simp only [withMember, hn]
        rfl
      · simp only [headerFieldValueParse, h, withMember, hn]

/-- **RTSP header fields on the wire.** A member survives if and only if it is plain. -/
theorem survives_iff (header : Header) (hsound : Sound header.headerSection) (id : HeaderFieldId)
    (hproper : header.Proper id) : header.Survives id ↔ header.Plain id := by
  rw [survives_iff_reads hsound]
  cases id with
  | cseq => exact reads_cseq header
  | contentLength => exact reads_contentLength header
  | contentType => exact reads_contentType header _
  | transport =>
    have hproper : header.transport.Proper := hproper
    have hgenerate := transportGenerate_eq hproper.protocol hproper.profile hproper.delivery hproper.fits
    simp only [headerFieldValueGenerate, hgenerate, getD_some]
    exact reads_transport hproper
  | sessionId =>
    refine ⟨fun _ => trivial, fun _ delivery => ?_⟩
    by_cases hnil : header.sessionId = []
    · simp only [headerFieldValueGenerate, hnil, if_true, Header.withMember]
      rfl
    · simp only [headerFieldValueGenerate, hnil, if_false, headerFieldValueParse, sessionIdParse_eq hproper,
        Header.withMember]
  | rtpInfo =>
    refine ⟨fun _ => trivial, fun _ delivery => ?_⟩
    by_cases hnil : header.rtpInfo = []
    · simp only [headerFieldValueGenerate, hnil, if_true, Header.withMember]
      rfl
    · simp only [headerFieldValueGenerate, hnil, if_false, headerFieldValueParse, Header.withMember]

def playHeader : Header :=
  { headerInit .none with
    transport := { transportInit .unicast with
      profile := .avp, lowerProtocol := .udp, clientPortRange := ⟨5000, 5001⟩, mode := ascii "PLAY" } }

theorem survives_play : playHeader.Survives .transport :=
  (survives_iff playHeader (sound_headerInit .none) .transport
    ⟨⟨by decide, by decide, .inl rfl, by decide⟩, .inr (by decide), .inl rfl, by decide +kernel⟩).2
    ⟨rfl, rfl, rfl, rfl, .inr (by decide), by decide⟩

def bothPortsHeader : Header :=
  { playHeader with transport := { playHeader.transport with serverPortRange := ⟨6000, 6001⟩ } }

/-- The server's ports are read as the client's ones. -/
theorem not_survives_bothPorts : Sound bothPortsHeader.headerSection ∧ bothPortsHeader.Proper .transport ∧
    ¬bothPortsHeader.Survives .transport := by
  have hsound : Sound bothPortsHeader.headerSection := sound_headerInit .none
  refine ⟨hsound,
    ⟨⟨by decide, by decide, .inl rfl, by decide⟩, .inr (by decide), .inr (by decide), by decide +kernel⟩, ?_⟩
  rw [survives_iff_reads hsound]
  intro h
  have htransport := congrArg Header.transport (h .none)
  revert htransport
  decide +kernel

end UniMrcp.UniRtsp
