import UniMrcp.Apt.TextStream
import UniMrcp.Apt.TextMessage.BodyBuffer
import UniMrcp.Mrcp.Stream
import UniMrcp.Mrcp.Stream.Generator

/-!
# Content lengths

Of several Content-Length fields, the generic header has the number of the last one that has a value, and the array of the
section the first field.
-/

namespace UniMrcp.Mrcp

open Lib Apt List HeaderSection
open Option (bind_some some.inj map_eq_some_iff bind_eq_bind bind_eq_some_iff)

variable {D : Type}

def isContentLength (field : HeaderField) : Bool := stringCompare contentLengthName field.name

def contentLengthTexts (fields : List HeaderField) : List Bytes :=
  (fields.filter isContentLength).map HeaderField.value

/-- The number of the first Content-Length header field; 0 if there is none, or it has no number. -/
def firstContentLength (fields : List HeaderField) : Int := atol ((contentLengthTexts fields).headD [])

def lastContentLengthText (fields : List HeaderField) : Bytes :=
  ((contentLengthTexts fields).filter (· ≠ [])).getLastD []

def lastContentLength (fields : List HeaderField) : Int := atol (lastContentLengthText fields)

theorem isContentLength_lower {field : HeaderField} (h : isContentLength field) :
    field.name.map toLower = contentLengthName.map toLower :=
  ((stringCompare_iff (by decide)).1 h).2.symm

theorem isContentLength_iff (field : HeaderField) : isContentLength field ↔
    stringTableIdFind genericHeaderStringTable genericHeaderCount field.name = genericHeaderContentLength := by
  constructor
  · intro h
    rw [stringTableIdFind_congr _ _ (isContentLength_lower h)]
    decide
  · intro h
    unfold stringTableIdFind at h
    cases hf : (genericHeaderStringTable.take genericHeaderCount).findIdx? (·.hasValue field.name) with
    | none =>
      rw [hf] at h
      exact absurd h (by decide)
    | some id =>
      rw [hf] at h
      obtain rfl : id = 8 := h
      obtain ⟨hlt, hv, -⟩ := List.findIdx?_eq_some_iff_getElem.1 hf
      simp only [StrTableItem.hasValue, Bool.and_eq_true] at hv
      exact hv.2

/-! ## Header fields -/

/-- The header fields of a resource leave the Content-Length to the generic header. -/
def SparesContentLength (vtable : HeaderVTable D) : Prop :=
  vtable.fieldCount ≤ stringTableIdFind vtable.fieldTable vtable.fieldCount contentLengthName

instance (vtable : HeaderVTable D) : Decidable (SparesContentLength vtable) := inferInstanceAs (Decidable (_ ≤ _))

@[simp] theorem headerFieldValueParse_name {E : Type} (vtable : HeaderVTable E) (data : E) (field : HeaderField) :
    (headerFieldValueParse vtable data field).2.1.name = field.name := by
  unfold headerFieldValueParse
  dsimp only
  split_ifs <;> rfl

@[simp] theorem headerFieldValueParse_value {E : Type} (vtable : HeaderVTable E) (data : E) (field : HeaderField) :
    (headerFieldValueParse vtable data field).2.1.value = field.value := by
  unfold headerFieldValueParse
  dsimp only
  split_ifs <;> rfl

theorem genericHeaderParse_contentLength (header : GenericHeader) {id : Nat} (hid : id ≠ genericHeaderContentLength)
    (value : Bytes) : (genericHeaderParse header id value).1.contentLength = header.contentLength := by
  unfold genericHeaderParse
  split <;> first | rfl | exact absurd rfl hid

theorem headerSectionFieldSet_length (header : HeaderSection) (field : HeaderField) :
    (headerSectionFieldSet header field).1.arr.length = header.arr.length := by
  unfold headerSectionFieldSet
  split
  · unfold HeaderSection.setEntry
    split <;> simp
  · rfl

theorem headerSectionFieldSet_check (header : HeaderSection) (field : HeaderField) {id : Nat}
    (hid : id < header.arr.length) : headerSectionFieldCheck (headerSectionFieldSet header field).1 id =
      (headerSectionFieldCheck header id || decide (field.id = some id)) := by
  obtain ⟨name, value, fid⟩ := field
  unfold headerSectionFieldSet entry HeaderSection.setEntry headerSectionFieldCheck
  cases fid with
  | none => simp
  | some fid =>
    by_cases heq : fid = id
    · subst heq
      simp only [bind_some, getD_eq_getElem?_getD, List.getElem?_eq_getElem hid]
      cases ha : header.arr[fid] with
      | none => simp [hid]
      | some f => simp [hid, ha]
    · simp only [bind_some, getD_eq_getElem?_getD, Option.some.injEq, heq, decide_false, Bool.or_false]
      split
      · rw [List.getElem?_set_ne heq]
      · rfl

section Step

variable {ring : List HeaderField} {header : HeaderSection}
  {generic generic' : Option (HeaderVTable GenericHeader × GenericHeader)}
  {resource resource' : Option (HeaderVTable D × D)} {field field' field'' : HeaderField}

theorem headerFieldStep_resource (hr : accessorValueParse resource field = (resource', field', true)) :
    headerFieldStep (ring, ⟨header, generic, resource⟩) field =
      (ring ++ [{ field' with id := field'.id.map (· + genericHeaderCount) }],
        ⟨(headerSectionFieldSet header { field' with id := field'.id.map (· + genericHeaderCount) }).1, generic,
          resource'⟩) := by
  simp [headerFieldStep, hr]

theorem headerFieldStep_generic (hr : accessorValueParse resource field = (resource', field', false))
    (hg : accessorValueParse generic field' = (generic', field'', true)) :
    headerFieldStep (ring, ⟨header, generic, resource⟩) field =
      (ring ++ [field''], ⟨(headerSectionFieldSet header field'').1, generic', resource'⟩) := by
  simp [headerFieldStep, hr, hg]

theorem headerFieldStep_unknown (hr : accessorValueParse resource field = (resource', field', false))
    (hg : accessorValueParse generic field' = (generic', field'', false)) :
    headerFieldStep (ring, ⟨header, generic, resource⟩) field =
      (ring ++ [field''], ⟨header, generic', resource'⟩) := by
  simp [headerFieldStep, hr, hg]

end Step

theorem accessorValueParse_some {E : Type} (vtable : HeaderVTable E) (data : E) (field : HeaderField) :
    ∃ data' id ok, accessorValueParse (some (vtable, data)) field =
        (some (vtable, data'), { field with id := id }, ok) ∧
      headerFieldValueParse vtable data field = (data', { field with id := id }, ok) := by
  have hn := headerFieldValueParse_name vtable data field
  have hv := headerFieldValueParse_value vtable data field
  rcases hp : headerFieldValueParse vtable data field with ⟨data', ⟨name, value, id⟩, ok⟩
  rw [hp] at hn hv
  subst hn hv
  exact ⟨data', id, ok, by rw [accessorValueParse, hp], rfl⟩

/-- The fields that `mrcp_header_fields_parse` has passed, and what it has found of their lengths. -/
structure LengthParsed (seen : List HeaderField) (h : FieldsParsed D) : Prop where
  ring : h.1.map (fun field => (field.name, field.value)) = seen.map fun field => (field.name, field.value)
  generic : ∃ data, h.2.genericHeaderAccessor = some (genericHeaderVTable, data) ∧
    data.contentLength = sizeValueParse ⟨lastContentLengthText seen, []⟩
  resource : ∃ vtable data, h.2.resourceHeaderAccessor = some (vtable, data) ∧ SparesContentLength vtable
  arr : genericHeaderContentLength < h.2.headerSection.arr.length
  check : headerSectionFieldCheck h.2.headerSection genericHeaderContentLength = seen.any isContentLength

theorem lastContentLengthText_other (seen : List HeaderField) (field : HeaderField)
    (h : isContentLength field → field.value = []) :
    lastContentLengthText (seen ++ [field]) = lastContentLengthText seen := by
  cases hc : isContentLength field <;>
    simp_all [lastContentLengthText, contentLengthTexts, filter_append]

theorem lastContentLengthText_last (seen : List HeaderField) {field : HeaderField}
    (h : isContentLength field) (hv : field.value ≠ []) :
    lastContentLengthText (seen ++ [field]) = field.value := by
  simp [lastContentLengthText, contentLengthTexts, filter_append, h, hv]

theorem accessorValueParse_spared {vtable : HeaderVTable D} (hs : SparesContentLength vtable) (data : D)
    {field : HeaderField} (h : isContentLength field) :
    accessorValueParse (some (vtable, data)) field = (some (vtable, data), field, false) := by
  have hid : vtable.fieldCount ≤ stringTableIdFind vtable.fieldTable vtable.fieldCount field.name := by
    rw [stringTableIdFind_congr _ _ (isContentLength_lower h)]
    exact hs
  simp [accessorValueParse, headerFieldValueParse, hid]

variable (data : GenericHeader)

theorem headerFieldValueParse_contentLength {field : HeaderField} (h : isContentLength field) :
    headerFieldValueParse genericHeaderVTable data field =
      (if field.value = [] then data else { data with contentLength := sizeValueParse ⟨field.value, []⟩ },
        { field with id := some genericHeaderContentLength }, true) := by
  have hid : stringTableIdFind genericHeaderVTable.fieldTable genericHeaderVTable.fieldCount field.name = 8 :=
    (isContentLength_iff field).1 h
  have hlt : ¬genericHeaderVTable.fieldCount ≤ 8 := by decide
  unfold headerFieldValueParse
  simp only [hid, if_neg hlt]
  split_ifs <;> rfl

theorem accessorValueParse_contentLength {field : HeaderField} (h : isContentLength field) :
    accessorValueParse (some (genericHeaderVTable, data)) field =
      (some (genericHeaderVTable,
        if field.value = [] then data else { data with contentLength := sizeValueParse ⟨field.value, []⟩ }),
        { field with id := some genericHeaderContentLength }, true) := by
  rw [accessorValueParse, headerFieldValueParse_contentLength data h]

theorem headerFieldValueParse_other (field : HeaderField) (h : isContentLength field = false) :
    (headerFieldValueParse genericHeaderVTable data field).1.contentLength = data.contentLength ∧
      ((headerFieldValueParse genericHeaderVTable data field).2.2 →
        (headerFieldValueParse genericHeaderVTable data field).2.1.id ≠ some genericHeaderContentLength) := by
  have hid : stringTableIdFind genericHeaderVTable.fieldTable genericHeaderVTable.fieldCount field.name ≠
      genericHeaderContentLength := by
    intro heq
    rw [(isContentLength_iff field).2 heq] at h
    cases h
  unfold headerFieldValueParse
  dsimp only
  split_ifs with hc hv
  · exact ⟨rfl, nofun⟩
  · exact ⟨rfl, fun _ heq => hid (some.inj heq)⟩
  · exact ⟨genericHeaderParse_contentLength data hid _, fun _ heq => hid (some.inj heq)⟩

/-- **A header field** is parsed. -/
theorem headerFieldStep_parsed {seen : List HeaderField} {h : FieldsParsed D} (hp : LengthParsed seen h)
    (field : HeaderField) : LengthParsed (seen ++ [field]) (headerFieldStep h field) := by
  obtain ⟨ring, ⟨header, generic, resource⟩⟩ := h
  obtain ⟨hn, ⟨data, hgn, hl⟩, ⟨vtable, rdata, hrs, hs⟩, ha, hh⟩ := hp
  subst hgn hrs
  have ha' : ∀ field', genericHeaderContentLength < (headerSectionFieldSet header field').1.arr.length := by
    intro field'
    rw [headerSectionFieldSet_length]
    exact ha
  cases hc : isContentLength field with
  | true =>
    rw [headerFieldStep_generic (accessorValueParse_spared hs rdata hc)
      (accessorValueParse_contentLength data hc)]
    refine ⟨by simp [hn], ⟨_, rfl, ?_⟩, ⟨_, _, rfl, hs⟩, ha' _, ?_⟩
    · split_ifs with hv
      · rw [lastContentLengthText_other seen field fun _ => hv, hl]
      · rw [lastContentLengthText_last seen hc hv]
    · simp [headerSectionFieldSet_check _ _ ha, hc]
  | false =>
    have han : (seen ++ [field]).any isContentLength = seen.any isContentLength := by simp [hc]
    have ht := lastContentLengthText_other seen field (by simp [hc])
    obtain ⟨rdata', rid, rok, hr, -⟩ := accessorValueParse_some vtable rdata field
    cases rok with
    | true =>
      rw [headerFieldStep_resource hr]
      refine ⟨by simp [hn], ⟨_, rfl, by rw [ht, hl]⟩, ⟨_, _, rfl, hs⟩, ha' _, ?_⟩
      -- the identifiers of the resource follow those of the generic header
      have hne : rid.map (· + genericHeaderCount) ≠ some genericHeaderContentLength := by
        intro heq
        obtain ⟨id, -, hsu⟩ := map_eq_some_iff.1 heq
        simp only [genericHeaderCount, genericHeaderContentLength] at hsu
        omega
      simp [headerSectionFieldSet_check _ _ ha, han, hh, hne]
    | false =>
      obtain ⟨data', gid, gok, hg, hpr⟩ :=
        accessorValueParse_some genericHeaderVTable data { field with id := rid }
      obtain ⟨hm, hid⟩ := headerFieldValueParse_other data { field with id := rid } hc
      rw [hpr] at hm hid
      cases gok with
      | true =>
        rw [headerFieldStep_generic hr hg]
        refine ⟨by simp [hn], ⟨_, rfl, by rw [ht, hm, hl]⟩, ⟨_, _, rfl, hs⟩, ha' _, ?_⟩
        simp [headerSectionFieldSet_check _ _ ha, han, hh, hid rfl]
      | false =>
        rw [headerFieldStep_unknown hr hg]
        exact ⟨by simp [hn], ⟨_, rfl, by rw [ht, hm, hl]⟩, ⟨_, _, rfl, hs⟩, ha,
          by rw [han]; exact hh⟩

theorem foldl_headerFieldStep_parsed {seen : List HeaderField} {h : FieldsParsed D} (hp : LengthParsed seen h)
    (fields : List HeaderField) : LengthParsed (seen ++ fields) (fields.foldl headerFieldStep h) := by
  induction fields generalizing seen h with
  | nil => simpa using hp
  | cons field fields ih =>
    rw [foldl_cons, append_cons]
    exact ih (headerFieldStep_parsed hp field)

/-! ## The length of the body -/

structure MessageHeader.Fresh (header : MessageHeader D) : Prop where
  generic : header.genericHeaderAccessor = some (genericHeaderVTable, {})
  resource : ∃ vtable data, header.resourceHeaderAccessor = some (vtable, data) ∧ SparesContentLength vtable
  arr : genericHeaderContentLength < header.headerSection.arr.length
  check : headerSectionFieldCheck header.headerSection genericHeaderContentLength = false

theorem messageHeaderDataAlloc_fresh (header : MessageHeader D) {vtable : HeaderVTable D}
    (h : SparesContentLength vtable) : (messageHeaderDataAlloc header genericHeaderVTable vtable).Fresh := by
  have hg : genericHeaderVTable.fieldCount = 16 := rfl
  have hlt : 8 < genericHeaderVTable.fieldCount + vtable.fieldCount := by omega
  have ha : (messageHeaderDataAlloc header genericHeaderVTable vtable).headerSection.arr =
      List.replicate (genericHeaderVTable.fieldCount + vtable.fieldCount) none := by
    rw [messageHeaderDataAlloc, headerSectionArrayAlloc, if_neg (by omega)]
  refine ⟨rfl, ⟨vtable, _, rfl, h⟩, ?_, ?_⟩
  · rw [ha, length_replicate]
    exact hlt
  · simp [headerSectionFieldCheck, ha, genericHeaderContentLength, getD_eq_getElem?_getD, hlt]

theorem headerFieldsParse_parsed {header : MessageHeader D} (h : header.Fresh) :
    LengthParsed header.headerSection.ring
      ((headerFieldsParse header).headerSection.ring, headerFieldsParse header) := by
  have hs : LengthParsed [] (([], header) : FieldsParsed D) :=
    ⟨rfl, ⟨_, h.generic, by decide⟩, h.resource, h.arr, h.check⟩
  have ha := foldl_headerFieldStep_parsed hs header.headerSection.ring
  rw [nil_append] at ha
  exact ⟨ha.ring, ha.generic, ha.resource, ha.arr, ha.check⟩

theorem lastContentLengthText_of_none {fields : List HeaderField} (h : fields.any isContentLength = false) :
    lastContentLengthText fields = [] := by
  have hf : fields.filter isContentLength = [] := by
    rw [filter_eq_nil_iff]
    intro field hm hc
    rw [any_eq_false] at h
    exact h field hm hc
  simp [lastContentLengthText, contentLengthTexts, hf]

theorem contentLengthSet_length {message : Message D} (h : message.header.Fresh) (hb : message.body = {}) :
    (contentLengthSet { message with header := headerFieldsParse message.header }).body =
      ⟨none, sizeValueParse ⟨lastContentLengthText message.header.headerSection.ring, []⟩⟩ := by
  obtain ⟨-, ⟨data, hg, hl⟩, -, -, hc⟩ := headerFieldsParse_parsed h
  unfold contentLengthSet genericHeaderPropertyCheck genericHeaderGet
  rw [hc, hg, Option.map_some]
  split_ifs with ha
  · dsimp only
    split_ifs with hz
    · rw [← hl, hz]
      exact hb
    · rw [hb, ← hl]
  · rw [lastContentLengthText_of_none (by simpa using ha)]
    exact hb

theorem contentLengthSet_header (message : Message D) : (contentLengthSet message).header = message.header := by
  unfold contentLengthSet
  split_ifs
  · split
    · split_ifs <;> rfl
    · rfl
  · rfl

theorem contentLengthTexts_congr {fields fields' : List HeaderField}
    (h : fields.map (fun field => (field.name, field.value)) = fields'.map fun field => (field.name, field.value)) :
    contentLengthTexts fields = contentLengthTexts fields' := by
  have hp : ∀ l : List HeaderField, contentLengthTexts l =
      ((l.map fun field => (field.name, field.value)).filter
        fun pair => stringCompare contentLengthName pair.1).map Prod.snd := by
    intro l
    simp only [contentLengthTexts, filter_map, map_map, Function.comp_def]
    rfl
  rw [hp, hp, h]

theorem not_isContentLength_channel {field : HeaderField} (h : isChannelIdField field) :
    isContentLength field = false := by
  by_contra hc
  have hn := isContentLength_lower (Bool.not_eq_false _ ▸ hc)
  simp only [isChannelIdField, Bool.and_eq_true, beq_iff_eq, map_take, hn] at h
  exact absurd h.2 (by decide)

theorem contentLengthTexts_eraseP (fields : List HeaderField) :
    contentLengthTexts (fields.eraseP isChannelIdField) = contentLengthTexts fields := by
  induction fields with
  | nil => rfl
  | cons field fields ih =>
    unfold contentLengthTexts at ih ⊢
    cases hc : isChannelIdField field with
    | true => rw [eraseP_cons_of_pos hc, filter_cons_of_neg (by simp [not_isContentLength_channel hc])]
    | false =>
      rw [eraseP_cons_of_neg (by simp [hc])]
      cases hl : isContentLength field <;> simp [hl, ih]

/-! ## The parser -/

/-- The header fields of the resources of a parser leave the Content-Length to the generic header. -/
structure MrcpParser.SparesContentLength (parser : MrcpParser D) : Prop where
  resource : ∀ resource, parser.resource = some resource → ∀ version,
    Mrcp.SparesContentLength (resource.resourceHeaderVTable version)
  factory : ∀ name resource, parser.resourceFactory.resourceHash name = some resource → ∀ version,
    Mrcp.SparesContentLength (resource.resourceHeaderVTable version)

structure Message.Opened (m : Message D) : Prop where
  body : m.body = {}
  header : m.startLine.version ≠ .v2 → m.header.Fresh

/-- The last Content-Length with a value has the number of the first, not negative, and a buffer can be allocated for
it. -/
structure LengthSound (palloc : Nat → Bool) (m : Message D) : Prop where
  same : lastContentLength m.header.headerSection.ring = firstContentLength m.header.headerSection.ring
  nonneg : 0 ≤ firstContentLength m.header.headerSection.ring
  allocated : firstContentLength m.header.headerSection.ring ≠ 0 →
    palloc ((firstContentLength m.header.headerSection.ring).toNat + 1) = true

instance (palloc : Nat → Bool) (m : Message D) : Decidable (LengthSound palloc m) :=
  decidable_of_iff (lastContentLength m.header.headerSection.ring = firstContentLength m.header.headerSection.ring ∧
      0 ≤ firstContentLength m.header.headerSection.ring ∧
      (firstContentLength m.header.headerSection.ring ≠ 0 →
        palloc ((firstContentLength m.header.headerSection.ring).toNat + 1) = true))
    ⟨fun h => ⟨h.1, h.2.1, h.2.2⟩, fun h => ⟨h.same, h.nonneg, h.allocated⟩⟩

def LengthAgrees (m : Message D) (length : Nat) : Prop :=
  (length : Int) = firstContentLength m.header.headerSection.ring

theorem responseLineParse_version {startLine startLine' : StartLine} {stream : TextStream}
    (h : responseLineParse startLine stream = some startLine') : startLine'.version = startLine.version := by
  simp only [responseLineParse, bind_eq_bind, bind_eq_some_iff, Option.some.injEq] at h
  obtain ⟨_, -, _, -, _, -, rfl⟩ := h
  rfl

theorem v2StartLineParse_version {startLine startLine' : StartLine} {stream : TextStream}
    (h : v2StartLineParse startLine stream = some startLine') : startLine'.version = startLine.version := by
  simp only [v2StartLineParse, bind_eq_bind, bind_eq_some_iff] at h
  obtain ⟨_, -, _, -, h⟩ := h
  split_ifs at h
  · simp only [v2RequestParse, bind_eq_bind, bind_eq_some_iff] at h
    obtain ⟨_, -, h⟩ := h
    split at h <;> (obtain rfl := some.inj h; rfl)
  · simp only [v2ResponseParse, bind_eq_bind, bind_eq_some_iff, Option.some.injEq] at h
    obtain ⟨_, -, _, -, rfl⟩ := h
    rfl

variable {startLine : StartLine}

theorem startLineParse_version {str : Str} (h : startLineParse str = some startLine) :
    startLine.version ≠ .unknown := by
  simp only [startLineParse, bind_eq_bind, bind_eq_some_iff] at h
  obtain ⟨field, -, h⟩ := h
  split_ifs at h
  · split at h
    · rename_i hv
      rw [responseLineParse_version h]
      rw [hv]
      simp
    · rename_i hv
      rw [v2StartLineParse_version h]
      rw [hv]
      simp
    · cases h
  · simp only [requestLineParse, bind_eq_bind, bind_eq_some_iff] at h
    obtain ⟨_, -, state, -, h⟩ := h
    split_ifs at h with _ hu
    · obtain rfl := some.inj h
      exact hu
    · obtain ⟨_, -, h⟩ := bind_eq_some_iff.1 h
      split_ifs at h with hu
      obtain rfl := some.inj h
      exact hu

theorem messageResourceSet_version (message : Message D) (resource : Resource D) :
    (messageResourceSet message resource).1.startLine.version = message.startLine.version := by
  unfold messageResourceSet methodIdSet methodIdFind
  split <;> rfl

variable {parser : MrcpParser D} {m : Message D}

theorem messageOfStartLine_opened (hp : parser.SparesContentLength) {line : Str}
    (h : messageOfStartLine parser line = some m) : m.Opened := by
  simp only [messageOfStartLine, bind_eq_bind, bind_eq_some_iff] at h
  obtain ⟨startLine, hl, h⟩ := h
  split_ifs at h with hv1
  · obtain ⟨resource, hr, h⟩ := bind_eq_some_iff.1 h
    split_ifs at h
    obtain rfl := some.inj h
    exact ⟨rfl, fun _ => messageHeaderDataAlloc_fresh _ (hp.resource resource hr _)⟩
  · obtain rfl := some.inj h
    refine ⟨rfl, fun hv2 => ?_⟩
    have hk := startLineParse_version hl
    cases hvr : startLine.version <;> simp_all

theorem channelResourceSet_opened (hp : parser.SparesContentLength) (m : Message D) :
    (channelResourceSet parser m).1.body = m.body ∧
      (channelResourceSet parser m).1.startLine.version = m.startLine.version ∧
      ((channelResourceSet parser m).2 → (channelResourceSet parser m).1.header.Fresh ∧
        contentLengthTexts (channelResourceSet parser m).1.header.headerSection.ring =
          contentLengthTexts m.header.headerSection.ring) := by
  unfold channelResourceSet
  cases hc : channelIdParse m.channelId m.header with
  | none => exact ⟨rfl, rfl, nofun⟩
  | some channel =>
    obtain ⟨channelId, header⟩ := channel
    dsimp only
    cases hf : resourceFind parser.resourceFactory channelId.resourceName with
    | none => exact ⟨rfl, rfl, nofun⟩
    | some resource =>
      refine ⟨rfl, messageResourceSet_version _ _, fun _ => ⟨?_, ?_⟩⟩
      · unfold resourceFind at hf
        split_ifs at hf
        exact messageHeaderDataAlloc_fresh _ (hp.factory _ resource hf _)
      · obtain ⟨field, -, heq⟩ := map_eq_some_iff.1 hc
        obtain ⟨-, rfl⟩ := Prod.mk.inj heq
        simp only [messageResourceSet, messageHeaderDataAlloc, headerSectionArrayAlloc]
        split_ifs <;> exact contentLengthTexts_eraseP _

theorem parserOnHeaderComplete_length (h : parser.SparesContentLength) (hm : m.Opened)
    (ho : (parserOnHeaderComplete parser m).2) :
    (parserOnHeaderComplete parser m).1.body =
        ⟨none, sizeValueParse ⟨lastContentLengthText m.header.headerSection.ring, []⟩⟩ ∧
      contentLengthTexts (parserOnHeaderComplete parser m).1.header.headerSection.ring =
        contentLengthTexts m.header.headerSection.ring := by
  obtain ⟨hb, -, hs⟩ := channelResourceSet_opened h m
  have hp : ∀ m' : Message D, m'.header.Fresh → m'.body = {} →
      contentLengthTexts m'.header.headerSection.ring = contentLengthTexts m.header.headerSection.ring →
      (contentLengthSet { m' with header := headerFieldsParse m'.header }).body =
          ⟨none, sizeValueParse ⟨lastContentLengthText m.header.headerSection.ring, []⟩⟩ ∧
        contentLengthTexts (contentLengthSet { m' with
            header := headerFieldsParse m'.header }).header.headerSection.ring =
          contentLengthTexts m.header.headerSection.ring := by
    intro m' hf hb' ht
    refine ⟨?_, ?_⟩
    · rw [contentLengthSet_length hf hb', lastContentLengthText, ht, lastContentLengthText]
    · rw [contentLengthSet_header, ← ht]
      exact contentLengthTexts_congr (headerFieldsParse_parsed hf).ring
  unfold parserOnHeaderComplete at ho ⊢
  dsimp only at ho ⊢
  by_cases hv : m.startLine.version = .v2
  · rw [if_pos hv] at ho ⊢
    cases hr : (channelResourceSet parser m).2 with
    | false => simp [hr] at ho
    | true =>
      obtain ⟨hf, ht⟩ := hs hr
      exact hp _ hf (hb.trans hm.body) ht
  · rw [if_neg hv] at ho ⊢
    exact hp m (hm.header hv) hm.body rfl

theorem parserOnHeaderComplete_refused (hp : parser.SparesContentLength) (hm : m.Opened)
    (ho : (parserOnHeaderComplete parser m).2 = false) : (parserOnHeaderComplete parser m).1.Opened := by
  obtain ⟨hb, hv', -⟩ := channelResourceSet_opened hp m
  unfold parserOnHeaderComplete at ho ⊢
  dsimp only at ho ⊢
  split_ifs at ho ⊢ with hv _ hr
  · exact ⟨hb.trans hm.body, fun hne => absurd (hv'.trans hv) hne⟩

theorem atol_le (text : Bytes) : atol text ≤ 2 ^ 63 - 1 := by
  unfold atol
  split <;> omega

theorem sizeValueParse_of_nonneg {text : Bytes} (h : 0 ≤ atol text) :
    sizeValueParse ⟨text, []⟩ = (atol text).toNat ∧ (atol text).toNat < 2 ^ 63 := by
  have hle := atol_le text
  have hm : atol text % 2 ^ 64 = atol text := Int.emod_eq_of_lt h (by omega)
  refine ⟨?_, by omega⟩
  simp only [sizeValueParse, append_nil, hm]

theorem headerSectionParse_arr (header : HeaderSection) (s : TextStream) :
    (headerSectionParse header s).1.arr = header.arr := by
  have hid : ∀ s field, (headerFieldParse s).2 = some field → field.id = none := by
    intro s field h
    unfold headerFieldParse at h
    dsimp only at h
    split at h
    · cases h
    · split_ifs at h <;> (obtain rfl := some.inj h; rfl)
  have ha : ∀ header s field, (headerFieldParse s).2 = some field →
      (headerSectionFieldAdd header field).1.arr = header.arr := by
    intro header s field h
    simp [headerSectionFieldAdd, entry, HeaderSection.setEntry, hid s field h]
  have hn : ∀ header s r, sectionNext header s = .inl r → r.1.arr = header.arr := by
    intro header s r h
    unfold sectionNext at h
    split_ifs at h
    obtain rfl := Sum.inl.inj h
    rfl
  apply whileLoop_rec sectionStep_lowers (fun h (r : HeaderSectionResult) => r.1.arr = h.1.arr)
  · intro h r hs
    unfold sectionStep at hs
    dsimp only at hs
    split at hs
    · exact hn _ _ _ hs
    · rename_i field hf
      split_ifs at hs
      · obtain rfl := Sum.inl.inj hs
        rfl
      · rw [hn _ _ _ hs, ha _ _ _ hf]
  · intro h h' r hs hr
    rw [hr]
    have ht := hs
    unfold sectionStep at hs
    dsimp only at hs
    unfold sectionNext at hs
    split at hs
    · split_ifs at hs
      obtain rfl := Sum.inr.inj hs
      rfl
    · rename_i field hf
      split_ifs at hs
      obtain rfl := Sum.inr.inj hs
      exact ha _ _ _ hf

theorem parserVTable_laws (hp : parser.SparesContentLength) :
    LengthLaws (parserVTable parser) Message.Opened LengthSound LengthAgrees where
  start s m h := by
    obtain ⟨line, -, hm⟩ := bind_eq_some_iff.1 h
    exact messageOfStartLine_opened hp hm
  read m s hm := by
    refine ⟨hm.body, fun hv => ?_⟩
    obtain ⟨hg, hrs, ha, hc⟩ := hm.header hv
    have hsm := headerSectionParse_arr (TextMessage.header m) s
    refine ⟨hg, hrs, ?_, ?_⟩
    · exact hsm ▸ ha
    · unfold headerSectionFieldCheck at hc ⊢
      exact hsm ▸ hc
  empty _ hm := hm.body
  refused m hm ho := parserOnHeaderComplete_refused hp hm ho
  accepted m hm ho := congrArg Body.buf (parserOnHeaderComplete_length hp hm ho).1
  fits palloc m hm hs ho hne := by
    have hl := congrArg Body.length (parserOnHeaderComplete_length hp hm ho).1
    have hn : 0 ≤ lastContentLength m.header.headerSection.ring := hs.same ▸ hs.nonneg
    obtain ⟨hz, hlt⟩ := sizeValueParse_of_nonneg hn
    have hb : (TextMessage.body (headerComplete (parserVTable parser) m).1).length =
        (firstContentLength m.header.headerSection.ring).toNat := by
      rw [← hs.same, lastContentLength, ← hz]
      exact hl
    rw [hb] at hne ⊢
    rw [← hs.same] at hne ⊢
    have hr := hs.allocated
    rw [← hs.same] at hr
    rw [bodyBufferRoom_of_fits (by unfold lastContentLength; omega) (hr (by omega))]
    exact Nat.lt_succ_self _
  agrees palloc m hm hs ho := by
    obtain ⟨hb, ht⟩ := parserOnHeaderComplete_length hp hm ho
    have hn : 0 ≤ lastContentLength m.header.headerSection.ring := hs.same ▸ hs.nonneg
    obtain ⟨hz, -⟩ := sizeValueParse_of_nonneg hn
    have hl := congrArg Body.length hb
    unfold LengthAgrees firstContentLength
    rw [show (headerComplete (parserVTable parser) m).1 = (parserOnHeaderComplete parser m).1 from rfl, ht]
    show ((parserOnHeaderComplete parser m).1.body.length : Int) = firstContentLength m.header.headerSection.ring
    rw [hl, ← hs.same, hz]
    exact Int.toNat_of_nonneg hn
  setBody _ _ _ h := h
  noBodyComplete := rfl

/-- **Runs of the MRCP parser**, over any streams, in which the Content-Length fields of each complete header section
are sound: every write lies inside the buffer of the body, no body is longer than its content length, and that of a
complete message has the length of its first Content-Length field. -/
theorem bodySafe_mrcp (parser : MrcpParser D) (hparser : parser.SparesContentLength) (is : List BufferedInput)
    (h : EachStep (bufferedRun (parserVTable parser)) (SoundRun (parserVTable parser) LengthSound)
      (bufferedParserCreate (Message D)) is) :
    EachStep (bufferedRun (parserVTable parser)) (fun b i =>
        BodySafe LengthAgrees (bufferedRun (parserVTable parser) b i).2 ∧
          ∀ m, (bufferedRun (parserVTable parser) b i).1.parser.context = some m →
            m.body.length ≤ (bufferedRun (parserVTable parser) b i).1.parser.contentLength)
      (bufferedParserCreate (Message D)) is :=
  bodySafe_run (parserVTable_laws hparser) is h

def speakWithLengths (fields body : String) : BufferedInput where
  stream := textStreamInit ⟨ascii "MRCP/2.0 99 SPEAK 1\r\nChannel-Identifier: a@speechsynth\r\n" ++
    ascii fields ++ ascii "\r\n" ++ ascii body, []⟩
  palloc _ := true

def restOfBody (text : String) : BufferedInput := ⟨textStreamInit ⟨ascii text, []⟩, fun _ => true⟩

theorem synthParser_spares : synthParser.SparesContentLength := by
  refine ⟨nofun, ?_⟩
  intro name resource hf version
  simp only [synthParser] at hf
  split_ifs at hf
  obtain rfl := some.inj hf
  cases version <;> decide

/-- A message whose body comes in two pieces. -/
theorem bodySafe_mrcp_pieces :
    EachStep (bufferedRun (parserVTable synthParser)) (fun b i =>
        BodySafe LengthAgrees (bufferedRun (parserVTable synthParser) b i).2 ∧
          ∀ m, (bufferedRun (parserVTable synthParser) b i).1.parser.context = some m →
            m.body.length ≤ (bufferedRun (parserVTable synthParser) b i).1.parser.contentLength)
      (bufferedParserCreate (Message Unit))
      [speakWithLengths "Content-Length: 5\r\n" "he", restOfBody "llo"] :=
  bodySafe_mrcp synthParser synthParser_spares _ (by decide +kernel)

/-- With a negative content length no byte is allocated, and the NUL is written far behind the buffer. With two
Content-Length fields that differ, the body has the length of the second. -/
theorem not_bodySafe_mrcp :
    ¬BodySafe LengthAgrees (bufferedRun (parserVTable synthParser) (bufferedParserCreate (Message Unit))
        (speakWithLengths "Content-Length: -1\r\n" "")).2 ∧
      ¬BodySafe LengthAgrees (bufferedRun (parserVTable synthParser) (bufferedParserCreate (Message Unit))
        (speakWithLengths "Content-Length: 3\r\nContent-Length: 5\r\n" "hello")).2 := by
  constructor
  · intro h
    have hwrite : (⟨2 ^ 64 - 1, 1, 0⟩ : BodyWrite) ∈ (bufferedRun (parserVTable synthParser)
        (bufferedParserCreate (Message Unit)) (speakWithLengths "Content-Length: -1\r\n" "")).2.writes := by
      decide +kernel
    exact absurd (h.inside _ hwrite) (by decide)
  · intro h
    have hrun : (bufferedRun (parserVTable synthParser) (bufferedParserCreate (Message Unit))
          (speakWithLengths "Content-Length: 3\r\nContent-Length: 5\r\n" "hello")).2.run.status = .complete ∧
        ((bufferedRun (parserVTable synthParser) (bufferedParserCreate (Message Unit))
          (speakWithLengths "Content-Length: 3\r\nContent-Length: 5\r\n" "hello")).2.run.message.map fun m =>
            (m.body.length, firstContentLength m.header.headerSection.ring)) = some (5, 3) := by
      decide +kernel
    obtain ⟨hstat, hmsg⟩ := hrun
    obtain ⟨m, hm, hlengths⟩ := Option.map_eq_some_iff.1 hmsg
    obtain ⟨hlength, hfirst⟩ := Prod.mk.inj hlengths
    have hagrees := (h.complete m hstat hm).1
    unfold LengthAgrees at hagrees
    rw [hfirst, show (TextMessage.body m).length = 5 from hlength] at hagrees
    exact absurd hagrees (by decide)

end UniMrcp.Mrcp
