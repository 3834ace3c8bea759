import UniMrcp.Apt.TextMessage
import UniMrcp.Mrcp.GenericHeader

/-!
# MRCP messages
-/

namespace UniMrcp.Mrcp

open Lib Apt

variable {D : Type}

/-- `mrcp_resource_t`, with resource header data of type `D`. -/
structure Resource (D : Type) where
  name : Bytes
  methodStrTable : Version → List StrTableItem
  methodCount : Nat
  eventStrTable : Version → List StrTableItem
  eventCount : Nat
  resourceHeaderVTable : Version → HeaderVTable D

/-- `mrcp_resource_factory_t`: the hash of resources by name. -/
structure ResourceFactory (D : Type) where
  resourceHash : Bytes → Option (Resource D)

def resourceFind (factory : ResourceFactory D) (name : Bytes) : Option (Resource D) :=
  if name = [] then none else factory.resourceHash name

/-- `mrcp_message_header_t`. An accessor has a vtable and data once they are allocated. -/
structure MessageHeader (D : Type) where
  headerSection : HeaderSection
  genericHeaderAccessor : Option (HeaderVTable GenericHeader × GenericHeader)
  resourceHeaderAccessor : Option (HeaderVTable D × D)

def messageHeaderInit : MessageHeader D := ⟨headerSectionInit, none, none⟩

def messageHeaderDataAlloc (header : MessageHeader D) (generic : HeaderVTable GenericHeader)
    (resource : HeaderVTable D) : MessageHeader D :=
  ⟨headerSectionArrayAlloc header.headerSection (generic.fieldCount + resource.fieldCount),
    some (generic, generic.allocate), some (resource, resource.allocate)⟩

/-- `mrcp_header_field_value_parse` through an accessor, which fails if the accessor has no vtable. -/
def accessorValueParse {E : Type} (accessor : Option (HeaderVTable E × E)) (field : HeaderField) :
    Option (HeaderVTable E × E) × HeaderField × Bool :=
  match accessor with
  | none => (none, field, false)
  | some (vtable, data) =>
    let r := headerFieldValueParse vtable data field
    (some (vtable, r.1), r.2.1, r.2.2)

/-- The header fields that `mrcp_header_fields_parse` has passed, and the header. -/
abbrev FieldsParsed (D : Type) := List HeaderField × MessageHeader D

/-- One header field of `mrcp_header_fields_parse`. The resource is asked first. -/
def headerFieldStep (h : FieldsParsed D) (field : HeaderField) : FieldsParsed D :=
  let r := accessorValueParse h.2.resourceHeaderAccessor field
  let header := { h.2 with resourceHeaderAccessor := r.1 }
  if r.2.2 then
    let field := { r.2.1 with id := r.2.1.id.map (· + genericHeaderCount) }
    (h.1 ++ [field], { header with headerSection := (headerSectionFieldSet header.headerSection field).1 })
  else
    let g := accessorValueParse header.genericHeaderAccessor r.2.1
    let header := { header with genericHeaderAccessor := g.1 }
    if g.2.2 then
      (h.1 ++ [g.2.1], { header with headerSection := (headerSectionFieldSet header.headerSection g.2.1).1 })
    else (h.1 ++ [g.2.1], header)

def headerFieldsParse (header : MessageHeader D) : MessageHeader D :=
  let r := header.headerSection.ring.foldl headerFieldStep ([], header)
  { r.2 with headerSection := { r.2.headerSection with ring := r.1 } }

structure ChannelId where
  sessionId : Bytes
  resourceName : Bytes
deriving DecidableEq

def mrcpChannelId : Bytes := ascii "Channel-Identifier"

/-- `apt_id_resource_parse`, of a value that ends with a NUL. -/
def idResourceParse (value : Bytes) (channelId : ChannelId) : ChannelId :=
  let text := value.takeWhile (· != 0)
  let id := text.takeWhile (· != 0x40)
  if id.length = text.length then channelId else ⟨id, value.drop (id.length + 1)⟩

/-- A header field that `mrcp_channel_id_parse` takes for the channel identifier: its name begins with it. -/
def isChannelIdField (field : HeaderField) : Bool :=
  field.value != [] && (field.name.take mrcpChannelId.length).map toLower == mrcpChannelId.map toLower

/-- `mrcp_channel_id_parse`, which removes the header field. -/
def channelIdParse (channelId : ChannelId) (header : MessageHeader D) :
    Option (ChannelId × MessageHeader D) :=
  let ring := header.headerSection.ring
  (ring.find? isChannelIdField).map fun field =>
    (idResourceParse field.value channelId,
      { header with headerSection := { header.headerSection with
          ring := ring.eraseP isChannelIdField
          arr := match field.id with
            | none => header.headerSection.arr
            | some id => header.headerSection.arr.set id none } })

structure Message (D : Type) where
  startLine : StartLine
  channelId : ChannelId
  header : MessageHeader D
  body : Body
  resource : Option (Resource D)

def messageCreate (D : Type) : Message D := ⟨startLineInit, ⟨[], []⟩, messageHeaderInit, {}, none⟩

/-- The identifier of a method or an event in a string table; it is not found at the size of the table. -/
def methodIdFind (startLine : StartLine) (table : List StrTableItem) (count : Nat) : StartLine × Bool :=
  let id := stringTableIdFind table count startLine.methodName
  ({ startLine with methodId := some id }, decide (id < count))

/-- The part of `mrcp_message_resource_set` that associates the method name with an identifier. -/
def methodIdSet (startLine : StartLine) (resource : Resource D) : StartLine × Bool :=
  match startLine.messageType with
  | .request => methodIdFind startLine (resource.methodStrTable startLine.version) resource.methodCount
  | .event => methodIdFind startLine (resource.eventStrTable startLine.version) resource.eventCount
  | _ => (startLine, true)

def messageResourceSet (message : Message D) (resource : Resource D) : Message D × Bool :=
  let header := messageHeaderDataAlloc message.header genericHeaderVTable
    (resource.resourceHeaderVTable message.startLine.version)
  let r := methodIdSet message.startLine resource
  ({ message with resource := some resource, header := header, startLine := r.1 }, r.2)

def genericHeaderPropertyCheck (message : Message D) (id : Nat) : Bool :=
  headerSectionFieldCheck message.header.headerSection id

def genericHeaderGet (message : Message D) : Option GenericHeader := message.header.genericHeaderAccessor.map Prod.snd

instance : TextMessage (Message D) where
  header m := m.header.headerSection
  setHeader m h := { m with header := { m.header with headerSection := h } }
  body m := m.body
  setBody m b := { m with body := b }
  header_setHeader _ _ := rfl
  setHeader_setHeader _ _ _ := rfl
  setHeader_header _ := rfl
  body_setBody _ _ := rfl
  setBody_setBody _ _ _ := rfl

end UniMrcp.Mrcp
