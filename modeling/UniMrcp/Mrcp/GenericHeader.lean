import UniMrcp.Apt.HeaderField
import UniMrcp.Mrcp.StartLine

/-!
# Header accessors and the generic header

A header accessor parses the values of the header fields that its string table names. The generic header is the
one all resources share.
-/

namespace UniMrcp.Mrcp

open Lib Apt

/-- `mrcp_header_vtable_t`, for the parser: header data of type `D`. -/
structure HeaderVTable (D : Type) where
  allocate : D
  parseField : D → Nat → Bytes → D × Bool
  fieldTable : List StrTableItem
  fieldCount : Nat

/-- `mrcp_header_field_value_parse`. The identifier of a field whose name is known is set, even if the value is
not parsed. -/
def headerFieldValueParse {D : Type} (vtable : HeaderVTable D) (data : D) (field : HeaderField) :
    D × HeaderField × Bool :=
  let id := stringTableIdFind vtable.fieldTable vtable.fieldCount field.name
  if vtable.fieldCount ≤ id then (data, field, false)
  else if field.value = [] then (data, { field with id := some id }, true)
  else
    let r := vtable.parseField data id field.value
    (r.1, { field with id := some id }, r.2)

/-- The loop of `mrcp_request_id_list_parse`, over at most `count` more request-ids. -/
def requestIdListRead : Nat → TextStream → List Nat
  | 0, _ => []
  | count + 1, s =>
    match textFieldRead s 0x2C with
    | (_, none) => []
    | (s', some field) => requestIdParse field :: requestIdListRead count s'

def maxActiveRequestIdCount : Nat := 5

def requestIdListParse (value : Bytes) : List Nat :=
  requestIdListRead maxActiveRequestIdCount (textStreamInit ⟨value, []⟩)

/-- `apt_pair_parse` pushes a pair, with an empty name if there is none. -/
def pairParse (field : Str) : Bytes × Bytes :=
  let stream := textStreamInit field
  match textFieldRead stream 0x3D with
  | (_, none) => ([], [])
  | (stream', some name) => (name.bytes, ((textFieldRead stream' 0x3B).2.map Str.bytes).getD [])

/-- A round of the loop of `apt_pair_array_parse`. -/
def pairArrayStep (a : List (Bytes × Bytes) × TextStream) :
    List (Bytes × Bytes) ⊕ (List (Bytes × Bytes) × TextStream) :=
  match textFieldRead a.2 0x3B with
  | (_, none) => .inl a.1
  | (stream, some field) => .inr (a.1 ++ [pairParse field], stream)

def pairArrayParse (arr : List (Bytes × Bytes)) (value : Bytes) : List (Bytes × Bytes) :=
  whileLoop pairArrayStep Prod.fst (fun a => a.2.rest.length) (arr, textStreamInit ⟨value, []⟩)

/-! ## The generic header -/

structure GenericHeader where
  activeRequestIdList : List Nat := []
  proxySyncId : Bytes := []
  acceptCharset : Bytes := []
  contentType : Bytes := []
  contentId : Bytes := []
  contentBase : Bytes := []
  contentEncoding : Bytes := []
  contentLocation : Bytes := []
  contentLength : Nat := 0
  cacheControl : Bytes := []
  loggingTag : Bytes := []
  vendorSpecificParams : Option (List (Bytes × Bytes)) := none
  accept : Bytes := []
  fetchTimeout : Nat := 0
  setCookie : Bytes := []
  setCookie2 : Bytes := []
deriving DecidableEq

def genericHeaderStringTable : List StrTableItem :=
  [⟨ascii "Active-Request-Id-List", 3⟩, ⟨ascii "Proxy-Sync-Id", 0⟩, ⟨ascii "Accept-Charset", 7⟩,
    ⟨ascii "Content-Type", 9⟩, ⟨ascii "Content-Id", 9⟩, ⟨ascii "Content-Base", 8⟩, ⟨ascii "Content-Encoding", 9⟩,
    ⟨ascii "Content-Location", 9⟩, ⟨ascii "Content-Length", 10⟩, ⟨ascii "Cache-Control", 1⟩,
    ⟨ascii "Logging-Tag", 0⟩, ⟨ascii "Vendor-Specific-Parameters", 0⟩, ⟨ascii "Accept", 6⟩,
    ⟨ascii "Fetch-Timeout", 0⟩, ⟨ascii "Set-Cookie", 10⟩, ⟨ascii "Set-Cookie2", 10⟩]

def genericHeaderCount : Nat := 16

def genericHeaderContentLength : Nat := 8

def genericHeaderParse (header : GenericHeader) (id : Nat) (value : Bytes) : GenericHeader × Bool :=
  match id with
  | 0 => ({ header with activeRequestIdList := requestIdListParse value }, true)
  | 1 => ({ header with proxySyncId := value }, true)
  | 2 => ({ header with acceptCharset := value }, true)
  | 3 => ({ header with contentType := value }, true)
  | 4 => ({ header with contentId := value }, true)
  | 5 => ({ header with contentBase := value }, true)
  | 6 => ({ header with contentEncoding := value }, true)
  | 7 => ({ header with contentLocation := value }, true)
  | 8 => ({ header with contentLength := sizeValueParse ⟨value, []⟩ }, true)
  | 9 => ({ header with cacheControl := value }, true)
  | 10 => ({ header with loggingTag := value }, true)
  | 11 =>
    ({ header with vendorSpecificParams := some (pairArrayParse (header.vendorSpecificParams.getD []) value) }, true)
  | 12 => ({ header with accept := value }, true)
  | 13 => ({ header with fetchTimeout := sizeValueParse ⟨value, []⟩ }, true)
  | 14 => ({ header with setCookie := value }, true)
  | 15 => ({ header with setCookie2 := value }, true)
  | _ => (header, false)

def genericHeaderVTable : HeaderVTable GenericHeader :=
  ⟨{}, genericHeaderParse, genericHeaderStringTable, genericHeaderCount⟩

end UniMrcp.Mrcp
