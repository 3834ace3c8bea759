import UniMrcp.Mrcp.Message

/-!
# Header accessors that generate and duplicate values
-/

namespace UniMrcp.Mrcp

open Lib Apt

variable {D : Type}

def decimal (n : Nat) : Bytes := (Nat.toDigits 10 n).map fun c => UInt8.ofNat c.toNat

/-- A request-id, of 32 bits, with the format of a signed number, `MRCP_REQUEST_ID_FMT`. -/
def requestIdText (id : Nat) : Bytes := if id < 2 ^ 31 then decimal id else 0x2D :: decimal (2 ^ 32 - id)

/-- `apr_snprintf` into a buffer of `size` bytes, the last of which is for the NUL. -/
def snprintf (size : Nat) (text : Bytes) : Bytes := text.take (size - 1)

/-- The loop of `mrcp_request_id_list_generate`: the text before the position, in a buffer of `size` bytes. -/
def requestIdsWrite (size : Nat) (text : Bytes) : List Nat → Bytes
  | [] => text
  | id :: ids =>
    let text := if text = [] then [] else text ++ [0x2C]
    requestIdsWrite size (text ++ snprintf (size - text.length) (requestIdText id)) ids

/-- `mrcp_request_id_list_generate`, which estimates ten digits for each request-id. -/
def requestIdListGenerate (ids : List Nat) : Bytes := requestIdsWrite (10 * ids.length + (ids.length - 1)) [] ids

/-- `mrcp_generic_header_prepare`: the data of the accessor, with a change. -/
def genericHeaderModify (header : MessageHeader D) (f : GenericHeader → GenericHeader) : MessageHeader D :=
  { header with genericHeaderAccessor := header.genericHeaderAccessor.map fun a => (a.1, f a.2) }

/-- The `active_request_id_list` of the generic header. -/
def activeRequestIdList (header : MessageHeader D) : List Nat :=
  (header.genericHeaderAccessor.map fun a => a.2.activeRequestIdList).getD []

def activeRequestIdListAppend (header : MessageHeader D) (requestId : Nat) : MessageHeader D :=
  genericHeaderModify header fun generic =>
    if maxActiveRequestIdCount ≤ generic.activeRequestIdList.length then generic
    else { generic with activeRequestIdList := generic.activeRequestIdList ++ [requestId] }

def activeRequestIdListFind (header : MessageHeader D) (requestId : Nat) : Bool :=
  (activeRequestIdList header).contains requestId

def genericHeaderActiveRequestIdList : Nat := 0

def activeRequestIdListName : Bytes := ascii "Active-Request-Id-List"

/-- `mrcp_generic_header_property_check` of the Active-Request-Id-List. -/
def activeRequestIdListCheck (header : MessageHeader D) : Bool :=
  headerSectionFieldCheck header.headerSection genericHeaderActiveRequestIdList

/-- `mrcp_generic_header_property_add` of the Active-Request-Id-List, which fails if the header field is there. -/
def activeRequestIdListAdd (header : MessageHeader D) : MessageHeader D :=
  match header.genericHeaderAccessor with
  | none => header
  | some (_, generic) =>
    { header with headerSection := (headerSectionFieldAdd header.headerSection
        ⟨activeRequestIdListName, requestIdListGenerate generic.activeRequestIdList,
          some genericHeaderActiveRequestIdList⟩).1 }

/-- The request-ids that a request selects: none if it has no Active-Request-Id-List, or an empty one. -/
def requestIdListSelect (header : MessageHeader D) : Option (List Nat) :=
  if activeRequestIdListCheck header = true ∧ activeRequestIdList header ≠ [] then some (activeRequestIdList header)
  else none

/-- `mrcp_header_vtable_t` -/
structure FullHeaderVTable (D : Type) extends HeaderVTable D where
  /-- The text of a value, which is empty if nothing is generated. -/
  generateField : D → Nat → Bytes × Bool
  /-- The data, with a value from the data of another header or from the text of the field. -/
  duplicateField : D → D → Nat → Bytes → D × Bool

def headerFieldValueDuplicate {D : Type} (vtable : FullHeaderVTable D) (data src : D) (id : Nat) (value : Bytes) :
    D × Bool :=
  if value = [] then (data, true) else vtable.duplicateField data src id value

/-- What `apt_pair_array_generate` copies of a pair: nothing if there is no name. -/
def pairText (pair : Bytes × Bytes) : Bytes :=
  if pair.1 = [] then [] else pair.1 ++ if pair.2 = [] then [] else 0x3D :: pair.2

/-- The length that `apt_pair_array_generate` computes for a pair. -/
def pairLength (pair : Bytes × Bytes) : Nat := pair.1.length + if pair.2 = [] then 0 else 1 + pair.2.length

/-- The length that `apt_pair_array_generate` declares: that of the pairs, and of the separators between them. -/
def pairArrayLength (arr : List (Bytes × Bytes)) : Nat := (arr.map pairLength).sum + (arr.length - 1)

/-- `apt_pair_array_generate`. Where the computed length is greater than what is copied the text goes on with bytes that
are not initialised, which are taken as NUL. -/
def pairArrayGenerate (arr : Option (List (Bytes × Bytes))) : Option Bytes :=
  arr.map fun arr =>
    let length := (arr.map pairLength).sum + (arr.length - 1)
    let text := [0x3B].intercalate (arr.map pairText)
    text ++ List.replicate (length - text.length) 0

def genericHeaderGenerate (header : GenericHeader) (id : Nat) : Bytes × Bool :=
  match id with
  | 0 => (requestIdListGenerate header.activeRequestIdList, true)
  | 1 => (header.proxySyncId, true)
  | 2 => (header.acceptCharset, true)
  | 3 => (header.contentType, true)
  | 4 => (header.contentId, true)
  | 5 => (header.contentBase, true)
  | 6 => (header.contentEncoding, true)
  | 7 => (header.contentLocation, true)
  | 8 => (decimal header.contentLength, true)
  | 9 => (header.cacheControl, true)
  | 10 => (header.loggingTag, true)
  | 11 => ((pairArrayGenerate header.vendorSpecificParams).getD [], true)
  | 12 => (header.accept, true)
  | 13 => (decimal header.fetchTimeout, true)
  | 14 => (header.setCookie, true)
  | 15 => (header.setCookie2, true)
  | _ => ([], true)

/-- `mrcp_generic_header_duplicate`. The request-ids are not duplicated. -/
def genericHeaderDuplicate (header src : GenericHeader) (id : Nat) (value : Bytes) : GenericHeader × Bool :=
  match id with
  | 0 => (header, true)
  | 1 => ({ header with proxySyncId := value }, true)
  | 2 => ({ header with acceptCharset := value }, true)
  | 3 => ({ header with contentType := value }, true)
  | 4 => ({ header with contentId := value }, true)
  | 5 => ({ header with contentBase := value }, true)
  | 6 => ({ header with contentEncoding := value }, true)
  | 7 => ({ header with contentLocation := value }, true)
  | 8 => ({ header with contentLength := src.contentLength }, true)
  | 9 => ({ header with cacheControl := value }, true)
  | 10 => ({ header with loggingTag := value }, true)
  | 11 => ({ header with vendorSpecificParams := src.vendorSpecificParams }, true)
  | 12 => ({ header with accept := value }, true)
  | 13 => ({ header with fetchTimeout := src.fetchTimeout }, true)
  | 14 => ({ header with setCookie := value }, true)
  | 15 => ({ header with setCookie2 := value }, true)
  | _ => (header, false)

def genericHeaderFullVTable : FullHeaderVTable GenericHeader :=
  ⟨genericHeaderVTable, genericHeaderGenerate, genericHeaderDuplicate⟩

end UniMrcp.Mrcp
