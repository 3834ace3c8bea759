import UniMrcp.Apr
import UniMrcp.Lib.Loop

/-!
# Text streams of the toolkit

An `apt_text_stream_t` is a buffer with a position. Lines end with CR, LF or CR LF.
-/

namespace UniMrcp.Apt

open Lib

def tokenSp : UInt8 := 0x20
def tokenHtab : UInt8 := 0x09
def tokenCr : UInt8 := 0x0D
def tokenLf : UInt8 := 0x0A

def textIsWsp (ch : UInt8) : Bool := ch == tokenSp || ch == tokenHtab

def ascii (s : String) : Bytes := s.toList.map fun c => UInt8.ofNat c.toNat

/-- A string that is not terminated by a NUL, and the memory behind it up to the next NUL, into which the C library may
read. -/
structure Str where
  bytes : Bytes
  beyond : Bytes := []
deriving DecidableEq

def toLower (ch : UInt8) : UInt8 := if 0x41 ≤ ch && ch ≤ 0x5A then ch + 0x20 else ch

/-- `strncasecmp` of strings that are equally long. It stops behind a NUL of both. -/
def strncasecmp : Bytes → Bytes → Bool
  | ch1 :: str1, ch2 :: str2 => toLower ch1 == toLower ch2 && (ch1 == 0 || strncasecmp str1 str2)
  | _, _ => true

def stringCompare (str1 str2 : Bytes) : Bool :=
  str1.length == str2.length && str1 != [] && strncasecmp str1 str2

structure StrTableItem where
  value : Bytes
  /-- The position of the character that tells the item from the others. -/
  key : Nat
deriving DecidableEq

/-- An item of a string table is compared by length, by key character, if there is one, and as a whole. -/
def StrTableItem.hasValue (item : StrTableItem) (value : Bytes) : Bool :=
  item.value.length == value.length &&
    (!decide (item.key < value.length) ||
      toLower (item.value.getD item.key 0) == toLower (value.getD item.key 0)) &&
    stringCompare item.value value

/-- `apt_string_table_id_find`, which answers `size` if there is no match. -/
def stringTableIdFind (table : List StrTableItem) (size : Nat) (value : Bytes) : Nat :=
  (table.take size).findIdx? (StrTableItem.hasValue · value) |>.getD size

def isSpace (ch : UInt8) : Bool := ch == tokenSp || (0x09 ≤ ch && ch ≤ 0x0D)

def isDigit (ch : UInt8) : Bool := 0x30 ≤ ch && ch ≤ 0x39

def digitsValue (acc : Nat) : Bytes → Nat
  | [] => acc
  | ch :: rest => if isDigit ch then digitsValue (acc * 10 + (ch - 0x30).toNat) rest else acc

/-- `atol`: white space, a sign and digits, within the bounds of a `long`. -/
def atol (text : Bytes) : Int :=
  match text.dropWhile isSpace with
  | 0x2D :: rest => -(min (digitsValue 0 rest) (2 ^ 63) : Nat)
  | 0x2B :: rest => (min (digitsValue 0 rest) (2 ^ 63 - 1) : Nat)
  | rest => (min (digitsValue 0 rest) (2 ^ 63 - 1) : Nat)

def sizeValueParse (str : Str) : Nat := (atol (str.bytes ++ str.beyond) % 2 ^ 64).toNat

/-- `apt_text_stream_t`: the text up to the position and from the position to the end. -/
structure TextStream where
  /-- The text before `pos`. -/
  done : Bytes
  /-- The text from `pos` to `end`. -/
  rest : Bytes
  /-- The memory behind the end, up to the next NUL. -/
  beyond : Bytes := []
  isEos : Bool
deriving DecidableEq

def textStreamInit (text : Str) : TextStream := ⟨[], text.bytes, text.beyond, false⟩

/-- The position goes on to where `rest` is left. -/
def TextStream.advanceTo (s : TextStream) (rest : Bytes) : TextStream :=
  { s with done := s.done ++ s.rest.take (s.rest.length - rest.length), rest := rest }

def TextStream.setEos (s : TextStream) : TextStream := { s with isEos := true }

def textIsEos (s : TextStream) : Bool := s.rest.isEmpty || s.isEos

/-- What is left to read, `s'`, is a rest of `s`: with less text, or at the end of the stream. -/
structure Reads (s s' : TextStream) : Prop where
  suffix : s'.rest <:+ s.rest
  progress : textIsEos s' ∨ s'.rest.length < s.rest.length

def TextStream.ahead (s : TextStream) : Bytes := s.rest ++ s.beyond

def skipLf : Bytes → Bytes
  | [] => []
  | ch :: rest => if ch = tokenLf then rest else ch :: rest

/-- `apt_text_char_skip` with LF. -/
def textLfSkip (s : TextStream) : TextStream := s.advanceTo (skipLf s.rest)

def textWhiteSpacesSkip (s : TextStream) : TextStream := s.advanceTo (s.rest.dropWhile textIsWsp)

/-- The loop of `apt_text_line_read`: the line, and the text after its end. -/
def lineScan : Bytes → Option (Bytes × Bytes)
  | [] => none
  | ch :: rest =>
    if ch = tokenCr then some ([], skipLf rest)
    else if ch = tokenLf then some ([], rest)
    else (lineScan rest).map fun r => (ch :: r.1, r.2)

def textLineRead (s : TextStream) : TextStream × Option Str :=
  match lineScan s.rest with
  | some (line, rest) => (s.advanceTo rest, some ⟨line, s.ahead.drop line.length⟩)
  | none => (s.setEos, none)

/-- The pair that `apt_text_header_read` builds. A name or a value is there once its buffer is set, up to the
current position. -/
structure PairScan where
  name : Option Bytes := none
  named : Bool := false
  value : Option Bytes := none
deriving DecidableEq

def PairScan.step (pair : PairScan) (ch : UInt8) : PairScan :=
  if pair.named = false then
    match pair.name with
    | none => if textIsWsp ch then pair else { pair with name := some [ch] }
    | some name => if ch = 0x3A then { pair with named := true } else { pair with name := some (name ++ [ch]) }
  else
    match pair.value with
    | none => if textIsWsp ch then pair else { pair with value := some [ch] }
    | some value => { pair with value := some (value ++ [ch]) }

/-- The loop of `apt_text_header_read`: the pair, and the text after the end of its line. -/
def headerScan (pair : PairScan) : Bytes → Option (PairScan × Bytes)
  | [] => none
  | ch :: rest =>
    if ch = tokenCr then some (pair, skipLf rest)
    else if ch = tokenLf then some (pair, rest)
    else headerScan (pair.step ch) rest

/-- The name and the value that were read: none if the line has a beginning but no name, and an empty name if it is
blank. -/
def PairScan.result (pair : PairScan) : Option (Bytes × Bytes) :=
  if pair.named then some (pair.name.getD [], pair.value.getD [])
  else if pair.name.isSome then none
  else some ([], [])

/-- `apt_text_header_read`, which advances past a malformed header field, too. -/
def textHeaderRead (s : TextStream) : TextStream × Option (Bytes × Bytes) :=
  match headerScan {} s.rest with
  | some (pair, rest) => (s.advanceTo rest, pair.result)
  | none => (s.setEos, none)

/-- `apt_text_field_read`, with `skip_spaces`. The field is not there if it is empty. -/
def textFieldRead (s : TextStream) (separator : UInt8) : TextStream × Option Str :=
  let text := s.rest.dropWhile (· == tokenSp)
  let field := text.takeWhile (· != separator)
  (s.advanceTo ((text.drop field.length).drop 1),
    if field = [] then none else some ⟨field, text.drop field.length ++ s.beyond⟩)

def textStreamScroll (s : TextStream) : TextStream × Bool :=
  if s.rest = [] then ({ s with done := [], rest := s.done }, true)
  else if s.done = [] then ({ s with done := s.rest, rest := [] }, false)
  else ({ s with done := s.rest, rest := [] }, true)

/-- The bytes of `apr_socket_recv` are stored from the position on, and the stream is reset. -/
def textStreamReceive (s : TextStream) (chunk : Bytes) : TextStream := textStreamInit ⟨s.done ++ chunk, []⟩

/-! ## Lookup in string tables -/

section Tables

open List

theorem strncasecmp_iff {str1 str2 : Bytes} (hn : 0 ∉ str1) (hl : str1.length = str2.length) :
    strncasecmp str1 str2 ↔ str1.map toLower = str2.map toLower := by
  induction str1 generalizing str2 with
  | nil => simp [eq_nil_of_length_eq_zero hl.symm, strncasecmp]
  | cons ch str1 ih =>
    cases str2 with
    | nil => cases hl
    | cons ch2 str2 =>
      have hh : (ch == 0) = false := beq_false_of_ne fun h => hn (h ▸ mem_cons_self)
      simp [strncasecmp, hh, ih (fun h => hn (mem_cons_of_mem _ h)) (Nat.succ.inj hl)]

theorem stringCompare_iff {str1 str2 : Bytes} (hn : 0 ∉ str1) :
    stringCompare str1 str2 ↔ str1 ≠ [] ∧ str1.map toLower = str2.map toLower := by
  simp only [stringCompare, Bool.and_eq_true, beq_iff_eq, bne_iff_ne]
  constructor
  · rintro ⟨⟨hl, hne⟩, hc⟩
    exact ⟨hne, (strncasecmp_iff hn hl).1 hc⟩
  · rintro ⟨hne, hm⟩
    have hl : str1.length = str2.length := by simpa using congrArg length hm
    exact ⟨⟨hl, hne⟩, (strncasecmp_iff hn hl).2 hm⟩

theorem strncasecmp_congr (str : Bytes) {v w : Bytes} (h : v.map toLower = w.map toLower) :
    strncasecmp str v = strncasecmp str w := by
  induction str generalizing v w with
  | nil => rfl
  | cons ch str ih =>
    cases v with
    | nil => rw [map_eq_nil_iff.1 h.symm]
    | cons v1 v =>
      obtain ⟨w1, w, rfl, hw, hm⟩ := map_eq_cons_iff.1 h.symm
      rw [strncasecmp, strncasecmp, hw, ih hm.symm]

theorem getD_lower {v w : Bytes} (h : v.map toLower = w.map toLower) (i : Nat) :
    toLower (v.getD i 0) = toLower (w.getD i 0) := by
  have ha := congrArg (fun str : Bytes => str.getD i (toLower 0)) h
  simpa only [getD_eq_getElem?_getD, getElem?_map, Option.getD_map] using ha

theorem hasValue_congr (item : StrTableItem) {v w : Bytes} (h : v.map toLower = w.map toLower) :
    item.hasValue v = item.hasValue w := by
  have hl : v.length = w.length := by simpa using congrArg length h
  simp only [StrTableItem.hasValue, stringCompare, hl, getD_lower h, strncasecmp_congr _ h]

theorem stringTableIdFind_congr (table : List StrTableItem) (size : Nat) {v w : Bytes}
    (h : v.map toLower = w.map toLower) : stringTableIdFind table size v = stringTableIdFind table size w := by
  unfold stringTableIdFind
  simp only [hasValue_congr _ h]

theorem hasValue_iff {item : StrTableItem} (hk : item.key < item.value.length) (hn : 0 ∉ item.value)
    (value : Bytes) : item.hasValue value ↔ item.value.map toLower = value.map toLower := by
  simp only [StrTableItem.hasValue, Bool.and_eq_true, stringCompare_iff hn]
  constructor
  · exact fun h => h.2.2
  · intro h
    have hl : item.value.length = value.length := by simpa using congrArg length h
    have hne : item.value ≠ [] := fun hn => by rw [hn] at hk; cases hk
    rw [hl, getD_lower h]
    simp [hne, h]

/-- **A lookup finds the first entry that is equal to the value up to case**, or answers the size of the table. The
entries of string tables are literals without a NUL. -/
theorem stringTableIdFind_first (table : List StrTableItem) (size : Nat) (value : Bytes)
    (hks : ∀ item ∈ table.take size, item.key < item.value.length) (hns : ∀ item ∈ table.take size, 0 ∉ item.value) :
    stringTableIdFind table size value =
      ((table.take size).findIdx? fun item => item.value.map toLower == value.map toLower).getD size := by
  unfold stringTableIdFind
  congr 1
  generalize table.take size = items at hks hns ⊢
  induction items with
  | nil => rfl
  | cons item items ih =>
    have hitm : item.hasValue value = (item.value.map toLower == value.map toLower) := by
      rw [Bool.eq_iff_iff, hasValue_iff (hks item mem_cons_self) (hns item mem_cons_self), beq_iff_eq]
    rw [findIdx?_cons, findIdx?_cons, hitm, ih (fun item hmem => hks item (mem_cons_of_mem _ hmem))
      fun item hmem => hns item (mem_cons_of_mem _ hmem)]

theorem stringTableIdFind_first_close :
    stringTableIdFind [⟨ascii "keep-alive", 0⟩, ⟨ascii "close", 1⟩] 2 (ascii "CLOSE") =
      (([⟨ascii "keep-alive", 0⟩, ⟨ascii "close", 1⟩] : List StrTableItem).take 2 |>.findIdx? fun item =>
        item.value.map toLower == (ascii "CLOSE").map toLower).getD 2 :=
  stringTableIdFind_first [⟨ascii "keep-alive", 0⟩, ⟨ascii "close", 1⟩] 2 (ascii "CLOSE") (by decide) (by decide)

end Tables

end UniMrcp.Apt
