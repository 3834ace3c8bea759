import UniMrcp.Mrcp.ActiveRequestIds.Text

/-!
# Text that is generated into a buffer

The other direction of an `apt_text_stream_t`: text is inserted at the position, if there is room for it.
-/

namespace UniMrcp.Apt

open List

open Mrcp (decimal snprintf length_decimal_pos)

/-- `apt_text_stream_t`, for the generator. -/
structure TextBuffer where
  /-- The text from the beginning of the buffer to `pos`. What was written past the end is part of it. -/
  text : Bytes
  /-- The bytes from `pos` to `end`, negative once `pos` is past the end. -/
  room : Int
deriving DecidableEq

/-- `apt_text_stream_init` -/
def textBufferInit (size : Nat) : TextBuffer := ⟨[], size⟩

/-- The bytes are copied to the position, which moves behind them. Nothing checks that there is room. -/
def TextBuffer.put (b : TextBuffer) (bytes : Bytes) : TextBuffer := ⟨b.text ++ bytes, b.room - bytes.length⟩

@[simp] theorem put_text (b : TextBuffer) (bytes : Bytes) : (b.put bytes).text = b.text ++ bytes := rfl
@[simp] theorem put_room (b : TextBuffer) (bytes : Bytes) : (b.put bytes).room = b.room - bytes.length := rfl
@[simp] theorem textBufferInit_text (size : Nat) : (textBufferInit size).text = [] := rfl
@[simp] theorem textBufferInit_room (size : Nat) : (textBufferInit size).room = size := rfl

@[simp] theorem put_nil (b : TextBuffer) : b.put [] = b := by simp [TextBuffer.put]

theorem put_put (b : TextBuffer) (bytes bytes' : Bytes) : (b.put bytes).put bytes' = b.put (bytes ++ bytes') := by
  simp only [TextBuffer.put, append_assoc, length_append, TextBuffer.mk.injEq, true_and]
  omega

abbrev TextWriter := TextBuffer → TextBuffer × Bool

def TextWriter.andThen (w w' : TextWriter) : TextWriter := fun b =>
  let r := w b
  if r.2 then w' r.1 else r

def crlf : Bytes := [tokenCr, tokenLf]

@[simp] theorem length_crlf : crlf.length = 2 := rfl

def textEolInsert : TextWriter := fun b => if 2 < b.room then (b.put crlf, true) else (b, false)

def textCharInsert (ch : UInt8) : TextWriter := fun b => if 1 < b.room then (b.put [ch], true) else (b, false)

def textSpaceInsert : TextWriter := textCharInsert tokenSp

def textStringInsert (str : Bytes) : TextWriter := fun b =>
  if b.room ≤ str.length then (b, false) else (b.put str, true)

def textNameValueInsert (name value : Bytes) : TextWriter := fun b =>
  if b.room ≤ name.length + value.length + 2 then (b, false)
  else textEolInsert (b.put (name ++ [0x3A, tokenSp] ++ value))

/-- `apr_snprintf` up to the end, the last byte of which is for the NUL. Past the end the function fails. Nothing
printed is a failure, too. -/
def textPrint (text : Bytes) : TextWriter := fun b =>
  if b.room < 0 then (b, false)
  else if b.room = 0 then (b.put text, text != [])
  else (b.put (snprintf b.room.toNat text), snprintf b.room.toNat text != [])

def textSizeValueInsert (value : Nat) : TextWriter := textPrint (decimal value)

/-- `mrcp_version_generate` and `rtsp_version_generate`: the name of a protocol and the number of a version. -/
def nameVersionGenerate (name : Bytes) (number : Nat) : TextWriter := fun b =>
  if b.room ≤ name.length + 1 then (b, false)
  else
    let r := textSizeValueInsert number (b.put (name ++ [0x2F]))
    if r.2 = false then r
    else if r.1.room ≤ 2 then (r.1, false)
    else (r.1.put [0x2E, 0x30], true)

def nameVersionText (name : Bytes) (number : Nat) : Bytes := name ++ [0x2F] ++ decimal number ++ [0x2E, 0x30]

/-- `apt_var_length_value_generate`: the value, which counts its own digits, unless they are too many. -/
def varLengthValueGenerate (value maxCount : Nat) : Option (Nat × Bytes) :=
  -- the loop counts the digits
  let count := (decimal value).length
  let count := if 10 ^ count - count ≤ value then count + 1 else count
  if maxCount < count then none else some (value + count, decimal (value + count))

def stringTableStrGet (table : List StrTableItem) (size id : Nat) : Option Bytes :=
  if id < size then table[id]?.map StrTableItem.value else none

/-! ## What is written when there is room -/

def Emits (w : TextWriter) (text : Bytes) : Prop := ∀ b : TextBuffer, text.length < b.room → w b = (b.put text, true)

theorem Emits.andThen {w w' : TextWriter} {text text' : Bytes} (h : Emits w text) (h' : Emits w' text') :
    Emits (w.andThen w') (text ++ text') := by
  intro b hb
  rw [length_append] at hb
  have hf : w b = (b.put text, true) := h b (by omega)
  have hn : w' (b.put text) = ((b.put text).put text', true) := h' _ (by rw [put_room]; omega)
  simp only [TextWriter.andThen, hf, if_true]
  rw [hn, put_put]

theorem emits_textEolInsert : Emits textEolInsert crlf := by
  intro b hb
  exact if_pos hb

theorem emits_textSpaceInsert : Emits textSpaceInsert [tokenSp] := by
  intro b hb
  exact if_pos hb

theorem emits_textStringInsert (str : Bytes) : Emits (textStringInsert str) str := by
  intro b hb
  exact if_neg (by omega)

theorem emits_textNameValueInsert (name value : Bytes) :
    Emits (textNameValueInsert name value) (name ++ [0x3A, tokenSp] ++ value ++ crlf) := by
  intro b hb
  have hl : (name ++ [0x3A, tokenSp] ++ value).length = name.length + value.length + 2 := by
    simp only [length_append, length_cons, length_nil]
    omega
  rw [length_append, hl, length_crlf] at hb
  have hn : textEolInsert (b.put (name ++ [0x3A, tokenSp] ++ value)) = _ :=
    emits_textEolInsert _ (by rw [put_room, hl, length_crlf]; omega)
  unfold textNameValueInsert
  rw [if_neg (by omega), hn, put_put]

theorem emits_textPrint {text : Bytes} (h : text ≠ []) : Emits (textPrint text) text := by
  intro b hb
  have ha : snprintf b.room.toNat text = text := take_of_length_le (by omega)
  unfold textPrint
  rw [if_neg (by omega), if_neg (by omega), ha]
  simp [h]

theorem decimal_ne_nil (n : Nat) : decimal n ≠ [] := ne_nil_of_length_pos (length_decimal_pos n)

theorem emits_textSizeValueInsert (value : Nat) : Emits (textSizeValueInsert value) (decimal value) :=
  emits_textPrint (decimal_ne_nil value)

theorem emits_nameVersionGenerate (name : Bytes) {number : Nat} (hn : (decimal number).length = 1) :
    Emits (nameVersionGenerate name number) (nameVersionText name number) := by
  intro b hb
  have hm : (name ++ [0x2F]).length = name.length + 1 := length_append
  have hl : (nameVersionText name number).length = name.length + 4 := by
    simp only [nameVersionText, length_append, hn, length_cons, length_nil]
  have hd : textSizeValueInsert number (b.put (name ++ [0x2F])) = _ :=
    emits_textSizeValueInsert number _ (by rw [put_room, hm, hn]; omega)
  unfold nameVersionGenerate
  rw [if_neg (by omega), hd]
  have hr : ¬((b.put (name ++ [0x2F])).put (decimal number)).room ≤ 2 := by
    rw [put_room, put_room, hm, hn]
    omega
  simp only [Bool.true_eq_false, if_false, hr]
  simp only [put_put, nameVersionText, append_assoc]

def Writes (f : TextBuffer → TextBuffer) (text : Bytes) : Prop :=
  ∀ b : TextBuffer, text.length < b.room → f b = b.put text

theorem Writes.comp {f g : TextBuffer → TextBuffer} {text text' : Bytes} (hf : Writes f text)
    (hg : Writes g text') : Writes (fun b => g (f b)) (text ++ text') := by
  intro b hb
  rw [length_append] at hb
  dsimp only
  rw [hf b (by omega), hg _ (by rw [put_room]; omega), put_put]

theorem writes_put (text : Bytes) : Writes (·.put text) text := fun _ _ => rfl

theorem writes_of_emits {w : TextWriter} {text : Bytes} (h : Emits w text) : Writes (fun b => (w b).1) text := by
  intro b hb
  dsimp only
  rw [h b hb]

theorem Writes.space {f : TextBuffer → TextBuffer} {text : Bytes} (h : Writes f text) :
    Writes (fun b => (f b).put [tokenSp]) (text ++ [tokenSp]) := h.comp (writes_put _)

end UniMrcp.Apt
