import UniMrcp.Apt.TextOutput

/-!
# The generation of MRCP start lines

A start line is generated with a blank message-length, which is filled in when the header is complete. The single parts
of the line are inserted without regard for their results.
-/

namespace UniMrcp.Mrcp

open Apt List

def Version.number : Version → Nat
  | .unknown => 0
  | .v1 => 1
  | .v2 => 2

def versionGenerate (version : Version) : TextWriter := nameVersionGenerate mrcpName version.number

def requestIdGenerate (requestId : Nat) : TextWriter := textPrint (requestIdText requestId)

def RequestState.number : RequestState → Nat
  | .complete => 0
  | .inProgress => 1
  | .pending => 2
  | .unknown => 3

def requestStateText (state : RequestState) : Bytes :=
  (stringTableStrGet requestStateStringTable 3 state.number).getD []

/-- `mrcp_request_state_generate`, which does not fail. -/
def requestStateGenerate (state : RequestState) (b : TextBuffer) : TextBuffer := b.put (requestStateText state)

def statusCodeGenerate (statusCode : Nat) : TextWriter := textSizeValueInsert statusCode

/-! ## Lines -/

def requestLineGenerate (startLine : StartLine) (b : TextBuffer) : TextBuffer :=
  let b := b.put (startLine.methodName ++ [tokenSp])
  let b := (requestIdGenerate startLine.requestId b).1.put [tokenSp]
  let b :=
    match startLine.messageType with
    | .request =>
      if startLine.statusCode = 0 then b else (statusCodeGenerate startLine.statusCode b).1.put [tokenSp]
    | .event => (requestStateGenerate startLine.requestState b).put [tokenSp]
    | _ => b
  (versionGenerate startLine.version b).1

def responseLineGenerate (startLine : StartLine) (b : TextBuffer) : TextBuffer :=
  let b := (versionGenerate startLine.version b).1.put [tokenSp]
  let b := (requestIdGenerate startLine.requestId b).1.put [tokenSp]
  let b := (statusCodeGenerate startLine.statusCode b).1.put [tokenSp]
  requestStateGenerate startLine.requestState b

def maxDigitCount : Nat := 6

/-- The part of `mrcp_v2_start_line_generate` behind the space that is reserved for the message-length. -/
def v2LineGenerate (startLine : StartLine) (b : TextBuffer) : TextBuffer :=
  if startLine.messageType = .response then
    let b := (requestIdGenerate startLine.requestId b).1.put [tokenSp]
    let b := (statusCodeGenerate startLine.statusCode b).1.put [tokenSp]
    requestStateGenerate startLine.requestState b
  else
    let b := b.put (startLine.methodName ++ [tokenSp])
    let b := (requestIdGenerate startLine.requestId b).1
    if startLine.messageType = .event then requestStateGenerate startLine.requestState (b.put [tokenSp]) else b

/-- `mrcp_v2_start_line_generate`. The length of the start line is the offset of the reserved space. -/
def v2StartLineGenerate (startLine : StartLine) (b : TextBuffer) : StartLine × TextBuffer :=
  let b' := (versionGenerate startLine.version b).1.put [tokenSp]
  ({ startLine with length := b'.text.length - b.text.length },
    v2LineGenerate startLine (b'.put (List.replicate (maxDigitCount + 1) tokenSp)))

def StartLine.generable (startLine : StartLine) : Bool :=
  match startLine.version, startLine.messageType with
  | .v1, .unknown => false
  | .v1, _ => true
  | .v2, _ => true
  | .unknown, _ => false

/-- The parts of `mrcp_start_line_generate`, up to the end of the line. -/
def startLineParts (startLine : StartLine) (b : TextBuffer) : StartLine × TextBuffer :=
  match startLine.version, startLine.messageType with
  | .v1, .request => (startLine, requestLineGenerate startLine b)
  | .v1, .response => (startLine, responseLineGenerate startLine b)
  | .v1, .event => (startLine, requestLineGenerate startLine b)
  | .v2, _ => v2StartLineGenerate startLine b
  | _, _ => (startLine, b)

def startLineGenerate (startLine : StartLine) (b : TextBuffer) : StartLine × TextBuffer × Bool :=
  if startLine.generable = false then (startLine, b, false)
  else
    let r := startLineParts startLine b
    (r.1, textEolInsert r.2)

def overwrite (text : Bytes) (offset : Nat) (bytes : Bytes) : Bytes :=
  text.take offset ++ bytes ++ text.drop (offset + bytes.length)

/-- `mrcp_start_line_finalize`. The text before the unused part of the reserved space is moved to the right, and the
buffer begins there. -/
def startLineFinalize (startLine : StartLine) (contentLength : Nat) (b : TextBuffer) :
    StartLine × TextBuffer × Bool :=
  let length := b.text.length + contentLength
  if startLine.version = .v2 then
    match varLengthValueGenerate (sizeSub length maxDigitCount) maxDigitCount with
    | none => (startLine, b, false)
    | some (length, field) =>
      let text := overwrite b.text startLine.length (field ++ [tokenSp])
      let offset := startLine.length + field.length
      ({ startLine with length := length },
        { b with text := text.take offset ++ text.drop (offset + (maxDigitCount - field.length)) }, true)
  else ({ startLine with length := length }, b, true)

def versionText (version : Version) : Bytes := nameVersionText mrcpName version.number

def requestMarkText (startLine : StartLine) : Bytes :=
  match startLine.messageType with
  | .request => if startLine.statusCode = 0 then [] else decimal startLine.statusCode ++ [tokenSp]
  | .event => requestStateText startLine.requestState ++ [tokenSp]
  | _ => []

def requestLineHead (startLine : StartLine) : Bytes :=
  startLine.methodName ++ [tokenSp] ++ (requestIdText startLine.requestId ++ [tokenSp]) ++ requestMarkText startLine

def responseText (startLine : StartLine) : Bytes :=
  requestIdText startLine.requestId ++ [tokenSp] ++ (decimal startLine.statusCode ++ [tokenSp]) ++
    requestStateText startLine.requestState

def v2LineText (startLine : StartLine) : Bytes :=
  match startLine.messageType with
  | .response => responseText startLine
  | .event =>
    startLine.methodName ++ [tokenSp] ++ requestIdText startLine.requestId ++ [tokenSp] ++
      requestStateText startLine.requestState
  | _ => startLine.methodName ++ [tokenSp] ++ requestIdText startLine.requestId

/-- The text of a start line with a message-length, which is not part of version 1. -/
def startLineText (startLine : StartLine) (length : Bytes) : Bytes :=
  match startLine.version, startLine.messageType with
  | .v1, .request => requestLineHead startLine ++ versionText .v1
  | .v1, .response => versionText .v1 ++ [tokenSp] ++ responseText startLine
  | .v1, .event => requestLineHead startLine ++ versionText .v1
  | .v2, _ => versionText .v2 ++ [tokenSp] ++ length ++ [tokenSp] ++ v2LineText startLine
  | _, _ => []

def lengthBlanks : Bytes := List.replicate maxDigitCount tokenSp

/-- The start line as `mrcp_start_line_generate` leaves it: the length is the offset of the reserved space. -/
def StartLine.laidOut (startLine : StartLine) : StartLine :=
  if startLine.version = .v2 then { startLine with length := 9 } else startLine

/-! ## What is generated when there is room -/

variable (version : Version)

theorem emits_versionGenerate : Emits (versionGenerate version) (versionText version) :=
  emits_nameVersionGenerate mrcpName (by cases version <;> rfl)

theorem writes_requestId (id : Nat) : Writes (fun b => (requestIdGenerate id b).1) (requestIdText id) :=
  writes_of_emits (emits_textPrint (requestIdText_ne_nil id))

theorem writes_statusCode (code : Nat) : Writes (fun b => (statusCodeGenerate code b).1) (decimal code) :=
  writes_of_emits (emits_textPrint (decimal_ne_nil code))

theorem writes_version : Writes (fun b => (versionGenerate version b).1) (versionText version) :=
  writes_of_emits (emits_versionGenerate version)

theorem writes_response (startLine : StartLine) :
    Writes (fun b => requestStateGenerate startLine.requestState
      ((statusCodeGenerate startLine.statusCode ((requestIdGenerate startLine.requestId b).1.put [tokenSp])).1.put
        [tokenSp])) (responseText startLine) :=
  ((writes_requestId startLine.requestId).space.comp (writes_statusCode startLine.statusCode).space).comp
    (writes_put (requestStateText startLine.requestState))

theorem writes_requestLine (startLine : StartLine) :
    Writes (requestLineGenerate startLine) (requestLineHead startLine ++ versionText startLine.version) := by
  have hs := (writes_put (startLine.methodName ++ [tokenSp])).comp (writes_requestId startLine.requestId).space
  have he := writes_version startLine.version
  unfold requestLineGenerate requestLineHead requestMarkText
  cases startLine.messageType with
  | request =>
    by_cases hc : startLine.statusCode = 0
    · simpa only [hc, if_true, append_nil] using hs.comp he
    · simpa only [hc, if_false] using (hs.comp (writes_statusCode startLine.statusCode).space).comp he
  | event =>
    exact (hs.comp (writes_put (requestStateText startLine.requestState)).space).comp he
  | unknown => simpa only [append_nil] using hs.comp he
  | response => simpa only [append_nil] using hs.comp he

theorem writes_responseLine (startLine : StartLine) :
    Writes (responseLineGenerate startLine) (versionText startLine.version ++ [tokenSp] ++ responseText startLine) :=
  (writes_version startLine.version).space.comp (writes_response startLine)

theorem writes_v2Line (startLine : StartLine) : Writes (v2LineGenerate startLine) (v2LineText startLine) := by
  have hm := (writes_put (startLine.methodName ++ [tokenSp])).comp (writes_requestId startLine.requestId)
  unfold v2LineGenerate v2LineText
  cases startLine.messageType with
  | response => exact writes_response startLine
  | event => exact hm.space.comp (writes_put (requestStateText startLine.requestState))
  | request => exact hm
  | unknown => exact hm

theorem length_versionText : (versionText version).length = 8 := by cases version <;> rfl

def v2LaidOut (startLine : StartLine) : Bytes :=
  versionText startLine.version ++ [tokenSp] ++ List.replicate (maxDigitCount + 1) tokenSp ++ v2LineText startLine

variable {startLine : StartLine} {b : TextBuffer}

theorem v2StartLineGenerate_of_room (h : (v2LaidOut startLine).length < b.room) :
    v2StartLineGenerate startLine b = ({ startLine with length := 9 }, b.put (v2LaidOut startLine)) := by
  have ha := (((writes_version startLine.version).space.comp (writes_put (List.replicate (maxDigitCount + 1)
    tokenSp))).comp (writes_v2Line startLine)) b h
  have hv : (versionGenerate startLine.version b).1 = b.put (versionText startLine.version) :=
    writes_version startLine.version b (by
      simp only [v2LaidOut, length_append] at h
      omega)
  have ho : ((b.put (versionText startLine.version)).put [tokenSp]).text.length - b.text.length = 9 := by
    simp [length_versionText]
  unfold v2StartLineGenerate
  dsimp only at ha ⊢
  rw [ha, hv, ho]
  rfl

theorem startLineText_v2 (h : startLine.version = .v2) (length : Bytes) :
    startLineText startLine length = versionText .v2 ++ [tokenSp] ++ length ++ [tokenSp] ++ v2LineText startLine := by
  simp [startLineText, h]

theorem v2LaidOut_eq (h : startLine.version = .v2) : v2LaidOut startLine = startLineText startLine lengthBlanks := by
  rw [v2LaidOut, startLineText_v2 h, h, lengthBlanks, replicate_succ']
  simp only [append_assoc]

theorem startLineParts_of_room (hg : startLine.generable)
    (h : (startLineText startLine lengthBlanks).length < b.room) :
    startLineParts startLine b = (startLine.laidOut, b.put (startLineText startLine lengthBlanks)) := by
  cases hv : startLine.version with
  | unknown => simp [StartLine.generable, hv] at hg
  | v1 =>
    have hl : startLine.laidOut = startLine := by simp [StartLine.laidOut, hv]
    cases ht : startLine.messageType with
    | unknown => simp [StartLine.generable, hv, ht] at hg
    | request =>
      simp only [startLineText, hv, ht] at h
      simp only [startLineParts, startLineText, hv, ht, hl]
      rw [writes_requestLine startLine b (hv ▸ h), hv]
    | response =>
      simp only [startLineText, hv, ht] at h
      simp only [startLineParts, startLineText, hv, ht, hl]
      rw [writes_responseLine startLine b (hv ▸ h), hv]
    | event =>
      simp only [startLineText, hv, ht] at h
      simp only [startLineParts, startLineText, hv, ht, hl]
      rw [writes_requestLine startLine b (hv ▸ h), hv]
  | v2 =>
    rw [← v2LaidOut_eq hv] at h ⊢
    simp only [startLineParts, hv, v2StartLineGenerate_of_room h, StartLine.laidOut, if_true]

theorem startLineGenerate_of_room (hg : startLine.generable)
    (h : (startLineText startLine lengthBlanks ++ crlf).length < b.room) :
    startLineGenerate startLine b =
      (startLine.laidOut, b.put (startLineText startLine lengthBlanks ++ crlf), true) := by
  rw [length_append] at h
  have hp := startLineParts_of_room hg (b := b) (by omega)
  have he : textEolInsert (b.put (startLineText startLine lengthBlanks)) = _ :=
    emits_textEolInsert _ (by rw [put_room]; omega)
  simp only [startLineGenerate, hg, Bool.true_eq_false, if_false, hp, he, put_put]

/-! ## The message-length of a start line -/

/-! ## A number that counts its own digits -/

theorem le_of_length_decimal {n k : Nat} (hk : 0 < k) (h : k < (decimal n).length) : 10 ^ k ≤ n := by
  by_contra hlt
  exact absurd ((length_decimal_le_iff hk).2 (Nat.not_le.1 hlt)) (Nat.not_le.2 h)

theorem length_decimal_eq {n k : Nat} (hk : 0 < k) (hl : k = 1 ∨ 10 ^ (k - 1) ≤ n) (hh : n < 10 ^ k) :
    (decimal n).length = k := by
  have hle := (length_decimal_le_iff hk).2 hh
  have hp := length_decimal_pos n
  rcases hl with rfl | hl
  · omega
  · by_contra hne
    by_cases hk1 : k = 1
    · omega
    · have hlt := (length_decimal_le_iff (k := k - 1) (n := n) (by omega)).1 (by omega)
      omega

theorem lt_ten_pow (k : Nat) : k < 10 ^ k := Nat.lt_pow_self (by decide)

theorem ten_pow_sub_mono {a b : Nat} (h : a ≤ b) : 10 ^ a - a ≤ 10 ^ b - b := by
  induction h with
  | refl => exact Nat.le_refl _
  | @step b _ ih =>
    have hb := lt_ten_pow b
    rw [Nat.pow_succ]
    omega

def lengthDigits (value : Nat) : Nat :=
  if 10 ^ (decimal value).length - (decimal value).length ≤ value then (decimal value).length + 1
  else (decimal value).length

theorem lengthDigits_exact (value : Nat) : (decimal (value + lengthDigits value)).length = lengthDigits value := by
  have hp := length_decimal_pos value
  have hw := lt_ten_pow (decimal value).length
  have hlt := (length_decimal_le_iff hp).1 (Nat.le_refl (decimal value).length)
  unfold lengthDigits
  split
  · have hs : 10 ^ ((decimal value).length + 1) = 10 ^ (decimal value).length * 10 := Nat.pow_succ ..
    exact length_decimal_eq (Nat.succ_pos _) (Or.inr (by rw [Nat.add_sub_cancel]; omega)) (by omega)
  · refine length_decimal_eq hp ?_ (by omega)
    by_cases ho : (decimal value).length = 1
    · exact Or.inl ho
    · have hl := le_of_length_decimal (n := value) (k := (decimal value).length - 1) (by omega) (by omega)
      exact Or.inr (by omega)

theorem lt_lengthDigits_iff {value k : Nat} (hk : 0 < k) : k < lengthDigits value ↔ 10 ^ k - k ≤ value := by
  have hp := length_decimal_pos value
  have hlt := (length_decimal_le_iff hp).1 (Nat.le_refl (decimal value).length)
  constructor
  · intro h
    by_cases hl : k < (decimal value).length
    · have hw := le_of_length_decimal hk hl
      omega
    · unfold lengthDigits at h
      split at h
      next hle => rwa [show k = (decimal value).length by omega]
      next => omega
  · intro h
    by_contra hle
    unfold lengthDigits at hle
    split at hle
    · have hm := ten_pow_sub_mono (a := (decimal value).length + 1) (b := k) (by omega)
      have hpw := lt_ten_pow (decimal value).length
      have hs : 10 ^ ((decimal value).length + 1) = 10 ^ (decimal value).length * 10 := Nat.pow_succ ..
      omega
    · have hm := ten_pow_sub_mono (a := (decimal value).length) (b := k) (by omega)
      omega

theorem varLengthValueGenerate_eq (value k : Nat) : varLengthValueGenerate value k =
    if k < lengthDigits value then none
    else some (value + lengthDigits value, decimal (value + lengthDigits value)) := rfl

theorem varLengthValueGenerate_some {value k n : Nat} {text : Bytes}
    (h : varLengthValueGenerate value k = some (n, text)) :
    n = value + (decimal n).length ∧ text = decimal n ∧ (decimal n).length ≤ k := by
  rw [varLengthValueGenerate_eq] at h
  split at h
  · cases h
  next hk =>
    obtain ⟨rfl, rfl⟩ := Prod.mk.inj (Option.some.inj h)
    rw [lengthDigits_exact]
    exact ⟨rfl, rfl, Nat.not_lt.1 hk⟩

theorem varLengthValueGenerate_none_iff (value k : Nat) : varLengthValueGenerate value k = none ↔
    ∀ n, n = value + (decimal n).length → k < (decimal n).length := by
  have heq : varLengthValueGenerate value k = none ↔ k < lengthDigits value := by
    rw [varLengthValueGenerate_eq]
    split <;> simp_all
  rw [heq]
  constructor
  · intro hk n hn
    refine lt_of_lt_of_le hk (Nat.le_of_not_lt fun hl => ?_)
    have hp := length_decimal_pos n
    have hle := (lt_lengthDigits_iff hp).1 hl
    have hlt := (length_decimal_le_iff hp).1 le_rfl
    omega
  · intro h
    have hk := h (value + lengthDigits value)
    rw [lengthDigits_exact] at hk
    exact hk rfl

/-! ## Filling in -/

theorem fillIn_eq {start digits : Bytes} (rest : Bytes) (h : digits.length ≤ maxDigitCount) :
    (overwrite (start ++ lengthBlanks ++ [tokenSp] ++ rest) start.length (digits ++ [tokenSp])).take
        (start.length + digits.length) ++
      (overwrite (start ++ lengthBlanks ++ [tokenSp] ++ rest) start.length (digits ++ [tokenSp])).drop
        (start.length + digits.length + (maxDigitCount - digits.length)) =
      start ++ digits ++ [tokenSp] ++ rest := by
  have hb : lengthBlanks ++ [tokenSp] = List.replicate (maxDigitCount + 1) tokenSp :=
    replicate_succ'.symm
  have hu : (List.replicate (maxDigitCount + 1) tokenSp ++ rest).drop (digits.length + 1) =
      List.replicate (maxDigitCount - digits.length) tokenSp ++ rest := by
    rw [drop_append_of_le_length (by rw [length_replicate]; omega), drop_replicate]
    congr 2
    omega
  have ho : overwrite (start ++ lengthBlanks ++ [tokenSp] ++ rest) start.length (digits ++ [tokenSp]) =
      (start ++ digits) ++ (List.replicate (maxDigitCount - digits.length + 1) tokenSp ++ rest) := by
    rw [overwrite, append_assoc start lengthBlanks, hb, append_assoc start, take_left',
      drop_append, drop_of_length_le (by simp)]
    · simp only [length_append, length_cons, length_nil, Nat.add_sub_cancel_left, nil_append]
      rw [show 0 + 1 = 1 from rfl, hu, replicate_succ]
      simp only [append_assoc, cons_append, nil_append]
    · rfl
  have hl : (start ++ digits).length = start.length + digits.length := length_append
  have hc : (List.replicate (maxDigitCount - digits.length + 1) tokenSp ++ rest).drop
      (maxDigitCount - digits.length) = [tokenSp] ++ rest := by
    rw [replicate_succ', append_assoc, drop_left' length_replicate]
  rw [ho, ← hl, take_left' rfl, ← drop_drop, drop_left' rfl, hc, ← append_assoc]

variable {startLine : StartLine}

variable {contentLength : Nat}

theorem startLineFinalize_v2 {start rest : Bytes} (room : Int) (hv : startLine.version = .v2)
    (hl : startLine.length = start.length)
    (ht : (start ++ lengthBlanks ++ [tokenSp] ++ rest).length + contentLength < 10 ^ maxDigitCount) :
    ∃ length, startLineFinalize startLine contentLength ⟨start ++ lengthBlanks ++ [tokenSp] ++ rest, room⟩ =
        ({ startLine with length := length }, ⟨start ++ decimal length ++ [tokenSp] ++ rest, room⟩, true) ∧
      length = (start ++ decimal length ++ [tokenSp] ++ rest).length + contentLength ∧
      (decimal length).length ≤ maxDigitCount := by
  have hb : lengthBlanks.length = maxDigitCount := length_replicate
  have hs : sizeSub ((start ++ lengthBlanks ++ [tokenSp] ++ rest).length + contentLength) maxDigitCount =
      start.length + 1 + rest.length + contentLength := by
    rw [sizeSub_of_le (by simp only [length_append, hb]; omega)]
    simp only [length_append, hb, length_cons, length_nil]
    omega
  generalize h : start.length + 1 + rest.length + contentLength = value at hs
  have hf : ¬maxDigitCount < lengthDigits value := by
    rw [lt_lengthDigits_iff (by decide)]
    simp only [length_append, hb, length_cons, length_nil] at ht
    omega
  have hd := lengthDigits_exact value
  refine ⟨value + lengthDigits value, ?_, ?_, by omega⟩
  · simp only [startLineFinalize, hv, if_true, hs, varLengthValueGenerate_eq, hf, if_false, hl]
    rw [fillIn_eq rest (by omega)]
  · simp only [length_append, hd, length_cons, length_nil]
    omega

theorem startLineFinalize_v1 (hv : startLine.version ≠ .v2) (contentLength : Nat) (b : TextBuffer) :
    startLineFinalize startLine contentLength b =
      ({ startLine with length := b.text.length + contentLength }, b, true) := by
  simp only [startLineFinalize, hv, if_false]

end UniMrcp.Mrcp
