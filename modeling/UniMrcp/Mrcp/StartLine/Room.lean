import UniMrcp.Mrcp.StartLine.Generator

/-!
# Start lines that do not fit

The request-id, the status code and the version are cut or left out, everything else runs over the end of the buffer.
-/

namespace UniMrcp.Mrcp

open Apt List StartLine

/-! ## Room behind the parts of a start line -/

def printRoom (room : Int) (length : Nat) : Int :=
  if room < 0 then room else if room = 0 then -length else if room ≤ length then 1 else room - length

theorem textPrint_room {text : Bytes} (b : TextBuffer) :
    (textPrint text b).1.room = printRoom b.room text.length := by
  unfold textPrint printRoom
  split
  · rfl
  · split
    next hz => simp [hz]
    next hn hz =>
      have hp : (snprintf b.room.toNat text).length = min (b.room.toNat - 1) text.length := length_take
      rw [put_room, hp]
      split <;> omega

def versionRoom (room : Int) : Int :=
  if room ≤ 5 then room else if room ≤ 7 then 1 else if room = 8 then 2 else room - 8

theorem versionGenerate_room (version : Version) (b : TextBuffer) :
    (versionGenerate version b).1.room = versionRoom b.room := by
  have hd : (decimal version.number).length = 1 := by cases version <;> rfl
  have hn : (mrcpName ++ [0x2F]).length = 5 := rfl
  have hf : (mrcpName.length : Int) + 1 = 5 := rfl
  unfold versionGenerate nameVersionGenerate versionRoom
  rw [hf]
  by_cases hs : b.room ≤ 5
  · rw [if_pos hs, if_pos hs]
  · rw [if_neg hs, if_neg hs]
    by_cases hx : b.room = 6
    · -- only the name is written
      have hp : textSizeValueInsert version.number (b.put (mrcpName ++ [0x2F])) =
          (b.put (mrcpName ++ [0x2F]), false) := by
        have ho : (b.put (mrcpName ++ [0x2F])).room = 1 := by rw [put_room, hn, hx]; rfl
        unfold textSizeValueInsert textPrint
        rw [ho]
        simp [snprintf]
      simp [hp, hx, hn]
    · have hp : textSizeValueInsert version.number (b.put (mrcpName ++ [0x2F])) = _ :=
        emits_textSizeValueInsert _ _ (by rw [put_room, hn, hd]; omega)
      rw [hp]
      simp only [Bool.true_eq_false, if_false, put_room, hn, hd]
      split
      · split <;> simp only [put_room, hn, hd] <;> omega
      · simp only [put_room, hn, hd, length_cons, length_nil]
        split <;> [skip; split] <;> omega

structure Shrinks (room room' : Int) (length : Nat) : Prop where
  fits : length < room → room' = room - length
  full : room ≤ length → room' ≤ 0

theorem Shrinks.trans {room room' room'' : Int} {length length' : Nat} (h : Shrinks room room' length)
    (h' : Shrinks room' room'' length') : Shrinks room room'' (length + length') := by
  obtain ⟨hf, hl⟩ := h
  obtain ⟨hf', hl'⟩ := h'
  constructor
  · intro hm
    have hr := hf (by omega)
    have hx := hf' (by omega)
    omega
  · intro hm
    apply hl'
    by_cases hn : (length : Int) < room
    · have hr := hf hn
      omega
    · have hr := hl (by omega)
      omega

theorem shrinks_put (b : TextBuffer) (bytes : Bytes) : Shrinks b.room (b.put bytes).room bytes.length := by
  constructor
  · intro _
    rfl
  · intro h
    rw [put_room]
    omega

theorem shrinks_textPrint {text : Bytes} (h : text ≠ []) (b : TextBuffer) :
    Shrinks b.room ((textPrint text b).1.put [tokenSp]).room (text ++ [tokenSp]).length := by
  have hp := length_pos_iff.2 h
  rw [put_room, textPrint_room, length_append, length_singleton]
  unfold printRoom
  constructor
  · intro hr
    split_ifs <;> omega
  · intro hr
    split_ifs <;> omega

theorem shrinks_requestId (id : Nat) (b : TextBuffer) :
    Shrinks b.room ((requestIdGenerate id b).1.put [tokenSp]).room (requestIdText id ++ [tokenSp]).length :=
  shrinks_textPrint (requestIdText_ne_nil id) b

theorem shrinks_statusCode (code : Nat) (b : TextBuffer) :
    Shrinks b.room ((statusCodeGenerate code b).1.put [tokenSp]).room (decimal code ++ [tokenSp]).length :=
  shrinks_textPrint (decimal_ne_nil code) b

variable {room : Int} {length : Nat}

theorem shrinks_version (version : Version) (b : TextBuffer) (hn : 4 ≤ length)
    (h : Shrinks ((versionGenerate version b).1.put [tokenSp]).room room length) :
    Shrinks b.room room (9 + length) := by
  obtain ⟨hf, hl⟩ := h
  rw [put_room, versionGenerate_room, length_singleton] at hf hl
  unfold versionRoom at hf hl
  constructor
  · intro hr
    split_ifs at hf <;> omega
  · intro hr
    apply hl
    split_ifs <;> omega

theorem requestIdGenerate_room (id : Nat) (b : TextBuffer) :
    (requestIdGenerate id b).1.room = printRoom b.room (requestIdText id).length := textPrint_room b

/-! ## Room behind a start line -/

variable (startLine : StartLine)

theorem shrinks_response (b : TextBuffer) :
    Shrinks b.room (requestStateGenerate startLine.requestState
      ((statusCodeGenerate startLine.statusCode ((requestIdGenerate startLine.requestId b).1.put [tokenSp])).1.put
        [tokenSp])).room (responseText startLine).length := by
  have hp := ((shrinks_requestId startLine.requestId b).trans
    (shrinks_statusCode startLine.statusCode _)).trans (shrinks_put _ (requestStateText startLine.requestState))
  rwa [← length_append, ← length_append] at hp

theorem requestLineGenerate_room (b : TextBuffer) :
    ∃ room, Shrinks b.room room (requestLineHead startLine).length ∧
      (requestLineGenerate startLine b).room = versionRoom room := by
  have hid := (shrinks_put b (startLine.methodName ++ [tokenSp])).trans (shrinks_requestId startLine.requestId _)
  rw [← length_append] at hid
  unfold requestLineGenerate requestLineHead requestMarkText
  simp only [versionGenerate_room]
  refine ⟨_, ?_, rfl⟩
  cases startLine.messageType with
  | request =>
    by_cases hc : startLine.statusCode = 0
    · simpa only [hc, if_true, append_nil] using hid
    · simp only [hc, if_false]
      rw [length_append]
      exact hid.trans (shrinks_statusCode startLine.statusCode _)
  | event =>
    have hs := (hid.trans (shrinks_put _ (requestStateText startLine.requestState))).trans
      (shrinks_put _ [tokenSp])
    rwa [← length_append, ← length_append, append_assoc _ (requestStateText _)] at hs
  | unknown => simpa only [append_nil] using hid
  | response => simpa only [append_nil] using hid

theorem four_le_responseText : 4 ≤ (responseText startLine).length := by
  have hid := length_pos_iff.2 (requestIdText_ne_nil startLine.requestId)
  have hc := length_decimal_pos startLine.statusCode
  simp only [responseText, length_append, length_singleton]
  omega

theorem responseLineGenerate_room (b : TextBuffer) :
    Shrinks b.room (responseLineGenerate startLine b).room (9 + (responseText startLine).length) :=
  shrinks_version startLine.version b (four_le_responseText startLine)
    (shrinks_response startLine ((versionGenerate startLine.version b).1.put [tokenSp]))

theorem v2Start_room (b : TextBuffer)
    (h : Shrinks (((versionGenerate startLine.version b).1.put [tokenSp]).put
      (List.replicate (maxDigitCount + 1) tokenSp)).room room length) : Shrinks b.room room (9 + (7 + length)) :=
  shrinks_version startLine.version b (Nat.le_add_right_of_le (by decide)) ((shrinks_put _ _).trans h)

/-- The bytes at the end that are inserted only if there is room: the version, or the request-id in requests of version
2. -/
def StartLine.tailLength (startLine : StartLine) : Nat :=
  match startLine.version, startLine.messageType with
  | .v1, .request => 8
  | .v1, .event => 8
  | .v2, .request => (requestIdText startLine.requestId).length
  | .v2, .unknown => (requestIdText startLine.requestId).length
  | _, _ => 0

/-- The bytes of a start line before its tail, with six blanks for the message-length. -/
def StartLine.headLength (startLine : StartLine) : Nat :=
  (startLineText startLine lengthBlanks).length - startLine.tailLength

def StartLine.tailRoom (startLine : StartLine) (room : Int) : Int :=
  match startLine.version, startLine.messageType with
  | .v1, .request => versionRoom room
  | .v1, .event => versionRoom room
  | .v2, .request => printRoom room (requestIdText startLine.requestId).length
  | .v2, .unknown => printRoom room (requestIdText startLine.requestId).length
  | _, _ => room

theorem tailRoom_nonpos (h : room ≤ 0) : startLine.tailRoom room ≤ 0 := by
  have hv : versionRoom room ≤ 0 := by
    unfold versionRoom
    split_ifs <;> omega
  have hp : printRoom room (requestIdText startLine.requestId).length ≤ 0 := by
    unfold printRoom
    split_ifs <;> omega
  unfold tailRoom
  split <;> assumption

theorem tailRoom_pos (h : 0 < room) : 0 < startLine.tailRoom room := by
  have hv : 0 < versionRoom room := by
    unfold versionRoom
    split_ifs <;> omega
  have hp : 0 < printRoom room (requestIdText startLine.requestId).length := by
    unfold printRoom
    split_ifs <;> omega
  unfold tailRoom
  split <;> assumption

theorem v2LineGenerate_room {startLine : StartLine} (hv : startLine.version = .v2) (b : TextBuffer) :
    ∃ room, Shrinks b.room room ((v2LineText startLine).length - startLine.tailLength) ∧
      (v2LineGenerate startLine b).room = startLine.tailRoom room := by
  have hm := shrinks_put b (startLine.methodName ++ [tokenSp])
  have hh : (startLine.methodName ++ [tokenSp] ++ requestIdText startLine.requestId).length -
      (requestIdText startLine.requestId).length = (startLine.methodName ++ [tokenSp]).length := by
    rw [length_append, Nat.add_sub_cancel]
  unfold v2LineGenerate v2LineText tailLength tailRoom
  rw [hv]
  cases ht : startLine.messageType with
  | response => exact ⟨_, shrinks_response startLine b, rfl⟩
  | event =>
    have hs := (hm.trans (shrinks_requestId startLine.requestId _)).trans
      (shrinks_put _ (requestStateText startLine.requestState))
    rw [← length_append, ← length_append, ← append_assoc _ (requestIdText _)] at hs
    exact ⟨_, hs, rfl⟩
  | request =>
    refine ⟨_, ?_, requestIdGenerate_room startLine.requestId _⟩
    rwa [hh]
  | unknown =>
    refine ⟨_, ?_, requestIdGenerate_room startLine.requestId _⟩
    rwa [hh]

/-- **The room behind the parts of a start line.** -/
theorem startLineParts_room {startLine : StartLine} (hg : startLine.generable) (b : TextBuffer) :
    ∃ room, Shrinks b.room room startLine.headLength ∧
      (startLineParts startLine b).2.room = startLine.tailRoom room := by
  unfold headLength
  cases hv : startLine.version with
  | unknown => simp [generable, hv] at hg
  | v1 =>
    have hr := requestLineGenerate_room startLine b
    have h := responseLineGenerate_room startLine b
    have hl := length_versionText .v1
    cases ht : startLine.messageType with
    | unknown => simp [generable, hv, ht] at hg
    | request =>
      simpa only [startLineParts, startLineText, tailLength, tailRoom, hv, ht,
        length_append, hl, Nat.add_sub_cancel] using hr
    | event =>
      simpa only [startLineParts, startLineText, tailLength, tailRoom, hv, ht,
        length_append, hl, Nat.add_sub_cancel] using hr
    | response =>
      refine ⟨_, ?_, by simp only [startLineParts, tailRoom, hv, ht]; rfl⟩
      simpa only [startLineText, tailLength, hv, ht, length_append, hl,
        length_singleton, Nat.sub_zero] using h
  | v2 =>
    obtain ⟨room, hm, hn⟩ := v2LineGenerate_room hv
      (((versionGenerate startLine.version b).1.put [tokenSp]).put (List.replicate (maxDigitCount + 1) tokenSp))
    refine ⟨room, ?_, by simpa only [startLineParts, hv, v2StartLineGenerate] using hn⟩
    have htl : startLine.tailLength ≤ (v2LineText startLine).length := by
      unfold tailLength v2LineText
      rw [hv]
      cases startLine.messageType <;> simp only [length_append] <;> omega
    have ha := v2Start_room startLine b hm
    have hl := length_versionText .v2
    have hb : lengthBlanks.length = 6 := rfl
    have hs : (startLineText startLine lengthBlanks).length - startLine.tailLength =
        9 + (7 + ((v2LineText startLine).length - startLine.tailLength)) := by
      simp only [startLineText_v2 hv, length_append, hl, hb, length_singleton]
      omega
    rwa [hs]

end UniMrcp.Mrcp
