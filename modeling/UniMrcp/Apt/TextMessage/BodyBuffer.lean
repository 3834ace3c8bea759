import UniMrcp.Apt.TextMessage.Reads

/-!
# The buffer of a message body

`apt_message_parser_run` allocates the buffer of a body when the header section is complete, terminates it with a NUL
and reads the body into it, in as many runs as it takes.
-/

namespace UniMrcp.Apt

open Lib TextMessage
open Option (some.inj)

structure BodyWrite where
  /-- Where it begins, from the start of the buffer. -/
  offset : Nat
  count : Nat
  /-- The bytes of the buffer that were allocated. -/
  room : Nat
deriving DecidableEq

def BodyWrite.Inside (w : BodyWrite) : Prop := w.offset + w.count ≤ w.room

instance (w : BodyWrite) : Decidable w.Inside := inferInstanceAs (Decidable (_ ≤ _))

/-- The size that is asked for the buffer of a body: one more than the length, in 64 bits. -/
def bodyBufferSize (length : Nat) : Nat := (length + 1) % 2 ^ 64

/-- The bytes that there are for a body, when `palloc` tells which sizes `apr_palloc` can allocate. -/
def bodyBufferRoom (palloc : Nat → Bool) (length : Nat) : Nat :=
  if palloc (bodyBufferSize length) then bodyBufferSize length else 0

theorem bodyBufferRoom_of_fits {palloc : Nat → Bool} {length : Nat} (hlt : length + 1 < 2 ^ 64)
    (hp : palloc (length + 1)) : bodyBufferRoom palloc length = length + 1 := by
  have hs : bodyBufferSize length = length + 1 := Nat.mod_eq_of_lt hlt
  rw [bodyBufferRoom, hs, if_pos hp]

variable {M : Type} [TextMessage M] (vt : MessageParserVTable M)

/-- The write of `apt_message_body_read`. -/
def bodyReadWrites (room : Nat) (p : MessageParser M) (m : M) (s : TextStream) : List BodyWrite :=
  if (body m).buf = none then [] else [⟨(body m).length, (bodyRead p m s).length, room⟩]

/-- The message whose header section a run reads, and the stream where it begins to. -/
def headerOpened (p : MessageParser M) (s : TextStream) : Option (M × TextStream) :=
  match p.stage, p.context with
  | .startLine, _ => (vt.onStart s).2.map fun m => (m, (vt.onStart s).1)
  | .header, some m => some (m, s)
  | _, _ => none

/-- The header section that is complete in a run, of which message, and the stream behind it. -/
def completedSection (p : MessageParser M) (s : TextStream) : Option (M × TextStream) :=
  (headerOpened vt p (pendingLfSkip p s)).bind fun h =>
    let r := headerSectionParse (header h.1) h.2
    if r.2.2 then some (setHeader h.1 r.1, r.2.1) else none

/-- What the vtable makes of a message whose header section is complete, and whether it accepts it. -/
def headerComplete (m : M) : M × Bool := vt.onHeaderComplete.elim (m, true) (· m)

/-- The message whose header the vtable accepts in a run, and the stream behind the header. -/
def acceptedMessage (p : MessageParser M) (s : TextStream) : Option (M × TextStream) :=
  (completedSection vt p s).bind fun h =>
    if (headerComplete vt h.1).2 then some ((headerComplete vt h.1).1, h.2) else none

/-- A parser, and the bytes that are allocated for the body it reads. -/
structure BufferedParser (M : Type) where
  parser : MessageParser M
  room : Nat

/-- What a run is given: a stream, and which sizes can be allocated. -/
structure BufferedInput where
  stream : TextStream
  palloc : Nat → Bool

structure BufferedResult (M : Type) where
  run : RunResult M
  writes : List BodyWrite

/-- A run of `apt_message_parser_run` with its writes: the NUL behind the body, and what is read of the body. -/
def bufferedRun (b : BufferedParser M) (i : BufferedInput) : BufferedParser M × BufferedResult M :=
  let r := messageParserRun vt b.parser i.stream
  match acceptedMessage vt b.parser i.stream with
  | some (m, s) =>
    let length := (body m).length
    if length = 0 then (⟨r.parser, b.room⟩, ⟨r, []⟩)
    else
      let room := bodyBufferRoom i.palloc length
      let p : MessageParser M := ⟨some m, length, .body, false⟩
      (⟨r.parser, room⟩, ⟨r, ⟨length, 1, room⟩ :: bodyReadWrites room p (setBody m ⟨some [], 0⟩) s⟩)
  | none =>
    match b.parser.stage, b.parser.context with
    | .body, some m =>
      (⟨r.parser, b.room⟩, ⟨r, bodyReadWrites b.room b.parser m (pendingLfSkip b.parser i.stream)⟩)
    | _, _ => (⟨r.parser, b.room⟩, ⟨r, []⟩)

def bufferedParserCreate (M : Type) : BufferedParser M := ⟨messageParserCreate M, 0⟩

/-! ## What a run does -/

variable {vt}

theorem headerStage_eq (p : MessageParser M) (m : M) (s : TextStream) :
    headerStage vt p m s =
      let r := headerSectionParse (header m) s
      let m' := setHeader m r.1
      let p' := crlfSegmentationTest p r.2.1
      if r.2.2 = false then ⟨{ p' with context := some m' }, r.2.1, .incomplete, none⟩
      else if (headerComplete vt m').2 then
        headerAccepted vt { p' with context := some (headerComplete vt m').1 } (headerComplete vt m').1 r.2.1
      else ⟨{ p' with context := some (headerComplete vt m').1 }, r.2.1, .invalid, none⟩ := by
  unfold headerStage headerComplete
  dsimp only
  split_ifs with he ho
  · rfl
  · cases hf : vt.onHeaderComplete with
    | none => rfl
    | some f => simp_all
  · cases hf : vt.onHeaderComplete with
    | none => simp [hf] at ho
    | some f => simp_all

variable {p : MessageParser M} {m : M}

theorem messageParserRun_opened {s s' : TextStream} (h : headerOpened vt p (pendingLfSkip p s) = some (m, s')) :
    ∃ p', p'.stage = .header ∧ p'.contentLength = p.contentLength ∧
      messageParserRun vt p s = headerStage vt p' m s' := by
  obtain ⟨context, contentLength, stage, skipLf⟩ := p
  unfold messageParserRun parserStage
  cases stage with
  | startLine =>
    obtain ⟨m', hm, heq⟩ := Option.map_eq_some_iff.1 h
    obtain ⟨rfl, rfl⟩ := Prod.mk.inj heq
    refine ⟨{ crlfSegmentationTest (⟨context, contentLength, .startLine, false⟩ : MessageParser M)
      (vt.onStart (pendingLfSkip ⟨context, contentLength, .startLine, skipLf⟩ s)).1 with
        context := some m', stage := .header }, rfl, ?_, ?_⟩
    · unfold crlfSegmentationTest
      split_ifs <;> rfl
    · simp [startLineStage, hm]
  | header =>
    cases context with
    | none => cases h
    | some m' =>
      obtain ⟨rfl, rfl⟩ := Prod.mk.inj (some.inj h)
      exact ⟨⟨some m', contentLength, .header, false⟩, rfl, rfl, rfl⟩
  | body => cases context <;> cases h

variable {s : TextStream}

theorem messageParserRun_notOpened (h : headerOpened vt p (pendingLfSkip p s) = none) :
    (∃ m, p.stage = .body ∧ p.context = some m ∧
        messageParserRun vt p s = bodyStage vt { p with skipLf := false } m (pendingLfSkip p s)) ∨
      (p.stage ≠ .body ∨ p.context = none) ∧
        (messageParserRun vt p s).parser = { p with skipLf := false } ∧
        (messageParserRun vt p s).status ≠ .complete := by
  obtain ⟨context, contentLength, stage, skipLf⟩ := p
  unfold messageParserRun parserStage
  cases stage with
  | startLine =>
    have hm := Option.map_eq_none_iff.1 h
    refine Or.inr ⟨Or.inl (by simp), ?_⟩
    simp only [startLineStage, hm]
    split_ifs <;> simp
  | header =>
    cases context with
    | none => exact Or.inr ⟨Or.inl (by simp), rfl, by simp⟩
    | some m => cases h
  | body =>
    cases context with
    | none => exact Or.inr ⟨Or.inr rfl, rfl, by simp⟩
    | some m => exact Or.inl ⟨m, rfl, rfl, rfl⟩

/-! ## The length of the body -/

variable (vt) in
/-- What the vtable does for the length of a body. -/
structure LengthLaws (Opened : M → Prop) (Sound : (Nat → Bool) → M → Prop) (Agrees : M → Nat → Prop) : Prop where
  start : ∀ s m, (vt.onStart s).2 = some m → Opened m
  read : ∀ m s, Opened m → Opened (setHeader m (headerSectionParse (header m) s).1)
  empty : ∀ m, Opened m → body m = {}
  refused : ∀ m, Opened m → (headerComplete vt m).2 = false → Opened (headerComplete vt m).1
  accepted : ∀ m, Opened m → (headerComplete vt m).2 → (body (headerComplete vt m).1).buf = none
  fits : ∀ palloc m, Opened m → Sound palloc m → (headerComplete vt m).2 →
    (body (headerComplete vt m).1).length ≠ 0 →
      (body (headerComplete vt m).1).length < bodyBufferRoom palloc (body (headerComplete vt m).1).length
  agrees : ∀ palloc m, Opened m → Sound palloc m → (headerComplete vt m).2 →
    Agrees (headerComplete vt m).1 (body (headerComplete vt m).1).length
  setBody : ∀ m b n, Agrees m n → Agrees (setBody m b) n
  noBodyComplete : vt.onBodyComplete = none

variable (vt) in
def SoundRun (Sound : (Nat → Bool) → M → Prop) (b : BufferedParser M) (i : BufferedInput) : Prop :=
  ∀ h ∈ completedSection vt b.parser i.stream, Sound i.palloc h.1

instance (Sound : (Nat → Bool) → M → Prop) [∀ palloc m, Decidable (Sound palloc m)] (b : BufferedParser M)
    (i : BufferedInput) : Decidable (SoundRun vt Sound b i) := by
  unfold SoundRun
  infer_instance

structure BodyInvariant (Opened : M → Prop) (Agrees : M → Nat → Prop) (b : BufferedParser M) : Prop where
  length_le : ∀ m, b.parser.context = some m → (body m).length ≤ b.parser.contentLength
  opened : ∀ m, b.parser.stage = .header → b.parser.context = some m → Opened m
  reading : ∀ m, b.parser.stage = .body → b.parser.context = some m →
    (∃ text : Bytes, body m = ⟨some text, text.length⟩) ∧ b.parser.contentLength < b.room ∧
      Agrees m b.parser.contentLength

/-- What a run may do: its writes lie inside the buffer, and the body of a complete message has its length. -/
structure BodySafe (Agrees : M → Nat → Prop) (r : BufferedResult M) : Prop where
  inside : ∀ w ∈ r.writes, w.Inside
  complete : ∀ m, r.run.status = .complete → r.run.message = some m →
    Agrees m (body m).length ∧ ((body m).buf.getD []).length = (body m).length

variable {Opened : M → Prop} {Sound : (Nat → Bool) → M → Prop} {Agrees : M → Nat → Prop}

theorem bodyInvariant_create : BodyInvariant Opened Agrees (bufferedParserCreate M) :=
  ⟨nofun, nofun, nofun⟩

theorem LengthLaws.bodyComplete (hv : LengthLaws vt Opened Sound Agrees) (p : MessageParser M) (m : M)
    (s : TextStream) : bodyComplete vt p m s = messageComplete p m s := by
  rw [Apt.bodyComplete, hv.noBodyComplete]
  rfl

variable {room : Nat}

theorem messageComplete_keeps (hle : (body m).length ≤ p.contentLength) (s : TextStream) :
    BodyInvariant Opened Agrees ⟨(messageComplete p m s).parser, room⟩ := by
  refine ⟨?_, nofun, nofun⟩
  intro m' hm'
  obtain rfl := some.inj hm'
  exact hle

theorem bodyStage_keeps (hv : LengthLaws vt Opened Sound Agrees) (text : Bytes) (s : TextStream)
    (hs : p.stage = .body) (hb : body m = ⟨some text, text.length⟩) (hle : text.length ≤ p.contentLength)
    (hr : p.contentLength < room) (hg : Agrees m p.contentLength) :
    BodyInvariant Opened Agrees ⟨(bodyStage vt p m s).parser, room⟩ ∧
      BodySafe Agrees ⟨bodyStage vt p m s, bodyReadWrites room p m s⟩ := by
  have hd : (bodyRead p m s).length = min (p.contentLength - text.length) s.rest.length := by
    simp [bodyRead, hb]
  have he : body (bodyExtend m (bodyRead p m s)) =
      ⟨some (text ++ bodyRead p m s), text.length + (bodyRead p m s).length⟩ := by
    simp [bodyExtend, body_setBody, hb]
  have hi : ∀ w ∈ bodyReadWrites room p m s, w.Inside := by
    intro w hw
    simp only [bodyReadWrites, hb, reduceCtorEq, if_false, List.mem_singleton] at hw
    subst hw
    unfold BodyWrite.Inside
    dsimp only
    omega
  unfold bodyStage
  simp only [hb, reduceCtorEq, if_false]
  split_ifs with hlt
  · -- the rest of the stream is read, and more is to come
    refine ⟨⟨?_, ?_, ?_⟩, hi, nofun⟩
    · intro m' hm'
      obtain rfl := some.inj hm'
      rw [he]
      dsimp only
      omega
    · intro m' hh
      exact absurd (hs.symm.trans hh) (by simp)
    · intro m' _ hm'
      obtain rfl := some.inj hm'
      exact ⟨⟨_, by rw [he, List.length_append]⟩, hr, hv.setBody _ _ _ hg⟩
  · have ha : text.length + (bodyRead p m s).length = p.contentLength := by omega
    rw [hv.bodyComplete]
    refine ⟨messageComplete_keeps (by rw [he]; exact Nat.le_of_eq ha) _, hi, ?_⟩
    intro m' _ hm'
    obtain rfl := some.inj hm'
    rw [he]
    refine ⟨?_, by simp⟩
    rw [ha]
    exact hv.setBody _ _ _ hg

theorem bodyReadWrites_congr (room : Nat) (p p' : MessageParser M) (h : p.contentLength = p'.contentLength) (m : M)
    (s : TextStream) : bodyReadWrites room p m s = bodyReadWrites room p' m s := by
  simp [bodyReadWrites, bodyRead, h]

theorem headerAccepted_keeps (hv : LengthLaws vt Opened Sound Agrees) (p p' : MessageParser M) (palloc : Nat → Bool)
    (old : Nat) (s : TextStream) (hb : (body m).buf = none) (ha : Agrees m (body m).length)
    (hf : (body m).length ≠ 0 → (body m).length < bodyBufferRoom palloc (body m).length)
    (hp' : p'.contentLength = (body m).length) :
    if (body m).length = 0 then
      BodyInvariant Opened Agrees ⟨(headerAccepted vt p m s).parser, old⟩ ∧
        BodySafe Agrees ⟨headerAccepted vt p m s, []⟩
    else
      BodyInvariant Opened Agrees
          ⟨(headerAccepted vt p m s).parser, bodyBufferRoom palloc (body m).length⟩ ∧
        BodySafe Agrees ⟨headerAccepted vt p m s,
          ⟨(body m).length, 1, bodyBufferRoom palloc (body m).length⟩ ::
            bodyReadWrites (bodyBufferRoom palloc (body m).length) p' (setBody m ⟨some [], 0⟩) s⟩ := by
  unfold headerAccepted
  split_ifs with hz
  · refine ⟨messageComplete_keeps (by omega) s, nofun, ?_⟩
    intro m' _ hm'
    obtain rfl := some.inj hm'
    refine ⟨ha, ?_⟩
    simp [hb, hz]
  · have hr := hf hz
    obtain ⟨hi, hn, hc⟩ := bodyStage_keeps hv
      (p := { p with context := some (setBody m ⟨some [], 0⟩), contentLength := (body m).length, stage := .body })
      [] s rfl (body_setBody _ _) (Nat.zero_le _) hr (hv.setBody _ _ _ ha)
    refine ⟨hi, ?_, hc⟩
    intro w hw
    rcases List.mem_cons.1 hw with rfl | hw
    · exact hr
    · rw [bodyReadWrites_congr _ p' { p with
        context := some (setBody m ⟨some [], 0⟩), contentLength := (body m).length, stage := .body } hp'] at hw
      exact hn w hw

variable {b : BufferedParser M}

variable {i : BufferedInput}

theorem bufferedRun_quiet (hn : acceptedMessage vt b.parser i.stream = none)
    (h : b.parser.stage ≠ .body ∨ b.parser.context = none) :
    bufferedRun vt b i =
      (⟨(messageParserRun vt b.parser i.stream).parser, b.room⟩, ⟨messageParserRun vt b.parser i.stream, []⟩) := by
  unfold bufferedRun
  simp only [hn]
  split
  · rename_i hb hc
    simp [hb, hc] at h
  · rfl

theorem opened_of_headerOpened (hv : LengthLaws vt Opened Sound Agrees) (hi : BodyInvariant Opened Agrees b)
    {s s' : TextStream} (h : headerOpened vt b.parser s = some (m, s')) : Opened m := by
  unfold headerOpened at h
  split at h
  · obtain ⟨m', hm', heq⟩ := Option.map_eq_some_iff.1 h
    obtain ⟨rfl, rfl⟩ := Prod.mk.inj heq
    exact hv.start _ _ hm'
  · rename_i hs hc
    obtain ⟨rfl, rfl⟩ := Prod.mk.inj (some.inj h)
    exact hi.opened _ hs hc
  · cases h

omit [TextMessage M] in
@[simp] theorem crlfSegmentationTest_stage (p : MessageParser M) (s : TextStream) :
    (crlfSegmentationTest p s).stage = p.stage := by
  unfold crlfSegmentationTest
  split_ifs <;> rfl

theorem bodyInvariant_header (hv : LengthLaws vt Opened Sound Agrees) (hs : p.stage = .header)
    (hc : p.context = some m) (hm : Opened m) : BodyInvariant Opened Agrees ⟨p, room⟩ := by
  refine ⟨?_, ?_, ?_⟩
  · intro m' hm'
    obtain rfl := some.inj (hc.symm.trans hm')
    rw [hv.empty m hm]
    exact Nat.zero_le _
  · intro m' _ hm'
    obtain rfl := some.inj (hc.symm.trans hm')
    exact hm
  · intro m' hb
    exact absurd (hs.symm.trans hb) (by simp)

/-- **One run** keeps the invariant and is safe. -/
theorem bufferedRun_keeps (hv : LengthLaws vt Opened Sound Agrees) (hi : BodyInvariant Opened Agrees b)
    (hsn : SoundRun vt Sound b i) :
    BodyInvariant Opened Agrees (bufferedRun vt b i).1 ∧ BodySafe Agrees (bufferedRun vt b i).2 := by
  cases ho : headerOpened vt b.parser (pendingLfSkip b.parser i.stream) with
  | none =>
    have hn : acceptedMessage vt b.parser i.stream = none := by
      simp [acceptedMessage, completedSection, ho]
    obtain ⟨m, ht, hx, hr⟩ | ⟨hno, hpr, hst⟩ := messageParserRun_notOpened ho
    · obtain ⟨⟨text, hb⟩, hrm, ha⟩ := hi.reading m ht hx
      have hle := hi.length_le m hx
      rw [hb] at hle
      have hd := bodyStage_keeps hv (p := { b.parser with skipLf := false })
        text (pendingLfSkip b.parser i.stream) ht hb hle hrm ha
      have hw := bodyReadWrites_congr b.room b.parser { b.parser with skipLf := false } rfl m
        (pendingLfSkip b.parser i.stream)
      rw [← hr, ← hw] at hd
      unfold bufferedRun
      simp only [hn]
      split
      · rename_i m' _ hm'
        obtain rfl := some.inj (hx.symm.trans hm')
        exact hd
      · rename_i hno
        exact absurd hx (hno m ht)
    · rw [bufferedRun_quiet hn hno]
      refine ⟨?_, nofun, fun m hc => absurd hc hst⟩
      rw [hpr]
      exact ⟨hi.length_le, hi.opened, hi.reading⟩
  | some h =>
    obtain ⟨m, s⟩ := h
    have hm : Opened m := opened_of_headerOpened hv hi ho
    have hd := hv.read m s hm
    have hno : b.parser.stage ≠ .body ∨ b.parser.context = none := by
      left
      intro hb
      simp only [headerOpened, hb] at ho
      cases ho
    obtain ⟨p', ht', -, hr⟩ := messageParserRun_opened ho
    rw [headerStage_eq] at hr
    by_cases he : (headerSectionParse (header m) s).2.2 = false
    · -- the header section goes on
      have hn : acceptedMessage vt b.parser i.stream = none := by
        simp [acceptedMessage, completedSection, ho, he]
      rw [if_pos he] at hr
      rw [bufferedRun_quiet hn hno, hr]
      exact ⟨bodyInvariant_header hv (by simpa using ht') rfl hd, nofun, nofun⟩
    · rw [if_neg he] at hr
      rw [Bool.not_eq_false] at he
      have hsc : completedSection vt b.parser i.stream =
          some (setHeader m (headerSectionParse (header m) s).1, (headerSectionParse (header m) s).2.1) := by
        simp [completedSection, ho, he]
      have hs := hsn _ hsc
      generalize setHeader m (headerSectionParse (header m) s).1 = m' at hd hr hsc hs
      generalize (headerSectionParse (header m) s).2.1 = s' at hr hsc
      cases hk : (headerComplete vt m').2 with
      | false =>
        have hn : acceptedMessage vt b.parser i.stream = none := by
          simp [acceptedMessage, hsc, hk]
        rw [hk, if_neg (by simp)] at hr
        rw [bufferedRun_quiet hn hno, hr]
        exact ⟨bodyInvariant_header hv (by simpa using ht') rfl (hv.refused _ hd hk), nofun, nofun⟩
      | true =>
        have hsm : acceptedMessage vt b.parser i.stream = some ((headerComplete vt m').1, s') := by
          simp [acceptedMessage, hsc, hk]
        rw [hk, if_pos rfl] at hr
        have hp := headerAccepted_keeps hv
          { crlfSegmentationTest p' s' with context := some (headerComplete vt m').1 }
          ⟨some (headerComplete vt m').1, (body (headerComplete vt m').1).length, .body, false⟩
          i.palloc b.room s' (hv.accepted _ hd hk) (hv.agrees _ _ hd hs hk)
          (hv.fits _ _ hd hs hk) rfl
        rw [← hr] at hp
        unfold bufferedRun
        simp only [hsm]
        split_ifs with hz
        · rw [if_pos hz] at hp
          exact hp
        · rw [if_neg hz] at hp
          exact hp

theorem bodySafe_run (hv : LengthLaws vt Opened Sound Agrees) (is : List BufferedInput)
    (h : EachStep (bufferedRun vt) (SoundRun vt Sound) (bufferedParserCreate M) is) :
    EachStep (bufferedRun vt) (fun b i => BodySafe Agrees (bufferedRun vt b i).2 ∧
      ∀ m, (bufferedRun vt b i).1.parser.context = some m →
        (body m).length ≤ (bufferedRun vt b i).1.parser.contentLength) (bufferedParserCreate M) is :=
  eachStep_of_invariant (BodyInvariant Opened Agrees) _ _ (fun _ _ hi hs => (bufferedRun_keeps hv hi hs).1)
    (fun _ _ hi hs =>
      ⟨(bufferedRun_keeps hv hi hs).2, (bufferedRun_keeps hv hi hs).1.length_le⟩) _ _
    bodyInvariant_create h

end UniMrcp.Apt
