import UniMrcp.Apt.TextMessage.Reads

/-!
# The parser after a message

After a message that is complete or invalid the parser is to go on like a new one.
-/

namespace UniMrcp.Apt

open Lib

variable {M : Type}

/-! ## Parsers that are alike -/

structure Alike (p p' : MessageParser M) : Prop where
  stage : p.stage = p'.stage
  skipLf : p.skipLf = p'.skipLf
  context : p.stage ≠ .startLine → p.context = p'.context
  contentLength : p.stage = .body → p.contentLength = p'.contentLength

theorem Alike.refl (p : MessageParser M) : Alike p p := ⟨rfl, rfl, fun _ => rfl, fun _ => rfl⟩

variable {p p' : MessageParser M}

theorem Alike.symm (h : Alike p p') : Alike p' p :=
  ⟨h.stage.symm, h.skipLf.symm, fun hs => (h.context (h.stage ▸ hs)).symm,
    fun hs => (h.contentLength (h.stage ▸ hs)).symm⟩

theorem Alike.trans {p p' p'' : MessageParser M} (h : Alike p p') (h' : Alike p' p'') : Alike p p'' :=
  ⟨h.stage.trans h'.stage, h.skipLf.trans h'.skipLf, fun hs => (h.context hs).trans (h'.context (h.stage ▸ hs)),
    fun hs => (h.contentLength hs).trans (h'.contentLength (h.stage ▸ hs))⟩

theorem alike_of_startLine (hp : p.stage = .startLine) (hp' : p'.stage = .startLine) (h : p.skipLf = p'.skipLf) :
    Alike p p' :=
  ⟨hp.trans hp'.symm, h, fun hs => absurd hp hs, fun hs => by simp [hp] at hs⟩

structure AlikeRun (r r' : RunResult M) : Prop where
  parser : Alike r.parser r'.parser
  stream : r.stream = r'.stream
  status : r.status = r'.status
  message : r.message = r'.message

theorem crlfSegmentationTest_skipLf (h : p.skipLf = p'.skipLf) (s : TextStream) :
    (crlfSegmentationTest p s).skipLf = (crlfSegmentationTest p' s).skipLf := by
  unfold crlfSegmentationTest
  split_ifs
  · rfl
  · exact h

theorem messageComplete_alike (h : p.skipLf = p'.skipLf) (m : M) (s : TextStream) :
    AlikeRun (messageComplete p m s) (messageComplete p' m s) :=
  ⟨⟨rfl, h, fun hs => absurd rfl hs, fun hs => by simp [messageComplete] at hs⟩, rfl, rfl, rfl⟩

section Stages

variable [TextMessage M] (vt : MessageParserVTable M)

variable {p p' : MessageParser M}

theorem bodyStage_alike (h : p.skipLf = p'.skipLf) (hs : p.stage = p'.stage) (hc : p.contentLength = p'.contentLength)
    (m : M) (s : TextStream) : AlikeRun (bodyStage vt p m s) (bodyStage vt p' m s) := by
  unfold bodyStage bodyRead
  rw [hc]
  split_ifs
  · exact messageComplete_alike h _ _
  · exact ⟨⟨hs, h, fun _ => rfl, fun _ => rfl⟩, rfl, rfl, rfl⟩
  · exact messageComplete_alike h _ _

theorem headerAccepted_alike (h : p.skipLf = p'.skipLf) (m : M) (s : TextStream) :
    AlikeRun (headerAccepted vt p m s) (headerAccepted vt p' m s) := by
  unfold headerAccepted
  split_ifs
  · exact messageComplete_alike h m s
  · apply bodyStage_alike vt
    · exact h
    · rfl
    · rfl

theorem headerStage_alike (h : p.skipLf = p'.skipLf) (hs : p.stage = p'.stage) (hb : p.stage ≠ .body) (m : M)
    (s : TextStream) : AlikeRun (headerStage vt p m s) (headerStage vt p' m s) := by
  have hk := fun s => crlfSegmentationTest_skipLf h s
  have ht : ∀ s, (crlfSegmentationTest p s).stage = (crlfSegmentationTest p' s).stage := by
    intro s
    unfold crlfSegmentationTest
    split_ifs <;> exact hs
  have hd : ∀ s, (crlfSegmentationTest p s).stage ≠ .body := by
    intro s
    unfold crlfSegmentationTest
    split_ifs <;> exact hb
  unfold headerStage
  dsimp only
  split_ifs
  · exact ⟨⟨ht _, hk _, fun _ => rfl, fun hsb => absurd hsb (hd _)⟩, rfl, rfl, rfl⟩
  · cases vt.onHeaderComplete with
    | none => exact headerAccepted_alike vt (hk _) _ _
    | some onHeaderComplete =>
      dsimp only
      split_ifs
      · exact ⟨⟨ht _, hk _, fun _ => rfl, fun hsb => absurd hsb (hd _)⟩, rfl, rfl, rfl⟩
      · exact headerAccepted_alike vt (hk _) _ _

theorem startLineStage_alike (h : p.skipLf = p'.skipLf) (hs : p.stage = .startLine) (hs' : p'.stage = .startLine)
    (s : TextStream) : AlikeRun (startLineStage vt p s) (startLineStage vt p' s) := by
  unfold startLineStage
  dsimp only
  cases (vt.onStart s).2 with
  | none =>
    exact ⟨⟨hs.trans hs'.symm, h, fun hne => absurd hs hne, fun hb => by simp [hs] at hb⟩, rfl, rfl, rfl⟩
  | some m =>
    apply headerStage_alike vt
    · exact crlfSegmentationTest_skipLf h _
    · rfl
    · simp

theorem alike_run (h : Alike p p') (s : TextStream) :
    AlikeRun (messageParserRun vt p s) (messageParserRun vt p' s) := by
  obtain ⟨hs, hk, hc, hl⟩ := h
  have hp : pendingLfSkip p s = pendingLfSkip p' s := by
    unfold pendingLfSkip
    rw [hk]
  unfold messageParserRun
  rw [hp]
  generalize pendingLfSkip p' s = t
  obtain ⟨context, length, stage, skip⟩ := p
  obtain ⟨context', length', stage', skip'⟩ := p'
  subst hs
  cases stage with
  | startLine =>
    apply startLineStage_alike vt <;> rfl
  | header =>
    obtain rfl := hc (by simp)
    cases context with
    | none => exact ⟨⟨rfl, rfl, fun _ => rfl, fun hb => by simp [parserStage] at hb⟩, rfl, rfl, rfl⟩
    | some m =>
      apply headerStage_alike vt
      · rfl
      · rfl
      · simp
  | body =>
    obtain rfl := hc (by simp)
    obtain rfl := hl rfl
    exact ⟨.refl _, rfl, rfl, rfl⟩

end Stages

/-! ## Receiving with parsers that are alike -/

variable {κ : Type}

structure AlikeReceivers (c c' : TextReceiver M κ) : Prop where
  parser : Alike c.parser c'.parser
  stream : c.stream = c'.stream
  handler : c.handler = c'.handler

def Restarted (p p' : MessageParser M) : Prop := Alike p p' ∨ p.stage = .startLine ∧ p'.stage = .startLine

structure Resynced (c c' : TextReceiver M κ) : Prop where
  parser : Restarted c.parser c'.parser
  done : c.stream.done = c'.stream.done
  rest : c.stream.rest = c'.stream.rest
  handler : c.handler = c'.handler

theorem Resynced.refl (c : TextReceiver M κ) : Resynced c c := ⟨Or.inl (.refl _), rfl, rfl, rfl⟩

variable {c c' : TextReceiver M κ}

theorem Resynced.symm (h : Resynced c c') : Resynced c' c :=
  ⟨h.parser.imp Alike.symm And.symm, h.done.symm, h.rest.symm, h.handler.symm⟩

theorem Resynced.trans {c c' c'' : TextReceiver M κ} (h : Resynced c c') (h' : Resynced c' c'') : Resynced c c'' := by
  refine ⟨?_, h.done.trans h'.done, h.rest.trans h'.rest, h.handler.trans h'.handler⟩
  rcases h.parser with ha | ⟨hs, hs'⟩
  · rcases h'.parser with ha' | ⟨hs', hs''⟩
    · exact Or.inl (ha.trans ha')
    · exact Or.inr ⟨ha.stage.trans hs', hs''⟩
  · rcases h'.parser with ha' | ⟨_, hs''⟩
    · exact Or.inr ⟨hs, ha'.stage.symm.trans hs'⟩
    · exact Or.inr ⟨hs, hs''⟩

theorem AlikeReceivers.resynced (h : AlikeReceivers c c') : Resynced c c' :=
  ⟨Or.inl h.parser, by rw [h.stream], by rw [h.stream], h.handler⟩

def MindsMessages (handle : MessageHandler M κ) : Prop := ∀ k status, handle k status none = (k, true)

def logMessage : MessageHandler M (List M) := fun log _ message => (log ++ message.toList, true)

theorem logMessage_mindsMessages : MindsMessages (logMessage (M := M)) := by
  intro log status
  simp [logMessage]

theorem Resynced.scroll (h : Resynced c c') : Resynced { c with stream := (textStreamScroll c.stream).1 }
      { c' with stream := (textStreamScroll c'.stream).1 } := by
  obtain ⟨hp, hd, hr, hk⟩ := h
  have hs : (textStreamScroll c.stream).1.done = (textStreamScroll c'.stream).1.done ∧
      (textStreamScroll c.stream).1.rest = (textStreamScroll c'.stream).1.rest := by
    unfold textStreamScroll
    rw [hd, hr]
    split_ifs <;> exact ⟨rfl, rfl⟩
  exact ⟨hp, hs.1, hs.2, hk⟩

section Receive

variable [TextMessage M] (vt : MessageParserVTable M)

variable {c c' : TextReceiver M κ}

theorem receiveStep_alike (handle : MessageHandler M κ) (h : AlikeReceivers c c') :
    Sum.LiftRel (fun r r' => AlikeReceivers r.1 r'.1 ∧ r.2 = r'.2) AlikeReceivers (receiveStep vt handle c)
      (receiveStep vt handle c') := by
  obtain ⟨hr, ht, hh⟩ := h
  obtain ⟨hp, hs, hst, hm⟩ := alike_run vt hr c.stream
  unfold receiveStep
  dsimp only
  rw [← ht, ← hh, ← hs, ← hst, ← hm]
  split_ifs
  · exact Sum.LiftRel.inl ⟨⟨hp, rfl, rfl⟩, rfl⟩
  · exact Sum.LiftRel.inl ⟨⟨hp, rfl, rfl⟩, rfl⟩
  · exact Sum.LiftRel.inr ⟨hp, rfl, rfl⟩

theorem receiveLoop_alike (handle : MessageHandler M κ) (h : AlikeReceivers c c') :
    AlikeReceivers (receiveLoop vt handle c).1 (receiveLoop vt handle c').1 ∧
      (receiveLoop vt handle c).2 = (receiveLoop vt handle c').2 :=
  whileLoop_related (receiveStep_lowers vt handle) (receiveStep_lowers vt handle) AlikeReceivers
    (fun r r' => AlikeReceivers r.1 r'.1 ∧ r.2 = r'.2) (fun _ _ => receiveStep_alike vt handle) h

/-! ## Parsers that wait for a start line -/

structure StartsWithLine (vt : MessageParserVTable M) (parse : Str → Option M) : Prop where
  onStart : ∀ s, vt.onStart s = ((textLineRead s).1, (textLineRead s).2.bind parse)
  blank : ∀ beyond, parse ⟨[], beyond⟩ = none

theorem receiveLoop_congr (handle : MessageHandler M κ)
    (h : messageParserRun vt c.parser c.stream = messageParserRun vt c'.parser c'.stream)
    (hk : c.handler = c'.handler) : receiveLoop vt handle c = receiveLoop vt handle c' := by
  have hs : receiveStep vt handle c = receiveStep vt handle c' := by
    unfold receiveStep
    rw [h, hk]
  unfold receiveLoop
  rw [whileLoop_eq (receiveStep_lowers vt handle), whileLoop_eq (receiveStep_lowers vt handle) c', hs]

variable {vt} {parse : Str → Option M}

variable {p : MessageParser M} {s : TextStream}

theorem startLineStage_blank (hv : StartsWithLine vt parse) (hp : p.stage = .startLine) (hk : p.skipLf = false)
    {rest : Bytes} (hs : s.rest = tokenLf :: rest) :
    messageParserRun vt p s =
      ⟨p, s.advanceTo rest, if textIsEos (s.advanceTo rest) then .incomplete else .invalid, none⟩ := by
  have hc : lineScan (tokenLf :: rest) = some ([], rest) := by simp [lineScan, tokenLf, tokenCr]
  have hl : textLineRead s = (s.advanceTo rest, some ⟨[], s.ahead⟩) := by
    unfold textLineRead
    rw [hs, hc]
    rfl
  obtain ⟨context, length, stage, skip⟩ := p
  obtain rfl : stage = .startLine := hp
  obtain rfl : skip = false := hk
  simp only [messageParserRun, pendingLfSkip, Bool.false_eq_true, if_false, parserStage, startLineStage, hv.onStart,
    hl, Option.bind_some, hv.blank]

theorem startLineStage_nil (hv : StartsWithLine vt parse) (hp : p.stage = .startLine) (hk : p.skipLf = false)
    (hs : s.rest = []) : messageParserRun vt p s = ⟨p, s.setEos, .incomplete, none⟩ := by
  have hl : textLineRead s = (s.setEos, none) := by
    unfold textLineRead
    rw [hs]
    rfl
  obtain ⟨context, length, stage, skip⟩ := p
  obtain rfl : stage = .startLine := hp
  obtain rfl : skip = false := hk
  simp only [messageParserRun, pendingLfSkip, Bool.false_eq_true, if_false, parserStage, startLineStage, hv.onStart,
    hl, Option.bind_none, textIsEos_setEos, if_true]

theorem messageParserRun_skip (p : MessageParser M) (s : TextStream) :
    messageParserRun vt { p with skipLf := true } s = messageParserRun vt { p with skipLf := false } (textLfSkip s) :=
  rfl

variable {handle : MessageHandler M κ}

theorem receiveLoop_ends (hh : MindsMessages handle) (hm : (messageParserRun vt c.parser c.stream).message = none)
    (he : textIsEos (messageParserRun vt c.parser c.stream).stream) :
    receiveLoop vt handle c =
      (⟨(messageParserRun vt c.parser c.stream).stream, (messageParserRun vt c.parser c.stream).parser, c.handler⟩,
        true) := by
  apply whileLoop_inl (receiveStep_lowers vt handle)
  unfold receiveStep
  dsimp only
  rw [hm, hh, he]
  rfl

theorem receiveLoop_goesOn (hh : MindsMessages handle) (hm : (messageParserRun vt c.parser c.stream).message = none)
    (he : textIsEos (messageParserRun vt c.parser c.stream).stream = false) :
    receiveLoop vt handle c =
      receiveLoop vt handle ⟨(messageParserRun vt c.parser c.stream).stream,
        (messageParserRun vt c.parser c.stream).parser, c.handler⟩ := by
  apply whileLoop_inr (receiveStep_lowers vt handle)
  unfold receiveStep
  dsimp only
  rw [hm, hh, he]
  rfl

theorem receiveLoop_skip (hv : StartsWithLine vt parse) (hh : MindsMessages handle) (hp : p.stage = .startLine)
    (hs : s.isEos = false) (k : κ) : Resynced (receiveLoop vt handle ⟨s, { p with skipLf := true }, k⟩).1
        (receiveLoop vt handle ⟨s, { p with skipLf := false }, k⟩).1 ∧
      (receiveLoop vt handle ⟨s, { p with skipLf := true }, k⟩).2 =
        (receiveLoop vt handle ⟨s, { p with skipLf := false }, k⟩).2 := by
  have hk : receiveLoop vt handle ⟨s, { p with skipLf := true }, k⟩ =
      receiveLoop vt handle ⟨textLfSkip s, { p with skipLf := false }, k⟩ :=
    receiveLoop_congr vt handle (messageParserRun_skip p s) rfl
  rw [hk]
  by_cases hf : ∃ rest, s.rest = tokenLf :: rest
  · obtain ⟨rest, h⟩ := hf
    have hl : textLfSkip s = s.advanceTo rest := by simp [textLfSkip, h, skipLf]
    have hb := startLineStage_blank hv (p := { p with skipLf := false }) hp rfl h
    rw [hl]
    cases rest with
    | nil =>
      have hn := startLineStage_nil hv (p := { p with skipLf := false }) hp rfl
        (s := s.advanceTo []) rfl
      rw [receiveLoop_ends hh (by rw [hn]) (by rw [hn]; exact textIsEos_setEos _),
        receiveLoop_ends hh (by rw [hb]) (by rw [hb]; rfl), hn, hb]
      exact ⟨⟨Or.inl (.refl _), rfl, rfl, rfl⟩, rfl⟩
    | cons ch rest =>
      have he : textIsEos (s.advanceTo (ch :: rest)) = false := by simp [textIsEos, hs]
      rw [receiveLoop_goesOn hh (c := ⟨s, { p with skipLf := false }, k⟩) (by rw [hb])
        (by rw [hb]; exact he), hb]
      exact ⟨.refl _, rfl⟩
  · have hl : textLfSkip s = s := by
      have h : skipLf s.rest = s.rest := by
        cases hr : s.rest with
        | nil => rfl
        | cons ch rest =>
          refine if_neg fun hc => hf ⟨rest, ?_⟩
          rw [hr, hc]
      unfold textLfSkip TextStream.advanceTo
      simp [h]
    rw [hl]
    exact ⟨.refl _, rfl⟩

theorem receiveLoop_restarted (hv : StartsWithLine vt parse) (hh : MindsMessages handle) {p p' : MessageParser M}
    (h : Restarted p p') (hs : s.isEos = false) (k : κ) :
    Resynced (receiveLoop vt handle ⟨s, p, k⟩).1 (receiveLoop vt handle ⟨s, p', k⟩).1 ∧
      (receiveLoop vt handle ⟨s, p, k⟩).2 = (receiveLoop vt handle ⟨s, p', k⟩).2 := by
  have hal : ∀ {p p' : MessageParser M}, Alike p p' →
      Resynced (receiveLoop vt handle ⟨s, p, k⟩).1 (receiveLoop vt handle ⟨s, p', k⟩).1 ∧
        (receiveLoop vt handle ⟨s, p, k⟩).2 = (receiveLoop vt handle ⟨s, p', k⟩).2 := by
    intro p p' hp
    have hal : AlikeReceivers (⟨s, p, k⟩ : TextReceiver M κ) ⟨s, p', k⟩ := ⟨hp, rfl, rfl⟩
    obtain ⟨hc, hl⟩ := receiveLoop_alike vt handle hal
    exact ⟨hc.resynced, hl⟩
  -- a parser that skips an LF finds what one that does not finds, and so do parsers that are alike
  have hk : ∀ {p p' : MessageParser M}, p.stage = .startLine → p'.stage = .startLine → p.skipLf →
      p'.skipLf = false → Resynced (receiveLoop vt handle ⟨s, p, k⟩).1 (receiveLoop vt handle ⟨s, p', k⟩).1 ∧
        (receiveLoop vt handle ⟨s, p, k⟩).2 = (receiveLoop vt handle ⟨s, p', k⟩).2 := by
    intro p p' hp hp' ht hf
    obtain ⟨context, length, stage, skip⟩ := p
    obtain rfl : skip = true := ht
    obtain ⟨hc, hl⟩ := receiveLoop_skip hv hh hp hs k
    obtain ⟨hc', hl'⟩ := hal (p := ⟨context, length, stage, false⟩) (alike_of_startLine hp hp' hf.symm)
    exact ⟨hc.trans hc', hl.trans hl'⟩
  rcases h with ha | ⟨hp, hp'⟩
  · exact hal ha
  · cases ht : p.skipLf with
    | true =>
      cases ht' : p'.skipLf with
      | true => exact hal (alike_of_startLine hp hp' (ht.trans ht'.symm))
      | false => exact hk hp hp' ht ht'
    | false =>
      cases ht' : p'.skipLf with
      | true =>
        obtain ⟨hc, hl⟩ := hk hp' hp ht' ht
        exact ⟨hc.symm, hl.symm⟩
      | false => exact hal (alike_of_startLine hp hp' (ht.trans ht'.symm))

theorem messageReceive_resynced (hv : StartsWithLine vt parse) (hh : MindsMessages handle) (h : Resynced c c')
    (chunk : Bytes) : Resynced (messageReceive vt handle c chunk) (messageReceive vt handle c' chunk) := by
  obtain ⟨s, p, k⟩ := c
  obtain ⟨s', p', k'⟩ := c'
  obtain ⟨hp, hd, -, hk⟩ := h
  subst hk
  have hs : textStreamReceive s chunk = textStreamReceive s' chunk := by
    unfold textStreamReceive
    rw [hd]
  obtain ⟨hc, hf⟩ := receiveLoop_restarted hv hh hp (s := textStreamReceive s' chunk) rfl k
  unfold messageReceive
  dsimp only
  rw [hs, hf]
  split_ifs
  · exact hc.scroll
  · exact hc

variable (vt) in
/-- The messages that a parser finds in what is left of a stream, unless its end is reached, and in the chunks that
are received then. -/
def messagesAfter (p : MessageParser M) (s : TextStream) (chunks : List Bytes) : List M :=
  let c := if textIsEos s then ⟨s, p, []⟩ else (receiveLoop vt logMessage ⟨s, p, []⟩).1
  (chunks.foldl (messageReceive vt logMessage) { c with stream := (textStreamScroll c.stream).1 }).handler

theorem messagesAfter_restarted (hv : StartsWithLine vt parse) {p p' : MessageParser M} (h : Restarted p p')
    (s : TextStream) (chunks : List Bytes) : messagesAfter vt p s chunks = messagesAfter vt p' s chunks := by
  have hf : ∀ {c c' : TextReceiver M (List M)}, Resynced c c' →
      (chunks.foldl (messageReceive vt logMessage) c).handler =
        (chunks.foldl (messageReceive vt logMessage) c').handler := by
    induction chunks with
    | nil => exact fun hc => hc.handler
    | cons chunk chunks ih => exact fun hc => ih (messageReceive_resynced hv logMessage_mindsMessages hc chunk)
  apply hf
  apply Resynced.scroll
  cases he : textIsEos s with
  | true => exact ⟨h, rfl, rfl, rfl⟩
  | false =>
    have hs : s.isEos = false := (textIsEos_eq_false.1 he).2
    exact (receiveLoop_restarted hv logMessage_mindsMessages h hs []).1

/-! ## Headers that are refused -/

open TextMessage in
variable (vt) in
/-- The vtable refuses the header of a message, when its section is completed from a stream. -/
def headerRefusedFrom (m : M) (s : TextStream) : Bool :=
  let r := headerSectionParse (header m) s
  r.2.2 && vt.onHeaderComplete.elim false fun onHeaderComplete => !(onHeaderComplete (setHeader m r.1)).2

variable (vt) in
def headerRefused (p : MessageParser M) (s : TextStream) : Bool :=
  let s := pendingLfSkip p s
  match p.stage, p.context with
  | .startLine, _ => (vt.onStart s).2.elim false fun m => headerRefusedFrom vt m (vt.onStart s).1
  | .header, some m => headerRefusedFrom vt m s
  | _, _ => false

variable {m : M}

theorem bodyStage_startLine (h : (bodyStage vt p m s).status ≠ .incomplete) :
    (bodyStage vt p m s).parser.stage = .startLine := by
  unfold bodyStage at h ⊢
  split_ifs at h ⊢
  · rfl
  · exact absurd rfl h
  · rfl

theorem headerAccepted_startLine (h : (headerAccepted vt p m s).status ≠ .incomplete) :
    (headerAccepted vt p m s).parser.stage = .startLine := by
  unfold headerAccepted at h ⊢
  split_ifs at h ⊢
  · rfl
  · exact bodyStage_startLine h

theorem headerStage_startLine (hr : headerRefusedFrom vt m s = false)
    (h : (headerStage vt p m s).status ≠ .incomplete) : (headerStage vt p m s).parser.stage = .startLine := by
  unfold headerRefusedFrom at hr
  unfold headerStage at h ⊢
  dsimp only at hr h ⊢
  split_ifs at h ⊢ with he
  · exact absurd rfl h
  · cases hc : vt.onHeaderComplete with
    | none =>
      simp only [hc] at h ⊢
      exact headerAccepted_startLine h
    | some onHeaderComplete =>
      simp only [hc] at h hr ⊢
      split_ifs at h ⊢ with hf
      · simp [he, hf] at hr
      · exact headerAccepted_startLine h

theorem stage_of_not_headerRefused (hr : headerRefused vt p s = false)
    (h : (messageParserRun vt p s).status ≠ .incomplete) : (messageParserRun vt p s).parser.stage = .startLine := by
  obtain ⟨context, length, stage, skip⟩ := p
  unfold headerRefused at hr
  unfold messageParserRun parserStage at h ⊢
  cases stage with
  | startLine =>
    unfold startLineStage at h ⊢
    dsimp only at h ⊢
    cases hm : (vt.onStart (pendingLfSkip ⟨context, length, .startLine, skip⟩ s)).2 with
    | none => rfl
    | some m =>
      simp only [hm] at h ⊢
      apply headerStage_startLine _ h
      simpa [hm] using hr
  | header =>
    cases context with
    | none => exact absurd rfl h
    | some m => exact headerStage_startLine hr h
  | body =>
    cases context with
    | none => exact absurd rfl h
    | some m => exact bodyStage_startLine h

/-! ## Messages that are rejected -/

open TextMessage in
def headerCompletedFrom (m : M) (s : TextStream) : Option M :=
  let r := headerSectionParse (header m) s
  if r.2.2 then some (setHeader m r.1) else none

variable (vt) in
def headerCompleted (p : MessageParser M) (s : TextStream) : Option M :=
  let s := pendingLfSkip p s
  match p.stage, p.context with
  | .startLine, _ => (vt.onStart s).2.bind fun m => headerCompletedFrom m (vt.onStart s).1
  | .header, some m => headerCompletedFrom m s
  | _, _ => none

def RunResult.Proper (r : RunResult M) : Prop := r.status ≠ .complete → r.message = none

theorem bodyStage_status : (bodyStage vt p m s).status ≠ .invalid ∧ (bodyStage vt p m s).Proper := by
  unfold bodyStage
  split_ifs
  · exact ⟨nofun, fun h => absurd rfl h⟩
  · exact ⟨nofun, fun _ => rfl⟩
  · exact ⟨nofun, fun h => absurd rfl h⟩

theorem headerAccepted_status : (headerAccepted vt p m s).status ≠ .invalid ∧ (headerAccepted vt p m s).Proper := by
  unfold headerAccepted
  split_ifs
  · exact ⟨nofun, fun h => absurd rfl h⟩
  · exact bodyStage_status

theorem headerStage_proper : (headerStage vt p m s).Proper := by
  unfold headerStage
  dsimp only
  split_ifs
  · exact fun _ => rfl
  · cases vt.onHeaderComplete with
    | none => exact headerAccepted_status.2
    | some onHeaderComplete =>
      dsimp only
      split_ifs
      · exact fun _ => rfl
      · exact headerAccepted_status.2

theorem messageParserRun_proper (p : MessageParser M) (s : TextStream) : (messageParserRun vt p s).Proper := by
  unfold messageParserRun parserStage startLineStage
  dsimp only
  split
  · cases (vt.onStart (pendingLfSkip p s)).2 with
    | none => exact fun _ => rfl
    | some m => exact headerStage_proper
  · exact headerStage_proper
  · exact bodyStage_status.2
  · exact fun _ => rfl

variable {onHeaderComplete : M → M × Bool}

theorem headerStage_invalid {m m' : M} (hv : vt.onHeaderComplete = some onHeaderComplete)
    (h : headerCompletedFrom m s = some m') :
    (headerStage vt p m s).status = .invalid ↔ (onHeaderComplete m').2 = false := by
  unfold headerCompletedFrom at h
  dsimp only at h
  split_ifs at h with he
  obtain rfl := Option.some.inj h
  unfold headerStage
  simp only [he, hv, Bool.true_eq_false, if_false]
  split_ifs with hr
  · exact iff_of_true rfl hr
  · exact iff_of_false headerAccepted_status.1 hr

theorem invalid_iff_refused (hv : vt.onHeaderComplete = some onHeaderComplete) (h : headerCompleted vt p s = some m) :
    (messageParserRun vt p s).status = .invalid ↔ (onHeaderComplete m).2 = false := by
  obtain ⟨context, length, stage, skip⟩ := p
  unfold messageParserRun parserStage
  cases stage with
  | startLine =>
    obtain ⟨start, hs, hf⟩ := Option.bind_eq_some_iff.1 h
    unfold startLineStage
    simp only [hs]
    exact headerStage_invalid hv hf
  | header =>
    cases context with
    | none => cases h
    | some start => exact headerStage_invalid hv h
  | body =>
    cases context with
    | none => cases h
    | some start => cases h

end Receive

end UniMrcp.Apt
