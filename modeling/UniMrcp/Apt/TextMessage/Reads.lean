import UniMrcp.Apt.TextMessage

/-!
# The readers read on

Each reader of a text stream either advances or reaches the end of the stream, so that the loops over them end.
-/

namespace UniMrcp.Apt

open Lib List

@[simp] theorem advanceTo_rest (s : TextStream) (rest : Bytes) : (s.advanceTo rest).rest = rest := rfl
@[simp] theorem advanceTo_isEos (s : TextStream) (rest : Bytes) : (s.advanceTo rest).isEos = s.isEos := rfl
@[simp] theorem advanceTo_beyond (s : TextStream) (rest : Bytes) : (s.advanceTo rest).beyond = s.beyond := rfl
@[simp] theorem setEos_rest (s : TextStream) : s.setEos.rest = s.rest := rfl
@[simp] theorem setEos_done (s : TextStream) : s.setEos.done = s.done := rfl
@[simp] theorem setEos_isEos (s : TextStream) : s.setEos.isEos = true := rfl
@[simp] theorem setEos_beyond (s : TextStream) : s.setEos.beyond = s.beyond := rfl

@[simp] theorem textIsEos_setEos (s : TextStream) : textIsEos s.setEos = true := by simp [textIsEos]

theorem textIsEos_eq_false {s : TextStream} : textIsEos s = false ↔ s.rest ≠ [] ∧ s.isEos = false := by
  simp [textIsEos]

theorem reads_setEos (s : TextStream) : Reads s s.setEos := ⟨suffix_refl _, Or.inl (textIsEos_setEos s)⟩

theorem skipLf_suffix (text : Bytes) : skipLf text <:+ text := by
  cases text with
  | nil => exact suffix_refl _
  | cons ch rest =>
    simp only [skipLf]
    split_ifs
    · exact suffix_cons ch rest
    · exact suffix_refl _

theorem lineScan_suffix {text line rest : Bytes} (h : lineScan text = some (line, rest)) :
    rest <:+ text ∧ rest.length < text.length := by
  induction text generalizing line with
  | nil => simp [lineScan] at h
  | cons ch text ih =>
    unfold lineScan at h
    split_ifs at h
    · obtain ⟨-, rfl⟩ : [] = line ∧ skipLf text = rest := by simpa using h
      exact ⟨(skipLf_suffix text).trans (suffix_cons ch text),
        Nat.lt_succ_of_le (skipLf_suffix text).length_le⟩
    · obtain ⟨-, rfl⟩ : [] = line ∧ text = rest := by simpa using h
      exact ⟨suffix_cons ch text, Nat.lt_succ_self _⟩
    · obtain ⟨r, hr, heq⟩ := Option.map_eq_some_iff.1 h
      obtain ⟨-, rfl⟩ : ch :: r.1 = line ∧ r.2 = rest := by simpa using heq
      obtain ⟨hs, hlt⟩ := ih hr
      exact ⟨hs.trans (suffix_cons ch text), Nat.lt_succ_of_lt hlt⟩

theorem textLineRead_reads (s : TextStream) : Reads s (textLineRead s).1 := by
  unfold textLineRead
  cases h : lineScan s.rest with
  | none => exact reads_setEos s
  | some r =>
    obtain ⟨hs, hlt⟩ := lineScan_suffix h
    exact ⟨hs, Or.inr hlt⟩

theorem headerScan_suffix {pair pair' : PairScan} {text rest : Bytes} (h : headerScan pair text = some (pair', rest)) :
    rest <:+ text ∧ rest.length < text.length := by
  induction text generalizing pair with
  | nil => simp [headerScan] at h
  | cons ch text ih =>
    unfold headerScan at h
    split_ifs at h
    · obtain ⟨-, rfl⟩ : pair = pair' ∧ skipLf text = rest := by simpa using h
      exact ⟨(skipLf_suffix text).trans (suffix_cons ch text),
        Nat.lt_succ_of_le (skipLf_suffix text).length_le⟩
    · obtain ⟨-, rfl⟩ : pair = pair' ∧ text = rest := by simpa using h
      exact ⟨suffix_cons ch text, Nat.lt_succ_self _⟩
    · obtain ⟨hs, hlt⟩ := ih h
      exact ⟨hs.trans (suffix_cons ch text), Nat.lt_succ_of_lt hlt⟩

theorem textHeaderRead_reads (s : TextStream) : Reads s (textHeaderRead s).1 := by
  unfold textHeaderRead
  cases h : headerScan {} s.rest with
  | none => exact reads_setEos s
  | some r =>
    obtain ⟨hs, hlt⟩ := headerScan_suffix h
    exact ⟨hs, Or.inr hlt⟩

/-! ## Folding lines -/

theorem foldingStep_inr {f f' : TextStream × List Bytes} (h : foldingStep f = .inr f') :
    f'.1.rest <:+ f.1.rest ∧ f'.1.rest.length < f.1.rest.length := by
  unfold foldingStep at h
  cases hr : f.1.rest with
  | nil => simp [hr] at h
  | cons ch rest =>
    simp only [hr] at h
    split_ifs at h
    obtain rfl := Sum.inr.inj h
    have hl := (textLineRead_reads (textWhiteSpacesSkip (f.1.advanceTo rest))).suffix
    have hw : (textWhiteSpacesSkip (f.1.advanceTo rest)).rest <:+ rest := dropWhile_suffix _
    have hs := hl.trans hw
    exact ⟨hs.trans (suffix_cons ch rest), Nat.lt_succ_of_le hs.length_le⟩

theorem foldingStep_lowers : Lowers foldingStep fun f => f.1.rest.length := fun _ _ h => (foldingStep_inr h).2

theorem foldingStep_inl {f r : TextStream × List Bytes} (h : foldingStep f = .inl r) : r = f := by
  unfold foldingStep at h
  split at h
  · exact (Sum.inl.inj h).symm
  · split_ifs at h
    exact (Sum.inl.inj h).symm

theorem foldingRead_suffix (s : TextStream) : (foldingRead s).1.rest <:+ s.rest := by
  refine whileLoop_rec foldingStep_lowers (fun f r => r.1.rest <:+ f.1.rest) ?_ ?_ (s, [])
  · intro f r h
    obtain rfl := foldingStep_inl h
    exact suffix_refl _
  · intro f f' r h hr
    exact hr.trans (foldingStep_inr h).1

theorem textHeaderRead_lt {s : TextStream} {pair : Bytes × Bytes} (h : (textHeaderRead s).2 = some pair) :
    (textHeaderRead s).1.rest.length < s.rest.length := by
  unfold textHeaderRead at h ⊢
  cases hs : headerScan {} s.rest with
  | none => simp [hs] at h
  | some r => exact (headerScan_suffix hs).2

theorem headerFieldParse_lt {s : TextStream} {field : HeaderField} (h : (headerFieldParse s).2 = some field) :
    (headerFieldParse s).1.rest <:+ s.rest ∧ (headerFieldParse s).1.rest.length < s.rest.length := by
  have hs := (textHeaderRead_reads s).suffix
  unfold headerFieldParse at h ⊢
  dsimp only at h ⊢
  cases hr : (textHeaderRead s).2 with
  | none => simp [hr] at h
  | some pair =>
    have hlt := textHeaderRead_lt hr
    dsimp only
    split_ifs
    · exact ⟨hs, hlt⟩
    · have hf := foldingRead_suffix (textHeaderRead s).1
      exact ⟨hf.trans hs, Nat.lt_of_le_of_lt hf.length_le hlt⟩

theorem headerFieldParse_reads (s : TextStream) : Reads s (headerFieldParse s).1 := by
  cases h : (headerFieldParse s).2 with
  | some field =>
    obtain ⟨hs, hlt⟩ := headerFieldParse_lt h
    exact ⟨hs, Or.inr hlt⟩
  | none =>
    have hd := textHeaderRead_reads s
    have hm : (headerFieldParse s).1 = (textHeaderRead s).1 := by
      unfold headerFieldParse at h ⊢
      dsimp only at h ⊢
      cases hr : (textHeaderRead s).2 with
      | none => rfl
      | some pair =>
        simp only [hr] at h
        split_ifs at h
    rw [hm]
    exact hd

theorem sectionNext_inr {header : HeaderSection} {s : TextStream} {h : HeaderSection × TextStream}
    (hn : sectionNext header s = .inr h) : h = (header, s) ∧ textIsEos s = false := by
  unfold sectionNext at hn
  split_ifs at hn with he
  exact ⟨(Sum.inr.inj hn).symm, by simpa using he⟩

theorem sectionNext_inl {header : HeaderSection} {s : TextStream} {r : HeaderSectionResult}
    (hn : sectionNext header s = .inl r) : r = (header, s, false) ∧ textIsEos s := by
  unfold sectionNext at hn
  split_ifs at hn with he
  exact ⟨(Sum.inl.inj hn).symm, he⟩

theorem sectionStep_inr {h h' : HeaderSection × TextStream} (hs : sectionStep h = .inr h') :
    h'.2 = (headerFieldParse h.2).1 ∧ h'.2.rest.length < h.2.rest.length := by
  have hr := (headerFieldParse_reads h.2).progress
  unfold sectionStep at hs
  dsimp only at hs
  have hn : h'.2 = (headerFieldParse h.2).1 ∧ textIsEos (headerFieldParse h.2).1 = false := by
    split at hs
    · obtain ⟨rfl, he⟩ := sectionNext_inr hs
      exact ⟨rfl, he⟩
    · split_ifs at hs
      obtain ⟨rfl, he⟩ := sectionNext_inr hs
      exact ⟨rfl, he⟩
  refine ⟨hn.1, ?_⟩
  rw [hn.1]
  rcases hr with he | hlt
  · simp [hn.2] at he
  · exact hlt

theorem sectionStep_lowers : Lowers sectionStep fun h => h.2.rest.length := fun _ _ hs => (sectionStep_inr hs).2

theorem headerSectionParse_reads (header : HeaderSection) (s : TextStream) :
    (headerSectionParse header s).2.1.rest <:+ s.rest ∧
      ((headerSectionParse header s).2.2 = false → textIsEos (headerSectionParse header s).2.1) ∧
      ((headerSectionParse header s).2.2 →
        (headerSectionParse header s).2.1.rest.length < s.rest.length) := by
  refine whileLoop_rec sectionStep_lowers (fun h r => r.2.1.rest <:+ h.2.rest ∧
    (r.2.2 = false → textIsEos r.2.1) ∧ (r.2.2 → r.2.1.rest.length < h.2.rest.length)) ?_ ?_ (header, s)
  · intro h r hs
    have hd := headerFieldParse_reads h.2
    unfold sectionStep at hs
    dsimp only at hs
    split at hs
    · obtain ⟨rfl, he⟩ := sectionNext_inl hs
      exact ⟨hd.suffix, fun _ => he, fun hf => by simp at hf⟩
    · rename_i field hl
      split_ifs at hs
      · obtain rfl := Sum.inl.inj hs
        exact ⟨hd.suffix, fun hf => by simp at hf, fun _ => (headerFieldParse_lt hl).2⟩
      · obtain ⟨rfl, he⟩ := sectionNext_inl hs
        exact ⟨hd.suffix, fun _ => he, fun hf => by simp at hf⟩
  · intro h h' r hs hr
    obtain ⟨heq, hlt⟩ := sectionStep_inr hs
    obtain ⟨hsf, hfa, htr⟩ := hr
    refine ⟨hsf.trans (heq ▸ (headerFieldParse_reads h.2).suffix), hfa, fun ht => ?_⟩
    exact Nat.lt_trans (htr ht) hlt

/-! ## Runs of the parser -/

variable {M : Type}

theorem pendingLfSkip_suffix (p : MessageParser M) (s : TextStream) : (pendingLfSkip p s).rest <:+ s.rest := by
  unfold pendingLfSkip
  split_ifs
  · exact skipLf_suffix s.rest
  · exact suffix_refl _

section Run

variable [TextMessage M] (vt : MessageParserVTable M)

theorem bodyStage_reads (p : MessageParser M) (m : M) (s : TextStream) :
    (bodyStage vt p m s).stream.rest.length ≤ s.rest.length ∧
      (textIsEos (bodyStage vt p m s).stream ∨ (bodyStage vt p m s).parser.stage = .startLine) := by
  unfold bodyStage
  split_ifs with hb hlt
  · exact ⟨Nat.le_refl _, Or.inr rfl⟩
  · have ha : bodyRead p m s = s.rest := take_of_length_le (Nat.le_of_lt hlt)
    refine ⟨by simp, Or.inl ?_⟩
    simp [ha, textIsEos]
  · exact ⟨by simp [bodyComplete, messageComplete], Or.inr rfl⟩

theorem headerAccepted_reads (p : MessageParser M) (m : M) (s : TextStream) :
    (headerAccepted vt p m s).stream.rest.length ≤ s.rest.length := by
  unfold headerAccepted
  split_ifs
  · exact Nat.le_refl _
  · exact (bodyStage_reads vt _ _ s).1

theorem headerStage_reads (p : MessageParser M) (m : M) (s : TextStream) :
    textIsEos (headerStage vt p m s).stream = true ∨ (headerStage vt p m s).stream.rest.length < s.rest.length := by
  obtain ⟨-, hf, ht⟩ := headerSectionParse_reads (TextMessage.header m) s
  unfold headerStage
  dsimp only
  split_ifs with he
  · exact Or.inl (hf he)
  · have hlt := ht (by simpa using he)
    right
    split
    · exact Nat.lt_of_le_of_lt (headerAccepted_reads vt _ _ _) hlt
    · split_ifs
      · exact hlt
      · exact Nat.lt_of_le_of_lt (headerAccepted_reads vt _ _ _) hlt

theorem startLineStage_reads (p : MessageParser M) (s : TextStream) :
    textIsEos (startLineStage vt p s).stream = true ∨ (startLineStage vt p s).stream.rest.length < s.rest.length := by
  have hs := vt.onStart_reads s
  have hle := hs.suffix.length_le
  unfold startLineStage
  dsimp only
  split
  · exact hs.progress
  · rcases headerStage_reads vt _ _ (vt.onStart s).1 with he | hlt
    · exact Or.inl he
    · exact Or.inr (Nat.lt_of_lt_of_le hlt hle)

theorem parserStage_reads (p : MessageParser M) (s : TextStream) :
    textIsEos (parserStage vt p s).stream = true ∨
      (parserStage vt p s).stream.rest.length < s.rest.length ∨
      (parserStage vt p s).stream.rest.length ≤ s.rest.length ∧ p.stage = .body ∧
        (parserStage vt p s).parser.stage = .startLine := by
  unfold parserStage
  split
  · exact (startLineStage_reads vt p s).imp_right Or.inl
  · exact (headerStage_reads vt p _ s).imp_right Or.inl
  · rename_i ht _
    obtain ⟨hle, he | hs⟩ := bodyStage_reads vt p _ s
    · exact Or.inl he
    · exact Or.inr (Or.inr ⟨hle, ht, hs⟩)
  · exact Or.inl (textIsEos_setEos s)

theorem receiveStep_lowers {κ : Type} (handle : MessageHandler M κ) :
    Lowers (receiveStep vt handle) TextReceiver.measure := by
  intro c c' hs
  unfold receiveStep at hs
  dsimp only at hs
  split_ifs at hs with _ he
  obtain rfl := Sum.inr.inj hs
  have hk := (pendingLfSkip_suffix c.parser c.stream).length_le
  have hr := parserStage_reads vt { c.parser with skipLf := false } (pendingLfSkip c.parser c.stream)
  unfold TextReceiver.measure
  unfold messageParserRun at he ⊢
  dsimp only at hr ⊢
  rcases hr with h | hlt | ⟨hle, hb, ht⟩
  · exact absurd h he
  · split_ifs <;> omega
  · rw [if_neg (by rw [ht]; simp), if_pos hb]
    omega

end Run

end UniMrcp.Apt
