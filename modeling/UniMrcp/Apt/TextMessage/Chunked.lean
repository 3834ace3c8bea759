import UniMrcp.Apt.TextMessage.Generator

/-!
# Messages that are sent in pieces

A message whose start line and header section fit into the buffer is sent as it would be generated into a buffer that
is large enough for all of it, whatever the size of the buffer.
-/

namespace UniMrcp.Apt

open TextMessage List Body

variable {M : Type} [TextMessage M] (vt : MessageGeneratorVTable M)

def Body.Held (body : Body) : Prop := body.length ≤ (body.buf.getD []).length

instance (body : Body) : Decidable body.Held := inferInstanceAs (Decidable (body.length ≤ (body.buf.getD []).length))

def Body.between (body : Body) (start stop : Nat) : Bytes := ((body.buf.getD []).drop start).take (stop - start)

theorem Body.between_append (body : Body) {start middle stop : Nat} (h : start ≤ middle) (h' : middle ≤ stop) :
    body.between start middle ++ body.between middle stop = body.between start stop := by
  have hd : (body.buf.getD []).drop middle = ((body.buf.getD []).drop start).drop (middle - start) := by
    rw [drop_drop, Nat.add_sub_cancel' h]
  have hs : stop - start = (middle - start) + (stop - middle) := by omega
  rw [between, between, between, hd, hs, take_add]

theorem Body.length_between {body : Body} (start : Nat) {stop : Nat} (h : stop ≤ (body.buf.getD []).length) :
    (body.between start stop).length = stop - start := by
  rw [between, length_take, length_drop]
  omega

theorem Body.between_zero (body : Body) : body.between 0 body.length = body.text := rfl

/-! ## The body -/

section Bodies

variable {body' : Body} {written total : Nat}

theorem bodyWrite_all (room : Nat) (hlt : written < total) (hr : total - written ≤ room) (text : Bytes)
    (hh : total ≤ (body'.buf.getD []).length) :
    bodyWrite total { body' with length := written } ⟨text, room⟩ =
      ({ body' with length := total },
        ⟨text ++ body'.between written total, ((room - (total - written) : Nat) : Int)⟩, true) := by
  have hl := length_between written hh
  have ht : ((body'.buf.getD []).drop written).take (total - written) = body'.between written total := rfl
  simp only [bodyWrite, hlt, if_true, Int.toNat_natCast, Nat.min_eq_left hr, hr, decide_true, TextBuffer.put,
    ht, hl]
  rw [Nat.add_sub_cancel' (Nat.le_of_lt hlt), Int.ofNat_sub hr]

theorem bodyWrite_part (room : Nat) (hr : room < total - written) (text : Bytes)
    (hh : total ≤ (body'.buf.getD []).length) :
    bodyWrite total { body' with length := written } ⟨text, room⟩ =
      ({ body' with length := written + room }, ⟨text ++ body'.between written (written + room), 0⟩, false) := by
  have hl : (body'.between written (written + room)).length = room := by
    rw [length_between _ (by omega)]
    omega
  have ht : ((body'.buf.getD []).drop written).take room = body'.between written (written + room) := by
    rw [between, Nat.add_sub_cancel_left]
  have hlt : written < total := by omega
  simp only [bodyWrite, hlt, if_true, Int.toNat_natCast, Nat.min_eq_right (Nat.le_of_lt hr), TextBuffer.put, ht,
    hl, Int.sub_self, decide_eq_false (Nat.not_le.2 hr)]

variable {g : MessageGenerator} {m : M}

theorem bodyGenerate_all (room : Nat) (hb : body m = { body' with length := written }) (hlt : written < g.contentLength)
    (hr : g.contentLength - written ≤ room) (text : Bytes)
    (hh : g.contentLength ≤ (body'.buf.getD []).length) :
    bodyGenerate g m ⟨text, room⟩ =
      ⟨{ g with stage := .startLine }, setBody m { body' with length := g.contentLength },
        ⟨text ++ body'.between written g.contentLength, ((room - (g.contentLength - written) : Nat) : Int)⟩,
        .complete⟩ := by
  simp [bodyGenerate, hb, bodyWrite_all room hlt hr text hh]

theorem bodyGenerate_part (room : Nat) (hb : body m = { body' with length := written })
    (hr : room < g.contentLength - written) (text : Bytes)
    (hh : g.contentLength ≤ (body'.buf.getD []).length) :
    bodyGenerate g m ⟨text, room⟩ =
      ⟨g, setBody m { body' with length := written + room },
        ⟨text ++ body'.between written (written + room), 0⟩, .incomplete⟩ := by
  simp [bodyGenerate, hb, bodyWrite_part room hr text hh, messageGeneratorBreak]

theorem messageGeneratorRun_body {address : Nat} (hc : g.context = some address) (hs : g.stage = .body)
    (b : TextBuffer) : messageGeneratorRun vt g address m b = bodyGenerate g m b := by
  simp [messageGeneratorRun, MessageGenerator.enter, hc, hs]

theorem messageSend_body (size address : Nat) (hz : 0 < size) (ht : g.context = some address)
    (hs : g.stage = .body) (hb : body m = { body' with length := written }) (hlt : written < g.contentLength)
    (hh : g.contentLength ≤ (body'.buf.getD []).length) :
    ∃ calls chunks, messageSend vt size address calls g m =
        some ⟨{ g with stage := .startLine }, setBody m { body' with length := g.contentLength }, chunks, .complete⟩ ∧
      chunks.flatten = body'.between written g.contentLength ∧ ∀ chunk ∈ chunks, chunk ≠ [] := by
  induction hrs : g.contentLength - written using Nat.strongRecOn generalizing m written with
  | ind rest ih =>
    have hr : messageGeneratorRun vt g address m (textBufferInit size) = bodyGenerate g m ⟨[], (size : Nat)⟩ :=
      messageGeneratorRun_body vt ht hs _
    rcases Nat.lt_or_ge size (g.contentLength - written) with hm | hl
    · have hp := bodyGenerate_part size hb hm [] hh
      obtain ⟨calls, chunks, h, hx, hn⟩ := ih (g.contentLength - (written + size)) (by omega)
        (body_setBody m { body' with length := written + size }) (by omega) rfl
      refine ⟨calls + 1, body'.between written (written + size) :: chunks, ?_, ?_, ?_⟩
      · simp [messageSend, hr, hp, h, setBody_setBody]
      · rw [flatten_cons, hx, between_append body' (by omega) (by omega)]
      · intro chunk hc
        rcases mem_cons.1 hc with rfl | hc
        · rw [← length_pos_iff, length_between _ (by omega)]
          omega
        · exact hn chunk hc
    · have ha := bodyGenerate_all size hb hlt hl [] hh
      refine ⟨1, [body'.between written g.contentLength], ?_, ?_, ?_⟩
      · simp [messageSend, hr, ha]
      · simp
      · intro chunk hc
        rw [mem_singleton.1 hc, ← length_pos_iff, length_between _ hh]
        omega

end Bodies

/-! ## Generators -/

/-- The generator is about to generate a start line when it is called for the message at an address. -/
def MessageGenerator.Ready (g : MessageGenerator) (address : Nat) : Prop :=
  g.stage = .startLine ∨ g.context ≠ some address

variable {address : Nat}

theorem MessageGenerator.Ready.enter {g : MessageGenerator} (h : g.Ready address) :
    g.enter address = ⟨some address, g.contentLength, .startLine⟩ := by
  unfold MessageGenerator.enter
  split
  next hc =>
    rcases h with h | h
    · rw [← hc, ← h]
    · exact absurd hc h
  next => rfl

theorem messageGeneratorRun_ready {g : MessageGenerator} (h : g.Ready address) (m : M) (b : TextBuffer) :
    messageGeneratorRun vt g address m b = startGenerate vt ⟨some address, g.contentLength, .startLine⟩ m b := by
  simp [messageGeneratorRun, h.enter]

def Sent.seen (sent : Sent M) : M × List Bytes × MessageStatus := (sent.message, sent.chunks, sent.status)

/-- Whatever message comes next, the generator sends it as a new generator does. -/
def MessageGenerator.AsNew (g : MessageGenerator) : Prop :=
  ∀ (m : M) (size address calls : Nat), (messageSend vt size address calls g m).map Sent.seen =
    (messageSend vt size address calls messageGeneratorCreate m).map Sent.seen

structure MessageGenerator.Agrees (g g' : MessageGenerator) : Prop where
  context : g.context = g'.context
  stage : g.stage = g'.stage
  contentLength : g.stage = .body → g.contentLength = g'.contentLength

theorem MessageGenerator.Agrees.of_body {g g' : MessageGenerator} (h : g.Agrees g') (hs : g.stage = .body) :
    g = g' := by
  obtain ⟨context, contentLength, stage⟩ := g
  obtain ⟨context', contentLength', stage'⟩ := g'
  obtain ⟨rfl, rfl, hl⟩ := h
  rw [show contentLength = contentLength' from hl hs]

structure GeneratorResult.Agrees (r r' : GeneratorResult M) : Prop where
  generator : r.generator.Agrees r'.generator
  message : r.message = r'.message
  stream : r.stream = r'.stream
  status : r.status = r'.status

omit [TextMessage M] in
theorem GeneratorResult.Agrees.refl (r : GeneratorResult M) : r.Agrees r :=
  ⟨⟨rfl, rfl, fun _ => rfl⟩, rfl, rfl, rfl⟩

theorem startGenerate_agrees {g g' : MessageGenerator} (h : g.Agrees g') (m : M) (b : TextBuffer) :
    (startGenerate vt g m b).Agrees (startGenerate vt g' m b) := by
  unfold startGenerate
  simp only [h.context]
  split
  · exact ⟨h, rfl, rfl, rfl⟩
  · split
    · exact .refl _
    · exact .refl _

theorem messageGeneratorRun_agrees {g g' : MessageGenerator} (h : (g.enter address).Agrees (g'.enter address)) (m : M)
    (b : TextBuffer) : (messageGeneratorRun vt g address m b).Agrees (messageGeneratorRun vt g' address m b) := by
  have hs' := h.stage.symm
  unfold messageGeneratorRun
  cases hs : (g.enter address).stage with
  | startLine =>
    simp only [hs, hs']
    exact startGenerate_agrees vt h m b
  | body =>
    rw [hs] at hs'
    simp only [hs', h.of_body hs]
    exact .refl _
  | header =>
    simp only [hs, hs']
    exact ⟨h, rfl, rfl, rfl⟩

theorem MessageGenerator.Agrees.enter {g g' : MessageGenerator} (h : g.Agrees g') (address : Nat) :
    (g.enter address).Agrees (g'.enter address) := by
  unfold MessageGenerator.enter
  rw [← h.context]
  split
  · exact h
  · exact ⟨rfl, rfl, nofun⟩

theorem messageSend_agrees {size address : Nat} (calls : Nat) {g g' : MessageGenerator}
    (h : (g.enter address).Agrees (g'.enter address)) (m : M) :
    (messageSend vt size address calls g m).map Sent.seen =
      (messageSend vt size address calls g' m).map Sent.seen := by
  induction calls generalizing g g' m with
  | zero => rfl
  | succ calls ih =>
    obtain ⟨hg, hm, hb, hs⟩ := messageGeneratorRun_agrees vt h m (textBufferInit size)
    simp only [messageSend, ← hs]
    cases ht : (messageGeneratorRun vt g address m (textBufferInit size)).status with
    | complete => simp [Sent.seen, hm, hb]
    | invalid => simp [Sent.seen, hm]
    | incomplete =>
      have hr := ih (hg.enter address) (messageGeneratorRun vt g address m (textBufferInit size)).message
      rw [← hb, ← hm]
      have hc := congrArg (Option.map fun seen : M × List Bytes × MessageStatus =>
        (seen.1, (messageGeneratorRun vt g address m (textBufferInit size)).stream.text :: seen.2.1, seen.2.2)) hr
      simpa [Option.map_map, Function.comp_def, Sent.seen] using hc

theorem asNew_of_startLine {g : MessageGenerator} (h : g.stage = .startLine) : g.AsNew vt := by
  intro m size address calls
  apply messageSend_agrees
  rw [MessageGenerator.Ready.enter (Or.inl h), MessageGenerator.Ready.enter (Or.inl rfl)]
  exact ⟨rfl, rfl, nofun⟩

/-! ## Messages -/

/-- The start line and the header section take up so many bytes, and are generated into every larger buffer in the same
way. -/
def HeaderText (m : M) (need : Nat) (m' : M) (text : Bytes) (ok : Bool) : Prop :=
  ∀ size, need < size →
    headerGenerate vt m (textBufferInit size) = (m', ⟨text, ((size - need : Nat) : Int)⟩, ok)

def GeneratorResult.emitted (r : GeneratorResult M) : Bytes := if r.status = .invalid then [] else r.stream.text

/-- With every buffer of more than `need` bytes, the calls that send a message come to an end. Their text is what one
call generates, and the generator is ready for the next message. -/
def SentAsWhole (m : M) (need : Nat) : Prop :=
  ∀ (g : MessageGenerator) (address size whole : Nat), g.Ready address → need < size → need < whole →
    need + (body m).length ≤ whole → ∃ calls sent, messageSend vt size address calls g m = some sent ∧
      (messageGeneratorRun vt g address m (textBufferInit whole)).status ≠ .incomplete ∧
      sent.status = (messageGeneratorRun vt g address m (textBufferInit whole)).status ∧
      sent.chunks.flatten = (messageGeneratorRun vt g address m (textBufferInit whole)).emitted ∧
      (∀ chunk ∈ sent.chunks.tail, chunk ≠ []) ∧ body sent.message = body m ∧ sent.generator.AsNew vt

variable {vt} {m m' : M} {need : Nat} {text : Bytes}

variable {size room : Nat}

theorem startGenerate_refused (h : headerGenerate vt m (textBufferInit size) = (m', ⟨text, room⟩, false))
    (hr : 0 < room) (g : MessageGenerator) :
    startGenerate vt g m (textBufferInit size) = ⟨g, m', ⟨text, room⟩, .invalid⟩ := by
  have hne : ¬room = 0 := by omega
  simp [startGenerate, h, messageGeneratorBreak, hne]

theorem startGenerate_noBody (h : headerGenerate vt m (textBufferInit size) = (m', ⟨text, room⟩, true))
    (hb : (body m').length = 0) (g : MessageGenerator) :
    startGenerate vt g m (textBufferInit size) =
      ⟨{ g with contentLength := 0, stage := .startLine }, m', ⟨text, room⟩, .complete⟩ := by
  simp [startGenerate, h, hb]

theorem startGenerate_body (h : headerGenerate vt m (textBufferInit size) = (m', ⟨text, room⟩, true))
    (hb : (body m').length ≠ 0) (g : MessageGenerator) :
    startGenerate vt g m (textBufferInit size) =
      bodyGenerate { g with contentLength := (body m').length, stage := .body }
        (setBody m' { body m' with length := 0 }) ⟨text, room⟩ := by
  simp [startGenerate, h, hb]

theorem messageSend_startGenerate (h : headerGenerate vt m (textBufferInit size) = (m', ⟨text, room⟩, true))
    (hh : (body m').Held) (hsz : 0 < size) {g : MessageGenerator} (hd : g.Ready address) :
    ∃ calls sent, messageSend vt size address calls g m = some sent ∧ sent.generator.stage = .startLine ∧
      sent.status = .complete ∧ body sent.message = body m' ∧ sent.chunks.flatten = text ++ (body m').text ∧
      ∀ chunk ∈ sent.chunks.tail, chunk ≠ [] := by
  have hr := messageGeneratorRun_ready vt hd m
  by_cases he : (body m').length = 0
  · refine ⟨1, ⟨⟨some address, 0, .startLine⟩, m', [text], .complete⟩, ?_, rfl, rfl, rfl, ?_, nofun⟩
    · simp [messageSend, hr, startGenerate_noBody h he]
    · simp [Body.text, he]
  · have hz := body_setBody m' { body m' with length := 0 }
    have hf := startGenerate_body h he ⟨some address, g.contentLength, .startLine⟩
    rcases Nat.lt_or_ge room (body m').length with hs | hl
    · have hp := bodyGenerate_part (g := ⟨some address, (body m').length, .body⟩) room hz
        (by simpa using hs) text hh
      rw [Nat.zero_add, setBody_setBody] at hp
      obtain ⟨calls, chunks, hsn, ht, hc⟩ := messageSend_body vt size address
        (g := ⟨some address, (body m').length, .body⟩) hsz rfl rfl
        (body_setBody m' { body m' with length := room }) hs hh
      refine ⟨calls + 1, ⟨⟨some address, (body m').length, .startLine⟩, setBody m' (body m'),
        (text ++ (body m').between 0 room) :: chunks, .complete⟩, ?_, rfl, rfl, body_setBody .., ?_, hc⟩
      · rw [setBody_setBody] at hsn
        simp only [messageSend, hr, hf, hp, hsn, Option.map_some]
      · rw [flatten_cons, ht, append_assoc, between_append _ (Nat.zero_le _) (Nat.le_of_lt hs),
          between_zero]
    · have hn := bodyGenerate_all (g := ⟨some address, (body m').length, .body⟩) room hz
        (Nat.pos_of_ne_zero he) (by simpa using hl) text hh
      rw [setBody_setBody] at hn
      refine ⟨1, ⟨⟨some address, (body m').length, .startLine⟩, setBody m' (body m'),
        [text ++ (body m').text], .complete⟩, ?_, rfl, rfl, body_setBody .., by simp, nofun⟩
      simp only [messageSend, hr, hf, hn, between_zero]

theorem messageGeneratorRun_whole (h : headerGenerate vt m (textBufferInit size) = (m', ⟨text, room⟩, true))
    (hh : (body m').Held) (ha : (body m').length ≤ room) {g : MessageGenerator} (hr : g.Ready address) :
    (messageGeneratorRun vt g address m (textBufferInit size)).status = .complete ∧
      (messageGeneratorRun vt g address m (textBufferInit size)).stream.text = text ++ (body m').text := by
  rw [messageGeneratorRun_ready vt hr]
  by_cases he : (body m').length = 0
  · rw [startGenerate_noBody h he]
    simp [Body.text, he]
  · have hn := bodyGenerate_all (g := ⟨some address, (body m').length, .body⟩) room
      (body_setBody m' { body m' with length := 0 }) (Nat.pos_of_ne_zero he) ha text hh
    rw [startGenerate_body h he, hn]
    exact ⟨rfl, rfl⟩

theorem sentAsWhole {ok : Bool} (h : HeaderText vt m need m' text ok) (hb : body m' = body m)
    (hh : (body m).Held) : SentAsWhole vt m need := by
  intro g address size whole hr hs hw ha
  have hn := messageGeneratorRun_ready vt hr m
  cases ok with
  | false =>
    refine ⟨1, ⟨⟨some address, g.contentLength, .startLine⟩, m', [], .invalid⟩, ?_, ?_⟩
    · simp [messageSend, hn, startGenerate_refused (h size hs) (Nat.sub_pos_of_lt hs)]
    · rw [hn, startGenerate_refused (h whole hw) (Nat.sub_pos_of_lt hw)]
      exact ⟨nofun, rfl, rfl, nofun, hb, asNew_of_startLine vt rfl⟩
  | true =>
    rw [← hb] at hh ha
    obtain ⟨calls, sent, hsn, ht, hsta, hb', hx, hc⟩ :=
      messageSend_startGenerate (h size hs) hh (Nat.zero_lt_of_lt hs) hr
    obtain ⟨hw, hst⟩ := messageGeneratorRun_whole (h whole hw) hh (by omega) hr
    refine ⟨calls, sent, hsn, ?_, hsta.trans hw.symm, ?_, hc, hb'.trans hb,
      asNew_of_startLine vt ht⟩
    · rw [hw]
      exact nofun
    · rw [hx, GeneratorResult.emitted, hw, hst]
      rfl

end UniMrcp.Apt
