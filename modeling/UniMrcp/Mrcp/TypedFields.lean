import Mathlib.Tactic.IntervalCases
import UniMrcp.Mrcp.Resources.RecogHeader
import UniMrcp.Mrcp.Resources.RecorderHeader
import UniMrcp.Mrcp.Resources.SynthHeader
import UniMrcp.Mrcp.Resources.VerifierHeader

/-!
# The typed values of headers

The data of a header is one typed value for each header field. What a header parses, generates and duplicates for a
field depends on the kind of the value only.
-/

namespace UniMrcp.Mrcp

open Lib Apt

/-! ## Values -/

structure CauseTable where
  items : List StrTableItem
  small : items.length ≤ 1000

inductive TypedValue
  | string (value : Bytes)
  | size (value : Nat)
  | decimal (value : ℚ)
  | percentage (value : ℚ)
  | boolean (value : Bool)
  | voiceGender (value : Nat)
  | cause (table : CauseTable) (value : Nat)
  | character (value : UInt8)
  | speechLength (value : SpeechLengthValue)
  | prosodyVolume (value : ProsodyVolume)
  | prosodyRate (value : ProsodyRate)
  | requestIds (value : List Nat)
  | pairs (value : Option (List (Bytes × Bytes)))

/-- The value that is read from a text, where there was another one. -/
def TypedValue.parse (old : TypedValue) (text : Bytes) : TypedValue :=
  match old with
  | .string _ => .string text
  | .size _ => .size (sizeValueParse ⟨text, []⟩)
  | .decimal _ => .decimal (floatValueParse ⟨text, []⟩)
  | .percentage _ => .percentage (sizeValueParseAsFloat text)
  | .boolean old => .boolean (booleanValueParse text old).1
  | .voiceGender _ => .voiceGender (stringTableIdFind voiceGenderStringTable voiceGenderCount text)
  | .cause table _ => .cause table (completionCauseParse text)
  | .character _ => .character (text.headD 0)
  | .speechLength old => .speechLength (speechLengthValueParse old text).1
  | .prosodyVolume old => .prosodyVolume (prosodyVolumeParse old text).1
  | .prosodyRate old => .prosodyRate (prosodyRateParse old text).1
  | .requestIds _ => .requestIds (requestIdListParse text)
  | .pairs old => .pairs (some (pairArrayParse (old.getD []) text))

/-- The text that is generated for a value, which is empty if none is. -/
def TypedValue.generate : TypedValue → Bytes
  | .string value => value
  | .size value => Mrcp.decimal value
  | .decimal value => floatValueGenerate value
  | .percentage value => sizeValueGenerateFromFloat value
  | .boolean value => booleanValueGenerate value
  | .voiceGender value => (stringTableValueGenerate voiceGenderStringTable voiceGenderCount value).1
  | .cause table value => (completionCauseGenerate table.items table.items.length value).getD []
  | .character value => [value]
  | .speechLength value => (speechLengthGenerate value).1
  | .prosodyVolume value => prosodyVolumeGenerate value
  | .prosodyRate value => prosodyRateGenerate value
  | .requestIds value => requestIdListGenerate value
  | .pairs value => (pairArrayGenerate value).getD []

def TypedValue.duplicate (old src : TypedValue) (text : Bytes) : TypedValue :=
  match old with
  | .string _ => .string text
  | .requestIds old => .requestIds old
  | _ => src

/-! ## Headers -/

def synthCompletionCauses : CauseTable := ⟨synthCompletionCauseStringTable, by decide⟩
def recorderCompletionCauses : CauseTable := ⟨recorderCompletionCauseStringTable, by decide⟩
def verifierCompletionCauses : CauseTable := ⟨verifierCompletionCauseStringTable, by decide⟩

def recogCompletionCauses : Version → CauseTable
  | .v1 => ⟨v1RecogCompletionCauseStringTable, by decide⟩
  | _ => ⟨v2RecogCompletionCauseStringTable, by decide⟩

/-- A value of the recognizer between 0 and 1, which MRCPv1 has as a percentage. -/
def thresholdValue : Version → ℚ → TypedValue
  | .v1 => .percentage
  | _ => .decimal

/-- The values of a generic header, in the order of the header fields. -/
def GenericHeader.values (h : GenericHeader) : List TypedValue :=
  [.requestIds h.activeRequestIdList, .string h.proxySyncId, .string h.acceptCharset, .string h.contentType,
    .string h.contentId, .string h.contentBase, .string h.contentEncoding, .string h.contentLocation,
    .size h.contentLength, .string h.cacheControl, .string h.loggingTag, .pairs h.vendorSpecificParams,
    .string h.accept, .size h.fetchTimeout, .string h.setCookie, .string h.setCookie2]

def SynthHeader.values (h : SynthHeader) : List TypedValue :=
  [.speechLength h.jumpSize, .boolean h.killOnBargeIn, .string h.speakerProfile,
    .cause synthCompletionCauses h.completionCause, .string h.completionReason, .voiceGender h.voiceParam.gender,
    .size h.voiceParam.age, .size h.voiceParam.variant, .string h.voiceParam.name,
    .prosodyVolume h.prosodyParam.volume, .prosodyRate h.prosodyParam.rate, .string h.speechMarker,
    .string h.speechLanguage, .string h.fetchHint, .string h.audioFetchHint, .string h.failedUri,
    .string h.failedUriCause, .boolean h.speakRestart, .speechLength h.speakLength, .boolean h.loadLexicon,
    .string h.lexiconSearchOrder]

def RecogHeader.values (version : Version) (h : RecogHeader) : List TypedValue :=
  [thresholdValue version h.confidenceThreshold, thresholdValue version h.sensitivityLevel,
    thresholdValue version h.speedVsAccuracy, .size h.nBestListLength, .size h.noInputTimeout,
    .size h.recognitionTimeout, .string h.waveformUri, .cause (recogCompletionCauses version) h.completionCause,
    .string h.recognizerContextBlock, .boolean h.startInputTimers, .size h.speechCompleteTimeout,
    .size h.speechIncompleteTimeout, .size h.dtmfInterdigitTimeout, .size h.dtmfTermTimeout,
    .character h.dtmfTermChar, .string h.failedUri, .string h.failedUriCause, .boolean h.saveWaveform,
    .boolean h.newAudioChannel, .string h.speechLanguage, .string h.inputType, .string h.inputWaveformUri,
    .string h.completionReason, .string h.mediaType, .boolean h.verBufferUtterance, .string h.recognitionMode,
    .boolean h.cancelIfQueue, .size h.hotwordMaxDuration, .size h.hotwordMinDuration, .string h.interpretText,
    .size h.dtmfBufferTime, .boolean h.clearDtmfBuffer, .boolean h.earlyNoMatch,
    .size h.numMinConsistentPronunciations, .decimal h.consistencyThreshold, .decimal h.clashThreshold,
    .string h.personalGrammarUri, .boolean h.enrollUtterance, .string h.phraseId, .string h.phraseNl,
    .decimal h.weight, .boolean h.saveBestWaveform, .string h.newPhraseId, .string h.confusablePhrasesUri,
    .boolean h.abortPhraseEnrollment]

def RecorderHeader.values (h : RecorderHeader) : List TypedValue :=
  [.decimal h.sensitivityLevel, .size h.noInputTimeout, .cause recorderCompletionCauses h.completionCause,
    .string h.completionReason, .string h.failedUri, .string h.failedUriCause, .string h.recordUri,
    .string h.mediaType, .size h.maxTime, .size h.trimLength, .size h.finalSilence, .boolean h.captureOnSpeech,
    .boolean h.verBufferUtterance, .boolean h.startInputTimers, .boolean h.newAudioChannel]

def VerifierHeader.values (h : VerifierHeader) : List TypedValue :=
  [.string h.repositoryUri, .string h.voiceprintIdentifier, .string h.verificationMode, .boolean h.adaptModel,
    .boolean h.abortModel, .decimal h.minVerificationScore, .size h.numMinVerificationPhrases,
    .size h.numMaxVerificationPhrases, .size h.noInputTimeout, .boolean h.saveWaveform, .string h.mediaType,
    .string h.waveformUri, .boolean h.voiceprintExists, .boolean h.verBufferUtterance, .string h.inputWaveformUri,
    .cause verifierCompletionCauses h.completionCause, .string h.completionReason, .size h.speechCompleteTimeout,
    .boolean h.newAudioChannel, .boolean h.abortVerification, .boolean h.startInputTimers]

inductive HeaderKind
  | generic
  | synthesizer
  | recognizer (version : Version)
  | recorder
  | verifier

abbrev HeaderKind.Data : HeaderKind → Type
  | .generic => GenericHeader
  | .synthesizer => SynthHeader
  | .recognizer _ => RecogHeader
  | .recorder => RecorderHeader
  | .verifier => VerifierHeader

def HeaderKind.vtable : (kind : HeaderKind) → FullHeaderVTable kind.Data
  | .generic => genericHeaderFullVTable
  | .synthesizer => synthHeaderVTable
  | .recognizer version => recogHeaderVTable version
  | .recorder => recorderHeaderVTable
  | .verifier => verifierHeaderVTable

def HeaderKind.values : (kind : HeaderKind) → kind.Data → List TypedValue
  | .generic => GenericHeader.values
  | .synthesizer => SynthHeader.values
  | .recognizer version => RecogHeader.values version
  | .recorder => RecorderHeader.values
  | .verifier => VerifierHeader.values

/-! ## What headers do with values -/

def TypedValue.Generates : TypedValue → Prop
  | .cause table value => value < table.items.length
  | _ => True

/-- **A header treats each of its values by its kind.** -/
structure Codes {D : Type} (vtable : FullHeaderVTable D) (values : D → List TypedValue) : Prop where
  length : ∀ h, (values h).length = vtable.fieldCount
  parse : ∀ h id text, id < vtable.fieldCount → (vtable.parseField h id text).2 ∧
    values (vtable.parseField h id text).1 = (values h).modify id (·.parse text)
  generate : ∀ h id value, (values h)[id]? = some value → (vtable.generateField h id).1 = value.generate ∧
    (value.Generates → (vtable.generateField h id).2)
  duplicate : ∀ h src id text value, (values src)[id]? = some value →
    values (vtable.duplicateField h src id text).1 = (values h).modify id (·.duplicate value text)

theorem generic_codes : Codes genericHeaderFullVTable GenericHeader.values where
  length _ := rfl
  parse h id text hid := by
    have hid : id < 16 := hid
    interval_cases id <;> exact ⟨rfl, rfl⟩
  generate h id value hv := by
    have hid : id < 16 := (List.getElem?_eq_some_iff.1 hv).1
    interval_cases id <;> cases hv <;> exact ⟨rfl, fun _ => rfl⟩
  duplicate h src id text value hv := by
    have hid : id < 16 := (List.getElem?_eq_some_iff.1 hv).1
    interval_cases id <;> cases hv <;> rfl

theorem synth_codes : Codes synthHeaderVTable SynthHeader.values where
  length _ := rfl
  parse h id text hid := by
    have hid : id < 21 := hid
    interval_cases id <;> exact ⟨rfl, rfl⟩
  generate h id value hv := by
    have hid : id < 21 := (List.getElem?_eq_some_iff.1 hv).1
    interval_cases id <;> cases hv <;> exact ⟨rfl, fun _ => rfl⟩
  duplicate h src id text value hv := by
    have hid : id < 21 := (List.getElem?_eq_some_iff.1 hv).1
    interval_cases id <;> cases hv <;> rfl

theorem recorder_codes : Codes recorderHeaderVTable RecorderHeader.values where
  length _ := rfl
  parse h id text hid := by
    have hid : id < 15 := hid
    interval_cases id <;> exact ⟨rfl, rfl⟩
  generate h id value hv := by
    have hid : id < 15 := (List.getElem?_eq_some_iff.1 hv).1
    interval_cases id <;> cases hv <;> exact ⟨rfl, fun _ => rfl⟩
  duplicate h src id text value hv := by
    have hid : id < 15 := (List.getElem?_eq_some_iff.1 hv).1
    interval_cases id <;> cases hv <;> rfl

theorem verifier_codes : Codes verifierHeaderVTable VerifierHeader.values where
  length _ := rfl
  parse h id text hid := by
    have hid : id < 21 := hid
    interval_cases id <;> exact ⟨rfl, rfl⟩
  generate h id value hv := by
    have hid : id < 21 := (List.getElem?_eq_some_iff.1 hv).1
    interval_cases id <;> cases hv <;> exact ⟨rfl, fun _ => rfl⟩
  duplicate h src id text value hv := by
    have hid : id < 21 := (List.getElem?_eq_some_iff.1 hv).1
    interval_cases id <;> cases hv <;> rfl

theorem recogCompletionCauseGenerate_spec (table : CauseTable) (value : Nat)
    (hc : table.items.length = recognizerCompletionCauseCount) :
    (recogCompletionCauseGenerate table.items value).1 = (TypedValue.cause table value).generate ∧
      ((TypedValue.cause table value).Generates → (recogCompletionCauseGenerate table.items value).2) := by
  constructor
  · show _ = (completionCauseGenerate table.items table.items.length value).getD []
    rw [hc, recogCompletionCauseGenerate]
    cases completionCauseGenerate table.items recognizerCompletionCauseCount value <;> rfl
  · intro hv
    obtain ⟨text, ht, -⟩ := sizeValueParse_completionCause hv le_rfl table.small
    rw [hc] at ht
    rw [recogCompletionCauseGenerate, ht]

variable (version : Version)

theorem recogHeaderParse_values (h : RecogHeader) (id : Nat) (text : Bytes) (ht : 3 ≤ id) (hid : id < 45) :
    (recogHeaderParse h id text).2 = true ∧
      (recogHeaderParse h id text).1.values version = (h.values version).modify id (·.parse text) := by
  interval_cases id <;> exact ⟨rfl, rfl⟩

theorem recogHeaderGenerate_values (h : RecogHeader) (id : Nat) (value : TypedValue) (ht : 3 ≤ id)
    (hc : id ≠ 7) (hv : (h.values version)[id]? = some value) :
    (recogHeaderGenerate h id).1 = value.generate ∧ (recogHeaderGenerate h id).2 := by
  have hid : id < 45 := (List.getElem?_eq_some_iff.1 hv).1
  interval_cases id <;> first | exact absurd rfl hc | (cases hv; exact ⟨rfl, rfl⟩)

theorem recog_codes : Codes (recogHeaderVTable version) (RecogHeader.values version) where
  length _ := by cases version <;> rfl
  parse h id text hid := by
    have hid : id < 45 := by cases version <;> exact hid
    match id with
    | 0 | 1 | 2 => cases version <;> exact ⟨rfl, rfl⟩
    | id + 3 =>
      have hb := recogHeaderParse_values version h (id + 3) text (by omega) hid
      cases version <;> exact hb
  generate h id value hv := by
    have hc : (recogCompletionCauses version).items.length = recognizerCompletionCauseCount := by
      cases version <;> rfl
    have hca := recogCompletionCauseGenerate_spec (recogCompletionCauses version) h.completionCause hc
    match id with
    | 0 | 1 | 2 => cases version <;> cases hv <;> exact ⟨rfl, fun _ => rfl⟩
    | 7 => cases version <;> cases hv <;> exact hca
    | 3 | 4 | 5 | 6 | id + 8 =>
      have hb := recogHeaderGenerate_values version h _ value (by omega) (by omega) hv
      cases version <;> exact ⟨hb.1, fun _ => hb.2⟩
  duplicate h src id text value hv := by
    have hid : id < 45 := (List.getElem?_eq_some_iff.1 hv).1
    have ht : (recogHeaderVTable version).duplicateField = recogHeaderDuplicate := by cases version <;> rfl
    rw [ht]
    match id with
    | 0 | 1 | 2 => cases version <;> cases hv <;> rfl
    | id + 3 =>
      have hid : id < 42 := by omega
      interval_cases id <;> cases hv <;> rfl

theorem headerKind_codes : ∀ kind : HeaderKind, Codes kind.vtable kind.values
  | .generic => generic_codes
  | .synthesizer => synth_codes
  | .recognizer version => recog_codes version
  | .recorder => recorder_codes
  | .verifier => verifier_codes

end UniMrcp.Mrcp
