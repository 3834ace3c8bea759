import UniMrcp.Apt.TextStream.Values
import UniMrcp.Mrcp.GenericHeader.Accessor

/-!
# The header of the synthesizer
-/

namespace UniMrcp.Mrcp

open Lib Apt

def synthHeaderStringTable : List StrTableItem :=
  [⟨ascii "Jump-Size", 0⟩, ⟨ascii "Kill-On-Barge-In", 0⟩, ⟨ascii "Speaker-Profile", 8⟩,
    ⟨ascii "Completion-Cause", 16⟩, ⟨ascii "Completion-Reason", 13⟩, ⟨ascii "Voice-Gender", 6⟩,
    ⟨ascii "Voice-Age", 6⟩, ⟨ascii "Voice-Variant", 6⟩, ⟨ascii "Voice-Name", 8⟩, ⟨ascii "Prosody-Volume", 8⟩,
    ⟨ascii "Prosody-Rate", 12⟩, ⟨ascii "Speech-Marker", 7⟩, ⟨ascii "Speech-Language", 7⟩, ⟨ascii "Fetch-Hint", 2⟩,
    ⟨ascii "Audio-Fetch-Hint", 0⟩, ⟨ascii "Failed-Uri", 10⟩, ⟨ascii "Failed-Uri_Cause", 10⟩,
    ⟨ascii "Speak-Restart", 13⟩, ⟨ascii "Speak-Length", 6⟩, ⟨ascii "Load-Lexicon", 2⟩,
    ⟨ascii "Lexicon-Search-Order", 2⟩]

def synthesizerHeaderCount : Nat := 21

def speechUnitStringTable : List StrTableItem :=
  [⟨ascii "Second", 2⟩, ⟨ascii "Word", 0⟩, ⟨ascii "Sentence", 2⟩, ⟨ascii "Paragraph", 0⟩]

def speechUnitCount : Nat := 4

def voiceGenderStringTable : List StrTableItem := [⟨ascii "male", 0⟩, ⟨ascii "female", 0⟩, ⟨ascii "neutral", 0⟩]

/-- `VOICE_GENDER_COUNT`, which stands for `VOICE_GENDER_UNKNOWN`, too. -/
def voiceGenderCount : Nat := 3

def prosodyVolumeStringTable : List StrTableItem :=
  [⟨ascii "silent", 1⟩, ⟨ascii "x-soft", 2⟩, ⟨ascii "soft", 3⟩, ⟨ascii "medium", 0⟩, ⟨ascii "loud", 0⟩,
    ⟨ascii "x-loud", 5⟩, ⟨ascii "default", 0⟩]

def prosodyVolumeCount : Nat := 7

def prosodyRateStringTable : List StrTableItem :=
  [⟨ascii "x-slow", 3⟩, ⟨ascii "slow", 0⟩, ⟨ascii "medium", 0⟩, ⟨ascii "fast", 0⟩, ⟨ascii "x-fast", 4⟩,
    ⟨ascii "default", 0⟩]

def prosodyRateCount : Nat := 6

/-- `completion_cause_string_table` of the synthesizer. -/
def synthCompletionCauseStringTable : List StrTableItem :=
  [⟨ascii "normal", 0⟩, ⟨ascii "barge-in", 0⟩, ⟨ascii "parse-failure", 0⟩, ⟨ascii "uri-failure", 0⟩,
    ⟨ascii "error", 0⟩, ⟨ascii "language-unsupported", 4⟩, ⟨ascii "lexicon-load-failure", 1⟩, ⟨ascii "cancelled", 0⟩]

/-- `SYNTHESIZER_COMPLETION_CAUSE_COUNT`, which stands for `SYNTHESIZER_COMPLETION_CAUSE_UNKNOWN`, too. -/
def synthesizerCompletionCauseCount : Nat := 8

structure NumericSpeechLength where
  length : Nat := 0
  /-- `mrcp_speech_unit_e`, which is `SPEECH_UNIT_COUNT` if the unit is not in the table. -/
  unit : Nat := 0
deriving DecidableEq

/-- `mrcp_speech_length_value_t`: a type, and the member of the union that goes with it. -/
inductive SpeechLengthValue
  | text (tag : Bytes)
  | numericPositive (numeric : NumericSpeechLength)
  | numericNegative (numeric : NumericSpeechLength)
  | unknown
deriving DecidableEq

/-- The `numeric` member of the union. What was not assigned is taken as zero. -/
def SpeechLengthValue.numeric : SpeechLengthValue → NumericSpeechLength
  | .numericPositive numeric | .numericNegative numeric => numeric
  | .text _ | .unknown => {}

/-- The part of `mrcp_speech_length_value_parse` that reads a length and a unit, after the sign. -/
def numericSpeechLengthParse (numeric : NumericSpeechLength) (text : Bytes) : NumericSpeechLength × Bool :=
  match textFieldRead (textStreamInit ⟨text, []⟩) tokenSp with
  | (_, none) => (numeric, false)
  | (stream, some length) =>
    let numeric := { numeric with length := sizeValueParse length }
    match textFieldRead stream tokenSp with
    | (_, none) => (numeric, false)
    | (_, some unit) =>
      ({ numeric with unit := stringTableIdFind speechUnitStringTable speechUnitCount unit.bytes }, true)

def speechLengthValueParse (speechLength : SpeechLengthValue) (value : Bytes) : SpeechLengthValue × Bool :=
  match value with
  | [] => (speechLength, false)
  | ch :: rest =>
    if ch = 0x2B then
      let r := numericSpeechLengthParse speechLength.numeric rest
      (.numericPositive r.1, r.2)
    else if ch = 0x2D then
      let r := numericSpeechLengthParse speechLength.numeric rest
      (.numericNegative r.1, r.2)
    else (.text value, true)

/-- The sign, the length and the unit that `mrcp_speech_length_generate` writes. -/
def numericSpeechLengthGenerate (sign : UInt8) (numeric : NumericSpeechLength) : Bytes × Bool :=
  match stringTableStrGet speechUnitStringTable speechUnitCount numeric.unit with
  | none => ([], false)
  | some unit => (sign :: decimal numeric.length ++ tokenSp :: unit, true)

/-- `mrcp_speech_length_generate`, which takes any other type for a negative number. -/
def speechLengthGenerate : SpeechLengthValue → Bytes × Bool
  | .text tag => (tag, true)
  | .numericPositive numeric => numericSpeechLengthGenerate 0x2B numeric
  | speechLength => numericSpeechLengthGenerate 0x2D speechLength.numeric

inductive ProsodyVolume
  | label (label : Nat)
  | numeric (numeric : ℚ)
  | relativeChange (relative : ℚ)
  | unknown
deriving DecidableEq

inductive ProsodyRate
  | label (label : Nat)
  | relativeChange (relative : ℚ)
  | unknown
deriving DecidableEq

/-- The text of a label, which is empty if the label is not in the table: `apt_string_table_value_pgenerate`. -/
def stringTableValueGenerate (table : List StrTableItem) (count id : Nat) : Bytes × Bool :=
  match stringTableStrGet table count id with
  | none => ([], false)
  | some name => (name, true)

/-- `mrcp_prosody_param_volume_parse` -/
def prosodyVolumeParse (prosodyVolume : ProsodyVolume) (value : Bytes) : ProsodyVolume × Bool :=
  match value with
  | [] => (prosodyVolume, false)
  | ch :: _ =>
    if ch = 0x2B ∨ ch = 0x2D then (.relativeChange (floatValueParse ⟨value, []⟩), true)
    else if isDigit ch then (.numeric (floatValueParse ⟨value, []⟩), true)
    else (.label (stringTableIdFind prosodyVolumeStringTable prosodyVolumeCount value), true)

/-- `mrcp_prosody_volume_generate`. What was not assigned is taken as zero. -/
def prosodyVolumeGenerate : ProsodyVolume → Bytes
  | .label label => (stringTableValueGenerate prosodyVolumeStringTable prosodyVolumeCount label).1
  | .numeric numeric => floatValueGenerate numeric
  | .relativeChange relative => floatValueGenerate relative
  | .unknown => floatValueGenerate 0

/-- `mrcp_prosody_param_rate_parse` -/
def prosodyRateParse (prosodyRate : ProsodyRate) (value : Bytes) : ProsodyRate × Bool :=
  match value with
  | [] => (prosodyRate, false)
  | ch :: _ =>
    if isDigit ch then (.relativeChange (floatValueParse ⟨value, []⟩), true)
    else (.label (stringTableIdFind prosodyRateStringTable prosodyRateCount value), true)

/-- `mrcp_prosody_rate_generate`. What was not assigned is taken as zero. -/
def prosodyRateGenerate : ProsodyRate → Bytes
  | .label label => (stringTableValueGenerate prosodyRateStringTable prosodyRateCount label).1
  | .relativeChange relative => floatValueGenerate relative
  | .unknown => floatValueGenerate 0

/-! ## The header -/

structure VoiceParam where
  gender : Nat := voiceGenderCount
  age : Nat := 0
  variant : Nat := 0
  name : Bytes := []
deriving DecidableEq

structure ProsodyParam where
  volume : ProsodyVolume := .unknown
  rate : ProsodyRate := .unknown
deriving DecidableEq

/-- `mrcp_synth_header_t`, as `mrcp_synth_header_init` leaves it. -/
structure SynthHeader where
  jumpSize : SpeechLengthValue := .unknown
  killOnBargeIn : Bool := false
  speakerProfile : Bytes := []
  completionCause : Nat := synthesizerCompletionCauseCount
  completionReason : Bytes := []
  voiceParam : VoiceParam := {}
  prosodyParam : ProsodyParam := {}
  speechMarker : Bytes := []
  speechLanguage : Bytes := []
  fetchHint : Bytes := []
  audioFetchHint : Bytes := []
  failedUri : Bytes := []
  failedUriCause : Bytes := []
  speakRestart : Bool := false
  speakLength : SpeechLengthValue := .unknown
  loadLexicon : Bool := false
  lexiconSearchOrder : Bytes := []
deriving DecidableEq

def synthHeaderParse (h : SynthHeader) (id : Nat) (value : Bytes) : SynthHeader × Bool :=
  match id with
  | 0 => ({ h with jumpSize := (speechLengthValueParse h.jumpSize value).1 }, true)
  | 1 => ({ h with killOnBargeIn := (booleanValueParse value h.killOnBargeIn).1 }, true)
  | 2 => ({ h with speakerProfile := value }, true)
  | 3 => ({ h with completionCause := completionCauseParse value }, true)
  | 4 => ({ h with completionReason := value }, true)
  | 5 =>
    ({ h with voiceParam.gender := stringTableIdFind voiceGenderStringTable voiceGenderCount value }, true)
  | 6 => ({ h with voiceParam.age := sizeValueParse ⟨value, []⟩ }, true)
  | 7 => ({ h with voiceParam.variant := sizeValueParse ⟨value, []⟩ }, true)
  | 8 => ({ h with voiceParam.name := value }, true)
  | 9 => ({ h with prosodyParam.volume := (prosodyVolumeParse h.prosodyParam.volume value).1 }, true)
  | 10 => ({ h with prosodyParam.rate := (prosodyRateParse h.prosodyParam.rate value).1 }, true)
  | 11 => ({ h with speechMarker := value }, true)
  | 12 => ({ h with speechLanguage := value }, true)
  | 13 => ({ h with fetchHint := value }, true)
  | 14 => ({ h with audioFetchHint := value }, true)
  | 15 => ({ h with failedUri := value }, true)
  | 16 => ({ h with failedUriCause := value }, true)
  | 17 => ({ h with speakRestart := (booleanValueParse value h.speakRestart).1 }, true)
  | 18 => ({ h with speakLength := (speechLengthValueParse h.speakLength value).1 }, true)
  | 19 => ({ h with loadLexicon := (booleanValueParse value h.loadLexicon).1 }, true)
  | 20 => ({ h with lexiconSearchOrder := value }, true)
  | _ => (h, false)

def synthHeaderGenerate (h : SynthHeader) (id : Nat) : Bytes × Bool :=
  match id with
  | 0 => ((speechLengthGenerate h.jumpSize).1, true)
  | 1 => (booleanValueGenerate h.killOnBargeIn, true)
  | 2 => (h.speakerProfile, true)
  | 3 => ((completionCauseGenerate synthCompletionCauseStringTable synthesizerCompletionCauseCount
      h.completionCause).getD [], true)
  | 4 => (h.completionReason, true)
  | 5 => ((stringTableValueGenerate voiceGenderStringTable voiceGenderCount h.voiceParam.gender).1, true)
  | 6 => (decimal h.voiceParam.age, true)
  | 7 => (decimal h.voiceParam.variant, true)
  | 8 => (h.voiceParam.name, true)
  | 9 => (prosodyVolumeGenerate h.prosodyParam.volume, true)
  | 10 => (prosodyRateGenerate h.prosodyParam.rate, true)
  | 11 => (h.speechMarker, true)
  | 12 => (h.speechLanguage, true)
  | 13 => (h.fetchHint, true)
  | 14 => (h.audioFetchHint, true)
  | 15 => (h.failedUri, true)
  | 16 => (h.failedUriCause, true)
  | 17 => (booleanValueGenerate h.speakRestart, true)
  | 18 => ((speechLengthGenerate h.speakLength).1, true)
  | 19 => (booleanValueGenerate h.loadLexicon, true)
  | 20 => (h.lexiconSearchOrder, true)
  | _ => ([], true)

def synthHeaderDuplicate (h src : SynthHeader) (id : Nat) (value : Bytes) : SynthHeader × Bool :=
  match id with
  | 0 => ({ h with jumpSize := src.jumpSize }, true)
  | 1 => ({ h with killOnBargeIn := src.killOnBargeIn }, true)
  | 2 => ({ h with speakerProfile := value }, true)
  | 3 => ({ h with completionCause := src.completionCause }, true)
  | 4 => ({ h with completionReason := value }, true)
  | 5 => ({ h with voiceParam.gender := src.voiceParam.gender }, true)
  | 6 => ({ h with voiceParam.age := src.voiceParam.age }, true)
  | 7 => ({ h with voiceParam.variant := src.voiceParam.variant }, true)
  | 8 => ({ h with voiceParam.name := value }, true)
  | 9 => ({ h with prosodyParam.volume := src.prosodyParam.volume }, true)
  | 10 => ({ h with prosodyParam.rate := src.prosodyParam.rate }, true)
  | 11 => ({ h with speechMarker := value }, true)
  | 12 => ({ h with speechLanguage := value }, true)
  | 13 => ({ h with fetchHint := value }, true)
  | 14 => ({ h with audioFetchHint := value }, true)
  | 15 => ({ h with failedUri := value }, true)
  | 16 => ({ h with failedUriCause := value }, true)
  | 17 => ({ h with speakRestart := src.speakRestart }, true)
  | 18 => ({ h with speakLength := src.speakLength }, true)
  | 19 => ({ h with loadLexicon := src.loadLexicon }, true)
  | 20 => ({ h with lexiconSearchOrder := value }, true)
  | _ => (h, false)

/-- `mrcp_synth_header_vtable_get` -/
def synthHeaderVTable : FullHeaderVTable SynthHeader :=
  ⟨⟨{}, synthHeaderParse, synthHeaderStringTable, synthesizerHeaderCount⟩, synthHeaderGenerate, synthHeaderDuplicate⟩

end UniMrcp.Mrcp
