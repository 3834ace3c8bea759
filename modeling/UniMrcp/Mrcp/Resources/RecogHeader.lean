import UniMrcp.Apt.TextStream.Values
import UniMrcp.Mrcp.GenericHeader.Accessor

/-!
# The header of the recognizer

The two versions of the protocol differ in three values, which MRCPv1 has as percentages, and in the completion causes.
-/

namespace UniMrcp.Mrcp

open Lib Apt

/-! ## String tables -/

def v1RecogHeaderStringTable : List StrTableItem :=
  [⟨ascii "Confidence-Threshold", 16⟩, ⟨ascii "Sensitivity-Level", 14⟩, ⟨ascii "Speed-Vs-Accuracy", 4⟩,
    ⟨ascii "N-Best-List-Length", 1⟩, ⟨ascii "No-Input-Timeout", 2⟩, ⟨ascii "Recognition-Timeout", 19⟩,
    ⟨ascii "Waveform-Url", 4⟩, ⟨ascii "Completion-Cause", 16⟩, ⟨ascii "Recognizer-Context-Block", 16⟩,
    ⟨ascii "Recognizer-Start-Timers", 18⟩, ⟨ascii "Speech-Complete-Timeout", 7⟩,
    ⟨ascii "Speech-Incomplete-Timeout", 12⟩, ⟨ascii "DTMF-Interdigit-Timeout", 10⟩,
    ⟨ascii "DTMF-Term-Timeout", 14⟩, ⟨ascii "DTMF-Term-Char", 14⟩, ⟨ascii "Failed-Uri", 10⟩,
    ⟨ascii "Failed-Uri-Cause", 16⟩, ⟨ascii "Save-Waveform", 5⟩, ⟨ascii "New-Audio-Channel", 17⟩,
    ⟨ascii "Speech-Language", 8⟩, ⟨ascii "Input-Type", 10⟩, ⟨ascii "Input-Waveform-Uri", 6⟩,
    ⟨ascii "Completion-Reason", 17⟩, ⟨ascii "Media-Type", 0⟩, ⟨ascii "Ver-Buffer-Utterance", 0⟩,
    ⟨ascii "Recognition-Mode", 16⟩, ⟨ascii "Cancel-If-Queue", 3⟩, ⟨ascii "Hotword-Max-Duration", 10⟩,
    ⟨ascii "Hotword-Min-Duration", 20⟩, ⟨ascii "Interpret-Text", 12⟩, ⟨ascii "DTMF-Buffer-Time", 16⟩,
    ⟨ascii "Clear-DTMF-Buffer", 11⟩, ⟨ascii "Early-No-Match", 4⟩,
    ⟨ascii "Num-Min-Consistent-Pronunciations", 1⟩, ⟨ascii "Consistency-Threshold", 16⟩,
    ⟨ascii "Clash-Threshold", 2⟩, ⟨ascii "Personal-Grammar-URI", 9⟩, ⟨ascii "Enroll-Utterance", 10⟩,
    ⟨ascii "Phrase-ID", 8⟩, ⟨ascii "Phrase-NL", 9⟩, ⟨ascii "Weight", 3⟩, ⟨ascii "Save-Best-Waveform", 10⟩,
    ⟨ascii "New-Phrase-ID", 4⟩, ⟨ascii "Confusable-Phrases-URI", 4⟩, ⟨ascii "Abort-Phrase-Enrollment", 0⟩]

def v2RecogHeaderStringTable : List StrTableItem :=
  [⟨ascii "Confidence-Threshold", 16⟩, ⟨ascii "Sensitivity-Level", 14⟩, ⟨ascii "Speed-Vs-Accuracy", 4⟩,
    ⟨ascii "N-Best-List-Length", 1⟩, ⟨ascii "No-Input-Timeout", 2⟩, ⟨ascii "Recognition-Timeout", 19⟩,
    ⟨ascii "Waveform-Uri", 4⟩, ⟨ascii "Completion-Cause", 16⟩, ⟨ascii "Recognizer-Context-Block", 7⟩,
    ⟨ascii "Start-Input-Timers", 18⟩, ⟨ascii "Speech-Complete-Timeout", 7⟩,
    ⟨ascii "Speech-Incomplete-Timeout", 12⟩, ⟨ascii "DTMF-Interdigit-Timeout", 10⟩,
    ⟨ascii "DTMF-Term-Timeout", 14⟩, ⟨ascii "DTMF-Term-Char", 14⟩, ⟨ascii "Failed-Uri", 10⟩,
    ⟨ascii "Failed-Uri-Cause", 16⟩, ⟨ascii "Save-Waveform", 5⟩, ⟨ascii "New-Audio-Channel", 17⟩,
    ⟨ascii "Speech-Language", 8⟩, ⟨ascii "Input-Type", 10⟩, ⟨ascii "Input-Waveform-Uri", 6⟩,
    ⟨ascii "Completion-Reason", 13⟩, ⟨ascii "Media-Type", 0⟩, ⟨ascii "Ver-Buffer-Utterance", 0⟩,
    ⟨ascii "Recognition-Mode", 16⟩, ⟨ascii "Cancel-If-Queue", 3⟩, ⟨ascii "Hotword-Max-Duration", 10⟩,
    ⟨ascii "Hotword-Min-Duration", 20⟩, ⟨ascii "Interpret-Text", 12⟩, ⟨ascii "DTMF-Buffer-Time", 16⟩,
    ⟨ascii "Clear-DTMF-Buffer", 11⟩, ⟨ascii "Early-No-Match", 4⟩,
    ⟨ascii "Num-Min-Consistent-Pronunciations", 1⟩, ⟨ascii "Consistency-Threshold", 16⟩,
    ⟨ascii "Clash-Threshold", 15⟩, ⟨ascii "Personal-Grammar-URI", 9⟩, ⟨ascii "Enroll-Utterance", 10⟩,
    ⟨ascii "Phrase-ID", 8⟩, ⟨ascii "Phrase-NL", 9⟩, ⟨ascii "Weight", 3⟩, ⟨ascii "Save-Best-Waveform", 10⟩,
    ⟨ascii "New-Phrase-ID", 4⟩, ⟨ascii "Confusable-Phrases-URI", 4⟩, ⟨ascii "Abort-Phrase-Enrollment", 0⟩]

def recognizerHeaderCount : Nat := 45

/-- `v1_completion_cause_string_table` -/
def v1RecogCompletionCauseStringTable : List StrTableItem :=
  [⟨ascii "success", 1⟩, ⟨ascii "no-match", 8⟩, ⟨ascii "no-input-timeout", 3⟩,
    ⟨ascii "recognition-timeout", 0⟩, ⟨ascii "gram-load-failure", 7⟩, ⟨ascii "gram-comp-failure", 5⟩,
    ⟨ascii "error", 0⟩, ⟨ascii "speech-too-early", 1⟩, ⟨ascii "too-much-speech-timeout", 0⟩,
    ⟨ascii "uri-failure", 0⟩, ⟨ascii "language-unsupported", 0⟩, ⟨ascii "cancelled", 0⟩,
    ⟨ascii "semantics-failure", 2⟩, ⟨ascii "partial-match", 13⟩, ⟨ascii "partial-match-maxtime", 13⟩,
    ⟨ascii "no-match-maxtime", 9⟩, ⟨ascii "gram-definition-failure", 5⟩]

/-- `v2_completion_cause_string_table` -/
def v2RecogCompletionCauseStringTable : List StrTableItem :=
  [⟨ascii "success", 7⟩, ⟨ascii "no-match", 4⟩, ⟨ascii "no-input-timeout", 3⟩, ⟨ascii "hotword-maxtime", 0⟩,
    ⟨ascii "grammar-load-failure", 8⟩, ⟨ascii "grammar-compilation-failure", 8⟩, ⟨ascii "recognizer-error", 0⟩,
    ⟨ascii "speech-too-early", 1⟩, ⟨ascii "success-maxtime", 15⟩, ⟨ascii "uri-failure", 0⟩,
    ⟨ascii "language-unsupported", 0⟩, ⟨ascii "cancelled", 0⟩, ⟨ascii "semantics-failure", 2⟩,
    ⟨ascii "partial-match", 13⟩, ⟨ascii "partial-match-maxtime", 13⟩, ⟨ascii "no-match-maxtime", 9⟩,
    ⟨ascii "grammar-definition-failure", 9⟩]

/-- `RECOGNIZER_COMPLETION_CAUSE_COUNT`, which stands for `RECOGNIZER_COMPLETION_CAUSE_UNKNOWN`, too. -/
def recognizerCompletionCauseCount : Nat := 17

/-! ## The header -/

/-- `mrcp_recog_header_t`, as `mrcp_recog_header_init` leaves it. -/
structure RecogHeader where
  confidenceThreshold : ℚ := 0
  sensitivityLevel : ℚ := 0
  speedVsAccuracy : ℚ := 0
  nBestListLength : Nat := 0
  noInputTimeout : Nat := 0
  recognitionTimeout : Nat := 0
  waveformUri : Bytes := []
  completionCause : Nat := recognizerCompletionCauseCount
  recognizerContextBlock : Bytes := []
  startInputTimers : Bool := false
  speechCompleteTimeout : Nat := 0
  speechIncompleteTimeout : Nat := 0
  dtmfInterdigitTimeout : Nat := 0
  dtmfTermTimeout : Nat := 0
  dtmfTermChar : UInt8 := 0
  failedUri : Bytes := []
  failedUriCause : Bytes := []
  saveWaveform : Bool := false
  newAudioChannel : Bool := false
  speechLanguage : Bytes := []
  inputType : Bytes := []
  inputWaveformUri : Bytes := []
  completionReason : Bytes := []
  mediaType : Bytes := []
  verBufferUtterance : Bool := false
  recognitionMode : Bytes := []
  cancelIfQueue : Bool := false
  hotwordMaxDuration : Nat := 0
  hotwordMinDuration : Nat := 0
  interpretText : Bytes := []
  dtmfBufferTime : Nat := 0
  clearDtmfBuffer : Bool := false
  earlyNoMatch : Bool := false
  numMinConsistentPronunciations : Nat := 0
  consistencyThreshold : ℚ := 0
  clashThreshold : ℚ := 0
  personalGrammarUri : Bytes := []
  enrollUtterance : Bool := false
  phraseId : Bytes := []
  phraseNl : Bytes := []
  weight : ℚ := 0
  saveBestWaveform : Bool := false
  newPhraseId : Bytes := []
  confusablePhrasesUri : Bytes := []
  abortPhraseEnrollment : Bool := false
deriving DecidableEq

def recogHeaderParse (h : RecogHeader) (id : Nat) (value : Bytes) : RecogHeader × Bool :=
  match id with
  | 3 => ({ h with nBestListLength := sizeValueParse ⟨value, []⟩ }, true)
  | 4 => ({ h with noInputTimeout := sizeValueParse ⟨value, []⟩ }, true)
  | 5 => ({ h with recognitionTimeout := sizeValueParse ⟨value, []⟩ }, true)
  | 6 => ({ h with waveformUri := value }, true)
  | 7 => ({ h with completionCause := completionCauseParse value }, true)
  | 8 => ({ h with recognizerContextBlock := value }, true)
  | 9 => ({ h with startInputTimers := (booleanValueParse value h.startInputTimers).1 }, true)
  | 10 => ({ h with speechCompleteTimeout := sizeValueParse ⟨value, []⟩ }, true)
  | 11 => ({ h with speechIncompleteTimeout := sizeValueParse ⟨value, []⟩ }, true)
  | 12 => ({ h with dtmfInterdigitTimeout := sizeValueParse ⟨value, []⟩ }, true)
  | 13 => ({ h with dtmfTermTimeout := sizeValueParse ⟨value, []⟩ }, true)
  | 14 => ({ h with dtmfTermChar := value.headD 0 }, true)
  | 15 => ({ h with failedUri := value }, true)
  | 16 => ({ h with failedUriCause := value }, true)
  | 17 => ({ h with saveWaveform := (booleanValueParse value h.saveWaveform).1 }, true)
  | 18 => ({ h with newAudioChannel := (booleanValueParse value h.newAudioChannel).1 }, true)
  | 19 => ({ h with speechLanguage := value }, true)
  | 20 => ({ h with inputType := value }, true)
  | 21 => ({ h with inputWaveformUri := value }, true)
  | 22 => ({ h with completionReason := value }, true)
  | 23 => ({ h with mediaType := value }, true)
  | 24 => ({ h with verBufferUtterance := (booleanValueParse value h.verBufferUtterance).1 }, true)
  | 25 => ({ h with recognitionMode := value }, true)
  | 26 => ({ h with cancelIfQueue := (booleanValueParse value h.cancelIfQueue).1 }, true)
  | 27 => ({ h with hotwordMaxDuration := sizeValueParse ⟨value, []⟩ }, true)
  | 28 => ({ h with hotwordMinDuration := sizeValueParse ⟨value, []⟩ }, true)
  | 29 => ({ h with interpretText := value }, true)
  | 30 => ({ h with dtmfBufferTime := sizeValueParse ⟨value, []⟩ }, true)
  | 31 => ({ h with clearDtmfBuffer := (booleanValueParse value h.clearDtmfBuffer).1 }, true)
  | 32 => ({ h with earlyNoMatch := (booleanValueParse value h.earlyNoMatch).1 }, true)
  | 33 => ({ h with numMinConsistentPronunciations := sizeValueParse ⟨value, []⟩ }, true)
  | 34 => ({ h with consistencyThreshold := floatValueParse ⟨value, []⟩ }, true)
  | 35 => ({ h with clashThreshold := floatValueParse ⟨value, []⟩ }, true)
  | 36 => ({ h with personalGrammarUri := value }, true)
  | 37 => ({ h with enrollUtterance := (booleanValueParse value h.enrollUtterance).1 }, true)
  | 38 => ({ h with phraseId := value }, true)
  | 39 => ({ h with phraseNl := value }, true)
  | 40 => ({ h with weight := floatValueParse ⟨value, []⟩ }, true)
  | 41 => ({ h with saveBestWaveform := (booleanValueParse value h.saveBestWaveform).1 }, true)
  | 42 => ({ h with newPhraseId := value }, true)
  | 43 => ({ h with confusablePhrasesUri := value }, true)
  | 44 => ({ h with abortPhraseEnrollment := (booleanValueParse value h.abortPhraseEnrollment).1 }, true)
  | _ => (h, false)

def sizeValueParseAsFloat (value : Bytes) : ℚ := sizeValueParse ⟨value, []⟩ / 100

/-- `apt_size_value_generate_from_float`. A number that is not in the range of `apr_size_t` is taken to wrap around. -/
def sizeValueGenerateFromFloat (value : ℚ) : Bytes := decimal (⌊(value + 1 / 1000) * 100⌋₊ % 2 ^ 64)

def v1RecogHeaderParse (h : RecogHeader) (id : Nat) (value : Bytes) : RecogHeader × Bool :=
  match id with
  | 0 => ({ h with confidenceThreshold := sizeValueParseAsFloat value }, true)
  | 1 => ({ h with sensitivityLevel := sizeValueParseAsFloat value }, true)
  | 2 => ({ h with speedVsAccuracy := sizeValueParseAsFloat value }, true)
  | id => recogHeaderParse h id value

def v2RecogHeaderParse (h : RecogHeader) (id : Nat) (value : Bytes) : RecogHeader × Bool :=
  match id with
  | 0 => ({ h with confidenceThreshold := floatValueParse ⟨value, []⟩ }, true)
  | 1 => ({ h with sensitivityLevel := floatValueParse ⟨value, []⟩ }, true)
  | 2 => ({ h with speedVsAccuracy := floatValueParse ⟨value, []⟩ }, true)
  | id => recogHeaderParse h id value

def recogHeaderGenerate (h : RecogHeader) (id : Nat) : Bytes × Bool :=
  match id with
  | 3 => (decimal h.nBestListLength, true)
  | 4 => (decimal h.noInputTimeout, true)
  | 5 => (decimal h.recognitionTimeout, true)
  | 6 => (h.waveformUri, true)
  | 8 => (h.recognizerContextBlock, true)
  | 9 => (booleanValueGenerate h.startInputTimers, true)
  | 10 => (decimal h.speechCompleteTimeout, true)
  | 11 => (decimal h.speechIncompleteTimeout, true)
  | 12 => (decimal h.dtmfInterdigitTimeout, true)
  | 13 => (decimal h.dtmfTermTimeout, true)
  | 14 => ([h.dtmfTermChar], true)
  | 15 => (h.failedUri, true)
  | 16 => (h.failedUriCause, true)
  | 17 => (booleanValueGenerate h.saveWaveform, true)
  | 18 => (booleanValueGenerate h.newAudioChannel, true)
  | 19 => (h.speechLanguage, true)
  | 20 => (h.inputType, true)
  | 21 => (h.inputWaveformUri, true)
  | 22 => (h.completionReason, true)
  | 23 => (h.mediaType, true)
  | 24 => (booleanValueGenerate h.verBufferUtterance, true)
  | 25 => (h.recognitionMode, true)
  | 26 => (booleanValueGenerate h.cancelIfQueue, true)
  | 27 => (decimal h.hotwordMaxDuration, true)
  | 28 => (decimal h.hotwordMinDuration, true)
  | 29 => (h.interpretText, true)
  | 30 => (decimal h.dtmfBufferTime, true)
  | 31 => (booleanValueGenerate h.clearDtmfBuffer, true)
  | 32 => (booleanValueGenerate h.earlyNoMatch, true)
  | 33 => (decimal h.numMinConsistentPronunciations, true)
  | 34 => (floatValueGenerate h.consistencyThreshold, true)
  | 35 => (floatValueGenerate h.clashThreshold, true)
  | 36 => (h.personalGrammarUri, true)
  | 37 => (booleanValueGenerate h.enrollUtterance, true)
  | 38 => (h.phraseId, true)
  | 39 => (h.phraseNl, true)
  | 40 => (floatValueGenerate h.weight, true)
  | 41 => (booleanValueGenerate h.saveBestWaveform, true)
  | 42 => (h.newPhraseId, true)
  | 43 => (h.confusablePhrasesUri, true)
  | 44 => (booleanValueGenerate h.abortPhraseEnrollment, true)
  | _ => ([], true)

/-- The text of a completion cause, which is not generated if the cause is not in the table. -/
def recogCompletionCauseGenerate (table : List StrTableItem) (cause : Nat) : Bytes × Bool :=
  match completionCauseGenerate table recognizerCompletionCauseCount cause with
  | none => ([], false)
  | some text => (text, true)

def v1RecogHeaderGenerate (h : RecogHeader) (id : Nat) : Bytes × Bool :=
  match id with
  | 0 => (sizeValueGenerateFromFloat h.confidenceThreshold, true)
  | 1 => (sizeValueGenerateFromFloat h.sensitivityLevel, true)
  | 2 => (sizeValueGenerateFromFloat h.speedVsAccuracy, true)
  | 7 => recogCompletionCauseGenerate v1RecogCompletionCauseStringTable h.completionCause
  | id => recogHeaderGenerate h id

def v2RecogHeaderGenerate (h : RecogHeader) (id : Nat) : Bytes × Bool :=
  match id with
  | 0 => (floatValueGenerate h.confidenceThreshold, true)
  | 1 => (floatValueGenerate h.sensitivityLevel, true)
  | 2 => (floatValueGenerate h.speedVsAccuracy, true)
  | 7 => recogCompletionCauseGenerate v2RecogCompletionCauseStringTable h.completionCause
  | id => recogHeaderGenerate h id

def recogHeaderDuplicate (h src : RecogHeader) (id : Nat) (value : Bytes) : RecogHeader × Bool :=
  match id with
  | 0 => ({ h with confidenceThreshold := src.confidenceThreshold }, true)
  | 1 => ({ h with sensitivityLevel := src.sensitivityLevel }, true)
  | 2 => ({ h with speedVsAccuracy := src.speedVsAccuracy }, true)
  | 3 => ({ h with nBestListLength := src.nBestListLength }, true)
  | 4 => ({ h with noInputTimeout := src.noInputTimeout }, true)
  | 5 => ({ h with recognitionTimeout := src.recognitionTimeout }, true)
  | 6 => ({ h with waveformUri := value }, true)
  | 7 => ({ h with completionCause := src.completionCause }, true)
  | 8 => ({ h with recognizerContextBlock := value }, true)
  | 9 => ({ h with startInputTimers := src.startInputTimers }, true)
  | 10 => ({ h with speechCompleteTimeout := src.speechCompleteTimeout }, true)
  | 11 => ({ h with speechIncompleteTimeout := src.speechIncompleteTimeout }, true)
  | 12 => ({ h with dtmfInterdigitTimeout := src.dtmfInterdigitTimeout }, true)
  | 13 => ({ h with dtmfTermTimeout := src.dtmfTermTimeout }, true)
  | 14 => ({ h with dtmfTermChar := src.dtmfTermChar }, true)
  | 15 => ({ h with failedUri := value }, true)
  | 16 => ({ h with failedUriCause := value }, true)
  | 17 => ({ h with saveWaveform := src.saveWaveform }, true)
  | 18 => ({ h with newAudioChannel := src.newAudioChannel }, true)
  | 19 => ({ h with speechLanguage := value }, true)
  | 20 => ({ h with inputType := value }, true)
  | 21 => ({ h with inputWaveformUri := value }, true)
  | 22 => ({ h with completionReason := value }, true)
  | 23 => ({ h with mediaType := value }, true)
  | 24 => ({ h with verBufferUtterance := src.verBufferUtterance }, true)
  | 25 => ({ h with recognitionMode := value }, true)
  | 26 => ({ h with cancelIfQueue := src.cancelIfQueue }, true)
  | 27 => ({ h with hotwordMaxDuration := src.hotwordMaxDuration }, true)
  | 28 => ({ h with hotwordMinDuration := src.hotwordMinDuration }, true)
  | 29 => ({ h with interpretText := value }, true)
  | 30 => ({ h with dtmfBufferTime := src.dtmfBufferTime }, true)
  | 31 => ({ h with clearDtmfBuffer := src.clearDtmfBuffer }, true)
  | 32 => ({ h with earlyNoMatch := src.earlyNoMatch }, true)
  | 33 => ({ h with numMinConsistentPronunciations := src.numMinConsistentPronunciations }, true)
  | 34 => ({ h with consistencyThreshold := src.consistencyThreshold }, true)
  | 35 => ({ h with clashThreshold := src.clashThreshold }, true)
  | 36 => ({ h with personalGrammarUri := value }, true)
  | 37 => ({ h with enrollUtterance := src.enrollUtterance }, true)
  | 38 => ({ h with phraseId := value }, true)
  | 39 => ({ h with phraseNl := value }, true)
  | 40 => ({ h with weight := src.weight }, true)
  | 41 => ({ h with saveBestWaveform := src.saveBestWaveform }, true)
  | 42 => ({ h with newPhraseId := value }, true)
  | 43 => ({ h with confusablePhrasesUri := value }, true)
  | 44 => ({ h with abortPhraseEnrollment := src.abortPhraseEnrollment }, true)
  | _ => (h, false)

/-- `mrcp_recog_header_vtable_get` -/
def recogHeaderVTable : Version → FullHeaderVTable RecogHeader
  | .v1 =>
    ⟨⟨{}, v1RecogHeaderParse, v1RecogHeaderStringTable, recognizerHeaderCount⟩, v1RecogHeaderGenerate,
      recogHeaderDuplicate⟩
  | _ =>
    ⟨⟨{}, v2RecogHeaderParse, v2RecogHeaderStringTable, recognizerHeaderCount⟩, v2RecogHeaderGenerate,
      recogHeaderDuplicate⟩

end UniMrcp.Mrcp
