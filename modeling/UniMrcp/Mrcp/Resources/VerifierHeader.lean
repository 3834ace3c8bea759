import UniMrcp.Apt.TextStream.Values
import UniMrcp.Mrcp.GenericHeader.Accessor

/-!
# The header of the verifier
-/

namespace UniMrcp.Mrcp

open Lib Apt

def verifierHeaderStringTable : List StrTableItem :=
  [⟨ascii "Repository-URI", 0⟩, ⟨ascii "Voiceprint-Identifier", 12⟩, ⟨ascii "Verification-Mode", 6⟩,
    ⟨ascii "Adapt-Model", 1⟩, ⟨ascii "Abort-Model", 11⟩, ⟨ascii "Min-Verification-Score", 1⟩,
    ⟨ascii "Num-Min-Verification-Phrases", 6⟩, ⟨ascii "Num-Max-Verification-Phrases", 5⟩,
    ⟨ascii "No-Input-Timeout", 2⟩, ⟨ascii "Save-Waveform", 4⟩, ⟨ascii "Media-Type", 2⟩,
    ⟨ascii "Waveform-URI", 0⟩, ⟨ascii "Voiceprint-Exists", 11⟩, ⟨ascii "Ver-Buffer-Utterance", 4⟩,
    ⟨ascii "Input-Waveform-URI", 0⟩, ⟨ascii "Completion-Cause", 11⟩, ⟨ascii "Completion-Reason", 15⟩,
    ⟨ascii "Speech-Complete-Timeout", 1⟩, ⟨ascii "New-Audio-Channel", 2⟩, ⟨ascii "Abort-Verification", 6⟩,
    ⟨ascii "Start-Input-Timers", 1⟩]

def verifierHeaderCount : Nat := 21

/-- `completion_cause_string_table` of the verifier. -/
def verifierCompletionCauseStringTable : List StrTableItem :=
  [⟨ascii "success", 2⟩, ⟨ascii "error", 0⟩, ⟨ascii "no-input-timeout", 0⟩,
    ⟨ascii "too-much-speech-timeout", 0⟩, ⟨ascii "speech-too-early", 9⟩, ⟨ascii "buffer-empty", 0⟩,
    ⟨ascii "out-of-sequence", 0⟩, ⟨ascii "repository-uri-failure", 15⟩, ⟨ascii "repository-uri-missing", 15⟩,
    ⟨ascii "voiceprint-id-missing", 14⟩, ⟨ascii "voiceprint-id-not-exist", 14⟩, ⟨ascii "speech-not-usable", 7⟩]

/-- `VERIFIER_COMPLETION_CAUSE_COUNT`, which stands for `VERIFIER_COMPLETION_CAUSE_UNKNOWN`, too. -/
def verifierCompletionCauseCount : Nat := 12

/-- `mrcp_verifier_header_t`, as `mrcp_verifier_header_init` leaves it. -/
structure VerifierHeader where
  repositoryUri : Bytes := []
  voiceprintIdentifier : Bytes := []
  verificationMode : Bytes := []
  adaptModel : Bool := false
  abortModel : Bool := false
  minVerificationScore : ℚ := 0
  numMinVerificationPhrases : Nat := 0
  numMaxVerificationPhrases : Nat := 0
  noInputTimeout : Nat := 0
  saveWaveform : Bool := false
  mediaType : Bytes := []
  waveformUri : Bytes := []
  voiceprintExists : Bool := false
  verBufferUtterance : Bool := false
  inputWaveformUri : Bytes := []
  completionCause : Nat := verifierCompletionCauseCount
  completionReason : Bytes := []
  speechCompleteTimeout : Nat := 0
  newAudioChannel : Bool := false
  abortVerification : Bool := false
  startInputTimers : Bool := false
deriving DecidableEq

def verifierHeaderParse (h : VerifierHeader) (id : Nat) (value : Bytes) : VerifierHeader × Bool :=
  match id with
  | 0 => ({ h with repositoryUri := value }, true)
  | 1 => ({ h with voiceprintIdentifier := value }, true)
  | 2 => ({ h with verificationMode := value }, true)
  | 3 => ({ h with adaptModel := (booleanValueParse value h.adaptModel).1 }, true)
  | 4 => ({ h with abortModel := (booleanValueParse value h.abortModel).1 }, true)
  | 5 => ({ h with minVerificationScore := floatValueParse ⟨value, []⟩ }, true)
  | 6 => ({ h with numMinVerificationPhrases := sizeValueParse ⟨value, []⟩ }, true)
  | 7 => ({ h with numMaxVerificationPhrases := sizeValueParse ⟨value, []⟩ }, true)
  | 8 => ({ h with noInputTimeout := sizeValueParse ⟨value, []⟩ }, true)
  | 9 => ({ h with saveWaveform := (booleanValueParse value h.saveWaveform).1 }, true)
  | 10 => ({ h with mediaType := value }, true)
  | 11 => ({ h with waveformUri := value }, true)
  | 12 => ({ h with voiceprintExists := (booleanValueParse value h.voiceprintExists).1 }, true)
  | 13 => ({ h with verBufferUtterance := (booleanValueParse value h.verBufferUtterance).1 }, true)
  | 14 => ({ h with inputWaveformUri := value }, true)
  | 15 => ({ h with completionCause := completionCauseParse value }, true)
  | 16 => ({ h with completionReason := value }, true)
  | 17 => ({ h with speechCompleteTimeout := sizeValueParse ⟨value, []⟩ }, true)
  | 18 => ({ h with newAudioChannel := (booleanValueParse value h.newAudioChannel).1 }, true)
  | 19 => ({ h with abortVerification := (booleanValueParse value h.abortVerification).1 }, true)
  | 20 => ({ h with startInputTimers := (booleanValueParse value h.startInputTimers).1 }, true)
  | _ => (h, false)

def verifierHeaderGenerate (h : VerifierHeader) (id : Nat) : Bytes × Bool :=
  match id with
  | 0 => (h.repositoryUri, true)
  | 1 => (h.voiceprintIdentifier, true)
  | 2 => (h.verificationMode, true)
  | 3 => (booleanValueGenerate h.adaptModel, true)
  | 4 => (booleanValueGenerate h.abortModel, true)
  | 5 => (floatValueGenerate h.minVerificationScore, true)
  | 6 => (decimal h.numMinVerificationPhrases, true)
  | 7 => (decimal h.numMaxVerificationPhrases, true)
  | 8 => (decimal h.noInputTimeout, true)
  | 9 => (booleanValueGenerate h.saveWaveform, true)
  | 10 => (h.mediaType, true)
  | 11 => (h.waveformUri, true)
  | 12 => (booleanValueGenerate h.voiceprintExists, true)
  | 13 => (booleanValueGenerate h.verBufferUtterance, true)
  | 14 => (h.inputWaveformUri, true)
  | 15 => ((completionCauseGenerate verifierCompletionCauseStringTable verifierCompletionCauseCount
      h.completionCause).getD [], true)
  | 16 => (h.completionReason, true)
  | 17 => (decimal h.speechCompleteTimeout, true)
  | 18 => (booleanValueGenerate h.newAudioChannel, true)
  | 19 => (booleanValueGenerate h.abortVerification, true)
  | 20 => (booleanValueGenerate h.startInputTimers, true)
  | _ => ([], true)

def verifierHeaderDuplicate (h src : VerifierHeader) (id : Nat) (value : Bytes) : VerifierHeader × Bool :=
  match id with
  | 0 => ({ h with repositoryUri := value }, true)
  | 1 => ({ h with voiceprintIdentifier := value }, true)
  | 2 => ({ h with verificationMode := value }, true)
  | 3 => ({ h with adaptModel := src.adaptModel }, true)
  | 4 => ({ h with abortModel := src.abortModel }, true)
  | 5 => ({ h with minVerificationScore := src.minVerificationScore }, true)
  | 6 => ({ h with numMinVerificationPhrases := src.numMinVerificationPhrases }, true)
  | 7 => ({ h with numMaxVerificationPhrases := src.numMaxVerificationPhrases }, true)
  | 8 => ({ h with noInputTimeout := src.noInputTimeout }, true)
  | 9 => ({ h with saveWaveform := src.saveWaveform }, true)
  | 10 => ({ h with mediaType := value }, true)
  | 11 => ({ h with waveformUri := value }, true)
  | 12 => ({ h with voiceprintExists := src.voiceprintExists }, true)
  | 13 => ({ h with verBufferUtterance := src.verBufferUtterance }, true)
  | 14 => ({ h with inputWaveformUri := value }, true)
  | 15 => ({ h with completionCause := src.completionCause }, true)
  | 16 => ({ h with completionReason := value }, true)
  | 17 => ({ h with speechCompleteTimeout := src.speechCompleteTimeout }, true)
  | 18 => ({ h with newAudioChannel := src.newAudioChannel }, true)
  | 19 => ({ h with abortVerification := src.abortVerification }, true)
  | 20 => ({ h with startInputTimers := src.startInputTimers }, true)
  | _ => (h, false)

/-- `mrcp_verifier_header_vtable_get` -/
def verifierHeaderVTable : FullHeaderVTable VerifierHeader :=
  ⟨⟨{}, verifierHeaderParse, verifierHeaderStringTable, verifierHeaderCount⟩, verifierHeaderGenerate,
    verifierHeaderDuplicate⟩

end UniMrcp.Mrcp
