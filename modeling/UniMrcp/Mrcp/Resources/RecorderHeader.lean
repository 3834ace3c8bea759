import UniMrcp.Apt.TextStream.Values
import UniMrcp.Mrcp.GenericHeader.Accessor

/-!
# The header of the recorder
-/

namespace UniMrcp.Mrcp

open Lib Apt

def recorderHeaderStringTable : List StrTableItem :=
  [⟨ascii "Sensitivity-Level", 3⟩, ⟨ascii "No-Input-Timeout", 2⟩, ⟨ascii "Completion-Cause", 16⟩,
    ⟨ascii "Completion-Reason", 11⟩, ⟨ascii "Failed-Uri", 10⟩, ⟨ascii "Failed-Uri-Cause", 16⟩,
    ⟨ascii "Record-Uri", 0⟩, ⟨ascii "Media-Type", 2⟩, ⟨ascii "Max-Time", 2⟩, ⟨ascii "Trim-Length", 0⟩,
    ⟨ascii "Final-Silence", 1⟩, ⟨ascii "Capture-On-Speech", 2⟩, ⟨ascii "Ver-Buffer-Utterance", 0⟩,
    ⟨ascii "Start-Input-Timers", 1⟩, ⟨ascii "New-Audio-Channel", 2⟩]

def recorderHeaderCount : Nat := 15

/-- `completion_cause_string_table` of the recorder. -/
def recorderCompletionCauseStringTable : List StrTableItem :=
  [⟨ascii "success-silence", 8⟩, ⟨ascii "success-maxtime", 8⟩, ⟨ascii "no-input-timeout", 0⟩,
    ⟨ascii "uri-failure", 0⟩, ⟨ascii "error", 0⟩]

/-- `RECORDER_COMPLETION_CAUSE_COUNT`, which stands for `RECORDER_COMPLETION_CAUSE_UNKNOWN`, too. -/
def recorderCompletionCauseCount : Nat := 5

/-- `mrcp_recorder_header_t`, as `mrcp_recorder_header_init` leaves it. -/
structure RecorderHeader where
  sensitivityLevel : ℚ := 0
  noInputTimeout : Nat := 0
  completionCause : Nat := recorderCompletionCauseCount
  completionReason : Bytes := []
  failedUri : Bytes := []
  failedUriCause : Bytes := []
  recordUri : Bytes := []
  mediaType : Bytes := []
  maxTime : Nat := 0
  trimLength : Nat := 0
  finalSilence : Nat := 0
  captureOnSpeech : Bool := false
  verBufferUtterance : Bool := false
  startInputTimers : Bool := false
  newAudioChannel : Bool := false
deriving DecidableEq

def recorderHeaderParse (h : RecorderHeader) (id : Nat) (value : Bytes) : RecorderHeader × Bool :=
  match id with
  | 0 => ({ h with sensitivityLevel := floatValueParse ⟨value, []⟩ }, true)
  | 1 => ({ h with noInputTimeout := sizeValueParse ⟨value, []⟩ }, true)
  | 2 => ({ h with completionCause := completionCauseParse value }, true)
  | 3 => ({ h with completionReason := value }, true)
  | 4 => ({ h with failedUri := value }, true)
  | 5 => ({ h with failedUriCause := value }, true)
  | 6 => ({ h with recordUri := value }, true)
  | 7 => ({ h with mediaType := value }, true)
  | 8 => ({ h with maxTime := sizeValueParse ⟨value, []⟩ }, true)
  | 9 => ({ h with trimLength := sizeValueParse ⟨value, []⟩ }, true)
  | 10 => ({ h with finalSilence := sizeValueParse ⟨value, []⟩ }, true)
  | 11 => ({ h with captureOnSpeech := (booleanValueParse value h.captureOnSpeech).1 }, true)
  | 12 => ({ h with verBufferUtterance := (booleanValueParse value h.verBufferUtterance).1 }, true)
  | 13 => ({ h with startInputTimers := (booleanValueParse value h.startInputTimers).1 }, true)
  | 14 => ({ h with newAudioChannel := (booleanValueParse value h.newAudioChannel).1 }, true)
  | _ => (h, false)

def recorderHeaderGenerate (h : RecorderHeader) (id : Nat) : Bytes × Bool :=
  match id with
  | 0 => (floatValueGenerate h.sensitivityLevel, true)
  | 1 => (decimal h.noInputTimeout, true)
  | 2 => ((completionCauseGenerate recorderCompletionCauseStringTable recorderCompletionCauseCount
      h.completionCause).getD [], true)
  | 3 => (h.completionReason, true)
  | 4 => (h.failedUri, true)
  | 5 => (h.failedUriCause, true)
  | 6 => (h.recordUri, true)
  | 7 => (h.mediaType, true)
  | 8 => (decimal h.maxTime, true)
  | 9 => (decimal h.trimLength, true)
  | 10 => (decimal h.finalSilence, true)
  | 11 => (booleanValueGenerate h.captureOnSpeech, true)
  | 12 => (booleanValueGenerate h.verBufferUtterance, true)
  | 13 => (booleanValueGenerate h.startInputTimers, true)
  | 14 => (booleanValueGenerate h.newAudioChannel, true)
  | _ => ([], true)

def recorderHeaderDuplicate (h src : RecorderHeader) (id : Nat) (value : Bytes) : RecorderHeader × Bool :=
  match id with
  | 0 => ({ h with sensitivityLevel := src.sensitivityLevel }, true)
  | 1 => ({ h with noInputTimeout := src.noInputTimeout }, true)
  | 2 => ({ h with completionCause := src.completionCause }, true)
  | 3 => ({ h with completionReason := value }, true)
  | 4 => ({ h with failedUri := value }, true)
  | 5 => ({ h with failedUriCause := value }, true)
  | 6 => ({ h with recordUri := value }, true)
  | 7 => ({ h with mediaType := value }, true)
  | 8 => ({ h with maxTime := src.maxTime }, true)
  | 9 => ({ h with trimLength := src.trimLength }, true)
  | 10 => ({ h with finalSilence := src.finalSilence }, true)
  | 11 => ({ h with captureOnSpeech := src.captureOnSpeech }, true)
  | 12 => ({ h with verBufferUtterance := src.verBufferUtterance }, true)
  | 13 => ({ h with startInputTimers := src.startInputTimers }, true)
  | 14 => ({ h with newAudioChannel := src.newAudioChannel }, true)
  | _ => (h, false)

/-- `mrcp_recorder_header_vtable_get` -/
def recorderHeaderVTable : FullHeaderVTable RecorderHeader :=
  ⟨⟨{}, recorderHeaderParse, recorderHeaderStringTable, recorderHeaderCount⟩, recorderHeaderGenerate,
    recorderHeaderDuplicate⟩

end UniMrcp.Mrcp
