import Horseness.Canonical

/-!
Observation cursors and context versions. Literal fields (`schemaVersion`, `kind`
and the expected heads) are fixed by the types and appear only in the JSON form.
-/

namespace Horseness.Cursors

open FallibleRuns ScriptText JsonValues Canonical

def maxSafeInteger : Nat := 9007199254740991

def nonEmpty (value : JsString) (code : DomainError) : Except DomainError Unit :=
  ensure (value ≠ []) code

def naturalCheck (value : Nat) (code : DomainError) : Except DomainError Unit :=
  ensure (value ≤ maxSafeInteger) code

def positiveCheck (value : Nat) (code : DomainError) : Except DomainError Unit :=
  ensure (1 ≤ value ∧ value ≤ maxSafeInteger) code

structure AbsentWorkspaceGenesisCursorV1 where
  workspaceId : JsString
  deriving DecidableEq

structure WorkspaceOnlyCursorV1 where
  workspaceId : JsString
  workspaceSequence : Nat
  workspaceEnvelopeHash : JsString
  workspaceContextEpoch : Nat
  deriving DecidableEq

structure AbsentRunGenesisCursorV1 where
  workspaceId : JsString
  workspaceSequence : Nat
  workspaceEnvelopeHash : JsString
  workspaceContextEpoch : Nat
  runId : JsString
  deriving DecidableEq

structure RunOnlyCursorV1 where
  workspaceId : JsString
  runId : JsString
  runSequence : Nat
  runEnvelopeHash : JsString
  runContextEpoch : Nat
  deriving DecidableEq

structure CompositeCursorV1 where
  workspaceId : JsString
  workspaceSequence : Nat
  workspaceEnvelopeHash : JsString
  workspaceContextEpoch : Nat
  runId : JsString
  runSequence : Nat
  runEnvelopeHash : JsString
  runContextEpoch : Nat
  deriving DecidableEq

inductive ObservationCursorV1 where
  | absentWorkspaceGenesis (cursor : AbsentWorkspaceGenesisCursorV1)
  | workspaceOnly (cursor : WorkspaceOnlyCursorV1)
  | absentRunGenesis (cursor : AbsentRunGenesisCursorV1)
  | runOnly (cursor : RunOnlyCursorV1)
  | composite (cursor : CompositeCursorV1)
  deriving DecidableEq

def ObservationCursorV1.isComposite : ObservationCursorV1 → Bool
  | .composite _ => true
  | _ => false

def AbsentWorkspaceGenesisCursorV1.toJson (cursor : AbsentWorkspaceGenesisCursorV1) : JsValue :=
  object [("schemaVersion", .str (js "1")), ("kind", .str (js "absent-workspace-genesis")),
    ("workspaceId", .str cursor.workspaceId), ("expectedWorkspaceHead", .str (js "absent"))]

def WorkspaceOnlyCursorV1.toJson (cursor : WorkspaceOnlyCursorV1) : JsValue :=
  object [("schemaVersion", .str (js "1")), ("kind", .str (js "workspace-only")),
    ("workspaceId", .str cursor.workspaceId),
    ("workspaceSequence", natural cursor.workspaceSequence),
    ("workspaceEnvelopeHash", .str cursor.workspaceEnvelopeHash),
    ("workspaceContextEpoch", natural cursor.workspaceContextEpoch)]

def AbsentRunGenesisCursorV1.toJson (cursor : AbsentRunGenesisCursorV1) : JsValue :=
  object [("schemaVersion", .str (js "1")), ("kind", .str (js "absent-run-genesis")),
    ("workspaceId", .str cursor.workspaceId),
    ("workspaceSequence", natural cursor.workspaceSequence),
    ("workspaceEnvelopeHash", .str cursor.workspaceEnvelopeHash),
    ("workspaceContextEpoch", natural cursor.workspaceContextEpoch),
    ("runId", .str cursor.runId), ("expectedRunHead", .str (js "absent"))]

def RunOnlyCursorV1.toJson (cursor : RunOnlyCursorV1) : JsValue :=
  object [("schemaVersion", .str (js "1")), ("kind", .str (js "run-only")),
    ("workspaceId", .str cursor.workspaceId), ("runId", .str cursor.runId),
    ("runSequence", natural cursor.runSequence), ("runEnvelopeHash", .str cursor.runEnvelopeHash),
    ("runContextEpoch", natural cursor.runContextEpoch)]

def CompositeCursorV1.toJson (cursor : CompositeCursorV1) : JsValue :=
  object [("schemaVersion", .str (js "1")), ("kind", .str (js "composite")),
    ("workspaceId", .str cursor.workspaceId),
    ("workspaceSequence", natural cursor.workspaceSequence),
    ("workspaceEnvelopeHash", .str cursor.workspaceEnvelopeHash),
    ("workspaceContextEpoch", natural cursor.workspaceContextEpoch),
    ("runId", .str cursor.runId), ("runSequence", natural cursor.runSequence),
    ("runEnvelopeHash", .str cursor.runEnvelopeHash),
    ("runContextEpoch", natural cursor.runContextEpoch)]

def ObservationCursorV1.toJson : ObservationCursorV1 → JsValue
  | .absentWorkspaceGenesis cursor => cursor.toJson
  | .workspaceOnly cursor => cursor.toJson
  | .absentRunGenesis cursor => cursor.toJson
  | .runOnly cursor => cursor.toJson
  | .composite cursor => cursor.toJson

def parseObservationCursorV1 : ObservationCursorV1 → Except DomainError Unit
  | .absentWorkspaceGenesis cursor => nonEmpty cursor.workspaceId .cursorInvalid
  | .workspaceOnly cursor => do
      nonEmpty cursor.workspaceId .cursorInvalid
      positiveCheck cursor.workspaceSequence .cursorInvalid
      nonEmpty cursor.workspaceEnvelopeHash .cursorInvalid
      naturalCheck cursor.workspaceContextEpoch .cursorInvalid
  | .absentRunGenesis cursor => do
      nonEmpty cursor.workspaceId .cursorInvalid
      positiveCheck cursor.workspaceSequence .cursorInvalid
      nonEmpty cursor.workspaceEnvelopeHash .cursorInvalid
      naturalCheck cursor.workspaceContextEpoch .cursorInvalid
      nonEmpty cursor.runId .cursorInvalid
  | .runOnly cursor => do
      nonEmpty cursor.workspaceId .cursorInvalid
      nonEmpty cursor.runId .cursorInvalid
      positiveCheck cursor.runSequence .cursorInvalid
      nonEmpty cursor.runEnvelopeHash .cursorInvalid
      naturalCheck cursor.runContextEpoch .cursorInvalid
  | .composite cursor => do
      nonEmpty cursor.workspaceId .cursorInvalid
      positiveCheck cursor.workspaceSequence .cursorInvalid
      nonEmpty cursor.workspaceEnvelopeHash .cursorInvalid
      naturalCheck cursor.workspaceContextEpoch .cursorInvalid
      nonEmpty cursor.runId .cursorInvalid
      positiveCheck cursor.runSequence .cursorInvalid
      nonEmpty cursor.runEnvelopeHash .cursorInvalid
      naturalCheck cursor.runContextEpoch .cursorInvalid

inductive ContextVersionV1 where
  | workspaceOnly (workspaceContextEpoch : Nat) (observationCursor : WorkspaceOnlyCursorV1)
  | runOnly (runContextEpoch : Nat) (observationCursor : RunOnlyCursorV1)
  | composite (workspaceContextEpoch runContextEpoch : Nat)
      (observationCursor : CompositeCursorV1)
  deriving DecidableEq

def ContextVersionV1.isComposite : ContextVersionV1 → Bool
  | .composite .. => true
  | _ => false

def ContextVersionV1.observationCursor : ContextVersionV1 → ObservationCursorV1
  | .workspaceOnly _ cursor => .workspaceOnly cursor
  | .runOnly _ cursor => .runOnly cursor
  | .composite _ _ cursor => .composite cursor

def ContextVersionV1.toJson : ContextVersionV1 → JsValue
  | .workspaceOnly workspaceContextEpoch cursor =>
      object [("schemaVersion", .str (js "1")), ("kind", .str (js "workspace-only")),
        ("workspaceContextEpoch", natural workspaceContextEpoch),
        ("observationCursor", cursor.toJson)]
  | .runOnly runContextEpoch cursor =>
      object [("schemaVersion", .str (js "1")), ("kind", .str (js "run-only")),
        ("runContextEpoch", natural runContextEpoch), ("observationCursor", cursor.toJson)]
  | .composite workspaceContextEpoch runContextEpoch cursor =>
      object [("schemaVersion", .str (js "1")), ("kind", .str (js "composite")),
        ("workspaceContextEpoch", natural workspaceContextEpoch),
        ("runContextEpoch", natural runContextEpoch), ("observationCursor", cursor.toJson)]

/-- The cursor kind agrees with the version's by type; the epochs must agree too. -/
def parseContextVersionV1 (version : ContextVersionV1) : Except DomainError Unit := do
  parseObservationCursorV1 version.observationCursor
  match version with
  | .workspaceOnly workspaceContextEpoch cursor => do
      naturalCheck workspaceContextEpoch .contextVersionInvalid
      ensure (workspaceContextEpoch = cursor.workspaceContextEpoch) .contextCursorIncompatible
  | .runOnly runContextEpoch cursor => do
      naturalCheck runContextEpoch .contextVersionInvalid
      ensure (runContextEpoch = cursor.runContextEpoch) .contextCursorIncompatible
  | .composite workspaceContextEpoch runContextEpoch cursor => do
      naturalCheck workspaceContextEpoch .contextVersionInvalid
      naturalCheck runContextEpoch .contextVersionInvalid
      ensure (workspaceContextEpoch = cursor.workspaceContextEpoch ∧
        runContextEpoch = cursor.runContextEpoch) .contextCursorIncompatible

structure EvaluationClockV1 where
  authorityTime : JsString
  observationCursor : ObservationCursorV1
  deriving DecidableEq

def EvaluationClockV1.toJson (clock : EvaluationClockV1) : JsValue :=
  object [("schemaVersion", .str (js "1")), ("authorityTime", .str clock.authorityTime),
    ("observationCursor", clock.observationCursor.toJson)]

end Horseness.Cursors
