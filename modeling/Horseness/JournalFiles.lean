import Horseness.JsonWriting
import Horseness.ReleaseTrust

/-!
The journal of the installer: one file of JSON lines for each generation, whose records of two
schemas share one chain of hashes. An append reads the chain, and then writes its line after the
text of the file as it is.
-/

namespace Horseness.JournalFiles

open FallibleRuns Records ScriptText JsonValues JsonText JsonWriting ScriptEngine Cursors
  PlainObjects DispatchAuthority Retention ReleaseTrust Utf8Text

inductive JournalError where
  | invalidJson
  | invalidPayload
  | invalidLine
  | invalidRecord
  | unknownNewerSchema
  | unknownSchema
  | hashMismatch
  | chainMismatch
  deriving DecidableEq

def JournalError.code : JournalError → String
  | .invalidJson => "INVALID_JSON"
  | .invalidPayload => "INVALID_JOURNAL_PAYLOAD"
  | .invalidLine => "INVALID_JOURNAL_JSON"
  | .invalidRecord => "INVALID_JOURNAL_RECORD"
  | .unknownNewerSchema => "UNKNOWN_NEWER_JOURNAL_SCHEMA"
  | .unknownSchema => "UNKNOWN_JOURNAL_SCHEMA"
  | .hashMismatch => "JOURNAL_HASH_MISMATCH"
  | .chainMismatch => "JOURNAL_CHAIN_MISMATCH"

section Texts

/-- `TOKEN`: a letter or digit, and at most 127 of those, dots, underscores, colons and dashes. -/
def tokenPattern : JsString → Bool
  | [] => false
  | first :: rest => alphanumeric first && decide (rest.length ≤ 127) &&
      rest.all fun unit => alphanumeric unit || unit == 46 || unit == 95 || unit == 58 || unit == 45

example : tokenPattern (js "1.0.0-rc:1") = true ∧ tokenPattern (js "-rc") = false := by decide +kernel

def operations : Record JsString Unit :=
  .ofEntries (["consent-recorded", "migration-begun", "backup-created", "staged", "activated",
    "compensating", "compensated", "repair-required", "uninstall-pending", "uninstalled"].map
      fun name => (js name, ()))

def schemaV0 : JsString := js "horseness.installer-journal-record.v0"

def schemaV1 : JsString := js "horseness.installer-journal-record.v1"

def newerSchema (schema : JsString) : Bool :=
  match schema.drop schemaV1.dropLast.length with
  | digit :: rest => decide (schema.take schemaV1.dropLast.length = schemaV1.dropLast) &&
      (50 ≤ digit && digit ≤ 57) && rest.all digitUnit
  | [] => false

def zeros : JsString := List.replicate 64 48

end Texts

section Canonical

variable [NumberFormat]

def integerText : JsNumber → Except JournalError JsString
  | .negativeZero => .ok (js "0")
  | .finite value =>
      if value.den = 1 ∧ value.num.natAbs ≤ maxSafeInteger then .ok (NumberFormat.write value)
      else .error .invalidJson
  | _ => .error .invalidJson

def canonicalMember (entry : JsString × Except JournalError JsString) : Except JournalError JsString :=
  entry.2.map fun text => quoteText entry.1 ++ colon :: text

mutual

def canonical : JsValue → Except JournalError JsString
  | .null => .ok (js "null")
  | .bool value => .ok (if value then js "true" else js "false")
  | .str text => .ok (quoteText text)
  | .num number => integerText number
  | .arr items => do
      let texts ← canonicalItems items
      return openBracket :: (join [comma] texts ++ [closeBracket])
  | .obj _ fields => do
      let members ← (sortFields (canonicalFields fields)).mapM canonicalMember
      return openBrace :: (join [comma] members ++ [closeBrace])
termination_by structural value => value

def canonicalItems : List JsValue → Except JournalError (List JsString)
  | [] => .ok []
  | item :: rest => do
      let text ← canonical item
      let texts ← canonicalItems rest
      return text :: texts
termination_by structural items => items

def canonicalFields : List (JsString × JsValue) → List (JsString × Except JournalError JsString)
  | [] => []
  | (name, value) :: rest => (name, canonical value) :: canonicalFields rest
termination_by structural fields => fields

end

end Canonical

section Journal

structure InstallerJournalPayloadV1 where
  operation : JsString
  transactionId : JsString
  releaseVersion : JsString
  detailDigest : JsString
  deriving DecidableEq

inductive JournalSchema where
  | v0
  | v1
  deriving DecidableEq

/-- A record of a line, in either schema. -/
structure RawRecord where
  schema : JournalSchema
  generation : Nat
  sequence : Nat
  previousHash : JsString
  payload : InstallerJournalPayloadV1
  recordHash : JsString
  deriving DecidableEq

/-- A record of the schema v1. -/
structure InstallerJournalRecordV1 where
  generation : Nat
  sequence : Nat
  previousHash : JsString
  payload : InstallerJournalPayloadV1
  recordHash : JsString
  deriving DecidableEq

def InstallerJournalPayloadV1.fields (payload : InstallerJournalPayloadV1) : List (String × JsValue) :=
  [("operation", .str payload.operation), ("transactionId", .str payload.transactionId),
    ("releaseVersion", .str payload.releaseVersion), ("detailDigest", .str payload.detailDigest)]

def JournalSchema.text : JournalSchema → JsString
  | .v0 => schemaV0
  | .v1 => schemaV1

def RawRecord.coreFields (record : RawRecord) : List (String × JsValue) :=
  [("schema", .str record.schema.text), ("generation", natural record.generation),
    ("sequence", natural record.sequence), ("previousHash", .str record.previousHash)] ++
  match record.schema with
  | .v0 => record.payload.fields
  | .v1 => [("payload", object record.payload.fields)]

def RawRecord.core (record : RawRecord) : JsValue := object record.coreFields

def RawRecord.fields (record : RawRecord) : List (String × JsValue) :=
  record.coreFields ++ [("recordHash", .str record.recordHash)]

def RawRecord.toJson (record : RawRecord) : JsValue := object record.fields

def payloadKeys : List String := ["operation", "transactionId", "releaseVersion", "detailDigest"]

def JournalSchema.keys : JournalSchema → List String
  | .v0 => ["schema", "generation", "sequence", "previousHash"] ++ payloadKeys ++ ["recordHash"]
  | .v1 => ["schema", "generation", "sequence", "previousHash", "payload", "recordHash"]

def exactObject (value : JsValue) (keys : List String) (error : JournalError) :
    Except JournalError Unit :=
  ensure (hasExactKeys keys value = true) error

def validatePayload (value : JsValue) : Except JournalError InstallerJournalPayloadV1 := do
  exactObject value payloadKeys .invalidPayload
  let operation ← required (textOf (property "operation" value)) .invalidPayload
  ensure (present operations operation = true) .invalidPayload
  let transactionId ← required (textOf (property "transactionId" value)) .invalidPayload
  ensure (tokenPattern transactionId = true) .invalidPayload
  let releaseVersion ← required (textOf (property "releaseVersion" value)) .invalidPayload
  ensure (tokenPattern releaseVersion = true) .invalidPayload
  let detailDigest ← required (textOf (property "detailDigest" value)) .invalidPayload
  ensure (validDigest detailDigest) .invalidPayload
  return ⟨operation, transactionId, releaseVersion, detailDigest⟩

def parseSchema (schema : JsString) : Except JournalError JournalSchema :=
  if schema = schemaV0 then .ok .v0
  else if schema = schemaV1 then .ok .v1
  else if newerSchema schema = true then .error .unknownNewerSchema
  else .error .unknownSchema

def positiveMember (name : String) (value : JsValue) : Except JournalError Nat := do
  let number ← required ((numberOf (property name value)).bind safeNatural) .invalidRecord
  ensure (1 ≤ number) .invalidRecord
  return number

def hashMember (name : String) (value : JsValue) : Except JournalError JsString := do
  let hash ← required (textOf (property name value)) .invalidRecord
  ensure (validDigest hash) .invalidRecord
  return hash

def flatPayload (value : JsValue) : JsValue :=
  object (payloadKeys.map fun name => (name, field name value))

def payloadMember (schema : JournalSchema) (value : JsValue) : JsValue :=
  match schema with
  | .v0 => flatPayload value
  | .v1 => field "payload" value

variable [NumberFormat]

def parseRawLine (line : JsString) : Except JournalError (JsValue × RawRecord) := do
  let value ← required (parse line) .invalidLine
  let schemaText ← required (textOf (property "schema" value)) .invalidRecord
  let schema ← parseSchema schemaText
  exactObject value schema.keys .invalidRecord
  let generation ← positiveMember "generation" value
  let sequence ← positiveMember "sequence" value
  let previousHash ← hashMember "previousHash" value
  let recordHash ← hashMember "recordHash" value
  let payload ← validatePayload (payloadMember schema value)
  return (value, ⟨schema, generation, sequence, previousHash, payload, recordHash⟩)

def withoutHash : JsValue → JsValue
  | .obj proto fields => .obj proto (fields.filter fun entry => entry.1 ≠ js "recordHash")
  | value => value

end Journal

section Files

variable [Engine]

def recordDigest (core : JsValue) : Except JournalError JsString := do
  let text ← canonical core
  return Engine.sha256Hex (js "horseness.installer-journal-record" ++ 0 :: text)

def authenticateRaw (value : JsValue) (record : RawRecord) : Except JournalError Unit := do
  let digest ← recordDigest (withoutHash value)
  ensure (digest = record.recordHash) .hashMismatch

def upcast (record : RawRecord) : InstallerJournalRecordV1 :=
  ⟨record.generation, record.sequence, record.previousHash, record.payload, record.recordHash⟩

/-- The lines from an index on, after a record with the given hash. -/
def readLines (generation : Nat) : Nat → JsString → List JsString →
    Except JournalError (List InstallerJournalRecordV1)
  | _, _, [] => .ok []
  | index, previousHash, line :: rest => do
      let (value, raw) ← parseRawLine line
      authenticateRaw value raw
      ensure (raw.generation = generation ∧ raw.sequence = index + 1 ∧
        raw.previousHash = previousHash) .chainMismatch
      let records ← readLines generation (index + 1) raw.recordHash rest
      return upcast raw :: records

def recordLines (text : JsString) : List JsString := (text.splitOn 10).filter (· ≠ [])

def fileText (file : Option (List Nat)) : JsString := decodeUtf8 (file.getD [])

def InstallerJournal.read (generation : Nat) (file : Option (List Nat)) :
    Except JournalError (List InstallerJournalRecordV1) :=
  readLines generation 0 zeros (recordLines (fileText file))

def InstallerJournalRecordV1.raw (record : InstallerJournalRecordV1) : RawRecord :=
  ⟨.v1, record.generation, record.sequence, record.previousHash, record.payload, record.recordHash⟩

/-- What an append that holds the lock does: its record, and the file it leaves. -/
def InstallerJournal.append (generation : Nat) (payload : JsValue) (file : Option (List Nat)) :
    Except JournalError (InstallerJournalRecordV1 × List Nat) := do
  let payload ← validatePayload payload
  let records ← InstallerJournal.read generation file
  let previousHash := (records.getLast?.map (·.recordHash)).getD zeros
  let core : InstallerJournalRecordV1 := ⟨generation, records.length + 1, previousHash, payload, []⟩
  let recordHash ← recordDigest core.raw.core
  let record := { core with recordHash }
  let line ← canonical record.raw.toJson
  return (record, utf8 (fileText file ++ line ++ [10]))

end Files

end Horseness.JournalFiles
