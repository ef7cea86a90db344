import Horseness.DecodedText
import Horseness.JournalChains
import Horseness.JsonSizes

/-!
An append extends what the journal reads by its record, where the text of the file ends with the end
of a line: the new line is written directly after the text, so it joins a last line without one.
-/

namespace Horseness.JournalAppends

open FallibleRuns ScriptText JsonValues JsonText JsonWriting ScriptEngine Cursors Retention Utf8Text
  DecodedText WellFormedText JournalFiles JournalChains JsonSizes

section Writing

/-- Plain values whose numbers are safe. -/
inductive Safe : JsValue → Prop
  | text (value : JsString) : Safe (.str value)
  | number {value : Nat} (safe : value ≤ maxSafeInteger) : Safe (natural value)
  | object {fields : List (String × JsValue)} (each : ∀ field ∈ fields, Safe field.2) :
      Safe (object fields)

theorem payload_safe (payload : InstallerJournalPayloadV1) :
    ∀ given ∈ payload.fields, Safe given.2 := by
  simp only [InstallerJournalPayloadV1.fields, List.forall_mem_cons]
  exact ⟨.text _, .text _, .text _, .text _, by simp⟩

theorem core_fields_safe {record : RawRecord} (generation : record.generation ≤ maxSafeInteger)
    (sequence : record.sequence ≤ maxSafeInteger) : ∀ given ∈ record.coreFields, Safe given.2 := by
  refine List.forall_mem_append.mpr ⟨?_, ?_⟩
  · simp only [List.forall_mem_cons]
    exact ⟨.text _, .number generation, .number sequence, .text _, by simp⟩
  · cases record.schema with
    | v0 => exact payload_safe record.payload
    | v1 => exact List.forall_mem_singleton.mpr (.object (payload_safe record.payload))

theorem record_safe {record : RawRecord} (generation : record.generation ≤ maxSafeInteger)
    (sequence : record.sequence ≤ maxSafeInteger) : Safe record.toJson :=
  .object (List.forall_mem_append.mpr ⟨core_fields_safe generation sequence,
    List.forall_mem_singleton.mpr (.text _)⟩)

variable [NumberFormat]

-- The text of a safe value is that of `JSON.stringify` with its members in order.
theorem canonical_safe {value : JsValue} (safe : Safe value) :
    canonical value = .ok (stringify (normalize value)) := by
  induction safe with
  | text value => rfl
  | number safe =>
      rename_i value
      have fits : ((value : Rat).den = 1 ∧ (value : Rat).num.natAbs ≤ maxSafeInteger) := by
        simpa using safe
      rw [natural, canonical, integerText, if_pos fits]
      rfl
  | object each ih =>
      rename_i fields
      have members : (sortFields (canonicalFields (fields.map fun field => (js field.1, field.2)))).mapM
          canonicalMember = .ok ((sortFields (normalizeFields
            (fields.map fun field => (js field.1, field.2)))).map memberLine) := by
        rw [canonical_fields, normalize_fields, sort_map, sort_map, mapM_ok_iff, List.forall₂_map_left_iff,
          List.forall₂_map_right_iff, List.forall₂_map_right_iff, List.forall₂_same]
        intro entry member
        rcases List.mem_map.mp (sort_subset _ member) with ⟨field, listed, rfl⟩
        rw [canonicalMember, ih field listed]
        rfl
      rw [JsonValues.object, canonical, members, JsonValues.normalize, stringify_obj, distinct_fields (sort_unique _)]
      rfl

theorem line_spells {record : RawRecord} : Spells (stringify (normalize record.toJson)) record :=
  ⟨_, parse_stringify _, by rw [meaning_reread, meaning_normalize]⟩

end Writing

section Lines

-- A text is whole lines with their ends, and a last line without one.
theorem last_line (text : JsString) : ∃ front tail, text = front ++ tail ∧ 10 ∉ tail ∧
    (front = [] ∨ ∃ lines, front = lines ++ [10]) := by
  induction text using List.reverseRecOn with
  | nil => exact ⟨[], [], rfl, nofun, .inl rfl⟩
  | append_singleton before unit ih =>
      rcases ih with ⟨front, tail, rfl, single, ended⟩
      by_cases ends : unit = 10
      · exact ⟨front ++ tail ++ [unit], [], (List.append_nil _).symm, nofun,
          .inr ⟨front ++ tail, by rw [ends]⟩⟩
      · refine ⟨front, tail ++ [unit], List.append_assoc .., ?_, ended⟩
        intro member
        rcases List.mem_append.mp member with old | new
        · exact single old
        · exact ends (List.mem_singleton.mp new).symm

def Ended (text : JsString) : Prop := text = [] ∨ ∃ lines, text = lines ++ [10]

theorem ended_lines {text line : JsString} (ended : Ended text) (single : 10 ∉ line)
    (filled : line ≠ []) : recordLines (text ++ line ++ [10]) = recordLines text ++ [line] := by
  rcases ended with rfl | ⟨lines, rfl⟩
  · rw [List.nil_append, record_lines_line single filled]
    rfl
  · have whole : lines ++ [10] ++ line ++ [10] = lines ++ 10 :: (line ++ [10]) := by simp
    have alone : recordLines (lines ++ [10]) = recordLines lines ++ recordLines [] :=
      record_lines_append lines []
    rw [whole, record_lines_append, record_lines_line single filled, alone]
    exact congrArg (· ++ [line]) (List.append_nil _).symm

theorem joined_lines {text line : JsString} (open_ : ¬ Ended text) (single : 10 ∉ line) :
    (recordLines (text ++ line ++ [10])).length = (recordLines text).length := by
  rcases last_line text with ⟨front, tail, rfl, alone, ended⟩
  have filled : tail ≠ [] := by
    rintro rfl
    rw [List.append_nil] at open_
    exact open_ ended
  have both : 10 ∉ tail ++ line := by
    intro member
    rcases List.mem_append.mp member with first | second
    · exact alone first
    · exact single second
  have more : tail ++ line ≠ [] := fun empty => filled (List.append_eq_nil_iff.mp empty).1
  rcases ended with rfl | ⟨lines, rfl⟩
  · rw [List.nil_append, record_lines_line both more, record_lines_single alone filled]
    rfl
  · have whole : lines ++ [10] ++ tail ++ line ++ [10] = lines ++ 10 :: (tail ++ line ++ [10]) := by simp
    have before : lines ++ [10] ++ tail = lines ++ 10 :: tail := by simp
    rw [whole, before, record_lines_append lines, record_lines_append lines,
      record_lines_line both more, record_lines_single alone filled, List.length_append,
      List.length_append]
    rfl

theorem map_ok_iff {Failure Result Other : Type} {step : Result → Other}
    {outcome : Except Failure Result} {answer : Other} :
    outcome.map step = .ok answer ↔ ∃ result, outcome = .ok result ∧ step result = answer := by
  cases outcome <;> simp [Except.map]

variable [Engine]

theorem read_length {generation : Nat} {lines : List JsString} : ∀ {index previousHash records},
    readLines generation index previousHash lines = .ok records → records.length = lines.length := by
  induction lines with
  | nil =>
      rintro index previousHash _ ⟨⟩
      rfl
  | cons line rest ih =>
      intro index previousHash records read
      rcases read_cons_iff.mp read with ⟨record, later, -, -, -, -, -, -, others, rfl⟩
      rw [List.length_cons, List.length_cons, ih others]

-- A first line that is read gives its record in front of what any later lines give.
theorem read_step {generation index : Nat} {previousHash line : JsString} {rest : List JsString}
    {records : List InstallerJournalRecordV1}
    (read : readLines generation index previousHash (line :: rest) = .ok records) :
    ∃ raw, ∀ others, readLines generation index previousHash (line :: others) =
      (readLines generation (index + 1) raw.recordHash others).map (upcast raw :: ·) := by
  simp only [readLines, bind_ok_iff, ensure_ok_iff, Prod.exists] at read
  rcases read with ⟨value, raw, parsed, _, authentic, _, linked, -⟩
  refine ⟨raw, fun others => ?_⟩
  have held : ensure (raw.generation = generation ∧ raw.sequence = index + 1 ∧
      raw.previousHash = previousHash) JournalError.chainMismatch = .ok () :=
    (ensure_ok_iff _ _ ()).mpr linked
  rw [readLines, parsed]
  simp only [bind, Except.bind, authentic, held]
  cases readLines generation (index + 1) raw.recordHash others <;> rfl

def lastHash (previousHash : JsString) (records : List InstallerJournalRecordV1) : JsString :=
  (records.getLast?.map (·.recordHash)).getD previousHash

-- A further line is read after the others, under the next number and the last hash.
theorem read_concat_iff {generation : Nat} {lines : List JsString} {line : JsString} :
    ∀ {index previousHash records all},
    readLines generation index previousHash lines = .ok records →
    (readLines generation index previousHash (lines ++ [line]) = .ok all ↔
      ∃ record, Spells line record ∧ ValidRecord known record ∧ Authentic record ∧
        record.generation = generation ∧ record.sequence = index + lines.length + 1 ∧
        record.previousHash = lastHash previousHash records ∧ all = records ++ [upcast record]) := by
  induction lines with
  | nil =>
      rintro index previousHash _ all ⟨⟩
      rw [List.nil_append, read_cons_iff]
      constructor
      · rintro ⟨record, _, spelled, valid, authentic, here, number, linked, ⟨⟩, rfl⟩
        exact ⟨record, spelled, valid, authentic, here, number, linked, rfl⟩
      · rintro ⟨record, spelled, valid, authentic, here, number, linked, rfl⟩
        exact ⟨record, [], spelled, valid, authentic, here, number, linked, rfl, rfl⟩
  | cons first rest ih =>
      intro index previousHash records all read
      rcases read_step read with ⟨raw, step⟩
      rw [step] at read
      rcases map_ok_iff.mp read with ⟨later, others, rfl⟩
      have after : lastHash previousHash (upcast raw :: later) = lastHash raw.recordHash later := by
        cases later with
        | nil => rfl
        | cons next more => simp [lastHash, List.getLast?_cons]
      have count : index + (first :: rest).length + 1 = index + 1 + rest.length + 1 := by
        rw [List.length_cons]
        omega
      rw [List.cons_append, step, map_ok_iff, count, after]
      constructor
      · rintro ⟨found, tail, rfl⟩
        rcases (ih others).mp tail with ⟨record, spelled, valid, authentic, here, number, linked, rfl⟩
        exact ⟨record, spelled, valid, authentic, here, number, linked, rfl⟩
      · rintro ⟨record, spelled, valid, authentic, here, number, linked, rfl⟩
        exact ⟨_, (ih others).mpr ⟨record, spelled, valid, authentic, here, number, linked, rfl⟩, rfl⟩

end Lines

section Appends

-- What is read back from the file of an append: the old text, and the line with its end.
theorem written_text {text line : JsString} (whole : validUnicode text = true)
    (single : OneLine line) : fileText (some (utf8 (text ++ line ++ [10]))) = text ++ line ++ [10] := by
  rw [fileText, Option.getD_some, decode_utf8]
  exact valid_append (valid_append whole single.1) (by decide)

theorem line_single {line : JsString} (single : OneLine line) : 10 ∉ line :=
  fun member => absurd (single.2 10 member) (by decide)

variable [Engine]

def hashOf (record : RawRecord) : JsString :=
  Engine.sha256Hex (js "horseness.installer-journal-record" ++ 0 :: stringify (normalize record.core))

theorem digest_safe {record : RawRecord} (generation : record.generation ≤ maxSafeInteger)
    (sequence : record.sequence ≤ maxSafeInteger) : recordDigest record.core = .ok (hashOf record) := by
  have text : canonical record.core = .ok (stringify (normalize record.core)) :=
    canonical_safe (.object (core_fields_safe generation sequence))
  rw [recordDigest, text]
  rfl

/-- An append succeeds, and what is read afterwards is what was read before and its record. -/
def Extends (generation : Nat) (payload : JsValue) (file : Option (List Nat))
    (records : List InstallerJournalRecordV1) : Prop :=
  ∃ record bytes, InstallerJournal.append generation payload file = .ok (record, bytes) ∧
    InstallerJournal.read generation (some bytes) = .ok (records ++ [record])

/-- The record that an append makes of a payload, after the records it has read. -/
def nextRecord (generation : Nat) (payload : InstallerJournalPayloadV1)
    (records : List InstallerJournalRecordV1) (recordHash : JsString) : RawRecord :=
  ⟨.v1, generation, records.length + 1, lastHash zeros records, payload, recordHash⟩

theorem append_ok_iff {generation : Nat} {payload : JsValue} {file : Option (List Nat)}
    {parsed : InstallerJournalPayloadV1} {records : List InstallerJournalRecordV1}
    (valid : validatePayload payload = .ok parsed)
    (read : InstallerJournal.read generation file = .ok records)
    {record : InstallerJournalRecordV1} {bytes : List Nat} :
    InstallerJournal.append generation payload file = .ok (record, bytes) ↔
      ∃ recordHash line, recordDigest (nextRecord generation parsed records []).core = .ok recordHash ∧
        canonical (nextRecord generation parsed records recordHash).toJson = .ok line ∧
        record = upcast (nextRecord generation parsed records recordHash) ∧
        bytes = utf8 (fileText file ++ line ++ [10]) := by
  simp only [InstallerJournal.append, bind_ok_iff, valid, read, pure_ok_iff, Except.ok.injEq,
    Prod.mk.injEq]
  constructor
  · rintro ⟨_, rfl, _, rfl, recordHash, digest, line, text, rfl, rfl⟩
    exact ⟨recordHash, line, digest, text, rfl, rfl⟩
  · rintro ⟨recordHash, line, digest, text, rfl, rfl⟩
    exact ⟨_, rfl, _, rfl, recordHash, digest, line, text, rfl, rfl⟩

theorem read_valid {generation : Nat} {lines : List JsString} : ∀ {index previousHash records},
    readLines generation index previousHash lines = .ok records →
    ∀ record ∈ records, ∃ raw, ValidRecord known raw ∧ record = upcast raw := by
  induction lines with
  | nil =>
      rintro index previousHash _ ⟨⟩
      exact nofun
  | cons line rest ih =>
      intro index previousHash records read record member
      rcases read_cons_iff.mp read with ⟨raw, later, -, valid, -, -, -, -, others, rfl⟩
      rcases List.mem_cons.mp member with rfl | old
      · exact ⟨raw, valid, rfl⟩
      · exact ih others record old

theorem last_hash_valid {generation : Nat} {lines : List JsString}
    {records : List InstallerJournalRecordV1}
    (read : readLines generation 0 zeros lines = .ok records) : validDigest (lastHash zeros records) := by
  rw [lastHash]
  cases last : records.getLast? with
  | none => exact show validDigest zeros by decide +kernel
  | some record =>
      rcases read_valid read record (List.mem_of_getLast? last) with ⟨raw, valid, rfl⟩
      exact valid.recordHash

theorem appended_safe {generation : Nat} {bytes : List Nat} {payload : InstallerJournalPayloadV1}
    {records : List InstallerJournalRecordV1} {hash : JsString}
    (reread : InstallerJournal.read generation (some bytes) =
      .ok (records ++ [upcast (nextRecord generation payload records hash)])) :
    1 ≤ generation ∧ generation ≤ maxSafeInteger ∧ records.length < maxSafeInteger := by
  have member : upcast (nextRecord generation payload records hash) ∈
      records ++ [upcast (nextRecord generation payload records hash)] :=
    List.mem_append_right _ List.mem_cons_self
  rcases read_valid reread _ member with ⟨raw, valid, same⟩
  have here : generation = raw.generation := congrArg (·.generation) same
  have number : records.length + 1 = raw.sequence := congrArg (·.sequence) same
  have top := valid.sequence.2
  rw [← number] at top
  exact ⟨here ▸ valid.generation.1, here ▸ valid.generation.2, top⟩

section Extensions

variable {generation : Nat} {file : Option (List Nat)} {payload : JsValue}
  {parsed : InstallerJournalPayloadV1} {records : List InstallerJournalRecordV1}

-- An append that extends what was read has found an end, and its record has safe numbers.
theorem extends_ended (read : InstallerJournal.read generation file = .ok records)
    (valid : validatePayload payload = .ok parsed)
    (extended : Extends generation payload file records) : Ended (fileText file) ∧
      1 ≤ generation ∧ generation ≤ maxSafeInteger ∧ records.length < maxSafeInteger := by
  have whole : validUnicode (fileText file) = true := decoded_valid _
  rcases extended with ⟨record, bytes, appended, reread⟩
  rcases (append_ok_iff valid read).mp appended with ⟨hash, line, -, text, rfl, rfl⟩
  have numbers := appended_safe reread
  have spelled : canonical (nextRecord generation parsed records hash).toJson = _ :=
    canonical_safe (record_safe numbers.2.1 (Nat.succ_le_of_lt numbers.2.2))
  cases spelled.symm.trans text
  have single := stringify_line (normalize (nextRecord generation parsed records hash).toJson)
  refine ⟨?_, numbers⟩
  by_contra unended
  -- the joined line is read as one, so there is a record too few
  have count := read_length reread
  rw [written_text whole single, joined_lines unended (line_single single),
    ← read_length read, List.length_append] at count
  exact absurd count (by simp)

end Extensions

end Appends

section Samples

open RecordedRuns

def staged : InstallerJournalPayloadV1 := ⟨js "staged", js "t", js "1.0.0", zeros⟩

def stagedHash : JsString := js "571261af34c7daabede94e1f7328c1f01c712c677d697cded8ee740440c4ed7c"

def stagedRecord : RawRecord := nextRecord 1 staged [] stagedHash

def stagedText : JsString :=
  js "horseness.installer-journal-record" ++
    0 :: @stringify recordedNumbers (normalize stagedRecord.core)

def stagedDigest (text : JsString) : JsString := if text = stagedText then stagedHash else zeros

@[reducible] def stagedEngine : Engine := { recordedEngine with sha256Hex := stagedDigest }

attribute [local instance] stagedEngine

instance staged_digest : Fact (hashOf stagedRecord = stagedHash) := ⟨by decide +kernel⟩

def stagedPayload : JsValue := object staged.fields

theorem staged_valid : validatePayload stagedPayload = .ok staged := by
  refine payload_ok_iff.mpr ⟨rfl, .inl ?_, by decide, by decide, by decide +kernel⟩
  exact show js "staged" ∈ operations.keys by decide

instance staged_hash_valid : Fact (validDigest stagedHash) := ⟨by decide +kernel⟩

theorem staged_hex (text : JsString) : validDigest (Engine.sha256Hex text) := by
  change validDigest (stagedDigest text)
  unfold stagedDigest
  split
  · exact staged_hash_valid.out
  · exact show validDigest zeros by decide +kernel

def stagedLine : JsString := stringify (normalize stagedRecord.toJson)

def cutFile : Option (List Nat) := some (utf8 stagedLine)

theorem cut_text : fileText cutFile = stagedLine := decode_utf8 (stringify_line _).1

theorem cut_read : InstallerJournal.read 1 cutFile = .ok [upcast stagedRecord] := by
  have alone : recordLines stagedLine = [] ++ [stagedLine] :=
    record_lines_single (line_single (stringify_line _)) (stringify_filled _)
  have fresh : readLines 1 0 zeros [] = .ok [] := rfl
  have sound : ValidRecord known stagedRecord :=
    ⟨by decide, by decide, show validDigest zeros by decide +kernel, staged_hash_valid.out,
      (payload_ok_iff.mp staged_valid).2⟩
  have authentic : Authentic stagedRecord := by
    rw [Authentic, digest_safe (by decide) (by decide)]
    exact congrArg Except.ok staged_digest.out
  rw [InstallerJournal.read, cut_text, alone, read_concat_iff fresh]
  exact ⟨stagedRecord, line_spells, sound, authentic, rfl, rfl, rfl, rfl⟩

end Samples

end Horseness.JournalAppends
