import Horseness.JournalFiles

/-!
The files that a journal reads: chains of records whose operation is one of the ten of the journal,
or the name of a member that every object inherits.
-/

namespace Horseness.JournalChains

open FallibleRuns Records Utf8Text ScriptText JsonValues JsonText ScriptEngine Cursors PlainObjects
  DispatchAuthority Retention ReleaseTrust RecordedRuns JournalFiles

section Lines

theorem record_lines_append (front back : JsString) :
    recordLines (front ++ 10 :: back) = recordLines front ++ recordLines back := by
  rw [recordLines, List.splitOn_append_cons_self, List.filter_append]
  rfl

theorem record_lines_single {line : JsString} (single : 10 ∉ line) (filled : line ≠ []) :
    recordLines line = [line] := by
  rw [recordLines, List.splitOn_eq_singleton single, List.filter_cons_of_pos (by simpa using filled),
    List.filter_nil]

theorem record_lines_line {line : JsString} (single : 10 ∉ line) (filled : line ≠ []) :
    recordLines (line ++ [10]) = [line] := by
  rw [record_lines_append, record_lines_single single filled]
  rfl

end Lines

section Members

theorem exact_keys_iff {keys : List String} {proto : JsProto} {fields : List (JsString × JsValue)}
    (unique : (keys.map js).Nodup) : hasExactKeys keys (.obj proto fields) = true ↔
      ∀ name, findEntry name fields ≠ none ↔ name ∈ keys.map js := by
  have visible (name : JsString) :
      findEntry name fields ≠ none ↔ name ∈ (sortFields fields).map Prod.fst := by
    rw [← find_sort, ne_eq, find_none_iff, not_not]
  have sorted := List.perm_insertionSort (· ≤ ·) (keys.map js)
  simp only [hasExactKeys, decide_eq_true_eq, visible]
  constructor
  · intro same name
    rw [same]
    exact sorted.mem_iff
  · intro same
    have order : ((sortFields fields).map Prod.fst).Perm ((keys.map js).insertionSort (· ≤ ·)) :=
      (List.perm_ext_iff_of_nodup (sort_unique fields) (sorted.nodup_iff.mpr unique)).mpr
        fun name => (same name).trans sorted.mem_iff.symm
    refine order.eq_of_pairwise (fun _ _ _ _ => List.le_antisymm) ?_ ?_
    · exact List.pairwise_map.mpr (sort_ordered fields)
    · exact @List.pairwise_insertionSort _ (fun left right : JsString => left ≤ right) _
        ⟨List.le_total⟩ ⟨fun _ _ _ => List.le_trans⟩ _

theorem text_meaning {value : JsValue} {text : JsString} :
    meaning value = .str text ↔ value = .str text := by
  cases value with
  | num number => cases number <;> simp [meaning, JsNumber.meaning]
  | _ => simp [meaning]

theorem safe_natural_iff {number : JsNumber} {value : Nat} :
    safeNatural number = some value ↔ number.meaning = .num value ∧ value ≤ maxSafeInteger := by
  cases number with
  | finite given =>
      simp only [safeNatural, JsNumber.meaning, JsonTree.num.injEq]
      constructor
      · intro read
        split_ifs at read with fits
        rcases fits with ⟨whole, low, high⟩
        cases read
        have back : (given.num.toNat : Int) = given.num := Int.toNat_of_nonneg low
        refine ⟨?_, high⟩
        rw [← Int.cast_natCast, back]
        exact (Rat.den_eq_one_iff given).mp whole |>.symm
      · rintro ⟨rfl, high⟩
        simp [high]
  | negativeZero =>
      simp only [safeNatural, JsNumber.meaning, Option.some.injEq, JsonTree.num.injEq, eq_comm,
        Rat.natCast_eq_zero_iff]
      exact ⟨fun zero => ⟨zero, zero ▸ Nat.zero_le _⟩, And.left⟩
  | nan | infinite => simp [safeNatural, JsNumber.meaning]

-- An object means what a list of fields means, where it has these members and no others.
theorem object_meaning_iff {proto : JsProto} {fields : List (JsString × JsValue)}
    {expected : List (String × JsValue)} (unique : (expected.map fun field => js field.1).Nodup) :
    meaning (.obj proto fields) = meaning (object expected) ↔
      hasExactKeys (expected.map Prod.fst) (.obj proto fields) = true ∧
        ∀ field ∈ expected, (property field.1 (.obj proto fields)).map meaning =
          some (meaning field.2) := by
  have names : (expected.map Prod.fst).map js = expected.map fun field => js field.1 := by
    rw [List.map_map]
    rfl
  rw [exact_keys_iff (names ▸ unique), names]
  simp only [object, meaning, JsonTree.obj.injEq, meaning_fields, property]
  have listed {field : String × JsValue} (member : field ∈ expected) :
      findEntry (js field.1) (expected.map fun field => (js field.1, field.2)) = some field.2 := by
    apply member_find
    · simpa [List.map_map, Function.comp_def] using unique
    · exact List.mem_map.mpr ⟨field, member, rfl⟩
  have absent {name : JsString} (outside : name ∉ expected.map fun field => js field.1) :
      findEntry name (expected.map fun field => (js field.1, field.2)) = none := by
    rw [find_none_iff]
    simpa [List.map_map, Function.comp_def] using outside
  constructor
  · intro same
    have each := fun name => congrFun same name
    refine ⟨fun name => ?_, fun field member => ?_⟩
    · by_cases inside : name ∈ expected.map fun field => js field.1
      · rcases List.mem_map.mp inside with ⟨field, member, rfl⟩
        have here := each (js field.1)
        rw [listed member] at here
        simp only [inside, iff_true]
        intro missing
        rw [missing] at here
        cases here
      · have here := each name
        rw [absent inside] at here
        simpa [inside] using here
    · have here := each (js field.1)
      rwa [listed member] at here
  · rintro ⟨keyed, each⟩
    funext name
    by_cases inside : name ∈ expected.map fun field => js field.1
    · rcases List.mem_map.mp inside with ⟨field, member, rfl⟩
      rw [listed member]
      exact each field member
    · have missing : findEntry name fields = none := by
        by_contra found
        exact inside ((keyed name).mp found)
      rw [absent inside, missing]

end Members

section Canonical

variable [NumberFormat]

theorem canonical_fields (fields : List (JsString × JsValue)) :
    canonicalFields fields = fields.map fun entry => (entry.1, canonical entry.2) := by
  induction fields with
  | nil => rfl
  | cons entry rest ih => rw [canonicalFields, ih, List.map_cons]

theorem canonical_congr {left right : JsProto} {fields others : List (JsString × JsValue)}
    (same : ∀ name, (findEntry name fields).map canonical = (findEntry name others).map canonical) :
    canonical (.obj left fields) = canonical (.obj right others) := by
  have sorted : sortFields (canonicalFields fields) = sortFields (canonicalFields others) := by
    apply ordered_ext (sort_unique _) (sort_unique _) (sort_ordered _) (sort_ordered _)
    intro name
    rw [find_sort, find_sort, canonical_fields, canonical_fields, find_map, find_map]
    exact same name
  rw [canonical, canonical, sorted]

/-- The values that records are made of. -/
inductive Plain : JsValue → Prop
  | text (value : JsString) : Plain (.str value)
  | number (value : Nat) : Plain (natural value)
  | object {fields : List (String × JsValue)} (each : ∀ field ∈ fields, Plain field.2) :
      Plain (object fields)

theorem canonical_plain {right : JsValue} (plain : Plain right) :
    ∀ left, meaning left = meaning right → canonical left = canonical right := by
  induction plain with
  | text value =>
      intro left same
      rw [text_meaning.mp same]
  | number value =>
      intro left same
      cases left with
      | num number =>
          cases number with
          | finite given =>
              rw [natural, meaning, meaning, JsNumber.meaning, JsNumber.meaning,
                JsonTree.num.injEq] at same
              rw [natural, same]
          | negativeZero =>
              rw [natural, meaning, meaning, JsNumber.meaning, JsNumber.meaning,
                JsonTree.num.injEq] at same
              rw [natural, ← same]
              simp [canonical, integerText, NumberFormat.write_zero]
          | _ => cases same
      | _ => cases same
  | object each ih =>
      rename_i fields
      intro left same
      cases left with
      | obj proto entries =>
          apply canonical_congr
          intro name
          rw [JsonValues.object, meaning, meaning, JsonTree.obj.injEq, meaning_fields,
            meaning_fields] at same
          have here := congrFun same name
          cases found : findEntry name (fields.map fun field => (js field.1, field.2)) with
          | none =>
              rw [found, Option.map_none, Option.map_eq_none_iff] at here
              rw [here]
          | some value =>
              rw [found, Option.map_some, Option.map_eq_some_iff] at here
              rcases here with ⟨given, read, agree⟩
              rcases List.mem_map.mp (find_member name value _ found) with ⟨field, member, named⟩
              cases named
              rw [read, Option.map_some, Option.map_some, ih field member given agree]
      | num number => cases number <;> cases same
      | _ => cases same

end Canonical

section Records

def JournalOperation (operation : JsString) : Prop := operation ∈ operations.keys

/-- The names that `in` finds besides them. -/
def Inherited (operation : JsString) : Prop := operation ∈ inheritedNames

theorem present_iff (operation : JsString) :
    present operations operation = true ↔ JournalOperation operation ∨ Inherited operation := by
  rw [present, Bool.or_eq_true, List.contains_iff_mem, Option.isSome_iff_exists, JournalOperation,
    Record.mem_keys_iff]
  rfl

theorem operations_apart {operation : JsString} (listed : JournalOperation operation) :
    ¬ Inherited operation := by
  have apart : ∀ name ∈ operations.keys, inheritedNames.contains name = false := by decide
  intro inherited
  rw [Inherited, ← List.contains_iff_mem, apart operation listed] at inherited
  cases inherited

structure ValidPayload (allowed : JsString → Prop) (payload : InstallerJournalPayloadV1) : Prop where
  operation : allowed payload.operation
  transactionId : tokenPattern payload.transactionId = true
  releaseVersion : tokenPattern payload.releaseVersion = true
  detailDigest : validDigest payload.detailDigest

structure ValidRecord (allowed : JsString → Prop) (record : RawRecord) : Prop where
  generation : 1 ≤ record.generation ∧ record.generation ≤ maxSafeInteger
  sequence : 1 ≤ record.sequence ∧ record.sequence ≤ maxSafeInteger
  previousHash : validDigest record.previousHash
  recordHash : validDigest record.recordHash
  payload : ValidPayload allowed record.payload

def known (operation : JsString) : Prop := JournalOperation operation ∨ Inherited operation

theorem text_member_iff {name : String} {value : JsValue} {text : JsString} :
    textOf (property name value) = some text ↔
      (property name value).map meaning = some (.str text) := by
  cases property name value with
  | none => simp [textOf]
  | some member =>
      rw [Option.map_some, Option.some.injEq, text_meaning]
      cases member <;> simp [textOf]

theorem number_member_iff {name : String} {value : JsValue} {number : Nat} :
    (numberOf (property name value)).bind safeNatural = some number ↔
      (property name value).map meaning = some (meaning (natural number)) ∧
        number ≤ maxSafeInteger := by
  cases property name value with
  | none => simp [numberOf]
  | some member =>
      cases member with
      | num given =>
          rw [numberOf, Option.bind_some, safe_natural_iff, Option.map_some, Option.some.injEq]
          rfl
      | _ => simp [numberOf, meaning, natural, JsNumber.meaning]

theorem validate_payload_iff {value : JsValue} {payload : InstallerJournalPayloadV1} :
    validatePayload value = .ok payload ↔ hasExactKeys payloadKeys value = true ∧
      (∀ field ∈ payload.fields, (property field.1 value).map meaning = some (meaning field.2)) ∧
      ValidPayload known payload := by
  simp only [validatePayload, exactObject, bind_ok_iff, ensure_ok_iff, required_ok_iff, pure_ok_iff,
    present_iff, InstallerJournalPayloadV1.fields, List.forall_mem_cons, meaning, ← text_member_iff]
  constructor
  · rintro ⟨_, keyed, operation, one, _, named, transactionId, two, _, token, releaseVersion, three, _,
      version, detailDigest, four, _, digest, rfl⟩
    exact ⟨keyed, ⟨one, two, three, four, by simp⟩, ⟨named, token, version, digest⟩⟩
  · rintro ⟨keyed, ⟨one, two, three, four, -⟩, valid⟩
    exact ⟨(), keyed, _, one, (), valid.operation, _, two, (), valid.transactionId, _, three, (),
      valid.releaseVersion, _, four, (), valid.detailDigest, rfl⟩

theorem payload_names (payload : InstallerJournalPayloadV1) :
    (payload.fields.map fun field => js field.1).Nodup :=
  show (payloadKeys.map js).Nodup by decide

theorem keyed_object {keys : List String} {value : JsValue} (keyed : hasExactKeys keys value = true) :
    ∃ proto fields, value = .obj proto fields := by
  cases value with
  | obj proto fields => exact ⟨proto, fields, rfl⟩
  | _ => cases keyed

theorem meaning_object {value : JsValue} {expected : List (String × JsValue)}
    (same : meaning value = meaning (object expected)) : ∃ proto fields, value = .obj proto fields := by
  cases value with
  | obj proto fields => exact ⟨proto, fields, rfl⟩
  | num number => cases number <;> cases same
  | _ => cases same

theorem payload_ok_iff {value : JsValue} {payload : InstallerJournalPayloadV1} :
    validatePayload value = .ok payload ↔
      meaning value = meaning (object payload.fields) ∧ ValidPayload known payload := by
  rw [validate_payload_iff]
  constructor
  · rintro ⟨keyed, members, valid⟩
    rcases keyed_object keyed with ⟨proto, fields, rfl⟩
    exact ⟨(object_meaning_iff (payload_names payload)).mpr ⟨keyed, members⟩, valid⟩
  · rintro ⟨same, valid⟩
    rcases meaning_object same with ⟨proto, fields, rfl⟩
    rcases (object_meaning_iff (payload_names payload)).mp same with ⟨keyed, members⟩
    exact ⟨keyed, members, valid⟩

theorem flat_property {name : String} (value : JsValue) (listed : name ∈ payloadKeys) :
    property name (flatPayload value) = some (field name value) := by
  refine member_find _ _ _ ?_ (List.mem_map.mpr ⟨(name, field name value),
    List.mem_map.mpr ⟨name, listed, rfl⟩, rfl⟩)
  exact show (payloadKeys.map js).Nodup by decide

theorem text_field_iff {name : String} {value : JsValue} {text : JsString} :
    meaning (field name value) = .str text ↔ (property name value).map meaning = some (.str text) := by
  rw [field]
  cases property name value <;> simp [meaning]

theorem flat_payload_iff {value : JsValue} {payload : InstallerJournalPayloadV1} :
    meaning (flatPayload value) = meaning (object payload.fields) ↔
      ∀ field ∈ payload.fields, (property field.1 value).map meaning = some (meaning field.2) := by
  have keyed : hasExactKeys payloadKeys (flatPayload value) = true := by
    rw [flatPayload, object, exact_keys_iff (by decide)]
    intro name
    rw [ne_eq, find_none_iff, not_not]
    rfl
  have member : ∀ given ∈ payload.fields,
      (property given.1 (flatPayload value)).map meaning = some (meaning given.2) ↔
        (property given.1 value).map meaning = some (meaning given.2) := by
    intro given listed
    have name : given.1 ∈ payloadKeys := List.mem_map.mpr ⟨given, listed, rfl⟩
    have text : ∃ text, given.2 = .str text := by
      simp only [InstallerJournalPayloadV1.fields, List.mem_cons, List.not_mem_nil, or_false] at listed
      rcases listed with rfl | rfl | rfl | rfl <;> exact ⟨_, rfl⟩
    rcases text with ⟨text, spelled⟩
    rw [flat_property value name, Option.map_some, Option.some.injEq, spelled, meaning, text_field_iff]
  constructor
  · intro same given listed
    exact (member given listed).mp (((object_meaning_iff (payload_names payload)).mp same).2 given listed)
  · intro each
    exact (object_meaning_iff (payload_names payload)).mpr
      ⟨keyed, fun given listed => (member given listed).mpr (each given listed)⟩

end Records

section Lines

theorem record_names (record : RawRecord) :
    record.fields.map Prod.fst = record.schema.keys := by
  cases record with
  | mk schema => cases schema <;> rfl

theorem record_unique (record : RawRecord) : (record.fields.map fun field => js field.1).Nodup := by
  have names : (record.fields.map fun field => js field.1) = record.schema.keys.map js := by
    rw [← record_names, List.map_map]
    rfl
  rw [names]
  cases record.schema <;> decide

theorem schema_ok_iff {text : JsString} {schema : JournalSchema} :
    parseSchema text = .ok schema ↔ text = schema.text := by
  unfold parseSchema
  constructor
  · intro read
    split_ifs at read with old new newer
    · cases read; exact old
    · cases read; exact new
  · rintro rfl
    cases schema with
    | v0 => rfl
    | v1 => rfl

theorem positive_member_iff {name : String} {value : JsValue} {number : Nat} :
    positiveMember name value = .ok number ↔
      (property name value).map meaning = some (meaning (natural number)) ∧
        1 ≤ number ∧ number ≤ maxSafeInteger := by
  simp only [positiveMember, bind_ok_iff, required_ok_iff, ensure_ok_iff, pure_ok_iff,
    number_member_iff]
  constructor
  · rintro ⟨_, ⟨read, high⟩, _, low, rfl⟩
    exact ⟨read, low, high⟩
  · rintro ⟨read, low, high⟩
    exact ⟨number, ⟨read, high⟩, (), low, rfl⟩

theorem hash_member_iff {name : String} {value : JsValue} {hash : JsString} :
    hashMember name value = .ok hash ↔
      (property name value).map meaning = some (.str hash) ∧ validDigest hash := by
  simp only [hashMember, bind_ok_iff, required_ok_iff, ensure_ok_iff, pure_ok_iff, text_member_iff]
  constructor
  · rintro ⟨_, read, _, valid, rfl⟩
    exact ⟨read, valid⟩
  · rintro ⟨read, valid⟩
    exact ⟨hash, read, (), valid, rfl⟩

theorem record_members_iff {value : JsValue} {record : RawRecord} :
    (∀ given ∈ record.fields, (property given.1 value).map meaning = some (meaning given.2)) ↔
      (property "schema" value).map meaning = some (.str record.schema.text) ∧
      (property "generation" value).map meaning = some (meaning (natural record.generation)) ∧
      (property "sequence" value).map meaning = some (meaning (natural record.sequence)) ∧
      (property "previousHash" value).map meaning = some (.str record.previousHash) ∧
      (property "recordHash" value).map meaning = some (.str record.recordHash) ∧
      meaning (payloadMember record.schema value) = meaning (object record.payload.fields) := by
  cases record with
  | mk schema generation sequence previousHash payload recordHash =>
      cases schema with
      | v0 =>
          rw [payloadMember, flat_payload_iff]
          simp only [RawRecord.fields, RawRecord.coreFields, List.forall_mem_append,
            List.forall_mem_cons, meaning, List.not_mem_nil, false_imp_iff, implies_true, and_true,
            and_assoc]
          grind
      | v1 =>
          have nested : meaning (field "payload" value) = meaning (object payload.fields) ↔
              (property "payload" value).map meaning = some (meaning (object payload.fields)) := by
            rw [field]
            cases property "payload" value <;> simp [meaning, object]
          rw [payloadMember, nested]
          simp only [RawRecord.fields, RawRecord.coreFields, List.forall_mem_append,
            List.forall_mem_cons, meaning, List.not_mem_nil, false_imp_iff, implies_true, and_true,
            and_assoc]
          grind

variable [NumberFormat]

/-- The line spells the record: its value has these members and no others. -/
def Spells (line : JsString) (record : RawRecord) : Prop :=
  ∃ value, parse line = some value ∧ meaning value = meaning record.toJson

theorem raw_line_iff {line : JsString} {value : JsValue} {record : RawRecord} :
    parseRawLine line = .ok (value, record) ↔ parse line = some value ∧
      meaning value = meaning record.toJson ∧ ValidRecord known record := by
  have whole : meaning value = meaning record.toJson ↔
      hasExactKeys record.schema.keys value = true ∧
        ∀ given ∈ record.fields, (property given.1 value).map meaning = some (meaning given.2) := by
    rw [← record_names]
    constructor
    · intro same
      rcases meaning_object same with ⟨proto, fields, rfl⟩
      exact (object_meaning_iff (record_unique record)).mp same
    · rintro ⟨keyed, members⟩
      rcases keyed_object keyed with ⟨proto, fields, rfl⟩
      exact (object_meaning_iff (record_unique record)).mpr ⟨keyed, members⟩
  rw [whole, record_members_iff]
  simp only [parseRawLine, exactObject, bind_ok_iff, required_ok_iff, ensure_ok_iff, pure_ok_iff,
    schema_ok_iff, positive_member_iff, hash_member_iff, payload_ok_iff, text_member_iff,
    Prod.mk.injEq]
  constructor
  · rintro ⟨_, read, _, one, schema, rfl, _, keyed, generation, two, sequence, three, _, four, _, five,
      payload, six, rfl, rfl⟩
    exact ⟨read, ⟨keyed, one, two.1, three.1, four.1, five.1, six.1⟩,
      two.2, three.2, four.2, five.2, six.2⟩
  · rintro ⟨read, ⟨keyed, one, two, three, four, five, six⟩, valid⟩
    exact ⟨_, read, _, one, _, rfl, (), keyed, _, ⟨two, valid.generation⟩, _, ⟨three, valid.sequence⟩,
      _, ⟨four, valid.previousHash⟩, _, ⟨five, valid.recordHash⟩, _, ⟨six, valid.payload⟩, rfl, rfl⟩

end Lines

section Chains

-- A record without its hash is its core, and values of one meaning have cores of one meaning.
theorem without_hash_meaning {value : JsValue} {record : RawRecord}
    (same : meaning value = meaning record.toJson) :
    meaning (withoutHash value) = meaning record.core := by
  have core : record.core = withoutHash record.toJson := by
    cases record with
    | mk schema => cases schema <;> rfl
  rcases meaning_object same with ⟨proto, fields, rfl⟩
  rw [core]
  rw [RawRecord.toJson, object, meaning, meaning, JsonTree.obj.injEq, meaning_fields,
    meaning_fields] at same
  rw [RawRecord.toJson, object, withoutHash, withoutHash, meaning, meaning, JsonTree.obj.injEq,
    meaning_fields, meaning_fields]
  funext name
  have here := congrFun same name
  rw [find_filter, find_filter]
  by_cases hashed : js "recordHash" = name
  · rw [if_pos hashed, if_pos hashed]
  · rw [if_neg hashed, if_neg hashed]
    exact here

theorem core_plain (record : RawRecord) : Plain record.core := by
  have payload : ∀ given ∈ record.payload.fields, Plain given.2 := by
    simp only [InstallerJournalPayloadV1.fields, List.forall_mem_cons]
    exact ⟨.text _, .text _, .text _, .text _, nofun⟩
  apply Plain.object
  intro given member
  rcases List.mem_append.mp member with first | rest
  · simp only [List.mem_cons, List.not_mem_nil, or_false] at first
    rcases first with rfl | rfl | rfl | rfl
    · exact .text _
    · exact .number _
    · exact .number _
    · exact .text _
  · cases schema : record.schema with
    | v0 =>
        rw [schema] at rest
        exact payload given rest
    | v1 =>
        rw [schema] at rest
        rw [List.mem_singleton.mp rest]
        exact .object payload

theorem payload_weaken {allowed wider : JsString → Prop} {payload : InstallerJournalPayloadV1}
    (valid : ValidPayload allowed payload) (wide : wider payload.operation) :
    ValidPayload wider payload :=
  ⟨wide, valid.transactionId, valid.releaseVersion, valid.detailDigest⟩

theorem record_weaken {allowed wider : JsString → Prop} {record : RawRecord}
    (valid : ValidRecord allowed record) (wide : wider record.payload.operation) :
    ValidRecord wider record :=
  ⟨valid.generation, valid.sequence, valid.previousHash, valid.recordHash,
    payload_weaken valid.payload wide⟩

variable [Engine]

def Authentic (record : RawRecord) : Prop := recordDigest record.core = .ok record.recordHash

theorem authenticate_ok_iff {value : JsValue} {record : RawRecord}
    (same : meaning value = meaning record.toJson) :
    authenticateRaw value record = .ok () ↔ Authentic record := by
  have digest : recordDigest (withoutHash value) = recordDigest record.core := by
    rw [recordDigest, recordDigest,
      canonical_plain (core_plain record) _ (without_hash_meaning same)]
  simp only [authenticateRaw, bind_ok_iff, ensure_ok_iff, digest, Authentic]
  constructor
  · rintro ⟨_, made, rfl⟩
    exact made
  · exact fun made => ⟨_, made, rfl⟩

/-- The lines from an index on are a chain of records whose operations are allowed. -/
def Chain (allowed : JsString → Prop) (generation : Nat) : Nat → JsString → List JsString → Prop
  | _, _, [] => True
  | index, previousHash, line :: rest => ∃ record, Spells line record ∧
      ValidRecord allowed record ∧ Authentic record ∧ record.generation = generation ∧
      record.sequence = index + 1 ∧ record.previousHash = previousHash ∧
      Chain allowed generation (index + 1) record.recordHash rest

theorem read_cons_iff {generation index : Nat} {previousHash line : JsString}
    {rest : List JsString} {records : List InstallerJournalRecordV1} :
    readLines generation index previousHash (line :: rest) = .ok records ↔
      ∃ record later, Spells line record ∧ ValidRecord known record ∧ Authentic record ∧
        record.generation = generation ∧ record.sequence = index + 1 ∧
        record.previousHash = previousHash ∧
        readLines generation (index + 1) record.recordHash rest = .ok later ∧
        records = upcast record :: later := by
  simp only [readLines, bind_ok_iff, ensure_ok_iff, pure_ok_iff, Prod.exists]
  constructor
  · rintro ⟨value, record, read, _, authentic, _, linked, later, others, rfl⟩
    rcases raw_line_iff.mp read with ⟨given, same, valid⟩
    exact ⟨record, later, ⟨value, given, same⟩, valid, (authenticate_ok_iff same).mp authentic,
      linked.1, linked.2.1, linked.2.2, others, rfl⟩
  · rintro ⟨record, later, ⟨value, given, same⟩, valid, authentic, first, second, third, others, rfl⟩
    exact ⟨value, record, raw_line_iff.mpr ⟨given, same, valid⟩, (),
      (authenticate_ok_iff same).mpr authentic, (), ⟨first, second, third⟩, later, others, rfl⟩

-- A reader that stops at the first bad line accepts exactly the chains.
theorem read_lines_iff {generation : Nat} (lines : List JsString) : ∀ {index previousHash},
    (∃ records, readLines generation index previousHash lines = .ok records) ↔
      Chain known generation index previousHash lines := by
  induction lines with
  | nil => exact fun {_ _} => ⟨fun _ => trivial, fun _ => ⟨[], rfl⟩⟩
  | cons line rest ih =>
      intro index previousHash
      simp only [read_cons_iff, Chain, ← ih]
      constructor
      · rintro ⟨_, record, later, spelled, valid, authentic, first, second, third, others, -⟩
        exact ⟨record, spelled, valid, authentic, first, second, third, later, others⟩
      · rintro ⟨record, spelled, valid, authentic, first, second, third, later, others⟩
        exact ⟨_, record, later, spelled, valid, authentic, first, second, third, others, rfl⟩

theorem chain_weaken {allowed wider : JsString → Prop} {generation : Nat} {lines : List JsString} :
    ∀ {index previousHash}, Chain allowed generation index previousHash lines →
    (∀ line ∈ lines, ∀ record, Spells line record → allowed record.payload.operation →
      wider record.payload.operation) →
    Chain wider generation index previousHash lines := by
  induction lines with
  | nil => exact fun _ _ => trivial
  | cons line rest ih =>
      rintro index previousHash ⟨record, spelled, valid, authentic, linked⟩ wide
      have named := wide line List.mem_cons_self record spelled valid.payload.operation
      exact ⟨record, spelled, record_weaken valid named, authentic, linked.1, linked.2.1, linked.2.2.1,
        ih linked.2.2.2 fun other member => wide other (List.mem_cons_of_mem _ member)⟩

theorem chain_single {allowed : JsString → Prop} {generation : Nat} {line : JsString}
    {record : RawRecord} (spelled : Spells line record) (valid : ValidRecord allowed record)
    (authentic : Authentic record) (here : record.generation = generation)
    (first : record.sequence = 1) (fresh : record.previousHash = zeros) :
    Chain allowed generation 0 zeros [line] :=
  ⟨record, spelled, valid, authentic, here, first, fresh, trivial⟩

theorem chain_allowed {allowed : JsString → Prop} {generation : Nat} {lines : List JsString} :
    ∀ {index previousHash}, Chain allowed generation index previousHash lines →
    ∀ line ∈ lines, ∃ record, Spells line record ∧ allowed record.payload.operation := by
  induction lines with
  | nil => exact fun _ _ => nofun
  | cons first rest ih =>
      rintro index previousHash ⟨record, spelled, valid, -, -, -, -, others⟩ line member
      rcases List.mem_cons.mp member with rfl | later
      · exact ⟨record, spelled, valid.payload.operation⟩
      · exact ih others line later

theorem spelled_operation {line : JsString} {record other : RawRecord} (first : Spells line record)
    (second : Spells line other) : record.payload.operation = other.payload.operation := by
  rcases first with ⟨value, read, same⟩
  rcases second with ⟨again, reread, agree⟩
  cases read.symm.trans reread
  rcases meaning_object same with ⟨proto, fields, rfl⟩
  have members := record_members_iff.mp ((object_meaning_iff (record_unique record)).mp same).2
  have others := record_members_iff.mp ((object_meaning_iff (record_unique other)).mp agree).2
  have schema : record.schema = other.schema := by
    have texts := members.1.symm.trans others.1
    rw [Option.some.injEq, JsonTree.str.injEq] at texts
    cases left : record.schema <;> cases right : other.schema <;>
      first | rfl | (rw [left, right] at texts; revert texts; decide)
  have payloads := members.2.2.2.2.2.symm.trans (schema ▸ others.2.2.2.2.2)
  have listed := object_meaning payloads rfl (payload_names record.payload)
  simp only [InstallerJournalPayloadV1.fields, List.map_cons, List.cons.injEq, meaning,
    JsonTree.str.injEq] at listed
  exact listed.1

def Accepts (generation : Nat) (file : Option (List Nat)) : Prop :=
  ∃ records, InstallerJournal.read generation file = .ok records

/-- The lines of the file are a chain of records with operations of the journal. -/
def ValidChain (generation : Nat) (file : Option (List Nat)) : Prop :=
  Chain JournalOperation generation 0 zeros (recordLines (fileText file))

/-- The lines are a chain but for operations that are names every object inherits. -/
def InheritedChain (generation : Nat) (file : Option (List Nat)) : Prop :=
  Chain known generation 0 zeros (recordLines (fileText file)) ∧
    ∃ line ∈ recordLines (fileText file), ∃ record, Spells line record ∧
      Inherited record.payload.operation

theorem accepts_iff (generation : Nat) (file : Option (List Nat)) :
    Accepts generation file ↔ Chain known generation 0 zeros (recordLines (fileText file)) :=
  read_lines_iff _

theorem accepts_single {generation : Nat} {file : Option (List Nat)} {line : JsString}
    (lines : recordLines (fileText file) = [line]) (chain : Chain known generation 0 zeros [line]) :
    Accepts generation file := by
  rw [accepts_iff, lines]
  exact chain

theorem inherited_refused {generation : Nat} {file : Option (List Nat)} {line : JsString}
    {record : RawRecord} (lines : recordLines (fileText file) = [line]) (spelled : Spells line record)
    (inherited : Inherited record.payload.operation) : ¬ ValidChain generation file := by
  intro chain
  rw [ValidChain, lines] at chain
  rcases chain_allowed chain line List.mem_cons_self with ⟨other, again, listed⟩
  rw [← spelled_operation spelled again] at listed
  exact operations_apart listed inherited

/-- Exactly the valid chains are read, unless an operation is an inherited name. -/
theorem journal_chains (generation : Nat) (file : Option (List Nat)) :
    (Accepts generation file ↔ ValidChain generation file) ↔ ¬ InheritedChain generation file := by
  rw [accepts_iff]
  constructor
  · rintro same ⟨chain, line, member, record, spelled, inherited⟩
    rcases chain_allowed (same.mp chain) line member with ⟨other, again, listed⟩
    rw [← spelled_operation spelled again] at listed
    exact operations_apart listed inherited
  · intro apart
    constructor
    · intro chain
      apply chain_weaken chain
      intro line member record spelled operation
      rcases operation with listed | inherited
      · exact listed
      · exact absurd ⟨chain, line, member, record, spelled, inherited⟩ apart
    · exact fun chain => chain_weaken chain fun _ _ _ _ listed => .inl listed

end Chains

section Samples

attribute [local instance] recordedNumbers

def namedRecord : RawRecord :=
  ⟨.v1, 1, 1, zeros, ⟨js "toString", js "t", js "1.0.0", zeros⟩,
    js "79086c7a855086211fe4866479e7949bb89c0698f2aa09d755a2b4309b8f4b97"⟩

def namedLine : JsString := JsonWriting.stringify namedRecord.toJson

def namedFile : Option (List Nat) := some (utf8 (namedLine ++ [10]))

def namedDigests : List (JsString × JsString) :=
  [(js "horseness.installer-journal-record" ++ 0 :: ((canonical namedRecord.core).toOption.getD []),
    namedRecord.recordHash)]

@[reducible] def namedEngine : Engine :=
  { recordedEngine with sha256Hex := IdealDigests.tableDigest namedDigests }

end Samples

section Named

attribute [local instance] namedEngine

theorem named_lines : recordLines (fileText namedFile) = [namedLine] := by
  have whole := JsonWriting.stringify_line namedRecord.toJson
  have single : (10 : UInt16) ∉ namedLine := fun member => absurd (whole.2 10 member) (by decide)
  have ended : JsonWriting.OneLine namedLine := whole
  have valid : validUnicode (namedLine ++ [10]) = true :=
    WellFormedText.valid_append ended.1 (by decide)
  rw [namedFile, fileText, Option.getD_some, decode_utf8 valid,
    record_lines_line single (JsonWriting.stringify_filled _)]

theorem named_spelled : Spells namedLine namedRecord :=
  ⟨_, JsonWriting.parse_stringify _, JsonWriting.meaning_reread _⟩

theorem named_valid : ValidRecord known namedRecord where
  generation := by decide
  sequence := by decide
  previousHash := by decide +kernel
  recordHash := by decide +kernel
  payload := {
    operation := .inr (show js "toString" ∈ inheritedNames by decide)
    transactionId := by decide
    releaseVersion := by decide
    detailDigest := by decide +kernel }

theorem named_authentic : Authentic namedRecord := by
  have made : (recordDigest namedRecord.core).toOption = some namedRecord.recordHash := by
    decide +kernel
  rw [Authentic]
  cases found : recordDigest namedRecord.core with
  | error failure => rw [found] at made; cases made
  | ok hash => rw [found] at made; exact congrArg Except.ok (Option.some.inj made)

/-- The record with an inherited name is read, though it is no operation of the journal. -/
theorem named_accepted : Accepts 1 namedFile ∧ ¬ ValidChain 1 namedFile := by
  constructor
  · exact accepts_single named_lines (chain_single named_spelled named_valid named_authentic rfl rfl rfl)
  · exact inherited_refused named_lines named_spelled (show js "toString" ∈ inheritedNames by decide)

end Named

end Horseness.JournalChains
