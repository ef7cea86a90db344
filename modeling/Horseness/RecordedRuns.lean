import Horseness.Execution
import Mathlib.Data.Rat.Lemmas

/-!
An engine that runs can be evaluated with, and the records such runs are made of.
Number texts are decimal, with the denominator after an exponent mark where there is
one. Digests, instants and their spellings are those recorded for the texts of a run.
-/

namespace Horseness.RecordedRuns

open FallibleRuns ScriptText JsonValues JsonText ScriptEngine Canonical Cursors ForkContext Tasks
  AttemptReceipts TaskPlans ExecutionEvents Execution

section Numbers

def writeNumber (value : Rat) : JsString :=
  (if value.num < 0 then [45] else []) ++ decimal value.num.natAbs ++
    (if value.den = 1 then [] else 69 :: decimal value.den)

def readNumber (text : JsString) : Option JsNumber :=
  let negative := text.head? == some 45
  let digits := if negative then text.tail else text
  let whole : Int := numeral (digits.takeWhile digitUnit)
  let den := match digits.dropWhile digitUnit with
    | [] => 1
    | _ :: rest => numeral rest
  some (.finite (mkRat (if negative then -whole else whole) den))

theorem decimal_digits (value : Nat) : ∀ unit ∈ decimal value, digitUnit unit = true := by
  intro unit member
  obtain ⟨digit, listed, rfl⟩ := List.mem_map.mp member
  have ascii := Nat.isDigit_of_mem_toDigits (by omega) (by omega) listed
  obtain ⟨low, high⟩ := Char.isDigit_iff_toNat.mp ascii
  have back : digit.toNat.toUInt16.toNat = digit.toNat :=
    UInt16.toNat_ofNat_of_lt' (by have nine : '9'.toNat = 57 := rfl; simp [UInt16.size]; omega)
  simp only [digitUnit, Bool.and_eq_true, decide_eq_true_eq, UInt16.le_iff_toNat_le, back]
  exact ⟨low, high⟩

theorem decimal_ne_nil (value : Nat) : decimal value ≠ [] := by
  intro empty
  have digits : Nat.toDigits 10 value = [] := List.map_eq_nil_iff.mp empty
  rw [Nat.toDigits_eq_if (by omega)] at digits
  split at digits <;> simp at digits

theorem split_decimal (value : Nat) (rest : JsString)
    (ends : ∀ unit ∈ rest.head?, digitUnit unit = false) :
    (decimal value ++ rest).takeWhile digitUnit = decimal value ∧
      (decimal value ++ rest).dropWhile digitUnit = rest := by
  have digits := decimal_digits value
  constructor
  · rw [List.takeWhile_append_of_pos digits]
    cases rest with
    | nil => simp
    | cons unit later => simp [ends unit rfl]
  · rw [List.dropWhile_append_of_pos digits]
    cases rest with
    | nil => simp
    | cons unit later => simp [ends unit rfl]

theorem head_decimal_ne_minus (value : Nat) (rest : JsString) :
    (decimal value ++ rest).head? ≠ some 45 := by
  obtain ⟨unit, later, same⟩ := List.exists_cons_of_ne_nil (decimal_ne_nil value)
  have digit := decimal_digits value unit (same ▸ List.mem_cons_self)
  rw [same]
  intro minus
  obtain rfl : unit = 45 := by simpa using minus
  revert digit
  decide

theorem read_digits (value : Nat) (den : Nat) :
    let digits := decimal value ++ (if den = 1 then [] else 69 :: decimal den)
    numeral (digits.takeWhile digitUnit) = value ∧
      (match digits.dropWhile digitUnit with
        | [] => 1
        | _ :: rest => numeral rest) = den := by
  have ends : ∀ unit ∈ (if den = 1 then [] else 69 :: decimal den).head?, digitUnit unit = false := by
    split
    · simp
    · simp only [List.head?_cons, Option.mem_def, Option.some.injEq, forall_eq']
      decide
  obtain ⟨front, back⟩ := split_decimal value _ ends
  refine ⟨by rw [front, numeral_decimal], ?_⟩
  rw [back]
  split
  · next empty => split at empty <;> simp_all
  · next mark rest same =>
      split at same
      · simp at same
      · obtain ⟨-, rfl⟩ := List.cons.inj same
        exact numeral_decimal den

theorem read_write_number (value : Rat) : readNumber (writeNumber value) = some (.finite value) := by
  obtain ⟨whole, den⟩ := read_digits value.num.natAbs value.den
  by_cases negative : value.num < 0
  · have text : writeNumber value =
        45 :: (decimal value.num.natAbs ++ (if value.den = 1 then [] else 69 :: decimal value.den)) := by
      simp [writeNumber, negative]
    have sign : -(value.num.natAbs : Int) = value.num := by omega
    simp only [readNumber, text, List.head?_cons, beq_self_eq_true, if_true, List.tail_cons, whole,
      den, sign, Rat.mkRat_self]
  · have text : writeNumber value =
        decimal value.num.natAbs ++ (if value.den = 1 then [] else 69 :: decimal value.den) := by
      simp [writeNumber, negative]
    have unsigned := head_decimal_ne_minus value.num.natAbs
      (if value.den = 1 then [] else 69 :: decimal value.den)
    have sign : (value.num.natAbs : Int) = value.num := by omega
    simp only [readNumber, text, beq_eq_false_iff_ne.mpr unsigned, Bool.false_eq_true, if_false,
      whole, den, sign, Rat.mkRat_self]

theorem write_number_units (value : Rat) : ∀ unit ∈ writeNumber value, numberUnit unit = true := by
  have digits (n : Nat) : ∀ unit ∈ decimal n, numberUnit unit = true := fun unit member => by
    simp [numberUnit, decimal_digits n unit member]
  intro unit member
  simp only [writeNumber, List.mem_append] at member
  rcases member with (minus | whole) | den
  · split at minus
    · obtain rfl := List.mem_singleton.mp minus
      decide
    · simp at minus
  · exact digits _ unit whole
  · split at den
    · simp at den
    · rcases List.mem_cons.mp den with rfl | later
      · decide
      · exact digits _ unit later

@[reducible] def recordedNumbers : NumberFormat where
  write := writeNumber
  read := readNumber
  read_write := read_write_number
  write_units := write_number_units
  write_nonempty value := by simp [writeNumber, decimal_ne_nil]
  write_zero := by decide

end Numbers

def fingerprint : JsString → Nat
  | [] => 1
  | unit :: rest => (fingerprint rest * 65599 + unit.toNat) % 18446744073709551557

def compareUnits : JsString → JsString → Int
  | [], [] => 0
  | [], _ :: _ => -1
  | _ :: _, [] => 1
  | left :: front, right :: back =>
      if left < right then -1 else if right < left then 1 else compareUnits front back

def startOfYear : JsString := js "2026-01-01T00:00:00.000Z"

def secondLater : JsString := js "2026-01-01T00:00:01.000Z"

def recordedTimes : List (JsString × Int) :=
  [(startOfYear, 1767225600000), (secondLater, 1767225601000)]

def recordedDigests : List (Nat × JsString) :=
  [(14720885597048776987, js "d9e24fa184e29aecf91110da0f3e51efff6714cfad85b9ac458bee642302fdb7"),
    (4147932225197307028, js "66de8e092790fa297b992a53550923d9efab523d6f401a998632e776dd0ef6c6"),
    (12141897761471663825, js "d7370922ab31ffc028ff91b033b19590fceccc326c8992d75f89042cf55d245f"),
    (4748379852751068776, js "a09637ef31b596e87de048408e23bf446122e0f24b44bcfa13bd9baa8346ed69"),
    (13256301488408183666, js "c469100ded0ace447e746e86d3b3106094dc8b34918ca6026a79528962d41110"),
    (14752349602688594877, js "4d0eeb5ed10d66da6aa44b2daae59c47e1e890a0d6cc77eaa9bac2ef090e55a1"),
    (17058894032441862198, js "694926c1e18c9b09272360bef49f65ae6c943f6c1c6bfd1be95046d03bc06edf"),
    (13140301112671438352, js "5c7524c98eb9917fb7484f9862d5cd105d98b3b82077896ff1aac109b2ffdd58"),
    (11654689988728662558, js "477ad7ad4b338c8cbf7c1ae8316c94087282626b6125224d2e6e2daa18c0cb28"),
    (6375891766683063198, js "57d442e94a7ce0fdb2a20cb5e75fe9b08497dcd7724955a72da29ad1060dcc7f"),
    (9442049805114225009, js "71b71a42b2ca52846235352dce28f252bc9eb9a6f33a76adbb6662d000f9b41d"),
    (12470768565124450884, js "cb11d9a1635e9e947b1d9add0425c87527b4d95e7da9c05d2f50c6b45ad27480"),
    (1550488903394573172, js "512b67600ffd71ecb05e0c00ed26fb776b6636d908bbad51e6cad6b5e044cb97"),
    (5141878904119921342, js "d0d0e0c02ca212a4049636b4894e366989e79604394bfeacb9e3f4a4e44c601a"),
    (11653782128722622897, js "8126be162648580346f372c2a83d3ebd941119f9344641916f5d88b2ffdc81ab"),
    (5901764884135787735, js "3a9dbeaf6678316eb5e895486897193f2873da1da4b6fbccd1966746453764b0")]

/-- Instants by their spelling, and digests by the fingerprint of the hashed text.
The texts of a recorded run are ASCII, so they are in normal form. -/
@[reducible] def recordedEngine : Engine where
  toNumberFormat := recordedNumbers
  sha256Hex text := (recordedDigests.lookup (fingerprint text)).getD (122 :: text)
  localeCompare := compareUnits
  dateParse text := recordedTimes.lookup text
  toISOString time := ((recordedTimes.find? (fun entry => entry.2 = time)).map Prod.fst).getD []
  normalizeNFC text := text

@[reducible] def shortEngine : Engine :=
  { recordedEngine with sha256Hex := fun text => decimal (fingerprint text) }

section Records

def sampleTask (taskId : JsString) : TaskContractV2 :=
  { taskId := taskId
    title := js "t"
    instructions := js "i"
    acceptanceCriteria := []
    kind := .work
    sourceTaskId := none }

def sampleProfile : TaskExecutionProfileV1 :=
  { adapterId := .codex
    hostId := js "codex"
    hostVersion := js "1"
    nativeExecutablePath := js "/codex"
    nativeExecutableDigest := js "d"
    providerId := js "p"
    modelId := js "m"
    effort := none
    purpose := .work
    timeoutMs := 1
    maxOutputBytes := 1
    lookup := .native
    idempotentLaunch := false }

def sampleEdge (edgeId sourceTaskId dependentTaskId : JsString) (edgeType : DependencyType) :
    DependencyEdgeV1 :=
  { edgeId := edgeId
    sourceTaskId := sourceTaskId
    dependentTaskId := dependentTaskId
    edgeType := edgeType
    allowedOutcomes := none
    releasePredicate := js "p"
    propagateCancellation := false }

def sampleCursor : CompositeCursorV1 :=
  { workspaceId := js "w"
    workspaceSequence := 1
    workspaceEnvelopeHash := js "h"
    workspaceContextEpoch := 0
    runId := js "r"
    runSequence := 1
    runEnvelopeHash := js "h"
    runContextEpoch := 0 }

def sampleVersion : ContextVersionV1 := .composite 0 0 sampleCursor

def sampleClock : EvaluationClockV1 := ⟨startOfYear, .composite sampleCursor⟩

def sampleLease : TaskExecutionLeaseV1 :=
  { ownerId := js "o"
    bootId := js "b"
    processId := js "p"
    issuedAt := startOfYear
    expiresAt := secondLater
    durationMs := 1000
    fenceToken := 1
    observationCursor := sampleCursor }

def sampleJoin (taskId taskContractDigest : JsString) (dependencies : List DependencyOutcomeV1) :
    DependencyJoinSnapshotCoreV1 :=
  { runId := js "r"
    taskId := taskId
    taskContractDigest := taskContractDigest
    joinEvaluationId := js "j"
    joinObservationCursor := sampleCursor
    dependencies := dependencies
    schedulability := .ready
    reasonCodes := [] }

def samplePin (dependencyJoinSnapshotDigest : JsString) : ForkPinCoreV1 :=
  { forkId := js "f"
    pinVersion := 1
    workspaceId := js "w"
    runId := js "r"
    parentForkPinDigest := none
    refreshesForkPinDigest := none
    canonicalRevision := 0
    canonicalStateHash := js "h"
    sourceObservationCursor := sampleCursor
    sourceContextVersion := sampleVersion
    dependencyJoinSnapshotDigest := dependencyJoinSnapshotDigest
    deltaAuthorityScopeDigest := js "d"
    pinnedPolicyDigest := js "d"
    ancestry := []
    createdByPrincipalId := js "u"
    createdByGrantDigest := js "g" }

def sampleManifest (attemptId : JsString) (generation : Nat) (forkPinDigest profileDigest
    renderedOutputDigest : JsString) : ContextManifestCoreV1 :=
  { workspaceId := js "w"
    runId := js "r"
    attemptId := attemptId
    generation := generation
    forkPinDigest := forkPinDigest
    sourceObservationCursor := sampleCursor
    sourceContextVersion := sampleVersion
    authorizationObservationCursor := .composite sampleCursor
    authorizationContextVersion := sampleVersion
    authorizationOverlayV1 := ⟨js "d", js "g", js "q", true⟩
    canonicalRevision := 0
    canonicalStateHash := js "h"
    sources := [⟨js "execution-profile", profileDigest, 0, 0, 0⟩]
    rendererVersion := js "1"
    omissions := []
    selectedBytes := 1
    byteBudget := 1
    tokenizerMetadata := .null
    renderedOutputDigest := renderedOutputDigest }

def sampleBinding (attemptId : JsString) (generation : Nat) (forkPinDigest
    contextManifestCoreDigest : JsString) : AttemptContextBindingV1 :=
  { attemptId := attemptId
    generation := generation
    forkPinDigest := forkPinDigest
    contextManifestCoreDigest := contextManifestCoreDigest
    sourceObservationCursor := sampleCursor
    sourceContextVersion := sampleVersion
    authorizationObservationCursor := .composite sampleCursor
    authorizationContextVersion := sampleVersion
    providerIdempotencyKey := js "k"
    allowedProducerPrincipalId := js "u"
    allowedProducerGrantDigest := js "g" }

variable [Engine]

def samplePrepared (taskId attemptId : JsString) (generation : Nat)
    (dependencies : List DependencyOutcomeV1) : Except DomainError TaskExecutionPreparedDataV1 := do
  let taskContractDigest ← taskContractDigestV2 (sampleTask taskId)
  let profileDigest ← taskExecutionProfileDigest sampleProfile
  let join := sampleJoin taskId taskContractDigest dependencies
  let joinDigest ← sealDependencyJoinSnapshot join
  let forkPin ← sealForkPin (samplePin joinDigest)
  let rendered ← domainDigest (js "horseness.context-source-bytes.v1") (.str (base64 (utf8 (js "c"))))
  let manifest := sampleManifest attemptId generation forkPin.forkPinDigest profileDigest rendered
  let manifestDigest ← contextManifestCoreDigest manifest
  return {
    workflowId := none
    taskId := taskId
    attemptId := attemptId
    generation := generation
    profile := sampleProfile
    profileDigest := profileDigest
    forkPin := forkPin
    join := join
    manifest := manifest
    binding := sampleBinding attemptId generation forkPin.forkPinDigest manifestDigest
    renderedContext := js "c"
    evaluationClock := sampleClock
    lease := sampleLease }

def sampleReceipt (p : TaskExecutionPreparedDataV1) : Except DomainError AttemptReceiptEnvelopeV1 := do
  let bindingDigest ← attemptContextBindingDigest p.binding
  let keyDigest ← domainDigest (js "horseness.provider-idempotency-key.v1")
    (.str p.binding.providerIdempotencyKey)
  sealAttemptReceipt {
    workspaceId := js "w"
    runId := js "r"
    taskId := p.taskId
    attemptId := p.attemptId
    generation := p.generation
    attemptContextBindingDigest := bindingDigest
    contextManifestCoreDigest := p.binding.contextManifestCoreDigest
    forkPinDigest := p.forkPin.forkPinDigest
    providerId := js "codex-native-provider-v1"
    providerOperationId := js "op"
    providerIdempotencyKeyDigest := keyDigest
    producerPrincipalId := js "u"
    producerGrantDigest := js "g"
    adapterId := js "horseness-codex-v1"
    adapterVersion := js "1"
    hostId := js "codex"
    hostVersion := js "1"
    outcome := .succeeded
    startedAt := startOfYear
    finishedAt := secondLater
    outputDigest := some (js "d")
    evidence := []
    provenance := object [("profileDigest", .str p.profileDigest),
      ("observedHostId", .str (js "codex")), ("observedHostVersion", .str (js "1")),
      ("observedProviderId", .str (js "p")), ("observedModelId", .str (js "m")),
      ("nativeSessionId", .null), ("exitCode", natural 0)]
    nonce := js "n" }

def sampleReference (p : TaskExecutionPreparedDataV1) : AttemptReference :=
  ⟨p.taskId, p.attemptId, p.generation, p.profileDigest⟩

def sampleEvents (payloads : List TaskExecutionPayloadV1) : List (TaskExecutionEventV1 × Nat) :=
  payloads.map (fun payload => (⟨js "w", js "r", payload⟩, 1))

abbrev RunGuard := TaskExecutionProjectionV1 → TaskExecutionEventV1 × Nat → Bool

def sampleRun (allowed : RunGuard) (payloads : Except DomainError (List TaskExecutionPayloadV1)) :
    Except DomainError TaskExecutionProjectionV1 := do
  let listed ← payloads
  (sampleEvents listed).foldlM (guardedStep executionStep allowed .executionInvalid)
    emptyTaskExecutionProjectionV1

def sampleState (allowed : RunGuard) (payloads : Except DomainError (List TaskExecutionPayloadV1)) :
    TaskExecutionProjectionV1 :=
  finalOf emptyTaskExecutionProjectionV1 (sampleRun allowed payloads)

-- A completed evaluation is a run, and what it was checked for holds at its end.
theorem sample_reaches (allowed : RunGuard)
    (payloads : Except DomainError (List TaskExecutionPayloadV1))
    (check : TaskExecutionProjectionV1 → Bool)
    (ended : endsIn check (sampleRun allowed payloads) = true) :
    Reaches executionStep (fun state input => allowed state input = true)
        emptyTaskExecutionProjectionV1 (sampleState allowed payloads) ∧
      check (sampleState allowed payloads) = true := by
  obtain ⟨run, passed⟩ := ends_in_final emptyTaskExecutionProjectionV1 ended
  refine ⟨?_, passed⟩
  obtain ⟨listed, -, folded⟩ := bind_ok_iff.mp run
  exact guarded_reaches (sampleEvents listed) _ _ folded

def anything : RunGuard := fun _ _ => true

theorem sample_reachable (payloads : Except DomainError (List TaskExecutionPayloadV1))
    (check : TaskExecutionProjectionV1 → Bool)
    (ended : endsIn check (sampleRun anything payloads) = true) :
    Reachable (sampleState anything payloads) ∧ check (sampleState anything payloads) = true := by
  obtain ⟨reached, passed⟩ := sample_reaches anything payloads check ended
  exact ⟨reaches_weaken (fun _ _ _ => trivial) reached, passed⟩

end Records

end Horseness.RecordedRuns
