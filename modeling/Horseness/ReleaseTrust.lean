import Horseness.DispatchAuthority
import Horseness.Retention

/-!
The verification of a signed release manifest against the trust root of the project: a
delegation of the signing key, the sequence that was reached, and the bytes of every artifact.
-/

namespace Horseness.ReleaseTrust

open FallibleRuns ScriptText JsonValues ScriptEngine Canonical Cursors DispatchAuthority Retention

/-- Signatures and the digests of bytes, as `node:crypto` computes them. -/
class ReleaseCrypto where
  sha256 : List Nat → JsString
  -- `verify(null, bytes, createPublicKey(key), signature)`, or nothing where it throws.
  verify : JsValue → List Nat → List Nat → Option Bool

section Failures

inductive InstallerTrustError where
  | invalidSignedManifest
  | invalidReleaseManifest
  | invalidSigstoreIdentity
  | invalidTrustRoot
  | invalidDelegation
  | unknownTrustSchema
  | manifestDigestMismatch
  | sigstoreIdentityMismatch
  | signingKeyRevoked
  | signingKeyNotDelegated
  | delegationSignatureInvalid
  | delegationSequenceInvalid
  | releaseSignatureInvalid
  | releaseReplayRefused
  | dependencyGraphTampered
  | invalidReleaseArtifact
  | releaseArtifactTampered
  deriving DecidableEq, Repr

def InstallerTrustError.code : InstallerTrustError → String
  | .invalidSignedManifest => "INVALID_SIGNED_MANIFEST"
  | .invalidReleaseManifest => "INVALID_RELEASE_MANIFEST"
  | .invalidSigstoreIdentity => "INVALID_SIGSTORE_IDENTITY"
  | .invalidTrustRoot => "INVALID_TRUST_ROOT"
  | .invalidDelegation => "INVALID_DELEGATION"
  | .unknownTrustSchema => "UNKNOWN_TRUST_SCHEMA"
  | .manifestDigestMismatch => "MANIFEST_DIGEST_MISMATCH"
  | .sigstoreIdentityMismatch => "SIGSTORE_IDENTITY_MISMATCH"
  | .signingKeyRevoked => "SIGNING_KEY_REVOKED"
  | .signingKeyNotDelegated => "SIGNING_KEY_NOT_DELEGATED"
  | .delegationSignatureInvalid => "DELEGATION_SIGNATURE_INVALID"
  | .delegationSequenceInvalid => "DELEGATION_SEQUENCE_INVALID"
  | .releaseSignatureInvalid => "RELEASE_SIGNATURE_INVALID"
  | .releaseReplayRefused => "RELEASE_REPLAY_REFUSED"
  | .dependencyGraphTampered => "DEPENDENCY_GRAPH_TAMPERED"
  | .invalidReleaseArtifact => "INVALID_RELEASE_ARTIFACT"
  | .releaseArtifactTampered => "RELEASE_ARTIFACT_TAMPERED"

/-- What a release is refused with: an `InstallerTrustError`, an `Error` of the bootstrap,
an error of canonical JSON, or an error that the engine throws. -/
inductive ReleaseFailure where
  | trust (error : InstallerTrustError)
  | plain (message : String)
  | domain (error : DomainError)
  | syntaxError
  | typeError
  | fileSystem
  deriving DecidableEq

end Failures

section Text

def base64Sextet (unit : UInt16) : Option Nat :=
  if 65 ≤ unit && unit ≤ 90 then some (unit.toNat - 65)
  else if 97 ≤ unit && unit ≤ 122 then some (unit.toNat - 71)
  else if digitUnit unit then some (unit.toNat + 4)
  else if unit = 43 || unit = 45 then some 62
  else if unit = 47 || unit = 95 then some 63
  else none

def sextetBytes : List Nat → List Nat
  | first :: second :: third :: fourth :: rest =>
      (first * 4 + second / 16) :: (second % 16 * 16 + third / 4) :: (third % 4 * 64 + fourth) ::
        sextetBytes rest
  | [first, second, third] => [first * 4 + second / 16, second % 16 * 16 + third / 4]
  | [first, second] => [first * 4 + second / 16]
  | _ => []

/-- `Buffer.from(text, "base64")`: up to the first `=`, passing over what is not base64. -/
def fromBase64 (text : JsString) : List Nat :=
  sextetBytes ((text.takeWhile (· ≠ 61)).filterMap base64Sextet)

def alphanumeric (unit : UInt16) : Bool :=
  digitUnit unit || (65 ≤ unit && unit ≤ 90) || (97 ≤ unit && unit ≤ 122)

/-- Base64 characters, at least one, and at most two `=` after them. -/
def base64Pattern (text : JsString) : Bool :=
  let body := text.takeWhile fun unit => alphanumeric unit || unit == 43 || unit == 47
  let rest := text.drop body.length
  !body.isEmpty && (rest == [] || rest == js "=" || rest == js "==")

/-- A letter or digit, and at most `later` of those, dots, underscores, slashes and dashes. -/
def pathPattern (later : Nat) : JsString → Bool
  | [] => false
  | first :: rest => alphanumeric first && decide (rest.length ≤ later) &&
      rest.all fun unit => alphanumeric unit || unit == 46 || unit == 95 || unit == 47 || unit == 45

def segments (path : JsString) : List JsString := path.splitOn 47

end Text

section Places

abbrev Place := List JsString

def resolveSegment (place : Place) (segment : JsString) : Place :=
  if segment = [] ∨ segment = js "." then place
  else if segment = js ".." then place.dropLast
  else place ++ [segment]

def resolve (root : Place) (path : JsString) : Place :=
  (segments path).foldl resolveSegment (if path.head? = some 47 then [] else root)

def inside (root place : Place) : Prop := root <+: place ∧ place ≠ root

instance (root place : Place) : Decidable (inside root place) :=
  inferInstanceAs (Decidable (_ ∧ _))

inductive Node where
  | file (bytes : List Nat)
  | other
  deriving DecidableEq

/-- What `verifyReleaseV1` reads: the dependency graph and the tree of the artifacts. -/
structure ReleaseFiles where
  dependencyGraph : Option (List Nat)
  node : Place → Option Node

end Places

section Values

def field (name : String) (value : JsValue) : JsValue := (property name value).getD .null

def hasExactKeys (keys : List String) : JsValue → Bool
  | .obj _ fields => (sortFields fields).map Prod.fst = (keys.map js).insertionSort (· ≤ ·)
  | _ => false

def requireExact (value : JsValue) (keys : List String) (error : InstallerTrustError) :
    Except ReleaseFailure Unit :=
  ensure (hasExactKeys keys value = true) (.trust error)

def safeNatural : JsNumber → Option Nat
  | .negativeZero => some 0
  | .finite value =>
      if value.den = 1 ∧ 0 ≤ value.num ∧ value.num.toNat ≤ maxSafeInteger then some value.num.toNat
      else none
  | _ => none

def arrayOf : JsValue → Option (List JsValue)
  | .arr items => some items
  | _ => none

def textValue (value : JsValue) : Option JsString := textOf (some value)

def canonicalText [Engine] (value : JsValue) : Except ReleaseFailure JsString :=
  (canonicalJson value).mapError .domain

end Values

section Delegations

structure TrustDelegationV1 where
  keyId : JsString
  publicKeyPem : JsString
  validFromSequence : Nat
  validThroughSequence : Nat
  rootSignature : JsString
  positive : 1 ≤ validFromSequence
  ordered : validFromSequence ≤ validThroughSequence
  deriving DecidableEq

def delegationKeys : List String :=
  ["keyId", "publicKeyPem", "validFromSequence", "validThroughSequence", "rootSignature"]

def parseDelegation (value : JsValue) : Except ReleaseFailure TrustDelegationV1 := do
  requireExact value delegationKeys .invalidDelegation
  let keyId ← required (textOf (property "keyId" value)) (.trust .invalidDelegation)
  let publicKeyPem ← required (textOf (property "publicKeyPem" value)) (.trust .invalidDelegation)
  let first ← required ((numberOf (property "validFromSequence" value)).bind safeNatural)
    (.trust .invalidDelegation)
  let last ← required ((numberOf (property "validThroughSequence" value)).bind safeNatural)
    (.trust .invalidDelegation)
  let rootSignature ← required (textOf (property "rootSignature" value)) (.trust .invalidDelegation)
  if ranged : 1 ≤ first ∧ first ≤ last then
    return ⟨keyId, publicKeyPem, first, last, rootSignature, ranged.1, ranged.2⟩
  else .error (.trust .invalidDelegation)

def TrustDelegationV1.signedJson (delegation : TrustDelegationV1) : JsValue :=
  object [("keyId", .str delegation.keyId), ("publicKeyPem", .str delegation.publicKeyPem),
    ("validFromSequence", natural delegation.validFromSequence),
    ("validThroughSequence", natural delegation.validThroughSequence)]

end Delegations

section Artifacts

structure ReleaseArtifactV1 where
  path : JsString
  sha256 : JsString
  bytes : JsNumber
  lifecycleScripts : List JsString
  deriving DecidableEq

def artifactKeys : List String := ["path", "sha256", "bytes", "lifecycleScripts"]

def parseArtifact (value : JsValue) : Except ReleaseFailure ReleaseArtifactV1 := do
  requireExact value artifactKeys .invalidReleaseArtifact
  let path ← required (textOf (property "path" value)) (.trust .invalidReleaseArtifact)
  let sha256 ← required (textOf (property "sha256" value)) (.trust .invalidReleaseArtifact)
  let bytes ← required (numberOf (property "bytes" value)) (.trust .invalidReleaseArtifact)
  let items ← required (arrayOf (field "lifecycleScripts" value)) (.trust .invalidReleaseArtifact)
  let scripts ← items.mapM fun script => required (textValue script) (.trust .invalidReleaseArtifact)
  return ⟨path, sha256, bytes, scripts⟩

end Artifacts

section Verification

variable [Engine] [ReleaseCrypto]

structure TrustReplayStateV1 where
  highestSequence : Nat
  version : JsValue
  manifestDigest : JsString

def TrustReplayStateV1.toJson (state : TrustReplayStateV1) : JsValue :=
  object [("highestSequence", natural state.highestSequence), ("version", state.version),
    ("manifestDigest", .str state.manifestDigest)]

/-- A manifest whose form, schemas, digest and identity are checked, with what is left to check. -/
structure ReadRelease where
  manifest : JsValue
  manifestText : JsString
  sequence : Nat
  manifestDigest : JsString
  keyId : JsValue
  signature : JsValue
  rootPublicKeyPem : JsValue
  delegations : List TrustDelegationV1
  revokedKeyIds : List JsString

def signedKeys : List String := ["schema", "manifest", "manifestDigest", "keyId", "signature"]

def manifestKeys : List String :=
  ["schema", "sequence", "version", "previousManifestDigest", "artifacts", "dependencyGraphDigest",
    "sigstoreIdentity"]

def identityKeys : List String := ["issuer", "repository", "workflow", "protectedEnvironment"]

def trustRootKeys : List String :=
  ["schema", "rootKeyId", "rootPublicKeyPem", "delegations", "revokedKeyIds",
    "requiredSigstoreIdentity"]

def isText (literal : String) (value : JsValue) : Prop := textValue value = some (js literal)

instance (literal : String) (value : JsValue) : Decidable (isText literal value) :=
  inferInstanceAs (Decidable (_ = _))

def readRelease (signed trustRoot : JsValue) : Except ReleaseFailure ReadRelease := do
  requireExact signed signedKeys .invalidSignedManifest
  let manifest := field "manifest" signed
  requireExact manifest manifestKeys .invalidReleaseManifest
  requireExact (field "sigstoreIdentity" manifest) identityKeys .invalidSigstoreIdentity
  requireExact trustRoot trustRootKeys .invalidTrustRoot
  requireExact (field "requiredSigstoreIdentity" trustRoot) identityKeys .invalidSigstoreIdentity
  let _ ← required (arrayOf (field "artifacts" manifest)) (.trust .invalidTrustRoot)
  let candidates ← required (arrayOf (field "delegations" trustRoot)) (.trust .invalidTrustRoot)
  let keyIds ← required (arrayOf (field "revokedKeyIds" trustRoot)) (.trust .invalidTrustRoot)
  let delegations ← candidates.mapM parseDelegation
  let revokedKeyIds ← keyIds.mapM fun keyId => required (textValue keyId) (.trust .invalidTrustRoot)
  ensure (isText "horseness.signed-release-manifest.v1" (field "schema" signed) ∧
    isText "horseness.release-manifest.v1" (field "schema" manifest) ∧
    isText "horseness.project-trust-root.v1" (field "schema" trustRoot)) (.trust .unknownTrustSchema)
  let sequence ← required ((numberOf (property "sequence" manifest)).bind safeNatural)
    (.trust .invalidReleaseManifest)
  let manifestDigest ← required (textOf (property "manifestDigest" signed))
    (.trust .invalidReleaseManifest)
  let graphDigest ← required (textOf (property "dependencyGraphDigest" manifest))
    (.trust .invalidReleaseManifest)
  ensure (1 ≤ sequence ∧ validDigest manifestDigest ∧ validDigest graphDigest)
    (.trust .invalidReleaseManifest)
  let manifestText ← canonicalText manifest
  ensure (Engine.sha256Hex (js "horseness.release-manifest.v1" ++ 0 :: manifestText) = manifestDigest)
    (.trust .manifestDigestMismatch)
  let identity ← canonicalText (field "sigstoreIdentity" manifest)
  let wanted ← canonicalText (field "requiredSigstoreIdentity" trustRoot)
  ensure (identity = wanted) (.trust .sigstoreIdentityMismatch)
  return ⟨manifest, manifestText, sequence, manifestDigest, field "keyId" signed,
    field "signature" signed, field "rootPublicKeyPem" trustRoot, delegations, revokedKeyIds⟩

/-- A signature that is no text is never valid: it throws, or is not of its length. -/
def verifyEd25519 (publicKeyPem : JsValue) (bytes : List Nat) (signature : JsValue) : Bool :=
  match signature with
  | .str text => base64Pattern text &&
      (ReleaseCrypto.verify publicKeyPem bytes (fromBase64 text)).getD false
  | _ => false

namespace ReadRelease

variable (release : ReadRelease)

def revoked : Prop := ∃ keyId ∈ release.revokedKeyIds, textValue release.keyId = some keyId

instance : Decidable release.revoked := inferInstanceAs (Decidable (∃ _ ∈ _, _))

def named (delegation : TrustDelegationV1) : Bool := textValue release.keyId = some delegation.keyId

def verifySignature : Except ReleaseFailure Unit := do
  ensure (¬ release.revoked) (.trust .signingKeyRevoked)
  let delegation ← required (release.delegations.find? release.named) (.trust .signingKeyNotDelegated)
  let delegationText ← canonicalText delegation.signedJson
  ensure (verifyEd25519 release.rootPublicKeyPem (utf8 delegationText)
    (.str delegation.rootSignature) = true) (.trust .delegationSignatureInvalid)
  ensure (delegation.validFromSequence ≤ release.sequence ∧
    release.sequence ≤ delegation.validThroughSequence) (.trust .delegationSequenceInvalid)
  ensure (verifyEd25519 (.str delegation.publicKeyPem) (utf8 release.manifestText)
    release.signature = true) (.trust .releaseSignatureInvalid)

/-- `sequence < value`, where a value of another type is not compared. -/
def below (sequence : Nat) : Option JsValue → Bool
  | some (.num (.finite value)) => (sequence : Rat) < value
  | some (.num (.infinite negative)) => !negative
  | some (.num .negativeZero) => false
  | _ => false

def refuseReplay : Option JsValue → Except ReleaseFailure Unit
  | none => pure ()
  | some replayState => do
      ensure (isNull replayState = false) .typeError
      ensure (below release.sequence (property "highestSequence" replayState) = false ∧
        ¬ (strictEqual (some (natural release.sequence)) (property "highestSequence" replayState) ∧
          ¬ (strictEqual (property "version" release.manifest) (property "version" replayState) ∧
            strictEqual (some (.str release.manifestDigest)) (property "manifestDigest" replayState))))
        (.trust .releaseReplayRefused)

end ReadRelease

def validArtifact (artifact : ReleaseArtifactV1) : Prop :=
  pathPattern 255 artifact.path = true ∧ artifact.path.head? ≠ some 47 ∧
    js ".." ∉ segments artifact.path ∧ validDigest artifact.sha256 ∧
    (safeNatural artifact.bytes).isSome ∧ artifact.lifecycleScripts = []

instance (artifact : ReleaseArtifactV1) : Decidable (validArtifact artifact) :=
  inferInstanceAs (Decidable (_ ∧ _))

def verifyArtifact (artifactRoot : Place) (files : ReleaseFiles) (seen : List JsString)
    (candidate : JsValue) : Except ReleaseFailure JsString := do
  let artifact ← parseArtifact candidate
  ensure (validArtifact artifact ∧ artifact.path ∉ seen) (.trust .invalidReleaseArtifact)
  let artifactPath := resolve artifactRoot artifact.path
  ensure (inside artifactRoot artifactPath) (.trust .invalidReleaseArtifact)
  match files.node artifactPath with
  | none => .error .fileSystem
  | some .other => .error (.trust .invalidReleaseArtifact)
  | some (.file bytes) =>
      ensure (safeNatural artifact.bytes = some bytes.length ∧
        ReleaseCrypto.sha256 bytes = artifact.sha256) (.trust .releaseArtifactTampered)
      return artifact.path

def verifyArtifacts (artifactRoot : Place) (files : ReleaseFiles) :
    List JsString → List JsValue → Except ReleaseFailure Unit
  | _, [] => pure ()
  | seen, candidate :: rest => do
      let path ← verifyArtifact artifactRoot files seen candidate
      verifyArtifacts artifactRoot files (path :: seen) rest

def verifyReleaseV1 (signed trustRoot : JsValue) (artifactRoot : Place) (files : ReleaseFiles)
    (replayState : Option JsValue) : Except ReleaseFailure TrustReplayStateV1 := do
  let release ← readRelease signed trustRoot
  release.verifySignature
  release.refuseReplay replayState
  let graphBytes ← required files.dependencyGraph .fileSystem
  ensure (textOf (property "dependencyGraphDigest" release.manifest) =
    some (ReleaseCrypto.sha256 graphBytes)) (.trust .dependencyGraphTampered)
  let candidates ← required (arrayOf (field "artifacts" release.manifest)) (.trust .invalidTrustRoot)
  verifyArtifacts artifactRoot files [] candidates
  return ⟨release.sequence, field "version" release.manifest, release.manifestDigest⟩

end Verification

end Horseness.ReleaseTrust
