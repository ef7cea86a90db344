import Horseness.ReleaseTrust
import Horseness.JsonWriting

/-!
The bootstrap's authentication of a release envelope. What was accepted is kept in a file of the
state directory that the next call reads; both files are written in place.
-/

namespace Horseness.ReleaseEnvelopes

open FallibleRuns Records ScriptText JsonValues JsonText JsonWriting ScriptEngine Utf8Text Cursors
  DispatchAuthority ReleaseTrust

section Envelopes

/-- A release envelope after `JSON.parse`. -/
structure AuthenticatedReleaseEnvelopeV1 where
  schema : JsString
  signedManifest : JsValue
  dependencyGraphBase64 : JsString
  artifacts : Record JsString JsString
  catalog : JsValue
  catalogDigest : JsString

inductive BootstrapTrustMode where
  | fixture
  | production
  deriving DecidableEq

/-- The module `trust-pin`, which a release replaces. -/
structure TrustPin where
  mode : BootstrapTrustMode
  rootSha256 : JsString

/-- Where the process stops: before it writes, or with so many bytes written of a file. -/
inductive Stop where
  | beforeWriting
  | inReplay (count : Nat)
  | inBundle (count : Nat)
  deriving DecidableEq

/-- One call: what it reads outside the state directory, and where its process stops. -/
structure Call where
  responseLength : Nat
  envelope : Option AuthenticatedReleaseEnvelopeV1
  trustRootPath : Option JsString
  trustRootBytes : Option (List Nat)
  temporary : Place
  stop : Option Stop

structure StateDirectory where
  trustReplay : Option (List Nat)
  authenticatedBundle : Option (List Nat)
  deriving DecidableEq

def StateDirectory.empty : StateDirectory := ⟨none, none⟩

end Envelopes

section Paths

def refuse {Result : Type} (message : String) : Except ReleaseFailure Result := .error (.plain message)

def confineArtifactPath (path : JsString) (artifactRoot : Place) : Except ReleaseFailure Place := do
  ensure (path ≠ [] ∧ path.length ≤ 255) (.plain "RELEASE_ARTIFACT_PATH_INVALID")
  ensure (path.head? ≠ some 47 ∧ 92 ∉ path) (.plain "RELEASE_ARTIFACT_PATH_INVALID")
  ensure (∀ segment ∈ segments path, segment ≠ [] ∧ segment ≠ js "." ∧ segment ≠ js "..")
    (.plain "RELEASE_ARTIFACT_PATH_INVALID")
  ensure (pathPattern 254 path = true) (.plain "RELEASE_ARTIFACT_PATH_INVALID")
  let resolved := resolve artifactRoot path
  ensure (inside artifactRoot resolved) (.plain "RELEASE_ARTIFACT_PATH_INVALID")
  return resolved

def sorted (paths : List JsString) : List JsString := paths.insertionSort (· ≤ ·)

def manifestArtifacts (envelope : AuthenticatedReleaseEnvelopeV1) :
    Except ReleaseFailure (List JsValue) :=
  required (arrayOf (field "artifacts" (field "manifest" envelope.signedManifest))) .typeError

def exactArtifactMap (envelope : AuthenticatedReleaseEnvelopeV1) : Except ReleaseFailure Unit := do
  let artifacts ← manifestArtifacts envelope
  let manifestPaths ← artifacts.mapM fun artifact =>
    required (textOf (property "path" artifact)) (.plain "RELEASE_ARTIFACT_SET_MISMATCH")
  ensure (sorted manifestPaths = sorted envelope.artifacts.keys)
    (.plain "RELEASE_ARTIFACT_SET_MISMATCH")

abbrev PlacedFile := Place × List Nat

/-- A file cannot stand where a directory of another one is needed. -/
def blocks (place other : Place) : Prop := place <+: other ∨ other <+: place

instance (place other : Place) : Decidable (blocks place other) :=
  inferInstanceAs (Decidable (_ ∨ _))

/-- The artifacts are written below the temporary directory, one after another. -/
def placeArtifacts (artifactRoot : Place) :
    List PlacedFile → List (JsString × JsString) → Except ReleaseFailure (List PlacedFile)
  | placed, [] => pure placed
  | placed, (path, base64) :: rest => do
      let place ← confineArtifactPath path artifactRoot
      ensure (∀ earlier ∈ placed, ¬ blocks place earlier.1) .fileSystem
      placeArtifacts artifactRoot (placed ++ [(place, fromBase64 base64)]) rest

def nodeOf (placed : List PlacedFile) (place : Place) : Option Node :=
  match findEntry place placed with
  | some bytes => some (.file bytes)
  | none => if placed.any fun file => place.isPrefixOf file.1 then some .other else none

end Paths

section Catalogs

variable [Engine] [ReleaseCrypto]

def safeInteger : JsNumber → Bool
  | .negativeZero => true
  | .finite value => value.den = 1 && value.num.natAbs ≤ maxSafeInteger
  | _ => false

mutual

def canonical : JsValue → Except ReleaseFailure JsString
  | .null => .ok (js "null")
  | .bool value => .ok (if value then js "true" else js "false")
  | .str text => .ok (quoteText text)
  | .num value => do
      ensure (safeInteger value = true) (.plain "INVALID_BUNDLE_JSON")
      return JsonText.JsNumber.serialize value
  | .arr items => do
      let parts ← canonicalItems items
      return openBracket :: (join [comma] parts ++ [closeBracket])
  | .obj _ fields => do
      let parts ← canonicalFields fields
      return openBrace :: (join [comma] ((sortFields parts).map fun member =>
        quoteText member.1 ++ colon :: member.2) ++ [closeBrace])
termination_by structural value => value

def canonicalItems : List JsValue → Except ReleaseFailure (List JsString)
  | [] => .ok []
  | item :: rest => do
      let first ← canonical item
      let later ← canonicalItems rest
      return first :: later
termination_by structural items => items

def canonicalFields : List (JsString × JsValue) → Except ReleaseFailure (List (JsString × JsString))
  | [] => .ok []
  | (name, value) :: rest => do
      let first ← canonical value
      let later ← canonicalFields rest
      return (name, first) :: later
termination_by structural fields => fields

end

/-- One file of a contribution: its line in the package digest, and its bytes. -/
def authenticateFile (artifacts : Record JsString JsString) (hostId : JsString) (file : JsValue) :
    Except ReleaseFailure (List Nat × List Nat) := do
  let path ← required (textOf (property "path" file)) .typeError
  let artifactPath := js "contributions/" ++ hostId ++ js "/" ++ path
  let bytes := fromBase64 ((artifacts.get artifactPath).getD [])
  let contentDigest := property "contentDigest" file
  ensure (strictEqual (some (natural bytes.length)) (property "size" file) ∧
    strictEqual (some (.str (ReleaseCrypto.sha256 bytes))) contentDigest ∧
    strictEqual (property "memberDigest" file) contentDigest ∧
    strictEqual (property "archiveDigest" file) contentDigest ∧
    strictEqual (some (.str (base64 bytes))) (property "bytesBase64" file))
    (.plain "CONTRIBUTION_SOURCE_AUTHENTICATION_FAILED")
  return (utf8 (path ++ js ":" ++ ReleaseCrypto.sha256 bytes ++ js "\n"), fromBase64 (base64 bytes))

def authenticateContribution (artifacts : Record JsString JsString) (contribution : JsValue) :
    Except ReleaseFailure Unit := do
  let hostId ← required (textOf (property "hostId" contribution)) .typeError
  let files ← required (arrayOf (field "files" contribution)) .typeError
  let read ← files.mapM (authenticateFile artifacts hostId)
  ensure (strictEqual (some (.str (ReleaseCrypto.sha256 (read.map Prod.fst).flatten)))
      (property "packageDigest" contribution) ∧
    strictEqual (some (.str (ReleaseCrypto.sha256 (read.map Prod.snd).flatten)))
      (property "sourceArtifactDigest" contribution))
    (.plain "CONTRIBUTION_PACKAGE_AUTHENTICATION_FAILED")

def catalogCore (releaseVersion contributions : JsValue) (signed : JsValue) : List (String × JsValue) :=
  [("releaseVersion", releaseVersion), ("releaseManifestDigest", field "manifestDigest" signed),
    ("authenticatedManifestKeyId", field "keyId" signed),
    ("authenticatedManifestSequence", field "sequence" (field "manifest" signed)),
    ("contributions", contributions)]

def neutralCatalogDigestV1 (core : List (String × JsValue)) : Except ReleaseFailure JsString := do
  let text ← canonical (object core)
  return ReleaseCrypto.sha256 (utf8 (js "horseness.neutral-install-catalog.v1" ++ 0 :: text))

def authenticateCatalog (envelope : AuthenticatedReleaseEnvelopeV1) :
    Except ReleaseFailure JsValue := do
  let catalogBytes := fromBase64 ((envelope.artifacts.get (js "catalog.json")).getD [])
  let artifacts ← manifestArtifacts envelope
  let listed := artifacts.find? fun artifact => isText "catalog.json" (field "path" artifact)
  ensure (strictEqual (some (.str (ReleaseCrypto.sha256 catalogBytes)))
    (listed.bind (property "sha256"))) (.plain "AUTHENTICATED_CATALOG_DIGEST_MISMATCH")
  let parsedCatalog ← required (parse (decodeUtf8 catalogBytes)) .syntaxError
  ensure (stringify parsedCatalog = stringify envelope.catalog)
    (.plain "CATALOG_ENVELOPE_SUBSTITUTION")
  let contributions ← required (arrayOf (field "contributions" parsedCatalog)) .typeError
  forM contributions (authenticateContribution envelope.artifacts)
  let releaseVersion ← required (property "releaseVersion" parsedCatalog)
    (.plain "INVALID_BUNDLE_JSON")
  let core := catalogCore releaseVersion (.arr contributions) envelope.signedManifest
  let catalogDigest ← neutralCatalogDigestV1 core
  ensure (catalogDigest = envelope.catalogDigest) (.plain "AUTHENTICATED_NEUTRAL_CATALOG_MISMATCH")
  return object (("schema", .str (js "horseness.neutral-install-bundle.v1")) :: core ++
    [("catalogDigest", .str catalogDigest)])

end Catalogs

section Authentication

variable [Engine] [ReleaseCrypto] (pin : TrustPin) (call : Call)

def expectedName : BootstrapTrustMode → JsString
  | .production => js "production-trust-root.json"
  | .fixture => js "fixture-trust-root.json"

def readEnvelope : Except ReleaseFailure AuthenticatedReleaseEnvelopeV1 := do
  ensure (call.responseLength ≤ 16777216) (.plain "BUNDLE_FETCH_TOO_LARGE")
  let envelope ← required call.envelope .syntaxError
  ensure (envelope.schema = js "horseness.bootstrap-release-envelope.v1")
    (.plain "INVALID_RELEASE_ENVELOPE")
  exactArtifactMap envelope
  return envelope

def readTrustRoot : Except ReleaseFailure JsValue := do
  let path ← required call.trustRootPath (.plain "BOOTSTRAP_TRUST_ROOT_UNAVAILABLE")
  ensure (path.head? = some 47) (.plain "BOOTSTRAP_TRUST_ROOT_UNAVAILABLE")
  ensure ((segments path).getLast? = some (expectedName pin.mode))
    (.plain "BOOTSTRAP_TRUST_MODE_MISMATCH")
  let bytes ← required call.trustRootBytes .fileSystem
  ensure (ReleaseCrypto.sha256 bytes = pin.rootSha256) (.plain "BOOTSTRAP_TRUST_ROOT_PIN_MISMATCH")
  required (parse (decodeUtf8 bytes)) .syntaxError

/-- `JSON.parse(await readFile(replayPath, "utf8"))`, where only an absent file is excused. -/
def readReplay : Option (List Nat) → Except ReleaseFailure (Option JsValue)
  | none => pure none
  | some bytes => do
      let value ← required (parse (decodeUtf8 bytes)) .syntaxError
      return some value

/-- What the verification reads: the temporary directory with the artifacts of the envelope. -/
def releaseFiles (envelope : AuthenticatedReleaseEnvelopeV1) (placed : List PlacedFile) :
    ReleaseFiles :=
  ⟨some (fromBase64 envelope.dependencyGraphBase64), nodeOf placed⟩

/-- All that is done before the first write into the state directory. -/
def authenticate (trustReplay : Option (List Nat)) :
    Except ReleaseFailure (TrustReplayStateV1 × JsValue) := do
  let envelope ← readEnvelope call
  let trustRoot ← readTrustRoot pin call
  let replayState ← readReplay trustReplay
  let artifactRoot := call.temporary ++ [js "artifacts"]
  let placed ← placeArtifacts artifactRoot [] envelope.artifacts.entries
  let verified ← verifyReleaseV1 envelope.signedManifest trustRoot artifactRoot
    (releaseFiles envelope placed) replayState
  let bundle ← authenticateCatalog envelope
  return (verified, bundle)

def storedBytes (value : JsValue) : List Nat := utf8 (stringify value ++ js "\n")

inductive Answer where
  | returned (bundle : JsValue)
  | threw (failure : ReleaseFailure)
  | stopped

/-- `writeProtected` empties the file and fills it; a stop leaves what was written by then. -/
def authenticateEnvelopeV1 (state : StateDirectory) : Answer × StateDirectory :=
  match authenticate pin call state.trustReplay with
  | .error failure => (.threw failure, state)
  | .ok (verified, bundle) =>
      match call.stop with
      | some .beforeWriting => (.stopped, state)
      | some (.inReplay count) =>
          (.stopped, { state with trustReplay := some ((storedBytes verified.toJson).take count) })
      | some (.inBundle count) =>
          (.stopped, ⟨some (storedBytes verified.toJson), some ((storedBytes bundle).take count)⟩)
      | none => (.returned bundle, ⟨some (storedBytes verified.toJson), some (storedBytes bundle)⟩)

end Authentication

end Horseness.ReleaseEnvelopes
