import Vibapp.AppStore.Values

/-!
# The candidate on disk and its record

`validateSnapshot` reads a copied candidate and gives the catalog record for it. The record is a
`Release`, written out as JSON by `Release.record`.
-/

namespace Vibapp.AppStore

open Daemon (field hasExactly asStr asInt asBool)

/-! ## Trees -/

/-- A directory with `candidate.json` and `package/` beside it. Files of the package are listed by
their path below it, in the order of `os.walk`. -/
structure Tree where
  candidate : Option (List UInt8)
  files : List (String × List UInt8)
deriving DecidableEq

def Tree.empty : Tree := ⟨none, []⟩

def maxCandidateBytes : Nat := 1024 * 1024
def maxManifestBytes : Nat := 1024 * 1024
def maxPackageFiles : Nat := 256
def maxPackageBytes : Nat := 1024 * 1024 * 1024

/-- `_read_regular`, of a file that the store has written itself. -/
def readRegular (file : Option (List UInt8)) (maximum : Nat) (label : String) : Py (List UInt8) :=
  match file with
  | some data =>
    if maximum < data.length then
      fail "resource-limit" (label ++ " exceeds " ++ toString maximum ++ " bytes")
    else .ok data
  | none => fail "integrity-failure" ("cannot inspect " ++ label)

/-- A file of the package as `_validate_snapshot` finds it. -/
structure Observed where
  path : String
  sha256 : String
  sizeBytes : Nat
deriving DecidableEq

def Observed.toJson (item : Observed) : Json :=
  .obj [("path", .str item.path), ("sha256", .str item.sha256), ("size_bytes", .int item.sizeBytes)]

/-- The walk over the package. `total` is the size so far. -/
def observe (library : Library) :
    List (String × List UInt8) → List Observed → Nat → Py (List Observed)
  | [], observed, _ => .ok observed
  | (path, data) :: rest, observed, total => do
    let _ ← artifactPath (.str path) "stored package path"
    let data ← readRegular (some data) maxArtifactBytes path
    let observed := observed ++ [⟨path, library.sha256 data, data.length⟩]
    raiseIf (maxPackageFiles < observed.length ∨ maxPackageBytes < total + data.length)
      "resource-limit" "stored package exceeds file or byte limits"
    observe library rest observed (total + data.length)

/-! ## Records -/

/-- What a record says, apart from its state. -/
structure Release where
  appId : String
  appVersion : String
  appKind : String
  displayName : String
  description : String
  publisherId : String
  publisherName : String
  world : String
  profiles : List Json
  platforms : List Json
  entrypoints : List Json
  capabilities : List Json
  appState : List (String × Json)
  presentation : Presentation
  packageSha256 : String
  componentSha256 : String
  manifestSha256 : String
  sourceTreeSha256 : String
  quarantineReceiptSha256 : String
  candidateRecordSha256 : String
  verificationBlockSha256 : String
  payloadBindingSha256 : String
  verification : List (String × Json)
  packageFiles : List Observed
  ingestedAt : String

def recordSchema : String := "vibapp.local-appstore-record.experimental-v1"

def Release.app (r : Release) : Json :=
  .obj [("id", .str r.appId), ("version", .str r.appVersion), ("kind", .str r.appKind),
    ("display_name", .str r.displayName), ("description", .str r.description),
    ("publisher", .obj [("id", .str r.publisherId), ("display_name", .str r.publisherName)])]

def Release.runtime (r : Release) : Json :=
  .obj [("contract", .str "vibapp:experimental-v0@0.0.1"), ("wasi", .str "0.2"),
    ("world", .str r.world), ("profiles", .arr r.profiles), ("platforms", .arr r.platforms),
    ("entrypoints", .arr r.entrypoints), ("capabilities", .arr r.capabilities)]

def Release.digests (r : Release) : Json :=
  .obj [("package_sha256", .str r.packageSha256), ("component_sha256", .str r.componentSha256),
    ("manifest_sha256", .str r.manifestSha256), ("source_tree_sha256", .str r.sourceTreeSha256),
    ("quarantine_receipt_sha256", .str r.quarantineReceiptSha256),
    ("candidate_record_sha256", .str r.candidateRecordSha256),
    ("verification_block_sha256", .str r.verificationBlockSha256),
    ("payload_binding_sha256", .str r.payloadBindingSha256)]

def publication : Json := .obj [("state", .str "not-published"), ("authority", .str "none")]

def authority : Json := .obj [("install", .str "daemon"), ("publish", .str "none")]

def paths (packageDigest : String) : Json :=
  let root := "candidates/" ++ packageDigest
  .obj [("candidate", .str (root ++ "/candidate.json")), ("package", .str (root ++ "/package"))]

/-- The members of a record. -/
def Release.members (r : Release) (state : String) (withdrawnAt reason : Json) :
    List (String × Json) :=
  [("schema_version", .str recordSchema), ("state", .str state), ("visibility", .str "private"),
    ("publication", publication), ("app", r.app), ("runtime", r.runtime),
    ("app_state", .obj r.appState), ("presentation", r.presentation.toJson),
    ("digests", r.digests), ("verification", .obj r.verification), ("authority", authority),
    ("paths", paths r.packageSha256), ("package_files", .arr (r.packageFiles.map Observed.toJson)),
    ("ingested_at_utc", .str r.ingestedAt), ("withdrawn_at_utc", withdrawnAt),
    ("withdraw_reason", reason)]

/-! ## Validation -/

def candidateKeys : List String :=
  ["schema_version", "document_type", "state", "job_id", "source_tree_sha256",
    "package_digest_sha256", "package_directory", "component", "manifest",
    "quarantine_receipt_sha256", "verification", "authority"]

/-- The keys of the candidate. `set` raises for what has no items or has unhashable ones, and a list of
the keys is taken for a dictionary until it is read. -/
def candidateMembers (candidate : Json) : Py (List (String × Json)) :=
  match candidate with
  | .obj members =>
    if hasExactly members (candidateKeys ++ ["presentation"]) then .ok members
    else exactObject candidate candidateKeys "candidate"
  | .arr items =>
    let keys := (items.filterMap asStr).map fun key => (key, Json.null)
    let hashable := items.all fun item =>
      match item with
      | .arr _ => false
      | .obj _ => false
      | _ => true
    if hashable = false ∨ keys.length = items.length ∧
        (hasExactly keys candidateKeys || hasExactly keys (candidateKeys ++ ["presentation"])) then
      .error (.other "TypeError")
    else exactObject candidate candidateKeys "candidate"
  | .str _ => exactObject candidate candidateKeys "candidate"
  | _ => .error (.other "TypeError")

/-- A verification check of the candidate. -/
def verifyCheck (check : Json) : Py Unit := do
  let members ← exactObject check ["id", "outcome", "tool", "detail"] "verification check"
  raiseIf (asStr (field members "outcome") ≠ some "pass")
    "integrity-failure" "candidate contains a non-passing verifier check"
  let _ ← text (field members "id") "verification check id" 128
  let _ ← text (field members "tool") "verification check tool" 256
  let _ ← text (field members "detail") "verification check detail" 1000

/-- The candidate's own part. -/
def validateCandidate (candidate : List (String × Json)) : Py (String × List (String × Json)) := do
  raiseIf (
      asStr (field candidate "schema_version") ≠ some "vibapp.builder-candidate.experimental-v1" ∨
      asStr (field candidate "document_type") ≠ some "verifier-promoted-candidate" ∨
      asStr (field candidate "state") ≠ some "candidate-ready" ∨
      asStr (field candidate "package_directory") ≠ some "package")
    "integrity-failure" "candidate is not a verifier-promoted candidate-ready v1"
  let _ ← text (field candidate "job_id") "job_id" 128
  let _ ← digest (field candidate "source_tree_sha256") "source_tree_sha256"
  let packageDigest ← digest (field candidate "package_digest_sha256") "package_digest_sha256"
  let _ ← digest (field candidate "quarantine_receipt_sha256") "quarantine_receipt_sha256"
  raiseIf (Json.dumps (field candidate "authority") ≠ Json.dumps authority)
    "permission-denied" "candidate authority must remain daemon-install/private-only"
  let verification ← exactObject (field candidate "verification")
    ["authority", "verifier_version", "verified_at_utc", "checks"] "candidate.verification"
  raiseIf (asStr (field verification "authority") ≠ some "independent-verifier" ∨
      asStr (field verification "verifier_version") ≠ some "app-verifier.experimental-v1")
    "integrity-failure" "candidate lacks independent verifier authority"
  let _ ← utc (field verification "verified_at_utc") "verification.verified_at_utc"
  match field verification "checks" with
  | .arr checks => do
    raiseIf (checks.length = 0 ∨ 64 < checks.length)
      "integrity-failure" "candidate has no independent verifier checks"
    checks.forM verifyCheck
    return (packageDigest, verification)
  | _ => fail "integrity-failure" "candidate has no independent verifier checks"

/-- The manifest's bytes against the candidate, and its contract. -/
def validateManifest (library : Library) (candidate : List (String × Json))
    (bytes : List UInt8) : Py (List (String × Json)) := do
  let reference ← exactObject (field candidate "manifest") ["path", "sha256", "size_bytes"]
    "candidate.manifest"
  let size ← boundedSize (field reference "size_bytes") maxManifestBytes "resource-limit"
    "candidate manifest size is outside the frozen bound"
  raiseIf (asStr (field reference "path") ≠ some "manifest.json" ∨
      asStr (field reference "sha256") ≠ some (library.sha256 bytes) ∨ size ≠ bytes.length)
    "integrity-failure" "candidate manifest digest or size does not match bytes"
  match ← strictJson library bytes "manifest" with
  | .obj manifest => do
    raiseIf (
        asStr (field manifest "schema_version") ≠ some "vibapp.manifest.experimental-v0.0.1" ∨
        asStr (field manifest "package_format") ≠ some "vibapp.package.experimental-v0")
      "incompatible-contract" "manifest contract is unsupported"
    let revocation := match field manifest "verification" with
      | .obj verification => asStr (field verification "revocation")
      | _ => none
    raiseIf (revocation ≠ some "not-revoked")
      "permission-denied" "revoked or ambiguously revoked package cannot enter the Store"
    return manifest
  | _ => fail "malformed-output" "manifest is not an object"

/-- The files of the package against the manifest's descriptors. -/
def validateFiles (descriptors : List Descriptor) (observed : List Observed) : Py Unit := do
  let observedPaths := observed.map (·.path)
  let expected := "manifest.json" :: (if "signature.json" ∈ observedPaths then ["signature.json"]
    else []) ++ descriptors.map (·.path)
  raiseIf (¬ (observedPaths.all expected.contains && expected.all observedPaths.contains))
    "integrity-failure" "package has missing or extra files"
  descriptors.forM fun d =>
    raiseIf ((observed.find? (·.path = d.path)).map (fun o => (o.sha256, o.sizeBytes)) ≠
        some (d.sha256, d.sizeBytes))
      "integrity-failure" ("artifact differs from manifest: " ++ d.path)

/-- The candidate's component against the manifest's. -/
def validateComponent (candidate : List (String × Json)) (component : Descriptor) : Py Unit := do
  let reference ← exactObject (field candidate "component") ["path", "sha256", "size_bytes"]
    "candidate.component"
  let size ← boundedSize (field reference "size_bytes") (16 * 1024 * 1024) "resource-limit"
    "candidate component size is outside the frozen bound"
  raiseIf (asStr (field reference "path") ≠ some component.path ∨
      asStr (field reference "sha256") ≠ some component.sha256 ∨ size ≠ component.sizeBytes)
    "integrity-failure" "candidate component descriptor differs from the manifest"

/-- The manifest's app, as far as the record keeps it: identity, presentation and publisher. -/
structure AppIdentity where
  id : String
  version : String
  kind : String
  displayName : String
  description : String
  presentation : Presentation
  publisherId : String
  publisherName : String

def validateApp (library : Library) (candidate manifest : List (String × Json)) :
    Py AppIdentity :=
  match field manifest "app" with
  | .obj app => do
    let id ← text (field app "id") "app.id" 128
    let version ← text (field app "version") "app.version" 128
    raiseIf (isIdentifier id = false ∨ isSemver version = false)
      "incompatible-contract" "manifest app identity is malformed"
    match field app "kind" with
    | .str kind => do
      raiseIf (kind ∉ ["ui", "service", "hybrid"])
        "incompatible-contract" "manifest app kind is unsupported"
      let displayName ← text (field app "display_name") "app.display_name" 80
      let description ← text (field app "description") "app.description" 1000
      let presentation ← presentation library (field candidate "presentation") (.str kind)
        (.str displayName) (.str description)
      match field app "publisher" with
      | .obj publisher => do
        let publisherId ← text (field publisher "id") "publisher.id" 128
        let publisherName ← text (field publisher "display_name") "publisher.display_name" 80
        raiseIf (isIdentifier publisherId = false)
          "incompatible-contract" "manifest publisher ID is malformed"
        return ⟨id, version, kind, displayName, description, presentation, publisherId,
          publisherName⟩
      | _ => fail "incompatible-contract" "manifest publisher is missing"
    | _ => fail "incompatible-contract" "manifest app kind is unsupported"
  | _ => fail "incompatible-contract" "manifest app identity is missing"

/-- The manifest's runtime: world, profiles, platforms, entrypoints and capabilities. -/
def validateRuntime (manifest : List (String × Json)) :
    Py (String × List Json × List Json × List Json × List Json) :=
  match field manifest "runtime", field manifest "capabilities", field manifest "entrypoints" with
  | .obj runtime, .arr capabilities, .arr entrypoints =>
    match asStr (field runtime "world") with
    | some world => do
      raiseIf (asStr (field runtime "contract") ≠ some "vibapp:experimental-v0@0.0.1" ∨
          asStr (field runtime "wasi") ≠ some "0.2" ∨
          world ∉ ["ui-only-reference", "service-only-reference", "hybrid-reference",
            "web-preview-reference"])
        "incompatible-contract" "manifest runtime contract is unsupported"
      match field runtime "profiles", field runtime "platforms" with
      | .arr profiles, .arr platforms =>
        return (world, profiles, platforms, entrypoints, capabilities)
      | _, _ => fail "incompatible-contract" "manifest profiles or platforms are malformed"
    | none => fail "incompatible-contract" "manifest runtime contract is unsupported"
  | _, _, _ => fail "incompatible-contract" "manifest runtime metadata is incomplete"

/-- A field of the state contract. -/
def stateValue (members : List (String × Json)) (name : String) : Py Nat :=
  boundedSize (field members name) (2 ^ 32 - 1) "incompatible-contract"
    "manifest state migration range is invalid"

/-- The manifest's state contract. -/
def validateState (manifest : List (String × Json)) : Py (List (String × Json)) := do
  let state ← exactObject (field manifest "state")
    ["schema", "migratable_from_min", "migratable_from_max"] "manifest.state"
  let _ ← stateValue state "schema"
  let least ← stateValue state "migratable_from_min"
  let greatest ← stateValue state "migratable_from_max"
  raiseIf (greatest < least) "incompatible-contract" "manifest state migration range is invalid"
  return state

/-- The digest that binds the candidate record, the package and its files. -/
def payloadDigest (library : Library) (candidateSha packageDigest : String)
    (inventory : List Observed) : String :=
  library.sha256 (canonicalJson (.obj [("candidate_sha256", .str candidateSha),
    ("package_digest_sha256", .str packageDigest),
    ("files", .arr (inventory.map Observed.toJson))]))

/-- The text of a member that was checked to be a digest. -/
def digestText (members : List (String × Json)) (name : String) : String :=
  (asStr (field members name)).getD ""

/-- `_validate_snapshot`. -/
def validateSnapshot (library : Library) (tree : Tree) (ingestedAt : String) : Py Release := do
  let candidateBytes ← readRegular tree.candidate maxCandidateBytes "candidate.json"
  let candidate ← candidateMembers (← strictJson library candidateBytes "candidate")
  let (expected, verification) ← validateCandidate candidate
  let manifestBytes ← readRegular (tree.files.lookup "manifest.json") maxManifestBytes
    "manifest.json"
  let manifest ← validateManifest library candidate manifestBytes
  let (component, rest) ← manifestDescriptors manifest
  let observed ← observe library tree.files [] 0
  validateFiles (component :: rest) observed
  validateComponent candidate component
  raiseIf (packageDigest library (.obj manifest) (component :: rest) ≠ expected)
    "integrity-failure" "candidate package digest does not match the package bytes"
  let app ← validateApp library candidate manifest
  let (world, profiles, platforms, entrypoints, capabilities) ← validateRuntime manifest
  let appState ← validateState manifest
  let candidateSha := library.sha256 candidateBytes
  let inventory := observed.insertionSort fun a b => a.path ≤ b.path
  return {
    appId := app.id
    appVersion := app.version
    appKind := app.kind
    displayName := app.displayName
    description := app.description
    publisherId := app.publisherId
    publisherName := app.publisherName
    world := world
    profiles := profiles
    platforms := platforms
    entrypoints := entrypoints
    capabilities := capabilities
    appState := appState
    presentation := app.presentation
    packageSha256 := expected
    componentSha256 := component.sha256
    manifestSha256 := library.sha256 manifestBytes
    sourceTreeSha256 := digestText candidate "source_tree_sha256"
    quarantineReceiptSha256 := digestText candidate "quarantine_receipt_sha256"
    candidateRecordSha256 := candidateSha
    verificationBlockSha256 := library.sha256 (canonicalJson (.obj verification))
    payloadBindingSha256 := payloadDigest library candidateSha expected inventory
    verification := verification
    packageFiles := inventory
    ingestedAt := ingestedAt }

end Vibapp.AppStore
