import Vibapp.Verifier.ManifestSchema

/-!
# The verifier on its documents

The rest of what the checks of a quarantine read: the receipt, the presentation and the guest's
descriptor. `pipeline` is the verifier with its own readings of JSON; what remains outside are
Python's library and the two executables.
-/

namespace Vibapp.Verifier

open Daemon (field hasExactly asStr asInt asBool containsChars)
open Builder (isAppId isSemver read)

/-! ## The presentation -/

def hostPresentationSchema : String := "vibapp.host-presentation.experimental-v1"

/-- One bounded dimension of a presentation. -/
def presentationBound (members : List (String × Json)) (context name : String)
    (minimum maximum : Int) : Py Nat :=
  let refused := fail "schema-invalid" (context ++ "." ++ name ++ " must be an integer in " ++
    toString minimum ++ ".." ++ toString maximum)
  match asInt (field members name) with
  | some n => if minimum ≤ n ∧ n ≤ maximum then .ok n.toNat else refused
  | none => refused

/-- `validate_host_presentation`. -/
def validateHostPresentation (value : Json) (context : String) : Py Presentation := do
  let members ← requireExactObject value ["schema_version", "preferred_width", "preferred_height",
    "minimum_width", "minimum_height", "resizable"] context
  require (asStr (field members "schema_version") = some hostPresentationSchema) "schema-invalid"
    (context ++ " schema is unsupported")
  let preferredWidth ← presentationBound members context "preferred_width" 320 1920
  let preferredHeight ← presentationBound members context "preferred_height" 240 1200
  let minimumWidth ← presentationBound members context "minimum_width" 320 1280
  let minimumHeight ← presentationBound members context "minimum_height" 240 960
  require (minimumWidth ≤ preferredWidth && minimumHeight ≤ preferredHeight) "schema-invalid"
    (context ++ " preferred size must cover its minimum size")
  match asBool (field members "resizable") with
  | some resizable =>
    return ⟨preferredWidth, preferredHeight, minimumWidth, minimumHeight, resizable⟩
  | none => fail "schema-invalid" (context ++ ".resizable must be boolean")

/-- `derive_host_presentation`. -/
def deriveHostPresentation (python : Python) (kind displayName description : String) :
    Py Presentation := do
  require (["ui", "service", "hybrid"].contains kind) "schema-invalid"
    "presentation app kind is unsupported"
  let normalized := (python.store.nfkcCasefold (displayName ++ "\n" ++ description)).toList
  let mentions (markers : List String) : Bool :=
    markers.any fun marker => containsChars marker.toList normalized
  if kind = "service" then return ⟨720, 480, 480, 320, false⟩
  else if mentions ["clock", "timer", "stopwatch", "counter", "calculator", "reminder", "时钟",
      "计时", "秒表", "倒计时", "计数器", "计算器", "提醒"] then
    return ⟨520, 300, 420, 240, true⟩
  else if mentions ["dashboard", "workspace", "editor", "studio", "inventory", "kanban", "看板",
      "工作台", "编辑器", "库存", "管理台"] then return ⟨1120, 760, 720, 480, true⟩
  else if kind = "hybrid" then return ⟨1040, 720, 640, 420, true⟩
  else return ⟨900, 640, 480, 360, true⟩

/-! ## The receipt -/

def receiptFields : List String :=
  ["schema_version", "document_type", "state", "scope", "job_id", "need_spec_digest_sha256",
    "source_tree_sha256", "required_capabilities", "package_entrypoints", "source_directory",
    "package_directory", "package_digest_sha256", "package_files", "component_sha256",
    "manifest_sha256", "build_log_sha256", "builder", "limits", "terminal_outcome", "authority",
    "created_at_utc"]

/-- The texts that every receipt has. -/
def receiptConstants : List (String × String) :=
  [("schema_version", "vibapp.builder-quarantine.experimental-v2"),
    ("document_type", "builder-quarantine-receipt"), ("state", "quarantined-awaiting-verifier"),
    ("scope", "local-product-prototype"), ("source_directory", "source"),
    ("package_directory", "package"), ("terminal_outcome", "build-output-untrusted")]

def receiptDigests : List String :=
  ["need_spec_digest_sha256", "source_tree_sha256", "package_digest_sha256", "component_sha256",
    "manifest_sha256", "build_log_sha256"]

/-- `APP_IMPORTS`. -/
def appImports : List String := capabilityGrantPolicy.map Prod.fst

/-- The capabilities that were consented to. -/
def validateCapabilityList (value : Json) : Py (List String) := do
  let message := "quarantine required capabilities are invalid"
  let rows ← requireList value "schema-invalid" message
  let names := rows.filterMap asStr
  require (rows.length ≤ appImports.length && names.length = rows.length &&
    names.all appImports.contains && (names.Nodup : Bool)) "schema-invalid" message
  pure names

/-- `package_files`. A row that is none gives the error that the loop over the inventory raises. -/
def validatePackageFiles (value : Json) : Py (List PackageFile) := do
  let rows ← requireList value "schema-invalid" "quarantine package inventory is invalid"
  rows.mapM fun row => do
    let row ← requireExactObject row ["path", "sha256", "size_bytes"] "package_files"
    requireSha256 (field row "sha256") "package_files.sha256"
    let size ← requireInteger (field row "size_bytes") "package_files.size_bytes" 1 maxPackageBytes
    match asStr (field row "path") with
    | some path => pure ⟨path, (asStr (field row "sha256")).getD "", size.toNat⟩
    | none => fail "schema-invalid" "package_files.path is not a bounded path"

/-- The builder's truth flags. -/
def validateBuilder (value : Json) : Py Unit := do
  let builder ← requireExactObject value ["version", "runner_identity_sha256", "execution_mode",
    "source_execution_observed", "production_isolation"] "builder"
  requireSha256 (field builder "runner_identity_sha256") "builder.runner_identity_sha256"
  require ((asBool (field builder "source_execution_observed")).isSome &&
    (asBool (field builder "production_isolation")).isSome) "schema-invalid"
    "builder truth flags are invalid"

def limitFields : List String :=
  ["wall_seconds", "cpu_seconds", "memory_bytes", "pids", "disk_bytes", "stdout_bytes",
    "stderr_bytes", "open_files", "concurrent_jobs"]

def validateLimits (value : Json) : Py Unit := do
  let limits ← requireExactObject value limitFields "limits"
  limits.forM fun limit =>
    require ((asInt limit.2).any fun n => 0 < n) "schema-invalid"
      ("limit " ++ limit.1 ++ " is not finite positive")
  require (asInt (field limits "concurrent_jobs") = some 1) "resource-limit"
    "Builder concurrency must be one"

/-- `_validate_receipt`, as far as it looks at the receipt alone. -/
def validateReceiptFields (receipt : List (String × Json)) : Py Receipt := do
  let keys := receipt.map Prod.fst
  require (receiptFields.all keys.contains &&
    keys.all ("presentation" :: receiptFields).contains) "schema-invalid"
    "quarantine receipt fields mismatch"
  let presentation ← if keys.contains "presentation" then
      some <$> validateHostPresentation (field receipt "presentation")
        "quarantine receipt.presentation"
    else pure none
  let required ← validateCapabilityList (field receipt "required_capabilities")
  let entrypoints ← validateConsentBoundEntrypoints (field receipt "package_entrypoints")
    "quarantine receipt.package_entrypoints"
  require (receiptConstants.all fun p => asStr (field receipt p.1) = some p.2) "schema-invalid"
    "quarantine receipt constants are unsupported"
  match asStr (field receipt "job_id") with
  | none => fail "integrity-failure" "receipt job ID differs from directory"
  | some jobId => do
    receiptDigests.forM fun name => requireSha256 (field receipt name) name
    require ((Json.obj [("builder", .str "quarantine-only"),
      ("verify", .str "independent-verifier"), ("install", .str "none"),
      ("publish", .str "none")]).equals (field receipt "authority")) "authority-invalid"
      "quarantine authority is invalid"
    validateBuilder (field receipt "builder")
    validateLimits (field receipt "limits")
    let files ← validatePackageFiles (field receipt "package_files")
    let digest (name : String) : String := textOf (field receipt name)
    return {
      jobId := jobId
      sourceTreeSha256 := digest "source_tree_sha256"
      requiredCapabilities := required
      packageEntrypoints := entrypoints
      packageDigestSha256 := digest "package_digest_sha256"
      packageFiles := files
      componentSha256 := digest "component_sha256"
      manifestSha256 := digest "manifest_sha256"
      buildLogSha256 := digest "build_log_sha256"
      presentation := presentation }

/-! ## The guest's descriptor -/

/-- `unicodedata.category(c) == "Cc"`. -/
def isControl (c : Char) : Bool := c.toNat < 32 || (127 ≤ c.toNat && c.toNat < 160)

/-- `_bounded_text`. -/
def boundedText (value : Json) (context : String) (maximum : Nat) : Py String :=
  let refused := fail "malformed-output" ("Guest descriptor " ++ context ++ " is outside its bound")
  match asStr value with
  | some s => if s ≠ "" ∧ s.length ≤ maximum ∧ !s.toList.any isControl then .ok s else refused
  | none => refused

structure GuestEntrypoint where
  id : String
  kind : String
  label : String
  initialRoute : Option String
deriving DecidableEq, Repr

/-- The loop over the guest's entrypoints, with the ids so far. -/
def validateGuestEntrypoints : List Json → List String → Py (List GuestEntrypoint)
  | [], _ => .ok []
  | row :: rest, seen => do
    let row ← requireExactObject row ["id", "kind", "label", "initial_route"]
      "Guest descriptor entrypoint"
    let id ← boundedText (field row "id") "entrypoint.id" 128
    require (isAppId id && !seen.contains id) "malformed-output"
      "Guest descriptor entrypoint id is invalid or duplicated"
    require (← memberOf (field row "kind") ["launcher-ui", "service", "settings"])
      "malformed-output" "Guest descriptor entrypoint kind is invalid"
    let label ← boundedText (field row "label") "entrypoint.label" 80
    let route ← if (field row "initial_route").isNull then pure none
      else do
        let route ← boundedText (field row "initial_route") "entrypoint.initial_route" 128
        require (isAppId route) "malformed-output" "Guest descriptor initial route is invalid"
        pure (some route)
    let entrypoint : GuestEntrypoint := ⟨id, textOf (field row "kind"), label, route⟩
    return entrypoint :: (← validateGuestEntrypoints rest (id :: seen))

structure GuestDescriptor where
  id : String
  version : String
  kind : String
  displayName : String
  entrypoints : List GuestEntrypoint
deriving DecidableEq, Repr

/-- `_validated_descriptor`. -/
def validatedDescriptor (value : Json) : Py GuestDescriptor := do
  let descriptor ← requireExactObject value
    ["id", "version", "kind", "display_name", "entrypoints"] "Guest descriptor"
  let id ← boundedText (field descriptor "id") "id" 128
  require (isAppId id) "malformed-output" "Guest descriptor app id is invalid"
  let version ← boundedText (field descriptor "version") "version" 128
  require (isSemver version) "malformed-output" "Guest descriptor version is invalid"
  require (← memberOf (field descriptor "kind") ["ui", "service", "hybrid"]) "malformed-output"
    "Guest descriptor app kind is invalid"
  let displayName ← boundedText (field descriptor "display_name") "display_name" 80
  let message := "Guest descriptor entrypoint count is invalid"
  let rows ← requireList (field descriptor "entrypoints") "malformed-output" message
  require (1 ≤ rows.length && rows.length ≤ 16) "malformed-output" message
  let entrypoints ← validateGuestEntrypoints rows []
  return ⟨id, version, textOf (field descriptor "kind"), displayName, entrypoints⟩

/-- `expected_guest_descriptor`. -/
def expectedGuestDescriptor (manifest : Manifest) : GuestDescriptor where
  id := manifest.id
  version := manifest.version
  kind := manifest.kind
  displayName := manifest.displayName
  entrypoints := manifest.entrypoints.map fun row => ⟨row.id, row.kind, row.label, row.initialRoute⟩

/-- `reconcile_guest_descriptor`. -/
def reconcileGuestDescriptor (manifest : Manifest) (value : Json) : Py Unit := do
  let actual ← validatedDescriptor value
  let expected := expectedGuestDescriptor manifest
  let same (name a b : String) : Py Unit :=
    require (a = b) "incompatible-contract" ("Guest descriptor " ++ name ++ " differs from manifest")
  same "id" actual.id expected.id
  same "version" actual.version expected.version
  same "kind" actual.kind expected.kind
  same "display_name" actual.displayName expected.displayName
  require (sameSet (actual.entrypoints.map (·.id)) (expected.entrypoints.map (·.id)))
    "incompatible-contract" "Guest descriptor entrypoint set differs"
  require (expected.entrypoints.all fun row => actual.entrypoints.contains row)
    "incompatible-contract" "Guest descriptor entrypoint differs from manifest"

/-! ## The tools -/

/-- The two executables: `_run_wasm_checks` up to its result, and the JSON value that the inspector
writes for a component. -/
structure Tools where
  wasm : List UInt8 → Manifest → Py Unit
  inspect : List UInt8 → Manifest → Py Json

/-- What `_run_wasm_checks` returns. -/
def wasmChecks : List Check :=
  [⟨"wasm-tools-validate", "pass", "wasm-tools 1.256.0", "exact component bytes validate"⟩,
    ⟨"component-import-reconciliation", "pass", "wasm-tools component wit",
      "required imports and guest export are exact; ambient WASI denied"⟩,
    ⟨"component-tool-metadata", "pass", "wasm-tools metadata show",
      "wit-bindgen-rust 0.60.0 metadata observed"⟩]

/-- What `run_guest_descriptor_reconciliation` returns, with the digest of the fixed inspector. -/
def guestCheck : Check :=
  ⟨"guest-descriptor-reconciliation", "pass", "vibapp-component-inspector sha256:229a1f7cf68d",
    "app identity/display name and every entrypoint id/kind/label/initial route " ++
      "match one-to-one; no extra Guest entrypoints"⟩

/-- The isolation that the inspector attests. -/
def inspectorIsolation : Json :=
  .obj [("separate_process", .bool true), ("ambient_wasi_linked", .bool false),
    ("live_host_effects", .bool false), ("linear_memory_limit_bytes", .int 67108864),
    ("fuel_budget", .int 20000000), ("deadline_ms", .int 2000)]

/-- `run_guest_descriptor_reconciliation`. -/
def runGuestDescriptorReconciliation (tools : Tools) (component : List UInt8)
    (manifest : Manifest) : Py Check := do
  let output ← requireExactObject (← tools.inspect component manifest)
    ["schema_version", "component_sha256", "world", "descriptor", "isolation"]
    "Guest descriptor inspector output"
  require (asStr (field output "schema_version") =
    some "vibapp.component-inspector.protocol.experimental-v1") "malformed-output"
    "Guest descriptor inspector schema is unsupported"
  require (asStr (field output "component_sha256") = some manifest.component.sha256 &&
    asStr (field output "world") = some manifest.world) "integrity-failure"
    "Guest descriptor inspector output is not bound to the exact component/world"
  let _ ← requireExactObject (field output "isolation") ["separate_process", "ambient_wasi_linked",
    "live_host_effects", "linear_memory_limit_bytes", "fuel_budget", "deadline_ms"]
    "Guest descriptor inspector isolation"
  require (inspectorIsolation.equals (field output "isolation")) "integrity-failure"
    "Guest descriptor inspector did not attest the fixed describe-only isolation"
  reconcileGuestDescriptor manifest (field output "descriptor")
  pure guestCheck

/-! ## The pipeline -/

/-- `package_digest`, with the error that the verifier lets through. -/
def packageDigest (python : Python) (manifest : Json) : Py String :=
  match Builder.packageDigest python.store.sha256 python.conversions manifest with
  | .ok digest => .ok digest
  | .error (.pipeline code message _) => fail code message
  | .error (.other _) => .error .other

/-- A record of the source tree, as `source_tree_digest` reads it. -/
def sourceRow (record : SourceRecord) : List UInt8 :=
  record.path.toUTF8.data.toList ++ 0 :: Daemon.fromHex record.sha256.toList ++
    Daemon.packBE 8 record.sizeBytes

/-- `source_tree_digest`. -/
def sourceTreeDigest (python : Python) (records : List SourceRecord) : String :=
  let sorted := records.insertionSort fun a b => a.path ≤ b.path
  python.store.sha256 ("VIBAPP-CODEAGENT-SOURCE".toUTF8.data.toList ++
    0 :: sorted.flatMap sourceRow)

/-- The verifier. -/
def pipeline (python : Python) : Library Json Tools where
  sha256 := python.store.sha256
  loadReceipt data := loadJson python data "quarantine receipt" >>= validateReceiptFields
  loadJson data := .obj <$> loadJson python data "manifest"
  validateManifestSchema value := do
    validateManifestSchema value
    pure (manifestOf value)
  manifestEntrypoints := manifestEntrypoints
  packageDigest := packageDigest python
  deriveHostPresentation manifest :=
    deriveHostPresentation python manifest.kind manifest.displayName manifest.description
  sourceTreeDigest := sourceTreeDigest python
  runWasmChecks tools component manifest := do
    tools.wasm component manifest
    pure wasmChecks
  reconcileGuestDescriptor := runGuestDescriptorReconciliation
  isDecimal := python.isDecimal

end Vibapp.Verifier
