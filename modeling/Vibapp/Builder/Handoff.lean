import Vibapp.CloudAgent.Handoff
import Vibapp.Verifier.Quarantine

/-!
# What the Builder takes

`validate_handoff` and `_validate_cargo_manifest`: the Builder's own checks of a handoff that the
cloud agent has written. The document is read back as it was written.
-/

namespace Vibapp.Builder

open CloudAgent (Authority Entrypoint PackageIntent Target ProviderExecution SourceRecord
  HandoffDocument SourceTree hasKeys member asText asTexts isFalse includes)
open ProviderRunner (Node hexText)
open Verifier (PipelineError)

/-! ## Constants -/

def maxHandoffBytes : Nat := 512 * 1024
def maxSourceBytes : Nat := 64 * 1024 * 1024
def maxSourceFileBytes : Nat := 16 * 1024 * 1024

/-- `WORLD_IMPORTS`. -/
def worldImports : List (String × List String) :=
  [("ui-only-reference",
      ["vibapp:experimental-v0/clock@0.0.1", "vibapp:experimental-v0/kv@0.0.1",
        "vibapp:experimental-v0/log@0.0.1", "vibapp:experimental-v0/host-info@0.0.1",
        "vibapp:experimental-v0/settings@0.0.1"]),
    ("service-only-reference",
      ["vibapp:experimental-v0/clock@0.0.1", "vibapp:experimental-v0/scheduler@0.0.1",
        "vibapp:experimental-v0/kv@0.0.1", "vibapp:experimental-v0/log@0.0.1",
        "vibapp:experimental-v0/host-info@0.0.1", "vibapp:experimental-v0/settings@0.0.1",
        "vibapp:experimental-v0/system-metrics@0.0.1", "vibapp:experimental-v0/http@0.0.1"]),
    ("hybrid-reference",
      ["vibapp:experimental-v0/clock@0.0.1", "vibapp:experimental-v0/scheduler@0.0.1",
        "vibapp:experimental-v0/notification@0.0.1", "vibapp:experimental-v0/kv@0.0.1",
        "vibapp:experimental-v0/log@0.0.1", "vibapp:experimental-v0/host-info@0.0.1",
        "vibapp:experimental-v0/settings@0.0.1"]),
    ("web-preview-reference",
      ["vibapp:experimental-v0/clock@0.0.1", "vibapp:experimental-v0/scheduler@0.0.1",
        "vibapp:experimental-v0/kv@0.0.1", "vibapp:experimental-v0/log@0.0.1",
        "vibapp:experimental-v0/host-info@0.0.1", "vibapp:experimental-v0/settings@0.0.1",
        "vibapp:experimental-v0/system-metrics@0.0.1", "vibapp:experimental-v0/http@0.0.1"])]

/-- `WORLD_KIND`. -/
def worldKind : List (String × String) :=
  [("ui-only-reference", "ui"), ("service-only-reference", "service"),
    ("hybrid-reference", "hybrid")]

/-- `SERVICE_TRIGGER_ORDER`. -/
def serviceTriggerOrder : List String := ["on-enable", "scheduler", "manual"]

/-! ## Lexical classes -/

def require (ok : Bool) (code message : String) : Except PipelineError Unit :=
  if ok then .ok () else .error ⟨code, message⟩

/-- `IDENTIFIER_RE`, `APP_ID_RE`, `SEMVER_RE`: the expressions of the cloud agent. -/
def isIdentifier (text : String) : Bool := Launcher.isId text
def isAppId (text : String) : Bool := CloudAgent.isAppIdentifier text
def isSemver (text : String) : Bool := CloudAgent.isSemver text

def requireSha256 (value context : String) : Except PipelineError Unit :=
  require (Launcher.isDigest value) "schema-invalid" (context ++ " is not lowercase SHA-256")

/-- `normalized_relative_path`. -/
def normalizedRelativePath (value context : String) : Except PipelineError Unit := do
  let chars := value.toList
  require (value ≠ "" && value.utf8ByteSize ≤ 240) "schema-invalid"
    (context ++ " is not a bounded path")
  require (!chars.contains '\\' && chars.head? ≠ some '/' && chars.getLast? ≠ some '/' &&
    !((chars.splitOn '/').drop 1).dropLast.contains []) "integrity-failure"
    (context ++ " is not canonical")
  require ((chars.splitOn '/').all fun part => part ≠ ['.'] && part ≠ ['.', '.'] &&
    Launcher.isToken (fun c => Launcher.isAlnum c || c = '.' || c = '_' || c = '-') 127 part)
    "integrity-failure" (context ++ " contains an unsafe segment")

/-! ## Files -/

/-- `lstat_regular`, with the mode and the bytes. -/
def lstatRegular (found : Option Node) (maximum : Nat) (context : String) :
    Except PipelineError (Nat × List UInt8) :=
  match found with
  | none => .error ⟨"not-found", context ++ " is missing"⟩
  | some (.file mode links data) => do
    require (links = 1) "integrity-failure" (context ++ " must be one regular unlinked file")
    require (1 ≤ data.length && data.length ≤ maximum) "resource-limit"
      (context ++ " size must be 1.." ++ toString maximum ++ " bytes")
    pure (mode, data)
  | some _ => .error ⟨"integrity-failure", context ++ " must be one regular unlinked file"⟩

/-- What the Builder uses. -/
structure Context where
  sha256 : List UInt8 → List UInt8
  sha256_length : ∀ data, (sha256 data).length = 32
  /-- The bytes of the authoritative contract. -/
  contract : List UInt8
  tomlLoads : List UInt8 → Option Json

/-! ## The scaffold -/

/-- `_cargo_package_name`, for an identifier. -/
def cargoPackageName (sha256 : List UInt8 → List UInt8) (appId : String) : String :=
  let candidate := appId.toList.map fun c => if c = '.' then '_' else c
  if candidate.length ≤ 64 then String.ofList candidate
  else
    String.ofList (candidate.take 51 ++ '-' ::
      (hexText (sha256 appId.toUTF8.toList)).toList.take 12)

/-- The policy for `src/lib.rs`. -/
def isNoStd (text : String) : Bool :=
  includes "#![no_std]" text && includes "extern crate alloc" text &&
    includes "#[global_allocator]" text && includes "#[panic_handler]" text &&
      !includes "extern crate std" text && !includes "std::" text

/-- `_validate_cargo_manifest`. A version that is no text is none that `SEMVER_RE` matches. -/
def validateCargoManifest (builder : Context) (source : SourceTree) (package : PackageIntent) :
    Except PipelineError Unit := do
  let cargo ← lstatRegular (source.files.lookup "Cargo.toml") maxSourceFileBytes "Cargo.toml"
  match builder.tomlLoads cargo.2 with
  | none => .error ⟨"source-invalid", "Cargo.toml is invalid"⟩
  | some document => do
    require (hasKeys document ["package", "lib", "dependencies"]) "schema-invalid"
      "Cargo.toml fields mismatch"
    let cargo := member document "package"
    require (hasKeys cargo ["name", "version", "edition", "publish", "autobins", "autoexamples",
      "autotests", "autobenches"]) "schema-invalid" "Cargo.toml.package fields mismatch"
    require ((asText (member cargo "name")).any CloudAgent.isCargoName &&
      (asText (member cargo "version")).any isSemver &&
        asText (member cargo "edition") = some "2024" && isFalse (member cargo "publish") &&
          ["autobins", "autoexamples", "autotests", "autobenches"].all fun key =>
            isFalse (member cargo key)) "source-invalid"
      "Cargo package policy differs from CodeAgent v1"
    require (asText (member cargo "name") = some (cargoPackageName builder.sha256 package.appId) &&
      asText (member cargo "version") = some package.version) "source-invalid"
      "Cargo package name/version do not match package_intent"
    let library := member document "lib"
    require (hasKeys library ["crate-type"]) "schema-invalid" "Cargo.toml.lib fields mismatch"
    require (asTexts (member library "crate-type") = some ["cdylib"]) "source-invalid"
      "Cargo library must be one cdylib"
    let dependencies := member document "dependencies"
    require (hasKeys dependencies ["wit-bindgen"]) "schema-invalid"
      "Cargo.toml.dependencies fields mismatch"
    let wit := member dependencies "wit-bindgen"
    require (hasKeys wit ["version", "default-features", "features"]) "schema-invalid"
      "wit-bindgen fields mismatch"
    require (asText (member wit "version") = some "=0.60.0" &&
      isFalse (member wit "default-features") &&
        asTexts (member wit "features") = some ["bitflags", "macro-string", "macros", "realloc"])
      "source-invalid" "wit-bindgen policy differs from the accepted source handoff"
    let rust ← lstatRegular (source.files.lookup "src/lib.rs") maxSourceFileBytes "lib.rs"
    match String.fromUTF8? ⟨rust.2.toArray⟩ with
    | none => .error ⟨"source-invalid", "src/lib.rs must be UTF-8"⟩
    | some text =>
      require (isNoStd text) "source-invalid"
        "CodeAgent Rust must be no_std/alloc with an explicit allocator and panic handler"

/-! ## The provider execution -/

def providerVersion : String := "vibapp.provider-runner-isolation.experimental-v1"

/-- The texts of an attestation are digests. -/
def requireDigests (values : List (Option String)) : Except PipelineError Unit :=
  values.forM fun value => requireSha256 (value.getD "") "provider_execution"

/-- The checks of `provider_execution`, by its mode. -/
def validateProvider (provider : ProviderExecution) : Except PipelineError Unit :=
  if provider.mode = "dry-run-fixture" then
    require (provider = {
        mode := "dry-run-fixture"
        adapter := "local-static-fixture"
        providerId := "static-fixture"
        externalRequestAttempted := false
        externalRequestObserved := false
        gatewayRequestId := none
        executableSha256 := none
        isolationPolicyVersion := none
        runnerId := none
        runnerIdentitySha256 := none
        isolationPolicySha256 := none
        receiptDigestSha256 := none }) "schema-invalid"
      "dry-run provider execution is not an exact static fixture"
  else if provider.mode = "direct-local-explicit-opt-in" then do
    require (provider.adapter = "local-codeagent-adapter" &&
      ["codex", "claude-code", "opencode", "gemini-cli"].contains provider.providerId &&
        provider.externalRequestAttempted && !provider.externalRequestObserved &&
          provider.gatewayRequestId.isNone && provider.isolationPolicyVersion.isNone &&
            provider.runnerId.isNone && provider.runnerIdentitySha256.isNone &&
              provider.isolationPolicySha256.isNone && provider.receiptDigestSha256.isNone)
      "schema-invalid" "direct provider execution metadata is inconsistent"
    requireDigests [provider.executableSha256]
  else if provider.mode = "docker-local-explicit-opt-in" then do
    require (provider.adapter = "docker-codeagent-launcher" &&
      ["codex", "opencode"].contains provider.providerId && provider.externalRequestAttempted &&
        provider.externalRequestObserved &&
          provider.isolationPolicyVersion = some "vibapp.docker-source-v1" &&
            provider.runnerId.any isIdentifier && provider.gatewayRequestId = provider.runnerId)
      "schema-invalid" "Docker provider execution metadata is inconsistent"
    requireDigests [provider.executableSha256, provider.runnerIdentitySha256,
      provider.isolationPolicySha256, provider.receiptDigestSha256]
  else if provider.mode = "live-explicit-opt-in" then do
    require (provider.adapter = "external-isolated-provider-runner" &&
      provider.providerId = "codex" && provider.externalRequestAttempted &&
        provider.externalRequestObserved &&
          provider.isolationPolicyVersion = some providerVersion &&
            provider.gatewayRequestId.any isIdentifier && provider.runnerId.any isIdentifier)
      "schema-invalid" "isolated provider execution metadata is inconsistent"
    requireDigests [provider.executableSha256, provider.runnerIdentitySha256,
      provider.isolationPolicySha256, provider.receiptDigestSha256]
  else .error ⟨"schema-invalid", "unknown CodeAgent provider mode"⟩

/-! ## The package -/

/-- The bound of a text in bytes. -/
def isBoundedText (text : String) (limit : Nat) : Bool := text ≠ "" && text.utf8ByteSize ≤ limit

/-- `triggers` is a canonical subset. -/
def isCanonicalTriggers (triggers : List String) : Bool :=
  triggers ≠ [] && triggers.length ≤ serviceTriggerOrder.length &&
    triggers = serviceTriggerOrder.filter fun trigger => triggers.contains trigger

/-- The turn for an entrypoint, with the identifiers so far. -/
def validateEntrypoint (seen : List String) (row : Entrypoint) :
    Except PipelineError (List String) := do
  require (isIdentifier row.id && !seen.contains row.id) "schema-invalid"
    "entrypoint ID is invalid or duplicate"
  require (["launcher-ui", "service", "settings"].contains row.kind) "schema-invalid"
    "entrypoint kind is invalid"
  require (isBoundedText row.label 80) "schema-invalid" "entrypoint label is invalid"
  require (!(row.kind = "launcher-ui" && row.initialRoute.isNone)) "schema-invalid"
    "launcher entrypoint requires initial_route"
  require (!(row.kind ≠ "launcher-ui" && row.initialRoute.isSome)) "schema-invalid"
    "non-launcher initial_route must be null"
  if row.kind = "service" then
    require (isCanonicalTriggers (row.triggers.getD ["manual"])) "schema-invalid"
      "service triggers must be a canonical non-empty subset"
  else
    require row.triggers.isNone "schema-invalid"
      "only service entrypoints may declare triggers"
  pure (seen ++ [row.id])

def validatePackage (package : PackageIntent) : Except PipelineError Unit := do
  require (isAppId package.appId) "schema-invalid" "package app_id is invalid"
  require (isSemver package.version) "schema-invalid" "package version is invalid"
  require (isBoundedText package.displayName 80) "schema-invalid"
    "package display_name is invalid"
  require (isBoundedText package.description 1000) "schema-invalid"
    "package description is invalid"
  require (1 ≤ package.entrypoints.length && package.entrypoints.length ≤ 16) "schema-invalid"
    "package entrypoints are invalid"
  let _ ← package.entrypoints.foldlM validateEntrypoint []

/-! ## The target -/

def validateTarget (package : PackageIntent) (target : Target) : Except PipelineError Unit := do
  let kinds := package.entrypoints.map Entrypoint.kind
  require (target.contract = "vibapp:experimental-v0@0.0.1" && target.wasi = "0.2" &&
    target.rustTarget = "wasm32-wasip2" &&
      worldImports.lookup target.witWorld = some target.requiredImports)
    "incompatible-contract" "target contract/world/imports are not exact"
  require (target.witWorld ≠ "web-preview-reference") "incompatible-contract"
    "web-preview world has no canonical product build route"
  require (worldKind.lookup target.witWorld = some target.appKind) "incompatible-contract"
    "target world and app kind disagree"
  require ((target.requiredCapabilities.Nodup : Bool) &&
    target.requiredCapabilities.all target.requiredImports.contains) "incompatible-contract"
    "target required capabilities must be a unique subset of structural imports"
  require (target.profiles ≠ [] && (target.profiles.Nodup : Bool)) "schema-invalid"
    "target profiles are invalid"
  require (target.profiles.all ["desktop", "headless"].contains) "browser-derivation-unavailable"
    "canonical Builder cannot claim a browser profile before trusted derivation"
  require (!(target.appKind = "ui" && (!kinds.contains "launcher-ui" || kinds.contains "service")))
    "incompatible-contract" "UI entrypoints disagree with app kind"
  require (!(target.appKind = "service" &&
    (!kinds.contains "service" || kinds.contains "launcher-ui"))) "incompatible-contract"
    "service entrypoints disagree with app kind"
  require (!(target.appKind = "hybrid" &&
    !(kinds.contains "launcher-ui" && kinds.contains "service"))) "incompatible-contract"
    "hybrid entrypoints are incomplete"

/-! ## The sources -/

/-- The paths of a handoff. -/
def isAllowedPath (path : String) : Bool :=
  let parts := path.toList.splitOn '/'
  ["Cargo.toml", "README.md", "manifest.intent.json", "wit/contract.wit"].contains path ||
    (2 ≤ parts.length && ["src".toList, "tests".toList].contains (parts.headD []) &&
      4 ≤ (parts.getLastD []).length && (parts.getLastD []).reverse.take 3 = ['s', 'r', '.'])

/-- `pure.name`. -/
def baseName (path : String) : String := String.ofList ((path.toList.splitOn '/').getLastD [])

/-- The records so far and their total size. -/
structure Inventory where
  records : List SourceRecord
  total : Nat

/-- The role of a record, with the bytes of its file. -/
def validateRole (builder : Context) (record : SourceRecord) (data : List UInt8) :
    Except PipelineError Unit :=
  if record.path = "wit/contract.wit" then do
    require (record.role = "authoritative-contract-copy") "source-invalid"
      "WIT copy has the wrong role"
    require (data = builder.contract) "integrity-failure"
      "source WIT differs from the authoritative contract"
  else
    require (record.role = "generated-source") "source-invalid"
      ("non-contract file has an authority role: " ++ record.path)

/-- The turn for a record. -/
def validateRecord (builder : Context) (source : SourceTree) (inventory : Inventory)
    (record : SourceRecord) : Except PipelineError Inventory := do
  let context := "source file " ++ record.path
  normalizedRelativePath record.path "files.path"
  require (!(inventory.records.map SourceRecord.path).contains record.path) "schema-invalid"
    "source inventory has a duplicate path"
  requireSha256 record.sha256 "files.sha256"
  require (1 ≤ record.sizeBytes && record.sizeBytes ≤ maxSourceFileBytes) "resource-limit"
    "source file size is outside limits"
  require (["generated-source", "authoritative-contract-copy"].contains record.role)
    "schema-invalid" "source file role is invalid"
  let found ← lstatRegular (source.files.lookup record.path) maxSourceFileBytes context
  require (!CloudAgent.isExecutable found.1) "source-invalid"
    ("source file is executable: " ++ record.path)
  require (found.2.length = record.sizeBytes) "integrity-failure"
    ("source size mismatch: " ++ record.path)
  require (hexText (builder.sha256 found.2) = record.sha256) "integrity-failure"
    ("source digest mismatch: " ++ record.path)
  validateRole builder record found.2
  require (isAllowedPath record.path &&
    !(["build.rs", "Cargo.lock"].contains (baseName record.path))) "source-invalid"
    ("source path is forbidden: " ++ record.path)
  require (inventory.total + found.2.length ≤ maxSourceBytes) "resource-limit"
    "source tree exceeds aggregate byte limit"
  pure ⟨inventory.records ++ [record], inventory.total + found.2.length⟩

/-- `source_tree_digest` of `common.py`, which sorts the records. -/
def sourceTreeDigest (sha256 : List UInt8 → List UInt8) (records : List SourceRecord) : String :=
  CloudAgent.sourceTreeDigest sha256 (records.insertionSort fun a b => a.path ≤ b.path)

def validateSources (builder : Context) (document : HandoffDocument) (source : SourceTree) :
    Except PipelineError Unit := do
  require (2 ≤ document.files.length && document.files.length ≤ 256) "schema-invalid"
    "source handoff file inventory is invalid"
  let inventory ← document.files.foldlM (validateRecord builder source) ⟨[], 0⟩
  require (!source.linkedDirectory) "integrity-failure"
    "source tree contains an unsafe directory"
  let seen := inventory.records.map SourceRecord.path
  let actual := source.files.map Prod.fst
  require (actual.all seen.contains && seen.all actual.contains) "integrity-failure"
    "source inventory mismatch"
  require (sourceTreeDigest builder.sha256
      (inventory.records.insertionSort fun a b => a.path ≤ b.path) = document.sourceTreeSha256)
    "integrity-failure" "source tree digest does not match handoff"
  require (seen.contains "Cargo.toml" && seen.contains "wit/contract.wit" &&
    seen.any fun path => "src/".toList.isPrefixOf path.toList &&
      path.toList.reverse.take 3 = ['s', 'r', '.']) "source-invalid"
    "source requires Cargo.toml, WIT, and src Rust"

/-! ## The handoff -/

/-- `validate_handoff`, for a document whose fields are those of a handoff. -/
def validateHandoff (builder : Context) (document : HandoffDocument) (source : SourceTree) :
    Except PipelineError Unit := do
  require (document.fileSize ≤ maxHandoffBytes) "resource-limit"
    ("source handoff size must be 1.." ++ toString maxHandoffBytes ++ " bytes")
  require (document.schemaVersion = "vibapp.codeagent-source-handoff.experimental-v2" &&
    document.documentType = "codeagent-source-handoff" &&
      document.status = "untrusted-source-awaiting-builder" &&
        document.sourceDirectory = "source") "schema-invalid"
    "source handoff constants are unsupported"
  require (isIdentifier document.jobId) "schema-invalid" "job_id is invalid"
  requireSha256 document.needSpecDigestSha256 "need_spec_digest_sha256"
  requireSha256 document.sourceTreeSha256 "source_tree_sha256"
  require (document.authority = ⟨"separate-builder", "separate-verifier", "none", "none"⟩)
    "authority-invalid" "CodeAgent handoff grants forbidden authority"
  validateProvider document.providerExecution
  validatePackage document.packageIntent
  validateTarget document.packageIntent document.target
  validateSources builder document source
  validateCargoManifest builder source document.packageIntent

end Vibapp.Builder
