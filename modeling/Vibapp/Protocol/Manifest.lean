import Vibapp.Protocol.Fields
import Vibapp.Protocol.Parser

/-!
# The manifest parser

`parseManifest` reads strict JSON, `buildManifest` types it section by section and then checks the
sections against each other (`validateCrossContract`). The manifest keeps the document it was read
from, and its canonical text is that document's.
-/

namespace Vibapp.Protocol.Model

/-! ## Closed enumerations -/

def appKinds : List (String × AppKind) := [("ui", .ui), ("service", .service), ("hybrid", .hybrid)]

def profiles : List (String × Profile) :=
  [("desktop", .desktop), ("web-preview", .webPreview), ("web-runtime", .webRuntime),
    ("headless", .headless)]

def derivedProfiles : List (String × Profile) :=
  [("web-preview", .webPreview), ("web-runtime", .webRuntime)]

def worlds : List (String × World) :=
  [("ui-only-reference", .uiOnly), ("service-only-reference", .serviceOnly),
    ("hybrid-reference", .hybrid), ("web-preview-reference", .webPreview)]

def modes : List (String × ProfileMode) :=
  [("full", .full), ("degraded", .degraded), ("preview", .preview)]

def backgrounds : List (String × Background) :=
  [("daemon", .daemon), ("process", .process), ("foreground-only", .foregroundOnly),
    ("not-applicable", .notApplicable)]

def artifactRoles : List (String × ArtifactRole) :=
  [("canonical-component", .canonicalComponent), ("browser-derived", .browserDerived)]

def operatingSystems : List (String × String) :=
  [("macos", "macos"), ("windows", "windows"), ("linux", "linux"), ("browser", "browser")]

def architectures : List (String × String) :=
  [("x86-64", "x86-64"), ("aarch64", "aarch64"), ("wasm32", "wasm32")]

def entrypointKinds : List (String × EntrypointKind) :=
  [("launcher-ui", .launcherUi), ("service", .service), ("settings", .settings)]

def restorations : List (String × Restoration) :=
  [("none", .none), ("route-only", .routeOnly), ("safe-fields", .safeFields)]

def triggerNames : List (String × String) :=
  [("on-enable", "on-enable"), ("scheduler", "scheduler"), ("manual", "manual")]

def necessities : List (String × Necessity) :=
  [("required", .required), ("degradable", .degradable)]

def grants : List (String × Grant) := [("automatic", .automatic), ("user", .user)]

def availabilities : List (String × Availability) :=
  [("native", .native), ("brokered", .brokered), ("mock", .mock), ("denied", .denied),
    ("unavailable", .unavailable)]

def dispositions : List (String × DataDisposition) :=
  [("delete", .delete), ("retain", .retain), ("export-then-delete", .exportThenDelete)]

def networkAccesses : List (String × NetworkAccess) :=
  [("none", .none), ("scoped-broker", .scopedBroker)]

def verificationStatuses : List (String × VerificationStatus) :=
  [("fixture", .fixture), ("unverified", .unverified), ("verified", .verified)]

def revocationStatuses : List (String × RevocationStatus) :=
  [("not-revoked", .notRevoked), ("revoked", .revoked)]

/-! ## The app -/

def appFields : List String :=
  ["id", "version", "kind", "display_name", "description", "publisher"]

def parsePublisher (value : JsonValue) : Parsed Publisher := do
  let path := "$.app.publisher"
  let object ← exactObject value path ["id", "display_name"] ["id", "display_name"]
  let id ← requiredString object "id" path
  let id ← identifier id "$.app.publisher.id"
  let displayName ← boundedString object "display_name" path 1 80
  return { id, displayName }

def parseApp (value : JsonValue) : Parsed App := do
  let path := "$.app"
  let object ← exactObject value path appFields appFields
  let id ← requiredString object "id" path
  let id ← identifier id "$.app.id"
  let version ← requiredString object "version" path
  refuseIf (!isSemver version) (.invalid "$.app.version" "must be canonical SemVer")
  let kind ← requiredEnum appKinds object "kind" path
  let displayName ← boundedString object "display_name" path 1 80
  let description ← boundedString object "description" path 1 1000
  let publisherValue ← required object "publisher" path
  let publisher ← parsePublisher publisherValue
  return { id, version, kind, displayName, description, publisher }

/-! ## Artifacts -/

def requiredSha256 (object : ObjectEntries) (key path : String) : Parsed String := do
  let digest ← requiredString object key path
  refuseIf (!isSha256 digest) (.invalid (property path key) "must be 64 lowercase hex digits")
  return digest

def artifactFields : List String := ["path", "media_type", "sha256", "size_bytes"]

def parseArtifact (value : JsonValue) (path : String) : Parsed Artifact := do
  let object ← exactObject value path artifactFields artifactFields
  let artifactPath ← requiredString object "path" path
  refuseIf (!isArtifactPath artifactPath)
    (.invalid (property path "path") "must be a relative, traversal-free artifact path")
  let mediaType ← boundedString object "media_type" path 1 128
  let sha256 ← requiredSha256 object "sha256" path
  let sizeBytes ← boundedU64 object "size_bytes" path 1 67108864 .invalidManifest
  return { path := artifactPath, mediaType, sha256, sizeBytes }

def parseArtifactArray (value : JsonValue) (path : String) (minimum maximum : Nat) :
    Parsed (List Artifact) := do
  let array ← orRefuse value.asArray (.invalid path "must be an array")
  refuseLength array path minimum maximum
  parseEach parseArtifact path 0 array

def derivedArtifactFields : List String :=
  ["profile", "format", "derived_from_sha256", "entry", "files", "derivation_attestation"]

def parseDerivedArtifact (value : JsonValue) (path : String) : Parsed DerivedArtifact := do
  let object ← exactObject value path derivedArtifactFields derivedArtifactFields
  let profile ← requiredEnum derivedProfiles object "profile" path
  requireConst object "format" "jco-esm" path
  let derivedFromSha256 ← requiredSha256 object "derived_from_sha256" path
  let filesValue ← required object "files" path
  let files ← parseArtifactArray filesValue (property path "files") 1 32
  let entryValue ← required object "entry" path
  let entry ← parseArtifact entryValue (property path "entry")
  refuseIf (files.count entry ≠ 1) (.new .integrityFailure (property path "entry")
    "derived entry must be present byte-for-byte in files")
  let attestationValue ← required object "derivation_attestation" path
  let derivationAttestation ←
    parseArtifact attestationValue (property path "derivation_attestation")
  return { profile, derivedFromSha256, entry, files, derivationAttestation }

/-- The artifacts of a list, each with the path of its own path. -/
def itemPaths (path : String) : Nat → List Artifact → List (String × String)
  | _, [] => []
  | index, artifact :: rest =>
    (artifact.path, property (indexed path index) "path") :: itemPaths path (index + 1) rest

def derivationPaths : Nat → List DerivedArtifact → List (String × String)
  | _, [] => []
  | index, derivation :: rest =>
    let path := indexed "$.artifacts.browser_derivations" index
    itemPaths (property path "files") 0 derivation.files ++
      (derivation.derivationAttestation.path,
        property (property path "derivation_attestation") "path") ::
      derivationPaths (index + 1) rest

/-- The physical paths in the order in which they are inserted, each beside the path of the
document it stands at. An `entry` is a selector and not among them. -/
def physicalPaths (artifacts : Artifacts) : List (String × String) :=
  (artifacts.canonicalComponent.path, "$.artifacts.canonical_component.path") ::
    (itemPaths "$.artifacts.assets" 0 artifacts.assets ++
      derivationPaths 0 artifacts.browserDerivations ++
      [(artifacts.provenance.path, "$.artifacts.provenance.path"),
        (artifacts.sbom.path, "$.artifacts.sbom.path")])

/-- `insert_path`, for each path in turn. -/
def insertPaths : List String → List (String × String) → Parsed Unit
  | _, [] => .ok ()
  | seen, (path, artifactPath) :: rest => do
    refuseIf (seen.contains path)
      (.invalid artifactPath "physical artifact paths must be globally unique")
    insertPaths (path :: seen) rest

def artifactsFields : List String :=
  ["canonical_component", "assets", "browser_derivations", "provenance", "sbom"]

def parseArtifacts (value : JsonValue) : Parsed Artifacts := do
  let path := "$.artifacts"
  let object ← exactObject value path artifactsFields artifactsFields
  let canonicalValue ← required object "canonical_component" path
  let canonicalComponent ← parseArtifact canonicalValue "$.artifacts.canonical_component"
  refuseIf (canonicalComponent.path ≠ "component.wasm" ||
      canonicalComponent.mediaType ≠ "application/wasm")
    (.invalid "$.artifacts.canonical_component"
      "canonical component must be component.wasm with application/wasm media type")
  let assetsValue ← required object "assets" path
  let assets ← parseArtifactArray assetsValue "$.artifacts.assets" 0 128
  let derivationsValue ← requiredArray object "browser_derivations" path
  refuseLength derivationsValue "$.artifacts.browser_derivations" 0 2
  let browserDerivations ←
    parseEach parseDerivedArtifact "$.artifacts.browser_derivations" 0 derivationsValue
  uniqueBy (browserDerivations.map DerivedArtifact.profile) "$.artifacts.browser_derivations"
  let provenanceValue ← required object "provenance" path
  let provenance ← parseArtifact provenanceValue "$.artifacts.provenance"
  let sbomValue ← required object "sbom" path
  let sbom ← parseArtifact sbomValue "$.artifacts.sbom"
  let artifacts : Artifacts := { canonicalComponent, assets, browserDerivations, provenance, sbom }
  insertPaths [] (physicalPaths artifacts)
  return artifacts

/-! ## The runtime -/

def parseProfileArray (value : JsonValue) (path : String) : Parsed (List Profile) := do
  let values ← orRefuse value.asArray (.invalid path "must be an array")
  refuseIf values.isEmpty (lengthError path 1 usizeMax)
  let profiles ← parseEach (fun value path => do
    let text ← itemString value path
    closedEnum profiles text path) path 0 values
  uniqueBy profiles path
  return profiles

def profileSupportFields : List String :=
  ["profile", "mode", "background", "artifact_role", "degradation"]

def parseProfileSupport (value : JsonValue) (path : String) : Parsed ProfileSupport := do
  let object ← exactObject value path profileSupportFields profileSupportFields
  let profile ← requiredEnum profiles object "profile" path
  let mode ← requiredEnum modes object "mode" path
  let background ← requiredEnum backgrounds object "background" path
  let artifactRole ← requiredEnum artifactRoles object "artifact_role" path
  let degradation ← boundedString object "degradation" path 0 500
  refuseIf (profile = .webPreview &&
      (mode ≠ .preview || background ≠ .foregroundOnly || artifactRole ≠ .browserDerived))
    (.schemaInvalid .incompatibleContract path
      "web-preview must be preview/browser-derived/foreground-only")
  refuseIf (profile = .webRuntime &&
      (background ≠ .foregroundOnly || artifactRole ≠ .browserDerived))
    (.schemaInvalid .incompatibleContract path
      "web-runtime must be browser-derived and foreground-only")
  return { profile, mode, background, artifactRole, degradation }

def platformFields : List String := ["os", "arch", "profiles"]

def parsePlatform (value : JsonValue) (path : String) : Parsed PlatformSupport := do
  let object ← exactObject value path platformFields platformFields
  let os ← requiredEnum operatingSystems object "os" path
  let arch ← requiredEnum architectures object "arch" path
  refuseIf (decide (os = "browser") ≠ decide (arch = "wasm32"))
    (.new .incompatibleContract path "browser and wasm32 platform values must be paired")
  let profilesValue ← required object "profiles" path
  let profiles ← parseProfileArray profilesValue (property path "profiles")
  return { os, arch, profiles }

/-- The OS/architecture/profile tuples of the platforms. -/
def platformTuples (platforms : List PlatformSupport) : List (String × String × Profile) :=
  platforms.flatMap fun platform =>
    platform.profiles.map fun profile => (platform.os, platform.arch, profile)

/-- One item of `required_imports`. -/
def parseImport (value : JsonValue) (path : String) : Parsed String := do
  let interface ← itemString value path
  refuseIf (!appInterfaces.contains interface)
    (.schemaInvalid .unknownInterface path s!"unknown app interface {interface}")
  return interface

def runtimeFields : List String :=
  ["contract", "wasi", "world", "required_imports", "profiles", "platforms"]

def parseRuntime (value : JsonValue) : Parsed Runtime := do
  let path := "$.runtime"
  let object ← exactObject value path runtimeFields runtimeFields
  let contract ← requiredString object "contract" path
  refuseIf (contract ≠ contractVersion) (.schemaInvalid .unsupportedVersion "$.runtime.contract"
    s!"unsupported contract {contract}")
  requireConstVersion object "wasi" wasiVersion path
  let world ← requiredEnum worlds object "world" path
  let importValues ← requiredArray object "required_imports" path
  let requiredImports ← parseEach parseImport "$.runtime.required_imports" 0 importValues
  uniqueBy requiredImports "$.runtime.required_imports"
  let profileValues ← requiredArray object "profiles" path
  refuseLength profileValues "$.runtime.profiles" 1 4
  let profiles ← parseEach parseProfileSupport "$.runtime.profiles" 0 profileValues
  uniqueBy (profiles.map ProfileSupport.profile) "$.runtime.profiles"
  let platformValues ← requiredArray object "platforms" path
  refuseLength platformValues "$.runtime.platforms" 1 16
  let platforms ← parseEach parsePlatform "$.runtime.platforms" 0 platformValues
  refuseIf (¬ (platformTuples platforms).Nodup)
    (.invalid "$.runtime.platforms" "OS/architecture/profile tuples must be unique")
  return { world, requiredImports, profiles, platforms }

/-! ## Entrypoints -/

def entrypointFields : EntrypointKind → List String
  | .launcherUi => ["id", "kind", "label", "profiles", "routes", "restoration"]
  | .service => ["id", "kind", "label", "profiles", "triggers", "health_check_interval_seconds"]
  | .settings => ["id", "kind", "label", "profiles", "schema_export"]

def parseLauncher (object : ObjectEntries) (path : String) : Parsed EntrypointDetails := do
  let routesPath := property path "routes"
  let routesValue ← required object "routes" path
  let routes ← exactObject routesValue routesPath ["initial", "allowed"] ["initial", "allowed"]
  let initial ← requiredString routes "initial" routesPath
  let initial ← identifier initial (property routesPath "initial")
  let allowedValues ← requiredArray routes "allowed" routesPath
  refuseIf allowedValues.isEmpty (lengthError (property routesPath "allowed") 1 usizeMax)
  let allowedRoutes ← parseEach (fun value path => do
    let route ← itemString value path
    identifier route path) (property routesPath "allowed") 0 allowedValues
  uniqueBy allowedRoutes (property routesPath "allowed")
  refuseIf (!allowedRoutes.contains initial) (.new .incompatibleContract
    (property routesPath "initial") "initial route must appear in allowed routes")
  let restoration ← requiredEnum restorations object "restoration" path
  return .launcher initial allowedRoutes restoration

def parseService (object : ObjectEntries) (path : String) : Parsed EntrypointDetails := do
  let triggers ← requiredArray object "triggers" path
  refuseIf triggers.isEmpty (lengthError (property path "triggers") 1 usizeMax)
  let names ← parseEach (fun value path => do
    let trigger ← itemString value path
    closedEnum triggerNames trigger path) (property path "triggers") 0 triggers
  uniqueBy names (property path "triggers")
  let interval ← boundedU64 object "health_check_interval_seconds" path 10 86400 .invalidManifest
  return .service names interval

def parseSettings (object : ObjectEntries) (path : String) : Parsed EntrypointDetails := do
  requireConst object "schema_export" "get-settings-schema" path
  return .settings "get-settings-schema"

def parseEntrypointDetails : EntrypointKind → ObjectEntries → String → Parsed EntrypointDetails
  | .launcherUi => parseLauncher
  | .service => parseService
  | .settings => parseSettings

def parseEntrypoint (value : JsonValue) (path : String) : Parsed Entrypoint := do
  let rawObject ← orRefuse value.asObject (.invalid path "must be an object")
  let kind ← requiredEnum entrypointKinds rawObject "kind" path
  let object ← exactObject value path (entrypointFields kind) (entrypointFields kind)
  let id ← requiredString object "id" path
  let id ← identifier id (property path "id")
  let label ← boundedString object "label" path 1 80
  let profilesValue ← required object "profiles" path
  let profiles ← parseProfileArray profilesValue (property path "profiles")
  let details ← parseEntrypointDetails kind object path
  return { id, kind, label, profiles, details }

def parseEntrypoints (value : JsonValue) : Parsed (List Entrypoint) := do
  let values ← orRefuse value.asArray (.invalid "$.entrypoints" "must be an array")
  refuseLength values "$.entrypoints" 1 16
  let entrypoints ← parseEach parseEntrypoint "$.entrypoints" 0 values
  uniqueBy (entrypoints.map Entrypoint.id) "$.entrypoints"
  return entrypoints

/-! ## Capabilities -/

def scopeFields : List String :=
  ["maximum_requests_per_hour", "maximum_schedules", "maximum_storage_bytes", "methods", "metrics",
    "origins"]

def methodNames : List String := ["GET", "POST", "PUT", "PATCH", "DELETE"]

def metricNames : List String :=
  ["cpu-temperature-celsius", "cpu-utilization-percent", "memory-utilization-percent"]

def originError (path : String) : ManifestError :=
  .invalid path "must be an HTTPS origin without path, query, fragment, or whitespace"

def parseCapabilityScope (value : JsonValue) (path : String) : Parsed CapabilityScope := do
  let object ← exactObject value path scopeFields []
  let maximumRequestsPerHour ←
    optionalBoundedU64 object "maximum_requests_per_hour" path 0 10000 .invalidManifest
  let maximumSchedules ← optionalBoundedU64 object "maximum_schedules" path 0 128 .resourceLimit
  let maximumStorageBytes ←
    optionalBoundedU64 object "maximum_storage_bytes" path 0 10485760 .resourceLimit
  let methods ← parseEnumArray object "methods" path methodNames
  let metrics ← parseEnumArray object "metrics" path metricNames
  let origins ← optionalDistinct isHttpsOrigin originError object "origins" path
  return { maximumRequestsPerHour, maximumSchedules, maximumStorageBytes, methods, metrics, origins }

def capabilityProfileFields : List String := ["profile", "availability", "behavior"]

/-- One item of a capability's `profiles`. -/
def parseCapabilityProfile (value : JsonValue) (path : String) : Parsed CapabilityProfile := do
  let object ← exactObject value path capabilityProfileFields capabilityProfileFields
  let profile ← requiredEnum profiles object "profile" path
  let availability ← requiredEnum availabilities object "availability" path
  let behavior ← boundedString object "behavior" path 1 500
  return { profile, availability, behavior }

def capabilityFields : List String :=
  ["interface", "necessity", "grant", "reason", "scope", "profiles"]

def parseCapability (value : JsonValue) (path : String) : Parsed Capability := do
  let object ← exactObject value path capabilityFields capabilityFields
  let interface ← requiredString object "interface" path
  refuseIf (!appInterfaces.contains interface)
    (.schemaInvalid .unknownInterface (property path "interface")
      s!"unknown app interface {interface}")
  let necessity ← requiredEnum necessities object "necessity" path
  let grant ← requiredEnum grants object "grant" path
  let reason ← boundedString object "reason" path 1 500
  let scopeValue ← required object "scope" path
  let scope ← parseCapabilityScope scopeValue (property path "scope")
  let profileValues ← requiredArray object "profiles" path
  refuseLength profileValues (property path "profiles") 1 4
  let profiles ← parseEach parseCapabilityProfile (property path "profiles") 0 profileValues
  uniqueBy (profiles.map CapabilityProfile.profile) (property path "profiles")
  return { interface, necessity, grant, reason, scope, profiles }

def parseCapabilities (value : JsonValue) : Parsed (List Capability) := do
  let values ← orRefuse value.asArray (.invalid "$.capabilities" "must be an array")
  refuseLength values "$.capabilities" 0 32
  let capabilities ← parseEach parseCapability "$.capabilities" 0 values
  uniqueBy (capabilities.map Capability.interface) "$.capabilities"
  return capabilities

/-! ## Resources, state and lifecycle -/

def resourceFields : List String :=
  ["linear_memory_bytes", "event_wall_time_ms", "health_migration_wall_time_ms", "output_bytes",
    "stored_data_bytes", "durable_schedules", "log_bytes_per_day"]

def parseResources (value : JsonValue) : Parsed Resources := do
  let path := "$.resources"
  let object ← exactObject value path resourceFields resourceFields
  let linearMemoryBytes ←
    boundedU64 object "linear_memory_bytes" path 1048576 67108864 .resourceLimit
  let eventWallTimeMs ← boundedU64 object "event_wall_time_ms" path 1 250 .resourceLimit
  let healthMigrationWallTimeMs ←
    boundedU64 object "health_migration_wall_time_ms" path 1 2000 .resourceLimit
  let outputBytes ← boundedU64 object "output_bytes" path 1 262144 .resourceLimit
  let storedDataBytes ← boundedU64 object "stored_data_bytes" path 0 10485760 .resourceLimit
  let durableSchedules ← boundedU64 object "durable_schedules" path 0 128 .resourceLimit
  let logBytesPerDay ← boundedU64 object "log_bytes_per_day" path 0 1048576 .resourceLimit
  return ⟨linearMemoryBytes, eventWallTimeMs, healthMigrationWallTimeMs, outputBytes,
    storedDataBytes, durableSchedules, logBytesPerDay⟩

def stateFields : List String := ["schema", "migratable_from_min", "migratable_from_max"]

def parseState (value : JsonValue) : Parsed StateContract := do
  let path := "$.state"
  let object ← exactObject value path stateFields stateFields
  let schema ← boundedU32 object "schema" path
  let migratableFromMin ← boundedU32 object "migratable_from_min" path
  let migratableFromMax ← boundedU32 object "migratable_from_max" path
  refuseIf (schema < migratableFromMin || migratableFromMax < schema)
    (.new .incompatibleContract path "state migration range must satisfy min <= schema <= max")
  return { schema, migratableFromMin, migratableFromMax }

def disableFields : List String :=
  ["retains_package", "retains_state", "stops_services", "cancels_schedules"]

/-- A property that must be `true`. -/
def requireTrue (object : ObjectEntries) (path key : String) : Parsed Unit := do
  let value ← required object key path
  refuseIf (value.asBool ≠ some true) (.invalid (property path key) "must be true")

def parseDisposition (value : JsonValue) (path : String) : Parsed DataDisposition := do
  let text ← itemString value path
  closedEnum dispositions text path

def uninstallFields : List String := ["allowed_data_dispositions", "default_data_disposition"]

def parseLifecycle (value : JsonValue) : Parsed LifecycleContract := do
  let path := "$.lifecycle"
  let object ← exactObject value path ["disable", "uninstall"] ["disable", "uninstall"]
  let disablePath := "$.lifecycle.disable"
  let disableValue ← required object "disable" path
  let disable ← exactObject disableValue disablePath disableFields disableFields
  disableFields.forM (requireTrue disable disablePath)
  let uninstallPath := "$.lifecycle.uninstall"
  let uninstallValue ← required object "uninstall" path
  let uninstall ← exactObject uninstallValue uninstallPath uninstallFields uninstallFields
  let values ← requiredArray uninstall "allowed_data_dispositions" uninstallPath
  let allowedPath := "$.lifecycle.uninstall.allowed_data_dispositions"
  refuseIf values.isEmpty (lengthError allowedPath 1 usizeMax)
  let allowedDataDispositions ← parseEach parseDisposition allowedPath 0 values
  uniqueBy allowedDataDispositions allowedPath
  let defaultDataDisposition ←
    requiredEnum dispositions uninstall "default_data_disposition" uninstallPath
  refuseIf (!allowedDataDispositions.contains defaultDataDisposition)
    (.new .incompatibleContract "$.lifecycle.uninstall.default_data_disposition"
      "default disposition must be allowed")
  return { allowedDataDispositions, defaultDataDisposition }

/-! ## Source, license, privacy and verification -/

def sourceFields : List String :=
  ["language", "revision", "cargo_lock_sha256", "builder_image_digest"]

/-- `sha256:` and a digest. -/
def isImageDigest (image : String) : Bool :=
  match stripPrefix "sha256:".toList image.toList with
  | none => false
  | some digest => isSha256 (String.ofList digest)

def parseSource (value : JsonValue) : Parsed SourceContract := do
  let path := "$.source"
  let object ← exactObject value path sourceFields sourceFields
  requireConst object "language" "rust" path
  let revision ← boundedString object "revision" path 1 128
  let cargoLockSha256 ← requiredSha256 object "cargo_lock_sha256" path
  let builderImageDigest ← requiredString object "builder_image_digest" path
  refuseIf (builderImageDigest.utf8ByteSize ≠ 71 || !isImageDigest builderImageDigest)
    (.invalid "$.source.builder_image_digest" "must be sha256:<64 lowercase hex digits>")
  return { revision, cargoLockSha256, builderImageDigest }

def parseLicense (value : JsonValue) : Parsed LicenseContract := do
  let path := "$.license"
  let object ← exactObject value path ["spdx_expression"] ["spdx_expression"]
  let spdxExpression ← boundedString object "spdx_expression" path 1 200
  return { spdxExpression }

def privacyFields : List String := ["stores_personal_data", "network_access"]

def parsePrivacy (value : JsonValue) : Parsed PrivacyContract := do
  let path := "$.privacy"
  let object ← exactObject value path privacyFields privacyFields
  let storesValue ← required object "stores_personal_data" path
  let storesPersonalData ←
    orRefuse storesValue.asBool (.invalid "$.privacy.stores_personal_data" "must be a boolean")
  let networkAccess ← requiredEnum networkAccesses object "network_access" path
  return { storesPersonalData, networkAccess }

def parseVerification (value : JsonValue) : Parsed VerificationContract := do
  let path := "$.verification"
  let object ← exactObject value path ["status", "revocation"] ["status", "revocation"]
  let status ← requiredEnum verificationStatuses object "status" path
  let revocation ← requiredEnum revocationStatuses object "revocation" path
  return { status, revocation }

/-! ## Sections against each other -/

def isBrowserProfile (profile : Profile) : Bool :=
  profile = .webPreview || profile = .webRuntime

/-- Equality of two `BTreeSet`s of profiles. -/
def sameProfiles (left right : List Profile) : Bool :=
  left.all right.contains && right.all left.contains

/-- The `match` on the kind of the app. -/
def checkAppKind (kind : AppKind) (world : World) (entrypoints : List Entrypoint) : Parsed Unit :=
  let launcherCount := entrypoints.countP fun entrypoint => entrypoint.kind = .launcherUi
  let serviceCount := entrypoints.countP fun entrypoint => entrypoint.kind = .service
  let refuse (failed : Bool) (detail : String) : Parsed Unit :=
    refuseIf failed (.schemaInvalid .incompatibleContract "$.app.kind" detail)
  match kind with
  | .ui => refuse (launcherCount = 0 || serviceCount ≠ 0 || world ≠ .uiOnly)
      "ui packages require a launcher entrypoint, no service entrypoint, and ui-only-reference world"
  | .service => refuse (serviceCount = 0 || launcherCount ≠ 0 ||
        !(world = .serviceOnly || world = .webPreview))
      "service packages require a service entrypoint, no launcher entrypoint, and a service world"
  | .hybrid => refuse (serviceCount = 0 || launcherCount = 0 || world ≠ .hybrid)
      "hybrid packages require launcher and service entrypoints with hybrid-reference world"

def checkProfileRole (support : ProfileSupport) : Parsed Unit :=
  refuseIf (isBrowserProfile support.profile ≠ decide (support.artifactRole = .browserDerived))
    (.new .incompatibleContract "$.runtime.profiles"
      "browser profiles require browser-derived artifacts and desktop/headless require the canonical component")

def checkPlatformProfile (runtimeProfiles : List Profile) (platform : PlatformSupport)
    (profile : Profile) : Parsed Unit := do
  refuseIf (!runtimeProfiles.contains profile) (.new .incompatibleContract "$.runtime.platforms"
    "platform profile is absent from runtime profiles")
  refuseIf ((platform.os = "browser" && platform.arch = "wasm32") ≠ isBrowserProfile profile)
    (.new .incompatibleContract "$.runtime.platforms"
      "browser profiles must use browser/wasm32 and non-browser profiles must not")

def checkPlatform (runtimeProfiles : List Profile) (platform : PlatformSupport) : Parsed Unit :=
  platform.profiles.forM (checkPlatformProfile runtimeProfiles platform)

def checkEntrypoint (runtimeProfiles : List Profile) (entrypoint : Entrypoint) : Parsed Unit :=
  refuseIf (entrypoint.profiles.any fun profile => !runtimeProfiles.contains profile)
    (.new .incompatibleContract "$.entrypoints"
      "entrypoint profile is absent from runtime profiles")

/-- The interfaces that a web preview may not have for real. -/
def previewRestricted : List String := [scheduler, notification, systemMetrics, http]

def checkAvailability (interface : String) (support : CapabilityProfile) : Parsed Unit :=
  refuseIf (support.profile = .webPreview && previewRestricted.contains interface &&
      !(support.availability = .mock || support.availability = .denied ||
        support.availability = .unavailable))
    (.new .incompatibleContract "$.capabilities"
      "web-preview hardware and background capabilities must be mock, denied or unavailable")

def checkCapability (runtimeProfiles : List Profile) (resources : Resources)
    (capability : Capability) : Parsed Unit := do
  refuseIf (!sameProfiles (capability.profiles.map CapabilityProfile.profile) runtimeProfiles)
    (.new .incompatibleContract "$.capabilities"
      "each capability must explicitly describe every runtime profile")
  capability.profiles.forM (checkAvailability capability.interface)
  refuseIf (capability.scope.maximumStorageBytes.any (resources.storedDataBytes < ·) ||
      capability.scope.maximumSchedules.any (resources.durableSchedules < ·))
    (.new .resourceLimit "$.capabilities"
      "capability scope must not exceed the manifest resource request")

def checkProfile (artifacts : Artifacts) (platforms : List PlatformSupport)
    (support : ProfileSupport) : Parsed Unit := do
  refuseIf (!platforms.any fun platform => platform.profiles.contains support.profile)
    (.new .incompatibleContract "$.runtime.platforms"
      s!"profile {support.profile.asStr} has no platform")
  if isBrowserProfile support.profile then
    let derivation ← orRefuse
      (artifacts.browserDerivations.find? fun derived => derived.profile = support.profile)
      (.new .integrityFailure "$.artifacts.browser_derivations"
        s!"missing derivation for {support.profile.asStr}")
    refuseIf (derivation.derivedFromSha256 ≠ artifacts.canonicalComponent.sha256)
      (.new .integrityFailure "$.artifacts.browser_derivations"
        "browser derivation must bind the canonical component digest")

/-- `validate_cross_contract`. -/
def validateCrossContract (c : Contents) : Parsed Unit := do
  checkAppKind c.app.kind c.runtime.world c.entrypoints
  refuseIf (btreeSet (c.capabilities.map Capability.interface) ≠
      btreeSet c.runtime.requiredImports)
    (.new .incompatibleContract "$.runtime.required_imports"
      "required imports and declared capability interfaces must match exactly")
  refuseIf (!(reconcileWorldImports c.runtime.world c.runtime.requiredImports).isOk)
    (.new .incompatibleContract "$.runtime.required_imports"
      "required imports do not match the selected WIT world")
  let runtimeProfiles := c.runtime.profiles.map ProfileSupport.profile
  c.runtime.profiles.forM checkProfileRole
  c.runtime.platforms.forM (checkPlatform runtimeProfiles)
  c.entrypoints.forM (checkEntrypoint runtimeProfiles)
  c.capabilities.forM (checkCapability runtimeProfiles c.resources)
  refuseIf (!sameProfiles (c.artifacts.browserDerivations.map DerivedArtifact.profile)
      (runtimeProfiles.filter isBrowserProfile))
    (.new .integrityFailure "$.artifacts.browser_derivations"
      "browser derivations must match browser runtime profiles exactly")
  c.runtime.profiles.forM (checkProfile c.artifacts c.runtime.platforms)
  refuseIf (!c.lifecycle.allowedDataDispositions.contains c.lifecycle.defaultDataDisposition)
    (.new .incompatibleContract "$.lifecycle.uninstall" "default data disposition is not allowed")

/-! ## The manifest -/

def manifestFields : List String :=
  ["schema_version", "package_format", "app", "artifacts", "runtime", "entrypoints",
    "capabilities", "resources", "state", "lifecycle", "source", "license", "privacy",
    "verification"]

/-- A section of the document. -/
def fromSection {α : Type} (root : ObjectEntries) (key : String) (parse : JsonValue → Parsed α) :
    Parsed α := do
  let value ← required root key "$"
  parse value

/-- `build_manifest`. -/
def buildManifest (raw : JsonValue) : Parsed Manifest := do
  let root ← exactObject raw "$" manifestFields manifestFields
  requireConstVersion root "schema_version" schemaVersion "$"
  requireConstVersion root "package_format" packageFormat "$"
  let app ← fromSection root "app" parseApp
  let artifacts ← fromSection root "artifacts" parseArtifacts
  let runtime ← fromSection root "runtime" parseRuntime
  let entrypoints ← fromSection root "entrypoints" parseEntrypoints
  let capabilities ← fromSection root "capabilities" parseCapabilities
  let resources ← fromSection root "resources" parseResources
  let state ← fromSection root "state" parseState
  let lifecycle ← fromSection root "lifecycle" parseLifecycle
  let source ← fromSection root "source" parseSource
  let license ← fromSection root "license" parseLicense
  let privacy ← fromSection root "privacy" parsePrivacy
  let verification ← fromSection root "verification" parseVerification
  let contents : Contents := ⟨app, artifacts, runtime, entrypoints, capabilities, resources, state,
    lifecycle, source, license, privacy, verification⟩
  validateCrossContract contents
  return { contents with raw }

/-- `{:?}` of a kind. The quotes around a key are exact for printable ASCII characters. -/
def debugKind : JsonErrorKind → String
  | .unexpectedEnd => "UnexpectedEnd"
  | .unexpectedToken => "UnexpectedToken"
  | .trailingData => "TrailingData"
  | .duplicateKey key => s!"DuplicateKey({key.quote})"
  | .invalidEscape => "InvalidEscape"
  | .invalidUnicode => "InvalidUnicode"
  | .invalidNumber => "InvalidNumber"
  | .nonIntegralNumber => "NonIntegralNumber"
  | .numberOutOfRange => "NumberOutOfRange"
  | .unescapedControl => "UnescapedControl"

/-- `parse_manifest`. -/
def parseManifest (input : String) : Parsed Manifest := do
  match parseJson input with
  | .error error => .error (.invalid "$"
      s!"strict JSON parse failed at byte {error.byteOffset}: {debugKind error.kind}")
  | .ok raw => buildManifest raw

end Vibapp.Protocol.Model
