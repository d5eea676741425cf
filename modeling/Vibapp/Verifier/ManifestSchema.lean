import Vibapp.Verifier.Values

/-!
# The manifest that the verifier accepts

`_validate_manifest_schema`, section by section in the order of the source, and the projection of the
entrypoints onto what was consented to. A manifest with a browser derivation has its new fields
checked and taken out, and goes through the native checks then.
-/

namespace Vibapp.Verifier

open Daemon (field hasExactly asStr asInt asBool)
open Builder (isAppId isSemver read)

/-! ## Constants -/

/-- `CAPABILITY_GRANT_POLICY`. -/
def capabilityGrantPolicy : List (String × String) :=
  [("vibapp:experimental-v0/clock@0.0.1", "automatic"),
    ("vibapp:experimental-v0/scheduler@0.0.1", "user"),
    ("vibapp:experimental-v0/notification@0.0.1", "user"),
    ("vibapp:experimental-v0/kv@0.0.1", "automatic"),
    ("vibapp:experimental-v0/log@0.0.1", "automatic"),
    ("vibapp:experimental-v0/host-info@0.0.1", "automatic"),
    ("vibapp:experimental-v0/settings@0.0.1", "automatic"),
    ("vibapp:experimental-v0/system-metrics@0.0.1", "user"),
    ("vibapp:experimental-v0/http@0.0.1", "user")]

/-- `LOCAL_HOST_CAPABILITY_AVAILABILITY`. -/
def localHostCapabilityAvailability : List (String × String) :=
  [("vibapp:experimental-v0/clock@0.0.1", "brokered"),
    ("vibapp:experimental-v0/scheduler@0.0.1", "unavailable"),
    ("vibapp:experimental-v0/notification@0.0.1", "unavailable"),
    ("vibapp:experimental-v0/kv@0.0.1", "brokered"),
    ("vibapp:experimental-v0/log@0.0.1", "brokered"),
    ("vibapp:experimental-v0/host-info@0.0.1", "brokered"),
    ("vibapp:experimental-v0/settings@0.0.1", "brokered"),
    ("vibapp:experimental-v0/system-metrics@0.0.1", "unavailable"),
    ("vibapp:experimental-v0/http@0.0.1", "unavailable")]

/-- `WORLD_IMPORTS`. -/
def worldImports : List (String × List String) :=
  [("ui-only-reference",
      ["vibapp:experimental-v0/clock@0.0.1", "vibapp:experimental-v0/kv@0.0.1",
        "vibapp:experimental-v0/log@0.0.1", "vibapp:experimental-v0/host-info@0.0.1",
        "vibapp:experimental-v0/settings@0.0.1"]),
    ("service-only-reference",
      ["vibapp:experimental-v0/clock@0.0.1", "vibapp:experimental-v0/scheduler@0.0.1",
        "vibapp:experimental-v0/kv@0.0.1", "vibapp:experimental-v0/log@0.0.1",
        "vibapp:experimental-v0/host-info@0.0.1", "vibapp:experimental-v0/settings@0.0.1",
        "vibapp:experimental-v0/system-metrics@0.0.1", "vibapp:experimental-v0/http@0.0.1"]),
    ("hybrid-reference",
      ["vibapp:experimental-v0/clock@0.0.1", "vibapp:experimental-v0/scheduler@0.0.1",
        "vibapp:experimental-v0/notification@0.0.1", "vibapp:experimental-v0/kv@0.0.1",
        "vibapp:experimental-v0/log@0.0.1", "vibapp:experimental-v0/host-info@0.0.1",
        "vibapp:experimental-v0/settings@0.0.1"])]

/-- `WORLD_KIND`. -/
def worldKind : List (String × String) :=
  [("ui-only-reference", "ui"), ("service-only-reference", "service"),
    ("hybrid-reference", "hybrid")]

/-- `SERVICE_TRIGGER_ORDER`. -/
def serviceTriggerOrder : List String := ["on-enable", "scheduler", "manual"]

/-! ## Sections -/

/-- The app and its publisher. -/
def validateApp (value : Json) : Py (List (String × Json)) := do
  let app ← requireExactObject value
    ["id", "version", "kind", "display_name", "description", "publisher"] "app"
  require ((asStr (field app "id")).any isAppId) "schema-invalid" "manifest app ID is invalid"
  require ((asStr (field app "version")).any isSemver) "schema-invalid"
    "manifest app version is invalid"
  require (← memberOf (field app "kind") ["ui", "service", "hybrid"]) "schema-invalid"
    "manifest app kind is invalid"
  require (isBoundedText (field app "display_name") 80) "schema-invalid"
    "manifest app display_name is invalid"
  require (isBoundedText (field app "description") 1000) "schema-invalid"
    "manifest app description is invalid"
  let publisher ← requireExactObject (field app "publisher") ["id", "display_name"] "publisher"
  require ((asStr (field publisher "id")).any isAppId) "schema-invalid" "publisher ID is invalid"
  -- the app's two texts are bounded, the publisher's are not
  require ((asStr (field publisher "display_name")).any (· ≠ "")) "schema-invalid"
    "publisher display name is invalid"
  pure app

/-- One of the three artifacts. -/
def validateArtifact (artifacts : List (String × Json)) (name path mediaType : String) :
    Py Unit := do
  let context := "artifacts." ++ name
  let descriptor ← requireExactObject (field artifacts name)
    ["path", "media_type", "sha256", "size_bytes"] context
  require (asStr (field descriptor "path") = some path &&
    asStr (field descriptor "media_type") = some mediaType) "schema-invalid"
    (context ++ " path/media type is invalid")
  requireSha256 (field descriptor "sha256") (context ++ ".sha256")
  let _ ← requireInteger (field descriptor "size_bytes") (context ++ ".size_bytes") 1
    (64 * 1024 * 1024)

def validateArtifacts (value : Json) : Py Unit := do
  let artifacts ← requireExactObject value
    ["canonical_component", "assets", "browser_derivations", "provenance", "sbom"] "artifacts"
  require ((Json.arr []).equals (field artifacts "assets") &&
    (Json.arr []).equals (field artifacts "browser_derivations")) "schema-invalid"
    "product Builder v1 supports no assets/browser derivations"
  validateArtifact artifacts "canonical_component" "component.wasm" "application/wasm"
  validateArtifact artifacts "provenance" "provenance.json" "application/json"
  validateArtifact artifacts "sbom" "sbom.cdx.json" "application/vnd.cyclonedx+json"

/-- The loop over the profiles, with the names so far. -/
def validateProfiles : List Json → List String → Py (List String)
  | [], names => .ok names
  | row :: rest, names => do
    let row ← requireExactObject row
      ["profile", "mode", "background", "artifact_role", "degradation"] "profile"
    let known ← memberOf (field row "profile") ["desktop", "headless"]
    let name := (asStr (field row "profile")).getD ""
    require (known && !names.contains name) "schema-invalid"
      "manifest profile is invalid/duplicate"
    require (asStr (field row "artifact_role") = some "canonical-component")
      "incompatible-contract" "non-browser profile must use canonical component"
    require (← memberOf (field row "mode") ["full", "degraded"]) "schema-invalid"
      "manifest profile mode/background is invalid"
    require (← memberOf (field row "background") ["daemon", "process", "not-applicable"])
      "schema-invalid" "manifest profile mode/background is invalid"
    require ((asStr (field row "degradation")).any (·.utf8ByteSize ≤ 500)) "schema-invalid"
      "manifest profile degradation is invalid"
    validateProfiles rest (names ++ [name])

/-- The one platform of the builder. -/
def platformClaim (profiles : List String) : Json :=
  .arr [.obj [("os", .str "macos"), ("arch", .str "aarch64"), ("profiles", Json.texts profiles)]]

/-- The runtime, with the imports of its world and the names of the profiles. -/
def validateRuntime (value : Json) (app : List (String × Json)) :
    Py (List String × List String) := do
  let runtime ← requireExactObject value
    ["contract", "wasi", "world", "required_imports", "profiles", "platforms"] "runtime"
  require (asStr (field runtime "contract") = some "vibapp:experimental-v0@0.0.1" &&
    asStr (field runtime "wasi") = some "0.2") "unsupported-version"
    "manifest runtime contract/WASI is unsupported"
  let known ← memberOf (field runtime "world") (worldImports.map Prod.fst)
  let world := (asStr (field runtime "world")).getD ""
  let imports := (worldImports.lookup world).getD []
  require (known && (Json.texts imports).equals (field runtime "required_imports"))
    "incompatible-contract" "manifest world/import set is not exact"
  require (asStr (field app "kind") = worldKind.lookup world) "incompatible-contract"
    "manifest app kind/world disagree"
  let profiles ← requireList (field runtime "profiles") "schema-invalid"
    "manifest profiles are invalid"
  require (1 ≤ profiles.length && profiles.length ≤ 2) "schema-invalid"
    "manifest profiles are invalid"
  let names ← validateProfiles profiles []
  require ((platformClaim names).equals (field runtime "platforms")) "schema-invalid"
    "Builder v1 local platform claim is not exact"
  pure (imports, names)

/-! ## Entrypoints -/

/-- The fields of an entrypoint beside the common ones. -/
def entrypointFields (kind : String) : List String :=
  ["id", "kind", "label", "profiles"] ++
    if kind = "launcher-ui" then ["routes", "restoration"]
    else if kind = "service" then ["triggers", "health_check_interval_seconds"]
    else ["schema_export"]

/-- `triggers` names triggers of a service, each once and in their order. -/
def isCanonicalTriggers (triggers : List Json) : Bool :=
  (Json.texts (serviceTriggerOrder.filter fun trigger =>
    triggers.any (Json.str trigger).equals)).equals (.arr triggers)

/-- What a launcher, a service or the settings have of their own. -/
def validateEntrypointKind (kind : String) (row : List (String × Json)) : Py Unit :=
  if kind = "launcher-ui" then do
    let routes ← requireExactObject (field row "routes") ["initial", "allowed"] "launcher routes"
    require ((asStr (field routes "initial")).any fun initial =>
      (Json.texts [initial]).equals (field routes "allowed")) "schema-invalid"
      "launcher routes are invalid"
    require (asStr (field row "restoration") = some "route-only") "schema-invalid"
      "launcher restoration is invalid"
  else if kind = "service" then do
    let message := "service triggers are missing, unknown, duplicated, or non-canonical"
    let triggers ← requireList (field row "triggers") "schema-invalid" message
    require (1 ≤ triggers.length && triggers.length ≤ serviceTriggerOrder.length &&
      isCanonicalTriggers triggers) "schema-invalid" message
    let _ ← requireInteger (field row "health_check_interval_seconds") "health interval" 10 86400
  else
    require (asStr (field row "schema_export") = some "get-settings-schema") "schema-invalid"
      "settings export is invalid"

/-- The loop over the entrypoints, with the ids so far; it gives the kinds. -/
def validateEntrypoints (profiles : List String) : List Json → List String → Py (List String)
  | [], _ => .ok []
  | row :: rest, ids =>
    match row with
    | .obj members => do
      let known ← memberOf (field members "kind") ["launcher-ui", "service", "settings"]
      require known "schema-invalid" "entrypoint kind is invalid"
      let kind := (asStr (field members "kind")).getD ""
      let row ← requireExactObject row (entrypointFields kind) "entrypoint"
      let id := (asStr (field row "id")).getD ""
      require ((asStr (field row "id")).isSome && !ids.contains id) "schema-invalid"
        "entrypoint ID is invalid/duplicate"
      require ((Json.texts profiles).equals (field row "profiles")) "schema-invalid"
        "entrypoint profile coverage differs from runtime"
      validateEntrypointKind kind row
      return kind :: (← validateEntrypoints profiles rest (id :: ids))
    | _ => fail "schema-invalid" "entrypoint kind is invalid"

/-- The kinds of the entrypoints against that of the app. -/
def validateKinds (kind : Option String) (kinds : List String) : Py Unit := do
  let launcher := kinds.contains "launcher-ui"
  let service := kinds.contains "service"
  require (!(kind = some "ui" && (!launcher || service))) "incompatible-contract"
    "UI entrypoints disagree with app kind"
  require (!(kind = some "service" && (!service || launcher))) "incompatible-contract"
    "service entrypoints disagree with app kind"
  require (!(kind = some "hybrid" && !(launcher && service))) "incompatible-contract"
    "hybrid entrypoints are incomplete"

/-! ## Capabilities -/

/-- The loop over the profiles of a capability. -/
def validateCapabilityProfiles (expected : String) : List Json → Py Unit
  | [] => .ok ()
  | row :: rest => do
    let row ← requireExactObject row ["profile", "availability", "behavior"] "capability profile"
    require (← memberOf (field row "availability")
      ["native", "brokered", "mock", "denied", "unavailable"]) "schema-invalid"
      "capability availability is invalid"
    require (asStr (field row "availability") = some expected) "incompatible-contract"
      "capability availability contradicts app necessity or local host truth"
    require ((asStr (field row "behavior")).any (· ≠ "")) "schema-invalid"
      "capability behavior is invalid"
    validateCapabilityProfiles expected rest

/-- `[item.get("profile") for item in rows if isinstance(item, dict)]`. -/
def profileNames (rows : List Json) : List Json :=
  rows.filterMap fun row =>
    match row with
    | .obj members => some (field members "profile")
    | _ => none

/-- The loop over the capabilities, with the interfaces so far. -/
def validateCapabilities (imports profiles : List String) : List Json → List String →
    Py (List String)
  | [], seen => .ok seen
  | row :: rest, seen => do
    let row ← requireExactObject row
      ["interface", "necessity", "grant", "reason", "scope", "profiles"] "capability"
    let interface := (asStr (field row "interface")).getD ""
    require ((asStr (field row "interface")).any imports.contains && !seen.contains interface)
      "incompatible-contract" "capability/import reconciliation failed"
    match capabilityGrantPolicy.lookup interface,
        localHostCapabilityAvailability.lookup interface with
    | some grant, some availability => do
      let necessity ← memberOf (field row "necessity") ["required", "degradable"]
      require (necessity && asStr (field row "grant") = some grant) "incompatible-contract"
        "capability necessity/grant is invalid for the app contract"
      let hasScope := match field row "scope" with
        | .obj _ => true
        | _ => false
      require (hasScope && (asStr (field row "reason")).any (· ≠ "")) "schema-invalid"
        "capability scope/reason is invalid"
      let rows ← requireList (field row "profiles") "incompatible-contract"
        "capability profile coverage is incomplete"
      require ((Json.texts profiles).equals (.arr (profileNames rows))) "incompatible-contract"
        "capability profile coverage is incomplete"
      validateCapabilityProfiles
        (if asStr (field row "necessity") = some "required" then availability else "denied") rows
      validateCapabilities imports profiles rest (interface :: seen)
    | _, _ => fail "unknown-interface" "capability lacks a local host policy"

/-! ## The rest -/

/-- The bounds of the resources. -/
def resourceBounds : List (String × Int × Int) :=
  [("linear_memory_bytes", 1048576, 67108864), ("event_wall_time_ms", 1, 250),
    ("health_migration_wall_time_ms", 1, 2000), ("output_bytes", 1, 262144),
    ("stored_data_bytes", 0, 10485760), ("durable_schedules", 0, 128),
    ("log_bytes_per_day", 0, 1048576)]

def validateResources (value : Json) : Py Unit := do
  let resources ← requireExactObject value (resourceBounds.map Prod.fst) "resources"
  resourceBounds.forM fun bound => do
    let _ ← requireInteger (field resources bound.1) ("resources." ++ bound.1) bound.2.1 bound.2.2

/-- The state contract. The values are compared in the order of the manifest's members. -/
def validateState (value : Json) : Py Unit := do
  let state ← requireExactObject value
    ["schema", "migratable_from_min", "migratable_from_max"] "state"
  let values ← state.mapM fun p => requireInteger p.2 ("state." ++ p.1) 1 4294967295
  match values with
  | first :: second :: third :: _ =>
    require (second ≤ first && first ≤ third) "schema-invalid" "state migration range is invalid"
  | _ => .error .other

/-- `len(set(allowed)) != len(allowed) or any(value not in {…} for value in allowed)`. -/
def areDispositions (allowed : List Json) : Py Bool :=
  if allowed.any fun value =>
      match value with
      | .arr _ => true
      | .obj _ => true
      | _ => false then
    .error .other
  else
    let texts := allowed.filterMap asStr
    .ok (texts.length = allowed.length && (texts.Nodup : Bool) &&
      texts.all ["delete", "retain", "export-then-delete"].contains)

def validateLifecycle (value : Json) : Py Unit := do
  let lifecycle ← requireExactObject value ["disable", "uninstall"] "lifecycle"
  require ((Json.obj [("retains_package", .bool true), ("retains_state", .bool true),
    ("stops_services", .bool true), ("cancels_schedules", .bool true)]).equals
      (field lifecycle "disable")) "schema-invalid" "disable lifecycle is invalid"
  let uninstall ← requireExactObject (field lifecycle "uninstall")
    ["allowed_data_dispositions", "default_data_disposition"] "uninstall"
  let message := "uninstall data disposition is invalid"
  let allowed ← requireList (field uninstall "allowed_data_dispositions") "schema-invalid" message
  require (1 ≤ allowed.length) "schema-invalid" message
  require (← areDispositions allowed) "schema-invalid" message
  require (allowed.any fun item => item.equals (field uninstall "default_data_disposition"))
    "schema-invalid" message

/-- `sha256:[0-9a-f]{64}`. -/
def isImageDigest (text : String) : Bool :=
  "sha256:".toList.isPrefixOf text.toList && AppStore.isSha256 (String.ofList (text.toList.drop 7))

def validateSource (value : Json) : Py Unit := do
  let source ← requireExactObject value
    ["language", "revision", "cargo_lock_sha256", "builder_image_digest"] "source"
  require (asStr (field source "language") = some "rust" &&
    (asStr (field source "revision")).any (· ≠ "")) "schema-invalid"
    "manifest source identity is invalid"
  requireSha256 (field source "cargo_lock_sha256") "source.cargo_lock_sha256"
  require ((asStr (field source "builder_image_digest")).any isImageDigest) "schema-invalid"
    "builder identity digest is invalid"

def validateLicense (value : Json) : Py Unit := do
  let license ← requireExactObject value ["spdx_expression"] "license"
  require (asStr (field license "spdx_expression") = some "Apache-2.0") "schema-invalid"
    "Builder v1 license is not accepted"

def validatePrivacy (value : Json) : Py Unit := do
  let privacy ← requireExactObject value ["stores_personal_data", "network_access"] "privacy"
  require ((asBool (field privacy "stores_personal_data")).isSome &&
    asStr (field privacy "network_access") = some "none") "schema-invalid"
    "Builder v1 privacy policy is invalid"

/-! ## The native manifest -/

def manifestFields : List String :=
  ["schema_version", "package_format", "app", "artifacts", "runtime", "entrypoints",
    "capabilities", "resources", "state", "lifecycle", "source", "license", "privacy",
    "verification"]

/-- What the builder says of the verification. -/
def unverified : Json := .obj [("status", .str "unverified"), ("revocation", .str "not-revoked")]

/-- `_validate_native_manifest_schema`. -/
def validateNativeManifestSchema (value : Json) : Py Unit := do
  let manifest ← requireExactObject value manifestFields "manifest"
  require (asStr (field manifest "schema_version") = some "vibapp.manifest.experimental-v0.0.1" &&
    asStr (field manifest "package_format") = some "vibapp.package.experimental-v0")
    "unsupported-version" "manifest schema/package format is unsupported"
  let app ← validateApp (field manifest "app")
  validateArtifacts (field manifest "artifacts")
  let (imports, profiles) ← validateRuntime (field manifest "runtime") app
  let entrypoints ← requireList (field manifest "entrypoints") "schema-invalid"
    "manifest entrypoints are invalid"
  require (1 ≤ entrypoints.length && entrypoints.length ≤ 16) "schema-invalid"
    "manifest entrypoints are invalid"
  let kinds ← validateEntrypoints profiles entrypoints []
  validateKinds (asStr (field app "kind")) kinds
  let capabilities ← requireList (field manifest "capabilities") "schema-invalid"
    "manifest capability count is invalid"
  require (capabilities.length = imports.length) "schema-invalid"
    "manifest capability count is invalid"
  let seen ← validateCapabilities imports profiles capabilities []
  require (sameSet seen imports) "incompatible-contract"
    "capabilities do not equal required imports"
  validateResources (field manifest "resources")
  validateState (field manifest "state")
  validateLifecycle (field manifest "lifecycle")
  validateSource (field manifest "source")
  validateLicense (field manifest "license")
  validatePrivacy (field manifest "privacy")
  require (unverified.equals (field manifest "verification")) "authority-invalid"
    "Builder manifest must remain unverified"

/-! ## The browser manifest -/

/-- `value.get(key)`; what is no dictionary has no `get`. -/
def get (value : Json) (key : String) (default : Json) : Py Json :=
  match value with
  | .obj members => .ok ((members.lookup key).getD default)
  | _ => .error .other

/-- `value[key]` of a dictionary. -/
def item (value : Json) (key : String) : Py Json :=
  match value with
  | .obj members =>
    match members.lookup key with
    | some found => .ok found
    | none => .error .other
  | _ => .error .other

/-- The items of a list that a loop runs over. -/
def items (value : Json) : Py (List Json) :=
  match value with
  | .arr found => .ok found
  | _ => .error .other

/-- `value[key] = item`. -/
def put (value : Json) (key : String) (item : Json) : Json :=
  match value with
  | .obj members => .obj (Json.setMember members key item)
  | value => value

/-- `rows.remove(row)` of the first row that is equal to the literal. -/
def removeFirst (row : Json) : List Json → List Json
  | [] => []
  | found :: rest => if row.equals found then rest else found :: removeFirst row rest

/-- `web-runtime/(?:app-….jco.mjs|host-adapter-….mjs|derivation-….json)`, with the digest that is
part of the name. -/
def browserDigest (name : String) : Option String :=
  let strip (start stop : String) : Option String :=
    let cs := name.toList
    let body := (cs.drop start.toList.length).take (cs.length - (start ++ stop).toList.length)
    if start.toList ++ body ++ stop.toList = cs ∧ AppStore.isSha256 (String.ofList body) then
      some (String.ofList body)
    else none
  (strip "web-runtime/app-" ".jco.mjs").or
    ((strip "web-runtime/host-adapter-" ".mjs").or (strip "web-runtime/derivation-" ".json"))

def endsWith (name stop : String) : Bool := stop.toList.isSuffixOf name.toList

/-- The loop over the files of a derivation and its attestation, with the paths so far. -/
def validateBrowserArtifacts : List Json → List String → Py Unit
  | [], _ => .ok ()
  | row :: rest, paths => do
    let row ← requireExactObject row ["path", "media_type", "sha256", "size_bytes"]
      "browser artifact"
    match asStr (field row "path") with
    | none => fail "schema-invalid" "browser artifact path is not a bounded path"
    | some name => do
      match Builder.normalizedRelativePath name "browser artifact path" with
      | .error e => .error (.pipeline e)
      | .ok _ => do
        require ((browserDigest name).isSome && !paths.contains name) "schema-invalid"
          "browser artifact path is invalid/duplicate"
        requireSha256 (field row "sha256") "browser artifact digest"
        let mediaType := if endsWith name ".json" then "application/json" else "text/javascript"
        require (browserDigest name = asStr (field row "sha256") &&
          asStr (field row "media_type") = some mediaType) "integrity-failure"
          "browser artifact content-address/media type mismatch"
        let _ ← requireInteger (field row "size_bytes") "browser artifact bytes" 1
          (4 * 1024 * 1024)
        validateBrowserArtifacts rest (name :: paths)

/-- The one derivation of the product. -/
def validateBrowserDerivation (artifacts derivation : Json) : Py Unit := do
  let members ← requireExactObject derivation
    ["profile", "format", "derived_from_sha256", "entry", "files", "derivation_attestation"]
    "browser derivation"
  let message := "browser derivation canonical component/profile mismatch"
  require (asStr (field members "profile") = some "web-runtime" &&
    asStr (field members "format") = some "jco-esm") "integrity-failure" message
  let sha256 ← item artifacts "canonical_component" >>= fun component => item component "sha256"
  require (sha256.equals (field members "derived_from_sha256")) "integrity-failure" message
  let files ← requireList (field members "files") "schema-invalid"
    "browser derivation requires entry and host adapter"
  require (files.length = 2) "schema-invalid" "browser derivation requires entry and host adapter"
  validateBrowserArtifacts (files ++ [field members "derivation_attestation"]) []
  let pathOf (value : Json) : String := (asStr (read value "path")).getD ""
  require (files.any (fun file => file.equals (field members "entry")) &&
    endsWith (pathOf (field members "entry")) ".jco.mjs" &&
    endsWith (pathOf (field members "derivation_attestation")) ".json") "schema-invalid"
    "browser entry/attestation selector is invalid"

/-- The profile of the browser. -/
def browserProfile : Json :=
  .obj [("profile", .str "web-runtime"), ("mode", .str "degraded"),
    ("background", .str "foreground-only"), ("artifact_role", .str "browser-derived"),
    ("degradation", .str ("Foreground stateless UI only; read-only empty settings/state, " ++
      "no saved data or background service."))]

def browserPlatform : Json :=
  .obj [("os", .str "browser"), ("arch", .str "wasm32"), ("profiles", Json.texts ["web-runtime"])]

def browserCapability : Json :=
  .obj [("profile", .str "web-runtime"), ("availability", .str "brokered"),
    ("behavior", .str ("Bounded stateless foreground host; no persistence, network or " ++
      "background authority."))]

/-- `[row for row in rows if row.get("profile") == "web-runtime"]`, and the other rows. -/
def partitionBrowser : List Json → Py (List Json × List Json)
  | [] => .ok ([], [])
  | row :: rest => do
    let profile ← get row "profile" .null
    let (browser, others) ← partitionBrowser rest
    if asStr profile = some "web-runtime" then return (row :: browser, others)
    else return (browser, row :: others)

/-- An entrypoint without the browser's profile. -/
def nativeEntrypoint (row : Json) : Py Json := do
  let kind ← item row "kind"
  require (asStr kind = some "launcher-ui") "incompatible-contract"
    "browser entrypoint must be launcher UI"
  let profiles ← item row "profiles" >>= items
  require (profiles.countP (Json.str "web-runtime").equals = 1) "incompatible-contract"
    "browser entrypoint must be launcher UI"
  return put row "profiles" (.arr (removeFirst (.str "web-runtime") profiles))

/-- A capability without the browser's profile. -/
def nativeCapability (row : Json) : Py Json := do
  let (browser, others) ← item row "profiles" >>= items >>= partitionBrowser
  require (browser.length = 1 && browser.all browserCapability.equals) "incompatible-contract"
    "browser capability policy is not exact"
  return put row "profiles" (.arr others)

/-- The runtime without the browser's profile and platform. -/
def nativeRuntime (value : Json) : Py Json := do
  let runtime ← get value "runtime" (.obj [])
  let (browser, others) ← get runtime "profiles" (.arr []) >>= items >>= partitionBrowser
  require (browser.length = 1 && browser.all browserProfile.equals) "incompatible-contract"
    "browser profile policy is not exact"
  let platforms ← item runtime "platforms" >>= items
  require (platforms.countP browserPlatform.equals = 1) "incompatible-contract"
    "browser platform is missing"
  return put (put runtime "profiles" (.arr others)) "platforms"
    (.arr (removeFirst browserPlatform platforms))

/-- `_validate_product_browser_manifest`. -/
def validateProductBrowserManifest (value : Json) : Py Unit := do
  let kind ← get value "app" (.obj []) >>= fun app => get app "kind" .null
  let privacy ← get value "privacy" .null
  require (asStr kind = some "ui" && (Json.obj [("network_access", .str "none"),
    ("stores_personal_data", .bool false)]).equals privacy) "incompatible-contract"
    "stateless browser policy requires a non-personal, offline UI"
  let artifacts ← item value "artifacts"
  let derivations ← requireList (read artifacts "browser_derivations") "schema-invalid"
    "one product web-runtime derivation is required"
  match derivations with
  | [derivation] => do
    validateBrowserDerivation artifacts derivation
    let runtime ← nativeRuntime value
    let entrypoints ← item value "entrypoints" >>= items >>= fun rows =>
      rows.mapM nativeEntrypoint
    let capabilities ← item value "capabilities" >>= items >>= fun rows =>
      rows.mapM nativeCapability
    let native := put (put (put value "runtime" runtime) "entrypoints" (.arr entrypoints))
      "capabilities" (.arr capabilities)
    validateNativeManifestSchema
      (put native "artifacts" (put artifacts "browser_derivations" (.arr [])))
  | _ => fail "schema-invalid" "one product web-runtime derivation is required"

/-- `bool(value)`. -/
def truthy : Json → Bool
  | .null => false
  | .bool b => b
  | .int n => n ≠ 0
  | .float x => x.toInt? ≠ some 0
  | .str s => s ≠ ""
  | .arr items => !items.isEmpty
  | .obj members => !members.isEmpty

/-- `_validate_manifest_schema`. -/
def validateManifestSchema (value : Json) : Py Unit := do
  let artifacts ← get value "artifacts" (.obj [])
  let derivations ← get artifacts "browser_derivations" .null
  if truthy derivations then validateProductBrowserManifest value
  else validateNativeManifestSchema value

/-! ## What is read of it -/

/-- `_validate_consent_bound_entrypoints`, with the ids so far. -/
def validateConsentBound (context : String) : List Json → List String → Py (List Entrypoint)
  | [], _ => .ok []
  | row :: rest, seen => do
    let row ← requireExactObject row ["id", "kind", "label", "initial_route", "triggers"] context
    let id := (asStr (field row "id")).getD ""
    require ((asStr (field row "id")).any Builder.isIdentifier && !seen.contains id)
      "schema-invalid" (context ++ " ID is invalid or duplicated")
    require (← memberOf (field row "kind") ["launcher-ui", "service", "settings"])
      "schema-invalid" (context ++ " kind is invalid")
    let kind := (asStr (field row "kind")).getD ""
    require (isBoundedText (field row "label") 80) "schema-invalid" (context ++ " label is invalid")
    let route := field row "initial_route"
    if kind = "launcher-ui" then
      require (asStr route).isSome "schema-invalid" (context ++ " launcher route is invalid")
    else
      require route.isNull "schema-invalid" (context ++ " non-launcher route must be null")
    let triggers ← if kind = "service" then do
        let triggers ← requireList (field row "triggers") "schema-invalid"
          (context ++ " service triggers are invalid")
        require (1 ≤ triggers.length && isCanonicalTriggers triggers) "schema-invalid"
          (context ++ " service triggers are invalid")
        pure (triggers.filterMap asStr)
      else do
        require ((Json.arr []).equals (field row "triggers")) "schema-invalid"
          (context ++ " non-service triggers must be empty")
        pure []
    let entrypoint : Entrypoint :=
      ⟨id, kind, (asStr (field row "label")).getD "", asStr route, triggers⟩
    return entrypoint :: (← validateConsentBound context rest (id :: seen))

def validateConsentBoundEntrypoints (value : Json) (context : String) : Py (List Entrypoint) := do
  let message := context ++ " is not a bounded entrypoint list"
  let rows ← requireList value "schema-invalid" message
  require (1 ≤ rows.length && rows.length ≤ 16) "schema-invalid" message
  validateConsentBound context rows []

/-- An entrypoint of the manifest as it was consented to. -/
def projectEntrypoint (row : Json) : Json :=
  let kind := read row "kind"
  .obj [("id", read row "id"), ("kind", kind), ("label", read row "label"),
    ("initial_route", if asStr kind = some "launcher-ui" then read (read row "routes") "initial"
      else .null),
    ("triggers", if asStr kind = some "service" then read row "triggers" else .arr [])]

/-- `_manifest_consent_bound_entrypoints`. -/
def manifestEntrypoints (manifest : Json) : Py (List Entrypoint) :=
  match read manifest "entrypoints" with
  | .arr rows =>
    validateConsentBoundEntrypoints (.arr (rows.map projectEntrypoint))
      "manifest entrypoint binding"
  | _ => .error .other

def textOf (value : Json) : String := (asStr value).getD ""

def itemsOf (value : Json) : List Json :=
  match value with
  | .arr found => found
  | _ => []

/-- The digest and the size of an artifact. -/
def descriptorOf (value : Json) : Descriptor :=
  ⟨textOf (read value "sha256"), ((asInt (read value "size_bytes")).getD 0).toNat⟩

/-- What the verifier reads of a manifest that it has accepted. -/
def manifestOf (manifest : Json) : Manifest :=
  let app := read manifest "app"
  let artifacts := read manifest "artifacts"
  let runtime := read manifest "runtime"
  let required := (itemsOf (read manifest "capabilities")).filter fun row =>
    asStr (read row "necessity") = some "required"
  { id := textOf (read app "id")
    version := textOf (read app "version")
    kind := textOf (read app "kind")
    displayName := textOf (read app "display_name")
    description := textOf (read app "description")
    entrypoints := (itemsOf (read manifest "entrypoints")).map fun row =>
      { id := textOf (read row "id")
        kind := textOf (read row "kind")
        label := textOf (read row "label")
        initialRoute := asStr (read (projectEntrypoint row) "initial_route")
        triggers := (itemsOf (read row "triggers")).filterMap asStr }
    world := textOf (read runtime "world")
    requiredImports := (itemsOf (read runtime "required_imports")).filterMap asStr
    requiredCapabilities := required.map fun row => textOf (read row "interface")
    component := descriptorOf (read artifacts "canonical_component")
    provenance := descriptorOf (read artifacts "provenance")
    sbom := descriptorOf (read artifacts "sbom") }

end Vibapp.Verifier
