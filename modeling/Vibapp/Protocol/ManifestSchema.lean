import Vibapp.Protocol.JsonSchema

/-!
# The manifest schema

`schemas/manifest.experimental-v0.schema.json`: one definition for each of its `$defs`, under its
name and in its order, and the document's own schema (`manifest`) last. The conditions on the kind
of the app that stand beside the properties are `kindConditions`.
-/

namespace Vibapp.Protocol.ManifestSchema

open Schema Regex

/-! ## Texts -/

def hexDigits : List (Char × Char) := [('0', '9'), ('a', 'f')]

/-- `^[0-9a-f]{64}$` -/
def sha256Pattern : Regex Char := sequence [start, times (one (ranges hexDigits)) 64, finish]

def sha256 : Schema := allOf [type .string, pattern sha256Pattern]

/-- `(0|[1-9][0-9]*)` -/
def numericPattern : Regex Char :=
  alt (literal ['0']) (seq (one (ranges [('1', '9')])) (star (one (ranges [('0', '9')]))))

def semverChars : List (Char × Char) := [('0', '9'), ('A', 'Z'), ('a', 'z'), ('-', '-')]

/-- `[0-9A-Za-z-]+(?:\.[0-9A-Za-z-]+)*` -/
def semverIdentifiers : Regex Char :=
  seq (plus (one (ranges semverChars)))
    (star (seq (literal ['.']) (plus (one (ranges semverChars)))))

/-- Three numbers, `(?:-..)?` and `(?:\+..)?`. -/
def semverPattern : Regex Char :=
  sequence [start, numericPattern, literal ['.'], numericPattern, literal ['.'], numericPattern,
    optional (seq (literal ['-']) semverIdentifiers),
    optional (seq (literal ['+']) semverIdentifiers), finish]

def semver : Schema := allOf [type .string, pattern semverPattern]

def identifierChars : List (Char × Char) := [('a', 'z'), ('0', '9')]

/-- `^[a-z][a-z0-9]*(?:[.-][a-z0-9]+)*$` -/
def identifierPattern : Regex Char :=
  sequence [start, one (ranges [('a', 'z')]), star (one (ranges identifierChars)),
    star (seq (one (ranges [('.', '.'), ('-', '-')])) (plus (one (ranges identifierChars)))),
    finish]

def identifier : Schema :=
  allOf [type .string, minLength 1, maxLength 128, pattern identifierPattern]

def witInterface : Schema :=
  allOf [type .string, enumOf ["vibapp:experimental-v0/clock@0.0.1",
    "vibapp:experimental-v0/scheduler@0.0.1", "vibapp:experimental-v0/notification@0.0.1",
    "vibapp:experimental-v0/kv@0.0.1", "vibapp:experimental-v0/log@0.0.1",
    "vibapp:experimental-v0/host-info@0.0.1", "vibapp:experimental-v0/settings@0.0.1",
    "vibapp:experimental-v0/system-metrics@0.0.1", "vibapp:experimental-v0/http@0.0.1"]]

def profileName : Schema := enumOf ["desktop", "web-preview", "web-runtime", "headless"]

def pathChars : List (Char × Char) :=
  [('A', 'Z'), ('a', 'z'), ('0', '9'), ('.', '.'), ('_', '_'), ('/', '/'), ('-', '-')]

/-- Three negative lookaheads, for a leading `/`, a segment `..` and a backslash, then characters
of the class up to the end. -/
def artifactPathPattern : Regex Char :=
  sequence [start, notAhead (literal ['/']),
    notAhead (sequence [star (one anyChar), alt start (literal ['/']), literal ['.', '.'],
      alt (literal ['/']) finish]),
    notAhead (sequence [star (one anyChar), literal ['\\']]),
    plus (one (ranges pathChars)), finish]

def artifactPath : Schema :=
  allOf [type .string, minLength 1, maxLength 240, pattern artifactPathPattern]

/-- A text of bounded length. -/
def textOf (least most : Nat) : Schema := allOf [type .string, minLength least, maxLength most]

/-- A number between two bounds. -/
def integerOf (least most : Int) : Schema := allOf [type .integer, minimum least, maximum most]

/-! ## Artifacts and the app -/

def artifact : Schema :=
  closedObject ["path", "media_type", "sha256", "size_bytes"]
    [("path", artifactPath), ("media_type", textOf 1 128), ("sha256", sha256),
      ("size_bytes", integerOf 1 67108864)]

def canonicalComponent : Schema :=
  allOf [artifact, allOf [type .object,
    properties [("path", const (.string "component.wasm")),
      ("media_type", const (.string "application/wasm"))]]]

def derivedArtifact : Schema :=
  closedObject
    ["profile", "format", "derived_from_sha256", "entry", "files", "derivation_attestation"]
    [("profile", enumOf ["web-preview", "web-runtime"]), ("format", const (.string "jco-esm")),
      ("derived_from_sha256", sha256), ("entry", artifact),
      ("files", allOf [type .array, minItems 1, maxItems 32, items artifact]),
      ("derivation_attestation", artifact)]

def publisher : Schema :=
  closedObject ["id", "display_name"] [("id", identifier), ("display_name", textOf 1 80)]

def app : Schema :=
  closedObject ["id", "version", "kind", "display_name", "description", "publisher"]
    [("id", identifier), ("version", semver), ("kind", enumOf ["ui", "service", "hybrid"]),
      ("display_name", textOf 1 80), ("description", textOf 1 1000), ("publisher", publisher)]

def artifacts : Schema :=
  closedObject ["canonical_component", "assets", "browser_derivations", "provenance", "sbom"]
    [("canonical_component", canonicalComponent),
      ("assets", allOf [type .array, maxItems 128, items artifact]),
      ("browser_derivations", allOf [type .array, maxItems 2, items derivedArtifact]),
      ("provenance", artifact), ("sbom", artifact)]

/-! ## The runtime -/

/-- `if` the member is this text, `then` the other properties. -/
def whenProperty (key text : String) (members : List (String × Schema)) : Schema :=
  ifThen (allOf [properties [(key, const (.string text))], Schema.required [key]])
    (properties members)

def profileSupport : Schema :=
  allOf [closedObject ["profile", "mode", "background", "artifact_role", "degradation"]
      [("profile", profileName), ("mode", enumOf ["full", "degraded", "preview"]),
        ("background", enumOf ["daemon", "process", "foreground-only", "not-applicable"]),
        ("artifact_role", enumOf ["canonical-component", "browser-derived"]),
        ("degradation", allOf [type .string, maxLength 500])],
    whenProperty "profile" "web-preview"
      [("mode", const (.string "preview")), ("background", const (.string "foreground-only")),
        ("artifact_role", const (.string "browser-derived"))],
    whenProperty "profile" "web-runtime"
      [("background", const (.string "foreground-only")),
        ("artifact_role", const (.string "browser-derived"))]]

/-- The profiles of a platform or of an entrypoint. -/
def profileNames : Schema := allOf [type .array, minItems 1, uniqueItems, items profileName]

def platformSupport : Schema :=
  closedObject ["os", "arch", "profiles"]
    [("os", enumOf ["macos", "windows", "linux", "browser"]),
      ("arch", enumOf ["x86-64", "aarch64", "wasm32"]), ("profiles", profileNames)]

def runtime : Schema :=
  closedObject ["contract", "wasi", "world", "required_imports", "profiles", "platforms"]
    [("contract", const (.string "vibapp:experimental-v0@0.0.1")), ("wasi", const (.string "0.2")),
      ("world", enumOf ["ui-only-reference", "service-only-reference", "hybrid-reference",
        "web-preview-reference"]),
      ("required_imports", allOf [type .array, uniqueItems, items witInterface]),
      ("profiles", allOf [type .array, minItems 1, maxItems 4, items profileSupport]),
      ("platforms", allOf [type .array, minItems 1, maxItems 16, items platformSupport])]

/-! ## Entrypoints -/

def routes : Schema :=
  closedObject ["initial", "allowed"]
    [("initial", identifier),
      ("allowed", allOf [type .array, minItems 1, uniqueItems, items identifier])]

def launcherEntrypoint : Schema :=
  closedObject ["id", "kind", "label", "profiles", "routes", "restoration"]
    [("id", identifier), ("kind", const (.string "launcher-ui")), ("label", textOf 1 80),
      ("profiles", profileNames), ("routes", routes),
      ("restoration", enumOf ["none", "route-only", "safe-fields"])]

def serviceEntrypoint : Schema :=
  closedObject ["id", "kind", "label", "profiles", "triggers", "health_check_interval_seconds"]
    [("id", identifier), ("kind", const (.string "service")), ("label", textOf 1 80),
      ("profiles", profileNames),
      ("triggers", allOf [type .array, minItems 1, uniqueItems,
        items (enumOf ["on-enable", "scheduler", "manual"])]),
      ("health_check_interval_seconds", integerOf 10 86400)]

def settingsEntrypoint : Schema :=
  closedObject ["id", "kind", "label", "profiles", "schema_export"]
    [("id", identifier), ("kind", const (.string "settings")), ("label", textOf 1 80),
      ("profiles", profileNames), ("schema_export", const (.string "get-settings-schema"))]

def entrypoint : Schema := oneOf [launcherEntrypoint, serviceEntrypoint, settingsEntrypoint]

def entrypoints : Schema := allOf [type .array, minItems 1, maxItems 16, items entrypoint]

/-! ## Capabilities -/

def capabilityProfile : Schema :=
  closedObject ["profile", "availability", "behavior"]
    [("profile", profileName),
      ("availability", enumOf ["native", "brokered", "mock", "denied", "unavailable"]),
      ("behavior", textOf 1 500)]

def originChars (c : Char) : Bool :=
  !ranges ([('/', '/'), ('?', '?'), ('#', '#')] ++ whitespaceRanges) c

/-- `^https://[^/?#\s]+$` -/
def originPattern : Regex Char :=
  sequence [start, literal "https://".toList, plus (one originChars), finish]

def origin : Schema := allOf [type .string, pattern originPattern]

def capabilityScope : Schema :=
  closedObject []
    [("origins", allOf [type .array, uniqueItems, items origin]),
      ("methods", allOf [type .array, uniqueItems,
        items (enumOf ["GET", "POST", "PUT", "PATCH", "DELETE"])]),
      ("metrics", allOf [type .array, uniqueItems,
        items (enumOf ["cpu-temperature-celsius", "cpu-utilization-percent",
          "memory-utilization-percent"])]),
      ("maximum_schedules", integerOf 0 128), ("maximum_requests_per_hour", integerOf 0 10000),
      ("maximum_storage_bytes", integerOf 0 10485760)]

def capability : Schema :=
  closedObject ["interface", "necessity", "grant", "reason", "scope", "profiles"]
    [("interface", witInterface), ("necessity", enumOf ["required", "degradable"]),
      ("grant", enumOf ["automatic", "user"]), ("reason", textOf 1 500),
      ("scope", capabilityScope),
      ("profiles", allOf [type .array, minItems 1, maxItems 4, items capabilityProfile])]

def capabilities : Schema := allOf [type .array, maxItems 32, items capability]

/-! ## Resources, state and lifecycle -/

def resources : Schema :=
  closedObject ["linear_memory_bytes", "event_wall_time_ms", "health_migration_wall_time_ms",
      "output_bytes", "stored_data_bytes", "durable_schedules", "log_bytes_per_day"]
    [("linear_memory_bytes", integerOf 1048576 67108864), ("event_wall_time_ms", integerOf 1 250),
      ("health_migration_wall_time_ms", integerOf 1 2000), ("output_bytes", integerOf 1 262144),
      ("stored_data_bytes", integerOf 0 10485760), ("durable_schedules", integerOf 0 128),
      ("log_bytes_per_day", integerOf 0 1048576)]

def state : Schema :=
  closedObject ["schema", "migratable_from_min", "migratable_from_max"]
    [("schema", integerOf 1 4294967295), ("migratable_from_min", integerOf 1 4294967295),
      ("migratable_from_max", integerOf 1 4294967295)]

def disable : Schema :=
  closedObject ["retains_package", "retains_state", "stops_services", "cancels_schedules"]
    [("retains_package", const (.bool true)), ("retains_state", const (.bool true)),
      ("stops_services", const (.bool true)), ("cancels_schedules", const (.bool true))]

def disposition : Schema := enumOf ["delete", "retain", "export-then-delete"]

def uninstall : Schema :=
  closedObject ["allowed_data_dispositions", "default_data_disposition"]
    [("allowed_data_dispositions",
        allOf [type .array, minItems 1, uniqueItems, items disposition]),
      ("default_data_disposition", disposition)]

def lifecycle : Schema :=
  closedObject ["disable", "uninstall"] [("disable", disable), ("uninstall", uninstall)]

/-! ## Source, license, privacy and verification -/

/-- `^sha256:[0-9a-f]{64}$` -/
def imageDigestPattern : Regex Char :=
  sequence [start, literal "sha256:".toList, times (one (ranges hexDigits)) 64, finish]

def source : Schema :=
  closedObject ["language", "revision", "cargo_lock_sha256", "builder_image_digest"]
    [("language", const (.string "rust")), ("revision", textOf 1 128),
      ("cargo_lock_sha256", sha256),
      ("builder_image_digest", allOf [type .string, pattern imageDigestPattern])]

def license : Schema := closedObject ["spdx_expression"] [("spdx_expression", textOf 1 200)]

def privacy : Schema :=
  closedObject ["stores_personal_data", "network_access"]
    [("stores_personal_data", type .boolean),
      ("network_access", enumOf ["none", "scoped-broker"])]

def verification : Schema :=
  closedObject ["status", "revocation"]
    [("status", enumOf ["fixture", "unverified", "verified"]),
      ("revocation", enumOf ["not-revoked", "revoked"])]

/-! ## The document -/

/-- An object whose `kind` is this text. -/
def ofKind (kind : String) : Schema :=
  allOf [type .object, properties [("kind", const (.string kind))], Schema.required ["kind"]]

/-- What an app of the kind needs of its world and its entrypoints. -/
def whenKind (kind : String) (world : Schema) (entrypointList : List Schema) : Schema :=
  ifThen (properties [("app", ofKind kind)])
    (properties [("runtime", allOf [type .object, properties [("world", world)]]),
      ("entrypoints", allOf (type .array :: entrypointList))])

def kindConditions : Schema :=
  allOf [
    whenKind "ui" (const (.string "ui-only-reference"))
      [contains (ofKind "launcher-ui"), allOf [Schema.not (contains (ofKind "service"))]],
    whenKind "service" (enumOf ["service-only-reference", "web-preview-reference"])
      [contains (ofKind "service"), allOf [Schema.not (contains (ofKind "launcher-ui"))]],
    whenKind "hybrid" (const (.string "hybrid-reference"))
      [allOf [contains (ofKind "launcher-ui"), contains (ofKind "service")]]]

def manifestKeys : List String :=
  ["schema_version", "package_format", "app", "artifacts", "runtime", "entrypoints",
    "capabilities", "resources", "state", "lifecycle", "source", "license", "privacy",
    "verification"]

def manifest : Schema :=
  allOf [closedObject manifestKeys
      [("schema_version", const (.string "vibapp.manifest.experimental-v0.0.1")),
        ("package_format", const (.string "vibapp.package.experimental-v0")),
        ("app", app), ("artifacts", artifacts), ("runtime", runtime),
        ("entrypoints", entrypoints), ("capabilities", capabilities), ("resources", resources),
        ("state", state), ("lifecycle", lifecycle), ("source", source), ("license", license),
        ("privacy", privacy), ("verification", verification)],
    kindConditions]

end Vibapp.Protocol.ManifestSchema
