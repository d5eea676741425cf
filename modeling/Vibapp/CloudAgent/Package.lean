import Vibapp.CloudAgent.Audit

/-!
# What a task asks for

The package and the target of a task with the checks of `validate_task_schema`, the checks of
`validate_cargo_manifest` and of `validate_provider_result`. A list that a check takes as a JSON
array of texts is a list of texts here, and a message about an item of a list does not say which.
`tomllib.loads` is a parameter.
-/

namespace Vibapp.CloudAgent

open ProviderRunner (hexText)

/-! ## Values -/

structure Entrypoint where
  id : String
  kind : String
  label : String
  initialRoute : Option String
  triggers : Option (List String)
deriving DecidableEq, Repr

structure PackageIntent where
  appId : String
  version : String
  displayName : String
  description : String
  entrypoints : List Entrypoint
deriving DecidableEq, Repr

structure Target where
  contract : String
  wasi : String
  rustTarget : String
  witWorld : String
  appKind : String
  profiles : List String
  requiredImports : List String
  requiredCapabilities : List String
deriving DecidableEq, Repr

/-- What a handoff takes from a task. -/
structure Intent where
  needSpecDigestSha256 : String
  packageIntent : PackageIntent
  target : Target
deriving DecidableEq, Repr

/-! ## Constants -/

/-- `WORLD_IMPORTS`. -/
def worldImports : List (String × List String) :=
  [("ui-only-reference",
      ["vibapp:experimental-v0/clock@0.0.1", "vibapp:experimental-v0/kv@0.0.1",
        "vibapp:experimental-v0/log@0.0.1", "vibapp:experimental-v0/host-info@0.0.1",
        "vibapp:experimental-v0/settings@0.0.1"]),
    ("service-only-reference",
      ["vibapp:experimental-v0/clock@0.0.1", "vibapp:experimental-v0/scheduler@0.0.1",
        "vibapp:experimental-v0/kv@0.0.1", "vibapp:experimental-v0/log@0.0.1",
        "vibapp:experimental-v0/host-info@0.0.1", "vibapp:experimental-v0/settings@0.0.1",
        "vibapp:experimental-v0/system-metrics@0.0.1", "vibapp:experimental-v0/http@0.0.1"]),
    ("hybrid-reference",
      ["vibapp:experimental-v0/clock@0.0.1", "vibapp:experimental-v0/scheduler@0.0.1",
        "vibapp:experimental-v0/notification@0.0.1", "vibapp:experimental-v0/kv@0.0.1",
        "vibapp:experimental-v0/log@0.0.1", "vibapp:experimental-v0/host-info@0.0.1",
        "vibapp:experimental-v0/settings@0.0.1"]),
    ("web-preview-reference",
      ["vibapp:experimental-v0/clock@0.0.1", "vibapp:experimental-v0/scheduler@0.0.1",
        "vibapp:experimental-v0/kv@0.0.1", "vibapp:experimental-v0/log@0.0.1",
        "vibapp:experimental-v0/host-info@0.0.1", "vibapp:experimental-v0/settings@0.0.1",
        "vibapp:experimental-v0/system-metrics@0.0.1", "vibapp:experimental-v0/http@0.0.1"])]

/-- `WORLD_KIND`. -/
def worldKind : List (String × String) :=
  [("ui-only-reference", "ui"), ("service-only-reference", "service"),
    ("hybrid-reference", "hybrid")]

/-- `SERVICE_TRIGGER_ORDER`. -/
def serviceTriggerOrder : List String := ["on-enable", "scheduler", "manual"]

/-! ## Lexical classes -/

/-- `text_value`. -/
def textValue (value context : String) (minimum maximum : Nat) : Except WorkerError Unit := do
  require (minimum ≤ value.toList.length && value.toList.length ≤ maximum) "schema-invalid"
    (context ++ " must be a string length " ++ toString minimum ++ ".." ++ toString maximum)
  require (value.toList.all fun c => 0x20 ≤ c.toNat || c = '\t' || c = '\n') "schema-invalid"
    (context ++ " contains a control character")

def isLowerAlnum (c : Char) : Bool := c.isLower || c.isDigit

/-- `APP_IDENTIFIER`. -/
def isAppIdentifier (text : String) : Bool :=
  let parts := text.toList.splitOnP fun c => c = '.' || c = '-'
  (text.toList.head?.any Char.isLower) &&
    parts.all fun part => part ≠ [] && part.all isLowerAlnum

/-- `SEMVER`. -/
def isSemver (text : String) : Bool :=
  let parts := text.toList.splitOn '.'
  parts.length = 3 && parts.all fun part =>
    part ≠ [] && part.all Char.isDigit && (part = ['0'] || part.head? ≠ some '0')

/-- `triggers` names the triggers of a service in their order. -/
def isCanonicalTriggers (triggers : List String) : Bool :=
  triggers ≠ [] && triggers.length ≤ serviceTriggerOrder.length &&
    triggers = serviceTriggerOrder.filter fun trigger => triggers.contains trigger

/-- `string_array`. -/
def stringArray (values : List String) (context : String) (maximum : Nat)
    (allowed : Option (List String)) : Except WorkerError Unit := do
  require (values.length ≤ maximum) "schema-invalid"
    (context ++ " must be an array with at most " ++ toString maximum ++ " items")
  values.forM fun value => do
    textValue value context 1 1000
    require (allowed.all fun allowed => allowed.contains value) "schema-invalid"
      (context ++ " has unsupported value")
  require (values.Nodup : Bool) "schema-invalid" (context ++ " contains duplicates")

/-! ## The package -/

/-- The turn for an entrypoint. -/
def validateEntrypoint (entrypoint : Entrypoint) : Except WorkerError Unit := do
  identifier entrypoint.id "entrypoint.id"
  require (["launcher-ui", "service", "settings"].contains entrypoint.kind) "schema-invalid"
    "entrypoint.kind is unsupported"
  textValue entrypoint.label "entrypoint.label" 1 80
  require (entrypoint.initialRoute.all Launcher.isId) "schema-invalid"
    "entrypoint.initial_route is not a bounded identifier"
  require (!(entrypoint.kind = "launcher-ui" && entrypoint.initialRoute.isNone)) "need-incomplete"
    "launcher-ui entrypoint requires an initial route"
  require (!(entrypoint.kind = "service" && entrypoint.initialRoute.isSome)) "schema-invalid"
    "service entrypoint cannot have an initial route"
  if entrypoint.kind = "service" then
    require (isCanonicalTriggers (entrypoint.triggers.getD ["manual"])) "schema-invalid"
      "entrypoint.triggers must be a canonical non-empty service trigger subset"
  else
    require entrypoint.triggers.isNone "schema-invalid"
      "entrypoint.triggers is valid only for a service entrypoint"

def validatePackage (package : PackageIntent) : Except WorkerError Unit := do
  require (isAppIdentifier package.appId) "schema-invalid"
    "package_intent.app_id is not a VibApp identifier"
  require (isSemver package.version) "schema-invalid"
    "package_intent.version must be a simple semantic version"
  textValue package.displayName "package_intent.display_name" 1 80
  textValue package.description "package_intent.description" 1 1000
  require (1 ≤ package.entrypoints.length && package.entrypoints.length ≤ 16) "schema-invalid"
    "package_intent.entrypoints must contain 1..16 items"
  package.entrypoints.forM validateEntrypoint
  require ((package.entrypoints.map Entrypoint.id).Nodup : Bool) "schema-invalid"
    "package_intent entrypoint IDs must be unique"

/-! ## The target -/

/-- The entrypoints that an app kind asks for. -/
def matchesKind (appKind : String) (kinds : List String) : Bool :=
  !(appKind = "ui" && (!kinds.contains "launcher-ui" || kinds.contains "service")) &&
    !(appKind = "service" && (!kinds.contains "service" || kinds.contains "launcher-ui")) &&
      !(appKind = "hybrid" && !(kinds.contains "launcher-ui" && kinds.contains "service"))

def validateTarget (package : PackageIntent) (target : Target) : Except WorkerError Unit := do
  require (target.contract = "vibapp:experimental-v0@0.0.1") "schema-invalid"
    "unsupported target contract"
  require (target.wasi = "0.2" && target.rustTarget = "wasm32-wasip2") "schema-invalid"
    "target must be Rust wasm32-wasip2 / WASI 0.2"
  require (worldImports.lookup target.witWorld).isSome "schema-invalid" "unsupported WIT world"
  require (["ui", "service", "hybrid"].contains target.appKind) "schema-invalid"
    "unsupported app kind"
  require ((worldKind.lookup target.witWorld).all (target.appKind = ·)) "schema-invalid"
    "WIT world and app kind disagree"
  require (matchesKind target.appKind (package.entrypoints.map Entrypoint.kind))
    "need-incomplete" "package intent entrypoints disagree with the app kind"
  stringArray target.profiles "target.profiles" 4
    (some ["desktop", "web-preview", "web-runtime", "headless"])
  require (target.profiles ≠ []) "schema-invalid" "target.profiles cannot be empty"
  stringArray target.requiredImports "target.required_imports" 8 none
  require (worldImports.lookup target.witWorld = some target.requiredImports) "schema-invalid"
    "target.required_imports must exactly match the selected WIT world"
  stringArray target.requiredCapabilities "target.required_capabilities" 8 none
  require (target.requiredCapabilities.all target.requiredImports.contains) "schema-invalid"
    "target.required_capabilities must be a subset of structural required_imports"

/-- The checks of `validate_task_schema` on the parts of a handoff. -/
def validateIntent (intent : Intent) (limits : Limits) : Except WorkerError Unit := do
  sha256Value intent.needSpecDigestSha256 "task.need_spec_digest_sha256"
  validatePackage intent.packageIntent
  validateTarget intent.packageIntent intent.target
  require (1024 ≤ limits.sourceBytes && limits.sourceBytes ≤ 16777216 &&
    2 ≤ limits.sourceFiles && limits.sourceFiles ≤ 256) "schema-invalid"
    "limits.source_bytes or limits.source_files is out of range"

/-- `validate_task_file` of a task with its package and target. -/
def validateWholeTask (ctx : TaskContext Intent) (task : Task Intent) : Except WorkerError Unit := do
  validateTaskFile ctx task
  validateIntent task.rest task.limits

/-! ## The scaffold -/

/-- The members of an object are those that are expected. -/
def hasKeys (value : Json) (keys : List String) : Bool :=
  match value with
  | .obj members =>
    (members.map Prod.fst).all keys.contains && keys.all (members.map Prod.fst).contains
  | _ => false

def member (value : Json) (key : String) : Json := (value.get? key).getD .null

/-- The text of a value, if it is one. -/
def asText : Json → Option String
  | .str text => some text
  | _ => none

def isFalse : Json → Bool
  | .bool false => true
  | _ => false

/-- The texts of an array, if it is one of texts. -/
def asTexts : Json → Option (List String)
  | .arr items => items.mapM asText
  | _ => none

/-- `[a-z][a-z0-9_-]{0,63}`. -/
def isCargoName (text : String) : Bool :=
  match text.toList with
  | [] => false
  | c :: rest =>
    c.isLower && rest.length ≤ 63 && rest.all fun c => isLowerAlnum c || c = '_' || c = '-'

def packageKeys : List String :=
  ["name", "version", "edition", "publish", "autobins", "autoexamples", "autotests",
    "autobenches"]

def expectedFeatures : List String := ["bitflags", "macro-string", "macros", "realloc"]

/-- `cargo_package_name`, for an identifier. -/
def cargoPackageName (sha256 : List UInt8 → List UInt8) (appId : String) : String :=
  let candidate := appId.toList.map fun c => if c = '.' then '_' else c
  if candidate.length ≤ 64 then String.ofList candidate
  else
    String.ofList (candidate.take 51 ++ '-' ::
      (hexText (sha256 appId.toUTF8.toList)).toList.take 12)

/-- `validate_cargo_manifest`. -/
def validateCargoManifest (sha256 : List UInt8 → List UInt8) (tomlLoads : List UInt8 → Option Json)
    (data : List UInt8) (package : PackageIntent) : Except WorkerError Unit :=
  match tomlLoads data with
  | none => .error { code := "source-invalid", message := "Cargo.toml is invalid" }
  | some manifest => do
    require (hasKeys manifest ["package", "lib", "dependencies"]) "source-invalid"
      "Cargo.toml permits only [package], [lib], and [dependencies]"
    let cargo := member manifest "package"
    let lib := member manifest "lib"
    let dependencies := member manifest "dependencies"
    require (hasKeys cargo packageKeys) "source-invalid"
      "Cargo [package] fields are not the closed policy shape"
    require ((asText (member cargo "name")).any isCargoName) "source-invalid"
      "Cargo package.name is invalid"
    require ((asText (member cargo "version")).any isSemver) "source-invalid"
      "Cargo package.version is invalid"
    require (asText (member cargo "edition") = some "2024" && isFalse (member cargo "publish"))
      "source-invalid" "Cargo package must use edition=2024 and publish=false"
    require (["autobins", "autoexamples", "autotests", "autobenches"].all fun key =>
      isFalse (member cargo key)) "source-invalid"
      "all Cargo automatic target discovery must be disabled"
    require (hasKeys lib ["crate-type"] && asTexts (member lib "crate-type") = some ["cdylib"])
      "source-invalid" "Cargo [lib] must contain only crate-type=[cdylib]"
    require (hasKeys dependencies ["wit-bindgen"]) "source-invalid"
      "Cargo.toml may depend only on exact wit-bindgen"
    let wit := member dependencies "wit-bindgen"
    require (hasKeys wit ["version", "default-features", "features"]) "source-invalid"
      "wit-bindgen dependency fields are not exact"
    require (asText (member wit "version") = some "=0.60.0" &&
      isFalse (member wit "default-features") &&
        asTexts (member wit "features") = some expectedFeatures) "source-invalid"
      "wit-bindgen pin/features disagree with the accepted toolchain"
    require (asText (member cargo "name") = some (cargoPackageName sha256 package.appId))
      "source-invalid" "Cargo package.name does not match task.package_intent.app_id"
    require (asText (member cargo "version") = some package.version) "source-invalid"
      "Cargo package.version does not match task.package_intent.version"

/-! ## The provider's result -/

structure ProviderResult where
  schemaVersion : String
  documentType : String
  jobId : String
  status : String
  summary : String
  witWorld : String
  appKind : String
  declaredCapabilities : List String
  sourceFiles : List String
  unresolved : List String
deriving DecidableEq, Repr

/-- `validate_provider_result`. -/
def validateProviderResult (result : ProviderResult) (task : Task Intent) :
    Except WorkerError Unit := do
  require (result.schemaVersion = "vibapp.cloud-codeagent-provider-result.experimental-v1")
    "provider-schema-invalid" "provider result schema_version is unsupported"
  require (result.documentType = "cloud-codeagent-provider-result" &&
      result.status = "source-generated") "provider-schema-invalid"
    "provider result document/status is unsupported"
  require (result.jobId = task.jobId) "provider-schema-invalid"
    "provider result job_id is not bound to the task"
  textValue result.summary "provider result summary" 1 1000
  require (result.witWorld = task.rest.target.witWorld &&
      result.appKind = task.rest.target.appKind) "provider-schema-invalid"
    "provider result target disagrees with the task"
  require (5 ≤ result.declaredCapabilities.length && result.declaredCapabilities.length ≤ 8)
    "provider-schema-invalid" "provider declared_capabilities must contain 5..8 bounded strings"
  require (result.declaredCapabilities.all fun capability =>
      1 ≤ capability.toList.length && capability.toList.length ≤ 200 &&
        capability.toList.all fun c => 0x20 ≤ c.toNat || c = '\t' || c = '\n')
    "provider-schema-invalid" "provider declared_capabilities is not a bounded string"
  require (result.declaredCapabilities.Nodup : Bool) "provider-schema-invalid"
    "provider declared_capabilities contains duplicates"
  stringArray result.sourceFiles "provider result source_files" task.limits.sourceFiles none
  require (2 ≤ result.sourceFiles.length) "provider-schema-invalid"
    "provider must report at least two source files"
  require (result.sourceFiles.all isSourcePath) "provider-schema-invalid"
    "provider result source_files contains an invalid source-path segment"
  stringArray result.unresolved "provider result unresolved" 32 none
  require (result.unresolved = []) "source-incomplete" "provider reported unresolved source issues"

end Vibapp.CloudAgent
