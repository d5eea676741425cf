import Vibapp.Daemon.Canonical
import Vibapp.Protocol.Admission

/-!
# Verification of a candidate package

`verifyCandidate` binds a promotion record to the bytes of a package and reads the manifest;
`requireActivationCapabilities` decides whether the local host can activate it. The directory
is taken as the daemon sees it once every file is known to be regular, bounded and owned: the
manifest as parsed, and each file with its digest and size (`PackageDir`). SHA-256 and the
Unicode folding of names are parameters (`Host`).
-/

namespace Vibapp.Daemon

/-- `hashlib.sha256(data).hexdigest()` and `normalize("NFKC", text).casefold()`. -/
structure Host where
  sha256 : List UInt8 → String
  nfkcCasefold : String → String

def maxManifestBytes : Nat := 1024 * 1024
def maxPackageFiles : Nat := 256
def maxPackageBytes : Nat := 64 * 1024 * 1024

/-! ## Rows and descriptors -/

/-- A loop over rows that must be dictionaries with distinct texts under `key`. -/
def uniqueRows (key malformed invalid : String) :
    List Json → List (String × List (String × Json)) →
      Py (List (String × List (String × Json)))
  | [], rows => pure rows
  | .obj row :: rest, rows =>
    match field row key with
    | .str name =>
      if name ∈ rows.map Prod.fst then fail "incompatible-contract" invalid
      else uniqueRows key malformed invalid rest (rows ++ [(name, row)])
    | _ => fail "incompatible-contract" invalid
  | _ :: _, _ => fail "incompatible-contract" malformed

/-- `artifact` of a manifest: its path, digest and size. -/
structure Descriptor where
  path : String
  sha256 : String
  sizeBytes : Int
deriving DecidableEq, Inhabited

/-- `_descriptor`. -/
def descriptor (value : Json) (expectedPath : Option String := none) : Py Descriptor := do
  let members ← asDict value "integrity-failure" "artifact descriptor must be an object"
  let path ← safeRelativePath (field members "path")
  if expectedPath.any (path ≠ ·) then
    fail "integrity-failure" ("artifact path must be " ++ expectedPath.getD "")
  else
    match asInt (field members "size_bytes") with
    | some size =>
      if size ≤ 0 ∨ size > maxPackageBytes then
        fail "integrity-failure" (path ++ ".size_bytes is invalid")
      else return ⟨path, ← digest (field members "sha256") (path ++ ".sha256"), size⟩
    | none => fail "integrity-failure" (path ++ ".size_bytes is invalid")

/-- The descriptors of one browser derivation. -/
def derivationDescriptors (derivation : Json) : Py (List Descriptor) :=
  match derivation with
  | .obj members =>
    match field members "files" with
    | .arr files => do
      let entries ← files.mapM descriptor
      return entries ++ [← descriptor (field members "derivation_attestation")]
    | _ => fail "incompatible-contract" "browser derivation is malformed"
  | _ => fail "incompatible-contract" "browser derivation is malformed"

/-- `_manifest_descriptors`. -/
def manifestDescriptors (manifest : List (String × Json)) : Py (List Descriptor) := do
  let artifacts ←
    asDict (field manifest "artifacts") "incompatible-contract" "manifest.artifacts is missing"
  let component ← descriptor (field artifacts "canonical_component") "component.wasm"
  let assets ← asList (field artifacts "assets") "incompatible-contract"
    "manifest artifact arrays are malformed"
  let derivations ← asList (field artifacts "browser_derivations") "incompatible-contract"
    "manifest artifact arrays are malformed"
  let assetDescriptors ← assets.mapM descriptor
  let derived ← derivations.mapM derivationDescriptors
  let provenance ← descriptor (field artifacts "provenance") "provenance.json"
  let sbom ← descriptor (field artifacts "sbom") "sbom.cdx.json"
  let descriptors := component :: assetDescriptors ++ derived.flatten ++ [provenance, sbom]
  if ¬ (descriptors.map (·.path)).Nodup then
    fail "integrity-failure" "manifest contains duplicate artifact paths"
  else return descriptors

/-! ## The package tree -/

/-- A package directory as `_verify_package_tree` reads it. -/
structure PackageDir where
  manifest : Json
  manifestSha256 : String
  manifestSize : Nat
  files : List Descriptor

/-- `n` in `width` bytes, most significant first. -/
def packBE (width n : Nat) : List UInt8 :=
  (List.range width).reverse.map fun i => UInt8.ofNat (n / 256 ^ i)

/-- `bytes.fromhex` of a digest. -/
def fromHex : List Char → List UInt8
  | h :: l :: rest => UInt8.ofNat (16 * Json.hexVal h + Json.hexVal l) :: fromHex rest
  | _ => []

/-- The bytes of `VIBAPP-PACKAGE\0experimental-v0\0`. -/
def packageMagic : List UInt8 :=
  "VIBAPP-PACKAGE".toUTF8.data.toList ++ 0 :: "experimental-v0".toUTF8.data.toList ++ [0]

/-- What a descriptor adds to the preimage of the package digest. -/
def descriptorBytes (d : Descriptor) : List UInt8 :=
  let path := d.path.toUTF8.data.toList
  packBE 2 path.length ++ path ++ fromHex d.sha256.toList ++ packBE 8 d.sizeBytes.toNat

/-- `_verify_package_tree`, after the checks of the file system. -/
def verifyPackageTree (host : Host) (package : PackageDir) (record : List (String × Json)) :
    Py (List (String × Json) × String) := do
  let manifestRecord ← descriptor (field record "manifest") "manifest.json"
  let componentRecord ← descriptor (field record "component") "component.wasm"
  raiseIf (package.manifestSha256 ≠ manifestRecord.sha256 ∨
      (package.manifestSize : Int) ≠ manifestRecord.sizeBytes)
    "integrity-failure" "manifest bytes do not match verifier promotion"
  let manifest ← asDict package.manifest "unsupported-version"
    "manifest contract or package format is unsupported"
  raiseIf (
      asStr (field manifest "schema_version") ≠ some "vibapp.manifest.experimental-v0.0.1" ∨
      asStr (field manifest "package_format") ≠ some "vibapp.package.experimental-v0")
    "unsupported-version" "manifest contract or package format is unsupported"
  let descriptors ← manifestDescriptors manifest
  raiseIf (package.files.length > maxPackageFiles ∨
      (package.files.map (·.sizeBytes)).sum > maxPackageBytes)
    "resource-limit" "candidate package exceeds file or byte limits"
  let expected := "manifest.json" :: descriptors.map (·.path)
  let observed := package.files.map (·.path)
  raiseIf (¬ (observed.all expected.contains && expected.all observed.contains))
    "integrity-failure" "candidate package has missing or extra files"
  descriptors.forM fun d => do
    raiseIf (¬ package.files.contains d)
      "integrity-failure" ("artifact bytes differ from manifest: " ++ d.path)
  raiseIf (some componentRecord ≠ descriptors.find? (·.path = "component.wasm"))
    "integrity-failure" "verifier component descriptor differs from manifest"
  let canonical ← canonicalJson (.obj manifest)
  let sorted := descriptors.insertionSort fun a b => a.path ≤ b.path
  let preimage := packageMagic ++ packBE 8 canonical.size ++ canonical.data.toList ++
    sorted.flatMap descriptorBytes
  return (manifest, host.sha256 preimage)

/-! ## Presentation and capabilities -/

/-- A host presentation, without its schema version. -/
structure Presentation where
  preferredWidth : Int
  preferredHeight : Int
  minimumWidth : Int
  minimumHeight : Int
  resizable : Bool
deriving DecidableEq

/-- `_derive_host_presentation`. -/
def deriveHostPresentation (host : Host) (appKind displayName description : String) :
    Py Presentation := do
  raiseIf (appKind ∉ ["ui", "service", "hybrid"])
    "incompatible-contract" "presentation app kind is unsupported"
  let normalized := (host.nfkcCasefold (displayName ++ "\n" ++ description)).toList
  let mentions (markers : List String) : Bool :=
    markers.any fun marker => containsChars marker.toList normalized
  if appKind = "service" then return ⟨720, 480, 480, 320, false⟩
  else if mentions ["clock", "timer", "stopwatch", "counter", "calculator", "reminder", "时钟",
      "计时", "秒表", "倒计时", "计数器", "计算器", "提醒"] then
    return ⟨520, 300, 420, 240, true⟩
  else if mentions ["dashboard", "workspace", "editor", "studio", "inventory", "kanban", "看板",
      "工作台", "编辑器", "库存", "管理台"] then return ⟨1120, 760, 720, 480, true⟩
  else if appKind = "hybrid" then return ⟨1040, 720, 640, 420, true⟩
  else return ⟨900, 640, 480, 360, true⟩

/-- One bounded dimension of a presentation. -/
def presentationBound (members : List (String × Json)) (name : String) (minimum maximum : Int) :
    Py Int :=
  match asInt (field members name) with
  | some item =>
    if minimum ≤ item ∧ item ≤ maximum then .ok item
    else fail "resource-limit" ("presentation." ++ name ++ " is outside the host bound")
  | none => fail "resource-limit" ("presentation." ++ name ++ " is outside the host bound")

/-- `_host_presentation`. -/
def hostPresentation (host : Host) (value : Json) (appKind displayName description : String) :
    Py Presentation :=
  match value with
  | .null => deriveHostPresentation host appKind displayName description
  | .obj members => do
    raiseIf (¬ hasExactly members ["schema_version", "preferred_width", "preferred_height",
        "minimum_width", "minimum_height", "resizable"])
      "integrity-failure" "presentation fields are malformed"
    raiseIf (
        asStr (field members "schema_version") ≠ some "vibapp.host-presentation.experimental-v1")
      "unsupported-version" "presentation schema is unsupported"
    let preferredWidth ← presentationBound members "preferred_width" 320 1920
    let preferredHeight ← presentationBound members "preferred_height" 240 1200
    let minimumWidth ← presentationBound members "minimum_width" 320 1280
    let minimumHeight ← presentationBound members "minimum_height" 240 960
    raiseIf (preferredWidth < minimumWidth ∨ preferredHeight < minimumHeight)
      "incompatible-contract" "presentation preferred size is below its minimum"
    match asBool (field members "resizable") with
    | some resizable =>
      return ⟨preferredWidth, preferredHeight, minimumWidth, minimumHeight, resizable⟩
    | none => fail "integrity-failure" "presentation.resizable is not boolean"
  | _ => fail "integrity-failure" "presentation fields are malformed"

/-- The loop of `_capability_interfaces`. -/
def capabilityInterfacesFrom : List Json → List String → Py (List String)
  | [], interfaces => pure interfaces
  | .obj capability :: rest, interfaces => do
    let interface ← boundedText (field capability "interface") "capability.interface" 256
    if interface ∈ interfaces then
      fail "incompatible-contract" "manifest capability interface is duplicated"
    else capabilityInterfacesFrom rest (interfaces ++ [interface])
  | _ :: _, _ => fail "incompatible-contract" "manifest capability row is malformed"

/-- `_capability_interfaces`. -/
def capabilityInterfaces (value : Json) : Py (List String) := do
  let rows ← asList value "incompatible-contract" "manifest capability list is malformed"
  if rows.length > 64 then
    fail "incompatible-contract" "manifest capability list is malformed"
  else capabilityInterfacesFrom rows []

/-- An entrypoint as the daemon keeps it. `triggers` and the interval are those of a service. -/
structure EntrypointRecord where
  id : String
  kind : String
  initialRoute : Json
  triggers : List String
  healthCheckIntervalSeconds : Option Int

/-- `VerifiedCandidate`, without its paths. -/
structure VerifiedCandidate where
  packageDigest : String
  componentDigest : String
  manifestDigest : String
  appId : String
  appVersion : String
  appKind : String
  displayName : String
  publisherId : String
  publisherDisplayName : String
  uiEntrypoints : List EntrypointRecord
  serviceEntrypoints : List EntrypointRecord
  allowedDispositions : List String
  defaultDisposition : String
  runtimeWorld : String
  stateSchema : Int
  migratableFromMin : Int
  migratableFromMax : Int
  capabilityContract : ByteArray
  kvStorageLimitBytes : Option Int
  permissions : List String
  presentation : Presentation
  manifest : Json

/-- A verification check of the promotion record. -/
def verifyCheck (check : Json) : Py Unit :=
  match check with
  | .obj members => do
    raiseIf (¬ hasExactly members ["id", "outcome", "tool", "detail"] ∨
        asStr (field members "outcome") ≠ some "pass")
      "integrity-failure" "not every independent verification check passed"
    let _ ← boundedText (field members "id") "verification.check.id" 128
    let _ ← boundedText (field members "tool") "verification.check.tool" 256
    let _ ← boundedText (field members "detail") "verification.check.detail" 1000
  | _ => fail "integrity-failure" "not every independent verification check passed"

/-- `LOCAL_HOST_CAPABILITY_AVAILABILITY`. -/
def localHostCapabilityAvailability : List (String × Protocol.Availability) :=
  [(Protocol.clock, .brokered), (Protocol.scheduler, .unavailable),
    (Protocol.notification, .unavailable), (Protocol.kv, .brokered), (Protocol.log, .brokered),
    (Protocol.hostInfo, .brokered), (Protocol.settings, .brokered),
    (Protocol.systemMetrics, .unavailable), (Protocol.http, .unavailable)]

/-- `STUB_CAPABILITY_AVAILABILITY`. -/
def isStub (a : Protocol.Availability) : Bool := a = .denied || a = .unavailable

/-- `LIVE_CAPABILITY_AVAILABILITY`. -/
def isLive (a : Protocol.Availability) : Bool := a = .native || a = .brokered

/-- The availability a manifest row declares. -/
def declaredAvailability (value : Json) : Option Protocol.Availability :=
  match asStr value with
  | some "native" => some .native
  | some "brokered" => some .brokered
  | some "mock" => some .mock
  | some "denied" => some .denied
  | some "unavailable" => some .unavailable
  | _ => none

/-- What the host offers for `interface`, KV only with a storage limit. -/
def hostAvailability (kvStorageLimitBytes : Option Int) (interface : String) :
    Option Protocol.Availability :=
  match localHostCapabilityAvailability.lookup interface with
  | none => none
  | some host =>
    if interface = Protocol.kv ∧ kvStorageLimitBytes = none then some .unavailable else some host

/-- The loop of `_require_activation_capabilities` over the imports, for one capability. -/
def requireCapability (kvStorageLimitBytes : Option Int) (profile : String)
    (profileNames : List String) (interface : String) (capability : List (String × Json)) :
    Py Unit := do
  let necessity := asStr (field capability "necessity")
  raiseIf (necessity ≠ some "required" ∧ necessity ≠ some "degradable")
    "incompatible-contract" "installed capability necessity is invalid"
  let profileRows ← asList (field capability "profiles") "incompatible-contract"
    "installed capability profile metadata is malformed"
  let byProfile ← uniqueRows "profile"
    "installed capability profile row is malformed"
    "installed capability profiles are invalid or duplicated"
    profileRows []
  raiseIf (¬ (byProfile.all (fun row => profileNames.contains row.1) &&
      profileNames.all (byProfile.map Prod.fst).contains))
    "incompatible-contract" "installed capability profile coverage differs from the runtime"
  match declaredAvailability (field ((byProfile.lookup profile).getD []) "availability") with
  | none => fail "incompatible-contract" "installed capability availability is invalid"
  | some declared =>
    match hostAvailability kvStorageLimitBytes interface with
    | none => fail "missing-interface" ("local host does not link " ++ interface)
    | some host =>
      raiseIf (declared = .mock)
        "incompatible-contract"
        ("desktop activation cannot use a mock " ++ interface ++ " capability")
      raiseIf (isStub host ∧ isLive declared)
        "incompatible-contract" ("manifest advertises live " ++ interface ++
          " authority that the local host does not provide")
      let effective := if isStub host then host else declared
      raiseIf (necessity = some "required" ∧ effective = .denied)
        "permission-denied" ("required capability is denied for " ++ profile ++ ": " ++ interface)
      raiseIf (necessity = some "required" ∧ effective = .unavailable)
        "capability-unavailable"
        ("required capability is unavailable for " ++ profile ++ ": " ++ interface)

/-- `_require_activation_capabilities`, of the installed manifest. -/
def requireActivationCapabilities (manifest : Json) (kvStorageLimitBytes : Option Int)
    (profile : String := "desktop") : Py Unit := do
  let manifest ← asDict manifest "incompatible-contract"
    "installed manifest lacks runtime capability metadata"
  let runtime ← asDict (field manifest "runtime") "incompatible-contract"
    "installed manifest lacks runtime capability metadata"
  let capabilities ← asList (field manifest "capabilities") "incompatible-contract"
    "installed manifest lacks runtime capability metadata"
  let runtimeProfiles ← asList (field runtime "profiles") "incompatible-contract"
    "installed runtime profile/import metadata is malformed"
  let imports ← asList (field runtime "required_imports") "incompatible-contract"
    "installed runtime profile/import metadata is malformed"
  let profileRows ← uniqueRows "profile"
    "installed runtime profile row is malformed"
    "installed runtime profiles are invalid or duplicated"
    runtimeProfiles []
  let profileNames := profileRows.map Prod.fst
  raiseIf (profile ∉ profileNames)
    "unsupported-surface" ("installed package does not support the " ++ profile ++ " profile")
  let requiredImports := imports.filterMap asStr
  raiseIf (requiredImports.length ≠ imports.length ∨ ¬ requiredImports.Nodup)
    "incompatible-contract" "installed required imports are invalid or duplicated"
  let capabilityRows ← uniqueRows "interface"
    "installed capability row is malformed"
    "installed capability interfaces are invalid or duplicated"
    capabilities []
  raiseIf (¬ (capabilityRows.all (fun row => requiredImports.contains row.1) &&
      requiredImports.all (capabilityRows.map Prod.fst).contains))
    "incompatible-contract" "installed capabilities do not equal the runtime required imports"
  requiredImports.forM fun interface =>
    requireCapability kvStorageLimitBytes profile profileNames interface
      ((capabilityRows.lookup interface).getD [])

end Vibapp.Daemon
