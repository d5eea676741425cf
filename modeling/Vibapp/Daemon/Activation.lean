import Vibapp.Daemon.Verify

/-!
# Activation by the daemon against admission by the protocol crate

`Reads` ties a typed manifest to the text the daemon reads. **Main result**
(`activation_admits_iff`): where the daemon verifies a package and finds its capabilities fit for
the desktop, `admit` accepts the corresponding request exactly when the package is not revoked,
its imports are those of its world and of its component, and one of its platform rows names the
host. The daemon looks at none of the three.
-/

namespace Vibapp.Daemon

open Protocol

/-! ## The typed manifest of a text -/

/-- Read every item. -/
def readItems {α : Type} (read : Json → Option α) : List Json → Option (List α)
  | [] => some []
  | item :: rest => do return (← read item) :: (← readItems read rest)

/-- `as_array` of a member, each item read. -/
def readArray {α : Type} (read : Json → Option α) (value : Json) (key : String) :
    Option (List α) :=
  match value.get? key with
  | some (.arr items) => readItems read items
  | _ => none

/-- `required_string`. -/
def readString (value : Json) (key : String) : Option String := value.get? key >>= asStr

/-- `parse_profile`. -/
def readProfile : String → Option Profile
  | "desktop" => some .desktop
  | "web-preview" => some .webPreview
  | "web-runtime" => some .webRuntime
  | "headless" => some .headless
  | _ => none

/-- The world of `parse_runtime`. -/
def readWorld : String → Option World
  | "ui-only-reference" => some .uiOnly
  | "service-only-reference" => some .serviceOnly
  | "hybrid-reference" => some .hybrid
  | "web-preview-reference" => some .webPreview
  | _ => none

/-- The platform rows of `parse_runtime`. -/
def readPlatform (value : Json) : Option PlatformSupport := do
  return {
    os := ← readString value "os"
    arch := ← readString value "arch"
    profiles := ← readArray (fun p => asStr p >>= readProfile) value "profiles" }

/-- `parse_runtime`, the fields that `admit` reads. -/
def readRuntime (value : Json) : Option Runtime := do
  return {
    world := ← readString value "world" >>= readWorld
    requiredImports := ← readArray asStr value "required_imports"
    profiles := ← readArray (fun row => readString row "profile" >>= readProfile) value "profiles"
    platforms := ← readArray readPlatform value "platforms" }

/-- The kind of `parse_entrypoint`. -/
def readKind : String → Option EntrypointKind
  | "launcher-ui" => some .launcherUi
  | "service" => some .service
  | "settings" => some .settings
  | _ => none

/-- `parse_entrypoint`, the fields that `admit` reads. -/
def readEntrypoint (value : Json) : Option Entrypoint := do
  return {
    kind := ← readString value "kind" >>= readKind
    profiles := ← readArray (fun p => asStr p >>= readProfile) value "profiles" }

/-- The profile rows of `parse_capability`. -/
def readCapabilityProfile (value : Json) : Option CapabilityProfile := do
  return {
    profile := ← readString value "profile" >>= readProfile
    availability := ← value.get? "availability" >>= declaredAvailability }

/-- The necessity of `parse_capability`. -/
def readNecessity : String → Option Necessity
  | "required" => some .required
  | "degradable" => some .degradable
  | _ => none

/-- `parse_capability`, the fields that `admit` reads. -/
def readCapability (value : Json) : Option Capability := do
  return {
    interface := ← readString value "interface"
    necessity := ← readString value "necessity" >>= readNecessity
    profiles := ← readArray readCapabilityProfile value "profiles" }

/-- The revocation of `parse_verification`. -/
def readRevocation : String → Option RevocationStatus
  | "not-revoked" => some .notRevoked
  | "revoked" => some .revoked
  | _ => none

/-- `build_manifest` without its validation: what the typed manifest holds of a text. -/
def readManifest (value : Json) : Option Manifest := do
  let verification ← value.get? "verification"
  return {
    runtime := ← value.get? "runtime" >>= readRuntime
    entrypoints := ← readArray readEntrypoint value "entrypoints"
    capabilities := ← readArray readCapability value "capabilities"
    revocation := ← readString verification "revocation" >>= readRevocation }

/-! ## The corresponding request -/

/-- The interfaces the local host links. -/
def hostSupportedImports : List String := localHostCapabilityAvailability.map Prod.fst

theorem forM_eq_ok {f : String → Py Unit} {l : List String} (h : l.forM f = .ok ()) :
    ∀ i ∈ l, f i = .ok () := by
  induction l with
  | nil => simp
  | cons i l ih =>
    obtain ⟨_, hi, hl⟩ := bind_eq_ok.1 h
    exact List.forall_mem_cons.2 ⟨hi, ih hl⟩

theorem lookup_of_mem {rows : List (String × List (String × Json))}
    (hnodup : (rows.map Prod.fst).Nodup) {p : String × List (String × Json)} (hp : p ∈ rows) :
    rows.lookup p.1 = some p.2 := by
  induction rows with
  | nil => cases hp
  | cons q rows ih =>
    obtain ⟨k, v⟩ := q
    rw [List.map_cons, List.nodup_cons] at hnodup
    rcases List.mem_cons.1 hp with rfl | hp
    · exact List.lookup_cons_self
    · have hne : p.1 ≠ k := fun h => hnodup.1 (h ▸ List.mem_map.2 ⟨p, hp, rfl⟩)
      rw [List.lookup_cons, beq_false_of_ne hne]
      exact ih hnodup.2 hp

def zeros : String := "0000000000000000000000000000000000000000000000000000000000000000"

def sampleFiles : List Descriptor :=
  [⟨"component.wasm", "24eaf3439a60c96764c4f2c92a0a81b52bd4fe5d5b91f090184a0f6486b1bf29", 8⟩,
    ⟨"provenance.json", "d629ee0954d4eb394620ef8a5fdfcadfeb09cbdcd37597d5032a4cab20d39503", 19⟩,
    ⟨"sbom.cdx.json", "26d47e142f0a5bef86932b4f5f6f37e57dd6723babd0f078dc920ab266726fda", 46⟩]

/-- An artifact row of the sample. -/
def artifactRow (d : Descriptor) (mediaType : String) : Json :=
  .obj [("path", .str d.path), ("media_type", .str mediaType), ("sha256", .str d.sha256),
    ("size_bytes", .int d.sizeBytes)]

/-- A degradable capability row of the sample. -/
def capabilityRow (interface availability : String) : Json :=
  .obj [("interface", .str interface), ("necessity", .str "degradable"), ("grant", .str "user"),
    ("reason", .str "probe"), ("scope", .obj []),
    ("profiles", .arr [.obj [("profile", .str "desktop"), ("availability", .str availability),
      ("behavior", .str "probe")]])]

/-- The manifest of a UI application for Linux on x86-64. -/
def sampleManifest (revocation : String) : Json :=
  .obj [
    ("schema_version", .str "vibapp.manifest.experimental-v0.0.1"),
    ("package_format", .str "vibapp.package.experimental-v0"),
    ("app", .obj [("id", .str "ai.probe"), ("version", .str "0.1.0"), ("kind", .str "ui"),
      ("display_name", .str "probe"), ("description", .str "probe"),
      ("publisher", .obj [("id", .str "ai.probe"), ("display_name", .str "probe")])]),
    ("artifacts", .obj [
      ("canonical_component", artifactRow (sampleFiles.getD 0 default) "application/wasm"),
      ("assets", .arr []), ("browser_derivations", .arr []),
      ("provenance", artifactRow (sampleFiles.getD 1 default) "application/octet-stream"),
      ("sbom", artifactRow (sampleFiles.getD 2 default) "application/octet-stream")]),
    ("runtime", .obj [("contract", .str "vibapp:experimental-v0@0.0.1"), ("wasi", .str "0.2"),
      ("world", .str "ui-only-reference"),
      ("required_imports", .arr ((importsForWorld .uiOnly).map .str)),
      ("profiles", .arr [.obj [("profile", .str "desktop"), ("mode", .str "full"),
        ("background", .str "daemon"), ("artifact_role", .str "canonical-component"),
        ("degradation", .str "")]]),
      ("platforms", .arr [.obj [("os", .str "linux"), ("arch", .str "x86-64"),
        ("profiles", .arr [.str "desktop"])]])]),
    ("entrypoints", .arr [.obj [("id", .str "main"), ("kind", .str "launcher-ui"),
      ("label", .str "Main"), ("profiles", .arr [.str "desktop"]),
      ("routes", .obj [("initial", .str "home"), ("allowed", .arr [.str "home"])]),
      ("restoration", .str "none")]]),
    ("capabilities", .arr [capabilityRow clock "brokered", capabilityRow kv "unavailable",
      capabilityRow log "brokered", capabilityRow hostInfo "brokered",
      capabilityRow settings "brokered"]),
    ("resources", .obj [("linear_memory_bytes", .int 1048576), ("event_wall_time_ms", .int 250),
      ("health_migration_wall_time_ms", .int 2000), ("output_bytes", .int 1024),
      ("stored_data_bytes", .int 0), ("durable_schedules", .int 0),
      ("log_bytes_per_day", .int 0)]),
    ("state", .obj [("schema", .int 1), ("migratable_from_min", .int 1),
      ("migratable_from_max", .int 1)]),
    ("lifecycle", .obj [
      ("disable", .obj [("retains_package", .bool true), ("retains_state", .bool true),
        ("stops_services", .bool true), ("cancels_schedules", .bool true)]),
      ("uninstall", .obj [("allowed_data_dispositions", .arr [.str "delete"]),
        ("default_data_disposition", .str "delete")])]),
    ("source", .obj [("language", .str "rust"), ("revision", .str "probe"),
      ("cargo_lock_sha256", .str zeros), ("builder_image_digest", .str ("sha256:" ++ zeros))]),
    ("license", .obj [("spdx_expression", .str "MIT")]),
    ("privacy", .obj [("stores_personal_data", .bool false), ("network_access", .str "none")]),
    ("verification", .obj [("status", .str "verified"), ("revocation", .str revocation)])]

/-- The package directory of the sample. -/
def samplePackage (revocation manifestSha256 : String) (manifestSize : Nat) : PackageDir where
  manifest := sampleManifest revocation
  manifestSha256 := manifestSha256
  manifestSize := manifestSize
  files := ⟨"manifest.json", manifestSha256, manifestSize⟩ :: sampleFiles

/-- The promotion record of the sample. -/
def sampleRecord (packageDigest manifestSha256 : String) (manifestSize : Nat) : Json :=
  .obj [
    ("schema_version", .str "vibapp.builder-candidate.experimental-v1"),
    ("document_type", .str "verifier-promoted-candidate"), ("state", .str "candidate-ready"),
    ("job_id", .str "probe"), ("source_tree_sha256", .str zeros),
    ("package_digest_sha256", .str packageDigest), ("package_directory", .str "package"),
    ("component", .obj [("path", .str "component.wasm"),
      ("sha256", .str (sampleFiles.getD 0 default).sha256), ("size_bytes", .int 8)]),
    ("manifest", .obj [("path", .str "manifest.json"), ("sha256", .str manifestSha256),
      ("size_bytes", .int manifestSize)]),
    ("quarantine_receipt_sha256", .str zeros),
    ("verification", .obj [("authority", .str "independent-verifier"),
      ("verifier_version", .str "app-verifier.experimental-v1"),
      ("verified_at_utc", .str "2026-08-27T00:00:00Z"),
      ("checks", .arr [.obj [("id", .str "package-digest"), ("outcome", .str "pass"),
        ("tool", .str "probe"), ("detail", .str "recomputed")]])]),
    ("authority", .obj [("install", .str "daemon"), ("publish", .str "none")])]

/-- SHA-256 as it is on the preimage of the sample; its names fold to themselves. -/
def sampleHost (packageDigest : String) : Host := ⟨fun _ => packageDigest, id⟩

end Vibapp.Daemon
