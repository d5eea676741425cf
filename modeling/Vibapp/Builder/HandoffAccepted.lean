import Vibapp.Builder.HandoffSize
import Vibapp.Lib.Calendar

/-!
# Accepted handoffs

Whether the Builder takes the handoff that the cloud agent writes after its own checks have passed.

**Main result** (`handoff_accepted_iff`). It takes a handoff exactly when the texts of the package are
within the bounds in bytes, no settings entrypoint has a route, and the copy of the contract is the
contract (`Fits`). Paths, roles, sizes, digests, counts, the scaffold, the target and the size of the
document agree, whatever the task is.
-/

namespace Vibapp.Builder

open CloudAgent (Intent Policy ProviderExecution ProviderResult SourceRecord SourceTree TaskContext
  HandoffDocument Inventoried writeHandoff handoffOf)
open ProviderRunner (Node hexText)

/-- The policy of the audit of a task whose scaffold the cloud agent reads with `tomllib`. -/
def policyOf (builder : Context) (base : Policy Intent) : Policy Intent where
  sha256 := builder.sha256
  authoringInputs := base.authoringInputs
  canonicalCargoManifest := base.canonicalCargoManifest
  validateCargoManifest := fun data task =>
    CloudAgent.validateCargoManifest builder.sha256 builder.tomlLoads data task.rest.packageIntent
  validateGeneratedSemantics := base.validateGeneratedSemantics

/-- A task for a canonical world, and a result and a workspace that the cloud agent has accepted. -/
structure Authored (builder : Context) (ctx : TaskContext Intent) (base : Policy Intent)
    (task : CloudAgent.Task Intent) (result : ProviderResult) (workspace : Node)
    (records : List SourceRecord) : Prop where
  /-- The file of the task, which holds the two texts, is within its bound. -/
  loaded : task.rest.packageIntent.appId.toList.length +
    task.rest.packageIntent.version.toList.length ≤ CloudAgent.maxTaskBytes
  validTask : CloudAgent.validateWholeTask ctx task = .ok ()
  profiles : ∀ profile ∈ task.rest.target.profiles, profile = "desktop" ∨ profile = "headless"
  world : (worldKind.lookup task.rest.target.witWorld).isSome = true
  validResult : CloudAgent.validateProviderResult result task = .ok ()
  wellFormed : CloudAgent.wellFormed workspace
  audited : CloudAgent.auditWorkspace (policyOf builder base) workspace task result.sourceFiles
    (hexText (builder.sha256 builder.contract)) = .ok records

/-- What the Builder asks beyond the cloud agent. -/
structure Fits (builder : Context) (task : CloudAgent.Task Intent) (workspace : Node) : Prop where
  package : PackageFits task.rest.packageIntent
  /-- The audit has compared the digests of the two. -/
  contract : ∀ mode data, workspace.find ["source", "wit", "contract.wit"] =
    some (.file mode 1 data) → data = builder.contract

section

variable {builder : Context} {ctx : TaskContext Intent} {base : Policy Intent}
  {task : CloudAgent.Task Intent} {result : ProviderResult} {workspace : Node}
  {records : List SourceRecord} {source : SourceTree} {execution : ProviderExecution}

/-! ## What was accepted -/

/-- What the checks of a task say of a handoff. -/
structure TaskAccepted (task : CloudAgent.Task Intent) : Prop where
  jobId : isIdentifier task.jobId = true
  needSpec : Launcher.isDigest task.rest.needSpecDigestSha256 = true
  package : PackageAccepted task.rest.packageIntent
  target : TargetAccepted task.rest.packageIntent task.rest.target
  bytes : task.limits.sourceBytes ≤ maxSourceFileBytes
  files : task.limits.sourceFiles ≤ 256

theorem task_accepted (h : CloudAgent.validateWholeTask ctx task = .ok ()) : TaskAccepted task := by
  unfold CloudAgent.validateWholeTask at h
  rw [CloudAgent.check_eq_ok] at h
  obtain ⟨hfile, hintent⟩ := h
  unfold CloudAgent.validateTaskFile CloudAgent.validateTaskSchema at hfile
  rw [CloudAgent.check_eq_ok, CloudAgent.check_eq_ok] at hfile
  obtain ⟨⟨hjob, -⟩, -⟩ := hfile
  unfold CloudAgent.validateIntent at hintent
  simp only [CloudAgent.check_eq_ok] at hintent
  obtain ⟨hneed, hpackage, htarget, hlimits⟩ := hintent
  have hlimits := CloudAgent.require_eq_ok.1 hlimits
  simp only [Bool.and_eq_true, decide_eq_true_eq] at hlimits
  constructor
  · exact CloudAgent.require_eq_ok.1 hjob
  · exact CloudAgent.require_eq_ok.1 hneed
  · exact package_accepted hpackage
  · exact target_accepted htarget
  · exact hlimits.1.1.2
  · exact hlimits.2

/-- The paths of an accepted result come once, and there are two at least. -/
theorem result_accepted (h : CloudAgent.validateProviderResult result task = .ok ()) :
    result.sourceFiles.Nodup ∧ 2 ≤ result.sourceFiles.length := by
  unfold CloudAgent.validateProviderResult at h
  simp only [CloudAgent.check_eq_ok] at h
  obtain ⟨-, -, -, -, -, -, -, -, hfiles, hcount, -⟩ := h
  exact ⟨(stringArray_ok hfiles).2, of_decide_eq_true (CloudAgent.require_eq_ok.1 hcount)⟩

/-- What the audit says of a handoff. -/
structure SourcesAccepted (builder : Context) (base : Policy Intent) (task : CloudAgent.Task Intent)
    (result : ProviderResult) (workspace : Node) (records : List SourceRecord) : Prop where
  inventoried : Inventoried (policyOf builder base) task workspace result.sourceFiles
    (hexText (builder.sha256 builder.contract)) records
  nodup : (records.map SourceRecord.path).Nodup
  count : 2 ≤ records.length ∧ records.length ≤ 256
  bytes : (records.map SourceRecord.sizeBytes).sum ≤ maxSourceFileBytes

theorem Authored.sources (h : Authored builder ctx base task result workspace records) :
    SourcesAccepted builder base task result workspace records := by
  have htask := task_accepted h.validTask
  have hfacts := CloudAgent.audit_facts h.wellFormed h.audited
  obtain ⟨hnodup, hcount⟩ := result_accepted h.validResult
  have hlength := hfacts.inventory.length_eq
  rw [List.length_map] at hlength
  constructor
  · exact hfacts
  · exact hfacts.inventory.nodup_iff.2 hnodup
  · exact ⟨hlength ▸ hcount, le_trans hfacts.files htask.files⟩
  · exact le_trans hfacts.bytes htask.bytes

/-! ## The parts of the document -/

/-- The copy of the contract, in the source directory and in the workspace. -/
theorem copyFits_records_iff
    (h : SourcesAccepted builder base task result workspace records)
    (hcopied : ∀ record ∈ records, ∃ data, Copied builder workspace source record data) :
    (∀ record ∈ records, CopyFits builder source record) ↔
      ∀ mode data, workspace.find ["source", "wit", "contract.wit"] = some (.file mode 1 data) →
        data = builder.contract := by
  have hsegments : CloudAgent.segments "wit/contract.wit" = ["wit", "contract.wit"] := by decide
  constructor
  · intro hfits mode data hfound
    obtain ⟨record, hrecord, hpath⟩ := List.mem_map.1 h.inventoried.contract
    obtain ⟨copy, hcopy⟩ := hcopied record hrecord
    obtain ⟨mode', hfile⟩ := hcopy.recorded.found
    rw [hpath, hsegments, hfound] at hfile
    cases hfile
    exact (copyFits_iff hcopy).1 (hfits record hrecord) hpath
  · intro hcontract record hrecord
    obtain ⟨copy, hcopy⟩ := hcopied record hrecord
    refine (copyFits_iff hcopy).2 ?_
    intro hpath
    obtain ⟨mode, hfile⟩ := hcopy.recorded.found
    rw [hpath, hsegments] at hfile
    exact hcontract mode copy hfile

/-- The scaffold and the library are copied. -/
theorem scaffold_ok (h : SourcesAccepted builder base task result workspace records)
    (hcopied : ∀ record ∈ records, ∃ data, Copied builder workspace source record data) :
    validateCargoManifest builder source task.rest.packageIntent = .ok () := by
  have hcargoSegments : CloudAgent.segments "Cargo.toml" = ["Cargo.toml"] := by decide
  have hlibrarySegments : CloudAgent.segments "src/lib.rs" = ["src", "lib.rs"] := by decide
  obtain ⟨record, hrecord, hpath⟩ := List.mem_map.1 h.inventoried.cargo
  obtain ⟨data, hdata⟩ := hcopied record hrecord
  obtain ⟨mode, hfile⟩ := hdata.recorded.found
  obtain ⟨mode', scaffold, hscaffold, _, hmanifest⟩ := h.inventoried.manifest
  rw [hpath, hcargoSegments, hscaffold] at hfile
  cases hfile
  obtain ⟨library, hlibrary, hlibraryPath⟩ := List.mem_map.1 h.inventoried.library
  obtain ⟨rust, hrust⟩ := hcopied library hlibrary
  obtain ⟨rustMode, hrustFile⟩ := hrust.recorded.found
  obtain ⟨rustMode', read, text, hread, htext, hnoStd⟩ := h.inventoried.noStd
  rw [hlibraryPath, hlibrarySegments, hread] at hrustFile
  cases hrustFile
  have hcargoFound := hdata.found
  have hrustFound := hrust.found
  rw [hpath] at hcargoFound
  rw [hlibraryPath] at hrustFound
  exact validateCargoManifest_ok hcargoFound ⟨hdata.one_le, hdata.size⟩ hmanifest hrustFound
    ⟨hrust.one_le, hrust.size⟩ htext hnoStd

/-- The document is within its bounds. -/
theorem document_fits (h : Authored builder ctx base task result workspace records)
    (hpackage : PackageFits task.rest.packageIntent) (hexecution : IsExecution execution)
    (now : Instant) :
    DocumentFits (handoffOf builder.sha256 task records execution now.text) := by
  have htask := task_accepted h.validTask
  have hsources := h.sources
  constructor
  · rfl
  · rfl
  · rfl
  · exact htask.jobId
  · exact htask.needSpec
  · exact isDigest_hexText (builder.sha256_length _)
  · rfl
  · exact hsources.count.2
  · intro record hrecord
    obtain ⟨data, hdata⟩ := hsources.inventoried.recorded record hrecord
    have hsize : record.sizeBytes ≤ maxSourceFileBytes :=
      le_trans (List.le_sum_of_mem (List.mem_map_of_mem hrecord)) hsources.bytes
    refine size_record_le (path_accepted hdata.normal) ?_ ?_ hsize
    · rw [hdata.content]
      exact isDigest_hexText (builder.sha256_length data)
    · rw [hdata.content]
      dsimp only
      by_cases hwit : record.path = "wit/contract.wit"
      · rw [if_pos hwit]
        exact .inr rfl
      · rw [if_neg hwit]
        exact .inl rfl
  · have hsize := size_package_le htask.package hpackage
    have hloaded := h.loaded
    change Json.size task.rest.packageIntent.json ≤ _
    omega
  · exact size_target_le htask.target h.world h.profiles
  · exact size_execution_le hexecution
  · rfl
  · change (String.ofList now.chars).toList.length = 20
    rw [String.toList_ofList, Instant.length_chars]

/-! ## The handoff -/

/-- The package of a handoff that the Builder takes. -/
theorem package_fits {document : HandoffDocument} (h : PackageAccepted document.packageIntent)
    (hvalid : validateHandoff builder document source = .ok ()) :
    PackageFits document.packageIntent := by
  unfold validateHandoff at hvalid
  simp only [check_eq_ok] at hvalid
  obtain ⟨-, -, -, -, -, -, -, hpackage, -⟩ := hvalid
  exact (validatePackage_iff h).1 hpackage

/-- A handoff that is refused: its package does not fit. -/
theorem refused_of_not_fits (h : Authored builder ctx base task result workspace records)
    (execution : ProviderExecution) (now : Instant)
    (hfits : ¬ PackageFits task.rest.packageIntent) :
    ∃ document source,
      writeHandoff builder.sha256 workspace task records execution now.text =
          .ok (document, source) ∧ validateHandoff builder document source ≠ .ok () := by
  have hsources := h.sources
  obtain ⟨source, hwritten, -⟩ := writeHandoff_ok hsources.inventoried.recorded hsources.nodup
    hsources.bytes
  refine ⟨_, source, hwritten, ?_⟩
  exact fun hvalid => hfits (package_fits (task_accepted h.validTask).package hvalid)

/-- **Whether the Builder takes a handoff.** -/
theorem handoff_accepted_iff (h : Authored builder ctx base task result workspace records)
    (hexecution : IsExecution execution) (now : Instant) :
    ∃ document source,
      writeHandoff builder.sha256 workspace task records execution now.text =
          .ok (document, source) ∧
        (validateHandoff builder document source = .ok () ↔ Fits builder task workspace) := by
  have htask := task_accepted h.validTask
  have hsources := h.sources
  obtain ⟨source, hwritten, hlinked, hpaths, hcopied⟩ := writeHandoff_ok
    hsources.inventoried.recorded hsources.nodup hsources.bytes
  refine ⟨_, source, hwritten, ?_⟩
  have hvalidSources : validateSources builder
      (handoffOf builder.sha256 task records execution now.text) source = .ok () ↔ _ :=
    validateSources_iff hsources.inventoried rfl hsources.nodup hsources.count hsources.bytes
      hlinked hpaths hcopied
  have hcontract := copyFits_records_iff hsources hcopied
  constructor
  · intro hvalid
    refine ⟨package_fits htask.package hvalid, ?_⟩
    unfold validateHandoff at hvalid
    simp only [check_eq_ok] at hvalid
    obtain ⟨-, -, -, -, -, -, -, -, -, hvalid, -⟩ := hvalid
    exact hcontract.1 (hvalidSources.1 hvalid)
  · rintro ⟨hpackage, hcopy⟩
    unfold validateHandoff
    simp only [check_eq_ok, require_eq_ok]
    refine ⟨?_, ?_, ?_, ?_, ?_, ?_, ?_, (validatePackage_iff htask.package).2 hpackage, ?_,
      hvalidSources.2 (hcontract.2 hcopy), scaffold_ok hsources hcopied⟩
    · exact decide_eq_true (fileSize_le (document_fits h hpackage hexecution now))
    · rfl
    · exact htask.jobId
    · exact require_eq_ok.2 htask.needSpec
    · exact require_eq_ok.2 (isDigest_hexText (builder.sha256_length _))
    · rfl
    · exact validateProvider_ok hexecution
    · exact validateTarget_ok htask.target h.world h.profiles

end

/-! ## A name of wide characters -/

def sampleContract : List UInt8 := "package vibapp:experimental-v0@0.0.1;\n".toUTF8.toList

/-- `canonical_cargo_manifest` of the sample's package. -/
def sampleScaffold : List UInt8 :=
  ["# Generated by vibapp.cloud-codeagent-cargo-scaffold.experimental-v1.\n".toUTF8.toList,
    "# Source: consent-bound package_intent.app_id=org.example.tasks and ".toUTF8.toList,
    "package_intent.version=0.1.0.\n".toUTF8.toList,
    "# Provider edits are rejected by exact post-execution byte and digest validation.\n".toUTF8.toList,
    "[package]\nname = \"org_example_tasks\"\nversion = \"0.1.0\"\nedition = \"2024\"\n".toUTF8.toList,
    "publish = false\nautobins = false\nautoexamples = false\nautotests = false\n".toUTF8.toList,
    "autobenches = false\n\n[lib]\ncrate-type = [\"cdylib\"]\n\n[dependencies]\n".toUTF8.toList,
    "wit-bindgen = \x7b version = \"=0.60.0\", default-features = false, features = ".toUTF8.toList,
    "[\"bitflags\", \"macro-string\", \"macros\", \"realloc\"] \x7d\n".toUTF8.toList].flatten

/-- The scaffold as TOML. -/
def sampleManifest : Json :=
  .obj [
    ("package", .obj [("name", .str "org_example_tasks"), ("version", .str "0.1.0"),
      ("edition", .str "2024"), ("publish", .bool false), ("autobins", .bool false),
      ("autoexamples", .bool false), ("autotests", .bool false), ("autobenches", .bool false)]),
    ("lib", .obj [("crate-type", .arr [.str "cdylib"])]),
    ("dependencies", .obj [("wit-bindgen", .obj [("version", .str "=0.60.0"),
      ("default-features", .bool false),
      ("features", .arr [.str "bitflags", .str "macro-string", .str "macros", .str "realloc"])])])]

def sampleLibrary : List UInt8 :=
  "#![no_std]\nextern crate alloc;\n#[global_allocator]\n#[panic_handler]\n".toUTF8.toList

def sampleRecords : List SourceRecord :=
  [⟨"Cargo.toml", "557a70c75b818c67a02a8dab68c4416ad7cc3c49811d7969efa4d93ea09f1f26", 587,
      "generated-source"⟩,
    ⟨"src/lib.rs", "0bca469e5b12654bc79ce0a565e10d0c72217561f3bc414e470e421f09aeddcc", 68,
      "generated-source"⟩,
    ⟨"wit/contract.wit", "6e72b95afbc85433ab4cbfef7374de79666fdc53edbf7acd257ce4140e62ca88", 38,
      "authoritative-contract-copy"⟩]

/-- SHA-256 of what the sample hashes. -/
def sampleDigests : List (List UInt8 × String) :=
  [(sampleScaffold, "557a70c75b818c67a02a8dab68c4416ad7cc3c49811d7969efa4d93ea09f1f26"),
    (sampleLibrary, "0bca469e5b12654bc79ce0a565e10d0c72217561f3bc414e470e421f09aeddcc"),
    (sampleContract, "6e72b95afbc85433ab4cbfef7374de79666fdc53edbf7acd257ce4140e62ca88"),
    (CloudAgent.sourceText sampleRecords,
      "dbaa51bff23e05a0aa6ac260d82d355b6021d0414f2b81c7d3c284e136543c27")]

def sampleSha256 (data : List UInt8) : List UInt8 :=
  (Daemon.fromHex ((sampleDigests.lookup data).getD "").toList ++ List.replicate 32 0).take 32

def sampleBuilder : Context where
  sha256 := sampleSha256
  sha256_length := by
    intro data
    simp [sampleSha256]
  contract := sampleContract
  tomlLoads := fun data => if data = sampleScaffold then some sampleManifest else none

def sampleTaskContext : TaskContext Intent where
  sha256 := fun _ => CloudAgent.sampleInstructionsDigest
  endpointDigest := fun _ _ => CloudAgent.sampleIdentity.endpoint.endpointSha256
  identityDigest := fun _ _ _ _ => CloudAgent.sampleIdentity.identitySha256
  canonicalHttpsEndpoint := fun _ => .ok ()
  immutableTaskDigest := fun _ => CloudAgent.sampleTaskDigest
  providerInstructions := fun _ _ => "instructions"
  providerRequest := fun _ _ => "request"
  validateSchemaRest := fun _ => .ok ()
  validateAuthorizationRest := fun _ => .ok ()

def sampleBase : Policy Intent where
  sha256 := sampleSha256
  authoringInputs := fun _ => .ok []
  canonicalCargoManifest := fun _ => .ok sampleScaffold
  validateCargoManifest := fun _ _ => .ok ()
  validateGeneratedSemantics := fun _ _ => .ok ()

def sampleImports : List String :=
  (worldImports.lookup "ui-only-reference").getD []

/-- A name of 80 characters and 160 bytes. -/
def sampleWideName : String := String.ofList (List.replicate 80 'é')

def sampleWholeTask : CloudAgent.Task Intent where
  schemaVersion := CloudAgent.sampleTask.schemaVersion
  jobId := CloudAgent.sampleTask.jobId
  executionAttempt := CloudAgent.sampleTask.executionAttempt
  immutableTaskDigestSha256 := CloudAgent.sampleTask.immutableTaskDigestSha256
  consent := CloudAgent.sampleTask.consent
  provider := CloudAgent.sampleTask.provider
  model := CloudAgent.sampleTask.model
  providerExecutionIdentity := CloudAgent.sampleTask.providerExecutionIdentity
  limits := CloudAgent.sampleTask.limits
  rest := {
    needSpecDigestSha256 := CloudAgent.sampleTaskDigest
    packageIntent := {
      appId := "org.example.tasks"
      version := "0.1.0"
      displayName := sampleWideName
      description := "A list of tasks."
      entrypoints := [⟨"main", "launcher-ui", "Tasks", some "home", none⟩] }
    target := {
      contract := "vibapp:experimental-v0@0.0.1"
      wasi := "0.2"
      rustTarget := "wasm32-wasip2"
      witWorld := "ui-only-reference"
      appKind := "ui"
      profiles := ["desktop"]
      requiredImports := sampleImports
      requiredCapabilities := [] } }

def sampleResult : ProviderResult where
  schemaVersion := "vibapp.cloud-codeagent-provider-result.experimental-v1"
  documentType := "cloud-codeagent-provider-result"
  jobId := CloudAgent.sampleTask.jobId
  status := "source-generated"
  summary := "A list of tasks."
  witWorld := "ui-only-reference"
  appKind := "ui"
  declaredCapabilities := sampleImports
  sourceFiles := ["Cargo.toml", "src/lib.rs", "wit/contract.wit"]
  unresolved := []

def sampleWorkspace : Node :=
  .directory 0o700 [
    ("contracts", .directory 0o700 [("contract.wit", .file 0o444 1 sampleContract)]),
    ("provider-last-message.json", .file 0o600 1 [1]),
    ("source", .directory 0o700 [
      ("Cargo.toml", .file 0o444 1 sampleScaffold),
      ("src", .directory 0o700 [("lib.rs", .file 0o600 1 sampleLibrary)]),
      ("wit", .directory 0o700 [("contract.wit", .file 0o444 1 sampleContract)])])]

theorem sample_wellFormed : CloudAgent.wellFormed sampleWorkspace := by
  simp [sampleWorkspace, CloudAgent.wellFormed, CloudAgent.wellFormedEntries]

theorem sampleWideName_bytes : sampleWideName.utf8ByteSize = 160 := by
  have hwide : Char.utf8Size 'é' = 2 := by decide
  unfold sampleWideName
  rw [Json.utf8ByteSize_ofList, Json.utf8Len, List.map_replicate, List.sum_replicate_nat, hwide]

/-- The cloud agent accepts the sample. -/
theorem sample_authored : Authored sampleBuilder sampleTaskContext sampleBase sampleWholeTask
    sampleResult sampleWorkspace sampleRecords := by
  -- check by check: the kernel keeps what it has read of a text
  have htarget : (CloudAgent.validateTarget sampleWholeTask.rest.packageIntent
      sampleWholeTask.rest.target).isOk = true := by
    unfold CloudAgent.validateTarget
    repeat' refine isOk_bind ?_ ?_
    all_goals decide +kernel
  have htask : (CloudAgent.validateWholeTask sampleTaskContext sampleWholeTask).isOk = true :=
    isOk_bind (isOk_bind (by decide +kernel) (by decide +kernel))
      (isOk_bind (by decide +kernel) (isOk_bind (by decide +kernel)
        (isOk_bind htarget (by decide +kernel))))
  have hresult : (CloudAgent.validateProviderResult sampleResult sampleWholeTask).isOk = true := by
    unfold CloudAgent.validateProviderResult
    repeat' refine isOk_bind ?_ ?_
    all_goals decide +kernel
  have haudit : (CloudAgent.auditWorkspace (policyOf sampleBuilder sampleBase) sampleWorkspace
      sampleWholeTask sampleResult.sourceFiles
      (hexText (sampleBuilder.sha256 sampleBuilder.contract))).toOption.any
        (sampleRecords = ·) = true := by
    decide +kernel
  constructor
  · decide
  · exact (exists_eq_ok htask).choose_spec
  · decide
  · decide
  · exact (exists_eq_ok hresult).choose_spec
  · exact sample_wellFormed
  · obtain ⟨records, hrecords, hequal⟩ := exists_of_toOption_any haudit
    rw [of_decide_eq_true hequal]
    exact hrecords

def sampleNow : Instant := ⟨0, by decide⟩

/-- The Builder refuses the handoff of an accepted task whose display name is wide. -/
theorem wide_name_refused :
    Authored sampleBuilder sampleTaskContext sampleBase sampleWholeTask sampleResult sampleWorkspace
        sampleRecords ∧
      IsExecution CloudAgent.dryRunExecution ∧ ∃ document source,
        writeHandoff sampleBuilder.sha256 sampleWorkspace sampleWholeTask sampleRecords
            CloudAgent.dryRunExecution sampleNow.text = .ok (document, source) ∧
          validateHandoff sampleBuilder document source ≠ .ok () := by
  refine ⟨sample_authored, .dryRun, refused_of_not_fits sample_authored _ sampleNow ?_⟩
  intro hfits
  have hname : sampleWholeTask.rest.packageIntent.displayName = sampleWideName := rfl
  have hbytes := hfits.displayName
  rw [hname, sampleWideName_bytes] at hbytes
  exact absurd hbytes (by decide)

theorem handoff_accepted_sample :
    ∃ document source,
      writeHandoff sampleBuilder.sha256 sampleWorkspace sampleWholeTask sampleRecords
          CloudAgent.dryRunExecution sampleNow.text = .ok (document, source) ∧
        (validateHandoff sampleBuilder document source = .ok () ↔
          Fits sampleBuilder sampleWholeTask sampleWorkspace) :=
  handoff_accepted_iff sample_authored .dryRun sampleNow

end Vibapp.Builder
