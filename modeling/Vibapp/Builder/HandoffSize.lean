import Mathlib.Tactic.Linarith
import Vibapp.Builder.HandoffAgreement
import Vibapp.Lib.JsonLength

/-!
# The size of a handoff

**Main result** (`fileSize_le`). The document of an accepted handoff is within the Builder's bound: its
records are short, and the texts of the task, which are as long as the task file allows, are there
once.
-/

namespace Vibapp.Builder

open CloudAgent (Entrypoint PackageIntent Target ProviderExecution SourceRecord Authority
  HandoffDocument)
open Json (Plain size size_obj_le size_arr_le size_str_le size_nat_le)
open ProviderRunner (hexText)

/-! ## Texts -/

theorem isPlain_of_alnum {c : Char} (h : Launcher.isAlnum c = true) : Json.isPlain c = true := by
  simp only [Launcher.isAlnum, Char.isAlphanum, Char.isAlpha, Char.isUpper, Char.isLower,
    Char.isDigit, Bool.or_eq_true, Bool.and_eq_true, decide_eq_true_eq, ge_iff_le,
    UInt32.le_iff_toNat_le] at h
  have hbackslash : c ≠ '\\' := by
    rintro rfl
    revert h
    decide
  refine Json.isPlain_iff.2 ⟨?_, hbackslash⟩
  unfold Char.toNat
  rcases h with (⟨hl, hr⟩ | ⟨hl, hr⟩) | ⟨hl, hr⟩
  · exact ⟨le_trans (by decide) hl, le_trans hr (by decide)⟩
  · exact ⟨le_trans (by decide) hl, le_trans hr (by decide)⟩
  · exact ⟨le_trans (by decide) hl, le_trans hr (by decide)⟩

theorem plain_of_path {path : String} (h : PathAccepted path) : Plain 240 path := by
  refine ⟨?_, h.length.2⟩
  intro c hc
  have hpath := h.isPathChar c hc
  simp only [isPathChar, Bool.or_eq_true, decide_eq_true_eq] at hpath
  rcases hpath with (((halnum | rfl) | rfl) | rfl) | rfl
  · exact isPlain_of_alnum halnum
  · decide
  · decide
  · decide
  · decide

theorem plain_of_identifier {text : String} (h : isIdentifier text = true) : Plain 128 text := by
  unfold isIdentifier Launcher.isId at h
  cases hchars : text.toList with
  | nil =>
    rw [hchars] at h
    cases h
  | cons first rest =>
    rw [hchars] at h
    simp only [Launcher.isToken, Bool.and_eq_true, decide_eq_true_eq, List.all_eq_true,
      Bool.or_eq_true] at h
    refine ⟨?_, by rw [hchars, List.length_cons]; omega⟩
    rw [hchars]
    intro c hc
    rcases List.mem_cons.1 hc with rfl | hc
    · exact isPlain_of_alnum h.1.1
    · rcases h.2 c hc with (((halnum | rfl) | rfl) | rfl) | rfl
      · exact isPlain_of_alnum halnum
      · decide
      · decide
      · decide
      · decide

theorem plain_of_digest {text : String} (h : Launcher.isDigest text = true) : Plain 64 text := by
  unfold Launcher.isDigest at h
  rw [Bool.and_eq_true, decide_eq_true_eq, List.all_eq_true] at h
  refine ⟨?_, by rw [String.length_toList, h.1]⟩
  intro c hc
  apply isPlain_of_alnum
  have hhex := h.2 c hc
  simp only [Bool.or_eq_true, Bool.and_eq_true, decide_eq_true_eq, Char.le_def] at hhex
  unfold Launcher.isAlnum Char.isAlphanum
  rcases hhex with hdigit | ⟨hl, hr⟩
  · rw [hdigit, Bool.or_true]
  · have hlower : c.isLower = true := by
      simp only [Char.isLower, Bool.and_eq_true, decide_eq_true_eq]
      exact ⟨hl, UInt32.le_trans hr (by decide)⟩
    rw [Char.isAlpha, hlower, Bool.or_true, Bool.true_or]

theorem plain_of_appId {text : String} (h : isAppId text = true) :
    Plain text.toList.length text := by
  refine ⟨?_, le_rfl⟩
  intro c hc
  unfold isAppId CloudAgent.isAppIdentifier at h
  rw [Bool.and_eq_true, List.all_eq_true] at h
  by_cases hsep : c = '.' ∨ c = '-'
  · rcases hsep with rfl | rfl
    · decide
    · decide
  · obtain ⟨part, hpart, hc⟩ := mem_splitOnP (p := fun c => c = '.' || c = '-') hc
      (by simpa using hsep)
    have hletters := h.2 part hpart
    rw [Bool.and_eq_true, List.all_eq_true] at hletters
    have hletter := hletters.2 c hc
    apply isPlain_of_alnum
    unfold CloudAgent.isLowerAlnum at hletter
    unfold Launcher.isAlnum Char.isAlphanum Char.isAlpha
    rcases Bool.or_eq_true_iff.1 hletter with hlower | hdigit
    · rw [hlower, Bool.or_true, Bool.true_or]
    · rw [hdigit, Bool.or_true]

theorem plain_of_semver {text : String} (h : isSemver text = true) :
    Plain text.toList.length text := by
  refine ⟨?_, le_rfl⟩
  intro c hc
  unfold isSemver CloudAgent.isSemver at h
  rw [Bool.and_eq_true, List.all_eq_true] at h
  by_cases hdot : c = '.'
  · rw [hdot]
    decide
  · obtain ⟨part, hpart, hc⟩ := mem_splitOnP (p := (· == '.')) hc (beq_false_of_ne hdot)
    rw [← List.splitOn_eq_splitOnP] at hpart
    have hdigits := h.2 part hpart
    rw [Bool.and_eq_true, Bool.and_eq_true, List.all_eq_true] at hdigits
    apply isPlain_of_alnum
    unfold Launcher.isAlnum Char.isAlphanum
    rw [hdigits.1.2 c hc, Bool.or_true]

/-! ## Records -/

theorem size_record_le {record : SourceRecord} (hpath : PathAccepted record.path)
    (hdigest : Launcher.isDigest record.sha256 = true)
    (hrole : record.role = "generated-source" ∨ record.role = "authoritative-contract-copy")
    (hbytes : record.sizeBytes ≤ maxSourceFileBytes) : size record.json ≤ 406 := by
  have hkeys : ∀ k ∈ ["path", "sha256", "size_bytes", "role"], Json.utf8Len (Json.quote k) ≤ 12 := by
    decide
  have hobject : size record.json ≤ _ := size_obj_le hkeys
  have hpath := (plain_of_path hpath).size_le
  have hdigest := (plain_of_digest hdigest).size_le
  have hlt : record.sizeBytes < 10 ^ 8 := lt_of_le_of_lt hbytes (by decide)
  have hbytes := size_nat_le (by decide) hlt
  have hrole : size (.str record.role) ≤ 29 := by
    rcases hrole with hrole | hrole
    · rw [hrole]
      decide
    · rw [hrole]
      decide
  simp only [List.length_cons, List.length_nil, List.map_cons, List.map_nil, List.sum_cons,
    List.sum_nil] at hobject
  omega

/-! ## The package -/

theorem size_textOrNull_le {text : Option String} {n : Nat}
    (h : ∀ value ∈ text, Plain n value) : size (CloudAgent.textOrNull text) ≤ n + 4 := by
  cases text with
  | none =>
    have hnull : size .null = 4 := by decide
    rw [CloudAgent.textOrNull, hnull]
    omega
  | some value => exact le_trans (h value rfl).size_le (by omega)

/-- The triggers of an accepted entrypoint are among three. -/
theorem size_triggers_le {triggers : List String} (h : isCanonicalTriggers triggers = true) :
    size (CloudAgent.texts triggers) ≤ 41 := by
  unfold isCanonicalTriggers at h
  simp only [Bool.and_eq_true, decide_eq_true_eq] at h
  have hmem : ∀ trigger ∈ triggers, trigger ∈ serviceTriggerOrder := by
    intro trigger htrigger
    rw [h.2] at htrigger
    exact (List.mem_filter.1 htrigger).1
  have hsizes : ∀ trigger ∈ serviceTriggerOrder, size (.str trigger) ≤ 12 := by decide
  refine size_arr_le (n := 12) (k := 3) ?_ ?_
  · intro value hvalue
    obtain ⟨trigger, htrigger, rfl⟩ := List.mem_map.1 hvalue
    exact hsizes trigger (hmem trigger htrigger)
  · rw [List.length_map]
    exact h.1.2

theorem size_entrypoint_le {row : Entrypoint} (h : EntrypointAccepted row)
    (hfits : EntrypointFits row) : size row.json ≤ 900 := by
  have hid := (plain_of_identifier h.id).size_le
  have hkind : size (.str row.kind) ≤ 13 := by
    rcases h.kind with hkind | hkind | hkind
    · rw [hkind]
      decide
    · rw [hkind]
      decide
    · rw [hkind]
      decide
  have hlabel := size_str_le hfits.label
  have hroute : size (CloudAgent.textOrNull row.initialRoute) ≤ 132 := by
    apply size_textOrNull_le
    intro route hsome
    have hroute := h.routeId
    rw [hsome, Option.all_some] at hroute
    exact plain_of_identifier hroute
  unfold CloudAgent.Entrypoint.json
  cases htriggers : row.triggers with
  | none =>
    have hkeys : ∀ k ∈ ["id", "kind", "label", "initial_route"],
        Json.utf8Len (Json.quote k) ≤ 15 := by
      decide
    refine le_trans (size_obj_le hkeys) ?_
    simp only [Option.map_none, Option.toList_none, List.append_nil, List.length_cons,
      List.length_nil, List.map_cons, List.map_nil, List.sum_cons, List.sum_nil]
    omega
  | some triggers =>
    have hkeys : ∀ k ∈ ["id", "kind", "label", "initial_route", "triggers"],
        Json.utf8Len (Json.quote k) ≤ 15 := by
      decide
    have hservice : row.kind = "service" := by
      by_contra hne
      rw [h.noTriggers hne] at htriggers
      cases htriggers
    have hcanonical := h.triggers hservice
    rw [htriggers, Option.getD_some] at hcanonical
    have hsize := size_triggers_le hcanonical
    refine le_trans (size_obj_le hkeys) ?_
    simp only [Option.map_some, Option.toList_some, List.cons_append, List.nil_append,
      List.length_cons, List.length_nil, List.map_cons, List.map_nil, List.sum_cons, List.sum_nil]
    omega

theorem size_package_le {package : PackageIntent} (h : PackageAccepted package)
    (hfits : PackageFits package) :
    size package.json ≤ 22000 + package.appId.toList.length + package.version.toList.length := by
  have hkeys : ∀ k ∈ ["app_id", "version", "display_name", "description", "entrypoints"],
      Json.utf8Len (Json.quote k) ≤ 14 := by
    decide
  have hobject : size package.json ≤ _ := size_obj_le hkeys
  have happ := (plain_of_appId h.appId).size_le
  have hversion := (plain_of_semver h.version).size_le
  have hname := size_str_le hfits.displayName
  have hdescription := size_str_le hfits.description
  have hentries : size (.arr (package.entrypoints.map Entrypoint.json)) ≤ 2 + 16 * (900 + 1) := by
    refine size_arr_le ?_ ?_
    · intro value hvalue
      obtain ⟨row, hrow, rfl⟩ := List.mem_map.1 hvalue
      exact size_entrypoint_le (h.entrypoints row hrow) (hfits.entrypoints row hrow)
    · rw [List.length_map]
      exact h.count.2
  simp only [List.length_cons, List.length_nil, List.map_cons, List.map_nil, List.sum_cons,
    List.sum_nil] at hobject
  omega

/-! ## The target -/

/-- The texts of the worlds are short. -/
theorem size_worlds : ∀ world ∈ worldImports, size (.str world.1) ≤ 24 ∧
    size (CloudAgent.texts world.2) ≤ 400 ∧ ∀ item ∈ world.2, size (.str item) ≤ 50 := by
  decide +kernel

theorem size_kinds : ∀ kind ∈ worldKind, size (.str kind.2) ≤ 9 := by
  decide +kernel

theorem size_target_le {package : PackageIntent} {target : Target}
    (h : TargetAccepted package target)
    (hworld : (worldKind.lookup target.witWorld).isSome = true)
    (hprofiles : ∀ profile ∈ target.profiles, profile = "desktop" ∨ profile = "headless") :
    size target.json ≤ 1200 := by
  have hkeys : ∀ k ∈ ["contract", "wasi", "rust_target", "wit_world", "app_kind", "profiles",
      "required_imports", "required_capabilities"], Json.utf8Len (Json.quote k) ≤ 23 := by
    decide
  have hobject : size target.json ≤ _ := size_obj_le hkeys
  obtain ⟨hname, himports, hitems⟩ := size_worlds _ (CloudAgent.mem_of_lookup h.imports)
  dsimp only at hname himports hitems
  have hcontract : size (.str target.contract) ≤ 30 := by
    rw [h.contract]
    decide
  have hwasi : size (.str target.wasi) ≤ 5 := by
    rw [h.toolchain.1]
    decide
  have hrust : size (.str target.rustTarget) ≤ 15 := by
    rw [h.toolchain.2]
    decide
  have hkind : size (.str target.appKind) ≤ 9 := by
    obtain ⟨kind, hlookup⟩ := Option.isSome_iff_exists.1 hworld
    have heq := h.appKind
    rw [hlookup, Option.all_some, decide_eq_true_eq] at heq
    have hsize := size_kinds _ (CloudAgent.mem_of_lookup hlookup)
    rw [heq]
    exact hsize
  have hprofiles : size (CloudAgent.texts target.profiles) ≤ 2 + 4 * (10 + 1) := by
    refine size_arr_le ?_ ?_
    · intro value hvalue
      obtain ⟨profile, hprofile, rfl⟩ := List.mem_map.1 hvalue
      rcases hprofiles profile hprofile with rfl | rfl
      · decide
      · decide
    · rw [List.length_map]
      exact h.profiles.2.2
  have hcapabilities : size (CloudAgent.texts target.requiredCapabilities) ≤ 2 + 8 * (50 + 1) := by
    refine size_arr_le ?_ ?_
    · intro value hvalue
      obtain ⟨capability, hcapability, rfl⟩ := List.mem_map.1 hvalue
      have himport := List.all_eq_true.1 h.capabilities.2.2 capability hcapability
      exact hitems capability (List.contains_iff_mem.1 himport)
    · rw [List.length_map]
      exact h.capabilities.2.1
  simp only [List.length_cons, List.length_nil, List.map_cons, List.map_nil, List.sum_cons,
    List.sum_nil] at hobject
  omega

/-! ## The provider execution -/

theorem size_execution_le {execution : ProviderExecution} (h : IsExecution execution) :
    size execution.json ≤ 1200 := by
  have hkeys : ∀ k ∈ ["mode", "adapter", "provider_id", "external_request_attempted",
      "external_request_observed", "gateway_request_id", "executable_sha256",
      "isolation_policy_version", "runner_id", "runner_identity_sha256",
      "isolation_policy_sha256", "receipt_digest_sha256"],
      Json.utf8Len (Json.quote k) ≤ 28 := by
    decide
  have hobject : size execution.json ≤ _ := size_obj_le hkeys
  refine le_trans hobject ?_
  simp only [List.length_cons, List.length_nil, List.map_cons, List.map_nil, List.sum_cons,
    List.sum_nil]
  cases h with
  | dryRun => decide +kernel
  | live gateway runner digests =>
    simp only [List.forall_mem_cons] at digests
    obtain ⟨hexecutable, hidentity, hpolicy, hreceipt, -⟩ := digests
    have hgateway := (plain_of_identifier (isIdentifier_of_runner gateway)).size_le
    have hrunner := (plain_of_identifier (isIdentifier_of_runner runner)).size_le
    have hexecutable := (plain_of_digest hexecutable).size_le
    have hidentity := (plain_of_digest hidentity).size_le
    have hpolicy := (plain_of_digest hpolicy).size_le
    have hreceipt := (plain_of_digest hreceipt).size_le
    have hmode : size (.str "live-explicit-opt-in") ≤ 40 := by decide
    have hadapter : size (.str "external-isolated-provider-runner") ≤ 40 := by decide
    have hprovider : size (.str "codex") ≤ 40 := by decide
    have hversion : size (.str CloudAgent.isolationPolicyVersion) ≤ 60 := by decide
    have htrue : size (.bool true) = 4 := by decide
    simp only [CloudAgent.textOrNull, htrue]
    linarith

/-! ## The document -/

/-- What bounds the document of a handoff. -/
structure DocumentFits (document : HandoffDocument) : Prop where
  schemaVersion : document.schemaVersion = CloudAgent.sourceHandoffVersion
  documentType : document.documentType = "codeagent-source-handoff"
  status : document.status = "untrusted-source-awaiting-builder"
  jobId : isIdentifier document.jobId = true
  needSpec : Launcher.isDigest document.needSpecDigestSha256 = true
  sourceTree : Launcher.isDigest document.sourceTreeSha256 = true
  sourceDirectory : document.sourceDirectory = "source"
  count : document.files.length ≤ 256
  records : ∀ record ∈ document.files, size record.json ≤ 406
  /-- The task file holds the two texts. -/
  package : size document.packageIntent.json ≤ 22000 + CloudAgent.maxTaskBytes
  target : size document.target.json ≤ 1200
  execution : size document.providerExecution.json ≤ 1200
  authority : document.authority = ⟨"separate-builder", "separate-verifier", "none", "none"⟩
  now : document.createdAtUtc.toList.length = 20

/-- **The document is within the Builder's bound.** -/
theorem fileSize_le {document : HandoffDocument} (h : DocumentFits document) :
    document.fileSize ≤ maxHandoffBytes := by
  have hkeys : ∀ k ∈ ["schema_version", "document_type", "status", "job_id",
      "need_spec_digest_sha256", "source_tree_sha256", "source_directory", "files",
      "package_intent", "target", "provider_execution", "authority", "created_at_utc"],
      Json.utf8Len (Json.quote k) ≤ 25 := by
    decide
  have hobject : size document.json ≤ _ := size_obj_le hkeys
  have hversion : size (.str document.schemaVersion) ≤ 60 := by
    rw [h.schemaVersion]
    decide
  have htype : size (.str document.documentType) ≤ 60 := by
    rw [h.documentType]
    decide
  have hstatus : size (.str document.status) ≤ 60 := by
    rw [h.status]
    decide
  have hdirectory : size (.str document.sourceDirectory) ≤ 60 := by
    rw [h.sourceDirectory]
    decide
  have hauthority : size document.authority.json ≤ 200 := by
    rw [h.authority]
    decide +kernel
  have hjob := (plain_of_identifier h.jobId).size_le
  have hneed := (plain_of_digest h.needSpec).size_le
  have htree := (plain_of_digest h.sourceTree).size_le
  have hfiles : size (.arr (document.files.map SourceRecord.json)) ≤ 2 + 256 * (406 + 1) := by
    refine size_arr_le ?_ ?_
    · intro value hvalue
      obtain ⟨record, hrecord, rfl⟩ := List.mem_map.1 hvalue
      exact h.records record hrecord
    · rw [List.length_map]
      exact h.count
  have hpackage := h.package
  have htarget := h.target
  have hexecution := h.execution
  have hnow := Json.size_str_le_of_length (le_of_eq h.now)
  have htask : CloudAgent.maxTaskBytes = 131072 := rfl
  have hmax : maxHandoffBytes = 524288 := rfl
  simp only [List.length_cons, List.length_nil, List.map_cons, List.map_nil, List.sum_cons,
    List.sum_nil] at hobject
  unfold CloudAgent.HandoffDocument.fileSize
  rw [Json.utf8ByteSize_dumps]
  omega

end Vibapp.Builder
