import Vibapp.CloudAgent.Audit
import Vibapp.CloudAgent.Consent
import Vibapp.ProviderRunner.Transfer

/-!
# The live path

The adapter's run where the provider leaves a directory behind, followed by the worker's audit of the
workspace that the adapter puts in place.

**Main result** (`livePath_never`). The audit refuses every workspace that a run puts in place: the
runner seals each file with the mode `0o400`, and the audit demands `0o444` of the Cargo scaffold
(`validateCargoScaffold_mode`). The digest of the tree is that of the receipt (`livePath_digest`).
-/

namespace Vibapp.CloudAgent

open ProviderRunner (Node walkNode walkEntries Budget Step snapshotBundleToDirectory bundleDigest
  snapshotBundleToDirectory_sealed execute_delivers)

variable {δ η κ : Type}

/-! ## The audit of a sealed tree -/

theorem demand_eq_ok {ok : Bool} {code message : String} {u : Unit} :
    demand ok code message = .ok u ↔ ok = true := by
  unfold demand
  cases ok <;> simp

theorem validateCargoScaffold_mode {policy : Policy δ} {workspace : Node} {task : Task δ}
    {u : Unit} (h : validateCargoScaffold policy workspace task = .ok u) :
    ∃ mode links data, workspace.find ["source", "Cargo.toml"] = some (.file mode links data) ∧
      permissions mode = 0o444 := by
  unfold validateCargoScaffold at h
  cases hfound : workspace.find ["source", "Cargo.toml"] with
  | none =>
    rw [hfound] at h
    cases h
  | some node =>
    rw [hfound] at h
    cases node with
    | file mode links data =>
      obtain ⟨_, hmetadata, -⟩ := bind_eq_ok.1 h
      rw [demand_eq_ok, Bool.and_eq_true] at hmetadata
      exact ⟨mode, links, data, rfl, of_decide_eq_true hmetadata.2⟩
    | directory mode entries => cases h
    | link isDirectory data => cases h
    | special => cases h

/-- What an accepted audit has done. -/
theorem auditWorkspace_ok {policy : Policy δ} {workspace : Node} {task : Task δ}
    {reported : List String} {contractDigest : String} {records : List SourceRecord}
    (h : auditWorkspace policy workspace task reported contractDigest = .ok records) :
    ∃ mode entries walked sources, workspace.find ["source"] = some (.directory mode entries) ∧
      walkNode (visitSource policy task) [] (.directory mode entries) ⟨[], 0⟩ = .ok walked ∧
        checkSources policy workspace task reported contractDigest walked.records = .ok () ∧
          validateCargoScaffold policy workspace task = .ok () ∧
            ((walked.records.map SourceRecord.path).filter fun path =>
              path.toList.reverse.take 3 = ['s', 'r', '.']).mapM (readRust workspace) =
                .ok sources ∧
              isNoStd ((sources.lookup "src/lib.rs").getD "") = true ∧
                records = walked.records.insertionSort fun a b => a.path ≤ b.path := by
  unfold auditWorkspace at h
  obtain ⟨inputs, -, h⟩ := bind_eq_ok.1 h
  obtain ⟨_, -, h⟩ := bind_eq_ok.1 h
  obtain ⟨_, -, h⟩ := bind_eq_ok.1 h
  obtain ⟨_, -, h⟩ := bind_eq_ok.1 h
  obtain ⟨contract, -, h⟩ := bind_eq_ok.1 h
  obtain ⟨_, -, h⟩ := bind_eq_ok.1 h
  obtain ⟨_, -, h⟩ := bind_eq_ok.1 h
  obtain ⟨_, -, h⟩ := bind_eq_ok.1 h
  cases hsource : workspace.find ["source"] with
  | none =>
    rw [hsource] at h
    cases h
  | some node =>
    rw [hsource] at h
    cases node with
    | directory mode entries =>
      obtain ⟨walked, hwalk, h⟩ := bind_eq_ok.1 h
      obtain ⟨_, hcheck, h⟩ := bind_eq_ok.1 h
      obtain ⟨_, hscaffold, h⟩ := bind_eq_ok.1 h
      obtain ⟨sources, hsources, h⟩ := bind_eq_ok.1 h
      obtain ⟨_, hnoStd, h⟩ := bind_eq_ok.1 h
      obtain ⟨_, -, h⟩ := bind_eq_ok.1 h
      exact ⟨mode, entries, walked, sources, rfl, hwalk, hcheck, hscaffold, hsources,
        demand_eq_ok.1 hnoStd, (pure_eq_ok.1 h).symm⟩
    | file mode links data => cases h
    | link isDirectory data => cases h
    | special => cases h

/-- **The audit refuses a sealed tree.** -/
theorem auditWorkspace_sealed {policy : Policy δ} {workspace : Node} {task : Task δ}
    {reported : List String} {contractDigest : String} {records : List SourceRecord}
    (h : workspace.Sealed) :
    auditWorkspace policy workspace task reported contractDigest ≠ .ok records := by
  intro haudit
  obtain ⟨_, _, _, _, -, -, -, hscaffold, -⟩ := auditWorkspace_ok haudit
  obtain ⟨mode, links, data, hfound, hmode⟩ := validateCargoScaffold_mode hscaffold
  rw [h _ mode links data hfound] at hmode
  exact absurd hmode (by decide)

/-! ## The two digests -/

theorem visitTree_ok {policy : Policy δ} {maximumFiles maximumBytes : Nat} {parts : List String}
    {entries : List (String × Node)} {a b : Budget}
    (h : ProviderRunner.visitBundle policy.sha256 maximumFiles maximumBytes parts entries a =
      .ok b) : visitTree policy parts entries a = .ok b := by
  unfold ProviderRunner.visitBundle at h
  obtain ⟨_, hdirectories, hfiles⟩ := bind_eq_ok.1 h
  unfold visitTree
  refine bind_eq_ok.2 ⟨PUnit.unit, ?_, ?_⟩
  · refine forM_eq_ok.2 ?_
    intro entry hentry
    obtain ⟨_, hdirectory, -⟩ := bind_eq_ok.1 (forM_eq_ok.1 hdirectories entry hentry)
    unfold ProviderRunner.requireRunner at hdirectory
    unfold require
    cases hnode : entry.2.isDirectory with
    | true => rfl
    | false =>
      rw [hnode] at hdirectory
      cases hdirectory
  · have hstep : ∀ {budget : Budget} {entry : String × Node} {after : Budget},
        ProviderRunner.addFile policy.sha256 maximumFiles maximumBytes parts budget entry =
          .ok after → treeFile policy parts (id budget) (id entry) = .ok (id after) := by
      intro budget entry after hadd
      unfold ProviderRunner.addFile at hadd
      cases hnode : entry.2 with
      | file mode links data =>
        rw [hnode] at hadd
        obtain ⟨_, -, hadd⟩ := bind_eq_ok.1 hadd
        obtain ⟨_, -, hadd⟩ := bind_eq_ok.1 hadd
        obtain ⟨_, -, hadd⟩ := bind_eq_ok.1 hadd
        cases pure_eq_ok.1 hadd
        unfold treeFile
        rw [id, hnode]
        rfl
      | directory mode entries =>
        rw [hnode] at hadd
        cases hadd
      | link isDirectory data =>
        rw [hnode] at hadd
        cases hadd
      | special =>
        rw [hnode] at hadd
        cases hadd
    have hmap := foldlM_map_of_step id id hstep hfiles
    rwa [List.map_id] at hmap

/-- The worker's digest of a tree is the runner's, where the runner has one. -/
theorem workspaceTreeDigest_eq {policy : Policy δ} {tree : Node} {maximumFiles maximumBytes : Nat}
    {digest : String}
    (h : bundleDigest policy.sha256 tree maximumFiles maximumBytes = .ok digest) :
    workspaceTreeDigest policy tree = .ok digest := by
  unfold bundleDigest at h
  obtain ⟨budget, hbudget, h⟩ := bind_eq_ok.1 h
  cases pure_eq_ok.1 h
  unfold workspaceTreeDigest
  rw [ProviderRunner.walkNode_ok (fun _ _ _ _ => visitTree_ok) tree hbudget, ok_bind]
  rfl

/-! ## Runs -/

/-- What is outside the adapter where the provider leaves `left` in the output directory. -/
def liveEnv (sha256 : List UInt8 → List UInt8) (limits : ProviderRunner.Limits) (left : Node)
    (env : ProviderRunner.Env Node η κ) : ProviderRunner.Env Node η κ :=
  match snapshotBundleToDirectory sha256 limits.outputFiles limits.diskBytes left with
  | .ok (snapshot, digest) => { env with
      output := some snapshot
      receipt := ⟨digest⟩
      bundleDigest := bundleDigest sha256 }
  | .error _ => { env with
      fails := fun s => s = .snapshot || env.fails s
      output := none
      bundleDigest := bundleDigest sha256 }

/-- The run of the adapter. -/
def liveRun (policy : Policy δ) (request : ProviderRunner.Request)
    (env : ProviderRunner.Env Node η κ) (input left : Node) :
    Ends ProviderRunner.Raised κ × ProviderRunner.World Node η :=
  ProviderRunner.execute request (liveEnv policy.sha256 request.limits.limits left env)
    (.start input)

/-- The workspace that is in place passes the audit, and its digest is that of the receipt. -/
structure Composes (policy : Policy δ) (task : Task δ) (reported : List String)
    (contractDigest : String) (receipt : ProviderRunner.Receipt) (workspace : Node) : Prop where
  audited : ∃ records,
    auditWorkspace policy workspace task reported contractDigest = .ok records
  digest : workspaceTreeDigest policy workspace = .ok receipt.outputBundleSha256

/-- What the runner hands over is a sealed tree. -/
theorem liveEnv_output {sha256 : List UInt8 → List UInt8} {limits : ProviderRunner.Limits}
    {left out : Node} {env : ProviderRunner.Env Node η κ}
    (h : (liveEnv sha256 limits left env).output = some out) : out.Sealed := by
  unfold liveEnv at h
  cases hsnapshot : snapshotBundleToDirectory sha256 limits.outputFiles limits.diskBytes left with
  | error error =>
    rw [hsnapshot] at h
    cases h
  | ok result =>
    rw [hsnapshot] at h
    cases h
    exact snapshotBundleToDirectory_sealed hsnapshot

theorem liveEnv_bundleDigest {sha256 : List UInt8 → List UInt8} {limits : ProviderRunner.Limits}
    {left : Node} {env : ProviderRunner.Env Node η κ} :
    (liveEnv sha256 limits left env).bundleDigest = bundleDigest sha256 := by
  unfold liveEnv
  cases snapshotBundleToDirectory sha256 limits.outputFiles limits.diskBytes left <;> rfl

/-- **The digest of the workspace is that of the receipt.** -/
theorem livePath_digest {policy : Policy δ} {request : ProviderRunner.Request}
    {env : ProviderRunner.Env Node η κ} {input left : Node} {created : κ}
    (h : (liveRun policy request env input left).1 = .done created) :
    ∃ workspace, (liveRun policy request env input left).2.tree .workspace = some workspace ∧
      workspaceTreeDigest policy workspace =
        .ok (liveEnv policy.sha256 request.limits.limits left env).receipt.outputBundleSha256 := by
  obtain ⟨out, hdelivers, hworkspace⟩ := execute_delivers h
  have hdigest := hdelivers.digest
  rw [liveEnv_bundleDigest] at hdigest
  exact ⟨out, hworkspace, workspaceTreeDigest_eq hdigest⟩

/-- **No workspace that a run puts in place passes the audit.** -/
theorem livePath_never (policy : Policy δ) (task : Task δ) (reported : List String)
    (contractDigest : String) (request : ProviderRunner.Request)
    (env : ProviderRunner.Env Node η κ) (input left : Node) (created : κ)
    (h : (liveRun policy request env input left).1 = .done created) :
    ∃ workspace, (liveRun policy request env input left).2.tree .workspace = some workspace ∧
      ¬ Composes policy task reported contractDigest
        (liveEnv policy.sha256 request.limits.limits left env).receipt workspace := by
  obtain ⟨out, hdelivers, hworkspace⟩ := execute_delivers h
  refine ⟨out, hworkspace, ?_⟩
  intro hcomposes
  obtain ⟨records, hrecords⟩ := hcomposes.audited
  exact auditWorkspace_sealed (liveEnv_output hdelivers.output) hrecords

/-! ## A run -/

def sampleScaffold : List UInt8 := "[package]".toUTF8.toList

def samplePolicy : Policy Unit where
  sha256 := fun data => [UInt8.ofNat data.length]
  authoringInputs := fun _ => .ok []
  canonicalCargoManifest := fun _ => .ok sampleScaffold
  validateCargoManifest := fun _ _ => .ok ()
  validateGeneratedSemantics := fun _ _ => .ok ()

def sampleLibrarySource : List UInt8 :=
  "#![no_std]\nextern crate alloc;\n#[global_allocator]\n#[panic_handler]\n".toUTF8.toList

/-- The prepared workspace with one more source file. -/
def sampleLeft : Node :=
  .directory 0o700 [
    ("contracts", .directory 0o700 [("contract.wit", .file 0o444 1 [1])]),
    ("provider-last-message.json", .file 0o600 1 [1]),
    ("source", .directory 0o700 [
      ("Cargo.toml", .file 0o444 1 sampleScaffold),
      ("src", .directory 0o700 [("lib.rs", .file 0o600 1 sampleLibrarySource)]),
      ("wit", .directory 0o700 [("contract.wit", .file 0o444 1 [1])])])]

def sampleReported : List String := ["Cargo.toml", "src/lib.rs", "wit/contract.wit"]

def sampleQuietEnv : ProviderRunner.Env Node Unit Unit where
  fails := fun _ => false
  handle := ()
  receipt := ⟨""⟩
  output := none
  unfinished := none
  remains := fun _ tree => some tree
  bundleDigest := bundleDigest samplePolicy.sha256
  receiptFactory := fun _ => ()

def sampleLiveRun : Ends ProviderRunner.Raised Unit × ProviderRunner.World Node Unit :=
  liveRun samplePolicy ProviderRunner.sampleRequest sampleQuietEnv sampleLeft sampleLeft

/-- What the audit raises. -/
def refusal (workspace : Node) : Option AuditError :=
  match auditWorkspace samplePolicy workspace sampleTask sampleReported "01" with
  | .ok _ => none
  | .error e => some e

/-- The audit accepts what the provider leaves, and refuses what the adapter makes of it. -/
theorem sealed_output_refused :
    refusal sampleLeft = none ∧ sampleLiveRun.1 = .done () ∧
      (sampleLiveRun.2.tree .workspace).map refusal =
        some (some (.worker {
          code := "source-invalid"
          message := "deterministic Cargo.toml scaffold metadata was modified" })) := by
  refine ⟨?_, ?_, ?_⟩
  · decide +kernel
  · decide +kernel
  · decide +kernel

theorem livePath_never_sample :
    ∃ workspace, sampleLiveRun.2.tree .workspace = some workspace ∧
      ¬ Composes samplePolicy sampleTask sampleReported "01"
        (liveEnv samplePolicy.sha256 ProviderRunner.sampleRequest.limits.limits sampleLeft
          sampleQuietEnv).receipt workspace :=
  livePath_never samplePolicy sampleTask sampleReported "01" ProviderRunner.sampleRequest
    sampleQuietEnv sampleLeft sampleLeft () (by decide +kernel)

end Vibapp.CloudAgent
