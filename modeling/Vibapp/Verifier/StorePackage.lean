import Vibapp.Builder.DigestAgreement
import Vibapp.Verifier.Record

/-!
# The store's checks on a promoted package

The files and the record of a promotion are as the checks found them, so the store copies the files,
sees the descriptors of the manifest in them (`validateFiles_listed`), and comes to the same digest
(`packageDigest_agrees`). A manifest with a browser derivation names files that a promotion does not
copy (`derivations_eq_nil`).
-/

namespace Vibapp.Verifier

open Daemon (field asStr)
open Builder (read Listing)
open AppStore (duplicateKey isSha256)

/-! ## What the checks found -/

section Found

variable {μ θ : Type} {library : Library μ θ} {package : Package} {receipt : Receipt} {value : μ}
  {manifest : Manifest}

/-- The file at a path is the one that a descriptor names. -/
structure Described (library : Library μ θ) (package : Package) (name : String) (d : Descriptor) :
    Prop where
  intro ::
  bytes : ∃ data, package.entry name = .regular data ∧ library.sha256 data = d.sha256 ∧
    data.length = d.sizeBytes

theorem readBounded_regular {data : List UInt8} {maximum : Nat} (context : String)
    (hpos : 1 ≤ data.length) (hle : data.length ≤ maximum) :
    readBounded (.regular data) maximum context = .ok data := by
  unfold readBounded
  refine if_neg ?_
  rw [Bool.not_eq_true, Bool.or_eq_false_iff, decide_eq_false_iff_not, decide_eq_false_iff_not]
  omega

theorem readBounded_eq_ok {entry : Entry} {maximum : Nat} {context : String} {data : List UInt8}
    (h : readBounded entry maximum context = .ok data) :
    entry = .regular data ∧ 1 ≤ data.length ∧ data.length ≤ maximum := by
  cases entry with
  | missing => cases h
  | irregular => cases h
  | regular bytes =>
    unfold readBounded at h
    dsimp only at h
    split at h
    · cases h
    · rename_i hbounds
      cases h
      rw [Bool.or_eq_true, decide_eq_true_eq, decide_eq_true_eq, not_or, not_lt] at hbounds
      exact ⟨rfl, Nat.one_le_iff_ne_zero.2 hbounds.1, hbounds.2⟩

theorem validateInventory_described {rows indexed : List PackageFile} {total : Nat}
    {r : List PackageFile × Nat}
    (h : validateInventory library package rows indexed total = .ok r) :
    ∀ row ∈ rows, Described library package row.path ⟨row.sha256, row.sizeBytes⟩ := by
  induction rows generalizing indexed total with
  | nil => exact nofun
  | cons row rest ih =>
    unfold validateInventory at h
    obtain ⟨_, -, h⟩ := bind_eq_ok.1 h
    obtain ⟨_, -, h⟩ := bind_eq_ok.1 h
    obtain ⟨data, hdata, h⟩ := bind_eq_ok.1 h
    obtain ⟨_, hbytes, h⟩ := bind_eq_ok.1 h
    rw [require_eq_ok, Bool.and_eq_true, decide_eq_true_eq, decide_eq_true_eq] at hbytes
    intro other hother
    rcases List.mem_cons.1 hother with rfl | hother
    · exact ⟨data, (readBounded_eq_ok hdata).1, hbytes.2, hbytes.1⟩
    · exact ih h other hother

/-- The inventory accepts rows that are different and as they say. -/
theorem validateInventory_eq_ok {rows indexed : List PackageFile} {total : Nat}
    (hnodup : ((indexed ++ rows).map PackageFile.path).Nodup)
    (hrows : ∀ row ∈ rows, row.path ∈ expectedPackageFiles ∧ ∃ data,
      package.entry row.path = .regular data ∧ library.sha256 data = row.sha256 ∧
        data.length = row.sizeBytes ∧ 1 ≤ row.sizeBytes ∧ row.sizeBytes ≤ maxPackageBytes) :
    validateInventory library package rows indexed total =
      .ok (indexed ++ rows, total + (rows.map PackageFile.sizeBytes).sum) := by
  induction rows generalizing indexed total with
  | nil => simp [validateInventory]
  | cons row rest ih =>
    obtain ⟨hexpected, data, hentry, hsha, hlength, hpos, hle⟩ := hrows row (.head _)
    have hnew : row.path ∉ indexed.map PackageFile.path := by
      intro hmem
      rw [List.map_append, List.nodup_append] at hnodup
      exact hnodup.2.2 _ hmem _ (List.mem_map_of_mem (.head _)) rfl
    have hpath : (expectedPackageFiles.contains row.path &&
        !(indexed.map PackageFile.path).contains row.path) = true := by
      rw [Bool.and_eq_true, Bool.not_eq_true', List.contains_iff_mem, ← Bool.not_eq_true,
        List.contains_iff_mem]
      exact ⟨hexpected, hnew⟩
    have hsize : (decide (1 ≤ row.sizeBytes) && decide (row.sizeBytes ≤ maxPackageBytes)) = true := by
      simp [hpos, hle]
    have hbytes : (decide (data.length = row.sizeBytes) &&
        decide (library.sha256 data = row.sha256)) = true := by simp [hlength, hsha]
    rw [validateInventory, require_of_true hpath, ok_bind, require_of_true hsize, ok_bind, hentry,
      readBounded_regular _ (by omega) (by omega), ok_bind, require_of_true hbytes, ok_bind, ih]
    · rw [List.append_assoc, List.map_cons, List.sum_cons, hlength, Nat.add_assoc]
      rfl
    · rw [List.append_assoc]
      exact hnodup
    · exact fun other hother => hrows other (.tail _ hother)

theorem described_of_describes {rows : List PackageFile} {name : String} {d : Descriptor}
    (hrows : ∀ row ∈ rows, Described library package row.path ⟨row.sha256, row.sizeBytes⟩)
    (h : describes rows name d = true) : Described library package name d := by
  unfold describes at h
  cases hfind : rows.find? (·.path = name) with
  | none =>
    rw [hfind] at h
    cases h
  | some row =>
    rw [hfind, Option.any_some, Bool.and_eq_true, decide_eq_true_eq, decide_eq_true_eq] at h
    have hpath := List.find?_some hfind
    rw [decide_eq_true_eq] at hpath
    obtain ⟨data, hentry, hsha, hsize⟩ := (hrows row (List.mem_of_find?_eq_some hfind)).bytes
    exact ⟨data, hpath ▸ hentry, hsha.trans h.2, hsize.trans h.1⟩

/-- What the checks of the tree say of the manifest. -/
structure Agrees (library : Library μ θ) (package : Package) (value : μ) (manifest : Manifest) :
    Prop where
  schema : library.validateManifestSchema value = .ok manifest
  component : Described library package "component.wasm" manifest.component
  provenance : Described library package "provenance.json" manifest.provenance
  sbom : Described library package "sbom.cdx.json" manifest.sbom

theorem agrees_of_tree (h : validatePackageTree library package receipt = .ok (value, manifest)) :
    Agrees library package value manifest := by
  unfold validatePackageTree at h
  cases package with
  | missing => cases h
  | irregular => cases h
  | directory entries =>
    dsimp only at h
    obtain ⟨_, -, h⟩ := bind_eq_ok.1 h
    obtain ⟨_, -, h⟩ := bind_eq_ok.1 h
    obtain ⟨⟨indexed, total⟩, hinventory, h⟩ := bind_eq_ok.1 h
    obtain ⟨_, -, h⟩ := bind_eq_ok.1 h
    obtain ⟨_, -, h⟩ := bind_eq_ok.1 h
    obtain ⟨_, -, h⟩ := bind_eq_ok.1 h
    obtain ⟨_, hschema, h⟩ := bind_eq_ok.1 h
    obtain ⟨_, -, h⟩ := bind_eq_ok.1 h
    obtain ⟨_, -, h⟩ := bind_eq_ok.1 h
    obtain ⟨_, -, h⟩ := bind_eq_ok.1 h
    obtain ⟨_, hcomponent, h⟩ := bind_eq_ok.1 h
    obtain ⟨_, hprovenance, h⟩ := bind_eq_ok.1 h
    obtain ⟨_, hsbom, h⟩ := bind_eq_ok.1 h
    cases pure_eq_ok.1 h
    have hrows : indexed = receipt.packageFiles := (validateInventory_ok hinventory).1
    have hdescribed := validateInventory_described hinventory
    rw [require_eq_ok, hrows] at hcomponent hprovenance hsbom
    exact ⟨hschema, described_of_describes hdescribed hcomponent,
      described_of_describes hdescribed hprovenance, described_of_describes hdescribed hsbom⟩

/-- What the checks of the digests say of the receipt. -/
structure Digested (library : Library μ θ) (package : Package) (receipt : Receipt)
    (manifest : Manifest) (presentation : Presentation) (component : List UInt8) : Prop where
  presentation : library.deriveHostPresentation manifest = .ok presentation
  componentBytes : readBounded (package.entry "component.wasm") maxComponentBytes "component" =
    .ok component
  componentSha256 : receipt.componentSha256 = library.sha256 component
  manifestSha256 : ∃ data, readBounded (package.entry "manifest.json") maxJsonBytes "manifest" =
    .ok data ∧ receipt.manifestSha256 = library.sha256 data

theorem digested_of_ok {presentation : Presentation} {digest : String} {component : List UInt8}
    (h : validateDigests library package receipt value manifest =
      .ok (presentation, digest, component)) :
    Digested library package receipt manifest presentation component := by
  unfold validateDigests at h
  obtain ⟨_, hpresentation, h⟩ := bind_eq_ok.1 h
  obtain ⟨_, -, h⟩ := bind_eq_ok.1 h
  obtain ⟨_, -, h⟩ := bind_eq_ok.1 h
  obtain ⟨_, -, h⟩ := bind_eq_ok.1 h
  obtain ⟨_, hcomponent, h⟩ := bind_eq_ok.1 h
  obtain ⟨_, hcomponentSha, h⟩ := bind_eq_ok.1 h
  obtain ⟨data, hdata, h⟩ := bind_eq_ok.1 h
  obtain ⟨_, hmanifestSha, h⟩ := bind_eq_ok.1 h
  cases pure_eq_ok.1 h
  rw [require_eq_ok, decide_eq_true_eq] at hcomponentSha hmanifestSha
  exact ⟨hpresentation, hcomponent, hcomponentSha.symm, data, hdata, hmanifestSha.symm⟩

theorem receipt_of_ok {quarantine : Quarantine}
    (h : validateReceipt library quarantine = .ok receipt) :
    receipt.jobId = quarantine.jobName ∧
      ∃ records, receipt.sourceTreeSha256 = library.sourceTreeDigest records := by
  unfold validateReceipt at h
  dsimp only at h
  split at h
  · cases h
  obtain ⟨_, -, h⟩ := bind_eq_ok.1 h
  obtain ⟨_, -, h⟩ := bind_eq_ok.1 h
  obtain ⟨_, -, h⟩ := bind_eq_ok.1 h
  obtain ⟨_, -, h⟩ := bind_eq_ok.1 h
  obtain ⟨found, -, h⟩ := bind_eq_ok.1 h
  obtain ⟨_, hjob, h⟩ := bind_eq_ok.1 h
  obtain ⟨_, -, h⟩ := bind_eq_ok.1 h
  obtain ⟨_, -, h⟩ := bind_eq_ok.1 h
  obtain ⟨records, -, h⟩ := bind_eq_ok.1 h
  obtain ⟨_, htree, h⟩ := bind_eq_ok.1 h
  cases pure_eq_ok.1 h
  rw [require_eq_ok, decide_eq_true_eq] at hjob htree
  exact ⟨hjob, records, htree.symm⟩

end Found

/-! ## Python's library -/

/-- What is used of it: a digest is 64 hexadecimal digits, and a text is read alike from its bytes. -/
structure Documented (python : Python) : Prop where
  isSha256 : ∀ data, isSha256 (python.store.sha256 data) = true
  loads : ∀ data value, python.store.loads data = some value → python.loadsBytes data = some value

variable {python : Python} {tools : Tools} {quarantine : Quarantine} {accepted : Accepted}
  {value : Json} {manifest : Manifest} {component : List UInt8} {wasm : List Check} {guest : Check}

theorem loadJson_of_loads {python : Python} {data : List UInt8} {members : List (String × Json)}
    {context : String} (hloads : python.loadsBytes data = some (.obj members))
    (hkeys : duplicateKey (.obj members) = none) :
    loadJson python data context = .ok members := by
  unfold loadJson
  rw [hloads]
  dsimp only
  rw [hkeys]

theorem loadJson_eq_ok {data : List UInt8} (h : (pipeline python).loadJson data = .ok value) :
    ∃ members, value = .obj members ∧ python.loadsBytes data = some value ∧
      duplicateKey value = none := by
  obtain ⟨members, hmembers, rfl⟩ := map_eq_ok.1 h
  unfold loadJson at hmembers
  cases hloads : python.loadsBytes data with
  | none =>
    rw [hloads] at hmembers
    cases hmembers
  | some found =>
    rw [hloads] at hmembers
    dsimp only at hmembers
    split at hmembers
    · cases hmembers
    · rename_i hkeys
      split at hmembers
      · cases hmembers
        exact ⟨_, rfl, rfl, hkeys⟩
      · cases hmembers

theorem bounded_deriveHostPresentation {kind displayName description : String} {p : Presentation}
    (h : deriveHostPresentation python kind displayName description = .ok p) : p.stored.Bounded := by
  have hsizes : p ∈ [⟨720, 480, 480, 320, false⟩, ⟨520, 300, 420, 240, true⟩,
      ⟨1120, 760, 720, 480, true⟩, ⟨1040, 720, 640, 420, true⟩, ⟨900, 640, 480, 360, true⟩] := by
    unfold deriveHostPresentation at h
    obtain ⟨_, -, h⟩ := bind_eq_ok.1 h
    dsimp only at h
    split_ifs at h
    all_goals
      cases pure_eq_ok.1 h
      simp
  simp only [List.mem_cons, List.not_mem_nil, or_false] at hsizes
  rcases hsizes with rfl | rfl | rfl | rfl | rfl
  all_goals exact ⟨by decide, by decide, by decide, by decide, by decide⟩

theorem packageDigest_eq_ok {digest : String} (h : packageDigest python value = .ok digest) :
    Builder.packageDigest python.store.sha256 python.conversions value = .ok digest := by
  unfold packageDigest at h
  split at h
  · rename_i hok
    cases h
    exact hok
  · cases h
  · cases h

theorem isSha256_packageDigest (hpython : Documented python) {digest : String}
    (h : packageDigest python value = .ok digest) : isSha256 digest = true := by
  have hdigest := packageDigest_eq_ok h
  unfold Builder.packageDigest at hdigest
  split at hdigest
  · cases hdigest
    exact hpython.isSha256 _
  · cases hdigest
  · cases hdigest

/-! ## The record -/

theorem fileSize_eq {μ θ : Type} {library : Library μ θ} {receipt : Receipt} {r : μ × Manifest}
    (h : validatePackageTree library quarantine.package receipt = .ok r) {name : String}
    {data : List UInt8} (hentry : quarantine.package.entry name = .regular data) :
    Candidate.fileSize ⟨some (copies quarantine), none⟩ name = data.length := by
  unfold Candidate.fileSize
  rw [Candidate.entry_eq h, hentry]

theorem checks_eq (h : Passes (pipeline python) tools quarantine accepted value manifest component
    wasm guest) : accepted.checks = promotionChecks := by
  obtain ⟨_, -, hwasm⟩ := bind_eq_ok.1 h.wasmChecks
  have hguest := (guestBounds_of_ok h.guestCheck).2
  rw [h.checks, ← pure_eq_ok.1 hwasm, hguest]
  rfl

theorem storable_record (hpython : Documented python)
    (h : Passes (pipeline python) tools quarantine accepted value manifest component wasm guest)
    {now : String} (hnow : IsMoment now) :
    Storable (recordOf accepted ⟨some (copies quarantine), none⟩ now) := by
  have hdigested := digested_of_ok h.digests
  obtain ⟨data, hdata, hmanifestSha⟩ := hdigested.manifestSha256
  obtain ⟨records, hrecords⟩ := (receipt_of_ok h.receipt).2
  obtain ⟨hcomponent, hcomponentPos, hcomponentLe⟩ := readBounded_eq_ok hdigested.componentBytes
  obtain ⟨hmanifest, hmanifestPos, hmanifestLe⟩ := readBounded_eq_ok hdata
  obtain ⟨receiptBytes, -, hreceipt⟩ := bind_eq_ok.1 h.receiptDigest
  refine {
    sourceTree := ?_
    package := isSha256_packageDigest hpython (validateDigests_ok h.digests)
    component := ?_
    componentSize := ?_
    manifest := ?_
    manifestSize := ?_
    receipt := ?_
    presentation := bounded_deriveHostPresentation hdigested.presentation
    time := hnow
    checks := checks_eq h }
  · change isSha256 accepted.receipt.sourceTreeSha256 = true
    rw [hrecords]
    exact hpython.isSha256 _
  · change isSha256 accepted.receipt.componentSha256 = true
    rw [hdigested.componentSha256]
    exact hpython.isSha256 _
  · have hsize : (recordOf accepted ⟨some (copies quarantine), none⟩ now).component.sizeBytes =
        component.length := fileSize_eq h.tree hcomponent
    rw [hsize]
    exact ⟨hcomponentPos, hcomponentLe⟩
  · change isSha256 accepted.receipt.manifestSha256 = true
    rw [hmanifestSha]
    exact hpython.isSha256 _
  · have hsize : (recordOf accepted ⟨some (copies quarantine), none⟩ now).manifest.sizeBytes =
        data.length := fileSize_eq h.tree hmanifest
    rw [hsize]
    exact ⟨hmanifestPos, hmanifestLe⟩
  · change isSha256 accepted.receiptDigest = true
    rw [← pure_eq_ok.1 hreceipt]
    exact hpython.isSha256 _

/-! ## The files -/

/-- The directory of a candidate as it is handed to the store, which walks the package in some
order. -/
structure SourceOf (candidate : Candidate) (source : AppStore.Source) : Prop where
  intro ::
  name : source.name = "candidate.json"
  parts : ∃ (record : Record) (files walk : List (String × List UInt8)),
    candidate.record = some record ∧ candidate.package = some files ∧
    source.candidate = .regular record.bytes ∧ walk.Perm files ∧
      source.package = .directory (walk.map fun file => .file file.1 (.regular file.2))

/-- A file that the store copies. -/
structure Copyable (file : String × List UInt8) : Prop where
  path : ∀ label, AppStore.artifactPath (.str file.1) label = .ok file.1
  size : file.2.length ≤ AppStore.maxArtifactBytes

/-- The bytes of the files. -/
def totalSize (files : List (String × List UInt8)) : Nat :=
  (files.map fun file => file.2.length).sum

theorem totalSize_cons (file : String × List UInt8) (files : List (String × List UInt8)) :
    totalSize (file :: files) = file.2.length + totalSize files := rfl

theorem totalSize_le {files : List (String × List UInt8)} (h : ∀ file ∈ files, Copyable file) :
    totalSize files ≤ files.length * AppStore.maxArtifactBytes := by
  induction files with
  | nil => exact Nat.le_refl 0
  | cons file rest ih =>
    rw [List.forall_mem_cons] at h
    have hsize := h.1.size
    have hrest := ih h.2
    rw [totalSize_cons, List.length_cons, Nat.succ_mul]
    omega

theorem copyTreeItems_files {files : List (String × List UInt8)} {count total : Nat}
    {tree : AppStore.Tree} (h : ∀ file ∈ files, Copyable file)
    (hcount : count + files.length ≤ AppStore.maxPackageFiles)
    (htotal : total + totalSize files ≤ AppStore.maxPackageBytes) :
    AppStore.copyTreeItems (files.map fun file => .file file.1 (.regular file.2)) count total tree =
      .ok { tree with files := tree.files ++ files } := by
  induction files generalizing count total tree with
  | nil =>
    rw [List.append_nil]
    rfl
  | cons file rest ih =>
    rw [List.forall_mem_cons] at h
    rw [List.length_cons] at hcount
    rw [totalSize_cons] at htotal
    rw [List.map_cons, AppStore.copyTreeItems, raiseIf_of_not (by omega), ok_bind, h.1.path, ok_bind,
      raiseIf_of_not (not_lt.2 h.1.size), ok_bind, ih h.2 (by omega) (by omega)]
    simp [AppStore.Tree.putFile]

/-- A file as the store sees it. -/
def seen (python : Python) (file : String × List UInt8) : AppStore.Observed :=
  ⟨file.1, python.store.sha256 file.2, file.2.length⟩

theorem observe_files {files : List (String × List UInt8)} {observed : List AppStore.Observed}
    {total : Nat} (h : ∀ file ∈ files, Copyable file)
    (hcount : observed.length + files.length ≤ AppStore.maxPackageFiles)
    (htotal : total + totalSize files ≤ AppStore.maxPackageBytes) :
    AppStore.observe python.store files observed total =
      .ok (observed ++ files.map (seen python)) := by
  induction files generalizing observed total with
  | nil =>
    rw [List.map_nil, List.append_nil]
    rfl
  | cons file rest ih =>
    rw [List.forall_mem_cons] at h
    rw [List.length_cons] at hcount
    rw [totalSize_cons] at htotal
    have hread : AppStore.readRegular (some file.2) AppStore.maxArtifactBytes file.1 = .ok file.2 :=
      if_neg (not_lt.2 h.1.size)
    have hlength : (observed ++ [seen python file]).length = observed.length + 1 := by
      rw [List.length_append, List.length_singleton]
    rw [AppStore.observe, h.1.path, ok_bind, hread, ok_bind]
    change (AppStore.raiseIf (AppStore.maxPackageFiles < (observed ++ [seen python file]).length ∨
      AppStore.maxPackageBytes < total + file.2.length) _ _ >>= fun _ =>
        AppStore.observe python.store rest (observed ++ [seen python file])
          (total + file.2.length)) = _
    rw [raiseIf_of_not (by omega), ok_bind, ih h.2 (by omega) (by omega), List.map_cons,
      List.append_assoc]
    rfl

/-- The store copies the record and the files. -/
theorem copyTree_files {source : AppStore.Source} {bytes : List UInt8}
    {walk : List (String × List UInt8)} (hname : source.name = "candidate.json")
    (hbytes : source.candidate = .regular bytes)
    (hwalk : source.package = .directory (walk.map fun file => .file file.1 (.regular file.2)))
    (h : ∀ file ∈ walk, Copyable file) (hcount : walk.length = 4) :
    AppStore.copyTree source = do
      AppStore.raiseIf (AppStore.maxCandidateBytes < bytes.length) "resource-limit"
        ("candidate.json exceeds " ++ toString AppStore.maxCandidateBytes ++ " bytes")
      return ⟨some bytes, walk⟩ := by
  have htotal := totalSize_le h
  have hartifact : AppStore.maxArtifactBytes = 67108864 := rfl
  rw [hcount, hartifact] at htotal
  have hpackage : AppStore.maxPackageBytes = 1073741824 := rfl
  have hfiles : AppStore.maxPackageFiles = 256 := rfl
  unfold AppStore.copyTree
  rw [raiseIf_of_not (not_not.2 hname), ok_bind, hbytes, hwalk]
  dsimp only
  rw [copyTreeItems_files h (by omega) (by omega)]
  rfl

/-! ## What was promoted -/

/-- The files that a promotion has copied, by their descriptors. -/
structure CopiedFiles (python : Python) (quarantine : Quarantine) (manifest : Manifest)
    (component data provenance sbom : List UInt8) : Prop where
  files : copies quarantine = [("component.wasm", component), ("manifest.json", data),
    ("provenance.json", provenance), ("sbom.cdx.json", sbom)]
  copyable : ∀ file ∈ copies quarantine, Copyable file
  component : manifest.component = ⟨python.store.sha256 component, component.length⟩
  provenance : manifest.provenance = ⟨python.store.sha256 provenance, provenance.length⟩
  sbom : manifest.sbom = ⟨python.store.sha256 sbom, sbom.length⟩

theorem artifactPath_expected {name label : String} (h : name ∈ expectedPackageFiles) :
    AppStore.artifactPath (.str name) label = .ok name := by
  simp only [expectedPackageFiles, List.mem_cons, List.not_mem_nil, or_false] at h
  rcases h with rfl | rfl | rfl | rfl
  all_goals rfl

theorem data_of_regular {name : String} {data : List UInt8}
    (h : quarantine.package.entry name = .regular data) :
    (quarantine.package.entry name).data = data := by
  rw [h]
  rfl

theorem copiedFiles_of_passes
    (h : Passes (pipeline python) tools quarantine accepted value manifest component wasm guest)
    {data : List UInt8} (hdata : quarantine.package.entry "manifest.json" = .regular data) :
    ∃ provenance sbom,
      CopiedFiles python quarantine manifest component data provenance sbom := by
  have hagrees := agrees_of_tree h.tree
  have hcomponent := (readBounded_eq_ok (digested_of_ok h.digests).componentBytes).1
  obtain ⟨bytes, hbytes, hcomponentSha, hcomponentSize⟩ := hagrees.component.bytes
  obtain ⟨provenance, hprovenance, hprovenanceSha, hprovenanceSize⟩ := hagrees.provenance.bytes
  obtain ⟨sbom, hsbom, hsbomSha, hsbomSize⟩ := hagrees.sbom.bytes
  cases hcomponent.symm.trans hbytes
  refine ⟨provenance, sbom, ?_, ?_, ?_, ?_, ?_⟩
  · unfold copies expectedPackageFiles
    simp only [List.map_cons, List.map_nil, data_of_regular hcomponent, data_of_regular hdata,
      data_of_regular hprovenance, data_of_regular hsbom]
  · intro file hfile
    obtain ⟨name, hname, rfl⟩ := List.mem_map.1 hfile
    obtain ⟨found, hfound⟩ := (validatePackageTree_ok h.tree).2.1 name hname
    obtain ⟨hentry, -, hle⟩ := readBounded_eq_ok hfound
    refine ⟨fun _ => artifactPath_expected hname, ?_⟩
    rw [data_of_regular hentry]
    exact hle
  · exact congrArg₂ Descriptor.mk hcomponentSha.symm hcomponentSize.symm
  · exact congrArg₂ Descriptor.mk hprovenanceSha.symm hprovenanceSize.symm
  · exact congrArg₂ Descriptor.mk hsbomSha.symm hsbomSize.symm

/-! ## The store's checks of the package -/

theorem boundedSize_of {n maximum : Nat} {code message : String} (h : 1 ≤ n) (hle : n ≤ maximum) :
    AppStore.boundedSize (.int n) maximum code message = .ok n := by
  have hbounds : 1 ≤ (n : Int) ∧ (n : Int) ≤ maximum := ⟨by omega, by omega⟩
  exact if_pos hbounds

theorem validateManifest_of_loads {record : Record} {members : List (String × Json)}
    {data : List UInt8} (h : Storable record)
    (hmanifest : record.manifest = ⟨python.store.sha256 data, data.length⟩)
    (hloads : python.store.loads data = some (.obj members))
    (hkeys : duplicateKey (.obj members) = none) (hnative : NativeManifest members) :
    AppStore.validateManifest python.store (Json.sorted record.members) data = .ok members := by
  have hreference : field (Json.sorted record.members) "manifest" =
      Json.sortKeys (record.manifest.toJson "manifest.json") := record.field_eq "manifest"
  obtain ⟨reference, hexact, hpath, hsha, hsize⟩ :=
    exactObject_descriptor "manifest.json" "candidate.manifest" record.manifest
  obtain ⟨verification, hverification, hrevocation⟩ := hnative.verification
  have hpos := h.manifestSize.1
  have hle : record.manifest.sizeBytes ≤ AppStore.maxManifestBytes := h.manifestSize.2
  have hstrict : AppStore.strictJson python.store data "manifest" = .ok (.obj members) := by
    unfold AppStore.strictJson
    rw [hloads]
    dsimp only
    rw [hkeys]
  rw [AppStore.validateManifest, hreference, hexact, ok_bind, hsize,
    boundedSize_of hpos hle, ok_bind, hpath, hsha, hmanifest]
  dsimp only
  rw [raiseIf_of_not, ok_bind, hstrict, ok_bind]
  · dsimp only
    rw [raiseIf_of_not, ok_bind, hverification]
    · dsimp only
      rw [raiseIf_of_not (not_not.2 hrevocation)]
      rfl
    · rw [not_or, not_not, not_not]
      exact hnative.contract
  · rw [not_or, not_or, not_not, not_not, not_not]
    exact ⟨rfl, rfl, rfl⟩

theorem find?_seen {walk : List (String × List UInt8)} (hnodup : (walk.map Prod.fst).Nodup)
    {file : String × List UInt8} (h : file ∈ walk) :
    (walk.map (seen python)).find? (·.path = file.1) = some (seen python file) := by
  obtain ⟨found, hfound, hbytes⟩ :=
    Option.map_eq_some_iff.1 (AppStore.find?_of_mem hnodup (a := file.1) (b := file.2) h)
  have hname : found.1 = file.1 := by simpa using List.find?_some hfound
  rw [List.find?_map]
  exact congrArg (Option.map (seen python)) (hfound.trans (congrArg some (Prod.ext hname hbytes)))

theorem paths_seen (walk : List (String × List UInt8)) :
    (walk.map (seen python)).map (·.path) = walk.map Prod.fst := by
  rw [List.map_map]
  rfl

/-- The package of a manifest without derivations has exactly its files. -/
theorem validateFiles_listed {component data provenance sbom : List UInt8}
    (h : CopiedFiles python quarantine manifest component data provenance sbom)
    {walk : List (String × List UInt8)} (hwalk : walk.Perm (copies quarantine)) :
    AppStore.validateFiles ((listed manifest).1 :: (listed manifest).2)
      (walk.map (seen python)) = .ok () := by
  have hnames : ((copies quarantine).map Prod.fst) = expectedPackageFiles := by
    rw [h.files]
    rfl
  have hperm : (walk.map Prod.fst).Perm expectedPackageFiles := hnames ▸ hwalk.map Prod.fst
  have hnodup : (walk.map Prod.fst).Nodup := hperm.nodup_iff.2 (by decide)
  have hsignature : "signature.json" ∉ walk.map Prod.fst := by
    rw [hperm.mem_iff]
    decide
  have hcontains : (walk.map Prod.fst).contains = expectedPackageFiles.contains := by
    funext name
    rw [Bool.eq_iff_iff, List.contains_iff_mem, List.contains_iff_mem, hperm.mem_iff]
  have hfile : ∀ file ∈ copies quarantine, (walk.map (seen python)).find? (·.path = file.1) =
      some (seen python file) := fun file hfile => find?_seen hnodup (hwalk.mem_iff.2 hfile)
  simp only [h.files, List.forall_mem_cons, List.not_mem_nil, false_implies, implies_true,
    and_true] at hfile
  obtain ⟨hcomponent, -, hprovenance, hsbom⟩ := hfile
  have hexpected : ("manifest.json" :: []) ++
      ((listed manifest).1 :: (listed manifest).2).map (·.path) =
        ["manifest.json", "component.wasm", "provenance.json", "sbom.cdx.json"] := rfl
  unfold AppStore.validateFiles
  rw [paths_seen]
  dsimp only
  rw [if_neg hsignature, hexpected, hperm.all_eq, hcontains, raiseIf_of_not (by decide), ok_bind]
  refine forM_eq_ok.2 fun d hd => ?_
  simp only [listed, storeDescriptor, List.mem_cons, List.not_mem_nil, or_false] at hd
  rcases hd with rfl | rfl | rfl
  · dsimp only
    rw [hcomponent, h.component]
    exact raiseIf_of_not (not_not.2 rfl)
  · dsimp only
    rw [hprovenance, h.provenance]
    exact raiseIf_of_not (not_not.2 rfl)
  · dsimp only
    rw [hsbom, h.sbom]
    exact raiseIf_of_not (not_not.2 rfl)

/-- The record names the component of the manifest. -/
theorem validateComponent_record {record : Record} (h : Storable record)
    (hcomponent : record.component = manifest.component) :
    AppStore.validateComponent (Json.sorted record.members) (listed manifest).1 = .ok () := by
  have hreference : field (Json.sorted record.members) "component" =
      Json.sortKeys (record.component.toJson "component.wasm") := record.field_eq "component"
  obtain ⟨reference, hexact, hpath, hsha, hsize⟩ :=
    exactObject_descriptor "component.wasm" "candidate.component" record.component
  have hle : record.component.sizeBytes ≤ 16 * 1024 * 1024 := h.componentSize.2
  rw [AppStore.validateComponent, hreference, hexact, ok_bind, hsize,
    boundedSize_of h.componentSize.1 hle, ok_bind, hpath, hsha, hcomponent]
  refine raiseIf_of_not ?_
  rw [not_or, not_or, not_not, not_not, not_not]
  exact ⟨rfl, rfl, rfl⟩

/-! ## One digest -/

theorem pipeline_packageDigest (python : Python) :
    (pipeline python).packageDigest = packageDigest python := rfl

theorem pipeline_sha256 (python : Python) : (pipeline python).sha256 = python.store.sha256 := rfl

theorem packageDigest_of_preimage {python : Python} {value : Json} {bytes : List UInt8}
    (h : Builder.preimage python.conversions value = .ok bytes) :
    packageDigest python value = .ok (python.store.sha256 bytes) := by
  unfold packageDigest Builder.packageDigest
  rw [h]

/-- The store gives a manifest that it lists the verifier's digest. -/
theorem packageDigest_agrees {members : List (String × Json)} {component : AppStore.Descriptor}
    {rest : List AppStore.Descriptor} {digest : String}
    (hdescriptors : AppStore.manifestDescriptors members = .ok (component, rest))
    (hdigest : packageDigest python (.obj members) = .ok digest) :
    AppStore.packageDigest python.store (.obj members) (component :: rest) = digest := by
  obtain ⟨l, hl, hrows, hpaths⟩ := Builder.lists_of_store hdescriptors
  have hcollected := l.collected_perm
  rw [Builder.eq_of_packageDigest hl (packageDigest_eq_ok hdigest), Builder.packageDigest_store,
    ← hrows, Builder.byPath, Builder.byPath, insertionSort_eq_of_perm (·.path) hcollected
      ((hcollected.map _).nodup_iff.2 hpaths)]

/-! ## Derivations -/

theorem paths_of_descriptors {members : List (String × Json)} {component : AppStore.Descriptor}
    {rest : List AppStore.Descriptor}
    (h : AppStore.manifestDescriptors members = .ok (component, rest)) :
    "manifest.json" ∉ (component :: rest).map (·.path) := by
  unfold AppStore.manifestDescriptors at h
  split at h
  · obtain ⟨_, -, h⟩ := bind_eq_ok.1 h
    split at h
    · obtain ⟨_, -, h⟩ := bind_eq_ok.1 h
      split at h
      · obtain ⟨_, -, h⟩ := bind_eq_ok.1 h
        obtain ⟨_, -, h⟩ := bind_eq_ok.1 h
        obtain ⟨_, -, h⟩ := bind_eq_ok.1 h
        obtain ⟨_, -, h⟩ := bind_eq_ok.1 h
        obtain ⟨_, -, h⟩ := bind_eq_ok.1 h
        obtain ⟨_, hpaths, h⟩ := bind_eq_ok.1 h
        cases pure_eq_ok.1 h
        rw [AppStore.raiseIf_eq_ok, not_or, not_or] at hpaths
        exact hpaths.2.1
      · cases h
    · cases h
  · cases h

/-- A derivation has files of its own, for which the package of a promotion has no place. -/
theorem derivations_eq_nil {component data provenance sbom : List UInt8}
    (h : CopiedFiles python quarantine manifest component data provenance sbom)
    {walk : List (String × List UInt8)} (hwalk : walk.Perm (copies quarantine))
    {members : List (String × Json)} {canonical : AppStore.Descriptor}
    {rest : List AppStore.Descriptor}
    (hdescriptors : AppStore.manifestDescriptors members = .ok (canonical, rest)) {u : Unit}
    (hfiles : AppStore.validateFiles (canonical :: rest) (walk.map (seen python)) = .ok u) :
    read (read (.obj members) "artifacts") "browser_derivations" = .arr [] := by
  obtain ⟨l, hl, hrows, hpaths⟩ := Builder.lists_of_store hdescriptors
  obtain ⟨items, hitems, hderived⟩ := hl.derived
  have hnames : ((copies quarantine).map Prod.fst) = expectedPackageFiles := by
    rw [h.files]
    rfl
  have hperm : (walk.map Prod.fst).Perm expectedPackageFiles := hnames ▸ hwalk.map Prod.fst
  have hsubset : l.rows.map (·.path) ⊆ ["component.wasm", "provenance.json", "sbom.cdx.json"] := by
    have hmanifest := paths_of_descriptors hdescriptors
    unfold AppStore.validateFiles at hfiles
    rw [paths_seen] at hfiles
    obtain ⟨_, hsame, -⟩ := bind_eq_ok.1 hfiles
    rw [AppStore.raiseIf_eq_ok, not_not, Bool.and_eq_true, List.all_eq_true, List.all_eq_true]
      at hsame
    have hrowPaths : l.rows.map (·.path) = (canonical :: rest).map (·.path) := by
      rw [hrows, List.map_map]
      rfl
    intro path hpath
    rw [hrowPaths] at hpath
    have hseen := List.contains_iff_mem.1 (hsame.2 path (List.mem_append_right _ hpath))
    rw [hperm.mem_iff] at hseen
    have hne : path ≠ "manifest.json" := by
      rintro rfl
      exact hmanifest hpath
    simp only [expectedPackageFiles, List.mem_cons, List.not_mem_nil, or_false] at hseen ⊢
    rcases hseen with rfl | rfl | rfl | rfl
    · exact .inl rfl
    · exact absurd rfl hne
    · exact .inr (.inl rfl)
    · exact .inr (.inr rfl)
  have hlength := (List.subperm_of_subset hpaths hsubset).length_le
  obtain ⟨component', assets, derived, provenance', sbom'⟩ := l
  rw [hitems]
  cases hderived with
  | nil => rfl
  | cons hhead _ =>
    obtain ⟨files, attestation, -, -, rfl⟩ := hhead.parts
    simp [Listing.rows] at hlength
    omega

end Vibapp.Verifier
