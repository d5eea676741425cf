import Vibapp.Verifier.Runs
import Vibapp.Verifier.StorePackage

/-!
# The snapshot of a promotion

What a promotion hands to the store, and what the store makes of it: the snapshot of the directory is
validated exactly where the record and the manifest are within the bounds that the verifier does not
look at (`Promotes.snapshot`, `Promotes.bounds`).
-/

namespace Vibapp.Verifier

open Daemon (field)
open Builder (read)
open AppStore (duplicateKey)

variable {python : Python} {tools : Tools} {quarantine : Quarantine} {accepted : Accepted}
  {value : Json} {manifest : Manifest} {component : List UInt8} {wasm : List Check} {guest : Check}

/-! ## The snapshot -/

/-- What a promotion hands to the store. -/
structure Promotes (python : Python) (quarantine : Quarantine) (record : Record)
    (members : List (String × Json)) (component data provenance sbom : List UInt8) : Prop where
  storable : Storable record
  job : record.jobId = quarantine.jobName
  manifestEntry : quarantine.package.entry "manifest.json" = .regular data
  loads : python.loadsBytes data = some (.obj members)
  keys : duplicateKey (.obj members) = none
  schema : validateManifestSchema (.obj members) = .ok ()
  guest : GuestBounds (manifestOf (.obj members))
  files : CopiedFiles python quarantine (manifestOf (.obj members)) component data provenance sbom
  digest : packageDigest python (.obj members) = .ok record.packageDigestSha256
  manifest : record.manifest = ⟨python.store.sha256 data, data.length⟩
  component : record.component = (manifestOf (.obj members)).component

theorem promotes_of_passes (hpython : Documented python)
    (h : Passes (pipeline python) tools quarantine accepted value manifest component wasm guest)
    {now : String} (hnow : IsMoment now) :
    ∃ members data provenance sbom, Promotes python quarantine
      (recordOf accepted ⟨some (copies quarantine), none⟩ now) members component data provenance
        sbom := by
  have hdigested := digested_of_ok h.digests
  have hagrees := agrees_of_tree h.tree
  obtain ⟨-, -, data, hdata, hvalue⟩ := validatePackageTree_ok h.tree
  obtain ⟨members, rfl, hloads, hkeys⟩ := loadJson_eq_ok hvalue
  obtain ⟨_, hschema, hmanifest⟩ := bind_eq_ok.1 hagrees.schema
  cases pure_eq_ok.1 hmanifest
  obtain ⟨hentry, -⟩ := readBounded_eq_ok hdata
  obtain ⟨provenance, sbom, hfiles⟩ := copiedFiles_of_passes h hentry
  obtain ⟨data', hdata', hmanifestSha⟩ := hdigested.manifestSha256
  cases hdata.symm.trans hdata'
  have hcomponent := (readBounded_eq_ok hdigested.componentBytes).1
  refine ⟨members, data, provenance, sbom, {
    storable := storable_record hpython h hnow
    job := (receipt_of_ok h.receipt).1
    manifestEntry := hentry
    loads := hloads
    keys := hkeys
    schema := hschema
    guest := (guestBounds_of_ok h.guestCheck).1
    files := hfiles
    digest := validateDigests_ok h.digests
    manifest := congrArg₂ Descriptor.mk hmanifestSha (fileSize_eq h.tree hentry)
    component := ?_ }⟩
  rw [hfiles.component]
  exact congrArg₂ Descriptor.mk hdigested.componentSha256 (fileSize_eq h.tree hcomponent)

/-- What the store asks beyond the verifier of a manifest that it can read. -/
structure ManifestBounds (manifest : Json) : Prop where
  derivations : read (read manifest "artifacts") "browser_derivations" = .arr []
  app : AppFits (read manifest "app")
  state : StateOrdered (read manifest "state")

section Snapshot

variable {record : Record} {members : List (String × Json)}
  {component data provenance sbom : List UInt8} {walk : List (String × List UInt8)}

theorem Promotes.lookup_manifest
    (h : Promotes python quarantine record members component data provenance sbom)
    (hwalk : walk.Perm (copies quarantine)) : walk.lookup "manifest.json" = some data := by
  have hnodup : ((copies quarantine).map Prod.fst).Nodup := by
    rw [h.files.files]
    change ["component.wasm", "manifest.json", "provenance.json", "sbom.cdx.json"].Nodup
    decide
  rw [Json.lookup_of_perm hwalk ((hwalk.map Prod.fst).nodup_iff.2 hnodup), h.files.files]
  rfl

theorem Promotes.observe_walk
    (h : Promotes python quarantine record members component data provenance sbom)
    (hwalk : walk.Perm (copies quarantine)) :
    AppStore.observe python.store walk [] 0 = .ok (walk.map (seen python)) := by
  have hcopyable : ∀ file ∈ walk, Copyable file := fun file hfile =>
    h.files.copyable file (hwalk.mem_iff.1 hfile)
  have hcount : walk.length = 4 := by
    rw [hwalk.length_eq, h.files.files]
    rfl
  have htotal := totalSize_le hcopyable
  have hartifact : AppStore.maxArtifactBytes = 67108864 := rfl
  rw [hcount, hartifact] at htotal
  have hpackage : AppStore.maxPackageBytes = 1073741824 := rfl
  have hfiles : AppStore.maxPackageFiles = 256 := rfl
  rw [observe_files hcopyable (by rw [List.length_nil]; omega) (by omega), List.nil_append]

/-- The presentation of the record is read back. -/
theorem presentation_record (h : Storable record) (kind displayName description : Json) :
    AppStore.presentation python.store (field (Json.sorted record.members) "presentation") kind
      displayName description = .ok record.presentation.stored := by
  have hfield : field (Json.sorted record.members) "presentation" =
      Json.sortKeys record.presentation.stored.toJson := record.field_eq "presentation"
  rw [hfield]
  exact AppStore.presentation_toJson h.presentation kind displayName description

theorem readRegular_of_le {bytes : List UInt8} {maximum : Nat} {label : String}
    (h : bytes.length ≤ maximum) : AppStore.readRegular (some bytes) maximum label = .ok bytes :=
  if_neg (not_lt.2 h)

theorem strictJson_of_loads {bytes : List UInt8} {label : String} {value : Json}
    (hloads : python.store.loads bytes = some value) (hkeys : duplicateKey value = none) :
    AppStore.strictJson python.store bytes label = .ok value := by
  unfold AppStore.strictJson
  rw [hloads]
  dsimp only
  rw [hkeys]

/-- **The store validates** what is within its bounds. -/
theorem Promotes.snapshot
    (h : Promotes python quarantine record members component data provenance sbom)
    (hwalk : walk.Perm (copies quarantine)) (hjob : Fits 128 record.jobId)
    (hreads : python.store.loads record.bytes = some (.obj (Json.sorted record.members)))
    (hloads : python.store.loads data = some (.obj members))
    (hbounds : ManifestBounds (.obj members)) (now : String) :
    ∃ release, AppStore.validateSnapshot python.store ⟨some record.bytes, walk⟩ now = .ok release ∧
      release.packageSha256 = record.packageDigestSha256 := by
  have hnative := nativeManifest_of_schema h.schema hbounds.derivations
  obtain ⟨app, happ⟩ := hnative.app
  have hpresentation : ∀ kind displayName description, ∃ p, AppStore.presentation python.store
      (field (Json.sorted record.members) "presentation") kind displayName description = .ok p :=
    fun kind displayName description => ⟨_, presentation_record h.storable kind displayName description⟩
  obtain ⟨identity, hidentity⟩ := (validateApp_iff happ h.guest hpresentation).2 hbounds.app
  obtain ⟨⟨world, profiles, platforms, entrypoints, capabilities⟩, hruntime⟩ := hnative.runtime
  obtain ⟨state, hstate⟩ := (validateState_iff hnative.state).2 hbounds.state
  have hdescriptors := manifestDescriptors_of_artifacts hnative.artifacts
  have hrecordKeys := duplicateKey_sorted record
  have hcandidateBytes : AppStore.readRegular (some record.bytes) AppStore.maxCandidateBytes
      "candidate.json" = .ok record.bytes := readRegular_of_le (length_bytes_le h.storable hjob)
  have hmanifestBytes : AppStore.readRegular (walk.lookup "manifest.json")
      AppStore.maxManifestBytes "manifest.json" = .ok data := by
    have hle : data.length ≤ AppStore.maxManifestBytes := by
      have hsize := h.storable.manifestSize.2
      rw [h.manifest] at hsize
      exact hsize
    rw [h.lookup_manifest hwalk]
    exact readRegular_of_le hle
  have hfiles := validateFiles_listed h.files hwalk
  have hcomponent := validateComponent_record h.storable h.component
  generalize listed (manifestOf (.obj members)) = descriptors at hdescriptors hfiles hcomponent
  obtain ⟨canonical, rest⟩ := descriptors
  have hdigest := packageDigest_agrees hdescriptors h.digest
  unfold AppStore.validateSnapshot
  rw [hcandidateBytes, ok_bind, strictJson_of_loads hreads hrecordKeys, ok_bind,
    candidateMembers_record, ok_bind, validateCandidate_eq_ok h.storable hjob, ok_bind]
  dsimp only
  rw [hmanifestBytes, ok_bind, validateManifest_of_loads h.storable h.manifest hloads h.keys hnative,
    ok_bind, hdescriptors, ok_bind]
  dsimp only
  rw [h.observe_walk hwalk, ok_bind, hfiles, ok_bind, hcomponent, ok_bind,
    raiseIf_of_not (not_not.2 hdigest), ok_bind, hidentity, ok_bind, hruntime, ok_bind]
  dsimp only
  rw [hstate]
  exact ⟨_, rfl, rfl⟩

/-- **The bounds are needed**: what the store validates is within them. -/
theorem Promotes.bounds
    (h : Promotes python quarantine record members component data provenance sbom)
    (hpython : Documented python) (hwalk : walk.Perm (copies quarantine))
    (hreads : python.store.loads record.bytes = some (.obj (Json.sorted record.members)))
    {now : String} {release : AppStore.Release}
    (hvalid : AppStore.validateSnapshot python.store ⟨some record.bytes, walk⟩ now = .ok release) :
    Fits 128 record.jobId ∧ python.store.loads data = some (.obj members) ∧
      ManifestBounds (.obj members) := by
  unfold AppStore.validateSnapshot at hvalid
  obtain ⟨bytes, hbytes, hvalid⟩ := bind_eq_ok.1 hvalid
  obtain rfl : record.bytes = bytes := Option.some.inj (AppStore.readRegular_eq_ok hbytes)
  obtain ⟨found, hfound, hvalid⟩ := bind_eq_ok.1 hvalid
  have hrecordKeys := duplicateKey_sorted record
  cases (strictJson_of_loads hreads hrecordKeys).symm.trans hfound
  obtain ⟨candidate, hcandidate, hvalid⟩ := bind_eq_ok.1 hvalid
  cases (candidateMembers_record record).symm.trans hcandidate
  obtain ⟨⟨expected, verification⟩, hexpected, hvalid⟩ := bind_eq_ok.1 hvalid
  obtain ⟨manifestBytes, hmanifestBytes, hvalid⟩ := bind_eq_ok.1 hvalid
  cases (h.lookup_manifest hwalk).symm.trans (AppStore.readRegular_eq_ok hmanifestBytes)
  obtain ⟨manifest, hmanifest, hvalid⟩ := bind_eq_ok.1 hvalid
  have hloads := (Builder.loads_of_validateManifest hmanifest).1
  cases (hpython.loads _ _ hloads).symm.trans h.loads
  obtain ⟨⟨canonical, rest⟩, hdescriptors, hvalid⟩ := bind_eq_ok.1 hvalid
  obtain ⟨observed, hobserved, hvalid⟩ := bind_eq_ok.1 hvalid
  cases (h.observe_walk hwalk).symm.trans hobserved
  obtain ⟨_, hfiles, hvalid⟩ := bind_eq_ok.1 hvalid
  obtain ⟨_, -, hvalid⟩ := bind_eq_ok.1 hvalid
  obtain ⟨_, -, hvalid⟩ := bind_eq_ok.1 hvalid
  obtain ⟨identity, hidentity, hvalid⟩ := bind_eq_ok.1 hvalid
  obtain ⟨_, -, hvalid⟩ := bind_eq_ok.1 hvalid
  obtain ⟨state, hstate, -⟩ := bind_eq_ok.1 hvalid
  have hderivations := derivations_eq_nil h.files hwalk hdescriptors hfiles
  have hnative := nativeManifest_of_schema h.schema hderivations
  obtain ⟨app, happ⟩ := hnative.app
  refine ⟨fits_of_validateCandidate hexpected, hloads, hderivations, ?_, ?_⟩
  · have hpresentation : ∀ kind displayName description, ∃ p, AppStore.presentation python.store
        (field (Json.sorted record.members) "presentation") kind displayName description = .ok p :=
      fun kind displayName description =>
        ⟨_, presentation_record h.storable kind displayName description⟩
    exact (validateApp_iff happ h.guest hpresentation).1 ⟨identity, hidentity⟩
  · exact (validateState_iff hnative.state).1 ⟨state, hstate⟩

end Snapshot

end Vibapp.Verifier
