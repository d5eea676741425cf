import Vibapp.AppStore.CatalogLaws
import Vibapp.Builder.PackageDigest

/-!
# One digest of a package

**Theorem (`package_digests_agree`).** The builder, the store and the daemon give a package that
all three accept one digest. The store's checks make the manifest a listing with distinct paths; the
daemon's and the builder's readings are functions of that listing. The builder collects the rows in
another order and each side sees the files of the directory in its own, but a list with distinct
paths has one sort by them.
-/

namespace Vibapp.Builder

open Daemon (field Descriptor packBE packageMagic)
open AppStore (duplicateKey canonicalJson)

/-! ## The store -/

/-- The row of a descriptor of the store. -/
def row (d : AppStore.Descriptor) : Descriptor := ⟨d.path, d.sha256, d.sizeBytes⟩

theorem boundedSize_eq_ok {value : Json} {maximum n : Nat} {code message : String}
    (h : AppStore.boundedSize value maximum code message = .ok n) :
    value = .int n ∧ n ≤ maximum := by
  unfold AppStore.boundedSize at h
  cases value with
  | int size =>
    simp only [Daemon.asInt] at h
    split at h
    · rename_i hsize
      cases h
      exact ⟨by rw [Int.toNat_of_nonneg (by omega)], by omega⟩
    · cases h
  | _ => cases h

theorem digest_eq_ok {value : Json} {label s : String} (h : AppStore.digest value label = .ok s) :
    value = .str s ∧ AppStore.isSha256 s = true := by
  unfold AppStore.digest at h
  cases value with
  | str t =>
    dsimp only at h
    split at h
    · rename_i hsha
      cases h
      exact ⟨rfl, hsha⟩
    · cases h
  | _ => cases h

theorem artifactPath_eq_ok {value : Json} {label s : String}
    (h : AppStore.artifactPath value label = .ok s) : value = .str s ∧ s.utf8ByteSize ≤ 240 := by
  unfold AppStore.artifactPath at h
  obtain ⟨path, hpath, h⟩ := bind_eq_ok.1 h
  have heq : path = s := by
    dsimp only at h
    split at h
    · cases h
    · split at h
      · cases h
      · exact pure_eq_ok.1 h
  subst heq
  unfold AppStore.text at hpath
  cases value with
  | str t =>
    dsimp only at hpath
    split at hpath
    · cases hpath
    · rename_i hbound
      cases hpath
      exact ⟨rfl, by omega⟩
  | _ => cases hpath

theorem reads_of_store {value : Json} {label : String} {d : AppStore.Descriptor}
    (h : AppStore.descriptor value label = .ok d) : Reads value (row d) := by
  unfold AppStore.descriptor at h
  cases value with
  | obj members =>
    dsimp only at h
    split at h
    · obtain ⟨path, hpath, h⟩ := bind_eq_ok.1 h
      obtain ⟨sha, hsha, h⟩ := bind_eq_ok.1 h
      obtain ⟨size, hsize, h⟩ := bind_eq_ok.1 h
      obtain ⟨media, -, h⟩ := bind_eq_ok.1 h
      cases pure_eq_ok.1 h
      obtain ⟨hpath, hle⟩ := artifactPath_eq_ok hpath
      obtain ⟨hsha, hhex⟩ := digest_eq_ok hsha
      obtain ⟨hsize, hmaximum⟩ := boundedSize_eq_ok hsize
      have hlt : (size : Int) < 256 ^ 8 := by
        have : AppStore.maxArtifactBytes < 256 ^ 8 := by decide
        exact_mod_cast lt_of_le_of_lt hmaximum this
      exact {
        path := hpath
        sha256 := hsha
        size := hsize
        path_le := hle
        isSha256 := hhex
        size_nonneg := Int.natCast_nonneg size
        size_lt := hlt }
    · cases h
  | _ => cases h

theorem readsAll_of_store {items : List Json} {label : String} {ds : List AppStore.Descriptor}
    (h : items.mapM (fun item => AppStore.descriptor item label) = .ok ds) :
    ReadsAll (.arr items) (ds.map row) :=
  ⟨items, rfl, List.forall₂_map_right_iff.2 ((mapM_eq_ok.1 h).imp fun _ _ => reads_of_store)⟩

theorem readsDerivation_of_store {component : AppStore.Descriptor} {derivation : Json}
    {ds : List AppStore.Descriptor}
    (h : AppStore.derivationDescriptors component derivation = .ok ds) :
    ReadsDerivation derivation (ds.map row) := by
  unfold AppStore.derivationDescriptors at h
  cases derivation with
  | obj members =>
    dsimp only at h
    split at h
    · rename_i files hfiles
      obtain ⟨_, -, h⟩ := bind_eq_ok.1 h
      obtain ⟨normalized, hnormalized, h⟩ := bind_eq_ok.1 h
      obtain ⟨_, -, h⟩ := bind_eq_ok.1 h
      obtain ⟨_, -, h⟩ := bind_eq_ok.1 h
      obtain ⟨_, -, h⟩ := bind_eq_ok.1 h
      obtain ⟨attestation, hattestation, h⟩ := bind_eq_ok.1 h
      cases pure_eq_ok.1 h
      refine ⟨normalized.map row, row attestation, ?_, reads_of_store hattestation, ?_⟩
      · change ReadsAll (field members "files") _
        rw [hfiles]
        exact readsAll_of_store hnormalized
      · rw [List.map_append, List.map_singleton]
    · cases h
  | _ => cases h

/-- What the store accepts is a listing with distinct paths. -/
theorem lists_of_store {manifest : List (String × Json)} {component : AppStore.Descriptor}
    {rest : List AppStore.Descriptor}
    (h : AppStore.manifestDescriptors manifest = .ok (component, rest)) :
    ∃ l, Lists (.obj manifest) l ∧ l.rows = (component :: rest).map row ∧
      (l.rows.map (·.path)).Nodup := by
  unfold AppStore.manifestDescriptors at h
  split at h
  · rename_i artifacts hartifacts
    obtain ⟨c, hcomponent, h⟩ := bind_eq_ok.1 h
    split at h
    · rename_i assets hassets
      obtain ⟨_, -, h⟩ := bind_eq_ok.1 h
      split at h
      · rename_i derivations hderivations
        obtain ⟨_, -, h⟩ := bind_eq_ok.1 h
        obtain ⟨as, has, h⟩ := bind_eq_ok.1 h
        obtain ⟨derived, hderived, h⟩ := bind_eq_ok.1 h
        obtain ⟨provenance, hprovenance, h⟩ := bind_eq_ok.1 h
        obtain ⟨sbom, hsbom, h⟩ := bind_eq_ok.1 h
        obtain ⟨_, hpaths, h⟩ := bind_eq_ok.1 h
        cases pure_eq_ok.1 h
        rw [AppStore.raiseIf_eq_ok, not_or, not_not] at hpaths
        have hread : ∀ key, read (read (.obj manifest) "artifacts") key = field artifacts key := by
          intro key
          change read (field manifest "artifacts") key = _
          rw [hartifacts]
          rfl
        have hrows : Listing.rows ⟨row component, as.map row, derived.map (List.map row),
            row provenance, row sbom⟩ =
              (component :: (as ++ derived.flatten ++ [provenance, sbom])).map row := by
          simp [Listing.rows, List.map_flatten]
        refine ⟨_, ⟨?_, ?_, ⟨derivations, ?_, ?_⟩, ?_, ?_⟩, hrows, ?_⟩
        · rw [hread]
          exact reads_of_store hcomponent
        · rw [hread, hassets]
          exact readsAll_of_store has
        · rw [hread, hderivations]
        · exact List.forall₂_map_right_iff.2
            ((mapM_eq_ok.1 hderived).imp fun _ _ => readsDerivation_of_store)
        · rw [hread]
          exact reads_of_store hprovenance
        · rw [hread]
          exact reads_of_store hsbom
        · rw [hrows, List.map_map]
          exact hpaths.1
      · cases h
    · cases h
  · cases h

/-! ## The daemon -/

theorem boundedText_eq_ok {value : Json} {name s : String} {maximum : Nat}
    (h : Daemon.boundedText value name maximum = .ok s) : value = .str s := by
  unfold Daemon.boundedText at h
  cases value with
  | str t =>
    dsimp only at h
    split at h
    · cases h
      rfl
    · cases h
  | _ => cases h

theorem daemon_digest_eq_ok {value : Json} {name s : String}
    (h : Daemon.digest value name = .ok s) : value = .str s := by
  unfold Daemon.digest at h
  obtain ⟨text, htext, h⟩ := bind_eq_ok.1 h
  split at h
  · cases h
  · cases pure_eq_ok.1 h
    exact boundedText_eq_ok htext

theorem safeRelativePath_eq_ok {value : Json} {s : String}
    (h : Daemon.safeRelativePath value = .ok s) : value = .str s := by
  unfold Daemon.safeRelativePath at h
  obtain ⟨text, htext, h⟩ := bind_eq_ok.1 h
  dsimp only at h
  split at h
  · cases h
  · split at h
    · cases h
    · split at h
      · cases h
      · cases pure_eq_ok.1 h
        exact boundedText_eq_ok htext

/-- The daemon reads the row that is there. -/
theorem eq_of_daemon {value : Json} {expected : Option String} {d d' : Descriptor}
    (h : Reads value d) (hd : Daemon.descriptor value expected = .ok d') : d = d' := by
  cases value with
  | obj members =>
    rw [Daemon.descriptor, Daemon.asDict, ok_bind] at hd
    obtain ⟨path, hpath, hd⟩ := bind_eq_ok.1 hd
    have hpath' := h.path.symm.trans (safeRelativePath_eq_ok hpath)
    have hsize : field members "size_bytes" = .int d.sizeBytes := h.size
    rw [hsize] at hd
    simp only [Daemon.asInt] at hd
    split at hd
    · cases hd
    · split at hd
      · cases hd
      · obtain ⟨sha, hsha, hd⟩ := bind_eq_ok.1 hd
        have hsha' := h.sha256.symm.trans (daemon_digest_eq_ok hsha)
        cases pure_eq_ok.1 hd
        cases d
        cases hpath'
        cases hsha'
        rfl
  | _ => cases hd

theorem eq_of_daemon_mapM {α : Type} {R : Json → α → Prop} {f : Json → Daemon.Py α}
    (hf : ∀ v a b, R v a → f v = .ok b → a = b) {items : List Json} {as bs : List α}
    (h : List.Forall₂ R items as) (hd : items.mapM f = .ok bs) : as = bs := by
  have hbs := mapM_eq_ok.1 hd
  clear hd
  induction h generalizing bs with
  | nil =>
    cases hbs
    rfl
  | cons hhead _ ih =>
    cases hbs with
    | cons hb hrest => rw [hf _ _ _ hhead hb, ih hrest]

theorem eq_of_daemon_derivation {value : Json} {ds ds' : List Descriptor}
    (h : ReadsDerivation value ds) (hd : Daemon.derivationDescriptors value = .ok ds') :
    ds = ds' := by
  obtain ⟨files, attestation, ⟨items, hitems, hfiles⟩, hattestation, rfl⟩ := h.parts
  unfold Daemon.derivationDescriptors at hd
  cases value with
  | obj members =>
    dsimp only at hd
    have hfield : field members "files" = .arr items := hitems
    rw [hfield] at hd
    obtain ⟨entries, hentries, hd⟩ := bind_eq_ok.1 hd
    obtain ⟨last, hlast, hd⟩ := bind_eq_ok.1 hd
    cases pure_eq_ok.1 hd
    rw [eq_of_daemon_mapM (R := Reads) (fun _ _ _ h hd => eq_of_daemon h hd) hfiles hentries, eq_of_daemon hattestation hlast]
  | _ => cases hd

/-- The daemon lists the rows in the order of the store. -/
theorem rows_of_daemon {manifest : List (String × Json)} {l : Listing} {ds : List Descriptor}
    (h : Lists (.obj manifest) l) (hd : Daemon.manifestDescriptors manifest = .ok ds) :
    l.rows = ds := by
  unfold Daemon.manifestDescriptors at hd
  obtain ⟨artifacts, hartifacts, hd⟩ := bind_eq_ok.1 hd
  have hread : ∀ key, read (read (.obj manifest) "artifacts") key = field artifacts key := by
    intro key
    change read (field manifest "artifacts") key = _
    unfold Daemon.asDict at hartifacts
    split at hartifacts
    · rename_i members hmembers
      cases hartifacts
      rw [hmembers]
      rfl
    · cases hartifacts
  obtain ⟨assetItems, hassetItems, hassets⟩ := h.assets
  obtain ⟨derivedItems, hderivedItems, hderived⟩ := h.derived
  have hcomponent := h.component
  have hprovenance := h.provenance
  have hsbom := h.sbom
  rw [hread] at hassetItems hderivedItems hcomponent hprovenance hsbom
  obtain ⟨component, hc, hd⟩ := bind_eq_ok.1 hd
  obtain ⟨assets, ha, hd⟩ := bind_eq_ok.1 hd
  obtain ⟨derivations, hds, hd⟩ := bind_eq_ok.1 hd
  rw [hassetItems] at ha
  cases ha
  rw [hderivedItems] at hds
  cases hds
  obtain ⟨assetDescriptors, ha, hd⟩ := bind_eq_ok.1 hd
  obtain ⟨derived, hds, hd⟩ := bind_eq_ok.1 hd
  obtain ⟨provenance, hp, hd⟩ := bind_eq_ok.1 hd
  obtain ⟨sbom, hs, hd⟩ := bind_eq_ok.1 hd
  dsimp only at hd
  split at hd
  · cases hd
  · cases pure_eq_ok.1 hd
    rw [Listing.rows, eq_of_daemon hcomponent hc,
      eq_of_daemon_mapM (R := Reads) (fun _ _ _ h hd => eq_of_daemon h hd) hassets ha,
      eq_of_daemon_mapM (R := ReadsDerivation)
        (fun _ _ _ h hd => eq_of_daemon_derivation h hd) hderived hds,
      eq_of_daemon hprovenance hp, eq_of_daemon hsbom hs]

/-! ## Agreement -/

/-- A package directory as the daemon reads it, its files in the order of the walk. -/
def packageDir (library : AppStore.Library) (files : List (String × List UInt8)) :
    Option Daemon.PackageDir := do
  let data ← files.lookup "manifest.json"
  let manifest ← library.loads data
  if data.length = 0 ∨ Daemon.maxManifestBytes < data.length ∨ duplicateKey manifest ≠ none then none
  else
    some ⟨manifest, library.sha256 data, data.length,
      files.map fun f => ⟨f.1, library.sha256 f.2, f.2.length⟩⟩

theorem manifest_of_packageDir {library : AppStore.Library} {files : List (String × List UInt8)}
    {package : Daemon.PackageDir} (h : packageDir library files = some package) :
    ∃ data, files.lookup "manifest.json" = some data ∧
      library.loads data = some package.manifest := by
  obtain ⟨data, hdata, h⟩ := Option.bind_eq_some_iff.1 h
  obtain ⟨manifest, hmanifest, h⟩ := Option.bind_eq_some_iff.1 h
  refine ⟨data, hdata, ?_⟩
  split at h
  · cases h
  · cases h
    exact hmanifest

theorem loads_of_validateManifest {library : AppStore.Library}
    {candidate manifest : List (String × Json)} {data : List UInt8}
    (h : AppStore.validateManifest library candidate data = .ok manifest) :
    library.loads data = some (.obj manifest) ∧ duplicateKey (.obj manifest) = none := by
  unfold AppStore.validateManifest at h
  obtain ⟨_, -, h⟩ := bind_eq_ok.1 h
  obtain ⟨_, -, h⟩ := bind_eq_ok.1 h
  obtain ⟨_, -, h⟩ := bind_eq_ok.1 h
  obtain ⟨value, hvalue, h⟩ := bind_eq_ok.1 h
  have hmanifest : value = .obj manifest := by
    split at h
    · obtain ⟨_, -, h⟩ := bind_eq_ok.1 h
      obtain ⟨_, -, h⟩ := bind_eq_ok.1 h
      cases pure_eq_ok.1 h
      rfl
    · cases h
  subst hmanifest
  unfold AppStore.strictJson at hvalue
  split at hvalue
  · rename_i loaded hloads
    split at hvalue
    · cases hvalue
    · rename_i hkeys
      cases hvalue
      exact ⟨hloads, hkeys⟩
  · cases hvalue

/-- What the store accepts: the manifest of the bytes, and the digest of its rows. -/
theorem store_accepts {library : AppStore.Library} {candidate : Option (List UInt8)}
    {files : List (String × List UInt8)} {now : String} {release : AppStore.Release}
    (h : AppStore.validateSnapshot library ⟨candidate, files⟩ now = .ok release) :
    ∃ data manifest component rest, files.lookup "manifest.json" = some data ∧
      library.loads data = some (.obj manifest) ∧ duplicateKey (.obj manifest) = none ∧
      AppStore.manifestDescriptors manifest = .ok (component, rest) ∧
      AppStore.packageDigest library (.obj manifest) (component :: rest) =
        release.packageSha256 := by
  unfold AppStore.validateSnapshot at h
  obtain ⟨_, -, h⟩ := bind_eq_ok.1 h
  obtain ⟨_, -, h⟩ := bind_eq_ok.1 h
  obtain ⟨_, -, h⟩ := bind_eq_ok.1 h
  obtain ⟨⟨expected, _⟩, -, h⟩ := bind_eq_ok.1 h
  obtain ⟨data, hdata, h⟩ := bind_eq_ok.1 h
  obtain ⟨manifest, hmanifest, h⟩ := bind_eq_ok.1 h
  obtain ⟨⟨component, rest⟩, hdescriptors, h⟩ := bind_eq_ok.1 h
  obtain ⟨_, -, h⟩ := bind_eq_ok.1 h
  obtain ⟨_, -, h⟩ := bind_eq_ok.1 h
  obtain ⟨_, -, h⟩ := bind_eq_ok.1 h
  obtain ⟨_, hdigest, h⟩ := bind_eq_ok.1 h
  obtain ⟨_, -, h⟩ := bind_eq_ok.1 h
  obtain ⟨_, -, h⟩ := bind_eq_ok.1 h
  obtain ⟨_, -, h⟩ := bind_eq_ok.1 h
  cases h
  rw [AppStore.raiseIf_eq_ok, not_not] at hdigest
  obtain ⟨hloads, hkeys⟩ := loads_of_validateManifest hmanifest
  exact ⟨data, manifest, component, rest, AppStore.readRegular_eq_ok hdata, hloads, hkeys,
    hdescriptors, hdigest⟩

/-- The store's digest of its descriptors, in whatever order they are listed. -/
theorem packageDigest_store {library : AppStore.Library} {manifest : Json}
    {ds : List AppStore.Descriptor} :
    AppStore.packageDigest library manifest ds =
      digestOf library.sha256 manifest (byPath (ds.map row)) := by
  have hsorted : byPath (ds.map row) =
      (ds.insertionSort fun a b => a.path ≤ b.path).map row :=
    (List.map_insertionSort _ _ row ds fun _ _ _ _ => Iff.rfl).symm
  rw [digestOf, hsorted, List.flatMap_map]
  rfl

/-- What the daemon accepts. -/
theorem daemon_accepts {host : Daemon.Host} {package : Daemon.PackageDir}
    {record manifest : List (String × Json)} {digest : String}
    (h : Daemon.verifyPackageTree host package record = .ok (manifest, digest)) :
    package.manifest = .obj manifest ∧ ∃ ds, Daemon.manifestDescriptors manifest = .ok ds ∧
      digest = digestOf host.sha256 (.obj manifest) (byPath ds) := by
  unfold Daemon.verifyPackageTree at h
  obtain ⟨_, -, h⟩ := bind_eq_ok.1 h
  obtain ⟨_, -, h⟩ := bind_eq_ok.1 h
  obtain ⟨_, -, h⟩ := bind_eq_ok.1 h
  obtain ⟨members, hmembers, h⟩ := bind_eq_ok.1 h
  obtain ⟨_, -, h⟩ := bind_eq_ok.1 h
  obtain ⟨ds, hds, h⟩ := bind_eq_ok.1 h
  obtain ⟨_, -, h⟩ := bind_eq_ok.1 h
  obtain ⟨_, -, h⟩ := bind_eq_ok.1 h
  obtain ⟨_, -, h⟩ := bind_eq_ok.1 h
  obtain ⟨_, -, h⟩ := bind_eq_ok.1 h
  obtain ⟨canonical, hcanonical, h⟩ := bind_eq_ok.1 h
  cases pure_eq_ok.1 h
  refine ⟨?_, ds, hds, ?_⟩
  · unfold Daemon.asDict at hmembers
    split at hmembers
    · rename_i heq
      cases hmembers
      exact heq
    · cases hmembers
  · obtain ⟨_, -, hbytes⟩ := bind_eq_ok.1 hcanonical
    cases pure_eq_ok.1 hbytes
    rfl

theorem canonicalJson_of_same {v w : Json} (h : SameValue v w) :
    canonicalJson v = canonicalJson w := by
  rw [canonicalJson, canonicalJson, Json.dumps_eq_iff.2 h.1]

/-- **One digest.** The builder, the store and the daemon agree on every package they all accept.
The directory's files come in any order to the store (`seen`) and to the daemon (`walked`), the
builder's manifest is any dictionary equal to the one in the package, and the store's digest is the
same for its descriptors in any order. -/
theorem package_digests_agree (library : AppStore.Library) (python : Conversions)
    {contents seen walked : List (String × List UInt8)} (hcontents : (contents.map Prod.fst).Nodup)
    (hseen : seen.Perm contents) (hwalked : walked.Perm contents)
    {candidate : Option (List UInt8)} {now : String} {release : AppStore.Release}
    (hstore : AppStore.validateSnapshot library ⟨candidate, seen⟩ now = .ok release)
    {package : Daemon.PackageDir} (hpackage : packageDir library walked = some package)
    {record manifest : List (String × Json)} {digest : String}
    (hdaemon : Daemon.verifyPackageTree ⟨library.sha256, library.nfkcCasefold⟩ package record =
      .ok (manifest, digest))
    {built : Json} {builtDigest : String} (hbuilt : SameValue (.obj manifest) built)
    (hbuilder : packageDigest library.sha256 python built = .ok builtDigest) :
    builtDigest = digest ∧ release.packageSha256 = digest ∧
      ∃ component rest, AppStore.manifestDescriptors manifest = .ok (component, rest) ∧
        ∀ ds, ds.Perm (component :: rest) →
          AppStore.packageDigest library (.obj manifest) ds = digest := by
  obtain ⟨data, members, component, rest, hdata, hloads, -, hdescriptors, hdigest⟩ :=
    store_accepts hstore
  obtain ⟨data', hdata', hloads'⟩ := manifest_of_packageDir hpackage
  obtain ⟨hmanifest, ds, hds, hdigest'⟩ := daemon_accepts hdaemon
  -- one file of that name, whatever the order
  have hsame : seen.lookup "manifest.json" = walked.lookup "manifest.json" := by
    rw [Json.lookup_of_perm hseen ((hseen.map Prod.fst).nodup_iff.2 hcontents),
      Json.lookup_of_perm hwalked ((hwalked.map Prod.fst).nodup_iff.2 hcontents)]
  cases (hdata.symm.trans hsame).trans hdata'
  cases hmanifest.symm.trans (Option.some.inj (hloads'.symm.trans hloads))
  obtain ⟨l, hl, hrows, hpaths⟩ := lists_of_store hdescriptors
  have hdaemonRows : digest = digestOf library.sha256 (.obj manifest) (byPath l.rows) := by
    rw [hdigest', rows_of_daemon hl hds]
  have hperm : ∀ ds, ds.Perm (component :: rest) →
      AppStore.packageDigest library (.obj manifest) ds = digest := by
    intro ds hds
    have hds' : (ds.map row).Perm l.rows := hrows ▸ hds.map row
    rw [packageDigest_store, hdaemonRows, byPath,
      insertionSort_eq_of_perm (·.path) hds' ((hds'.map _).nodup_iff.2 hpaths), byPath]
  refine ⟨?_, ?_, component, rest, hdescriptors, hperm⟩
  · have hcollected := l.collected_perm
    rw [eq_of_packageDigest (hl.of_same hbuilt) hbuilder, hdaemonRows, digestOf, digestOf,
      ← canonicalJson_of_same hbuilt, byPath,
      insertionSort_eq_of_perm (·.path) hcollected ((hcollected.map _).nodup_iff.2 hpaths), byPath]
  · rw [← hdigest, hperm _ (List.Perm.refl _)]

/-! ## A package that all three accept -/

section Sample

open AppStore (sampleLibrary sampleManifest sampleCandidate sampleFiles sampleTree sampleRelease
  sampleManifestDigest samplePackageDigest sampleComponent sampleRest)

/-- Decimal texts of one digit, which is all that the sample would need. -/
def samplePython : Conversions where
  intOfText s := s.toNat?.map Int.ofNat
  intOfFloat _ := 0

def sampleHost : Daemon.Host := ⟨sampleLibrary.sha256, sampleLibrary.nfkcCasefold⟩

/-- The directory, walked from its last file. -/
def samplePackage : Daemon.PackageDir where
  manifest := .obj sampleManifest
  manifestSha256 := sampleManifestDigest
  manifestSize := 1062
  files := [⟨"sbom.cdx.json", AppStore.sampleSbomDigest, 1⟩,
    ⟨"provenance.json", AppStore.sampleProvenanceDigest, 1⟩,
    ⟨"manifest.json", sampleManifestDigest, 1062⟩,
    ⟨"component.wasm", AppStore.sampleComponentDigest, 1⟩]

theorem packageDir_sample : packageDir sampleLibrary sampleFiles.reverse = some samplePackage := by
  have hlookup : sampleFiles.reverse.lookup "manifest.json" =
      some (canonicalJson (.obj sampleManifest)) := rfl
  have hfiles : (sampleFiles.reverse.map fun f =>
      (⟨f.1, sampleLibrary.sha256 f.2, f.2.length⟩ : Descriptor)) = samplePackage.files := by
    unfold sampleFiles samplePackage
    simp only [List.reverse_cons, List.reverse_nil, List.nil_append, List.cons_append, List.map_cons,
      List.map_nil, AppStore.sha256_sampleManifest, AppStore.length_sampleManifest]
    rw [AppStore.sha256_of_mem (.head _), AppStore.sha256_of_mem (.tail _ (.head _)),
      AppStore.sha256_of_mem (.tail _ (.tail _ (.head _)))]
    rfl
  have hkeys : duplicateKey (.obj sampleManifest) = none := by decide +kernel
  have hloads : sampleLibrary.loads (canonicalJson (.obj sampleManifest)) =
      some (.obj sampleManifest) := AppStore.loads_of_mem (.head _)
  rw [packageDir, hlookup, Option.bind_eq_bind, Option.bind_some, hloads, Option.bind_eq_bind,
    Option.bind_some, AppStore.length_sampleManifest, if_neg, AppStore.sha256_sampleManifest, hfiles]
  · rfl
  · rw [hkeys]
    decide

/-- The rows of the sample. -/
def sampleRows : List Descriptor := (sampleComponent :: sampleRest).map row

theorem verifyPackageTree_sample :
    Daemon.verifyPackageTree sampleHost samplePackage sampleCandidate =
      .ok (sampleManifest, samplePackageDigest) := by
  have hmanifest : Daemon.descriptor (field sampleCandidate "manifest") (some "manifest.json") =
      .ok ⟨"manifest.json", sampleManifestDigest, 1062⟩ := rfl
  have hcomponent : Daemon.descriptor (field sampleCandidate "component") (some "component.wasm") =
      .ok (row sampleComponent) := rfl
  have hdescriptors : Daemon.manifestDescriptors sampleManifest = .ok sampleRows := rfl
  have hcanonical : Daemon.canonicalJson (.obj sampleManifest) =
      .ok (Json.dumps (.obj sampleManifest)).toUTF8 := rfl
  have hsorted : (sampleRows.insertionSort fun a b => a.path ≤ b.path) = sampleRows := by
    decide +kernel
  have hsha : sampleLibrary.sha256 (packageMagic ++ packBE 8 1062 ++
      canonicalJson (.obj sampleManifest) ++ sampleRows.flatMap Daemon.descriptorBytes) =
        samplePackageDigest := by
    have hpreimage : packageMagic ++ packBE 8 1062 ++ canonicalJson (.obj sampleManifest) ++
        sampleRows.flatMap Daemon.descriptorBytes = AppStore.samplePreimage := by
      rw [AppStore.samplePreimage, sampleRows, List.flatMap_map]
      rfl
    rw [hpreimage]
    exact AppStore.sha256_of_mem (.tail _ (.tail _ (.tail _ (.tail _ (.tail _ (.head _))))))
  have hsize : (Json.dumps (.obj sampleManifest)).toUTF8.size = 1062 := by
    have hlist : ∀ bytes : ByteArray, bytes.data.toList.length = bytes.size :=
      fun _ => Array.length_toList
    rw [← hlist]
    exact AppStore.length_sampleManifest
  have hbytes : (Json.dumps (.obj sampleManifest)).toUTF8.data.toList =
      canonicalJson (.obj sampleManifest) := rfl
  have hhost : sampleHost.sha256 = sampleLibrary.sha256 := rfl
  unfold Daemon.verifyPackageTree
  rw [hmanifest, ok_bind, hcomponent, ok_bind, Daemon.raiseIf, if_neg (by decide), ok_bind]
  change (Daemon.asDict (.obj sampleManifest) _ _ >>= _) = _
  rw [Daemon.asDict, ok_bind, Daemon.raiseIf, if_neg (by decide), ok_bind, hdescriptors, ok_bind]
  dsimp only
  rw [Daemon.raiseIf, if_neg (by decide), ok_bind, Daemon.raiseIf, if_neg (by decide), ok_bind]
  change ((.ok () : Daemon.Py Unit) >>= _) = _
  rw [ok_bind, Daemon.raiseIf, if_neg (by decide), ok_bind, hcanonical, ok_bind,
    hsize, hsorted, hbytes, hhost, hsha]
  rfl

theorem nodup_sampleFiles : (sampleFiles.map Prod.fst).Nodup := by
  change ["component.wasm", "manifest.json", "provenance.json", "sbom.cdx.json"].Nodup
  decide

theorem same_sample : SameValue (.obj sampleManifest) (.obj sampleManifest.reverse) :=
  .of_perm (List.reverse_perm _).symm (by decide +kernel)

/-- The builder has the members of the manifest in another order. -/
theorem packageDigest_sample :
    ∃ digest, packageDigest sampleLibrary.sha256 samplePython (.obj sampleManifest.reverse) =
      .ok digest := by
  obtain ⟨l, hl, -⟩ := lists_of_store AppStore.manifestDescriptors_sample
  rw [packageDigest_of_lists (hl.of_same same_sample), if_pos]
  · exact ⟨_, rfl⟩
  · rw [← canonicalJson_of_same same_sample, AppStore.length_sampleManifest]
    decide

theorem package_digests_agree_sample :
    packageDigest sampleLibrary.sha256 samplePython (.obj sampleManifest.reverse) =
        .ok samplePackageDigest ∧
      (sampleRelease "").packageSha256 = samplePackageDigest := by
  obtain ⟨digest, hdigest⟩ := packageDigest_sample
  have h := package_digests_agree sampleLibrary samplePython nodup_sampleFiles (.refl _)
    (List.reverse_perm _) (AppStore.validateSnapshot_sample "") packageDir_sample
    verifyPackageTree_sample same_sample hdigest
  exact ⟨h.1 ▸ hdigest, h.2.1⟩

end Sample

end Vibapp.Builder
