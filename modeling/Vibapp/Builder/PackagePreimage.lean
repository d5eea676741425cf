import Vibapp.Builder.DigestAgreement
import Vibapp.Lib.Framing

/-!
# What the package digest identifies

`preimageOf` is the byte string that `verifyPackageTree` feeds to SHA-256. It holds the canonical
text of the manifest after its length, and each row as a path after its length, a digest and a
size. **Main result** (`package_preimage_identifies`): two packages that the daemon accepts have
one preimage exactly when their manifests are one JSON value; then they hold the same paths, with
the same digest and size of every file but the manifest, and without a collision of SHA-256 among
their bytes the same contents. The text of the manifest is in the promotion record, not in the
preimage: `preimage_forgets_form`.
-/

namespace Vibapp.Builder

open Daemon (field Descriptor PackageDir packBE packageMagic)
open AppStore (duplicateKey canonicalJson Library)

/-! ## Numbers and digests -/

theorem length_packBE (width n : Nat) : (packBE width n).length = width := by
  simp [packBE]

theorem packBE_succ (width n : Nat) :
    packBE (width + 1) n = UInt8.ofNat (n / 256 ^ width) :: packBE width n := by
  simp [packBE, List.range_succ]

theorem mod_of_packBE {width m n : Nat} (h : packBE width m = packBE width n) :
    m % 256 ^ width = n % 256 ^ width := by
  induction width with
  | zero => rw [pow_zero, Nat.mod_one, Nat.mod_one]
  | succ width ih =>
    rw [packBE_succ, packBE_succ, List.cons.injEq] at h
    have hdigit : m / 256 ^ width % 256 = n / 256 ^ width % 256 := congrArg UInt8.toNat h.1
    rw [Nat.mod_pow_succ, Nat.mod_pow_succ, ih h.2, hdigit]

theorem packBE_inj {width m n : Nat} (hm : m < 256 ^ width) (hn : n < 256 ^ width)
    (h : packBE width m = packBE width n) : m = n := by
  have := mod_of_packBE h
  rwa [Nat.mod_eq_of_lt hm, Nat.mod_eq_of_lt hn] at this

/-- The lowercase hexadecimal digits. -/
def hexDigits : List Char := "0123456789abcdef".toList

theorem hexVal_lt {c : Char} (h : c ∈ hexDigits) : Json.hexVal c < 16 :=
  List.idxOf_lt_length_of_mem h

theorem hexVal_inj {c d : Char} (h : c ∈ hexDigits) (heq : Json.hexVal c = Json.hexVal d) :
    c = d :=
  (List.idxOf_inj h).1 heq

theorem length_fromHex {n : Nat} {cs : List Char} (h : cs.length = 2 * n) :
    (Daemon.fromHex cs).length = n := by
  induction n generalizing cs with
  | zero =>
    rw [List.eq_nil_of_length_eq_zero h]
    rfl
  | succ n ih =>
    obtain ⟨c, cs, rfl⟩ := List.exists_cons_of_length_eq_add_one h
    obtain ⟨d, cs, rfl⟩ := List.exists_cons_of_length_eq_add_one (Nat.succ.inj h)
    rw [Daemon.fromHex, List.length_cons, ih (by simp only [List.length_cons] at h; omega)]

theorem fromHex_inj {n : Nat} {cs ds : List Char} (hcs : cs.length = 2 * n)
    (hds : ds.length = 2 * n) (hc : ∀ c ∈ cs, c ∈ hexDigits) (hd : ∀ d ∈ ds, d ∈ hexDigits)
    (h : Daemon.fromHex cs = Daemon.fromHex ds) : cs = ds := by
  induction n generalizing cs ds with
  | zero => rw [List.eq_nil_of_length_eq_zero hcs, List.eq_nil_of_length_eq_zero hds]
  | succ n ih =>
    obtain ⟨a, cs, rfl⟩ := List.exists_cons_of_length_eq_add_one hcs
    obtain ⟨b, cs, rfl⟩ := List.exists_cons_of_length_eq_add_one (Nat.succ.inj hcs)
    obtain ⟨a', ds, rfl⟩ := List.exists_cons_of_length_eq_add_one hds
    obtain ⟨b', ds, rfl⟩ := List.exists_cons_of_length_eq_add_one (Nat.succ.inj hds)
    simp only [List.forall_mem_cons] at hc hd
    obtain ⟨ha, hb, hc⟩ := hc
    obtain ⟨ha', hb', hd⟩ := hd
    rw [Daemon.fromHex, Daemon.fromHex, List.cons.injEq] at h
    have hbyte : (16 * Json.hexVal a + Json.hexVal b) % 256 =
        (16 * Json.hexVal a' + Json.hexVal b') % 256 := congrArg UInt8.toNat h.1
    have h1 := hexVal_lt ha
    have h2 := hexVal_lt hb
    have h3 := hexVal_lt ha'
    have h4 := hexVal_lt hb'
    rw [hexVal_inj ha (by omega : Json.hexVal a = Json.hexVal a'),
      hexVal_inj hb (by omega : Json.hexVal b = Json.hexVal b'),
      ih (by simp only [List.length_cons] at hcs; omega)
        (by simp only [List.length_cons] at hds; omega) hc hd h.2]

/-! ## Rows -/

/-- A row as the daemon reads it from the manifest. -/
structure Framed (d : Descriptor) : Prop where
  path_lt : d.path.utf8ByteSize < 256 ^ 2
  length_sha256 : d.sha256.toList.length = 2 * 32
  hex : ∀ c ∈ d.sha256.toList, c ∈ hexDigits
  size_nonneg : 0 ≤ d.sizeBytes
  size_lt : d.sizeBytes < 256 ^ 8

theorem utf8_inj {s t : String} (h : s.toUTF8.data.toList = t.toUTF8.data.toList) : s = t :=
  String.toByteArray_inj.1 (ByteArray.ext (Array.toList_inj.1 h))

theorem length_utf8 (s : String) : s.toUTF8.data.toList.length = s.utf8ByteSize := by
  rw [Array.length_toList]
  rfl

/-- A row gives itself and what follows it. -/
theorem recovers_descriptorBytes : Recovers Framed Daemon.descriptorBytes id := by
  have hlength : Recovers Framed (fun d => packBE 2 d.path.toUTF8.data.toList.length)
      fun d => packBE 2 d.path.toUTF8.data.toList.length :=
    .of_length fun d _ => length_packBE 2 _
  have hpath : Recovers Framed (fun d => packBE 2 d.path.toUTF8.data.toList.length ++
      d.path.toUTF8.data.toList) fun d => d.path.toUTF8.data.toList :=
    hlength.prefixed fun d e hd he heq =>
      packBE_inj ((length_utf8 _).trans_lt hd.path_lt) ((length_utf8 _).trans_lt he.path_lt) heq
  have hsha : Recovers Framed (fun d => Daemon.fromHex d.sha256.toList)
      fun d => Daemon.fromHex d.sha256.toList :=
    .of_length fun d hd => length_fromHex hd.length_sha256
  have hsize : Recovers Framed (fun d => packBE 8 d.sizeBytes.toNat)
      fun d => packBE 8 d.sizeBytes.toNat :=
    .of_length fun d _ => length_packBE 8 _
  refine ((hpath.append hsha).append hsize).of_field ?_
  intro d e hd he heq
  simp only [Prod.mk.injEq] at heq
  obtain ⟨⟨hp, hs⟩, hn⟩ := heq
  have hd0 := hd.size_nonneg
  have he0 := he.size_nonneg
  have hd8 := hd.size_lt
  have he8 := he.size_lt
  have hsizes := packBE_inj (by omega) (by omega) hn
  have hpaths := utf8_inj hp
  have hdigests := String.toList_inj.1
    (fromHex_inj hd.length_sha256 he.length_sha256 hd.hex he.hex hs)
  cases d
  cases e
  simp only [id, Descriptor.mk.injEq] at *
  exact ⟨hpaths, hdigests, by omega⟩

theorem utf8Len_le (l : List Char) : Json.utf8Len l ≤ 4 * l.length := by
  induction l with
  | nil => exact le_rfl
  | cons c l ih =>
    have := c.utf8Size_le_four
    rw [Json.utf8Len_cons, List.length_cons]
    omega

theorem utf8ByteSize_le (s : String) : s.utf8ByteSize ≤ 4 * s.length := by
  have hsize := Json.utf8ByteSize_ofList s.toList
  rw [String.ofList_toList] at hsize
  rw [hsize, ← String.length_toList]
  exact utf8Len_le s.toList

theorem boundedText_le {value : Json} {name s : String} {maximum : Nat}
    (h : Daemon.boundedText value name maximum = .ok s) : s.length ≤ maximum := by
  unfold Daemon.boundedText at h
  cases value with
  | str t =>
    dsimp only at h
    split at h
    · rename_i hbound
      cases h
      exact hbound.2.1
    · cases h
  | _ => cases h

theorem safeRelativePath_le {value : Json} {s : String}
    (h : Daemon.safeRelativePath value = .ok s) : s.utf8ByteSize < 256 ^ 2 := by
  unfold Daemon.safeRelativePath at h
  obtain ⟨text, htext, h⟩ := bind_eq_ok.1 h
  dsimp only at h
  split at h
  · cases h
  · split at h
    · cases h
    · split at h
      · cases h
      · cases pure_eq_ok.1 h
        have hle := boundedText_le htext
        have hbytes := utf8ByteSize_le s
        omega

theorem digest_hex {value : Json} {name s : String} (h : Daemon.digest value name = .ok s) :
    s.toList.length = 2 * 32 ∧ ∀ c ∈ s.toList, c ∈ hexDigits := by
  unfold Daemon.digest at h
  obtain ⟨text, -, h⟩ := bind_eq_ok.1 h
  split at h
  · cases h
  · rename_i hhex
    cases pure_eq_ok.1 h
    rw [not_or, not_not, not_not, List.all_eq_true] at hhex
    refine ⟨String.length_toList.trans hhex.1, fun c hc => ?_⟩
    exact List.contains_iff_mem.1 (hhex.2 c hc)

theorem framed_of_descriptor {value : Json} {expected : Option String} {d : Descriptor}
    (h : Daemon.descriptor value expected = .ok d) : Framed d := by
  unfold Daemon.descriptor at h
  obtain ⟨members, -, h⟩ := bind_eq_ok.1 h
  obtain ⟨path, hpath, h⟩ := bind_eq_ok.1 h
  split at h
  · cases h
  · split at h
    · split at h
      · cases h
      · rename_i hsize
        obtain ⟨sha, hsha, h⟩ := bind_eq_ok.1 h
        cases pure_eq_ok.1 h
        rw [not_or, not_le, not_lt] at hsize
        have hmaximum : (Daemon.maxPackageBytes : Int) < 256 ^ 8 := by decide
        exact {
          path_lt := safeRelativePath_le hpath
          length_sha256 := (digest_hex hsha).1
          hex := (digest_hex hsha).2
          size_nonneg := hsize.1.le
          size_lt := lt_of_le_of_lt hsize.2 hmaximum }
    · cases h

theorem forall_of_mapM {α β : Type} {f : α → Daemon.Py β} {Q : β → Prop}
    (hf : ∀ a b, f a = .ok b → Q b) {as : List α} {bs : List β} (h : as.mapM f = .ok bs) :
    ∀ b ∈ bs, Q b := by
  intro b hb
  obtain ⟨a, -, ha⟩ := exists_of_mem_mapM h hb
  exact hf a b ha

theorem framed_of_derivation {value : Json} {ds : List Descriptor}
    (h : Daemon.derivationDescriptors value = .ok ds) : ∀ d ∈ ds, Framed d := by
  unfold Daemon.derivationDescriptors at h
  split at h
  · split at h
    · obtain ⟨entries, hentries, h⟩ := bind_eq_ok.1 h
      obtain ⟨attestation, hattestation, h⟩ := bind_eq_ok.1 h
      cases pure_eq_ok.1 h
      intro d hd
      rcases List.mem_append.1 hd with hd | hd
      · exact forall_of_mapM (fun _ _ => framed_of_descriptor) hentries d hd
      · rw [List.mem_singleton.1 hd]
        exact framed_of_descriptor hattestation
    · cases h
  · cases h

/-- The rows of a manifest are framed, and no path occurs twice. -/
theorem manifestDescriptors_framed {manifest : List (String × Json)} {ds : List Descriptor}
    (h : Daemon.manifestDescriptors manifest = .ok ds) :
    (∀ d ∈ ds, Framed d) ∧ (ds.map (·.path)).Nodup := by
  unfold Daemon.manifestDescriptors at h
  obtain ⟨artifacts, -, h⟩ := bind_eq_ok.1 h
  obtain ⟨component, hcomponent, h⟩ := bind_eq_ok.1 h
  obtain ⟨assets, -, h⟩ := bind_eq_ok.1 h
  obtain ⟨derivations, -, h⟩ := bind_eq_ok.1 h
  obtain ⟨assetDescriptors, hassets, h⟩ := bind_eq_ok.1 h
  obtain ⟨derived, hderived, h⟩ := bind_eq_ok.1 h
  obtain ⟨provenance, hprovenance, h⟩ := bind_eq_ok.1 h
  obtain ⟨sbom, hsbom, h⟩ := bind_eq_ok.1 h
  dsimp only at h
  split at h
  · cases h
  · rename_i hnodup
    cases pure_eq_ok.1 h
    refine ⟨?_, not_not.1 hnodup⟩
    have hassets := forall_of_mapM (fun _ _ => framed_of_descriptor) hassets
    have hderived := forall_of_mapM (fun _ _ => framed_of_derivation) hderived
    simp only [List.cons_append, List.forall_mem_cons, List.forall_mem_append,
      List.mem_flatten]
    refine ⟨framed_of_descriptor hcomponent, ⟨hassets, ?_⟩, framed_of_descriptor hprovenance,
      framed_of_descriptor hsbom, List.forall_mem_nil _⟩
    rintro d ⟨files, hfiles, hd⟩
    exact hderived files hfiles d hd

/-! ## The preimage -/

/-- The bytes of the package digest, of a manifest and its sorted rows. -/
def packagePreimage (manifest : Json) (ds : List Descriptor) : List UInt8 :=
  packageMagic ++ packBE 8 (canonicalJson manifest).length ++ canonicalJson manifest ++
    ds.flatMap Daemon.descriptorBytes

/-- What `_verify_package_tree` feeds to SHA-256 for a package that it accepts. -/
def preimageOf (package : PackageDir) : Daemon.Py (List UInt8) := do
  let manifest ← Daemon.asDict package.manifest "unsupported-version"
    "manifest contract or package format is unsupported"
  let ds ← Daemon.manifestDescriptors manifest
  return packagePreimage (.obj manifest) (byPath ds)

/-- What acceptance says of the directory: its files are the manifest and the rows. -/
structure Accepted (package : PackageDir) (manifest : List (String × Json))
    (ds : List Descriptor) : Prop where
  manifest_eq : package.manifest = .obj manifest
  rows : Daemon.manifestDescriptors manifest = .ok ds
  length_le : package.files.length ≤ Daemon.maxPackageFiles
  observed : ∀ file ∈ package.files, file.path = "manifest.json" ∨ file.path ∈ ds.map (·.path)
  expected : ∀ d ∈ ds, d ∈ package.files

theorem accepted_of_verify {host : Daemon.Host} {package : PackageDir}
    {record manifest : List (String × Json)} {digest : String}
    (h : Daemon.verifyPackageTree host package record = .ok (manifest, digest)) :
    ∃ ds, Accepted package manifest ds ∧ preimageOf package =
      .ok (packagePreimage (.obj manifest) (byPath ds)) ∧
      digest = host.sha256 (packagePreimage (.obj manifest) (byPath ds)) := by
  obtain ⟨hmanifest, ds, hds, hdigest⟩ := daemon_accepts h
  refine ⟨ds, ?_, ?_, hdigest⟩
  · unfold Daemon.verifyPackageTree at h
    obtain ⟨_, -, h⟩ := bind_eq_ok.1 h
    obtain ⟨_, -, h⟩ := bind_eq_ok.1 h
    obtain ⟨_, -, h⟩ := bind_eq_ok.1 h
    obtain ⟨members, hmembers, h⟩ := bind_eq_ok.1 h
    obtain ⟨_, -, h⟩ := bind_eq_ok.1 h
    obtain ⟨rows, hrows, h⟩ := bind_eq_ok.1 h
    obtain ⟨_, hbounds, h⟩ := bind_eq_ok.1 h
    obtain ⟨_, hpaths, h⟩ := bind_eq_ok.1 h
    obtain ⟨_, hfiles, h⟩ := bind_eq_ok.1 h
    have hmembers : members = manifest := by
      rw [hmanifest] at hmembers
      cases hmembers
      rfl
    subst hmembers
    cases hrows.symm.trans hds
    rw [Daemon.raiseIf_eq_ok, not_or] at hbounds
    rw [Daemon.raiseIf_eq_ok, not_not, Bool.and_eq_true, List.all_eq_true, List.all_eq_true]
      at hpaths
    refine ⟨hmanifest, hds, not_lt.1 hbounds.1, ?_, ?_⟩
    · intro file hfile
      have hmem := hpaths.1 _ (List.mem_map_of_mem hfile)
      exact List.mem_cons.1 (List.contains_iff_mem.1 hmem)
    · intro d hd
      have hcontains := forM_eq_ok.1 hfiles d hd
      rw [Daemon.raiseIf_eq_ok, not_not] at hcontains
      exact List.contains_iff_mem.1 hcontains
  · rw [preimageOf, hmanifest, Daemon.asDict, ok_bind, hds, ok_bind]
    rfl

theorem length_descriptorBytes {d : Descriptor} (h : Framed d) :
    (Daemon.descriptorBytes d).length = 42 + d.path.utf8ByteSize := by
  simp only [Daemon.descriptorBytes, List.length_append, length_packBE, length_utf8,
    length_fromHex h.length_sha256]
  omega

theorem length_rows_le {ds : List Descriptor} (h : ∀ d ∈ ds, Framed d) :
    (ds.flatMap Daemon.descriptorBytes).length ≤ 2 ^ 17 * ds.length := by
  induction ds with
  | nil => exact le_rfl
  | cons d ds ih =>
    rw [List.forall_mem_cons] at h
    have hpath := h.1.path_lt
    have hrest := ih h.2
    rw [List.flatMap_cons, List.length_append, List.length_cons, length_descriptorBytes h.1]
    omega

/-- The preimage gives the canonical text of the manifest and the rows. Lengths are written modulo
`2 ^ 64`, and the rows are too short to make up for a multiple of it. -/
theorem packagePreimage_inj {v w : Json} {ds es : List Descriptor} (hd : ∀ d ∈ ds, Framed d)
    (he : ∀ e ∈ es, Framed e) (hds : ds.length ≤ 2 ^ 32) (hes : es.length ≤ 2 ^ 32)
    (h : packagePreimage v ds = packagePreimage w es) :
    canonicalJson v = canonicalJson w ∧ ds = es := by
  simp only [packagePreimage, List.append_assoc] at h
  replace h := List.append_cancel_left h
  have htotal := congrArg List.length h
  obtain ⟨hframe, h⟩ := List.append_inj h ((length_packBE 8 _).trans (length_packBE 8 _).symm)
  have hmod := mod_of_packBE hframe
  have hrows := length_rows_le hd
  have hrows' := length_rows_le he
  simp only [List.length_append, length_packBE] at htotal
  obtain ⟨hmanifest, h⟩ := List.append_inj h (by omega)
  refine ⟨hmanifest, ?_⟩
  refine recovers_descriptorBytes.flatMap_inj ?_ hd he h
  intro d hframed hnil
  have hlength := length_descriptorBytes hframed
  rw [hnil, List.length_nil] at hlength
  omega

theorem canonicalJson_inj {v w : Json} (hv : duplicateKey v = none) (hw : duplicateKey w = none) :
    canonicalJson v = canonicalJson w ↔ SameValue v w := by
  refine ⟨fun h => ⟨Json.dumps_eq_iff.1 (utf8_inj h), hv, hw⟩, canonicalJson_of_same⟩

theorem Accepted.length_rows {package : PackageDir} {manifest : List (String × Json)}
    {ds : List Descriptor} (h : Accepted package manifest ds) : (byPath ds).length ≤ 256 := by
  have hsub : ds.Subperm package.files :=
    List.subperm_of_subset (manifestDescriptors_framed h.rows).2.of_map h.expected
  rw [byPath, List.length_insertionSort]
  exact hsub.length_le.trans h.length_le

theorem Accepted.framed {package : PackageDir} {manifest : List (String × Json)}
    {ds : List Descriptor} (h : Accepted package manifest ds) : ∀ d ∈ byPath ds, Framed d := by
  intro d hd
  exact (manifestDescriptors_framed h.rows).1 d ((List.mem_insertionSort _).1 hd)

/-! ## What it identifies -/

/-- The row of a file. -/
def fileRow (library : Library) (path : String) (data : List UInt8) : Descriptor :=
  ⟨path, library.sha256 data, data.length⟩

theorem lookup_eq_some_iff {α : Type} {files : List (String × α)}
    (h : (files.map Prod.fst).Nodup) {path : String} {data : α} :
    files.lookup path = some data ↔ (path, data) ∈ files := by
  constructor
  · intro hlookup
    obtain ⟨l, m, rfl, -⟩ := List.lookup_eq_some_iff.1 hlookup
    exact List.mem_append_right _ List.mem_cons_self
  · intro hmem
    cases hlookup : files.lookup path with
    | none => exact absurd (List.lookup_eq_none_iff.1 hlookup _ hmem) (by simp)
    | some other =>
      obtain ⟨l, m, rfl, -⟩ := List.lookup_eq_some_iff.1 hlookup
      have heq := List.inj_on_of_nodup_map h (List.mem_append_right _ List.mem_cons_self) hmem rfl
      cases heq
      rfl

/-- The rows of an accepted package are those of its files, the manifest apart. -/
theorem Accepted.mem_rows_iff {library : Library} {files : List (String × List UInt8)}
    (hfiles : (files.map Prod.fst).Nodup) {package : PackageDir}
    (hpackage : packageDir library files = some package) {manifest : List (String × Json)}
    {ds : List Descriptor} (h : Accepted package manifest ds) {path : String}
    (hpath : path ≠ "manifest.json") {d : Descriptor} :
    (files.lookup path).map (fileRow library path) = some d ↔ d ∈ ds ∧ d.path = path := by
  have hrows : package.files = files.map fun f => fileRow library f.1 f.2 := by
    obtain ⟨data, -, hpackage⟩ := Option.bind_eq_some_iff.1 hpackage
    obtain ⟨value, -, hpackage⟩ := Option.bind_eq_some_iff.1 hpackage
    split at hpackage
    · cases hpackage
    · cases hpackage
      rfl
  rw [Option.map_eq_some_iff]
  constructor
  · rintro ⟨data, hlookup, rfl⟩
    refine ⟨?_, rfl⟩
    rw [lookup_eq_some_iff hfiles] at hlookup
    have hmem : fileRow library path data ∈ package.files := by
      rw [hrows]
      exact List.mem_map_of_mem (f := fun f => fileRow library f.1 f.2) hlookup
    rcases h.observed _ hmem with heq | hmem'
    · exact absurd heq hpath
    · obtain ⟨e, he, hpath'⟩ := List.mem_map.1 hmem'
      have hmem := h.expected e he
      rw [hrows] at hmem
      obtain ⟨⟨path', data'⟩, hfile, rfl⟩ := List.mem_map.1 hmem
      change path' = path at hpath'
      subst hpath'
      cases List.inj_on_of_nodup_map hfiles hlookup hfile rfl
      exact he
  · rintro ⟨hd, rfl⟩
    have hmem := h.expected d hd
    rw [hrows] at hmem
    obtain ⟨⟨path, data⟩, hfile, rfl⟩ := List.mem_map.1 hmem
    exact ⟨data, (lookup_eq_some_iff hfiles).2 hfile, rfl⟩

theorem duplicateKey_of_packageDir {library : Library} {files : List (String × List UInt8)}
    {package : PackageDir} (h : packageDir library files = some package) :
    duplicateKey package.manifest = none := by
  obtain ⟨data, -, h⟩ := Option.bind_eq_some_iff.1 h
  obtain ⟨value, -, h⟩ := Option.bind_eq_some_iff.1 h
  split at h
  · cases h
  · rename_i hchecks
    cases h
    rw [not_or, not_or, not_not] at hchecks
    exact hchecks.2.2

/-- Among these byte strings SHA-256 has no collision. -/
def CollisionFree (library : Library) (datas : List (List UInt8)) : Prop :=
  ∀ x ∈ datas, ∀ y ∈ datas, library.sha256 x = library.sha256 y → x = y

/-- **Main result.** Of two packages that the daemon accepts, one preimage gives one manifest, as a
JSON value, and under every other path files of one digest and size, or none on both sides. Where
SHA-256 has no collision among the preimages and the files, one package digest gives one manifest
and the same contents under every other path. -/
theorem package_preimage_identifies (library : Library)
    {left right : List (String × List UInt8)} (hleft : (left.map Prod.fst).Nodup)
    (hright : (right.map Prod.fst).Nodup) {p q : PackageDir}
    (hp : packageDir library left = some p) (hq : packageDir library right = some q)
    {recordP recordQ manifestP manifestQ : List (String × Json)} {digestP digestQ : String}
    (hacceptP : Daemon.verifyPackageTree ⟨library.sha256, library.nfkcCasefold⟩ p recordP =
      .ok (manifestP, digestP))
    (hacceptQ : Daemon.verifyPackageTree ⟨library.sha256, library.nfkcCasefold⟩ q recordQ =
      .ok (manifestQ, digestQ)) :
    ∃ a b, preimageOf p = .ok a ∧ preimageOf q = .ok b ∧
      digestP = library.sha256 a ∧ digestQ = library.sha256 b ∧
      (a = b → SameValue (.obj manifestP) (.obj manifestQ) ∧ ∀ path, path ≠ "manifest.json" →
        (left.lookup path).map (fileRow library path) =
          (right.lookup path).map (fileRow library path)) ∧
      (CollisionFree library (a :: b :: (left.map Prod.snd ++ right.map Prod.snd)) →
        digestP = digestQ → SameValue (.obj manifestP) (.obj manifestQ) ∧
          ∀ path, path ≠ "manifest.json" → left.lookup path = right.lookup path) := by
  obtain ⟨ds, hds, ha, hdigestP⟩ := accepted_of_verify hacceptP
  obtain ⟨es, hes, hb, hdigestQ⟩ := accepted_of_verify hacceptQ
  have hkeys : duplicateKey (.obj manifestP) = none ∧ duplicateKey (.obj manifestQ) = none :=
    ⟨hds.manifest_eq ▸ duplicateKey_of_packageDir hp,
      hes.manifest_eq ▸ duplicateKey_of_packageDir hq⟩
  have hsame : packagePreimage (.obj manifestP) (byPath ds) =
        packagePreimage (.obj manifestQ) (byPath es) →
      SameValue (.obj manifestP) (.obj manifestQ) ∧ ∀ path, path ≠ "manifest.json" →
        (left.lookup path).map (fileRow library path) =
          (right.lookup path).map (fileRow library path) := by
    intro heq
    obtain ⟨hmanifest, hrows⟩ := packagePreimage_inj hds.framed hes.framed
      (hds.length_rows.trans (by decide)) (hes.length_rows.trans (by decide)) heq
    refine ⟨(canonicalJson_inj hkeys.1 hkeys.2).1 hmanifest, fun path hpath => ?_⟩
    have hmem : ∀ d, d ∈ ds ↔ d ∈ es := by
      intro d
      have := congrArg (d ∈ ·) hrows
      simpa only [byPath, List.mem_insertionSort, eq_iff_iff] using this
    apply Option.ext
    intro d
    rw [hds.mem_rows_iff hleft hp hpath, hes.mem_rows_iff hright hq hpath, hmem]
  refine ⟨_, _, ha, hb, hdigestP, hdigestQ, hsame, fun hfree heq => ?_⟩
  have hpreimage := hfree _ List.mem_cons_self _ (List.mem_cons_of_mem _ List.mem_cons_self)
    (hdigestP.symm.trans (heq.trans hdigestQ))
  obtain ⟨hmanifest, hrows⟩ := hsame hpreimage
  refine ⟨hmanifest, fun path hpath => ?_⟩
  have hrow := hrows path hpath
  cases hl : left.lookup path with
  | none =>
    cases hr : right.lookup path with
    | none => rfl
    | some data =>
      rw [hl, hr] at hrow
      cases hrow
  | some data =>
    cases hr : right.lookup path with
    | none =>
      rw [hl, hr] at hrow
      cases hrow
    | some data' =>
      rw [hl, hr, Option.map_some, Option.map_some, Option.some.injEq] at hrow
      have hdata : data ∈ left.map Prod.snd :=
        List.mem_map_of_mem (f := Prod.snd) ((lookup_eq_some_iff hleft).1 hl)
      have hdata' : data' ∈ right.map Prod.snd :=
        List.mem_map_of_mem (f := Prod.snd) ((lookup_eq_some_iff hright).1 hr)
      have hsha : library.sha256 data = library.sha256 data' := congrArg (·.sha256) hrow
      rw [hfree data (by simp [hdata]) data' (by simp [hdata']) hsha]

/-! ## Two forms of one manifest -/

section Forms

open AppStore (sampleLibrary sampleManifest sampleCandidate sampleManifestDigest sampleComponent
  sampleComponentDigest sampleProvenanceDigest sampleSbomDigest samplePackageDigest)

/-- The text of the manifest, with or without a newline at its end. -/
def formBytes (newline : Bool) : List UInt8 :=
  canonicalJson (.obj sampleManifest) ++ if newline then [10] else []

def formDigest (newline : Bool) : String :=
  if newline then "c44cb618537fd6452cbee0cad2afa0b8a58bfa7bdc1da2f7ebb86ea9819f93d1"
  else sampleManifestDigest

def formSize (newline : Bool) : Nat := if newline then 1063 else 1062

/-- The library of the sample, which knows the second form too. -/
def formLibrary : Library where
  sha256 bytes := if bytes = formBytes true then formDigest true else sampleLibrary.sha256 bytes
  nfkcCasefold := sampleLibrary.nfkcCasefold
  loads bytes :=
    if bytes = formBytes true then some (.obj sampleManifest) else sampleLibrary.loads bytes

def formFiles (newline : Bool) : List (String × List UInt8) :=
  [("component.wasm", [97]), ("manifest.json", formBytes newline), ("provenance.json", [98]),
    ("sbom.cdx.json", [99])]

def formPackage (newline : Bool) : PackageDir where
  manifest := .obj sampleManifest
  manifestSha256 := formDigest newline
  manifestSize := formSize newline
  files := [⟨"component.wasm", sampleComponentDigest, 1⟩,
    ⟨"manifest.json", formDigest newline, formSize newline⟩,
    ⟨"provenance.json", sampleProvenanceDigest, 1⟩, ⟨"sbom.cdx.json", sampleSbomDigest, 1⟩]

/-- The promotion record, which names the text of the manifest. -/
def formRecord (newline : Bool) : List (String × Json) :=
  sampleCandidate.map fun member =>
    if member.1 = "manifest" then
      ("manifest", .obj [("path", .str "manifest.json"), ("sha256", .str (formDigest newline)),
        ("size_bytes", .int (formSize newline))])
    else member

theorem lookup_formFiles (newline : Bool) :
    (formFiles newline).lookup "manifest.json" = some (formBytes newline) := by
  unfold formFiles
  generalize formBytes newline = bytes
  rfl

theorem length_formBytes (newline : Bool) : (formBytes newline).length = formSize newline := by
  rw [formBytes, List.length_append, AppStore.length_sampleManifest]
  cases newline <;> rfl

theorem ne_formBytes {bytes : List UInt8} (h : bytes.length ≠ 1063) : bytes ≠ formBytes true := by
  intro heq
  exact h (heq ▸ length_formBytes true)

theorem sha256_form {bytes : List UInt8} {digest : String} (hlength : bytes.length ≠ 1063)
    (h : sampleLibrary.sha256 bytes = digest) : formLibrary.sha256 bytes = digest := by
  unfold formLibrary
  dsimp only
  rw [if_neg (ne_formBytes hlength), h]

theorem sha256_formBytes (newline : Bool) :
    formLibrary.sha256 (formBytes newline) = formDigest newline := by
  cases newline with
  | true =>
    unfold formLibrary
    dsimp only
    rw [if_pos rfl]
  | false =>
    apply sha256_form
    · rw [length_formBytes]
      decide
    · rw [formBytes, if_neg (by decide), List.append_nil]
      exact AppStore.sha256_sampleManifest

theorem loads_formBytes (newline : Bool) :
    formLibrary.loads (formBytes newline) = some (.obj sampleManifest) := by
  unfold formLibrary
  dsimp only
  cases newline with
  | true => rw [if_pos rfl]
  | false =>
    have hne : formBytes false ≠ formBytes true :=
      ne_formBytes (by rw [length_formBytes]; decide)
    have hloads : sampleLibrary.loads (formBytes false) = some (.obj sampleManifest) := by
      rw [formBytes, if_neg (by decide), List.append_nil]
      exact AppStore.loads_of_mem (.head _)
    rw [if_neg hne, hloads]

theorem packageDir_form (newline : Bool) :
    packageDir formLibrary (formFiles newline) = some (formPackage newline) := by
  have hfiles : ((formFiles newline).map fun f =>
      (⟨f.1, formLibrary.sha256 f.2, f.2.length⟩ : Descriptor)) = (formPackage newline).files := by
    unfold formFiles formPackage
    simp only [List.map_cons, List.map_nil, sha256_formBytes, length_formBytes]
    rw [sha256_form (by decide) (AppStore.sha256_of_mem (.head _)),
      sha256_form (by decide) (AppStore.sha256_of_mem (.tail _ (.head _))),
      sha256_form (by decide) (AppStore.sha256_of_mem (.tail _ (.tail _ (.head _))))]
    rfl
  have hkeys : duplicateKey (.obj sampleManifest) = none := by decide +kernel
  rw [packageDir, lookup_formFiles, Option.bind_eq_bind, Option.bind_some, loads_formBytes,
    Option.bind_eq_bind, Option.bind_some, length_formBytes, if_neg, sha256_formBytes, hfiles]
  · rfl
  · rw [hkeys]
    cases newline <;> decide

theorem verifyPackageTree_form (host : Daemon.Host) (newline : Bool) :
    Daemon.verifyPackageTree host (formPackage newline) (formRecord newline) =
      .ok (sampleManifest, host.sha256 (packagePreimage (.obj sampleManifest) sampleRows)) := by
  have hmanifest : Daemon.descriptor (field (formRecord newline) "manifest")
      (some "manifest.json") = .ok ⟨"manifest.json", formDigest newline, formSize newline⟩ := by
    cases newline <;> rfl
  have hcomponent : Daemon.descriptor (field (formRecord newline) "component")
      (some "component.wasm") = .ok (row sampleComponent) := by
    cases newline <;> rfl
  have hdescriptors : Daemon.manifestDescriptors sampleManifest = .ok sampleRows := rfl
  have hcanonical : Daemon.canonicalJson (.obj sampleManifest) =
      .ok (Json.dumps (.obj sampleManifest)).toUTF8 := rfl
  have hsorted : (sampleRows.insertionSort fun a b => a.path ≤ b.path) = sampleRows := by
    decide +kernel
  unfold Daemon.verifyPackageTree
  rw [hmanifest, ok_bind, hcomponent, ok_bind, Daemon.raiseIf,
    if_neg (by cases newline <;> decide), ok_bind]
  change (Daemon.asDict (.obj sampleManifest) _ _ >>= _) = _
  rw [Daemon.asDict, ok_bind, Daemon.raiseIf, if_neg (by decide), ok_bind, hdescriptors, ok_bind]
  dsimp only
  rw [Daemon.raiseIf, if_neg (by cases newline <;> decide), ok_bind, Daemon.raiseIf,
    if_neg (by cases newline <;> decide), ok_bind]
  have hrows : (sampleRows.forM fun d => Daemon.raiseIf (¬(formPackage newline).files.contains d)
      "integrity-failure" ("artifact bytes differ from manifest: " ++ d.path)) = .ok () := by
    cases newline <;> rfl
  have hsize (bytes : ByteArray) : bytes.size = bytes.data.toList.length :=
    Array.length_toList.symm
  rw [hrows, ok_bind, Daemon.raiseIf, if_neg (by decide), ok_bind, hcanonical, ok_bind, hsize,
    hsorted]
  unfold packagePreimage canonicalJson
  rfl

/-- One preimage of two texts of the manifest: the two packages are accepted with one digest. -/
theorem preimage_forgets_form :
    packageDir formLibrary (formFiles false) = some (formPackage false) ∧
      packageDir formLibrary (formFiles true) = some (formPackage true) ∧
      (∃ digest, Daemon.verifyPackageTree ⟨formLibrary.sha256, formLibrary.nfkcCasefold⟩
          (formPackage false) (formRecord false) = .ok (sampleManifest, digest) ∧
        Daemon.verifyPackageTree ⟨formLibrary.sha256, formLibrary.nfkcCasefold⟩
          (formPackage true) (formRecord true) = .ok (sampleManifest, digest)) ∧
      (∃ preimage, preimageOf (formPackage false) = .ok preimage ∧
        preimageOf (formPackage true) = .ok preimage) ∧
      (formFiles false).lookup "manifest.json" ≠ (formFiles true).lookup "manifest.json" := by
  obtain ⟨ds, -, ha, -⟩ := accepted_of_verify
    (verifyPackageTree_form ⟨formLibrary.sha256, formLibrary.nfkcCasefold⟩ false)
  refine ⟨packageDir_form false, packageDir_form true,
    ⟨_, verifyPackageTree_form _ false, verifyPackageTree_form _ true⟩, ⟨_, ha, ha⟩, ?_⟩
  intro heq
  rw [lookup_formFiles, lookup_formFiles, Option.some.injEq] at heq
  have hlength := congrArg List.length heq
  rw [length_formBytes, length_formBytes] at hlength
  cases hlength

theorem nodup_formFiles (newline : Bool) : ((formFiles newline).map Prod.fst).Nodup := by
  unfold formFiles
  simp only [List.map_cons, List.map_nil]
  decide

theorem package_preimage_identifies_form :
    (∃ a, preimageOf (formPackage false) = .ok a ∧ preimageOf (formPackage true) = .ok a) ∧
      ∀ path, path ≠ "manifest.json" →
        ((formFiles false).lookup path).map (fileRow formLibrary path) =
          ((formFiles true).lookup path).map (fileRow formLibrary path) := by
  obtain ⟨a, b, ha, hb, -, -, hsame, -⟩ := package_preimage_identifies formLibrary
    (nodup_formFiles false) (nodup_formFiles true) (packageDir_form false) (packageDir_form true)
    (verifyPackageTree_form _ false) (verifyPackageTree_form _ true)
  have hab : a = b := Except.ok.inj (ha.symm.trans hb)
  exact ⟨⟨a, ha, hab ▸ hb⟩, (hsame hab).2⟩

end Forms

end Vibapp.Builder
