import Vibapp.AppStore.Records
import Vibapp.Lib.Related

/-!
# The package digest of the builder

`packageDigest` reads a manifest that nothing has checked: what Python raises for a value of the
wrong type becomes a `PipelineError`, but for a path that has no `encode`.

**Main result** (`packageDigest_of_lists`): on a manifest that `Lists` well-formed rows, the builder
refuses only a canonical text whose length has no eight bytes, and else digests the rows sorted by
path. The rows are those of any equal dictionary (`Lists.of_same`).
-/

namespace Vibapp.Builder

open Daemon (field Descriptor packBE packageMagic)
open AppStore (duplicateKey canonicalJson)

/-! ## Python values -/

/-- What Python raises while it reads a manifest. -/
inductive PyError
  | key (name : String)
  | type
  | value
  | overflow
  | attribute
deriving DecidableEq, Repr

/-- `PipelineError`, with the error it was raised from, or an error that is not caught. -/
inductive Raised
  | pipeline (code message : String) (cause : PyError)
  | other (error : PyError)
deriving DecidableEq, Repr

/-- `int(text)` and `int(x)` of a float. -/
structure Conversions where
  intOfText : String → Option Int
  intOfFloat : FloatText → Int

/-- `value[key]`. -/
def subscript (value : Json) (key : String) : Except PyError Json :=
  match value with
  | .obj members =>
    match members.lookup key with
    | some item => .ok item
    | none => .error (.key key)
  | _ => .error .type

/-- The items of `for item in value`. -/
def iterate (value : Json) : Except PyError (List Json) :=
  match value with
  | .arr items => .ok items
  | .obj members => .ok (members.map fun p => .str p.1)
  | .str s => .ok (s.toList.map fun c => .str (String.singleton c))
  | _ => .error .type

/-- The text of `value.encode("utf-8")`. Texts and their bytes have the same order. -/
def encoded (value : Json) : Except PyError String :=
  match value with
  | .str s => .ok s
  | _ => .error .attribute

/-- `int(value)`. -/
def toInt (python : Conversions) (value : Json) : Except PyError Int :=
  match value with
  | .int n => .ok n
  | .bool b => .ok (if b then 1 else 0)
  | .float x => .ok (python.intOfFloat x)
  | .str s =>
    match python.intOfText s with
    | some n => .ok n
    | none => .error .value
  | _ => .error .type

/-- `n.to_bytes(width, "big")`. -/
def toBytes (width : Nat) (n : Int) : Except PyError (List UInt8) :=
  if 0 ≤ n ∧ n < 256 ^ width then .ok (packBE width n.toNat) else .error .overflow

def hexDigit? (c : Char) : Option Nat :=
  if '0' ≤ c ∧ c ≤ '9' then some (c.toNat - 48)
  else if 'a' ≤ c ∧ c ≤ 'f' then some (c.toNat - 87)
  else if 'A' ≤ c ∧ c ≤ 'F' then some (c.toNat - 55)
  else none

def isBlank (c : Char) : Bool := c = ' ' || (9 ≤ c.toNat && c.toNat ≤ 13)

/-- `bytes.fromhex` of a text: blanks may stand between the bytes. -/
def fromHex : List Char → Except PyError (List UInt8)
  | [] => .ok []
  | [c] => if isBlank c then .ok [] else .error .value
  | high :: low :: rest =>
    if isBlank high then fromHex (low :: rest)
    else
      match hexDigit? high, hexDigit? low with
      | some h, some l => do return UInt8.ofNat (16 * h + l) :: (← fromHex rest)
      | _, _ => .error .value

/-- `bytes.fromhex(value)`. -/
def fromHexOf (value : Json) : Except PyError (List UInt8) :=
  match value with
  | .str s => fromHex s.toList
  | _ => .error .type

/-! ## The digest -/

/-- The files of a derivation and its attestation. -/
def derivationDescriptors (derivation : Json) : Except PyError (List Json) := do
  let files ← subscript derivation "files" >>= iterate
  return files ++ [← subscript derivation "derivation_attestation"]

/-- The descriptors, in the order they are collected in. -/
def listDescriptors (manifest : Json) : Except PyError (List Json) := do
  let artifacts ← subscript manifest "artifacts"
  let component ← subscript artifacts "canonical_component"
  let assets ← subscript artifacts "assets" >>= iterate
  let provenance ← subscript artifacts "provenance"
  let sbom ← subscript artifacts "sbom"
  let derivations ← subscript artifacts "browser_derivations" >>= iterate
  let derived ← derivations.mapM derivationDescriptors
  return component :: assets ++ [provenance, sbom] ++ derived.flatten

def pathOf (descriptor : Json) : Except PyError String :=
  subscript descriptor "path" >>= encoded

/-- `descriptors.sort(key=…)`, which computes every key before it compares two. -/
def sortByPath (descriptors : List Json) : Except PyError (List Json) := do
  let keyed ← descriptors.mapM fun item => do return (← pathOf item, item)
  return (keyed.insertionSort fun a b => a.1 ≤ b.1).map Prod.snd

/-- What a descriptor adds to the preimage. -/
def descriptorBytes (python : Conversions) (descriptor : Json) : Except PyError (List UInt8) := do
  let path := (← pathOf descriptor).toUTF8.data.toList
  let length ← toBytes 2 path.length
  let sha ← subscript descriptor "sha256" >>= fromHexOf
  let size ← subscript descriptor "size_bytes" >>= toInt python
  return length ++ path ++ sha ++ (← toBytes 8 size)

/-- The preimage of the digest. -/
def preimage (python : Conversions) (manifest : Json) : Except PyError (List UInt8) := do
  let descriptors ← listDescriptors manifest >>= sortByPath
  let bytes := canonicalJson manifest
  let length ← toBytes 8 bytes.length
  let rows ← descriptors.mapM (descriptorBytes python)
  return packageMagic ++ length ++ bytes ++ rows.flatten

/-- `package_digest`. -/
def packageDigest (sha256 : List UInt8 → String) (python : Conversions) (manifest : Json) :
    Except Raised String :=
  match preimage python manifest with
  | .ok bytes => .ok (sha256 bytes)
  | .error .attribute => .error (.other .attribute)
  | .error e => .error (.pipeline "schema-invalid" "manifest cannot form package digest: " e)

/-! ## Dictionaries -/

/-- `v == w` of values that `json.loads` read without a repeated key. -/
def SameValue (v w : Json) : Prop :=
  Json.sortKeys v = Json.sortKeys w ∧ duplicateKey v = none ∧ duplicateKey w = none

/-- `value.get(key)`, and nothing of what is no dictionary. -/
def read (value : Json) (key : String) : Json :=
  match value with
  | .obj members => field members key
  | _ => .null

theorem repeatedKey_eq_none {seen keys : List String} :
    AppStore.repeatedKey seen keys = none ↔ keys.Nodup ∧ ∀ key ∈ keys, key ∉ seen := by
  induction keys generalizing seen with
  | nil => simp [AppStore.repeatedKey]
  | cons key keys ih =>
    rw [AppStore.repeatedKey]
    by_cases h : key ∈ seen
    · simp [h]
    · rw [if_neg h, ih, List.nodup_cons]
      simp only [List.mem_cons, not_or, forall_eq_or_imp]
      constructor
      · intro ⟨hnodup, hrest⟩
        exact ⟨⟨fun hkey => (hrest key hkey).1 rfl, hnodup⟩, h, fun k hk => (hrest k hk).2⟩
      · intro ⟨⟨hkey, hnodup⟩, _, hrest⟩
        exact ⟨hnodup, fun k hk => ⟨fun heq => hkey (heq ▸ hk), hrest k hk⟩⟩

theorem duplicateKey_obj {members : List (String × Json)} :
    duplicateKey (.obj members) = none ↔
      (∀ p ∈ members, duplicateKey p.2 = none) ∧ (members.map Prod.fst).Nodup := by
  rw [duplicateKey, Option.or_eq_none_iff, repeatedKey_eq_none]
  have hmembers : AppStore.duplicateInMembers members = none ↔
      ∀ p ∈ members, duplicateKey p.2 = none := by
    induction members with
    | nil => simp [AppStore.duplicateInMembers]
    | cons p rest ih =>
      obtain ⟨k, v⟩ := p
      rw [AppStore.duplicateInMembers, Option.or_eq_none_iff, ih, List.forall_mem_cons]
  rw [hmembers]
  simp

theorem duplicateKey_arr {items : List Json} :
    duplicateKey (.arr items) = none ↔ ∀ item ∈ items, duplicateKey item = none := by
  rw [duplicateKey]
  induction items with
  | nil => simp [AppStore.duplicateInItems]
  | cons item rest ih =>
    rw [AppStore.duplicateInItems, Option.or_eq_none_iff, ih, List.forall_mem_cons]

theorem duplicateKey_read {value : Json} (h : duplicateKey value = none) (key : String) :
    duplicateKey (read value key) = none := by
  cases value with
  | obj members =>
    rw [read, field]
    cases hlookup : members.lookup key with
    | none => rfl
    | some item =>
      obtain ⟨l, m, heq, -⟩ := List.lookup_eq_some_iff.1 hlookup
      exact (duplicateKey_obj.1 h).1 (key, item) (by rw [heq]; simp)
  | _ => rfl

/-- Equal dictionaries have equal values. -/
theorem SameValue.read {v w : Json} (h : SameValue v w) (key : String) :
    SameValue (read v key) (read w key) := by
  obtain ⟨heq, hv, hw⟩ := h
  refine ⟨?_, duplicateKey_read hv key, duplicateKey_read hw key⟩
  cases v with
  | obj members =>
    cases w with
    | obj members' =>
      have hsorted : Json.sorted members = Json.sorted members' := Json.obj.inj heq
      rw [Builder.read, Builder.read, ← AppStore.field_sorted (duplicateKey_obj.1 hv).2,
        ← AppStore.field_sorted (duplicateKey_obj.1 hw).2, hsorted]
    | _ => cases heq
  | _ =>
    cases w with
    | obj members' => cases heq
    | _ => rfl

theorem SameValue.str {s : String} {w : Json} (h : SameValue (.str s) w) : w = .str s := by
  cases w <;> cases h.1
  rfl

theorem SameValue.int {n : Int} {w : Json} (h : SameValue (.int n) w) : w = .int n := by
  cases w <;> cases h.1
  rfl

/-- Equal lists have equal items. -/
theorem SameValue.arr {items : List Json} {w : Json} (h : SameValue (.arr items) w) :
    ∃ items', w = .arr items' ∧ List.Forall₂ SameValue items items' := by
  cases w with
  | arr items' =>
    obtain ⟨heq, hv, hw⟩ := h
    refine ⟨items', rfl, ?_⟩
    replace heq : Json.sortItems items = Json.sortItems items' := Json.arr.inj heq
    rw [duplicateKey_arr] at hv hw
    induction items generalizing items' with
    | nil =>
      cases items' with
      | nil => exact .nil
      | cons item' rest' => cases heq
    | cons item rest ih =>
      cases items' with
      | nil => cases heq
      | cons item' rest' =>
        obtain ⟨hhead, htail⟩ := List.cons.inj heq
        rw [List.forall_mem_cons] at hv hw
        exact .cons ⟨hhead, hv.1, hw.1⟩ (ih rest' hv.2 hw.2 htail)
  | _ => cases h.1

/-- The order of the members is no part of a dictionary. -/
theorem SameValue.of_perm {l m : List (String × Json)} (h : l.Perm m)
    (hl : duplicateKey (.obj l) = none) : SameValue (.obj l) (.obj m) := by
  have hkeys := duplicateKey_obj.1 hl
  have hm : duplicateKey (.obj m) = none :=
    duplicateKey_obj.2 ⟨fun p hp => hkeys.1 p (h.mem_iff.2 hp), (h.map Prod.fst).nodup_iff.1 hkeys.2⟩
  refine ⟨congrArg Json.obj ?_, hl, hm⟩
  have hperm : (Json.sortMembers l).Perm (Json.sortMembers m) := by
    rw [Json.sortMembers_eq_map, Json.sortMembers_eq_map]
    exact h.map _
  have hnodup : ((Json.sortMembers l).map Prod.fst).Nodup := by
    rw [Json.sortMembers_eq_map, List.map_map]
    exact hkeys.2
  exact insertionSort_eq_of_perm Prod.fst hperm hnodup

/-! ## Rows -/

/-- A descriptor of the manifest, as all sides read it. -/
structure Reads (value : Json) (d : Descriptor) : Prop where
  path : read value "path" = .str d.path
  sha256 : read value "sha256" = .str d.sha256
  size : read value "size_bytes" = .int d.sizeBytes
  path_le : d.path.utf8ByteSize ≤ 240
  isSha256 : AppStore.isSha256 d.sha256 = true
  size_nonneg : 0 ≤ d.sizeBytes
  size_lt : d.sizeBytes < 256 ^ 8

/-- What a manifest lists: `derived` has the files of each derivation before its attestation. -/
structure Listing where
  component : Descriptor
  assets : List Descriptor
  derived : List (List Descriptor)
  provenance : Descriptor
  sbom : Descriptor

/-- The rows, in the order of the store and of the daemon. -/
def Listing.rows (l : Listing) : List Descriptor :=
  l.component :: l.assets ++ l.derived.flatten ++ [l.provenance, l.sbom]

def ReadsAll (value : Json) (ds : List Descriptor) : Prop :=
  ∃ items, value = .arr items ∧ List.Forall₂ Reads items ds

structure ReadsDerivation (value : Json) (ds : List Descriptor) : Prop where
  intro ::
  parts : ∃ files attestation, ReadsAll (read value "files") files ∧
    Reads (read value "derivation_attestation") attestation ∧ ds = files ++ [attestation]

/-- The rows of a manifest. -/
structure Lists (manifest : Json) (l : Listing) : Prop where
  component : Reads (read (read manifest "artifacts") "canonical_component") l.component
  assets : ReadsAll (read (read manifest "artifacts") "assets") l.assets
  derived : ∃ items, read (read manifest "artifacts") "browser_derivations" = .arr items ∧
    List.Forall₂ ReadsDerivation items l.derived
  provenance : Reads (read (read manifest "artifacts") "provenance") l.provenance
  sbom : Reads (read (read manifest "artifacts") "sbom") l.sbom

/-! An equal manifest lists the same rows. -/

theorem Reads.of_same {v w : Json} {d : Descriptor} (h : Reads v d) (hsame : SameValue v w) :
    Reads w d :=
  { h with
    path := (h.path ▸ hsame.read "path").str
    sha256 := (h.sha256 ▸ hsame.read "sha256").str
    size := (h.size ▸ hsame.read "size_bytes").int }

theorem forall₂_of_same {β : Type} {R : Json → β → Prop}
    (hR : ∀ v w b, R v b → SameValue v w → R w b) {items items' : List Json} {bs : List β}
    (h : List.Forall₂ R items bs) (hsame : List.Forall₂ SameValue items items') :
    List.Forall₂ R items' bs := by
  induction h generalizing items' with
  | nil =>
    cases hsame
    exact .nil
  | cons hhead _ ih =>
    cases hsame with
    | cons hsame hrest => exact .cons (hR _ _ _ hhead hsame) (ih hrest)

theorem ReadsAll.of_same {v w : Json} {ds : List Descriptor} (h : ReadsAll v ds)
    (hsame : SameValue v w) : ReadsAll w ds := by
  obtain ⟨items, rfl, hitems⟩ := h
  obtain ⟨items', rfl, hsame'⟩ := hsame.arr
  exact ⟨items', rfl, forall₂_of_same (R := Reads) (fun _ _ _ => .of_same) hitems hsame'⟩

theorem ReadsDerivation.of_same {v w : Json} {ds : List Descriptor} (h : ReadsDerivation v ds)
    (hsame : SameValue v w) : ReadsDerivation w ds := by
  obtain ⟨files, attestation, hfiles, hattestation, rfl⟩ := h.parts
  exact ⟨files, attestation, hfiles.of_same (hsame.read _), hattestation.of_same (hsame.read _), rfl⟩

theorem Lists.of_same {v w : Json} {l : Listing} (h : Lists v l) (hsame : SameValue v w) :
    Lists w l := by
  have hartifacts := hsame.read "artifacts"
  obtain ⟨items, hitems, hderived⟩ := h.derived
  obtain ⟨items', hitems', hsame'⟩ := (hitems ▸ hartifacts.read "browser_derivations").arr
  exact {
    component := h.component.of_same (hartifacts.read _)
    assets := h.assets.of_same (hartifacts.read _)
    derived := ⟨items', hitems', forall₂_of_same (fun _ _ _ => .of_same) hderived hsame'⟩
    provenance := h.provenance.of_same (hartifacts.read _)
    sbom := h.sbom.of_same (hartifacts.read _) }

/-! ## The builder -/

theorem subscript_of_read {value : Json} {key : String} (h : read value key ≠ .null) :
    subscript value key = .ok (read value key) := by
  cases value with
  | obj members =>
    rw [subscript, read, field] at *
    cases hlookup : members.lookup key with
    | none =>
      rw [hlookup] at h
      exact absurd rfl h
    | some item => rfl
  | _ => exact absurd rfl h

theorem Reads.ne_null {value : Json} {d : Descriptor} (h : Reads value d) : value ≠ .null := by
  rintro rfl
  cases h.path

theorem subscript_of_reads {value : Json} {key : String} {d : Descriptor}
    (h : Reads (read value key) d) : subscript value key = .ok (read value key) :=
  subscript_of_read h.ne_null

theorem iterate_of_readsAll {value : Json} {key : String} {ds : List Descriptor}
    (h : ReadsAll (read value key) ds) :
    ∃ items, subscript value key >>= iterate = .ok items ∧ List.Forall₂ Reads items ds := by
  obtain ⟨items, hitems, hds⟩ := h
  refine ⟨items, ?_, hds⟩
  rw [subscript_of_read (by rw [hitems]; exact nofun), ok_bind, hitems]
  rfl

theorem hexDigit?_of_isHexDigit {c : Char} (h : AppStore.isHexDigit c = true) :
    hexDigit? c = some (Json.hexVal c) ∧ isBlank c = false := by
  have hall : ("0123456789abcdef".toList.all fun c =>
      hexDigit? c = some (Json.hexVal c) && !isBlank c) = true := by decide +kernel
  simpa using List.all_eq_true.1 hall c (List.contains_iff_mem.1 h)

/-- The bytes of a digest. -/
theorem fromHex_of_isHexDigit : ∀ {cs : List Char}, cs.all AppStore.isHexDigit = true →
    cs.length % 2 = 0 → fromHex cs = .ok (Daemon.fromHex cs)
  | [], _, _ => rfl
  | [_], _, h => by cases h
  | high :: low :: rest, hall, h => by
    rw [List.all_cons, List.all_cons, Bool.and_eq_true, Bool.and_eq_true] at hall
    obtain ⟨hhigh, hblank⟩ := hexDigit?_of_isHexDigit hall.1
    have hlow := (hexDigit?_of_isHexDigit hall.2.1).1
    have hrest : rest.length % 2 = 0 := by
      rw [List.length_cons, List.length_cons] at h
      omega
    rw [fromHex, hblank, if_neg Bool.false_ne_true, hhigh, hlow]
    dsimp only
    rw [fromHex_of_isHexDigit hall.2.2 hrest]
    rfl

theorem pathOf_of_reads {value : Json} {d : Descriptor} (h : Reads value d) :
    pathOf value = .ok d.path := by
  rw [pathOf, subscript_of_read (by rw [h.path]; exact nofun), ok_bind, h.path]
  rfl

theorem toBytes_of_lt {width : Nat} {n : Int} (h : 0 ≤ n) (hlt : n < 256 ^ width) :
    toBytes width n = .ok (packBE width n.toNat) :=
  if_pos ⟨h, hlt⟩

/-- The builder adds the row's own bytes. -/
theorem descriptorBytes_of_reads (python : Conversions) {value : Json} {d : Descriptor}
    (h : Reads value d) : descriptorBytes python value = .ok (Daemon.descriptorBytes d) := by
  have hlength : (d.path.toUTF8.data.toList.length : Int) < 256 ^ 2 := by
    have hle : (d.path.toUTF8.data.toList.length : Int) ≤ 240 := by
      rw [Array.length_toList]
      exact_mod_cast h.path_le
    exact lt_of_le_of_lt hle (by norm_num)
  have hhex : d.sha256.toList.all AppStore.isHexDigit = true ∧ d.sha256.toList.length % 2 = 0 := by
    have hsha := h.isSha256
    rw [AppStore.isSha256, Bool.and_eq_true, decide_eq_true_iff] at hsha
    refine ⟨hsha.2, ?_⟩
    rw [String.length_toList, hsha.1]
  have hsha : subscript value "sha256" >>= fromHexOf = .ok (Daemon.fromHex d.sha256.toList) := by
    rw [subscript_of_read (by rw [h.sha256]; exact nofun), ok_bind, h.sha256]
    exact fromHex_of_isHexDigit hhex.1 hhex.2
  have hsize : subscript value "size_bytes" >>= toInt python = .ok d.sizeBytes := by
    rw [subscript_of_read (by rw [h.size]; exact nofun), ok_bind, h.size]
    rfl
  rw [descriptorBytes, pathOf_of_reads h, ok_bind]
  dsimp only
  rw [toBytes_of_lt (Int.natCast_nonneg _) hlength, ok_bind, hsha, ok_bind, hsize, ok_bind,
    toBytes_of_lt h.size_nonneg h.size_lt]
  rfl

theorem exists_derivationDescriptors {value : Json} {ds : List Descriptor}
    (h : ReadsDerivation value ds) :
    ∃ items, derivationDescriptors value = .ok items ∧ List.Forall₂ Reads items ds := by
  obtain ⟨files, attestation, hfiles, hattestation, rfl⟩ := h.parts
  obtain ⟨items, hitems, hreads⟩ := iterate_of_readsAll hfiles
  refine ⟨items ++ [read value "derivation_attestation"], ?_,
    List.rel_append hreads (.cons hattestation .nil)⟩
  rw [derivationDescriptors, hitems, ok_bind, subscript_of_reads hattestation]
  rfl

/-- The rows, in the order of the builder. -/
def Listing.collected (l : Listing) : List Descriptor :=
  l.component :: l.assets ++ [l.provenance, l.sbom] ++ l.derived.flatten

theorem Listing.collected_perm (l : Listing) : l.collected.Perm l.rows := by
  rw [collected, rows, List.append_assoc, List.append_assoc]
  exact List.perm_append_comm.append_left _

theorem exists_listDescriptors {manifest : Json} {l : Listing} (h : Lists manifest l) :
    ∃ items, listDescriptors manifest = .ok items ∧ List.Forall₂ Reads items l.collected := by
  obtain ⟨assets, hassets, hassetReads⟩ := iterate_of_readsAll h.assets
  obtain ⟨derivations, hderivations, hderivationReads⟩ := h.derived
  obtain ⟨derived, hderived, hderivedReads⟩ :=
    exists_mapM (R := ReadsDerivation) (fun _ _ h => exists_derivationDescriptors h)
      hderivationReads
  have hartifacts : read manifest "artifacts" ≠ .null := by
    intro hnull
    rw [hnull] at hderivations
    cases hderivations
  refine ⟨read (read manifest "artifacts") "canonical_component" :: assets ++
    [read (read manifest "artifacts") "provenance", read (read manifest "artifacts") "sbom"] ++
      derived.flatten, ?_, ?_⟩
  · rw [listDescriptors, subscript_of_read hartifacts, ok_bind, subscript_of_reads h.component,
      ok_bind, hassets, ok_bind, subscript_of_reads h.provenance, ok_bind,
      subscript_of_reads h.sbom, ok_bind, subscript_of_read (by rw [hderivations]; exact nofun),
      hderivations]
    change (derivations.mapM derivationDescriptors >>= _) = _
    rw [hderived]
    rfl
  · exact List.rel_append (List.rel_append (.cons h.component hassetReads)
      (.cons h.provenance (.cons h.sbom .nil))) (List.rel_flatten hderivedReads)

/-- The rows sorted by path. -/
def byPath (ds : List Descriptor) : List Descriptor := ds.insertionSort fun a b => a.path ≤ b.path

theorem exists_sortByPath {items : List Json} {ds : List Descriptor}
    (h : List.Forall₂ Reads items ds) :
    ∃ sorted, sortByPath items = .ok sorted ∧ List.Forall₂ Reads sorted (byPath ds) := by
  obtain ⟨keyed, hkeyed, hreads⟩ := exists_mapM
    (f := fun item => do return (← pathOf item, item))
    (S := fun (k : String × Json) (d : Descriptor) => k.1 = d.path ∧ Reads k.2 d)
    (fun item d hread => ⟨(d.path, item), by rw [pathOf_of_reads hread]; rfl, rfl, hread⟩) h
  have hsorted := forall₂_insertionSort (r := fun a b => a.1 ≤ b.1)
    (s := fun a b : Descriptor => a.path ≤ b.path)
    (fun _ _ _ _ hab hcd => by rw [hab.1, hcd.1]) hreads
  refine ⟨_, ?_, List.forall₂_map_left_iff.2 (hsorted.imp fun _ _ hk => hk.2)⟩
  rw [sortByPath, hkeyed]
  rfl

/-- The digest of a manifest whose sorted rows are `ds`. -/
def digestOf (sha256 : List UInt8 → String) (manifest : Json) (ds : List Descriptor) : String :=
  sha256 (packageMagic ++ packBE 8 (canonicalJson manifest).length ++ canonicalJson manifest ++
    ds.flatMap Daemon.descriptorBytes)

theorem preimage_of_lists (python : Conversions) {manifest : Json} {l : Listing}
    (h : Lists manifest l) :
    preimage python manifest = do
      let length ← toBytes 8 (canonicalJson manifest).length
      return packageMagic ++ length ++ canonicalJson manifest ++
        (byPath l.collected).flatMap Daemon.descriptorBytes := by
  obtain ⟨items, hitems, hreads⟩ := exists_listDescriptors h
  obtain ⟨sorted, hsorted, hrows⟩ := exists_sortByPath hreads
  rw [preimage, hitems, ok_bind, hsorted, ok_bind,
    mapM_of_forall₂ hrows fun _ _ => descriptorBytes_of_reads python, List.flatMap_def]
  rfl

/-- **The builder on a listing**: it refuses only a manifest whose length has no eight bytes. -/
theorem packageDigest_of_lists {sha256 : List UInt8 → String} {python : Conversions}
    {manifest : Json} {l : Listing} (h : Lists manifest l) :
    packageDigest sha256 python manifest =
      if (canonicalJson manifest).length < 256 ^ 8 then
        .ok (digestOf sha256 manifest (byPath l.collected))
      else
        .error (.pipeline "schema-invalid" "manifest cannot form package digest: " .overflow) := by
  rw [packageDigest, preimage_of_lists python h, toBytes]
  by_cases hlength : (canonicalJson manifest).length < 256 ^ 8
  · rw [if_pos hlength, if_pos ⟨Int.natCast_nonneg _, by exact_mod_cast hlength⟩]
    rfl
  · rw [if_neg hlength, if_neg fun hlt => hlength (by exact_mod_cast hlt.2)]
    rfl

theorem eq_of_packageDigest {sha256 : List UInt8 → String} {python : Conversions}
    {manifest : Json} {l : Listing} (h : Lists manifest l) {digest : String}
    (hdigest : packageDigest sha256 python manifest = .ok digest) :
    digest = digestOf sha256 manifest (byPath l.collected) := by
  rw [packageDigest_of_lists h] at hdigest
  split at hdigest
  · exact (Except.ok.inj hdigest).symm
  · cases hdigest

end Vibapp.Builder
