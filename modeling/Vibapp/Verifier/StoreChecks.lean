import Mathlib.Data.List.TakeWhile
import Vibapp.Builder.DigestAgreement
import Vibapp.Builder.HandoffSize
import Vibapp.Verifier.Pipeline
import Vibapp.Lib.ByteOrder
import Vibapp.Verifier.Recheck

/-!
# The store's checks on an accepted manifest

The store checks a manifest again, by its own rules. Section by section: what the verifier's check of
a section leaves open of the store's.
-/

namespace Vibapp.Verifier

open Daemon (field hasExactly asStr asInt asBool)
open Builder (isAppId isSemver read)

/-! ## Inversions -/

theorem eq_str_of_asStr {value : Json} {s : String} (h : asStr value = some s) :
    value = .str s := by
  cases value <;> cases h
  rfl

theorem exists_str_of_any {value : Json} {p : String → Bool} (h : (asStr value).any p = true) :
    ∃ s, value = .str s ∧ p s = true := by
  cases value with
  | str s => exact ⟨s, rfl, h⟩
  | _ => cases h

theorem requireExactObject_eq_ok {value : Json} {fields : List String} {context : String}
    {members : List (String × Json)} (h : requireExactObject value fields context = .ok members) :
    value = .obj members ∧ hasExactly members fields = true := by
  unfold requireExactObject at h
  cases value with
  | obj found =>
    dsimp only at h
    split at h
    · rename_i hexact
      cases h
      exact ⟨rfl, hexact⟩
    · cases h
  | _ => cases h

theorem requireInteger_eq_ok {value : Json} {context : String} {minimum maximum n : Int}
    (h : requireInteger value context minimum maximum = .ok n) :
    value = .int n ∧ minimum ≤ n ∧ n ≤ maximum := by
  unfold requireInteger at h
  cases value with
  | int m =>
    dsimp only [asInt] at h
    split at h
    · rename_i hbounds
      cases h
      exact ⟨rfl, hbounds⟩
    · cases h
  | _ => cases h

theorem requireSha256_eq_ok {value : Json} {context : String} {u : Unit}
    (h : requireSha256 value context = .ok u) :
    ∃ s, value = .str s ∧ AppStore.isSha256 s = true :=
  exists_str_of_any (require_eq_ok.1 h)

theorem requireList_eq_ok {value : Json} {code message : String} {items : List Json}
    (h : requireList value code message = .ok items) : value = .arr items := by
  unfold requireList at h
  cases value with
  | arr found =>
    cases h
    rfl
  | _ => cases h

theorem memberOf_eq_ok {value : Json} {items : List String} (h : memberOf value items = .ok true) :
    ∃ s, value = .str s ∧ s ∈ items := by
  unfold memberOf at h
  cases value with
  | str s =>
    refine ⟨s, rfl, List.contains_iff_mem.1 ?_⟩
    exact Except.ok.inj h
  | _ => cases h

/-! ## Texts -/

/-- What `_text` asks of a text. -/
structure Fits (maximum : Nat) (s : String) : Prop where
  nonempty : s ≠ ""
  size : s.utf8ByteSize ≤ maximum
  noNul : '\x00' ∉ s.toList

/-- `Fits`, counted on bytes. -/
theorem Fits.of_bytes {maximum : Nat} {s : String} (hne : utf8Bytes s ≠ [])
    (hlength : (utf8Bytes s).length ≤ maximum) (hnul : 0 ∉ utf8Bytes s) : Fits maximum s where
  nonempty := by
    rintro rfl
    exact hne rfl
  size := by
    rw [← String.size_toByteArray]
    exact hlength
  noNul := by
    intro h
    rw [utf8Bytes_eq] at hnul
    exact hnul (List.mem_flatMap.2 ⟨_, h, by decide⟩)

theorem text_eq_ok {s t label : String} {maximum : Nat} :
    AppStore.text (.str s) label maximum = .ok t ↔ t = s ∧ Fits maximum s := by
  unfold AppStore.text
  dsimp only
  split
  · rename_i h
    refine ⟨nofun, fun ⟨_, hfits⟩ => ?_⟩
    rcases h with h | h | h
    · exact absurd h hfits.nonempty
    · exact absurd hfits.size (not_le.2 h)
    · exact absurd (List.contains_iff_mem.1 h) hfits.noNul
  · rename_i h
    rw [not_or, not_or, not_lt] at h
    rw [Except.ok.injEq]
    refine ⟨fun heq => ⟨heq.symm, h.1, h.2.1, fun hmem => h.2.2 ?_⟩, fun ⟨heq, _⟩ => heq.symm⟩
    exact List.contains_iff_mem.2 hmem

theorem Fits.of_plain {n maximum : Nat} {s : String} (h : Json.Plain n s) (hne : s ≠ "")
    (hle : s.length ≤ maximum) : Fits maximum s := by
  refine ⟨hne, ?_, ?_⟩
  · have hsize : ∀ c ∈ s.toList, c.utf8Size = 1 := fun c hc =>
      Json.utf8Size_of_isPlain (h.isPlain c hc)
    have hbytes := Json.utf8Len_ascii hsize
    rw [← Json.utf8ByteSize_ofList, String.ofList_toList] at hbytes
    rwa [hbytes, String.length_toList]
  · intro hnul
    exact absurd (h.isPlain _ hnul) (by decide)

/-! ## Grammars -/

theorem isLower_eq (c : Char) : c.isLower = Protocol.Model.isAsciiLowercase c := rfl

theorem isDigit_eq (c : Char) : c.isDigit = Protocol.Model.isAsciiDigit c := rfl

/-- One expression for identifiers. -/
theorem isIdentifier_of_appId {s : String} (h : isAppId s = true) : AppStore.isIdentifier s = true := by
  unfold isAppId CloudAgent.isAppIdentifier at h
  unfold AppStore.isIdentifier
  rw [Bool.and_eq_true, List.all_eq_true] at h ⊢
  refine ⟨h.1, fun part hpart => ?_⟩
  have hletters := h.2 part hpart
  rw [Bool.and_eq_true, decide_eq_true_eq] at hletters
  unfold Protocol.Model.isIdentifierSegment
  rw [Bool.and_eq_true]
  refine ⟨?_, hletters.2⟩
  simpa using hletters.1

theorem appId_ne_empty {s : String} (h : isAppId s = true) : s ≠ "" := by
  rintro rfl
  cases h

theorem semver_ne_empty {s : String} (h : isSemver s = true) : s ≠ "" := by
  rintro rfl
  cases h

theorem isDigit_of_semver {s : String} (h : isSemver s = true) {c : Char} (hc : c ∈ s.toList)
    (hdot : c ≠ '.') : c.isDigit = true := by
  unfold isSemver CloudAgent.isSemver at h
  rw [Bool.and_eq_true, List.all_eq_true] at h
  obtain ⟨part, hpart, hc⟩ := Builder.mem_splitOnP (p := (· == '.')) hc (beq_false_of_ne hdot)
  rw [← List.splitOn_eq_splitOnP] at hpart
  have hdigits := h.2 part hpart
  rw [Bool.and_eq_true, Bool.and_eq_true, List.all_eq_true] at hdigits
  exact hdigits.1.2 c hc

/-- The verifier's versions have neither a pre-release nor a build part. -/
theorem semver_of_semver {s : String} (h : isSemver s = true) : AppStore.isSemver s = true := by
  have hplain : ∀ c ∈ s.toList, (c ≠ '-' && c ≠ '+') = true := by
    intro c hc
    by_cases hdot : c = '.'
    · rw [hdot]
      decide
    · have hdigit := isDigit_of_semver h hc hdot
      rw [Bool.and_eq_true, decide_eq_true_eq, decide_eq_true_eq]
      constructor
      · rintro rfl
        cases hdigit
      · rintro rfl
        cases hdigit
  have htake : s.toList.takeWhile (fun c => c ≠ '-' && c ≠ '+') = s.toList :=
    List.takeWhile_eq_self_iff.2 hplain
  have hdrop : s.toList.dropWhile (fun c => c ≠ '-' && c ≠ '+') = [] :=
    List.dropWhile_eq_nil_iff.2 hplain
  unfold AppStore.isSemver Protocol.Model.isSemver
  dsimp only
  rw [htake, hdrop]
  unfold isSemver CloudAgent.isSemver at h
  rw [Bool.and_eq_true, decide_eq_true_eq, List.all_eq_true] at h
  obtain ⟨major, minor, patch, hparts⟩ := List.length_eq_three.1 h.1
  have hnumeric : ∀ part ∈ s.toList.splitOn '.', Protocol.Model.validNumeric part = true := by
    intro part hpart
    have hpart := h.2 part hpart
    simpa [Protocol.Model.validNumeric, isDigit_eq] using hpart
  rw [hparts] at hnumeric ⊢
  simp only [List.forall_mem_cons] at hnumeric
  dsimp only
  rw [hnumeric.1, hnumeric.2.1, hnumeric.2.2.1]
  rfl

/-! ## Artifacts -/

theorem eq_nil_of_equals {value : Json} (h : (Json.arr []).equals value = true) :
    value = .arr [] := by
  cases value with
  | arr items =>
    rw [Json.equals, Json.equalsItems, List.isEmpty_iff] at h
    rw [h]
  | _ => cases h

/-- A descriptor of the manifest, as the store reads it. -/
def storeDescriptor (path mediaType : String) (d : Descriptor) : AppStore.Descriptor :=
  ⟨path, d.sha256, d.sizeBytes, mediaType⟩

theorem descriptor_of_artifact {artifacts : List (String × Json)} {name path mediaType : String}
    {u : Unit} (h : validateArtifact artifacts name path mediaType = .ok u)
    (hpath : ∀ label, AppStore.artifactPath (.str path) label = .ok path)
    (hmedia : Fits 128 mediaType) (label : String) :
    AppStore.descriptor (field artifacts name) label =
      .ok (storeDescriptor path mediaType (descriptorOf (field artifacts name))) := by
  unfold validateArtifact at h
  obtain ⟨members, hmembers, h⟩ := bind_eq_ok.1 h
  obtain ⟨_, htexts, h⟩ := bind_eq_ok.1 h
  obtain ⟨_, hsha, h⟩ := bind_eq_ok.1 h
  obtain ⟨n, hsize, h⟩ := bind_eq_ok.1 h
  obtain ⟨hvalue, hexact⟩ := requireExactObject_eq_ok hmembers
  rw [require_eq_ok, Bool.and_eq_true, decide_eq_true_eq, decide_eq_true_eq] at htexts
  obtain ⟨sha, hsha, hhex⟩ := requireSha256_eq_ok hsha
  obtain ⟨hsize, hpos, hle⟩ := requireInteger_eq_ok hsize
  have hdigest : AppStore.digest (.str sha) (label ++ ".sha256") = .ok sha := if_pos hhex
  have hbounded : AppStore.boundedSize (.int n) AppStore.maxArtifactBytes "resource-limit"
      (label ++ ".size_bytes is outside the artifact bound") = .ok n.toNat := if_pos ⟨hpos, hle⟩
  have hdescriptor : descriptorOf (.obj members) = ⟨sha, n.toNat⟩ := by
    have hread : ∀ key, read (.obj members) key = field members key := fun _ => rfl
    rw [descriptorOf, hread, hread, hsha, hsize]
    rfl
  rw [hvalue, hdescriptor, AppStore.descriptor, if_pos hexact, eq_str_of_asStr htexts.1, hpath,
    ok_bind, hsha, hdigest, ok_bind, hsize, hbounded, ok_bind, eq_str_of_asStr htexts.2,
    text_eq_ok.2 ⟨rfl, hmedia⟩]
  rfl

/-- What the store lists of a manifest with four files. -/
def listed (manifest : Manifest) : AppStore.Descriptor × List AppStore.Descriptor :=
  (storeDescriptor "component.wasm" "application/wasm" manifest.component,
    [storeDescriptor "provenance.json" "application/json" manifest.provenance,
      storeDescriptor "sbom.cdx.json" "application/vnd.cyclonedx+json" manifest.sbom])

theorem manifestDescriptors_of_artifacts {manifest : List (String × Json)} {u : Unit}
    (h : validateArtifacts (field manifest "artifacts") = .ok u) :
    AppStore.manifestDescriptors manifest = .ok (listed (manifestOf (.obj manifest))) := by
  unfold validateArtifacts at h
  obtain ⟨artifacts, hartifacts, h⟩ := bind_eq_ok.1 h
  obtain ⟨_, hempty, h⟩ := bind_eq_ok.1 h
  obtain ⟨_, hcomponent, h⟩ := bind_eq_ok.1 h
  obtain ⟨_, hprovenance, hsbom⟩ := bind_eq_ok.1 h
  obtain ⟨hvalue, -⟩ := requireExactObject_eq_ok hartifacts
  rw [require_eq_ok, Bool.and_eq_true] at hempty
  have hcomponent := descriptor_of_artifact hcomponent (fun _ => rfl)
    ⟨by decide, by decide, by decide⟩ "canonical_component"
  have hprovenance := descriptor_of_artifact hprovenance (fun _ => rfl)
    ⟨by decide, by decide, by decide⟩ "provenance"
  have hsbom := descriptor_of_artifact hsbom (fun _ => rfl)
    ⟨by decide, by decide, by decide⟩ "sbom"
  have hlisted : listed (manifestOf (.obj manifest)) =
      (storeDescriptor "component.wasm" "application/wasm"
          (descriptorOf (field artifacts "canonical_component")),
        [storeDescriptor "provenance.json" "application/json"
            (descriptorOf (field artifacts "provenance")),
          storeDescriptor "sbom.cdx.json" "application/vnd.cyclonedx+json"
            (descriptorOf (field artifacts "sbom"))]) := by
    unfold listed manifestOf Builder.read
    dsimp only
    rw [hvalue]
  rw [hlisted, AppStore.manifestDescriptors, hvalue]
  dsimp only
  rw [hcomponent, ok_bind, eq_nil_of_equals hempty.1, eq_nil_of_equals hempty.2]
  dsimp only
  rw [hprovenance, hsbom]
  rfl

/-! ## State -/

/-- A field of the state that the store accepts. -/
theorem stateValue_eq_ok {state : List (String × Json)} {key : String} {n : Int}
    (hfield : field state key = .int n) (hpos : 1 ≤ n) (hle : n ≤ 4294967295) :
    AppStore.stateValue state key = .ok n.toNat := by
  rw [AppStore.stateValue, hfield]
  exact if_pos ⟨hpos, hle⟩

/-- A field that an exact object has. -/
theorem mem_of_hasExactly {members : List (String × Json)} {keys : List String}
    (h : hasExactly members keys = true) {key : String} (hkey : key ∈ keys) :
    (key, field members key) ∈ members := by
  unfold hasExactly at h
  rw [Bool.and_eq_true, List.all_eq_true, List.all_eq_true] at h
  have hmem := List.contains_iff_mem.1 (h.2 key hkey)
  unfold field
  cases hlookup : members.lookup key with
  | none =>
    obtain ⟨p, hp, rfl⟩ := List.mem_map.1 hmem
    have hnone := List.lookup_eq_none_iff.1 hlookup p hp
    simp at hnone
  | some value =>
    obtain ⟨l, m, heq, -⟩ := List.lookup_eq_some_iff.1 hlookup
    rw [heq]
    simp

/-- The three values of a state that the verifier accepts. -/
theorem validateState_eq_ok {value : Json} {u : Unit} (h : validateState value = .ok u) :
    ∃ state, value = .obj state ∧
      hasExactly state ["schema", "migratable_from_min", "migratable_from_max"] = true ∧
        ∀ key ∈ ["schema", "migratable_from_min", "migratable_from_max"],
          ∃ n : Int, field state key = .int n ∧ 1 ≤ n ∧ n ≤ 4294967295 := by
  unfold validateState at h
  obtain ⟨state, hstate, h⟩ := bind_eq_ok.1 h
  obtain ⟨values, hvalues, -⟩ := bind_eq_ok.1 h
  obtain ⟨hvalue, hexact⟩ := requireExactObject_eq_ok hstate
  refine ⟨state, hvalue, hexact, fun key hkey => ?_⟩
  have hall : ∀ p ∈ state, ∃ n : Int, p.2 = .int n ∧ 1 ≤ n ∧ n ≤ 4294967295 := by
    intro p hp
    obtain ⟨n, -, hn⟩ := exists_of_mapM hvalues hp
    exact ⟨n, requireInteger_eq_ok hn⟩
  exact hall _ (mem_of_hasExactly hexact hkey)

/-- The two bounds of a state's migrations are in their order. -/
def StateOrdered (value : Json) : Prop :=
  ∃ least greatest : Int, read value "migratable_from_min" = .int least ∧
    read value "migratable_from_max" = .int greatest ∧ least ≤ greatest

theorem validateState_iff {manifest : List (String × Json)} {u : Unit}
    (h : validateState (field manifest "state") = .ok u) :
    (∃ state, AppStore.validateState manifest = .ok state) ↔
      StateOrdered (field manifest "state") := by
  obtain ⟨state, hvalue, hexact, hfields⟩ := validateState_eq_ok h
  obtain ⟨schema, hschema, hschema₁, hschema₂⟩ := hfields "schema" (by simp)
  obtain ⟨least, hleast, hleast₁, hleast₂⟩ := hfields "migratable_from_min" (by simp)
  obtain ⟨greatest, hgreatest, hgreatest₁, hgreatest₂⟩ := hfields "migratable_from_max" (by simp)
  have hread : ∀ key, read (.obj state) key = field state key := fun _ => rfl
  rw [AppStore.validateState, hvalue, AppStore.exactObject, if_pos hexact, ok_bind,
    stateValue_eq_ok hschema hschema₁ hschema₂, ok_bind,
    stateValue_eq_ok hleast hleast₁ hleast₂, ok_bind,
    stateValue_eq_ok hgreatest hgreatest₁ hgreatest₂, ok_bind]
  unfold StateOrdered
  rw [hread, hread, hleast, hgreatest]
  constructor
  · rintro ⟨_, hok⟩
    obtain ⟨_, hle, -⟩ := bind_eq_ok.1 hok
    rw [AppStore.raiseIf_eq_ok, not_lt] at hle
    exact ⟨least, greatest, rfl, rfl, by omega⟩
  · rintro ⟨_, _, hl, hg, hle⟩
    cases hl
    cases hg
    exact ⟨state, bind_eq_ok.2 ⟨(), AppStore.raiseIf_eq_ok.2 (by omega), rfl⟩⟩

/-! ## Runtime -/

theorem exists_arr_of_equals {expected : List Json} {value : Json}
    (h : (Json.arr expected).equals value = true) : ∃ items, value = .arr items := by
  cases value with
  | arr items => exact ⟨items, rfl⟩
  | _ => cases h

theorem validateRuntime_of_ok {manifest app : List (String × Json)} {r : List String × List String}
    (h : validateRuntime (field manifest "runtime") app = .ok r) {capabilities entrypoints : List Json}
    (hcapabilities : field manifest "capabilities" = .arr capabilities)
    (hentrypoints : field manifest "entrypoints" = .arr entrypoints) :
    ∃ parts, AppStore.validateRuntime manifest = .ok parts := by
  unfold validateRuntime at h
  obtain ⟨runtime, hruntime, h⟩ := bind_eq_ok.1 h
  obtain ⟨_, hcontract, h⟩ := bind_eq_ok.1 h
  obtain ⟨known, hknown, h⟩ := bind_eq_ok.1 h
  obtain ⟨_, hworld, h⟩ := bind_eq_ok.1 h
  obtain ⟨_, -, h⟩ := bind_eq_ok.1 h
  obtain ⟨profiles, hprofiles, h⟩ := bind_eq_ok.1 h
  obtain ⟨_, -, h⟩ := bind_eq_ok.1 h
  obtain ⟨names, -, h⟩ := bind_eq_ok.1 h
  obtain ⟨_, hplatforms, -⟩ := bind_eq_ok.1 h
  obtain ⟨hvalue, -⟩ := requireExactObject_eq_ok hruntime
  rw [require_eq_ok, Bool.and_eq_true, decide_eq_true_eq, decide_eq_true_eq] at hcontract
  rw [require_eq_ok, Bool.and_eq_true] at hworld
  obtain ⟨world, hworld', hmem⟩ := memberOf_eq_ok (hworld.1 ▸ hknown)
  obtain ⟨platforms, hplatforms⟩ := exists_arr_of_equals (require_eq_ok.1 hplatforms)
  have hmember : world ∈ ["ui-only-reference", "service-only-reference", "hybrid-reference",
      "web-preview-reference"] := by
    have hsub : ∀ w ∈ worldImports.map Prod.fst, w ∈ ["ui-only-reference",
        "service-only-reference", "hybrid-reference", "web-preview-reference"] := by decide
    exact hsub world hmem
  have hok : AppStore.raiseIf (asStr (field runtime "contract") ≠
      some "vibapp:experimental-v0@0.0.1" ∨ asStr (field runtime "wasi") ≠ some "0.2" ∨
        world ∉ ["ui-only-reference", "service-only-reference", "hybrid-reference",
          "web-preview-reference"])
      "incompatible-contract" "manifest runtime contract is unsupported" = .ok () :=
    AppStore.raiseIf_eq_ok.2 (by simp [hcontract.1, hcontract.2, hmember])
  have hworldText : asStr (field runtime "world") = some world := by rw [hworld']; rfl
  refine ⟨(world, profiles, platforms, entrypoints, capabilities), ?_⟩
  rw [AppStore.validateRuntime, hvalue, hcapabilities, hentrypoints]
  dsimp only
  rw [hworldText]
  dsimp only
  rw [hok, ok_bind, requireList_eq_ok hprofiles, hplatforms]
  rfl

/-! ## The app -/

/-- The texts of an app that the verifier accepts. -/
structure AppTexts (value : Json) (app publisher : List (String × Json))
    (id version kind displayName description publisherId publisherName : String) : Prop where
  value_eq : value = .obj app
  id_eq : field app "id" = .str id
  version_eq : field app "version" = .str version
  kind_eq : field app "kind" = .str kind
  displayName_eq : field app "display_name" = .str displayName
  description_eq : field app "description" = .str description
  publisher_eq : field app "publisher" = .obj publisher
  publisherId_eq : field publisher "id" = .str publisherId
  publisherName_eq : field publisher "display_name" = .str publisherName
  isAppId : isAppId id = true
  isSemver : isSemver version = true
  isKind : kind ∈ ["ui", "service", "hybrid"]
  displayName_ne : displayName ≠ ""
  displayName_le : displayName.utf8ByteSize ≤ 80
  description_ne : description ≠ ""
  description_le : description.utf8ByteSize ≤ 1000
  isPublisherId : Builder.isAppId publisherId = true
  publisherName_ne : publisherName ≠ ""

theorem isBoundedText_eq_true {value : Json} {maximum : Nat} (h : isBoundedText value maximum = true) :
    ∃ s, value = .str s ∧ s ≠ "" ∧ s.utf8ByteSize ≤ maximum := by
  obtain ⟨s, hs, hbounds⟩ := exists_str_of_any h
  rw [Bool.and_eq_true, decide_eq_true_eq, decide_eq_true_eq] at hbounds
  exact ⟨s, hs, hbounds⟩

theorem validateApp_eq_ok {value : Json} {app : List (String × Json)}
    (h : validateApp value = .ok app) :
    ∃ publisher id version kind displayName description publisherId publisherName,
      AppTexts value app publisher id version kind displayName description publisherId
        publisherName := by
  unfold validateApp at h
  obtain ⟨members, hmembers, h⟩ := bind_eq_ok.1 h
  obtain ⟨_, hid, h⟩ := bind_eq_ok.1 h
  obtain ⟨_, hversion, h⟩ := bind_eq_ok.1 h
  obtain ⟨known, hkind, h⟩ := bind_eq_ok.1 h
  obtain ⟨_, hknown, h⟩ := bind_eq_ok.1 h
  obtain ⟨_, hdisplayName, h⟩ := bind_eq_ok.1 h
  obtain ⟨_, hdescription, h⟩ := bind_eq_ok.1 h
  obtain ⟨publisher, hpublisher, h⟩ := bind_eq_ok.1 h
  obtain ⟨_, hpublisherId, h⟩ := bind_eq_ok.1 h
  obtain ⟨_, hpublisherName, h⟩ := bind_eq_ok.1 h
  cases pure_eq_ok.1 h
  obtain ⟨id, hid, hisAppId⟩ := exists_str_of_any (require_eq_ok.1 hid)
  obtain ⟨version, hversion, hisSemver⟩ := exists_str_of_any (require_eq_ok.1 hversion)
  rw [require_eq_ok] at hknown
  obtain ⟨kind, hkind, hisKind⟩ := memberOf_eq_ok (hknown ▸ hkind)
  obtain ⟨displayName, hdisplayName, hdisplayNe, hdisplayLe⟩ :=
    isBoundedText_eq_true (require_eq_ok.1 hdisplayName)
  obtain ⟨description, hdescription, hdescriptionNe, hdescriptionLe⟩ :=
    isBoundedText_eq_true (require_eq_ok.1 hdescription)
  obtain ⟨publisherId, hpublisherId, hisPublisher⟩ :=
    exists_str_of_any (require_eq_ok.1 hpublisherId)
  obtain ⟨publisherName, hpublisherName, hpublisherNe⟩ :=
    exists_str_of_any (require_eq_ok.1 hpublisherName)
  exact ⟨publisher, id, version, kind, displayName, description, publisherId, publisherName, {
    value_eq := (requireExactObject_eq_ok hmembers).1
    id_eq := hid
    version_eq := hversion
    kind_eq := hkind
    displayName_eq := hdisplayName
    description_eq := hdescription
    publisher_eq := (requireExactObject_eq_ok hpublisher).1
    publisherId_eq := hpublisherId
    publisherName_eq := hpublisherName
    isAppId := hisAppId
    isSemver := hisSemver
    isKind := hisKind
    displayName_ne := hdisplayNe
    displayName_le := hdisplayLe
    description_ne := hdescriptionNe
    description_le := hdescriptionLe
    isPublisherId := hisPublisher
    publisherName_ne := of_decide_eq_true hpublisherNe }⟩

/-- What the guest's descriptor says of the manifest that it agrees with. -/
structure GuestBounds (manifest : Manifest) : Prop where
  id : manifest.id.length ≤ 128
  version : manifest.version.length ≤ 128
  displayName : '\x00' ∉ manifest.displayName.toList

theorem boundedText_eq_ok {value : Json} {context s : String} {maximum : Nat}
    (h : boundedText value context maximum = .ok s) :
    s.length ≤ maximum ∧ '\x00' ∉ s.toList := by
  unfold boundedText at h
  cases hvalue : asStr value with
  | none =>
    rw [hvalue] at h
    cases h
  | some t =>
    rw [hvalue] at h
    dsimp only at h
    split at h
    · rename_i hbounds
      cases h
      refine ⟨hbounds.2.1, fun hnul => ?_⟩
      have hany : s.toList.any isControl = true := List.any_eq_true.2 ⟨_, hnul, by decide⟩
      rw [hany] at hbounds
      exact absurd hbounds.2.2 (by decide)
    · cases h

theorem guestBounds_of_ok {tools : Tools} {component : List UInt8} {manifest : Manifest}
    {check : Check} (h : runGuestDescriptorReconciliation tools component manifest = .ok check) :
    GuestBounds manifest ∧ check = guestCheck := by
  unfold runGuestDescriptorReconciliation at h
  obtain ⟨_, -, h⟩ := bind_eq_ok.1 h
  obtain ⟨_, -, h⟩ := bind_eq_ok.1 h
  obtain ⟨_, -, h⟩ := bind_eq_ok.1 h
  obtain ⟨_, -, h⟩ := bind_eq_ok.1 h
  obtain ⟨_, -, h⟩ := bind_eq_ok.1 h
  obtain ⟨_, -, h⟩ := bind_eq_ok.1 h
  obtain ⟨_, hreconciled, h⟩ := bind_eq_ok.1 h
  refine ⟨?_, (pure_eq_ok.1 h).symm⟩
  unfold reconcileGuestDescriptor at hreconciled
  obtain ⟨actual, hactual, h⟩ := bind_eq_ok.1 hreconciled
  obtain ⟨_, hid, h⟩ := bind_eq_ok.1 h
  obtain ⟨_, hversion, h⟩ := bind_eq_ok.1 h
  obtain ⟨_, -, h⟩ := bind_eq_ok.1 h
  obtain ⟨_, hdisplayName, -⟩ := bind_eq_ok.1 h
  rw [require_eq_ok, decide_eq_true_eq] at hid hversion hdisplayName
  unfold validatedDescriptor at hactual
  obtain ⟨_, -, h⟩ := bind_eq_ok.1 hactual
  obtain ⟨id, hid', h⟩ := bind_eq_ok.1 h
  obtain ⟨_, -, h⟩ := bind_eq_ok.1 h
  obtain ⟨version, hversion', h⟩ := bind_eq_ok.1 h
  obtain ⟨_, -, h⟩ := bind_eq_ok.1 h
  obtain ⟨_, -, h⟩ := bind_eq_ok.1 h
  obtain ⟨_, -, h⟩ := bind_eq_ok.1 h
  obtain ⟨displayName, hdisplayName', h⟩ := bind_eq_ok.1 h
  obtain ⟨_, -, h⟩ := bind_eq_ok.1 h
  obtain ⟨_, -, h⟩ := bind_eq_ok.1 h
  obtain ⟨_, -, h⟩ := bind_eq_ok.1 h
  cases pure_eq_ok.1 h
  have hid : id = manifest.id := hid
  have hversion : version = manifest.version := hversion
  have hdisplayName : displayName = manifest.displayName := hdisplayName
  exact ⟨hid ▸ (boundedText_eq_ok hid').1, hversion ▸ (boundedText_eq_ok hversion').1,
    hdisplayName ▸ (boundedText_eq_ok hdisplayName').2⟩

/-- What the store asks of the app's texts beyond the verifier. -/
structure AppFits (app : Json) : Prop where
  description : '\x00' ∉ (textOf (read app "description")).toList
  publisherId : (textOf (read (read app "publisher") "id")).utf8ByteSize ≤ 128
  publisherName : Fits 80 (textOf (read (read app "publisher") "display_name"))

theorem validateApp_iff {library : AppStore.Library} {candidate manifest app : List (String × Json)}
    (h : validateApp (field manifest "app") = .ok app)
    (hguest : GuestBounds (manifestOf (.obj manifest)))
    (hpresentation : ∀ kind displayName description, ∃ p,
      AppStore.presentation library (field candidate "presentation") kind displayName description =
        .ok p) :
    (∃ identity, AppStore.validateApp library candidate manifest = .ok identity) ↔
      AppFits (field manifest "app") := by
  obtain ⟨publisher, id, version, kind, displayName, description, publisherId, publisherName,
    htexts⟩ := validateApp_eq_ok h
  have hread : ∀ (members : List (String × Json)) key,
      read (.obj members) key = field members key := fun _ _ => rfl
  have hmanifest : (manifestOf (.obj manifest)).id = id ∧
      (manifestOf (.obj manifest)).version = version ∧
        (manifestOf (.obj manifest)).displayName = displayName := by
    unfold manifestOf
    dsimp only
    rw [hread, htexts.value_eq, hread, hread, hread, htexts.id_eq, htexts.version_eq, htexts.displayName_eq]
    exact ⟨rfl, rfl, rfl⟩
  obtain ⟨hid, hversion, hdisplayName⟩ := hmanifest
  have hidFits : Fits 128 id := .of_plain (Builder.plain_of_appId htexts.isAppId)
    (appId_ne_empty htexts.isAppId) (hid ▸ hguest.id)
  have hversionFits : Fits 128 version := .of_plain (Builder.plain_of_semver htexts.isSemver)
    (semver_ne_empty htexts.isSemver) (hversion ▸ hguest.version)
  have hnameFits : Fits 80 displayName :=
    ⟨htexts.displayName_ne, htexts.displayName_le, hdisplayName ▸ hguest.displayName⟩
  obtain ⟨p, hp⟩ := hpresentation (.str kind) (.str displayName) (.str description)
  have hidentity : AppStore.raiseIf (AppStore.isIdentifier id = false ∨
      AppStore.isSemver version = false) "incompatible-contract"
      "manifest app identity is malformed" = .ok () := by
    rw [AppStore.raiseIf_eq_ok, isIdentifier_of_appId htexts.isAppId,
      semver_of_semver htexts.isSemver]
    decide
  have hkind : AppStore.raiseIf (kind ∉ ["ui", "service", "hybrid"]) "incompatible-contract"
      "manifest app kind is unsupported" = .ok () :=
    AppStore.raiseIf_eq_ok.2 (not_not.2 htexts.isKind)
  unfold AppStore.validateApp
  rw [htexts.value_eq]
  dsimp only
  rw [htexts.id_eq, text_eq_ok.2 ⟨rfl, hidFits⟩, ok_bind, htexts.version_eq,
    text_eq_ok.2 ⟨rfl, hversionFits⟩, ok_bind, hidentity, ok_bind, htexts.kind_eq]
  dsimp only
  rw [hkind, ok_bind, htexts.displayName_eq, text_eq_ok.2 ⟨rfl, hnameFits⟩, ok_bind,
    htexts.description_eq, htexts.publisher_eq]
  dsimp only
  have hfits : AppFits (.obj app) ↔ '\x00' ∉ description.toList ∧
      publisherId.utf8ByteSize ≤ 128 ∧ Fits 80 publisherName := by
    have hd : read (.obj app) "description" = .str description := htexts.description_eq
    have hi : read (read (.obj app) "publisher") "id" = .str publisherId := by
      rw [hread, htexts.publisher_eq, hread, htexts.publisherId_eq]
    have hn : read (read (.obj app) "publisher") "display_name" = .str publisherName := by
      rw [hread, htexts.publisher_eq, hread, htexts.publisherName_eq]
    constructor
    · intro ⟨h₁, h₂, h₃⟩
      rw [hd] at h₁
      rw [hi] at h₂
      rw [hn] at h₃
      exact ⟨h₁, h₂, h₃⟩
    · intro ⟨h₁, h₂, h₃⟩
      exact ⟨hd ▸ h₁, hi ▸ h₂, hn ▸ h₃⟩
  rw [hfits]
  constructor
  · intro ⟨_, hok⟩
    obtain ⟨_, hdescription, hok⟩ := bind_eq_ok.1 hok
    obtain ⟨_, -, hok⟩ := bind_eq_ok.1 hok
    obtain ⟨_, hpublisherId, hok⟩ := bind_eq_ok.1 hok
    obtain ⟨_, hpublisherName, -⟩ := bind_eq_ok.1 hok
    rw [htexts.publisherId_eq, text_eq_ok] at hpublisherId
    rw [htexts.publisherName_eq, text_eq_ok] at hpublisherName
    exact ⟨(text_eq_ok.1 hdescription).2.noNul, hpublisherId.2.size, hpublisherName.2⟩
  · intro ⟨hnoNul, hsize, hname⟩
    have hdescription : Fits 1000 description :=
      ⟨htexts.description_ne, htexts.description_le, hnoNul⟩
    have hplain := Builder.plain_of_appId htexts.isPublisherId
    have hpublisher : Fits 128 publisherId :=
      ⟨appId_ne_empty htexts.isPublisherId, hsize, fun hnul =>
        absurd (hplain.isPlain _ hnul) (by decide)⟩
    have hmalformed : AppStore.raiseIf (AppStore.isIdentifier publisherId = false)
        "incompatible-contract" "manifest publisher ID is malformed" = .ok () := by
      rw [AppStore.raiseIf_eq_ok, isIdentifier_of_appId htexts.isPublisherId]
      decide
    rw [text_eq_ok.2 ⟨rfl, hdescription⟩, ok_bind, hp, ok_bind, htexts.publisherId_eq,
      text_eq_ok.2 ⟨rfl, hpublisher⟩, ok_bind, htexts.publisherName_eq,
      text_eq_ok.2 ⟨rfl, hname⟩, ok_bind, hmalformed]
    exact ⟨_, rfl⟩

/-! ## The manifest -/

theorem revocation_of_unverified {value : Json} (h : unverified.equals value = true) :
    ∃ verification, value = .obj verification ∧
      asStr (field verification "revocation") = some "not-revoked" := by
  cases value with
  | obj members =>
    refine ⟨members, rfl, ?_⟩
    simp only [unverified, Json.equals, Json.equalsMembers, Bool.and_eq_true] at h
    obtain ⟨-, -, hrevocation, -⟩ := h
    unfold field
    cases hlookup : members.lookup "revocation" with
    | none =>
      rw [hlookup] at hrevocation
      cases hrevocation
    | some found =>
      rw [hlookup] at hrevocation
      cases found with
      | str s => exact congrArg some (of_decide_eq_true hrevocation).symm
      | _ => cases hrevocation
  | _ => cases h

/-- What the native checks say of a manifest to the store. -/
structure NativeManifest (manifest : List (String × Json)) : Prop where
  contract : asStr (field manifest "schema_version") = some "vibapp.manifest.experimental-v0.0.1" ∧
    asStr (field manifest "package_format") = some "vibapp.package.experimental-v0"
  app : ∃ app, validateApp (field manifest "app") = .ok app
  artifacts : validateArtifacts (field manifest "artifacts") = .ok ()
  runtime : ∃ parts, AppStore.validateRuntime manifest = .ok parts
  state : validateState (field manifest "state") = .ok ()
  verification : ∃ verification, field manifest "verification" = .obj verification ∧
    asStr (field verification "revocation") = some "not-revoked"

theorem nativeManifest_of_ok {manifest : List (String × Json)} {u : Unit}
    (h : validateNativeManifestSchema (.obj manifest) = .ok u) : NativeManifest manifest := by
  unfold validateNativeManifestSchema at h
  obtain ⟨members, hmembers, h⟩ := bind_eq_ok.1 h
  cases (requireExactObject_eq_ok hmembers).1
  obtain ⟨_, hcontract, h⟩ := bind_eq_ok.1 h
  obtain ⟨app, happ, h⟩ := bind_eq_ok.1 h
  obtain ⟨_, hartifacts, h⟩ := bind_eq_ok.1 h
  obtain ⟨_, hruntime, h⟩ := bind_eq_ok.1 h
  obtain ⟨entrypoints, hentrypoints, h⟩ := bind_eq_ok.1 h
  obtain ⟨_, -, h⟩ := bind_eq_ok.1 h
  obtain ⟨_, -, h⟩ := bind_eq_ok.1 h
  obtain ⟨_, -, h⟩ := bind_eq_ok.1 h
  obtain ⟨capabilities, hcapabilities, h⟩ := bind_eq_ok.1 h
  obtain ⟨_, -, h⟩ := bind_eq_ok.1 h
  obtain ⟨_, -, h⟩ := bind_eq_ok.1 h
  obtain ⟨_, -, h⟩ := bind_eq_ok.1 h
  obtain ⟨_, -, h⟩ := bind_eq_ok.1 h
  obtain ⟨_, hstate, h⟩ := bind_eq_ok.1 h
  obtain ⟨_, -, h⟩ := bind_eq_ok.1 h
  obtain ⟨_, -, h⟩ := bind_eq_ok.1 h
  obtain ⟨_, -, h⟩ := bind_eq_ok.1 h
  obtain ⟨_, -, hunverified⟩ := bind_eq_ok.1 h
  rw [require_eq_ok, Bool.and_eq_true, decide_eq_true_eq, decide_eq_true_eq] at hcontract
  exact {
    contract := hcontract
    app := ⟨app, happ⟩
    artifacts := hartifacts
    runtime := validateRuntime_of_ok hruntime (requireList_eq_ok hcapabilities)
      (requireList_eq_ok hentrypoints)
    state := hstate
    verification := revocation_of_unverified (require_eq_ok.1 hunverified) }

/-- A manifest without derivations goes through the native checks. -/
theorem nativeManifest_of_schema {manifest : List (String × Json)} {u : Unit}
    (h : validateManifestSchema (.obj manifest) = .ok u)
    (hbrowser : read (read (.obj manifest) "artifacts") "browser_derivations" = .arr []) :
    NativeManifest manifest := by
  unfold validateManifestSchema at h
  obtain ⟨artifacts, hartifacts, h⟩ := bind_eq_ok.1 h
  obtain ⟨derivations, hderivations, h⟩ := bind_eq_ok.1 h
  have hempty : derivations = .arr [] := by
    have hread : read (.obj manifest) "artifacts" = (manifest.lookup "artifacts").getD .null := rfl
    rw [hread] at hbrowser
    cases hlookup : manifest.lookup "artifacts" with
    | none =>
      rw [hlookup] at hbrowser
      cases hbrowser
    | some found =>
      rw [hlookup] at hbrowser
      rw [get, hlookup] at hartifacts
      cases Except.ok.inj hartifacts
      cases found with
      | obj members => exact (Except.ok.inj hderivations).symm.trans hbrowser
      | _ => cases hbrowser
  rw [hempty] at h
  exact nativeManifest_of_ok h

end Vibapp.Verifier
