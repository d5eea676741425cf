import Vibapp.Protocol.ManifestForm

/-!
# Laws between the sections of a manifest

`CrossContract` says what `validateCrossContract` asks of the typed sections. **Main result**
(`accepted_iff_crossContract`): a document whose sections all parse is accepted exactly when its
contents satisfy the `CrossContract`; an accepted manifest has, beside that, distinct artifact paths
and every entrypoint's profiles bound to what they need (`Bound`). Nothing asks for an entrypoint in
every profile (`referenceLaws_differ`).
-/

namespace Vibapp.Protocol.Model

/-! ## Taking parsers apart -/

@[simp] theorem refuseIf_eq_ok {failed : Bool} {e : ManifestError} {u : Unit} :
    refuseIf failed e = .ok u ↔ failed = false := by
  cases failed <;> simp [refuseIf]

@[simp] theorem orRefuse_eq_ok {α : Type} {x : Option α} {e : ManifestError} {a : α} :
    orRefuse x e = .ok a ↔ x = some a := by
  cases x <;> simp [orRefuse]

@[simp] theorem uniqueBy_eq_ok {α : Type} [DecidableEq α] {xs : List α} {path : String} {u : Unit} :
    uniqueBy xs path = .ok u ↔ xs.Nodup := by
  simp [uniqueBy]

theorem forM_unit_eq_ok {α : Type} {f : α → Parsed Unit} {xs : List α} {u : Unit} :
    xs.forM f = .ok u ↔ ∀ x ∈ xs, f x = .ok () :=
  forM_eq_ok

theorem parseEach_eq_ok {α : Type} {parse : JsonValue → String → Parsed α} {path : String} :
    ∀ {index : Nat} {vs : List JsonValue} {as : List α}, parseEach parse path index vs = .ok as →
      List.Forall₂ (fun v a => ∃ p, parse v p = .ok a) vs as
  | _, [], as, h => by
    cases pure_eq_ok.1 h
    exact .nil
  | index, v :: vs, as, h => by
    rw [parseEach] at h
    obtain ⟨a, ha, h⟩ := bind_eq_ok.1 h
    obtain ⟨rest, hrest, h⟩ := bind_eq_ok.1 h
    cases pure_eq_ok.1 h
    exact .cons ⟨_, ha⟩ (parseEach_eq_ok hrest)

/-- What each item's parser gives, each item of the result has. -/
theorem forall_of_parseEach {α : Type} {parse : JsonValue → String → Parsed α} {P : α → Prop}
    (hparse : ∀ {v p a}, parse v p = .ok a → P a) {path : String} {index : Nat}
    {vs : List JsonValue} {as : List α} (h : parseEach parse path index vs = .ok as) :
    ∀ a ∈ as, P a := by
  have hall := parseEach_eq_ok h
  clear h
  induction hall with
  | nil => exact fun a ha => absurd ha List.not_mem_nil
  | cons head _ ih =>
    obtain ⟨p, hp⟩ := head
    exact List.forall_mem_cons.2 ⟨hparse hp, ih⟩

/-! ## What the sections keep -/

theorem insertPaths_eq_ok {seen : List String} {paths : List (String × String)} {u : Unit}
    (h : insertPaths seen paths = .ok u) :
    (paths.map Prod.fst).Nodup ∧ ∀ p ∈ paths, p.1 ∉ seen := by
  induction paths generalizing seen with
  | nil => exact ⟨List.nodup_nil, fun p hp => absurd hp List.not_mem_nil⟩
  | cons p paths ih =>
    obtain ⟨path, artifactPath⟩ := p
    rw [insertPaths] at h
    obtain ⟨_, hfresh, h⟩ := bind_eq_ok.1 h
    rw [refuseIf_eq_ok] at hfresh
    have hnot : path ∉ seen := by simpa using hfresh
    obtain ⟨hnodup, hseen⟩ := ih h
    refine ⟨List.nodup_cons.2 ⟨?_, hnodup⟩, List.forall_mem_cons.2 ⟨hnot, ?_⟩⟩
    · intro hmem
      obtain ⟨q, hq, he⟩ := List.mem_map.1 hmem
      exact hseen q hq (he ▸ List.mem_cons_self)
    · exact fun q hq hmem => hseen q hq (List.mem_cons_of_mem _ hmem)

theorem parseDerivedArtifact_entry {v : JsonValue} {path : String} {d : DerivedArtifact}
    (h : parseDerivedArtifact v path = .ok d) : d.files.count d.entry = 1 := by
  simp only [parseDerivedArtifact, bind_eq_ok, refuseIf_eq_ok] at h
  obtain ⟨_, -, _, -, _, -, _, -, _, -, files, -, _, -, entry, -, _, hcount, _, -, _, -, h⟩ := h
  cases pure_eq_ok.1 h
  simpa using hcount

/-- The artifacts of a document. -/
structure ArtifactLaws (a : Artifacts) : Prop where
  paths : ((physicalPaths a).map Prod.fst).Nodup
  profiles : (a.browserDerivations.map DerivedArtifact.profile).Nodup
  entry : ∀ d ∈ a.browserDerivations, d.files.count d.entry = 1

theorem parseArtifacts_laws {v : JsonValue} {a : Artifacts} (h : parseArtifacts v = .ok a) :
    ArtifactLaws a := by
  simp only [parseArtifacts, bind_eq_ok, refuseIf_eq_ok, uniqueBy_eq_ok] at h
  obtain ⟨_, -, _, -, _, -, _, -, _, -, _, -, _, -, _, -, derivations, hderivations, _, hprofiles, _,
    -, _, -, _, -, _, -, _, hpaths, h⟩ := h
  cases pure_eq_ok.1 h
  exact ⟨(insertPaths_eq_ok hpaths).1, hprofiles,
    forall_of_parseEach parseDerivedArtifact_entry hderivations⟩

/-- The capabilities of a document. -/
structure CapabilityLaws (cs : List Capability) : Prop where
  interfaces : (cs.map Capability.interface).Nodup
  profiles : ∀ c ∈ cs, (c.profiles.map CapabilityProfile.profile).Nodup

theorem parseCapability_profiles {v : JsonValue} {path : String} {c : Capability}
    (h : parseCapability v path = .ok c) : (c.profiles.map CapabilityProfile.profile).Nodup := by
  simp only [parseCapability, bind_eq_ok, refuseIf_eq_ok, uniqueBy_eq_ok] at h
  obtain ⟨_, -, _, -, _, -, _, -, _, -, _, -, _, -, _, -, _, -, _, -, profiles, -, _, hnodup, h⟩ := h
  cases pure_eq_ok.1 h
  exact hnodup

theorem parseCapabilities_laws {v : JsonValue} {cs : List Capability}
    (h : parseCapabilities v = .ok cs) : CapabilityLaws cs := by
  simp only [parseCapabilities, bind_eq_ok, uniqueBy_eq_ok] at h
  obtain ⟨_, -, _, -, capabilities, heach, _, hnodup, h⟩ := h
  cases pure_eq_ok.1 h
  exact ⟨hnodup, forall_of_parseEach parseCapability_profiles heach⟩

/-! ## The sections of a document -/

/-- The typed sections of a document that passes the grammar of its fields. -/
def readSections (raw : JsonValue) : Parsed Contents := do
  let root ← exactObject raw "$" manifestFields manifestFields
  requireConstVersion root "schema_version" schemaVersion "$"
  requireConstVersion root "package_format" packageFormat "$"
  let app ← fromSection root "app" parseApp
  let artifacts ← fromSection root "artifacts" parseArtifacts
  let runtime ← fromSection root "runtime" parseRuntime
  let entrypoints ← fromSection root "entrypoints" parseEntrypoints
  let capabilities ← fromSection root "capabilities" parseCapabilities
  let resources ← fromSection root "resources" parseResources
  let state ← fromSection root "state" parseState
  let lifecycle ← fromSection root "lifecycle" parseLifecycle
  let source ← fromSection root "source" parseSource
  let license ← fromSection root "license" parseLicense
  let privacy ← fromSection root "privacy" parsePrivacy
  let verification ← fromSection root "verification" parseVerification
  return ⟨app, artifacts, runtime, entrypoints, capabilities, resources, state, lifecycle, source,
    license, privacy, verification⟩

/-- The manifest is its sections, checked against each other, and the document. -/
theorem buildManifest_eq (raw : JsonValue) : buildManifest raw = (do
    let c ← readSections raw
    validateCrossContract c
    return { c with raw }) := by
  simp only [buildManifest, readSections, bind_assoc, pure_bind]

/-- A document is accepted when its sections parse and fit together. -/
theorem buildManifest_eq_ok_iff {raw : JsonValue} {m : Manifest} :
    buildManifest raw = .ok m ↔ readSections raw = .ok m.toContents ∧
      validateCrossContract m.toContents = .ok () ∧ m.raw = raw := by
  rw [buildManifest_eq]
  constructor
  · intro h
    obtain ⟨c, hc, h⟩ := bind_eq_ok.1 h
    obtain ⟨_, hcross, h⟩ := bind_eq_ok.1 h
    cases pure_eq_ok.1 h
    exact ⟨hc, hcross, rfl⟩
  · rintro ⟨hc, hcross, rfl⟩
    rw [hc, ok_bind, hcross]
    rfl

theorem sections_laws {raw : JsonValue} {c : Contents} (h : readSections raw = .ok c) :
    ArtifactLaws c.artifacts ∧ CapabilityLaws c.capabilities := by
  simp only [readSections, fromSection, bind_eq_ok] at h
  obtain ⟨root, -, _, -, _, -, app, -, artifacts, ⟨_, -, hartifacts⟩, runtime, -, entrypoints, -,
    capabilities, ⟨_, -, hcapabilities⟩, _, -, _, -, _, -, _, -, _, -, _, -, _, -, h⟩ := h
  cases pure_eq_ok.1 h
  exact ⟨parseArtifacts_laws hartifacts, parseCapabilities_laws hcapabilities⟩

/-! ## The laws -/

/-- The profiles of the runtime. -/
def Runtime.profileNames (r : Runtime) : List Profile := r.profiles.map ProfileSupport.profile

/-- The entrypoints and the world that a kind of app needs. -/
def AppKindLaw (world : World) (entrypoints : List Entrypoint) : AppKind → Prop
  | .ui => (∃ e ∈ entrypoints, e.kind = .launcherUi) ∧ (∀ e ∈ entrypoints, e.kind ≠ .service) ∧
      world = .uiOnly
  | .service => (∃ e ∈ entrypoints, e.kind = .service) ∧
      (∀ e ∈ entrypoints, e.kind ≠ .launcherUi) ∧ (world = .serviceOnly ∨ world = .webPreview)
  | .hybrid => (∃ e ∈ entrypoints, e.kind = .launcherUi) ∧
      (∃ e ∈ entrypoints, e.kind = .service) ∧ world = .hybrid

/-- The laws of one capability. -/
structure CapabilityLaw (runtimeProfiles : List Profile) (resources : Resources) (c : Capability) :
    Prop where
  profiles : ∀ q, q ∈ c.profiles.map CapabilityProfile.profile ↔ q ∈ runtimeProfiles
  preview : c.interface ∈ previewRestricted → ∀ s ∈ c.profiles, s.profile = .webPreview →
    s.availability = .mock ∨ s.availability = .denied ∨ s.availability = .unavailable
  storage : ∀ bytes ∈ c.scope.maximumStorageBytes, bytes ≤ resources.storedDataBytes
  schedules : ∀ count ∈ c.scope.maximumSchedules, count ≤ resources.durableSchedules

/-- The laws between the sections. -/
structure CrossContract (c : Contents) : Prop where
  appKind : AppKindLaw c.runtime.world c.entrypoints c.app.kind
  imports : ∀ i, i ∈ c.capabilities.map Capability.interface ↔ i ∈ c.runtime.requiredImports
  world : ∀ i, i ∈ c.runtime.requiredImports ↔ i ∈ importsForWorld c.runtime.world
  role : ∀ s ∈ c.runtime.profiles,
    isBrowserProfile s.profile = true ↔ s.artifactRole = .browserDerived
  platform : ∀ p ∈ c.runtime.platforms, ∀ q ∈ p.profiles, q ∈ c.runtime.profileNames ∧
    ((p.os = "browser" ∧ p.arch = "wasm32") ↔ isBrowserProfile q = true)
  entrypoint : ∀ e ∈ c.entrypoints, ∀ q ∈ e.profiles, q ∈ c.runtime.profileNames
  capability : ∀ k ∈ c.capabilities, CapabilityLaw c.runtime.profileNames c.resources k
  derivations : ∀ q, q ∈ c.artifacts.browserDerivations.map DerivedArtifact.profile ↔
    q ∈ c.runtime.profileNames ∧ isBrowserProfile q = true
  covered : ∀ q ∈ c.runtime.profileNames, ∃ p ∈ c.runtime.platforms, q ∈ p.profiles
  bound : ∀ d ∈ c.artifacts.browserDerivations,
    d.derivedFromSha256 = c.artifacts.canonicalComponent.sha256
  disposition : c.lifecycle.defaultDataDisposition ∈ c.lifecycle.allowedDataDispositions

/-! ## Each check is its law -/

theorem checkAppKind_eq_ok {kind : AppKind} {world : World} {es : List Entrypoint} {u : Unit} :
    checkAppKind kind world es = .ok u ↔ AppKindLaw world es kind := by
  cases kind with
  | ui => simp [checkAppKind, AppKindLaw, and_assoc]
  | service => simp [checkAppKind, AppKindLaw, and_assoc, Classical.or_iff_not_imp_left]
  | hybrid =>
    simp only [checkAppKind, AppKindLaw, refuseIf_eq_ok]
    rw [and_left_comm]
    simp [and_assoc]

theorem sameProfiles_iff {l r : List Profile} : sameProfiles l r = true ↔ ∀ q, q ∈ l ↔ q ∈ r := by
  simp only [sameProfiles, Bool.and_eq_true, List.all_eq_true, List.contains_iff_mem]
  exact ⟨fun h q => ⟨h.1 q, h.2 q⟩, fun h => ⟨fun q => (h q).1, fun q => (h q).2⟩⟩

theorem checkPlatform_eq_ok {runtimeProfiles : List Profile} {p : PlatformSupport} :
    checkPlatform runtimeProfiles p = .ok () ↔ ∀ q ∈ p.profiles, q ∈ runtimeProfiles ∧
      ((p.os = "browser" ∧ p.arch = "wasm32") ↔ isBrowserProfile q = true) := by
  rw [checkPlatform, forM_eq_ok]
  refine forall_congr' fun q => forall_congr' fun _ => ?_
  simp only [checkPlatformProfile, bind_eq_ok, refuseIf_eq_ok, exists_const, Bool.not_eq_false',
    List.contains_iff_mem, decide_eq_false_iff_not, ne_eq, Classical.not_not]
  rw [Bool.eq_iff_iff, Bool.and_eq_true, decide_eq_true_eq, decide_eq_true_eq]

theorem checkEntrypoint_eq_ok {runtimeProfiles : List Profile} {e : Entrypoint} :
    checkEntrypoint runtimeProfiles e = .ok () ↔ ∀ q ∈ e.profiles, q ∈ runtimeProfiles := by
  simp [checkEntrypoint]

theorem checkAvailability_eq_ok {interface : String} {s : CapabilityProfile} :
    checkAvailability interface s = .ok () ↔ (interface ∈ previewRestricted →
      s.profile = .webPreview →
      s.availability = .mock ∨ s.availability = .denied ∨ s.availability = .unavailable) := by
  rw [checkAvailability, refuseIf_eq_ok]
  by_cases hp : s.profile = .webPreview
  · by_cases hi : interface ∈ previewRestricted
    · simp only [hp, hi, List.contains_iff_mem.2 hi, decide_true, Bool.and_self, Bool.true_and,
        Bool.not_eq_false', Bool.or_eq_true, decide_eq_true_eq, or_assoc, forall_const]
    · simp [hi]
  · simp [hp]

theorem checkCapability_eq_ok {runtimeProfiles : List Profile} {resources : Resources}
    {c : Capability} : checkCapability runtimeProfiles resources c = .ok () ↔
      CapabilityLaw runtimeProfiles resources c := by
  simp only [checkCapability, bind_eq_ok, refuseIf_eq_ok, forM_unit_eq_ok, checkAvailability_eq_ok,
    Bool.not_eq_false', sameProfiles_iff, Bool.or_eq_false_iff, exists_const]
  constructor
  · rintro ⟨hprofiles, hpreview, hstorage, hschedules⟩
    refine ⟨hprofiles, fun hi s hs => hpreview s hs hi, ?_, ?_⟩
    · intro bytes hbytes
      simpa [Option.mem_def.1 hbytes] using hstorage
    · intro count hcount
      simpa [Option.mem_def.1 hcount] using hschedules
  · intro h
    refine ⟨h.profiles, fun s hs hi => h.preview hi s hs, ?_, ?_⟩
    · cases hbytes : c.scope.maximumStorageBytes with
      | none => rfl
      | some bytes => simpa using h.storage bytes hbytes
    · cases hcount : c.scope.maximumSchedules with
      | none => rfl
      | some count => simpa using h.schedules count hcount

theorem checkProfile_eq_ok {artifacts : Artifacts} {platforms : List PlatformSupport}
    {s : ProfileSupport} : checkProfile artifacts platforms s = .ok () ↔
      (∃ p ∈ platforms, s.profile ∈ p.profiles) ∧
      (isBrowserProfile s.profile = true → ∃ d,
        (artifacts.browserDerivations.find? fun derived => derived.profile = s.profile) = some d ∧
        d.derivedFromSha256 = artifacts.canonicalComponent.sha256) := by
  simp only [checkProfile, bind_eq_ok, refuseIf_eq_ok, exists_const, Bool.not_eq_false',
    List.any_eq_true, List.contains_iff_mem]
  refine and_congr_right fun _ => ?_
  by_cases hbrowser : isBrowserProfile s.profile = true
  · rw [if_pos hbrowser, bind_eq_ok]
    simp [hbrowser]
  · rw [if_neg hbrowser]
    exact iff_of_true rfl fun h => absurd h hbrowser

/-- Of items with distinct keys, the first under a key is the only one. -/
theorem find_eq_some_iff {α κ : Type} [DecidableEq κ] {key : α → κ} {l : List α}
    (hnodup : (l.map key).Nodup) {k : κ} {a : α} :
    (l.find? fun b => key b = k) = some a ↔ a ∈ l ∧ key a = k := by
  constructor
  · intro h
    exact ⟨List.mem_of_find?_eq_some h, by simpa using List.find?_some h⟩
  · rintro ⟨ha, rfl⟩
    cases hfind : l.find? fun b => key b = key a with
    | none => exact absurd (decide_eq_true rfl) (List.find?_eq_none.1 hfind a ha)
    | some b =>
      have hb : key b = key a := by simpa using List.find?_some hfind
      exact congrArg some (List.inj_on_of_nodup_map hnodup (List.mem_of_find?_eq_some hfind) ha hb)

/-- The derivation that is found under a profile is the only one. -/
theorem find_derivation {a : Artifacts} (h : ArtifactLaws a) {d : DerivedArtifact}
    (hd : d ∈ a.browserDerivations) {q : Profile} (hq : d.profile = q) :
    (a.browserDerivations.find? fun derived => derived.profile = q) = some d :=
  (find_eq_some_iff h.profiles).2 ⟨hd, hq⟩

/-- The loop over the profiles, where the derivations are those of the browser profiles. -/
theorem checkProfiles_eq_ok {c : Contents} (h : ArtifactLaws c.artifacts)
    (hderivations : ∀ q, q ∈ c.artifacts.browserDerivations.map DerivedArtifact.profile ↔
      q ∈ c.runtime.profileNames ∧ isBrowserProfile q = true) :
    c.runtime.profiles.forM (checkProfile c.artifacts c.runtime.platforms) = .ok () ↔
      (∀ q ∈ c.runtime.profileNames, ∃ p ∈ c.runtime.platforms, q ∈ p.profiles) ∧
      ∀ d ∈ c.artifacts.browserDerivations,
        d.derivedFromSha256 = c.artifacts.canonicalComponent.sha256 := by
  simp only [forM_unit_eq_ok, checkProfile_eq_ok, Runtime.profileNames, List.forall_mem_map]
  constructor
  · intro hall
    refine ⟨fun s hs => (hall s hs).1, fun d hd => ?_⟩
    obtain ⟨hmem, hbrowser⟩ := (hderivations d.profile).1 (List.mem_map_of_mem hd)
    obtain ⟨s, hs, hprofile⟩ := List.mem_map.1 hmem
    obtain ⟨d', hfind, hbound⟩ := (hall s hs).2 (hprofile ▸ hbrowser)
    rw [find_derivation h hd hprofile.symm] at hfind
    cases hfind
    exact hbound
  · rintro ⟨hcovered, hbound⟩ s hs
    refine ⟨hcovered s hs, fun hbrowser => ?_⟩
    obtain ⟨d, hd, hprofile⟩ := List.mem_map.1
      ((hderivations s.profile).2 ⟨List.mem_map_of_mem hs, hbrowser⟩)
    exact ⟨d, find_derivation h hd hprofile, hbound d hd⟩

/-- **The checks are the laws.** -/
theorem validateCrossContract_eq_ok {c : Contents} (h : ArtifactLaws c.artifacts) :
    validateCrossContract c = .ok () ↔ CrossContract c := by
  have hrole : ∀ s, checkProfileRole s = .ok () ↔
      (isBrowserProfile s.profile = true ↔ s.artifactRole = .browserDerived) := by
    intro s
    simp only [checkProfileRole, refuseIf_eq_ok, decide_eq_false_iff_not, ne_eq,
      Classical.not_not]
    rw [Bool.eq_iff_iff, decide_eq_true_eq]
  have hworld : ∀ is, (reconcileWorldImports c.runtime.world is).isOk = true ↔
      ∀ i, i ∈ is ↔ i ∈ importsForWorld c.runtime.world := by
    intro is
    rw [reconcileWorldImports]
    split
    · rename_i hempty
      simp only [Bool.and_eq_true, List.isEmpty_iff, List.filter_eq_nil_iff, Bool.not_eq_true',
        Bool.not_eq_false, List.contains_iff_mem] at hempty
      exact iff_of_true rfl fun i => ⟨hempty.2 i, hempty.1 i⟩
    · rename_i hempty
      simp only [Bool.and_eq_true, List.isEmpty_iff, List.filter_eq_nil_iff, Bool.not_eq_true',
        Bool.not_eq_false, List.contains_iff_mem] at hempty
      exact iff_of_false Bool.false_ne_true fun hall =>
        hempty ⟨fun i => (hall i).2, fun i => (hall i).1⟩
  have hderivations : ∀ l : List Profile, (sameProfiles l
      ((c.runtime.profiles.map ProfileSupport.profile).filter isBrowserProfile) = true ↔
        ∀ q, q ∈ l ↔ q ∈ c.runtime.profileNames ∧ isBrowserProfile q = true) := by
    intro l
    rw [sameProfiles_iff]
    exact forall_congr' fun q => by rw [List.mem_filter, Runtime.profileNames]
  simp only [validateCrossContract, bind_eq_ok, refuseIf_eq_ok, checkAppKind_eq_ok, exists_const,
    decide_eq_false_iff_not, ne_eq, Classical.not_not, btreeSet_eq_iff, Bool.not_eq_false', hworld,
    hderivations, List.contains_iff_mem, forM_unit_eq_ok, hrole, checkPlatform_eq_ok,
    checkEntrypoint_eq_ok, checkCapability_eq_ok]
  constructor
  · rintro ⟨hkind, himports, hworlds, hroles, hplatforms, hentrypoints, hcapabilities, hderived,
      hprofiles, hdisposition⟩
    rw [← forM_unit_eq_ok, checkProfiles_eq_ok h hderived] at hprofiles
    exact ⟨hkind, himports, hworlds, hroles, hplatforms, hentrypoints, hcapabilities, hderived,
      hprofiles.1, hprofiles.2, hdisposition⟩
  · intro hlaws
    refine ⟨hlaws.appKind, hlaws.imports, hlaws.world, hlaws.role, hlaws.platform,
      hlaws.entrypoint, hlaws.capability, hlaws.derivations, ?_, hlaws.disposition⟩
    rw [← forM_unit_eq_ok, checkProfiles_eq_ok h hlaws.derivations]
    exact ⟨hlaws.covered, hlaws.bound⟩

/-- What the laws bind to each other: an entrypoint's profiles to supported ones, and a browser
profile to its one derivation. -/
structure Bound (c : Contents) : Prop where
  paths : ((physicalPaths c.artifacts).map Prod.fst).Nodup
  entry : ∀ d ∈ c.artifacts.browserDerivations, d.files.count d.entry = 1
  entrypoint : ∀ e ∈ c.entrypoints, ∀ q ∈ e.profiles, ∃ s ∈ c.runtime.profiles, s.profile = q ∧
    (s.artifactRole = .browserDerived → ∃ d ∈ c.artifacts.browserDerivations, d.profile = q ∧
      d.derivedFromSha256 = c.artifacts.canonicalComponent.sha256)
  worldImports : ∀ i, i ∈ c.capabilities.map Capability.interface ↔
    i ∈ importsForWorld c.runtime.world

theorem CrossContract.bind {c : Contents} (h : CrossContract c) (ha : ArtifactLaws c.artifacts) :
    Bound c where
  paths := ha.paths
  entry := ha.entry
  entrypoint := by
    intro e he q hq
    obtain ⟨s, hs, rfl⟩ := List.mem_map.1 (h.entrypoint e he q hq)
    refine ⟨s, hs, rfl, fun hrole => ?_⟩
    obtain ⟨d, hd, hprofile⟩ := List.mem_map.1
      ((h.derivations s.profile).2 ⟨List.mem_map_of_mem hs, (h.role s hs).2 hrole⟩)
    exact ⟨d, hd, hprofile, h.bound d hd⟩
  worldImports := fun i => (h.imports i).trans (h.world i)

/-- **Soundness and completeness of the cross-contract checks.** An accepted manifest satisfies the
laws. A document whose sections parse to contents that satisfy them passes the checks and is
accepted. -/
theorem accepted_iff_crossContract :
    (∀ text m, parseManifest text = .ok m → CrossContract m.toContents ∧ Bound m.toContents) ∧
    ∀ raw c, readSections raw = .ok c → CrossContract c →
      validateCrossContract c = .ok () ∧ ∃ m, buildManifest raw = .ok m ∧ m.toContents = c := by
  constructor
  · intro text m h
    obtain ⟨raw, -, hbuild⟩ := parseManifest_eq_ok_iff.1 h
    obtain ⟨hc, hcross, -⟩ := buildManifest_eq_ok_iff.1 hbuild
    have hlaws := (validateCrossContract_eq_ok (sections_laws hc).1).1 hcross
    exact ⟨hlaws, hlaws.bind (sections_laws hc).1⟩
  · intro raw c hc hlaws
    have hcross := (validateCrossContract_eq_ok (sections_laws hc).1).2 hlaws
    exact ⟨hcross, { c with raw }, buildManifest_eq_ok_iff.2 ⟨hc, hcross, rfl⟩, rfl⟩

/-! ## What the laws do not say, and what they say beside references -/

/-- References alone: distinct paths, bound derivations, declared imports and profiles, and a
platform and an entrypoint for every supported profile. -/
structure ReferenceLaws (c : Contents) : Prop where
  paths : ((physicalPaths c.artifacts).map Prod.fst).Nodup
  bound : ∀ d ∈ c.artifacts.browserDerivations,
    d.derivedFromSha256 = c.artifacts.canonicalComponent.sha256
  entrypoint : ∀ e ∈ c.entrypoints, ∀ q ∈ e.profiles, q ∈ c.runtime.profileNames
  covered : ∀ q ∈ c.runtime.profileNames,
    (∃ p ∈ c.runtime.platforms, q ∈ p.profiles) ∧ ∃ e ∈ c.entrypoints, q ∈ e.profiles
  imports : ∀ i, i ∈ c.capabilities.map Capability.interface ↔ i ∈ c.runtime.requiredImports
  world : ∀ i, i ∈ c.runtime.requiredImports ↔ i ∈ importsForWorld c.runtime.world

def sampleDigest : String := "aaaaaaaaaaaaaaaaaaaaaaaaaaaaaaaaaaaaaaaaaaaaaaaaaaaaaaaaaaaaaaaa"

def texts (items : List String) : JsonValue := .array (items.map .string)

def sampleArtifact (path mediaType : String) : JsonValue :=
  .object [("path", .string path), ("media_type", .string mediaType),
    ("sha256", .string sampleDigest), ("size_bytes", .integer 1)]

def sampleSupport (profile : String) : JsonValue :=
  .object [("profile", .string profile), ("mode", .string "full"),
    ("background", .string "not-applicable"), ("artifact_role", .string "canonical-component"),
    ("degradation", .string "")]

def sampleAvailability (profile : String) : JsonValue :=
  .object [("profile", .string profile), ("availability", .string "native"),
    ("behavior", .string "host")]

def sampleCapability (interface necessity : String) (scope : ObjectEntries) : JsonValue :=
  .object [("interface", .string interface), ("necessity", .string necessity),
    ("grant", .string "automatic"), ("reason", .string "use"), ("scope", .object scope),
    ("profiles", .array [sampleAvailability "desktop", sampleAvailability "headless"])]

/-- A UI app for two profiles whose one entrypoint is for `profiles`. Its key-value capability asks
for `bytes` of storage, the package for 4096. It can do without the settings. -/
def sampleDocument (profiles : List String) (bytes : Int64) (status : String) : JsonValue :=
  .object [("schema_version", .string schemaVersion), ("package_format", .string packageFormat),
    ("app", .object [("id", .string "org.notes"), ("version", .string "1.0.0"),
      ("kind", .string "ui"), ("display_name", .string "Notes"), ("description", .string "Notes"),
      ("publisher", .object [("id", .string "org"), ("display_name", .string "Org")])]),
    ("artifacts", .object [
      ("canonical_component", sampleArtifact "component.wasm" "application/wasm"),
      ("assets", .array []), ("browser_derivations", .array []),
      ("provenance", sampleArtifact "provenance.json" "application/json"),
      ("sbom", sampleArtifact "sbom.json" "application/json")]),
    ("runtime", .object [("contract", .string contractVersion), ("wasi", .string wasiVersion),
      ("world", .string "ui-only-reference"),
      ("required_imports", texts (importsForWorld .uiOnly)),
      ("profiles", .array [sampleSupport "desktop", sampleSupport "headless"]),
      ("platforms", .array [.object [("os", .string "linux"), ("arch", .string "x86-64"),
        ("profiles", texts ["desktop", "headless"])]])]),
    ("entrypoints", .array [.object [("id", .string "main"), ("kind", .string "launcher-ui"),
      ("label", .string "Notes"), ("profiles", texts profiles),
      ("routes", .object [("initial", .string "home"), ("allowed", texts ["home"])]),
      ("restoration", .string "none")]]),
    ("capabilities", .array [sampleCapability clock "required" [],
      sampleCapability kv "required" [("maximum_storage_bytes", .integer bytes)],
      sampleCapability log "required" [], sampleCapability hostInfo "required" [],
      sampleCapability settings "degradable" []]),
    ("resources", .object [("linear_memory_bytes", .integer 1048576),
      ("event_wall_time_ms", .integer 250), ("health_migration_wall_time_ms", .integer 2000),
      ("output_bytes", .integer 262144), ("stored_data_bytes", .integer 4096),
      ("durable_schedules", .integer 0), ("log_bytes_per_day", .integer 0)]),
    ("state", .object [("schema", .integer 1), ("migratable_from_min", .integer 1),
      ("migratable_from_max", .integer 1)]),
    ("lifecycle", .object [
      ("disable", .object (disableFields.map fun field => (field, .bool true))),
      ("uninstall", .object [("allowed_data_dispositions", texts ["delete"]),
        ("default_data_disposition", .string "delete")])]),
    ("source", .object [("language", .string "rust"), ("revision", .string "1"),
      ("cargo_lock_sha256", .string sampleDigest),
      ("builder_image_digest", .string ("sha256:" ++ sampleDigest))]),
    ("license", .object [("spdx_expression", .string "MIT")]),
    ("privacy", .object [("stores_personal_data", .bool false),
      ("network_access", .string "none")]),
    ("verification", .object [("status", .string status),
      ("revocation", .string "not-revoked")])]

theorem distinctKeys_sampleDocument (profiles : List String) (bytes : Int64) (status : String) :
    (sampleDocument profiles bytes status).DistinctKeys := by
  have htexts : ∀ l : List String, (texts l).DistinctKeys := by
    intro l
    induction l with
    | nil => trivial
    | cons s l ih => exact ⟨trivial, ih⟩
  simp [sampleDocument, JsonValue.DistinctKeys, valuesDistinct, entriesDistinct, htexts,
    sampleCapability, sampleAvailability, sampleSupport, sampleArtifact, disableFields]

theorem sampleDocument_accepted :
    (buildManifest (sampleDocument ["desktop"] 4096 "unverified")).toOption.any (fun m =>
      m.runtime.profileNames.contains .headless &&
        m.entrypoints.all fun e => !e.profiles.contains .headless) = true := by decide +kernel

theorem sampleDocument_refused :
    (readSections (sampleDocument ["desktop", "headless"] 4097 "verified")).toOption.any (fun c =>
      !(validateCrossContract c).isOk &&
        decide (((physicalPaths c.artifacts).map Prod.fst).Nodup ∧
          c.artifacts.browserDerivations = [] ∧
          (∀ e ∈ c.entrypoints, ∀ q ∈ e.profiles, q ∈ c.runtime.profileNames) ∧
          (∀ q ∈ c.runtime.profileNames,
            (∃ p ∈ c.runtime.platforms, q ∈ p.profiles) ∧ ∃ e ∈ c.entrypoints, q ∈ e.profiles) ∧
          btreeSet (c.capabilities.map Capability.interface) =
            btreeSet c.runtime.requiredImports ∧
          btreeSet c.runtime.requiredImports = btreeSet (importsForWorld c.runtime.world))) =
      true := by decide +kernel

/-- A headless profile without an entrypoint is accepted. A scope beyond the resources is refused,
though all references hold. -/
theorem referenceLaws_differ :
    (¬ ∀ text m, parseManifest text = .ok m → ReferenceLaws m.toContents) ∧
    ¬ ∀ raw c, readSections raw = .ok c → ReferenceLaws c → validateCrossContract c = .ok () := by
  constructor
  · intro hall
    obtain ⟨m, hm, huncovered⟩ := exists_of_toOption_any sampleDocument_accepted
    obtain ⟨n, hn, hcontents⟩ := exists_text (distinctKeys_sampleDocument _ _ _) hm
    have hlaws := hall _ n hn
    rw [hcontents] at hlaws
    simp only [Bool.and_eq_true, List.contains_iff_mem, List.all_eq_true, Bool.not_eq_true',
      ← Bool.not_eq_true] at huncovered
    obtain ⟨e, he, hq⟩ := (hlaws.covered _ huncovered.1).2
    exact huncovered.2 e he hq
  · intro hall
    obtain ⟨c, hc, hcheck⟩ := exists_of_toOption_any sampleDocument_refused
    rw [Bool.and_eq_true, decide_eq_true_eq] at hcheck
    obtain ⟨hrefused, hpaths, hnone, hentrypoint, hcovered, himports, hworld⟩ := hcheck
    have hok := hall _ c hc ⟨hpaths, by simp [hnone], hentrypoint, hcovered,
      btreeSet_eq_iff.1 himports, btreeSet_eq_iff.1 hworld⟩
    rw [hok] at hrefused
    cases hrefused

end Vibapp.Protocol.Model
