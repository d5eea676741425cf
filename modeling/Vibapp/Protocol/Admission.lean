import Mathlib.Data.List.Dedup
import Mathlib.Data.List.Sort
import Mathlib.Data.String.Basic

/-!
# Admission in the protocol crate

The typed manifest, as far as `admit` reads it, the catalogue of interfaces and worlds, and
`admit` itself. **Main result** (`admitManifest_accept_iff`): `admit` accepts exactly the `Admissible`
requests, each of whose conditions is one of its reasons to refuse.
-/

namespace Vibapp.Protocol

/-! ## Typed manifest -/

inductive Profile
  | desktop | webPreview | webRuntime | headless
deriving DecidableEq, Repr

def Profile.asStr : Profile → String
  | .desktop => "desktop"
  | .webPreview => "web-preview"
  | .webRuntime => "web-runtime"
  | .headless => "headless"

inductive World
  | uiOnly | serviceOnly | hybrid | webPreview
deriving DecidableEq, Repr

inductive Availability
  | native | brokered | mock | denied | unavailable
deriving DecidableEq, Repr

inductive Necessity
  | required | degradable
deriving DecidableEq, Repr

inductive EntrypointKind
  | launcherUi | service | settings
deriving DecidableEq, Repr

inductive RevocationStatus
  | notRevoked | revoked
deriving DecidableEq, Repr

structure PlatformSupport where
  os : String
  arch : String
  profiles : List Profile

structure Runtime where
  world : World
  requiredImports : List String
  profiles : List Profile
  platforms : List PlatformSupport

structure Entrypoint where
  kind : EntrypointKind
  profiles : List Profile

structure CapabilityProfile where
  profile : Profile
  availability : Availability

structure Capability where
  interface : String
  necessity : Necessity
  profiles : List CapabilityProfile

structure Manifest where
  runtime : Runtime
  entrypoints : List Entrypoint
  capabilities : List Capability
  revocation : RevocationStatus

def Manifest.supportsProfile (m : Manifest) (profile : Profile) : Bool :=
  m.runtime.profiles.contains profile

/-! ## Catalogue -/

def clock : String := "vibapp:experimental-v0/clock@0.0.1"
def scheduler : String := "vibapp:experimental-v0/scheduler@0.0.1"
def notification : String := "vibapp:experimental-v0/notification@0.0.1"
def kv : String := "vibapp:experimental-v0/kv@0.0.1"
def log : String := "vibapp:experimental-v0/log@0.0.1"
def hostInfo : String := "vibapp:experimental-v0/host-info@0.0.1"
def settings : String := "vibapp:experimental-v0/settings@0.0.1"
def systemMetrics : String := "vibapp:experimental-v0/system-metrics@0.0.1"
def http : String := "vibapp:experimental-v0/http@0.0.1"

def appInterfaces : List String :=
  [clock, scheduler, notification, kv, log, hostInfo, settings, systemMetrics, http]

def importsForWorld : World → List String
  | .uiOnly => [clock, kv, log, hostInfo, settings]
  | .serviceOnly | .webPreview =>
    [clock, scheduler, kv, log, hostInfo, settings, systemMetrics, http]
  | .hybrid => [clock, scheduler, notification, kv, log, hostInfo, settings]

structure WitCatalogMismatch where
  missingFromManifest : List String
  absentFromWorld : List String

/-- `reconcile_world_imports`. -/
def reconcileWorldImports (world : World) (manifestImports : List String) :
    Except WitCatalogMismatch Unit :=
  let worldImports := importsForWorld world
  let missing := worldImports.filter fun i => !manifestImports.contains i
  let absent := manifestImports.filter fun i => !worldImports.contains i
  if missing.isEmpty && absent.isEmpty then .ok () else .error ⟨missing, absent⟩

/-! ## Admission -/

inductive ProtocolErrorCode
  | invalidArgument | incompatibleContract | unsupportedVersion | invalidManifest
  | unknownInterface | missingInterface | permissionDenied | consentRequired
  | capabilityUnavailable | unsupportedSurface | resourceLimit | deadlineExceeded | cancelled
  | appDisabled | appUninstalled | upgradeInProgress | integrityFailure | notFound | conflict
  | staleRevision | malformedOutput | forgedIdentifier | internal
deriving DecidableEq, Repr

structure HostTarget where
  os : String
  arch : String
  profile : Profile

structure AdmissionRequest where
  host : HostTarget
  actualComponentImports : List String
  hostSupportedImports : List String
  deniedPermissions : List String

inductive AdmissionDecision
  | accept | block | reject
deriving DecidableEq, Repr

structure AdmissionOutcome where
  decision : AdmissionDecision
  code : Option ProtocolErrorCode
  executable : Bool
  launcherSurface : Bool
  previewOnly : Bool
  detail : String
deriving DecidableEq

namespace AdmissionOutcome

def accept (manifest : Manifest) (profile : Profile) : AdmissionOutcome where
  decision := .accept
  code := none
  executable := true
  launcherSurface := profile ≠ .headless && manifest.entrypoints.any fun entrypoint =>
    entrypoint.kind = .launcherUi && entrypoint.profiles.contains profile
  previewOnly := profile = .webPreview
  detail := "pre-instantiation checks passed"

def reject (code : ProtocolErrorCode) (detail : String) : AdmissionOutcome :=
  ⟨.reject, some code, false, false, false, detail⟩

def block (code : ProtocolErrorCode) (detail : String) : AdmissionOutcome :=
  ⟨.block, some code, false, false, false, detail⟩

end AdmissionOutcome

/-- A `BTreeSet` of texts, in its iteration order. -/
def btreeSet (texts : List String) : List String := texts.dedup.insertionSort (· ≤ ·)

/-- The loop over the denied permissions: the first that a required capability needs. -/
def deniedRequired (manifest : Manifest) (denied : String) : Option AdmissionOutcome :=
  match manifest.capabilities.find? (fun capability => capability.interface = denied) with
  | some capability =>
    if capability.necessity = .required then
      some (.block .permissionDenied ("required capability " ++ denied ++ " is denied"))
    else none
  | none => none

/-- The loop over the capabilities: why `capability` refuses `profile`. -/
def refusedCapability (profile : Profile) (capability : Capability) : Option AdmissionOutcome :=
  match capability.profiles.find? (fun support => support.profile = profile) with
  | none =>
    some (.reject .incompatibleContract
      ("capability " ++ capability.interface ++ " does not declare the requested profile"))
  | some support =>
    if capability.necessity = .required then
      match support.availability with
      | .denied =>
        some (.block .permissionDenied ("required capability " ++ capability.interface ++
          " is denied for the requested profile"))
      | .unavailable =>
        some (.block .capabilityUnavailable ("required capability " ++ capability.interface ++
          " is unavailable for the requested profile"))
      | .native | .brokered | .mock => none
    else none

/-- The capability has live authority that a web preview must not have. -/
def liveForbidden (capability : Capability) : Bool :=
  match capability.profiles.find? (fun support => support.profile = .webPreview) with
  | some support =>
    [scheduler, notification, systemMetrics, http].contains capability.interface &&
      (support.availability = .native || support.availability = .brokered)
  | none => false

/-- `admit`. -/
def admitManifest (manifest : Manifest) (request : AdmissionRequest) : AdmissionOutcome :=
  if manifest.revocation = .revoked then
    .reject .integrityFailure "package verification status is revoked"
  else if (reconcileWorldImports manifest.runtime.world
      manifest.runtime.requiredImports).isOk = false then
    .reject .incompatibleContract "manifest imports do not match the selected accepted WIT world"
  else
    let actual := btreeSet request.actualComponentImports
    let declared := btreeSet manifest.runtime.requiredImports
    if actual.any fun interface => !appInterfaces.contains interface then
      .reject .unknownInterface
        "component imports an interface outside the app capability allowlist"
    else if actual ≠ declared then
      .reject .incompatibleContract "component imports and manifest required_imports differ"
    else
      let supported := btreeSet request.hostSupportedImports
      match declared.find? fun interface => !supported.contains interface with
      | some missing => .reject .missingInterface ("host does not support " ++ missing)
      | none =>
        let platformSupported := manifest.runtime.platforms.any fun platform =>
          platform.os = request.host.os && platform.arch = request.host.arch &&
            platform.profiles.contains request.host.profile
        if !platformSupported || !manifest.supportsProfile request.host.profile then
          .reject .incompatibleContract
            "package does not support the requested OS/architecture/profile tuple"
        else
          match request.deniedPermissions.findSome? (deniedRequired manifest) with
          | some outcome => outcome
          | none =>
            match manifest.capabilities.findSome? (refusedCapability request.host.profile) with
            | some outcome => outcome
            | none =>
              if request.host.profile = .webPreview && manifest.capabilities.any liveForbidden then
                .reject .incompatibleContract
                  "web-preview hardware and background capabilities must be mock, denied or unavailable"
              else .accept manifest request.host.profile

/-! ## What `admit` accepts -/

/-- The conditions of `admit`, one for each reason to refuse. -/
structure Admissible (manifest : Manifest) (request : AdmissionRequest) : Prop where
  notRevoked : manifest.revocation ≠ .revoked
  world : (reconcileWorldImports manifest.runtime.world
    manifest.runtime.requiredImports).isOk = true
  allowed : ∀ i ∈ request.actualComponentImports, i ∈ appInterfaces
  actual : ∀ i, i ∈ request.actualComponentImports ↔ i ∈ manifest.runtime.requiredImports
  supported : ∀ i ∈ manifest.runtime.requiredImports, i ∈ request.hostSupportedImports
  platform : ∃ p ∈ manifest.runtime.platforms, p.os = request.host.os ∧
    p.arch = request.host.arch ∧ request.host.profile ∈ p.profiles
  profile : request.host.profile ∈ manifest.runtime.profiles
  granted : ∀ d ∈ request.deniedPermissions, deniedRequired manifest d = none
  capable : ∀ c ∈ manifest.capabilities, refusedCapability request.host.profile c = none
  preview : request.host.profile = .webPreview → ∀ c ∈ manifest.capabilities,
    liveForbidden c = false

theorem mem_btreeSet {l : List String} {x : String} : x ∈ btreeSet l ↔ x ∈ l := by
  rw [btreeSet, List.mem_insertionSort, List.mem_dedup]

/-- Two sets are equal when they have the same members. -/
theorem btreeSet_eq_iff {l m : List String} : btreeSet l = btreeSet m ↔ ∀ x, x ∈ l ↔ x ∈ m := by
  constructor
  · intro h x
    rw [← mem_btreeSet, h, mem_btreeSet]
  · intro h
    have hperm : l.dedup.Perm m.dedup := by
      refine (List.perm_ext_iff_of_nodup l.nodup_dedup m.nodup_dedup).2 fun x => ?_
      rw [List.mem_dedup, List.mem_dedup, h]
    refine List.Perm.eq_of_pairwise (fun _ _ _ _ => le_antisymm)
      (List.pairwise_insertionSort _ _) (List.pairwise_insertionSort _ _) ?_
    exact ((List.perm_insertionSort _ _).trans hperm).trans (List.perm_insertionSort _ _).symm

theorem deniedRequired_decision {manifest : Manifest} {d : String} {o : AdmissionOutcome}
    (h : deniedRequired manifest d = some o) : o.decision ≠ .accept := by
  unfold deniedRequired at h
  split at h
  · split_ifs at h
    cases h
    exact AdmissionDecision.noConfusion
  · cases h

theorem refusedCapability_decision {profile : Profile} {c : Capability} {o : AdmissionOutcome}
    (h : refusedCapability profile c = some o) : o.decision ≠ .accept := by
  unfold refusedCapability at h
  split at h
  · cases h
    exact AdmissionDecision.noConfusion
  · split_ifs at h
    split at h <;> cases h <;> exact AdmissionDecision.noConfusion

theorem accept_decision (manifest : Manifest) (profile : Profile) :
    (AdmissionOutcome.accept manifest profile).decision = .accept := rfl

/-- **`admit` accepts exactly the admissible requests.** -/
theorem admitManifest_accept_iff (manifest : Manifest) (request : AdmissionRequest) :
    (admitManifest manifest request).decision = .accept ↔ Admissible manifest request := by
  have hreject : ∀ (code : ProtocolErrorCode) (detail : String) {P : Prop}, ¬ P →
      ((AdmissionOutcome.reject code detail).decision = .accept ↔ P) := fun code detail P hP =>
    iff_of_false AdmissionDecision.noConfusion hP
  unfold admitManifest
  by_cases hrev : manifest.revocation = .revoked
  · rw [if_pos hrev]
    exact hreject _ _ fun h => h.notRevoked hrev
  rw [if_neg hrev]
  by_cases hworld : (reconcileWorldImports manifest.runtime.world
      manifest.runtime.requiredImports).isOk = false
  · rw [if_pos hworld]
    exact hreject _ _ fun h => absurd (h.world.symm.trans hworld) (by decide)
  rw [if_neg hworld]
  by_cases hallowed : (btreeSet request.actualComponentImports).any fun i =>
      !appInterfaces.contains i
  · rw [if_pos hallowed]
    obtain ⟨i, hi, hnot⟩ := List.any_eq_true.1 hallowed
    refine hreject _ _ fun h => ?_
    have hmem := List.contains_iff_mem.2 (h.allowed i (mem_btreeSet.1 hi))
    rw [hmem] at hnot
    cases hnot
  rw [if_neg hallowed]
  by_cases hactual : btreeSet request.actualComponentImports ≠
      btreeSet manifest.runtime.requiredImports
  · rw [if_pos hactual]
    exact hreject _ _ fun h => hactual (btreeSet_eq_iff.2 h.actual)
  rw [if_neg hactual]
  dsimp only
  split
  · rename_i missing hmissing
    refine hreject _ _ fun h => ?_
    have hmem := List.mem_of_find?_eq_some hmissing
    have hnot := List.find?_some hmissing
    have hsup := mem_btreeSet.2 (h.supported missing (mem_btreeSet.1 hmem))
    rw [List.contains_iff_mem.2 hsup] at hnot
    cases hnot
  rename_i hsupported
  by_cases hplatform : (!(manifest.runtime.platforms.any fun platform =>
      platform.os = request.host.os && platform.arch = request.host.arch &&
        platform.profiles.contains request.host.profile) ||
      !manifest.supportsProfile request.host.profile) = true
  · rw [if_pos hplatform]
    refine hreject _ _ fun h => ?_
    obtain ⟨p, hp, hos, harch, hprof⟩ := h.platform
    have hany : (manifest.runtime.platforms.any fun platform =>
        platform.os = request.host.os && platform.arch = request.host.arch &&
          platform.profiles.contains request.host.profile) = true :=
      List.any_eq_true.2 ⟨p, hp, by simp [hos, harch, hprof]⟩
    have hprofile : manifest.supportsProfile request.host.profile = true :=
      List.contains_iff_mem.2 h.profile
    rw [hany, hprofile] at hplatform
    cases hplatform
  rw [if_neg hplatform]
  split
  · rename_i outcome hdenied
    obtain ⟨d, hd, ho⟩ := List.exists_of_findSome?_eq_some hdenied
    refine iff_of_false (deniedRequired_decision ho) fun h => ?_
    rw [h.granted d hd] at ho
    cases ho
  rename_i hgranted
  split
  · rename_i outcome hrefused
    obtain ⟨c, hc, ho⟩ := List.exists_of_findSome?_eq_some hrefused
    refine iff_of_false (refusedCapability_decision ho) fun h => ?_
    rw [h.capable c hc] at ho
    cases ho
  rename_i hcapable
  by_cases hpreview : (decide (request.host.profile = .webPreview) &&
      manifest.capabilities.any liveForbidden) = true
  · rw [if_pos hpreview]
    refine hreject _ _ fun h => ?_
    rw [Bool.and_eq_true, decide_eq_true_eq, List.any_eq_true] at hpreview
    obtain ⟨hprof, c, hc, hlive⟩ := hpreview
    rw [h.preview hprof c hc] at hlive
    cases hlive
  rw [if_neg hpreview]
  refine iff_of_true (accept_decision _ _) ?_
  simp only [List.any_eq_true, Bool.not_eq_true', not_exists, not_and, Bool.not_eq_false,
    List.contains_iff_mem, mem_btreeSet] at hallowed
  simp only [Bool.or_eq_true, Bool.not_eq_true', not_or, Bool.not_eq_false, List.any_eq_true,
    Bool.and_eq_true, decide_eq_true_eq, List.contains_iff_mem] at hplatform
  obtain ⟨⟨p, hp, ⟨hos, harch⟩, hprof⟩, hprofile⟩ := hplatform
  rw [List.find?_eq_none] at hsupported
  exact {
    notRevoked := hrev
    world := by simpa using hworld
    allowed := fun i hi => hallowed i hi
    actual := btreeSet_eq_iff.1 (not_not.1 hactual)
    supported := fun i hi => by
      simpa [mem_btreeSet] using hsupported i (mem_btreeSet.2 hi)
    platform := ⟨p, hp, hos, harch, hprof⟩
    profile := List.contains_iff_mem.1 hprofile
    granted := List.findSome?_eq_none_iff.1 hgranted
    capable := List.findSome?_eq_none_iff.1 hcapable
    preview := fun hprof c hc => by
      simp only [hprof, decide_true, Bool.true_and, List.any_eq_true, not_exists, not_and,
        Bool.not_eq_true] at hpreview
      exact hpreview c hc }

end Vibapp.Protocol
