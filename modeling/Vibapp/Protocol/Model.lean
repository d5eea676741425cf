import Vibapp.Protocol.Admission
import Vibapp.Protocol.Json

/-!
# The typed manifest

The data model of the protocol crate. Admission's own view of it is `Manifest.forAdmission`.
-/

namespace Vibapp.Protocol.Model

def schemaVersion : String := "vibapp.manifest.experimental-v0.0.1"
def packageFormat : String := "vibapp.package.experimental-v0"
def contractVersion : String := "vibapp:experimental-v0@0.0.1"
def wasiVersion : String := "0.2"

inductive AppKind
  | ui | service | hybrid
deriving DecidableEq, Repr

inductive ProfileMode
  | full | degraded | preview
deriving DecidableEq, Repr

inductive Background
  | daemon | process | foregroundOnly | notApplicable
deriving DecidableEq, Repr

inductive ArtifactRole
  | canonicalComponent | browserDerived
deriving DecidableEq, Repr

inductive Grant
  | automatic | user
deriving DecidableEq, Repr

inductive Restoration
  | none | routeOnly | safeFields
deriving DecidableEq, Repr

inductive EntrypointDetails
  | launcher (initialRoute : String) (allowedRoutes : List String) (restoration : Restoration)
  | service (triggers : List String) (healthCheckIntervalSeconds : Nat)
  | settings (schemaExport : String)
deriving DecidableEq, Repr

inductive DataDisposition
  | delete | retain | exportThenDelete
deriving DecidableEq, Repr

structure Publisher where
  id : String
  displayName : String
deriving DecidableEq, Repr

structure App where
  id : String
  version : String
  kind : AppKind
  displayName : String
  description : String
  publisher : Publisher
deriving DecidableEq, Repr

structure Artifact where
  path : String
  mediaType : String
  sha256 : String
  sizeBytes : Nat
deriving DecidableEq, Repr

structure DerivedArtifact where
  profile : Profile
  derivedFromSha256 : String
  entry : Artifact
  files : List Artifact
  derivationAttestation : Artifact
deriving DecidableEq, Repr

structure Artifacts where
  canonicalComponent : Artifact
  assets : List Artifact
  browserDerivations : List DerivedArtifact
  provenance : Artifact
  sbom : Artifact
deriving DecidableEq, Repr

structure ProfileSupport where
  profile : Profile
  mode : ProfileMode
  background : Background
  artifactRole : ArtifactRole
  degradation : String
deriving DecidableEq, Repr

structure PlatformSupport where
  os : String
  arch : String
  profiles : List Profile
deriving DecidableEq, Repr

structure Runtime where
  world : World
  requiredImports : List String
  profiles : List ProfileSupport
  platforms : List PlatformSupport
deriving DecidableEq, Repr

structure Entrypoint where
  id : String
  kind : EntrypointKind
  label : String
  profiles : List Profile
  details : EntrypointDetails
deriving DecidableEq, Repr

structure CapabilityProfile where
  profile : Profile
  availability : Availability
  behavior : String
deriving DecidableEq, Repr

structure CapabilityScope where
  maximumRequestsPerHour : Option Nat
  maximumSchedules : Option Nat
  maximumStorageBytes : Option Nat
  methods : List String
  metrics : List String
  origins : List String
deriving DecidableEq, Repr

structure Capability where
  interface : String
  necessity : Necessity
  grant : Grant
  reason : String
  scope : CapabilityScope
  profiles : List CapabilityProfile
deriving DecidableEq, Repr

structure Resources where
  linearMemoryBytes : Nat
  eventWallTimeMs : Nat
  healthMigrationWallTimeMs : Nat
  outputBytes : Nat
  storedDataBytes : Nat
  durableSchedules : Nat
  logBytesPerDay : Nat
deriving DecidableEq, Repr

structure StateContract where
  schema : Nat
  migratableFromMin : Nat
  migratableFromMax : Nat
deriving DecidableEq, Repr

structure LifecycleContract where
  allowedDataDispositions : List DataDisposition
  defaultDataDisposition : DataDisposition
deriving DecidableEq, Repr

structure SourceContract where
  revision : String
  cargoLockSha256 : String
  builderImageDigest : String
deriving DecidableEq, Repr

structure LicenseContract where
  spdxExpression : String
deriving DecidableEq, Repr

inductive NetworkAccess
  | none | scopedBroker
deriving DecidableEq, Repr

structure PrivacyContract where
  storesPersonalData : Bool
  networkAccess : NetworkAccess
deriving DecidableEq, Repr

inductive VerificationStatus
  | fixture | unverified | verified
deriving DecidableEq, Repr

structure VerificationContract where
  status : VerificationStatus
  revocation : RevocationStatus
deriving DecidableEq, Repr

/-- The typed fields of a manifest. -/
structure Contents where
  app : App
  artifacts : Artifacts
  runtime : Runtime
  entrypoints : List Entrypoint
  capabilities : List Capability
  resources : Resources
  state : StateContract
  lifecycle : LifecycleContract
  source : SourceContract
  license : LicenseContract
  privacy : PrivacyContract
  verification : VerificationContract
deriving DecidableEq, Repr

/-- A manifest. `raw` preserves every schema field for canonical round trips. -/
structure Manifest extends Contents where
  raw : JsonValue

namespace Manifest

/-- `canonical_json`. -/
def canonicalJson (m : Manifest) : String := toCanonicalJson m.raw

/-- The part of a manifest that `admit` reads. -/
def forAdmission (m : Manifest) : Protocol.Manifest where
  runtime := {
    world := m.runtime.world
    requiredImports := m.runtime.requiredImports
    profiles := m.runtime.profiles.map ProfileSupport.profile
    platforms := m.runtime.platforms.map fun p => ⟨p.os, p.arch, p.profiles⟩ }
  entrypoints := m.entrypoints.map fun e => ⟨e.kind, e.profiles⟩
  capabilities := m.capabilities.map fun c =>
    ⟨c.interface, c.necessity, c.profiles.map fun s => ⟨s.profile, s.availability⟩⟩
  revocation := m.verification.revocation

end Manifest

end Vibapp.Protocol.Model
