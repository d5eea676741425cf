import Mathlib.Data.List.Basic
import Vibapp.Lib.Except

/-!
# What the verifier accepts

The quarantine of a Builder job as the verifier reads it, and the checks of `verifier.py` before it
promotes: the receipt, the package tree, the digests, the component. `verify` is what these checks
come to where nothing goes wrong outside them.

**Parameters** (`Library`). What a JSON text says and whether its fields have their types and
values (the receipt's, the manifest's), the digests, and the two tools, which are functions of the
component, the manifest and the tools.
-/

namespace Vibapp.Verifier

/-! ## Errors -/

/-- `PipelineError`. -/
structure PipelineError where
  code : String
  message : String
deriving DecidableEq, Repr

inductive Raised
  | pipeline (error : PipelineError)
  /-- `OSError`, `ValueError`, and the exceptions that `verify_and_promote` does not handle. -/
  | os
  | value
  | other
deriving DecidableEq, Repr

/-- `except (PipelineError, OSError, ValueError)`. -/
def Raised.handled : Raised → Bool
  | .other => false
  | _ => true

abbrev Py (α : Type) := Except Raised α

def fail {α : Type} (code message : String) : Py α := .error (.pipeline ⟨code, message⟩)

/-- Raise unless `ok`. -/
def require (ok : Bool) (code message : String) : Py Unit :=
  if ok then .ok () else fail code message

/-! ## Constants -/

def maxJsonBytes : Nat := 1024 * 1024
def maxComponentBytes : Nat := 16 * 1024 * 1024
def maxPackageBytes : Nat := 64 * 1024 * 1024
def maxSourceBytes : Nat := 16 * 1024 * 1024
def verifierVersion : String := "app-verifier.experimental-v1"

/-- `sorted(EXPECTED_PACKAGE_FILES)`. -/
def expectedPackageFiles : List String :=
  ["component.wasm", "manifest.json", "provenance.json", "sbom.cdx.json"]

/-! ## Files -/

/-- What is at a path. `irregular` is a link, a special file or a file with several links. -/
inductive Entry
  | missing
  | irregular
  | regular (data : List UInt8)
deriving DecidableEq, Repr

/-- `read_bounded`. -/
def readBounded (entry : Entry) (maximum : Nat) (context : String) : Py (List UInt8) :=
  match entry with
  | .missing => fail "not-found" (context ++ " is missing")
  | .irregular => fail "integrity-failure" (context ++ " must be one regular unlinked file")
  | .regular data =>
    if data.length = 0 || maximum < data.length then
      fail "resource-limit" (context ++ " size must be 1.." ++ toString maximum ++ " bytes")
    else .ok data

/-- What is at the package directory. -/
inductive Package
  | missing
  | irregular
  | directory (entries : List (String × Entry))
deriving DecidableEq, Repr

/-- What is at `package_dir / name`. -/
def Package.entry (package : Package) (name : String) : Entry :=
  match package with
  | .directory entries => (entries.lookup name).getD .missing
  | _ => .missing

/-- What the walk over the copied source finds. -/
inductive SourceItem
  | directory (linked : Bool)
  | file (path : String) (entry : Entry)
deriving DecidableEq, Repr

/-- A job's quarantine, at the path of its receipt. The three flags are the checks on that path. -/
structure Quarantine where
  insideJobs : Bool
  canonicalName : Bool
  nested : Bool
  jobName : String
  receipt : Entry
  buildLog : Entry
  source : List SourceItem
  package : Package
deriving DecidableEq, Repr

/-! ## Values -/

structure Descriptor where
  sha256 : String
  sizeBytes : Nat
deriving DecidableEq, Repr

/-- A row of `package_files`. -/
structure PackageFile where
  path : String
  sha256 : String
  sizeBytes : Nat
deriving DecidableEq, Repr

structure Entrypoint where
  id : String
  kind : String
  label : String
  initialRoute : Option String
  triggers : List String
deriving DecidableEq, Repr

structure Presentation where
  preferredWidth : Nat
  preferredHeight : Nat
  minimumWidth : Nat
  minimumHeight : Nat
  resizable : Bool
deriving DecidableEq, Repr

/-- The receipt, as far as it is read after its fields are checked. -/
structure Receipt where
  jobId : String
  sourceTreeSha256 : String
  requiredCapabilities : List String
  packageEntrypoints : List Entrypoint
  packageDigestSha256 : String
  packageFiles : List PackageFile
  componentSha256 : String
  manifestSha256 : String
  buildLogSha256 : String
  presentation : Option Presentation
deriving DecidableEq, Repr

/-- A manifest that `_validate_manifest_schema` accepts, as far as the verifier reads it. -/
structure Manifest where
  id : String
  version : String
  kind : String
  displayName : String
  description : String
  entrypoints : List Entrypoint
  world : String
  requiredImports : List String
  requiredCapabilities : List String
  component : Descriptor
  provenance : Descriptor
  sbom : Descriptor
deriving DecidableEq, Repr

structure SourceRecord where
  path : String
  sha256 : String
  sizeBytes : Nat
  role : String
deriving DecidableEq, Repr

structure Check where
  id : String
  outcome : String
  tool : String
  detail : String
deriving DecidableEq, Repr

/-- What the checks use. `μ` is a JSON value, `θ` the two executables. -/
structure Library (μ θ : Type) where
  sha256 : List UInt8 → String
  /-- `load_json` of the receipt, and its checks that look at nothing else. -/
  loadReceipt : List UInt8 → Py Receipt
  loadJson : List UInt8 → Py μ
  validateManifestSchema : μ → Py Manifest
  manifestEntrypoints : μ → Py (List Entrypoint)
  packageDigest : μ → Py String
  deriveHostPresentation : Manifest → Py Presentation
  sourceTreeDigest : List SourceRecord → String
  runWasmChecks : θ → List UInt8 → Manifest → Py (List Check)
  reconcileGuestDescriptor : θ → List UInt8 → Manifest → Py Check
  /-- `\d` of a regular expression. -/
  isDecimal : Char → Bool

variable {μ θ : Type}

def sha256File (library : Library μ θ) (entry : Entry) (maximum : Nat) (context : String) :
    Py String := do
  let data ← readBounded entry maximum context
  pure (library.sha256 data)

/-! ## The receipt -/

/-- The walk over the copied source. -/
def sourceRecords (library : Library μ θ) : List SourceItem → Py (List SourceRecord)
  | [] => .ok []
  | .directory linked :: rest => do
    require (!linked) "integrity-failure" "copied source contains a symlink directory"
    sourceRecords library rest
  | .file path entry :: rest => do
    let data ← readBounded entry maxSourceBytes path
    let records ← sourceRecords library rest
    pure ({
      path := path
      sha256 := library.sha256 data
      sizeBytes := data.length
      role := if path = "wit/contract.wit" then "authoritative-contract-copy"
        else "generated-source" } :: records)

/-- `_validate_receipt`. -/
def validateReceipt (library : Library μ θ) (quarantine : Quarantine) : Py Receipt := do
  if quarantine.receipt = .missing then
    .error .os
  require quarantine.insideJobs "integrity-failure" "quarantine receipt is outside output jobs"
  require quarantine.canonicalName "integrity-failure" "quarantine receipt path is not canonical"
  require quarantine.nested "integrity-failure" "quarantine job nesting is invalid"
  let data ← readBounded quarantine.receipt maxJsonBytes "quarantine receipt"
  let receipt ← library.loadReceipt data
  require (receipt.jobId = quarantine.jobName) "integrity-failure"
    "receipt job ID differs from directory"
  let log ← sha256File library quarantine.buildLog maxJsonBytes "build log"
  require (log = receipt.buildLogSha256) "integrity-failure" "build log digest changed"
  let records ← sourceRecords library quarantine.source
  require (library.sourceTreeDigest records = receipt.sourceTreeSha256) "integrity-failure"
    "copied source tree digest changed"
  pure receipt

/-! ## The package tree -/

/-- The names are the four that are expected. -/
def isExpected (names : List String) : Bool :=
  names.all expectedPackageFiles.contains && expectedPackageFiles.all names.contains

/-- The two lists have the same elements. -/
def sameSet (a b : List String) : Bool := a.all b.contains && b.all a.contains

/-- The loop over the inventory, with the rows so far and their total size. -/
def validateInventory (library : Library μ θ) (package : Package) :
    List PackageFile → List PackageFile → Nat → Py (List PackageFile × Nat)
  | [], indexed, total => .ok (indexed, total)
  | row :: rest, indexed, total => do
    require (expectedPackageFiles.contains row.path &&
        !(indexed.map PackageFile.path).contains row.path)
      "integrity-failure" "quarantine inventory path is invalid/duplicate"
    require (1 ≤ row.sizeBytes && row.sizeBytes ≤ maxPackageBytes) "schema-invalid"
      "package_files size_bytes is invalid"
    let data ← readBounded (package.entry row.path) maxPackageBytes row.path
    require (data.length = row.sizeBytes && library.sha256 data = row.sha256) "integrity-failure"
      ("quarantine bytes changed: " ++ row.path)
    validateInventory library package rest (indexed ++ [row]) (total + data.length)

/-- The descriptor of the manifest is that of the row. -/
def describes (indexed : List PackageFile) (name : String) (descriptor : Descriptor) : Bool :=
  (indexed.find? (·.path = name)).any fun row =>
    row.sizeBytes = descriptor.sizeBytes && row.sha256 = descriptor.sha256

/-- `_validate_package_tree`. It also gives the JSON value of the manifest. -/
def validatePackageTree (library : Library μ θ) (package : Package) (receipt : Receipt) :
    Py (μ × Manifest) := do
  match package with
  | .missing => .error .os
  | .irregular => fail "integrity-failure" "quarantine package is not a real directory"
  | .directory entries => do
    require (isExpected (entries.map Prod.fst)) "integrity-failure"
      "quarantine package boundary mismatch"
    require (receipt.packageFiles.length = 4) "schema-invalid"
      "quarantine package inventory is invalid"
    let (indexed, total) ← validateInventory library package receipt.packageFiles [] 0
    require (isExpected (indexed.map PackageFile.path) && total ≤ maxPackageBytes)
      "resource-limit" "quarantine package inventory/size is invalid"
    let data ← readBounded (package.entry "manifest.json") maxJsonBytes "manifest"
    let value ← library.loadJson data
    let manifest ← library.validateManifestSchema value
    require (sameSet manifest.requiredCapabilities receipt.requiredCapabilities)
      "integrity-failure"
      "manifest capability necessity differs from the consent-bound Builder input"
    let entrypoints ← library.manifestEntrypoints value
    require (entrypoints = receipt.packageEntrypoints) "integrity-failure"
      "manifest entrypoints or triggers differ from the consent-bound Builder input"
    require (describes indexed "component.wasm" manifest.component) "integrity-failure"
      "manifest descriptor differs from bytes: component.wasm"
    require (describes indexed "provenance.json" manifest.provenance) "integrity-failure"
      "manifest descriptor differs from bytes: provenance.json"
    require (describes indexed "sbom.cdx.json" manifest.sbom) "integrity-failure"
      "manifest descriptor differs from bytes: sbom.cdx.json"
    pure (value, manifest)

/-! ## The rest -/

/-- The checks that the verifier makes itself. -/
def fixedChecks : List Check :=
  [⟨"bounded-package-tree", "pass", verifierVersion,
      "four regular files; no links, extras, or oversized content"⟩,
    ⟨"manifest-schema-and-semantics", "pass", verifierVersion,
      "strict product-v1 subset and frozen runtime relations validated"⟩,
    ⟨"artifact-and-package-digests", "pass", verifierVersion,
      "descriptors, exact bytes, and package preimage rehashed"⟩,
    ⟨"builder-authority-separation", "pass", verifierVersion,
      "builder remained quarantine-only; its success prose was not an oracle"⟩,
    ⟨"host-presentation-bounds", "pass", verifierVersion,
      "window hints were independently derived and contain no native-window authority"⟩]

/-- What the checks of a quarantine come to. -/
structure Accepted where
  receipt : Receipt
  digest : String
  presentation : Presentation
  checks : List Check
  receiptDigest : String
deriving DecidableEq, Repr

/-- The presentation and the digests. -/
def validateDigests (library : Library μ θ) (package : Package) (receipt : Receipt) (value : μ)
    (manifest : Manifest) : Py (Presentation × String × List UInt8) := do
  let presentation ← library.deriveHostPresentation manifest
  require (receipt.presentation.all (· = presentation)) "integrity-failure"
    "Builder presentation differs from the verifier-derived host policy"
  let digest ← library.packageDigest value
  require (digest = receipt.packageDigestSha256) "integrity-failure"
    "package digest differs from quarantine receipt"
  let component ← readBounded (package.entry "component.wasm") maxComponentBytes "component"
  require (library.sha256 component = receipt.componentSha256) "integrity-failure"
    "component digest differs from quarantine receipt"
  let data ← readBounded (package.entry "manifest.json") maxJsonBytes "manifest"
  require (library.sha256 data = receipt.manifestSha256) "integrity-failure"
    "manifest digest differs from quarantine receipt"
  pure (presentation, digest, component)

/-- All checks before the promotion, where no other step raises. -/
def verify (library : Library μ θ) (tools : θ) (quarantine : Quarantine) : Py Accepted := do
  let receipt ← validateReceipt library quarantine
  let (value, manifest) ← validatePackageTree library quarantine.package receipt
  let (presentation, digest, component) ←
    validateDigests library quarantine.package receipt value manifest
  let wasm ← library.runWasmChecks tools component manifest
  let guest ← library.reconcileGuestDescriptor tools component manifest
  let receiptDigest ← sha256File library quarantine.receipt maxJsonBytes "quarantine receipt"
  pure { receipt, digest, presentation, checks := fixedChecks ++ wasm ++ [guest], receiptDigest }

end Vibapp.Verifier
