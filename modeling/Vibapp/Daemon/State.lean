import Vibapp.Daemon.Verify
import Vibapp.Lib.Dict
import Vibapp.Lib.Fault

/-!
# The daemon's records, its storage and its world

The state document with one record for each installed app, the directories the daemon owns, and
the world a request runs in: storage, the document as saved and as the request has it in memory,
the live workers and the audit log. Directories are real directories or absent: the daemon owns
its root, so the checks for links and other files reduce to existence.
-/

namespace Vibapp.Daemon

/-! ## Bounds -/

def maxIdempotencyRecords : Nat := 4096
def crashLoopCount : Nat := 3
def crashLoopWindowSeconds : Int := 5 * 60
def maxActiveServiceWorkers : Nat := 64
def maxActiveServiceWorkersPerApp : Nat := 8
def maxAppStateFiles : Nat := 256
def maxAppStateBytes : Nat := 16 * 1024 * 1024
def maxUpdateHistory : Nat := 16
def maxGcDeletionsPerPass : Nat := 8
def observationWindowSeconds : Int := 5 * 60
def minUiRefreshIntervalMilliseconds : Int := 1000

/-! ## Storage -/

/-- The durable document of an app's KV store. -/
structure KvDocument where
  revision : Nat
  entries : List (String × String)
deriving DecidableEq, Repr, Inhabited

/-- A data directory: its inode, which a rename keeps, and what is in it. -/
structure Directory where
  inode : Nat
  kv : Option KvDocument
  files : List (String × String)
deriving DecidableEq, Repr, Inhabited

/-- A transaction root under `updates/`: its app and its name. -/
abbrev RootId := String × String

instance lawfulRootId : LawfulBEq RootId := inferInstance

/-- Where a data directory can be: `app-data/<app>`, `candidate-state` and `previous-state` of a
transaction root, and `retained/<archive>`. -/
inductive Place
  | active (app : String)
  | candidate (root : RootId)
  | previous (root : RootId)
  | retained (archive : String)
deriving DecidableEq, Repr, Inhabited

/-- An installed package directory: its manifest, and whether its bytes are those of its digest. -/
structure Package where
  manifest : Json
  intact : Bool

/-- The directories of the daemon. -/
structure Disk where
  packages : Dict (String × String) Package
  roots : List RootId
  dirs : Place → Option Directory

namespace Disk

/-- Put a directory somewhere, or remove the one that is there. -/
def put (d : Disk) (p : Place) (dir : Option Directory) : Disk :=
  { d with dirs := Function.update d.dirs p dir }

/-- `os.replace` of a data directory. -/
def move (d : Disk) (source target : Place) : Disk :=
  (d.put target (d.dirs source)).put source none

theorem dirs_put_of_ne (d : Disk) {p q : Place} (h : q ≠ p) (dir : Option Directory) :
    (d.put p dir).dirs q = d.dirs q :=
  Function.update_of_ne h _ _

@[simp] theorem roots_put (d : Disk) (p : Place) (dir : Option Directory) :
    (d.put p dir).roots = d.roots := rfl

end Disk

/-! ## App records -/

/-- The fields of an app record that come from its package. -/
structure Release where
  version : String
  kind : String
  displayName : String
  publisherId : String
  publisherDisplayName : String
  permissions : List String
  presentation : Presentation
  packageDigest : String
  componentSha256 : String
  manifestSha256 : String
  runtimeWorld : String
  uiEntrypoints : List EntrypointRecord
  serviceEntrypoints : List EntrypointRecord
  allowedDataDispositions : List String
  defaultDataDisposition : String
  capabilityContract : ByteArray
  kvStorageLimitBytes : Option Int

/-- `state` of an app record. -/
structure StateRecord where
  schema : Int
  revision : Nat
  packageDigest : String
deriving DecidableEq, Repr

/-- `_service_error`. -/
structure ServiceFault where
  code : String
  message : String
  retryable : Bool
  operation : String
  atUtc : Int
deriving DecidableEq, Repr

inductive Health
  | healthy
  | degraded
  | unhealthy
deriving DecidableEq, Repr, Inhabited

inductive ServiceState
  | running
  | validated
  | stopped
  | failed
deriving DecidableEq, Repr, Inhabited

/-- A service of an app record. -/
structure Service where
  entrypoint : String
  state : ServiceState
  instance_ : Option String := none
  generation : Option String := none
  startReason : Option String := none
  guestStartReason : Option String := none
  guestExecution : Bool := false
  startDiagnostic : Option String := none
  health : Option Health := none
  lastError : Option ServiceFault := none
  eventCount : Nat := 0
  lastTrigger : Option String := none
  startedAtUtc : Option Int := none
  stoppedAtUtc : Option Int := none
  stopReason : Option String := none
  recoveredAtUtc : Option Int := none
  packageDigest : Option String := none
  stateRevision : Option Nat := none
deriving DecidableEq, Repr, Inhabited

/-- `render_feedback` of a surface. -/
structure RenderFeedback where
  principal : String
  tokenSha256 : String
  used : Bool
  issuedAtUtc : Int
  eventId : Option String := none
  reportedAtUtc : Option Int := none
deriving DecidableEq, Repr

/-- A surface of an app record. -/
structure Surface where
  entrypoint : String
  session : String
  surface : String
  route : String
  isOpen : Bool
  openedAtUtc : Int
  generation : Option String := none
  packageDigest : Option String := none
  componentSha256 : Option String := none
  trustedSurface : Option String := none
  renderFeedback : Option RenderFeedback := none
  closedAtUtc : Option Int := none
  closeReason : Option String := none
deriving DecidableEq, Repr

inductive Lifecycle
  | installedDisabled
  | enabled
  | disabled
  | updatePrepared
  | quarantined
  | uninstallDeactivated
deriving DecidableEq, Repr, Inhabited

/-- `_previous_generation`. -/
structure PreviousGeneration where
  release : Release
  state : StateRecord
  surfaces : Dict String Surface
  runningServiceEntrypoints : List String

inductive TransactionStatus
  | prepared
  | validated
  | switching
  | observationWindow
  | committed
  | rolledBack
deriving DecidableEq, Repr, Inhabited

inductive TransactionPhase
  | prepared
  | migration
  | postMigration
  | activation
  | validated
  | switching
  | observation
  | committed
deriving DecidableEq, Repr, Inhabited

/-- `migration` and `activation_health` of a transaction. -/
inductive StageStatus
  | pending
  | notRun
  | failed
  | unchanged
  | migrated
  | healthy
  | degraded
deriving DecidableEq, Repr, Inhabited

/-- The journal of an update. Its two state directories are those of its root. -/
structure UpdateTransaction where
  transactionId : String
  status : TransactionStatus
  phase : TransactionPhase
  fromPackageDigest : String
  toPackageDigest : String
  fromVersion : String
  toVersion : String
  fromStateSchema : Int
  toStateSchema : Int
  sourceStateRevision : Nat
  targetStateRevision : Nat
  migration : StageStatus
  activationHealth : StageStatus
  activatedStateRevision : Option Nat := none
  rollbackReason : Option String := none
  startedAtUtc : Int
  completedAtUtc : Option Int := none
  observationStartedAtUtc : Option Int := none
  observationDeadlineUtc : Option Int := none
  observationCompletedAtUtc : Option Int := none
  transactionRoot : RootId
  previous : Option PreviousGeneration

/-- `update.previous`: what a rollback in the observation window goes back to. -/
structure RollbackRecord where
  transactionId : String
  fromPackageDigest : String
  toPackageDigest : String
  transactionRoot : RootId
  previous : PreviousGeneration
  observationStartedAtUtc : Int
  observationDeadlineUtc : Int
  retention : String

inductive UpdateStatus
  | none
  | prepared
  | validated
  | switching
  | observationWindow
  | committed
  | rolledBack
deriving DecidableEq, Repr, Inhabited

/-- `update` of an app record. -/
structure UpdateRecord where
  status : UpdateStatus
  pending : Option UpdateTransaction
  previous : Option RollbackRecord
  lastTransaction : Option UpdateTransaction
  history : List UpdateTransaction

inductive EnableStatus
  | preparing
  | switching
  | committed
deriving DecidableEq, Repr, Inhabited

/-- `enable_transaction` of an app record. -/
structure EnableTransaction where
  transactionId : String
  status : EnableStatus
  appId : String
  packageDigest : String
  transactionRoot : RootId
  originalStateRevision : Nat
  serviceEntrypoints : List String
  startedAtUtc : Int
deriving DecidableEq, Repr

/-- A target of the generation collector: a directory of `packages/` or of `updates/`. -/
inductive GcTarget
  | package (app name : String)
  | update (root : RootId)
  /-- An entry that is not of this form. -/
  | malformed
  /-- A path outside the directory of its kind. -/
  | escaped
deriving DecidableEq, Repr

/-- `gc` of an app record. -/
structure GcRecord where
  inProgress : Bool
  pending : List GcTarget
  lastCompletedAtUtc : Option Int
  lastRemoved : List GcTarget
deriving DecidableEq, Repr

/-- An installed app. -/
structure App where
  release : Release
  enabled : Bool
  lifecycleState : Lifecycle
  quarantined : Bool
  lastError : Option String
  services : Dict String Service
  surfaces : Dict String Surface
  serviceInstanceSequence : Nat
  surfaceSequence : Nat
  crashEvents : List Int
  installedAtUtc : Int
  guestExecutionPerformed : Bool
  enableTransaction : Option EnableTransaction
  state : StateRecord
  update : UpdateRecord
  gc : GcRecord

/-- What a command answers. -/
inductive CommandOutcome
  | accepted
  | rolledBack
  | launched (surface generation token : String)
  | uiUpdated (surface generation : String)
  | status (app : App)

/-- A receipt of the idempotency ledger. -/
structure Receipt where
  payloadSha256 : String
  outcome : CommandOutcome

/-- A retained archive. -/
structure RetainedRecord where
  appId : String
  publisherId : String
  retainedAtUtc : Int
deriving DecidableEq, Repr

/-- An export. -/
structure ExportRecord where
  appId : String
  createdAtUtc : Int
deriving DecidableEq, Repr

/-- The state document. -/
structure State where
  sequence : Nat
  apps : Dict String App
  idempotency : Dict (String × Option String × String × String) Receipt
  retained : Dict String RetainedRecord
  exports : Dict String ExportRecord
  lastRecoveredAtUtc : Option Int

/-- `_empty_state`. -/
def emptyState : State := ⟨0, ∅, ∅, ∅, ∅, none⟩

/-! ## The world of a request -/

/-- A live worker: the directory it is bound to, and the revision of the KV document it holds in
memory. -/
structure Worker where
  generation : String
  place : Place
  inode : Nat
  kv : Bool
  revision : Nat
deriving DecidableEq, Repr

/-- A line of `audit.jsonl`. -/
structure AuditRecord where
  sequence : Nat
  atUtc : Int
  event : String
  principal : String
  appId : Option String
  result : String
deriving DecidableEq, Repr

/-- The variables of a running `_update` or `_enable` that its error path reads: the detached
candidate record, the journal, the health reports so far, how far the switch went, and the new
services with their workers. -/
structure Locals where
  candidateApp : Option App
  transaction : Option UpdateTransaction
  reports : List Health
  oldQuiesced : Bool
  stateSwapped : Bool
  started : List (Service × Worker)

structure World where
  disk : Disk
  saved : State
  mem : State
  workers : Dict (String × String) Worker
  uiWorkers : Dict (String × String) Worker
  uiRefreshAt : Dict (String × String) Int
  audit : List AuditRecord
  locals : Locals
  tick : Nat

/-- `ServiceExecutionError`. -/
structure ServiceError where
  code : String
  message : String
  retryable : Bool
  uiRejectionRevision : Option Nat := none
deriving DecidableEq, Repr

/-- The exceptions that some `except` clause tells apart. -/
inductive Exn
  | daemon (e : DaemonError)
  | service (e : ServiceError)
  | os
  | other
deriving DecidableEq, Repr

/-- What becomes of a storage step that does not succeed. -/
inductive Fault
  | fails
  | stops
deriving DecidableEq, Repr

/-- An outcome of a worker, as far as the daemon reads it: whether it has the shape that the
command asks for, whether a surface is the one asked for, and what it reports. -/
structure Answer where
  wellFormed : Bool := true
  bound : Bool := true
  health : Health := .healthy
  migration : StageStatus := .unchanged
  diagnostic : Option String := none
  surface : String := ""
deriving DecidableEq, Repr, Inhabited

/-- What a guest does in one event: the KV transactions it commits, whether it reads the store,
and how the event ends. -/
structure Turn where
  commits : List (List (String × String)) := []
  reads : Bool := false
  /-- A bound rejection of UI input, where the error is one. -/
  rejects : Bool := false
  reply : Except ServiceError Answer := .ok {}

/-- Everything the daemon does not decide, at each step of a run. -/
structure Env where
  fault : Nat → Option Fault
  /-- What an interrupted removal or copy leaves of a directory. -/
  left : Nat → Directory → Option Directory
  /-- Whether an interrupted write to the audit log got through. -/
  written : Nat → Bool
  clock : Nat → Int
  monotonic : Nat → Int
  uuid : Nat → String
  token : Nat → String
  sha256 : String → String
  turn : Nat → Turn
  runtimeBinary : Nat → Option ServiceError
  verify : Nat → String → Py VerifiedCandidate
  /-- The phase at which the daemon is told to inject a fault, if any. -/
  updateFault : Option String
  stateTreeBytes : Directory → Nat

/-- A program of the daemon. -/
abbrev Run (α : Type) := Prog Env World Exn α

/-! ## A sample -/

/-- The manifest of a package that imports nothing. -/
def plainManifest : Json :=
  .obj [("runtime", .obj [("profiles", .arr [.obj [("profile", .str "desktop")]]),
      ("required_imports", .arr [])]),
    ("capabilities", .arr [])]

/-- A hybrid app whose service starts with it. -/
def sampleRelease (version packageDigest : String) : Release where
  version := version
  kind := "hybrid"
  displayName := "Sample"
  publisherId := "ai.sample"
  publisherDisplayName := "Sample"
  permissions := []
  presentation := ⟨800, 600, 320, 240, true⟩
  packageDigest := packageDigest
  componentSha256 := packageDigest
  manifestSha256 := packageDigest
  runtimeWorld := "hybrid-reference"
  uiEntrypoints := [⟨"main", "ui", .str "/", [], none⟩]
  serviceEntrypoints := [⟨"worker", "service", .null, ["on-enable"], none⟩]
  allowedDataDispositions := ["retain", "delete"]
  defaultDataDisposition := "retain"
  capabilityContract := ByteArray.empty
  kvStorageLimitBytes := some 65536

/-- That app, installed and disabled. -/
def sampleApp : App where
  release := sampleRelease "1.0.0" "aa"
  enabled := false
  lifecycleState := .installedDisabled
  quarantined := false
  lastError := none
  services := ∅
  surfaces := ∅
  serviceInstanceSequence := 0
  surfaceSequence := 0
  crashEvents := []
  installedAtUtc := 0
  guestExecutionPerformed := false
  enableTransaction := none
  state := ⟨1, 1, "aa"⟩
  update := ⟨.none, none, none, none, []⟩
  gc := ⟨false, [], none, []⟩

/-- A daemon with one app, its package, and a data directory or none. -/
def sampleWorld (app : App) (active : Option Directory) : World :=
  let state := { emptyState with apps := Dict.set ∅ "ai.sample" app }
  { disk := {
      packages := Dict.set ∅ ("ai.sample", app.release.packageDigest) ⟨plainManifest, true⟩
      roots := []
      dirs := fun p => if p = .active "ai.sample" then active else none }
    saved := state
    mem := state
    workers := ∅
    uiWorkers := ∅
    uiRefreshAt := ∅
    audit := []
    locals := ⟨none, none, [], false, false, []⟩
    tick := 1 }

end Vibapp.Daemon
