import Vibapp.Daemon.Steps

/-!
# Workers and service generations

A worker is one guest in a process of its own, bound to a data directory. Its KV broker loads the
document of that directory at exactly the revision the daemon states, and in an event the guest
may commit any number of transactions before the event ends in an outcome or an error. On top of
it, `_create_service_generation` and the operations that keep the table of live workers.
-/

namespace Vibapp.Daemon

open Prog

/-! ## The KV document in an event -/

/-- `transact`, once for each transaction: the revision goes up by one, or to the target of a
running migration. -/
def KvDocument.commit (target : Option Nat) (commits : List (List (String × String)))
    (doc : KvDocument) : KvDocument :=
  commits.foldl (fun doc entries => ⟨target.getD (doc.revision + 1), entries⟩) doc

/-- The document that a worker reads and writes. -/
def Worker.document (worker : Worker) (d : Disk) : Option KvDocument :=
  if worker.kv then (d.dirs worker.place).bind Directory.kv else none

/-- Replace the document of a directory. -/
def Disk.putDocument (d : Disk) (place : Place) (doc : KvDocument) : Disk :=
  d.put place ((d.dirs place).map fun dir => { dir with kv := some doc })

/-- The revision a worker holds in memory after an event: that of the file where the guest read
or wrote the store, else the one it held. -/
def Turn.revisionAfter (turn : Turn) (target : Option Nat) (worker : Worker) (d : Disk) : Nat :=
  match worker.document d with
  | some doc =>
    if turn.reads ∨ turn.commits ≠ [] then (doc.commit target turn.commits).revision
    else worker.revision
  | none => worker.revision

/-- Change the document of a worker. -/
def Worker.onDocument (worker : Worker) (f : KvDocument → KvDocument) (d : Disk) : Disk :=
  match worker.document d with
  | some doc => d.putDocument worker.place (f doc)
  | none => d

/-- The directories after an event. -/
def Turn.effect (turn : Turn) (target : Option Nat) (worker : Worker) (d : Disk) : Disk :=
  worker.onDocument (KvDocument.commit target turn.commits) d

def nextTurn : Run Turn := do
  let t ← nextTick
  read fun env _ => env.turn t

/-! ## Requests to a worker -/

/-- `request` with one event. A rejection of UI input is bound to the revision only where the
guest attempted no transaction. -/
def request (worker : Worker) (target : Option Nat := none) : Run (Answer × Worker) := do
  let turn ← nextTurn
  let revision ← read fun _ w => turn.revisionAfter target worker w.disk
  modify (World.onDisk (turn.effect target worker))
  match turn.reply with
  | .ok answer => pure (answer, { worker with revision := revision })
  | .error e =>
    let rejected := turn.rejects ∧ turn.commits = [] ∧ revision = worker.revision
    raise (.service { e with
      uiRejectionRevision := if rejected then some revision else none })

/-- `KvBroker::load`. -/
def loadDocument (place : Place) (kv : Bool) (stateRevision : Nat) : Run Unit := do
  let dir ← read fun _ w => w.disk.dirs place
  match kv, dir.bind Directory.kv with
  | true, some doc =>
    if doc.revision = stateRevision then pure ()
    else raise (.service ⟨"incompatible-contract",
      "KV state schema, revision, or entry bounds are invalid", false, none⟩)
  | true, none => modify (World.onDisk fun d => d.putDocument place ⟨stateRevision, []⟩)
  | false, _ => pure ()

/-- `ServiceWorker(..)`: the process starts, loads its document and reports itself ready. -/
def spawn (place : Place) (kv : Bool) (generation : String) (stateRevision : Nat) :
    Run Worker := do
  let dir ← read fun _ w => w.disk.dirs place
  match dir with
  | none =>
    raise (.service ⟨"integrity-failure", "the generation state directory is unavailable", false,
      none⟩)
  | some dir =>
    -- the settings of the runtime context
    atomically id
    let start ← nextTurn
    match start.reply with
    | .error e => raise (.service e)
    | .ok _ =>
      loadDocument place kv stateRevision
      let ready ← nextTurn
      match ready.reply with
      | .error e => raise (.service e)
      | .ok _ => pure ⟨generation, place, dir.inode, kv, stateRevision⟩

/-- `rebind_state`. -/
def rebindState (worker : Worker) (place : Place) : Run (Answer × Worker) := do
  let dir ← read fun _ w => w.disk.dirs place
  match dir with
  | none => raise (.service ⟨"integrity-failure", "cannot inspect rebound state directory", false,
      none⟩)
  | some dir =>
    if dir.inode = worker.inode then
      let turn ← nextTurn
      match turn.reply with
      | .error e => raise (.service e)
      | .ok answer =>
        let revision := if worker.kv then (dir.kv.map KvDocument.revision).getD worker.revision
          else worker.revision
        pure (answer, { worker with place := place, revision := revision })
    else raise (.service ⟨"integrity-failure",
      "rebound state directory is not the activated candidate inode", false, none⟩)

/-- `migrate`: the guest's transactions go to the target revision, and at the end the document
has it. -/
def migrate (worker : Worker) (source target : Nat) : Run (Answer × Worker) := do
  let doc ← read fun _ w => worker.document w.disk
  if doc.any (fun doc => doc.revision ≠ source ∨ target ≠ source + 1) then
    raise (.service ⟨"stale-revision", "KV migration is not bound to the copied source revision",
      false, none⟩)
  else
    let (answer, worker) ← request worker (some target)
    modify (World.onDisk (worker.onDocument fun doc => { doc with revision := target }))
    pure (answer, { worker with revision := if worker.kv then target else worker.revision })

/-! ## Generations -/

/-- The record a generation is created for: an installed one, or the detached candidate. -/
inductive Slot
  | installed (appId : String)
  | candidate
deriving DecidableEq, Repr

def readSlot : Slot → Run App
  | .installed appId => getApp appId
  | .candidate => do
    let app ← read fun _ w => w.locals.candidateApp
    match app with
    | some app => pure app
    | none => raise .other

def modifySlot (f : App → App) : Slot → Run Unit
  | .installed appId => modifyApp appId f
  | .candidate => modifyLocals fun l => { l with candidateApp := l.candidateApp.map f }

/-- `_installed_manifest`. -/
def installedManifest (appId : String) (release : Release) : Run Json := do
  let package ← read fun _ w => w.disk.packages.get? (appId, release.packageDigest)
  match package with
  | none => refuse "integrity-failure" "installed package is unavailable"
  | some package =>
    if package.intact then pure package.manifest
    else refuse "integrity-failure" "installed package digest changed after install"

/-- `_require_activation_capabilities` of an installed app. -/
def requireActivation (appId : String) (app : App) : Run Unit := do
  let manifest ← installedManifest appId app.release
  check (requireActivationCapabilities manifest app.release.kvStorageLimitBytes "desktop")

/-- The `migration` argument of a generation. -/
structure Migration where
  sourceStateRevision : Nat
  targetStateRevision : Nat
  onMigrated : Answer → Run Unit

/-- The keyword arguments of `_create_service_generation`. -/
structure GenerationRequest where
  entrypoint : String
  reason : String
  guestStartReason : Option String := none
  place : Option Place := none
  stateRevision : Option Nat := none
  migration : Option Migration := none
  activateService : Bool := true
  replacesActiveGeneration : Bool := false

/-- The live service workers of an app. -/
def World.workersOf (w : World) (appId : String) : Nat :=
  (w.workers.keys.filter fun k => k.1 = appId).length

/-- `{generation} of {kind}`, a colon between the parts. -/
def identity (kind appId entrypoint : String) (sequence : Nat) : String :=
  kind ++ ":" ++ appId ++ ":" ++ entrypoint ++ ":" ++ toString sequence

/-- `worker.stop` where its error is suppressed. -/
def stopQuietly (worker : Worker) : Run Unit :=
  (do let _ ← request worker; pure ()).handle fun
    | .service _ => pure ()
    | e => raise e

/-- `app["service_instance_sequence"] += 1`. -/
def App.nextInstance (app : App) : App :=
  { app with serviceInstanceSequence := app.serviceInstanceSequence + 1 }

/-- The migration of a new generation, where one is asked for. -/
def migrateFirst (q : GenerationRequest) (worker : Worker) : Run Worker :=
  match q.migration with
  | none => pure worker
  | some m => do
    let (answer, worker) ← migrate worker m.sourceStateRevision m.targetStateRevision
    m.onMigrated answer
    pure worker

/-- The start event of a new generation, where it is to be a service. -/
def startFirst (q : GenerationRequest) (worker : Worker) : Run (Answer × Worker) :=
  if q.activateService = true then request worker else pure ({}, worker)

/-- The record of a new generation. -/
def newService (appId : String) (q : GenerationRequest) (app : App) (worker : Worker)
    (started : Answer) (report : Health) (now : Int) : Service where
  entrypoint := q.entrypoint
  state := if q.activateService then .running else .validated
  instance_ := some (identity "svc" appId q.entrypoint app.serviceInstanceSequence)
  generation := some worker.generation
  startReason := some q.reason
  guestStartReason := if q.activateService then some (q.guestStartReason.getD q.reason) else none
  guestExecution := true
  startDiagnostic := started.diagnostic
  health := some report
  eventCount := if q.activateService then 2 else 1
  startedAtUtc := some now
  packageDigest := some app.release.packageDigest
  stateRevision := some worker.revision

/-- The validation, the start and the health report of a new generation. -/
def attest (appId : String) (q : GenerationRequest) (app : App) (revision : Nat)
    (worker : Worker) : Run (Service × Worker) := do
  let (validated, worker) ← request worker
  refuseIf (validated.wellFormed = false) "malformed-output"
    "service runtime returned an invalid descriptor validation result"
  let (started, worker) ← startFirst q worker
  let (health, worker) ← request worker
  refuseIf (health.wellFormed = false) "malformed-output"
    "service runtime returned an invalid health report"
  refuseIf (worker.revision < revision) "malformed-output"
    "service runtime health omitted its non-regressing state revision"
  if health.health = .unhealthy then do
    stopQuietly worker
    refuse "internal" "service generation reported unhealthy during activation" true
  else do
    let now ← clock
    pure (newService appId q app worker started health.health now, worker)

/-- The part of `_create_service_generation` under its `try`. -/
def startGeneration (appId : String) (slot : Slot) (q : GenerationRequest) :
    Run (Service × Worker) := do
  let t ← nextTick
  let binary ← read fun env _ => env.runtimeBinary t
  match binary with
  | some e => raise (.service e)
  | none =>
    let app ← readSlot slot
    -- the component is read from the installed package
    let _ ← installedManifest appId app.release
    modifySlot App.nextInstance slot
    let app ← readSlot slot
    let generation := identity "gen" appId q.entrypoint app.serviceInstanceSequence
    let revision := q.stateRevision.getD app.state.revision
    let worker ← spawn (q.place.getD (.active appId)) app.release.kvStorageLimitBytes.isSome
      generation revision
    let worker ← migrateFirst q worker
    attest appId q app revision worker

/-- `_create_service_generation`. -/
def createServiceGeneration (appId : String) (slot : Slot) (q : GenerationRequest) :
    Run (Service × Worker) := do
  let app ← readSlot slot
  refuseIf (app.release.runtimeWorld ∉
      ["ui-only-reference", "service-only-reference", "hybrid-reference"])
    "unsupported-version" "installed runtime world is not generation-capable"
  requireActivation appId app
  refuseIf (q.activateService = true ∧ app.release.runtimeWorld = "ui-only-reference")
    "unsupported-surface" "UI-only generation cannot own a service"
  let mine ← read fun _ w => w.workersOf appId
  refuseIf (q.activateService = true ∧ q.replacesActiveGeneration = false ∧
      mine ≥ maxActiveServiceWorkersPerApp)
    "resource-limit" "app active service worker ceiling is reached" true
  let all ← read fun _ w => w.workers.size
  refuseIf (q.activateService = true ∧ q.replacesActiveGeneration = false ∧
      all ≥ maxActiveServiceWorkers)
    "resource-limit" "daemon active service worker ceiling is reached" true
  (startGeneration appId slot q).handle fun
    | .service e => refuse e.code e.message e.retryable
    | e => raise e

/-- `_activate_service_generation`. -/
def activateServiceGeneration (appId : String) (q : GenerationRequest) : Run Service := do
  let (service, worker) ← createServiceGeneration appId (.installed appId) q
  modifyApp appId fun app => { app with state := { app.state with
    revision := max app.state.revision (service.stateRevision.getD 0) } }
  modify fun w => { w with workers := w.workers.set (appId, q.entrypoint) worker }
  pure service

/-! ## Stopping -/

/-- `_service_error` at this instant. -/
def serviceFault (code message : String) (retryable : Bool) (operation : String) :
    Run ServiceFault := do
  let now ← clock
  pure ⟨code, truncated 512 message, retryable, operation, now⟩

/-- Take a worker out of the table. -/
def popWorker (key : String × String) : Run (Option Worker) := do
  let worker ← read fun _ w => w.workers.get? key
  modify fun w => { w with workers := w.workers.erase key }
  pure worker

/-- `_stop_service_generation`: the fault of the stop event, if it had one. -/
def stopServiceGeneration (appId entrypoint : String) : Run (Option ServiceFault) := do
  let worker ← popWorker (appId, entrypoint)
  match worker with
  | none => pure none
  | some worker =>
    (do let _ ← request worker; pure none).handle fun
      | .service e => some <$> serviceFault e.code e.message e.retryable "stop"
      | e => raise e

/-- Change one service of an app. -/
def App.onService (key : String) (f : Service → Service) (app : App) : App :=
  match app.services.get? key with
  | some service => { app with services := app.services.set key (f service) }
  | none => app

/-- Change one surface of an app. -/
def App.onSurface (key : String) (f : Surface → Surface) (app : App) : App :=
  match app.surfaces.get? key with
  | some surface => { app with surfaces := app.surfaces.set key (f surface) }
  | none => app

/-- Drop the UI workers of an app. -/
def World.dropUiWorkers (appId : String) (w : World) : World :=
  { w with
    uiWorkers := w.uiWorkers.keys.foldl
      (fun d k => if k.1 = appId then d.erase k else d) w.uiWorkers
    uiRefreshAt := w.uiWorkers.keys.foldl
      (fun d k => if k.1 = appId then d.erase k else d) w.uiRefreshAt }

/-- One running service in `_quiesce`. -/
def quiesceService (appId reason key : String) : Run Unit := do
  let fault ← stopServiceGeneration appId key
  let now ← clock
  modifyApp appId (App.onService key fun service => { service with
    state := .stopped
    stopReason := some reason
    stoppedAtUtc := some now
    lastError := fault <|> service.lastError })

/-- `close_reason` of a surface. -/
def closeSurface (appId reason key : String) : Run Unit := do
  let now ← clock
  modifyApp appId (App.onSurface key fun surface => { surface with
    isOpen := false
    closedAtUtc := some now
    closeReason := some reason })

/-- The services of an app that run. -/
def App.running (app : App) : List String :=
  (app.services.entries.filter fun p => p.2.state = .running).map Prod.fst

/-- The surfaces of an app that are open. -/
def App.openSurfaces (app : App) : List String :=
  (app.surfaces.entries.filter fun p => p.2.isOpen).map Prod.fst

/-- `_quiesce`. -/
def quiesce (appId reason : String) (closeSurfaces : Bool := true) : Run Nat := do
  modify (World.dropUiWorkers appId)
  let app ← getApp appId
  each (quiesceService appId reason) app.running
  whenTrue (closeSurfaces = true) (each (closeSurface appId reason) app.openSurfaces)
  pure app.running.length

end Vibapp.Daemon
