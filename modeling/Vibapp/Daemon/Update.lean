import Mathlib
import Vibapp.Daemon.Enable

/-!
# Updating an app

`update` stages a verified package, migrates and validates it on a copy of the data directory, and
switches over behind a journal in the app record. Where anything fails after the journal is
written, the error path (`undoUpdate`) puts the previous generation back; a journal that is found
at the next start goes to `recoverPendingUpdate`.
-/

namespace Vibapp.Daemon

open Prog

/-! ## The candidate -/

/-- The fields of an app record that come from the candidate. -/
def VerifiedCandidate.release (candidate : VerifiedCandidate) : Release where
  version := candidate.appVersion
  kind := candidate.appKind
  displayName := candidate.displayName
  publisherId := candidate.publisherId
  publisherDisplayName := candidate.publisherDisplayName
  permissions := candidate.permissions
  presentation := candidate.presentation
  packageDigest := candidate.packageDigest
  componentSha256 := candidate.componentDigest
  manifestSha256 := candidate.manifestDigest
  runtimeWorld := candidate.runtimeWorld
  uiEntrypoints := candidate.uiEntrypoints
  serviceEntrypoints := candidate.serviceEntrypoints
  allowedDataDispositions := candidate.allowedDispositions
  defaultDataDisposition := candidate.defaultDisposition
  capabilityContract := candidate.capabilityContract
  kvStorageLimitBytes := candidate.kvStorageLimitBytes

/-- `_candidate_generation_app`. -/
def candidateGenerationApp (current : App) (candidate : VerifiedCandidate)
    (targetStateRevision : Nat) : App :=
  { current with
    release := candidate.release
    state := ⟨candidate.stateSchema, targetStateRevision, candidate.packageDigest⟩
    services := ∅ }

/-- `_stage_package`: a copy next to the installed packages, renamed once it is verified. -/
def stagePackage (appId : String) (candidate : VerifiedCandidate) : Run Unit := do
  let installed ← read fun _ w => w.disk.packages.get? (appId, candidate.packageDigest)
  match installed with
  | some package =>
    refuseIf (package.intact = false) "integrity-failure" "installed package digest changed"
  | none => do
    let t ← nextTick
    let name ← read fun env _ => ".stage-" ++ env.uuid t
    let place := fun (name : String) (intact : Bool) (d : Disk) =>
      { d with packages := d.packages.set (appId, name) ⟨candidate.manifest, intact⟩ }
    storage (World.onDisk (place candidate.packageDigest true)) fun env t w =>
      -- an exception removes the copy, the end of the process does not
      if env.fault t = some .stops ∧ env.written t = true then w.onDisk (place name false) else w

/-- The identity of a UI entrypoint. -/
def EntrypointRecord.uiIdentity (e : EntrypointRecord) : String × String × Option String :=
  (e.id, e.kind, asStr e.initialRoute)

/-- The identity of a service entrypoint. -/
def EntrypointRecord.serviceIdentity (e : EntrypointRecord) :
    String × String × List String × Option Int :=
  (e.id, e.kind, e.triggers, e.healthCheckIntervalSeconds)

/-- The same members, in any order. -/
def SameMembers {α : Type} (a b : List α) : Prop := a ⊆ b ∧ b ⊆ a

instance {α : Type} [DecidableEq α] (a b : List α) : Decidable (SameMembers a b) :=
  inferInstanceAs (Decidable (_ ∧ _))

/-- What binds a candidate to the installed app. -/
def admitUpdate (appId : String) (app : App) (candidate : VerifiedCandidate) : Run Unit := do
  refuseIf (candidate.appId ≠ appId) "forged-identifier" "update candidate belongs to another app"
  refuseIf (candidate.publisherId ≠ app.release.publisherId)
    "consent-required" "publisher changes require a separate trust decision"
  refuseIf (candidate.appKind ≠ app.release.kind ∨
      candidate.runtimeWorld ≠ app.release.runtimeWorld)
    "incompatible-contract" "bounded update cannot change app kind or runtime world"
  refuseIf (
      ¬ SameMembers (app.release.uiEntrypoints.map EntrypointRecord.uiIdentity)
        (candidate.uiEntrypoints.map EntrypointRecord.uiIdentity) ∨
      ¬ SameMembers (app.release.serviceEntrypoints.map EntrypointRecord.serviceIdentity)
        (candidate.serviceEntrypoints.map EntrypointRecord.serviceIdentity))
    "incompatible-contract" "bounded update cannot change entrypoint identity"
  refuseIf (candidate.capabilityContract ≠ app.release.capabilityContract)
    "consent-required" "capability changes require a separate permission plan"
  refuseIf (¬ (candidate.migratableFromMin ≤ app.state.schema ∧
      app.state.schema ≤ candidate.migratableFromMax))
    "incompatible-contract" "candidate cannot migrate the installed state schema"
  refuseIf (candidate.stateSchema < app.state.schema)
    "incompatible-contract" "update cannot silently downgrade the state schema"
  refuseIf (app.running.length > maxActiveServiceWorkersPerApp)
    "resource-limit" "app has more live services than its per-app generation ceiling"

/-- The services that run, sorted. -/
def App.runningEntrypoints (app : App) : List String :=
  app.running.insertionSort fun a b => a ≤ b

/-- The entrypoints that validate the candidate. -/
def validationEntrypoints (candidate : VerifiedCandidate) (running : List String) :
    List String :=
  if running ≠ [] then running
  else
    match candidate.serviceEntrypoints, candidate.uiEntrypoints with
    | e :: _, _ => [e.id]
    | [], e :: _ => [e.id]
    | [], [] => []

/-! ## The journal -/

/-- `_previous_generation`. -/
def previousGeneration (app : App) (running : List String) : PreviousGeneration :=
  ⟨app.release, app.state, app.surfaces, running⟩

/-- `_restore_previous_metadata`. -/
def restorePreviousMetadata (previous : PreviousGeneration) (app : App) : App :=
  { app with
    release := previous.release
    state := previous.state
    surfaces := previous.surfaces }

/-- `_append_update_history`. -/
def UpdateRecord.append (transaction : UpdateTransaction) (update : UpdateRecord) :
    UpdateRecord :=
  let history := update.history ++ [transaction]
  { update with
    history := history.drop (history.length - maxUpdateHistory)
    lastTransaction := some transaction }

/-- The record of an app whose candidate is being observed. -/
def UpdateRecord.observed (update : UpdateRecord) (rollback : RollbackRecord)
    (transaction : UpdateTransaction) : UpdateRecord :=
  UpdateRecord.append transaction
    { update with status := .observationWindow, pending := none, previous := some rollback }

/-- The record of an app whose candidate failed. -/
def UpdateRecord.rolledBack (update : UpdateRecord) (transaction : UpdateTransaction) :
    UpdateRecord :=
  UpdateRecord.append transaction { update with status := .rolledBack, pending := none }

/-- `_replace_update_history`. -/
def UpdateRecord.replace (transaction : UpdateTransaction) (update : UpdateRecord) :
    UpdateRecord :=
  if update.history.any fun t => t.transactionId = transaction.transactionId then
    let replaceFirst := fun (t : UpdateTransaction) (rest : List UpdateTransaction × Bool) =>
      if rest.2 = false ∧ t.transactionId = transaction.transactionId then
        (transaction :: rest.1, true)
      else (t :: rest.1, rest.2)
    { update with
      history := (update.history.foldr replaceFirst ([], false)).1
      lastTransaction := some transaction }
  else update.append transaction

/-- `_inject_update_fault`. -/
def injectUpdateFault (phase : String) : Run Unit := do
  let fault ← read fun env _ => env.updateFault
  refuseIf (fault = some phase) "internal" ("injected update fault at " ++ phase) true

/-- A change of the journal of the running transaction. -/
def modifyTransaction (f : UpdateTransaction → UpdateTransaction) : Run Unit :=
  modifyLocals fun l => { l with transaction := l.transaction.map f }

/-- `app["update"]["status"] = status` with a copy of the journal, written out. -/
def journalUpdate (appId : String) (status : UpdateStatus) : Run Unit := do
  let transaction ← read fun _ w => w.locals.transaction
  modifyApp appId fun app =>
    { app with update := { app.update with status := status, pending := transaction } }
  writeState

/-- What an update works with once its package is staged. -/
structure Plan where
  candidate : VerifiedCandidate
  root : RootId
  transactionId : String
  running : List String
  source : Nat
  /-- The record before the update. -/
  original : App

def Plan.target (plan : Plan) : Nat := plan.source + 1

/-- The transaction as it is first written. -/
def Plan.transaction (plan : Plan) (startedAtUtc : Int) : UpdateTransaction where
  transactionId := plan.transactionId
  status := .prepared
  phase := .prepared
  fromPackageDigest := plan.original.release.packageDigest
  toPackageDigest := plan.candidate.packageDigest
  fromVersion := plan.original.release.version
  toVersion := plan.candidate.appVersion
  fromStateSchema := plan.original.state.schema
  toStateSchema := plan.candidate.stateSchema
  sourceStateRevision := plan.source
  targetStateRevision := plan.target
  migration := .pending
  activationHealth := .pending
  startedAtUtc := startedAtUtc
  transactionRoot := plan.root
  previous := some (previousGeneration plan.original plan.running)

/-! ## Validation -/

/-- `_kv_state_evidence`, of which the revision is read. -/
def kvStateEvidence (place : Place) : Run Nat := do
  let doc ← read fun _ w => (w.disk.dirs place).bind Directory.kv
  match doc with
  | some doc => pure doc.revision
  | none => refuse "not-found" "required file is unavailable: kv-state.json"

/-- `record_migration`. -/
def recordMigration (plan : Plan) (answer : Answer) : Run Unit := do
  refuseIf (answer.wellFormed = false ∨ answer.migration ∉ [.unchanged, .migrated])
    "malformed-output" "guest migration result is not bound to the isolated target revision"
  whenTrue (plan.candidate.kvStorageLimitBytes.isSome = true) do
    let revision ← kvStateEvidence (.candidate plan.root)
    refuseIf (revision ≠ plan.target) "stale-revision"
      "migrated KV bytes were not committed at the target revision"
  modifyTransaction fun t => { t with migration := answer.migration, phase := .postMigration }
  injectUpdateFault "after-migration"
  modifyTransaction fun t => { t with phase := .activation }

/-- Whether the generations of the candidate run as services. -/
def Plan.activates (plan : Plan) : Bool := plan.candidate.runtimeWorld ≠ "ui-only-reference"

/-- The generation that validates an entrypoint. The first one migrates the data. -/
def Plan.request (plan : Plan) (entrypoint : String) (index : Nat) : GenerationRequest where
  entrypoint := entrypoint
  reason := "update"
  place := some (.candidate plan.root)
  stateRevision := some (if index = 0 then plan.source else plan.target)
  migration := if index = 0 then some ⟨plan.source, plan.target, recordMigration plan⟩ else none
  activateService := plan.activates
  replacesActiveGeneration := entrypoint ∈ plan.running

/-- One generation on the candidate data. It stays where it replaces a live service. -/
def validateEntrypoint (appId : String) (plan : Plan) (p : String × Nat) : Run Unit := do
  let (service, worker) ← createServiceGeneration appId .candidate (plan.request p.1 p.2)
  modifyLocals fun l => { l with reports := l.reports ++ [service.health.getD .healthy] }
  if p.1 ∈ plan.running then
    modifyLocals fun l => { l with started := l.started ++ [(service, worker)] }
  else if plan.activates = true then do
    let _ ← request worker
    pure ()
  else pure ()

/-- The revision that the candidate data has after validation. -/
def activatedStateRevision (plan : Plan) : Run Nat :=
  if plan.candidate.kvStorageLimitBytes.isSome = true then do
    let revision ← kvStateEvidence (.candidate plan.root)
    refuseIf (revision < plan.target) "stale-revision"
      "candidate activation regressed the migrated state revision"
    modifyTransaction fun t => { t with activatedStateRevision := some revision }
    pure revision
  else pure plan.target

/-- `_update` under its `try`, until the candidate is validated. -/
def validateCandidate (appId : String) (plan : Plan) : Run Nat := do
  injectUpdateFault "after-journal"
  modifyTransaction fun t => { t with phase := .migration }
  each (validateEntrypoint appId plan) (validationEntrypoints plan.candidate plan.running).zipIdx
  let revision ← activatedStateRevision plan
  modifyLocals fun l => { l with
    candidateApp := l.candidateApp.map fun app =>
      { app with state := { app.state with revision := revision } }
    started := l.started.map fun p => ({ p.1 with stateRevision := some revision }, p.2) }
  let reports ← read fun _ w => w.locals.reports
  modifyTransaction fun t => { t with
    activationHealth := if .degraded ∈ reports then .degraded else .healthy
    status := .validated
    phase := .validated }
  journalUpdate appId .validated
  pure revision

/-! ## The switch -/

/-- The journal says that the switch begins, and the old generations stop. -/
def enterSwitch (appId : String) : Run Unit := do
  modifyTransaction fun t => { t with status := .switching, phase := .switching }
  journalUpdate appId .switching
  let _ ← quiesce appId "update" false
  modifyLocals fun l => { l with oldQuiesced := true }

/-- A worker of the candidate goes over to the active directory. -/
def rebindCandidate (appId : String) (revision : Nat) (p : Service × Worker) : Run Unit := do
  let (answer, worker) ← rebindState p.2 (.active appId)
  refuseIf (answer.wellFormed = false ∨ worker.revision ≠ revision) "integrity-failure"
    "candidate worker did not bind the activated state revision"
  modifyLocals fun l => { l with
    started := l.started.map fun q => if q.1.entrypoint = p.1.entrypoint then (p.1, worker) else q }

/-- The record of the activated candidate. -/
def activatedApp (plan : Plan) (started : List (Service × Worker)) (candidate app : App) : App :=
  { candidate with
    update := app.update
    serviceInstanceSequence := max app.serviceInstanceSequence candidate.serviceInstanceSequence
    enabled := plan.original.enabled
    quarantined := false
    lastError := none
    lifecycleState := if plan.original.enabled = true then .enabled else .disabled
    services := started.foldl (fun d p => d.set p.1.entrypoint p.1) candidate.services }

/-- The rollback record of the observation window. -/
def Plan.rollback (plan : Plan) (now : Int) : RollbackRecord where
  transactionId := plan.transactionId
  fromPackageDigest := plan.original.release.packageDigest
  toPackageDigest := plan.candidate.packageDigest
  transactionRoot := plan.root
  previous := previousGeneration plan.original plan.running
  observationStartedAtUtc := now
  observationDeadlineUtc := now + observationWindowSeconds
  retention := "automatic-rollback-window"

/-- `_update` under its `try`, after the switch. -/
def activateCandidate (appId principal : String) (plan : Plan) (revision : Nat) : Run Unit := do
  let started ← read fun _ w => w.locals.started
  each (rebindCandidate appId revision) started
  injectUpdateFault "after-state-swap"
  let candidate ← readSlot .candidate
  let started ← read fun _ w => w.locals.started
  modifyApp appId (activatedApp plan started candidate)
  modify (World.register appId started)
  let now ← clock
  modifyTransaction fun t => { t with
    status := .observationWindow
    phase := .observation
    completedAtUtc := some now
    observationStartedAtUtc := some now
    observationDeadlineUtc := some (now + observationWindowSeconds)
    previous := none }
  let transaction ← read fun _ w => w.locals.transaction
  modifyApp appId fun app =>
    { app with update := transaction.elim app.update (app.update.observed (plan.rollback now)) }
  appendAudit "update-activated" principal (some appId) "observation-window"
  writeState

/-- `_update` under its `try`, until the data directories are switched. -/
def untilSwitch (appId : String) (plan : Plan) : Run Nat := do
  let revision ← validateCandidate appId plan
  enterSwitch appId
  pure revision

/-- `_update` under its `try`. -/
def switchCandidate (appId principal : String) (plan : Plan) : Run Unit := do
  let revision ← untilSwitch appId plan
  switchDirectories (.active appId) plan.root
  activateCandidate appId principal plan revision

/-! ## The error path -/

/-- The stages of a transaction that failed. -/
def UpdateTransaction.failed (t : UpdateTransaction) : UpdateTransaction :=
  match t.phase with
  | .migration => { t with migration := .failed, activationHealth := .notRun }
  | .activation => { t with activationHealth := .failed }
  | .postMigration => { t with activationHealth := .notRun }
  | _ => if t.migration = .pending then { t with migration := .notRun } else t

/-- A service of the previous generation, started again or failed. -/
def reviveService (appId entrypoint : String) : Run Unit := do
  let service ← (activateServiceGeneration appId { entrypoint := entrypoint, reason := "update" }).handle
    fun
    | .daemon e => do
      let fault ← serviceFault e.code e.message e.retryable "rollback-recovery"
      pure { entrypoint := entrypoint, state := .failed, lastError := some fault }
    | e => raise e
  modifyApp appId fun app => { app with services := app.services.set entrypoint service }

/-- The record before the update, with its services started again where they were stopped. -/
def restoreRecord (appId : String) (plan : Plan) : Run Unit := do
  modifyApp appId fun _ => plan.original
  let quiesced ← read fun _ w => w.locals.oldQuiesced
  whenTrue (quiesced = true) do
    modifyApp appId fun app => { app with services := ∅ }
    each (reviveService appId) plan.running

/-- What the error path makes of the exception. -/
def updateError : Exn → Option DaemonError
  | .daemon e => some e
  | .service e => some ⟨"internal", e.message, true⟩
  | .os => some ⟨"internal", "", true⟩
  | .other => none

/-- The transaction root and the candidate package go, and the record says why. -/
def closeUpdate (appId principal : String) (plan : Plan) (e : DaemonError) : Run Unit := do
  removeRoot plan.root
  removePackage appId plan.candidate.packageDigest
  let now ← clock
  modifyTransaction fun t => { t with
    previous := none
    status := .rolledBack
    completedAtUtc := some now
    rollbackReason := some e.message }
  let transaction ← read fun _ w => w.locals.transaction
  modifyApp appId fun app => { app with
    update := transaction.elim app.update app.update.rolledBack
    lifecycleState := if app.enabled = true then .enabled else .disabled }
  appendAudit "update-rollback" principal (some appId) "rolled-back"
  writeState

/-- The workers of the candidate are terminated. -/
def terminateCandidate (appId : String) : Run Unit := do
  modifyTransaction UpdateTransaction.failed
  let started ← read fun _ w => w.locals.started
  modify fun w => { w with
    workers := started.foldl (fun d p => d.erase (appId, p.1.entrypoint)) w.workers }

/-- The `except` clause of `_update`, up to the error it raises again. -/
def undoUpdate (appId principal : String) (plan : Plan) (e : DaemonError) : Run Unit := do
  terminateCandidate appId
  let swapped ← read fun _ w => w.locals.stateSwapped
  let previous ← dirExists (.previous plan.root)
  whenTrue (swapped = true ∧ previous = true) (bringBack appId plan.root)
  restoreRecord appId plan
  closeUpdate appId principal plan e

/-- The journal goes into the record in memory, and is written out; where that fails, the staged
candidate goes. -/
def openUpdate (appId principal : String) (plan : Plan) : Run Unit := do
  let startedAt ← clock
  modifyLocals fun l => { l with transaction := some (plan.transaction startedAt) }
  modifyApp appId fun app => { app with
    update := { app.update with
      status := .prepared
      pending := some (plan.transaction startedAt) }
    lifecycleState := .updatePrepared }
  appendAudit "update-staged" principal (some appId) "prepared"
  writeState.handle fun e => do
    modifyApp appId fun _ => plan.original
    removeRoot plan.root
    removePackage appId plan.candidate.packageDigest
    raise e

/-- The candidate package and a copy of the data, next to those in use. -/
def stageUpdate (appId : String) (app : App) (candidate : VerifiedCandidate) : Run Plan := do
  stagePackage appId candidate
  let t ← nextTick
  let transactionId ← read fun env _ => "update-" ++ env.uuid t
  let root := (appId, transactionId)
  (do
    makeRoot root
    copyStateTree (.active appId) (.candidate root)).handle fun e => do
      removeRoot root
      removePackage appId candidate.packageDigest
      raise e
  pure ⟨candidate, root, transactionId, app.runningEntrypoints, app.state.revision, app⟩

/-- `_update` up to its journal. There is nothing to do where the package is the installed one. -/
def prepareUpdate (appId principal packageDigest : String) (promoted : Bool) :
    Run (Option Plan) := do
  refuseIf (promoted = false) "consent-required"
    "update requires an explicit verifier promotion record"
  let app ← getApp appId
  if packageDigest = app.release.packageDigest then pure none
  else do
    refuseIf (app.update.status = .observationWindow) "upgrade-in-progress"
      "another candidate is still inside its rollback observation window"
    let t ← nextTick
    let verified ← read fun env _ => env.verify t packageDigest
    let candidate ← check verified
    admitUpdate appId app candidate
    let plan ← stageUpdate appId app candidate
    openUpdate appId principal plan
    let app ← getApp appId
    modifyLocals fun l => { l with
      candidateApp := some (candidateGenerationApp app plan.candidate plan.target)
      reports := []
      started := []
      oldQuiesced := false
      stateSwapped := false }
    pure (some plan)

/-- `_update` from its journal on. -/
def transactUpdate (appId principal : String) (plan : Plan) : Run Unit :=
  (switchCandidate appId principal plan).handle fun e =>
    match updateError e with
    | some error => do
      undoUpdate appId principal plan error
      raise (.daemon error)
    | none => raise e

/-- `_update`. -/
def update (appId principal packageDigest : String) (promoted : Bool) : Run CommandOutcome := do
  let plan ← prepareUpdate appId principal packageDigest promoted
  match plan with
  | none => pure .accepted
  | some plan => do
    transactUpdate appId principal plan
    pure .accepted

/-! ## Recovery -/

/-- What a start of the daemon makes of a journal. -/
def UpdateTransaction.recovered (t : UpdateTransaction) (now : Int) : UpdateTransaction :=
  { t with
    previous := none
    status := .rolledBack
    completedAtUtc := some now
    rollbackReason := some "daemon-recovery-restored-previous-generation" }

end Vibapp.Daemon
