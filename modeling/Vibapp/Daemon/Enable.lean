import Vibapp.Daemon.Worker

/-!
# Enabling an app

`enable` starts the services that ask for it on a copy of the data directory, behind a journal in
the app record: the copy becomes the active directory, and one write of the document commits.
`recoverPendingEnable` is what the next start of the daemon does with a journal it finds.
-/

namespace Vibapp.Daemon

open Prog

/-- The service entrypoints with an `on-enable` trigger, by id. -/
def Release.onEnable (release : Release) : List EntrypointRecord :=
  (release.serviceEntrypoints.filter fun e => e.triggers.contains "on-enable").insertionSort
    fun a b => a.id ≤ b.id

/-- The ids of those entrypoints, as the journal names them. -/
def Release.onEnableIds (release : Release) : List String := release.onEnable.map (·.id)

/-- One generation on the candidate data. -/
def startOnEnable (appId : String) (root : RootId) (entrypoint : EntrypointRecord) : Run Unit := do
  let candidate ← readSlot .candidate
  let (service, worker) ← createServiceGeneration appId .candidate {
    entrypoint := entrypoint.id
    reason := "enabled"
    place := some (.candidate root)
    stateRevision := some candidate.state.revision }
  modifyLocals fun l => { l with
    candidateApp := l.candidateApp.map fun app => { app with
      state := { app.state with
        revision := max app.state.revision (service.stateRevision.getD 0) }
      services := app.services.set entrypoint.id service }
    started := l.started ++ [(service, worker)] }

/-- A started worker goes over to the active directory. -/
def rebindStarted (appId : String) (finalRevision : Nat) (p : Service × Worker) : Run Unit := do
  let (answer, worker) ← rebindState p.2 (.active appId)
  refuseIf (answer.wellFormed = false ∨ worker.revision ≠ finalRevision)
    "integrity-failure" "enabled service did not bind the committed state revision"
  let service := { p.1 with stateRevision := some finalRevision }
  modifyLocals fun l => { l with
    candidateApp := l.candidateApp.map (App.onService service.entrypoint fun _ => service)
    started := l.started.map fun q =>
      if q.1.entrypoint = service.entrypoint then (service, worker) else q }

/-- The two renames. -/
def switchDirectories (active : Place) (root : RootId) : Run Unit := do
  let exists_ ← dirExists active
  whenTrue (exists_ = true) (replaceDir active (.previous root))
  replaceDir (.candidate root) active
  fsyncDirectory
  fsyncDirectory
  modifyLocals fun l => { l with stateSwapped := true }

/-- The record that `_enable` commits. -/
def committedApp (journal : EnableTransaction) (candidate : App) : App :=
  { candidate with
    enableTransaction := some { journal with status := .committed }
    enabled := true
    lifecycleState := .enabled
    guestExecutionPerformed := true
    lastError := none }

/-- Put the started workers into the table. -/
def World.register (appId : String) (started : List (Service × Worker)) (w : World) : World :=
  { w with
    workers := started.foldl (fun d p => d.set (appId, p.1.entrypoint) p.2) w.workers }

/-- `_enable` under its `try`: up to the write that commits. -/
def startAndSwitch (appId : String) (root : RootId) (journal : EnableTransaction)
    (onEnable : List EntrypointRecord) : Run Unit := do
  each (startOnEnable appId root) onEnable
  modifyApp appId fun app =>
    { app with enableTransaction := some { journal with status := .switching } }
  writeState
  switchDirectories (.active appId) root
  let candidate ← readSlot .candidate
  let started ← read fun _ w => w.locals.started
  each (rebindStarted appId candidate.state.revision) started
  let candidate ← readSlot .candidate
  let started ← read fun _ w => w.locals.started
  modifyApp appId fun _ => committedApp journal candidate
  modify (World.register appId started)
  writeState

/-- The previous data directory takes the place of the active one. -/
def bringBack (appId : String) (root : RootId) : Run Unit := do
  let active ← dirExists (.active appId)
  whenTrue (active = true) (removeDir (.active appId))
  replaceDir (.previous root) (.active appId)
  fsyncDirectory

/-- The `except Exception` of `_enable`. -/
def undoEnable (appId : String) (root : RootId) (original : App) (e : Exn) : Run Unit := do
  let started ← read fun _ w => w.locals.started
  each (fun p : Service × Worker => do
      let _ ← popWorker (appId, p.1.entrypoint)
      (do let _ ← request p.2; pure ()).handle fun _ => pure ())
    started.reverse
  let previous ← dirExists (.previous root)
  let swapped ← read fun _ w => w.locals.stateSwapped
  if previous = true then bringBack appId root
  else
    refuseIf (swapped = true) "integrity-failure" "failed enable lost its previous state snapshot"
  modifyApp appId fun _ => original
  removeRoot root
  writeState
  raise e

/-- What `_enable` does once the new state is committed: it drops the transaction root where it
can, and logs. -/
def finishEnable (appId principal : String) (root : RootId) : Run Unit := do
  (do
    let exists_ ← rootExists root
    whenTrue (exists_ = true) (do removeRoot root; fsyncDirectory)).handle fun
      | .os => pure ()
      | e => raise e
  let left ← rootExists root
  whenTrue (left = false) (modifyApp appId fun app => { app with enableTransaction := none })
  let started ← read fun _ w => w.locals.started
  each (fun _ => appendAudit "service-start" principal (some appId) "running") started
  appendAudit "enable" principal (some appId) "enabled"
  writeState

/-- The transaction root, with a copy of the data directory in it. -/
def stageCandidate (appId : String) (root : RootId) : Run Unit := do
  makeRoot root
  copyStateTree (.active appId) (.candidate root)
  fsyncDirectory
  fsyncDirectory

/-- `_enable` where some service starts with the app. -/
def enableServices (appId principal : String) (app : App) : Run CommandOutcome := do
  let t ← nextTick
  let transactionId ← read fun env _ => env.uuid t
  let root := (appId, "enable-" ++ transactionId)
  -- the parent of the transaction root
  atomically id
  stageCandidate appId root
  let startedAt ← clock
  let journal : EnableTransaction := {
    transactionId := transactionId
    status := .preparing
    appId := appId
    packageDigest := app.release.packageDigest
    transactionRoot := root
    originalStateRevision := app.state.revision
    serviceEntrypoints := app.release.onEnableIds
    startedAtUtc := startedAt }
  modifyApp appId fun app => { app with enableTransaction := some journal }
  writeState
  modifyLocals fun l => { l with candidateApp := some app, stateSwapped := false, started := [] }
  (startAndSwitch appId root journal app.release.onEnable).handle (undoEnable appId root app)
  finishEnable appId principal root
  pure .accepted

/-- `_enable`. -/
def enable (appId principal : String) : Run CommandOutcome := do
  let app ← getApp appId
  refuseIf (app.quarantined = true) "resource-limit"
    "app is quarantined after a bounded crash loop"
  requireActivation appId app
  if app.enabled = true then pure .accepted
  else if app.release.onEnable = [] then do
    modifyApp appId fun app =>
      { app with enabled := true, lifecycleState := .enabled, lastError := none }
    appendAudit "enable" principal (some appId) "enabled"
    pure .accepted
  else enableServices appId principal app

/-! ## Recovery -/

/-- The checks that bind the journal to its app. -/
def bindEnableJournal (appId : String) (app : App) (journal : EnableTransaction) : Run Unit := do
  refuseIf (journal.appId ≠ appId) "integrity-failure" "pending enable app binding changed"
  refuseIf (journal.packageDigest ≠ app.release.packageDigest)
    "integrity-failure" "pending enable package binding changed"
  refuseIf (journal.originalStateRevision = 0)
    "integrity-failure" "pending enable state revision is invalid"
  refuseIf (journal.serviceEntrypoints ≠ app.release.onEnableIds)
    "integrity-failure" "pending enable entrypoint binding changed"
  refuseIf (journal.transactionRoot ≠ (appId, "enable-" ++ journal.transactionId))
    "integrity-failure" "pending enable paths are not canonical"

/-- The transaction root and the journal go. -/
def dropEnableJournal (appId : String) (root : RootId) (result : String) : Run Unit := do
  removeRoot root
  modifyApp appId fun app => { app with enableTransaction := none }
  appendAudit "enable-recovery" "daemon" (some appId) result

/-- The branch of a committed journal. -/
def keepEnabled (appId : String) (app : App) (journal : EnableTransaction) : Run Unit := do
  refuseIf (app.enabled = false) "integrity-failure"
    "committed enable journal lacks enabled state"
  let active ← dirExists (.active appId)
  refuseIf (active = false ∨ app.state.revision < journal.originalStateRevision)
    "integrity-failure" "committed enable active state is unavailable"
  dropEnableJournal appId journal.transactionRoot "committed"

/-- The original data directory comes back, where it is not in place. -/
def restoreData (appId : String) (root : RootId) : Run Unit := do
  let previous ← dirExists (.previous root)
  if previous = true then bringBack appId root
  else do
    let active ← dirExists (.active appId)
    refuseIf (active = false) "integrity-failure"
      "pending enable lacks its original active state"

/-- The branch of a journal that is not committed. -/
def restoreDisabled (appId : String) (app : App) (journal : EnableTransaction) : Run Unit := do
  refuseIf (app.enabled = true) "integrity-failure" "uncommitted enable journal has enabled state"
  restoreData appId journal.transactionRoot
  dropEnableJournal appId journal.transactionRoot "rolled-back"

/-- `_recover_pending_enable`. -/
def recoverPendingEnable (appId : String) : Run Bool := do
  let app ← getApp appId
  match app.enableTransaction with
  | none => pure false
  | some journal => do
    bindEnableJournal appId app journal
    if journal.status = .committed then keepEnabled appId app journal
    else restoreDisabled appId app journal
    pure true

/-- A new process has the document as it was saved, and no worker. -/
def World.restarted (w : World) : World :=
  { w with mem := w.saved, workers := ∅, uiWorkers := ∅, uiRefreshAt := ∅ }

/-- A start of the daemon, as far as the enable journal of an app is concerned. -/
def restartEnable (appId : String) : Run Unit := do
  modify World.restarted
  let changed ← recoverPendingEnable appId
  whenTrue (changed = true) writeState

end Vibapp.Daemon
