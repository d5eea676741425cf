import Vibapp.Daemon.Update

/-!
# Maintenance

What every request does before its own command, for each installed app: the record is checked
against the active package (`ensureAppUpdateMetadata`), an observation window that is over becomes
a committed update (`expireObservationWindow`), and directories that nothing refers to are
collected behind a journal in the record (`garbageCollectApp`).
-/

namespace Vibapp.Daemon

open Prog

/-! ## The record and its package -/

/-- A presentation as the record has it. -/
def Presentation.toJson (p : Presentation) : Json :=
  .obj [("schema_version", .str "vibapp.host-presentation.experimental-v1"),
    ("preferred_width", .int p.preferredWidth), ("preferred_height", .int p.preferredHeight),
    ("minimum_width", .int p.minimumWidth), ("minimum_height", .int p.minimumHeight),
    ("resizable", .bool p.resizable)]

/-- `_ensure_app_presentation`, of a record that has all its fields. -/
def checkPresentation (host : Host) (appId : String) (release : Release)
    (manifest : List (String × Json)) : Py Unit := do
  let incomplete := "installed manifest identity is incomplete"
  let identity ← asDict (field manifest "app") "integrity-failure" incomplete
  let publisher ← asDict (field identity "publisher") "integrity-failure" incomplete
  raiseIf (asStr (field identity "id") ≠ some appId ∨
      asStr (field identity "version") ≠ some release.version ∨
      asStr (field identity "kind") ≠ some release.kind ∨
      asStr (field identity "display_name") ≠ some release.displayName ∨
      asStr (field publisher "id") ≠ some release.publisherId)
    "integrity-failure" "installed state identity differs from its active manifest"
  let description ← boundedText (field identity "description") "app.description" 1000
  let derived ← hostPresentation host .null release.kind release.displayName description
  let normalized ← hostPresentation host release.presentation.toJson release.kind
    release.displayName ""
  raiseIf (normalized ≠ derived) "integrity-failure"
    "installed presentation differs from active manifest policy"
  raiseIf (asStr (field publisher "display_name") ≠ some release.publisherDisplayName)
    "integrity-failure" "installed publisher name differs from active manifest"
  let permissions ← capabilityInterfaces (field manifest "capabilities")
  raiseIf (release.permissions ≠ permissions) "integrity-failure"
    "installed permissions differ from active manifest"

/-- One service entrypoint of the active manifest. -/
def expectedService (members : List (String × Json)) : Py EntrypointRecord := do
  let id ← boundedText (field members "id") "entrypoint.id" 128
  let message := "installed service entrypoint lifecycle metadata is invalid"
  let triggers ← asList (field members "triggers") "integrity-failure" message
  let canonical := ["on-enable", "scheduler", "manual"].filter fun trigger =>
    triggers.any fun t => asStr t = some trigger
  raiseIf (triggers = [] ∨ triggers.length > 3 ∨ triggers.map asStr ≠ canonical.map some)
    "integrity-failure" message
  match asInt (field members "health_check_interval_seconds") with
  | some interval =>
    raiseIf (interval < 10 ∨ interval > 86400) "integrity-failure" message
    return ⟨id, "service", .null, canonical, some interval⟩
  | none => fail "integrity-failure" message

/-- The service entrypoints of the active manifest. -/
def expectedServices : List Json → Py (List EntrypointRecord)
  | [] => pure []
  | .obj members :: rest =>
    if asStr (field members "kind") = some "service" then do
      let service ← expectedService members
      return service :: (← expectedServices rest)
    else expectedServices rest
  | _ :: rest => expectedServices rest

/-- What of a service entrypoint a record may not change. -/
def EntrypointRecord.legacyIdentity (e : EntrypointRecord) : String × String × Bool :=
  (e.id, e.kind, e.initialRoute.isNull)

/-- The other fields of a service entrypoint. -/
def EntrypointRecord.lifecycle (e : EntrypointRecord) : List String × Option Int :=
  (e.triggers, e.healthCheckIntervalSeconds)

/-- `_ensure_service_entrypoint_metadata`: the entrypoints to put into the record, if they differ
from those it has. -/
def checkServiceEntrypoints (release : Release) (manifest : List (String × Json)) :
    Py (Option (List EntrypointRecord)) := do
  let malformed := "installed manifest entrypoints are malformed"
  let entrypoints ← asList (field manifest "entrypoints") "integrity-failure" malformed
  raiseIf (entrypoints.length > 16) "integrity-failure" malformed
  let expected ← expectedServices entrypoints
  let current := release.serviceEntrypoints
  raiseIf (current.map EntrypointRecord.legacyIdentity ≠
      expected.map EntrypointRecord.legacyIdentity)
    "integrity-failure" "installed service entrypoints differ from the active manifest"
  if current.map EntrypointRecord.lifecycle = expected.map EntrypointRecord.lifecycle then
    return none
  else return some expected

/-- The fields of a record that every request checks. -/
def App.wellFormed (app : App) : Prop :=
  0 < app.state.schema ∧ 0 < app.state.revision ∧
    app.state.packageDigest = app.release.packageDigest

instance (app : App) : Decidable app.wellFormed := inferInstanceAs (Decidable (_ ∧ _))

/-- The checks of `_ensure_app_update_metadata` on a record and its manifest. -/
def checkMetadata (host : Host) (appId : String) (app : App) (manifest : Json) :
    Py (Option (List EntrypointRecord)) := do
  let manifest ← asDict manifest "integrity-failure" "installed manifest identity is incomplete"
  checkPresentation host appId app.release manifest
  let entrypoints ← checkServiceEntrypoints app.release manifest
  raiseIf (¬ app.wellFormed) "integrity-failure"
    "installed update or state metadata is malformed"
  raiseIf (app.release.kvStorageLimitBytes.any fun n => n < 1 ∨ 10 * 1024 * 1024 < n)
    "integrity-failure" "installed KV storage metadata is malformed"
  return entrypoints

/-- `_ensure_app_update_metadata`, of a record that has all its fields. -/
def ensureAppUpdateMetadata (host : Host) (appId : String) : Run Bool := do
  let app ← getApp appId
  let manifest ← installedManifest appId app.release
  let entrypoints ← check (checkMetadata host appId app manifest)
  match entrypoints with
  | none => pure false
  | some entrypoints => do
    modifyApp appId fun app =>
      { app with release := { app.release with serviceEntrypoints := entrypoints } }
    pure true

/-! ## The observation window -/

/-- The record of an app whose observation window is over. -/
def UpdateRecord.completed (update : UpdateRecord) (rollback : RollbackRecord)
    (transaction : UpdateTransaction) (now : Int) : UpdateRecord :=
  UpdateRecord.replace
    { transaction with
      status := .committed
      phase := .committed
      observationCompletedAtUtc := some now }
    { update with
      status := .committed
      previous := some { rollback with retention := "last-rollback-generation" } }

/-- `_expire_observation_window`. -/
def expireObservationWindow (appId : String) : Run Bool := do
  let app ← getApp appId
  if app.update.status = .observationWindow then
    match app.update.previous, app.update.lastTransaction with
    | none, _ =>
      refuse "integrity-failure" "observation window lacks its rollback generation"
    | some _, none =>
      refuse "integrity-failure" "observation window lacks its durable transaction"
    | some rollback, some transaction => do
      refuseIf (rollback.observationDeadlineUtc ≠
          rollback.observationStartedAtUtc + observationWindowSeconds)
        "integrity-failure" "observation deadline is not bound to its fixed window"
      let now ← clock
      if now < rollback.observationStartedAtUtc ∨ now < rollback.observationDeadlineUtc then
        pure false
      else do
        modifyApp appId fun app =>
          { app with update := app.update.completed rollback transaction now }
        appendAudit "update-observation-complete" "daemon" (some appId) "committed"
        pure true
  else pure false

/-! ## Garbage collection -/

/-- The packages that a record protects. -/
def App.protectedPackages (app : App) : List String :=
  app.release.packageDigest ::
    (app.update.pending.toList.flatMap (fun t => [t.fromPackageDigest, t.toPackageDigest]) ++
      app.update.previous.toList.flatMap fun r => [r.fromPackageDigest, r.toPackageDigest])

/-- The transaction roots that a record protects. -/
def App.protectedUpdates (app : App) : List RootId :=
  app.update.pending.toList.map UpdateTransaction.transactionRoot ++
    app.update.previous.toList.map RollbackRecord.transactionRoot ++
    app.enableTransaction.toList.map EnableTransaction.transactionRoot

/-- `_generation_gc_targets`. -/
def generationGcTargets (appId : String) (app : App) : Run (List GcTarget) := do
  let packages ← read fun _ w =>
    ((w.disk.packages.keys.filter fun k => k.1 = appId).map Prod.snd).insertionSort (· ≤ ·)
  refuseIf (packages.length > maxPackageFiles) "resource-limit"
    "app package generation inventory is unbounded"
  let updates ← read fun _ w =>
    (w.disk.roots.filter fun root => root.1 = appId).insertionSort fun a b => a.2 ≤ b.2
  refuseIf (updates.length > maxUpdateHistory + maxGcDeletionsPerPass) "resource-limit"
    "app update generation inventory is unbounded"
  pure ((packages.filter (· ∉ app.protectedPackages)).map (GcTarget.package appId) ++
    (updates.filter (· ∉ app.protectedUpdates)).map GcTarget.update)

/-- `shutil.rmtree` of a target. -/
def removeTarget : GcTarget → Run Unit
  | .package appId name => removePackage appId name
  | .update root => removeRoot root
  | _ => pure ()

/-- One entry of the journal: whether its directory was removed. -/
def collectTarget (appId : String) : GcTarget → Run Bool
  | .malformed => refuse "integrity-failure" "generation GC journal is malformed"
  | .escaped => refuse "integrity-failure" "generation GC target escaped storage"
  | target => do
    let app ← getApp appId
    let removable ← generationGcTargets appId app
    if target ∈ removable then do
      removeTarget target
      injectUpdateFault "during-gc"
      pure true
    else pure false

/-- A change of the journal of the collector. -/
def modifyGc (appId : String) (f : GcRecord → GcRecord) : Run Unit :=
  modifyApp appId fun app => { app with gc := f app.gc }

/-- `while gc["pending"]`. -/
def collectPending (appId : String) : List GcTarget → List GcTarget → Run (List GcTarget)
  | [], removed => pure removed
  | target :: rest, removed => do
    let gone ← collectTarget appId target
    modifyGc appId fun gc => { gc with pending := rest }
    writeState
    collectPending appId rest (if gone = true then removed ++ [target] else removed)

/-- The journal is worked off. -/
def finishCollection (appId : String) (pending : List GcTarget) : Run Unit := do
  let completedAt ← clock
  let removed ← collectPending appId pending []
  modifyGc appId fun gc =>
    { gc with inProgress := false, lastCompletedAtUtc := some completedAt, lastRemoved := removed }
  writeState

/-- `_garbage_collect_app`. -/
def garbageCollectApp (appId : String) : Run Bool := do
  let app ← getApp appId
  if app.gc.inProgress = true ∧ app.gc.pending ≠ [] then do
    finishCollection appId app.gc.pending
    pure true
  else do
    let targets ← generationGcTargets appId app
    let pending := targets.take maxGcDeletionsPerPass
    if pending = [] then
      if app.gc.inProgress = true ∨ app.gc.pending ≠ [] then do
        modifyGc appId fun gc => { gc with inProgress := false, pending := [] }
        pure true
      else pure false
    else do
      modifyGc appId fun gc => { gc with inProgress := true, pending := pending }
      writeState
      finishCollection appId pending
      pure true

/-! ## All apps -/

/-- The records are brought up to date: whether any has changed. -/
def refreshRecords (host : Host) : List String → Run Bool
  | [] => pure false
  | appId :: rest => do
    let metadata ← ensureAppUpdateMetadata host appId
    let expired ← expireObservationWindow appId
    let others ← refreshRecords host rest
    pure (metadata || expired || others)

/-- The maintenance of a request. The document was read from its sorted form. -/
def maintain (host : Host) : Run Unit := do
  let apps ← read fun _ w => w.mem.apps.keys.insertionSort (· ≤ ·)
  let changed ← refreshRecords host apps
  whenTrue (changed = true) writeState
  each (fun appId => do let _ ← garbageCollectApp appId; pure ()) apps

end Vibapp.Daemon
