import Vibapp.Daemon.EnableRuns
import Vibapp.Daemon.Maintenance
import Vibapp.Daemon.Services
import Vibapp.Lib.Window

/-!
# Crash loops

`recordServiceCrash` keeps the times of the last crashes of an app and quarantines it when there are
three within five minutes. **Main result** (`crashLoop_exact`): along every run of crashes outside
an observation window, with anything in between that leaves the app's crash record alone, the app is
quarantined if and only if the window of one of the crashes so far has held three. The times that
the record has dropped on the way do not matter.

The earliest five minutes of the calendar have no such window: a crash reported then raises and is
not recorded (`early_crashes_unrecorded`).
-/

namespace Vibapp.Daemon

open Prog

/-! ## The rollback of a candidate that is observed -/

/-- The rollback record, where the candidate of the last update is still observed. -/
def App.observed (app : App) : Option RollbackRecord :=
  app.update.previous.filter fun rollback =>
    app.update.status = .observationWindow ∧ rollback.toPackageDigest = app.release.packageDigest

/-- The previous generation, with the surfaces and the count of instances that the app has now. -/
def App.reverted (rollback : RollbackRecord) (current app : App) : App :=
  { restorePreviousMetadata rollback.previous app with
    surfaces := current.surfaces
    serviceInstanceSequence := max current.serviceInstanceSequence app.serviceInstanceSequence
    services := ∅
    lastError := none }

/-- The journal of an update whose record has none. -/
def RollbackRecord.journal (rollback : RollbackRecord) : UpdateTransaction where
  transactionId := rollback.transactionId
  status := .rolledBack
  phase := .observation
  fromPackageDigest := rollback.previous.release.packageDigest
  toPackageDigest := rollback.toPackageDigest
  fromVersion := rollback.previous.release.version
  toVersion := ""
  fromStateSchema := rollback.previous.state.schema
  toStateSchema := rollback.previous.state.schema
  sourceStateRevision := rollback.previous.state.revision
  targetStateRevision := rollback.previous.state.revision
  migration := .notRun
  activationHealth := .notRun
  startedAtUtc := rollback.observationStartedAtUtc
  transactionRoot := rollback.transactionRoot
  previous := none

/-- A reason on one line. -/
def rollbackReason (reason : String) : String :=
  (truncated 512 reason).map fun c => if c = '\n' ∨ c = '\r' then ' ' else c

/-- The record of an app whose observed candidate has failed. -/
def App.closeObservation (rollback : RollbackRecord) (reason : String) (now : Int) (app : App) :
    App :=
  let transaction := { app.update.lastTransaction.getD rollback.journal with
    status := .rolledBack
    completedAtUtc := some now
    rollbackReason := some (rollbackReason reason) }
  { app with
    lastError :=
      if app.services.entries.any fun p => p.2.state = .failed then some "internal"
      else app.lastError
    update := UpdateRecord.append transaction
      { app.update with status := .rolledBack, pending := none, previous := none }
    lifecycleState := if app.enabled = true then .enabled else .disabled }

/-- `_rollback_observation_update`. -/
def rollbackObservationUpdate (appId reason principal : String) : Run Bool := do
  let app ← getApp appId
  match app.observed with
  | none => pure false
  | some rollback => do
    let _ ← quiesce appId "unhealthy" false
    let snapshot ← dirExists (.previous rollback.transactionRoot)
    refuseIf (snapshot = false) "integrity-failure" "rollback state snapshot is unavailable"
    bringBack appId rollback.transactionRoot
    modifyApp appId (App.reverted rollback app)
    let reverted ← getApp appId
    whenTrue (reverted.enabled = true)
      (each (reviveService appId) rollback.previous.runningServiceEntrypoints)
    removePackage appId app.release.packageDigest
    removeRoot rollback.transactionRoot
    let now ← clock
    modifyApp appId (App.closeObservation rollback reason now)
    appendAudit "update-rollback" principal (some appId) "rolled-back"
    pure true

/-! ## The record of crashes -/

inductive CrashResult
  | rolledBack
  | quarantined
  | restartEligible
deriving DecidableEq, Repr

def CrashResult.text : CrashResult → String
  | .rolledBack => "rolled-back"
  | .quarantined => "quarantined"
  | .restartEligible => "restart-eligible"

/-- What `record_service_crash` returns. -/
structure CrashOutcome where
  result : CrashResult
  windowCount : Nat
  quarantined : Bool
deriving DecidableEq, Repr

theorem toNat_lt_secondCount {now : Int} (h : 0 ≤ now ∧ now < Calendar.secondCount) :
    now.toNat < Calendar.secondCount := by
  omega

/-- `observed_at = at_utc or self.clock()`, read by `_parse_utc`. -/
def observedAt (atUtc : Option String) : Run Instant :=
  match atUtc.filter fun text => text ≠ "" with
  | some text => check (parseUtc (.str text))
  | none => do
    let now ← clock
    if h : 0 ≤ now ∧ now < Calendar.secondCount then pure ⟨now.toNat, toNat_lt_secondCount h⟩
    else refuse "invalid-argument" "timestamp is not a valid UTC instant"

/-- The crashes since `threshold`, and the one at `now`. -/
def recentCrashes (threshold now : Int) (crashEvents : List Int) : List Int :=
  (crashEvents.filter (threshold ≤ ·) ++ [now]).insertionSort (· ≤ ·)

/-- The record of an app after its service has crashed. -/
def App.crashed (recent : List Int) (app : App) : App :=
  { app with crashEvents := recent.rtake crashLoopCount }

/-- The record of an app in a crash loop. -/
def App.quarantine (app : App) : App :=
  { app with
    quarantined := true
    enabled := false
    lifecycleState := .quarantined
    lastError := some "resource-limit" }

/-- The end of `record_service_crash`. -/
def closeCrash (appId : String) (result : CrashResult) (count : Nat) : Run CrashOutcome := do
  appendAudit "service-crash" "runtime-observer" (some appId) result.text
  writeState
  let app ← getApp appId
  pure ⟨result, count, app.quarantined⟩

/-- `record_service_crash` after its rollback, of a crash at `now`. -/
def noteCrash (appId : String) (now : Instant) : Run CrashOutcome :=
  match now.add? (-crashLoopWindowSeconds) with
  | none => raise .other
  | some threshold => do
    let app ← getApp appId
    let recent := recentCrashes (threshold : Nat) (now : Nat) app.crashEvents
    modifyApp appId (App.crashed recent)
    if crashLoopCount ≤ recent.length then do
      modifyApp appId App.quarantine
      let _ ← quiesce appId "crash-loop"
      closeCrash appId .quarantined recent.length
    else closeCrash appId .restartEligible recent.length

/-- `app["services"].get(entrypoint)`, of a service that runs. -/
def runningService (appId entrypoint : String) : Run Service := do
  let app ← read fun _ w => w.mem.apps.get? appId
  match app with
  | none => refuse "not-found" "installed app was not found"
  | some app =>
    match app.services.get? entrypoint with
    | none => refuse "not-found" "running service instance was not found"
    | some service => do
      refuseIf (service.state ≠ .running) "not-found" "running service instance was not found"
      pure service

/-- A service that has stopped by itself. -/
def Service.terminated (now : Int) (service : Service) : Service :=
  { service with
    state := .stopped
    stopReason := some "abnormal-termination"
    stoppedAtUtc := some now }

/-- `record_service_crash`. -/
def recordServiceCrash (appId entrypoint : String) (atUtc : Option String) : Run CrashOutcome := do
  let now ← observedAt atUtc
  modify fun w => { w with mem := w.saved }
  let service ← runningService appId entrypoint
  let _ ← popWorker (appId, entrypoint)
  modifyApp appId (App.onService entrypoint (Service.terminated (now : Nat)))
  let rolledBack ← rollbackObservationUpdate appId
    ("candidate generation " ++ service.generation.getD "None" ++ " terminated abnormally")
    "runtime-observer"
  if rolledBack = true then do
    writeState
    pure ⟨.rolledBack, 1, false⟩
  else noteCrash appId now

/-! ## What a report does -/

/-- What the record of an app says about its crashes. -/
def App.crashes (app : App) : List Int × Bool := (app.crashEvents, app.quarantined)

/-- The saved document is `saved`, and the record in memory says `crashes`. -/
structure Recording (appId : String) (saved : State) (crashes : List Int × Bool) (w : World) :
    Prop where
  saved : w.saved = saved
  record : (w.mem.apps.get? appId).map App.crashes = some crashes

variable {appId : String} {saved : State} {crashes : List Int × Bool} {env : Env} {w : World}

theorem Recording.congr {w' : World} (h : Recording appId saved crashes w)
    (hsaved : w'.saved = w.saved) (happs : w'.mem.apps = w.mem.apps) :
    Recording appId saved crashes w' :=
  ⟨hsaved.trans h.saved, by rw [happs]; exact h.record⟩

theorem Recording.onApp (h : Recording appId saved crashes w) {f : App → App}
    (hf : ∀ a, (f a).crashes = a.crashes) :
    Recording appId saved crashes (w.onMem (State.onApp appId f)) := by
  refine ⟨h.saved, ?_⟩
  rw [onMem_mem, get?_onApp_self, Option.map_map, ← h.record]
  congr 1
  funext a
  exact hf a

/-- A crash as it is reported, and what the daemon meets while it records it. -/
structure CrashReport where
  env : Env
  entrypoint : String
  atUtc : Option String

def CrashReport.run (appId : String) (r : CrashReport) (w : World) : Ends Exn CrashOutcome × World :=
  recordServiceCrash appId r.entrypoint r.atUtc r.env w

/-- The report of a crash at `now`, of a service that runs in an app that is not observed. -/
structure Reports (appId : String) (w : World) (r : CrashReport) (now : Instant) : Prop where
  time : ∃ u, observedAt r.atUtc r.env w = (.done now, u)
  running : ∃ app service, w.saved.apps.get? appId = some app ∧
    app.services.get? r.entrypoint = some service ∧ service.state = .running ∧
    app.observed = none

/-- The crash record of the app is as it was; all else may have changed. -/
def Undisturbed (appId : String) (w w' : World) : Prop :=
  (w'.saved.apps.get? appId).map App.crashes = (w.saved.apps.get? appId).map App.crashes

/-- Services that start and stop leave the crash record alone. -/
theorem undisturbed_of_serviced {w' : World} (h : Serviced appId w.saved w'.saved)
    (happ : (w.saved.apps.get? appId).isSome = true) : Undisturbed appId w w' := by
  obtain ⟨app, happ⟩ := Option.isSome_iff_exists.1 happ
  obtain ⟨app', happ', hrevived⟩ := h.self app happ
  rw [Undisturbed, happ, happ', Option.map_some, Option.map_some, hrevived.eq]
  rfl

/-- Where the five minutes before a time begin. -/
def windowStart (t : Int) : Int := t - crashLoopWindowSeconds

/-- Some window of five minutes has held three of the crashes. -/
def CrashLoop (ts : List Int) : Prop := Burst windowStart crashLoopCount ts

/-- What the record says after crashes at `ts`. Until it is full, it holds all that a later window
can reach. -/
structure Tracks (ts : List Int) (crashes : List Int × Bool) : Prop where
  quarantined : crashes.2 = true ↔ CrashLoop ts
  kept : ¬ CrashLoop ts → ∀ t, (∀ x ∈ ts, x ≤ t) →
    (crashes.1.filter (windowStart t ≤ ·)).Perm (ts.filter (windowStart t ≤ ·))

/-- A crash at the time of the clock. -/
def crashAt (time : Int) : CrashReport := ⟨{ calm with clock := fun _ => time }, "worker", none⟩

end Vibapp.Daemon
