import Vibapp.Scheduler.Due

/-!
# Queries

`status`, the answer to `alarm-status`, and `scheduler_list_schedules`. Neither writes the
ledger.
-/

namespace Vibapp.Scheduler

/-- What `status` shows of an occurrence. -/
structure OccurrenceStatus where
  occurrence : String
  dueAtUtc : Instant
  state : OccurrenceState
  classification : Option Classification
  notificationId : Option String

/-- What `status` shows of an effect. -/
inductive EffectStatus
  | notification (id occurrence : String) (outcome : EffectState) (attempts : Nat)
  | guestEvent (id occurrence : String) (outcome : EventState) (attempts : Nat)
  | snoozeAction (osActionId parent snooze : String) (deduplicated : Bool)

structure StatusReport where
  app : String
  activeGeneration : Option String
  rollbackState : RollbackState
  alarmId : String
  schedule : Schedule
  notification : Option Projection
  enabled : Bool
  revision : Nat
  nextOccurrenceId : Option String
  permissionHealth : Permission
  occurrences : List OccurrenceStatus
  occurrencesTruncated : Bool
  effects : List EffectStatus
  effectsTruncated : Bool

/-- `sort(key, reverse=True)`: descending, ties in their given order. -/
def sortDescending {α : Type} (key : α → Instant × String) (xs : List α) : List α :=
  xs.mergeSort fun x y => decide (toLex (key y) ≤ toLex (key x))

/-- The effects of the given occurrences, each with its sort key. -/
def AppRow.effectStatuses (row : AppRow) (occurrenceIds : List String) :
    List ((Instant × String) × EffectStatus) :=
  (row.outbox.values.filter fun e => e.occurrenceId ∈ occurrenceIds).map (fun e =>
      ((e.firstEligibleAtUtc, e.notificationId),
        .notification e.notificationId e.occurrenceId e.state e.adapterAttemptCount)) ++
    (row.guestEvents.values.filter fun e => e.occurrenceId ∈ occurrenceIds).map (fun e =>
      ((e.dispatchedAtUtc.getD e.scheduledForUtc, e.guestEventId),
        .guestEvent e.guestEventId e.occurrenceId e.state e.attempts)) ++
    (row.actions.values.filter fun a => a.parentOccurrenceId ∈ occurrenceIds).map fun a =>
      ((a.actionReceivedAtUtc, a.osActionId),
        .snoozeAction a.osActionId a.parentOccurrenceId a.snoozeOccurrenceId a.deduplicated)

/-- `status`. -/
def status (l : Ledger) (app : String) (alarmId occurrenceLimit effectLimit : Json) :
    Py StatusReport := do
  let occurrenceLimit ← integer occurrenceLimit 1 MAX_BATCH
  let effectLimit ← integer effectLimit 1 MAX_BATCH
  let row ← l.app app
  let (id, alarm) ← alarmOf row alarmId
  if alarm.purpose ≠ .alarm then
    error "invalid-argument" "alarm-status does not project a service-trigger"
  else
    let occurrences := sortDescending (fun o => (o.dueAtUtc, o.occurrence))
      (row.occurrences.values.filter fun o => o.alarmId = id)
    let effects := sortDescending Prod.fst (row.effectStatuses (occurrences.map Occurrence.occurrence))
    return { app, activeGeneration := row.context.activeGeneration,
             rollbackState := row.context.rollbackState, alarmId := alarm.alarmId,
             schedule := alarm.schedule, notification := alarm.notification,
             enabled := alarm.enabled, revision := alarm.revision,
             nextOccurrenceId := alarm.nextOccurrenceId, permissionHealth := alarm.permissionHealth,
             occurrences := (occurrences.take occurrenceLimit.toNat).map fun o =>
               ⟨o.occurrence, o.dueAtUtc, o.state, o.classification, o.notificationId⟩,
             occurrencesTruncated := occurrenceLimit < occurrences.length,
             effects := (effects.take effectLimit.toNat).map Prod.snd,
             effectsTruncated := effectLimit < effects.length }

/-- `command` of an `alarm-status`, after its record and instant are checked. -/
def statusCommand (l : Ledger) (app : String) (value : Json) : Py StatusReport := do
  let ms ← object value ["alarm_id", "occurrence_limit", "effect_limit"]
  status l app (field ms "alarm_id") (field ms "occurrence_limit") (field ms "effect_limit")

/-- `scheduler_list_schedules`. -/
def listSchedules (l : Ledger) (app generation : String) : Py (List ScheduleRecord) := do
  let generation ← checkText generation "caller generation"
  let row ← l.app app
  authority row (some generation) false
  let sorted := row.alarms.entries.mergeSort fun p q => decide (p.1 ≤ q.1)
  return sorted.map fun p => scheduleRecord p.2

end Vibapp.Scheduler
