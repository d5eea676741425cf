import Mathlib.Data.Prod.Lex
import Vibapp.Lib.Agenda
import Vibapp.Scheduler.Command

/-!
# Due processing

`advance_due` takes up the least due slot of the whole ledger, by due instant, app and
occurrence id, and does so at most `limit` times in one transaction: its loop is a batch of the
agenda of due slots. Taking up a slot cancels it when its app or alarm may no longer fire,
and otherwise classifies it, queues its notification and its guest event, and arms the next
regular slot of a recurring alarm.
-/

namespace Vibapp.Scheduler

/-- What a slot is taken up by: due instant, app, occurrence id. -/
abbrev DueKey := Instant ×ₗ String ×ₗ String

def DueKey.of (due : Instant) (app oid : String) : DueKey := toLex (due, toLex (app, oid))

def DueKey.due (k : DueKey) : Instant := (ofLex k).1
def DueKey.app (k : DueKey) : String := (ofLex (ofLex k).2).1
def DueKey.oid (k : DueKey) : String := (ofLex (ofLex k).2).2

/-- The arguments of `advance_due` that a slot's processing reads. -/
structure Advance where
  now : Instant
  recovery : Bool

/-- The due slots of a row. -/
def AppRow.dueSlots (row : AppRow) (now : Instant) (app : String) : List DueKey :=
  row.occurrences.entries.filterMap fun p =>
    if p.2.state = .scheduled ∧ p.2.dueAtUtc ≤ now then some (.of p.2.dueAtUtc app p.1) else none

/-- `candidates`. -/
def Ledger.candidates (l : Ledger) (now : Instant) : List DueKey :=
  l.apps.entries.flatMap fun p => p.2.dueSlots now p.1

/-- The slot's app or alarm no longer allows it to fire. -/
def revoked (row : AppRow) (alarm : Alarm) (occ : Occurrence) : Bool :=
  !row.context.enabled || !row.context.schedulerGranted || !alarm.enabled ||
    alarm.revision ≠ occ.revision

/-- `missed`. -/
def isMissed (x : Advance) (alarm : Alarm) (occ : Occurrence) : Bool :=
  GRACE_SECONDS < (x.now.val : Int) - occ.dueAtUtc.val ||
    (alarm.purpose = .serviceTrigger && alarm.missed = .skip && x.recovery)

/-- `classification`. -/
def classify (x : Advance) (row : AppRow) (alarm : Alarm) (occ : Occurrence) : Classification :=
  if isMissed x alarm occ then .missed
  else if alarm.purpose = .alarm ∧ row.context.notificationPermission ≠ .authorized then
    .permissionDenied
  else if x.recovery then .catchUp
  else .onTime

/-- The state of a slot that has been taken up. -/
def firedState (c : Classification) (purpose : Purpose) : OccurrenceState :=
  match c with
  | .missed => .missed
  | .permissionDenied => .permissionDenied
  | _ => if purpose = .alarm then .deliveryPending else .guestPending

/-- The id of the notification of an occurrence. -/
def notifyId (oid : String) : String := "notify:" ++ oid

/-- The outbox row of a slot whose notification is to be delivered. -/
def newEffect (x : Advance) (alarm : Alarm) (oid adapterId : String) : Effect where
  notificationId := notifyId oid
  adapterId := adapterId
  occurrenceId := oid
  projection := alarm.notification
  state := .pending
  firstEligibleAtUtc := x.now
  firstAttemptTolerance := if x.recovery then 5 else 2
  adapterAttemptCount := 0
  attempts := []
  claim := none
  failure := none

/-- The guest event of a slot that has been taken up. -/
def newEvent (alarm : Alarm) (oid : String) (due : Instant) (c : Classification) : Event where
  guestEventId := guestId oid
  occurrenceId := oid
  schedule := alarm.scheduleId
  key := alarm.alarmId
  scheduledForUtc := due
  classification := c
  payload := alarm.payload
  state := .pending
  attempts := 0
  claim := none
  routedGeneration := none
  dispatchedAtUtc := none
  ackRequested := none
  guestOutcome := none

section

variable (b : Backend)

/-- A slot that may not fire. -/
def AppRow.cancelSlot (row : AppRow) (oid : String) (occ : Occurrence) (alarm : Alarm) : AppRow :=
  let row := { row with occurrences := row.occurrences.set oid { occ with state := .cancelled } }
  if alarm.nextOccurrenceId = some oid then
    row.setAlarm occ.alarmId { alarm with nextOccurrenceId := none }
  else row

/-- The occurrence and the outbox of a slot that fires. -/
def Backend.deliver (x : Advance) (app : String) (row : AppRow) (oid : String) (occ : Occurrence)
    (alarm : Alarm) : Py AppRow := do
  let c := classify x row alarm occ
  let state := firedState c alarm.purpose
  let occ := { occ with classification := some c, state }
  if state = .deliveryPending then
    let adapterId := "vibapp:" ++ (← b.digest (.arr [.str app, .str (notifyId oid)]))
    return { row with
      occurrences := row.occurrences.set oid { occ with notificationId := some (notifyId oid) }
      outbox := row.outbox.set (notifyId oid) (newEffect x alarm oid adapterId) }
  else return { row with occurrences := row.occurrences.set oid occ }

/-- The alarm after its regular slot was taken up: the next one of a recurring alarm is armed. -/
def Backend.rearm (row : AppRow) (occ : Occurrence) (alarm : Alarm) : Py AppRow := do
  let cleared := { alarm with nextOccurrenceId := none }
  if alarm.schedule.isRecurring then
    -- `next_civil` of a recurring schedule gives a slot or raises
    let slot ← item (← b.nextCivil alarm.schedule occ.dueAtUtc (some occ.civilDate))
    let (row, armed, _) ← b.materialize row cleared slot
    return row.setAlarm occ.alarmId armed
  else return row.setAlarm occ.alarmId cleared

/-- A slot that fires. -/
def Backend.fireSlot (x : Advance) (app : String) (row : AppRow) (oid : String) (occ : Occurrence)
    (alarm : Alarm) : Py AppRow := do
  let event := newEvent alarm oid occ.dueAtUtc (classify x row alarm occ)
  let row ← b.deliver x app row oid occ alarm
  let row := { row with guestEvents := row.guestEvents.set (guestId oid) event }
  if occ.parentOccurrenceId.isNone then b.rearm row occ alarm else return row

/-- One pass of the loop of `advance_due`, on the row of the slot. -/
def Backend.takeSlot (x : Advance) (app oid : String) (row : AppRow) : Py AppRow := do
  let occ ← item (row.occurrences.get? oid)
  let alarm ← item (row.alarms.get? occ.alarmId)
  if revoked row alarm occ then return row.cancelSlot oid occ alarm
  else b.fireSlot x app row oid occ alarm

/-- One pass of the loop of `advance_due`. -/
def Backend.takeUp (x : Advance) (k : DueKey) (l : Ledger) : Py Ledger := do
  let row ← item (l.apps.get? k.app)
  return l.setApp k.app (← b.takeSlot x k.app k.oid row)

/-- The due slots of a ledger, as an agenda. -/
def Backend.agenda (x : Advance) : Agenda Ledger DueKey Raised where
  openTasks l := l.candidates x.now
  run := b.takeUp x

/-- `advance_due`: the ids taken up, and whether more slots are due. -/
def Backend.advanceDue (l : Ledger) (nowUtc : String) (recovery : Bool) (limit : Int) :
    Py (Ledger × List String × Bool) := do
  let now ← parseUtc nowUtc
  let limit ← integer (.int limit) 1 MAX_BATCH
  edit l fun l => do
    let (l, ks) ← (b.agenda ⟨now, recovery⟩).batch limit.toNat l
    return (l, ks.map DueKey.oid, !(l.candidates now).isEmpty)

end

end Vibapp.Scheduler
