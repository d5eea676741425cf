import Vibapp.Lib.Dict
import Vibapp.Scheduler.Civil

/-!
# The scheduler ledger

The records of one app's row, the JSON they are persisted as, and `_edit`, the transaction
every mutating call runs in: layout check, body, row limits, byte budget, and only then the
new ledger. A body that raises leaves the ledger as it was.

Records are typed, so of `_check_layout` only the byte budget remains: what it checks of the
fields holds of every value of these types.
-/

namespace Vibapp.Scheduler

/-! ## Constants -/

def GRACE_SECONDS : Int := 900
def RETRY_OFFSETS : List Int := [0, 2, 10]
def MAX_BYTES : Nat := 8 * 1024 * 1024
def MAX_APPS : Nat := 64
def MAX_SCHEDULES : Nat := 64
def MAX_ROWS : Nat := 4096
def MAX_PAYLOAD : Nat := 16 * 1024
def MAX_BATCH : Nat := 128
def MAX_REVISION : Int := 2 ^ 64 - 1

/-! ## Records -/

inductive Permission
  | authorized | denied | notDetermined
deriving DecidableEq

inductive RollbackState
  | none | observationWindow | rollingBack
deriving DecidableEq

/-- `row["context"]`: what the host says of the app. -/
structure Context where
  activeGeneration : Option String
  enabled : Bool
  schedulerGranted : Bool
  notificationPermission : Permission
  rollbackState : RollbackState
deriving DecidableEq

inductive Purpose
  | alarm | serviceTrigger
deriving DecidableEq

inductive Missed
  | skip | fireOnce
deriving DecidableEq

/-- A notification as it will be shown. -/
structure Projection where
  title : String
  body : String
  standardSound : Bool
deriving DecidableEq

structure Alarm where
  alarmId : String
  scheduleId : String
  schedule : Schedule
  notification : Option Projection
  enabled : Bool
  revision : Nat
  nextOccurrenceId : Option String
  permissionHealth : Permission
  purpose : Purpose
  payload : List Nat
  missed : Missed
  spec : Option Json

inductive OccurrenceState
  | scheduled | cancelled | missed | permissionDenied | deliveryPending | guestPending
  | notificationAccepted | notificationFailed | guestAcked
deriving DecidableEq

inductive Classification
  | missed | catchUp | onTime | permissionDenied
deriving DecidableEq

structure Occurrence where
  occurrence : String
  alarmId : String
  revision : Nat
  dueAtUtc : Instant
  civilDate : Date
  tzdataLabel : String
  state : OccurrenceState
  classification : Option Classification
  notificationId : Option String
  parentOccurrenceId : Option String
deriving DecidableEq

/-- A result of the notification adapter; `unknown` also while it has not answered. -/
inductive AdapterResult
  | accepted | transientFailure | unknown | unavailable
deriving DecidableEq

structure Attempt where
  atUtc : Instant
  result : AdapterResult
  completedAtUtc : Option Instant
deriving DecidableEq

inductive EffectState
  | pending | accepted | failed
deriving DecidableEq

structure EffectClaim where
  owner : String
  token : String
  atUtc : Instant
deriving DecidableEq

/-- A row of the outbox. -/
structure Effect where
  notificationId : String
  adapterId : String
  occurrenceId : String
  projection : Option Projection
  state : EffectState
  firstEligibleAtUtc : Instant
  firstAttemptTolerance : Nat
  adapterAttemptCount : Nat
  attempts : List Attempt
  claim : Option EffectClaim
  failure : Option String
deriving DecidableEq

inductive EventState
  | pending | acked | deadLettered
deriving DecidableEq

/-- What a guest says of an occurrence it handled. -/
inductive AckOutcome
  | observed | applied | failed
deriving DecidableEq

structure EventClaim where
  owner : String
  token : String
  generation : String
deriving DecidableEq

/-- A guest event. -/
structure Event where
  guestEventId : String
  occurrenceId : String
  schedule : String
  key : String
  scheduledForUtc : Instant
  classification : Classification
  payload : List Nat
  state : EventState
  attempts : Nat
  claim : Option EventClaim
  routedGeneration : Option String
  dispatchedAtUtc : Option Instant
  ackRequested : Option AckOutcome
  guestOutcome : Option AckOutcome
deriving DecidableEq

inductive Outcome
  | created | updated | enabled | disabled | unchanged | snoozed
deriving DecidableEq

/-- `_result`. -/
structure AlarmResult where
  alarmId : String
  outcome : Outcome
  revision : Nat
  enabled : Bool
  nextOccurrenceId : Option String
  snoozeOccurrenceId : Option String
  deduplicated : Bool
deriving DecidableEq

/-- `_schedule_record`. -/
structure ScheduleRecord where
  id : String
  key : String
  purpose : Purpose
  spec : Json
  revision : Nat
  enabled : Bool
  nextOccurrenceId : Option String
  notification : Option Projection

/-- The value of a successful mutating call. -/
inductive Value
  | null
  | result (r : AlarmResult)
  | record (r : ScheduleRecord)

/-- `{"ok": True, "value": …}` or `{"ok": False, "error": …}`. -/
inductive Response
  | ok (value : Value)
  | error (e : SchedulerError)

/-- A command receipt. -/
structure Receipt where
  fingerprint : String
  response : Response

/-- A snooze action. -/
structure Action where
  osActionId : String
  parentOccurrenceId : String
  snoozeOccurrenceId : String
  durationSeconds : Int
  actionReceivedAtUtc : Instant
  deduplicated : Bool
  result : AlarmResult
deriving DecidableEq

/-- One app's row. -/
structure AppRow where
  context : Context
  alarms : Dict String Alarm
  occurrences : Dict String Occurrence
  outbox : Dict String Effect
  guestEvents : Dict String Event
  commands : Dict String Receipt
  actions : Dict String Action

structure Ledger where
  apps : Dict String AppRow

/-- `_empty`. -/
def Ledger.empty : Ledger := ⟨∅⟩

/-- The row of an app that has just been given its context. -/
def AppRow.new (context : Context) : AppRow := ⟨context, ∅, ∅, ∅, ∅, ∅, ∅⟩

/-! ## Persisted form -/

/-- `None` or the value's form. -/
def optJson {α : Type} (f : α → Json) : Option α → Json
  | none => .null
  | some a => f a

/-- An instant as its canonical text. -/
def instantJson (t : Instant) : Json := .str t.text

/-- A natural number. -/
def natJson (n : Nat) : Json := .int n

/-- A dictionary of records. -/
def dictJson {α : Type} (f : α → Json) (d : Dict String α) : Json :=
  .obj (d.entries.map fun p => (p.1, f p.2))

def Permission.text : Permission → String
  | .authorized => "authorized"
  | .denied => "denied"
  | .notDetermined => "not-determined"

def RollbackState.text : RollbackState → String
  | .none => "none"
  | .observationWindow => "observation-window"
  | .rollingBack => "rolling-back"

def Context.toJson (c : Context) : Json :=
  .obj [("active_generation", optJson .str c.activeGeneration), ("enabled", .bool c.enabled),
    ("scheduler_granted", .bool c.schedulerGranted),
    ("notification_permission", .str c.notificationPermission.text),
    ("rollback_state", .str c.rollbackState.text)]

def Purpose.text : Purpose → String
  | .alarm => "alarm"
  | .serviceTrigger => "service-trigger"

def Missed.text : Missed → String
  | .skip => "skip"
  | .fireOnce => "fire-once"

def Projection.toJson (p : Projection) : Json :=
  .obj [("title", .str p.title), ("body", .str p.body), ("standard_sound", .bool p.standardSound)]

def dateJson (d : Date) : Json :=
  .obj [("year", natJson d.ymd.1), ("month", natJson d.ymd.2.1), ("day", natJson d.ymd.2.2)]

def timeJson (t : Time) : Json :=
  .obj [("hour", natJson t.hour), ("minute", natJson t.minute), ("second", natJson t.second)]

def RecurrenceKind.text : RecurrenceKind → String
  | .daily => "daily"
  | .weekly => "weekly"

/-- `schedule["value"]`. -/
def Schedule.valueJson : Schedule → Json
  | .oneShot d t zone =>
    .obj [("when", .obj [("date", dateJson d), ("time", timeJson t), ("time_zone", .str zone)]),
      ("gap", .str "next-valid"), ("overlap", .str "earlier")]
  | .recurring v =>
    .obj [("kind", .str v.kind.text), ("time", timeJson v.time),
      ("start_date", dateJson v.startDate), ("time_zone", .str v.timeZone),
      ("weekdays", .arr (v.weekdays.map fun w => .str w.name)), ("gap", .str "next-valid"),
      ("overlap", .str "earlier")]

def Schedule.toJson (s : Schedule) : Json :=
  .obj [("tag", .str (if s.isRecurring then "recurring" else "one-shot")), ("value", s.valueJson)]

def payloadJson (payload : List Nat) : Json := .arr (payload.map natJson)

def Alarm.toJson (a : Alarm) : Json :=
  .obj [("alarm_id", .str a.alarmId), ("schedule_id", .str a.scheduleId),
    ("schedule", a.schedule.toJson), ("notification", optJson Projection.toJson a.notification),
    ("enabled", .bool a.enabled), ("revision", natJson a.revision),
    ("next_occurrence_id", optJson .str a.nextOccurrenceId),
    ("permission_health", .str a.permissionHealth.text), ("purpose", .str a.purpose.text),
    ("payload", payloadJson a.payload), ("missed", .str a.missed.text), ("spec", optJson id a.spec)]

def OccurrenceState.text : OccurrenceState → String
  | .scheduled => "scheduled"
  | .cancelled => "cancelled"
  | .missed => "missed"
  | .permissionDenied => "permission-denied"
  | .deliveryPending => "delivery-pending"
  | .guestPending => "guest-pending"
  | .notificationAccepted => "notification-accepted"
  | .notificationFailed => "notification-failed"
  | .guestAcked => "guest-acked"

def Classification.text : Classification → String
  | .missed => "missed"
  | .catchUp => "catch-up"
  | .onTime => "on-time"
  | .permissionDenied => "permission-denied"

def Occurrence.toJson (o : Occurrence) : Json :=
  .obj [("occurrence", .str o.occurrence), ("alarm_id", .str o.alarmId),
    ("revision", natJson o.revision), ("due_at_utc", instantJson o.dueAtUtc),
    ("civil_date", .str o.civilDate.isoformat), ("tzdata_label", .str o.tzdataLabel),
    ("state", .str o.state.text),
    ("classification", optJson (fun c => .str c.text) o.classification),
    ("notification_id", optJson .str o.notificationId),
    ("parent_occurrence_id", optJson .str o.parentOccurrenceId)]

def AdapterResult.text : AdapterResult → String
  | .accepted => "accepted"
  | .transientFailure => "transient-failure"
  | .unknown => "unknown"
  | .unavailable => "unavailable"

/-- `completed_at_utc` is a member only of an attempt that has been finished. -/
def Attempt.toJson (a : Attempt) : Json :=
  .obj ([("at_utc", instantJson a.atUtc), ("result", .str a.result.text)] ++
    (a.completedAtUtc.map fun t => ("completed_at_utc", instantJson t)).toList)

def EffectState.text : EffectState → String
  | .pending => "pending"
  | .accepted => "accepted"
  | .failed => "failed"

def EffectClaim.toJson (c : EffectClaim) : Json :=
  .obj [("owner", .str c.owner), ("token", .str c.token), ("at_utc", instantJson c.atUtc)]

/-- `failure` is a member only of a failed row. -/
def Effect.toJson (e : Effect) : Json :=
  .obj ([("notification_id", .str e.notificationId), ("adapter_id", .str e.adapterId),
    ("occurrence_id", .str e.occurrenceId), ("projection", optJson Projection.toJson e.projection),
    ("state", .str e.state.text), ("first_eligible_at_utc", instantJson e.firstEligibleAtUtc),
    ("first_attempt_tolerance", natJson e.firstAttemptTolerance),
    ("adapter_attempt_count", natJson e.adapterAttemptCount),
    ("attempts", .arr (e.attempts.map Attempt.toJson)),
    ("claim", optJson EffectClaim.toJson e.claim)] ++
    (e.failure.map fun f => ("failure", Json.str f)).toList)

def EventState.text : EventState → String
  | .pending => "pending"
  | .acked => "acked"
  | .deadLettered => "dead-lettered"

def AckOutcome.text : AckOutcome → String
  | .observed => "observed"
  | .applied => "applied"
  | .failed => "failed"

def EventClaim.toJson (c : EventClaim) : Json :=
  .obj [("owner", .str c.owner), ("token", .str c.token), ("generation", .str c.generation)]

/-- `guest_outcome` is a member only of an acknowledged event. -/
def Event.toJson (e : Event) : Json :=
  .obj ([("guest_event_id", .str e.guestEventId), ("occurrence_id", .str e.occurrenceId),
    ("schedule", .str e.schedule), ("key", .str e.key),
    ("scheduled_for_utc", instantJson e.scheduledForUtc),
    ("classification", .str e.classification.text), ("payload", payloadJson e.payload),
    ("state", .str e.state.text), ("attempts", natJson e.attempts),
    ("claim", optJson EventClaim.toJson e.claim),
    ("routed_generation", optJson .str e.routedGeneration),
    ("dispatched_at_utc", optJson instantJson e.dispatchedAtUtc),
    ("ack_requested", optJson (fun o => .str o.text) e.ackRequested)] ++
    (e.guestOutcome.map fun o => ("guest_outcome", Json.str o.text)).toList)

def Outcome.text : Outcome → String
  | .created => "created"
  | .updated => "updated"
  | .enabled => "enabled"
  | .disabled => "disabled"
  | .unchanged => "unchanged"
  | .snoozed => "snoozed"

def AlarmResult.toJson (r : AlarmResult) : Json :=
  .obj [("alarm_id", .str r.alarmId), ("outcome", .str r.outcome.text),
    ("revision", natJson r.revision), ("enabled", .bool r.enabled),
    ("next_occurrence_id", optJson .str r.nextOccurrenceId),
    ("snooze_occurrence_id", optJson .str r.snoozeOccurrenceId),
    ("deduplicated", .bool r.deduplicated)]

def ScheduleRecord.toJson (r : ScheduleRecord) : Json :=
  .obj [("id", .str r.id), ("key", .str r.key), ("purpose", .str r.purpose.text),
    ("spec", r.spec), ("revision", natJson r.revision), ("enabled", .bool r.enabled),
    ("next_occurrence_id", optJson .str r.nextOccurrenceId),
    ("notification", optJson Projection.toJson r.notification)]

def Value.toJson : Value → Json
  | .null => .null
  | .result r => r.toJson
  | .record r => r.toJson

/-- `SchedulerError.as_dict`. -/
def SchedulerError.asDict (e : SchedulerError) : Json :=
  .obj [("code", .str e.code), ("message", .str e.message), ("retryable", .bool e.retryable)]

def Response.toJson : Response → Json
  | .ok v => .obj [("ok", .bool true), ("value", v.toJson)]
  | .error e => .obj [("ok", .bool false), ("error", e.asDict)]

def Receipt.toJson (r : Receipt) : Json :=
  .obj [("fingerprint", .str r.fingerprint), ("response", r.response.toJson)]

def Action.toJson (a : Action) : Json :=
  .obj [("os_action_id", .str a.osActionId), ("parent_occurrence_id", .str a.parentOccurrenceId),
    ("snooze_occurrence_id", .str a.snoozeOccurrenceId), ("duration_seconds", .int a.durationSeconds),
    ("action_received_at_utc", instantJson a.actionReceivedAtUtc),
    ("deduplicated", .bool a.deduplicated), ("result", a.result.toJson)]

def AppRow.toJson (r : AppRow) : Json :=
  .obj [("alarms", dictJson Alarm.toJson r.alarms), ("occurrences", dictJson Occurrence.toJson r.occurrences),
    ("outbox", dictJson Effect.toJson r.outbox), ("guest_events", dictJson Event.toJson r.guestEvents),
    ("commands", dictJson Receipt.toJson r.commands), ("actions", dictJson Action.toJson r.actions),
    ("context", r.context.toJson)]

def Ledger.toJson (l : Ledger) : Json :=
  .obj [("schema_version", .str "vibapp.scheduler-ledger.experimental-v1"),
    ("apps", dictJson AppRow.toJson l.apps)]

/-! ## The transaction -/

variable {α : Type}

/-- `len(result) > MAX_BYTES`. -/
def oversized (value : Json) : Prop := MAX_BYTES < value.dumps.utf8ByteSize

/-- Decided without writing the text out where its bound is enough. -/
instance (value : Json) : Decidable (oversized value) :=
  if h : value.bound ≤ MAX_BYTES then
    .isFalse fun hlt => Nat.not_lt.2 ((value.utf8ByteSize_dumps ▸ value.size_le_bound).trans h) hlt
  else inferInstanceAs (Decidable (MAX_BYTES < value.dumps.utf8ByteSize))

/-- `_encode`: the text of a value, within the byte budget. -/
def encode (value : Json) : Py String :=
  if oversized value then error "resource-limit" "scheduler ledger byte budget exhausted"
  else .ok value.dumps

/-- `_check_layout`. -/
def checkLayout (l : Ledger) : Py Unit := do
  let _ ← encode l.toJson
  return ()

/-- The collections of a row that `_edit` bounds, with their sizes and limits. -/
def AppRow.sizes (r : AppRow) : List (String × Nat × Nat) :=
  [("alarms", r.alarms.size, MAX_SCHEDULES), ("occurrences", r.occurrences.size, MAX_ROWS),
    ("outbox", r.outbox.size, MAX_ROWS), ("guest_events", r.guestEvents.size, MAX_ROWS),
    ("commands", r.commands.size, MAX_ROWS), ("actions", r.actions.size, MAX_ROWS)]

/-- The limits `_edit` checks before it commits. -/
def checkLimits (l : Ledger) : Py Unit :=
  if MAX_APPS < l.apps.size then error "resource-limit" "scheduler app limit reached"
  else
    match (l.apps.values.flatMap AppRow.sizes).find? fun s => s.2.2 < s.2.1 with
    | some (name, _) =>
      error "resource-limit"
        ("scheduler " ++ name ++ " limit reached; audit is not silently evicted")
    | none => .ok ()

/-- `_edit`: the body works on a copy, which replaces the ledger only when every check passes. -/
def edit (l : Ledger) (body : Ledger → Py (Ledger × α)) : Py (Ledger × α) := do
  checkLayout l
  let (l', a) ← body l
  checkLimits l'
  let _ ← encode l'.toJson
  return (l', a)

/-- `_app`. -/
def Ledger.app (l : Ledger) (app : String) : Py AppRow := do
  let app ← checkText app "app ID"
  match l.apps.get? app with
  | some row => return row
  | none => error "not-found" "scheduler app context absent"

/-- `ledger["apps"][app] = row`. -/
def Ledger.setApp (l : Ledger) (app : String) (row : AppRow) : Ledger := ⟨l.apps.set app row⟩

/-- `_authority`. -/
def authority (row : AppRow) (generation : Option String) (mutation : Bool := true)
    (hostAction : Bool := false) : Py Unit :=
  if !row.context.enabled then error "app-disabled" "app-disabled"
  else if generation.isSome && generation ≠ row.context.activeGeneration then
    error "permission-denied" "inactive-generation"
  else if !row.context.schedulerGranted then
    error "permission-denied" "scheduler permission is not granted"
  else if mutation && row.context.rollbackState ≠ .none && !hostAction then
    error "upgrade-in-progress" "upgrade-in-progress"
  else .ok ()

end Vibapp.Scheduler
