import Vibapp.Scheduler.Ledger

/-!
# Commands on the ledger

The alarm transitions of a row (cancel, disable, materialise, configure, toggle, snooze) and
the calls that run them: `_mutating_call` with its authority check and idempotency receipts,
the alarm commands, and the scheduler imports a guest calls.

Where the source mutates an alarm it holds by reference, the definition returns the changed
alarm and its caller stores it under the key it was found by.
-/

namespace Vibapp.Scheduler

section

variable (b : Backend)

/-! ## Alarm transitions -/

/-- `_alarm` of a name that is a string. -/
def alarmNamed (row : AppRow) (alarmId : String) : Py (String × Alarm) := do
  let id ← checkText alarmId "alarm ID" 128
  match row.alarms.get? id with
  | some a => return (id, a)
  | none => error "not-found" "alarm does not exist"

/-- `_alarm`. -/
def alarmOf (row : AppRow) (alarmId : Json) : Py (String × Alarm) := do
  alarmNamed row (← text alarmId "alarm ID" 128)

/-- The occurrence is a still scheduled one of the alarm. -/
def Occurrence.pendingOf (o : Occurrence) (alarmId : String) : Bool :=
  o.alarmId = alarmId && o.state = .scheduled

/-- The loop of `_cancel_pending`. -/
def AppRow.cancelScheduled (row : AppRow) (alarmId : String) : AppRow :=
  { row with
    occurrences := row.occurrences.mapVals fun _ o =>
      if o.pendingOf alarmId then { o with state := .cancelled } else o }

/-- `_cancel_pending`. -/
def cancelPending (row : AppRow) (alarm : Alarm) : AppRow × Alarm :=
  (row.cancelScheduled alarm.alarmId, { alarm with nextOccurrenceId := none })

/-- `_integer(revision + 1, 1, 2**64 - 1)`. -/
def nextRevision (revision : Nat) : Py Nat := do
  let n ← integer (.int (revision + 1)) 1 MAX_REVISION
  return n.toNat

/-- `_disable`. -/
def disable (row : AppRow) (alarm : Alarm) : Py (AppRow × Alarm × Outcome) :=
  if !alarm.enabled then return (row, alarm, .unchanged)
  else do
    let (row, alarm) := cancelPending row alarm
    let revision ← nextRevision alarm.revision
    return (row, { alarm with enabled := false, revision }, .disabled)

/-- The canonical id of a regular occurrence. -/
def occurrenceId (alarmId : String) (revision : Nat) (due : Instant) : String :=
  "occ:" ++ alarmId ++ ":r" ++ toString revision ++ ":" ++ due.text

/-- The id of the `sequence`-th snooze of an occurrence. -/
def snoozeId (parent : String) (sequence : Nat) : String :=
  "snooze:" ++ parent ++ ":" ++ toString sequence

/-- The record `_materialize` adds. -/
def Backend.newOccurrence (alarm : Alarm) (slot : Slot) (oid : String) (parent : Option String) :
    Occurrence where
  occurrence := oid
  alarmId := alarm.alarmId
  revision := alarm.revision
  dueAtUtc := slot.due
  civilDate := slot.civilDate
  tzdataLabel := b.tzdataLabel
  state := .scheduled
  classification := none
  notificationId := none
  parentOccurrenceId := parent

/-- What `_materialize` raises on an id that exists. -/
def rematerialize : SchedulerError :=
  ⟨"integrity-failure", "attempted to rematerialize an occurrence", false⟩

/-- `_materialize` under the id `oid`. -/
def Backend.materializeAs (row : AppRow) (alarm : Alarm) (slot : Slot) (oid : String)
    (parent : Option String) : Py (AppRow × Alarm × String) :=
  if row.occurrences.contains oid then .error (.scheduler rematerialize)
  else
    .ok ({ row with occurrences := row.occurrences.set oid (b.newOccurrence alarm slot oid parent) },
      if parent.isNone then { alarm with nextOccurrenceId := some oid } else alarm, oid)

/-- `_materialize` of the alarm's next regular occurrence. -/
def Backend.materialize (row : AppRow) (alarm : Alarm) (slot : Slot) :
    Py (AppRow × Alarm × String) :=
  b.materializeAs row alarm slot (occurrenceId alarm.alarmId alarm.revision slot.due) none

/-- `_result`. -/
def alarmResult (alarm : Alarm) (outcome : Outcome) (snooze : Option String := none) : AlarmResult where
  alarmId := alarm.alarmId
  outcome := outcome
  revision := alarm.revision
  enabled := alarm.enabled
  nextOccurrenceId := alarm.nextOccurrenceId
  snoozeOccurrenceId := snooze
  deduplicated := false

/-- `row["alarms"][key] = alarm`. -/
def AppRow.setAlarm (row : AppRow) (key : String) (alarm : Alarm) : AppRow :=
  { row with alarms := row.alarms.set key alarm }

/-- `validate_projection`. The body may hold line breaks. -/
def validateProjection (value : Json) : Py Projection := do
  let ms ← object value ["title", "body", "standard_sound"]
  let title ← text (field ms "title") "notification title" 1024
  match field ms "body", field ms "standard_sound" with
  | .str body, .bool sound =>
    if body.utf8ByteSize ≤ 8192 then return ⟨title, body, sound⟩
    else error "invalid-argument" "invalid notification projection"
  | _, _ => error "invalid-argument" "invalid notification projection"

/-- `request["expected_revision"]`: absent, or a revision number. -/
def expectedRevision (value : Json) : Py (Option Int) :=
  match value with
  | .null => return none
  | v => return some (← integer v 0 MAX_REVISION)

/-- The check of `expected_revision` against the stored one. -/
def checkRevision (expected : Option Int) (actual : Nat) : Py Unit :=
  match expected with
  | some n =>
    if n ≠ actual then error "stale-revision" "alarm revision does not match" else return ()
  | none => return ()

/-- What a configuration carries besides the alarm request. -/
structure Config where
  purpose : Purpose
  payload : List Nat
  missed : Missed
  spec : Option Json

/-- `_configure`'s defaults: a plain alarm. -/
def Config.alarm : Config := ⟨.alarm, [], .fireOnce, none⟩

/-- The alarm `_configure` stores, before its first occurrence. -/
def newAlarm (row : AppRow) (alarmId : String) (schedule : Schedule)
    (notification : Option Projection) (revision : Nat) (c : Config) : Alarm where
  alarmId := alarmId
  scheduleId := "schedule:" ++ alarmId
  schedule := schedule
  notification := notification
  enabled := true
  revision := revision
  nextOccurrenceId := none
  permissionHealth := row.context.notificationPermission
  purpose := c.purpose
  payload := c.payload
  missed := c.missed
  spec := c.spec

/-- The row without the slots of the alarm that is about to be replaced. -/
def AppRow.withoutPrevious (row : AppRow) : Option Alarm → AppRow
  | some p => (cancelPending row p).1
  | none => row

/-- `_integer(previous["revision"] + 1 if previous else 1, 1, 2**64 - 1)`. -/
def revisionAfter : Option Alarm → Py Nat
  | some p => nextRevision p.revision
  | none => nextRevision 0

/-- A configuration request after its checks: what `_configure` does from the candidate on. -/
def Backend.install (row : AppRow) (alarmId : String) (schedule : Schedule)
    (notification : Option Projection) (c : Config) (slot : Slot) : Py (AppRow × AlarmResult) := do
  let previous := row.alarms.get? alarmId
  let revision ← revisionAfter previous
  let (row', alarm, _) ← b.materialize (row.withoutPrevious previous)
    (newAlarm row alarmId schedule notification revision c) slot
  return (row'.setAlarm alarmId alarm,
    alarmResult alarm (if previous.isSome then .updated else .created))

/-- The notification of a request: only an alarm has one. -/
def notificationOf (purpose : Purpose) (value : Json) : Py (Option Projection) :=
  if purpose = .alarm then some <$> validateProjection value else pure none

/-- `_configure`. -/
def Backend.configure (row : AppRow) (request : Json) (now : Instant) (c : Config) :
    Py (AppRow × AlarmResult) := do
  let ms ← object request ["alarm_id", "expected_revision", "schedule", "notification"]
  let alarmId ← text (field ms "alarm_id") "alarm ID" 128
  let schedule ← b.validateSchedule (field ms "schedule")
  let notification ← notificationOf c.purpose (field ms "notification")
  let previous := row.alarms.get? alarmId
  let expected ← expectedRevision (field ms "expected_revision")
  checkRevision expected ((previous.map Alarm.revision).getD 0)
  if previous.any fun p => p.purpose ≠ c.purpose then
    error "conflict" "schedule purpose cannot be changed"
  else
    match ← b.nextCivil schedule now none with
    | none => error "invalid-argument" "one-shot must resolve strictly after commit"
    | some slot => b.install row alarmId schedule notification c slot

/-- `_toggle` of an alarm that is disabled, to enabled. -/
def Backend.enable (row : AppRow) (alarm : Alarm) (now : Instant) :
    Py (AppRow × Alarm × Outcome) := do
  match ← b.nextCivil alarm.schedule now none with
  | none => error "conflict" "expired-one-shot"
  | some slot =>
    let revision ← nextRevision alarm.revision
    let (row, alarm, _) ← b.materialize row { alarm with revision, enabled := true } slot
    return (row, alarm, .enabled)

/-- What `_toggle` does to the alarm it found. -/
def Backend.toggleAlarm (row : AppRow) (alarm : Alarm) (now : Instant) (enable : Bool) :
    Py (AppRow × Alarm × Outcome) :=
  if !enable then disable row alarm
  else if !alarm.enabled then b.enable row alarm now
  else return (row, alarm, .unchanged)

/-- `_toggle`. -/
def Backend.toggle (row : AppRow) (request : Json) (now : Instant) (enable : Bool) :
    Py (AppRow × AlarmResult) := do
  let ms ← object request ["alarm_id", "expected_revision"]
  let (key, alarm) ← alarmOf row (field ms "alarm_id")
  let expected ← expectedRevision (field ms "expected_revision")
  checkRevision expected alarm.revision
  let (row, alarm, outcome) ← b.toggleAlarm row alarm now enable
  return (row.setAlarm key alarm, alarmResult alarm outcome)

/-- `sum(a["parent_occurrence_id"] == parent for a in row["actions"].values())`. -/
def AppRow.snoozeCount (row : AppRow) (parent : String) : Nat :=
  row.actions.values.countP fun a => a.parentOccurrenceId = parent

/-- `_snooze` of an action that has not been seen, on an occurrence that was delivered. -/
def Backend.snoozeNew (row : AppRow) (parentId actionId : String) (received : Instant)
    (duration : Int) : Py (AppRow × AlarmResult) :=
  match row.occurrences.get? parentId with
  | none => error "conflict" "snooze requires a delivered parent occurrence"
  | some parent =>
    if parent.state ≠ .notificationAccepted then
      error "conflict" "snooze requires a delivered parent occurrence"
    else do
      let (_, alarm) ← alarmNamed row parent.alarmId
      if !alarm.enabled || parent.revision ≠ alarm.revision then
        error "conflict" "snooze parent is no longer current and enabled"
      else
        match received.add? duration with
        | none => error "invalid-argument" "snooze exceeds representable UTC calendar"
        | some due =>
          let sequence := 1 + row.snoozeCount parentId
          let (row, alarm, oid) ← b.materializeAs row alarm ⟨due, due.date⟩
            (snoozeId parentId sequence) (some parentId)
          let result := alarmResult alarm .snoozed (some oid)
          return ({ row with
              actions := row.actions.set ("action:" ++ actionId)
                ⟨actionId, parentId, oid, duration, received, false, result⟩ }, result)

/-- `_snooze`. -/
def Backend.snooze (row : AppRow) (request : Json) : Py (AppRow × AlarmResult) := do
  let ms ← object request
    ["parent_occurrence_id", "os_action_id", "action_received_at_utc", "duration_seconds"]
  let parentId ← text (field ms "parent_occurrence_id") "parent occurrence" 2048
  let actionId ← text (field ms "os_action_id") "OS action ID"
  let received ← parseUtcJson (field ms "action_received_at_utc")
  let duration ← integer (field ms "duration_seconds") 60 3600
  match row.actions.get? ("action:" ++ actionId) with
  | some prior =>
    if prior.parentOccurrenceId ≠ parentId ∨ prior.durationSeconds ≠ duration then
      error "conflict" "idempotency-conflict"
    else
      return ({ row with
          actions := row.actions.set ("action:" ++ actionId) { prior with deduplicated := true } },
        { prior.result with deduplicated := true })
  | none => b.snoozeNew row parentId actionId received duration

/-! ## `_mutating_call` -/

/-- `str(value)` inside an f-string. -/
def Backend.strOf : Json → String
  | .null => "None"
  | .bool true => "True"
  | .bool false => "False"
  | .int n => toString n
  | .str s => s
  | v => b.str v

/-- `result["value"]["deduplicated"] = True`, where there is such a member. -/
def Response.markDeduplicated : Response → Response
  | .ok (.result r) => .ok (.result { r with deduplicated := true })
  | r => r

/-- The receipt key of an idempotency key. -/
def receiptKey (key : String) : String := "cmd:" ++ key

/-- The payload without what a replay may change. -/
def semanticPayload (operation : String) (payload : List (String × Json)) : List (String × Json) :=
  payload.filter fun p => !(operation = "alarm-snooze" && p.1 = "action_received_at_utc")

/-- `hashlib.sha256(_encode(value)).hexdigest()`. -/
def Backend.digest (value : Json) : Py String := do
  let bytes ← encode value
  return b.sha256 bytes

/-- The fingerprint of a command. -/
def Backend.fingerprint (operation : String) (payload : List (String × Json)) : Py String :=
  b.digest (.obj [("operation", .str operation), ("payload", .obj (semanticPayload operation payload))])

/-- A replayed snooze marks its action. `payload.get` forgives a missing member, the second
access does not. -/
def Backend.markAction (row : AppRow) (operation : String) (payload : List (String × Json)) :
    Py AppRow :=
  let member := payload.lookup "os_action_id"
  let key := "action:" ++ b.strOf (member.getD .null)
  match row.actions.get? key with
  | some action =>
    if operation = "alarm-snooze" then
      match member with
      | some _ => .ok { row with actions := row.actions.set key { action with deduplicated := true } }
      | none => .error .lookupError
    else .ok row
  | none => .ok row

/-- `row["commands"][key] = receipt`. -/
def AppRow.setReceipt (row : AppRow) (key : String) (r : Receipt) : AppRow :=
  { row with commands := row.commands.set key r }

/-- A command whose key has a receipt. -/
def Backend.replay (row : AppRow) (operation : String) (payload : List (String × Json))
    (fingerprint : String) (previous : Receipt) : Py (AppRow × Response) :=
  if previous.fingerprint ≠ fingerprint then
    return (row, .error ⟨"conflict", "idempotency-conflict", false⟩)
  else do
    let row ← b.markAction row operation payload
    return (row, previous.response.markDeduplicated)

/-- A command whose key has no receipt: a failure leaves only its receipt. -/
def execute (row : AppRow) (key fingerprint : String) (callback : AppRow → Py (AppRow × Value)) :
    Py (AppRow × Response) :=
  match callback row with
  | .ok (updated, v) => return (updated.setReceipt key ⟨fingerprint, .ok v⟩, .ok v)
  | .error (.scheduler e) => return (row.setReceipt key ⟨fingerprint, .error e⟩, .error e)
  | .error r => .error r

/-- The body of `_mutating_call` on the app's row. -/
def Backend.mutateRow (row : AppRow) (operation : String) (payload : List (String × Json))
    (key fingerprint : String) (generation : Option String)
    (callback : AppRow → Py (AppRow × Value)) (hostAction : Bool) : Py (AppRow × Response) :=
  match authority row generation true hostAction with
  | .error (.scheduler e) =>
    -- a stale guest cannot replay a prior authorised success
    let row := if row.commands.contains key then row
      else row.setReceipt key ⟨fingerprint, .error e⟩
    return (row, .error e)
  | .error r => .error r
  | .ok () =>
    match row.commands.get? key with
    | some previous => b.replay row operation payload fingerprint previous
    | none => execute row key fingerprint callback

/-- The arguments of one `_mutating_call`. -/
structure Mutation where
  app : String
  operation : String
  payload : Json
  key : Json
  generation : Option String
  callback : AppRow → Py (AppRow × Value)
  hostAction : Bool := false

/-- `_mutating_call`. -/
def Backend.mutatingCall (l : Ledger) (m : Mutation) : Py (Ledger × Response) :=
  match m.payload with
  | .obj payload => do
    let key ← text m.key "idempotency key"
    let fingerprint ← b.fingerprint m.operation payload
    edit l fun l => do
      let row ← l.app m.app
      let (row, response) ← b.mutateRow row m.operation payload (receiptKey key) fingerprint
        m.generation m.callback m.hostAction
      return (l.setApp m.app row, response)
  | _ => error "invalid-argument" "command payload must be a record"

/-- A `SchedulerError` of a command becomes its response. -/
def caught (l : Ledger) (x : Py (Ledger × Response)) : Py (Ledger × Response) :=
  match x with
  | .error (.scheduler e) => .ok (l, .error e)
  | r => r

/-! ## `command` -/

/-- The callback of an alarm command. -/
def Backend.applyAlarm (tag : String) (value : Json) (now : Instant) (row : AppRow) :
    Py (AppRow × Value) := do
  if tag = "alarm-configure" then
    let (row, r) ← b.configure row value now .alarm
    return (row, .result r)
  else if tag = "alarm-snooze" then
    let (row, r) ← b.snooze row value
    return (row, .result r)
  else
    let (row, r) ← b.toggle row value now (tag = "alarm-enable")
    return (row, .result r)

def alarmTags : List String :=
  ["alarm-configure", "alarm-enable", "alarm-disable", "alarm-cancel", "alarm-snooze"]

/-- `command`, up to its `_mutating_call`. -/
def Backend.alarmMutation (app : String) (command key : Json) (nowUtc : String)
    (generation : Option String) (hostAction : Bool) : Py Mutation := do
  let ms ← object command ["tag", "value"]
  let now ← parseUtc nowUtc
  match field ms "tag" with
  | .str tag =>
    if tag = "alarm-snooze" ∧ (!hostAction ∨ generation.isSome) then
      error "permission-denied" "snooze requires a host-verified notification action"
    else if tag ∉ alarmTags then error "invalid-argument" "unsupported alarm command"
    else
      return { app, operation := tag, payload := field ms "value", key, generation,
               callback := b.applyAlarm tag (field ms "value") now,
               hostAction := tag = "alarm-snooze" }
  | _ => error "invalid-argument" "unsupported alarm command"

/-! ## Scheduler imports -/

/-- `_schedule_record`. -/
def scheduleRecord (alarm : Alarm) : ScheduleRecord where
  id := alarm.scheduleId
  key := alarm.alarmId
  purpose := alarm.purpose
  spec := alarm.spec.getD
    (.obj [("tag", .str (if alarm.schedule.isRecurring then "recurring-local" else "at-local")),
      ("value", alarm.schedule.valueJson)])
  revision := alarm.revision
  enabled := alarm.enabled
  nextOccurrenceId := alarm.nextOccurrenceId
  notification := alarm.notification

def purpose? : Json → Option Purpose
  | .str "alarm" => some .alarm
  | .str "service-trigger" => some .serviceTrigger
  | _ => none

def missed? : Json → Option Missed
  | .str "skip" => some .skip
  | .str "fire-once" => some .fireOnce
  | _ => none

/-- One element of `request["payload"]`. -/
def byte? : Json → Option Nat
  | .int n => if 0 ≤ n ∧ n ≤ 255 then some n.toNat else none
  | _ => none

/-- `request["payload"]`: a bounded list of bytes. -/
def payloadBytes (value : Json) : Py (List Nat) :=
  match value with
  | .arr vs =>
    match vs.mapM byte? with
    | some bytes =>
      if bytes.length ≤ MAX_PAYLOAD then .ok bytes
      else error "invalid-argument" "payload must be a bounded list of bytes"
    | none => error "invalid-argument" "payload must be a bounded list of bytes"
  | _ => error "invalid-argument" "payload must be a bounded list of bytes"

/-- The schedule an `at-instant` spec stands for. -/
def instantSchedule (t : Instant) : Json :=
  .obj [("tag", .str "one-shot"), ("value", .obj
    [("when", .obj [("date", dateJson t.date), ("time", timeJson t.time), ("time_zone", .str "UTC")]),
      ("gap", .str "next-valid"), ("overlap", .str "earlier")])]

/-- The schedule of a scheduler spec. -/
def specSchedule (spec : List (String × Json)) : Py Json :=
  match field spec "tag" with
  | .str "at-instant" => do
    let instant ← parseUtcJson (field spec "value")
    return instantSchedule instant
  | .str "at-local" => return .obj [("tag", .str "one-shot"), ("value", field spec "value")]
  | .str "recurring-local" => return .obj [("tag", .str "recurring"), ("value", field spec "value")]
  | _ => error "invalid-argument" "unknown scheduler spec"

/-- The callback of `scheduler_upsert`. -/
def Backend.applyUpsert (alarmId : String) (schedule notification : Json) (c : Config)
    (now : Instant) (row : AppRow) : Py (AppRow × Value) := do
  let prior := row.alarms.get? alarmId
  let request := Json.obj [("alarm_id", .str alarmId),
    ("expected_revision", optJson (fun a => natJson a.revision) prior), ("schedule", schedule),
    ("notification", notification)]
  let (row, _) ← b.configure row request now c
  let alarm ← item (row.alarms.get? alarmId)
  return (row, .record (scheduleRecord alarm))

/-- `scheduler_upsert`, up to its `_mutating_call`. -/
def Backend.upsertMutation (app : String) (request : Json) (generation nowUtc : String) :
    Py Mutation := do
  let generation ← checkText generation "caller generation"
  let ms ← object request
    ["key", "purpose", "spec", "missed", "payload", "notification", "idempotency_key"]
  let alarmId ← text (field ms "key") "schedule key" 128
  match purpose? (field ms "purpose"), missed? (field ms "missed") with
  | some purpose, some missed =>
    if purpose = .alarm ∧ missed ≠ .fireOnce then
      error "incompatible-contract" "Stage 0 alarms require fire-once catch-up semantics"
    else if purpose = .serviceTrigger ∧ !(field ms "notification").isNull then
      error "invalid-argument" "service-trigger cannot carry a notification"
    else
      let payload ← payloadBytes (field ms "payload")
      let spec ← object (field ms "spec") ["tag", "value"]
      let schedule ← specSchedule spec
      let now ← parseUtc nowUtc
      return { app, operation := "scheduler.upsert",
               payload := .obj (ms.filter fun p => p.1 ≠ "idempotency_key"),
               key := field ms "idempotency_key", generation := some generation,
               callback := b.applyUpsert alarmId schedule (field ms "notification")
                 ⟨purpose, payload, missed, some (.obj spec)⟩ now }
  | _, _ => error "invalid-argument" "invalid scheduler purpose or missed policy"

/-- The callback of `_scheduler_toggle`. -/
def Backend.applyToggle (scheduleId : String) (now : Instant) (enable : Bool) (row : AppRow) :
    Py (AppRow × Value) := do
  match row.alarms.entries.find? fun p => p.2.scheduleId = scheduleId with
  | none => error "not-found" "schedule does not exist"
  | some (key, alarm) =>
    let (row, _) ← b.toggle row (.obj [("alarm_id", .str alarm.alarmId),
      ("expected_revision", natJson alarm.revision)]) now enable
    let alarm ← item (row.alarms.get? key)
    return (row, if enable then .record (scheduleRecord alarm) else .null)

/-- `_scheduler_toggle`, up to its `_mutating_call`. -/
def Backend.toggleMutation (app scheduleId key generation nowUtc : String) (enable : Bool) :
    Py Mutation := do
  let generation ← checkText generation "caller generation"
  let scheduleId ← checkText scheduleId "schedule ID"
  let now ← parseUtc nowUtc
  return { app, operation := if enable then "scheduler.enable" else "scheduler.disable",
           payload := .obj [("id", .str scheduleId)], key := .str key,
           generation := some generation, callback := b.applyToggle scheduleId now enable }

def ackOutcome? : String → Option AckOutcome
  | "observed" => some .observed
  | "applied" => some .applied
  | "failed" => some .failed
  | _ => none

/-- The id of the guest event of an occurrence. -/
def guestId (occurrence : String) : String := "guest:" ++ occurrence

/-- The callback of `scheduler_acknowledge_occurrence`. -/
def applyAcknowledge (occurrence : String) (outcome : AckOutcome) (generation token : String)
    (row : AppRow) : Py (AppRow × Value) :=
  let stale := error "conflict" "acknowledgment requires the current guest delivery claim"
  match row.guestEvents.get? (guestId occurrence) with
  | some event =>
    match event.claim with
    | some claim =>
      if claim.token ≠ token ∨ claim.generation ≠ generation then stale
      else
        let event := { event with ackRequested := some outcome }
        .ok ({ row with guestEvents := row.guestEvents.set (guestId occurrence) event }, .null)
    | none => stale
  | none => stale

/-- `scheduler_acknowledge_occurrence`, up to its `_mutating_call`. -/
def acknowledgeMutation (app occurrence outcome key generation token : String) : Py Mutation := do
  let generation ← checkText generation "caller generation"
  match ackOutcome? outcome with
  | none => error "invalid-argument" "invalid occurrence outcome"
  | some o =>
    return { app, operation := "scheduler.acknowledge-occurrence",
             payload := .obj [("occurrence", .str occurrence), ("outcome", .str outcome)],
             key := .str key, generation := some generation,
             callback := applyAcknowledge occurrence o generation token }

/-! ## `host_context` -/

def permission? : String → Option Permission
  | "authorized" => some .authorized
  | "denied" => some .denied
  | "not-determined" => some .notDetermined
  | _ => none

def rollbackState? : String → Option RollbackState
  | "none" => some .none
  | "observation-window" => some .observationWindow
  | "rolling-back" => some .rollingBack
  | _ => none

/-- What `host_context` does to one alarm of the row. -/
def hostAlarm (c : Context) (row : AppRow) (key : String) : Py AppRow :=
  match row.alarms.get? key with
  | none => .ok row
  | some alarm =>
    let alarm := { alarm with permissionHealth := c.notificationPermission }
    if !c.enabled && alarm.enabled then do
      let (row, alarm, _) ← disable row alarm
      return row.setAlarm key alarm
    else .ok (row.setAlarm key alarm)

/-- The body of `host_context` on the app's row. -/
def hostRow (c : Context) (row : AppRow) : Py AppRow :=
  row.alarms.keys.foldlM (hostAlarm c) { row with context := c }

/-- `active_generation`: absent, or a bounded text. -/
def checkGeneration : Option String → Py (Option String)
  | some g => some <$> checkText g "generation"
  | none => pure none

/-- `host_context`. -/
def hostContext (l : Ledger) (app : String) (activeGeneration : Option String)
    (enabled schedulerGranted : Bool) (notificationPermission rollbackState : String) :
    Py (Ledger × Unit) := do
  let app ← checkText app "app ID"
  let generation ← checkGeneration activeGeneration
  match permission? notificationPermission, rollbackState? rollbackState with
  | some p, some r =>
    let c : Context := ⟨generation, enabled, schedulerGranted, p, r⟩
    edit l fun l => do
      let row ← hostRow c ((l.apps.get? app).getD (.new c))
      return (l.setApp app row, ())
  | _, _ => error "invalid-argument" "invalid trusted app context"

end

end Vibapp.Scheduler
