import Vibapp.Lib.Transition
import Vibapp.Scheduler.Machine

/-!
# What one app's row can do

The transitions of a row, one constructor for each write the code makes, with the guard the code
checks before it. The calls of the backend are sequences of these (`Refinement`), and every
invariant is proved of these, once for each kind of write.

* `context`, `health`: `host_context`
* `disable`, `install`, `enable`, `snooze`: the alarm commands, and `disable` also an app that
  the host disables
* `receipt`, `dedup`: `_mutating_call`
* `cancelSlot`, `fireSlot`: `advance_due`
* `effect`: the outbox protocol, with the occurrence whose state follows it
* `event`: the guest event protocol, likewise
-/

namespace Vibapp.Scheduler

/-! ## Acts -/

/-- What happens to a row of the outbox. -/
inductive EffectAct
  | expire (reason : String)
  | grant (owner token : String) (now : Instant)
  | settle (token : String) (result : AdapterResult) (now : Instant)
  | recover (owner : String)

/-- What happens to a guest event. -/
inductive EventAct
  | expire
  | grant (owner token generation : String) (now : Instant)
  | acknowledge (outcome : AckOutcome) (token generation : String)
  | settle (token : String) (result : GuestResult)
  | recover (owner : String)

/-- What happens to a row. -/
inductive Act
  | context
  | command
  | receipt
  | slot (oid : String)
  | effect (id : String) (a : EffectAct)
  | event (id : String) (a : EventAct)

/-! ## The outbox protocol -/

/-- `_failed_notification`, of the effect. -/
def Effect.fail (e : Effect) (reason : String) : Effect :=
  { e with state := .failed, claim := none, failure := some reason }

/-- One transition of an outbox row whose occurrence is due at `due`, of an app with the given
notification permission, and the state it gives the occurrence, if any. -/
inductive EffectStep (permission : Permission) (due : Instant) :
    EffectAct → Effect → Effect → Option OccurrenceState → Prop
  | expire {e : Effect} {now : Instant} {reason : String}
      (h : considerEffect permission due now e = .ok (.fail reason)) :
      EffectStep permission due (.expire reason) e (e.fail reason) (some .notificationFailed)
  | grant {e : Effect} {now : Instant} (owner token : String)
      (h : considerEffect permission due now e = .ok .grant) :
      EffectStep permission due (.grant owner token now) e (e.granted owner token now) none
  | accept {e : Effect} {c : EffectClaim} (attempts : List Attempt) (now : Instant)
      (hc : e.claim = some c) :
      EffectStep permission due (.settle c.token .accepted now) e
        { e with attempts, claim := none, state := .accepted } (some .notificationAccepted)
  | retry {e : Effect} {c : EffectClaim} (attempts : List Attempt) {result : AdapterResult}
      {now : Instant} (hc : e.claim = some c) (hr : result ≠ .accepted)
      (hx : exhausted e due now = .ok false) :
      EffectStep permission due (.settle c.token result now) e { e with attempts, claim := none } none
  | giveUp {e : Effect} {c : EffectClaim} (attempts : List Attempt) {result : AdapterResult}
      {now : Instant} (reason : String) (hc : e.claim = some c) (hr : result ≠ .accepted)
      (hx : exhausted e due now = .ok true) :
      EffectStep permission due (.settle c.token result now) e
        ({ e with attempts, claim := none }.fail reason) (some .notificationFailed)
  | recover {e : Effect} {c : EffectClaim} (hc : e.claim = some c)
      (hn : e.adapterAttemptCount < 3) :
      EffectStep permission due (.recover c.owner) e { e with claim := none } none
  | lose {e : Effect} {c : EffectClaim} (reason : String) (hc : e.claim = some c)
      (hn : 3 ≤ e.adapterAttemptCount) :
      EffectStep permission due (.recover c.owner) e (e.fail reason) (some .notificationFailed)

/-- Write an effect, and the state its occurrence gets. -/
def AppRow.putEffect (row : AppRow) (key : String) (e : Effect) (occ : Occurrence)
    (state : Option OccurrenceState) : AppRow :=
  { row with
    outbox := row.outbox.set key e
    occurrences :=
      match state with
      | some state => row.occurrences.set e.occurrenceId { occ with state }
      | none => row.occurrences }

/-! ## The guest event protocol -/

/-- The event after a finished run that did not acknowledge it. -/
def Event.release (e : Event) : Event :=
  { e with state := if 3 ≤ e.attempts then .deadLettered else .pending
           claim := none, ackRequested := none }

/-- The event after its owner was lost. -/
def Event.recovered (e : Event) : Event :=
  { e with claim := none, ackRequested := none,
           state := if 3 ≤ e.attempts then .deadLettered else e.state }

/-- The event after an acknowledged run. -/
def Event.ack (e : Event) (outcome : AckOutcome) : Event :=
  { e with state := .acked, guestOutcome := some outcome, claim := none, ackRequested := none }

/-- One transition of a guest event of a row. -/
inductive EventStep (row : AppRow) : EventAct → Event → Event → Prop
  | expire {e : Event} {now : Instant} (hr : e.notReady now = false) (hn : 3 ≤ e.attempts) :
      EventStep row .expire e { e with state := .deadLettered }
  | grant {e : Event} {now : Instant} {generation : String} (owner token : String)
      (hg : row.guestGeneration = some generation) (hr : e.notReady now = false)
      (hn : e.attempts < 3) :
      EventStep row (.grant owner token generation now) e (e.granted owner token generation now)
  | acknowledge {e : Event} {c : EventClaim} (outcome : AckOutcome) (hc : e.claim = some c)
      (ha : authority row (some c.generation) = .ok ()) :
      EventStep row (.acknowledge outcome c.token c.generation) e
        { e with ackRequested := some outcome }
  | success {e : Event} {c : EventClaim} {outcome : AckOutcome} (hc : e.claim = some c)
      (ha : authority row (some c.generation) = .ok ()) (ho : e.ackRequested = some outcome) :
      EventStep row (.settle c.token .success) e (e.ack outcome)
  | release {e : Event} {c : EventClaim} {result : GuestResult} (hc : e.claim = some c)
      (hr : result ≠ .success) :
      EventStep row (.settle c.token result) e e.release
  | recover {e : Event} {c : EventClaim} (hc : e.claim = some c) :
      EventStep row (.recover c.owner) e e.recovered

/-- The finish of a run that acknowledged the event. -/
def EventAct.isSuccess : EventAct → Bool
  | .settle _ .success => true
  | _ => false

/-- Write an event. -/
def AppRow.putEvent (row : AppRow) (key : String) (e : Event) : AppRow :=
  { row with guestEvents := row.guestEvents.set key e }

/-- Write an acknowledged event; its occurrence follows when nothing else awaits it. -/
def AppRow.putAcked (row : AppRow) (key : String) (e : Event) (occ : Occurrence) : AppRow :=
  { row with
    guestEvents := row.guestEvents.set key e
    occurrences :=
      if occ.state = .guestPending then
        row.occurrences.set e.occurrenceId { occ with state := .guestAcked }
      else row.occurrences }

/-! ## Transitions of a row -/

/-- The alarm after `_disable`. -/
def Alarm.disabled (a : Alarm) : Alarm :=
  { a with nextOccurrenceId := none, enabled := false, revision := a.revision + 1 }

/-- The alarm stored and its next regular slot added. -/
def Backend.armed (b : Backend) (row : AppRow) (key : String) (a : Alarm) (slot : Slot) : AppRow :=
  let oid := occurrenceId a.alarmId a.revision slot.due
  { row with
    occurrences := row.occurrences.set oid (b.newOccurrence a slot oid none)
    alarms := row.alarms.set key { a with nextOccurrenceId := some oid } }

/-- A row whose alarm of that id, if there is one, is about to be replaced. -/
def AppRow.superseded (row : AppRow) (id : String) : AppRow :=
  match row.alarms.get? id with
  | some _ => row.cancelScheduled id
  | none => row

/-- The revision a configuration of that alarm gets. -/
def AppRow.nextRevision (row : AppRow) (id : String) : Nat :=
  ((row.alarms.get? id).map Alarm.revision).getD 0 + 1

/-- A snooze: the child occurrence, due at `due`, and its action. -/
def Backend.snoozed (b : Backend) (row : AppRow) (parentId actionId : String) (received due : Instant)
    (duration : Int) (a : Alarm) : AppRow :=
  let oid := snoozeId parentId (1 + row.snoozeCount parentId)
  { row with
    occurrences := row.occurrences.set oid
      (b.newOccurrence a ⟨due, due.date⟩ oid (some parentId))
    actions := row.actions.set ("action:" ++ actionId)
      ⟨actionId, parentId, oid, duration, received, false, alarmResult a .snoozed (some oid)⟩ }

/-- One transition of a row of the app. -/
inductive RowStep (b : Backend) (app : String) : Act → AppRow → AppRow → Prop
  | context {row : AppRow} (c : Context) : RowStep b app .context row { row with context := c }
  | health {row : AppRow} {key : String} {a : Alarm} (p : Permission)
      (ha : row.alarms.get? key = some a) :
      RowStep b app .context row (row.setAlarm key { a with permissionHealth := p })
  | disable {row : AppRow} {key : String} {a : Alarm} (ha : row.alarms.get? key = some a)
      (hen : a.enabled = true) :
      RowStep b app .command row ((row.cancelScheduled a.alarmId).setAlarm key a.disabled)
  | install {row : AppRow} {id : String} {schedule : Schedule} {notification : Option Projection}
      {c : Config} {slot : Slot} {now : Instant} (hctx : row.context.enabled = true)
      (hpurpose : ∀ a, row.alarms.get? id = some a → a.purpose = c.purpose)
      (hslot : b.nextCivil schedule now none = .ok (some slot))
      (hnew : row.occurrences.get? (occurrenceId id (row.nextRevision id) slot.due) = none) :
      RowStep b app .command row
        (b.armed (row.superseded id) id
          (newAlarm row id schedule notification (row.nextRevision id) c) slot)
  | enable {row : AppRow} {key : String} {a : Alarm} {slot : Slot} {now : Instant}
      (hctx : row.context.enabled = true) (ha : row.alarms.get? key = some a)
      (hdis : a.enabled = false) (hslot : b.nextCivil a.schedule now none = .ok (some slot))
      (hnew : row.occurrences.get? (occurrenceId a.alarmId (a.revision + 1) slot.due) = none) :
      RowStep b app .command row
        (b.armed row key { a with revision := a.revision + 1, enabled := true } slot)
  | snooze {row : AppRow} {parentId actionId : String} {received due : Instant} {duration : Int}
      {parent : Occurrence} {a : Alarm} (hctx : row.context.enabled = true)
      (hact : row.actions.get? ("action:" ++ actionId) = none)
      (hp : row.occurrences.get? parentId = some parent)
      (hstate : parent.state = .notificationAccepted)
      (ha : row.alarms.get? parent.alarmId = some a) (hen : a.enabled = true)
      (hrev : parent.revision = a.revision) (hdur : 60 ≤ duration ∧ duration ≤ 3600)
      (hdue : received.add? duration = some due)
      (hnew : row.occurrences.get? (snoozeId parentId (1 + row.snoozeCount parentId)) = none) :
      RowStep b app .command row (b.snoozed row parentId actionId received due duration a)
  | receipt {row : AppRow} {key : String} (r : Receipt) (hnew : row.commands.get? key = none) :
      RowStep b app .receipt row (row.setReceipt key r)
  | dedup {row : AppRow} {key : String} {x : Action} (hx : row.actions.get? key = some x) :
      RowStep b app .command row
        { row with actions := row.actions.set key { x with deduplicated := true } }
  | cancelSlot {row : AppRow} {oid : String} {occ : Occurrence} {a : Alarm}
      (ho : row.occurrences.get? oid = some occ) (hs : occ.state = .scheduled)
      (ha : row.alarms.get? occ.alarmId = some a) (hr : revoked row a occ = true) :
      RowStep b app (.slot oid) row (row.cancelSlot oid occ a)
  | fireSlot {row row' : AppRow} {oid : String} {occ : Occurrence} {a : Alarm} {x : Advance}
      (ho : row.occurrences.get? oid = some occ) (hs : occ.state = .scheduled)
      (hdue : occ.dueAtUtc ≤ x.now) (ha : row.alarms.get? occ.alarmId = some a)
      (hr : revoked row a occ = false) (h : b.fireSlot x app row oid occ a = .ok row') :
      RowStep b app (.slot oid) row row'
  | effect {row : AppRow} {key : String} {act : EffectAct} {e e' : Effect} {occ : Occurrence}
      {state : Option OccurrenceState} (he : row.outbox.get? key = some e)
      (ho : row.occurrences.get? e.occurrenceId = some occ)
      (hstep : EffectStep row.context.notificationPermission occ.dueAtUtc act e e' state)
      (htoken : ∀ owner token now, act = .grant owner token now →
        b.claimToken app e.notificationId owner (e.adapterAttemptCount + 1) = .ok token) :
      RowStep b app (.effect key act) row (row.putEffect key e' occ state)
  | recoverEffect {row : AppRow} {key : String} {e : Effect} {c : EffectClaim}
      (he : row.outbox.get? key = some e) (hc : e.claim = some c)
      (hn : e.adapterAttemptCount < 3) :
      RowStep b app (.effect key (.recover c.owner)) row
        { row with outbox := row.outbox.set key { e with claim := none } }
  | event {row : AppRow} {key : String} {act : EventAct} {e e' : Event}
      (he : row.guestEvents.get? key = some e) (hstep : EventStep row act e e')
      (hact : act.isSuccess = false)
      (htoken : ∀ owner token generation now, act = .grant owner token generation now →
        b.claimToken app e.guestEventId owner (e.attempts + 1) = .ok token) :
      RowStep b app (.event key act) row (row.putEvent key e')
  | acked {row : AppRow} {key : String} {act : EventAct} {e e' : Event} {occ : Occurrence}
      (he : row.guestEvents.get? key = some e)
      (ho : row.occurrences.get? e.occurrenceId = some occ) (hstep : EventStep row act e e')
      (hact : act.isSuccess = true) :
      RowStep b app (.event key act) row (row.putAcked key e' occ)

end Vibapp.Scheduler
