import Vibapp.Scheduler.Due

/-!
# Delivery of notifications and guest events

The claims, completions and recoveries of the outbox and of the guest events. A claim scans
the rows of its app in order, by eligibility and id, fails or dead-letters what can no longer
be tried, and grants the first row that is ready, with a token that names the app, the row, the
owner and the attempt.
-/

namespace Vibapp.Scheduler

/-- `OverflowError` of date arithmetic. -/
def overflow {α : Type} (x : Option α) : Py α :=
  match x with
  | some a => .ok a
  | none => .error .overflowError

/-! ## Notifications -/

/-- What a granted notification claim returns. -/
structure NotificationClaim where
  notificationId : String
  adapterId : String
  projection : Option Projection
  token : String

/-- The occurrence's state follows its effect's. -/
def AppRow.setOccurrenceState (row : AppRow) (oid : String) (state : OccurrenceState) : Py AppRow := do
  let occ ← item (row.occurrences.get? oid)
  return { row with occurrences := row.occurrences.set oid { occ with state } }

/-- `_failed_notification` of the effect under `key`. -/
def failedNotification (row : AppRow) (key : String) (effect : Effect) (reason : String) : Py AppRow :=
  let effect := { effect with state := .failed, claim := none, failure := some reason }
  let row := { row with outbox := row.outbox.set key effect }
  row.setOccurrenceState effect.occurrenceId .notificationFailed

/-- What the scan of `claim_notification` does with a row. -/
inductive Verdict
  | skip
  | fail (reason : String)
  | grant
deriving DecidableEq

/-- The last instant of a row's next attempt. The first one may come late when the row
became eligible late. -/
def attemptDeadline (due : Instant) (effect : Effect) : Py Instant := do
  let deadline ← overflow (due.add? GRACE_SECONDS)
  if effect.adapterAttemptCount = 0 then
    let tolerated ← overflow (effect.firstEligibleAtUtc.add? effect.firstAttemptTolerance)
    return max deadline tolerated
  else return deadline

/-- The checks of the scan of `claim_notification` on a row whose occurrence is due at `due`. -/
def considerEffect (permission : Permission) (due now : Instant) (effect : Effect) : Py Verdict :=
  if effect.state ≠ .pending ∨ effect.claim ≠ none then return .skip
  else if now < due then return .skip
  else if permission ≠ .authorized then return .fail "permission-denied"
  else do
    let count := effect.adapterAttemptCount
    let deadline ← attemptDeadline due effect
    if 3 ≤ count ∨ deadline < now then return .fail "retry-deadline-exhausted"
    else
      -- `count < 3` here, so the offset exists
      let eligible ← overflow
        (effect.firstEligibleAtUtc.add? ((RETRY_OFFSETS[count]?).getD 0))
      return if now < eligible then .skip else .grant

/-- The effect after a granted claim. -/
def Effect.granted (effect : Effect) (owner token : String) (now : Instant) : Effect :=
  { effect with
    claim := some ⟨owner, token, now⟩
    adapterAttemptCount := effect.adapterAttemptCount + 1
    attempts := effect.attempts ++ [⟨now, .unknown, none⟩] }

/-- The order of `claim_notification`'s scan. -/
def AppRow.effectOrder (row : AppRow) : List String :=
  (row.outbox.entries.mergeSort fun p q =>
    decide (toLex (p.2.firstEligibleAtUtc, p.2.notificationId) ≤
      toLex (q.2.firstEligibleAtUtc, q.2.notificationId))).map Prod.fst

section

variable (b : Backend)

/-- The token of the `attempt`-th claim of a row. -/
def Backend.claimToken (app id owner : String) (attempt : Nat) : Py String :=
  b.digest (.arr [.str app, .str id, .str owner, natJson attempt])

/-- The scan of `claim_notification` over the rows still to come. -/
def Backend.scanEffects (app owner : String) (now : Instant) :
    List String → AppRow → Py (AppRow × Option NotificationClaim)
  | [], row => return (row, none)
  | key :: rest, row => do
    let effect ← item (row.outbox.get? key)
    let occ ← item (row.occurrences.get? effect.occurrenceId)
    match ← considerEffect row.context.notificationPermission occ.dueAtUtc now effect with
    | .skip => scanEffects app owner now rest row
    | .fail reason => do
      let row ← failedNotification row key effect reason
      scanEffects app owner now rest row
    | .grant => do
      let token ← b.claimToken app effect.notificationId owner (effect.adapterAttemptCount + 1)
      let claim := ⟨effect.notificationId, effect.adapterId, effect.projection, token⟩
      return ({ row with outbox := row.outbox.set key (effect.granted owner token now) }, some claim)

/-- `claim_notification`. -/
def Backend.claimNotification (l : Ledger) (app owner nowUtc : String) :
    Py (Ledger × Option NotificationClaim) := do
  let owner ← checkText owner "daemon incarnation"
  let now ← parseUtc nowUtc
  edit l fun l => do
    let row ← l.app app
    let (row, claim) ← b.scanEffects app owner now row.effectOrder row
    return (l.setApp app row, claim)

end

def adapterResult? : String → Option AdapterResult
  | "accepted" => some .accepted
  | "transient-failure" => some .transientFailure
  | "unknown" => some .unknown
  | "unavailable" => some .unavailable
  | _ => none

/-- `attempts[-1].update(…)`. -/
def finishLast (attempts : List Attempt) (result : AdapterResult) (now : Instant) :
    Py (List Attempt) :=
  match attempts.getLast? with
  | some a => .ok (attempts.dropLast ++ [{ a with result, completedAtUtc := some now }])
  | none => .error .lookupError

/-- A finished attempt was the last one: the third, or past the due slot's grace. -/
def exhausted (effect : Effect) (due now : Instant) : Py Bool :=
  if 3 ≤ effect.adapterAttemptCount then return true
  else do
    let cutoff ← overflow (due.add? GRACE_SECONDS)
    return cutoff < now

/-- The body of `finish_notification` on the app's row. -/
def finishEffect (row : AppRow) (id token : String) (result : AdapterResult) (now : Instant) :
    Py AppRow :=
  let stale := error "conflict" "stale notification claim"
  match row.outbox.get? id with
  | some effect =>
    match effect.claim with
    | some claim =>
      if claim.token ≠ token then stale
      else do
        let attempts ← finishLast effect.attempts result now
        let effect := { effect with attempts, claim := none }
        if result = .accepted then
          let row := { row with outbox := row.outbox.set id { effect with state := .accepted } }
          row.setOccurrenceState effect.occurrenceId .notificationAccepted
        else
          let occ ← item (row.occurrences.get? effect.occurrenceId)
          if ← exhausted effect occ.dueAtUtc now then
            failedNotification row id effect
              (if result = .unavailable then "capability-unavailable" else "retry-exhausted")
          else return { row with outbox := row.outbox.set id effect }
    | none => stale
  | none => stale

/-- `finish_notification`. -/
def finishNotification (l : Ledger) (app id token result nowUtc : String) : Py (Ledger × Unit) := do
  let now ← parseUtc nowUtc
  match adapterResult? result with
  | none => error "invalid-argument" "unsupported notification adapter result"
  | some result =>
    edit l fun l => do
      let row ← l.app app
      let row ← finishEffect row id token result now
      return (l.setApp app row, ())

/-! ## Guest events -/

/-- What a granted guest claim returns: the host's part, and the delivered event. -/
structure GuestClaim where
  guestEventId : String
  generation : String
  token : String
  schedule : String
  key : String
  scheduledForUtc : Instant
  dispatchedAtUtc : Instant
  classification : Classification
  payload : List Nat
  occurrence : String
  attempt : Nat

/-- The generation guest events are routed to: none unless the app may run guests. -/
def AppRow.guestGeneration (row : AppRow) : Option String :=
  let c := row.context
  if !c.enabled || !c.schedulerGranted || c.rollbackState ≠ .none then none
  else c.activeGeneration.filter (· ≠ "")

/-- The event after a granted claim. -/
def Event.granted (event : Event) (owner token generation : String) (now : Instant) : Event :=
  { event with
    attempts := event.attempts + 1
    claim := some ⟨owner, token, generation⟩
    routedGeneration := some generation
    dispatchedAtUtc := some now
    ackRequested := none }

/-- The order of `claim_guest`'s scan. -/
def AppRow.eventOrder (row : AppRow) : List String :=
  (row.guestEvents.entries.mergeSort fun p q =>
    decide (toLex (p.2.scheduledForUtc, p.2.guestEventId) ≤
      toLex (q.2.scheduledForUtc, q.2.guestEventId))).map Prod.fst

/-- The scan passes over the event. -/
def Event.notReady (event : Event) (now : Instant) : Bool :=
  event.state ≠ .pending || event.claim.isSome || now < event.scheduledForUtc

section

variable (b : Backend)

/-- The scan of `claim_guest` over the events still to come. -/
def Backend.scanEvents (app owner generation : String) (now : Instant) :
    List String → AppRow → Py (AppRow × Option GuestClaim)
  | [], row => return (row, none)
  | key :: rest, row => do
    let event ← item (row.guestEvents.get? key)
    if event.notReady now then scanEvents app owner generation now rest row
    else if 3 ≤ event.attempts then
      scanEvents app owner generation now rest
        { row with guestEvents := row.guestEvents.set key { event with state := .deadLettered } }
    else
      let token ← b.claimToken app event.guestEventId owner (event.attempts + 1)
      let claim := ⟨event.guestEventId, generation, token, event.schedule, event.key,
        event.scheduledForUtc, now, event.classification, event.payload, event.occurrenceId,
        event.attempts + 1⟩
      return ({ row with guestEvents :=
                  row.guestEvents.set key (event.granted owner token generation now) }, some claim)

/-- `claim_guest`. -/
def Backend.claimGuest (l : Ledger) (app owner nowUtc : String) :
    Py (Ledger × Option GuestClaim) := do
  let owner ← checkText owner "daemon incarnation"
  let now ← parseUtc nowUtc
  edit l fun l => do
    let row ← l.app app
    match row.guestGeneration with
    | none => return (l, none)
    | some generation =>
      let (row, claim) ← b.scanEvents app owner generation now row.eventOrder row
      return (l.setApp app row, claim)

end

/-- Results of a guest run. -/
inductive GuestResult
  | success | trap | timeout
deriving DecidableEq

def guestResult? : String → Option GuestResult
  | "success" => some .success
  | "trap" => some .trap
  | "timeout" => some .timeout
  | _ => none

/-- An acknowledged event's occurrence, when nothing else awaits it. -/
def AppRow.guestAcked (row : AppRow) (oid : String) : Py AppRow := do
  let occ ← item (row.occurrences.get? oid)
  if occ.state = .guestPending then row.setOccurrenceState oid .guestAcked else return row

/-- The body of `finish_guest` on the app's row. -/
def finishEvent (row : AppRow) (id token : String) (result : GuestResult) : Py AppRow :=
  let stale := error "conflict" "stale guest claim"
  match row.guestEvents.get? id with
  | some event =>
    match event.claim with
    | some claim =>
      if claim.token ≠ token then stale
      else if result = .success then do
        authority row (some claim.generation)
        match event.ackRequested with
        | none => error "conflict" "successful guest commit requires an occurrence acknowledgment"
        | some outcome =>
          let event := { event with
            state := .acked, guestOutcome := some outcome, claim := none, ackRequested := none }
          let row := { row with guestEvents := row.guestEvents.set id event }
          row.guestAcked event.occurrenceId
      else
        let state := if 3 ≤ event.attempts then .deadLettered else .pending
        let event := { event with state, claim := none, ackRequested := none }
        return { row with guestEvents := row.guestEvents.set id event }
    | none => stale
  | none => stale

/-- `finish_guest`. -/
def finishGuest (l : Ledger) (app id token result : String) : Py (Ledger × Unit) :=
  match guestResult? result with
  | none => error "invalid-argument" "unsupported guest result"
  | some result =>
    edit l fun l => do
      let row ← l.app app
      let row ← finishEvent row id token result
      return (l.setApp app row, ())

/-! ## Recovery of a lost owner -/

/-- What `recover_owner` does to one outbox row. -/
def recoverEffect (owner : String) (row : AppRow) (key : String) : Py AppRow := do
  let effect ← item (row.outbox.get? key)
  if effect.claim.any fun c => c.owner = owner then
    let effect := { effect with claim := none }
    if 3 ≤ effect.adapterAttemptCount then
      failedNotification row key effect "last-attempt-owner-lost"
    else return { row with outbox := row.outbox.set key effect }
  else return row

/-- What `recover_owner` does to one guest event. -/
def recoverEvent (owner : String) (row : AppRow) (key : String) : Py AppRow := do
  let event ← item (row.guestEvents.get? key)
  if event.claim.any fun c => c.owner = owner then
    let state := if 3 ≤ event.attempts then .deadLettered else event.state
    let event := { event with claim := none, ackRequested := none, state }
    return { row with guestEvents := row.guestEvents.set key event }
  else return row

/-- The body of `recover_owner` on one row. -/
def recoverRow (owner : String) (row : AppRow) : Py AppRow := do
  let row ← row.outbox.keys.foldlM (recoverEffect owner) row
  row.guestEvents.keys.foldlM (recoverEvent owner) row

/-- The body of `recover_owner` on one app. -/
def recoverApp (owner : String) (l : Ledger) (app : String) : Py Ledger := do
  let row ← item (l.apps.get? app)
  return l.setApp app (← recoverRow owner row)

/-- `recover_owner`. -/
def recoverOwner (l : Ledger) (owner : String) : Py (Ledger × Unit) := do
  let owner ← checkText owner "daemon incarnation"
  edit l fun l => do
    return (← l.apps.keys.foldlM (recoverApp owner) l, ())

end Vibapp.Scheduler
