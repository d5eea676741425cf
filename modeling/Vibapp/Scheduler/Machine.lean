import Vibapp.Scheduler.Delivery
import Vibapp.Scheduler.Status

/-!
# The scheduler as a machine

The public calls of the backend, what each returns, and runs of them from the empty ledger. A
call that raises leaves the ledger as it was. Every call names the backend it is made through,
since a backend is built anew for each transaction: its zone rules and its time-zone label
may change between calls, and a claim about runs says so when it fixes them.
-/

namespace Vibapp.Scheduler

/-! ## Calls -/

inductive Call
  | hostContext (app : String) (activeGeneration : Option String) (enabled schedulerGranted : Bool)
      (notificationPermission rollbackState : String)
  | command (app : String) (command key : Json) (nowUtc : String)
      (callerGeneration : Option String) (hostAction : Bool)
  | upsert (app : String) (request : Json) (callerGeneration nowUtc : String)
  | toggle (app scheduleId key callerGeneration nowUtc : String) (enable : Bool)
  | acknowledge (app occurrence outcome key callerGeneration deliveryToken : String)
  | listSchedules (app callerGeneration : String)
  | advanceDue (nowUtc : String) (recovery : Bool) (limit : Int)
  | claimNotification (app owner nowUtc : String)
  | finishNotification (app notificationId token result nowUtc : String)
  | claimGuest (app owner nowUtc : String)
  | finishGuest (app guestEventId token result : String)
  | recoverOwner (owner : String)

/-- What a call that did not raise returns. -/
inductive Reply
  | done
  | response (r : Response)
  | status (r : Except SchedulerError StatusReport)
  | schedules (r : Except SchedulerError (List ScheduleRecord))
  | due (processed : List String) (moreDue : Bool)
  | notification (claim : Option NotificationClaim)
  | guest (claim : Option GuestClaim)

/-- The reply to a query: its `SchedulerError` is part of the reply. -/
def answered {α : Type} (l : Ledger) (x : Py α) (reply : Except SchedulerError α → Reply) :
    Py (Ledger × Reply) :=
  match x with
  | .ok a => .ok (l, reply (.ok a))
  | .error (.scheduler e) => .ok (l, reply (.error e))
  | .error r => .error r

/-- The command is an `alarm-status`; it is one before its instant is read. -/
def isStatus (command : Json) : Bool :=
  match object command ["tag", "value"] with
  | .ok ms =>
    match field ms "tag" with
    | .str tag => tag = "alarm-status"
    | _ => false
  | .error _ => false

section

variable (b : Backend)

/-- A mutating call, after its own checks. -/
def Backend.respond (l : Ledger) (m : Py Mutation) : Py (Ledger × Reply) := do
  let (l, r) ← caught l (do b.mutatingCall l (← m))
  return (l, .response r)

/-- A call: its effect on the ledger and its reply, or what it raises. -/
def Backend.perform (l : Ledger) : Call → Py (Ledger × Reply)
  | .hostContext app generation enabled granted permission rollback => do
    let (l, _) ← hostContext l app generation enabled granted permission rollback
    return (l, .done)
  | .command app command key nowUtc generation hostAction =>
    if isStatus command then
      answered l (do
        let ms ← object command ["tag", "value"]
        let _ ← parseUtc nowUtc
        statusCommand l app (field ms "value")) .status
    else b.respond l (b.alarmMutation app command key nowUtc generation hostAction)
  | .upsert app request generation nowUtc =>
    b.respond l (b.upsertMutation app request generation nowUtc)
  | .toggle app id key generation nowUtc enable =>
    b.respond l (b.toggleMutation app id key generation nowUtc enable)
  | .acknowledge app occurrence outcome key generation token =>
    b.respond l (acknowledgeMutation app occurrence outcome key generation token)
  | .listSchedules app generation => answered l (listSchedules l app generation) .schedules
  | .advanceDue nowUtc recovery limit => do
    let (l, processed, more) ← b.advanceDue l nowUtc recovery limit
    return (l, .due processed more)
  | .claimNotification app owner nowUtc => do
    let (l, claim) ← b.claimNotification l app owner nowUtc
    return (l, .notification claim)
  | .finishNotification app id token result nowUtc => do
    let (l, _) ← finishNotification l app id token result nowUtc
    return (l, .done)
  | .claimGuest app owner nowUtc => do
    let (l, claim) ← b.claimGuest l app owner nowUtc
    return (l, .guest claim)
  | .finishGuest app id token result => do
    let (l, _) ← finishGuest l app id token result
    return (l, .done)
  | .recoverOwner owner => do
    let (l, _) ← recoverOwner l owner
    return (l, .done)

/-- The ledger after a call. -/
def Backend.step (l : Ledger) (c : Call) : Ledger :=
  match b.perform l c with
  | .ok (l', _) => l'
  | .error _ => l

end

/-! ## Runs -/

/-- A call, and the backend it is made through. -/
abbrev Input := Backend × Call

/-- The ledger after a run. -/
def after (l : Ledger) (run : List Input) : Ledger := run.foldl (fun l x => x.1.step l x.2) l

@[simp] theorem after_nil (l : Ledger) : after l [] = l := rfl

@[simp] theorem after_append (l : Ledger) (xs ys : List Input) :
    after l (xs ++ ys) = after (after l xs) ys := List.foldl_append

@[simp] theorem after_cons (l : Ledger) (x : Input) (xs : List Input) :
    after l (x :: xs) = after (x.1.step l x.2) xs := rfl

/-- The ledgers that runs from the empty one reach. -/
def Reachable (l : Ledger) : Prop := ∃ run, after .empty run = l

/-- **Invariants.** What holds of the empty ledger and is kept by every call holds of every
reachable ledger. -/
theorem Reachable.invariant {P : Ledger → Prop} (hempty : P .empty)
    (hstep : ∀ b l c, P l → P (Backend.step b l c)) {l : Ledger} (h : Reachable l) : P l := by
  obtain ⟨run, rfl⟩ := h
  induction run using List.reverseRecOn with
  | nil => exact hempty
  | append_singleton xs x ih =>
    rw [after_append]
    exact hstep x.1 _ x.2 ih

theorem Reachable.step {l : Ledger} (h : Reachable l) (b : Backend) (c : Call) :
    Reachable (b.step l c) := by
  obtain ⟨run, rfl⟩ := h
  exact ⟨run ++ [(b, c)], by simp⟩

theorem reachable_empty : Reachable .empty := ⟨[], rfl⟩

/-! ## A sample run

A daily alarm that fires once, on which the results about runs are tried. -/

/-- Universal time. -/
def Zone.utc : Zone := ⟨fun _ _ => 0, fun _ => 0⟩

/-- A backend that knows universal time. Nothing of a sample run reads a digest. -/
def Backend.sample : Backend where
  zones name := if name = "UTC" then some .utc else none
  tzdataLabel := "2024a"
  sha256 _ := ""
  str _ := ""

/-- A daily recurrence, at seven in the zone, from this day on. -/
def sampleDaily (zone : String) (year month day : Nat) : Json :=
  .obj [("tag", .str "recurring"), ("value", .obj
    [("kind", .str "daily"),
      ("time", .obj [("hour", natJson 7), ("minute", natJson 0), ("second", natJson 0)]),
      ("start_date", .obj [("year", natJson year), ("month", natJson month), ("day", natJson day)]),
      ("time_zone", .str zone), ("weekdays", .arr []), ("gap", .str "next-valid"),
      ("overlap", .str "earlier")])]

/-- Configure an alarm of this schedule. -/
def sampleConfigure (id : String) (schedule : Json) : Json :=
  .obj [("tag", .str "alarm-configure"), ("value", .obj
    [("alarm_id", .str id), ("expected_revision", .null), ("schedule", schedule),
      ("notification", .obj
        [("title", .str "Wake up"), ("body", .str ""), ("standard_sound", .bool true)])])]

/-- An app gets its permissions, and configures the alarm. -/
def sampleSetup : List Input :=
  [(.sample, .hostContext "clock" (some "g1") true true "authorized" "none"),
    (.sample, .command "clock" (sampleConfigure "wake" (sampleDaily "UTC" 2024 1 1)) (.str "k1")
      "2024-01-01T00:00:00Z" none false)]

/-- The alarm's first slot comes and is taken up. -/
def sampleRun : List Input := sampleSetup ++ [(.sample, .advanceDue "2024-01-01T07:00:00Z" false 1)]

set_option maxRecDepth 100000 in
/-- The app's row after the sample run. -/
def sampleRow : AppRow := ((after .empty sampleRun).apps.get? "clock").get (by decide +kernel)

theorem sampleRow_eq : (after .empty sampleRun).apps.get? "clock" = some sampleRow :=
  (Option.some_get _).symm

end Vibapp.Scheduler
