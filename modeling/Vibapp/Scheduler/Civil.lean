import Vibapp.Lib.Calendar
import Vibapp.Lib.Json

/-!
# Wire values, time zones and civil schedules

The scheduler backend's argument checks (`object`, `text`, `integer`), its civil-time
resolution and its recurrence rule.

**Errors.** A call raises a `SchedulerError`, or one of the two Python exceptions it does not
translate: `OverflowError` from date arithmetic, `LookupError` from a missing member.

**Zones.** A zone is what `datetime` asks of a `tzinfo`: the offset of a local time for either
fold, and the offset of a UTC instant. The zone database is a parameter of the backend, so
every result holds for every set of rules.

**Instants** are kept as numbers. The source keeps their canonical texts and compares these,
which is the same order (`Instant.text_le_text_iff`).
-/

namespace Vibapp.Scheduler

/-! ## Errors -/

/-- `SchedulerError`. -/
structure SchedulerError where
  code : String
  message : String
  retryable : Bool := false
deriving DecidableEq

/-- What a call raises. -/
inductive Raised
  | scheduler (e : SchedulerError)
  | overflowError
  | lookupError
deriving DecidableEq

/-- A computation that may raise. -/
abbrev Py (α : Type) := Except Raised α

variable {α : Type}

/-- `_error`. -/
def error (code message : String) : Py α := .error (.scheduler ⟨code, message, false⟩)

/-- `d[k]` where a missing key is a `LookupError`. -/
def item (x : Option α) : Py α :=
  match x with
  | some a => .ok a
  | none => .error .lookupError

/-! ## Wire values -/

/-- `_object`: the members of a record with exactly these fields. -/
def object (value : Json) (fields : List String) : Py (List (String × Json)) :=
  match value with
  | .obj ms =>
    if (∀ p ∈ ms, p.1 ∈ fields) ∧ (∀ f ∈ fields, f ∈ ms.map Prod.fst) then .ok ms
    else error "invalid-argument" "record fields do not match the frozen scheduler contract"
  | _ => error "invalid-argument" "record fields do not match the frozen scheduler contract"

/-- A field of a record that `object` accepted. -/
def field (ms : List (String × Json)) (k : String) : Json := (ms.lookup k).getD .null

/-- `_text` of a string: bounded UTF-8 without control characters. -/
def checkText (s name : String) (limit : Nat := 256) : Py String :=
  if s ≠ "" ∧ s.utf8ByteSize ≤ limit ∧ s.toList.all (fun c => 32 ≤ c.toNat) then .ok s
  else error "invalid-argument" ("invalid or oversized " ++ name)

/-- `_text`. -/
def text (value : Json) (name : String) (limit : Nat := 256) : Py String :=
  match value with
  | .str s => checkText s name limit
  | _ => error "invalid-argument" ("invalid or oversized " ++ name)

/-- `_integer`. -/
def integer (value : Json) (low high : Int) : Py Int :=
  match value with
  | .int n =>
    if low ≤ n ∧ n ≤ high then .ok n
    else error "invalid-argument" "integer outside supported range"
  | _ => error "invalid-argument" "integer outside supported range"

/-- The text has the layout `YYYY-MM-DDTHH:MM:SSZ`, digits for letters. -/
def utcLayout (value : String) : Bool :=
  let layout := "0000-00-00T00:00:00Z".toList
  value.toList.length = layout.length &&
    (value.toList.zip layout).all fun p => if p.2 = '0' then p.1.isDigit else p.1 = p.2

/-- `parse_utc`. -/
def parseUtc (value : String) : Py Instant :=
  if !utcLayout value then
    error "invalid-argument" "timestamp must be canonical YYYY-MM-DDTHH:MM:SSZ"
  else
    match Instant.ofText? value with
    | some t => .ok t
    | none => error "invalid-argument" "timestamp is not a calendar instant"

/-- `parse_utc` of a member of a record. -/
def parseUtcJson (value : Json) : Py Instant :=
  match value with
  | .str s => parseUtc s
  | _ => error "invalid-argument" "timestamp must be canonical YYYY-MM-DDTHH:MM:SSZ"

/-- `_date`. -/
def date (value : Json) : Py Date := do
  let ms ← object value ["year", "month", "day"]
  let y ← integer (field ms "year") 1 9999
  let m ← integer (field ms "month") 1 12
  let d ← integer (field ms "day") 1 31
  match Date.ofYmd? y.toNat m.toNat d.toNat with
  | some x => return x
  | none => error "invalid-argument" "invalid civil date"

/-- `_time`. -/
def time (value : Json) : Py Time := do
  let ms ← object value ["hour", "minute", "second"]
  let h ← integer (field ms "hour") 0 23
  let m ← integer (field ms "minute") 0 59
  let s ← integer (field ms "second") 0 59
  -- the three ranges make this a time of day, so `item` never raises here
  item (Time.ofHms? h.toNat m.toNat s.toNat)

/-! ## Zones and civil time -/

/-- A time zone: the UTC offset of a naive local time for `fold=0` and `fold=1`, and the offset
in force at a UTC instant, in seconds. -/
structure Zone where
  utcoffset : Instant → Bool → Int
  offsetAt : Instant → Int

/-- `local.replace(tzinfo=zone, fold=fold).astimezone(UTC)`. -/
def Zone.toUtc (z : Zone) (local_ : Instant) (fold : Bool) : Option Instant :=
  local_.add? (-z.utcoffset local_ fold)

/-- `v.astimezone(zone).replace(tzinfo=None)`. -/
def Zone.fromUtc (z : Zone) (v : Instant) : Option Instant := v.add? (z.offsetAt v)

/-- `resolve_civil`: the earlier fold; a nonexistent local time is shifted by the gap. -/
def resolveCivil (d : Date) (t : Time) (z : Zone) : Py Instant :=
  let local_ := Instant.combine d t
  match z.toUtc local_ false, z.toUtc local_ true with
  | some v0, some v1 =>
    match z.fromUtc v0, z.fromUtc v1 with
    | some r0, some r1 =>
      let choices := [(v0, r0), (v1, r1)]
      match ((choices.filter fun c => c.2 = local_).map Prod.fst).min? with
      | some v => .ok v
      | none =>
        match ((choices.filter fun c => local_ < c.2).map Prod.fst).min? with
        | some v => .ok v
        | none => error "invalid-argument" "civil gap cannot be resolved"
    | _, _ => error "invalid-argument" "civil time exceeds representable UTC calendar"
  | _, _ => error "invalid-argument" "civil time exceeds representable UTC calendar"

/-! ## Schedules -/

inductive Weekday
  | monday | tuesday | wednesday | thursday | friday | saturday | sunday
deriving DecidableEq

/-- `WEEKDAYS`, in the order of `date.weekday()`. -/
def weekdays : List Weekday :=
  [.monday, .tuesday, .wednesday, .thursday, .friday, .saturday, .sunday]

def Weekday.name : Weekday → String
  | .monday => "monday"
  | .tuesday => "tuesday"
  | .wednesday => "wednesday"
  | .thursday => "thursday"
  | .friday => "friday"
  | .saturday => "saturday"
  | .sunday => "sunday"

inductive RecurrenceKind
  | daily | weekly
deriving DecidableEq

/-- The value of a recurring schedule. A daily one lists no weekday, a weekly one some, each
once. -/
structure LocalRecurrence where
  kind : RecurrenceKind
  time : Time
  startDate : Date
  timeZone : String
  weekdays : List Weekday
  daily : kind = .daily → weekdays = []
  weekly : kind = .weekly → weekdays ≠ []
  nodup : weekdays.Nodup
deriving DecidableEq

/-- A validated schedule. Its gap and overlap policies are always `next-valid` and `earlier`. -/
inductive Schedule
  | oneShot (date : Date) (time : Time) (timeZone : String)
  | recurring (value : LocalRecurrence)
deriving DecidableEq

/-- `schedule["tag"] == "recurring"`. -/
def Schedule.isRecurring : Schedule → Bool
  | .oneShot .. => false
  | .recurring _ => true

/-- The day belongs to the recurrence: every day, or one of the listed weekdays. -/
def LocalRecurrence.matches (v : LocalRecurrence) (d : Date) : Bool :=
  v.kind = .daily || ((Vibapp.Scheduler.weekdays[d.weekday]?).any fun w => w ∈ v.weekdays)

/-- A materialisable slot: due instant and civil date. -/
structure Slot where
  due : Instant
  civilDate : Date
deriving DecidableEq

/-- What the backend is given besides the ledger: the zone database, the label of its data,
the digest function and `str` of a container. -/
structure Backend where
  zones : String → Option Zone
  tzdataLabel : String
  sha256 : String → String
  str : Json → String

section

variable (b : Backend)

/-- `_zone` of a name that is a string. -/
def Backend.zoneNamed (name : String) : Py Zone := do
  let name ← checkText name "IANA time zone"
  match b.zones name with
  | some z => return z
  | none => error "invalid-argument" "unknown IANA time zone"

/-- `_zone`. -/
def Backend.zone (name : Json) : Py Zone := do
  b.zoneNamed (← text name "IANA time zone")

/-! ### `validate_schedule` -/

/-- A weekday name. -/
def weekday? (value : Json) : Option Weekday :=
  match value with
  | .str s => weekdays.find? fun w => w.name = s
  | _ => none

/-- `schedule["value"]["weekdays"]`: a list of distinct weekday names. -/
def weekdayList (value : Json) : Py (List Weekday) :=
  match value with
  | .arr days =>
    match days.mapM weekday? with
    | some ws =>
      if days.length ≤ 7 ∧ ws.Nodup then .ok ws
      else error "invalid-argument" "weekdays must be unique enum names"
    | none => error "invalid-argument" "weekdays must be unique enum names"
  | _ => error "invalid-argument" "weekdays must be unique enum names"

/-- `schedule["value"]["kind"]` with its weekday rule. -/
def recurrence (kind : Json) (t : Time) (start : Date) (zone : String) (ws : List Weekday) :
    Py LocalRecurrence :=
  match kind with
  | .str "daily" =>
    if h : ws = [] then
      .ok ⟨.daily, t, start, zone, ws, fun _ => h, (fun hk => by cases hk), h ▸ List.nodup_nil⟩
    else error "invalid-argument" "unsupported recurrence or weekday set"
  | .str "weekly" =>
    if h : ws ≠ [] ∧ ws.Nodup then
      .ok ⟨.weekly, t, start, zone, ws, (fun hk => by cases hk), fun _ => h.1, h.2⟩
    else error "invalid-argument" "unsupported recurrence or weekday set"
  | _ => error "invalid-argument" "unsupported recurrence or weekday set"

/-- The last check of `validate_schedule`: the only supported gap and overlap policies. -/
def checkPolicies (ms : List (String × Json)) : Py Unit :=
  match field ms "gap", field ms "overlap" with
  | .str "next-valid", .str "earlier" => .ok ()
  | _, _ => error "invalid-argument" "Stage 0 requires next-valid gap and earlier overlap"

/-- `validate_schedule`. -/
def Backend.validateSchedule (schedule : Json) : Py Schedule := do
  let top ← object schedule ["tag", "value"]
  match field top "tag" with
  | .str "one-shot" =>
    let value ← object (field top "value") ["when", "gap", "overlap"]
    let when_ ← object (field value "when") ["date", "time", "time_zone"]
    let d ← date (field when_ "date")
    let t ← time (field when_ "time")
    let zone ← text (field when_ "time_zone") "IANA time zone"
    let _ ← b.zoneNamed zone
    checkPolicies value
    return .oneShot d t zone
  | .str "recurring" =>
    let value ← object (field top "value")
      ["kind", "time", "start_date", "time_zone", "weekdays", "gap", "overlap"]
    let start ← date (field value "start_date")
    let t ← time (field value "time")
    let zone ← text (field value "time_zone") "IANA time zone"
    let _ ← b.zoneNamed zone
    let ws ← weekdayList (field value "weekdays")
    let v ← recurrence (field value "kind") t start zone ws
    checkPolicies value
    return .recurring v
  | _ => error "invalid-argument" "unsupported alarm schedule"

/-! ### `next_civil` -/

/-- `OverflowError` inside `next_civil`. -/
def representable (x : Option α) : Py α :=
  match x with
  | some a => .ok a
  | none => error "resource-limit" "recurrence exceeds representable calendar"

/-- One pass of the loop of `next_civil`: the slot on day `d`, when `d` is in the recurrence
and its slot is after `after`. -/
def slotOn (v : LocalRecurrence) (z : Zone) (after : Instant) (d : Date) : Py (Option Slot) :=
  if v.matches d then do
    let resolved ← resolveCivil d v.time z
    return if after < resolved then some ⟨resolved, d⟩ else none
  else return none

/-- The loop of `next_civil`: the first slot among the `n` days from `d` on. -/
def searchSlot (v : LocalRecurrence) (z : Zone) (after : Instant) : Nat → Date → Py Slot
  | 0, _ => error "invalid-argument" "no supported civil occurrence"
  | n + 1, d => do
    match ← slotOn v z after d with
    | some s => return s
    | none => searchSlot v z after n (← representable d.succ?)

/-- The first day `next_civil` looks at: the day after `afterDate`, or the local day of
`after`. -/
def firstDay (z : Zone) (after : Instant) : Option Date → Py Date
  | some d => representable d.succ?
  | none => do
    let local_ ← representable (z.fromUtc after)
    return local_.date

/-- `next_civil`. With `afterDate` the search starts on the day after it, without it on the
local day of `after`; never before the start date. -/
def Backend.nextCivil (schedule : Schedule) (after : Instant) (afterDate : Option Date) :
    Py (Option Slot) :=
  match schedule with
  | .oneShot d t zone => do
    let resolved ← resolveCivil d t (← b.zoneNamed zone)
    return if after < resolved then some ⟨resolved, d⟩ else none
  | .recurring v => do
    let z ← b.zoneNamed v.timeZone
    let first ← firstDay z after afterDate
    return some (← searchSlot v z after 9 (max v.startDate first))

end

end Vibapp.Scheduler
