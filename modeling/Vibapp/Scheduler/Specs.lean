import Vibapp.Scheduler.Transitions

/-!
# What the operations do when they succeed

One lemma for each operation of the code: what it returned, in terms of the named row updates,
and which of its guards held. Later proofs cite these and unfold no operation.
-/

namespace Vibapp.Scheduler

/-! ## Errors and arguments -/

section

variable {α : Type}

@[simp] theorem error_ne_ok (c m : String) (a : α) : (error c m : Py α) ≠ .ok a := by
  simp [error]

theorem item_eq_ok {x : Option α} {a : α} : item x = .ok a ↔ x = some a := by
  cases x <;> simp [item]

theorem overflow_eq_ok {x : Option α} {a : α} : overflow x = .ok a ↔ x = some a := by
  cases x <;> simp [overflow]

theorem checkText_eq_ok {s t name : String} {limit : Nat} (h : checkText s name limit = .ok t) :
    t = s := by
  unfold checkText at h
  split at h
  · exact (Except.ok.inj h).symm
  · exact absurd h (error_ne_ok _ _ _)

theorem text_eq_ok {v : Json} {t name : String} {limit : Nat} (h : text v name limit = .ok t) :
    v = .str t := by
  cases v with
  | str s => rw [checkText_eq_ok h]
  | _ => exact absurd h (error_ne_ok _ _ _)

theorem integer_eq_ok {v : Json} {low high n : Int} (h : integer v low high = .ok n) :
    v = .int n ∧ low ≤ n ∧ n ≤ high := by
  cases v with
  | int m =>
    rw [integer] at h
    split at h
    · rename_i hm
      cases Except.ok.inj h
      exact ⟨rfl, hm⟩
    · exact absurd h (error_ne_ok _ _ _)
  | _ => exact absurd h (error_ne_ok _ _ _)

end

/-! ## The transaction -/

theorem edit_eq_ok {α : Type} {l l' : Ledger} {body : Ledger → Py (Ledger × α)} {a : α}
    (h : edit l body = .ok (l', a)) : body l = .ok (l', a) := by
  obtain ⟨-, -, h⟩ := bind_eq_ok.1 h
  obtain ⟨p, hp, h⟩ := bind_eq_ok.1 h
  obtain ⟨-, -, h⟩ := bind_eq_ok.1 h
  obtain ⟨-, -, h⟩ := bind_eq_ok.1 h
  cases pure_eq_ok.1 h
  exact hp

theorem app_eq_ok {l : Ledger} {app : String} {row : AppRow} (h : l.app app = .ok row) :
    l.apps.get? app = some row := by
  obtain ⟨s, hs, h⟩ := bind_eq_ok.1 h
  rw [checkText_eq_ok hs] at h
  cases hrow : l.apps.get? app with
  | none => simp [hrow] at h
  | some r =>
    rw [hrow] at h
    exact congrArg some (pure_eq_ok.1 h)

theorem get?_setApp (l : Ledger) (app app' : String) (row : AppRow) :
    (l.setApp app row).apps.get? app' = if app' = app then some row else l.apps.get? app' :=
  Dict.get?_set _ _ _ _

/-! ## Rows -/

section

variable (row : AppRow) (key : String) (a : Alarm)

@[simp] theorem setAlarm_alarms : (row.setAlarm key a).alarms = row.alarms.set key a := rfl
@[simp] theorem setAlarm_context : (row.setAlarm key a).context = row.context := rfl
@[simp] theorem setAlarm_occurrences : (row.setAlarm key a).occurrences = row.occurrences := rfl
@[simp] theorem cancelScheduled_alarms : (row.cancelScheduled key).alarms = row.alarms := rfl
@[simp] theorem cancelScheduled_context : (row.cancelScheduled key).context = row.context := rfl

theorem get?_cancelScheduled (oid : String) :
    (row.cancelScheduled key).occurrences.get? oid =
      (row.occurrences.get? oid).map fun o =>
        if o.pendingOf key then { o with state := .cancelled } else o := by
  rw [AppRow.cancelScheduled, Dict.get?_mapVals]

theorem superseded_of_none (h : row.alarms.get? key = none) : row.superseded key = row := by
  rw [AppRow.superseded, h]

theorem superseded_of_some (h : row.alarms.get? key = some a) :
    row.superseded key = row.cancelScheduled key := by
  rw [AppRow.superseded, h]

theorem setAlarm_eq_self (h : row.alarms.get? key = some a) : row.setAlarm key a = row := by
  rw [AppRow.setAlarm, Dict.set_eq_self h]

end

theorem alarmNamed_eq_ok {row : AppRow} {id key : String} {a : Alarm}
    (h : alarmNamed row id = .ok (key, a)) : key = id ∧ row.alarms.get? id = some a := by
  obtain ⟨s, hs, h⟩ := bind_eq_ok.1 h
  rw [checkText_eq_ok hs] at h
  cases hrow : row.alarms.get? id with
  | none => simp [hrow] at h
  | some r =>
    rw [hrow] at h
    cases pure_eq_ok.1 h
    exact ⟨rfl, rfl⟩

theorem alarmOf_eq_ok {row : AppRow} {id : Json} {key : String} {a : Alarm}
    (h : alarmOf row id = .ok (key, a)) : row.alarms.get? key = some a := by
  obtain ⟨s, -, h⟩ := bind_eq_ok.1 h
  obtain ⟨rfl, h⟩ := alarmNamed_eq_ok h
  exact h

theorem nextRevision_eq_ok {n m : Nat} (h : nextRevision n = .ok m) : m = n + 1 := by
  obtain ⟨k, hk, h⟩ := bind_eq_ok.1 h
  obtain ⟨he, -, -⟩ := integer_eq_ok hk
  have hk' : k = (n : Int) + 1 := (Json.int.inj he).symm
  rw [← pure_eq_ok.1 h, hk']
  omega

/-! ## Alarm transitions -/

/-- `_disable` leaves a disabled alarm alone, and cancels and disables an enabled one. -/
theorem disable_eq_ok {row row' : AppRow} {a a' : Alarm} {o : Outcome}
    (h : disable row a = .ok (row', a', o)) :
    (a.enabled = false ∧ row' = row ∧ a' = a) ∨
      (a.enabled = true ∧ row' = row.cancelScheduled a.alarmId ∧ a' = a.disabled) := by
  unfold disable at h
  cases hen : a.enabled with
  | false =>
    rw [hen] at h
    cases pure_eq_ok.1 h
    exact .inl ⟨rfl, rfl, rfl⟩
  | true =>
    rw [hen] at h
    obtain ⟨n, hn, h⟩ := bind_eq_ok.1 h
    cases pure_eq_ok.1 h
    exact .inr ⟨rfl, rfl, by rw [nextRevision_eq_ok hn]; rfl⟩

section

variable {b : Backend}

theorem materializeAs_eq_ok {row row' : AppRow} {a a' : Alarm} {slot : Slot} {oid oid' : String}
    {parent : Option String} (h : b.materializeAs row a slot oid parent = .ok (row', a', oid')) :
    row.occurrences.get? oid = none ∧
      row' = { row with occurrences := row.occurrences.set oid (b.newOccurrence a slot oid parent) } ∧
      a' = (if parent.isNone then { a with nextOccurrenceId := some oid } else a) ∧ oid' = oid := by
  unfold Backend.materializeAs at h
  cases hc : row.occurrences.contains oid with
  | true => simp [hc] at h
  | false =>
    rw [hc] at h
    cases h
    exact ⟨Dict.contains_eq_false_iff.1 hc, rfl, rfl, rfl⟩

/-- `_materialize`, and then the alarm stored, arms the alarm. -/
theorem materialize_eq_ok {row row' : AppRow} {a a' : Alarm} {slot : Slot} {oid : String}
    (h : b.materialize row a slot = .ok (row', a', oid)) (key : String) :
    row.occurrences.get? (occurrenceId a.alarmId a.revision slot.due) = none ∧
      row'.setAlarm key a' = b.armed row key a slot := by
  obtain ⟨hnew, rfl, rfl, rfl⟩ := materializeAs_eq_ok h
  exact ⟨hnew, rfl⟩

theorem revisionAfter_eq_ok {row : AppRow} {id : String} {n : Nat}
    (h : revisionAfter (row.alarms.get? id) = .ok n) : n = row.nextRevision id := by
  rw [AppRow.nextRevision]
  cases hp : row.alarms.get? id with
  | none => rw [hp] at h; exact nextRevision_eq_ok h
  | some p => rw [hp] at h; exact nextRevision_eq_ok h

theorem withoutPrevious_eq {row : AppRow} {id : String}
    (hid : ∀ p, row.alarms.get? id = some p → p.alarmId = id) :
    row.withoutPrevious (row.alarms.get? id) = row.superseded id := by
  rw [AppRow.superseded]
  cases hp : row.alarms.get? id with
  | none => rfl
  | some p => rw [← hid p hp]; rfl

theorem install_eq_ok {row row' : AppRow} {id : String} {schedule : Schedule}
    {notification : Option Projection} {c : Config} {slot : Slot} {r : AlarmResult}
    (hid : ∀ p, row.alarms.get? id = some p → p.alarmId = id)
    (h : b.install row id schedule notification c slot = .ok (row', r)) :
    (row.superseded id).occurrences.get? (occurrenceId id (row.nextRevision id) slot.due) = none ∧
      row' = b.armed (row.superseded id) id
        (newAlarm row id schedule notification (row.nextRevision id) c) slot := by
  obtain ⟨n, hn, h⟩ := bind_eq_ok.1 h
  obtain ⟨⟨row₁, a₁, oid⟩, hm, h⟩ := bind_eq_ok.1 h
  cases pure_eq_ok.1 h
  rw [revisionAfter_eq_ok hn, withoutPrevious_eq hid] at hm
  exact materialize_eq_ok hm id

theorem configure_eq_ok {row row' : AppRow} {request : Json} {now : Instant} {c : Config}
    {r : AlarmResult} (hid : ∀ k p, row.alarms.get? k = some p → p.alarmId = k)
    (h : b.configure row request now c = .ok (row', r)) :
    ∃ id schedule notification slot,
      (∀ p, row.alarms.get? id = some p → p.purpose = c.purpose) ∧
      b.nextCivil schedule now none = .ok (some slot) ∧
      (row.superseded id).occurrences.get? (occurrenceId id (row.nextRevision id) slot.due) = none ∧
      row' = b.armed (row.superseded id) id
        (newAlarm row id schedule notification (row.nextRevision id) c) slot := by
  obtain ⟨ms, -, h⟩ := bind_eq_ok.1 h
  obtain ⟨id, -, h⟩ := bind_eq_ok.1 h
  obtain ⟨schedule, -, h⟩ := bind_eq_ok.1 h
  obtain ⟨notification, -, h⟩ := bind_eq_ok.1 h
  obtain ⟨expected, -, h⟩ := bind_eq_ok.1 h
  obtain ⟨-, -, h⟩ := bind_eq_ok.1 h
  split at h
  · exact absurd h (error_ne_ok _ _ _)
  · rename_i hpurpose
    obtain ⟨slot?, hslot, h⟩ := bind_eq_ok.1 h
    cases slot? with
    | none => exact absurd h (error_ne_ok _ _ _)
    | some slot =>
      obtain ⟨hnew, hrow⟩ := install_eq_ok (hid id) h
      refine ⟨id, schedule, notification, slot, fun p hp => ?_, hslot, hnew, hrow⟩
      simpa [hp] using hpurpose

theorem enable_eq_ok {row row' : AppRow} {a a' : Alarm} {now : Instant} {o : Outcome}
    (h : b.enable row a now = .ok (row', a', o)) (key : String) :
    ∃ slot, b.nextCivil a.schedule now none = .ok (some slot) ∧
      row.occurrences.get? (occurrenceId a.alarmId (a.revision + 1) slot.due) = none ∧
      row'.setAlarm key a' =
        b.armed row key { a with revision := a.revision + 1, enabled := true } slot := by
  obtain ⟨slot?, hslot, h⟩ := bind_eq_ok.1 h
  cases slot? with
  | none => exact absurd h (error_ne_ok _ _ _)
  | some slot =>
    obtain ⟨n, hn, h⟩ := bind_eq_ok.1 h
    obtain ⟨⟨row₁, a₁, oid⟩, hm, h⟩ := bind_eq_ok.1 h
    cases pure_eq_ok.1 h
    rw [nextRevision_eq_ok hn] at hm
    obtain ⟨hnew, hrow⟩ := materialize_eq_ok hm key
    exact ⟨slot, hslot, hnew, hrow⟩

/-- `_toggle` finds an alarm, and then leaves it, disables it or enables it. -/
theorem toggle_eq_ok {row row' : AppRow} {request : Json} {now : Instant} {enable : Bool}
    {r : AlarmResult} (h : b.toggle row request now enable = .ok (row', r)) :
    row' = row ∨ ∃ key a, row.alarms.get? key = some a ∧
      ((a.enabled = true ∧ row' = (row.cancelScheduled a.alarmId).setAlarm key a.disabled) ∨
        (a.enabled = false ∧ ∃ slot, b.nextCivil a.schedule now none = .ok (some slot) ∧
          row.occurrences.get? (occurrenceId a.alarmId (a.revision + 1) slot.due) = none ∧
          row' = b.armed row key { a with revision := a.revision + 1, enabled := true } slot)) := by
  obtain ⟨ms, -, h⟩ := bind_eq_ok.1 h
  obtain ⟨⟨key, a⟩, ha, h⟩ := bind_eq_ok.1 h
  replace ha := alarmOf_eq_ok ha
  obtain ⟨expected, -, h⟩ := bind_eq_ok.1 h
  obtain ⟨-, -, h⟩ := bind_eq_ok.1 h
  obtain ⟨⟨row₁, a₁, o⟩, ht, h⟩ := bind_eq_ok.1 h
  cases pure_eq_ok.1 h
  unfold Backend.toggleAlarm at ht
  split at ht
  · rcases disable_eq_ok ht with ⟨-, rfl, rfl⟩ | ⟨hen, rfl, rfl⟩
    · exact .inl (setAlarm_eq_self _ _ _ ha)
    · exact .inr ⟨key, a, ha, .inl ⟨hen, rfl⟩⟩
  · split at ht
    · rename_i hen
      exact .inr ⟨key, a, ha, .inr ⟨by simpa using hen, enable_eq_ok ht key⟩⟩
    · cases pure_eq_ok.1 ht
      exact .inl (setAlarm_eq_self _ _ _ ha)

theorem snoozeNew_eq_ok {row row' : AppRow} {parentId actionId : String} {received : Instant}
    {duration : Int} {r : AlarmResult}
    (h : b.snoozeNew row parentId actionId received duration = .ok (row', r)) :
    ∃ parent a due, row.occurrences.get? parentId = some parent ∧
      parent.state = .notificationAccepted ∧ row.alarms.get? parent.alarmId = some a ∧
      a.enabled = true ∧ parent.revision = a.revision ∧ received.add? duration = some due ∧
      row.occurrences.get? (snoozeId parentId (1 + row.snoozeCount parentId)) = none ∧
      row' = b.snoozed row parentId actionId received due duration a := by
  unfold Backend.snoozeNew at h
  split at h
  · exact absurd h (error_ne_ok _ _ _)
  · rename_i parent hp
    split at h
    · exact absurd h (error_ne_ok _ _ _)
    · rename_i hstate
      obtain ⟨⟨key, a⟩, ha, h⟩ := bind_eq_ok.1 h
      obtain ⟨-, ha⟩ := alarmNamed_eq_ok ha
      simp only at h
      split at h
      · exact absurd h (error_ne_ok _ _ _)
      · rename_i hcur
        split at h
        · exact absurd h (error_ne_ok _ _ _)
        · rename_i due hdue
          obtain ⟨⟨row₁, a₁, oid⟩, hm, h⟩ := bind_eq_ok.1 h
          obtain ⟨hnew, hrow, halarm, hoid⟩ := materializeAs_eq_ok hm
          rw [hrow, halarm, hoid] at h
          cases pure_eq_ok.1 h
          simp only [Bool.or_eq_true, Bool.not_eq_true', decide_eq_true_eq, not_or,
            Bool.not_eq_false, ne_eq, not_not] at hcur hstate
          exact ⟨parent, a, due, hp, hstate, ha, hcur.1, hcur.2, hdue, hnew, rfl⟩

/-- `_snooze` marks a known action, or makes a child of a delivered occurrence. -/
theorem snooze_eq_ok {row row' : AppRow} {request : Json} {r : AlarmResult}
    (h : b.snooze row request = .ok (row', r)) :
    (∃ key x, row.actions.get? key = some x ∧
      row' = { row with actions := row.actions.set key { x with deduplicated := true } }) ∨
    ∃ parentId actionId received duration, row.actions.get? ("action:" ++ actionId) = none ∧
      60 ≤ duration ∧ duration ≤ 3600 ∧
      b.snoozeNew row parentId actionId received duration = .ok (row', r) := by
  obtain ⟨ms, -, h⟩ := bind_eq_ok.1 h
  obtain ⟨parentId, -, h⟩ := bind_eq_ok.1 h
  obtain ⟨actionId, -, h⟩ := bind_eq_ok.1 h
  obtain ⟨received, -, h⟩ := bind_eq_ok.1 h
  obtain ⟨duration, hd, h⟩ := bind_eq_ok.1 h
  obtain ⟨-, hlow, hhigh⟩ := integer_eq_ok hd
  split at h
  · rename_i x hx
    split at h
    · exact absurd h (error_ne_ok _ _ _)
    · cases pure_eq_ok.1 h
      exact .inl ⟨_, x, hx, rfl⟩
  · rename_i hnone
    exact .inr ⟨parentId, actionId, received, duration, hnone, hlow, hhigh, h⟩

/-! ## Due processing -/

/-- The occurrence after its slot fired. -/
def Occurrence.fired (x : Advance) (row : AppRow) (oid : String) (occ : Occurrence) (a : Alarm) :
    Occurrence :=
  let c := classify x row a occ
  let state := firedState c a.purpose
  { occ with
    classification := some c
    state
    notificationId := if state = .deliveryPending then some (notifyId oid) else occ.notificationId }

/-- The row after a slot fired, before its alarm is armed again. -/
def AppRow.fired (x : Advance) (row : AppRow) (oid : String) (occ : Occurrence) (a : Alarm)
    (adapterId : String) : AppRow :=
  { row with
    occurrences := row.occurrences.set oid (occ.fired x row oid a)
    outbox :=
      if (occ.fired x row oid a).state = .deliveryPending then
        row.outbox.set (notifyId oid) (newEffect x a oid adapterId)
      else row.outbox
    guestEvents := row.guestEvents.set (guestId oid)
      (newEvent a oid occ.dueAtUtc (classify x row a occ)) }

theorem firedState_ne (c : Classification) (p : Purpose) :
    firedState c p ≠ .scheduled ∧ firedState c p ≠ .cancelled ∧
      firedState c p ≠ .notificationAccepted ∧ firedState c p ≠ .notificationFailed ∧
      firedState c p ≠ .guestAcked := by
  cases c <;> cases p <;> decide

theorem deliver_eq_ok {x : Advance} {app : String} {row row' : AppRow} {oid : String}
    {occ : Occurrence} {a : Alarm} (h : b.deliver x app row oid occ a = .ok row') :
    ∃ adapterId,
      { row' with
        guestEvents := row'.guestEvents.set (guestId oid)
          (newEvent a oid occ.dueAtUtc (classify x row a occ)) } =
        row.fired x oid occ a adapterId := by
  unfold Backend.deliver at h
  simp only at h
  split at h
  · rename_i hstate
    obtain ⟨d, -, h⟩ := bind_eq_ok.1 h
    cases pure_eq_ok.1 h
    exact ⟨"vibapp:" ++ d, by simp [AppRow.fired, Occurrence.fired, hstate]⟩
  · rename_i hstate
    cases pure_eq_ok.1 h
    exact ⟨"", by simp [AppRow.fired, Occurrence.fired, hstate]⟩

theorem rearm_eq_ok {row row' : AppRow} {occ : Occurrence} {a : Alarm}
    (h : b.rearm row occ a = .ok row') :
    (a.schedule.isRecurring = false ∧
      row' = row.setAlarm occ.alarmId { a with nextOccurrenceId := none }) ∨
    (a.schedule.isRecurring = true ∧ ∃ slot,
      b.nextCivil a.schedule occ.dueAtUtc (some occ.civilDate) = .ok (some slot) ∧
      row.occurrences.get? (occurrenceId a.alarmId a.revision slot.due) = none ∧
      row' = b.armed row occ.alarmId a slot) := by
  unfold Backend.rearm at h
  simp only at h
  split at h
  · rename_i hrec
    obtain ⟨slot?, hslot, h⟩ := bind_eq_ok.1 h
    obtain ⟨slot, hitem, h⟩ := bind_eq_ok.1 h
    obtain ⟨⟨row₁, a₁, oid⟩, hm, h⟩ := bind_eq_ok.1 h
    cases pure_eq_ok.1 h
    rw [item_eq_ok.1 hitem] at hslot
    obtain ⟨hnew, hrow⟩ := materialize_eq_ok hm occ.alarmId
    exact .inr ⟨hrec, slot, hslot, hnew, hrow⟩
  · rename_i hrec
    cases pure_eq_ok.1 h
    exact .inl ⟨by simpa using hrec, rfl⟩

/-- A slot that fires: a child leaves its alarm alone, the last regular slot leaves it without a
next one, and the regular slot of a recurring alarm arms it again. -/
theorem fireSlot_eq_ok {x : Advance} {app : String} {row row' : AppRow} {oid : String}
    {occ : Occurrence} {a : Alarm} (h : b.fireSlot x app row oid occ a = .ok row') :
    ∃ adapterId,
      (occ.parentOccurrenceId ≠ none ∧ row' = row.fired x oid occ a adapterId) ∨
      (occ.parentOccurrenceId = none ∧ a.schedule.isRecurring = false ∧
        row' = (row.fired x oid occ a adapterId).setAlarm occ.alarmId
          { a with nextOccurrenceId := none }) ∨
      (occ.parentOccurrenceId = none ∧ a.schedule.isRecurring = true ∧ ∃ slot,
        b.nextCivil a.schedule occ.dueAtUtc (some occ.civilDate) = .ok (some slot) ∧
        (row.fired x oid occ a adapterId).occurrences.get?
          (occurrenceId a.alarmId a.revision slot.due) = none ∧
        row' = b.armed (row.fired x oid occ a adapterId) occ.alarmId a slot) := by
  obtain ⟨row₁, hd, h⟩ := bind_eq_ok.1 h
  obtain ⟨adapterId, hfired⟩ := deliver_eq_ok hd
  rw [hfired] at h
  refine ⟨adapterId, ?_⟩
  split at h
  · rename_i hparent
    have hparent : occ.parentOccurrenceId = none := by simpa using hparent
    rcases rearm_eq_ok h with ⟨hrec, hrow⟩ | ⟨hrec, hslot⟩
    · exact .inr (.inl ⟨hparent, hrec, hrow⟩)
    · exact .inr (.inr ⟨hparent, hrec, hslot⟩)
  · rename_i hparent
    cases pure_eq_ok.1 h
    exact .inl ⟨by simpa using hparent, rfl⟩

/-- One pass of the loop of `advance_due` cancels its slot or fires it. -/
theorem takeSlot_eq_ok {x : Advance} {app oid : String} {row row' : AppRow}
    (h : b.takeSlot x app oid row = .ok row') :
    ∃ occ a, row.occurrences.get? oid = some occ ∧ row.alarms.get? occ.alarmId = some a ∧
      ((revoked row a occ = true ∧ row' = row.cancelSlot oid occ a) ∨
        (revoked row a occ = false ∧ b.fireSlot x app row oid occ a = .ok row')) := by
  obtain ⟨occ, ho, h⟩ := bind_eq_ok.1 h
  obtain ⟨a, ha, h⟩ := bind_eq_ok.1 h
  refine ⟨occ, a, item_eq_ok.1 ho, item_eq_ok.1 ha, ?_⟩
  split at h
  · rename_i hr
    cases pure_eq_ok.1 h
    exact .inl ⟨hr, rfl⟩
  · rename_i hr
    exact .inr ⟨by simpa using hr, h⟩

theorem takeUp_eq_ok {x : Advance} {k : DueKey} {l l' : Ledger} (h : b.takeUp x k l = .ok l') :
    ∃ row row', l.apps.get? k.app = some row ∧ b.takeSlot x k.app k.oid row = .ok row' ∧
      l' = l.setApp k.app row' := by
  obtain ⟨row, hrow, h⟩ := bind_eq_ok.1 h
  obtain ⟨row', htake, h⟩ := bind_eq_ok.1 h
  exact ⟨row, row', item_eq_ok.1 hrow, htake, (pure_eq_ok.1 h).symm⟩

theorem mem_dueSlots_iff {row : AppRow} {now : Instant} {app : String} {k : DueKey} :
    k ∈ row.dueSlots now app ↔ ∃ o, row.occurrences.get? k.oid = some o ∧ o.state = .scheduled ∧
      o.dueAtUtc ≤ now ∧ k = .of o.dueAtUtc app k.oid := by
  simp only [AppRow.dueSlots, List.mem_filterMap, Option.ite_none_right_eq_some,
    Option.some.injEq, Prod.exists, Dict.mem_entries_iff]
  constructor
  · rintro ⟨oid, o, ho, ⟨hs, hdue⟩, rfl⟩
    exact ⟨o, ho, hs, hdue, rfl⟩
  · rintro ⟨o, ho, hs, hdue, hk⟩
    exact ⟨k.oid, o, ho, ⟨hs, hdue⟩, hk.symm⟩

theorem mem_candidates_iff {l : Ledger} {now : Instant} {k : DueKey} :
    k ∈ l.candidates now ↔ ∃ row, l.apps.get? k.app = some row ∧ k ∈ row.dueSlots now k.app := by
  simp only [Ledger.candidates, List.mem_flatMap, Prod.exists, Dict.mem_entries_iff]
  constructor
  · rintro ⟨app, row, hrow, hk⟩
    obtain ⟨o, -, -, -, hkey⟩ := mem_dueSlots_iff.1 hk
    have happ : k.app = app := by rw [hkey]; rfl
    exact ⟨row, happ ▸ hrow, happ ▸ hk⟩
  · rintro ⟨row, hrow, hk⟩
    exact ⟨k.app, row, hrow, hk⟩

end

/-! ## Digests -/

theorem encode_eq_ok {v : Json} {text : String} (h : encode v = .ok text) : text = v.dumps := by
  unfold encode at h
  split at h
  · exact absurd h (error_ne_ok _ _ _)
  · exact (Except.ok.inj h).symm

/-- Where the digest is injective, it determines its value up to the order of members. -/
theorem digest_inj {sha : String → String} (hinj : Function.Injective sha) {b b' : Backend}
    (hb : b.sha256 = sha) (hb' : b'.sha256 = sha) {v w : Json} {d : String}
    (h : b.digest v = .ok d) (h' : b'.digest w = .ok d) : v.sortKeys = w.sortKeys := by
  obtain ⟨text, ht, h⟩ := bind_eq_ok.1 h
  obtain ⟨text', ht', h'⟩ := bind_eq_ok.1 h'
  have h := pure_eq_ok.1 h
  have h' := pure_eq_ok.1 h'
  rw [hb] at h
  rw [hb'] at h'
  have htext : text = text' := hinj (h.trans h'.symm)
  rwa [encode_eq_ok ht, encode_eq_ok ht', Json.dumps_eq_iff] at htext

end Vibapp.Scheduler
