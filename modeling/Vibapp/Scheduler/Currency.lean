import Vibapp.Scheduler.Correspondence

/-!
# Only the current revision of an enabled alarm is scheduled

Every scheduled occurrence belongs to an enabled alarm at its current revision, and an alarm
names its one scheduled regular occurrence as its next one, or none (`AppRow.Current`). Every
transition keeps this: what disables or replaces an alarm cancels its slots with it, and what
arms it adds the one it names. An app the host has disabled has nothing enabled left
(`AppRow.Idle`), which the whole of `host_context` establishes and every other call keeps.
-/

namespace Vibapp.Scheduler

/-! ## The invariant -/

/-- The occurrence stored under `oid` is scheduled. -/
def AppRow.Scheduled (row : AppRow) (oid : String) (o : Occurrence) : Prop :=
  row.occurrences.get? oid = some o ∧ o.state = .scheduled

/-- The occurrence is a scheduled regular one of the alarm stored under `key`. -/
def AppRow.Pending (row : AppRow) (key oid : String) : Prop :=
  ∃ o, row.Scheduled oid o ∧ o.alarmId = key ∧ o.parentOccurrenceId = none

/-- The occurrence belongs to an enabled alarm at its current revision. -/
def AppRow.Owned (row : AppRow) (o : Occurrence) : Prop :=
  ∃ a, row.alarms.get? o.alarmId = some a ∧ a.enabled = true ∧ a.revision = o.revision

/-- What is scheduled is current, and an alarm's next occurrence is its scheduled regular one. -/
structure AppRow.Current (row : AppRow) : Prop where
  owned : ∀ oid o, row.Scheduled oid o → row.Owned o
  next : ∀ key a, row.alarms.get? key = some a →
    ∀ oid, a.nextOccurrenceId = some oid ↔ row.Pending key oid

theorem current_new (c : Context) : (AppRow.new c).Current :=
  ⟨fun _ _ h => absurd h.1 (by simp [AppRow.new]), fun _ _ h => absurd h (by simp [AppRow.new])⟩

section

variable {row row' : AppRow}

theorem AppRow.Scheduled.pending {oid : String} {o : Occurrence} (h : row.Scheduled oid o)
    (hp : o.parentOccurrenceId = none) : row.Pending o.alarmId oid := ⟨o, h, rfl, hp⟩

/-- The part of an alarm the invariant reads. -/
def Alarm.arming (a : Alarm) : Bool × Nat × Option String := (a.enabled, a.revision, a.nextOccurrenceId)

/-- Nothing the invariant reads changes. -/
theorem AppRow.Current.frame (h : row.Current)
    (hocc : ∀ oid o, row'.Scheduled oid o ↔ row.Scheduled oid o)
    (halarm : ∀ key, (row'.alarms.get? key).map Alarm.arming = (row.alarms.get? key).map Alarm.arming) :
    row'.Current := by
  have back : ∀ {key a'}, row'.alarms.get? key = some a' →
      ∃ a, row.alarms.get? key = some a ∧ a.arming = a'.arming := fun {key a'} h' => by
    have := halarm key
    rw [h', Option.map_some] at this
    exact Option.map_eq_some_iff.1 this.symm
  have forth : ∀ {key a}, row.alarms.get? key = some a →
      ∃ a', row'.alarms.get? key = some a' ∧ a'.arming = a.arming := fun {key a} h' => by
    have := halarm key
    rw [h', Option.map_some] at this
    exact Option.map_eq_some_iff.1 this
  have hpending : ∀ key oid, row'.Pending key oid ↔ row.Pending key oid := fun key oid => by
    simp only [AppRow.Pending, hocc]
  refine ⟨fun oid o ho => ?_, fun key a' ha' oid => ?_⟩
  · obtain ⟨a, ha, hen, hrev⟩ := h.owned oid o ((hocc oid o).1 ho)
    obtain ⟨a', ha', harm⟩ := forth ha
    simp only [Alarm.arming, Prod.mk.injEq] at harm
    exact ⟨a', ha', harm.1.trans hen, harm.2.1.trans hrev⟩
  · obtain ⟨a, ha, harm⟩ := back ha'
    simp only [Alarm.arming, Prod.mk.injEq] at harm
    rw [hpending, ← h.next key a ha oid, harm.2.2]

/-- Overwriting an occurrence that is not scheduled by one that is not. -/
theorem scheduled_set_iff {oid : String} {o₀ o₁ : Occurrence}
    (h₀ : row.occurrences.get? oid = some o₀) (hs₀ : o₀.state ≠ .scheduled)
    (hs₁ : o₁.state ≠ .scheduled) (hocc : row'.occurrences = row.occurrences.set oid o₁)
    (oid' : String) (o : Occurrence) : row'.Scheduled oid' o ↔ row.Scheduled oid' o := by
  unfold AppRow.Scheduled
  rw [hocc, Dict.get?_set]
  split
  · rename_i hoid
    rw [hoid]
    constructor
    · rintro ⟨h, hs⟩
      exact absurd hs (Option.some.inj h ▸ hs₁)
    · rintro ⟨h, hs⟩
      exact absurd hs (Option.some.inj (h₀.symm.trans h) ▸ hs₀)
  · exact Iff.rfl

/-! ## Taking a slot away -/

/-- A scheduled slot is no longer scheduled, and its alarm no longer names it. -/
theorem AppRow.Current.take (h : row.Current) {oid : String} {occ : Occurrence} {a : Alarm}
    (ho : row.Scheduled oid occ) (ha : row.alarms.get? occ.alarmId = some a)
    (hocc : ∀ oid' o, row'.Scheduled oid' o ↔ oid' ≠ oid ∧ row.Scheduled oid' o)
    (halarms : row'.alarms = if a.nextOccurrenceId = some oid then
      row.alarms.set occ.alarmId { a with nextOccurrenceId := none } else row.alarms) :
    row'.Current := by
  have hget : ∀ key, row'.alarms.get? key = if a.nextOccurrenceId = some oid ∧ key = occ.alarmId then
      some { a with nextOccurrenceId := none } else row.alarms.get? key := fun key => by
    rw [halarms]
    by_cases hn : a.nextOccurrenceId = some oid
    · rw [if_pos hn, Dict.get?_set]
      simp [hn]
    · rw [if_neg hn, if_neg fun h => hn h.1]
  have hpending : ∀ key oid', row'.Pending key oid' ↔ oid' ≠ oid ∧ row.Pending key oid' := by
    intro key oid'
    simp only [AppRow.Pending, hocc]
    constructor
    · rintro ⟨o, ⟨hne, ho⟩, hrest⟩
      exact ⟨hne, o, ho, hrest⟩
    · rintro ⟨hne, o, ho, hrest⟩
      exact ⟨o, ⟨hne, ho⟩, hrest⟩
  refine ⟨fun oid' o ho' => ?_, fun key a' ha' oid' => ?_⟩
  · obtain ⟨a', ha', hen, hrev⟩ := h.owned oid' o ((hocc oid' o).1 ho').2
    rw [AppRow.Owned, hget]
    split
    · rename_i hc
      rw [hc.2, ha] at ha'
      cases ha'
      exact ⟨_, rfl, hen, hrev⟩
    · exact ⟨a', ha', hen, hrev⟩
  · rw [hpending]
    rw [hget] at ha'
    split at ha'
    · rename_i hc
      cases ha'
      refine ⟨fun hn => absurd hn (by simp), ?_⟩
      rintro ⟨hne, hp⟩
      rw [hc.2, ← h.next _ a ha, hc.1] at hp
      exact absurd (Option.some.inj hp).symm hne
    · rename_i hc
      rw [h.next key a' ha' oid']
      refine ⟨fun hp => ⟨?_, hp⟩, fun hp => hp.2⟩
      rintro rfl
      obtain ⟨o, hs, hkey, hparent⟩ := hp
      obtain rfl : o = occ := Option.some.inj (hs.1.symm.trans ho.1)
      exact hc ⟨(h.next _ a ha _).2 (ho.pending hparent), hkey.symm⟩

theorem scheduled_fired_iff {x : Advance} {oid : String} {occ : Occurrence} {a : Alarm}
    (adapterId oid' : String) (o : Occurrence) :
    (row.fired x oid occ a adapterId).Scheduled oid' o ↔ oid' ≠ oid ∧ row.Scheduled oid' o := by
  unfold AppRow.Scheduled
  show (row.occurrences.set oid (occ.fired x row oid a)).get? oid' = some o ∧ _ ↔ _
  rw [Dict.get?_set]
  split
  · rename_i hoid
    refine ⟨fun h => ?_, fun h => absurd hoid h.1⟩
    have hs := h.2
    rw [← Option.some.inj h.1] at hs
    exact absurd hs (firedState_ne _ _).1
  · rename_i hoid
    exact ⟨fun h => ⟨hoid, h⟩, fun h => h.2⟩

/-! ## Arming an alarm -/

/-- An alarm that has no scheduled regular slot gets one, which it names. -/
theorem current_armed {b : Backend} {key : String} {a : Alarm} {slot : Slot}
    (hother : ∀ oid o, row.Scheduled oid o → o.alarmId ≠ key → row.Owned o)
    (hown : ∀ oid o, row.Scheduled oid o → o.alarmId = key →
      o.revision = a.revision ∧ o.parentOccurrenceId ≠ none)
    (hnext : ∀ k a', k ≠ key → row.alarms.get? k = some a' →
      ∀ oid, a'.nextOccurrenceId = some oid ↔ row.Pending k oid)
    (hid : a.alarmId = key) (hen : a.enabled = true)
    (hnew : row.occurrences.get? (occurrenceId a.alarmId a.revision slot.due) = none) :
    (b.armed row key a slot).Current := by
  generalize hoid₀ : occurrenceId a.alarmId a.revision slot.due = oid₀ at hnew
  have hsched : ∀ oid o, (b.armed row key a slot).Scheduled oid o ↔
      (oid = oid₀ ∧ o = b.newOccurrence a slot oid₀ none) ∨ (oid ≠ oid₀ ∧ row.Scheduled oid o) := by
    intro oid o
    unfold AppRow.Scheduled Backend.armed
    simp only [hoid₀, Dict.get?_set]
    split
    · rename_i hoid
      simp only [hoid, Option.some.injEq, true_and, ne_eq, not_true_eq_false, false_and, or_false]
      exact ⟨fun h => h.1.symm, fun h => ⟨h.symm, h ▸ rfl⟩⟩
    · rename_i hoid
      simp [hoid]
  have hne : ∀ {oid o}, row.Scheduled oid o → oid ≠ oid₀ := fun h he => by
    rw [he] at h
    exact absurd (hnew.symm.trans h.1) (by simp)
  have hget : ∀ k, (b.armed row key a slot).alarms.get? k =
      if k = key then some { a with nextOccurrenceId := some oid₀ } else row.alarms.get? k := fun k => by
    unfold Backend.armed
    simp only [hoid₀, Dict.get?_set]
  refine ⟨fun oid o ho => ?_, fun k a' ha' oid => ?_⟩
  · rw [AppRow.Owned, hget]
    rcases (hsched oid o).1 ho with ⟨-, rfl⟩ | ⟨-, ho⟩
    · have hkey : (b.newOccurrence a slot oid₀ none).alarmId = key := hid
      rw [if_pos hkey]
      exact ⟨_, rfl, hen, rfl⟩
    · split
      · rename_i hk
        exact ⟨_, rfl, hen, (hown oid o ho hk).1.symm⟩
      · rename_i hk
        exact hother oid o ho hk
  · rw [hget] at ha'
    simp only [AppRow.Pending, hsched]
    split at ha'
    · rename_i hk
      cases ha'
      rw [Option.some.injEq, hk]
      constructor
      · rintro rfl
        exact ⟨_, .inl ⟨rfl, rfl⟩, hid, rfl⟩
      · rintro ⟨o, ⟨hoid, -⟩ | ⟨-, ho⟩, hkey, hparent⟩
        · exact hoid.symm
        · exact absurd hparent (hown oid o ho hkey).2
    · rename_i hk
      rw [hnext k a' hk ha' oid]
      constructor
      · rintro ⟨o, ho, hrest⟩
        exact ⟨o, .inr ⟨hne ho, ho⟩, hrest⟩
      · rintro ⟨o, ⟨-, rfl⟩ | ⟨-, ho⟩, hkey, hparent⟩
        · exact absurd (hkey.symm.trans hid) hk
        · exact ⟨o, ho, hkey, hparent⟩

theorem scheduled_cancelScheduled_iff (id oid : String) (o : Occurrence) :
    (row.cancelScheduled id).Scheduled oid o ↔ row.Scheduled oid o ∧ o.alarmId ≠ id := by
  unfold AppRow.Scheduled
  rw [get?_cancelScheduled]
  cases ho : row.occurrences.get? oid with
  | none => simp
  | some o₀ =>
    rw [Option.map_some]
    split
    · rename_i hp
      simp only [Occurrence.pendingOf, Bool.and_eq_true, decide_eq_true_eq] at hp
      constructor
      · rintro ⟨h, hs⟩
        rw [← Option.some.inj h] at hs
        cases hs
      · rintro ⟨⟨h, -⟩, hid⟩
        exact absurd (Option.some.inj h ▸ hp.1) hid
    · rename_i hp
      simp only [Occurrence.pendingOf, Bool.and_eq_true, decide_eq_true_eq, not_and] at hp
      refine ⟨fun h => ⟨h, fun hid => ?_⟩, fun h => h.1⟩
      rw [← Option.some.inj h.1] at hid
      exact hp hid (Option.some.inj h.1 ▸ h.2)

end

/-! ## Transitions keep it -/

section

variable {b : Backend} {app : String}

theorem current_disable {row : AppRow} (h : row.Current) {key : String} {a : Alarm}
    (hid : a.alarmId = key) :
    ((row.cancelScheduled a.alarmId).setAlarm key a.disabled).Current := by
  have hsched : ∀ oid o, ((row.cancelScheduled a.alarmId).setAlarm key a.disabled).Scheduled oid o ↔
      row.Scheduled oid o ∧ o.alarmId ≠ key := fun oid o => by
    rw [← hid]
    exact scheduled_cancelScheduled_iff _ oid o
  have hget : ∀ k, ((row.cancelScheduled a.alarmId).setAlarm key a.disabled).alarms.get? k =
      if k = key then some a.disabled else row.alarms.get? k := fun k => Dict.get?_set _ _ _ _
  refine ⟨fun oid o ho => ?_, fun k a' ha' oid => ?_⟩
  · obtain ⟨ho, hne⟩ := (hsched oid o).1 ho
    obtain ⟨a', ha', hrest⟩ := h.owned oid o ho
    exact ⟨a', by rw [hget, if_neg hne, ha'], hrest⟩
  · simp only [AppRow.Pending, hsched]
    rw [hget] at ha'
    split at ha'
    · rename_i hk
      cases ha'
      refine ⟨fun hn => absurd hn (by simp [Alarm.disabled]), ?_⟩
      rintro ⟨o, ⟨-, hne⟩, hkey, -⟩
      exact absurd (hkey.trans hk) hne
    · rename_i hk
      rw [h.next k a' ha' oid]
      constructor
      · rintro ⟨o, ho, hkey, hparent⟩
        exact ⟨o, ⟨ho, fun he => hk (hkey.symm.trans he)⟩, hkey, hparent⟩
      · rintro ⟨o, ⟨ho, -⟩, hrest⟩
        exact ⟨o, ho, hrest⟩

/-- A configured alarm: the slots of the one it replaces were cancelled. -/
theorem current_install {row : AppRow} (h : row.Current) {id : String} {a : Alarm} {slot : Slot}
    (hid : a.alarmId = id) (hen : a.enabled = true)
    (hnew : row.occurrences.get? (occurrenceId a.alarmId a.revision slot.due) = none) :
    (b.armed (row.superseded id) id a slot).Current := by
  have hnone : ∀ oid o, (row.superseded id).Scheduled oid o ↔ row.Scheduled oid o ∧ o.alarmId ≠ id := by
    intro oid o
    unfold AppRow.superseded
    split
    · exact scheduled_cancelScheduled_iff id oid o
    · rename_i hp
      refine ⟨fun ho => ⟨ho, fun hkey => ?_⟩, fun ho => ho.1⟩
      obtain ⟨p, hp', -⟩ := h.owned oid o ho
      rw [hkey, hp] at hp'
      cases hp'
  have halarms : (row.superseded id).alarms = row.alarms := by
    unfold AppRow.superseded
    split <;> rfl
  refine current_armed (fun oid o ho _ => ?_) (fun oid o ho hkey => ?_) (fun k a' hk ha' oid => ?_)
    hid hen (get?_superseded_of_none hnew)
  · rw [AppRow.Owned, halarms]
    exact h.owned oid o ((hnone oid o).1 ho).1
  · exact absurd hkey ((hnone oid o).1 ho).2
  · rw [halarms] at ha'
    rw [h.next k a' ha' oid]
    simp only [AppRow.Pending, hnone]
    constructor
    · rintro ⟨o, ho, hkey, hparent⟩
      exact ⟨o, ⟨ho, fun he => hk (hkey.symm.trans he)⟩, hkey, hparent⟩
    · rintro ⟨o, ⟨ho, -⟩, hrest⟩
      exact ⟨o, ho, hrest⟩

/-- A disabled alarm has nothing scheduled, so enabling it arms it with its only slot. -/
theorem current_enable {row : AppRow} (h : row.Current) {key : String} {a : Alarm} {slot : Slot}
    (ha : row.alarms.get? key = some a) (hid : a.alarmId = key) (hdis : a.enabled = false)
    (hnew : row.occurrences.get? (occurrenceId a.alarmId (a.revision + 1) slot.due) = none) :
    (b.armed row key { a with revision := a.revision + 1, enabled := true } slot).Current := by
  refine current_armed (fun oid o ho _ => h.owned oid o ho) (fun oid o ho hkey => ?_)
    (fun k a' _ ha' oid => h.next k a' ha' oid) hid rfl hnew
  obtain ⟨a', ha', hen, -⟩ := h.owned oid o ho
  rw [hkey, ha] at ha'
  rw [← Option.some.inj ha', hdis] at hen
  cases hen

theorem current_snoozed {row : AppRow} (h : row.Current) {parentId actionId : String}
    {received due : Instant} {duration : Int} {key : String} {a : Alarm}
    (ha : row.alarms.get? key = some a) (hid : a.alarmId = key) (hen : a.enabled = true)
    (hnew : row.occurrences.get? (snoozeId parentId (1 + row.snoozeCount parentId)) = none) :
    (b.snoozed row parentId actionId received due duration a).Current := by
  generalize hoid₀ : snoozeId parentId (1 + row.snoozeCount parentId) = oid₀ at hnew
  have hsched : ∀ oid o, (b.snoozed row parentId actionId received due duration a).Scheduled oid o ↔
      (oid = oid₀ ∧ o = b.newOccurrence a ⟨due, due.date⟩ oid₀ (some parentId)) ∨
        (oid ≠ oid₀ ∧ row.Scheduled oid o) := by
    intro oid o
    unfold AppRow.Scheduled Backend.snoozed
    simp only [hoid₀, Dict.get?_set]
    split
    · rename_i hoid
      simp only [hoid, Option.some.injEq, true_and, ne_eq, not_true_eq_false, false_and, or_false]
      exact ⟨fun h => h.1.symm, fun h => ⟨h.symm, h ▸ rfl⟩⟩
    · rename_i hoid
      simp [hoid]
  refine ⟨fun oid o ho => ?_, fun k a' ha' oid => ?_⟩
  · rcases (hsched oid o).1 ho with ⟨-, rfl⟩ | ⟨-, ho⟩
    · have hkey : (b.newOccurrence a ⟨due, due.date⟩ oid₀ (some parentId)).alarmId = key := hid
      exact ⟨a, by rw [hkey]; exact ha, hen, rfl⟩
    · exact h.owned oid o ho
  · rw [h.next k a' ha' oid]
    simp only [AppRow.Pending, hsched]
    constructor
    · rintro ⟨o, ho, hrest⟩
      refine ⟨o, .inr ⟨fun he => ?_, ho⟩, hrest⟩
      rw [he] at ho
      exact absurd (hnew.symm.trans ho.1) (by simp)
    · rintro ⟨o, ⟨-, rfl⟩ | ⟨-, ho⟩, hrest⟩
      · exact absurd hrest.2 (by simp [Backend.newOccurrence])
      · exact ⟨o, ho, hrest⟩

theorem current_cancelSlot {row : AppRow} (h : row.Current) {oid : String} {occ : Occurrence}
    {a : Alarm} (ho : row.Scheduled oid occ) (ha : row.alarms.get? occ.alarmId = some a) :
    (row.cancelSlot oid occ a).Current := by
  refine h.take ho ha (fun oid' o => ?_) ?_
  · unfold AppRow.Scheduled AppRow.cancelSlot
    have hocc : ∀ row' : AppRow, row'.occurrences =
        row.occurrences.set oid { occ with state := .cancelled } →
        (row'.occurrences.get? oid' = some o ∧ o.state = .scheduled ↔
          oid' ≠ oid ∧ row.occurrences.get? oid' = some o ∧ o.state = .scheduled) := by
      intro row' h'
      rw [h', Dict.get?_set]
      split
      · rename_i hoid
        refine ⟨fun h => ?_, fun h => absurd hoid h.1⟩
        have hs := h.2
        rw [← Option.some.inj h.1] at hs
        cases hs
      · rename_i hoid
        exact ⟨fun h => ⟨hoid, h⟩, fun h => h.2⟩
    dsimp only
    split <;> exact hocc _ rfl
  · unfold AppRow.cancelSlot
    dsimp only
    split <;> rfl

theorem current_fireSlot {row row' : AppRow} (h : row.Current) (hk : row.Keyed) {x : Advance}
    {oid : String} {occ : Occurrence} {a : Alarm} (ho : row.Scheduled oid occ)
    (ha : row.alarms.get? occ.alarmId = some a) (hr : revoked row a occ = false)
    (hf : b.fireSlot x app row oid occ a = .ok row') : row'.Current := by
  have hid := hk.alarms ha
  simp only [revoked, Bool.or_eq_false_iff, Bool.not_eq_false', decide_eq_false_iff_not, ne_eq,
    not_not] at hr
  have hnext := fun oid' => h.next _ a ha oid'
  obtain ⟨adapterId, ⟨hp, rfl⟩ | ⟨hp, -, rfl⟩ | ⟨hp, -, slot, -, hnew, rfl⟩⟩ := fireSlot_eq_ok hf
  · refine h.take ho ha (scheduled_fired_iff adapterId) ?_
    rw [if_neg]
    · rfl
    · intro hn
      obtain ⟨o, hs, -, hparent⟩ := (hnext oid).1 hn
      rw [Option.some.inj (hs.1.symm.trans ho.1)] at hparent
      exact hp hparent
  · refine h.take ho ha (scheduled_fired_iff adapterId) ?_
    rw [if_pos ((hnext oid).2 (ho.pending hp))]
    rfl
  · refine current_armed (fun oid' o ho' _ => h.owned oid' o ((scheduled_fired_iff adapterId oid' o).1 ho').2)
      (fun oid' o ho' hkey => ?_) (fun k a' hk ha' oid' => ?_) hid hr.1.2 hnew
    · obtain ⟨hne, ho'⟩ := (scheduled_fired_iff adapterId oid' o).1 ho'
      obtain ⟨a', ha', -, hrev⟩ := h.owned oid' o ho'
      rw [hkey, ha] at ha'
      refine ⟨by rw [Option.some.inj ha', hrev], fun hparent => hne ?_⟩
      -- the alarm names one regular slot, and that one has just fired
      have h₁ := (hnext oid').2 (hkey ▸ ho'.pending hparent)
      have h₂ := (hnext oid).2 (ho.pending hp)
      exact Option.some.inj (h₁.symm.trans h₂)
    · rw [h.next k a' ha' oid']
      simp only [AppRow.Pending, scheduled_fired_iff]
      constructor
      · rintro ⟨o, ho', hkey, hparent⟩
        refine ⟨o, ⟨?_, ho'⟩, hkey, hparent⟩
        rintro rfl
        exact hk (hkey.symm.trans (by rw [Option.some.inj (ho'.1.symm.trans ho.1)]))
      · rintro ⟨o, ⟨-, ho'⟩, hrest⟩
        exact ⟨o, ho', hrest⟩

/-- **Currency.** Every transition keeps what is scheduled current. -/
theorem RowStep.current {act : Act} {row row' : AppRow} (hs : RowStep b app act row row')
    (hk : row.Keyed) (hm : row.Matched) (h : row.Current) : row'.Current := by
  cases hs with
  | context => exact h.frame (fun _ _ => Iff.rfl) fun _ => rfl
  | @health _ key a p ha =>
    refine h.frame (fun _ _ => Iff.rfl) fun k => ?_
    rw [setAlarm_alarms, Dict.get?_set]
    split
    · rename_i hkey
      rw [hkey, ha]
      rfl
    · rfl
  | disable ha => exact current_disable h (hk.alarms ha)
  | install _ _ _ hnew => exact current_install h rfl rfl hnew
  | enable _ ha hdis _ hnew => exact current_enable h ha (hk.alarms ha) hdis hnew
  | snooze _ _ _ _ ha hen _ _ _ hnew => exact current_snoozed h ha (hk.alarms ha) hen hnew
  | receipt => exact h.frame (fun _ _ => Iff.rfl) fun _ => rfl
  | dedup => exact h.frame (fun _ _ => Iff.rfl) fun _ => rfl
  | cancelSlot ho hsched ha => exact current_cancelSlot h ⟨ho, hsched⟩ ha
  | fireSlot ho hsched _ ha hr hf => exact current_fireSlot h hk ⟨ho, hsched⟩ ha hr hf
  | @effect _ key act e e' occ s he ho hstep =>
    obtain ⟨hp, -, hsync⟩ := hstep.pending (hm.outbox he).2
    obtain ⟨-, o, ho', hstate⟩ := hm.effect he
    rw [Option.some.inj (ho'.symm.trans ho)] at hstate
    have hne : occ.state ≠ .scheduled := fun hc => by rw [hc] at hstate; cases hstate
    cases s with
    | none => exact h.frame (fun _ _ => Iff.rfl) fun _ => rfl
    | some s =>
      have ho' : row.occurrences.get? e'.occurrenceId = some occ := by rw [hstep.ids.2, ho]
      exact h.frame (scheduled_set_iff ho' hne hsync.2.1 rfl) fun _ => rfl
  | recoverEffect => exact h.frame (fun _ _ => Iff.rfl) fun _ => rfl
  | event => exact h.frame (fun _ _ => Iff.rfl) fun _ => rfl
  | @acked _ key act e e' occ he ho hstep =>
    have ho' : row.occurrences.get? e'.occurrenceId = some occ := by rw [hstep.ids.2, ho]
    by_cases hg : occ.state = .guestPending
    · let o : Occurrence := { occ with state := .guestAcked }
      have hs : o.state ≠ .scheduled := by simp [o]
      refine h.frame (scheduled_set_iff ho' (by simp [hg]) hs ?_) fun _ => rfl
      simp [AppRow.putAcked, hg, o]
    · refine h.frame (fun oid o => ?_) fun _ => rfl
      simp [AppRow.Scheduled, AppRow.putAcked, hg]

end

/-! ## A disabled app is idle -/

/-- An app that the host has disabled has no enabled alarm. -/
def AppRow.Idle (row : AppRow) : Prop :=
  row.context.enabled = false → row.alarms.All fun _ a => a.enabled = false

section

variable {b : Backend} {app : String}

/-- Whatever is not a change of the context keeps a disabled app idle: arming an alarm needs an
enabled app. -/
theorem RowStep.idle {act : Act} {row row' : AppRow} (hs : RowStep b app act row row')
    (hact : act ≠ .context) (h : row.Idle) : row'.Idle := by
  cases hs with
  | context => exact absurd rfl hact
  | health => exact absurd rfl hact
  | disable => exact fun hc => (h hc).set rfl
  | @install _ id _ _ _ _ _ hctx =>
    intro hc
    have hsame : (row.superseded id).context = row.context := by
      unfold AppRow.superseded
      split <;> rfl
    exact absurd (hctx.symm.trans ((congrArg Context.enabled hsame).symm.trans hc)) (by decide)
  | enable hctx => exact fun hc => absurd (hctx.symm.trans hc) (by decide)
  | snooze hctx => exact fun hc => absurd (hctx.symm.trans hc) (by decide)
  | receipt => exact h
  | dedup => exact h
  | cancelSlot ho _ ha =>
    unfold AppRow.cancelSlot
    dsimp only
    split
    · intro hc
      have hdis := h hc ha
      exact (h hc).set hdis
    · exact h
  | fireSlot _ _ _ _ hr hf =>
    simp only [revoked, Bool.or_eq_false_iff, Bool.not_eq_false'] at hr
    have hctx := hr.1.1.1
    obtain ⟨adapterId, ⟨-, rfl⟩ | ⟨-, -, rfl⟩ | ⟨-, -, slot, -, -, rfl⟩⟩ := fireSlot_eq_ok hf <;>
      exact fun hc => absurd (hctx.symm.trans hc) (by decide)
  | effect => exact h
  | recoverEffect => exact h
  | event => exact h
  | acked => exact h

theorem hostAlarm_context {c : Context} {row row' : AppRow} {key : String}
    (h : hostAlarm c row key = .ok row') : row'.context = row.context := by
  unfold hostAlarm at h
  split at h
  · cases h
    rfl
  · simp only at h
    split at h
    · obtain ⟨⟨row₁, a₁, o⟩, hd, h⟩ := bind_eq_ok.1 h
      cases pure_eq_ok.1 h
      rcases disable_eq_ok hd with ⟨-, rfl, -⟩ | ⟨-, rfl, -⟩ <;> rfl
    · cases h
      rfl

theorem hostRow_context {c : Context} {row row' : AppRow} (h : hostRow c row = .ok row') :
    row'.context = c :=
  foldlM_rel (R := fun r r' : AppRow => r'.context = r.context) (fun _ => rfl)
    (fun h₁ h₂ => h₂.trans h₁) hostAlarm_context h

/-- Every alarm was there before, and is disabled when it was, or when it is in `keys`. -/
def DisablesAll (keys : List String) (row row' : AppRow) : Prop :=
  ∀ k a', row'.alarms.get? k = some a' →
    ∃ a, row.alarms.get? k = some a ∧ (a.enabled = false ∨ k ∈ keys → a'.enabled = false)

/-- What `host_context` does to one alarm of an app it disables. -/
theorem hostAlarm_disables {c : Context} {row row' : AppRow} {key : String} (hc : c.enabled = false)
    (h : hostAlarm c row key = .ok row') : DisablesAll [key] row row' := by
  have hset : ∀ {a a₁ : Alarm} {r : AppRow}, row.alarms.get? key = some a → r.alarms = row.alarms →
      a₁.enabled = false → DisablesAll [key] row (r.setAlarm key a₁) := by
    intro a a₁ r ha hr hen k a' hk
    rw [setAlarm_alarms, Dict.get?_set, hr] at hk
    split at hk
    · rename_i hkey
      cases hk
      exact ⟨a, hkey ▸ ha, fun _ => hen⟩
    · rename_i hkey
      exact ⟨a', hk, fun h => h.elim id fun h => absurd (List.mem_singleton.1 h) hkey⟩
  unfold hostAlarm at h
  split at h
  · rename_i hnone
    cases h
    refine fun k a' hk => ⟨a', hk, fun h => h.elim id fun h => ?_⟩
    rw [List.mem_singleton.1 h, hnone] at hk
    cases hk
  · rename_i a ha
    simp only at h
    split at h
    · obtain ⟨⟨row₁, a₁, o⟩, hd, h⟩ := bind_eq_ok.1 h
      cases pure_eq_ok.1 h
      rcases disable_eq_ok hd with ⟨hdis, rfl, rfl⟩ | ⟨-, rfl, rfl⟩
      · exact hset ha rfl hdis
      · exact hset ha rfl rfl
    · rename_i hen
      cases h
      have hdis : a.enabled = false := by simpa [hc] using hen
      exact hset ha rfl hdis

theorem hostAlarms_disable {c : Context} (hc : c.enabled = false) :
    ∀ {keys : List String} {row row' : AppRow}, keys.foldlM (hostAlarm c) row = .ok row' →
      DisablesAll keys row row'
  | [], row, row', h => by
    cases pure_eq_ok.1 h
    exact fun k a' hk => ⟨a', hk, fun h => h.elim id fun h => absurd h List.not_mem_nil⟩
  | key :: rest, row, row', h => by
    rw [List.foldlM_cons] at h
    obtain ⟨m, hm, h⟩ := bind_eq_ok.1 h
    intro k a' hk
    obtain ⟨a₁, ha₁, hdis₁⟩ := hostAlarms_disable hc h k a' hk
    obtain ⟨a, ha, hdis⟩ := hostAlarm_disables hc hm k a₁ ha₁
    refine ⟨a, ha, fun h => hdis₁ ?_⟩
    rcases h with h | h
    · exact .inl (hdis (.inl h))
    · rcases List.mem_cons.1 h with h | h
      · exact .inl (hdis (.inr (List.mem_singleton.2 h)))
      · exact .inr h

/-- The whole loop of `host_context` leaves a disabled app idle. -/
theorem hostRow_idle {c : Context} {row row' : AppRow} (h : hostRow c row = .ok row') :
    row'.Idle := by
  intro hc key a' ha'
  rw [hostRow_context h] at hc
  obtain ⟨a, ha, hdis⟩ := hostAlarms_disable hc h key a' ha'
  exact hdis (.inr (Dict.mem_keys_iff.2 ⟨a, ha⟩))

theorem step_idle {l : Ledger} {c : Call} (hk : l.Keyed) (h : l.apps.All fun _ row => row.Idle) :
    (b.step l c).apps.All fun _ row => row.Idle := by
  rcases step_cases b l c hk with hl | ⟨r, hperform, hr⟩
  · rw [hl]
    exact h
  · by_cases hctx : ∃ app, c.allows app .context
    · obtain ⟨app, hallow⟩ := hctx
      cases c with
      | hostContext app' generation enabled granted permission rollback =>
        obtain ⟨⟨l₁, ⟨⟩⟩, hh, hp⟩ := bind_eq_ok.1 hperform
        obtain ⟨context, row', -, -, -, -, -, hrow, hl⟩ := hostContext_eq_ok hh
        have hl₁ : b.step l _ = l₁ := congrArg Prod.fst (pure_eq_ok.1 hp).symm
        rw [hl₁, hl]
        exact h.set (hostRow_idle hrow)
      | _ => exact hallow.elim
    · intro app row' hrow'
      obtain ⟨row, as, hrow, has, hsteps, -⟩ := hr.rows app row' hrow'
      have h₀ : row.Idle := by
        rcases hrow with hrow | ⟨-, c, rfl⟩
        · exact h hrow
        · exact fun _ => Dict.all_empty
      exact hsteps.invariant h₀ fun ha hs =>
        hs.idle fun he => hctx ⟨app, he ▸ has _ ha⟩

theorem Reachable.idle {l : Ledger} (h : Reachable l) : l.apps.All fun _ row => row.Idle :=
  (h.invariant (P := fun l => l.Keyed ∧ l.apps.All fun _ row => row.Idle)
    ⟨Dict.all_empty, Dict.all_empty⟩ fun _ _ _ hi => ⟨step_keyed hi.1, step_idle hi.1 hi.2⟩).2

theorem Reachable.current {l : Ledger} (h : Reachable l) : l.apps.All fun _ row => row.Current :=
  (h.row_invariant (P := fun _ row => row.Matched ∧ row.Current)
    (fun _ c => ⟨matched_new c, current_new c⟩)
    fun hs hk hi => ⟨hs.matched hi.1, hs.current hk hi.1 hi.2⟩).mono fun _ _ hi => hi.2

end

/-! ## A retired revision never fires -/

/-- The occurrence stored under `oid` was taken up and fired. -/
def AppRow.Fired (row : AppRow) (oid : String) (o : Occurrence) : Prop :=
  row.occurrences.get? oid = some o ∧ o.state.isFired

/-- The alarm stored under `key` has left this revision behind, or was disabled in it. -/
def AppRow.Retired (row : AppRow) (key : String) (revision : Nat) : Prop :=
  ∃ a, row.alarms.get? key = some a ∧
    (revision < a.revision ∨ a.revision = revision ∧ a.enabled = false)

section

variable {b : Backend} {app : String} {row row' : AppRow} {oid : String} {o' : Occurrence}

/-- What fired is what had fired, as far as its creation goes. -/
def AppRow.Origin (row : AppRow) (oid : String) (o' : Occurrence) : Prop :=
  ∃ o, row.Fired oid o ∧ o.created = o'.created

theorem AppRow.Fired.origin (h : row.Fired oid o') : row.Origin oid o' := ⟨o', h, rfl⟩

/-- Writing an occurrence that has not fired lets nothing fire. -/
theorem fired_of_set {k : String} {o : Occurrence} (hocc : row'.occurrences = row.occurrences.set k o)
    (ho : ¬ o.state.isFired) (h : row'.Fired oid o') : row.Fired oid o' := by
  obtain ⟨hget, hf⟩ := h
  rw [hocc, Dict.get?_set] at hget
  split at hget
  · exact absurd (Option.some.inj hget ▸ hf) ho
  · exact ⟨hget, hf⟩

/-- Writing a new state over an occurrence that has fired lets nothing else fire. -/
theorem origin_of_set {k : String} {o₀ o : Occurrence}
    (hocc : row'.occurrences = row.occurrences.set k o) (h₀ : row.Fired k o₀)
    (hcreated : o₀.created = o.created) (h : row'.Fired oid o') : row.Origin oid o' := by
  obtain ⟨hget, hf⟩ := h
  rw [hocc, Dict.get?_set] at hget
  split at hget
  · rename_i hoid
    rw [hoid, ← Option.some.inj hget]
    exact ⟨o₀, h₀, hcreated⟩
  · exact AppRow.Fired.origin ⟨hget, hf⟩

theorem fired_cancelScheduled {id : String} (h : (row.cancelScheduled id).Fired oid o') :
    row.Fired oid o' := by
  obtain ⟨hget, hf⟩ := h
  rw [get?_cancelScheduled] at hget
  obtain ⟨o, ho, hget⟩ := Option.map_eq_some_iff.1 hget
  split at hget
  · rw [← hget] at hf
    exact absurd rfl hf.2
  · rw [← hget] at hf ⊢
    exact ⟨ho, hf⟩

theorem fired_superseded {id : String} (h : (row.superseded id).Fired oid o') : row.Fired oid o' := by
  unfold AppRow.superseded at h
  split at h
  · exact fired_cancelScheduled h
  · exact h

theorem fired_armed {key : String} {a : Alarm} {slot : Slot} (h : (b.armed row key a slot).Fired oid o') :
    row.Fired oid o' :=
  fired_of_set rfl (fun hf => hf.1 rfl) h

/-- The occurrence of an alarm that is enabled at its revision, in an app that may fire. -/
def AppRow.MayFire (row : AppRow) (o : Occurrence) : Prop :=
  row.context.enabled = true ∧ row.context.schedulerGranted = true ∧ row.Owned o

/-- **Firing.** What a transition leaves fired had fired before, or belongs to an enabled alarm
at its current revision, in an enabled and granted app. -/
theorem RowStep.fires {act : Act} (hs : RowStep b app act row row') (hm : row.Matched)
    (h : row'.Fired oid o') : row.Origin oid o' ∨ row.MayFire o' := by
  cases hs with
  | context => exact .inl (AppRow.Fired.origin h)
  | health => exact .inl (AppRow.Fired.origin h)
  | disable => exact .inl (fired_cancelScheduled h).origin
  | install => exact .inl (fired_superseded (fired_armed h)).origin
  | enable => exact .inl (fired_armed h).origin
  | snooze => exact .inl (fired_of_set rfl (fun hf => hf.1 rfl) h).origin
  | receipt => exact .inl (AppRow.Fired.origin h)
  | dedup => exact .inl (AppRow.Fired.origin h)
  | @cancelSlot _ k occ a =>
    refine .inl (fired_of_set (k := k) (o := { occ with state := .cancelled }) ?_ (fun hf => hf.2 rfl)
      h).origin
    unfold AppRow.cancelSlot
    dsimp only
    split <;> rfl
  | @fireSlot _ _ k occ a x ho hsched _ ha hr hf =>
    have hmay : row.MayFire occ := by
      simp only [revoked, Bool.or_eq_false_iff, Bool.not_eq_false', decide_eq_false_iff_not, ne_eq,
        not_not] at hr
      exact ⟨hr.1.1.1, hr.1.1.2, a, ha, hr.1.2, hr.2⟩
    have hfired : ∀ adapterId, (row.fired x k occ a adapterId).Fired oid o' →
        row.Origin oid o' ∨ row.MayFire o' := by
      rintro adapterId ⟨hget, hf⟩
      have hget : (row.occurrences.set k (occ.fired x row k a)).get? oid = some o' := hget
      rw [Dict.get?_set] at hget
      split at hget
      · exact .inr (Option.some.inj hget ▸ hmay)
      · exact .inl (AppRow.Fired.origin ⟨hget, hf⟩)
    obtain ⟨adapterId, ⟨-, rfl⟩ | ⟨-, -, rfl⟩ | ⟨-, -, slot, -, -, rfl⟩⟩ := fireSlot_eq_ok hf
    · exact hfired adapterId h
    · exact hfired adapterId h
    · exact hfired adapterId (fired_armed h)
  | @effect _ key act e e' occ s he ho hstep =>
    cases s with
    | none => exact .inl (AppRow.Fired.origin h)
    | some s =>
      obtain ⟨-, o, ho', hstate⟩ := hm.effect he
      rw [Option.some.inj (ho'.symm.trans ho)] at hstate
      have hocc : row.Fired e'.occurrenceId occ := by
        refine ⟨hstep.ids.2 ▸ ho, ?_⟩
        constructor <;> (intro hc; rw [hc] at hstate; cases hstate)
      exact .inl (origin_of_set (o := { occ with state := s }) rfl hocc rfl h)
  | recoverEffect => exact .inl (AppRow.Fired.origin h)
  | event => exact .inl (AppRow.Fired.origin h)
  | @acked _ key act e e' occ he ho hstep =>
    by_cases hg : occ.state = .guestPending
    · have hocc : row.Fired e'.occurrenceId occ :=
        ⟨hstep.ids.2 ▸ ho, by rw [hg]; decide, by rw [hg]; decide⟩
      refine .inl (origin_of_set (o := { occ with state := .guestAcked }) ?_ hocc rfl h)
      simp [AppRow.putAcked, hg]
    · refine .inl (AppRow.Fired.origin ?_)
      simpa [AppRow.Fired, AppRow.putAcked, hg] using h

/-- What was retired stays so, and what of it has fired had fired before. -/
def AppRow.KeepsRetired (row row' : AppRow) : Prop :=
  ∀ key r, row.Retired key r → row'.Retired key r ∧
    ∀ oid o', row'.Fired oid o' → o'.alarmId = key → o'.revision = r → row.Origin oid o'

theorem AppRow.KeepsRetired.refl (row : AppRow) : row.KeepsRetired row :=
  fun _ _ h => ⟨h, fun _ _ hf _ _ => hf.origin⟩

theorem AppRow.KeepsRetired.trans {r s t : AppRow} (h₁ : r.KeepsRetired s) (h₂ : s.KeepsRetired t) :
    r.KeepsRetired t := by
  intro key n hn
  obtain ⟨hn₁, ho₁⟩ := h₁ key n hn
  obtain ⟨hn₂, ho₂⟩ := h₂ key n hn₁
  refine ⟨hn₂, fun oid o'' hf hkey hrev => ?_⟩
  obtain ⟨o', hf', hcreated⟩ := ho₂ oid o'' hf hkey hrev
  have hkey' := (congrArg Occurrence.alarmId hcreated).trans hkey
  have hrev' := (congrArg Occurrence.revision hcreated).trans hrev
  obtain ⟨o, hf₀, hcreated'⟩ := ho₁ oid o' hf' hkey' hrev'
  exact ⟨o, hf₀, hcreated'.trans hcreated⟩

theorem RowStep.keepsRetired {act : Act} (hs : RowStep b app act row row') (hm : row.Matched) :
    row.KeepsRetired row' := by
  rintro key r ⟨a, ha, hr⟩
  constructor
  · obtain ⟨a', ha', hle⟩ := (hs.grows hm).alarms ha
    refine ⟨a', ha', ?_⟩
    rcases hle with hlt | hsame
    · rcases hr with hr | ⟨hr, -⟩
      · exact .inl (hr.trans hlt)
      · exact .inl (hr ▸ hlt)
    · have hen : a'.enabled = a.enabled := by
        show a'.settings.enabled = a.settings.enabled
        rw [hsame]
      rwa [revision_of_settings hsame, hen]
  · intro oid o' hf hkey hrev
    rcases hs.fires hm hf with ho | ⟨-, -, a', ha', hen, hcur⟩
    · exact ho
    · -- what fires is current, and a retired revision is not
      rw [hkey, ha] at ha'
      cases ha'
      rcases hr with hr | ⟨-, hdis⟩
      · rw [hcur, hrev] at hr
        exact absurd hr (Nat.lt_irrefl _)
      · exact absurd (hen.symm.trans hdis) (by decide)

/-- No run lets anything of a retired revision fire. -/
theorem after_keepsRetired {l : Ledger} (h : Reachable l) (run : List Input)
    (hrow : l.apps.get? app = some row) :
    ∃ row', (after l run).apps.get? app = some row' ∧ row.KeepsRetired row' :=
  after_row_rel (B := fun _ => True) AppRow.KeepsRetired.refl AppRow.KeepsRetired.trans
    (fun _ hs h => ⟨hs.matched h, hs.keepsRetired h⟩) h.keyed hrow (h.matched hrow)
    fun _ _ => trivial

end

/-! ## The invariant, in the words of the alarms -/

/-- The alarm's next occurrence is its only scheduled regular one, or it has none. -/
def AppRow.NamesNext (row : AppRow) (key : String) (a : Alarm) : Prop :=
  (∃ oid, a.nextOccurrenceId = some oid ∧ row.Pending key oid ∧
    ∀ oid', row.Pending key oid' → oid' = oid) ∨
  a.nextOccurrenceId = none ∧ ∀ oid, ¬ row.Pending key oid

theorem AppRow.Current.namesNext {row : AppRow} (h : row.Current) {key : String} {a : Alarm}
    (ha : row.alarms.get? key = some a) : row.NamesNext key a := by
  cases hn : a.nextOccurrenceId with
  | none =>
    refine .inr ⟨hn, fun oid hp => ?_⟩
    rw [(h.next key a ha oid).2 hp] at hn
    cases hn
  | some oid =>
    refine .inl ⟨oid, hn, (h.next key a ha oid).1 hn, fun oid' hp => ?_⟩
    rw [(h.next key a ha oid').2 hp] at hn
    exact Option.some.inj hn

/-- **Currency.** In every reachable ledger what is scheduled belongs to an enabled alarm at its
current revision, each alarm names its only scheduled regular slot, and a disabled app has
nothing enabled or scheduled. Along every run revisions do not decrease, and neither a retired
revision nor a cancelled slot fires. -/
theorem schedule_current {l : Ledger} (h : Reachable l) {app : String} {row : AppRow}
    (hrow : l.apps.get? app = some row) :
    (∀ oid o, row.Scheduled oid o → row.Owned o) ∧
    (∀ key a, row.alarms.get? key = some a → row.NamesNext key a) ∧
    (row.context.enabled = false →
      (∀ key a, row.alarms.get? key = some a → a.enabled = false) ∧
        ∀ oid o, ¬ row.Scheduled oid o) ∧
    ∀ run : List Input, ∃ row', (after l run).apps.get? app = some row' ∧
      (∀ key a, row.alarms.get? key = some a →
        ∃ a', row'.alarms.get? key = some a' ∧ a.revision ≤ a'.revision) ∧
      (∀ key r, row.Retired key r → ∀ oid o', row'.Fired oid o' → o'.alarmId = key →
        o'.revision = r → row.Origin oid o') ∧
      ∀ oid o, row.occurrences.get? oid = some o → o.state = .cancelled →
        row'.occurrences.get? oid = some o := by
  have hcur := h.current hrow
  refine ⟨hcur.owned, fun key a ha => hcur.namesNext ha, fun hc => ?_, fun run => ?_⟩
  · have hidle := h.idle hrow hc
    refine ⟨fun key a ha => hidle ha, fun oid o ho => ?_⟩
    obtain ⟨a, ha, hen, -⟩ := hcur.owned oid o ho
    exact absurd (hen.symm.trans (hidle ha)) (by decide)
  · obtain ⟨row', hrow', hgrows⟩ := after_grows h run hrow
    obtain ⟨row₁, hrow₁, hretired⟩ := after_keepsRetired h run hrow
    cases hrow'.symm.trans hrow₁
    refine ⟨row', hrow', fun key a ha => ?_, fun key r hr => (hretired key r hr).2,
      fun oid o ho hc => ?_⟩
    · obtain ⟨a', ha', hle⟩ := hgrows.alarms ha
      exact ⟨a', ha', hle.revision⟩
    · obtain ⟨o', ho', hle⟩ := hgrows.occurrences ho
      rw [ho', hle.cancelled hc]

theorem schedule_current_sample :
    (∀ oid o, sampleRow.Scheduled oid o → sampleRow.Owned o) ∧
      ∀ key a, sampleRow.alarms.get? key = some a → sampleRow.NamesNext key a :=
  have h := schedule_current ⟨sampleRun, rfl⟩ sampleRow_eq
  ⟨h.1, h.2.1⟩

end Vibapp.Scheduler
