import Vibapp.Lib.Chain
import Vibapp.Scheduler.Currency

/-!
# Recurrence without drift

The slot after a regular one depends on the schedule and on that slot alone (`Backend.nextSlot`):
it is on a later day and due later, and passes over a day of the recurrence only when that day's
own instant is not after the previous slot (`nextSlot_spec`). The regular slots of one alarm
revision are a chain of these (`Chained`), whatever the calls do between two of them, so two
runs can only differ in how far they got (`slots_comparable`). Ids determine what they are made
of, so no slot is ever added twice (`Reachable.fresh`).
-/

namespace Vibapp.Scheduler

/-! ## The next slot -/

section

variable {b : Backend} {v : LocalRecurrence} {z : Zone} {after : Instant} {d : Date} {s : Slot}

/-- The recurrence does not contain the day, or the day's slot is not after `after`. -/
def LocalRecurrence.PassedOver (v : LocalRecurrence) (z : Zone) (after : Instant) (d : Date) : Prop :=
  v.matches d = true → ∃ t, resolveCivil d v.time z = .ok t ∧ t ≤ after

/-- The slot is the recurrence's on its day, and after `after`. -/
structure LocalRecurrence.SlotAfter (v : LocalRecurrence) (z : Zone) (after : Instant) (s : Slot) :
    Prop where
  «matches» : v.matches s.civilDate = true
  resolved : resolveCivil s.civilDate v.time z = .ok s.due
  later : after < s.due

theorem slotOn_eq_some (h : slotOn v z after d = .ok (some s)) :
    s.civilDate = d ∧ v.SlotAfter z after s := by
  unfold slotOn at h
  split at h
  · rename_i hm
    obtain ⟨t, ht, h⟩ := bind_eq_ok.1 h
    have h := pure_eq_ok.1 h
    split at h
    · rename_i hlt
      cases h
      exact ⟨rfl, hm, ht, hlt⟩
    · cases h
  · cases h

theorem slotOn_eq_none (h : slotOn v z after d = .ok none) : v.PassedOver z after d := by
  unfold slotOn at h
  split at h
  · obtain ⟨t, ht, h⟩ := bind_eq_ok.1 h
    have h := pure_eq_ok.1 h
    split at h
    · cases h
    · rename_i hlt
      exact fun _ => ⟨t, ht, not_lt.1 hlt⟩
  · rename_i hm
    exact fun hc => absurd hc hm

theorem representable_eq_ok {α : Type} {x : Option α} {a : α} :
    representable x = .ok a ↔ x = some a := by
  cases x <;> simp [representable]

theorem date_succ_le {d e f : Date} (h : d.succ? = some e) (hf : d < f) : e ≤ f := by
  have he := Date.succ?_eq_some h
  have hlt : (d : Nat) < f := hf
  exact Fin.le_def.2 (by omega)

/-- The search finds the first day whose slot is after `after`. -/
theorem searchSlot_eq_ok {n : Nat} (h : searchSlot v z after n d = .ok s) :
    v.SlotAfter z after s ∧ d ≤ s.civilDate ∧
      ∀ e, d ≤ e → e < s.civilDate → v.PassedOver z after e := by
  induction n generalizing d with
  | zero => exact absurd h (error_ne_ok _ _ _)
  | succ n ih =>
    obtain ⟨x, hx, h⟩ := bind_eq_ok.1 h
    cases x with
    | some s' =>
      cases pure_eq_ok.1 h
      obtain ⟨hd, hslot⟩ := slotOn_eq_some hx
      exact ⟨hslot, hd.ge, fun e he hlt => absurd (hd ▸ hlt) (not_lt.2 he)⟩
    | none =>
      obtain ⟨d', hd', h⟩ := bind_eq_ok.1 h
      have hd' := representable_eq_ok.1 hd'
      obtain ⟨hslot, hle, hpassed⟩ := ih h
      refine ⟨hslot, (Date.lt_of_succ? hd').le.trans hle, fun e he hlt => ?_⟩
      rcases he.eq_or_lt with rfl | he
      · exact slotOn_eq_none hx
      · exact hpassed e (date_succ_le hd' he) hlt

/-- The slot is the recurrence's first one that is on a later day than `p` and due later. -/
structure LocalRecurrence.Follows (v : LocalRecurrence) (z : Zone) (p s : Slot) : Prop
    extends v.SlotAfter z p.due s where
  date : p.civilDate < s.civilDate
  passed : ∀ d, v.startDate ≤ d → p.civilDate < d → d < s.civilDate → v.PassedOver z p.due d

/-- The slot a recurring alarm gets after `p`. -/
def Backend.nextSlot (b : Backend) (schedule : Schedule) (p : Slot) : Py (Option Slot) :=
  b.nextCivil schedule p.due (some p.civilDate)

/-- **No drift.** The next slot follows the previous one, in the zone's rules. -/
theorem nextSlot_spec {p : Slot} (h : b.nextSlot (.recurring v) p = .ok (some s)) :
    ∃ z, b.zones v.timeZone = some z ∧ v.Follows z p s := by
  obtain ⟨z, hz, h⟩ := bind_eq_ok.1 h
  obtain ⟨first, hfirst, h⟩ := bind_eq_ok.1 h
  obtain ⟨s', hs, h⟩ := bind_eq_ok.1 h
  cases pure_eq_ok.1 h
  have hsucc := representable_eq_ok.1 hfirst
  obtain ⟨hslot, hle, hpassed⟩ := searchSlot_eq_ok hs
  refine ⟨z, ?_, hslot, ?_, fun e hstart hlt => hpassed e (max_le hstart (date_succ_le hsucc hlt))⟩
  · obtain ⟨name, hname, hz⟩ := bind_eq_ok.1 hz
    rw [checkText_eq_ok hname] at hz
    split at hz
    · rename_i z' hz'
      rw [hz', pure_eq_ok.1 hz]
    · exact absurd hz (error_ne_ok _ _ _)
  · exact (Date.lt_of_succ? hsucc).trans_le ((le_max_right _ _).trans hle)

/-- Every slot `next_civil` gives is due strictly after `after`. -/
theorem nextCivil_later {schedule : Schedule} {afterDate : Option Date}
    (h : b.nextCivil schedule after afterDate = .ok (some s)) : after < s.due := by
  cases schedule with
  | oneShot d t zone =>
    obtain ⟨z, -, h⟩ := bind_eq_ok.1 h
    obtain ⟨r, -, h⟩ := bind_eq_ok.1 h
    have h := pure_eq_ok.1 h
    split at h
    · rename_i hlt
      cases h
      exact hlt
    · cases h
  | recurring v =>
    obtain ⟨z, -, h⟩ := bind_eq_ok.1 h
    obtain ⟨first, -, h⟩ := bind_eq_ok.1 h
    obtain ⟨s', hs, h⟩ := bind_eq_ok.1 h
    cases pure_eq_ok.1 h
    exact (searchSlot_eq_ok hs).1.later

end

/-! ## Ids determine what they are made of -/

/-- The last separator splits a text in one way. -/
theorem append_cons_inj_of_last {l l' ds ds' : List Char} {c : Char} (hc : c ∉ ds) (hc' : c ∉ ds')
    (h : l ++ c :: ds = l' ++ c :: ds') : l = l' ∧ ds = ds' := by
  rcases List.append_eq_append_iff.1 h with ⟨t, hl, ht⟩ | ⟨t, hl, ht⟩
  · cases t with
    | nil => exact ⟨by simpa using hl.symm, (List.cons.inj ht).2⟩
    | cons x t =>
      rw [List.cons_append, List.cons.injEq] at ht
      exact absurd (ht.2 ▸ List.mem_append_right t List.mem_cons_self) hc
  · cases t with
    | nil => exact ⟨by simpa using hl, (List.cons.inj ht).2.symm⟩
    | cons x t =>
      rw [List.cons_append, List.cons.injEq] at ht
      exact absurd (ht.2 ▸ List.mem_append_right t List.mem_cons_self) hc'

/-- Decimal digits contain no letter and no colon. -/
theorem not_mem_toDigits {c : Char} (hc : c.isDigit = false) (n : Nat) : c ∉ Nat.toDigits 10 n :=
  fun h => Bool.noConfusion
    (hc.symm.trans (Nat.isDigit_of_mem_toDigits (by decide) (by decide) h))

theorem toList_toString (n : Nat) : (toString n).toList = Nat.toDigits 10 n := by
  rw [Nat.toString_eq_ofList_toDigits, String.toList_ofList]

theorem occurrenceId_toList (id : String) (r : Nat) (t : Instant) :
    (occurrenceId id r t).toList =
      (("occ:".toList ++ id.toList ++ [':']) ++ 'r' :: Nat.toDigits 10 r) ++ ':' :: t.chars := by
  simp only [occurrenceId, String.toList_append, toList_toString, Instant.text, String.toList_ofList]
  simp

/-- **Regular ids.** The id of a regular occurrence determines its alarm, revision and due
instant: its last twenty characters are the instant, and its last `r` precedes the revision. -/
theorem occurrenceId_inj {id id' : String} {r r' : Nat} {t t' : Instant}
    (h : occurrenceId id r t = occurrenceId id' r' t') : id = id' ∧ r = r' ∧ t = t' := by
  have hl := congrArg String.toList h
  rw [occurrenceId_toList, occurrenceId_toList] at hl
  obtain ⟨hl, ht⟩ := List.append_inj' hl (by simp)
  obtain ⟨hl, hr⟩ := append_cons_inj_of_last (not_mem_toDigits (by decide) r)
    (not_mem_toDigits (by decide) r') hl
  have hid := List.append_cancel_left (List.append_cancel_right hl)
  exact ⟨String.toList_inj.1 hid, Json.toDigits_inj hr,
    Instant.text_injective (congrArg String.ofList (List.cons.inj ht).2)⟩

theorem snoozeId_toList (parent : String) (n : Nat) :
    (snoozeId parent n).toList = ("snooze:".toList ++ parent.toList) ++ ':' :: Nat.toDigits 10 n := by
  simp only [snoozeId, String.toList_append, toList_toString]
  simp

/-- The id of a snooze determines its parent and its number. -/
theorem snoozeId_inj {p p' : String} {n n' : Nat} (h : snoozeId p n = snoozeId p' n') :
    p = p' ∧ n = n' := by
  have hl := congrArg String.toList h
  rw [snoozeId_toList, snoozeId_toList] at hl
  obtain ⟨hl, hn⟩ := append_cons_inj_of_last (not_mem_toDigits (by decide) n)
    (not_mem_toDigits (by decide) n') hl
  exact ⟨String.toList_inj.1 (List.append_cancel_left hl), Json.toDigits_inj hn⟩

theorem occurrenceId_ne_snoozeId (id : String) (r : Nat) (t : Instant) (parent : String) (n : Nat) :
    occurrenceId id r t ≠ snoozeId parent n := by
  intro h
  have hl := congrArg (fun s => s.toList.head?) h
  simp only [occurrenceId_toList, snoozeId_toList] at hl
  simp at hl

/-! ## What a transition adds -/

/-- The occurrences of a row as they were created. -/
def AppRow.births (row : AppRow) : Dict String Occurrence := row.occurrences.mapVals fun _ o => o.created

/-- The occurrence a transition from `row` to `row'` adds: the first slot of a new revision, the
slot after one that fired, or a snooze. -/
inductive Birth (b : Backend) (row row' : AppRow) : Occurrence → Prop
  | first {key : String} {a : Alarm} {slot : Slot} {now : Instant} (hid : a.alarmId = key)
      (ha : ∃ a', row'.alarms.get? key = some a' ∧ a'.settings = a.settings)
      (hrev : ∀ a₀, row.alarms.get? key = some a₀ → a₀.revision < a.revision)
      (hslot : b.nextCivil a.schedule now none = .ok (some slot)) :
      Birth b row row' (b.newOccurrence a slot (occurrenceId a.alarmId a.revision slot.due) none)
  | next {oid : String} {occ : Occurrence} {a : Alarm} {slot : Slot} (ho : row.Scheduled oid occ)
      (hfired : ∀ o', ¬ row'.Scheduled oid o') (hp : occ.parentOccurrenceId = none) (ha : row.alarms.get? occ.alarmId = some a)
      (hrev : a.revision = occ.revision)
      (hslot : b.nextSlot a.schedule ⟨occ.dueAtUtc, occ.civilDate⟩ = .ok (some slot)) :
      Birth b row row' (b.newOccurrence a slot (occurrenceId a.alarmId a.revision slot.due) none)
  | snooze {parent key : String} {a : Alarm} {slot : Slot} (ha : row.alarms.get? key = some a)
      (hcount : row'.snoozeCount parent = row.snoozeCount parent + 1) :
      Birth b row row'
        (b.newOccurrence a slot (snoozeId parent (1 + row.snoozeCount parent)) (some parent))

section

variable {b : Backend} {app : String} {row row' : AppRow}

/-- What an occurrence was created with. -/
theorem created_eq {o o' : Occurrence} (h : o.created = o'.created) :
    o.alarmId = o'.alarmId ∧ o.revision = o'.revision ∧ o.dueAtUtc = o'.dueAtUtc ∧
      o.civilDate = o'.civilDate ∧ o.parentOccurrenceId = o'.parentOccurrenceId := by
  simp only [Occurrence.created, Occurrence.mk.injEq] at h
  exact ⟨h.2.1, h.2.2.1, h.2.2.2.1, h.2.2.2.2.1, h.2.2.2.2.2.2.2.2.2⟩

theorem get?_births {oid : String} : row.births.get? oid = (row.occurrences.get? oid).map Occurrence.created :=
  Dict.get?_mapVals _ _ _

theorem births_of_eq (h : row'.occurrences = row.occurrences) : row'.births = row.births := by
  rw [AppRow.births, AppRow.births, h]

/-- A new state of an occurrence leaves its birth alone. -/
theorem births_of_set {oid : String} {o₀ o : Occurrence} (h₀ : row.occurrences.get? oid = some o₀)
    (hc : o.created = o₀.created) (h : row'.occurrences = row.occurrences.set oid o) :
    row'.births = row.births := by
  rw [AppRow.births, AppRow.births, h, Dict.mapVals_set, hc]
  exact Dict.set_eq_self (by rw [Dict.get?_mapVals, h₀]; rfl)

theorem births_of_new {oid : String} {o : Occurrence} (hc : o.created = o)
    (h : row'.occurrences = row.occurrences.set oid o) : row'.births = row.births.set oid o := by
  rw [AppRow.births, AppRow.births, h, Dict.mapVals_set, hc]

theorem births_cancelScheduled (id : String) : (row.cancelScheduled id).births = row.births := by
  unfold AppRow.births AppRow.cancelScheduled
  rw [Dict.mapVals_mapVals]
  congr 1
  funext _ o
  split <;> rfl

theorem births_superseded (id : String) : (row.superseded id).births = row.births := by
  unfold AppRow.superseded
  split
  · exact births_cancelScheduled id
  · rfl

/-- The row keeps its occurrences as they were created, and adds at most one. -/
def Bears (b : Backend) (row row' : AppRow) : Prop :=
  row'.births = row.births ∨ ∃ o, row.occurrences.get? o.occurrence = none ∧
    row'.births = row.births.set o.occurrence o ∧ Birth b row row' o

/-- **Births.** What a transition adds to the occurrences of a row. -/
theorem RowStep.bears {act : Act} (hs : RowStep b app act row row') (hk : row.Keyed) :
    Bears b row row' := by
  cases hs with
  | context => exact .inl rfl
  | health => exact .inl rfl
  | disable => exact .inl (births_cancelScheduled _)
  | @install _ id schedule notification c slot now _ _ hslot hnew =>
    let a := newAlarm row id schedule notification (row.nextRevision id) c
    have hlater : ∀ a₀, row.alarms.get? id = some a₀ → a₀.revision < a.revision := fun a₀ ha₀ => by
      show a₀.revision < row.nextRevision id
      rw [AppRow.nextRevision, ha₀]
      exact Nat.lt_succ_self _
    refine .inr ⟨_, hnew, ?_, .first (a := a) rfl ⟨_, Dict.get?_set_self _ _ _, rfl⟩ hlater hslot⟩
    exact (births_of_new rfl rfl).trans (by rw [births_superseded]; rfl)
  | @enable _ key a slot now _ ha hdis hslot hnew =>
    have hid := hk.alarms ha
    let a' : Alarm := { a with revision := a.revision + 1, enabled := true }
    have hlater : ∀ a₀, row.alarms.get? key = some a₀ → a₀.revision < a'.revision := fun a₀ ha₀ => by
      rw [Option.some.inj (ha₀.symm.trans ha)]
      exact Nat.lt_succ_self _
    exact .inr ⟨_, hnew, births_of_new rfl rfl,
      .first (a := a') hid ⟨_, Dict.get?_set_self _ _ _, rfl⟩ hlater hslot⟩
  | @snooze _ parentId actionId received due duration parent a _ hact _ _ ha _ _ _ _ hnew =>
    refine .inr ⟨_, hnew, births_of_new rfl rfl, .snooze ha ?_⟩
    unfold AppRow.snoozeCount Backend.snoozed
    simp only [Dict.values_set_of_new hact, List.countP_append, List.countP_singleton]
    simp
  | receipt => exact .inl rfl
  | dedup => exact .inl rfl
  | @cancelSlot _ oid occ a ho =>
    refine .inl (births_of_set (o := { occ with state := .cancelled }) ho rfl ?_)
    unfold AppRow.cancelSlot
    dsimp only
    split <;> rfl
  | @fireSlot _ _ oid occ a x ho hsched _ ha hr hf =>
    have hfired : ∀ adapterId, (row.fired x oid occ a adapterId).births = row.births := fun _ =>
      births_of_set (o := occ.fired x row oid a) ho rfl rfl
    obtain ⟨adapterId, ⟨-, rfl⟩ | ⟨-, -, rfl⟩ | ⟨hp, -, slot, hslot, hnew, rfl⟩⟩ := fireSlot_eq_ok hf
    · exact .inl (hfired adapterId)
    · exact .inl (hfired adapterId)
    · have hrev : a.revision = occ.revision := by
        simp only [revoked, Bool.or_eq_false_iff, decide_eq_false_iff_not, ne_eq, not_not] at hr
        exact hr.2
      have hnone : row.occurrences.get? (occurrenceId a.alarmId a.revision slot.due) = none := by
        have hb : (row.fired x oid occ a adapterId).births.get?
            (occurrenceId a.alarmId a.revision slot.due) = none := by rw [get?_births, hnew]; rfl
        rw [hfired, get?_births] at hb
        exact Option.map_eq_none_iff.1 hb
      refine .inr ⟨_, hnone, ?_, .next ⟨ho, hsched⟩ (fun o' ho' => ?_) hp ha hrev hslot⟩
      · rw [← hfired adapterId]
        exact births_of_new rfl rfl
      · have hne : oid ≠ occurrenceId a.alarmId a.revision slot.due := fun he => by
          rw [← he, ho] at hnone
          cases hnone
        obtain ⟨hget, hstate⟩ := ho'
        have hget := (Dict.get?_set_ne _ hne _).symm.trans hget
        exact ((scheduled_fired_iff adapterId oid o').1 ⟨hget, hstate⟩).1 rfl
  | @effect _ key act e e' occ s he ho hstep =>
    cases s with
    | none => exact .inl rfl
    | some s =>
      have hocc : row.occurrences.get? e'.occurrenceId = some occ := by rw [hstep.ids.2, ho]
      exact .inl (births_of_set (o := { occ with state := s }) hocc rfl rfl)
  | recoverEffect => exact .inl rfl
  | event => exact .inl rfl
  | @acked _ key act e e' occ he ho hstep =>
    have hocc : row.occurrences.get? e'.occurrenceId = some occ := by rw [hstep.ids.2, ho]
    by_cases hg : occ.state = .guestPending
    · refine .inl (births_of_set (o := { occ with state := .guestAcked }) hocc rfl ?_)
      simp [AppRow.putAcked, hg]
    · refine .inl (births_of_eq ?_)
      simp [AppRow.putAcked, hg]

/-! ## The invariant -/

/-- Every occurrence has the id of what it is, and an alarm whose revision has not gone back. -/
structure AppRow.Registered (row : AppRow) : Prop where
  regular : row.births.All fun oid o => o.parentOccurrenceId = none →
    oid = occurrenceId o.alarmId o.revision o.dueAtUtc
  snoozed : row.births.All fun oid o => ∀ p, o.parentOccurrenceId = some p →
    ∃ n ≤ row.snoozeCount p, oid = snoozeId p n
  known : row.births.All fun _ o => ∃ a, row.alarms.get? o.alarmId = some a ∧ o.revision ≤ a.revision

theorem registered_new (c : Context) : (AppRow.new c).Registered :=
  ⟨Dict.all_empty, Dict.all_empty, Dict.all_empty⟩

/-- Actions are never dropped, and keep their parents. -/
theorem RowStep.snoozeCount_le {act : Act} (hs : RowStep b app act row row') (p : String) :
    row.snoozeCount p ≤ row'.snoozeCount p := by
  cases hs with
  | install =>
    refine Nat.le_of_eq ?_
    unfold AppRow.snoozeCount Backend.armed AppRow.superseded
    split <;> rfl
  | snooze _ hact =>
    unfold AppRow.snoozeCount Backend.snoozed
    simp only [Dict.values_set_of_new hact, List.countP_append]
    exact Nat.le_add_right _ _
  | @dedup _ key x hx =>
    obtain ⟨l₁, l₂, hl, hset⟩ := Dict.entries_set_of_mem hx
    unfold AppRow.snoozeCount
    simp [Dict.values, hset { x with deduplicated := true }, hl, List.countP_append,
      List.countP_cons]
  | cancelSlot =>
    refine Nat.le_of_eq ?_
    unfold AppRow.snoozeCount AppRow.cancelSlot
    dsimp only
    split <;> rfl
  | fireSlot _ _ _ _ _ hf =>
    obtain ⟨adapterId, ⟨-, rfl⟩ | ⟨-, -, rfl⟩ | ⟨-, -, slot, -, -, rfl⟩⟩ := fireSlot_eq_ok hf <;>
      exact Nat.le_refl _
  | _ => exact Nat.le_refl _

/-- Every transition keeps the occurrences registered. -/
theorem RowStep.registered {act : Act} (hs : RowStep b app act row row') (hk : row.Keyed)
    (hm : row.Matched) (h : row.Registered) : row'.Registered := by
  have hknown : ∀ {key : String} {r : Nat},
      (∃ a, row.alarms.get? key = some a ∧ r ≤ a.revision) →
        ∃ a, row'.alarms.get? key = some a ∧ r ≤ a.revision := by
    rintro key r ⟨a, ha, hr⟩
    obtain ⟨a', ha', hle⟩ := (hs.grows hm).alarms ha
    exact ⟨a', ha', hr.trans hle.revision⟩
  have hcount := hs.snoozeCount_le
  have hsnoozed : row.births.All fun oid o => ∀ p, o.parentOccurrenceId = some p →
      ∃ n ≤ row'.snoozeCount p, oid = snoozeId p n := h.snoozed.mono fun oid o ho p hp => by
    obtain ⟨n, hn, hoid⟩ := ho p hp
    exact ⟨n, hn.trans (hcount p), hoid⟩
  have hknown' := h.known.mono fun _ o => @hknown o.alarmId o.revision
  rcases hs.bears hk with heq | ⟨o, hnew, heq, hbirth⟩
  · constructor <;> rw [heq]
    · exact h.regular
    · exact hsnoozed
    · exact hknown'
  · cases hbirth with
    | @first key a slot now hid ha hrev hslot =>
      obtain ⟨a', ha', hset⟩ := ha
      refine ⟨?_, ?_, ?_⟩ <;> rw [heq]
      · exact h.regular.set fun _ => rfl
      · exact hsnoozed.set fun p hp => absurd hp (by simp [Backend.newOccurrence])
      · refine hknown'.set ⟨a', ?_, (revision_of_settings hset).ge⟩
        show row'.alarms.get? a.alarmId = some a'
        rw [hid, ha']
    | @next oid occ a slot ho _ hp ha hrev hslot =>
      refine ⟨?_, ?_, ?_⟩ <;> rw [heq]
      · exact h.regular.set fun _ => rfl
      · exact hsnoozed.set fun p hp => absurd hp (by simp [Backend.newOccurrence])
      · refine hknown'.set (hknown ⟨a, ?_, Nat.le_refl _⟩)
        show row.alarms.get? a.alarmId = some a
        rw [hk.alarms ha, ha]
    | @snooze parent key a slot ha hcount' =>
      refine ⟨?_, ?_, ?_⟩ <;> rw [heq]
      · exact h.regular.set fun hp => absurd hp (by simp [Backend.newOccurrence])
      · refine hsnoozed.set fun p hp => ?_
        cases hp
        exact ⟨_, by rw [hcount', Nat.add_comm], rfl⟩
      · refine hknown'.set (hknown ⟨a, ?_, Nat.le_refl _⟩)
        show row.alarms.get? a.alarmId = some a
        rw [hk.alarms ha, ha]

/-! ## The slots of a revision -/

/-- The occurrence's slot, if it is a regular one of this alarm and revision. -/
def Occurrence.slotOf (key : String) (r : Nat) (o : Occurrence) : Option Slot :=
  if o.parentOccurrenceId = none ∧ o.alarmId = key ∧ o.revision = r then
    some ⟨o.dueAtUtc, o.civilDate⟩
  else none

/-- The regular slots of an alarm's revision, in the order they were created. -/
def AppRow.slots (row : AppRow) (key : String) (r : Nat) : List Slot :=
  row.births.values.filterMap (Occurrence.slotOf key r)

theorem slots_congr (h : row'.births = row.births) (key : String) (r : Nat) :
    row'.slots key r = row.slots key r := by
  rw [AppRow.slots, AppRow.slots, h]

theorem slots_of_new {o : Occurrence} (hnew : row.occurrences.get? o.occurrence = none)
    (h : row'.births = row.births.set o.occurrence o) (key : String) (r : Nat) :
    row'.slots key r = row.slots key r ++ (o.slotOf key r).toList := by
  have hnone : row.births.get? o.occurrence = none := by rw [get?_births, hnew]; rfl
  rw [AppRow.slots, AppRow.slots, h, Dict.values_set_of_new hnone, List.filterMap_append]
  cases hs : o.slotOf key r <;> simp [hs]

theorem mem_slots_iff {key : String} {r : Nat} {s : Slot} :
    s ∈ row.slots key r ↔ ∃ oid o, row.births.get? oid = some o ∧ o.slotOf key r = some s := by
  simp only [AppRow.slots, List.mem_filterMap, Dict.mem_values_iff]
  constructor
  · rintro ⟨o, ⟨oid, ho⟩, hs⟩
    exact ⟨oid, o, ho, hs⟩
  · rintro ⟨oid, o, ho, hs⟩
    exact ⟨o, ⟨oid, ho⟩, hs⟩

theorem slotOf_eq_some {key : String} {r : Nat} {o : Occurrence} {s : Slot}
    (h : o.slotOf key r = some s) :
    o.parentOccurrenceId = none ∧ o.alarmId = key ∧ o.revision = r ∧
      s = ⟨o.dueAtUtc, o.civilDate⟩ := by
  unfold Occurrence.slotOf at h
  split at h
  · rename_i hc
    exact ⟨hc.1, hc.2.1, hc.2.2, (Option.some.inj h).symm⟩
  · cases h

/-- A revision the alarm has not reached has no slots. -/
theorem AppRow.Registered.slots_eq_nil (h : row.Registered) {key : String} {r : Nat}
    (hr : ∀ a, row.alarms.get? key = some a → a.revision < r) : row.slots key r = [] := by
  refine List.eq_nil_iff_forall_not_mem.2 fun s hs => ?_
  obtain ⟨oid, o, ho, hs⟩ := mem_slots_iff.1 hs
  obtain ⟨-, rfl, rfl, -⟩ := slotOf_eq_some hs
  obtain ⟨a, ha, hle⟩ := h.known ho
  exact absurd hle (Nat.not_le.2 (hr a ha))

/-- The slots of a revision are in order of their due instants, and a scheduled one is the
last. -/
structure AppRow.Chained (row : AppRow) : Prop where
  sorted : ∀ key r, (row.slots key r).Pairwise fun s t => s.due < t.due
  last : ∀ oid o, row.Scheduled oid o → o.parentOccurrenceId = none →
    (row.slots o.alarmId o.revision).getLast? = some ⟨o.dueAtUtc, o.civilDate⟩

theorem chained_new (c : Context) : (AppRow.new c).Chained :=
  ⟨fun _ _ => .nil, fun _ _ h => absurd h.1 (by simp [AppRow.new])⟩

/-- A revision's slots stay, or get one more: the first of a new revision, or the one after the
last under the current schedule. -/
def SlotsStep (b : Backend) (row row' : AppRow) (key : String) (r : Nat) : Prop :=
  row'.slots key r = row.slots key r ∨
    ∃ slot, row'.slots key r = row.slots key r ++ [slot] ∧
      ((∀ a, row.alarms.get? key = some a → a.revision < r) ∨
        ∃ a p, row.alarms.get? key = some a ∧ a.revision = r ∧
          (row.slots key r).getLast? = some p ∧ p.due < slot.due ∧
          b.nextSlot a.schedule p = .ok (some slot))

/-- **Slots.** What a transition adds to the slots of a revision. -/
theorem RowStep.slots {act : Act} (hs : RowStep b app act row row') (hk : row.Keyed)
    (h : row.Chained) (key : String) (r : Nat) : SlotsStep b row row' key r := by
  rcases hs.bears hk with heq | ⟨o, hnew, heq, hbirth⟩
  · exact .inl (slots_congr heq key r)
  · have hslots := slots_of_new hnew heq key r
    cases hslot : o.slotOf key r with
    | none => exact .inl (by rw [hslots, hslot]; simp)
    | some s =>
      rw [hslot] at hslots
      obtain ⟨hparent, hkey, hrev, hs⟩ := slotOf_eq_some hslot
      refine .inr ⟨s, hslots, ?_⟩
      cases hbirth with
      | @first key' a slot now hid ha hless hslot =>
        have hkey : a.alarmId = key := hkey
        have hrev : a.revision = r := hrev
        exact .inl fun a₀ ha₀ => hrev ▸ hless a₀ (by rw [← hid, hkey, ha₀])
      | @next oid occ a slot ho _ hp ha hcur hnext =>
        have hkey : a.alarmId = key := hkey
        have hrev : a.revision = r := hrev
        have halarm : occ.alarmId = key := (hk.alarms ha).symm.trans hkey
        have hlast := h.last oid occ ho hp
        rw [halarm, ← hcur, hrev] at hlast
        have hs : s = slot := hs
        exact .inr ⟨a, _, halarm ▸ ha, hrev, hlast, hs ▸ nextCivil_later hnext, hs ▸ hnext⟩
      | snooze => exact absurd hparent (by simp [Backend.newOccurrence])

theorem SlotsStep.sorted {key : String} {r : Nat} (h : SlotsStep b row row' key r)
    (hreg : row.Registered) (hs : (row.slots key r).Pairwise fun s t => s.due < t.due) :
    (row'.slots key r).Pairwise fun s t => s.due < t.due := by
  rcases h with heq | ⟨slot, heq, hnone | ⟨a, p, -, -, hlast, hlt, -⟩⟩
  · rwa [heq]
  · rw [heq, hreg.slots_eq_nil hnone]
    exact List.pairwise_singleton _ _
  · obtain ⟨init, hinit⟩ := List.getLast?_eq_some_iff.1 hlast
    rw [heq]
    refine List.pairwise_append.2 ⟨hs, List.pairwise_singleton _ _, fun s hmem t ht => ?_⟩
    cases List.mem_singleton.1 ht
    rw [hinit] at hmem hs
    rcases List.mem_append.1 hmem with hmem | hmem
    · exact ((List.pairwise_append.1 hs).2.2 s hmem p (List.mem_singleton_self p)).trans hlt
    · cases List.mem_singleton.1 hmem
      exact hlt

/-- Every transition keeps the slots of every revision in order. -/
theorem RowStep.chained {act : Act} (hs : RowStep b app act row row') (hk : row.Keyed)
    (hm : row.Matched) (hcur : row.Current) (hreg : row.Registered) (h : row.Chained) :
    row'.Chained := by
  refine ⟨fun key r => (hs.slots hk h key r).sorted hreg (h.sorted key r), fun oid o' ho' hp => ?_⟩
  -- a scheduled slot that was there before was scheduled
  have hold : ∀ o, row.occurrences.get? oid = some o → row.Scheduled oid o := by
    intro o ho
    refine ⟨ho, ?_⟩
    by_contra hne
    obtain ⟨o₁, ho₁, hle⟩ := (hs.grows hm).occurrences ho
    rw [Option.some.inj (ho'.1.symm.trans ho₁)] at ho'
    exact hle.left hne ho'.2
  have hlast : ∀ o, row.Scheduled oid o → o.created = o'.created →
      (row.slots o'.alarmId o'.revision).getLast? = some ⟨o'.dueAtUtc, o'.civilDate⟩ := by
    intro o ho hc
    obtain ⟨hkey, hrev, hdue, hdate, hparent⟩ := created_eq hc
    have hl := h.last oid o ho (hparent.trans hp)
    rwa [hkey, hrev, hdue, hdate] at hl
  have hbirth' : row'.births.get? oid = some o'.created := by rw [get?_births, ho'.1]; rfl
  rcases hs.bears hk with heq | ⟨o₁, hnew, heq, hb⟩
  · rw [slots_congr heq]
    rw [heq, get?_births] at hbirth'
    obtain ⟨o, ho, hc⟩ := Option.map_eq_some_iff.1 hbirth'
    exact hlast o (hold o ho) hc
  · rw [slots_of_new hnew heq]
    rw [heq, Dict.get?_set] at hbirth'
    split at hbirth'
    · -- the new occurrence itself
      have hc : o₁ = o'.created := Option.some.inj hbirth'
      have hslot : o₁.slotOf o'.alarmId o'.revision = some ⟨o'.dueAtUtc, o'.civilDate⟩ := by
        rw [hc]
        exact if_pos ⟨hp, rfl, rfl⟩
      rw [hslot]
      simp
    · rw [get?_births] at hbirth'
      obtain ⟨o, ho, hc⟩ := Option.map_eq_some_iff.1 hbirth'
      have hsched := hold o ho
      obtain ⟨hkey, hrev, -, -, hparent⟩ := created_eq hc
      suffices hnone : o₁.slotOf o'.alarmId o'.revision = none by
        rw [hnone, Option.toList_none, List.append_nil]
        exact hlast o hsched hc
      by_contra hne
      obtain ⟨s, hs⟩ := Option.ne_none_iff_exists'.1 hne
      obtain ⟨hparent₁, hkey₁, hrev₁, -⟩ := slotOf_eq_some hs
      cases hb with
      | @first key a slot now hid ha hless =>
        have hkey₁ : a.alarmId = o'.alarmId := hkey₁
        have hrev₁ : a.revision = o'.revision := hrev₁
        obtain ⟨a₀, ha₀, -, hcur₀⟩ := hcur.owned oid o hsched
        have hlt := hless a₀ (by rw [← hid, hkey₁, ← hkey, ha₀])
        omega
      | @next oid₁ occ a slot hocc hfired hp₁ ha hcur₁ =>
        -- two scheduled regular slots of one alarm are the same, and that one has fired
        have hkey₁ : a.alarmId = o'.alarmId := hkey₁
        have halarm := (hk.alarms ha).symm.trans hkey₁
        have h₁ := (hcur.next _ a ha oid₁).2 (hocc.pending hp₁)
        have h₂ := (hcur.next _ a ha oid).2 (by
          rw [halarm, ← hkey]
          exact hsched.pending (hparent.trans hp))
        rw [Option.some.inj (h₁.symm.trans h₂)] at hfired
        exact hfired o' ho'
      | snooze => exact absurd hparent₁ (by simp [Backend.newOccurrence])

/-! ## Sound rows -/

/-- Everything that holds of every row of every reachable ledger. -/
structure AppRow.Sound (row : AppRow) : Prop where
  keyed : row.Keyed
  matched : row.Matched
  current : row.Current
  registered : row.Registered
  chained : row.Chained

theorem sound_new (c : Context) : (AppRow.new c).Sound :=
  ⟨keyed_new c, matched_new c, current_new c, registered_new c, chained_new c⟩

theorem RowStep.sound {act : Act} (hs : RowStep b app act row row') (h : row.Sound) : row'.Sound where
  keyed := hs.keyed h.keyed
  matched := hs.matched h.matched
  current := hs.current h.keyed h.matched h.current
  registered := hs.registered h.keyed h.matched h.registered
  chained := hs.chained h.keyed h.matched h.current h.registered h.chained

/-- Every row of the ledger is sound. -/
def Ledger.Sound (l : Ledger) : Prop := l.apps.All fun _ row => row.Sound

theorem Ledger.Sound.keyed {l : Ledger} (h : l.Sound) : l.Keyed := h.mono fun _ _ h => h.keyed

theorem Reachable.sound {l : Ledger} (h : Reachable l) : l.Sound :=
  h.row_invariant (P := fun _ row => row.Sound) (fun _ => sound_new) fun hs _ h => hs.sound h

/-- One pass of the loop of `advance_due` keeps every row sound. -/
theorem sound_takeUp {x : Advance} {k : DueKey} {l m : Ledger} (h : l.Sound)
    (hk : (b.agenda x).next l = some k) (hm : (b.agenda x).run k l = .ok m) : m.Sound := by
  obtain ⟨row, row', hrow, hstep, rfl⟩ := takeUp_rowStep hk hm
  exact h.set (hstep.sound (h hrow))

/-! ## Fresh ids -/

/-- A revision the alarm has not reached has no occurrence yet. -/
theorem AppRow.Registered.fresh (h : row.Registered) {id : String} {r : Nat}
    (hr : ∀ a, row.alarms.get? id = some a → a.revision < r) (t : Instant) :
    row.occurrences.get? (occurrenceId id r t) = none := by
  by_contra hne
  obtain ⟨o, ho⟩ := Option.ne_none_iff_exists'.1 hne
  have hb : row.births.get? (occurrenceId id r t) = some o.created := by rw [get?_births, ho]; rfl
  cases hp : o.parentOccurrenceId with
  | none =>
    obtain ⟨hid, hrev, -⟩ := occurrenceId_inj (h.regular hb hp)
    obtain ⟨a, ha, hle⟩ := h.known hb
    rw [← hid] at ha
    have hlt := hr a ha
    have hrev : r = o.revision := hrev
    have hle : o.revision ≤ a.revision := hle
    omega
  | some p =>
    obtain ⟨n, -, hid⟩ := h.snoozed hb p hp
    exact occurrenceId_ne_snoozeId _ _ _ _ _ hid

/-- The slot after the last one of a revision has no occurrence yet. -/
theorem AppRow.Sound.fresh_next (h : row.Sound) {oid : String} {occ : Occurrence} {a : Alarm}
    {t : Instant} (ho : row.Scheduled oid occ) (hp : occ.parentOccurrenceId = none)
    (ha : row.alarms.get? occ.alarmId = some a) (hrev : a.revision = occ.revision)
    (hlt : occ.dueAtUtc < t) : row.occurrences.get? (occurrenceId a.alarmId a.revision t) = none := by
  by_contra hne
  obtain ⟨o, ho'⟩ := Option.ne_none_iff_exists'.1 hne
  have hb : row.births.get? (occurrenceId a.alarmId a.revision t) = some o.created := by
    rw [get?_births, ho']
    rfl
  cases hp' : o.parentOccurrenceId with
  | some p =>
    obtain ⟨n, -, hid⟩ := h.registered.snoozed hb p hp'
    exact occurrenceId_ne_snoozeId _ _ _ _ _ hid
  | none =>
    obtain ⟨hid, hr, ht⟩ := occurrenceId_inj (h.registered.regular hb hp')
    have hid : a.alarmId = o.alarmId := hid
    have hr : a.revision = o.revision := hr
    have ht : t = o.dueAtUtc := ht
    have hmem : (⟨o.dueAtUtc, o.civilDate⟩ : Slot) ∈ row.slots occ.alarmId occ.revision :=
      mem_slots_iff.2 ⟨_, _, hb, if_pos ⟨hp', hid.symm.trans (h.keyed.alarms ha), hr.symm.trans hrev⟩⟩
    obtain ⟨init, hinit⟩ := List.getLast?_eq_some_iff.1 (h.chained.last oid occ ho hp)
    have hsorted := h.chained.sorted occ.alarmId occ.revision
    rw [hinit] at hmem hsorted
    rcases List.mem_append.1 hmem with hmem | hmem
    · have := (List.pairwise_append.1 hsorted).2.2 _ hmem _ (List.mem_singleton_self _)
      exact absurd (ht ▸ hlt) this.not_gt
    · have heq : o.dueAtUtc = occ.dueAtUtc := congrArg Slot.due (List.mem_singleton.1 hmem)
      rw [ht, heq] at hlt
      exact absurd hlt (lt_irrefl _)

/-- The next snooze of an occurrence has no occurrence yet. -/
theorem AppRow.Registered.fresh_snooze (h : row.Registered) (p : String) :
    row.occurrences.get? (snoozeId p (1 + row.snoozeCount p)) = none := by
  by_contra hne
  obtain ⟨o, ho⟩ := Option.ne_none_iff_exists'.1 hne
  have hb : row.births.get? (snoozeId p (1 + row.snoozeCount p)) = some o.created := by
    rw [get?_births, ho]
    rfl
  cases hp : o.parentOccurrenceId with
  | none => exact occurrenceId_ne_snoozeId _ _ _ _ _ (h.regular hb hp).symm
  | some p' =>
    obtain ⟨n, hn, hid⟩ := h.snoozed hb p' hp
    obtain ⟨rfl, rfl⟩ := snoozeId_inj hid
    omega

end

end Vibapp.Scheduler
