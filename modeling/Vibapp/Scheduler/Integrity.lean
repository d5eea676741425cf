import Vibapp.Scheduler.Recurrence

/-!
# No occurrence is materialised twice

`_materialize` refuses an id that exists. In a sound row the id it is asked for never does
(`AppRow.Sound`), so no operation raises that refusal, and no receipt and no reply ever carries
it (`Reachable.intact`).
-/

namespace Vibapp.Scheduler

/-- The computation does not raise the refusal of `_materialize`. -/
abbrev Intact {α : Type} (x : Py α) : Prop := Raises (· ≠ .scheduler rematerialize) x

section

variable {α : Type}

theorem intact_error {c m : String} (h : c ≠ rematerialize.code) : Intact (error c m : Py α) :=
  raises_error fun he => h (congrArg SchedulerError.code (Raised.scheduler.inj he))

theorem intact_invalid (m : String) : Intact (error "invalid-argument" m : Py α) :=
  intact_error (by simp [rematerialize])

theorem intact_conflict (m : String) : Intact (error "conflict" m : Py α) := intact_error (by simp [rematerialize])

theorem intact_limit (m : String) : Intact (error "resource-limit" m : Py α) :=
  intact_error (by simp [rematerialize])

theorem intact_lookup : Intact (.error .lookupError : Py α) := raises_error (by simp)

theorem intact_item (x : Option α) : Intact (item x) := by
  cases x with
  | none => exact intact_lookup
  | some a => exact raises_ok a

theorem intact_overflow (x : Option α) : Intact (overflow x) := by
  cases x with
  | none => exact raises_error (by simp)
  | some a => exact raises_ok a

theorem intact_representable (x : Option α) : Intact (representable x) := by
  cases x with
  | none => exact intact_limit _
  | some a => exact raises_ok a

end

/-! ## Arguments -/

theorem intact_object (v : Json) (fields : List String) : Intact (object v fields) := by
  unfold object
  repeat' split
  · exact raises_ok _
  · exact intact_invalid _
  · exact intact_invalid _

theorem intact_checkText (s name : String) (limit : Nat) : Intact (checkText s name limit) := by
  unfold checkText
  split
  · exact raises_ok _
  · exact intact_invalid _

theorem intact_text (v : Json) (name : String) (limit : Nat) : Intact (text v name limit) := by
  unfold text
  split
  · exact intact_checkText _ _ _
  · exact intact_invalid _

theorem intact_integer (v : Json) (low high : Int) : Intact (integer v low high) := by
  unfold integer
  repeat' split
  · exact raises_ok _
  · exact intact_invalid _
  · exact intact_invalid _

theorem intact_parseUtc (s : String) : Intact (parseUtc s) := by
  unfold parseUtc
  repeat' split
  · exact intact_invalid _
  · exact raises_ok _
  · exact intact_invalid _

theorem intact_parseUtcJson (v : Json) : Intact (parseUtcJson v) := by
  unfold parseUtcJson
  split
  · exact intact_parseUtc _
  · exact intact_invalid _

theorem intact_date (v : Json) : Intact (date v) := by
  refine (intact_object _ _).bind fun ms _ => (intact_integer _ _ _).bind fun y _ =>
    (intact_integer _ _ _).bind fun m _ => (intact_integer _ _ _).bind fun d _ => ?_
  split
  · exact raises_pure _
  · exact intact_invalid _

theorem intact_time (v : Json) : Intact (time v) :=
  (intact_object _ _).bind fun _ _ => (intact_integer _ _ _).bind fun _ _ =>
    (intact_integer _ _ _).bind fun _ _ => (intact_integer _ _ _).bind fun _ _ => intact_item _

/-! ## Schedules -/

section

variable (b : Backend)

theorem intact_zoneNamed (name : String) : Intact (b.zoneNamed name) := by
  refine (intact_checkText _ _ _).bind fun n _ => ?_
  split
  · exact raises_pure _
  · exact intact_invalid _

theorem intact_weekdayList (v : Json) : Intact (weekdayList v) := by
  unfold weekdayList
  repeat' split
  · exact raises_ok _
  all_goals exact intact_invalid _

theorem intact_recurrence (kind : Json) (t : Time) (start : Date) (zone : String) (ws : List Weekday) :
    Intact (recurrence kind t start zone ws) := by
  unfold recurrence
  repeat' split
  · exact raises_ok _
  · exact intact_invalid _
  · exact raises_ok _
  all_goals exact intact_invalid _

theorem intact_checkPolicies (ms : List (String × Json)) : Intact (checkPolicies ms) := by
  unfold checkPolicies
  split
  · exact raises_ok _
  · exact intact_invalid _

theorem intact_validateSchedule (v : Json) : Intact (b.validateSchedule v) := by
  refine (intact_object _ _).bind fun top _ => ?_
  split
  · exact (intact_object _ _).bind fun _ _ => (intact_object _ _).bind fun _ _ =>
      (intact_date _).bind fun _ _ => (intact_time _).bind fun _ _ =>
      (intact_text _ _ _).bind fun _ _ => (intact_zoneNamed b _).bind fun _ _ =>
      (intact_checkPolicies _).bind fun _ _ => raises_pure _
  · exact (intact_object _ _).bind fun _ _ => (intact_date _).bind fun _ _ =>
      (intact_time _).bind fun _ _ => (intact_text _ _ _).bind fun _ _ =>
      (intact_zoneNamed b _).bind fun _ _ => (intact_weekdayList _).bind fun _ _ =>
      (intact_recurrence _ _ _ _ _).bind fun _ _ =>
      (intact_checkPolicies _).bind fun _ _ => raises_pure _
  · exact intact_invalid _

theorem intact_resolveCivil (d : Date) (t : Time) (z : Zone) : Intact (resolveCivil d t z) := by
  unfold resolveCivil
  dsimp only
  cases z.toUtc (Instant.combine d t) false with
  | none => exact intact_invalid _
  | some v0 =>
    cases z.toUtc (Instant.combine d t) true with
    | none => exact intact_invalid _
    | some v1 =>
      dsimp only
      cases z.fromUtc v0 with
      | none => exact intact_invalid _
      | some r0 =>
        cases z.fromUtc v1 with
        | none => exact intact_invalid _
        | some r1 =>
          dsimp only
          split
          · exact raises_ok _
          · split
            · exact raises_ok _
            · exact intact_invalid _

theorem intact_slotOn (v : LocalRecurrence) (z : Zone) (after : Instant) (d : Date) :
    Intact (slotOn v z after d) := by
  unfold slotOn
  split
  · exact (intact_resolveCivil _ _ _).bind fun _ _ => raises_pure _
  · exact raises_pure _

theorem intact_searchSlot (v : LocalRecurrence) (z : Zone) (after : Instant) (n : Nat) :
    ∀ d, Intact (searchSlot v z after n d) := by
  induction n with
  | zero => exact fun _ => intact_invalid _
  | succ n ih =>
    intro d
    refine (intact_slotOn _ _ _ _).bind fun s _ => ?_
    cases s with
    | some s => exact raises_pure _
    | none => exact (intact_representable _).bind fun d' _ => ih d'

theorem intact_firstDay (z : Zone) (after : Instant) (d : Option Date) : Intact (firstDay z after d) := by
  cases d with
  | some d => exact intact_representable _
  | none => exact (intact_representable _).bind fun _ _ => raises_pure _

theorem intact_nextCivil (s : Schedule) (after : Instant) (d : Option Date) :
    Intact (b.nextCivil s after d) := by
  cases s with
  | oneShot =>
    exact (intact_zoneNamed b _).bind fun _ _ => (intact_resolveCivil _ _ _).bind fun _ _ =>
      raises_pure _
  | recurring =>
    exact (intact_zoneNamed b _).bind fun _ _ => (intact_firstDay _ _ _).bind fun _ _ =>
      (intact_searchSlot _ _ _ _ _).bind fun _ _ => raises_pure _

/-! ## Alarm transitions of a sound row -/

theorem intact_alarmNamed (row : AppRow) (id : String) : Intact (alarmNamed row id) := by
  refine (intact_checkText _ _ _).bind fun _ _ => ?_
  split
  · exact raises_pure _
  · exact intact_error (by simp [rematerialize])

theorem intact_alarmOf (row : AppRow) (id : Json) : Intact (alarmOf row id) :=
  (intact_text _ _ _).bind fun _ _ => intact_alarmNamed _ _

theorem intact_nextRevision (n : Nat) : Intact (nextRevision n) :=
  (intact_integer _ _ _).bind fun _ _ => raises_pure _

theorem intact_disable (row : AppRow) (a : Alarm) : Intact (disable row a) := by
  unfold disable
  split
  · exact raises_pure _
  · exact (intact_nextRevision _).bind fun _ _ => raises_pure _

theorem intact_expectedRevision (v : Json) : Intact (expectedRevision v) := by
  unfold expectedRevision
  split
  · exact raises_pure _
  · exact (intact_integer _ _ _).bind fun _ _ => raises_pure _

theorem intact_checkRevision (expected : Option Int) (actual : Nat) :
    Intact (checkRevision expected actual) := by
  unfold checkRevision
  repeat' split
  · exact intact_error (by simp [rematerialize])
  · exact raises_pure _
  · exact raises_pure _

theorem intact_validateProjection (v : Json) : Intact (validateProjection v) := by
  refine (intact_object _ _).bind fun _ _ => (intact_text _ _ _).bind fun _ _ => ?_
  repeat' split
  · exact raises_pure _
  all_goals exact intact_invalid _

theorem intact_notificationOf (p : Purpose) (v : Json) : Intact (notificationOf p v) := by
  unfold notificationOf
  split
  · exact (intact_validateProjection v).map
  · exact raises_pure _

/-- Materialising under an id that is not there. -/
theorem intact_materializeAs {row : AppRow} {oid : String} (h : row.occurrences.get? oid = none)
    (a : Alarm) (slot : Slot) (parent : Option String) :
    Intact (b.materializeAs row a slot oid parent) := by
  unfold Backend.materializeAs
  rw [if_neg (by simp [Dict.contains, h])]
  exact raises_ok _

variable {row : AppRow} (h : row.Sound)

include h

theorem intact_install (id : String) (schedule : Schedule) (notification : Option Projection)
    (c : Config) (slot : Slot) : Intact (b.install row id schedule notification c slot) := by
  refine Raises.bind ?_ fun n hn => ?_
  · unfold revisionAfter
    split <;> exact intact_nextRevision _
  · refine (intact_materializeAs b ?_ _ _ _).bind fun _ _ => raises_pure _
    rw [withoutPrevious_eq fun p hp => h.keyed.alarms hp, revisionAfter_eq_ok hn]
    refine get?_superseded_of_none (h.registered.fresh (fun a ha => ?_) _)
    have ha : row.alarms.get? id = some a := ha
    show a.revision < row.nextRevision id
    rw [AppRow.nextRevision, ha]
    exact Nat.lt_succ_self _

theorem intact_configure (request : Json) (now : Instant) (c : Config) :
    Intact (b.configure row request now c) := by
  refine (intact_object _ _).bind fun ms _ => (intact_text _ _ _).bind fun _ _ =>
    (intact_validateSchedule b _).bind fun _ _ => (intact_notificationOf _ _).bind fun _ _ =>
    (intact_expectedRevision _).bind fun _ _ => (intact_checkRevision _ _).bind fun _ _ => ?_
  split
  · exact intact_conflict _
  · refine (intact_nextCivil b _ _ _).bind fun slot _ => ?_
    cases slot with
    | none => exact intact_invalid _
    | some slot => exact intact_install b h _ _ _ _ _

theorem intact_toggle (request : Json) (now : Instant) (enable : Bool) :
    Intact (b.toggle row request now enable) := by
  refine (intact_object _ _).bind fun ms _ => (intact_alarmOf _ _).bind fun p hp =>
    (intact_expectedRevision _).bind fun _ _ => (intact_checkRevision _ _).bind fun _ _ =>
    Raises.bind ?_ fun _ _ => raises_pure _
  have ha := alarmOf_eq_ok hp
  unfold Backend.toggleAlarm
  repeat' split
  · exact intact_disable _ _
  · refine (intact_nextCivil b _ _ _).bind fun slot _ => ?_
    cases slot with
    | none => exact intact_conflict _
    | some slot =>
      refine (intact_nextRevision _).bind fun n hn =>
        (intact_materializeAs b ?_ _ _ _).bind fun _ _ => raises_pure _
      refine h.registered.fresh (fun a₀ ha₀ => ?_) _
      have hid : p.2.alarmId = p.1 := h.keyed.alarms ha
      have ha₀ : row.alarms.get? p.2.alarmId = some a₀ := ha₀
      rw [hid, ha] at ha₀
      cases ha₀
      show p.2.revision < n
      rw [nextRevision_eq_ok hn]
      exact Nat.lt_succ_self _
  · exact raises_pure _

theorem intact_snooze (request : Json) : Intact (b.snooze row request) := by
  refine (intact_object _ _).bind fun ms _ => (intact_text _ _ _).bind fun parentId _ =>
    (intact_text _ _ _).bind fun _ _ => (intact_parseUtcJson _).bind fun _ _ =>
    (intact_integer _ _ _).bind fun _ _ => ?_
  split
  · split
    · exact intact_conflict _
    · exact raises_pure _
  · unfold Backend.snoozeNew
    split
    · exact intact_conflict _
    · split
      · exact intact_conflict _
      · refine (intact_alarmNamed _ _).bind fun p _ => ?_
        simp only
        split
        · exact intact_conflict _
        · split
          · exact intact_invalid _
          · exact (intact_materializeAs b (h.registered.fresh_snooze parentId) _ _ _).bind
              fun _ _ => raises_pure _

theorem intact_applyAlarm (tag : String) (value : Json) (now : Instant) :
    Intact (b.applyAlarm tag value now row) := by
  unfold Backend.applyAlarm
  repeat' split
  · exact (intact_configure b h _ _ _).bind fun _ _ => raises_pure _
  · exact (intact_snooze b h _).bind fun _ _ => raises_pure _
  · exact (intact_toggle b h _ _ _).bind fun _ _ => raises_pure _

theorem intact_applyUpsert (id : String) (schedule notification : Json) (c : Config) (now : Instant) :
    Intact (b.applyUpsert id schedule notification c now row) :=
  (intact_configure b h _ _ _).bind fun _ _ => (intact_item _).bind fun _ _ => raises_pure _

theorem intact_applyToggle (id : String) (now : Instant) (enable : Bool) :
    Intact (b.applyToggle id now enable row) := by
  unfold Backend.applyToggle
  split
  · exact intact_error (by simp [rematerialize])
  · exact (intact_toggle b h _ _ _).bind fun _ _ => (intact_item _).bind fun _ _ => raises_pure _

end

/-! ## Transactions -/

theorem intact_encode (v : Json) : Intact (encode v) := by
  unfold encode
  split
  · exact intact_limit _
  · exact raises_ok _

theorem intact_checkLimits (l : Ledger) : Intact (checkLimits l) := by
  unfold checkLimits
  repeat' split
  · exact intact_limit _
  · exact intact_limit _
  · exact raises_ok _

theorem intact_edit {α : Type} {l : Ledger} {body : Ledger → Py (Ledger × α)} (h : Intact (body l)) :
    Intact (edit l body) :=
  ((intact_encode _).bind fun _ _ => raises_pure _).bind fun _ _ => h.bind fun _ _ =>
    (intact_checkLimits _).bind fun _ _ => (intact_encode _).bind fun _ _ => raises_pure _

theorem intact_digest (b : Backend) (v : Json) : Intact (b.digest v) :=
  (intact_encode v).bind fun _ _ => raises_pure _

theorem intact_app (l : Ledger) (app : String) : Intact (l.app app) := by
  refine (intact_checkText _ _ _).bind fun _ _ => ?_
  split
  · exact raises_pure _
  · exact intact_error (by simp [rematerialize])

theorem intact_authority (row : AppRow) (g : Option String) (mutation host : Bool) :
    Intact (authority row g mutation host) := by
  unfold authority
  repeat' split
  all_goals first
    | exact raises_ok _
    | exact intact_error (by simp [rematerialize])

/-! ## Due processing -/

section

variable {b : Backend} {x : Advance} {app : String} {row : AppRow} {l : Ledger}

theorem intact_deliver (oid : String) (occ : Occurrence) (a : Alarm) :
    Intact (b.deliver x app row oid occ a) := by
  unfold Backend.deliver
  dsimp only
  split
  · exact (intact_digest b _).bind fun _ _ => raises_pure _
  · exact raises_pure _

/-- What `_materialize` refuses is what the row held before the slot fired. -/
theorem deliver_occurrences {row' : AppRow} {oid : String} {occ : Occurrence} {a : Alarm}
    (ho : row.occurrences.get? oid = some occ) (h : b.deliver x app row oid occ a = .ok row')
    {id : String} (hid : row.occurrences.get? id = none) : row'.occurrences.get? id = none := by
  obtain ⟨adapterId, hfired⟩ := deliver_eq_ok h
  have hocc : row'.occurrences = row.occurrences.set oid (occ.fired x row oid a) :=
    congrArg AppRow.occurrences hfired
  rw [hocc, Dict.get?_set_ne, hid]
  rintro rfl
  rw [ho] at hid
  cases hid

theorem intact_takeSlot (h : row.Sound) (oid : String) {occ : Occurrence} (ho : row.Scheduled oid occ) :
    Intact (b.takeSlot x app oid row) := by
  refine (intact_item _).bind fun occ' hocc => (intact_item _).bind fun a ha => ?_
  cases (item_eq_ok.1 hocc).symm.trans ho.1
  replace ha := item_eq_ok.1 ha
  split
  · exact raises_pure _
  · rename_i hr
    simp only [revoked, Bool.or_eq_true, decide_eq_true_eq, not_or, ne_eq, not_not] at hr
    refine (intact_deliver _ _ _).bind fun row₁ hrow₁ => ?_
    split
    · rename_i hp
      unfold Backend.rearm
      dsimp only
      split
      · refine (intact_nextCivil b _ _ _).bind fun slot? _ => (intact_item _).bind fun slot hslot =>
          (intact_materializeAs b ?_ _ _ _).bind fun _ _ => raises_pure _
        rename_i hnext
        rw [item_eq_ok.1 hslot] at hnext
        have hfresh := h.fresh_next ho (by simpa using hp) ha hr.2 (nextCivil_later hnext)
        exact deliver_occurrences ho.1 hrow₁ hfresh
      · exact raises_pure _
    · exact raises_pure _

theorem intact_advanceDue (h : l.Sound) (nowUtc : String) (recovery : Bool) (limit : Int) :
    Intact (b.advanceDue l nowUtc recovery limit) := by
  refine (intact_parseUtc _).bind fun now _ => (intact_integer _ _ _).bind fun n _ =>
    intact_edit ?_
  refine (Agenda.batch_raises (P := Ledger.Sound) sound_takeUp (fun {l k} hl hk => ?_) h).bind
    fun _ _ => raises_pure _
  obtain ⟨row, occ, hrow, ho, hs, -, -⟩ := next_eq_some hk
  refine (intact_item _).bind fun row' hrow' => ?_
  cases (item_eq_ok.1 hrow').symm.trans hrow
  exact (intact_takeSlot (hl hrow) _ ⟨ho, hs⟩).bind fun _ _ => raises_pure _

end

/-! ## Mutating calls -/

/-- The response is not the refusal of `_materialize`. -/
def Response.Intact (r : Response) : Prop := r ≠ .error rematerialize

/-- No receipt of the row is the refusal of `_materialize`. -/
def AppRow.ReceiptsIntact (row : AppRow) : Prop := row.commands.All fun _ r => r.response.Intact

/-- On a sound row the callback of a mutation does not raise the refusal, and when it may run it
leaves the receipts alone. -/
def Mutation.Intact (m : Mutation) : Prop :=
  ∀ row : AppRow, row.Sound → Scheduler.Intact (m.callback row) ∧
    (authority row m.generation true m.hostAction = .ok () → ∀ {row' v},
      m.callback row = .ok (row', v) → row'.commands = row.commands)

theorem Response.Intact.markDeduplicated {r : Response} (h : r.Intact) : r.markDeduplicated.Intact := by
  cases r with
  | ok v =>
    unfold Response.markDeduplicated
    split
    · exact fun hc => by cases hc
    · exact h
  | error e => exact h

theorem response_error_intact {e : SchedulerError} (h : Raised.scheduler e ≠ .scheduler rematerialize) :
    (Response.error e).Intact := fun hc => h (congrArg _ (Response.error.inj hc))

section

variable {b : Backend} {row row' : AppRow}

theorem intact_markAction (operation : String) (payload : List (String × Json)) :
    Intact (b.markAction row operation payload) := by
  unfold Backend.markAction
  dsimp only
  repeat' split
  all_goals first
    | exact raises_ok _
    | exact intact_lookup

theorem intact_mutateRow {operation : String} {payload : List (String × Json)}
    {key fingerprint : String} {generation : Option String} {callback : AppRow → Py (AppRow × Value)}
    {hostAction : Bool} (hcb : Intact (callback row)) :
    Intact (b.mutateRow row operation payload key fingerprint generation callback hostAction) := by
  unfold Backend.mutateRow
  split
  · exact raises_ok _
  · rename_i r _ hr
    exact raises_error (intact_authority _ _ _ _ _ hr)
  · split
    · unfold Backend.replay
      split
      · exact raises_pure _
      · exact (intact_markAction _ _).bind fun _ _ => raises_pure _
    · unfold execute
      split
      · exact raises_pure _
      · exact raises_pure _
      · rename_i r _ hr
        exact raises_error (hcb _ hr)

/-- A mutating call answers with no refusal and records none. -/
theorem mutateRow_intact {operation : String} {payload : List (String × Json)}
    {key fingerprint : String} {generation : Option String} {callback : AppRow → Py (AppRow × Value)}
    {hostAction : Bool} {r : Response} (hrow : row.ReceiptsIntact) (hcb : Intact (callback row))
    (hcommands : authority row generation true hostAction = .ok () → ∀ {row' v},
      callback row = .ok (row', v) → row'.commands = row.commands)
    (h : b.mutateRow row operation payload key fingerprint generation callback hostAction =
      .ok (row', r)) : r.Intact ∧ row'.ReceiptsIntact := by
  unfold Backend.mutateRow at h
  split at h
  · rename_i e he
    have hr := response_error_intact (intact_authority _ _ _ _ _ he)
    cases h
    refine ⟨hr, ?_⟩
    split
    · exact hrow
    · exact hrow.set hr
  · cases h
  · rename_i hauth
    split at h
    · rename_i previous hprevious
      unfold Backend.replay at h
      split at h
      · cases pure_eq_ok.1 h
        exact ⟨fun hc => by simp [rematerialize] at hc, hrow⟩
      · obtain ⟨row₁, hm, h⟩ := bind_eq_ok.1 h
        cases pure_eq_ok.1 h
        refine ⟨(hrow hprevious).markDeduplicated, ?_⟩
        have hsame : row'.commands = row.commands := by
          unfold Backend.markAction at hm
          dsimp only at hm
          repeat' split at hm
          all_goals first
            | cases hm; rfl
            | cases hm
        rw [AppRow.ReceiptsIntact, hsame]
        exact hrow
    · unfold execute at h
      split at h
      · rename_i updated v hv
        cases pure_eq_ok.1 h
        have hr : (Response.ok v).Intact := fun hc => by cases hc
        refine ⟨hr, ?_⟩
        show (updated.commands.set _ _).All _
        rw [hcommands hauth hv]
        exact hrow.set hr
      · rename_i e he
        have hr := response_error_intact (hcb _ he)
        cases pure_eq_ok.1 h
        exact ⟨hr, hrow.set hr⟩
      · cases h

/-- Every receipt of the ledger is intact. -/
def Ledger.ReceiptsIntact (l : Ledger) : Prop := l.apps.All fun _ row => row.ReceiptsIntact

variable {l l' : Ledger} {m : Mutation}

theorem intact_mutatingCall (h : l.Sound) (hm : m.Intact) : Intact (b.mutatingCall l m) := by
  unfold Backend.mutatingCall
  split
  · refine (intact_text _ _ _).bind fun key _ => (intact_digest b _).bind fun fingerprint _ =>
      intact_edit ?_
    refine (intact_app _ _).bind fun row hrow => ?_
    exact (intact_mutateRow (hm row (h (app_eq_ok hrow))).1).bind fun _ _ => raises_pure _
  · exact intact_invalid _

theorem mutatingCall_intact {r : Response} (h : l.Sound) (hl : l.ReceiptsIntact) (hm : m.Intact)
    (hcall : b.mutatingCall l m = .ok (l', r)) : r.Intact ∧ l'.ReceiptsIntact := by
  obtain ⟨payload, key, fingerprint, row, row', -, -, -, hrow, hmut, rfl⟩ := mutatingCall_eq_ok hcall
  obtain ⟨hcb, hcommands⟩ := hm row (h hrow)
  obtain ⟨hr, hrow'⟩ := mutateRow_intact (hl hrow) hcb hcommands hmut
  exact ⟨hr, hl.set hrow'⟩

theorem intact_alarmMutation (app : String) (command key : Json) (nowUtc : String)
    (generation : Option String) (hostAction : Bool) :
    Intact (b.alarmMutation app command key nowUtc generation hostAction) := by
  refine (intact_object _ _).bind fun _ _ => (intact_parseUtc _).bind fun _ _ => ?_
  repeat' split
  · exact intact_error (by simp [rematerialize])
  · exact intact_invalid _
  · exact raises_pure _
  · exact intact_invalid _

theorem alarmMutation_intact {app : String} {command key : Json} {nowUtc : String}
    {generation : Option String} {hostAction : Bool}
    (h : b.alarmMutation app command key nowUtc generation hostAction = .ok m) : m.Intact := by
  obtain ⟨tag, value, now, -, rfl⟩ := alarmMutation_eq_ok h
  refine fun row hrow => ⟨intact_applyAlarm b hrow tag value now, fun hauth row' _ hcb => ?_⟩
  have hcallback : Callback b app (fun _ => True) row row' :=
    callback_applyAlarm trivial hrow.keyed (authority_eq_ok hauth).1 hcb
  exact hcallback.2

theorem intact_payloadBytes (v : Json) : Intact (payloadBytes v) := by
  unfold payloadBytes
  repeat' split
  · exact raises_ok _
  all_goals exact intact_invalid _

theorem intact_specSchedule (spec : List (String × Json)) : Intact (specSchedule spec) := by
  unfold specSchedule
  split
  · exact (intact_parseUtcJson _).bind fun _ _ => raises_pure _
  · exact raises_pure _
  · exact raises_pure _
  · exact intact_invalid _

theorem intact_upsertMutation (app : String) (request : Json) (generation nowUtc : String) :
    Intact (b.upsertMutation app request generation nowUtc) := by
  refine (intact_checkText _ _ _).bind fun _ _ => (intact_object _ _).bind fun _ _ =>
    (intact_text _ _ _).bind fun _ _ => ?_
  repeat' split
  · exact intact_error (by simp [rematerialize])
  · exact intact_invalid _
  · exact (intact_payloadBytes _).bind fun _ _ => (intact_object _ _).bind fun _ _ =>
      (intact_specSchedule _).bind fun _ _ => (intact_parseUtc _).bind fun _ _ => raises_pure _
  · exact intact_invalid _

theorem upsertMutation_intact {app : String} {request : Json} {generation nowUtc : String}
    (h : b.upsertMutation app request generation nowUtc = .ok m) : m.Intact := by
  obtain ⟨id, schedule, notification, c, now, payload, key, rfl⟩ := upsertMutation_eq_ok h
  refine fun row hrow => ⟨intact_applyUpsert b hrow id schedule notification c now,
    fun hauth row' _ hcb => ?_⟩
  have hcallback : Callback b app (fun _ => True) row row' :=
    callback_applyUpsert trivial hrow.keyed (authority_eq_ok hauth).1 hcb
  exact hcallback.2

theorem intact_toggleMutation (app id key generation nowUtc : String) (enable : Bool) :
    Intact (b.toggleMutation app id key generation nowUtc enable) :=
  (intact_checkText _ _ _).bind fun _ _ => (intact_checkText _ _ _).bind fun _ _ =>
    (intact_parseUtc _).bind fun _ _ => raises_pure _

theorem toggleMutation_intact {app id key generation nowUtc : String} {enable : Bool}
    (h : b.toggleMutation app id key generation nowUtc enable = .ok m) : m.Intact := by
  obtain ⟨now, rfl⟩ := toggleMutation_eq_ok h
  refine fun row hrow => ⟨intact_applyToggle b hrow id now enable, fun hauth row' _ hcb => ?_⟩
  have hcallback : Callback b app (fun _ => True) row row' :=
    callback_applyToggle trivial (authority_eq_ok hauth).1 hcb
  exact hcallback.2

theorem intact_acknowledgeMutation (app occurrence outcome key generation token : String) :
    Intact (acknowledgeMutation app occurrence outcome key generation token) := by
  refine (intact_checkText _ _ _).bind fun _ _ => ?_
  split
  · exact intact_invalid _
  · exact raises_pure _

theorem acknowledgeMutation_intact (b : Backend)
    {app occurrence outcome key generation token : String}
    (h : acknowledgeMutation app occurrence outcome key generation token = .ok m) : m.Intact := by
  obtain ⟨o, -, rfl⟩ := acknowledgeMutation_eq_ok h
  refine fun row hrow => ⟨?_, fun hauth row' _ hcb => ?_⟩
  swap
  · have hcallback : Callback b app (fun _ => True) row row' :=
      callback_applyAcknowledge trivial hauth hcb
    exact hcallback.2
  unfold applyAcknowledge
  dsimp only
  repeat' split
  all_goals first
    | exact raises_ok _
    | exact intact_conflict _

theorem intact_respond {m : Py Mutation} (h : l.Sound) (hm : Intact m)
    (hm' : ∀ m₀, m = .ok m₀ → m₀.Intact) : Intact (b.respond l m) := by
  refine Raises.bind ?_ fun _ _ => raises_pure _
  unfold caught
  split
  · exact raises_ok _
  · exact hm.bind fun m₀ hm₀ => intact_mutatingCall h (hm' m₀ hm₀)

theorem respond_intact {m : Py Mutation} {r : Reply} (h : l.Sound) (hl : l.ReceiptsIntact)
    (hm : Intact m) (hm' : ∀ m₀, m = .ok m₀ → m₀.Intact) (hr : b.respond l m = .ok (l', r)) :
    (∀ response, r = .response response → response.Intact) ∧ l'.ReceiptsIntact := by
  obtain ⟨⟨l₁, response⟩, hc, hr⟩ := bind_eq_ok.1 hr
  cases pure_eq_ok.1 hr
  suffices hresponse : response.Intact ∧ l'.ReceiptsIntact from
    ⟨fun _ hr => Reply.response.inj hr ▸ hresponse.1, hresponse.2⟩
  have hx : Intact (m >>= b.mutatingCall l) :=
    hm.bind fun m₀ hm₀ => intact_mutatingCall h (hm' m₀ hm₀)
  have hok : ∀ p, (m >>= b.mutatingCall l) = .ok p → p.2.Intact ∧ p.1.ReceiptsIntact := by
    intro p hp
    obtain ⟨m₀, hm₀, hcall⟩ := bind_eq_ok.1 hp
    exact mutatingCall_intact h hl (hm' m₀ hm₀) hcall
  change caught l (m >>= b.mutatingCall l) = _ at hc
  generalize m >>= b.mutatingCall l = x at hc hx hok
  cases x with
  | ok p =>
    cases hc
    exact hok _ rfl
  | error e =>
    cases e with
    | scheduler e =>
      cases hc
      exact ⟨response_error_intact (hx _ rfl), hl⟩
    | _ => cases hc

end

/-! ## The other calls -/

section

variable {b : Backend} {l : Ledger}

theorem intact_hostContext (app : String) (generation : Option String) (enabled granted : Bool)
    (permission rollback : String) :
    Intact (hostContext l app generation enabled granted permission rollback) := by
  refine (intact_checkText _ _ _).bind fun _ _ => Raises.bind ?_ fun _ _ => ?_
  · cases generation with
    | none => exact raises_pure _
    | some g => exact (intact_checkText _ _ _).map
  · split
    · refine intact_edit (Raises.bind (raises_foldlM (fun row key => ?_) _ _) fun _ _ => raises_pure _)
      unfold hostAlarm
      split
      · exact raises_ok _
      · dsimp only
        split
        · exact (intact_disable _ _).bind fun _ _ => raises_pure _
        · exact raises_ok _
    · exact intact_invalid _

theorem intact_setOccurrenceState (row : AppRow) (oid : String) (s : OccurrenceState) :
    Intact (row.setOccurrenceState oid s) :=
  (intact_item _).bind fun _ _ => raises_pure _

theorem intact_considerEffect (p : Permission) (due now : Instant) (e : Effect) :
    Intact (considerEffect p due now e) := by
  unfold considerEffect
  repeat' split
  · exact raises_pure _
  · exact raises_pure _
  · exact raises_pure _
  · dsimp only
    refine Raises.bind ?_ fun deadline _ => ?_
    · refine (intact_overflow _).bind fun _ _ => ?_
      split
      · exact (intact_overflow _).bind fun _ _ => raises_pure _
      · exact raises_pure _
    · split
      · exact raises_pure _
      · exact (intact_overflow _).bind fun _ _ => raises_pure _

theorem intact_scanEffects (app owner : String) (now : Instant) (keys : List String) :
    ∀ row, Intact (b.scanEffects app owner now keys row) := by
  induction keys with
  | nil => exact fun _ => raises_pure _
  | cons key rest ih =>
    intro row
    refine (intact_item _).bind fun e _ => (intact_item _).bind fun occ _ =>
      (intact_considerEffect _ _ _ _).bind fun v _ => ?_
    cases v with
    | skip => exact ih row
    | fail reason => exact (intact_setOccurrenceState _ _ _).bind fun row _ => ih row
    | grant => exact (intact_digest b _).bind fun _ _ => raises_pure _

theorem intact_claimNotification (app owner nowUtc : String) :
    Intact (b.claimNotification l app owner nowUtc) :=
  (intact_checkText _ _ _).bind fun _ _ => (intact_parseUtc _).bind fun _ _ =>
    intact_edit ((intact_app _ _).bind fun _ _ => (intact_scanEffects _ _ _ _ _).bind fun _ _ =>
      raises_pure _)

theorem intact_finishLast (attempts : List Attempt) (result : AdapterResult) (now : Instant) :
    Intact (finishLast attempts result now) := by
  unfold finishLast
  split
  · exact raises_ok _
  · exact intact_lookup

theorem intact_exhausted (e : Effect) (due now : Instant) : Intact (exhausted e due now) := by
  unfold exhausted
  split
  · exact raises_pure _
  · exact (intact_overflow _).bind fun _ _ => raises_pure _

theorem intact_finishEffect (row : AppRow) (id token : String) (result : AdapterResult)
    (now : Instant) : Intact (finishEffect row id token result now) := by
  unfold finishEffect
  dsimp only
  split
  · split
    · split
      · exact intact_conflict _
      · refine (intact_finishLast _ _ _).bind fun attempts _ => ?_
        split
        · exact intact_setOccurrenceState _ _ _
        · refine (intact_item _).bind fun occ _ => (intact_exhausted _ _ _).bind fun x _ => ?_
          cases x with
          | true => exact intact_setOccurrenceState _ _ _
          | false => exact raises_pure _
    · exact intact_conflict _
  · exact intact_conflict _

theorem intact_finishNotification (app id token result nowUtc : String) :
    Intact (finishNotification l app id token result nowUtc) := by
  refine (intact_parseUtc _).bind fun _ _ => ?_
  split
  · exact intact_invalid _
  · exact intact_edit ((intact_app _ _).bind fun _ _ => (intact_finishEffect _ _ _ _ _).bind
      fun _ _ => raises_pure _)

theorem intact_scanEvents (app owner generation : String) (now : Instant) (keys : List String) :
    ∀ row, Intact (b.scanEvents app owner generation now keys row) := by
  induction keys with
  | nil => exact fun _ => raises_pure _
  | cons key rest ih =>
    intro row
    refine (intact_item _).bind fun e _ => ?_
    split
    · exact ih row
    · split
      · exact ih _
      · exact (intact_digest b _).bind fun _ _ => raises_pure _

theorem intact_claimGuest (app owner nowUtc : String) : Intact (b.claimGuest l app owner nowUtc) := by
  refine (intact_checkText _ _ _).bind fun _ _ => (intact_parseUtc _).bind fun _ _ =>
    intact_edit ((intact_app _ _).bind fun row _ => ?_)
  split
  · exact raises_pure _
  · exact (intact_scanEvents _ _ _ _ _ _).bind fun _ _ => raises_pure _

theorem intact_finishEvent (row : AppRow) (id token : String) (result : GuestResult) :
    Intact (finishEvent row id token result) := by
  unfold finishEvent
  dsimp only
  split
  · split
    · split
      · exact intact_conflict _
      · split
        · refine (intact_authority _ _ _ _).bind fun _ _ => ?_
          split
          · exact intact_conflict _
          · refine (intact_item _).bind fun _ _ => ?_
            split
            · exact intact_setOccurrenceState _ _ _
            · exact raises_pure _
        · exact raises_pure _
    · exact intact_conflict _
  · exact intact_conflict _

theorem intact_finishGuest (app id token result : String) :
    Intact (finishGuest l app id token result) := by
  unfold finishGuest
  split
  · exact intact_invalid _
  · exact intact_edit ((intact_app _ _).bind fun _ _ => (intact_finishEvent _ _ _ _).bind fun _ _ =>
      raises_pure _)

theorem intact_recoverEffect (owner : String) (row : AppRow) (key : String) :
    Intact (recoverEffect owner row key) := by
  refine (intact_item _).bind fun _ _ => ?_
  split
  · dsimp only
    split
    · exact intact_setOccurrenceState _ _ _
    · exact raises_pure _
  · exact raises_pure _

theorem intact_recoverEvent (owner : String) (row : AppRow) (key : String) :
    Intact (recoverEvent owner row key) := by
  refine (intact_item _).bind fun _ _ => ?_
  split <;> exact raises_pure _

theorem intact_recoverOwner (owner : String) : Intact (recoverOwner l owner) := by
  refine (intact_checkText _ _ _).bind fun owner _ => intact_edit
    (Raises.bind (raises_foldlM (fun l app => ?_) _ _) fun _ _ => raises_pure _)
  exact (intact_item _).bind fun _ _ =>
    ((raises_foldlM (intact_recoverEffect owner) _ _).bind fun _ _ =>
      raises_foldlM (intact_recoverEvent owner) _ _).bind fun _ _ => raises_pure _

theorem intact_answered {α : Type} {x : Py α} (hx : Intact x)
    (reply : Except SchedulerError α → Reply) : Intact (answered l x reply) := by
  unfold answered
  split
  · exact raises_ok _
  · exact raises_ok _
  · rename_i r _
    exact raises_error (hx r rfl)

theorem intact_status (app : String) (value : Json) : Intact (statusCommand l app value) := by
  refine (intact_object _ _).bind fun _ _ => (intact_integer _ _ _).bind fun _ _ =>
    (intact_integer _ _ _).bind fun _ _ => (intact_app _ _).bind fun _ _ =>
    (intact_alarmOf _ _).bind fun _ _ => ?_
  dsimp only
  split
  · exact intact_invalid _
  · exact raises_pure _

theorem intact_listSchedules (app generation : String) : Intact (listSchedules l app generation) :=
  (intact_checkText _ _ _).bind fun _ _ => (intact_app _ _).bind fun _ _ =>
    (intact_authority _ _ _ _).bind fun _ _ => raises_pure _

/-! ## Runs -/

/-- No call on a sound ledger raises the refusal of `_materialize`. -/
theorem intact_perform (h : l.Sound) (c : Call) : Intact (b.perform l c) := by
  cases c with
  | hostContext => exact (intact_hostContext _ _ _ _ _ _).bind fun _ _ => raises_pure _
  | command =>
    unfold Backend.perform
    dsimp only
    split
    · exact intact_answered ((intact_object _ _).bind fun _ _ => (intact_parseUtc _).bind fun _ _ =>
        intact_status _ _) _
    · exact intact_respond h (intact_alarmMutation _ _ _ _ _ _) fun _ => alarmMutation_intact
  | upsert => exact intact_respond h (intact_upsertMutation _ _ _ _) fun _ => upsertMutation_intact
  | toggle =>
    exact intact_respond h (intact_toggleMutation _ _ _ _ _ _) fun _ => toggleMutation_intact
  | acknowledge =>
    exact intact_respond h (intact_acknowledgeMutation _ _ _ _ _ _) fun _ =>
      acknowledgeMutation_intact b
  | listSchedules => exact intact_answered (intact_listSchedules _ _) _
  | advanceDue => exact (intact_advanceDue h _ _ _).bind fun _ _ => raises_pure _
  | claimNotification => exact (intact_claimNotification _ _ _).bind fun _ _ => raises_pure _
  | finishNotification =>
    exact (intact_finishNotification _ _ _ _ _).bind fun _ _ => raises_pure _
  | claimGuest => exact (intact_claimGuest _ _ _).bind fun _ _ => raises_pure _
  | finishGuest => exact (intact_finishGuest _ _ _ _).bind fun _ _ => raises_pure _
  | recoverOwner => exact (intact_recoverOwner _).bind fun _ _ => raises_pure _

/-- Only a receipt changes the receipts. -/
theorem RowStep.commands {app : String} {act : Act} {row row' : AppRow}
    (hs : RowStep b app act row row') (hact : act ≠ .receipt) : row'.commands = row.commands := by
  cases hs with
  | install => exact superseded_commands _ _
  | receipt => exact absurd rfl hact
  | cancelSlot =>
    unfold AppRow.cancelSlot
    dsimp only
    split <;> rfl
  | fireSlot _ _ _ _ _ hf =>
    obtain ⟨adapterId, ⟨-, rfl⟩ | ⟨-, -, rfl⟩ | ⟨-, -, slot, -, -, rfl⟩⟩ := fireSlot_eq_ok hf <;> rfl
  | _ => rfl

/-- A call that writes no receipt keeps them intact. -/
theorem receiptsIntact_of_refines {l' : Ledger} {c : Call} {r : Reply} (hr : Refines b c r l l')
    (hc : ∀ app, ¬ c.allows app .receipt) (h : l.ReceiptsIntact) : l'.ReceiptsIntact := by
  intro app row' hrow'
  obtain ⟨row, as, hrow, has, hsteps, -⟩ := hr.rows app row' hrow'
  have h₀ : row.ReceiptsIntact := by
    rcases hrow with hrow | ⟨-, context, rfl⟩
    · exact h hrow
    · exact Dict.all_empty
  refine hsteps.invariant h₀ fun {act row row'} hact hs hrow => ?_
  rw [AppRow.ReceiptsIntact, hs.commands fun he => hc app (he ▸ has _ hact)]
  exact hrow

/-- A call on a sound ledger with intact receipts answers and records no refusal. -/
theorem perform_intact {l' : Ledger} {c : Call} {r : Reply} (h : l.Sound) (hl : l.ReceiptsIntact)
    (hp : b.perform l c = .ok (l', r)) :
    (∀ response, r = .response response → response.Intact) ∧ l'.ReceiptsIntact := by
  have hquiet : (∀ response, r ≠ .response response) → (∀ app, ¬ c.allows app .receipt) →
      (∀ response, r = .response response → response.Intact) ∧ l'.ReceiptsIntact := fun hr hc =>
    ⟨fun response he => absurd he (hr response),
      receiptsIntact_of_refines (perform_refines h.keyed hp) hc hl⟩
  cases c with
  | command =>
    unfold Backend.perform at hp
    dsimp only at hp
    split at hp
    · obtain ⟨hl', y, rfl⟩ := answered_eq_ok hp
      exact ⟨(fun _ he => by cases he), hl' ▸ hl⟩
    · exact respond_intact h hl (intact_alarmMutation _ _ _ _ _ _) (fun _ => alarmMutation_intact) hp
  | upsert =>
    exact respond_intact h hl (intact_upsertMutation _ _ _ _) (fun _ => upsertMutation_intact) hp
  | toggle =>
    exact respond_intact h hl (intact_toggleMutation _ _ _ _ _ _) (fun _ => toggleMutation_intact) hp
  | acknowledge =>
    exact respond_intact h hl (intact_acknowledgeMutation _ _ _ _ _ _)
      (fun _ => acknowledgeMutation_intact b) hp
  | listSchedules =>
    obtain ⟨hl', y, rfl⟩ := answered_eq_ok hp
    exact ⟨(fun _ he => by cases he), hl' ▸ hl⟩
  | _ =>
    obtain ⟨p, -, hp'⟩ := bind_eq_ok.1 hp
    cases pure_eq_ok.1 hp'
    exact hquiet (fun _ he => by cases he) fun _ => id

theorem step_receiptsIntact (h : l.Sound) (hl : l.ReceiptsIntact) (c : Call) :
    (b.step l c).ReceiptsIntact := by
  unfold Backend.step
  cases hp : b.perform l c with
  | error e => exact hl
  | ok p => exact (perform_intact h hl hp).2

theorem step_sound (h : l.Sound) (c : Call) : (b.step l c).Sound :=
  step_row_invariant (P := fun _ row => row.Sound) (fun _ => sound_new) (fun hs _ h => hs.sound h)
    h.keyed h

/-- **No occurrence twice.** No call on a reachable ledger raises the refusal of `_materialize`, or
answers with it. -/
theorem Reachable.intact (h : Reachable l) (b : Backend) (c : Call) :
    b.perform l c ≠ .error (.scheduler rematerialize) ∧
      ∀ l', b.perform l c ≠ .ok (l', .response (.error rematerialize)) := by
  have hl : l.Sound ∧ l.ReceiptsIntact :=
    h.invariant (P := fun l => l.Sound ∧ l.ReceiptsIntact) ⟨Dict.all_empty, Dict.all_empty⟩
      fun b l c hl => ⟨step_sound hl.1 c, step_receiptsIntact hl.1 hl.2 c⟩
  refine ⟨fun he => intact_perform hl.1 c _ he rfl, fun l' he => ?_⟩
  exact (perform_intact hl.1 hl.2 he).1 _ rfl rfl

end

end Vibapp.Scheduler
