import Vibapp.Scheduler.Specs

/-!
# Calls are sequences of row transitions

Every call takes each app's row along transitions of `RowStep`, of the kinds its name allows
(`Call.allows`), and grants what its reply says (`perform_refines`). What every transition keeps
therefore holds of every row of every reachable ledger (`Reachable.row_invariant`), and what
every transition does to a row every call does.
-/

namespace Vibapp.Scheduler

/-! ## Records under their own ids -/

/-- Every record of the row is stored under its own id. -/
structure AppRow.Keyed (row : AppRow) : Prop where
  alarms : row.alarms.All fun k a => a.alarmId = k
  occurrences : row.occurrences.All fun k o => o.occurrence = k
  outbox : row.outbox.All fun k e => e.notificationId = k
  events : row.guestEvents.All fun k e => e.guestEventId = k

theorem keyed_new (c : Context) : (AppRow.new c).Keyed :=
  ⟨Dict.all_empty, Dict.all_empty, Dict.all_empty, Dict.all_empty⟩

theorem EffectStep.ids {p : Permission} {due : Instant} {act : EffectAct} {e e' : Effect}
    {s : Option OccurrenceState} (h : EffectStep p due act e e' s) :
    e'.notificationId = e.notificationId ∧ e'.occurrenceId = e.occurrenceId := by
  cases h <;> exact ⟨rfl, rfl⟩

theorem EventStep.ids {row : AppRow} {act : EventAct} {e e' : Event} (h : EventStep row act e e') :
    e'.guestEventId = e.guestEventId ∧ e'.occurrenceId = e.occurrenceId := by
  cases h <;> exact ⟨rfl, rfl⟩

section

variable {b : Backend} {app : String}

theorem keyed_cancelScheduled {row : AppRow} (h : row.Keyed) (id : String) :
    (row.cancelScheduled id).Keyed :=
  { h with
    occurrences := h.occurrences.mapVals fun k o ho => by
      split <;> exact ho }

theorem keyed_superseded {row : AppRow} (h : row.Keyed) (id : String) : (row.superseded id).Keyed := by
  unfold AppRow.superseded
  split
  · exact keyed_cancelScheduled h id
  · exact h

theorem keyed_armed {row : AppRow} (h : row.Keyed) {key : String} {a : Alarm} (ha : a.alarmId = key)
    (slot : Slot) : (b.armed row key a slot).Keyed :=
  { h with
    alarms := h.alarms.set ha
    occurrences := h.occurrences.set rfl }

theorem keyed_fired {row : AppRow} (h : row.Keyed) (x : Advance) {oid : String} {occ : Occurrence}
    (a : Alarm) (ho : occ.occurrence = oid) (adapterId : String) :
    (row.fired x oid occ a adapterId).Keyed where
  alarms := h.alarms
  occurrences := h.occurrences.set ho
  outbox := by
    unfold AppRow.fired
    dsimp only
    split
    · exact h.outbox.set rfl
    · exact h.outbox
  events := h.events.set rfl

theorem RowStep.keyed {act : Act} {row row' : AppRow} (hs : RowStep b app act row row')
    (h : row.Keyed) : row'.Keyed := by
  cases hs with
  | context c => exact { h with }
  | health p ha =>
    have hid := h.alarms ha
    exact { h with alarms := h.alarms.set hid }
  | disable ha hen =>
    have hid := h.alarms ha
    exact { keyed_cancelScheduled h _ with alarms := h.alarms.set hid }
  | install =>
    refine keyed_armed (keyed_superseded h _) ?_ _
    rfl
  | enable _ ha =>
    have hid := h.alarms ha
    refine keyed_armed h ?_ _
    exact hid
  | snooze => exact { h with occurrences := h.occurrences.set rfl }
  | receipt => exact { h with }
  | dedup => exact { h with }
  | cancelSlot ho _ ha =>
    have hid := h.alarms ha
    have hoid := h.occurrences ho
    unfold AppRow.cancelSlot
    dsimp only
    split
    · exact { h with alarms := h.alarms.set hid, occurrences := h.occurrences.set hoid }
    · exact { h with occurrences := h.occurrences.set hoid }
  | @fireSlot _ _ oid occ a x ho _ _ ha _ hf =>
    have hid := h.alarms ha
    obtain ⟨adapterId, hrow⟩ := fireSlot_eq_ok hf
    have hk := keyed_fired h x a (h.occurrences ho) adapterId
    rcases hrow with ⟨-, rfl⟩ | ⟨-, -, rfl⟩ | ⟨-, -, slot, -, -, rfl⟩
    · exact hk
    · exact { hk with alarms := h.alarms.set hid }
    · exact keyed_armed hk hid slot
  | effect he ho hstep =>
    have hoid := h.occurrences ho
    refine { h with outbox := h.outbox.set (hstep.ids.1.trans (h.outbox he)), occurrences := ?_ }
    unfold AppRow.putEffect
    dsimp only
    split
    · exact h.occurrences.set (hoid.trans hstep.ids.2.symm)
    · exact h.occurrences
  | recoverEffect he =>
    have hid := h.outbox he
    exact { h with outbox := h.outbox.set hid }
  | event he hstep => exact { h with events := h.events.set (hstep.ids.1.trans (h.events he)) }
  | acked he ho hstep =>
    have hoid := h.occurrences ho
    refine { h with events := h.events.set (hstep.ids.1.trans (h.events he)), occurrences := ?_ }
    unfold AppRow.putAcked
    dsimp only
    split
    · exact h.occurrences.set (hoid.trans hstep.ids.2.symm)
    · exact h.occurrences

end

/-! ## What a call may do -/

/-- The acts a call may do on an app's row. -/
def Call.allows (c : Call) (app : String) (act : Act) : Prop :=
  match c, act with
  | .hostContext a .., .context => a = app
  | .hostContext a .., .command => a = app
  | .command a .., .command => a = app
  | .command a .., .receipt => a = app
  | .upsert a .., .command => a = app
  | .upsert a .., .receipt => a = app
  | .toggle a .., .command => a = app
  | .toggle a .., .receipt => a = app
  | .acknowledge a .., .command => a = app
  | .acknowledge a .., .receipt => a = app
  | .acknowledge a occ _ _ generation token, .event id (.acknowledge _ t g) =>
    a = app ∧ id = guestId occ ∧ t = token ∧ g = generation
  | .advanceDue .., .slot _ => True
  | .claimNotification a .., .effect _ (.expire _) => a = app
  | .claimNotification a owner nowUtc, .effect _ (.grant o _ t) =>
    a = app ∧ o = owner ∧ parseUtc nowUtc = .ok t
  | .finishNotification a id token result nowUtc, .effect i (.settle t r n) =>
    a = app ∧ i = id ∧ t = token ∧ adapterResult? result = some r ∧ parseUtc nowUtc = .ok n
  | .claimGuest a .., .event _ .expire => a = app
  | .claimGuest a owner nowUtc, .event _ (.grant o _ _ t) =>
    a = app ∧ o = owner ∧ parseUtc nowUtc = .ok t
  | .finishGuest a id token result, .event i (.settle t r) =>
    a = app ∧ i = id ∧ t = token ∧ guestResult? result = some r
  | .recoverOwner owner, .effect _ (.recover o) => o = owner
  | .recoverOwner owner, .event _ (.recover o) => o = owner
  | _, _ => False

/-- A claim, by the id of what is claimed and the token. -/
inductive Grant
  | effect (id token : String)
  | event (id token : String)
deriving DecidableEq

/-- The claim an act grants. -/
def Act.grant? : Act → Option Grant
  | .effect id (.grant _ token _) => some (.effect id token)
  | .event id (.grant _ token _ _) => some (.event id token)
  | _ => none

/-- The claims on an app's rows that a call reports. -/
def Call.grants (c : Call) (r : Reply) (app : String) : List Grant :=
  match c, r with
  | .claimNotification a .., .notification (some g) =>
    if a = app then [.effect g.notificationId g.token] else []
  | .claimGuest a .., .guest (some g) => if a = app then [.event g.guestEventId g.token] else []
  | _, _ => []

/-! ## Commands -/

/-- The authority check passed: the app is enabled and granted, and the caller's generation, if
it has one, is the active one. -/
theorem authority_eq_ok {row : AppRow} {generation : Option String} {mutation host : Bool}
    (h : authority row generation mutation host = .ok ()) :
    row.context.enabled = true ∧ row.context.schedulerGranted = true ∧
      (∀ g, generation = some g → row.context.activeGeneration = some g) ∧
      (mutation = true → host = false → row.context.rollbackState = .none) := by
  unfold authority at h
  split at h
  · exact absurd h (error_ne_ok _ _ _)
  · rename_i hen
    split at h
    · exact absurd h (error_ne_ok _ _ _)
    · rename_i hgen
      split at h
      · exact absurd h (error_ne_ok _ _ _)
      · rename_i hgr
        split at h
        · exact absurd h (error_ne_ok _ _ _)
        · rename_i hroll
          refine ⟨by simpa using hen, by simpa using hgr, fun g hg => ?_, fun hm hh => ?_⟩
          · subst hg
            by_contra hne
            exact hgen (by simpa using fun he => hne he.symm)
          · subst hm hh
            simpa using hroll

section

variable {b : Backend} {app : String} {P : Act → Prop}

/-- A callback changes the row by at most one allowed transition, and writes no receipt. -/
def Callback (b : Backend) (app : String) (P : Act → Prop) (row row' : AppRow) : Prop :=
  (row' = row ∨ ∃ act, P act ∧ RowStep b app act row row') ∧ row'.commands = row.commands

theorem Callback.reaches {row row' : AppRow} (h : Callback b app P row row') :
    Reaches (RowStep b app) P row row' := by
  rcases h.1 with rfl | ⟨act, hact, hstep⟩
  · exact .refl _
  · exact .single hact hstep

theorem superseded_commands (row : AppRow) (id : String) :
    (row.superseded id).commands = row.commands := by
  unfold AppRow.superseded
  split <;> rfl

theorem get?_superseded_eq_none {row : AppRow} {id oid : String}
    (h : (row.superseded id).occurrences.get? oid = none) : row.occurrences.get? oid = none := by
  unfold AppRow.superseded at h
  split at h
  · rw [get?_cancelScheduled, Option.map_eq_none_iff] at h
    exact h
  · exact h

theorem callback_configure {row row' : AppRow} {request : Json} {now : Instant} {c : Config}
    {r : AlarmResult} (hP : P .command) (hk : row.Keyed) (hctx : row.context.enabled = true)
    (h : b.configure row request now c = .ok (row', r)) : Callback b app P row row' := by
  obtain ⟨id, schedule, notification, slot, hpurpose, hslot, hnew, rfl⟩ :=
    configure_eq_ok (fun k p hp => hk.alarms hp) h
  exact ⟨.inr ⟨_, hP, .install hctx hpurpose hslot (get?_superseded_eq_none hnew)⟩,
    superseded_commands row id⟩

theorem callback_toggle {row row' : AppRow} {request : Json} {now : Instant} {enable : Bool}
    {r : AlarmResult} (hP : P .command) (hctx : row.context.enabled = true)
    (h : b.toggle row request now enable = .ok (row', r)) : Callback b app P row row' := by
  rcases toggle_eq_ok h with rfl | ⟨key, a, ha, ⟨hen, rfl⟩ | ⟨hdis, slot, hslot, hnew, rfl⟩⟩
  · exact ⟨.inl rfl, rfl⟩
  · exact ⟨.inr ⟨_, hP, .disable ha hen⟩, rfl⟩
  · exact ⟨.inr ⟨_, hP, .enable hctx ha hdis hslot hnew⟩, rfl⟩

theorem callback_snooze {row row' : AppRow} {request : Json} {r : AlarmResult} (hP : P .command)
    (hctx : row.context.enabled = true) (h : b.snooze row request = .ok (row', r)) :
    Callback b app P row row' := by
  rcases snooze_eq_ok h with ⟨key, x, hx, rfl⟩ | ⟨parentId, actionId, received, duration, hact, hlow, hhigh, h⟩
  · exact ⟨.inr ⟨_, hP, .dedup hx⟩, rfl⟩
  · obtain ⟨parent, a, due, hp, hstate, ha, hen, hrev, hdue, hnew, rfl⟩ := snoozeNew_eq_ok h
    exact ⟨.inr ⟨_, hP, .snooze hctx hact hp hstate ha hen hrev ⟨hlow, hhigh⟩ hdue hnew⟩, rfl⟩

theorem callback_applyAlarm {row row' : AppRow} {tag : String} {value : Json} {now : Instant}
    {v : Value} (hP : P .command) (hk : row.Keyed) (hctx : row.context.enabled = true)
    (h : b.applyAlarm tag value now row = .ok (row', v)) : Callback b app P row row' := by
  unfold Backend.applyAlarm at h
  split at h
  · obtain ⟨⟨row₁, r⟩, hc, h⟩ := bind_eq_ok.1 h
    cases pure_eq_ok.1 h
    exact callback_configure hP hk hctx hc
  · split at h
    · obtain ⟨⟨row₁, r⟩, hc, h⟩ := bind_eq_ok.1 h
      cases pure_eq_ok.1 h
      exact callback_snooze hP hctx hc
    · obtain ⟨⟨row₁, r⟩, hc, h⟩ := bind_eq_ok.1 h
      cases pure_eq_ok.1 h
      exact callback_toggle hP hctx hc

theorem callback_applyUpsert {row row' : AppRow} {id : String} {schedule notification : Json}
    {c : Config} {now : Instant} {v : Value} (hP : P .command) (hk : row.Keyed)
    (hctx : row.context.enabled = true)
    (h : b.applyUpsert id schedule notification c now row = .ok (row', v)) :
    Callback b app P row row' := by
  obtain ⟨⟨row₁, r⟩, hc, h⟩ := bind_eq_ok.1 h
  obtain ⟨a, -, h⟩ := bind_eq_ok.1 h
  cases pure_eq_ok.1 h
  exact callback_configure hP hk hctx hc

theorem callback_applyToggle {row row' : AppRow} {id : String} {now : Instant} {enable : Bool}
    {v : Value} (hP : P .command) (hctx : row.context.enabled = true)
    (h : b.applyToggle id now enable row = .ok (row', v)) : Callback b app P row row' := by
  unfold Backend.applyToggle at h
  split at h
  · exact absurd h (error_ne_ok _ _ _)
  · obtain ⟨⟨row₁, r⟩, hc, h⟩ := bind_eq_ok.1 h
    obtain ⟨a, -, h⟩ := bind_eq_ok.1 h
    cases pure_eq_ok.1 h
    exact callback_toggle hP hctx hc

theorem callback_applyAcknowledge {row row' : AppRow} {occurrence generation token : String}
    {outcome : AckOutcome} {v : Value}
    (hP : P (.event (guestId occurrence) (.acknowledge outcome token generation)))
    (hauth : authority row (some generation) = .ok ())
    (h : applyAcknowledge occurrence outcome generation token row = .ok (row', v)) :
    Callback b app P row row' := by
  unfold applyAcknowledge at h
  split at h
  · rename_i e he
    split at h
    · rename_i c hc
      split at h
      · exact absurd h (error_ne_ok _ _ _)
      · rename_i hclaim
        simp only [not_or, not_not, ne_eq] at hclaim
        obtain ⟨rfl, rfl⟩ := hclaim
        cases h
        exact ⟨.inr ⟨_, hP, .event he (.acknowledge outcome hc hauth) rfl
          (fun _ _ _ _ h => by cases h)⟩, rfl⟩
    · exact absurd h (error_ne_ok _ _ _)
  · exact absurd h (error_ne_ok _ _ _)

/-- `_mutating_call` on the row: the callback's transition, a receipt, or a mark. -/
theorem mutateRow_reaches {row row' : AppRow} {operation : String} {payload : List (String × Json)}
    {key fingerprint : String} {generation : Option String}
    {callback : AppRow → Py (AppRow × Value)} {hostAction : Bool} {r : Response}
    (hP : P .command) (hP' : P .receipt)
    (hcb : authority row generation true hostAction = .ok () → ∀ {row' v},
      callback row = .ok (row', v) → Callback b app P row row')
    (h : b.mutateRow row operation payload key fingerprint generation callback hostAction =
      .ok (row', r)) :
    Reaches (RowStep b app) P row row' := by
  unfold Backend.mutateRow at h
  split at h
  · cases h
    split
    · exact .refl _
    · rename_i hc
      exact .single hP' (.receipt _ (Dict.contains_eq_false_iff.1 (Bool.eq_false_iff.2 hc)))
  · cases h
  · rename_i hauth
    split at h
    · unfold Backend.replay at h
      split at h
      · cases pure_eq_ok.1 h
        exact .refl _
      · obtain ⟨row₁, hm, h⟩ := bind_eq_ok.1 h
        cases pure_eq_ok.1 h
        unfold Backend.markAction at hm
        simp only at hm
        split at hm
        · rename_i x hx
          split at hm
          · split at hm
            · cases hm
              exact .single hP (.dedup hx)
            · cases hm
          · cases hm
            exact .refl _
        · cases hm
          exact .refl _
    · rename_i hnone
      unfold execute at h
      split at h
      · rename_i updated v hv
        cases pure_eq_ok.1 h
        have hc := hcb hauth hv
        exact hc.reaches.trans (.single hP' (.receipt _ (by rw [hc.2]; exact hnone)))
      · cases pure_eq_ok.1 h
        exact .single hP' (.receipt _ hnone)
      · cases h

/-! ## The host -/

theorem hostAlarm_reaches {c : Context} {row row' : AppRow} {key : String} (hP : P .context)
    (hP' : P .command) (h : hostAlarm c row key = .ok row') :
    Reaches (RowStep b app) P row row' := by
  unfold hostAlarm at h
  split at h
  · cases h
    exact .refl _
  · rename_i a ha
    let a' : Alarm := { a with permissionHealth := c.notificationPermission }
    have hhealth : RowStep b app .context row (row.setAlarm key a') := .health _ ha
    simp only at h
    split at h
    · rename_i hen
      obtain ⟨⟨row₁, a₁, o⟩, hd, h⟩ := bind_eq_ok.1 h
      cases pure_eq_ok.1 h
      have hen : a.enabled = true := by simp only [Bool.and_eq_true] at hen; exact hen.2
      rcases disable_eq_ok hd with ⟨hdis, -, -⟩ | ⟨-, rfl, rfl⟩
      · exact absurd hen (by simpa using hdis)
      · have hd : RowStep b app .command (row.setAlarm key a')
            (((row.setAlarm key a').cancelScheduled a.alarmId).setAlarm key a'.disabled) :=
          .disable (a := a') (Dict.get?_set_self _ _ _) hen
        have hrow : ((row.setAlarm key a').cancelScheduled a.alarmId).setAlarm key a'.disabled =
            (row.cancelScheduled a.alarmId).setAlarm key a'.disabled := by
          simp [AppRow.setAlarm, AppRow.cancelScheduled]
        exact (Reaches.single hP hhealth).trans (.single hP' (hrow ▸ hd))
    · cases h
      exact .single hP hhealth

theorem hostRow_reaches {c : Context} {row row' : AppRow} (hP : P .context) (hP' : P .command)
    (h : hostRow c row = .ok row') : Reaches (RowStep b app) P row row' :=
  (Reaches.single hP (.context c)).trans
    (foldlM_rel Reaches.refl Reaches.trans (hostAlarm_reaches hP hP') h)

/-! ## Due slots -/

theorem takeSlot_rowStep {x : Advance} {oid : String} {row row' : AppRow} {occ : Occurrence}
    (ho : row.occurrences.get? oid = some occ) (hs : occ.state = .scheduled)
    (hdue : occ.dueAtUtc ≤ x.now) (h : b.takeSlot x app oid row = .ok row') :
    RowStep b app (.slot oid) row row' := by
  obtain ⟨occ', a, ho', ha, hrow⟩ := takeSlot_eq_ok h
  obtain rfl : occ' = occ := Option.some.inj (ho'.symm.trans ho)
  rcases hrow with ⟨hr, rfl⟩ | ⟨hr, hf⟩
  · exact .cancelSlot ho hs ha hr
  · exact .fireSlot ho hs hdue ha hr hf

/-! ## Notifications -/

theorem setOccurrenceState_eq_ok {row row' : AppRow} {oid : String} {state : OccurrenceState}
    (h : row.setOccurrenceState oid state = .ok row') :
    ∃ occ, row.occurrences.get? oid = some occ ∧
      row' = { row with occurrences := row.occurrences.set oid { occ with state } } := by
  obtain ⟨occ, ho, h⟩ := bind_eq_ok.1 h
  exact ⟨occ, item_eq_ok.1 ho, (pure_eq_ok.1 h).symm⟩

theorem failedNotification_eq_ok {row row' : AppRow} {key : String} {e : Effect} {reason : String}
    (h : failedNotification row key e reason = .ok row') :
    ∃ occ, row.occurrences.get? e.occurrenceId = some occ ∧
      row' = row.putEffect key (e.fail reason) occ (some .notificationFailed) := by
  obtain ⟨occ, ho, rfl⟩ := setOccurrenceState_eq_ok h
  exact ⟨occ, ho, rfl⟩

/-- A grant in the list of acts of a claim's scan. -/
theorem filterMap_grant?_of_quiet {as : List Act} (h : ∀ a ∈ as, a.grant? = none) :
    as.filterMap Act.grant? = [] :=
  List.filterMap_eq_nil_iff.2 h

/-- The scan of `claim_notification` expires rows, and then grants the one it returns. -/
theorem scanEffects_steps {owner : String} {now : Instant} {keys : List String} {row row' : AppRow}
    {claim : Option NotificationClaim} (hk : row.Keyed)
    (hP : ∀ key reason, P (.effect key (.expire reason)))
    (hP' : ∀ key token, P (.effect key (.grant owner token now)))
    (h : b.scanEffects app owner now keys row = .ok (row', claim)) :
    ∃ as, (∀ a ∈ as, P a) ∧ Steps (RowStep b app) as row row' ∧
      as.filterMap Act.grant? =
        (claim.map fun g => Grant.effect g.notificationId g.token).toList := by
  induction keys generalizing row with
  | nil =>
    cases pure_eq_ok.1 h
    exact ⟨[], fun _ h => absurd h List.not_mem_nil, .nil _, rfl⟩
  | cons key rest ih =>
    obtain ⟨e, he, h⟩ := bind_eq_ok.1 h
    obtain ⟨occ, ho, h⟩ := bind_eq_ok.1 h
    obtain ⟨verdict, hv, h⟩ := bind_eq_ok.1 h
    rw [item_eq_ok] at he ho
    cases verdict with
    | skip => exact ih hk h
    | fail reason =>
      obtain ⟨row₁, hf, h⟩ := bind_eq_ok.1 h
      obtain ⟨occ', ho', hrow⟩ := failedNotification_eq_ok hf
      rw [Option.some.inj (ho'.symm.trans ho)] at hrow
      rw [hrow] at h
      have hstep : RowStep b app (.effect key (.expire reason)) row _ :=
        .effect he ho (.expire hv) (fun _ _ _ h => by cases h)
      obtain ⟨as, has, hsteps, hgrants⟩ := ih (hstep.keyed hk) h
      exact ⟨_ :: as, List.forall_mem_cons.2 ⟨hP key reason, has⟩, .cons hstep hsteps, hgrants⟩
    | grant =>
      obtain ⟨token, ht, h⟩ := bind_eq_ok.1 h
      cases pure_eq_ok.1 h
      have hstep : RowStep b app (.effect key (.grant owner token now)) row _ :=
        .effect he ho (.grant owner token hv) (fun _ _ _ h => by cases h; exact ht)
      refine ⟨[_], List.forall_mem_singleton.2 (hP' key token), .single hstep, ?_⟩
      have hid : e.notificationId = key := hk.outbox he
      simp [Act.grant?, hid]

theorem finishEffect_reaches {id token : String} {result : AdapterResult} {now : Instant}
    {row row' : AppRow} (hP : P (.effect id (.settle token result now)))
    (h : finishEffect row id token result now = .ok row') : Reaches (RowStep b app) P row row' := by
  unfold finishEffect at h
  simp only at h
  split at h
  · rename_i e he
    split at h
    · rename_i c hc
      split at h
      · exact absurd h (error_ne_ok _ _ _)
      · rename_i htoken
        obtain rfl : c.token = token := by simpa using htoken
        obtain ⟨attempts, -, h⟩ := bind_eq_ok.1 h
        split at h
        · rename_i hres
          rw [hres] at hP
          obtain ⟨occ, ho, rfl⟩ := setOccurrenceState_eq_ok h
          exact .single hP (.effect he ho (.accept attempts now hc) (fun _ _ _ h => by cases h))
        · rename_i hres
          obtain ⟨occ, ho, h⟩ := bind_eq_ok.1 h
          obtain ⟨x, hx, h⟩ := bind_eq_ok.1 h
          rw [item_eq_ok] at ho
          cases x with
          | true =>
            obtain ⟨occ', ho', hrow⟩ := failedNotification_eq_ok h
            rw [hrow, Option.some.inj (ho'.symm.trans ho)]
            exact .single hP
              (.effect he ho (.giveUp attempts _ hc hres hx) (fun _ _ _ h => by cases h))
          | false =>
            cases pure_eq_ok.1 h
            exact .single hP (.effect he ho (.retry attempts hc hres hx) (fun _ _ _ h => by cases h))
    · exact absurd h (error_ne_ok _ _ _)
  · exact absurd h (error_ne_ok _ _ _)

/-! ## Guest events -/

/-- The scan of `claim_guest` dead-letters events, and then grants the one it returns. -/
theorem scanEvents_steps {owner generation : String} {now : Instant} {keys : List String}
    {row row' : AppRow} {claim : Option GuestClaim} (hk : row.Keyed)
    (hg : row.guestGeneration = some generation) (hP : ∀ key, P (.event key .expire))
    (hP' : ∀ key token, P (.event key (.grant owner token generation now)))
    (h : b.scanEvents app owner generation now keys row = .ok (row', claim)) :
    ∃ as, (∀ a ∈ as, P a) ∧ Steps (RowStep b app) as row row' ∧
      as.filterMap Act.grant? = (claim.map fun g => Grant.event g.guestEventId g.token).toList := by
  induction keys generalizing row with
  | nil =>
    cases pure_eq_ok.1 h
    exact ⟨[], fun _ h => absurd h List.not_mem_nil, .nil _, rfl⟩
  | cons key rest ih =>
    obtain ⟨e, he, h⟩ := bind_eq_ok.1 h
    rw [item_eq_ok] at he
    split at h
    · exact ih hk hg h
    · rename_i hr
      have hr : e.notReady now = false := Bool.eq_false_iff.2 hr
      split at h
      · rename_i hn
        have hstep : RowStep b app (.event key .expire) row _ :=
          .event he (.expire hr hn) rfl (fun _ _ _ _ h => by cases h)
        obtain ⟨as, has, hsteps, hgrants⟩ := ih (hstep.keyed hk) hg h
        exact ⟨_ :: as, List.forall_mem_cons.2 ⟨hP key, has⟩, .cons hstep hsteps, hgrants⟩
      · rename_i hn
        obtain ⟨token, ht, h⟩ := bind_eq_ok.1 h
        cases pure_eq_ok.1 h
        have hstep : RowStep b app (.event key (.grant owner token generation now)) row _ :=
          .event he (.grant owner token hg hr (Nat.lt_of_not_le hn)) rfl
            (fun _ _ _ _ h => by cases h; exact ht)
        refine ⟨[_], List.forall_mem_singleton.2 (hP' key token), .single hstep, ?_⟩
        have hid : e.guestEventId = key := hk.events he
        simp [Act.grant?, hid]

theorem finishEvent_reaches {id token : String} {result : GuestResult} {row row' : AppRow}
    (hP : P (.event id (.settle token result))) (h : finishEvent row id token result = .ok row') :
    Reaches (RowStep b app) P row row' := by
  unfold finishEvent at h
  simp only at h
  split at h
  · rename_i e he
    split at h
    · rename_i c hc
      split at h
      · exact absurd h (error_ne_ok _ _ _)
      · rename_i htoken
        obtain rfl : c.token = token := by simpa using htoken
        split at h
        · rename_i hres
          rw [hres] at hP
          obtain ⟨⟨⟩, hauth, h⟩ := bind_eq_ok.1 h
          split at h
          · exact absurd h (error_ne_ok _ _ _)
          · rename_i outcome hack
            obtain ⟨occ, ho, h⟩ := bind_eq_ok.1 h
            rw [item_eq_ok] at ho
            have hstep : RowStep b app (.event id (.settle c.token .success)) row
                (row.putAcked id (e.ack outcome) occ) := .acked he ho (.success hc hauth hack) rfl
            refine .single hP ?_
            split at h
            · rename_i hstate
              obtain ⟨occ', ho', hrow⟩ := setOccurrenceState_eq_ok h
              rw [Option.some.inj (ho'.symm.trans ho)] at hrow
              simpa [AppRow.putAcked, Event.ack, hstate, hrow] using hstep
            · rename_i hstate
              cases pure_eq_ok.1 h
              simpa [AppRow.putAcked, Event.ack, hstate] using hstep
        · rename_i hres
          cases pure_eq_ok.1 h
          have hact : (EventAct.settle c.token result).isSuccess = false := by
            cases result with
            | success => exact absurd rfl hres
            | _ => rfl
          exact .single hP (.event he (.release hc hres) hact (fun _ _ _ _ h => by cases h))
    · exact absurd h (error_ne_ok _ _ _)
  · exact absurd h (error_ne_ok _ _ _)

/-! ## Recovery -/

theorem recoverEffect_reaches {owner : String} {row row' : AppRow} {key : String}
    (hP : P (.effect key (.recover owner))) (h : recoverEffect owner row key = .ok row') :
    Reaches (RowStep b app) P row row' := by
  obtain ⟨e, he, h⟩ := bind_eq_ok.1 h
  rw [item_eq_ok] at he
  split at h
  · rename_i hown
    obtain ⟨c, hc, hc'⟩ := (Option.any_eq_true _ _).1 hown
    rw [← of_decide_eq_true hc'] at hP
    simp only at h
    split at h
    · rename_i hn
      obtain ⟨occ, ho, rfl⟩ := failedNotification_eq_ok h
      exact .single hP (.effect he ho (.lose _ hc hn) (fun _ _ _ h => by cases h))
    · rename_i hn
      cases pure_eq_ok.1 h
      exact .single hP (.recoverEffect he hc (Nat.lt_of_not_le hn))
  · cases pure_eq_ok.1 h
    exact .refl _

theorem recoverEvent_reaches {owner : String} {row row' : AppRow} {key : String}
    (hP : P (.event key (.recover owner))) (h : recoverEvent owner row key = .ok row') :
    Reaches (RowStep b app) P row row' := by
  obtain ⟨e, he, h⟩ := bind_eq_ok.1 h
  rw [item_eq_ok] at he
  split at h
  · rename_i hown
    obtain ⟨c, hc, hc'⟩ := (Option.any_eq_true _ _).1 hown
    rw [← of_decide_eq_true hc'] at hP
    cases pure_eq_ok.1 h
    exact .single hP (.event he (.recover hc) rfl (fun _ _ _ _ h => by cases h))
  · cases pure_eq_ok.1 h
    exact .refl _

theorem recoverRow_reaches {owner : String} {row row' : AppRow}
    (hP : ∀ key, P (.effect key (.recover owner))) (hP' : ∀ key, P (.event key (.recover owner)))
    (h : recoverRow owner row = .ok row') : Reaches (RowStep b app) P row row' := by
  obtain ⟨row₁, h₁, h₂⟩ := bind_eq_ok.1 h
  exact (foldlM_rel Reaches.refl Reaches.trans (recoverEffect_reaches (hP _)) h₁).trans
    (foldlM_rel Reaches.refl Reaches.trans (recoverEvent_reaches (hP' _)) h₂)

end

end Vibapp.Scheduler
