import Vibapp.Scheduler.Actions

/-!
# Snoozes

**Main result** (`snooze_law`): in every reachable ledger the children of notifications and the
accepted actions are one to one, each child due its duration after its action was received.

**Calls.** Only an `alarm-snooze` command accepts an action; its child is new and of an enabled
alarm at its current revision. Such a command leaves every alarm as it is, whether it is accepted,
replayed or refused. A call after which an alarm has another revision or is disabled has cancelled
what was scheduled of it, and so has every edit, disable or cancel command that was carried out.
-/

namespace Vibapp.Scheduler

/-! ## Commands by their tags -/

/-- An alarm command of the app, with this tag. -/
def Call.IsAlarm (c : Call) (app tag : String) : Prop :=
  match c with
  | .command a request .. =>
    a = app ∧ ∃ ms, object request ["tag", "value"] = .ok ms ∧ field ms "tag" = .str tag
  | _ => False

section

variable {b : Backend} {l l' : Ledger} {reply : Reply} {row row' : AppRow} {app : String}

/-- A mutation of an alarm command has its tag's callback. -/
theorem alarmMutation_tag {a nowUtc tag : String} {command key : Json} {generation : Option String}
    {hostAction : Bool} {m : Mutation} {ms : List (String × Json)}
    (hms : object command ["tag", "value"] = .ok ms) (htag : field ms "tag" = .str tag)
    (h : b.alarmMutation a command key nowUtc generation hostAction = .ok m) :
    ∃ value now, m.callback = b.applyAlarm tag value now := by
  obtain ⟨ms', hms', h⟩ := bind_eq_ok.1 h
  rw [hms] at hms'
  cases hms'
  obtain ⟨now, -, h⟩ := bind_eq_ok.1 h
  rw [htag] at h
  dsimp only at h
  split at h
  · exact absurd h (error_ne_ok _ _ _)
  · split at h
    · exact absurd h (error_ne_ok _ _ _)
    · cases pure_eq_ok.1 h
      exact ⟨_, now, rfl⟩

theorem isStatus_of_tag {command : Json} {ms : List (String × Json)} {tag : String}
    (hms : object command ["tag", "value"] = .ok ms) (htag : field ms "tag" = .str tag)
    (hne : tag ≠ "alarm-status") : isStatus command = false := by
  simp [isStatus, hms, htag, hne]

/-- A call that is no `alarm-snooze` command accepts no action. -/
theorem perform_keepsActions {c : Call} (hk : l.Keyed) (hc : ¬ c.IsAlarm app "alarm-snooze")
    (h : b.perform l c = .ok (l', reply)) (hrow : l.apps.get? app = some row)
    (hrow' : l'.apps.get? app = some row') : row.KeepsActions row' := by
  have hkeyed := hk hrow
  have hrespond : ∀ {m : Py Mutation}, b.respond l m = .ok (l', reply) →
      (∀ m₀, m = .ok m₀ → m₀.app = app → ∀ {updated v}, m₀.callback row = .ok (updated, v) →
        updated.actions = row.actions) → row.KeepsActions row' := by
    intro m h hcb
    rcases respond_row h hrow hrow' with rfl | ⟨m₀, key, _, _, _, r, hm, happ, hmutate⟩
    · exact keepsActions_of_eq rfl
    · rcases mutateRow_eq_ok hmutate with ⟨hf, -⟩ | ⟨updated, v, hrun, -, rfl⟩
      · exact hf.actions
      · have hsame := hcb m₀ hm happ hrun
        exact keepsActions_of_eq hsame
  have hquiet : (∀ app, ¬ c.allows app .command) → row.KeepsActions row' := by
    intro hquiet
    obtain ⟨row₀, as, hrow₀, has, hsteps, -⟩ := (perform_refines hk h).rows app row' hrow'
    rcases hrow₀ with hrow₀ | ⟨hnone, -⟩
    · cases hrow.symm.trans hrow₀
      refine keepsActions_of_eq ?_
      refine hsteps.rel (Q := fun r r' : AppRow => r'.actions = r.actions) (P := fun _ => True)
        (fun _ => rfl) (fun h₁ h₂ => h₂.trans h₁) trivial fun {act _ _} hact hs _ => ⟨trivial, ?_⟩
      exact hs.actions_eq fun he => hquiet app (he ▸ has act hact)
    · rw [hrow] at hnone
      cases hnone
  cases c with
  | hostContext a generation enabled granted permission rollback =>
    obtain ⟨⟨l₁, ⟨⟩⟩, hh, h⟩ := bind_eq_ok.1 h
    cases pure_eq_ok.1 h
    obtain ⟨context, row₁, -, -, -, -, -, hhost, rfl⟩ := hostContext_eq_ok hh
    rw [get?_setApp] at hrow'
    split at hrow'
    · rename_i happ
      cases hrow'
      rw [← happ, hrow] at hhost
      exact keepsActions_of_eq (hostRow_actions hhost)
    · rw [hrow] at hrow'
      cases hrow'
      exact keepsActions_of_eq rfl
  | command a command key nowUtc generation hostAction =>
    unfold Backend.perform at h
    dsimp only at h
    split at h
    · obtain ⟨rfl, -⟩ := answered_eq_ok h
      rw [hrow] at hrow'
      cases hrow'
      exact keepsActions_of_eq rfl
    · refine hrespond h fun m hm happ updated v hrun => ?_
      obtain ⟨ms, hms, hm⟩ := bind_eq_ok.1 hm
      obtain ⟨now, -, hm⟩ := bind_eq_ok.1 hm
      split at hm
      · rename_i tag htag
        split at hm
        · exact absurd hm (error_ne_ok _ _ _)
        · split at hm
          · exact absurd hm (error_ne_ok _ _ _)
          · cases pure_eq_ok.1 hm
            exact applyAlarm_actions hkeyed (fun he => hc ⟨happ, ms, hms, he ▸ htag⟩) hrun
      · exact absurd hm (error_ne_ok _ _ _)
  | upsert =>
    refine hrespond h fun m hm happ updated v hrun => ?_
    obtain ⟨_, _, _, _, _, _, _, rfl⟩ := upsertMutation_eq_ok hm
    exact applyUpsert_actions hkeyed hrun
  | toggle =>
    refine hrespond h fun m hm happ updated v hrun => ?_
    obtain ⟨_, rfl⟩ := toggleMutation_eq_ok hm
    exact applyToggle_actions hrun
  | acknowledge =>
    refine hrespond h fun m hm happ updated v hrun => ?_
    obtain ⟨_, -, rfl⟩ := acknowledgeMutation_eq_ok hm
    exact applyAcknowledge_actions hrun
  | _ => exact hquiet fun _ => id

/-! ## Snooze commands -/

/-- The call accepted the action: its child is new, and of an alarm that is enabled at the child's
revision. -/
def AppRow.Accepts (row row' : AppRow) (x : Action) : Prop :=
  row.occurrences.get? x.snoozeOccurrenceId = none ∧
    ∃ child, row'.Scheduled x.snoozeOccurrenceId child ∧ row.Owned child

theorem snooze_alarms {request : Json} {r : AlarmResult} (h : b.snooze row request = .ok (row', r)) :
    row'.alarms = row.alarms := by
  rcases snooze_eq_ok h with ⟨key, x, -, rfl⟩ | ⟨parentId, actionId, received, duration, -, -, -, h⟩
  · rfl
  · obtain ⟨parent, a, due, -, -, -, -, -, -, -, rfl⟩ := snoozeNew_eq_ok h
    rfl

theorem snooze_accepts {request : Json} {r : AlarmResult} (hk : row.Keyed)
    (h : b.snooze row request = .ok (row', r)) {k : String} {x : Action}
    (hnone : row.actions.get? k = none) (hx : row'.actions.get? k = some x) : row.Accepts row' x := by
  rcases snooze_eq_ok h with ⟨key, x₀, hx₀, rfl⟩ |
    ⟨parentId, actionId, received, duration, -, -, -, h⟩
  · have hx : (row.actions.set _ _).get? k = some x := hx
    rw [Dict.get?_set] at hx
    split at hx
    · rename_i hkey
      rw [hkey, hx₀] at hnone
      cases hnone
    · rw [hnone] at hx
      cases hx
  · obtain ⟨parent, a, due, hp, -, ha, hen, hrev, -, hnew, rfl⟩ := snoozeNew_eq_ok h
    have hx : (row.actions.set _ _).get? k = some x := hx
    rw [Dict.get?_set] at hx
    split at hx
    · cases hx
      refine ⟨hnew, _, ⟨Dict.get?_set_self _ _ _, rfl⟩, a, ?_, hen, rfl⟩
      show row.alarms.get? a.alarmId = some a
      rw [hk.alarms ha, ha]
    · rw [hnone] at hx
      cases hx

/-- Snoozing leaves the alarms alone, whatever comes of it. -/
theorem perform_snooze {c : Call} {a : String} (hk : l.Keyed) (hc : c.IsAlarm a "alarm-snooze")
    (h : b.perform l c = .ok (l', reply)) (hrow : l.apps.get? app = some row)
    (hrow' : l'.apps.get? app = some row') :
    row'.alarms = row.alarms ∧ ∀ k x, row.actions.get? k = none → row'.actions.get? k = some x →
      row.Accepts row' x := by
  cases c with
  | command a' command key nowUtc generation hostAction =>
    obtain ⟨-, ms, hms, htag⟩ := hc
    unfold Backend.perform at h
    dsimp only at h
    rw [isStatus_of_tag hms htag (by decide)] at h
    rcases respond_row h hrow hrow' with rfl | ⟨m, _, _, _, _, r, hm, -, hmutate⟩
    · refine ⟨rfl, fun k x hnone hx => ?_⟩
      rw [hnone] at hx
      cases hx
    · rcases mutateRow_eq_ok hmutate with ⟨hf, -⟩ | ⟨updated, v, hrun, -, rfl⟩
      · exact ⟨hf.alarms, fun k x hnone hx =>
          absurd hx (AppRow.KeepsActions.new hf.actions hnone)⟩
      · obtain ⟨value, now, hcb⟩ := alarmMutation_tag hms htag hm
        rw [hcb, Backend.applyAlarm, if_neg (by decide), if_pos rfl] at hrun
        obtain ⟨⟨row₁, r⟩, hsnooze, hrun⟩ := bind_eq_ok.1 hrun
        cases pure_eq_ok.1 hrun
        have halarms := snooze_alarms hsnooze
        refine ⟨halarms, fun k x hnone hx => ?_⟩
        exact snooze_accepts (hk hrow) hsnooze hnone hx
  | _ => exact hc.elim

end

/-! ## What withdraws a schedule -/

/-- What is scheduled or cancelled stays as it is, or is cancelled. -/
def AppRow.Withdraws (row row' : AppRow) : Prop :=
  ∀ oid o, row.occurrences.get? oid = some o → o.state = .scheduled ∨ o.state = .cancelled →
    row'.occurrences.get? oid = some o ∨
      row'.occurrences.get? oid = some { o with state := .cancelled }

/-- What was scheduled of the alarm is cancelled. -/
def AppRow.Cancels (row row' : AppRow) (key : String) : Prop :=
  ∀ oid o, row.Scheduled oid o → o.alarmId = key →
    row'.occurrences.get? oid = some { o with state := .cancelled }

section

variable {b : Backend} {app : String} {row row' : AppRow}

theorem AppRow.Withdraws.refl (row : AppRow) : row.Withdraws row := fun _ _ ho _ => .inl ho

theorem AppRow.Withdraws.trans {r s t : AppRow} (h₁ : r.Withdraws s) (h₂ : s.Withdraws t) :
    r.Withdraws t := by
  intro oid o ho hs
  rcases h₁ oid o ho hs with ho₁ | ho₁
  · exact h₂ oid o ho₁ hs
  · exact .inr ((h₂ oid _ ho₁ (.inr rfl)).elim id id)

theorem withdraws_cancelScheduled (id : String) : row.Withdraws (row.cancelScheduled id) := by
  intro oid o ho _
  rw [get?_cancelScheduled, ho, Option.map_some]
  split
  · exact .inr rfl
  · exact .inl rfl

theorem withdraws_superseded (id : String) : row.Withdraws (row.superseded id) := by
  unfold AppRow.superseded
  split
  · exact withdraws_cancelScheduled id
  · exact .refl row

theorem withdraws_set_of_new {k : String} {o₁ : Occurrence} (hnew : row.occurrences.get? k = none)
    (hocc : row'.occurrences = row.occurrences.set k o₁) : row.Withdraws row' := by
  intro oid o ho _
  refine .inl ?_
  rw [hocc, Dict.get?_set_ne _ ?_, ho]
  intro hoid
  rw [hoid, hnew] at ho
  cases ho

theorem withdraws_set_of_fired {k : String} {o₀ : Occurrence} (o₁ : Occurrence)
    (h₀ : row.occurrences.get? k = some o₀) (hf : o₀.state.isFired)
    (hocc : row'.occurrences = row.occurrences.set k o₁) : row.Withdraws row' := by
  intro oid o ho hs
  refine .inl ?_
  rw [hocc, Dict.get?_set_ne _ ?_, ho]
  intro hoid
  rw [hoid, h₀] at ho
  cases ho
  exact hs.elim hf.1 hf.2

/-- Only the slot that is taken up can fire. -/
theorem RowStep.withdraws {act : Act} (hs : RowStep b app act row row') (hm : row.Matched)
    (hact : ∀ oid, act ≠ .slot oid) : row.Withdraws row' := by
  cases hs with
  | disable => exact withdraws_cancelScheduled _
  | @install _ id schedule notification c slot now _ _ _ hnew =>
    exact (withdraws_superseded id).trans
      (withdraws_set_of_new (get?_superseded_of_none hnew) rfl)
  | enable _ _ _ _ hnew => exact withdraws_set_of_new hnew rfl
  | snooze _ _ _ _ _ _ _ _ _ hnew => exact withdraws_set_of_new hnew rfl
  | cancelSlot => exact absurd rfl (hact _)
  | fireSlot => exact absurd rfl (hact _)
  | @effect _ key act e e' occ s he ho hstep =>
    cases s with
    | none => exact .refl row
    | some s =>
      obtain ⟨-, o, ho', hstate⟩ := hm.effect he
      rw [Option.some.inj (ho'.symm.trans ho)] at hstate
      have hf : occ.state.isFired := by
        constructor <;> (intro hc; rw [hc] at hstate; cases hstate)
      exact withdraws_set_of_fired { occ with state := s } (hstep.ids.2 ▸ ho) hf rfl
  | @acked _ key act e e' occ he ho hstep =>
    by_cases hg : occ.state = .guestPending
    · have hf : occ.state.isFired := ⟨by rw [hg]; decide, by rw [hg]; decide⟩
      refine withdraws_set_of_fired { occ with state := .guestAcked } (hstep.ids.2 ▸ ho) hf ?_
      simp [AppRow.putAcked, hg]
    · intro oid o ho' _
      refine .inl ?_
      simpa [AppRow.putAcked, hg] using ho'
  | _ => exact .refl _

/-- Taking up a slot changes no alarm's settings. -/
theorem RowStep.slot_settings {oid : String} (hs : RowStep b app (.slot oid) row row') (key : String) :
    (row'.alarms.get? key).map Alarm.settings = (row.alarms.get? key).map Alarm.settings := by
  have hset : ∀ {k : String} {a a' : Alarm}, row.alarms.get? k = some a → a'.settings = a.settings →
      ((row.alarms.set k a').get? key).map Alarm.settings =
        (row.alarms.get? key).map Alarm.settings := by
    intro k a a' ha hsame
    rw [Dict.get?_set]
    split
    · rename_i hkey
      rw [hkey, ha, Option.map_some, Option.map_some, hsame]
    · rfl
  cases hs with
  | cancelSlot _ _ ha =>
    unfold AppRow.cancelSlot
    dsimp only
    split
    · exact hset ha rfl
    · rfl
  | fireSlot _ _ _ ha _ hf =>
    obtain ⟨adapterId, ⟨-, rfl⟩ | ⟨-, -, rfl⟩ | ⟨-, -, slot, -, -, rfl⟩⟩ := fireSlot_eq_ok hf
    · rfl
    · exact hset ha rfl
    · exact hset ha rfl

/-- Nothing scheduled is left of an alarm that is disabled or has another revision. -/
theorem AppRow.Withdraws.cancels (h : row.Withdraws row') (hcur : row.Current) (hcur' : row'.Current)
    {key : String} {a a' : Alarm} (ha : row.alarms.get? key = some a)
    (ha' : row'.alarms.get? key = some a')
    (hchange : a'.revision ≠ a.revision ∨ a'.enabled = false) : row.Cancels row' key := by
  intro oid o ho hkey
  rcases h oid o ho.1 (.inl ho.2) with ho' | ho'
  · obtain ⟨a₀, ha₀, -, hrev⟩ := hcur.owned oid o ho
    obtain ⟨a₁, ha₁, hen, hrev'⟩ := hcur'.owned oid o ⟨ho', ho.2⟩
    rw [hkey, ha] at ha₀
    rw [hkey, ha'] at ha₁
    cases ha₀
    cases ha₁
    rcases hchange with hne | hdis
    · exact absurd (hrev'.trans hrev.symm) hne
    · exact absurd (hen.symm.trans hdis) (by decide)
  · exact ho'

/-- Nothing is scheduled of an alarm that was disabled. -/
theorem AppRow.Current.cancels (hcur : row.Current) {key : String} {a : Alarm}
    (ha : row.alarms.get? key = some a) (hdis : a.enabled = false) (row' : AppRow) :
    row.Cancels row' key := by
  intro oid o ho hkey
  obtain ⟨a₀, ha₀, hen, -⟩ := hcur.owned oid o ho
  rw [hkey, ha] at ha₀
  cases ha₀
  exact absurd (hen.symm.trans hdis) (by decide)

/-- A call after which an alarm is disabled or has another revision cancelled what was scheduled
of it. -/
theorem step_cancels {l : Ledger} {c : Call} (hl : Reachable l) (hrow : l.apps.get? app = some row)
    (hrow' : (b.step l c).apps.get? app = some row') {key : String} {a a' : Alarm}
    (ha : row.alarms.get? key = some a) (ha' : row'.alarms.get? key = some a')
    (hchange : a'.revision ≠ a.revision ∨ a'.enabled = false) : row.Cancels row' key := by
  have hcur := hl.current hrow
  have hcur' := (hl.step b c).current hrow'
  rcases step_cases b l c hl.keyed with hsame | ⟨r, -, hr⟩
  · rw [hsame, hrow] at hrow'
    cases hrow'
    exact (AppRow.Withdraws.refl row).cancels hcur hcur ha ha' hchange
  · obtain ⟨row₀, as, hrow₀, has, hsteps, -⟩ := hr.rows app row' hrow'
    have hrow₀ : row₀ = row := by
      rcases hrow₀ with hrow₀ | ⟨hnone, -⟩
      · exact Option.some.inj (hrow₀.symm.trans hrow)
      · rw [hrow] at hnone
        cases hnone
    subst hrow₀
    by_cases hslot : ∃ oid, Act.slot oid ∈ as
    · -- a slot is only taken up by `advance_due`, which changes no settings
      obtain ⟨oid, hmem⟩ := hslot
      have hsettings : (row'.alarms.get? key).map Alarm.settings =
          (row₀.alarms.get? key).map Alarm.settings := by
        refine hsteps.rel (Q := fun r r' : AppRow => (r'.alarms.get? key).map Alarm.settings =
          (r.alarms.get? key).map Alarm.settings) (P := fun _ => True) (fun _ => rfl)
          (fun h₁ h₂ => h₂.trans h₁) trivial fun {act r r'} hact hs _ => ⟨trivial, ?_⟩
        have hadvance := has _ hmem
        have hallow := has act hact
        cases c with
        | advanceDue =>
          cases act with
          | slot => exact hs.slot_settings key
          | _ => exact hallow.elim
        | _ => exact hadvance.elim
      rw [ha, ha', Option.map_some, Option.map_some] at hsettings
      have hsettings := Option.some.inj hsettings
      have hen : a'.enabled = a.enabled := by
        show a'.settings.enabled = a.settings.enabled
        rw [hsettings]
      rcases hchange with hne | hdis
      · exact absurd (revision_of_settings hsettings) hne
      · exact hcur.cancels ha (hen.symm.trans hdis) row'
    · have hwithdraws : row₀.Withdraws row' := by
        refine hsteps.rel (P := AppRow.Matched) AppRow.Withdraws.refl AppRow.Withdraws.trans
          (hl.matched hrow) fun {act _ _} hact hs hm => ⟨hs.matched hm, hs.withdraws hm ?_⟩
        rintro oid rfl
        exact hslot ⟨oid, hact⟩
      exact hwithdraws.cancels hcur hcur' ha ha' hchange

/-! ## Edits, disables and cancels -/

/-- The tags of the commands that edit, disable or cancel an alarm. -/
def retiringTags : List String := ["alarm-configure", "alarm-disable", "alarm-cancel"]

/-- The alarm is disabled, or has a higher revision than it had. -/
def AppRow.Retires (row row' : AppRow) (key : String) : Prop :=
  ∃ a', row'.alarms.get? key = some a' ∧
    (a'.enabled = false ∨ ∀ a, row.alarms.get? key = some a → a.revision < a'.revision)

theorem configure_retires {request : Json} {now : Instant} {c : Config} {r : AlarmResult}
    (h : b.configure row request now c = .ok (row', r)) : row.Retires row' r.alarmId := by
  obtain ⟨ms, -, h⟩ := bind_eq_ok.1 h
  obtain ⟨id, -, h⟩ := bind_eq_ok.1 h
  obtain ⟨schedule, -, h⟩ := bind_eq_ok.1 h
  obtain ⟨notification, -, h⟩ := bind_eq_ok.1 h
  obtain ⟨expected, -, h⟩ := bind_eq_ok.1 h
  obtain ⟨-, -, h⟩ := bind_eq_ok.1 h
  split at h
  · exact absurd h (error_ne_ok _ _ _)
  · obtain ⟨slot?, -, h⟩ := bind_eq_ok.1 h
    cases slot? with
    | none => exact absurd h (error_ne_ok _ _ _)
    | some slot =>
      obtain ⟨n, hn, h⟩ := bind_eq_ok.1 h
      obtain ⟨⟨row₁, a₁, oid⟩, hm, h⟩ := bind_eq_ok.1 h
      obtain ⟨-, -, halarm, -⟩ := materializeAs_eq_ok hm
      cases pure_eq_ok.1 h
      subst halarm
      refine ⟨_, Dict.get?_set_self _ _ _, .inr fun a ha => ?_⟩
      have ha : row.alarms.get? id = some a := ha
      show a.revision < n
      rw [revisionAfter_eq_ok hn, AppRow.nextRevision, ha]
      exact Nat.lt_succ_self _

theorem toggle_retires {request : Json} {now : Instant} {r : AlarmResult} (hk : row.Keyed)
    (h : b.toggle row request now false = .ok (row', r)) : row.Retires row' r.alarmId := by
  obtain ⟨ms, -, h⟩ := bind_eq_ok.1 h
  obtain ⟨⟨key, a⟩, ha, h⟩ := bind_eq_ok.1 h
  replace ha := alarmOf_eq_ok ha
  have hid := hk.alarms ha
  obtain ⟨expected, -, h⟩ := bind_eq_ok.1 h
  obtain ⟨-, -, h⟩ := bind_eq_ok.1 h
  obtain ⟨⟨row₁, a₁, o⟩, ht, h⟩ := bind_eq_ok.1 h
  cases pure_eq_ok.1 h
  have ht : disable row a = .ok (row₁, a₁, o) := ht
  rcases disable_eq_ok ht with ⟨hdis, rfl, rfl⟩ | ⟨-, rfl, rfl⟩
  · refine ⟨a₁, ?_, .inl hdis⟩
    show (row₁.alarms.set key a₁).get? a₁.alarmId = some a₁
    rw [hid, Dict.get?_set_self]
  · refine ⟨a.disabled, ?_, .inl rfl⟩
    show (row.alarms.set key a.disabled).get? a.alarmId = some a.disabled
    rw [hid, Dict.get?_set_self]

theorem applyAlarm_retires {tag : String} (htag : tag ∈ retiringTags) {value : Json}
    {now : Instant} {r : AlarmResult} (hk : row.Keyed)
    (h : b.applyAlarm tag value now row = .ok (row', .result r)) : row.Retires row' r.alarmId := by
  unfold Backend.applyAlarm at h
  split at h
  · obtain ⟨⟨row₁, r₁⟩, hc, h⟩ := bind_eq_ok.1 h
    cases pure_eq_ok.1 h
    exact configure_retires hc
  · rename_i hconfigure
    have hoff : tag ≠ "alarm-snooze" ∧ tag ≠ "alarm-enable" := by
      simp only [retiringTags, List.mem_cons, List.not_mem_nil, or_false] at htag
      rcases htag with rfl | rfl | rfl <;> decide
    rw [if_neg hoff.1] at h
    obtain ⟨⟨row₁, r₁⟩, hc, h⟩ := bind_eq_ok.1 h
    rw [decide_eq_false hoff.2] at hc
    cases pure_eq_ok.1 h
    exact toggle_retires hk hc

/-- A mutating call that succeeds carried its mutation out, or replayed it. -/
theorem respond_ok {l l' : Ledger} {m : Py Mutation} {v : Value}
    (h : b.respond l m = .ok (l', .response (.ok v))) :
    ∃ m₀, m = .ok m₀ ∧ b.mutatingCall l m₀ = .ok (l', .ok v) := by
  obtain ⟨⟨l₁, response⟩, hc, h⟩ := bind_eq_ok.1 h
  cases pure_eq_ok.1 h
  unfold caught at hc
  split at hc
  · cases hc
  · exact bind_eq_ok.1 hc

/-- An edit, disable or cancel command that was carried out. -/
theorem perform_retires {l l' : Ledger} {c : Call} {tag : String} {r : AlarmResult} (hk : l.Keyed)
    (hc : c.IsAlarm app tag) (htag : tag ∈ retiringTags)
    (h : b.perform l c = .ok (l', .response (.ok (.result r)))) (hr : r.deduplicated = false)
    (hrow : l.apps.get? app = some row) (hrow' : l'.apps.get? app = some row') :
    row.Retires row' r.alarmId := by
  cases c with
  | command a command key nowUtc generation hostAction =>
    obtain ⟨rfl, ms, hms, hfield⟩ := hc
    have hne : tag ≠ "alarm-status" := by
      rintro rfl
      revert htag
      decide
    unfold Backend.perform at h
    dsimp only at h
    rw [isStatus_of_tag hms hfield hne] at h
    obtain ⟨m, hm, hcall⟩ := respond_ok h
    obtain ⟨value, now, hcb⟩ := alarmMutation_tag hms hfield hm
    have happ : m.app = a := by
      obtain ⟨_, _, _, -, rfl⟩ := alarmMutation_eq_ok hm
      rfl
    obtain ⟨payload, _, _, row₁, row₁', -, -, -, hrow₁, hmutate, rfl⟩ := mutatingCall_eq_ok hcall
    rw [happ, hrow] at hrow₁
    cases hrow₁
    rw [happ, get?_setApp, if_pos rfl] at hrow'
    cases hrow'
    rcases mutateRow_eq_ok hmutate with ⟨-, hdedup⟩ | ⟨updated, v, hrun, hv, rfl⟩
    · exact absurd (hr.symm.trans (hdedup r rfl)) (by decide)
    · cases hv
      rw [hcb] at hrun
      have hretires := applyAlarm_retires htag (hk hrow) hrun
      exact hretires
  | _ => exact hc.elim

end

/-! ## The law -/

/-- What a call leaves of the snoozes of a row of the app. -/
structure SnoozeStep (app : String) (c : Call) (row row' : AppRow) : Prop where
  /-- An action stays, but for its mark. -/
  kept : row.actions.Le Action.Le row'.actions
  accepted : ∀ k x, row.actions.get? k = none → row'.actions.get? k = some x →
    c.IsAlarm app "alarm-snooze" ∧ row.Accepts row' x
  /-- First, replayed or refused, under any key, of any app. -/
  alarms : ∀ a, c.IsAlarm a "alarm-snooze" → row'.alarms = row.alarms
  cancels : ∀ key a a', row.alarms.get? key = some a → row'.alarms.get? key = some a' →
    a'.revision ≠ a.revision ∨ a'.enabled = false → row.Cancels row' key

section

variable {app : String} {row row' : AppRow}

theorem SnoozeStep.refl (c : Call) (hcur : row.Current) : SnoozeStep app c row row where
  kept := .refl .refl _
  accepted k x hnone hx := by
    rw [hnone] at hx
    cases hx
  alarms _ _ := rfl
  cancels _ _ _ ha ha' hchange :=
    (AppRow.Withdraws.refl row).cancels hcur hcur ha ha' hchange

theorem snoozeStep {l : Ledger} (h : Reachable l) (b : Backend) (c : Call)
    (hrow : l.apps.get? app = some row) (hrow' : (b.step l c).apps.get? app = some row') :
    SnoozeStep app c row row' := by
  rcases step_cases b l c h.keyed with hsame | ⟨r, hperform, hr⟩
  · rw [hsame, hrow] at hrow'
    cases hrow'
    exact .refl c (h.current hrow)
  · constructor
    · obtain ⟨row₁, hrow₁, hgrows⟩ := after_grows h [(b, c)] hrow
      cases hrow₁.symm.trans hrow'
      exact hgrows.actions
    · intro k x hnone hx
      by_cases hc : c.IsAlarm app "alarm-snooze"
      · exact ⟨hc, (perform_snooze h.keyed hc hperform hrow hrow').2 k x hnone hx⟩
      · exact absurd hx ((perform_keepsActions h.keyed hc hperform hrow hrow').new hnone)
    · intro a hc
      exact (perform_snooze h.keyed hc hperform hrow hrow').1
    · intro key a a' ha ha' hchange
      exact step_cancels h hrow hrow' ha ha' hchange

/-- **Snoozes.** In every reachable ledger the children and the accepted actions of a row are one
to one and what is scheduled is of an enabled alarm at its revision. Every call keeps to
`SnoozeStep`, and an edit, disable or cancel command that is carried out cancels what is scheduled
of its alarm. -/
theorem snooze_law {l : Ledger} (h : Reachable l) (hrow : l.apps.get? app = some row) :
    row.Snoozes ∧ (∀ oid o, row.Scheduled oid o → row.Owned o) ∧
    ∀ b c, ∃ row', (Backend.step b l c).apps.get? app = some row' ∧ SnoozeStep app c row row' ∧
      ∀ tag ∈ retiringTags, c.IsAlarm app tag →
        ∀ l' r, b.perform l c = .ok (l', .response (.ok (.result r))) → r.deduplicated = false →
          row.Cancels row' r.alarmId := by
  refine ⟨h.snoozes hrow, (h.current hrow).owned, fun b c => ?_⟩
  obtain ⟨row', hrow', -⟩ := after_grows h [(b, c)] hrow
  refine ⟨row', hrow', snoozeStep h b c hrow hrow', fun tag htag hc l' r hperform hr => ?_⟩
  have hl' : b.step l c = l' := by
    rw [Backend.step, hperform]
  have hrow₁ : l'.apps.get? app = some row' := hl' ▸ hrow'
  obtain ⟨a', ha', hretires⟩ := perform_retires h.keyed hc htag hperform hr hrow hrow₁
  intro oid o ho hkey
  obtain ⟨a, ha, -, -⟩ := (h.current hrow).owned oid o ho
  rw [hkey] at ha
  refine step_cancels h hrow hrow' ha ha' ?_ oid o ho hkey
  rcases hretires with hdis | hlt
  · exact .inr hdis
  · exact .inl (Nat.ne_of_gt (hlt a ha))

end

/-! ### A sample snooze

The notification of the sample run is delivered, and snoozed for five minutes. -/

/-- A snooze of the sample run's notification. -/
def sampleSnooze (action key : String) : Input :=
  (.sample, .command "clock" (.obj [("tag", .str "alarm-snooze"), ("value", .obj
    [("parent_occurrence_id", .str "occ:wake:r1:2024-01-01T07:00:00Z"), ("os_action_id", .str action),
      ("action_received_at_utc", .str "2024-01-01T07:00:05Z"), ("duration_seconds", natJson 300)])])
    (.str key) "2024-01-01T07:00:05Z" none true)

def snoozeRun : List Input := sampleRun ++
  [(.sample, .claimNotification "clock" "d1" "2024-01-01T07:00:00Z"),
    (.sample, .finishNotification "clock" (notifyId "occ:wake:r1:2024-01-01T07:00:00Z") ""
      "accepted" "2024-01-01T07:00:01Z"),
    sampleSnooze "a1" "k2"]

set_option maxRecDepth 100000 in
def snoozedRow : AppRow := ((after .empty snoozeRun).apps.get? "clock").get (by decide +kernel)

theorem snooze_law_sample :
    snoozedRow.actions.keys = ["action:a1"] ∧ snoozedRow.Snoozes ∧
      ∀ oid o, snoozedRow.Scheduled oid o → snoozedRow.Owned o :=
  have h := snooze_law ⟨snoozeRun, rfl⟩ (Option.some_get (by decide +kernel)).symm
  ⟨by decide +kernel, h.1, h.2.1⟩

end Vibapp.Scheduler
