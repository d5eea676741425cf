import Vibapp.Scheduler.Failures
import Vibapp.Scheduler.Recurrence

/-!
# Actions and the children they make

**Invariant** (`AppRow.Snoozes`). The snoozed occurrences of a row and its accepted actions are one
to one: every child was made by one action, is due that action's duration after the action was
received, and has the alarm and the revision of the action's parent. A transition that adds no
action adds no child (`RowStep.child_of_same`), so every transition keeps it (`RowStep.snoozes`).

**Callbacks.** Of the mutating calls only a snooze adds an action; what the others do to the
actions of a row is at most a mark.
-/

namespace Vibapp.Scheduler

/-! ## Actions and their children -/

/-- The child of an action: due its duration after the action was received, and of its parent's
alarm and revision. -/
structure Action.Child (x : Action) (parent child : Occurrence) : Prop where
  made : child.parentOccurrenceId = some x.parentOccurrenceId
  due : x.actionReceivedAtUtc.add? x.durationSeconds = some child.dueAtUtc
  alarm : child.alarmId = parent.alarmId
  revision : child.revision = parent.revision

/-- The row holds the child of the action, and its parent. -/
def AppRow.HasChild (row : AppRow) (x : Action) : Prop :=
  ∃ parent child, row.occurrences.get? x.parentOccurrenceId = some parent ∧
    row.occurrences.get? x.snoozeOccurrenceId = some child ∧ x.Child parent child

/-- The children of a row are those of its actions, one each. -/
structure AppRow.Snoozes (row : AppRow) : Prop where
  keyed : row.actions.All fun k x => k = "action:" ++ x.osActionId
  child : row.actions.All fun _ x => row.HasChild x
  distinct : ∀ k k' x x', row.actions.get? k = some x → row.actions.get? k' = some x' →
    x.snoozeOccurrenceId = x'.snoozeOccurrenceId → k = k'
  origin : ∀ oid o p, row.occurrences.get? oid = some o → o.parentOccurrenceId = some p →
    ∃ k x, row.actions.get? k = some x ∧ x.snoozeOccurrenceId = oid

theorem snoozes_new (c : Context) : (AppRow.new c).Snoozes where
  keyed := Dict.all_empty
  child := Dict.all_empty
  distinct _ _ _ _ h := absurd h (by simp [AppRow.new])
  origin _ _ _ h := absurd h (by simp [AppRow.new])

/-- What a transition does to the actions: nothing, a mark, or a new one with its child. -/
inductive ActionStep (b : Backend) (row row' : AppRow) : Prop
  | same (h : row'.actions = row.actions)
  | mark {key : String} {x : Action} (hx : row.actions.get? key = some x)
      (h : row' = { row with actions := row.actions.set key { x with deduplicated := true } })
  | snooze {parentId actionId : String} {received due : Instant} {duration : Int}
      {parent : Occurrence} {a : Alarm} (hact : row.actions.get? ("action:" ++ actionId) = none)
      (hp : row.occurrences.get? parentId = some parent)
      (ha : row.alarms.get? parent.alarmId = some a) (hrev : parent.revision = a.revision)
      (hdue : received.add? duration = some due)
      (hnew : row.occurrences.get? (snoozeId parentId (1 + row.snoozeCount parentId)) = none)
      (h : row' = b.snoozed row parentId actionId received due duration a)

section

variable {b : Backend} {app : String} {row row' : AppRow}

theorem superseded_actions (row : AppRow) (id : String) :
    (row.superseded id).actions = row.actions := by
  unfold AppRow.superseded
  split <;> rfl

theorem cancelSlot_actions (oid : String) (occ : Occurrence) (a : Alarm) :
    (row.cancelSlot oid occ a).actions = row.actions := by
  unfold AppRow.cancelSlot
  dsimp only
  split <;> rfl

/-- Only a command changes the actions. -/
theorem RowStep.actions_eq {act : Act} (hs : RowStep b app act row row') (hact : act ≠ .command) :
    row'.actions = row.actions := by
  cases hs with
  | cancelSlot => exact cancelSlot_actions _ _ _
  | fireSlot _ _ _ _ _ hf =>
    obtain ⟨adapterId, ⟨-, rfl⟩ | ⟨-, -, rfl⟩ | ⟨-, -, slot, -, -, rfl⟩⟩ := fireSlot_eq_ok hf <;> rfl
  | disable => exact absurd rfl hact
  | install => exact absurd rfl hact
  | enable => exact absurd rfl hact
  | snooze => exact absurd rfl hact
  | dedup => exact absurd rfl hact
  | _ => rfl

theorem RowStep.actionStep {act : Act} (hs : RowStep b app act row row') :
    ActionStep b row row' := by
  by_cases hact : act = .command
  · cases hs with
    | disable => exact .same rfl
    | install => exact .same (superseded_actions _ _)
    | enable => exact .same rfl
    | snooze _ hnone hp _ ha _ hrev _ hdue hnew => exact .snooze hnone hp ha hrev hdue hnew rfl
    | dedup hx => exact .mark hx rfl
    | _ => cases hact
  · exact .same (hs.actions_eq hact)

/-- Occurrences keep what they were created with. -/
theorem Occurrence.Le.eqs {o o' : Occurrence} (h : o.Le o') :
    o'.alarmId = o.alarmId ∧ o'.revision = o.revision ∧ o'.dueAtUtc = o.dueAtUtc ∧
      o'.parentOccurrenceId = o.parentOccurrenceId := by
  obtain ⟨halarm, hrev, hdue, -, hparent⟩ := created_eq h.created
  exact ⟨halarm, hrev, hdue, hparent⟩

theorem Action.Child.mono {x : Action} {p p' o o' : Occurrence} (h : x.Child p o) (hp : p.Le p')
    (ho : o.Le o') : x.Child p' o' where
  made := ho.eqs.2.2.2.trans h.made
  due := by rw [ho.eqs.2.2.1, h.due]
  alarm := by rw [ho.eqs.1, h.alarm, hp.eqs.1]
  revision := by rw [ho.eqs.2.1, h.revision, hp.eqs.2.1]

/-- What an action made stays what it made. -/
theorem AppRow.HasChild.mono {x : Action} (h : row.HasChild x)
    (hle : row.occurrences.Le Occurrence.Le row'.occurrences) : row'.HasChild x := by
  obtain ⟨parent, child, hp, ho, hc⟩ := h
  obtain ⟨parent', hp', hple⟩ := hle hp
  obtain ⟨child', ho', hole⟩ := hle ho
  exact ⟨parent', child', hp', ho', hc.mono hple hole⟩

/-- A transition that changes no action makes no child. -/
theorem RowStep.child_of_same {act : Act} (hs : RowStep b app act row row') (hk : row.Keyed)
    (hsame : row'.actions = row.actions) {oid p : String} {o' : Occurrence}
    (ho' : row'.occurrences.get? oid = some o') (hp : o'.parentOccurrenceId = some p) :
    ∃ o, row.occurrences.get? oid = some o ∧ o.parentOccurrenceId = some p := by
  have hbirth' : row'.births.get? oid = some o'.created := by rw [get?_births, ho']; rfl
  have hold : row.births.get? oid = some o'.created →
      ∃ o, row.occurrences.get? oid = some o ∧ o.parentOccurrenceId = some p := by
    intro hb
    rw [get?_births] at hb
    obtain ⟨o, ho, hc⟩ := Option.map_eq_some_iff.1 hb
    exact ⟨o, ho, (created_eq hc).2.2.2.2.trans hp⟩
  rcases hs.bears hk with heq | ⟨o, -, heq, hbirth⟩
  · exact hold (heq ▸ hbirth')
  · rw [heq, Dict.get?_set] at hbirth'
    split at hbirth'
    · have hparent : o.parentOccurrenceId = some p := by
        rw [Option.some.inj hbirth']
        exact hp
      cases hbirth with
      | first => cases hparent
      | next => cases hparent
      | snooze _ hcount =>
        unfold AppRow.snoozeCount at hcount
        rw [hsame] at hcount
        omega
    · exact hold hbirth'

/-- **Children.** Every transition keeps the children and the actions in step. -/
theorem RowStep.snoozes {act : Act} (hs : RowStep b app act row row') (hk : row.Keyed)
    (hm : row.Matched) (h : row.Snoozes) : row'.Snoozes := by
  have hle := (hs.grows hm).occurrences
  cases hs.actionStep with
  | same hsame =>
    constructor
    · rw [hsame]
      exact h.keyed
    · rw [hsame]
      exact h.child.mono fun _ _ hc => hc.mono hle
    · rw [hsame]
      exact h.distinct
    · intro oid o p ho hp
      obtain ⟨o₀, ho₀, hp₀⟩ := hs.child_of_same hk hsame ho hp
      rw [hsame]
      exact h.origin oid o₀ p ho₀ hp₀
  | @mark key x hx hrow =>
    subst hrow
    have hold : ∀ k x', (row.actions.set key { x with deduplicated := true }).get? k = some x' →
        ∃ x₀, row.actions.get? k = some x₀ ∧ x₀.snoozeOccurrenceId = x'.snoozeOccurrenceId := by
      intro k x' hk'
      rw [Dict.get?_set] at hk'
      split at hk'
      · rename_i hkey
        cases hk'
        exact ⟨x, hkey ▸ hx, rfl⟩
      · exact ⟨x', hk', rfl⟩
    constructor
    · have hkey := h.keyed hx
      exact h.keyed.set hkey
    · obtain ⟨p, o, hp, ho, hc⟩ := h.child hx
      exact h.child.set ⟨p, o, hp, ho, hc.made, hc.due, hc.alarm, hc.revision⟩
    · intro k k' x₁ x₂ h₁ h₂ hid
      obtain ⟨y₁, hy₁, he₁⟩ := hold k x₁ h₁
      obtain ⟨y₂, hy₂, he₂⟩ := hold k' x₂ h₂
      exact h.distinct k k' y₁ y₂ hy₁ hy₂ (he₁.trans (hid.trans he₂.symm))
    · intro oid o p ho hp
      obtain ⟨k, y, hy, hid⟩ := h.origin oid o p ho hp
      by_cases hkey : k = key
      · rw [hkey, hx] at hy
        cases hy
        exact ⟨key, _, Dict.get?_set_self _ _ _, hid⟩
      · exact ⟨k, y, by rw [Dict.get?_set_ne _ hkey, hy], hid⟩
  | @snooze parentId actionId received due duration parent a hnone hp ha hrev hdue hnew hrow =>
    subst hrow
    let o := b.newOccurrence a ⟨due, due.date⟩ (snoozeId parentId (1 + row.snoozeCount parentId))
      (some parentId)
    have hold : ∀ {x : Action}, row.HasChild x →
        x.snoozeOccurrenceId ≠ snoozeId parentId (1 + row.snoozeCount parentId) := by
      rintro x ⟨-, c, -, hc, -⟩ heq
      rw [heq, hnew] at hc
      cases hc
    have hparent : parentId ≠ snoozeId parentId (1 + row.snoozeCount parentId) := by
      intro heq
      rw [← heq, hp] at hnew
      cases hnew
    constructor
    · exact h.keyed.set rfl
    · refine Dict.All.set (h.child.mono fun _ _ hc => hc.mono hle) ⟨parent, o, ?_, ?_, ?_⟩
      · exact (Dict.get?_set_ne _ hparent _).trans hp
      · exact Dict.get?_set_self _ _ _
      · exact ⟨rfl, hdue, hk.alarms ha, hrev.symm⟩
    · intro k k' x x' hx hx' hid
      have hx : (row.actions.set _ _).get? k = some x := hx
      have hx' : (row.actions.set _ _).get? k' = some x' := hx'
      rw [Dict.get?_set] at hx hx'
      split at hx <;> split at hx'
      · rename_i hk₁ hk₂
        exact hk₁.trans hk₂.symm
      · cases hx
        exact absurd hid.symm (hold (h.child hx'))
      · cases hx'
        exact absurd hid (hold (h.child hx))
      · exact h.distinct k k' x x' hx hx' hid
    · intro oid o' p ho hpo
      have ho : (row.occurrences.set _ _).get? oid = some o' := ho
      rw [Dict.get?_set] at ho
      split at ho
      · rename_i hoid
        exact ⟨_, _, Dict.get?_set_self _ _ _, hoid.symm⟩
      · obtain ⟨k, x, hx, hid⟩ := h.origin oid o' p ho hpo
        refine ⟨k, x, (Dict.get?_set_ne _ ?_ _).trans hx, hid⟩
        intro hkey
        rw [hkey, hnone] at hx
        cases hx

theorem Reachable.snoozes {l : Ledger} (h : Reachable l) : l.apps.All fun _ row => row.Snoozes :=
  (h.row_invariant (P := fun _ row => row.Matched ∧ row.Snoozes)
    (fun _ c => ⟨matched_new c, snoozes_new c⟩)
    fun hs hk hi => ⟨hs.matched hi.1, hs.snoozes hk hi.1 hi.2⟩).mono fun _ _ hi => hi.2

end

/-! ## Calls that accept no action -/

/-- No action comes or goes, and only marks change. -/
def AppRow.KeepsActions (row row' : AppRow) : Prop :=
  ∀ k, (row'.actions.get? k).map Action.unmarked = (row.actions.get? k).map Action.unmarked

theorem keepsActions_of_eq {row row' : AppRow} (h : row'.actions = row.actions) :
    row.KeepsActions row' := by
  intro k
  rw [h]

theorem AppRow.KeepsActions.trans {r s t : AppRow} (h₁ : r.KeepsActions s) (h₂ : s.KeepsActions t) :
    r.KeepsActions t := fun k => (h₂ k).trans (h₁ k)

theorem AppRow.KeepsActions.new {row row' : AppRow} (h : row.KeepsActions row') {k : String}
    {x : Action} (hnone : row.actions.get? k = none) : row'.actions.get? k ≠ some x := by
  intro hx
  have hk := h k
  rw [hnone, hx] at hk
  cases hk

section

variable {b : Backend} {row row' : AppRow}

/-- A mutating call on the row runs its callback, or leaves a receipt or a mark. -/
theorem mutateRow_eq_ok {operation : String} {payload : List (String × Json)}
    {key fingerprint : String} {generation : Option String} {callback : AppRow → Py (AppRow × Value)}
    {hostAction : Bool} {r : Response}
    (h : b.mutateRow row operation payload key fingerprint generation callback hostAction =
      .ok (row', r)) :
    (FailedRow key row row' ∧ ∀ x, r = .ok (.result x) → x.deduplicated = true) ∨
    ∃ updated v, callback row = .ok (updated, v) ∧ r = .ok v ∧
      row' = updated.setReceipt key ⟨fingerprint, .ok v⟩ := by
  cases hr : r with
  | error e =>
    subst hr
    exact .inl ⟨failedRow_mutateRow h, fun x hx => (nomatch hx)⟩
  | ok v =>
    subst hr
    unfold Backend.mutateRow at h
    split at h
    · cases h
    · cases h
    · split at h
      · rename_i previous _
        unfold Backend.replay at h
        split at h
        · cases pure_eq_ok.1 h
        · obtain ⟨row₁, hmark, h⟩ := bind_eq_ok.1 h
          obtain ⟨rfl, hv⟩ := Prod.mk.inj (pure_eq_ok.1 h)
          refine .inl ⟨failedRow_markAction hmark, fun x hx => ?_⟩
          cases hx
          revert hv
          unfold Response.markDeduplicated
          split
          · intro hv
            cases hv
            rfl
          · rename_i hno
            exact fun hv => absurd hv (hno x)
      · unfold execute at h
        split at h
        · rename_i updated v' hcb
          cases pure_eq_ok.1 h
          exact .inr ⟨updated, v, hcb, rfl, rfl⟩
        · cases pure_eq_ok.1 h
        · cases h

/-- What a mutating call does to a row of the ledger: nothing, or what its mutation does. -/
theorem respond_row {l l' : Ledger} {m : Py Mutation} {reply : Reply} {app : String}
    (h : b.respond l m = .ok (l', reply)) (hrow : l.apps.get? app = some row)
    (hrow' : l'.apps.get? app = some row') :
    row' = row ∨ ∃ m₀ key fingerprint operation payload r, m = .ok m₀ ∧ m₀.app = app ∧
      b.mutateRow row operation payload key fingerprint m₀.generation m₀.callback m₀.hostAction =
        .ok (row', r) := by
  obtain ⟨r, rfl, rfl | ⟨m₀, hm, hcall⟩⟩ := respond_eq_ok h
  · exact .inl (Option.some.inj (hrow'.symm.trans hrow))
  · obtain ⟨payload, key, fingerprint, row₁, row₁', -, -, -, hrow₁, hmutate, rfl⟩ :=
      mutatingCall_eq_ok hcall
    rw [get?_setApp] at hrow'
    split at hrow'
    · rename_i happ
      cases hrow'
      rw [happ, hrow₁] at hrow
      cases hrow
      exact .inr ⟨m₀, _, fingerprint, _, payload, r, hm, happ.symm, hmutate⟩
    · exact .inl (Option.some.inj (hrow'.symm.trans hrow))

theorem configure_actions {request : Json} {now : Instant} {c : Config} {r : AlarmResult}
    (hk : row.Keyed) (h : b.configure row request now c = .ok (row', r)) :
    row'.actions = row.actions := by
  obtain ⟨id, schedule, notification, slot, -, -, -, rfl⟩ :=
    configure_eq_ok (fun k p hp => hk.alarms hp) h
  exact superseded_actions row id

theorem toggle_actions {request : Json} {now : Instant} {enable : Bool} {r : AlarmResult}
    (h : b.toggle row request now enable = .ok (row', r)) : row'.actions = row.actions := by
  rcases toggle_eq_ok h with rfl | ⟨key, a, -, ⟨-, rfl⟩ | ⟨-, slot, -, -, rfl⟩⟩ <;> rfl

theorem applyAlarm_actions {tag : String} {value : Json} {now : Instant} {v : Value}
    (hk : row.Keyed) (htag : tag ≠ "alarm-snooze")
    (h : b.applyAlarm tag value now row = .ok (row', v)) : row'.actions = row.actions := by
  unfold Backend.applyAlarm at h
  rw [if_neg htag] at h
  split at h
  · obtain ⟨⟨row₁, r⟩, hc, h⟩ := bind_eq_ok.1 h
    cases pure_eq_ok.1 h
    exact configure_actions hk hc
  · obtain ⟨⟨row₁, r⟩, hc, h⟩ := bind_eq_ok.1 h
    cases pure_eq_ok.1 h
    exact toggle_actions hc

theorem applyUpsert_actions {id : String} {schedule notification : Json} {c : Config}
    {now : Instant} {v : Value} (hk : row.Keyed)
    (h : b.applyUpsert id schedule notification c now row = .ok (row', v)) :
    row'.actions = row.actions := by
  obtain ⟨⟨row₁, r⟩, hc, h⟩ := bind_eq_ok.1 h
  obtain ⟨a, -, h⟩ := bind_eq_ok.1 h
  cases pure_eq_ok.1 h
  exact configure_actions hk hc

theorem applyToggle_actions {id : String} {now : Instant} {enable : Bool} {v : Value}
    (h : b.applyToggle id now enable row = .ok (row', v)) : row'.actions = row.actions := by
  unfold Backend.applyToggle at h
  split at h
  · exact absurd h (error_ne_ok _ _ _)
  · obtain ⟨⟨row₁, r⟩, hc, h⟩ := bind_eq_ok.1 h
    obtain ⟨a, -, h⟩ := bind_eq_ok.1 h
    cases pure_eq_ok.1 h
    exact toggle_actions hc

theorem applyAcknowledge_actions {occurrence generation token : String} {outcome : AckOutcome}
    {v : Value} (h : applyAcknowledge occurrence outcome generation token row = .ok (row', v)) :
    row'.actions = row.actions := by
  unfold applyAcknowledge at h
  dsimp only at h
  split at h
  · split at h
    · split at h
      · exact absurd h (error_ne_ok _ _ _)
      · cases h
        rfl
    · exact absurd h (error_ne_ok _ _ _)
  · exact absurd h (error_ne_ok _ _ _)

theorem hostAlarm_actions {c : Context} {key : String} (h : hostAlarm c row key = .ok row') :
    row'.actions = row.actions := by
  unfold hostAlarm at h
  split at h
  · cases h
    rfl
  · dsimp only at h
    split at h
    · obtain ⟨⟨row₁, a₁, o⟩, hd, h⟩ := bind_eq_ok.1 h
      cases pure_eq_ok.1 h
      rcases disable_eq_ok hd with ⟨-, rfl, -⟩ | ⟨-, rfl, -⟩ <;> rfl
    · cases h
      rfl

theorem hostRow_actions {c : Context} (h : hostRow c row = .ok row') :
    row'.actions = row.actions := by
  have h : row.alarms.keys.foldlM (hostAlarm c) { row with context := c } = .ok row' := h
  have hsame := foldlM_rel (R := fun r r' : AppRow => r'.actions = r.actions) (fun _ => rfl)
    (fun h₁ h₂ => h₂.trans h₁) hostAlarm_actions h
  exact hsame

end

end Vibapp.Scheduler
