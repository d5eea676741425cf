import Vibapp.Scheduler.Batches

/-!
# When an enabled alarm falls silent

An enabled recurring alarm names its one scheduled regular occurrence (`AppRow.Alive`), as long as
`advance_due` takes up no slot that strands it: a regular slot of a recurring alarm, in an app
whose scheduler permission has been withdrawn. Such a slot is cancelled and its alarm, still
enabled, is left without a next one; an `enable` of an enabled alarm is a no-op, so nothing arms
it again. Every other write keeps the alarms of its row ticking (`RowStep.ticking`).
-/

namespace Vibapp.Scheduler

/-! ## Alive rows -/

/-- The alarm names a next occurrence, which is its only scheduled regular one. -/
def AppRow.Armed (row : AppRow) (key : String) (a : Alarm) : Prop :=
  ∃ oid, a.nextOccurrenceId = some oid ∧ row.Pending key oid ∧
    ∀ oid', row.Pending key oid' → oid' = oid

/-- Every enabled recurring alarm is armed. -/
def AppRow.Alive (row : AppRow) : Prop :=
  ∀ key a, row.alarms.get? key = some a → a.enabled = true → a.schedule.isRecurring = true →
    row.Armed key a

/-- Every enabled recurring alarm of every app is armed. -/
def Ledger.Alive (l : Ledger) : Prop := l.apps.All fun _ row => row.Alive

/-- An enabled recurring alarm names a next occurrence. -/
def Alarm.Ticks (a : Alarm) : Prop :=
  a.enabled = true → a.schedule.isRecurring = true → a.nextOccurrenceId ≠ none

/-- Every alarm ticks. Of a current row this is all there is to being alive. -/
def AppRow.Ticking (row : AppRow) : Prop := row.alarms.All fun _ a => a.Ticks

theorem AppRow.Current.alive_iff {row : AppRow} (h : row.Current) : row.Alive ↔ row.Ticking := by
  constructor
  · intro halive key a ha hen hrec hnone
    obtain ⟨oid, hnext, -⟩ := halive key a ha hen hrec
    cases hnext.symm.trans hnone
  · intro hticks key a ha hen hrec
    rcases h.namesNext ha with harmed | ⟨hnone, -⟩
    · exact harmed
    · exact absurd hnone (hticks ha hen hrec)

theorem Ledger.Sound.alive_iff {l : Ledger} (h : l.Sound) :
    l.Alive ↔ l.apps.All fun _ row => row.Ticking :=
  ⟨fun ha _ _ hrow => (h hrow).current.alive_iff.1 (ha hrow),
    fun ht _ _ hrow => (h hrow).current.alive_iff.2 (ht hrow)⟩

/-! ## The slot that strands its alarm -/

/-- The slot is a regular one of a recurring alarm, and the app may not use the scheduler. -/
def AppRow.Strands (row : AppRow) (oid : String) : Prop :=
  row.context.schedulerGranted = false ∧ ∃ occ a, row.occurrences.get? oid = some occ ∧
    occ.parentOccurrenceId = none ∧ row.alarms.get? occ.alarmId = some a ∧
    a.schedule.isRecurring = true

/-- An enabled recurring alarm names no next occurrence. -/
def AppRow.Dead (row : AppRow) (key : String) : Prop :=
  ∃ a, row.alarms.get? key = some a ∧ a.enabled = true ∧ a.schedule.isRecurring = true ∧
    a.nextOccurrenceId = none

theorem AppRow.Dead.not_ticking {row : AppRow} {key : String} (h : row.Dead key) : ¬ row.Ticking := by
  obtain ⟨a, ha, hen, hrec, hnone⟩ := h
  exact fun ht => ht ha hen hrec hnone

section

variable {b : Backend} {app : String} {row row' : AppRow}

theorem cancelSlot_alarms (oid : String) (occ : Occurrence) (a : Alarm) :
    (row.cancelSlot oid occ a).alarms = if a.nextOccurrenceId = some oid then
      row.alarms.set occ.alarmId { a with nextOccurrenceId := none } else row.alarms := by
  unfold AppRow.cancelSlot
  dsimp only
  split <;> rfl

theorem superseded_alarms (id : String) : (row.superseded id).alarms = row.alarms := by
  unfold AppRow.superseded
  split <;> rfl

/-- A scheduled slot that is revoked, though its alarm is current and its app enabled or idle, is
so because the app lost its permission. -/
theorem not_granted_of_revoked (hcur : row.Current) (hidle : row.Idle) {oid : String}
    {occ : Occurrence} {a : Alarm} (ho : row.Scheduled oid occ)
    (ha : row.alarms.get? occ.alarmId = some a) (hr : revoked row a occ = true) :
    row.context.schedulerGranted = false := by
  obtain ⟨a', ha', hen, hrev⟩ := hcur.owned oid occ ho
  cases ha.symm.trans ha'
  have hctx : row.context.enabled = true := by
    by_contra hc
    exact absurd (hen.symm.trans (hidle (by simpa using hc) ha)) (by decide)
  simpa [revoked, hctx, hen, hrev] using hr

/-- **One write.** Every transition keeps the alarms ticking, unless it takes up a slot that
strands one. -/
theorem RowStep.ticking {act : Act} (hs : RowStep b app act row row') (hcur : row.Current)
    (hspared : ∀ oid, act = .slot oid → row.Idle ∧ ¬ row.Strands oid) (h : row.Ticking) :
    row'.Ticking := by
  cases hs with
  | context => exact h
  | health _ ha =>
    have hticks := h ha
    exact h.set hticks
  | disable => exact h.set fun hen => absurd hen (by simp [Alarm.disabled])
  | @install _ id =>
    have hold : (row.superseded id).Ticking := by
      unfold AppRow.Ticking
      rw [superseded_alarms]
      exact h
    exact hold.set fun _ _ => by simp
  | enable => exact h.set fun _ _ => by simp
  | snooze => exact h
  | receipt => exact h
  | dedup => exact h
  | @cancelSlot _ oid occ a ho hsched ha hr =>
    unfold AppRow.Ticking
    rw [cancelSlot_alarms]
    split
    · rename_i hnext
      obtain ⟨hidle, hnot⟩ := hspared oid rfl
      refine h.set fun _ hrec => absurd ?_ hnot
      -- the slot its alarm names is a regular one
      obtain ⟨o, ho', -, hparent⟩ := (hcur.next _ _ ha oid).1 hnext
      cases ho.symm.trans ho'.1
      exact ⟨not_granted_of_revoked hcur hidle ⟨ho, hsched⟩ ha hr, occ, a, ho, hparent, ha, hrec⟩
    · exact h
  | fireSlot ho hsched hdue ha hr hf =>
    obtain ⟨adapterId, ⟨-, rfl⟩ | ⟨-, hone, rfl⟩ | ⟨-, -, slot, -, -, rfl⟩⟩ := fireSlot_eq_ok hf
    · exact h
    · exact h.set fun _ hrec => absurd (hrec.symm.trans hone) (by decide)
    · exact h.set fun _ _ => by simp
  | effect => exact h
  | recoverEffect => exact h
  | event => exact h
  | acked => exact h

/-- Taking up a slot that strands its alarm leaves that alarm dead. -/
theorem RowStep.dead_of_strands {oid : String} (hs : RowStep b app (.slot oid) row row')
    (hcur : row.Current) (hstrands : row.Strands oid) : ∃ key, row'.Dead key := by
  obtain ⟨hgrant, occ, a, ho, hparent, ha, hrec⟩ := hstrands
  cases hs with
  | cancelSlot ho' hsched ha' hr =>
    cases ho.symm.trans ho'
    cases ha.symm.trans ha'
    obtain ⟨a', ha₁, hen, -⟩ := hcur.owned oid occ ⟨ho, hsched⟩
    cases ha.symm.trans ha₁
    have hnext := (hcur.next _ _ ha oid).2 (AppRow.Scheduled.pending ⟨ho, hsched⟩ hparent)
    refine ⟨occ.alarmId, { a with nextOccurrenceId := none }, ?_, hen, hrec, rfl⟩
    rw [cancelSlot_alarms, if_pos hnext, Dict.get?_set_self]
  | fireSlot ho' hsched hdue ha' hr =>
    simp [revoked, hgrant] at hr

/-- Taking up slots brings no dead alarm back: it has no regular slot left to take up. -/
theorem RowStep.keeps_dead {oid key : String} (hs : RowStep b app (.slot oid) row row')
    (hcur : row.Current) (h : row.Dead key) : row'.Dead key := by
  obtain ⟨a, ha, hen, hrec, hnone⟩ := h
  -- the alarm of the slot is another one, or is written back without a next slot
  have hset : ∀ {k : String} {a₀ : Alarm}, row.alarms.get? k = some a₀ →
      ∃ a', (row.alarms.set k { a₀ with nextOccurrenceId := none }).get? key = some a' ∧
        a'.enabled = true ∧ a'.schedule.isRecurring = true ∧ a'.nextOccurrenceId = none := by
    intro k a₀ ha₀
    rw [Dict.get?_set]
    split
    · rename_i hkey
      cases ha.symm.trans (hkey ▸ ha₀)
      exact ⟨_, rfl, hen, hrec, rfl⟩
    · exact ⟨a, ha, hen, hrec, hnone⟩
  cases hs with
  | cancelSlot ho hsched ha₀ hr =>
    unfold AppRow.Dead
    rw [cancelSlot_alarms]
    split
    · exact hset ha₀
    · exact ⟨a, ha, hen, hrec, hnone⟩
  | @fireSlot _ _ _ occ a₀ x ho hsched hdue ha₀ hr hf =>
    obtain ⟨adapterId, ⟨-, rfl⟩ | ⟨-, -, rfl⟩ | ⟨hparent, -, slot, -, -, rfl⟩⟩ := fireSlot_eq_ok hf
    · exact ⟨a, ha, hen, hrec, hnone⟩
    · exact hset ha₀
    · have hne : key ≠ occ.alarmId := by
        rintro rfl
        have hnext := (hcur.next _ _ ha oid).2 (AppRow.Scheduled.pending ⟨ho, hsched⟩ hparent)
        cases hnext.symm.trans hnone
      refine ⟨a, ?_, hen, hrec, hnone⟩
      exact (Dict.get?_set_ne _ hne _).trans ha

end

/-! ## Calls -/

/-- The slot strands its alarm. -/
def Strands (k : DueKey) (l : Ledger) : Prop := ∃ row, l.apps.get? k.app = some row ∧ row.Strands k.oid

/-- The call is no `advance_due` that returns after taking up a slot that strands its alarm. -/
def Spares (l : Ledger) (x : Input) : Prop :=
  match x.2 with
  | .advanceDue nowUtc recovery limit => ∀ now l' r, parseUtc nowUtc = .ok now →
      x.1.perform l x.2 = .ok (l', r) →
      (x.1.agenda ⟨now, recovery⟩).Avoids Strands limit.toNat l
  | _ => True

section

variable {b : Backend} {x : Advance} {l m : Ledger} {k : DueKey}

theorem idle_takeUp (h : l.apps.All fun _ row => row.Idle) (hk : (b.agenda x).next l = some k)
    (hm : (b.agenda x).run k l = .ok m) : m.apps.All fun _ row => row.Idle := by
  obtain ⟨row, row', hrow, hstep, rfl⟩ := takeUp_rowStep hk hm
  have hidle := h hrow
  exact h.set (hstep.idle (by simp) hidle)

/-- What `advance_due` returned is what its batch of due slots did. -/
theorem perform_advanceDue_eq_ok {nowUtc : String} {recovery : Bool} {limit : Int} {r : Reply}
    (h : b.perform l (.advanceDue nowUtc recovery limit) = .ok (m, r)) :
    ∃ now n ks, parseUtc nowUtc = .ok now ∧ limit = (n : Nat) ∧
      (b.agenda ⟨now, recovery⟩).batch n l = .ok (m, ks) := by
  obtain ⟨⟨l', processed, more⟩, hd, h⟩ := bind_eq_ok.1 h
  cases pure_eq_ok.1 h
  obtain ⟨now, n, ks, hnow, hlimit, hb, -⟩ := advanceDue_eq_ok hd
  exact ⟨now, n, ks, hnow, hlimit, hb⟩

/-- A call that spares the alarms keeps them ticking. -/
theorem step_ticking {c : Call} (hl : l.Sound) (hidle : l.apps.All fun _ row => row.Idle)
    (hx : Spares l (b, c)) (h : l.apps.All fun _ row => row.Ticking) :
    (b.step l c).apps.All fun _ row => row.Ticking := by
  rcases step_cases b l c hl.keyed with hraised | ⟨r, hperform, hr⟩
  · rw [hraised]
    exact h
  · by_cases hslots : ∃ app oid, c.allows app (.slot oid)
    · obtain ⟨app, oid, hallow⟩ := hslots
      cases c with
      | advanceDue nowUtc recovery limit =>
        obtain ⟨now, n, ks, hnow, rfl, hb⟩ := perform_advanceDue_eq_ok hperform
        have havoids := hx now _ r hnow hperform
        have := havoids.invariant
          (P := fun l => l.Sound ∧ (l.apps.All fun _ row => row.Idle) ∧
            l.apps.All fun _ row => row.Ticking) ?_ ⟨hl, hidle, h⟩ hb
        · exact this.2.2
        · rintro l k m ⟨hl, hidle, h⟩ hk hspared hm
          obtain ⟨row, row', hrow, hstep, hrow'⟩ := takeUp_rowStep hk hm
          refine ⟨sound_takeUp hl hk hm, idle_takeUp hidle hk hm, ?_⟩
          rw [hrow']
          refine h.set (hstep.ticking (hl hrow).current (fun oid hoid => ?_) (h hrow))
          cases hoid
          exact ⟨hidle hrow, fun hstrands => hspared ⟨row, hrow, hstrands⟩⟩
      | _ => exact hallow.elim
    · intro app row' hrow'
      obtain ⟨row, as, hrow, has, hsteps, -⟩ := hr.rows app row' hrow'
      have h₀ : row.Sound ∧ row.Ticking := by
        rcases hrow with hrow | ⟨-, context, rfl⟩
        · exact ⟨hl hrow, h hrow⟩
        · exact ⟨sound_new context, Dict.all_empty⟩
      refine (hsteps.invariant (P := fun row => row.Sound ∧ row.Ticking) h₀ ?_).2
      rintro a s t ha hs ⟨hsound, ht⟩
      refine ⟨hs.sound hsound, hs.ticking hsound.current (fun oid hoid => ?_) ht⟩
      exact absurd ⟨app, oid, hoid ▸ has a ha⟩ hslots

/-- A run whose calls all spare the alarms leaves them ticking. -/
theorem after_ticking {run : List Input}
    (h : ∀ pre y post, run = pre ++ y :: post → Spares (after .empty pre) y) :
    (after .empty run).apps.All fun _ row => row.Ticking := by
  induction run using List.reverseRecOn with
  | nil => exact Dict.all_empty
  | append_singleton xs y ih =>
    have hl : Reachable (after .empty xs) := ⟨xs, rfl⟩
    rw [after_append]
    refine step_ticking hl.sound hl.idle (h xs y [] rfl) (ih fun pre z post hrun => ?_)
    exact h pre z (post ++ [y]) (by simp [hrun])

/-- A call that does not spare the alarms leaves one dead. -/
theorem step_not_alive {y : Input} (hl : l.Sound) (hy : ¬ Spares l y) : ¬ (y.1.step l y.2).Alive := by
  obtain ⟨b, c⟩ := y
  cases c with
  | advanceDue nowUtc recovery limit =>
    simp only [Spares, not_forall] at hy
    obtain ⟨now, m, r, hnow, hperform, hstrands⟩ := hy
    have hstep : b.step l (.advanceDue nowUtc recovery limit) = m := by
      simp [Backend.step, hperform]
    obtain ⟨now', n, ks, hnow', rfl, hb⟩ := perform_advanceDue_eq_ok hperform
    cases hnow.symm.trans hnow'
    obtain ⟨i, j, u, v, k, is, js, hi, hk, ⟨row, hrow, hs⟩, hv, hj⟩ :=
      Agenda.exists_of_not_avoids hb hstrands
    have hu := (batch_sound_grows hl hi).1
    obtain ⟨row₁, row', hrow₁, hrowStep, hv'⟩ := takeUp_rowStep hk hv
    cases hrow.symm.trans hrow₁
    obtain ⟨key, hdead⟩ := hrowStep.dead_of_strands (hu hrow).current hs
    -- the rest of the batch does not bring it back
    have hrest := Agenda.batch_rel (R := fun _ _ => True) (fun _ => trivial)
      (fun _ _ => trivial)
      (P := fun l => l.Sound ∧ ∃ row, l.apps.get? k.app = some row ∧ row.Dead key) ?_
      ⟨sound_takeUp hu hk hv, row', by rw [hv', get?_setApp, if_pos rfl], hdead⟩ hj
    · obtain ⟨⟨hm, rowm, hrowm, hdeadm⟩, -⟩ := hrest
      rw [hstep, hm.alive_iff]
      exact fun ht => hdeadm.not_ticking (ht hrowm)
    · rintro l k' m ⟨hl, rowl, hrowl, hdead⟩ hk' hm
      refine ⟨⟨sound_takeUp hl hk' hm, ?_⟩, trivial⟩
      obtain ⟨row₂, row₂', hrow₂, hstep₂, rfl⟩ := takeUp_rowStep hk' hm
      rw [get?_setApp]
      split
      · rename_i happ
        rw [happ] at hrowl
        cases hrowl.symm.trans hrow₂
        exact ⟨row₂', rfl, hstep₂.keeps_dead (hl hrow₂).current hdead⟩
      · exact ⟨rowl, hrowl, hdead⟩
  | _ => exact absurd trivial hy

end

/-! ## Runs -/

/-- **Liveness.** In every ledger a run passes through, every enabled recurring alarm names its
only scheduled regular occurrence, exactly when every call of the run spares the alarms. -/
theorem alarms_stay_armed (run : List Input) :
    (∀ pre post, run = pre ++ post → (after .empty pre).Alive) ↔
      ∀ pre x post, run = pre ++ x :: post → Spares (after .empty pre) x := by
  have hreach : ∀ pre, Reachable (after .empty pre) := fun pre => ⟨pre, rfl⟩
  constructor
  · intro h pre x post hrun
    by_contra hx
    refine step_not_alive (hreach pre).sound hx ?_
    have := h (pre ++ [x]) post (by simp [hrun])
    rwa [after_append] at this
  · rintro h pre post rfl
    refine (hreach pre).sound.alive_iff.2 (after_ticking fun pre' x post' hrun => ?_)
    exact h pre' x (post' ++ post) (by simp [hrun])

/-- The sample alarm, whose app loses the scheduler permission before its first slot comes. -/
def revokedRun : List Input :=
  sampleSetup ++
    [(.sample, .hostContext "clock" (some "g1") true false "authorized" "none"),
      (.sample, .advanceDue "2024-01-01T07:00:00Z" false 1)]

set_option maxRecDepth 100000 in
theorem revoked_alarm_dead :
    Reachable (after .empty revokedRun) ∧ ¬ (after .empty revokedRun).Alive := by
  refine ⟨⟨revokedRun, rfl⟩, fun h => ?_⟩
  have hdead : (((after .empty revokedRun).apps.get? "clock").bind fun row =>
      row.alarms.get? "wake").any
        (fun a => a.enabled && a.schedule.isRecurring && a.nextOccurrenceId.isNone) = true := by
    decide +kernel
  obtain ⟨a, ha, hprops⟩ := Option.any_eq_true _ _ |>.1 hdead
  obtain ⟨row, hrow, ha⟩ := Option.bind_eq_some_iff.1 ha
  simp only [Bool.and_eq_true, Option.isNone_iff_eq_none] at hprops
  obtain ⟨oid, hnext, -⟩ := h hrow "wake" a ha hprops.1.1 hprops.1.2
  cases hnext.symm.trans hprops.2

end Vibapp.Scheduler
