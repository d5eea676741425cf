import Vibapp.Scheduler.Refinement

/-!
# Runs of calls as runs of row transitions

`Refines` says what a call does to the whole ledger: no app's row goes away, and each row was
reached from what the app had before (or from a new row, under `host_context`) by transitions
the call allows, granting what its reply reports. `perform_refines` proves it of every call.
The induction principles every invariant uses follow: `Reachable.row_invariant` for what holds
of every row, `step_row` and `after_row` for what happens to a row.
-/

namespace Vibapp.Scheduler

/-- Every row of the ledger is keyed. -/
def Ledger.Keyed (l : Ledger) : Prop := l.apps.All fun _ row => row.Keyed

/-! ## Ledgers -/

/-- No row goes away, and every row was reached by acts in `P` from the one before. -/
structure Moves (b : Backend) (P : String → Act → Prop) (l l' : Ledger) : Prop where
  kept : ∀ app row, l.apps.get? app = some row → ∃ row', l'.apps.get? app = some row'
  rows : ∀ app row', l'.apps.get? app = some row' →
    ∃ row, l.apps.get? app = some row ∧ Reaches (RowStep b app) (P app) row row'

namespace Moves

variable {b : Backend} {P : String → Act → Prop}

theorem refl (l : Ledger) : Moves b P l l :=
  ⟨fun _ row h => ⟨row, h⟩, fun _ row' h => ⟨row', h, .refl _⟩⟩

theorem trans {l m n : Ledger} (h₁ : Moves b P l m) (h₂ : Moves b P m n) : Moves b P l n where
  kept app row h := by
    obtain ⟨row₁, h₁⟩ := h₁.kept app row h
    exact h₂.kept app row₁ h₁
  rows app row' h := by
    obtain ⟨row₁, hm, hr₂⟩ := h₂.rows app row' h
    obtain ⟨row, hl, hr₁⟩ := h₁.rows app row₁ hm
    exact ⟨row, hl, hr₁.trans hr₂⟩

theorem setApp {l : Ledger} {app : String} {row row' : AppRow} (h : l.apps.get? app = some row)
    (hr : Reaches (RowStep b app) (P app) row row') : Moves b P l (l.setApp app row') where
  kept app' row₁ h₁ := by
    rw [get?_setApp]
    split
    · exact ⟨row', rfl⟩
    · exact ⟨row₁, h₁⟩
  rows app' row₁ h₁ := by
    rw [get?_setApp] at h₁
    split at h₁
    · rename_i happ
      cases h₁
      rw [happ]
      exact ⟨row, h, hr⟩
    · exact ⟨row₁, h₁, .refl _⟩

end Moves

/-- What a call with its reply does to the ledger. -/
structure Refines (b : Backend) (c : Call) (r : Reply) (l l' : Ledger) : Prop where
  kept : ∀ app row, l.apps.get? app = some row → ∃ row', l'.apps.get? app = some row'
  rows : ∀ app row', l'.apps.get? app = some row' →
    ∃ row as, (l.apps.get? app = some row ∨
        l.apps.get? app = none ∧ ∃ context, row = .new context) ∧
      (∀ a ∈ as, c.allows app a) ∧ Steps (RowStep b app) as row row' ∧
      as.filterMap Act.grant? = c.grants r app

section

variable {b : Backend} {c : Call} {r : Reply}

/-- A call that reports no claim, and only does acts that grant none. -/
theorem Moves.refines {P : String → Act → Prop} {l l' : Ledger} (h : Moves b P l l')
    (hP : ∀ app a, P app a → c.allows app a ∧ a.grant? = none) (hr : ∀ app, c.grants r app = []) :
    Refines b c r l l' where
  kept := h.kept
  rows app row' hrow' := by
    obtain ⟨row, hrow, as, has, hsteps⟩ := h.rows app row' hrow'
    refine ⟨row, as, .inl hrow, fun a ha => (hP app a (has a ha)).1, hsteps, ?_⟩
    rw [hr, filterMap_grant?_of_quiet fun a ha => (hP app a (has a ha)).2]

/-- A call on one app's row, from what it had or from a new row. -/
theorem refines_setApp {l : Ledger} {app : String} {row row' : AppRow} {as : List Act}
    (hrow : l.apps.get? app = some row ∨ l.apps.get? app = none ∧ ∃ context, row = .new context)
    (has : ∀ a ∈ as, c.allows app a) (hsteps : Steps (RowStep b app) as row row')
    (hgrants : as.filterMap Act.grant? = c.grants r app)
    (hother : ∀ app', app' ≠ app → c.grants r app' = []) :
    Refines b c r l (l.setApp app row') where
  kept app' row₁ h₁ := by
    rw [get?_setApp]
    split
    · exact ⟨row', rfl⟩
    · exact ⟨row₁, h₁⟩
  rows app' row₁ h₁ := by
    rw [get?_setApp] at h₁
    split at h₁
    · rename_i happ
      cases h₁
      rw [happ]
      exact ⟨row, as, hrow, has, hsteps, hgrants⟩
    · rename_i happ
      exact ⟨row₁, [], .inl h₁, fun _ h => absurd h List.not_mem_nil, .nil _,
        (hother app' happ).symm⟩

/-- Transitions of the kinds `P` of one app's row. -/
theorem refines_of_reaches {P : Act → Prop} {l : Ledger} {app : String} {row row' : AppRow}
    (h : Reaches (RowStep b app) P row row')
    (hrow : l.apps.get? app = some row ∨ l.apps.get? app = none ∧ ∃ context, row = .new context)
    (hP : ∀ a, P a → c.allows app a ∧ a.grant? = none) (hr : ∀ app, c.grants r app = []) :
    Refines b c r l (l.setApp app row') := by
  obtain ⟨as, has, hsteps⟩ := h
  refine refines_setApp hrow (fun a ha => (hP a (has a ha)).1) hsteps ?_ fun app' _ => hr app'
  rw [hr, filterMap_grant?_of_quiet fun a ha => (hP a (has a ha)).2]

end

/-! ## Each call -/

section

variable {b : Backend}

theorem mutatingCall_eq_ok {l l' : Ledger} {m : Mutation} {r : Response}
    (h : b.mutatingCall l m = .ok (l', r)) :
    ∃ payload key fingerprint row row', m.payload = .obj payload ∧ m.key = .str key ∧
      b.fingerprint m.operation payload = .ok fingerprint ∧ l.apps.get? m.app = some row ∧
      b.mutateRow row m.operation payload (receiptKey key) fingerprint m.generation m.callback
        m.hostAction = .ok (row', r) ∧ l' = l.setApp m.app row' := by
  unfold Backend.mutatingCall at h
  split at h
  · rename_i payload hp
    obtain ⟨key, hkey, h⟩ := bind_eq_ok.1 h
    obtain ⟨fingerprint, hf, h⟩ := bind_eq_ok.1 h
    obtain ⟨row, hrow, h⟩ := bind_eq_ok.1 (edit_eq_ok h)
    obtain ⟨⟨row', r'⟩, hm, h⟩ := bind_eq_ok.1 h
    cases pure_eq_ok.1 h
    exact ⟨payload, key, fingerprint, row, row', hp, text_eq_ok hkey, hf, app_eq_ok hrow, hm, rfl⟩
  · exact absurd h (error_ne_ok _ _ _)

/-- A mutating call changed nothing, or its mutation did. -/
theorem respond_eq_ok {l l' : Ledger} {m : Py Mutation} {r : Reply}
    (h : b.respond l m = .ok (l', r)) :
    ∃ response, r = .response response ∧
      (l' = l ∨ ∃ m₀, m = .ok m₀ ∧ b.mutatingCall l m₀ = .ok (l', response)) := by
  obtain ⟨⟨l₁, response⟩, hc, h⟩ := bind_eq_ok.1 h
  cases pure_eq_ok.1 h
  refine ⟨response, rfl, ?_⟩
  unfold caught at hc
  split at hc
  · cases hc
    exact .inl rfl
  · exact .inr (bind_eq_ok.1 hc)

theorem answered_eq_ok {α : Type} {l l' : Ledger} {x : Py α} {reply : Except SchedulerError α → Reply}
    {r : Reply} (h : answered l x reply = .ok (l', r)) : l' = l ∧ ∃ y, r = reply y := by
  unfold answered at h
  split at h
  · cases h
    exact ⟨rfl, _, rfl⟩
  · cases h
    exact ⟨rfl, _, rfl⟩
  · cases h

/-- A mutation whose callback does what the call allows. -/
theorem refines_respond {l l' : Ledger} {m : Py Mutation} {c : Call} {r : Reply} {app : String}
    (hk : l.Keyed) (h : b.respond l m = .ok (l', r))
    (hgrants : ∀ response app, c.grants (.response response) app = [])
    (happ : ∀ m₀, m = .ok m₀ → m₀.app = app) (hcommand : c.allows app .command)
    (hreceipt : c.allows app .receipt)
    (hcb : ∀ m₀ row, m = .ok m₀ → row.Keyed →
      authority row m₀.generation true m₀.hostAction = .ok () → ∀ {row' v},
      m₀.callback row = .ok (row', v) →
        Callback b app (fun a => c.allows app a ∧ a.grant? = none) row row') :
    Refines b c r l l' := by
  obtain ⟨response, rfl, hl | ⟨m₀, hm, hcall⟩⟩ := respond_eq_ok h
  · rw [hl]
    exact (Moves.refl l).refines (P := fun _ _ => False) (fun _ _ h => h.elim) (hgrants response)
  · obtain ⟨payload, key, fingerprint, row, row', -, -, -, hrow, hmut, rfl⟩ := mutatingCall_eq_ok hcall
    rw [happ m₀ hm] at hrow ⊢
    exact refines_of_reaches
      (mutateRow_reaches ⟨hcommand, rfl⟩ ⟨hreceipt, rfl⟩ (fun hauth => hcb m₀ row hm (hk hrow) hauth) hmut)
      (.inl hrow) (fun _ h => h) (hgrants response)

theorem alarmMutation_eq_ok {app : String} {command key : Json} {nowUtc : String}
    {generation : Option String} {hostAction : Bool} {m : Mutation}
    (h : b.alarmMutation app command key nowUtc generation hostAction = .ok m) :
    ∃ tag value now, tag ∈ alarmTags ∧
      m = { app, operation := tag, payload := value, key, generation,
            callback := b.applyAlarm tag value now, hostAction := tag = "alarm-snooze" } := by
  obtain ⟨ms, -, h⟩ := bind_eq_ok.1 h
  obtain ⟨now, -, h⟩ := bind_eq_ok.1 h
  split at h
  · rename_i tag _
    split at h
    · exact absurd h (error_ne_ok _ _ _)
    · split at h
      · exact absurd h (error_ne_ok _ _ _)
      · rename_i htag
        cases pure_eq_ok.1 h
        exact ⟨tag, _, now, not_not.1 htag, rfl⟩
  · exact absurd h (error_ne_ok _ _ _)

theorem upsertMutation_eq_ok {app : String} {request : Json} {generation nowUtc : String}
    {m : Mutation} (h : b.upsertMutation app request generation nowUtc = .ok m) :
    ∃ id schedule notification config now payload key,
      m = { app, operation := "scheduler.upsert", payload := .obj payload, key,
            generation := some generation,
            callback := b.applyUpsert id schedule notification config now } := by
  obtain ⟨g, hg, h⟩ := bind_eq_ok.1 h
  rw [checkText_eq_ok hg] at h
  obtain ⟨ms, -, h⟩ := bind_eq_ok.1 h
  obtain ⟨id, -, h⟩ := bind_eq_ok.1 h
  split at h
  · split at h
    · exact absurd h (error_ne_ok _ _ _)
    · split at h
      · exact absurd h (error_ne_ok _ _ _)
      · obtain ⟨payload, -, h⟩ := bind_eq_ok.1 h
        obtain ⟨spec, -, h⟩ := bind_eq_ok.1 h
        obtain ⟨schedule, -, h⟩ := bind_eq_ok.1 h
        obtain ⟨now, -, h⟩ := bind_eq_ok.1 h
        cases pure_eq_ok.1 h
        exact ⟨id, schedule, _, _, now, _, _, rfl⟩
  · exact absurd h (error_ne_ok _ _ _)

theorem toggleMutation_eq_ok {app id key generation nowUtc : String} {enable : Bool} {m : Mutation}
    (h : b.toggleMutation app id key generation nowUtc enable = .ok m) :
    ∃ now, m = { app, operation := if enable then "scheduler.enable" else "scheduler.disable",
                 payload := .obj [("id", .str id)], key := .str key, generation := some generation,
                 callback := b.applyToggle id now enable } := by
  obtain ⟨g, hg, h⟩ := bind_eq_ok.1 h
  rw [checkText_eq_ok hg] at h
  obtain ⟨i, hi, h⟩ := bind_eq_ok.1 h
  rw [checkText_eq_ok hi] at h
  obtain ⟨now, -, h⟩ := bind_eq_ok.1 h
  cases pure_eq_ok.1 h
  exact ⟨now, rfl⟩

theorem acknowledgeMutation_eq_ok {app occurrence outcome key generation token : String}
    {m : Mutation} (h : acknowledgeMutation app occurrence outcome key generation token = .ok m) :
    ∃ o, ackOutcome? outcome = some o ∧
      m = { app, operation := "scheduler.acknowledge-occurrence",
            payload := .obj [("occurrence", .str occurrence), ("outcome", .str outcome)],
            key := .str key, generation := some generation,
            callback := applyAcknowledge occurrence o generation token } := by
  obtain ⟨g, hg, h⟩ := bind_eq_ok.1 h
  rw [checkText_eq_ok hg] at h
  split at h
  · exact absurd h (error_ne_ok _ _ _)
  · rename_i o ho
    cases pure_eq_ok.1 h
    exact ⟨o, ho, rfl⟩

theorem hostContext_eq_ok {l l' : Ledger} {app : String} {generation : Option String}
    {enabled granted : Bool} {permission rollback : String}
    (h : hostContext l app generation enabled granted permission rollback = .ok (l', ())) :
    ∃ c row', c.enabled = enabled ∧ c.schedulerGranted = granted ∧
      c.activeGeneration = generation ∧ permission? permission = some c.notificationPermission ∧
      rollbackState? rollback = some c.rollbackState ∧
      hostRow c ((l.apps.get? app).getD (.new c)) = .ok row' ∧ l' = l.setApp app row' := by
  obtain ⟨a, ha, h⟩ := bind_eq_ok.1 h
  rw [checkText_eq_ok ha] at h
  obtain ⟨g, hg, h⟩ := bind_eq_ok.1 h
  have hg : g = generation := by
    cases generation with
    | none => exact (pure_eq_ok.1 hg).symm
    | some s =>
      obtain ⟨t, ht, rfl⟩ := map_eq_ok.1 hg
      rw [checkText_eq_ok ht]
  split at h
  · rename_i p r hp hr
    obtain ⟨row', hrow, h⟩ := bind_eq_ok.1 (edit_eq_ok h)
    cases pure_eq_ok.1 h
    exact ⟨_, row', rfl, rfl, hg, hp, hr, hrow, rfl⟩
  · exact absurd h (error_ne_ok _ _ _)

end

/-! ## Every call refines -/

section

variable {b : Backend} {l l' : Ledger} {r : Reply}

theorem refines_hostContext {app : String} {generation : Option String} {enabled granted : Bool}
    {permission rollback : String}
    (h : b.perform l (.hostContext app generation enabled granted permission rollback) = .ok (l', r)) :
    Refines b (.hostContext app generation enabled granted permission rollback) r l l' := by
  obtain ⟨⟨l₁, ⟨⟩⟩, hh, h⟩ := bind_eq_ok.1 h
  cases pure_eq_ok.1 h
  obtain ⟨c, row', -, -, -, -, -, hrow, rfl⟩ := hostContext_eq_ok hh
  refine refines_of_reaches (P := fun act => act = .context ∨ act = .command)
    (hostRow_reaches (.inl rfl) (.inr rfl) hrow) ?_ ?_ fun _ => rfl
  · cases hget : l.apps.get? app with
    | none => exact .inr ⟨rfl, c, rfl⟩
    | some row => exact .inl rfl
  · rintro a (rfl | rfl) <;> exact ⟨rfl, rfl⟩

theorem refines_command {app : String} {command key : Json} {nowUtc : String}
    {generation : Option String} {hostAction : Bool} (hk : l.Keyed)
    (h : b.perform l (.command app command key nowUtc generation hostAction) = .ok (l', r)) :
    Refines b (.command app command key nowUtc generation hostAction) r l l' := by
  unfold Backend.perform at h
  simp only at h
  split at h
  · obtain ⟨hl, y, rfl⟩ := answered_eq_ok h
    rw [hl]
    exact (Moves.refl l).refines (P := fun _ _ => False) (fun _ _ h => h.elim) fun _ => rfl
  · refine refines_respond hk h (fun _ _ => rfl) (fun m hm => ?_) rfl rfl fun m row hm hrow hauth => ?_
    · obtain ⟨tag, value, now, -, rfl⟩ := alarmMutation_eq_ok hm
      rfl
    · obtain ⟨tag, value, now, -, rfl⟩ := alarmMutation_eq_ok hm
      exact callback_applyAlarm ⟨rfl, rfl⟩ hrow (authority_eq_ok hauth).1

theorem refines_upsert {app : String} {request : Json} {generation nowUtc : String} (hk : l.Keyed)
    (h : b.perform l (.upsert app request generation nowUtc) = .ok (l', r)) :
    Refines b (.upsert app request generation nowUtc) r l l' := by
  refine refines_respond hk h (fun _ _ => rfl) (fun m hm => ?_) rfl rfl fun m row hm hrow hauth => ?_
  · obtain ⟨_, _, _, _, _, _, _, rfl⟩ := upsertMutation_eq_ok hm
    rfl
  · obtain ⟨_, _, _, _, _, _, _, rfl⟩ := upsertMutation_eq_ok hm
    exact callback_applyUpsert ⟨rfl, rfl⟩ hrow (authority_eq_ok hauth).1

theorem refines_toggle {app id key generation nowUtc : String} {enable : Bool} (hk : l.Keyed)
    (h : b.perform l (.toggle app id key generation nowUtc enable) = .ok (l', r)) :
    Refines b (.toggle app id key generation nowUtc enable) r l l' := by
  refine refines_respond hk h (fun _ _ => rfl) (fun m hm => ?_) rfl rfl fun m row hm hrow hauth => ?_
  · obtain ⟨now, rfl⟩ := toggleMutation_eq_ok hm
    rfl
  · obtain ⟨now, rfl⟩ := toggleMutation_eq_ok hm
    exact callback_applyToggle ⟨rfl, rfl⟩ (authority_eq_ok hauth).1

theorem refines_acknowledge {app occurrence outcome key generation token : String} (hk : l.Keyed)
    (h : b.perform l (.acknowledge app occurrence outcome key generation token) = .ok (l', r)) :
    Refines b (.acknowledge app occurrence outcome key generation token) r l l' := by
  refine refines_respond hk h (fun _ _ => rfl) (fun m hm => ?_) rfl rfl fun m row hm hrow hauth => ?_
  · obtain ⟨o, -, rfl⟩ := acknowledgeMutation_eq_ok hm
    rfl
  · obtain ⟨o, -, rfl⟩ := acknowledgeMutation_eq_ok hm
    exact callback_applyAcknowledge ⟨⟨rfl, rfl, rfl, rfl⟩, rfl⟩ hauth

/-- The slot `advance_due` selects is a scheduled one that is due. -/
theorem next_eq_some {x : Advance} {k : DueKey} (hk : (b.agenda x).next l = some k) :
    ∃ row occ, l.apps.get? k.app = some row ∧ row.occurrences.get? k.oid = some occ ∧
      occ.state = .scheduled ∧ occ.dueAtUtc ≤ x.now ∧ k = .of occ.dueAtUtc k.app k.oid := by
  obtain ⟨row, hrow, hslot⟩ := mem_candidates_iff.1 (Agenda.next_eq_some_iff.1 hk).1
  obtain ⟨occ, hocc⟩ := mem_dueSlots_iff.1 hslot
  exact ⟨row, occ, hrow, hocc⟩

/-- One pass of the loop of `advance_due` takes up the slot it selected. -/
theorem takeUp_rowStep {x : Advance} {k : DueKey} {m : Ledger} (hk : (b.agenda x).next l = some k)
    (h : (b.agenda x).run k l = .ok m) :
    ∃ row row', l.apps.get? k.app = some row ∧ RowStep b k.app (.slot k.oid) row row' ∧
      m = l.setApp k.app row' := by
  obtain ⟨row, row', hrow, htake, rfl⟩ := takeUp_eq_ok h
  obtain ⟨row₁, occ, hrow₁, ho, hs, hdue, -⟩ := next_eq_some hk
  rw [Option.some.inj (hrow₁.symm.trans hrow)] at ho
  exact ⟨row, row', hrow, takeSlot_rowStep ho hs hdue htake, rfl⟩

theorem moves_takeUp {x : Advance} {k : DueKey} {P : String → Act → Prop} {m : Ledger}
    (hP : ∀ app oid, P app (.slot oid)) (hk : (b.agenda x).next l = some k)
    (h : (b.agenda x).run k l = .ok m) : Moves b P l m := by
  obtain ⟨row, row', hrow, hstep, rfl⟩ := takeUp_rowStep hk h
  exact .setApp hrow (.single (hP _ _) hstep)

theorem refines_advanceDue {nowUtc : String} {recovery : Bool} {limit : Int}
    (h : b.perform l (.advanceDue nowUtc recovery limit) = .ok (l', r)) :
    Refines b (.advanceDue nowUtc recovery limit) r l l' := by
  obtain ⟨⟨l₁, processed, more⟩, hd, h⟩ := bind_eq_ok.1 h
  cases pure_eq_ok.1 h
  obtain ⟨now, -, hd⟩ := bind_eq_ok.1 hd
  obtain ⟨n, -, hd⟩ := bind_eq_ok.1 hd
  obtain ⟨⟨l₂, ks⟩, hb, hd⟩ := bind_eq_ok.1 (edit_eq_ok hd)
  cases pure_eq_ok.1 hd
  have hmoves : Moves b (fun _ act => ∃ oid, act = .slot oid) l l' :=
    (Agenda.batch_rel (P := fun _ => True) Moves.refl Moves.trans
      (fun _ hk hr => ⟨trivial, moves_takeUp (fun _ oid => ⟨oid, rfl⟩) hk hr⟩) trivial hb).2
  refine hmoves.refines (fun app a ha => ?_) fun _ => rfl
  obtain ⟨oid, rfl⟩ := ha
  exact ⟨trivial, rfl⟩

theorem refines_claimNotification {app owner nowUtc : String} (hk : l.Keyed)
    (h : b.perform l (.claimNotification app owner nowUtc) = .ok (l', r)) :
    Refines b (.claimNotification app owner nowUtc) r l l' := by
  obtain ⟨⟨l₁, claim⟩, hc, h⟩ := bind_eq_ok.1 h
  cases pure_eq_ok.1 h
  obtain ⟨o, ho, hc⟩ := bind_eq_ok.1 hc
  rw [checkText_eq_ok ho] at hc
  obtain ⟨now, hnow, hc⟩ := bind_eq_ok.1 hc
  obtain ⟨row, hrow, hc⟩ := bind_eq_ok.1 (edit_eq_ok hc)
  obtain ⟨⟨row', claim'⟩, hscan, hc⟩ := bind_eq_ok.1 hc
  cases pure_eq_ok.1 hc
  replace hrow := app_eq_ok hrow
  obtain ⟨as, has, hsteps, hgrants⟩ := scanEffects_steps
    (P := (Call.claimNotification app owner nowUtc).allows app) (hk hrow)
    (fun _ _ => rfl) (fun _ _ => ⟨rfl, rfl, hnow⟩) hscan
  refine refines_setApp (.inl hrow) has hsteps ?_ fun app' happ => ?_
  · rw [hgrants]
    cases claim <;> simp [Call.grants]
  · cases claim <;> simp [Call.grants, Ne.symm happ]

theorem refines_finishNotification {app id token result nowUtc : String}
    (h : b.perform l (.finishNotification app id token result nowUtc) = .ok (l', r)) :
    Refines b (.finishNotification app id token result nowUtc) r l l' := by
  obtain ⟨⟨l₁, ⟨⟩⟩, hc, h⟩ := bind_eq_ok.1 h
  cases pure_eq_ok.1 h
  obtain ⟨now, hnow, hc⟩ := bind_eq_ok.1 hc
  split at hc
  · exact absurd hc (error_ne_ok _ _ _)
  · rename_i res hres
    obtain ⟨row, hrow, hc⟩ := bind_eq_ok.1 (edit_eq_ok hc)
    obtain ⟨row', hf, hc⟩ := bind_eq_ok.1 hc
    cases pure_eq_ok.1 hc
    refine refines_of_reaches (finishEffect_reaches (P := fun act => act = _) rfl hf)
      (.inl (app_eq_ok hrow)) ?_ fun _ => rfl
    rintro a rfl
    exact ⟨⟨rfl, rfl, rfl, hres, hnow⟩, rfl⟩

theorem refines_claimGuest {app owner nowUtc : String} (hk : l.Keyed)
    (h : b.perform l (.claimGuest app owner nowUtc) = .ok (l', r)) :
    Refines b (.claimGuest app owner nowUtc) r l l' := by
  obtain ⟨⟨l₁, claim⟩, hc, h⟩ := bind_eq_ok.1 h
  cases pure_eq_ok.1 h
  obtain ⟨o, ho, hc⟩ := bind_eq_ok.1 hc
  rw [checkText_eq_ok ho] at hc
  obtain ⟨now, hnow, hc⟩ := bind_eq_ok.1 hc
  obtain ⟨row, hrow, hc⟩ := bind_eq_ok.1 (edit_eq_ok hc)
  replace hrow := app_eq_ok hrow
  split at hc
  · cases pure_eq_ok.1 hc
    exact (Moves.refl _).refines (P := fun _ _ => False) (fun _ _ h => h.elim) fun _ => rfl
  · rename_i generation hgen
    obtain ⟨⟨row', claim'⟩, hscan, hc⟩ := bind_eq_ok.1 hc
    cases pure_eq_ok.1 hc
    obtain ⟨as, has, hsteps, hgrants⟩ := scanEvents_steps
      (P := (Call.claimGuest app owner nowUtc).allows app) (hk hrow) hgen
      (fun _ => rfl) (fun _ _ => ⟨rfl, rfl, hnow⟩) hscan
    refine refines_setApp (.inl hrow) has hsteps ?_ fun app' happ => ?_
    · rw [hgrants]
      cases claim <;> simp [Call.grants]
    · cases claim <;> simp [Call.grants, Ne.symm happ]

theorem refines_finishGuest {app id token result : String}
    (h : b.perform l (.finishGuest app id token result) = .ok (l', r)) :
    Refines b (.finishGuest app id token result) r l l' := by
  obtain ⟨⟨l₁, ⟨⟩⟩, hc, h⟩ := bind_eq_ok.1 h
  cases pure_eq_ok.1 h
  unfold finishGuest at hc
  split at hc
  · exact absurd hc (error_ne_ok _ _ _)
  · rename_i res hres
    obtain ⟨row, hrow, hc⟩ := bind_eq_ok.1 (edit_eq_ok hc)
    obtain ⟨row', hf, hc⟩ := bind_eq_ok.1 hc
    cases pure_eq_ok.1 hc
    refine refines_of_reaches (finishEvent_reaches (P := fun act => act = _) rfl hf)
      (.inl (app_eq_ok hrow)) ?_ fun _ => rfl
    rintro a rfl
    exact ⟨⟨rfl, rfl, rfl, hres⟩, rfl⟩

theorem moves_recoverApp {owner app : String} {P : String → Act → Prop} {m : Ledger}
    (hP : ∀ app key, P app (.effect key (.recover owner)))
    (hP' : ∀ app key, P app (.event key (.recover owner))) (h : recoverApp owner l app = .ok m) :
    Moves b P l m := by
  obtain ⟨row, hrow, h⟩ := bind_eq_ok.1 h
  obtain ⟨row', hr, h⟩ := bind_eq_ok.1 h
  rw [← pure_eq_ok.1 h]
  exact .setApp (item_eq_ok.1 hrow) (recoverRow_reaches (hP _) (hP' _) hr)

theorem refines_recoverOwner {owner : String} (h : b.perform l (.recoverOwner owner) = .ok (l', r)) :
    Refines b (.recoverOwner owner) r l l' := by
  obtain ⟨⟨l₁, ⟨⟩⟩, hc, h⟩ := bind_eq_ok.1 h
  cases pure_eq_ok.1 h
  obtain ⟨o, ho, hc⟩ := bind_eq_ok.1 hc
  rw [checkText_eq_ok ho] at hc
  obtain ⟨l₂, hfold, hc⟩ := bind_eq_ok.1 (edit_eq_ok hc)
  cases pure_eq_ok.1 hc
  have hmoves : Moves b (fun _ act => (∃ key, act = .effect key (.recover owner)) ∨
      ∃ key, act = .event key (.recover owner)) l l' :=
    foldlM_rel Moves.refl Moves.trans
      (moves_recoverApp (fun _ key => .inl ⟨key, rfl⟩) fun _ key => .inr ⟨key, rfl⟩) hfold
  refine hmoves.refines (fun app a ha => ?_) fun _ => rfl
  rcases ha with ⟨key, rfl⟩ | ⟨key, rfl⟩ <;> exact ⟨rfl, rfl⟩

/-- **Refinement.** Every call that returns took each app's row along transitions it allows, and
granted the claim it reports. -/
theorem perform_refines (hk : l.Keyed) {c : Call} (h : b.perform l c = .ok (l', r)) :
    Refines b c r l l' := by
  cases c with
  | hostContext => exact refines_hostContext h
  | command => exact refines_command hk h
  | upsert => exact refines_upsert hk h
  | toggle => exact refines_toggle hk h
  | acknowledge => exact refines_acknowledge hk h
  | listSchedules =>
    obtain ⟨hl, y, rfl⟩ := answered_eq_ok h
    rw [hl]
    exact (Moves.refl l).refines (P := fun _ _ => False) (fun _ _ h => h.elim) fun _ => rfl
  | advanceDue => exact refines_advanceDue h
  | claimNotification => exact refines_claimNotification hk h
  | finishNotification => exact refines_finishNotification h
  | claimGuest => exact refines_claimGuest hk h
  | finishGuest => exact refines_finishGuest h
  | recoverOwner => exact refines_recoverOwner h

end

/-! ## Induction -/

/-- A call that raised changed nothing, any other refines. -/
theorem step_cases (b : Backend) (l : Ledger) (c : Call) (hk : l.Keyed) :
    b.step l c = l ∨ ∃ r, b.perform l c = .ok (b.step l c, r) ∧ Refines b c r l (b.step l c) := by
  unfold Backend.step
  cases h : b.perform l c with
  | error => exact .inl rfl
  | ok p => exact .inr ⟨p.2, rfl, perform_refines hk h⟩

theorem step_keyed {b : Backend} {l : Ledger} {c : Call} (hk : l.Keyed) : (b.step l c).Keyed := by
  rcases step_cases b l c hk with h | ⟨r, -, h⟩
  · rw [h]
    exact hk
  · intro app row' hrow'
    obtain ⟨row, as, hrow, -, hsteps, -⟩ := h.rows app row' hrow'
    refine hsteps.invariant ?_ fun _ hs => hs.keyed
    rcases hrow with hrow | ⟨-, c, rfl⟩
    · exact hk hrow
    · exact keyed_new c

theorem Reachable.keyed {l : Ledger} (h : Reachable l) : l.Keyed :=
  h.invariant Dict.all_empty fun _ _ _ => step_keyed

section

variable {B : Backend → Prop} {P : String → AppRow → Prop}

/-- What every transition keeps, and a new row has, a call keeps of all rows. -/
theorem step_row_invariant {b : Backend} (hnew : ∀ app c, P app (.new c))
    (hstep : ∀ {app act row row'}, RowStep b app act row row' → row.Keyed → P app row → P app row')
    {l : Ledger} {c : Call} (hk : l.Keyed) (h : l.apps.All P) : (b.step l c).apps.All P := by
  rcases step_cases b l c hk with hl | ⟨r, -, hr⟩
  · rw [hl]
    exact h
  · intro app row' hrow'
    obtain ⟨row, as, hrow, -, hsteps, -⟩ := hr.rows app row' hrow'
    have h₀ : row.Keyed ∧ P app row := by
      rcases hrow with hrow | ⟨-, c, rfl⟩
      · exact ⟨hk hrow, h hrow⟩
      · exact ⟨keyed_new c, hnew app c⟩
    exact (hsteps.invariant (P := fun row => row.Keyed ∧ P app row) h₀ fun _ hs hi =>
      ⟨hs.keyed hi.1, hstep hs hi.1 hi.2⟩).2

/-- **Row invariants.** What every transition through backends in `B` keeps, and a new row has, a
run through such backends keeps of all rows. -/
theorem after_row_invariant (hnew : ∀ app c, P app (.new c))
    (hstep : ∀ {b app act row row'}, B b → RowStep b app act row row' → row.Keyed → P app row →
      P app row')
    {l : Ledger} (hk : l.Keyed) (h : l.apps.All P) {run : List Input} (hrun : ∀ x ∈ run, B x.1) :
    (after l run).apps.All P := by
  induction run generalizing l with
  | nil => exact h
  | cons x xs ih =>
    exact ih (step_keyed hk)
      (step_row_invariant hnew (hstep (hrun x List.mem_cons_self)) hk h)
      fun y hy => hrun y (List.mem_cons_of_mem _ hy)

/-- What every transition keeps, and a new row has, every row of every reachable ledger has. -/
theorem Reachable.row_invariant (hnew : ∀ app c, P app (.new c))
    (hstep : ∀ {b app act row row'}, RowStep b app act row row' → row.Keyed → P app row → P app row')
    {l : Ledger} (h : Reachable l) : l.apps.All P := by
  obtain ⟨run, rfl⟩ := h
  exact after_row_invariant (B := fun _ => True) hnew (fun _ => hstep) Dict.all_empty
    Dict.all_empty fun _ _ => trivial

end

section

variable {B : Backend → Prop} {P : AppRow → Prop} {Q : AppRow → AppRow → Prop}

/-- What every transition does to a row, a call does to each row there was. -/
theorem step_row_rel {b : Backend} (hrefl : ∀ row, Q row row)
    (htrans : ∀ {r s t}, Q r s → Q s t → Q r t)
    (hstep : ∀ {app act row row'}, RowStep b app act row row' → P row → P row' ∧ Q row row')
    {l : Ledger} {c : Call} (hk : l.Keyed) {app : String} {row : AppRow}
    (hrow : l.apps.get? app = some row) (hP : P row) :
    ∃ row', (b.step l c).apps.get? app = some row' ∧ P row' ∧ Q row row' := by
  rcases step_cases b l c hk with hl | ⟨r, -, hr⟩
  · exact ⟨row, hl.symm ▸ hrow, hP, hrefl row⟩
  · obtain ⟨row', hrow'⟩ := hr.kept app row hrow
    obtain ⟨row₀, as, hrow₀, -, hsteps, -⟩ := hr.rows app row' hrow'
    rcases hrow₀ with hrow₀ | ⟨hnone, -⟩
    · cases hrow.symm.trans hrow₀
      exact ⟨row', hrow', hsteps.invariant hP fun _ hs h => (hstep hs h).1,
        hsteps.rel hrefl htrans hP fun _ hs h => hstep hs h⟩
    · exact absurd (hnone.symm.trans hrow) (by simp)

/-- **Row relations.** What every transition through backends in `B` does to a row, a run through
such backends does to each row there was. -/
theorem after_row_rel (hrefl : ∀ row, Q row row) (htrans : ∀ {r s t}, Q r s → Q s t → Q r t)
    (hstep : ∀ {b app act row row'}, B b → RowStep b app act row row' → P row →
      P row' ∧ Q row row')
    {l : Ledger} (hk : l.Keyed) {app : String} {row : AppRow} (hrow : l.apps.get? app = some row)
    (hP : P row) {run : List Input} (hrun : ∀ x ∈ run, B x.1) :
    ∃ row', (after l run).apps.get? app = some row' ∧ Q row row' := by
  induction run generalizing l row with
  | nil => exact ⟨row, hrow, hrefl row⟩
  | cons x xs ih =>
    obtain ⟨row₁, hrow₁, hP₁, h₁⟩ := step_row_rel (c := x.2) hrefl htrans
      (hstep (hrun x List.mem_cons_self)) hk hrow hP
    obtain ⟨row₂, hrow₂, h₂⟩ := ih (step_keyed hk) hrow₁ hP₁
      fun y hy => hrun y (List.mem_cons_of_mem _ hy)
    exact ⟨row₂, hrow₂, htrans h₁ h₂⟩

end

end Vibapp.Scheduler
