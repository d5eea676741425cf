import Vibapp.Scheduler.Claims

/-!
# When records are claimed and settled

What the calls of the delivery protocols check before they write: `Effect.Claimable` and
`Event.Claimable` of a record that is claimed, and of a finish and of an acknowledgment that the
claim they name is the outstanding one. `TableStep.accepts`, `TableStep.acks` and
`TableStep.requests` say which transitions settle a record or record an acknowledgment.
-/

namespace Vibapp.Scheduler

/-! ## When a notification is claimed -/

/-- The row can get its claim number `n + 1` at `now`: it is due and unclaimed, the app may notify,
the retry interval has passed, and the deadline, which is later for the first claim, has not. -/
structure Effect.Claimable (e : Effect) (permission : Permission) (due now : Instant) (n : Nat) :
    Prop where
  state : e.state = .pending
  unclaimed : e.claim = none
  permitted : permission = .authorized
  reached : due ≤ now
  count : e.adapterAttemptCount = n ∧ n < 3
  spaced : ∃ t, e.firstEligibleAtUtc.add? ((RETRY_OFFSETS[n]?).getD 0) = some t ∧ t ≤ now
  deadline : ∃ cutoff, due.add? GRACE_SECONDS = some cutoff ∧
    (now ≤ cutoff ∨ n = 0 ∧ ∃ tolerated,
      e.firstEligibleAtUtc.add? e.firstAttemptTolerance = some tolerated ∧ now ≤ tolerated)

theorem attemptDeadline_eq_ok {due now deadline : Instant} {e : Effect}
    (h : attemptDeadline due e = .ok deadline) (hnow : now ≤ deadline) :
    ∃ cutoff, due.add? GRACE_SECONDS = some cutoff ∧
      (now ≤ cutoff ∨ e.adapterAttemptCount = 0 ∧ ∃ tolerated,
        e.firstEligibleAtUtc.add? e.firstAttemptTolerance = some tolerated ∧ now ≤ tolerated) := by
  obtain ⟨cutoff, hcutoff, h⟩ := bind_eq_ok.1 h
  refine ⟨cutoff, overflow_eq_ok.1 hcutoff, ?_⟩
  split at h
  · rename_i hzero
    obtain ⟨tolerated, htol, h⟩ := bind_eq_ok.1 h
    cases pure_eq_ok.1 h
    rcases le_max_iff.1 hnow with hle | hle
    · exact .inl hle
    · exact .inr ⟨hzero, tolerated, overflow_eq_ok.1 htol, hle⟩
  · cases pure_eq_ok.1 h
    exact .inl hnow

theorem claimable_of_consider {e : Effect} {p : Permission} {due now : Instant}
    (h : considerEffect p due now e = .ok .grant) :
    e.Claimable p due now e.adapterAttemptCount := by
  obtain ⟨hstate, hclaim, hdue, hgrant⟩ := considerEffect_eq_ok h (by simp)
  obtain ⟨hp, hlt, ⟨deadline, hd, hle⟩, eligible, hel, hnow⟩ := hgrant rfl
  exact ⟨hstate, hclaim, hp, hdue, ⟨rfl, hlt⟩, ⟨eligible, hel, hnow⟩, attemptDeadline_eq_ok hd hle⟩

/-- A scan so far has only failed rows: what is pending is as it was, and so are the due times. -/
structure AppRow.Scanned (row row' : AppRow) : Prop where
  context : row'.context = row.context
  outbox : ∀ k e, row'.outbox.get? k = some e → e.state = .pending → row.outbox.get? k = some e
  due : ∀ oid o', row'.occurrences.get? oid = some o' →
    ∃ o, row.occurrences.get? oid = some o ∧ o'.dueAtUtc = o.dueAtUtc

theorem AppRow.Scanned.refl (row : AppRow) : row.Scanned row :=
  ⟨rfl, fun _ _ h _ => h, fun _ o h => ⟨o, h, rfl⟩⟩

section

variable {b : Backend} {app : String} {row row' : AppRow}

theorem AppRow.Scanned.fail (h : row.Scanned row') {key reason : String} {e : Effect} {occ : Occurrence}
    (ho : row'.occurrences.get? e.occurrenceId = some occ) :
    row.Scanned (row'.putEffect key (e.fail reason) occ (some .notificationFailed)) where
  context := h.context
  outbox k e' he' hp := by
    have he' : (row'.outbox.set key (e.fail reason)).get? k = some e' := he'
    rw [Dict.get?_set] at he'
    split at he'
    · rw [← Option.some.inj he'] at hp
      exact absurd hp (by simp [Effect.fail])
    · exact h.outbox k e' he' hp
  due oid o' ho' := by
    have ho' : (row'.occurrences.set e.occurrenceId { occ with state := .notificationFailed }).get? oid =
        some o' := ho'
    rw [Dict.get?_set] at ho'
    split at ho'
    · rename_i hoid
      obtain ⟨o, hold, hdue⟩ := h.due _ occ ho
      rw [hoid, ← Option.some.inj ho']
      exact ⟨o, hold, hdue⟩
    · exact h.due oid o' ho'

/-- The row that a scan grants, as it was before the call. -/
theorem scanEffects_grants {row₀ : AppRow} {owner : String} {now : Instant} {keys : List String}
    {g : NotificationClaim} (hk : row₀.Keyed) (hs : row₀.Scanned row)
    (h : b.scanEffects app owner now keys row = .ok (row', some g)) :
    ∃ e occ, row₀.outbox.get? g.notificationId = some e ∧
      row₀.occurrences.get? e.occurrenceId = some occ ∧
      e.Claimable row₀.context.notificationPermission occ.dueAtUtc now e.adapterAttemptCount := by
  induction keys generalizing row with
  | nil => exact absurd (congrArg Prod.snd (pure_eq_ok.1 h)) (by simp)
  | cons key rest ih =>
    obtain ⟨e, he, h⟩ := bind_eq_ok.1 h
    obtain ⟨occ, ho, h⟩ := bind_eq_ok.1 h
    obtain ⟨verdict, hv, h⟩ := bind_eq_ok.1 h
    rw [item_eq_ok] at he ho
    cases verdict with
    | skip => exact ih hs h
    | fail reason =>
      obtain ⟨row₁, hf, h⟩ := bind_eq_ok.1 h
      obtain ⟨occ', ho', rfl⟩ := failedNotification_eq_ok hf
      exact ih (hs.fail ho') h
    | grant =>
      obtain ⟨token, -, h⟩ := bind_eq_ok.1 h
      cases pure_eq_ok.1 h
      have hclaim := claimable_of_consider hv
      have he₀ := hs.outbox key e he hclaim.state
      obtain ⟨o, ho₀, hdue⟩ := hs.due _ occ ho
      rw [hs.context, hdue] at hclaim
      refine ⟨e, o, ?_, ho₀, hclaim⟩
      show row₀.outbox.get? e.notificationId = some e
      rw [hk.outbox he₀]
      exact he₀

end

/-! ## When a guest event is claimed -/

/-- The event can get its claim number `n + 1` at `now`. -/
structure Event.Claimable (e : Event) (now : Instant) (n : Nat) : Prop where
  state : e.state = .pending
  unclaimed : e.claim = none
  due : e.scheduledForUtc ≤ now
  count : e.attempts = n ∧ n < 3

/-- The app may run guests of this generation. -/
structure Context.Runs (c : Context) (generation : String) : Prop where
  enabled : c.enabled = true
  granted : c.schedulerGranted = true
  settled : c.rollbackState = .none
  active : c.activeGeneration = some generation

theorem guestGeneration_eq_some {row : AppRow} {generation : String}
    (h : row.guestGeneration = some generation) : row.context.Runs generation := by
  unfold AppRow.guestGeneration at h
  dsimp only at h
  split at h
  · exact absurd h (by simp)
  · rename_i hc
    simp only [Bool.or_eq_true, Bool.not_eq_true', decide_eq_true_eq, ne_eq, not_or, not_not,
      Bool.not_eq_false] at hc
    exact ⟨hc.1.1, hc.1.2, hc.2, (Option.filter_eq_some_iff.1 h).1⟩

theorem runs_of_authority {row : AppRow} {generation : String}
    (h : authority row (some generation) = .ok ()) : row.context.Runs generation := by
  obtain ⟨hen, hgr, hgen, hroll⟩ := authority_eq_ok h
  exact ⟨hen, hgr, hroll rfl rfl, hgen generation rfl⟩

theorem claimable_of_ready {e : Event} {now : Instant} (hr : e.notReady now = false)
    (hn : e.attempts < 3) : e.Claimable now e.attempts := by
  simp only [Event.notReady, Bool.or_eq_false_iff, decide_eq_false_iff_not, ne_eq, not_not,
    not_lt] at hr
  exact ⟨hr.1.1, Option.not_isSome_iff_eq_none.1 (by simp [hr.1.2]), hr.2, rfl, hn⟩

section

variable {b : Backend} {app : String} {row row' : AppRow}

/-- The event that a scan grants, as it was before the call. A scan so far has only
dead-lettered events. -/
theorem scanEvents_grants {row₀ : AppRow} {owner generation : String} {now : Instant}
    {keys : List String} {g : GuestClaim} (hk : row₀.Keyed)
    (hs : ∀ k e, row.guestEvents.get? k = some e → e.state = .pending →
      row₀.guestEvents.get? k = some e)
    (h : b.scanEvents app owner generation now keys row = .ok (row', some g)) :
    ∃ e, row₀.guestEvents.get? g.guestEventId = some e ∧ e.Claimable now e.attempts ∧
      g.generation = generation ∧ g.attempt = e.attempts + 1 := by
  induction keys generalizing row with
  | nil => exact absurd (congrArg Prod.snd (pure_eq_ok.1 h)) (by simp)
  | cons key rest ih =>
    obtain ⟨e, he, h⟩ := bind_eq_ok.1 h
    rw [item_eq_ok] at he
    split at h
    · exact ih hs h
    · rename_i hr
      split at h
      · refine ih (fun k e' he' hp => ?_) h
        have he' : (row.guestEvents.set key { e with state := .deadLettered }).get? k = some e' := he'
        rw [Dict.get?_set] at he'
        split at he'
        · rw [← Option.some.inj he'] at hp
          exact absurd hp (by simp)
        · exact hs k e' he' hp
      · rename_i hn
        obtain ⟨token, -, h⟩ := bind_eq_ok.1 h
        cases pure_eq_ok.1 h
        have hclaim := claimable_of_ready (Bool.eq_false_iff.2 hr) (Nat.lt_of_not_le hn)
        have he₀ := hs key e he hclaim.state
        refine ⟨e, ?_, hclaim, rfl, rfl⟩
        show row₀.guestEvents.get? e.guestEventId = some e
        rw [hk.events he₀]
        exact he₀

end

/-! ## Settling -/

section

variable {b : Backend} {app : String} {row row' : AppRow}

/-- Only a finish with the result `accepted` makes a row accepted. -/
theorem TableStep.accepts {act : Act} (hs : TableStep b app row row' act) (hm : row.Matched)
    {id : String} {e' : Effect} (he' : row'.outbox.get? id = some e') (hacc : e'.state = .accepted) :
    row.outbox.get? id = some e' ∨ ∃ token now, act = .effect id (.settle token .accepted now) := by
  cases hs with
  | same _ hout _ =>
    rw [hout] at he'
    exact .inl he'
  | fired hout he =>
    left
    rcases hout with hout | ⟨-, hout⟩
    · rwa [hout] at he'
    · rw [hout, Dict.get?_set] at he'
      split at he'
      · rw [← Option.some.inj he', he.1] at hacc
        exact absurd hacc (by simp)
      · exact he'
  | @effect key act e e₁ due state he hstep _ hout _ =>
    rw [hout, Dict.get?_set] at he'
    split at he'
    · rename_i hid
      obtain rfl := Option.some.inj he'
      obtain ⟨hp, hclaim, hfollows⟩ := hstep.pending (hm.outbox he).2
      rw [hid]
      -- of the outcomes only `accept` leaves the row accepted
      cases hstep with
      | accept attempts now hc => exact .inr ⟨_, now, rfl⟩
      | expire => exact absurd hacc (by simp [Effect.fail])
      | giveUp => exact absurd hacc (by simp [Effect.fail])
      | lose => exact absurd hacc (by simp [Effect.fail])
      | grant => exact absurd (hp.symm.trans hacc) (by simp)
      | retry => exact absurd (hp.symm.trans hacc) (by simp)
      | recover => exact absurd (hp.symm.trans hacc) (by simp)
    · exact .inl he'
  | event _ _ _ _ hout =>
    rw [hout] at he'
    exact .inl he'

/-- Only a finish with the result `success` makes an event acknowledged. -/
theorem TableStep.acks {act : Act} (hs : TableStep b app row row' act) (hm : row.Matched)
    {id : String} {g' : Event} (hg' : row'.guestEvents.get? id = some g') (hacked : g'.state = .acked) :
    row.guestEvents.get? id = some g' ∨ ∃ token, act = .event id (.settle token .success) := by
  cases hs with
  | same _ _ hev =>
    rw [hev] at hg'
    exact .inl hg'
  | fired _ _ _ hev hg =>
    left
    rw [hev, Dict.get?_set] at hg'
    split at hg'
    · rw [← Option.some.inj hg', hg.1] at hacked
      exact absurd hacked (by simp)
    · exact hg'
  | effect _ _ _ _ hev =>
    rw [hev] at hg'
    exact .inl hg'
  | @event key act e e₁ he hstep _ hev _ =>
    rw [hev, Dict.get?_set] at hg'
    split at hg'
    · rename_i hid
      obtain rfl := Option.some.inj hg'
      obtain ⟨hp, -⟩ := hstep.pending (hm.events he).2
      rw [hid]
      cases hstep with
      | success hc => exact .inr ⟨_, rfl⟩
      | expire => exact absurd hacked (by simp)
      | grant => exact absurd (hp.symm.trans hacked) (by simp)
      | acknowledge => exact absurd (hp.symm.trans hacked) (by simp)
      | release => exact absurd hacked (by unfold Event.release; dsimp only; split <;> simp)
      | recover => exact absurd hacked (by unfold Event.recovered; dsimp only; split <;> simp [hp])
    · exact .inl hg'

/-- Only an acknowledgment with the token of the outstanding claim records an outcome. -/
theorem TableStep.requests {act : Act} (hs : TableStep b app row row' act) {id : String} {g' : Event}
    {outcome : AckOutcome} (hg' : row'.guestEvents.get? id = some g')
    (hack : g'.ackRequested = some outcome) :
    (∃ g, row.guestEvents.get? id = some g ∧ g.ackRequested = some outcome ∧ g.claim = g'.claim) ∨
      ∃ token generation, act = .event id (.acknowledge outcome token generation) := by
  cases hs with
  | same _ _ hev =>
    rw [hev] at hg'
    exact .inl ⟨g', hg', hack, rfl⟩
  | fired _ _ _ hev hg =>
    left
    rw [hev, Dict.get?_set] at hg'
    split at hg'
    · rw [← Option.some.inj hg', hg.2.2] at hack
      exact absurd hack (by simp)
    · exact ⟨g', hg', hack, rfl⟩
  | effect _ _ _ _ hev =>
    rw [hev] at hg'
    exact .inl ⟨g', hg', hack, rfl⟩
  | @event key act e e₁ he hstep _ hev _ =>
    rw [hev, Dict.get?_set] at hg'
    split at hg'
    · rename_i hid
      obtain rfl := Option.some.inj hg'
      rw [hid]
      cases hstep with
      | expire => exact .inl ⟨e, he, hack, rfl⟩
      | acknowledge o hc =>
        obtain rfl := Option.some.inj hack
        exact .inr ⟨_, _, rfl⟩
      | grant => exact absurd hack (by simp [Event.granted])
      | success => exact absurd hack (by simp [Event.ack])
      | release => exact absurd hack (by simp [Event.release])
      | recover => exact absurd hack (by simp [Event.recovered])
    · exact .inl ⟨g', hg', hack, rfl⟩

/-- What every transition keeps, or an act of some kind explains, a sequence does. -/
theorem steps_explained {P : AppRow → Prop} {Q : Act → Prop} {as : List Act}
    (hs : Steps (RowStep b app) as row row') (hm : row.Matched) (hk : row.Keyed)
    (hstep : ∀ {act row row'}, TableStep b app row row' act → row.Matched → P row' →
      P row ∨ Q act) (hP : P row') : P row ∨ ∃ act ∈ as, Q act := by
  induction hs with
  | nil => exact .inl hP
  | @cons act as row₁ row₂ row₃ head tail ih =>
    rcases ih (head.matched hm) (head.keyed hk) hP with hmid | ⟨a, ha, hQ⟩
    · rcases hstep (head.tables hm hk) hm hmid with h | h
      · exact .inl h
      · exact .inr ⟨act, List.mem_cons_self, h⟩
    · exact .inr ⟨a, List.mem_cons_of_mem _ ha, hQ⟩

end

/-! ## What a finish needs -/

section

variable {row row' : AppRow}

theorem failedNotification_claim {key reason : String} {e : Effect}
    (h : failedNotification row key e reason = .ok row') :
    ∃ e', row'.outbox.get? key = some e' ∧ e'.claim = none := by
  obtain ⟨occ, -, rfl⟩ := failedNotification_eq_ok h
  exact ⟨e.fail reason, Dict.get?_set_self _ _ _, rfl⟩

/-- A finished row was claimed under the token, and is no longer. -/
theorem finishEffect_eq_ok {id token : String} {result : AdapterResult} {now : Instant}
    (h : finishEffect row id token result now = .ok row') :
    (∃ e c, row.outbox.get? id = some e ∧ e.claim = some c ∧ c.token = token) ∧
      ∃ e', row'.outbox.get? id = some e' ∧ e'.claim = none := by
  unfold finishEffect at h
  simp only at h
  split at h
  · rename_i e he
    split at h
    · rename_i c hc
      split at h
      · exact absurd h (error_ne_ok _ _ _)
      · rename_i htoken
        refine ⟨⟨e, c, he, hc, by simpa using htoken⟩, ?_⟩
        obtain ⟨attempts, -, h⟩ := bind_eq_ok.1 h
        split at h
        · obtain ⟨occ, -, rfl⟩ := setOccurrenceState_eq_ok h
          exact ⟨_, Dict.get?_set_self _ _ _, rfl⟩
        · obtain ⟨occ, -, h⟩ := bind_eq_ok.1 h
          obtain ⟨x, -, h⟩ := bind_eq_ok.1 h
          cases x with
          | true => exact failedNotification_claim h
          | false =>
            cases pure_eq_ok.1 h
            exact ⟨_, Dict.get?_set_self _ _ _, rfl⟩
    · exact absurd h (error_ne_ok _ _ _)
  · exact absurd h (error_ne_ok _ _ _)

/-- A finished event was claimed under the token, and is no longer. A success needs the claim's
generation to be the one the app runs, and a recorded acknowledgment, whose outcome it keeps. -/
theorem finishEvent_eq_ok {id token : String} {result : GuestResult}
    (h : finishEvent row id token result = .ok row') :
    ∃ e c e', row.guestEvents.get? id = some e ∧ e.claim = some c ∧ c.token = token ∧
      row'.guestEvents.get? id = some e' ∧ e'.claim = none ∧
      (result = .success → row.context.Runs c.generation ∧
        ∃ outcome, e.ackRequested = some outcome ∧ e'.guestOutcome = some outcome) := by
  unfold finishEvent at h
  simp only at h
  split at h
  · rename_i e he
    split at h
    · rename_i c hc
      split at h
      · exact absurd h (error_ne_ok _ _ _)
      · rename_i htoken
        have htoken : c.token = token := by simpa using htoken
        split at h
        · obtain ⟨⟨⟩, hauth, h⟩ := bind_eq_ok.1 h
          split at h
          · exact absurd h (error_ne_ok _ _ _)
          · rename_i outcome hack
            obtain ⟨occ, -, h⟩ := bind_eq_ok.1 h
            refine ⟨e, c, e.ack outcome, he, hc, htoken, ?_, rfl, fun _ =>
              ⟨runs_of_authority hauth, outcome, hack, rfl⟩⟩
            split at h
            · obtain ⟨occ', -, rfl⟩ := setOccurrenceState_eq_ok h
              exact Dict.get?_set_self _ _ _
            · cases pure_eq_ok.1 h
              exact Dict.get?_set_self _ _ _
        · rename_i hres
          cases pure_eq_ok.1 h
          exact ⟨e, c, _, he, hc, htoken, Dict.get?_set_self _ _ _, rfl, fun hs => absurd hs hres⟩
    · exact absurd h (error_ne_ok _ _ _)
  · exact absurd h (error_ne_ok _ _ _)

variable {b : Backend} {l l' : Ledger} {r : Reply}

theorem perform_finishNotification {app id token result nowUtc : String}
    (h : b.perform l (.finishNotification app id token result nowUtc) = .ok (l', r)) :
    ∃ row row' res now, l.apps.get? app = some row ∧ adapterResult? result = some res ∧
      finishEffect row id token res now = .ok row' ∧ l' = l.setApp app row' := by
  obtain ⟨⟨l₁, ⟨⟩⟩, hc, h⟩ := bind_eq_ok.1 h
  cases pure_eq_ok.1 h
  obtain ⟨now, -, hc⟩ := bind_eq_ok.1 hc
  split at hc
  · exact absurd hc (error_ne_ok _ _ _)
  · rename_i res hres
    obtain ⟨row, hrow, hc⟩ := bind_eq_ok.1 (edit_eq_ok hc)
    obtain ⟨row', hf, hc⟩ := bind_eq_ok.1 hc
    cases pure_eq_ok.1 hc
    exact ⟨row, row', res, now, app_eq_ok hrow, hres, hf, rfl⟩

theorem perform_finishGuest {app id token result : String}
    (h : b.perform l (.finishGuest app id token result) = .ok (l', r)) :
    ∃ row row' res, l.apps.get? app = some row ∧ guestResult? result = some res ∧
      finishEvent row id token res = .ok row' ∧ l' = l.setApp app row' := by
  obtain ⟨⟨l₁, ⟨⟩⟩, hc, h⟩ := bind_eq_ok.1 h
  cases pure_eq_ok.1 h
  unfold finishGuest at hc
  split at hc
  · exact absurd hc (error_ne_ok _ _ _)
  · rename_i res hres
    obtain ⟨row, hrow, hc⟩ := bind_eq_ok.1 (edit_eq_ok hc)
    obtain ⟨row', hf, hc⟩ := bind_eq_ok.1 hc
    cases pure_eq_ok.1 hc
    exact ⟨row, row', res, app_eq_ok hrow, hres, hf, rfl⟩

end

/-! ## What an acknowledgment does -/

section

variable {b : Backend} {row row' : AppRow} {l l' : Ledger} {r : Reply}

theorem markAction_events {operation : String} {payload : List (String × Json)}
    (h : b.markAction row operation payload = .ok row') : row'.guestEvents = row.guestEvents := by
  unfold Backend.markAction at h
  dsimp only at h
  split at h
  · split at h
    · split at h <;> cases h
      rfl
    · cases h
      rfl
  · cases h
    rfl

theorem applyAcknowledge_eq_ok {occurrence generation token : String} {outcome : AckOutcome} {v : Value}
    (h : applyAcknowledge occurrence outcome generation token row = .ok (row', v)) :
    v = .null ∧ ∃ e c, row.guestEvents.get? (guestId occurrence) = some e ∧ e.claim = some c ∧
      c.token = token ∧ c.generation = generation ∧
      row' = { row with guestEvents :=
        row.guestEvents.set (guestId occurrence) { e with ackRequested := some outcome } } := by
  unfold applyAcknowledge at h
  dsimp only at h
  split at h
  · rename_i e he
    split at h
    · rename_i c hc
      split at h
      · exact absurd h (error_ne_ok _ _ _)
      · rename_i hclaim
        simp only [not_or, not_not, ne_eq] at hclaim
        cases h
        exact ⟨rfl, e, c, he, hc, hclaim.1, hclaim.2, rfl⟩
    · exact absurd h (error_ne_ok _ _ _)
  · exact absurd h (error_ne_ok _ _ _)

/-- `scheduler_acknowledge_occurrence` changes no guest event, or it records the outcome on the
event whose current claim it names, under the generation the app runs, and says so. -/
theorem perform_acknowledge {app occurrence outcome key generation token : String}
    (h : b.perform l (.acknowledge app occurrence outcome key generation token) = .ok (l', r)) :
    l' = l ∨ ∃ row row', l.apps.get? app = some row ∧ l' = l.setApp app row' ∧
      (row'.guestEvents = row.guestEvents ∨ r = .response (.ok .null) ∧
        ∃ o e c, ackOutcome? outcome = some o ∧
          row.guestEvents.get? (guestId occurrence) = some e ∧ e.claim = some c ∧ c.token = token ∧
          c.generation = generation ∧ row.context.Runs generation ∧
          row'.guestEvents =
            row.guestEvents.set (guestId occurrence) { e with ackRequested := some o }) := by
  obtain ⟨response, rfl, rfl | ⟨m, hm, hcall⟩⟩ := respond_eq_ok h
  · exact .inl rfl
  · obtain ⟨o, ho, rfl⟩ := acknowledgeMutation_eq_ok hm
    obtain ⟨payload, key', fingerprint, row, row', -, -, -, hrow, hmut, rfl⟩ := mutatingCall_eq_ok hcall
    refine .inr ⟨row, row', hrow, rfl, ?_⟩
    unfold Backend.mutateRow at hmut
    split at hmut
    · cases hmut
      left
      split <;> rfl
    · cases hmut
    · rename_i hauth
      split at hmut
      · left
        unfold Backend.replay at hmut
        split at hmut
        · cases pure_eq_ok.1 hmut
          rfl
        · obtain ⟨row₁, hmark, hmut⟩ := bind_eq_ok.1 hmut
          cases pure_eq_ok.1 hmut
          exact markAction_events hmark
      · unfold execute at hmut
        split at hmut
        · rename_i updated v hv
          cases pure_eq_ok.1 hmut
          obtain ⟨rfl, e, c, he, hc, htoken, hgen, rfl⟩ := applyAcknowledge_eq_ok hv
          exact .inr ⟨rfl, o, e, c, ho, he, hc, htoken, hgen, runs_of_authority hauth, rfl⟩
        · cases pure_eq_ok.1 hmut
          exact .inl rfl
        · cases hmut

end

end Vibapp.Scheduler
