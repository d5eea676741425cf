import Vibapp.Scheduler.Runs

/-!
# Occurrences, notifications and guest events agree

Three tables tell one story: an occurrence awaits a delivery, was delivered or failed exactly
when its outbox row says so, and it has a guest event exactly when it left `scheduled` other
than by cancellation. `Matched₁` says this of one occurrence id, `AppRow.Matched` of a row, and
`RowStep.matched` that every transition keeps it, including the failures a claim makes while it
scans. `AppRow.Grows` is what never goes back: no id disappears, and what is terminal stays.
-/

namespace Vibapp.Scheduler

/-! ## The invariant -/

/-- The state of the outbox row of an occurrence in this state, if it has one. -/
def OccurrenceState.effectState? : OccurrenceState → Option EffectState
  | .deliveryPending => some .pending
  | .notificationAccepted => some .accepted
  | .notificationFailed => some .failed
  | _ => none

/-- The occurrence was taken up, and not to be cancelled. -/
def OccurrenceState.isFired (s : OccurrenceState) : Prop := s ≠ .scheduled ∧ s ≠ .cancelled

/-- An occurrence, its outbox row and its guest event agree. -/
def Matched₁ (o : Option Occurrence) (e : Option Effect) (g : Option Event) : Prop :=
  match o with
  | none => e = none ∧ g = none
  | some o => e.map Effect.state = o.state.effectState? ∧ (g.isSome ↔ o.state.isFired)

/-- The three tables of a row agree, and only what is pending is claimed. -/
structure AppRow.Matched (row : AppRow) : Prop where
  agree : ∀ oid, Matched₁ (row.occurrences.get? oid) (row.outbox.get? (notifyId oid))
    (row.guestEvents.get? (guestId oid))
  outbox : row.outbox.All fun k e => k = notifyId e.occurrenceId ∧ (e.claim ≠ none → e.state = .pending)
  events : row.guestEvents.All fun k g =>
    k = guestId g.occurrenceId ∧ (g.claim ≠ none → g.state = .pending)

theorem matched_new (c : Context) : (AppRow.new c).Matched :=
  ⟨fun _ => ⟨rfl, rfl⟩, Dict.all_empty, Dict.all_empty⟩

theorem append_left_injective (p : String) {s t : String} (h : p ++ s = p ++ t) : s = t := by
  have hl := congrArg String.toList h
  rw [String.toList_append, String.toList_append] at hl
  exact String.toList_inj.1 (List.append_cancel_left hl)

theorem notifyId_inj {s t : String} (h : notifyId s = notifyId t) : s = t :=
  append_left_injective _ h

theorem guestId_inj {s t : String} (h : guestId s = guestId t) : s = t := append_left_injective _ h

section

variable {row : AppRow}

/-- The occurrence of an outbox row, in the state that goes with it. -/
theorem AppRow.Matched.effect (h : row.Matched) {key : String} {e : Effect}
    (he : row.outbox.get? key = some e) :
    key = notifyId e.occurrenceId ∧ ∃ o, row.occurrences.get? e.occurrenceId = some o ∧
      o.state.effectState? = some e.state := by
  have hkey := (h.outbox he).1
  have hagree := h.agree e.occurrenceId
  rw [← hkey, he] at hagree
  cases ho : row.occurrences.get? e.occurrenceId with
  | none => rw [ho] at hagree; exact absurd hagree.1 (by simp)
  | some o => rw [ho] at hagree; exact ⟨hkey, o, rfl, hagree.1.symm⟩

theorem AppRow.Matched.event (h : row.Matched) {key : String} {g : Event}
    (hg : row.guestEvents.get? key = some g) :
    key = guestId g.occurrenceId ∧ ∃ o, row.occurrences.get? g.occurrenceId = some o ∧
      o.state.isFired := by
  have hkey := (h.events hg).1
  have hagree := h.agree g.occurrenceId
  rw [← hkey, hg] at hagree
  cases ho : row.occurrences.get? g.occurrenceId with
  | none => rw [ho] at hagree; exact absurd hagree.2 (by simp)
  | some o => rw [ho] at hagree; exact ⟨hkey, o, rfl, hagree.2.1 rfl⟩

theorem AppRow.Matched.absent (h : row.Matched) {oid : String}
    (ho : row.occurrences.get? oid = none) :
    row.outbox.get? (notifyId oid) = none ∧ row.guestEvents.get? (guestId oid) = none := by
  have hagree := h.agree oid
  rwa [ho] at hagree

end

/-! ## Transitions keep it -/

/-- What the agreement needs of a changed occurrence: it awaits the same and is fired alike. -/
theorem Matched₁.of_state {o o' : Occurrence} {e : Option Effect} {g : Option Event}
    (h : Matched₁ (some o) e g) (he : o'.state.effectState? = o.state.effectState?)
    (hf : o'.state.isFired ↔ o.state.isFired) : Matched₁ (some o') e g :=
  ⟨h.1.trans he.symm, h.2.trans hf.symm⟩

section

variable {row : AppRow}

theorem matched_cancelScheduled (h : row.Matched) (id : String) : (row.cancelScheduled id).Matched where
  agree oid := by
    have hagree := h.agree oid
    rw [get?_cancelScheduled]
    cases ho : row.occurrences.get? oid with
    | none => rw [ho] at hagree; exact hagree
    | some o =>
      rw [ho] at hagree
      rw [Option.map_some]
      split
      · rename_i hp
        have hs : o.state = .scheduled := by
          simp only [Occurrence.pendingOf, Bool.and_eq_true, decide_eq_true_eq] at hp
          exact hp.2
        refine hagree.of_state ?_ ?_ <;> simp [hs, OccurrenceState.effectState?, OccurrenceState.isFired]
      · exact hagree
  outbox := h.outbox
  events := h.events

theorem matched_superseded (h : row.Matched) (id : String) : (row.superseded id).Matched := by
  unfold AppRow.superseded
  split
  · exact matched_cancelScheduled h id
  · exact h

/-- Adding a scheduled occurrence under a new id, whatever happens to the alarms, the receipts
and the actions. -/
theorem matched_of_new {row' : AppRow} (h : row.Matched) {oid : String} {o : Occurrence}
    (hnew : row.occurrences.get? oid = none) (hs : o.state = .scheduled)
    (hocc : row'.occurrences = row.occurrences.set oid o) (hout : row'.outbox = row.outbox)
    (hev : row'.guestEvents = row.guestEvents) : row'.Matched where
  agree oid' := by
    rw [hocc, hout, hev, Dict.get?_set]
    split
    · rename_i hoid
      obtain ⟨he, hg⟩ := h.absent hnew
      rw [hoid, he, hg]
      simp [Matched₁, hs, OccurrenceState.effectState?, OccurrenceState.isFired]
    · exact h.agree oid'
  outbox := hout ▸ h.outbox
  events := hev ▸ h.events

/-- Only the alarms, the receipts, the actions or the context change. -/
theorem matched_of_eq {row' : AppRow} (h : row.Matched) (hocc : row'.occurrences = row.occurrences)
    (hout : row'.outbox = row.outbox) (hev : row'.guestEvents = row.guestEvents) : row'.Matched where
  agree oid := by
    rw [hocc, hout, hev]
    exact h.agree oid
  outbox := hout ▸ h.outbox
  events := hev ▸ h.events

theorem get?_superseded_of_none {id oid : String} (h : row.occurrences.get? oid = none) :
    (row.superseded id).occurrences.get? oid = none := by
  unfold AppRow.superseded
  split
  · rw [get?_cancelScheduled, h]
    rfl
  · exact h

theorem matched_fired (h : row.Matched) {oid : String} {occ : Occurrence} {x : Advance} {a : Alarm}
    (ho : row.occurrences.get? oid = some occ) (hs : occ.state = .scheduled) (adapterId : String) :
    (row.fired x oid occ a adapterId).Matched := by
  have hagree := h.agree oid
  rw [ho] at hagree
  have hnone : row.outbox.get? (notifyId oid) = none := by
    have := hagree.1
    rw [hs] at this
    exact Option.map_eq_none_iff.1 this
  have hne := firedState_ne (classify x row a occ) a.purpose
  refine ⟨fun oid' => ?_, ?_, ?_⟩
  · show Matched₁ ((row.occurrences.set oid (occ.fired x row oid a)).get? oid') _ _
    rw [Dict.get?_set]
    split
    · rename_i hoid
      rw [hoid]
      refine ⟨?_, ?_⟩
      · show Option.map _ (Dict.get? (if _ then _ else _) _) = _
        split
        · rename_i hp
          rw [Dict.get?_set_self, hp]
          rfl
        · rename_i hp
          rw [hnone]
          have hd : firedState (classify x row a occ) a.purpose ≠ .deliveryPending := hp
          show none = (firedState (classify x row a occ) a.purpose).effectState?
          revert hd hne
          cases firedState (classify x row a occ) a.purpose <;> simp [OccurrenceState.effectState?]
      · show ((row.guestEvents.set (guestId oid) _).get? (guestId oid)).isSome ↔ _
        rw [Dict.get?_set_self]
        exact ⟨fun _ => ⟨hne.1, hne.2.1⟩, fun _ => rfl⟩
    · rename_i hoid
      have hn : notifyId oid' ≠ notifyId oid := fun h => hoid (notifyId_inj h)
      have hg : guestId oid' ≠ guestId oid := fun h => hoid (guestId_inj h)
      have hout : (row.fired x oid occ a adapterId).outbox.get? (notifyId oid') =
          row.outbox.get? (notifyId oid') := by
        show Dict.get? (if _ then _ else _) _ = _
        split
        · exact Dict.get?_set_ne _ hn _
        · rfl
      have hev : (row.fired x oid occ a adapterId).guestEvents.get? (guestId oid') =
          row.guestEvents.get? (guestId oid') := Dict.get?_set_ne _ hg _
      rw [hout, hev]
      exact h.agree oid'
  · show Dict.All _ (if _ then _ else _)
    split
    · exact h.outbox.set ⟨rfl, fun _ => rfl⟩
    · exact h.outbox
  · exact h.events.set ⟨rfl, fun _ => rfl⟩

end

/-! ### The outbox protocol -/

/-- What a scan checks before it fails a row or grants it. -/
theorem considerEffect_eq_ok {p : Permission} {due now : Instant} {e : Effect} {v : Verdict}
    (h : considerEffect p due now e = .ok v) (hv : v ≠ .skip) :
    e.state = .pending ∧ e.claim = none ∧ due ≤ now ∧
      (v = .grant → p = .authorized ∧ e.adapterAttemptCount < 3 ∧
        (∃ deadline, attemptDeadline due e = .ok deadline ∧ now ≤ deadline) ∧
        ∃ eligible, e.firstEligibleAtUtc.add? ((RETRY_OFFSETS[e.adapterAttemptCount]?).getD 0) =
          some eligible ∧ eligible ≤ now) := by
  unfold considerEffect at h
  split at h
  · cases h
    exact absurd rfl hv
  · rename_i hready
    simp only [not_or, not_not, ne_eq] at hready
    split at h
    · cases h
      exact absurd rfl hv
    · rename_i hdue
      refine ⟨hready.1, hready.2, not_lt.1 hdue, ?_⟩
      rintro rfl
      split at h
      · cases h
      · rename_i hp
        obtain ⟨deadline, hd, h⟩ := bind_eq_ok.1 h
        split at h
        · cases h
        · rename_i hlate
          obtain ⟨eligible, he, h⟩ := bind_eq_ok.1 h
          simp only [not_or, not_le, not_lt] at hlate
          have hel : eligible ≤ now := by
            by_contra hlt
            rw [if_pos (not_le.1 hlt)] at h
            cases h
          exact ⟨not_not.1 hp, hlate.1, ⟨deadline, hd, hlate.2⟩, eligible, overflow_eq_ok.1 he, hel⟩

/-- The state an effect's transition gives its occurrence goes with the state it gives the
effect: none while the effect stays pending. -/
def Follows (s : Option OccurrenceState) (state : EffectState) : Prop :=
  match s with
  | some s => s.effectState? = some state ∧ s.isFired
  | none => state = .pending

/-- Only a pending row changes; a claim keeps it pending, and its occurrence gets the state that
goes with it. -/
theorem EffectStep.pending {p : Permission} {due : Instant} {act : EffectAct} {e e' : Effect}
    {s : Option OccurrenceState} (h : EffectStep p due act e e' s)
    (hclaim : e.claim ≠ none → e.state = .pending) :
    e.state = .pending ∧ (e'.claim ≠ none → e'.state = .pending) ∧ Follows s e'.state := by
  cases h with
  | expire h =>
    exact ⟨(considerEffect_eq_ok h (by simp)).1, fun h => absurd rfl h, rfl, by decide, by decide⟩
  | grant owner token h =>
    have hp := (considerEffect_eq_ok h (by simp)).1
    exact ⟨hp, fun _ => hp, hp⟩
  | accept attempts now hc =>
    exact ⟨hclaim (by simp [hc]), fun h => absurd rfl h, rfl, by decide, by decide⟩
  | retry attempts hc hr hx =>
    have hp := hclaim (by simp [hc])
    exact ⟨hp, fun _ => hp, hp⟩
  | giveUp attempts reason hc hr hx =>
    exact ⟨hclaim (by simp [hc]), fun h => absurd rfl h, rfl, by decide, by decide⟩
  | recover hc hn =>
    have hp := hclaim (by simp [hc])
    exact ⟨hp, fun _ => hp, hp⟩
  | lose reason hc hn =>
    exact ⟨hclaim (by simp [hc]), fun h => absurd rfl h, rfl, by decide, by decide⟩

section

variable {row : AppRow}

/-- A row of the outbox changes, and its occurrence with it. -/
theorem matched_putEffect (h : row.Matched) {key : String} {e e' : Effect} {occ : Occurrence}
    {s : Option OccurrenceState} (he : row.outbox.get? key = some e)
    (hid : e'.occurrenceId = e.occurrenceId)
    (ho : s ≠ none → row.occurrences.get? e.occurrenceId = some occ)
    (hclaim : e'.claim ≠ none → e'.state = .pending) (hpending : e.state = .pending)
    (hsync : Follows s e'.state) : (row.putEffect key e' occ s).Matched := by
  obtain ⟨hkey, o, ho', hstate⟩ := h.effect he
  have hagree := h.agree e.occurrenceId
  rw [← hkey, he, ho'] at hagree
  refine ⟨fun oid => ?_, h.outbox.set ⟨by rw [hid]; exact hkey, hclaim⟩, h.events⟩
  by_cases hoid : oid = e.occurrenceId
  · have hout : (row.putEffect key e' occ s).outbox.get? (notifyId oid) = some e' := by
      rw [hoid, ← hkey]
      exact Dict.get?_set_self _ _ _
    rw [hout, hoid]
    cases s with
    | none =>
      show Matched₁ (row.occurrences.get? e.occurrenceId) _ _
      rw [ho']
      have hsync : e'.state = .pending := hsync
      exact ⟨by rw [← hagree.1, Option.map_some, Option.map_some, hsync, hpending], hagree.2⟩
    | some s =>
      show Matched₁ ((row.occurrences.set e'.occurrenceId { occ with state := s }).get? _) _ _
      rw [hid, Dict.get?_set_self]
      have hfired : o.state.isFired := by
        revert hstate
        cases o.state <;> simp [OccurrenceState.effectState?, OccurrenceState.isFired]
      exact ⟨hsync.1.symm, fun _ => hsync.2, fun _ => hagree.2.2 hfired⟩
  · have hne : notifyId oid ≠ key := fun hk => hoid (notifyId_inj (hk.trans hkey))
    have hout : (row.putEffect key e' occ s).outbox.get? (notifyId oid) =
        row.outbox.get? (notifyId oid) := Dict.get?_set_ne _ hne _
    have hocc : (row.putEffect key e' occ s).occurrences.get? oid = row.occurrences.get? oid := by
      cases s with
      | none => rfl
      | some s => exact Dict.get?_set_ne _ (hid ▸ hoid) _
    rw [hout, hocc]
    exact h.agree oid

/-- A guest event changes; its occurrence may go from `guest-pending` to `guest-acked`. -/
theorem matched_putAcked (h : row.Matched) {key : String} {g g' : Event} {occ : Occurrence}
    (hg : row.guestEvents.get? key = some g) (hid : g'.occurrenceId = g.occurrenceId)
    (ho : row.occurrences.get? g.occurrenceId = some occ)
    (hclaim : g'.claim ≠ none → g'.state = .pending) : (row.putAcked key g' occ).Matched := by
  obtain ⟨hkey, o, ho', hfired⟩ := h.event hg
  obtain rfl : o = occ := Option.some.inj (ho'.symm.trans ho)
  refine ⟨fun oid => ?_, h.outbox, h.events.set ⟨by rw [hid]; exact hkey, hclaim⟩⟩
  have hagree := h.agree oid
  by_cases hoid : oid = g.occurrenceId
  · have hev : (row.putAcked key g' o).guestEvents.get? (guestId oid) = some g' := by
      rw [hoid, ← hkey]
      exact Dict.get?_set_self _ _ _
    rw [hev]
    rw [hoid, ho, ← hkey, hg] at hagree
    show Matched₁ ((if _ then _ else _ : Dict String Occurrence).get? oid) _ _
    split
    · rename_i hs
      rw [hid, hoid, Dict.get?_set_self]
      refine ⟨hagree.1.trans ?_, fun _ => by simp [OccurrenceState.isFired], fun _ => rfl⟩
      rw [hs]
      rfl
    · rw [hoid, ho]
      exact hagree
  · have hne : guestId oid ≠ key := fun hk => hoid (guestId_inj (hk.trans hkey))
    have hev : (row.putAcked key g' o).guestEvents.get? (guestId oid) =
        row.guestEvents.get? (guestId oid) := Dict.get?_set_ne _ hne _
    have hocc : (row.putAcked key g' o).occurrences.get? oid = row.occurrences.get? oid := by
      show (if _ then _ else _ : Dict String Occurrence).get? oid = _
      split
      · exact Dict.get?_set_ne _ (hid ▸ hoid) _
      · rfl
    rw [hev, hocc]
    exact hagree

theorem matched_putEvent (h : row.Matched) {key : String} {g g' : Event}
    (hg : row.guestEvents.get? key = some g) (hid : g'.occurrenceId = g.occurrenceId)
    (hclaim : g'.claim ≠ none → g'.state = .pending) : (row.putEvent key g').Matched := by
  obtain ⟨hkey, o, ho, hfired⟩ := h.event hg
  refine ⟨fun oid => ?_, h.outbox, h.events.set ⟨by rw [hid]; exact hkey, hclaim⟩⟩
  have hagree := h.agree oid
  show Matched₁ (row.occurrences.get? oid) _ ((row.guestEvents.set key g').get? _)
  rw [Dict.get?_set]
  split
  · rename_i hk
    have hoid : oid = g.occurrenceId := guestId_inj (hk.trans hkey)
    rw [hoid, ho, ← hkey, hg] at hagree
    rw [hoid, ho]
    exact ⟨hagree.1, fun _ => hfired, fun _ => rfl⟩
  · exact hagree

end

/-- Only a pending event changes, and a claim keeps it pending. -/
theorem EventStep.pending {row : AppRow} {act : EventAct} {g g' : Event} (h : EventStep row act g g')
    (hclaim : g.claim ≠ none → g.state = .pending) :
    g.state = .pending ∧ (g'.claim ≠ none → g'.state = .pending) := by
  have hready : ∀ now, g.notReady now = false → g.state = .pending := fun now h => by
    simp only [Event.notReady, Bool.or_eq_false_iff, decide_eq_false_iff_not, ne_eq, not_not] at h
    exact h.1.1
  cases h with
  | expire hr hn => exact ⟨hready _ hr, fun h => absurd (Option.not_isSome_iff_eq_none.1 (by
      simp only [Event.notReady, Bool.or_eq_false_iff] at hr
      simp [hr.1.2])) h⟩
  | grant owner token hg hr hn => exact ⟨hready _ hr, fun _ => hready _ hr⟩
  | acknowledge outcome hc ha =>
    have hp := hclaim (by simp [hc])
    exact ⟨hp, fun _ => hp⟩
  | success hc ha ho => exact ⟨hclaim (by simp [hc]), fun h => absurd rfl h⟩
  | release hc hr => exact ⟨hclaim (by simp [hc]), fun h => absurd rfl h⟩
  | recover hc => exact ⟨hclaim (by simp [hc]), fun h => absurd rfl h⟩

section

variable {b : Backend} {app : String}

/-- **Agreement.** Every transition keeps the three tables in step. -/
theorem RowStep.matched {act : Act} {row row' : AppRow} (hs : RowStep b app act row row')
    (h : row.Matched) : row'.Matched := by
  cases hs with
  | context => exact matched_of_eq h rfl rfl rfl
  | health => exact matched_of_eq h rfl rfl rfl
  | disable => exact matched_of_eq (matched_cancelScheduled h _) rfl rfl rfl
  | install _ _ _ hnew =>
    exact matched_of_new (matched_superseded h _) (get?_superseded_of_none hnew) rfl rfl rfl rfl
  | enable _ _ _ _ hnew => exact matched_of_new h hnew rfl rfl rfl rfl
  | snooze _ _ _ _ _ _ _ _ _ hnew => exact matched_of_new h hnew rfl rfl rfl rfl
  | receipt => exact matched_of_eq h rfl rfl rfl
  | dedup => exact matched_of_eq h rfl rfl rfl
  | @cancelSlot _ oid occ a ho hsched ha hr =>
    have hcancel : ({ row with
        occurrences := row.occurrences.set oid { occ with state := .cancelled } } : AppRow).Matched := by
      refine ⟨fun oid' => ?_, h.outbox, h.events⟩
      have hagree := h.agree oid'
      show Matched₁ ((row.occurrences.set oid _).get? oid') _ _
      rw [Dict.get?_set]
      split
      · rename_i hoid
        rw [hoid, ho] at hagree
        rw [hoid]
        refine hagree.of_state ?_ ?_ <;>
          simp [hsched, OccurrenceState.effectState?, OccurrenceState.isFired]
      · exact hagree
    unfold AppRow.cancelSlot
    dsimp only
    split
    · exact matched_of_eq hcancel rfl rfl rfl
    · exact hcancel
  | @fireSlot _ _ oid occ a x ho hsched _ _ _ hf =>
    obtain ⟨adapterId, hrow⟩ := fireSlot_eq_ok hf
    have hm := matched_fired (x := x) (a := a) h ho hsched adapterId
    rcases hrow with ⟨-, rfl⟩ | ⟨-, -, rfl⟩ | ⟨-, -, slot, -, hnew, rfl⟩
    · exact hm
    · exact matched_of_eq hm rfl rfl rfl
    · exact matched_of_new hm hnew rfl rfl rfl rfl
  | effect he ho hstep =>
    obtain ⟨hp, hc, hsync⟩ := hstep.pending (h.outbox he).2
    exact matched_putEffect h he hstep.ids.2 (fun _ => ho) hc hp hsync
  | @recoverEffect _ key e c he hc hn =>
    have hp := (h.outbox he).2 (by simp [hc])
    obtain ⟨-, o, -, -⟩ := h.effect he
    have hocc : (none : Option OccurrenceState) ≠ none →
        row.occurrences.get? e.occurrenceId = some o := fun hne => absurd rfl hne
    exact matched_putEffect (s := none) h he rfl hocc (fun hne => absurd rfl hne) hp hp
  | event he hstep =>
    exact matched_putEvent h he hstep.ids.2 (hstep.pending (h.events he).2).2
  | acked he ho hstep =>
    exact matched_putAcked h he hstep.ids.2 ho (hstep.pending (h.events he).2).2

theorem Reachable.matched {l : Ledger} (h : Reachable l) : l.apps.All fun _ row => row.Matched :=
  h.row_invariant (fun _ c => matched_new c) fun hs _ hm => hs.matched hm

end

/-! ## What never goes back -/

/-- The occurrence as `_materialize` created it. -/
def Occurrence.created (o : Occurrence) : Occurrence :=
  { o with state := .scheduled, classification := none, notificationId := none }

/-- An occurrence keeps what it was created with, stays cancelled, and never becomes scheduled
again. -/
structure Occurrence.Le (o o' : Occurrence) : Prop where
  created : o'.created = o.created
  cancelled : o.state = .cancelled → o' = o
  left : o.state ≠ .scheduled → o'.state ≠ .scheduled

theorem Occurrence.Le.refl (o : Occurrence) : o.Le o := ⟨rfl, fun _ => rfl, fun h => h⟩

theorem Occurrence.Le.trans {o₁ o₂ o₃ : Occurrence} (h₁ : o₁.Le o₂) (h₂ : o₂.Le o₃) : o₁.Le o₃ where
  created := h₂.created.trans h₁.created
  cancelled hc := by
    have h := h₁.cancelled hc
    rw [← h] at hc
    exact (h₂.cancelled hc).trans h
  left hs := h₂.left (h₁.left hs)

/-- A change of a state that is neither cancelled nor becomes scheduled. -/
theorem Occurrence.Le.of_state {o o' : Occurrence} (hcreated : o'.created = o.created)
    (ho : o.state ≠ .cancelled) (ho' : o'.state ≠ .scheduled) : o.Le o' :=
  ⟨hcreated, fun h => absurd h ho, fun _ => ho'⟩

/-- What of an alarm only a new revision changes. -/
def Alarm.settings (a : Alarm) : Alarm :=
  { a with nextOccurrenceId := none, permissionHealth := .notDetermined }

/-- An alarm keeps its settings, or gets a higher revision. -/
def Alarm.Le (a a' : Alarm) : Prop := a.revision < a'.revision ∨ a'.settings = a.settings

/-- A settled outbox row stays. -/
def Effect.Le (e e' : Effect) : Prop := e.state ≠ .pending → e' = e

/-- A settled guest event stays. -/
def Event.Le (g g' : Event) : Prop := g.state ≠ .pending → g' = g

/-- An action is only marked. -/
def Action.Le (x x' : Action) : Prop := { x' with deduplicated := x.deduplicated } = x

theorem Alarm.Le.refl (a : Alarm) : a.Le a := .inr rfl
theorem Effect.Le.refl (e : Effect) : e.Le e := fun _ => rfl
theorem Event.Le.refl (g : Event) : g.Le g := fun _ => rfl
theorem Action.Le.refl (x : Action) : x.Le x := rfl

theorem revision_of_settings {a a' : Alarm} (h : a'.settings = a.settings) :
    a'.revision = a.revision := by
  show a'.settings.revision = a.settings.revision
  rw [h]

theorem Alarm.Le.revision {a a' : Alarm} (h : a.Le a') : a.revision ≤ a'.revision := by
  rcases h with h | h
  · exact Nat.le_of_lt h
  · exact Nat.le_of_eq (revision_of_settings h).symm

theorem Alarm.Le.trans {a₁ a₂ a₃ : Alarm} (h₁ : a₁.Le a₂) (h₂ : a₂.Le a₃) : a₁.Le a₃ := by
  rcases h₁ with h | h
  · exact .inl (Nat.lt_of_lt_of_le h h₂.revision)
  · rcases h₂ with h' | h'
    · exact .inl (by rwa [← revision_of_settings h])
    · exact .inr (h'.trans h)

theorem Effect.Le.trans {e₁ e₂ e₃ : Effect} (h₁ : e₁.Le e₂) (h₂ : e₂.Le e₃) : e₁.Le e₃ := fun hs => by
  have h := h₁ hs
  rw [← h] at hs
  exact (h₂ hs).trans h

theorem Event.Le.trans {g₁ g₂ g₃ : Event} (h₁ : g₁.Le g₂) (h₂ : g₂.Le g₃) : g₁.Le g₃ := fun hs => by
  have h := h₁ hs
  rw [← h] at hs
  exact (h₂ hs).trans h

theorem Action.Le.trans {x₁ x₂ x₃ : Action} (h₁ : x₁.Le x₂) (h₂ : x₂.Le x₃) : x₁.Le x₃ := by
  unfold Action.Le at *
  rw [← h₁, ← h₂]

/-- No id of a row goes away, terminal records stay, revisions do not decrease. -/
structure AppRow.Grows (row row' : AppRow) : Prop where
  alarms : row.alarms.Le Alarm.Le row'.alarms
  occurrences : row.occurrences.Le Occurrence.Le row'.occurrences
  outbox : row.outbox.Le Effect.Le row'.outbox
  events : row.guestEvents.Le Event.Le row'.guestEvents
  commands : row.commands.Le Eq row'.commands
  actions : row.actions.Le Action.Le row'.actions

theorem AppRow.Grows.refl (row : AppRow) : row.Grows row :=
  ⟨.refl .refl _, .refl .refl _, .refl .refl _, .refl .refl _, .refl .refl _, .refl .refl _⟩

theorem AppRow.Grows.trans {r s t : AppRow} (h₁ : r.Grows s) (h₂ : s.Grows t) : r.Grows t where
  alarms := h₁.alarms.trans .trans h₂.alarms
  occurrences := h₁.occurrences.trans .trans h₂.occurrences
  outbox := h₁.outbox.trans .trans h₂.outbox
  events := h₁.events.trans .trans h₂.events
  commands := h₁.commands.trans (fun h₁ h₂ => h₁.trans h₂) h₂.commands
  actions := h₁.actions.trans .trans h₂.actions

section

variable {row : AppRow}

theorem grows_cancelScheduled (id : String) : row.Grows (row.cancelScheduled id) :=
  { AppRow.Grows.refl row with
    occurrences := Dict.le_mapVals fun _ o => by
      split
      · rename_i hp
        simp only [Occurrence.pendingOf, Bool.and_eq_true, decide_eq_true_eq] at hp
        exact .of_state rfl (by simp [hp.2]) (by simp)
      · exact .refl o }

theorem grows_superseded (id : String) : row.Grows (row.superseded id) := by
  unfold AppRow.superseded
  split
  · exact grows_cancelScheduled id
  · exact .refl row

/-- A new occurrence under a new id, and an alarm whose revision does not decrease. -/
theorem grows_armed {b : Backend} {key : String} {a : Alarm} {slot : Slot}
    (hnew : row.occurrences.get? (occurrenceId a.alarmId a.revision slot.due) = none)
    (ha : ∀ a₀, row.alarms.get? key = some a₀ →
      a₀.Le { a with nextOccurrenceId := some (occurrenceId a.alarmId a.revision slot.due) }) :
    row.Grows (b.armed row key a slot) :=
  { AppRow.Grows.refl row with
    alarms := Dict.le_set .refl ha
    occurrences := Dict.le_set_of_new .refl hnew _ }

theorem grows_setAlarm {key : String} {a₀ a : Alarm} (ha : row.alarms.get? key = some a₀)
    (hrev : a₀.Le a) : row.Grows (row.setAlarm key a) :=
  { AppRow.Grows.refl row with
    alarms := Dict.le_set_of_some .refl ha hrev }

theorem grows_fired (h : row.Matched) {oid : String} {occ : Occurrence} {x : Advance} {a : Alarm}
    (ho : row.occurrences.get? oid = some occ) (hs : occ.state = .scheduled) (adapterId : String) :
    row.Grows (row.fired x oid occ a adapterId) := by
  have hagree := h.agree oid
  rw [ho] at hagree
  have hout : row.outbox.get? (notifyId oid) = none := by
    have := hagree.1
    rw [hs] at this
    exact Option.map_eq_none_iff.1 this
  have hev : row.guestEvents.get? (guestId oid) = none := by
    cases hg : row.guestEvents.get? (guestId oid) with
    | none => rfl
    | some g =>
      rw [hg] at hagree
      exact absurd hs (hagree.2.1 rfl).1
  exact { AppRow.Grows.refl row with
    occurrences := Dict.le_set_of_some .refl ho
      (.of_state rfl (by simp [hs]) (firedState_ne _ _).1)
    outbox := by
      show Dict.Le _ _ (if _ then _ else _)
      split
      · exact Dict.le_set_of_new .refl hout _
      · exact .refl .refl _
    events := Dict.le_set_of_new .refl hev _ }

end

section

variable {b : Backend} {app : String}

/-- **Terminal immutability.** No transition drops an id, changes what is terminal or lowers a
revision. -/
theorem RowStep.grows {act : Act} {row row' : AppRow} (hs : RowStep b app act row row')
    (h : row.Matched) : row.Grows row' := by
  cases hs with
  | context => exact { AppRow.Grows.refl row with }
  | health p ha => exact grows_setAlarm ha (.inr rfl)
  | disable ha =>
    exact (grows_cancelScheduled _).trans (grows_setAlarm ha (.inl (Nat.lt_succ_self _)))
  | @install _ id _ _ _ _ _ _ _ _ hnew =>
    refine (grows_superseded id).trans (grows_armed (get?_superseded_of_none hnew) fun a₀ ha₀ => ?_)
    have ha₀ : row.alarms.get? id = some a₀ := by
      unfold AppRow.superseded at ha₀
      split at ha₀ <;> exact ha₀
    refine .inl (?_ : a₀.revision < row.nextRevision id)
    rw [AppRow.nextRevision, ha₀]
    exact Nat.lt_succ_self _
  | @enable _ key a slot _ _ ha _ _ hnew =>
    refine grows_armed hnew fun a₀ ha₀ => ?_
    rw [Option.some.inj (ha₀.symm.trans ha)]
    exact .inl (Nat.lt_succ_self _)
  | snooze _ hact _ _ _ _ _ _ _ hnew =>
    exact { AppRow.Grows.refl row with
      occurrences := Dict.le_set_of_new .refl hnew _
      actions := Dict.le_set_of_new .refl hact _ }
  | receipt r hnew =>
    exact { AppRow.Grows.refl row with commands := Dict.le_set_of_new .refl hnew _ }
  | dedup hx =>
    exact { AppRow.Grows.refl row with actions := Dict.le_set_of_some .refl hx rfl }
  | @cancelSlot _ oid occ a ho hsched ha =>
    have hcancel : row.Grows { row with
        occurrences := row.occurrences.set oid { occ with state := .cancelled } } :=
      { AppRow.Grows.refl row with
        occurrences := Dict.le_set_of_some .refl ho (.of_state rfl (by simp [hsched]) (by simp)) }
    unfold AppRow.cancelSlot
    dsimp only
    split
    · exact hcancel.trans (grows_setAlarm ha (.inr rfl))
    · exact hcancel
  | @fireSlot _ _ oid occ a x ho hsched _ ha _ hf =>
    obtain ⟨adapterId, hrow⟩ := fireSlot_eq_ok hf
    have hg := grows_fired (x := x) (a := a) h ho hsched adapterId
    rcases hrow with ⟨-, rfl⟩ | ⟨-, -, rfl⟩ | ⟨-, -, slot, -, hnew, rfl⟩
    · exact hg
    · exact hg.trans (grows_setAlarm ha (.inr rfl))
    · refine hg.trans (grows_armed hnew fun a₀ ha₀ => ?_)
      have ha₀ : row.alarms.get? occ.alarmId = some a₀ := ha₀
      rw [Option.some.inj (ha₀.symm.trans ha)]
      exact .inr rfl
  | @effect _ key act e e' occ s he ho hstep =>
    obtain ⟨hp, -, hsync⟩ := hstep.pending (h.outbox he).2
    obtain ⟨-, o, ho', hstate⟩ := h.effect he
    rw [Option.some.inj (ho'.symm.trans ho)] at hstate
    have hne : occ.state ≠ .cancelled := fun hc => by rw [hc] at hstate; cases hstate
    exact { AppRow.Grows.refl row with
      outbox := Dict.le_set_of_some .refl he fun hn => absurd hp hn
      occurrences := by
        cases s with
        | none => exact .refl .refl _
        | some s =>
          have ho' : row.occurrences.get? e'.occurrenceId = some occ := by rw [hstep.ids.2, ho]
          exact Dict.le_set_of_some .refl ho' (.of_state rfl hne hsync.2.1) }
  | recoverEffect he hc =>
    have hp := (h.outbox he).2 (by simp [hc])
    exact { AppRow.Grows.refl row with
      outbox := Dict.le_set_of_some .refl he fun hn => absurd hp hn }
  | event he hstep =>
    have hp := (hstep.pending (h.events he).2).1
    exact { AppRow.Grows.refl row with
      events := Dict.le_set_of_some .refl he fun hn => absurd hp hn }
  | @acked _ _ _ e e' occ he ho hstep =>
    have hp := (hstep.pending (h.events he).2).1
    exact { AppRow.Grows.refl row with
      events := Dict.le_set_of_some .refl he fun hn => absurd hp hn
      occurrences := by
        show Dict.Le _ _ (if _ then _ else _)
        split
        · rename_i hs
          have ho' : row.occurrences.get? e'.occurrenceId = some occ := by rw [hstep.ids.2, ho]
          exact Dict.le_set_of_some .refl ho' (.of_state rfl (by simp [hs]) (by simp))
        · exact .refl .refl _ }

/-- No run takes anything back from a row of a reachable ledger. -/
theorem after_grows {l : Ledger} (h : Reachable l) (run : List Input) {app : String} {row : AppRow}
    (hrow : l.apps.get? app = some row) :
    ∃ row', (after l run).apps.get? app = some row' ∧ row.Grows row' :=
  after_row_rel (B := fun _ => True) AppRow.Grows.refl AppRow.Grows.trans
    (fun _ hs h => ⟨hs.matched h, hs.grows h⟩) h.keyed hrow (h.matched hrow) fun _ _ => trivial

end

/-! ## The correspondence, in the words of the tables -/

/-- The occurrence has an outbox row in this state. -/
def AppRow.HasEffect (row : AppRow) (oid : String) (s : EffectState) : Prop :=
  ∃ nid e, row.outbox.get? nid = some e ∧ e.occurrenceId = oid ∧ e.state = s

/-- The guest event under `gid` is one of the occurrence. -/
def AppRow.EventOf (row : AppRow) (oid gid : String) : Prop :=
  ∃ g, row.guestEvents.get? gid = some g ∧ g.occurrenceId = oid

/-- One occurrence and the outbox rows and guest events that name it. -/
structure AppRow.Corresponds (row : AppRow) (oid : String) (o : Occurrence) : Prop where
  pending : o.state = .deliveryPending ↔ row.HasEffect oid .pending
  accepted : o.state = .notificationAccepted ↔ row.HasEffect oid .accepted
  failed : o.state = .notificationFailed ↔ row.HasEffect oid .failed
  other : o.state ≠ .deliveryPending → o.state ≠ .notificationAccepted →
    o.state ≠ .notificationFailed → ∀ s, ¬ row.HasEffect oid s
  fired : o.state ≠ .scheduled → o.state ≠ .cancelled → ∃! gid, row.EventOf oid gid
  unfired : o.state = .scheduled ∨ o.state = .cancelled → ∀ gid, ¬ row.EventOf oid gid

theorem AppRow.Matched.hasEffect_iff {row : AppRow} (h : row.Matched) {oid : String} {o : Occurrence}
    (ho : row.occurrences.get? oid = some o) (s : EffectState) :
    row.HasEffect oid s ↔ o.state.effectState? = some s := by
  have hagree := (h.agree oid)
  rw [ho] at hagree
  rw [← hagree.1, Option.map_eq_some_iff]
  constructor
  · rintro ⟨nid, e, he, hoid, hs⟩
    have hkey := (h.outbox he).1
    exact ⟨e, by rw [← hoid, ← hkey, he], hs⟩
  · rintro ⟨e, he, hs⟩
    exact ⟨_, e, he, (notifyId_inj (h.outbox he).1).symm, hs⟩

theorem AppRow.Matched.eventOf {row : AppRow} (h : row.Matched) {oid gid : String}
    (hg : row.EventOf oid gid) :
    gid = guestId oid ∧ ∀ o, row.occurrences.get? oid = some o → o.state.isFired := by
  obtain ⟨g, hg, rfl⟩ := hg
  obtain ⟨hkey, o, ho, hf⟩ := h.event hg
  exact ⟨hkey, fun o' ho' => Option.some.inj (ho.symm.trans ho') ▸ hf⟩

theorem AppRow.Matched.corresponds {row : AppRow} (h : row.Matched) {oid : String} {o : Occurrence}
    (ho : row.occurrences.get? oid = some o) : row.Corresponds oid o where
  pending := by
    rw [h.hasEffect_iff ho]
    cases o.state <;> simp [OccurrenceState.effectState?]
  accepted := by
    rw [h.hasEffect_iff ho]
    cases o.state <;> simp [OccurrenceState.effectState?]
  failed := by
    rw [h.hasEffect_iff ho]
    cases o.state <;> simp [OccurrenceState.effectState?]
  other h₁ h₂ h₃ s := by
    rw [h.hasEffect_iff ho]
    revert h₁ h₂ h₃
    cases o.state <;> simp [OccurrenceState.effectState?]
  fired hs hc := by
    have hagree := h.agree oid
    rw [ho] at hagree
    obtain ⟨g, hg⟩ := Option.isSome_iff_exists.1 (hagree.2.2 ⟨hs, hc⟩)
    have hid : g.occurrenceId = oid := (guestId_inj (h.events hg).1).symm
    exact ⟨guestId oid, ⟨g, hg, hid⟩, fun gid hgid => (h.eventOf hgid).1⟩
  unfired hs gid hgid := by
    have hf := (h.eventOf hgid).2 o ho
    rcases hs with hs | hs
    · exact hf.1 hs
    · exact hf.2 hs

/-- **Correspondence and terminal immutability.** In every reachable ledger the outbox and the
guest events say of each occurrence what its state says, and no call takes an id or a terminal
record back. -/
theorem tables_correspond {l : Ledger} (h : Reachable l) {app : String} {row : AppRow}
    (hrow : l.apps.get? app = some row) :
    (∀ oid o, row.occurrences.get? oid = some o → row.Corresponds oid o) ∧
      ∀ (b : Backend) (c : Call),
        ∃ row', (b.step l c).apps.get? app = some row' ∧ row.Grows row' :=
  ⟨fun _ _ ho => (h.matched hrow).corresponds ho, fun b c => after_grows h [(b, c)] hrow⟩

theorem tables_correspond_sample :
    (∀ oid o, sampleRow.occurrences.get? oid = some o → sampleRow.Corresponds oid o) ∧
      ∀ (b : Backend) (c : Call),
        ∃ row', (b.step (after .empty sampleRun) c).apps.get? "clock" = some row' ∧
          sampleRow.Grows row' :=
  tables_correspond ⟨sampleRun, rfl⟩ sampleRow_eq

end Vibapp.Scheduler
