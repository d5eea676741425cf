import Vibapp.Scheduler.Chains

/-!
# When the next slot is the least one

**Search.** `next_civil` looks at nine days, the first of them the local day of `after`, and takes
the first that is in the recurrence and resolves after `after` (`searchSlot_of_reaches`).

**Main result** (`nextCivil_least_iff`): the slot it takes is the least one still ahead unless all
nine days are passed over, a later date overtakes the one taken, or a gap has carried an earlier
date past `after`. Where offsets change by at most a day (`Zone.DayJumps`) the first two cannot
be, and the third only of the day before.

**The skipped date.** Samoa left out 30 December 2011, so the slot of that date falls on the next;
from that next day on, `next_civil` does not find it (`apia_misses_friday`).
-/

namespace Vibapp.Scheduler

section

variable {b : Backend} {v : LocalRecurrence} {z : Zone} {after : Instant}

/-! ## Slots still ahead -/

/-- The date is in the recurrence, and its slot, at `t`, is still ahead. -/
structure LocalRecurrence.Ahead (v : LocalRecurrence) (z : Zone) (after : Instant) (d : Date)
    (t : Instant) : Prop where
  start : v.startDate ≤ d
  «matches» : v.matches d = true
  resolved : resolveCivil d v.time z = .ok t
  later : after < t

/-- The slot is the least one still ahead. -/
def LocalRecurrence.Least (v : LocalRecurrence) (z : Zone) (after : Instant) (s : Slot) : Prop :=
  v.Ahead z after s.civilDate s.due ∧ ∀ d t, v.Ahead z after d t → s.due ≤ t

theorem LocalRecurrence.PassedOver.not_ahead {d : Date} {t : Instant}
    (h : v.PassedOver z after d) : ¬ v.Ahead z after d t := by
  intro ha
  obtain ⟨u, hu, hle⟩ := h ha.matches
  rw [ha.resolved] at hu
  cases hu
  exact absurd ha.later (not_lt.2 hle)

/-! ## The search -/

/-- The calendar is not exceeded: the days the search comes to resolve, and one that is passed
over has a next one. -/
def LocalRecurrence.Reaches (v : LocalRecurrence) (z : Zone) (after : Instant) : Nat → Date → Prop
  | 0, _ => True
  | n + 1, d =>
    (v.matches d = true → ∃ t, resolveCivil d v.time z = .ok t) ∧
    (v.PassedOver z after d → ∃ e, d.succ? = some e ∧ v.Reaches z after n e)

/-- A day that resolves is found or passed over. -/
theorem slotOn_cases {d : Date} (h : v.matches d = true → ∃ t, resolveCivil d v.time z = .ok t) :
    (∃ s, slotOn v z after d = .ok (some s)) ∨ slotOn v z after d = .ok none := by
  unfold slotOn
  by_cases hm : v.matches d = true
  · obtain ⟨t, ht⟩ := h hm
    rw [if_pos hm, ht]
    by_cases hlt : after < t
    · exact .inl ⟨⟨t, d⟩, by simp [bind, Except.bind, pure, Except.pure, hlt]⟩
    · exact .inr (by simp [bind, Except.bind, pure, Except.pure, hlt])
  · rw [if_neg hm]
    exact .inr rfl

/-- The search ends on one of its days, or has passed over all of them. -/
theorem searchSlot_of_reaches {n : Nat} {d : Date} (h : v.Reaches z after n d) :
    (∃ s, searchSlot v z after n d = .ok s ∧ (s.civilDate : Nat) < d + n) ∨
    (searchSlot v z after n d = error "invalid-argument" "no supported civil occurrence" ∧
      (d : Nat) + n < Calendar.dayCount ∧
      ∀ e : Date, d ≤ e → (e : Nat) < d + n → v.PassedOver z after e) := by
  induction n generalizing d with
  | zero =>
    refine .inr ⟨rfl, d.isLt, fun e hle hlt => ?_⟩
    exact absurd (Fin.le_def.1 hle) (by omega)
  | succ n ih =>
    obtain ⟨hresolves, hnext⟩ := h
    rcases slotOn_cases hresolves with ⟨s, hs⟩ | hs
    · refine .inl ⟨s, ?_, ?_⟩
      · rw [searchSlot, hs]
        rfl
      · rw [(slotOn_eq_some hs).1]
        omega
    · have hpassed := slotOn_eq_none hs
      obtain ⟨d', hd', hreach⟩ := hnext hpassed
      have hval := Date.succ?_eq_some hd'
      have hstep : searchSlot v z after (n + 1) d = searchSlot v z after n d' := by
        rw [searchSlot, hs, hd']
        rfl
      rw [hstep]
      rcases ih hreach with ⟨s, hs, hlt⟩ | ⟨herr, hcount, hall⟩
      · exact .inl ⟨s, hs, by omega⟩
      · refine .inr ⟨herr, by omega, fun e hle hlt => ?_⟩
        rcases hle.eq_or_lt with rfl | hlt'
        · exact hpassed
        · exact hall e (date_succ_le hd' hlt') (by omega)

/-- A configured recurrence is searched from its start or the local day of `after`. -/
theorem nextCivil_eq {local_ : Instant} (hz : b.zoneNamed v.timeZone = .ok z)
    (hlocal : z.fromUtc after = some local_) :
    b.nextCivil (.recurring v) after none =
      some <$> searchSlot v z after 9 (max v.startDate local_.date) := by
  rw [Backend.nextCivil, hz]
  simp only [bind, Except.bind, firstDay, hlocal, representable, pure, Except.pure]
  cases searchSlot v z after 9 (max v.startDate local_.date) <;> rfl

/-! ## What can go wrong -/

/-- None of the nine days from `first` on is ahead. -/
def LocalRecurrence.Overrun (v : LocalRecurrence) (z : Zone) (after : Instant) (first : Date) : Prop :=
  ∀ d t, v.Ahead z after d t → first ≤ d → (first : Nat) + 9 ≤ d

/-- The first date ahead, from `first` on, is not the first to come. -/
def LocalRecurrence.Overtaken (v : LocalRecurrence) (z : Zone) (after : Instant) (first : Date) :
    Prop :=
  ∃ d t, v.Ahead z after d t ∧ first ≤ d ∧ (∀ c w, first ≤ c → c < d → ¬ v.Ahead z after c w) ∧
    ∃ e u, v.Ahead z after e u ∧ d < e ∧ u < t

/-- A date before `first` is still ahead, and comes before all from `first` on. -/
def LocalRecurrence.Carried (v : LocalRecurrence) (z : Zone) (after : Instant) (first : Date) : Prop :=
  ∃ d t, v.Ahead z after d t ∧ d < first ∧ ∀ e u, v.Ahead z after e u → first ≤ e → t < u

/-- What the search takes, in these terms. -/
theorem search_least_iff {first : Date} (hstart : v.startDate ≤ first)
    (hreach : v.Reaches z after 9 first) :
    (∃ s, searchSlot v z after 9 first = .ok s ∧ v.Least z after s) ↔
      ¬ v.Overrun z after first ∧ ¬ v.Overtaken z after first ∧ ¬ v.Carried z after first := by
  rcases searchSlot_of_reaches hreach with ⟨s, hs, hlt⟩ | ⟨herr, -, hall⟩
  · obtain ⟨hslot, hle, hpassed⟩ := searchSlot_eq_ok hs
    have hahead : v.Ahead z after s.civilDate s.due :=
      ⟨hstart.trans hle, hslot.matches, hslot.resolved, hslot.later⟩
    constructor
    · rintro ⟨s', hs', -, hleast⟩
      cases hs.symm.trans hs'
      refine ⟨fun hover => ?_, ?_, ?_⟩
      · have := hover _ _ hahead hle
        omega
      · rintro ⟨d, t, hd, hfirst, hnone, e, u, he, -, hut⟩
        -- the first date ahead is the one taken
        have hds : d = s.civilDate := by
          rcases lt_trichotomy d s.civilDate with hlt' | heq | hgt
          · exact absurd hd (hpassed d hfirst hlt').not_ahead
          · exact heq
          · exact absurd hahead (hnone _ _ hle hgt)
        subst hds
        have ht : t = s.due := Except.ok.inj (hd.resolved.symm.trans hahead.resolved)
        exact absurd (ht ▸ hut) (not_lt.2 (hleast e u he))
      · rintro ⟨d, t, hd, -, hbefore⟩
        exact absurd (hbefore _ _ hahead hle) (not_lt.2 (hleast d t hd))
    · rintro ⟨-, htaken, hcarried⟩
      refine ⟨s, hs, hahead, fun d t hd => ?_⟩
      by_contra hlt'
      have hlt' : t < s.due := not_le.1 hlt'
      have hlater : ∀ e u, v.Ahead z after e u → first ≤ e → s.due ≤ u := by
        intro e u he hfe
        rcases lt_trichotomy e s.civilDate with hlt'' | rfl | hgt
        · exact absurd he (hpassed e hfe hlt'').not_ahead
        · exact (Except.ok.inj (hahead.resolved.symm.trans he.resolved)).le
        · by_contra hu
          exact htaken ⟨_, _, hahead, hle, fun c w hc hcd => (hpassed c hc hcd).not_ahead, e, u, he,
            hgt, not_le.1 hu⟩
      rcases lt_or_ge d first with hdf | hdf
      · exact hcarried ⟨d, t, hd, hdf, fun e u he hfe => hlt'.trans_le (hlater e u he hfe)⟩
      · exact absurd hlt' (not_lt.2 (hlater d t hd hdf))
  · constructor
    · rintro ⟨s, hs, -⟩
      rw [herr] at hs
      exact absurd hs (error_ne_ok _ _ _)
    · rintro ⟨hover, -⟩
      refine absurd (fun d t hd hfirst => ?_) hover
      by_contra hlt
      exact (hall d hfirst (by omega)).not_ahead hd

end

/-! ## Zones whose offsets change by at most a day -/

/-- Every gap and fold is at most a day: offsets are less than a day, within three days they differ
by at most one, and a local time has, for either fold, the offset in force at an instant no more
than a day from the one it stands for. -/
structure Zone.DayJumps (z : Zone) : Prop where
  bounded : ∀ u, -86400 < z.offsetAt u ∧ z.offsetAt u < 86400
  jumps : ∀ u w : Instant, (u : Int) ≤ w + 259200 → (w : Int) ≤ u + 259200 →
    z.offsetAt u ≤ z.offsetAt w + 86400
  folds : ∀ (local_ : Instant) fold, ∃ w : Instant, z.utcoffset local_ fold = z.offsetAt w ∧
    (w : Int) ≤ local_ - z.utcoffset local_ fold + 86400 ∧
    (local_ : Int) - z.utcoffset local_ fold ≤ w + 86400

section

variable {b : Backend} {v : LocalRecurrence} {z : Zone} {after local_ : Instant}

/-- A civil time resolves by the offset of one of its folds. -/
theorem resolveCivil_eq_ok {d : Date} {t : Time} {s : Instant} (h : resolveCivil d t z = .ok s) :
    ∃ fold, (s : Int) = Instant.combine d t - z.utcoffset (Instant.combine d t) fold := by
  unfold resolveCivil at h
  dsimp only at h
  split at h
  · rename_i v0 v1 h0 h1
    have hv0 := Instant.add?_eq_some h0
    have hv1 := Instant.add?_eq_some h1
    have hmem : ∀ {p : Instant × Instant → Bool} {r0 r1 : Instant},
        (([(v0, r0), (v1, r1)].filter p).map Prod.fst).min? = some s → s = v0 ∨ s = v1 := by
      intro p r0 r1 hmin
      obtain ⟨c, hc, rfl⟩ := List.mem_map.1 (List.min?_mem hmin)
      have hc := (List.mem_filter.1 hc).1
      simp only [List.mem_cons, List.not_mem_nil, or_false] at hc
      rcases hc with rfl | rfl
      · exact .inl rfl
      · exact .inr rfl
    have hfold : s = v0 ∨ s = v1 := by
      split at h
      · split at h
        · rename_i hmin
          cases h
          exact hmem hmin
        · split at h
          · rename_i hmin
            cases h
            exact hmem hmin
          · exact absurd h (error_ne_ok _ _ _)
      · exact absurd h (error_ne_ok _ _ _)
    rcases hfold with rfl | rfl
    · exact ⟨false, by omega⟩
    · exact ⟨true, by omega⟩
  · exact absurd h (error_ne_ok _ _ _)

/-- The instant a civil time resolves to, by the offset in force nearby. -/
theorem Zone.DayJumps.resolved (hz : z.DayJumps) {d : Date} {t : Time} {s : Instant}
    (h : resolveCivil d t z = .ok s) :
    ∃ w : Instant, (s : Int) = d * 86400 + t - z.offsetAt w ∧ (w : Int) ≤ s + 86400 ∧
      (s : Int) ≤ w + 86400 := by
  obtain ⟨fold, hs⟩ := resolveCivil_eq_ok h
  obtain ⟨w, hw, hle, hge⟩ := hz.folds (Instant.combine d t) fold
  have hcombine : ((Instant.combine d t : Instant) : Int) = d * 86400 + t := by
    simp [Instant.combine]
  exact ⟨w, by omega, by omega, by omega⟩

/-- Later dates of a recurrence do not come before earlier ones. -/
theorem Zone.DayJumps.resolved_mono (hz : z.DayJumps) {d e : Date} {t : Time} {s u : Instant}
    (hs : resolveCivil d t z = .ok s) (hu : resolveCivil e t z = .ok u) (hlt : d < e) : s ≤ u := by
  obtain ⟨w, hw, hws, hsw⟩ := hz.resolved hs
  obtain ⟨x, hx, hxu, hux⟩ := hz.resolved hu
  have hlt : (d : Nat) < e := hlt
  have hbw := hz.bounded w
  have hbx := hz.bounded x
  by_contra hus
  have hus : (u : Nat) < s := not_le.1 hus
  have := hz.jumps x w (by omega) (by omega)
  omega

/-- Dates two days or more before the local day of `after` are over. -/
theorem Zone.DayJumps.over (hz : z.DayJumps) (hlocal : z.fromUtc after = some local_) {d : Date}
    {t : Time} {s : Instant} (hs : resolveCivil d t z = .ok s)
    (hd : (d : Nat) + 2 ≤ local_.date) : s ≤ after := by
  obtain ⟨w, hw, hws, hsw⟩ := hz.resolved hs
  have hl := Instant.add?_eq_some hlocal
  have hday : (local_.date : Nat) = local_ / 86400 := rfl
  have ht := t.isLt
  have hbw := hz.bounded w
  have hba := hz.bounded after
  by_contra hlt
  have hlt : (after : Nat) < s := not_le.1 hlt
  have := hz.jumps after w (by omega) (by omega)
  omega

/-- Dates two days or more after the local day of `after` are ahead. -/
theorem Zone.DayJumps.ahead (hz : z.DayJumps) (hlocal : z.fromUtc after = some local_) {d : Date}
    {t : Time} {s : Instant} (hs : resolveCivil d t z = .ok s)
    (hd : (local_.date : Nat) + 2 ≤ d) : after < s := by
  obtain ⟨w, hw, hws, hsw⟩ := hz.resolved hs
  have hl := Instant.add?_eq_some hlocal
  have hday : (local_.date : Nat) = local_ / 86400 := rfl
  have hbw := hz.bounded w
  have hba := hz.bounded after
  by_contra hle
  have hle : (s : Nat) ≤ after := not_lt.1 hle
  have := hz.jumps w after (by omega) (by omega)
  omega

/-- Any seven days in a row have one of the recurrence. -/
theorem LocalRecurrence.exists_matches (v : LocalRecurrence) {d : Nat}
    (hd : d + 7 ≤ Calendar.dayCount) :
    ∃ e : Date, d ≤ e ∧ (e : Nat) < d + 7 ∧ v.matches e = true := by
  cases hk : v.kind with
  | daily => exact ⟨⟨d, by omega⟩, le_rfl, by simp, by simp [LocalRecurrence.matches, hk]⟩
  | weekly =>
    obtain ⟨w, hw⟩ := List.exists_mem_of_ne_nil _ (v.weekly hk)
    obtain ⟨i, hi, hwi⟩ := List.getElem_of_mem (show w ∈ Vibapp.Scheduler.weekdays by cases w <;> decide)
    have hget : Vibapp.Scheduler.weekdays[i]? = some w := by rw [List.getElem?_eq_getElem hi, hwi]
    have hi : i < 7 := hi
    refine ⟨⟨d + (i + 7 - d % 7) % 7, by omega⟩, ?_, ?_, ?_⟩
    · simp
    · simp only
      omega
    · have hday : Date.weekday ⟨d + (i + 7 - d % 7) % 7, by omega⟩ = i := by
        simp only [Date.weekday]
        omega
      simp only [LocalRecurrence.matches, hday, Bool.or_eq_true]
      refine .inr ?_
      rw [hget]
      simpa using hw

/-! ## The least next slot -/

/-- The day before the local day of `after` is still ahead, and no later date comes with it. -/
def LocalRecurrence.DayCarried (v : LocalRecurrence) (z : Zone) (after : Instant) (today : Date) :
    Prop :=
  ∃ (d : Date) (t : Instant), (d : Nat) + 1 = today ∧ v.Ahead z after d t ∧ ∀ e, today ≤ e → ¬ v.Ahead z after e t

/-- The nine days of the search are enough. -/
theorem Zone.DayJumps.not_overrun (hz : z.DayJumps) (hlocal : z.fromUtc after = some local_)
    (hreach : v.Reaches z after 9 (max v.startDate local_.date)) :
    ¬ v.Overrun z after (max v.startDate local_.date) := by
  intro hover
  have hle : local_.date ≤ max v.startDate local_.date := le_max_right _ _
  have hstart : v.startDate ≤ max v.startDate local_.date := le_max_left _ _
  rcases searchSlot_of_reaches hreach with ⟨s, hs, hlt⟩ | ⟨-, hcount, hall⟩
  · obtain ⟨hslot, hfirst, -⟩ := searchSlot_eq_ok hs
    have := hover _ _ ⟨hstart.trans hfirst, hslot.matches, hslot.resolved, hslot.later⟩ hfirst
    omega
  · generalize max v.startDate local_.date = first at hle hcount hall
    have hle : (local_.date : Nat) ≤ first := hle
    obtain ⟨e, hge, hlt, hmatch⟩ := v.exists_matches (d := first + 2) (by omega)
    obtain ⟨t, ht, hover⟩ := hall e (Fin.le_def.2 (by omega)) (by omega) hmatch
    exact absurd (hz.ahead hlocal ht (by omega)) (not_lt.2 hover)

theorem Zone.DayJumps.not_overtaken (hz : z.DayJumps) (first : Date) :
    ¬ v.Overtaken z after first := by
  rintro ⟨d, t, hd, -, -, e, u, he, hde, hut⟩
  exact absurd hut (not_lt.2 (hz.resolved_mono hd.resolved he.resolved hde))

theorem Zone.DayJumps.carried_iff (hz : z.DayJumps) (hlocal : z.fromUtc after = some local_) :
    v.Carried z after (max v.startDate local_.date) ↔ v.DayCarried z after local_.date := by
  constructor
  · rintro ⟨d, t, hd, hlt, hbefore⟩
    have hlt : d < local_.date := (lt_max_iff.1 hlt).resolve_left (not_lt.2 hd.start)
    have hday : (d : Nat) + 1 = local_.date := by
      by_contra hne
      have hlt : (d : Nat) < local_.date := hlt
      exact absurd hd.later (not_lt.2 (hz.over hlocal hd.resolved (by omega)))
    refine ⟨d, t, hday, hd, fun e he hahead => ?_⟩
    exact lt_irrefl t (hbefore e t hahead (max_le hahead.start he))
  · rintro ⟨d, t, hday, hd, hnone⟩
    have hlt : d < local_.date := Fin.lt_def.2 (by omega)
    refine ⟨d, t, hd, lt_max_of_lt_right hlt, fun e u he hfirst => ?_⟩
    have hle : local_.date ≤ e := (le_max_right _ _).trans hfirst
    refine lt_of_le_of_ne (hz.resolved_mono hd.resolved he.resolved (hlt.trans_le hle)) ?_
    rintro rfl
    exact hnone e hle he

/-- **The next slot.** While the calendar is not exceeded, `next_civil` gives the least slot ahead,
with its date, exactly when none of three things has happened; where every gap and fold is at
most a day, exactly when the day before the local day of `after` is not still ahead by itself. -/
theorem nextCivil_least_iff (hzone : b.zoneNamed v.timeZone = .ok z)
    (hlocal : z.fromUtc after = some local_)
    (hreach : v.Reaches z after 9 (max v.startDate local_.date)) :
    ((∃ s, b.nextCivil (.recurring v) after none = .ok (some s) ∧ v.Least z after s) ↔
      ¬ v.Overrun z after (max v.startDate local_.date) ∧
      ¬ v.Overtaken z after (max v.startDate local_.date) ∧
      ¬ v.Carried z after (max v.startDate local_.date)) ∧
    (z.DayJumps →
      ((∃ s, b.nextCivil (.recurring v) after none = .ok (some s) ∧ v.Least z after s) ↔
        ¬ v.DayCarried z after local_.date)) := by
  have hsearch : (∃ s, b.nextCivil (.recurring v) after none = .ok (some s) ∧ v.Least z after s) ↔
      ∃ s, searchSlot v z after 9 (max v.startDate local_.date) = .ok s ∧ v.Least z after s := by
    rw [nextCivil_eq hzone hlocal]
    cases searchSlot v z after 9 (max v.startDate local_.date) with
    | ok s => simp [Functor.map, Except.map]
    | error e => simp [Functor.map, Except.map]
  have hiff := hsearch.trans (search_least_iff (le_max_left _ _) hreach)
  refine ⟨hiff, fun hz => ?_⟩
  rw [hiff, hz.carried_iff hlocal]
  exact ⟨fun h => h.2.2, fun h => ⟨hz.not_overrun hlocal hreach, hz.not_overtaken _, h⟩⟩

end

/-! ### Samoa, 30 December 2011 -/

theorem apia_dayJumps : Zone.apia.DayJumps where
  bounded u := by
    unfold Zone.apia
    dsimp only
    split <;> omega
  jumps u w _ _ := by
    unfold Zone.apia
    dsimp only
    split <;> split <;> omega
  folds local_ fold := by
    have hlt := local_.isLt
    have hskipped : Calendar.ymd2ord 2011 12 30 = 734500 := by decide
    unfold Calendar.secondCount Calendar.dayCount at hlt
    unfold Zone.apia
    simp only [hskipped]
    by_cases hbefore : (local_ : Nat) < 734500 * 86400
    · refine ⟨⟨local_ + 36000, by unfold Calendar.secondCount Calendar.dayCount; omega⟩, ?_⟩
      rw [if_pos (.inl hbefore), if_pos (by dsimp only; omega)]
      dsimp only
      omega
    · by_cases hgap : (local_ : Nat) < 734501 * 86400
      · -- a skipped time stands, for its first fold, for the last second before the transition
        cases fold with
        | false =>
          refine ⟨⟨734500 * 86400 + 35999, by decide⟩, ?_⟩
          rw [if_pos (.inr ⟨by omega, rfl⟩), if_pos (by decide)]
          dsimp only
          omega
        | true =>
          refine ⟨⟨734500 * 86400 + 36000, by decide⟩, ?_⟩
          rw [if_neg (by simp [hbefore]), if_neg (by decide)]
          dsimp only
          omega
      · refine ⟨⟨local_ - 50400, by unfold Calendar.secondCount Calendar.dayCount; omega⟩, ?_⟩
        rw [if_neg (by omega), if_neg (by dsimp only; omega)]
        dsimp only
        omega

/-- A Friday schedule, at seven. -/
def apiaFriday : LocalRecurrence where
  kind := .weekly
  time := apiaDaily.time
  startDate := apiaDaily.startDate
  timeZone := "Pacific/Apia"
  weekdays := [.friday]
  daily := fun h => by cases h
  weekly := fun _ => List.cons_ne_nil _ _
  nodup := by decide

/-- Noon of 30 December 2011, universal time: two in the night of the 31st in Samoa. -/
def apiaNoon : Instant := ⟨734500 * 86400 + 43200, by decide⟩

/-- The slot of Friday 30 December is still ahead, five hours off, and `next_civil` gives that of
the next Friday. -/
theorem apia_misses_friday :
    Zone.apia.DayJumps ∧ ∃ s t,
      Backend.apia.nextCivil (.recurring apiaFriday) apiaNoon none = .ok (some s) ∧
      apiaFriday.Ahead .apia apiaNoon ⟨734500, by decide⟩ t ∧ t < s.due := by
  refine ⟨apia_dayJumps, ⟨⟨734506 * 86400 + 61200, by decide⟩, ⟨734507, by decide⟩⟩,
    ⟨734500 * 86400 + 61200, by decide⟩, by decide +kernel, ⟨?_, ?_, ?_, ?_⟩, ?_⟩
  · decide
  · decide
  · decide +kernel
  · decide
  · decide

/-- Every day at seven, the slot of the skipped date is that of the next, and nothing is missed. -/
theorem nextCivil_least_iff_apia :
    ∃ s, Backend.apia.nextCivil (.recurring apiaDaily) apiaNoon none = .ok (some s) ∧
      apiaDaily.Least .apia apiaNoon s := by
  have hname : checkText "Pacific/Apia" "IANA time zone" = .ok "Pacific/Apia" := by decide +kernel
  have hzone : Backend.apia.zoneNamed apiaDaily.timeZone = .ok .apia := by
    show Backend.apia.zoneNamed "Pacific/Apia" = _
    rw [Backend.zoneNamed, hname]
    rfl
  have hslot : resolveCivil ⟨734501, by decide⟩ apiaDaily.time .apia =
      .ok ⟨734500 * 86400 + 61200, by decide⟩ := by decide +kernel
  have hfirst : max apiaDaily.startDate ⟨734501, by decide⟩ = ⟨734501, by decide⟩ := by decide
  have hlocal : Zone.apia.fromUtc apiaNoon = some ⟨734501 * 86400 + 7200, by decide⟩ := by
    decide +kernel
  have hdate : Instant.date ⟨734501 * 86400 + 7200, by decide⟩ = ⟨734501, by decide⟩ := by decide
  have hreach : apiaDaily.Reaches .apia apiaNoon 9
      (max apiaDaily.startDate (Instant.date ⟨734501 * 86400 + 7200, by decide⟩)) := by
    rw [hdate, hfirst]
    refine ⟨fun _ => ⟨_, hslot⟩, fun hpassed => ?_⟩
    obtain ⟨t, ht, hle⟩ := hpassed rfl
    cases hslot.symm.trans ht
    exact absurd hle (by decide)
  refine ((nextCivil_least_iff hzone hlocal hreach).2 apia_dayJumps).2 ?_
  rintro ⟨d, t, hday, hahead, hnone⟩
  rw [hdate] at hday hnone
  have hd : d = ⟨734500, by decide⟩ := Fin.ext (by
    have hday : (d : Nat) + 1 = 734501 := hday
    show (d : Nat) = 734500
    omega)
  subst hd
  have ht : resolveCivil ⟨734500, by decide⟩ apiaDaily.time .apia =
      .ok ⟨734500 * 86400 + 61200, by decide⟩ := by decide +kernel
  cases hahead.resolved.symm.trans ht
  exact hnone _ le_rfl ⟨by decide, rfl, hslot, hahead.later⟩

end Vibapp.Scheduler
