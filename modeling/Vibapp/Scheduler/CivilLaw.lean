import Vibapp.Scheduler.Specs

/-!
# Civil times that occur once, twice or never

A zone in the manner of PEP 495 answers, for a local time that some instant reads, the offset of the
first such instant (fold 0) and that of a later one or the same (fold 1); for a local time that a
jump skips, the offsets on the two sides of the jump (`Zone.Pep495`).

**Law** (`CivilLaw`). `resolve_civil` returns the first instant that reads the local time, and for a
skipped one the instant that reads it shifted forward by the length of the gap.

**Main result** (`civilLaw_iff`). The first half always holds. The second holds exactly when the
zone has settled: at the instant that the offset before the gap names, the offset after the gap is in
force, and at the instant that the offset after the gap names, no greater one. A second jump within
the length of the gap breaks it (`civilLaw_hurried`).
-/

namespace Vibapp.Scheduler

variable {z : Zone} {d : Date} {t : Time} {local_ : Instant}

/-! ## Reading a clock -/

namespace Zone

/-- At the instant the zone's clocks show the local time. -/
def Reads (z : Zone) (u local_ : Instant) : Prop := (u : Int) + z.offsetAt u = local_

instance (z : Zone) (u local_ : Instant) : Decidable (z.Reads u local_) :=
  inferInstanceAs (Decidable ((u : Int) + z.offsetAt u = local_))

/-- The instant is the first that reads the local time. -/
def First (z : Zone) (u local_ : Instant) : Prop :=
  z.Reads u local_ ∧ ∀ w, z.Reads w local_ → u ≤ w

/-- Both folds of the local time are calendar times, and so is what the clocks read there. -/
def Representable (z : Zone) (local_ : Instant) : Prop :=
  ∀ fold, ∃ v, z.toUtc local_ fold = some v ∧ ∃ r, z.fromUtc v = some r

/-- The offset is `a` up to the second before `u`, and `b` from `u` on. -/
def Jumps (z : Zone) (u : Instant) (a b : Int) : Prop :=
  z.offsetAt u = b ∧ ∃ w : Instant, (w : Nat) + 1 = u ∧ z.offsetAt w = a

/-- What PEP 495 asks of `utcoffset`. -/
structure Pep495 (z : Zone) : Prop where
  first : ∀ u local_, z.First u local_ → z.utcoffset local_ false = z.offsetAt u
  second : ∀ u local_, z.Reads u local_ →
    ∃ w, z.Reads w local_ ∧ z.utcoffset local_ true = z.offsetAt w
  gap : ∀ local_, z.Representable local_ → (∀ u, ¬ z.Reads u local_) →
    ∃ u, z.Jumps u (z.utcoffset local_ false) (z.utcoffset local_ true) ∧
      (u : Int) + z.utcoffset local_ false ≤ local_ ∧
      (local_ : Int) < u + z.utcoffset local_ true

theorem reads_iff {u : Instant} : z.Reads u local_ ↔ z.fromUtc u = some local_ := by
  constructor
  · intro h
    have hlt := local_.isLt
    have h : (u : Int) + z.offsetAt u = local_ := h
    rw [fromUtc, Instant.add?, dif_pos (by omega)]
    exact congrArg some (Fin.ext (by dsimp only; omega))
  · intro h
    exact (Instant.add?_eq_some h).symm

/-- A local time that occurs occurs first. -/
theorem exists_first {u : Instant} (h : z.Reads u local_) : ∃ v, z.First v local_ := by
  classical
  obtain ⟨n, ⟨hn, hreads⟩, hleast⟩ : ∃ n, (∃ hn : n < Calendar.secondCount, z.Reads ⟨n, hn⟩ local_) ∧
      ∀ m, (∃ hm : m < Calendar.secondCount, z.Reads ⟨m, hm⟩ local_) → n ≤ m :=
    have hex : ∃ n, ∃ hn : n < Calendar.secondCount, z.Reads ⟨n, hn⟩ local_ := ⟨u, u.isLt, h⟩
    ⟨Nat.find hex, Nat.find_spec hex, fun m hm => Nat.find_min' hex hm⟩
  exact ⟨⟨n, hn⟩, hreads, fun w hw => hleast w ⟨w.isLt, hw⟩⟩

theorem toUtc_of_reads {u : Instant} {fold : Bool} (h : z.Reads u local_)
    (hfold : z.utcoffset local_ fold = z.offsetAt u) : z.toUtc local_ fold = some u := by
  have hlt := u.isLt
  have h : (u : Int) + z.offsetAt u = local_ := h
  rw [toUtc, Instant.add?, dif_pos (by omega)]
  exact congrArg some (Fin.ext (by dsimp only; omega))

end Zone

/-! ## The law -/

/-- `resolve_civil` finds an instant where all it looks at is representable. For a time that occurs it
is the first that reads it; for one in a gap it reads the time the length of the gap later. -/
structure CivilLaw (d : Date) (t : Time) (z : Zone) : Prop where
  found : z.Representable (.combine d t) → ∃ v, resolveCivil d t z = .ok v
  first : ∀ v, resolveCivil d t z = .ok v → (∃ u, z.Reads u (.combine d t)) →
    z.First v (.combine d t)
  shifted : ∀ v, resolveCivil d t z = .ok v → (∀ u, ¬ z.Reads u (.combine d t)) →
    (v : Int) + z.offsetAt v = (Instant.combine d t : Instant) +
      (z.utcoffset (.combine d t) true - z.utcoffset (.combine d t) false)

/-- Around a gap from offset `a` to offset `b`: the offset is `b` at the instant that `a` names, and at
the instant that `b` names it is not above `b`; or it is above by just the length of the gap. -/
def Zone.Settled (z : Zone) (local_ : Instant) : Prop :=
  ∀ v w, z.toUtc local_ false = some v → z.toUtc local_ true = some w →
    (z.offsetAt v = z.utcoffset local_ true ∧ z.offsetAt w ≤ z.utcoffset local_ true) ∨
      z.offsetAt w = 2 * z.utcoffset local_ true - z.utcoffset local_ false

/-- Both folds name an instant and are read back. -/
theorem resolveCivil_eq {v0 v1 r0 r1 : Instant} (h0 : z.toUtc (.combine d t) false = some v0)
    (h1 : z.toUtc (.combine d t) true = some v1) (hr0 : z.fromUtc v0 = some r0)
    (hr1 : z.fromUtc v1 = some r1) :
    resolveCivil d t z =
      match (([(v0, r0), (v1, r1)].filter fun c => c.2 = Instant.combine d t).map Prod.fst).min? with
      | some v => .ok v
      | none =>
        match (([(v0, r0), (v1, r1)].filter fun c => Instant.combine d t < c.2).map Prod.fst).min? with
        | some v => .ok v
        | none => error "invalid-argument" "civil gap cannot be resolved" := by
  rw [resolveCivil]
  simp only [h0, h1, hr0, hr1] <;> rfl

/-- **A time that occurs resolves to its first occurrence.** -/
theorem resolveCivil_of_first {u : Instant} (hz : z.Pep495) (h : z.First u (.combine d t)) :
    resolveCivil d t z = .ok u := by
  obtain ⟨w, hw, hsecond⟩ := hz.second u _ h.1
  have hu := Zone.toUtc_of_reads h.1 (hz.first u _ h)
  rw [resolveCivil_eq hu (Zone.toUtc_of_reads hw hsecond) (Zone.reads_iff.1 h.1)
    (Zone.reads_iff.1 hw)]
  have hle := h.2 w hw
  simp [List.min?_cons, min_eq_left hle]

/-- A skipped time: what the clocks read at the two instants that the folds name. -/
theorem resolveCivil_of_gap {v0 v1 r0 r1 : Instant} (hz : z.Pep495)
    (hgap : ∀ u, ¬ z.Reads u (.combine d t)) (h0 : z.toUtc (.combine d t) false = some v0)
    (h1 : z.toUtc (.combine d t) true = some v1) (hr0 : z.fromUtc v0 = some r0)
    (hr1 : z.fromUtc v1 = some r1) :
    resolveCivil d t z =
      if Instant.combine d t < r1 then .ok v1
      else if Instant.combine d t < r0 then .ok v0
      else error "invalid-argument" "civil gap cannot be resolved" := by
  have hne0 : ¬ r0 = Instant.combine d t := fun h => hgap v0 (Zone.reads_iff.2 (h ▸ hr0))
  have hne1 : ¬ r1 = Instant.combine d t := fun h => hgap v1 (Zone.reads_iff.2 (h ▸ hr1))
  have hlt : v1 < v0 := by
    have hrep : z.Representable (.combine d t) := by
      intro fold
      cases fold with
      | false => exact ⟨v0, h0, r0, hr0⟩
      | true => exact ⟨v1, h1, r1, hr1⟩
    obtain ⟨u, -, hafter, hbefore⟩ := hz.gap _ hrep hgap
    have hv0 := Instant.add?_eq_some h0
    have hv1 := Instant.add?_eq_some h1
    rw [Fin.lt_def]
    omega
  rw [resolveCivil_eq h0 h1 hr0 hr1]
  by_cases hlater : Instant.combine d t < r1
  · by_cases hearlier : Instant.combine d t < r0
    · simp [hne0, hne1, hlater, hearlier, List.min?_cons, min_eq_right hlt.le]
    · simp [hne0, hne1, hlater, hearlier]
  · by_cases hearlier : Instant.combine d t < r0
    · simp [hne0, hne1, hlater, hearlier]
    · simp [hne0, hne1, hlater, hearlier]

theorem representable_of_resolves {v : Instant} (h : resolveCivil d t z = .ok v) :
    z.Representable (.combine d t) := by
  unfold resolveCivil at h
  dsimp only at h
  split at h
  · rename_i v0 v1 h0 h1
    split at h
    · rename_i r0 r1 hr0 hr1
      intro fold
      cases fold with
      | false => exact ⟨v0, h0, r0, hr0⟩
      | true => exact ⟨v1, h1, r1, hr1⟩
    · exact absurd h (error_ne_ok _ _ _)
  · exact absurd h (error_ne_ok _ _ _)

/-- In a gap the law is about the two instants that the folds name. -/
theorem civilLaw_gap {v0 v1 r0 r1 : Instant} (hz : z.Pep495)
    (hgap : ∀ u, ¬ z.Reads u (.combine d t)) (h0 : z.toUtc (.combine d t) false = some v0)
    (h1 : z.toUtc (.combine d t) true = some v1) (hr0 : z.fromUtc v0 = some r0)
    (hr1 : z.fromUtc v1 = some r1) : CivilLaw d t z ↔ z.Settled (.combine d t) := by
  have hresolve := resolveCivil_of_gap hz hgap h0 h1 hr0 hr1
  have hrep : z.Representable (.combine d t) := by
    intro fold
    cases fold with
    | false => exact ⟨v0, h0, r0, hr0⟩
    | true => exact ⟨v1, h1, r1, hr1⟩
  obtain ⟨u, -, hafter, hbefore⟩ := hz.gap _ hrep hgap
  have hv0 := Instant.add?_eq_some h0
  have hv1 := Instant.add?_eq_some h1
  have hread0 := Instant.add?_eq_some hr0
  have hread1 := Instant.add?_eq_some hr1
  constructor
  · intro hlaw v w hv hw
    cases h0.symm.trans hv
    cases h1.symm.trans hw
    obtain ⟨x, hx⟩ := hlaw.found hrep
    have hshifted := hlaw.shifted x hx hgap
    rw [hresolve] at hx
    split at hx
    · cases hx
      right
      omega
    · rename_i hnot
      rw [Fin.lt_def] at hnot
      split at hx
      · cases hx
        left
        omega
      · exact absurd hx (error_ne_ok _ _ _)
  · intro hsettled
    have hsettled := hsettled v0 v1 h0 h1
    have hcases : (Instant.combine d t < r1 ∧
        z.offsetAt v1 = 2 * z.utcoffset (.combine d t) true - z.utcoffset (.combine d t) false) ∨
        (¬ Instant.combine d t < r1 ∧ Instant.combine d t < r0 ∧
          z.offsetAt v0 = z.utcoffset (.combine d t) true) := by
      rw [Fin.lt_def, Fin.lt_def]
      omega
    refine ⟨fun _ => ?_, fun v _ hread => ?_, fun v hv _ => ?_⟩
    · rcases hcases with ⟨hlater, -⟩ | ⟨hlater, hearlier, -⟩
      · exact ⟨v1, by rw [hresolve, if_pos hlater]⟩
      · exact ⟨v0, by rw [hresolve, if_neg hlater, if_pos hearlier]⟩
    · obtain ⟨u, hu⟩ := hread
      exact absurd hu (hgap u)
    · rw [hresolve] at hv
      rcases hcases with ⟨hlater, hoffset⟩ | ⟨hlater, hearlier, hoffset⟩
      · rw [if_pos hlater] at hv
        cases hv
        omega
      · rw [if_neg hlater, if_pos hearlier] at hv
        cases hv
        omega

/-- **The law holds of what occurs, and of a gap that is settled.** -/
theorem civilLaw_iff (hz : z.Pep495) (d : Date) (t : Time) :
    CivilLaw d t z ↔ (z.Representable (.combine d t) → (∀ u, ¬ z.Reads u (.combine d t)) →
      z.Settled (.combine d t)) := by
  by_cases hread : ∃ u, z.Reads u (.combine d t)
  · obtain ⟨u, hu⟩ := hread
    obtain ⟨v, hv⟩ := Zone.exists_first hu
    have hresolve := resolveCivil_of_first hz hv
    refine iff_of_true ⟨fun _ => ⟨v, hresolve⟩, fun w hw _ => ?_, fun _ _ hgap => ?_⟩
      fun _ hgap => absurd hu (hgap u)
    · cases hresolve.symm.trans hw
      exact hv
    · exact absurd hu (hgap u)
  · have hgap : ∀ u, ¬ z.Reads u (.combine d t) := fun u hu => hread ⟨u, hu⟩
    by_cases hrep : z.Representable (.combine d t)
    · obtain ⟨v0, h0, r0, hr0⟩ := hrep false
      obtain ⟨v1, h1, r1, hr1⟩ := hrep true
      rw [civilLaw_gap hz hgap h0 h1 hr0 hr1]
      exact ⟨fun h _ _ => h, fun h => h hrep hgap⟩
    · refine iff_of_true ⟨fun h => absurd h hrep, fun v hv => ?_, fun v hv => ?_⟩
        fun h => absurd h hrep
      · exact absurd (representable_of_resolves hv) hrep
      · exact absurd (representable_of_resolves hv) hrep

/-- A gap is settled when, for as long as it is, nothing else happens on either side of its jump. -/
theorem Zone.settled_of_quiet {u : Instant}
    (hafter : (u : Int) + z.utcoffset local_ false ≤ local_)
    (hbefore : (local_ : Int) < u + z.utcoffset local_ true)
    (hquiet : ∀ w : Instant, (u : Int) - (z.utcoffset local_ true - z.utcoffset local_ false) ≤ w →
      (w : Int) < u + (z.utcoffset local_ true - z.utcoffset local_ false) →
        z.offsetAt w = if w < u then z.utcoffset local_ false else z.utcoffset local_ true) :
    z.Settled local_ := by
  intro v w hv hw
  have hv := Instant.add?_eq_some hv
  have hw := Instant.add?_eq_some hw
  left
  rw [hquiet v (by omega) (by omega), hquiet w (by omega) (by omega)]
  rw [if_neg (by rw [Fin.lt_def]; omega), if_pos (by rw [Fin.lt_def]; omega)]
  exact ⟨rfl, by omega⟩

/-! ## A zone that jumps twice within an hour -/

/-- Double summer time for one hour, from one in the morning of 29 March 2026, then summer time. -/
def Zone.hurried : Zone where
  utcoffset local_ fold :=
    if (local_ : Nat) < 63910342800 then 0
    else if (local_ : Nat) < 63910350000 then if fold then 7200 else 0
    else if (local_ : Nat) < 63910353600 then if fold then 3600 else 7200
    else 3600
  offsetAt u :=
    if (u : Nat) < 63910342800 then 0 else if (u : Nat) < 63910346400 then 7200 else 3600

theorem hurried_reads {u local_ : Instant} : Zone.hurried.Reads u local_ ↔
    ((u : Nat) < 63910342800 ∧ (local_ : Nat) = u) ∨
      (63910342800 ≤ (u : Nat) ∧ (u : Nat) < 63910346400 ∧ (local_ : Nat) = u + 7200) ∨
        (63910346400 ≤ (u : Nat) ∧ (local_ : Nat) = u + 3600) := by
  unfold Zone.Reads Zone.hurried
  dsimp only
  split_ifs <;> omega

/-- Every local time but those of two hours is read at an instant that its first fold names. -/
theorem hurried_occurs {local_ : Instant}
    (h : ¬ (63910342800 ≤ (local_ : Nat) ∧ (local_ : Nat) < 63910350000)) :
    ∃ u : Instant, Zone.hurried.Reads u local_ ∧
      (u : Int) = local_ - Zone.hurried.utcoffset local_ false := by
  have hlt := local_.isLt
  have hoffset : 0 ≤ Zone.hurried.utcoffset local_ false ∧
      Zone.hurried.utcoffset local_ false ≤ 7200 := by
    unfold Zone.hurried
    dsimp only
    split_ifs <;> omega
  have hlow : Zone.hurried.utcoffset local_ false ≤ local_ := by
    unfold Zone.hurried
    dsimp only
    split_ifs <;> omega
  refine ⟨⟨(local_ - Zone.hurried.utcoffset local_ false).toNat, by omega⟩, ?_, by simp; omega⟩
  rw [hurried_reads]
  unfold Zone.hurried
  dsimp only
  split_ifs <;> omega

theorem hurried_pep495 : Zone.hurried.Pep495 where
  first := by
    intro u local_ h
    have hcases := hurried_reads.1 h.1
    have hout : ¬ (63910342800 ≤ (local_ : Nat) ∧ (local_ : Nat) < 63910350000) := by omega
    obtain ⟨w, hw, hval⟩ := hurried_occurs hout
    have hle : (u : Nat) ≤ w := h.2 w hw
    have hcases' := hurried_reads.1 hw
    unfold Zone.hurried at hval ⊢
    simp only [Bool.false_eq_true, if_false] at hval ⊢
    split_ifs at hval ⊢ <;> omega
  second := by
    intro u local_ h
    have hcases := hurried_reads.1 h
    have hlt := local_.isLt
    by_cases hfold : 63910350000 ≤ (local_ : Nat)
    · refine ⟨⟨local_ - 3600, by omega⟩, hurried_reads.2 (.inr (.inr ⟨?_, ?_⟩)), ?_⟩
      · dsimp only
        omega
      · dsimp only
        omega
      · unfold Zone.hurried
        simp only [if_true]
        split_ifs <;> omega
    · refine ⟨u, h, ?_⟩
      unfold Zone.hurried
      simp only [if_true]
      split_ifs <;> omega
  gap := by
    intro local_ _ hgap
    have hin : 63910342800 ≤ (local_ : Nat) ∧ (local_ : Nat) < 63910350000 := by
      by_contra hout
      obtain ⟨u, hu, -⟩ := hurried_occurs hout
      exact hgap u hu
    have hbefore : Zone.hurried.utcoffset local_ false = 0 := by
      unfold Zone.hurried
      dsimp only
      rw [if_neg (by omega), if_pos hin.2]
      rfl
    have hafter : Zone.hurried.utcoffset local_ true = 7200 := by
      unfold Zone.hurried
      dsimp only
      rw [if_neg (by omega), if_pos hin.2]
      rfl
    rw [hbefore, hafter]
    exact ⟨⟨63910342800, by decide⟩, ⟨rfl, ⟨63910342799, by decide⟩, rfl, rfl⟩, by dsimp only; omega,
      by dsimp only; omega⟩

/-- Half past two is skipped with the hour before it, and resolves to half past three: the clocks went
back by an hour before the two hours were over. -/
theorem civilLaw_hurried :
    Zone.hurried.Pep495 ∧ ¬ CivilLaw ⟨739703, by decide⟩ ⟨9000, by decide⟩ .hurried := by
  refine ⟨hurried_pep495, fun h => ?_⟩
  have hresolve : resolveCivil ⟨739703, by decide⟩ ⟨9000, by decide⟩ .hurried =
      .ok ⟨63910348200, by decide⟩ := by decide +kernel
  have hgap : ∀ u, ¬ Zone.hurried.Reads u (.combine ⟨739703, by decide⟩ ⟨9000, by decide⟩) := by
    intro u hu
    have hcases := hurried_reads.1 hu
    simp only [Instant.combine] at hcases
    omega
  have hshifted := h.shifted _ hresolve hgap
  exact absurd hshifted (by decide +kernel)

/-- Noon of that day is read at eleven in universal time, and resolves to it. -/
theorem civilLaw_iff_noon : CivilLaw ⟨739703, by decide⟩ ⟨43200, by decide⟩ .hurried :=
  (civilLaw_iff hurried_pep495 _ _).2 fun _ hgap =>
    hgap ⟨739703 * 86400 + 39600, by decide⟩ (by decide +kernel) |>.elim

end Vibapp.Scheduler
