import Vibapp.AppStore.Ingest

/-!
# Runs of the store

**Invariant** (`Sound`). Each row is a release with at most one withdrawal, its directory is the tree
that the release was made from, and no two rows have an app version in common. **Main results.**
`Effects`: what a call may change. `Sound.effects` and `Sound.keeps`: no change breaks the invariant,
and a release keeps its row up to a withdrawal, which is final.
-/

namespace Vibapp.AppStore

open Prog
open Daemon (field)
open Json (sorted setMember)

variable {library : Library} {env : Env} {s t : Disk}

/-! ## The invariant -/

/-- The row is a release's, and its directory is the tree that the release was made from. -/
structure Backed (library : Library) (d : Disk) (digest : String) (row : Row) (r : Release)
    (withdrawal : Option (String × String)) (tree : Tree) : Prop where
  row : row = r.rowAs withdrawal
  named : r.packageSha256 = digest
  canonical : Canonical withdrawal
  directory : d.candidates.get? digest = some tree
  valid : validateSnapshot library tree r.ingestedAt = .ok r

structure Sound (library : Library) (d : Disk) : Prop where
  rows : ∀ digest row, d.rows.get? digest = some row →
    ∃ r withdrawal tree, Backed library d digest row r withdrawal tree
  version : ∀ digest digest' row row', d.rows.get? digest = some row →
    d.rows.get? digest' = some row' → row.appId = row'.appId → row.appVersion = row'.appVersion →
      digest = digest'

theorem sound_empty (library : Library) : Sound library .empty :=
  ⟨fun _ _ h => (by cases h), fun _ _ _ _ h => (by cases h)⟩

theorem Backed.made {digest : String} {row : Row} {r : Release}
    {withdrawal : Option (String × String)} {tree : Tree}
    (h : Backed library s digest row r withdrawal tree) : MadeFrom library tree r :=
  (validateSnapshot_spec h.valid).2.1

/-- The row is read back. -/
theorem Backed.read {digest : String} {row : Row} {r : Release}
    {withdrawal : Option (String × String)} {tree : Tree}
    (h : Backed library s digest row r withdrawal tree) :
    rowRecord library row = .ok (r.shown withdrawal) := by
  rw [h.row]
  exact rowRecord_rowAs h.made.bounded h.canonical

/-- A row is one release's. -/
theorem Backed.unique {digest : String} {row : Row} {r r' : Release}
    {withdrawal withdrawal' : Option (String × String)} {tree tree' : Tree}
    (h : Backed library s digest row r withdrawal tree)
    (h' : Backed library s digest row r' withdrawal' tree') :
    r = r' ∧ withdrawal.isSome = withdrawal'.isSome := by
  obtain rfl : tree = tree' := Option.some.inj (h.directory.symm.trans h'.directory)
  have hshown : r.shown withdrawal = r'.shown withdrawal' :=
    Except.ok.inj (h.read.symm.trans h'.read)
  have htime : r.ingestedAt = r'.ingestedAt := by
    rw [← r.ingestedAt_shown withdrawal, hshown, r'.ingestedAt_shown]
  have hvalid := h'.valid
  rw [← htime, h.valid] at hvalid
  refine ⟨Except.ok.inj hvalid, ?_⟩
  have hstate := congrArg Row.state (h.row.symm.trans h'.row)
  rcases withdrawal with _ | w <;> rcases withdrawal' with _ | w'
  · rfl
  · exact absurd hstate (by decide : ¬ "private" = "withdrawn")
  · exact absurd hstate (by decide : ¬ "withdrawn" = "private")
  · rfl

/-! ## Effects -/

/-- A private row gets a withdrawal. -/
structure Withdrawn (library : Library) (s t : Disk) (digest : String) (r : Release) (tree : Tree)
    (now reason : String) : Prop where
  row : s.rows.get? digest = some (r.rowAs none)
  backed : Backed library s digest (r.rowAs none) r none tree
  canonical : Canonical (some (now, reason))
  rows : t.rows = s.rows.set digest (r.rowAs (some (now, reason)))
  candidates : t.candidates = s.candidates

/-- What a call may change, wherever it ends. -/
inductive Effects (library : Library) (s t : Disk) : Prop
  | same (h : Same s t)
  | beside (source : Source) (now : String) (tree : Tree) (validated : Release)
      (hfresh : Fresh library s source now tree validated)
      (h : Beside validated.packageSha256 s t)
  | committed (source : Source) (now : String) (tree : Tree) (validated : Release)
      (hfresh : Fresh library s source now tree validated) (h : Committed s validated tree t)
  | withdrawn (digest : String) (r : Release) (tree : Tree) (now reason : String)
      (h : Withdrawn library s t digest r tree now reason)

theorem Effect.effects {source : Source} {now : String} (h : Effect library s source now t) :
    Effects library s t := by
  rcases h with h | ⟨tree, validated, hfresh, h | h⟩
  · exact .same h
  · exact .beside source now tree validated hfresh h
  · exact .committed source now tree validated hfresh h

theorem Committed.directory {tree : Tree} {validated : Release} (h : Committed s validated tree t) :
    t.candidates.get? validated.packageSha256 = some tree := by
  rw [h.candidates]
  exact Dict.get?_set_self _ _ _

/-- A new row has an app version of its own. -/
theorem not_hasVersion {appId appVersion : String} (h : s.hasVersion appId appVersion = false)
    {digest : String} {row : Row} (hrow : s.rows.get? digest = some row) :
    ¬ (row.appId = appId ∧ row.appVersion = appVersion) := by
  rintro ⟨hid, hversion⟩
  unfold Disk.hasVersion at h
  rw [List.any_eq_false] at h
  refine h row (Dict.mem_values_iff.2 ⟨digest, hrow⟩) ?_
  simp [hid, hversion]

theorem Sound.effects (h : Sound library s) (heffects : Effects library s t) :
    Sound library t := by
  cases heffects with
  | same hsame =>
    refine ⟨fun digest row hrow => ?_, fun digest digest' row row' hrow hrow' => ?_⟩
    · rw [hsame.rows] at hrow
      obtain ⟨r, w, tree, hbacked⟩ := h.rows digest row hrow
      exact ⟨r, w, tree, hbacked.row, hbacked.named, hbacked.canonical,
        by rw [hsame.candidates]; exact hbacked.directory, hbacked.valid⟩
    · rw [hsame.rows] at hrow hrow'
      exact h.version digest digest' row row' hrow hrow'
  | beside source now tree₀ validated hfresh hbeside =>
    refine ⟨fun digest row hrow => ?_, fun digest digest' row row' hrow hrow' => ?_⟩
    · rw [hbeside.rows] at hrow
      obtain ⟨r, w, tree, hbacked⟩ := h.rows digest row hrow
      have hne : digest ≠ validated.packageSha256 := by
        rintro rfl
        rw [hfresh.row] at hrow
        cases hrow
      exact ⟨r, w, tree, hbacked.row, hbacked.named, hbacked.canonical,
        by rw [hbeside.candidates digest hne]; exact hbacked.directory, hbacked.valid⟩
    · rw [hbeside.rows] at hrow hrow'
      exact h.version digest digest' row row' hrow hrow'
  | committed source now tree₀ validated hfresh hcommitted =>
    have hvalid : validateSnapshot library tree₀ validated.ingestedAt = .ok validated := by
      rw [(validateSnapshot_spec hfresh.valid).1]
      exact hfresh.valid
    have hget : ∀ {digest row}, t.rows.get? digest = some row →
        digest = validated.packageSha256 ∧ row = validated.rowAs none ∨
          digest ≠ validated.packageSha256 ∧ s.rows.get? digest = some row := by
      intro digest row hrow
      rw [hcommitted.rows, Dict.get?_set] at hrow
      split_ifs at hrow with hdigest
      · cases hrow
        exact .inl ⟨hdigest, rfl⟩
      · exact .inr ⟨hdigest, hrow⟩
    refine ⟨fun digest row hrow => ?_, fun digest digest' row row' hrow hrow' hid hversion => ?_⟩
    · rcases hget hrow with ⟨rfl, rfl⟩ | ⟨hne, hold⟩
      · exact ⟨validated, none, tree₀, rfl, rfl, trivial,
          hcommitted.directory, hvalid⟩
      · obtain ⟨r, w, tree, hbacked⟩ := h.rows digest row hold
        exact ⟨r, w, tree, hbacked.row, hbacked.named, hbacked.canonical,
          by rw [hcommitted.candidates, Dict.get?_set_ne _ hne]; exact hbacked.directory,
          hbacked.valid⟩
    · rcases hget hrow with ⟨rfl, rfl⟩ | ⟨hne, hold⟩
      · rcases hget hrow' with ⟨rfl, rfl⟩ | ⟨hne', hold'⟩
        · rfl
        · exact (not_hasVersion hfresh.version hold' ⟨hid.symm, hversion.symm⟩).elim
      · rcases hget hrow' with ⟨rfl, rfl⟩ | ⟨hne', hold'⟩
        · exact (not_hasVersion hfresh.version hold ⟨hid, hversion⟩).elim
        · exact h.version digest digest' row row' hold hold' hid hversion
  | withdrawn digest₀ r₀ tree₀ now reason hwithdrawn =>
    have hget : ∀ {digest row}, t.rows.get? digest = some row →
        ∃ row₀, s.rows.get? digest = some row₀ ∧ row₀.appId = row.appId ∧
          row₀.appVersion = row.appVersion ∧
          (digest = digest₀ ∧ row = r₀.rowAs (some (now, reason)) ∨ row₀ = row) := by
      intro digest row hrow
      rw [hwithdrawn.rows, Dict.get?_set] at hrow
      split_ifs at hrow with hdigest
      · cases hrow
        exact ⟨r₀.rowAs none, hdigest ▸ hwithdrawn.row, rfl, rfl, .inl ⟨hdigest, rfl⟩⟩
      · exact ⟨row, hrow, rfl, rfl, .inr rfl⟩
    refine ⟨fun digest row hrow => ?_, fun digest digest' row row' hrow hrow' hid hversion => ?_⟩
    · obtain ⟨row₀, hrow₀, -, -, ⟨rfl, rfl⟩ | rfl⟩ := hget hrow
      · exact ⟨r₀, _, tree₀, rfl, hwithdrawn.backed.named, hwithdrawn.canonical,
          by rw [hwithdrawn.candidates]; exact hwithdrawn.backed.directory,
          hwithdrawn.backed.valid⟩
      · obtain ⟨r, w, tree, hbacked⟩ := h.rows digest row₀ hrow₀
        exact ⟨r, w, tree, hbacked.row, hbacked.named, hbacked.canonical,
          by rw [hwithdrawn.candidates]; exact hbacked.directory, hbacked.valid⟩
    · obtain ⟨row₀, hrow₀, hid₀, hversion₀, -⟩ := hget hrow
      obtain ⟨row₁, hrow₁, hid₁, hversion₁, -⟩ := hget hrow'
      exact h.version digest digest' row₀ row₁ hrow₀ hrow₁ (by rw [hid₀, hid₁, hid])
        (by rw [hversion₀, hversion₁, hversion])

/-- A release keeps its row, and a withdrawal is final. -/
def Keeps (library : Library) (s t : Disk) : Prop :=
  ∀ digest r withdrawal tree, s.rows.get? digest = some (r.rowAs withdrawal) →
    Backed library s digest (r.rowAs withdrawal) r withdrawal tree →
      ∃ withdrawal', t.rows.get? digest = some (r.rowAs withdrawal') ∧
        Backed library t digest (r.rowAs withdrawal') r withdrawal' tree ∧
        (withdrawal.isSome = true → withdrawal' = withdrawal)

theorem keeps_of_effects (heffects : Effects library s t) : Keeps library s t := by
  intro digest r w tree hrow hbacked
  cases heffects with
  | same h =>
    exact ⟨w, by rw [h.rows]; exact hrow, ⟨rfl, hbacked.named, hbacked.canonical,
      by rw [h.candidates]; exact hbacked.directory, hbacked.valid⟩, fun _ => rfl⟩
  | beside source now tree₀ validated hfresh h =>
    have hne : digest ≠ validated.packageSha256 := by
      rintro rfl
      rw [hfresh.row] at hrow
      cases hrow
    exact ⟨w, by rw [h.rows]; exact hrow, ⟨rfl, hbacked.named, hbacked.canonical,
      by rw [h.candidates digest hne]; exact hbacked.directory, hbacked.valid⟩, fun _ => rfl⟩
  | committed source now tree₀ validated hfresh h =>
    have hne : digest ≠ validated.packageSha256 := by
      rintro rfl
      rw [hfresh.row] at hrow
      cases hrow
    exact ⟨w, by rw [h.rows, Dict.get?_set_ne _ hne]; exact hrow, ⟨rfl, hbacked.named,
      hbacked.canonical, by rw [h.candidates, Dict.get?_set_ne _ hne]; exact hbacked.directory,
      hbacked.valid⟩, fun _ => rfl⟩
  | withdrawn digest₀ r₀ tree₀ now reason h =>
    by_cases hdigest : digest = digest₀
    · subst hdigest
      have hrows : r.rowAs w = r₀.rowAs none := Option.some.inj (hrow.symm.trans h.row)
      have hbacked₀ := h.backed
      rw [← hrows] at hbacked₀
      obtain ⟨rfl, hnone⟩ := hbacked.unique hbacked₀
      refine ⟨some (now, reason), by rw [h.rows]; exact Dict.get?_set_self _ _ _,
        ⟨rfl, hbacked.named, h.canonical, by rw [h.candidates]; exact hbacked.directory,
          hbacked.valid⟩, fun hsome => ?_⟩
      rw [hnone] at hsome
      cases hsome
    · exact ⟨w, by rw [h.rows, Dict.get?_set_ne _ hdigest]; exact hrow, ⟨rfl, hbacked.named,
        hbacked.canonical, by rw [h.candidates]; exact hbacked.directory, hbacked.valid⟩,
        fun _ => rfl⟩

/-! ## Calls -/

theorem within_touch : Within Outside env touch := fun s =>
  wp_step (fun _ => outside_later s) (fun _ => outside_later s) fun _ => outside_later s

theorem within_check {α : Type} (x : Py α) : Within Outside env (check x) := fun s =>
  wp_check (fun _ _ => Outside.refl s) fun _ _ => Outside.refl s

theorem within_refuseIf {c : Prop} [Decidable c] {code message : String} :
    Within Outside env (refuseIf c code message) := fun s =>
  wp_refuseIf (fun _ => Outside.refl s) fun _ => Outside.refl s

theorem within_detail (packageDigest : Json) : Within Outside env (detail library packageDigest) := by
  unfold detail
  refine (within_check _).bind frame_outside fun digest => within_touch.bind frame_outside fun _ =>
    Within.bind frame_outside (within_read frame_outside _) fun row => ?_
  cases row with
  | none => exact within_raise frame_outside _
  | some row =>
    refine (within_check _).bind frame_outside fun record => within_touch.bind frame_outside fun _ =>
      Within.bind frame_outside (within_read frame_outside _) fun tree =>
        (within_check _).bind frame_outside fun stored =>
          within_refuseIf.bind frame_outside fun _ => within_pure frame_outside _

theorem within_listReleases (includeWithdrawn : Bool) (limit : Int) (cursor : Option Json) :
    Within Outside env (listReleases library includeWithdrawn limit cursor) := by
  have hcursor : Within Outside env (cursorKey cursor) := by
    unfold cursorKey
    cases cursor with
    | none => exact within_pure frame_outside none
    | some cursor =>
      refine (within_check _).bind frame_outside fun digest => within_touch.bind frame_outside
        fun _ => Within.bind frame_outside (within_read frame_outside _) fun row => ?_
      cases row with
      | none => exact within_raise frame_outside _
      | some row => exact within_pure frame_outside _
  unfold listReleases
  exact within_refuseIf.bind frame_outside fun _ => hcursor.bind frame_outside fun _ =>
    within_touch.bind frame_outside fun _ =>
      Within.bind frame_outside (within_read frame_outside _) fun _ =>
        (within_check _).bind frame_outside fun _ => within_pure frame_outside _

theorem text_eq_ok {value : Json} {label : String} {maximum : Nat} {s : String}
    (h : text value label maximum = .ok s) (label' : String) :
    text (.str s) label' maximum = .ok s := by
  unfold text at h ⊢
  split at h
  · split at h
    · cases h
    · rename_i hbound
      obtain rfl := Except.ok.inj h
      exact if_neg hbound
  · cases h

/-- What `withdraw` changes. -/
theorem wp_withdraw (hsound : Sound library s) (hclock : env.Clocked) (packageDigest reason : Json) :
    wp (withdraw library packageDigest reason) (fun _ => Effects library s)
      (fun _ => Effects library s) (Effects library s) env s := by
  have hsame : ∀ {t}, Outside s t → Effects library s t := fun h => .same h.toSame
  unfold withdraw
  refine wp_bind.2 (wp_check (fun digest hdigest => ?_) fun _ _ => hsame (Outside.refl s))
  refine wp_bind.2 (wp_check (fun reason hreason => ?_) fun _ _ => hsame (Outside.refl s))
  refine wp_seq (M := fun _ => Outside s) ((within_touch s).mono (fun _ _ h => h)
    (fun _ _ => hsame) fun _ => hsame) fun _ t ht => ?_
  refine wp_seq (M := fun _ => Outside s) ((within_touch t).mono (fun _ _ => ht.trans)
    (fun _ _ h => hsame (ht.trans h)) fun _ h => hsame (ht.trans h)) fun _ u hu => ?_
  refine wp_read_bind.2 ?_
  dsimp only
  rw [hu.rows]
  cases hrow : s.rows.get? digest with
  | none => exact hsame hu
  | some row =>
    obtain ⟨r, w, tree, hbacked⟩ := hsound.rows digest row hrow
    dsimp only
    rw [hbacked.read]
    refine wp_bind.2 (wp_pure.2 (wp_ite.2 ⟨fun hstate => ?_, fun hstate => ?_⟩))
    · refine wp_seq (M := fun _ => Outside s) (wp_refuseIf (fun _ => hu) fun _ => hsame hu)
        fun _ v hv => ?_
      refine wp_seq (M := fun _ => Outside s) ((within_touch v).mono (fun _ _ => hv.trans)
        (fun _ _ h => hsame (hv.trans h)) fun _ h => hsame (hv.trans h)) fun _ x hx => hsame hx
    · obtain rfl : w = none := by
        rcases w with _ | w
        · rfl
        · rw [hbacked.row] at hstate
          exact absurd rfl hstate
      refine wp_read_bind.2 (wp_seq (M := fun _ => Outside s) ((within_touch u).mono
        (fun _ _ => hu.trans) (fun _ _ h => hsame (hu.trans h)) fun _ h => hsame (hu.trans h))
        fun _ v hv => ?_)
      refine wp_bind.2 (wp_step (fun _ => ?_) (fun _ => hsame (hv.trans (outside_later v)))
        fun _ => hsame (hv.trans (outside_later v)))
      have hbacked' := hbacked
      rw [hbacked.row] at hbacked' hrow
      refine .withdrawn digest r tree env.now reason ⟨hrow, hbacked', ⟨hclock, text_eq_ok hreason⟩,
        ?_, hv.candidates⟩
      have hwritten : ({ row with
          state := "withdrawn"
          record := Json.sortKeys (.obj (setMember (setMember (setMember (r.shown none) "state"
            (.str "withdrawn")) "withdrawn_at_utc" (.str env.now)) "withdraw_reason"
            (.str reason))) } : Row) = r.rowAs (some (env.now, reason)) := by
        rw [Json.sortKeys_obj, r.sorted_withdrawn, hbacked.row]
        rfl
      rw [← hwritten, ← hv.rows]
      rfl

theorem Same.effects {u : Disk} (hsame : Same s u) (h : Effects library u t) :
    Effects library s t := by
  cases h with
  | same h => exact .same (hsame.trans h)
  | beside source now tree validated hfresh h =>
    refine .beside source now tree validated (hsame.fresh.1 hfresh) ⟨by rw [h.rows, hsame.rows],
      fun other hother => ?_⟩
    rw [h.candidates other hother, hsame.candidates]
  | committed source now tree validated hfresh h =>
    exact .committed source now tree validated (hsame.fresh.1 hfresh)
      ⟨by rw [h.rows, hsame.rows], by rw [h.candidates, hsame.candidates]⟩
  | withdrawn digest r tree now reason h =>
    exact .withdrawn digest r tree now reason ⟨by rw [← hsame.rows]; exact h.row,
      ⟨rfl, h.backed.named, h.backed.canonical,
        by rw [← hsame.candidates]; exact h.backed.directory, h.backed.valid⟩,
      h.canonical, by rw [h.rows, hsame.rows], by rw [h.candidates, hsame.candidates]⟩

theorem same_ready (s : Disk) : Same s s.ready := ⟨rfl, rfl⟩

theorem effects_ingest (source : Source) :
    Effects library s (s.after library env (.ingest source)) := by
  have hwp := @wp_ingest library env s.ready source rfl rfl
  refine (same_ready s).effects (wp.last (hwp.mono ?_ ?_ ?_))
  · rintro result t ⟨⟨-, ⟨-, h⟩ | ⟨tree, validated, hfresh, -, h⟩⟩, -⟩
    · exact .same h
    · exact .committed source env.now tree validated hfresh h
  · rintro e t (⟨-, h⟩ | ⟨-, h⟩)
    · exact .same h
    · exact h.effects
  · exact fun t h => h.1.effects

/-- **What a call changes**, whatever faults it meets. -/
theorem effects_after (hsound : Sound library s) (hclock : env.Clocked) (call : Call) :
    Effects library s (s.after library env call) := by
  cases call with
  | ingest source => exact effects_ingest source
  | list includeWithdrawn limit cursor =>
    have h := (@within_listReleases library env includeWithdrawn limit cursor s.ready).last
    exact (same_ready s).effects (.same h.toSame)
  | detail packageDigest =>
    have h := (@within_detail library env packageDigest s.ready).last
    exact (same_ready s).effects (.same h.toSame)
  | withdraw packageDigest reason =>
    have hready : Sound library s.ready := hsound.effects (.same (same_ready s))
    exact (same_ready s).effects (wp_withdraw hready hclock packageDigest reason).last

/-- **Run lemma.** -/
theorem sound_of_runs {calls : List (Env × Call)} {d : Disk}
    (h : Steps (CallStep library) calls .empty d) : Sound library d :=
  h.invariant (sound_empty library) fun _ hstep hsound =>
    hstep.2 ▸ hsound.effects (effects_after hsound hstep.1 _)

end Vibapp.AppStore
