import Vibapp.AppStore.CatalogLaws

/-!
# Recovery of `ingest`

A call of `ingest` commits twice, to the directory by a rename and to the catalog by a transaction.
**Main result** (`crash_recovery`). Wherever a call stops, every row has its directory, and the same
candidate can be handed in again, exactly when the call does not stop between the two commits of a
new release. There the directory has no row, and every later call refuses it as an orphan.
-/

namespace Vibapp.AppStore

open Prog
open Daemon (field)

variable {library : Library} {s t : Disk} {source : Source} {now : String}

/-! ## Crashes -/

/-- The process stops at step `n`, and nothing else goes wrong. -/
def crashAt (now : String) (n : Nat) : Env := ⟨now, fun i => if i = n then some .stops else none⟩

/-- What a call of `ingest` that stops at step `n` leaves. A call of fewer steps is done. -/
def Disk.crashed (library : Library) (d : Disk) (source : Source) (now : String) (n : Nat) : Disk :=
  d.after library (crashAt now n) (.ingest source)

theorem not_fails_crashAt (now : String) (n : Nat) : ¬ (crashAt now n).Fails := by
  rintro ⟨i, hi⟩
  by_cases h : i = n <;> simp [crashAt, h] at hi

theorem eq_of_crashAt {n i : Nat} (h : (crashAt now n).fault i = some .stops) : i = n := by
  by_contra hne
  simp [crashAt, hne] at h

theorem crashed_eq {n : Nat} {outcome : Ends Raised (Bool × List (String × Json))}
    (h : ingest library source (crashAt now n) s.ready = (outcome, t)) :
    s.crashed library source now n = t :=
  congrArg Prod.snd h

/-- The call would succeed. -/
def Accepts (library : Library) (d : Disk) (source : Source) (now : String) : Prop :=
  ∃ result t, ingest library source (calm now) d.ready = (.done result, t)

/-- The row of the candidate and its directory are there, and agree with it. -/
def Together (library : Library) (d : Disk) (source : Source) (now : String) : Prop :=
  ∃ tree validated row r withdrawal stored, copyTree source = .ok tree ∧
    validateSnapshot library tree now = .ok validated ∧
      d.rows.get? validated.packageSha256 = some row ∧
        row.payloadSha256 = validated.payloadBindingSha256 ∧
          Backed library d validated.packageSha256 row r withdrawal stored

/-- The candidate can be handed in again, and is catalogued then. -/
def Recovers (library : Library) (d : Disk) (source : Source) (now : String) : Prop :=
  ∃ result t, ingest library source (calm now) d.ready = (.done result, t) ∧
    Together library t source now

/-- Every row has the directory it was made from. -/
def AllBacked (library : Library) (d : Disk) : Prop :=
  ∀ digest row, d.rows.get? digest = some row →
    ∃ r withdrawal tree, Backed library d digest row r withdrawal tree

/-- The release is new, and step `n` is behind the rename and not behind the commit of its row. -/
def InGap (library : Library) (d : Disk) (source : Source) (now : String) (n : Nat) : Prop :=
  (∃ tree validated, Fresh library d source now tree validated) ∧
    (n = source.steps + 6 ∨ n = source.steps + 7)

/-! ## Another time -/

/-- What is accepted at one time is accepted at another. -/
theorem decision_later {result : Bool × List (String × Json)}
    (h : decision library s source now = .ok result) (later : String) :
    ∃ result', decision library s source later = .ok result' := by
  unfold decision at h ⊢
  obtain ⟨tree, hcopied, h⟩ := bind_eq_ok.1 h
  obtain ⟨validated, hvalid, h⟩ := bind_eq_ok.1 h
  rw [hcopied, ok_bind, (validateSnapshot_spec hvalid).2.2 later, ok_bind]
  unfold decideOn at h ⊢
  dsimp only
  cases hrow : s.rows.get? validated.packageSha256 with
  | some row =>
    rw [hrow] at h
    exact ⟨result, h⟩
  | none =>
    rw [hrow] at h
    unfold decideNew at h ⊢
    obtain ⟨_, hversion, h⟩ := bind_eq_ok.1 h
    obtain ⟨_, hdirectory, -⟩ := bind_eq_ok.1 h
    dsimp only
    rw [hversion, ok_bind, hdirectory]
    exact ⟨_, rfl⟩

theorem decision_of_accepts (h : Accepts library s source now) :
    ∃ result, decision library s source now = .ok result := by
  obtain ⟨result, t, hrun⟩ := h
  have hwp := @wp_ingest library (calm now) s.ready source rfl rfl
  rw [← decision_same (same_ready s)]
  exact ⟨result, (hwp.done hrun).1.1⟩

theorem accepts_of_fresh {tree : Tree} {validated : Release}
    (h : Fresh library s source now tree validated) : Accepts library s source now := by
  have hready := (same_ready s).fresh.2 h
  obtain ⟨t, hrun, -⟩ := (ingest_quiet (quiet_calm now) source rfl rfl).1 _ hready.decision
  exact ⟨_, t, hrun⟩

/-! ## After a call that returns -/

theorem together_of_returned (hsound : Sound library s) {result : Bool × List (String × Json)}
    (h : Returned library s source now result t) : Together library t source now := by
  obtain ⟨hdecision, ⟨hfalse, hsame⟩ | ⟨tree, validated, hfresh, -, hcommitted⟩⟩ := h
  · unfold decision at hdecision
    obtain ⟨tree, hcopied, hdecision⟩ := bind_eq_ok.1 hdecision
    obtain ⟨validated, hvalid, hdecision⟩ := bind_eq_ok.1 hdecision
    unfold decideOn at hdecision
    cases hrow : s.rows.get? validated.packageSha256 with
    | some row =>
      rw [hrow] at hdecision
      dsimp only at hdecision
      unfold decideAgain at hdecision
      obtain ⟨_, hpayload, -⟩ := bind_eq_ok.1 hdecision
      obtain ⟨r, w, stored, hbacked⟩ := hsound.rows _ row hrow
      refine ⟨tree, validated, row, r, w, stored, hcopied, hvalid, ?_,
        not_not.1 (raiseIf_eq_ok.1 hpayload), ?_⟩
      · rw [hsame.rows]
        exact hrow
      · exact ⟨hbacked.row, hbacked.named, hbacked.canonical,
          by rw [hsame.candidates]; exact hbacked.directory, hbacked.valid⟩
    | none =>
      rw [hrow] at hdecision
      have hnew := (fresh_of_decideNew hcopied hvalid hrow hdecision).2
      rw [hnew] at hfalse
      cases hfalse
  · refine ⟨tree, validated, validated.row, validated, none, tree, hfresh.copied, hfresh.valid, ?_,
      rfl, ?_⟩
    · rw [hcommitted.rows]
      exact Dict.get?_set_self _ _ _
    · refine ⟨rfl, rfl, trivial, hcommitted.directory, ?_⟩
      rw [(validateSnapshot_spec hfresh.valid).1]
      exact hfresh.valid

theorem recovers_of_decision (hsound : Sound library s) {result : Bool × List (String × Json)}
    (h : decision library s source now = .ok result) : Recovers library s source now := by
  have hready : Sound library s.ready := hsound.effects (.same (same_ready s))
  rw [← decision_same (same_ready s)] at h
  obtain ⟨t, hrun, hreturned⟩ := (ingest_quiet (quiet_calm now) source rfl rfl).1 _ h
  exact ⟨result, t, hrun, together_of_returned hready hreturned⟩

/-! ## After a call that stops -/

/-- What the candidate's call leaves, wherever it stops. -/
theorem crashed_cases {n : Nat} {result : Bool × List (String × Json)}
    (h : decision library s source now = .ok result) :
    Same s (s.crashed library source now n) ∨ ∃ tree validated,
      Fresh library s source now tree validated ∧
        ((n = source.steps + 6 ∨ n = source.steps + 7) ∧
            Renamed s validated.packageSha256 tree (s.crashed library source now n) ∨
          Committed s validated tree (s.crashed library source now n)) := by
  have hready := same_ready s
  have hnot : ∀ {e}, ¬ decision library s.ready source now = .error e := by
    intro e he
    rw [decision_same hready, h] at he
    cases he
  have hwp := @wp_ingest library (crashAt now n) s.ready source rfl rfl
  unfold wp at hwp
  rcases hrun : ingest library source (crashAt now n) s.ready with ⟨result' | e | _, t⟩
  · rw [hrun] at hwp
    rw [crashed_eq hrun]
    rcases hwp.1.2 with ⟨-, hsame⟩ | ⟨tree, validated, hfresh, -, hcommitted⟩
    · exact .inl (hready.trans hsame)
    · exact .inr ⟨tree, validated, hready.fresh.1 hfresh,
        .inr ⟨hcommitted.rows, hcommitted.candidates⟩⟩
  · rw [hrun] at hwp
    rcases hwp with ⟨he, -⟩ | ⟨hfails, -⟩
    · exact (hnot he).elim
    · exact (not_fails_crashAt now n hfails).elim
  · rw [hrun] at hwp
    rw [crashed_eq hrun]
    obtain ⟨hsame | ⟨tree, validated, hfresh, -⟩, -, hstopped⟩ := hwp
    · exact .inl (hready.trans hsame)
    · obtain ⟨i, hi, hat⟩ :=
        (hstopped tree validated hfresh).resolve_left (not_fails_crashAt now n)
      obtain rfl := eq_of_crashAt hi
      rcases hat with ⟨-, hsame⟩ | ⟨hstep, hrenamed⟩ | ⟨-, hcommitted⟩
      · exact .inl (hready.trans hsame)
      · exact .inr ⟨tree, validated, hready.fresh.1 hfresh, 
          .inl ⟨hstep, hrenamed.rows, hrenamed.candidates⟩⟩
      · exact .inr ⟨tree, validated, hready.fresh.1 hfresh,
          .inr ⟨hcommitted.rows, hcommitted.candidates⟩⟩

/-- The call of a new release does stop in the gap, and leaves its directory alone. -/
theorem crashed_gap {n : Nat} {tree : Tree} {validated : Release}
    (hfresh : Fresh library s source now tree validated)
    (hn : n = source.steps + 6 ∨ n = source.steps + 7) :
    Renamed s validated.packageSha256 tree (s.crashed library source now n) := by
  have hready := (same_ready s).fresh.2 hfresh
  have hwp := @wp_ingest library (crashAt now n) s.ready source rfl rfl
  unfold wp at hwp
  rcases hrun : ingest library source (crashAt now n) s.ready with ⟨result' | e | _, t⟩
  · rw [hrun] at hwp
    have hclean := hwp.2 tree validated hready n (by omega)
    simp [crashAt] at hclean
  · rw [hrun] at hwp
    rcases hwp with ⟨he, -⟩ | ⟨hfails, -⟩
    · rw [show (crashAt now n).now = now from rfl, hready.decision] at he
      cases he
    · exact (not_fails_crashAt now n hfails).elim
  · rw [hrun] at hwp
    rw [crashed_eq hrun]
    obtain ⟨i, hi, hat⟩ := (hwp.2.2 tree validated hready).resolve_left (not_fails_crashAt now n)
    obtain rfl := eq_of_crashAt hi
    rcases hat with ⟨hle, -⟩ | ⟨-, hrenamed⟩ | ⟨hle, -⟩
    · omega
    · exact ⟨hrenamed.rows, hrenamed.candidates⟩
    · omega

/-- A directory without a row is refused. -/
theorem decision_orphan {tree : Tree} {validated : Release}
    (hfresh : Fresh library s source now tree validated)
    (h : Renamed s validated.packageSha256 tree t) (later : String) :
    decision library t source later = .error (.store ⟨"integrity-failure",
      "orphan candidate path collides with the package digest"⟩) := by
  have hversion : t.hasVersion validated.appId validated.appVersion = false := by
    unfold Disk.hasVersion
    rw [h.rows]
    exact hfresh.version
  have hdirectory : t.candidates.contains validated.packageSha256 = true := by
    rw [h.candidates, Dict.contains, Dict.get?_set_self]
    rfl
  rw [decision, hfresh.copied, ok_bind, (validateSnapshot_spec hfresh.valid).2.2 later, ok_bind,
    decideOn]
  dsimp only
  rw [h.rows, hfresh.row]
  dsimp only
  rw [decideNew]
  dsimp only
  rw [hversion, raiseIf, if_neg Bool.noConfusion, ok_bind, hdirectory, raiseIf, if_pos rfl]
  rfl

/-! ## Main result -/

/-- **Main result.** Wherever a call stops, in a store that calls have made. -/
theorem crash_recovery (library : Library) {calls : List (Env × Call)} {d : Disk}
    (h : Steps (CallStep library) calls .empty d) (source : Source) (now later : String) (n : Nat) :
    (AllBacked library (d.crashed library source now n) ∧
      (Accepts library d source now →
        Recovers library (d.crashed library source now n) source later)) ↔
      ¬ InGap library d source now n := by
  have hsound := sound_of_runs h
  have hcrashed : Sound library (d.crashed library source now n) :=
    hsound.effects (effects_ingest source)
  constructor
  · rintro ⟨-, hrecovers⟩ ⟨⟨tree, validated, hfresh⟩, hn⟩
    obtain ⟨result, t, hrun, -⟩ := hrecovers (accepts_of_fresh hfresh)
    obtain ⟨result', hdecision⟩ := decision_of_accepts ⟨result, t, hrun⟩
    rw [decision_orphan hfresh (crashed_gap hfresh hn)] at hdecision
    cases hdecision
  · intro hgap
    refine ⟨hcrashed.rows, fun haccepts => ?_⟩
    obtain ⟨result, hdecision⟩ := decision_of_accepts haccepts
    rcases @crashed_cases library d source now n result hdecision with hsame |
      ⟨tree, validated, hfresh, ⟨hn, -⟩ | hcommitted⟩
    · obtain ⟨result', hlater⟩ := decision_later hdecision later
      rw [← decision_same hsame] at hlater
      exact recovers_of_decision hcrashed hlater
    · exact (hgap ⟨⟨tree, validated, hfresh⟩, hn⟩).elim
    · -- the row is there, so a later call finds its own payload
      have hrow : (d.crashed library source now n).rows.get? validated.packageSha256 =
          some validated.row := by
        rw [hcommitted.rows]
        exact Dict.get?_set_self _ _ _
      obtain ⟨record, -, hlater⟩ := decision_again hcrashed hfresh.copied
        ((validateSnapshot_spec hfresh.valid).2.2 later) hrow rfl
      exact recovers_of_decision hcrashed hlater

/-- A call that stops at the rename can be repeated. -/
theorem crash_recovery_before_rename : Recovers sampleLibrary
    (Disk.empty.crashed sampleLibrary sampleSource sampleNow 11) sampleSource sampleNow := by
  have hgap : ¬ InGap sampleLibrary .empty sampleSource sampleNow 11 := by
    rintro ⟨-, hn⟩
    exact absurd hn (by decide)
  exact ((crash_recovery sampleLibrary (.nil Disk.empty) sampleSource sampleNow sampleNow 11).2
    hgap).2 (accepts_of_fresh (fresh_sample sampleNow))

/-- One that stops right behind it cannot. -/
theorem refused_behind_rename : Accepts sampleLibrary .empty sampleSource sampleNow ∧
    ∃ t, ingest sampleLibrary sampleSource (calm sampleNow)
      (Disk.empty.crashed sampleLibrary sampleSource sampleNow 12).ready =
        (.raised (.store ⟨"integrity-failure",
          "orphan candidate path collides with the package digest"⟩), t) := by
  have hfresh := fresh_sample sampleNow
  have hrenamed := crashed_gap hfresh (.inl rfl : 12 = sampleSource.steps + 6 ∨ _)
  have hdecision := decision_orphan hfresh hrenamed sampleNow
  rw [← decision_same (same_ready _)] at hdecision
  obtain ⟨t, hrun, -⟩ := (ingest_quiet (quiet_calm sampleNow) sampleSource rfl rfl).2 _ hdecision
  exact ⟨accepts_of_fresh hfresh, t, hrun⟩

end Vibapp.AppStore
