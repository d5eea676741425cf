import Vibapp.AppStore.Records

/-!
# What `ingest` does

`decision` is what `ingest` answers where nothing goes wrong. **Main result** (`wp_ingest`): whatever
faults a call of `ingest` meets, where it returns it has answered the decision, and where it raises or
stops it has left the catalog as it was, or a directory without a row, or the new row with its
directory.
-/

namespace Vibapp.AppStore

open Prog
open Daemon (field)

/-! ## The decision -/

/-- The walk over the package, as a function. -/
def copyTreeItems : List Item → Nat → Nat → Tree → Py Tree
  | [], _, _, tree => .ok tree
  | .directory real :: rest, count, total, tree => do
    raiseIf (real = false) "permission-denied" "package contains a linked or special directory"
    copyTreeItems rest count total tree
  | .file path entry :: rest, count, total, tree =>
    match entry with
    | .regular data => do
      raiseIf (maxPackageFiles < count + 1 ∨ maxPackageBytes < total + data.length)
        "resource-limit" "package exceeds file or byte limits"
      let _ ← artifactPath (.str path) "package path"
      raiseIf (maxArtifactBytes < data.length)
        "resource-limit" (path ++ " exceeds " ++ toString maxArtifactBytes ++ " bytes")
      copyTreeItems rest (count + 1) (total + data.length) (tree.putFile path data)
    | _ => fail "permission-denied" "package contains a linked or special file"

/-- What `_snapshot_candidate` copies. -/
def copyTree (source : Source) : Py Tree := do
  raiseIf (source.name ≠ "candidate.json")
    "invalid-argument" "input must be the frozen candidate.json"
  match source.candidate with
  | .missing => fail "integrity-failure" "cannot inspect candidate.json"
  | .irregular => fail "permission-denied" "candidate.json is not a unique regular file"
  | .regular data => do
    raiseIf (maxCandidateBytes < data.length)
      "resource-limit" ("candidate.json exceeds " ++ toString maxCandidateBytes ++ " bytes")
    match source.package with
    | .missing => fail "integrity-failure" "candidate has no adjacent package directory"
    | .irregular => fail "permission-denied" "candidate package is not a real directory"
    | .directory items => copyTreeItems items 0 0 (Tree.empty.putCandidate data)

/-- What `ingest` answers on a catalogued digest. -/
def decideAgain (library : Library) (s : Disk) (validated : Release) (row : Row) :
    Py (Bool × List (String × Json)) := do
  raiseIf (row.payloadSha256 ≠ validated.payloadBindingSha256)
    "conflict" "package digest already exists with a different payload"
  match s.candidates.get? validated.packageSha256 with
  | none => fail "integrity-failure" "catalog bytes are missing or linked"
  | some tree => do
    let record ← rowRecord library row
    let stored ← validateSnapshot library tree (digestText record "ingested_at_utc")
    raiseIf (stored.payloadBindingSha256 ≠ row.payloadSha256)
      "integrity-failure" "stored candidate bytes were modified"
    return (false, record)

/-- What `ingest` answers on a new digest. -/
def decideNew (s : Disk) (validated : Release) : Py (Bool × List (String × Json)) := do
  raiseIf (s.hasVersion validated.appId validated.appVersion = true)
    "conflict" "app version already exists with another package digest"
  raiseIf (s.candidates.contains validated.packageSha256 = true)
    "integrity-failure" "orphan candidate path collides with the package digest"
  return (true, validated.members "private" .null .null)

/-- What `ingest` answers to a validated candidate. -/
def decideOn (library : Library) (s : Disk) (validated : Release) :
    Py (Bool × List (String × Json)) :=
  match s.rows.get? validated.packageSha256 with
  | some row => decideAgain library s validated row
  | none => decideNew s validated

/-- What `ingest` answers. -/
def decision (library : Library) (s : Disk) (source : Source) (now : String) :
    Py (Bool × List (String × Json)) := do
  let validated ← validateSnapshot library (← copyTree source) now
  decideOn library s validated

/-! ## Effects -/

/-- The catalog and the candidate directories are the same. -/
structure Same (s t : Disk) : Prop where
  rows : t.rows = s.rows
  candidates : t.candidates = s.candidates

/-- Also the variable of the call. -/
structure Outside (s t : Disk) : Prop extends Same s t where
  created : t.created = s.created

/-- The catalog is the same, and the directories of other digests. -/
structure Beside (digest : String) (s t : Disk) : Prop where
  rows : t.rows = s.rows
  candidates : ∀ other, other ≠ digest → t.candidates.get? other = s.candidates.get? other

/-- The directory is there, and no row for it. -/
structure Renamed (s : Disk) (digest : String) (tree : Tree) (t : Disk) : Prop where
  rows : t.rows = s.rows
  candidates : t.candidates = s.candidates.set digest tree

/-- The directory is there, and its row. -/
structure Committed (s : Disk) (validated : Release) (tree : Tree) (t : Disk) : Prop where
  rows : t.rows = s.rows.set validated.packageSha256 validated.row
  candidates : t.candidates = s.candidates.set validated.packageSha256 tree

/-- The candidate is valid, and neither its digest nor its app version nor its directory is known. -/
structure Fresh (library : Library) (s : Disk) (source : Source) (now : String) (tree : Tree)
    (validated : Release) : Prop where
  copied : copyTree source = .ok tree
  valid : validateSnapshot library tree now = .ok validated
  row : s.rows.get? validated.packageSha256 = none
  version : s.hasVersion validated.appId validated.appVersion = false
  directory : s.candidates.contains validated.packageSha256 = false

/-- What a call that does not return leaves. -/
def Effect (library : Library) (s : Disk) (source : Source) (now : String) (t : Disk) : Prop :=
  Same s t ∨ ∃ tree validated, Fresh library s source now tree validated ∧
    (Beside validated.packageSha256 s t ∨ Committed s validated tree t)

/-- The steps of the copy. -/
def Source.steps (source : Source) : Nat :=
  match source.package with
  | .directory items => 2 + items.length
  | _ => 1

/-- What a call leaves that stops at step `i` and met no other fault. -/
def StoppedAt (source : Source) (s : Disk) (tree : Tree) (validated : Release) (i : Nat)
    (t : Disk) : Prop :=
  i ≤ source.steps + 5 ∧ Same s t ∨
    (i = source.steps + 6 ∨ i = source.steps + 7) ∧ Renamed s validated.packageSha256 tree t ∨
    source.steps + 8 ≤ i ∧ Committed s validated tree t

theorem Same.refl (s : Disk) : Same s s := ⟨rfl, rfl⟩

theorem Same.trans {s t u : Disk} (h₁ : Same s t) (h₂ : Same t u) : Same s u :=
  ⟨h₂.rows.trans h₁.rows, h₂.candidates.trans h₁.candidates⟩

theorem Outside.refl (s : Disk) : Outside s s := ⟨⟨rfl, rfl⟩, rfl⟩

theorem Outside.trans {s t u : Disk} (h₁ : Outside s t) (h₂ : Outside t u) : Outside s u :=
  ⟨h₁.toSame.trans h₂.toSame, h₂.created.trans h₁.created⟩

theorem frame_outside : Frame Outside := ⟨Outside.refl, Outside.trans⟩

theorem frame_beside (digest : String) : Frame (Beside digest) :=
  ⟨fun _ => ⟨rfl, fun _ _ => rfl⟩, fun h₁ h₂ => ⟨h₂.rows.trans h₁.rows, fun other hother =>
    (h₂.candidates other hother).trans (h₁.candidates other hother)⟩⟩

/-! ## Steps -/

/-- The disk with the next step's number. -/
def Disk.later (d : Disk) : Disk := { d with tick := d.tick + 1 }

variable {library : Library} {env : Env} {s : Disk}

theorem wp_step_iff {done : Disk → Disk} {Q : Unit → Disk → Prop} {E : Raised → Disk → Prop}
    {C : Disk → Prop} : wp (step done) Q E C env s ↔
      match env.fault s.tick with
      | none => Q () (done s.later)
      | some .fails => E .os s.later
      | some .stops => C s.later := by
  simp only [step, wp_bind, wp_read, wp_modify]
  cases hfault : env.fault s.tick with
  | none => rfl
  | some fault => cases fault <;> rfl

/-- A step, by the three ways it ends. -/
theorem wp_step {done : Disk → Disk} {Q : Unit → Disk → Prop} {E : Raised → Disk → Prop}
    {C : Disk → Prop} (hdone : env.fault s.tick = none → Q () (done s.later))
    (hfails : env.fault s.tick = some .fails → E .os s.later)
    (hstops : env.fault s.tick = some .stops → C s.later) : wp (step done) Q E C env s := by
  rw [wp_step_iff]
  split
  · exact hdone ‹_›
  · exact hfails ‹_›
  · exact hstops ‹_›

theorem wp_check {α : Type} {x : Py α} {Q : α → Disk → Prop} {E : Raised → Disk → Prop}
    {C : Disk → Prop} (hok : ∀ a, x = .ok a → Q a s) (herror : ∀ e, x = .error e → E e s) :
    wp (check x) Q E C env s := by
  cases x with
  | ok a => exact hok a rfl
  | error e => exact herror e rfl

theorem wp_refuseIf {c : Prop} [Decidable c] {code message : String} {Q : Unit → Disk → Prop}
    {E : Raised → Disk → Prop} {C : Disk → Prop} (hok : ¬ c → Q () s)
    (herror : c → E (.store ⟨code, message⟩) s) : wp (refuseIf c code message) Q E C env s := by
  unfold refuseIf
  exact wp_ite.2 ⟨herror, hok⟩

/-- The steps from `s` to `t` met no fault. -/
def Clean (env : Env) (s t : Disk) : Prop := ∀ i, s.tick ≤ i → i < t.tick → env.fault i = none

/-- A step of the environment raises. -/
def Env.Fails (env : Env) : Prop := ∃ i, env.fault i = some .fails

/-- A step of the environment stops. -/
def Env.Stops (env : Env) : Prop := ∃ i, env.fault i = some .stops

/-- A step from `a` on and before `b` stops. -/
def Env.StopsIn (env : Env) (a b : Nat) : Prop := ∃ i, a ≤ i ∧ i < b ∧ env.fault i = some .stops

theorem clean_refl (env : Env) (s : Disk) : Clean env s s := fun _ h₁ h₂ => absurd h₂ (not_lt.2 h₁)

theorem Clean.trans {t u : Disk} (h₁ : Clean env s t) (h₂ : Clean env t u) : Clean env s u := by
  intro i hs hu
  by_cases hi : i < t.tick
  · exact h₁ i hs hi
  · exact h₂ i (not_lt.1 hi) hu

theorem Env.StopsIn.mono {a b a' b' : Nat} (h : env.StopsIn a b) (ha : a' ≤ a) (hb : b ≤ b') :
    env.StopsIn a' b' := by
  obtain ⟨i, hai, hib, hi⟩ := h
  exact ⟨i, ha.trans hai, lt_of_lt_of_le hib hb, hi⟩

/-! ## The copy -/

/-- Where a run of `n` steps ends that changes no more than a staging directory and follows a
computation on values: with its value, with its refusal or a fault, or at a fault that stops it. -/
def Gives {α β : Type} (env : Env) (s : Disk) (n : Nat) (value : Py β) (m : Run α)
    (Q : α → β → Disk → Prop) : Prop :=
  wp m
    (fun a t => Outside s t ∧ t.tick = s.tick + n ∧ Clean env s t ∧ ∃ b, value = .ok b ∧ Q a b t)
    (fun e t => Outside s t ∧ (value = .error e ∨ env.Fails))
    (fun t => Outside s t ∧ env.StopsIn s.tick (s.tick + n)) env s

section

variable {α α' β β' : Type} {n k : Nat}

/-- One run after another. -/
theorem Gives.bind {x : Py β} {f : β → Py β'} {m : Run α} {g : α → Run α'}
    {M : α → β → Disk → Prop} {Q : α' → β' → Disk → Prop} (hm : Gives env s n x m M)
    (hg : ∀ a b t, x = .ok b → M a b t → Gives env t k (f b) (g a) Q) :
    Gives env s (n + k) (x >>= f) (m >>= g) Q := by
  refine wp_bind.2 (hm.mono ?_ ?_ ?_)
  · rintro a t ⟨hout, htick, hclean, b, hx, hM⟩
    refine (hg a b t hx hM).mono ?_ ?_ ?_
    · rintro a' u ⟨hout', htick', hclean', b', hf, hQ⟩
      exact ⟨hout.trans hout', by omega, hclean.trans hclean', b', by rw [hx, ok_bind, hf], hQ⟩
    · rintro e u ⟨hout', hf | hfails⟩
      · exact ⟨hout.trans hout', .inl (by rw [hx, ok_bind, hf])⟩
      · exact ⟨hout.trans hout', .inr hfails⟩
    · rintro u ⟨hout', hstops⟩
      exact ⟨hout.trans hout', hstops.mono (by omega) (by omega)⟩
  · rintro e t ⟨hout, hx | hfails⟩
    · exact ⟨hout, .inl (by rw [hx, error_bind])⟩
    · exact ⟨hout, .inr hfails⟩
  · rintro t ⟨hout, hstops⟩
    exact ⟨hout, hstops.mono (Nat.le_refl _) (by omega)⟩

/-- A step before a run, with no counterpart among the values. -/
theorem Gives.after {x : Py β} {m : Run α} {g : α → Run α'} {M : α → Unit → Disk → Prop}
    {Q : α' → β → Disk → Prop} (hm : Gives env s n (.ok ()) m M)
    (hg : ∀ a t, M a () t → Gives env t k x (g a) Q) : Gives env s (n + k) x (m >>= g) Q :=
  Gives.bind hm fun a _ t _ hM => hg a t hM

theorem Gives.mono {x : Py β} {m : Run α} {Q Q' : α → β → Disk → Prop}
    (h : Gives env s n x m Q) (hQ : ∀ a b t, Q a b t → Q' a b t) : Gives env s n x m Q' :=
  wp.mono_done h fun a t ⟨hout, htick, hclean, b, hx, hq⟩ =>
    ⟨hout, htick, hclean, b, hx, hQ a b t hq⟩

theorem Gives.count {x : Py β} {m : Run α} {Q : α → β → Disk → Prop}
    (h : Gives env s n x m Q) (hn : n = k) : Gives env s k x m Q := hn ▸ h

theorem gives_pure {a : α} {b : β} {Q : α → β → Disk → Prop} (hQ : Q a b s) :
    Gives env s 0 (.ok b) (pure a) Q :=
  ⟨Outside.refl s, rfl, clean_refl env s, b, rfl, hQ⟩

theorem gives_refuse {code message : String} {Q : α → β → Disk → Prop} :
    Gives env s n (fail code message) (refuse code message) Q :=
  ⟨Outside.refl s, .inl rfl⟩

theorem gives_read_bind {g : Env → Disk → α} {f : α → Run α'} {x : Py β}
    {Q : α' → β → Disk → Prop} :
    Gives env s n x (read g >>= f) Q ↔ Gives env s n x (f (g env s)) Q := Iff.rfl

/-- A run that refuses at once. -/
theorem gives_raised {x : Py β} {m : Run α} {e : Raised} {Q : α → β → Disk → Prop}
    (hm : m env s = (.raised e, s)) (hx : x = .error e) : Gives env s n x m Q := by
  unfold Gives wp
  rw [hm]
  exact ⟨Outside.refl s, .inl hx⟩

theorem gives_check {x : Py α} : Gives env s 0 x (check x) fun a b t => a = b ∧ t = s := by
  refine wp_check (fun a ha => ?_) fun e he => ⟨Outside.refl s, .inl he⟩
  exact ⟨Outside.refl s, rfl, clean_refl env s, a, ha, rfl, rfl⟩

theorem gives_refuseIf {c : Prop} [Decidable c] {code message : String} :
    Gives env s 0 (raiseIf c code message) (refuseIf c code message) fun _ _ t => t = s := by
  refine wp_refuseIf (fun hc => ?_) fun hc => ⟨Outside.refl s, .inl (if_pos hc)⟩
  exact ⟨Outside.refl s, rfl, clean_refl env s, (), if_neg hc, rfl⟩

end

/-- A step outside the catalog. -/
theorem gives_step {done : Disk → Disk} (hout : Outside s (done s.later))
    (htick : (done s.later).tick = s.later.tick) :
    Gives env s 1 (.ok ()) (step done) fun _ _ t => t = done s.later := by
  refine wp_step (fun hfault => ?_) (fun hfault => ?_) fun hfault => ?_
  · refine ⟨hout, htick, fun i hi hlt => ?_, (), rfl, rfl⟩
    rw [htick] at hlt
    obtain rfl : i = s.tick := le_antisymm (Nat.lt_succ_iff.1 hlt) hi
    exact hfault
  · exact ⟨⟨⟨rfl, rfl⟩, rfl⟩, .inr ⟨_, hfault⟩⟩
  · exact ⟨⟨⟨rfl, rfl⟩, rfl⟩, ⟨_, Nat.le_refl _, Nat.lt_succ_self _, hfault⟩⟩

theorem gives_touch : Gives env s 1 (.ok ()) touch fun _ _ t => t = s.later :=
  gives_step ⟨⟨rfl, rfl⟩, rfl⟩ rfl

/-- A change of a staging directory. -/
theorem gives_onStaging {n : Nat} {tree : Tree} (hs : s.staging.get? n = some tree)
    (f : Tree → Tree) : Gives env s 1 (.ok ()) (step fun d => d.onTree (.staging n) f)
      fun _ _ t => t.staging.get? n = some (f tree) := by
  have hon : s.later.onTree (.staging n) f = s.later.setTree (f tree) (.staging n) := by
    have hget : s.later.tree? (.staging n) = some tree := hs
    rw [Disk.onTree, hget]
  refine (gives_step (by rw [hon]; exact ⟨⟨rfl, rfl⟩, rfl⟩) (by rw [hon]; rfl)).mono ?_
  rintro _ _ _ rfl
  rw [hon]
  exact Dict.get?_set_self _ _ _

theorem gives_copyRegular {n : Nat} {tree : Tree} (hs : s.staging.get? n = some tree)
    (data : List UInt8) (put : List UInt8 → Tree → Tree) (maximum : Nat) (label : String) :
    Gives env s 1 (raiseIf (maximum < data.length) "resource-limit"
        (label ++ " exceeds " ++ toString maximum ++ " bytes"))
      (copyRegular (.regular data) n put maximum label)
      fun _ _ t => t.staging.get? n = some (put data tree) := by
  unfold copyRegular raiseIf
  dsimp only
  split_ifs
  · exact gives_refuse
  · exact gives_onStaging hs (put data)

/-- The walk over the package. -/
theorem gives_copyItems {n : Nat} (items : List Item) (count total : Nat) {s : Disk} {tree : Tree}
    (hs : s.staging.get? n = some tree) :
    Gives env s items.length (copyTreeItems items count total tree) (copyItems n items count total)
      fun _ tree' t => t.staging.get? n = some tree' := by
  induction items generalizing count total s tree with
  | nil => exact gives_pure hs
  | cons item rest ih =>
    cases item with
    | directory real =>
      refine (gives_refuseIf.bind (k := rest.length + 1) fun _ _ t _ ht => ?_).count (by simp)
      subst ht
      refine (gives_touch.after (k := rest.length) fun _ u hu => ?_).count (by omega)
      subst hu
      exact ih count total hs
    | file path entry =>
      cases entry with
      | missing => exact gives_refuse
      | irregular => exact gives_refuse
      | regular data =>
        refine (gives_refuseIf.bind (k := rest.length + 1) fun _ _ t _ ht => ?_).count (by simp)
        subst ht
        refine (gives_check.bind (k := rest.length + 1) fun _ _ u _ hu => ?_).count (by omega)
        obtain ⟨-, rfl⟩ := hu
        refine ((gives_copyRegular hs data _ _ _).bind (k := rest.length)
          fun _ _ v _ hv => ?_).count (by omega)
        exact ih (count + 1) (total + data.length) hv

/-- `_snapshot_candidate` into a new directory. -/
theorem gives_snapshotCandidate {n : Nat} (source : Source)
    (hs : s.staging.get? n = some .empty) :
    Gives env s source.steps (copyTree source) (snapshotCandidate source n)
      fun _ tree t => t.staging.get? n = some tree := by
  unfold copyTree snapshotCandidate
  refine (gives_refuseIf.bind (k := source.steps) fun _ _ t _ ht => ?_).count (by omega)
  subst ht
  cases source.candidate with
  | missing => exact gives_raised rfl rfl
  | irregular => exact gives_raised rfl rfl
  | regular data =>
    unfold Source.steps
    cases source.package with
    | missing =>
      dsimp only
      exact (gives_copyRegular hs data Tree.putCandidate maxCandidateBytes
        "candidate.json").bind (k := 0) fun _ _ _ _ _ => gives_refuse
    | irregular =>
      dsimp only
      exact (gives_copyRegular hs data Tree.putCandidate maxCandidateBytes
        "candidate.json").bind (k := 0) fun _ _ _ _ _ => gives_refuse
    | directory items =>
      dsimp only
      refine ((gives_copyRegular hs data Tree.putCandidate maxCandidateBytes
        "candidate.json").bind (k := 1 + items.length) fun _ _ u _ hu => ?_).count (by omega)
      refine gives_touch.after fun _ v hv => ?_
      subst hv
      exact gives_copyItems items 0 0 hu

/-- `ingest` up to its first query. -/
theorem gives_prepare {n : Nat} (source : Source) (hs : s.staging.get? n = some .empty) :
    Gives env s (source.steps + 3) (copyTree source >>= fun tree =>
        validateSnapshot library tree env.now >>= fun validated => pure (tree, validated))
      (prepare library source n)
      fun validated value t => value.2 = validated ∧ t.staging.get? n = some value.1 := by
  unfold prepare
  refine (gives_snapshotCandidate source hs).bind fun _ tree t _ ht => ?_
  refine (gives_touch.after (k := 2) fun _ u hu => ?_).count (by omega)
  subst hu
  have htree : (t.staging.get? n).getD .empty = tree := by rw [ht, Option.getD_some]
  change Gives env t.later 2 _ (check (validateSnapshot library
    ((t.staging.get? n).getD .empty) env.now) >>= fun validated => touch >>= fun _ =>
      touch >>= fun _ => pure validated) _
  rw [htree]
  refine (gives_check.bind (k := 2) fun validated value v _ hv => ?_).count (by omega)
  obtain ⟨rfl, rfl⟩ := hv
  refine (gives_touch.after (k := 1) fun _ w hw => ?_).count (by omega)
  subst hw
  refine (gives_touch.after (k := 0) fun _ x hx => ?_).count (by omega)
  subst hx
  exact gives_pure ⟨rfl, ht⟩

/-- The transaction on a catalogued digest. -/
theorem gives_ingestAgain (validated : Release) (row : Row) :
    Gives env s 2 (decideAgain library s validated row) (ingestAgain library validated row)
      fun result value _ => result = value := by
  unfold decideAgain ingestAgain
  refine (gives_refuseIf.bind (k := 2) fun _ _ t _ ht => ?_).count (by omega)
  subst ht
  change Gives env t 2 _ ((match t.candidates.get? validated.packageSha256 with
    | none => refuse "integrity-failure" "catalog bytes are missing or linked"
    | some tree => do
      let record ← check (rowRecord library row)
      touch
      let stored ← check (validateSnapshot library tree (digestText record "ingested_at_utc"))
      refuseIf (stored.payloadBindingSha256 ≠ row.payloadSha256)
        "integrity-failure" "stored candidate bytes were modified"
      touch
      return (false, record)) : Run _) _
  cases t.candidates.get? validated.packageSha256 with
  | none => exact gives_refuse
  | some tree =>
    refine (gives_check.bind (k := 2) fun record _ u _ hu => ?_).count (by omega)
    obtain ⟨rfl, rfl⟩ := hu
    refine gives_touch.after (k := 1) fun _ v hv => ?_
    subst hv
    refine (gives_check.bind (k := 1) fun stored _ w _ hw => ?_).count (by omega)
    obtain ⟨rfl, rfl⟩ := hw
    refine (gives_refuseIf.bind (k := 1) fun _ _ x _ hx => ?_).count (by omega)
    subst hx
    refine (gives_touch.after (k := 0) fun _ y _ => ?_).count (by omega)
    exact gives_pure rfl

/-! ## Removal -/

/-- What the removal of a tree may change. -/
def Around : Place → Disk → Disk → Prop
  | .staging _ => Outside
  | .final digest => fun s t => Beside digest s t ∧ t.created = s.created

theorem frame_around (place : Place) : Frame (Around place) := by
  cases place with
  | staging n => exact frame_outside
  | final digest =>
    refine ⟨fun s => ⟨(frame_beside digest).refl s, rfl⟩, fun h₁ h₂ => ?_⟩
    exact ⟨(frame_beside digest).trans h₁.1 h₂.1, h₂.2.trans h₁.2⟩

theorem around_setTree (place : Place) (tree : Tree) (s : Disk) :
    Around place s (s.setTree tree place) := by
  cases place with
  | staging n => exact ⟨⟨rfl, rfl⟩, rfl⟩
  | final digest => exact ⟨⟨rfl, fun other hother => Dict.get?_set_ne _ hother _⟩, rfl⟩

theorem around_eraseTree (place : Place) (s : Disk) : Around place s (s.eraseTree place) := by
  cases place with
  | staging n => exact ⟨⟨rfl, rfl⟩, rfl⟩
  | final digest => exact ⟨⟨rfl, fun other hother => Dict.get?_erase_ne _ hother⟩, rfl⟩

theorem around_onTree (place : Place) (f : Tree → Tree) (s : Disk) :
    Around place s (s.onTree place f) := by
  unfold Disk.onTree
  split
  · exact around_setTree place _ s
  · exact (frame_around place).refl s

theorem around_later (place : Place) (s : Disk) : Around place s s.later := by
  cases place with
  | staging n => exact ⟨⟨rfl, rfl⟩, rfl⟩
  | final digest => exact ⟨⟨rfl, fun _ _ => rfl⟩, rfl⟩

theorem within_step {place : Place} {done : Disk → Disk} (h : ∀ s, Around place s (done s)) :
    Within (Around place) env (step done) := by
  intro s
  have hlater := around_later place s
  exact wp_step (fun _ => (frame_around place).trans hlater (h _)) (fun _ => hlater)
    fun _ => hlater

theorem within_removeTree (place : Place) : Within (Around place) env (removeTree place) := by
  have hframe := frame_around place
  unfold removeTree
  refine Within.bind hframe (within_read hframe _) fun tree => ?_
  cases tree with
  | none => exact within_pure hframe ()
  | some tree =>
    refine Within.bind hframe (within_each hframe fun path _ => ?_) fun _ => ?_
    · exact within_step fun s => around_onTree place _ s
    · exact Within.bind hframe (within_step fun s => around_onTree place _ s) fun _ =>
        within_step fun s => around_eraseTree place s

/-- A run that always returns but for the faults it meets. -/
def EndsByFault {α : Type} (env : Env) (m : Run α) : Prop :=
  ∀ s, wp m (fun _ _ => True) (fun _ _ => env.Fails) (fun _ => env.Stops) env s

theorem EndsByFault.bind {α β : Type} {m : Run β} {f : β → Run α} (hm : EndsByFault env m)
    (hf : ∀ b, EndsByFault env (f b)) : EndsByFault env (m >>= f) := fun s =>
  wp_bind.2 ((hm s).mono_done fun b t _ => hf b t)

theorem endsByFault_step (done : Disk → Disk) : EndsByFault env (step done) := fun _ =>
  wp_step (fun _ => trivial) (fun hfault => ⟨_, hfault⟩) fun hfault => ⟨_, hfault⟩

theorem endsByFault_each {β : Type} {f : β → Run Unit} {l : List β}
    (hf : ∀ b, EndsByFault env (f b)) : EndsByFault env (each f l) := by
  induction l with
  | nil => exact fun _ => trivial
  | cons b rest ih => exact (hf b).bind fun _ => ih

theorem endsByFault_removeTree (place : Place) : EndsByFault env (removeTree place) := by
  unfold removeTree
  refine EndsByFault.bind (fun _ => trivial) fun tree => ?_
  cases tree with
  | none => exact fun _ => trivial
  | some tree =>
    exact (endsByFault_each fun path => endsByFault_step _).bind fun _ =>
      (endsByFault_step _).bind fun _ => endsByFault_step _

theorem endsByFault_ingestCleanup (n : Nat) : EndsByFault env (ingestCleanup n) := by
  unfold ingestCleanup
  refine (endsByFault_step _).bind fun _ => (endsByFault_removeTree _).bind fun _ =>
    EndsByFault.bind (fun _ => trivial) fun created => ?_
  cases created with
  | none => exact fun _ => trivial
  | some digest => exact endsByFault_removeTree _

/-- Nothing to remove. -/
theorem removeTree_none {place : Place} (h : s.tree? place = none) :
    removeTree place env s = (.done (), s) := by
  change (match s.tree? place with
    | none => pure ()
    | some tree => do
      each (fun path => step fun d => d.onTree place fun tree =>
        { tree with files := tree.files.filter fun file => file.1 ≠ path })
        (tree.files.map Prod.fst)
      step fun d => d.onTree place fun tree => { tree with candidate := none }
      step fun d => d.eraseTree place : Run Unit) env s = _
  rw [h]
  rfl

theorem outside_later (s : Disk) : Outside s s.later := ⟨⟨rfl, rfl⟩, rfl⟩

/-- The end of a call that has renamed nothing, or has its row. -/
theorem wp_ingestCleanup_none {n : Nat} (hs : s.created = none) :
    wp (ingestCleanup n) (fun _ => Outside s) (fun _ => Outside s) (Outside s) env s := by
  unfold ingestCleanup
  refine wp_bind.2 (wp_step (fun _ => ?_) (fun _ => outside_later s) fun _ => outside_later s)
  have htree := @within_removeTree env (.staging n) s.later
  refine wp_bind.2 (htree.mono (fun _ t ht => ?_) (fun _ t ht => (outside_later s).trans ht)
    fun t ht => (outside_later s).trans ht)
  have hout : Outside s t := (outside_later s).trans ht
  refine wp_read_bind.2 ?_
  rw [hout.created, hs]
  exact hout

/-- The end of a call that has renamed the directory and has no row. -/
theorem wp_ingestCleanup_some {n : Nat} {digest : String} (hs : s.created = some digest) :
    wp (ingestCleanup n) (fun _ => Beside digest s) (fun _ => Beside digest s) (Beside digest s)
      env s := by
  have hbeside : ∀ {t}, Outside s t → Beside digest s t := fun h =>
    ⟨h.rows, fun _ _ => by rw [h.candidates]⟩
  unfold ingestCleanup
  refine wp_bind.2 (wp_step (fun _ => ?_) (fun _ => hbeside (outside_later s))
    fun _ => hbeside (outside_later s))
  have htree := @within_removeTree env (.staging n) s.later
  refine wp_bind.2 (htree.mono (fun _ t ht => ?_)
    (fun _ t ht => hbeside ((outside_later s).trans ht))
    fun t ht => hbeside ((outside_later s).trans ht))
  have hout : Outside s t := (outside_later s).trans ht
  refine wp_read_bind.2 ?_
  rw [hout.created, hs]
  have hfinal := @within_removeTree env (.final digest) t
  have htrans : ∀ {u}, Around (.final digest) t u → Beside digest s u := fun h =>
    (frame_beside digest).trans (hbeside hout) h.1
  exact hfinal.mono (fun _ _ => htrans) (fun _ _ => htrans) fun _ => htrans

/-- The end of a call whose staging directory is gone: only the connection closes. -/
theorem wp_ingestCleanup_gone {n : Nat} (hs : s.created = none) (hn : s.staging.get? n = none) :
    wp (ingestCleanup n) (fun _ t => t = s.later) (fun _ t => t = s.later ∧ env.Fails)
      (fun t => t = s.later ∧ env.fault s.tick = some .stops) env s := by
  unfold ingestCleanup
  refine wp_bind.2 (wp_step (fun _ => ?_) (fun hfault => ⟨rfl, _, hfault⟩)
    fun hfault => ⟨rfl, hfault⟩)
  have hgone : s.later.tree? (.staging n) = none := hn
  refine wp_bind.2 ?_
  unfold wp
  rw [show id s.later = s.later from rfl, removeTree_none hgone]
  change wp (read (fun _ d => d.created) >>= fun created => _) _ _ _ env s.later
  refine wp_read_bind.2 ?_
  have hcreated : s.later.created = none := hs
  dsimp only
  rw [hcreated]
  exact rfl

/-! ## The call -/

/-- The transaction on a new digest. The directory is renamed at the second step. -/
theorem wp_ingestNew {n : Nat} {tree : Tree} {validated : Release}
    (hn : s.staging.get? n = some tree) :
    wp (ingestNew validated n)
      (fun result t => decideNew s validated = .ok result ∧ result.1 = true ∧
        Committed s validated tree t ∧ t.created = none ∧ t.staging.get? n = none ∧
        t.tick = s.tick + 4 ∧ Clean env s t)
      (fun e t => Outside s t ∧ (decideNew s validated = .error e ∨ env.Fails) ∨
        (∃ result, decideNew s validated = .ok result) ∧ env.Fails ∧
          Renamed s validated.packageSha256 tree t ∧ t.created = some validated.packageSha256)
      (fun t => Outside s t ∧ env.StopsIn s.tick (s.tick + 2) ∨
        (∃ result, decideNew s validated = .ok result) ∧
          Renamed s validated.packageSha256 tree t ∧ env.StopsIn (s.tick + 2) (s.tick + 4)) env s := by
  have hstops : ∀ {i}, s.tick ≤ i → i < s.tick + 2 → env.fault i = some .stops →
      env.StopsIn s.tick (s.tick + 2) := fun h₁ h₂ h => ⟨_, h₁, h₂, h⟩
  have hrename : rename n validated.packageSha256 s.later.later = { s.later.later with
      staging := s.staging.erase n
      candidates := s.candidates.set validated.packageSha256 tree } := by
    unfold rename
    rw [show s.later.later.staging.get? n = some tree from hn]
    rfl
  unfold ingestNew
  refine wp_bind.2 (wp_step (fun hfirst => ?_) (fun hfault => ?_) fun hfault => ?_)
  · refine wp_read_bind.2 (wp_bind.2 (wp_refuseIf (fun hversion => ?_) fun hversion => ?_))
    · change ¬ s.hasVersion validated.appId validated.appVersion = true at hversion
      refine wp_read_bind.2 (wp_bind.2 (wp_refuseIf (fun hdirectory => ?_) fun hdirectory => ?_))
      · change ¬ s.candidates.contains validated.packageSha256 = true at hdirectory
        have hdecide : decideNew s validated =
            .ok (true, validated.members "private" .null .null) := by
          rw [decideNew, raiseIf, if_neg hversion, ok_bind, raiseIf, if_neg hdirectory, ok_bind]
          rfl
        refine wp_bind.2 (wp_step (fun hsecond => ?_) (fun hfault => ?_) fun hfault => ?_)
        · change wp _ _ _ _ env (rename n validated.packageSha256 s.later.later)
          rw [hrename]
          refine wp_modify_bind.2 (wp_bind.2 (wp_step (fun hthird => ?_) (fun hfault => ?_)
            fun hfault => ?_))
          · refine wp_bind.2 (wp_step (fun hfourth => ?_) (fun hfault => ?_) fun hfault => ?_)
            · refine wp_modify_bind.2 ⟨hdecide, rfl, ⟨rfl, rfl⟩, rfl, Dict.get?_erase_self _ _, rfl,
                fun i hi hlt => ?_⟩
              change i < s.tick + 4 at hlt
              obtain rfl | rfl | rfl | rfl : i = s.tick ∨ i = s.tick + 1 ∨ i = s.tick + 2 ∨
                i = s.tick + 3 := by omega
              · exact hfirst
              · exact hsecond
              · exact hthird
              · exact hfourth
            · exact .inr ⟨⟨_, hdecide⟩, ⟨_, hfault⟩, ⟨rfl, rfl⟩, rfl⟩
            · exact .inr ⟨⟨_, hdecide⟩, ⟨rfl, rfl⟩, _, by simp [Disk.later], by simp [Disk.later], hfault⟩
          · exact .inr ⟨⟨_, hdecide⟩, ⟨_, hfault⟩, ⟨rfl, rfl⟩, rfl⟩
          · exact .inr ⟨⟨_, hdecide⟩, ⟨rfl, rfl⟩, _, by simp [Disk.later], by simp [Disk.later], hfault⟩
        · exact .inl ⟨⟨⟨rfl, rfl⟩, rfl⟩, .inr ⟨_, hfault⟩⟩
        · exact .inl ⟨⟨⟨rfl, rfl⟩, rfl⟩, hstops (Nat.le_succ _) (Nat.lt_succ_self _) hfault⟩
      · change s.candidates.contains validated.packageSha256 = true at hdirectory
        refine .inl ⟨outside_later s, .inl ?_⟩
        rw [decideNew, raiseIf, if_neg hversion, ok_bind, raiseIf, if_pos hdirectory]
        rfl
    · change s.hasVersion validated.appId validated.appVersion = true at hversion
      refine .inl ⟨outside_later s, .inl ?_⟩
      rw [decideNew, raiseIf, if_pos hversion]
      rfl
  · exact .inl ⟨outside_later s, .inr ⟨_, hfault⟩⟩
  · exact .inl ⟨outside_later s, hstops (Nat.le_refl _) (by omega) hfault⟩

theorem decideOn_same {t : Disk} (h : Same s t) (validated : Release) :
    decideOn library t validated = decideOn library s validated := by
  unfold decideOn decideAgain decideNew Disk.hasVersion
  rw [h.rows, h.candidates]

theorem fresh_of_decideNew {source : Source} {now : String} {tree : Tree} {validated : Release}
    (hcopied : copyTree source = .ok tree) (hvalid : validateSnapshot library tree now = .ok validated)
    (hrow : s.rows.get? validated.packageSha256 = none) {result : Bool × List (String × Json)}
    (h : decideNew s validated = .ok result) :
    Fresh library s source now tree validated ∧
      result = (true, validated.members "private" .null .null) := by
  unfold decideNew at h
  obtain ⟨_, hversion, h⟩ := bind_eq_ok.1 h
  obtain ⟨_, hdirectory, h⟩ := bind_eq_ok.1 h
  rw [raiseIf_eq_ok, Bool.not_eq_true] at hversion hdirectory
  cases h
  exact ⟨⟨hcopied, hvalid, hrow, hversion, hdirectory⟩, rfl⟩

theorem fresh_unique {source : Source} {now : String} {tree tree' : Tree}
    {validated validated' : Release} (h : Fresh library s source now tree validated)
    (hcopied : copyTree source = .ok tree')
    (hvalid : validateSnapshot library tree' now = .ok validated') :
    tree = tree' ∧ validated = validated' := by
  have htree : tree = tree' := Except.ok.inj (h.copied.symm.trans hcopied)
  subst htree
  exact ⟨rfl, Except.ok.inj (h.valid.symm.trans hvalid)⟩

theorem fst_of_decideAgain {validated : Release} {row : Row} {result : Bool × List (String × Json)}
    (h : decideAgain library s validated row = .ok result) : result.1 = false := by
  unfold decideAgain at h
  obtain ⟨_, -, h⟩ := bind_eq_ok.1 h
  split at h
  · cases h
  · obtain ⟨_, -, h⟩ := bind_eq_ok.1 h
    obtain ⟨_, -, h⟩ := bind_eq_ok.1 h
    obtain ⟨_, -, h⟩ := bind_eq_ok.1 h
    cases h
    rfl

/-- What is refused before the first query is the call's answer. -/
theorem error_of_prepared {source : Source} {now : String} {e : Raised}
    (h : (copyTree source >>= fun tree => validateSnapshot library tree now >>= fun validated =>
      pure (tree, validated)) = .error e) : decision library s source now = .error e := by
  unfold decision
  cases hcopied : copyTree source with
  | error e' =>
    rw [hcopied, error_bind] at h
    rw [error_bind]
    cases h
    rfl
  | ok tree =>
    rw [hcopied, ok_bind] at h
    rw [ok_bind]
    cases hvalid : validateSnapshot library tree now with
    | error e' =>
      rw [hvalid, error_bind] at h
      rw [error_bind]
      cases h
      rfl
    | ok validated =>
      rw [hvalid] at h
      cases h

/-- The part under `try`. -/
theorem wp_ingestBody {n : Nat} (source : Source) (hs : s.created = none)
    (hn : s.staging.get? n = some .empty) :
    wp (ingestBody library source n)
      (fun result t => decision library s source env.now = .ok result ∧ t.created = none ∧
        (result.1 = false ∧ Same s t ∨ ∃ tree validated,
          Fresh library s source env.now tree validated ∧
          result = (true, validated.members "private" .null .null) ∧
          Committed s validated tree t ∧ t.staging.get? n = none ∧
          t.tick = s.tick + (source.steps + 7) ∧ Clean env s t))
      (fun e t => t.created = none ∧ Same s t ∧
          (decision library s source env.now = .error e ∨ env.Fails) ∨
        env.Fails ∧ ∃ tree validated, Fresh library s source env.now tree validated ∧
          Renamed s validated.packageSha256 tree t ∧ t.created = some validated.packageSha256)
      (fun t => Same s t ∧ env.StopsIn s.tick (s.tick + (source.steps + 5)) ∨
        ∃ tree validated, Fresh library s source env.now tree validated ∧
          Renamed s validated.packageSha256 tree t ∧
          env.StopsIn (s.tick + (source.steps + 5)) (s.tick + (source.steps + 7))) env s := by
  unfold ingestBody
  refine wp_bind.2 (wp.mono (gives_prepare source hn) ?_ ?_ ?_)
  · rintro outcome t ⟨hout, htick, hclean, ⟨copied, value⟩, hvalue, houtcome, ht⟩
    obtain ⟨tree, hcopied, hvalue⟩ := bind_eq_ok.1 hvalue
    obtain ⟨validated, hvalid, hvalue⟩ := bind_eq_ok.1 hvalue
    obtain ⟨rfl, rfl⟩ := Prod.mk.inj (Except.ok.inj hvalue)
    obtain rfl : validated = outcome := houtcome
    have hdecision : decision library s source env.now = decideOn library s validated := by
      rw [decision, hcopied, ok_bind, hvalid, ok_bind]
    refine wp_read_bind.2 ?_
    change wp (match t.rows.get? validated.packageSha256 with
      | some row => ingestAgain library validated row
      | none => ingestNew validated n : Run _) _ _ _ env t
    rw [hout.rows]
    cases hrow : s.rows.get? validated.packageSha256 with
    | some row =>
      have hdecide : decision library s source env.now = decideAgain library t validated row := by
        rw [hdecision, ← decideOn_same hout.toSame, decideOn, hout.rows, hrow]
      refine wp.mono (gives_ingestAgain validated row) ?_ ?_ ?_
      · rintro result u ⟨hout', -, -, value, hvalue, rfl⟩
        exact ⟨hdecide.trans hvalue, (hout.trans hout').created.trans hs,
          .inl ⟨fst_of_decideAgain hvalue, (hout.trans hout').toSame⟩⟩
      · rintro e u ⟨hout', herror⟩
        refine .inl ⟨(hout.trans hout').created.trans hs, (hout.trans hout').toSame, ?_⟩
        rw [hdecide]
        exact herror
      · rintro u ⟨hout', hstops⟩
        exact .inl ⟨(hout.trans hout').toSame, hstops.mono (by omega) (by omega)⟩
    | none =>
      have hdecide : decision library s source env.now = decideNew t validated := by
        rw [hdecision, ← decideOn_same hout.toSame, decideOn, hout.rows, hrow]
      have hfresh : ∀ {result}, decideNew t validated = .ok result →
          Fresh library s source env.now tree validated ∧
            result = (true, validated.members "private" .null .null) := by
        intro result hresult
        refine fresh_of_decideNew hcopied hvalid hrow ?_
        rw [← hdecide, hdecision, decideOn, hrow] at hresult
        exact hresult
      refine (wp_ingestNew ht).mono ?_ ?_ ?_
      · rintro result u ⟨hresult, -, hcommitted, hcreated, hstaging, htick', hclean'⟩
        obtain ⟨hnew, hvalue⟩ := hfresh hresult
        refine ⟨hdecide.trans hresult, hcreated, .inr ⟨tree, validated, hnew, hvalue, ?_, hstaging,
          by omega, hclean.trans hclean'⟩⟩
        exact ⟨by rw [hcommitted.rows, hout.rows], by rw [hcommitted.candidates, hout.candidates]⟩
      · rintro e u (⟨hout', herror⟩ | ⟨⟨result, hresult⟩, hfails, hrenamed, hcreated⟩)
        · refine .inl ⟨(hout.trans hout').created.trans hs, (hout.trans hout').toSame, ?_⟩
          rw [hdecide]
          exact herror
        · refine .inr ⟨hfails, tree, validated, (hfresh hresult).1, ?_, hcreated⟩
          exact ⟨by rw [hrenamed.rows, hout.rows], by rw [hrenamed.candidates, hout.candidates]⟩
      · rintro u (⟨hout', hstops⟩ | ⟨⟨result, hresult⟩, hrenamed, hstops⟩)
        · exact .inl ⟨(hout.trans hout').toSame, hstops.mono (by omega) (by omega)⟩
        · refine .inr ⟨tree, validated, (hfresh hresult).1, ?_, hstops.mono (by omega) (by omega)⟩
          exact ⟨by rw [hrenamed.rows, hout.rows], by rw [hrenamed.candidates, hout.candidates]⟩
  · rintro e t ⟨hout, herror⟩
    refine .inl ⟨hout.created.trans hs, hout.toSame, herror.imp_left fun he => ?_⟩
    exact error_of_prepared he
  · rintro t ⟨hout, hstops⟩
    exact .inl ⟨hout.toSame, hstops.mono (Nat.le_refl _) (by omega)⟩

/-- What a call that returns has done. -/
def Returned (library : Library) (s : Disk) (source : Source) (now : String)
    (result : Bool × List (String × Json)) (t : Disk) : Prop :=
  decision library s source now = .ok result ∧ (result.1 = false ∧ Same s t ∨
    ∃ tree validated, Fresh library s source now tree validated ∧
      result = (true, validated.members "private" .null .null) ∧ Committed s validated tree t)

theorem Same.fresh {t : Disk} (h : Same s t) {source : Source} {now : String} {tree : Tree}
    {validated : Release} :
    Fresh library t source now tree validated ↔ Fresh library s source now tree validated := by
  have hversion : t.hasVersion validated.appId validated.appVersion =
      s.hasVersion validated.appId validated.appVersion := by
    unfold Disk.hasVersion
    rw [h.rows]
  constructor
  · intro hfresh
    exact ⟨hfresh.copied, hfresh.valid, h.rows ▸ hfresh.row, hversion ▸ hfresh.version,
      h.candidates ▸ hfresh.directory⟩
  · intro hfresh
    exact ⟨hfresh.copied, hfresh.valid, h.rows.symm ▸ hfresh.row, hversion.symm ▸ hfresh.version,
      h.candidates.symm ▸ hfresh.directory⟩

theorem decision_same {t : Disk} (h : Same s t) (source : Source) (now : String) :
    decision library t source now = decision library s source now := by
  unfold decision
  simp only [decideOn_same h]

/-- A new release is accepted. -/
theorem Fresh.decision {source : Source} {now : String} {tree : Tree} {validated : Release}
    (h : Fresh library s source now tree validated) :
    decision library s source now = .ok (true, validated.members "private" .null .null) := by
  rw [AppStore.decision, h.copied, ok_bind, h.valid, ok_bind, decideOn, h.row]
  dsimp only
  rw [decideNew, h.version, raiseIf, if_neg Bool.noConfusion, ok_bind, h.directory, raiseIf,
    if_neg Bool.noConfusion, ok_bind]
  rfl

/-- **Main result.** However a call of `ingest` ends. -/
theorem wp_ingest (source : Source) (hs : s.created = none) (htick : s.tick = 0) :
    wp (ingest library source)
      (fun result t => Returned library s source env.now result t ∧ ∀ tree validated,
        Fresh library s source env.now tree validated →
          ∀ i ≤ source.steps + 7, env.fault i = none)
      (fun e t => decision library s source env.now = .error e ∧ Same s t ∨
        env.Fails ∧ Effect library s source env.now t)
      (fun t => Effect library s source env.now t ∧ env.Stops ∧
        ∀ tree validated, Fresh library s source env.now tree validated →
          env.Fails ∨ ∃ i, env.fault i = some .stops ∧ StoppedAt source s tree validated i t)
      env s := by
  unfold ingest mkdtemp
  refine wp_bind.2 (wp_read_bind.2 (wp_bind.2 (wp_step (fun hfirst => ?_) (fun hfault => ?_)
    fun hfault => ?_)))
  · obtain ⟨made, hmade⟩ : ∃ made : Disk, made = { s.later with
      staging := s.later.staging.set s.nextStaging .empty, nextStaging := s.nextStaging + 1 } :=
      ⟨_, rfl⟩
    have hsame : Same s made := by rw [hmade]; exact ⟨rfl, rfl⟩
    have hcreated : made.created = none := by rw [hmade]; exact hs
    have hone : made.tick = 1 := by
      rw [hmade]
      change s.tick + 1 = 1
      omega
    have hstaging : made.staging.get? s.nextStaging = some .empty := by
      rw [hmade]
      exact Dict.get?_set_self _ _ _
    change wp (handle (ingestBody library source s.nextStaging) (fun e => do
      ingestCleanup s.nextStaging
      raise e) >>= fun result => ingestCleanup s.nextStaging >>= fun _ => pure result) _ _ _ env _
    rw [← hmade]
    refine wp_bind.2 (wp_handle.2 ((wp_ingestBody source hcreated hstaging).mono ?_ ?_ ?_))
    · rintro result t ⟨hdecision, hcreated', hend⟩
      rw [decision_same hsame] at hdecision
      refine wp_bind.2 ?_
      rcases hend with ⟨hfalse, hend⟩ |
        ⟨tree, validated, hfresh, hresult, hend, hgone, hticks, hclean⟩
      · have hkept : ∀ {u}, Outside t u → Same s u := fun h => hsame.trans (hend.trans h.toSame)
        refine ((wp_ingestCleanup_none hcreated').and (endsByFault_ingestCleanup _ t)).mono
          ?_ ?_ ?_
        · refine fun _ u hu => ⟨⟨hdecision, .inl ⟨hfalse, hkept hu.1⟩⟩,
            fun tree validated hfresh => ?_⟩
          rw [hfresh.decision] at hdecision
          cases hdecision
          cases hfalse
        · exact fun _ u hu => .inr ⟨hu.2, .inl (hkept hu.1)⟩
        · refine fun u hu => ⟨.inl (hkept hu.1), hu.2, fun tree validated hfresh => ?_⟩
          rw [hfresh.decision] at hdecision
          cases hdecision
          cases hfalse
      · rw [hsame.fresh] at hfresh
        have hcommitted : Committed s validated tree t.later :=
          ⟨by rw [← hsame.rows]; exact hend.rows,
            by rw [← hsame.candidates]; exact hend.candidates⟩
        refine (wp_ingestCleanup_gone hcreated' hgone).mono ?_ ?_ ?_
        · rintro _ _ rfl
          refine ⟨⟨hdecision, .inr ⟨tree, validated, hfresh, hresult, hcommitted⟩⟩,
            fun _ _ _ i hi => ?_⟩
          rcases Nat.eq_zero_or_pos i with rfl | hpos
          · exact htick ▸ hfirst
          · exact hclean i (by omega) (by omega)
        · rintro _ _ ⟨rfl, hfails⟩
          exact .inr ⟨hfails, .inr ⟨tree, validated, hfresh, .inr hcommitted⟩⟩
        · rintro _ ⟨rfl, hfault⟩
          refine ⟨.inr ⟨tree, validated, hfresh, .inr hcommitted⟩, ⟨_, hfault⟩,
            fun tree' validated' h => ?_⟩
          obtain ⟨rfl, rfl⟩ := fresh_unique h hfresh.copied hfresh.valid
          exact .inr ⟨_, hfault, .inr (.inr ⟨by omega, hcommitted⟩)⟩
    · rintro e t (⟨hcreated', hend, herror⟩ | ⟨hfails, tree, validated, hfresh, hend, hcreated'⟩)
      · have hkept : ∀ {u}, Outside t u → Same s u := fun h => hsame.trans (hend.trans h.toSame)
        rw [decision_same hsame] at herror
        refine wp_bind.2 (((wp_ingestCleanup_none hcreated').and
          (endsByFault_ingestCleanup _ t)).mono ?_ ?_ ?_)
        · rintro _ u ⟨hu, -⟩
          exact herror.elim (fun he => .inl ⟨he, hkept hu⟩) fun hf => .inr ⟨hf, .inl (hkept hu)⟩
        · exact fun _ u hu => .inr ⟨hu.2, .inl (hkept hu.1)⟩
        · refine fun u hu => ⟨.inl (hkept hu.1), hu.2, fun tree validated hfresh => ?_⟩
          refine .inl (herror.resolve_left fun he => ?_)
          rw [hfresh.decision] at he
          cases he
      · rw [hsame.fresh] at hfresh
        have hbeside : ∀ {u}, Beside validated.packageSha256 t u →
            Effect library s source env.now u := by
          intro u hu
          refine .inr ⟨tree, validated, hfresh, .inl ⟨?_, fun other hother => ?_⟩⟩
          · rw [hu.rows, hend.rows, hsame.rows]
          · rw [hu.candidates other hother, hend.candidates, hsame.candidates,
              Dict.get?_set_ne _ hother]
        refine wp_bind.2 (((wp_ingestCleanup_some hcreated').and
          (endsByFault_ingestCleanup _ t)).mono ?_ ?_ ?_)
        · exact fun _ u hu => .inr ⟨hfails, hbeside hu.1⟩
        · exact fun _ u hu => .inr ⟨hfails, hbeside hu.1⟩
        · exact fun u hu => ⟨hbeside hu.1, hu.2, fun _ _ _ => .inl hfails⟩
    · rintro t (⟨hend, hstops⟩ | ⟨tree, validated, hfresh, hend, hstops⟩)
      · obtain ⟨i, -, hi, hfault⟩ := hstops
        exact ⟨.inl (hsame.trans hend), ⟨i, hfault⟩, fun tree validated hfresh =>
          .inr ⟨i, hfault, .inl ⟨by omega, hsame.trans hend⟩⟩⟩
      · rw [hsame.fresh] at hfresh
        have hrenamed : Renamed s validated.packageSha256 tree t :=
          ⟨by rw [hend.rows, hsame.rows], by rw [hend.candidates, hsame.candidates]⟩
        obtain ⟨i, hi, hi', hfault⟩ := hstops
        refine ⟨.inr ⟨tree, validated, hfresh, .inl ⟨hrenamed.rows, fun other hother => ?_⟩⟩,
          ⟨i, hfault⟩, fun tree' validated' h => .inr ?_⟩
        · rw [hrenamed.candidates, Dict.get?_set_ne _ hother]
        · obtain ⟨rfl, rfl⟩ := fresh_unique h hfresh.copied hfresh.valid
          exact ⟨i, hfault, .inr (.inl ⟨by omega, hrenamed⟩)⟩
  · exact .inr ⟨⟨_, hfault⟩, .inl ⟨rfl, rfl⟩⟩
  · refine ⟨.inl ⟨rfl, rfl⟩, ⟨_, hfault⟩, fun tree validated _ =>
      .inr ⟨_, hfault, .inl ⟨?_, rfl, rfl⟩⟩⟩
    omega

end Vibapp.AppStore
