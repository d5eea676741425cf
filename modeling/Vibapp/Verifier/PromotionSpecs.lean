import Vibapp.Verifier.Promotion

/-!
# What a call of the verifier does

**Main result** (`wp_verifyAndPromoteImpl`). Whatever faults a call meets, it leaves the candidates as
they were, or it adds the complete candidate of a quarantine that the checks accept, under a digest
that was free; and where it raises, it has added one only if the release of the lock raised.

The staging directory is followed through the copy (`copyFiles_spec`) up to the rename, which is the
one step that changes the candidates.
-/

namespace Vibapp.Verifier

open Prog

variable {μ θ : Type} {library : Library μ θ} {env : Env library} {s t : Disk}

/-! ## Candidates -/

def Entry.data : Entry → List UInt8
  | .regular data => data
  | _ => []

/-- The package as it is copied. -/
def copies (quarantine : Quarantine) : List (String × List UInt8) :=
  expectedPackageFiles.map fun name => (name, (quarantine.package.entry name).data)

/-- The candidate that a promotion makes. -/
def candidateOf (quarantine : Quarantine) (accepted : Accepted) (now : String) : Candidate where
  package := some (copies quarantine)
  record := some (recordOf accepted ⟨some (copies quarantine), none⟩ now)

/-- The call has added the candidate of its quarantine. -/
structure Promoted (env : Env library) (accepted : Accepted) (s t : Disk) : Prop where
  accepts : verify library env.tools env.quarantine = .ok accepted
  new : s.candidates.get? accepted.digest = none
  candidates : t.candidates =
    s.candidates.set accepted.digest (candidateOf env.quarantine accepted env.now.1)

/-- The candidates and the decisions are the same. -/
structure Same (s t : Disk) : Prop where
  candidates : t.candidates = s.candidates
  decisions : t.decisions = s.decisions

/-- Also what is staged under `n`. -/
structure Still (n : Nat) (s t : Disk) : Prop extends Same s t where
  staged : t.staging.get? n = s.staging.get? n

theorem Same.refl (s : Disk) : Same s s := ⟨rfl, rfl⟩

theorem Same.trans {u : Disk} (h : Same s t) (h' : Same t u) : Same s u :=
  ⟨h'.candidates.trans h.candidates, h'.decisions.trans h.decisions⟩

theorem frame_same : Frame Same := ⟨Same.refl, Same.trans⟩

theorem frame_still (n : Nat) : Frame (Still n) :=
  ⟨fun s => ⟨Same.refl s, rfl⟩, fun h h' => ⟨h.toSame.trans h'.toSame, h'.staged.trans h.staged⟩⟩

/-! ## Steps -/

section

variable {Q : Unit → Disk → Prop} {E : Raised → Disk → Prop} {C : Disk → Prop}

theorem wp_perform {fault : Option Fault} {done : Disk → Disk} :
    wp (perform fault done : Run library Unit) Q E C env s ↔
      (fault = none → Q () (done s)) ∧ (fault = some .fails → E .os s) ∧
        (fault = some .stops → C s) := by
  unfold perform
  cases fault with
  | none => simp
  | some f => cases f <;> simp

theorem wp_step {done : Disk → Disk} :
    wp (step done : Run library Unit) Q E C env s ↔
      (env.fault s.tick = none → Q () (done { s with tick := s.tick + 1 })) ∧
        (env.fault s.tick = some .fails → E .os { s with tick := s.tick + 1 }) ∧
          (env.fault s.tick = some .stops → C { s with tick := s.tick + 1 }) := by
  unfold step
  rw [wp_read_bind, wp_modify_bind, wp_read_bind, wp_perform]

theorem wp_outerStep {o : Outer} {done : Disk → Disk} :
    wp (outerStep o done : Run library Unit) Q E C env s ↔
      (env.outer o = none → Q () (done s)) ∧ (env.outer o = some .fails → E .os s) ∧
        (env.outer o = some .stops → C s) := by
  unfold outerStep
  rw [wp_read_bind, wp_perform]

end

theorem wp_check {α : Type} {x : Py α} {Q : α → Disk → Prop} {E : Raised → Disk → Prop}
    {C : Disk → Prop} :
    wp (check x : Run library α) Q E C env s ↔
      (∀ a, x = .ok a → Q a s) ∧ ∀ e, x = .error e → E e s := by
  unfold check
  cases x <;> simp

section

variable {R : Disk → Disk → Prop} (hR : Frame R)

include hR

theorem within_check {α : Type} (x : Py α) : Within R env (check x : Run library α) := by
  intro s
  exact wp_check.2 ⟨fun _ _ => hR.refl s, fun _ _ => hR.refl s⟩

end

theorem within_step {R : Disk → Disk → Prop} {done : Disk → Disk}
    (htick : ∀ s : Disk, R s { s with tick := s.tick + 1 })
    (hdone : ∀ s : Disk, R s (done { s with tick := s.tick + 1 })) :
    Within R env (step done : Run library Unit) := by
  intro s
  exact wp_step.2 ⟨fun _ => hdone s, fun _ => htick s, fun _ => htick s⟩

theorem within_touch_same : Within Same env (touch : Run library Unit) :=
  within_step (fun _ => ⟨rfl, rfl⟩) fun _ => ⟨rfl, rfl⟩

theorem within_touch_still (n : Nat) : Within (Still n) env (touch : Run library Unit) :=
  within_step (fun _ => ⟨⟨rfl, rfl⟩, rfl⟩) fun _ => ⟨⟨rfl, rfl⟩, rfl⟩

theorem Disk.stage_same (d : Disk) (n : Nat) (f : Candidate → Candidate) : Same d (d.stage n f) := by
  unfold Disk.stage
  cases d.staging.get? n <;> exact ⟨rfl, rfl⟩

theorem Disk.stage_staged {d : Disk} {n : Nat} {f : Candidate → Candidate} {c : Candidate}
    (h : d.staging.get? n = some c) : (d.stage n f).staging.get? n = some (f c) := by
  unfold Disk.stage
  rw [h]
  exact Dict.get?_set_self _ _ _

theorem within_removeStaging (n : Nat) : Within Same env (removeStaging n : Run library Unit) :=
  within_step (fun _ => ⟨rfl, rfl⟩) fun _ => ⟨rfl, rfl⟩

/-- A step below the staging directory. -/
theorem wp_stage {n : Nat} {f : Candidate → Candidate} {c : Candidate}
    (h : s.staging.get? n = some c) :
    wp (step (fun d => d.stage n f) : Run library Unit)
      (fun _ t => Same s t ∧ t.staging.get? n = some (f c)) (fun _ t => Same s t) (Same s) env
      s := by
  refine wp_step.2 ⟨?_, fun _ => ⟨rfl, rfl⟩, fun _ => ⟨rfl, rfl⟩⟩
  intro _
  exact ⟨⟨(Disk.stage_same _ _ _).candidates, (Disk.stage_same _ _ _).decisions⟩,
    Disk.stage_staged h⟩

/-! ## The checks -/

/-- A read and its check, in front of the rest. -/
theorem wp_touch_check {α β : Type} {u : Disk} {x : Py α} {f : α → Run library β}
    {Q : β → Disk → Prop} (hu : Same s u)
    (h : ∀ a t, x = .ok a → Same s t → wp (f a) Q (fun _ => Same s) (Same s) env t) :
    wp (touch >>= fun _ => check x >>= f) Q (fun _ => Same s) (Same s) env u := by
  have hlater : Same s { u with tick := u.tick + 1 } := ⟨hu.candidates, hu.decisions⟩
  refine wp_bind.2 (wp_step.2 ⟨?_, fun _ => hlater, fun _ => hlater⟩)
  intro _
  refine wp_bind.2 (wp_check.2 ⟨?_, fun _ _ => hlater⟩)
  intro a ha
  exact h a _ ha hlater

/-- Where the checks return, they come to `verify`; they change nothing. -/
theorem verifyRun_spec :
    wp (verifyRun : Run library Accepted)
      (fun accepted t => Same s t ∧ verify library env.tools env.quarantine = .ok accepted)
      (fun _ => Same s) (Same s) env s := by
  unfold verifyRun
  rw [wp_read_bind, wp_read_bind]
  refine wp_touch_check (Same.refl s) ?_
  intro receipt t hreceipt ht
  refine wp_touch_check ht ?_
  intro tree t htree ht
  refine wp_touch_check ht ?_
  intro digests t hdigests ht
  refine wp_touch_check ht ?_
  intro wasm t hwasm ht
  refine wp_touch_check ht ?_
  intro guest t hguest ht
  refine wp_touch_check ht ?_
  intro receiptDigest t hdigest ht
  refine ⟨ht, ?_⟩
  unfold verify
  rw [hreceipt, ok_bind, htree, ok_bind]
  dsimp only
  rw [hdigests, ok_bind, hwasm, ok_bind, hguest, ok_bind, hdigest, ok_bind]
  rfl

/-! ## The copy -/

/-- The names are copied one after another, each with the data of the quarantine's file. -/
theorem copyFiles_spec {n : Nat} {names : List String} {files : List (String × List UInt8)}
    {u : Disk} (hu : Same s u) (hstaged : u.staging.get? n = some ⟨some files, none⟩) :
    wp (each (copyFile n) names : Run library Unit)
      (fun _ t => Same s t ∧ t.staging.get? n = some ⟨some (files ++ names.map fun name =>
        (name, (env.quarantine.package.entry name).data)), none⟩)
      (fun _ => Same s) (Same s) env u := by
  induction names generalizing files u with
  | nil => exact ⟨hu, by simpa using hstaged⟩
  | cons name names ih =>
    unfold each copyFile
    refine wp_bind.2 ?_
    rw [wp_read_bind]
    refine wp_bind.2 (wp_check.2 ⟨?_, fun _ _ => hu⟩)
    intro data hdata
    refine (wp_stage hstaged).mono ?_ (fun _ _ h => hu.trans h) fun _ h => hu.trans h
    intro _ t ht
    have hname : (env.quarantine.package.entry name).data = data := by
      unfold readBounded at hdata
      cases hentry : env.quarantine.package.entry name with
      | missing =>
        rw [hentry] at hdata
        cases hdata
      | irregular =>
        rw [hentry] at hdata
        cases hdata
      | regular bytes =>
        rw [hentry] at hdata
        simp only [ite_error_eq_ok, fail] at hdata
        exact Except.ok.inj hdata.2
    have hnext : t.staging.get? n = some ⟨some (files ++ [(name, data)]), none⟩ := ht.2
    refine (ih (hu.trans ht.1) hnext).mono_done ?_
    intro _ v hv
    refine ⟨hv.1, ?_⟩
    rw [hv.2, List.map_cons, hname, List.append_assoc]
    rfl

theorem checkCopies_within (n : Nat) (accepted : Accepted) :
    Within (Still n) env (checkCopies n accepted : Run library Unit) := by
  have hR := frame_still n
  unfold checkCopies staged
  refine (within_touch_still n).bind hR fun _ => ?_
  refine (within_read hR _).bind hR fun candidate => ?_
  refine (within_check hR _).bind hR fun data => ?_
  refine (within_check hR _).bind hR fun value => ?_
  refine (within_check hR _).bind hR fun digest => ?_
  refine (within_check hR _).bind hR fun _ => ?_
  refine within_each hR ?_
  intro row _
  refine (within_touch_still n).bind hR fun _ => ?_
  refine (within_check hR _).bind hR fun _ => ?_
  exact within_check hR _

/-! ## The two ends -/

theorem recheckExisting_within (n : Nat) (accepted : Accepted) (record : Record)
    (existing : Candidate) :
    Within Same env (recheckExisting n accepted record existing : Run library String) := by
  have hR := frame_same
  unfold recheckExisting
  refine within_touch_same.bind hR fun _ => ?_
  refine (within_check hR _).bind hR fun _ => ?_
  refine within_touch_same.bind hR fun _ => ?_
  refine (within_check hR _).bind hR fun _ => ?_
  refine within_touch_same.bind hR fun _ => ?_
  refine (within_check hR _).bind hR fun _ => ?_
  refine (within_check hR _).bind hR fun _ => ?_
  refine (within_each hR ?_).bind hR fun _ => ?_
  · intro row _
    refine within_touch_same.bind hR fun _ => ?_
    refine (within_check hR _).bind hR fun _ => ?_
    exact within_check hR _
  · exact (within_removeStaging n).bind hR fun _ => within_pure hR _

theorem recheckExisting_returns (n : Nat) (accepted : Accepted) (record : Record)
    (existing : Candidate) :
    Returns (fun digest => digest = accepted.digest) env
      (recheckExisting n accepted record existing : Run library String) := by
  unfold recheckExisting
  refine Returns.bind fun _ => Returns.bind fun _ => Returns.bind fun _ => Returns.bind fun _ => ?_
  refine Returns.bind fun _ => Returns.bind fun _ => Returns.bind fun _ => Returns.bind fun _ => ?_
  refine Returns.bind fun _ => ?_
  intro u
  rfl

/-- Up to the rename nothing has changed; the rename is the last step. -/
theorem commit_spec {n : Nat} {digest : String} {record : Record}
    {files : List (String × List UInt8)} {u : Disk} (hu : Same s u)
    (hstaged : u.staging.get? n = some ⟨some files, none⟩) :
    wp (commit n digest record : Run library String)
      (fun d t => d = digest ∧ t.decisions = s.decisions ∧
        t.candidates = s.candidates.set digest ⟨some files, some record⟩)
      (fun _ => Same s) (Same s) env u := by
  unfold commit staged
  refine wp_seq (((within_touch_still n) u).mono (fun _ _ h => h)
    (fun _ _ h => hu.trans h.toSame) fun _ h => hu.trans h.toSame) ?_
  intro _ v hv
  refine wp_seq ((wp_stage (hv.staged.trans hstaged)).mono (fun _ _ h => h)
    (fun _ _ h => (hu.trans hv.toSame).trans h) fun _ h => (hu.trans hv.toSame).trans h) ?_
  intro _ x hx
  have hsx : Same s x := (hu.trans hv.toSame).trans hx.1
  refine wp_seq (((within_touch_still n) x).mono (fun _ _ h => h)
    (fun _ _ h => hsx.trans h.toSame) fun _ h => hsx.trans h.toSame) ?_
  intro _ y hy
  have hsy : Same s y := hsx.trans hy.toSame
  have hstagedy : y.staging.get? n = some ⟨some files, some record⟩ := hy.staged.trans hx.2
  rw [wp_read_bind, hstagedy]
  refine wp_bind.2 (wp_step.2 ⟨?_, fun _ => ⟨hsy.candidates, hsy.decisions⟩,
    fun _ => ⟨hsy.candidates, hsy.decisions⟩⟩)
  intro _
  refine ⟨rfl, hsy.decisions, ?_⟩
  simp only [Option.getD_some]
  rw [hsy.candidates]

/-! ## A call -/

/-- A call has returned the digest of its quarantine: it has added the candidate, or one was
there. -/
structure Returned (env : Env library) (s : Disk) (digest : String) (t : Disk) : Prop where
  decisions : t.decisions = s.decisions
  accepts : ∃ accepted, verify library env.tools env.quarantine = .ok accepted ∧
    digest = accepted.digest ∧
      (Promoted env accepted s t ∨
        t.candidates = s.candidates ∧ ∃ c, s.candidates.get? accepted.digest = some c)

/-- The `try` of `_verify_and_promote_impl`. -/
theorem promoteStaged_spec {n : Nat} {accepted : Accepted} {u : Disk} (hu : Same s u)
    (hstaged : u.staging.get? n = some .empty)
    (haccepts : verify library env.tools env.quarantine = .ok accepted) :
    wp (promoteStaged n accepted : Run library String) (Returned env s) (fun _ => Same s)
      (Same s) env u := by
  unfold promoteStaged
  refine wp_seq ((wp_stage hstaged).mono (fun _ _ h => h) (fun _ _ h => hu.trans h)
    fun _ h => hu.trans h) ?_
  intro _ v hv
  refine wp_seq (copyFiles_spec (hu.trans hv.1) hv.2) ?_
  intro _ x hx
  rw [List.nil_append] at hx
  refine wp_seq ((checkCopies_within n accepted x).mono (fun _ _ h => h)
    (fun _ _ h => hx.1.trans h.toSame) fun _ h => hx.1.trans h.toSame) ?_
  intro _ y hy
  have hcopied : y.staging.get? n = some ⟨some (copies env.quarantine), none⟩ :=
    hy.staged.trans hx.2
  unfold staged
  rw [wp_read_bind, wp_read_bind, hcopied, Option.getD_some]
  refine wp_seq ((within_touch_still n y).mono (fun _ _ h => h)
    (fun _ _ h => (hx.1.trans hy.toSame).trans h.toSame)
    fun _ h => (hx.1.trans hy.toSame).trans h.toSame) ?_
  intro _ z hz
  have hsz : Same s z := (hx.1.trans hy.toSame).trans hz.toSame
  have hstagedz : z.staging.get? n = some ⟨some (copies env.quarantine), none⟩ :=
    hz.staged.trans hcopied
  rw [wp_read_bind]
  cases hfinal : z.candidates.get? accepted.digest with
  | none =>
    refine (commit_spec hsz hstagedz).mono_done ?_
    rintro _ x ⟨rfl, hdecisions, hcandidates⟩
    refine ⟨hdecisions, accepted, haccepts, rfl, .inl ⟨haccepts, ?_, hcandidates⟩⟩
    rw [← hsz.candidates]
    exact hfinal
  | some existing =>
    have hwithin : wp (recheckExisting n accepted
        (recordOf accepted ⟨some (copies env.quarantine), none⟩ env.now.1) existing :
          Run library String) (fun _ => Same z) (fun _ => Same z) (Same z) env z :=
      recheckExisting_within n accepted _ existing z
    have hreturns : wp (recheckExisting n accepted
        (recordOf accepted ⟨some (copies env.quarantine), none⟩ env.now.1) existing :
          Run library String) (fun digest _ => digest = accepted.digest) (fun _ _ => True)
            (fun _ => True) env z :=
      recheckExisting_returns n accepted _ existing z
    refine (hwithin.and hreturns).mono ?_ (fun _ _ h => hsz.trans h.1) fun _ h => hsz.trans h.1
    rintro _ x ⟨hsame, rfl⟩
    refine ⟨(hsz.trans hsame).decisions, accepted, haccepts, rfl, .inr ?_⟩
    exact ⟨(hsz.trans hsame).candidates, existing, hsz.candidates ▸ hfinal⟩

theorem promoteLocked_spec (again : Bool) {u : Disk} (hu : Same s u) :
    wp (promoteLocked again : Run library String) (Returned env s) (fun _ => Same s) (Same s) env
      u := by
  unfold promoteLocked
  rw [wp_read_bind]
  by_cases hbusy : env.busy = true
  · rw [if_pos hbusy]
    exact hu
  · rw [if_neg hbusy]
    refine wp_seq (M := fun accepted v => Same s v ∧
      verify library env.tools env.quarantine = .ok accepted) (verifyRun_spec.mono
        (fun _ _ h => ⟨hu.trans h.1, h.2⟩) (fun _ _ h => hu.trans h) fun _ h => hu.trans h) ?_
    rintro accepted v ⟨hv, haccepts⟩
    refine wp_seq (M := fun _ => Same s) ((within_touch_same v).mono (fun _ _ h => hv.trans h)
      (fun _ _ h => hv.trans h) fun _ h => hv.trans h) ?_
    intro _ x hx
    rw [wp_read_bind]
    split_ifs
    · exact hx
    · unfold makeStaging
      simp only [bind_assoc]
      rw [wp_read_bind]
      have hlater : Same s { x with tick := x.tick + 1 } := ⟨hx.candidates, hx.decisions⟩
      have hmade : Same s { x with
          tick := x.tick + 1
          nextStaging := x.nextStaging + 1
          staging := x.staging.set x.nextStaging .empty } := ⟨hx.candidates, hx.decisions⟩
      refine wp_bind.2 (wp_step.2 ⟨?_, fun _ => hlater, fun _ => hlater⟩)
      intro _
      refine wp_seq (M := fun _ y => Same s y ∧ y.staging.get? x.nextStaging = some .empty)
        ((within_touch_still x.nextStaging _).mono ?_ ?_ ?_) ?_
      · intro _ y hy
        exact ⟨hmade.trans hy.toSame, hy.staged.trans (Dict.get?_set_self _ _ _)⟩
      · intro _ y hy
        exact hmade.trans hy.toSame
      · intro y hy
        exact hmade.trans hy.toSame
      · intro _ y hy
        refine wp_try (promoteStaged_spec hy.1 hy.2 haccepts) ?_
        intro e z hz
        refine wp_bind.2 (((within_removeStaging x.nextStaging) z).mono ?_ ?_ ?_)
        · intro _ _ h
          exact hz.trans h
        · intro _ _ h
          exact hz.trans h
        · intro _ h
          exact hz.trans h

/-- The candidates are as they were, or, where `allowed`, that of the quarantine was added. -/
def Kept (allowed : Prop) (env : Env library) (s t : Disk) : Prop :=
  t.candidates = s.candidates ∨ allowed ∧ ∃ accepted, Promoted env accepted s t

theorem Same.kept {allowed : Prop} (h : Same s t) : Kept allowed env s t := .inl h.candidates

/-- What only the candidates are part of. -/
theorem Kept.of_eq {allowed : Prop} {u : Disk} (h : Kept allowed env s t)
    (hu : u.candidates = t.candidates) : Kept allowed env s u := by
  rcases h with h | ⟨hallowed, accepted, h⟩
  · exact .inl (hu.trans h)
  · exact .inr ⟨hallowed, accepted, h.accepts, h.new, hu.trans h.candidates⟩

theorem Kept.mono {allowed allowed' : Prop} (h : Kept allowed env s t)
    (hallowed : allowed → allowed') : Kept allowed' env s t :=
  h.imp id fun h => ⟨hallowed h.1, h.2⟩

theorem Returned.kept {digest : String} (h : Returned env s digest t) : Kept True env s t := by
  obtain ⟨accepted, -, -, h | h⟩ := h.accepts
  · exact .inr ⟨trivial, accepted, h⟩
  · exact .inl h.1

/-- The release of the lock is what can raise after a promotion. -/
theorem wp_verifyAndPromoteImpl (again : Bool) :
    wp (verifyAndPromoteImpl again : Run library String) (Returned env s)
      (fun _ t => t.decisions = s.decisions ∧ Kept (env.outer .release = some .fails) env s t)
      (fun t => t.decisions = s.decisions ∧ Kept True env s t) env s := by
  have hsame : ∀ {allowed : Prop} {u : Disk}, Same s u →
      u.decisions = s.decisions ∧ Kept allowed env s u := fun h => ⟨h.decisions, h.kept⟩
  have htouch : ∀ {u : Disk}, Same s u → wp (touch : Run library Unit) (fun _ => Same s)
      (fun _ t => t.decisions = s.decisions ∧ Kept (env.outer .release = some .fails) env s t)
      (fun t => t.decisions = s.decisions ∧ Kept True env s t) env u := by
    intro u hu
    refine (within_touch_same u).mono ?_ ?_ ?_
    · intro _ t h
      exact hu.trans h
    · intro _ t h
      exact hsame (hu.trans h)
    · intro t h
      exact hsame (hu.trans h)
  unfold verifyAndPromoteImpl
  refine wp_seq (htouch (Same.refl s)) fun _ u hu => ?_
  refine wp_seq (htouch hu) fun _ u hu => ?_
  refine wp_seq (htouch hu) fun _ u hu => ?_
  refine wp_ensure.2 ((promoteLocked_spec again hu).mono ?_ ?_ ?_)
  · intro digest t h
    refine wp_outerStep.2 ⟨fun _ => h, ?_, fun _ => ⟨h.decisions, h.kept⟩⟩
    intro hrelease
    exact ⟨h.decisions, h.kept.mono fun _ => hrelease⟩
  · intro e t h
    exact wp_outerStep.2 ⟨fun _ => hsame h, fun _ => hsame h, fun _ => hsame h⟩
  · intro t h
    exact hsame h

/-! ## The decision -/

/-- The digest that a decision names. -/
def receiptDigestOf (env : Env library) : Option String :=
  if env.outer .readReceipt = none then
    (sha256File library env.quarantine.receipt maxJsonBytes "rejected quarantine receipt").toOption
  else none

/-- The decision about a call that raised. -/
def decisionOf (env : Env library) (reference : String) (error : Raised) : Decision where
  receiptReferenceSha256 := reference
  quarantineReceiptSha256 := receiptDigestOf env
  code := error.code
  detail := error.detail
  decidedAtUtc := env.now.1

/-- The steps that write a decision. -/
def decisionSteps : List Outer :=
  [.decisions, .decisionDirectory, .writeTemporary, .replaceDecision, .chmodDecision]

theorem readBounded_raises {entry : Entry} {maximum : Nat} {context : String} {e : Raised}
    (h : readBounded entry maximum context = .error e) : e.handled = true := by
  unfold readBounded at h
  cases entry with
  | missing =>
    cases h
    rfl
  | irregular =>
    cases h
    rfl
  | regular data =>
    dsimp only at h
    split_ifs at h
    cases h
    rfl

theorem rejectedDigest_spec :
    wp (rejectedDigest : Run library (Option String))
      (fun digest t => t = s ∧ digest = receiptDigestOf env) (fun _ _ => False) (fun t => t = s)
      env s := by
  unfold rejectedDigest receiptDigestOf
  refine wp_handle.2 ?_
  rw [wp_read_bind]
  refine wp_bind.2 (wp_outerStep.2 ⟨?_, ?_, fun _ => rfl⟩)
  · intro hread
    rw [if_pos hread]
    refine wp_bind.2 (wp_check.2 ⟨?_, ?_⟩)
    · intro digest hdigest
      rw [hdigest]
      exact ⟨rfl, rfl⟩
    · intro e he
      have hhandled : e.handled = true := by
        unfold sha256File at he
        cases hdata : readBounded env.quarantine.receipt maxJsonBytes
            "rejected quarantine receipt" with
        | ok data =>
          rw [hdata] at he
          cases he
        | error e' =>
          rw [hdata] at he
          cases he
          exact readBounded_raises hdata
      rw [if_pos hhandled, he]
      exact ⟨rfl, rfl⟩
  · intro hread
    have hhandled : Raised.os.handled = true := rfl
    rw [if_pos hhandled, if_neg (by rw [hread]; exact nofun)]
    exact ⟨rfl, rfl⟩

/-- A step that writes the decision, in front of the rest. -/
theorem wp_decisionStep {o : Outer} {done : Disk → Disk} {f : Unit → Run library Unit}
    {Q : Unit → Disk → Prop} {E : Raised → Disk → Prop} {C : Disk → Prop} (ho : o ∈ decisionSteps)
    (hf : wp (f ()) Q E C env (done s))
    (hE : (∃ o ∈ decisionSteps, env.outer o = some .fails) → E .os s) (hC : C s) :
    wp (outerStep o done >>= f) Q E C env s :=
  wp_bind.2 (wp_outerStep.2 ⟨fun _ => hf, fun h => hE ⟨o, ho, h⟩, fun _ => hC⟩)

/-- `_record_rejection` writes the decision; it raises only where one of its steps fails. -/
theorem recordRejection_spec (reference : String) (error : Raised) :
    wp (recordRejection reference error : Run library Unit)
      (fun _ t => t.candidates = s.candidates ∧
        t.decisions = s.decisions.set reference (decisionOf env reference error))
      (fun e t => t.candidates = s.candidates ∧ e = .os ∧
        ∃ o ∈ decisionSteps, env.outer o = some .fails)
      (fun t => t.candidates = s.candidates) env s := by
  unfold recordRejection
  refine wp_seq (rejectedDigest_spec.mono (fun _ _ h => h) (fun _ _ h => h.elim)
    fun _ h => by rw [h]) ?_
  rintro digest t ⟨rfl, rfl⟩
  refine wp_decisionStep (by decide) ?_ (fun h => ⟨rfl, rfl, h⟩) rfl
  refine wp_decisionStep (by decide) ?_ (fun h => ⟨rfl, rfl, h⟩) rfl
  rw [wp_read_bind]
  refine wp_decisionStep (by decide) ?_ (fun h => ⟨rfl, rfl, h⟩) rfl
  refine wp_decisionStep (by decide) ?_ (fun h => ⟨rfl, rfl, h⟩) rfl
  refine wp_outerStep.2 ⟨fun _ => ⟨rfl, rfl⟩, ?_, fun _ => rfl⟩
  intro h
  exact ⟨rfl, rfl, .chmodDecision, by decide, h⟩

/-! ## A whole call -/

/-- What a call that raises leaves behind. -/
structure Rejected (env : Env library) (reference : String) (s : Disk) (e : Raised) (t : Disk) :
    Prop where
  candidates : Kept (env.outer .release = some .fails) env s t
  decision : env.outer .prepare = none → e.handled = true →
    t.decisions = s.decisions.set reference (decisionOf env reference e) ∨
      e.code = "decision-write-failed" ∧ ∃ o ∈ decisionSteps, env.outer o = some .fails

/-- **A call**, whatever it meets. -/
theorem wp_verifyAndPromote (reference : String) (again : Bool) :
    wp (verifyAndPromote reference again : Run library String) (Returned env s)
      (Rejected env reference s) (Kept True env s) env s := by
  unfold verifyAndPromote
  refine wp_bind.2 (wp_outerStep.2 ⟨fun _ => ?_, ?_, fun _ => .inl rfl⟩)
  · refine wp_try ((wp_verifyAndPromoteImpl again).mono (fun _ _ h => h) (fun _ _ h => h)
      fun _ h => h.2) ?_
    rintro e u ⟨hdecisions, hkept⟩
    by_cases hhandled : e.handled = true
    · rw [if_pos hhandled]
      refine wp_bind.2 (wp_handle.2 ((recordRejection_spec reference e).mono ?_ ?_ ?_))
      · rintro _ t ⟨hcandidates, hrecorded⟩
        refine ⟨hkept.of_eq hcandidates, fun _ _ => .inl ?_⟩
        rw [hrecorded, hdecisions]
        rfl
      · rintro _ t ⟨hcandidates, rfl, hfault⟩
        exact ⟨hkept.of_eq hcandidates, fun _ _ => .inr ⟨rfl, hfault⟩⟩
      · intro t hcandidates
        exact (hkept.of_eq hcandidates).mono fun _ => trivial
    · rw [if_neg hhandled]
      exact ⟨hkept, fun _ h => absurd h hhandled⟩
  · intro hprepare
    exact ⟨.inl rfl, fun h => by rw [hprepare] at h; cases h⟩

end Vibapp.Verifier
