import Mathlib.Data.List.Induction
import Vibapp.Verifier.Recheck

/-!
# Runs of the verifier

Calls follow one another on one output root, each on its own receipt, with its own faults; one that
is cut off is a crash, and the next call meets what it left.

**Main result** (`promotion_laws`). In every run a candidate directory is the complete copy of an
accepted quarantine with that digest, and stays as it is; a call that raises has changed no candidate,
and has left its decision; a recheck returns what the first promotion made.

Two faults are the limits of this. Where the decision cannot be written the call raises
`decision-write-failed` and there is none, and the release of the lock comes after the rename
(`raises_without_decision`).
-/

namespace Vibapp.Verifier

open Prog

variable {μ θ : Type} {library : Library μ θ}

/-- A call: the digest of its receipt path, the option, and what it meets. -/
structure Call (library : Library μ θ) where
  reference : String
  recheckExisting : Bool
  env : Env library

def Call.run (call : Call library) (d : Disk) : Ends Raised String × Disk :=
  verifyAndPromote call.reference call.recheckExisting call.env d

/-- The output root after the calls. -/
def after (calls : List (Call library)) : Disk :=
  calls.foldl (fun d call => (call.run d).2) Disk.empty

theorem after_snoc (calls : List (Call library)) (call : Call library) :
    after (calls ++ [call]) = (call.run (after calls)).2 := by
  unfold after
  rw [List.foldl_append]
  rfl

/-! ## One call -/

variable {s t : Disk} {digest : String} {candidate : Candidate}

theorem Call.kept (call : Call library) (s : Disk) : Kept True call.env s (call.run s).2 := by
  refine wp.last ((wp_verifyAndPromote call.reference call.recheckExisting).mono ?_ ?_ ?_)
  · intro _ t h
    exact h.kept
  · intro _ t h
    exact h.candidates.mono fun _ => trivial
  · intro t h
    exact h

/-- A candidate that is there stays. -/
theorem Kept.get? {allowed : Prop} {env : Env library} (h : Kept allowed env s t)
    (hs : s.candidates.get? digest = some candidate) :
    t.candidates.get? digest = some candidate := by
  rcases h with h | ⟨-, accepted, h⟩
  · rw [h]
    exact hs
  · have hne : digest ≠ accepted.digest := by
      rintro rfl
      rw [h.new] at hs
      cases hs
    rw [h.candidates, Dict.get?_set_ne _ hne]
    exact hs

/-- A candidate that was not there is that of the quarantine. -/
theorem Kept.new {allowed : Prop} {env : Env library} (h : Kept allowed env s t)
    (hs : s.candidates.get? digest = none) (ht : t.candidates.get? digest = some candidate) :
    ∃ accepted, verify library env.tools env.quarantine = .ok accepted ∧
      accepted.digest = digest ∧ candidate = candidateOf env.quarantine accepted env.now.1 := by
  rcases h with h | ⟨-, accepted, h⟩
  · rw [h, hs] at ht
    cases ht
  · by_cases hdigest : digest = accepted.digest
    · subst hdigest
      rw [h.candidates, Dict.get?_set_self] at ht
      exact ⟨accepted, h.accepts, rfl, (Option.some.inj ht).symm⟩
    · rw [h.candidates, Dict.get?_set_ne _ hdigest, hs] at ht
      cases ht

/-! ## Runs -/

/-- **A first call that nothing disturbs** adds the candidate of its quarantine. -/
theorem Call.promotes {call : Call library} {accepted : Accepted} (hquiet : Quiet call.env)
    (hverify : verify library call.env.tools call.env.quarantine = .ok accepted)
    (hnew : s.candidates.get? accepted.digest = none) :
    (call.run s).2.candidates.get? accepted.digest =
      some (candidateOf call.env.quarantine accepted call.env.now.1) := by
  have hpromotes : Finishes (verifyAndPromote call.reference call.recheckExisting :
      Run library String) (fun _ t => t.candidates = s.candidates.set accepted.digest
        (candidateOf call.env.quarantine accepted call.env.now.1)) call.env s :=
    verifyAndPromote_promotes hquiet hverify hnew
  obtain ⟨_, t, hrun, hcandidates⟩ := hpromotes.total
  have ht : (call.run s).2 = t := congrArg Prod.snd hrun
  rw [ht, hcandidates, Dict.get?_set_self]

/-- The candidate is the whole of what the call made of its quarantine, under its digest. -/
structure Complete (call : Call library) (digest : String) (candidate : Candidate) : Prop where
  accepted : ∃ accepted, verify library call.env.tools call.env.quarantine = .ok accepted ∧
    accepted.digest = digest ∧ candidate = candidateOf call.env.quarantine accepted call.env.now.1
  files : ∀ name, candidate.tree.entry name = call.env.quarantine.package.entry name

theorem Complete.of_accepts {call : Call library} {accepted : Accepted}
    (h : verify library call.env.tools call.env.quarantine = .ok accepted) :
    Complete call accepted.digest
      (candidateOf call.env.quarantine accepted call.env.now.1) := by
  obtain ⟨value, manifest, component, wasm, guest, hpasses⟩ := verify_ok h
  exact ⟨⟨accepted, h, rfl, rfl⟩, Candidate.entry_eq hpasses.tree⟩

/-- More calls keep the candidates. -/
theorem get?_after_append {before rest : List (Call library)}
    (h : (after before).candidates.get? digest = some candidate) :
    (after (before ++ rest)).candidates.get? digest = some candidate := by
  induction rest using List.reverseRecOn with
  | nil => rwa [List.append_nil]
  | append_singleton rest call ih =>
    rw [← List.append_assoc, after_snoc]
    exact (call.kept _).get? ih

theorem complete_after {calls : List (Call library)}
    (h : (after calls).candidates.get? digest = some candidate) :
    ∃ call ∈ calls, Complete call digest candidate := by
  induction calls using List.reverseRecOn with
  | nil => cases h
  | append_singleton calls call ih =>
    rw [after_snoc] at h
    cases hbefore : (after calls).candidates.get? digest with
    | some old =>
      have hold := (call.kept _).get? hbefore
      rw [h] at hold
      cases hold
      obtain ⟨first, hfirst, hcomplete⟩ := ih hbefore
      exact ⟨first, List.mem_append_left _ hfirst, hcomplete⟩
    | none =>
      obtain ⟨accepted, haccepts, rfl, rfl⟩ := (call.kept _).new hbefore h
      exact ⟨call, by simp, Complete.of_accepts haccepts⟩

/-- A call that raises has changed no candidate, the release of the lock apart, and leaves its
decision. -/
structure LeavesDecision (call : Call library) (s : Disk) (e : Raised) (t : Disk) : Prop where
  candidates : call.env.outer .release ≠ some .fails → t.candidates = s.candidates
  decision : call.env.outer .prepare = none → e.handled = true →
    (∀ o ∈ decisionSteps, call.env.outer o ≠ some .fails) →
      t.decisions = s.decisions.set call.reference (decisionOf call.env call.reference e)
  unwritten : call.env.outer .prepare = none → e.handled = true →
    (∃ o ∈ decisionSteps, call.env.outer o = some .fails) →
      t.decisions = s.decisions.set call.reference (decisionOf call.env call.reference e) ∨
        e.code = "decision-write-failed"

/-- `first` has made the candidate, and `again` rechecks the same bytes with the same tools. -/
structure Repeats (first again : Call library) (s : Disk) (digest : String)
    (candidate : Candidate) : Prop where
  new : s.candidates.get? digest = none
  promoted : (first.run s).2.candidates.get? digest = some candidate
  quarantine : again.env.quarantine = first.env.quarantine
  tools : again.env.tools = first.env.tools
  recheckExisting : again.recheckExisting = true
  quiet : Quiet again.env

/-- What holds of a run. -/
structure PromotionLaws (calls : List (Call library)) : Prop where
  complete : ∀ digest candidate, (after calls).candidates.get? digest = some candidate →
    ∃ call ∈ calls, Complete call digest candidate
  stays : ∀ before rest, calls = before ++ rest → ∀ digest candidate,
    (after before).candidates.get? digest = some candidate →
      (after calls).candidates.get? digest = some candidate
  raises : ∀ before call rest, calls = before ++ call :: rest → ∀ e t,
    call.run (after before) = (.raised e, t) → LeavesDecision call (after before) e t
  rechecks : ∀ before first between again rest,
    calls = before ++ first :: (between ++ again :: rest) → ∀ digest candidate,
      Repeats first again (after before) digest candidate →
        ∃ t, again.run (after (before ++ first :: between)) = (.done digest, t) ∧
          t.candidates = (after (before ++ first :: between)).candidates ∧
            t.candidates.get? digest = some candidate ∧
              candidate.record.map Record.verifiedAtUtc = some first.env.now.1

theorem leavesDecision_of_raised {call : Call library} {e : Raised}
    (h : call.run s = (.raised e, t)) : LeavesDecision call s e t := by
  have hrejected : Rejected call.env call.reference s e t :=
    (wp_verifyAndPromote call.reference call.recheckExisting).raised h
  refine ⟨?_, ?_, ?_⟩
  · intro hrelease
    rcases hrejected.candidates with hsame | ⟨hfails, -⟩
    · exact hsame
    · exact absurd hfails hrelease
  · intro hprepare hhandled hsteps
    rcases hrejected.decision hprepare hhandled with hdecision | ⟨-, o, ho, hfails⟩
    · exact hdecision
    · exact absurd hfails (hsteps o ho)
  · intro hprepare hhandled _
    rcases hrejected.decision hprepare hhandled with hdecision | ⟨hcode, -⟩
    · exact .inl hdecision
    · exact .inr hcode

theorem recheck_after {before between : List (Call library)} {first again : Call library}
    (h : Repeats first again (after before) digest candidate) :
    ∃ t, again.run (after (before ++ first :: between)) = (.done digest, t) ∧
      t.candidates = (after (before ++ first :: between)).candidates ∧
        t.candidates.get? digest = some candidate ∧
          candidate.record.map Record.verifiedAtUtc = some first.env.now.1 := by
  obtain ⟨accepted, haccepts, rfl, rfl⟩ := (first.kept _).new h.new h.promoted
  have hthere : (after (before ++ first :: between)).candidates.get? accepted.digest =
      some (candidateOf again.env.quarantine accepted first.env.now.1) := by
    have hfirst : (after (before ++ [first])).candidates.get? accepted.digest =
        some (candidateOf first.env.quarantine accepted first.env.now.1) := by
      rw [after_snoc]
      exact h.promoted
    have hlater : (after (before ++ [first] ++ between)).candidates.get? accepted.digest =
        some (candidateOf first.env.quarantine accepted first.env.now.1) := get?_after_append hfirst
    rw [List.append_assoc] at hlater
    rw [h.quarantine]
    exact hlater
  have hverify : verify library again.env.tools again.env.quarantine = .ok accepted := by
    rw [h.quarantine, h.tools]
    exact haccepts
  have hagain : Finishes (verifyAndPromote again.reference true : Run library String)
      (fun digest t => digest = accepted.digest ∧
        t.candidates = (after (before ++ first :: between)).candidates) again.env
          (after (before ++ first :: between)) :=
    verifyAndPromote_rechecks first.env.now h.quiet hverify hthere
  obtain ⟨_, t, hrun, rfl, hsame⟩ := hagain.total
  refine ⟨t, ?_, hsame, ?_, rfl⟩
  · unfold Call.run
    rw [h.recheckExisting]
    exact hrun
  · rw [hsame, hthere, h.quarantine]

/-- **Promotion is atomic and idempotent.** -/
theorem promotion_laws (calls : List (Call library)) : PromotionLaws calls where
  complete := fun _ _ h => complete_after h
  stays := by
    rintro before rest rfl digest candidate h
    exact get?_after_append h
  raises := by
    rintro before call rest - e t h
    exact leavesDecision_of_raised h
  rechecks := by
    rintro before first between again rest - digest candidate h
    exact recheck_after h

/-! ## The two limits -/

def sampleReceipt : Receipt where
  jobId := "job"
  sourceTreeSha256 := "source"
  requiredCapabilities := []
  packageEntrypoints := []
  packageDigestSha256 := "digest"
  packageFiles := expectedPackageFiles.map fun name => ⟨name, "1", 1⟩
  componentSha256 := "1"
  manifestSha256 := "1"
  buildLogSha256 := "1"
  presentation := none

def sampleManifest : Manifest where
  id := "sample"
  version := "1.0.0"
  kind := "service"
  displayName := "Sample"
  description := ""
  entrypoints := []
  world := ""
  requiredImports := []
  requiredCapabilities := []
  component := ⟨"1", 1⟩
  provenance := ⟨"1", 1⟩
  sbom := ⟨"1", 1⟩

def sampleLibrary : Library Unit Unit where
  sha256 := fun data => if data.length = 1 then "1" else ""
  loadReceipt := fun _ => .ok sampleReceipt
  loadJson := fun _ => .ok ()
  validateManifestSchema := fun _ => .ok sampleManifest
  manifestEntrypoints := fun _ => .ok []
  packageDigest := fun _ => .ok "digest"
  deriveHostPresentation := fun _ => .ok ⟨800, 600, 400, 300, true⟩
  sourceTreeDigest := fun _ => "source"
  runWasmChecks := fun _ _ _ => .ok []
  reconcileGuestDescriptor := fun _ _ _ => .ok ⟨"guest-descriptor", "pass", "inspector", ""⟩
  isDecimal := Char.isDigit

def sampleQuarantine : Quarantine where
  insideJobs := true
  canonicalName := true
  nested := true
  jobName := "job"
  receipt := .regular [0]
  buildLog := .regular [0]
  source := []
  package := .directory (expectedPackageFiles.map fun name => (name, .regular [0]))

/-- A call on a quarantine, with one fault outside the checks. -/
def sampleCall (quarantine : Quarantine) (faulty : Outer) : Call sampleLibrary where
  reference := "reference"
  recheckExisting := false
  env := {
    quarantine := quarantine
    tools := ()
    now := ⟨"2026-01-01T00:00:00Z", by decide⟩
    busy := false
    fault := fun _ => none
    outer := fun o => if o = faulty then some .fails else none }

/-- A call whose decision cannot be written raises and leaves none; a call that raises when it
releases the lock has promoted. -/
theorem raises_without_decision :
    ((sampleCall { sampleQuarantine with receipt := .missing } .writeTemporary).run Disk.empty).1 =
        .raised (.pipeline ⟨"decision-write-failed",
          "verification rejected (internal) and durable decision failed"⟩) ∧
      ((sampleCall { sampleQuarantine with receipt := .missing } .writeTemporary).run
          Disk.empty).2.decisions.get? "reference" = none ∧
        ((sampleCall sampleQuarantine .release).run Disk.empty).1 = .raised .os ∧
          (((sampleCall sampleQuarantine .release).run Disk.empty).2.candidates.get?
            "digest").isSome = true := by
  refine ⟨?_, ?_, ?_, ?_⟩
  · decide +kernel
  · decide +kernel
  · decide +kernel
  · decide +kernel

end Vibapp.Verifier
