import Vibapp.ProviderRunner.Adapter

/-!
# What a failed transfer leaves behind

**Theorem (`allOrNothing_iff`).** A run of `execute` closes the handle it was issued exactly once,
as consumed exactly where it returns, and leaves the input tree where it raises and the output tree
where it returns, if and only if no step raises at which it cannot go back: the removals and the
receipt after the output has taken the place of the input, the last call of the broker, and the
steps that bring the input back.

The flag `transfer_complete` is set before the input tree is removed, and nothing after that point
brings the input back. Each step of the run is taken apart once, into what it leaves where it
returns and where it raises; the swap of the trees has one lemma for each of its three parts.
-/

namespace Vibapp.ProviderRunner

open Prog

variable {τ η κ : Type} {env : Env τ η κ} {w : World τ η} {limits : Limits} {input : τ}

/-! ## The property and the condition -/

/-- What the adapter promises of a run that began with the tree `input` in the workspace. -/
structure AllOrNothing (env : Env τ η κ) (limits : Limits) (input : τ)
    (run : Ends Raised κ × World τ η) : Prop where
  /-- Each issued handle is closed once, and no other. -/
  closed_once : run.2.closed.map Prod.fst = run.2.issued
  consumed_iff : ∀ call ∈ run.2.closed, call.2 = "success-consumed" ↔ ∃ c, run.1 = .done c
  ends : run.1 ≠ .cut
  raised : ∀ e, run.1 = .raised e → run.2.tree .workspace = some input
  returned : ∀ c, run.1 = .done c → ∃ t, run.2.tree .workspace = some t ∧
    env.bundleDigest t limits.outputFiles limits.diskBytes = .ok env.receipt.outputBundleSha256

namespace Env

/-- No step raises before the runner has the handle. -/
def Starts (env : Env τ η κ) (request : Request) : Prop :=
  validateExactModelBinding request = .ok () ∧
    ∀ s ∈ [Step.validateRequestEnvelope, .preflight, .resolveWorkspace, .limits, .begin,
      .issueHandle], env.fails s = false

/-- The steps of `execute_claimed`. -/
def claimedSteps : List Step :=
  [.validateClaim, .validateHandle, .rehashInput, .backend, .validateResult, .gatewayReceipt,
    .snapshot, .rehashOutput, .signReceipt, .rehashSigned]

/-- The runner returns, and the input tree moves to the backup. -/
def Swaps (env : Env τ η κ) : Prop :=
  (∀ s ∈ claimedSteps, env.fails s = false) ∧ env.fails .replaceInput = false

/-- The output `out` moves to the workspace and has the digest of the receipt. -/
structure Delivers (env : Env τ η κ) (limits : Limits) (out : τ) : Prop where
  output : env.output = some out
  replaced : env.fails .replaceOutput = false
  checked : env.fails .bundleDigest = false
  digest : env.bundleDigest out limits.outputFiles limits.diskBytes =
    .ok env.receipt.outputBundleSha256

/-- What the second rename puts into the workspace. -/
def placed (env : Env τ η κ) : Option τ :=
  if env.fails .replaceOutput then none else env.output

/-- The input tree comes back, or what is left in its place equals it. -/
structure Restores (env : Env τ η κ) (input : τ) : Prop where
  found : env.fails .backupExists = true → env.placed = some input
  cleared : env.fails .backupExists = false → env.fails .removeWorkspace = true →
    env.placed.bind (env.remains .removeWorkspace) = some input
  restored : env.fails .backupExists = false → env.fails .removeWorkspace = false →
    env.fails .restoreInput = false

/-- The steps between the transfer and the last call of the broker. -/
def afterTransfer : List Step := [.removeBackup, .removeReturned, .receiptFactory]

/-- No step raises at which the adapter cannot go back. -/
structure Safe (env : Env τ η κ) (limits : Limits) (input : τ) : Prop where
  kept : ∀ out, env.Delivers limits out → ∀ s ∈ afterTransfer, env.fails s = true → out = input
  consumed : ∀ out, env.Delivers limits out → (∀ s ∈ afterTransfer, env.fails s = false) →
    env.fails .closeConsumed = false
  restores : (∀ out, ¬ env.Delivers limits out) → env.Restores input

theorem Delivers.placed {out : τ} (h : env.Delivers limits out) : env.placed = some out := by
  unfold Env.placed
  rw [if_neg (by simp [h.replaced]), h.output]

theorem Delivers.unique {out out' : τ} (h : env.Delivers limits out)
    (h' : env.Delivers limits out') : out = out' := by
  have := h.output.symm.trans h'.output
  exact Option.some.inj this

/-- Without an output, what counts is whether the input comes back. -/
theorem safe_iff_restores (h : ∀ out, ¬ env.Delivers limits out) :
    env.Safe limits input ↔ env.Restores input := by
  constructor
  · intro hsafe
    exact hsafe.restores h
  · intro hrestores
    exact ⟨fun out hout => absurd hout (h out), fun out hout => absurd hout (h out),
      fun _ => hrestores⟩

/-- Where a step after the transfer raises, the output must be the input. -/
theorem safe_iff_eq {out : τ} (h : env.Delivers limits out) {s : Step} (hs : s ∈ afterTransfer)
    (hfails : env.fails s = true) : env.Safe limits input ↔ out = input := by
  constructor
  · intro hsafe
    exact hsafe.kept out h s hs hfails
  · rintro rfl
    refine ⟨fun out' hout' _ _ _ => hout'.unique h, ?_, fun hnone => absurd h (hnone out)⟩
    intro out' _ hpasses
    rw [hpasses s hs] at hfails
    cases hfails

/-- Where they all pass, the last call of the broker counts. -/
theorem safe_iff_consumed {out : τ} (h : env.Delivers limits out)
    (hpasses : ∀ s ∈ afterTransfer, env.fails s = false) :
    env.Safe limits input ↔ env.fails .closeConsumed = false := by
  constructor
  · intro hsafe
    exact hsafe.consumed out h hpasses
  · intro hconsumed
    refine ⟨?_, fun _ _ _ => hconsumed, fun hnone => absurd h (hnone out)⟩
    intro _ _ s hs hfails
    rw [hpasses s hs] at hfails
    cases hfails

end Env

/-! ## Steps -/

namespace World

@[simp] theorem set_tree (w : World τ η) (place : Place) (t : Option τ) :
    (w.set place t).tree = Function.update w.tree place t := rfl

@[simp] theorem set_transferComplete (w : World τ η) (place : Place) (t : Option τ) :
    (w.set place t).transferComplete = w.transferComplete := rfl

@[simp] theorem set_handleClosed (w : World τ η) (place : Place) (t : Option τ) :
    (w.set place t).handleClosed = w.handleClosed := rfl

@[simp] theorem set_active (w : World τ η) (place : Place) (t : Option τ) :
    (w.set place t).active = w.active := rfl

@[simp] theorem set_issued (w : World τ η) (place : Place) (t : Option τ) :
    (w.set place t).issued = w.issued := rfl

@[simp] theorem set_closed (w : World τ η) (place : Place) (t : Option τ) :
    (w.set place t).closed = w.closed := rfl

/-- The same calls of the broker. -/
structure SameCalls (w v : World τ η) : Prop where
  issued : v.issued = w.issued
  closed : v.closed = w.closed
  handleClosed : v.handleClosed = w.handleClosed

theorem SameCalls.trans {u v w : World τ η} (h : SameCalls u v) (h' : SameCalls v w) :
    SameCalls u w :=
  ⟨h'.issued.trans h.issued, h'.closed.trans h.closed, h'.handleClosed.trans h.handleClosed⟩

end World

open World

section

variable {Q : Unit → World τ η → Prop} {E : Raised → World τ η → Prop} {C : World τ η → Prop}

theorem wp_step {s : Step} :
    wp (step s) Q E C env w ↔
      (env.fails s = false → Q () w) ∧ (env.fails s = true → E (.step s) w) := by
  unfold step
  rw [wp_read_bind]
  by_cases h : env.fails s = true <;> simp [h]

theorem wp_removePrivateTree {s : Step} {place : Place} :
    wp (removePrivateTree s place) Q E C env w ↔
      (env.fails s = false → Q () (w.set place none)) ∧
        (env.fails s = true →
          E (.step s) (w.set place ((w.tree place).bind (env.remains s)))) := by
  unfold removePrivateTree
  rw [wp_read_bind, wp_read_bind]
  by_cases h : env.fails s = true
  · simp [h, wp_modify_bind]
  · simp [h]

/-- A rename to a free path. -/
theorem wp_replace {s : Step} {source target : Place} (htarget : w.tree target = none) :
    wp (replace s source target) Q E C env w ↔
      (env.fails s = false → ∀ t, w.tree source = some t →
        Q () ((w.set source none).set target (some t))) ∧
      (env.fails s = true ∨ w.tree source = none → E (.step s) w) := by
  unfold replace
  rw [wp_bind, wp_step, wp_read_bind, wp_read_bind]
  cases hsource : w.tree source with
  | none => by_cases h : env.fails s = true <;> simp [h, htarget]
  | some t => by_cases h : env.fails s = true <;> simp [h, htarget]

end

/-! ## The swap of the trees -/

/-- Between `execute_claimed` and the swap. -/
structure BeforeSwap (env : Env τ η κ) (input : τ) (w : World τ η) : Prop where
  workspace : w.tree .workspace = some input
  backup : w.tree .backup = none
  returned : w.tree .returned = env.output
  transferComplete : w.transferComplete = false

/-- The output is in the workspace and has been checked. -/
structure Swapped (env : Env τ η κ) (limits : Limits) (out : τ) (w : World τ η) : Prop where
  swaps : env.fails .replaceInput = false
  delivers : env.Delivers limits out
  workspace : w.tree .workspace = some out

/-- The swap has raised: the input tree is in its place, or in the backup. -/
inductive Halted (env : Env τ η κ) (limits : Limits) (input : τ) (w : World τ η) : Prop
  | before (replaced : env.fails .replaceInput = true) (workspace : w.tree .workspace = some input)
      (backup : w.tree .backup = none)
  | between (replaced : env.fails .replaceInput = false)
      (delivers : ∀ out, ¬ env.Delivers limits out) (workspace : w.tree .workspace = env.placed)
      (backup : w.tree .backup = some input)

/-- Where a raising transfer leaves the workspace. -/
inductive Troubled (env : Env τ η κ) (limits : Limits) (input : τ) (w : World τ η) : Prop
  | before (replaced : env.fails .replaceInput = true) (workspace : w.tree .workspace = some input)
  | between (replaced : env.fails .replaceInput = false)
      (delivers : ∀ out, ¬ env.Delivers limits out)
      (workspace : w.tree .workspace = some input ↔ env.Restores input)
  | after (out : τ) (swapped : Swapped env limits out w)
      (removal : env.fails .removeBackup = true ∨ env.fails .removeReturned = true)

theorem wp_checkTransferred {out : τ} (hw : w.tree .workspace = some out)
    (hout : env.placed = some out) (hreplaced : env.fails .replaceOutput = false) :
    wp (checkTransferred limits env.receipt)
      (fun _ v => v = w ∧ env.Delivers limits out)
      (fun _ v => v = w ∧ ∀ out, ¬ env.Delivers limits out) (fun _ => False) env w := by
  have houtput : env.output = some out := by
    rw [Env.placed, if_neg (by simp [hreplaced])] at hout
    exact hout
  have hno : (¬ env.Delivers limits out) → ∀ out', ¬ env.Delivers limits out' := by
    intro h out' h'
    have hsame : out = out' := Option.some.inj (houtput.symm.trans h'.output)
    exact h (hsame ▸ h')
  unfold checkTransferred
  rw [wp_bind, wp_step]
  refine ⟨?_, ?_⟩
  · intro hchecked
    rw [wp_read_bind, hw]
    simp only [Option.map_some]
    cases hdigest : env.bundleDigest out limits.outputFiles limits.diskBytes with
    | error e =>
      refine ⟨rfl, hno ?_⟩
      intro h
      rw [h.digest] at hdigest
      cases hdigest
    | ok digest =>
      by_cases hsame : digest = env.receipt.outputBundleSha256
      · simp only [hsame, ne_eq, not_true_eq_false, if_false]
        exact ⟨rfl, houtput, hreplaced, hchecked, hsame ▸ hdigest⟩
      · simp only [ne_eq, hsame, not_false_eq_true, if_true]
        refine ⟨rfl, hno ?_⟩
        intro h
        rw [h.digest] at hdigest
        exact hsame (Except.ok.inj hdigest).symm
  · intro hchecked
    refine ⟨rfl, hno ?_⟩
    intro h
    rw [h.checked] at hchecked
    cases hchecked

/-- The body of the inner `try`. -/
theorem swap_spec (hw : BeforeSwap env input w) :
    wp (swap limits env.receipt)
      (fun _ v => SameCalls w v ∧ v.transferComplete = true ∧ ∃ out, Swapped env limits out v)
      (fun _ v => SameCalls w v ∧ v.transferComplete = false ∧ Halted env limits input v)
      (fun _ => False) env w := by
  unfold swap
  rw [wp_bind, wp_replace hw.backup]
  refine ⟨?_, ?_⟩
  · intro hreplaced t ht
    obtain rfl : input = t := Option.some.inj (hw.workspace.symm.trans ht)
    rw [wp_bind, wp_replace (by simp)]
    simp only [set_tree, Function.update_apply, hw.returned, reduceCtorEq, if_false]
    refine ⟨?_, ?_⟩
    · intro houtput out hout
      have hplaced : env.placed = some out := by
        rw [Env.placed, if_neg (by simp [houtput]), hout]
      rw [wp_bind]
      refine (wp_checkTransferred (by simp) hplaced houtput).mono ?_ ?_ (fun _ h => h)
      · rintro - v ⟨rfl, hdelivers⟩
        refine ⟨⟨rfl, rfl, rfl⟩, rfl, out, ?_⟩
        exact ⟨hreplaced, hdelivers, by simp⟩
      · rintro - v ⟨rfl, hdelivers⟩
        refine ⟨⟨rfl, rfl, rfl⟩, hw.transferComplete, ?_⟩
        exact .between hreplaced hdelivers (by simp [hplaced]) (by simp)
    · intro hfails
      have hplaced : env.placed = none := by
        unfold Env.placed
        rcases hfails with h | h <;> simp [h]
      refine ⟨⟨rfl, rfl, rfl⟩, hw.transferComplete, ?_⟩
      refine .between hreplaced ?_ (by simp [hplaced]) (by simp)
      intro out h
      rw [h.placed] at hplaced
      cases hplaced
  · intro hfails
    refine ⟨⟨rfl, rfl, rfl⟩, hw.transferComplete, ?_⟩
    rcases hfails with h | h
    · exact .before h hw.workspace hw.backup
    · rw [hw.workspace] at h
      cases h

/-- The handler of the inner `try`. -/
theorem putBack_spec (e : Raised) (hw : Halted env limits input w)
    (htransfer : w.transferComplete = false) :
    wp (putBack e)
      (fun _ _ => False)
      (fun _ v => SameCalls w v ∧ v.transferComplete = false ∧ Troubled env limits input v)
      (fun _ => False) env w := by
  unfold putBack
  cases hw with
  | before hreplaced hworkspace hbackup =>
    rw [wp_bind, wp_step]
    have hleft : SameCalls w w ∧ w.transferComplete = false ∧ Troubled env limits input w :=
      ⟨⟨rfl, rfl, rfl⟩, htransfer, .before hreplaced hworkspace⟩
    refine ⟨?_, fun _ => hleft⟩
    intro _
    rw [wp_read_bind, hbackup]
    exact hleft
  | between hreplaced hdelivers hworkspace hbackup =>
    rw [wp_bind, wp_step]
    refine ⟨?_, ?_⟩
    · intro hfound
      rw [wp_read_bind, hbackup]
      simp only [Option.isSome_some, if_true, wp_bind]
      rw [wp_removePrivateTree]
      refine ⟨?_, ?_⟩
      · intro hcleared
        rw [wp_replace (by simp)]
        simp only [set_tree, Function.update_apply, reduceCtorEq, if_false, hbackup]
        refine ⟨?_, ?_⟩
        · intro hrestored t ht
          obtain rfl : input = t := Option.some.inj ht
          refine ⟨⟨rfl, rfl, rfl⟩, htransfer, ?_⟩
          refine .between hreplaced hdelivers ?_
          refine iff_of_true (by simp) ⟨?_, ?_, fun _ _ => hrestored⟩
          · intro h
            rw [hfound] at h
            cases h
          · intro _ h
            rw [hcleared] at h
            cases h
        · rintro (hfails | h)
          · refine ⟨⟨rfl, rfl, rfl⟩, htransfer, ?_⟩
            refine .between hreplaced hdelivers (iff_of_false (by simp) ?_)
            intro h
            have := h.restored hfound hcleared
            rw [hfails] at this
            cases this
          · cases h
      · intro hcleared
        refine ⟨⟨rfl, rfl, rfl⟩, htransfer, ?_⟩
        refine .between hreplaced hdelivers ?_
        simp only [set_tree, Function.update_self, hworkspace]
        refine ⟨fun h => ⟨?_, fun _ _ => h, ?_⟩, fun h => h.cleared hfound hcleared⟩
        · intro h'
          rw [hfound] at h'
          cases h'
        · intro _ h'
          rw [hcleared] at h'
          cases h'
    · intro hfound
      refine ⟨⟨rfl, rfl, rfl⟩, htransfer, ?_⟩
      refine .between hreplaced hdelivers ?_
      rw [hworkspace]
      refine ⟨fun h => ⟨fun _ => h, ?_, ?_⟩, fun h => h.found hfound⟩
      · intro h'
        rw [hfound] at h'
        cases h'
      · intro h'
        rw [hfound] at h'
        cases h'

/-- The removals at the end of the transfer leave the workspace and the broker's calls alone. -/
theorem cleanUp_spec :
    wp (cleanUp : Run τ η κ Unit)
      (fun _ v => SameCalls w v ∧ v.tree .workspace = w.tree .workspace ∧
        env.fails .removeReturned = false ∧
          (w.transferComplete = true → env.fails .removeBackup = false))
      (fun _ v => SameCalls w v ∧ v.tree .workspace = w.tree .workspace ∧
        (env.fails .removeReturned = true ∨
          w.transferComplete = true ∧ env.fails .removeBackup = true))
      (fun _ => False) env w := by
  unfold cleanUp
  rw [wp_read_bind]
  by_cases htransfer : w.transferComplete = true
  · rw [if_pos htransfer, wp_bind, wp_removePrivateTree]
    refine ⟨?_, ?_⟩
    · intro hbackup
      rw [wp_removePrivateTree]
      refine ⟨?_, ?_⟩
      · intro hreturned
        exact ⟨⟨rfl, rfl, rfl⟩, by simp, hreturned, fun _ => hbackup⟩
      · intro hreturned
        exact ⟨⟨rfl, rfl, rfl⟩, by simp, .inl hreturned⟩
    · intro hbackup
      exact ⟨⟨rfl, rfl, rfl⟩, by simp, .inr ⟨htransfer, hbackup⟩⟩
  · rw [if_neg htransfer, wp_removePrivateTree]
    refine ⟨?_, ?_⟩
    · intro hreturned
      exact ⟨⟨rfl, rfl, rfl⟩, by simp, hreturned, fun h => absurd h htransfer⟩
    · intro hreturned
      exact ⟨⟨rfl, rfl, rfl⟩, by simp, .inl hreturned⟩

theorem Troubled.of_workspace {v : World τ η} (h : Troubled env limits input w)
    (hv : v.tree .workspace = w.tree .workspace) : Troubled env limits input v := by
  cases h with
  | before replaced workspace => exact .before replaced (hv.trans workspace)
  | between replaced delivers workspace => exact .between replaced delivers (hv ▸ workspace)
  | after out swapped removal =>
    exact .after out ⟨swapped.swaps, swapped.delivers, hv.trans swapped.workspace⟩ removal

/-- The inner `try`. -/
theorem transfer_spec (hw : BeforeSwap env input w) :
    wp (transfer limits env.receipt)
      (fun _ v => SameCalls w v ∧ env.fails .removeBackup = false ∧
        env.fails .removeReturned = false ∧ ∃ out, Swapped env limits out v)
      (fun _ v => SameCalls w v ∧ Troubled env limits input v) (fun _ => False) env w := by
  unfold transfer
  rw [wp_ensure]
  have hbody : wp (handle (swap limits env.receipt) putBack)
      (fun _ v => SameCalls w v ∧ v.transferComplete = true ∧ ∃ out, Swapped env limits out v)
      (fun _ v => SameCalls w v ∧ v.transferComplete = false ∧ Troubled env limits input v)
      (fun _ => False) env w := by
    refine wp_try (swap_spec hw) ?_
    intro e v hv
    refine (putBack_spec e hv.2.2 hv.2.1).mono (fun _ _ h => h.elim) ?_ fun _ h => h
    intro e' u hu
    exact ⟨hv.1.trans hu.1, hu.2⟩
  refine hbody.mono ?_ ?_ fun _ h => h
  · intro _ v hv
    obtain ⟨hcalls, htransfer, out, hswapped⟩ := hv
    refine cleanUp_spec.mono ?_ ?_ fun _ h => h
    · intro _ u hu
      obtain ⟨hsame, hworkspace, hreturned, hbackup⟩ := hu
      refine ⟨hcalls.trans hsame, hbackup htransfer, hreturned, out, ?_⟩
      exact ⟨hswapped.swaps, hswapped.delivers, hworkspace.trans hswapped.workspace⟩
    · intro _ u hu
      obtain ⟨hsame, hworkspace, hremoval⟩ := hu
      refine ⟨hcalls.trans hsame, .after out ?_ ?_⟩
      · exact ⟨hswapped.swaps, hswapped.delivers, hworkspace.trans hswapped.workspace⟩
      · exact hremoval.elim .inr fun h => .inl h.2
  · intro e v hv
    obtain ⟨hcalls, -, htroubled⟩ := hv
    refine cleanUp_spec.mono ?_ ?_ fun _ h => h
    · intro _ u hu
      exact ⟨hcalls.trans hu.1, htroubled.of_workspace hu.2.1⟩
    · intro _ u hu
      exact ⟨hcalls.trans hu.1, htroubled.of_workspace hu.2.1⟩

/-! ## The calls of the broker -/

/-- After the handle is issued. -/
structure Issued (input : τ) (h : η) (w : World τ η) : Prop where
  workspace : w.tree .workspace = some input
  backup : w.tree .backup = none
  active : w.active = true
  issued : w.issued = [h]
  closed : w.closed = []
  handleClosed : w.handleClosed = false

/-- Where the outer `try` raises: before the last call of the broker, or in it. -/
inductive Failed (env : Env τ η κ) (limits : Limits) (input : τ) (h : η) (w : World τ η) : Prop
  | held (issued : w.issued = [h]) (closed : w.closed = []) (handleClosed : w.handleClosed = false)
      (workspace : w.tree .workspace = some input ↔ (env.Swaps → env.Safe limits input))
  | consumed (issued : w.issued = [h]) (closed : w.closed = [(h, "success-consumed")])
      (handleClosed : w.handleClosed = true) (spent : ¬ (env.Swaps → env.Safe limits input))

/-- Where a raising transfer leaves the workspace, against the condition. -/
theorem Troubled.workspace_iff (h : Troubled env limits input w)
    (hclaimed : ∀ s ∈ Env.claimedSteps, env.fails s = false) :
    w.tree .workspace = some input ↔ (env.Swaps → env.Safe limits input) := by
  cases h with
  | before replaced workspace =>
    refine iff_of_true workspace ?_
    intro hswaps
    rw [hswaps.2] at replaced
    cases replaced
  | between replaced delivers workspace =>
    rw [workspace, ← Env.safe_iff_restores delivers]
    exact ⟨fun h _ => h, fun h => h ⟨hclaimed, replaced⟩⟩
  | after out swapped removal =>
    have hsafe : env.Safe limits input ↔ out = input := by
      rcases removal with hfails | hfails
      · exact Env.safe_iff_eq swapped.delivers (by simp [Env.afterTransfer]) hfails
      · exact Env.safe_iff_eq swapped.delivers (by simp [Env.afterTransfer]) hfails
    rw [swapped.workspace, hsafe, Option.some.injEq]
    exact ⟨fun h _ => h, fun h => h ⟨hclaimed, swapped.swaps⟩⟩

/-- A step of `execute_claimed` with no effect. -/
theorem claimed_step {s : Step} {v : World τ η} (hs : s ∈ Env.claimedSteps)
    {Q : Unit → World τ η → Prop} (h : env.fails s = false → Q () v) (hv : SameCalls w v)
    (hworkspace : v.tree .workspace = w.tree .workspace) :
    wp (step s) Q
      (fun _ v => SameCalls w v ∧ v.tree .workspace = w.tree .workspace ∧
        ∃ s ∈ Env.claimedSteps, env.fails s = true) (fun _ => False) env v :=
  wp_step.2 ⟨h, fun hfails => ⟨hv, hworkspace, s, hs, hfails⟩⟩

/-- `execute_claimed` writes at the returned path only. -/
theorem executeClaimed_spec (hw : w.active = true) :
    wp executeClaimed
      (fun receipt v => receipt = env.receipt ∧ (∀ s ∈ Env.claimedSteps, env.fails s = false) ∧
        v = { (w.set .returned env.output) with active := false })
      (fun _ v => SameCalls w v ∧ v.tree .workspace = w.tree .workspace ∧
        ∃ s ∈ Env.claimedSteps, env.fails s = true) (fun _ => False) env w := by
  unfold executeClaimed
  rw [wp_read_bind, wp_modify_bind, hw]
  simp only [Bool.not_true, Bool.false_eq_true, if_false]
  have hsame : SameCalls w { w with active := false } := ⟨rfl, rfl, rfl⟩
  refine wp_bind.2 (claimed_step (by simp [Env.claimedSteps]) ?_ hsame rfl)
  intro hclaim
  refine wp_bind.2 (claimed_step (by simp [Env.claimedSteps]) ?_ hsame rfl)
  intro hhandle
  refine wp_bind.2 (claimed_step (by simp [Env.claimedSteps]) ?_ hsame rfl)
  intro hinput
  refine wp_bind.2 (claimed_step (by simp [Env.claimedSteps]) ?_ hsame rfl)
  intro hbackend
  refine wp_bind.2 (claimed_step (by simp [Env.claimedSteps]) ?_ hsame rfl)
  intro hresult
  refine wp_bind.2 (claimed_step (by simp [Env.claimedSteps]) ?_ hsame rfl)
  intro hgateway
  unfold snapshotOutput
  rw [wp_bind, wp_read_bind]
  by_cases hsnapshot : env.fails .snapshot = true
  · rw [if_pos hsnapshot, wp_read_bind, wp_modify_bind]
    exact ⟨⟨rfl, rfl, rfl⟩, by simp, .snapshot, by simp [Env.claimedSteps], hsnapshot⟩
  · rw [if_neg hsnapshot, wp_read_bind, wp_modify]
    have hout : SameCalls w (({ w with active := false } : World τ η).set .returned env.output) :=
      ⟨rfl, rfl, rfl⟩
    refine wp_bind.2 (claimed_step (by simp [Env.claimedSteps]) ?_ hout (by simp))
    intro hrehash
    refine wp_bind.2 (claimed_step (by simp [Env.claimedSteps]) ?_ hout (by simp))
    intro hsign
    refine wp_bind.2 (claimed_step (by simp [Env.claimedSteps]) ?_ hout (by simp))
    intro hsigned
    refine ⟨rfl, ?_, rfl⟩
    simp [Env.claimedSteps, hclaim, hhandle, hinput, hbackend, hresult, hgateway, hsnapshot,
      hrehash, hsign, hsigned]

/-- The outer `try`. -/
theorem executeIssued_spec {h : η} (hw : Issued input h w) :
    wp (executeIssued limits h)
      (fun _ v => v.issued = [h] ∧ v.closed = [(h, "success-consumed")] ∧
        env.Safe limits input ∧ ∃ out, Swapped env limits out v)
      (fun _ v => Failed env limits input h v) (fun _ => False) env w := by
  unfold executeIssued
  refine wp_bind.2 ((executeClaimed_spec hw.active).mono ?_ ?_ fun _ h => h)
  · rintro receipt v ⟨rfl, hclaimed, rfl⟩
    rw [wp_modify_bind, wp_bind]
    have hbefore : BeforeSwap env input { (w.set .returned env.output) with
        active := false, transferComplete := false } :=
      ⟨by simpa using hw.workspace, by simpa using hw.backup, by simp, rfl⟩
    refine (transfer_spec hbefore).mono ?_ ?_ fun _ h => h
    · intro _ v hv
      obtain ⟨hcalls, hbackup, hreturned, out, hswapped⟩ := hv
      have hissued : v.issued = [h] := hcalls.issued.trans hw.issued
      have hclosed : v.closed = [] := hcalls.closed.trans hw.closed
      rw [wp_bind, wp_step]
      refine ⟨?_, ?_⟩
      · intro hfactory
        have hpasses : ∀ s ∈ Env.afterTransfer, env.fails s = false := by
          simp [Env.afterTransfer, hbackup, hreturned, hfactory]
        have hsafe : env.Safe limits input ↔ env.fails .closeConsumed = false :=
          Env.safe_iff_consumed hswapped.delivers hpasses
        rw [wp_read_bind, wp_modify_bind, wp_bind]
        unfold closeSingleUseHandle
        rw [wp_modify_bind, wp_step]
        refine ⟨?_, ?_⟩
        · intro hconsumed
          refine ⟨hissued, by simp [hclosed], hsafe.2 hconsumed, out, ?_⟩
          exact ⟨hswapped.swaps, hswapped.delivers, hswapped.workspace⟩
        · intro hconsumed
          refine .consumed hissued (by simp [hclosed]) rfl ?_
          intro h'
          rw [hsafe.1 (h' ⟨hclaimed, hswapped.swaps⟩)] at hconsumed
          cases hconsumed
      · intro hfactory
        have hsafe : env.Safe limits input ↔ out = input :=
          Env.safe_iff_eq hswapped.delivers (by simp [Env.afterTransfer]) hfactory
        refine .held hissued hclosed (hcalls.handleClosed.trans hw.handleClosed) ?_
        rw [hswapped.workspace, hsafe, Option.some.injEq]
        exact ⟨fun h' _ => h', fun h' => h' ⟨hclaimed, hswapped.swaps⟩⟩
    · intro _ v hv
      obtain ⟨hcalls, htroubled⟩ := hv
      exact .held (hcalls.issued.trans hw.issued) (hcalls.closed.trans hw.closed)
        (hcalls.handleClosed.trans hw.handleClosed) (htroubled.workspace_iff hclaimed)
  · intro _ v hv
    obtain ⟨hcalls, hworkspace, s, hs, hfails⟩ := hv
    refine .held (hcalls.issued.trans hw.issued) (hcalls.closed.trans hw.closed)
      (hcalls.handleClosed.trans hw.handleClosed) ?_
    refine iff_of_true (hworkspace.trans hw.workspace) ?_
    intro hswaps
    rw [hswaps.1 s hs] at hfails
    cases hfails

/-- A run that raised with its handle revoked. -/
theorem allOrNothing_of_revoked {h : η} {e : Raised} (hissued : w.issued = [h])
    (hclosed : w.closed = [(h, "failed-revoke-or-consume")]) :
    AllOrNothing env limits input (.raised e, w) ↔ w.tree .workspace = some input := by
  constructor
  · intro hall
    exact hall.raised e rfl
  · intro hworkspace
    refine ⟨by simp [hclosed, hissued], ?_, by simp, fun _ _ => hworkspace, by simp⟩
    intro call hcall
    rw [hclosed, List.mem_singleton] at hcall
    simp [hcall]

/-- A run that raised with its handle consumed. -/
theorem not_allOrNothing_of_consumed {h : η} {e : Raised}
    (hclosed : w.closed = [(h, "success-consumed")]) :
    ¬ AllOrNothing env limits input (.raised e, w) := by
  intro hall
  have hdone := (hall.consumed_iff (h, "success-consumed") (by simp [hclosed])).1 rfl
  obtain ⟨c, hc⟩ := hdone
  cases hc

/-- What follows the close in the outer handler raises, and changes nothing that counts. -/
theorem closeFailed_rest {e : Raised} {closeError : Bool} {P : Prop}
    (h : ∀ e v, v.issued = w.issued → v.closed = w.closed →
      v.tree .workspace = w.tree .workspace →
        (AllOrNothing env limits input (.raised e, v) ↔ P)) :
    wp (do
        removePrivateTree .removeLeftover .returned
        if closeError then
          raise (.runner ⟨"credential-handle-close-failed",
            "broker could not confirm failed-job handle revocation/consumption"⟩)
        else
          raise e : Run τ η κ κ) (fun _ _ => False)
      (fun e v => AllOrNothing env limits input (.raised e, v) ↔ P) (fun _ => False) env w := by
  rw [wp_bind, wp_removePrivateTree]
  refine ⟨?_, ?_⟩
  · intro _
    cases closeError with
    | true => exact h _ _ rfl rfl (by simp)
    | false => exact h _ _ rfl rfl (by simp)
  · intro _
    exact h _ _ rfl rfl (by simp)

/-- The outer handler: the handle is closed if it is not, and the workspace stays as it is. -/
theorem closeFailed_spec {h : η} (e : Raised) (hw : Failed env limits input h w) :
    wp (closeFailed h e : Run τ η κ κ) (fun _ _ => False)
      (fun e v => AllOrNothing env limits input (.raised e, v) ↔
        (env.Swaps → env.Safe limits input)) (fun _ => False) env w := by
  unfold closeFailed closeRevoked
  rw [wp_bind, wp_read_bind]
  cases hw with
  | held hissued hclosed hhandle hworkspace =>
    have hrest : ∀ e v, v.issued = w.issued →
        v.closed = w.closed ++ [(h, "failed-revoke-or-consume")] →
          v.tree .workspace = w.tree .workspace →
            (AllOrNothing env limits input (.raised e, v) ↔
              (env.Swaps → env.Safe limits input)) := by
      intro e v hv hv' hv''
      rw [allOrNothing_of_revoked (hv.trans hissued) (by simp [hv', hclosed]), hv'']
      exact hworkspace
    simp only [hhandle, Bool.not_false, if_true]
    rw [wp_modify_bind, wp_handle, wp_bind]
    unfold closeSingleUseHandle
    rw [wp_modify_bind, wp_step]
    refine ⟨?_, ?_⟩
    · intro _
      exact closeFailed_rest hrest
    · intro _
      exact closeFailed_rest hrest
  | consumed hissued hclosed hhandle hspent =>
    simp only [hhandle, Bool.not_true, Bool.false_eq_true, if_false]
    refine closeFailed_rest ?_
    intro e v _ hv _
    exact iff_of_false (not_allOrNothing_of_consumed (hv.trans hclosed)) hspent

/-- Before the handle is issued, a run that raises has changed nothing that counts. -/
theorem allOrNothing_start (e : Raised) (hissued : w.issued = []) (hclosed : w.closed = [])
    (hworkspace : w.tree .workspace = some input) :
    AllOrNothing env limits input (.raised e, w) :=
  ⟨by simp [hissued, hclosed], by simp [hclosed], by simp, fun _ _ => hworkspace, by simp⟩

/-- A run that stops before the handle is issued keeps the promise and the condition. -/
theorem start_spec {request : Request} (e : Raised) (hissued : w.issued = [])
    (hclosed : w.closed = []) (hworkspace : w.tree .workspace = some input) {s : Step}
    (hs : s ∈ [Step.validateRequestEnvelope, .preflight, .resolveWorkspace, .limits, .begin,
      .issueHandle]) (hfails : env.fails s = true) :
    AllOrNothing env limits input (.raised e, w) ↔
      (env.Starts request → env.Swaps → env.Safe limits input) := by
  refine iff_of_true (allOrNothing_start e hissued hclosed hworkspace) ?_
  intro hstarts
  rw [hstarts.2 s hs] at hfails
  cases hfails

/-- **All or nothing.** The adapter keeps its promise exactly where no step raises at which it
cannot go back. -/
theorem allOrNothing_iff (env : Env τ η κ) (request : Request) (input : τ) :
    AllOrNothing env request.limits.limits input (execute request env (World.start input)) ↔
      (env.Starts request → env.Swaps → env.Safe request.limits.limits input) := by
  refine wp.run (P := fun run => AllOrNothing env request.limits.limits input run ↔
    (env.Starts request → env.Swaps → env.Safe request.limits.limits input)) ?_
  unfold execute
  rw [wp_bind, wp_step]
  refine ⟨?_, start_spec _ rfl rfl rfl (by simp)⟩
  intro hvalidate
  cases hbinding : validateExactModelBinding request with
  | error error =>
    refine iff_of_true (allOrNothing_start _ rfl rfl rfl) ?_
    intro hstarts
    rw [hstarts.1] at hbinding
    cases hbinding
  | ok _ =>
    dsimp only
    rw [wp_bind, wp_step]
    refine ⟨?_, start_spec _ rfl rfl rfl (by simp)⟩
    intro hpreflight
    rw [wp_bind, wp_step]
    refine ⟨?_, start_spec _ rfl rfl rfl (by simp)⟩
    intro hresolve
    rw [wp_bind, wp_step]
    refine ⟨?_, start_spec _ rfl rfl rfl (by simp)⟩
    intro hlimits
    unfold begin
    rw [wp_bind, wp_bind, wp_step]
    refine ⟨?_, start_spec _ rfl rfl rfl (by simp)⟩
    intro hbegin
    rw [wp_modify, wp_bind, wp_handle]
    unfold issueSingleUseHandle abandonClaim
    rw [wp_bind, wp_step]
    refine ⟨?_, ?_⟩
    · intro hissue
      have hstarts : env.Starts request := by
        refine ⟨hbinding, ?_⟩
        simp [hvalidate, hpreflight, hresolve, hlimits, hbegin, hissue]
      rw [wp_read_bind, wp_modify_bind, wp_pure, wp_modify_bind]
      have hissued : Issued input env.handle
          { (World.start input : World τ η) with active := true, issued := [env.handle] } :=
        ⟨rfl, rfl, rfl, rfl, rfl, rfl⟩
      refine wp_handle.2 ((executeIssued_spec hissued).mono ?_ ?_ fun _ h => h.elim)
      · intro c v hv
        obtain ⟨hv, hclosed, hsafe, out, hswapped⟩ := hv
        refine iff_of_true ⟨by simp [hv, hclosed], ?_, by simp, by simp, ?_⟩ fun _ _ => hsafe
        · intro call hcall
          rw [hclosed, List.mem_singleton] at hcall
          simp [hcall]
        · intro _ _
          exact ⟨out, hswapped.workspace, hswapped.delivers.digest⟩
      · intro e v hv
        refine (closeFailed_spec e hv).mono (fun _ _ h => h.elim) ?_ fun _ h => h.elim
        intro e' v' hv'
        exact hv'.trans ⟨fun h _ => h, fun h => h hstarts⟩
    · intro hissue
      rw [wp_bind, wp_bind, wp_step]
      exact ⟨fun _ => start_spec _ rfl rfl rfl (by simp) hissue,
        fun _ => start_spec _ rfl rfl rfl (by simp) hissue⟩

/-- A run that returns has delivered the output. -/
theorem execute_delivers {request : Request} {created : κ}
    (h : (execute request env (World.start input)).1 = .done created) :
    ∃ out, env.Delivers request.limits.limits out ∧
      (execute request env (World.start input)).2.tree .workspace = some out := by
  have hrun : wp (execute request)
      (fun _ v => ∃ out, Swapped env request.limits.limits out v) (fun _ _ => True)
      (fun _ => True) env (World.start input) := by
    unfold execute
    refine wp_bind.2 (wp_step.2 ⟨fun _ => ?_, fun _ => trivial⟩)
    cases validateExactModelBinding request with
    | error error => trivial
    | ok _ =>
      dsimp only
      refine wp_bind.2 (wp_step.2 ⟨fun _ => ?_, fun _ => trivial⟩)
      refine wp_bind.2 (wp_step.2 ⟨fun _ => ?_, fun _ => trivial⟩)
      refine wp_bind.2 (wp_step.2 ⟨fun _ => ?_, fun _ => trivial⟩)
      unfold begin
      refine wp_bind.2 (wp_bind.2 (wp_step.2 ⟨fun _ => ?_, fun _ => trivial⟩))
      rw [wp_modify, wp_bind, wp_handle]
      unfold issueSingleUseHandle abandonClaim
      refine wp_bind.2 (wp_step.2 ⟨fun _ => ?_, fun _ => ?_⟩)
      · rw [wp_read_bind, wp_modify_bind, wp_pure, wp_modify_bind]
        have hissued : Issued input env.handle
            { (World.start input : World τ η) with active := true, issued := [env.handle] } :=
          ⟨rfl, rfl, rfl, rfl, rfl, rfl⟩
        refine wp_handle.2 ((executeIssued_spec hissued).mono ?_ ?_ fun _ h => h.elim)
        · intro c v hv
          exact hv.2.2.2
        · intro e v hv
          exact (closeFailed_spec e hv).mono (fun _ _ h => h.elim) (fun _ _ _ => trivial)
            fun _ _ => trivial
      · exact wp_bind.2 (wp_bind.2 (wp_step.2 ⟨fun _ => trivial, fun _ => trivial⟩))
  obtain ⟨out, hswapped⟩ := hrun.done (Prod.ext h rfl)
  exact ⟨out, hswapped.delivers, hswapped.workspace⟩

/-! ## A run that cannot go back -/

def sampleRequest : Request where
  provider := some "openai-codex"
  model := some "gpt-5"
  command := ["codex", "exec", "--model", "gpt-5"]
  limits := ⟨600, 600, 1024, 16, 1024, 1024, 1024, 4⟩

/-- Everything goes well but one step. -/
def sampleEnv (failing : Step) : Env String String Receipt where
  fails := fun s => s = failing
  handle := "handle"
  receipt := ⟨"digest of the output"⟩
  output := some "the output"
  unfinished := none
  remains := fun _ t => some t
  bundleDigest := fun t _ _ =>
    .ok (if t = "the output" then "digest of the output" else "digest of the input")
  receiptFactory := id

/-- The removal of the input tree raises: the handle is revoked, and the output stays in the
workspace. -/
theorem removeBackup_keeps_output :
    ¬ AllOrNothing (sampleEnv .removeBackup) sampleRequest.limits.limits "the input"
      (execute sampleRequest (sampleEnv .removeBackup) (World.start "the input")) := by
  intro hall
  have hends : (execute sampleRequest (sampleEnv .removeBackup) (World.start "the input")).1 =
      .raised (.step .removeBackup) := by
    decide
  have htree : (execute sampleRequest (sampleEnv .removeBackup)
      (World.start "the input")).2.tree .workspace = some "the output" := by
    decide
  have hinput := hall.raised _ hends
  rw [htree] at hinput
  revert hinput
  decide

end Vibapp.ProviderRunner
