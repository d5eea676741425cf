import Vibapp.Launcher.Service

/-!
# Records of jobs

What `_append_event`, `_hold`, `_quiescence_pending` and `_apply_observation` do to a record.

**Identity.** The request, its digest, the profile and the execution of a job never change.

**Success** (`applyObservation_succeeded`). A record becomes `succeeded` only by an observation of that
very execution that is terminal, has its cleanup confirmed and carries a valid receipt.
-/

namespace Vibapp.Launcher

namespace JobRecord

variable {sha256 : List UInt8 → String} {r r' : JobRecord}

/-! ## Identity -/

/-- The same job. -/
structure SameJob (r r' : JobRecord) : Prop where
  request : r'.request = r.request
  digest : r'.requestDigestSha256 = r.requestDigestSha256
  profile : r'.profile = r.profile
  execution : r'.backendExecutionId = r.backendExecutionId

theorem SameJob.refl (r : JobRecord) : SameJob r r := ⟨rfl, rfl, rfl, rfl⟩

theorem SameJob.trans {a b c : JobRecord} (h : SameJob a b) (h' : SameJob b c) : SameJob a c :=
  ⟨h'.request.trans h.request, h'.digest.trans h.digest, h'.profile.trans h.profile,
    h'.execution.trans h.execution⟩

theorem sameJob_appendEvent (r : JobRecord) (phase : EventPhase) (code : EventCode) :
    SameJob r (r.appendEvent phase code) := by
  unfold appendEvent
  split_ifs <;> exact ⟨rfl, rfl, rfl, rfl⟩

theorem sameJob_hold (r : JobRecord) (failureCode : String) : SameJob r (r.hold failureCode) :=
  SameJob.trans (b := { r with state := .held, failureCode := some failureCode, success := none })
    ⟨rfl, rfl, rfl, rfl⟩ (sameJob_appendEvent _ _ _)

theorem sameJob_quiescencePending (r : JobRecord) (failureCode : String)
    (pending : Option BackendState) : SameJob r (r.quiescencePending failureCode pending) :=
  SameJob.trans (b := { r with
    state := .cleanupPending, failureCode := some failureCode, success := none,
    pendingTerminal := pending }) ⟨rfl, rfl, rfl, rfl⟩ (sameJob_appendEvent _ _ _)

theorem sameJob_requestCancel (r : JobRecord) : SameJob r r.requestCancel :=
  SameJob.trans (b := { r with state := .cancelRequested }) ⟨rfl, rfl, rfl, rfl⟩
    (sameJob_appendEvent _ _ _)

theorem sameJob_observeRunning (r : JobRecord) (success : Reported) :
    SameJob r (r.observeRunning success) := by
  unfold observeRunning
  split_ifs
  · exact sameJob_quiescencePending _ _ _
  · exact sameJob_quiescencePending _ _ _
  · exact SameJob.trans (b := { r with state := .running, failureCode := none })
      ⟨rfl, rfl, rfl, rfl⟩ (sameJob_appendEvent _ _ _)
  · exact SameJob.refl r

theorem sameJob_finish (r : JobRecord) (state : BackendState) (success : Reported) :
    SameJob r (r.finish sha256 state success).2 := by
  have happend := sameJob_appendEvent r .quiescing .cleanupPending
  have hend : ∀ {q : JobRecord} {phase code}, SameJob (r.appendEvent .quiescing .cleanupPending) q →
      SameJob r (q.appendEvent phase code) :=
    fun hq => (happend.trans hq).trans (sameJob_appendEvent _ _ _)
  unfold finish
  dsimp only
  cases state with
  | succeeded =>
    cases success with
    | none => exact happend.trans (sameJob_hold _ _)
    | other => exact happend
    | success value =>
      dsimp only
      split_ifs
      · exact hend ⟨rfl, rfl, rfl, rfl⟩
      · exact happend.trans (sameJob_hold _ _)
  | running =>
    dsimp only
    split_ifs
    · exact happend.trans (sameJob_hold _ _)
    · exact (happend.trans (c := { r.appendEvent .quiescing .cleanupPending with
        success := none, pendingTerminal := none }) ⟨rfl, rfl, rfl, rfl⟩).trans (sameJob_hold _ _)
  | failed =>
    dsimp only
    split_ifs
    · exact happend.trans (sameJob_hold _ _)
    · exact hend ⟨rfl, rfl, rfl, rfl⟩
  | cancelled =>
    dsimp only
    split_ifs
    · exact happend.trans (sameJob_hold _ _)
    · exact hend ⟨rfl, rfl, rfl, rfl⟩

/-! ## Observations -/

/-- A terminal observation of the execution, with its cleanup confirmed. -/
structure Confirms (observation : BackendObservation) (id : String) (final : BackendState) :
    Prop where
  execution : observation.backendExecutionId = .str id
  state : observation.state = some final
  terminal : final ≠ .running
  cleanup : observation.cleanupConfirmed = some true
  quiescent : observation.wholeJobQuiescent = some true

/-- What an observation does to a record. -/
inductive Observed (sha256 : List UInt8 → String) (r : JobRecord) (o : BackendObservation) :
    Ends Error Unit × JobRecord → Prop
  /-- It is not understood, or is about another execution. -/
  | invalid (failureCode : String) : Observed sha256 r o (.done (), r.quiescencePending failureCode none)
  | running (success : Reported) : Observed sha256 r o (.done (), r.observeRunning success)
  | unconfirmed (state : BackendState) (terminal : state ≠ .running) :
    Observed sha256 r o (.done (), r.quiescencePending "cleanup-not-confirmed" (some state))
  | confirmed (execution : String) (state : BackendState)
    (own : r.backendExecutionId = some execution) (confirms : Confirms o execution state) :
    Observed sha256 r o (r.finish sha256 state o.success)

theorem requireBackendExecutionId_eq_ok {value : Scalar} {text : String}
    (h : requireBackendExecutionId value = .ok text) : value = .str text := by
  cases value with
  | other => cases h
  | str s =>
    unfold requireBackendExecutionId require requireString at h
    dsimp only [Bind.bind, Except.bind] at h
    split_ifs at h
    cases h
    rfl

theorem observed (r : JobRecord) (o : BackendObservation) :
    Observed sha256 r o (r.applyObservation sha256 o) := by
  unfold applyObservation
  cases hid : requireBackendExecutionId o.backendExecutionId with
  | error e => exact .invalid _
  | ok id =>
    dsimp only
    split_ifs with hown
    · exact .invalid _
    split
    · exact .invalid _
    · exact .running _
    · rename_i state hterminal hstate
      split
      · rename_i cleanup quiescent hcleanup hquiet
        split_ifs with hboth
        · rw [Bool.and_eq_true] at hboth
          refine .confirmed id state (not_not.1 hown).symm ⟨requireBackendExecutionId_eq_ok hid,
            hstate, hterminal, ?_, ?_⟩
          · rw [hcleanup, hboth.1]
          · rw [hquiet, hboth.2]
        · exact .unconfirmed state hterminal
      · exact .invalid _

theorem sameJob_applyObservation (r : JobRecord) (o : BackendObservation) :
    SameJob r (r.applyObservation sha256 o).2 := by
  have hobserved := @observed sha256 r o
  generalize r.applyObservation sha256 o = out at hobserved ⊢
  cases hobserved with
  | invalid _ => exact sameJob_quiescencePending _ _ _
  | running _ => exact sameJob_observeRunning _ _
  | unconfirmed _ _ => exact sameJob_quiescencePending _ _ _
  | confirmed id state own confirms => exact sameJob_finish _ _ _

theorem sameJob_launched (r : JobRecord) (reply : LaunchReply) :
    SameJob r (launched r reply).2 := by
  unfold launched
  cases reply with
  | launched confirmed =>
    dsimp only
    cases requireBackendExecutionId confirmed with
    | error e => exact sameJob_quiescencePending _ _ _
    | ok id =>
      dsimp only
      split_ifs
      · exact sameJob_quiescencePending _ _ _
      · exact SameJob.trans (b := { r with state := .running }) ⟨rfl, rfl, rfl, rfl⟩
          (sameJob_appendEvent _ _ _)
  | unavailable =>
    exact SameJob.trans (b := { r with
      state := .failed, failureCode := some "executor-unavailable" }) ⟨rfl, rfl, rfl, rfl⟩
        (sameJob_appendEvent _ _ _)
  | raised => exact sameJob_quiescencePending _ _ _
  | interrupted => exact SameJob.refl r

/-! ## States -/

/-- An event leaves the state, or the events are full. -/
theorem appendEvent_cases (r : JobRecord) (phase : EventPhase) (code : EventCode) :
    (r.appendEvent phase code).state = .cleanupPending ∨
    (r.appendEvent phase code).state = r.state ∧ (r.appendEvent phase code).success = r.success := by
  unfold appendEvent
  split_ifs
  · exact .inl rfl
  · exact .inr ⟨rfl, rfl⟩
  · exact .inr ⟨rfl, rfl⟩

theorem appendEvent_state_ne {state : LauncherState} (hne : r.state ≠ state)
    (hpending : state ≠ .cleanupPending) (phase : EventPhase) (code : EventCode) :
    (r.appendEvent phase code).state ≠ state := by
  rcases appendEvent_cases r phase code with h | ⟨h, -⟩ <;> rw [h]
  · exact hpending.symm
  · exact hne

theorem hold_state_ne (r : JobRecord) (failureCode : String) :
    (r.hold failureCode).state ≠ .succeeded :=
  appendEvent_state_ne (fun h => by cases h) (fun h => by cases h) _ _

theorem quiescencePending_state (r : JobRecord) (failureCode : String)
    (pending : Option BackendState) :
    (r.quiescencePending failureCode pending).state = .cleanupPending := by
  unfold quiescencePending
  rcases appendEvent_cases { r with
    state := .cleanupPending, failureCode := some failureCode, success := none,
    pendingTerminal := pending } .quiescing .cleanupPending with h | ⟨h, -⟩ <;> exact h

theorem requestCancel_state_ne (r : JobRecord) {state : LauncherState}
    (h : state ≠ .cancelRequested) (h' : state ≠ .cleanupPending) : r.requestCancel.state ≠ state :=
  appendEvent_state_ne (fun heq => h heq.symm) h' _ _

theorem observeRunning_state_ne (hr : r.state ≠ .succeeded) (success : Reported) :
    (r.observeRunning success).state ≠ .succeeded := by
  unfold observeRunning
  split_ifs
  · rw [quiescencePending_state]
    exact fun h => by cases h
  · rw [quiescencePending_state]
    exact fun h => by cases h
  · exact appendEvent_state_ne (fun h => by cases h) (fun h => by cases h) _ _
  · exact hr

/-! ## Success -/

theorem expectedReceipt_congr (h : SameJob r r') (output : List UInt8) (mediaType : Scalar) :
    r'.expectedReceipt sha256 output mediaType = r.expectedReceipt sha256 output mediaType := by
  unfold expectedReceipt
  rw [h.request, h.digest, h.profile, h.execution]

theorem validSuccess_congr (h : SameJob r r') (value : BackendSuccess) :
    r'.validSuccess sha256 value = r.validSuccess sha256 value := by
  unfold validSuccess
  simp only [h.profile, expectedReceipt_congr h]

/-- A valid success has the receipt that is expected of it. -/
theorem validSuccess_eq_true {value : BackendSuccess} (h : r.validSuccess sha256 value = true) :
    ∃ output receipt, value.output = some output ∧ value.receipt = some receipt ∧
      receipt = r.expectedReceipt sha256 output value.outputMediaType := by
  unfold validSuccess at h
  cases houtput : value.output with
  | none =>
    rw [houtput] at h
    cases h
  | some output =>
    rw [houtput] at h
    dsimp only at h
    split_ifs at h with hsize hmedia
    cases hreceipt : value.receipt with
    | none =>
      rw [hreceipt] at h
      cases h
    | some receipt =>
      rw [hreceipt] at h
      dsimp only at h
      split_ifs at h with hkind hcleanup hquiet hbytes
      exact ⟨output, receipt, rfl, rfl, of_decide_eq_true h⟩

theorem finish_succeeded (hr : r.state ≠ .succeeded) {state : BackendState} {success : Reported}
    (hrunning : state ≠ .running) (h : (r.finish sha256 state success).2.state = .succeeded) :
    state = .succeeded ∧ ∃ value, success = .success value ∧
      (r.finish sha256 state success).2.success = some value ∧
      (r.finish sha256 state success).2.validSuccess sha256 value = true := by
  have hsame := @sameJob_finish sha256 r state success
  have happend : (r.appendEvent .quiescing .cleanupPending).state ≠ .succeeded :=
    appendEvent_state_ne hr (fun h => by cases h) _ _
  have hother : ∀ {q : JobRecord} {phase code}, q.state ≠ .succeeded →
      (q.appendEvent phase code).state ≠ .succeeded :=
    fun hq => appendEvent_state_ne hq (fun h => by cases h) _ _
  unfold finish at h hsame ⊢
  dsimp only at h hsame ⊢
  cases state with
  | running => exact absurd rfl hrunning
  | succeeded =>
    cases success with
    | none => exact absurd h (hold_state_ne _ _)
    | other => exact absurd h happend
    | success value =>
      dsimp only at h hsame ⊢
      by_cases hvalid : (r.appendEvent .quiescing .cleanupPending).validSuccess sha256 value = true
      · rw [if_pos hvalid] at h hsame ⊢
        refine ⟨rfl, value, rfl, ?_, ?_⟩
        · rcases appendEvent_cases { r.appendEvent .quiescing .cleanupPending with
            success := some value, failureCode := none, pendingTerminal := none,
            state := .succeeded } .terminal .jobSucceeded with hstate | ⟨-, hsuccess⟩
          · rw [h] at hstate
            cases hstate
          · exact hsuccess
        · rw [validSuccess_congr hsame]
          rwa [validSuccess_congr (sameJob_appendEvent r .quiescing .cleanupPending)] at hvalid
      · rw [if_neg hvalid] at h
        exact absurd h (hold_state_ne _ _)
  | failed =>
    dsimp only at h
    split_ifs at h
    · exact absurd h (hold_state_ne _ _)
    · exact absurd h (hother fun h => by cases h)
  | cancelled =>
    dsimp only at h
    split_ifs at h
    · exact absurd h (hold_state_ne _ _)
    · exact absurd h (hother fun h => by cases h)

/-- **Success** comes from an observation of that very execution. -/
theorem applyObservation_succeeded (hr : r.state ≠ .succeeded) {o : BackendObservation}
    (h : (r.applyObservation sha256 o).2.state = .succeeded) : ∃ id value,
      r.backendExecutionId = some id ∧ Confirms o id .succeeded ∧ o.success = .success value ∧
      (r.applyObservation sha256 o).2.success = some value ∧
      (r.applyObservation sha256 o).2.validSuccess sha256 value = true := by
  have hobserved := @observed sha256 r o
  generalize r.applyObservation sha256 o = out at hobserved h ⊢
  cases hobserved with
  | invalid code =>
    rw [quiescencePending_state] at h
    cases h
  | running success => exact absurd h (observeRunning_state_ne hr success)
  | unconfirmed state _ =>
    rw [quiescencePending_state] at h
    cases h
  | confirmed id state own confirms =>
    obtain ⟨rfl, value, hsuccess, hvalue, hvalid⟩ := finish_succeeded hr confirms.terminal h
    exact ⟨id, value, own, confirms, hsuccess, hvalue, hvalid⟩

theorem launched_state_ne (hr : r.state ≠ .succeeded) (reply : LaunchReply) :
    (launched r reply).2.state ≠ .succeeded := by
  have hpending : ∀ code, (r.quiescencePending code none).state ≠ .succeeded := by
    intro code
    rw [quiescencePending_state]
    exact fun h => by cases h
  unfold launched
  cases reply with
  | launched confirmed =>
    dsimp only
    cases requireBackendExecutionId confirmed with
    | error e => exact hpending _
    | ok id =>
      dsimp only
      split_ifs
      · exact hpending _
      · exact appendEvent_state_ne (fun h => by cases h) (fun h => by cases h) _ _
  | unavailable => exact appendEvent_state_ne (fun h => by cases h) (fun h => by cases h) _ _
  | raised => exact hpending _
  | interrupted => exact hr

end JobRecord

end Vibapp.Launcher
