import Vibapp.Launcher.Records
import Vibapp.Lib.Transition

/-!
# Calls of the launcher

**Effects** (`Effect`). A call changes nothing, makes one new job, or moves one job that is not
terminal. Every law of the launcher is proved from this.

**Views.** What `submit`, `status` and `cancel` show is a record as it is after the call.
-/

namespace Vibapp.Launcher

open Prog

/-! ## Calls -/

inductive Call
  | submit (value : RawRequest)
  | status (jobId attemptId : Scalar)
  | cancel (jobId attemptId : Scalar)
  | result (jobId attemptId : Scalar)
deriving DecidableEq, Repr

inductive Answer
  | job (view : JobView)
  | result (view : ResultView)
deriving DecidableEq, Repr

def perform (digests : Digests) : Call → Run Answer
  | .submit value => return .job (← submit digests value)
  | .status jobId attemptId => return .job (← status digests jobId attemptId)
  | .cancel jobId attemptId => return .job (← cancel digests jobId attemptId)
  | .result jobId attemptId => return .result (← result digests jobId attemptId)

/-- The call asks about the job. -/
def Call.Asks : Call → JobKey → Prop
  | .submit _, _ => False
  | .status jobId attemptId, key | .cancel jobId attemptId, key | .result jobId attemptId, key =>
    jobId = .str key.1 ∧ attemptId = .str key.2

/-- The call is a cancel. -/
def Call.cancels : Call → Bool
  | .cancel _ _ => true
  | .submit _ | .status _ _ | .result _ _ => false

/-! ## Effects -/

/-- The record of one job is `q`, and something may be observed about it. -/
structure Writes (s t : Service) (key : JobKey) (q : JobRecord) (seen : Option BackendObservation) :
    Prop where
  profiles : t.profiles = s.profiles
  executors : t.executors = s.executors
  jobs : ∀ k, t.jobs.get? k = if k = key then some q else s.jobs.get? k
  idempotency : t.idempotency = s.idempotency
  launches : t.launches = s.launches
  observations : t.observations = (seen.toList.map fun o => (key, o)) ++ s.observations

/-- What `status` and `result` (`false`) and `cancel` (`true`) do to the record of a job. -/
inductive Move (digests : Digests) (e : Executor) (r : JobRecord) :
    Bool → JobRecord → Option BackendObservation → Prop
  | status (id : String) (o : BackendObservation) (own : r.backendExecutionId = some id)
    (reply : e.status = .observed o) :
    Move digests e r false (r.applyObservation digests.bytes o).2 (some o)
  | cancel (id : String) (o : BackendObservation) (own : r.backendExecutionId = some id)
    (reply : e.cancel = .observed o) :
    Move digests e r true (r.requestCancel.applyObservation digests.bytes o).2 (some o)
  /-- The executor has not answered. -/
  | asked : Move digests e r true r.requestCancel none
  | lost (own : r.backendExecutionId = none) (failureCode : String) :
    Move digests e r false (r.quiescencePending failureCode none) none
  | lostCancel (own : r.backendExecutionId = none) (failureCode : String) :
    Move digests e r true (r.requestCancel.quiescencePending failureCode none) none

/-- The job and the attempt of a request. -/
def LaunchRequest.key (request : LaunchRequest) : JobKey := (request.jobId, request.attemptId)

/-- The service after a launch. -/
structure Launches (digests : Digests) (e : Executor) (s t : Service) (request : LaunchRequest)
    (profile : ProviderProfile) : Prop where
  executors : t.executors = s.executors
  jobs : ∀ k, t.jobs.get? k = if k = request.key then
    some (launched (newRecord request profile (digests.request request)) e.launch).2 else s.jobs.get? k
  idempotency : t.idempotency =
    s.idempotency.set request.idempotencyKey (digests.request request, request.key)
  launches : t.launches = ⟨request.key, request.idempotencyKey,
    allocateBackendExecutionId (digests.request request)⟩ :: s.launches
  observations : t.observations = s.observations

/-- What a call does. -/
inductive Effect (digests : Digests) (call : Call) (e : Executor) (s : Service) : Service → Prop
  | none : Effect digests call e s s
  | launch {t : Service} (request : LaunchRequest) (profile : ProviderProfile)
    (newKey : s.jobs.get? request.key = Option.none)
    (newIdempotencyKey : s.idempotency.get? request.idempotencyKey = Option.none)
    (valid : ∃ value, LaunchRequest.fromMapping value = .ok request)
    (executor : profile.executorKind ∈ s.executors)
    (launches : Launches digests e s t request profile) : Effect digests call e s t
  | move {t : Service} (key : JobKey) (r q : JobRecord) (seen : Option BackendObservation)
    (job : s.jobs.get? key = some r) (running : r.state.terminal = false) (asks : call.Asks key)
    (move : Move digests e r call.cancels q seen) (writes : Writes s t key q seen) :
    Effect digests call e s t

/-! ## Steps of a call -/

variable {digests : Digests} {e : Executor} {s t : Service} {key : JobKey} {r q : JobRecord}

theorem writes_put (s : Service) (key : JobKey) (q : JobRecord) :
    Writes s { s with jobs := s.jobs.set key q } key q none :=
  ⟨rfl, rfl, fun k => Dict.get?_set _ _ _ _, rfl, rfl, rfl⟩

theorem Writes.trans {u : Service} {q' : JobRecord} {seen : Option BackendObservation}
    (h : Writes s t key q none) (h' : Writes t u key q' seen) : Writes s u key q' seen := by
  refine ⟨h'.profiles.trans h.profiles, h'.executors.trans h.executors, fun k => ?_,
    h'.idempotency.trans h.idempotency, h'.launches.trans h.launches, ?_⟩
  · rw [h'.jobs k, h.jobs k]
    split_ifs <;> rfl
  · rw [h'.observations, h.observations]
    rfl

theorem wp_check {α : Type} {x : Except Error α} {Q : α → Service → Prop} {E : Error → Service → Prop}
    {C : Service → Prop} (hok : ∀ a, x = .ok a → Q a s) (herror : ∀ err, x = .error err → E err s) :
    wp (check x) Q E C e s := by
  cases x with
  | ok a => exact hok a rfl
  | error err => exact herror err rfl

theorem requireId_eq_ok {value : Scalar} {field text : String} (h : requireId value field = .ok text) :
    value = .str text := by
  cases value with
  | other => cases h
  | str s =>
    unfold requireId require requireString at h
    dsimp only [Bind.bind, Except.bind] at h
    split_ifs at h
    cases h
    rfl

/-- `_get_job` finds the record of the job that is named. -/
theorem wp_getJob (jobId attemptId : Scalar) : wp (getJob jobId attemptId)
    (fun p t => s = t ∧ s.jobs.get? p.1 = some p.2 ∧ jobId = .str p.1.1 ∧ attemptId = .str p.1.2)
    (fun _ t => s = t) (fun _ => False) e s := by
  unfold getJob
  refine wp_seq (M := fun a t => s = t ∧ jobId = .str a) ?_ ?_
  · exact wp_check (fun a ha => ⟨rfl, requireId_eq_ok ha⟩) fun _ _ => rfl
  rintro job _ ⟨rfl, hjob⟩
  refine wp_seq (M := fun a t => s = t ∧ attemptId = .str a) ?_ ?_
  · exact wp_check (fun a ha => ⟨rfl, requireId_eq_ok ha⟩) fun _ _ => rfl
  rintro attempt _ ⟨rfl, hattempt⟩
  refine wp_read_bind.2 ?_
  cases hget : s.jobs.get? (job, attempt) with
  | none => exact rfl
  | some r => exact ⟨rfl, hget, hjob, hattempt⟩

/-- A record is written back, also when the call raises. -/
theorem wp_store (key : JobKey) (outcome : Ends Error Unit × JobRecord) (hcut : outcome.1 ≠ .cut) :
    wp (store key outcome) (fun q t => q = outcome.2 ∧ Writes s t key outcome.2 none)
      (fun _ t => Writes s t key outcome.2 none) (fun _ => False) e s := by
  obtain ⟨⟨_⟩ | err | _, q⟩ := outcome
  · exact ⟨rfl, writes_put s key q⟩
  · exact writes_put s key q
  · exact absurd rfl hcut

theorem applyObservation_not_cut (r : JobRecord) (o : BackendObservation) :
    (r.applyObservation digests.bytes o).1 ≠ .cut := by
  have hobserved := @JobRecord.observed digests.bytes r o
  generalize r.applyObservation digests.bytes o = out at hobserved ⊢
  cases hobserved with
  | invalid _ => exact fun h => by cases h
  | running _ => exact fun h => by cases h
  | unconfirmed _ _ => exact fun h => by cases h
  | confirmed id state own confirms =>
    unfold JobRecord.finish
    dsimp only
    split <;> (repeat' split) <;> exact fun h => by cases h

/-- The executor is asked, and what it reports is applied. -/
theorem wp_poll (key : JobKey) (r : JobRecord) (reply : Executor → ObserveReply) :
    wp (poll digests key r reply)
      (fun q t => ∃ o, reply e = .observed o ∧ q = (r.applyObservation digests.bytes o).2 ∧
        Writes s t key (r.applyObservation digests.bytes o).2 (some o))
      (fun _ t => s = t ∨ ∃ o, reply e = .observed o ∧
        Writes s t key (r.applyObservation digests.bytes o).2 (some o))
      (fun _ => False) e s := by
  unfold poll
  refine wp_read_bind.2 (wp_ite.2 ⟨fun _ => .inl rfl, fun _ => ?_⟩)
  unfold observe
  refine wp_bind.2 (wp_bind.2 ?_)
  rw [wp_read]
  cases hreply : reply e with
  | raised => exact .inl rfl
  | observed o =>
    refine wp_modify_bind.2 ?_
    refine (wp_store key (r.applyObservation digests.bytes o) (applyObservation_not_cut r o)).mono
      ?_ ?_ fun _ h => h
    · rintro q t ⟨rfl, hw⟩
      exact ⟨o, rfl, rfl, ⟨hw.profiles, hw.executors, hw.jobs, hw.idempotency, hw.launches,
        hw.observations⟩⟩
    · intro err t hw
      exact .inr ⟨o, rfl, ⟨hw.profiles, hw.executors, hw.jobs, hw.idempotency, hw.launches,
        hw.observations⟩⟩

/-! ## Specifications -/

/-- A view is the record of a job after the call. -/
def Shows (t : Service) (view : JobView) : Prop := ∃ key r, t.jobs.get? key = some r ∧ view = r.view

/-- What a call about a job does when it answers. -/
def Acts (digests : Digests) (call : Call) (e : Executor) (s t : Service) (view : JobView) : Prop :=
  ∃ key r, s.jobs.get? key = some r ∧ call.Asks key ∧
    (r.state.terminal = true ∧ s = t ∧ view = r.view ∨
      r.state.terminal = false ∧ ∃ q seen, Move digests e r call.cancels q seen ∧
        Writes s t key q seen ∧ view = q.view)

theorem Acts.effect {call : Call} {view : JobView} (h : Acts digests call e s t view) :
    Effect digests call e s t := by
  obtain ⟨key, r, hr, hasks, ⟨-, rfl, -⟩ | ⟨hrun, q, seen, hmove, hw, -⟩⟩ := h
  · exact .none
  · exact .move key r q seen hr hrun hasks hmove hw

theorem Acts.shows {call : Call} {view : JobView} (h : Acts digests call e s t view) :
    Shows t view := by
  obtain ⟨key, r, hr, -, ⟨-, rfl, rfl⟩ | ⟨-, q, seen, -, hw, rfl⟩⟩ := h
  · exact ⟨key, r, hr, rfl⟩
  · refine ⟨key, q, ?_, rfl⟩
    rw [hw.jobs, if_pos rfl]

theorem status_spec (jobId attemptId : Scalar) : wp (status digests jobId attemptId)
    (fun view t => Acts digests (.status jobId attemptId) e s t view)
    (fun _ t => Effect digests (.status jobId attemptId) e s t) (fun _ => False) e s := by
  unfold status
  refine wp_seq ((wp_getJob jobId attemptId).mono (fun _ _ h => h)
    (fun _ t (h : s = t) => h ▸ .none) fun _ h => h) ?_
  rintro ⟨key, r⟩ _ ⟨rfl, hget, hjob, hattempt⟩
  refine wp_ite.2 ⟨fun hterminal => ?_, fun hrun => ?_⟩
  · exact ⟨key, r, hget, ⟨hjob, hattempt⟩, .inl ⟨hterminal, rfl, rfl⟩⟩
  have hrun : r.state.terminal = false := Bool.eq_false_iff.2 hrun
  cases hid : r.backendExecutionId with
  | none =>
    dsimp only
    refine wp_seq ((wp_store key _ (fun h => by cases h)).mono (fun _ _ h => h)
      (fun _ t hw => .move key r _ none hget hrun ⟨hjob, hattempt⟩ (.lost hid _) hw) fun _ h => h) ?_
    rintro q t ⟨rfl, hw⟩
    exact ⟨key, r, hget, ⟨hjob, hattempt⟩, .inr ⟨hrun, _, none, .lost hid _, hw, rfl⟩⟩
  | some id =>
    dsimp only
    refine wp_seq ((wp_poll key r Executor.status).mono (fun _ _ h => h) ?_ fun _ h => h) ?_
    · rintro err t (rfl | ⟨o, ho, hw⟩)
      · exact .none
      · exact .move key r _ _ hget hrun ⟨hjob, hattempt⟩ (.status id o hid ho) hw
    · rintro q t ⟨o, ho, rfl, hw⟩
      exact ⟨key, r, hget, ⟨hjob, hattempt⟩, .inr ⟨hrun, _, _, .status id o hid ho, hw, rfl⟩⟩

theorem requestCancel_execution (r : JobRecord) :
    r.requestCancel.backendExecutionId = r.backendExecutionId :=
  (JobRecord.sameJob_requestCancel r).execution

theorem cancel_spec (jobId attemptId : Scalar) : wp (cancel digests jobId attemptId)
    (fun view t => Acts digests (.cancel jobId attemptId) e s t view)
    (fun _ t => Effect digests (.cancel jobId attemptId) e s t) (fun _ => False) e s := by
  unfold cancel
  refine wp_seq ((wp_getJob jobId attemptId).mono (fun _ _ h => h)
    (fun _ t (h : s = t) => h ▸ .none) fun _ h => h) ?_
  rintro ⟨key, r⟩ _ ⟨rfl, hget, hjob, hattempt⟩
  refine wp_ite.2 ⟨fun hterminal => ?_, fun hrun => ?_⟩
  · exact ⟨key, r, hget, ⟨hjob, hattempt⟩, .inl ⟨hterminal, rfl, rfl⟩⟩
  have hrun : r.state.terminal = false := Bool.eq_false_iff.2 hrun
  have hput := writes_put s key r.requestCancel
  have hasked : Effect digests (.cancel jobId attemptId) e s { s with jobs := s.jobs.set key r.requestCancel } :=
    .move key r _ none hget hrun ⟨hjob, hattempt⟩ .asked hput
  refine wp_modify_bind.2 ?_
  rw [requestCancel_execution]
  cases hid : r.backendExecutionId with
  | none =>
    dsimp only
    refine wp_seq ((wp_store key _ (fun h => by cases h)).mono (fun _ _ h => h)
      (fun _ t hw => .move key r _ none hget hrun ⟨hjob, hattempt⟩ (.lostCancel hid _) (hput.trans hw))
        fun _ h => h) ?_
    rintro q t ⟨rfl, hw⟩
    exact ⟨key, r, hget, ⟨hjob, hattempt⟩,
      .inr ⟨hrun, _, none, .lostCancel hid _, hput.trans hw, rfl⟩⟩
  | some id =>
    dsimp only
    refine wp_seq ((wp_poll key r.requestCancel Executor.cancel).mono (fun _ _ h => h) ?_
      fun _ h => h) ?_
    · rintro err t (rfl | ⟨o, ho, hw⟩)
      · exact hasked
      · exact .move key r _ _ hget hrun ⟨hjob, hattempt⟩ (.cancel id o hid ho) (hput.trans hw)
    · rintro q t ⟨o, ho, rfl, hw⟩
      exact ⟨key, r, hget, ⟨hjob, hattempt⟩,
        .inr ⟨hrun, _, _, .cancel id o hid ho, hput.trans hw, rfl⟩⟩

/-- A new job. -/
theorem launchJob_spec (request : LaunchRequest) (profile : ProviderProfile) :
    wp (launchJob request (digests.request request) profile)
      (fun view t => Launches digests e s t request profile ∧ ∃ r, t.jobs.get? request.key = some r ∧
        view = r.view)
      (fun _ t => Launches digests e s t request profile) (fun _ => False) e s := by
  obtain ⟨q, hq⟩ : ∃ q, q = newRecord request profile (digests.request request) := ⟨_, rfl⟩
  obtain ⟨u, hu⟩ : ∃ u : Service, u = { s with
    jobs := s.jobs.set request.key q
    idempotency := s.idempotency.set request.idempotencyKey (digests.request request, request.key)
    launches := ⟨request.key, request.idempotencyKey,
      allocateBackendExecutionId (digests.request request)⟩ :: s.launches } := ⟨_, rfl⟩
  have hlaunches : ∀ {t}, Writes u t request.key (launched q e.launch).2 none →
      Launches digests e s t request profile := by
    intro t hw
    rw [hq] at hw
    refine ⟨?_, fun k => ?_, ?_, ?_, ?_⟩
    · rw [hw.executors, hu]
    · rw [hw.jobs k, hu]
      dsimp only
      rw [Dict.get?_set]
      split_ifs <;> rfl
    · rw [hw.idempotency, hu]
    · rw [hw.launches, hu]
    · rw [hw.observations, hu]
      rfl
  have hcut : (launched q e.launch).1 ≠ .cut := by
    unfold launched
    split <;> (repeat' split) <;> exact fun h => by cases h
  have hstore := @wp_store e u request.key (launched q e.launch) hcut
  unfold launchJob
  refine wp_modify_bind.2 (wp_modify_bind.2 ?_)
  dsimp only
  refine wp_bind.2 ?_
  unfold callLaunch
  refine wp_modify_bind.2 ?_
  rw [wp_read]
  refine wp_bind.2 ?_
  change wp (store request.key (launched (newRecord request profile (digests.request request)) e.launch))
    _ _ _ e { s with
      jobs := s.jobs.set request.key (newRecord request profile (digests.request request))
      idempotency := s.idempotency.set request.idempotencyKey (digests.request request, request.key)
      launches := ⟨request.key, request.idempotencyKey,
        allocateBackendExecutionId (digests.request request)⟩ :: s.launches }
  rw [← hq, ← hu]
  refine hstore.mono ?_ (fun err t hw => hlaunches hw) fun _ h => h
  rintro _ t ⟨rfl, hw⟩
  refine ⟨hlaunches hw, _, ?_, rfl⟩
  rw [hw.jobs, if_pos rfl]

theorem submit_spec (value : RawRequest) : wp (submit digests value)
    (fun view t => Effect digests (.submit value) e s t ∧ Shows t view) (fun _ t => Effect digests (.submit value) e s t)
    (fun _ => False) e s := by
  unfold submit
  refine wp_seq (M := fun request t => s = t ∧ LaunchRequest.fromMapping value = .ok request)
    (wp_check (fun _ h => ⟨rfl, h⟩) fun _ _ => .none) ?_
  rintro request _ ⟨rfl, hvalid⟩
  refine wp_read_bind.2 ?_
  cases hidem : s.idempotency.get? request.idempotencyKey with
  | some prior =>
    obtain ⟨priorDigest, priorKey⟩ := prior
    refine wp_ite.2 ⟨fun _ => .none, fun _ => wp_read_bind.2 ?_⟩
    cases hget : s.jobs.get? priorKey with
    | none => exact .none
    | some r => exact ⟨.none, priorKey, r, hget, rfl⟩
  | none =>
    refine wp_read_bind.2 (wp_ite.2 ⟨fun _ => .none, fun hkey => wp_read_bind.2 ?_⟩)
    have hkey : s.jobs.get? request.key = none := by
      unfold Dict.contains at hkey
      rw [Option.isSome_iff_ne_none, not_not] at hkey
      exact hkey
    cases s.profiles.get? request.providerProfileId with
    | none => exact .none
    | some profile =>
      refine wp_seq (M := fun _ t => s = t) (wp_check (fun _ _ => rfl) fun _ _ => .none) ?_
      rintro _ _ rfl
      refine wp_read_bind.2 (wp_ite.2 ⟨fun hexecutor => ?_, fun _ => .none⟩)
      refine (launchJob_spec request profile).mono ?_ ?_ fun _ h => h
      · rintro view t ⟨hl, r, hr, rfl⟩
        exact ⟨.launch request profile hkey hidem ⟨value, hvalid⟩ hexecutor hl, request.key, r, hr,
          rfl⟩
      · exact fun _ t hl => .launch request profile hkey hidem ⟨value, hvalid⟩ hexecutor hl

/-- The output that is released is that of a valid success. -/
def Releases (digests : Digests) (t : Service) (jobId attemptId : Scalar) (view : ResultView) : Prop :=
  ∃ key r success, t.jobs.get? key = some r ∧ r.state = .succeeded ∧ r.success = some success ∧
    r.validSuccess digests.bytes success = true ∧ r.resultView digests.bytes success = some view ∧
      jobId = .str key.1 ∧ attemptId = .str key.2

/-- A success that is kept is valid. -/
def Kept (digests : Digests) (r : JobRecord) : Prop :=
  r.state = .succeeded → ∃ success, r.success = some success ∧
    r.validSuccess digests.bytes success = true

/-- The answer of `result` for a record that is terminal. -/
def answerOf (digests : Digests) (r : JobRecord) : Ends Error ResultView :=
  match r.state, r.success with
  | .succeeded, some success =>
    match r.resultView digests.bytes success with
    | some view => .done view
    | none => .raised .executor
  | state, _ => .raised (.resultUnavailable ("result-unavailable:" ++ state.value))

/-- `result` of a valid record changes nothing. -/
theorem releaseResult_eq (hkept : Kept digests r) :
    releaseResult digests key r e s = (answerOf digests r, s) := by
  unfold releaseResult answerOf
  cases hstate : r.state with
  | succeeded =>
    obtain ⟨success, hsuccess, hvalid⟩ := hkept hstate
    rw [hsuccess]
    dsimp only
    rw [if_pos hvalid]
    cases r.resultView digests.bytes success <;> rfl
  | _ => rfl

theorem resultView_of_answerOf (hkept : Kept digests r) {view : ResultView}
    (h : answerOf digests r = .done view) : ∃ success, r.state = .succeeded ∧
      r.success = some success ∧ r.validSuccess digests.bytes success = true ∧
        r.resultView digests.bytes success = some view := by
  unfold answerOf at h
  cases hstate : r.state with
  | succeeded =>
    obtain ⟨success, hsuccess, hvalid⟩ := hkept hstate
    rw [hstate, hsuccess] at h
    dsimp only at h
    cases hview : r.resultView digests.bytes success with
    | none =>
      rw [hview] at h
      cases h
    | some found =>
      rw [hview] at h
      cases h
      exact ⟨success, rfl, hsuccess, hvalid, hview⟩
  | _ =>
    rw [hstate] at h
    cases h

/-- What an observation makes of a record that has not succeeded is kept. -/
theorem kept_applyObservation (hr : r.state ≠ .succeeded) (o : BackendObservation) :
    Kept digests (r.applyObservation digests.bytes o).2 := by
  intro h
  obtain ⟨_, value, -, -, -, hvalue, hvalid⟩ := JobRecord.applyObservation_succeeded hr h
  exact ⟨value, hvalue, hvalid⟩

theorem ne_succeeded_of_running (h : r.state.terminal = false) : r.state ≠ .succeeded := by
  intro heq
  rw [heq] at h
  cases h

theorem result_spec (hkept : ∀ k r, s.jobs.get? k = some r → Kept digests r)
    (jobId attemptId : Scalar) : wp (result digests jobId attemptId)
      (fun view t => Effect digests (.result jobId attemptId) e s t ∧ Releases digests t jobId attemptId view)
      (fun _ t => Effect digests (.result jobId attemptId) e s t) (fun _ => False) e s := by
  have hrelease : ∀ {key r t} {jobId attemptId : Scalar}, Kept digests r → t.jobs.get? key = some r →
      jobId = .str key.1 → attemptId = .str key.2 → Effect digests (.result jobId attemptId) e s t →
      wp (releaseResult digests key r)
        (fun view t => Effect digests (.result jobId attemptId) e s t ∧ Releases digests t jobId attemptId view)
        (fun _ t => Effect digests (.result jobId attemptId) e s t) (fun _ => False) e t := by
    intro key r t jobId attemptId hkept hget hjob hattempt heffect
    unfold wp
    rw [releaseResult_eq hkept]
    cases hanswer : answerOf digests r with
    | done view =>
      obtain ⟨success, hstate, hsuccess, hvalid, hview⟩ := resultView_of_answerOf hkept hanswer
      exact ⟨heffect, key, r, success, hget, hstate, hsuccess, hvalid, hview, hjob, hattempt⟩
    | raised err => exact heffect
    | cut =>
      unfold answerOf at hanswer
      split at hanswer
      · split at hanswer <;> cases hanswer
      · cases hanswer
  unfold result
  refine wp_seq ((wp_getJob jobId attemptId).mono (fun _ _ h => h)
    (fun _ t (h : s = t) => h ▸ .none) fun _ h => h) ?_
  rintro ⟨key, r⟩ _ ⟨rfl, hget, hjob, hattempt⟩
  refine wp_ite.2 ⟨fun _ => hrelease (hkept key r hget) hget hjob hattempt .none, fun hrun => ?_⟩
  have hrun : r.state.terminal = false := Bool.eq_false_iff.2 hrun
  cases hid : r.backendExecutionId with
  | none => exact .none
  | some id =>
    dsimp only
    refine wp_seq ((wp_poll key r Executor.status).mono (fun _ _ h => h) ?_ fun _ h => h) ?_
    · rintro err t (rfl | ⟨o, ho, hw⟩)
      · exact .none
      · exact .move key r _ _ hget hrun ⟨hjob, hattempt⟩ (.status id o hid ho) hw
    · rintro q t ⟨o, ho, rfl, hw⟩
      refine hrelease (kept_applyObservation (ne_succeeded_of_running hrun) o) ?_ hjob hattempt
        (.move key r _ _ hget hrun ⟨hjob, hattempt⟩ (.status id o hid ho) hw)
      rw [hw.jobs, if_pos rfl]

/-- **Calls.** -/
theorem perform_spec (hkept : ∀ k r, s.jobs.get? k = some r → Kept digests r) (call : Call) :
    wp (perform digests call)
      (fun answer t => Effect digests call e s t ∧ ∀ view, answer = .job view → Shows t view)
      (fun _ t => Effect digests call e s t) (fun _ => False) e s := by
  cases call with
  | submit value =>
    refine wp_seq (submit_spec value) fun view t ⟨heffect, hshows⟩ => ⟨heffect, ?_⟩
    rintro _ ⟨⟩
    exact hshows
  | status jobId attemptId =>
    refine wp_seq (status_spec jobId attemptId) fun view t hacts => ⟨hacts.effect, ?_⟩
    rintro _ ⟨⟩
    exact hacts.shows
  | cancel jobId attemptId =>
    refine wp_seq (cancel_spec jobId attemptId) fun view t hacts => ⟨hacts.effect, ?_⟩
    rintro _ ⟨⟩
    exact hacts.shows
  | result jobId attemptId =>
    refine wp_seq (result_spec hkept jobId attemptId) fun view t ⟨heffect, _⟩ => ⟨heffect, ?_⟩
    rintro _ ⟨⟩

end Vibapp.Launcher
