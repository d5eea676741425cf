import Vibapp.Launcher.Calls
import Vibapp.Lib.Json

/-!
# Laws of the launcher

**The invariant** (`Inv`). A job stands under the key of its request, its idempotency key leads back to
it, its execution is the one of its request's digest, and a success is the report of an observation of
that execution. Each launch is that of a job.

**Main results.** One step keeps the invariant (`Effect.inv`), a terminal job stays as it is
(`Effect.terminal`), and from these `launcher_laws` about every sequence of calls.
-/

namespace Vibapp.Launcher

open Prog

variable {digests : Digests} {e : Executor} {s t u : Service} {key : JobKey} {r q : JobRecord}
  {call : Call} {cancels : Bool}

/-! ## The invariant -/

/-- The observation that a released output comes from. -/
structure Reports (digests : Digests) (s : Service) (key : JobKey) (r : JobRecord) (id : String)
    (o : BackendObservation) (value : BackendSuccess) : Prop where
  own : r.backendExecutionId = some id
  seen : (key, o) ∈ s.observations
  confirms : JobRecord.Confirms o id .succeeded
  reported : o.success = .success value
  kept : r.success = some value
  valid : r.validSuccess digests.bytes value = true

structure JobInv (digests : Digests) (s : Service) (key : JobKey) (r : JobRecord) : Prop where
  own : key = r.request.key
  jobId : isId key.1 = true
  attemptId : isId key.2 = true
  executor : r.profile.executorKind ∈ s.executors
  digest : r.requestDigestSha256 = digests.request r.request
  execution : r.backendExecutionId = some (allocateBackendExecutionId r.requestDigestSha256)
  idempotency : s.idempotency.get? r.request.idempotencyKey = some (r.requestDigestSha256, key)
  success : r.state = .succeeded → ∃ id o value, Reports digests s key r id o value

/-- The launch of a job. -/
structure LaunchOf (s : Service) (l : Launch) (r : JobRecord) : Prop where
  job : s.jobs.get? l.key = some r
  idempotencyKey : l.idempotencyKey = r.request.idempotencyKey
  execution : r.backendExecutionId = some l.backendExecutionId

structure Inv (digests : Digests) (s : Service) : Prop where
  jobs : ∀ k r, s.jobs.get? k = some r → JobInv digests s k r
  launches : ∀ l ∈ s.launches, ∃ r, LaunchOf s l r
  distinct : s.launches.Pairwise fun a b => a.key ≠ b.key

theorem JobInv.kept (h : JobInv digests s key r) : Kept digests r := by
  intro hstate
  obtain ⟨_, _, value, hreports⟩ := h.success hstate
  exact ⟨value, hreports.kept, hreports.valid⟩

theorem Inv.kept (h : Inv digests s) : ∀ k r, s.jobs.get? k = some r → Kept digests r :=
  fun k r hr => (h.jobs k r hr).kept

/-! ## Steps -/

theorem isId_of_requireId {value : Scalar} {field text : String}
    (h : requireId value field = .ok text) : isId text = true := by
  cases value with
  | other => cases h
  | str found =>
    unfold requireId require requireString at h
    dsimp only [Bind.bind, Except.bind] at h
    split_ifs at h with hid
    cases h
    exact hid

/-- A request that is accepted names its job and its attempt with identifiers. -/
theorem LaunchRequest.isId_of_fromMapping {value : RawRequest} {request : LaunchRequest}
    (h : LaunchRequest.fromMapping value = .ok request) :
    isId request.jobId = true ∧ isId request.attemptId = true := by
  unfold LaunchRequest.fromMapping at h
  obtain ⟨version, -, h⟩ := bind_eq_ok.1 h
  by_cases hversion : version = Launcher.schemaVersion
  · rw [if_neg (not_not.2 hversion)] at h
    obtain ⟨job, hjob, h⟩ := bind_eq_ok.1 h
    obtain ⟨attempt, hattempt, h⟩ := bind_eq_ok.1 h
    obtain ⟨_, -, h⟩ := bind_eq_ok.1 h
    obtain ⟨_, -, h⟩ := bind_eq_ok.1 h
    obtain ⟨_, -, h⟩ := bind_eq_ok.1 h
    obtain ⟨_, -, h⟩ := bind_eq_ok.1 h
    obtain ⟨_, -, h⟩ := bind_eq_ok.1 h
    obtain ⟨_, -, h⟩ := bind_eq_ok.1 h
    obtain ⟨_, -, h⟩ := bind_eq_ok.1 h
    obtain ⟨_, -, h⟩ := bind_eq_ok.1 h
    obtain ⟨_, -, h⟩ := bind_eq_ok.1 h
    cases h
    exact ⟨isId_of_requireId hjob, isId_of_requireId hattempt⟩
  · rw [if_pos hversion] at h
    cases h

theorem newRecord_sameJob (request : LaunchRequest) (profile : ProviderProfile) (digest : String) :
    JobRecord.SameJob ⟨request, digest, profile, .queued, some (allocateBackendExecutionId digest),
      none, none, [], 1, none⟩ (newRecord request profile digest) := by
  unfold newRecord
  have hfirst := JobRecord.sameJob_appendEvent ⟨request, digest, profile, .queued,
    some (allocateBackendExecutionId digest), none, none, [], 1, none⟩ .queued .jobQueued
  refine JobRecord.SameJob.trans (hfirst.trans ?_) (JobRecord.sameJob_appendEvent _ _ _)
  exact ⟨rfl, rfl, rfl, rfl⟩

theorem newRecord_state_ne (request : LaunchRequest) (profile : ProviderProfile) (digest : String) :
    (newRecord request profile digest).state ≠ .succeeded :=
  JobRecord.appendEvent_state_ne (fun h => by cases h) (fun h => by cases h) _ _

/-- A move is about the same job. -/
theorem Move.sameJob {seen : Option BackendObservation} (h : Move digests e r cancels q seen) :
    JobRecord.SameJob r q := by
  cases h with
  | status id o own reply => exact JobRecord.sameJob_applyObservation r o
  | cancel id o own reply =>
    exact (JobRecord.sameJob_requestCancel r).trans (JobRecord.sameJob_applyObservation _ o)
  | asked => exact JobRecord.sameJob_requestCancel r
  | lost own code => exact JobRecord.sameJob_quiescencePending r code none
  | lostCancel own code =>
    exact (JobRecord.sameJob_requestCancel r).trans
      (JobRecord.sameJob_quiescencePending _ code none)

/-- A move to success is an observation. -/
theorem Move.succeeded {seen : Option BackendObservation} (h : Move digests e r cancels q seen)
    (hr : r.state.terminal = false) (hq : q.state = .succeeded) : ∃ id o value,
      r.backendExecutionId = some id ∧ seen = some o ∧ JobRecord.Confirms o id .succeeded ∧
      o.success = .success value ∧ q.success = some value ∧
      q.validSuccess digests.bytes value = true := by
  have hcancel : r.requestCancel.state ≠ .succeeded :=
    JobRecord.requestCancel_state_ne r (fun h => by cases h) (fun h => by cases h)
  cases h with
  | status id o own reply =>
    obtain ⟨id', value, hown, hconfirms, hrest⟩ :=
      JobRecord.applyObservation_succeeded (ne_succeeded_of_running hr) hq
    rw [own] at hown
    cases hown
    exact ⟨id, o, value, own, rfl, hconfirms, hrest⟩
  | cancel id o own reply =>
    obtain ⟨id', value, hown, hconfirms, hrest⟩ := JobRecord.applyObservation_succeeded hcancel hq
    rw [requestCancel_execution, own] at hown
    cases hown
    exact ⟨id, o, value, own, rfl, hconfirms, hrest⟩
  | asked => exact absurd hq hcancel
  | lost own code =>
    rw [JobRecord.quiescencePending_state] at hq
    cases hq
  | lostCancel own code =>
    rw [JobRecord.quiescencePending_state] at hq
    cases hq

/-- A record that the call leaves alone. -/
theorem JobInv.mono (h : JobInv digests s key r) (hexecutors : t.executors = s.executors)
    (hidem : t.idempotency.get? r.request.idempotencyKey = s.idempotency.get? r.request.idempotencyKey)
    (hseen : ∀ p ∈ s.observations, p ∈ t.observations) : JobInv digests t key r := by
  refine ⟨h.own, h.jobId, h.attemptId, hexecutors ▸ h.executor, h.digest, h.execution,
    hidem ▸ h.idempotency, fun hstate => ?_⟩
  obtain ⟨id, o, value, hreports⟩ := h.success hstate
  exact ⟨id, o, value, hreports.own, hseen _ hreports.seen, hreports.confirms, hreports.reported,
    hreports.kept, hreports.valid⟩

theorem Inv.launch (h : Inv digests s) {request : LaunchRequest} {profile : ProviderProfile}
    (newKey : s.jobs.get? request.key = none)
    (newIdempotencyKey : s.idempotency.get? request.idempotencyKey = none)
    (hvalid : ∃ value, LaunchRequest.fromMapping value = .ok request)
    (hexecutor : profile.executorKind ∈ s.executors) (hl : Launches digests e s t request profile) : Inv digests t := by
  obtain ⟨q, hq⟩ : ∃ q, q = (launched (newRecord request profile (digests.request request)) e.launch).2 :=
    ⟨_, rfl⟩
  have hjobs := hl.jobs
  rw [← hq] at hjobs
  have hsame := (newRecord_sameJob request profile (digests.request request)).trans
    (JobRecord.sameJob_launched _ e.launch)
  rw [← hq] at hsame
  have hrequest : q.request = request := hsame.request
  have hdigest : q.requestDigestSha256 = digests.request request := hsame.digest
  have hprofile : q.profile = profile := hsame.profile
  have hexecution : q.backendExecutionId =
    some (allocateBackendExecutionId (digests.request request)) := hsame.execution
  have hold : ∀ {l r}, LaunchOf s l r → LaunchOf t l r := by
    intro l r hof
    have hne : l.key ≠ request.key := by
      intro heq
      have hjob := hof.job
      rw [heq, newKey] at hjob
      cases hjob
    refine ⟨?_, hof.idempotencyKey, hof.execution⟩
    rw [hjobs, if_neg hne]
    exact hof.job
  refine ⟨fun k r hr => ?_, fun l hmem => ?_, ?_⟩
  · rw [hjobs] at hr
    by_cases hk : k = request.key
    · rw [if_pos hk] at hr
      cases hr
      obtain ⟨value, hvalue⟩ := hvalid
      obtain ⟨hjob, hattempt⟩ := LaunchRequest.isId_of_fromMapping hvalue
      refine ⟨?_, ?_, ?_, ?_, ?_, ?_, ?_, fun hstate => ?_⟩
      · rw [hrequest, hk]
      · rw [hk]
        exact hjob
      · rw [hk]
        exact hattempt
      · rw [hprofile, hl.executors]
        exact hexecutor
      · rw [hdigest, hrequest]
      · rw [hexecution, hdigest]
      · rw [hrequest, hdigest, hl.idempotency, Dict.get?_set_self, hk]
      · rw [hq] at hstate
        exact absurd hstate (JobRecord.launched_state_ne (newRecord_state_ne _ _ _) _)
    · rw [if_neg hk] at hr
      have hjob := h.jobs k r hr
      refine hjob.mono hl.executors ?_ fun p hp => hl.observations ▸ hp
      rw [hl.idempotency, Dict.get?_set_ne]
      intro heq
      have hidem := hjob.idempotency
      rw [heq, newIdempotencyKey] at hidem
      cases hidem
  · rw [hl.launches] at hmem
    rcases List.mem_cons.1 hmem with rfl | hmem
    · refine ⟨q, ?_, hrequest ▸ rfl, hexecution⟩
      rw [hjobs, if_pos rfl]
    · obtain ⟨r, hof⟩ := h.launches l hmem
      exact ⟨r, hold hof⟩
  · rw [hl.launches]
    refine .cons (fun l hmem heq => ?_) h.distinct
    obtain ⟨r, hof⟩ := h.launches l hmem
    have hjob := hof.job
    rw [← heq, newKey] at hjob
    cases hjob

theorem Inv.move (h : Inv digests s) {seen : Option BackendObservation}
    (hr : s.jobs.get? key = some r) (hrun : r.state.terminal = false) (hmove : Move digests e r cancels q seen)
    (hw : Writes s t key q seen) : Inv digests t := by
  have hsame := hmove.sameJob
  have hjob := h.jobs key r hr
  have hseen : ∀ p ∈ s.observations, p ∈ t.observations := by
    intro p hp
    rw [hw.observations]
    exact List.mem_append_right _ hp
  refine ⟨fun k r' hr' => ?_, fun l hmem => ?_, ?_⟩
  · rw [hw.jobs] at hr'
    by_cases hk : k = key
    · rw [if_pos hk] at hr'
      cases hr'
      subst hk
      refine ⟨?_, hjob.jobId, hjob.attemptId, ?_, ?_, ?_, ?_, fun hstate => ?_⟩
      · rw [hsame.request, hjob.own]
      · rw [hsame.profile, hw.executors]
        exact hjob.executor
      · rw [hsame.digest, hsame.request, hjob.digest]
      · rw [hsame.execution, hsame.digest, hjob.execution]
      · rw [hsame.request, hsame.digest, hw.idempotency, hjob.idempotency]
      · obtain ⟨id, o, value, hown, rfl, hconfirms, hreported, hkept, hvalid⟩ :=
          hmove.succeeded hrun hstate
        refine ⟨id, o, value, ?_, ?_, hconfirms, hreported, hkept, hvalid⟩
        · rw [hsame.execution, hown]
        · rw [hw.observations]
          exact List.mem_cons_self
    · rw [if_neg hk] at hr'
      exact (h.jobs k r' hr').mono hw.executors (by rw [hw.idempotency]) hseen
  · rw [hw.launches] at hmem
    obtain ⟨r', hof⟩ := h.launches l hmem
    by_cases hk : l.key = key
    · have hget := hof.job
      rw [hk, hr] at hget
      cases hget
      refine ⟨q, ?_, ?_, ?_⟩
      · rw [hw.jobs, if_pos hk]
      · rw [hsame.request, hof.idempotencyKey]
      · rw [hsame.execution, hof.execution]
    · refine ⟨r', ?_, hof.idempotencyKey, hof.execution⟩
      rw [hw.jobs, if_neg hk, hof.job]
  · rw [hw.launches]
    exact h.distinct

/-- One call keeps the invariant. -/
theorem Effect.inv (heffect : Effect digests call e s t) (h : Inv digests s) : Inv digests t := by
  cases heffect with
  | none => exact h
  | launch request profile newKey newIdempotencyKey hvalid hexecutor hl => exact h.launch newKey newIdempotencyKey hvalid hexecutor hl
  | move key r q seen hr hrun hasks hmove hw => exact h.move hr hrun hmove hw

/-- **Terminal stability.** One call leaves a terminal job as it is. -/
theorem Effect.terminal (heffect : Effect digests call e s t) (hr : s.jobs.get? key = some r)
    (hterminal : r.state.terminal = true) : t.jobs.get? key = some r := by
  cases heffect with
  | none => exact hr
  | launch request profile newKey newIdempotencyKey hvalid hexecutor hl =>
    rw [hl.jobs, if_neg, hr]
    intro heq
    rw [heq, newKey] at hr
    cases hr
  | move key' r' q seen hr' hrun hasks hmove hw =>
    rw [hw.jobs, if_neg, hr]
    intro heq
    rw [heq, hr'] at hr
    cases hr
    rw [hterminal] at hrun
    cases hrun

/-! ## Runs -/

/-- A call, with what its executor does. -/
def CallStep (digests : Digests) (label : Call × Executor) (s t : Service) : Prop :=
  (perform digests label.1 label.2 s).2 = t

theorem CallStep.effect {label : Call × Executor} (h : CallStep digests label s t)
    (hinv : Inv digests s) : Effect digests label.1 label.2 s t := by
  have hspec := @perform_spec digests label.2 s hinv.kept label.1
  have hlast := wp.last (hspec.mono (fun _ _ h => h.1) (fun _ _ h => h) fun _ h => h.elim)
  rwa [show (perform digests label.1 label.2 s).2 = t from h] at hlast

theorem init_inv {profiles : List ProviderProfile} {executors : List ExecutorKind}
    (h : init profiles executors = .ok s) : Inv digests s := by
  unfold init at h
  obtain ⟨table, _, h⟩ := bind_eq_ok.1 h
  by_cases hnodup : executors.Nodup
  · rw [if_neg (not_not.2 hnodup)] at h
    cases h
    exact ⟨fun k r hr => (by cases hr), fun l hl => absurd hl List.not_mem_nil, .nil⟩
  · rw [if_pos hnodup] at h
    cases h

theorem steps_inv {labels : List (Call × Executor)} (hsteps : Steps (CallStep digests) labels s t)
    (hinv : Inv digests s) : Inv digests t :=
  hsteps.invariant hinv fun _ hstep hs => (CallStep.effect hstep hs).inv hs

theorem steps_terminal {labels : List (Call × Executor)}
    (hsteps : Steps (CallStep digests) labels s t) (hinv : Inv digests s)
    (hr : s.jobs.get? key = some r) (hterminal : r.state.terminal = true) :
    t.jobs.get? key = some r := by
  have hboth : Inv digests t ∧ t.jobs.get? key = some r :=
    hsteps.invariant (P := fun u => Inv digests u ∧ u.jobs.get? key = some r) ⟨hinv, hr⟩
      fun _ hstep hs =>
        have heffect := CallStep.effect hstep hs.1
        ⟨heffect.inv hs.1, heffect.terminal hs.2 hterminal⟩
  exact hboth.2

/-- `result` of a terminal job answers with what is in its record. -/
theorem result_of_terminal {e' : Executor} {job attempt : String}
    (hs : s.jobs.get? (job, attempt) = some r) (hu : u.jobs.get? (job, attempt) = some r)
    (hterminal : r.state.terminal = true) (hkept : Kept digests r) :
    (result digests (.str job) (.str attempt) e s).1 =
      (result digests (.str job) (.str attempt) e' u).1 := by
  have hget : ∀ {e : Executor} {s : Service}, s.jobs.get? (job, attempt) = some r →
      requireId (.str job) "job_id" = .ok job → requireId (.str attempt) "attempt_id" = .ok attempt →
      result digests (.str job) (.str attempt) e s = (answerOf digests r, s) := by
    intro e s hs hjob hattempt
    have hfound : getJob (.str job) (.str attempt) e s = (.done ((job, attempt), r), s) := by
      unfold getJob
      rw [hjob, hattempt]
      rw [bind_of_done (m := check (Except.ok job)) rfl,
        bind_of_done (m := check (Except.ok attempt)) rfl, bind_of_done (m := getJobs) rfl, hs]
      rfl
    unfold result
    rw [bind_of_done hfound]
    dsimp only
    rw [if_pos hterminal]
    exact releaseResult_eq hkept
  cases hjob : requireId (.str job) "job_id" with
  | error err =>
    unfold result getJob
    rw [hjob]
    rfl
  | ok a =>
    cases hattempt : requireId (.str attempt) "attempt_id" with
    | error err =>
      unfold result getJob
      rw [hjob, hattempt]
      rfl
    | ok b =>
      have ha : job = a := Scalar.str.inj (requireId_eq_ok hjob)
      have hb : attempt = b := Scalar.str.inj (requireId_eq_ok hattempt)
      subst ha hb
      rw [hget hs hjob hattempt, hget hu hjob hattempt]

/-! ## The laws -/

/-- Two launches are of different jobs, under different idempotency keys, and of different
executions. -/
structure Launch.Differs (a b : Launch) : Prop where
  key : a.key ≠ b.key
  idempotencyKey : a.idempotencyKey ≠ b.idempotencyKey
  execution : a.backendExecutionId ≠ b.backendExecutionId

theorem allocateBackendExecutionId_inj {a b : String}
    (h : allocateBackendExecutionId a = allocateBackendExecutionId b) : a = b :=
  (String.append_right_inj _).1 h

/-- Under an injective digest, the launches of two jobs differ in everything. -/
theorem Inv.launches_differ (h : Inv digests s) (hinj : Function.Injective digests.request) :
    s.launches.Pairwise Launch.Differs := by
  refine h.distinct.imp_of_mem fun {a b} ha hb hne => ⟨hne, fun heq => hne ?_, fun heq => hne ?_⟩
  all_goals
    obtain ⟨r, hr⟩ := h.launches a ha
    obtain ⟨q, hq⟩ := h.launches b hb
    have hrjob := h.jobs _ _ hr.job
    have hqjob := h.jobs _ _ hq.job
  · have hidem := hrjob.idempotency
    rw [← hr.idempotencyKey, heq, hq.idempotencyKey, hqjob.idempotency] at hidem
    exact ((Prod.mk.inj (Option.some.inj hidem)).2).symm
  · have hexecution := hr.execution
    rw [heq, ← hq.execution, hrjob.execution, hqjob.execution] at hexecution
    have hdigest := allocateBackendExecutionId_inj (Option.some.inj hexecution)
    rw [hrjob.digest, hqjob.digest] at hdigest
    rw [hrjob.own, hqjob.own, hinj hdigest]

/-- What a released output comes from. -/
structure ReleasedFrom (digests : Digests) (t : Service) (view : ResultView) (id : String)
    (o : BackendObservation) (value : BackendSuccess) (r : JobRecord) : Prop where
  job : t.jobs.get? (view.jobId, view.attemptId) = some r
  execution : view.backendExecutionId = some id
  seen : ((view.jobId, view.attemptId), o) ∈ t.observations
  confirms : JobRecord.Confirms o id .succeeded
  reported : o.success = .success value
  output : value.output = some view.output
  receipt : value.receipt = some view.receipt
  expected : view.receipt = r.expectedReceipt digests.bytes view.output value.outputMediaType

theorem releasedFrom (hinv : Inv digests t) {jobId attemptId : Scalar} {view : ResultView}
    (h : Releases digests t jobId attemptId view) :
    ∃ id o value r, ReleasedFrom digests t view id o value r := by
  obtain ⟨key, r, success, hget, hstate, hsuccess, hvalid, hview, -, -⟩ := h
  have hjob := hinv.jobs key r hget
  obtain ⟨id, o, value, hreports⟩ := hjob.success hstate
  have hvalue := hreports.kept
  rw [hsuccess] at hvalue
  cases hvalue
  obtain ⟨output, receipt, houtput, hreceipt, hexpected⟩ := JobRecord.validSuccess_eq_true hvalid
  unfold JobRecord.resultView at hview
  rw [houtput, hreceipt] at hview
  cases hview
  have hkey := hjob.own
  unfold LaunchRequest.key at hkey
  have hseen := hreports.seen
  rw [hkey] at hget hseen
  exact ⟨id, o, success, r, hget, hreports.own, hseen, hreports.confirms, hreports.reported, houtput,
    hreceipt, hexpected⟩

/-- **The laws of the launcher**, after a sequence of calls that leads to `s`. -/
structure LauncherLaws (digests : Digests) (s : Service) : Prop where
  /-- A launch for each job, idempotency key and execution at most. -/
  launches : s.launches.Pairwise Launch.Differs
  /-- A released output is that of an observation of the very execution. -/
  released : ∀ e jobId attemptId view t, result digests jobId attemptId e s = (.done view, t) →
    ∃ id o value r, ReleasedFrom digests t view id o value r
  /-- Once a view is terminal, every later view of the job is the same in state and failure, -/
  stable : ∀ call e view t, perform digests call e s = (.done (.job view), t) →
    view.state.terminal = true → ∀ labels u, Steps (CallStep digests) labels t u →
    ∀ call' e' view' u', perform digests call' e' u = (.done (.job view'), u') →
      view'.jobId = view.jobId → view'.attemptId = view.attemptId →
        view'.state = view.state ∧ view'.failureCode = view.failureCode
  /-- and `result` answers the same. -/
  answers : ∀ call e view t, perform digests call e s = (.done (.job view), t) →
    view.state.terminal = true → ∀ labels u, Steps (CallStep digests) labels t u → ∀ e₁ e₂,
      (result digests (.str view.jobId) (.str view.attemptId) e₂ u).1 =
        (result digests (.str view.jobId) (.str view.attemptId) e₁ t).1

theorem perform_inv {answer : Answer} (hinv : Inv digests s)
    (h : perform digests call e s = (.done answer, t)) :
    Inv digests t ∧ ∀ view, answer = .job view → Shows t view := by
  obtain ⟨heffect, hshows⟩ := (perform_spec hinv.kept call).done h
  exact ⟨heffect.inv hinv, hshows⟩

/-- A view shows the record under its own key. -/
theorem Shows.job (hinv : Inv digests t) {view : JobView} (h : Shows t view) :
    ∃ r, t.jobs.get? (view.jobId, view.attemptId) = some r ∧ view = r.view := by
  obtain ⟨key, r, hget, rfl⟩ := h
  have hkey := (hinv.jobs key r hget).own
  rw [hkey] at hget
  exact ⟨r, hget, rfl⟩

theorem Inv.laws (hinv : Inv digests s) (hinj : Function.Injective digests.request) :
    LauncherLaws digests s := by
  refine ⟨hinv.launches_differ hinj, ?_, ?_, ?_⟩
  · intro e jobId attemptId view t h
    obtain ⟨heffect, hreleases⟩ := (result_spec hinv.kept jobId attemptId).done h
    exact releasedFrom (heffect.inv hinv) hreleases
  · intro call e view t h hterminal labels u hsteps call' e' view' u' h' hjob hattempt
    obtain ⟨htinv, hshows⟩ := perform_inv hinv h
    obtain ⟨r, hget, rfl⟩ := (hshows view rfl).job htinv
    have huinv := steps_inv hsteps htinv
    have huget := steps_terminal hsteps htinv hget hterminal
    obtain ⟨heffect, hshows'⟩ := (perform_spec huinv.kept call').done h'
    have hu'get := heffect.terminal huget hterminal
    obtain ⟨r', hget', rfl⟩ := (hshows' view' rfl).job (heffect.inv huinv)
    rw [hjob, hattempt, hu'get] at hget'
    cases hget'
    exact ⟨rfl, rfl⟩
  · intro call e view t h hterminal labels u hsteps e₁ e₂
    obtain ⟨htinv, hshows⟩ := perform_inv hinv h
    obtain ⟨r, hget, rfl⟩ := (hshows view rfl).job htinv
    have huget := steps_terminal hsteps htinv hget hterminal
    exact result_of_terminal huget hget hterminal (htinv.kept _ _ hget)

def sampleDigest (digit : Char) : String := String.ofList (List.replicate 64 digit)

def sampleProfile : ProviderProfile where
  providerProfileId := "profile-1"
  providerProfileDigestSha256 := sampleDigest 'a'
  providerId := "provider-1"
  allowedModels := ["model-1"]
  executorKind := .docker
  imageDigestSha256 := sampleDigest 'b'
  resourcePolicyId := "resources-1"
  resourcePolicyDigestSha256 := sampleDigest 'c'
  networkPolicyId := "network-1"
  networkPolicyDigestSha256 := sampleDigest 'd'
  maxOutputBytes := 1024
  outputMediaType := "text/plain"

def sampleRequest : LaunchRequest where
  schemaVersion := "codeagent-launcher.experimental-v0"
  jobId := "job-1"
  attemptId := "attempt-1"
  idempotencyKey := "key-1"
  providerProfileId := "profile-1"
  providerId := "provider-1"
  model := "model-1"
  taskDigestSha256 := sampleDigest '0'
  inputDigestSha256 := sampleDigest '1'
  promptDigestSha256 := sampleDigest '2'
  resourcePolicyId := "resources-1"
  networkPolicyId := "network-1"

/-- The request, as a caller fills it. -/
def LaunchRequest.raw (r : LaunchRequest) : RawRequest :=
  ⟨.str r.schemaVersion, .str r.jobId, .str r.attemptId, .str r.idempotencyKey,
    .str r.providerProfileId, .str r.providerId, .str r.model, .str r.taskDigestSha256,
    .str r.inputDigestSha256, .str r.promptDigestSha256, .str r.resourcePolicyId,
    .str r.networkPolicyId⟩

/-- The JSON text of a request. -/
def LaunchRequest.text (r : LaunchRequest) : List Char :=
  Json.chars (.arr [.str r.schemaVersion, .str r.jobId, .str r.attemptId, .str r.idempotencyKey,
    .str r.providerProfileId, .str r.providerId, .str r.model, .str r.taskDigestSha256,
    .str r.inputDigestSha256, .str r.promptDigestSha256, .str r.resourcePolicyId,
    .str r.networkPolicyId])

/-- The real digests of the sample, and a text that is no digest for everything else. -/
def sampleDigests : Digests where
  bytes output :=
    if output = [104, 105] then "8f434346648f6b96df89dda901c5176b10a6d83961dd3c1ac88b59b2dc327aa4"
    else ""
  request r :=
    if r = sampleRequest then "8c8aceff51b42cc35f0186be78b515c8b450e407671901fbf8ebebbd1050ec92"
    else String.ofList ('r' :: r.text)

/-- The service before the first call. -/
def sampleStart : Service :=
  ⟨Dict.empty.set "profile-1" sampleProfile, [.docker], Dict.empty, Dict.empty, [], []⟩

def sampleId : String := "vibapp-8c8aceff51b42cc35f0186be78b515c8b450e407671901fbf8ebebbd1050ec92"

/-- An observation of the sample's execution. -/
def sampleObservation (state : BackendState) (success : Reported) : BackendObservation :=
  ⟨.str sampleId, some state, some true, some true, success⟩

/-- An executor that launches the sample, and answers with an observation. -/
def sampleExecutor (observation : BackendObservation) : Executor :=
  ⟨.launched (.str sampleId), .observed observation, .observed observation⟩

/-- The receipt of the sample. -/
def sampleReceipt : SuccessReceipt :=
  (newRecord sampleRequest sampleProfile (sampleDigests.request sampleRequest)).expectedReceipt
    sampleDigests.bytes [104, 105] (.str "text/plain")

def sampleSuccess : Reported := .success ⟨some [104, 105], .str "text/plain", some sampleReceipt⟩

/-- The submission of the sample. -/
def sampleSubmit : Call × Executor :=
  (.submit sampleRequest.raw, sampleExecutor (sampleObservation .running .none))

/-- The record of the sample while it runs. -/
def sampleRunning : JobRecord where
  request := sampleRequest
  requestDigestSha256 := "8c8aceff51b42cc35f0186be78b515c8b450e407671901fbf8ebebbd1050ec92"
  profile := sampleProfile
  state := .running
  backendExecutionId := some sampleId
  failureCode := none
  success := none
  events :=
    [(1, .queued, .jobQueued), (2, .starting, .executorStarting), (3, .running, .backendRunning)]
  nextEventSequence := 4
  pendingTerminal := none

/-- The service after the submission. -/
def sampleLaunched : Service := { sampleStart with
  jobs := Dict.empty.set ("job-1", "attempt-1") sampleRunning
  idempotency := Dict.empty.set "key-1" (sampleRunning.requestDigestSha256, ("job-1", "attempt-1"))
  launches := [⟨("job-1", "attempt-1"), "key-1", sampleId⟩] }

theorem sampleSubmit_step : CallStep sampleDigests sampleSubmit sampleStart sampleLaunched := by
  unfold CallStep
  decide +kernel

def sampleStatus (observation : BackendObservation) : Call × Executor :=
  (.status (.str "job-1") (.str "attempt-1"), sampleExecutor observation)

/-- The service after the success of the sample is seen. -/
def sampleFinished : Service :=
  (perform sampleDigests (sampleStatus (sampleObservation .succeeded sampleSuccess)).1
    (sampleStatus (sampleObservation .succeeded sampleSuccess)).2 sampleLaunched).2

end Vibapp.Launcher
