import Vibapp.Launcher.Contract
import Vibapp.Lib.Dict
import Vibapp.Lib.Fault

/-!
# The launcher's service

`LauncherService`: jobs in memory, and one executor of each kind behind them. The lock is held from
the start of a call to its end, so calls follow one another. What an executor does in a call is a
value of the environment, and what it was asked and has answered is logged.
-/

namespace Vibapp.Launcher

open Prog

/-! ## Jobs -/

/-- `_JobRecord`. The number of an event is in `nextEventSequence` before it is added. -/
structure JobRecord where
  request : LaunchRequest
  requestDigestSha256 : String
  profile : ProviderProfile
  state : LauncherState
  backendExecutionId : Option String
  failureCode : Option String
  success : Option BackendSuccess
  events : List (Nat × EventPhase × EventCode)
  nextEventSequence : Nat
  pendingTerminal : Option BackendState
deriving DecidableEq, Repr

namespace JobRecord

/-- `_append_event`. -/
def appendEvent (record : JobRecord) (phase : EventPhase) (code : EventCode) : JobRecord :=
  if maxEventsPerJob ≤ record.events.length then
    { record with
      state := .cleanupPending, failureCode := some "event-budget-exhausted", success := none }
  else if record.events.getLast?.map Prod.snd = some (phase, code) then record
  else { record with
    events := record.events ++ [(record.nextEventSequence, phase, code)]
    nextEventSequence := record.nextEventSequence + 1 }

/-- `_hold`. -/
def hold (record : JobRecord) (failureCode : String) : JobRecord :=
  ({ record with state := .held, failureCode := some failureCode, success := none } :
    JobRecord).appendEvent .terminal .jobHeld

/-- `_quiescence_pending`. -/
def quiescencePending (record : JobRecord) (failureCode : String)
    (pendingTerminal : Option BackendState) : JobRecord :=
  ({ record with
    state := .cleanupPending, failureCode := some failureCode, success := none,
    pendingTerminal := pendingTerminal } : JobRecord).appendEvent .quiescing .cleanupPending

/-- The part of `cancel` before it asks the executor. -/
def requestCancel (record : JobRecord) : JobRecord :=
  ({ record with state := .cancelRequested } : JobRecord).appendEvent .quiescing .cancelRequested

/-- The receipt that `_valid_success` expects for an output. -/
def expectedReceipt (sha256 : List UInt8 → String) (record : JobRecord) (output : List UInt8)
    (mediaType : Scalar) : SuccessReceipt where
  schemaVersion := .str receiptSchemaVersion
  jobId := .str record.request.jobId
  attemptId := .str record.request.attemptId
  idempotencyKey := .str record.request.idempotencyKey
  requestDigestSha256 := .str record.requestDigestSha256
  backendExecutionId := record.backendExecutionId.elim .other .str
  executorKind := some record.profile.executorKind
  providerProfileId := .str record.profile.providerProfileId
  providerProfileDigestSha256 := .str record.profile.providerProfileDigestSha256
  providerId := .str record.request.providerId
  model := .str record.request.model
  imageDigestSha256 := .str record.profile.imageDigestSha256
  resourcePolicyId := .str record.profile.resourcePolicyId
  resourcePolicyDigestSha256 := .str record.profile.resourcePolicyDigestSha256
  networkPolicyId := .str record.profile.networkPolicyId
  networkPolicyDigestSha256 := .str record.profile.networkPolicyDigestSha256
  taskDigestSha256 := .str record.request.taskDigestSha256
  inputDigestSha256 := .str record.request.inputDigestSha256
  promptDigestSha256 := .str record.request.promptDigestSha256
  outputDigestSha256 := .str (sha256 output)
  outputMediaType := mediaType
  outputSizeBytes := some output.length
  cleanupConfirmed := some true
  wholeJobQuiescent := some true

/-- `_valid_success`. -/
def validSuccess (sha256 : List UInt8 → String) (record : JobRecord) (success : BackendSuccess) :
    Bool :=
  match success.output with
  | none => false
  | some output =>
    if record.profile.maxOutputBytes < output.length then false
    else if success.outputMediaType ≠ .str record.profile.outputMediaType then false
    else
      match success.receipt with
      | none => false
      | some receipt =>
        if receipt.executorKind = none then false
        else if receipt.cleanupConfirmed ≠ some true then false
        else if receipt.wholeJobQuiescent ≠ some true then false
        else if receipt.outputSizeBytes = none then false
        else receipt = record.expectedReceipt sha256 output success.outputMediaType

/-- A terminal observation whose cleanup is confirmed: the end of `_apply_observation`. -/
def finish (sha256 : List UInt8 → String) (record : JobRecord) (state : BackendState)
    (success : Reported) : Ends Error Unit × JobRecord :=
  let record := record.appendEvent .quiescing .cleanupPending
  match state with
  | .succeeded =>
    match success with
    | .none => (.done (), record.hold "invalid-terminal-receipt")
    | .other => (.raised .executor, record)
    | .success value =>
      if record.validSuccess sha256 value then
        (.done (), ({ record with
          success := some value, failureCode := none, pendingTerminal := none,
          state := .succeeded } : JobRecord).appendEvent .terminal .jobSucceeded)
      else (.done (), record.hold "invalid-terminal-receipt")
  | state =>
    if success ≠ .none then (.done (), record.hold "invalid-backend-observation")
    else
      let record : JobRecord := { record with success := none, pendingTerminal := none }
      match state with
      | .failed => (.done (), ({ record with
          failureCode := some "backend-failed", state := .failed } : JobRecord).appendEvent
            .terminal .jobFailed)
      | .cancelled => (.done (), ({ record with failureCode := none, state := .cancelled } :
          JobRecord).appendEvent .terminal .jobCancelled)
      | _ => (.done (), record.hold "invalid-backend-observation")

/-- `RUNNING` in `_apply_observation`. -/
def observeRunning (record : JobRecord) (success : Reported) : JobRecord :=
  if success ≠ .none then record.quiescencePending "invalid-backend-observation" none
  else if record.pendingTerminal ≠ none then
    record.quiescencePending "invalid-state-regression" record.pendingTerminal
  else if record.state ≠ .cancelRequested then
    ({ record with state := .running, failureCode := none } : JobRecord).appendEvent .running
      .backendRunning
  else record

/-- `_apply_observation`. -/
def applyObservation (sha256 : List UInt8 → String) (record : JobRecord)
    (observation : BackendObservation) : Ends Error Unit × JobRecord :=
  match requireBackendExecutionId observation.backendExecutionId with
  | .error _ => (.done (), record.quiescencePending "invalid-backend-observation" none)
  | .ok observed =>
    if some observed ≠ record.backendExecutionId then
      (.done (), record.quiescencePending "backend-execution-id-mismatch" none)
    else
      match observation.state with
      | none => (.done (), record.quiescencePending "invalid-backend-observation" none)
      | some .running => (.done (), record.observeRunning observation.success)
      | some state =>
        match observation.cleanupConfirmed, observation.wholeJobQuiescent with
        | some cleanup, some quiescent =>
          if cleanup && quiescent then record.finish sha256 state observation.success
          else (.done (), record.quiescencePending "cleanup-not-confirmed" (some state))
        | _, _ => (.done (), record.quiescencePending "invalid-backend-observation" none)

end JobRecord

/-! ## Views -/

/-- `_job_view`. -/
structure JobView where
  jobId : String
  attemptId : String
  requestDigestSha256 : String
  providerProfileId : String
  executorKind : ExecutorKind
  backendExecutionId : Option String
  state : LauncherState
  failureCode : Option String
deriving DecidableEq, Repr

def JobRecord.view (record : JobRecord) : JobView where
  jobId := record.request.jobId
  attemptId := record.request.attemptId
  requestDigestSha256 := record.requestDigestSha256
  providerProfileId := record.profile.providerProfileId
  executorKind := record.profile.executorKind
  backendExecutionId := record.backendExecutionId
  state := record.state
  failureCode := record.failureCode

/-- `_result_view`. -/
structure ResultView where
  jobId : String
  attemptId : String
  backendExecutionId : Option String
  outputMediaType : Scalar
  output : List UInt8
  outputSha256 : String
  receipt : SuccessReceipt
deriving DecidableEq, Repr

/-- `_result_view`, of a success with an output and a receipt. -/
def JobRecord.resultView (sha256 : List UInt8 → String) (record : JobRecord)
    (success : BackendSuccess) : Option ResultView := do
  let output ← success.output
  let receipt ← success.receipt
  return ⟨record.request.jobId, record.request.attemptId, record.backendExecutionId,
    success.outputMediaType, output, sha256 output, receipt⟩

/-! ## The service -/

/-- The job and the attempt. -/
abbrev JobKey := String × String

/-- A call of `executor.launch`. -/
structure Launch where
  key : JobKey
  idempotencyKey : String
  backendExecutionId : String
deriving DecidableEq, Repr

/-- `LauncherService`, and what its executors were asked to launch and have reported about a job, the
last one first. -/
structure Service where
  profiles : Dict String ProviderProfile
  executors : List ExecutorKind
  jobs : Dict JobKey JobRecord
  idempotency : Dict String (String × JobKey)
  launches : List Launch
  observations : List (JobKey × BackendObservation)
deriving DecidableEq

abbrev Run (α : Type) := Prog Executor Service Error α

/-- `hashlib.sha256(…).hexdigest()` of bytes, and of the canonical JSON of a request. -/
structure Digests where
  bytes : List UInt8 → String
  request : LaunchRequest → String

variable (digests : Digests)

def getJobs : Run (Dict JobKey JobRecord) := read fun _ s => s.jobs

/-- Write a record back. -/
def putJob (key : JobKey) (record : JobRecord) : Run Unit :=
  modify fun s => { s with jobs := s.jobs.set key record }

/-- `_allocate_backend_execution_id`. -/
def allocateBackendExecutionId (requestDigestSha256 : String) : String :=
  "vibapp-" ++ requestDigestSha256

/-- `_validate_request_against_profile`. -/
def validateRequestAgainstProfile (request : LaunchRequest) (profile : ProviderProfile) :
    Except Error Unit := do
  if request.providerId ≠ profile.providerId then throw (.contract "provider_id:profile-mismatch")
  if request.model ∉ profile.allowedModels then throw (.contract "model:profile-mismatch")
  if request.resourcePolicyId ≠ profile.resourcePolicyId then
    throw (.contract "resource_policy_id:profile-mismatch")
  if request.networkPolicyId ≠ profile.networkPolicyId then
    throw (.contract "network_policy_id:profile-mismatch")

/-- A check that raises. -/
def check {α : Type} : Except Error α → Run α
  | .ok a => pure a
  | .error e => raise e

/-- `executor.launch`. -/
def callLaunch (launch : Launch) : Run LaunchReply := do
  modify fun s => { s with launches := launch :: s.launches }
  read fun executor _ => executor.launch

/-- `executor.status` or `executor.cancel`. -/
def observe (key : JobKey) (reply : Executor → ObserveReply) : Run BackendObservation := do
  match ← read fun executor _ => reply executor with
  | .raised => raise .executor
  | .observed observation =>
    modify fun s => { s with observations := (key, observation) :: s.observations }
    return observation

/-- The record of a new job, with its first two events. -/
def newRecord (request : LaunchRequest) (profile : ProviderProfile) (requestDigest : String) :
    JobRecord :=
  let record : JobRecord := ⟨request, requestDigest, profile, .queued,
    some (allocateBackendExecutionId requestDigest), none, none, [], 1, none⟩
  ({ record.appendEvent .queued .jobQueued with state := .starting } : JobRecord).appendEvent
    .starting .executorStarting

/-- A job after `executor.launch` has ended. -/
def launched (record : JobRecord) : LaunchReply → Ends Error Unit × JobRecord
  | .launched confirmed =>
    match requireBackendExecutionId confirmed with
    | .error _ => (.done (), record.quiescencePending "launch-outcome-unknown" none)
    | .ok confirmed =>
      if some confirmed ≠ record.backendExecutionId then
        (.done (), record.quiescencePending "backend-execution-id-mismatch" none)
      else
        (.done (), ({ record with state := .running } : JobRecord).appendEvent .running
          .backendRunning)
  | .unavailable => (.done (), ({ record with
      state := .failed, failureCode := some "executor-unavailable" } : JobRecord).appendEvent
        .terminal .jobFailed)
  | .raised => (.done (), record.quiescencePending "launch-outcome-unknown" none)
  | .interrupted => (.raised .executor, record)

/-- The part of a call that changes a record: it is written back, also when it raises. -/
def store (key : JobKey) (outcome : Ends Error Unit × JobRecord) : Run JobRecord := do
  putJob key outcome.2
  match outcome.1 with
  | .done _ => return outcome.2
  | .raised e => raise e
  | .cut => stop

/-- The part of `submit` that makes a new job. -/
def launchJob (request : LaunchRequest) (requestDigest : String) (profile : ProviderProfile) :
    Run JobView := do
  let key : JobKey := (request.jobId, request.attemptId)
  let record := newRecord request profile requestDigest
  putJob key record
  modify fun s => { s with
    idempotency := s.idempotency.set request.idempotencyKey (requestDigest, key) }
  let execution := allocateBackendExecutionId requestDigest
  let reply ← callLaunch ⟨key, request.idempotencyKey, execution⟩
  return (← store key (launched record reply)).view

/-- `submit`. -/
def submit (value : RawRequest) : Run JobView := do
  let request ← check (LaunchRequest.fromMapping value)
  let requestDigest := digests.request request
  let key : JobKey := (request.jobId, request.attemptId)
  match ← read fun _ s => s.idempotency.get? request.idempotencyKey with
  | some (priorDigest, priorKey) =>
    if priorDigest ≠ requestDigest ∨ priorKey ≠ key then
      raise (.conflict "idempotency-key:payload-conflict")
    else
      match (← getJobs).get? priorKey with
      | some record => return record.view
      | none => raise .executor
  | none =>
    if (← getJobs).contains key then raise (.conflict "job-attempt:already-exists")
    else
      match ← read fun _ s => s.profiles.get? request.providerProfileId with
      | none => raise (.contract "provider_profile_id:unknown")
      | some profile =>
        check (validateRequestAgainstProfile request profile)
        if profile.executorKind ∈ (← read fun _ s => s.executors) then
          launchJob request requestDigest profile
        else raise (.executorUnavailable "executor-unavailable")

/-- `_get_job`. -/
def getJob (jobId attemptId : Scalar) : Run (JobKey × JobRecord) := do
  let jobId ← check (requireId jobId "job_id")
  let attemptId ← check (requireId attemptId "attempt_id")
  match (← getJobs).get? (jobId, attemptId) with
  | some record => return ((jobId, attemptId), record)
  | none => raise (.notFound "job-attempt:not-found")

/-- `self._executor(record).status(…)` or `….cancel(…)`, and `_apply_observation`. -/
def poll (key : JobKey) (record : JobRecord) (reply : Executor → ObserveReply) :
    Run JobRecord := do
  if record.profile.executorKind ∉ (← read fun _ s => s.executors) then
    raise (.executorUnavailable "executor-unavailable")
  else
    let observation ← observe key reply
    store key (record.applyObservation digests.bytes observation)

/-- `status`. -/
def status (jobId attemptId : Scalar) : Run JobView := do
  let (key, record) ← getJob jobId attemptId
  if record.state.terminal then return record.view
  else
    match record.backendExecutionId with
    | none =>
      let record := record.quiescencePending "missing-backend-execution-id" none
      return (← store key (.done (), record)).view
    | some _ => return (← poll digests key record Executor.status).view

/-- `cancel`. -/
def cancel (jobId attemptId : Scalar) : Run JobView := do
  let (key, record) ← getJob jobId attemptId
  if record.state.terminal then return record.view
  else
    let record := record.requestCancel
    putJob key record
    match record.backendExecutionId with
    | none =>
      let record := record.quiescencePending "missing-backend-execution-id" none
      return (← store key (.done (), record)).view
    | some _ => return (← poll digests key record Executor.cancel).view

/-- The end of `result`: the output is released, or not. -/
def releaseResult (key : JobKey) (record : JobRecord) : Run ResultView :=
  match record.state, record.success with
  | .succeeded, some success =>
    if record.validSuccess digests.bytes success then
      match record.resultView digests.bytes success with
      | some view => return view
      | none => raise .executor
    else do
      putJob key (record.hold "invalid-terminal-receipt")
      raise (.resultUnavailable "result-unavailable:held")
  | state, _ => raise (.resultUnavailable ("result-unavailable:" ++ state.value))

/-- `result`. -/
def result (jobId attemptId : Scalar) : Run ResultView := do
  let (key, record) ← getJob jobId attemptId
  if record.state.terminal then releaseResult digests key record
  else
    match record.backendExecutionId with
    | none => raise (.resultUnavailable "result-unavailable:missing-backend-execution-id")
    | some _ => releaseResult digests key (← poll digests key record Executor.status)

/-- `__init__`. -/
def init (profiles : List ProviderProfile) (executors : List ExecutorKind) :
    Except Error Service := do
  let table ← profiles.foldlM (fun (table : Dict String ProviderProfile) profile => do
    profile.validate
    if table.contains profile.providerProfileId then
      throw (.contract "profiles:duplicate-provider-profile-id")
    return table.set profile.providerProfileId profile) Dict.empty
  if ¬ executors.Nodup then throw (.contract "executors:duplicate-kind")
  return ⟨table, executors, Dict.empty, Dict.empty, [], []⟩

end Vibapp.Launcher
