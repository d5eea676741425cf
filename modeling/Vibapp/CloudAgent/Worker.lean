import Mathlib.Data.List.Basic
import Vibapp.CloudAgent.Task
import Vibapp.Lib.Fault

/-!
# The cloud agent's worker

`CloudAgentWorker.execute`, over the output root that earlier calls have left: the consents that are
claimed and the runs that are there. The calls are without I/O faults, and the workspace of a call,
which is removed at its end, is a value of the call.

**The runner.** What `provider_runner.execute` does with a request is a value of the environment.
The checks of its answer that look into a signature or a source tree are parameters; the order of
all checks and what happens between them is that of the source.
-/

namespace Vibapp.CloudAgent

open Prog

/-! ## Values -/

/-- An absolute path, as `Path.resolve` gives it. -/
structure AbsolutePath where
  text : String
  absolute : text.toList.head? = some '/'
deriving DecidableEq

/-- `resolve_executable_identity`, as far as it is read. -/
structure ExecutableIdentity where
  resolvedPath : AbsolutePath
  version : String
  sha256 : String
deriving DecidableEq

/-- `required_isolation_policy`: the values that depend on the task. The others are constants. -/
structure IsolationPolicy where
  schemaVersion : String
  cpuSeconds : Nat
  rssBytes : Nat
  pids : Nat
  diskBytes : Nat
deriving DecidableEq, Repr

structure ProviderRunnerRequest where
  schemaVersion : String
  documentType : String
  jobId : String
  executionAttempt : Attempt
  immutableTaskDigestSha256 : String
  providerExecutionIdentity : ProviderExecutionIdentity
  providerExecutionIdentitySha256 : String
  provider : String
  model : String
  executableIdentity : ExecutableIdentity
  command : List String
  prompt : String
  workspace : AbsolutePath
  limits : Limits
  isolationPolicy : IsolationPolicy
  isolationPolicySha256 : String
  inputBundleSha256 : String
deriving DecidableEq

/-- `ProviderRunnerReceipt`: what `execute` reads of it. -/
structure ProviderRunnerReceipt where
  outputBundleSha256 : Option String
  runnerId : String
  runnerIdentitySha256 : String
  isolationPolicySha256 : String
  externalRequestAttempted : Bool
  externalRequestObserved : Bool
  gatewayRequestId : Option String
  exitCode : Nat
  stdoutBytes : Nat
  stderrBytes : Nat
  executedExecutableSha256 : Option String
  receiptDigestSha256 : String
deriving DecidableEq, Repr

structure ProviderExecution where
  mode : String
  adapter : String
  providerId : String
  externalRequestAttempted : Bool
  externalRequestObserved : Bool
  gatewayRequestId : Option String
  executableSha256 : Option String
  isolationPolicyVersion : Option String
  runnerId : Option String
  runnerIdentitySha256 : Option String
  isolationPolicySha256 : Option String
  receiptDigestSha256 : Option String
deriving DecidableEq, Repr

/-- The pure part of `normalized_source_path`. -/
def isSourcePath (path : String) : Bool :=
  let chars := path.toList
  let segments := chars.splitOn '/'
  1 ≤ chars.length && chars.length ≤ 240 &&
    segments.all fun segment =>
      segment ≠ ['.'] && segment ≠ ['.', '.'] &&
        Launcher.isToken (fun c => Launcher.isAlnum c || c = '.' || c = '_' || c = '-') 127 segment

structure SourceRecord where
  path : String
  sha256 : String
  sizeBytes : Nat
  role : String
deriving DecidableEq, Repr

/-- What `audit_workspace` returns: every path is normal, and none comes twice. -/
structure Audited where
  records : List SourceRecord
  nodup : (records.map SourceRecord.path).Nodup
  normal : ∀ record ∈ records, isSourcePath record.path = true

/-- `handoff.json`, as far as it is not copied from the task. -/
structure Handoff where
  jobId : String
  files : List SourceRecord
  providerExecution : ProviderExecution
deriving DecidableEq, Repr

/-! ## What a call uses -/

/-- The functions on workspaces, and the checks that look into them. -/
structure Context (δ ω ρ : Type) extends TaskContext δ where
  providerSchema : AbsolutePath
  isolationPolicyDigest : IsolationPolicy → String
  workspaceTreeDigest : ω → Except WorkerError String
  workspaceUsage : ω → Limits → Except WorkerError Unit
  /-- `prepare_workspace`: the digest of the contract and the tree, all regular files. -/
  prepareWorkspace : Task δ →
    Except WorkerError (String × { tree : ω // ∃ digest, workspaceTreeDigest tree = .ok digest })
  installDryRunFixture : ω → Task δ → Except WorkerError ω
  /-- `load_json` and `validate_provider_result`. -/
  validateProviderResult : ω → Nat → Task δ → Except WorkerError ρ
  auditWorkspace : ω → Task δ → ρ → String → Except WorkerError Audited

/-- A worker as it is configured. -/
structure Worker where
  /-- `resolve_executable_identity` of the pinned executable. -/
  resolveExecutableIdentity : Except WorkerError ExecutableIdentity
  /-- Neither `accepted_runner` nor `signature_verifier` is `None`. -/
  configured : Bool
  /-- The type of the runner is not `UnavailableProviderRunner`. -/
  available : Bool
  validateAcceptedRunnerProfile : Except WorkerError Unit
  /-- `preflight` of the runner; `none` is an answer that is no policy. -/
  preflight : IsolationPolicy → Except WorkerError (Option IsolationPolicy)
  validateProviderReceipt : ProviderRunnerRequest → ProviderRunnerReceipt →
    Except WorkerError Unit

/-- The arguments of a live call. -/
structure Confirmation where
  confirmJob : Option String
  confirmConsent : Option String
  acknowledgeExternalCost : Bool
deriving DecidableEq, Repr

/-- An exception of the worker or of the runner. -/
inductive Raised
  | worker (error : WorkerError)
  | runner
deriving DecidableEq, Repr

/-- What is outside a call: the name of its workspace, and what the runner does. -/
structure Env (ω : Type) where
  workspace : AbsolutePath
  execute : ProviderRunnerRequest → Option (ProviderRunnerReceipt × ω)

/-- The output root, and the requests that the runner was given. -/
structure World where
  consents : List String
  runs : List (String × Handoff)
  calls : List ProviderRunnerRequest
deriving DecidableEq

def World.init : World where
  consents := []
  runs := []
  calls := []

/-! ## Before the claim -/

variable {δ ω ρ : Type}

def requiredIsolationPolicy (task : Task δ) : IsolationPolicy where
  schemaVersion := isolationPolicyVersion
  cpuSeconds := task.limits.cpuSeconds
  rssBytes := task.limits.memoryBytes
  pids := task.limits.pids
  diskBytes := task.limits.workspaceBytes

def validateResolvedProviderIdentity (task : Task δ) (identity : ExecutableIdentity) :
    Except WorkerError Unit :=
  let runtime := task.providerExecutionIdentity.runtime
  require (runtime.executableSha256 = identity.sha256 && runtime.packageVersion = identity.version)
    "provider-identity-mismatch"
    ("resolved provider executable bytes/version differ from the consent-bound execution " ++
      "identity")

def validateRunnerAttestation (attestation : Option IsolationPolicy) (required : IsolationPolicy) :
    Except WorkerError Unit :=
  require (attestation = some required) "external-isolation-unavailable"
    "provider runner did not attest the complete required isolation policy"

/-- The checks of a live call, up to the workspace. -/
def validateLive (worker : Worker) (task : Task δ) (confirmation : Confirmation) :
    Except WorkerError ExecutableIdentity := do
  require (confirmation.confirmJob = some task.jobId) "external-opt-in-required"
    "--confirm-job must exactly match job_id"
  require (confirmation.confirmConsent = some task.consent.consentId) "external-opt-in-required"
    "--confirm-consent must exactly match consent_id"
  require confirmation.acknowledgeExternalCost "external-opt-in-required"
    "--acknowledge-external-cost is required"
  let identity ← worker.resolveExecutableIdentity
  let policy := requiredIsolationPolicy task
  require (worker.configured || worker.available) "external-isolation-unavailable"
    "live mode requires an independently accepted one-job VM/container provider runner"
  require worker.configured "runner-attestation-unavailable"
    "live mode requires an independently accepted runner identity and receipt verifier"
  worker.validateAcceptedRunnerProfile
  let attestation ← worker.preflight policy
  validateRunnerAttestation attestation policy
  validateResolvedProviderIdentity task identity
  pure identity

/-- What a live call has before it claims the consent. -/
structure Cleared (ctx : Context δ ω ρ) where
  identity : ExecutableIdentity
  contractDigest : String
  tree : { tree : ω // ∃ digest, ctx.workspaceTreeDigest tree = .ok digest }

/-- A live call up to the claim. -/
def clear (ctx : Context δ ω ρ) (worker : Worker) (task : Task δ) (confirmation : Confirmation) :
    Except WorkerError (Cleared ctx) := do
  validateTaskFile ctx.toTaskContext task
  let identity ← validateLive worker task confirmation
  let prepared ← ctx.prepareWorkspace task
  pure { identity, contractDigest := prepared.1, tree := prepared.2 }

/-! ## The request -/

/-- The text of the prompt. -/
def promptText (ctx : Context δ ω ρ) (task : Task δ) (contractDigest : String) : String :=
  ctx.providerInstructions task.provider task ++
    "\nThe exact consent-bound provider_request is:\n" ++
    ctx.providerRequest task contractDigest ++ "\n"

/-- `create_prompt`. -/
def createPrompt (ctx : Context δ ω ρ) (task : Task δ) (contractDigest : String) :
    Except WorkerError String := do
  require (ctx.instructionsDigest task = task.consent.instructionsDigestSha256) "consent-required"
    "authoring prompt differs from consent"
  let prompt := promptText ctx task contractDigest
  require (prompt.utf8ByteSize ≤ maxTaskBytes + 16 * 1024) "resource-limit"
    "provider prompt is unexpectedly large"
  pure prompt

/-- The list of `codex_command`. -/
def codexArguments (providerSchema codexBin workspace : AbsolutePath) (model : String) :
    List String :=
  [codexBin.text, "exec", "--model", model, "--ephemeral", "-s", "workspace-write", "-C",
    workspace.text, "--skip-git-repo-check", "--ignore-user-config", "--ignore-rules",
    "--output-schema", providerSchema.text, "--json", "-o",
    workspace.text ++ "/provider-last-message.json", "-"]

/-- `codex_command`. -/
def codexCommand (providerSchema codexBin workspace : AbsolutePath) (model : String) :
    Except WorkerError (List String) := do
  validateModel model "task.model"
  pure (codexArguments providerSchema codexBin workspace model)

/-- `validate_runner_request_model`. -/
def validateRunnerRequestModel (ctx : TaskContext δ) (request : ProviderRunnerRequest) :
    Except WorkerError Unit := do
  require (request.schemaVersion = runnerRequestVersion &&
      request.documentType = "provider-runner-request")
    "runner-request-invalid" "provider runner request schema/document type is unsupported"
  validateAttempt request.executionAttempt "provider_runner_request.execution_attempt"
  sha256Value request.providerExecutionIdentitySha256
    "provider_runner_request.provider_execution_identity_sha256"
  validateProviderExecutionIdentity ctx request.providerExecutionIdentity request.provider
    "provider_runner_request.provider_execution_identity"
  require (request.providerExecutionIdentity.identitySha256 =
      request.providerExecutionIdentitySha256)
    "provider-identity-mismatch"
    "provider runner request identity payload differs from its bound digest"
  validateModel request.model "provider_runner_request.model"
  require (request.provider = "openai-codex") "provider-mismatch"
    "cloud provider runner supports only openai-codex"
  let positions :=
    (List.range request.command.length).filter fun i => request.command[i]? = some "--model"
  require (positions.length = 1 && positions.all fun i => i + 1 < request.command.length)
    "model-mismatch" "provider command must contain exactly one explicit --model"
  require (positions.all fun i => request.command[i + 1]? = some request.model) "model-mismatch"
    "provider command model differs from the authorized runner request"

/-- The request of a live call, with its computed parts. -/
def requestOf (ctx : Context δ ω ρ) (workspace : AbsolutePath) (task : Task δ)
    (cleared : Cleared ctx) (command : List String) (prompt inputBundleSha256 : String) :
    ProviderRunnerRequest where
  schemaVersion := runnerRequestVersion
  documentType := "provider-runner-request"
  jobId := task.jobId
  executionAttempt := task.executionAttempt
  immutableTaskDigestSha256 := task.immutableTaskDigestSha256
  providerExecutionIdentity := task.providerExecutionIdentity
  providerExecutionIdentitySha256 := task.providerExecutionIdentity.identitySha256
  provider := task.provider
  model := task.model
  executableIdentity := cleared.identity
  command := command
  prompt := prompt
  workspace := workspace
  limits := task.limits
  isolationPolicy := requiredIsolationPolicy task
  isolationPolicySha256 := ctx.isolationPolicyDigest (requiredIsolationPolicy task)
  inputBundleSha256 := inputBundleSha256

/-- What `execute` does between the claim and the call. -/
def runnerRequest (ctx : Context δ ω ρ) (workspace : AbsolutePath) (task : Task δ)
    (cleared : Cleared ctx) : Except WorkerError ProviderRunnerRequest := do
  let command ← codexCommand ctx.providerSchema cleared.identity.resolvedPath workspace task.model
  let prompt ← createPrompt ctx task cleared.contractDigest
  let inputBundleSha256 ← ctx.workspaceTreeDigest cleared.tree
  let request := requestOf ctx workspace task cleared command prompt inputBundleSha256
  validateRunnerRequestModel ctx.toTaskContext request
  pure request

/-! ## The answer -/

/-- An error after the provider was reached. -/
def observedError (code message : String) (receipt : ProviderRunnerReceipt) : WorkerError where
  code := code
  message := message
  externalRequestAttempted := true
  externalRequestObserved := true
  gatewayRequestId := receipt.gatewayRequestId

/-- The checks of the receipt and of the workspace it is about. -/
def checkReceipt (ctx : Context δ ω ρ) (worker : Worker) (task : Task δ)
    (request : ProviderRunnerRequest) (receipt : ProviderRunnerReceipt) (tree : ω) :
    Except WorkerError ProviderExecution := do
  worker.validateProviderReceipt request receipt
  if !receipt.externalRequestAttempted then
    .error { code := "provider-failed",
             message := "provider runner returned without attempting the request" }
  if !receipt.externalRequestObserved || receipt.gatewayRequestId.all (· = "") then
    .error { code := "provider-egress-unobserved",
             message := "provider execution lacks trusted gateway egress observation",
             externalRequestAttempted := true }
  if receipt.executedExecutableSha256 ≠ some request.executableIdentity.sha256 then
    .error (observedError "executable-identity-invalid"
      "provider runner did not attest execution of the reviewed executable digest" receipt)
  if receipt.exitCode ≠ 0 then
    .error (observedError "provider-failed"
      ("isolated provider runner exited nonzero (" ++ toString receipt.exitCode ++ ")") receipt)
  if task.limits.stdoutBytes < receipt.stdoutBytes || task.limits.stderrBytes < receipt.stderrBytes
  then
    .error (observedError "provider-output-limit"
      "isolated runner receipt reports an output limit violation" receipt)
  ctx.workspaceUsage tree task.limits
  let digest ← ctx.workspaceTreeDigest tree
  if receipt.outputBundleSha256 ≠ some digest then
    .error (observedError "integrity-failure"
      "provider runner output bundle digest does not match the quiescent staging workspace"
      receipt)
  pure {
    mode := "live-explicit-opt-in"
    adapter := "external-isolated-provider-runner"
    providerId := "codex"
    externalRequestAttempted := true
    externalRequestObserved := true
    gatewayRequestId := receipt.gatewayRequestId
    executableSha256 := some request.executableIdentity.sha256
    isolationPolicyVersion := some isolationPolicyVersion
    runnerId := some receipt.runnerId
    runnerIdentitySha256 := some receipt.runnerIdentitySha256
    isolationPolicySha256 := some receipt.isolationPolicySha256
    receiptDigestSha256 := some receipt.receiptDigestSha256 }

def maxProviderResultBytes : Nat := 256 * 1024

/-- The checks of the provider's result and of its source. -/
def checkSource (ctx : Context δ ω ρ) (task : Task δ) (contractDigest : String) (tree : ω) :
    Except WorkerError Audited := do
  let result ← ctx.validateProviderResult tree (min maxProviderResultBytes task.limits.stdoutBytes)
    task
  ctx.auditWorkspace tree task result contractDigest

/-- Every check of an answer of the runner. -/
def checkAnswer (ctx : Context δ ω ρ) (worker : Worker) (task : Task δ) (contractDigest : String)
    (request : ProviderRunnerRequest) (answer : ProviderRunnerReceipt × ω) :
    Except WorkerError (ProviderExecution × Audited) := do
  let execution ← checkReceipt ctx worker task request answer.1 answer.2
  let audited ← checkSource ctx task contractDigest answer.2
  pure (execution, audited)

/-! ## Calls -/

/-- A program of the worker. -/
abbrev Run (ω α : Type) : Type := Prog (Env ω) World Raised α

def lift {α : Type} : Except WorkerError α → Run ω α
  | .ok a => pure a
  | .error e => raise (.worker e)

/-- `claim_consent`. -/
def claimConsent (task : Task δ) : Run ω Unit := do
  if ← read fun _ w => w.consents.contains task.consent.consentId then
    raise (.worker {
      code := "consent-replayed"
      message := "single-use remote-processing consent was already consumed" })
  else
    modify fun w => { w with consents := task.consent.consentId :: w.consents }

/-- `provider_runner.execute`. -/
def callRunner (request : ProviderRunnerRequest) : Run ω (ProviderRunnerReceipt × ω) := do
  modify fun w => { w with calls := w.calls ++ [request] }
  match ← read fun env _ => env.execute request with
  | some answer => pure answer
  | none => raise .runner

/-- The loop of `persist_handoff` over the records. -/
def validateRecords (records : List SourceRecord) : Except WorkerError Unit :=
  records.forM fun record =>
    require (isSourcePath record.path) "provider-schema-invalid"
      "handoff file path contains an invalid source-path segment"

/-- `persist_handoff`. -/
def persistHandoff (task : Task δ) (audited : Audited) (providerExecution : ProviderExecution) :
    Run ω Handoff := do
  if ← read fun _ w => (w.runs.lookup task.jobId).isSome then
    raise (.worker { code := "conflict", message := "a run already exists for this job_id" })
  else
    lift (validateRecords audited.records)
    let handoff : Handoff := {
      jobId := task.jobId
      files := audited.records
      providerExecution := providerExecution }
    modify fun w => { w with runs := (task.jobId, handoff) :: w.runs }
    pure handoff

/-- The provider execution of a dry run. -/
def dryRunExecution : ProviderExecution where
  mode := "dry-run-fixture"
  adapter := "local-static-fixture"
  providerId := "static-fixture"
  externalRequestAttempted := false
  externalRequestObserved := false
  gatewayRequestId := none
  executableSha256 := none
  isolationPolicyVersion := none
  runnerId := none
  runnerIdentitySha256 := none
  isolationPolicySha256 := none
  receiptDigestSha256 := none

/-- `execute` with `dry_run`. -/
def executeDryRun (ctx : Context δ ω ρ) (task : Task δ) : Run ω Handoff := do
  lift (validateTaskFile ctx.toTaskContext task)
  let prepared ← lift (ctx.prepareWorkspace task)
  let tree ← lift (ctx.installDryRunFixture prepared.2 task)
  let audited ← lift (checkSource ctx task prepared.1 tree)
  persistHandoff task audited dryRunExecution

/-- A live call after the claim. -/
def executeClaimed (ctx : Context δ ω ρ) (worker : Worker) (task : Task δ)
    (cleared : Cleared ctx) : Run ω Handoff := do
  let workspace ← read fun env _ => env.workspace
  let request ← lift (runnerRequest ctx workspace task cleared)
  let answer ← callRunner request
  let checked ← lift (checkAnswer ctx worker task cleared.contractDigest request answer)
  persistHandoff task checked.2 checked.1

/-- `execute` without `dry_run`. -/
def executeLive (ctx : Context δ ω ρ) (worker : Worker) (task : Task δ)
    (confirmation : Confirmation) : Run ω Handoff := do
  let cleared ← lift (clear ctx worker task confirmation)
  claimConsent task
  executeClaimed ctx worker task cleared

/-- `execute`. -/
def execute (ctx : Context δ ω ρ) (worker : Worker) (task : Task δ) (dryRun : Bool)
    (confirmation : Confirmation) : Run ω Handoff :=
  if dryRun then executeDryRun ctx task else executeLive ctx worker task confirmation

end Vibapp.CloudAgent
