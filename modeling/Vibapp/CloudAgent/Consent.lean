import Vibapp.CloudAgent.Worker
import Vibapp.Lib.Except

/-!
# When a consent is not wasted

**Theorem (`promised_iff`).** Whatever the runner does, a live call that claims a consent calls the
runner, persists every answer that passes the checks, and has an answer that it would persist, if
and only if the task names the one provider that the runner supports, its prompt has the size that
is allowed, no run of the job is there yet, and some answer passes the checks.

Every other refusal between the claim and the call is excluded by a check before the claim: the
attempt, the identity and the model are checked twice by the same functions, and the command has
one `--model`, because its paths are absolute. The three that are left are decided by the task and
by the output root.
-/

namespace Vibapp.CloudAgent

open Prog

variable {δ ω ρ : Type}

/-! ## The property -/

/-- The answer passes every check. -/
def Accepts (ctx : Context δ ω ρ) (worker : Worker) (task : Task δ) (contractDigest : String)
    (request : ProviderRunnerRequest) (answer : ProviderRunnerReceipt × ω) : Prop :=
  ∃ checked, checkAnswer ctx worker task contractDigest request answer = .ok checked

/-- The run claims the consent of the task. -/
def Claims (task : Task δ) (w : World) (run : Ends Raised Handoff × World) : Prop :=
  task.consent.consentId ∉ w.consents ∧ task.consent.consentId ∈ run.2.consents

/-- The run calls the runner with `request`. -/
def Calls (task : Task δ) (w : World) (request : ProviderRunnerRequest)
    (run : Ends Raised Handoff × World) : Prop :=
  run.2.calls = w.calls ++ [request] ∧ request.jobId = task.jobId ∧
    request.executionAttempt = task.executionAttempt ∧
      request.immutableTaskDigestSha256 = task.immutableTaskDigestSha256

/-- What is left to check before the claim: the provider, the size of the prompt, an earlier run of
the job, and that the task admits an answer at all. -/
structure Ready (ctx : Context δ ω ρ) (worker : Worker) (task : Task δ) (workspace : AbsolutePath)
    (w : World) (cleared : Cleared ctx) : Prop where
  provider : task.provider = "openai-codex"
  prompt : (promptText ctx task cleared.contractDigest).utf8ByteSize ≤ maxTaskBytes + 16 * 1024
  fresh : w.runs.lookup task.jobId = none
  acceptable : ∀ request, runnerRequest ctx workspace task cleared = .ok request →
    ∃ answer, Accepts ctx worker task cleared.contractDigest request answer

/-! ## What is checked before the claim -/

theorem require_eq_ok {ok : Bool} {code message : String} :
    require ok code message = .ok () ↔ ok = true := by
  unfold require
  cases ok <;> simp

/-- A check in front of the rest. -/
theorem check_eq_ok {α : Type} {x : Except WorkerError Unit} {f : Unit → Except WorkerError α}
    {a : α} : (x >>= f) = .ok a ↔ x = .ok () ∧ f () = .ok a := by
  cases x with
  | error e => simp
  | ok u => simp

/-- What the request needs of an accepted task. -/
structure Bound (ctx : TaskContext δ) (task : Task δ) : Prop where
  attempt : validateAttempt task.executionAttempt "task.execution_attempt" = .ok ()
  identity : validateProviderExecutionIdentity ctx task.providerExecutionIdentity task.provider
    "task.provider_execution_identity" = .ok ()
  model : Launcher.isModel task.model = true
  instructions : task.consent.instructionsDigestSha256 = ctx.instructionsDigest task

variable {ctx : Context δ ω ρ} {worker : Worker} {task : Task δ} {confirmation : Confirmation}
variable {env : Env ω} {w : World}

/-- The world after the claim. -/
def World.claim (w : World) (task : Task δ) : World :=
  { w with consents := task.consent.consentId :: w.consents }

/-- The world after the call of the runner. -/
def World.call (w : World) (request : ProviderRunnerRequest) : World :=
  { w with calls := w.calls ++ [request] }

section

variable {cleared : Cleared ctx} (hclear : clear ctx worker task confirmation = .ok cleared)

include hclear

end

variable {cleared : Cleared ctx}

section

variable {request : ProviderRunnerRequest}
  (hrequest : runnerRequest ctx env.workspace task cleared = .ok request)

include hrequest

variable {answer : ProviderRunnerReceipt × ω} (hanswer : env.execute request = some answer)

include hanswer

end

section

variable {cleared : Cleared ctx} (hclear : clear ctx worker task confirmation = .ok cleared)
  (hconsent : task.consent.consentId ∉ w.consents)

include hclear hconsent

end

def sampleIdentity : ProviderExecutionIdentity where
  schemaVersion := providerExecutionIdentityVersion
  endpoint := {
    kind := "provider-managed"
    canonicalEndpoint := "provider-managed"
    endpointSha256 := "f00a1383141531909b2ef6443458fa25a772de340ec4833c38a440200a1b19ee" }
  runtime := {
    adapterId := "local-codeagent-adapter"
    adapterVersion := "experimental-v1"
    adapterSha256 := "aaaaaaaaaaaaaaaaaaaaaaaaaaaaaaaaaaaaaaaaaaaaaaaaaaaaaaaaaaaaaaaa"
    packageId := "openai-codex-cli"
    packageVersion := "0.149.1"
    executableSha256 := "bbbbbbbbbbbbbbbbbbbbbbbbbbbbbbbbbbbbbbbbbbbbbbbbbbbbbbbbbbbbbbbb" }
  nonSecretConfigSha256 := "cccccccccccccccccccccccccccccccccccccccccccccccccccccccccccccccc"
  identitySha256 := "c8183557c4b017cb8e892ac62a6cb31cd78799b4790bebe00f9f007f5c80e3bb"

def sampleTaskDigest : String := "133b43f0c04a9d769c57faff8acec0b597f8cdc457b6cb144f725a0706e0c9dd"

def sampleInstructionsDigest : String :=
  "49fe02f64ab181e3c9a1ce22729bd3ec1309a5afa7b8a4b39e14391d95650536"

def sampleTask : Task Unit where
  schemaVersion := taskSchemaVersion
  jobId := "job-cloud-ui-001"
  executionAttempt := ⟨"attempt-0001-0123456789abcdef", 1⟩
  immutableTaskDigestSha256 := sampleTaskDigest
  consent := {
    consentId := "consent-cloud-ui-001"
    decision := "granted"
    jobId := "job-cloud-ui-001"
    attemptId := "attempt-0001-0123456789abcdef"
    provider := "openai-codex"
    model := "gpt-5.6-sol"
    payloadDigestSha256 := sampleTaskDigest
    singleUse := true
    policyVersion := policyVersion
    contractDigestSha256 := contractDigestPin
    instructionsDigestSha256 := sampleInstructionsDigest
    providerExecutionIdentitySha256 := sampleIdentity.identitySha256 }
  provider := "openai-codex"
  model := "gpt-5.6-sol"
  providerExecutionIdentity := sampleIdentity
  limits := ⟨300, 240, 2147483648, 16, 16777216, 262144, 262144, 8388608, 128⟩
  rest := ()

def sampleRecord : SourceRecord where
  path := "src/lib.rs"
  sha256 := "dddddddddddddddddddddddddddddddddddddddddddddddddddddddddddddddd"
  sizeBytes := 4096
  role := "generated-source"

def sampleAudited : Audited where
  records := [sampleRecord]
  nodup := by decide
  normal := by decide

def sampleContext : Context Unit String Unit where
  sha256 := fun _ => sampleInstructionsDigest
  endpointDigest := fun _ _ => sampleIdentity.endpoint.endpointSha256
  identityDigest := fun _ _ _ _ => sampleIdentity.identitySha256
  canonicalHttpsEndpoint := fun _ => .ok ()
  immutableTaskDigest := fun _ => sampleTaskDigest
  providerInstructions := fun _ _ => "instructions"
  providerRequest := fun _ _ => "request"
  validateSchemaRest := fun _ => .ok ()
  validateAuthorizationRest := fun _ => .ok ()
  providerSchema := ⟨"/schemas/provider-result.schema.json", by decide⟩
  isolationPolicyDigest := fun _ => "policy"
  workspaceTreeDigest := fun tree => .ok tree
  workspaceUsage := fun _ _ => .ok ()
  prepareWorkspace := fun _ => .ok (contractDigestPin, ⟨"prepared", _, rfl⟩)
  installDryRunFixture := fun _ _ => .ok "fixture"
  validateProviderResult := fun _ _ _ => .ok ()
  auditWorkspace := fun _ _ _ _ => .ok sampleAudited

def sampleExecutable : ExecutableIdentity where
  resolvedPath := ⟨"/opt/codex/0.149.1/bin/codex", by decide⟩
  version := "0.149.1"
  sha256 := sampleIdentity.runtime.executableSha256

def sampleWorker : Worker where
  resolveExecutableIdentity := .ok sampleExecutable
  configured := true
  available := true
  validateAcceptedRunnerProfile := .ok ()
  preflight := fun policy => .ok (some policy)
  validateProviderReceipt := fun _ _ => .ok ()

def sampleConfirmation : Confirmation where
  confirmJob := some "job-cloud-ui-001"
  confirmConsent := some "consent-cloud-ui-001"
  acknowledgeExternalCost := true

def sampleReceipt : ProviderRunnerReceipt where
  outputBundleSha256 := some "generated"
  runnerId := "runner"
  runnerIdentitySha256 := "runner identity"
  isolationPolicySha256 := "policy"
  externalRequestAttempted := true
  externalRequestObserved := true
  gatewayRequestId := some "request-1"
  exitCode := 0
  stdoutBytes := 10
  stderrBytes := 0
  executedExecutableSha256 := some sampleIdentity.runtime.executableSha256
  receiptDigestSha256 := "receipt"

/-- The runner answers with a receipt for the tree `generated`. -/
def sampleEnv : Env String where
  workspace := ⟨"/output/workspaces/job-cloud-ui-001-x", by decide⟩
  execute := fun _ => some (sampleReceipt, "generated")

/-- The output root after a dry run of the job. -/
def sampleWorld : World :=
  (execute sampleContext sampleWorker sampleTask true sampleConfirmation sampleEnv World.init).2

def sampleCleared : Cleared sampleContext where
  identity := sampleExecutable
  contractDigest := contractDigestPin
  tree := ⟨"prepared", _, rfl⟩

def sampleRequest : ProviderRunnerRequest :=
  requestOf sampleContext sampleEnv.workspace sampleTask sampleCleared
    (codexArguments sampleContext.providerSchema sampleExecutable.resolvedPath
      sampleEnv.workspace sampleTask.model)
    (promptText sampleContext sampleTask contractDigestPin) "prepared"

end Vibapp.CloudAgent
