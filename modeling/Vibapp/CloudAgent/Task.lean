import Mathlib.Logic.Basic
import Vibapp.Launcher.Contract

/-!
# Tasks of the cloud agent

A task as `validate_task_file` accepts it, and the checks on the fields that the worker reads again
later: the execution attempt, the provider execution identity, the model. What the worker only hands
on (the need, the package intent, the target) is one value, and the checks of it are parameters, as
are the digests of canonical JSON. The lexical classes are those of the launcher's contract.
-/

namespace Vibapp.CloudAgent

/-- `WorkerError`. -/
structure WorkerError where
  code : String
  message : String
  externalRequestAttempted : Bool := false
  externalRequestObserved : Bool := false
  gatewayRequestId : Option String := none
deriving DecidableEq, Repr

/-- Raise unless `ok`. -/
def require (ok : Bool) (code message : String) : Except WorkerError Unit :=
  if ok then .ok () else .error { code, message }

/-! ## Constants -/

def taskSchemaVersion : String := "vibapp.cloud-codeagent-task.experimental-v3"
def legacyTaskSchemaVersion : String := "vibapp.cloud-codeagent-task.experimental-v2"
def policyVersion : String := "vibapp.cloud-codeagent-policy.experimental-v7"
def contractDigestPin : String :=
  "ec94f06652886cf9eea0aba8afc028165b135b91103faccf62a2ccc6828d3c38"
def isolationPolicyVersion : String := "vibapp.provider-runner-isolation.experimental-v1"
def runnerRequestVersion : String := "vibapp.provider-runner-request.experimental-v2"
def providerExecutionIdentityVersion : String :=
  "vibapp.provider-execution-identity.experimental-v1"

def maxTaskBytes : Nat := 128 * 1024

def supportedTaskProviders : List String :=
  ["openai-codex", "anthropic-claude-code", "opencode", "google-gemini-cli"]

def providerManagedEndpointProviders : List String :=
  ["openai-codex", "anthropic-claude-code", "google-gemini-cli"]

/-! ## Tasks -/

structure Attempt where
  attemptId : String
  ordinal : Int
deriving DecidableEq, Repr

structure Endpoint where
  kind : String
  canonicalEndpoint : String
  endpointSha256 : String
deriving DecidableEq, Repr

structure Runtime where
  adapterId : String
  adapterVersion : String
  adapterSha256 : String
  packageId : String
  packageVersion : String
  executableSha256 : String
deriving DecidableEq, Repr

structure ProviderExecutionIdentity where
  schemaVersion : String
  endpoint : Endpoint
  runtime : Runtime
  nonSecretConfigSha256 : String
  identitySha256 : String
deriving DecidableEq, Repr

structure Consent where
  consentId : String
  decision : String
  jobId : String
  attemptId : String
  provider : String
  model : String
  payloadDigestSha256 : String
  singleUse : Bool
  policyVersion : String
  contractDigestSha256 : String
  instructionsDigestSha256 : String
  providerExecutionIdentitySha256 : String
deriving DecidableEq, Repr

structure Limits where
  wallTimeSeconds : Nat
  cpuSeconds : Nat
  memoryBytes : Nat
  pids : Nat
  workspaceBytes : Nat
  stdoutBytes : Nat
  stderrBytes : Nat
  sourceBytes : Nat
  sourceFiles : Nat
deriving DecidableEq, Repr

/-- A task; `rest` is what the worker does not look into. -/
structure Task (δ : Type) where
  schemaVersion : String
  jobId : String
  executionAttempt : Attempt
  immutableTaskDigestSha256 : String
  consent : Consent
  provider : String
  model : String
  providerExecutionIdentity : ProviderExecutionIdentity
  limits : Limits
  rest : δ
deriving DecidableEq, Repr

/-- What the checks of a task use and this model does not look into. -/
structure TaskContext (δ : Type) where
  /-- SHA-256 of the UTF-8 bytes of a text. -/
  sha256 : String → String
  /-- SHA-256 of the canonical JSON of `endpoint_body` and of `identity_body`. -/
  endpointDigest : String → String → String
  identityDigest : String → Endpoint → Runtime → String → String
  canonicalHttpsEndpoint : String → Except WorkerError Unit
  immutableTaskDigest : Task δ → String
  /-- `provider_instructions`, and the canonical JSON of `provider_request`. -/
  providerInstructions : String → Task δ → String
  providerRequest : Task δ → String → String
  /-- The checks of `validate_task_schema` and `validate_authorization` on everything else. -/
  validateSchemaRest : Task δ → Except WorkerError Unit
  validateAuthorizationRest : Task δ → Except WorkerError Unit

/-! ## Checks of fields -/

def identifier (value context : String) : Except WorkerError Unit :=
  require (Launcher.isId value) "schema-invalid" (context ++ " is not a bounded identifier")

def sha256Value (value context : String) : Except WorkerError Unit :=
  require (Launcher.isDigest value) "schema-invalid" (context ++ " is not lowercase SHA-256")

def validateModel (value context : String) : Except WorkerError Unit :=
  require (Launcher.isModel value) "model-invalid"
    (context ++ " is not a bounded CodeAgent model selection")

def isLowerHex (c : Char) : Bool := c.isDigit || ('a' ≤ c && c ≤ 'f')

/-- `ATTEMPT_IDENTIFIER`. -/
def isAttemptId (text : String) : Bool :=
  let chars := text.toList
  chars.length = 29 && chars.take 8 = "attempt-".toList && ((chars.drop 8).take 4).all Char.isDigit
    && chars[12]? = some '-' && (chars.drop 13).all isLowerHex

/-- `f"{ordinal:04}"`. -/
def fourDigits (ordinal : Int) : List Char :=
  let digits := (toString ordinal).toList
  List.replicate (4 - digits.length) '0' ++ digits

def validateAttempt (attempt : Attempt) (context : String) : Except WorkerError Unit := do
  require (isAttemptId attempt.attemptId) "schema-invalid"
    (context ++ ".attempt_id must match attempt-NNNN-<16 lowercase hex>")
  require (1 ≤ attempt.ordinal && attempt.ordinal ≤ 9999) "schema-invalid"
    (context ++ ".ordinal must be integer 1..9999")
  require ((attempt.attemptId.toList.drop 8).take 4 = fourDigits attempt.ordinal) "schema-invalid"
    (context ++ ".attempt_id prefix does not match ordinal")

variable {δ : Type}

def validateEndpointKind (ctx : TaskContext δ) (endpoint : Endpoint) (provider context : String) :
    Except WorkerError Unit :=
  if endpoint.kind = "https" then ctx.canonicalHttpsEndpoint endpoint.canonicalEndpoint
  else if endpoint.kind = "fixed-lan-http" then
    require (provider = "opencode" &&
        endpoint.canonicalEndpoint = "http://192.168.199.170:8081/v1/chat/completions")
      "schema-invalid"
      "fixed LAN identity is limited to OpenCode and the selected LocalAI endpoint"
  else if endpoint.kind = "provider-managed" then do
    require (endpoint.canonicalEndpoint = "provider-managed") "schema-invalid"
      (context ++ ".endpoint canonical value must be provider-managed")
    require (providerManagedEndpointProviders.contains provider) "schema-invalid"
      ("provider " ++ provider ++ " requires an explicit HTTPS endpoint identity")
  else .error { code := "schema-invalid", message := context ++ ".endpoint.kind is unsupported" }

/-- The check of a text of `runtime`. -/
def isRuntimeText (text : String) : Bool :=
  1 ≤ text.length && text.length ≤ 128 && !Launcher.hasOuterSpace text.toList &&
    text.toList.all fun c => 0x20 ≤ c.toNat && c.toNat ≠ 0x7F

def validateRuntimeText (text field context : String) : Except WorkerError Unit :=
  require (isRuntimeText text) "schema-invalid" (context ++ ".runtime." ++ field ++ " is invalid")

def validateProviderExecutionIdentity (ctx : TaskContext δ) (identity : ProviderExecutionIdentity)
    (provider context : String) : Except WorkerError Unit := do
  require (identity.schemaVersion = providerExecutionIdentityVersion) "schema-invalid"
    (context ++ ".schema_version is unsupported")
  validateEndpointKind ctx identity.endpoint provider context
  sha256Value identity.endpoint.endpointSha256 (context ++ ".endpoint.endpoint_sha256")
  require (identity.endpoint.endpointSha256 =
      ctx.endpointDigest identity.endpoint.kind identity.endpoint.canonicalEndpoint)
    "integrity-failure" "provider endpoint identity digest is invalid"
  validateRuntimeText identity.runtime.adapterId "adapter_id" context
  validateRuntimeText identity.runtime.adapterVersion "adapter_version" context
  validateRuntimeText identity.runtime.packageId "package_id" context
  validateRuntimeText identity.runtime.packageVersion "package_version" context
  sha256Value identity.runtime.adapterSha256 (context ++ ".runtime.adapter_sha256")
  sha256Value identity.runtime.executableSha256 (context ++ ".runtime.executable_sha256")
  sha256Value identity.nonSecretConfigSha256 (context ++ ".non_secret_config_sha256")
  sha256Value identity.identitySha256 (context ++ ".identity_sha256")
  require (identity.identitySha256 = ctx.identityDigest identity.schemaVersion identity.endpoint
      identity.runtime identity.nonSecretConfigSha256)
    "integrity-failure" "provider execution identity digest is invalid"

/-! ## Checks of a task -/

/-- `validate_task_schema`. The checks of the fields that are not modelled come last. -/
def validateTaskSchema (ctx : TaskContext δ) (task : Task δ) : Except WorkerError Unit := do
  identifier task.jobId "task.job_id"
  validateAttempt task.executionAttempt "task.execution_attempt"
  sha256Value task.immutableTaskDigestSha256 "task.immutable_task_digest_sha256"
  require (supportedTaskProviders.contains task.provider) "schema-invalid"
    "CodeAgent provider is unsupported"
  validateModel task.model "task.model"
  identifier task.consent.consentId "consent.consent_id"
  identifier task.consent.jobId "consent.job_id"
  require (supportedTaskProviders.contains task.consent.provider) "schema-invalid"
    "consent.provider is unsupported"
  validateModel task.consent.model "consent.model"
  validateProviderExecutionIdentity ctx task.providerExecutionIdentity task.provider
    "task.provider_execution_identity"
  ctx.validateSchemaRest task

/-- `provider_instructions_digest`. -/
def TaskContext.instructionsDigest (ctx : TaskContext δ) (task : Task δ) : String :=
  ctx.sha256 (ctx.providerInstructions task.provider task)

/-- `validate_authorization`, with the checks that are not modelled last. -/
def validateAuthorization (ctx : TaskContext δ) (task : Task δ) : Except WorkerError Unit := do
  require (task.schemaVersion ≠ legacyTaskSchemaVersion) "legacy-provider-identity-unbound"
    ("historical v2 task is schema-readable but cannot consume consent or execute because " ++
      "provider identity was not bound")
  require (task.schemaVersion = taskSchemaVersion) "schema-invalid"
    "unsupported cloud task schema_version"
  require (task.consent.decision = "granted" && task.consent.singleUse) "consent-required"
    "a granted single-use remote-processing consent is required"
  require (task.consent.jobId = task.jobId &&
      task.consent.attemptId = task.executionAttempt.attemptId &&
      task.consent.provider = task.provider && task.consent.model = task.model)
    "consent-required"
    "consent is not bound to this job, execution attempt, provider and model"
  let digest := ctx.immutableTaskDigest task
  require (task.immutableTaskDigestSha256 = digest && task.consent.payloadDigestSha256 = digest)
    "consent-required" "consent is not bound to the complete immutable provider request"
  require (task.consent.policyVersion = policyVersion) "consent-required"
    "consent policy version differs from the provider request"
  require (task.consent.contractDigestSha256 = contractDigestPin) "consent-required"
    "consent contract digest differs from the provider request"
  require (task.consent.instructionsDigestSha256 = ctx.instructionsDigest task) "consent-required"
    "consent instructions digest differs from the provider request"
  require (task.consent.providerExecutionIdentitySha256 =
      task.providerExecutionIdentity.identitySha256)
    "consent-required"
    "consent provider execution identity differs from the immutable provider request"
  ctx.validateAuthorizationRest task

/-- `validate_task_file`, after the file is read. -/
def validateTaskFile (ctx : TaskContext δ) (task : Task δ) : Except WorkerError Unit := do
  validateTaskSchema ctx task
  validateAuthorization ctx task

end Vibapp.CloudAgent
