import Mathlib.Data.List.Basic
import Vibapp.Lib.Except

/-!
# The contract of the launcher

The values that cross the boundary of `codeagent_launcher.py`: requests, provider profiles, and what
an executor reports. A request or a report is made by somebody else, so a field of it may hold
anything (`Scalar`).
-/

namespace Vibapp.Launcher

/-! ## Errors -/

inductive Error
  /-- `ContractError`. -/
  | contract (code : String)
  /-- `ConflictError`. -/
  | conflict (code : String)
  /-- `NotFoundError`. -/
  | notFound (code : String)
  /-- `ResultUnavailableError`. -/
  | resultUnavailable (code : String)
  /-- `ExecutorUnavailable`. -/
  | executorUnavailable (code : String)
  /-- An exception of the executor, or one that Python raises by itself. -/
  | executor
deriving DecidableEq, Repr

/-! ## Constants -/

def schemaVersion : String := "codeagent-launcher.experimental-v0"
def receiptSchemaVersion : String := "codeagent-launcher-receipt.experimental-v0"
def maxModelLength : Nat := 256
def maxBackendExecutionIdLength : Nat := 256
def maxMediaTypeLength : Nat := 128
def maxAbsoluteOutputBytes : Nat := 4 * 1024 * 1024
def maxEventsPerJob : Nat := 32

inductive ExecutorKind
  | docker
  | kubernetes
deriving DecidableEq, Repr

inductive BackendState
  | running
  | succeeded
  | failed
  | cancelled
deriving DecidableEq, Repr

inductive LauncherState
  | queued
  | starting
  | running
  | cancelRequested
  | cleanupPending
  | succeeded
  | failed
  | cancelled
  | held
deriving DecidableEq, Repr

/-- `LauncherState.value`. -/
def LauncherState.value : LauncherState → String
  | queued => "queued"
  | starting => "starting"
  | running => "running"
  | cancelRequested => "cancel-requested"
  | cleanupPending => "cleanup-pending"
  | succeeded => "succeeded"
  | failed => "failed"
  | cancelled => "cancelled"
  | held => "held"

/-- `TERMINAL_STATES`. -/
def LauncherState.terminal : LauncherState → Bool
  | succeeded | failed | cancelled | held => true
  | queued | starting | running | cancelRequested | cleanupPending => false

inductive EventPhase
  | queued
  | starting
  | running
  | quiescing
  | terminal
deriving DecidableEq, Repr

inductive EventCode
  | jobQueued
  | executorStarting
  | backendRunning
  | cancelRequested
  | cleanupPending
  | jobSucceeded
  | jobFailed
  | jobCancelled
  | jobHeld
deriving DecidableEq, Repr

/-! ## Scalars -/

/-- A field that somebody else has filled: a string, or something else. -/
inductive Scalar
  | str (text : String)
  | other
deriving DecidableEq, Repr

def requireString (value : Scalar) (field : String) : Except Error String :=
  match value with
  | .str text => .ok text
  | .other => .error (.contract (field ++ ":expected-string"))

/-- Refuse a text for which a check fails. -/
def require (check : String → Bool) (code : String) (value : Scalar) (field : String) :
    Except Error String := do
  let text ← requireString value field
  if check text then return text else .error (.contract code)

def isAlnum (c : Char) : Bool := c.isAlphanum

/-- `^[A-Za-z0-9][…]{0,n}$`: one letter or digit, and at most `n` more characters. -/
def isToken (more : Char → Bool) (n : Nat) : List Char → Bool
  | [] => false
  | c :: rest => isAlnum c && rest.length ≤ n && rest.all more

/-- `_ID_PATTERN`. -/
def isId (text : String) : Bool :=
  isToken (fun c => isAlnum c || c = '.' || c = '_' || c = ':' || c = '-') 127 text.toList

def requireId (value : Scalar) (field : String) : Except Error String :=
  require isId (field ++ ":invalid-id") value field

/-- `str.isspace` of a character. -/
def isSpace (c : Char) : Bool :=
  (9 ≤ c.toNat && c.toNat ≤ 13) || (28 ≤ c.toNat && c.toNat ≤ 32) || c.toNat = 0x85 ||
    c.toNat = 0xA0 || c.toNat = 0x1680 || (0x2000 ≤ c.toNat && c.toNat ≤ 0x200A) ||
    c.toNat = 0x2028 || c.toNat = 0x2029 || c.toNat = 0x202F || c.toNat = 0x205F || c.toNat = 0x3000

/-- `text.strip() != text`. -/
def hasOuterSpace (text : List Char) : Bool :=
  text.head?.any isSpace || text.getLast?.any isSpace

/-- The check of `_require_model`. -/
def isModel (text : String) : Bool :=
  1 ≤ text.length && text.length ≤ maxModelLength && !hasOuterSpace text.toList &&
    text.toList.head? != some '-' && text.toList.all fun c => 0x20 ≤ c.toNat && c.toNat ≠ 0x7F

def requireModel (value : Scalar) : Except Error String :=
  require isModel "model:invalid-model-id" value "model"

/-- `_DIGEST_PATTERN`. -/
def isDigest (text : String) : Bool :=
  text.length = 64 && text.toList.all fun c => c.isDigit || ('a' ≤ c && c ≤ 'f')

def requireDigest (value : Scalar) (field : String) : Except Error String :=
  require isDigest (field ++ ":invalid-sha256") value field

/-- The check of `_require_backend_execution_id`. -/
def isBackendExecutionId (text : String) : Bool :=
  text ≠ "" && text.length ≤ maxBackendExecutionIdLength &&
    text.toList.all fun c => 0x21 ≤ c.toNat && c.toNat ≤ 0x7E

def requireBackendExecutionId (value : Scalar) : Except Error String :=
  require isBackendExecutionId "backend_execution_id:invalid" value "backend_execution_id"

def isMediaChar (c : Char) : Bool := isAlnum c || "!#$&^_.+-".toList.contains c

/-- `_MEDIA_TYPE_PATTERN`. -/
def isMediaType (text : String) : Bool :=
  text.length ≤ maxMediaTypeLength &&
    match text.toList.splitOn '/' with
    | [kind, subtype] => isToken isMediaChar 63 kind && isToken isMediaChar 63 subtype
    | _ => false

def requireMediaType (value : Scalar) : Except Error String :=
  require isMediaType "output_media_type:invalid" value "output_media_type"

/-! ## Requests -/

/-- The fields of a request, as the caller has filled them. -/
structure RawRequest where
  schemaVersion : Scalar
  jobId : Scalar
  attemptId : Scalar
  idempotencyKey : Scalar
  providerProfileId : Scalar
  providerId : Scalar
  model : Scalar
  taskDigestSha256 : Scalar
  inputDigestSha256 : Scalar
  promptDigestSha256 : Scalar
  resourcePolicyId : Scalar
  networkPolicyId : Scalar
deriving DecidableEq, Repr

structure LaunchRequest where
  schemaVersion : String
  jobId : String
  attemptId : String
  idempotencyKey : String
  providerProfileId : String
  providerId : String
  model : String
  taskDigestSha256 : String
  inputDigestSha256 : String
  promptDigestSha256 : String
  resourcePolicyId : String
  networkPolicyId : String
deriving DecidableEq, Repr

/-- `LaunchRequest.from_mapping`, of `asdict`. -/
def LaunchRequest.fromMapping (value : RawRequest) : Except Error LaunchRequest := do
  let schemaVersion ← requireString value.schemaVersion "schema_version"
  if schemaVersion ≠ Launcher.schemaVersion then
    throw (.contract "schema_version:unsupported")
  let jobId ← requireId value.jobId "job_id"
  let attemptId ← requireId value.attemptId "attempt_id"
  let idempotencyKey ← requireId value.idempotencyKey "idempotency_key"
  let providerProfileId ← requireId value.providerProfileId "provider_profile_id"
  let providerId ← requireId value.providerId "provider_id"
  let model ← requireModel value.model
  let taskDigestSha256 ← requireDigest value.taskDigestSha256 "task_digest_sha256"
  let inputDigestSha256 ← requireDigest value.inputDigestSha256 "input_digest_sha256"
  let promptDigestSha256 ← requireDigest value.promptDigestSha256 "prompt_digest_sha256"
  let resourcePolicyId ← requireId value.resourcePolicyId "resource_policy_id"
  let networkPolicyId ← requireId value.networkPolicyId "network_policy_id"
  return ⟨schemaVersion, jobId, attemptId, idempotencyKey, providerProfileId, providerId, model,
    taskDigestSha256, inputDigestSha256, promptDigestSha256, resourcePolicyId, networkPolicyId⟩

/-! ## Profiles -/

structure ProviderProfile where
  providerProfileId : String
  providerProfileDigestSha256 : String
  providerId : String
  allowedModels : List String
  executorKind : ExecutorKind
  imageDigestSha256 : String
  resourcePolicyId : String
  resourcePolicyDigestSha256 : String
  networkPolicyId : String
  networkPolicyDigestSha256 : String
  maxOutputBytes : Nat
  outputMediaType : String
deriving DecidableEq, Repr

/-- `ProviderProfile.validate`. -/
def ProviderProfile.validate (p : ProviderProfile) : Except Error Unit := do
  let _ ← requireId (.str p.providerProfileId) "provider_profile_id"
  let _ ← requireDigest (.str p.providerProfileDigestSha256) "provider_profile_digest_sha256"
  let _ ← requireId (.str p.providerId) "provider_id"
  if p.allowedModels.isEmpty then throw (.contract "allowed_models:empty")
  let _ ← p.allowedModels.mapM fun model => requireModel (.str model)
  let _ ← requireDigest (.str p.imageDigestSha256) "image_digest_sha256"
  let _ ← requireId (.str p.resourcePolicyId) "resource_policy_id"
  let _ ← requireDigest (.str p.resourcePolicyDigestSha256) "resource_policy_digest_sha256"
  let _ ← requireId (.str p.networkPolicyId) "network_policy_id"
  let _ ← requireDigest (.str p.networkPolicyDigestSha256) "network_policy_digest_sha256"
  if p.maxOutputBytes < 1 ∨ maxAbsoluteOutputBytes < p.maxOutputBytes then
    throw (.contract "max_output_bytes:out-of-range")
  let _ ← requireMediaType (.str p.outputMediaType)
  return ()

/-! ## What an executor reports -/

/-- `SuccessReceipt`. A kind, a flag or a size is there only if it has its type. -/
structure SuccessReceipt where
  schemaVersion : Scalar
  jobId : Scalar
  attemptId : Scalar
  idempotencyKey : Scalar
  requestDigestSha256 : Scalar
  backendExecutionId : Scalar
  executorKind : Option ExecutorKind
  providerProfileId : Scalar
  providerProfileDigestSha256 : Scalar
  providerId : Scalar
  model : Scalar
  imageDigestSha256 : Scalar
  resourcePolicyId : Scalar
  resourcePolicyDigestSha256 : Scalar
  networkPolicyId : Scalar
  networkPolicyDigestSha256 : Scalar
  taskDigestSha256 : Scalar
  inputDigestSha256 : Scalar
  promptDigestSha256 : Scalar
  outputDigestSha256 : Scalar
  outputMediaType : Scalar
  outputSizeBytes : Option Int
  cleanupConfirmed : Option Bool
  wholeJobQuiescent : Option Bool
deriving DecidableEq, Repr

/-- `BackendSuccess`. The output is there if it is `bytes`, the receipt if it is a
`SuccessReceipt`. -/
structure BackendSuccess where
  output : Option (List UInt8)
  outputMediaType : Scalar
  receipt : Option SuccessReceipt
deriving DecidableEq, Repr

/-- `BackendObservation.success`: `None`, a `BackendSuccess`, or something else. -/
inductive Reported
  | none
  | success (value : BackendSuccess)
  | other
deriving DecidableEq, Repr

/-- `BackendObservation`. A state or a flag is there only if it has its type. -/
structure BackendObservation where
  backendExecutionId : Scalar
  state : Option BackendState
  cleanupConfirmed : Option Bool
  wholeJobQuiescent : Option Bool
  success : Reported
deriving DecidableEq, Repr

/-- How `executor.launch` ends. -/
inductive LaunchReply
  | launched (backendExecutionId : Scalar)
  /-- It raises `ExecutorUnavailable`. -/
  | unavailable
  /-- It raises another exception. -/
  | raised
  /-- It raises an exception that is no `Exception`. -/
  | interrupted
deriving DecidableEq, Repr

/-- How `executor.status` and `executor.cancel` end. -/
inductive ObserveReply
  | observed (observation : BackendObservation)
  | raised
deriving DecidableEq, Repr

/-- What the executor does in the next call. -/
structure Executor where
  launch : LaunchReply
  status : ObserveReply
  cancel : ObserveReply

end Vibapp.Launcher
