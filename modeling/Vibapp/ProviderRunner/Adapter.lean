import Mathlib.Logic.Function.Basic
import Vibapp.Launcher.Contract
import Vibapp.Lib.Fault

/-!
# The provider runner's adapter

`CloudAgentProviderRunnerAdapter.execute`: one call of the runner under a single-use credential
handle, after which the output tree takes the place of the input tree. Every call of the adapter
that can raise is a `Step`, and the environment says which steps raise in a run; any number may.

**Trees.** The workspace, its backup and the returned output are three paths of one directory.
Their names differ, and the random tokens in two of them are taken to name nothing that is there
before the call. A rename is atomic; a removal that raises leaves what the environment says.
-/

namespace Vibapp.ProviderRunner

open Prog

/-! ## Requests -/

/-- `RunnerError`. -/
structure RunnerError where
  code : String
  message : String
deriving DecidableEq, Repr

/-- `request.limits`. -/
structure RequestLimits where
  wallTimeSeconds : Nat
  cpuSeconds : Nat
  memoryBytes : Nat
  pids : Nat
  workspaceBytes : Nat
  stdoutBytes : Nat
  stderrBytes : Nat
  sourceFiles : Nat
deriving DecidableEq, Repr

structure Limits where
  wallTimeSeconds : Nat
  cpuSeconds : Nat
  rssBytes : Nat
  pids : Nat
  diskBytes : Nat
  stdoutBytes : Nat
  stderrBytes : Nat
  outputFiles : Nat
deriving DecidableEq, Repr

/-- The limits that `execute` gives to the runner. -/
def RequestLimits.limits (limits : RequestLimits) : Limits where
  wallTimeSeconds := limits.wallTimeSeconds
  cpuSeconds := limits.cpuSeconds
  rssBytes := limits.memoryBytes
  pids := limits.pids
  diskBytes := limits.workspaceBytes
  stdoutBytes := limits.stdoutBytes
  stderrBytes := limits.stderrBytes
  outputFiles := min 512 (limits.sourceFiles + 32)

/-- A request. A `provider` or `model` that is not a text is `none`. -/
structure Request where
  provider : Option String
  model : Option String
  command : List String
  limits : RequestLimits
deriving DecidableEq, Repr

/-- `_validate_exact_model_binding`. -/
def validateExactModelBinding (request : Request) : Except RunnerError Unit :=
  let positions :=
    (List.range request.command.length).filter fun i => request.command[i]? = some "--model"
  if request.provider ≠ some "openai-codex" || !request.model.any Launcher.isModel then
    .error ⟨"model-binding-required", "runner request lacks an explicit authorized model"⟩
  else
    match positions with
    | [i] =>
      if request.command.length ≤ i + 1 then
        .error ⟨"model-mismatch", "runner command must carry exactly one explicit --model"⟩
      else if request.command[i + 1]? ≠ request.model then
        .error ⟨"model-mismatch", "runner command model differs from the authorized request"⟩
      else .ok ()
    | _ => .error ⟨"model-mismatch", "runner command must carry exactly one explicit --model"⟩

/-! ## Runs -/

/-- What `execute` does that can raise, in the order of its text; the steps from `validateClaim` to
`rehashSigned` are those of `execute_claimed`. -/
inductive Step
  | validateRequestEnvelope
  | preflight
  | resolveWorkspace
  | limits
  | begin
  | issueHandle
  | abandonClaim
  | validateClaim
  | validateHandle
  | rehashInput
  | backend
  | validateResult
  | gatewayReceipt
  | snapshot
  | rehashOutput
  | signReceipt
  | rehashSigned
  | replaceInput
  | replaceOutput
  | bundleDigest
  | backupExists
  | removeWorkspace
  | restoreInput
  | removeBackup
  | removeReturned
  | receiptFactory
  | closeConsumed
  | closeRevoked
  | removeLeftover
deriving DecidableEq, Repr

/-- The exception of a step, or one that `execute` raises by itself. -/
inductive Raised
  | step (step : Step)
  | runner (error : RunnerError)
deriving DecidableEq, Repr

/-- The paths of `parent` that `execute` works on. -/
inductive Place
  | workspace
  | backup
  | returned
deriving DecidableEq, Repr

/-- `ProviderReceiptV3`, as far as the adapter reads it. -/
structure Receipt where
  outputBundleSha256 : String
deriving DecidableEq, Repr

/-- What is outside the adapter in one run. -/
structure Env (τ η κ : Type) where
  /-- The steps that raise. -/
  fails : Step → Bool
  /-- The handle that the broker issues. -/
  handle : η
  /-- The receipt of `execute_claimed`. -/
  receipt : Receipt
  /-- The snapshot of the output, and what there is of it where the snapshot raises. -/
  output : Option τ
  unfinished : Option τ
  /-- What is left of a tree where its removal raises. -/
  remains : Step → τ → Option τ
  /-- `bundle_digest`, with the file and byte ceilings. -/
  bundleDigest : τ → Nat → Nat → Except RunnerError String
  /-- `receipt_factory`. -/
  receiptFactory : Receipt → κ

/-- The trees, whether the claim is one of `_active_claims`, the calls of the broker, and the two
flags of `execute`. -/
structure World (τ η : Type) where
  tree : Place → Option τ
  active : Bool
  issued : List η
  closed : List (η × String)
  transferComplete : Bool
  handleClosed : Bool

namespace World

variable {τ η : Type}

/-- Before the call: the input tree, and nothing else. -/
def start (input : τ) : World τ η where
  tree := fun
    | .workspace => some input
    | _ => none
  active := false
  issued := []
  closed := []
  transferComplete := false
  handleClosed := false

/-- The world with the tree `t` at `place`. -/
def set (w : World τ η) (place : Place) (t : Option τ) : World τ η :=
  { w with tree := Function.update w.tree place t }

end World

variable {τ η κ : Type}

/-- A program of the adapter. -/
abbrev Run (τ η κ α : Type) : Type := Prog (Env τ η κ) (World τ η) Raised α

/-- A step with no effect on the world, or whose effect follows. -/
def step (s : Step) : Run τ η κ Unit := do
  if ← read fun env _ => env.fails s then
    raise (.step s)

/-- `os.replace`, for directories: what is at the target stays there. -/
def replace (s : Step) (source target : Place) : Run τ η κ Unit := do
  step s
  let found ← read fun _ w => w.tree source
  if ← read fun _ w => (w.tree source).isNone || (w.tree target).isSome then
    raise (.step s)
  else
    modify fun w => (w.set source none).set target found

/-- `_remove_private_tree`. -/
def removePrivateTree (s : Step) (place : Place) : Run τ η κ Unit := do
  let remains ← read fun env w => (w.tree place).bind (env.remains s)
  if ← read fun env _ => env.fails s then
    modify fun w => w.set place remains
    raise (.step s)
  else
    modify fun w => w.set place none

def issueSingleUseHandle : Run τ η κ η := do
  step .issueHandle
  let handle ← read fun env _ => env.handle
  modify fun w => { w with issued := w.issued ++ [handle] }
  pure handle

/-- `close_single_use_handle`: the call is there also where it raises. -/
def closeSingleUseHandle (s : Step) (handle : η) (outcome : String) : Run τ η κ Unit := do
  modify fun w => { w with closed := w.closed ++ [(handle, outcome)] }
  step s

def begin : Run τ η κ Unit := do
  step .begin
  modify fun w => { w with active := true }

def abandonClaim : Run τ η κ Unit := do
  step .abandonClaim
  modify fun w => { w with active := false }

/-- The snapshot of the output directory at the returned path. -/
def snapshotOutput : Run τ η κ Unit := do
  if ← read fun env _ => env.fails .snapshot then
    let unfinished ← read fun env _ => env.unfinished
    modify fun w => w.set .returned unfinished
    raise (.step .snapshot)
  else
    let output ← read fun env _ => env.output
    modify fun w => w.set .returned output

/-- `execute_claimed`. -/
def executeClaimed : Run τ η κ Receipt := do
  let active ← read fun _ w => w.active
  modify fun w => { w with active := false }
  if !active then
    raise (.runner ⟨"claim-invalid", "claimed job is stale, forged, or already consumed"⟩)
  else
    step .validateClaim
    step .validateHandle
    step .rehashInput
    step .backend
    step .validateResult
    step .gatewayReceipt
    snapshotOutput
    step .rehashOutput
    step .signReceipt
    step .rehashSigned
    read fun env _ => env.receipt

/-- The check of the digest of the tree that is now in the workspace. -/
def checkTransferred (limits : Limits) (receipt : Receipt) : Run τ η κ Unit := do
  step .bundleDigest
  let transferred ← read fun env w =>
    (w.tree .workspace).map fun t => env.bundleDigest t limits.outputFiles limits.diskBytes
  match transferred with
  | some (.ok digest) =>
    if digest ≠ receipt.outputBundleSha256 then
      raise (.runner ⟨"bundle-mutated",
        "atomically transferred output differs from the signed immutable snapshot"⟩)
  | some (.error error) => raise (.runner error)
  | none => raise (.step .bundleDigest)

/-- The body of the inner `try` of `execute`: the output takes the place of the input. -/
def swap (limits : Limits) (receipt : Receipt) : Run τ η κ Unit := do
  replace .replaceInput .workspace .backup
  replace .replaceOutput .returned .workspace
  checkTransferred limits receipt
  modify fun w => { w with transferComplete := true }

/-- Its handler: the input comes back. -/
def putBack (error : Raised) : Run τ η κ Unit := do
  step .backupExists
  if ← read fun _ w => (w.tree .backup).isSome then
    removePrivateTree .removeWorkspace .workspace
    replace .restoreInput .backup .workspace
    raise error
  else
    raise error

/-- Its `finally`. -/
def cleanUp : Run τ η κ Unit := do
  if ← read fun _ w => w.transferComplete then
    removePrivateTree .removeBackup .backup
    removePrivateTree .removeReturned .returned
  else
    removePrivateTree .removeReturned .returned

/-- The inner `try` of `execute`. -/
def transfer (limits : Limits) (receipt : Receipt) : Run τ η κ Unit :=
  ensure (handle (swap limits receipt) putBack) cleanUp

/-- The outer `try` of `execute`. -/
def executeIssued (limits : Limits) (h : η) : Run τ η κ κ := do
  let receipt ← executeClaimed
  modify fun w => { w with transferComplete := false }
  transfer limits receipt
  step .receiptFactory
  let created ← read fun env _ => env.receiptFactory receipt
  modify fun w => { w with handleClosed := true }
  closeSingleUseHandle .closeConsumed h "success-consumed"
  pure created

/-- Close the handle of a failed job; whether the broker raised. -/
def closeRevoked (h : η) : Run τ η κ Bool := do
  if ← read fun _ w => !w.handleClosed then
    modify fun w => { w with handleClosed := true }
    handle
      (do
        closeSingleUseHandle .closeRevoked h "failed-revoke-or-consume"
        pure false)
      fun _ => pure true
  else
    pure false

/-- The outer handler of `execute`. -/
def closeFailed (h : η) (error : Raised) : Run τ η κ κ := do
  let closeError ← closeRevoked h
  removePrivateTree .removeLeftover .returned
  if closeError then
    raise (.runner ⟨"credential-handle-close-failed",
      "broker could not confirm failed-job handle revocation/consumption"⟩)
  else
    raise error

/-- `execute`. -/
def execute (request : Request) : Run τ η κ κ := do
  step .validateRequestEnvelope
  match validateExactModelBinding request with
  | .error error => raise (.runner error)
  | .ok () =>
    step .preflight
    step .resolveWorkspace
    step .limits
    let limits := request.limits.limits
    begin
    let h ← handle issueSingleUseHandle fun error => do
      abandonClaim
      raise error
    modify fun w => { w with handleClosed := false }
    handle (executeIssued limits h) (closeFailed h)

end Vibapp.ProviderRunner
