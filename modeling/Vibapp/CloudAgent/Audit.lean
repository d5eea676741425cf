import Vibapp.CloudAgent.Worker
import Vibapp.ProviderRunner.Snapshot

/-!
# The audit of a workspace

`audit_workspace` and `validate_cargo_scaffold`: what the worker demands of the tree that the
provider leaves, before it makes a handoff of it. `workspace_tree_digest` is here too.

**Parameters** (`Policy`). The immutable inputs and the Cargo scaffold of a task, the checks that read
the scaffold as TOML and the Rust sources as code, and SHA-256. A path below a directory that is
no link resolves to itself.
-/

namespace Vibapp.CloudAgent

open ProviderRunner (Node walkNode pathText hexText)

variable {δ : Type}

/-- What the audit raises: a `WorkerError`, or `OSError`. -/
inductive AuditError
  | worker (error : WorkerError)
  | os
deriving DecidableEq, Repr

/-- What the audit uses of a task beside its limits. -/
structure Policy (δ : Type) where
  sha256 : List UInt8 → List UInt8
  /-- `consent_bound_authoring_inputs`. -/
  authoringInputs : Task δ → Except WorkerError (List (String × List UInt8))
  canonicalCargoManifest : Task δ → Except WorkerError (List UInt8)
  validateCargoManifest : List UInt8 → Task δ → Except WorkerError Unit
  validateGeneratedSemantics : Task δ → List (String × String) → Except WorkerError Unit

def demand (ok : Bool) (code message : String) : Except AuditError Unit :=
  if ok then .ok () else .error (.worker { code, message })

def lifted {α : Type} : Except WorkerError α → Except AuditError α
  | .ok a => .ok a
  | .error e => .error (.worker e)

def invalid {α : Type} (message : String) : Except AuditError α :=
  .error (.worker { code := "source-invalid", message })

/-! ## Files -/

/-- The bytes at a path below the workspace, as `open` finds them. -/
def readBytes (workspace : Node) (path : List String) : Except AuditError (List UInt8) :=
  match workspace.find path with
  | some (.file _ _ data) => .ok data
  | some (.link _ (some data)) => .ok data
  | _ => .error .os

/-- `iterdir`. -/
def iterdir : Node → Except AuditError (List (String × Node))
  | .directory _ entries => .ok entries
  | _ => .error .os

/-- `sha256_file`. -/
def sha256File (policy : Policy δ) (workspace : Node) (path : List String) :
    Except AuditError String := do
  let data ← readBytes workspace path
  pure (hexText (policy.sha256 data))

/-- `stat.S_IMODE`. -/
def permissions (mode : Nat) : Nat := mode % 0o10000

/-- `mode & 0o111`. -/
def isExecutable (mode : Nat) : Bool := mode % 2 = 1 || mode / 8 % 2 = 1 || mode / 64 % 2 = 1

/-- `str.split("/")`. -/
def segments (path : String) : List String := (path.toList.splitOn '/').map String.ofList

/-! ## The checks -/

/-- The turn for an immutable input. -/
def checkInput (workspace : Node) (input : String × List UInt8) : Except AuditError Unit :=
  match workspace.find (segments input.1) with
  | some (.file mode links data) =>
    demand (links = 1 && permissions mode = 0o444 && data = input.2) "integrity-failure"
      "CodeAgent changed immutable authoring input"
  | some _ => demand false "integrity-failure" "CodeAgent changed immutable authoring input"
  | none => demand false "integrity-failure" "CodeAgent removed immutable authoring input"

/-- `normalized_source_path`, for a path that resolves below `source`. -/
def normalizedSourcePath (path context : String) : Except AuditError Unit := do
  let chars := path.toList
  demand (1 ≤ chars.length && chars.length ≤ 240) "schema-invalid"
    (context ++ " must be a string length 1..240")
  demand (chars.all fun c => 0x20 ≤ c.toNat || c = '\t' || c = '\n') "schema-invalid"
    (context ++ " contains a control character")
  demand (chars.head? ≠ some '/' && chars.getLast? ≠ some '/' && !chars.contains '\\' &&
    !((chars.splitOn '/').drop 1).dropLast.contains []) "provider-schema-invalid"
    (context ++ " is not a canonical relative source path")
  demand (isSourcePath path) "provider-schema-invalid"
    (context ++ " contains an invalid source-path segment")

/-- The turn for a directory below `source`. -/
def auditDirectory (parts : List String) (entry : String × Node) : Except AuditError Unit := do
  let relative := pathText (parts ++ [entry.1])
  demand entry.2.isDirectory "source-invalid"
    ("source tree contains unsafe directory: " ++ relative)
  normalizedSourcePath relative ("audited source directory " ++ relative)
  demand (relative.toList.head? ≠ some '.' &&
      !(["target", ".git", ".cargo", "node_modules"].contains entry.1)) "source-invalid"
    ("source tree contains forbidden directory: " ++ relative)

/-- The source paths of the handoff. -/
def isAllowedSource (parts : List String) (name : String) : Bool :=
  ["Cargo.toml", "README.md", "manifest.intent.json", "wit/contract.wit"].contains
      (pathText (parts ++ [name])) ||
    (1 ≤ parts.length && ["src", "tests"].contains (parts.headD "") && 4 ≤ name.toList.length &&
      name.toList.reverse.take 3 = ['s', 'r', '.'])

structure Walked where
  records : List SourceRecord
  totalBytes : Nat
deriving DecidableEq, Repr

/-- The turn for a file below `source`. -/
def auditFile (policy : Policy δ) (task : Task δ) (parts : List String) (walked : Walked)
    (entry : String × Node) : Except AuditError Walked := do
  let relative := pathText (parts ++ [entry.1])
  match entry.2 with
  | .file mode links data => do
    demand (links = 1) "source-invalid"
      ("source tree contains non-regular or linked file: " ++ relative)
    demand (!isExecutable mode) "source-invalid" ("source file is executable: " ++ relative)
    demand (data ≠ []) "source-invalid" ("source file is empty: " ++ relative)
    normalizedSourcePath relative ("audited source path " ++ relative)
    demand (isAllowedSource parts entry.1 && !(["build.rs", "Cargo.lock"].contains entry.1))
      "source-invalid" ("source path is outside the handoff allowlist: " ++ relative)
    demand (walked.totalBytes + data.length ≤ task.limits.sourceBytes) "source-output-limit"
      "source tree exceeds the task byte limit"
    pure {
      records := walked.records ++ [{
        path := relative
        sha256 := hexText (policy.sha256 data)
        sizeBytes := data.length
        role := if relative = "wit/contract.wit" then "authoritative-contract-copy"
          else "generated-source" }]
      totalBytes := walked.totalBytes + data.length }
  | _ => invalid ("source tree contains non-regular or linked file: " ++ relative)

def visitSource (policy : Policy δ) (task : Task δ) (parts : List String)
    (entries : List (String × Node)) (walked : Walked) : Except AuditError Walked := do
  (entries.filter fun entry => entry.2.listsAsDirectory).forM (auditDirectory parts)
  (entries.filter fun entry => !entry.2.listsAsDirectory).foldlM
    (auditFile policy task parts) walked

/-- `validate_cargo_scaffold`. -/
def validateCargoScaffold (policy : Policy δ) (workspace : Node) (task : Task δ) :
    Except AuditError Unit :=
  match workspace.find ["source", "Cargo.toml"] with
  | none => invalid "deterministic Cargo.toml scaffold is missing"
  | some (.file mode links data) => do
    demand (links = 1 && permissions mode = 0o444) "source-invalid"
      "deterministic Cargo.toml scaffold metadata was modified"
    let expected ← lifted (policy.canonicalCargoManifest task)
    demand (data.length = expected.length) "source-invalid"
      "deterministic Cargo.toml scaffold size was modified"
    demand (data = expected) "source-invalid"
      "deterministic Cargo.toml scaffold bytes were modified"
    lifted (policy.validateCargoManifest data task)
  | some _ => invalid "deterministic Cargo.toml scaffold metadata was modified"

/-- `needle in text`. -/
def includes (needle text : String) : Bool :=
  text.toList.tails.any fun rest => needle.toList.isPrefixOf rest

/-- The turn for a Rust source: its path and text. -/
def readRust (workspace : Node) (path : String) : Except AuditError (String × String) := do
  let data ← readBytes workspace ("source" :: segments path)
  match String.fromUTF8? ⟨data.toArray⟩ with
  | none => invalid (path ++ " must be UTF-8")
  | some text => do
    demand (!includes "guest::ErrorCode" text) "source-invalid"
      (path ++ " uses guest::ErrorCode; wit-bindgen 0.60 owns ErrorCode in " ++
        "vibapp::experimental_v0::common")
    pure (path, text)

/-- The policy for `src/lib.rs`. -/
def isNoStd (text : String) : Bool :=
  ["#![no_std]", "extern crate alloc", "#[global_allocator]", "#[panic_handler]"].all
      (includes · text) &&
    !includes "extern crate std" text && !includes "std::" text

def isRealDirectory (found : Option Node) : Bool := found.any Node.isDirectory

/-- The names of `contracts`. -/
def contractNames (inputs : List (String × List UInt8)) : List String :=
  "contract.wit" :: (inputs.filter fun input =>
    "contracts/".toList.isPrefixOf input.1.toList).map fun input => (segments input.1).getLastD ""

/-- `contracts` holds the expected names, and no link. -/
def checkContracts (workspace : Node) (inputs : List (String × List UInt8)) :
    Except AuditError Unit :=
  let entries := ((workspace.find ["contracts"]).map Node.entries).getD []
  demand ((entries.map Prod.fst).all (contractNames inputs).contains &&
      (contractNames inputs).all (entries.map Prod.fst).contains &&
      entries.all fun entry => !entry.2.isLink) "source-invalid"
    "contracts/ contains an unexpected provider-created entry"

/-- What the audit has of the sources when it has walked over them. -/
def checkSources (policy : Policy δ) (workspace : Node) (task : Task δ) (reported : List String)
    (contractDigest : String) (records : List SourceRecord) : Except AuditError Unit := do
  demand (records.length ≤ task.limits.sourceFiles) "source-output-limit"
    "source tree exceeds the task file-count limit"
  let paths := records.map SourceRecord.path
  demand (paths.contains "Cargo.toml" && paths.contains "src/lib.rs") "source-invalid"
    "source tree requires physical Cargo.toml and src/lib.rs"
  let wit ← sha256File policy workspace ["source", "wit", "contract.wit"]
  demand (wit = contractDigest) "integrity-failure"
    "source WIT is not the authoritative contract copy"
  demand (paths.isPerm reported) "provider-schema-invalid"
    "provider source_files does not exactly inventory source/"

/-- `audit_workspace`, for the paths that the provider reports. -/
def auditWorkspace (policy : Policy δ) (workspace : Node) (task : Task δ) (reported : List String)
    (contractDigest : String) : Except AuditError (List SourceRecord) := do
  let inputs ← lifted (policy.authoringInputs task)
  let top ← iterdir workspace
  demand ((top.map Prod.fst).all
      ["contracts", "source", "provider-last-message.json"].contains) "source-invalid"
    "CodeAgent created unexpected workspace entries"
  demand (isRealDirectory (workspace.find ["contracts"])) "source-invalid"
    "contracts/ must remain a real directory"
  let contract ← sha256File policy workspace ["contracts", "contract.wit"]
  demand (contract = contractDigest) "integrity-failure"
    "CodeAgent modified the authoritative input contract"
  checkContracts workspace inputs
  inputs.forM (checkInput workspace)
  match workspace.find ["source"] with
  | some (.directory mode entries) => do
    let walked ← walkNode (visitSource policy task) [] (.directory mode entries) ⟨[], 0⟩
    checkSources policy workspace task reported contractDigest walked.records
    validateCargoScaffold policy workspace task
    let rust := (walked.records.map SourceRecord.path).filter fun path =>
      path.toList.reverse.take 3 = ['s', 'r', '.']
    let sources ← rust.mapM (readRust workspace)
    demand (isNoStd ((sources.lookup "src/lib.rs").getD "")) "source-invalid"
      "src/lib.rs violates the no_std/alloc source policy"
    lifted (policy.validateGeneratedSemantics task sources)
    pure (walked.records.insertionSort fun a b => a.path ≤ b.path)
  | _ => invalid "source/ must remain a real directory"

/-! ## The digest of the tree -/

def treeFile (policy : Policy δ) (parts : List String) (budget : ProviderRunner.Budget)
    (entry : String × Node) : Except WorkerError ProviderRunner.Budget :=
  match entry.2 with
  | .file _ _ data => .ok (budget.add policy.sha256 (parts ++ [entry.1]) data)
  | _ => .error
    { code := "integrity-failure", message := "runner bundle contains an unsafe file" }

def visitTree (policy : Policy δ) (parts : List String) (entries : List (String × Node))
    (budget : ProviderRunner.Budget) : Except WorkerError ProviderRunner.Budget := do
  (entries.filter fun entry => entry.2.listsAsDirectory).forM fun entry =>
    require entry.2.isDirectory "integrity-failure" "runner bundle contains an unsafe directory"
  (entries.filter fun entry => !entry.2.listsAsDirectory).foldlM (treeFile policy parts) budget

/-- `workspace_tree_digest`. -/
def workspaceTreeDigest (policy : Policy δ) (workspace : Node) : Except WorkerError String := do
  let budget ← walkNode (visitTree policy) [] workspace .empty
  pure (ProviderRunner.digestOf policy.sha256 budget.records)

end Vibapp.CloudAgent
