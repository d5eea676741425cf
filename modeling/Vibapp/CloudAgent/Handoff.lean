import Vibapp.CloudAgent.Package

/-!
# Handoffs

What `persist_handoff` puts in place: `handoff.json` and the copied sources. The copies are new
regular files below new directories, so the source directory is given by its files.
-/

namespace Vibapp.CloudAgent

open ProviderRunner (Node hexText)

structure Authority where
  compile : String
  verify : String
  install : String
  publish : String
deriving DecidableEq, Repr

/-- `handoff.json`. -/
structure HandoffDocument where
  schemaVersion : String
  documentType : String
  status : String
  jobId : String
  needSpecDigestSha256 : String
  sourceTreeSha256 : String
  sourceDirectory : String
  files : List SourceRecord
  packageIntent : PackageIntent
  target : Target
  providerExecution : ProviderExecution
  authority : Authority
  createdAtUtc : String
deriving DecidableEq, Repr

/-- A source directory: what is no directory, by path, and whether a link is among the
directories. -/
structure SourceTree where
  files : List (String × Node)
  linkedDirectory : Bool

def sourceHandoffVersion : String := "vibapp.codeagent-source-handoff.experimental-v2"

/-- The bytes that `source_tree_digest` hashes. -/
def sourceText (records : List SourceRecord) : List UInt8 :=
  "VIBAPP-CODEAGENT-SOURCE".toUTF8.toList ++ 0 :: records.flatMap fun record =>
    record.path.toUTF8.toList ++ 0 :: Daemon.fromHex record.sha256.toList ++
      Daemon.packBE 8 record.sizeBytes

/-- `source_tree_digest`. -/
def sourceTreeDigest (sha256 : List UInt8 → List UInt8) (records : List SourceRecord) : String :=
  hexText (sha256 (sourceText records))

/-- `copy_regular_file` of a record. -/
def copyRecord (workspace : Node) (record : SourceRecord) : Except AuditError (String × Node) := do
  normalizedSourcePath record.path "handoff file path"
  match workspace.find ("source" :: segments record.path) with
  | some (.file _ _ data) => .ok (record.path, .file 0o444 1 data)
  | some _ => demand false "integrity-failure" "source is not a regular file" *> .error .os
  | none => .error .os

def handoffOf (sha256 : List UInt8 → List UInt8) (task : Task Intent)
    (records : List SourceRecord) (execution : ProviderExecution) (now : String) :
    HandoffDocument where
  schemaVersion := sourceHandoffVersion
  documentType := "codeagent-source-handoff"
  status := "untrusted-source-awaiting-builder"
  jobId := task.jobId
  needSpecDigestSha256 := task.rest.needSpecDigestSha256
  sourceTreeSha256 := sourceTreeDigest sha256 records
  sourceDirectory := "source"
  files := records
  packageIntent := task.rest.packageIntent
  target := task.rest.target
  providerExecution := execution
  authority := ⟨"separate-builder", "separate-verifier", "none", "none"⟩
  createdAtUtc := now

/-- What `persist_handoff` writes. -/
def writeHandoff (sha256 : List UInt8 → List UInt8) (workspace : Node) (task : Task Intent)
    (records : List SourceRecord) (execution : ProviderExecution) (now : String) :
    Except AuditError (HandoffDocument × SourceTree) := do
  let files ← records.mapM (copyRecord workspace)
  pure (handoffOf sha256 task records execution now, ⟨files, false⟩)

/-! ## The text -/

def textOrNull : Option String → Json
  | some text => .str text
  | none => .null

def texts (values : List String) : Json := .arr (values.map Json.str)

def SourceRecord.json (record : SourceRecord) : Json :=
  .obj [("path", .str record.path), ("sha256", .str record.sha256),
    ("size_bytes", .int record.sizeBytes), ("role", .str record.role)]

def Entrypoint.json (entrypoint : Entrypoint) : Json :=
  .obj ([("id", .str entrypoint.id), ("kind", .str entrypoint.kind),
    ("label", .str entrypoint.label), ("initial_route", textOrNull entrypoint.initialRoute)] ++
      (entrypoint.triggers.map fun triggers => ("triggers", texts triggers)).toList)

def PackageIntent.json (package : PackageIntent) : Json :=
  .obj [("app_id", .str package.appId), ("version", .str package.version),
    ("display_name", .str package.displayName), ("description", .str package.description),
    ("entrypoints", .arr (package.entrypoints.map Entrypoint.json))]

def Target.json (target : Target) : Json :=
  .obj [("contract", .str target.contract), ("wasi", .str target.wasi),
    ("rust_target", .str target.rustTarget), ("wit_world", .str target.witWorld),
    ("app_kind", .str target.appKind), ("profiles", texts target.profiles),
    ("required_imports", texts target.requiredImports),
    ("required_capabilities", texts target.requiredCapabilities)]

def ProviderExecution.json (execution : ProviderExecution) : Json :=
  .obj [("mode", .str execution.mode), ("adapter", .str execution.adapter),
    ("provider_id", .str execution.providerId),
    ("external_request_attempted", .bool execution.externalRequestAttempted),
    ("external_request_observed", .bool execution.externalRequestObserved),
    ("gateway_request_id", textOrNull execution.gatewayRequestId),
    ("executable_sha256", textOrNull execution.executableSha256),
    ("isolation_policy_version", textOrNull execution.isolationPolicyVersion),
    ("runner_id", textOrNull execution.runnerId),
    ("runner_identity_sha256", textOrNull execution.runnerIdentitySha256),
    ("isolation_policy_sha256", textOrNull execution.isolationPolicySha256),
    ("receipt_digest_sha256", textOrNull execution.receiptDigestSha256)]

def Authority.json (authority : Authority) : Json :=
  .obj [("compile", .str authority.compile), ("verify", .str authority.verify),
    ("install", .str authority.install), ("publish", .str authority.publish)]

def HandoffDocument.json (document : HandoffDocument) : Json :=
  .obj [("schema_version", .str document.schemaVersion),
    ("document_type", .str document.documentType), ("status", .str document.status),
    ("job_id", .str document.jobId),
    ("need_spec_digest_sha256", .str document.needSpecDigestSha256),
    ("source_tree_sha256", .str document.sourceTreeSha256),
    ("source_directory", .str document.sourceDirectory),
    ("files", .arr (document.files.map SourceRecord.json)),
    ("package_intent", document.packageIntent.json), ("target", document.target.json),
    ("provider_execution", document.providerExecution.json),
    ("authority", document.authority.json), ("created_at_utc", .str document.createdAtUtc)]

/-- The size of `handoff.json`: `canonical_json` of the document and a line feed. -/
def HandoffDocument.fileSize (document : HandoffDocument) : Nat :=
  (Json.dumps document.json).utf8ByteSize + 1

end Vibapp.CloudAgent
