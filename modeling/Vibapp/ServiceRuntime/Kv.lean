import Vibapp.Lib.Dict
import Vibapp.Lib.Except
import Vibapp.Lib.KeyOrder
import Vibapp.ServiceRuntime.UiOutput

/-!
# The key-value broker

`KvBroker` of the service runtime and the three calls a guest makes through it. The document lies
in one file. Each call takes the file lock, reads the document again and, for `transact`, renames
a new file into its place before the lock is let go, so a whole call is one step of the file.
-/

namespace Vibapp.ServiceRuntime

/-! ## Data -/

/-- `common::ErrorCode`. -/
inductive ErrorCode
  | invalidArgument | incompatibleContract | unsupportedVersion | unknownInterface
  | missingInterface | permissionDenied | consentRequired | capabilityUnavailable
  | unsupportedSurface | resourceLimit | deadlineExceeded | cancelled | appDisabled
  | appUninstalled | upgradeInProgress | integrityFailure | notFound | conflict | staleRevision
  | malformedOutput | forgedIdentifier | internal
deriving DecidableEq, Repr

structure HostError where
  code : ErrorCode
  message : String
  retryable : Bool
deriving DecidableEq, Repr

def hostError (code : ErrorCode) (message : String) (retryable : Bool) : HostError :=
  ⟨code, message, retryable⟩

def capabilityUnavailable (message : String) : HostError :=
  hostError .capabilityUnavailable message false

def kvSchema : String := "vibapp.kv-state.experimental-v1"

def maxKvEntries : Nat := 4096

def maxKvKeyBytes : Nat := 256

def maxKvValueBytes : Nat := 256 * 1024

def maxKvOperations : Nat := 256

def maxKvIdempotencyRecords : Nat := 4096

def maxKvScanLimit : Nat := 1024

/-- `u64::MAX`. -/
def u64Max : Nat := 2 ^ 64 - 1

structure StoredKvEntry where
  value : List UInt8
  revision : Nat
deriving DecidableEq

structure StoredKvTransaction where
  requestSha256 : String
  stateRevision : Nat
deriving DecidableEq

structure KvDocument where
  schemaVersion : String
  stateRevision : Nat
  entries : Dict String StoredKvEntry
  transactions : Dict String StoredKvTransaction
deriving DecidableEq

/-- `kv::Entry`. -/
structure KvEntry where
  key : String
  value : List UInt8
  revision : Nat
deriving DecidableEq

structure PutOperation where
  key : String
  value : List UInt8
  expectedRevision : Option Nat
deriving DecidableEq

structure DeleteOperation where
  key : String
  expectedRevision : Option Nat
deriving DecidableEq

inductive WriteOperation
  | put (operation : PutOperation)
  | delete (operation : DeleteOperation)
deriving DecidableEq

structure TransactionRequest where
  operations : List WriteOperation
  idempotencyKey : String
deriving DecidableEq

structure TransactionResult where
  stateRevision : Nat
  deduplicated : Bool
deriving DecidableEq, Repr

/-- `KvBroker`, without the handle and the path of its directory. -/
structure KvBroker where
  enabled : Bool
  maximumBytes : Nat
  document : KvDocument
  minimumStateRevision : Nat
  migrationTargetRevision : Option Nat
  writeSequence : Nat

/-- What `kv::Host` reads and writes of `RuntimeState`. -/
structure RuntimeState where
  kv : KvBroker
  kvTransactionAttempts : Nat

/-! ## Text -/

/-- An `Option<u64>`. -/
def optionJson : Option Nat → Json
  | none => .null
  | some n => .int n

def bytesJson (value : List UInt8) : Json := .arr (value.map fun byte => .int byte.toNat)

namespace WriteOperation

def toJson : WriteOperation → Json
  | put operation => .obj [("Put", .obj [("key", .str operation.key),
      ("value", bytesJson operation.value),
      ("expected_revision", optionJson operation.expectedRevision)])]
  | delete operation => .obj [("Delete", .obj [("key", .str operation.key),
      ("expected_revision", optionJson operation.expectedRevision)])]

end WriteOperation

namespace TransactionRequest

def toJson (request : TransactionRequest) : Json :=
  .obj [("operations", .arr (request.operations.map WriteOperation.toJson)),
    ("idempotency_key", .str request.idempotencyKey)]

/-- `serde_json::to_vec(&request)`. -/
def text (request : TransactionRequest) : String := String.ofList request.toJson.chars

end TransactionRequest

namespace KvDocument

/-- A `BTreeMap` with text keys. -/
def mapJson {α : Type} (f : α → Json) (map : Dict String α) : Json :=
  .obj ((sortByKey (· ≤ ·) map.entries).map fun p => (p.1, f p.2))

def toJson (document : KvDocument) : Json :=
  .obj ([("schema_version", .str document.schemaVersion),
      ("state_revision", .int document.stateRevision),
      ("entries", mapJson (fun entry : StoredKvEntry =>
        .obj [("value", bytesJson entry.value), ("revision", .int entry.revision)])
        document.entries)] ++
    if document.transactions.size = 0 then []
    else [("transactions", mapJson (fun transaction : StoredKvTransaction =>
      .obj [("request_sha256", .str transaction.requestSha256),
        ("state_revision", .int transaction.stateRevision)]) document.transactions)])

/-- The length of the file that holds the document: its text and a line feed. -/
def fileLength (document : KvDocument) : Nat := document.toJson.size + 1

end KvDocument

/-! ## The file -/

/-- The file `kv-state.json`: the document its text encodes and the number of its bytes. -/
structure KvFile where
  document : KvDocument
  length : Nat
deriving DecidableEq

/-- How the writing of a new file ends: before the rename, after the rename but with an error of
the directory's `sync_all`, or well. -/
inductive PersistIo
  | failed (error : String)
  | unsynced (error : String)
  | done

/-- What the operating system answers during one call. -/
structure Io where
  lock : Except String Unit
  inspect : Except String Unit
  read : Except String Unit
  persist : PersistIo

/-- A key, a prefix or an idempotency key with a control character or too many bytes. -/
def outsideBound (text : String) (bytes : Nat) : Bool :=
  bytes < text.utf8ByteSize || text.toList.any isControl

def isSha256Hex (text : String) : Bool :=
  text.utf8ByteSize = 64 &&
    text.toList.all fun c => ('0' ≤ c && c ≤ '9') || ('a' ≤ c && c ≤ 'f')

def validEntry (stateRevision : Nat) (key : String) (entry : StoredKvEntry) : Bool :=
  key ≠ "" && !outsideBound key maxKvKeyBytes && entry.value.length ≤ maxKvValueBytes &&
    0 < entry.revision && entry.revision ≤ stateRevision

def validTransaction (stateRevision : Nat) (key : String) (transaction : StoredKvTransaction) :
    Bool :=
  key ≠ "" && !outsideBound key 128 && isSha256Hex transaction.requestSha256 &&
    0 < transaction.stateRevision && transaction.stateRevision ≤ stateRevision

/-- `KvBroker::valid_document`. -/
def validDocument (document : KvDocument) (minimumRevision : Nat) (exact : Bool) : Bool :=
  document.schemaVersion = kvSchema && 0 < document.stateRevision &&
    (if exact then document.stateRevision = minimumRevision
      else minimumRevision ≤ document.stateRevision) &&
    document.entries.size ≤ maxKvEntries &&
    document.transactions.size ≤ maxKvIdempotencyRecords &&
    (document.entries.entries.all fun p => validEntry document.stateRevision p.1 p.2) &&
    document.transactions.entries.all fun p => validTransaction document.stateRevision p.1 p.2

namespace KvBroker

/-- `KvBroker::read_document`. -/
def readDocument (broker : KvBroker) (io : Io) (file : KvFile) : Except String KvDocument :=
  match io.inspect with
  | .error e => .error ("cannot inspect KV state: " ++ e)
  | .ok _ =>
    if file.length = 0 ∨ broker.maximumBytes < file.length then
      .error "KV state must be one bounded regular non-link file"
    else
      match io.read with
      | .error e => .error ("cannot read KV state: " ++ e)
      | .ok _ =>
        if validDocument file.document broker.minimumStateRevision false then
          .ok file.document
        else .error "KV state schema, revision, or entry bounds are invalid"

/-- `KvBroker::refresh`. -/
def refresh (broker : KvBroker) (io : Io) (file : KvFile) : Except String KvBroker :=
  if broker.enabled = false then .ok broker
  else
    match io.lock with
    | .error e => .error e
    | .ok _ =>
      match broker.readDocument io file with
      | .error e => .error e
      | .ok document => .ok { broker with document := document }

end KvBroker

/-- What `persist` returns, and the file it has renamed into place. -/
structure Persisted where
  result : Except String Unit
  broker : KvBroker
  written : Option KvFile

/-- `KvBroker::persist`. -/
def KvBroker.persist (broker : KvBroker) (io : Io) : Persisted :=
  let file : KvFile := ⟨broker.document, broker.document.fileLength⟩
  if broker.maximumBytes < file.length then
    ⟨.error "KV state exceeds its manifest storage bound", broker, none⟩
  else
    let broker := { broker with writeSequence := min (broker.writeSequence + 1) u64Max }
    match io.persist with
    | .failed e => ⟨.error e, broker, none⟩
    | .unsynced e => ⟨.error e, broker, some file⟩
    | .done => ⟨.ok (), broker, some file⟩

/-! ## Reading -/

/-- `get`. -/
def get (state : RuntimeState) (io : Io) (file : KvFile) (key : String) :
    Except HostError (Option KvEntry) × RuntimeState :=
  if state.kv.enabled = false then
    (.error (capabilityUnavailable "durable KV broker is not granted"), state)
  else if key = "" ∨ outsideBound key maxKvKeyBytes = true then
    (.error (hostError .invalidArgument "KV key is outside its bound" false), state)
  else
    match state.kv.refresh io file with
    | .error e => (.error (hostError .integrityFailure e false), state)
    | .ok kv =>
      (.ok ((kv.document.entries.get? key).map fun entry => ⟨key, entry.value, entry.revision⟩),
        { state with kv := kv })

/-- `entries.range(prefix..).take_while(starts_with).take(limit)`. -/
def scanRange (entries : Dict String StoredKvEntry) (start : String) (limit : Nat) :
    List KvEntry :=
  ((((sortByKey (· ≤ ·) entries.entries).dropWhile fun p => p.1 < start).takeWhile fun p =>
    start.toList.isPrefixOf p.1.toList).take limit).map fun p => ⟨p.1, p.2.value, p.2.revision⟩

/-- `scan_prefix`. -/
def scanPrefix (state : RuntimeState) (io : Io) (file : KvFile) (start : String) (limit : Nat) :
    Except HostError (List KvEntry) × RuntimeState :=
  if state.kv.enabled = false then
    (.error (capabilityUnavailable "durable KV broker is not granted"), state)
  else if outsideBound start maxKvKeyBytes = true ∨ limit = 0 ∨ maxKvScanLimit < limit then
    (.error (hostError .invalidArgument "KV prefix or scan limit is outside its bound" false),
      state)
  else
    match state.kv.refresh io file with
    | .error e => (.error (hostError .integrityFailure e false), state)
    | .ok kv => (.ok (scanRange kv.document.entries start limit), { state with kv := kv })

/-! ## Writing -/

/-- `expected_revision` is given and is not the revision of the entry. -/
def stale (entries : Dict String StoredKvEntry) (key : String) (expected : Option Nat) : Bool :=
  match expected with
  | none => false
  | some expected => (entries.get? key).map StoredKvEntry.revision ≠ some expected

/-- One pass of the loop over the operations. -/
def applyOperation (targetRevision : Nat) (entries : Dict String StoredKvEntry) :
    WriteOperation → Except HostError (Dict String StoredKvEntry)
  | .put operation =>
    if operation.key = "" ∨ outsideBound operation.key maxKvKeyBytes = true ∨
        maxKvValueBytes < operation.value.length then
      .error (hostError .resourceLimit "KV put exceeds its key or value bound" false)
    else if stale entries operation.key operation.expectedRevision = true then
      .error (hostError .staleRevision "KV put expected revision does not match" false)
    else .ok (entries.set operation.key ⟨operation.value, targetRevision⟩)
  | .delete operation =>
    if operation.key = "" ∨ outsideBound operation.key maxKvKeyBytes = true then
      .error (hostError .invalidArgument "KV delete key is outside its bound" false)
    else if stale entries operation.key operation.expectedRevision = true then
      .error (hostError .staleRevision "KV delete expected revision does not match" false)
    else .ok (entries.erase operation.key)

/-- The revision a transaction commits as. -/
def targetRevision (migrationTargetRevision : Option Nat) (stateRevision : Nat) :
    Except HostError Nat :=
  match migrationTargetRevision with
  | some target =>
    if stateRevision ≤ target then .ok target
    else .error (hostError .staleRevision "KV migration target revision is stale" false)
  | none =>
    if stateRevision < u64Max then .ok (stateRevision + 1)
    else .error (hostError .resourceLimit "KV state revision is exhausted" false)

/-- What `transact` makes of the document it has read: the first result again, or the next
document. -/
inductive Verdict
  | repeated (stateRevision : Nat)
  | commit (next : KvDocument)

/-- The part of `transact` between the reading of the document and its writing. -/
def decideTransaction (migrationTargetRevision : Option Nat) (document : KvDocument)
    (request : TransactionRequest) (requestSha256 : String) : Except HostError Verdict :=
  match document.transactions.get? request.idempotencyKey with
  | some previous =>
    if previous.requestSha256 ≠ requestSha256 then
      .error (hostError .conflict "KV idempotency key was reused with another transaction" false)
    else .ok (.repeated previous.stateRevision)
  | none =>
    if maxKvIdempotencyRecords ≤ document.transactions.size then
      .error (hostError .resourceLimit "KV idempotency ledger is full" false)
    else do
      let target ← targetRevision migrationTargetRevision document.stateRevision
      let entries ← request.operations.foldlM (applyOperation target) document.entries
      if maxKvEntries < entries.size then
        .error (hostError .resourceLimit "KV transaction exceeds the entry count bound" false)
      else
        .ok (.commit
          { document with
            stateRevision := target
            entries := entries
            transactions := document.transactions.set request.idempotencyKey
              ⟨requestSha256, target⟩ })

/-- The identity or the number of operations of the request is not accepted. -/
def TransactionRequest.outside (request : TransactionRequest) : Bool :=
  request.idempotencyKey = "" || outsideBound request.idempotencyKey 128 ||
    request.operations.isEmpty || maxKvOperations < request.operations.length

/-- What `transact` returns, and the file it has renamed into place. -/
structure Transacted where
  result : Except HostError TransactionResult
  state : RuntimeState
  written : Option KvFile

/-- The part of `transact` under the lock. -/
def transactLocked (state : RuntimeState) (io : Io) (file : KvFile) (request : TransactionRequest)
    (requestSha256 : String) : Transacted :=
  match state.kv.readDocument io file with
  | .error e => ⟨.error (hostError .integrityFailure e false), state, none⟩
  | .ok document =>
    let state := { state with kv := { state.kv with document := document } }
    match decideTransaction state.kv.migrationTargetRevision document request requestSha256 with
    | .error e => ⟨.error e, state, none⟩
    | .ok (.repeated stateRevision) => ⟨.ok ⟨stateRevision, true⟩, state, none⟩
    | .ok (.commit next) =>
      let persisted := { state.kv with document := next }.persist io
      match persisted.result with
      | .error e =>
        ⟨.error (hostError .internal e true),
          { state with kv := { persisted.broker with document := document } }, persisted.written⟩
      | .ok _ =>
        ⟨.ok ⟨next.stateRevision, false⟩,
          { state with kv :=
            { persisted.broker with minimumStateRevision := next.stateRevision } },
          persisted.written⟩

/-- `transact`. `sha256` is the lower-case hexadecimal digest of a text. -/
def transact (sha256 : String → String) (state : RuntimeState) (io : Io) (file : KvFile)
    (request : TransactionRequest) : Transacted :=
  let state := { state with kvTransactionAttempts := min (state.kvTransactionAttempts + 1) u64Max }
  if state.kv.enabled = false then
    ⟨.error (capabilityUnavailable "durable KV broker is not granted"), state, none⟩
  else if request.outside = true then
    ⟨.error (hostError .invalidArgument
      "KV transaction identity or operation count is outside its bound" false), state, none⟩
  else
    let requestSha256 := sha256 request.text
    match io.lock with
    | .error e => ⟨.error (hostError .internal e true), state, none⟩
    | .ok _ => transactLocked state io file request requestSha256

end Vibapp.ServiceRuntime
