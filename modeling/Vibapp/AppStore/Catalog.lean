import Vibapp.AppStore.Snapshot
import Vibapp.Lib.Fault
import Vibapp.Lib.SortedJson
import Vibapp.Lib.Transition

/-!
# The local AppStore

`LocalAppStore`: the catalog in SQLite, the candidate directories beside it, and the four calls. A
call holds the store's lock from its start to its end, so calls follow one another. Each step that
touches the disk or the database is one at which the environment may raise or stop the process.
-/

namespace Vibapp.AppStore

open Prog
open Daemon (field hasExactly asStr asInt asBool)

/-! ## The store -/

/-- A row of `releases`. `record` is the value that `strict_json` reads from `record_json`. -/
structure Row where
  packageDigest : String
  appId : String
  appVersion : String
  payloadSha256 : String
  state : String
  record : Json

/-- What the store has on disk: the rows, the directories `candidates/<digest>` and the directories
`candidates/.ingest-<n>`. `created` is the variable `created_path` of a call, `tick` counts its
steps. -/
structure Disk where
  rows : Dict String Row
  candidates : Dict String Tree
  staging : Dict Nat Tree
  nextStaging : Nat
  created : Option String
  tick : Nat

def Disk.empty : Disk := ⟨∅, ∅, ∅, 0, none, 0⟩

inductive Fault
  | fails | stops
deriving DecidableEq, Repr

/-- What a call meets: the time, and the faults by the number of the step. -/
structure Env where
  now : String
  fault : Nat → Option Fault

abbrev Run (α : Type) := Prog Env Disk Raised α

/-! ## Steps -/

/-- A step that is done or not. -/
def step (done : Disk → Disk) : Run Unit := do
  let t ← read fun _ d => d.tick
  modify fun d => { d with tick := t + 1 }
  match ← read fun env _ => env.fault t with
  | none => modify done
  | some .fails => raise .os
  | some .stops => stop

/-- A step that changes nothing on disk, such as a query or a `mkdir` below a staging directory. -/
def touch : Run Unit := step id

/-- `raise StoreError(code, message)`. -/
def refuse {α : Type} (code message : String) : Run α := raise (.store ⟨code, message⟩)

def refuseIf (condition : Prop) [Decidable condition] (code message : String) : Run Unit :=
  if condition then refuse code message else pure ()

/-- A computation on values. -/
def check {α : Type} : Py α → Run α
  | .ok a => pure a
  | .error e => raise e

/-- Where a tree is. -/
inductive Place
  | staging (n : Nat)
  | final (digest : String)

def Disk.tree? (d : Disk) : Place → Option Tree
  | .staging n => d.staging.get? n
  | .final digest => d.candidates.get? digest

def Disk.setTree (d : Disk) (tree : Tree) : Place → Disk
  | .staging n => { d with staging := d.staging.set n tree }
  | .final digest => { d with candidates := d.candidates.set digest tree }

def Disk.eraseTree (d : Disk) : Place → Disk
  | .staging n => { d with staging := d.staging.erase n }
  | .final digest => { d with candidates := d.candidates.erase digest }

def Disk.onTree (d : Disk) (place : Place) (f : Tree → Tree) : Disk :=
  match d.tree? place with
  | some tree => d.setTree (f tree) place
  | none => d

/-- `_safe_remove_tree`, with its check that the directory exists. The directories below it go with
it. -/
def removeTree (place : Place) : Run Unit := do
  match ← read fun _ d => d.tree? place with
  | none => pure ()
  | some tree => do
    each (fun path => step fun d => d.onTree place fun tree =>
      { tree with files := tree.files.filter fun file => file.1 ≠ path }) (tree.files.map Prod.fst)
    step fun d => d.onTree place fun tree => { tree with candidate := none }
    step fun d => d.eraseTree place

/-! ## The candidate that is handed in -/

/-- A file handed in. `irregular` is a link, a special file or a file with several links. -/
inductive Entry
  | missing
  | irregular
  | regular (data : List UInt8)

/-- What the walk over the package handed in finds: a directory, which must be no link, or a file with
its path below the package. -/
inductive Item
  | directory (real : Bool)
  | file (path : String) (entry : Entry)

inductive Package
  | missing
  | irregular
  | directory (items : List Item)

/-- The path handed in, by its last part, with what is there and beside it. -/
structure Source where
  name : String
  candidate : Entry
  package : Package

/-- `_copy_regular`. A copy is one step; one that is cut short leaves a part of the file in a staging
directory, which nothing reads again. -/
def copyRegular (entry : Entry) (staging : Nat) (put : List UInt8 → Tree → Tree) (maximum : Nat)
    (label : String) : Run Unit :=
  match entry with
  | .missing => refuse "integrity-failure" ("cannot inspect " ++ label)
  | .irregular => refuse "permission-denied" (label ++ " is not a unique regular file")
  | .regular data =>
    if maximum < data.length then
      refuse "resource-limit" (label ++ " exceeds " ++ toString maximum ++ " bytes")
    else step fun d => d.onTree (.staging staging) (put data)

def Tree.putCandidate (data : List UInt8) (tree : Tree) : Tree :=
  { tree with candidate := some data }

def Tree.putFile (path : String) (data : List UInt8) (tree : Tree) : Tree :=
  { tree with files := tree.files ++ [(path, data)] }

/-- The walk of `_snapshot_candidate`, with the files and bytes so far. -/
def copyItems (staging : Nat) : List Item → Nat → Nat → Run Unit
  | [], _, _ => pure ()
  | .directory real :: rest, count, total => do
    refuseIf (real = false) "permission-denied" "package contains a linked or special directory"
    touch
    copyItems staging rest count total
  | .file path entry :: rest, count, total =>
    match entry with
    | .regular data => do
      refuseIf (maxPackageFiles < count + 1 ∨ maxPackageBytes < total + data.length)
        "resource-limit" "package exceeds file or byte limits"
      let _ ← check (artifactPath (.str path) "package path")
      copyRegular entry staging (Tree.putFile path) maxArtifactBytes path
      copyItems staging rest (count + 1) (total + data.length)
    | _ => refuse "permission-denied" "package contains a linked or special file"

/-- `_snapshot_candidate`. -/
def snapshotCandidate (source : Source) (staging : Nat) : Run Unit := do
  refuseIf (source.name ≠ "candidate.json")
    "invalid-argument" "input must be the frozen candidate.json"
  copyRegular source.candidate staging Tree.putCandidate maxCandidateBytes "candidate.json"
  match source.package with
  | .missing => refuse "integrity-failure" "candidate has no adjacent package directory"
  | .irregular => refuse "permission-denied" "candidate package is not a real directory"
  | .directory items => do
    touch
    copyItems staging items 0 0

/-! ## Rows -/

/-- `value.get(key)`, of a value that may be no dictionary. -/
def inner (value : Json) (key : String) : Option Json :=
  match value with
  | .obj members => some (field members key)
  | _ => none

def maxReasonBytes : Nat := 1024

/-- The binding of a stored record to its row. -/
def boundTo (row : Row) (value : List (String × Json)) : Bool :=
  asStr (field value "schema_version") = some recordSchema &&
    asStr (field value "state") = some row.state &&
    (row.state = "private" || row.state = "withdrawn") &&
    asStr (field value "visibility") = some "private" &&
    Json.dumps (field value "publication") = Json.dumps publication &&
    Json.dumps (field value "authority") = Json.dumps authority &&
    (inner (field value "app") "id").bind asStr = some row.appId &&
    (inner (field value "app") "version").bind asStr = some row.appVersion &&
    (inner (field value "digests") "package_sha256").bind asStr = some row.packageDigest &&
    (inner (field value "digests") "payload_binding_sha256").bind asStr = some row.payloadSha256 &&
    Json.dumps (field value "paths") = Json.dumps (paths row.packageDigest)

/-- The withdrawal fields of a stored record. -/
def checkWithdrawal (row : Row) (value : List (String × Json)) : Py Unit :=
  if row.state = "private" then
    raiseIf ((field value "withdrawn_at_utc").isNull = false ∨
        (field value "withdraw_reason").isNull = false)
      "integrity-failure" "private record carries forged withdrawal metadata"
  else do
    let _ ← utc (field value "withdrawn_at_utc") "withdrawn_at_utc"
    let _ ← text (field value "withdraw_reason") "withdraw_reason" maxReasonBytes

/-- `_row_record`. -/
def rowRecord (library : Library) (row : Row) : Py (List (String × Json)) :=
  match row.record with
  | .obj value => do
    raiseIf (boundTo row value = false)
      "integrity-failure" "stored record authority or digest binding is malformed"
    checkWithdrawal row value
    let app := field value "app"
    let shown ← presentation library (field value "presentation") ((inner app "kind").getD .null)
      ((inner app "display_name").getD .null) ((inner app "description").getD .null)
    return Json.setMember value "presentation" shown.toJson
  | _ => fail "integrity-failure" "stored record is malformed"

/-! ## Calls -/

/-- `mkdtemp`. -/
def mkdtemp : Run Nat := do
  let n ← read fun _ d => d.nextStaging
  step fun d => { d with staging := d.staging.set n .empty, nextStaging := n + 1 }
  return n

/-- `os.rename(staging, final)`. -/
def rename (staging : Nat) (digest : String) (d : Disk) : Disk :=
  match d.staging.get? staging with
  | some tree =>
    { d with staging := d.staging.erase staging, candidates := d.candidates.set digest tree }
  | none => d

/-- The row of a new release. `canonical_json` writes the members sorted. -/
def Release.row (r : Release) : Row :=
  ⟨r.packageSha256, r.appId, r.appVersion, r.payloadBindingSha256, "private",
    Json.sortKeys (.obj (r.members "private" .null .null))⟩

/-- Another row has the app version. -/
def Disk.hasVersion (d : Disk) (appId appVersion : String) : Bool :=
  d.rows.values.any fun row => row.appId = appId && row.appVersion = appVersion

/-- The transaction of `ingest` on a catalogued digest. -/
def ingestAgain (library : Library) (validated : Release) (row : Row) :
    Run (Bool × List (String × Json)) := do
  refuseIf (row.payloadSha256 ≠ validated.payloadBindingSha256)
    "conflict" "package digest already exists with a different payload"
  match ← read fun _ d => d.candidates.get? validated.packageSha256 with
  | none => refuse "integrity-failure" "catalog bytes are missing or linked"
  | some tree => do
    let record ← check (rowRecord library row)
    touch
    let stored ← check (validateSnapshot library tree (digestText record "ingested_at_utc"))
    refuseIf (stored.payloadBindingSha256 ≠ row.payloadSha256)
      "integrity-failure" "stored candidate bytes were modified"
    touch
    return (false, record)

/-- The transaction of `ingest` on a new digest. -/
def ingestNew (validated : Release) (staging : Nat) : Run (Bool × List (String × Json)) := do
  touch
  refuseIf (← read fun _ d => d.hasVersion validated.appId validated.appVersion)
    "conflict" "app version already exists with another package digest"
  refuseIf (← read fun _ d => d.candidates.contains validated.packageSha256)
    "integrity-failure" "orphan candidate path collides with the package digest"
  step (rename staging validated.packageSha256)
  modify fun d => { d with created := some validated.packageSha256 }
  touch
  step fun d => { d with rows := d.rows.set validated.packageSha256 validated.row }
  modify fun d => { d with created := none }
  return (true, validated.members "private" .null .null)

/-- `ingest` up to its first query: the copy, its validation, and `BEGIN IMMEDIATE`. -/
def prepare (library : Library) (source : Source) (staging : Nat) : Run Release := do
  snapshotCandidate source staging
  touch
  let tree ← read fun _ d => (d.staging.get? staging).getD .empty
  let now ← read fun env _ => env.now
  let validated ← check (validateSnapshot library tree now)
  touch
  touch
  return validated

/-- The part of `ingest` under `try`. -/
def ingestBody (library : Library) (source : Source) (staging : Nat) :
    Run (Bool × List (String × Json)) := do
  let validated ← prepare library source staging
  match ← read fun _ d => d.rows.get? validated.packageSha256 with
  | some row => ingestAgain library validated row
  | none => ingestNew validated staging

/-- The connection is closed, and the part of `ingest` under `finally`. -/
def ingestCleanup (staging : Nat) : Run Unit := do
  touch
  removeTree (.staging staging)
  match ← read fun _ d => d.created with
  | some digest => removeTree (.final digest)
  | none => pure ()

/-- `ingest`: whether the release is new, and its record. -/
def ingest (library : Library) (source : Source) : Run (Bool × List (String × Json)) := do
  let staging ← mkdtemp
  let result ← handle (ingestBody library source staging) fun e => do
    ingestCleanup staging
    raise e
  ingestCleanup staging
  return result

/-- `detail`. -/
def detail (library : Library) (packageDigest : Json) : Run (List (String × Json)) := do
  let packageDigest ← check (digest packageDigest "package_digest")
  touch
  match ← read fun _ d => d.rows.get? packageDigest with
  | none => refuse "not-found" "package digest is not in the local AppStore"
  | some row => do
    let record ← check (rowRecord library row)
    touch
    let tree ← read fun _ d => (d.candidates.get? packageDigest).getD .empty
    let stored ← check (validateSnapshot library tree (digestText record "ingested_at_utc"))
    refuseIf (stored.payloadBindingSha256 ≠ row.payloadSha256)
      "integrity-failure" "stored candidate bytes were modified"
    return record

/-- `withdraw`: whether the row changed, and its record. -/
def withdraw (library : Library) (packageDigest reason : Json) :
    Run (Bool × List (String × Json)) := do
  let packageDigest ← check (digest packageDigest "package_digest")
  let reason ← check (text reason "withdraw reason" maxReasonBytes)
  touch
  touch
  match ← read fun _ d => d.rows.get? packageDigest with
  | none => refuse "not-found" "package digest is not in the local AppStore"
  | some row => do
    let record ← check (rowRecord library row)
    if row.state = "withdrawn" then do
      refuseIf (asStr (field record "withdraw_reason") ≠ some reason)
        "conflict" "withdrawal is immutable and already has another reason"
      touch
      return (false, record)
    else do
      let now ← read fun env _ => env.now
      let record := Json.setMember record "state" (.str "withdrawn")
      let record := Json.setMember record "withdrawn_at_utc" (.str now)
      let record := Json.setMember record "withdraw_reason" (.str reason)
      let withdrawn : Row :=
        { row with state := "withdrawn", record := Json.sortKeys (.obj record) }
      touch
      step fun d => { d with rows := d.rows.set packageDigest withdrawn }
      return (true, record)

/-- `(app_id, app_version, package_digest)`, the order of a list. -/
def Row.sortKey (row : Row) : List String := [row.appId, row.appVersion, row.packageDigest]

/-- The row that a list goes on behind. -/
def cursorKey (cursor : Option Json) : Run (Option (List String)) :=
  match cursor with
  | none => pure none
  | some cursor => do
    let cursor ← check (digest cursor "cursor")
    touch
    match ← read fun _ d => d.rows.get? cursor with
    | none => refuse "not-found" "list cursor is not in the local AppStore"
    | some row => return some row.sortKey

/-- The rows of a list, in its order. -/
def Disk.listed (d : Disk) (includeWithdrawn : Bool) (after : Option (List String)) : List Row :=
  (d.rows.values.filter fun row =>
    (includeWithdrawn || row.state = "private") && after.all (· < row.sortKey)).insertionSort
      fun a b => a.sortKey ≤ b.sortKey

/-- `list`: the records of a page, and the cursor of the next one. -/
def listReleases (library : Library) (includeWithdrawn : Bool) (limit : Int)
    (cursor : Option Json) : Run (List (List (String × Json)) × Option String) := do
  refuseIf (¬ (1 ≤ limit ∧ limit ≤ 100))
    "resource-limit" "list limit must be between 1 and 100"
  let after ← cursorKey cursor
  touch
  let rows ← read fun _ d => (d.listed includeWithdrawn after).take (limit.toNat + 1)
  let page := rows.take limit.toNat
  let items ← check (page.mapM (rowRecord library))
  return (items, if limit.toNat < rows.length then page.getLast?.map Row.packageDigest else none)

/-! ## Runs -/

/-- A call of the store. -/
inductive Call
  | ingest (source : Source)
  | list (includeWithdrawn : Bool) (limit : Int) (cursor : Option Json)
  | detail (packageDigest : Json)
  | withdraw (packageDigest reason : Json)

/-- The disk at the start of a call. -/
def Disk.ready (d : Disk) : Disk := { d with created := none, tick := 0 }

/-- What a call leaves on disk. -/
def Disk.after (library : Library) (d : Disk) (env : Env) : Call → Disk
  | .ingest source => (ingest library source env d.ready).2
  | .list includeWithdrawn limit cursor =>
    (listReleases library includeWithdrawn limit cursor env d.ready).2
  | .detail packageDigest => (detail library packageDigest env d.ready).2
  | .withdraw packageDigest reason => (withdraw library packageDigest reason env d.ready).2

/-- The clock gives a whole second of UTC, as `_now_utc` does. -/
def Env.Clocked (env : Env) : Prop := ∀ label, utc (.str env.now) label = .ok env.now

/-- A call, whatever faults it meets. -/
def CallStep (library : Library) (call : Env × Call) (d e : Disk) : Prop :=
  call.1.Clocked ∧ e = d.after library call.1 call.2

/-- A call that meets no fault. -/
def Env.Quiet (env : Env) : Prop := ∀ t, env.fault t = none

end Vibapp.AppStore
