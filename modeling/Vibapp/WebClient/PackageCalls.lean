import Vibapp.WebClient.PackageStore

/-!
# The browser package store: calls

The methods of the store as calls that run up to their next `await`. Any number of stores share one
database, and between two steps of a call any others may take place: a call is made, an awaited promise
settles (a transaction is performed, or fails), a settled call goes on.

A stage is what `begin` closes over for `writeFile`, `commit` and `abort`; its number is its marker.
-/

namespace Vibapp.PackageStore

/-! ## Data -/

def minCacheBytes : Int := maxPackageBytes

def maxCacheBytes : Int := 2 * 1024 * 1024 * 1024

def defaultCacheBytes : Int := 256 * 1024 * 1024

def defaultStagingTtlMs : Int := 10 * 60 * 1000

/-- The variables of a store. -/
structure Store where
  cacheLimitBytes : Nat
  stagingTtlMs : Int
  activeStages : Dict String Nat
  cleanupPromise : Option Nat

/-- `createBrowserPackageStore`. -/
def createBrowserPackageStore (cacheLimitBytes stagingTtlMs : Option Int) : Except String Store := do
  let selectedCacheLimit ←
    boundedInteger cacheLimitBytes defaultCacheBytes minCacheBytes maxCacheBytes "cache-limit"
  let selectedStagingTtl ←
    boundedInteger stagingTtlMs defaultStagingTtlMs 1000 (24 * 60 * 60 * 1000) "staging-ttl"
  return ⟨selectedCacheLimit.toNat, selectedStagingTtl, ∅, none⟩

/-- The variables of a stage. -/
structure Stage where
  store : Nat
  plan : Plan
  stageToken : String
  observed : List String
  terminal : Bool

/-- `publicReceipt`, whose other members are constants. -/
structure Receipt where
  packageDigestSha256 : String
  fileCount : Nat
  sizeBytes : Nat
  committedAtUnixMs : Option Int
deriving DecidableEq

def publicReceipt (value : Package) : Receipt where
  packageDigestSha256 := value.plan.packageDigestSha256
  fileCount := value.plan.fileCount
  sizeBytes := value.plan.sizeBytes
  committedAtUnixMs :=
    match value.state with
    | .staging _ => none
    | .committed committedAtUnixMs => some committedAtUnixMs

/-- What `begin` returns. -/
inductive Handle where
  | alreadyCommitted (receipt : Receipt)
  | stage (number : Nat)

inductive Value where
  | none
  | handle (value : Handle)
  | receipt (value : Option Receipt)
  | bytes (value : ByteArray)

/-- The argument of `writeFile`; `bytes` is `none` for what is no buffer. -/
structure StagedFile where
  path : String
  sha256 : String
  sizeBytes : Int
  bytes : Option ByteArray

inductive Operation where
  | begin (store : Nat) (input : PlanInput)
  | writeFile (handle : Handle) (file : StagedFile)
  | commit (handle : Handle)
  | abort (handle : Handle)
  | getReceipt (digest : String)
  | readFile (digest path : String)
  | remove (store : Nat) (digest : String)
  | close (store : Nat)

/-- Where a call goes on, with the variables it has there. -/
inductive Frame where
  | cleanup (store : Nat)
  | beginCleaned (store : Nat) (plan : Plan)
  | beginFound (store : Nat) (plan : Plan)
  | beginStaged (store : Nat) (plan : Plan) (stageToken : String)
  | writeHashed (stage : Nat) (expected : Descriptor) (bytes : ByteArray)
  | writePut (stage : Nat) (expected : Descriptor)
  | committing (stage : Nat)
  | aborting
  /-- `catch { try { await abort(); } catch {} throw error; }` -/
  | throwing (error : String)
  /-- `await abort(); throw error;` -/
  | throwingAfter (error : String)
  | receipt
  | readFound (digest path : String)
  | readBytes (expected : Descriptor)
  | readHashed (expected : Descriptor) (bytes : ByteArray)
  | removing
  | closeFound (store : Nat) (digest : String) (rest : List String)
  | closeDiscarded (store : Nat) (digest : String) (rest : List String)

/-- What a call awaits. -/
inductive Awaited where
  | transaction (value : Transaction)
  | digest (bytes : ByteArray)
  | call (number : Nat)

/-- What an awaited promise resolves to. -/
inductive Answer where
  | reply (value : Reply)
  | digest (value : String)
  | done

def Answer.package? : Answer → Option Package
  | .reply (.package value) => value
  | _ => none

inductive Call where
  | waiting (frame : Frame) (awaited : Awaited)
  | settled (frame : Frame) (answer : Except String Answer)
  | finished (value : Except String Value)

structure World where
  db : Database
  stores : List Store
  stages : List Stage
  calls : List Call

namespace World

variable (w : World)

def setStore (k : Nat) (f : Store → Store) : World := { w with stores := w.stores.modify k f }

def setStage (i : Nat) (f : Stage → Stage) : World := { w with stages := w.stages.modify i f }

/-! ## The end of a stage -/

/-- `terminal = true`, and the marker is deleted if it is still there. -/
def closeStage (i : Nat) (s : Stage) : World :=
  (w.setStage i fun s => { s with terminal := true }).setStore s.store fun store =>
    if store.activeStages.get? s.plan.packageDigestSha256 = some i then
      { store with activeStages := store.activeStages.erase s.plan.packageDigestSha256 }
    else store

/-- `await abort()`: a stage that is closed has nothing to wait for. -/
def abort (i : Nat) (s : Stage) (frame : Frame) (otherwise : Except String Value) : World × Call :=
  if s.terminal = true then (w, .finished otherwise)
  else
    (w.closeStage i s, .waiting frame
      (.transaction (.discardStaging s.plan.packageDigestSha256 s.stageToken)))

/-- A step of a stage's method. There is a stage under the number of each handle. -/
def onStage (i : Nat) (f : Stage → World × Call) : World × Call :=
  match w.stages[i]? with
  | none => (w, .finished (.error "no stage"))
  | some s => f s

/-! ## A call is made -/

def onStore (k : Nat) (f : Store → World × Call) : World × Call :=
  match w.stores[k]? with
  | none => (w, .finished (.error "no store"))
  | some store => f store

/-- `cleanup`: the world, and the call whose promise it is. -/
def cleanup (k : Nat) (store : Store) (now : Int) : World × Nat :=
  match store.cleanupPromise with
  | some number => (w, number)
  | none =>
    ({ w.setStore k fun store => { store with cleanupPromise := some w.calls.length } with
        calls := w.calls ++
          [.waiting (.cleanup k) (.transaction (.cleanupStaging (now - store.stagingTtlMs)))] },
      w.calls.length)

def begin (k : Nat) (input : PlanInput) (now : Int) : World × Call :=
  w.onStore k fun store =>
    match packagePlan input with
    | .error error => (w, .finished (.error error))
    | .ok plan =>
      if store.activeStages.contains plan.packageDigestSha256 = true then
        (w, .finished (fail "stage-active"))
      else
        let (w, number) := w.cleanup k store now
        (w, .waiting (.beginCleaned k plan) (.call number))

/-- The checks of `writeFile` before its first `await`. -/
def checkFile (s : Stage) (file : StagedFile) : Except String (Descriptor × ByteArray) := do
  if s.terminal = true then fail "stage-closed"
  if isSafePackagePath file.path = false then fail "file-path"
  if file.path ∈ s.observed then fail "file-duplicate"
  match s.plan.files.find? file.path with
  | none => fail "file-descriptor-mismatch"
  | some expected =>
    if file.sha256 ≠ expected.sha256 ∨ file.sizeBytes ≠ expected.sizeBytes then
      fail "file-descriptor-mismatch"
    match file.bytes with
    | none => fail "file-bytes-type"
    | some bytes =>
      if bytes.size ≠ expected.sizeBytes then fail "file-size-mismatch"
      return (expected, bytes)

def writeFile (i : Nat) (file : StagedFile) : World × Call :=
  w.onStage i fun s =>
    match checkFile s file with
    | .error error => w.abort i s (.throwing error) (.error error)
    | .ok (expected, bytes) => (w, .waiting (.writeHashed i expected bytes) (.digest bytes))

/-- Each file of the plan has been written. -/
def Stage.observedAll (s : Stage) : Bool :=
  s.observed.length == s.plan.fileCount && s.plan.files.items.all fun item =>
    s.observed.contains item.path

def commit (i : Nat) (now : Int) : World × Call :=
  w.onStage i fun s =>
    if s.terminal = true then (w, .finished (fail "stage-closed"))
    else if Stage.observedAll s = false then
      w.abort i s (.throwingAfter "vibapp-browser-package-store:incomplete-stage")
        (fail "incomplete-stage")
    else
      w.onStore s.store fun store =>
        (w, .waiting (.committing i) (.transaction
          (.commitStaging s.plan.packageDigestSha256 s.stageToken store.cacheLimitBytes now)))

def remove (k : Nat) (digest : String) : World × Call :=
  if isSha256 digest = false then (w, .finished (fail "package-digest"))
  else
    w.onStore k fun store =>
      if store.activeStages.contains digest = true then (w, .finished (fail "stage-active"))
      else (w, .waiting .removing (.transaction (.removeCommitted digest)))

/-- The loop of `close`. -/
def closeNext (k : Nat) : List String → World × Call
  | [] => (w, .finished (.ok .none))
  | digest :: rest => (w, .waiting (.closeFound k digest rest) (.transaction (.getPackage digest)))

/-- A call up to its first `await`. -/
def start (now : Int) : Operation → World × Call
  | .begin k input => w.begin k input now
  | .writeFile (.alreadyCommitted _) _ => (w, .finished (fail "already-committed"))
  | .writeFile (.stage i) file => w.writeFile i file
  | .commit (.alreadyCommitted receipt) => (w, .finished (.ok (.receipt receipt)))
  | .commit (.stage i) => w.commit i now
  | .abort (.alreadyCommitted _) => (w, .finished (.ok .none))
  | .abort (.stage i) => w.onStage i fun s => w.abort i s .aborting (.ok .none)
  | .getReceipt digest =>
    if isSha256 digest = false then (w, .finished (fail "package-digest"))
    else (w, .waiting .receipt (.transaction (.getPackage digest)))
  | .readFile digest path =>
    if isSha256 digest = false then (w, .finished (fail "package-digest"))
    else if isSafePackagePath path = false then (w, .finished (fail "file-path"))
    else (w, .waiting (.readFound digest path) (.transaction (.getPackage digest)))
  | .remove k digest => w.remove k digest
  | .close k => w.onStore k fun store => w.closeNext k store.activeStages.keys

/-! ## A call goes on -/

def beginFound (k : Nat) (plan : Plan) (existing : Option Package) (now : Int)
    (stageToken : String) : World × Call :=
  match existing.filter Package.isCommitted with
  | some existing =>
    if sameInventory existing.plan plan = false then
      (w, .finished (fail "committed-inventory-conflict"))
    else (w, .finished (.ok (.handle (.alreadyCommitted (publicReceipt existing)))))
  | none =>
    (w, .waiting (.beginStaged k plan stageToken)
      (.transaction (.replaceStaging ⟨plan, .staging stageToken, now⟩)))

def beginStaged (k : Nat) (plan : Plan) (stageToken : String) : World × Call :=
  let number := w.stages.length
  ({ w.setStore k fun store =>
      { store with activeStages := store.activeStages.set plan.packageDigestSha256 number } with
      stages := w.stages ++ [⟨k, plan, stageToken, [], false⟩] },
    .finished (.ok (.handle (.stage number))))

def writeHashed (i : Nat) (expected : Descriptor) (bytes : ByteArray) (digest : String) :
    World × Call :=
  w.onStage i fun s =>
    if digest ≠ expected.sha256 then
      let error := "vibapp-browser-package-store:file-integrity"
      w.abort i s (.throwing error) (.error error)
    else
      (w, .waiting (.writePut i expected) (.transaction (.putStagedFile s.plan.packageDigestSha256
        s.stageToken expected.path ⟨expected.sha256, expected.sizeBytes, bytes⟩)))

def readFound (digest path : String) (value : Option Package) : World × Call :=
  match value.filter Package.isCommitted with
  | none => (w, .finished (fail "not-found"))
  | some value =>
    match value.plan.files.find? path with
    | none => (w, .finished (fail "not-found"))
    | some expected =>
      (w, .waiting (.readBytes expected) (.transaction (.readCommittedFile digest path)))

def closeFound (k : Nat) (digest : String) (rest : List String) (value : Option Package) :
    World × Call :=
  match value.bind Package.stageToken with
  | some stageToken =>
    (w, .waiting (.closeDiscarded k digest rest) (.transaction (.discardStaging digest stageToken)))
  | none =>
    (w.setStore k fun store =>
      { store with activeStages := store.activeStages.erase digest }).closeNext k rest

/-- A call from one `await` to the next. -/
def resume (now : Int) (stageToken : String) : Frame → Except String Answer → World × Call
  | .cleanup k, answer =>
    (w.setStore k fun store => { store with cleanupPromise := none },
      .finished (answer.map fun _ => .none))
  | .beginCleaned k plan, .ok _ =>
    (w, .waiting (.beginFound k plan) (.transaction (.getPackage plan.packageDigestSha256)))
  | .beginFound k plan, .ok answer => w.beginFound k plan answer.package? now stageToken
  | .beginStaged k plan stageToken, .ok _ => w.beginStaged k plan stageToken
  | .writeHashed i expected bytes, .ok (.digest digest) => w.writeHashed i expected bytes digest
  | .writeHashed i _ _, .error error =>
    w.onStage i fun s => w.abort i s (.throwing error) (.error error)
  | .writePut i expected, .ok _ =>
    (w.setStage i fun s => { s with observed := s.observed.insert expected.path },
      .finished (.ok .none))
  | .writePut i _, .error error =>
    w.onStage i fun s => w.abort i s (.throwing error) (.error error)
  | .committing i, .ok (.reply (.committed value)) =>
    w.onStage i fun s => (w.closeStage i s, .finished (.ok (.receipt (publicReceipt value))))
  | .committing i, .error error =>
    w.onStage i fun s => w.abort i s (.throwingAfter error) (.error error)
  | .aborting, answer => (w, .finished (answer.map fun _ => .none))
  | .throwing error, _ => (w, .finished (.error error))
  | .throwingAfter error, .ok _ => (w, .finished (.error error))
  | .receipt, .ok answer =>
    (w, .finished (.ok (.receipt ((answer.package?.filter Package.isCommitted).map publicReceipt))))
  | .readFound digest path, .ok answer => w.readFound digest path answer.package?
  | .readBytes expected, .ok (.reply (.bytes bytes)) =>
    if bytes.size ≠ expected.sizeBytes then (w, .finished (fail "committed-integrity"))
    else (w, .waiting (.readHashed expected bytes) (.digest bytes))
  | .readHashed expected bytes, .ok (.digest digest) =>
    if digest ≠ expected.sha256 then (w, .finished (fail "committed-integrity"))
    else (w, .finished (.ok (.bytes bytes)))
  | .removing, answer => (w, .finished (answer.map fun _ => .none))
  | .closeFound k digest rest, .ok answer => w.closeFound k digest rest answer.package?
  | .closeDiscarded k digest rest, .ok _ =>
    (w.setStore k fun store =>
      { store with activeStages := store.activeStages.erase digest }).closeNext k rest
  | _, .error error => (w, .finished (.error error))
  | _, .ok _ => (w, .finished (.error "no such answer"))

/-! ## A promise settles -/

def setCall (n : Nat) (call : Call) : World := { w with calls := w.calls.set n call }

/-- What is awaited comes about. The promise of a call settles once the call has finished. -/
def settle (sha256Hex : ByteArray → String) (n : Nat) : World :=
  match w.calls[n]? with
  | some (.waiting frame (.transaction t)) =>
    match perform w.db t with
    | .ok (db, reply) => { w with db := db }.setCall n (.settled frame (.ok (.reply reply)))
    | .error error => w.setCall n (.settled frame (.error error))
  | some (.waiting frame (.digest bytes)) =>
    w.setCall n (.settled frame (.ok (.digest (sha256Hex bytes))))
  | some (.waiting frame (.call k)) =>
    match w.calls[k]? with
    | some (.finished value) => w.setCall n (.settled frame (value.map fun _ => .done))
    | _ => w
  | _ => w

/-- The database, or the digest, fails. -/
def reject (n : Nat) (error : String) : World :=
  match w.calls[n]? with
  | some (.waiting frame (.transaction _)) => w.setCall n (.settled frame (.error error))
  | some (.waiting frame (.digest _)) => w.setCall n (.settled frame (.error error))
  | _ => w

end World

/-! ## Runs -/

inductive Event where
  | create (cacheLimitBytes stagingTtlMs : Option Int)
  | call (operation : Operation) (now : Int)
  | settle (number : Nat)
  | reject (number : Nat) (error : String)
  | resume (number : Nat) (now : Int) (stageToken : String)

/-- One step of any of the stores, or of the database. -/
def World.next (w : World) (sha256Hex : ByteArray → String) : Event → World
  | .create cacheLimitBytes stagingTtlMs =>
    match createBrowserPackageStore cacheLimitBytes stagingTtlMs with
    | .ok store => { w with stores := w.stores ++ [store] }
    | .error _ => w
  | .call operation now =>
    let (w, call) := w.start now operation
    { w with calls := w.calls ++ [call] }
  | .settle n => w.settle sha256Hex n
  | .reject n error => w.reject n error
  | .resume n now stageToken =>
    match w.calls[n]? with
    | some (.settled frame answer) =>
      let (w, call) := w.resume now stageToken frame answer
      w.setCall n call
    | _ => w

def World.empty : World := ⟨⟨∅, ∅⟩, [], [], []⟩

def World.after (w : World) (sha256Hex : ByteArray → String) (events : List Event) : World :=
  events.foldl (fun w e => w.next sha256Hex e) w

end Vibapp.PackageStore
