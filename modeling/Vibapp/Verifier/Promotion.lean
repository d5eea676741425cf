import Vibapp.Lib.Dict
import Vibapp.Lib.Fault
import Vibapp.Verifier.Quarantine

/-!
# Promotion

`verify_and_promote`: the checks, the copy into a staging directory, the rename to
`candidates/<digest>`, the recheck of a candidate that is there, and the rejection decision. A call
holds the verifier's lock, so calls follow one another; one that finds it held raises `busy`. Each
step that touches the disk is one at which the environment may raise or stop the process.

The names of staging directories and temporary files begin with a dot, and nothing reads them
again. `candidate.json` is read back as the record that was written.
-/

namespace Vibapp.Verifier

open Prog

variable {μ θ : Type}

/-! ## The disk -/

/-- `candidate.json`, as far as it is not constant. -/
structure Record where
  jobId : String
  sourceTreeSha256 : String
  packageDigestSha256 : String
  component : Descriptor
  manifest : Descriptor
  quarantineReceiptSha256 : String
  presentation : Presentation
  verifiedAtUtc : String
  checks : List Check
deriving DecidableEq, Repr

/-- A staging or candidate directory: the package below it, and `candidate.json`. -/
structure Candidate where
  package : Option (List (String × List UInt8))
  record : Option Record
deriving DecidableEq, Repr

def Candidate.empty : Candidate := ⟨none, none⟩

/-- What is at `package` below the directory. -/
def Candidate.tree (candidate : Candidate) : Package :=
  match candidate.package with
  | none => .missing
  | some files => .directory (files.map fun file => (file.1, .regular file.2))

def Candidate.putFile (name : String) (data : List UInt8) (candidate : Candidate) : Candidate :=
  { candidate with package := candidate.package.map (· ++ [(name, data)]) }

/-- A rejection. The detail is missing where it is the text of a Python exception. -/
structure Decision where
  receiptReferenceSha256 : String
  quarantineReceiptSha256 : Option String
  code : String
  detail : Option String
  decidedAtUtc : String
deriving DecidableEq, Repr

/-- The output root. `tick` counts the steps. -/
structure Disk where
  candidates : Dict String Candidate
  staging : Dict Nat Candidate
  nextStaging : Nat
  decisions : Dict String Decision
  tick : Nat

def Disk.empty : Disk := ⟨∅, ∅, 0, ∅, 0⟩

/-! ## Steps -/

inductive Fault
  | fails | stops
deriving DecidableEq, Repr

/-- The steps outside the checks and the promotion. -/
inductive Outer
  | prepare
  | release
  | readReceipt
  | decisions
  | decisionDirectory
  | writeTemporary
  | replaceDecision
  | chmodDecision
deriving DecidableEq, Repr

/-- The expression that a candidate's timestamp must match. -/
def isTimestamp (library : Library μ θ) (text : String) : Bool :=
  let digits (n : Nat) (cs : List Char) : Bool :=
    cs.length = n && cs.all library.isDecimal
  let cs := text.toList
  let rest := cs.drop 19
  let zone (cs : List Char) : Bool := cs = ['Z'] || cs = "+00:00".toList
  digits 4 (cs.take 4) && (cs.drop 4).head? = some '-' && digits 2 ((cs.drop 5).take 2) &&
    (cs.drop 7).head? = some '-' && digits 2 ((cs.drop 8).take 2) &&
    (cs.drop 10).head? = some 'T' && digits 2 ((cs.drop 11).take 2) &&
    (cs.drop 13).head? = some ':' && digits 2 ((cs.drop 14).take 2) &&
    (cs.drop 16).head? = some ':' && digits 2 ((cs.drop 17).take 2) &&
    match rest with
    | '.' :: more =>
      library.isDecimal (more.headD ' ') && zone (more.dropWhile library.isDecimal)
    | _ => zone rest

/-- What a call meets: the quarantine at its path, the tools, the time, and the faults. -/
structure Env (library : Library μ θ) where
  quarantine : Quarantine
  tools : θ
  now : { text : String // isTimestamp library text = true }
  busy : Bool
  fault : Nat → Option Fault
  outer : Outer → Option Fault

variable {library : Library μ θ}

abbrev Run (library : Library μ θ) (α : Type) := Prog (Env library) Disk Raised α

/-- A step that is done or not. -/
def perform (fault : Option Fault) (done : Disk → Disk) : Run library Unit :=
  match fault with
  | none => modify done
  | some .fails => raise .os
  | some .stops => stop

/-- A step of the checks or of the promotion. -/
def step (done : Disk → Disk) : Run library Unit := do
  let t ← read fun _ d => d.tick
  modify fun d => { d with tick := t + 1 }
  perform (← read fun env _ => env.fault t) done

/-- A step that changes nothing that is modelled. -/
def touch : Run library Unit := step id

def outerStep (s : Outer) (done : Disk → Disk) : Run library Unit := do
  perform (← read fun env _ => env.outer s) done

/-- A computation on values. -/
def check {α : Type} : Py α → Run library α
  | .ok a => pure a
  | .error e => raise e

def refuse {α : Type} (code message : String) : Run library α := raise (.pipeline ⟨code, message⟩)

/-! ## The promotion -/

/-- The checks, with the steps that read. -/
def verifyRun : Run library Accepted := do
  let quarantine ← read fun env _ => env.quarantine
  let tools ← read fun env _ => env.tools
  touch
  let receipt ← check (validateReceipt library quarantine)
  touch
  let tree ← check (validatePackageTree library quarantine.package receipt)
  touch
  let digests ← check (validateDigests library quarantine.package receipt tree.1 tree.2)
  touch
  let wasm ← check (library.runWasmChecks tools digests.2.2 tree.2)
  touch
  let guest ← check (library.reconcileGuestDescriptor tools digests.2.2 tree.2)
  touch
  let receiptDigest ← check
    (sha256File library quarantine.receipt maxJsonBytes "quarantine receipt")
  pure {
    receipt := receipt
    digest := digests.2.1
    presentation := digests.1
    checks := fixedChecks ++ wasm ++ [guest]
    receiptDigest := receiptDigest }

def Disk.stage (d : Disk) (n : Nat) (f : Candidate → Candidate) : Disk :=
  match d.staging.get? n with
  | some candidate => { d with staging := d.staging.set n (f candidate) }
  | none => d

/-- What is staged. -/
def staged (n : Nat) : Run library Candidate :=
  read fun _ d => (d.staging.get? n).getD .empty

/-- `remove_tree` of a staging directory. -/
def removeStaging (n : Nat) : Run library Unit :=
  step fun d => { d with staging := d.staging.erase n }

/-- `tempfile.mkdtemp`, with the `chmod` after it. -/
def makeStaging : Run library Nat := do
  let n ← read fun _ d => d.nextStaging
  step fun d => { d with nextStaging := n + 1, staging := d.staging.set n .empty }
  touch
  pure n

/-- `exclusive_copy` of a package file. One that is cut short leaves a part of the file in the
staging directory. -/
def copyFile (n : Nat) (name : String) : Run library Unit := do
  let quarantine ← read fun env _ => env.quarantine
  let data ← check (readBounded (quarantine.package.entry name) maxPackageBytes
    ("copy source " ++ name))
  step fun d => d.stage n (Candidate.putFile name data)

/-- The two checks of the copied files. -/
def checkCopies (n : Nat) (accepted : Accepted) : Run library Unit := do
  touch
  let candidate ← staged n
  let data ← check (readBounded (candidate.tree.entry "manifest.json") maxJsonBytes
    "promoted manifest")
  let value ← check (library.loadJson data)
  let digest ← check (library.packageDigest value)
  check (require (digest = accepted.digest) "integrity-failure"
    "promoted package bytes changed during copy")
  each (fun row => do
    touch
    let sha256 ← check (sha256File library (candidate.tree.entry row.path) maxPackageBytes
      row.path)
    check (require (sha256 = row.sha256) "integrity-failure"
      "promoted package file changed during copy")) accepted.receipt.packageFiles

/-- `stat().st_size` of a copied file. -/
def Candidate.fileSize (candidate : Candidate) (name : String) : Nat :=
  match candidate.tree.entry name with
  | .regular data => data.length
  | _ => 0

/-- The record of a promotion. -/
def recordOf (accepted : Accepted) (candidate : Candidate) (now : String) : Record where
  jobId := accepted.receipt.jobId
  sourceTreeSha256 := accepted.receipt.sourceTreeSha256
  packageDigestSha256 := accepted.digest
  component := ⟨accepted.receipt.componentSha256, candidate.fileSize "component.wasm"⟩
  manifest := ⟨accepted.receipt.manifestSha256, candidate.fileSize "manifest.json"⟩
  quarantineReceiptSha256 := accepted.receiptDigest
  presentation := accepted.presentation
  verifiedAtUtc := now
  checks := accepted.checks

/-- The comparison with a candidate that is there. -/
def recheckExisting (n : Nat) (accepted : Accepted) (record : Record) (existing : Candidate) :
    Run library String := do
  touch
  check (require (existing.package.isSome && existing.record.isSome) "integrity-failure"
    "existing candidate tree differs")
  touch
  let _ ← check (validatePackageTree library existing.tree accepted.receipt)
  touch
  let previous := existing.record.getD record
  check (require (isTimestamp library previous.verifiedAtUtc) "integrity-failure"
    "existing candidate timestamp invalid")
  check (require (previous = { record with verifiedAtUtc := previous.verifiedAtUtc })
    "integrity-failure" "existing candidate receipt differs")
  each (fun row => do
    touch
    let sha256 ← check (sha256File library (existing.tree.entry row.path) maxPackageBytes
      row.path)
    check (require (sha256 = row.sha256) "integrity-failure"
      "existing candidate bytes differ")) accepted.receipt.packageFiles
  removeStaging n
  pure accepted.digest

/-- The rename of the staging directory, after its record is written. -/
def commit (n : Nat) (digest : String) (record : Record) : Run library String := do
  touch
  step fun d => d.stage n fun candidate => { candidate with record := some record }
  touch
  let candidate ← staged n
  step fun d => { d with
    candidates := d.candidates.set digest candidate
    staging := d.staging.erase n }
  pure digest

/-- What the `try` in `_verify_and_promote_impl` does. -/
def promoteStaged (n : Nat) (accepted : Accepted) : Run library String := do
  step fun d => d.stage n fun candidate => { candidate with package := some [] }
  each (copyFile n) expectedPackageFiles
  checkCopies n accepted
  let candidate ← staged n
  let now ← read fun env _ => env.now.1
  touch
  match ← read fun _ d => d.candidates.get? accepted.digest with
  | some existing => recheckExisting n accepted (recordOf accepted candidate now) existing
  | none => commit n accepted.digest (recordOf accepted candidate now)

/-- What `_verify_and_promote_impl` does under the lock. -/
def promoteLocked (recheckExisting : Bool) : Run library String := do
  if ← read fun env _ => env.busy then
    refuse "busy" "another verifier job is active"
  else
    let accepted ← verifyRun
    touch
    if ← read fun _ d => d.candidates.contains accepted.digest && !recheckExisting then
      refuse "conflict" "candidate digest already exists"
    else
      let n ← makeStaging
      handle (promoteStaged n accepted) fun e => do
        removeStaging n
        raise e

/-- `_verify_and_promote_impl`. -/
def verifyAndPromoteImpl (recheckExisting : Bool) : Run library String := do
  touch
  touch
  touch
  ensure (promoteLocked recheckExisting) (outerStep .release id)

/-! ## The decision -/

def Raised.code : Raised → String
  | .pipeline e => e.code
  | _ => "internal"

def Raised.detail : Raised → Option String
  | .pipeline e => some (e.message.take 4096).toString
  | _ => none

/-- The digest of the rejected receipt, where it can be read. -/
def rejectedDigest : Run library (Option String) :=
  handle
    (do
      let quarantine ← read fun env _ => env.quarantine
      outerStep .readReceipt id
      let digest ← check
        (sha256File library quarantine.receipt maxJsonBytes "rejected quarantine receipt")
      pure (some digest))
    fun e => if e.handled then pure none else raise e

/-- `_record_rejection`, for the receipt path with the digest `reference`. -/
def recordRejection (reference : String) (error : Raised) : Run library Unit := do
  let digest ← rejectedDigest
  outerStep .decisions id
  outerStep .decisionDirectory id
  let now ← read fun env _ => env.now.1
  outerStep .writeTemporary id
  outerStep .replaceDecision fun d => { d with
    decisions := d.decisions.set reference {
      receiptReferenceSha256 := reference
      quarantineReceiptSha256 := digest
      code := error.code
      detail := error.detail
      decidedAtUtc := now } }
  outerStep .chmodDecision id

/-- `verify_and_promote`. -/
def verifyAndPromote (reference : String) (recheckExisting : Bool) : Run library String := do
  outerStep .prepare id
  handle (verifyAndPromoteImpl recheckExisting) fun error =>
    if error.handled then do
      handle (recordRejection reference error) fun decisionError =>
        if decisionError.handled then
          refuse "decision-write-failed"
            ("verification rejected (" ++ error.code ++ ") and durable decision failed")
        else raise decisionError
      raise error
    else raise error

end Vibapp.Verifier
