import Mathlib
import Vibapp.Lib.Dict
import Vibapp.Lib.Except

/-!
# The browser package store: plans and transactions

`packagePlan` of the store, and the transactions of its IndexedDB backend: one row for each package
and one for each file. A transaction is atomic, and one that fails changes nothing.

**Main results.** `Exact.perform`: no transaction breaks the exactness of the committed packages.
`perform_committed`: a committed package is changed by its removal only.
-/

namespace Vibapp

/-! ## Removal by key -/

namespace Dict

universe u v

variable {κ : Type u} {ν : Type v} [DecidableEq κ]

/-- The entries whose keys are wanted. -/
def filterKeys (d : Dict κ ν) (p : κ → Bool) : Dict κ ν where
  entries := d.entries.filter fun entry => p entry.1
  nodup := d.nodup.sublist (List.filter_sublist.map Prod.fst)

theorem get?_filterKeys (d : Dict κ ν) (p : κ → Bool) (k : κ) :
    (d.filterKeys p).get? k = if p k = true then d.get? k else none := by
  refine Option.ext fun v => ?_
  rw [← mem_entries_iff]
  by_cases hk : p k = true
  · rw [if_pos hk, ← mem_entries_iff]
    exact List.mem_filter.trans (and_iff_left hk)
  · rw [if_neg hk]
    exact ⟨fun h => absurd (List.mem_filter.1 h).2 hk, fun h => by cases h⟩

end Dict

namespace PackageStore

/-! ## Plans -/

def maxPackageBytes : Nat := 64 * 1024 * 1024

def maxPackageFiles : Nat := 128

def maxSafeInteger : Int := 2 ^ 53 - 1

/-- `fail`. -/
def fail {α : Type} (reason : String) : Except String α :=
  .error ("vibapp-browser-package-store:" ++ reason)

/-- `SHA256`. -/
def isSha256 (value : String) : Bool :=
  value.toList.length == 64 && value.toList.all fun c => c.isDigit || ('a' ≤ c && c ≤ 'f')

/-- The characters of a path. -/
def isPathChar (c : Char) : Bool :=
  c.isAlphanum || c == '.' || c == '_' || c == '/' || c == '-'

/-- `SAFE_PACKAGE_PATH`: no slash in front, no two slashes in a row, and no part that is `.` or `..`. -/
def isSafePackagePath (value : String) : Bool :=
  let parts := value.toList.splitOn '/'
  value.toList.length ≤ 240 && value.toList.all isPathChar && parts.head? != some [] &&
    parts.dropLast.all (· != []) && parts.all fun part => part != ['.'] && part != ['.', '.']

/-- An item of `files`, as it is handed in. `none`: the number is undefined. -/
structure FileInput where
  path : String
  sha256 : String
  sizeBytes : Option Int

/-- The argument of `begin`. -/
structure PlanInput where
  packageDigestSha256 : String
  files : List FileInput
  sizeBytes : Option Int

/-- A file of a plan. -/
structure Descriptor where
  path : String
  sha256 : String
  sizeBytes : Nat
deriving DecidableEq

/-- `boundedInteger`. -/
def boundedInteger (value : Option Int) (fallback : Option Int) (minimum maximum : Int)
    (reason : String) : Except String Int :=
  match value <|> fallback with
  | none => fail reason
  | some selected =>
    if selected < -maxSafeInteger ∨ maxSafeInteger < selected ∨ selected < minimum ∨
        maximum < selected then fail reason
    else .ok selected

/-- `descriptor`. -/
def descriptor (value : FileInput) : Except String Descriptor := do
  if isSafePackagePath value.path = false then fail "file-path"
  if isSha256 value.sha256 = false then fail "file-sha256"
  let sizeBytes ← boundedInteger value.sizeBytes none 1 maxPackageBytes "file-size"
  return ⟨value.path, value.sha256, sizeBytes.toNat⟩

/-- The files of a plan, with distinct paths. -/
structure Files where
  items : List Descriptor
  nodup : (items.map Descriptor.path).Nodup
deriving DecidableEq

namespace Files

def paths (files : Files) : List String := files.items.map Descriptor.path

def sizeBytes (files : Files) : Nat := (files.items.map Descriptor.sizeBytes).sum

/-- `files.find(item => item.path === path)`. -/
def find? (files : Files) (path : String) : Option Descriptor :=
  files.items.find? fun item => item.path == path

theorem mem_of_find? {files : Files} {path : String} {item : Descriptor}
    (h : files.find? path = some item) : item ∈ files.items ∧ item.path = path :=
  ⟨List.mem_of_find?_eq_some h, by simpa using List.find?_some h⟩

/-- A path names one file. -/
theorem eq_of_path {files : Files} {a b : Descriptor} (ha : a ∈ files.items) (hb : b ∈ files.items)
    (h : a.path = b.path) : a = b :=
  List.inj_on_of_nodup_map files.nodup ha hb h

/-- One item of the input. -/
def add (files : Files) (value : FileInput) : Except String Files := do
  let selected ← descriptor value
  if h : selected.path ∈ files.items.map Descriptor.path then fail "file-duplicate"
  else if maxPackageBytes < files.sizeBytes + selected.sizeBytes then fail "package-size"
  else
    return {
      items := files.items ++ [selected]
      nodup := by
        rw [List.map_append]
        exact List.nodup_append.2 ⟨files.nodup, List.nodup_singleton _, fun a ha b hb hab =>
          h (by rw [List.map_singleton, List.mem_singleton] at hb; exact hb ▸ hab ▸ ha)⟩ }

end Files

/-- What `packagePlan` returns; `fileCount` and `sizeBytes` are those of the files. -/
structure Plan where
  packageDigestSha256 : String
  files : Files
deriving DecidableEq

def Plan.fileCount (plan : Plan) : Nat := plan.files.items.length

def Plan.sizeBytes (plan : Plan) : Nat := plan.files.sizeBytes

/-- `packagePlan`. -/
def packagePlan (input : PlanInput) : Except String Plan := do
  if isSha256 input.packageDigestSha256 = false then fail "package-digest"
  if input.files.length < 2 ∨ maxPackageFiles < input.files.length then fail "file-count"
  let files ← input.files.foldlM Files.add ⟨[], List.nodup_nil⟩
  if "candidate.json" ∉ files.paths ∨ "package/manifest.json" ∉ files.paths then
    fail "package-layout"
  if files.sizeBytes < 2 then fail "package-size"
  if input.sizeBytes.isSome ∧ input.sizeBytes ≠ some (files.sizeBytes : Int) then
    fail "package-size"
  return ⟨input.packageDigestSha256, files⟩

/-- `sameInventory`, for a package that is there. -/
def sameInventory (left right : Plan) : Bool :=
  left.sizeBytes == right.sizeBytes && left.fileCount == right.fileCount &&
    right.files.items.all fun item => left.files.find? item.path == some item

/-! ## Rows -/

inductive PackageState where
  | staging (stageToken : String)
  | committed (committedAtUnixMs : Int)
deriving DecidableEq

/-- A row of `packages`. -/
structure Package where
  plan : Plan
  state : PackageState
  createdAtUnixMs : Int
deriving DecidableEq

/-- The token of a package that is staged. -/
def Package.stageToken (p : Package) : Option String :=
  match p.state with
  | .staging stageToken => some stageToken
  | .committed _ => none

def Package.isCommitted (p : Package) : Bool := p.stageToken.isNone

/-- A row of `files`, without its key. -/
structure StoredFile where
  sha256 : String
  sizeBytes : Nat
  bytes : ByteArray
deriving DecidableEq

/-- The database: packages by digest, files by digest and path. -/
structure Database where
  packages : Dict String Package
  files : Dict (String × String) StoredFile

namespace Database

variable (db : Database)

def package? (digest : String) : Option Package := db.packages.get? digest

def file? (digest path : String) : Option StoredFile := db.files.get? (digest, path)

/-- The second parts of the keys that `getAllKeys` finds for a package. -/
def storedPaths (digest : String) : List String :=
  (db.files.keys.filter fun key => key.1 == digest).map Prod.snd

/-- `deletePackageFiles`, for some packages. -/
def deleteFiles (digests : List String) : Database :=
  { db with files := db.files.filterKeys fun key => !digests.contains key.1 }

/-- `packages.delete`, for some packages. -/
def deletePackages (digests : List String) : Database :=
  { db with packages := db.packages.filterKeys fun key => !digests.contains key }

def putPackage (value : Package) : Database :=
  { db with packages := db.packages.set value.plan.packageDigestSha256 value }

def putFile (digest path : String) (value : StoredFile) : Database :=
  { db with files := db.files.set (digest, path) value }

/-- The bytes that are committed, but for those of one package. -/
def committedBytes (except : String) : Nat :=
  ((db.packages.entries.filter fun row => row.2.isCommitted && row.1 != except).map fun row =>
    row.2.plan.sizeBytes).sum

end Database

/-! ## Transactions -/

inductive Transaction where
  | cleanupStaging (cutoffUnixMs : Int)
  | getPackage (digest : String)
  | replaceStaging (value : Package)
  | putStagedFile (digest stageToken path : String) (value : StoredFile)
  | commitStaging (digest stageToken : String) (cacheLimitBytes : Nat) (committedAtUnixMs : Int)
  | discardStaging (digest stageToken : String)
  | readCommittedFile (digest path : String)
  | removeCommitted (digest : String)

/-- What a transaction resolves to. -/
inductive Reply where
  | done
  | package (value : Option Package)
  | committed (value : Package)
  | bytes (value : ByteArray)

/-- The package is staged under the token. -/
def Database.Stages (db : Database) (digest stageToken : String) : Prop :=
  (db.package? digest).bind Package.stageToken = some stageToken

instance (db : Database) (digest stageToken : String) : Decidable (db.Stages digest stageToken) :=
  inferInstanceAs (Decidable (_ = _))

/-- The packages that `cleanupStaging` deletes. -/
def Database.stale (db : Database) (cutoffUnixMs : Int) : List String :=
  (db.packages.entries.filter fun row =>
    !row.2.isCommitted && decide (row.2.createdAtUnixMs ≤ cutoffUnixMs)).map Prod.fst

/-- `putStagedFile`. -/
def putStagedFile (db : Database) (digest stageToken path : String) (value : StoredFile) :
    Except String Database :=
  match db.package? digest with
  | none => fail "stale-stage"
  | some item =>
    if item.stageToken ≠ some stageToken then fail "stale-stage"
    else
      match item.plan.files.find? path with
      | none => fail "file-descriptor-mismatch"
      | some expected =>
        if expected.sha256 ≠ value.sha256 ∨ expected.sizeBytes ≠ value.sizeBytes ∨
            value.bytes.size ≠ expected.sizeBytes then fail "file-descriptor-mismatch"
        else .ok (db.putFile digest path value)

/-- `commitStaging`. -/
def commitStaging (db : Database) (digest stageToken : String) (cacheLimitBytes : Nat)
    (committedAtUnixMs : Int) : Except String (Database × Package) :=
  match db.package? digest with
  | none => fail "stale-stage"
  | some item =>
    if item.stageToken ≠ some stageToken then fail "stale-stage"
    else if (db.storedPaths digest).length ≠ item.plan.fileCount ∨
        ∃ file ∈ item.plan.files.items, file.path ∉ db.storedPaths digest then
      fail "incomplete-stage"
    else if maxSafeInteger < db.committedBytes digest ∨
        cacheLimitBytes < db.committedBytes digest + item.plan.sizeBytes then fail "cache-limit"
    else
      let committed := { item with state := .committed committedAtUnixMs }
      .ok (db.putPackage committed, committed)

/-- A transaction, and what it resolves to. -/
def perform (db : Database) : Transaction → Except String (Database × Reply)
  | .cleanupStaging cutoffUnixMs =>
    .ok (((db.deletePackages (db.stale cutoffUnixMs)).deleteFiles (db.stale cutoffUnixMs)), .done)
  | .getPackage digest => .ok (db, .package (db.package? digest))
  | .replaceStaging value =>
    if (db.package? value.plan.packageDigestSha256).any Package.isCommitted then
      fail "already-committed"
    else .ok ((db.deleteFiles [value.plan.packageDigestSha256]).putPackage value, .done)
  | .putStagedFile digest stageToken path value => do
    return (← putStagedFile db digest stageToken path value, .done)
  | .commitStaging digest stageToken cacheLimitBytes committedAtUnixMs => do
    let (db, committed) ← commitStaging db digest stageToken cacheLimitBytes committedAtUnixMs
    return (db, .committed committed)
  | .discardStaging digest stageToken =>
    if db.Stages digest stageToken then
      .ok ((db.deleteFiles [digest]).deletePackages [digest], .done)
    else .ok (db, .done)
  | .readCommittedFile digest path =>
    match db.package? digest, db.file? digest path with
    | some item, some file => if item.isCommitted then .ok (db, .bytes file.bytes) else fail "not-found"
    | _, _ => fail "not-found"
  | .removeCommitted digest =>
    if (db.package? digest).any Package.isCommitted then
      .ok ((db.deleteFiles [digest]).deletePackages [digest], .done)
    else .ok (db, .done)

/-! ### What they find afterwards -/

namespace Database

variable {db : Database}

@[simp] theorem package?_deleteFiles (digests : List String) (d : String) :
    (db.deleteFiles digests).package? d = db.package? d := rfl

@[simp] theorem file?_deletePackages (digests : List String) (d path : String) :
    (db.deletePackages digests).file? d path = db.file? d path := rfl

@[simp] theorem package?_putFile (digest path : String) (value : StoredFile) (d : String) :
    (db.putFile digest path value).package? d = db.package? d := rfl

@[simp] theorem file?_putPackage (value : Package) (d path : String) :
    (db.putPackage value).file? d path = db.file? d path := rfl

theorem file?_deleteFiles (digests : List String) (d path : String) :
    (db.deleteFiles digests).file? d path = if d ∈ digests then none else db.file? d path := by
  unfold deleteFiles file?
  rw [Dict.get?_filterKeys]
  by_cases h : d ∈ digests <;> simp [h]

theorem package?_deletePackages (digests : List String) (d : String) :
    (db.deletePackages digests).package? d = if d ∈ digests then none else db.package? d := by
  unfold deletePackages package?
  rw [Dict.get?_filterKeys]
  by_cases h : d ∈ digests <;> simp [h]

theorem package?_putPackage (value : Package) (d : String) :
    (db.putPackage value).package? d =
      if d = value.plan.packageDigestSha256 then some value else db.package? d :=
  Dict.get?_set _ _ _ _

theorem file?_putFile (digest path : String) (value : StoredFile) (d q : String) :
    (db.putFile digest path value).file? d q =
      if d = digest ∧ q = path then some value else db.file? d q := by
  unfold putFile file?
  rw [Dict.get?_set]
  simp only [Prod.mk.injEq]

theorem mem_storedPaths {digest path : String} :
    path ∈ db.storedPaths digest ↔ ∃ file, db.file? digest path = some file := by
  unfold storedPaths file?
  rw [← Dict.mem_keys_iff, List.mem_map]
  constructor
  · rintro ⟨⟨d, q⟩, hmem, rfl⟩
    obtain ⟨hkey, hd⟩ := List.mem_filter.1 hmem
    rw [← beq_iff_eq.1 hd]
    exact hkey
  · intro h
    exact ⟨(digest, path), List.mem_filter.2 ⟨h, beq_self_eq_true _⟩, rfl⟩

end Database

/-! ### What a transaction changes -/

/-- The package and the token that a transaction carries. -/
def Transaction.carries : Transaction → Option (String × String)
  | .putStagedFile digest stageToken _ _ => some (digest, stageToken)
  | .commitStaging digest stageToken _ _ => some (digest, stageToken)
  | .discardStaging digest stageToken => some (digest, stageToken)
  | _ => none

/-- A transaction that succeeds, from its two ends. -/
inductive Change (db : Database) : Transaction → Database → Reply → Prop where
  | none {t : Transaction} {reply : Reply} : (∀ p, reply ≠ .committed p) → Change db t db reply
  | delete {t : Transaction} {digests : List String} :
    (∀ d ∈ digests, (∀ p, db.package? d = some p → p.isCommitted = false) ∨
      t = .removeCommitted d) →
    (∀ carried ∈ t.carries, db.Stages carried.1 carried.2) →
    Change db t ((db.deleteFiles digests).deletePackages digests) .done
  | stage {value : Package} :
    (∀ p, db.package? value.plan.packageDigestSha256 = some p → p.isCommitted = false) →
    Change db (.replaceStaging value)
      ((db.deleteFiles [value.plan.packageDigestSha256]).putPackage value) .done
  | write {digest stageToken path : String} {value : StoredFile} {item : Package}
    {expected : Descriptor} :
    db.package? digest = some item → item.state = .staging stageToken →
    expected ∈ item.plan.files.items → expected.path = path → expected.sha256 = value.sha256 →
    expected.sizeBytes = value.sizeBytes → value.bytes.size = expected.sizeBytes →
    Change db (.putStagedFile digest stageToken path value) (db.putFile digest path value) .done
  | commit {digest stageToken : String} {cacheLimitBytes : Nat} {committedAtUnixMs : Int}
    {item : Package} :
    db.package? digest = some item → item.state = .staging stageToken →
    (∀ file ∈ item.plan.files.items, ∃ stored, db.file? digest file.path = some stored) →
    db.committedBytes digest + item.plan.sizeBytes ≤ cacheLimitBytes →
    Change db (.commitStaging digest stageToken cacheLimitBytes committedAtUnixMs)
      (db.putPackage { item with state := .committed committedAtUnixMs })
      (.committed { item with state := .committed committedAtUnixMs })

theorem state_of_stageToken {item : Package} {stageToken : String}
    (h : item.stageToken = some stageToken) : item.state = .staging stageToken := by
  unfold Package.stageToken at h
  split at h
  · rename_i token hstate
    cases h
    exact hstate
  · cases h

theorem isCommitted_of_stageToken {item : Package} {stageToken : String}
    (h : item.stageToken = some stageToken) : item.isCommitted = false := by
  rw [Package.isCommitted, h]
  rfl

/-- **Inversion.** -/
theorem change_of_perform {db db' : Database} {t : Transaction} {reply : Reply}
    (h : perform db t = .ok (db', reply)) : Change db t db' reply := by
  cases t with
  | cleanupStaging cutoffUnixMs =>
    cases h
    refine .delete (fun d hd => .inl fun p hp => ?_) (fun _ hcarried => by cases hcarried)
    obtain ⟨⟨d', p'⟩, hrow, rfl⟩ := List.mem_map.1 hd
    obtain ⟨hmem, hstale⟩ := List.mem_filter.1 hrow
    have hsame : some p' = some p := (Dict.mem_entries_iff.1 hmem).symm.trans hp
    cases hsame
    rw [Bool.and_eq_true, Bool.not_eq_true'] at hstale
    exact hstale.1
  | getPackage digest =>
    cases h
    exact .none fun p hp => by cases hp
  | replaceStaging value =>
    simp only [perform] at h
    split at h
    · cases h
    · rename_i hnone
      cases h
      exact .stage fun p hp => by simpa [hp] using hnone
  | putStagedFile digest stageToken path value =>
    obtain ⟨db'', hput, hdb⟩ := bind_eq_ok.1 h
    cases hdb
    unfold putStagedFile at hput
    split at hput
    · cases hput
    · rename_i item hitem
      split at hput
      · cases hput
      · rename_i htoken
        split at hput
        · cases hput
        · rename_i expected hexpected
          split at hput
          · cases hput
          · rename_i hsame
            rw [not_or, not_or, not_not, not_not, not_not] at hsame
            cases hput
            obtain ⟨hmem, hpath⟩ := Files.mem_of_find? hexpected
            exact .write hitem (state_of_stageToken (not_not.1 htoken)) hmem hpath hsame.1
              hsame.2.1 hsame.2.2
  | commitStaging digest stageToken cacheLimitBytes committedAtUnixMs =>
    obtain ⟨⟨db'', committed⟩, hcommit, hdb⟩ := bind_eq_ok.1 h
    cases hdb
    unfold commitStaging at hcommit
    split at hcommit
    · cases hcommit
    · rename_i item hitem
      split at hcommit
      · cases hcommit
      · rename_i htoken
        split at hcommit
        · cases hcommit
        · rename_i hcomplete
          split at hcommit
          · cases hcommit
          · rename_i hlimit
            cases hcommit
            rw [not_or] at hcomplete hlimit
            refine .commit hitem (state_of_stageToken (not_not.1 htoken)) (fun file hfile => ?_)
              (Nat.le_of_not_lt hlimit.2)
            by_contra hmissing
            exact hcomplete.2 ⟨file, hfile, fun hmem => hmissing (Database.mem_storedPaths.1 hmem)⟩
  | discardStaging digest stageToken =>
    simp only [perform] at h
    split at h
    · rename_i hstages
      cases h
      refine .delete (fun d hd => .inl fun p hp => ?_) fun _ hcarried => by
        cases hcarried
        exact hstages
      cases List.mem_singleton.1 hd
      unfold Database.Stages at hstages
      rw [hp] at hstages
      exact isCommitted_of_stageToken hstages
    · cases h
      exact .none fun p hp => by cases hp
  | readCommittedFile digest path =>
    simp only [perform] at h
    split at h
    · split at h
      · cases h
        exact .none fun p hp => by cases hp
      · cases h
    · cases h
  | removeCommitted digest =>
    simp only [perform] at h
    split at h
    · cases h
      exact .delete (fun d hd => .inr (by rw [List.mem_singleton.1 hd]))
        fun _ hcarried => by cases hcarried
    · cases h
      exact .none fun p hp => by cases hp

/-! ## Exactness -/

variable {sha256Hex : ByteArray → String} {db db' : Database} {t : Transaction} {reply : Reply}

/-- The file is stored as the plan has it. -/
structure Descriptor.Stored (sha256Hex : ByteArray → String) (item : Descriptor)
    (value : StoredFile) : Prop where
  sha256 : value.sha256 = item.sha256
  sizeBytes : value.sizeBytes = item.sizeBytes
  length : value.bytes.size = item.sizeBytes
  digest : sha256Hex value.bytes = item.sha256

/-- What the store hands over: files with their digests, and packages that are to be filled. -/
def Transaction.Verified (sha256Hex : ByteArray → String) : Transaction → Prop
  | .putStagedFile _ _ _ value => sha256Hex value.bytes = value.sha256
  | .replaceStaging value => value.isCommitted = false
  | _ => True

/-- Every file that is stored is one of its package's plan, and a committed package has them all. -/
structure Exact (sha256Hex : ByteArray → String) (db : Database) : Prop where
  named : ∀ d p, db.package? d = some p → p.plan.packageDigestSha256 = d
  planned : ∀ d path value, db.file? d path = some value → ∃ p item, db.package? d = some p ∧
    item ∈ p.plan.files.items ∧ item.path = path ∧ item.Stored sha256Hex value
  complete : ∀ d p, db.package? d = some p → p.isCommitted = true →
    ∀ item ∈ p.plan.files.items, ∃ value, db.file? d item.path = some value

theorem isCommitted_of_staging {p : Package} {stageToken : String}
    (h : p.state = .staging stageToken) : p.isCommitted = false := by
  rw [Package.isCommitted, Package.stageToken, h]
  rfl

theorem file?_delete (digests : List String) (d path : String) :
    ((db.deleteFiles digests).deletePackages digests).file? d path =
      if d ∈ digests then none else db.file? d path :=
  Database.file?_deleteFiles digests d path

theorem package?_delete (digests : List String) (d : String) :
    ((db.deleteFiles digests).deletePackages digests).package? d =
      if d ∈ digests then none else db.package? d :=
  Database.package?_deletePackages digests d

theorem Exact.delete (h : Exact sha256Hex db) (digests : List String) :
    Exact sha256Hex ((db.deleteFiles digests).deletePackages digests) where
  named d p hp := by
    rw [package?_delete] at hp
    split at hp
    · cases hp
    · exact h.named d p hp
  planned d path value hvalue := by
    rw [file?_delete] at hvalue
    split at hvalue
    · cases hvalue
    · rename_i hd
      rw [package?_delete, if_neg hd]
      exact h.planned d path value hvalue
  complete d p hp hcommitted item hitem := by
    rw [package?_delete] at hp
    split at hp
    · cases hp
    · rename_i hd
      rw [file?_delete, if_neg hd]
      exact h.complete d p hp hcommitted item hitem

theorem Exact.stage (h : Exact sha256Hex db) {value : Package} (hvalue : value.isCommitted = false) :
    Exact sha256Hex
      ((db.deleteFiles [value.plan.packageDigestSha256]).putPackage value) where
  named d p hp := by
    rw [Database.package?_putPackage] at hp
    split at hp
    · rename_i hd
      cases hp
      exact hd.symm
    · exact h.named d p hp
  planned d path file hfile := by
    rw [Database.file?_putPackage, Database.file?_deleteFiles] at hfile
    split at hfile
    · cases hfile
    · rename_i hd
      rw [Database.package?_putPackage, if_neg fun heq => hd (List.mem_singleton.2 heq)]
      exact h.planned d path file hfile
  complete d p hp hcommitted item hitem := by
    rw [Database.package?_putPackage] at hp
    split at hp
    · cases hp
      rw [hvalue] at hcommitted
      cases hcommitted
    · rename_i hd
      rw [Database.file?_putPackage, Database.file?_deleteFiles,
        if_neg fun hmem => hd (List.mem_singleton.1 hmem)]
      exact h.complete d p hp hcommitted item hitem

theorem Exact.write (h : Exact sha256Hex db) {digest : String} {p : Package} {item : Descriptor}
    {value : StoredFile} (hp : db.package? digest = some p) (hitem : item ∈ p.plan.files.items)
    (hstored : item.Stored sha256Hex value) :
    Exact sha256Hex (db.putFile digest item.path value) where
  named := h.named
  planned d path file hfile := by
    rw [Database.file?_putFile] at hfile
    split at hfile
    · rename_i heq
      cases hfile
      exact ⟨p, item, heq.1 ▸ hp, hitem, heq.2.symm, hstored⟩
    · exact h.planned d path file hfile
  complete d p' hp' hcommitted item' hitem' := by
    rw [Database.file?_putFile]
    split
    · exact ⟨value, rfl⟩
    · exact h.complete d p' hp' hcommitted item' hitem'

theorem Exact.commit (h : Exact sha256Hex db) {digest : String} {p : Package}
    (hp : db.package? digest = some p)
    (hall : ∀ file ∈ p.plan.files.items, ∃ stored, db.file? digest file.path = some stored)
    (at' : Int) : Exact sha256Hex (db.putPackage { p with state := .committed at' }) where
  named d q hq := by
    rw [Database.package?_putPackage] at hq
    split at hq
    · rename_i hd
      cases hq
      exact hd.symm
    · exact h.named d q hq
  planned d path file hfile := by
    obtain ⟨q, item, hq, hitem, hpath, hstored⟩ := h.planned d path file hfile
    rw [Database.package?_putPackage]
    split
    · rename_i hd
      -- the package stands under its own digest, and keeps its plan
      have hname := h.named digest p hp
      have hsame : some p = some q := by rw [← hp, ← hq, hd]; exact congrArg _ hname.symm
      cases hsame
      exact ⟨_, item, rfl, hitem, hpath, hstored⟩
    · exact ⟨q, item, hq, hitem, hpath, hstored⟩
  complete d q hq hcommitted item hitem := by
    rw [Database.package?_putPackage] at hq
    split at hq
    · rename_i hd
      cases hq
      have hname : d = digest := hd.trans (h.named digest p hp)
      exact hname ▸ hall item hitem
    · exact h.complete d q hq hcommitted item hitem

/-- **No transaction breaks the exactness.** -/
theorem Exact.perform (h : Exact sha256Hex db) (ht : t.Verified sha256Hex)
    (hperform : PackageStore.perform db t = .ok (db', reply)) : Exact sha256Hex db' := by
  cases change_of_perform hperform with
  | none => exact h
  | delete => exact h.delete _
  | stage => exact h.stage ht
  | write hitem _ hmem hpath hsha hsize hlength =>
    subst hpath
    exact h.write hitem hmem ⟨hsha.symm, hsize.symm, hlength, ht.trans hsha.symm⟩
  | commit hitem _ hall _ => exact h.commit hitem hall _

/-! ## What stays -/

/-- **A committed package is changed by its removal only.** -/
theorem perform_committed (h : Exact sha256Hex db)
    (hperform : PackageStore.perform db t = .ok (db', reply)) {d : String} {p : Package}
    (hp : db.package? d = some p) (hcommitted : p.isCommitted = true)
    (hremove : t ≠ .removeCommitted d) :
    db'.package? d = some p ∧ ∀ path, db'.file? d path = db.file? d path := by
  have hapart : ∀ {d' : String} {q : Package}, db.package? d' = some q → q.isCommitted = false →
      d ≠ d' := by
    rintro d' q hq hstaged rfl
    rw [hp] at hq
    cases hq
    rw [hcommitted] at hstaged
    cases hstaged
  cases change_of_perform hperform with
  | none => exact ⟨hp, fun _ => rfl⟩
  | @delete t digests hdigests =>
    have hd : d ∉ digests := fun hmem => by
      rcases hdigests d hmem with hstaged | rfl
      · exact hapart hp (hstaged p hp) rfl
      · exact hremove rfl
    refine ⟨?_, fun path => ?_⟩
    · rw [package?_delete, if_neg hd]
      exact hp
    · rw [file?_delete, if_neg hd]
  | @stage value hstaged =>
    have hd : d ≠ value.plan.packageDigestSha256 := by
      rintro rfl
      exact hapart hp (hstaged p hp) rfl
    refine ⟨?_, fun path => ?_⟩
    · rw [Database.package?_putPackage, if_neg hd]
      exact hp
    · rw [Database.file?_putPackage, Database.file?_deleteFiles,
        if_neg fun hmem => hd (List.mem_singleton.1 hmem)]
  | write hitem hstate =>
    have hd := hapart hitem (isCommitted_of_staging hstate)
    exact ⟨hp, fun path => by rw [Database.file?_putFile, if_neg fun heq => hd heq.1]⟩
  | @commit digest stageToken cacheLimitBytes committedAtUnixMs item hitem hstate =>
    have hd := hapart hitem (isCommitted_of_staging hstate)
    refine ⟨?_, fun _ => rfl⟩
    rw [Database.package?_putPackage,
      if_neg fun heq => hd (heq.trans (h.named digest item hitem))]
    exact hp

/-- **A stage that was replaced has no say.** -/
theorem perform_stale {digest stageToken : String} (ht : t.carries = some (digest, stageToken))
    (hstale : ¬ db.Stages digest stageToken)
    (hperform : PackageStore.perform db t = .ok (db', reply)) : db' = db := by
  have hnever : ∀ {item : Package}, db.package? digest = some item →
      item.state ≠ .staging stageToken := by
    intro item hitem hstate
    apply hstale
    unfold Database.Stages
    rw [hitem]
    show item.stageToken = some stageToken
    rw [Package.stageToken, hstate]
  cases change_of_perform hperform with
  | none => rfl
  | delete _ hcarried => exact absurd (hcarried _ ht) hstale
  | stage => cases ht
  | write hitem hstate =>
    cases ht
    exact absurd hstate (hnever hitem)
  | commit hitem hstate =>
    cases ht
    exact absurd hstate (hnever hitem)

/-! ## The limit of the cache -/

/-- The bytes that are committed. -/
def Database.cachedBytes (db : Database) : Nat :=
  ((db.packages.entries.filter fun row => row.2.isCommitted).map fun row => row.2.plan.sizeBytes).sum

/-- A row that is put counts, in place of the one under its key. -/
theorem sum_setEntries {k : String} {v : Package} (hv : v.isCommitted = true) :
    ∀ {l : List (String × Package)}, (l.map Prod.fst).Nodup →
      (((Dict.setEntries k v l).filter fun row => row.2.isCommitted).map fun row =>
          row.2.plan.sizeBytes).sum =
        ((l.filter fun row => row.2.isCommitted && row.1 != k).map fun row =>
          row.2.plan.sizeBytes).sum + v.plan.sizeBytes := by
  intro l
  induction l with
  | nil => intro _; simp [Dict.setEntries, hv]
  | cons row rest ih =>
    intro hnodup
    obtain ⟨a, b⟩ := row
    obtain ⟨hnot, hrest⟩ := List.nodup_cons.1 hnodup
    by_cases ha : a = k
    · -- no other row stands under the key
      subst ha
      have hsame : (rest.filter fun row => row.2.isCommitted && row.1 != a) =
          rest.filter fun row => row.2.isCommitted := by
        apply List.filter_congr
        intro row hrow
        have hne : row.1 ≠ a := fun heq => hnot (List.mem_map.2 ⟨row, hrow, heq⟩)
        simp [hne]
      rw [Dict.setEntries, if_pos rfl, List.filter_cons_of_pos (by simpa using hv),
        List.filter_cons_of_neg (by simp), hsame, List.map_cons, List.sum_cons, Nat.add_comm]
    · rw [Dict.setEntries, if_neg ha]
      by_cases hb : b.isCommitted = true
      · rw [List.filter_cons_of_pos (by simpa using hb),
          List.filter_cons_of_pos (by simp [hb, ha]), List.map_cons, List.map_cons,
          List.sum_cons, List.sum_cons, ih hrest, Nat.add_assoc]
      · rw [List.filter_cons_of_neg (by simpa using hb), List.filter_cons_of_neg (by simp [hb]),
          ih hrest]

/-- The transaction commits the package, which was staged under its token, within its limit. -/
structure Commits (db : Database) (t : Transaction) (db' : Database) (p : Package) : Prop where
  staged : ∃ stageToken cacheLimitBytes committedAtUnixMs createdAtUnixMs,
    t = .commitStaging p.plan.packageDigestSha256 stageToken cacheLimitBytes committedAtUnixMs ∧
    db.package? p.plan.packageDigestSha256 =
      some ⟨p.plan, .staging stageToken, createdAtUnixMs⟩ ∧
    p = ⟨p.plan, .committed committedAtUnixMs, createdAtUnixMs⟩ ∧
    db'.cachedBytes ≤ cacheLimitBytes
  stored : db'.package? p.plan.packageDigestSha256 = some p

theorem commits (h : Exact sha256Hex db) {digest stageToken : String} {cacheLimitBytes : Nat}
    {committedAtUnixMs : Int} {item : Package} (hitem : db.package? digest = some item)
    (hstate : item.state = .staging stageToken)
    (hlimit : db.committedBytes digest + item.plan.sizeBytes ≤ cacheLimitBytes) :
    Commits db (.commitStaging digest stageToken cacheLimitBytes committedAtUnixMs)
      (db.putPackage { item with state := .committed committedAtUnixMs })
      { item with state := .committed committedAtUnixMs } := by
  have hname := h.named digest item hitem
  obtain ⟨plan, state, createdAtUnixMs⟩ := item
  subst hname
  dsimp only at hstate
  subst hstate
  refine ⟨⟨stageToken, cacheLimitBytes, committedAtUnixMs, createdAtUnixMs, rfl, hitem, rfl, ?_⟩, ?_⟩
  · have hsum := @sum_setEntries plan.packageDigestSha256
      ⟨plan, .committed committedAtUnixMs, createdAtUnixMs⟩ rfl _ db.packages.nodup
    exact Nat.le_trans (Nat.le_of_eq hsum) hlimit
  · rw [Database.package?_putPackage, if_pos rfl]

/-- **What is committed is committed by a commit, within its limit.** -/
theorem perform_commits (h : Exact sha256Hex db) (ht : t.Verified sha256Hex)
    (hperform : PackageStore.perform db t = .ok (db', reply)) {d : String} {p : Package}
    (hp : db'.package? d = some p) (hcommitted : p.isCommitted = true)
    (hnew : db.package? d ≠ some p) : Commits db t db' p := by
  cases change_of_perform hperform with
  | none => exact absurd hp hnew
  | delete =>
    rw [package?_delete] at hp
    split at hp
    · cases hp
    · exact absurd hp hnew
  | stage =>
    rw [Database.package?_putPackage] at hp
    split at hp
    · cases hp
      rw [Transaction.Verified, hcommitted] at ht
      cases ht
    · exact absurd hp hnew
  | write => exact absurd hp hnew
  | commit hitem hstate _ hlimit =>
    rw [Database.package?_putPackage] at hp
    split at hp
    · cases hp
      exact commits h hitem hstate hlimit
    · exact absurd hp hnew

/-- What a transaction says that it has committed is committed. -/
theorem commits_of_reply (h : Exact sha256Hex db) {p : Package}
    (hperform : PackageStore.perform db t = .ok (db', .committed p)) : Commits db t db' p := by
  cases change_of_perform hperform with
  | none hreply => exact absurd rfl (hreply p)
  | commit hitem hstate _ hlimit => exact commits h hitem hstate hlimit

end PackageStore

end Vibapp
