import Vibapp.Daemon.Verify
import Vibapp.Lib.Except
import Vibapp.ProviderRunner.Adapter

/-!
# Sealed snapshots

`snapshot_bundle_to_directory`: the copy of a provider's output that the runner signs and hands
over, and `bundle_digest` of a tree. The output is quiescent when it is copied; what changes during
the copy makes the snapshot raise, which is a fault of the step.

**Main result** (`snapshotBundleToDirectory_sealed`). Every file of a snapshot has the mode `0o400`,
whatever its mode was.
-/

namespace Vibapp.ProviderRunner

/-! ## Trees -/

/-- What is at a path. A directory lists its entries by name; a link has what is where it leads. -/
inductive Node
  | file (mode links : Nat) (data : List UInt8)
  | directory (mode : Nat) (entries : List (String × Node))
  | link (isDirectory : Bool) (data : Option (List UInt8))
  | special

namespace Node

def entries : Node → List (String × Node)
  | directory _ entries => entries
  | _ => []

/-- What is at a path below the node. -/
def find : List String → Node → Option Node
  | [], node => some node
  | name :: rest, node => (node.entries.lookup name).bind (find rest)

/-- `os.walk` lists the entry among the directories. -/
def listsAsDirectory : Node → Bool
  | directory _ _ => true
  | link isDirectory _ => isDirectory
  | _ => false

def isLink : Node → Bool
  | link _ _ => true
  | _ => false

/-- `stat.S_ISDIR` and no link. -/
def isDirectory : Node → Bool
  | directory _ _ => true
  | _ => false

end Node

/-- A relative path as a text. -/
def pathText (parts : List String) : String := "/".intercalate parts

section

variable {ε α : Type}

mutual

/-- `os.walk` from the top: `visit` sees the path and the entries of each directory. -/
def walkNode (visit : List String → List (String × Node) → α → Except ε α) (parts : List String) :
    Node → α → Except ε α
  | .directory _ entries, acc => do
    let acc ← visit parts entries acc
    walkEntries visit parts entries acc
  | _, acc => .ok acc

/-- Its descent into the entries of a directory. -/
def walkEntries (visit : List String → List (String × Node) → α → Except ε α)
    (parts : List String) : List (String × Node) → α → Except ε α
  | [], acc => .ok acc
  | (name, node) :: rest, acc => do
    let acc ← walkNode visit (parts ++ [name]) node acc
    walkEntries visit parts rest acc

end

end

section

variable {ε ε' α : Type} {visit : List String → List (String × Node) → α → Except ε α}
  {visit' : List String → List (String × Node) → α → Except ε' α}

mutual

/-- Walks agree where what they do at a directory agrees. -/
theorem walkNode_ok (h : ∀ parts entries a b, visit parts entries a = .ok b →
    visit' parts entries a = .ok b) {parts : List String} : ∀ (node : Node) {a b : α},
    walkNode visit parts node a = .ok b → walkNode visit' parts node a = .ok b
  | .directory _ entries, a, b, hwalk => by
    rw [walkNode] at hwalk ⊢
    obtain ⟨c, hvisit, hrest⟩ := bind_eq_ok.1 hwalk
    rw [h _ _ _ _ hvisit, ok_bind]
    exact walkEntries_ok h entries hrest
  | .file _ _ _, a, b, hwalk => by
    rw [walkNode] at hwalk ⊢
    · cases hwalk
      rfl
    · exact nofun
    · exact nofun
  | .link _ _, a, b, hwalk => by
    rw [walkNode] at hwalk ⊢
    · cases hwalk
      rfl
    · exact nofun
    · exact nofun
  | .special, a, b, hwalk => by
    rw [walkNode] at hwalk ⊢
    · cases hwalk
      rfl
    · exact nofun
    · exact nofun

theorem walkEntries_ok (h : ∀ parts entries a b, visit parts entries a = .ok b →
    visit' parts entries a = .ok b) {parts : List String} :
    ∀ (entries : List (String × Node)) {a b : α},
      walkEntries visit parts entries a = .ok b → walkEntries visit' parts entries a = .ok b
  | [], a, b, hwalk => by
    rw [walkEntries] at hwalk ⊢
    cases hwalk
    rfl
  | (name, node) :: rest, a, b, hwalk => by
    rw [walkEntries] at hwalk ⊢
    obtain ⟨c, hnode, hrest⟩ := bind_eq_ok.1 hwalk
    rw [walkNode_ok h node hnode, ok_bind]
    exact walkEntries_ok h rest hrest

end

end

/-! ## Records -/

/-- Raise unless `ok`. -/
def requireRunner (ok : Bool) (code message : String) : Except RunnerError Unit :=
  if ok then .ok () else .error ⟨code, message⟩

/-- `RELATIVE_SEGMENT`. -/
def isRelativeSegment (segment : List Char) : Bool :=
  Launcher.isToken (fun c => Launcher.isAlnum c || c = '.' || c = '_' || c = '-') 127 segment

/-- `canonical_relative_path`. -/
def canonicalRelativePath (value context : String) : Except RunnerError Unit := do
  let chars := value.toList
  let parts := chars.splitOn '/'
  requireRunner (1 ≤ chars.length && chars.length ≤ 512) "path-invalid"
    (context ++ " is empty or oversized")
  requireRunner (chars.head? ≠ some '/' && chars.getLast? ≠ some '/' && !chars.contains '\\' &&
    !(parts.drop 1).dropLast.contains []) "path-invalid"
    (context ++ " is not a canonical relative path")
  requireRunner (parts.all fun part => part ≠ [] && part ≠ ['.'] && part ≠ ['.', '.'] &&
    isRelativeSegment part) "path-invalid" (context ++ " contains an invalid segment")

/-- A record of a bundle. The digest is kept as bytes. -/
structure BundleRecord where
  path : String
  sha256 : List UInt8
  sizeBytes : Nat
deriving DecidableEq, Repr

/-- The records so far and their total size. -/
structure Budget where
  records : List BundleRecord
  bytes : Nat
deriving DecidableEq, Repr

def Budget.empty : Budget := ⟨[], 0⟩

variable (sha256 : List UInt8 → List UInt8)

def Budget.add (budget : Budget) (parts : List String) (data : List UInt8) : Budget where
  records := budget.records ++ [⟨pathText parts, sha256 data, data.length⟩]
  bytes := budget.bytes + data.length

/-- `hexdigest`. -/
def hexText (data : List UInt8) : String :=
  String.ofList (data.flatMap fun byte =>
    [Nat.digitChar (byte.toNat / 16), Nat.digitChar (byte.toNat % 16)])

/-- What the two digests of a bundle hash. -/
def bundleText (records : List BundleRecord) : List UInt8 :=
  "VIBAPP-PROVIDER-RUNNER-BUNDLE".toUTF8.toList ++ 0 ::
    (records.insertionSort fun a b => a.path ≤ b.path).flatMap fun record =>
      record.path.toUTF8.toList ++ 0 :: record.sha256 ++ Daemon.packBE 8 record.sizeBytes

def digestOf (records : List BundleRecord) : String := hexText (sha256 (bundleText records))

/-! ## `bundle_digest` -/

/-- The turn of `safe_tree_records` for a file. -/
def addFile (maximumFiles maximumBytes : Nat) (parts : List String) (budget : Budget)
    (entry : String × Node) : Except RunnerError Budget :=
  match entry.2 with
  | .file _ links data => do
    requireRunner (links = 1) "bundle-unsafe"
      "bundle contains a symlink, hard link, or special file"
    canonicalRelativePath (pathText (parts ++ [entry.1])) "bundle file"
    let added := budget.add sha256 (parts ++ [entry.1]) data
    requireRunner (added.records.length ≤ maximumFiles && added.bytes ≤ maximumBytes)
      "bundle-limit" "bundle exceeds its file or byte ceiling"
    pure added
  | _ => .error ⟨"bundle-unsafe", "bundle contains a symlink, hard link, or special file"⟩

/-- The turn of `safe_tree_records` for a directory. -/
def checkDirectory (parts : List String) (entry : String × Node) : Except RunnerError Unit := do
  requireRunner entry.2.isDirectory "bundle-unsafe"
    "bundle contains a linked or non-directory entry"
  canonicalRelativePath (pathText (parts ++ [entry.1])) "bundle directory"

def visitBundle (maximumFiles maximumBytes : Nat) (parts : List String)
    (entries : List (String × Node)) (budget : Budget) : Except RunnerError Budget := do
  (entries.filter fun entry => entry.2.listsAsDirectory).forM (checkDirectory parts)
  (entries.filter fun entry => !entry.2.listsAsDirectory).foldlM
    (addFile sha256 maximumFiles maximumBytes parts) budget

/-- `bundle_digest`. -/
def bundleDigest (root : Node) (maximumFiles maximumBytes : Nat) : Except RunnerError String := do
  let budget ← walkNode (visitBundle sha256 maximumFiles maximumBytes) [] root .empty
  pure (digestOf sha256 budget.records)

/-! ## The snapshot -/

section

variable (maximumFiles maximumBytes : Nat)

mutual

/-- The copy of a node, with the records so far. -/
def snapshotNode (parts : List String) : Node → Budget → Except RunnerError (Node × Budget)
  | .directory _ entries, budget => do
    let (copied, budget) ← snapshotEntries parts entries budget
    pure (.directory 0o500 copied, budget)
  | .file _ links data, budget => do
    requireRunner (links = 1) "bundle-unsafe"
      "bundle contains a symlink, hard link, or special file"
    requireRunner (budget.records.length + 1 ≤ maximumFiles) "bundle-limit"
      "bundle exceeds its file-count ceiling"
    requireRunner (budget.bytes + data.length ≤ maximumBytes) "bundle-limit"
      "bundle exceeds its byte ceiling during snapshot"
    pure (.file 0o400 1 data, budget.add sha256 parts data)
  | _, _ => .error ⟨"bundle-unsafe", "bundle contains a symlink, hard link, or special file"⟩

/-- The copy of the entries of a directory. -/
def snapshotEntries (parts : List String) :
    List (String × Node) → Budget → Except RunnerError (List (String × Node) × Budget)
  | [], budget => .ok ([], budget)
  | (name, node) :: rest, budget => do
    canonicalRelativePath (pathText (parts ++ [name])) "snapshot path"
    let (copied, budget) ← snapshotNode (parts ++ [name]) node budget
    let (rest, budget) ← snapshotEntries parts rest budget
    pure ((name, copied) :: rest, budget)

end

/-- `snapshot_bundle_to_directory`: the sealed tree and its digest. -/
def snapshotBundleToDirectory (source : Node) : Except RunnerError (Node × String) := do
  requireRunner source.isDirectory "bundle-unsafe" "bundle root is not a stable nofollow directory"
  let (snapshot, budget) ← snapshotNode sha256 maximumFiles maximumBytes [] source .empty
  let digest := digestOf sha256 budget.records
  let rehashed ← bundleDigest sha256 snapshot maximumFiles maximumBytes
  requireRunner (rehashed = digest) "bundle-mutated"
    "sealed snapshot bytes differ from their descriptor-bound digest"
  pure (snapshot, digest)

end

/-! ## Sealing -/

/-- Every file at or below the node has the mode `0o400`. -/
def Node.Sealed (node : Node) : Prop :=
  ∀ path mode links data, node.find path = some (.file mode links data) → mode = 0o400

section

variable {sha256 : List UInt8 → List UInt8} {maximumFiles maximumBytes : Nat}

theorem Node.sealed_file (links : Nat) (data : List UInt8) : (Node.file 0o400 links data).Sealed := by
  intro path mode links' data' h
  cases path with
  | nil =>
    cases h
    rfl
  | cons name rest => cases h

theorem Node.sealed_directory {mode : Nat} {entries : List (String × Node)}
    (h : ∀ name node, entries.lookup name = some node → node.Sealed) :
    (Node.directory mode entries).Sealed := by
  intro path mode' links data hfind
  cases path with
  | nil => cases hfind
  | cons name rest =>
    obtain ⟨node, hnode, hrest⟩ := Option.bind_eq_some_iff.1 hfind
    exact h name node hnode rest mode' links data hrest

mutual

theorem snapshotNode_sealed {parts : List String} : ∀ (node : Node) {budget after : Budget}
    {copied : Node}, snapshotNode sha256 maximumFiles maximumBytes parts node budget =
      .ok (copied, after) → copied.Sealed
  | .directory _ entries, budget, after, copied, h => by
    rw [snapshotNode] at h
    obtain ⟨⟨rows, rest⟩, hrows, h⟩ := bind_eq_ok.1 h
    cases pure_eq_ok.1 h
    exact Node.sealed_directory (snapshotEntries_sealed entries hrows)
  | .file _ links data, budget, after, copied, h => by
    rw [snapshotNode] at h
    obtain ⟨_, -, h⟩ := bind_eq_ok.1 h
    obtain ⟨_, -, h⟩ := bind_eq_ok.1 h
    obtain ⟨_, -, h⟩ := bind_eq_ok.1 h
    cases pure_eq_ok.1 h
    exact Node.sealed_file 1 data
  | .link _ _, budget, after, copied, h => by
    rw [snapshotNode] at h
    cases h
    · exact nofun
    · exact nofun
  | .special, budget, after, copied, h => by
    rw [snapshotNode] at h
    cases h
    · exact nofun
    · exact nofun

theorem snapshotEntries_sealed {parts : List String} : ∀ (entries : List (String × Node))
    {budget after : Budget} {copied : List (String × Node)},
    snapshotEntries sha256 maximumFiles maximumBytes parts entries budget = .ok (copied, after) →
      ∀ name node, copied.lookup name = some node → node.Sealed
  | [], budget, after, copied, h => by
    rw [snapshotEntries] at h
    cases h
    exact nofun
  | (first, node) :: rest, budget, after, copied, h => by
    rw [snapshotEntries] at h
    obtain ⟨_, -, h⟩ := bind_eq_ok.1 h
    obtain ⟨⟨head, middle⟩, hhead, h⟩ := bind_eq_ok.1 h
    obtain ⟨⟨tail, last⟩, htail, h⟩ := bind_eq_ok.1 h
    cases pure_eq_ok.1 h
    intro name found hfound
    rw [List.lookup_cons] at hfound
    by_cases hname : name = first
    · rw [beq_iff_eq.2 hname] at hfound
      cases hfound
      exact snapshotNode_sealed node hhead
    · rw [beq_false_of_ne hname] at hfound
      exact snapshotEntries_sealed rest htail name found hfound

end

/-- **A snapshot is sealed**, and its digest is that of the tree. -/
theorem snapshotBundleToDirectory_sealed {source snapshot : Node} {digest : String}
    (h : snapshotBundleToDirectory sha256 maximumFiles maximumBytes source =
      .ok (snapshot, digest)) : snapshot.Sealed := by
  unfold snapshotBundleToDirectory at h
  obtain ⟨_, -, h⟩ := bind_eq_ok.1 h
  obtain ⟨⟨copied, budget⟩, hcopied, h⟩ := bind_eq_ok.1 h
  obtain ⟨rehashed, -, h⟩ := bind_eq_ok.1 h
  obtain ⟨_, -, h⟩ := bind_eq_ok.1 h
  cases pure_eq_ok.1 h
  exact snapshotNode_sealed source hcopied

end

end Vibapp.ProviderRunner
