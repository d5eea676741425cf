import Vibapp.CloudAgent.Handoff
import Vibapp.CloudAgent.LivePath
import Vibapp.Lib.Related

/-!
# What an audit has seen

**Main result** (`audit_facts`). The records of an accepted workspace are about its source files: every
record is about the file at its path, and every file has a record (`walkNode_covers`). They are as many
and as large as the task allows, and the scaffold, the library and the contract are among them.

A directory of a file system has distinct names without a slash (`wellFormed`), so a path below it is
found in one way.
-/

namespace Vibapp.CloudAgent

open ProviderRunner (Node walkNode walkEntries pathText hexText)

variable {δ : Type} {policy : Policy δ} {task : Task δ}

/-! ## Names -/

mutual

/-- The names of each directory are distinct, and are names. -/
def wellFormed : Node → Prop
  | .directory _ entries => (entries.map Prod.fst).Nodup ∧ wellFormedEntries entries
  | _ => True

def wellFormedEntries : List (String × Node) → Prop
  | [] => True
  | (name, node) :: rest =>
    ('/' ∉ name.toList ∧ name ≠ "") ∧ wellFormed node ∧ wellFormedEntries rest

end

theorem lookup_eq_of_mem {α : Type} {entries : List (String × α)}
    (h : (entries.map Prod.fst).Nodup) {name : String} {node : α} (hmem : (name, node) ∈ entries) :
    entries.lookup name = some node := by
  induction entries with
  | nil => cases hmem
  | cons entry rest ih =>
    obtain ⟨first, other⟩ := entry
    rw [List.map_cons, List.nodup_cons] at h
    rw [List.lookup_cons]
    rcases List.mem_cons.1 hmem with heq | hrest
    · cases heq
      simp
    · have hne : name ≠ first := by
        rintro rfl
        exact h.1 (List.mem_map.2 ⟨_, hrest, rfl⟩)
      rw [beq_false_of_ne hne]
      exact ih h.2 hrest

theorem mem_of_lookup {α : Type} {entries : List (String × α)} {name : String} {node : α}
    (h : entries.lookup name = some node) : (name, node) ∈ entries := by
  induction entries with
  | nil => cases h
  | cons entry rest ih =>
    obtain ⟨first, other⟩ := entry
    rw [List.lookup_cons] at h
    by_cases hname : name = first
    · subst hname
      simp only [beq_self_eq_true, Option.some.injEq] at h
      exact h ▸ List.mem_cons_self
    · rw [beq_false_of_ne hname] at h
      exact List.mem_cons_of_mem _ (ih h)

/-! ## Records of files -/

/-- The audit has accepted the file at `parts`, with this record. -/
structure AuditedFile (policy : Policy δ) (parts : List String) (node : Node)
    (record : SourceRecord) : Prop where
  file : ∃ mode data, node = .file mode 1 data ∧ isExecutable mode = false ∧ data ≠ [] ∧
    record = {
      path := pathText parts
      sha256 := hexText (policy.sha256 data)
      sizeBytes := data.length
      role := if pathText parts = "wit/contract.wit" then "authoritative-contract-copy"
        else "generated-source" }
  normal : isSourcePath (pathText parts) = true
  allowed : ∃ above name, parts = above ++ [name] ∧ isAllowedSource above name = true ∧
    ["build.rs", "Cargo.lock"].contains name = false

/-- The walk from `w` to `w'` has recorded what `found` describes. -/
structure Covers (policy : Policy δ) (found : List String → Node → Prop) (w w' : Walked) : Prop where
  records : ∃ new, w'.records = w.records ++ new ∧
    w'.totalBytes = w.totalBytes + (new.map SourceRecord.sizeBytes).sum ∧
      (∀ record ∈ new, ∃ parts node, found parts node ∧ AuditedFile policy parts node record) ∧
        ∀ parts node, node.isDirectory = false → found parts node →
          ∃ record ∈ new, AuditedFile policy parts node record

variable {found found' : List String → Node → Prop} {u v w w' : Walked}

theorem Covers.none (h : ∀ parts node, node.isDirectory = false → ¬ found parts node) :
    Covers policy found w w :=
  ⟨[], by simp, by simp, by simp, fun parts node hnode hfound =>
    absurd hfound (h parts node hnode)⟩

/-- What counts is what is no directory. -/
theorem Covers.congr (h : Covers policy found w w')
    (hfound : ∀ parts node, node.isDirectory = false → (found parts node ↔ found' parts node)) :
    Covers policy found' w w' := by
  obtain ⟨new, hrecords, htotal, hfrom, hto⟩ := h.records
  refine ⟨new, hrecords, htotal, ?_, ?_⟩
  · intro record hrecord
    obtain ⟨parts, node, hnode, haudited⟩ := hfrom record hrecord
    obtain ⟨mode, data, rfl, -⟩ := haudited.file
    exact ⟨parts, _, (hfound _ _ rfl).1 hnode, haudited⟩
  · intro parts node hnode hfound'
    exact hto parts node hnode ((hfound parts node hnode).2 hfound')

theorem Covers.trans (h : Covers policy found u v) (h' : Covers policy found' v w) :
    Covers policy (fun parts node => found parts node ∨ found' parts node) u w := by
  obtain ⟨new, hrecords, htotal, hfrom, hto⟩ := h.records
  obtain ⟨new', hrecords', htotal', hfrom', hto'⟩ := h'.records
  refine ⟨new ++ new', ?_, ?_, ?_, ?_⟩
  · rw [hrecords', hrecords, List.append_assoc]
  · rw [htotal', htotal, List.map_append, List.sum_append, Nat.add_assoc]
  · intro record hrecord
    rcases List.mem_append.1 hrecord with hrecord | hrecord
    · obtain ⟨parts, node, hnode, haudited⟩ := hfrom record hrecord
      exact ⟨parts, node, .inl hnode, haudited⟩
    · obtain ⟨parts, node, hnode, haudited⟩ := hfrom' record hrecord
      exact ⟨parts, node, .inr hnode, haudited⟩
  · rintro parts node hdirectory (hnode | hnode)
    · obtain ⟨record, hrecord, haudited⟩ := hto parts node hdirectory hnode
      exact ⟨record, List.mem_append_left _ hrecord, haudited⟩
    · obtain ⟨record, hrecord, haudited⟩ := hto' parts node hdirectory hnode
      exact ⟨record, List.mem_append_right _ hrecord, haudited⟩

/-! ## One directory -/

theorem normalizedSourcePath_ok {path context : String} {x : Unit}
    (h : normalizedSourcePath path context = .ok x) : isSourcePath path = true := by
  unfold normalizedSourcePath at h
  obtain ⟨_, -, h⟩ := bind_eq_ok.1 h
  obtain ⟨_, -, h⟩ := bind_eq_ok.1 h
  obtain ⟨_, -, h⟩ := bind_eq_ok.1 h
  exact demand_eq_ok.1 h

/-- The turn for a file adds its record. -/
theorem auditFile_covers {parts : List String} {entry : String × Node}
    (h : auditFile policy task parts w entry = .ok w') :
    Covers policy (fun path node => path = parts ++ [entry.1] ∧ node = entry.2) w w' ∧
      w'.totalBytes ≤ task.limits.sourceBytes := by
  unfold auditFile at h
  cases hnode : entry.2 with
  | directory mode entries =>
    rw [hnode] at h
    cases h
  | link isDirectory data =>
    rw [hnode] at h
    cases h
  | special =>
    rw [hnode] at h
    cases h
  | file mode links data =>
    rw [hnode] at h
    obtain ⟨_, hlinks, h⟩ := bind_eq_ok.1 h
    obtain ⟨_, hmode, h⟩ := bind_eq_ok.1 h
    obtain ⟨_, hdata, h⟩ := bind_eq_ok.1 h
    obtain ⟨_, hnormal, h⟩ := bind_eq_ok.1 h
    obtain ⟨_, hallowed, h⟩ := bind_eq_ok.1 h
    obtain ⟨_, htotal, h⟩ := bind_eq_ok.1 h
    cases pure_eq_ok.1 h
    rw [demand_eq_ok] at hlinks hmode hdata hallowed htotal
    have hone : links = 1 := of_decide_eq_true hlinks
    subst hone
    rw [Bool.and_eq_true, Bool.not_eq_true'] at hallowed
    have haudited : AuditedFile policy (parts ++ [entry.1]) (.file mode 1 data) {
        path := pathText (parts ++ [entry.1])
        sha256 := hexText (policy.sha256 data)
        sizeBytes := data.length
        role := if pathText (parts ++ [entry.1]) = "wit/contract.wit" then
          "authoritative-contract-copy" else "generated-source" } := by
      refine ⟨⟨mode, data, rfl, ?_, ?_, rfl⟩, normalizedSourcePath_ok hnormal, ?_⟩
      · simpa using hmode
      · exact of_decide_eq_true hdata
      · exact ⟨parts, entry.1, rfl, hallowed.1, hallowed.2⟩
    refine ⟨⟨[_], rfl, by simp, ?_, ?_⟩, of_decide_eq_true htotal⟩
    · intro record hrecord
      rw [List.mem_singleton.1 hrecord]
      exact ⟨_, _, ⟨rfl, rfl⟩, haudited⟩
    · rintro path node - ⟨rfl, rfl⟩
      exact ⟨_, List.mem_singleton_self _, haudited⟩

theorem auditFiles_covers {parts : List String} {files : List (String × Node)}
    (h : files.foldlM (auditFile policy task parts) w = .ok w')
    (hw : w.totalBytes ≤ task.limits.sourceBytes) :
    Covers policy (fun path node => ∃ name, path = parts ++ [name] ∧ (name, node) ∈ files) w w' ∧
      w'.totalBytes ≤ task.limits.sourceBytes := by
  induction files generalizing w with
  | nil =>
    cases pure_eq_ok.1 h
    exact ⟨Covers.none (by simp), hw⟩
  | cons entry rest ih =>
    rw [List.foldlM_cons] at h
    obtain ⟨v, hfirst, hrest⟩ := bind_eq_ok.1 h
    obtain ⟨hcovers, hv⟩ := auditFile_covers hfirst
    obtain ⟨hcovers', hw'⟩ := ih hrest hv
    refine ⟨(hcovers.trans hcovers').congr ?_, hw'⟩
    intro path node _
    constructor
    · rintro (⟨rfl, rfl⟩ | ⟨name, rfl, hmem⟩)
      · exact ⟨entry.1, rfl, List.mem_cons_self⟩
      · exact ⟨name, rfl, List.mem_cons_of_mem _ hmem⟩
    · rintro ⟨name, rfl, hmem⟩
      rcases List.mem_cons.1 hmem with heq | hmem
      · exact .inl ⟨by rw [← heq], by rw [← heq]⟩
      · exact .inr ⟨name, rfl, hmem⟩

/-- What a directory turn accepts is a directory. -/
theorem auditDirectory_ok {parts : List String} {entry : String × Node} {u : Unit}
    (h : auditDirectory parts entry = .ok u) : entry.2.isDirectory = true := by
  unfold auditDirectory at h
  obtain ⟨_, hdirectory, -⟩ := bind_eq_ok.1 h
  exact demand_eq_ok.1 hdirectory

/-- The entries of a directory that are no directories. -/
theorem visitSource_covers {parts : List String} {entries : List (String × Node)}
    (h : visitSource policy task parts entries w = .ok w')
    (hw : w.totalBytes ≤ task.limits.sourceBytes) :
    Covers policy (fun path node => ∃ name, path = parts ++ [name] ∧ (name, node) ∈ entries)
        w w' ∧ w'.totalBytes ≤ task.limits.sourceBytes := by
  unfold visitSource at h
  obtain ⟨_, hdirectories, hfiles⟩ := bind_eq_ok.1 h
  obtain ⟨hcovers, hw'⟩ := auditFiles_covers hfiles hw
  refine ⟨hcovers.congr ?_, hw'⟩
  intro path node hnode
  constructor
  · rintro ⟨name, rfl, hmem⟩
    exact ⟨name, rfl, (List.mem_filter.1 hmem).1⟩
  · rintro ⟨name, rfl, hmem⟩
    refine ⟨name, rfl, List.mem_filter.2 ⟨hmem, ?_⟩⟩
    by_contra hlists
    have hturn := forM_eq_ok.1 hdirectories (name, node)
      (List.mem_filter.2 ⟨hmem, by simpa using hlists⟩)
    rw [auditDirectory_ok hturn] at hnode
    cases hnode

/-! ## The walk -/

/-- What is found below a node. -/
def Below (parts : List String) (top : Node) (path : List String) (node : Node) : Prop :=
  ∃ rest, rest ≠ [] ∧ path = parts ++ rest ∧ top.find rest = some node

/-- What is found below the entries of a directory. -/
def BelowEntries (parts : List String) (entries : List (String × Node)) (path : List String)
    (node : Node) : Prop :=
  ∃ entry ∈ entries, Below (parts ++ [entry.1]) entry.2 path node

theorem find_of_no_entries {top node : Node} {rest : List String} (h : top.entries = [])
    (hrest : rest ≠ []) : top.find rest ≠ some node := by
  cases rest with
  | nil => exact absurd rfl hrest
  | cons name rest =>
    unfold Node.find
    rw [h]
    exact nofun

/-- Below a directory are its entries, and what is below them. -/
theorem below_directory {parts path : List String} {mode : Nat} {entries : List (String × Node)}
    {node : Node} (h : (entries.map Prod.fst).Nodup) :
    Below parts (.directory mode entries) path node ↔
      (∃ name, path = parts ++ [name] ∧ (name, node) ∈ entries) ∨
        BelowEntries parts entries path node := by
  constructor
  · rintro ⟨rest, hrest, rfl, hfind⟩
    cases rest with
    | nil => exact absurd rfl hrest
    | cons name rest =>
      unfold Node.find at hfind
      obtain ⟨sub, hsub, hfind⟩ := Option.bind_eq_some_iff.1 hfind
      have hmem := mem_of_lookup hsub
      cases rest with
      | nil =>
        rw [Node.find] at hfind
        cases hfind
        exact .inl ⟨name, rfl, hmem⟩
      | cons next rest =>
        refine .inr ⟨(name, sub), hmem, next :: rest, List.cons_ne_nil _ _, ?_, hfind⟩
        rw [List.append_assoc, List.singleton_append]
  · rintro (⟨name, rfl, hmem⟩ | ⟨entry, hmem, rest, hrest, rfl, hfind⟩)
    · refine ⟨[name], List.cons_ne_nil _ _, rfl, ?_⟩
      unfold Node.find
      rw [Node.entries, lookup_eq_of_mem h hmem, Option.bind_some, Node.find]
    · refine ⟨entry.1 :: rest, List.cons_ne_nil _ _, ?_, ?_⟩
      · rw [List.append_assoc, List.singleton_append]
      · unfold Node.find
        rw [Node.entries, lookup_eq_of_mem h hmem, Option.bind_some]
        exact hfind

mutual

/-- **The walk records the files below a node, each at its path.** -/
theorem walkNode_covers {parts : List String} : ∀ {top : Node} {w w' : Walked},
    wellFormed top → w.totalBytes ≤ task.limits.sourceBytes →
      walkNode (visitSource policy task) parts top w = .ok w' →
        Covers policy (Below parts top) w w' ∧ w'.totalBytes ≤ task.limits.sourceBytes
  | .directory mode entries, w, w', hformed, hw, h => by
    rw [walkNode] at h
    obtain ⟨v, hvisit, hrest⟩ := bind_eq_ok.1 h
    obtain ⟨hcovers, hv⟩ := visitSource_covers hvisit hw
    rw [wellFormed] at hformed
    obtain ⟨hcovers', hw'⟩ := walkEntries_covers hformed.2 hv hrest
    exact ⟨(hcovers.trans hcovers').congr fun path node _ => (below_directory hformed.1).symm, hw'⟩
  | .file mode links data, w, w', _, hw, h => by
    rw [walkNode] at h
    · cases h
      exact ⟨Covers.none fun _ _ _ ⟨_, hrest, _, hfind⟩ => find_of_no_entries rfl hrest hfind, hw⟩
    · exact nofun
  | .link isDirectory data, w, w', _, hw, h => by
    rw [walkNode] at h
    · cases h
      exact ⟨Covers.none fun _ _ _ ⟨_, hrest, _, hfind⟩ => find_of_no_entries rfl hrest hfind, hw⟩
    · exact nofun
  | .special, w, w', _, hw, h => by
    rw [walkNode] at h
    · cases h
      exact ⟨Covers.none fun _ _ _ ⟨_, hrest, _, hfind⟩ => find_of_no_entries rfl hrest hfind, hw⟩
    · exact nofun

theorem walkEntries_covers {parts : List String} : ∀ {entries : List (String × Node)}
    {w w' : Walked}, wellFormedEntries entries → w.totalBytes ≤ task.limits.sourceBytes →
      walkEntries (visitSource policy task) parts entries w = .ok w' →
        Covers policy (BelowEntries parts entries) w w' ∧
          w'.totalBytes ≤ task.limits.sourceBytes
  | [], w, w', _, hw, h => by
    rw [walkEntries] at h
    cases h
    exact ⟨Covers.none fun _ _ _ ⟨_, hmem, _⟩ => List.not_mem_nil hmem, hw⟩
  | (name, node) :: rest, w, w', hformed, hw, h => by
    rw [walkEntries] at h
    obtain ⟨v, hnode, hrest⟩ := bind_eq_ok.1 h
    rw [wellFormedEntries] at hformed
    obtain ⟨hcovers, hv⟩ := walkNode_covers hformed.2.1 hw hnode
    obtain ⟨hcovers', hw'⟩ := walkEntries_covers hformed.2.2 hv hrest
    refine ⟨(hcovers.trans hcovers').congr ?_, hw'⟩
    intro path found _
    simp only [BelowEntries, List.mem_cons, exists_eq_or_imp]

end

/-! ## Paths -/

theorem mem_wellFormed : ∀ {entries : List (String × Node)} {name : String} {node : Node},
    wellFormedEntries entries → (name, node) ∈ entries → '/' ∉ name.toList ∧ wellFormed node
  | (first, sub) :: rest, name, node, h, hmem => by
    rw [wellFormedEntries] at h
    rcases List.mem_cons.1 hmem with heq | hmem
    · cases heq
      exact ⟨h.1.1, h.2.1⟩
    · exact mem_wellFormed h.2.2 hmem

theorem find_wellFormed : ∀ {top node : Node} {path : List String}, wellFormed top →
    top.find path = some node → wellFormed node ∧ ∀ name ∈ path, '/' ∉ name.toList
  | top, node, [], h, hfind => by
    rw [Node.find] at hfind
    cases hfind
    exact ⟨h, by simp⟩
  | .directory mode entries, node, name :: rest, h, hfind => by
    unfold Node.find at hfind
    obtain ⟨sub, hsub, hfind⟩ := Option.bind_eq_some_iff.1 hfind
    rw [wellFormed] at h
    obtain ⟨hname, hsub⟩ := mem_wellFormed h.2 (mem_of_lookup hsub)
    obtain ⟨hnode, hrest⟩ := find_wellFormed hsub hfind
    exact ⟨hnode, List.forall_mem_cons.2 ⟨hname, hrest⟩⟩
  | .file mode links data, node, name :: rest, _, hfind =>
    absurd hfind (find_of_no_entries rfl (List.cons_ne_nil _ _))
  | .link isDirectory data, node, name :: rest, _, hfind =>
    absurd hfind (find_of_no_entries rfl (List.cons_ne_nil _ _))
  | .special, node, name :: rest, _, hfind =>
    absurd hfind (find_of_no_entries rfl (List.cons_ne_nil _ _))

theorem segments_pathText {parts : List String} (h : ∀ name ∈ parts, '/' ∉ name.toList)
    (hne : parts ≠ []) : segments (pathText parts) = parts := by
  unfold segments pathText
  have hsplit : (['/'].intercalate (parts.map String.toList)).splitOn '/' =
      parts.map String.toList := by
    refine List.splitOn_intercalate '/' ?_ ?_
    · intro name hname
      obtain ⟨part, hpart, rfl⟩ := List.mem_map.1 hname
      exact h part hpart
    · exact fun hnil => hne (List.map_eq_nil_iff.1 hnil)
  rw [String.toList_intercalate]
  have hslash : "/".toList = ['/'] := rfl
  rw [hslash, hsplit, List.map_map]
  simp

/-! ## The records of a workspace -/

/-- The file at the path of a record is as the record says. -/
structure Recorded (sha256 : List UInt8 → List UInt8) (workspace : Node) (record : SourceRecord)
    (data : List UInt8) : Prop where
  found : ∃ mode, workspace.find ("source" :: segments record.path) = some (.file mode 1 data)
  nonempty : data ≠ []
  content : record = {
    path := record.path
    sha256 := hexText (sha256 data)
    sizeBytes := data.length
    role := if record.path = "wit/contract.wit" then "authoritative-contract-copy"
      else "generated-source" }
  normal : isSourcePath record.path = true
  allowed : ∃ above name, segments record.path = above ++ [name] ∧
    isAllowedSource above name = true ∧ ["build.rs", "Cargo.lock"].contains name = false

theorem AuditedFile.recorded {workspace node : Node} {parts : List String} {record : SourceRecord}
    (h : AuditedFile policy parts node record)
    (hfind : workspace.find ("source" :: parts) = some node)
    (hnames : ∀ name ∈ parts, '/' ∉ name.toList) :
    segments record.path = parts ∧ ∃ data, Recorded policy.sha256 workspace record data := by
  obtain ⟨mode, data, rfl, -, hdata, rfl⟩ := h.file
  obtain ⟨above, name, hparts, hallowed, hname⟩ := h.allowed
  have hsegments : segments (pathText parts) = parts := by
    refine segments_pathText hnames ?_
    rw [hparts]
    exact List.append_ne_nil_of_right_ne_nil _ (List.cons_ne_nil _ _)
  refine ⟨hsegments, data, ?_⟩
  constructor
  · exact ⟨mode, by rw [hsegments]; exact hfind⟩
  · exact hdata
  · rfl
  · exact h.normal
  · exact ⟨above, name, by rw [hsegments]; exact hparts, hallowed, hname⟩

/-- Records for the sources of a workspace, as the audit returns them. -/
structure Inventoried (policy : Policy δ) (task : Task δ) (workspace : Node)
    (reported : List String) (contractDigest : String) (records : List SourceRecord) : Prop where
  recorded : ∀ record ∈ records, ∃ data, Recorded policy.sha256 workspace record data
  sorted : records.Pairwise fun a b => a.path ≤ b.path
  inventory : (records.map SourceRecord.path).Perm reported
  files : records.length ≤ task.limits.sourceFiles
  bytes : (records.map SourceRecord.sizeBytes).sum ≤ task.limits.sourceBytes
  cargo : "Cargo.toml" ∈ records.map SourceRecord.path
  library : "src/lib.rs" ∈ records.map SourceRecord.path
  contract : "wit/contract.wit" ∈ records.map SourceRecord.path
  /-- The audit compares a digest of the copy. -/
  contractDigest : ∃ mode data,
    workspace.find ["source", "wit", "contract.wit"] = some (.file mode 1 data) ∧
      hexText (policy.sha256 data) = contractDigest
  manifest : ∃ mode data, workspace.find ["source", "Cargo.toml"] = some (.file mode 1 data) ∧
    ∃ u, policy.validateCargoManifest data task = .ok u
  noStd : ∃ mode data text,
    workspace.find ["source", "src", "lib.rs"] = some (.file mode 1 data) ∧
      String.fromUTF8? ⟨data.toArray⟩ = some text ∧ isNoStd text = true

theorem lifted_eq_ok {α : Type} {x : Except WorkerError α} {a : α} :
    lifted x = .ok a ↔ x = .ok a := by
  cases x <;> simp [lifted]

/-- What the scaffold check accepts. -/
theorem validateCargoScaffold_ok {workspace : Node} {u : Unit}
    (h : validateCargoScaffold policy workspace task = .ok u) :
    ∃ mode data, workspace.find ["source", "Cargo.toml"] = some (.file mode 1 data) ∧
      ∃ u, policy.validateCargoManifest data task = .ok u := by
  unfold validateCargoScaffold at h
  cases hfound : workspace.find ["source", "Cargo.toml"] with
  | none =>
    rw [hfound] at h
    cases h
  | some node =>
    rw [hfound] at h
    cases node with
    | file mode links data =>
      obtain ⟨_, hmetadata, h⟩ := bind_eq_ok.1 h
      obtain ⟨expected, -, h⟩ := bind_eq_ok.1 h
      obtain ⟨_, -, h⟩ := bind_eq_ok.1 h
      obtain ⟨_, -, h⟩ := bind_eq_ok.1 h
      rw [demand_eq_ok, Bool.and_eq_true, decide_eq_true_eq] at hmetadata
      exact ⟨mode, data, by rw [hmetadata.1], u, lifted_eq_ok.1 h⟩
    | directory mode entries => cases h
    | link isDirectory data => cases h
    | special => cases h

/-- A text that the audit has read is the text of a file. -/
theorem readRust_ok {workspace : Node} {path : String} {source : String × String}
    (h : readRust workspace path = .ok source) :
    source.1 = path ∧ ∃ data, readBytes workspace ("source" :: segments path) = .ok data ∧
      String.fromUTF8? ⟨data.toArray⟩ = some source.2 := by
  unfold readRust at h
  obtain ⟨data, hdata, h⟩ := bind_eq_ok.1 h
  cases htext : String.fromUTF8? ⟨data.toArray⟩ with
  | none =>
    rw [htext] at h
    cases h
  | some text =>
    rw [htext] at h
    obtain ⟨_, -, h⟩ := bind_eq_ok.1 h
    cases pure_eq_ok.1 h
    exact ⟨rfl, data, hdata, htext⟩

theorem readBytes_file {workspace : Node} {path : List String} {mode links : Nat}
    {data : List UInt8} (h : workspace.find path = some (.file mode links data)) :
    readBytes workspace path = .ok data := by
  unfold readBytes
  rw [h]

/-- What the walk over the sources of a workspace records. -/
theorem walked_recorded {workspace : Node} {mode : Nat} {entries : List (String × Node)}
    {walked : Walked} (hformed : wellFormed workspace)
    (hsource : workspace.find ["source"] = some (.directory mode entries))
    (h : walkNode (visitSource policy task) [] (.directory mode entries) ⟨[], 0⟩ = .ok walked) :
    (∀ record ∈ walked.records, ∃ data, Recorded policy.sha256 workspace record data) ∧
      (∀ name rest node, workspace.find ("source" :: name :: rest) = some node →
        node.isDirectory = false → ∃ record ∈ walked.records,
          segments record.path = name :: rest ∧
            ∃ data, Recorded policy.sha256 workspace record data) ∧
        walked.totalBytes = (walked.records.map SourceRecord.sizeBytes).sum ∧
          walked.totalBytes ≤ task.limits.sourceBytes := by
  have htop : ∀ path, workspace.find ("source" :: path) =
      (Node.directory mode entries).find path := by
    intro path
    unfold Node.find at hsource
    obtain ⟨sub, hsub, hfind⟩ := Option.bind_eq_some_iff.1 hsource
    rw [Node.find] at hfind
    cases hfind
    rw [Node.find, hsub, Option.bind_some]
  obtain ⟨hcovers, hbytes⟩ := walkNode_covers (find_wellFormed hformed hsource).1 (Nat.zero_le _) h
  obtain ⟨new, hrecords, htotal, hfrom, hto⟩ := hcovers.records
  have hnew : walked.records = new := hrecords
  have hrecorded : ∀ parts node record, Below [] (.directory mode entries) parts node →
      AuditedFile policy parts node record → segments record.path = parts ∧
        ∃ data, Recorded policy.sha256 workspace record data := by
    rintro parts node record ⟨rest, -, hpath, hfind⟩ haudited
    have hfound : workspace.find ("source" :: parts) = some node := by
      rw [htop, hpath, List.nil_append]
      exact hfind
    have hnames := (find_wellFormed hformed hfound).2
    exact haudited.recorded hfound fun name hname => hnames name (List.mem_cons_of_mem _ hname)
  refine ⟨?_, ?_, by simpa [hnew] using htotal, hbytes⟩
  · intro record hrecord
    obtain ⟨parts, node, hbelow, haudited⟩ := hfrom record (hnew ▸ hrecord)
    exact (hrecorded parts node record hbelow haudited).2
  · intro name rest node hfind hnode
    have hbelow : Below [] (.directory mode entries) (name :: rest) node :=
      ⟨name :: rest, List.cons_ne_nil _ _, rfl, (htop _).symm.trans hfind⟩
    obtain ⟨record, hrecord, haudited⟩ := hto _ _ hnode hbelow
    exact ⟨record, hnew ▸ hrecord, hrecorded _ node record hbelow haudited⟩

theorem sha256File_ok {workspace : Node} {path : List String} {digest : String}
    (h : sha256File policy workspace path = .ok digest) :
    ∃ data, readBytes workspace path = .ok data ∧ hexText (policy.sha256 data) = digest := by
  unfold sha256File at h
  obtain ⟨data, hdata, h⟩ := bind_eq_ok.1 h
  exact ⟨data, hdata, pure_eq_ok.1 h⟩

/-- What is read at a path is no directory. -/
theorem readBytes_ok {workspace : Node} {path : List String} {data : List UInt8}
    (h : readBytes workspace path = .ok data) :
    ∃ node, workspace.find path = some node ∧ node.isDirectory = false := by
  unfold readBytes at h
  cases hfind : workspace.find path with
  | none =>
    rw [hfind] at h
    cases h
  | some node =>
    rw [hfind] at h
    cases node with
    | directory mode entries => cases h
    | file mode links data => exact ⟨_, rfl, rfl⟩
    | link isDirectory data => exact ⟨_, rfl, rfl⟩
    | special => exact ⟨_, rfl, rfl⟩

theorem segments_injective : Function.Injective segments := by
  intro path path' h
  have hmap := congrArg (List.map String.toList) h
  unfold segments at hmap
  have hid : String.toList ∘ String.ofList = id := by
    funext chars
    simp
  rw [List.map_map, List.map_map, hid, List.map_id, List.map_id] at hmap
  have hjoin := congrArg (List.intercalate ['/']) hmap
  rw [List.intercalate_splitOn, List.intercalate_splitOn] at hjoin
  exact String.toList_injective hjoin

theorem checkSources_ok {workspace : Node} {reported : List String} {contractDigest : String}
    {records : List SourceRecord} {u : Unit}
    (h : checkSources policy workspace task reported contractDigest records = .ok u) :
    records.length ≤ task.limits.sourceFiles ∧ "Cargo.toml" ∈ records.map SourceRecord.path ∧
      "src/lib.rs" ∈ records.map SourceRecord.path ∧
        sha256File policy workspace ["source", "wit", "contract.wit"] = .ok contractDigest ∧
          (records.map SourceRecord.path).Perm reported := by
  unfold checkSources at h
  obtain ⟨_, hcount, h⟩ := bind_eq_ok.1 h
  obtain ⟨_, hpaths, h⟩ := bind_eq_ok.1 h
  obtain ⟨wit, hwit, h⟩ := bind_eq_ok.1 h
  obtain ⟨_, hdigest, h⟩ := bind_eq_ok.1 h
  rw [demand_eq_ok] at hcount hpaths hdigest h
  rw [Bool.and_eq_true, List.contains_iff_mem, List.contains_iff_mem] at hpaths
  rw [of_decide_eq_true hdigest] at hwit
  exact ⟨of_decide_eq_true hcount, hpaths.1, hpaths.2, hwit, List.isPerm_iff.1 h⟩

/-- A text that is looked up is one that was read. -/
theorem readRust_lookup {workspace : Node} {paths : List String} {path : String}
    {sources : List (String × String)} {text : String}
    (h : paths.mapM (readRust workspace) = .ok sources) (hlookup : sources.lookup path = some text) :
    readRust workspace path = .ok (path, text) := by
  have hforall := mapM_eq_ok.1 h
  clear h
  induction hforall with
  | nil => cases hlookup
  | @cons first source rest others hfirst _ ih =>
    rw [List.lookup_cons] at hlookup
    by_cases hname : path = source.1
    · subst hname
      simp only [beq_self_eq_true, Option.some.injEq] at hlookup
      have hname := (readRust_ok hfirst).1
      rw [hname, ← hlookup, hfirst]
      exact congrArg Except.ok (Prod.ext hname rfl)
    · rw [beq_false_of_ne hname] at hlookup
      exact ih hlookup

/-- **What the records of an accepted workspace say.** -/
theorem audit_facts {workspace : Node} {reported : List String} {contractDigest : String}
    {records : List SourceRecord} (hformed : wellFormed workspace)
    (h : auditWorkspace policy workspace task reported contractDigest = .ok records) :
    Inventoried policy task workspace reported contractDigest records := by
  obtain ⟨mode, entries, walked, sources, hsource, hwalk, hcheck, hscaffold, hsources, hnoStd,
    rfl⟩ := auditWorkspace_ok h
  obtain ⟨hfrom, hto, htotal, hbytes⟩ := walked_recorded hformed hsource hwalk
  obtain ⟨hfiles, hcargo, hlibrary, hwit, hinventory⟩ := checkSources_ok hcheck
  have hperm := List.perm_insertionSort (fun a b : SourceRecord => a.path ≤ b.path) walked.records
  have hpaths := hperm.map SourceRecord.path
  obtain ⟨contract, hcontract, hdigest⟩ := sha256File_ok hwit
  obtain ⟨node, hnode, hdirectory⟩ := readBytes_ok hcontract
  obtain ⟨copy, hcopy, hcopySegments, copyData, hcopyRecorded⟩ := hto _ _ _ hnode hdirectory
  have hcopyPath : copy.path = "wit/contract.wit" := by
    apply segments_injective
    rw [hcopySegments]
    decide
  have hcopyFound := hcopyRecorded.found
  rw [hcopySegments] at hcopyFound
  constructor
  · intro record hrecord
    exact hfrom record (hperm.mem_iff.1 hrecord)
  · have : Std.Total fun a b : SourceRecord => a.path ≤ b.path :=
      ⟨fun a b => le_total a.path b.path⟩
    have : IsTrans SourceRecord fun a b => a.path ≤ b.path := ⟨fun _ _ _ => le_trans⟩
    exact List.pairwise_insertionSort _ walked.records
  · exact hpaths.trans hinventory
  · exact hperm.length_eq ▸ hfiles
  · rw [(hperm.map SourceRecord.sizeBytes).sum_nat, ← htotal]
    exact hbytes
  · exact hpaths.mem_iff.2 hcargo
  · exact hpaths.mem_iff.2 hlibrary
  · exact hpaths.mem_iff.2 (hcopyPath ▸ List.mem_map_of_mem hcopy)
  · obtain ⟨mode, hfile⟩ := hcopyFound
    rw [readBytes_file hfile] at hcontract
    cases hcontract
    exact ⟨mode, _, hfile, hdigest⟩
  · exact validateCargoScaffold_ok hscaffold
  · obtain ⟨library, hmember, hpath⟩ := List.mem_map.1 hlibrary
    obtain ⟨data, hrecorded⟩ := hfrom library hmember
    obtain ⟨mode, hfile⟩ := hrecorded.found
    cases hlookup : sources.lookup "src/lib.rs" with
    | none =>
      rw [hlookup] at hnoStd
      exact absurd hnoStd (by decide)
    | some text =>
      rw [hlookup, Option.getD_some] at hnoStd
      obtain ⟨-, read, hread, htext⟩ := readRust_ok (readRust_lookup hsources hlookup)
      rw [hpath] at hfile
      rw [readBytes_file hfile] at hread
      cases hread
      have hlib : segments "src/lib.rs" = ["src", "lib.rs"] := by decide
      exact ⟨mode, data, text, by rw [← hlib]; exact hfile, htext, hnoStd⟩

end Vibapp.CloudAgent
