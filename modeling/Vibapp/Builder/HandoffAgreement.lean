import Mathlib
import Vibapp.Builder.PackageAgreement

/-!
# Two readings of the sources

The Builder's checks of the paths, the records and the files of a handoff, for sources that the cloud
agent has audited and copied.

**Main results.** `writeHandoff_ok`: the records of an audit can be copied, each under its path.
`validateSources_iff`: the Builder takes the copies exactly when the copy of the contract is the
contract. The grammars of paths agree (`normalizedRelativePath_ok`, `isAllowedPath_of_source`).
-/

namespace Vibapp.Builder

open CloudAgent (Entrypoint PackageIntent Target ProviderExecution SourceRecord HandoffDocument
  SourceTree Intent Policy Recorded Inventoried segments isSourcePath isAllowedSource)
open ProviderRunner (Node hexText pathText)
open Verifier (PipelineError)

/-! ## Paths -/

/-- What does not separate is in a part. -/
theorem mem_splitOnP {α : Type} {p : α → Bool} {a : α} {l : List α} (h : a ∈ l)
    (hp : p a = false) : ∃ part ∈ l.splitOnP p, a ∈ part := by
  induction l with
  | nil => cases h
  | cons b l ih =>
    rw [List.splitOnP_cons_eq_if_modifyHead]
    by_cases hb : p b = true
    · rw [if_pos hb]
      rcases List.mem_cons.1 h with rfl | h
      · rw [hp] at hb
        cases hb
      · obtain ⟨part, hpart, ha⟩ := ih h
        exact ⟨part, List.mem_cons_of_mem _ hpart, ha⟩
    · rw [if_neg hb]
      cases hsplit : l.splitOnP p with
      | nil => exact absurd hsplit (List.splitOnP_ne_nil p l)
      | cons head rest =>
        rw [List.modifyHead_cons]
        rcases List.mem_cons.1 h with rfl | h
        · exact ⟨_, List.mem_cons_self, List.mem_cons_self⟩
        · obtain ⟨part, hpart, ha⟩ := ih h
          rw [hsplit] at hpart
          rcases List.mem_cons.1 hpart with rfl | hpart
          · exact ⟨_, List.mem_cons_self, List.mem_cons_of_mem _ ha⟩
          · exact ⟨part, List.mem_cons_of_mem _ hpart, ha⟩

/-- The characters of a path. -/
def isPathChar (c : Char) : Bool :=
  Launcher.isAlnum c || c = '.' || c = '_' || c = '-' || c = '/'

/-- What `isSourcePath` says of a path. -/
structure PathAccepted (path : String) : Prop where
  length : 1 ≤ path.toList.length ∧ path.toList.length ≤ 240
  segments : ∀ segment ∈ path.toList.splitOn '/', segment ≠ ['.'] ∧ segment ≠ ['.', '.'] ∧
    Launcher.isToken (fun c => Launcher.isAlnum c || c = '.' || c = '_' || c = '-') 127 segment =
      true

theorem path_accepted {path : String} (h : isSourcePath path = true) : PathAccepted path := by
  unfold isSourcePath at h
  simp only [Bool.and_eq_true, decide_eq_true_eq, List.all_eq_true] at h
  exact ⟨h.1, fun segment hsegment => and_assoc.1 (h.2 segment hsegment)⟩

theorem PathAccepted.ne_nil {path : String} (h : PathAccepted path) :
    [] ∉ path.toList.splitOn '/' := by
  intro hnil
  exact absurd (h.segments [] hnil).2.2 (by decide)

theorem PathAccepted.isPathChar {path : String} (h : PathAccepted path) :
    ∀ c ∈ path.toList, isPathChar c = true := by
  intro c hc
  by_cases hslash : c = '/'
  · rw [hslash]
    decide
  · obtain ⟨segment, hsegment, hc⟩ := mem_splitOnP (p := (· == '/')) hc (beq_false_of_ne hslash)
    rw [← List.splitOn_eq_splitOnP] at hsegment
    have htoken := (h.segments segment hsegment).2.2
    cases segment with
    | nil => cases hc
    | cons first rest =>
      simp only [Launcher.isToken, Bool.and_eq_true, List.all_eq_true] at htoken
      unfold Builder.isPathChar
      rcases List.mem_cons.1 hc with rfl | hc
      · simp [htoken.1.1]
      · rw [htoken.2 c hc, Bool.true_or]

/-- A character of a path is a printable one of ASCII. -/
theorem isPathChar_range {c : Char} (h : isPathChar c = true) : 0x2D ≤ c.toNat ∧ c.toNat ≤ 0x7F := by
  simp only [isPathChar, Launcher.isAlnum, Char.isAlphanum, Char.isAlpha, Char.isUpper,
    Char.isLower, Char.isDigit, Bool.or_eq_true, Bool.and_eq_true, decide_eq_true_eq,
    ge_iff_le, UInt32.le_iff_toNat_le] at h
  unfold Char.toNat
  rcases h with ((((((⟨hl, hr⟩ | ⟨hl, hr⟩) | ⟨hl, hr⟩) | rfl) | rfl) | rfl) | rfl)
  · exact ⟨le_trans (by decide) hl, le_trans hr (by decide)⟩
  · exact ⟨le_trans (by decide) hl, le_trans hr (by decide)⟩
  · exact ⟨le_trans (by decide) hl, le_trans hr (by decide)⟩
  · decide
  · decide
  · decide
  · decide

theorem utf8Size_of_isPathChar {c : Char} (h : isPathChar c = true) : c.utf8Size = 1 :=
  Char.utf8Size_eq_one_iff.2 (UInt32.le_iff_toNat_le.2 (isPathChar_range h).2)

theorem utf8ByteSize_of_ascii {text : String} (h : ∀ c ∈ text.toList, c.utf8Size = 1) :
    text.utf8ByteSize = text.toList.length := by
  rw [← Json.utf8Len_ascii h, ← Json.utf8ByteSize_ofList, String.ofList_toList]

/-- A path of the audit is canonical. -/
theorem PathAccepted.canonical {path : String} (h : PathAccepted path) :
    '\\' ∉ path.toList ∧ path.toList.head? ≠ some '/' ∧ path.toList.getLast? ≠ some '/' ∧
      [] ∉ (path.toList.splitOn '/').tail.dropLast := by
  refine ⟨?_, ?_, ?_, ?_⟩
  · intro hmem
    exact absurd (h.isPathChar _ hmem) (by decide)
  · intro hslash
    obtain ⟨rest, hrest⟩ := List.head?_eq_some_iff.1 hslash
    refine h.ne_nil ?_
    rw [hrest, ← List.nil_append ('/' :: rest), List.splitOn_append_cons_self]
    exact List.mem_append_left _ (by decide)
  · intro hslash
    obtain ⟨before, hbefore⟩ := List.getLast?_eq_some_iff.1 hslash
    refine h.ne_nil ?_
    rw [hbefore, List.splitOn_append_cons_self]
    exact List.mem_append_right _ (by decide)
  · intro hmem
    exact h.ne_nil (List.mem_of_mem_tail ((List.dropLast_sublist _).subset hmem))

/-- **The Builder's check of a path.** -/
theorem normalizedRelativePath_ok {path context : String} (h : PathAccepted path) :
    normalizedRelativePath path context = .ok () := by
  have hbytes := utf8ByteSize_of_ascii fun c hc => utf8Size_of_isPathChar (h.isPathChar c hc)
  obtain ⟨hbackslash, hhead, hlast, hempty⟩ := h.canonical
  have hne : path ≠ "" := by
    rintro rfl
    exact absurd h.length.1 (by decide)
  unfold normalizedRelativePath
  simp only [check_eq_ok, require_eq_ok]
  refine ⟨?_, ?_, ?_⟩
  · simp [hne, hbytes, h.length.2]
  · simp [hbackslash, hhead, hlast, hempty]
  · rw [List.all_eq_true]
    intro segment hsegment
    obtain ⟨hdot, hdots, htoken⟩ := h.segments segment hsegment
    simp [hdot, hdots, htoken]

/-! ## Source paths -/

theorem splitOn_of_segments {path : String} {parts : List String} (h : segments path = parts) :
    path.toList.splitOn '/' = parts.map String.toList := by
  rw [← h, segments, List.map_map]
  have hid : String.toList ∘ String.ofList = id := by
    funext chars
    simp
  rw [hid, List.map_id]

theorem pathText_segments {path : String} {parts : List String} (h : segments path = parts) :
    pathText parts = path := by
  apply String.toList_injective
  unfold pathText
  rw [String.toList_intercalate, ← splitOn_of_segments h]
  exact List.intercalate_splitOn '/'

/-- The allowlists agree. -/
theorem isAllowedPath_of_source {path name : String} {above : List String}
    (hsegments : segments path = above ++ [name]) (h : isAllowedSource above name = true) :
    isAllowedPath path = true ∧ baseName path = name := by
  have hsplit := splitOn_of_segments hsegments
  have hlast : (path.toList.splitOn '/').getLastD [] = name.toList := by
    rw [hsplit, List.map_append]
    simp [List.getLastD_eq_getLast?]
  unfold isAllowedSource at h
  rw [pathText_segments hsegments] at h
  refine ⟨?_, ?_⟩
  · unfold isAllowedPath
    dsimp only
    rw [hlast]
    rcases Bool.or_eq_true_iff.1 h with hnamed | hrust
    · rw [hnamed, Bool.true_or]
    · simp only [Bool.and_eq_true, decide_eq_true_eq, List.contains_iff_mem] at hrust
      obtain ⟨⟨⟨habove, hhead⟩, hlength⟩, hsuffix⟩ := hrust
      cases above with
      | nil => cases habove
      | cons first rest =>
        have hfirst : ["src".toList, "tests".toList].contains first.toList = true :=
          List.contains_iff_mem.2 (List.mem_map_of_mem hhead)
        rw [hsplit, List.cons_append, List.map_cons, List.headD_cons, hfirst]
        simp [hlength, hsuffix]
  · unfold baseName
    rw [hlast, String.ofList_toList]

/-! ## Digests -/

theorem digitChar_isHex : ∀ n < 16, ((Nat.digitChar n).isDigit ||
    ('a' ≤ Nat.digitChar n && Nat.digitChar n ≤ 'f' : Bool)) = true := by
  decide

theorem length_hexText (data : List UInt8) :
    (hexText data).toList.length = 2 * data.length := by
  rw [hexText, String.toList_ofList]
  induction data with
  | nil => rfl
  | cons byte rest ih =>
    rw [List.flatMap_cons, List.length_append, ih, List.length_cons, List.length_cons,
      List.length_cons, List.length_nil]
    omega

theorem isDigest_hexText {data : List UInt8} (h : data.length = 32) :
    Launcher.isDigest (hexText data) = true := by
  unfold Launcher.isDigest
  rw [Bool.and_eq_true, decide_eq_true_eq, ← String.length_toList, length_hexText, h]
  refine ⟨rfl, ?_⟩
  rw [hexText, String.toList_ofList, List.all_eq_true]
  intro c hc
  obtain ⟨byte, -, hbyte⟩ := List.mem_flatMap.1 hc
  have hlt := byte.toNat_lt
  rcases List.mem_cons.1 hbyte with rfl | hbyte
  · exact digitChar_isHex _ (by omega)
  · rw [List.mem_singleton.1 hbyte]
    exact digitChar_isHex _ (by omega)

/-! ## Records -/

variable {builder : Context} {workspace : Node} {source : SourceTree}

/-- The source directory holds what the record is about. -/
structure Copied (builder : Context) (workspace : Node) (source : SourceTree)
    (record : SourceRecord) (data : List UInt8) : Prop where
  recorded : Recorded builder.sha256 workspace record data
  found : source.files.lookup record.path = some (.file 0o444 1 data)
  size : data.length ≤ maxSourceFileBytes

theorem Copied.sizeBytes {record : SourceRecord} {data : List UInt8}
    (h : Copied builder workspace source record data) : record.sizeBytes = data.length := by
  rw [h.recorded.content]

theorem Copied.sha256 {record : SourceRecord} {data : List UInt8}
    (h : Copied builder workspace source record data) :
    record.sha256 = hexText (builder.sha256 data) := by
  rw [h.recorded.content]

theorem Copied.role {record : SourceRecord} {data : List UInt8}
    (h : Copied builder workspace source record data) :
    record.role = if record.path = "wit/contract.wit" then "authoritative-contract-copy"
      else "generated-source" := by
  rw [h.recorded.content]

theorem Copied.one_le {record : SourceRecord} {data : List UInt8}
    (h : Copied builder workspace source record data) : 1 ≤ data.length :=
  List.length_pos_iff.2 h.recorded.nonempty

/-- The roles agree, and the Builder compares the contract. -/
theorem validateRole_iff {record : SourceRecord} {data : List UInt8}
    (h : Copied builder workspace source record data) :
    validateRole builder record data = .ok () ↔
      (record.path = "wit/contract.wit" → data = builder.contract) := by
  have hrole := h.role
  unfold validateRole
  by_cases hwit : record.path = "wit/contract.wit"
  · rw [if_pos hwit] at hrole
    rw [if_pos hwit, check_eq_ok, require_eq_ok, require_eq_ok, hrole]
    simp [hwit]
  · rw [if_neg hwit] at hrole
    rw [if_neg hwit, require_eq_ok, hrole]
    simp [hwit]

/-- **The Builder's turn for a record.** -/
theorem validateRecord_iff {inventory inventory' : Inventory} {record : SourceRecord}
    {data : List UInt8} (h : Copied builder workspace source record data)
    (hnew : record.path ∉ inventory.records.map SourceRecord.path)
    (htotal : inventory.total + data.length ≤ maxSourceBytes) :
    validateRecord builder source inventory record = .ok inventory' ↔
      (record.path = "wit/contract.wit" → data = builder.contract) ∧
        inventory' = ⟨inventory.records ++ [record], inventory.total + data.length⟩ := by
  have hpath := path_accepted h.recorded.normal
  obtain ⟨above, name, hsegments, hallowed, hname⟩ := h.recorded.allowed
  obtain ⟨hallowedPath, hbase⟩ := isAllowedPath_of_source hsegments hallowed
  have hrole : ["generated-source", "authoritative-contract-copy"].contains record.role = true := by
    rw [h.role]
    by_cases hwit : record.path = "wit/contract.wit"
    · rw [if_pos hwit]
      decide
    · rw [if_neg hwit]
      decide
  have hdigest := isDigest_hexText (builder.sha256_length data)
  unfold validateRecord
  dsimp only
  rw [lstatRegular_eq_ok h.found ⟨h.one_le, h.size⟩]
  simp only [check_eq_ok, require_eq_ok, ok_bind, normalizedRelativePath_ok hpath, requireSha256,
    validateRole_iff h, pure_eq_ok, h.sha256, h.sizeBytes, hdigest, hrole, hallowedPath, hbase,
    hname, true_and]
  constructor
  · rintro ⟨-, -, -, -, -, hcontract, -, -, rfl⟩
    exact ⟨hcontract, rfl⟩
  · rintro ⟨hcontract, rfl⟩
    refine ⟨by simpa using hnew, ?_, by decide, by simp, by simp, hcontract, by simp, ?_, rfl⟩
    · simp [h.one_le, h.size]
    · simp [htotal]

/-- The copy of the contract, if the record is about it, is the contract. -/
def CopyFits (builder : Context) (source : SourceTree) (record : SourceRecord) : Prop :=
  record.path = "wit/contract.wit" → ∀ mode data,
    source.files.lookup record.path = some (.file mode 1 data) → data = builder.contract

theorem copyFits_iff {record : SourceRecord} {data : List UInt8}
    (h : Copied builder workspace source record data) :
    CopyFits builder source record ↔ (record.path = "wit/contract.wit" → data = builder.contract) := by
  constructor
  · exact fun hfits hwit => hfits hwit 0o444 data h.found
  · intro hfits hwit mode data' hfound
    rw [h.found] at hfound
    cases hfound
    exact hfits hwit

/-- The Builder's loop over the records. -/
theorem foldlM_records_iff {records : List SourceRecord} {inventory inventory' : Inventory}
    (h : ∀ record ∈ records, ∃ data, Copied builder workspace source record data)
    (hnodup : ((inventory.records ++ records).map SourceRecord.path).Nodup)
    (htotal : inventory.total + (records.map SourceRecord.sizeBytes).sum ≤ maxSourceBytes) :
    records.foldlM (validateRecord builder source) inventory = .ok inventory' ↔
      (∀ record ∈ records, CopyFits builder source record) ∧
        inventory' = ⟨inventory.records ++ records,
          inventory.total + (records.map SourceRecord.sizeBytes).sum⟩ := by
  induction records generalizing inventory with
  | nil =>
    rw [List.foldlM_nil, pure_eq_ok, List.append_nil, List.map_nil, List.sum_nil, Nat.add_zero]
    simp [eq_comm]
  | cons record rest ih =>
    obtain ⟨data, hcopied⟩ := h record List.mem_cons_self
    rw [List.map_cons, List.sum_cons, hcopied.sizeBytes] at htotal
    have hnew : record.path ∉ inventory.records.map SourceRecord.path := by
      rw [List.map_append, List.map_cons] at hnodup
      exact fun hmem => List.disjoint_of_nodup_append hnodup hmem List.mem_cons_self
    have hturn : ∀ next, validateRecord builder source inventory record = .ok next ↔
        (record.path = "wit/contract.wit" → data = builder.contract) ∧
          next = ⟨inventory.records ++ [record], inventory.total + data.length⟩ :=
      fun next => validateRecord_iff hcopied hnew (by omega)
    have hrest : rest.foldlM (validateRecord builder source)
          ⟨inventory.records ++ [record], inventory.total + data.length⟩ = .ok inventory' ↔
        (∀ record ∈ rest, CopyFits builder source record) ∧
          inventory' = ⟨inventory.records ++ record :: rest, inventory.total + data.length +
            (rest.map SourceRecord.sizeBytes).sum⟩ := by
      have hsplit : inventory.records ++ record :: rest = inventory.records ++ [record] ++ rest := by
        simp
      rw [hsplit] at hnodup ⊢
      apply ih
      · exact fun record hmem => h record (List.mem_cons_of_mem _ hmem)
      · exact hnodup
      · dsimp only
        omega
    rw [List.foldlM_cons, bind_eq_ok, List.forall_mem_cons, copyFits_iff hcopied, List.map_cons,
      List.sum_cons, hcopied.sizeBytes, ← Nat.add_assoc]
    constructor
    · rintro ⟨next, hnext, hfold⟩
      obtain ⟨hfits, rfl⟩ := (hturn next).1 hnext
      obtain ⟨hall, rfl⟩ := hrest.1 hfold
      exact ⟨⟨hfits, hall⟩, rfl⟩
    · rintro ⟨⟨hfits, hall⟩, rfl⟩
      exact ⟨_, (hturn _).2 ⟨hfits, rfl⟩, hrest.2 ⟨hall, rfl⟩⟩

/-! ## The copies -/

theorem normalizedSourcePath_ok {path context : String} (h : isSourcePath path = true) :
    CloudAgent.normalizedSourcePath path context = .ok () := by
  have hpath := path_accepted h
  obtain ⟨hbackslash, hhead, hlast, hempty⟩ := hpath.canonical
  unfold CloudAgent.normalizedSourcePath
  dsimp only
  have hdemand : ∀ (ok : Bool) (code message : String), ok = true →
      CloudAgent.demand ok code message = .ok () :=
    fun ok code message hok => CloudAgent.demand_eq_ok.2 hok
  rw [hdemand, ok_bind, hdemand, ok_bind, hdemand, ok_bind, hdemand _ _ _ h]
  · simp [hbackslash, hhead, hlast, hempty]
  · rw [List.all_eq_true]
    intro c hc
    have hrange := (isPathChar_range (hpath.isPathChar c hc)).1
    have hcontrol : (0x20 ≤ c.toNat : Bool) = true := decide_eq_true (le_trans (by decide) hrange)
    rw [hcontrol, Bool.true_or, Bool.true_or]
  · simp [hpath.length.1, hpath.length.2]

theorem copyRecord_ok {record : SourceRecord} {data : List UInt8}
    (h : Recorded builder.sha256 workspace record data) :
    CloudAgent.copyRecord workspace record = .ok (record.path, .file 0o444 1 data) := by
  obtain ⟨mode, hfound⟩ := h.found
  unfold CloudAgent.copyRecord
  rw [normalizedSourcePath_ok h.normal, ok_bind, hfound]

/-- The loop of `persist_handoff` over the records. -/
theorem mapM_copyRecord {records : List SourceRecord}
    (h : ∀ record ∈ records, ∃ data, Recorded builder.sha256 workspace record data) :
    ∃ files, records.mapM (CloudAgent.copyRecord workspace) = .ok files ∧
      files.map Prod.fst = records.map SourceRecord.path ∧
        ∀ record ∈ records, ∃ data, Recorded builder.sha256 workspace record data ∧
          (record.path, Node.file 0o444 1 data) ∈ files := by
  induction records with
  | nil => exact ⟨[], rfl, rfl, fun _ hrecord => absurd hrecord List.not_mem_nil⟩
  | cons record rest ih =>
    obtain ⟨data, hdata⟩ := h record List.mem_cons_self
    obtain ⟨files, hfiles, hpaths, hmem⟩ := ih fun record hrecord =>
      h record (List.mem_cons_of_mem _ hrecord)
    refine ⟨(record.path, .file 0o444 1 data) :: files, ?_, ?_, ?_⟩
    · rw [List.mapM_cons, copyRecord_ok hdata, ok_bind, hfiles]
      rfl
    · rw [List.map_cons, List.map_cons, hpaths]
    · intro other hother
      rcases List.mem_cons.1 hother with rfl | hother
      · exact ⟨data, hdata, List.mem_cons_self⟩
      · obtain ⟨data', hdata', hfile⟩ := hmem other hother
        exact ⟨data', hdata', List.mem_cons_of_mem _ hfile⟩

variable {task : CloudAgent.Task Intent} {policy : Policy Intent} {reported : List String}
  {contractDigest : String} {records : List SourceRecord}

/-- **What `persist_handoff` writes.** -/
theorem writeHandoff_ok {execution : ProviderExecution} {now : String}
    (hrecorded : ∀ record ∈ records, ∃ data, Recorded builder.sha256 workspace record data)
    (hnodup : (records.map SourceRecord.path).Nodup)
    (hbytes : (records.map SourceRecord.sizeBytes).sum ≤ maxSourceFileBytes) :
    ∃ source, CloudAgent.writeHandoff builder.sha256 workspace task records execution now =
        .ok (CloudAgent.handoffOf builder.sha256 task records execution now, source) ∧
      source.linkedDirectory = false ∧
        source.files.map Prod.fst = records.map SourceRecord.path ∧
          ∀ record ∈ records, ∃ data, Copied builder workspace source record data := by
  obtain ⟨files, hfiles, hpaths, hmem⟩ := mapM_copyRecord hrecorded
  refine ⟨⟨files, false⟩, ?_, rfl, hpaths, ?_⟩
  · unfold CloudAgent.writeHandoff
    rw [hfiles]
    rfl
  · intro record hrecord
    obtain ⟨data, hdata, hfile⟩ := hmem record hrecord
    refine ⟨data, hdata, CloudAgent.lookup_eq_of_mem (hpaths ▸ hnodup) hfile, ?_⟩
    have hsize : record.sizeBytes = data.length := by
      rw [hdata.content]
    rw [← hsize]
    exact le_trans (List.le_sum_of_mem (List.mem_map_of_mem hrecord)) hbytes

/-! ## The sources -/

/-- **The Builder's checks of the sources.** -/
theorem validateSources_iff {document : HandoffDocument}
    (h : Inventoried policy task workspace reported contractDigest document.files)
    (hdigest : document.sourceTreeSha256 =
      CloudAgent.sourceTreeDigest builder.sha256 document.files)
    (hnodup : (document.files.map SourceRecord.path).Nodup)
    (hcount : 2 ≤ document.files.length ∧ document.files.length ≤ 256)
    (hbytes : (document.files.map SourceRecord.sizeBytes).sum ≤ maxSourceFileBytes)
    (hlinked : source.linkedDirectory = false)
    (hpaths : source.files.map Prod.fst = document.files.map SourceRecord.path)
    (hcopied : ∀ record ∈ document.files, ∃ data, Copied builder workspace source record data) :
    validateSources builder document source = .ok () ↔
      ∀ record ∈ document.files, CopyFits builder source record := by
  have hfold : ∀ inventory', document.files.foldlM (validateRecord builder source) ⟨[], 0⟩ =
      .ok inventory' ↔ (∀ record ∈ document.files, CopyFits builder source record) ∧
        inventory' = ⟨[] ++ document.files,
          0 + (document.files.map SourceRecord.sizeBytes).sum⟩ := by
    intro inventory'
    refine foldlM_records_iff hcopied hnodup ?_
    rw [Nat.zero_add]
    exact le_trans hbytes (by decide)
  have hsorted : document.files.insertionSort (fun a b => a.path ≤ b.path) = document.files :=
    h.sorted.insertionSort_eq
  unfold validateSources
  rw [check_eq_ok, require_eq_ok, bind_eq_ok]
  constructor
  · rintro ⟨-, inventory, hinventory, -⟩
    exact ((hfold inventory).1 hinventory).1
  · intro hfits
    refine ⟨by simp [hcount.1, hcount.2], _, (hfold _).2 ⟨hfits, rfl⟩, ?_⟩
    simp only [check_eq_ok, require_eq_ok, List.nil_append]
    refine ⟨by rw [hlinked]; rfl, ?_, ?_, ?_⟩
    · rw [hpaths]
      simp only [Bool.and_eq_true, List.all_eq_true, List.contains_iff_mem]
      exact ⟨fun _ hpath => hpath, fun _ hpath => hpath⟩
    · apply decide_eq_true
      unfold sourceTreeDigest
      rw [hsorted, hsorted, hdigest]
    · simp only [Bool.and_eq_true, List.contains_iff_mem, List.any_eq_true]
      exact ⟨⟨h.cargo, h.contract⟩, "src/lib.rs", h.library, by decide, by decide⟩

end Vibapp.Builder
