import Vibapp.Lib.VersionedStore
import Vibapp.ServiceRuntime.Kv

/-!
# The document as a versioned store

What the key-value document is for, without the file: entries with revisions and a receipt for each
idempotency key. **Main result** (`Commits.legal`, `Commits.store_eq`): the next document of a
transaction is a legal commit of the store. A valid document stays valid, so each broker can
read what any broker has written.
-/

namespace Vibapp.ServiceRuntime

/-! ## The document as a versioned store -/

/-- What the document is for. -/
abbrev KvStore := VersionedStore String (List UInt8) String String

def StoredKvEntry.versioned (entry : StoredKvEntry) : Versioned (List UInt8) :=
  ⟨entry.value, entry.revision⟩

def entriesOf (entries : Dict String StoredKvEntry) (key : String) :
    Option (Versioned (List UInt8)) :=
  (entries.get? key).map StoredKvEntry.versioned

def KvDocument.store (document : KvDocument) : KvStore where
  revision := document.stateRevision
  entries := entriesOf document.entries
  receipts id := (document.transactions.get? id).map fun t => (t.requestSha256, t.stateRevision)

theorem store_receipts (document : KvDocument) (id : String) :
    document.store.receipts id =
      (document.transactions.get? id).map fun t => (t.requestSha256, t.stateRevision) := rfl

def WriteOperation.write : WriteOperation → VersionedWrite String (List UInt8)
  | put operation => .put operation.key operation.value operation.expectedRevision
  | delete operation => .delete operation.key operation.expectedRevision

/-- The request as a transaction that commits as `revision`. -/
def TransactionRequest.transaction (sha256 : String → String) (request : TransactionRequest)
    (revision : Nat) : Transaction String (List UInt8) String String where
  id := request.idempotencyKey
  digest := sha256 request.text
  writes := request.operations.map WriteOperation.write
  revision := revision

/-! ## The texts of requests -/

theorem optionJson_inj {m n : Option Nat} (h : optionJson m = optionJson n) : m = n := by
  cases m with
  | none =>
    cases n with
    | none => rfl
    | some n => exact absurd h (by simp [optionJson])
  | some m =>
    cases n with
    | none => exact absurd h (by simp [optionJson])
    | some n =>
      simp only [optionJson, Json.int.injEq] at h
      exact congrArg some (by omega)

theorem bytesJson_inj {v w : List UInt8} (h : bytesJson v = bytesJson w) : v = w := by
  have hinj : Function.Injective fun byte : UInt8 => Json.int byte.toNat := by
    intro a b hab
    simp only [Json.int.injEq] at hab
    exact UInt8.toNat_inj.1 (by omega)
  exact List.map_injective_iff.2 hinj (Json.arr.inj h)

theorem WriteOperation.toJson_inj {a b : WriteOperation} (h : a.toJson = b.toJson) : a = b := by
  cases a with
  | put a =>
    cases b with
    | put b =>
      obtain ⟨ka, va, ea⟩ := a
      obtain ⟨kb, vb, eb⟩ := b
      simp only [toJson, Json.obj.injEq, List.cons.injEq, Prod.mk.injEq, true_and, and_true,
        Json.str.injEq] at h
      rw [h.1, bytesJson_inj h.2.1, optionJson_inj h.2.2]
    | delete b => exact absurd h (by simp [toJson])
  | delete a =>
    cases b with
    | put b => exact absurd h (by simp [toJson])
    | delete b =>
      obtain ⟨ka, ea⟩ := a
      obtain ⟨kb, eb⟩ := b
      simp only [toJson, Json.obj.injEq, List.cons.injEq, Prod.mk.injEq, true_and, and_true,
        Json.str.injEq] at h
      rw [h.1, optionJson_inj h.2]

/-- The text determines the request. -/
theorem TransactionRequest.text_inj {r s : TransactionRequest} (h : r.text = s.text) : r = s := by
  obtain ⟨os, k⟩ := r
  obtain ⟨ps, l⟩ := s
  have hjson := Json.chars_inj (String.ofList_injective h)
  simp only [toJson, Json.obj.injEq, List.cons.injEq, Prod.mk.injEq, true_and, and_true,
    Json.arr.injEq, Json.str.injEq] at hjson
  have hinj : Function.Injective WriteOperation.toJson := fun _ _ => WriteOperation.toJson_inj
  rw [List.map_injective_iff.2 hinj hjson.1, hjson.2]

/-! ## Operations -/

theorem entriesOf_set (entries : Dict String StoredKvEntry) (key : String) (entry : StoredKvEntry) :
    entriesOf (entries.set key entry) =
      Function.update (entriesOf entries) key (some entry.versioned) := by
  funext k
  by_cases h : k = key
  · rw [h, Function.update_self, entriesOf, Dict.get?_set_self]
    rfl
  · rw [Function.update_of_ne h, entriesOf, Dict.get?_set_ne _ h]
    rfl

theorem entriesOf_erase (entries : Dict String StoredKvEntry) (key : String) :
    entriesOf (entries.erase key) = Function.update (entriesOf entries) key none := by
  funext k
  by_cases h : k = key
  · rw [h, Function.update_self, entriesOf, Dict.get?_erase_self]
    rfl
  · rw [Function.update_of_ne h, entriesOf, Dict.get?_erase_ne _ h]
    rfl

theorem stale_eq_false_iff {entries : Dict String StoredKvEntry} {key : String}
    {expected : Option Nat} :
    stale entries key expected = false ↔
      ∀ r ∈ expected, (entriesOf entries key).map Versioned.revision = some r := by
  have hmap : (entriesOf entries key).map Versioned.revision =
      (entries.get? key).map StoredKvEntry.revision := by
    rw [entriesOf, Option.map_map]
    rfl
  rw [hmap]
  cases expected with
  | none => simp [stale]
  | some r => simp [stale]

/-- An operation that passes found the revision it expects, and does what its write does. -/
theorem applyOperation_ok {target : Nat} {entries entries' : Dict String StoredKvEntry}
    {operation : WriteOperation} (h : applyOperation target entries operation = .ok entries') :
    operation.write.Current (entriesOf entries) ∧
      entriesOf entries' = operation.write.apply target (entriesOf entries) := by
  cases operation with
  | put operation =>
    rw [applyOperation, ite_error_eq_ok, ite_error_eq_ok] at h
    obtain ⟨-, hstale, hset⟩ := h
    cases hset
    exact ⟨stale_eq_false_iff.1 (eq_false_of_ne_true hstale), entriesOf_set ..⟩
  | delete operation =>
    rw [applyOperation, ite_error_eq_ok, ite_error_eq_ok] at h
    obtain ⟨-, hstale, herase⟩ := h
    cases herase
    exact ⟨stale_eq_false_iff.1 (eq_false_of_ne_true hstale), entriesOf_erase ..⟩

theorem applyOperations_ok {target : Nat} : ∀ {operations : List WriteOperation}
    {entries entries' : Dict String StoredKvEntry},
    operations.foldlM (applyOperation target) entries = .ok entries' →
      VersionedWrite.AllCurrent target (operations.map WriteOperation.write) (entriesOf entries) ∧
      entriesOf entries' = VersionedWrite.applyAll target (operations.map WriteOperation.write)
        (entriesOf entries)
  | [], entries, entries', h => by
    cases pure_eq_ok.1 h
    exact ⟨trivial, rfl⟩
  | operation :: operations, entries, entries', h => by
    rw [List.foldlM_cons] at h
    obtain ⟨m, hm, hrest⟩ := bind_eq_ok.1 h
    obtain ⟨hcurrent, happly⟩ := applyOperation_ok hm
    obtain ⟨hall, hend⟩ := applyOperations_ok hrest
    rw [happly] at hall hend
    exact ⟨⟨hcurrent, hall⟩, hend⟩

/-! ## The verdict of `transact` -/

theorem targetRevision_ok {migration : Option Nat} {revision target : Nat}
    (h : targetRevision migration revision = .ok target) :
    revision ≤ target ∧ (migration = none → revision < target) ∧
      (migration = none → target = revision + 1) ∧ ∀ m ∈ migration, target = m := by
  cases migration with
  | none =>
    simp only [targetRevision] at h
    split at h
    · cases h
      exact ⟨by omega, fun _ => by omega, fun _ => rfl, by simp⟩
    · cases h
  | some m =>
    simp only [targetRevision] at h
    split at h
    · rename_i hle
      cases h
      exact ⟨hle, by simp, by simp, by simp⟩
    · cases h

/-- What the verdict of a commit says. -/
structure Commits (migration : Option Nat) (document : KvDocument) (request : TransactionRequest)
    (digest : String) (next : KvDocument) : Prop where
  fresh : document.transactions.get? request.idempotencyKey = none
  room : document.transactions.size < maxKvIdempotencyRecords
  target : targetRevision migration document.stateRevision = .ok next.stateRevision
  operations : request.operations.foldlM (applyOperation next.stateRevision) document.entries =
    .ok next.entries
  count : next.entries.size ≤ maxKvEntries
  transactions : next.transactions =
    document.transactions.set request.idempotencyKey ⟨digest, next.stateRevision⟩
  schema : next.schemaVersion = document.schemaVersion

theorem decideTransaction_commit {migration : Option Nat} {document next : KvDocument}
    {request : TransactionRequest} {digest : String}
    (h : decideTransaction migration document request digest = .ok (.commit next)) :
    Commits migration document request digest next := by
  cases hget : document.transactions.get? request.idempotencyKey with
  | some previous =>
    rw [decideTransaction, hget] at h
    dsimp only at h
    rw [ite_error_eq_ok] at h
    exact absurd h.2 (by simp)
  | none =>
    rw [decideTransaction, hget] at h
    dsimp only at h
    rw [ite_error_eq_ok] at h
    obtain ⟨hroom, h⟩ := h
    obtain ⟨target, htarget, h⟩ := bind_eq_ok.1 h
    obtain ⟨entries, hentries, h⟩ := bind_eq_ok.1 h
    rw [ite_error_eq_ok] at h
    obtain ⟨hcount, h⟩ := h
    cases h
    exact ⟨hget, by omega, htarget, hentries, Nat.not_lt.1 hcount, rfl, rfl⟩

theorem decideTransaction_repeated {migration : Option Nat} {document : KvDocument}
    {request : TransactionRequest} {digest : String} {revision : Nat}
    (h : decideTransaction migration document request digest = .ok (.repeated revision)) :
    document.store.receipts request.idempotencyKey = some (digest, revision) := by
  cases hget : document.transactions.get? request.idempotencyKey with
  | some previous =>
    rw [decideTransaction, hget] at h
    dsimp only at h
    rw [ite_error_eq_ok] at h
    obtain ⟨hsame, h⟩ := h
    cases h
    rw [store_receipts, hget, ← Classical.not_not.1 hsame]
    rfl
  | none =>
    rw [decideTransaction, hget] at h
    dsimp only at h
    rw [ite_error_eq_ok] at h
    obtain ⟨-, h⟩ := h
    obtain ⟨target, -, h⟩ := bind_eq_ok.1 h
    obtain ⟨entries, -, h⟩ := bind_eq_ok.1 h
    rw [ite_error_eq_ok] at h
    exact absurd h.2 (by simp)

namespace Commits

variable {sha256 : String → String} {migration : Option Nat} {document next : KvDocument}
  {request : TransactionRequest}

/-- **A commit is a legal step of the store.** -/
theorem legal (h : Commits migration document request (sha256 request.text) next) :
    (request.transaction sha256 next.stateRevision).Legal document.store where
  fresh := by
    change document.store.receipts request.idempotencyKey = none
    rw [store_receipts, h.fresh]
    rfl
  revision_le := (targetRevision_ok h.target).1
  current := (applyOperations_ok h.operations).1

theorem store_eq (h : Commits migration document request (sha256 request.text) next) :
    next.store = (request.transaction sha256 next.stateRevision).commit document.store := by
  refine VersionedStore.ext rfl (applyOperations_ok h.operations).2 ?_
  funext id
  rw [store_receipts, h.transactions]
  by_cases hid : id = request.idempotencyKey
  · rw [hid, Dict.get?_set_self]
    exact ((request.transaction sha256 _).receipts_commit_self document.store).symm
  · rw [Dict.get?_set_ne _ hid]
    exact ((request.transaction sha256 _).receipts_commit_of_ne document.store hid).symm

end Commits

/-! ## Scans -/

/-- The answer of a scan: entries under keys with the prefix, in order of their keys, and the first
ones of these if the limit leaves some out. -/
structure IsScan (store : KvStore) (start : String) (limit : Nat) (answer : List KvEntry) :
    Prop where
  ordered : answer.Pairwise fun a b => a.key < b.key
  sound : ∀ a ∈ answer, start.toList <+: a.key.toList ∧
    store.entries a.key = some ⟨a.value, a.revision⟩
  bounded : answer.length ≤ limit
  complete : ∀ key, start.toList <+: key.toList → store.entries key ≠ none →
    (∃ a ∈ answer, a.key = key) ∨ answer.length = limit ∧ ∀ a ∈ answer, a.key < key

def toKvEntry (p : String × StoredKvEntry) : KvEntry := ⟨p.1, p.2.value, p.2.revision⟩

/-- The entries under keys with the prefix, in order of their keys. -/
def matching (entries : Dict String StoredKvEntry) (start : String) :
    List (String × StoredKvEntry) :=
  (sortByKey (· ≤ ·) entries.entries).filter fun p => start.toList.isPrefixOf p.1.toList

theorem scanRange_eq (entries : Dict String StoredKvEntry) (start : String) (limit : Nat) :
    scanRange entries start limit = ((matching entries start).take limit).map toKvEntry := by
  rw [scanRange, range_eq_filter]
  rfl

theorem mem_matching {entries : Dict String StoredKvEntry} {start key : String}
    {entry : StoredKvEntry} :
    (key, entry) ∈ matching entries start ↔
      start.toList <+: key.toList ∧ entries.get? key = some entry := by
  rw [matching, List.mem_filter, List.isPrefixOf_iff_prefix, (perm_sortByKey _).mem_iff,
    Dict.mem_entries_iff, and_comm]

theorem pairwise_matching (entries : Dict String StoredKvEntry) (start : String) :
    (matching entries start).Pairwise fun p q => p.1 < q.1 := by
  apply List.Pairwise.filter
  have hnodup : (sortByKey (· ≤ ·) entries.entries).Pairwise fun p q => p.1 ≠ q.1 :=
    List.pairwise_map.1 (((perm_sortByKey _).map Prod.fst).nodup_iff.2 entries.nodup)
  exact (pairwise_sortByKey entries.entries).imp₂ (fun p q hle hne => lt_of_le_of_ne hle hne) hnodup

theorem isScan_scanRange (document : KvDocument) (start : String) (limit : Nat) :
    IsScan document.store start limit (scanRange document.entries start limit) := by
  rw [scanRange_eq]
  have hsplit := List.take_append_drop limit (matching document.entries start)
  have hpairwise := pairwise_matching document.entries start
  refine ⟨?_, ?_, ?_, ?_⟩
  · exact List.pairwise_map.2 (hpairwise.sublist (List.take_sublist ..))
  · intro a ha
    obtain ⟨p, hp, rfl⟩ := List.mem_map.1 ha
    obtain ⟨hstarts, hget⟩ := mem_matching.1 (List.mem_of_mem_take hp)
    refine ⟨hstarts, ?_⟩
    change entriesOf document.entries p.1 = _
    rw [entriesOf, hget]
    rfl
  · rw [List.length_map]
    exact List.length_take_le ..
  · intro key hstarts hkey
    obtain ⟨entry, hget⟩ : ∃ entry, document.entries.get? key = some entry := by
      cases hget : document.entries.get? key with
      | some entry => exact ⟨entry, rfl⟩
      | none =>
        refine absurd ?_ hkey
        change entriesOf document.entries key = none
        rw [entriesOf, hget]
        rfl
    have hmem := mem_matching.2 ⟨hstarts, hget⟩
    rw [← hsplit] at hmem hpairwise
    rcases List.mem_append.1 hmem with htake | hdrop
    · exact Or.inl ⟨_, List.mem_map_of_mem htake, rfl⟩
    · refine Or.inr ⟨?_, ?_⟩
      · have hlt : 0 < ((matching document.entries start).drop limit).length :=
          List.length_pos_of_mem hdrop
        rw [List.length_drop] at hlt
        rw [List.length_map, List.length_take]
        omega
      · intro a ha
        obtain ⟨p, hp, rfl⟩ := List.mem_map.1 ha
        exact (List.pairwise_append.1 hpairwise).2.2 p hp _ hdrop

/-! ## Valid documents -/

/-- A digest as `{:x}` writes it. -/
def HexDigests (sha256 : String → String) : Prop := ∀ text, isSha256Hex (sha256 text) = true

theorem entries_all_iff {α : Type} {d : Dict String α} {p : String → α → Bool} :
    (d.entries.all fun q => p q.1 q.2) = true ↔ d.All fun k v => p k v = true := by
  rw [List.all_eq_true]
  constructor
  · intro h k v hv
    exact h (k, v) (Dict.mem_entries_iff.2 hv)
  · intro h q hq
    exact h (Dict.mem_entries_iff.1 hq)

theorem validDocument_iff {document : KvDocument} {minimum : Nat} :
    validDocument document minimum false = true ↔
      document.schemaVersion = kvSchema ∧ 0 < document.stateRevision ∧
      minimum ≤ document.stateRevision ∧ document.entries.size ≤ maxKvEntries ∧
      document.transactions.size ≤ maxKvIdempotencyRecords ∧
      (document.entries.All fun k v => validEntry document.stateRevision k v = true) ∧
      document.transactions.All fun k v => validTransaction document.stateRevision k v = true := by
  simp only [validDocument, Bool.and_eq_true, decide_eq_true_eq, entries_all_iff, and_assoc,
    if_neg (Bool.false_ne_true)]

theorem validEntry_mono {r r' : Nat} (h : r ≤ r') {k : String} {v : StoredKvEntry}
    (hv : validEntry r k v = true) : validEntry r' k v = true := by
  simp only [validEntry, Bool.and_eq_true, decide_eq_true_eq] at hv ⊢
  exact ⟨hv.1, Nat.le_trans hv.2 h⟩

theorem validTransaction_mono {r r' : Nat} (h : r ≤ r') {k : String} {v : StoredKvTransaction}
    (hv : validTransaction r k v = true) : validTransaction r' k v = true := by
  simp only [validTransaction, Bool.and_eq_true, decide_eq_true_eq] at hv ⊢
  exact ⟨hv.1, Nat.le_trans hv.2 h⟩

theorem all_erase {α : Type} {P : String → α → Prop} {d : Dict String α} (h : d.All P)
    (key : String) : (d.erase key).All P := by
  intro k v hv
  by_cases hk : k = key
  · rw [hk, Dict.get?_erase_self] at hv
    exact absurd hv (by simp)
  · rw [Dict.get?_erase_ne _ hk] at hv
    exact h hv

theorem applyOperation_valid {target : Nat} (htarget : 0 < target)
    {entries entries' : Dict String StoredKvEntry} {operation : WriteOperation}
    (h : applyOperation target entries operation = .ok entries')
    (hvalid : entries.All fun k v => validEntry target k v = true) :
    entries'.All fun k v => validEntry target k v = true := by
  cases operation with
  | put operation =>
    rw [applyOperation, ite_error_eq_ok, ite_error_eq_ok] at h
    obtain ⟨hbound, -, hset⟩ := h
    cases hset
    apply hvalid.set
    simp only [not_or, Nat.not_lt] at hbound
    simp [validEntry, hbound, htarget]
  | delete operation =>
    rw [applyOperation, ite_error_eq_ok, ite_error_eq_ok] at h
    obtain ⟨-, -, herase⟩ := h
    cases herase
    exact all_erase hvalid _

theorem applyOperations_valid {target : Nat} (htarget : 0 < target) :
    ∀ {operations : List WriteOperation} {entries entries' : Dict String StoredKvEntry},
      operations.foldlM (applyOperation target) entries = .ok entries' →
      (entries.All fun k v => validEntry target k v = true) →
      entries'.All fun k v => validEntry target k v = true
  | [], entries, entries', h, hvalid => by
    cases pure_eq_ok.1 h
    exact hvalid
  | operation :: operations, entries, entries', h, hvalid => by
    rw [List.foldlM_cons] at h
    obtain ⟨m, hm, hrest⟩ := bind_eq_ok.1 h
    exact applyOperations_valid htarget hrest (applyOperation_valid htarget hm hvalid)

/-- **Soundness is kept.** The next document is one that every broker can read whose minimum the
old document reached. -/
theorem Commits.valid {sha256 : String → String} (hhex : HexDigests sha256)
    {migration : Option Nat} {document next : KvDocument} {request : TransactionRequest}
    (h : Commits migration document request (sha256 request.text) next)
    (hrequest : request.outside = false) {minimum : Nat}
    (hvalid : validDocument document minimum false = true) :
    validDocument next minimum false = true := by
  rw [validDocument_iff] at hvalid ⊢
  obtain ⟨hschema, hpos, hmin, -, -, hentries, htransactions⟩ := hvalid
  have hle := (targetRevision_ok h.target).1
  have hpos' : 0 < next.stateRevision := Nat.lt_of_lt_of_le hpos hle
  refine ⟨h.schema.trans hschema, hpos', Nat.le_trans hmin hle, h.count, ?_, ?_, ?_⟩
  · rw [h.transactions, Dict.size_set]
    have := h.room
    split <;> omega
  · exact applyOperations_valid hpos' h.operations (hentries.mono fun k v => validEntry_mono hle)
  · rw [h.transactions]
    apply (htransactions.mono fun k v => validTransaction_mono hle).set
    simp only [TransactionRequest.outside, Bool.or_eq_false_iff, decide_eq_false_iff_not] at hrequest
    simp [validTransaction, hrequest, hhex request.text, hpos']

end Vibapp.ServiceRuntime
