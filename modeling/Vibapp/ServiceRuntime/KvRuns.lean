import Vibapp.ServiceRuntime.KvStore

/-!
# Calls of several brokers on one document

Any number of brokers call on one file, each call a whole locked section. **Main result**
(`serialisable`): the transactions that reach the file are a serial run of the versioned store that
the document is, in the order of their renames, and each call answers as that store does at its
turn. What a broker has cached decides nothing, since every call reads the file again.
-/

namespace Vibapp.ServiceRuntime

/-! ## Runs -/

/-- A call of a guest. -/
inductive KvCall
  | get (key : String)
  | scanPrefix (start : String) (limit : Nat)
  | transact (request : TransactionRequest)

/-- The answer to it. -/
inductive KvReply
  | got (result : Except HostError (Option KvEntry))
  | scanned (result : Except HostError (List KvEntry))
  | transacted (result : Except HostError TransactionResult)

/-- One locked section: who calls, how the operating system answers, and the call. -/
structure KvInput (ι : Type) where
  broker : ι
  io : Io
  call : KvCall

/-- The file and the brokers. -/
structure KvWorld (ι : Type) where
  file : KvFile
  states : ι → RuntimeState

/-- What a call returns and leaves, and the file it has renamed into place. -/
structure Performed where
  reply : KvReply
  state : RuntimeState
  written : Option KvFile

def perform (sha256 : String → String) (state : RuntimeState) (file : KvFile) (io : Io) :
    KvCall → Performed
  | .get key =>
    let (result, state) := get state io file key
    ⟨.got result, state, none⟩
  | .scanPrefix start limit =>
    let (result, state) := scanPrefix state io file start limit
    ⟨.scanned result, state, none⟩
  | .transact request =>
    let transacted := transact sha256 state io file request
    ⟨.transacted transacted.result, transacted.state, transacted.written⟩

namespace KvWorld

variable {ι : Type} (sha256 : String → String)

def performed (w : KvWorld ι) (x : KvInput ι) : Performed :=
  perform sha256 (w.states x.broker) w.file x.io x.call

/-- The request that the call commits, and the revision it commits as. -/
def committed (w : KvWorld ι) (x : KvInput ι) : Option (TransactionRequest × Nat) :=
  match x.call with
  | .transact request =>
    (w.performed sha256 x).written.map fun file => (request, file.document.stateRevision)
  | _ => none

def store (w : KvWorld ι) : KvStore := w.file.document.store

variable [DecidableEq ι]

def next (w : KvWorld ι) (x : KvInput ι) : KvWorld ι where
  file := (w.performed sha256 x).written.getD w.file
  states := Function.update w.states x.broker (w.performed sha256 x).state

def run (w : KvWorld ι) (xs : List (KvInput ι)) : KvWorld ι := xs.foldl (next sha256) w

/-- The commits of a run, in the order of their renames. -/
def commits (w : KvWorld ι) : List (KvInput ι) → List (TransactionRequest × Nat)
  | [] => []
  | x :: xs => (w.committed sha256 x).toList ++ (w.next sha256 x).commits xs

end KvWorld

/-- The transactions of commits. -/
def transactions (sha256 : String → String) (commits : List (TransactionRequest × Nat)) :
    List (Transaction String (List UInt8) String String) :=
  commits.map fun c => c.1.transaction sha256 c.2

/-! ## One call -/

/-- The broker may use the file, the operating system lets it, and the file is within its bound. -/
structure Ready (kv : KvBroker) (io : Io) (file : KvFile) : Prop where
  enabled : kv.enabled = true
  lock : io.lock = .ok ()
  inspect : io.inspect = .ok ()
  read : io.read = .ok ()
  fits : file.length ≤ kv.maximumBytes

/-- Beside that the document is valid for the broker. -/
structure Reads (kv : KvBroker) (io : Io) (file : KvFile) : Prop extends Ready kv io file where
  nonempty : file.length ≠ 0
  valid : validDocument file.document kv.minimumStateRevision false = true

namespace Reads

variable {kv : KvBroker} {io : Io} {file : KvFile}

theorem readDocument (h : Reads kv io file) : kv.readDocument io file = .ok file.document := by
  have hbound : ¬ (file.length = 0 ∨ kv.maximumBytes < file.length) := by
    have := h.nonempty
    have := h.fits
    omega
  rw [KvBroker.readDocument, h.inspect]
  dsimp only
  rw [if_neg hbound, h.read]
  dsimp only
  rw [if_pos h.valid]

end Reads

/-- What is read is what lies in the file. -/
theorem readDocument_eq_ok {kv : KvBroker} {io : Io} {file : KvFile} {document : KvDocument}
    (h : kv.readDocument io file = .ok document) :
    document = file.document ∧ validDocument file.document kv.minimumStateRevision false = true := by
  rw [KvBroker.readDocument] at h
  split at h
  · cases h
  · rw [ite_error_eq_ok] at h
    obtain ⟨-, h⟩ := h
    split at h
    · cases h
    · split at h
      · cases h
        exact ⟨rfl, ‹_›⟩
      · cases h

theorem refresh_eq_ok {kv kv' : KvBroker} {io : Io} {file : KvFile} (henabled : kv.enabled = true)
    (h : kv.refresh io file = .ok kv') : kv' = { kv with document := file.document } := by
  rw [KvBroker.refresh, if_neg (by simp [henabled])] at h
  split at h
  · cases h
  · split at h
    · cases h
    · rename_i document hread
      cases h
      rw [(readDocument_eq_ok hread).1]

/-- Writing fails before the rename, or after it, or not at all. -/
theorem persist_cases (kv : KvBroker) (io : Io) :
    (kv.persist io).broker.minimumStateRevision = kv.minimumStateRevision ∧
      ((∃ e, (kv.persist io).result = .error e ∧ (kv.persist io).written = none) ∨
      (∃ e, io.persist = .unsynced e ∧ (kv.persist io).result = .error e ∧
        (kv.persist io).written = some ⟨kv.document, kv.document.fileLength⟩) ∨
      (kv.persist io).result = .ok () ∧
        (kv.persist io).written = some ⟨kv.document, kv.document.fileLength⟩) := by
  rw [KvBroker.persist]
  dsimp only
  by_cases hbound : kv.maximumBytes < kv.document.fileLength
  · rw [if_pos hbound]
    exact ⟨rfl, Or.inl ⟨_, rfl, rfl⟩⟩
  · rw [if_neg hbound]
    cases io.persist with
    | failed e => exact ⟨rfl, Or.inl ⟨e, rfl, rfl⟩⟩
    | unsynced e => exact ⟨rfl, Or.inr (Or.inl ⟨e, rfl, rfl, rfl⟩)⟩
    | done => exact ⟨rfl, Or.inr (Or.inr ⟨rfl, rfl⟩)⟩

/-- What one `transact` can do. -/
inductive TransactSpec (sha256 : String → String) (state : RuntimeState) (io : Io) (file : KvFile)
    (request : TransactionRequest) : Transacted → Prop
  | refused (e : HostError) (state' : RuntimeState)
      (minimum : state'.kv.minimumStateRevision = state.kv.minimumStateRevision) :
      TransactSpec sha256 state io file request ⟨.error e, state', none⟩
  | repeated (revision : Nat) (state' : RuntimeState)
      (minimum : state'.kv.minimumStateRevision = state.kv.minimumStateRevision)
      (receipt : file.document.store.receipts request.idempotencyKey =
        some (sha256 request.text, revision)) :
      TransactSpec sha256 state io file request ⟨.ok ⟨revision, true⟩, state', none⟩
  | committed (next : KvDocument) (state' : RuntimeState)
      (outside : request.outside = false)
      (commits : Commits state.kv.migrationTargetRevision file.document request
        (sha256 request.text) next)
      (minimum : state'.kv.minimumStateRevision = next.stateRevision) :
      TransactSpec sha256 state io file request
        ⟨.ok ⟨next.stateRevision, false⟩, state', some ⟨next, next.fileLength⟩⟩
  /-- The rename is done and the directory's `sync_all` fails. -/
  | unsynced (e : String) (next : KvDocument) (state' : RuntimeState)
      (outside : request.outside = false) (persist : io.persist = .unsynced e)
      (commits : Commits state.kv.migrationTargetRevision file.document request
        (sha256 request.text) next)
      (minimum : state'.kv.minimumStateRevision = state.kv.minimumStateRevision) :
      TransactSpec sha256 state io file request
        ⟨.error (hostError .internal e true), state', some ⟨next, next.fileLength⟩⟩

theorem transactLocked_spec {sha256 : String → String} (state state₀ : RuntimeState) (io : Io)
    (file : KvFile) {request : TransactionRequest} (houtside : request.outside = false)
    (hkv : state.kv = state₀.kv) :
    TransactSpec sha256 state₀ io file request
      (transactLocked state io file request (sha256 request.text)) := by
  rw [transactLocked]
  cases hread : state.kv.readDocument io file with
  | error e => exact .refused _ _ (by rw [hkv])
  | ok document =>
    obtain ⟨rfl, -⟩ := readDocument_eq_ok hread
    dsimp only
    cases hdecide : decideTransaction state.kv.migrationTargetRevision file.document request
        (sha256 request.text) with
    | error e => exact .refused _ _ (by rw [hkv])
    | ok verdict =>
      cases verdict with
      | repeated revision =>
        exact .repeated _ _ (by rw [hkv]) (decideTransaction_repeated hdecide)
      | commit next =>
        have hcommits := decideTransaction_commit hdecide
        rw [hkv] at hcommits
        dsimp only
        generalize hbroker : { state.kv with document := next } = broker
        have hminimum : broker.minimumStateRevision = state₀.kv.minimumStateRevision := by
          rw [← hbroker, ← hkv]
        have hdocument : broker.document = next := by rw [← hbroker]
        obtain ⟨hkeep, ⟨e, hresult, hwritten⟩ | ⟨e, hpersist, hresult, hwritten⟩ |
          ⟨hresult, hwritten⟩⟩ := persist_cases broker io
        · rw [hresult, hwritten]
          exact .refused _ _ (hkeep.trans hminimum)
        · rw [hresult, hwritten, hdocument]
          exact .unsynced e next _ houtside hpersist hcommits (hkeep.trans hminimum)
        · rw [hresult, hwritten, hdocument]
          exact .committed next _ houtside hcommits rfl

/-- **Every `transact` does one of these.** -/
theorem transact_spec (sha256 : String → String) (state : RuntimeState) (io : Io) (file : KvFile)
    (request : TransactionRequest) :
    TransactSpec sha256 state io file request (transact sha256 state io file request) := by
  rw [transact]
  dsimp only
  split
  · exact .refused _ _ rfl
  · split
    · exact .refused _ _ rfl
    · rename_i houtside
      cases hlock : io.lock with
      | error e => exact .refused _ _ rfl
      | ok _ => exact transactLocked_spec _ _ io file (eq_false_of_ne_true houtside) rfl

/-- A request that has a receipt. -/
theorem transact_of_receipt {sha256 : String → String} {state : RuntimeState} {io : Io}
    {file : KvFile} {request : TransactionRequest} {digest : String} {revision : Nat}
    (hreads : Reads state.kv io file) (houtside : request.outside = false)
    (hreceipt : file.document.store.receipts request.idempotencyKey = some (digest, revision)) :
    (transact sha256 state io file request).result =
      if digest = sha256 request.text then .ok ⟨revision, true⟩
      else .error (hostError .conflict
        "KV idempotency key was reused with another transaction" false) := by
  rw [store_receipts, Option.map_eq_some_iff] at hreceipt
  obtain ⟨previous, hget, hprevious⟩ := hreceipt
  cases hprevious
  rw [transact]
  dsimp only
  rw [if_neg (by simp [hreads.enabled]), if_neg (by simp [houtside]), hreads.lock]
  dsimp only
  rw [transactLocked, hreads.readDocument]
  dsimp only
  rw [decideTransaction, hget]
  dsimp only
  split
  · rename_i hdecide
    split at hdecide
    · rw [if_neg ‹_›]
      cases hdecide
      rfl
    · cases hdecide
  · rename_i hdecide
    split at hdecide
    · cases hdecide
    · rw [if_pos (Classical.not_not.1 ‹_›)]
      cases hdecide
      rfl
  · rename_i hdecide
    split at hdecide
    · cases hdecide
    · cases hdecide

/-! ## One step -/

theorem get_minimum (state : RuntimeState) (io : Io) (file : KvFile) (key : String) :
    (get state io file key).2.kv.minimumStateRevision = state.kv.minimumStateRevision := by
  rw [get]
  split
  · rfl
  · rename_i henabled
    split
    · rfl
    · split
      · rfl
      · rename_i kv hrefresh
        rw [refresh_eq_ok (eq_true_of_ne_false henabled) hrefresh]

theorem scanPrefix_minimum (state : RuntimeState) (io : Io) (file : KvFile) (start : String)
    (limit : Nat) :
    (scanPrefix state io file start limit).2.kv.minimumStateRevision =
      state.kv.minimumStateRevision := by
  rw [scanPrefix]
  split
  · rfl
  · rename_i henabled
    split
    · rfl
    · split
      · rfl
      · rename_i kv hrefresh
        rw [refresh_eq_ok (eq_true_of_ne_false henabled) hrefresh]

namespace KvWorld

variable {ι : Type} {sha256 : String → String}

/-- **What a call does to the file.** -/
theorem performed_cases (w : KvWorld ι) (x : KvInput ι) :
    ((w.performed sha256 x).written = none ∧
      (w.performed sha256 x).state.kv.minimumStateRevision =
        (w.states x.broker).kv.minimumStateRevision) ∨
    ∃ request next, x.call = .transact request ∧ request.outside = false ∧
      Commits (w.states x.broker).kv.migrationTargetRevision w.file.document request
        (sha256 request.text) next ∧
      (w.performed sha256 x).written = some ⟨next, next.fileLength⟩ ∧
      ((w.performed sha256 x).state.kv.minimumStateRevision = next.stateRevision ∨
        (w.performed sha256 x).state.kv.minimumStateRevision =
          (w.states x.broker).kv.minimumStateRevision) := by
  rw [performed]
  cases x.call with
  | get key => exact Or.inl ⟨rfl, get_minimum ..⟩
  | scanPrefix start limit => exact Or.inl ⟨rfl, scanPrefix_minimum ..⟩
  | transact request =>
    have hspec := transact_spec sha256 (w.states x.broker) x.io w.file request
    rw [perform]
    dsimp only
    generalize transact sha256 (w.states x.broker) x.io w.file request = transacted at hspec
    cases hspec with
    | refused e state' minimum => exact Or.inl ⟨rfl, minimum⟩
    | repeated revision state' minimum receipt => exact Or.inl ⟨rfl, minimum⟩
    | committed next state' outside commits minimum =>
      exact Or.inr ⟨request, next, rfl, outside, commits, rfl, Or.inl minimum⟩
    | unsynced e next state' outside persist commits minimum =>
      exact Or.inr ⟨request, next, rfl, outside, commits, rfl, Or.inr minimum⟩

theorem committed_of_written_none {w : KvWorld ι} {x : KvInput ι}
    (h : (w.performed sha256 x).written = none) : w.committed sha256 x = none := by
  rw [committed, h]
  cases x.call <;> rfl

theorem committed_of_written {w : KvWorld ι} {x : KvInput ι} {request : TransactionRequest}
    {file : KvFile} (hcall : x.call = .transact request)
    (h : (w.performed sha256 x).written = some file) :
    w.committed sha256 x = some (request, file.document.stateRevision) := by
  rw [committed, h, hcall]
  rfl

/-- Every broker can read the document. -/
structure Sound (w : KvWorld ι) : Prop where
  nonempty : w.file.length ≠ 0
  valid : validDocument w.file.document 0 false = true
  minimum : ∀ i, (w.states i).kv.minimumStateRevision ≤ w.file.document.stateRevision

theorem Sound.reads {w : KvWorld ι} (hw : w.Sound) {i : ι} {io : Io}
    (h : Ready (w.states i).kv io w.file) : Reads (w.states i).kv io w.file := by
  refine { h with nonempty := hw.nonempty, valid := ?_ }
  have hvalid := hw.valid
  rw [validDocument_iff] at hvalid ⊢
  exact ⟨hvalid.1, hvalid.2.1, hw.minimum i, hvalid.2.2.2⟩

variable [DecidableEq ι]

theorem states_next_self (w : KvWorld ι) (x : KvInput ι) :
    (w.next sha256 x).states x.broker = (w.performed sha256 x).state :=
  Function.update_self ..

theorem states_next_of_ne (w : KvWorld ι) {x : KvInput ι} {i : ι} (h : i ≠ x.broker) :
    (w.next sha256 x).states i = w.states i :=
  Function.update_of_ne h ..

/-- A commit is the legal commit of the request. -/
theorem committed_spec {w : KvWorld ι} {x : KvInput ι} {request : TransactionRequest}
    {revision : Nat} (h : w.committed sha256 x = some (request, revision)) :
    ∃ next, x.call = .transact request ∧ request.outside = false ∧
      revision = next.stateRevision ∧ (w.next sha256 x).file = ⟨next, next.fileLength⟩ ∧
      Commits (w.states x.broker).kv.migrationTargetRevision w.file.document request
        (sha256 request.text) next := by
  rcases w.performed_cases x with ⟨hnone, -⟩ | ⟨r, next, hcall, houtside, hcommits, hwritten, -⟩
  · rw [committed_of_written_none hnone] at h
    cases h
  · rw [committed_of_written hcall hwritten] at h
    cases h
    refine ⟨next, hcall, houtside, rfl, ?_, hcommits⟩
    rw [KvWorld.next, hwritten]
    rfl

theorem file_next_of_committed_none {w : KvWorld ι} {x : KvInput ι}
    (h : w.committed sha256 x = none) : (w.next sha256 x).file = w.file := by
  rcases w.performed_cases x with ⟨hnone, -⟩ | ⟨r, next, hcall, -, -, hwritten, -⟩
  · rw [KvWorld.next, hnone]
    rfl
  · rw [committed_of_written hcall hwritten] at h
    cases h

theorem Sound.next (hhex : HexDigests sha256) {w : KvWorld ι} (hw : w.Sound) (x : KvInput ι) :
    (w.next sha256 x).Sound := by
  rcases w.performed_cases x with ⟨hnone, hmin⟩ |
    ⟨request, next, -, houtside, hcommits, hwritten, hmin⟩
  · have hfile : (w.next sha256 x).file = w.file := by
      rw [KvWorld.next, hnone]
      rfl
    refine ⟨by rw [hfile]; exact hw.nonempty, by rw [hfile]; exact hw.valid, ?_⟩
    intro i
    rw [hfile]
    by_cases hi : i = x.broker
    · rw [hi, states_next_self, hmin]
      exact hw.minimum _
    · rw [states_next_of_ne w hi]
      exact hw.minimum i
  · have hfile : (w.next sha256 x).file = ⟨next, next.fileLength⟩ := by
      rw [KvWorld.next, hwritten]
      rfl
    have hle := (targetRevision_ok hcommits.target).1
    refine ⟨by rw [hfile]; exact Nat.succ_ne_zero _, ?_, ?_⟩
    · rw [hfile]
      exact hcommits.valid hhex houtside hw.valid
    · intro i
      rw [hfile]
      by_cases hi : i = x.broker
      · rw [hi, states_next_self]
        rcases hmin with hmin | hmin
        · exact Nat.le_of_eq hmin
        · rw [hmin]
          exact Nat.le_trans (hw.minimum _) hle
      · rw [states_next_of_ne w hi]
        exact Nat.le_trans (hw.minimum i) hle

/-- **One step of the store.** -/
theorem serial_next (w : KvWorld ι) (x : KvInput ι) :
    Serial w.store (transactions sha256 (w.committed sha256 x).toList)
      (w.next sha256 x).store := by
  cases hc : w.committed sha256 x with
  | none =>
    rw [store, store, file_next_of_committed_none hc]
    exact Serial.nil _
  | some c =>
    obtain ⟨next, -, -, hrevision, hfile, hcommits⟩ := committed_spec hc
    rw [store, store, hfile, hcommits.store_eq, Option.toList_some, transactions, List.map_singleton,
      hrevision]
    exact Serial.single hcommits.legal

/-! ## Whole runs -/

theorem Sound.run (hhex : HexDigests sha256) {w : KvWorld ι} (hw : w.Sound)
    (xs : List (KvInput ι)) : (w.run sha256 xs).Sound := by
  induction xs generalizing w with
  | nil => exact hw
  | cons x xs ih => exact ih (hw.next hhex x)

theorem serial_run (w : KvWorld ι) (xs : List (KvInput ι)) :
    Serial w.store (transactions sha256 (w.commits sha256 xs)) (w.run sha256 xs).store := by
  induction xs generalizing w with
  | nil => exact Serial.nil _
  | cons x xs ih =>
    rw [commits, transactions, List.map_append]
    exact Serial.append (serial_next w x) (ih (w.next sha256 x))

end KvWorld

/-- The requests of the calls. -/
def requests {ι : Type} (xs : List (KvInput ι)) : List TransactionRequest :=
  xs.filterMap fun x =>
    match x.call with
    | .transact request => some request
    | _ => none

theorem mem_requests {ι : Type} {xs : List (KvInput ι)} {x : KvInput ι}
    {request : TransactionRequest} (hx : x ∈ xs) (hcall : x.call = .transact request) :
    request ∈ requests xs := by
  apply List.mem_filterMap.2
  refine ⟨x, hx, ?_⟩
  rw [hcall]

theorem mem_requests_of_mem_commits {ι : Type} [DecidableEq ι] {sha256 : String → String}
    {w : KvWorld ι} {xs : List (KvInput ι)} {c : TransactionRequest × Nat}
    (hc : c ∈ w.commits sha256 xs) : c.1 ∈ requests xs := by
  induction xs generalizing w with
  | nil => exact absurd hc List.not_mem_nil
  | cons x xs ih =>
    rcases List.mem_append.1 hc with hhead | htail
    · obtain ⟨next, hcall, -⟩ := KvWorld.committed_spec (Option.mem_toList.1 hhead)
      exact mem_requests List.mem_cons_self hcall
    · obtain ⟨y, hy, hcall⟩ := List.mem_filterMap.1 (ih htail)
      exact List.mem_filterMap.2 ⟨y, List.mem_cons_of_mem _ hy, hcall⟩

/-- No two texts of the requests have one digest. -/
def CollisionFree (sha256 : String → String) (rs : List TransactionRequest) : Prop :=
  ∀ r ∈ rs, ∀ s ∈ rs, sha256 r.text = sha256 s.text → r.text = s.text

/-- The answer to a request whose key has been used. -/
def repeatReply (same : Prop) [Decidable same] (revision : Nat) :
    Except HostError TransactionResult :=
  if same then .ok ⟨revision, true⟩
  else .error (hostError .conflict "KV idempotency key was reused with another transaction" false)

/-- What one call of a run does, where `past` are the commits before it. -/
structure CallSpec {ι : Type} [DecidableEq ι] (sha256 : String → String)
    (past : List (TransactionRequest × Nat)) (w : KvWorld ι) (x : KvInput ι) : Prop where
  /-- Without a commit the file stays as it is. -/
  unchanged : w.committed sha256 x = none → (w.next sha256 x).file = w.file
  /-- Outside a migration a commit raises the revision. -/
  revision : (w.states x.broker).kv.migrationTargetRevision = none →
    w.committed sha256 x ≠ none → w.store.revision < (w.next sha256 x).store.revision
  /-- A write that does not find the revision it expects lets nothing commit. -/
  stale : ∀ request, x.call = .transact request →
    (∀ target,
      targetRevision (w.states x.broker).kv.migrationTargetRevision w.store.revision = .ok target →
      ¬ VersionedWrite.AllCurrent target (request.operations.map WriteOperation.write)
        w.store.entries) → w.committed sha256 x = none
  /-- A key that has a receipt commits nothing. -/
  used : ∀ request, x.call = .transact request →
    w.store.receipts request.idempotencyKey ≠ none → w.committed sha256 x = none
  /-- A repeated request is answered as the first was, another one under the key by a conflict. -/
  repeated : ∀ request, x.call = .transact request → request.outside = false →
    Ready (w.states x.broker).kv x.io w.file →
    ∀ c ∈ past, c.1.idempotencyKey = request.idempotencyKey → (w.performed sha256 x).reply =
      .transacted (repeatReply (c.1.operations = request.operations) c.2)
  /-- The same for receipts of whatever age. -/
  receipt : ∀ request digest revision, x.call = .transact request → request.outside = false →
    Ready (w.states x.broker).kv x.io w.file →
    w.store.receipts request.idempotencyKey = some (digest, revision) →
    (w.performed sha256 x).reply =
      .transacted (repeatReply (digest = sha256 request.text) revision)
  /-- A success that is no repetition has committed, and one that is has a receipt. -/
  answered : ∀ request result, x.call = .transact request →
    (w.performed sha256 x).reply = .transacted (.ok result) →
    if result.deduplicated then
      w.store.receipts request.idempotencyKey = some (sha256 request.text, result.stateRevision)
    else w.committed sha256 x = some (request, result.stateRevision)
  got : ∀ key result, x.call = .get key → (w.performed sha256 x).reply = .got (.ok result) →
    result = (w.store.entries key).map fun entry => ⟨key, entry.value, entry.revision⟩
  scanned : ∀ start limit answer, x.call = .scanPrefix start limit →
    (w.performed sha256 x).reply = .scanned (.ok answer) → IsScan w.store start limit answer

namespace KvWorld

variable {ι : Type} {sha256 : String → String}

theorem got_spec {w : KvWorld ι} {x : KvInput ι} {key : String} {result : Option KvEntry}
    (hcall : x.call = .get key) (h : (w.performed sha256 x).reply = .got (.ok result)) :
    result = (w.store.entries key).map fun entry => ⟨key, entry.value, entry.revision⟩ := by
  have hstore : w.store.entries key = (w.file.document.entries.get? key).map
      StoredKvEntry.versioned := rfl
  rw [performed, hcall] at h
  have hget : (get (w.states x.broker) x.io w.file key).1 = .ok result := KvReply.got.inj h
  rw [get] at hget
  split at hget
  · cases hget
  · rename_i henabled
    split at hget
    · cases hget
    · split at hget
      · cases hget
      · rename_i kv hrefresh
        rw [refresh_eq_ok (eq_true_of_ne_false henabled) hrefresh] at hget
        rw [← Except.ok.inj hget, hstore, Option.map_map]
        rfl

theorem scanned_spec {w : KvWorld ι} {x : KvInput ι} {start : String} {limit : Nat}
    {answer : List KvEntry} (hcall : x.call = .scanPrefix start limit)
    (h : (w.performed sha256 x).reply = .scanned (.ok answer)) :
    IsScan w.store start limit answer := by
  rw [performed, hcall] at h
  have hscan : (scanPrefix (w.states x.broker) x.io w.file start limit).1 = .ok answer :=
    KvReply.scanned.inj h
  rw [scanPrefix] at hscan
  split at hscan
  · cases hscan
  · rename_i henabled
    split at hscan
    · cases hscan
    · split at hscan
      · cases hscan
      · rename_i kv hrefresh
        rw [refresh_eq_ok (eq_true_of_ne_false henabled) hrefresh] at hscan
        rw [← Except.ok.inj hscan]
        exact isScan_scanRange ..

theorem answered_spec {w : KvWorld ι} {x : KvInput ι} {request : TransactionRequest}
    {result : TransactionResult} (hcall : x.call = .transact request)
    (h : (w.performed sha256 x).reply = .transacted (.ok result)) :
    if result.deduplicated then
      w.store.receipts request.idempotencyKey = some (sha256 request.text, result.stateRevision)
    else w.committed sha256 x = some (request, result.stateRevision) := by
  have hspec := transact_spec sha256 (w.states x.broker) x.io w.file request
  have hperformed : w.performed sha256 x = perform sha256 (w.states x.broker) w.file x.io
      (.transact request) := by rw [performed, hcall]
  rw [hperformed] at h
  have hresult := KvReply.transacted.inj h
  rw [committed, hperformed, hcall, perform]
  dsimp only at hresult ⊢
  generalize transact sha256 (w.states x.broker) x.io w.file request = transacted at hspec hresult
  cases hspec with
  | refused e state' minimum => cases hresult
  | repeated revision state' minimum receipt =>
    cases hresult
    exact receipt
  | committed next state' outside commits minimum =>
    cases hresult
    rfl
  | unsynced e next state' outside persist commits minimum => cases hresult

theorem Sound.receipt_spec {w : KvWorld ι} (hw : w.Sound) {x : KvInput ι}
    {request : TransactionRequest} {digest : String} {revision : Nat}
    (hcall : x.call = .transact request) (houtside : request.outside = false)
    (hready : Ready (w.states x.broker).kv x.io w.file)
    (hreceipt : w.store.receipts request.idempotencyKey = some (digest, revision)) :
    (w.performed sha256 x).reply =
      .transacted (repeatReply (digest = sha256 request.text) revision) := by
  rw [performed, hcall, perform]
  exact congrArg KvReply.transacted (transact_of_receipt (hw.reads hready) houtside hreceipt)

variable [DecidableEq ι]

theorem revision_spec {w : KvWorld ι} {x : KvInput ι}
    (hmigration : (w.states x.broker).kv.migrationTargetRevision = none)
    (h : w.committed sha256 x ≠ none) : w.store.revision < (w.next sha256 x).store.revision := by
  obtain ⟨c, hc⟩ := Option.ne_none_iff_exists'.1 h
  obtain ⟨next, -, -, -, hfile, hcommits⟩ := committed_spec hc
  rw [store, store, hfile]
  exact (targetRevision_ok hcommits.target).2.1 hmigration

theorem stale_spec {w : KvWorld ι} {x : KvInput ι} {request : TransactionRequest}
    (hcall : x.call = .transact request)
    (hstale : ∀ target,
      targetRevision (w.states x.broker).kv.migrationTargetRevision w.store.revision = .ok target →
      ¬ VersionedWrite.AllCurrent target (request.operations.map WriteOperation.write)
        w.store.entries) : w.committed sha256 x = none := by
  by_contra h
  obtain ⟨c, hc⟩ := Option.ne_none_iff_exists'.1 h
  obtain ⟨next, hcall', -, -, -, hcommits⟩ := committed_spec hc
  rw [hcall] at hcall'
  cases hcall'
  exact hstale _ hcommits.target hcommits.legal.current

theorem used_spec {w : KvWorld ι} {x : KvInput ι} {request : TransactionRequest}
    (hcall : x.call = .transact request)
    (hused : w.store.receipts request.idempotencyKey ≠ none) : w.committed sha256 x = none := by
  by_contra h
  obtain ⟨c, hc⟩ := Option.ne_none_iff_exists'.1 h
  obtain ⟨next, hcall', -, -, -, hcommits⟩ := committed_spec hc
  rw [hcall] at hcall'
  cases hcall'
  exact hused hcommits.legal.fresh

/-- A request under the key of an earlier commit. -/
theorem repeated_spec {w : KvWorld ι} {past : List (KvInput ι)} {x : KvInput ι}
    (hx : (w.run sha256 past).Sound) (hfree : CollisionFree sha256 (requests (past ++ [x])))
    {request : TransactionRequest} (hcall : x.call = .transact request)
    (houtside : request.outside = false)
    (hready : Ready ((w.run sha256 past).states x.broker).kv x.io (w.run sha256 past).file)
    {c : TransactionRequest × Nat} (hc : c ∈ w.commits sha256 past)
    (hkey : c.1.idempotencyKey = request.idempotencyKey) :
    ((w.run sha256 past).performed sha256 x).reply =
      .transacted (repeatReply (c.1.operations = request.operations) c.2) := by
  have hreceipt : (w.run sha256 past).store.receipts request.idempotencyKey =
      some (sha256 c.1.text, c.2) := by
    rw [← hkey]
    exact (serial_run w past).receipt (List.mem_map_of_mem hc)
  rw [hx.receipt_spec hcall houtside hready hreceipt]
  have hmem : c.1 ∈ requests (past ++ [x]) := by
    obtain ⟨y, hy, hcall⟩ := List.mem_filterMap.1 (mem_requests_of_mem_commits hc)
    exact List.mem_filterMap.2 ⟨y, List.mem_append_left _ hy, hcall⟩
  have hmem' : request ∈ requests (past ++ [x]) :=
    mem_requests (List.mem_append_right _ (List.mem_singleton_self x)) hcall
  have hsame : sha256 c.1.text = sha256 request.text ↔ c.1.operations = request.operations := by
    constructor
    · intro h
      rw [TransactionRequest.text_inj (hfree _ hmem _ hmem' h)]
    · intro h
      have heq : c.1 = request := by
        obtain ⟨⟨os, k⟩, rev⟩ := c
        obtain ⟨ps, l⟩ := request
        cases h
        cases hkey
        rfl
      rw [heq]
  rw [repeatReply, repeatReply]
  by_cases h : c.1.operations = request.operations
  · rw [if_pos h, if_pos (hsame.2 h)]
  · rw [if_neg h, if_neg (fun heq => h (hsame.1 heq))]

end KvWorld

/-- **Serialisability.** In every run of calls on one document, what commits is a serial run of the
store in the order of the commits, no idempotency key commits twice, and every call does what
`CallSpec` says of the store that the commits before it have left. -/
theorem serialisable {ι : Type} [DecidableEq ι] {sha256 : String → String}
    (hhex : HexDigests sha256) {w : KvWorld ι} (hw : w.Sound) (xs : List (KvInput ι))
    (hfree : CollisionFree sha256 (requests xs)) :
    Serial w.store (transactions sha256 (w.commits sha256 xs)) (w.run sha256 xs).store ∧
    ((w.commits sha256 xs).map fun c => c.1.idempotencyKey).Nodup ∧
    ∀ before x after, xs = before ++ x :: after →
      CallSpec sha256 (w.commits sha256 before) (w.run sha256 before) x := by
  have hserial : Serial w.store (transactions sha256 (w.commits sha256 xs))
      (w.run sha256 xs).store := KvWorld.serial_run w xs
  refine ⟨hserial, ?_, ?_⟩
  · have hnodup := hserial.nodup_ids
    rwa [transactions, List.map_map] at hnodup
  · rintro before x after rfl
    have hsound := hw.run hhex before
    have hfree' : CollisionFree sha256 (requests (before ++ [x])) := by
      have hsub : ∀ r ∈ requests (before ++ [x]), r ∈ requests (before ++ x :: after) := by
        intro r hr
        obtain ⟨y, hy, hcall⟩ := List.mem_filterMap.1 hr
        refine List.mem_filterMap.2 ⟨y, ?_, hcall⟩
        rw [List.append_cons]
        exact List.mem_append_left _ hy
      exact fun r hr s hs => hfree r (hsub r hr) s (hsub s hs)
    exact {
      unchanged := KvWorld.file_next_of_committed_none
      revision := KvWorld.revision_spec
      stale := fun request => KvWorld.stale_spec
      used := fun request => KvWorld.used_spec
      repeated := fun request hcall houtside hready c hc hkey =>
        KvWorld.repeated_spec hsound hfree' hcall houtside hready hc hkey
      receipt := fun request digest revision => hsound.receipt_spec
      answered := fun request result => KvWorld.answered_spec
      got := fun key result => KvWorld.got_spec
      scanned := fun start limit answer => KvWorld.scanned_spec }

/-! ## Two brokers -/

def emptyDocument : KvDocument := ⟨kvSchema, 7, ∅, ∅⟩

def sampleState : RuntimeState := ⟨⟨true, 4096, emptyDocument, 7, none, 0⟩, 0⟩

/-- The document as `load` leaves it, and two brokers that have loaded it. -/
def sampleWorld : KvWorld Bool := ⟨⟨emptyDocument, emptyDocument.fileLength⟩, fun _ => sampleState⟩

def putByte (byte : UInt8) : TransactionRequest := ⟨[.put ⟨"a", [byte], none⟩], "k"⟩

def allWell : Io := ⟨.ok (), .ok (), .ok (), .done⟩

/-- One broker commits, the other repeats the request and then reuses its key. -/
def sampleCalls : List (KvInput Bool) :=
  [⟨false, allWell, .transact (putByte 1)⟩, ⟨true, allWell, .transact (putByte 1)⟩,
    ⟨true, allWell, .transact (putByte 2)⟩]

/-- The digests of the texts that the sample hashes. -/
def sampleSha256 (text : String) : String :=
  if text = (putByte 1).text then
    "3351fedddc5a8a52d2446a1a18165136339a56df09d29cdc58c4335643eb640e"
  else if text = (putByte 2).text then
    "3ce929bee172a4ee0553b64ea67d9919021a044a6a5f7b430ff5615233423bf9"
  else "e3b0c44298fc1c149afbf4c8996fb92427ae41e4649b934ca495991b7852b855"

theorem sampleSha256_hex : HexDigests sampleSha256 := by
  intro text
  rw [sampleSha256]
  split
  · decide
  · split
    · decide
    · decide

theorem sampleSha256_free : CollisionFree sampleSha256 (requests sampleCalls) := by
  have hrequests : requests sampleCalls = [putByte 1, putByte 1, putByte 2] := rfl
  rw [hrequests]
  have hdigests : sampleSha256 (putByte 1).text ≠ sampleSha256 (putByte 2).text := by
    decide +kernel
  intro r hr s hs h
  simp only [List.mem_cons, List.not_mem_nil, or_false] at hr hs
  obtain rfl | rfl | rfl := hr
  all_goals obtain rfl | rfl | rfl := hs
  all_goals first | rfl | exact absurd h hdigests | exact absurd h.symm hdigests

theorem serialisable_sample :
    sampleWorld.commits sampleSha256 sampleCalls = [(putByte 1, 8)] ∧
    Serial sampleWorld.store
      (transactions sampleSha256 (sampleWorld.commits sampleSha256 sampleCalls))
      (sampleWorld.run sampleSha256 sampleCalls).store ∧
    ((sampleWorld.commits sampleSha256 sampleCalls).map fun c => c.1.idempotencyKey).Nodup ∧
    ∀ before x after, sampleCalls = before ++ x :: after →
      CallSpec sampleSha256 (sampleWorld.commits sampleSha256 before)
        (sampleWorld.run sampleSha256 before) x :=
  ⟨by decide +kernel, serialisable sampleSha256_hex
    ⟨Nat.succ_ne_zero _, by decide +kernel, fun _ => Nat.le_refl _⟩ sampleCalls sampleSha256_free⟩

end Vibapp.ServiceRuntime
