import Vibapp.ServiceRuntime.KvRuns

/-!
# Revisions across migrations

`KvBroker.load` and the three steps of a migration. A migration commits all its transactions as one
target revision, so within it a key can change twice under one revision
(`migration_repeats_revision`). **Main result** (`revisionLaws`): in every run of any number of
brokers a commit outside a migration gives each key it changes a revision above all that any key has
had; in a migration it does so unless the document is at the target already, and an optimistic check
that passes after a change was made at the target of the migration that made the change.
-/

namespace Vibapp.ServiceRuntime

/-! ## Loading and migrating -/

namespace KvBroker

/-- What `KvBroker::load` makes of the file, or of its absence. -/
def loadDocument (io : Io) (file : Option KvFile) (stateRevision : Nat) (enabled : Bool)
    (maximumBytes : Nat) : Except String KvDocument :=
  match enabled, file with
  | true, some file =>
    match io.inspect with
    | .error e => .error ("cannot inspect KV state: " ++ e)
    | .ok _ =>
      if file.length = 0 ∨ maximumBytes < file.length then
        .error "KV state must be one bounded regular non-link file"
      else
        match io.read with
        | .error e => .error ("cannot read KV state: " ++ e)
        | .ok _ => .ok file.document
  | _, _ => .ok ⟨kvSchema, stateRevision, ∅, ∅⟩

/-- `KvBroker::load`, and the file it has renamed into place. -/
def load (io : Io) (file : Option KvFile) (stateRevision : Nat) (enabled : Bool)
    (maximumBytes : Nat) : Except String KvBroker × Option KvFile :=
  match loadDocument io file stateRevision enabled maximumBytes with
  | .error e => (.error e, none)
  | .ok document =>
    if validDocument document stateRevision true = false then
      (.error "KV state schema, revision, or entry bounds are invalid", none)
    else
      let broker : KvBroker := ⟨enabled, maximumBytes, document, stateRevision, none, 0⟩
      if enabled = true ∧ file = none then
        match io.lock with
        | .error e => (.error e, none)
        | .ok _ =>
          let persisted := broker.persist io
          (persisted.result.map fun _ => persisted.broker, persisted.written)
      else (.ok broker, none)

/-- `KvBroker::begin_migration`. -/
def beginMigration (broker : KvBroker) (io : Io) (file : KvFile) (source target : Nat) :
    Except String Unit × KvBroker :=
  if broker.enabled = false then (.ok (), broker)
  else
    match broker.refresh io file with
    | .error e => (.error e, broker)
    | .ok broker =>
      if broker.document.stateRevision ≠ source ∨ target ≠ min (source + 1) u64Max then
        (.error "KV migration is not bound to the copied source revision", broker)
      else (.ok (), { broker with migrationTargetRevision := some target })

/-- `KvBroker::finish_migration`. -/
def finishMigration (broker : KvBroker) (io : Io) (file : KvFile) (target : Nat) : Persisted :=
  if broker.enabled = false then ⟨.ok (), broker, none⟩
  else if broker.migrationTargetRevision ≠ some target then
    ⟨.error "KV migration target revision is not active", broker, none⟩
  else if broker.document.stateRevision = target then
    ⟨.ok (), { broker with migrationTargetRevision := none, minimumStateRevision := target }, none⟩
  else
    match io.lock with
    | .error e => ⟨.error e, broker, none⟩
    | .ok _ =>
      match broker.readDocument io file with
      | .error e => ⟨.error e, broker, none⟩
      | .ok document =>
        let persisted :=
          { broker with document := { document with stateRevision := target } }.persist io
        match persisted.result with
        | .error _ => persisted
        | .ok _ =>
          { persisted with broker :=
            { persisted.broker with
              migrationTargetRevision := none, minimumStateRevision := target } }

/-- `KvBroker::abort_migration`. -/
def abortMigration (broker : KvBroker) : KvBroker := { broker with migrationTargetRevision := none }

end KvBroker

/-! ## Runs -/

/-- What one locked section does: a call of the guest, a step of a migration, or that the broker is
loaded again. -/
inductive KvAction
  | call (guestCall : KvCall)
  | load (stateRevision : Nat) (enabled : Bool) (maximumBytes : Nat)
  | beginMigration (source target : Nat)
  | finishMigration (target : Nat)
  | abortMigration

/-- The state of the broker after an action, and the file the action has renamed into place. -/
def KvAction.leaves (sha256 : String → String) (state : RuntimeState) (file : KvFile) (io : Io) :
    KvAction → RuntimeState × Option KvFile
  | .call guestCall =>
    let performed := perform sha256 state file io guestCall
    (performed.state, performed.written)
  | .load stateRevision enabled maximumBytes =>
    let (loaded, written) := KvBroker.load io (some file) stateRevision enabled maximumBytes
    match loaded with
    | .ok kv => ({ state with kv := kv }, written)
    | .error _ => (state, written)
  | .beginMigration source target =>
    ({ state with kv := (state.kv.beginMigration io file source target).2 }, none)
  | .finishMigration target =>
    let persisted := state.kv.finishMigration io file target
    ({ state with kv := persisted.broker }, persisted.written)
  | .abortMigration => ({ state with kv := state.kv.abortMigration }, none)

/-- One locked section: who acts, how the operating system answers, and the action. -/
structure KvEvent (ι : Type) where
  broker : ι
  io : Io
  action : KvAction

namespace KvWorld

variable {ι : Type} (sha256 : String → String)

def leaves (w : KvWorld ι) (x : KvEvent ι) : RuntimeState × Option KvFile :=
  x.action.leaves sha256 (w.states x.broker) w.file x.io

variable [DecidableEq ι]

def act (w : KvWorld ι) (x : KvEvent ι) : KvWorld ι where
  file := (w.leaves sha256 x).2.getD w.file
  states := Function.update w.states x.broker (w.leaves sha256 x).1

def acts (w : KvWorld ι) (xs : List (KvEvent ι)) : KvWorld ι := xs.foldl (act sha256) w

end KvWorld

/-! ## What is in a document -/

/-- A receipt or an entry of the document has at least the revision `r`. -/
def KvDocument.Reached (document : KvDocument) (r : Nat) : Prop :=
  (∃ id receipt, document.transactions.get? id = some receipt ∧ r ≤ receipt.stateRevision) ∨
    ∃ key entry, document.entries.get? key = some entry ∧ r ≤ entry.revision

theorem reached_of_entries {document : KvDocument} {key : String}
    {entry : Versioned (List UInt8)} (h : document.store.entries key = some entry) :
    document.Reached entry.revision := by
  obtain ⟨stored, hget, rfl⟩ := Option.map_eq_some_iff.1 h
  exact .inr ⟨key, stored, hget, le_rfl⟩

/-- No revision in a valid document is above that of the document. -/
theorem le_of_reached {document : KvDocument} {minimum r : Nat}
    (hvalid : validDocument document minimum false = true) (h : document.Reached r) :
    r ≤ document.stateRevision := by
  obtain ⟨-, -, -, -, -, hentries, htransactions⟩ := validDocument_iff.1 hvalid
  rcases h with ⟨id, receipt, hget, hle⟩ | ⟨key, entry, hget, hle⟩
  · have hreceipt := htransactions hget
    simp only [validTransaction, Bool.and_eq_true, decide_eq_true_eq] at hreceipt
    exact hle.trans hreceipt.2
  · have hentry := hentries hget
    simp only [validEntry, Bool.and_eq_true, decide_eq_true_eq] at hentry
    exact hle.trans hentry.2

/-- A commit leaves its revision in the document, and under each key that it changes. -/
theorem Commits.reached {migration : Option Nat} {document next : KvDocument}
    {request : TransactionRequest} {digest : String}
    (h : Commits migration document request digest next) : next.Reached next.stateRevision :=
  .inl ⟨request.idempotencyKey, _, by rw [h.transactions, Dict.get?_set_self], le_rfl⟩

theorem Commits.entries {migration : Option Nat} {document next : KvDocument}
    {request : TransactionRequest} {digest : String}
    (h : Commits migration document request digest next) {key : String}
    {entry : Versioned (List UInt8)} (hentry : next.store.entries key = some entry) :
    document.store.entries key = some entry ∨ entry.revision = next.stateRevision := by
  have happly : next.store.entries = VersionedWrite.applyAll next.stateRevision
      (request.operations.map WriteOperation.write) document.store.entries :=
    (applyOperations_ok h.operations).2
  rw [happly] at hentry
  exact VersionedWrite.eq_or_revision_of_applyAll hentry

/-! ## What an action does to the file -/

/-- What an action can do to the file. -/
inductive FileStep (sha256 : String → String) (kv : KvBroker) (document : KvDocument) :
    KvAction → Option KvFile → Prop
  | kept (action : KvAction) : FileStep sha256 kv document action none
  | commit (request : TransactionRequest) (next : KvDocument)
      (valid : validDocument document kv.minimumStateRevision false = true)
      (outside : request.outside = false)
      (commits : Commits kv.migrationTargetRevision document request (sha256 request.text) next) :
      FileStep sha256 kv document (.call (.transact request)) (some ⟨next, next.fileLength⟩)
  | finish (target : Nat)
      (valid : validDocument document kv.minimumStateRevision false = true) :
      FileStep sha256 kv document (.finishMigration target)
        (some ⟨{ document with stateRevision := target },
          ({ document with stateRevision := target } : KvDocument).fileLength⟩)

/-- A transaction that is written has read a valid document and persisted the next. -/
theorem persist_of_written {sha256 : String → String} {state : RuntimeState} {io : Io}
    {file written : KvFile} {request : TransactionRequest}
    (h : (transact sha256 state io file request).written = some written) :
    validDocument file.document state.kv.minimumStateRevision false = true ∧
      ∃ next, ({ state.kv with document := next }.persist io).written = some written := by
  rw [transact] at h
  dsimp only at h
  split at h
  · cases h
  · split at h
    · cases h
    · split at h
      · cases h
      · rw [transactLocked] at h
        dsimp only at h
        split at h
        · cases h
        · rename_i document hread
          refine ⟨(readDocument_eq_ok hread).2, ?_⟩
          split at h
          · cases h
          · cases h
          · rename_i next _
            refine ⟨next, ?_⟩
            split at h <;> exact h

/-- Where the file is there, `load` writes none. -/
theorem load_written (io : Io) (file : KvFile) (stateRevision : Nat) (enabled : Bool)
    (maximumBytes : Nat) :
    (KvBroker.load io (some file) stateRevision enabled maximumBytes).2 = none := by
  rw [KvBroker.load]
  split
  · rfl
  · split
    · rfl
    · dsimp only
      rw [if_neg (by simp)]

theorem finishMigration_written (kv : KvBroker) (io : Io) (file : KvFile) (target : Nat) :
    (kv.finishMigration io file target).written = none ∨
      validDocument file.document kv.minimumStateRevision false = true ∧
        (kv.finishMigration io file target).written =
          some ⟨{ file.document with stateRevision := target },
            ({ file.document with stateRevision := target } : KvDocument).fileLength⟩ := by
  rw [KvBroker.finishMigration]
  split
  · exact .inl rfl
  · split
    · exact .inl rfl
    · split
      · exact .inl rfl
      · split
        · exact .inl rfl
        · split
          · exact .inl rfl
          · rename_i document hread
            obtain ⟨rfl, hvalid⟩ := readDocument_eq_ok hread
            obtain ⟨-, ⟨e, hresult, hwritten⟩ | ⟨e, -, hresult, hwritten⟩ | ⟨hresult, hwritten⟩⟩ :=
              persist_cases
                { kv with document := { file.document with stateRevision := target } } io
            · left
              dsimp only
              rw [hresult]
              exact hwritten
            · right
              dsimp only
              rw [hresult]
              exact ⟨hvalid, hwritten⟩
            · right
              dsimp only
              rw [hresult]
              exact ⟨hvalid, hwritten⟩

theorem fileStep (sha256 : String → String) (state : RuntimeState) (file : KvFile) (io : Io)
    (action : KvAction) :
    FileStep sha256 state.kv file.document action (action.leaves sha256 state file io).2 := by
  cases action with
  | call guestCall =>
    cases guestCall with
    | get key => exact .kept _
    | scanPrefix start limit => exact .kept _
    | transact request =>
      have hspec := transact_spec sha256 state io file request
      have hvalid : ∀ written, (transact sha256 state io file request).written = some written →
          validDocument file.document state.kv.minimumStateRevision false = true :=
        fun _ h => (persist_of_written h).1
      rw [KvAction.leaves, perform]
      dsimp only
      generalize transact sha256 state io file request = transacted at hspec hvalid
      cases hspec with
      | refused e state' minimum => exact .kept _
      | repeated revision state' minimum receipt => exact .kept _
      | committed next state' outside commits minimum =>
        exact .commit request next (hvalid _ rfl) outside commits
      | unsynced e next state' outside persist commits minimum =>
        exact .commit request next (hvalid _ rfl) outside commits
  | load stateRevision enabled maximumBytes =>
    have hnone : (KvAction.leaves sha256 state file io
        (.load stateRevision enabled maximumBytes)).2 = none := by
      rw [KvAction.leaves, ← load_written io file stateRevision enabled maximumBytes]
      dsimp only
      split <;> rfl
    rw [hnone]
    exact .kept _
  | beginMigration source target => exact .kept _
  | finishMigration target =>
    rw [KvAction.leaves]
    rcases finishMigration_written state.kv io file target with hnone | ⟨hvalid, hwritten⟩
    · dsimp only
      rw [hnone]
      exact .kept _
    · dsimp only
      rw [hwritten]
      exact .finish target hvalid
  | abortMigration => exact .kept _

namespace KvWorld

variable {ι : Type} {sha256 : String → String} [DecidableEq ι]

/-- Key `key` has had revision `r` at some point of the run. -/
def Had (sha256 : String → String) (w : KvWorld ι) (xs : List (KvEvent ι)) (key : String)
    (r : Nat) : Prop :=
  ∃ before after, xs = before ++ after ∧
    ∃ value, (w.acts sha256 before).store.entries key = some ⟨value, r⟩

/-- The commit of a transaction that is written. -/
structure Commit (sha256 : String → String) (w : KvWorld ι) (x : KvEvent ι)
    (request : TransactionRequest) : Prop where
  valid : validDocument w.file.document (w.states x.broker).kv.minimumStateRevision false = true
  outside : request.outside = false
  commits : Commits (w.states x.broker).kv.migrationTargetRevision w.file.document request
    (sha256 request.text) (w.act sha256 x).file.document

variable (sha256) in
theorem act_cases (w : KvWorld ι) (x : KvEvent ι) :
    ((w.act sha256 x).file.document.entries = w.file.document.entries ∧
      (w.act sha256 x).file.document.transactions = w.file.document.transactions ∧
      ∀ request, x.action = .call (.transact request) → (w.leaves sha256 x).2 = none) ∨
    ∃ request, x.action = .call (.transact request) ∧ (w.leaves sha256 x).2 ≠ none ∧
      Commit sha256 w x request := by
  have hstep := fileStep sha256 (w.states x.broker) w.file x.io x.action
  change FileStep _ _ _ _ (w.leaves sha256 x).2 at hstep
  cases hwritten : (w.leaves sha256 x).2 with
  | none =>
    have hfile : (w.act sha256 x).file = w.file := by rw [act, hwritten]; rfl
    exact .inl ⟨by rw [hfile], by rw [hfile], fun _ _ => rfl⟩
  | some written =>
    have hfile : (w.act sha256 x).file = written := by rw [act, hwritten]; rfl
    rw [hwritten] at hstep
    generalize haction : x.action = action at hstep
    cases hstep with
    | commit request next valid outside commits =>
      exact .inr ⟨request, rfl, by simp, valid, outside, by rw [hfile]; exact commits⟩
    | finish target valid =>
      exact .inl ⟨by rw [hfile], by rw [hfile], fun request h => by cases h⟩

theorem reached_act {w : KvWorld ι} {x : KvEvent ι} {r : Nat} (h : w.file.document.Reached r) :
    (w.act sha256 x).file.document.Reached r := by
  rcases w.act_cases sha256 x with
    ⟨hentries, htransactions, -⟩ | ⟨request, -, -, hcommit⟩
  · rw [KvDocument.Reached, hentries, htransactions]
    exact h
  · have hle := (le_of_reached hcommit.valid h).trans (targetRevision_ok hcommit.commits.target).1
    obtain ⟨id, receipt, hget, hrevision⟩ | hentry := hcommit.commits.reached
    · exact .inl ⟨id, receipt, hget, hle.trans hrevision⟩
    · obtain ⟨key, entry, hget, hrevision⟩ := hentry
      exact .inr ⟨key, entry, hget, hle.trans hrevision⟩

theorem reached_acts {w : KvWorld ι} {xs : List (KvEvent ι)} {r : Nat}
    (h : w.file.document.Reached r) : (w.acts sha256 xs).file.document.Reached r := by
  induction xs generalizing w with
  | nil => exact h
  | cons x xs ih => exact ih (reached_act h)

theorem acts_append (w : KvWorld ι) (xs ys : List (KvEvent ι)) :
    w.acts sha256 (xs ++ ys) = (w.acts sha256 xs).acts sha256 ys :=
  List.foldl_append

theorem Had.reached {w : KvWorld ι} {xs : List (KvEvent ι)} {key : String} {r : Nat}
    (h : Had sha256 w xs key r) : (w.acts sha256 xs).file.document.Reached r := by
  obtain ⟨before, after, rfl, value, hentry⟩ := h
  rw [acts_append]
  exact reached_acts (reached_of_entries hentry)

/-- An entry at the end of a run stood there at its start, or has at least a revision that the
document had reached by then. -/
theorem entry_acts {w : KvWorld ι} {xs : List (KvEvent ι)} {t : Nat}
    (ht : w.file.document.Reached t) {key : String} {entry : Versioned (List UInt8)}
    (h : (w.acts sha256 xs).store.entries key = some entry) :
    w.store.entries key = some entry ∨ t ≤ entry.revision := by
  induction xs generalizing w with
  | nil => exact .inl h
  | cons x xs ih =>
    rcases ih (reached_act ht) h with hmid | hle
    · rcases w.act_cases sha256 x with ⟨hentries, -, -⟩ | ⟨request, -, -, hcommit⟩
      · left
        change entriesOf (w.act sha256 x).file.document.entries key = _ at hmid
        rw [hentries] at hmid
        exact hmid
      · rcases hcommit.commits.entries hmid with hbefore | hrevision
        · exact .inl hbefore
        · right
          rw [hrevision]
          exact (le_of_reached hcommit.valid ht).trans
            (targetRevision_ok hcommit.commits.target).1
    · exact .inr hle

/-- A commit raises the revision of the document, or is made in a migration whose target the
document is at. -/
theorem Commit.raises {w : KvWorld ι} {x : KvEvent ι} {request : TransactionRequest}
    (h : Commit sha256 w x request) :
    w.store.revision < (w.act sha256 x).store.revision ∨
      (w.states x.broker).kv.migrationTargetRevision = some w.store.revision ∧
        (w.act sha256 x).store.revision = w.store.revision := by
  obtain ⟨hle, hnone, -, hsome⟩ := targetRevision_ok h.commits.target
  rcases Nat.lt_or_eq_of_le hle with hlt | heq
  · exact .inl hlt
  · right
    cases hmigration : (w.states x.broker).kv.migrationTargetRevision with
    | none => exact absurd heq (hnone hmigration).ne
    | some target =>
      have htarget := hsome target hmigration
      exact ⟨congrArg some (htarget.symm.trans heq.symm), heq.symm⟩

/-- What changes a key is the commit of a transaction. -/
theorem commit_of_change {w : KvWorld ι} {x : KvEvent ι} {key : String}
    (h : (w.act sha256 x).store.entries key ≠ w.store.entries key) :
    ∃ request, x.action = .call (.transact request) ∧ (w.leaves sha256 x).2 ≠ none ∧
      Commit sha256 w x request := by
  rcases w.act_cases sha256 x with ⟨hentries, -, -⟩ | hcommit
  · refine absurd ?_ h
    change entriesOf (w.act sha256 x).file.document.entries key = _
    rw [hentries]
    rfl
  · exact hcommit

theorem commit_of_written {w : KvWorld ι} {x : KvEvent ι} {request : TransactionRequest}
    (haction : x.action = .call (.transact request)) (h : (w.leaves sha256 x).2 ≠ none) :
    Commit sha256 w x request := by
  rcases w.act_cases sha256 x with ⟨-, -, hnone⟩ | ⟨request', haction', -, hcommit⟩
  · exact absurd (hnone request haction) h
  · rw [haction] at haction'
    cases haction'
    exact hcommit

/-- A check that passes on the revision that a key had, after a change of the key: the change was
made at that revision, in a migration to it. -/
theorem change_of_check {w : KvWorld ι} {before front back : List (KvEvent ι)} {y : KvEvent ι}
    {key : String} {value : List UInt8} {r : Nat}
    (hread : (w.acts sha256 before).store.entries key = some ⟨value, r⟩)
    (hchange : (w.acts sha256 (before ++ front ++ [y])).store.entries key ≠
      (w.acts sha256 (before ++ front)).store.entries key)
    (hcheck : stale (w.acts sha256 (before ++ front ++ y :: back)).file.document.entries key
      (some r) = false) :
    ((w.acts sha256 (before ++ front)).states y.broker).kv.migrationTargetRevision = some r ∧
      (w.acts sha256 (before ++ front)).store.revision = r := by
  rw [acts_append _ _ [y]] at hchange
  change ((w.acts sha256 (before ++ front)).act sha256 y).store.entries key ≠ _ at hchange
  rw [acts_append] at hcheck
  change stale (((w.acts sha256 (before ++ front)).act sha256 y).acts sha256
    back).file.document.entries key _ = false at hcheck
  have hreached : (w.acts sha256 (before ++ front)).file.document.Reached r := by
    rw [acts_append]
    exact reached_acts (reached_of_entries hread)
  generalize w.acts sha256 (before ++ front) = mid at hchange hcheck hreached
  obtain ⟨request, -, -, hcommit⟩ := commit_of_change hchange
  have hlow := le_of_reached hcommit.valid hreached
  -- the entry that the check finds is of the change or of a later commit
  obtain ⟨entry, hentry, hrevision⟩ := Option.map_eq_some_iff.1 (stale_eq_false_iff.1 hcheck r rfl)
  have hhigh : (mid.act sha256 y).file.document.stateRevision ≤ r := by
    rcases entry_acts hcommit.commits.reached hentry with hafter | hle
    · rcases hcommit.commits.entries hafter with hbefore | heq
      · exact absurd (hafter.trans hbefore.symm) hchange
      · rw [← heq, hrevision]
    · rw [← hrevision]
      exact hle
  rcases hcommit.raises with hlt | ⟨hmigration, -⟩
  · exact absurd (hlow.trans_lt hlt) (not_lt.2 hhigh)
  · have hle := (targetRevision_ok hcommit.commits.target).1
    have heq : mid.store.revision = r := Nat.le_antisymm (hle.trans hhigh) hlow
    rw [heq] at hmigration
    exact ⟨hmigration, heq⟩

end KvWorld

/-- What holds of the revisions at an action `x` that comes after `past`. -/
structure RevisionLaws {ι : Type} [DecidableEq ι] (sha256 : String → String) (w : KvWorld ι)
    (past : List (KvEvent ι)) (x : KvEvent ι) : Prop where
  /-- Only the commit of a transaction changes a key, and what it leaves has its revision. -/
  changed : ∀ key,
    (w.acts sha256 (past ++ [x])).store.entries key ≠ (w.acts sha256 past).store.entries key →
    (∃ request, x.action = .call (.transact request) ∧
      ((w.acts sha256 past).leaves sha256 x).2 ≠ none) ∧
    ∀ entry, (w.acts sha256 (past ++ [x])).store.entries key = some entry →
      entry.revision = (w.acts sha256 (past ++ [x])).store.revision
  /-- The revision of a commit is above all that any key has had, unless the document is at the
  target of the migration in which the broker commits. -/
  above : ∀ request, x.action = .call (.transact request) →
    ((w.acts sha256 past).leaves sha256 x).2 ≠ none →
    (∀ key r, KvWorld.Had sha256 w past key r →
      r < (w.acts sha256 (past ++ [x])).store.revision) ∨
    ((w.acts sha256 past).states x.broker).kv.migrationTargetRevision =
        some (w.acts sha256 past).store.revision ∧
      (w.acts sha256 (past ++ [x])).store.revision = (w.acts sha256 past).store.revision ∧
      ∀ key r, KvWorld.Had sha256 w past key r →
        r ≤ (w.acts sha256 (past ++ [x])).store.revision
  /-- A revision that a key had once passes the check after a change of the key only where the
  change was made at that revision, in a migration to it. -/
  check : ∀ before front y back, past = before ++ front ++ y :: back → ∀ key value r,
    (w.acts sha256 before).store.entries key = some ⟨value, r⟩ →
    (w.acts sha256 (before ++ front ++ [y])).store.entries key ≠
      (w.acts sha256 (before ++ front)).store.entries key →
    stale (w.acts sha256 past).file.document.entries key (some r) = false →
    ((w.acts sha256 (before ++ front)).states y.broker).kv.migrationTargetRevision = some r ∧
      (w.acts sha256 (before ++ front)).store.revision = r

/-- **Revisions across migrations.** The laws hold at every action of every run of any number of
brokers, whatever the operating system answers. -/
theorem revisionLaws {ι : Type} [DecidableEq ι] (sha256 : String → String) (w : KvWorld ι)
    (past : List (KvEvent ι)) (x : KvEvent ι) : RevisionLaws sha256 w past x := by
  have hsnoc : w.acts sha256 (past ++ [x]) = (w.acts sha256 past).act sha256 x := by
    rw [KvWorld.acts_append]
    rfl
  have habove : ∀ request, x.action = .call (.transact request) →
      ((w.acts sha256 past).leaves sha256 x).2 ≠ none → ∀ key r, KvWorld.Had sha256 w past key r →
      r ≤ (w.acts sha256 past).store.revision ∧
        (w.acts sha256 past).store.revision ≤ (w.acts sha256 (past ++ [x])).store.revision := by
    intro request haction hwritten key r hhad
    have hcommit := KvWorld.commit_of_written haction hwritten
    rw [hsnoc]
    exact ⟨le_of_reached hcommit.valid hhad.reached, (targetRevision_ok hcommit.commits.target).1⟩
  refine ⟨?_, ?_, ?_⟩
  · intro key hchange
    rw [hsnoc] at hchange ⊢
    obtain ⟨request, haction, hwritten, hcommit⟩ := KvWorld.commit_of_change hchange
    refine ⟨⟨request, haction, hwritten⟩, fun entry hentry => ?_⟩
    rcases hcommit.commits.entries hentry with hbefore | hrevision
    · exact absurd (hentry.trans hbefore.symm) hchange
    · exact hrevision
  · intro request haction hwritten
    rcases (KvWorld.commit_of_written haction hwritten).raises with hlt | ⟨hmigration, heq⟩
    · left
      intro key r hhad
      have hle := (habove request haction hwritten key r hhad).1
      rw [hsnoc]
      exact hle.trans_lt hlt
    · right
      refine ⟨hmigration, by rw [hsnoc]; exact heq, fun key r hhad => ?_⟩
      have hle := habove request haction hwritten key r hhad
      exact hle.1.trans hle.2
  · rintro before front y back rfl key value r hread hchange hcheck
    exact KvWorld.change_of_check hread hchange hcheck

/-! ## One migration -/

/-- One broker that has loaded the document. -/
def migrationWorld : KvWorld Unit :=
  ⟨⟨emptyDocument, emptyDocument.fileLength⟩, fun _ => sampleState⟩

def overwrite : TransactionRequest := ⟨[.put ⟨"a", [2], none⟩], "l"⟩

/-- The write of one who has read the value of `putByte 1`. -/
def conditional : TransactionRequest := ⟨[.put ⟨"a", [3], some 8⟩], "m"⟩

def migrationSha256 (text : String) : String :=
  if text = overwrite.text then
    "1ebbd848899a9cb3eb80906e0b8ef670edfafaa503707e9f193cb09bf79c1308"
  else if text = conditional.text then
    "383a5343f589c1977d1dbb7007ee928a3aab0778e656c8017e719cbf0fba3203"
  else sampleSha256 text

def during (action : KvAction) : KvEvent Unit := ⟨(), allWell, action⟩

/-- A migration from revision 7 to 8 that writes the key, as it is when the writer reads. -/
def migrationEvents : List (KvEvent Unit) :=
  [during (.load 7 true 4096), during (.beginMigration 7 8),
    during (.call (.transact (putByte 1)))]

/-- Within one migration a key changes under one revision: the second write leaves the revision of
the first, and a check made on the first passes after it. -/
theorem migration_repeats_revision :
    (migrationWorld.acts migrationSha256 migrationEvents).store.entries "a" = some ⟨[1], 8⟩ ∧
    (migrationWorld.acts migrationSha256
      (migrationEvents ++ [during (.call (.transact overwrite))])).store.entries "a" =
        some ⟨[2], 8⟩ ∧
    (migrationWorld.acts migrationSha256
      (migrationEvents ++ [during (.call (.transact overwrite)),
        during (.call (.transact conditional))])).store.entries "a" = some ⟨[3], 8⟩ := by
  decide +kernel

end Vibapp.ServiceRuntime
