import Vibapp.ServiceRuntime.KvMigration

/-!
# What is persisted can be loaded

**Main result** (`transact_durable`): a document that `transact` persists is one that the next
`load` accepts, whatever the broker's state, and a `transact` that fails leaves the file as it is.
Its broker then has the copy that it had or the document of the file; in a run of one broker these
are the same, unless a `finish_migration` has failed to persist. Where two brokers share a file, a
failed `transact` of one brings its copy up to the other's commit (`failure_refreshes_copy`).
-/

namespace Vibapp.ServiceRuntime

variable {sha256 : String → String}

/-! ## Loading what was written -/

theorem validDocument_exact {document : KvDocument}
    (h : validDocument document 0 false = true) :
    validDocument document document.stateRevision true = true := by
  simp only [validDocument, Bool.and_eq_true, decide_eq_true_eq, if_true] at h ⊢
  exact ⟨⟨⟨⟨⟨h.1.1.1.1.1, trivial⟩, h.1.1.1.2⟩, h.1.1.2⟩, h.1.2⟩, h.2⟩

theorem validDocument_zero {document : KvDocument} {minimum : Nat}
    (h : validDocument document minimum false = true) : validDocument document 0 false = true := by
  rw [validDocument_iff] at h ⊢
  exact ⟨h.1, h.2.1, Nat.zero_le _, h.2.2.2⟩

theorem persist_length_le {kv : KvBroker} {io : Io} {file : KvFile}
    (h : (kv.persist io).written = some file) : file.length ≤ kv.maximumBytes := by
  rw [KvBroker.persist] at h
  dsimp only at h
  split at h
  · cases h
  · rename_i hbound
    split at h
    · cases h
    · cases h
      exact not_lt.1 hbound
    · cases h
      exact not_lt.1 hbound

/-- `load` accepts a file of a valid document within the bound. -/
theorem load_eq_ok {io : Io} {file : KvFile} {maximumBytes : Nat}
    (hinspect : io.inspect = .ok ()) (hread : io.read = .ok ()) (hnonempty : 0 < file.length)
    (hbound : file.length ≤ maximumBytes)
    (hvalid : validDocument file.document file.document.stateRevision true = true) :
    KvBroker.load io (some file) file.document.stateRevision true maximumBytes =
      (.ok ⟨true, maximumBytes, file.document, file.document.stateRevision, none, 0⟩, none) := by
  have hloaded : KvBroker.loadDocument io (some file) file.document.stateRevision true
      maximumBytes = .ok file.document := by
    rw [KvBroker.loadDocument, hinspect]
    dsimp only
    rw [if_neg (by omega), hread]
  rw [KvBroker.load, hloaded]
  dsimp only
  rw [if_neg (by simp [hvalid]), if_neg (by simp)]

theorem written_loads (hhex : HexDigests sha256) {state : RuntimeState} {io : Io}
    {file written : KvFile} {request : TransactionRequest}
    (h : (transact sha256 state io file request).written = some written) :
    validDocument written.document written.document.stateRevision true = true ∧
      0 < written.length ∧ written.length ≤ state.kv.maximumBytes := by
  obtain ⟨hvalid, next, hpersist⟩ := persist_of_written h
  have hbound := persist_length_le hpersist
  have hspec := transact_spec sha256 state io file request
  generalize transact sha256 state io file request = transacted at h hspec
  cases hspec with
  | refused e state' minimum => cases h
  | repeated revision state' minimum receipt => cases h
  | committed next state' outside commits minimum =>
    cases h
    exact ⟨validDocument_exact (commits.valid hhex outside (validDocument_zero hvalid)),
      Nat.succ_pos _, hbound⟩
  | unsynced e next state' outside persist commits minimum =>
    cases h
    exact ⟨validDocument_exact (commits.valid hhex outside (validDocument_zero hvalid)),
      Nat.succ_pos _, hbound⟩

/-! ## Failures -/

/-- Writing fails before the rename. -/
def Io.Atomic (io : Io) : Prop := ∀ e, io.persist ≠ .unsynced e

theorem persist_error {kv : KvBroker} {io : Io} (hio : io.Atomic) {e : String}
    (h : (kv.persist io).result = .error e) : (kv.persist io).written = none := by
  obtain ⟨-, ⟨_, -, hwritten⟩ | ⟨_, hunsynced, -⟩ | ⟨hresult, -⟩⟩ := persist_cases kv io
  · exact hwritten
  · exact absurd hunsynced (hio _)
  · rw [h] at hresult
    cases hresult

theorem transact_error {state : RuntimeState} {io : Io} (hio : io.Atomic) {file : KvFile}
    {request : TransactionRequest} {e : HostError}
    (h : (transact sha256 state io file request).result = .error e) :
    (transact sha256 state io file request).written = none ∧
      ((transact sha256 state io file request).state.kv.document = state.kv.document ∨
        (transact sha256 state io file request).state.kv.document = file.document) := by
  rw [transact] at h ⊢
  dsimp only at h ⊢
  by_cases henabled : state.kv.enabled = false
  · rw [if_pos henabled]
    exact ⟨rfl, .inl rfl⟩
  · rw [if_neg henabled] at h ⊢
    by_cases houtside : request.outside = true
    · rw [if_pos houtside]
      exact ⟨rfl, .inl rfl⟩
    · rw [if_neg houtside] at h ⊢
      cases hlock : io.lock with
      | error message => exact ⟨rfl, .inl rfl⟩
      | ok _ =>
        rw [hlock] at h
        dsimp only at h ⊢
        rw [transactLocked] at h ⊢
        dsimp only at h ⊢
        cases hread : state.kv.readDocument io file with
        | error message => exact ⟨rfl, .inl rfl⟩
        | ok document =>
          rw [hread] at h
          dsimp only at h ⊢
          have hdocument := (readDocument_eq_ok hread).1
          cases hdecide : decideTransaction state.kv.migrationTargetRevision document request
              (sha256 request.text) with
          | error cause => exact ⟨rfl, .inr hdocument⟩
          | ok verdict =>
            rw [hdecide] at h
            cases verdict with
            | repeated revision => cases h
            | commit next =>
              dsimp only at h ⊢
              cases hpersist : ({ state.kv with document := next }.persist io).result with
              | error message => exact ⟨persist_error hio hpersist, .inr hdocument⟩
              | ok _ =>
                rw [hpersist] at h
                cases h

/-! ## The copy of one broker -/

/-- The broker's copy is the document of the file, where it may use the file. -/
def Copied (kv : KvBroker) (file : KvFile) : Prop := kv.enabled = true → kv.document = file.document

/-- The action's writing fails before the rename, and no `finish_migration` that fails leaves the
broker changed. -/
structure Clean (w : KvWorld Unit) (x : KvEvent Unit) : Prop where
  atomic : x.io.Atomic
  finish : ∀ target, x.action = .finishMigration target →
    ∀ e, ((w.states ()).kv.finishMigration x.io w.file target).result = .error e →
      ((w.states ()).kv.finishMigration x.io w.file target).broker = (w.states ()).kv

theorem refresh_copied {kv kv' : KvBroker} {io : Io} {file : KvFile} (hcopied : Copied kv file)
    (h : kv.refresh io file = .ok kv') : Copied kv' file := by
  by_cases henabled : kv.enabled = false
  · rw [KvBroker.refresh, if_pos henabled] at h
    cases h
    exact hcopied
  · rw [refresh_eq_ok (eq_true_of_ne_false henabled) h]
    exact fun _ => rfl

theorem persist_ok {kv : KvBroker} {io : Io} {u : Unit} (h : (kv.persist io).result = .ok u) :
    (kv.persist io).written = some ⟨kv.document, kv.document.fileLength⟩ ∧
      (kv.persist io).broker.document = kv.document := by
  rw [KvBroker.persist] at h ⊢
  dsimp only at h ⊢
  by_cases hbound : kv.maximumBytes < kv.document.fileLength
  · rw [if_pos hbound] at h
    cases h
  · rw [if_neg hbound] at h ⊢
    cases hpersist : io.persist with
    | failed e =>
      rw [hpersist] at h
      cases h
    | unsynced e =>
      rw [hpersist] at h
      cases h
    | done => exact ⟨rfl, rfl⟩

theorem get_copied {state : RuntimeState} {io : Io} {file : KvFile} {key : String}
    (h : Copied state.kv file) : Copied (get state io file key).2.kv file := by
  rw [get]
  split
  · exact h
  · split
    · exact h
    · split
      · exact h
      · exact refresh_copied h ‹_›

theorem scanPrefix_copied {state : RuntimeState} {io : Io} {file : KvFile} {start : String}
    {limit : Nat} (h : Copied state.kv file) :
    Copied (scanPrefix state io file start limit).2.kv file := by
  rw [scanPrefix]
  split
  · exact h
  · split
    · exact h
    · split
      · exact h
      · exact refresh_copied h ‹_›

theorem transactLocked_copied {state : RuntimeState} {io : Io} (hio : io.Atomic) {file : KvFile}
    {request : TransactionRequest} {digest : String} (h : Copied state.kv file) :
    Copied (transactLocked state io file request digest).state.kv
      ((transactLocked state io file request digest).written.getD file) := by
  rw [transactLocked]
  cases hread : state.kv.readDocument io file with
  | error e => exact h
  | ok document =>
    have hdocument := (readDocument_eq_ok hread).1
    dsimp only
    cases decideTransaction state.kv.migrationTargetRevision document request digest with
    | error e => exact fun _ => hdocument
    | ok verdict =>
      cases verdict with
      | repeated revision => exact fun _ => hdocument
      | commit next =>
        dsimp only
        cases hpersist : ({ state.kv with document := next }.persist io).result with
        | error e =>
          dsimp only
          rw [persist_error hio hpersist]
          exact fun _ => hdocument
        | ok _ =>
          dsimp only
          obtain ⟨hwritten, hcopy⟩ := persist_ok hpersist
          rw [hwritten]
          exact fun _ => hcopy

theorem transact_copied {state : RuntimeState} {io : Io} (hio : io.Atomic) {file : KvFile}
    {request : TransactionRequest} (h : Copied state.kv file) :
    Copied (transact sha256 state io file request).state.kv
      ((transact sha256 state io file request).written.getD file) := by
  rw [transact]
  dsimp only
  split
  · exact h
  · split
    · exact h
    · split
      · exact h
      · exact transactLocked_copied hio h

theorem load_copied {io : Io} {file : KvFile} {stateRevision maximumBytes : Nat} {enabled : Bool}
    {kv : KvBroker}
    (h : (KvBroker.load io (some file) stateRevision enabled maximumBytes).1 = .ok kv) :
    Copied kv file := by
  rw [KvBroker.load] at h
  cases hloaded : KvBroker.loadDocument io (some file) stateRevision enabled maximumBytes with
  | error e =>
    rw [hloaded] at h
    cases h
  | ok document =>
    rw [hloaded] at h
    dsimp only at h
    split at h
    · cases h
    · rw [if_neg (by simp)] at h
      cases h
      intro henabled
      change enabled = true at henabled
      subst henabled
      rw [KvBroker.loadDocument] at hloaded
      split at hloaded
      · cases hloaded
      · split at hloaded
        · cases hloaded
        · split at hloaded
          · cases hloaded
          · cases hloaded
            rfl

theorem beginMigration_copied {kv : KvBroker} {io : Io} {file : KvFile} {source target : Nat}
    (h : Copied kv file) : Copied (kv.beginMigration io file source target).2 file := by
  rw [KvBroker.beginMigration]
  split
  · exact h
  · split
    · exact h
    · have hcopied := refresh_copied h ‹_›
      split
      · exact hcopied
      · exact hcopied

theorem finishMigration_copied {kv : KvBroker} {io : Io} {file : KvFile} {target : Nat}
    {u : Unit} (h : Copied kv file)
    (hresult : (kv.finishMigration io file target).result = .ok u) :
    Copied (kv.finishMigration io file target).broker
      ((kv.finishMigration io file target).written.getD file) := by
  rw [KvBroker.finishMigration] at hresult ⊢
  split
  · exact h
  · rename_i henabled
    rw [if_neg henabled] at hresult
    split
    · exact h
    · rename_i hactive
      rw [if_neg hactive] at hresult
      split
      · exact h
      · rename_i hbehind
        rw [if_neg hbehind] at hresult
        cases hlock : io.lock with
        | error e =>
          rw [hlock] at hresult
          cases hresult
        | ok _ =>
          rw [hlock] at hresult
          dsimp only at hresult ⊢
          cases hread : kv.readDocument io file with
          | error e =>
            rw [hread] at hresult
            cases hresult
          | ok document =>
            rw [hread] at hresult
            dsimp only at hresult ⊢
            cases hpersist : ({ kv with document :=
                { document with stateRevision := target } }.persist io).result with
            | error e =>
              rw [hpersist] at hresult
              dsimp only at hresult
              rw [hpersist] at hresult
              cases hresult
            | ok _ =>
              dsimp only
              obtain ⟨hwritten, hcopy⟩ := persist_ok hpersist
              rw [hwritten]
              exact fun _ => hcopy

theorem finishMigration_unwritten {kv : KvBroker} {io : Io} (hio : io.Atomic) {file : KvFile}
    {target : Nat} {e : String} (h : (kv.finishMigration io file target).result = .error e) :
    (kv.finishMigration io file target).written = none := by
  rw [KvBroker.finishMigration] at h ⊢
  split
  · rfl
  · rename_i henabled
    rw [if_neg henabled] at h
    split
    · rfl
    · rename_i hactive
      rw [if_neg hactive] at h
      split
      · rfl
      · rename_i hbehind
        rw [if_neg hbehind] at h
        cases hlock : io.lock with
        | error e => rfl
        | ok _ =>
          rw [hlock] at h
          dsimp only at h ⊢
          cases hread : kv.readDocument io file with
          | error e => rfl
          | ok document =>
            rw [hread] at h
            dsimp only at h ⊢
            cases hpersist : ({ kv with document :=
                { document with stateRevision := target } }.persist io).result with
            | error e => exact persist_error hio hpersist
            | ok _ =>
              rw [hpersist] at h
              cases h

namespace KvWorld

/-- Every action of the run is clean. -/
def CleanRun (sha256 : String → String) (w : KvWorld Unit) (xs : List (KvEvent Unit)) : Prop :=
  ∀ before x after, xs = before ++ x :: after → Clean (w.acts sha256 before) x

theorem states_act_self (w : KvWorld Unit) (x : KvEvent Unit) :
    (w.act sha256 x).states () = (w.leaves sha256 x).1 := by
  rw [act]
  exact Function.update_self x.broker _ w.states

theorem leaves_copied {w : KvWorld Unit} {x : KvEvent Unit} (hclean : Clean w x)
    (h : Copied (w.states ()).kv w.file) :
    Copied (w.leaves sha256 x).1.kv ((w.leaves sha256 x).2.getD w.file) := by
  obtain ⟨⟨⟩, io, action⟩ := x
  rw [leaves]
  cases action with
  | call guestCall =>
    cases guestCall with
    | get key => exact get_copied h
    | scanPrefix start limit => exact scanPrefix_copied h
    | transact request => exact transact_copied hclean.atomic h
  | load stateRevision enabled maximumBytes =>
    rw [KvAction.leaves]
    dsimp only
    split
    · rename_i kv hloaded
      rw [load_written]
      exact load_copied hloaded
    · rw [load_written]
      exact h
  | beginMigration source target => exact beginMigration_copied h
  | finishMigration target =>
    rw [KvAction.leaves]
    dsimp only
    cases hresult : ((w.states ()).kv.finishMigration io w.file target).result with
    | error e =>
      rw [finishMigration_unwritten hclean.atomic hresult, hclean.finish target rfl e hresult]
      exact h
    | ok _ => exact finishMigration_copied h hresult
  | abortMigration => exact h

theorem copied_acts {w : KvWorld Unit} {xs : List (KvEvent Unit)} (hclean : CleanRun sha256 w xs)
    (h : Copied (w.states ()).kv w.file) :
    Copied ((w.acts sha256 xs).states ()).kv (w.acts sha256 xs).file := by
  induction xs generalizing w with
  | nil => exact h
  | cons x xs ih =>
    have hstates : (w.act sha256 x).states () = (w.leaves sha256 x).1 := states_act_self w x
    apply ih
    · intro before y after heq
      exact hclean (x :: before) y after (by rw [heq]; rfl)
    · rw [hstates]
      exact leaves_copied (hclean [] x xs rfl) h

/-- A `transact` that fails in a clean run of one broker leaves the file and the copy as they
are. -/
theorem error_keeps {w : KvWorld Unit} {past : List (KvEvent Unit)} {x : KvEvent Unit}
    {request : TransactionRequest} {e : HostError} (hclean : CleanRun sha256 w past)
    (hatomic : x.io.Atomic) (h : Copied (w.states ()).kv w.file)
    (haction : x.action = .call (.transact request))
    (herror : (transact sha256 ((w.acts sha256 past).states ()) x.io (w.acts sha256 past).file
      request).result = .error e) :
    (w.acts sha256 (past ++ [x])).file = (w.acts sha256 past).file ∧
      ((w.acts sha256 (past ++ [x])).states ()).kv.document =
        ((w.acts sha256 past).states ()).kv.document := by
  have hcopied := copied_acts hclean h
  rw [acts_append]
  change ((w.acts sha256 past).act sha256 x).file = _ ∧
    (((w.acts sha256 past).act sha256 x).states ()).kv.document = _
  generalize w.acts sha256 past = mid at hcopied herror
  obtain ⟨hwritten, hdocument⟩ := transact_error hatomic herror
  have hleaves : mid.leaves sha256 x =
      ((transact sha256 (mid.states ()) x.io mid.file request).state, none) := by
    rw [← hwritten, leaves, haction]
    rfl
  have hstates : (mid.act sha256 x).states () = (mid.leaves sha256 x).1 := states_act_self mid x
  rw [hstates, act, hleaves]
  refine ⟨rfl, ?_⟩
  dsimp only
  by_cases henabled : (mid.states ()).kv.enabled = true
  · rw [hcopied henabled] at hdocument ⊢
    rcases hdocument with heq | heq
    · exact heq
    · exact heq
  · rw [transact]
    dsimp only
    rw [if_pos (eq_false_of_ne_true henabled)]

end KvWorld

/-- What a `transact` writes can be loaded again, and one that fails leaves all as it is. -/
structure Durable (sha256 : String → String) : Prop where
  /-- What is written is valid, within the bound, and accepted by the next `load`. -/
  loads : ∀ state io file request written,
    (transact sha256 state io file request).written = some written →
    validDocument written.document written.document.stateRevision true = true ∧
    0 < written.length ∧ written.length ≤ state.kv.maximumBytes ∧
    ∀ io', io'.inspect = .ok () → io'.read = .ok () →
      KvBroker.load io' (some written) written.document.stateRevision true state.kv.maximumBytes =
        (.ok ⟨true, state.kv.maximumBytes, written.document, written.document.stateRevision,
          none, 0⟩, none)
  /-- A failure writes nothing, and the copy is as before or the document of the file. -/
  fails : ∀ state io file request e, io.Atomic →
    (transact sha256 state io file request).result = .error e →
    (transact sha256 state io file request).written = none ∧
      ((transact sha256 state io file request).state.kv.document = state.kv.document ∨
        (transact sha256 state io file request).state.kv.document = file.document)
  /-- In a clean run of one broker the copy is as before. -/
  keeps : ∀ (w : KvWorld Unit) past x request e, KvWorld.CleanRun sha256 w past →
    x.io.Atomic → Copied (w.states ()).kv w.file → x.action = .call (.transact request) →
    (transact sha256 ((w.acts sha256 past).states ()) x.io (w.acts sha256 past).file
      request).result = .error e →
    (w.acts sha256 (past ++ [x])).file = (w.acts sha256 past).file ∧
      ((w.acts sha256 (past ++ [x])).states ()).kv.document =
        ((w.acts sha256 past).states ()).kv.document

/-- **What is persisted can be loaded.** -/
theorem transact_durable (hhex : HexDigests sha256) : Durable sha256 where
  loads state io file request written h := by
    obtain ⟨hvalid, hnonempty, hbound⟩ := written_loads hhex h
    exact ⟨hvalid, hnonempty, hbound, fun io' hinspect hread =>
      load_eq_ok hinspect hread hnonempty hbound hvalid⟩
  fails state io file request e hio h := transact_error hio h
  keeps w past x request e hclean hatomic h haction herror :=
    KvWorld.error_keeps hclean hatomic h haction herror

theorem transact_durable_sample : Durable sampleSha256 := transact_durable sampleSha256_hex

/-- The first broker commits; the second has not read since. -/
def behindWorld : KvWorld Bool :=
  sampleWorld.next sampleSha256 ⟨false, allWell, .transact (putByte 1)⟩

/-- A write that expects a revision that the key has not had. -/
def misplaced : TransactionRequest := ⟨[.put ⟨"a", [3], some 5⟩], "m"⟩

/-- A `transact` that fails brings the copy of its broker up to the commit of another. -/
theorem failure_refreshes_copy :
    (transact sampleSha256 (behindWorld.states true) allWell behindWorld.file
      misplaced).result.toOption = none ∧
    (behindWorld.states true).kv.document.stateRevision = 7 ∧
    (transact sampleSha256 (behindWorld.states true) allWell behindWorld.file
      misplaced).state.kv.document.stateRevision = 8 := by
  decide +kernel

end Vibapp.ServiceRuntime
