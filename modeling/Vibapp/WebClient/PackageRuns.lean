import Mathlib.Data.List.Induction
import Vibapp.WebClient.PackageCalls

/-!
# The browser package store: runs

**The invariant** (`Inv`). The committed packages are exact, and each call awaits what its frame goes on
with: a file is put only behind its digest, a commit is that of a stage, within the limit of its store.

**Main results.** `package_store_laws`: in every run of any number of stores on one database, with any
failures, the invariant holds, a committed package is changed by its removal only, a commit keeps to the
limit of its store, and what carries a replaced token changes nothing. `commit_of_own_plan`: where the
tokens are distinct, the receipt of a commit is that of the stage's own plan, which has been committed.
-/

namespace Vibapp.PackageStore

variable {sha256Hex : ByteArray → String} {w w' : World}

/-! ## What a call awaits -/

/-- The store and the stage that a commit is made for. -/
def World.Limits (w : World) (i : Nat) (digest stageToken : String) (cacheLimitBytes : Nat) : Prop :=
  ∃ s store, w.stages[i]? = some s ∧ w.stores[s.store]? = some store ∧
    s.plan.packageDigestSha256 = digest ∧ s.stageToken = stageToken ∧
      store.cacheLimitBytes = cacheLimitBytes

/-- What stands behind each `await`. -/
inductive Awaits (sha256Hex : ByteArray → String) (w : World) : Frame → Awaited → Prop where
  | cleanup {k : Nat} {cutoffUnixMs : Int} :
    Awaits sha256Hex w (.cleanup k) (.transaction (.cleanupStaging cutoffUnixMs))
  | beginCleaned {k number : Nat} {plan : Plan} :
    Awaits sha256Hex w (.beginCleaned k plan) (.call number)
  | get {frame : Frame} {digest : String} :
    (∀ i, frame ≠ .committing i) → (∀ i e bytes, frame ≠ .writeHashed i e bytes) →
    Awaits sha256Hex w frame (.transaction (.getPackage digest))
  | replace {k : Nat} {plan : Plan} {stageToken : String} {createdAtUnixMs : Int} :
    Awaits sha256Hex w (.beginStaged k plan stageToken)
      (.transaction (.replaceStaging ⟨plan, .staging stageToken, createdAtUnixMs⟩))
  | hash {i : Nat} {expected : Descriptor} {bytes : ByteArray} :
    Awaits sha256Hex w (.writeHashed i expected bytes) (.digest bytes)
  | put {i : Nat} {expected : Descriptor} {digest stageToken : String} {bytes : ByteArray} :
    sha256Hex bytes = expected.sha256 → Awaits sha256Hex w (.writePut i expected)
      (.transaction (.putStagedFile digest stageToken expected.path
        ⟨expected.sha256, expected.sizeBytes, bytes⟩))
  | commit {i : Nat} {digest stageToken : String} {cacheLimitBytes : Nat} {now : Int} :
    w.Limits i digest stageToken cacheLimitBytes → Awaits sha256Hex w (.committing i)
      (.transaction (.commitStaging digest stageToken cacheLimitBytes now))
  | discard {frame : Frame} {digest stageToken : String} :
    (∀ i, frame ≠ .committing i) → (∀ i e bytes, frame ≠ .writeHashed i e bytes) →
    Awaits sha256Hex w frame (.transaction (.discardStaging digest stageToken))
  | read {expected : Descriptor} {digest path : String} :
    Awaits sha256Hex w (.readBytes expected) (.transaction (.readCommittedFile digest path))
  | rehash {expected : Descriptor} {bytes : ByteArray} :
    Awaits sha256Hex w (.readHashed expected bytes) (.digest bytes)
  | remove {digest : String} :
    Awaits sha256Hex w .removing (.transaction (.removeCommitted digest))

/-- The digest that a call goes on with is that of its bytes. -/
def Settles (sha256Hex : ByteArray → String) : Frame → Except String Answer → Prop
  | .writeHashed _ _ bytes, .ok (.digest digest) => digest = sha256Hex bytes
  | _, _ => True

def Call.Legit (sha256Hex : ByteArray → String) (w : World) : Call → Prop
  | .waiting frame awaited => Awaits sha256Hex w frame awaited
  | .settled frame answer => Settles sha256Hex frame answer
  | .finished _ => True

structure Inv (sha256Hex : ByteArray → String) (w : World) : Prop where
  exact : Exact sha256Hex w.db
  legit : ∀ c ∈ w.calls, c.Legit sha256Hex w

/-! ## What a step of a call changes -/

/-- The plan that a call is about to stage, under its token. -/
def Frame.carries : Frame → Option (String × Plan)
  | .beginStaged _ plan stageToken => some (stageToken, plan)
  | _ => none

def Call.carries : Call → Option (String × Plan)
  | .waiting frame _ => frame.carries
  | .settled frame _ => frame.carries
  | .finished _ => none

/-- Stages stay what they are, stores keep their limits; a new stage is the one that the call had in
hand, a new call is a cleanup. -/
structure Grows (born : Option (String × Plan)) (w w' : World) : Prop where
  db : w'.db = w.db
  stores : ∀ (k : Nat) (store : Store), w.stores[k]? = some store →
    ∃ store' : Store, w'.stores[k]? = some store' ∧ store'.cacheLimitBytes = store.cacheLimitBytes
  stages : ∀ (i : Nat) (s : Stage), w.stages[i]? = some s → ∃ s' : Stage,
    w'.stages[i]? = some s' ∧ s'.store = s.store ∧ s'.plan = s.plan ∧ s'.stageToken = s.stageToken
  stagesOf : ∀ s ∈ w'.stages, born = some (s.stageToken, s.plan) ∨
    ∃ s₀ ∈ w.stages, s₀.stageToken = s.stageToken ∧ s₀.plan = s.plan
  calls : ∃ new, w'.calls = w.calls ++ new ∧
    ∀ c ∈ new, ∃ k cutoffUnixMs, c = .waiting (.cleanup k) (.transaction (.cleanupStaging cutoffUnixMs))

theorem Grows.refl (w : World) : Grows none w w where
  db := rfl
  stores _ store h := ⟨store, h, rfl⟩
  stages _ s h := ⟨s, h, rfl, rfl, rfl⟩
  stagesOf s h := .inr ⟨s, h, rfl, rfl⟩
  calls := ⟨[], (List.append_nil _).symm, List.forall_mem_nil _⟩

theorem Grows.mono {born : Option (String × Plan)} (h : Grows none w w') : Grows born w w' :=
  { h with
    stagesOf := fun s hs => (h.stagesOf s hs).elim (fun hnone => by cases hnone) .inr }

theorem Grows.trans {w'' : World} {born : Option (String × Plan)} (h : Grows none w w')
    (h' : Grows born w' w'') : Grows born w w'' where
  db := h'.db.trans h.db
  stores k store hk := by
    obtain ⟨store', hk', hlimit⟩ := h.stores k store hk
    obtain ⟨store'', hk'', hlimit'⟩ := h'.stores k store' hk'
    exact ⟨store'', hk'', hlimit'.trans hlimit⟩
  stages i s hi := by
    obtain ⟨s', hi', hstore, hplan, htoken⟩ := h.stages i s hi
    obtain ⟨s'', hi'', hstore', hplan', htoken'⟩ := h'.stages i s' hi'
    exact ⟨s'', hi'', hstore'.trans hstore, hplan'.trans hplan, htoken'.trans htoken⟩
  stagesOf s hs := by
    rcases h'.stagesOf s hs with hborn | ⟨s₀, hs₀, htoken, hplan⟩
    · exact .inl hborn
    · rcases h.stagesOf s₀ hs₀ with hnone | ⟨s₁, hs₁, htoken', hplan'⟩
      · cases hnone
      · exact .inr ⟨s₁, hs₁, htoken'.trans htoken, hplan'.trans hplan⟩
  calls := by
    obtain ⟨new, hnew, hclean⟩ := h.calls
    obtain ⟨new', hnew', hclean'⟩ := h'.calls
    exact ⟨new ++ new', by rw [hnew', hnew, List.append_assoc],
      List.forall_mem_append.2 ⟨hclean, hclean'⟩⟩

theorem grows_setStore {k : Nat} {f : Store → Store}
    (hf : ∀ store, (f store).cacheLimitBytes = store.cacheLimitBytes) :
    Grows none w (w.setStore k f) where
  db := rfl
  stores k' store hk := by
    refine ⟨if k = k' then f store else store, ?_, ?_⟩
    · rw [World.setStore, List.getElem?_modify, hk]
      rfl
    · split
      · exact hf store
      · rfl
  stages := (Grows.refl w).stages
  stagesOf := (Grows.refl w).stagesOf
  calls := (Grows.refl w).calls

theorem grows_setStage {i : Nat} {f : Stage → Stage} (hstore : ∀ s, (f s).store = s.store)
    (hplan : ∀ s, (f s).plan = s.plan) (htoken : ∀ s, (f s).stageToken = s.stageToken) :
    Grows none w (w.setStage i f) where
  db := rfl
  stores := (Grows.refl w).stores
  stages j s hj := by
    refine ⟨if i = j then f s else s, ?_, ?_⟩
    · rw [World.setStage, List.getElem?_modify, hj]
      rfl
    · split
      · exact ⟨hstore s, hplan s, htoken s⟩
      · exact ⟨rfl, rfl, rfl⟩
  stagesOf s hs := by
    obtain ⟨j, hj⟩ := List.mem_iff_getElem?.1 hs
    rw [World.setStage, List.getElem?_modify] at hj
    obtain ⟨s₀, hs₀, hs⟩ := Option.map_eq_some_iff.1 hj
    refine .inr ⟨s₀, List.mem_of_getElem? hs₀, ?_⟩
    rw [← hs]
    split
    · exact ⟨(htoken s₀).symm, (hplan s₀).symm⟩
    · exact ⟨rfl, rfl⟩
  calls := (Grows.refl w).calls

theorem grows_closeStage {i : Nat} {s : Stage} : Grows none w (w.closeStage i s) := by
  have hstage := @grows_setStage w i (fun s => { s with terminal := true }) (fun _ => rfl)
    (fun _ => rfl) fun _ => rfl
  refine hstage.trans (grows_setStore fun store => ?_)
  split <;> rfl

theorem World.Limits.grows {i : Nat} {digest stageToken : String} {cacheLimitBytes : Nat}
    {born : Option (String × Plan)} (h : Grows born w w')
    (hlimits : w.Limits i digest stageToken cacheLimitBytes) :
    w'.Limits i digest stageToken cacheLimitBytes := by
  obtain ⟨s, store, hs, hstore, hdigest, htoken, hlimit⟩ := hlimits
  obtain ⟨s', hs', hsame, hplan, htoken'⟩ := h.stages i s hs
  obtain ⟨store', hstore', hlimit'⟩ := h.stores s.store store hstore
  exact ⟨s', store', hs', hsame ▸ hstore', hplan ▸ hdigest, htoken'.trans htoken,
    hlimit'.trans hlimit⟩

theorem Call.Legit.mono {c : Call} (hlimits : ∀ {i digest stageToken cacheLimitBytes},
    w.Limits i digest stageToken cacheLimitBytes → w'.Limits i digest stageToken cacheLimitBytes)
    (hc : c.Legit sha256Hex w) : c.Legit sha256Hex w' := by
  cases c with
  | waiting frame awaited =>
    cases hc with
    | cleanup => exact .cleanup
    | beginCleaned => exact .beginCleaned
    | get hcommit hhash => exact .get hcommit hhash
    | replace => exact .replace
    | hash => exact .hash
    | put hbytes => exact .put hbytes
    | commit hlimit => exact .commit (hlimits hlimit)
    | discard hcommit hhash => exact .discard hcommit hhash
    | read => exact .read
    | rehash => exact .rehash
    | remove => exact .remove
  | settled frame answer => exact hc
  | finished value => trivial

/-- A call goes on to what its new frame awaits. -/
structure Continues (sha256Hex : ByteArray → String) (born : Option (String × Plan))
    (stageToken : Option String) (w : World) (r : World × Call) : Prop where
  grows : Grows born w r.1
  legit : r.2.Legit sha256Hex r.1
  fresh : ∀ carried ∈ r.2.carries, some carried.1 = stageToken
  unsettled : ∀ frame answer, r.2 ≠ .settled frame answer

variable {born : Option (String × Plan)} {given : Option String}

theorem continues_finished {value : Except String Value} (h : Grows none w w') :
    Continues sha256Hex born given w (w', .finished value) :=
  ⟨h.mono, trivial, fun _ hcarried => (by cases hcarried), fun _ _ h => by cases h⟩

theorem continues_waiting {frame : Frame} {awaited : Awaited} (h : Grows none w w')
    (hawaits : Awaits sha256Hex w' frame awaited) (hcarries : frame.carries = none) :
    Continues sha256Hex born given w (w', .waiting frame awaited) :=
  ⟨h.mono, hawaits, fun carried hcarried => absurd (hcarries.symm.trans hcarried) nofun,
    fun _ _ h => by cases h⟩

theorem continues_abort {i : Nat} {s : Stage} {frame : Frame} {otherwise : Except String Value}
    (hcommit : ∀ i, frame ≠ .committing i) (hhash : ∀ i e bytes, frame ≠ .writeHashed i e bytes)
    (hcarries : frame.carries = none) :
    Continues sha256Hex born given w (w.abort i s frame otherwise) := by
  unfold World.abort
  split
  · exact continues_finished (.refl w)
  · exact continues_waiting grows_closeStage (.discard hcommit hhash) hcarries

theorem continues_onStage {i : Nat} {f : Stage → World × Call}
    (hf : ∀ s, w.stages[i]? = some s → Continues sha256Hex born given w (f s)) :
    Continues sha256Hex born given w (w.onStage i f) := by
  unfold World.onStage
  split
  · exact continues_finished (.refl w)
  · rename_i s hs
    exact hf s hs

theorem continues_onStore {k : Nat} {f : Store → World × Call}
    (hf : ∀ store, w.stores[k]? = some store → Continues sha256Hex born given w (f store)) :
    Continues sha256Hex born given w (w.onStore k f) := by
  unfold World.onStore
  split
  · exact continues_finished (.refl w)
  · rename_i store hstore
    exact hf store hstore

/-! ### The methods -/

theorem grows_cleanup {k : Nat} {store : Store} {now : Int} :
    Grows none w (w.cleanup k store now).1 := by
  unfold World.cleanup
  split
  · exact .refl w
  · have hset := @grows_setStore w k
      (fun store => { store with cleanupPromise := some w.calls.length }) fun _ => rfl
    exact { hset with
      calls := ⟨_, rfl, List.forall_mem_singleton.2 ⟨k, now - store.stagingTtlMs, rfl⟩⟩ }

theorem continues_begin {k : Nat} {input : PlanInput} {now : Int} :
    Continues sha256Hex none none w (w.begin k input now) := by
  refine continues_onStore fun store _ => ?_
  split
  · exact continues_finished (.refl w)
  · split
    · exact continues_finished (.refl w)
    · exact continues_waiting grows_cleanup .beginCleaned rfl

theorem continues_writeFile {i : Nat} {file : StagedFile} :
    Continues sha256Hex none none w (w.writeFile i file) := by
  refine continues_onStage fun s _ => ?_
  split
  · exact continues_abort (fun _ h => by cases h) (fun _ _ _ h => by cases h) rfl
  · exact continues_waiting (.refl w) .hash rfl

theorem continues_commit {i : Nat} {now : Int} :
    Continues sha256Hex none none w (w.commit i now) := by
  refine continues_onStage fun s hs => ?_
  split
  · exact continues_finished (.refl w)
  · split
    · exact continues_abort (fun _ h => by cases h) (fun _ _ _ h => by cases h) rfl
    · refine continues_onStore fun store hstore => ?_
      exact continues_waiting (.refl w) (.commit ⟨s, store, hs, hstore, rfl, rfl, rfl⟩) rfl

theorem continues_remove {k : Nat} {digest : String} :
    Continues sha256Hex none none w (w.remove k digest) := by
  unfold World.remove
  split
  · exact continues_finished (.refl w)
  · refine continues_onStore fun store _ => ?_
    split
    · exact continues_finished (.refl w)
    · exact continues_waiting (.refl w) .remove rfl

theorem continues_closeNext {k : Nat} {rest : List String} (h : Grows none w w') :
    Continues sha256Hex born given w (w'.closeNext k rest) := by
  cases rest with
  | nil => exact continues_finished h
  | cons digest rest =>
    exact continues_waiting h (.get (fun _ h => by cases h) fun _ _ _ h => by cases h) rfl

/-- **A call that is made.** -/
theorem continues_start (now : Int) (operation : Operation) :
    Continues sha256Hex none none w (w.start now operation) := by
  cases operation with
  | begin k input => exact continues_begin
  | writeFile handle file =>
    cases handle with
    | alreadyCommitted receipt => exact continues_finished (.refl w)
    | stage i => exact continues_writeFile
  | commit handle =>
    cases handle with
    | alreadyCommitted receipt => exact continues_finished (.refl w)
    | stage i => exact continues_commit
  | abort handle =>
    cases handle with
    | alreadyCommitted receipt => exact continues_finished (.refl w)
    | stage i =>
      exact continues_onStage fun s _ =>
        continues_abort (fun _ h => by cases h) (fun _ _ _ h => by cases h) rfl
  | getReceipt digest =>
    simp only [World.start]
    split
    · exact continues_finished (.refl w)
    · exact continues_waiting (.refl w)
        (.get (fun _ h => by cases h) fun _ _ _ h => by cases h) rfl
  | readFile digest path =>
    simp only [World.start]
    split
    · exact continues_finished (.refl w)
    · split
      · exact continues_finished (.refl w)
      · exact continues_waiting (.refl w)
          (.get (fun _ h => by cases h) fun _ _ _ h => by cases h) rfl
  | remove k digest => exact continues_remove
  | close k => exact continues_onStore fun store _ => continues_closeNext (.refl w)

theorem continues_beginFound {k : Nat} {plan : Plan} {existing : Option Package} {now : Int}
    {stageToken : String} : Continues sha256Hex born (some stageToken) w
      (w.beginFound k plan existing now stageToken) := by
  unfold World.beginFound
  split
  · split
    · exact continues_finished (.refl w)
    · exact continues_finished (.refl w)
  · refine ⟨(Grows.refl w).mono, .replace, fun carried hcarried => ?_, fun _ _ h => by cases h⟩
    cases hcarried
    rfl

theorem continues_beginStaged {k : Nat} {plan : Plan} {stageToken : String} :
    Continues sha256Hex (some (stageToken, plan)) given w (w.beginStaged k plan stageToken) := by
  have hset := @grows_setStore w k (fun store => { store with
    activeStages := store.activeStages.set plan.packageDigestSha256 w.stages.length }) fun _ => rfl
  refine ⟨{ hset with stages := fun i s hs => ?_, stagesOf := fun s hs => ?_ }, trivial,
    fun _ hcarried => (by cases hcarried), fun _ _ h => by cases h⟩
  · refine ⟨s, ?_, rfl, rfl, rfl⟩
    exact (List.getElem?_append_left (List.getElem?_eq_some_iff.1 hs).1).trans hs
  · rcases List.mem_append.1 hs with hs | hs
    · exact .inr ⟨s, hs, rfl, rfl⟩
    · cases List.mem_singleton.1 hs
      exact .inl rfl

theorem continues_writeHashed {i : Nat} {expected : Descriptor} {bytes : ByteArray} :
    Continues sha256Hex born given w (w.writeHashed i expected bytes (sha256Hex bytes)) := by
  refine continues_onStage fun s _ => ?_
  split
  · exact continues_abort (fun _ h => by cases h) (fun _ _ _ h => by cases h) rfl
  · rename_i hdigest
    exact continues_waiting (.refl w) (.put (not_not.1 hdigest)) rfl

theorem continues_readFound {digest path : String} {value : Option Package} :
    Continues sha256Hex born given w (w.readFound digest path value) := by
  unfold World.readFound
  split
  · exact continues_finished (.refl w)
  · split
    · exact continues_finished (.refl w)
    · exact continues_waiting (.refl w) .read rfl

theorem continues_closeFound {k : Nat} {digest : String} {rest : List String}
    {value : Option Package} :
    Continues sha256Hex born given w (w.closeFound k digest rest value) := by
  unfold World.closeFound
  split
  · exact continues_waiting (.refl w)
      (.discard (fun _ h => by cases h) fun _ _ _ h => by cases h) rfl
  · exact continues_closeNext (grows_setStore fun _ => rfl)

theorem continues_failed {i : Nat} {error : String} {frame : Frame}
    (hcommit : ∀ i, frame ≠ .committing i) (hhash : ∀ i e bytes, frame ≠ .writeHashed i e bytes)
    (hcarries : frame.carries = none) :
    Continues sha256Hex born given w
      (w.onStage i fun s => w.abort i s frame (.error error)) :=
  continues_onStage fun _ _ => continues_abort hcommit hhash hcarries

/-- **A call that goes on.** -/
theorem continues_resume (now : Int) (stageToken : String) {frame : Frame}
    {answer : Except String Answer} (h : Settles sha256Hex frame answer) :
    Continues sha256Hex frame.carries (some stageToken) w
      (w.resume now stageToken frame answer) := by
  unfold World.resume
  split
  · exact continues_finished (grows_setStore fun _ => rfl)
  · exact continues_waiting (.refl w) (.get (fun _ h => by cases h) fun _ _ _ h => by cases h) rfl
  · exact continues_beginFound
  · exact continues_beginStaged
  · rw [show _ = sha256Hex _ from h]
    exact continues_writeHashed
  · exact continues_failed (fun _ h => by cases h) (fun _ _ _ h => by cases h) rfl
  · exact continues_finished (grows_setStage (fun _ => rfl) (fun _ => rfl) fun _ => rfl)
  · exact continues_failed (fun _ h => by cases h) (fun _ _ _ h => by cases h) rfl
  · exact continues_onStage fun _ _ => continues_finished grows_closeStage
  · exact continues_failed (fun _ h => by cases h) (fun _ _ _ h => by cases h) rfl
  · exact continues_finished (.refl w)
  · exact continues_finished (.refl w)
  · exact continues_finished (.refl w)
  · exact continues_finished (.refl w)
  · exact continues_readFound
  · split
    · exact continues_finished (.refl w)
    · exact continues_waiting (.refl w) .rehash rfl
  · split
    · exact continues_finished (.refl w)
    · exact continues_finished (.refl w)
  · exact continues_finished (.refl w)
  · exact continues_closeFound
  · exact continues_closeNext (grows_setStore fun _ => rfl)
  · exact continues_finished (.refl w)
  · exact continues_finished (.refl w)

/-! ## One step -/

theorem Awaits.verified {frame : Frame} {t : Transaction}
    (h : Awaits sha256Hex w frame (.transaction t)) : t.Verified sha256Hex := by
  cases h with
  | put hbytes => exact hbytes
  | replace => rfl
  | _ => trivial

/-- What the step of a call leaves. -/
theorem Inv.continues {r : World × Call} (h : Inv sha256Hex w)
    (hr : Continues sha256Hex born given w r) {calls : List Call}
    (hcalls : ∀ c ∈ calls, c ∈ r.1.calls ∨ c = r.2) :
    Inv sha256Hex { r.1 with calls := calls } where
  exact := by
    show Exact sha256Hex r.1.db
    rw [hr.grows.db]
    exact h.exact
  legit c hc := by
    refine Call.Legit.mono (w := r.1) (fun hlimits => hlimits) ?_
    rcases hcalls c hc with hold | rfl
    · obtain ⟨new, hnew, hclean⟩ := hr.grows.calls
      rw [hnew] at hold
      rcases List.mem_append.1 hold with hold | hmem
      · exact (h.legit c hold).mono fun hlimits => hlimits.grows hr.grows
      · obtain ⟨k, cutoffUnixMs, rfl⟩ := hclean c hmem
        exact .cleanup
    · exact hr.legit

theorem settles_reply {frame : Frame} {reply : Reply} :
    Settles sha256Hex frame (.ok (.reply reply)) := by
  cases frame <;> trivial

theorem settles_error {frame : Frame} {error : String} :
    Settles sha256Hex frame (.error error) := by
  cases frame <;> trivial

/-- A call that settles. -/
theorem Inv.setCall (h : Inv sha256Hex w) {n : Nat} {frame : Frame}
    {answer : Except String Answer} (hsettles : Settles sha256Hex frame answer) :
    Inv sha256Hex (w.setCall n (.settled frame answer)) where
  exact := h.exact
  legit c hc := by
    rcases List.mem_or_eq_of_mem_set hc with hold | rfl
    · exact Call.Legit.mono (w := w) (fun hlimits => hlimits) (h.legit c hold)
    · exact hsettles

theorem Inv.settle (h : Inv sha256Hex w) (n : Nat) : Inv sha256Hex (w.settle sha256Hex n) := by
  unfold World.settle
  split
  · rename_i frame t hcall
    have hawaits : Awaits sha256Hex w frame (.transaction t) :=
      h.legit _ (List.mem_of_getElem? hcall)
    split
    · rename_i db reply hperform
      have hdb : Inv sha256Hex { w with db := db } :=
        ⟨h.exact.perform hawaits.verified hperform, fun c hc =>
          Call.Legit.mono (w := w) (fun hlimits => hlimits) (h.legit c hc)⟩
      exact hdb.setCall settles_reply
    · exact h.setCall settles_error
  · rename_i frame bytes hcall
    refine h.setCall ?_
    cases h.legit _ (List.mem_of_getElem? hcall) with
    | hash => rfl
    | rehash => trivial
  · rename_i frame k hcall
    split
    · rename_i value hvalue
      refine h.setCall ?_
      cases h.legit _ (List.mem_of_getElem? hcall)
      cases value <;> trivial
    · exact h
  · exact h

theorem Inv.reject (h : Inv sha256Hex w) (n : Nat) (error : String) :
    Inv sha256Hex (w.reject n error) := by
  unfold World.reject
  split
  · exact h.setCall settles_error
  · exact h.setCall settles_error
  · exact h

/-- **The step lemma.** -/
theorem Inv.next (h : Inv sha256Hex w) (e : Event) : Inv sha256Hex (w.next sha256Hex e) := by
  cases e with
  | create cacheLimitBytes stagingTtlMs =>
    unfold World.next
    dsimp only
    split
    · rename_i store _
      refine ⟨h.exact, fun c hc => (h.legit c hc).mono ?_⟩
      rintro i digest stageToken cacheLimitBytes ⟨s, store', hs, hstore', hrest⟩
      refine ⟨s, store', hs, ?_, hrest⟩
      exact (List.getElem?_append_left (List.getElem?_eq_some_iff.1 hstore').1).trans hstore'
    · exact h
  | call operation now =>
    refine h.continues (continues_start now operation) fun c hc => ?_
    exact (List.mem_append.1 hc).imp id List.mem_singleton.1
  | settle n => exact h.settle n
  | reject n error => exact h.reject n error
  | resume n now stageToken =>
    unfold World.next
    dsimp only
    split
    · rename_i frame answer hcall
      exact h.continues
        (continues_resume now stageToken (h.legit _ (List.mem_of_getElem? hcall)))
        fun c hc => List.mem_or_eq_of_mem_set hc
    · exact h

theorem inv_empty : Inv sha256Hex World.empty where
  exact := {
    named := fun d p hp => by cases hp
    planned := fun d path value hvalue => by cases hvalue
    complete := fun d p hp => by cases hp }
  legit := List.forall_mem_nil _

/-- **The run lemma.** -/
theorem Inv.after (h : Inv sha256Hex w) (events : List Event) :
    Inv sha256Hex (w.after sha256Hex events) := by
  induction events generalizing w with
  | nil => exact h
  | cons e events ih => exact ih (h.next e)

/-! ## What a step does to the database -/

/-- The database changes by the transactions only. -/
theorem db_next (hinv : Inv sha256Hex w) (e : Event) :
    (w.next sha256Hex e).db = w.db ∨
      ∃ n frame t reply, e = .settle n ∧ w.calls[n]? = some (.waiting frame (.transaction t)) ∧
        perform w.db t = .ok ((w.next sha256Hex e).db, reply) := by
  cases e with
  | create cacheLimitBytes stagingTtlMs =>
    left
    unfold World.next
    dsimp only
    split <;> rfl
  | call operation now => exact .inl (@continues_start sha256Hex w now operation).grows.db
  | settle n =>
    unfold World.next World.settle
    dsimp only
    split
    · rename_i frame t hcall
      split
      · rename_i db reply hperform
        exact .inr ⟨n, frame, t, reply, rfl, hcall, hperform⟩
      · exact .inl rfl
    · exact .inl rfl
    · split
      · exact .inl rfl
      · exact .inl rfl
    · exact .inl rfl
  | reject n error =>
    left
    unfold World.next World.reject
    dsimp only
    split <;> rfl
  | resume n now stageToken =>
    left
    unfold World.next
    dsimp only
    split
    · rename_i frame answer hcall
      exact (continues_resume now stageToken
        (hinv.legit _ (List.mem_of_getElem? hcall))).grows.db
    · rfl

/-- What any step keeps to. -/
structure Lawful (w : World) (e : Event) (w' : World) : Prop where
  stays : ∀ d p, w.db.package? d = some p → p.isCommitted = true →
    (w'.db.package? d = some p ∧ ∀ path, w'.db.file? d path = w.db.file? d path) ∨
      ∃ n, e = .settle n ∧
        w.calls[n]? = some (.waiting .removing (.transaction (.removeCommitted d)))
  limit : ∀ d p, w'.db.package? d = some p → p.isCommitted = true → w.db.package? d ≠ some p →
    ∃ n i s store now, e = .settle n ∧ w.stages[i]? = some s ∧ w.stores[s.store]? = some store ∧
      w.calls[n]? = some (.waiting (.committing i) (.transaction (.commitStaging
        s.plan.packageDigestSha256 s.stageToken store.cacheLimitBytes now))) ∧
      s.plan.packageDigestSha256 = d ∧ w'.db.cachedBytes ≤ store.cacheLimitBytes
  stale : ∀ n frame t digest stageToken, e = .settle n →
    w.calls[n]? = some (.waiting frame (.transaction t)) →
    t.carries = some (digest, stageToken) → ¬ w.db.Stages digest stageToken → w'.db = w.db

theorem lawful_of_same {e : Event} (h : w'.db = w.db) : Lawful w e w' where
  stays d p hp _ := .inl (by rw [h]; exact ⟨hp, fun _ => rfl⟩)
  limit d p hp _ hnew := absurd (h ▸ hp) hnew
  stale _ _ _ _ _ _ _ _ _ := h

theorem lawful_next (hinv : Inv sha256Hex w) (e : Event) :
    Lawful w e (w.next sha256Hex e) := by
  rcases db_next hinv e with hsame | ⟨n, frame, t, reply, rfl, hcall, hperform⟩
  · exact lawful_of_same hsame
  · have hawaits : Awaits sha256Hex w frame (.transaction t) :=
      hinv.legit _ (List.mem_of_getElem? hcall)
    refine ⟨fun d p hp hcommitted => ?_, fun d p hp hcommitted hnew => ?_, ?_⟩
    · by_cases hremove : t = .removeCommitted d
      · subst hremove
        cases hawaits
        exact .inr ⟨n, rfl, hcall⟩
      · exact .inl (perform_committed hinv.exact hperform hp hcommitted hremove)
    · obtain ⟨⟨stageToken, cacheLimitBytes, now, createdAtUnixMs, rfl, -, -, hlimit⟩, hstored⟩ :=
        perform_commits hinv.exact hawaits.verified hperform hp hcommitted hnew
      have hname := (hinv.exact.perform hawaits.verified hperform).named d p hp
      cases hawaits with
      | commit hlimits =>
        obtain ⟨s, store, hs, hstore, hdigest, rfl, rfl⟩ := hlimits
        rw [← hdigest] at hcall
        exact ⟨n, _, s, store, now, rfl, hs, hstore, hcall, hdigest.trans hname, hlimit⟩
    · intro n' frame' t' digest stageToken hsettle hcall' hcarries hstale
      cases hsettle
      rw [hcall] at hcall'
      cases hcall'
      exact perform_stale hcarries hstale hperform

/-! ## Tokens -/

def Event.token : Event → Option String
  | .resume _ _ stageToken => some stageToken
  | _ => none

/-- The token stands for the plan: in a stage, in a call that is about to make one, or in a row. -/
def World.Carries (w : World) (stageToken : String) (plan : Plan) : Prop :=
  (∃ s ∈ w.stages, s.stageToken = stageToken ∧ s.plan = plan) ∨
    (∃ c ∈ w.calls, c.carries = some (stageToken, plan)) ∨
    ∃ d p, w.db.package? d = some p ∧ p.state = .staging stageToken ∧ p.plan = plan

theorem staging_of_perform {db db' : Database} {t : Transaction} {reply : Reply}
    (h : perform db t = .ok (db', reply)) {d stageToken : String} {p : Package}
    (hp : db'.package? d = some p) (hstate : p.state = .staging stageToken) :
    db.package? d = some p ∨ t = .replaceStaging p := by
  cases change_of_perform h with
  | none => exact .inl hp
  | delete =>
    rw [package?_delete] at hp
    split at hp
    · cases hp
    · exact .inl hp
  | stage =>
    rw [Database.package?_putPackage] at hp
    split at hp
    · cases hp
      exact .inr rfl
    · exact .inl hp
  | write => exact .inl hp
  | commit =>
    rw [Database.package?_putPackage] at hp
    split at hp
    · cases hp
      cases hstate
    · exact .inl hp

/-- What a call carries after its step is what was carried, or what it has just drawn. -/
theorem carries_continues {r : World × Call} (hr : Continues sha256Hex born given w r)
    (hborn : ∀ b ∈ born, ∃ c ∈ w.calls, c.carries = some b) {calls : List Call}
    (hcalls : ∀ c ∈ calls, c ∈ r.1.calls ∨ c = r.2) {stageToken : String} {plan : Plan}
    (h : World.Carries { r.1 with calls := calls } stageToken plan) :
    w.Carries stageToken plan ∨ r.2.carries = some (stageToken, plan) := by
  rcases h with ⟨s, hs, rfl, rfl⟩ | ⟨c, hc, hcarries⟩ | ⟨d, p, hp, hstate, hplan⟩
  · rcases hr.grows.stagesOf s hs with hborn' | ⟨s₀, hs₀, htoken, hplan⟩
    · exact .inl (.inr (.inl (hborn _ hborn')))
    · exact .inl (.inl ⟨s₀, hs₀, htoken, hplan⟩)
  · rcases hcalls c hc with hold | rfl
    · obtain ⟨new, hnew, hclean⟩ := hr.grows.calls
      rw [hnew] at hold
      rcases List.mem_append.1 hold with hold | hmem
      · exact .inl (.inr (.inl ⟨c, hold, hcarries⟩))
      · obtain ⟨k, cutoffUnixMs, rfl⟩ := hclean c hmem
        cases hcarries
    · exact .inr hcarries
  · have hp' : w.db.package? d = some p := hr.grows.db ▸ hp
    exact .inl (.inr (.inr ⟨d, p, hp', hstate, hplan⟩))

/-- What a call carries, it carries when it has settled. -/
theorem carries_setCall {n : Nat} {frame : Frame} {awaited : Awaited}
    {answer : Except String Answer} (hcall : w.calls[n]? = some (.waiting frame awaited))
    {stageToken : String} {plan : Plan}
    (h : (w.setCall n (.settled frame answer)).Carries stageToken plan) :
    w.Carries stageToken plan := by
  rcases h with hs | ⟨c, hc, hcarries⟩ | hrow
  · exact .inl hs
  · rcases List.mem_or_eq_of_mem_set hc with hold | rfl
    · exact .inr (.inl ⟨c, hold, hcarries⟩)
    · exact .inr (.inl ⟨_, List.mem_of_getElem? hcall, hcarries⟩)
  · exact .inr (.inr hrow)

/-- **Where tokens come from.** A step lets at most one token stand for one more plan, the token that
it has drawn. -/
theorem carries_next (hinv : Inv sha256Hex w) (e : Event) :
    ∃ new : Option (String × Plan), (∀ b ∈ new, some b.1 = e.token) ∧
      ∀ stageToken plan, (w.next sha256Hex e).Carries stageToken plan →
        w.Carries stageToken plan ∨ new = some (stageToken, plan) := by
  have hnone : ∀ {w' : World}, (∀ stageToken plan, w'.Carries stageToken plan →
      w.Carries stageToken plan) → ∃ new : Option (String × Plan),
        (∀ b ∈ new, some b.1 = e.token) ∧ ∀ stageToken plan, w'.Carries stageToken plan →
          w.Carries stageToken plan ∨ new = some (stageToken, plan) :=
    fun h => ⟨none, fun _ hb => (by cases hb), fun stageToken plan hc =>
      .inl (h stageToken plan hc)⟩
  cases e with
  | create cacheLimitBytes stagingTtlMs =>
    apply hnone
    intro stageToken plan h
    unfold World.next at h
    dsimp only at h
    split at h
    · exact h
    · exact h
  | call operation now =>
    have hr := @continues_start sha256Hex w now operation
    refine ⟨_, fun b hb => hr.fresh b hb, fun stageToken plan h => ?_⟩
    exact carries_continues hr (fun _ hb => by cases hb)
      (fun c hc => (List.mem_append.1 hc).imp id List.mem_singleton.1) h
  | settle n =>
    apply hnone
    intro stageToken plan h
    unfold World.next World.settle at h
    dsimp only at h
    split at h
    · rename_i frame t hcall
      split at h
      · rename_i db reply hperform
        have hdb : World.Carries { w with db := db } stageToken plan :=
          carries_setCall (w := { w with db := db }) hcall h
        rcases hdb with hs | hc | ⟨d, p, hp, hstate, rfl⟩
        · exact .inl hs
        · exact .inr (.inl hc)
        · rcases staging_of_perform hperform hp hstate with hold | rfl
          · exact .inr (.inr ⟨d, p, hold, hstate, rfl⟩)
          · -- the row is the one that the call carried
            cases hinv.legit _ (List.mem_of_getElem? hcall)
            cases hstate
            exact .inr (.inl ⟨_, List.mem_of_getElem? hcall, rfl⟩)
      · exact carries_setCall hcall h
    · rename_i frame bytes hcall
      exact carries_setCall hcall h
    · rename_i frame k hcall
      split at h
      · exact carries_setCall hcall h
      · exact h
    · exact h
  | reject n error =>
    apply hnone
    intro stageToken plan h
    unfold World.next World.reject at h
    dsimp only at h
    split at h
    · rename_i frame t hcall
      exact carries_setCall hcall h
    · rename_i frame bytes hcall
      exact carries_setCall hcall h
    · exact h
  | resume n now token =>
    unfold World.next
    dsimp only
    split
    · rename_i frame answer hcall
      have hmem := List.mem_of_getElem? hcall
      have hr := continues_resume (w := w) now token (hinv.legit _ hmem)
      refine ⟨_, fun b hb => hr.fresh b hb, fun stageToken plan h => ?_⟩
      exact carries_continues hr (fun b hb => ⟨_, hmem, hb⟩)
        (fun c hc => List.mem_or_eq_of_mem_set hc) h
    · exact hnone fun _ _ h => h

/-- Every token is one of those drawn, and stands for one plan. -/
structure Owned (drawn : List String) (w : World) : Prop where
  drawn : ∀ stageToken plan, w.Carries stageToken plan → stageToken ∈ drawn
  unique : ∀ stageToken plan plan', w.Carries stageToken plan → w.Carries stageToken plan' →
    plan = plan'

theorem Owned.next {drawn : List String} (h : Owned drawn w) (hinv : Inv sha256Hex w) {e : Event}
    (hfresh : ∀ stageToken ∈ e.token, stageToken ∉ drawn) :
    Owned (drawn ++ e.token.toList) (w.next sha256Hex e) := by
  obtain ⟨new, htoken, hnew⟩ := carries_next hinv e
  -- what is new has a token that no other plan has
  have happart : ∀ stageToken plan plan', w.Carries stageToken plan →
      new ≠ some (stageToken, plan') := by
    rintro stageToken plan plan' hold rfl
    exact hfresh stageToken (htoken _ rfl).symm (h.drawn stageToken plan hold)
  refine ⟨fun stageToken plan hc => ?_, fun stageToken plan plan' hc hc' => ?_⟩
  · rcases hnew stageToken plan hc with hold | rfl
    · exact List.mem_append_left _ (h.drawn stageToken plan hold)
    · refine List.mem_append_right _ ?_
      rw [← htoken _ rfl]
      exact List.mem_singleton_self stageToken
  · rcases hnew stageToken plan hc with hold | hborn
    · rcases hnew stageToken plan' hc' with hold' | hborn'
      · exact h.unique stageToken plan plan' hold hold'
      · exact absurd hborn' (happart stageToken plan plan' hold)
    · rcases hnew stageToken plan' hc' with hold' | hborn'
      · exact absurd hborn (happart stageToken plan' plan hold')
      · rw [hborn] at hborn'
        cases hborn'
        rfl

/-! ## Receipts -/

theorem after_concat (w : World) (events : List Event) (e : Event) :
    w.after sha256Hex (events ++ [e]) = (w.after sha256Hex events).next sha256Hex e :=
  List.foldl_concat ..

/-- A commit that has been told of its package: it is that of the stage, and was committed. -/
def Told (sha256Hex : ByteArray → String) (events : List Event) (w : World) : Prop :=
  ∀ i p, Call.settled (.committing i) (.ok (.reply (.committed p))) ∈ w.calls →
    ∃ s earlier, w.stages[i]? = some s ∧ p.plan = s.plan ∧ p.isCommitted = true ∧
      earlier <+: events ∧ (World.empty.after sha256Hex earlier).db.package?
        s.plan.packageDigestSha256 = some p

/-- Stages are kept, with their plans. -/
theorem stages_next (hinv : Inv sha256Hex w) (e : Event) {i : Nat} {s : Stage}
    (hs : w.stages[i]? = some s) :
    ∃ s', (w.next sha256Hex e).stages[i]? = some s' ∧ s'.plan = s.plan := by
  have hkeep : ∀ {born} {w' : World}, Grows born w w' →
      ∃ s', w'.stages[i]? = some s' ∧ s'.plan = s.plan := by
    intro born w' h
    obtain ⟨s', hs', -, hplan, -⟩ := h.stages i s hs
    exact ⟨s', hs', hplan⟩
  cases e with
  | create cacheLimitBytes stagingTtlMs =>
    unfold World.next
    dsimp only
    split <;> exact ⟨s, hs, rfl⟩
  | call operation now =>
    have hlast := hkeep (@continues_start sha256Hex w now operation).grows
    exact hlast
  | settle n =>
    unfold World.next World.settle
    dsimp only
    split
    · split <;> exact ⟨s, hs, rfl⟩
    · exact ⟨s, hs, rfl⟩
    · split <;> exact ⟨s, hs, rfl⟩
    · exact ⟨s, hs, rfl⟩
  | reject n error =>
    unfold World.next World.reject
    dsimp only
    split <;> exact ⟨s, hs, rfl⟩
  | resume n now stageToken =>
    unfold World.next
    dsimp only
    split
    · rename_i frame answer hcall
      have hlast := hkeep (continues_resume (w := w) now stageToken
        (hinv.legit _ (List.mem_of_getElem? hcall))).grows
      exact hlast
    · exact ⟨s, hs, rfl⟩

/-- A commit is told of its package by its transaction. -/
theorem told_next (hinv : Inv sha256Hex w) (e : Event) {i : Nat} {p : Package}
    (h : Call.settled (.committing i) (.ok (.reply (.committed p))) ∈
      (w.next sha256Hex e).calls) :
    Call.settled (.committing i) (.ok (.reply (.committed p))) ∈ w.calls ∨
      ∃ n t, e = .settle n ∧ w.calls[n]? = some (.waiting (.committing i) (.transaction t)) ∧
        perform w.db t = .ok ((w.next sha256Hex e).db, .committed p) := by
  have hgrown : ∀ {born given} {r : World × Call} {calls : List Call},
      Continues sha256Hex born given w r → (∀ c ∈ calls, c ∈ r.1.calls ∨ c = r.2) →
      Call.settled (.committing i) (.ok (.reply (.committed p))) ∈ calls →
      Call.settled (.committing i) (.ok (.reply (.committed p))) ∈ w.calls := by
    intro born given r calls hr hcalls hmem
    rcases hcalls _ hmem with hold | hlast
    · obtain ⟨new, hnew, hclean⟩ := hr.grows.calls
      rw [hnew] at hold
      rcases List.mem_append.1 hold with hold | hborn
      · exact hold
      · obtain ⟨k, cutoffUnixMs, hwaiting⟩ := hclean _ hborn
        cases hwaiting
    · exact absurd hlast.symm (hr.unsettled _ _)
  cases e with
  | create cacheLimitBytes stagingTtlMs =>
    unfold World.next at h
    dsimp only at h
    split at h <;> exact .inl h
  | call operation now =>
    exact .inl (hgrown (continues_start now operation)
      (fun c hc => (List.mem_append.1 hc).imp id List.mem_singleton.1) h)
  | settle n =>
    unfold World.next World.settle at h
    dsimp only at h
    split at h
    · rename_i frame t hcall
      split at h
      · rename_i db reply hperform
        rcases List.mem_or_eq_of_mem_set h with hold | hnew
        · exact .inl hold
        · cases hnew
          refine .inr ⟨n, t, rfl, hcall, ?_⟩
          rw [World.next, World.settle, hcall]
          dsimp only
          rw [hperform]
          rfl
      · rcases List.mem_or_eq_of_mem_set h with hold | hnew
        · exact .inl hold
        · cases hnew
    · rcases List.mem_or_eq_of_mem_set h with hold | hnew
      · exact .inl hold
      · cases hnew
    · split at h
      · rcases List.mem_or_eq_of_mem_set h with hold | hnew
        · exact .inl hold
        · rename_i value _
          cases value <;> cases hnew
      · exact .inl h
    · exact .inl h
  | reject n error =>
    unfold World.next World.reject at h
    dsimp only at h
    split at h
    · rcases List.mem_or_eq_of_mem_set h with hold | hnew
      · exact .inl hold
      · cases hnew
    · rcases List.mem_or_eq_of_mem_set h with hold | hnew
      · exact .inl hold
      · cases hnew
    · exact .inl h
  | resume n now stageToken =>
    unfold World.next at h
    dsimp only at h
    split at h
    · rename_i frame answer hcall
      exact .inl (hgrown
        (continues_resume (w := w) now stageToken (hinv.legit _ (List.mem_of_getElem? hcall)))
        (fun c hc => List.mem_or_eq_of_mem_set hc) h)
    · exact .inl h

theorem Told.next {events : List Event} (h : Told sha256Hex events w) (hinv : Inv sha256Hex w)
    {drawn : List String} (howned : Owned drawn w)
    (hw : w = World.empty.after sha256Hex events) (e : Event) :
    Told sha256Hex (events ++ [e]) (w.next sha256Hex e) := by
  intro i p hmem
  rcases told_next hinv e hmem with hold | ⟨n, t, rfl, hcall, hperform⟩
  · obtain ⟨s, earlier, hs, hplan, hcommitted, hprefix, hstored⟩ := h i p hold
    obtain ⟨s', hs', hplan'⟩ := stages_next hinv e hs
    exact ⟨s', earlier, hs', hplan.trans hplan'.symm, hcommitted,
      hprefix.trans (List.prefix_append _ _), hplan' ▸ hstored⟩
  · obtain ⟨⟨stageToken, cacheLimitBytes, now, createdAtUnixMs, rfl, hstaged, hp, -⟩, hstored⟩ :=
      commits_of_reply hinv.exact hperform
    have hawaits : Awaits sha256Hex w (.committing i) (.transaction _) :=
      hinv.legit _ (List.mem_of_getElem? hcall)
    cases hawaits with
    | commit hlimits =>
      obtain ⟨s, store, hs, -, -, htoken, -⟩ := hlimits
      -- the row and the stage have one token, so they have one plan
      have hplan : p.plan = s.plan := howned.unique stageToken p.plan s.plan
        (.inr (.inr ⟨_, _, hstaged, rfl, rfl⟩)) (.inl ⟨s, List.mem_of_getElem? hs, htoken, rfl⟩)
      obtain ⟨s', hs', hplan'⟩ := stages_next hinv (.settle n) hs
      refine ⟨s', events ++ [.settle n], hs', hplan.trans hplan'.symm, ?_, List.prefix_rfl, ?_⟩
      · rw [hp]
        rfl
      · rw [after_concat, ← hw, hplan', ← hplan]
        exact hstored

/-- **The run lemma, with distinct tokens.** -/
theorem told_after (sha256Hex : ByteArray → String) (events : List Event)
    (htokens : (events.filterMap Event.token).Nodup) :
    Owned (events.filterMap Event.token) (World.empty.after sha256Hex events) ∧
      Told sha256Hex events (World.empty.after sha256Hex events) := by
  induction events using List.reverseRecOn with
  | nil =>
    refine ⟨⟨?_, ?_⟩, fun i p hmem => by cases hmem⟩
    · rintro stageToken plan (⟨s, hs, -⟩ | ⟨c, hc, -⟩ | ⟨d, p, hp, -⟩)
      · cases hs
      · cases hc
      · cases hp
    · rintro stageToken plan plan' (⟨s, hs, -⟩ | ⟨c, hc, -⟩ | ⟨d, p, hp, -⟩)
      · cases hs
      · cases hc
      · cases hp
  | append_singleton events e ih =>
    rw [List.filterMap_append] at htokens ⊢
    have hlast : [e].filterMap Event.token = e.token.toList := by
      cases h : e.token <;> simp [h]
    rw [hlast] at htokens ⊢
    obtain ⟨hfirst, -, hapart⟩ := List.nodup_append.1 htokens
    obtain ⟨howned, htold⟩ := ih hfirst
    have hinv : Inv sha256Hex (World.empty.after sha256Hex events) := inv_empty.after events
    rw [after_concat]
    refine ⟨howned.next hinv fun stageToken hmem hold => ?_, htold.next hinv howned rfl e⟩
    exact hapart stageToken hold stageToken (Option.mem_toList.2 hmem) rfl

theorem calls_abort {i : Nat} {s : Stage} {frame : Frame} {otherwise : Except String Value} :
    (w.abort i s frame otherwise).1.calls = w.calls := by
  unfold World.abort
  split <;> rfl

/-- What a commit answers with a receipt. -/
theorem resume_committing {now : Int} {stageToken : String} {i : Nat}
    {answer : Except String Answer} {receipt : Receipt}
    (h : (w.resume now stageToken (.committing i) answer).2 =
      .finished (.ok (.receipt (some receipt)))) :
    ∃ p, answer = .ok (.reply (.committed p)) ∧ receipt = publicReceipt p := by
  unfold World.resume World.onStage at h
  rcases answer with error | ⟨reply⟩ | digest | _
  · dsimp only at h
    split at h
    · cases h
    · unfold World.abort at h
      split at h <;> cases h
  · cases reply with
    | committed p =>
      dsimp only at h
      split at h
      · cases h
      · cases h
        exact ⟨p, rfl, rfl⟩
    | done => cases h
    | package value => cases h
    | bytes value => cases h
  · cases h
  · cases h

theorem calls_committing {now : Int} {stageToken : String} {i : Nat}
    {answer : Except String Answer} :
    (w.resume now stageToken (.committing i) answer).1.calls = w.calls := by
  unfold World.resume World.onStage
  rcases answer with error | ⟨reply⟩ | digest | _
  · dsimp only
    split
    · rfl
    · exact calls_abort
  · cases reply with
    | committed p =>
      dsimp only
      split <;> rfl
    | done => rfl
    | package value => rfl
    | bytes value => rfl
  · rfl
  · rfl

/-! ## Results -/

/-- **Main result.** In every run the committed packages are exact: each has the files of its plan, with
their sizes and digests, and no others. A committed package is changed by its own removal only, a
commit keeps to the limit of its store, and a token that has been replaced has no say. -/
theorem package_store_laws (sha256Hex : ByteArray → String) (events : List Event) :
    Exact sha256Hex (World.empty.after sha256Hex events).db ∧
      ∀ e, Lawful (World.empty.after sha256Hex events) e
        ((World.empty.after sha256Hex events).next sha256Hex e) :=
  have hinv : Inv sha256Hex (World.empty.after sha256Hex events) := inv_empty.after events
  ⟨hinv.exact, lawful_next hinv⟩

/-- **A receipt is true.** A commit that answers with a receipt answers for the plan of its own stage,
which had been committed under its digest. -/
theorem commit_of_own_plan (sha256Hex : ByteArray → String) (events : List Event)
    (htokens : (events.filterMap Event.token).Nodup) {n i : Nat} {answer : Except String Answer}
    {now : Int} {stageToken : String} {receipt : Receipt}
    (hcall : (World.empty.after sha256Hex events).calls[n]? =
      some (.settled (.committing i) answer))
    (hreceipt : ((World.empty.after sha256Hex events).next sha256Hex
      (.resume n now stageToken)).calls[n]? = some (.finished (.ok (.receipt (some receipt))))) :
    ∃ s p earlier, (World.empty.after sha256Hex events).stages[i]? = some s ∧
      receipt = publicReceipt p ∧ p.plan = s.plan ∧ p.isCommitted = true ∧ earlier <+: events ∧
      (World.empty.after sha256Hex earlier).db.package? s.plan.packageDigestSha256 = some p := by
  have htold := (told_after sha256Hex events htokens).2
  generalize World.empty.after sha256Hex events = w at hcall hreceipt htold ⊢
  have hlt : n < w.calls.length := (List.getElem?_eq_some_iff.1 hcall).1
  have hlast : (w.resume now stageToken (.committing i) answer).2 =
      .finished (.ok (.receipt (some receipt))) := by
    rw [World.next, hcall] at hreceipt
    have hset : ((w.resume now stageToken (.committing i) answer).1.calls.set n
        (w.resume now stageToken (.committing i) answer).2)[n]? =
          some (.finished (.ok (.receipt (some receipt)))) := hreceipt
    rw [calls_committing, List.getElem?_set_self hlt] at hset
    exact Option.some.inj hset
  obtain ⟨p, rfl, hp⟩ := resume_committing hlast
  obtain ⟨s, earlier, hs, hplan, hcommitted, hprefix, hstored⟩ :=
    htold i p (List.mem_of_getElem? hcall)
  exact ⟨s, p, earlier, hs, hp, hplan, hcommitted, hprefix, hstored⟩

/-! ### A run -/

def sampleDigest : String := "44136fa355b3678a1146ad16f7e8649e94fb4fc21fe77e8310c060f61caaff8a"

/-- The digest of an empty object, which both files hold. -/
def sampleSha256Hex (_ : ByteArray) : String := sampleDigest

def sampleBytes : ByteArray := "{}".toUTF8

def sampleInput : PlanInput where
  packageDigestSha256 := sampleDigest
  files := [⟨"candidate.json", sampleDigest, some 2⟩, ⟨"package/manifest.json", sampleDigest, some 2⟩]
  sizeBytes := none

/-- A store begins, writes both files and commits. -/
def sampleEvents : List Event :=
  [.create none none, .call (.begin 0 sampleInput) 1000,
    .settle 0, .resume 0 1000 "a", .settle 1, .resume 1 1000 "b", .settle 1, .resume 1 1000 "c",
    .settle 1, .resume 1 1000 "d",
    .call (.writeFile (.stage 0) ⟨"candidate.json", sampleDigest, 2, some sampleBytes⟩) 1000,
    .settle 2, .resume 2 1000 "e", .settle 2, .resume 2 1000 "f",
    .call (.writeFile (.stage 0) ⟨"package/manifest.json", sampleDigest, 2, some sampleBytes⟩) 1000,
    .settle 3, .resume 3 1000 "g", .settle 3, .resume 3 1000 "h",
    .call (.commit (.stage 0)) 2000, .settle 4]

def samplePlan : Plan where
  packageDigestSha256 := sampleDigest
  files := ⟨[⟨"candidate.json", sampleDigest, 2⟩, ⟨"package/manifest.json", sampleDigest, 2⟩],
    by decide⟩

def samplePackage : Package := ⟨samplePlan, .committed 2000, 1000⟩

set_option maxRecDepth 8000 in
theorem commit_of_own_plan_sample :
    ∃ s p earlier, (World.empty.after sampleSha256Hex sampleEvents).stages[0]? = some s ∧
      publicReceipt samplePackage = publicReceipt p ∧ p.plan = s.plan ∧ p.isCommitted = true ∧
      earlier <+: sampleEvents ∧ (World.empty.after sampleSha256Hex earlier).db.package?
        s.plan.packageDigestSha256 = some p := by
  have hcall : (World.empty.after sampleSha256Hex sampleEvents).calls[4]? =
      some (.settled (.committing 0) (.ok (.reply (.committed samplePackage)))) := by rfl
  have hreceipt : ((World.empty.after sampleSha256Hex sampleEvents).next sampleSha256Hex
      (.resume 4 2000 "i")).calls[4]? =
        some (.finished (.ok (.receipt (some (publicReceipt samplePackage))))) := by rfl
  exact commit_of_own_plan sampleSha256Hex sampleEvents (by decide) hcall hreceipt

end Vibapp.PackageStore
