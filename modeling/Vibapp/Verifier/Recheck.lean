import Vibapp.Verifier.PromotionSpecs

/-!
# Calls that nothing disturbs

**Main results**. The first call on an accepted quarantine which nothing disturbs promotes it
(`verifyAndPromote_promotes`). Where the candidate is there, a recheck of that quarantine which nothing
disturbs returns, and changes nothing (`verifyAndPromote_rechecks`).

The checks see the same package whether they look at the quarantine or at its copy
(`validatePackageTree_copies`), so what they accepted there they accept here.
-/

namespace Vibapp.Verifier

open Prog

variable {μ θ : Type} {library : Library μ θ} {env : Env library} {s t : Disk}

/-! ## What the checks found -/

/-- The file has the bytes of its row. -/
structure Holds (library : Library μ θ) (package : Package) (row : PackageFile) : Prop where
  expected : row.path ∈ expectedPackageFiles
  bytes : ∃ data, readBounded (package.entry row.path) maxPackageBytes row.path = .ok data ∧
    library.sha256 data = row.sha256

theorem require_eq_ok {ok : Bool} {code message : String} {u : Unit} :
    require ok code message = .ok u ↔ ok = true := by
  unfold require fail
  cases ok <;> simp

theorem require_of_true {ok : Bool} {code message : String} (h : ok = true) :
    require ok code message = .ok () := if_pos h

theorem validateInventory_ok {package : Package} {rows indexed : List PackageFile} {total : Nat}
    {r : List PackageFile × Nat}
    (h : validateInventory library package rows indexed total = .ok r) :
    r.1 = indexed ++ rows ∧ ∀ row ∈ rows, Holds library package row := by
  induction rows generalizing indexed total with
  | nil =>
    cases h
    exact ⟨(List.append_nil _).symm, nofun⟩
  | cons row rest ih =>
    unfold validateInventory at h
    obtain ⟨_, hpath, h⟩ := bind_eq_ok.1 h
    obtain ⟨_, -, h⟩ := bind_eq_ok.1 h
    obtain ⟨data, hdata, h⟩ := bind_eq_ok.1 h
    obtain ⟨_, hbytes, h⟩ := bind_eq_ok.1 h
    rw [require_eq_ok, Bool.and_eq_true] at hpath hbytes
    obtain ⟨hindexed, hrest⟩ := ih h
    refine ⟨by rw [hindexed, List.append_assoc]; rfl, ?_⟩
    intro other hother
    rcases List.mem_cons.1 hother with rfl | hother
    · exact ⟨List.contains_iff_mem.1 hpath.1, data, hdata, of_decide_eq_true hbytes.2⟩
    · exact hrest other hother

/-- The inventory only looks at the four names. -/
theorem validateInventory_congr {package package' : Package}
    (h : ∀ name ∈ expectedPackageFiles, package.entry name = package'.entry name)
    (rows indexed : List PackageFile) (total : Nat) :
    validateInventory library package rows indexed total =
      validateInventory library package' rows indexed total := by
  induction rows generalizing indexed total with
  | nil => rfl
  | cons row rest ih =>
    unfold validateInventory
    by_cases hpath : row.path ∈ expectedPackageFiles
    · rw [h row.path hpath]
      simp only [ih]
    · have hcontains : expectedPackageFiles.contains row.path = false := by
        simpa [List.contains_iff_mem] using hpath
      rw [hcontains, Bool.false_and]
      rfl

theorem mem_of_isExpected {names : List String} (h : isExpected names = true) {name : String}
    (hname : name ∈ expectedPackageFiles) : name ∈ names := by
  unfold isExpected at h
  rw [Bool.and_eq_true, List.all_eq_true, List.all_eq_true] at h
  exact List.contains_iff_mem.1 (h.2 name hname)

theorem Entry.eq_regular {entry : Entry} {maximum : Nat} {context : String} {data : List UInt8}
    (h : readBounded entry maximum context = .ok data) : entry = .regular entry.data := by
  cases entry with
  | missing => cases h
  | irregular => cases h
  | regular bytes => rfl

theorem lookup_map {names : List String} {f : String → Entry} {name : String} (h : name ∈ names) :
    (names.map fun n => (n, f n)).lookup name = some (f name) := by
  induction names with
  | nil => cases h
  | cons n names ih =>
    rw [List.map_cons, List.lookup_cons]
    by_cases hn : name = n
    · subst hn
      simp
    · rw [beq_false_of_ne hn]
      exact ih ((List.mem_cons.1 h).resolve_left hn)

/-- At the four names there is what was copied. -/
theorem Candidate.entry_copies {quarantine : Quarantine} {record : Option Record} {name : String}
    (h : name ∈ expectedPackageFiles) :
    (Candidate.tree ⟨some (copies quarantine), record⟩).entry name =
      .regular (quarantine.package.entry name).data := by
  unfold Candidate.tree Package.entry copies
  dsimp only
  rw [List.map_map]
  have hlookup := lookup_map (f := fun n => .regular (quarantine.package.entry n).data) h
  exact congrArg (fun entry => Option.getD entry Entry.missing) hlookup

/-- What `_validate_package_tree` has seen of the package. -/
theorem validatePackageTree_ok {package : Package} {receipt : Receipt} {r : μ × Manifest}
    (h : validatePackageTree library package receipt = .ok r) :
    (∀ row ∈ receipt.packageFiles, Holds library package row) ∧
      (∀ name ∈ expectedPackageFiles, ∃ data,
        readBounded (package.entry name) maxPackageBytes name = .ok data) ∧
        ∃ data, readBounded (package.entry "manifest.json") maxJsonBytes "manifest" = .ok data ∧
          library.loadJson data = .ok r.1 := by
  unfold validatePackageTree at h
  cases package with
  | missing => cases h
  | irregular => cases h
  | directory entries =>
    dsimp only at h
    obtain ⟨_, -, h⟩ := bind_eq_ok.1 h
    obtain ⟨_, -, h⟩ := bind_eq_ok.1 h
    obtain ⟨⟨indexed, total⟩, hinventory, h⟩ := bind_eq_ok.1 h
    obtain ⟨_, hindexed, h⟩ := bind_eq_ok.1 h
    obtain ⟨data, hdata, h⟩ := bind_eq_ok.1 h
    obtain ⟨value, hvalue, h⟩ := bind_eq_ok.1 h
    obtain ⟨manifest, -, h⟩ := bind_eq_ok.1 h
    obtain ⟨_, -, h⟩ := bind_eq_ok.1 h
    obtain ⟨_, -, h⟩ := bind_eq_ok.1 h
    obtain ⟨_, -, h⟩ := bind_eq_ok.1 h
    obtain ⟨_, -, h⟩ := bind_eq_ok.1 h
    obtain ⟨_, -, h⟩ := bind_eq_ok.1 h
    obtain ⟨_, -, h⟩ := bind_eq_ok.1 h
    cases pure_eq_ok.1 h
    obtain ⟨hrows, hholds⟩ := validateInventory_ok hinventory
    rw [List.nil_append] at hrows
    dsimp only at hrows
    subst hrows
    refine ⟨hholds, ?_, data, hdata, hvalue⟩
    intro name hname
    rw [require_eq_ok, Bool.and_eq_true] at hindexed
    obtain ⟨row, hrow, rfl⟩ := List.mem_map.1 (mem_of_isExpected hindexed.1 hname)
    obtain ⟨bytes, hbytes, -⟩ := (hholds row hrow).bytes
    exact ⟨bytes, hbytes⟩

/-- The checks only look at the names, and at what is at the four that are expected. -/
theorem validatePackageTree_congr {entries entries' : List (String × Entry)} {receipt : Receipt}
    (hnames : isExpected (entries.map Prod.fst) = isExpected (entries'.map Prod.fst))
    (h : ∀ name ∈ expectedPackageFiles,
      (Package.directory entries).entry name = (Package.directory entries').entry name) :
    validatePackageTree library (.directory entries) receipt =
      validatePackageTree library (.directory entries') receipt := by
  unfold validatePackageTree
  dsimp only
  rw [hnames, validateInventory_congr h, h "manifest.json" (by decide)]

theorem isExpected_of_tree {entries : List (String × Entry)} {receipt : Receipt} {r : μ × Manifest}
    (h : validatePackageTree library (.directory entries) receipt = .ok r) :
    isExpected (entries.map Prod.fst) = true := by
  unfold validatePackageTree at h
  obtain ⟨_, hnames, -⟩ := bind_eq_ok.1 h
  exact require_eq_ok.1 hnames

theorem entry_eq_missing {entries : List (String × Entry)} {name : String}
    (h : isExpected (entries.map Prod.fst) = true) (hname : name ∉ expectedPackageFiles) :
    (Package.directory entries).entry name = .missing := by
  have hnone : entries.lookup name = none := by
    refine List.lookup_eq_none_iff.2 ?_
    intro entry hentry
    refine bne_iff_ne.2 ?_
    rintro rfl
    unfold isExpected at h
    rw [Bool.and_eq_true, List.all_eq_true] at h
    exact hname (List.contains_iff_mem.1 (h.1 entry.1 (List.mem_map_of_mem hentry)))
  unfold Package.entry
  dsimp only
  rw [hnone]
  rfl

theorem copies_expected (quarantine : Quarantine) :
    isExpected (((copies quarantine).map fun file => (file.1, Entry.regular file.2)).map
      Prod.fst) = true := by
  unfold copies
  rw [List.map_map, List.map_map]
  rfl

/-- **The copy has exactly the files of the quarantine.** -/
theorem Candidate.entry_eq {quarantine : Quarantine} {receipt : Receipt} {r : μ × Manifest}
    {record : Option Record}
    (h : validatePackageTree library quarantine.package receipt = .ok r) (name : String) :
    (Candidate.tree ⟨some (copies quarantine), record⟩).entry name =
      quarantine.package.entry name := by
  by_cases hname : name ∈ expectedPackageFiles
  · obtain ⟨data, hdata⟩ := (validatePackageTree_ok h).2.1 name hname
    rw [Candidate.entry_copies hname]
    exact (Entry.eq_regular hdata).symm
  · cases hpackage : quarantine.package with
    | missing =>
      rw [hpackage] at h
      cases h
    | irregular =>
      rw [hpackage] at h
      cases h
    | directory entries =>
      rw [hpackage] at h
      rw [entry_eq_missing (isExpected_of_tree h) hname]
      exact entry_eq_missing (copies_expected quarantine) hname

/-- **The copy passes the checks that the quarantine passed.** -/
theorem validatePackageTree_copies {quarantine : Quarantine} {receipt : Receipt}
    {r : μ × Manifest} {record : Option Record}
    (h : validatePackageTree library quarantine.package receipt = .ok r) :
    validatePackageTree library (Candidate.tree ⟨some (copies quarantine), record⟩) receipt =
      .ok r := by
  have hentries : ∀ name ∈ expectedPackageFiles,
      (Candidate.tree ⟨some (copies quarantine), record⟩).entry name =
        quarantine.package.entry name := fun name _ => Candidate.entry_eq h name
  cases hpackage : quarantine.package with
  | missing =>
    rw [hpackage] at h
    cases h
  | irregular =>
    rw [hpackage] at h
    cases h
  | directory entries =>
    rw [hpackage] at h hentries
    rw [← h]
    refine validatePackageTree_congr ?_ hentries
    rw [isExpected_of_tree h]
    exact copies_expected quarantine

/-- What `verify` accepted, check by check. -/
structure Passes (library : Library μ θ) (tools : θ) (quarantine : Quarantine)
    (accepted : Accepted) (value : μ) (manifest : Manifest) (component : List UInt8)
    (wasm : List Check) (guest : Check) : Prop where
  receipt : validateReceipt library quarantine = .ok accepted.receipt
  tree : validatePackageTree library quarantine.package accepted.receipt = .ok (value, manifest)
  digests : validateDigests library quarantine.package accepted.receipt value manifest =
    .ok (accepted.presentation, accepted.digest, component)
  wasmChecks : library.runWasmChecks tools component manifest = .ok wasm
  guestCheck : library.reconcileGuestDescriptor tools component manifest = .ok guest
  receiptDigest : sha256File library quarantine.receipt maxJsonBytes "quarantine receipt" =
    .ok accepted.receiptDigest
  checks : accepted.checks = fixedChecks ++ wasm ++ [guest]

theorem verify_ok {tools : θ} {quarantine : Quarantine} {accepted : Accepted}
    (h : verify library tools quarantine = .ok accepted) :
    ∃ value manifest component wasm guest,
      Passes library tools quarantine accepted value manifest component wasm guest := by
  unfold verify at h
  obtain ⟨receipt, hreceipt, h⟩ := bind_eq_ok.1 h
  obtain ⟨⟨value, manifest⟩, htree, h⟩ := bind_eq_ok.1 h
  obtain ⟨⟨presentation, digest, component⟩, hdigests, h⟩ := bind_eq_ok.1 h
  obtain ⟨wasm, hwasm, h⟩ := bind_eq_ok.1 h
  obtain ⟨guest, hguest, h⟩ := bind_eq_ok.1 h
  obtain ⟨receiptDigest, hdigest, h⟩ := bind_eq_ok.1 h
  cases pure_eq_ok.1 h
  exact ⟨value, manifest, component, wasm, guest, hreceipt, htree, hdigests, hwasm, hguest,
    hdigest, rfl⟩

theorem validateDigests_ok {package : Package} {receipt : Receipt} {value : μ}
    {manifest : Manifest} {presentation : Presentation} {digest : String}
    {component : List UInt8}
    (h : validateDigests library package receipt value manifest =
      .ok (presentation, digest, component)) : library.packageDigest value = .ok digest := by
  unfold validateDigests at h
  obtain ⟨_, -, h⟩ := bind_eq_ok.1 h
  obtain ⟨_, -, h⟩ := bind_eq_ok.1 h
  obtain ⟨digest', hdigest, h⟩ := bind_eq_ok.1 h
  obtain ⟨_, -, h⟩ := bind_eq_ok.1 h
  obtain ⟨_, -, h⟩ := bind_eq_ok.1 h
  obtain ⟨_, -, h⟩ := bind_eq_ok.1 h
  obtain ⟨_, -, h⟩ := bind_eq_ok.1 h
  obtain ⟨_, -, h⟩ := bind_eq_ok.1 h
  cases pure_eq_ok.1 h
  exact hdigest

/-! ## A call that nothing disturbs -/

/-- No step fails, and the lock is free. The steps of a rejection are not looked at. -/
structure Quiet (env : Env library) : Prop where
  busy : env.busy = false
  fault : ∀ n, env.fault n = none
  prepare : env.outer .prepare = none
  release : env.outer .release = none

theorem wp_step_quiet {Q : Unit → Disk → Prop} {E : Raised → Disk → Prop} {C : Disk → Prop}
    {done : Disk → Disk} (h : Quiet env) :
    wp (step done : Run library Unit) Q E C env s ↔ Q () (done { s with tick := s.tick + 1 }) := by
  rw [wp_step, h.fault s.tick]
  simp

theorem step_finishes (h : Quiet env) (done : Disk → Disk) :
    Finishes (step done : Run library Unit) (fun _ _ => True) env s :=
  (wp_step_quiet h).2 trivial

/-- A check that passes. -/
theorem finishes_check {α β : Type} {x : Py α} {a : α} {f : α → Run library β}
    {Q : β → Disk → Prop} (hx : x = .ok a) (hf : Finishes (f a) Q env s) :
    Finishes (check x >>= f) Q env s := by
  subst hx
  exact hf

/-- A step and its check, which passes. -/
theorem finishes_touch_check {α β : Type} {x : Py α} {a : α} {f : α → Run library β}
    {Q : β → Disk → Prop} (h : Quiet env) (hx : x = .ok a)
    (hf : ∀ t, t.candidates = s.candidates → Finishes (f a) Q env t) :
    Finishes (touch >>= fun _ => check x >>= f) Q env s := by
  refine wp_bind.2 ((wp_step_quiet h).2 ?_)
  subst hx
  exact hf _ rfl

theorem verifyRun_finishes {accepted : Accepted} (h : Quiet env)
    (hverify : verify library env.tools env.quarantine = .ok accepted) :
    Finishes (verifyRun : Run library Accepted) (fun a t => Same s t ∧ a = accepted) env s := by
  have hfinishes : Finishes (verifyRun : Run library Accepted) (fun _ _ => True) env s := by
    obtain ⟨value, manifest, component, wasm, guest, hpasses⟩ := verify_ok hverify
    unfold verifyRun
    rw [Finishes, wp_read_bind, wp_read_bind]
    refine finishes_touch_check h hpasses.receipt fun _ _ => ?_
    refine finishes_touch_check h hpasses.tree fun _ _ => ?_
    refine finishes_touch_check h hpasses.digests fun _ _ => ?_
    refine finishes_touch_check h hpasses.wasmChecks fun _ _ => ?_
    refine finishes_touch_check h hpasses.guestCheck fun _ _ => ?_
    refine finishes_touch_check h hpasses.receiptDigest fun _ _ => ?_
    trivial
  refine (verifyRun_spec.finishes hfinishes).mono_done ?_
  rintro a t ⟨⟨hsame, hok⟩, -⟩
  rw [hverify] at hok
  exact ⟨hsame, (Except.ok.inj hok).symm⟩

theorem readBounded_context {entry : Entry} {maximum : Nat} {context context' : String}
    {data : List UInt8} (h : readBounded entry maximum context = .ok data) :
    readBounded entry maximum context' = .ok data := by
  cases entry with
  | missing => cases h
  | irregular => cases h
  | regular bytes =>
    unfold readBounded fail at h ⊢
    rw [ite_error_eq_ok] at h ⊢
    exact h

/-- The files of the package can be copied. -/
theorem copyFiles_finishes {n : Nat} {names : List String} (h : Quiet env)
    (hnames : ∀ name ∈ names, ∃ data,
      readBounded (env.quarantine.package.entry name) maxPackageBytes ("copy source " ++ name) =
        .ok data) :
    Finishes (each (copyFile n) names : Run library Unit) (fun _ _ => True) env s := by
  refine wp_each ?_ trivial
  intro name hname t _
  obtain ⟨data, hdata⟩ := hnames name hname
  unfold copyFile
  rw [wp_read_bind, hdata]
  exact (wp_step_quiet h).2 trivial

/-- The rows have their bytes, so the loop over the rows ends. -/
theorem rows_finish {package : Package} {rows : List PackageFile} {text : String} (h : Quiet env)
    (hrows : ∀ row ∈ rows, Holds library package row) :
    Finishes (each (fun row => do
      touch
      let sha256 ← check (sha256File library (package.entry row.path) maxPackageBytes row.path)
      check (require (sha256 = row.sha256) "integrity-failure" text)) rows : Run library Unit)
      (fun _ _ => True) env s := by
  refine wp_each ?_ trivial
  intro row hrow t _
  obtain ⟨data, hdata, hsha⟩ := (hrows row hrow).bytes
  refine finishes_touch_check (a := library.sha256 data) h ?_ fun _ _ => ?_
  · unfold sha256File
    rw [hdata]
    rfl
  · rw [hsha, decide_eq_true rfl]
    trivial

/-- The two checks of the copied files pass. -/
theorem checkCopies_finishes {n : Nat} {accepted : Accepted} (h : Quiet env)
    (hverify : verify library env.tools env.quarantine = .ok accepted)
    (hstaged : s.staging.get? n = some ⟨some (copies env.quarantine), none⟩) :
    Finishes (checkCopies n accepted : Run library Unit) (fun _ _ => True) env s := by
  obtain ⟨value, manifest, component, wasm, guest, hpasses⟩ := verify_ok hverify
  have htree : validatePackageTree library
      (Candidate.tree ⟨some (copies env.quarantine), none⟩) accepted.receipt =
        .ok (value, manifest) := validatePackageTree_copies hpasses.tree
  obtain ⟨hrows, -, data, hdata, hvalue⟩ := validatePackageTree_ok htree
  have hdigest : (decide (accepted.digest = accepted.digest)) = true := decide_eq_true rfl
  unfold checkCopies staged
  refine wp_bind.2 ((wp_step_quiet h).2 ?_)
  rw [wp_read_bind]
  simp only [id, hstaged, Option.getD_some]
  refine finishes_check (readBounded_context hdata) ?_
  refine finishes_check hvalue ?_
  refine finishes_check (validateDigests_ok hpasses.digests) ?_
  refine finishes_check (a := ()) (require_eq_ok.2 hdigest) ?_
  exact rows_finish h hrows

/-- The candidate that is there is what this quarantine makes. -/
theorem recheckExisting_finishes {n : Nat} {accepted : Accepted}
    {now : { text : String // isTimestamp library text = true }} (h : Quiet env)
    (hverify : verify library env.tools env.quarantine = .ok accepted) :
    Finishes (recheckExisting n accepted
      (recordOf accepted ⟨some (copies env.quarantine), none⟩ env.now.1)
      (candidateOf env.quarantine accepted now.1) : Run library String) (fun _ _ => True) env s := by
  obtain ⟨value, manifest, component, wasm, guest, hpasses⟩ := verify_ok hverify
  have htree : validatePackageTree library
      (candidateOf env.quarantine accepted now.1).tree accepted.receipt = .ok (value, manifest) :=
    validatePackageTree_copies hpasses.tree
  obtain ⟨hrows, -⟩ := validatePackageTree_ok htree
  unfold recheckExisting
  refine finishes_touch_check (a := ()) h rfl fun _ _ => ?_
  refine finishes_touch_check h htree fun _ _ => ?_
  refine wp_bind.2 ((wp_step_quiet h).2 ?_)
  refine finishes_check (a := ()) (require_eq_ok.2 now.2) ?_
  refine finishes_check (a := ()) (require_eq_ok.2 (decide_eq_true rfl)) ?_
  refine wp_seq (rows_finish h hrows) ?_
  intro _ t _
  exact wp_bind.2 ((wp_step_quiet h).2 trivial)

/-- The rename, where no candidate is there. -/
theorem commit_finishes {n : Nat} {digest : String} {record : Record} (h : Quiet env) :
    Finishes (commit n digest record : Run library String) (fun _ _ => True) env s := by
  unfold commit staged
  refine wp_bind.2 ((wp_step_quiet h).2 ?_)
  refine wp_bind.2 ((wp_step_quiet h).2 ?_)
  refine wp_bind.2 ((wp_step_quiet h).2 ?_)
  rw [wp_read_bind]
  exact wp_bind.2 ((wp_step_quiet h).2 trivial)

/-! ## A call to its end -/

/-- A candidate that is there is what the quarantine makes. -/
def Expected (env : Env library) (accepted : Accepted) (s : Disk) : Prop :=
  ∀ candidate, s.candidates.get? accepted.digest = some candidate →
    ∃ now : { text : String // isTimestamp library text = true },
      candidate = candidateOf env.quarantine accepted now.1

theorem promoteStaged_finishes {n : Nat} {accepted : Accepted} (h : Quiet env)
    (hverify : verify library env.tools env.quarantine = .ok accepted)
    (hstaged : s.staging.get? n = some .empty) (hexpected : Expected env accepted s) :
    Finishes (promoteStaged n accepted : Run library String) (fun _ _ => True) env s := by
  obtain ⟨value, manifest, component, wasm, guest, hpasses⟩ := verify_ok hverify
  have hcopied : ∀ name ∈ expectedPackageFiles, ∃ data,
      readBounded (env.quarantine.package.entry name) maxPackageBytes ("copy source " ++ name) =
        .ok data := by
    intro name hname
    obtain ⟨data, hdata⟩ := (validatePackageTree_ok hpasses.tree).2.1 name hname
    exact ⟨data, readBounded_context hdata⟩
  unfold promoteStaged
  refine wp_seq ((wp_stage hstaged).finishes (step_finishes h _)) ?_
  rintro _ t ⟨⟨ht, hempty⟩, -⟩
  refine wp_seq ((copyFiles_spec ht hempty).finishes (copyFiles_finishes h hcopied)) ?_
  rintro _ u ⟨⟨hu, hfiles⟩, -⟩
  refine wp_seq ((checkCopies_within n accepted u).finishes
    (checkCopies_finishes h hverify hfiles)) ?_
  rintro _ v ⟨hv, -⟩
  have hfilesv : v.staging.get? n = some ⟨some (copies env.quarantine), none⟩ :=
    hv.staged.trans hfiles
  unfold staged
  rw [wp_read_bind, wp_read_bind, hfilesv, Option.getD_some]
  refine wp_bind.2 ((wp_step_quiet h).2 ?_)
  have hcandidates : v.candidates = s.candidates := (hu.trans hv.toSame).candidates
  rw [wp_read_bind]
  simp only [id, hcandidates]
  cases hthere : s.candidates.get? accepted.digest with
  | none => exact commit_finishes h
  | some candidate =>
    obtain ⟨now, rfl⟩ := hexpected candidate hthere
    exact recheckExisting_finishes h hverify

/-- **A call that nothing disturbs returns**, where it may meet what is there. -/
theorem verifyAndPromote_finishes {reference : String} {again : Bool} {accepted : Accepted}
    (h : Quiet env) (hverify : verify library env.tools env.quarantine = .ok accepted)
    (hagain : (s.candidates.contains accepted.digest && !again) = false)
    (hexpected : Expected env accepted s) :
    Finishes (verifyAndPromote reference again : Run library String) (fun _ _ => True) env s := by
  have hlocked : ∀ u, Same s u →
      Finishes (promoteLocked again : Run library String) (fun _ _ => True) env u := by
    intro u hu
    unfold promoteLocked
    rw [Finishes, wp_read_bind, h.busy, if_neg Bool.false_ne_true]
    refine wp_seq (verifyRun_finishes h hverify) ?_
    rintro _ v ⟨hv, rfl⟩
    refine wp_seq ((within_touch_same v).finishes (step_finishes h _)) ?_
    rintro _ x ⟨hx, -⟩
    have hcandidates : x.candidates = s.candidates := ((hu.trans hv).trans hx).candidates
    rw [wp_read_bind, hcandidates, hagain, if_neg Bool.false_ne_true]
    unfold makeStaging
    simp only [bind_assoc]
    rw [wp_read_bind]
    refine wp_bind.2 ((wp_step_quiet h).2 (wp_bind.2 ((wp_step_quiet h).2 ?_)))
    refine wp_handle.2 (wp.mono (promoteStaged_finishes h hverify ?_ ?_)
      (fun _ _ h => h) (fun _ _ h => h.elim) fun _ h => h)
    · exact Dict.get?_set_self _ _ _
    · intro candidate hcandidate
      exact hexpected candidate (hcandidates ▸ hcandidate)
  unfold verifyAndPromote
  refine wp_bind.2 (wp_outerStep.2 ⟨fun _ => ?_, by simp [h.prepare], by simp [h.prepare]⟩)
  refine wp_handle.2 (wp.mono (Q := fun _ _ => True) (E := fun _ _ => False)
    (C := fun _ => False) ?_ (fun _ _ h => h) (fun _ _ h => h.elim) fun _ h => h)
  unfold verifyAndPromoteImpl
  refine wp_bind.2 ((wp_step_quiet h).2 ?_)
  refine wp_bind.2 ((wp_step_quiet h).2 ?_)
  refine wp_bind.2 ((wp_step_quiet h).2 ?_)
  refine wp_ensure.2 (wp.mono (hlocked _ ?_) ?_ (fun _ _ h => h.elim) fun _ h => h)
  · exact ⟨rfl, rfl⟩
  · intro _ t _
    exact wp_outerStep.2 ⟨fun _ => trivial, by simp [h.release], by simp [h.release]⟩

/-- **A first call that nothing disturbs promotes.** -/
theorem verifyAndPromote_promotes {reference : String} {again : Bool} {accepted : Accepted}
    (h : Quiet env) (hverify : verify library env.tools env.quarantine = .ok accepted)
    (hnew : s.candidates.get? accepted.digest = none) :
    Finishes (verifyAndPromote reference again : Run library String) (fun _ t => t.candidates =
      s.candidates.set accepted.digest (candidateOf env.quarantine accepted env.now.1)) env s := by
  have hagain : (s.candidates.contains accepted.digest && !again) = false := by
    rw [Dict.contains_eq_false_iff.2 hnew, Bool.false_and]
  have hexpected : Expected env accepted s := by
    intro candidate hcandidate
    rw [hnew] at hcandidate
    cases hcandidate
  refine ((wp_verifyAndPromote reference again).finishes
    (verifyAndPromote_finishes h hverify hagain hexpected)).mono_done ?_
  rintro digest t ⟨hreturned, -⟩
  obtain ⟨accepted', haccepts, -, hkept⟩ := hreturned.accepts
  rw [hverify] at haccepts
  cases Except.ok.inj haccepts
  rcases hkept with hpromoted | ⟨-, candidate, hthere⟩
  · exact hpromoted.candidates
  · rw [hnew] at hthere
    cases hthere

/-- **A recheck returns the digest of the candidate that is there, and leaves it.** -/
theorem verifyAndPromote_rechecks {reference : String} {accepted : Accepted}
    (now : { text : String // isTimestamp library text = true }) (h : Quiet env)
    (hverify : verify library env.tools env.quarantine = .ok accepted)
    (hcandidate : s.candidates.get? accepted.digest =
      some (candidateOf env.quarantine accepted now.1)) :
    Finishes (verifyAndPromote reference true : Run library String)
      (fun digest t => digest = accepted.digest ∧ t.candidates = s.candidates) env s := by
  have hexpected : Expected env accepted s := by
    intro candidate hthere
    rw [hcandidate] at hthere
    exact ⟨now, (Option.some.inj hthere).symm⟩
  refine ((wp_verifyAndPromote reference true).finishes
    (verifyAndPromote_finishes h hverify (Bool.and_false _) hexpected)).mono_done ?_
  rintro digest t ⟨hreturned, -⟩
  obtain ⟨accepted', haccepts, hdigest, hkept⟩ := hreturned.accepts
  rw [hverify] at haccepts
  cases Except.ok.inj haccepts
  refine ⟨hdigest, ?_⟩
  rcases hkept with hpromoted | ⟨hsame, -⟩
  · rw [hpromoted.new] at hcandidate
    cases hcandidate
  · exact hsame

end Vibapp.Verifier
