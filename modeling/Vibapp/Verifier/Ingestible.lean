import Vibapp.Verifier.Snapshot

/-!
# What the store takes of what is promoted

**Main result** (`promoted_ingestible`). The store takes the candidate of a quarantine, and refuses it
for no more than a release it knows already, exactly when the quarantine is within the bounds of the
store that the verifier does not look at (`StoreBounds`). The publisher's texts are the first of them:
the manifest of a publisher with a long name is promoted, and the store never takes it
(`long_publisher_refused`).
-/

namespace Vibapp.Verifier

open Daemon (field)
open Builder (read)
open AppStore (duplicateKey canonicalJson)

section Ingests

variable {python : Python} {tools : Tools} {quarantine : Quarantine} {accepted : Accepted}
  {value : Json} {manifest : Manifest} {component : List UInt8} {wasm : List Check} {guest : Check}

/-! ## The store's answers -/

/-- What `_snapshot_candidate` and `_validate_snapshot` make of what is handed in. -/
structure Taken (store : AppStore.Library) (digest : String) (source : AppStore.Source)
    (now : String) (release : AppStore.Release) : Prop where
  intro ::
  copied : ∃ tree, AppStore.copyTree source = .ok tree ∧
    AppStore.validateSnapshot store tree now = .ok release
  named : release.packageSha256 = digest

/-- The error is a conflict with a row of the digest or of the app version. -/
def Conflict (d : AppStore.Disk) (release : AppStore.Release) (e : AppStore.Raised) : Prop :=
  ∃ digest row message, d.rows.get? digest = some row ∧
    (digest = release.packageSha256 ∨
      row.appId = release.appId ∧ row.appVersion = release.appVersion) ∧
        e = .store ⟨"conflict", message⟩

/-- A directory without a row, as a call leaves it that stops between its two commits. -/
def Orphan (d : AppStore.Disk) (digest : String) : Prop :=
  d.rows.get? digest = none ∧ d.candidates.contains digest = true

/-- The store takes it at every time, and where nothing goes wrong `ingest` refuses it for no more
than what earlier calls have left. -/
structure Ingests (store : AppStore.Library) (digest : String) (source : AppStore.Source) : Prop where
  taken : ∀ now, ∃ release, Taken store digest source now release
  refused : ∀ calls d, Steps (AppStore.CallStep store) calls .empty d →
    ∀ env release e t, env.Quiet → Taken store digest source env.now release →
      AppStore.ingest store source env d.ready = (.raised e, t) →
        Conflict d release e ∨ Orphan d digest

theorem hasVersion_iff {d : AppStore.Disk} {appId appVersion : String} :
    d.hasVersion appId appVersion = true ↔
      ∃ digest row, d.rows.get? digest = some row ∧ row.appId = appId ∧ row.appVersion = appVersion := by
  unfold AppStore.Disk.hasVersion
  rw [List.any_eq_true]
  constructor
  · intro ⟨row, hrow, hsame⟩
    obtain ⟨digest, hget⟩ := Dict.mem_values_iff.1 hrow
    rw [Bool.and_eq_true, decide_eq_true_eq, decide_eq_true_eq] at hsame
    exact ⟨digest, row, hget, hsame⟩
  · intro ⟨digest, row, hget, hid, hversion⟩
    exact ⟨row, Dict.mem_values_iff.2 ⟨digest, hget⟩, by simp [hid, hversion]⟩

/-- What the store takes it refuses for what is there already. -/
theorem refused_of_taken {store : AppStore.Library} {digest : String} {source : AppStore.Source}
    {calls : List (AppStore.Env × AppStore.Call)} {d : AppStore.Disk}
    (hcalls : Steps (AppStore.CallStep store) calls .empty d) {env : AppStore.Env}
    {release : AppStore.Release} {e : AppStore.Raised} {t : AppStore.Disk} (hquiet : env.Quiet)
    (htaken : Taken store digest source env.now release)
    (h : AppStore.ingest store source env d.ready = (.raised e, t)) :
    Conflict d release e ∨ Orphan d digest := by
  obtain ⟨tree, hcopied, hvalid⟩ := htaken.copied
  have hnamed := htaken.named
  subst hnamed
  have hsame : AppStore.Same d d.ready := AppStore.same_ready d
  obtain ⟨hreturns, hraises⟩ := @AppStore.ingest_quiet store env d.ready hquiet source rfl rfl
  have hdecision : AppStore.decision store d source env.now = .error e := by
    rw [← AppStore.decision_same hsame]
    cases hvalue : AppStore.decision store d.ready source env.now with
    | ok result =>
      obtain ⟨u, hrun, -⟩ := hreturns result hvalue
      rw [hrun] at h
      cases h
    | error e' =>
      obtain ⟨u, hrun, -⟩ := hraises e' hvalue
      rw [hrun] at h
      cases h
      rfl
  cases hrow : d.rows.get? release.packageSha256 with
  | some row =>
    by_cases hpayload : row.payloadSha256 = release.payloadBindingSha256
    · obtain ⟨record, -, hagain⟩ :=
        AppStore.decision_again (AppStore.sound_of_runs hcalls) hcopied hvalid hrow hpayload
      rw [hagain] at hdecision
      cases hdecision
    · rw [AppStore.decision, hcopied, ok_bind, hvalid, ok_bind, AppStore.decideOn, hrow] at hdecision
      dsimp only at hdecision
      rw [AppStore.decideAgain, AppStore.raiseIf, if_pos hpayload] at hdecision
      exact .inl ⟨_, row, _, hrow, .inl rfl, (Except.error.inj hdecision).symm⟩
  | none =>
    rw [AppStore.decision, hcopied, ok_bind, hvalid, ok_bind, AppStore.decideOn, hrow] at hdecision
    dsimp only at hdecision
    rw [AppStore.decideNew] at hdecision
    by_cases hversion : d.hasVersion release.appId release.appVersion = true
    · rw [AppStore.raiseIf, if_pos hversion] at hdecision
      obtain ⟨digest, row, hget, hversion⟩ := hasVersion_iff.1 hversion
      exact .inl ⟨digest, row, _, hget, .inr hversion, (Except.error.inj hdecision).symm⟩
    · rw [raiseIf_of_not hversion, ok_bind] at hdecision
      by_cases hdirectory : d.candidates.contains release.packageSha256 = true
      · exact .inr ⟨hrow, hdirectory⟩
      · rw [raiseIf_of_not hdirectory] at hdecision
        cases hdecision

/-! ## Main result -/

/-- What the store asks of a quarantine and the verifier does not. -/
structure StoreBounds (python : Python) (quarantine : Quarantine) : Prop where
  intro ::
  jobName : Fits 128 quarantine.jobName
  manifest : ∃ manifest,
    python.store.loads (quarantine.package.entry "manifest.json").data = some manifest ∧
      ManifestBounds manifest

/-- The record is read as it was written. -/
def ReadsBack (python : Python) (candidate : Candidate) : Prop :=
  ∀ record ∈ candidate.record,
    python.store.loads record.bytes = some (.obj (Json.sorted record.members))

/-- The store on the directory of a promotion. -/
theorem taken_iff (hpython : Documented python)
    (h : Passes (pipeline python) tools quarantine accepted value manifest component wasm guest)
    {now : String} (hnow : IsMoment now) {source : AppStore.Source}
    (hsource : SourceOf (candidateOf quarantine accepted now) source)
    (hreads : ReadsBack python (candidateOf quarantine accepted now)) (ingested : String) :
    (∃ release, Taken python.store accepted.digest source ingested release) ↔
      StoreBounds python quarantine := by
  obtain ⟨members, data, provenance, sbom, hpromotes⟩ := promotes_of_passes hpython h hnow
  obtain ⟨record, files, walk, hrecord, hfiles, hbytes, hwalk, hpackage⟩ := hsource.parts
  cases Option.some.inj hrecord
  cases Option.some.inj hfiles
  have hreads := hreads _ rfl
  have hcopyable : ∀ file ∈ walk, Copyable file := fun file hfile =>
    hpromotes.files.copyable file (hwalk.mem_iff.1 hfile)
  have hcount : walk.length = 4 := by
    rw [hwalk.length_eq, hpromotes.files.files]
    rfl
  have hcopy := copyTree_files hsource.name hbytes hpackage hcopyable hcount
  have hdata : (quarantine.package.entry "manifest.json").data = data :=
    data_of_regular hpromotes.manifestEntry
  constructor
  · intro ⟨release, htaken⟩
    obtain ⟨tree, hcopied, hvalid⟩ := htaken.copied
    rw [hcopy] at hcopied
    obtain ⟨_, -, hcopied⟩ := bind_eq_ok.1 hcopied
    cases pure_eq_ok.1 hcopied
    obtain ⟨hjob, hloads, hbounds⟩ := hpromotes.bounds hpython hwalk hreads hvalid
    rw [hpromotes.job] at hjob
    exact ⟨hjob, _, hdata ▸ hloads, hbounds⟩
  · intro hstore
    obtain ⟨found, hloads, hbounds⟩ := hstore.manifest
    rw [hdata] at hloads
    cases (hpython.loads _ _ hloads).symm.trans hpromotes.loads
    have hjob := hstore.jobName
    rw [← hpromotes.job] at hjob
    obtain ⟨release, hvalid, hnamed⟩ :=
      hpromotes.snapshot hwalk hjob hreads hloads hbounds ingested
    refine ⟨release, ⟨_, ?_, hvalid⟩, hnamed⟩
    rw [hcopy, raiseIf_of_not (not_lt.2 (length_bytes_le hpromotes.storable hjob))]
    rfl

/-- **The store takes what is within its bounds.** -/
theorem ingests_iff (hpython : Documented python)
    (hverify : verify (pipeline python) tools quarantine = .ok accepted) {now : String}
    (hnow : IsMoment now) {source : AppStore.Source}
    (hsource : SourceOf (candidateOf quarantine accepted now) source)
    (hreads : ReadsBack python (candidateOf quarantine accepted now)) :
    Ingests python.store accepted.digest source ↔ StoreBounds python quarantine := by
  obtain ⟨value, manifest, component, wasm, guest, hpasses⟩ := verify_ok hverify
  have htaken := taken_iff hpython hpasses hnow hsource hreads
  constructor
  · intro h
    exact (htaken "").1 (h.taken "")
  · intro h
    exact ⟨fun ingested => (htaken ingested).2 h, fun _ _ hcalls _ _ _ _ hquiet htaken hrun =>
      refused_of_taken hcalls hquiet htaken hrun⟩

/-- **The candidates of a run.** Each was promoted by one of the calls, and the store takes it exactly
when the quarantine of that call is within the bounds that the verifier does not look at. -/
theorem promoted_ingestible {calls : List (Call (pipeline python))} (hpython : Documented python)
    (hclock : ∀ call ∈ calls, IsMoment call.env.now.1) {digest : String} {candidate : Candidate}
    (h : (after calls).candidates.get? digest = some candidate) (hreads : ReadsBack python candidate)
    {source : AppStore.Source} (hsource : SourceOf candidate source) :
    ∃ call ∈ calls, Complete call digest candidate ∧
      (Ingests python.store digest source ↔ StoreBounds python call.env.quarantine) := by
  obtain ⟨call, hcall, hcomplete⟩ := complete_after h
  obtain ⟨accepted, hverify, rfl, rfl⟩ := hcomplete.accepted
  exact ⟨call, hcall, hcomplete, ingests_iff hpython hverify (hclock call hcall) hsource hreads⟩

end Ingests

/-! ## Two publishers -/

/-- A publisher, with the digests of the documents that name it. -/
structure Publisher where
  id : String
  displayName : String
  manifestSha256 : String
  manifestSize : Nat
  packageSha256 : String
  receiptSha256 : String

/-- The publisher that the builder knows. -/
def localBuilder : Publisher where
  id := "ai.vibapp.local"
  displayName := "VibApp Local Builder"
  manifestSha256 := "12aefd02119e00cfb89f54cf2edc38fab250e81d363abb0b4adff4c7853fe199"
  manifestSize := 3586
  packageSha256 := "9a2c872b629de2db444502f9744c5e027038a6e4f23778d6135eb5f45292843e"
  receiptSha256 := "7b1730bf426bdf39389be7ccea1ee825c68e54565e28f8593fee8d1d009f1608"

/-- The builder names every other publisher by its identifier. This one has 81 characters. -/
def longPublisher : Publisher where
  id := "aaaaaaaaaaaaaaaaaaaaaaaaaaaaaaaaaaaaaaaaaaaaaaaaaaaaaaaaaaaaaaaaaaaaaaaaaaaaaaaaa"
  displayName := "aaaaaaaaaaaaaaaaaaaaaaaaaaaaaaaaaaaaaaaaaaaaaaaaaaaaaaaaaaaaaaaaaaaaaaaaaaaaaaaaa"
  manifestSha256 := "313280bfabbc152af14cba92d0839343c0bb856c0c394928bff7c0945d9e000c"
  manifestSize := 3713
  packageSha256 := "a6cb1633c7ee08dd30d1d3ae5a7c31510922b278d409be8a1f0cd603ff5ff460"
  receiptSha256 := "8e155b12fd89f5e9ea51cab2aab70fb25e9c45b80e230ed660a40040473e231d"

def componentSha256 : String := "cd5d4935a48c0672cb06407bb443bc0087aff947c6b864bac886982c73b3027f"
def objectSha256 : String := "ca3d163bab055381827226140568f3bef7eaac187cebd76878e0b63e9e442356"
def listSha256 : String := "37517e5f3dc66819f61f5a7bb8ace1921282415f10551d2defa5c3eb0985b570"
def lineSha256 : String := "01ba4719c80b6fe911b091a7c05124b64eeece964e09c058ef8f9805daca546b"
def sourceSha256 : String := "481139c53776a4bc22de3f9f02538aba94dcee0818e8bf858821751722e1e508"
def emptySha256 : String := "e3b0c44298fc1c149afbf4c8996fb92427ae41e4649b934ca495991b7852b855"

/-- The files of the package beside the manifest. -/
def componentBytes : List UInt8 := [0, 97, 115, 109]
def objectBytes : List UInt8 := [123, 125, 10]
def listBytes : List UInt8 := [91, 93, 10]

/-- A document as the builder writes it. -/
def written (value : Json) : List UInt8 :=
  (Json.chars (Json.sortKeys value)).flatMap String.utf8EncodeChar ++ [10]

theorem written_eq (value : Json) : written value = canonicalJson value ++ [10] := by
  rw [AppStore.canonicalJson_eq]
  rfl

theorem length_written (value : Json) : (written value).length = Json.size value + 1 := by
  rw [written_eq, List.length_append, length_canonicalJson]
  rfl

def artifact (path mediaType sha256 : String) (size : Nat) : Json :=
  .obj [("media_type", .str mediaType), ("path", .str path), ("sha256", .str sha256),
    ("size_bytes", .int size)]

/-- An import that the app does not ask for. -/
def structuralImport (interface : String) : Json :=
  .obj [("grant", .str "automatic"), ("interface", .str interface),
    ("necessity", .str "degradable"),
    ("profiles", .arr [.obj [("availability", .str "denied"), ("behavior", .str "Denied stub."),
      ("profile", .str "desktop")]]),
    ("reason", .str "Structural import."), ("scope", .obj [])]

def uiImports : List String := (worldImports.lookup "ui-only-reference").getD []

/-- The manifest of a publisher's app. -/
def Publisher.manifest (publisher : Publisher) : List (String × Json) :=
  [("app", .obj [("description", .str "A demo."), ("display_name", .str "Demo"),
      ("id", .str "ai.vibapp.demo"), ("kind", .str "ui"),
      ("publisher", .obj [("display_name", .str publisher.displayName),
        ("id", .str publisher.id)]),
      ("version", .str "1.0.0")]),
    ("artifacts", .obj [("assets", .arr []), ("browser_derivations", .arr []),
      ("canonical_component", artifact "component.wasm" "application/wasm" componentSha256 4),
      ("provenance", artifact "provenance.json" "application/json" objectSha256 3),
      ("sbom", artifact "sbom.cdx.json" "application/vnd.cyclonedx+json" listSha256 3)]),
    ("capabilities", .arr (uiImports.map structuralImport)),
    ("entrypoints", .arr [.obj [("id", .str "main"), ("kind", .str "launcher-ui"),
      ("label", .str "Demo"), ("profiles", Json.texts ["desktop"]),
      ("restoration", .str "route-only"),
      ("routes", .obj [("allowed", Json.texts ["home"]), ("initial", .str "home")])]]),
    ("license", .obj [("spdx_expression", .str "Apache-2.0")]),
    ("lifecycle", .obj [
      ("disable", .obj [("cancels_schedules", .bool true), ("retains_package", .bool true),
        ("retains_state", .bool true), ("stops_services", .bool true)]),
      ("uninstall", .obj [
        ("allowed_data_dispositions", Json.texts ["delete", "retain", "export-then-delete"]),
        ("default_data_disposition", .str "delete")])]),
    ("package_format", .str "vibapp.package.experimental-v0"),
    ("privacy", .obj [("network_access", .str "none"), ("stores_personal_data", .bool false)]),
    ("resources", .obj [("durable_schedules", .int 0), ("event_wall_time_ms", .int 100),
      ("health_migration_wall_time_ms", .int 1000), ("linear_memory_bytes", .int 16777216),
      ("log_bytes_per_day", .int 131072), ("output_bytes", .int 131072),
      ("stored_data_bytes", .int 1048576)]),
    ("runtime", .obj [("contract", .str "vibapp:experimental-v0@0.0.1"),
      ("platforms", platformClaim ["desktop"]),
      ("profiles", .arr [.obj [("artifact_role", .str "canonical-component"),
        ("background", .str "not-applicable"), ("degradation", .str ""), ("mode", .str "full"),
        ("profile", .str "desktop")]]),
      ("required_imports", Json.texts uiImports), ("wasi", .str "0.2"),
      ("world", .str "ui-only-reference")]),
    ("schema_version", .str "vibapp.manifest.experimental-v0.0.1"),
    ("source", .obj [("builder_image_digest", .str ("sha256:" ++ emptySha256)),
      ("cargo_lock_sha256", .str emptySha256), ("language", .str "rust"),
      ("revision", .str "codeagent-481139c53776a4bc22de3f9f")]),
    ("state", .obj [("migratable_from_max", .int 1), ("migratable_from_min", .int 1),
      ("schema", .int 1)]),
    ("verification", .obj [("revocation", .str "not-revoked"), ("status", .str "unverified")])]

def Publisher.packageFiles (publisher : Publisher) : List PackageFile :=
  [⟨"manifest.json", publisher.manifestSha256, publisher.manifestSize⟩,
    ⟨"component.wasm", componentSha256, 4⟩, ⟨"provenance.json", objectSha256, 3⟩,
    ⟨"sbom.cdx.json", listSha256, 3⟩]

/-- What the verifier reads of it. -/
def readManifest : Manifest where
  id := "ai.vibapp.demo"
  version := "1.0.0"
  kind := "ui"
  displayName := "Demo"
  description := "A demo."
  entrypoints := [⟨"main", "launcher-ui", "Demo", some "home", []⟩]
  world := "ui-only-reference"
  requiredImports := uiImports
  requiredCapabilities := []
  component := ⟨componentSha256, 4⟩
  provenance := ⟨objectSha256, 3⟩
  sbom := ⟨listSha256, 3⟩

/-- The receipt of the build. -/
def Publisher.receipt (publisher : Publisher) : List (String × Json) :=
  [("authority", .obj [("builder", .str "quarantine-only"), ("install", .str "none"),
      ("publish", .str "none"), ("verify", .str "independent-verifier")]),
    ("build_log_sha256", .str objectSha256),
    ("builder", .obj [("execution_mode", .str "fixture"), ("production_isolation", .bool false),
      ("runner_identity_sha256", .str emptySha256), ("source_execution_observed", .bool false),
      ("version", .str "app-builder.experimental-v1")]),
    ("component_sha256", .str componentSha256),
    ("created_at_utc", .str "2026-01-01T00:00:00Z"),
    ("document_type", .str "builder-quarantine-receipt"), ("job_id", .str "job-1"),
    ("limits", .obj [("concurrent_jobs", .int 1), ("cpu_seconds", .int 240),
      ("disk_bytes", .int 536870912), ("memory_bytes", .int 2147483648), ("open_files", .int 256),
      ("pids", .int 64), ("stderr_bytes", .int 524288), ("stdout_bytes", .int 524288),
      ("wall_seconds", .int 300)]),
    ("manifest_sha256", .str publisher.manifestSha256),
    ("need_spec_digest_sha256", .str emptySha256), ("package_digest_sha256",
      .str publisher.packageSha256), ("package_directory", .str "package"),
    ("package_entrypoints", .arr [.obj [("id", .str "main"), ("initial_route", .str "home"),
      ("kind", .str "launcher-ui"), ("label", .str "Demo"), ("triggers", .arr [])]]),
    ("package_files", .arr (publisher.packageFiles.map fun file =>
      .obj [("path", .str file.path), ("sha256", .str file.sha256),
        ("size_bytes", .int file.sizeBytes)])),
    ("presentation", Presentation.toJson ⟨900, 640, 480, 360, true⟩),
    ("required_capabilities", .arr []),
    ("schema_version", .str "vibapp.builder-quarantine.experimental-v2"),
    ("scope", .str "local-product-prototype"), ("source_directory", .str "source"),
    ("source_tree_sha256", .str sourceSha256), ("state", .str "quarantined-awaiting-verifier"),
    ("terminal_outcome", .str "build-output-untrusted")]

/-- The quarantine that the builder leaves. -/
def Publisher.quarantine (publisher : Publisher) : Quarantine where
  insideJobs := true
  canonicalName := true
  nested := true
  jobName := "job-1"
  receipt := .regular (written (.obj publisher.receipt))
  buildLog := .regular objectBytes
  source := [.directory false, .file "src/lib.rs" (.regular [10])]
  package := .directory [("component.wasm", .regular componentBytes),
    ("manifest.json", .regular (written (.obj publisher.manifest))),
    ("provenance.json", .regular objectBytes), ("sbom.cdx.json", .regular listBytes)]

/-- What the verifier accepts. -/
def Publisher.accepted (publisher : Publisher) : Accepted where
  receipt := {
    jobId := "job-1"
    sourceTreeSha256 := sourceSha256
    requiredCapabilities := []
    packageEntrypoints := [⟨"main", "launcher-ui", "Demo", some "home", []⟩]
    packageDigestSha256 := publisher.packageSha256
    packageFiles := publisher.packageFiles
    componentSha256 := componentSha256
    manifestSha256 := publisher.manifestSha256
    buildLogSha256 := objectSha256
    presentation := some ⟨900, 640, 480, 360, true⟩ }
  digest := publisher.packageSha256
  presentation := ⟨900, 640, 480, 360, true⟩
  checks := promotionChecks
  receiptDigest := publisher.receiptSha256

/-- The preimage of the source tree's digest, and that of the package's. -/
def sourcePreimage : List UInt8 :=
  "VIBAPP-CODEAGENT-SOURCE".toUTF8.data.toList ++
    0 :: sourceRow ⟨"src/lib.rs", lineSha256, 1, "generated-source"⟩

def Publisher.packagePreimage (publisher : Publisher) : List UInt8 :=
  Daemon.packageMagic ++ Daemon.packBE 8 (publisher.manifestSize - 1) ++
    (Json.chars (Json.sortKeys (.obj publisher.manifest))).flatMap String.utf8EncodeChar ++
      [(⟨"component.wasm", componentSha256, 4⟩ : Daemon.Descriptor),
        ⟨"provenance.json", objectSha256, 3⟩, ⟨"sbom.cdx.json", listSha256, 3⟩].flatMap
          Daemon.descriptorBytes

/-- SHA-256 of what the verifier digests. -/
def Publisher.digests (publisher : Publisher) : List (List UInt8 × String) :=
  [(componentBytes, componentSha256), (objectBytes, objectSha256), (listBytes, listSha256),
    ([10], lineSha256), (sourcePreimage, sourceSha256),
    (publisher.packagePreimage, publisher.packageSha256),
    (written (.obj publisher.manifest), publisher.manifestSha256),
    (written (.obj publisher.receipt), publisher.receiptSha256)]

def sampleTime : String := "2026-01-01T00:00:00Z"

def Publisher.record (publisher : Publisher) : Record :=
  recordOf publisher.accepted ⟨some (copies publisher.quarantine), none⟩ sampleTime

/-- What the texts of the documents say. -/
def Publisher.loads (publisher : Publisher) (bytes : List UInt8) : Option Json :=
  if bytes = written (.obj publisher.record.members) then
    some (.obj (Json.sorted publisher.record.members))
  else if bytes = written (.obj publisher.manifest) then some (.obj publisher.manifest)
  else if bytes = written (.obj publisher.receipt) then some (.obj publisher.receipt)
  else none

def Publisher.python (publisher : Publisher) : Python where
  store := {
    sha256 := fun bytes =>
      ((publisher.digests.find? (·.1 = bytes)).map Prod.snd).getD emptySha256
    nfkcCasefold := fun s => String.ofList (s.toList.map Char.toLower)
    loads := publisher.loads }
  loadsBytes := publisher.loads
  conversions := Builder.samplePython
  isDecimal := Char.isDigit

/-- The executables on the sample: the component is valid, and describes itself as the manifest does. -/
def describing : Tools where
  wasm := fun _ _ => .ok ()
  inspect := fun _ manifest => .ok (.obj [
    ("schema_version", .str "vibapp.component-inspector.protocol.experimental-v1"),
    ("component_sha256", .str manifest.component.sha256), ("world", .str manifest.world),
    ("descriptor", .obj [("id", .str manifest.id), ("version", .str manifest.version),
      ("kind", .str manifest.kind), ("display_name", .str manifest.displayName),
      ("entrypoints", .arr [.obj [("id", .str "main"), ("kind", .str "launcher-ui"),
        ("label", .str "Demo"), ("initial_route", .str "home")]])]),
    ("isolation", inspectorIsolation)])

def publishers : List Publisher := [localBuilder, longPublisher]

/-! ### What the verifier finds -/

section Facts

variable {p : Publisher}

/-- What the documents come to. -/
structure Publisher.Computed (p : Publisher) : Prop where
  manifestSize : Json.byteSize (.obj p.manifest) + 1 = p.manifestSize
  receiptSize : Json.byteSize (.obj p.receipt) = 2205
  schema : validateManifestSchema (.obj p.manifest) = .ok ()
  fields : validateReceiptFields p.receipt = .ok p.accepted.receipt
  digests : p.digests.all (fun entry => AppStore.isSha256 entry.2) = true
  digested : (p.digests.map Prod.fst).Nodup
  texts : [written (.obj p.record.members), written (.obj p.manifest),
    written (.obj p.receipt)].Nodup
  keys : duplicateKey (.obj p.receipt) = none ∧ duplicateKey (.obj p.manifest) = none
  read : manifestOf (.obj p.manifest) = readManifest ∧
    manifestEntrypoints (.obj p.manifest) = .ok p.accepted.receipt.packageEntrypoints
  rows : ((Builder.listDescriptors (.obj p.manifest) >>= Builder.sortByPath) >>= fun ds =>
    ds.mapM (Builder.descriptorBytes Builder.samplePython)) =
      .ok ([(⟨"component.wasm", componentSha256, 4⟩ : Daemon.Descriptor),
        ⟨"provenance.json", objectSha256, 3⟩, ⟨"sbom.cdx.json", listSha256, 3⟩].map
          Daemon.descriptorBytes)
  presentation : deriveHostPresentation p.python readManifest.kind readManifest.displayName
    readManifest.description = .ok p.accepted.presentation

-- one document at a time: the kernel keeps what it has read of a text
theorem computed_localBuilder : localBuilder.Computed where
  manifestSize := by decide +kernel
  receiptSize := by decide +kernel
  schema := by decide +kernel
  fields := by decide +kernel
  digests := by decide +kernel
  digested := by decide +kernel
  texts := by decide +kernel
  keys := by decide +kernel
  read := by decide +kernel
  rows := by decide +kernel
  presentation := by decide +kernel

theorem computed_longPublisher : longPublisher.Computed where
  manifestSize := by decide +kernel
  receiptSize := by decide +kernel
  schema := by decide +kernel
  fields := by decide +kernel
  digests := by decide +kernel
  digested := by decide +kernel
  texts := by decide +kernel
  keys := by decide +kernel
  read := by decide +kernel
  rows := by decide +kernel
  presentation := by decide +kernel

theorem computed (h : p ∈ publishers) : p.Computed := by
  rcases List.mem_cons.1 h with rfl | h
  · exact computed_localBuilder
  · rw [List.mem_singleton.1 h]
    exact computed_longPublisher

theorem size_manifest (h : p ∈ publishers) :
    Json.size (.obj p.manifest) + 1 = p.manifestSize := by
  rw [Json.size_eq, (computed h).manifestSize]

theorem size_receipt (h : p ∈ publishers) : Json.size (.obj p.receipt) = 2205 := by
  rw [Json.size_eq, (computed h).receiptSize]

theorem sha256_publisher (h : p ∈ publishers) {bytes : List UInt8} {digest : String}
    (hmem : (bytes, digest) ∈ p.digests) : p.python.store.sha256 bytes = digest := by
  have hfind := AppStore.find?_of_mem (computed h).digested hmem
  exact congrArg (fun found => Option.getD found emptySha256) hfind

theorem Publisher.loadsBytes_eq (p : Publisher) : p.python.loadsBytes = p.loads := rfl

theorem Publisher.storeLoads_eq (p : Publisher) : p.python.store.loads = p.loads := rfl

theorem loads_manifest (h : p ∈ publishers) :
    p.loads (written (.obj p.manifest)) = some (.obj p.manifest) := by
  have hdistinct := (computed h).texts
  simp only [List.nodup_cons, List.mem_cons, List.not_mem_nil, or_false, not_or] at hdistinct
  unfold Publisher.loads
  rw [if_neg (Ne.symm hdistinct.1.1), if_pos rfl]

theorem loads_receipt (h : p ∈ publishers) :
    p.loads (written (.obj p.receipt)) = some (.obj p.receipt) := by
  have hdistinct := (computed h).texts
  simp only [List.nodup_cons, List.mem_cons, List.not_mem_nil, or_false, not_or] at hdistinct
  unfold Publisher.loads
  rw [if_neg (Ne.symm hdistinct.1.2), if_neg (Ne.symm hdistinct.2.1), if_pos rfl]

theorem validateReceipt_publisher (h : p ∈ publishers) :
    validateReceipt (pipeline p.python) p.quarantine = .ok p.accepted.receipt := by
  have hsize := size_receipt h
  have hfields := (computed h).fields
  have hkeys := (computed h).keys.1
  have hlength := length_written (.obj p.receipt)
  have hreceipt : readBounded p.quarantine.receipt maxJsonBytes "quarantine receipt" =
      .ok (written (.obj p.receipt)) :=
    readBounded_regular _ (by omega) (by rw [hlength, hsize]; decide)
  have hloadReceipt : (pipeline p.python).loadReceipt (written (.obj p.receipt)) =
      .ok p.accepted.receipt := by
    have hloads : p.python.loadsBytes (written (.obj p.receipt)) = some (.obj p.receipt) := by
      rw [p.loadsBytes_eq, loads_receipt h]
    change (loadJson p.python (written (.obj p.receipt)) "quarantine receipt" >>=
      validateReceiptFields) = _
    rw [loadJson_of_loads hloads hkeys, ok_bind, hfields]
  have hlog : sha256File (pipeline p.python) p.quarantine.buildLog maxJsonBytes "build log" =
      .ok objectSha256 :=
    congrArg Except.ok (sha256_publisher h (.tail _ (.head _)))
  have hline : p.python.store.sha256 [10] = lineSha256 :=
    sha256_publisher h (.tail _ (.tail _ (.tail _ (.head _))))
  have hrecords : sourceRecords (pipeline p.python) p.quarantine.source =
      .ok [⟨"src/lib.rs", lineSha256, 1, "generated-source"⟩] := by
    have hread : readBounded (.regular [10]) maxSourceBytes "src/lib.rs" = .ok [10] :=
      readBounded_regular _ (by decide) (by decide)
    change sourceRecords _ [.directory false, .file "src/lib.rs" (.regular [10])] = _
    rw [sourceRecords, require, if_pos (by decide), ok_bind, sourceRecords, hread, ok_bind,
      sourceRecords, ok_bind, if_neg (by decide)]
    exact congrArg (fun digest => Except.ok [SourceRecord.mk "src/lib.rs" digest 1
      "generated-source"]) hline
  have htree : (pipeline p.python).sourceTreeDigest
      [⟨"src/lib.rs", lineSha256, 1, "generated-source"⟩] = sourceSha256 :=
    sha256_publisher h (.tail _ (.tail _ (.tail _ (.tail _ (.head _)))))
  have hpresent : p.quarantine.receipt ≠ .missing := nofun
  have hinside : p.quarantine.insideJobs = true := rfl
  have hcanonical : p.quarantine.canonicalName = true := rfl
  have hnested : p.quarantine.nested = true := rfl
  have hjob : p.accepted.receipt.jobId = p.quarantine.jobName := rfl
  have hlogSha : objectSha256 = p.accepted.receipt.buildLogSha256 := rfl
  have hsourceSha : sourceSha256 = p.accepted.receipt.sourceTreeSha256 := rfl
  unfold validateReceipt
  rw [if_neg hpresent]
  dsimp only
  rw [require_of_true hinside, ok_bind, require_of_true hcanonical, ok_bind, require_of_true hnested,
    ok_bind, hreceipt, ok_bind, hloadReceipt, ok_bind, require_of_true (decide_eq_true hjob), ok_bind,
    hlog, ok_bind, require_of_true (decide_eq_true hlogSha), ok_bind, hrecords, ok_bind, htree,
    require_of_true (decide_eq_true hsourceSha), ok_bind]
  rfl

theorem manifestSize_publisher (h : p ∈ publishers) :
    (written (.obj p.manifest)).length = p.manifestSize ∧ 1 ≤ p.manifestSize ∧
      p.manifestSize ≤ 65536 := by
  have hsize := size_manifest h
  have hbound : ∀ q ∈ publishers, 1 ≤ q.manifestSize ∧ q.manifestSize ≤ 65536 := by decide
  exact ⟨by rw [length_written, hsize], hbound p h⟩

theorem sha256_component (h : p ∈ publishers) :
    p.python.store.sha256 componentBytes = componentSha256 := sha256_publisher h (.head _)

theorem sha256_receipt (h : p ∈ publishers) :
    p.python.store.sha256 (written (.obj p.receipt)) = p.receiptSha256 :=
  sha256_publisher h
    (.tail _ (.tail _ (.tail _ (.tail _ (.tail _ (.tail _ (.tail _ (.head _))))))))

theorem sha256_manifest (h : p ∈ publishers) :
    p.python.store.sha256 (written (.obj p.manifest)) = p.manifestSha256 :=
  sha256_publisher h (.tail _ (.tail _ (.tail _ (.tail _ (.tail _ (.tail _ (.head _)))))))

/-- The files are as the receipt lists them. -/
theorem inventory_publisher (h : p ∈ publishers) :
    validateInventory (pipeline p.python) p.quarantine.package p.packageFiles [] 0 =
      .ok (p.packageFiles, 0 + (p.packageFiles.map PackageFile.sizeBytes).sum) := by
  obtain ⟨hlength, hpos, hle⟩ := manifestSize_publisher h
  refine validateInventory_eq_ok (by simp [Publisher.packageFiles]) ?_
  unfold Publisher.packageFiles
  rw [List.forall_mem_cons, List.forall_mem_cons, List.forall_mem_cons, List.forall_mem_singleton]
  refine ⟨⟨.tail _ (.head _), _, rfl, sha256_manifest h, hlength, hpos, ?_⟩,
    ⟨by decide, _, rfl, sha256_publisher h (.head _), rfl, by decide, by decide⟩,
    ⟨by decide, _, rfl, sha256_publisher h (.tail _ (.head _)), rfl, by decide, by decide⟩,
    ⟨by decide, _, rfl, sha256_publisher h (.tail _ (.tail _ (.head _))), rfl, by decide,
      by decide⟩⟩
  exact hle.trans (by decide)

theorem validatePackageTree_publisher (h : p ∈ publishers) :
    validatePackageTree (pipeline p.python) p.quarantine.package p.accepted.receipt =
      .ok (.obj p.manifest, readManifest) := by
  have hschema := (computed h).schema
  obtain ⟨hlength, hpos, hle⟩ := manifestSize_publisher h
  obtain ⟨hmanifest, hentrypoints⟩ := (computed h).read
  have hkeys := (computed h).keys.2
  have hloads : p.python.loadsBytes (written (.obj p.manifest)) = some (.obj p.manifest) := by
    rw [p.loadsBytes_eq, loads_manifest h]
  have hloadJson : (pipeline p.python).loadJson (written (.obj p.manifest)) =
      .ok (.obj p.manifest) := by
    change Json.obj <$> loadJson p.python (written (.obj p.manifest)) "manifest" = _
    rw [loadJson_of_loads hloads hkeys]
    rfl
  have hvalidated : (pipeline p.python).validateManifestSchema (.obj p.manifest) =
      .ok readManifest := by
    change (validateManifestSchema (.obj p.manifest) >>= fun _ =>
      pure (manifestOf (.obj p.manifest))) = _
    rw [hschema, hmanifest]
    rfl
  have hprojected : (pipeline p.python).manifestEntrypoints (.obj p.manifest) =
      .ok p.accepted.receipt.packageEntrypoints := hentrypoints
  have hdata : readBounded (p.quarantine.package.entry "manifest.json") maxJsonBytes "manifest" =
      .ok (written (.obj p.manifest)) :=
    readBounded_regular _ (by omega) (by rw [hlength]; exact hle.trans (by decide))
  have hinventory := inventory_publisher h
  have htotal : (p.packageFiles.map PackageFile.sizeBytes).sum ≤ maxPackageBytes := by
    have hmaximum : maxPackageBytes = 67108864 := rfl
    simp only [Publisher.packageFiles, List.map_cons, List.map_nil, List.sum_cons, List.sum_nil]
    omega
  have hindexed : (isExpected (p.packageFiles.map PackageFile.path) &&
      decide (0 + (p.packageFiles.map PackageFile.sizeBytes).sum ≤ maxPackageBytes)) = true := by
    rw [Nat.zero_add, decide_eq_true htotal, Bool.and_true]
    rfl
  have hfiles : p.accepted.receipt.packageFiles = p.packageFiles := rfl
  have hfour : p.packageFiles.length = 4 := rfl
  have hcapabilities : sameSet readManifest.requiredCapabilities
      p.accepted.receipt.requiredCapabilities = true := rfl
  have hcomponent : describes p.packageFiles "component.wasm" readManifest.component = true := rfl
  have hprovenance : describes p.packageFiles "provenance.json" readManifest.provenance = true := rfl
  have hsbom : describes p.packageFiles "sbom.cdx.json" readManifest.sbom = true := rfl
  have hnames : isExpected (["component.wasm", "manifest.json", "provenance.json",
      "sbom.cdx.json"]) = true := by decide
  unfold validatePackageTree
  rw [hfiles]
  change (require (isExpected (["component.wasm", "manifest.json", "provenance.json",
    "sbom.cdx.json"])) _ _ >>= _) = _
  rw [require_of_true hnames, ok_bind, require_of_true (decide_eq_true hfour), ok_bind]
  rw [hinventory, ok_bind]
  dsimp only
  rw [require_of_true hindexed, ok_bind]
  rw [hdata, ok_bind, hloadJson, ok_bind, hvalidated, ok_bind, require_of_true hcapabilities, ok_bind,
    hprojected, ok_bind, require_of_true (decide_eq_true rfl), ok_bind, require_of_true hcomponent,
    ok_bind, require_of_true hprovenance, ok_bind, require_of_true hsbom, ok_bind]
  rfl

theorem toBytes_publisher (h : p ∈ publishers) :
    Builder.toBytes 8 (canonicalJson (.obj p.manifest)).length =
      .ok (Daemon.packBE 8 (p.manifestSize - 1)) := by
  have hsize := size_manifest h
  have hle : p.manifestSize ≤ 65536 := (manifestSize_publisher h).2.2
  have hcount : (canonicalJson (.obj p.manifest)).length = p.manifestSize - 1 := by
    rw [length_canonicalJson]
    omega
  unfold Builder.toBytes
  rw [hcount, if_pos]
  · rfl
  · omega

theorem preimage_publisher (h : p ∈ publishers) :
    Builder.preimage p.python.conversions (.obj p.manifest) = .ok p.packagePreimage := by
  obtain ⟨descriptors, hdescriptors, hbytes⟩ := bind_eq_ok.1 (computed h).rows
  unfold Builder.preimage
  rw [hdescriptors, ok_bind]
  dsimp only
  rw [toBytes_publisher h, ok_bind]
  change (descriptors.mapM (Builder.descriptorBytes Builder.samplePython) >>= _) = _
  rw [hbytes, ok_bind, Publisher.packagePreimage, AppStore.canonicalJson_eq, ← List.flatMap_def]
  rfl

theorem packageDigest_publisher (h : p ∈ publishers) :
    packageDigest p.python (.obj p.manifest) = .ok p.packageSha256 := by
  have hsha : p.python.store.sha256 p.packagePreimage = p.packageSha256 :=
    sha256_publisher h (.tail _ (.tail _ (.tail _ (.tail _ (.tail _ (.head _))))))
  rw [packageDigest_of_preimage (preimage_publisher h), hsha]

theorem validateDigests_publisher (h : p ∈ publishers) :
    validateDigests (pipeline p.python) p.quarantine.package p.accepted.receipt (.obj p.manifest)
      readManifest = .ok (p.accepted.presentation, p.packageSha256, componentBytes) := by
  obtain ⟨hlength, hpos, hle⟩ := manifestSize_publisher h
  have hpresentation : (pipeline p.python).deriveHostPresentation readManifest =
      .ok p.accepted.presentation := (computed h).presentation
  have hdigest : (pipeline p.python).packageDigest (.obj p.manifest) = .ok p.packageSha256 := by
    rw [pipeline_packageDigest, packageDigest_publisher h]
  have hcomponent : readBounded (p.quarantine.package.entry "component.wasm") maxComponentBytes
      "component" = .ok componentBytes := readBounded_regular _ (by decide) (by decide)
  have hmanifest : readBounded (p.quarantine.package.entry "manifest.json") maxJsonBytes "manifest" =
      .ok (written (.obj p.manifest)) :=
    readBounded_regular _ (by omega) (by rw [hlength]; exact hle.trans (by decide))
  have hcomponentSha : (pipeline p.python).sha256 componentBytes =
      p.accepted.receipt.componentSha256 := by
    rw [pipeline_sha256, sha256_component h]
    rfl
  have hmanifestSha : (pipeline p.python).sha256 (written (.obj p.manifest)) =
      p.accepted.receipt.manifestSha256 := by
    rw [pipeline_sha256, sha256_manifest h]
    rfl
  have hsame : p.packageSha256 = p.accepted.receipt.packageDigestSha256 := rfl
  have hoffered : (p.accepted.receipt.presentation.all fun presentation =>
      decide (presentation = p.accepted.presentation)) = true := rfl
  unfold validateDigests
  rw [hpresentation, ok_bind, require_of_true hoffered, ok_bind, hdigest, ok_bind,
    require_of_true (decide_eq_true hsame), ok_bind, hcomponent, ok_bind,
    require_of_true (decide_eq_true hcomponentSha), ok_bind, hmanifest, ok_bind,
    require_of_true (decide_eq_true hmanifestSha), ok_bind]
  rfl

/-- **The verifier accepts** the quarantine of either publisher. -/
theorem verify_publisher (h : p ∈ publishers) :
    verify (pipeline p.python) describing p.quarantine = .ok p.accepted := by
  have hsize := size_receipt h
  have hlength := length_written (.obj p.receipt)
  have hreceipt : readBounded p.quarantine.receipt maxJsonBytes "quarantine receipt" =
      .ok (written (.obj p.receipt)) :=
    readBounded_regular _ (by omega) (by rw [hlength, hsize]; decide)
  have hguest : (pipeline p.python).reconcileGuestDescriptor describing componentBytes readManifest =
      .ok guestCheck := by
    rfl
  have hwasm : (pipeline p.python).runWasmChecks describing componentBytes readManifest =
      .ok wasmChecks := rfl
  unfold verify sha256File
  rw [validateReceipt_publisher h, ok_bind, validatePackageTree_publisher h, ok_bind]
  dsimp only
  rw [validateDigests_publisher h, ok_bind]
  dsimp only
  rw [hwasm, ok_bind, hguest, ok_bind, hreceipt, ok_bind, pipeline_sha256,
    sha256_receipt h]
  rfl

theorem documented_publisher (h : p ∈ publishers) : Documented p.python where
  isSha256 := by
    have hdigests := (computed h).digests
    rw [List.all_eq_true] at hdigests
    intro data
    change AppStore.isSha256 (((p.digests.find? (·.1 = data)).map Prod.snd).getD emptySha256) = true
    cases hfind : p.digests.find? (·.1 = data) with
    | none => exact (by decide : AppStore.isSha256 emptySha256 = true)
    | some entry => exact hdigests entry (List.mem_of_find?_eq_some hfind)
  loads := fun _ _ h => h

/-! ### What the store makes of it -/

theorem isTimestamp_sampleTime (p : Publisher) :
    isTimestamp (pipeline p.python) sampleTime = true := by
  have hsame : isTimestamp (pipeline p.python) sampleTime = isTimestamp sampleLibrary sampleTime :=
    rfl
  rw [hsame]
  decide

/-- The call that promotes the quarantine. -/
def Publisher.call (p : Publisher) : Call (pipeline p.python) where
  reference := emptySha256
  recheckExisting := false
  env := {
    quarantine := p.quarantine
    tools := describing
    now := ⟨sampleTime, isTimestamp_sampleTime p⟩
    busy := false
    fault := fun _ => none
    outer := fun _ => none }

def Publisher.candidate (p : Publisher) : Candidate := candidateOf p.quarantine p.accepted sampleTime

theorem promoted_publisher (h : p ∈ publishers) :
    (after [p.call]).candidates.get? p.packageSha256 = some p.candidate := by
  have hquiet : Quiet p.call.env := ⟨rfl, fun _ => rfl, rfl, rfl⟩
  have hverify : verify (pipeline p.python) p.call.env.tools p.call.env.quarantine =
      .ok p.accepted := verify_publisher h
  have hnew : Disk.empty.candidates.get? p.accepted.digest = none := rfl
  have hafter : after [p.call] = (p.call.run Disk.empty).2 := rfl
  have hcandidate : candidateOf p.call.env.quarantine p.accepted p.call.env.now.1 = p.candidate :=
    rfl
  have hdigest : p.accepted.digest = p.packageSha256 := rfl
  rw [hafter, ← hcandidate, ← hdigest]
  exact Call.promotes hquiet hverify hnew

theorem isMoment_sampleTime : IsMoment sampleTime := by
  obtain ⟨t, ht, hyear⟩ : ∃ t : Instant, sampleTime = t.text ∧ t.date.ymd.1 = 2026 :=
    ⟨⟨63902822400, by decide⟩, by decide, by decide⟩
  exact ⟨t, ht, by omega⟩

/-- The directory of the promotion, as the store copies it. -/
def Publisher.source (p : Publisher) : AppStore.Source where
  name := "candidate.json"
  candidate := .regular p.record.bytes
  package := .directory ((copies p.quarantine).map fun file => .file file.1 (.regular file.2))

theorem sourceOf_publisher (p : Publisher) : SourceOf p.candidate p.source :=
  ⟨rfl, p.record, copies p.quarantine, copies p.quarantine, rfl, rfl, rfl, .refl _, rfl⟩

theorem readsBack_publisher (p : Publisher) : ReadsBack p.python p.candidate := by
  intro record hrecord
  obtain rfl : p.record = record := Option.some.inj hrecord
  rw [p.storeLoads_eq, Record.bytes, ← written_eq]
  exact if_pos rfl

/-- The store finds the manifest. -/
theorem loads_entry (h : p ∈ publishers) :
    p.python.store.loads (p.quarantine.package.entry "manifest.json").data =
      some (.obj p.manifest) := by
  have hdata : (p.quarantine.package.entry "manifest.json").data = written (.obj p.manifest) := rfl
  rw [hdata, p.storeLoads_eq, loads_manifest h]

theorem storeBounds_localBuilder : StoreBounds localBuilder.python localBuilder.quarantine := by
  have hlocal : localBuilder ∈ publishers := .head _
  have hloads := loads_entry hlocal
  have hderivations : read (read (.obj localBuilder.manifest) "artifacts") "browser_derivations" =
      .arr [] := rfl
  have hdescription : textOf (read (read (.obj localBuilder.manifest) "app") "description") =
      "A demo." := rfl
  have hid : textOf (read (read (read (.obj localBuilder.manifest) "app") "publisher") "id") =
      "ai.vibapp.local" := rfl
  have hdisplayName : textOf (read (read (read (.obj localBuilder.manifest) "app") "publisher")
      "display_name") = "VibApp Local Builder" := rfl
  have hstate : StateOrdered (read (.obj localBuilder.manifest) "state") :=
    ⟨1, 1, rfl, rfl, le_rfl⟩
  have happ : AppFits (read (.obj localBuilder.manifest) "app") := by
    refine ⟨?_, ?_, ?_, ?_, ?_⟩
    · rw [hdescription]
      decide +kernel
    · rw [hid]
      decide +kernel
    · rw [hdisplayName]
      decide +kernel
    · rw [hdisplayName]
      decide +kernel
    · rw [hdisplayName]
      decide +kernel
  refine ⟨⟨?_, ?_, ?_⟩, .obj localBuilder.manifest, hloads, hderivations, happ, hstate⟩
  · decide +kernel
  · decide +kernel
  · decide +kernel

/-- A publisher's name is bounded by the store. -/
theorem displayName_of_storeBounds (h : p ∈ publishers) (hbounds : StoreBounds p.python p.quarantine) :
    Fits 80 p.displayName := by
  obtain ⟨manifest, hloads, hmanifest⟩ := hbounds.manifest
  rw [loads_entry h] at hloads
  cases Option.some.inj hloads
  exact hmanifest.app.publisherName

/-- The store takes what the local builder makes. -/
theorem promoted_ingestible_localBuilder :
    Ingests localBuilder.python.store localBuilder.packageSha256 localBuilder.source := by
  have h : localBuilder ∈ publishers := .head _
  obtain ⟨call, hcall, -, hiff⟩ := promoted_ingestible (documented_publisher h)
    (fun call hcall => by
      rw [List.mem_singleton.1 hcall]
      exact isMoment_sampleTime)
    (promoted_publisher h) (readsBack_publisher _) (sourceOf_publisher _)
  rw [List.mem_singleton.1 hcall] at hiff
  exact hiff.2 storeBounds_localBuilder

/-- **A publisher with a long name**: its app is promoted, and the store never takes it. -/
theorem long_publisher_refused :
    (after [longPublisher.call]).candidates.get? longPublisher.packageSha256 =
        some longPublisher.candidate ∧
      SourceOf longPublisher.candidate longPublisher.source ∧
        ¬ Ingests longPublisher.python.store longPublisher.packageSha256 longPublisher.source := by
  have h : longPublisher ∈ publishers := .tail _ (.head _)
  refine ⟨promoted_publisher h, sourceOf_publisher _, ?_⟩
  intro hingests
  have hbounds := (ingests_iff (documented_publisher h) (verify_publisher h) isMoment_sampleTime
    (sourceOf_publisher _) (readsBack_publisher _)).1 hingests
  have hsize : longPublisher.displayName.utf8ByteSize = 81 := by decide
  have hfits := (displayName_of_storeBounds h hbounds).size
  omega

end Facts

end Vibapp.Verifier
