import Vibapp.Builder.Handoff
import Vibapp.CloudAgent.AuditFacts

/-!
# Two readings of a package

The Builder's checks of a package, a target, a scaffold and a provider execution, for what the cloud
agent has accepted. They are written separately from those of the cloud agent.

**Main result** (`validatePackage_iff`). The two differ in two places: the Builder counts the bytes
of a text where the cloud agent counts its characters, and a settings entrypoint has a route only for
the cloud agent. The target (`validateTarget_ok`), the scaffold (`validateCargoManifest_ok`) and the
provider execution (`validateProvider_ok`) are accepted.
-/

namespace Vibapp.Builder

open CloudAgent (Entrypoint PackageIntent Target ProviderExecution SourceTree)
open ProviderRunner (Node hexText)
open Verifier (PipelineError)

theorem require_eq_ok {ok : Bool} {code message : String} {u : Unit} :
    require ok code message = .ok u ↔ ok = true := by
  unfold require
  cases ok <;> simp

/-- A check in front of the rest. -/
theorem check_eq_ok {α : Type} {x : Except PipelineError Unit} {f : Unit → Except PipelineError α}
    {a : α} : (x >>= f) = .ok a ↔ x = .ok () ∧ f () = .ok a := by
  cases x with
  | error e => simp
  | ok u => simp

/-! ## Entrypoints -/

/-- What the Builder asks of an entrypoint beyond the cloud agent. -/
structure EntrypointFits (entrypoint : Entrypoint) : Prop where
  label : entrypoint.label.utf8ByteSize ≤ 80
  route : entrypoint.kind = "settings" → entrypoint.initialRoute = none

theorem textValue_ok {value context : String} {minimum maximum : Nat} {u : Unit}
    (h : CloudAgent.textValue value context minimum maximum = .ok u) :
    minimum ≤ value.toList.length ∧ value.toList.length ≤ maximum := by
  unfold CloudAgent.textValue at h
  obtain ⟨_, hlength, -⟩ := bind_eq_ok.1 h
  have hbounds := CloudAgent.require_eq_ok.1 hlength
  rw [Bool.and_eq_true, decide_eq_true_eq, decide_eq_true_eq] at hbounds
  exact hbounds

/-- A text that has characters is within a bound of bytes. -/
theorem isBoundedText_iff {text : String} {limit : Nat} (h : 1 ≤ text.toList.length) :
    isBoundedText text limit = true ↔ text.utf8ByteSize ≤ limit := by
  have hne : text ≠ "" := by
    rintro rfl
    exact absurd h (by decide)
  simp [isBoundedText, hne]

/-- What the cloud agent accepts as an entrypoint. -/
structure EntrypointAccepted (entrypoint : Entrypoint) : Prop where
  id : isIdentifier entrypoint.id = true
  kind : entrypoint.kind = "launcher-ui" ∨ entrypoint.kind = "service" ∨
    entrypoint.kind = "settings"
  label : 1 ≤ entrypoint.label.toList.length
  routeId : entrypoint.initialRoute.all Launcher.isId = true
  launcher : entrypoint.kind = "launcher-ui" → entrypoint.initialRoute.isSome = true
  service : entrypoint.kind = "service" → entrypoint.initialRoute = none
  triggers : entrypoint.kind = "service" →
    isCanonicalTriggers (entrypoint.triggers.getD ["manual"]) = true
  noTriggers : entrypoint.kind ≠ "service" → entrypoint.triggers = none

theorem entrypoint_accepted {entrypoint : Entrypoint} {u : Unit}
    (h : CloudAgent.validateEntrypoint entrypoint = .ok u) : EntrypointAccepted entrypoint := by
  unfold CloudAgent.validateEntrypoint at h
  obtain ⟨_, hid, h⟩ := bind_eq_ok.1 h
  obtain ⟨_, hkind, h⟩ := bind_eq_ok.1 h
  obtain ⟨_, hlabel, h⟩ := bind_eq_ok.1 h
  obtain ⟨_, hroute, h⟩ := bind_eq_ok.1 h
  obtain ⟨_, hlauncher, h⟩ := bind_eq_ok.1 h
  obtain ⟨_, hservice, h⟩ := bind_eq_ok.1 h
  have hkind := CloudAgent.require_eq_ok.1 hkind
  have hlauncher := CloudAgent.require_eq_ok.1 hlauncher
  have hservice := CloudAgent.require_eq_ok.1 hservice
  constructor
  · exact CloudAgent.require_eq_ok.1 hid
  · simpa using hkind
  · exact (textValue_ok hlabel).1
  · exact CloudAgent.require_eq_ok.1 hroute
  · intro heq
    cases hsome : entrypoint.initialRoute with
    | none => simp [heq, hsome] at hlauncher
    | some route => rfl
  · intro heq
    simpa [heq] using hservice
  · intro heq
    rw [if_pos heq] at h
    exact CloudAgent.require_eq_ok.1 h
  · intro hne
    rw [if_neg hne] at h
    exact Option.isNone_iff_eq_none.1 (CloudAgent.require_eq_ok.1 h)

/-- The routes that the Builder asks for. -/
theorem routes_iff {row : Entrypoint} (h : EntrypointAccepted row) :
    ((!(row.kind = "launcher-ui" && row.initialRoute.isNone)) = true ∧
      (!(row.kind ≠ "launcher-ui" && row.initialRoute.isSome)) = true) ↔
        (row.kind = "settings" → row.initialRoute = none) := by
  rcases h.kind with hkind | hkind | hkind
  · simp [hkind, h.launcher hkind]
  · simp [hkind, h.service hkind]
  · simp [hkind]

/-- **The Builder's turn for an entrypoint.** -/
theorem validateEntrypoint_iff {seen seen' : List String} {row : Entrypoint}
    (h : EntrypointAccepted row) (hnew : row.id ∉ seen) :
    validateEntrypoint seen row = .ok seen' ↔ EntrypointFits row ∧ seen' = seen ++ [row.id] := by
  have hid : (isIdentifier row.id && !seen.contains row.id) = true := by
    simp [h.id, hnew]
  have hkind : ["launcher-ui", "service", "settings"].contains row.kind = true := by
    simpa using h.kind
  have hroutes := routes_iff h
  unfold validateEntrypoint
  simp only [check_eq_ok, require_eq_ok, hid, hkind, true_and]
  rw [isBoundedText_iff h.label, ← and_assoc (c := _ = Except.ok seen'), hroutes]
  by_cases hservice : row.kind = "service"
  · rw [if_pos hservice, check_eq_ok, require_eq_ok, pure_eq_ok]
    constructor
    · rintro ⟨hlabel, hroute, -, rfl⟩
      exact ⟨⟨hlabel, hroute⟩, rfl⟩
    · rintro ⟨hfits, rfl⟩
      exact ⟨hfits.label, hfits.route, h.triggers hservice, rfl⟩
  · rw [if_neg hservice, check_eq_ok, require_eq_ok, pure_eq_ok]
    constructor
    · rintro ⟨hlabel, hroute, -, rfl⟩
      exact ⟨⟨hlabel, hroute⟩, rfl⟩
    · rintro ⟨hfits, rfl⟩
      exact ⟨hfits.label, hfits.route, Option.isNone_iff_eq_none.2 (h.noTriggers hservice), rfl⟩

/-- The Builder's loop over the entrypoints. -/
theorem foldlM_entrypoints_iff {entrypoints : List Entrypoint} {seen : List String}
    (h : ∀ row ∈ entrypoints, EntrypointAccepted row)
    (hnodup : (seen ++ entrypoints.map Entrypoint.id).Nodup) :
    (∃ seen', entrypoints.foldlM validateEntrypoint seen = .ok seen') ↔
      ∀ row ∈ entrypoints, EntrypointFits row := by
  induction entrypoints generalizing seen with
  | nil =>
    constructor
    · exact fun _ _ hrow => absurd hrow List.not_mem_nil
    · exact fun _ => ⟨seen, rfl⟩
  | cons row rest ih =>
    have hrow := h row List.mem_cons_self
    have hnew : row.id ∉ seen := by
      intro hmem
      exact List.disjoint_of_nodup_append hnodup hmem List.mem_cons_self
    have hrest : (∃ seen', rest.foldlM validateEntrypoint (seen ++ [row.id]) = .ok seen') ↔
        ∀ row ∈ rest, EntrypointFits row := by
      apply ih
      · exact fun row hmem => h row (List.mem_cons_of_mem _ hmem)
      · simpa using hnodup
    rw [List.forall_mem_cons, ← hrest]
    constructor
    · rintro ⟨seen', hfold⟩
      rw [List.foldlM_cons] at hfold
      obtain ⟨next, hturn, hfold⟩ := bind_eq_ok.1 hfold
      obtain ⟨hfits, rfl⟩ := (validateEntrypoint_iff hrow hnew).1 hturn
      exact ⟨hfits, seen', hfold⟩
    · rintro ⟨hfits, seen', hfold⟩
      refine ⟨seen', ?_⟩
      rw [List.foldlM_cons, (validateEntrypoint_iff hrow hnew).2 ⟨hfits, rfl⟩, ok_bind]
      exact hfold

/-! ## The package -/

/-- What the Builder asks of a package beyond the cloud agent. -/
structure PackageFits (package : PackageIntent) : Prop where
  displayName : package.displayName.utf8ByteSize ≤ 80
  description : package.description.utf8ByteSize ≤ 1000
  entrypoints : ∀ row ∈ package.entrypoints, EntrypointFits row

/-- What the cloud agent accepts as a package. -/
structure PackageAccepted (package : PackageIntent) : Prop where
  appId : isAppId package.appId = true
  version : isSemver package.version = true
  displayName : 1 ≤ package.displayName.toList.length
  description : 1 ≤ package.description.toList.length
  count : 1 ≤ package.entrypoints.length ∧ package.entrypoints.length ≤ 16
  entrypoints : ∀ row ∈ package.entrypoints, EntrypointAccepted row
  ids : (package.entrypoints.map Entrypoint.id).Nodup

theorem package_accepted {package : PackageIntent} {u : Unit}
    (h : CloudAgent.validatePackage package = .ok u) : PackageAccepted package := by
  unfold CloudAgent.validatePackage at h
  obtain ⟨_, happ, h⟩ := bind_eq_ok.1 h
  obtain ⟨_, hversion, h⟩ := bind_eq_ok.1 h
  obtain ⟨_, hname, h⟩ := bind_eq_ok.1 h
  obtain ⟨_, hdescription, h⟩ := bind_eq_ok.1 h
  obtain ⟨_, hcount, h⟩ := bind_eq_ok.1 h
  obtain ⟨_, hentries, h⟩ := bind_eq_ok.1 h
  have hcount := CloudAgent.require_eq_ok.1 hcount
  rw [Bool.and_eq_true, decide_eq_true_eq, decide_eq_true_eq] at hcount
  constructor
  · exact CloudAgent.require_eq_ok.1 happ
  · exact CloudAgent.require_eq_ok.1 hversion
  · exact (textValue_ok hname).1
  · exact (textValue_ok hdescription).1
  · exact hcount
  · exact fun row hrow => entrypoint_accepted (forM_eq_ok.1 hentries row hrow)
  · exact of_decide_eq_true (CloudAgent.require_eq_ok.1 h)

/-- **The Builder's checks of a package.** -/
theorem validatePackage_iff {package : PackageIntent} (h : PackageAccepted package) :
    validatePackage package = .ok () ↔ PackageFits package := by
  have hcount : (1 ≤ package.entrypoints.length && package.entrypoints.length ≤ 16 : Bool) =
      true := by
    simp [h.count.1, h.count.2]
  have hfold : (∃ seen, package.entrypoints.foldlM validateEntrypoint [] = .ok seen) ↔
      ∀ row ∈ package.entrypoints, EntrypointFits row :=
    foldlM_entrypoints_iff h.entrypoints h.ids
  unfold validatePackage
  simp only [check_eq_ok, require_eq_ok, h.appId, h.version, hcount, true_and]
  rw [isBoundedText_iff h.displayName, isBoundedText_iff h.description, bind_eq_ok]
  constructor
  · rintro ⟨hname, hdescription, seen, hseen, -⟩
    exact ⟨hname, hdescription, hfold.1 ⟨seen, hseen⟩⟩
  · rintro hfits
    obtain ⟨seen, hseen⟩ := hfold.2 hfits.entrypoints
    exact ⟨hfits.displayName, hfits.description, seen, hseen, rfl⟩

/-! ## The target -/

theorem worldImports_eq : worldImports = CloudAgent.worldImports := rfl

theorem worldKind_eq : worldKind = CloudAgent.worldKind := rfl

/-- What the cloud agent accepts as a target. -/
structure TargetAccepted (package : PackageIntent) (target : Target) : Prop where
  contract : target.contract = "vibapp:experimental-v0@0.0.1"
  toolchain : target.wasi = "0.2" ∧ target.rustTarget = "wasm32-wasip2"
  appKind : (worldKind.lookup target.witWorld).all (target.appKind = ·) = true
  kinds : CloudAgent.matchesKind target.appKind (package.entrypoints.map Entrypoint.kind) = true
  profiles : target.profiles ≠ [] ∧ target.profiles.Nodup ∧ target.profiles.length ≤ 4
  imports : worldImports.lookup target.witWorld = some target.requiredImports
  capabilities : target.requiredCapabilities.Nodup ∧ target.requiredCapabilities.length ≤ 8 ∧
    target.requiredCapabilities.all target.requiredImports.contains = true

theorem stringArray_ok {values : List String} {context : String} {maximum : Nat}
    {allowed : Option (List String)} {u : Unit}
    (h : CloudAgent.stringArray values context maximum allowed = .ok u) :
    values.length ≤ maximum ∧ values.Nodup := by
  unfold CloudAgent.stringArray at h
  obtain ⟨_, hlength, h⟩ := bind_eq_ok.1 h
  obtain ⟨_, -, h⟩ := bind_eq_ok.1 h
  exact ⟨of_decide_eq_true (CloudAgent.require_eq_ok.1 hlength),
    of_decide_eq_true (CloudAgent.require_eq_ok.1 h)⟩

theorem target_accepted {package : PackageIntent} {target : Target} {u : Unit}
    (h : CloudAgent.validateTarget package target = .ok u) : TargetAccepted package target := by
  unfold CloudAgent.validateTarget at h
  obtain ⟨_, hcontract, h⟩ := bind_eq_ok.1 h
  obtain ⟨_, htoolchain, h⟩ := bind_eq_ok.1 h
  obtain ⟨_, -, h⟩ := bind_eq_ok.1 h
  obtain ⟨_, -, h⟩ := bind_eq_ok.1 h
  obtain ⟨_, hkind, h⟩ := bind_eq_ok.1 h
  obtain ⟨_, hkinds, h⟩ := bind_eq_ok.1 h
  obtain ⟨_, hprofiles, h⟩ := bind_eq_ok.1 h
  obtain ⟨_, hsome, h⟩ := bind_eq_ok.1 h
  obtain ⟨_, -, h⟩ := bind_eq_ok.1 h
  obtain ⟨_, himports, h⟩ := bind_eq_ok.1 h
  obtain ⟨_, hcapabilities, h⟩ := bind_eq_ok.1 h
  have htoolchain := CloudAgent.require_eq_ok.1 htoolchain
  rw [Bool.and_eq_true, decide_eq_true_eq, decide_eq_true_eq] at htoolchain
  have hbounds := stringArray_ok hcapabilities
  constructor
  · exact of_decide_eq_true (CloudAgent.require_eq_ok.1 hcontract)
  · exact htoolchain
  · exact CloudAgent.require_eq_ok.1 hkind
  · exact CloudAgent.require_eq_ok.1 hkinds
  · have hprofiles := stringArray_ok hprofiles
    exact ⟨of_decide_eq_true (CloudAgent.require_eq_ok.1 hsome), hprofiles.2, hprofiles.1⟩
  · exact of_decide_eq_true (CloudAgent.require_eq_ok.1 himports)
  · exact ⟨hbounds.2, hbounds.1, CloudAgent.require_eq_ok.1 h⟩

/-- The worlds that have a kind. -/
theorem kind_of_world {world : String} (h : (worldKind.lookup world).isSome = true) :
    world ≠ "web-preview-reference" := by
  rintro rfl
  exact absurd h (by decide)

/-- **The Builder's checks of a target.** -/
theorem validateTarget_ok {package : PackageIntent} {target : Target}
    (h : TargetAccepted package target)
    (hworld : (worldKind.lookup target.witWorld).isSome = true)
    (hprofiles : ∀ profile ∈ target.profiles, profile = "desktop" ∨ profile = "headless") :
    validateTarget package target = .ok () := by
  have hkind : worldKind.lookup target.witWorld = some target.appKind := by
    obtain ⟨kind, hlookup⟩ := Option.isSome_iff_exists.1 hworld
    have heq := h.appKind
    rw [hlookup, Option.all_some, decide_eq_true_eq] at heq
    rw [hlookup, heq]
  have hkinds := h.kinds
  unfold CloudAgent.matchesKind at hkinds
  rw [Bool.and_eq_true, Bool.and_eq_true] at hkinds
  unfold validateTarget
  simp only [check_eq_ok, require_eq_ok]
  refine ⟨?_, ?_, ?_, ?_, ?_, ?_, hkinds.1.1, hkinds.1.2, hkinds.2⟩
  · simp [h.contract, h.toolchain, h.imports]
  · simpa using kind_of_world hworld
  · simpa using hkind
  · rw [Bool.and_eq_true, h.capabilities.2.2]
    simpa using h.capabilities.1
  · simp [h.profiles.1, h.profiles.2.1]
  · rw [List.all_eq_true]
    intro profile hprofile
    rcases hprofiles profile hprofile with rfl | rfl
    · decide
    · decide

/-! ## The scaffold -/

theorem lstatRegular_eq_ok {found : Option Node} {maximum mode : Nat} {context : String}
    {data : List UInt8} (h : found = some (.file mode 1 data))
    (hsize : 1 ≤ data.length ∧ data.length ≤ maximum) :
    lstatRegular found maximum context = .ok (mode, data) := by
  unfold lstatRegular
  rw [h]
  simp only [check_eq_ok, require_eq_ok]
  exact ⟨rfl, by simp [hsize.1, hsize.2], rfl⟩

theorem isNoStd_eq (text : String) : isNoStd text = CloudAgent.isNoStd text := by
  simp [isNoStd, CloudAgent.isNoStd, Bool.and_assoc]

theorem cargoPackageName_eq : cargoPackageName = CloudAgent.cargoPackageName := rfl

/-- **The Builder's checks of a scaffold.** -/
theorem validateCargoManifest_ok {builder : Context} {source : SourceTree}
    {package : PackageIntent} {mode mode' : Nat} {data rust : List UInt8} {text : String}
    (hcargo : source.files.lookup "Cargo.toml" = some (.file mode 1 data))
    (hsize : 1 ≤ data.length ∧ data.length ≤ maxSourceFileBytes)
    (h : CloudAgent.validateCargoManifest builder.sha256 builder.tomlLoads data package = .ok ())
    (hrust : source.files.lookup "src/lib.rs" = some (.file mode' 1 rust))
    (hrustSize : 1 ≤ rust.length ∧ rust.length ≤ maxSourceFileBytes)
    (htext : String.fromUTF8? ⟨rust.toArray⟩ = some text)
    (hnoStd : CloudAgent.isNoStd text = true) :
    validateCargoManifest builder source package = .ok () := by
  unfold CloudAgent.validateCargoManifest at h
  unfold validateCargoManifest
  rw [lstatRegular_eq_ok hcargo hsize, lstatRegular_eq_ok hrust hrustSize, ok_bind]
  dsimp only
  cases hdocument : builder.tomlLoads data with
  | none =>
    rw [hdocument] at h
    cases h
  | some document =>
    rw [hdocument] at h
    simp only [CloudAgent.check_eq_ok, CloudAgent.require_eq_ok, Bool.and_eq_true] at h
    obtain ⟨hkeys, hpackage, hname, hversion, hedition, hautos, hlib, hdependencies, hwit, hpin,
      hpackageName, hpackageVersion⟩ := h
    simp only [check_eq_ok, require_eq_ok, Bool.and_eq_true]
    refine ⟨hkeys, hpackage, ⟨⟨⟨⟨hname, hversion⟩, hedition.1⟩, hedition.2⟩, hautos⟩,
      ⟨hpackageName, hpackageVersion⟩, hlib.1, hlib.2, hdependencies, hwit, hpin, ?_⟩
    rw [ok_bind, htext]
    dsimp only
    rw [require_eq_ok, isNoStd_eq]
    exact hnoStd

/-! ## The provider execution -/

/-- `RUNNER_IDENTIFIER`. -/
def isRunnerIdentifier (text : String) : Bool :=
  Launcher.isToken (fun c => Launcher.isAlnum c || c = '.' || c = '_' || c = '-') 127 text.toList

/-- The provider executions of the worker's `execute`. -/
inductive IsExecution : ProviderExecution → Prop
  | dryRun : IsExecution CloudAgent.dryRunExecution
  /-- The texts are those of a receipt that `validate_provider_receipt` has accepted. -/
  | live {gatewayRequestId executableSha256 runnerId runnerIdentitySha256 isolationPolicySha256
        receiptDigestSha256 : String}
      (gateway : isRunnerIdentifier gatewayRequestId = true)
      (runner : isRunnerIdentifier runnerId = true)
      (digests : ∀ digest ∈ [executableSha256, runnerIdentitySha256, isolationPolicySha256,
        receiptDigestSha256], Launcher.isDigest digest = true) :
      IsExecution {
        mode := "live-explicit-opt-in"
        adapter := "external-isolated-provider-runner"
        providerId := "codex"
        externalRequestAttempted := true
        externalRequestObserved := true
        gatewayRequestId := some gatewayRequestId
        executableSha256 := some executableSha256
        isolationPolicyVersion := some CloudAgent.isolationPolicyVersion
        runnerId := some runnerId
        runnerIdentitySha256 := some runnerIdentitySha256
        isolationPolicySha256 := some isolationPolicySha256
        receiptDigestSha256 := some receiptDigestSha256 }

/-- An identifier of the runner is one of the Builder. -/
theorem isIdentifier_of_runner {text : String} (h : isRunnerIdentifier text = true) :
    isIdentifier text = true := by
  unfold isRunnerIdentifier at h
  unfold isIdentifier Launcher.isId
  cases hchars : text.toList with
  | nil =>
    rw [hchars] at h
    cases h
  | cons c rest =>
    rw [hchars] at h
    simp only [Launcher.isToken, Bool.and_eq_true, List.all_eq_true, Bool.or_eq_true] at h ⊢
    refine ⟨h.1, ?_⟩
    intro d hd
    rcases h.2 d hd with hother | hdash
    · exact .inl (.inl hother)
    · exact .inr hdash

/-- **The Builder's checks of a provider execution.** -/
theorem validateProvider_ok {provider : ProviderExecution} (h : IsExecution provider) :
    validateProvider provider = .ok () := by
  cases h with
  | dryRun => rfl
  | live gateway runner digests =>
    unfold validateProvider
    dsimp only
    rw [if_neg (by decide), if_neg (by decide), if_neg (by decide), if_pos rfl, check_eq_ok,
      require_eq_ok]
    constructor
    · simp [isIdentifier_of_runner gateway, isIdentifier_of_runner runner, providerVersion,
        CloudAgent.isolationPolicyVersion]
    · refine forM_eq_ok.2 ?_
      simpa [requireSha256, require_eq_ok] using digests

end Vibapp.Builder
