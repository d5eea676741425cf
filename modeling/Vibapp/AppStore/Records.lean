import Vibapp.AppStore.Catalog

/-!
# Rows of the catalog

A row is a release with at most one withdrawal (`Release.rowAs`). **Main results.** `rowRecord_rowAs`:
such a row is read back as its release. `sorted_withdrawn`: what `withdraw` writes over it is such a
row again. `validateSnapshot_spec`: what a release says about the tree it was made from.
-/

namespace Vibapp.AppStore

open Daemon (field hasExactly asStr asInt asBool)
open Json (sorted setMember)

/-! ## Fields of sorted objects -/

theorem field_sorted {members : List (String × Json)} (h : (members.map Prod.fst).Nodup)
    (key : String) : field (sorted members) key = Json.sortKeys (field members key) := by
  unfold field
  rw [Json.lookup_sorted h]
  cases members.lookup key <;> rfl

/-- A text field, by way of an object field. -/
theorem inner_sorted {members inside : List (String × Json)} {key name : String} {item : String}
    (h : (members.map Prod.fst).Nodup) (hkey : field members key = .obj inside)
    (hinside : (inside.map Prod.fst).Nodup) (hname : field inside name = .str item) :
    (inner (field (sorted members) key) name).bind asStr = some item := by
  rw [field_sorted h, hkey, Json.sortKeys_obj, inner, field_sorted hinside, hname]
  rfl

theorem hasExactly_sorted (members : List (String × Json)) (keys : List String) :
    hasExactly (sorted members) keys = hasExactly members keys := by
  have hperm := Json.keys_sorted_perm members
  unfold hasExactly
  congr 1
  · have hmap : ∀ l : List (String × Json), (l.all fun p => keys.contains p.1) =
        (l.map Prod.fst).all fun key => keys.contains key := by
      intro l
      rw [List.all_map]
      rfl
    rw [hmap, hmap]
    exact hperm.all_eq
  · refine List.all_congr rfl fun key => ?_
    rw [Bool.eq_iff_iff, List.contains_iff_mem, List.contains_iff_mem]
    exact hperm.mem_iff

/-! ## Presentations -/

/-- A presentation within the host's bounds. -/
structure Presentation.Bounded (p : Presentation) : Prop where
  preferredWidth : 320 ≤ p.preferredWidth ∧ p.preferredWidth ≤ 1920
  preferredHeight : 240 ≤ p.preferredHeight ∧ p.preferredHeight ≤ 1200
  minimumWidth : 320 ≤ p.minimumWidth ∧ p.minimumWidth ≤ 1280
  minimumHeight : 240 ≤ p.minimumHeight ∧ p.minimumHeight ≤ 960
  ordered : p.minimumWidth ≤ p.preferredWidth ∧ p.minimumHeight ≤ p.preferredHeight

theorem bounded_derivePresentation {library : Library} {kind name description : Json}
    {p : Presentation} (h : derivePresentation library kind name description = .ok p) :
    p.Bounded := by
  have hsizes : p ∈ [⟨720, 480, 480, 320, false⟩, ⟨520, 300, 420, 240, true⟩,
      ⟨1120, 760, 720, 480, true⟩, ⟨1040, 720, 640, 420, true⟩, ⟨900, 640, 480, 360, true⟩] := by
    unfold derivePresentation at h
    split at h
    · split at h
      · cases h
      · dsimp only at h
        split_ifs at h
        all_goals
          cases h
          simp
    · split at h
      all_goals cases h
    · cases h
  simp only [List.mem_cons, List.not_mem_nil, or_false] at hsizes
  rcases hsizes with rfl | rfl | rfl | rfl | rfl
  all_goals exact ⟨by decide, by decide, by decide, by decide, by decide⟩

theorem presentationBound_eq_ok {members : List (String × Json)} {name : String}
    {minimum maximum item : Int} (h : presentationBound members name minimum maximum = .ok item) :
    minimum ≤ item ∧ item ≤ maximum := by
  unfold presentationBound at h
  split at h
  · split at h
    · cases h
      assumption
    · cases h
  · cases h

theorem bounded_presentation {library : Library} {value kind name description : Json}
    {p : Presentation} (h : presentation library value kind name description = .ok p) :
    p.Bounded := by
  unfold presentation at h
  split at h
  · exact bounded_derivePresentation h
  · simp only [bind_eq_ok, raiseIf_eq_ok] at h
    obtain ⟨members, -, _, -, pw, hpw, ph, hph, mw, hmw, mh, hmh, _, hordered, h⟩ := h
    rw [not_or, not_lt, not_lt] at hordered
    split at h
    · cases h
      exact ⟨presentationBound_eq_ok hpw, presentationBound_eq_ok hph, presentationBound_eq_ok hmw,
        presentationBound_eq_ok hmh, hordered⟩
    · cases h

theorem presentationBound_of {members : List (String × Json)} {name : String}
    {minimum maximum item : Int} (hfield : field members name = .int item)
    (hitem : minimum ≤ item ∧ item ≤ maximum) :
    presentationBound members name minimum maximum = .ok item := by
  rw [presentationBound, hfield]
  exact if_pos hitem

/-- A presentation is read back as it is. -/
theorem presentation_toJson {library : Library} {p : Presentation} (h : p.Bounded)
    (kind name description : Json) :
    presentation library (Json.sortKeys p.toJson) kind name description = .ok p := by
  obtain ⟨members, hmembers⟩ : ∃ members, p.toJson = .obj members := ⟨_, rfl⟩
  have hkeys : members.map Prod.fst = ["schema_version", "preferred_width", "preferred_height",
      "minimum_width", "minimum_height", "resizable"] := by
    cases hmembers
    rfl
  have hnodup : (members.map Prod.fst).Nodup := by
    rw [hkeys]
    decide
  have hfield : ∀ {key : String} {item : Json}, field members key = item →
      field (sorted members) key = Json.sortKeys item := by
    rintro key _ rfl
    exact field_sorted hnodup key
  have hexact : hasExactly (sorted members) ["schema_version", "preferred_width",
      "preferred_height", "minimum_width", "minimum_height", "resizable"] = true := by
    rw [hasExactly_sorted]
    cases hmembers
    rfl
  have hint : ∀ {key : String} {item : Int}, field members key = .int item →
      field (sorted members) key = .int item := fun hkey => hfield hkey
  have hschema : asStr (field (sorted members) "schema_version") = some presentationSchema := by
    rw [hfield (show field members "schema_version" = .str presentationSchema by
      cases hmembers; rfl)]
    rfl
  have hresizable : asBool (field (sorted members) "resizable") = some p.resizable := by
    rw [hfield (show field members "resizable" = .bool p.resizable by cases hmembers; rfl)]
    rfl
  rw [hmembers, Json.sortKeys_obj]
  unfold presentation
  dsimp only
  rw [exactObject, if_pos hexact, ok_bind, raiseIf, if_neg (not_not.2 hschema), ok_bind,
    presentationBound_of (hint (by cases hmembers; rfl)) h.preferredWidth, ok_bind,
    presentationBound_of (hint (by cases hmembers; rfl)) h.preferredHeight, ok_bind,
    presentationBound_of (hint (by cases hmembers; rfl)) h.minimumWidth, ok_bind,
    presentationBound_of (hint (by cases hmembers; rfl)) h.minimumHeight, ok_bind, raiseIf,
    if_neg (not_or.2 ⟨not_lt.2 h.ordered.1, not_lt.2 h.ordered.2⟩), ok_bind, hresizable]
  rfl

/-! ## Rows -/

/-- The members of a record, with the time and the reason of its withdrawal. -/
def Release.membersAs (r : Release) : Option (String × String) → List (String × Json)
  | none => r.members "private" .null .null
  | some (now, reason) => r.members "withdrawn" (.str now) (.str reason)

/-- The row of a release, with the time and the reason of its withdrawal. -/
def Release.rowAs (r : Release) (withdrawal : Option (String × String)) : Row :=
  ⟨r.packageSha256, r.appId, r.appVersion, r.payloadBindingSha256,
    if withdrawal.isSome then "withdrawn" else "private",
    .obj (sorted (r.membersAs withdrawal))⟩

theorem Release.row_eq (r : Release) : r.row = r.rowAs none := rfl

/-- A withdrawal that `_row_record` accepts. -/
def Canonical : Option (String × String) → Prop
  | none => True
  | some (now, reason) => (∀ label, utc (.str now) label = .ok now) ∧
      ∀ label, text (.str reason) label maxReasonBytes = .ok reason

theorem Release.keys_membersAs (r : Release) (withdrawal : Option (String × String)) :
    (r.membersAs withdrawal).map Prod.fst = ["schema_version", "state", "visibility", "publication",
      "app", "runtime", "app_state", "presentation", "digests", "verification", "authority", "paths",
      "package_files", "ingested_at_utc", "withdrawn_at_utc", "withdraw_reason"] := by
  rcases withdrawal with _ | ⟨now, reason⟩ <;> rfl

theorem Release.nodup_membersAs (r : Release) (withdrawal : Option (String × String)) :
    ((r.membersAs withdrawal).map Prod.fst).Nodup := by
  rw [r.keys_membersAs]
  decide

theorem Release.boundTo_rowAs (r : Release) (withdrawal : Option (String × String)) :
    boundTo (r.rowAs withdrawal) (sorted (r.membersAs withdrawal)) = true := by
  have hnodup := r.nodup_membersAs withdrawal
  have happ : field (r.membersAs withdrawal) "app" = r.app := by
    rcases withdrawal with _ | ⟨now, reason⟩ <;> rfl
  have hdigests : field (r.membersAs withdrawal) "digests" = r.digests := by
    rcases withdrawal with _ | ⟨now, reason⟩ <;> rfl
  have hpublication : field (r.membersAs withdrawal) "publication" = publication := by
    rcases withdrawal with _ | ⟨now, reason⟩ <;> rfl
  have hauthority : field (r.membersAs withdrawal) "authority" = authority := by
    rcases withdrawal with _ | ⟨now, reason⟩ <;> rfl
  have hpaths : field (r.membersAs withdrawal) "paths" = paths r.packageSha256 := by
    rcases withdrawal with _ | ⟨now, reason⟩ <;> rfl
  have hversion : asStr (field (sorted (r.membersAs withdrawal)) "schema_version") =
      some recordSchema := by
    rw [field_sorted hnodup]
    rcases withdrawal with _ | ⟨now, reason⟩ <;> rfl
  have hstate : asStr (field (sorted (r.membersAs withdrawal)) "state") =
      some (r.rowAs withdrawal).state := by
    rw [field_sorted hnodup]
    rcases withdrawal with _ | ⟨now, reason⟩ <;> rfl
  have hvisibility : asStr (field (sorted (r.membersAs withdrawal)) "visibility") =
      some "private" := by
    rw [field_sorted hnodup]
    rcases withdrawal with _ | ⟨now, reason⟩ <;> rfl
  have hknown : ((r.rowAs withdrawal).state = "private" ||
      (r.rowAs withdrawal).state = "withdrawn") = true := by
    rcases withdrawal with _ | ⟨now, reason⟩ <;> rfl
  have happKeys : (["id", "version", "kind", "display_name", "description", "publisher"] :
      List String).Nodup := by decide
  have hdigestKeys : (["package_sha256", "component_sha256", "manifest_sha256",
      "source_tree_sha256", "quarantine_receipt_sha256", "candidate_record_sha256",
      "verification_block_sha256", "payload_binding_sha256"] : List String).Nodup := by decide
  unfold boundTo
  rw [hversion, hstate, hknown, hvisibility,
    inner_sorted hnodup happ happKeys rfl, inner_sorted hnodup happ happKeys rfl,
    inner_sorted hnodup hdigests hdigestKeys rfl, inner_sorted hnodup hdigests hdigestKeys rfl,
    field_sorted hnodup, hpublication, field_sorted hnodup, hauthority, field_sorted hnodup, hpaths,
    Json.dumps_sortKeys, Json.dumps_sortKeys, Json.dumps_sortKeys]
  simp [rowAs]

/-- What the record of a row is read back as. -/
def Release.shown (r : Release) (withdrawal : Option (String × String)) : List (String × Json) :=
  setMember (sorted (r.membersAs withdrawal)) "presentation" r.presentation.toJson

/-- **Reading a row.** -/
theorem rowRecord_rowAs {library : Library} {r : Release} (hr : r.presentation.Bounded)
    {withdrawal : Option (String × String)} (hw : Canonical withdrawal) :
    rowRecord library (r.rowAs withdrawal) = .ok (r.shown withdrawal) := by
  have hnodup := r.nodup_membersAs withdrawal
  have hcheck : checkWithdrawal (r.rowAs withdrawal) (sorted (r.membersAs withdrawal)) = .ok () := by
    unfold checkWithdrawal
    rcases withdrawal with _ | ⟨now, reason⟩
    · rw [if_pos (show (r.rowAs none).state = "private" from rfl), field_sorted hnodup,
        field_sorted hnodup]
      rfl
    · have hstate : ¬ (r.rowAs (some (now, reason))).state = "private" := by
        change ¬ "withdrawn" = "private"
        decide
      rw [if_neg hstate, field_sorted hnodup, field_sorted hnodup]
      change (do
        let _ ← utc (.str now) "withdrawn_at_utc"
        let _ ← text (.str reason) "withdraw_reason" maxReasonBytes) = _
      rw [hw.1, ok_bind, hw.2]
      rfl
  have hpresentation : field (r.membersAs withdrawal) "presentation" = r.presentation.toJson := by
    rcases withdrawal with _ | ⟨now, reason⟩ <;> rfl
  unfold rowRecord
  change (do
    raiseIf (boundTo (r.rowAs withdrawal) (sorted (r.membersAs withdrawal)) = false)
      "integrity-failure" "stored record authority or digest binding is malformed"
    checkWithdrawal (r.rowAs withdrawal) (sorted (r.membersAs withdrawal))
    let app := field (sorted (r.membersAs withdrawal)) "app"
    let shown ← presentation library (field (sorted (r.membersAs withdrawal)) "presentation")
      ((inner app "kind").getD .null) ((inner app "display_name").getD .null)
      ((inner app "description").getD .null)
    return setMember (sorted (r.membersAs withdrawal)) "presentation" shown.toJson) = _
  have hshown : field (sorted (r.membersAs withdrawal)) "presentation" =
      Json.sortKeys r.presentation.toJson := by
    rw [field_sorted hnodup, hpresentation]
  rw [r.boundTo_rowAs, raiseIf, if_neg Bool.noConfusion, ok_bind, hcheck, ok_bind]
  dsimp only
  rw [hshown, presentation_toJson hr, ok_bind]
  rfl

theorem Release.mem_keys (r : Release) (withdrawal : Option (String × String)) {key : String}
    (h : key ∈ ["schema_version", "state", "visibility", "publication", "app", "runtime",
      "app_state", "presentation", "digests", "verification", "authority", "paths",
      "package_files", "ingested_at_utc", "withdrawn_at_utc", "withdraw_reason"]) :
    key ∈ (sorted (r.membersAs withdrawal)).map Prod.fst := by
  rw [Json.mem_keys_sorted, r.keys_membersAs]
  exact h

/-- A row that is read and written again is the same. -/
theorem Release.sorted_shown (r : Release) (withdrawal : Option (String × String)) :
    sorted (r.shown withdrawal) = sorted (r.membersAs withdrawal) := by
  have hnodup := r.nodup_membersAs withdrawal
  unfold shown
  rw [Json.sorted_setMember _ (r.mem_keys withdrawal (by decide)), Json.sorted_sorted]
  refine Json.setMember_self ((Json.keys_sorted_perm _).nodup_iff.2 hnodup) ?_
  rw [Json.lookup_sorted hnodup]
  rcases withdrawal with _ | ⟨now, reason⟩ <;> rfl

/-- **Writing a withdrawal.** -/
theorem Release.sorted_withdrawn (r : Release) (now reason : String) :
    sorted (setMember (setMember (setMember (r.shown none) "state" (.str "withdrawn"))
      "withdrawn_at_utc" (.str now)) "withdraw_reason" (.str reason)) =
      sorted (r.membersAs (some (now, reason))) := by
  have hkeys : (r.shown none).map Prod.fst = (sorted (r.membersAs none)).map Prod.fst :=
    Json.keys_setMember _ (r.mem_keys none (by decide))
  have hstate : "state" ∈ (r.shown none).map Prod.fst := by
    rw [hkeys]
    exact r.mem_keys none (by decide)
  have htime : "withdrawn_at_utc" ∈
      (setMember (r.shown none) "state" (.str "withdrawn")).map Prod.fst := by
    rw [Json.keys_setMember _ hstate, hkeys]
    exact r.mem_keys none (by decide)
  have hreason : "withdraw_reason" ∈ (setMember (setMember (r.shown none) "state"
      (.str "withdrawn")) "withdrawn_at_utc" (.str now)).map Prod.fst := by
    rw [Json.keys_setMember _ htime, Json.keys_setMember _ hstate, hkeys]
    exact r.mem_keys none (by decide)
  have hmembers : r.membersAs (some (now, reason)) = setMember (setMember (setMember
      (r.membersAs none) "state" (.str "withdrawn")) "withdrawn_at_utc" (.str now))
      "withdraw_reason" (.str reason) := rfl
  rw [Json.sorted_setMember _ hreason, Json.sorted_setMember _ htime,
    Json.sorted_setMember _ hstate, r.sorted_shown, hmembers,
    Json.sorted_setMember, Json.sorted_setMember, Json.sorted_setMember]
  · rw [r.keys_membersAs]
    decide
  · rw [Json.keys_setMember _ (by rw [r.keys_membersAs]; decide), r.keys_membersAs]
    decide
  · rw [Json.keys_setMember _ (by
      rw [Json.keys_setMember _ (by rw [r.keys_membersAs]; decide), r.keys_membersAs]
      decide), Json.keys_setMember _ (by rw [r.keys_membersAs]; decide), r.keys_membersAs]
    decide

/-- The reason that a withdrawn row is read back with. -/
theorem Release.reason_shown (r : Release) (now reason : String) :
    asStr (field (r.shown (some (now, reason))) "withdraw_reason") = some reason := by
  unfold shown
  rw [field, Json.lookup_setMember _ (r.mem_keys _ (by decide)),
    if_neg (by decide : ¬ "withdraw_reason" = "presentation"),
    Json.lookup_sorted (r.nodup_membersAs _)]
  rfl

theorem Release.ingestedAt_shown (r : Release) (withdrawal : Option (String × String)) :
    digestText (r.shown withdrawal) "ingested_at_utc" = r.ingestedAt := by
  unfold shown
  rw [digestText, field, Json.lookup_setMember _ (r.mem_keys _ (by decide)),
    if_neg (by decide : ¬ "ingested_at_utc" = "presentation"),
    Json.lookup_sorted (r.nodup_membersAs _)]
  rcases withdrawal with _ | ⟨now, reason⟩ <;> rfl

/-! ## Releases -/

/-- What a release says of the tree it was made from. -/
structure MadeFrom (library : Library) (tree : Tree) (r : Release) : Prop where
  intro ::
  parts : ∃ candidateBytes value candidate verification manifestBytes manifest app inventory,
    tree.candidate = some candidateBytes ∧
    strictJson library candidateBytes "candidate" = .ok value ∧
    candidateMembers value = .ok candidate ∧
    validateCandidate candidate = .ok (r.packageSha256, verification) ∧
    validateManifest library candidate manifestBytes = .ok manifest ∧
    validateApp library candidate manifest = .ok app ∧
    r.appId = app.id ∧ r.appVersion = app.version ∧ r.presentation = app.presentation ∧
    r.payloadBindingSha256 =
      payloadDigest library (library.sha256 candidateBytes) r.packageSha256 inventory

theorem readRegular_eq_ok {file : Option (List UInt8)} {maximum : Nat} {label : String}
    {data : List UInt8} (h : readRegular file maximum label = .ok data) : file = some data := by
  unfold readRegular at h
  split at h
  · split at h
    · cases h
    · cases h
      rfl
  · cases h

theorem validateSnapshot_spec {library : Library} {tree : Tree} {now : String} {r : Release}
    (h : validateSnapshot library tree now = .ok r) :
    r.ingestedAt = now ∧ MadeFrom library tree r ∧
      ∀ later, validateSnapshot library tree later = .ok { r with ingestedAt := later } := by
  unfold validateSnapshot at h ⊢
  obtain ⟨candidateBytes, hbytes, h⟩ := bind_eq_ok.1 h
  obtain ⟨value, hvalue, h⟩ := bind_eq_ok.1 h
  obtain ⟨candidate, hcandidate, h⟩ := bind_eq_ok.1 h
  obtain ⟨⟨expected, verification⟩, hexpected, h⟩ := bind_eq_ok.1 h
  obtain ⟨manifestBytes, hmanifestBytes, h⟩ := bind_eq_ok.1 h
  obtain ⟨manifest, hmanifest, h⟩ := bind_eq_ok.1 h
  obtain ⟨⟨component, rest⟩, hdescriptors, h⟩ := bind_eq_ok.1 h
  obtain ⟨observed, hobserved, h⟩ := bind_eq_ok.1 h
  obtain ⟨_, hfiles, h⟩ := bind_eq_ok.1 h
  obtain ⟨_, hcomponent, h⟩ := bind_eq_ok.1 h
  obtain ⟨_, hdigest, h⟩ := bind_eq_ok.1 h
  obtain ⟨app, happ, h⟩ := bind_eq_ok.1 h
  obtain ⟨⟨world, profiles, platforms, entrypoints, capabilities⟩, hruntime, h⟩ := bind_eq_ok.1 h
  obtain ⟨appState, hstate, h⟩ := bind_eq_ok.1 h
  cases h
  refine ⟨rfl, ⟨candidateBytes, value, candidate, verification, manifestBytes, manifest, app, _,
    readRegular_eq_ok hbytes, hvalue, hcandidate, hexpected, hmanifest, happ, rfl, rfl, rfl, rfl⟩,
    fun later => ?_⟩
  simp only [hbytes, ok_bind, hvalue, hcandidate, hexpected, hmanifestBytes, hmanifest, hdescriptors,
    hobserved, hfiles, hcomponent, hdigest, happ, hruntime, hstate]
  rfl

theorem bounded_validateApp {library : Library} {candidate manifest : List (String × Json)}
    {app : AppIdentity} (h : validateApp library candidate manifest = .ok app) :
    app.presentation.Bounded := by
  unfold validateApp at h
  split at h
  · obtain ⟨_, -, h⟩ := bind_eq_ok.1 h
    obtain ⟨_, -, h⟩ := bind_eq_ok.1 h
    obtain ⟨_, -, h⟩ := bind_eq_ok.1 h
    split at h
    · obtain ⟨_, -, h⟩ := bind_eq_ok.1 h
      obtain ⟨_, -, h⟩ := bind_eq_ok.1 h
      obtain ⟨_, -, h⟩ := bind_eq_ok.1 h
      obtain ⟨p, hp, h⟩ := bind_eq_ok.1 h
      split at h
      · obtain ⟨_, -, h⟩ := bind_eq_ok.1 h
        obtain ⟨_, -, h⟩ := bind_eq_ok.1 h
        obtain ⟨_, -, h⟩ := bind_eq_ok.1 h
        cases h
        exact bounded_presentation hp
      · cases h
    · cases h
  · cases h

theorem MadeFrom.bounded {library : Library} {tree : Tree} {r : Release}
    (h : MadeFrom library tree r) : r.presentation.Bounded := by
  obtain ⟨_, _, _, _, _, _, _, _, -, -, -, -, -, happ, -, -, hpresentation, -⟩ := h.parts
  rw [hpresentation]
  exact bounded_validateApp happ

/-- The manifest's bytes are those that the candidate's digest names. -/
theorem sha256_of_validateManifest {library : Library} {candidate manifest : List (String × Json)}
    {bytes : List UInt8} (h : validateManifest library candidate bytes = .ok manifest) :
    ∃ reference, exactObject (field candidate "manifest") ["path", "sha256", "size_bytes"]
      "candidate.manifest" = .ok reference ∧
      asStr (field reference "sha256") = some (library.sha256 bytes) := by
  unfold validateManifest at h
  obtain ⟨reference, hreference, h⟩ := bind_eq_ok.1 h
  obtain ⟨_, -, h⟩ := bind_eq_ok.1 h
  obtain ⟨_, hcheck, -⟩ := bind_eq_ok.1 h
  rw [raiseIf_eq_ok, not_or, not_or, not_not, not_not] at hcheck
  exact ⟨reference, hreference, hcheck.2.1⟩

theorem canonicalJson_inj {v w : Json} (h : canonicalJson v = canonicalJson w) :
    Json.sortKeys v = Json.sortKeys w := by
  refine Json.dumps_eq_iff.1 (String.toByteArray_inj.1 ?_)
  exact ByteArray.ext (Array.ext' h)

theorem payloadDigest_inj {library : Library} (hinj : Function.Injective library.sha256)
    {candidateSha candidateSha' packageSha packageSha' : String} {files files' : List Observed}
    (h : payloadDigest library candidateSha packageSha files =
      payloadDigest library candidateSha' packageSha' files') :
    candidateSha = candidateSha' ∧ packageSha = packageSha' := by
  have hsorted := Json.obj.inj (canonicalJson_inj (hinj h))
  have hfield : ∀ (a b : String) (c : Json) (key : String),
      field (sorted [("candidate_sha256", .str a), ("package_digest_sha256", .str b), ("files", c)])
        key = Json.sortKeys (field [("candidate_sha256", .str a),
          ("package_digest_sha256", .str b), ("files", c)] key) := by
    intro a b c key
    refine field_sorted ?_ key
    change ["candidate_sha256", "package_digest_sha256", "files"].Nodup
    decide
  constructor
  · have heq := congrArg (fun members => field members "candidate_sha256") hsorted
    change field (sorted _) _ = field (sorted _) _ at heq
    rw [hfield, hfield] at heq
    exact Json.str.inj heq
  · have heq := congrArg (fun members => field members "package_digest_sha256") hsorted
    change field (sorted _) _ = field (sorted _) _ at heq
    rw [hfield, hfield] at heq
    exact Json.str.inj heq

/-- **The payload names the app**, where SHA-256 tells different texts apart. -/
theorem MadeFrom.same {library : Library} (hinj : Function.Injective library.sha256)
    {tree tree' : Tree} {r r' : Release} (h : MadeFrom library tree r)
    (h' : MadeFrom library tree' r') (hpayload : r.payloadBindingSha256 = r'.payloadBindingSha256) :
    r.packageSha256 = r'.packageSha256 ∧ r.appId = r'.appId ∧ r.appVersion = r'.appVersion := by
  obtain ⟨bytes, value, candidate, verification, manifestBytes, manifest, app, inventory, -, hvalue,
    hcandidate, hexpected, hmanifest, happ, hid, hversion, -, hr⟩ := h.parts
  obtain ⟨bytes', value', candidate', verification', manifestBytes', manifest', app', inventory', -,
    hvalue', hcandidate', hexpected', hmanifest', happ', hid', hversion', -, hr'⟩ := h'.parts
  rw [hr, hr'] at hpayload
  obtain ⟨hcandidateSha, hpackageSha⟩ := payloadDigest_inj hinj hpayload
  -- the candidate is the same, it names the manifest by its digest, and the manifest names the app
  cases hinj hcandidateSha
  cases hvalue.symm.trans hvalue'
  cases hcandidate.symm.trans hcandidate'
  obtain ⟨reference, hreference, hsha⟩ := sha256_of_validateManifest hmanifest
  obtain ⟨reference', hreference', hsha'⟩ := sha256_of_validateManifest hmanifest'
  cases hreference.symm.trans hreference'
  cases hinj (Option.some.inj (hsha.symm.trans hsha'))
  cases hmanifest.symm.trans hmanifest'
  cases happ.symm.trans happ'
  exact ⟨hpackageSha, hid.trans hid'.symm, hversion.trans hversion'.symm⟩

end Vibapp.AppStore
