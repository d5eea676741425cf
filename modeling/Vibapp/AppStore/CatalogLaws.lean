import Vibapp.AppStore.CatalogRuns

/-!
# Laws of the catalog

**Main result** (`catalog_laws`). After any calls, whatever faults they met: one row for each digest
and app version; a candidate that is catalogued with its payload is answered with its record and
changes nothing; another payload for a known digest or app version is refused and changes nothing; a
withdrawn row stays as it is; and `detail` gives the record that `ingest` returned, apart from the
withdrawal.
-/

namespace Vibapp.AppStore

open Prog
open Daemon (field asStr)
open Json (sorted setMember)

variable {library : Library} {env : Env} {s t : Disk}

/-! ## Runs without faults -/

theorem not_fails (h : env.Quiet) : ¬ env.Fails := by
  rintro ⟨i, hi⟩
  rw [h i] at hi
  cases hi

theorem not_stops (h : env.Quiet) : ¬ env.Stops := by
  rintro ⟨i, hi⟩
  rw [h i] at hi
  cases hi

/-- Without faults `ingest` answers its decision. -/
theorem ingest_quiet (hquiet : env.Quiet) (source : Source) (hs : s.created = none)
    (htick : s.tick = 0) :
    (∀ result, decision library s source env.now = .ok result →
      ∃ t, ingest library source env s = (.done result, t) ∧
        Returned library s source env.now result t) ∧
    ∀ e, decision library s source env.now = .error e →
      ∃ t, ingest library source env s = (.raised e, t) ∧ Same s t := by
  have hwp := @wp_ingest library env s source hs htick
  unfold wp at hwp
  rcases hrun : ingest library source env s with ⟨result | e | _, t⟩
  · rw [hrun] at hwp
    refine ⟨fun result' h => ?_, fun e h => ?_⟩
    · obtain rfl : result = result' := Except.ok.inj (hwp.1.1.symm.trans h)
      exact ⟨t, rfl, hwp.1⟩
    · rw [hwp.1.1] at h
      cases h
  · rw [hrun] at hwp
    obtain ⟨he, hsame⟩ := hwp.resolve_right fun h => not_fails hquiet h.1
    refine ⟨fun result h => ?_, fun e' h => ?_⟩
    · rw [he] at h
      cases h
    · obtain rfl : e = e' := Except.error.inj (he.symm.trans h)
      exact ⟨t, rfl, hsame⟩
  · rw [hrun] at hwp
    exact (not_stops hquiet hwp.2.1).elim

/-- What a refused call leaves, whatever faults it meets. -/
theorem ingest_refused {source : Source} (hs : s.created = none) (htick : s.tick = 0) {e : Raised}
    (h : decision library s source env.now = .error e) :
    Same s (ingest library source env s).2 ∧
      ∀ result, (ingest library source env s).1 ≠ .done result := by
  have heffect : ∀ {t}, Effect library s source env.now t → Same s t := by
    rintro t (h' | ⟨tree, validated, hfresh, -⟩)
    · exact h'
    · rw [hfresh.decision] at h
      cases h
  have hwp := @wp_ingest library env s source hs htick
  unfold wp at hwp
  rcases hrun : ingest library source env s with ⟨result | e' | _, t⟩
  · rw [hrun] at hwp
    rw [hwp.1.1] at h
    cases h
  · rw [hrun] at hwp
    refine ⟨?_, fun _ h => by cases h⟩
    rcases hwp with ⟨-, h'⟩ | ⟨-, h'⟩
    · exact h'
    · exact heffect h'
  · rw [hrun] at hwp
    exact ⟨heffect hwp.1, fun _ h => by cases h⟩

/-! ## Decisions -/

/-- A catalogued candidate. -/
theorem decision_again (hsound : Sound library s) {source : Source} {now : String} {tree : Tree}
    {validated : Release} (hcopied : copyTree source = .ok tree)
    (hvalid : validateSnapshot library tree now = .ok validated) {row : Row}
    (hrow : s.rows.get? validated.packageSha256 = some row)
    (hpayload : row.payloadSha256 = validated.payloadBindingSha256) :
    ∃ record, rowRecord library row = .ok record ∧
      decision library s source now = .ok (false, record) := by
  obtain ⟨r, w, tree', hbacked⟩ := hsound.rows _ row hrow
  have hpayload' : row.payloadSha256 = r.payloadBindingSha256 := by
    rw [hbacked.row]
    rfl
  refine ⟨_, hbacked.read, ?_⟩
  rw [decision, hcopied, ok_bind, hvalid, ok_bind, decideOn, hrow]
  dsimp only
  rw [decideAgain, raiseIf, if_neg (not_not.2 hpayload), ok_bind, hbacked.directory]
  dsimp only
  rw [hbacked.read, ok_bind, r.ingestedAt_shown, hbacked.valid, ok_bind, raiseIf,
    if_neg (not_not.2 hpayload'.symm)]
  rfl

/-- Another payload for a known digest or app version. -/
theorem decision_conflict (hinj : Function.Injective library.sha256) (hsound : Sound library s)
    {source : Source} {now : String} {tree : Tree} {validated : Release}
    (hcopied : copyTree source = .ok tree)
    (hvalid : validateSnapshot library tree now = .ok validated) {digest : String} {row : Row}
    (hrow : s.rows.get? digest = some row)
    (hknown : digest = validated.packageSha256 ∨
      row.appId = validated.appId ∧ row.appVersion = validated.appVersion)
    (hpayload : row.payloadSha256 ≠ validated.payloadBindingSha256) :
    ∃ message, decision library s source now = .error (.store ⟨"conflict", message⟩) := by
  have hmade := (validateSnapshot_spec hvalid).2.1
  rw [decision, hcopied, ok_bind, hvalid, ok_bind, decideOn]
  cases hrow' : s.rows.get? validated.packageSha256 with
  | some row' =>
    have hdiffers : row'.payloadSha256 ≠ validated.payloadBindingSha256 := by
      intro heq
      -- the payload names the app version, so `row'` is the row of that version
      obtain ⟨r, w, tree', hbacked⟩ := hsound.rows _ row' hrow'
      have hr : r.payloadBindingSha256 = validated.payloadBindingSha256 := by
        rw [← heq, hbacked.row]
        rfl
      obtain ⟨-, hid, hversion⟩ := hbacked.made.same hinj hmade hr
      have hdigest : digest = validated.packageSha256 := by
        rcases hknown with hdigest | ⟨hid', hversion'⟩
        · exact hdigest
        · refine hsound.version _ _ row row' hrow hrow' ?_ ?_
          · rw [hid', hbacked.row]
            exact hid.symm
          · rw [hversion', hbacked.row]
            exact hversion.symm
      rw [hdigest, hrow'] at hrow
      cases hrow
      exact hpayload heq
    refine ⟨"package digest already exists with a different payload", ?_⟩
    dsimp only
    rw [decideAgain, raiseIf, if_pos hdiffers]
    rfl
  | none =>
    obtain ⟨hid, hversion⟩ := hknown.resolve_left fun hdigest => by
      rw [hdigest, hrow'] at hrow
      cases hrow
    have hhas : s.hasVersion validated.appId validated.appVersion = true := by
      by_contra hnot
      exact not_hasVersion (Bool.not_eq_true _ ▸ hnot) hrow ⟨hid, hversion⟩
    refine ⟨"app version already exists with another package digest", ?_⟩
    dsimp only
    rw [decideNew, raiseIf, if_pos hhas]
    rfl

/-! ## Detail -/

theorem Gives.quiet {α β : Type} {n : Nat} {m : Run α} {b : β} {Q : α → β → Disk → Prop}
    (h : Gives env s n (.ok b) m Q) (hquiet : env.Quiet) :
    ∃ a t, m env s = (.done a, t) ∧ Outside s t ∧ Q a b t := by
  unfold Gives wp at h
  rcases hrun : m env s with ⟨a | e | _, t⟩
  · rw [hrun] at h
    obtain ⟨hout, -, -, b', hb, hQ⟩ := h
    cases hb
    exact ⟨a, t, rfl, hout, hQ⟩
  · rw [hrun] at h
    rcases h.2 with h | h
    · cases h
    · exact (not_fails hquiet h).elim
  · rw [hrun] at h
    obtain ⟨-, i, -, -, hi⟩ := h
    exact (not_stops hquiet ⟨i, hi⟩).elim

/-- `detail` of a catalogued digest. -/
theorem gives_detail {digest : String} {row : Row} {r : Release}
    {withdrawal : Option (String × String)} {tree : Tree} (hrow : s.rows.get? digest = some row)
    (hbacked : Backed library s digest row r withdrawal tree) (hdigest : isSha256 digest = true) :
    Gives env s 2 (.ok (r.shown withdrawal)) (detail library (.str digest))
      fun record value _ => record = value := by
  have hpayload : row.payloadSha256 = r.payloadBindingSha256 := by
    rw [hbacked.row]
    rfl
  have hparsed : AppStore.digest (.str digest) "package_digest" = .ok digest := if_pos hdigest
  unfold detail
  rw [hparsed]
  change Gives env s 2 _
    (touch >>= fun _ => (read fun _ d => d.rows.get? digest) >>= fun found => _) _
  refine (gives_touch.after (k := 1) fun _ t ht => ?_).count (by omega)
  subst ht
  have hfound : s.later.rows.get? digest = some row := hrow
  refine gives_read_bind.2 ?_
  rw [hfound]
  dsimp only
  rw [hbacked.read]
  change Gives env s.later 1 _ (touch >>= fun _ => _) _
  refine (gives_touch.after (k := 0) fun _ u hu => ?_).count (by omega)
  subst hu
  change Gives env s.later.later 0 _ (check (validateSnapshot library
    ((s.candidates.get? digest).getD .empty)
    (digestText (r.shown withdrawal) "ingested_at_utc")) >>=
      fun stored => refuseIf (stored.payloadBindingSha256 ≠ row.payloadSha256)
        "integrity-failure" "stored candidate bytes were modified" >>= fun _ =>
          pure (r.shown withdrawal)) _
  rw [hbacked.directory, Option.getD_some, r.ingestedAt_shown, hbacked.valid]
  change Gives env s.later.later 0 _ (refuseIf (r.payloadBindingSha256 ≠ row.payloadSha256)
    "integrity-failure" "stored candidate bytes were modified" >>= fun _ =>
      pure (r.shown withdrawal)) _
  rw [refuseIf, if_neg (not_not.2 hpayload.symm)]
  exact gives_pure rfl

/-- The digest of a release is one. -/
theorem isSha256_of_made {tree : Tree} {r : Release} (h : MadeFrom library tree r) :
    isSha256 r.packageSha256 = true := by
  obtain ⟨_, _, _, _, _, _, _, _, -, -, -, hcandidate, -⟩ := h.parts
  unfold validateCandidate at hcandidate
  obtain ⟨_, -, hcandidate⟩ := bind_eq_ok.1 hcandidate
  obtain ⟨_, -, hcandidate⟩ := bind_eq_ok.1 hcandidate
  obtain ⟨_, -, hcandidate⟩ := bind_eq_ok.1 hcandidate
  obtain ⟨packageDigest, hdigest, hcandidate⟩ := bind_eq_ok.1 hcandidate
  obtain ⟨_, -, hcandidate⟩ := bind_eq_ok.1 hcandidate
  obtain ⟨_, -, hcandidate⟩ := bind_eq_ok.1 hcandidate
  obtain ⟨_, -, hcandidate⟩ := bind_eq_ok.1 hcandidate
  obtain ⟨_, -, hcandidate⟩ := bind_eq_ok.1 hcandidate
  obtain ⟨_, -, hcandidate⟩ := bind_eq_ok.1 hcandidate
  split at hcandidate
  · obtain ⟨_, -, hcandidate⟩ := bind_eq_ok.1 hcandidate
    obtain ⟨_, -, hcandidate⟩ := bind_eq_ok.1 hcandidate
    cases hcandidate
    unfold AppStore.digest at hdigest
    split at hdigest
    · split at hdigest
      · cases hdigest
        assumption
      · cases hdigest
    · cases hdigest
  · cases hcandidate

/-- Two records say the same, apart from the withdrawal. -/
structure AgreeOutsideWithdrawal (record record' : List (String × Json)) : Prop where
  keys : (record.map Prod.fst).Perm (record'.map Prod.fst)
  fields : ∀ key, key ∉ ["state", "withdrawn_at_utc", "withdraw_reason"] →
    Json.dumps (field record key) = Json.dumps (field record' key)

theorem Release.agree_shown (r : Release) (withdrawal : Option (String × String)) :
    AgreeOutsideWithdrawal (r.shown withdrawal) (r.membersAs none) := by
  constructor
  · refine (List.Perm.of_eq (Json.keys_setMember _ (r.mem_keys withdrawal (by decide)))).trans ?_
    refine (Json.keys_sorted_perm _).trans (List.Perm.of_eq ?_)
    rw [r.keys_membersAs, r.keys_membersAs]
  · intro key hkey
    have hsame : field (r.membersAs withdrawal) key = field (r.membersAs none) key := by
      rcases withdrawal with _ | ⟨now, reason⟩
      · rfl
      · simp only [List.mem_cons, List.not_mem_nil, or_false, not_or] at hkey
        have hset : r.membersAs (some (now, reason)) = setMember (setMember (setMember
          (r.membersAs none) "state" (.str "withdrawn")) "withdrawn_at_utc" (.str now))
          "withdraw_reason" (.str reason) := rfl
        have hkeys := r.keys_membersAs none
        rw [hset, field, field, Json.lookup_setMember, if_neg hkey.2.2, Json.lookup_setMember,
          if_neg hkey.2.1, Json.lookup_setMember, if_neg hkey.1]
        · rw [hkeys]
          decide
        · rw [Json.keys_setMember _ (by rw [hkeys]; decide), hkeys]
          decide
        · rw [Json.keys_setMember _ (by
            rw [Json.keys_setMember _ (by rw [hkeys]; decide), hkeys]
            decide), Json.keys_setMember _ (by rw [hkeys]; decide), hkeys]
          decide
    by_cases hpresentation : key = "presentation"
    · rw [shown, field, Json.lookup_setMember _ (r.mem_keys withdrawal (by decide)),
        if_pos hpresentation, hpresentation]
      rfl
    · rw [shown, field, Json.lookup_setMember _ (r.mem_keys withdrawal (by decide)),
        if_neg hpresentation]
      change Json.dumps (field (sorted (r.membersAs withdrawal)) key) = _
      rw [field_sorted (r.nodup_membersAs withdrawal), Json.dumps_sortKeys, hsame]

/-! ## Runs -/

theorem Keeps.refl (library : Library) (s : Disk) : Keeps library s s :=
  fun _ _ withdrawal _ hrow hbacked => ⟨withdrawal, hrow, hbacked, fun _ => rfl⟩

theorem Keeps.trans {u : Disk} (h₁ : Keeps library s t) (h₂ : Keeps library t u) :
    Keeps library s u := by
  intro digest r w tree hrow hbacked
  obtain ⟨w', hrow', hbacked', hw'⟩ := h₁ digest r w tree hrow hbacked
  obtain ⟨w'', hrow'', hbacked'', hw''⟩ := h₂ digest r w' tree hrow' hbacked'
  refine ⟨w'', hrow'', hbacked'', fun hsome => ?_⟩
  have hsame := hw' hsome
  rw [hw'' (by rw [hsame]; exact hsome), hsame]

theorem keeps_of_runs {calls : List (Env × Call)} (h : Steps (CallStep library) calls s t)
    (hsound : Sound library s) : Keeps library s t :=
  h.rel (Keeps.refl library) Keeps.trans hsound fun {call u v} _ hstep hu => by
    obtain ⟨hclock, rfl⟩ := hstep
    have heffects := effects_after hu hclock call.2
    exact ⟨hu.effects heffects, keeps_of_effects heffects⟩

/-! ## Main result -/

/-- The laws of a catalog, with the calls that may follow. -/
structure Laws (library : Library) (d : Disk) : Prop where
  digest : ∀ digest row, d.rows.get? digest = some row → row.packageDigest = digest
  version : ∀ digest digest' row row', d.rows.get? digest = some row →
    d.rows.get? digest' = some row' → row.appId = row'.appId → row.appVersion = row'.appVersion →
      digest = digest'
  again : ∀ env source tree validated row, env.Quiet → copyTree source = .ok tree →
    validateSnapshot library tree env.now = .ok validated →
      d.rows.get? validated.packageSha256 = some row →
        row.payloadSha256 = validated.payloadBindingSha256 →
          ∃ record t, rowRecord library row = .ok record ∧
            ingest library source env d.ready = (.done (false, record), t) ∧ Same d t
  refused : ∀ env source tree validated digest row, copyTree source = .ok tree →
    validateSnapshot library tree env.now = .ok validated → d.rows.get? digest = some row →
      (digest = validated.packageSha256 ∨
        row.appId = validated.appId ∧ row.appVersion = validated.appVersion) →
          row.payloadSha256 ≠ validated.payloadBindingSha256 →
            Same d (d.after library env (.ingest source)) ∧
              (∀ result, (ingest library source env d.ready).1 ≠ .done result) ∧
              (env.Quiet → ∃ message, (ingest library source env d.ready).1 =
                .raised (.store ⟨"conflict", message⟩))
  withdrawn : ∀ (env : Env) call digest row, env.Clocked → d.rows.get? digest = some row →
    row.state = "withdrawn" → (d.after library env call).rows.get? digest = some row

/-- `detail` goes on giving the record that a call of `ingest` returned. -/
def Remembers (library : Library) (d : Disk) : Prop :=
  ∀ env source record t calls e, env.Clocked →
    ingest library source env d.ready = (.done (true, record), t) →
      Steps (CallStep library) calls t e → ∃ digest,
        (inner (field record "digests") "package_sha256").bind asStr = some digest ∧
          ∀ env' : Env, env'.Quiet → ∃ record' u,
            detail library (.str digest) env' e.ready = (.done record', u) ∧ Same e u ∧
              AgreeOutsideWithdrawal record' record

theorem Sound.laws (hinj : Function.Injective library.sha256) {d : Disk} (h : Sound library d) :
    Laws library d where
  digest digest row hrow := by
    obtain ⟨r, w, tree, hbacked⟩ := h.rows digest row hrow
    rw [hbacked.row]
    exact hbacked.named
  version := h.version
  again env source tree validated row hquiet hcopied hvalid hrow hpayload := by
    have hready : Sound library d.ready := h.effects (.same ⟨rfl, rfl⟩)
    obtain ⟨record, hrecord, hdecision⟩ := decision_again hready hcopied hvalid hrow hpayload
    obtain ⟨t, hrun, -, hreturned⟩ :=
      (ingest_quiet hquiet source rfl rfl).1 _ hdecision
    refine ⟨record, t, hrecord, hrun, ?_⟩
    rcases hreturned with ⟨-, hsame⟩ | ⟨tree', validated', -, heq, -⟩
    · exact ⟨hsame.rows, hsame.candidates⟩
    · cases heq
  refused env source tree validated digest row hcopied hvalid hrow hknown hpayload := by
    have hready : Sound library d.ready := h.effects (.same ⟨rfl, rfl⟩)
    obtain ⟨message, hdecision⟩ :=
      decision_conflict hinj hready hcopied hvalid hrow hknown hpayload
    obtain ⟨hsame, hdone⟩ := @ingest_refused library env d.ready source rfl rfl _ hdecision
    refine ⟨⟨hsame.rows, hsame.candidates⟩, hdone, fun hquiet => ⟨message, ?_⟩⟩
    obtain ⟨t, hrun, -⟩ := (ingest_quiet hquiet source rfl rfl).2 _ hdecision
    rw [hrun]
  withdrawn env call digest row hclock hrow hstate := by
    obtain ⟨r, w, tree, hbacked⟩ := h.rows digest row hrow
    have hsome : w.isSome = true := by
      rcases w with _ | w
      · rw [hbacked.row] at hstate
        exact absurd hstate (by decide : ¬ "private" = "withdrawn")
      · rfl
    have hbacked' := hbacked
    rw [hbacked.row] at hrow hbacked'
    obtain ⟨w', hrow', -, hw'⟩ :=
      keeps_of_effects (effects_after h hclock call) digest r w tree hrow hbacked'
    rw [hrow', hw' hsome, hbacked.row]

theorem Sound.remembers {d : Disk} (h : Sound library d) : Remembers library d := by
  intro env source record t calls e hclock hrun hsteps
  have hready : Sound library d.ready := h.effects (.same ⟨rfl, rfl⟩)
  have hwp := @wp_ingest library env d.ready source rfl rfl
  obtain ⟨-, ⟨hfalse, -⟩ | ⟨tree, validated, hfresh, heq, hcommitted⟩⟩ := (hwp.done hrun).1
  · cases hfalse
  obtain rfl : record = validated.membersAs none := congrArg Prod.snd heq
  have hvalid : validateSnapshot library tree validated.ingestedAt = .ok validated := by
    rw [(validateSnapshot_spec hfresh.valid).1]
    exact hfresh.valid
  have hsound : Sound library t :=
    hready.effects (.committed source env.now tree validated hfresh hcommitted)
  have hrow : t.rows.get? validated.packageSha256 = some (validated.rowAs none) := by
    rw [hcommitted.rows]
    exact Dict.get?_set_self _ _ _
  have hbacked :
      Backed library t validated.packageSha256 (validated.rowAs none) validated none tree :=
    ⟨rfl, rfl, trivial, hcommitted.directory, hvalid⟩
  obtain ⟨w, hrow', hbacked', -⟩ :=
    keeps_of_runs hsteps hsound _ validated none tree hrow hbacked
  refine ⟨validated.packageSha256, rfl, fun env' hquiet => ?_⟩
  have hbackedReady : Backed library e.ready validated.packageSha256 (validated.rowAs w) validated w
      tree := ⟨rfl, rfl, hbacked'.canonical, hbacked'.directory, hvalid⟩
  obtain ⟨record', u, hdetail, hout, rfl⟩ :=
    (@gives_detail library env' e.ready _ _ _ _ _ hrow' hbackedReady
      (isSha256_of_made hbacked.made)).quiet hquiet
  exact ⟨_, u, hdetail, ⟨hout.rows, hout.candidates⟩, validated.agree_shown w⟩

/-- **Main result.** The laws hold after any calls. -/
theorem catalog_laws (library : Library) (hinj : Function.Injective library.sha256)
    {calls : List (Env × Call)} {d : Disk} (h : Steps (CallStep library) calls .empty d) :
    Laws library d ∧ Remembers library d :=
  ⟨(sound_of_runs h).laws hinj, (sound_of_runs h).remembers⟩

/-! ## A candidate -/

def sampleComponentDigest : String :=
  "ca978112ca1bbdcafac231b39a23dc4da786eff8147c4e72b9807785afee48bb"

def sampleProvenanceDigest : String :=
  "3e23e8160039594a33894f6564e1b1348bbd7a0088d42c4acb73eeaed59c009d"

def sampleSbomDigest : String := "2e7d2c03a9507ae265ecf5b5356885a53393a2029d241394997265a1a25aefc6"

def sampleManifestDigest : String :=
  "2d0ea9ccbf6816261ccd93c3206b9368a2fc395cd7c0fc192fd1304c3d3a2644"

def sampleEmptyDigest : String := "e3b0c44298fc1c149afbf4c8996fb92427ae41e4649b934ca495991b7852b855"

def samplePackageDigest : String :=
  "e75a18833dad9bbed6a9bb5a901d6499ba73c404ff604535080a7241dccbf08b"

def sampleCandidateDigest : String :=
  "27be31475f0657d213ea84876f23d25d54cd2d578c9067dbeb641e540dcad7ef"

def sampleVerificationDigest : String :=
  "a8c7c2e33253d347ac63879c1dbd088b923d828118f50e4e92769c283a52f96f"

def samplePayloadDigest : String :=
  "af594a12e4decc10e57938a3772fb37389f5829922ae4acea84a5486630eb415"

def sampleArtifact (path mediaType sha256 : String) : Json :=
  .obj [("media_type", .str mediaType), ("path", .str path), ("sha256", .str sha256),
    ("size_bytes", .int 1)]

def sampleManifest : List (String × Json) :=
  [("app", .obj [("description", .str "A demo."), ("display_name", .str "Demo"),
      ("id", .str "demo"), ("kind", .str "ui"),
      ("publisher", .obj [("display_name", .str "Demo"), ("id", .str "demo")]),
      ("version", .str "1.0.0")]),
    ("artifacts", .obj [("assets", .arr []), ("browser_derivations", .arr []),
      ("canonical_component",
        sampleArtifact "component.wasm" "application/wasm" sampleComponentDigest),
      ("provenance", sampleArtifact "provenance.json" "application/json" sampleProvenanceDigest),
      ("sbom", sampleArtifact "sbom.cdx.json" "application/json" sampleSbomDigest)]),
    ("capabilities", .arr []), ("entrypoints", .arr []),
    ("package_format", .str "vibapp.package.experimental-v0"),
    ("runtime", .obj [("contract", .str "vibapp:experimental-v0@0.0.1"), ("platforms", .arr []),
      ("profiles", .arr []), ("wasi", .str "0.2"), ("world", .str "ui-only-reference")]),
    ("schema_version", .str "vibapp.manifest.experimental-v0.0.1"),
    ("state", .obj [("migratable_from_max", .int 1), ("migratable_from_min", .int 1),
      ("schema", .int 1)]),
    ("verification", .obj [("revocation", .str "not-revoked")])]

def sampleVerification : List (String × Json) :=
  [("authority", .str "independent-verifier"),
    ("checks", .arr [.obj [("detail", .str "a"), ("id", .str "a"), ("outcome", .str "pass"),
      ("tool", .str "a")]]),
    ("verified_at_utc", .str "2026-01-01T00:00:00Z"),
    ("verifier_version", .str "app-verifier.experimental-v1")]

def sampleCandidate : List (String × Json) :=
  [("authority", authority),
    ("component", .obj [("path", .str "component.wasm"), ("sha256", .str sampleComponentDigest),
      ("size_bytes", .int 1)]),
    ("document_type", .str "verifier-promoted-candidate"), ("job_id", .str "a"),
    ("manifest", .obj [("path", .str "manifest.json"), ("sha256", .str sampleManifestDigest),
      ("size_bytes", .int 1062)]),
    ("package_digest_sha256", .str samplePackageDigest), ("package_directory", .str "package"),
    ("quarantine_receipt_sha256", .str sampleEmptyDigest),
    ("schema_version", .str "vibapp.builder-candidate.experimental-v1"),
    ("source_tree_sha256", .str sampleEmptyDigest), ("state", .str "candidate-ready"),
    ("verification", .obj sampleVerification)]

def sampleFiles : List (String × List UInt8) :=
  [("component.wasm", [97]), ("manifest.json", canonicalJson (.obj sampleManifest)),
    ("provenance.json", [98]), ("sbom.cdx.json", [99])]

def sampleTree : Tree := ⟨some (canonicalJson (.obj sampleCandidate)), sampleFiles⟩

def sampleSource : Source where
  name := "candidate.json"
  candidate := .regular (canonicalJson (.obj sampleCandidate))
  package := .directory (sampleFiles.map fun file => .file file.1 (.regular file.2))

def sampleComponent : Descriptor := ⟨"component.wasm", sampleComponentDigest, 1, "application/wasm"⟩

def sampleRest : List Descriptor :=
  [⟨"provenance.json", sampleProvenanceDigest, 1, "application/json"⟩,
    ⟨"sbom.cdx.json", sampleSbomDigest, 1, "application/json"⟩]

def sampleInventory : List Observed :=
  [⟨"component.wasm", sampleComponentDigest, 1⟩, ⟨"manifest.json", sampleManifestDigest, 1062⟩,
    ⟨"provenance.json", sampleProvenanceDigest, 1⟩, ⟨"sbom.cdx.json", sampleSbomDigest, 1⟩]

/-- The preimage of the package digest. -/
def samplePreimage : List UInt8 :=
  Daemon.packageMagic ++ Daemon.packBE 8 1062 ++ canonicalJson (.obj sampleManifest) ++
    (sampleComponent :: sampleRest).flatMap fun d =>
      Daemon.descriptorBytes ⟨d.path, d.sha256, d.sizeBytes⟩

/-- The preimage of the payload's digest. -/
def samplePayload : Json :=
  .obj [("candidate_sha256", .str sampleCandidateDigest),
    ("package_digest_sha256", .str samplePackageDigest),
    ("files", .arr (sampleInventory.map Observed.toJson))]

/-- SHA-256 of the texts of the sample. -/
def sampleTable : List (List UInt8 × String) :=
  [([97], sampleComponentDigest), ([98], sampleProvenanceDigest), ([99], sampleSbomDigest),
    (canonicalJson (.obj sampleManifest), sampleManifestDigest),
    (canonicalJson (.obj sampleCandidate), sampleCandidateDigest),
    (samplePreimage, samplePackageDigest),
    (canonicalJson (.obj sampleVerification), sampleVerificationDigest),
    (canonicalJson samplePayload, samplePayloadDigest)]

def sampleObjects : List (List UInt8 × Json) :=
  [(canonicalJson (.obj sampleManifest), .obj sampleManifest),
    (canonicalJson (.obj sampleCandidate), .obj sampleCandidate)]

/-- A text that is no digest, one for each list of bytes. -/
def undigested (bytes : List UInt8) : String := String.ofList ('x' :: bytes.map Char.ofUInt8)

/-- A library that knows the digests of the sample. -/
def sampleLibrary : Library where
  sha256 bytes := ((sampleTable.find? (·.1 = bytes)).map Prod.snd).getD (undigested bytes)
  nfkcCasefold s := String.ofList (s.toList.map Char.toLower)
  loads bytes := (sampleObjects.find? (·.1 = bytes)).map Prod.snd

/-- The canonical text of a value, byte by byte. -/
theorem canonicalJson_eq (value : Json) : canonicalJson value =
    (Json.chars (Json.sortKeys value)).flatMap String.utf8EncodeChar := by
  simp [canonicalJson, Json.dumps, List.utf8Encode]

theorem texts_sample : (canonicalJson (.obj sampleManifest)).length = 1062 ∧
    (canonicalJson (.obj sampleCandidate)).length = 965 ∧
      duplicateKey (.obj sampleManifest) = none ∧ duplicateKey (.obj sampleCandidate) = none := by
  rw [canonicalJson_eq, canonicalJson_eq]
  refine ⟨?_, ?_, ?_, ?_⟩ <;> decide +kernel

theorem length_sampleManifest : (canonicalJson (.obj sampleManifest)).length = 1062 :=
  texts_sample.1

theorem length_sampleCandidate : (canonicalJson (.obj sampleCandidate)).length = 965 :=
  texts_sample.2.1

theorem nodup_sampleTable : (sampleTable.map Prod.fst).Nodup := by
  unfold sampleTable samplePreimage
  simp only [canonicalJson_eq]
  decide +kernel

theorem undigested_injective : Function.Injective undigested := by
  intro a b h
  have hchars := (List.cons.inj (String.ofList_injective h)).2
  refine List.map_injective_iff.2 (fun x y hxy => ?_) hchars
  exact UInt8.toNat_inj.1 (congrArg Char.toNat hxy)

theorem undigested_notMem (bytes : List UInt8) : undigested bytes ∉ sampleTable.map Prod.snd := by
  unfold sampleTable
  simp only [List.map_cons, List.map_nil, List.mem_cons, List.not_mem_nil, or_false, not_or]
  refine ⟨?_, ?_, ?_, ?_, ?_, ?_, ?_, ?_⟩ <;> intro h <;>
    exact absurd (List.cons.inj (String.ofList_injective h)).1 (by decide)

theorem sha256_cases (bytes : List UInt8) :
    (bytes, sampleLibrary.sha256 bytes) ∈ sampleTable ∨
      sampleLibrary.sha256 bytes = undigested bytes := by
  change (bytes, ((sampleTable.find? (·.1 = bytes)).map Prod.snd).getD _) ∈ _ ∨
    ((sampleTable.find? (·.1 = bytes)).map Prod.snd).getD _ = _
  cases h : sampleTable.find? (·.1 = bytes) with
  | none => exact .inr rfl
  | some entry =>
    have hbytes : entry.1 = bytes := by simpa using List.find?_some h
    exact .inl (hbytes ▸ List.mem_of_find?_eq_some h)

theorem sha256_injective : Function.Injective sampleLibrary.sha256 := by
  have hvalues : (sampleTable.map Prod.snd).Nodup := by
    simp [sampleTable, sampleComponentDigest, sampleProvenanceDigest, sampleSbomDigest,
      sampleManifestDigest, sampleCandidateDigest, samplePackageDigest, sampleVerificationDigest,
      samplePayloadDigest]
  intro a b h
  rcases sha256_cases a with ha | ha <;> rcases sha256_cases b with hb | hb
  · exact congrArg Prod.fst (List.inj_on_of_nodup_map hvalues ha hb h)
  · exact absurd (List.mem_map_of_mem ha) (h ▸ hb ▸ undigested_notMem b)
  · exact absurd (List.mem_map_of_mem hb) (h ▸ ha ▸ undigested_notMem a)
  · exact undigested_injective (ha.symm.trans (h.trans hb))

/-- The entry of a key that occurs once. -/
theorem find?_of_mem {α β : Type} [DecidableEq α] {l : List (α × β)} (h : (l.map Prod.fst).Nodup)
    {a : α} {b : β} (hmem : (a, b) ∈ l) : (l.find? (·.1 = a)).map Prod.snd = some b := by
  cases hfind : l.find? (·.1 = a) with
  | none => exact absurd (List.find?_eq_none.1 hfind _ hmem) (by simp)
  | some entry =>
    have ha : entry.1 = a := by simpa using List.find?_some hfind
    rw [List.inj_on_of_nodup_map h (List.mem_of_find?_eq_some hfind) hmem ha]
    rfl

theorem sha256_of_mem {bytes : List UInt8} {digest : String} (h : (bytes, digest) ∈ sampleTable) :
    sampleLibrary.sha256 bytes = digest := by
  change ((sampleTable.find? (·.1 = bytes)).map Prod.snd).getD _ = _
  rw [find?_of_mem nodup_sampleTable h]
  rfl

theorem sha256_sampleManifest :
    sampleLibrary.sha256 (canonicalJson (.obj sampleManifest)) = sampleManifestDigest :=
  sha256_of_mem (.tail _ (.tail _ (.tail _ (.head _))))

theorem loads_of_mem {bytes : List UInt8} {value : Json} (h : (bytes, value) ∈ sampleObjects) :
    sampleLibrary.loads bytes = some value := by
  have hsub : (sampleObjects.map Prod.fst).Sublist (sampleTable.map Prod.fst) := by
    unfold sampleObjects sampleTable
    exact .cons _ (.cons _ (.cons _ (.cons_cons _ (.cons_cons _ (List.nil_sublist _)))))
  have hfind := find?_of_mem (nodup_sampleTable.sublist hsub) h
  rw [sampleLibrary]
  dsimp only
  rw [hfind]

def sampleRelease (now : String) : Release where
  appId := "demo"
  appVersion := "1.0.0"
  appKind := "ui"
  displayName := "Demo"
  description := "A demo."
  publisherId := "demo"
  publisherName := "Demo"
  world := "ui-only-reference"
  profiles := []
  platforms := []
  entrypoints := []
  capabilities := []
  appState := [("migratable_from_max", .int 1), ("migratable_from_min", .int 1), ("schema", .int 1)]
  presentation := ⟨900, 640, 480, 360, true⟩
  packageSha256 := samplePackageDigest
  componentSha256 := sampleComponentDigest
  manifestSha256 := sampleManifestDigest
  sourceTreeSha256 := sampleEmptyDigest
  quarantineReceiptSha256 := sampleEmptyDigest
  candidateRecordSha256 := sampleCandidateDigest
  verificationBlockSha256 := sampleVerificationDigest
  payloadBindingSha256 := samplePayloadDigest
  verification := sampleVerification
  packageFiles := sampleInventory
  ingestedAt := now

theorem validateApp_sample : validateApp sampleLibrary sampleCandidate sampleManifest =
    .ok ⟨"demo", "1.0.0", "ui", "Demo", "A demo.", ⟨900, 640, 480, 360, true⟩, "demo", "Demo"⟩ := by
  rfl

theorem strictJson_sample {bytes : List UInt8} {members : List (String × Json)} (label : String)
    (h : (bytes, Json.obj members) ∈ sampleObjects) (hkeys : duplicateKey (.obj members) = none) :
    strictJson sampleLibrary bytes label = .ok (.obj members) := by
  rw [strictJson, loads_of_mem h]
  dsimp only
  rw [hkeys]

theorem validateManifest_sample : validateManifest sampleLibrary sampleCandidate
    (canonicalJson (.obj sampleManifest)) = .ok sampleManifest := by
  rw [validateManifest, sha256_sampleManifest, length_sampleManifest,
    strictJson_sample "manifest" (.head _) texts_sample.2.2.1]
  rfl

theorem readRegular_sample {data : List UInt8} {maximum n : Nat} (label : String)
    (h : data.length = n) (hn : n ≤ maximum) :
    readRegular (some data) maximum label = .ok data := by
  rw [readRegular, if_neg (by omega)]

theorem observe_cons {path : String} {data : List UInt8} {digest : String} {n : Nat}
    (rest : List (String × List UInt8)) (observed : List Observed) (total : Nat)
    (hpath : artifactPath (.str path) "stored package path" = .ok path)
    (hsha : sampleLibrary.sha256 data = digest) (hlength : data.length = n)
    (hn : n ≤ maxArtifactBytes) (hfew : observed.length < maxPackageFiles)
    (hsize : total + n ≤ maxPackageBytes) :
    observe sampleLibrary ((path, data) :: rest) observed total =
      observe sampleLibrary rest (observed ++ [⟨path, digest, n⟩]) (total + n) := by
  rw [observe, hpath, ok_bind, readRegular_sample path hlength hn, ok_bind, hsha, hlength]
  dsimp only
  rw [raiseIf,
    if_neg (by rw [List.length_append, List.length_singleton]; omega)]
  rfl

theorem observe_sample : observe sampleLibrary sampleFiles [] 0 = .ok sampleInventory := by
  unfold sampleFiles
  rw [observe_cons _ _ _ rfl (sha256_of_mem (.head _)) rfl (by decide) (by decide) (by decide),
    observe_cons _ _ _ rfl sha256_sampleManifest
      length_sampleManifest (by decide) (by decide) (by decide),
    observe_cons _ _ _ rfl (sha256_of_mem (.tail _ (.head _))) rfl (by decide) (by decide)
      (by decide),
    observe_cons _ _ _ rfl (sha256_of_mem (.tail _ (.tail _ (.head _)))) rfl (by decide)
      (by decide) (by decide)]
  rfl

theorem validateCandidate_sample :
    validateCandidate sampleCandidate = .ok (samplePackageDigest, sampleVerification) := by
  rfl

theorem manifestDescriptors_sample :
    manifestDescriptors sampleManifest = .ok (sampleComponent, sampleRest) := by
  rfl

theorem candidateMembers_sample :
    candidateMembers (.obj sampleCandidate) = .ok sampleCandidate := by
  rfl

theorem validateRuntime_sample :
    validateRuntime sampleManifest = .ok ("ui-only-reference", [], [], [], []) := by
  rfl
theorem validateState_sample :
    validateState sampleManifest = .ok (sampleRelease "").appState := by
  rfl
theorem validateFiles_sample :
    validateFiles (sampleComponent :: sampleRest) sampleInventory = .ok () := by
  rfl
theorem validateComponent_sample :
    validateComponent sampleCandidate sampleComponent = .ok () := by
  rfl

theorem packageDigest_sample : packageDigest sampleLibrary (.obj sampleManifest)
    (sampleComponent :: sampleRest) = samplePackageDigest := by
  rw [packageDigest, length_sampleManifest]
  exact sha256_of_mem (.tail _ (.tail _ (.tail _ (.tail _ (.tail _ (.head _))))))

theorem payloadDigest_sample : payloadDigest sampleLibrary sampleCandidateDigest samplePackageDigest
    sampleInventory = samplePayloadDigest := by
  unfold payloadDigest
  exact sha256_of_mem
    (.tail _ (.tail _ (.tail _ (.tail _ (.tail _ (.tail _ (.tail _ (.head _))))))))

theorem validateSnapshot_sample (now : String) :
    validateSnapshot sampleLibrary sampleTree now = .ok (sampleRelease now) := by
  have hcandidate : sampleLibrary.sha256 (canonicalJson (.obj sampleCandidate)) =
      sampleCandidateDigest := sha256_of_mem (.tail _ (.tail _ (.tail _ (.tail _ (.head _)))))
  have hverification : sampleLibrary.sha256 (canonicalJson (.obj sampleVerification)) =
      sampleVerificationDigest :=
    sha256_of_mem (.tail _ (.tail _ (.tail _ (.tail _ (.tail _ (.tail _ (.head _)))))))
  have hsorted : sampleInventory.insertionSort (fun a b => a.path ≤ b.path) = sampleInventory := by
    decide
  have hlookup : sampleFiles.lookup "manifest.json" =
      some (canonicalJson (.obj sampleManifest)) := rfl
  have hcandidateFile := readRegular_sample "candidate.json" length_sampleCandidate
    (by decide : 965 ≤ maxCandidateBytes)
  have hmanifestFile := readRegular_sample "manifest.json" length_sampleManifest
    (by decide : 1062 ≤ maxManifestBytes)
  unfold validateSnapshot sampleTree
  dsimp only
  rw [hcandidateFile, ok_bind, strictJson_sample "candidate" (.tail _ (.head _))
    texts_sample.2.2.2, ok_bind, candidateMembers_sample, ok_bind, validateCandidate_sample, ok_bind]
  dsimp only
  rw [hlookup, hmanifestFile, ok_bind, validateManifest_sample, ok_bind,
    manifestDescriptors_sample, ok_bind]
  dsimp only
  rw [observe_sample, ok_bind, validateFiles_sample, ok_bind, validateComponent_sample, ok_bind,
    packageDigest_sample, raiseIf, if_neg (not_not.2 rfl), ok_bind, validateApp_sample, ok_bind,
    validateRuntime_sample, ok_bind]
  dsimp only
  rw [validateState_sample, ok_bind, hcandidate, sha256_sampleManifest, hverification, hsorted,
    payloadDigest_sample]
  rfl

theorem copyTreeItems_cons {path : String} {data : List UInt8} {n : Nat} (rest : List Item)
    (count total : Nat) (tree : Tree) (hpath : artifactPath (.str path) "package path" = .ok path)
    (hlength : data.length = n) (hn : n ≤ maxArtifactBytes) (hfew : count < maxPackageFiles)
    (hsize : total + n ≤ maxPackageBytes) :
    copyTreeItems (.file path (.regular data) :: rest) count total tree =
      copyTreeItems rest (count + 1) (total + n) (tree.putFile path data) := by
  rw [copyTreeItems, hlength, raiseIf, if_neg (by omega), ok_bind, hpath, ok_bind, raiseIf,
    if_neg (by omega)]
  rfl

theorem copyTree_sample : copyTree sampleSource = .ok sampleTree := by
  unfold copyTree sampleSource
  have hname : raiseIf ("candidate.json" ≠ "candidate.json") "invalid-argument"
      "input must be the frozen candidate.json" = .ok () := if_neg (not_not.2 rfl)
  have hsize : ¬ maxCandidateBytes < (canonicalJson (.obj sampleCandidate)).length := by
    rw [length_sampleCandidate]
    decide
  rw [hname, ok_bind]
  dsimp only
  rw [raiseIf, if_neg hsize, ok_bind]
  unfold sampleFiles
  simp only [List.map_cons, List.map_nil]
  rw [copyTreeItems_cons _ _ _ _ rfl rfl (by decide) (by decide) (by decide),
    copyTreeItems_cons _ _ _ _ rfl length_sampleManifest (by decide) (by decide) (by decide),
    copyTreeItems_cons _ _ _ _ rfl rfl (by decide) (by decide) (by decide),
    copyTreeItems_cons _ _ _ _ rfl rfl (by decide) (by decide) (by decide)]
  rfl

theorem fresh_sample (now : String) :
    Fresh sampleLibrary .empty sampleSource now sampleTree (sampleRelease now) :=
  ⟨copyTree_sample, validateSnapshot_sample now, rfl, rfl, rfl⟩

def sampleNow : String := "2026-01-02T00:00:00Z"

/-- A call without faults. -/
def calm (now : String) : Env := ⟨now, fun _ => none⟩

theorem quiet_calm (now : String) : (calm now).Quiet := fun _ => rfl

theorem clocked_calm : (calm sampleNow).Clocked := fun _ => rfl

/-- The store with one release. -/
def sampleDisk : Disk := Disk.empty.after sampleLibrary (calm sampleNow) (.ingest sampleSource)

theorem steps_sampleDisk :
    Steps (CallStep sampleLibrary) [(calm sampleNow, .ingest sampleSource)] .empty sampleDisk :=
  .single ⟨clocked_calm, rfl⟩

theorem row_sampleDisk :
    sampleDisk.rows.get? samplePackageDigest = some (sampleRelease sampleNow).row := by
  have hfresh := (same_ready .empty).fresh.2 (fresh_sample sampleNow)
  obtain ⟨t, hrun, -, hreturned⟩ :=
    (ingest_quiet (quiet_calm sampleNow) sampleSource rfl rfl).1 _ hfresh.decision
  rw [sampleDisk, Disk.after, hrun]
  rcases hreturned with ⟨hfalse, -⟩ | ⟨tree, validated, hfresh', -, hcommitted⟩
  · cases hfalse
  · obtain ⟨-, rfl⟩ := fresh_unique hfresh hfresh'.copied hfresh'.valid
    rw [hcommitted.rows]
    exact Dict.get?_set_self _ _ _

theorem catalog_laws_sample : ∃ d,
    Steps (CallStep sampleLibrary) [(calm sampleNow, .ingest sampleSource)] .empty d ∧
      d.rows.get? samplePackageDigest = some (sampleRelease sampleNow).row ∧
        Laws sampleLibrary d ∧ Remembers sampleLibrary d :=
  ⟨sampleDisk, steps_sampleDisk, row_sampleDisk,
    catalog_laws sampleLibrary sha256_injective steps_sampleDisk⟩

end Vibapp.AppStore
