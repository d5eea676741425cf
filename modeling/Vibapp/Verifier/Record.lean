import Vibapp.Verifier.StoreChecks

/-!
# The record of a promotion

`candidate.json` as it is written, and what the store asks of it. Of the store's checks on a record the
verifier leaves one open, the bound of the job's identifier (`validateCandidate_eq_ok`,
`fits_of_validateCandidate`).
-/

namespace Vibapp.Verifier

open Daemon (field hasExactly asStr)
open Json (sorted size size_obj_le size_str_le size_nat_le Plain)
open AppStore (canonicalJson duplicateKey isSha256)

/-! ## The document -/

def Descriptor.toJson (path : String) (d : Descriptor) : Json :=
  .obj [("path", .str path), ("sha256", .str d.sha256), ("size_bytes", .int d.sizeBytes)]

def Presentation.toJson (p : Presentation) : Json :=
  .obj [("schema_version", .str hostPresentationSchema), ("preferred_width", .int p.preferredWidth),
    ("preferred_height", .int p.preferredHeight), ("minimum_width", .int p.minimumWidth),
    ("minimum_height", .int p.minimumHeight), ("resizable", .bool p.resizable)]

def Check.toJson (c : Check) : Json :=
  .obj [("id", .str c.id), ("outcome", .str c.outcome), ("tool", .str c.tool),
    ("detail", .str c.detail)]

def Record.verification (record : Record) : List (String × Json) :=
  [("authority", .str "independent-verifier"), ("verifier_version", .str verifierVersion),
    ("verified_at_utc", .str record.verifiedAtUtc),
    ("checks", .arr (record.checks.map Check.toJson))]

def Record.members (record : Record) : List (String × Json) :=
  [("schema_version", .str "vibapp.builder-candidate.experimental-v1"),
    ("document_type", .str "verifier-promoted-candidate"), ("state", .str "candidate-ready"),
    ("job_id", .str record.jobId), ("source_tree_sha256", .str record.sourceTreeSha256),
    ("package_digest_sha256", .str record.packageDigestSha256),
    ("package_directory", .str "package"),
    ("component", record.component.toJson "component.wasm"),
    ("manifest", record.manifest.toJson "manifest.json"),
    ("quarantine_receipt_sha256", .str record.quarantineReceiptSha256),
    ("presentation", record.presentation.toJson), ("verification", .obj record.verification),
    ("authority", .obj [("install", .str "daemon"), ("publish", .str "none")])]

/-- What `atomic_json` writes. -/
def Record.bytes (record : Record) : List UInt8 := canonicalJson (.obj record.members) ++ [10]

/-! ## Its keys -/

theorem Record.nodup_members (record : Record) : (record.members.map Prod.fst).Nodup := by
  change ["schema_version", "document_type", "state", "job_id", "source_tree_sha256",
    "package_digest_sha256", "package_directory", "component", "manifest",
    "quarantine_receipt_sha256", "presentation", "verification", "authority"].Nodup
  decide

theorem Record.nodup_verification (record : Record) : (record.verification.map Prod.fst).Nodup := by
  change ["authority", "verifier_version", "verified_at_utc", "checks"].Nodup
  decide

theorem nodup_descriptor (path : String) (d : Descriptor) :
    ([("path", Json.str path), ("sha256", .str d.sha256),
      ("size_bytes", .int d.sizeBytes)].map Prod.fst).Nodup := by
  change ["path", "sha256", "size_bytes"].Nodup
  decide

/-- A field of the record, as it is read back. -/
theorem Record.field_eq (record : Record) (key : String) :
    field (sorted record.members) key = Json.sortKeys (field record.members key) :=
  AppStore.field_sorted record.nodup_members key

theorem duplicateKey_sortKeys {value : Json} (h : duplicateKey value = none) :
    duplicateKey (Json.sortKeys value) = none := by
  induction hn : sizeOf value using Nat.strong_induction_on generalizing value with
  | _ n ih =>
    subst hn
    cases value with
    | arr items =>
      rw [Json.sortKeys, Builder.duplicateKey_arr]
      rw [Builder.duplicateKey_arr] at h
      intro item hitem
      have hmap : ∀ xs : List Json, Json.sortItems xs = xs.map Json.sortKeys := by
        intro xs
        induction xs with
        | nil => rfl
        | cons x xs ihx => rw [Json.sortItems, ihx, List.map_cons]
      rw [hmap] at hitem
      obtain ⟨old, hold, rfl⟩ := List.mem_map.1 hitem
      have hlt := List.sizeOf_lt_of_mem hold
      exact ih (sizeOf old) (by simp only [Json.arr.sizeOf_spec]; omega) (h old hold) rfl
    | obj members =>
      have hparts := Builder.duplicateKey_obj.1 h
      rw [Json.sortKeys_obj, Builder.duplicateKey_obj]
      refine ⟨fun p hp => ?_, (Json.keys_sorted_perm members).nodup_iff.2 hparts.2⟩
      have hp := (List.perm_insertionSort _ _).mem_iff.1 hp
      rw [Json.sortMembers_eq_map] at hp
      obtain ⟨old, hold, rfl⟩ := List.mem_map.1 hp
      have hlt := List.sizeOf_lt_of_mem hold
      have hvalue : sizeOf old.2 < sizeOf old := by
        cases old
        simp only [Prod.mk.sizeOf_spec]
        omega
      exact ih (sizeOf old.2) (by simp only [Json.obj.sizeOf_spec]; omega) (hparts.1 old hold) rfl
    | _ => rfl

/-! ## Checks -/

/-- The checks of every promotion. -/
def promotionChecks : List Check := fixedChecks ++ wasmChecks ++ [guestCheck]

theorem nodup_check (c : Check) : ([("id", Json.str c.id), ("outcome", .str c.outcome),
    ("tool", .str c.tool), ("detail", .str c.detail)].map Prod.fst).Nodup := by
  change ["id", "outcome", "tool", "detail"].Nodup
  decide

theorem duplicateKey_check (c : Check) : duplicateKey c.toJson = none := by
  refine Builder.duplicateKey_obj.2 ⟨?_, nodup_check c⟩
  simp only [List.forall_mem_cons, List.not_mem_nil, false_implies, implies_true, and_true]
  exact ⟨rfl, rfl, rfl, rfl⟩

theorem duplicateKey_record (record : Record) : duplicateKey (.obj record.members) = none := by
  have hcheck : ∀ item ∈ record.checks.map Check.toJson, duplicateKey item = none := by
    intro item hitem
    obtain ⟨c, -, rfl⟩ := List.mem_map.1 hitem
    exact duplicateKey_check c
  have hverification : duplicateKey (.obj record.verification) = none := by
    refine Builder.duplicateKey_obj.2 ⟨?_, record.nodup_verification⟩
    unfold Record.verification
    simp only [List.forall_mem_cons, List.not_mem_nil, false_implies, implies_true, and_true]
    exact ⟨rfl, rfl, rfl, Builder.duplicateKey_arr.2 hcheck⟩
  refine Builder.duplicateKey_obj.2 ⟨?_, record.nodup_members⟩
  unfold Record.members
  simp only [List.forall_mem_cons, List.not_mem_nil, false_implies, implies_true, and_true]
  exact ⟨rfl, rfl, rfl, rfl, rfl, rfl, rfl, rfl, rfl, rfl, rfl, hverification, rfl⟩

/-- No key is repeated in what is read back. -/
theorem duplicateKey_sorted (record : Record) :
    duplicateKey (.obj (sorted record.members)) = none := by
  rw [← Json.sortKeys_obj]
  exact duplicateKey_sortKeys (duplicateKey_record record)

/-! ## Records that a promotion writes -/

/-- The presentation as the store reads it. -/
def Presentation.stored (p : Presentation) : AppStore.Presentation :=
  ⟨p.preferredWidth, p.preferredHeight, p.minimumWidth, p.minimumHeight, p.resizable⟩

theorem Presentation.toJson_stored (p : Presentation) : p.stored.toJson = p.toJson := rfl

/-- A moment of which `strftime` writes the year with four digits. -/
structure IsMoment (text : String) : Prop where
  intro ::
  instant : ∃ t : Instant, text = t.text ∧ 1000 ≤ t.date.ymd.1

/-- What holds of a promoted record, but for the job's identifier. -/
structure Storable (record : Record) : Prop where
  sourceTree : isSha256 record.sourceTreeSha256 = true
  package : isSha256 record.packageDigestSha256 = true
  component : isSha256 record.component.sha256 = true
  componentSize : 1 ≤ record.component.sizeBytes ∧ record.component.sizeBytes ≤ maxComponentBytes
  manifest : isSha256 record.manifest.sha256 = true
  manifestSize : 1 ≤ record.manifest.sizeBytes ∧ record.manifest.sizeBytes ≤ maxJsonBytes
  receipt : isSha256 record.quarantineReceiptSha256 = true
  presentation : record.presentation.stored.Bounded
  time : IsMoment record.verifiedAtUtc
  checks : record.checks = promotionChecks

theorem digest_of_isSha256 {s label : String} (h : isSha256 s = true) :
    AppStore.digest (.str s) label = .ok s := if_pos h

theorem isPlain_of_mem_pad {w n : Nat} (h : n < 10 ^ w) {c : Char} (hc : c ∈ Calendar.pad w n) :
    Json.isPlain c = true := by
  induction w generalizing n with
  | zero => cases hc
  | succ w ih =>
    rw [Calendar.pad] at hc
    rcases List.mem_cons.1 hc with rfl | hc
    · have hdigit : ∀ d < 10, Json.isPlain (Calendar.digit d) = true := by decide
      exact hdigit _ (Calendar.div_pow_lt h)
    · exact ih (Nat.mod_lt n (by positivity)) hc

theorem plain_instant (t : Instant) : Plain 20 t.text := by
  have hdate := t.date.isDate_ymd
  have hyear : t.date.ymd.1 < 10 ^ 4 := lt_of_le_of_lt hdate.year_le (by decide)
  have hmonth : t.date.ymd.2.1 < 10 ^ 2 := lt_of_le_of_lt hdate.month_le (by decide)
  have hday : t.date.ymd.2.2 < 10 ^ 2 :=
    lt_of_le_of_lt (hdate.day_le.trans (Calendar.daysInMonth_le _ _)) (by decide)
  have hhour : t.time.hour < 10 ^ 2 := lt_trans t.time.hour_lt (by decide)
  have hminute : t.time.minute < 10 ^ 2 := lt_trans t.time.minute_lt (by decide)
  have hsecond : t.time.second < 10 ^ 2 := lt_trans t.time.second_lt (by decide)
  refine ⟨fun c hc => ?_, ?_⟩
  · rw [Instant.text, String.toList_ofList] at hc
    simp only [Instant.chars, Date.chars, Time.chars, List.mem_append, List.mem_cons,
      List.not_mem_nil, or_false] at hc
    rcases hc with (hc | rfl | hc | rfl | hc) | rfl | (hc | rfl | hc | rfl | hc) | rfl
    · exact isPlain_of_mem_pad hyear hc
    · decide
    · exact isPlain_of_mem_pad hmonth hc
    · decide
    · exact isPlain_of_mem_pad hday hc
    · decide
    · exact isPlain_of_mem_pad hhour hc
    · decide
    · exact isPlain_of_mem_pad hminute hc
    · decide
    · exact isPlain_of_mem_pad hsecond hc
    · decide
  · rw [Instant.text, String.toList_ofList, Instant.length_chars]

theorem parseUtc_text (t : Instant) : Daemon.parseUtc (.str t.text) = .ok t := by
  have hlayout : ∀ c ∈ t.chars.zip "0000-00-00T00:00:00Z".toList, (c.2 = '0' || c.1 = c.2) = true := by
    simp [Instant.chars, Date.chars, Time.chars, Calendar.pad]
  have hlength : t.text.toList.length = "0000-00-00T00:00:00Z".toList.length := by
    rw [Instant.text, String.toList_ofList, Instant.length_chars]
    rfl
  have hchars : t.text.toList = t.chars := by rw [Instant.text, String.toList_ofList]
  unfold Daemon.parseUtc
  dsimp only
  rw [if_neg, Instant.ofText?_text]
  rw [not_or, not_not, not_not, hchars, List.all_eq_true]
  exact ⟨hchars ▸ hlength, hlayout⟩

theorem utc_of_isMoment {text label : String} (h : IsMoment text) :
    AppStore.utc (.str text) label = .ok text := by
  obtain ⟨t, rfl, hyear⟩ := h.instant
  have hfits : Fits 20 t.text := by
    refine Fits.of_plain (plain_instant t) ?_ ?_
    · intro hempty
      have hlength := t.length_chars
      rw [← String.toList_ofList (l := t.chars), ← Instant.text, hempty] at hlength
      cases hlength
    · rw [← String.length_toList]
      exact (plain_instant t).length
  have hhead : t.text.toList.head? ≠ some '0' := by
    have hlt : t.date.ymd.1 < 10 ^ 4 := lt_of_le_of_lt t.date.isDate_ymd.year_le (by decide)
    have hdigit : ∀ d < 10, 1 ≤ d → some (Calendar.digit d) ≠ some '0' := by decide
    rw [Instant.text, String.toList_ofList]
    exact hdigit _ (Calendar.div_pow_lt hlt) ((Nat.one_le_div_iff (by decide)).2 hyear)
  rw [AppStore.utc, text_eq_ok.2 ⟨rfl, hfits⟩, ok_bind, parseUtc_text]
  exact if_neg hhead

/-! ## The store's checks -/

theorem raiseIf_of_not {c : Prop} [Decidable c] {code message : String} (h : ¬ c) :
    AppStore.raiseIf c code message = .ok () := if_neg h

/-- The store takes a check that passed, if its texts fit. -/
theorem verifyCheck_eq_ok {c : Check} (hpass : c.outcome = "pass") (hid : Fits 128 c.id)
    (htool : Fits 256 c.tool) (hdetail : Fits 1000 c.detail) :
    AppStore.verifyCheck (Json.sortKeys c.toJson) = .ok () := by
  have hfield := AppStore.field_sorted (nodup_check c)
  have hexact : hasExactly (sorted [("id", .str c.id), ("outcome", .str c.outcome),
      ("tool", .str c.tool), ("detail", .str c.detail)]) ["id", "outcome", "tool", "detail"] =
        true := by
    rw [AppStore.hasExactly_sorted]
    rfl
  have houtcome : asStr (field (sorted [("id", .str c.id), ("outcome", .str c.outcome),
      ("tool", .str c.tool), ("detail", .str c.detail)]) "outcome") = some "pass" := by
    rw [hfield, ← hpass]
    rfl
  unfold AppStore.verifyCheck Check.toJson AppStore.exactObject
  rw [Json.sortKeys_obj]
  dsimp only
  rw [if_pos hexact, ok_bind, raiseIf_of_not (not_not.2 houtcome), ok_bind, hfield, hfield, hfield]
  change (AppStore.text (.str c.id) _ _ >>= fun _ => AppStore.text (.str c.tool) _ _ >>= fun _ =>
    AppStore.text (.str c.detail) _ _ >>= fun _ => .ok ()) = _
  rw [text_eq_ok.2 ⟨rfl, hid⟩, ok_bind, text_eq_ok.2 ⟨rfl, htool⟩, ok_bind,
    text_eq_ok.2 ⟨rfl, hdetail⟩, ok_bind]

/-- **The texts of the checks are within the store's bounds.** -/
theorem verifyCheck_promotionChecks :
    (promotionChecks.map fun c => Json.sortKeys c.toJson).forM AppStore.verifyCheck = .ok () := by
  have hchecks : ∀ c ∈ promotionChecks, c.outcome = "pass" ∧
      (utf8Bytes c.id ≠ [] ∧ (utf8Bytes c.id).length ≤ 128 ∧ 0 ∉ utf8Bytes c.id) ∧
      (utf8Bytes c.tool ≠ [] ∧ (utf8Bytes c.tool).length ≤ 256 ∧ 0 ∉ utf8Bytes c.tool) ∧
      (utf8Bytes c.detail ≠ [] ∧ (utf8Bytes c.detail).length ≤ 1000 ∧ 0 ∉ utf8Bytes c.detail) := by
    decide +kernel
  refine forM_eq_ok.2 ?_
  intro value hvalue
  obtain ⟨c, hc, rfl⟩ := List.mem_map.1 hvalue
  obtain ⟨hpass, ⟨hid, hidLength, hidNul⟩, ⟨htool, htoolLength, htoolNul⟩, hdetail,
    hdetailLength, hdetailNul⟩ := hchecks c hc
  exact verifyCheck_eq_ok hpass (.of_bytes hid hidLength hidNul)
    (.of_bytes htool htoolLength htoolNul) (.of_bytes hdetail hdetailLength hdetailNul)

theorem Record.exactObject_verification (record : Record) :
    AppStore.exactObject (.obj (sorted record.verification))
      ["authority", "verifier_version", "verified_at_utc", "checks"] "candidate.verification" =
        .ok (sorted record.verification) := by
  refine if_pos ?_
  rw [AppStore.hasExactly_sorted]
  rfl

/-- **The store takes the record**, where the job's identifier is within its bound. -/
theorem validateCandidate_eq_ok {record : Record} (h : Storable record)
    (hjob : Fits 128 record.jobId) :
    AppStore.validateCandidate (sorted record.members) =
      .ok (record.packageDigestSha256, sorted record.verification) := by
  have hkey : ∀ key, field (sorted record.members) key = Json.sortKeys (field record.members key) :=
    record.field_eq
  have hinner : ∀ key, field (sorted record.verification) key =
      Json.sortKeys (field record.verification key) :=
    AppStore.field_sorted record.nodup_verification
  have hchecks : field record.verification "checks" = .arr (promotionChecks.map Check.toJson) := by
    rw [← h.checks]
    rfl
  have hitems : Json.sortKeys (.arr (promotionChecks.map Check.toJson)) =
      .arr (promotionChecks.map fun c => Json.sortKeys c.toJson) := rfl
  have hconstants : ¬ (asStr (field (sorted record.members) "schema_version") ≠
      some "vibapp.builder-candidate.experimental-v1" ∨
        asStr (field (sorted record.members) "document_type") ≠ some "verifier-promoted-candidate" ∨
          asStr (field (sorted record.members) "state") ≠ some "candidate-ready" ∨
            asStr (field (sorted record.members) "package_directory") ≠ some "package") := by
    rw [hkey, hkey, hkey, hkey]
    exact not_or.2 ⟨not_not.2 rfl, not_or.2 ⟨not_not.2 rfl, not_or.2 ⟨not_not.2 rfl, not_not.2 rfl⟩⟩⟩
  have hauthority : ¬ Json.dumps (field (sorted record.members) "authority") ≠
      Json.dumps AppStore.authority := by
    rw [hkey, Json.dumps_sortKeys, not_not]
    rfl
  have hverifier : ¬ (asStr (field (sorted record.verification) "authority") ≠
      some "independent-verifier" ∨ asStr (field (sorted record.verification) "verifier_version") ≠
        some "app-verifier.experimental-v1") := by
    rw [hinner, hinner]
    exact not_or.2 ⟨not_not.2 rfl, not_not.2 rfl⟩
  have hverification : field (sorted record.members) "verification" =
      .obj (sorted record.verification) := hkey "verification"
  have hjobId : field (sorted record.members) "job_id" = .str record.jobId := hkey "job_id"
  have hsource : field (sorted record.members) "source_tree_sha256" =
      .str record.sourceTreeSha256 := hkey "source_tree_sha256"
  have hpackage : field (sorted record.members) "package_digest_sha256" =
      .str record.packageDigestSha256 := hkey "package_digest_sha256"
  have hreceipt : field (sorted record.members) "quarantine_receipt_sha256" =
      .str record.quarantineReceiptSha256 := hkey "quarantine_receipt_sha256"
  have htime : field (sorted record.verification) "verified_at_utc" = .str record.verifiedAtUtc :=
    hinner "verified_at_utc"
  have hcount : ¬ ((promotionChecks.map fun c => Json.sortKeys c.toJson).length = 0 ∨
      64 < (promotionChecks.map fun c => Json.sortKeys c.toJson).length) := by
    rw [List.length_map]
    decide
  unfold AppStore.validateCandidate
  rw [raiseIf_of_not hconstants, ok_bind, hjobId, text_eq_ok.2 ⟨rfl, hjob⟩, ok_bind,
    hsource, digest_of_isSha256 h.sourceTree, ok_bind, hpackage, digest_of_isSha256 h.package, ok_bind,
    hreceipt, digest_of_isSha256 h.receipt, ok_bind, raiseIf_of_not hauthority, ok_bind,
    hverification, record.exactObject_verification, ok_bind, raiseIf_of_not hverifier,
    ok_bind, htime, utc_of_isMoment h.time, ok_bind, hinner, hchecks, hitems]
  dsimp only
  rw [raiseIf_of_not hcount, ok_bind, verifyCheck_promotionChecks]
  rfl

theorem fits_of_validateCandidate {record : Record} {r : String × List (String × Json)}
    (h : AppStore.validateCandidate (sorted record.members) = .ok r) : Fits 128 record.jobId := by
  unfold AppStore.validateCandidate at h
  obtain ⟨_, -, h⟩ := bind_eq_ok.1 h
  obtain ⟨_, hjob, -⟩ := bind_eq_ok.1 h
  rw [record.field_eq] at hjob
  exact (text_eq_ok.1 hjob).2

theorem candidateMembers_record (record : Record) :
    AppStore.candidateMembers (.obj (sorted record.members)) = .ok (sorted record.members) := by
  have hexact : hasExactly (sorted record.members) (AppStore.candidateKeys ++ ["presentation"]) =
      true := by
    rw [AppStore.hasExactly_sorted]
    rfl
  unfold AppStore.candidateMembers
  dsimp only
  rw [hexact, if_pos rfl]

/-- A descriptor of the record, read back. -/
theorem exactObject_descriptor (path label : String) (d : Descriptor) :
    ∃ members, AppStore.exactObject (Json.sortKeys (d.toJson path)) ["path", "sha256", "size_bytes"]
      label = .ok members ∧ field members "path" = .str path ∧
        field members "sha256" = .str d.sha256 ∧ field members "size_bytes" = .int d.sizeBytes := by
  have hfield := AppStore.field_sorted (nodup_descriptor path d)
  have hexact : hasExactly (sorted [("path", .str path), ("sha256", .str d.sha256),
      ("size_bytes", .int d.sizeBytes)]) ["path", "sha256", "size_bytes"] = true := by
    rw [AppStore.hasExactly_sorted]
    rfl
  exact ⟨sorted [("path", .str path), ("sha256", .str d.sha256), ("size_bytes", .int d.sizeBytes)],
    if_pos hexact, hfield _, hfield _, hfield _⟩

/-! ## Its size -/

theorem plain_of_isSha256 {s : String} (h : isSha256 s = true) : Plain 64 s := by
  unfold AppStore.isSha256 at h
  rw [Bool.and_eq_true, decide_eq_true_eq, List.all_eq_true] at h
  have hhex : ∀ c ∈ "0123456789abcdef".toList, Json.isPlain c = true :=
    List.all_eq_true.1 (by decide)
  refine ⟨fun c hc => hhex c (List.contains_iff_mem.1 (h.2 c hc)), ?_⟩
  rw [String.length_toList, h.1]

theorem size_descriptor_le {path : String} {d : Descriptor} (hpath : size (.str path) ≤ 20)
    (hsha : isSha256 d.sha256 = true) (hsize : d.sizeBytes ≤ maxComponentBytes) :
    size (d.toJson path) ≤ 150 := by
  have hkeys : ∀ k ∈ ["path", "sha256", "size_bytes"], Json.utf8Len (Json.quote k) ≤ 12 := by decide
  have hobject : size (d.toJson path) ≤ _ := size_obj_le hkeys
  have hsha := (plain_of_isSha256 hsha).size_le
  have hsize : size (.int d.sizeBytes) ≤ 8 :=
    size_nat_le (by decide) (lt_of_le_of_lt hsize (by decide))
  simp only [List.length_cons, List.length_nil, List.map_cons, List.map_nil, List.sum_cons,
    List.sum_nil] at hobject
  omega

theorem size_presentation_le {p : Presentation} (h : p.stored.Bounded) : size p.toJson ≤ 250 := by
  have hkeys : ∀ k ∈ ["schema_version", "preferred_width", "preferred_height", "minimum_width",
      "minimum_height", "resizable"], Json.utf8Len (Json.quote k) ≤ 18 := by decide
  have hobject : size p.toJson ≤ _ := size_obj_le hkeys
  have hnumber : ∀ n : Nat, (n : Int) ≤ 1920 → size (.int n) ≤ 4 := fun n hn =>
    size_nat_le (by decide) (by omega)
  have hschema : size (.str hostPresentationSchema) ≤ 45 := by decide
  have hresizable : size (.bool p.resizable) ≤ 5 := by
    cases p.resizable
    · decide
    · decide
  have hpreferredWidth := hnumber p.preferredWidth h.preferredWidth.2
  have hpreferredHeight := hnumber p.preferredHeight (h.preferredHeight.2.trans (by decide))
  have hminimumWidth := hnumber p.minimumWidth (h.minimumWidth.2.trans (by decide))
  have hminimumHeight := hnumber p.minimumHeight (h.minimumHeight.2.trans (by decide))
  simp only [List.length_cons, List.length_nil, List.map_cons, List.map_nil, List.sum_cons,
    List.sum_nil] at hobject
  omega

theorem size_verification_le {record : Record} (h : Storable record) :
    size (.obj record.verification) ≤ 4000 := by
  have hkeys : ∀ k ∈ ["authority", "verifier_version", "verified_at_utc", "checks"],
      Json.utf8Len (Json.quote k) ≤ 18 := by decide
  have hauthority : size (.str "independent-verifier") ≤ 40 := by decide
  have hversion : size (.str verifierVersion) ≤ 40 := by decide
  have htime : size (.str record.verifiedAtUtc) ≤ 22 := by
    obtain ⟨t, ht, -⟩ := h.time.instant
    rw [ht]
    exact (plain_instant t).size_le
  have hchecks : size (.arr (record.checks.map Check.toJson)) ≤ 3000 := by
    rw [h.checks, Json.size_eq]
    decide +kernel
  rw [Record.verification]
  refine le_trans (size_obj_le hkeys) ?_
  simp only [List.length_cons, List.length_nil, List.map_cons, List.map_nil, List.sum_cons,
    List.sum_nil]
  omega

theorem length_canonicalJson (value : Json) : (canonicalJson value).length = size value := by
  rw [← Json.utf8ByteSize_dumps]
  exact Array.length_toList

/-- **The record is within the store's bound**, where the job's identifier is. -/
theorem length_bytes_le {record : Record} (h : Storable record) (hjob : Fits 128 record.jobId) :
    record.bytes.length ≤ AppStore.maxCandidateBytes := by
  have hkeys : ∀ k ∈ ["schema_version", "document_type", "state", "job_id", "source_tree_sha256",
      "package_digest_sha256", "package_directory", "component", "manifest",
      "quarantine_receipt_sha256", "presentation", "verification", "authority"],
      Json.utf8Len (Json.quote k) ≤ 27 := by decide
  have hschema : size (.str "vibapp.builder-candidate.experimental-v1") = 42 := by decide
  have htype : size (.str "verifier-promoted-candidate") = 29 := by decide
  have hstate : size (.str "candidate-ready") = 17 := by decide
  have hdirectory : size (.str "package") = 9 := by decide
  have hauthority : size (.obj [("install", .str "daemon"), ("publish", .str "none")]) = 37 := by
    decide
  have hjobId := size_str_le hjob.size
  have hsource := (plain_of_isSha256 h.sourceTree).size_le
  have hpackage := (plain_of_isSha256 h.package).size_le
  have hreceipt := (plain_of_isSha256 h.receipt).size_le
  have hcomponent : size (record.component.toJson "component.wasm") ≤ 150 :=
    size_descriptor_le (by decide) h.component h.componentSize.2
  have hmanifest : size (record.manifest.toJson "manifest.json") ≤ 150 :=
    size_descriptor_le (by decide) h.manifest (h.manifestSize.2.trans (by decide))
  have hpresentation := size_presentation_le h.presentation
  have hverification := size_verification_le h
  have hmaximum : AppStore.maxCandidateBytes = 1048576 := rfl
  have hobject : size (.obj record.members) ≤ 20000 := by
    rw [Record.members]
    refine le_trans (size_obj_le hkeys) ?_
    simp only [List.length_cons, List.length_nil, List.map_cons, List.map_nil, List.sum_cons,
      List.sum_nil, hschema, htype, hstate, hdirectory, hauthority]
    omega
  rw [Record.bytes, List.length_append, length_canonicalJson, List.length_singleton]
  omega

end Vibapp.Verifier
