import Vibapp.Protocol.CrossContract

/-!
# Admission of parsed manifests

`admit` on the manifests that the parser accepts. **Main result** (`admit_exact`): it accepts exactly
when the package is not revoked, the component's imports are the declared ones and the host supports
them all, a platform of the package fits, and no required capability is denied or unavailable. Its
checks of what the parser has already checked never refuse, and it stays with an acceptance when the
host offers more or denies less. The status of the verification decides nothing.
-/

namespace Vibapp.Protocol.Model

/-- `admit` on a manifest that the parser built. -/
def admitParsed (m : Manifest) (request : AdmissionRequest) : AdmissionOutcome :=
  admitManifest m.forAdmission request

/-- When a parsed manifest is accepted. -/
structure AdmissionLaws (m : Manifest) (request : AdmissionRequest) : Prop where
  notRevoked : m.verification.revocation = .notRevoked
  actual : ∀ i, i ∈ request.actualComponentImports ↔ i ∈ m.runtime.requiredImports
  supported : ∀ i ∈ m.runtime.requiredImports, i ∈ request.hostSupportedImports
  platform : ∃ p ∈ m.runtime.platforms, p.os = request.host.os ∧ p.arch = request.host.arch ∧
    request.host.profile ∈ p.profiles
  granted : ∀ c ∈ m.capabilities, c.necessity = .required →
    c.interface ∉ request.deniedPermissions
  capable : ∀ c ∈ m.capabilities, c.necessity = .required → ∀ s ∈ c.profiles,
    s.profile = request.host.profile → s.availability ≠ .denied ∧ s.availability ≠ .unavailable

/-- What the parser has checked of a manifest. -/
structure ParsedLaws (m : Manifest) : Prop where
  cross : CrossContract m.toContents
  capabilities : CapabilityLaws m.capabilities

theorem parsedLaws {text : String} {m : Manifest} (h : parseManifest text = .ok m) :
    ParsedLaws m := by
  obtain ⟨raw, -, hbuild⟩ := parseManifest_eq_ok_iff.1 h
  obtain ⟨hc, hcross, -⟩ := buildManifest_eq_ok_iff.1 hbuild
  obtain ⟨hartifacts, hcapabilities⟩ := sections_laws hc
  exact ⟨(validateCrossContract_eq_ok hartifacts).1 hcross, hcapabilities⟩

/-! ## Admission's view of the manifest -/

/-- The capability as `admit` reads it. -/
def Capability.view (c : Capability) : Protocol.Capability :=
  ⟨c.interface, c.necessity, c.profiles.map fun s => ⟨s.profile, s.availability⟩⟩

theorem capabilities_forAdmission (m : Manifest) :
    m.forAdmission.capabilities = m.capabilities.map Capability.view := rfl

theorem find_map {α β : Type} (f : α → β) (p : β → Bool) (l : List α) :
    (l.map f).find? p = (l.find? fun a => p (f a)).map f := by
  rw [List.find?_map]
  rfl

namespace ParsedLaws

variable {m : Manifest}

theorem world (h : ParsedLaws m) :
    (reconcileWorldImports m.forAdmission.runtime.world
      m.forAdmission.runtime.requiredImports).isOk = true := by
  have hmem := h.cross.world
  rw [reconcileWorldImports, if_pos]
  · rfl
  · simp only [Bool.and_eq_true, List.isEmpty_iff, List.filter_eq_nil_iff, Bool.not_eq_true',
      Bool.not_eq_false, List.contains_iff_mem]
    exact ⟨fun i => (hmem i).2, fun i => (hmem i).1⟩

theorem interfaces (h : ParsedLaws m) {i : String} (hi : i ∈ m.runtime.requiredImports) :
    i ∈ appInterfaces := by
  have hworld := (h.cross.world i).1 hi
  revert hworld
  cases m.runtime.world <;>
    simp only [importsForWorld, appInterfaces, List.mem_cons, List.not_mem_nil, or_false] <;> tauto

theorem deniedRequired_eq_none (h : ParsedLaws m) {d : String} :
    deniedRequired m.forAdmission d = none ↔
      ∀ c ∈ m.capabilities, c.necessity = .required → c.interface ≠ d := by
  rw [deniedRequired, capabilities_forAdmission, find_map]
  cases hfind : m.capabilities.find? fun c => (Capability.view c).interface = d with
  | none =>
    refine iff_of_true rfl fun c hc _ => ?_
    exact fun he => List.find?_eq_none.1 hfind c hc (decide_eq_true he)
  | some c =>
    have hc := (find_eq_some_iff h.capabilities.interfaces).1 hfind
    rw [Option.map_some]
    dsimp only
    by_cases hrequired : c.necessity = .required
    · rw [if_pos (by exact hrequired)]
      exact iff_of_false (by simp) fun hall => hall c hc.1 hrequired hc.2
    · rw [if_neg (by exact hrequired)]
      refine iff_of_true rfl fun c' hc' hrequired' hinterface => hrequired ?_
      have hsame := (find_eq_some_iff h.capabilities.interfaces).2 ⟨hc', hinterface⟩
      cases hsame.symm.trans hfind
      exact hrequired'

/-- Every capability speaks of every supported profile. -/
theorem find_support (h : ParsedLaws m) {c : Capability} (hc : c ∈ m.capabilities) {q : Profile}
    (hq : q ∈ m.runtime.profileNames) :
    ∃ s ∈ c.profiles, s.profile = q ∧
      (c.profiles.find? fun s => s.profile = q) = some s := by
  obtain ⟨s, hs, hprofile⟩ := List.mem_map.1 (((h.cross.capability c hc).profiles q).2 hq)
  exact ⟨s, hs, hprofile, (find_eq_some_iff (h.capabilities.profiles c hc)).2 ⟨hs, hprofile⟩⟩

theorem refusedCapability_eq_none (h : ParsedLaws m) {c : Capability} (hc : c ∈ m.capabilities)
    {q : Profile} (hq : q ∈ m.runtime.profileNames) :
    refusedCapability q c.view = none ↔ (c.necessity = .required → ∀ s ∈ c.profiles,
      s.profile = q → s.availability ≠ .denied ∧ s.availability ≠ .unavailable) := by
  obtain ⟨s, hs, hprofile, hfind⟩ := h.find_support hc hq
  have honly : ∀ s' ∈ c.profiles, s'.profile = q → s' = s := by
    intro s' hs' hprofile'
    have hsame := (find_eq_some_iff (h.capabilities.profiles c hc)).2 ⟨hs', hprofile'⟩
    exact Option.some.inj (hsame.symm.trans hfind)
  have hview : (c.view.profiles.find? fun support => support.profile = q) =
      some ⟨s.profile, s.availability⟩ := by
    rw [Capability.view, find_map, hfind]
    rfl
  rw [refusedCapability, hview]
  dsimp only
  by_cases hrequired : c.necessity = .required
  · rw [if_pos (by exact hrequired)]
    constructor
    · intro hnone _ s' hs' hprofile'
      rw [honly s' hs' hprofile']
      cases havailability : s.availability <;> rw [havailability] at hnone <;> simp_all
    · intro hall
      have hgood := hall hrequired s hs hprofile
      cases havailability : s.availability <;> simp_all
  · rw [if_neg (by exact hrequired)]
    exact iff_of_true rfl fun hr => absurd hr hrequired

theorem liveForbidden_eq_false (h : ParsedLaws m) {c : Capability} (hc : c ∈ m.capabilities) :
    liveForbidden c.view = false := by
  rw [liveForbidden, Capability.view, find_map]
  cases hfind : c.profiles.find? fun s => s.profile = .webPreview with
  | none => rfl
  | some s =>
    have hs := (find_eq_some_iff (h.capabilities.profiles c hc)).1 hfind
    rw [Option.map_some]
    dsimp only
    by_cases hrestricted : c.interface ∈ previewRestricted
    · rcases (h.cross.capability c hc).preview hrestricted s hs.1 hs.2 with ha | ha | ha <;>
        simp [ha]
    · have hnot : [scheduler, notification, systemMetrics, http].contains c.interface = false := by
        rw [Bool.eq_false_iff]
        exact fun hmem => hrestricted (List.contains_iff_mem.1 hmem)
      rw [hnot, Bool.false_and]

/-- The conditions of `admit` are the laws. -/
theorem admissible_iff (h : ParsedLaws m) (request : AdmissionRequest) :
    Admissible m.forAdmission request ↔ AdmissionLaws m request := by
  have hprofile : ∀ p ∈ m.runtime.platforms, request.host.profile ∈ p.profiles →
      request.host.profile ∈ m.runtime.profileNames := fun p hp hq =>
    (h.cross.platform p hp _ hq).1
  constructor
  · intro ha
    obtain ⟨view, hview, hos, harch, hq⟩ := ha.platform
    obtain ⟨p, hp, rfl⟩ := List.mem_map.1 hview
    have hsupported := hprofile p hp hq
    exact {
      notRevoked := by
        have hnot : m.verification.revocation ≠ .revoked := ha.notRevoked
        cases hr : m.verification.revocation with
        | notRevoked => rfl
        | revoked => exact absurd hr hnot
      actual := ha.actual
      supported := ha.supported
      platform := ⟨p, hp, hos, harch, hq⟩
      granted := fun c hc hrequired hmem =>
        h.deniedRequired_eq_none.1 (ha.granted _ hmem) c hc hrequired rfl
      capable := fun c hc => (h.refusedCapability_eq_none hc hsupported).1
        (ha.capable _ (List.mem_map_of_mem hc)) }
  · intro ha
    obtain ⟨p, hp, hos, harch, hq⟩ := ha.platform
    have hsupported := hprofile p hp hq
    exact {
      notRevoked := by
        change m.verification.revocation ≠ .revoked
        rw [ha.notRevoked]
        exact RevocationStatus.noConfusion
      world := h.world
      allowed := fun i hi => h.interfaces ((ha.actual i).1 hi)
      actual := ha.actual
      supported := ha.supported
      platform := ⟨_, List.mem_map_of_mem hp, hos, harch, hq⟩
      profile := hsupported
      granted := fun d hd => h.deniedRequired_eq_none.2 fun c hc hrequired hinterface =>
        ha.granted c hc hrequired (hinterface ▸ hd)
      capable := by
        intro view hview
        obtain ⟨c, hc, rfl⟩ := List.mem_map.1 hview
        exact (h.refusedCapability_eq_none hc hsupported).2 (ha.capable c hc)
      preview := by
        intro _ view hview
        obtain ⟨c, hc, rfl⟩ := List.mem_map.1 hview
        exact h.liveForbidden_eq_false hc }

end ParsedLaws

/-! ## The checks that never refuse -/

/-- A refusal of a malformed manifest: its imports are not its world's, a capability does not speak of
the profile, or a web preview has live authority. -/
inductive Defensive : AdmissionOutcome → Prop
  | world : Defensive (.reject .incompatibleContract
      "manifest imports do not match the selected accepted WIT world")
  | profile (interface : String) : Defensive (.reject .incompatibleContract
      ("capability " ++ interface ++ " does not declare the requested profile"))
  | preview : Defensive (.reject .incompatibleContract
      "web-preview hardware and background capabilities must be mock, denied or unavailable")

/-- The start of each defensive detail. -/
theorem Defensive.detail {o : AdmissionOutcome} (h : Defensive o) :
    o.decision = .reject ∧ o.code = some .incompatibleContract ∧
      (o.detail.toList.take 2 = ['m', 'a'] ∨ o.detail.toList.take 2 = ['c', 'a'] ∨
        o.detail.toList.take 2 = ['w', 'e']) := by
  cases h with
  | world => exact ⟨rfl, rfl, Or.inl (by decide)⟩
  | profile interface =>
    refine ⟨rfl, rfl, Or.inr (Or.inl ?_)⟩
    change (("capability " ++ interface ++ " does not declare the requested profile").toList.take
      2) = _
    rw [String.toList_append, String.toList_append]
    rfl
  | preview => exact ⟨rfl, rfl, Or.inr (Or.inr (by decide))⟩

/-- A refusal with another code or a detail that starts otherwise. -/
theorem not_defensive_reject {code : ProtocolErrorCode} {detail : String}
    (h : code ≠ .incompatibleContract ∨ detail.toList.take 2 = ['c', 'o'] ∨
      detail.toList.take 2 = ['p', 'a']) : ¬ Defensive (.reject code detail) := by
  intro hdefensive
  obtain ⟨-, hcode, hdetail⟩ := hdefensive.detail
  have hcode' : code = .incompatibleContract := Option.some.inj hcode
  have hdetail' : detail.toList.take 2 = ['m', 'a'] ∨ detail.toList.take 2 = ['c', 'a'] ∨
      detail.toList.take 2 = ['w', 'e'] := hdetail
  rcases h with h | h | h
  · exact h hcode'
  · rw [h] at hdetail'
    exact absurd hdetail' (by decide)
  · rw [h] at hdetail'
    exact absurd hdetail' (by decide)

theorem not_defensive_of_decision {o : AdmissionOutcome} (h : o.decision ≠ .reject) :
    ¬ Defensive o := fun hdefensive => h hdefensive.detail.1

theorem deniedRequired_block {manifest : Protocol.Manifest} {d : String} {o : AdmissionOutcome}
    (h : deniedRequired manifest d = some o) : o.decision = .block := by
  rw [deniedRequired] at h
  split at h
  · split at h
    · cases h
      rfl
    · cases h
  · cases h

theorem refusedCapability_block {q : Profile} {c : Protocol.Capability} {o : AdmissionOutcome}
    (hsupport : ∃ s, (c.profiles.find? fun support => support.profile = q) = some s)
    (h : refusedCapability q c = some o) : o.decision = .block := by
  obtain ⟨s, hs⟩ := hsupport
  rw [refusedCapability, hs] at h
  dsimp only at h
  split at h
  · split at h
    · cases h
      rfl
    · cases h
      rfl
    all_goals cases h
  · cases h

/-- **For a parsed manifest no refusal is defensive.** -/
theorem ParsedLaws.not_defensive {m : Manifest} (h : ParsedLaws m) (request : AdmissionRequest) :
    ¬ Defensive (admitParsed m request) := by
  rw [admitParsed, admitManifest]
  split
  · exact not_defensive_reject (Or.inl (by decide))
  · rw [if_neg (by rw [h.world]; decide)]
    dsimp only
    split
    · exact not_defensive_reject (Or.inl (by decide))
    · split
      · exact not_defensive_reject (Or.inr (Or.inl (by decide)))
      · split
        · exact not_defensive_reject (Or.inl (by decide))
        · split
          · exact not_defensive_reject (Or.inr (Or.inr (by decide)))
          · rename_i hplatform
            split
            · rename_i outcome hdenied
              obtain ⟨d, -, ho⟩ := List.exists_of_findSome?_eq_some hdenied
              apply not_defensive_of_decision
              rw [deniedRequired_block ho]
              decide
            · split
              · rename_i outcome hrefused
                obtain ⟨view, hview, ho⟩ := List.exists_of_findSome?_eq_some hrefused
                obtain ⟨c, hc, rfl⟩ := List.mem_map.1 hview
                have hprofile : request.host.profile ∈ m.runtime.profileNames := by
                  rw [Bool.or_eq_true, not_or, Bool.not_eq_true', Bool.not_eq_true',
                    Bool.not_eq_false, Bool.not_eq_false] at hplatform
                  exact List.contains_iff_mem.1 hplatform.2
                obtain ⟨s, -, -, hfind⟩ := h.find_support hc hprofile
                apply not_defensive_of_decision
                rw [refusedCapability_block ?_ ho]
                · decide
                · refine ⟨⟨s.profile, s.availability⟩, ?_⟩
                  rw [find_map, hfind]
                  rfl
              · rw [if_neg]
                · exact not_defensive_of_decision (by rw [accept_decision]; decide)
                · rw [Bool.and_eq_true, List.any_eq_true]
                  rintro ⟨-, view, hview, hlive⟩
                  obtain ⟨c, hc, rfl⟩ := List.mem_map.1 hview
                  exact absurd (hlive.symm.trans (h.liveForbidden_eq_false hc)) (by decide)

/-! ## Main result -/

/-- The second request differs from the first in what the host offers and in what is denied: more of
the one and less of the other. -/
structure Relaxes (request request' : AdmissionRequest) : Prop where
  host : request'.host = request.host
  actual : request'.actualComponentImports = request.actualComponentImports
  supported : ∀ i ∈ request.hostSupportedImports, i ∈ request'.hostSupportedImports
  denied : ∀ d ∈ request'.deniedPermissions, d ∈ request.deniedPermissions

theorem AdmissionLaws.mono {m : Manifest} {request request' : AdmissionRequest}
    (h : AdmissionLaws m request) (hr : Relaxes request request') : AdmissionLaws m request' where
  notRevoked := h.notRevoked
  actual := by
    rw [hr.actual]
    exact h.actual
  supported := fun i hi => hr.supported i (h.supported i hi)
  platform := by
    rw [hr.host]
    exact h.platform
  granted := fun c hc hrequired hd => h.granted c hc hrequired (hr.denied _ hd)
  capable := by
    rw [hr.host]
    exact h.capable

/-- **Admission is exact and monotone** on the manifests that the parser accepts. -/
theorem admit_exact {text : String} {m : Manifest} (h : parseManifest text = .ok m)
    (request : AdmissionRequest) :
    ((admitParsed m request).decision = .accept ↔ AdmissionLaws m request) ∧
    ¬ Defensive (admitParsed m request) ∧
    ∀ request', Relaxes request request' → (admitParsed m request).decision = .accept →
      (admitParsed m request').decision = .accept := by
  have hlaws := parsedLaws h
  have hiff : ∀ r, (admitParsed m r).decision = .accept ↔ AdmissionLaws m r := fun r =>
    (admitManifest_accept_iff m.forAdmission r).trans (hlaws.admissible_iff r)
  refine ⟨hiff request, hlaws.not_defensive request, ?_⟩
  intro request' hr haccept
  exact (hiff request').2 (((hiff request).1 haccept).mono hr)

/-! ## What does not decide -/

theorem forAdmission_congr {m n : Manifest} (h : n.toContents = m.toContents) :
    n.forAdmission = m.forAdmission := by
  rw [Manifest.forAdmission, Manifest.forAdmission, h]

/-- A desktop request of a component that imports what its world does. -/
def sampleRequest (supported : List String) : AdmissionRequest where
  host := ⟨"linux", "x86-64", .desktop⟩
  actualComponentImports := importsForWorld .uiOnly
  hostSupportedImports := supported
  deniedPermissions := []

theorem sampleDocument_admitted :
    (buildManifest (sampleDocument ["desktop"] 4096 "unverified")).toOption.any (fun m =>
      (admitParsed m (sampleRequest (importsForWorld .uiOnly))).decision = .accept &&
        m.verification.status ≠ .verified) = true := by decide +kernel

theorem admit_exact_sample :
    ∃ m, parseManifest (toCanonicalJson (sampleDocument ["desktop"] 4096 "unverified")) = .ok m ∧
      ((admitParsed m (sampleRequest [])).decision = .accept ↔ AdmissionLaws m (sampleRequest [])) ∧
      ¬ Defensive (admitParsed m (sampleRequest [])) ∧
      ∀ request', Relaxes (sampleRequest []) request' →
        (admitParsed m (sampleRequest [])).decision = .accept →
        (admitParsed m request').decision = .accept := by
  obtain ⟨m, hm, -⟩ := exists_of_toOption_any sampleDocument_admitted
  obtain ⟨n, hn, -⟩ := exists_text (distinctKeys_sampleDocument _ _ _) hm
  exact ⟨n, hn, admit_exact hn (sampleRequest [])⟩

/-- A verified package that is not revoked, on a platform it supports, whose required capabilities
the host supports and nothing denies. -/
structure VerifiedAndSupported (m : Manifest) (request : AdmissionRequest) : Prop where
  verified : m.verification.status = .verified
  notRevoked : m.verification.revocation = .notRevoked
  platform : ∃ p ∈ m.runtime.platforms, p.os = request.host.os ∧ p.arch = request.host.arch ∧
    request.host.profile ∈ p.profiles
  supported : ∀ c ∈ m.capabilities, c.necessity = .required →
    c.interface ∈ request.hostSupportedImports
  granted : ∀ c ∈ m.capabilities, c.necessity = .required →
    c.interface ∉ request.deniedPermissions
  capable : ∀ c ∈ m.capabilities, c.necessity = .required → ∀ s ∈ c.profiles,
    s.profile = request.host.profile → s.availability ≠ .denied ∧ s.availability ≠ .unavailable

theorem sampleDocument_unsupported :
    (buildManifest (sampleDocument ["desktop"] 4096 "verified")).toOption.any (fun m =>
      let request := sampleRequest [clock, kv, log, hostInfo]
      (admitParsed m request).decision = .reject && decide (
        m.verification = ⟨.verified, .notRevoked⟩ ∧
        (∃ p ∈ m.runtime.platforms, p.os = request.host.os ∧ p.arch = request.host.arch ∧
          request.host.profile ∈ p.profiles) ∧
        (∀ c ∈ m.capabilities, c.necessity = .required →
          c.interface ∈ request.hostSupportedImports) ∧
        ∀ c ∈ m.capabilities, ∀ s ∈ c.profiles, s.availability = .native)) = true := by
  decide +kernel

/-- An unverified package is accepted. A verified one is refused because the host lacks an interface
that it can do without. -/
theorem verifiedAndSupported_differs :
    (¬ ∀ text m request, parseManifest text = .ok m → (admitParsed m request).decision = .accept →
      VerifiedAndSupported m request) ∧
    ¬ ∀ text m request, parseManifest text = .ok m → VerifiedAndSupported m request →
      (admitParsed m request).decision = .accept := by
  constructor
  · intro hall
    obtain ⟨m, hm, hcheck⟩ := exists_of_toOption_any sampleDocument_admitted
    obtain ⟨n, hn, hcontents⟩ := exists_text (distinctKeys_sampleDocument _ _ _) hm
    rw [Bool.and_eq_true, decide_eq_true_eq, decide_eq_true_eq] at hcheck
    have haccept := hcheck.1
    rw [admitParsed, ← forAdmission_congr hcontents] at haccept
    have hverified := (hall _ n _ hn haccept).verified
    rw [hcontents] at hverified
    exact hcheck.2 hverified
  · intro hall
    obtain ⟨m, hm, hcheck⟩ := exists_of_toOption_any sampleDocument_unsupported
    obtain ⟨n, hn, hcontents⟩ := exists_text (distinctKeys_sampleDocument _ _ _) hm
    rw [Bool.and_eq_true, decide_eq_true_eq, decide_eq_true_eq] at hcheck
    obtain ⟨hreject, hverification, hplatform, hsupported, hnative⟩ := hcheck
    have hstated : VerifiedAndSupported n (sampleRequest [clock, kv, log, hostInfo]) := by
      constructor <;> rw [hcontents]
      · rw [hverification]
      · rw [hverification]
      · exact hplatform
      · exact hsupported
      · exact fun c _ _ => List.not_mem_nil
      · intro c hc _ s hs _
        rw [hnative c hc s hs]
        exact ⟨by decide, by decide⟩
    have haccept := hall _ n _ hn hstated
    rw [admitParsed, forAdmission_congr hcontents] at haccept
    rw [admitParsed, haccept] at hreject
    cases hreject

end Vibapp.Protocol.Model
