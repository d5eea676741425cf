import Vibapp.Lib.Dict
import Vibapp.Protocol.Manifest
import Vibapp.Protocol.RoundTrip

/-!
# The manifest does not depend on the form of its document

The parser asks an object only for the values under keys, so members in another order, other
whitespace or other escapes give the same typed manifest. **Main result** (`manifest_roundTrip`): the
canonical text of an accepted manifest parses to an equal manifest, and a document that differs from
an accepted one in form alone is accepted, as an equal manifest with the same canonical text.
-/

namespace Vibapp.Protocol

/-! ## Values that texts read as -/

mutual

/-- What a text reads as has distinct keys. -/
theorem distinctKeys_of_value : ∀ {tree : Cst} {v : JsonValue}, tree.value = some v →
    v.DistinctKeys
  | .null, v, h | .true, v, h | .false, v, h | .emptyArray _, v, h => by
    cases h
    trivial
  | .emptyObject _, v, h => by
    cases h
    exact ⟨List.nodup_nil, trivial⟩
  | .number n, v, h => by
    rw [Cst.value, Option.map_eq_some_iff] at h
    obtain ⟨i, -, rfl⟩ := h
    trivial
  | .string pieces, v, h => by
    rw [Cst.value, Option.map_eq_some_iff] at h
    obtain ⟨cs, -, rfl⟩ := h
    trivial
  | .array items, v, h => by
    rw [Cst.value, Option.map_eq_some_iff] at h
    obtain ⟨values, hvalues, rfl⟩ := h
    exact distinctKeys_of_values hvalues
  | .object members, v, h => by
    rw [Cst.value, Option.bind_eq_some_iff] at h
    obtain ⟨entries, hentries, h⟩ := h
    split at h
    · rename_i hnodup
      cases h
      exact ⟨hnodup, distinctKeys_of_entries hentries⟩
    · cases h

theorem distinctKeys_of_values : ∀ {items : Items} {vs : List JsonValue}, items.values = some vs →
    valuesDistinct vs
  | .last _ value _, vs, h => by
    rw [Items.values, Option.map_eq_some_iff] at h
    obtain ⟨v, hv, rfl⟩ := h
    exact ⟨distinctKeys_of_value hv, trivial⟩
  | .more _ value _ rest, vs, h => by
    rw [Items.values, Option.bind_eq_some_iff] at h
    obtain ⟨v, hv, h⟩ := h
    rw [Option.map_eq_some_iff] at h
    obtain ⟨ws, hws, rfl⟩ := h
    exact ⟨distinctKeys_of_value hv, distinctKeys_of_values hws⟩

theorem distinctKeys_of_entries : ∀ {members : Members} {es : List (String × JsonValue)},
    members.entries = some es → entriesDistinct es
  | .last _ key _ _ value _, es, h => by
    rw [Members.entries, Option.bind_eq_some_iff] at h
    obtain ⟨cs, -, h⟩ := h
    rw [Option.map_eq_some_iff] at h
    obtain ⟨v, hv, rfl⟩ := h
    exact ⟨distinctKeys_of_value hv, trivial⟩
  | .more _ key _ _ value _ rest, es, h => by
    rw [Members.entries, Option.bind_eq_some_iff] at h
    obtain ⟨cs, -, h⟩ := h
    rw [Option.bind_eq_some_iff] at h
    obtain ⟨v, hv, h⟩ := h
    rw [Option.map_eq_some_iff] at h
    obtain ⟨fs, hfs, rfl⟩ := h
    exact ⟨distinctKeys_of_value hv, distinctKeys_of_entries hfs⟩

end

theorem ReadsAs.distinctKeys {input : String} {v : JsonValue} (h : ReadsAs input v) :
    v.DistinctKeys := by
  obtain ⟨_, tree, _, -, hvalue⟩ := h
  exact distinctKeys_of_value hvalue

/-! ## Values of one form -/

/-- Two values that differ in the order of members alone. -/
structure Alike (v w : JsonValue) : Prop where
  left : v.DistinctKeys
  right : w.DistinctKeys
  eq : v.eq w = true

/-- Two objects that differ in the order of members alone: what stands under a key in the one stands
under it in the other. -/
structure AlikeEntries (es fs : ObjectEntries) : Prop where
  keys : ∀ key, key ∈ es.map Prod.fst ↔ key ∈ fs.map Prod.fst
  lookup : ∀ key v, es.lookup key = some v → ∃ w, fs.lookup key = some w ∧ Alike v w

namespace Alike

variable {v w : JsonValue}

theorem symm (h : Alike v w) : Alike w v :=
  ⟨h.right, h.left, (eq_iff_canonical.1 w v h.right h.left).2
    ((eq_iff_canonical.1 v w h.left h.right).1 h.eq).symm⟩

theorem canonical (h : Alike v w) : toCanonicalJson v = toCanonicalJson w :=
  (eq_iff_canonical.1 v w h.left h.right).1 h.eq

theorem asStr (h : Alike v w) : v.asStr = w.asStr := by
  obtain ⟨-, -, heq⟩ := h
  cases v <;> cases w <;> simp_all [JsonValue.eq, JsonValue.asStr]

theorem asI64 (h : Alike v w) : v.asI64 = w.asI64 := by
  obtain ⟨-, -, heq⟩ := h
  cases v <;> cases w <;> simp_all [JsonValue.eq, JsonValue.asI64]

theorem asBool (h : Alike v w) : v.asBool = w.asBool := by
  obtain ⟨-, -, heq⟩ := h
  cases v <;> cases w <;> simp_all [JsonValue.eq, JsonValue.asBool]

end Alike

theorem forall₂_alike : ∀ {vs ws : List JsonValue}, valuesDistinct vs → valuesDistinct ws →
    valuesEqual vs ws = true → List.Forall₂ Alike vs ws
  | [], [], _, _, _ => .nil
  | [], _ :: _, _, _, h => absurd h (by simp [valuesEqual])
  | _ :: _, [], _, _, h => absurd h (by simp [valuesEqual])
  | v :: vs, w :: ws, hv, hw, h => by
    rw [valuesEqual, Bool.and_eq_true] at h
    exact .cons ⟨hv.1, hw.1, h.1⟩ (forall₂_alike hv.2 hw.2 h.2)

theorem Alike.asArray {v w : JsonValue} (h : Alike v w) {vs : List JsonValue}
    (hv : v.asArray = some vs) : ∃ ws, w.asArray = some ws ∧ List.Forall₂ Alike vs ws := by
  obtain ⟨hl, hr, heq⟩ := h
  cases v <;> cases hv
  cases w with
  | array ws => exact ⟨ws, rfl, forall₂_alike hl hr heq⟩
  | _ => exact absurd heq (by simp [JsonValue.eq])

theorem lookup_of_mem {es : ObjectEntries} (hnodup : (es.map Prod.fst).Nodup) {key : String}
    {v : JsonValue} (h : (key, v) ∈ es) : es.lookup key = some v :=
  Dict.lookup_eq_some_of_mem hnodup h

theorem mem_of_lookup {es : ObjectEntries} {key : String} {v : JsonValue}
    (h : es.lookup key = some v) : (key, v) ∈ es := by
  induction es with
  | nil => cases h
  | cons e rest ih =>
    obtain ⟨k, x⟩ := e
    by_cases hk : key = k
    · subst hk
      rw [List.lookup_cons, beq_self_eq_true] at h
      cases h
      exact List.mem_cons_self
    · rw [List.lookup_cons, beq_false_of_ne hk] at h
      exact List.mem_cons_of_mem _ (ih h)

theorem Alike.asObject {v w : JsonValue} (h : Alike v w) {es : ObjectEntries}
    (hv : v.asObject = some es) : ∃ fs, w.asObject = some fs ∧ AlikeEntries es fs := by
  obtain ⟨hl, hr, heq⟩ := h
  cases v <;> cases hv
  obtain ⟨fs, rfl⟩ : ∃ fs, w = .object fs := by
    cases w with
    | object fs => exact ⟨fs, rfl⟩
    | _ => exact absurd heq (by simp [JsonValue.eq])
  refine ⟨fs, rfl, ?_⟩
  rw [JsonValue.eq, Bool.and_eq_true, beq_iff_eq, matchEntries_eq_true hl.1] at heq
  obtain ⟨hlength, hmatch⟩ := heq
  have hpartner : ∀ e ∈ es, ∃ x ∈ fs, e.1 = x.1 ∧ Alike e.2 x.2 := by
    intro e he
    obtain ⟨x, hx, hkey, hvalue⟩ := hmatch e he
    have hmem : x ∈ fs := by simpa using hx
    exact ⟨x, hmem, hkey, entriesDistinct_iff.1 hl.2 e he, entriesDistinct_iff.1 hr.2 x hmem, hvalue⟩
  refine ⟨?_, ?_⟩
  · have hsub : es.map Prod.fst ⊆ fs.map Prod.fst := by
      intro key hkey
      obtain ⟨e, he, rfl⟩ := List.mem_map.1 hkey
      obtain ⟨x, hx, hkey, -⟩ := hpartner e he
      exact hkey ▸ List.mem_map_of_mem hx
    have hperm : (es.map Prod.fst).Perm (fs.map Prod.fst) :=
      (List.subperm_of_subset hl.1 hsub).perm_of_length_le (by simp [hlength])
    exact fun key => hperm.mem_iff
  · intro key v hv
    obtain ⟨x, hx, hkey, halike⟩ := hpartner (key, v) (mem_of_lookup hv)
    refine ⟨x.2, ?_, halike⟩
    rw [show key = x.1 from hkey]
    exact lookup_of_mem hr.1 hx

/-! ## Fields -/

namespace Model

open Carries

variable {v w : JsonValue} {es fs : ObjectEntries}

theorem has_eq (h : AlikeEntries es fs) (key : String) : has es key = has fs key := by
  rw [Bool.eq_iff_iff, Model.has, Model.has, List.any_eq_true, List.any_eq_true]
  simpa using h.keys key

theorem orRefuse_carries {α β : Type} {R : α → β → Prop} {x : Option α} {y : Option β}
    (h : ∀ a, x = some a → ∃ b, y = some b ∧ R a b) (e e' : ManifestError) :
    Carries R (orRefuse x e) (orRefuse y e') := by
  intro a ha
  cases x with
  | none => cases ha
  | some x =>
    cases ha
    obtain ⟨b, rfl, hab⟩ := h a rfl
    exact ⟨b, rfl, hab⟩

theorem orRefuse_eq_carries {α : Type} {x y : Option α} (h : x = y) (e e' : ManifestError) :
    Carries Eq (orRefuse x e) (orRefuse y e') :=
  orRefuse_carries (fun a ha => ⟨a, h ▸ ha, rfl⟩) e e'

theorem exactObject_carries (h : Alike v w) (path : String) (allowed requiredFields : List String) :
    Carries AlikeEntries (exactObject v path allowed requiredFields)
      (exactObject w path allowed requiredFields) := by
  refine (orRefuse_carries (fun es => h.asObject) _ _).bind fun es fs hobject => ?_
  intro es' hes
  split at hes
  · cases hes
  · rename_i hallowed
    split at hes
    · cases hes
    · rename_i hrequired
      cases hes
      refine ⟨fs, ?_, hobject⟩
      have hallowed' : (fs.find? fun entry => !allowed.contains entry.1) = none := by
        rw [List.find?_eq_none] at hallowed ⊢
        intro x hx
        obtain ⟨e, he, hkey⟩ := List.mem_map.1 ((hobject.keys x.1).2 (List.mem_map_of_mem hx))
        rw [← hkey]
        exact hallowed e he
      have hrequired' : (requiredFields.find? fun key => !has fs key) = none := by
        rw [← hrequired]
        congr 1
        funext key
        rw [has_eq hobject]
      rw [hallowed', hrequired']

theorem required_carries (h : AlikeEntries es fs) (key path : String) :
    Carries Alike (required es key path) (required fs key path) :=
  orRefuse_carries (h.lookup key) _ _

theorem requiredString_carries (h : AlikeEntries es fs) (key path : String) :
    Carries Eq (requiredString es key path) (requiredString fs key path) :=
  (required_carries h key path).bind fun _ _ hv => orRefuse_eq_carries hv.asStr _ _

theorem requiredArray_carries (h : AlikeEntries es fs) (key path : String) :
    Carries (List.Forall₂ Alike) (requiredArray es key path) (requiredArray fs key path) :=
  (required_carries h key path).bind fun _ _ hv => orRefuse_carries (fun _ => hv.asArray) _ _

theorem boundedString_carries (h : AlikeEntries es fs) (key path : String) (minimum maximum : Nat) :
    Carries Eq (boundedString es key path minimum maximum)
      (boundedString fs key path minimum maximum) :=
  (requiredString_carries h key path).bind_eq fun _ => Carries.refl _

theorem boundedU64_carries (h : AlikeEntries es fs) (key path : String) (minimum maximum : Nat)
    (code : ProtocolErrorCode) :
    Carries Eq (boundedU64 es key path minimum maximum code)
      (boundedU64 fs key path minimum maximum code) := by
  refine (required_carries h key path).bind fun _ _ hv => ?_
  exact (orRefuse_eq_carries hv.asI64 _ _).bind_eq fun _ => Carries.refl _

theorem map_carries {α β : Type} {x y : Parsed α} (h : Carries Eq x y) (f : α → β) :
    Carries Eq (f <$> x) (f <$> y) := by
  intro b hb
  obtain ⟨a, ha, rfl⟩ := map_eq_ok.1 hb
  obtain ⟨a', ha', rfl⟩ := h a ha
  exact ⟨f a, map_eq_ok.2 ⟨a, ha', rfl⟩, rfl⟩

theorem optionalBoundedU64_carries (h : AlikeEntries es fs) (key path : String)
    (minimum maximum : Nat) (code : ProtocolErrorCode) :
    Carries Eq (optionalBoundedU64 es key path minimum maximum code)
      (optionalBoundedU64 fs key path minimum maximum code) := by
  rw [optionalBoundedU64, optionalBoundedU64, has_eq h]
  split
  · exact map_carries (boundedU64_carries h key path minimum maximum code) some
  · exact Carries.refl _

theorem requireConst_carries (h : AlikeEntries es fs) (key expected path : String) :
    Carries Eq (requireConst es key expected path) (requireConst fs key expected path) :=
  (requiredString_carries h key path).bind_eq fun _ => Carries.refl _

theorem requireConstVersion_carries (h : AlikeEntries es fs) (key expected parent : String) :
    Carries Eq (requireConstVersion es key expected parent)
      (requireConstVersion fs key expected parent) :=
  (requiredString_carries h key parent).bind_eq fun _ => Carries.refl _

theorem requiredEnum_carries {α : Type} (table : List (String × α)) (h : AlikeEntries es fs)
    (key path : String) :
    Carries Eq (requiredEnum table es key path) (requiredEnum table fs key path) :=
  (requiredString_carries h key path).bind_eq fun _ => Carries.refl _

theorem itemString_carries (h : Alike v w) (path : String) :
    Carries Eq (itemString v path) (itemString w path) :=
  orRefuse_eq_carries h.asStr _ _

theorem refuseLength_carries {vs ws : List JsonValue} (h : List.Forall₂ Alike vs ws)
    (path : String) (minimum maximum : Nat) :
    Carries Eq (refuseLength vs path minimum maximum) (refuseLength ws path minimum maximum) := by
  rw [refuseLength, refuseLength, h.length_eq]
  exact Carries.refl _

theorem refuseEmpty_carries {vs ws : List JsonValue} (h : List.Forall₂ Alike vs ws)
    (e : ManifestError) : Carries Eq (refuseIf vs.isEmpty e) (refuseIf ws.isEmpty e) := by
  cases h <;> exact Carries.refl _

theorem parseEach_carries {α : Type} {parse : JsonValue → String → Parsed α}
    (hparse : ∀ {v w}, Alike v w → ∀ path, Carries Eq (parse v path) (parse w path)) (path : String)
    {vs ws : List JsonValue} (h : List.Forall₂ Alike vs ws) (index : Nat) :
    Carries Eq (parseEach parse path index vs) (parseEach parse path index ws) := by
  induction h generalizing index with
  | nil => exact Carries.refl _
  | cons hvw _ ih =>
    refine (hparse hvw _).bind_eq fun _ => ?_
    exact (ih (index + 1)).bind_eq fun _ => Carries.refl _

theorem parseDistinct_carries (allowed : String → Bool) (outside : String → ManifestError)
    (path : String) {vs ws : List JsonValue} (h : List.Forall₂ Alike vs ws) (index : Nat)
    (seen : List String) :
    Carries Eq (parseDistinct allowed outside path index seen vs)
      (parseDistinct allowed outside path index seen ws) := by
  induction h generalizing index seen with
  | nil => exact Carries.refl _
  | cons hvw _ ih =>
    refine (itemString_carries hvw _).bind_eq fun text => ?_
    refine (Carries.refl _).bind_eq fun _ => ?_
    refine (Carries.refl _).bind_eq fun _ => ?_
    exact (ih (index + 1) (text :: seen)).bind_eq fun _ => Carries.refl _

theorem lookup_eq_none_iff (h : AlikeEntries es fs) (key : String) :
    es.lookup key = none ↔ fs.lookup key = none := by
  have hnone : ∀ gs : ObjectEntries, gs.lookup key = none ↔ key ∉ gs.map Prod.fst := by
    intro gs
    rw [List.lookup_eq_none_iff]
    constructor
    · intro hne hmem
      obtain ⟨p, hp, rfl⟩ := List.mem_map.1 hmem
      simpa using hne p hp
    · intro hmem p hp
      have hne : key ≠ p.1 := fun he => hmem (he ▸ List.mem_map_of_mem hp)
      simpa using hne
  rw [hnone, hnone, h.keys]

theorem optionalDistinct_carries (allowed : String → Bool) (outside : String → ManifestError)
    (h : AlikeEntries es fs) (key path : String) :
    Carries Eq (optionalDistinct allowed outside es key path)
      (optionalDistinct allowed outside fs key path) := by
  rw [optionalDistinct, optionalDistinct, optionalArray, optionalArray, Model.lookup, Model.lookup]
  cases hes : List.lookup key es with
  | none =>
    rw [(lookup_eq_none_iff h key).1 hes]
    exact Carries.refl _
  | some v =>
    obtain ⟨w, hfs, hvw⟩ := h.lookup key v hes
    rw [hfs]
    intro texts htexts
    obtain ⟨values, hvalues, htexts⟩ := bind_eq_ok.1 htexts
    obtain ⟨vs, hvs, rfl⟩ := map_eq_ok.1 hvalues
    obtain ⟨ws, hws, hforall⟩ := orRefuse_carries (fun _ => hvw.asArray) _ (.invalid _ _) vs hvs
    obtain ⟨texts', htexts', rfl⟩ := parseDistinct_carries allowed outside _ hforall 0 [] _ htexts
    exact ⟨texts, bind_eq_ok.2 ⟨some ws, map_eq_ok.2 ⟨ws, hws, rfl⟩, htexts'⟩, rfl⟩

/-! ## Sections -/

theorem requiredSha256_carries (h : AlikeEntries es fs) (key path : String) :
    Carries Eq (requiredSha256 es key path) (requiredSha256 fs key path) :=
  (requiredString_carries h key path).bind_eq fun _ => Carries.refl _

theorem parsePublisher_carries (h : Alike v w) : Carries Eq (parsePublisher v) (parsePublisher w) := by
  refine (exactObject_carries h _ _ _).bind fun es fs hobject => ?_
  refine (requiredString_carries hobject _ _).bind_eq fun _ => ?_
  refine (Carries.refl _).bind_eq fun _ => ?_
  exact (boundedString_carries hobject _ _ _ _).bind_eq fun _ => Carries.refl _

theorem parseApp_carries (h : Alike v w) : Carries Eq (parseApp v) (parseApp w) := by
  refine (exactObject_carries h _ _ _).bind fun es fs hobject => ?_
  refine (requiredString_carries hobject _ _).bind_eq fun _ => ?_
  refine (Carries.refl _).bind_eq fun _ => ?_
  refine (requiredString_carries hobject _ _).bind_eq fun _ => ?_
  refine (Carries.refl _).bind_eq fun _ => ?_
  refine (requiredEnum_carries _ hobject _ _).bind_eq fun _ => ?_
  refine (boundedString_carries hobject _ _ _ _).bind_eq fun _ => ?_
  refine (boundedString_carries hobject _ _ _ _).bind_eq fun _ => ?_
  refine (required_carries hobject _ _).bind fun _ _ hpublisher => ?_
  exact (parsePublisher_carries hpublisher).bind_eq fun _ => Carries.refl _

theorem parseArtifact_carries (h : Alike v w) (path : String) :
    Carries Eq (parseArtifact v path) (parseArtifact w path) := by
  refine (exactObject_carries h _ _ _).bind fun es fs hobject => ?_
  refine (requiredString_carries hobject _ _).bind_eq fun _ => ?_
  refine (Carries.refl _).bind_eq fun _ => ?_
  refine (boundedString_carries hobject _ _ _ _).bind_eq fun _ => ?_
  refine (requiredSha256_carries hobject _ _).bind_eq fun _ => ?_
  exact (boundedU64_carries hobject _ _ _ _ _).bind_eq fun _ => Carries.refl _

theorem parseArtifactArray_carries (h : Alike v w) (path : String) (minimum maximum : Nat) :
    Carries Eq (parseArtifactArray v path minimum maximum)
      (parseArtifactArray w path minimum maximum) := by
  refine (orRefuse_carries (fun _ => h.asArray) _ _).bind fun vs ws hvalues => ?_
  refine (refuseLength_carries hvalues _ _ _).bind_eq fun _ => ?_
  exact parseEach_carries parseArtifact_carries _ hvalues 0

theorem parseDerivedArtifact_carries (h : Alike v w) (path : String) :
    Carries Eq (parseDerivedArtifact v path) (parseDerivedArtifact w path) := by
  refine (exactObject_carries h _ _ _).bind fun es fs hobject => ?_
  refine (requiredEnum_carries _ hobject _ _).bind_eq fun _ => ?_
  refine (requireConst_carries hobject _ _ _).bind_eq fun _ => ?_
  refine (requiredSha256_carries hobject _ _).bind_eq fun _ => ?_
  refine (required_carries hobject _ _).bind fun _ _ hfiles => ?_
  refine (parseArtifactArray_carries hfiles _ _ _).bind_eq fun _ => ?_
  refine (required_carries hobject _ _).bind fun _ _ hentry => ?_
  refine (parseArtifact_carries hentry _).bind_eq fun _ => ?_
  refine (Carries.refl _).bind_eq fun _ => ?_
  refine (required_carries hobject _ _).bind fun _ _ hattestation => ?_
  exact (parseArtifact_carries hattestation _).bind_eq fun _ => Carries.refl _

theorem parseArtifacts_carries (h : Alike v w) :
    Carries Eq (parseArtifacts v) (parseArtifacts w) := by
  refine (exactObject_carries h _ _ _).bind fun es fs hobject => ?_
  refine (required_carries hobject _ _).bind fun _ _ hcanonical => ?_
  refine (parseArtifact_carries hcanonical _).bind_eq fun _ => ?_
  refine (Carries.refl _).bind_eq fun _ => ?_
  refine (required_carries hobject _ _).bind fun _ _ hassets => ?_
  refine (parseArtifactArray_carries hassets _ _ _).bind_eq fun _ => ?_
  refine (requiredArray_carries hobject _ _).bind fun _ _ hderivations => ?_
  refine (refuseLength_carries hderivations _ _ _).bind_eq fun _ => ?_
  refine (parseEach_carries parseDerivedArtifact_carries _ hderivations 0).bind_eq fun _ => ?_
  refine (Carries.refl _).bind_eq fun _ => ?_
  refine (required_carries hobject _ _).bind fun _ _ hprovenance => ?_
  refine (parseArtifact_carries hprovenance _).bind_eq fun _ => ?_
  refine (required_carries hobject _ _).bind fun _ _ hsbom => ?_
  exact (parseArtifact_carries hsbom _).bind_eq fun _ => Carries.refl _

theorem parseProfileArray_carries (h : Alike v w) (path : String) :
    Carries Eq (parseProfileArray v path) (parseProfileArray w path) := by
  refine (orRefuse_carries (fun _ => h.asArray) _ _).bind fun vs ws hvalues => ?_
  refine (refuseEmpty_carries hvalues _).bind_eq fun _ => ?_
  refine (parseEach_carries (fun hitem path => ?_) _ hvalues 0).bind_eq fun _ => Carries.refl _
  exact (itemString_carries hitem path).bind_eq fun _ => Carries.refl _

theorem parseProfileSupport_carries (h : Alike v w) (path : String) :
    Carries Eq (parseProfileSupport v path) (parseProfileSupport w path) := by
  refine (exactObject_carries h _ _ _).bind fun es fs hobject => ?_
  refine (requiredEnum_carries _ hobject _ _).bind_eq fun _ => ?_
  refine (requiredEnum_carries _ hobject _ _).bind_eq fun _ => ?_
  refine (requiredEnum_carries _ hobject _ _).bind_eq fun _ => ?_
  refine (requiredEnum_carries _ hobject _ _).bind_eq fun _ => ?_
  exact (boundedString_carries hobject _ _ _ _).bind_eq fun _ => Carries.refl _

theorem parsePlatform_carries (h : Alike v w) (path : String) :
    Carries Eq (parsePlatform v path) (parsePlatform w path) := by
  refine (exactObject_carries h _ _ _).bind fun es fs hobject => ?_
  refine (requiredEnum_carries _ hobject _ _).bind_eq fun _ => ?_
  refine (requiredEnum_carries _ hobject _ _).bind_eq fun _ => ?_
  refine (Carries.refl _).bind_eq fun _ => ?_
  refine (required_carries hobject _ _).bind fun _ _ hprofiles => ?_
  exact (parseProfileArray_carries hprofiles _).bind_eq fun _ => Carries.refl _

theorem parseImport_carries (h : Alike v w) (path : String) :
    Carries Eq (parseImport v path) (parseImport w path) :=
  (itemString_carries h path).bind_eq fun _ => Carries.refl _

theorem parseRuntime_carries (h : Alike v w) : Carries Eq (parseRuntime v) (parseRuntime w) := by
  refine (exactObject_carries h _ _ _).bind fun es fs hobject => ?_
  refine (requiredString_carries hobject _ _).bind_eq fun _ => ?_
  refine (Carries.refl _).bind_eq fun _ => ?_
  refine (requireConstVersion_carries hobject _ _ _).bind_eq fun _ => ?_
  refine (requiredEnum_carries _ hobject _ _).bind_eq fun _ => ?_
  refine (requiredArray_carries hobject _ _).bind fun _ _ himports => ?_
  refine (parseEach_carries parseImport_carries _ himports 0).bind_eq fun _ => ?_
  refine (Carries.refl _).bind_eq fun _ => ?_
  refine (requiredArray_carries hobject _ _).bind fun _ _ hprofiles => ?_
  refine (refuseLength_carries hprofiles _ _ _).bind_eq fun _ => ?_
  refine (parseEach_carries parseProfileSupport_carries _ hprofiles 0).bind_eq fun _ => ?_
  refine (Carries.refl _).bind_eq fun _ => ?_
  refine (requiredArray_carries hobject _ _).bind fun _ _ hplatforms => ?_
  refine (refuseLength_carries hplatforms _ _ _).bind_eq fun _ => ?_
  refine (parseEach_carries parsePlatform_carries _ hplatforms 0).bind_eq fun _ => ?_
  exact Carries.refl _

theorem parseEntrypointDetails_carries (kind : EntrypointKind) (h : AlikeEntries es fs)
    (path : String) :
    Carries Eq (parseEntrypointDetails kind es path) (parseEntrypointDetails kind fs path) := by
  cases kind with
  | launcherUi =>
    refine (required_carries h _ _).bind fun _ _ hroutes => ?_
    refine (exactObject_carries hroutes _ _ _).bind fun _ _ hobject => ?_
    refine (requiredString_carries hobject _ _).bind_eq fun _ => ?_
    refine (Carries.refl _).bind_eq fun _ => ?_
    refine (requiredArray_carries hobject _ _).bind fun _ _ hallowed => ?_
    refine (refuseEmpty_carries hallowed _).bind_eq fun _ => ?_
    refine (parseEach_carries (fun hitem path => ?_) _ hallowed 0).bind_eq fun _ => ?_
    · exact (itemString_carries hitem path).bind_eq fun _ => Carries.refl _
    refine (Carries.refl _).bind_eq fun _ => ?_
    refine (Carries.refl _).bind_eq fun _ => ?_
    exact (requiredEnum_carries _ h _ _).bind_eq fun _ => Carries.refl _
  | service =>
    refine (requiredArray_carries h _ _).bind fun _ _ htriggers => ?_
    refine (refuseEmpty_carries htriggers _).bind_eq fun _ => ?_
    refine (parseEach_carries (fun hitem path => ?_) _ htriggers 0).bind_eq fun _ => ?_
    · exact (itemString_carries hitem path).bind_eq fun _ => Carries.refl _
    refine (Carries.refl _).bind_eq fun _ => ?_
    exact (boundedU64_carries h _ _ _ _ _).bind_eq fun _ => Carries.refl _
  | settings => exact (requireConst_carries h _ _ _).bind_eq fun _ => Carries.refl _

theorem parseEntrypoint_carries (h : Alike v w) (path : String) :
    Carries Eq (parseEntrypoint v path) (parseEntrypoint w path) := by
  refine (orRefuse_carries (fun _ => h.asObject) _ _).bind fun es fs hraw => ?_
  refine (requiredEnum_carries _ hraw _ _).bind_eq fun kind => ?_
  refine (exactObject_carries h _ _ _).bind fun es fs hobject => ?_
  refine (requiredString_carries hobject _ _).bind_eq fun _ => ?_
  refine (Carries.refl _).bind_eq fun _ => ?_
  refine (boundedString_carries hobject _ _ _ _).bind_eq fun _ => ?_
  refine (required_carries hobject _ _).bind fun _ _ hprofiles => ?_
  refine (parseProfileArray_carries hprofiles _).bind_eq fun _ => ?_
  exact (parseEntrypointDetails_carries kind hobject path).bind_eq fun _ => Carries.refl _

theorem parseEntrypoints_carries (h : Alike v w) :
    Carries Eq (parseEntrypoints v) (parseEntrypoints w) := by
  refine (orRefuse_carries (fun _ => h.asArray) _ _).bind fun vs ws hvalues => ?_
  refine (refuseLength_carries hvalues _ _ _).bind_eq fun _ => ?_
  exact (parseEach_carries parseEntrypoint_carries _ hvalues 0).bind_eq fun _ => Carries.refl _

theorem parseCapabilityScope_carries (h : Alike v w) (path : String) :
    Carries Eq (parseCapabilityScope v path) (parseCapabilityScope w path) := by
  refine (exactObject_carries h _ _ _).bind fun es fs hobject => ?_
  refine (optionalBoundedU64_carries hobject _ _ _ _ _).bind_eq fun _ => ?_
  refine (optionalBoundedU64_carries hobject _ _ _ _ _).bind_eq fun _ => ?_
  refine (optionalBoundedU64_carries hobject _ _ _ _ _).bind_eq fun _ => ?_
  refine (optionalDistinct_carries _ _ hobject _ _).bind_eq fun _ => ?_
  refine (optionalDistinct_carries _ _ hobject _ _).bind_eq fun _ => ?_
  exact (optionalDistinct_carries _ _ hobject _ _).bind_eq fun _ => Carries.refl _

theorem parseCapabilityProfile_carries (h : Alike v w) (path : String) :
    Carries Eq (parseCapabilityProfile v path) (parseCapabilityProfile w path) := by
  refine (exactObject_carries h _ _ _).bind fun es fs hobject => ?_
  refine (requiredEnum_carries _ hobject _ _).bind_eq fun _ => ?_
  refine (requiredEnum_carries _ hobject _ _).bind_eq fun _ => ?_
  exact (boundedString_carries hobject _ _ _ _).bind_eq fun _ => Carries.refl _

theorem parseCapability_carries (h : Alike v w) (path : String) :
    Carries Eq (parseCapability v path) (parseCapability w path) := by
  refine (exactObject_carries h _ _ _).bind fun es fs hobject => ?_
  refine (requiredString_carries hobject _ _).bind_eq fun _ => ?_
  refine (Carries.refl _).bind_eq fun _ => ?_
  refine (requiredEnum_carries _ hobject _ _).bind_eq fun _ => ?_
  refine (requiredEnum_carries _ hobject _ _).bind_eq fun _ => ?_
  refine (boundedString_carries hobject _ _ _ _).bind_eq fun _ => ?_
  refine (required_carries hobject _ _).bind fun _ _ hscope => ?_
  refine (parseCapabilityScope_carries hscope _).bind_eq fun _ => ?_
  refine (requiredArray_carries hobject _ _).bind fun _ _ hprofiles => ?_
  refine (refuseLength_carries hprofiles _ _ _).bind_eq fun _ => ?_
  exact (parseEach_carries parseCapabilityProfile_carries _ hprofiles 0).bind_eq fun _ =>
    Carries.refl _

theorem parseCapabilities_carries (h : Alike v w) :
    Carries Eq (parseCapabilities v) (parseCapabilities w) := by
  refine (orRefuse_carries (fun _ => h.asArray) _ _).bind fun vs ws hvalues => ?_
  refine (refuseLength_carries hvalues _ _ _).bind_eq fun _ => ?_
  exact (parseEach_carries parseCapability_carries _ hvalues 0).bind_eq fun _ => Carries.refl _

theorem parseResources_carries (h : Alike v w) :
    Carries Eq (parseResources v) (parseResources w) := by
  refine (exactObject_carries h _ _ _).bind fun es fs hobject => ?_
  refine (boundedU64_carries hobject _ _ _ _ _).bind_eq fun _ => ?_
  refine (boundedU64_carries hobject _ _ _ _ _).bind_eq fun _ => ?_
  refine (boundedU64_carries hobject _ _ _ _ _).bind_eq fun _ => ?_
  refine (boundedU64_carries hobject _ _ _ _ _).bind_eq fun _ => ?_
  refine (boundedU64_carries hobject _ _ _ _ _).bind_eq fun _ => ?_
  refine (boundedU64_carries hobject _ _ _ _ _).bind_eq fun _ => ?_
  exact (boundedU64_carries hobject _ _ _ _ _).bind_eq fun _ => Carries.refl _

theorem parseState_carries (h : Alike v w) : Carries Eq (parseState v) (parseState w) := by
  refine (exactObject_carries h _ _ _).bind fun es fs hobject => ?_
  refine (boundedU64_carries hobject _ _ _ _ _).bind_eq fun _ => ?_
  refine (boundedU64_carries hobject _ _ _ _ _).bind_eq fun _ => ?_
  exact (boundedU64_carries hobject _ _ _ _ _).bind_eq fun _ => Carries.refl _

theorem requireTrue_carries (h : AlikeEntries es fs) (path key : String) :
    Carries Eq (requireTrue es path key) (requireTrue fs path key) := by
  refine (required_carries h key path).bind fun _ _ hvalue => ?_
  rw [hvalue.asBool]
  exact Carries.refl _

theorem forM_carries {f g : String → Parsed Unit} (h : ∀ key, Carries Eq (f key) (g key)) :
    ∀ keys : List String, Carries Eq (keys.forM f) (keys.forM g)
  | [] => Carries.refl _
  | key :: keys => (h key).bind_eq fun _ => forM_carries h keys

theorem parseDisposition_carries (h : Alike v w) (path : String) :
    Carries Eq (parseDisposition v path) (parseDisposition w path) :=
  (itemString_carries h path).bind_eq fun _ => Carries.refl _

theorem parseLifecycle_carries (h : Alike v w) :
    Carries Eq (parseLifecycle v) (parseLifecycle w) := by
  refine (exactObject_carries h _ _ _).bind fun es fs hobject => ?_
  refine (required_carries hobject _ _).bind fun _ _ hdisableValue => ?_
  refine (exactObject_carries hdisableValue _ _ _).bind fun _ _ hdisable => ?_
  refine (forM_carries (requireTrue_carries hdisable _) _).bind_eq fun _ => ?_
  refine (required_carries hobject _ _).bind fun _ _ huninstallValue => ?_
  refine (exactObject_carries huninstallValue _ _ _).bind fun _ _ huninstall => ?_
  refine (requiredArray_carries huninstall _ _).bind fun _ _ hvalues => ?_
  refine (refuseEmpty_carries hvalues _).bind_eq fun _ => ?_
  refine (parseEach_carries parseDisposition_carries _ hvalues 0).bind_eq fun _ => ?_
  refine (Carries.refl _).bind_eq fun _ => ?_
  exact (requiredEnum_carries _ huninstall _ _).bind_eq fun _ => Carries.refl _

theorem parseSource_carries (h : Alike v w) : Carries Eq (parseSource v) (parseSource w) := by
  refine (exactObject_carries h _ _ _).bind fun es fs hobject => ?_
  refine (requireConst_carries hobject _ _ _).bind_eq fun _ => ?_
  refine (boundedString_carries hobject _ _ _ _).bind_eq fun _ => ?_
  refine (requiredSha256_carries hobject _ _).bind_eq fun _ => ?_
  exact (requiredString_carries hobject _ _).bind_eq fun _ => Carries.refl _

theorem parseLicense_carries (h : Alike v w) : Carries Eq (parseLicense v) (parseLicense w) := by
  refine (exactObject_carries h _ _ _).bind fun es fs hobject => ?_
  exact (boundedString_carries hobject _ _ _ _).bind_eq fun _ => Carries.refl _

theorem parsePrivacy_carries (h : Alike v w) : Carries Eq (parsePrivacy v) (parsePrivacy w) := by
  refine (exactObject_carries h _ _ _).bind fun es fs hobject => ?_
  refine (required_carries hobject _ _).bind fun _ _ hstores => ?_
  refine (orRefuse_eq_carries hstores.asBool _ _).bind_eq fun _ => ?_
  exact (requiredEnum_carries _ hobject _ _).bind_eq fun _ => Carries.refl _

theorem parseVerification_carries (h : Alike v w) :
    Carries Eq (parseVerification v) (parseVerification w) := by
  refine (exactObject_carries h _ _ _).bind fun es fs hobject => ?_
  refine (requiredEnum_carries _ hobject _ _).bind_eq fun _ => ?_
  exact (requiredEnum_carries _ hobject _ _).bind_eq fun _ => Carries.refl _

/-! ## The manifest -/

/-- `==` of manifests. -/
def Manifest.eq (m n : Manifest) : Bool := m.toContents = n.toContents && m.raw.eq n.raw

theorem fromSection_carries {α : Type} {parse : JsonValue → Parsed α}
    (hparse : ∀ {v w}, Alike v w → Carries Eq (parse v) (parse w)) (h : AlikeEntries es fs)
    (key : String) : Carries Eq (fromSection es key parse) (fromSection fs key parse) :=
  (required_carries h key _).bind fun _ _ hv => hparse hv

theorem buildManifest_carries (h : Alike v w) :
    Carries (fun m n => m.toContents = n.toContents ∧ m.raw = v ∧ n.raw = w) (buildManifest v)
      (buildManifest w) := by
  refine (exactObject_carries h _ _ _).bind fun es fs hroot => ?_
  refine (requireConstVersion_carries hroot _ _ _).bind_eq fun _ => ?_
  refine (requireConstVersion_carries hroot _ _ _).bind_eq fun _ => ?_
  refine (fromSection_carries parseApp_carries hroot _).bind_eq fun _ => ?_
  refine (fromSection_carries parseArtifacts_carries hroot _).bind_eq fun _ => ?_
  refine (fromSection_carries parseRuntime_carries hroot _).bind_eq fun _ => ?_
  refine (fromSection_carries parseEntrypoints_carries hroot _).bind_eq fun _ => ?_
  refine (fromSection_carries parseCapabilities_carries hroot _).bind_eq fun _ => ?_
  refine (fromSection_carries parseResources_carries hroot _).bind_eq fun _ => ?_
  refine (fromSection_carries parseState_carries hroot _).bind_eq fun _ => ?_
  refine (fromSection_carries parseLifecycle_carries hroot _).bind_eq fun _ => ?_
  refine (fromSection_carries parseSource_carries hroot _).bind_eq fun _ => ?_
  refine (fromSection_carries parseLicense_carries hroot _).bind_eq fun _ => ?_
  refine (fromSection_carries parsePrivacy_carries hroot _).bind_eq fun _ => ?_
  refine (fromSection_carries parseVerification_carries hroot _).bind_eq fun _ => ?_
  exact (Carries.refl _).bind_eq fun _ => Carries.pure ⟨rfl, rfl, rfl⟩

/-- The parser keeps the document. -/
theorem raw_of_buildManifest {m : Manifest} (hv : v.DistinctKeys) (h : buildManifest v = .ok m) :
    m.raw = v := by
  obtain ⟨n, -, -, hraw, -⟩ :=
    buildManifest_carries ⟨hv, hv, (eq_iff_canonical.1 v v hv hv).2 rfl⟩ m h
  exact hraw

theorem parseManifest_eq_ok_iff {text : String} {m : Manifest} :
    parseManifest text = .ok m ↔ ∃ v, ReadsAs text v ∧ buildManifest v = .ok m := by
  rw [parseManifest]
  constructor
  · intro h
    split at h
    · cases h
    · rename_i v hparse
      exact ⟨v, parseJson_eq_ok_iff.1 hparse, h⟩
  · rintro ⟨v, hreads, h⟩
    rw [parseJson_eq_ok_iff.2 hreads]
    exact h

/-- The texts differ in the order of members, in whitespace and in escapes alone. -/
def SameButForm (text text' : String) : Prop :=
  ∃ v w, ReadsAs text v ∧ ReadsAs text' w ∧ v.eq w = true

/-- A document of another form is accepted as an equal manifest. -/
theorem parseManifest_of_sameButForm {text text' : String} {m : Manifest}
    (h : parseManifest text = .ok m) (hform : SameButForm text text') :
    ∃ n, parseManifest text' = .ok n ∧ n.eq m = true ∧ n.canonicalJson = m.canonicalJson := by
  obtain ⟨v, hv, hbuild⟩ := parseManifest_eq_ok_iff.1 h
  obtain ⟨v', w, hv', hw, heq⟩ := hform
  obtain rfl : v = v' := by
    have hsame := (parseJson_eq_ok_iff.2 hv).symm.trans (parseJson_eq_ok_iff.2 hv')
    cases hsame
    rfl
  have halike : Alike v w := ⟨hv.distinctKeys, hw.distinctKeys, heq⟩
  obtain ⟨n, hn, hcontents, hm, hraw⟩ := buildManifest_carries halike m hbuild
  refine ⟨n, parseManifest_eq_ok_iff.2 ⟨w, hw, hn⟩, ?_, ?_⟩
  · rw [Manifest.eq, hcontents, hm, hraw, Bool.and_eq_true]
    exact ⟨decide_eq_true rfl, halike.symm.eq⟩
  · rw [Manifest.canonicalJson, Manifest.canonicalJson, hm, hraw]
    exact halike.symm.canonical

/-- An accepted value has an accepted text. -/
theorem exists_text {m : Manifest} (hv : v.DistinctKeys) (h : buildManifest v = .ok m) :
    ∃ n, parseManifest (toCanonicalJson v) = .ok n ∧ n.toContents = m.toContents := by
  obtain ⟨w, hw, heq, -⟩ := parseJson_toCanonicalJson v hv
  have hreads := parseJson_eq_ok_iff.1 hw
  have halike : Alike w v := ⟨hreads.distinctKeys, hv, heq⟩
  obtain ⟨n, hn, hcontents, -⟩ := buildManifest_carries halike.symm m h
  exact ⟨n, parseManifest_eq_ok_iff.2 ⟨w, hreads, hn⟩, hcontents.symm⟩

/-- **Round trip.** The canonical text of an accepted manifest parses to an equal manifest, and so
does every document that differs from an accepted one in form alone; all have one canonical text. -/
theorem manifest_roundTrip :
    (∀ text m, parseManifest text = .ok m → ∃ n, parseManifest m.canonicalJson = .ok n ∧
      n.eq m = true ∧ n.canonicalJson = m.canonicalJson) ∧
    ∀ text text' m, parseManifest text = .ok m → SameButForm text text' →
      ∃ n, parseManifest text' = .ok n ∧ n.eq m = true ∧ n.canonicalJson = m.canonicalJson := by
  refine ⟨?_, fun text text' m => parseManifest_of_sameButForm⟩
  intro text m h
  apply parseManifest_of_sameButForm h
  obtain ⟨v, hv, hbuild⟩ := parseManifest_eq_ok_iff.1 h
  obtain ⟨w, hw, heq, -⟩ := parseJson_toCanonicalJson v hv.distinctKeys
  have hreads := parseJson_eq_ok_iff.1 hw
  have halike : Alike w v := ⟨hreads.distinctKeys, hv.distinctKeys, heq⟩
  refine ⟨v, w, hv, ?_, halike.symm.eq⟩
  rw [Manifest.canonicalJson, raw_of_buildManifest hv.distinctKeys hbuild]
  exact hreads

end Model

end Vibapp.Protocol
