import Vibapp.Daemon.Verify
import Vibapp.Protocol.Fields

/-!
# Values of the local AppStore

`StoreError` and the checks that a candidate, its manifest and a stored record go through: texts,
digests, artifact paths, timestamps, descriptors and the host presentation.
-/

namespace Vibapp.AppStore

open Daemon (field hasExactly asStr asInt asBool containsChars)

/-! ## Errors -/

/-- `StoreError`. -/
structure StoreError where
  code : String
  message : String
deriving DecidableEq, Repr

/-- What a call raises: a `StoreError`, an error of the file system or of SQLite, or another Python
exception. -/
inductive Raised
  | store (e : StoreError)
  | os
  | other (pythonException : String)
deriving DecidableEq, Repr

/-- A computation that may raise. -/
abbrev Py (α : Type) := Except Raised α

/-- `raise StoreError(code, message)`. -/
def fail {α : Type} (code message : String) : Py α := .error (.store ⟨code, message⟩)

/-- `if condition: raise StoreError(code, message)`. -/
def raiseIf (condition : Prop) [Decidable condition] (code message : String) : Py Unit :=
  if condition then fail code message else .ok ()

theorem raiseIf_eq_ok {c : Prop} [Decidable c] {code message : String} {u : Unit} :
    raiseIf c code message = .ok u ↔ ¬ c := by
  unfold raiseIf fail
  by_cases hc : c <;> simp [hc]

/-- What the store takes from Python's library: SHA-256 in hexadecimal, the folding of texts, and
`json.loads`, which gives an object as the list of its pairs. -/
structure Library where
  sha256 : List UInt8 → String
  nfkcCasefold : String → String
  loads : List UInt8 → Option Json

/-! ## JSON -/

/-- The first key that an earlier one of `keys` repeats. -/
def repeatedKey : List String → List String → Option String
  | _, [] => none
  | seen, key :: keys => if key ∈ seen then some key else repeatedKey (key :: seen) keys

mutual

/-- The key that `_reject_duplicate_pairs` raises for. It sees inner objects first. -/
def duplicateKey : Json → Option String
  | .arr items => duplicateInItems items
  | .obj members => (duplicateInMembers members).or (repeatedKey [] (members.map Prod.fst))
  | _ => none

def duplicateInItems : List Json → Option String
  | [] => none
  | item :: rest => (duplicateKey item).or (duplicateInItems rest)

def duplicateInMembers : List (String × Json) → Option String
  | [] => none
  | (_, value) :: rest => (duplicateKey value).or (duplicateInMembers rest)

end

/-- `strict_json`. -/
def strictJson (library : Library) (data : List UInt8) (label : String) : Py Json :=
  match library.loads data with
  | some value =>
    match duplicateKey value with
    | some key => fail "malformed-output" ("duplicate JSON key: " ++ key)
    | none => .ok value
  | none => fail "malformed-output" ("invalid " ++ label ++ " JSON")

/-- `canonical_json`. -/
def canonicalJson (value : Json) : List UInt8 := (Json.dumps value).toUTF8.data.toList

/-- `_exact_object`. -/
def exactObject (value : Json) (keys : List String) (label : String) :
    Py (List (String × Json)) :=
  match value with
  | .obj members =>
    if hasExactly members keys then .ok members
    else fail "integrity-failure" (label ++ " fields do not match the frozen contract")
  | _ => fail "integrity-failure" (label ++ " fields do not match the frozen contract")

/-! ## Texts -/

def isHexDigit (c : Char) : Bool := "0123456789abcdef".toList.contains c

/-- `SHA256_RE`. -/
def isSha256 (value : String) : Bool := value.length = 64 && value.toList.all isHexDigit

/-- `_digest`. -/
def digest (value : Json) (label : String) : Py String :=
  match value with
  | .str s =>
    if isSha256 s then .ok s
    else fail "integrity-failure" (label ++ " is not a lowercase SHA-256")
  | _ => fail "integrity-failure" (label ++ " is not a lowercase SHA-256")

/-- `_text`, whose callers all leave `allow_empty` at its default. -/
def text (value : Json) (label : String) (maximum : Nat) : Py String :=
  match value with
  | .str s =>
    if s = "" ∨ maximum < s.utf8ByteSize ∨ s.toList.contains '\x00' then
      fail "resource-limit" (label ++ " is empty, contains NUL, or exceeds its bound")
    else .ok s
  | _ => fail "malformed-output" (label ++ " is not a string")

/-- `_utc`. A text that `strftime` gives back is one of the layout, with a year of four digits. -/
def utc (value : Json) (label : String) : Py String := do
  let s ← text value label 20
  match Daemon.parseUtc (.str s) with
  | .ok _ =>
    if s.toList.head? = some '0' then
      fail "malformed-output" (label ++ " is not canonical whole-second UTC")
    else return s
  | .error _ => fail "malformed-output" (label ++ " is not canonical whole-second UTC")

/-- `_artifact_path`. -/
def artifactPath (value : Json) (label : String) : Py String := do
  let path ← text value label 240
  let cs := path.toList
  if ¬ cs.all (fun c => Protocol.Model.isAsciiAlphanumeric c || ['.', '_', '/', '-'].contains c) ∨
      cs.contains '\\' ∨ containsChars ['/', '/'] cs then
    fail "integrity-failure" (label ++ " is not a safe artifact path")
  -- `PurePosixPath.parts` drops every "." and has no empty part
  else if cs.head? = some '/' ∨ (cs.splitOn '/').contains ['.', '.'] then
    fail "integrity-failure" (label ++ " escapes the package")
  else return path

/-- `IDENTIFIER_RE`. -/
def isIdentifier (value : String) : Bool :=
  value.toList.head?.any Protocol.Model.isAsciiLowercase &&
    (value.toList.splitOnP fun c => c = '.' || c = '-').all Protocol.Model.isIdentifierSegment

/-- `SEMVER_RE`, whose pre-release and build parts have the same identifiers as the protocol's. -/
def isSemver (value : String) : Bool := Protocol.Model.isSemver value

/-! ## Presentation -/

/-- A host presentation, without its schema version. -/
structure Presentation where
  preferredWidth : Int
  preferredHeight : Int
  minimumWidth : Int
  minimumHeight : Int
  resizable : Bool
deriving DecidableEq

def presentationSchema : String := "vibapp.host-presentation.experimental-v1"

def Presentation.toJson (p : Presentation) : Json :=
  .obj [("schema_version", .str presentationSchema), ("preferred_width", .int p.preferredWidth),
    ("preferred_height", .int p.preferredHeight), ("minimum_width", .int p.minimumWidth),
    ("minimum_height", .int p.minimumHeight), ("resizable", .bool p.resizable)]

/-- `_derive_presentation`. -/
def derivePresentation (library : Library) (appKind displayName description : Json) :
    Py Presentation :=
  match appKind, displayName, description with
  | .str kind, .str displayName, .str description =>
    if kind ∉ ["ui", "service", "hybrid"] then
      fail "incompatible-contract" "presentation app kind is unsupported"
    else
      let normalized := (library.nfkcCasefold (displayName ++ "\n" ++ description)).toList
      let mentions (markers : List String) : Bool :=
        markers.any fun marker => containsChars marker.toList normalized
      if kind = "service" then .ok ⟨720, 480, 480, 320, false⟩
      else if mentions ["clock", "timer", "stopwatch", "counter", "calculator", "reminder", "时钟",
          "计时", "秒表", "倒计时", "计数器", "计算器", "提醒"] then
        .ok ⟨520, 300, 420, 240, true⟩
      else if mentions ["dashboard", "workspace", "editor", "studio", "inventory", "kanban", "看板",
          "工作台", "编辑器", "库存", "管理台"] then .ok ⟨1120, 760, 720, 480, true⟩
      else if kind = "hybrid" then .ok ⟨1040, 720, 640, 420, true⟩
      else .ok ⟨900, 640, 480, 360, true⟩
  | .str kind, _, _ =>
    if kind ∉ ["ui", "service", "hybrid"] then
      fail "incompatible-contract" "presentation app kind is unsupported"
    else fail "malformed-output" "presentation identity text is malformed"
  | _, _, _ => fail "incompatible-contract" "presentation app kind is unsupported"

/-- One bounded dimension of a presentation. -/
def presentationBound (members : List (String × Json)) (name : String) (minimum maximum : Int) :
    Py Int :=
  match asInt (field members name) with
  | some item =>
    if minimum ≤ item ∧ item ≤ maximum then .ok item
    else fail "resource-limit" ("presentation." ++ name ++ " is outside the host bound")
  | none => fail "resource-limit" ("presentation." ++ name ++ " is outside the host bound")

/-- `_presentation`. -/
def presentation (library : Library) (value appKind displayName description : Json) :
    Py Presentation :=
  match value with
  | .null => derivePresentation library appKind displayName description
  | value => do
    let members ← exactObject value ["schema_version", "preferred_width", "preferred_height",
      "minimum_width", "minimum_height", "resizable"] "presentation"
    raiseIf (asStr (field members "schema_version") ≠ some presentationSchema)
      "incompatible-contract" "presentation schema is unsupported"
    let preferredWidth ← presentationBound members "preferred_width" 320 1920
    let preferredHeight ← presentationBound members "preferred_height" 240 1200
    let minimumWidth ← presentationBound members "minimum_width" 320 1280
    let minimumHeight ← presentationBound members "minimum_height" 240 960
    raiseIf (preferredWidth < minimumWidth ∨ preferredHeight < minimumHeight)
      "incompatible-contract" "presentation preferred size is below its minimum"
    match asBool (field members "resizable") with
    | some resizable =>
      return ⟨preferredWidth, preferredHeight, minimumWidth, minimumHeight, resizable⟩
    | none => fail "malformed-output" "presentation.resizable is not boolean"

/-! ## Descriptors -/

def maxArtifactBytes : Nat := 64 * 1024 * 1024

/-- An artifact of the manifest. -/
structure Descriptor where
  path : String
  sha256 : String
  sizeBytes : Nat
  mediaType : String
deriving DecidableEq, Inhabited

/-- An integer that is no `bool`, between the two bounds. -/
def boundedSize (value : Json) (maximum : Nat) (code message : String) : Py Nat :=
  match asInt value with
  | some size => if 1 ≤ size ∧ size ≤ maximum then .ok size.toNat else fail code message
  | none => fail code message

/-- `_descriptor`. -/
def descriptor (value : Json) (label : String) : Py Descriptor :=
  match value with
  | .obj members =>
    if hasExactly members ["path", "media_type", "sha256", "size_bytes"] then do
      let path ← artifactPath (field members "path") (label ++ ".path")
      let sha ← digest (field members "sha256") (label ++ ".sha256")
      let size ← boundedSize (field members "size_bytes") maxArtifactBytes "resource-limit"
        (label ++ ".size_bytes is outside the artifact bound")
      let media ← text (field members "media_type") (label ++ ".media_type") 128
      return ⟨path, sha, size, media⟩
    else fail "integrity-failure" (label ++ " is not an exact artifact descriptor")
  | _ => fail "integrity-failure" (label ++ " is not an exact artifact descriptor")

/-- The descriptors of one browser derivation. -/
def derivationDescriptors (component : Descriptor) (derivation : Json) : Py (List Descriptor) :=
  match derivation with
  | .obj members =>
    match field members "files" with
    | .arr files => do
      raiseIf (files.length = 0 ∨ 32 < files.length)
        "incompatible-contract" "browser derivation files are malformed"
      let normalized ← files.mapM fun item => descriptor item "browser derivation file"
      let entry ← descriptor (field members "entry") "browser derivation entry"
      raiseIf (normalized.count entry ≠ 1)
        "integrity-failure" "browser derivation entry is not one exact files item"
      raiseIf (asStr (field members "derived_from_sha256") ≠ some component.sha256)
        "integrity-failure" "browser derivation is not bound to the canonical component"
      let attestation ←
        descriptor (field members "derivation_attestation") "derivation attestation"
      return normalized ++ [attestation]
    | _ => fail "incompatible-contract" "browser derivation files are malformed"
  | _ => fail "incompatible-contract" "browser derivation is malformed"

/-- `_manifest_descriptors`. The first one is the canonical component. -/
def manifestDescriptors (manifest : List (String × Json)) : Py (Descriptor × List Descriptor) :=
  match field manifest "artifacts" with
  | .obj artifacts => do
    let component ← descriptor (field artifacts "canonical_component") "canonical_component"
    match field artifacts "assets" with
    | .arr assets => do
      raiseIf (128 < assets.length) "incompatible-contract" "manifest assets are malformed"
      match field artifacts "browser_derivations" with
      | .arr derivations => do
        raiseIf (2 < derivations.length)
          "incompatible-contract" "manifest browser derivations are malformed"
        let assets ← assets.mapM fun item => descriptor item "asset"
        let derived ← derivations.mapM (derivationDescriptors component)
        let provenance ← descriptor (field artifacts "provenance") "provenance"
        let sbom ← descriptor (field artifacts "sbom") "sbom"
        let rest := assets ++ derived.flatten ++ [provenance, sbom]
        let paths := component.path :: rest.map (·.path)
        raiseIf (¬ paths.Nodup ∨ "manifest.json" ∈ paths ∨ "signature.json" ∈ paths)
          "integrity-failure" "manifest artifact paths collide"
        return (component, rest)
      | _ => fail "incompatible-contract" "manifest browser derivations are malformed"
    | _ => fail "incompatible-contract" "manifest assets are malformed"
  | _ => fail "incompatible-contract" "manifest artifacts are missing"

/-- `_package_digest`. -/
def packageDigest (library : Library) (manifest : Json) (descriptors : List Descriptor) : String :=
  let bytes := canonicalJson manifest
  let sorted := descriptors.insertionSort fun a b => a.path ≤ b.path
  library.sha256 (Daemon.packageMagic ++ Daemon.packBE 8 bytes.length ++ bytes ++
    sorted.flatMap fun d => Daemon.descriptorBytes ⟨d.path, d.sha256, d.sizeBytes⟩)

end Vibapp.AppStore
