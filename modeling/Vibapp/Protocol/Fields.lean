import Mathlib.Data.List.SplitOn
import Vibapp.Lib.Except
import Vibapp.Protocol.Model

/-!
# Fields of a manifest document

What the sections of the manifest parser share: reading a property of an object, the bounds of
texts and numbers, closed enumerations, loops over arrays, and the grammar of identifiers, digests,
artifact paths, origins and versions. A `ManifestError` says whether the refused document is valid
under the JSON schema, where the refusing branch takes a stand.
-/

namespace Vibapp.Protocol

/-! ## Kinds of values -/

abbrev ObjectEntries : Type := List (String × JsonValue)

namespace JsonValue

def asObject : JsonValue → Option ObjectEntries
  | .object entries => some entries
  | _ => none

def asArray : JsonValue → Option (List JsonValue)
  | .array values => some values
  | _ => none

def asStr : JsonValue → Option String
  | .string value => some value
  | _ => none

def asI64 : JsonValue → Option Int64
  | .integer value => some value
  | _ => none

def asBool : JsonValue → Option Bool
  | .bool value => some value
  | _ => none

end JsonValue

end Vibapp.Protocol

namespace Vibapp.Protocol.Model

/-! ## Errors -/

structure ManifestError where
  code : ProtocolErrorCode
  path : String
  detail : String
  schemaValid : Option Bool
deriving DecidableEq, Repr

namespace ManifestError

def new (code : ProtocolErrorCode) (path detail : String) : ManifestError :=
  ⟨code, path, detail, some true⟩

def schemaInvalid (code : ProtocolErrorCode) (path detail : String) : ManifestError :=
  ⟨code, path, detail, some false⟩

def invalid (path detail : String) : ManifestError := ⟨.invalidManifest, path, detail, none⟩

end ManifestError

/-- A parse that may be refused. -/
abbrev Parsed : Type → Type := Except ManifestError

def enumError (path : String) : ManifestError :=
  .invalid path "value is outside the closed enum"

def lengthError (path : String) (minimum maximum : Nat) : ManifestError :=
  .invalid path s!"length must be in {minimum}..={maximum}"

/-- `usize::MAX`. -/
def usizeMax : Nat := 2 ^ 64 - 1

/-- `if failed { return Err(error); }`. -/
def refuseIf (failed : Bool) (error : ManifestError) : Parsed Unit :=
  if failed then .error error else .ok ()

/-- The path of a property. -/
def property (path key : String) : String := path ++ "." ++ key

/-- The path of an item. -/
def indexed (path : String) (index : Nat) : String := s!"{path}[{index}]"

/-! ## Properties -/


/-- `value.ok_or_else(|| error)`. -/
def orRefuse {α : Type} (value : Option α) (error : ManifestError) : Parsed α :=
  match value with
  | some a => .ok a
  | none => .error error

def has (object : ObjectEntries) (key : String) : Bool := object.any fun entry => entry.1 = key

/-- `object.iter().find_map(..)`. -/
def lookup (object : ObjectEntries) (key : String) : Option JsonValue := List.lookup key object

def exactObject (value : JsonValue) (path : String) (allowed requiredFields : List String) :
    Parsed ObjectEntries := do
  let object ← orRefuse value.asObject (.invalid path "must be an object")
  match object.find? fun entry => !allowed.contains entry.1 with
  | some (key, _) => .error (.invalid (property path key) "unknown property")
  | none =>
    match requiredFields.find? fun key => !has object key with
    | some key => .error (.invalid (property path key) "required property is missing")
    | none => .ok object

def required (object : ObjectEntries) (key path : String) : Parsed JsonValue :=
  orRefuse (lookup object key) (.invalid (property path key) "required property is missing")

def requiredString (object : ObjectEntries) (key path : String) : Parsed String := do
  let value ← required object key path
  orRefuse value.asStr (.invalid (property path key) "must be a string")

def requiredArray (object : ObjectEntries) (key path : String) : Parsed (List JsonValue) := do
  let value ← required object key path
  orRefuse value.asArray (.invalid (property path key) "must be an array")

def optionalArray (object : ObjectEntries) (key path : String) :
    Parsed (Option (List JsonValue)) :=
  match lookup object key with
  | some value => some <$> orRefuse value.asArray (.invalid (property path key) "must be an array")
  | none => .ok none

/-- `value.chars().count()` between the two bounds. -/
def boundedString (object : ObjectEntries) (key path : String) (minimum maximum : Nat) :
    Parsed String := do
  let value ← requiredString object key path
  refuseIf (value.length < minimum || maximum < value.length)
    (lengthError (property path key) minimum maximum)
  return value

def boundedU64 (object : ObjectEntries) (key path : String) (minimum maximum : Nat)
    (code : ProtocolErrorCode) : Parsed Nat := do
  let value ← required object key path
  let value ← orRefuse value.asI64 (.invalid (property path key) "must be an integer")
  -- `u64::try_from` fails below zero, with the error of the bounds
  refuseIf (value.toInt < 0 || value.toInt.toNat < minimum || maximum < value.toInt.toNat)
    (.schemaInvalid code (property path key) s!"must be in {minimum}..={maximum}")
  return value.toInt.toNat

def optionalBoundedU64 (object : ObjectEntries) (key path : String) (minimum maximum : Nat)
    (code : ProtocolErrorCode) : Parsed (Option Nat) :=
  if has object key then some <$> boundedU64 object key path minimum maximum code
  else .ok none

/-- `u32::MAX`. -/
def u32Max : Nat := 2 ^ 32 - 1

/-- `bounded_u32`. What passes the bounds fits. -/
def boundedU32 (object : ObjectEntries) (key path : String) : Parsed Nat :=
  boundedU64 object key path 1 u32Max .invalidManifest

def requireConst (object : ObjectEntries) (key expected path : String) : Parsed Unit := do
  let actual ← requiredString object key path
  refuseIf (actual ≠ expected) (.invalid (property path key) s!"must equal {expected}")

/-- `require_const_version`, of the property `key` of the object at `parent`. -/
def requireConstVersion (object : ObjectEntries) (key expected parent : String) : Parsed Unit := do
  let actual ← requiredString object key parent
  refuseIf (actual ≠ expected) (.schemaInvalid .unsupportedVersion (property parent key)
    s!"expected {expected}, found {actual}")

/-- A `match` of a text against the members of a closed enumeration. -/
def closedEnum {α : Type} (table : List (String × α)) (value path : String) : Parsed α :=
  orRefuse (table.lookup value) (enumError path)

/-- A required property of a closed enumeration. -/
def requiredEnum {α : Type} (table : List (String × α)) (object : ObjectEntries)
    (key path : String) : Parsed α := do
  let value ← requiredString object key path
  closedEnum table value (property path key)

/-! ## Arrays -/

/-- A loop that parses the items of an array in order, each under its own path. -/
def parseEach {α : Type} (parse : JsonValue → String → Parsed α) (path : String) :
    Nat → List JsonValue → Parsed (List α)
  | _, [] => .ok []
  | index, value :: rest => do
    let item ← parse value (indexed path index)
    let items ← parseEach parse path (index + 1) rest
    return item :: items

/-- An item that must be a text. -/
def itemString (value : JsonValue) (path : String) : Parsed String :=
  orRefuse value.asStr (.invalid path "must be a string")

/-- An array of `minimum` to `maximum` items. -/
def refuseLength (values : List JsonValue) (path : String) (minimum maximum : Nat) :
    Parsed Unit :=
  refuseIf (values.length < minimum || maximum < values.length) (lengthError path minimum maximum)

/-- `unique_by`, and the sets that are compared in size with their lists. -/
def uniqueBy {α : Type} [DecidableEq α] (values : List α) (path : String) : Parsed Unit :=
  refuseIf (¬ values.Nodup) (.invalid path "items must be unique")

/-- A loop over texts that refuses a text outside `allowed` and then one it has seen. -/
def parseDistinct (allowed : String → Bool) (outside : String → ManifestError) (path : String) :
    Nat → List String → List JsonValue → Parsed (List String)
  | _, _, [] => .ok []
  | index, seen, value :: rest => do
    let text ← itemString value (indexed path index)
    refuseIf (!allowed text) (outside (indexed path index))
    refuseIf (seen.contains text) (.invalid path "items must be unique")
    let texts ← parseDistinct allowed outside path (index + 1) (text :: seen) rest
    return text :: texts

/-- An optional array of distinct texts. -/
def optionalDistinct (allowed : String → Bool) (outside : String → ManifestError)
    (object : ObjectEntries) (key path : String) : Parsed (List String) := do
  match ← optionalArray object key path with
  | some values => parseDistinct allowed outside (property path key) 0 [] values
  | none => return []

def parseEnumArray (object : ObjectEntries) (key path : String) (allowed : List String) :
    Parsed (List String) :=
  optionalDistinct allowed.contains enumError object key path

/-! ## Grammars -/

def isAsciiLowercase (c : Char) : Bool := 'a' ≤ c && c ≤ 'z'

def isAsciiDigit (c : Char) : Bool := '0' ≤ c && c ≤ '9'

def isAsciiAlphanumeric (c : Char) : Bool :=
  isAsciiLowercase c || ('A' ≤ c && c ≤ 'Z') || isAsciiDigit c

def isIdentifierSegment (segment : List Char) : Bool :=
  !segment.isEmpty && segment.all fun c => isAsciiLowercase c || isAsciiDigit c

/-- The condition of `identifier`. -/
def isIdentifier (value : String) : Bool :=
  value ≠ "" && value.utf8ByteSize ≤ 128 && (value.toList.all fun c => c.toNat < 128) &&
    value.toList.head?.any isAsciiLowercase &&
    (value.toList.splitOnP fun c => c = '.' || c = '-').all isIdentifierSegment

def identifier (value path : String) : Parsed String := do
  refuseIf (!isIdentifier value) (.invalid path "must be a lowercase dotted identifier")
  return value

def isSha256 (value : String) : Bool :=
  value.utf8ByteSize = 64 && value.toList.all fun c => isAsciiDigit c || ('a' ≤ c && c ≤ 'f')

def isArtifactPath (value : String) : Bool :=
  value.toList ≠ [] && value.utf8ByteSize ≤ 240 && value.toList.head? ≠ some '/' &&
    !value.toList.contains '\\' &&
    (value.toList.all fun c => isAsciiAlphanumeric c || c = '.' || c = '_' || c = '/' || c = '-') &&
    (value.toList.splitOn '/').all fun segment =>
      segment ≠ [] && segment ≠ ['.'] && segment ≠ ['.', '.']

/-- `char::is_whitespace`. -/
def isUnicodeWhitespace (c : Char) : Bool :=
  (0x09 ≤ c.toNat && c.toNat ≤ 0x0d) || (0x2000 ≤ c.toNat && c.toNat ≤ 0x200a) ||
    [0x20, 0x85, 0xa0, 0x1680, 0x2028, 0x2029, 0x202f, 0x205f, 0x3000].contains c.toNat

/-- What follows a prefix. -/
def stripPrefix (start : List Char) (text : List Char) : Option (List Char) :=
  if start.isPrefixOf text then some (text.drop start.length) else none

def isHttpsOrigin (value : String) : Bool :=
  match stripPrefix "https://".toList value.toList with
  | none => false
  | some authority =>
    !authority.isEmpty && !authority.any isUnicodeWhitespace &&
      !authority.any fun c => c = '/' || c = '?' || c = '#'

/-- `valid_numeric`. -/
def validNumeric (part : List Char) : Bool :=
  !part.isEmpty && part.all isAsciiDigit && (part = ['0'] || part.head? ≠ some '0')

def validSemverIdentifiers (value : List Char) : Bool :=
  !value.isEmpty && (value.splitOn '.').all fun part =>
    !part.isEmpty && part.all fun c => isAsciiAlphanumeric c || c = '-'

/-- What may follow the pre-release identifiers. -/
def validSemverBuild : List Char → Bool
  | [] => true
  | '+' :: build => validSemverIdentifiers build
  | _ => false

def isSemver (value : String) : Bool :=
  let core := value.toList.takeWhile fun c => c ≠ '-' && c ≠ '+'
  let suffix := value.toList.dropWhile fun c => c ≠ '-' && c ≠ '+'
  match core.splitOn '.' with
  | [major, minor, patch] =>
    validNumeric major && validNumeric minor && validNumeric patch &&
      match suffix with
      | '-' :: pre =>
        validSemverIdentifiers (pre.takeWhile (· ≠ '+')) &&
          validSemverBuild (pre.dropWhile (· ≠ '+'))
      | suffix => validSemverBuild suffix
  | _ => false

end Vibapp.Protocol.Model
