import Vibapp.Builder.Handoff
import Vibapp.Builder.PackageDigest
import Vibapp.Verifier.Quarantine

/-!
# Values of the verifier

What `verifier.py` and `common.py` ask of a JSON value before they use it: equality with a literal,
membership in a set of texts, exact objects, digests and bounded integers.
-/

namespace Vibapp

/-! ## Equality of Python values -/

/-- The integer that a float is, where its text has no exponent. -/
def FloatText.toInt? (x : FloatText) : Option Int :=
  let digits := x.text.filter (· ≠ '-')
  let whole := digits.take (digits.length - 2)
  if digits.drop (digits.length - 2) = ['.', '0'] ∧ whole.all Char.isDigit then
    some (if x.text.head? = some '-' then -(Nat.ofDigitChars 10 whole 0 : Int)
      else (Nat.ofDigitChars 10 whole 0 : Int))
  else none

namespace Json

/-- `==` of a number with an integer: `True` is 1, and `1.0` is too. -/
def isNumber (n : Int) : Json → Bool
  | bool b => n = if b then 1 else 0
  | int m => n = m
  | float x => x.toInt? = some n
  | _ => false

mutual

/-- `expected == value` for a literal without floats. -/
def equals : Json → Json → Bool
  | null, value => value.isNull
  | bool b, value => value.isNumber (if b then 1 else 0)
  | int n, value => value.isNumber n
  | float _, _ => false
  | str s, value =>
    match value with
    | str t => s = t
    | _ => false
  | arr xs, value =>
    match value with
    | arr ys => equalsItems xs ys
    | _ => false
  | obj ms, value =>
    match value with
    | obj ns => ms.length = ns.length && equalsMembers ms ns
    | _ => false

def equalsItems : List Json → List Json → Bool
  | [], ys => ys.isEmpty
  | _ :: _, [] => false
  | x :: xs, y :: ys => equals x y && equalsItems xs ys

def equalsMembers : List (String × Json) → List (String × Json) → Bool
  | [], _ => true
  | (key, x) :: ms, ns =>
    (match ns.lookup key with
    | some y => equals x y
    | none => false) && equalsMembers ms ns

end

/-- A list of texts. -/
def texts (items : List String) : Json := arr (items.map str)

end Json

namespace Verifier

open Daemon (field hasExactly asStr asInt asBool)
open Builder (isAppId isSemver read)

/-! ## Checks of `common.py` -/

/-- `value in {…}`, of texts. A list or an object has no hash. -/
def memberOf (value : Json) (items : List String) : Py Bool :=
  match value with
  | .arr _ => .error .other
  | .obj _ => .error .other
  | .str s => .ok (items.contains s)
  | _ => .ok false

/-- `require_exact_object`. -/
def requireExactObject (value : Json) (fields : List String) (context : String) :
    Py (List (String × Json)) :=
  match value with
  | .obj members =>
    if hasExactly members fields then .ok members
    else fail "schema-invalid" (context ++ " fields mismatch")
  | _ => fail "schema-invalid" (context ++ " must be an object")

/-- `require_sha256`. -/
def requireSha256 (value : Json) (context : String) : Py Unit :=
  require ((asStr value).any AppStore.isSha256) "schema-invalid"
    (context ++ " is not lowercase SHA-256")

/-- `_require_integer`. -/
def requireInteger (value : Json) (context : String) (minimum maximum : Int) : Py Int :=
  match asInt value with
  | some n =>
    if minimum ≤ n ∧ n ≤ maximum then .ok n
    else fail "schema-invalid"
      (context ++ " is outside " ++ toString minimum ++ ".." ++ toString maximum)
  | none => fail "schema-invalid"
      (context ++ " is outside " ++ toString minimum ++ ".." ++ toString maximum)

/-- `isinstance(value, str)`, not empty, and of at most so many bytes. -/
def isBoundedText (value : Json) (maximum : Nat) : Bool :=
  (asStr value).any fun s => s ≠ "" && s.utf8ByteSize ≤ maximum

/-- `isinstance(value, list)`, or the error the caller raises. -/
def requireList (value : Json) (code message : String) : Py (List Json) :=
  match value with
  | .arr items => .ok items
  | _ => fail code message

/-! ## Python's library -/

/-- What the pipeline takes from Python's library: SHA-256, the folding of texts and `json.loads` of
a text that was decoded as UTF-8 (`store`), and `json.loads` of bytes, which finds their encoding. -/
structure Python where
  store : AppStore.Library
  loadsBytes : List UInt8 → Option Json
  conversions : Builder.Conversions
  isDecimal : Char → Bool

/-- `load_json`, of bytes that were read. -/
def loadJson (python : Python) (data : List UInt8) (context : String) :
    Py (List (String × Json)) :=
  match python.loadsBytes data with
  | none => fail "schema-invalid" ("invalid " ++ context ++ " JSON")
  | some value =>
    match AppStore.duplicateKey value with
    | some key => fail "schema-invalid" ("duplicate JSON key: " ++ key)
    | none =>
      match value with
      | .obj members => .ok members
      | _ => fail "schema-invalid" (context ++ " JSON root must be an object")

end Verifier

end Vibapp
