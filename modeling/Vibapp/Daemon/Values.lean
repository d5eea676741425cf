import Vibapp.Lib.Calendar
import Vibapp.Lib.Except
import Vibapp.Lib.Json

/-!
# Wire values of the daemon

`DaemonError` and the checks every request and every promotion record goes through: bounded
texts, digests, application ids, relative paths and timestamps.
-/

namespace Vibapp.Daemon

/-- `DaemonError`. -/
structure DaemonError where
  code : String
  message : String
  retryable : Bool := false
deriving DecidableEq, Repr

/-- What a call raises: a `DaemonError`, or a Python exception nothing translates into one. -/
inductive Raised
  | daemon (e : DaemonError)
  | other (pythonException : String)
deriving DecidableEq, Repr

/-- A computation that may raise. -/
abbrev Py (α : Type) := Except Raised α

/-- `raise DaemonError(code, message)`. -/
def fail {α : Type} (code message : String) : Py α := .error (.daemon ⟨code, message, false⟩)

/-- `if condition: raise DaemonError(code, message)`. -/
def raiseIf (condition : Prop) [Decidable condition] (code message : String) : Py Unit :=
  if condition then fail code message else .ok ()

theorem raiseIf_eq_ok {c : Prop} [Decidable c] {code message : String} {u : Unit} :
    raiseIf c code message = .ok u ↔ ¬ c := by
  unfold raiseIf fail
  by_cases hc : c <;> simp [hc]

/-- `value.get(key)` of a dictionary: `None` when the key is missing. -/
def field (members : List (String × Json)) (key : String) : Json :=
  (members.lookup key).getD .null

/-- `set(value) == fields`. -/
def hasExactly (members : List (String × Json)) (fields : List String) : Bool :=
  members.all (fun p => fields.contains p.1) && fields.all fun f => (members.map Prod.fst).contains f

/-- `isinstance(value, dict)`, or the error the caller raises. -/
def asDict (value : Json) (code message : String) : Py (List (String × Json)) :=
  match value with
  | .obj members => .ok members
  | _ => fail code message

/-- `isinstance(value, list)`, or the error the caller raises. -/
def asList (value : Json) (code message : String) : Py (List Json) :=
  match value with
  | .arr items => .ok items
  | _ => fail code message

/-- `_bounded_text`. -/
def boundedText (value : Json) (name : String) (maximum : Nat := 256) : Py String :=
  let refused := fail "invalid-argument" (name ++ " is not a bounded text value")
  match value with
  | .str s =>
    if s ≠ "" ∧ s.length ≤ maximum ∧ s.toList.all (fun c => 0x20 ≤ c.toNat) then .ok s else refused
  | _ => refused

/-- `_digest`. -/
def digest (value : Json) (name : String) : Py String := do
  let text ← boundedText value name 64
  if text.length ≠ 64 ∨ ¬ text.toList.all (fun c => "0123456789abcdef".toList.contains c) then
    fail "integrity-failure" (name ++ " is not a lowercase SHA-256 digest")
  else return text

/-- `a in text`, of characters. -/
def containsChars (part : List Char) : List Char → Bool
  | [] => part.isEmpty
  | c :: rest => part.isPrefixOf (c :: rest) || containsChars part rest

/-- `_safe_relative_path`. An ASCII text is its own normal form. -/
def safeRelativePath (value : Json) : Py String := do
  let text ← boundedText value "artifact path" 512
  let cs := text.toList
  if ¬ cs.all (fun c => c.toNat < 128) then
    fail "integrity-failure" "artifact path must be normalized ASCII"
  else if cs.contains '\\' ∨ containsChars ['/', '/'] cs ∨ cs.head? = some '/' ∨
      cs.getLast? = some '/' then
    fail "integrity-failure" "artifact path is not a canonical relative path"
  -- `PurePosixPath.parts` drops every "." and has no empty part
  else if (cs.splitOn '/').contains ['.', '.'] then
    fail "integrity-failure" "artifact path escapes the package"
  else return text

/-- `_parse_utc`, of a text with ASCII digits. -/
def parseUtc (value : Json) : Py Instant :=
  match value with
  | .str s =>
    let layout := "0000-00-00T00:00:00Z".toList
    if s.toList.length ≠ layout.length ∨
        ¬ (s.toList.zip layout).all (fun p => p.2 = '0' || p.1 = p.2) then
      fail "invalid-argument" "timestamp must be canonical YYYY-MM-DDTHH:MM:SSZ"
    else
      match Instant.ofText? s with
      | some t => .ok t
      | none => fail "invalid-argument" "timestamp is not a valid UTC instant"
  | _ => fail "invalid-argument" "timestamp must be canonical YYYY-MM-DDTHH:MM:SSZ"

/-- `isinstance(value, str)`. -/
def asStr (value : Json) : Option String :=
  match value with
  | .str s => some s
  | _ => none

/-- `isinstance(value, bool)`. -/
def asBool (value : Json) : Option Bool :=
  match value with
  | .bool b => some b
  | _ => none

/-- `isinstance(value, int)` and not a `bool`. -/
def asInt (value : Json) : Option Int :=
  match value with
  | .int n => some n
  | _ => none

end Vibapp.Daemon
