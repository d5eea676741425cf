import Vibapp.Lib.Regex
import Vibapp.Protocol.Equality

/-!
# JSON Schema

The vocabulary of JSON Schema 2020-12 that the manifest schema uses, on the values of the crate. A
schema is the set of values that it accepts. As in the standard, a keyword says something about
values of its own type and accepts all others; `type` is what refuses those. Members are found by
their key, so the order of an object does not matter.
-/

namespace Vibapp.Protocol

/-- A schema, by the values that it accepts. -/
abbrev Schema : Type := JsonValue → Prop

namespace Schema

/-! ## Any value -/

inductive Kind
  | object | array | string | integer | boolean

def type : Kind → Schema
  | .object, value => ∃ entries, value = .object entries
  | .array, value => ∃ values, value = .array values
  | .string, value => ∃ text, value = .string text
  | .integer, value => ∃ number, value = .integer number
  | .boolean, value => ∃ bool, value = .bool bool

def const (expected : JsonValue) : Schema := fun value => value.eq expected = true

def enum (members : List JsonValue) : Schema := fun value => ∃ m ∈ members, value.eq m = true

/-- `enum` of texts. -/
def enumOf (members : List String) : Schema := enum (members.map .string)

def allOf (schemas : List Schema) : Schema := fun value => ∀ schema ∈ schemas, schema value

/-- Exactly one of the schemas accepts. -/
def oneOf (schemas : List Schema) : Schema := fun value =>
  ∃ before schema after, schemas = before ++ schema :: after ∧ schema value ∧
    ∀ other ∈ before ++ after, ¬ other value

def not (schema : Schema) : Schema := fun value => ¬ schema value

/-- `if` and `then`. -/
def ifThen (condition consequence : Schema) : Schema := fun value =>
  condition value → consequence value

/-! ## Numbers and texts -/

def minimum (bound : Int) : Schema := fun value => ∀ n, value = .integer n → bound ≤ n.toInt

def maximum (bound : Int) : Schema := fun value => ∀ n, value = .integer n → n.toInt ≤ bound

/-- The length of a text is its number of code points. -/
def minLength (bound : Nat) : Schema := fun value =>
  ∀ text, value = .string text → bound ≤ text.length

def maxLength (bound : Nat) : Schema := fun value =>
  ∀ text, value = .string text → text.length ≤ bound

def pattern (r : Regex Char) : Schema := fun value =>
  ∀ text, value = .string text → r.Found text.toList

/-! ## Arrays -/

def items (schema : Schema) : Schema := fun value =>
  ∀ values, value = .array values → ∀ item ∈ values, schema item

def minItems (bound : Nat) : Schema := fun value =>
  ∀ values, value = .array values → bound ≤ values.length

def maxItems (bound : Nat) : Schema := fun value =>
  ∀ values, value = .array values → values.length ≤ bound

def uniqueItems : Schema := fun value =>
  ∀ values, value = .array values → values.Pairwise fun left right => left.eq right = false

/-- `contains` with `minContains` 1, which is also its default. -/
def contains (schema : Schema) : Schema := fun value =>
  ∀ values, value = .array values → ∃ item ∈ values, schema item

/-! ## Objects -/

/-- A schema for the member under a key. -/
def Member (entries : List (String × JsonValue)) (p : String × Schema) : Prop :=
  ∀ value, entries.lookup p.1 = some value → p.2 value

def properties (members : List (String × Schema)) : Schema := fun value =>
  ∀ entries, value = .object entries → ∀ p ∈ members, Member entries p

def required (keys : List String) : Schema := fun value =>
  ∀ entries, value = .object entries → ∀ key ∈ keys, ∃ member, entries.lookup key = some member

/-- `additionalProperties: false` beside `properties` with these keys. -/
def onlyProperties (keys : List String) : Schema := fun value =>
  ∀ entries, value = .object entries → ∀ entry ∈ entries, entry.1 ∈ keys

/-- `"type": "object"`, `"additionalProperties": false`, `required` and `properties`. -/
def closedObject (keys : List String) (members : List (String × Schema)) : Schema :=
  allOf [type .object, onlyProperties (members.map Prod.fst), required keys, properties members]

/-! ## Classes of characters -/

/-- A class, by its ranges. -/
def ranges (rs : List (Char × Char)) (c : Char) : Bool := rs.any fun r => r.1 ≤ c && c ≤ r.2

/-- `.` -/
def anyChar (c : Char) : Bool := !(['\n', '\r', '\u2028', '\u2029'].contains c)

/-- `\s` of ECMA-262: its white space and its line terminators. -/
def whitespaceRanges : List (Char × Char) :=
  [('\t', '\r'), (' ', ' '), ('\u00a0', '\u00a0'), ('\u1680', '\u1680'), ('\u2000', '\u200a'),
    ('\u2028', '\u2029'), ('\u202f', '\u202f'), ('\u205f', '\u205f'), ('\u3000', '\u3000'),
    ('\ufeff', '\ufeff')]

end Schema

end Vibapp.Protocol
