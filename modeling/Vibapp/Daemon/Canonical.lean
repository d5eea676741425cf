import Vibapp.Daemon.Values
import Vibapp.Protocol.Json

/-!
# Canonical JSON of the daemon

`canonicalJson` checks the numbers of a value and writes it with its keys sorted by code points.
**Main result** (`canonicalJson_eq_iff`): on the values of the protocol crate it gives the bytes
of `toCanonicalJson` exactly when no object has two keys that first differ in a character from
U+E000 to U+FFFF against one above U+FFFF. The specification of the package digest asks for code
units, so on such an object the daemon is the side that is wrong.
-/

namespace Vibapp.Daemon

mutual

/-- `_validate_json_numbers`. -/
def validateJsonNumbers : Json → Py Unit
  | .null | .bool _ | .str _ => pure ()
  | .int value =>
    if value < -(2 ^ 63) ∨ value > 2 ^ 64 - 1 then
      fail "invalid-argument" "JSON integer is outside the supported exact range"
    else pure ()
  | .float _ =>
    fail "invalid-argument"
      "floating-point manifest values are not supported by this bounded verifier"
  | .arr items => validateItems items
  | .obj members => validateMembers members

def validateItems : List Json → Py Unit
  | [] => pure ()
  | item :: rest => do
    validateJsonNumbers item
    validateItems rest

def validateMembers : List (String × Json) → Py Unit
  | [] => pure ()
  | (_, item) :: rest => do
    validateJsonNumbers item
    validateMembers rest

end

/-- `canonical_json`. -/
def canonicalJson (value : Json) : Py ByteArray := do
  validateJsonNumbers value
  return (Json.dumps value).toUTF8

open Vibapp.Protocol

mutual

/-- The numbers of a protocol value pass the check. -/
theorem validateJsonNumbers_toJson : ∀ value : JsonValue,
    validateJsonNumbers value.toJson = .ok ()
  | .null | .bool _ | .string _ => rfl
  | .integer value => by
    have hlo := value.le_toInt
    have hhi := value.toInt_lt
    rw [JsonValue.toJson, validateJsonNumbers, if_neg (by omega)]
    rfl
  | .array values => by rw [JsonValue.toJson, validateJsonNumbers, validateItems_toJson values]
  | .object entries => by
    rw [JsonValue.toJson, validateJsonNumbers, validateMembers_toJson entries]

theorem validateItems_toJson : ∀ values : List JsonValue,
    validateItems (valuesToJson values) = .ok ()
  | [] => rfl
  | value :: rest => by
    rw [valuesToJson, validateItems, validateJsonNumbers_toJson value, ok_bind,
      validateItems_toJson rest]

theorem validateMembers_toJson : ∀ entries : List (String × JsonValue),
    validateMembers (entriesToJson entries) = .ok ()
  | [] => rfl
  | (key, value) :: rest => by
    rw [entriesToJson, validateMembers, validateJsonNumbers_toJson value, ok_bind,
      validateMembers_toJson rest]

end

/-- The texts agree as the orders of the keys do. -/
theorem dumps_eq_toCanonicalJson_iff (value : JsonValue) :
    Json.dumps value.toJson = toCanonicalJson value ↔ ¬ value.HasAstrayKeys := by
  rw [Json.dumps, toCanonicalJson, writeCanonical_eq, Json.sortKeys_eq_sortedBy, ← allKeys_iff,
    ← Json.sortedBy_eq_iff]
  exact ⟨fun h => Json.chars_inj (String.ofList_injective h), fun h => by rw [h]⟩

theorem canonicalJson_toJson (value : JsonValue) :
    canonicalJson value.toJson = .ok (Json.dumps value.toJson).toUTF8 := by
  rw [canonicalJson, validateJsonNumbers_toJson, ok_bind]
  rfl

/-- **The two encoders agree** on a value exactly when its objects have no keys that code points
and code units order differently. -/
theorem canonicalJson_eq_iff (value : JsonValue) :
    canonicalJson value.toJson = .ok (toCanonicalJson value).toUTF8 ↔ ¬ value.HasAstrayKeys := by
  rw [canonicalJson_toJson, Except.ok.injEq, ← dumps_eq_toCanonicalJson_iff]
  exact String.toByteArray_inj

/-- An object with the keys U+E000 and U+10000. -/
def privateUseAndAstral : JsonValue :=
  .object [(String.singleton (Char.ofNat 0xE000), .null),
    (String.singleton (Char.ofNat 0x10000), .null)]

/-- The daemon writes U+E000 first, the protocol crate U+10000. -/
theorem encoders_disagree : ¬ ∀ value : JsonValue,
    canonicalJson value.toJson = .ok (toCanonicalJson value).toUTF8 := by
  intro h
  have hbytes := h privateUseAndAstral
  rw [canonicalJson_toJson, Except.ok.injEq] at hbytes
  refine (dumps_eq_toCanonicalJson_iff _).1 (String.toByteArray_inj.1 hbytes) (Or.inl ?_)
  refine ⟨_, List.mem_cons_self, _, List.mem_cons_of_mem _ List.mem_cons_self, ?_⟩
  refine ⟨[], Char.ofNat 0xE000, Char.ofNat 0x10000, [], [], ?_, ?_, Or.inl ?_⟩
  · exact String.toList_singleton _
  · exact String.toList_singleton _
  · unfold Crossed
    decide

end Vibapp.Daemon
