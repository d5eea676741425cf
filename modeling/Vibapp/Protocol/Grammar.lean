import Vibapp.Protocol.Parser

/-!
# The grammar of JSON texts

RFC 8259 as concrete syntax trees: a tree is a text of the grammar together with how it is read,
with every gap, escape, fraction and exponent that the grammar allows (`Cst.chars` is the text).
`Cst.value` is the value that the crate's subset assigns to a tree. It assigns none to a number
with a fraction or an exponent or outside `i64`, to a `\u` escape that is half of a surrogate
pair, and to an object in which two members have the same key once it is decoded.
-/

namespace Vibapp.Protocol

open Vibapp.Protocol.Parser

/-- Insignificant whitespace. -/
abbrev Gap : Type := { cs : List Char // ∀ c ∈ cs, isWhitespace c = true }

/-! ## Strings -/

/-- The letters that may follow a backslash, with what they mean. -/
def escapes : List (Char × Char) :=
  [('"', '"'), ('\\', '\\'), ('/', '/'), ('b', '\x08'), ('f', '\x0c'), ('n', '\n'), ('r', '\r'),
    ('t', '\t')]

/-- The value of a hexadecimal digit. -/
def hexDigitValue (c : Char) : Nat := (toDigit16 c).getD 0

/-- `char` of the grammar. -/
inductive Piece
  | unescaped (c : Char) (h : c ≠ '"' ∧ c ≠ '\\' ∧ 0x1f < c.toNat)
  | escaped (letter meaning : Char) (h : (letter, meaning) ∈ escapes)
  | unicode (digits : Fin 4 → Char) (h : ∀ i, (toDigit16 (digits i)).isSome = true)

namespace Piece

/-- The text of a `char`. -/
def chars : Piece → List Char
  | unescaped c _ => [c]
  | escaped letter _ _ => ['\\', letter]
  | unicode digits _ => ['\\', 'u', digits 0, digits 1, digits 2, digits 3]

/-- The code unit of four digits. -/
def unit (digits : Fin 4 → Char) : Nat :=
  ((hexDigitValue (digits 0) * 16 + hexDigitValue (digits 1)) * 16 + hexDigitValue (digits 2)) * 16 +
    hexDigitValue (digits 3)

end Piece

/-- The characters of a string: each `\u` escape is a scalar value, or the first half of a
surrogate pair and followed by the second. -/
def decode : List Piece → Option (List Char)
  | [] => some []
  | .unescaped c _ :: rest => (decode rest).map (c :: ·)
  | .escaped _ meaning _ :: rest => (decode rest).map (meaning :: ·)
  | .unicode first _ :: rest =>
    if isHighSurrogate (Piece.unit first) = true then
      match rest with
      | .unicode second _ :: rest =>
        if isLowSurrogate (Piece.unit second) = true then
          (decode rest).map
            (Char.ofNat (surrogatePair (Piece.unit first) (Piece.unit second)) :: ·)
        else none
      | _ => none
    else if isLowSurrogate (Piece.unit first) = true then none
    else (decode rest).map (Char.ofNat (Piece.unit first) :: ·)

/-- The text between the quotes, and the second quote. -/
def pieceChars (pieces : List Piece) : List Char := pieces.flatMap Piece.chars

/-! ## Numbers -/

/-- `number` of the grammar. -/
structure Numeral where
  negative : Bool
  int : List Char
  fraction : Option (List Char)
  exponent : Option (Char × Option Char × List Char)
  int_digits : int ≠ [] ∧ ∀ c ∈ int, isDigit c = true
  int_leading : int.head? = some '0' → int = ['0']
  fraction_digits : ∀ ds ∈ fraction, ds ≠ [] ∧ ∀ c ∈ ds, isDigit c = true
  exponent_shape : ∀ e ∈ exponent, (e.1 = 'e' ∨ e.1 = 'E') ∧ (∀ s ∈ e.2.1, s = '+' ∨ s = '-') ∧
    e.2.2 ≠ [] ∧ ∀ c ∈ e.2.2, isDigit c = true

namespace Numeral

/-- The text of a number. -/
def chars (n : Numeral) : List Char :=
  (if n.negative = true then ['-'] else []) ++ n.int ++
    (n.fraction.elim [] ('.' :: ·)) ++
    n.exponent.elim [] fun e => e.1 :: (e.2.1.toList ++ e.2.2)

/-- The integer before a fraction and an exponent. -/
def integer (n : Numeral) : Int :=
  if n.negative = true then -(Nat.ofDigitChars 10 n.int 0 : Nat) else Nat.ofDigitChars 10 n.int 0

/-- The value of an integer literal within `i64`. -/
def value (n : Numeral) : Option Int64 :=
  if n.fraction = none ∧ n.exponent = none then toI64 n.integer else none

end Numeral

/-! ## Values -/

mutual

/-- `value` of the grammar. -/
inductive Cst
  | null
  | true
  | false
  | number (n : Numeral)
  | string (pieces : List Piece)
  | emptyArray (gap : Gap)
  | array (items : Items)
  | emptyObject (gap : Gap)
  | object (members : Members)

/-- The items of an array, each between gaps. -/
inductive Items
  | last (before : Gap) (value : Cst) (after : Gap)
  | more (before : Gap) (value : Cst) (after : Gap) (rest : Items)

/-- The members of an object, each between gaps, with gaps around the colon. -/
inductive Members
  | last (before : Gap) (key : List Piece) (left right : Gap) (value : Cst) (after : Gap)
  | more (before : Gap) (key : List Piece) (left right : Gap) (value : Cst) (after : Gap)
    (rest : Members)

end

mutual

/-- The text of a value. -/
def Cst.chars : Cst → List Char
  | .null => "null".toList
  | .true => "true".toList
  | .false => "false".toList
  | .number n => n.chars
  | .string pieces => '"' :: (pieceChars pieces ++ ['"'])
  | .emptyArray gap => '[' :: (gap.1 ++ [']'])
  | .array items => '[' :: (items.chars ++ [']'])
  | .emptyObject gap => '{' :: (gap.1 ++ ['}'])
  | .object members => '{' :: (members.chars ++ ['}'])

def Items.chars : Items → List Char
  | .last before value after => before.1 ++ value.chars ++ after.1
  | .more before value after rest => before.1 ++ value.chars ++ after.1 ++ ',' :: rest.chars

def Members.chars : Members → List Char
  | .last before key left right value after =>
    before.1 ++ '"' :: (pieceChars key ++ '"' :: (left.1 ++ ':' ::
      (right.1 ++ value.chars ++ after.1)))
  | .more before key left right value after rest =>
    before.1 ++ '"' :: (pieceChars key ++ '"' :: (left.1 ++ ':' ::
      (right.1 ++ value.chars ++ after.1 ++ ',' :: rest.chars)))

end

mutual

/-- The value of a tree. -/
def Cst.value : Cst → Option JsonValue
  | .null => some .null
  | .true => some (.bool Bool.true)
  | .false => some (.bool Bool.false)
  | .number n => n.value.map .integer
  | .string pieces => (decode pieces).map fun cs => .string (String.ofList cs)
  | .emptyArray _ => some (.array [])
  | .array items => items.values.map .array
  | .emptyObject _ => some (.object [])
  | .object members =>
    members.entries.bind fun entries =>
      if (entries.map Prod.fst).Nodup then some (.object entries) else none

def Items.values : Items → Option (List JsonValue)
  | .last _ value _ => value.value.map ([·])
  | .more _ value _ rest => value.value.bind fun v => rest.values.map (v :: ·)

def Members.entries : Members → Option (List (String × JsonValue))
  | .last _ key _ _ value _ =>
    (decode key).bind fun cs => value.value.map fun v => [(String.ofList cs, v)]
  | .more _ key _ _ value _ rest =>
    (decode key).bind fun cs => value.value.bind fun v =>
      rest.entries.map ((String.ofList cs, v) :: ·)

end

/-- `input` is a JSON text that reads as `value`. -/
def ReadsAs (input : String) (value : JsonValue) : Prop :=
  ∃ (before : Gap) (tree : Cst) (after : Gap),
    input.toList = before.1 ++ tree.chars ++ after.1 ∧ tree.value = some value

end Vibapp.Protocol
