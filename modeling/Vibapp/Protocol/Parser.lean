import Vibapp.Protocol.Equality

/-!
# The JSON parser of the protocol crate

`parseJson`, the recursive descent of the crate over the characters of its input, with every error
it raises. The loops over arrays and objects take fuel; `parseJson` gives more than any input can
use.
-/

namespace Vibapp.Protocol

inductive JsonErrorKind
  | unexpectedEnd
  | unexpectedToken
  | trailingData
  | duplicateKey (key : String)
  | invalidEscape
  | invalidUnicode
  | invalidNumber
  | nonIntegralNumber
  | numberOutOfRange
  | unescapedControl
deriving DecidableEq, Repr

structure JsonError where
  kind : JsonErrorKind
  byteOffset : Nat
deriving DecidableEq, Repr

/-- `Parser`: what is left of the input, and how many bytes came before. -/
structure Parser where
  remaining : List Char
  offset : Nat
deriving DecidableEq, Repr

namespace Parser

/-- `Err(self.error(kind))`. -/
def fail {α : Type} (p : Parser) (kind : JsonErrorKind) : Except JsonError (α × Parser) :=
  .error ⟨kind, p.offset⟩

/-- `peek`. -/
def peek (p : Parser) : Option Char := p.remaining.head?

/-- `next`. -/
def next (p : Parser) : Option Char × Parser :=
  match p.remaining with
  | [] => (none, p)
  | c :: rest => (some c, ⟨rest, p.offset + c.utf8Size⟩)

end Parser

/-- `' ' | '\n' | '\r' | '\t'`. -/
def isWhitespace (c : Char) : Bool := c = ' ' || c = '\n' || c = '\r' || c = '\t'

/-- `'0'..='9'`. -/
def isDigit (c : Char) : Bool := '0' ≤ c && c ≤ '9'

/-- The loop that takes characters while they satisfy `p`. -/
def skipWhile (p : Char → Bool) : List Char → Nat → Parser
  | [], offset => ⟨[], offset⟩
  | c :: rest, offset =>
    if p c = true then skipWhile p rest (offset + c.utf8Size) else ⟨c :: rest, offset⟩

namespace Parser

/-- `skip_whitespace`. -/
def skipWhitespace (p : Parser) : Parser := skipWhile isWhitespace p.remaining p.offset

/-- `parse_literal`. -/
def parseLiteral (p : Parser) (literal : String) (value : JsonValue) :
    Except JsonError (JsonValue × Parser) :=
  if literal.toList.isPrefixOf p.remaining = true then
    .ok (value, ⟨p.remaining.drop literal.toList.length, p.offset + literal.utf8ByteSize⟩)
  else p.fail .unexpectedToken

/-! ## Numbers -/

/-- An integer of `i64`. -/
def toI64 (n : Int) : Option Int64 :=
  if -2 ^ 63 ≤ n ∧ n < 2 ^ 63 then some (Int64.ofInt n) else none

/-- `parse::<i64>` of an optional minus and digits. -/
def parseI64 (text : List Char) : Option Int64 :=
  match text with
  | '-' :: digits => toI64 (-(Nat.ofDigitChars 10 digits 0 : Nat))
  | digits => toI64 (Nat.ofDigitChars 10 digits 0 : Nat)

/-- The end of `parse_integer`: `start` is where the number begins, `p` where it ends. -/
def finishInteger (start p : Parser) : Except JsonError (JsonValue × Parser) :=
  if p.peek = some '.' ∨ p.peek = some 'e' ∨ p.peek = some 'E' then p.fail .nonIntegralNumber
  else
    match parseI64 (start.remaining.take (start.remaining.length - p.remaining.length)) with
    | some n => .ok (.integer n, p)
    | none => p.fail .numberOutOfRange

/-- `parse_integer`. -/
def parseInteger (p : Parser) : Except JsonError (JsonValue × Parser) :=
  let q := if p.peek = some '-' then p.next.2 else p
  match q.peek with
  | some '0' =>
    let q := q.next.2
    if q.peek.any isDigit = true then q.fail .invalidNumber else finishInteger p q
  | some c =>
    if isDigit c = true then finishInteger p (skipWhile isDigit q.remaining q.offset)
    else q.fail .invalidNumber
  | none => q.fail .invalidNumber

/-! ## Strings -/

/-- `to_digit(16)`. -/
def toDigit16 (c : Char) : Option Nat :=
  if isDigit c = true then some (c.toNat - 48)
  else if 'a' ≤ c ∧ c ≤ 'f' then some (c.toNat - 87)
  else if 'A' ≤ c ∧ c ≤ 'F' then some (c.toNat - 55)
  else none

/-- The loop of `parse_hex_quad`, for as many digits as are still to come. -/
def parseHexDigits : Nat → Nat → Parser → Except JsonError (Nat × Parser)
  | 0, value, p => .ok (value, p)
  | n + 1, value, p =>
    match p.next.1.bind toDigit16 with
    | some digit => parseHexDigits n (value * 16 + digit) p.next.2
    | none => p.next.2.fail .invalidUnicode

/-- `parse_hex_quad`. -/
def parseHexQuad (p : Parser) : Except JsonError (Nat × Parser) := parseHexDigits 4 0 p

/-- `char::from_u32`. -/
def fromU32 (n : Nat) : Option Char := if n.isValidChar then some (Char.ofNat n) else none

/-- `(0xd800..=0xdbff).contains`. -/
def isHighSurrogate (n : Nat) : Bool := 0xd800 ≤ n && n ≤ 0xdbff

/-- `(0xdc00..=0xdfff).contains`. -/
def isLowSurrogate (n : Nat) : Bool := 0xdc00 ≤ n && n ≤ 0xdfff

/-- The scalar of a surrogate pair. -/
def surrogatePair (first second : Nat) : Nat :=
  0x10000 + (first - 0xd800) * 2 ^ 10 + (second - 0xdc00)

/-- The character of a scalar, or `InvalidUnicode`. -/
def pushScalar (scalar : Nat) (p : Parser) : Except JsonError (Char × Parser) :=
  match fromU32 scalar with
  | some c => .ok (c, p)
  | none => p.fail .invalidUnicode

/-- `parse_escape` after `\u`. -/
def parseUnicode (p : Parser) : Except JsonError (Char × Parser) := do
  let (first, p) ← parseHexQuad p
  if isHighSurrogate first = true then
    let q := p.next.2
    if p.next.1 ≠ some '\\' then q.fail .invalidUnicode
    else if q.next.1 ≠ some 'u' then q.next.2.fail .invalidUnicode
    else do
      let (second, p) ← parseHexQuad q.next.2
      if isLowSurrogate second = true then pushScalar (surrogatePair first second) p
      else p.fail .invalidUnicode
  else if isLowSurrogate first = true then p.fail .invalidUnicode
  else pushScalar first p

/-- The escapes of one letter. -/
def shortEscape : Char → Option Char
  | '"' => some '"'
  | '\\' => some '\\'
  | '/' => some '/'
  | 'b' => some '\x08'
  | 'f' => some '\x0c'
  | 'n' => some '\n'
  | 'r' => some '\r'
  | 't' => some '\t'
  | _ => none

/-- `parse_escape`: the character that it pushes. -/
def parseEscape (p : Parser) : Except JsonError (Char × Parser) :=
  match p.next with
  | (some 'u', q) => parseUnicode q
  | (some c, q) =>
    match shortEscape c with
    | some d => .ok (d, q)
    | none => q.fail .invalidEscape
  | (none, q) => q.fail .unexpectedEnd

/-- The loop of `parse_string`. -/
def parseChars : Nat → Parser → List Char → Except JsonError (List Char × Parser)
  | 0, p, _ => p.fail .unexpectedEnd
  | fuel + 1, p, output =>
    match p.next with
    | (none, q) => q.fail .unexpectedEnd
    | (some c, q) =>
      if c = '"' then .ok (output, q)
      else if c = '\\' then do
        let (d, q) ← parseEscape q
        parseChars fuel q (output ++ [d])
      else if c.toNat ≤ 0x1f then q.fail .unescapedControl
      else parseChars fuel q (output ++ [c])

/-- `parse_string`. -/
def parseString (p : Parser) : Except JsonError (String × Parser) :=
  if p.next.1 ≠ some '"' then p.next.2.fail .unexpectedToken
  else do
    let (output, p) ← parseChars p.remaining.length p.next.2 []
    return (String.ofList output, p)

/-! ## Values -/

mutual

/-- `parse_value`. -/
def parseValue : Nat → Parser → Except JsonError (JsonValue × Parser)
  | 0, p => p.fail .unexpectedEnd
  | fuel + 1, p =>
    match p.peek with
    | some 'n' => p.parseLiteral "null" .null
    | some 't' => p.parseLiteral "true" (.bool true)
    | some 'f' => p.parseLiteral "false" (.bool false)
    | some '"' => do
      let (s, p) ← parseString p
      return (.string s, p)
    | some '[' =>
      -- `parse_array`
      let p := p.next.2.skipWhitespace
      if p.peek = some ']' then .ok (.array [], p.next.2) else parseItems fuel p []
    | some '{' =>
      -- `parse_object`
      let p := p.next.2.skipWhitespace
      if p.peek = some '}' then .ok (.object [], p.next.2) else parseEntries fuel p []
    | some c =>
      if c = '-' ∨ isDigit c = true then parseInteger p else p.fail .unexpectedToken
    | none => p.fail .unexpectedEnd

/-- The loop of `parse_array`. -/
def parseItems : Nat → Parser → List JsonValue → Except JsonError (JsonValue × Parser)
  | 0, p, _ => p.fail .unexpectedEnd
  | fuel + 1, p, values => do
    let (value, p) ← parseValue fuel p.skipWhitespace
    match p.skipWhitespace.next with
    | (some ',', p) => parseItems fuel p.skipWhitespace (values ++ [value])
    | (some ']', p) => .ok (.array (values ++ [value]), p)
    | (some _, p) => p.fail .unexpectedToken
    | (none, p) => p.fail .unexpectedEnd

/-- The loop of `parse_object`. -/
def parseEntries :
    Nat → Parser → List (String × JsonValue) → Except JsonError (JsonValue × Parser)
  | 0, p, _ => p.fail .unexpectedEnd
  | fuel + 1, p, entries => do
    let p := p.skipWhitespace
    if p.peek ≠ some '"' then p.fail .unexpectedToken
    else do
      let (key, p) ← parseString p
      if key ∈ entries.map Prod.fst then p.fail (.duplicateKey key)
      else do
        let (colon, p) := p.skipWhitespace.next
        if colon ≠ some ':' then p.fail .unexpectedToken
        else do
          let (value, p) ← parseValue fuel p.skipWhitespace
          match p.skipWhitespace.next with
          | (some ',', p) => parseEntries fuel p.skipWhitespace (entries ++ [(key, value)])
          | (some '}', p) => .ok (.object (entries ++ [(key, value)]), p)
          | (some _, p) => p.fail .unexpectedToken
          | (none, p) => p.fail .unexpectedEnd

end

end Parser

/-- `parse_json`. -/
def parseJson (input : String) : Except JsonError JsonValue := do
  let start : Parser := ⟨input.toList, 0⟩
  let (value, p) ← start.skipWhitespace.parseValue (2 * input.toList.length + 1)
  if p.skipWhitespace.remaining ≠ [] then .error ⟨.trailingData, p.skipWhitespace.offset⟩
  else .ok value

end Vibapp.Protocol
