import Hotplug.Digits
import Hotplug.Json.Basic
import Hotplug.Width

/-!
# The tokens of JSON text

JSON text is cut into tokens before it is read. A number is evaluated here: whole numbers exactly,
others from their first digits, as many as fit in 64 bits, and one rounded power of ten.

## Main definitions

* `Json.Token` — punctuation and scalars.
* `Json.numberValue` — the value of a number from its parts.
* `Json.tokens?` — the tokens of a text.
-/

namespace Hotplug.Json

/-- A token. -/
inductive Token where
  | openBrace | closeBrace | openBracket | closeBracket | comma | colon
  /-- A scalar other than text. -/
  | scalar (value : Json)
  /-- A text; nothing when it holds half of a surrogate pair. -/
  | text (value : Option String)
  deriving Repr, Inhabited

/-- Takes digits onto a whole number while it stays below `2 ^ 64`; also how many were taken. -/
def takeWord (acc : Nat) : List Char → Nat × Nat
  | [] => (acc, 0)
  | c :: rest =>
    let next := acc * 10 + Digits.digitValue c
    if next < Width.values64 then
      let (value, count) := takeWord next rest
      (value, count + 1)
    else (acc, 0)

/-- `d * 10 ^ exponent` by one rounded power of ten, or several where the exponent is very low;
nothing when it is past all doubles. -/
def scaleTen : Nat → Double → Int → Option Double
  | 0, d, _ => some d
  | fuel + 1, d, exponent =>
    if 308 < exponent then (if d.isZero then some d else none)
    else if 0 ≤ exponent then
      match d.mul (Double.ofDecimal false 1 exponent) with
      | .infinite _ => none
      | product => some product
    else if -308 ≤ exponent then some (d.div (Double.ofDecimal false 1 (-exponent)))
    else if d.isZero then some d
    else scaleTen fuel (d.div (Double.ofDecimal false 1 308)) (exponent + 308)

/-- The double with a 64-bit significand and a power of ten. -/
def ofParts (negative : Bool) (significand : Nat) (exponent : Int) : Json :=
  match scaleTen 4 (Double.ofNat significand) exponent with
  | none => unreadable
  | some d => double (if negative then d.neg else d)

/-- The double of a significand, a power of ten and a written exponent. An exponent past 32 bits
makes zero, or a number past all doubles. -/
def withExponent (negative : Bool) (significand : Nat) (place : Int) (exponent : Int) : Json :=
  if -Width.maxInt32 ≤ exponent && exponent ≤ Width.maxInt32 then
    ofParts negative significand (place + exponent)
  else if significand ≠ 0 && 0 < exponent then unreadable
  else double (Double.zero negative)

/-- The value of a number from its sign, its digits before and after the point, and its
exponent. -/
def numberValue (negative : Bool) (whole : List Char) (part : Option (List Char))
    (exponent : Option Int) : Json :=
  let (significand, count) := takeWord 0 whole
  let dropped := whole.length - count
  match part, exponent with
  | none, none =>
    if dropped ≠ 0 then ofParts negative significand dropped
    else if !negative then int significand
    else if significand = 0 || -(significand : Int) < Width.minInt64 then
      double (Double.ofNat significand).neg
    else int (-(significand : Int))
  | none, some e => withExponent negative significand dropped e
  | some digits, e =>
    let (significand, taken) := takeWord significand digits
    let place : Int := (dropped : Int) - (taken : Int)
    match e with
    | none => ofParts negative significand place
    | some e => withExponent negative significand place e

/-- Reads the exponent of a number: a mark, an optional sign and digits. The outer `none` means
that the mark is followed by no exponent. -/
def takeExponent? : List Char → Option (Option Int × List Char)
  | c :: rest =>
    if c = 'e' || c = 'E' then
      let (negative, body) := Digits.takeSign rest
      let digits := body.takeWhile Char.isDigit
      if digits.isEmpty then none
      else
        let size : Int := (Digits.value digits : Nat)
        some (some (if negative then -size else size), body.dropWhile Char.isDigit)
    else some (none, c :: rest)
  | [] => some (none, [])

/-- Reads the digits after a point. The outer `none` means that no digit follows the point. -/
def takePart? : List Char → Option (Option (List Char) × List Char)
  | '.' :: rest =>
    let digits := rest.takeWhile Char.isDigit
    if digits.isEmpty then none else some (some digits, rest.dropWhile Char.isDigit)
  | cs => some (none, cs)

/-- Reads the digits before a point: a zero alone, or digits that start with no zero. -/
def takeWhole? : List Char → Option (List Char × List Char)
  | '0' :: rest => some (['0'], rest)
  | cs =>
    let digits := cs.takeWhile Char.isDigit
    if digits.isEmpty then none else some (digits, cs.dropWhile Char.isDigit)

/-- Reads a number. -/
def takeNumber? (cs : List Char) : Option (Json × List Char) := do
  let (negative, body) : Bool × List Char :=
    match cs with
    | '-' :: rest => (true, rest)
    | _ => (false, cs)
  let (whole, rest) ← takeWhole? body
  let (part, rest) ← takePart? rest
  let (exponent, rest) ← takeExponent? rest
  return (numberValue negative whole part exponent, rest)

/-- The number of four hexadecimal digits. -/
def hexQuad? (a b c d : Char) : Option Nat := do
  let a ← Digits.hexValue? a
  let b ← Digits.hexValue? b
  let c ← Digits.hexValue? c
  let d ← Digits.hexValue? d
  return ((a * 16 + b) * 16 + c) * 16 + d

/-- The character of a short escape. -/
def shortEscape? (c : Char) : Option Char :=
  if c = '"' || c = '\\' || c = '/' then some c
  else if c = 'b' then some '\x08'
  else if c = 'f' then some '\x0c'
  else if c = 'n' then some '\n'
  else if c = 'r' then some '\r'
  else if c = 't' then some '\t'
  else none

/-- One unit of a text: a character, or a 16-bit unit written in hexadecimal. -/
inductive TextUnit where
  | char (c : Char)
  | word (n : Nat)
  deriving DecidableEq, Repr

/-- Reads the units of a text up to the closing quote. -/
def takeUnits? : List Char → Option (List TextUnit × List Char)
  | [] => none
  | '"' :: rest => some ([], rest)
  | '\\' :: 'u' :: a :: b :: c :: d :: rest => do
    let n ← hexQuad? a b c d
    let (units, rest) ← takeUnits? rest
    return (.word n :: units, rest)
  | '\\' :: c :: rest => do
    let e ← shortEscape? c
    let (units, rest) ← takeUnits? rest
    return (.char e :: units, rest)
  | c :: rest =>
    if c.toNat < 0x20 || c = '\\' then none
    else do
      let (units, rest) ← takeUnits? rest
      return (.char c :: units, rest)

/-- The first half of a surrogate pair. -/
def isHighSurrogate (n : Nat) : Bool :=
  0xd800 ≤ n && n < 0xdc00

/-- The second half of a surrogate pair. -/
def isLowSurrogate (n : Nat) : Bool :=
  0xdc00 ≤ n && n < 0xe000

/-- The characters of some units; nothing when half of a surrogate pair stands alone. -/
def unitsValue? : List TextUnit → Option (List Char)
  | [] => some []
  | .char c :: rest => (unitsValue? rest).map (c :: ·)
  | .word n :: .word m :: rest =>
    if isHighSurrogate n then
      if isLowSurrogate m then
        (unitsValue? rest).map
          (Char.ofNat (0x10000 + (n - 0xd800) * 0x400 + (m - 0xdc00)) :: ·)
      else none
    else if isLowSurrogate n then none
    else (unitsValue? (.word m :: rest)).map (Char.ofNat n :: ·)
  | .word n :: rest =>
    if isHighSurrogate n || isLowSurrogate n then none
    else (unitsValue? rest).map (Char.ofNat n :: ·)

/-- The characters between tokens. -/
def isSpace (c : Char) : Bool :=
  c = ' ' || c = '\n' || c = '\t' || c = '\r'

/-- Reads one token that does not start with a space. -/
def takeToken? : List Char → Option (Token × List Char)
  | '{' :: rest => some (.openBrace, rest)
  | '}' :: rest => some (.closeBrace, rest)
  | '[' :: rest => some (.openBracket, rest)
  | ']' :: rest => some (.closeBracket, rest)
  | ',' :: rest => some (.comma, rest)
  | ':' :: rest => some (.colon, rest)
  | '"' :: rest =>
    (takeUnits? rest).map fun (units, rest) =>
      (.text ((unitsValue? units).map String.ofList), rest)
  | 't' :: 'r' :: 'u' :: 'e' :: rest => some (.scalar (bool true), rest)
  | 'f' :: 'a' :: 'l' :: 's' :: 'e' :: rest => some (.scalar (bool false), rest)
  | 'n' :: 'u' :: 'l' :: 'l' :: rest => some (.scalar null, rest)
  | cs => (takeNumber? cs).map fun (value, rest) => (.scalar value, rest)

/-- The tokens of a text, at most `fuel` of tokens and spaces. -/
def tokensFrom : Nat → List Char → Option (List Token)
  | _, [] => some []
  | 0, _ => none
  | fuel + 1, c :: rest =>
    if isSpace c then tokensFrom fuel rest
    else
      match takeToken? (c :: rest) with
      | none => none
      | some (token, rest) => (tokensFrom fuel rest).map (token :: ·)

/-- The tokens of a text. Every token and every space takes a character at least. -/
def tokens? (cs : List Char) : Option (List Token) :=
  tokensFrom cs.length cs

end Hotplug.Json
