import Hotplug.Digits
import Hotplug.Text.Cut
import Hotplug.Text.Utf8

/-!
# Locations on a server

A request goes to a path with a query of names and values. A location is put together from names
as they are, so a name may hold a `?`, which starts the query, or a `#`, after which nothing is
sent; a name with a character that no location holds makes no request.

## Main definitions

* `Location` — a path and a query.
* `Location.Error` — why a text is no location.
* `Location.ofText` — the location of a text.
* `Location.encode`, `Location.decode` — the writing of names and values in a query.
-/

namespace Hotplug

/-- Where a request goes. -/
structure Location where
  path : String
  /-- The names and values of the query, in order. -/
  query : List (String × String)
  deriving DecidableEq, Repr, Inhabited

namespace Location

/-- Why a text is no location. -/
inductive Error where
  /-- It has a character that locations do not hold. -/
  | character
  /-- It is longer than locations are. -/
  | length
  deriving DecidableEq, Repr, Inhabited

/-- The message of an error. -/
def Error.message : Error → String
  | character => "invalid uri character"
  | length => "uri too long"

/-! ### Names and values in a query -/

/-- Whether a character stands for itself in a query. -/
def isPlain (c : Char) : Bool :=
  c.isAlphanum || c == '*' || c == '-' || c == '.' || c == '_'

/-- A hexadecimal digit. -/
def hexDigit (n : Nat) : Char :=
  Char.ofNat (if n < 10 then '0'.toNat + n else 'A'.toNat + (n - 10))

/-- Writes one byte: plain characters as they are, a space as `+`, and all else as `%` and two
hexadecimal digits. -/
def encodeByte (b : UInt8) : List Char :=
  let c := Char.ofNat b.toNat
  if b < 0x80 && isPlain c then [c]
  else if b = 0x20 then ['+']
  else ['%', hexDigit (b.toNat / 16), hexDigit (b.toNat % 16)]

/-- Writes a name or a value. -/
def encode (text : String) : String :=
  String.ofList (text.toUTF8.toList.flatMap encodeByte)

/-- The value of a byte that is a hexadecimal digit. -/
def hexValue? (b : UInt8) : Option Nat :=
  if b < 0x80 then Digits.hexValue? (Char.ofNat b.toNat) else none

/-- Reads bytes written in a query; a `%` without two digits after it stands for itself. -/
def decodeBytes : List UInt8 → List UInt8
  | [] => []
  | b :: rest =>
    if b = 0x2b then 0x20 :: decodeBytes rest
    else if b = 0x25 then
      match rest with
      | high :: low :: rest' =>
        match hexValue? high, hexValue? low with
        | some x, some y => (x * 16 + y).toUInt8 :: decodeBytes rest'
        | _, _ => b :: decodeBytes (high :: low :: rest')
      | rest => b :: decodeBytes rest
    else b :: decodeBytes rest

/-- Reads a name or a value. -/
def decode (text : String) : String :=
  Text.decodeLossy (decodeBytes text.toUTF8.toList)

/-- Reads one name and its value, which is empty where there is no `=`. -/
def decodePair (text : String) : String × String :=
  match Text.cut? '=' text with
  | some (name, value) => (decode name, decode value)
  | none => (decode text, "")

/-- Reads a query: pairs between `&`, of which empty ones do not count. -/
def decodeQuery (text : String) : List (String × String) :=
  ((Text.split '&' text).filter fun part => !part.isEmpty).map decodePair

/-! ### Whole locations -/

/-- The most bytes of a location. -/
def maxLength : Nat := 65534

/-- Whether a character may stand in a path. -/
def isPathChar (c : Char) : Bool :=
  ' ' < c && c != '<' && c != '>' && c != '\x60' && c != '\x7f'

/-- Whether a character may stand in a query. -/
def isQueryChar (c : Char) : Bool :=
  ' ' < c && c != '<' && c != '>' && c != '"' && c != '\x7f'

/-- The location of a text. What follows a `#` does not count. -/
def ofText (text : String) : Except Error Location :=
  if maxLength < text.utf8ByteSize then .error .length
  else
    let sent := text.toList.takeWhile (· != '#')
    let path := sent.takeWhile (· != '?')
    let query := (sent.dropWhile (· != '?')).drop 1
    if path.all isPathChar && query.all isQueryChar then
      .ok ⟨String.ofList path, decodeQuery (String.ofList query)⟩
    else .error .character

/-- A name with a `?` goes into the query. -/
example : (ofText "/sc/a?b=c").toOption = some ⟨"/sc/a", [("b", "c")]⟩ := by decide +kernel

/-- A name with a space makes no request. -/
example : (ofText "/sc/a b").toOption = none := by decide +kernel

/-- What is written into a query is read back. -/
example : decode (encode "a=b,é ~%") = "a=b,é ~%" := by decide +kernel

end Location

end Hotplug
