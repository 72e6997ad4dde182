import Hotplug.Digits
import Hotplug.Double.Basic

/-!
# Doubles as text

A double is written with the fewest digits that read back as it, in positional notation, and read
from decimal notation to the nearest double.

## Main definitions

* `Double.shortest` — the fewest digits that read back, and the place of the point.
* `Double.text` — the written form.
* `Double.read?` — the reading of a number with optional sign, point and exponent.
-/

namespace Hotplug.Double

/-- Four times the bounds of the numbers that round to `mantissa`, as multiples of a quarter of
its unit. The lower half-gap is half as wide where the mantissa is the least of its exponent. -/
def quarterBounds (mantissa : Nat) (exponent : Int) : Nat × Nat :=
  let low :=
    if mantissa = leastNormal && minExponent < exponent then 4 * mantissa - 1 else 4 * mantissa - 2
  (low, 4 * mantissa + 2)

/-- `num / den * 10 ^ (-place)` as a ratio. -/
def scaledTen (num den : Nat) (place : Int) : Nat × Nat :=
  if 0 ≤ place then (num, den * Nat.pow 10 place.toNat)
  else (num * Nat.pow 10 (-place).toNat, den)

/-- The multiple of `10 ^ place` next to the value that still rounds to it, if any: the nearer one,
and of two equally near the upper one. The bounds are in units of `2 ^ (exponent - 2)`. -/
def gridHit? (mantissa : Nat) (exponent place : Int) : Option Nat :=
  let m := mantissa
  let (low, high) := quarterBounds m exponent
  let (num, den) := shifted m 1 (-exponent)
  let (n, d) := scaledTen num den place
  let below := n / d
  let inside (k : Nat) : Bool :=
    let (a, b) := scaledTen k 1 (-place)
    let (x, y) := shifted a b (exponent - 2)
    if m % 2 = 0 then decide (low * y ≤ x) && decide (x ≤ high * y)
    else decide (low * y < x) && decide (x < high * y)
  let r := n % d
  match inside below, inside (below + 1) with
  | true, true => some (if 2 * r < d then below else below + 1)
  | true, false => some below
  | false, true => some (below + 1)
  | false, false => none

/-- The exponent `k` with `10 ^ (k - 1) ≤ num / den < 10 ^ k`, searched upward from `k`. -/
def decimalOrder (num den : Nat) : Nat → Int → Int
  | 0, k => k
  | fuel + 1, k =>
    let (n, d) := scaledTen num den k
    if n < d then k else decimalOrder num den fuel (k + 1)

/-- Tries one digit, then two, and so on. -/
def shortestFrom (mantissa : Nat) (exponent : Int) : Nat → Int → Nat × Int
  | 0, _ => (mantissa, 0)
  | fuel + 1, place =>
    match gridHit? mantissa exponent place with
    | some digits => (digits, place)
    | none => shortestFrom mantissa exponent fuel (place - 1)

/-- The digits and the place of the last one, for the fewest digits that read back as
`mantissa * 2 ^ exponent`. -/
def shortest (mantissa : Nat) (exponent : Int) : Nat × Int :=
  let (num, den) := shifted mantissa 1 (-exponent)
  let estimate : Int := (binaryOrder num den * 30103) / 100000
  let order := decimalOrder num den 4 estimate
  shortestFrom mantissa exponent 18 (order - 1)

/-- Zeros at the end of `digits` move into the place. -/
def dropZeros : Nat → Nat → Int → Nat × Int
  | 0, digits, place => (digits, place)
  | fuel + 1, digits, place =>
    if digits % 10 = 0 && digits != 0 then dropZeros fuel (digits / 10) (place + 1)
    else (digits, place)

/-- Digits in positional notation, with the point `-place` digits from the end. -/
def positional (digits : Nat) (place : Int) : List Char :=
  let ds := Digits.ofNat digits
  if 0 ≤ place then ds ++ List.replicate place.toNat '0'
  else
    let width := (-place).toNat
    if width < ds.length then
      ds.take (ds.length - width) ++ '.' :: ds.drop (ds.length - width)
    else '0' :: '.' :: (List.replicate (width - ds.length) '0' ++ ds)

/-- The written form: the fewest digits that read back, never with an exponent. -/
def text : Double → String
  | nan => "NaN"
  | infinite s => if s then "-inf" else "inf"
  | finite s m e =>
    let body :=
      if m = 0 then ['0']
      else
        let (digits, place) := shortest m e
        let (digits, place) := dropZeros 20 digits place
        positional digits place
    String.ofList (if s then '-' :: body else body)

/-- Reads digits with an optional point; one digit at least is on some side of it. -/
def readPoint? (cs : List Char) : Option (Nat × Int) :=
  let whole := cs.takeWhile Char.isDigit
  match cs.dropWhile Char.isDigit with
  | [] => if whole.isEmpty then none else some (Digits.value whole, 0)
  | '.' :: part =>
    if part.all Char.isDigit && !(whole.isEmpty && part.isEmpty) then
      some (Digits.value (whole ++ part), -(part.length : Int))
    else none
  | _ => none

/-- Splits before the exponent mark, if there is one. -/
def cutExponent (cs : List Char) : List Char × Option (List Char) :=
  match cs.dropWhile (fun c => c != 'e' && c != 'E') with
  | [] => (cs, none)
  | _ :: rest => (cs.takeWhile (fun c => c != 'e' && c != 'E'), some rest)

/-- Reads a number: an optional sign, digits with an optional point, an optional exponent. The
words for infinity and for no number are read in any case. -/
def read? (cs : List Char) : Option Double :=
  let (s, body) := Digits.takeSign cs
  let word := String.ofList (body.map Char.toLower)
  if word == "inf" || word == "infinity" then some (.infinite s)
  else if word == "nan" then some .nan
  else
    match cutExponent body with
    | (number, none) => (readPoint? number).map fun (d, p) => ofDecimal s d p
    | (number, some exponent) => do
      let (d, p) ← readPoint? number
      let e ← Digits.readInt? exponent
      return ofDecimal s d (p + e)

end Hotplug.Double
