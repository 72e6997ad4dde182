import Hotplug.Double.Text
import Hotplug.Text.Blank
import Hotplug.Width

/-!
# Resource quantities

A size is written as a decimal number with a suffix: a binary or decimal unit, thousandths, or a
power of ten. Whole numbers are scaled exactly; others are scaled as doubles and rounded up.

## Main definitions

* `Scale`, `Scale.toDouble` — what a suffix multiplies by.
* `Scale.ofSuffix?` — the reading of a suffix.
* `Quantity.parse?` — the number of bytes a quantity stands for.
-/

namespace Hotplug

open Width

/-- What the suffix of a quantity multiplies by. -/
inductive Scale where
  /-- `1024 ^ n`. -/
  | binary (n : Nat)
  /-- `10 ^ n`, as a unit. -/
  | decimal (n : Nat)
  /-- One thousandth. -/
  | milli
  /-- `10 ^ n`, as an exponent. -/
  | power (n : Int)
  deriving DecidableEq, Repr, Inhabited

namespace Scale

/-- The suffixes that are units. -/
def units : List (String × Scale) :=
  [("", .decimal 0), ("m", .milli),
    ("Ki", .binary 1), ("Mi", .binary 2), ("Gi", .binary 3), ("Ti", .binary 4), ("Pi", .binary 5),
    ("Ei", .binary 6),
    ("k", .decimal 3), ("M", .decimal 6), ("G", .decimal 9), ("T", .decimal 12),
    ("P", .decimal 15), ("E", .decimal 18)]

/-- Reads an exponent: `e` or `E` and a signed 32-bit number. -/
def ofExponent? : List Char → Option Scale
  | c :: rest =>
    if c = 'e' || c = 'E' then
      match Digits.readInt? rest with
      | some n => if inInt32 n then some (.power n) else none
      | none => none
    else none
  | [] => none

/-- Reads a suffix: a unit, or else an exponent. -/
def ofSuffix? (suffix : List Char) : Option Scale :=
  match units.find? (fun u => u.1.toList == suffix) with
  | some (_, scale) => some scale
  | none => ofExponent? suffix

/-- The scale as a double: a power of ten comes from repeated squaring. -/
def toDouble : Scale → Double
  | binary n => (Double.ofNat 1024).pow n
  | decimal n => Double.ofDecimal false 1 n
  | milli => Double.ofDecimal false 1 (-3)
  | power n => (Double.ofNat 10).pow n

end Scale

namespace Quantity

/-- The whole number of a double, cut off at the largest signed 64-bit number. -/
def wholeFactor (d : Double) : Int :=
  match d with
  | .nan => 0
  | .infinite negative => if negative then minInt64 else maxInt64
  | .finite _ _ _ => min ((Double.ceil? d).getD 0) maxInt64

/-- Scales a whole number exactly, where the product is a signed 64-bit number. -/
def scaleWhole? (n : Int) (factor : Double) : Option Int :=
  let product := n * wholeFactor factor
  if inInt64 product then some product else none

/-- Scales a number as a double and rounds up; `2 ^ 63` itself counts as the largest number. -/
def scaleDouble? (d factor : Double) : Option Int :=
  match (d.mul factor).ceil? with
  | none => none
  | some n => if 0 ≤ n && n ≤ maxInt64 + 1 then some (min n maxInt64) else none

/-- The characters before the first ASCII letter, and the rest. -/
def cutSuffix (cs : List Char) : List Char × List Char :=
  (cs.takeWhile (fun c => !c.isAlpha), cs.dropWhile (fun c => !c.isAlpha))

/-- The number of bytes a quantity stands for, rounded up; nothing when it is no quantity, is
negative after rounding, or does not fit. A whole number with a scale of at least one is scaled
exactly, and may then be negative. -/
def parse? (text : String) : Option Int :=
  let (number, suffix) := cutSuffix (Text.trimChars text.toList)
  match Scale.ofSuffix? suffix with
  | none => none
  | some scale =>
    let factor := scale.toDouble
    let whole := (Digits.readInt? number).filter inInt64
    match whole, (Double.ofNat 1).le factor with
    | some n, true => scaleWhole? n factor
    | _, _ =>
      match Double.read? number with
      | some d => scaleDouble? d factor
      | none => none

end Quantity

end Hotplug
