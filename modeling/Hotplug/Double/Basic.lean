/-!
# Doubles in exact arithmetic

A double is a sign, a whole mantissa below `2 ^ 53` and an exponent, or an infinity, or not a
number. Every operation computes its exact result as a ratio of whole numbers and rounds once, to
the nearest double and to the even one of two.

## Main definitions

* `Double` — the values.
* `Double.ofRatio` — the double nearest to a ratio; every operation ends in it.
* `Double.add`, `Double.mul`, `Double.div`, `Double.pow` — arithmetic.
* `Double.ceil?` — the least whole number not below a value.
* `Double.ofDecimal` — the double nearest to a decimal number.
-/

namespace Hotplug

/-- A double. A finite one has the value `± mantissa * 2 ^ exponent`; its exponent is the least one
with a mantissa below `2 ^ 53`, and never below -1074. -/
inductive Double where
  /-- No number. -/
  | nan
  /-- Larger in size than every finite double. -/
  | infinite (negative : Bool)
  /-- A number. -/
  | finite (negative : Bool) (mantissa : Nat) (exponent : Int)
  deriving DecidableEq, Repr, Inhabited

namespace Double

/-- The least exponent of a finite double. -/
def minExponent : Int := -1074

/-- The largest exponent of a finite double. -/
def maxExponent : Int := 971

/-- `2 ^ 52`, the least mantissa above the lowest exponent. -/
def leastNormal : Nat := 4503599627370496

/-- A zero with a sign. -/
def zero (negative : Bool) : Double :=
  .finite negative 0 minExponent

/-- The whole number nearest to `num / den`; of two the even one. -/
def roundDiv (num den : Nat) : Nat :=
  let q := num / den
  let r := num % den
  if 2 * r < den then q
  else if den < 2 * r then q + 1
  else if q % 2 = 0 then q
  else q + 1

/-- The `num` and `den` of `num / den * 2 ^ (-shift)`. -/
def shifted (num den : Nat) (shift : Int) : Nat × Nat :=
  if 0 ≤ shift then (num, den * Nat.pow 2 shift.toNat)
  else (num * Nat.pow 2 (-shift).toNat, den)

/-- The exponent `k` with `2 ^ k ≤ num / den < 2 ^ (k + 1)`, for positive `num` and `den`. -/
def binaryOrder (num den : Nat) : Int :=
  let guess : Int := (Nat.log2 num : Int) - (Nat.log2 den : Int)
  let (n, d) := shifted num den guess
  if d ≤ n then guess else guess - 1

/-- The double nearest to `± num / den`, for a positive `den`. -/
def ofRatio (negative : Bool) (num den : Nat) : Double :=
  if num = 0 then zero negative
  else
    let exponent := max (binaryOrder num den - 52) minExponent
    let (n, d) := shifted num den exponent
    let mantissa := roundDiv n d
    let (mantissa, exponent) :=
      if mantissa = 2 * leastNormal then (leastNormal, exponent + 1) else (mantissa, exponent)
    if maxExponent < exponent then .infinite negative
    else .finite negative mantissa exponent

/-- The double nearest to `± mantissa * 2 ^ exponent`. -/
def ofDyadic (negative : Bool) (mantissa : Nat) (exponent : Int) : Double :=
  let (num, den) := shifted mantissa 1 (-exponent)
  ofRatio negative num den

/-- The double nearest to a whole number. -/
def ofNat (n : Nat) : Double :=
  ofRatio false n 1

/-- The double nearest to a whole number. -/
def ofInt (n : Int) : Double :=
  ofRatio (decide (n < 0)) n.natAbs 1

/-- The double nearest to `± digits * 10 ^ exponent`. A number far outside the range of doubles is
recognised by its exponent alone. -/
def ofDecimal (negative : Bool) (digits : Nat) (exponent : Int) : Double :=
  if digits = 0 then zero negative
  else if 400 < exponent then .infinite negative
  else if exponent < -(400 + (Nat.log2 digits : Int)) then zero negative
  else if 0 ≤ exponent then ofRatio negative (digits * Nat.pow 10 exponent.toNat) 1
  else ofRatio negative digits (Nat.pow 10 (-exponent).toNat)

/-- The value with the other sign. -/
def neg : Double → Double
  | nan => nan
  | infinite s => infinite !s
  | finite s m e => finite (!s) m e

/-- The product. -/
def mul : Double → Double → Double
  | nan, _ => nan
  | _, nan => nan
  | infinite s, infinite t => infinite (s != t)
  | infinite s, finite t m _ => if m = 0 then nan else infinite (s != t)
  | finite s m _, infinite t => if m = 0 then nan else infinite (s != t)
  | finite s m e, finite t n f => ofDyadic (s != t) (m * n) (e + f)

/-- The quotient. -/
def div : Double → Double → Double
  | nan, _ => nan
  | _, nan => nan
  | infinite _, infinite _ => nan
  | infinite s, finite t _ _ => infinite (s != t)
  | finite s _ _, infinite t => zero (s != t)
  | finite s m e, finite t n f =>
    if n = 0 then (if m = 0 then nan else infinite (s != t))
    else
      let (num, den) := shifted m n (f - e)
      ofRatio (s != t) num den

/-- The mantissa with its sign, at the lower exponent `base`. -/
def signedAt (base : Int) (s : Bool) (m : Nat) (e : Int) : Int :=
  let size : Int := (m * Nat.pow 2 (e - base).toNat : Nat)
  if s then -size else size

/-- The sum. Opposite values add to the positive zero. -/
def add : Double → Double → Double
  | nan, _ => nan
  | _, nan => nan
  | infinite s, infinite t => if s = t then infinite s else nan
  | infinite s, finite _ _ _ => infinite s
  | finite _ _ _, infinite t => infinite t
  | finite s m e, finite t n f =>
    let base := min e f
    let total := signedAt base s m e + signedAt base t n f
    if total = 0 then zero (s && t) else ofDyadic (decide (total < 0)) total.natAbs base

/-- The order of doubles; no number is in no order. -/
def le : Double → Double → Bool
  | nan, _ => false
  | _, nan => false
  | infinite true, _ => true
  | _, infinite false => true
  | infinite false, _ => false
  | _, infinite true => false
  | finite s m e, finite t n f =>
    let base := min e f
    decide (signedAt base s m e ≤ signedAt base t n f)

/-- Whether the value is a zero of either sign. -/
def isZero : Double → Bool
  | finite _ m _ => m == 0
  | _ => false

/-- `acc * base ^ n`, by squaring the base and halving `n`. -/
def powAcc (acc base : Double) (n : Nat) : Double :=
  let acc := if n % 2 = 1 then acc.mul base else acc
  if n / 2 = 0 then acc else powAcc acc (base.mul base) (n / 2)
termination_by n
decreasing_by omega

/-- A power by squaring, each product rounded; a negative power is the reciprocal of the positive
one. -/
def pow (base : Double) (n : Int) : Double :=
  let size := powAcc (ofNat 1) base n.natAbs
  if n < 0 then (ofNat 1).div size else size

/-- The least whole number not below the value. -/
def ceil? : Double → Option Int
  | nan => none
  | infinite _ => none
  | finite s m e =>
    if 0 ≤ e then
      let size : Int := (m * Nat.pow 2 e.toNat : Nat)
      some (if s then -size else size)
    else
      let unit := Nat.pow 2 (-e).toNat
      some (if s then -((m / unit : Nat) : Int) else ((m + unit - 1) / unit : Nat))

end Double

end Hotplug
