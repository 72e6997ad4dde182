import Hotplug.Double.Basic
import Mathlib.Algebra.Order.Field.Power
import Mathlib.Data.Nat.Log
import Mathlib.Data.Rat.Floor
import Mathlib.Tactic.FieldSimp
import Mathlib.Tactic.Linarith
import Mathlib.Tactic.NormNum
import Mathlib.Tactic.Positivity
import Mathlib.Tactic.Ring

/-!
# Rounding to a double

Every operation on doubles ends in the rounding of a ratio of whole numbers. The ratio is shifted
by a power of two until its whole part has 53 bits, or to the least exponent, and the whole number
next to it becomes the mantissa. So a double is within half a unit of what was rounded, and the unit
is what the order of the ratio makes it.

## Main definitions

* `dyadic m e` — the value of a finite double without its sign.
* `unitExponent`, `unitMantissa` — what a ratio is rounded to, before it is known to fit.
* `Rounded q m e` — a finite mantissa and exponent within half a unit of `q`.
* `Nearest negative q d` — `d` is the double next to `q`, with a sign, or infinite where `q` is too
  large for any.

## Main results

* `binaryOrder_spec` — the order of a ratio is its power of two.
* `abs_roundDiv_sub_le` — the whole number nearest to a ratio is within a half of it.
* `ofRatio_nearest` — **a ratio is rounded to the double next to it.**
-/

namespace Hotplug.Double

/-- The value of a finite double without its sign. -/
def dyadic (m : Nat) (e : Int) : ℚ :=
  m * 2 ^ e

theorem dyadic_nonneg (m : Nat) (e : Int) : 0 ≤ dyadic m e := by
  unfold dyadic
  positivity

theorem two_zpow_pos (e : Int) : (0 : ℚ) < 2 ^ e :=
  zpow_pos (by norm_num) e

/-! ### Ratios -/

theorem shifted_pos (num : Nat) {den : Nat} (hden : 0 < den) (k : Int) :
    0 < (shifted num den k).2 := by
  unfold shifted
  split
  · exact Nat.mul_pos hden (Nat.pow_pos (by decide))
  · exact hden

/-- Shifting divides by a power of two. -/
theorem shifted_ratio (num den : Nat) (k : Int) :
    ((shifted num den k).1 : ℚ) / (shifted num den k).2 = num / den / 2 ^ k := by
  unfold shifted
  split
  · next hk =>
    lift k to Nat using hk
    simp only [Int.toNat_natCast, Nat.pow_eq, Nat.cast_mul, Nat.cast_pow, Nat.cast_ofNat,
      zpow_natCast]
    rw [div_div]
  · next hk =>
    obtain ⟨n, rfl⟩ : ∃ n : Nat, k = -n := ⟨(-k).toNat, by omega⟩
    simp only [neg_neg, Int.toNat_natCast, Nat.pow_eq, Nat.cast_mul, Nat.cast_pow, Nat.cast_ofNat,
      zpow_neg, zpow_natCast, div_inv_eq_mul]
    rw [div_mul_eq_mul_div]

/-- A shifted ratio is at least one where the ratio is at least the power of two. -/
theorem shifted_le_iff {num den : Nat} (hden : 0 < den) (k : Int) :
    (shifted num den k).2 ≤ (shifted num den k).1 ↔ (2 : ℚ) ^ k ≤ num / den := by
  have hpos : (0 : ℚ) < (shifted num den k).2 := by exact_mod_cast shifted_pos num hden k
  rw [← one_le_div₀ (two_zpow_pos k), ← shifted_ratio, one_le_div₀ hpos, Nat.cast_le]

/-- **The order of a ratio is its power of two**: it is at most the ratio, and the next one is above
it. -/
theorem binaryOrder_spec {num den : Nat} (hnum : 0 < num) (hden : 0 < den) :
    (2 : ℚ) ^ binaryOrder num den ≤ num / den ∧
      (num / den : ℚ) < 2 ^ (binaryOrder num den + 1) := by
  have hden' : (0 : ℚ) < den := by exact_mod_cast hden
  have hnumLow : (2 : ℚ) ^ (Nat.log2 num : Int) ≤ num := by
    exact_mod_cast Nat.log2_self_le hnum.ne'
  have hnumHigh : (num : ℚ) < 2 ^ ((Nat.log2 num : Int) + 1) := by
    exact_mod_cast Nat.lt_log2_self (n := num)
  have hdenLow : (2 : ℚ) ^ (Nat.log2 den : Int) ≤ den := by
    exact_mod_cast Nat.log2_self_le hden.ne'
  have hdenHigh : (den : ℚ) < 2 ^ ((Nat.log2 den : Int) + 1) := by
    exact_mod_cast Nat.lt_log2_self (n := den)
  -- The difference of the orders of both numbers is right, or one too high.
  set guess : Int := (Nat.log2 num : Int) - Nat.log2 den with hguess
  have hlow : (2 : ℚ) ^ (guess - 1) ≤ num / den := by
    rw [le_div_iff₀ hden']
    calc (2 : ℚ) ^ (guess - 1) * den
        ≤ 2 ^ (guess - 1) * 2 ^ ((Nat.log2 den : Int) + 1) := by gcongr
      _ = 2 ^ (Nat.log2 num : Int) := by
          rw [← zpow_add₀ two_ne_zero, hguess]
          ring_nf
      _ ≤ num := hnumLow
  have hhigh : (num / den : ℚ) < 2 ^ (guess + 1) := by
    rw [div_lt_iff₀ hden']
    calc (num : ℚ) < 2 ^ ((Nat.log2 num : Int) + 1) := hnumHigh
      _ = 2 ^ (guess + 1) * 2 ^ (Nat.log2 den : Int) := by
          rw [← zpow_add₀ two_ne_zero, hguess]
          ring_nf
      _ ≤ 2 ^ (guess + 1) * den := by gcongr
  have horder : binaryOrder num den =
      if (shifted num den guess).2 ≤ (shifted num den guess).1 then guess else guess - 1 := rfl
  rw [horder]
  by_cases h : (shifted num den guess).2 ≤ (shifted num den guess).1
  · rw [if_pos h]
    exact ⟨(shifted_le_iff hden guess).1 h, hhigh⟩
  · rw [if_neg h, sub_add_cancel]
    exact ⟨hlow, not_le.1 (mt (shifted_le_iff hden guess).2 h)⟩

/-! ### Whole numbers next to a ratio -/

/-- The whole number nearest to a ratio is within a half of it. -/
theorem abs_roundDiv_sub_le (num : Nat) {den : Nat} (hden : 0 < den) :
    |(roundDiv num den : ℚ) - num / den| ≤ 1 / 2 := by
  have hden' : (0 : ℚ) < den := by exact_mod_cast hden
  have hsplit : (num : ℚ) / den = (num / den : Nat) + (num % den : Nat) / den := by
    rw [eq_comm, ← sub_eq_zero]
    field_simp
    have h : (den : ℚ) * (num / den : Nat) + (num % den : Nat) = num := by
      exact_mod_cast Nat.div_add_mod num den
    linarith
  have hlow : (0 : ℚ) ≤ (num % den : Nat) / den := by positivity
  have hhigh : ((num % den : Nat) : ℚ) / den < 1 := by
    rw [div_lt_one hden']
    exact_mod_cast Nat.mod_lt num hden
  have hless : 2 * (num % den) < den ↔ ((num % den : Nat) : ℚ) / den < 1 / 2 := by
    rw [div_lt_div_iff₀ hden' two_pos, one_mul, mul_comm]
    norm_cast
  have hmore : den < 2 * (num % den) ↔ 1 / 2 < ((num % den : Nat) : ℚ) / den := by
    rw [div_lt_div_iff₀ two_pos hden', one_mul, mul_comm]
    norm_cast
  rw [hsplit, abs_le]
  unfold roundDiv
  simp only [hless, hmore]
  split_ifs <;> push_cast <;> constructor <;> linarith

/-- A whole number above a ratio is not below the whole number nearest to it. -/
theorem roundDiv_le {num den k : Nat} (hden : 0 < den) (h : (num / den : ℚ) < k) :
    roundDiv num den ≤ k := by
  have hnear := (abs_le.1 (abs_roundDiv_sub_le num hden)).2
  have hlt : (roundDiv num den : ℚ) < (k + 1 : Nat) := by
    push_cast
    linarith
  have hlt' : roundDiv num den < k + 1 := by exact_mod_cast hlt
  omega

/-! ### Rounding -/

/-- The exponent with which a ratio is rounded. -/
def unitExponent (num den : Nat) : Int :=
  max (binaryOrder num den - 52) minExponent

/-- The mantissa to which a ratio is rounded, which may be one too large to fit. -/
def unitMantissa (num den : Nat) : Nat :=
  roundDiv (shifted num den (unitExponent num den)).1 (shifted num den (unitExponent num den)).2

/-- A mantissa and an exponent as a double; there is none with an exponent that is too large. -/
def ofParts (negative : Bool) (m : Nat) (e : Int) : Double :=
  if maxExponent < e then .infinite negative else .finite negative m e

/-- A ratio is rounded to its mantissa, and that halved where it does not fit. -/
theorem ofRatio_eq (negative : Bool) {num : Nat} (hnum : 0 < num) (den : Nat) :
    ofRatio negative num den =
      if unitMantissa num den = 2 ^ 53 then ofParts negative (2 ^ 52) (unitExponent num den + 1)
      else ofParts negative (unitMantissa num den) (unitExponent num den) := by
  have hparts : ofRatio negative num den =
      let parts := if unitMantissa num den = 2 ^ 53 then (2 ^ 52, unitExponent num den + 1)
        else (unitMantissa num den, unitExponent num den)
      ofParts negative parts.1 parts.2 := if_neg hnum.ne'
  rw [hparts]
  split <;> rfl

/-- What every finite double is below. -/
def top : ℚ :=
  2 ^ (1024 : Int)

/-- What the unit gets no smaller below. -/
def leastScaled : ℚ :=
  2 ^ (-1022 : Int)

/-- A finite mantissa and exponent are a ratio rounded: they are within half a unit of it. -/
structure Rounded (q : ℚ) (m : Nat) (e : Int) : Prop where
  near : |dyadic m e - q| ≤ max q leastScaled / 2 ^ 53
  mantissa_lt : m < 2 ^ 53
  exponent_le : e ≤ maxExponent

theorem Rounded.lt {q : ℚ} {m : Nat} {e : Int} (h : Rounded q m e) : dyadic m e < top := by
  have hm : (m : ℚ) < 2 ^ 53 := by exact_mod_cast h.mantissa_lt
  have he : (2 : ℚ) ^ e ≤ 2 ^ (971 : Int) := zpow_le_zpow_right₀ one_le_two h.exponent_le
  calc dyadic m e < 2 ^ 53 * 2 ^ e := mul_lt_mul_of_pos_right hm (two_zpow_pos e)
    _ ≤ 2 ^ 53 * 2 ^ (971 : Int) := by gcongr
    _ = top := by
        rw [top, ← zpow_natCast, ← zpow_add₀ two_ne_zero]
        rfl

/-- A double is the one next to a number, with a sign; it is infinite where the number is too large
for any. -/
inductive Nearest (negative : Bool) (q : ℚ) : Double → Prop where
  | finite {m : Nat} {e : Int} (h : Rounded q m e) : Nearest negative q (.finite negative m e)
  | infinite (h : top ≤ (1 + 1 / 2 ^ 53) * q) : Nearest negative q (.infinite negative)

theorem nearest_zero (negative : Bool) : Nearest negative 0 (zero negative) := by
  refine .finite ⟨?_, by decide, by decide⟩
  rw [dyadic, Nat.cast_zero, zero_mul, sub_zero, abs_zero]
  exact div_nonneg (le_max_left _ _) (by norm_num)

/-- A mantissa and an exponent are a double where they fit. -/
theorem ofParts_nearest (negative : Bool) {q : ℚ} {m : Nat} {e : Int}
    (hnear : |dyadic m e - q| ≤ max q leastScaled / 2 ^ 53) (hm : m < 2 ^ 53)
    (hlarge : maxExponent < e → top ≤ (1 + 1 / 2 ^ 53) * q) :
    Nearest negative q (ofParts negative m e) := by
  unfold ofParts
  by_cases he : maxExponent < e
  · rw [if_pos he]
    exact .infinite (hlarge he)
  · rw [if_neg he]
    exact .finite ⟨hnear, hm, not_lt.1 he⟩

section Rounding

variable {num den : Nat}

/-- The unit of rounding, in terms of what is rounded. -/
theorem unit_le (hnum : 0 < num) (hden : 0 < den) :
    (2 : ℚ) ^ unitExponent num den ≤ max (num / den : ℚ) leastScaled / 2 ^ 52 := by
  rw [le_div_iff₀ (by norm_num)]
  have hunit : (2 : ℚ) ^ unitExponent num den * 2 ^ 52 = 2 ^ (unitExponent num den + 52) := by
    rw [zpow_add₀ two_ne_zero]
    rfl
  rw [hunit]
  rcases max_choice (binaryOrder num den - 52) minExponent with h | h
  · refine le_max_of_le_left (le_trans (le_of_eq ?_) (binaryOrder_spec hnum hden).1)
    rw [unitExponent, h, sub_add_cancel]
  · refine le_max_of_le_right (le_of_eq ?_)
    rw [unitExponent, h]
    rfl

/-- In these units, what is rounded is below `2 ^ 53`. -/
theorem lt_unit_mul (hnum : 0 < num) (hden : 0 < den) :
    (num / den : ℚ) < 2 ^ (53 + unitExponent num den) := by
  refine lt_of_lt_of_le (binaryOrder_spec hnum hden).2 (zpow_le_zpow_right₀ one_le_two ?_)
  have h : binaryOrder num den - 52 ≤ unitExponent num den := le_max_left _ _
  omega

theorem unitMantissa_le (hnum : 0 < num) (hden : 0 < den) : unitMantissa num den ≤ 2 ^ 53 := by
  refine roundDiv_le (shifted_pos num hden _) ?_
  rw [shifted_ratio, div_lt_iff₀ (two_zpow_pos _)]
  have h := lt_unit_mul hnum hden
  rw [zpow_add₀ two_ne_zero] at h
  exact_mod_cast h

theorem abs_unitMantissa_sub_le (hden : 0 < den) :
    |dyadic (unitMantissa num den) (unitExponent num den) - num / den| ≤
      2 ^ unitExponent num den / 2 := by
  have hpos := two_zpow_pos (unitExponent num den)
  have hnear : |(unitMantissa num den : ℚ) - num / den / 2 ^ unitExponent num den| ≤ 1 / 2 := by
    rw [← shifted_ratio]
    exact abs_roundDiv_sub_le _ (shifted_pos num hden _)
  have hscaled : dyadic (unitMantissa num den) (unitExponent num den) - num / den =
      (unitMantissa num den - num / den / 2 ^ unitExponent num den) *
        2 ^ unitExponent num den := by
    rw [dyadic, sub_mul, div_mul_cancel₀ _ hpos.ne']
  rw [hscaled, abs_mul, abs_of_pos hpos]
  calc |(unitMantissa num den : ℚ) - num / den / 2 ^ unitExponent num den| *
        2 ^ unitExponent num den
      ≤ 1 / 2 * 2 ^ unitExponent num den := by gcongr
    _ = 2 ^ unitExponent num den / 2 := by ring

/-- Where the unit is not the least one, what is rounded is at least `2 ^ 52` of it. -/
theorem unit_mul_le (hnum : 0 < num) (hden : 0 < den) (h : minExponent < unitExponent num den) :
    (2 : ℚ) ^ (unitExponent num den + 52) ≤ num / den := by
  rcases max_choice (binaryOrder num den - 52) minExponent with hmax | hmax
  · rw [unitExponent, hmax, sub_add_cancel]
    exact (binaryOrder_spec hnum hden).1
  · exact absurd h (by rw [unitExponent, hmax]; exact lt_irrefl _)

/-- **A ratio is rounded to the double next to it.** -/
theorem ofRatio_nearest (negative : Bool) (num : Nat) (hden : 0 < den) :
    Nearest negative (num / den) (ofRatio negative num den) := by
  rcases Nat.eq_zero_or_pos num with rfl | hnum
  · rw [Nat.cast_zero, zero_div]
    exact nearest_zero negative
  have hnear : |dyadic (unitMantissa num den) (unitExponent num den) - num / den| ≤
      max (num / den : ℚ) leastScaled / 2 ^ 53 := by
    refine (abs_unitMantissa_sub_le hden).trans ?_
    have h := unit_le hnum hden
    linarith
  -- Above the least exponent the ratio has as many bits as a mantissa, so it is as large as the
  -- exponent says.
  have hlarge : ∀ k : Int, 971 ≤ unitExponent num den → k ≤ unitExponent num den + 52 →
      (2 : ℚ) ^ k ≤ num / den := fun k h971 hk =>
    (zpow_le_zpow_right₀ one_le_two hk).trans
      (unit_mul_le hnum hden (lt_of_lt_of_le (by decide) h971))
  rw [ofRatio_eq negative hnum den]
  by_cases hfull : unitMantissa num den = 2 ^ 53
  · have hcarry : dyadic (2 ^ 52) (unitExponent num den + 1) =
        dyadic (unitMantissa num den) (unitExponent num den) := by
      unfold dyadic
      rw [hfull, zpow_add_one₀ two_ne_zero]
      push_cast
      ring
    rw [if_pos hfull]
    refine ofParts_nearest negative (by rwa [hcarry]) (by decide) fun hexp => ?_
    have h971 : 971 ≤ unitExponent num den := Int.lt_add_one_iff.1 hexp
    have hscaled : leastScaled ≤ num / den := hlarge _ h971 (by omega)
    have hvalue : top ≤ dyadic (unitMantissa num den) (unitExponent num den) := by
      have h : top ≤ 2 ^ (53 + unitExponent num den) := zpow_le_zpow_right₀ one_le_two (by omega)
      rw [zpow_add₀ two_ne_zero] at h
      rw [dyadic, hfull]
      exact_mod_cast h
    rw [max_eq_left hscaled] at hnear
    have h := (abs_le.1 hnear).2
    linarith
  · rw [if_neg hfull]
    have hlt := lt_of_le_of_ne (unitMantissa_le hnum hden) hfull
    refine ofParts_nearest negative hnear hlt fun hexp => ?_
    have h972 : 972 ≤ unitExponent num den := Int.add_one_le_iff.2 hexp
    have h : top ≤ num / den := hlarge _ (by omega) (by omega)
    have hpos : (0 : ℚ) ≤ num / den := by positivity
    linarith

end Rounding

end Hotplug.Double
