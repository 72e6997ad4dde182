import Hotplug.Proofs.Quantity.Written

/-!
# Whole quantities

A whole number of 64 bits with a factor of at least one is scaled without rounding, although the
factor is held as a double: the doubles of the units, and of powers of ten up to the eighteenth, are
the factors themselves, and what is larger is cut off at the largest number of 64 bits.

## Main definitions

* `Suffix.Exact` — a unit, or an exponent between zero and eighteen.

## Main results

* `Suffix.factor_toDouble` — every suffix is read as a double that serves as its factor.
* `Suffix.le_toDouble` — a factor is at least one exactly where its double is.
* `Suffix.wholeFactor_toDouble` — a factor of at least one is whole, and its double has that value.
* `Written.whole_scaled_exactly` — **a whole number with an exact suffix is scaled without
  rounding**.
-/

namespace Hotplug

namespace Double

/-- The order of positive doubles is that of their values. -/
theorem le_finite (m n : Nat) (e f : Int) :
    (finite false m e).le (finite false n f) = decide (dyadic m e ≤ dyadic n f) := by
  have hsize : ∀ (k : Nat) (g : Int), min e f ≤ g →
      dyadic k g = (signedAt (min e f) false k g : Int) * 2 ^ min e f := by
    intro k g hg
    have hvalue : signedAt (min e f) false k g = (k * 2 ^ (g - min e f).toNat : Nat) := rfl
    rw [hvalue, dyadic, Int.cast_natCast, Nat.cast_mul, Nat.cast_pow, ← zpow_natCast,
      Int.toNat_of_nonneg (by omega), Nat.cast_ofNat, mul_assoc, ← zpow_add₀ two_ne_zero,
      sub_add_cancel]
  rw [hsize m e (min_le_left e f), hsize n f (min_le_right e f)]
  refine decide_eq_decide.2 ?_
  rw [mul_le_mul_iff_left₀ (two_zpow_pos _), Int.cast_le]

/-- The double next to a number that is neither too small nor too large serves as a factor. -/
theorem Nearest.factor {q : ℚ} {d : Double} (h : Nearest false q d) (hlow : top⁻¹ ≤ 2 * q)
    (hhigh : slip * q < top) : Factor d q := by
  have hq : 0 < q := by
    have hpos := inv_pos.2 top_pos
    linarith
  cases h with
  | @finite m e h =>
    refine .finite ((h.within hlow).mono (dyadic_nonneg m e) hq.le (by norm_num)) ?_
    exact (le_mul_of_one_le_left hq.le one_le_slip).trans_lt hhigh
  | infinite h => exact absurd (top_le_slip_mul h) (not_le.2 hhigh)

end Double

namespace Quantity

namespace Suffix

open Double

/-- The double of a ratio of moderate size serves as a factor. -/
theorem factor_ofRatio {num den : Nat} {q : ℚ} (hden : 0 < den) (hq : q = num / den)
    (hlow : 1 / 1000 ≤ q) (hhigh : q ≤ 2 ^ 60) : Factor (ofRatio false num den) q := by
  have htop : (2 : ℚ) ^ 61 ≤ top := by
    rw [top_eq]
    exact pow_le_pow_right₀ one_le_two (by norm_num)
  subst hq
  refine (ofRatio_nearest false num hden).factor ?_ ?_
  · rw [inv_le_comm₀ top_pos (by linarith)]
    refine le_trans ?_ htop
    rw [inv_le_comm₀ (by linarith) (by norm_num)]
    linarith
  · refine lt_of_lt_of_le ?_ htop
    rw [slip]
    linarith

theorem toDouble_decimal (unit : Magnitude) :
    (decimal unit).scale.toDouble = ofRatio false (1000 ^ unit.order) 1 := by
  cases unit <;> decide +kernel

theorem toDouble_binary (unit : Magnitude) :
    (binary unit).scale.toDouble = ofRatio false (1024 ^ unit.order) 1 := by
  cases unit <;> decide +kernel

theorem natAbs_le {n : Int} (hn : Width.inInt32 n = true) : n.natAbs ≤ 2 ^ 48 := by
  unfold Width.inInt32 Width.minInt32 Width.maxInt32 at hn
  rw [Bool.and_eq_true, decide_eq_true_eq, decide_eq_true_eq] at hn
  omega

/-- **Every suffix is read as a double that serves as its factor.** -/
theorem factor_toDouble (s : Suffix) : Factor s.scale.toDouble s.factor := by
  cases s with
  | bare =>
    have hdouble : bare.scale.toDouble = ofRatio false 1 1 := by decide +kernel
    rw [hdouble]
    exact factor_ofRatio Nat.one_pos (by norm_num [factor]) (by norm_num [factor])
      (by norm_num [factor])
  | milli =>
    have hdouble : milli.scale.toDouble = ofRatio false 1 1000 := by decide +kernel
    rw [hdouble]
    exact factor_ofRatio (by norm_num) (by norm_num [factor]) (by norm_num [factor])
      (by norm_num [factor])
  | decimal unit =>
    rw [toDouble_decimal]
    refine factor_ofRatio Nat.one_pos (by norm_num [factor]) ?_ ?_ <;>
      cases unit <;> norm_num [factor, Magnitude.order]
  | binary unit =>
    rw [toDouble_binary]
    refine factor_ofRatio Nat.one_pos (by norm_num [factor]) ?_ ?_ <;>
      cases unit <;> norm_num [factor, Magnitude.order]
  | exponent mark hmark n hn => exact factor_pow_ten (natAbs_le hn)

/-- The factor is positive. -/
theorem factor_pos (s : Suffix) : 0 < s.factor := by
  cases s <;> simp only [factor] <;> positivity

/-- The double of a power of ten is at least one where the exponent is not negative. -/
theorem le_pow_ten {n : Int} (hn : Width.inInt32 n = true) :
    (ofNat 1).le ((ofNat 10).pow n) = decide (0 ≤ n) := by
  have htop := one_lt_top
  have hpos : (0 : ℚ) < 10 ^ n := by positivity
  have hfactor := factor_pow_ten (natAbs_le hn)
  rcases lt_trichotomy n 0 with hneg | rfl | hpositive
  · have hsmall : (10 : ℚ) ^ n ≤ 1 / 10 := by
      have h : (10 : ℚ) ^ n ≤ 10 ^ (-1 : Int) := zpow_le_zpow_right₀ (by norm_num) (by omega)
      norm_num at h
      exact h
    rw [decide_eq_false (not_le.2 hneg)]
    generalize (ofNat 10).pow n = d at hfactor ⊢
    cases hfactor with
    | @finite m e _ h _ =>
      rw [ofNat_one, le_finite, dyadic_one]
      refine decide_eq_false (not_le.2 ?_)
      have hle := h.le_two_mul hpos.le (by norm_num)
      linarith
    | infinite h => linarith
    | zero h => decide +kernel
  · decide +kernel
  · have hlarge : (10 : ℚ) ≤ 10 ^ n := by
      have h : (10 : ℚ) ^ (1 : Int) ≤ 10 ^ n := zpow_le_zpow_right₀ (by norm_num) (by omega)
      rwa [zpow_one] at h
    rw [decide_eq_true hpositive.le]
    generalize (ofNat 10).pow n = d at hfactor ⊢
    cases hfactor with
    | @finite m e _ h _ =>
      rw [ofNat_one, le_finite, dyadic_one]
      refine decide_eq_true ?_
      have hle := h.le_two_mul' (dyadic_nonneg m e) (by norm_num)
      linarith
    | infinite h => rfl
    | zero h => exact absurd h (not_two_top_mul_le (by linarith))

/-- **A factor is at least one exactly where its double is.** -/
theorem le_toDouble (s : Suffix) : (ofNat 1).le s.scale.toDouble = decide (1 ≤ s.factor) := by
  cases s with
  | bare => decide +kernel
  | milli => decide +kernel
  | decimal unit => cases unit <;> decide +kernel
  | binary unit => cases unit <;> decide +kernel
  | exponent mark hmark n hn =>
    refine (le_pow_ten hn).trans (decide_eq_decide.2 ?_)
    exact (one_le_zpow_iff_right₀ (by norm_num)).symm

/-- The double of a power of ten has its value, up to the largest number of 64 bits. -/
theorem wholeFactor_pow_ten {n : Nat} (hn : Width.inInt32 n = true) :
    wholeFactor ((ofNat 10).pow n) = min ((10 ^ n : Nat) : Int) Width.maxInt64 := by
  by_cases hsmall : n < 19
  · have hexact : ∀ n ∈ List.range 19, wholeFactor ((ofNat 10).pow (n : Nat)) =
        min ((10 ^ n : Nat) : Int) Width.maxInt64 := by decide +kernel
    exact hexact n (List.mem_range.2 hsmall)
  · -- From the nineteenth power on the power and its double are both cut off.
    have hlarge : 10 ^ 19 ≤ 10 ^ n := Nat.pow_le_pow_right (by decide) (not_lt.1 hsmall)
    have hlarge' : (10 : ℚ) ^ 19 ≤ 10 ^ (n : Int) := by exact_mod_cast hlarge
    have hcut : min ((10 ^ n : Nat) : Int) Width.maxInt64 = Width.maxInt64 := by
      refine min_eq_right ?_
      have h : ((10 ^ 19 : Nat) : Int) ≤ (10 ^ n : Nat) := Int.ofNat_le.2 hlarge
      exact le_trans (by decide) h
    have hfactor := factor_pow_ten (natAbs_le hn)
    rw [hcut]
    generalize (ofNat 10).pow n = d at hfactor ⊢
    cases hfactor with
    | @finite m e _ h _ =>
      have hslip : slip ^ 400 ≤ 1 + 400 / 2 ^ 48 := slip_pow_le (k := 400) (by norm_num)
      have hle := h.ge.trans (mul_le_mul_of_nonneg_right hslip (dyadic_nonneg m e))
      have hmax : ((Width.maxInt64 : Int) : ℚ) = 9223372036854775807 := by norm_num [Width.maxInt64]
      have hvalue : ((Width.maxInt64 : Int) : ℚ) ≤ dyadic m e := by
        rw [hmax]
        linarith
      unfold wholeFactor
      rw [ceil?_finite]
      exact min_eq_right (Int.cast_le.1 (hvalue.trans (Int.le_ceil _)))
    | infinite h => rfl
    | zero h => exact absurd h (not_two_top_mul_le (by linarith))

/-- **A factor of at least one is whole**, and its double has that value, up to the largest number
of 64 bits. -/
theorem wholeFactor_toDouble (s : Suffix) (hs : 1 ≤ s.factor) :
    ∃ m : Nat, s.factor = m ∧ wholeFactor s.scale.toDouble = min (m : Int) Width.maxInt64 := by
  cases s with
  | bare => exact ⟨1, by norm_num [factor], by decide +kernel⟩
  | milli => norm_num [factor] at hs
  | decimal unit =>
    exact ⟨1000 ^ unit.order, by norm_num [factor], by cases unit <;> decide +kernel⟩
  | binary unit =>
    exact ⟨1024 ^ unit.order, by norm_num [factor], by cases unit <;> decide +kernel⟩
  | exponent mark hmark n hn =>
    have hnonneg : 0 ≤ n.toInt := (one_le_zpow_iff_right₀ (by norm_num)).1 hs
    obtain ⟨k, hk⟩ := Int.eq_ofNat_of_zero_le hnonneg
    refine ⟨10 ^ k, ?_, ?_⟩
    · change (10 : ℚ) ^ n.toInt = _
      rw [hk]
      push_cast
      exact zpow_natCast 10 k
    · change wholeFactor ((ofNat 10).pow n.toInt) = _
      rw [hk] at hn ⊢
      exact wholeFactor_pow_ten hn

/-- A unit, or an exponent between zero and eighteen. -/
def Exact : Suffix → Prop
  | milli => False
  | exponent _ _ n _ => 0 ≤ n.toInt ∧ n.toInt ≤ 18
  | _ => True

/-- The factor of an exact suffix is a whole number of 64 bits. -/
theorem Exact.factor_le {s : Suffix} (h : s.Exact) : 1 ≤ s.factor ∧ s.factor ≤ 1024 ^ 6 := by
  cases s with
  | bare => norm_num [factor]
  | milli => exact h.elim
  | decimal unit => cases unit <;> norm_num [factor, Magnitude.order]
  | binary unit => cases unit <;> norm_num [factor, Magnitude.order]
  | exponent mark hmark n hn =>
    obtain ⟨hlow, hhigh⟩ := h
    refine ⟨one_le_zpow₀ (by norm_num) hlow, ?_⟩
    calc (10 : ℚ) ^ n.toInt ≤ 10 ^ (18 : Int) := zpow_le_zpow_right₀ (by norm_num) hhigh
      _ ≤ 1024 ^ 6 := by norm_num

end Suffix

/-! ### Whole numbers -/

namespace Written

/-- A whole number with a factor of at least one is multiplied by it; the factor is cut off at the
largest number of 64 bits. -/
theorem parse?_text_whole (w : Written) {n : Int} (hn : w.whole? = some n)
    (hs : 1 ≤ w.suffix.factor) :
    ∃ m : Nat, w.suffix.factor = m ∧
      parse? w.text = (if Width.inInt64 (n * min (m : Int) Width.maxInt64) = true
        then some (n * min (m : Int) Width.maxInt64) else none) := by
  obtain ⟨m, hm, hwhole⟩ := w.suffix.wholeFactor_toDouble hs
  refine ⟨m, hm, ?_⟩
  rw [w.parse?_text, hn, w.suffix.le_toDouble, decide_eq_true hs, ← hwhole]
  rfl

/-- Every other number is scaled as a double. -/
theorem parse?_text_double (w : Written) (h : w.whole? = none ∨ w.suffix.factor < 1) :
    parse? w.text = scaleDouble? w.numeral.toDouble w.suffix.scale.toDouble := by
  rw [w.parse?_text, w.suffix.le_toDouble]
  rcases h with hnone | hsmall
  · rw [hnone]
  · rw [decide_eq_false (not_le.2 hsmall)]
    cases w.whole? <;> rfl

/-- **A whole number with an exact suffix is scaled without rounding**: the quantity is the product
where that has 64 bits, and none otherwise. -/
theorem whole_scaled_exactly (w : Written) {n : Literal} (hnumeral : w.numeral = .whole n)
    (hn : Width.inInt64 n.toInt = true) (hs : w.suffix.Exact) :
    ∃ product : Int, (product : ℚ) = n.toInt * w.suffix.factor ∧
      parse? w.text = if Width.inInt64 product = true then some product else none := by
  have hwhole : w.whole? = some n.toInt := by
    unfold whole?
    rw [hnumeral]
    exact if_pos hn
  obtain ⟨hlow, hhigh⟩ := hs.factor_le
  obtain ⟨m, hm, hparse⟩ := w.parse?_text_whole hwhole hlow
  have hfits : min (m : Int) Width.maxInt64 = m := by
    refine min_eq_left ?_
    rw [hm] at hhigh
    have h : m ≤ 1024 ^ 6 := by exact_mod_cast hhigh
    exact (Int.ofNat_le.2 h).trans (by decide)
  rw [hfits] at hparse
  refine ⟨n.toInt * m, ?_, hparse⟩
  rw [hm]
  push_cast
  rfl

/-- The text `+007E3` between a no-break space and a line feed. -/
def padded : Written where
  before := [Char.ofNat 0xa0]
  numeral := .whole ⟨.plus, ['0', '0', '7'], by decide, by decide⟩
  suffix := .exponent 'E' (.inr rfl) ⟨.absent, ['3'], by decide, by decide⟩ (by decide)
  after := [Char.ofNat 10]
  hbefore := by decide
  hafter := by decide

theorem whole_scaled_exactly_padded :
    Width.inInt64 7 = true ∧ padded.suffix.Exact ∧ parse? padded.text = some 7000 := by
  have hs : padded.suffix.Exact := ⟨by decide, by decide⟩
  obtain ⟨product, hproduct, hparse⟩ := padded.whole_scaled_exactly rfl (by decide) hs
  have hvalue : (product : ℚ) = (7000 : Int) := hproduct.trans (by decide +kernel)
  obtain rfl : product = 7000 := Int.cast_inj.1 hvalue
  exact ⟨by decide, hs, hparse⟩

end Written

end Quantity

end Hotplug
