import Hotplug.Proofs.Quantity.Exact

/-!
# Quantities out of range

A quantity is out of range when it is negative, or larger than a number of 64 bits once it is
rounded up. The two ways of scaling disagree about these. A number scaled as a double is rejected,
except next to the bounds: what rounds up to zero is zero, and what is rounded to `2 ^ 63` is the
largest number. A whole number that is scaled exactly keeps its sign, and the number one with a
factor that is too large is cut off.

## Main definitions

* `Written.OutOfRange` — negative, or too large once rounded up.

## Main results

* `Written.parse?_whole_eq_some_iff` — which whole numbers out of range are accepted, and as what.
* `Written.parse?_double_eq_none`, `Written.parse?_double_eq_zero` — other numbers are rejected but
  for some roundings; what is above minus one is zero.
* `Written.rejected_out_of_range` — **when a quantity out of range is rejected**.
-/

namespace Hotplug

namespace Quantity

open Double

/-! ### Scaling as a double -/

/-- What is accepted is the product rounded up, and is neither negative nor above `2 ^ 63`. -/
theorem scaleDouble?_eq_some {d f : Double} {r : Int} (h : scaleDouble? d f = some r) :
    ∃ n, (d.mul f).ceil? = some n ∧ 0 ≤ n ∧ n ≤ Width.maxInt64 + 1 ∧ r = min n Width.maxInt64 := by
  unfold scaleDouble? at h
  cases hceil : (d.mul f).ceil? with
  | none =>
    rw [hceil] at h
    cases h
  | some n =>
    rw [hceil] at h
    by_cases hrange : (decide (0 ≤ n) && decide (n ≤ Width.maxInt64 + 1)) = true
    · have hr : some (min n Width.maxInt64) = some r := (if_pos hrange).symm.trans h
      rw [Bool.and_eq_true, decide_eq_true_eq, decide_eq_true_eq] at hrange
      exact ⟨n, rfl, hrange.1, hrange.2, (Option.some.inj hr).symm⟩
    · have hr : none = some r := (if_neg hrange).symm.trans h
      cases hr

section Scaling

variable {v : ℚ} {d f : Double} {r : Int}

/-- A negative product is accepted as zero, and is then next to minus one or above it. -/
theorem scaleDouble?_minus (h : Reaches true v (d.mul f)) (hr : scaleDouble? d f = some r) :
    r = 0 ∧ v < slack := by
  obtain ⟨n, hceil, hlow, hhigh, rfl⟩ := scaleDouble?_eq_some hr
  generalize d.mul f = product at h hceil
  cases h with
  | nan => cases hceil
  | infinite => cases hceil
  | @finite m e h =>
    rw [ceil?_finite, signed, if_pos rfl, Option.some.injEq] at hceil
    subst hceil
    have hnonneg := dyadic_nonneg m e
    have hone : dyadic m e < 1 := by
      rw [Int.le_ceil_iff] at hlow
      norm_num at hlow
      exact hlow
    have hzero : ⌈-dyadic m e⌉ = 0 := by
      rw [Int.ceil_eq_zero_iff]
      exact ⟨by linarith, by linarith⟩
    refine ⟨by rw [hzero]; rfl, ?_⟩
    calc v ≤ slip ^ 402 * dyadic m e := h
      _ ≤ slip ^ 402 * 1 := mul_le_mul_of_nonneg_left hone.le (slip_pow_pos 402).le
      _ < slack := by
          rw [mul_one]
          exact slip_pow_lt_slack

/-- A positive product is accepted where it is next to the bound or below it; the largest number
stands for what is next to it or above it. -/
theorem scaleDouble?_plus (h : Reaches false v (d.mul f)) (hr : scaleDouble? d f = some r) :
    v < slack * 2 ^ 63 ∧ (Width.maxInt64 ≤ v → Width.maxInt64 ≤ slack * r) := by
  obtain ⟨n, hceil, hlow, hhigh, rfl⟩ := scaleDouble?_eq_some hr
  generalize d.mul f = product at h hceil
  cases h with
  | nan => cases hceil
  | infinite => cases hceil
  | @finite m e h =>
    rw [ceil?_finite, signed, if_neg Bool.false_ne_true, Option.some.injEq] at hceil
    subst hceil
    have hceil := Int.le_ceil (dyadic m e)
    have hslip := slip_pow_lt_slack
    have hnonneg := dyadic_nonneg m e
    have hhigh' : (⌈dyadic m e⌉ : ℚ) ≤ 2 ^ 63 := by
      have h : ((⌈dyadic m e⌉ : Int) : ℚ) ≤ (Width.maxInt64 + 1 : Int) := Int.cast_le.2 hhigh
      norm_num [Width.maxInt64] at h ⊢
      exact h
    constructor
    · calc v ≤ slip ^ 402 * dyadic m e := h
        _ ≤ slip ^ 402 * 2 ^ 63 :=
            mul_le_mul_of_nonneg_left (hceil.trans hhigh') (slip_pow_pos 402).le
        _ < slack * 2 ^ 63 := mul_lt_mul_of_pos_right hslip (by norm_num)
    · intro hv
      rcases min_choice ⌈dyadic m e⌉ Width.maxInt64 with hmin | hmin
      · rw [hmin]
        calc (Width.maxInt64 : ℚ) ≤ slip ^ 402 * dyadic m e := hv.trans h
          _ ≤ slack * ⌈dyadic m e⌉ := mul_le_mul hslip.le hceil hnonneg slack_pos.le
      · rw [hmin]
        exact le_mul_of_one_le_left (by norm_num [Width.maxInt64]) one_le_slack

end Scaling

/-! ### Written quantities -/

namespace Written

/-- Negative, or larger than a number of 64 bits once it is rounded up. -/
def OutOfRange (w : Written) : Prop :=
  w.value < 0 ∨ Width.maxInt64 < ⌈w.value⌉

instance (w : Written) : Decidable w.OutOfRange :=
  inferInstanceAs (Decidable (_ ∨ _))

/-- The size of a quantity, without its sign. -/
def size (w : Written) : ℚ :=
  w.numeral.size * w.suffix.factor

theorem size_nonneg (w : Written) : 0 ≤ w.size :=
  mul_nonneg w.numeral.size_nonneg w.suffix.factor_pos.le

/-- The value is the size with the sign. -/
theorem value_cases (w : Written) :
    w.numeral.sign.negative = true ∧ w.value = -w.size ∨
      w.numeral.sign.negative = false ∧ w.value = w.size := by
  unfold value size Numeral.value signed
  cases w.numeral.sign.negative with
  | true => exact .inl ⟨rfl, neg_mul _ _⟩
  | false => exact .inr ⟨rfl, rfl⟩

theorem value_of_whole? {w : Written} {n : Int} (hn : w.whole? = some n) :
    w.value = n * w.suffix.factor := by
  unfold whole? at hn
  unfold value
  split at hn
  · next k heq =>
    split at hn
    · rw [heq, Numeral.value_whole, Option.some.inj hn]
    · cases hn
  · cases hn

end Written

/-! ### Whole numbers -/

/-- A product that is too large fits when the factor is cut off, if it is one times the factor. -/
theorem mul_min_le_iff {n m : Int} (hn : 1 ≤ n) (hlarge : Width.maxInt64 < n * m) :
    n * min m Width.maxInt64 ≤ Width.maxInt64 ↔ n = 1 := by
  have hmax : 1 ≤ Width.maxInt64 := by decide
  constructor
  · intro hle
    by_contra hone
    rcases min_choice m Width.maxInt64 with hmin | hmin
    · rw [hmin] at hle
      omega
    · rw [hmin] at hle
      have htwo : 2 ≤ n := by omega
      nlinarith
  · rintro rfl
    rw [one_mul]
    exact min_le_right _ _

/-- A product that is out of range is accepted where the number is negative, or is one with a factor
that is cut off. -/
theorem scaled_eq_some_iff {n m r : Int} (hm : 1 ≤ m) (hout : n * m < 0 ∨ Width.maxInt64 < n * m) :
    (if Width.inInt64 (n * min m Width.maxInt64) = true then some (n * min m Width.maxInt64)
      else none) = some r ↔
      n < 0 ∧ r = n * min m Width.maxInt64 ∧ Width.minInt64 ≤ r ∨ n = 1 ∧ r = Width.maxInt64 := by
  have hmax : 1 ≤ Width.maxInt64 := by decide
  have hmin : Width.minInt64 ≤ 0 := by decide
  have hcut : 1 ≤ min m Width.maxInt64 := le_min hm hmax
  have hin : Width.inInt64 (n * min m Width.maxInt64) = true ↔
      Width.minInt64 ≤ n * min m Width.maxInt64 ∧ n * min m Width.maxInt64 ≤ Width.maxInt64 := by
    rw [Width.inInt64, Bool.and_eq_true, decide_eq_true_eq, decide_eq_true_eq]
  rw [Option.ite_none_right_eq_some, hin, Option.some.injEq]
  rcases lt_or_ge n 0 with hneg | hnonneg
  · -- A negative product is never too large, and nothing else is asked of it but to fit.
    have hproduct : n * min m Width.maxInt64 ≤ Width.maxInt64 := by nlinarith
    constructor
    · rintro ⟨⟨hlow, -⟩, rfl⟩
      exact .inl ⟨hneg, rfl, hlow⟩
    · rintro (⟨-, rfl, hlow⟩ | ⟨rfl, -⟩)
      · exact ⟨⟨hlow, hproduct⟩, rfl⟩
      · exact absurd hneg (by decide)
  · have hlarge : Width.maxInt64 < n * m := hout.resolve_left (not_lt.2 (by positivity))
    have hpos : 1 ≤ n := by
      rcases eq_or_lt_of_le hnonneg with rfl | hpos
      · rw [zero_mul] at hlarge
        omega
      · exact hpos
    have hlow : Width.minInt64 ≤ n * min m Width.maxInt64 := hmin.trans (by positivity)
    rw [mul_min_le_iff hpos hlarge]
    have hone : n = 1 → n * min m Width.maxInt64 = Width.maxInt64 := by
      rintro rfl
      rw [one_mul] at hlarge ⊢
      exact min_eq_right hlarge.le
    constructor
    · rintro ⟨⟨-, hn⟩, rfl⟩
      exact .inr ⟨hn, hone hn⟩
    · rintro (⟨hneg, -⟩ | ⟨hn, rfl⟩)
      · omega
      · exact ⟨⟨hlow, hn⟩, hone hn⟩

namespace Written

/-- **Which whole numbers out of range are accepted, and as what**: a negative one as its product
with the factor, and the number one as the largest number. -/
theorem parse?_whole_eq_some_iff {w : Written} (h : w.OutOfRange) {n : Int} (hn : w.whole? = some n)
    (hs : 1 ≤ w.suffix.factor) (r : Int) :
    parse? w.text = some r ↔
      n < 0 ∧ r = n * min ⌈w.suffix.factor⌉ Width.maxInt64 ∧ Width.minInt64 ≤ r ∨
        n = 1 ∧ r = Width.maxInt64 := by
  obtain ⟨m, hm, hparse⟩ := w.parse?_text_whole hn hs
  have hone : (1 : Int) ≤ m := by
    rw [hm] at hs
    exact_mod_cast hs
  have hvalue : w.value = (n * m : Int) := by
    rw [value_of_whole? hn, hm]
    push_cast
    rfl
  have hout : n * m < 0 ∨ Width.maxInt64 < n * m := by
    unfold OutOfRange at h
    rw [hvalue, Int.ceil_intCast] at h
    exact h.imp_left fun hneg => by exact_mod_cast hneg
  rw [hparse, hm, Int.ceil_natCast]
  exact scaled_eq_some_iff hone hout

/-! ### Other numbers -/

section Doubles

variable {w : Written} (hw : w.whole? = none ∨ w.suffix.factor < 1)

include hw

/-- A number with a minus sign is accepted as zero only. -/
theorem accepted_minus (hsign : w.numeral.sign.negative = true) {r : Int}
    (hr : parse? w.text = some r) : r = 0 ∧ w.size < slack := by
  have hnearest := w.numeral.nearest
  have hfactor := w.suffix.factor_toDouble
  rw [w.parse?_text_double hw] at hr
  rw [hsign] at hnearest
  -- Below one the product may underflow, but its sign is not lost.
  rcases lt_or_ge w.size 1 with hsmall | hone
  · exact ⟨(scaleDouble?_minus (hnearest.mul_sign hfactor) hr).1, hsmall.trans_le one_le_slack⟩
  · exact scaleDouble?_minus (hnearest.mul_reaches hfactor w.numeral.size_nonneg hone) hr

/-- A number without a minus sign is accepted next to the bound or below it. -/
theorem accepted_plus (hsign : w.numeral.sign.negative = false) (hone : 1 ≤ w.size) {r : Int}
    (hr : parse? w.text = some r) :
    w.size < slack * 2 ^ 63 ∧ (Width.maxInt64 ≤ w.size → Width.maxInt64 ≤ slack * r) := by
  have hnearest := w.numeral.nearest
  rw [w.parse?_text_double hw] at hr
  rw [hsign] at hnearest
  exact scaleDouble?_plus
    (hnearest.mul_reaches w.suffix.factor_toDouble w.numeral.size_nonneg hone) hr

/-- **A number scaled as a double is rejected where it is out of range**, but for some roundings. -/
theorem parse?_double_eq_none (h : w.value ≤ -slack ∨ slack * 2 ^ 63 ≤ w.value) :
    parse? w.text = none := by
  have hslack := one_le_slack
  have hnonneg := w.size_nonneg
  rw [Option.eq_none_iff_forall_not_mem]
  intro r hr
  rcases w.value_cases with ⟨hsign, hvalue⟩ | ⟨hsign, hvalue⟩
  · have hlt := (accepted_minus hw hsign hr).2
    rcases h with h | h <;> linarith
  · rcases h with h | h
    · linarith
    · have hlt := (accepted_plus hw hsign (by linarith) hr).1
      linarith

/-- **What is negative but above minus one is accepted as zero**, but for some roundings. -/
theorem parse?_double_eq_zero (hneg : w.value < 0) (hlow : -1 ≤ slack * w.value)
    (hfactor : 1 ≤ 10 ^ 300 * w.suffix.factor) (hfactor' : w.suffix.factor ≤ 10 ^ 300) :
    parse? w.text = some 0 := by
  have hnonneg := w.size_nonneg
  rcases w.value_cases with ⟨hsign, hvalue⟩ | ⟨-, hvalue⟩
  · have hnearest := w.numeral.nearest
    rw [hsign] at hnearest
    have hsmall : slack * (w.numeral.size * w.suffix.factor) ≤ 1 := by
      change slack * w.size ≤ 1
      rw [hvalue] at hlow
      linarith
    obtain ⟨m, e, hmul, hlt⟩ := hnearest.mul_lt_one w.suffix.factor_toDouble w.numeral.size_nonneg
      w.suffix.factor_pos four_mul_lt_top hfactor hfactor' hsmall
    have hzero : ⌈signed true (dyadic m e)⌉ = 0 := by
      have hdyadic := dyadic_nonneg m e
      rw [Int.ceil_eq_zero_iff, signed, if_pos rfl]
      exact ⟨by linarith, by linarith⟩
    rw [w.parse?_text_double hw]
    unfold scaleDouble?
    rw [hmul, ceil?_finite, hzero]
    rfl
  · linarith

/-- **What is accepted of the numbers out of range**: zero for a negative one, and otherwise the
largest number, but for some roundings. -/
theorem parse?_double_eq_some (h : w.OutOfRange) {r : Int} (hr : parse? w.text = some r) :
    w.value < 0 ∧ r = 0 ∨ 0 < w.value ∧ Width.maxInt64 ≤ slack * r := by
  have hnonneg := w.size_nonneg
  have hmax : (1 : ℚ) ≤ Width.maxInt64 := by norm_num [Width.maxInt64]
  rcases w.value_cases with ⟨hsign, hvalue⟩ | ⟨hsign, hvalue⟩
  · refine .inl ⟨?_, (accepted_minus hw hsign hr).1⟩
    rcases h with hneg | hlarge
    · exact hneg
    · rw [Int.lt_ceil] at hlarge
      linarith
  · rcases h with hneg | hlarge
    · linarith
    · rw [Int.lt_ceil] at hlarge
      refine .inr ⟨by linarith, ?_⟩
      exact (accepted_plus hw hsign (by linarith) hr).2 (by linarith)

end Doubles

/-- **When a quantity out of range is rejected.** A whole number scaled exactly is rejected unless
it is negative and its product has 64 bits, or it is one. Any other number is rejected when it is
below minus one or above `2 ^ 63`, but for some roundings; next to the bounds what is accepted is
zero or the largest number, and what is negative but above minus one is zero. -/
theorem rejected_out_of_range (w : Written) (h : w.OutOfRange) :
    (∀ n, w.whole? = some n → 1 ≤ w.suffix.factor → ∀ r, parse? w.text = some r ↔
      n < 0 ∧ r = n * min ⌈w.suffix.factor⌉ Width.maxInt64 ∧ Width.minInt64 ≤ r ∨
        n = 1 ∧ r = Width.maxInt64) ∧
    (w.whole? = none ∨ w.suffix.factor < 1 →
      (w.value ≤ -slack ∨ slack * 2 ^ 63 ≤ w.value → parse? w.text = none) ∧
      (w.value < 0 → -1 ≤ slack * w.value → 1 ≤ 10 ^ 300 * w.suffix.factor →
        w.suffix.factor ≤ 10 ^ 300 → parse? w.text = some 0) ∧
      ∀ r, parse? w.text = some r →
        w.value < 0 ∧ r = 0 ∨ 0 < w.value ∧ Width.maxInt64 ≤ slack * r) :=
  ⟨fun _ hn hs r => parse?_whole_eq_some_iff h hn hs r, fun hw =>
    ⟨parse?_double_eq_none hw, parse?_double_eq_zero hw, fun _ hr => parse?_double_eq_some hw h hr⟩⟩

/-- The text `-1`. -/
def minusOne : Written where
  before := []
  numeral := .whole ⟨.minus, ['1'], by decide, by decide⟩
  suffix := .bare
  after := []
  hbefore := by decide
  hafter := by decide

/-- The text `-0.5`. -/
def minusHalf : Written where
  before := []
  numeral := .point .minus ['0'] ['5'] (by decide) (by decide) (by decide)
  suffix := .bare
  after := []
  hbefore := by decide
  hafter := by decide

/-- The text `1e19`. -/
def tenExa : Written where
  before := []
  numeral := .whole ⟨.absent, ['1'], by decide, by decide⟩
  suffix := .exponent 'e' (.inl rfl) ⟨.absent, ['1', '9'], by decide, by decide⟩ (by decide)
  after := []
  hbefore := by decide
  hafter := by decide

theorem rejected_out_of_range_minus :
    minusOne.OutOfRange ∧ parse? minusOne.text = some (-1) ∧
      minusHalf.OutOfRange ∧ parse? minusHalf.text = some 0 := by
  have hone : minusOne.OutOfRange := by decide +kernel
  have hhalf : minusHalf.OutOfRange := by decide +kernel
  refine ⟨hone, ?_, hhalf, ?_⟩
  · refine ((rejected_out_of_range minusOne hone).1 (-1) (by decide) (by decide +kernel) (-1)).2 ?_
    exact .inl ⟨by decide, by decide +kernel, by decide⟩
  · exact ((rejected_out_of_range minusHalf hhalf).2 (.inl (by decide))).2.1 (by decide +kernel)
      (by decide +kernel) (by decide +kernel) (by decide +kernel)

/-- A negative whole number is accepted as it is, and so are numbers that are too large and numbers
that are negative and round up to zero. -/
theorem accepted_out_of_range :
    (minusOne.OutOfRange ∧ minusOne.text = "-1" ∧ parse? "-1" = some (-1)) ∧
    (tenExa.OutOfRange ∧ tenExa.text = "1e19" ∧ parse? "1e19" = some Width.maxInt64) ∧
    (minusHalf.OutOfRange ∧ minusHalf.text = "-0.5" ∧ parse? "-0.5" = some 0) := by
  decide +kernel

end Written

end Quantity

end Hotplug
