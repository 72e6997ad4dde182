import Hotplug.Proofs.Double.Accuracy

/-!
# Decimal numbers times a factor

A decimal number is read as the double next to it, multiplied by the double that serves as its
factor, and rounded up. Either of the two may be too large or too small for a double where their
product is not: then the product is no finite number, or the other one is moderate and nothing is
lost.

## Main definitions

* `signed negative x` — a number with a sign.
* `Reaches negative v d` — the double `d` is above `v` or next to it, with a sign, or not finite.
* `slack` — what a product may miss of a bound, relative to it.

## Main results

* `ceil?_finite` — the least whole number not below a double is that of its value.
* `ofDecimal_nearest` — a decimal number is read as the double next to it.
* `Nearest.mul_reaches` — **a product with a factor does not fall below the product of the
  numbers.**
* `Nearest.mul_lt_one` — a product that is below one stays below it, but for some roundings.
-/

namespace Hotplug.Double

/-- A number with a sign. -/
def signed (negative : Bool) (x : ℚ) : ℚ :=
  if negative then -x else x

/-- The least whole number not below a ratio. -/
theorem ceil_ratio (m : Nat) {unit : Nat} (hunit : 0 < unit) :
    ⌈(m / unit : ℚ)⌉ = ((m + unit - 1) / unit : Nat) := by
  have hpos : (0 : ℚ) < unit := by exact_mod_cast hunit
  have hdivide := Nat.div_add_mod (m + unit - 1) unit
  have hrest := Nat.mod_lt (m + unit - 1) hunit
  generalize (m + unit - 1) / unit = k at hdivide ⊢
  have hlow : unit * k < m + unit := by omega
  have hhigh : m ≤ unit * k := by omega
  rw [Int.ceil_eq_iff, lt_div_iff₀ hpos, div_le_iff₀ hpos, Int.cast_natCast]
  have hlow' : (unit : ℚ) * k < m + unit := by exact_mod_cast hlow
  have hhigh' : (m : ℚ) ≤ unit * k := by exact_mod_cast hhigh
  constructor <;> linarith

/-- **The least whole number not below a double** is that of its value. -/
theorem ceil?_finite (s : Bool) (m : Nat) (e : Int) :
    ceil? (.finite s m e) = some ⌈signed s (dyadic m e)⌉ := by
  by_cases he : 0 ≤ e
  · have hvalue : dyadic m e = (m * 2 ^ e.toNat : Nat) := by
      rw [dyadic, Nat.cast_mul, Nat.cast_pow, ← zpow_natCast, Int.toNat_of_nonneg he,
        Nat.cast_ofNat]
    have hceil : ceil? (.finite s m e) =
        some (if s then -((m * 2 ^ e.toNat : Nat) : Int) else (m * 2 ^ e.toNat : Nat)) := if_pos he
    rw [hceil, hvalue]
    cases s
    · exact congrArg some (Int.ceil_natCast _).symm
    · refine congrArg some ?_
      rw [if_pos rfl, signed, if_pos rfl, Int.ceil_neg, Int.floor_natCast]
  · have hvalue : dyadic m e = m / (2 ^ (-e).toNat : Nat) := by
      rw [dyadic, Nat.cast_pow, ← zpow_natCast, Int.toNat_of_nonneg (by omega), Nat.cast_ofNat,
        zpow_neg, div_inv_eq_mul]
    have hceil : ceil? (.finite s m e) = some (if s then -((m / 2 ^ (-e).toNat : Nat) : Int)
        else ((m + 2 ^ (-e).toNat - 1) / 2 ^ (-e).toNat : Nat)) := if_neg he
    rw [hceil, hvalue]
    cases s
    · exact congrArg some (ceil_ratio m (Nat.pow_pos (by decide))).symm
    · refine congrArg some ?_
      rw [if_pos rfl, signed, if_pos rfl, Int.ceil_neg, Rat.floor_natCast_div_natCast]
      rfl

/-! ### Decimal numbers -/

/-- A number with that many more places than digits is far below the least double. -/
theorem tiny_le {digits p : Nat} (h : 400 + Nat.log2 digits < p) :
    (digits : ℚ) / 10 ^ p ≤ leastScaled / 2 ^ 53 := by
  have hscaled : leastScaled / 2 ^ 53 = 1 / 2 ^ 1075 := by
    have hunit : leastScaled = (2 ^ 1022)⁻¹ := by
      rw [leastScaled, zpow_neg]
      exact congrArg _ (zpow_natCast 2 1022)
    rw [hunit, inv_eq_one_div, div_div, ← pow_add]
  have hten : 2 * 2 ^ 1075 ≤ 10 ^ 401 := by decide +kernel
  have hle : digits * 2 ^ 1075 ≤ 10 ^ p := by
    calc digits * 2 ^ 1075 ≤ 2 ^ (Nat.log2 digits + 1) * 2 ^ 1075 :=
          Nat.mul_le_mul_right _ Nat.lt_log2_self.le
      _ = 2 ^ Nat.log2 digits * (2 * 2 ^ 1075) := by
          rw [Nat.pow_succ 2 (Nat.log2 digits), Nat.mul_assoc]
      _ ≤ 10 ^ Nat.log2 digits * 10 ^ 401 :=
          Nat.mul_le_mul (Nat.pow_le_pow_left (by decide : 2 ≤ 10) (Nat.log2 digits)) hten
      _ = 10 ^ (Nat.log2 digits + 401) := by rw [Nat.pow_add]
      _ ≤ 10 ^ p := Nat.pow_le_pow_right (by decide) (by omega)
  have hcast := Nat.cast_le (α := ℚ).2 hle
  rw [Nat.cast_mul, Nat.cast_pow, Nat.cast_pow] at hcast
  rw [hscaled, div_le_div_iff₀ (pow_pos (by norm_num) p) (pow_pos two_pos 1075), one_mul]
  exact hcast

/-- **A decimal number is read as the double next to it.** -/
theorem ofDecimal_nearest (s : Bool) (digits p : Nat) :
    Nearest s (digits / 10 ^ p) (ofDecimal s digits (-p)) := by
  unfold ofDecimal
  rcases Nat.eq_zero_or_pos digits with rfl | hdigits
  · rw [if_pos rfl, Nat.cast_zero, zero_div]
    exact nearest_zero s
  rw [if_neg hdigits.ne', if_neg (by omega)]
  by_cases htiny : 400 + Nat.log2 digits < p
  · rw [if_pos (by omega)]
    refine .finite ⟨?_, by decide, by decide⟩
    have hpos : (0 : ℚ) ≤ digits / 10 ^ p := by positivity
    rw [dyadic, Nat.cast_zero, zero_mul, zero_sub, abs_neg, abs_of_nonneg hpos]
    exact (tiny_le htiny).trans (div_le_div_of_nonneg_right (le_max_right _ _) (by norm_num))
  · rw [if_neg (by omega)]
    by_cases hp : p = 0
    · subst hp
      have h := ofRatio_nearest s (digits * 10 ^ 0) Nat.one_pos
      rw [Nat.cast_mul, Nat.cast_pow, Nat.cast_ofNat, pow_zero, mul_one, Nat.cast_one] at h
      exact h
    · have hpow : (-(-(p : Int))).toNat = p := by rw [neg_neg, Int.toNat_natCast]
      have h := ofRatio_nearest s digits (Nat.pow_pos (by decide) : 0 < 10 ^ p)
      rw [Nat.cast_pow, Nat.cast_ofNat] at h
      rw [if_neg (by omega), hpow]
      exact h

/-! ### Products -/

section Product

variable {s : Bool} {x q : ℚ} {d f : Double}

/-- Something infinite times a finite double. -/
theorem ite_infinite (m : Nat) :
    (if m = 0 then .nan else .infinite (s != false)) = Double.nan ∨
      (if m = 0 then .nan else .infinite (s != false)) = Double.infinite s := by
  rw [Bool.bne_false s]
  by_cases hm : m = 0
  · exact .inl (if_pos hm)
  · exact .inr (if_neg hm)

/-- A product with a factor is one of finite doubles, or infinite with the same sign, or no number.
-/
theorem Nearest.mul_cases (h : Nearest s x d) (hf : Factor f q) :
    d.mul f = .nan ∨ d.mul f = .infinite s ∨
      ∃ m e n g, d = .finite s m e ∧ f = .finite false n g := by
  cases h with
  | @finite m e _ =>
    cases hf with
    | @finite n g _ _ _ => exact .inr (.inr ⟨m, e, n, g, rfl, rfl⟩)
    | infinite _ => exact (ite_infinite m).imp_right .inl
    | zero _ => exact .inr (.inr ⟨m, e, 0, minExponent, rfl, rfl⟩)
  | infinite _ =>
    cases hf with
    | @finite n g _ _ _ => exact (ite_infinite n).imp_right .inl
    | infinite _ => exact .inr (.inl (congrArg Double.infinite (Bool.bne_false s)))
    | zero _ => exact .inl rfl

/-- A double reaches a positive number, but for some roundings: it is above it or next to it, with a
sign, or no finite double. -/
inductive Reaches (negative : Bool) (v : ℚ) : Double → Prop where
  | nan : Reaches negative v .nan
  | infinite : Reaches negative v (.infinite negative)
  | finite {m : Nat} {e : Int} (h : v ≤ slip ^ 402 * dyadic m e) :
      Reaches negative v (.finite negative m e)

/-- A product with a factor keeps its sign. -/
theorem Nearest.mul_sign (h : Nearest s x d) (hf : Factor f q) : Reaches s 0 (d.mul f) := by
  rcases h.mul_cases hf with hnan | hinfinite | ⟨m, e, n, g, rfl, rfl⟩
  · rw [hnan]
    exact .nan
  · rw [hinfinite]
    exact .infinite
  · have hnearest := finite_mul_nearest s m n e g
    generalize (Double.finite s m e).mul (.finite false n g) = product at hnearest ⊢
    cases hnearest with
    | finite _ => exact .finite (mul_nonneg (slip_pow_pos 402).le (dyadic_nonneg _ _))
    | infinite _ => exact .infinite

/-- **The product with a factor does not fall below the product of the numbers**, where that is at
least one: no underflow of either loses what the other adds. -/
theorem Nearest.mul_reaches (h : Nearest s x d) (hf : Factor f q) (hx : 0 ≤ x) (hone : 1 ≤ x * q) :
    Reaches s (x * q) (d.mul f) := by
  have hq : 0 < q := pos_of_mul_pos_right (zero_lt_one.trans_le hone) hx
  have hinv := inv_top_le_one
  have hinverse : q⁻¹ ≤ x := (inv_le_iff_one_le_mul₀ hq).2 hone
  rcases h.mul_cases hf with hnan | hinfinite | ⟨m, e, n, g, rfl, rfl⟩
  · rw [hnan]
    exact .nan
  · rw [hinfinite]
    exact .infinite
  cases h with
  | finite h =>
    cases hf with
    | zero hsmall =>
      -- The other number is then too large to be finite.
      have hlarge : 2 * top ≤ x := by
        refine le_trans ?_ hinverse
        rwa [← one_div, le_div_iff₀ hq]
      have htop := one_lt_top
      have hle := (h.within (by linarith)).ge
      have hslip : slip * dyadic m e < 2 * top :=
        mul_lt_mul'' (by norm_num [slip]) h.lt slip_pos.le (dyadic_nonneg m e)
      rw [pow_one] at hle
      linarith
    | finite hwithin hlt =>
      have hinverse' : top⁻¹ ≤ x := (inv_anti₀ hq hlt.le).trans hinverse
      have hproduct : Within (1 + 400) (dyadic m e * dyadic n g) (x * q) :=
        (h.within (by linarith)).mul hwithin (dyadic_nonneg m e) hx (dyadic_nonneg n g) hq.le
      have hhalf : 1 ≤ 2 * (dyadic m e * dyadic n g) :=
        hone.trans (hproduct.le_two_mul' (mul_nonneg (dyadic_nonneg m e) (dyadic_nonneg n g))
          (by norm_num))
      have hnearest := finite_mul_nearest s m n e g
      generalize (Double.finite s m e).mul (.finite false n g) = product at hnearest ⊢
      cases hnearest with
      | infinite _ => exact .infinite
      | finite hround => exact .finite ((hround.within (by linarith)).trans hproduct).ge

/-- What a product may miss of a bound, relative to it. -/
def slack : ℚ :=
  1 + 1 / 2 ^ 38

theorem one_le_slack : 1 ≤ slack := by
  norm_num [slack]

theorem slack_pos : 0 < slack := by
  norm_num [slack]

theorem slip_pow_lt_slack : slip ^ 402 < slack := by
  refine (slip_pow_le (k := 402) (by norm_num)).trans_lt ?_
  norm_num [slack]

/-- A product of a rounded number, however small, and a number next to a factor that does not bring
out what the rounding lost. -/
theorem Rounded.mul_le {m n : Nat} {e g : Int} (h : Rounded x m e) (hx : 0 ≤ x)
    (hn : dyadic n g ≤ slip ^ 400 * q) (hmoderate : leastScaled * q ≤ 1) :
    dyadic m e * dyadic n g ≤ slip ^ 400 * ((1 + 1 / 2 ^ 53) * (x * q) + 1 / 2 ^ 53) := by
  have hscaled : 0 ≤ leastScaled := (two_zpow_pos _).le
  have hm : dyadic m e ≤ x + (x + leastScaled) / 2 ^ 53 := by
    have hmax : max x leastScaled ≤ x + leastScaled := max_le (by linarith) (by linarith)
    have hnear := (abs_le.1 h.near).2
    linarith
  calc dyadic m e * dyadic n g ≤ (x + (x + leastScaled) / 2 ^ 53) * (slip ^ 400 * q) :=
        mul_le_mul hm hn (dyadic_nonneg n g) (by positivity)
    _ = slip ^ 400 * ((1 + 1 / 2 ^ 53) * (x * q) + leastScaled * q / 2 ^ 53) := by ring
    _ ≤ slip ^ 400 * ((1 + 1 / 2 ^ 53) * (x * q) + 1 / 2 ^ 53) := by
        have hpos := slip_pow_pos 400
        gcongr

/-- Some roundings of a product that is below one by more than they add do not reach one. -/
theorem slip_pow_mul_lt {v : ℚ} (hv : slack * v ≤ 1) :
    slip ^ 400 * ((1 + 1 / 2 ^ 53) * v + 1 / 2 ^ 53) < 1 - 1 / 2 ^ 53 := by
  have hslip : slip ^ 400 ≤ 1 + 400 / 2 ^ 48 := slip_pow_le (k := 400) (by norm_num)
  have hslack := slack_pos
  have hle : v ≤ 1 - 1 / 2 ^ 39 := by
    rw [mul_comm, ← le_div_iff₀ hslack] at hv
    refine hv.trans ((div_le_iff₀ hslack).2 ?_)
    norm_num [slack]
  calc slip ^ 400 * ((1 + 1 / 2 ^ 53) * v + 1 / 2 ^ 53)
      ≤ slip ^ 400 * ((1 + 1 / 2 ^ 53) * (1 - 1 / 2 ^ 39) + 1 / 2 ^ 53) := by
        have hpos := slip_pow_pos 400
        gcongr
    _ ≤ (1 + 400 / 2 ^ 48) * ((1 + 1 / 2 ^ 53) * (1 - 1 / 2 ^ 39) + 1 / 2 ^ 53) :=
        mul_le_mul_of_nonneg_right hslip (by norm_num)
    _ < 1 - 1 / 2 ^ 53 := by norm_num

theorem four_mul_lt_top : 4 * 10 ^ 300 < top := by
  calc (4 : ℚ) * 10 ^ 300 ≤ 10 ^ 8 * 10 ^ 300 :=
        mul_le_mul_of_nonneg_right (by norm_num) (pow_pos (by norm_num) 300).le
    _ = 10 ^ 308 := (pow_add 10 8 300).symm
    _ ≤ slip ^ 308 * 10 ^ 308 :=
        le_mul_of_one_le_left (pow_pos (by norm_num) 308).le (one_le_slip_pow 308)
    _ < top := slip_pow_mul_lt_top le_rfl

/-- **The product with a factor of moderate size stays below one** where the product of the numbers
does, but for some roundings. -/
theorem Nearest.mul_lt_one {r : ℚ} (h : Nearest s x d) (hf : Factor f q) (hx : 0 ≤ x)
    (hq : 0 < q) (hr : 4 * r < top) (hlow : 1 ≤ r * q) (hhigh : q ≤ r)
    (hsmall : slack * (x * q) ≤ 1) :
    ∃ m e, d.mul f = .finite s m e ∧ dyadic m e < 1 := by
  have htop := top_pos
  have hv : 0 ≤ x * q := mul_nonneg hx hq.le
  cases hf with
  | infinite hlarge => linarith
  | zero hzero => nlinarith
  | @finite n g _ hwithin hlt =>
    cases h with
    | infinite h =>
      -- Times a factor that is not too small the number would be far above one.
      have hslack : slack * (x * q) = x * q + x * q / 2 ^ 38 := by rw [slack]; ring
      have hlarge : top ≤ 2 * x := by linarith
      have hproduct : top * q ≤ 2 * x * q := mul_le_mul_of_nonneg_right hlarge hq.le
      have hbound : 4 * r * q ≤ top * q := mul_le_mul_of_nonneg_right hr.le hq.le
      linarith
    | @finite m e h =>
      have hmoderate : leastScaled * q ≤ 1 := by
        rw [leastScaled_eq, mul_assoc, mul_left_comm, inv_mul_le_iff₀ top_pos]
        linarith
      have hproduct := (h.mul_le hx hwithin.le hmoderate).trans_lt (slip_pow_mul_lt hsmall)
      have hnearest := finite_mul_nearest s m n e g
      generalize (Double.finite s m e).mul (.finite false n g) = product at hnearest ⊢
      cases hnearest with
      | infinite hinf =>
        have hfour := four_le_top
        linarith
      | @finite m' e' hround =>
        refine ⟨m', e', rfl, ?_⟩
        have hscaled : leastScaled ≤ 1 := zpow_le_one_of_nonpos₀ one_le_two (by decide)
        have hmax : max (dyadic m e * dyadic n g) leastScaled ≤ 1 := max_le (by linarith) hscaled
        have hnear := (abs_le.1 hround.near).2
        linarith

end Product

end Hotplug.Double
