import Hotplug.Proofs.Double.Rounding
import Mathlib.Algebra.Order.Ring.Pow

/-!
# How far doubles are from what they stand for

One rounding misses a number by a small factor, unless the number is very small, and several
roundings by the product of these factors. Counting them follows a power through its repeated
squaring: the double of `10 ^ n` has as many roundings as the power has factors, however the
squaring groups them. Between `10 ^ (-308)` and `10 ^ 308` powers of ten are finite, and beyond they
are zero or infinite.

## Main definitions

* `slip` — the factor by which one rounding may miss a number.
* `Within k a b` — two numbers miss each other by no more than `k` roundings.
* `Near k d q` — the double `d` is within `k` roundings of `q`, or infinite where `q` is too large.
* `Factor d q` — the double `d` serves as a factor for `q`: it is next to it, or `q` is far outside
  the range of doubles.

## Main results

* `Rounded.within` — a number that is not too small is missed by one rounding at most.
* `Near.powAcc` — a power by squaring stands for the power.
* `factor_pow_ten` — **a power of ten serves as a factor**, whatever its exponent.
-/

namespace Hotplug.Double

/-- The factor by which one rounding may miss a number, above or below. -/
def slip : ℚ :=
  1 + 1 / 2 ^ 49

theorem one_le_slip : 1 ≤ slip := by
  norm_num [slip]

theorem slip_pos : 0 < slip := by
  norm_num [slip]

theorem one_le_slip_pow (k : Nat) : 1 ≤ slip ^ k :=
  one_le_pow₀ one_le_slip

theorem slip_pow_pos (k : Nat) : 0 < slip ^ k :=
  pow_pos slip_pos k

/-- Many roundings still miss a number by little. -/
theorem slip_pow_le {k : Nat} (hk : k ≤ 2 ^ 48) : slip ^ k ≤ 1 + k / 2 ^ 48 := by
  induction k with
  | zero => norm_num
  | succ k ih =>
    have hk' : (k : ℚ) + 1 ≤ 2 ^ 48 := by exact_mod_cast hk
    have ih := ih (by omega)
    calc slip ^ (k + 1) = slip ^ k * slip := pow_succ _ _
      _ ≤ (1 + k / 2 ^ 48) * slip := by
          have hpos := slip_pos.le
          gcongr
      _ ≤ 1 + (k + 1 : Nat) / 2 ^ 48 := by
          rw [slip]
          push_cast
          nlinarith

theorem slip_pow_le_two {k : Nat} (hk : k ≤ 2 ^ 48) : slip ^ k ≤ 2 := by
  have hk' : (k : ℚ) ≤ 2 ^ 48 := by exact_mod_cast hk
  refine (slip_pow_le hk).trans ?_
  have h : (k : ℚ) / 2 ^ 48 ≤ 1 := (div_le_one (by norm_num)).2 hk'
  linarith

/-- Two numbers miss each other by no more than `k` roundings. -/
structure Within (k : Nat) (a b : ℚ) : Prop where
  le : a ≤ slip ^ k * b
  ge : b ≤ slip ^ k * a

namespace Within

variable {j k : Nat} {a b c d : ℚ}

theorem refl (k : Nat) (h : 0 ≤ a) : Within k a a where
  le := le_mul_of_one_le_left h (one_le_slip_pow k)
  ge := le_mul_of_one_le_left h (one_le_slip_pow k)

theorem mono (h : Within j a b) (ha : 0 ≤ a) (hb : 0 ≤ b) (hjk : j ≤ k) : Within k a b where
  le := h.le.trans (mul_le_mul_of_nonneg_right (pow_le_pow_right₀ one_le_slip hjk) hb)
  ge := h.ge.trans (mul_le_mul_of_nonneg_right (pow_le_pow_right₀ one_le_slip hjk) ha)

/-- What is missed by few roundings is missed by a factor of two at most. -/
theorem le_two_mul (h : Within k a b) (hb : 0 ≤ b) (hk : k ≤ 2 ^ 48) : a ≤ 2 * b :=
  h.le.trans (mul_le_mul_of_nonneg_right (slip_pow_le_two hk) hb)

theorem le_two_mul' (h : Within k a b) (ha : 0 ≤ a) (hk : k ≤ 2 ^ 48) : b ≤ 2 * a :=
  h.ge.trans (mul_le_mul_of_nonneg_right (slip_pow_le_two hk) ha)

theorem pos (h : Within k a b) (hb : 0 < b) : 0 < a :=
  pos_of_mul_pos_right (hb.trans_le h.ge) (slip_pow_pos k).le

theorem trans (h : Within j a b) (h' : Within k b c) : Within (j + k) a c where
  le := by
    calc a ≤ slip ^ j * b := h.le
      _ ≤ slip ^ j * (slip ^ k * c) := mul_le_mul_of_nonneg_left h'.le (slip_pow_pos j).le
      _ = slip ^ (j + k) * c := by rw [pow_add, mul_assoc]
  ge := by
    calc c ≤ slip ^ k * b := h'.ge
      _ ≤ slip ^ k * (slip ^ j * a) := mul_le_mul_of_nonneg_left h.ge (slip_pow_pos k).le
      _ = slip ^ (j + k) * a := by rw [pow_add]; ring

theorem mul (h : Within j a b) (h' : Within k c d) (ha : 0 ≤ a) (hb : 0 ≤ b) (hc : 0 ≤ c)
    (hd : 0 ≤ d) : Within (j + k) (a * c) (b * d) where
  le := by
    calc a * c ≤ slip ^ j * b * (slip ^ k * d) :=
          mul_le_mul h.le h'.le hc (mul_nonneg (slip_pow_pos j).le hb)
      _ = slip ^ (j + k) * (b * d) := by rw [pow_add]; ring
  ge := by
    calc b * d ≤ slip ^ j * a * (slip ^ k * c) :=
          mul_le_mul h.ge h'.ge hd (mul_nonneg (slip_pow_pos j).le ha)
      _ = slip ^ (j + k) * (a * c) := by rw [pow_add]; ring

theorem inv (h : Within k a b) (ha : 0 < a) (hb : 0 < b) : Within k a⁻¹ b⁻¹ where
  le := by
    rw [← div_eq_mul_inv, inv_le_comm₀ ha (div_pos (slip_pow_pos k) hb), inv_div,
      div_le_iff₀ (slip_pow_pos k), mul_comm]
    exact h.ge
  ge := by
    rw [← div_eq_mul_inv, inv_le_comm₀ hb (div_pos (slip_pow_pos k) ha), inv_div,
      div_le_iff₀ (slip_pow_pos k), mul_comm]
    exact h.le

end Within

/-! ### Roundings -/

theorem top_pos : 0 < top :=
  two_zpow_pos 1024

theorem inv_top : top⁻¹ = 2 ^ (-1024 : Int) := by
  rw [top, ← zpow_neg]

theorem one_lt_top : 1 < top :=
  one_lt_zpow₀ one_lt_two (by decide)

theorem four_le_top : 4 ≤ top := by
  have h : (2 : ℚ) ^ (2 : Int) ≤ top := zpow_le_zpow_right₀ one_le_two (by decide)
  norm_num at h
  exact h

theorem inv_top_le_one : top⁻¹ ≤ 1 := by
  rw [inv_top]
  exact zpow_le_one_of_nonpos₀ one_le_two (by decide)

theorem leastScaled_eq : leastScaled = 4 * top⁻¹ := by
  rw [inv_top, leastScaled, show (-1022 : Int) = 2 + -1024 from rfl, zpow_add₀ two_ne_zero]
  norm_num

/-- **A number that is not too small is missed by one rounding at most.** -/
theorem Rounded.within {q : ℚ} {m : Nat} {e : Int} (h : Rounded q m e) (hq : top⁻¹ ≤ 2 * q) :
    Within 1 (dyadic m e) q := by
  have hmax : max q leastScaled ≤ 8 * q := by
    have hpos : 0 < top⁻¹ := inv_pos.2 top_pos
    refine max_le (by linarith) ?_
    rw [leastScaled_eq]
    linarith
  have hnear := abs_le.1 h.near
  constructor
  · rw [pow_one, slip]
    linarith
  · rw [pow_one, slip]
    linarith

/-- What overflows is not far below the limit of doubles. -/
theorem top_le_slip_mul {q : ℚ} (h : top ≤ (1 + 1 / 2 ^ 53) * q) : top ≤ slip * q := by
  have hq : 0 < q := pos_of_mul_pos_right (top_pos.trans_le h) (by norm_num)
  refine h.trans (mul_le_mul_of_nonneg_right ?_ hq.le)
  norm_num [slip]

/-! ### Products -/

section Products

variable {s t : Bool} {m n : Nat} {e f : Int}

theorem mantissa_pos (h : 0 < dyadic m e) : 0 < m := by
  by_contra hzero
  rw [Nat.eq_zero_of_not_pos hzero, dyadic, Nat.cast_zero, zero_mul] at h
  exact lt_irrefl _ h

theorem dyadic_mul (m n : Nat) (e f : Int) :
    dyadic (m * n) (e + f) = dyadic m e * dyadic n f := by
  unfold dyadic
  rw [zpow_add₀ two_ne_zero]
  push_cast
  ring

/-- A dyadic number is rounded to the double next to it. -/
theorem ofDyadic_nearest (s : Bool) (m : Nat) (e : Int) :
    Nearest s (dyadic m e) (ofDyadic s m e) := by
  have hratio : ((shifted m 1 (-e)).1 : ℚ) / (shifted m 1 (-e)).2 = dyadic m e := by
    rw [shifted_ratio, Nat.cast_one, div_one, zpow_neg, div_inv_eq_mul, dyadic]
  have h := ofRatio_nearest s (shifted m 1 (-e)).1 (shifted_pos m Nat.one_pos (-e))
  rwa [hratio] at h

/-- A product of finite doubles is the double next to the product of their values. -/
theorem finite_mul_nearest (s : Bool) (m n : Nat) (e g : Int) :
    Nearest s (dyadic m e * dyadic n g) ((finite s m e).mul (finite false n g)) := by
  have hsign : (s != false) = s := Bool.bne_false s
  change Nearest s _ (ofDyadic (s != false) (m * n) (e + g))
  rw [hsign, ← dyadic_mul]
  exact ofDyadic_nearest s (m * n) (e + g)

end Products

/-! ### Powers of ten -/

/-- A double stands for a number, up to `k` roundings: it is next to it, or it is infinite where the
number is too large for any double. -/
inductive Near (k : Nat) : Double → ℚ → Prop where
  | finite {m : Nat} {e : Int} {q : ℚ} (h : Within k (dyadic m e) q) (hlt : dyadic m e < top) :
      Near k (.finite false m e) q
  | infinite {q : ℚ} (h : top ≤ slip ^ k * q) : Near k (.infinite false) q

/-- Rounding what is next to a number is next to it, with one rounding more. -/
theorem Nearest.near {k : Nat} {d : Double} {x q : ℚ} (h : Nearest false x d) (hx : Within k x q)
    (hhalf : 1 ≤ 2 * x) : Near (k + 1) d q := by
  cases h with
  | finite hrounded =>
    refine .finite ?_ hrounded.lt
    rw [Nat.add_comm]
    exact (hrounded.within (inv_top_le_one.trans hhalf)).trans hx
  | infinite htop =>
    refine .infinite ((top_le_slip_mul htop).trans ?_)
    calc slip * x ≤ slip * (slip ^ k * q) := mul_le_mul_of_nonneg_left hx.le slip_pos.le
      _ = slip ^ (k + 1) * q := by rw [pow_succ']; ring

namespace Near

variable {j k : Nat} {d d' : Double} {q q' : ℚ}

/-- **A product stands for the product**, with one rounding more. -/
theorem mul (h : Near j d q) (h' : Near k d' q') (hq : 1 ≤ q) (hq' : 1 ≤ q')
    (hjk : j + k ≤ 2 ^ 48) : Near (j + k + 1) (d.mul d') (q * q') := by
  have hqpos : 0 < q := by linarith
  have hqpos' : 0 < q' := by linarith
  -- What is too large stays so when it is multiplied by something of at least one.
  have hlarge : ∀ {i : Nat} {x : ℚ}, i ≤ j + k + 1 → 0 ≤ x → x ≤ q * q' → top ≤ slip ^ i * x →
      top ≤ slip ^ (j + k + 1) * (q * q') := fun hi hx hle htop =>
    htop.trans (mul_le_mul (pow_le_pow_right₀ one_le_slip hi) hle hx (slip_pow_pos _).le)
  have hleft : q ≤ q * q' := le_mul_of_one_le_right hqpos.le hq'
  have hright : q' ≤ q * q' := le_mul_of_one_le_left hqpos'.le hq
  cases h with
  | infinite h =>
    have hmul : (Double.infinite false).mul d' = .infinite false := by
      cases h' with
      | infinite _ => rfl
      | finite h' _ => exact if_neg (mantissa_pos (h'.pos hqpos')).ne'
    rw [hmul]
    exact .infinite (hlarge (by omega) hqpos.le hleft h)
  | @finite m e _ h _ =>
    have hm := mantissa_pos (h.pos hqpos)
    cases h' with
    | infinite h' =>
      have hmul : (Double.finite false m e).mul (.infinite false) = .infinite false := if_neg hm.ne'
      rw [hmul]
      exact .infinite (hlarge (by omega) hqpos'.le hright h')
    | @finite n f _ h' _ =>
      have hwithin : Within (j + k) (dyadic m e * dyadic n f) (q * q') :=
        h.mul h' (dyadic_nonneg m e) hqpos.le (dyadic_nonneg n f) hqpos'.le
      have hhalf : 1 ≤ 2 * (dyadic m e * dyadic n f) :=
        (hq.trans hleft).trans
          (hwithin.le_two_mul' (mul_nonneg (dyadic_nonneg m e) (dyadic_nonneg n f)) hjk)
      exact (finite_mul_nearest false m n e f).near hwithin hhalf

/-- **A power by squaring stands for the power**, with as many roundings as it has factors. -/
theorem powAcc {acc base : Double} {a b : ℚ} (hacc : Near j acc a) (hbase : Near k base b)
    (ha : 1 ≤ a) (hb : 1 ≤ b) (n : Nat) (hn : j + (k + 1) * n ≤ 2 ^ 48) :
    Near (j + (k + 1) * n) (acc.powAcc base n) (a * b ^ n) := by
  induction n using Nat.strong_induction_on generalizing j k acc base a b with
  | _ n ih =>
    have hdivide := Nat.mod_add_div n 2
    have hcount : j + (k + 1) * (n % 2) + (k + k + 1 + 1) * (n / 2) = j + (k + 1) * n := by
      conv_rhs => rw [← hdivide]
      ring
    have hvalue : a * b ^ (n % 2) * (b * b) ^ (n / 2) = a * b ^ n := by
      rw [← pow_two, ← pow_mul, mul_assoc, ← pow_add, hdivide]
    -- The factor of an odd power is multiplied in at once.
    have hacc' : Near (j + (k + 1) * (n % 2)) (if n % 2 = 1 then acc.mul base else acc)
        (a * b ^ (n % 2)) := by
      rcases Nat.mod_two_eq_zero_or_one n with heven | hodd
      · rw [heven, if_neg Nat.zero_ne_one, Nat.mul_zero, pow_zero, mul_one]
        exact hacc
      · rw [hodd, if_pos rfl, Nat.mul_one, pow_one]
        have hone : (k + 1) * 1 ≤ (k + 1) * n := Nat.mul_le_mul_left _ (by omega)
        exact hacc.mul hbase ha hb (by omega)
    rw [Double.powAcc, ← hcount, ← hvalue]
    by_cases hlast : n / 2 = 0
    · rw [if_pos hlast, hlast, Nat.mul_zero, pow_zero, mul_one]
      exact hacc'
    · rw [if_neg hlast]
      have htwo : (k + 1) * 2 ≤ (k + 1) * n := Nat.mul_le_mul_left _ (by omega)
      have hsquare : Near (k + k + 1) (base.mul base) (b * b) :=
        hbase.mul hbase hb hb (by omega)
      refine ih (n / 2) (by omega) hacc' hsquare ?_ (one_le_mul_of_one_le_of_one_le hb hb)
        (hcount.trans_le hn)
      exact one_le_mul_of_one_le_of_one_le ha (one_le_pow₀ hb)

end Near

/-- A double serves as a factor for a positive number: it is next to it, or the number is far
outside the range of doubles and it is infinite or zero. -/
inductive Factor : Double → ℚ → Prop where
  | finite {m : Nat} {e : Int} {q : ℚ} (h : Within 400 (dyadic m e) q) (hlt : q < top) :
      Factor (.finite false m e) q
  | infinite {q : ℚ} (h : 2 * top ≤ q) : Factor (.infinite false) q
  | zero {q : ℚ} (h : 2 * top * q ≤ 1) : Factor (zero false) q

/-- A number of at least one is not too small for doubles. -/
theorem not_two_top_mul_le {q : ℚ} (hq : 1 ≤ q) : ¬ 2 * top * q ≤ 1 := by
  have hle : 2 * top * 1 ≤ 2 * top * q := mul_le_mul_of_nonneg_left hq (by linarith [top_pos])
  have htop := one_lt_top
  linarith

theorem ofNat_one : ofNat 1 = .finite false (2 ^ 52) (-52) := by
  decide

theorem dyadic_one : dyadic (2 ^ 52) (-52) = 1 := by
  norm_num [dyadic]

theorem near_one : Near 0 (ofNat 1) 1 := by
  rw [ofNat_one]
  refine .finite ?_ ?_
  · rw [dyadic_one]
    exact .refl 0 zero_le_one
  · rw [dyadic_one]
    exact one_lt_top

theorem near_ten : Near 0 (ofNat 10) 10 := by
  have hten : ofNat 10 = .finite false (10 * 2 ^ 49) (-49) := by decide
  have hvalue : dyadic (10 * 2 ^ 49) (-49) = 10 := by norm_num [dyadic]
  rw [hten]
  refine .finite ?_ ?_
  · rw [hvalue]
    exact .refl 0 (by norm_num)
  · have h : (2 : ℚ) ^ (4 : Int) < 2 ^ (1024 : Int) := zpow_lt_zpow_right₀ one_lt_two (by decide)
    rw [hvalue, top]
    exact lt_trans (by norm_num) h

theorem top_eq : top = 2 ^ 1024 :=
  zpow_natCast 2 1024

/-- `10 ^ 308` is a double. -/
theorem slip_pow_mul_lt_top {n : Nat} (hn : n ≤ 308) : slip ^ n * 10 ^ n < top := by
  have hlarge : (10001 / 1000 : ℚ) ^ 308 < top := by
    have h : 10001 ^ 308 < 2 ^ 1024 * 1000 ^ 308 := by decide +kernel
    have hcast := Nat.cast_lt (α := ℚ).2 h
    rw [Nat.cast_mul, Nat.cast_pow, Nat.cast_pow, Nat.cast_pow] at hcast
    rw [div_pow, div_lt_iff₀ (pow_pos (by norm_num) _), top_eq]
    exact hcast
  rw [← mul_pow]
  calc (slip * 10) ^ n ≤ (slip * 10) ^ 308 :=
        pow_le_pow_right₀ (by norm_num [slip]) hn
    _ ≤ (10001 / 1000) ^ 308 :=
        pow_le_pow_left₀ (mul_nonneg slip_pos.le (by norm_num)) (by norm_num [slip]) 308
    _ < top := hlarge

/-- `10 ^ 309` is far beyond all doubles. -/
theorem slip_pow_mul_top_le {n : Nat} (hn : 308 < n) : slip ^ n * (2 * top) ≤ 10 ^ n := by
  have hlarge : 2 * top ≤ (999 / 100) ^ 309 := by
    have h : 2 * 2 ^ 1024 * 100 ^ 309 ≤ 999 ^ 309 := by decide +kernel
    have hcast := Nat.cast_le (α := ℚ).2 h
    rw [Nat.cast_mul, Nat.cast_mul, Nat.cast_pow, Nat.cast_pow, Nat.cast_pow] at hcast
    rw [div_pow, le_div_iff₀ (pow_pos (by norm_num) _), top_eq]
    exact hcast
  calc slip ^ n * (2 * top) ≤ slip ^ n * (999 / 100) ^ n := by
        have hpow : (999 / 100 : ℚ) ^ 309 ≤ (999 / 100) ^ n :=
          pow_le_pow_right₀ (by norm_num) hn
        exact mul_le_mul_of_nonneg_left (hlarge.trans hpow) (slip_pow_pos n).le
    _ = (slip * (999 / 100)) ^ n := (mul_pow _ _ _).symm
    _ ≤ 10 ^ n := pow_le_pow_left₀ (by norm_num [slip]) (by norm_num [slip]) n

/-- Positive powers of ten are finite up to `10 ^ 308`, and infinite from there. -/
theorem powAcc_ten_cases {n : Nat} (hn : n ≤ 2 ^ 48) :
    n ≤ 308 ∧ (∃ m e, (ofNat 1).powAcc (ofNat 10) n = .finite false m e ∧
        Within 308 (dyadic m e) (10 ^ n) ∧ dyadic m e < top) ∨
      308 < n ∧ (ofNat 1).powAcc (ofNat 10) n = .infinite false := by
  have hnear : Near n ((ofNat 1).powAcc (ofNat 10) n) (10 ^ n) := by
    have h := near_one.powAcc near_ten le_rfl (by norm_num) n (by omega)
    rwa [Nat.zero_add, Nat.zero_add, Nat.one_mul, one_mul] at h
  have hpos : (0 : ℚ) < 10 ^ n := by positivity
  generalize (ofNat 1).powAcc (ofNat 10) n = d at hnear ⊢
  -- The roundings of the power do not bridge the gap between `10 ^ 308` and `10 ^ 309`.
  cases hnear with
  | @finite m e _ h hlt =>
    by_cases hsmall : n ≤ 308
    · exact .inl ⟨hsmall, m, e, rfl, h.mono (dyadic_nonneg m e) hpos.le hsmall, hlt⟩
    · have hge := (slip_pow_mul_top_le (not_le.1 hsmall)).trans h.ge
      have htop := top_pos
      have hle := le_of_mul_le_mul_left hge (slip_pow_pos n)
      linarith
  | infinite h =>
    by_cases hsmall : n ≤ 308
    · exact absurd h (not_le.2 (slip_pow_mul_lt_top hsmall))
    · exact .inr ⟨not_le.1 hsmall, rfl⟩

/-- A reciprocal is the double next to the reciprocal of the value. -/
theorem one_div_nearest {n : Nat} (hn : 0 < n) (f : Int) :
    Nearest false (dyadic n f)⁻¹ ((ofNat 1).div (.finite false n f)) := by
  have hdiv : (Double.finite false (2 ^ 52) (-52)).div (.finite false n f) =
      ofRatio false (shifted (2 ^ 52) n (f - -52)).1 (shifted (2 ^ 52) n (f - -52)).2 :=
    if_neg hn.ne'
  have hratio : ((shifted (2 ^ 52) n (f - -52)).1 : ℚ) / (shifted (2 ^ 52) n (f - -52)).2 =
      (dyadic n f)⁻¹ := by
    have hmantissa : (n : ℚ) ≠ 0 := by exact_mod_cast hn.ne'
    have hpower : (2 : ℚ) ^ f ≠ 0 := (two_zpow_pos f).ne'
    rw [shifted_ratio, dyadic, sub_neg_eq_add, zpow_add₀ two_ne_zero]
    push_cast
    field_simp
  have hnearest := ofRatio_nearest false (shifted (2 ^ 52) n (f - -52)).1
    (shifted_pos (2 ^ 52) hn (f - -52))
  rwa [ofNat_one, hdiv, ← hratio]

/-- The reciprocal of a double of moderate size is finite, and rounded once. -/
theorem one_div_finite {n : Nat} {f : Int} (hn : 0 < n) (hhalf : 1 ≤ 2 * dyadic n f)
    (hlt : dyadic n f < top) :
    ∃ m e, (ofNat 1).div (.finite false n f) = .finite false m e ∧
      Within 1 (dyadic m e) (dyadic n f)⁻¹ := by
  have hpos : 0 < dyadic n f := by linarith
  have hnearest := one_div_nearest hn f
  generalize (ofNat 1).div (.finite false n f) = quotient at hnearest ⊢
  cases hnearest with
  | @finite m e hrounded =>
    refine ⟨m, e, rfl, hrounded.within ?_⟩
    have hle := inv_anti₀ hpos hlt.le
    have h := inv_pos.2 hpos
    linarith
  | infinite htop =>
    have htwo : (dyadic n f)⁻¹ ≤ 2 := (inv_le_comm₀ hpos two_pos).2 (by linarith)
    have hfour := four_le_top
    linarith

/-- **A power of ten serves as a factor**, whatever its exponent. -/
theorem factor_pow_ten {n : Int} (hn : n.natAbs ≤ 2 ^ 48) : Factor ((ofNat 10).pow n) (10 ^ n) := by
  have htop := top_pos
  have hone : (1 : ℚ) ≤ 10 ^ n.natAbs := one_le_pow₀ (by norm_num)
  have hpos : (0 : ℚ) < 10 ^ n.natAbs := zero_lt_one.trans_le hone
  have hslip := one_le_slip_pow n.natAbs
  unfold pow
  by_cases hneg : n < 0
  · have hvalue : (10 : ℚ) ^ n = (10 ^ n.natAbs)⁻¹ := by
      rw [← zpow_natCast, Int.ofNat_natAbs_of_nonpos hneg.le, zpow_neg, inv_inv]
    rw [if_pos hneg, hvalue]
    rcases powAcc_ten_cases hn with ⟨hsmall, m, e, hfinite, hwithin, hlt⟩ | ⟨hlarge, hinfinite⟩
    · have hhalf : 1 ≤ 2 * dyadic m e :=
        hone.trans (hwithin.le_two_mul' (dyadic_nonneg m e) (by norm_num))
      have hm := hwithin.pos hpos
      obtain ⟨m', e', hdiv, hround⟩ := one_div_finite (mantissa_pos hm) hhalf hlt
      rw [hfinite, hdiv]
      refine .finite ?_ ?_
      · exact (hround.trans (hwithin.inv hm hpos)).mono (dyadic_nonneg _ _) (inv_pos.2 hpos).le
          (by norm_num)
      · exact (inv_le_one_of_one_le₀ hone).trans_lt one_lt_top
    · have hdiv : (ofNat 1).div (.infinite false) = zero false := by decide
      rw [hinfinite, hdiv]
      refine .zero ((mul_inv_le_iff₀ hpos).2 ?_)
      have h := slip_pow_mul_top_le hlarge
      nlinarith
  · have hvalue : (10 : ℚ) ^ n = 10 ^ n.natAbs := by
      rw [← zpow_natCast, Int.natAbs_of_nonneg (not_lt.1 hneg)]
    rw [if_neg hneg, hvalue]
    rcases powAcc_ten_cases hn with ⟨hsmall, m, e, hfinite, hwithin, -⟩ | ⟨hlarge, hinfinite⟩
    · rw [hfinite]
      refine .finite (hwithin.mono (dyadic_nonneg m e) hpos.le (by norm_num)) ?_
      exact (le_mul_of_one_le_left hpos.le hslip).trans_lt (slip_pow_mul_lt_top hsmall)
    · rw [hinfinite]
      have h := slip_pow_mul_top_le hlarge
      exact .infinite ((le_mul_of_one_le_left (by linarith) hslip).trans h)

end Hotplug.Double
