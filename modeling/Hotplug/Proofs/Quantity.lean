import Hotplug.Proofs.Trim
import Hotplug.Quantity

/-!
# Sizes as text

A whole number is written as its digits, with a minus sign in front where it is negative. These are
read back as the number, also where a quantity is expected: there is no blank to trim, no letter
where a suffix would begin, and without a suffix a quantity is the number itself.

## Main results

* `Text.trimChars_append` — blanks around a text without blanks are cut off.
* `Digits.readInt?_ofInt` — the digits of a number are read as the number.
* `Quantity.parse?_text` — **a size that is written as a number is read as that size.**
-/

namespace Hotplug

namespace Digits

/-- The value of some digits, as the library has it. -/
theorem value_eq (cs : List Char) : value cs = Nat.ofDigitChars 10 cs 0 := by
  have hsame : (fun acc c => acc * 10 + digitValue c) =
      fun acc (c : Char) => 10 * acc + (c.toNat - '0'.toNat) := by
    funext acc c
    rw [digitValue, Nat.mul_comm]
  unfold value Nat.ofDigitChars
  rw [hsame]

theorem isDigit_of_mem_ofNat {n : Nat} {c : Char} (h : c ∈ ofNat n) : c.isDigit = true :=
  Nat.isDigit_of_mem_toDigits (by decide) (by decide) h

/-- What is read as a number is one digit or more, and has their value. -/
theorem readNat?_eq_some_iff {cs : List Char} {n : Nat} :
    readNat? cs = some n ↔
      cs ≠ [] ∧ (∀ c ∈ cs, c.isDigit = true) ∧ Nat.ofDigitChars 10 cs 0 = n := by
  unfold readNat?
  rw [← value_eq]
  by_cases hnil : cs = []
  · simp [hnil]
  · by_cases hall : ∀ c ∈ cs, c.isDigit = true
    · have hread : (cs.isEmpty || !cs.all Char.isDigit) = false := by
        simp [hnil, List.all_eq_true.2 hall]
      rw [hread, if_neg Bool.false_ne_true, Option.some.injEq]
      exact ⟨fun hvalue => ⟨hnil, hall, hvalue⟩, fun h => h.2.2⟩
    · have hother : cs.all Char.isDigit = false := by simpa using hall
      simp [hnil, hother, hall]

/-- The digits of a number are read as the number. -/
theorem readNat?_ofNat (n : Nat) : readNat? (ofNat n) = some n := by
  refine readNat?_eq_some_iff.2 ⟨Nat.toDigits_ne_nil, fun c hc => isDigit_of_mem_ofNat hc, ?_⟩
  exact Nat.ofDigitChars_toDigits (by decide) (by decide)

/-- The digits of a number do not begin with a plus sign, and are read as the number. -/
theorem readPlusNat?_ofNat (n : Nat) : readPlusNat? (ofNat n) = some n := by
  unfold readPlusNat?
  split
  · next rest heq =>
    have hplus : '+' ∈ ofNat n := by
      rw [heq]
      exact List.mem_cons_self
    have hdigit : Char.isDigit '+' = true := isDigit_of_mem_ofNat hplus
    exact absurd hdigit (by decide)
  · exact readNat?_ofNat n

/-- Digits do not begin with a sign. -/
theorem takeSign_ofNat (n : Nat) : takeSign (ofNat n) = (false, ofNat n) := by
  cases hdigits : ofNat n with
  | nil => rfl
  | cons c rest =>
    have hdigit : c.isDigit = true := isDigit_of_mem_ofNat (hdigits ▸ List.mem_cons_self)
    unfold takeSign
    split
    · next heq =>
      obtain ⟨rfl, -⟩ := List.cons.inj heq
      exact absurd hdigit (by decide)
    · next heq =>
      obtain ⟨rfl, -⟩ := List.cons.inj heq
      exact absurd hdigit (by decide)
    · rfl

/-- **The digits of a number are read as the number**, whatever its sign. -/
theorem readInt?_ofInt (n : Int) : readInt? (ofInt n) = some n := by
  unfold readInt? ofInt
  by_cases hneg : n < 0
  · rw [if_pos hneg]
    have hsign : takeSign ('-' :: ofNat n.natAbs) = (true, ofNat n.natAbs) := rfl
    simp only [hsign, readNat?_ofNat, if_true]
    change some (-(n.natAbs : Int)) = some n
    rw [Int.ofNat_natAbs_of_nonpos (Int.le_of_lt hneg), Int.neg_neg]
  · rw [if_neg hneg]
    simp only [takeSign_ofNat, readNat?_ofNat, Bool.false_eq_true, if_false]
    change some (n.natAbs : Int) = some n
    rw [Int.natAbs_of_nonneg (Int.not_lt.1 hneg)]

/-- A number is written with digits, and a minus sign. -/
theorem isDigit_or_of_mem_ofInt {n : Int} {c : Char} (h : c ∈ ofInt n) :
    c.isDigit = true ∨ c = '-' := by
  unfold ofInt at h
  split at h
  · rcases List.mem_cons.1 h with rfl | h
    · exact .inr rfl
    · exact .inl (isDigit_of_mem_ofNat h)
  · exact .inl (isDigit_of_mem_ofNat h)

/-- A number is written with something. -/
theorem text_ne_empty (n : Int) : text n ≠ "" := by
  intro h
  have hnil : ofInt n = [] := by
    have hchars := congrArg String.toList h
    rwa [text, String.toList_ofList] at hchars
  have hread : readInt? [] = some n := hnil ▸ readInt?_ofInt n
  cases hread

end Digits

namespace Text

/-- **Blanks around a text without blanks are cut off.** -/
theorem trimChars_append {cs : List Char} (before after : List Char)
    (hbefore : ∀ c ∈ before, isBlank c = true) (hcs : ∀ c ∈ cs, isBlank c = false)
    (hafter : ∀ c ∈ after, isBlank c = true) : trimChars (before ++ (cs ++ after)) = cs := by
  apply Core.trimChars_eq
  exact ⟨⟨before, after, rfl, hbefore, hafter⟩, bare_of_forall hcs⟩

end Text

namespace Quantity

/-- A text without letters has no suffix. -/
theorem cutSuffix_eq_self {cs : List Char} (h : ∀ c ∈ cs, c.isAlpha = false) :
    cutSuffix cs = (cs, []) := by
  have hall : ∀ c ∈ cs, (!c.isAlpha) = true := by
    intro c hc
    rw [h c hc]
    rfl
  unfold cutSuffix
  rw [List.takeWhile_eq_self_iff.2 hall, List.dropWhile_eq_nil_iff.2 hall]

/-- A digit or a minus sign is neither a blank nor a letter. -/
theorem not_blank_not_alpha {c : Char} (h : c.isDigit = true ∨ c = '-') :
    Text.isBlank c = false ∧ c.isAlpha = false := by
  rcases h with hdigit | rfl
  · have hbounds : 48 ≤ c.toNat ∧ c.toNat ≤ 57 := by
      unfold Char.isDigit at hdigit
      rw [Bool.and_eq_true, decide_eq_true_eq, decide_eq_true_eq] at hdigit
      exact hdigit
    constructor
    · unfold Text.isBlank
      simp only [Bool.or_eq_false_iff, Bool.and_eq_false_iff, decide_eq_false_iff_not,
        beq_eq_false_iff_ne]
      omega
    · unfold Char.isAlpha Char.isUpper Char.isLower
      rw [Bool.or_eq_false_iff, decide_eq_false_iff_not, Bool.and_eq_false_iff,
        decide_eq_false_iff_not, decide_eq_false_iff_not]
      refine ⟨fun h => ?_, .inl fun h => ?_⟩
      · have hupper : 65 ≤ c.toNat := h.1
        omega
      · have hlower : 97 ≤ c.toNat := h
        omega
  · decide

/-- **A size that is written as a number is read as that size**, if it is one of 64 bits. -/
theorem parse?_text {n : Int} (h : Width.inInt64 n = true) : parse? (Digits.text n) = some n := by
  have hchars : ∀ c ∈ Digits.ofInt n, Text.isBlank c = false ∧ c.isAlpha = false :=
    fun c hc => not_blank_not_alpha (Digits.isDigit_or_of_mem_ofInt hc)
  have hwhole : (Digits.readInt? (Digits.ofInt n)).filter Width.inInt64 = some n := by
    rw [Digits.readInt?_ofInt, Option.filter_some, if_pos h]
  have hsuffix : Scale.ofSuffix? [] = some (.decimal 0) := by decide
  have hone : (Double.ofNat 1).le (Scale.decimal 0).toDouble = true := by decide
  have hfactor : wholeFactor (Scale.decimal 0).toDouble = 1 := by decide
  unfold parse? Digits.text
  rw [String.toList_ofList, (Text.bare_of_forall fun c hc => (hchars c hc).1).trimChars_eq,
    cutSuffix_eq_self fun c hc => (hchars c hc).2]
  simp only [hsuffix, hwhole, hone]
  unfold scaleWhole?
  rw [hfactor, Int.mul_one, if_pos h]

end Quantity

end Hotplug
