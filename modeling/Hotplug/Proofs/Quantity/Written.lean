import Hotplug.Proofs.Double.Decimal
import Hotplug.Proofs.Quantity

/-!
# Quantities as they are written

A quantity is a number, whole or with a decimal point, and a suffix, with white space around it. The
structures here hold the written parts with what makes them well formed; each gives its characters,
and the exact number it stands for. Taking the text of a quantity apart gives these parts back.

## Main definitions

* `Sign`, `Literal` — an optional sign; a whole number with a sign and any leading zeros.
* `Numeral` — a whole number, or digits on some side of a decimal point.
* `Suffix` — no suffix, thousandths, a decimal or binary unit, or an exponent of 32 bits.
* `Written` — a numeral and a suffix with blanks around them; `Written.value` is its exact value.

## Main results

* `Suffix.ofSuffix?_chars` — a suffix is read as its scale.
* `Numeral.read?_chars` — a numeral is read as the double next to its value.
* `Written.parse?_text` — **the number of bytes of a written quantity**, in terms of its parts.
-/

namespace Hotplug

namespace Quantity

/-! ### Numbers -/

/-- A sign, or none. -/
inductive Sign where
  | absent
  | plus
  | minus
  deriving DecidableEq, Repr

namespace Sign

/-- The sign as it is written. -/
def chars : Sign → List Char
  | absent => []
  | plus => ['+']
  | minus => ['-']

/-- Whether the sign is minus. -/
def negative : Sign → Bool
  | minus => true
  | _ => false

end Sign

/-- A sign is taken off the front of what does not begin with one. -/
theorem takeSign_append (s : Sign) {cs : List Char} (hcs : ∀ c ∈ cs, c.isDigit = true ∨ c = '.') :
    Digits.takeSign (s.chars ++ cs) = (s.negative, cs) := by
  cases s with
  | absent =>
    change Digits.takeSign cs = (false, cs)
    unfold Digits.takeSign
    split
    · exact absurd (hcs _ List.mem_cons_self) (by decide)
    · exact absurd (hcs _ List.mem_cons_self) (by decide)
    · rfl
  | plus => rfl
  | minus => rfl

/-- A whole number as it is written: an optional sign, and one digit or more. -/
structure Literal where
  sign : Sign
  digits : List Char
  all_digits : digits.all Char.isDigit = true
  ne_nil : digits ≠ []

namespace Literal

theorem isDigit (n : Literal) : ∀ c ∈ n.digits, c.isDigit = true :=
  List.all_eq_true.1 n.all_digits

/-- The literal as it is written. -/
def chars (n : Literal) : List Char :=
  n.sign.chars ++ n.digits

/-- The number without its sign. -/
def size (n : Literal) : Nat :=
  Nat.ofDigitChars 10 n.digits 0

/-- The number. -/
def toInt (n : Literal) : Int :=
  if n.sign.negative then -(n.size : Int) else n.size

/-- **A literal is read as its number.** -/
theorem readInt?_chars (n : Literal) : Digits.readInt? n.chars = some n.toInt := by
  have hread : Digits.readNat? n.digits = some n.size :=
    Digits.readNat?_eq_some_iff.2 ⟨n.ne_nil, n.isDigit, rfl⟩
  unfold Digits.readInt? chars
  rw [takeSign_append n.sign fun c hc => .inl (n.isDigit c hc), hread]
  rfl

end Literal

/-- A number as it is written: a whole number, or digits before and after a decimal point, with one
at least on some side of it. -/
inductive Numeral where
  | whole (n : Literal)
  | point (sign : Sign) (before after : List Char) (hbefore : before.all Char.isDigit = true)
      (hafter : after.all Char.isDigit = true) (ne_nil : before ++ after ≠ [])

namespace Numeral

/-- The sign of a numeral. -/
def sign : Numeral → Sign
  | whole n => n.sign
  | point s .. => s

/-- What is written after the sign. -/
def body : Numeral → List Char
  | whole n => n.digits
  | point _ before after .. => before ++ '.' :: after

/-- The numeral as it is written. -/
def chars (n : Numeral) : List Char :=
  n.sign.chars ++ n.body

/-- The digits on both sides of the point. -/
def digits : Numeral → List Char
  | whole n => n.digits
  | point _ before after .. => before ++ after

/-- How many digits follow the point. -/
def places : Numeral → Nat
  | whole _ => 0
  | point _ _ after .. => after.length

/-- The number without its sign. -/
def size (n : Numeral) : ℚ :=
  Nat.ofDigitChars 10 n.digits 0 / 10 ^ n.places

/-- The number. -/
def value (n : Numeral) : ℚ :=
  Double.signed n.sign.negative n.size

theorem size_nonneg (n : Numeral) : 0 ≤ n.size := by
  unfold size
  positivity

theorem value_whole (n : Literal) : (whole n).value = n.toInt := by
  have hsize : (whole n).size = n.size := by
    change (Nat.ofDigitChars 10 n.digits 0 : ℚ) / 10 ^ 0 = n.size
    rw [pow_zero, div_one]
    rfl
  unfold value Double.signed Literal.toInt
  rw [hsize]
  change (if n.sign.negative = true then _ else _) = _
  split
  · push_cast
    rfl
  · push_cast
    rfl

theorem isDigit_or_of_mem_body {n : Numeral} {c : Char} (h : c ∈ n.body) :
    c.isDigit = true ∨ c = '.' := by
  cases n with
  | whole n => exact .inl (n.isDigit c h)
  | point s before after hbefore hafter hne =>
    rcases List.mem_append.1 h with hmem | hmem
    · exact .inl (List.all_eq_true.1 hbefore c hmem)
    · rcases List.mem_cons.1 hmem with rfl | hmem
      · exact .inr rfl
      · exact .inl (List.all_eq_true.1 hafter c hmem)

/-- A numeral is written with digits, a sign and a point. -/
theorem isDigit_or_of_mem_chars {n : Numeral} {c : Char} (h : c ∈ n.chars) :
    c.isDigit = true ∨ c = '-' ∨ c = '+' ∨ c = '.' := by
  rcases List.mem_append.1 h with hsign | hbody
  · cases hs : n.sign with
    | absent =>
      rw [hs] at hsign
      cases hsign
    | plus =>
      rw [hs] at hsign
      exact .inr (.inr (.inl (List.mem_singleton.1 hsign)))
    | minus =>
      rw [hs] at hsign
      exact .inr (.inl (List.mem_singleton.1 hsign))
  · rcases isDigit_or_of_mem_body hbody with hdigit | hpoint
    · exact .inl hdigit
    · exact .inr (.inr (.inr hpoint))

/-- What a numeral is written with is neither a blank nor a letter. -/
theorem not_blank_not_alpha_of_mem_chars {n : Numeral} {c : Char} (h : c ∈ n.chars) :
    Text.isBlank c = false ∧ c.isAlpha = false := by
  rcases isDigit_or_of_mem_chars h with hdigit | rfl | rfl | rfl
  · exact not_blank_not_alpha (.inl hdigit)
  · exact not_blank_not_alpha (.inr rfl)
  · decide
  · decide

/-- With a point, a numeral is not read as a whole number. -/
theorem readInt?_point (s : Sign) {before after : List Char} (hbefore hafter hne) :
    Digits.readInt? (point s before after hbefore hafter hne).chars = none := by
  have hread : Digits.readNat? (before ++ '.' :: after) = none := by
    rw [Option.eq_none_iff_forall_not_mem]
    intro n hn
    have hpoint := (Digits.readNat?_eq_some_iff.1 hn).2.1 '.' (by simp)
    exact absurd hpoint (by decide)
  have hbody : (point s before after hbefore hafter hne).body = before ++ '.' :: after := rfl
  unfold Digits.readInt? chars
  rw [takeSign_append _ fun c hc => isDigit_or_of_mem_body hc, hbody, hread]
  rfl

/-- The digits of a numeral are read with the place of the point. -/
theorem readPoint?_body (n : Numeral) :
    Double.readPoint? n.body = some (Nat.ofDigitChars 10 n.digits 0, -(n.places : Int)) := by
  cases n with
  | whole n =>
    have htake : n.digits.takeWhile Char.isDigit = n.digits :=
      List.takeWhile_eq_self_iff.2 n.isDigit
    have hdrop : n.digits.dropWhile Char.isDigit = [] := List.dropWhile_eq_nil_iff.2 n.isDigit
    have hempty : n.digits.isEmpty = false := by simpa using n.ne_nil
    change Double.readPoint? n.digits = some (Nat.ofDigitChars 10 n.digits 0, 0)
    unfold Double.readPoint?
    rw [hdrop, htake, ← Digits.value_eq]
    exact if_neg (by rw [hempty]; exact Bool.false_ne_true)
  | point s before after hbefore hafter hne =>
    have hdigit : Char.isDigit '.' = false := by decide
    have htake : (before ++ '.' :: after).takeWhile Char.isDigit = before := by
      rw [List.takeWhile_append_of_pos (List.all_eq_true.1 hbefore), List.takeWhile_cons, hdigit]
      exact List.append_nil before
    have hdrop : (before ++ '.' :: after).dropWhile Char.isDigit = '.' :: after := by
      rw [List.dropWhile_append_of_pos (List.all_eq_true.1 hbefore), List.dropWhile_cons, hdigit]
      rfl
    have hread : (after.all Char.isDigit && !(before.isEmpty && after.isEmpty)) = true := by
      rw [hafter, Bool.true_and, Bool.not_eq_true', ← Bool.not_eq_true,
        Bool.and_eq_true, List.isEmpty_iff, List.isEmpty_iff, ← List.append_eq_nil_iff]
      exact hne
    change Double.readPoint? (before ++ '.' :: after) =
      some (Nat.ofDigitChars 10 (before ++ after) 0, -(after.length : Int))
    unfold Double.readPoint?
    rw [hdrop, htake, ← Digits.value_eq]
    exact if_pos hread

theorem toLower_eq_self {c : Char} (h : c.isAlpha = false) : c.toLower = c := by
  have hupper : c.isUpper = false := (Bool.or_eq_false_iff.1 h).1
  exact dif_neg (decide_eq_false_iff_not.1 hupper)

/-- A numeral has no upper case letters to be made lower. -/
theorem map_toLower_body (n : Numeral) : n.body.map Char.toLower = n.body := by
  have hself : ∀ c ∈ n.body, c.toLower = c := by
    intro c hc
    rcases isDigit_or_of_mem_body hc with hdigit | rfl
    · exact toLower_eq_self (not_blank_not_alpha (.inl hdigit)).2
    · decide
  rw [List.map_congr_left hself, List.map_id']

/-- A numeral has no exponent mark. -/
theorem cutExponent_body (n : Numeral) : Double.cutExponent n.body = (n.body, none) := by
  have hdrop : n.body.dropWhile (fun c => c != 'e' && c != 'E') = [] := by
    refine List.dropWhile_eq_nil_iff.2 fun c hc => ?_
    rcases isDigit_or_of_mem_body hc with hdigit | rfl
    · rw [Bool.and_eq_true, bne_iff_ne, bne_iff_ne]
      constructor <;> rintro rfl <;> exact absurd hdigit (by decide)
    · decide
  unfold Double.cutExponent
  rw [hdrop]

/-- The double a numeral is read as. -/
def toDouble (n : Numeral) : Double :=
  Double.ofDecimal n.sign.negative (Nat.ofDigitChars 10 n.digits 0) (-n.places)

/-- It is the one next to the number. -/
theorem nearest (n : Numeral) : Double.Nearest n.sign.negative n.size n.toDouble :=
  Double.ofDecimal_nearest n.sign.negative (Nat.ofDigitChars 10 n.digits 0) n.places

/-- **A numeral is read as the double next to its number.** -/
theorem read?_chars (n : Numeral) : Double.read? n.chars = some n.toDouble := by
  -- The words that are numbers have a letter.
  have hword : ∀ t : String, 'n' ∈ t.toList → (String.ofList n.body == t) = false := by
    intro t ht
    refine beq_eq_false_iff_ne.2 fun heq => ?_
    rw [← heq, String.toList_ofList] at ht
    exact absurd (isDigit_or_of_mem_body ht) (by decide)
  unfold Double.read? chars
  rw [takeSign_append _ fun c hc => isDigit_or_of_mem_body hc]
  simp only [map_toLower_body, hword "inf" (by decide), hword "infinity" (by decide),
    hword "nan" (by decide), Bool.or_self, Bool.false_eq_true, if_false, cutExponent_body,
    readPoint?_body, Option.map_some]
  rfl

end Numeral

/-! ### Suffixes -/

/-- The steps of a decimal or binary unit. -/
inductive Magnitude where
  | kilo
  | mega
  | giga
  | tera
  | peta
  | exa
  deriving DecidableEq, Repr

namespace Magnitude

/-- Which step a magnitude is. -/
def order : Magnitude → Nat
  | kilo => 1
  | mega => 2
  | giga => 3
  | tera => 4
  | peta => 5
  | exa => 6

/-- The letter of a decimal unit. -/
def decimalLetter : Magnitude → Char
  | kilo => 'k'
  | mega => 'M'
  | giga => 'G'
  | tera => 'T'
  | peta => 'P'
  | exa => 'E'

/-- The first letter of a binary unit. -/
def binaryLetter : Magnitude → Char
  | kilo => 'K'
  | mega => 'M'
  | giga => 'G'
  | tera => 'T'
  | peta => 'P'
  | exa => 'E'

end Magnitude

/-- What may follow a number. -/
inductive Suffix where
  | bare
  | milli
  | decimal (unit : Magnitude)
  | binary (unit : Magnitude)
  | exponent (mark : Char) (hmark : mark = 'e' ∨ mark = 'E') (n : Literal)
      (hn : Width.inInt32 n.toInt = true)

namespace Suffix

/-- The suffix as it is written. -/
def chars : Suffix → List Char
  | bare => []
  | milli => ['m']
  | decimal unit => [unit.decimalLetter]
  | binary unit => [unit.binaryLetter, 'i']
  | exponent mark _ n _ => mark :: n.chars

/-- What a suffix multiplies by. -/
def factor : Suffix → ℚ
  | bare => 1
  | milli => 1 / 1000
  | decimal unit => 1000 ^ unit.order
  | binary unit => 1024 ^ unit.order
  | exponent _ _ n _ => 10 ^ n.toInt

/-- The scale a suffix stands for. -/
def scale : Suffix → Scale
  | bare => .decimal 0
  | milli => .milli
  | decimal unit => .decimal (3 * unit.order)
  | binary unit => .binary unit.order
  | exponent _ _ n _ => .power n.toInt

/-- A suffix begins with a letter, if it is written at all. -/
theorem isAlpha_head {s : Suffix} {c : Char} (h : c ∈ s.chars.head?) : c.isAlpha = true := by
  cases s with
  | bare => cases h
  | milli => cases h; decide
  | decimal unit => cases unit <;> cases h <;> decide
  | binary unit => cases unit <;> cases h <;> decide
  | exponent mark hmark n hn =>
    cases h
    rcases hmark with rfl | rfl <;> decide

/-- There is no blank in a suffix. -/
theorem not_blank_of_mem_chars {s : Suffix} {c : Char} (h : c ∈ s.chars) :
    Text.isBlank c = false := by
  cases s with
  | bare => cases h
  | milli =>
    rw [List.mem_singleton.1 h]
    decide
  | decimal unit =>
    rw [List.mem_singleton.1 h]
    cases unit <;> decide
  | binary unit =>
    rcases List.mem_pair.1 h with rfl | rfl
    · cases unit <;> decide
    · decide
  | exponent mark hmark n hn =>
    rcases List.mem_cons.1 h with rfl | hmem
    · rcases hmark with rfl | rfl <;> decide
    · exact (Numeral.not_blank_not_alpha_of_mem_chars (n := .whole n) hmem).1

/-- No unit ends with a digit. -/
theorem units_ne {cs : List Char} {c : Char} (hc : c ∈ cs.getLast?) (hdigit : c.isDigit = true) :
    Scale.units.find? (fun u => u.1.toList == cs) = none := by
  have hlast : Scale.units.all (fun u => !u.1.toList.getLast?.any Char.isDigit) = true := by decide
  refine List.find?_eq_none.2 fun u hu heq => ?_
  have hother := List.all_eq_true.1 hlast u hu
  rw [eq_of_beq heq, Option.mem_def.1 hc, Option.any_some, hdigit] at hother
  cases hother

/-- **A suffix is read as its scale.** -/
theorem ofSuffix?_chars (s : Suffix) : Scale.ofSuffix? s.chars = some s.scale := by
  cases s with
  | bare => decide
  | milli => decide
  | decimal unit => cases unit <;> decide
  | binary unit => cases unit <;> decide
  | exponent mark hmark n hn =>
    have hlast : n.digits.getLast n.ne_nil ∈ (mark :: n.chars).getLast? := by
      rw [Literal.chars, ← List.cons_append, List.getLast?_append_of_ne_nil _ n.ne_nil,
        List.getLast?_eq_getLast_of_ne_nil n.ne_nil]
      rfl
    have hmarked : (decide (mark = 'e') || decide (mark = 'E')) = true := by simpa using hmark
    change Scale.ofSuffix? (mark :: n.chars) = some (.power n.toInt)
    unfold Scale.ofSuffix?
    rw [units_ne hlast (n.isDigit _ (List.getLast_mem n.ne_nil))]
    change Scale.ofExponent? (mark :: n.chars) = some (.power n.toInt)
    simp only [Scale.ofExponent?, hmarked, n.readInt?_chars, hn, if_true]

end Suffix

/-! ### Quantities -/

/-- A quantity as it is written, with white space around it. -/
structure Written where
  before : List Char
  numeral : Numeral
  suffix : Suffix
  after : List Char
  hbefore : before.all Text.isBlank = true
  hafter : after.all Text.isBlank = true

namespace Written

/-- The text of a quantity. -/
def text (w : Written) : String :=
  String.ofList (w.before ++ (w.numeral.chars ++ w.suffix.chars ++ w.after))

/-- The exact number a quantity stands for. -/
def value (w : Written) : ℚ :=
  w.numeral.value * w.suffix.factor

/-- A quantity is cut between its number and its suffix. -/
theorem cutSuffix_text (w : Written) :
    cutSuffix (Text.trimChars w.text.toList) = (w.numeral.chars, w.suffix.chars) := by
  have hcore : ∀ c ∈ w.numeral.chars ++ w.suffix.chars, Text.isBlank c = false := by
    intro c hc
    rcases List.mem_append.1 hc with hnumeral | hsuffix
    · exact (Numeral.not_blank_not_alpha_of_mem_chars hnumeral).1
    · exact Suffix.not_blank_of_mem_chars hsuffix
  have hnumeral : ∀ c ∈ w.numeral.chars, (!c.isAlpha) = true := by
    intro c hc
    rw [(Numeral.not_blank_not_alpha_of_mem_chars hc).2]
    rfl
  rw [text, String.toList_ofList, Text.trimChars_append w.before w.after (List.all_eq_true.1 w.hbefore) hcore
      (List.all_eq_true.1 w.hafter), cutSuffix,
    List.takeWhile_append_of_pos hnumeral, List.dropWhile_append_of_pos hnumeral]
  cases hchars : w.suffix.chars with
  | nil => rw [List.takeWhile_nil, List.dropWhile_nil, List.append_nil]
  | cons c cs =>
    have halpha : c.isAlpha = true := Suffix.isAlpha_head (s := w.suffix) (by rw [hchars]; rfl)
    rw [List.takeWhile_cons, List.dropWhile_cons, halpha]
    exact congrArg (·, c :: cs) (List.append_nil _)

/-- The whole number of 64 bits a quantity is written with, if it is written with one. -/
def whole? (w : Written) : Option Int :=
  match w.numeral with
  | .whole n => if Width.inInt64 n.toInt then some n.toInt else none
  | .point .. => none

theorem readInt?_filter (w : Written) :
    (Digits.readInt? w.numeral.chars).filter Width.inInt64 = w.whole? := by
  unfold whole?
  cases w.numeral with
  | whole n =>
    change (Digits.readInt? n.chars).filter Width.inInt64 = _
    rw [n.readInt?_chars, Option.filter_some]
  | point s before after hbefore hafter hne =>
    rw [Numeral.readInt?_point]
    rfl

/-- **The number of bytes of a written quantity.** A whole number of 64 bits with a factor of at
least one is scaled exactly, and every other number as a double. -/
theorem parse?_text (w : Written) :
    parse? w.text =
      match w.whole?, (Double.ofNat 1).le w.suffix.scale.toDouble with
      | some n, true => scaleWhole? n w.suffix.scale.toDouble
      | _, _ => scaleDouble? w.numeral.toDouble w.suffix.scale.toDouble := by
  unfold parse?
  rw [w.cutSuffix_text]
  cases hwhole : w.whole? with
  | none =>
    simp only [w.suffix.ofSuffix?_chars, w.readInt?_filter, w.numeral.read?_chars, hwhole]
  | some n =>
    cases hle : (Double.ofNat 1).le w.suffix.scale.toDouble <;>
      simp only [w.suffix.ofSuffix?_chars, w.readInt?_filter, w.numeral.read?_chars, hwhole, hle]

end Written

end Quantity

end Hotplug
