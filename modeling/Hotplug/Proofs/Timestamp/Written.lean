import Hotplug.Proofs.Quantity
import Hotplug.Proofs.Timestamp.Calendar
import Mathlib.Data.Rat.Floor
import Mathlib.Tactic.Positivity
import Mathlib.Tactic.Ring

/-!
# Timestamps as they are written

A point in time is written as a date, a time of day with any fraction of a second, and how far the
local clock is ahead. The structures here hold the written parts with what makes them well formed;
each gives its characters. What a written time stands for is an exact number of seconds since the
start of 1970: the days are counted on the calendar, and the sixtieth second of a minute is as late
as the first of the next.

## Main definitions

* `Figures count` — so many digits.
* `Fraction`, `Offset` — a fraction of a second, or none; how far the local clock is ahead.
* `Written` — a written time; `Written.Valid` says that it is a date and a time of day.
* `Written.Denotes w t` — a written time is `t` seconds after the start of 1970.

## Main results

* `Written.read?_eq_some_iff` — **a text is read exactly if it is a written time.**
* `Written.Valid.instant_eq` — what is read is when the written time is, to the nanosecond.
-/

namespace Hotplug.Timestamp

variable {cs rest : List Char} {count n : Nat}

/-! ### Digits -/

/-- So many digits. -/
structure Figures (count : Nat) where
  chars : List Char
  length : chars.length = count
  isDigit : ∀ c ∈ chars, c.isDigit = true

/-- The number of some digits. -/
def Figures.value (f : Figures count) : Nat :=
  Nat.ofDigitChars 10 f.chars 0

/-- Digits are taken off the front of a text that begins with so many. -/
theorem takeDigits?_eq_some_iff (hcount : 0 < count) :
    takeDigits? count cs = some (n, rest) ↔
      ∃ f : Figures count, cs = f.chars ++ rest ∧ f.value = n := by
  unfold takeDigits?
  constructor
  · intro h
    obtain ⟨m, hread, hlast⟩ := Option.bind_eq_some_iff.1 h
    obtain ⟨-, hdigits, rfl⟩ := Digits.readNat?_eq_some_iff.1 hread
    split at hlast
    · next hlength =>
      cases hlast
      refine ⟨⟨cs.take count, List.length_take_of_le hlength, hdigits⟩, ?_, rfl⟩
      exact (List.take_append_drop count cs).symm
    · cases hlast
  · rintro ⟨⟨digits, rfl, hdigits⟩, rfl, rfl⟩
    have hne : digits ≠ [] := List.ne_nil_of_length_pos hcount
    have hread : Digits.readNat? digits = some _ :=
      Digits.readNat?_eq_some_iff.2 ⟨hne, hdigits, rfl⟩
    rw [List.take_left, hread, Option.bind_some, if_pos (by simp), List.drop_left]
    rfl

/-- One of some characters is taken off the front of a text that begins with it. -/
theorem takeOneOf?_eq_some_iff {allowed : List Char} :
    takeOneOf? allowed cs = some rest ↔ ∃ c ∈ allowed, cs = c :: rest := by
  cases cs with
  | nil => simp [takeOneOf?]
  | cons c cs =>
    unfold takeOneOf?
    by_cases hmem : c ∈ allowed
    · simp [hmem]
    · simp only [List.contains_iff_mem, hmem, if_false, List.cons.injEq]
      constructor
      · intro h
        cases h
      · rintro ⟨_, hallowed, rfl, -⟩
        exact absurd hallowed hmem

/-- Fewer digits have a smaller number. -/
theorem ofDigitChars_lt_pow (h : ∀ c ∈ cs, c.isDigit = true) :
    Nat.ofDigitChars 10 cs 0 < 10 ^ cs.length := by
  induction cs with
  | nil => simp
  | cons c cs ih =>
    have hrest := ih fun c hc => h c (List.mem_cons_of_mem _ hc)
    have hc : c.toNat - '0'.toNat < 10 := by
      have hdigit := h c List.mem_cons_self
      unfold Char.isDigit at hdigit
      rw [Bool.and_eq_true, decide_eq_true_eq, decide_eq_true_eq] at hdigit
      have hle : c.toNat ≤ 57 := hdigit.2
      have hzero : '0'.toNat = 48 := rfl
      omega
    rw [Nat.ofDigitChars_cons, Nat.mul_zero, Nat.zero_add, Nat.ofDigitChars_eq_ofDigitChars_zero,
      List.length_cons, pow_succ]
    calc
      10 ^ cs.length * (c.toNat - '0'.toNat) + Nat.ofDigitChars 10 cs 0
          < 10 ^ cs.length * (c.toNat - '0'.toNat) + 10 ^ cs.length := by omega
      _ = 10 ^ cs.length * (c.toNat - '0'.toNat + 1) := by ring
      _ ≤ 10 ^ cs.length * 10 := Nat.mul_le_mul_left _ hc

/-! ### Fractions -/

/-- A fraction of a second: digits after a point, or nothing. -/
inductive Fraction where
  | none
  | digits (chars : List Char) (isDigit : ∀ c ∈ chars, c.isDigit = true) (ne_nil : chars ≠ [])

namespace Fraction

/-- The fraction as it is written. -/
def chars : Fraction → List Char
  | none => []
  | digits ds _ _ => '.' :: ds

/-- The part of a second. -/
def value : Fraction → ℚ
  | none => 0
  | digits ds _ _ => Nat.ofDigitChars 10 ds 0 / 10 ^ ds.length

/-- The nanoseconds that are read: the first nine digits. -/
def nanos : Fraction → Nat
  | none => 0
  | digits ds _ _ => Digits.value ((ds ++ List.replicate 9 '0').take 9)

/-- The first nine digits are the whole nanoseconds. -/
theorem value_take_nine (h : ∀ c ∈ cs, c.isDigit = true) :
    Digits.value ((cs ++ List.replicate 9 '0').take 9) =
      Nat.ofDigitChars 10 cs 0 * 10 ^ 9 / 10 ^ cs.length := by
  have hpadded : ∀ c ∈ cs ++ List.replicate 9 '0', c.isDigit = true := by
    intro c hc
    rcases List.mem_append.1 hc with hmem | hmem
    · exact h c hmem
    · rw [List.eq_of_mem_replicate hmem]
      rfl
  have hlength : ((cs ++ List.replicate 9 '0').drop 9).length = cs.length := by simp
  have hlater : Nat.ofDigitChars 10 ((cs ++ List.replicate 9 '0').drop 9) 0 < 10 ^ cs.length :=
    hlength ▸ ofDigitChars_lt_pow fun c hc => hpadded c (List.mem_of_mem_drop hc)
  have hwhole : Nat.ofDigitChars 10 cs 0 * 10 ^ 9 =
      Nat.ofDigitChars 10 (cs ++ List.replicate 9 '0') 0 := by
    rw [Nat.ofDigitChars_append, Nat.ofDigitChars_replicate_zero, Nat.mul_comm]
  rw [hwhole, Digits.value_eq]
  conv_rhs => rw [← List.take_append_drop 9 (cs ++ List.replicate 9 '0')]
  rw [Nat.ofDigitChars_append, Nat.ofDigitChars_eq_ofDigitChars_zero
    (l := (cs ++ List.replicate 9 '0').drop 9), hlength,
    Nat.mul_add_div (by positivity), Nat.div_eq_of_lt hlater, Nat.add_zero]

/-- The nanoseconds that are read are the whole ones. -/
theorem nanos_eq_floor (f : Fraction) : (f.nanos : ℤ) = ⌊(10 : ℚ) ^ 9 * f.value⌋ := by
  cases f with
  | none => simp [nanos, value]
  | digits ds hdigits hne =>
    have hratio : (10 : ℚ) ^ 9 * (digits ds hdigits hne).value =
        ((Nat.ofDigitChars 10 ds 0 * 10 ^ 9 : ℕ) : ℚ) / ((10 ^ ds.length : ℕ) : ℚ) := by
      unfold value
      push_cast
      ring
    rw [hratio, Rat.floor_natCast_div_natCast]
    exact_mod_cast value_take_nine hdigits

/-- There are fewer nanoseconds than a second has. -/
theorem nanos_lt (f : Fraction) : f.nanos < 10 ^ 9 := by
  cases f with
  | none => decide
  | digits ds hdigits hne =>
    refine lt_of_eq_of_lt (value_take_nine hdigits) (Nat.div_lt_of_lt_mul ?_)
    exact Nat.mul_lt_mul_of_pos_right (ofDigitChars_lt_pow hdigits) (by decide)

/-- A fraction is taken off the front of what does not go on with it. -/
theorem takeFraction?_eq_some_iff (hrest : ∀ c ∈ rest.head?, c.isDigit = false ∧ c ≠ '.') :
    takeFraction? cs = some (n, rest) ↔ ∃ f : Fraction, cs = f.chars ++ rest ∧ f.nanos = n := by
  constructor
  · intro h
    unfold takeFraction? at h
    split at h
    · next digits =>
      dsimp only at h
      split at h
      · cases h
      · next hne =>
        cases h
        refine ⟨.digits (digits.takeWhile Char.isDigit) (fun c hc => List.mem_takeWhile_imp hc)
          (by simpa using hne), ?_, rfl⟩
        exact congrArg _ List.takeWhile_append_dropWhile.symm
    · cases h
      exact ⟨none, rfl, rfl⟩
  · rintro ⟨f, rfl, rfl⟩
    cases f with
    | none =>
      unfold takeFraction?
      split
      · next heq =>
        change rest = _ at heq
        rw [heq] at hrest
        exact absurd rfl (hrest '.' rfl).2
      · rfl
    | digits ds hdigits hne =>
      have hstop : rest.takeWhile Char.isDigit = [] ∧ rest.dropWhile Char.isDigit = rest := by
        cases rest with
        | nil => exact ⟨rfl, rfl⟩
        | cons c rest =>
          have hc : c.isDigit = false := (hrest c rfl).1
          simp [hc]
      have htake : (ds ++ rest).takeWhile Char.isDigit = ds := by
        rw [List.takeWhile_append_of_pos hdigits, hstop.1, List.append_nil]
      have hdrop : (ds ++ rest).dropWhile Char.isDigit = rest := by
        rw [List.dropWhile_append_of_pos hdigits, hstop.2]
      have hempty : ds.isEmpty = false := by simpa using hne
      simp only [chars, List.cons_append, takeFraction?, htake, hdrop, hempty]
      rfl

end Fraction

/-! ### Offsets -/

/-- How far the local clock is ahead: a letter for not at all, or a sign, hours and minutes. -/
inductive Offset where
  | utc (letter : Char) (hletter : letter ∈ ['Z', 'z'])
  | clock (sign : Char) (hsign : sign ∈ ['+', '-', '\u2212']) (hours minutes : Figures 2)
    (hminutes : minutes.value < 60)

namespace Offset

/-- The offset as it is written. -/
def chars : Offset → List Char
  | utc letter _ => [letter]
  | clock sign _ hours minutes _ => sign :: (hours.chars ++ ':' :: minutes.chars)

/-- The hours without their sign. -/
def hours : Offset → Nat
  | utc _ _ => 0
  | clock _ _ hours _ _ => hours.value

/-- How many seconds the local clock is ahead. -/
def ahead : Offset → ℤ
  | utc _ _ => 0
  | clock sign _ hours minutes _ =>
    if sign = '+' then hours.value * 3600 + minutes.value * 60
    else -(hours.value * 3600 + minutes.value * 60)

/-- An offset does not go on with a fraction. -/
theorem head_chars (o : Offset) : ∀ c ∈ o.chars.head?, c.isDigit = false ∧ c ≠ '.' := by
  intro c hc
  have hmem : c ∈ ['Z', 'z'] ∨ c ∈ ['+', '-', '\u2212'] := by
    cases o with
    | utc letter hletter =>
      cases hc
      exact .inl hletter
    | clock sign hsign _ _ _ =>
      cases hc
      exact .inr hsign
  simp only [List.mem_cons, List.not_mem_nil, or_false] at hmem
  rcases hmem with (rfl | rfl) | (rfl | rfl | rfl) <;> decide

/-- An offset is less than a day exactly if its hours are. -/
theorem natAbs_ahead_lt_iff (o : Offset) : o.ahead.natAbs < 86400 ↔ o.hours < 24 := by
  cases o with
  | utc letter hletter => simp [ahead, Offset.hours]
  | clock sign hsign hours minutes hminutes =>
    simp only [ahead, Offset.hours]
    split <;> omega

/-- After a sign, hours and minutes are read. -/
theorem readOffset?_clock {sign : Char} (hsign : sign ∈ ['+', '-', '\u2212']) (cs : List Char) :
    readOffset? (sign :: cs) = (do
      let (hours, rest) ← takeDigits? 2 cs
      let rest ← takeOneOf? [':'] rest
      let (minutes, rest) ← takeDigits? 2 rest
      if rest.isEmpty && minutes < 60 then
        let ahead : ℤ := hours * 3600 + minutes * 60
        return if sign = '+' then ahead else -ahead
      else none) := by
  simp only [List.mem_cons, List.not_mem_nil, or_false] at hsign
  rcases hsign with rfl | rfl | rfl <;> rfl

/-- What an offset begins with. -/
theorem first_of_readOffset? {ahead : ℤ} (h : readOffset? cs = some ahead) :
    (∃ letter ∈ ['Z', 'z'], cs = [letter] ∧ ahead = 0) ∨
      ∃ sign ∈ ['+', '-', '\u2212'], ∃ rest, cs = sign :: rest := by
  unfold readOffset? at h
  split at h
  · cases h
    exact .inl ⟨'Z', by decide, rfl, rfl⟩
  · cases h
    exact .inl ⟨'z', by decide, rfl, rfl⟩
  · next sign rest _ _ =>
    split at h
    · next hsign =>
      refine .inr ⟨sign, ?_, rest, rfl⟩
      simpa [or_assoc] using hsign
    · cases h
  · cases h

/-- **An offset is read exactly if it is written as one.** -/
theorem readOffset?_eq_some_iff {ahead : ℤ} :
    readOffset? cs = some ahead ↔ ∃ o : Offset, cs = o.chars ∧ o.ahead = ahead := by
  constructor
  · intro h
    rcases first_of_readOffset? h with ⟨letter, hletter, rfl, rfl⟩ | ⟨sign, hsign, rest, rfl⟩
    · exact ⟨.utc letter hletter, rfl, rfl⟩
    · rw [readOffset?_clock hsign] at h
      obtain ⟨⟨_, _⟩, hhours, hafter⟩ := Option.bind_eq_some_iff.1 h
      obtain ⟨hours, rfl, rfl⟩ := (takeDigits?_eq_some_iff (by decide)).1 hhours
      obtain ⟨_, hcolon, hlater⟩ := Option.bind_eq_some_iff.1 hafter
      obtain ⟨_, hmem, rfl⟩ := takeOneOf?_eq_some_iff.1 hcolon
      obtain rfl := List.mem_singleton.1 hmem
      obtain ⟨⟨_, last⟩, hminutes, hend⟩ := Option.bind_eq_some_iff.1 hlater
      obtain ⟨minutes, rfl, rfl⟩ := (takeDigits?_eq_some_iff (by decide)).1 hminutes
      dsimp only at hend
      split at hend
      · next hlast =>
        obtain ⟨hempty, hfit⟩ : last = [] ∧ minutes.value < 60 := by simpa using hlast
        refine ⟨.clock sign hsign hours minutes hfit, by simp [chars, hempty], ?_⟩
        exact Option.some.inj hend
      · cases hend
  · rintro ⟨o, rfl, rfl⟩
    cases o with
    | utc letter hletter =>
      simp only [List.mem_cons, List.not_mem_nil, or_false] at hletter
      rcases hletter with rfl | rfl <;> rfl
    | clock sign hsign hours minutes hminutes =>
      have hhours : takeDigits? 2 (hours.chars ++ ':' :: minutes.chars) =
          some (hours.value, ':' :: minutes.chars) :=
        (takeDigits?_eq_some_iff (by decide)).2 ⟨hours, rfl, rfl⟩
      have hrest : takeDigits? 2 minutes.chars = some (minutes.value, []) :=
        (takeDigits?_eq_some_iff (by decide)).2 ⟨minutes, (List.append_nil _).symm, rfl⟩
      have hcolon : takeOneOf? [':'] (':' :: minutes.chars) = some minutes.chars := rfl
      change readOffset? (sign :: (hours.chars ++ ':' :: minutes.chars)) = _
      rw [readOffset?_clock hsign, hhours]
      simp only [Option.bind_eq_bind, Option.bind_some, hcolon, hrest, List.isEmpty_nil, hminutes,
        decide_true, Bool.and_self, if_true, Offset.ahead]
      rfl

end Offset

/-! ### Written times -/

/-- A written time. -/
structure Written where
  year : Figures 4
  month : Figures 2
  day : Figures 2
  separator : Char
  separator_mem : separator ∈ ['T', 't', ' ']
  hour : Figures 2
  minute : Figures 2
  second : Figures 2
  fraction : Fraction
  offset : Offset

namespace Written

variable {w : Written}

/-- The time as it is written. -/
def chars (w : Written) : List Char :=
  w.year.chars ++ '-' :: (w.month.chars ++ '-' :: (w.day.chars ++ w.separator ::
    (w.hour.chars ++ ':' :: (w.minute.chars ++ ':' :: (w.second.chars ++
      (w.fraction.chars ++ w.offset.chars))))))

/-- The text of a written time. -/
def text (w : Written) : String :=
  String.ofList w.chars

/-- The date. -/
def date (w : Written) : Date :=
  ⟨w.year.value, w.month.value, w.day.value⟩

/-- A written time is a date and a time of day, with an offset of less than a day. The sixtieth
second is a leap second. -/
structure Valid (w : Written) : Prop where
  date : w.date.Valid
  hour : w.hour.value < 24
  minute : w.minute.value < 60
  second : w.second.value ≤ 60
  offset : w.offset.hours < 24

/-- `w.Denotes t` says that a written time is `t` seconds after the start of 1970, leap seconds not
counted: the sixtieth second of a minute is as late as the first of the next. -/
def Denotes (w : Written) (t : ℚ) : Prop :=
  ∃ days : ℤ, w.date.IsDay days ∧
    t = 86400 * days + 3600 * w.hour.value + 60 * w.minute.value + w.second.value +
      w.fraction.value - w.offset.ahead

/-- The parts of a written time. -/
def parts (w : Written) : Timestamp where
  year := w.year.value
  month := w.month.value
  day := w.day.value
  hour := w.hour.value
  minute := w.minute.value
  second := w.second.value
  nanos := w.fraction.nanos
  offset := w.offset.ahead

/-- A written time is at one instant. -/
theorem Valid.existsUnique_denotes (h : w.Valid) : ∃! t, w.Denotes t := by
  refine ⟨_, ⟨_, (Date.isDay_iff h.date).2 rfl, rfl⟩, ?_⟩
  rintro t ⟨days, hdays, rfl⟩
  rw [(Date.isDay_iff h.date).1 hdays]

theorem isValid_parts : w.parts.isValid = true ↔ w.Valid := by
  unfold isValid
  simp only [Bool.and_eq_true, decide_eq_true_eq]
  constructor
  · rintro ⟨⟨⟨⟨⟨⟨⟨hmonth, hmonth'⟩, hday⟩, hday'⟩, hhour⟩, hminute⟩, hsecond⟩, hoffset⟩
    exact ⟨Date.valid_iff.2 ⟨hmonth, hmonth', hday, hday'⟩, hhour, hminute, hsecond,
      w.offset.natAbs_ahead_lt_iff.1 hoffset⟩
  · rintro ⟨hdate, hhour, hminute, hsecond, hoffset⟩
    obtain ⟨hmonth, hmonth', hday, hday'⟩ := Date.valid_iff.1 hdate
    exact ⟨⟨⟨⟨⟨⟨⟨hmonth, hmonth'⟩, hday⟩, hday'⟩, hhour⟩, hminute⟩, hsecond⟩,
      w.offset.natAbs_ahead_lt_iff.2 hoffset⟩

/-- The fraction and the offset end a text. -/
theorem takeTail_iff {ahead : ℤ} :
    (∃ rest, takeFraction? cs = some (n, rest) ∧ readOffset? rest = some ahead) ↔
      ∃ (f : Fraction) (o : Offset), cs = f.chars ++ o.chars ∧ f.nanos = n ∧ o.ahead = ahead := by
  constructor
  · rintro ⟨rest, hfraction, hoffset⟩
    obtain ⟨o, rfl, rfl⟩ := Offset.readOffset?_eq_some_iff.1 hoffset
    obtain ⟨f, rfl, rfl⟩ := (Fraction.takeFraction?_eq_some_iff o.head_chars).1 hfraction
    exact ⟨f, o, rfl, rfl, rfl⟩
  · rintro ⟨f, o, rfl, rfl, rfl⟩
    exact ⟨o.chars, (Fraction.takeFraction?_eq_some_iff o.head_chars).2 ⟨f, rfl, rfl⟩,
      Offset.readOffset?_eq_some_iff.2 ⟨o, rfl, rfl⟩⟩

/-- **A text has the parts of a time exactly if it is written as one.** -/
theorem parts?_eq_some_iff {t : Timestamp} :
    parts? cs = some t ↔ ∃ w : Written, w.chars = cs ∧ w.parts = t := by
  unfold parts?
  -- Each part is taken off the front as its own lemma says. Only the fraction can not be: where it
  -- ends depends on the offset.
  simp only [Option.bind_eq_bind, Option.bind_eq_some_iff, Prod.exists,
    takeDigits?_eq_some_iff (show 0 < 4 by decide), takeDigits?_eq_some_iff (show 0 < 2 by decide),
    takeOneOf?_eq_some_iff, List.mem_singleton, exists_eq_left]
  constructor
  · rintro ⟨_, _, ⟨year, rfl, rfl⟩, _, rfl, _, _, ⟨month, rfl, rfl⟩, _, rfl, _, _, ⟨day, rfl, rfl⟩, _,
      ⟨separator, hseparator, rfl⟩, _, _, ⟨hour, rfl, rfl⟩, _, rfl, _, _, ⟨minute, rfl, rfl⟩, _, rfl,
      _, _, ⟨second, rfl, rfl⟩, nanos, rest, hfraction, ahead, hoffset, hparts⟩
    obtain ⟨fraction, offset, rfl, rfl, rfl⟩ := takeTail_iff.1 ⟨rest, hfraction, hoffset⟩
    exact ⟨⟨year, month, day, separator, hseparator, hour, minute, second, fraction, offset⟩, rfl,
      Option.some.inj hparts⟩
  · rintro ⟨w, rfl, rfl⟩
    obtain ⟨rest, hfraction, hoffset⟩ := takeTail_iff.2 ⟨w.fraction, w.offset, rfl, rfl, rfl⟩
    exact ⟨_, _, ⟨w.year, rfl, rfl⟩, _, rfl, _, _, ⟨w.month, rfl, rfl⟩, _, rfl, _, _,
      ⟨w.day, rfl, rfl⟩, _, ⟨w.separator, w.separator_mem, rfl⟩, _, _, ⟨w.hour, rfl, rfl⟩, _, rfl, _,
      _, ⟨w.minute, rfl, rfl⟩, _, rfl, _, _, ⟨w.second, rfl, rfl⟩, _, rest, hfraction, _, hoffset,
      rfl⟩

/-- **A text is read exactly if it is a written time.** -/
theorem read?_eq_some_iff {text : String} {i : Instant} :
    read? text = some i ↔ ∃ w : Written, w.Valid ∧ w.text = text ∧ w.parts.instant = i := by
  unfold read?
  rw [Option.map_eq_some_iff]
  constructor
  · rintro ⟨t, hfound, rfl⟩
    obtain ⟨hparts, hvalid⟩ := Option.filter_eq_some_iff.1 hfound
    obtain ⟨w, hchars, rfl⟩ := parts?_eq_some_iff.1 hparts
    exact ⟨w, isValid_parts.1 hvalid, by rw [Written.text, hchars, String.ofList_toList], rfl⟩
  · rintro ⟨w, hvalid, rfl, rfl⟩
    refine ⟨w.parts, Option.filter_eq_some_iff.2 ⟨?_, isValid_parts.2 hvalid⟩, rfl⟩
    exact parts?_eq_some_iff.2 ⟨w, String.toList_ofList.symm, rfl⟩

/-- **What is read is when the written time is, to the nanosecond.** -/
theorem Valid.instant_eq (h : w.Valid) {t : ℚ} (ht : w.Denotes t) :
    10 ^ 9 * w.parts.instant.seconds + w.parts.instant.nanos = ⌊(10 : ℚ) ^ 9 * t⌋ := by
  obtain ⟨days, hdays, rfl⟩ := ht
  obtain rfl := (Date.isDay_iff h.date).1 hdays
  have hsecond := h.second
  -- All but the fraction is a whole number of seconds.
  let whole : ℤ := 86400 * dayNumber w.date.year w.date.month w.date.day + 3600 * w.hour.value +
    60 * w.minute.value + w.second.value - w.offset.ahead
  have hfloor : ⌊(10 : ℚ) ^ 9 * (86400 * (dayNumber w.date.year w.date.month w.date.day : ℤ) +
      3600 * w.hour.value + 60 * w.minute.value + w.second.value + w.fraction.value -
      w.offset.ahead)⌋ = 10 ^ 9 * whole + w.fraction.nanos := by
    rw [w.fraction.nanos_eq_floor, ← Int.floor_intCast_add]
    congr 1
    push_cast [whole]
    ring
  rw [hfloor]
  change 10 ^ 9 * (dayNumber w.date.year w.date.month w.date.day * 86400 +
    (w.hour.value : ℤ) * 3600 + (w.minute.value : ℤ) * 60 + (min w.second.value 59 : ℕ) -
    w.offset.ahead) + ((if w.second.value = 60 then 1000000000 + w.fraction.nanos
    else w.fraction.nanos : ℕ) : ℤ) = _
  simp only [whole]
  split <;> omega

/-- Only of a leap second are there as many nanoseconds as a second has, or more. -/
theorem nanos_instant_lt_iff (w : Written) :
    w.parts.instant.nanos < 10 ^ 9 ↔ w.second.value ≠ 60 := by
  have hfraction := w.fraction.nanos_lt
  unfold instant parts
  simp only
  split
  · next hleap => simp [hleap]
  · next hother => simpa [hother] using hfraction

/-- There are never as many nanoseconds as two seconds have. -/
theorem nanos_instant_lt (w : Written) : w.parts.instant.nanos < 2 * 10 ^ 9 := by
  have hfraction := w.fraction.nanos_lt
  unfold instant parts
  simp only
  split <;> omega

end Written

end Hotplug.Timestamp
