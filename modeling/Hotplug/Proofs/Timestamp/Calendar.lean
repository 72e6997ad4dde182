import Hotplug.Timestamp
import Mathlib.Logic.Function.Iterate
import Mathlib.Order.Nat
import Mathlib.Tactic.Tauto

/-!
# The calendar

The days are counted from one date to the next: after the last day of a month comes the first of the
next month, and after December comes January of the next year. The number of a date is found without
counting, from the lengths of the years and months before it, and is the one that counting finds.

## Main definitions

* `Timestamp.Date`, `Date.Valid`, `Date.next` — the dates of the calendar, and the date after one.
* `Date.IsDay d n` — counting finds `d` on the day `n` from the first of January 1970.

## Main results

* `Date.rank_next` — the next date has the next number.
* `Date.iterate_next_rank` — every date is reached from the first of January of year zero.
* `Date.isDay_iff` — **the number of a date is the one that counting finds.**
-/

namespace Hotplug.Timestamp

/-! ### Dates -/

/-- A date: year, month and day. -/
structure Date where
  year : Nat
  month : Nat
  day : Nat
  deriving DecidableEq, Repr

namespace Date

/-- Every fourth year is a leap year, but of the full centuries only every fourth. -/
def IsLeap (year : Nat) : Prop :=
  4 ∣ year ∧ (100 ∣ year → 400 ∣ year)

instance (year : Nat) : Decidable (IsLeap year) :=
  inferInstanceAs (Decidable (4 ∣ year ∧ (100 ∣ year → 400 ∣ year)))

/-- The number of days of a month. -/
def daysIn (year month : Nat) : Nat :=
  if month = 2 then if IsLeap year then 29 else 28
  else if month = 4 ∨ month = 6 ∨ month = 9 ∨ month = 11 then 30
  else 31

/-- A date of the calendar. -/
structure Valid (d : Date) : Prop where
  month_pos : 1 ≤ d.month
  month_le : d.month ≤ 12
  day_pos : 1 ≤ d.day
  day_le : d.day ≤ daysIn d.year d.month

/-- The date after a date. -/
def next (d : Date) : Date :=
  if d.day < daysIn d.year d.month then ⟨d.year, d.month, d.day + 1⟩
  else if d.month < 12 then ⟨d.year, d.month + 1, 1⟩
  else ⟨d.year + 1, 1, 1⟩

/-- The first day of year zero. -/
def origin : Date := ⟨0, 1, 1⟩

/-- The day that time is counted from. -/
def epoch : Date := ⟨1970, 1, 1⟩

/-- `d.IsDay n` says that `d` is the date `n` days after the first of January 1970, or `-n` days
before it: counted date by date from the earlier of the two, the later is reached. -/
def IsDay (d : Date) (n : Int) : Prop :=
  next^[n.toNat] epoch = next^[(-n).toNat] d

variable {d : Date} {year month : Nat}

theorem daysIn_pos (year month : Nat) : 1 ≤ daysIn year month := by
  unfold daysIn
  split
  · split <;> decide
  · split <;> decide

theorem valid_next (h : d.Valid) : d.next.Valid := by
  obtain ⟨hmonth, hmonth', hday, hday'⟩ := h
  unfold next
  split
  · next hlt => exact ⟨hmonth, hmonth', Nat.succ_pos _, hlt⟩
  · split
    · next hlt => exact ⟨Nat.succ_pos _, hlt, Nat.le_refl _, daysIn_pos _ _⟩
    · exact ⟨Nat.le_refl _, Nat.le_add_left 1 11, Nat.le_refl _, daysIn_pos _ _⟩

theorem valid_iterate_next (h : d.Valid) (n : Nat) : (next^[n] d).Valid := by
  induction n with
  | zero => exact h
  | succ n ih =>
    rw [Function.iterate_succ_apply']
    exact valid_next ih

/-! ### Numbers -/

/-- The number of a date, from the start of year zero. -/
def rank (d : Date) : Nat :=
  daysFromYearZero d.year d.month d.day

theorem isLeapYear_iff : isLeapYear year = true ↔ IsLeap year := by
  unfold isLeapYear IsLeap
  simp only [Bool.and_eq_true, beq_iff_eq, Bool.or_eq_true, bne_iff_ne, ne_eq, Nat.dvd_iff_mod_eq_zero]
  tauto

/-- The list of months has the lengths of the months. -/
theorem monthLengths_eq (year : Nat) :
    monthLengths year = (List.range 12).map fun m => daysIn year (m + 1) := by
  have hfebruary : (if isLeapYear year then 29 else 28) = if IsLeap year then 29 else 28 := by
    simp only [isLeapYear_iff]
  unfold monthLengths
  rw [hfebruary]
  rfl

/-- The number of days before a month in its year. -/
def daysBefore (year month : Nat) : Nat :=
  ((monthLengths year).take (month - 1)).foldl (· + ·) 0

theorem rank_eq (year month day : Nat) : rank ⟨year, month, day⟩ =
    365 * year + leapYearsBefore year + daysBefore year month + (day - 1) := rfl

/-- The length of a month stands in the list. -/
theorem getElem?_monthLengths (hmonth : 1 ≤ month) (hmonth' : month ≤ 12) :
    (monthLengths year)[month - 1]? = some (daysIn year month) := by
  have hlt : month - 1 < 12 := by omega
  rw [monthLengths_eq, List.getElem?_map, List.getElem?_range hlt, Option.map_some,
    Nat.sub_add_cancel hmonth]

/-- Before the next month there are the days of this month more. -/
theorem daysBefore_succ (hmonth : 1 ≤ month) (hmonth' : month ≤ 12) :
    daysBefore year (month + 1) = daysBefore year month + daysIn year month := by
  have hlist : (monthLengths year).take (month + 1 - 1) =
      (monthLengths year).take (month - 1) ++ [daysIn year month] := by
    rw [Nat.add_sub_cancel, ← Nat.sub_add_cancel hmonth, List.take_add_one,
      Nat.add_sub_cancel, getElem?_monthLengths hmonth hmonth', Nat.sub_add_cancel hmonth]
    rfl
  unfold daysBefore
  rw [hlist, List.foldl_append]
  rfl

/-- A leap year has a day more. -/
theorem leapYearsBefore_succ (year : Nat) :
    leapYearsBefore (year + 1) = leapYearsBefore year + if IsLeap year then 1 else 0 := by
  have hfour : (year + 1 + 3) / 4 = (year + 3) / 4 + if 4 ∣ year then 1 else 0 := by
    split <;> omega
  have hcentury : (year + 1 + 99) / 100 = (year + 99) / 100 + if 100 ∣ year then 1 else 0 := by
    split <;> omega
  have hlong : (year + 1 + 399) / 400 = (year + 399) / 400 + if 400 ∣ year then 1 else 0 := by
    split <;> omega
  have hfewer : (year + 99) / 100 ≤ (year + 3) / 4 := by omega
  have hcentury4 : 100 ∣ year → 4 ∣ year := (Nat.dvd_trans (by decide) ·)
  have hlong100 : 400 ∣ year → 100 ∣ year := (Nat.dvd_trans (by decide) ·)
  unfold leapYearsBefore IsLeap
  rw [hfour, hcentury, hlong]
  -- Of the quotients no more is needed than that there are as many fours as centuries.
  generalize (year + 99) / 100 = centuries at hfewer
  generalize (year + 3) / 4 = fours at hfewer
  by_cases h100 : 100 ∣ year
  · by_cases h400 : 400 ∣ year
    · simp only [hcentury4 h100, h100, h400, if_true, implies_true, and_self]
      omega
    · simp only [hcentury4 h100, h100, h400, if_true, if_false, imp_false, not_true, and_false]
      omega
  · have h400 : ¬ 400 ∣ year := fun h => h100 (hlong100 h)
    by_cases h4 : 4 ∣ year
    · simp only [h4, h100, h400, if_true, if_false, false_imp_iff, and_self]
      omega
    · simp only [h4, h100, h400, if_false, false_imp_iff, and_true]
      omega

/-- A year has 365 days, or one more. -/
theorem daysBefore_year (year : Nat) :
    daysBefore year 12 + daysIn year 12 = 365 + if IsLeap year then 1 else 0 := by
  unfold daysBefore
  rw [monthLengths_eq]
  by_cases hleap : IsLeap year
  · simp [daysIn, hleap, List.range_succ]
  · simp [daysIn, hleap, List.range_succ]

/-- **The next date has the next number.** -/
theorem rank_next (h : d.Valid) : d.next.rank = d.rank + 1 := by
  obtain ⟨year, month, day⟩ := d
  obtain ⟨hmonth, hmonth', hday, hday'⟩ := h
  simp only at hmonth hmonth' hday hday'
  unfold next
  simp only
  split
  · -- It is in the same month.
    rw [rank_eq, rank_eq]
    omega
  · split
    · -- It is the first of the next month.
      rw [rank_eq, rank_eq, daysBefore_succ hmonth hmonth']
      omega
    · -- It is the first day of the next year.
      obtain rfl : month = 12 := by omega
      have hyear := daysBefore_year year
      have hfirst : daysBefore (year + 1) 1 = 0 := rfl
      rw [rank_eq, rank_eq, leapYearsBefore_succ, hfirst]
      omega

theorem rank_iterate_next (h : d.Valid) (n : Nat) : (next^[n] d).rank = d.rank + n := by
  induction n with
  | zero => rfl
  | succ n ih => rw [Function.iterate_succ_apply', rank_next (valid_iterate_next h n), ih,
      Nat.add_assoc]

/-! ### Counting -/

/-- Every date but the first comes after another. -/
theorem exists_next_eq (h : d.Valid) (hne : d ≠ origin) : ∃ p : Date, p.Valid ∧ p.next = d := by
  obtain ⟨year, month, day⟩ := d
  obtain ⟨hmonth, hmonth', hday, hday'⟩ := h
  simp only at hmonth hmonth' hday hday'
  by_cases hfirst : day = 1
  · subst hfirst
    by_cases hjanuary : month = 1
    · subst hjanuary
      have hyear : year ≠ 0 := by
        rintro rfl
        exact hne rfl
      have hlast : daysIn (year - 1) 12 = 31 := rfl
      refine ⟨⟨year - 1, 12, 31⟩, ⟨by simp, by simp, by simp, hlast.ge⟩, ?_⟩
      simp only [next, hlast, Nat.lt_irrefl, if_false, Nat.sub_one_add_one hyear]
    · have hlt : month - 1 < 12 := by omega
      refine ⟨⟨year, month - 1, daysIn year (month - 1)⟩,
        ⟨Nat.le_sub_one_of_lt (by omega), Nat.le_of_lt hlt, daysIn_pos _ _, Nat.le_refl _⟩, ?_⟩
      simp only [next, Nat.lt_irrefl, if_false, if_pos hlt, Nat.sub_add_cancel hmonth]
  · have hlt : day - 1 < daysIn year month := by omega
    refine ⟨⟨year, month, day - 1⟩, ⟨hmonth, hmonth', Nat.le_sub_one_of_lt (by omega),
      Nat.le_of_lt hlt⟩, ?_⟩
    simp only [next, if_pos hlt, Nat.sub_add_cancel hday]

/-- **Every date is reached from the first day of year zero**, in as many steps as its number. -/
theorem iterate_next_rank (h : d.Valid) : next^[d.rank] origin = d := by
  generalize hn : d.rank = n
  induction n generalizing d with
  | zero =>
    -- A date that comes after another has a number above zero.
    by_contra hne
    obtain ⟨p, hp, rfl⟩ := exists_next_eq h (Ne.symm hne)
    rw [rank_next hp] at hn
    cases hn
  | succ n ih =>
    have hne : d ≠ origin := by
      rintro rfl
      cases hn
    obtain ⟨p, hp, rfl⟩ := exists_next_eq h hne
    rw [rank_next hp] at hn
    rw [Function.iterate_succ_apply', ih hp (Nat.succ.inj hn)]

theorem valid_epoch : epoch.Valid :=
  ⟨by decide, by decide, by decide, by decide⟩

/-- From a date that is counted earlier a later one is reached. -/
theorem iterate_next_of_rank_eq {e : Date} {n : Nat} (hd : d.Valid) (he : e.Valid)
    (hrank : e.rank = d.rank + n) : next^[n] d = e := by
  calc
    next^[n] d = next^[n] (next^[d.rank] origin) := by rw [iterate_next_rank hd]
    _ = next^[e.rank] origin := by rw [hrank, Nat.add_comm, Function.iterate_add_apply]
    _ = e := iterate_next_rank he

/-- **The number of a date is the one that counting finds.** -/
theorem isDay_iff (h : d.Valid) {n : Int} : d.IsDay n ↔ dayNumber d.year d.month d.day = n := by
  have hnumber : dayNumber d.year d.month d.day = d.rank - epoch.rank := rfl
  rw [hnumber]
  unfold IsDay
  constructor
  · intro hsame
    have hrank := congrArg rank hsame
    rw [rank_iterate_next valid_epoch, rank_iterate_next h] at hrank
    omega
  · rintro rfl
    -- Of the two counts that of the later date is zero.
    rcases Nat.le_total epoch.rank d.rank with hle | hle
    · have hback : (-((d.rank : Int) - epoch.rank)).toNat = 0 := by omega
      rw [hback, Function.iterate_zero, id]
      exact iterate_next_of_rank_eq valid_epoch h (by omega)
    · have hforth : ((d.rank : Int) - epoch.rank).toNat = 0 := by omega
      rw [hforth, Function.iterate_zero, id]
      exact (iterate_next_of_rank_eq h valid_epoch (by omega)).symm

/-- Which dates are valid can be told from the list of months. -/
theorem valid_iff : d.Valid ↔ 1 ≤ d.month ∧ d.month ≤ 12 ∧ 1 ≤ d.day ∧
    d.day ≤ (monthLengths d.year)[d.month - 1]?.getD 0 := by
  constructor
  · rintro ⟨hmonth, hmonth', hday, hday'⟩
    rw [getElem?_monthLengths hmonth hmonth']
    exact ⟨hmonth, hmonth', hday, hday'⟩
  · rintro ⟨hmonth, hmonth', hday, hday'⟩
    rw [getElem?_monthLengths hmonth hmonth'] at hday'
    exact ⟨hmonth, hmonth', hday, hday'⟩

end Date

end Hotplug.Timestamp
