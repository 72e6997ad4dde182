import Hotplug.Text.Blank
import Mathlib.Data.List.TakeWhile

/-!
# What trimming leaves

A text that is trimmed is cut down to its core: it neither begins nor ends with a blank, and has
nothing but blanks around it. There is one such core, so blanks put around a text change nothing.

## Main definitions

* `Text.Blanks cs` — nothing but white space.
* `Text.Bare cs` — characters that neither begin nor end with a blank.
* `Text.Core cs ds` — `ds` is what is left of `cs` without the blanks around it.

## Main results

* `trimChars_eq_iff` — trimming is finding the core.
* `trimChars_blanks_append`, `trimChars_append_blanks` — blanks around a text change nothing.
-/

namespace Hotplug.Text

variable {cs ds blanks : List Char}

/-- Nothing but white space. -/
def Blanks (cs : List Char) : Prop :=
  ∀ c ∈ cs, isBlank c = true

instance (cs : List Char) : Decidable (Blanks cs) :=
  inferInstanceAs (Decidable (∀ c ∈ cs, isBlank c = true))

/-- Characters that neither begin nor end with a blank. -/
structure Bare (cs : List Char) : Prop where
  first : ∀ c ∈ cs.head?, isBlank c = false
  last : ∀ c ∈ cs.getLast?, isBlank c = false

/-- `Core cs ds` says that `ds` is what is left of `cs` without the blanks around it. -/
structure Core (cs ds : List Char) : Prop where
  around : ∃ before after, cs = before ++ (ds ++ after) ∧ Blanks before ∧ Blanks after
  bare : Bare ds

/-! ### The end of a text -/

/-- Blanks at the end are cut off. -/
theorem trimEndChars_append_blanks (cs : List Char) (h : Blanks blanks) :
    trimEndChars (cs ++ blanks) = trimEndChars cs := by
  induction cs with
  | nil =>
    induction blanks with
    | nil => rfl
    | cons c rest ih =>
      have hrest : trimEndChars rest = [] := ih fun c' hc' => h c' (List.mem_cons_of_mem c hc')
      have hc : isBlank c = true := h c List.mem_cons_self
      simp [trimEndChars, hrest, hc]
  | cons c rest ih => rw [List.cons_append, trimEndChars, ih, trimEndChars]

/-- Only blanks are cut off. -/
theorem exists_trimEndChars_append (cs : List Char) :
    ∃ after, cs = trimEndChars cs ++ after ∧ Blanks after := by
  induction cs with
  | nil => exact ⟨[], rfl, by simp [Blanks]⟩
  | cons c rest ih =>
    obtain ⟨after, hrest, hafter⟩ := ih
    cases hkept : trimEndChars rest with
    | cons c' kept =>
      refine ⟨after, ?_, hafter⟩
      rw [trimEndChars, hkept, List.cons_append, ← hkept, ← hrest]
    | nil =>
      rw [hkept, List.nil_append] at hrest
      subst hrest
      by_cases hc : isBlank c = true
      · refine ⟨c :: rest, ?_, ?_⟩
        · simp [trimEndChars, hkept, hc]
        · intro c' hc'
          rcases List.mem_cons.1 hc' with rfl | hmem
          · exact hc
          · exact hafter c' hmem
      · exact ⟨rest, by simp [trimEndChars, hkept, hc], hafter⟩

/-- What is left does not end with a blank. -/
theorem last_trimEndChars (cs : List Char) :
    ∀ c ∈ (trimEndChars cs).getLast?, isBlank c = false := by
  induction cs with
  | nil => simp
  | cons c rest ih =>
    cases hkept : trimEndChars rest with
    | nil =>
      by_cases hc : isBlank c = true
      · simp [trimEndChars, hkept, hc]
      · simp [trimEndChars, hkept, hc]
    | cons c' kept =>
      rw [hkept] at ih
      rw [trimEndChars, hkept]
      simpa [List.getLast?_cons_cons] using ih

/-- A text that does not end with a blank keeps its end. -/
theorem trimEndChars_eq_self (h : ∀ c ∈ cs.getLast?, isBlank c = false) : trimEndChars cs = cs := by
  induction cs with
  | nil => rfl
  | cons c rest ih =>
    cases rest with
    | nil =>
      have hc : isBlank c = false := h c rfl
      simp [trimEndChars, hc]
    | cons c' rest =>
      have hrest : trimEndChars (c' :: rest) = c' :: rest := by
        apply ih
        simpa [List.getLast?_cons_cons] using h
      rw [trimEndChars, hrest]

/-! ### The core -/

/-- Without any blanks a text is bare. -/
theorem bare_of_forall (h : ∀ c ∈ cs, isBlank c = false) : Bare cs :=
  ⟨fun c hc => h c (List.mem_of_mem_head? hc), fun c hc => h c (List.mem_of_mem_getLast? hc)⟩

/-- Trimming leaves the core. -/
theorem core_trimChars (cs : List Char) : Core cs (trimChars cs) := by
  obtain ⟨after, hafter, hblanks⟩ := exists_trimEndChars_append (cs.dropWhile isBlank)
  have hcut : cs = cs.takeWhile isBlank ++ (trimChars cs ++ after) := by
    rw [trimChars, ← hafter, List.takeWhile_append_dropWhile]
  refine ⟨⟨_, _, hcut, fun c hc => List.mem_takeWhile_imp hc, hblanks⟩, ?_, last_trimEndChars _⟩
  intro c hc
  -- The first character left is the first that is no blank.
  have hhead : c ∈ (cs.dropWhile isBlank).head? := by
    rw [hafter]
    unfold trimChars at hc
    cases hkept : trimEndChars (cs.dropWhile isBlank) with
    | nil => simp [hkept] at hc
    | cons c' kept => simpa [hkept] using hc
  have hnot := List.head?_dropWhile_not isBlank cs
  rw [Option.mem_def.1 hhead] at hnot
  exact hnot

/-- There is one core. -/
theorem Core.trimChars_eq (h : Core cs ds) : trimChars cs = ds := by
  obtain ⟨before, after, rfl, hbefore, hafter⟩ := h.around
  rw [trimChars, List.dropWhile_append_of_pos hbefore]
  cases ds with
  | nil => rw [List.nil_append, List.dropWhile_eq_nil_iff.2 hafter, trimEndChars_nil]
  | cons c rest =>
    have hc : isBlank c = false := h.bare.first c rfl
    rw [List.cons_append, List.dropWhile_cons_of_neg (by simp [hc]), ← List.cons_append,
      trimEndChars_append_blanks _ hafter, trimEndChars_eq_self h.bare.last]

/-- **Trimming is finding the core.** -/
theorem trimChars_eq_iff : trimChars cs = ds ↔ Core cs ds := by
  constructor
  · rintro rfl
    exact core_trimChars cs
  · exact Core.trimChars_eq

/-- A bare text is not trimmed. -/
theorem Bare.trimChars_eq (h : Bare cs) : trimChars cs = cs := by
  apply Core.trimChars_eq
  exact ⟨⟨[], [], by simp, by simp [Blanks], by simp [Blanks]⟩, h⟩

/-- Nothing is left of blanks alone. -/
theorem trimChars_eq_nil_iff : trimChars cs = [] ↔ Blanks cs := by
  constructor
  · intro h
    obtain ⟨before, after, rfl, hbefore, hafter⟩ := (trimChars_eq_iff.1 h).around
    intro c hc
    rcases List.mem_append.1 hc with hmem | hmem
    · exact hbefore c hmem
    · exact hafter c hmem
  · intro h
    apply Core.trimChars_eq
    exact ⟨⟨cs, [], by simp, h, by simp [Blanks]⟩, bare_of_forall (by simp)⟩

/-- Blanks in front of a text change nothing. -/
theorem trimChars_blanks_append (cs : List Char) (h : Blanks blanks) :
    trimChars (blanks ++ cs) = trimChars cs := by
  rw [trimChars, List.dropWhile_append_of_pos h, trimChars]

/-- Blanks after a text change nothing. -/
theorem trimChars_append_blanks (cs : List Char) (h : Blanks blanks) :
    trimChars (cs ++ blanks) = trimChars cs := by
  obtain ⟨before, after, hcs, hbefore, hafter⟩ := (core_trimChars cs).around
  apply Core.trimChars_eq
  refine ⟨⟨before, after ++ blanks, ?_, hbefore, ?_⟩, (core_trimChars cs).bare⟩
  · calc
      cs ++ blanks = before ++ (trimChars cs ++ after) ++ blanks := by rw [← hcs]
      _ = before ++ (trimChars cs ++ (after ++ blanks)) := by simp only [List.append_assoc]
  · intro c hc
    rcases List.mem_append.1 hc with hmem | hmem
    · exact hafter c hmem
    · exact h c hmem

theorem core_blanks_append_iff (h : Blanks blanks) : Core (blanks ++ cs) ds ↔ Core cs ds := by
  rw [← trimChars_eq_iff, ← trimChars_eq_iff, trimChars_blanks_append _ h]

theorem core_append_blanks_iff (h : Blanks blanks) : Core (cs ++ blanks) ds ↔ Core cs ds := by
  rw [← trimChars_eq_iff, ← trimChars_eq_iff, trimChars_append_blanks _ h]

end Hotplug.Text
