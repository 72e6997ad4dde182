/-!
# Cutting a text at a character

## Main definitions

* `Text.cutChars?`, `Text.cut?` — the parts before and after the first separator.
* `Text.splitChars`, `Text.split` — all parts between separators.
* `Text.after?` — what follows a fixed beginning.
-/

namespace Hotplug.Text

/-- The parts before and after the first `sep`, which belongs to neither. -/
def cutChars? (sep : Char) : List Char → Option (List Char × List Char)
  | [] => none
  | c :: rest =>
    if c = sep then some ([], rest)
    else (cutChars? sep rest).map fun (front, back) => (c :: front, back)

/-- The parts before and after the first `sep`, which belongs to neither. -/
def cut? (sep : Char) (s : String) : Option (String × String) :=
  (cutChars? sep s.toList).map fun (front, back) => (String.ofList front, String.ofList back)

/-- The parts between the occurrences of `sep`: one more than there are separators. -/
def splitChars (sep : Char) : List Char → List (List Char)
  | [] => [[]]
  | c :: rest =>
    if c = sep then [] :: splitChars sep rest
    else
      match splitChars sep rest with
      | [] => [[c]]
      | part :: parts => (c :: part) :: parts

/-- The parts between the occurrences of `sep`: one more than there are separators. -/
def split (sep : Char) (s : String) : List String :=
  (splitChars sep s.toList).map String.ofList

/-- What follows the beginning `start`, if the text has it. -/
def afterChars? : (start : List Char) → List Char → Option (List Char)
  | [], cs => some cs
  | _ :: _, [] => none
  | p :: start, c :: cs => if p = c then afterChars? start cs else none

/-- What follows the beginning `start`, if the text has it. -/
def after? (start : String) (s : String) : Option String :=
  (afterChars? start.toList s.toList).map String.ofList

@[simp] theorem cutChars?_nil (sep : Char) : cutChars? sep [] = none := rfl

@[simp] theorem splitChars_nil (sep : Char) : splitChars sep [] = [[]] := rfl

@[simp] theorem afterChars?_nil (cs : List Char) : afterChars? [] cs = some cs := rfl

/-- Nothing is lost by a cut, and its first part has no separator. -/
theorem cutChars?_eq_some {sep : Char} {cs front back : List Char}
    (h : cutChars? sep cs = some (front, back)) : cs = front ++ sep :: back ∧ sep ∉ front := by
  induction cs generalizing front with
  | nil => simp at h
  | cons c rest ih =>
    unfold cutChars? at h
    by_cases hc : c = sep
    · simp only [hc, ↓reduceIte, Option.some.injEq, Prod.mk.injEq] at h
      obtain ⟨rfl, rfl⟩ := h
      simp [hc]
    · simp only [hc, ↓reduceIte, Option.map_eq_some_iff] at h
      obtain ⟨⟨front', back'⟩, h', heq⟩ := h
      simp only [Prod.mk.injEq] at heq
      obtain ⟨rfl, rfl⟩ := heq
      obtain ⟨rfl, hn⟩ := ih h'
      refine ⟨rfl, ?_⟩
      simp only [List.mem_cons, not_or]
      exact ⟨fun h => hc h.symm, hn⟩

/-- A cut is at the first separator. -/
theorem cutChars?_append {sep : Char} {front : List Char} (h : sep ∉ front) (back : List Char) :
    cutChars? sep (front ++ sep :: back) = some (front, back) := by
  induction front with
  | nil => simp [cutChars?]
  | cons c rest ih =>
    rw [List.mem_cons, not_or] at h
    have hc : c ≠ sep := fun hc => h.1 hc.symm
    rw [List.cons_append, cutChars?, if_neg hc, ih h.2]
    rfl

/-- A text is cut in two exactly if it is the two around the separator, and the first has none. -/
theorem cut?_eq_some_iff {sep : Char} {text front back : String} :
    cut? sep text = some (front, back) ↔
      text.toList = front.toList ++ sep :: back.toList ∧ sep ∉ front.toList := by
  unfold cut?
  constructor
  · intro h
    obtain ⟨⟨f, b⟩, hcut, heq⟩ := Option.map_eq_some_iff.1 h
    obtain ⟨rfl, rfl⟩ := Prod.mk.inj heq
    rw [String.toList_ofList, String.toList_ofList]
    exact cutChars?_eq_some hcut
  · rintro ⟨htext, hsep⟩
    rw [htext, cutChars?_append hsep]
    simp

/-- The parts between separators have none. -/
theorem not_mem_of_mem_splitChars {sep : Char} {cs part : List Char}
    (h : part ∈ splitChars sep cs) : sep ∉ part := by
  induction cs generalizing part with
  | nil =>
    obtain rfl := List.mem_singleton.1 h
    exact List.not_mem_nil
  | cons c rest ih =>
    unfold splitChars at h
    split at h
    · rcases List.mem_cons.1 h with rfl | h
      · exact List.not_mem_nil
      · exact ih h
    · next hc =>
      have hcons : ∀ {front : List Char}, sep ∉ front → sep ∉ c :: front := fun hfront hmem =>
        (List.mem_cons.1 hmem).elim (fun heq => hc heq.symm) hfront
      split at h
      · obtain rfl := List.mem_singleton.1 h
        exact hcons List.not_mem_nil
      · next first parts hrest =>
        rw [hrest] at ih
        rcases List.mem_cons.1 h with rfl | h
        · exact hcons (ih List.mem_cons_self)
        · exact ih (List.mem_cons_of_mem _ h)

/-- There is always a part. -/
theorem splitChars_ne_nil (sep : Char) (cs : List Char) : splitChars sep cs ≠ [] := by
  cases cs with
  | nil => exact List.cons_ne_nil _ _
  | cons c rest =>
    unfold splitChars
    split
    · exact List.cons_ne_nil _ _
    · split <;> exact List.cons_ne_nil _ _

/-- A text without separators is one part. -/
theorem splitChars_of_not_mem {sep : Char} {cs : List Char} (h : sep ∉ cs) :
    splitChars sep cs = [cs] := by
  induction cs with
  | nil => rfl
  | cons c rest ih =>
    rw [List.mem_cons, not_or] at h
    rw [splitChars, if_neg fun hc => h.1 hc.symm, ih h.2]

/-- The first part ends at the first separator. -/
theorem splitChars_append {sep : Char} {front : List Char} (h : sep ∉ front) (back : List Char) :
    splitChars sep (front ++ sep :: back) = front :: splitChars sep back := by
  induction front with
  | nil => rw [List.nil_append, splitChars, if_pos rfl]
  | cons c rest ih =>
    rw [List.mem_cons, not_or] at h
    rw [List.cons_append, splitChars, if_neg fun hc => h.1 hc.symm, ih h.2]

/-- Parts that are put together are found again. -/
theorem splitChars_intercalate {sep : Char} {parts : List (List Char)} (hne : parts ≠ [])
    (h : ∀ part ∈ parts, sep ∉ part) : splitChars sep ([sep].intercalate parts) = parts := by
  induction parts with
  | nil => exact absurd rfl hne
  | cons part rest ih =>
    have hpart := h part List.mem_cons_self
    cases rest with
    | nil => rw [List.intercalate_singleton, splitChars_of_not_mem hpart]
    | cons part' rest =>
      have hrest := ih (List.cons_ne_nil _ _) fun p hp => h p (List.mem_cons_of_mem _ hp)
      rw [List.intercalate_cons_cons, List.append_assoc, List.singleton_append,
        splitChars_append hpart, hrest]

/-- Nothing is lost by splitting. -/
theorem intercalate_splitChars (sep : Char) (cs : List Char) :
    [sep].intercalate (splitChars sep cs) = cs := by
  induction cs with
  | nil => rfl
  | cons c rest ih =>
    unfold splitChars
    cases hrest : splitChars sep rest with
    | nil => exact absurd hrest (splitChars_ne_nil sep rest)
    | cons part parts =>
      rw [hrest] at ih
      split
      · next hc => rw [hc, List.intercalate_cons_cons, ih, List.nil_append, List.singleton_append]
      · -- The character belongs to the first part.
        cases parts with
        | nil => rw [List.intercalate_singleton] at ih ⊢; rw [ih]
        | cons part' parts =>
          rw [List.intercalate_cons_cons] at ih ⊢
          rw [← ih]
          rfl

theorem split_ne_nil (sep : Char) (s : String) : split sep s ≠ [] :=
  fun h => splitChars_ne_nil sep s.toList (List.map_eq_nil_iff.1 h)

/-- The parts of a text have no separators. -/
theorem not_mem_of_mem_split {sep : Char} {s part : String} (h : part ∈ split sep s) :
    sep ∉ part.toList := by
  obtain ⟨cs, hcs, rfl⟩ := List.mem_map.1 h
  rw [String.toList_ofList]
  exact not_mem_of_mem_splitChars hcs

/-- Parts that are put together with separators are found again. -/
theorem split_intercalate {sep : Char} {parts : List String} (hne : parts ≠ [])
    (h : ∀ part ∈ parts, sep ∉ part.toList) :
    split sep ((String.singleton sep).intercalate parts) = parts := by
  have hsplit : splitChars sep ((String.singleton sep).intercalate parts).toList =
      parts.map String.toList := by
    rw [String.toList_intercalate, String.toList_singleton]
    refine splitChars_intercalate (fun hnil => hne (List.map_eq_nil_iff.1 hnil)) fun cs hcs => ?_
    obtain ⟨part, hpart, rfl⟩ := List.mem_map.1 hcs
    exact h part hpart
  unfold split
  rw [hsplit, List.map_map]
  refine (List.map_congr_left fun part _ => ?_).trans (List.map_id parts)
  exact String.ofList_toList

/-- The parts of a text are put together again with separators. -/
theorem intercalate_split (sep : Char) (s : String) :
    (String.singleton sep).intercalate (split sep s) = s := by
  refine String.toList_inj.1 ?_
  rw [String.toList_intercalate, String.toList_singleton]
  unfold split
  rw [List.map_map]
  have hsame : (splitChars sep s.toList).map (String.toList ∘ String.ofList) =
      splitChars sep s.toList :=
    (List.map_congr_left fun cs _ => String.toList_ofList).trans (List.map_id _)
  rw [hsame, intercalate_splitChars]

end Hotplug.Text
