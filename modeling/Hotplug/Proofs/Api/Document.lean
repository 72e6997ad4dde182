import Hotplug.Api.Volume
import Hotplug.Proofs.Json
import Hotplug.Proofs.Table

/-!
# Reading the parts of an object

What is read of an object is the text, the items or the value at a path of keys. A text counts only
where it is not empty.

## Main results

* `textAt?_eq_some_iff` — what a text at a path is.
* `textAt?_under` — a text in a part of an object is one of the object, at a longer path.
* `textTable_ofTable` — texts that are written as an object are read back.
-/

namespace Hotplug

namespace Api.Object

variable {object : Json} {path : List String} {s : String}

/-- A text that counts is there, and not empty. -/
theorem textAt?_eq_some_iff :
    textAt? path object = some s ↔ object.pointer? path = some (.string s) ∧ s ≠ "" := by
  unfold textAt?
  rw [Option.filter_eq_some_iff, Option.bind_eq_some_iff]
  constructor
  · rintro ⟨⟨j, hj, htext⟩, hne⟩
    cases j with
    | string s' =>
      cases htext
      exact ⟨hj, by simpa using hne⟩
    | _ => cases htext
  · rintro ⟨hj, hne⟩
    exact ⟨⟨_, hj, rfl⟩, by simpa using hne⟩

/-- A text that is not empty counts. -/
theorem textAt?_of_pointer (h : object.pointer? path = some (.string s)) (hs : s ≠ "") :
    textAt? path object = some s :=
  textAt?_eq_some_iff.2 ⟨h, hs⟩

/-- A text that is empty does not count, and is the empty one then. -/
theorem getD_filter_text (s : String) : ((some s).filter fun t => !t.isEmpty).getD "" = s := by
  rw [Option.filter_some]
  by_cases hs : s = ""
  · simp [hs]
  · simp [hs]

/-- A text in a part of an object is one of the object, at a longer path. -/
theorem textAt?_under (base : List String) (key : String) (path : List String) (object : Json) :
    textAt? (key :: path) ((object.pointer? base).getD .null) =
      textAt? (base ++ key :: path) object := by
  unfold textAt?
  rw [Json.pointer?_append]
  cases object.pointer? base <;> rfl

/-! ### Texts by keys -/

/-- Texts that are written as an object are read back. -/
theorem textTable_ofTable (t : Table String) : textTable (ofTable t) = t := by
  simp only [ofTable, textTable, List.filterMap_map]
  exact (congrArg Table.ofList List.filterMap_some).trans (Table.ofList_entries t)

end Api.Object

end Hotplug
