/-!
# What it takes to succeed

A computation that may fail is put together of parts, and of checks that let the rest go on. It
succeeds where all of them do.

## Main results

* `bind_eq_ok_iff`, `map_eq_ok_iff` — two parts succeed one after the other.
* `guard_eq_ok_iff`, `guard_eq_error_iff` — a check in front of the rest.
* `mapError_eq_ok_iff` — other words for a failure make no success.
-/

namespace Hotplug

variable {α β ε ε' : Type} {x : Except ε α}

/-- To succeed is to have a result. -/
theorem isOk_iff_exists : x.isOk = true ↔ ∃ a, x = .ok a := by
  cases x with
  | error e => exact iff_of_false nofun nofun
  | ok a => exact iff_of_true rfl ⟨a, rfl⟩

/-- What is done in two parts succeeds if both do. -/
theorem bind_eq_ok_iff {f : α → Except ε β} {b : β} :
    (x >>= f) = .ok b ↔ ∃ a, x = .ok a ∧ f a = .ok b := by
  cases x with
  | error e => exact iff_of_false nofun nofun
  | ok a => exact ⟨fun h => ⟨a, rfl, h⟩, fun ⟨_, ha, h⟩ => Except.ok.inj ha ▸ h⟩

/-- What is made of a result is there if the result is. -/
theorem map_eq_ok_iff {f : α → β} {b : β} : x.map f = .ok b ↔ ∃ a, x = .ok a ∧ f a = b := by
  cases x with
  | error e => exact iff_of_false nofun nofun
  | ok a => exact ⟨fun h => ⟨a, rfl, Except.ok.inj h⟩, fun ⟨_, ha, h⟩ => Except.ok.inj ha ▸ h ▸ rfl⟩

/-- A success is what it was when only errors are changed. -/
theorem mapError_eq_ok_iff {f : ε → ε'} {a : α} : x.mapError f = .ok a ↔ x = .ok a := by
  cases x with
  | error e => exact iff_of_false nofun nofun
  | ok a' => exact ⟨fun h => congrArg _ (Except.ok.inj h), fun h => congrArg _ (Except.ok.inj h)⟩

section Guards

variable {c : Prop} [Decidable c] {e e' : ε} {f : PUnit → Except ε α} {a : α}

/-- A check lets the rest succeed where it does not fail. -/
theorem guard_eq_ok_iff :
    (if c then throw e >>= f else x) = .ok a ↔ ¬ c ∧ x = .ok a := by
  by_cases hc : c
  · rw [if_pos hc]
    exact iff_of_false nofun fun h => h.1 hc
  · rw [if_neg hc, and_iff_right hc]

/-- A check that fails is the failure of the whole, and otherwise the rest may still fail. -/
theorem guard_eq_error_iff :
    (if c then throw e >>= f else x) = .error e' ↔ c ∧ e = e' ∨ ¬ c ∧ x = .error e' := by
  by_cases hc : c
  · rw [if_pos hc]
    change Except.error e = .error e' ↔ _
    simp [hc]
  · simp [hc]

end Guards

end Hotplug
