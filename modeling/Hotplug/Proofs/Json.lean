import Hotplug.Json.Parser

/-!
# JSON values

Two values are equal if they are written alike, member by member, and this can be decided. A path
of keys may be followed in parts.

## Main definitions

* `Json.same` — whether two values are equal.

## Main results

* `Json.same_iff` — it decides equality.
* `Json.pointer?_append` — a path is followed in parts.
* `Json.parse?_ofList` — a text is parsed as its characters are.
-/

namespace Hotplug.Json

/-! ### Equality -/

mutual

/-- Whether two values are equal. -/
def same : Json → Json → Bool
  | null, null => true
  | bool a, bool b => a == b
  | int m, int n => m == n
  | double x, double y => decide (x = y)
  | string s, string t => s == t
  | unreadable, unreadable => true
  | array items, array items' => sameItems items items'
  | object members, object members' => sameMembers members members'
  | _, _ => false

/-- Whether items are equal, one by one. -/
def sameItems : List Json → List Json → Bool
  | [], [] => true
  | j :: items, j' :: items' => same j j' && sameItems items items'
  | _, _ => false

/-- Whether members are equal, one by one. -/
def sameMembers : List (String × Json) → List (String × Json) → Bool
  | [], [] => true
  | (key, j) :: members, (key', j') :: members' =>
    key == key' && same j j' && sameMembers members members'
  | _, _ => false

end

mutual

theorem same_iff : ∀ j j' : Json, same j j' = true ↔ j = j'
  | null, j' => by cases j' <;> simp [same]
  | bool _, j' => by cases j' <;> simp [same]
  | int _, j' => by cases j' <;> simp [same]
  | double _, j' => by cases j' <;> simp [same]
  | string _, j' => by cases j' <;> simp [same]
  | unreadable, j' => by cases j' <;> simp [same]
  | array items, j' => by
    cases j' with
    | array items' => simp [same, sameItems_iff items items']
    | _ => simp [same]
  | object members, j' => by
    cases j' with
    | object members' => simp [same, sameMembers_iff members members']
    | _ => simp [same]

theorem sameItems_iff : ∀ items items' : List Json, sameItems items items' = true ↔ items = items'
  | [], items' => by cases items' <;> simp [sameItems]
  | j :: items, items' => by
    cases items' with
    | nil => simp [sameItems]
    | cons j' items' => simp [sameItems, same_iff j j', sameItems_iff items items']

theorem sameMembers_iff : ∀ members members' : List (String × Json),
    sameMembers members members' = true ↔ members = members'
  | [], members' => by cases members' <;> simp [sameMembers]
  | (key, j) :: members, members' => by
    cases members' with
    | nil => simp [sameMembers]
    | cons member' members' =>
      obtain ⟨key', j'⟩ := member'
      simp [sameMembers, same_iff j j', sameMembers_iff members members', and_assoc]

end

instance : DecidableEq Json := fun j j' => decidable_of_iff _ (same_iff j j')

/-! ### Paths -/

/-- A path is followed in parts. -/
theorem pointer?_append (path path' : List String) (j : Json) :
    pointer? (path ++ path') j = (pointer? path j).bind (pointer? path') := by
  induction path generalizing j with
  | nil => rfl
  | cons key path ih =>
    rw [List.cons_append, pointer?_cons, pointer?_cons]
    cases j.last? key with
    | none => rfl
    | some v => exact ih v

/-- A text is parsed as its characters are. -/
theorem parse?_ofList (cs : List Char) : parse? (String.ofList cs) = parseChars? cs :=
  congrArg parseChars? String.toList_ofList

end Hotplug.Json
