import Hotplug.Json.Basic

/-!
# Records in JSON

A record is an object with known fields. Each field occurs once at most, under its name or under
another name that stands for it, and members that are no field are ignored. A record may also be
written as an array of its fields in order.

## Main definitions

* `Record.field` — the one value of a field, whichever name it is under.
* `Record.read` — reads a field, with a value of its own for its absence.
* `Record.need` — reads a field that must not be absent.
-/

namespace Hotplug

namespace Record

/-- The values under either of two names, in order. -/
def occurrences (name alias_ : String) (members : List (String × Json)) : List Json :=
  (members.filter fun m => m.1 == name || m.1 == alias_).map (·.2)

/-- The value of the field with a name, an alias and a position; the outer `none` means that it
occurs twice. -/
def field (name alias_ : String) (position : Nat) : Json → Option (Option Json)
  | .object members =>
    match occurrences name alias_ members with
    | [] => some none
    | [j] => some (some j)
    | _ => none
  | .array items => some items[position]?
  | _ => none

/-- Whether a value can be a record of so many fields; an array may have more where there may be a
surplus. -/
def fits (surplus : Bool) (fields : Nat) : Json → Bool
  | .object _ => true
  | .array items => surplus || items.length ≤ fields
  | _ => false

/-- Reads a field with a value of its own for its absence. -/
def read {α : Type} (name alias_ : String) (position : Nat) (absent : α)
    (value? : Json → Option α) (j : Json) : Option α :=
  match field name alias_ position j with
  | none => none
  | some none => some absent
  | some (some v) => value? v

/-- Reads a field that must not be absent. -/
def need {α : Type} (name : String) (position : Nat) (value? : Json → Option α) (j : Json) :
    Option α :=
  (field name name position j).join.bind value?

/-- Reads every item of an array. -/
def list? {α : Type} (item? : Json → Option α) (j : Json) : Option (List α) :=
  match j with
  | .array items => items.mapM item?
  | _ => none

end Record

end Hotplug
