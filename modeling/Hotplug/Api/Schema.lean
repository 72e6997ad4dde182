import Hotplug.Json.Basic
import Hotplug.Timestamp
import Hotplug.Width

/-!
# Schemas of API objects

An answer of the API server counts only if it has the shape that its kind has. Shapes are checked
first, by a schema, and the few members that matter are read afterwards.

## Main definitions

* `Schema` — the shapes of values.
* `Schema.accepts` — whether a value has a shape.
-/

namespace Hotplug.Api

/-- The shape of a value. -/
inductive Schema where
  /-- Anything that has a meaning in all its parts. -/
  | any
  /-- A text. -/
  | text
  /-- One of some texts. -/
  | oneOf (texts : List String)
  /-- A truth value. -/
  | flag
  /-- A whole number between two bounds, which belong to it. -/
  | int (least greatest : Int)
  /-- A text that is a time. -/
  | time
  /-- `null`, or a value of a shape. -/
  | orNull (shape : Schema)
  /-- An array of values of a shape. -/
  | list (item : Schema)
  /-- An object with values of a shape. -/
  | table (value : Schema)
  /-- An object whose known members have their shapes, each time they occur. -/
  | object (members : List (String × Schema))
  /-- An object whose known members occur once at most and have their shapes, and whose other
  members are anything; some members must occur. -/
  | extensible (required : List String) (members : List (String × Schema))
  /-- An object whose known members occur once at most and have their shapes, or an array of such
  members in order. -/
  | record (members : List (String × Schema))

namespace Schema

/-- The number of times a key occurs. -/
def occurrences (key : String) (members : List (String × Json)) : Nat :=
  members.countP (·.1 == key)

/-- Whether known keys occur once at most. -/
def occurOnce (shapes : List (String × Schema)) (members : List (String × Json)) : Bool :=
  shapes.all fun shape => occurrences shape.1 members ≤ 1

/-- Whether a key is known. -/
def isKnown (key : String) (shapes : List (String × Schema)) : Bool :=
  shapes.any (·.1 == key)

mutual

/-- Whether a value has a shape. -/
def accepts : Schema → Json → Bool
  | any, j => j.isReadable
  | text, .string _ => true
  | oneOf texts, .string s => texts.contains s
  | flag, .bool _ => true
  | int least greatest, .int n => least ≤ n && n ≤ greatest
  | time, .string s => (Timestamp.read? s).isSome
  | orNull shape, j => j.isNull || accepts shape j
  | list item, .array items => items.all fun j => accepts item j
  | table value, .object members => members.all fun m => accepts value m.2
  | object shapes, .object members => membersFit shapes members
  | extensible required shapes, .object members =>
    required.all (fun key => 0 < occurrences key members) &&
      occurOnce shapes members && membersFit shapes members &&
      (members.all fun m => isKnown m.1 shapes || m.2.isReadable)
  | record shapes, .object members => occurOnce shapes members && membersFit shapes members
  | record shapes, .array items => itemsFit shapes items
  | _, _ => false

/-- Whether the members of known keys have their shapes. -/
def membersFit : List (String × Schema) → List (String × Json) → Bool
  | [], _ => true
  | (key, shape) :: rest, members =>
    (members.all fun m => m.1 != key || accepts shape m.2) && membersFit rest members

/-- Whether items have the shapes of known members in order, none beyond them. -/
def itemsFit : List (String × Schema) → List Json → Bool
  | _, [] => true
  | [], _ :: _ => false
  | (_, shape) :: rest, j :: items => accepts shape j && itemsFit rest items

end

/-- A whole number of 32 bits. -/
def int32 : Schema :=
  .int Width.minInt32 Width.maxInt32

/-- A whole number of 64 bits. -/
def int64 : Schema :=
  .int Width.minInt64 Width.maxInt64

/-- An object each of whose known members may be `null`. -/
def fields (members : List (String × Schema)) : Schema :=
  .object (members.map fun (key, shape) => (key, .orNull shape))

/-- Some members of one shape. -/
def each (shape : Schema) (keys : List String) : List (String × Schema) :=
  keys.map fun key => (key, shape)

end Schema

end Hotplug.Api
