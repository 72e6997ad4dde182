import Hotplug.Double.Basic

/-!
# JSON values

Policies, configuration, tool output and API objects are JSON. A value keeps its members in the
order written, repeated keys included, so that each reader can say what a repetition means.

## Main definitions

* `Json` — the values.
* `Json.last?` — the value of a key where the last of several counts.
* `Json.pointer?` — the value at a path of keys.
* `Json.isReadable` — no part of the value is without a meaning.
-/

namespace Hotplug

/-- A JSON value. -/
inductive Json where
  /-- `null` -/
  | null
  /-- `true` or `false` -/
  | bool (value : Bool)
  /-- A whole number without point or exponent, in the range of 64-bit numbers. -/
  | int (value : Int)
  /-- Any other number. -/
  | double (value : Double)
  /-- A text. -/
  | string (value : String)
  /-- What is written well and means nothing: a number past all doubles, text with half of a
  surrogate pair, an object with such a key, or a value too deep inside others. It does no harm
  where nobody reads it. -/
  | unreadable
  /-- Values in order. -/
  | array (items : List Json)
  /-- Members in order, with repeated keys. -/
  | object (members : List (String × Json))
  deriving Repr, Inhabited

namespace Json

/-- The value of a key in a list of members; of several the last counts. -/
def lastIn? (key : String) : List (String × Json) → Option Json
  | [] => none
  | (k, v) :: rest => (lastIn? key rest).or (if k = key then some v else none)

/-- The value of a key; of several the last counts. -/
def last? (key : String) : Json → Option Json
  | object members => lastIn? key members
  | _ => none

/-- The value at a path of keys. -/
def pointer? : List String → Json → Option Json
  | [], j => some j
  | key :: path, j => (j.last? key).bind (pointer? path)

/-- The text of a value that is text. -/
def text? : Json → Option String
  | string s => some s
  | _ => none

/-- The items of a value that is an array. -/
def items? : Json → Option (List Json)
  | array items => some items
  | _ => none

/-- The truth value of a value that is one. -/
def bool? : Json → Option Bool
  | bool b => some b
  | _ => none

/-- The whole number of a value that is one. -/
def int? : Json → Option Int
  | int n => some n
  | _ => none

/-- Whether the value is `null`. -/
def isNull : Json → Bool
  | null => true
  | _ => false

/-- Whether the value is an object. -/
def isObject : Json → Bool
  | object _ => true
  | _ => false

/-- Whether a key occurs twice in a list. -/
def repeatsKey : List (String × Json) → Bool
  | [] => false
  | (k, _) :: rest => rest.any (·.1 == k) || repeatsKey rest

mutual

/-- No part of the value is without a meaning. -/
def isReadable : Json → Bool
  | unreadable => false
  | array items => areReadable items
  | object members => membersReadable members
  | _ => true

/-- No item has a part without a meaning. -/
def areReadable : List Json → Bool
  | [] => true
  | j :: rest => isReadable j && areReadable rest

/-- No member has a part without a meaning. -/
def membersReadable : List (String × Json) → Bool
  | [] => true
  | (_, j) :: rest => isReadable j && membersReadable rest

end

@[simp] theorem last?_object (key : String) (members : List (String × Json)) :
    (object members).last? key = lastIn? key members := rfl

@[simp] theorem pointer?_nil (j : Json) : pointer? [] j = some j := rfl

@[simp] theorem pointer?_cons (key : String) (path : List String) (j : Json) :
    pointer? (key :: path) j = (j.last? key).bind (pointer? path) := rfl

end Json

end Hotplug
