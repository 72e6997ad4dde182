import Hotplug.Json.Token

/-!
# Reading JSON text

Strict JSON: one value, nothing after it, no trailing commas. At most 127 arrays and objects inside
one another have a meaning, and so have keys that are text; what is written otherwise does no harm
where nobody reads it.

## Main definitions

* `Json.parse?` — the value of a text.
-/

namespace Hotplug.Json

/-- An array or an object with `depth` levels left for it and what is inside it; it has no meaning
where none is left. -/
def nested : (depth : Nat) → Json → Json
  | 0, _ => unreadable
  | _ + 1, j => j

/-- The object with some members; a key that is not text leaves it without a meaning. -/
def ofMembers (members : List (Option String × Json)) : Json :=
  match members.mapM fun m => m.1.map fun key => (key, m.2) with
  | some members => object members
  | none => unreadable

mutual

/-- Reads a value. `fuel` bounds the steps, and `depth` the levels that have a meaning. -/
def takeValue : Nat → Nat → List Token → Option (Json × List Token)
  | 0, _, _ => none
  | fuel + 1, depth, tokens =>
    match tokens with
    | .scalar value :: rest => some (value, rest)
    | .text (some s) :: rest => some (string s, rest)
    | .text none :: rest => some (unreadable, rest)
    | .openBracket :: rest =>
      match rest with
      | .closeBracket :: rest => some (nested depth (array []), rest)
      | _ =>
        (takeItems fuel (depth - 1) rest).map fun (items, rest) =>
          (nested depth (array items), rest)
    | .openBrace :: rest =>
      match rest with
      | .closeBrace :: rest => some (nested depth (object []), rest)
      | _ =>
        (takeMembers fuel (depth - 1) rest).map fun (members, rest) =>
          (nested depth (ofMembers members), rest)
    | _ => none

/-- Reads the items of an array up to its bracket. -/
def takeItems : Nat → Nat → List Token → Option (List Json × List Token)
  | 0, _, _ => none
  | fuel + 1, depth, tokens =>
    match takeValue fuel depth tokens with
    | some (value, .comma :: rest) =>
      (takeItems fuel depth rest).map fun (items, rest) => (value :: items, rest)
    | some (value, .closeBracket :: rest) => some ([value], rest)
    | _ => none

/-- Reads the members of an object up to its brace. -/
def takeMembers : Nat → Nat → List Token → Option (List (Option String × Json) × List Token)
  | 0, _, _ => none
  | fuel + 1, depth, tokens =>
    match tokens with
    | .text key :: .colon :: rest =>
      match takeValue fuel depth rest with
      | some (value, .comma :: rest) =>
        (takeMembers fuel depth rest).map fun (members, rest) => ((key, value) :: members, rest)
      | some (value, .closeBrace :: rest) => some ([(key, value)], rest)
      | _ => none
    | _ => none

end

/-- The most arrays and objects inside one another that have a meaning. -/
def maxDepth : Nat := 127

/-- The value of some characters that are one JSON value. Each token is visited twice at most. -/
def parseChars? (cs : List Char) : Option Json :=
  match tokens? cs with
  | none => none
  | some tokens =>
    match takeValue (2 * tokens.length + 1) maxDepth tokens with
    | some (value, []) => some value
    | _ => none

/-- The value of a text that is one JSON value. -/
def parse? (text : String) : Option Json :=
  parseChars? text.toList

end Hotplug.Json
