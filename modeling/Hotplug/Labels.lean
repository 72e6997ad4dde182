import Hotplug.Table
import Hotplug.Text.Blank
import Hotplug.Text.Cut

/-!
# Labels

The labels put on every object are given as one text, `key=value` pairs between commas, and sent
back to the API server in the same form to select those objects.

## Main definitions

* `Labels.parse` — reads the pairs; of several with one key the last counts.
* `Labels.selector` — writes them, in ascending order of keys.
-/

namespace Hotplug.Labels

/-- Why a text holds no labels. -/
inductive Error where
  /-- The pair has no equals sign. -/
  | noValue (pair : String)
  /-- Nothing stands before the equals sign. -/
  | emptyKey (pair : String)
  deriving DecidableEq, Repr, Inhabited

/-- The message of a failure. -/
def Error.message : Error → String
  | noValue pair => "label " ++ pair ++ " is not in key=value form"
  | emptyKey pair => "label " ++ pair ++ " has an empty key"

/-- Reads one pair, which has no blanks around it. -/
def parsePair (pair : String) : Except Error (String × String) :=
  match Text.cut? '=' pair with
  | none => .error (.noValue pair)
  | some (key, value) =>
    if (Text.trim key).isEmpty then .error (.emptyKey pair)
    else .ok (Text.trim key, Text.trim value)

/-- The parts of a text between commas, without blanks around them and without empty parts. -/
def pairs (text : String) : List String :=
  ((Text.split ',' text).map Text.trim).filter (fun pair => !pair.isEmpty)

/-- Reads labels. -/
def parse (text : String) : Except Error (Table String) :=
  ((pairs text).mapM parsePair).map Table.ofList

/-- The text that selects the objects with these labels. -/
def selector (labels : Table String) : String :=
  ",".intercalate (labels.entries.map fun (key, value) => key ++ "=" ++ value)

end Hotplug.Labels
