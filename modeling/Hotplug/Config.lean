import Hotplug.Json.Parser
import Hotplug.Policy.Document
import Hotplug.Text.Cut
import Hotplug.Toml.Parser
import Hotplug.Width
import Hotplug.Yaml.Parser

/-!
# Configuration files

The policy is kept in a file, in one of three formats, which the file's extension names. Its
scalars are read leniently: a truth value may be written as a number or a word, and a text as a
number or a truth value.

## Main definitions

* `Config.Format` — the formats; `Format.ofName?` finds the one of a file.
* `Config.lenient` — how scalars are read.
* `Config.policy` — the policy of a file.
-/

namespace Hotplug.Config

/-- Why a file holds no policy. -/
inductive Error where
  /-- Its extension names no format. -/
  | format
  /-- Its text is not of its format, or is no map of keys. -/
  | text
  /-- Its values are not what they should be. -/
  | values
  deriving DecidableEq, Repr, Inhabited

/-- The message of a failure. -/
def Error.message : Error → String
  | format => "the driver configuration is in no known format"
  | text => "the driver configuration cannot be read"
  | values => "the driver configuration has values that are not what they should be"

/-- A format of configuration files. -/
inductive Format where
  | json | yaml | toml
  deriving DecidableEq, Repr, Inhabited

/-- The extension of a file's name: what follows the last dot, which is not its first
character. -/
def extension (name : String) : String :=
  match (Text.split '.' name).reverse with
  | last :: first :: rest => if first.isEmpty && rest.isEmpty then "" else last
  | _ => ""

/-- The format of a file. -/
def Format.ofName? (name : String) : Option Format :=
  [("json", json), ("yaml", yaml), ("yml", yaml), ("toml", toml)].lookup (extension name)

mutual

/-- The value with each key once: of several the last counts. -/
def lastOnly : Json → Json
  | .array items => .array (lastOnlyItems items)
  | .object members => .object (lastOnlyMembers members)
  | j => j

/-- The items with each key once. -/
def lastOnlyItems : List Json → List Json
  | [] => []
  | j :: rest => lastOnly j :: lastOnlyItems rest

/-- The members with each key once. -/
def lastOnlyMembers : List (String × Json) → List (String × Json)
  | [] => []
  | (key, j) :: rest =>
    let rest := lastOnlyMembers rest
    if rest.any (·.1 == key) then rest else (key, lastOnly j) :: rest

end

/-- The value of a text in a format. -/
def Format.read? (text : String) : Format → Option Json
  | json => ((Json.parse? text).filter Json.isReadable).map lastOnly
  | yaml => Yaml.parse? text
  | toml => Toml.parse? text

/-- A truth value, a number that is not zero, or a word for one of the two truth values. -/
def lenientBool? : Json → Option Bool
  | .bool b => some b
  | .int n => some (n ≠ 0)
  | .double d => some (!d.isZero)
  | .string s =>
    let word := String.ofList (s.toList.map Char.toLower)
    if ["1", "true", "on", "yes"].contains word then some true
    else if ["0", "false", "off", "no"].contains word then some false
    else none
  | _ => none

/-- A text, or the text of a number or of a truth value. A whole number past 64 bits with sign is
the nearest double. -/
def lenientText? : Json → Option String
  | .string s => some s
  | .bool b => some (if b then "true" else "false")
  | .int n => some (if n ≤ Width.maxInt64 then Digits.text n else (Double.ofInt n).text)
  | .double d => some d.text
  | _ => none

/-- Scalars are converted, and a record in brackets may have items too many. -/
def lenient : Reading :=
  ⟨lenientBool?, lenientText?, true⟩

/-! ### Keys as paths -/

/-- The names of a key that is a path: names of letters, digits, `_` and `-` between dots. -/
def keyPath (key : String) : List String :=
  let names := Text.split '.' key
  let isName (name : String) : Bool :=
    !name.isEmpty && name.toList.all fun c => c.isAlphanum || c = '_' || c = '-'
  if names.all isName then names else [key]

mutual

/-- The value with another laid over it: objects are joined, and anything else is replaced. -/
def overlay (under : Json) : Json → Json
  | .object members =>
    match under with
    | .object old => .object (overlayMembers old members)
    | _ => .object (overlayMembers [] members)
  | j => j

/-- The members with others laid over them, one after another. -/
def overlayMembers (old : List (String × Json)) : List (String × Json) → List (String × Json)
  | [] => old
  | (key, j) :: rest =>
    let new := overlay ((old.lookup key).getD .null) j
    overlayMembers (old.filter (·.1 != key) ++ [(key, new)]) rest

end

/-- The value at the end of a path. -/
def atPath : List String → Json → Json
  | [], j => j
  | name :: path, j => .object [(name, atPath path j)]

/-- The members of a document, in which the keys at its top are paths. -/
def expandKeys (members : List (String × Json)) : Json :=
  members.foldl (fun sofar (key, j) => overlay sofar (atPath (keyPath key) j)) (.object [])

/-! ### The policy -/

/-- The name of the policy in a file. -/
def policyKey : String := "infraStorageClassEnforcement"

/-- Another name of it. -/
def policyAlias : String := "infrastorageclassenforcement"

/-- The policy of a document; one that names none allows everything. -/
def policyOf? (document : Json) : Option Policy :=
  Record.read policyKey policyAlias 0 Policy.permissive (Policy.ofJsonWith? lenient) document

/-- The text without a mark of its byte order. -/
def withoutMark (text : String) : String :=
  (Text.after? "\ufeff" text).getD text

/-- The policy of a file, from its name and its text. -/
def policy (name text : String) : Except Error Policy :=
  match Format.ofName? name with
  | none => .error .format
  | some f =>
    match f.read? (withoutMark text) with
    | some (.object members) =>
      match policyOf? (expandKeys members) with
      | some p => .ok p
      | none => .error .values
    | _ => .error .text

/-- The policy of a file that may be missing; a missing one allows everything. -/
def policyOrDefault (name : String) (text : Option String) : Except Error Policy :=
  match text with
  | none => .ok Policy.permissive
  | some text => policy name text

end Hotplug.Config
