import Hotplug.Api.Kind
import Hotplug.Json.Basic
import Hotplug.Table

/-!
# The parts of an API object

## Main definitions

* `Object.name`, `Object.ns?`, `Object.uid`, `Object.labels` — what the metadata says.
* `Object.textAt?` — a text at a path, which counts only when it is not empty.
* `Object.named` — a new object.
-/

namespace Hotplug.Api.Object

/-- A text of the metadata. -/
def metaText? (key : String) (object : Json) : Option String :=
  (object.pointer? ["metadata", key]).bind Json.text?

/-- The name of an object, or the start of a name that the server is to complete. -/
def name (object : Json) : String :=
  ((metaText? "name" object).or (metaText? "generateName" object)).getD ""

/-- The namespace of an object. -/
def ns? (object : Json) : Option String :=
  metaText? "namespace" object

/-- The unique id of an object. -/
def uid (object : Json) : String :=
  (metaText? "uid" object).getD ""

/-- The texts of an object of texts. -/
def textTable : Json → Table String
  | .object members => Table.ofList (members.filterMap fun (key, j) => j.text?.map (key, ·))
  | _ => .empty

/-- The labels of an object. -/
def labels (object : Json) : Table String :=
  ((object.pointer? ["metadata", "labels"]).map textTable).getD .empty

/-- The annotations of an object. -/
def annotations (object : Json) : Table String :=
  ((object.pointer? ["metadata", "annotations"]).map textTable).getD .empty

/-- Whether an object is annotated `true` under a key. -/
def isMarked (mark : String) (object : Json) : Bool :=
  (annotations object).get? mark == some "true"

/-- The text at a path, if it is not empty. -/
def textAt? (path : List String) (j : Json) : Option String :=
  ((j.pointer? path).bind Json.text?).filter fun s => !s.isEmpty

/-- The items of the array at a path; none where there is no array. -/
def itemsAt (path : List String) (j : Json) : List Json :=
  ((j.pointer? path).bind Json.items?).getD []

/-- Texts as an object. -/
def ofTable (t : Table String) : Json :=
  .object (t.entries.map fun (key, value) => (key, .string value))

/-- A new object of a kind. -/
def named (kind : Kind) (ns name : String) (labels : Table String) (spec : Json) : Json :=
  .object [("apiVersion", .string kind.apiVersion), ("kind", .string kind.name),
    ("metadata", .object [("labels", ofTable labels), ("name", .string name),
      ("namespace", .string ns)]),
    ("spec", spec)]

end Hotplug.Api.Object
