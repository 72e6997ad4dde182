import Hotplug.Json.Parser
import Hotplug.Json.Record
import Hotplug.Policy.Basic

/-!
# Policy documents

A policy is written as a JSON object. Each field has its name and the same name in lower case, may
occur once under either, and is false or empty where it does not occur; keys that name no field are
ignored. A record may also be written as an array of its fields in order.

## Main definitions

* `Reading` — how truth values and texts are read; `Reading.strict` reads just those.
* `Policy.ofJson?`, `Policy.toJson` — reading and writing a policy.
-/

namespace Hotplug

/-- How a document is read. -/
structure Reading where
  /-- The truth value of a scalar. -/
  bool? : Json → Option Bool
  /-- The text of a scalar. -/
  text? : Json → Option String
  /-- Whether a record written as an array may have more items than fields. -/
  surplus : Bool

/-- Truth values and texts stand for themselves and nothing else does. -/
def Reading.strict : Reading :=
  ⟨Json.bool?, Json.text?, false⟩

open Record in
/-- Reads one entry of the snapshot mapping. -/
def SnapshotMapping.ofJson? (r : Reading) (j : Json) : Option SnapshotMapping :=
  if fits r.surplus 2 j then do
    let storageClasses ← read "storageClasses" "storageclasses" 0 [] (list? r.text?) j
    let snapshotClasses ← read "volumeSnapshotClasses" "volumesnapshotclasses" 1 []
      (list? r.text?) j
    return { storageClasses, snapshotClasses }
  else none

open Record in
/-- Reads a policy. -/
def Policy.ofJsonWith? (r : Reading) (j : Json) : Option Policy :=
  if fits r.surplus 4 j then do
    let allowAll ← read "allowAll" "allowall" 0 false r.bool? j
    let allowDefault ← read "allowDefault" "allowdefault" 1 false r.bool? j
    let allowList ← read "allowList" "allowlist" 2 [] (list? r.text?) j
    let snapshotMapping ← read "storageSnapshotMapping" "storagesnapshotmapping" 3 []
      (list? (SnapshotMapping.ofJson? r)) j
    return { allowAll, allowDefault, allowList, snapshotMapping }
  else none

/-- Reads a policy whose scalars are written as what they are. -/
def Policy.ofJson? (j : Json) : Option Policy :=
  Policy.ofJsonWith? Reading.strict j

/-- Reads a policy from JSON text. -/
def Policy.ofText? (text : String) : Option Policy :=
  (Json.parse? text).bind Policy.ofJson?

/-- Names as a JSON array. -/
def namesToJson (names : List String) : Json :=
  .array (names.map .string)

/-- Writes one entry of the snapshot mapping. -/
def SnapshotMapping.toJson (m : SnapshotMapping) : Json :=
  .object [("storageClasses", namesToJson m.storageClasses),
    ("volumeSnapshotClasses", namesToJson m.snapshotClasses)]

/-- Writes a policy. -/
def Policy.toJson (p : Policy) : Json :=
  .object [("allowAll", .bool p.allowAll), ("allowDefault", .bool p.allowDefault),
    ("allowList", namesToJson p.allowList),
    ("storageSnapshotMapping", .array (p.snapshotMapping.map SnapshotMapping.toJson))]

end Hotplug
