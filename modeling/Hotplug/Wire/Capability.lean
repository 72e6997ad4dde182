import Hotplug.Capability
import Hotplug.Wire.Message

/-!
# Capabilities and ranges in their wire form

## Main definitions

* `Wire.capability?` — a requested use of a volume.
* `Wire.range?` — the two ends of a range of sizes.
-/

namespace Hotplug.Wire

/-- A mount as one kind of use. -/
def mount? (fields : List Field) : Option AccessType := do
  let fsType ← text? 1 fields
  let flags ← texts? 2 fields
  let group ← text? 3 fields
  return .mount fsType flags group

/-- A block device as the other kind of use: a message without fields. -/
def block? (_ : List Field) : Option AccessType :=
  some .block

/-- A requested use of a volume. -/
def capability? (fields : List Field) : Option Capability := do
  let access ← oneOf? 1 2 block? mount? fields
  let mode ← message? 3 (int32? 1) fields
  return { access, mode }

/-- The two ends of a range of sizes. -/
def range? (fields : List Field) : Option (Int × Int) := do
  return (← int64? 1 fields, ← int64? 2 fields)

end Hotplug.Wire
