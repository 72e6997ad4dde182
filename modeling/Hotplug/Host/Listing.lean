import Hotplug.Host.Device
import Hotplug.Json.Parser
import Hotplug.Json.Record
import Hotplug.Text.Blank

/-!
# Listings that commands print

Devices and mounts are listed as JSON records.

## Main definitions

* `Listing.devices` — the block devices of a listing that have a serial.
* `Listing.isMounted` — whether a listing of mounts has a target.
-/

namespace Hotplug.Listing

open Record

/-- A text, or nothing where it is `null`. -/
def optionalText? : Json → Option (Option String)
  | .null => some none
  | j => j.text?.map some

/-- One listed device: its serial as printed, its path, and its filesystem. -/
structure Line where
  name : String
  serial : Option String
  fsType : Option String
  deriving DecidableEq, Repr, Inhabited

/-- Reads one listed device. -/
def Line.ofJson? (j : Json) : Option Line :=
  if fits false 3 j then do
    let name ← need "name" 0 Json.text? j
    let serial ← read "serial" "serial" 1 none optionalText? j
    let fsType ← read "fstype" "fstype" 2 none optionalText? j
    return { name, serial, fsType }
  else none

/-- Reads the records of a listing under a name; a listing without them is empty. -/
def records? {α : Type} (name : String) (record? : Json → Option α) (text : String) :
    Option (List α) := do
  let j ← Json.parse? text
  if fits false 1 j then read name name 0 [] (list? record?) j else none

/-- A listed device, if it has a serial besides white space. -/
def Line.device? (l : Line) : Option BlockDevice :=
  match (l.serial.map Text.trim).filter fun s => !s.isEmpty with
  | some serial => some { serial, path := l.name, fsType := l.fsType.filter fun fs => !fs.isEmpty }
  | none => none

/-- The devices of a listing that have a serial. -/
def devices (text : String) : Except DriverError (List BlockDevice) :=
  match records? "blockdevices" Line.ofJson? text with
  | some lines => .ok (lines.filterMap Line.device?)
  | none => .error (.internal "unparsable lsblk output")

/-- The target of one listed mount. -/
def target? (j : Json) : Option String :=
  if fits false 1 j then need "target" 0 Json.text? j else none

/-- Whether a listing of mounts has a target; a blank one has none. -/
def isMounted (target text : String) : Except DriverError Bool :=
  if (Text.trim text).isEmpty then .ok false
  else
    match records? "filesystems" target? text with
    | some targets => .ok (targets.contains target)
    | none => .error (.internal "unparsable findmnt output")

end Hotplug.Listing
