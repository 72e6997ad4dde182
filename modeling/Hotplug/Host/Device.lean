import Hotplug.Digits
import Hotplug.Error

/-!
# Block devices of the node

A plugged volume shows up as a block device with the volume's serial. A serial that no device or
more than one has is never resolved by guessing.

## Main definitions

* `BlockDevice` — a device, with the filesystem found on it.
* `BlockDevice.choose` — the one device with a serial.
* `filesystemFor` — the filesystem that a request asks for.
-/

namespace Hotplug

/-- A block device. -/
structure BlockDevice where
  serial : String := ""
  path : String := ""
  /-- The filesystem found on it. -/
  fsType : Option String := none
  deriving DecidableEq, Repr, Inhabited

namespace BlockDevice

/-- The filesystem found on a device, which has a name. -/
def filesystem? (d : BlockDevice) : Option String :=
  d.fsType.filter fun fs => !fs.isEmpty

/-- Whether a device has a filesystem. -/
def hasFilesystem (d : BlockDevice) : Bool :=
  d.filesystem?.isSome

/-- The one device with a serial among those that are there. -/
def choose (serial : String) (devices : List BlockDevice) : Except DriverError BlockDevice :=
  match devices.filter (·.serial == serial) with
  | [] => .error (.failedPrecondition
      ("no block device with serial " ++ serial ++ " is visible yet"))
  | [d] => .ok d
  | found => .error (.failedPrecondition
      (Digits.text found.length ++ " block devices share serial " ++ serial ++ ": " ++
        ", ".intercalate (found.map (·.path))))

end BlockDevice

/-- The filesystems that devices can be given. -/
def supportedFilesystems : List String := ["ext4", "xfs"]

/-- The filesystem of a request that names none. -/
def defaultFilesystem : String := "ext4"

/-- The filesystem that a request asks for. -/
def filesystemFor (requested : String) : Except DriverError String :=
  if requested.isEmpty then .ok defaultFilesystem
  else if supportedFilesystems.contains requested then .ok requested
  else .error (.invalidArgument ("unsupported filesystem type " ++ requested ++
    ", expected one of " ++ ", ".intercalate supportedFilesystems))

end Hotplug
