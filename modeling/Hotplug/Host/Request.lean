import Hotplug.Files.Request
import Hotplug.Host.Device

/-!
# Requests to the node's operating system

## Main definitions

* `Host.Request`, `Host.Result` — the requests and what a success gives.
* `Host.interface` — each request answers its result or a failure.
* `Host.Request.name?` — the name of a request in logs.
* `Host.resolveDevice` — the device with a serial, among those the node lists.
-/

namespace Hotplug.Host

/-- A request to the operating system. -/
inductive Request where
  /-- Lists the block devices. -/
  | listDevices
  /-- Mounts a device on a target. An empty type of filesystem leaves the choice to the system. -/
  | mount (source target fsType : String) (options : List String)
  | unmount (target : String)
  /-- Asks whether something is mounted on exactly this target. -/
  | isMountPoint (target : String)
  | pathExists (path : String)
  /-- Gives a device an empty filesystem. -/
  | makeFilesystem (device fsType : String)
  /-- A request to the file system. -/
  | file (request : Files.Request)
  deriving DecidableEq, Repr, Inhabited

/-- What a request gives when it succeeds. -/
@[reducible] def Result : Request → Type
  | .listDevices => List BlockDevice
  | .isMountPoint _ | .pathExists _ => Bool
  | .file r => Files.Result r
  | _ => Unit

/-- Why a request fails. -/
@[reducible] def Failure : Request → Type
  | .file _ => FileError
  | _ => DriverError

/-- The operating system as the driver sees it. -/
@[reducible] def interface : Interface where
  Request := Request
  Answer r := Except (Failure r) (Result r)

/-- The name of a request in logs; requests to the file system are not logged. -/
def Request.name? : Request → Option String
  | .listDevices => some "list_block_devices"
  | .mount _ _ _ _ => some "mount"
  | .unmount _ => some "unmount"
  | .isMountPoint _ => some "is_mount_point"
  | .pathExists _ => some "path_exists"
  | .makeFilesystem _ _ => some "make_filesystem"
  | .file _ => none

/-- Lists the block devices. -/
def listDevices : Attempt interface (List BlockDevice) :=
  ExceptT.mk (.ask .listDevices .done)

/-- Mounts a device on a target. -/
def mount (source target fsType : String) (options : List String) : Attempt interface Unit :=
  ExceptT.mk (.ask (.mount source target fsType options) .done)

/-- Unmounts what is mounted on a target. -/
def unmount (target : String) : Attempt interface Unit :=
  ExceptT.mk (.ask (.unmount target) .done)

/-- Asks whether something is mounted on a target. -/
def isMountPoint (target : String) : Attempt interface Bool :=
  ExceptT.mk (.ask (.isMountPoint target) .done)

/-- Asks whether a path leads anywhere. -/
def pathExists (path : String) : Attempt interface Bool :=
  ExceptT.mk (.ask (.pathExists path) .done)

/-- Gives a device an empty filesystem. -/
def makeFilesystem (device fsType : String) : Attempt interface Unit :=
  ExceptT.mk (.ask (.makeFilesystem device fsType) .done)

/-- A request to the file system, whose failure tells what was tried. -/
def file (operation : String) (r : Files.Request) : Attempt interface (Files.Result r) :=
  ExceptT.mk (.ask (.file r) fun
    | .ok a => .done (.ok a)
    | .error e => .done (.error (.io operation e.message)))

/-- The device with a serial, among those the node lists. -/
def resolveDevice (serial : String) : Attempt interface BlockDevice :=
  if serial.isEmpty then
    Attempt.fail (.invalidArgument "volume context does not carry a device serial")
  else do
    Attempt.ofExcept (BlockDevice.choose serial (← listDevices))

end Hotplug.Host
