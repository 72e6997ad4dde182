import Hotplug.Host.Request
import Hotplug.Table

/-!
# A node in memory

## Main definitions

* `Host.State` — devices, mounts, and files.
* `Host.step` — answers requests from a state.
-/

namespace Hotplug.Host

/-- What is mounted on a target. -/
structure Mount where
  source : String
  fsType : String
  options : List String
  deriving DecidableEq, Repr, Inhabited

/-- The state of a node. -/
structure State where
  devices : List BlockDevice := []
  /-- The mounts, by target. -/
  mounts : Table Mount := .empty
  /-- The devices given a filesystem, with its type, from first to last. -/
  formatted : List (String × String) := []
  files : FileTree := .empty
  deriving DecidableEq, Inhabited

/-- The device after one with its path was given a filesystem. -/
def formattedAs (device fsType : String) (d : BlockDevice) : BlockDevice :=
  if d.path = device then { d with fsType := some fsType } else d

/-- Answers requests from a state. Mounting on a target takes the place of what was mounted there,
and unmounting forgets it. -/
def step : Handler interface State := fun r s =>
  match r with
  | .listDevices => (.ok s.devices, s)
  | .mount source target fsType options =>
    (.ok (), { s with mounts := s.mounts.insert target ⟨source, fsType, options⟩ })
  | .unmount target => (.ok (), { s with mounts := s.mounts.erase target })
  | .isMountPoint target => (.ok (s.mounts.get? target).isSome, s)
  | .pathExists path => (.ok (s.files.kind path).toOption.isSome, s)
  | .makeFilesystem device fsType =>
    (.ok (), { s with
      devices := s.devices.map (formattedAs device fsType)
      formatted := s.formatted ++ [(device, fsType)] })
  | .file r =>
    let (answer, files) := Files.step r s.files
    (answer, { s with files })

end Hotplug.Host
