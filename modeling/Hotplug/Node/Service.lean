import Hotplug.Answering
import Hotplug.Host.Request
import Hotplug.Node.Message
import Hotplug.Storage

/-!
# The node service

A plugged volume is found by its serial, given a filesystem once, and mounted for pods. What
cannot be right is refused before anything is looked at, and what is done already is not done
again.

## Main definitions

* `Node.stage`, `Node.publish`, `Node.unpublish`, `Node.stats` — the programs of the requests.
* `Node.respond` — the program that answers a request.
-/

namespace Hotplug.Node

open Host (interface)

/-- Refuses an empty value. -/
def require (value what : String) : Attempt interface Unit :=
  if value.isEmpty then Attempt.fail (.invalidArgument (what ++ " is required")) else pure ()

/-- The kind of use that is asked for. -/
def access (capability : Option Capability) : Attempt interface AccessType :=
  Attempt.orFail (.invalidArgument Capability.accessProblem) (capability.bind (·.access))

/-- The device of a volume, by the serial in its context. -/
def device (context : Table String) : Attempt interface BlockDevice :=
  Host.resolveDevice ((context.get? serialKey).getD "")

/-- The filesystem that a use needs on the device. -/
def wantedFilesystem : AccessType → Except DriverError (Option String)
  | .mount fsType _ _ => (filesystemFor fsType).map some
  | .block => .ok none

/-- Prepares a volume: gives its device the filesystem that the use needs, unless it has one. -/
def stage (r : StageVolume) : Attempt interface (List Event) := do
  require r.volumeId "volume id"
  require r.stagingPath "staging target path"
  let wanted ← Attempt.ofExcept (wantedFilesystem (← access r.capability))
  let d ← device r.context
  match wanted with
  | none => return []
  | some fsType =>
    if d.hasFilesystem then return []
    else
      Host.makeFilesystem d.path fsType
      return [.formatted fsType]

/-- Makes the file that a block device is mounted on, and the directories above it. -/
def prepareFile (target : String) : Attempt interface Unit := do
  match Path.parent? target with
  | some parent => Host.file ("create " ++ parent) (.createDirs parent)
  | none => pure ()
  if ← Host.pathExists target then pure ()
  else Host.file ("create " ++ target) (.createFile target)

/-- Makes what a device is mounted on, and says how: with what type of filesystem and what
options. A filesystem that is on the device wins over the one that is asked for. -/
def prepareTarget (d : BlockDevice) (target : String) :
    AccessType → Attempt interface (String × List String)
  | .block => do
    prepareFile target
    return ("", ["bind"])
  | .mount fsType flags _ => do
    Host.file ("create " ++ target) (.createDirs target)
    match d.filesystem? with
    | some found => return (found, flags)
    | none => return (← Attempt.ofExcept (filesystemFor fsType), flags)

/-- Makes a volume visible at a target, unless something is mounted there. -/
def publish (r : PublishVolume) : Attempt interface Unit := do
  require r.volumeId "volume id"
  require r.targetPath "target path"
  let use ← access r.capability
  let d ← device r.context
  if ← Host.isMountPoint r.targetPath then pure ()
  else do
    let (fsType, options) ← prepareTarget d r.targetPath use
    Host.mount d.path r.targetPath fsType (if r.readonly then options ++ ["ro"] else options)

/-- Removes the directory or the file that something was mounted on. -/
def removeTarget (target : String) : Attempt interface Unit := do
  match ← Host.file ("stat " ++ target) (.stat target) with
  | .directory => Host.file ("remove " ++ target) (.removeDir target)
  | .blockDevice | .other => Host.file ("remove " ++ target) (.removeFile target)

/-- Undoes making a volume visible: unmounts the target and removes it, as far as either is
there. -/
def unpublish (volumeId target : String) : Attempt interface Unit := do
  require volumeId "volume id"
  require target "target path"
  if ← Host.isMountPoint target then Host.unmount target
  if ← Host.pathExists target then removeTarget target

/-- The size of a block device. What is in use on it is not known. -/
def deviceUsage (path : String) : Attempt interface (List Usage) := do
  let file ← Host.file ("open " ++ path) (.openFile path)
  let size ← Host.file ("size " ++ path) (.seekEnd file)
  return [{ measure := .bytes, total := size.toInt64, available := 0, used := 0 }]

/-- How full a file system is by its counts. They are taken for numbers of 64 bits with a sign, and
so is what is reckoned with them. -/
def usageOf (s : Files.Space) : List Usage :=
  let blockSize := s.fragmentSize.toInt64
  let total := s.blocks.toInt64 * blockSize
  [{ measure := .bytes
     total
     available := s.blocksAvailable.toInt64 * blockSize
     used := total - s.blocksFree.toInt64 * blockSize },
   { measure := .inodes
     total := s.inodes.toInt64
     available := s.inodesAvailable.toInt64
     used := s.inodes.toInt64 - s.inodesFree.toInt64 }]

/-- Says how full a volume is: how large the block device is that it is visible as, or how full the
file system is that it is visible on. -/
def stats (volumeId path : String) : Attempt interface (List Usage) := do
  require volumeId "volume id"
  require path "volume path"
  if ← Host.pathExists path then
    match ← Host.file ("stat " ++ path) (.stat path) with
    | .blockDevice => deviceUsage path
    | .directory | .other => return usageOf (← Host.file ("statvfs " ++ path) (.statvfs path))
  else Attempt.fail (.notFound "volume path" path)

/-- What the node plugin can do: stage volumes, and tell how full they are. -/
def capabilityTypes : List Nat := [1, 2]

/-- The program that answers a request on a node with an id. -/
def respond (nodeId : String) : Request → Answering interface (Outcome Response)
  | .stageVolume r => do
    return { response := .done, events := ← Answering.of (stage r) }
  | .unstageVolume volumeId stagingPath => do
    Answering.of (require volumeId "volume id")
    Answering.of (require stagingPath "staging target path")
    return { response := .done }
  | .publishVolume r => do
    Answering.of (publish r)
    return { response := .done }
  | .unpublishVolume volumeId target => do
    Answering.of (unpublish volumeId target)
    return { response := .done }
  | .getVolumeStats volumeId path => do
    return { response := .stats (← Answering.of (stats volumeId path)) }
  | .getCapabilities => return { response := .capabilities capabilityTypes }
  | .getInfo => return { response := .info nodeId 0 }
  | .unserved name => Answering.refuse (DriverError.unimplemented name).status

end Hotplug.Node
