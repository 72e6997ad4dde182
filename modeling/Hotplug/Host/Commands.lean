import Hotplug.Digits
import Hotplug.Host.Listing
import Hotplug.Host.Request
import Hotplug.Text.Utf8

/-!
# The operating system behind its commands

Devices are listed with `lsblk`, mounts are made, undone and looked up with `mount`, `umount` and
`findmnt`, and filesystems are made with `mkfs`.

## Main definitions

* `Commands.interface` — running a command, and requests to the file system.
* `Commands.answer` — the program for each request to the operating system.
-/

namespace Hotplug.Commands

/-- What a command printed and how it ended. -/
structure Output where
  stdout : List UInt8 := []
  stderr : List UInt8 := []
  /-- The exit code; none where a signal ended it. -/
  exit : Option Int := some 0
  deriving DecidableEq, Repr, Inhabited

/-- What is asked of the system. -/
inductive Request where
  /-- Runs a program with arguments to its end. -/
  | run (program : String) (arguments : List String)
  /-- A request to the file system. -/
  | file (request : Files.Request)
  deriving DecidableEq, Repr, Inhabited

/-- What a request gives when it succeeds. -/
@[reducible] def Result : Request → Type
  | .run _ _ => Output
  | .file r => Files.Result r

/-- The system as the driver sees it. A command fails where it cannot be started. -/
@[reducible] def interface : Interface where
  Request := Request
  Answer r := Except FileError (Result r)

/-- Starts a program and waits for its end. Nothing that holds a NUL can be handed to it. -/
def start (program : String) (arguments : List String) : Attempt interface Output :=
  if (program :: arguments).any fun a => a.toList.contains '\x00' then
    Attempt.fail (.io ("run " ++ program) "nul byte found in provided data")
  else
    ExceptT.mk (.ask (.run program arguments) fun
      | .ok output => .done (.ok output)
      | .error e => .done (.error (.io ("run " ++ program) e.message)))

/-- A command as messages show it. -/
def shown (program : String) (arguments : List String) : String :=
  program ++ " " ++ " ".intercalate arguments

/-- The printed complaint of a command, without the blanks around it. -/
def complaint (o : Output) : String :=
  Text.trim (Text.decodeLossy o.stderr)

/-- Runs a program that must end well, and takes what it printed. -/
def run (program : String) (arguments : List String) : Attempt interface String := do
  let output ← start program arguments
  if output.exit = some 0 then return Text.decodeLossy output.stdout
  else Attempt.fail (.command (shown program arguments) (complaint output))

/-- Lists the block devices. -/
def listDevices : Attempt interface (List BlockDevice) := do
  let text ← run "lsblk" ["--json", "--paths", "--nodeps", "--output", "NAME,SERIAL,FSTYPE"]
  Attempt.ofExcept (Listing.devices text)

/-- The arguments that mount a device on a target. -/
def mountArguments (source target fsType : String) (options : List String) : List String :=
  let joined := ",".intercalate options
  (if fsType.isEmpty then [] else ["-t", fsType]) ++
    (if joined.isEmpty then [] else ["-o", joined]) ++ [source, target]

/-- Mounts a device on a target. -/
def mount (source target fsType : String) (options : List String) : Attempt interface Unit := do
  let _ ← run "mount" (mountArguments source target fsType options)

/-- Unmounts what is mounted on a target. -/
def unmount (target : String) : Attempt interface Unit := do
  let _ ← run "umount" [target]

/-- The arguments that ask what is mounted on a target. -/
def lookupArguments (target : String) : List String :=
  ["--json", "--mountpoint", target, "--output", "TARGET"]

/-- How a command ended, for its complaint. -/
def ending (o : Output) : String :=
  match o.exit with
  | some code => "exit code " ++ Digits.text code ++ ": " ++ complaint o
  | none => "terminated by signal: " ++ complaint o

/-- Whether the look-up of a target found a mount: the command ends with one and prints nothing
where there is none. -/
def lookupResult (target : String) (o : Output) : Except DriverError Bool :=
  let text := Text.decodeLossy o.stdout
  if o.exit = some 0 then Listing.isMounted target text
  else if o.exit = some 1 && (Text.trim text).isEmpty then .ok false
  else .error (.command (shown "findmnt" (lookupArguments target)) (ending o))

/-- Asks whether something is mounted on a target. -/
def isMountPoint (target : String) : Attempt interface Bool := do
  let output ← start "findmnt" (lookupArguments target)
  Attempt.ofExcept (lookupResult target output)

/-- Asks whether a path leads anywhere: it does not where something on it is missing, and any
other failure is one. -/
def pathExists (path : String) : Attempt interface Bool :=
  ExceptT.mk (.ask (.file (.stat path)) fun
    | .ok _ => .done (.ok true)
    | .error e =>
      .done (if e = .missing then .ok false else .error (.io ("check " ++ path) e.message)))

/-- Gives a device an empty filesystem. -/
def makeFilesystem (device fsType : String) : Attempt interface Unit := do
  let _ ← run ("mkfs." ++ fsType) [device]

/-- The program for each request to the operating system. -/
def answer : (r : Host.Request) → Program interface (Host.interface.Answer r)
  | .listDevices => listDevices.run
  | .mount source target fsType options => (mount source target fsType options).run
  | .unmount target => (unmount target).run
  | .isMountPoint target => (isMountPoint target).run
  | .pathExists path => (pathExists path).run
  | .makeFilesystem device fsType => (makeFilesystem device fsType).run
  | .file r => .ask (.file r) .done

/-- A program over the operating system as a program over its commands. -/
def onCommands {α : Type} (p : Program Host.interface α) : Program interface α :=
  p.expand answer

end Hotplug.Commands
