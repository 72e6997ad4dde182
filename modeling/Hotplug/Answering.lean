import Hotplug.Event
import Hotplug.Program

/-!
# Programs that answer requests

The bodies of remote procedure calls fail with causes; what the caller sees is a status.

## Main definitions

* `Answering` — programs whose failures are statuses.
* `Answering.of` — a program that fails with causes, as one that fails with their statuses.
-/

namespace Hotplug

/-- A program whose failures are statuses. -/
abbrev Answering (I : Interface) (α : Type) : Type :=
  ExceptT Status (Program I) α

namespace Answering

variable {I : Interface} {α : Type}

/-- Answers what an attempt gives, or the status of its failure. -/
def of (p : Attempt I α) : Answering I α :=
  ExceptT.mk (p.run.bind fun
    | .ok a => .done (.ok a)
    | .error e => .done (.error e.status))

/-- Answers a status. -/
def refuse (s : Status) : Answering I α :=
  ExceptT.mk (.done (.error s))

end Answering

end Hotplug
