/-!
# Countable events

## Main definitions

* `Event` — what is counted besides the requests themselves.
* `Outcome` — an answer with what it makes count.
-/

namespace Hotplug

/-- What is counted besides the requests themselves. -/
inductive Event where
  /-- A volume was asked to be plugged, and is. -/
  | attached
  /-- A volume was asked to be unplugged from an existing machine, and is. -/
  | detached
  /-- A device was given a filesystem. -/
  | formatted (fsType : String)
  deriving DecidableEq, Repr, Inhabited

/-- An answer with what it makes count. -/
structure Outcome (α : Type) where
  response : α
  events : List Event := []
  deriving DecidableEq, Repr, Inhabited

end Hotplug
