import Hotplug.Answering
import Hotplug.Wire.Message

/-!
# The identity service

Tells which driver this is and whether the cluster it works on answers.

## Main definitions

* `Identity.interface` — the one question whether the cluster answers.
* `Identity.respond` — the program that answers a request, whatever the question is asked through.
-/

namespace Hotplug.Identity

/-- Asks whether the cluster answers. -/
@[reducible] def interface : Interface where
  Request := Unit
  Answer _ := Except DriverError Unit

/-- The question alone. -/
def check : Attempt interface Unit :=
  ExceptT.mk (.ask () .done)

/-- A request. -/
inductive Request where
  | getPluginInfo
  | getPluginCapabilities
  | probe
  deriving DecidableEq, Repr, Inhabited

/-- An answer. -/
inductive Response where
  /-- The driver's name and version. -/
  | info (name version : String)
  /-- The services the driver has besides this one, as their numbers. -/
  | capabilities (services : List Nat)
  /-- Whether the driver is ready. -/
  | readiness (ready : Bool)
  deriving DecidableEq, Repr, Inhabited

/-- The name of the driver. -/
def driverName : String := "csi.kubevirt.io"

/-- The version of the driver. -/
def driverVersion : String := "0.1.0"

/-- The controller, among the services. -/
def controllerService : Nat := 1

/-- The program that answers a request. The driver is ready when the probe succeeds, or where
there is none. -/
def respond {I : Interface} (probe : Option (Attempt I Unit)) : Request → Answering I Response
  | .getPluginInfo => pure (.info driverName driverVersion)
  | .getPluginCapabilities => pure (.capabilities [controllerService])
  | .probe =>
    match probe with
    | none => pure (.readiness true)
    | some p =>
      ExceptT.mk (p.run.bind fun
        | .ok _ => .done (.ok (.readiness true))
        | .error e => .done (.error
            ⟨.failedPrecondition, "infra cluster unreachable: " ++ e.message⟩))

/-- The methods of the service; their messages have no fields. -/
def methods : List (String × (List Wire.Field → Option Request)) :=
  [("GetPluginInfo", fun _ => some .getPluginInfo),
    ("GetPluginCapabilities", fun _ => some .getPluginCapabilities),
    ("Probe", fun _ => some .probe)]

/-- The name of the service. -/
def serviceName : String := "csi.v1.Identity"

end Hotplug.Identity
