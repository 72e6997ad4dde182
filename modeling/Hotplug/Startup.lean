import Hotplug.Config
import Hotplug.Controller.Volumes
import Hotplug.Endpoint
import Hotplug.Json.Printer
import Hotplug.Labels
import Hotplug.Options.Basic

/-!
# Starting up

What options come to: where the server listens and which services it has, or why it cannot start.

## Main definitions

* `Startup` — the services of a server and where it listens.
* `Startup.of` — the startup that options ask for.
* `Startup.lines` — a startup in words.
-/

namespace Hotplug

/-- The services of a server and where it listens. The identity service is always there. -/
structure Startup where
  endpoint : Endpoint
  /-- The settings of the controller, where it runs. -/
  controller : Option Controller.Settings
  /-- The tenant node of the node plugin, where it runs. -/
  nodeName : Option String
  /-- Where metrics are served, if they are. -/
  metricsAddress : Option SocketAddress
  deriving DecidableEq, Repr, Inhabited

namespace Startup

/-- Why a server cannot start. -/
inductive Error where
  | endpoint (e : Endpoint.Error)
  | labels (e : Labels.Error)
  /-- The controller has no namespace to work in. -/
  | noNamespace
  | config (e : Config.Error)
  /-- The node plugin does not know its node. -/
  | noNodeName
  deriving DecidableEq, Repr, Inhabited

/-- The message of a failure. -/
def Error.message : Error → String
  | endpoint e => e.message
  | labels e => e.message
  | noNamespace => "--infra-cluster-namespace is required in controller mode"
  | config e => e.message
  | noNodeName => "--node-name is required in node mode"

/-- The controller that options ask for. -/
def controllerOf (o : Options) (labels : Table String) (policy : Except Config.Error Policy) :
    Except Error (Option Controller.Settings) :=
  if o.mode.runsController then
    match o.ns with
    | none => .error .noNamespace
    | some ns => (policy.mapError .config).map fun policy => some { ns, labels, policy }
  else .ok none

/-- The node that options name. -/
def nodeOf (o : Options) : Except Error (Option String) :=
  if o.mode.runsNode then o.nodeName.elim (.error .noNodeName) (.ok ∘ some) else .ok none

/-- The startup that options ask for, with the policy that their file holds. -/
def of (o : Options) (policy : Except Config.Error Policy) : Except Error Startup := do
  let endpoint ← (Endpoint.parse o.endpoint).mapError .endpoint
  let labels ← (Labels.parse o.labels).mapError .labels
  let controller ← controllerOf o labels policy
  let nodeName ← nodeOf o
  return { endpoint, controller, nodeName, metricsAddress := o.metricsAddress }

/-- A startup in words. -/
def lines (s : Startup) : List String :=
  ["endpoint " ++ s.endpoint.text] ++
    (s.controller.map fun c => "controller in namespace " ++ c.ns ++ ", labels " ++
      Labels.selector c.labels ++ ", policy " ++ c.policy.toJson.render).toList ++
    (s.nodeName.map fun node => "node plugin on " ++ node).toList ++
    (s.metricsAddress.map fun a => "metrics on " ++ a.text).toList

end Startup

end Hotplug
