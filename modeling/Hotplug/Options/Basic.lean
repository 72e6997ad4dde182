import Hotplug.Network.SocketAddress

/-!
# Options

What an operator sets: which services run, where they listen, and what they work on. Each option
has a flag and a variable of the environment.

## Main definitions

* `Mode`, `LogFormat`, `Options` — the options with their defaults.
* `Options.Flag` — the flags; `Flag.apply` sets an option from a text.
* `Options.Refusal` — why a command line is not accepted.
-/

namespace Hotplug

/-- Which services run. -/
inductive Mode where
  | controller | node | all
  deriving DecidableEq, Repr, Inhabited

namespace Mode

/-- The name of a mode. -/
def name : Mode → String
  | controller => "controller"
  | node => "node"
  | all => "all"

/-- Reads the name of a mode. -/
def parse? (text : String) : Option Mode :=
  [controller, node, all].find? (·.name == text)

/-- Whether the controller runs. -/
def runsController : Mode → Bool
  | node => false
  | _ => true

/-- Whether the node plugin runs. -/
def runsNode : Mode → Bool
  | controller => false
  | _ => true

/-- Whether the infra cluster is needed: the node plugin works inside its machine alone. -/
def needsInfraCluster (m : Mode) : Bool :=
  m.runsController

/-- A mode is found again by its name. -/
@[simp] theorem parse?_name (m : Mode) : parse? m.name = some m := by
  cases m <;> rfl

end Mode

/-- How log lines are written. -/
inductive LogFormat where
  | text | json
  deriving DecidableEq, Repr, Inhabited

namespace LogFormat

/-- The name of a format. -/
def name : LogFormat → String
  | text => "text"
  | json => "json"

/-- Reads the name of a format. -/
def parse? (s : String) : Option LogFormat :=
  [text, json].find? (·.name == s)

end LogFormat

/-- The options. -/
structure Options where
  /-- Where the server listens. -/
  endpoint : String := "unix:///csi/csi.sock"
  mode : Mode := .all
  /-- The tenant node that the node plugin runs on. -/
  nodeName : Option String := none
  /-- The file with the credentials for the infra cluster. -/
  kubeconfig : Option String := none
  /-- The namespace of the volumes and the virtual machines. -/
  ns : Option String := none
  /-- The labels put on infra objects, not yet read. -/
  labels : String := ""
  /-- The file with the policy. -/
  driverConfig : Option String := none
  /-- Where metrics are served. -/
  metricsAddress : Option SocketAddress := none
  logFormat : LogFormat := .text
  deriving DecidableEq, Repr, Inhabited

namespace Options

/-- Why a command line is not accepted. -/
inductive Refusal where
  /-- A value is missing, empty where it must not be, or none of the few that are allowed. -/
  | badValue
  /-- A value is no address. -/
  | badAddress
  | unknownArgument
  /-- A flag is given twice. -/
  | repeatedFlag
  /-- A value is given where none is taken. -/
  | unexpectedValue
  /-- The command line asks for help. -/
  | helpAsked
  /-- The command line asks for the version. -/
  | versionAsked
  deriving DecidableEq, Repr, Inhabited

/-- The flags that take a value. -/
inductive Flag where
  | endpoint | mode | nodeName | kubeconfig | ns | labels | driverConfig | metricsAddress
  | logFormat
  deriving DecidableEq, Repr, Inhabited

namespace Flag

/-- All flags, in the order in which variables are looked at. -/
def all : List Flag :=
  [endpoint, mode, nodeName, kubeconfig, ns, labels, driverConfig, metricsAddress, logFormat]

/-- The name of a flag, after its two dashes. -/
def name : Flag → String
  | endpoint => "endpoint"
  | mode => "mode"
  | nodeName => "node-name"
  | kubeconfig => "infra-cluster-kubeconfig"
  | ns => "infra-cluster-namespace"
  | labels => "infra-cluster-labels"
  | driverConfig => "driver-config"
  | metricsAddress => "metrics-address"
  | logFormat => "log-format"

/-- The variable of the environment that stands in for a flag. -/
def variableName : Flag → String
  | endpoint => "CSI_ENDPOINT"
  | mode => "DRIVER_MODE"
  | nodeName => "NODE_NAME"
  | kubeconfig => "INFRA_CLUSTER_KUBECONFIG"
  | ns => "INFRA_CLUSTER_NAMESPACE"
  | labels => "INFRA_CLUSTER_LABELS"
  | driverConfig => "DRIVER_CONFIG"
  | metricsAddress => "METRICS_ADDRESS"
  | logFormat => "LOG_FORMAT"

/-- Reads a path, which is not empty. -/
def path (text : String) : Except Refusal (Option String) :=
  if text.isEmpty then .error .badValue else .ok (some text)

/-- What a text was read as, or why it is refused. -/
def need {α : Type} (refusal : Refusal) (value : Option α) : Except Refusal α :=
  value.elim (.error refusal) .ok

/-- Sets the option of a flag from a text. -/
def apply (flag : Flag) (text : String) (o : Options) : Except Refusal Options :=
  match flag with
  | endpoint => .ok { o with endpoint := text }
  | mode => (need .badValue (Mode.parse? text)).map fun mode => { o with mode }
  | nodeName => .ok { o with nodeName := some text }
  | kubeconfig => (path text).map fun kubeconfig => { o with kubeconfig }
  | ns => .ok { o with ns := some text }
  | labels => .ok { o with labels := text }
  | driverConfig => (path text).map fun driverConfig => { o with driverConfig }
  | metricsAddress =>
    (need .badAddress (SocketAddress.parse? text)).map fun address =>
      { o with metricsAddress := some address }
  | logFormat =>
    (need .badValue (LogFormat.parse? text)).map fun logFormat => { o with logFormat }

/-- A line of help about a flag. -/
def help (flag : Flag) : String :=
  "  --" ++ flag.name ++ " <" ++ flag.variableName ++ ">"

/-- The flag with a name. -/
def ofName? (text : String) : Option Flag :=
  all.find? (·.name == text)

/-- A flag is found again by its name. -/
@[simp] theorem ofName?_name (flag : Flag) : ofName? flag.name = some flag := by
  cases flag <;> rfl

end Flag

/-- The message of a refusal. -/
def Refusal.message : Refusal → String
  | badValue => "a value is missing or is not one of those allowed"
  | badAddress => "a value is no address"
  | unknownArgument => "an argument is unknown"
  | repeatedFlag => "a flag is given twice"
  | unexpectedValue => "a flag takes no value"
  | helpAsked => "help is asked for"
  | versionAsked => "the version is asked for"

/-- The flags, each with the variable that stands in for it. -/
def help : List String :=
  "Each flag can also be set through its variable:" :: Flag.all.map Flag.help

end Options

end Hotplug
