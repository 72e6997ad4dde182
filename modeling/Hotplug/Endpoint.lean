import Hotplug.Network.SocketAddress
import Hotplug.Text.Cut

/-!
# The endpoint of the server

The driver listens on a socket file or on an address, named by one text.

## Main definitions

* `Endpoint` — where the server listens; `Endpoint.parse` reads it.
-/

namespace Hotplug

/-- Where the server listens. -/
inductive Endpoint where
  /-- A socket file. -/
  | socketFile (path : String)
  /-- An address. -/
  | tcp (address : SocketAddress)
  deriving DecidableEq, Repr, Inhabited

namespace Endpoint

/-- Why a text is no endpoint. -/
inductive Error where
  | noPath (endpoint : String)
  | invalidAddress (endpoint : String)
  | unknownScheme (endpoint : String)
  deriving DecidableEq, Repr, Inhabited

/-- The message of a failure. -/
def Error.message : Error → String
  | noPath e => "unix endpoint " ++ e ++ " has no socket path"
  | invalidAddress e => "invalid tcp endpoint " ++ e
  | unknownScheme e => "endpoint " ++ e ++ " must start with unix:// or tcp://"

/-- The text of an endpoint. -/
def text : Endpoint → String
  | socketFile path => "unix://" ++ path
  | tcp address => "tcp://" ++ address.text

/-- Reads an endpoint: a path after `unix://` or an address after `tcp://`. -/
def parse (endpoint : String) : Except Error Endpoint :=
  match Text.after? "unix://" endpoint with
  | some path => if path.isEmpty then .error (.noPath endpoint) else .ok (.socketFile path)
  | none =>
    match Text.after? "tcp://" endpoint with
    | some address =>
      match SocketAddress.parse? address with
      | some a => .ok (.tcp a)
      | none => .error (.invalidAddress endpoint)
    | none => .error (.unknownScheme endpoint)

end Endpoint

end Hotplug
