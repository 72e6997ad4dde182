import Hotplug.Api.Location
import Hotplug.Json.Basic
import Hotplug.Program

/-!
# Requests to the API server

## Main definitions

* `Http.Request`, `Http.Response` — what goes to the server and what comes back.
* `Http.interface` — each request answers a response, or nothing where it was not delivered.
* `Http.Call` — programs over it that fail with what went wrong in the conversation.
-/

namespace Hotplug

namespace Http

/-- What a request does. -/
inductive Method where
  | get | post | put | delete
  deriving DecidableEq, Repr, Inhabited

/-- The name of a method. -/
def Method.name : Method → String
  | get => "GET"
  | post => "POST"
  | put => "PUT"
  | delete => "DELETE"

/-- A request. -/
structure Request where
  method : Method
  location : Location
  /-- What is sent, always as JSON. -/
  body : Option Json
  deriving Repr, Inhabited

/-- The type of the content, where there is some. -/
def Request.contentType? (r : Request) : Option String :=
  r.body.map fun _ => "application/json"

/-- What the server answers. -/
structure Response where
  status : Nat
  body : List UInt8
  deriving DecidableEq, Repr, Inhabited

/-- Whether a response tells of an error. -/
def Response.isError (r : Response) : Bool :=
  400 ≤ r.status && r.status < 600

/-- The server as the driver sees it. -/
@[reducible] def interface : Interface where
  Request := Request
  Answer _ := Option Response

/-- A conversation with the server. -/
abbrev Call (α : Type) : Type :=
  ExceptT ApiFailure (Program interface) α

namespace Call

variable {α : Type}

/-- Fails. -/
def fail (failure : ApiFailure) : Call α :=
  ExceptT.mk (.done (.error failure))

/-- Fails with `failure` where there is no value. -/
def orFail (failure : ApiFailure) : Option α → Call α
  | some a => ExceptT.mk (.done (.ok a))
  | none => fail failure

/-- The conversation as a part of an operation, whose name is told where it fails. -/
def during (operation : String) (call : Call α) : Attempt interface α :=
  ExceptT.mk (call.run.bind fun
    | .ok a => .done (.ok a)
    | .error failure => .done (.error (.api operation failure)))

/-- Sends a request. -/
def send (r : Request) : Call Response :=
  ExceptT.mk (.ask r fun
    | some response => .done (.ok response)
    | none => .done (.error .transport))

end Call

end Http

end Hotplug
