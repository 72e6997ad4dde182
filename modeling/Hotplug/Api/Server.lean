import Hotplug.Api.Http
import Hotplug.Api.Kind
import Hotplug.Instance
import Hotplug.Json.Parser

/-!
# Reading and writing objects on the API server

## Main definitions

* `Api.get?`, `Api.list`, `Api.create`, `Api.delete` — one conversation each.
* `Api.deleteIfPresent` — deletes an object and does not mind when it goes meanwhile.
* `Api.putSubresource` — asks a virtual machine for an action.
-/

namespace Hotplug.Api

open Http

/-- The reason that the body of an error gives; empty where it gives none. -/
def reasonOf (body : String) : String :=
  match Json.parse? body with
  | none => ""
  | some report =>
    if Schema.statusReport.accepts report then
      match report with
      | .array items => (items[4]?.bind Json.text?).getD ""
      | _ => ((report.last? "reason").bind Json.text?).getD ""
    else ""

/-- The text of a response that tells of no error. -/
def textOf (response : Response) : Except ApiFailure String :=
  match Text.decode? response.body with
  | none => .error .notText
  | some text => if response.isError then .error (.answered (reasonOf text)) else .ok text

/-- Sends a request to a place and takes the text that comes back. -/
def exchange (method : Method) (place : String) (body : Option Json) : Call String :=
  match Location.ofText place with
  | .error _ => Call.fail .unbuildable
  | .ok location => do
    let response ← Call.send { method, location, body }
    ExceptT.mk (.done (textOf response))

/-- The JSON value of a text that has a shape. -/
def shaped (shape : Schema) (text : String) : Call Json :=
  Call.orFail .unparsable ((Json.parse? text).filter shape.accepts)

/-- The place of a named object; the empty name has none. -/
def placeOf (kind : Kind) (ns : Option String) (name : String) : Call String :=
  if name.isEmpty then Call.fail .unbuildable else pure (kind.path ns ++ "/" ++ name)

/-- Reads an object. An error whose reason is `NotFound` means that there is none. -/
def get? (kind : Kind) (ns : Option String) (name : String) : Call (Option Json) :=
  ExceptT.mk (read.run.bind fun
    | .ok object => .done (.ok (some object))
    | .error failure =>
      .done (if failure = .answered "NotFound" then .ok none else .error failure))
where
  /-- Reads an object that is there. -/
  read : Call Json := do
    let place ← placeOf kind ns name
    shaped kind.shape (← exchange .get place none)

/-- Lists objects, those with some labels where a selector is given. -/
def list (kind : Kind) (ns : Option String) (selector : String) : Call (List Json) := do
  let query := if selector.isEmpty then "" else "labelSelector=" ++ Location.encode selector
  let answer ← shaped kind.listShape (← exchange .get (kind.path ns ++ "?" ++ query) none)
  return ((answer.last? "items").bind Json.items?).getD []

/-- Makes an object and reads it as the server made it. -/
def create (kind : Kind) (ns : Option String) (object : Json) : Call Json := do
  shaped kind.shape (← exchange .post (kind.path ns ++ "?") (some object))

/-- The shape of the answer to a deletion: a report, or the object that is deleted. -/
def deletionAccepts (kind : Kind) (answer : Json) : Bool :=
  answer.isReadable &&
    if (answer.last? "kind").bind Json.text? = some "Status" then
      Schema.statusReport.accepts answer
    else kind.shape.accepts answer

/-- Deletes an object. -/
def delete (kind : Kind) (ns : Option String) (name : String) : Call Unit := do
  let place ← placeOf kind ns name
  let text ← exchange .delete (place ++ "?") (some (.object []))
  let _ ← Call.orFail .unparsable ((Json.parse? text).filter (deletionAccepts kind))

/-- Deletes an object, and says whether there was one. A deletion that fails is one that succeeded
when the object is gone after it. -/
def deleteIfPresent (kind : Kind) (ns : Option String) (name : String) : Call Bool := do
  match ← get? kind ns name with
  | none => return false
  | some _ =>
    ExceptT.mk ((delete kind ns name).run.bind fun
      | .ok _ => .done (.ok true)
      | .error failure => (afterwards failure).run)
where
  /-- Looks again after a deletion that failed. -/
  afterwards (failure : ApiFailure) : Call Bool := do
    match ← get? kind ns name with
    | none => return true
    | some _ => Call.fail failure

/-- Asks a virtual machine for an action. -/
def putSubresource (vm : InstanceRef) (action : String) (body : Json) :
    Attempt Http.interface Unit :=
  let place := "/apis/subresources.kubevirt.io/v1/namespaces/" ++ vm.ns ++ "/virtualmachines/" ++
    vm.name ++ "/" ++ action
  match Location.ofText place with
  | .error e => Attempt.fail (.internal ("invalid " ++ action ++ " request: " ++ e.message))
  | .ok location =>
    Call.during (action ++ " on VM " ++ vm.toText) do
      let response ← Call.send { method := .put, location, body := some body }
      let _ ← ExceptT.mk (.done (textOf response))

end Hotplug.Api
