/-!
# Failures of the driver and the statuses that report them

Every failure is one of ten causes. A cause has one message and one status code, and a status is
what the orchestrator sees of it.

## Main definitions

* `Code` — the status codes, with their numbers and names.
* `ApiFailure` — what went wrong in a conversation with the API server.
* `DriverError` — the causes; `DriverError.message` words them, `DriverError.code` maps them.
* `Status` — the code and message an RPC fails with.
-/

namespace Hotplug

/-- The status codes of remote procedure calls. -/
inductive Code where
  | ok | cancelled | unknown | invalidArgument | deadlineExceeded | notFound | alreadyExists
  | permissionDenied | resourceExhausted | failedPrecondition | aborted | outOfRange
  | unimplemented | internal | unavailable | dataLoss | unauthenticated
  deriving DecidableEq, Repr, Inhabited

namespace Code

/-- The codes in the order of their numbers, from zero. -/
def all : List Code :=
  [ok, cancelled, unknown, invalidArgument, deadlineExceeded, notFound, alreadyExists,
    permissionDenied, resourceExhausted, failedPrecondition, aborted, outOfRange, unimplemented,
    internal, unavailable, dataLoss, unauthenticated]

/-- The number of a code. -/
def number (c : Code) : Nat :=
  c.ctorIdx

/-- The code with a number; a number without a code means an unknown failure. -/
def ofNumber (n : Int) : Code :=
  if n < 0 then unknown else all[n.toNat]?.getD unknown

/-- The name of a code. -/
def name : Code → String
  | ok => "Ok"
  | cancelled => "Cancelled"
  | unknown => "Unknown"
  | invalidArgument => "InvalidArgument"
  | deadlineExceeded => "DeadlineExceeded"
  | notFound => "NotFound"
  | alreadyExists => "AlreadyExists"
  | permissionDenied => "PermissionDenied"
  | resourceExhausted => "ResourceExhausted"
  | failedPrecondition => "FailedPrecondition"
  | aborted => "Aborted"
  | outOfRange => "OutOfRange"
  | unimplemented => "Unimplemented"
  | internal => "Internal"
  | unavailable => "Unavailable"
  | dataLoss => "DataLoss"
  | unauthenticated => "Unauthenticated"

/-- A code is found again by its number. -/
theorem ofNumber_number (c : Code) : ofNumber c.number = c := by
  cases c <;> rfl

end Code

/-- What went wrong in a conversation with the API server. -/
inductive ApiFailure where
  /-- The server answered with an error; the reason is empty when it gave none. -/
  | answered (reason : String)
  /-- The request could not be delivered. -/
  | transport
  /-- The answer does not describe what was asked for. -/
  | unparsable
  /-- The request cannot be written down. -/
  | unbuildable
  /-- The answer is not text. -/
  | notText
  deriving DecidableEq, Repr, Inhabited

namespace ApiFailure

/-- The kind of failure, as messages name it. -/
def kind : ApiFailure → String
  | answered _ => "ApiError"
  | transport => "ServiceError"
  | unparsable => "SerdeError"
  | unbuildable => "BuildRequest"
  | notText => "FromUtf8"

end ApiFailure

/-- Why an operation of the driver failed. -/
inductive DriverError where
  /-- The request itself is wrong. -/
  | invalidArgument (message : String)
  /-- An object does not exist. -/
  | notFound (kind name : String)
  /-- An object exists and is not the one asked for. -/
  | alreadyExists (kind name reason : String)
  /-- The policy forbids it. -/
  | permissionDenied (message : String)
  /-- The state of the world does not allow it yet. -/
  | failedPrecondition (message : String)
  /-- The driver does not offer the operation. -/
  | unimplemented (operation : String)
  /-- The API server could not be asked. -/
  | api (operation : String) (failure : ApiFailure)
  /-- A command of the node failed. -/
  | command (command stderr : String)
  /-- A file operation failed. -/
  | io (operation source : String)
  /-- The driver contradicts itself or was told nonsense. -/
  | internal (message : String)
  deriving DecidableEq, Repr, Inhabited

namespace DriverError

/-- The message of a failure. -/
def message : DriverError → String
  | invalidArgument m => "invalid argument: " ++ m
  | notFound kind name => kind ++ " " ++ name ++ " not found"
  | alreadyExists kind name reason => kind ++ " " ++ name ++ " already exists: " ++ reason
  | permissionDenied m => "permission denied: " ++ m
  | failedPrecondition m => "failed precondition: " ++ m
  | unimplemented op => op ++ " is not implemented"
  | api op failure => "kubernetes api error while trying to " ++ op ++ ": " ++ failure.kind
  | command c stderr => "command " ++ c ++ " failed: " ++ stderr
  | io op source => "i/o error while trying to " ++ op ++ ": " ++ source
  | internal m => "internal error: " ++ m

/-- The status code of a failure: what the caller did has a code of its own, what the driver met
on its way is internal. -/
def code : DriverError → Code
  | invalidArgument _ => .invalidArgument
  | notFound _ _ => .notFound
  | alreadyExists _ _ _ => .alreadyExists
  | permissionDenied _ => .permissionDenied
  | failedPrecondition _ => .failedPrecondition
  | unimplemented _ => .unimplemented
  | api _ _ | command _ _ | io _ _ | internal _ => .internal

end DriverError

/-- What an RPC fails with. -/
structure Status where
  /-- The kind of failure. -/
  code : Code
  /-- Its message. -/
  message : String
  deriving DecidableEq, Repr, Inhabited

/-- The status that reports a failure. -/
def DriverError.status (e : DriverError) : Status :=
  ⟨e.code, e.message⟩

@[simp] theorem DriverError.status_code (e : DriverError) : e.status.code = e.code := rfl

@[simp] theorem DriverError.status_message (e : DriverError) : e.status.message = e.message := rfl

end Hotplug
