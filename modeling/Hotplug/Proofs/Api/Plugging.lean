import Hotplug.Proofs.Api.Exchange
import Hotplug.Proofs.Api.Requests
import Hotplug.Proofs.Interleaving

/-!
# Plugging and unplugging on the server

To plug or to unplug a disk is to read the virtual machine and, unless what is wanted is so already,
to ask it for an action. Other requests may come in between, and the machine may act on them.

## Main definitions

* `disksIn vm answer` — the disks of the machine that an answer brings.
* `Operation` — to plug a disk, or to unplug one; `Operation.Settled` says what it is for.
* `Hotplugs h vm object` — a server that has a machine and keeps what it is asked for.
* `Permitted vm object o r` — what an operation may ask of the machine as it is.

## Main results

* `onServer_attach`, `onServer_detach` — each operation is a request that reads and one that acts.
* `settled_of_permitted` — what such a request does to the disks.
* `heeds_program` — **an operation acts only where it is not settled, and it is settled where it
  succeeds.**
* `run_program_of_settled`, `run_program_of_not_settled` — it succeeds where the server lets it.
-/

namespace Hotplug.Api

open Http Cluster

variable {vm : InstanceRef} {place : Location}

/-! ### The requests -/

/-- The place that a virtual machine is asked for an action at. -/
def actionPlace (vm : InstanceRef) (action : Machine.Action) : String :=
  "/apis/subresources.kubevirt.io/v1/namespaces/" ++ vm.ns ++ "/virtualmachines/" ++ vm.name ++
    "/" ++ action.name

/-- To ask for an action is one request. -/
theorem putSubresource_eq {action : Machine.Action}
    (hplace : Location.ofText (actionPlace vm action) = .ok place) (body : Json) :
    (putSubresource vm action.name body).run = .ask ⟨.put, place, some body⟩ fun answer =>
      .done (((textIn answer).map fun _ => ()).mapError
        (.api (action.name ++ " on VM " ++ vm.toText))) := by
  have hsend : (do
      let response ← Call.send ⟨.put, place, some body⟩
      let _ ← (ExceptT.mk (.done (textOf response)) : Call String) : Call Unit).run =
        .ask ⟨.put, place, some body⟩ fun answer => .done ((textIn answer).map fun _ => ()) := by
    refine congrArg (Program.ask _) (funext fun answer => ?_)
    cases answer with
    | none => rfl
    | some response =>
      change (ExceptT.bindCont (fun _ => pure ()) (textOf response) : Program _ _) =
        .done ((textOf response).map fun _ => ())
      cases textOf response <;> rfl
  unfold actionPlace at hplace
  unfold putSubresource
  simp only [hplace]
  exact during_eq hsend _

/-- Without a location nothing is asked. -/
theorem putSubresource_of_error {action : Machine.Action} {e : Location.Error}
    (hplace : Location.ofText (actionPlace vm action) = .error e) (body : Json) :
    (putSubresource vm action.name body).run =
      .done (.error (.internal ("invalid " ++ action.name ++ " request: " ++ e.message))) := by
  unfold actionPlace at hplace
  unfold putSubresource
  simp only [hplace]
  rfl

/-- The disks of the machine that an answer brings. -/
def disksIn (vm : InstanceRef) (answer : Option Response) : Except DriverError (List String) :=
  match brought .machine answer with
  | .error failure => .error (.api ("get VirtualMachine " ++ vm.toText) failure)
  | .ok none => .error (.notFound "VirtualMachine" vm.toText)
  | .ok (some object) => .ok (Machine.disks object)

/-- To list the disks is to read the machine. -/
theorem onServer_listDisks (h : locationOf? .machine vm.ns vm.name = some place) :
    onServer (listDisks vm).run = .ask ⟨.get, place, none⟩ fun answer =>
      .done (disksIn vm answer) := by
  refine (Program.bind_done _).trans ?_
  change (findDisks vm).run = _
  unfold findDisks
  rw [ExceptT.run_bind, during_eq (get?_eq h)]
  refine congrArg (Program.ask _) (funext fun answer => ?_)
  simp only [Program.done_bind]
  unfold disksIn
  rcases brought .machine answer with failure | found
  · rfl
  · cases found <;> rfl

/-- Without a location they can not be listed. -/
theorem onServer_listDisks_of_none (h : locationOf? .machine vm.ns vm.name = none) :
    onServer (listDisks vm).run =
      .done (.error (.api ("get VirtualMachine " ++ vm.toText) .unbuildable)) := by
  refine (Program.bind_done _).trans ?_
  change (findDisks vm).run = _
  unfold findDisks Call.during
  rw [ExceptT.run_bind, get?_eq_of_none h]
  rfl

/-- The disks of the machine that an answer brings; none where it says that there is no machine. -/
def disksOrNoneIn (vm : InstanceRef) (answer : Option Response) :
    Except DriverError (List String) :=
  match disksIn vm answer with
  | .error (.notFound _ _) => .ok []
  | other => other

/-- To plug a disk is to read the machine and to ask for the disk, unless it is there. -/
theorem onServer_attach {a : Attachment} (h : locationOf? .machine vm.ns vm.name = some place) :
    onServer (attach vm a).run = .ask ⟨.get, place, none⟩ fun answer =>
      match disksIn vm answer with
      | .error e => .done (.error e)
      | .ok disks =>
        if disks.contains a.disk then .done (.ok ())
        else (putSubresource vm Machine.Action.plug.name a.toObject).run := by
  unfold attach
  rw [ExceptT.run_bind, Program.bind_eq, onServer_bind, onServer_listDisks h]
  refine congrArg (Program.ask _) (funext fun answer => ?_)
  rw [Program.done_bind]
  cases disksIn vm answer with
  | error e => rfl
  | ok disks =>
    simp only
    by_cases hthere : disks.contains a.disk = true
    · rw [if_pos hthere, if_pos hthere]
      rfl
    · rw [if_neg hthere, if_neg hthere]
      exact Program.bind_done _

theorem onServer_disksOrNone (h : locationOf? .machine vm.ns vm.name = some place) :
    onServer (disksOrNone vm).run = .ask ⟨.get, place, none⟩ fun answer =>
      .done (disksOrNoneIn vm answer) := by
  unfold disksOrNone Attempt.orMissing
  refine (onServer_bind _ _).trans ?_
  rw [onServer_listDisks h]
  refine congrArg (Program.ask _) (funext fun answer => ?_)
  rw [Program.done_bind]
  unfold disksOrNoneIn
  cases disksIn vm answer with
  | error e => cases e <;> rfl
  | ok disks => rfl

/-- To unplug a disk is to read the machine and to ask for the disk to go, if it is there. -/
theorem onServer_detach {disk : String} (h : locationOf? .machine vm.ns vm.name = some place) :
    onServer (detach vm disk).run = .ask ⟨.get, place, none⟩ fun answer =>
      match disksOrNoneIn vm answer with
      | .error e => .done (.error e)
      | .ok disks =>
        if disks.contains disk then
          (putSubresource vm Machine.Action.unplug.name (.object [("name", .string disk)])).run
        else .done (.ok ()) := by
  unfold detach
  rw [ExceptT.run_bind, Program.bind_eq, onServer_bind, onServer_disksOrNone h]
  refine congrArg (Program.ask _) (funext fun answer => ?_)
  rw [Program.done_bind]
  cases disksOrNoneIn vm answer with
  | error e => rfl
  | ok disks =>
    simp only
    by_cases hthere : disks.contains disk = true
    · rw [if_pos hthere, if_pos hthere]
      exact Program.bind_done _
    · rw [if_neg hthere, if_neg hthere]
      rfl

/-! ### Operations -/

/-- To plug a disk, or to unplug one. -/
inductive Operation where
  | attach (a : Attachment)
  | detach (disk : String)

namespace Operation

/-- The disk that an operation is about. -/
def disk : Operation → String
  | attach a => a.disk
  | detach disk => disk

/-- What it asks of the machine. -/
def action : Operation → Machine.Action
  | attach _ => .plug
  | detach _ => .unplug

/-- What it sends with that. -/
def body : Operation → Json
  | attach a => a.toObject
  | detach disk => .object [("name", .string disk)]

/-- What it comes to on the server. -/
def program (vm : InstanceRef) : Operation → Program Http.interface (Except DriverError Unit)
  | attach a => onServer (Cluster.attach vm a).run
  | detach disk => onServer (Cluster.detach vm disk).run

/-- What it is for is so already: the disk is reported, or it is not. -/
def Settled : Operation → Json → Prop
  | attach a, object => a.disk ∈ Machine.disks object
  | detach disk, object => disk ∉ Machine.disks object

variable {o : Operation} {before after object : Json}

theorem settled_congr (h : o.disk ∈ Machine.disks after ↔ o.disk ∈ Machine.disks before) :
    o.Settled after ↔ o.Settled before := by
  cases o with
  | attach a => exact h
  | detach disk => exact not_congr h

/-- Operations on one disk that ask for the same action are for the same. -/
theorem settled_iff_of_agree {o' : Operation} (hdisk : o'.disk = o.disk)
    (haction : o'.action = o.action) : o'.Settled object ↔ o.Settled object := by
  cases o with
  | attach a =>
    cases o' with
    | attach a' => exact iff_of_eq (congrArg (· ∈ Machine.disks object) hdisk)
    | detach disk => cases haction
  | detach disk =>
    cases o' with
    | attach a' => cases haction
    | detach disk' => exact iff_of_eq (congrArg (· ∉ Machine.disks object) hdisk)

/-- Without a location an operation fails and asks nothing. -/
theorem program_of_none (o : Operation) (h : locationOf? .machine vm.ns vm.name = none) :
    ∃ e, o.program vm = .done (.error e) := by
  refine ⟨.api ("get VirtualMachine " ++ vm.toText) .unbuildable, ?_⟩
  cases o with
  | attach a =>
    change onServer (Cluster.attach vm a).run = _
    unfold Cluster.attach
    rw [ExceptT.run_bind, Program.bind_eq, onServer_bind, onServer_listDisks_of_none h]
    rfl
  | detach disk =>
    have hlook : onServer (disksOrNone vm).run =
        .done (.error (.api ("get VirtualMachine " ++ vm.toText) .unbuildable)) := by
      unfold disksOrNone Attempt.orMissing
      refine (onServer_bind _ _).trans ?_
      rw [onServer_listDisks_of_none h]
      rfl
    change onServer (Cluster.detach vm disk).run = _
    unfold Cluster.detach
    rw [ExceptT.run_bind, Program.bind_eq, onServer_bind, hlook]
    rfl

/-- **An operation reads the machine first.** If it finds that it is settled it is done, else it
asks for its action. -/
theorem exists_program_eq (o : Operation) (h : locationOf? .machine vm.ns vm.name = some place) :
    ∃ next, o.program vm = .ask ⟨.get, place, none⟩ next ∧
      (∀ answer failure, brought .machine answer = .error failure →
        ∃ e, next answer = .done (.error e)) ∧
      (∀ answer object, brought .machine answer = .ok (some object) → o.Settled object →
        next answer = .done (.ok ())) ∧
      ∀ answer object, brought .machine answer = .ok (some object) → ¬ o.Settled object →
        next answer = (putSubresource vm o.action.name o.body).run := by
  have hfailed : ∀ {answer failure}, brought .machine answer = .error failure →
      disksIn vm answer = .error (.api ("get VirtualMachine " ++ vm.toText) failure) := by
    intro answer failure hanswer
    unfold disksIn
    rw [hanswer]
  have hfound : ∀ {answer object}, brought .machine answer = .ok (some object) →
      disksIn vm answer = .ok (Machine.disks object) := by
    intro answer object hanswer
    unfold disksIn
    rw [hanswer]
  cases o with
  | attach a =>
    refine ⟨_, onServer_attach h, fun answer failure hanswer => ?_,
      fun answer object hanswer hsettled => ?_, fun answer object hanswer hsettled => ?_⟩
    · rw [hfailed hanswer]
      exact ⟨_, rfl⟩
    · rw [hfound hanswer]
      exact if_pos (List.contains_iff_mem.2 hsettled)
    · rw [hfound hanswer]
      exact if_neg (mt List.contains_iff_mem.1 hsettled)
  | detach disk =>
    refine ⟨_, onServer_detach h, fun answer failure hanswer => ?_,
      fun answer object hanswer hsettled => ?_, fun answer object hanswer hsettled => ?_⟩
    · unfold disksOrNoneIn
      rw [hfailed hanswer]
      exact ⟨_, rfl⟩
    · unfold disksOrNoneIn
      rw [hfound hanswer]
      exact if_neg (mt List.contains_iff_mem.1 hsettled)
    · unfold disksOrNoneIn
      rw [hfound hanswer]
      exact if_pos (List.contains_iff_mem.2 (not_not.1 hsettled))

/-- A request says which disk it is about. -/
theorem body_name (o : Operation) : o.body.pointer? ["name"] = some (.string o.disk) := by
  cases o <;> rfl

theorem body_name_iff {n : String} :
    o.body.pointer? ["name"] = some (.string n) ↔ o.disk = n := by
  rw [body_name, Option.some.injEq, Json.string.injEq]

/-- A request that the machine takes settles its operation. -/
theorem settled_of_queued (h : Machine.Queued o.action o.body before after)
    (hdisk : o.disk ≠ "") : o.Settled after := by
  have hmem := Machine.mem_disks_of_queued h hdisk
  rw [body_name_iff] at hmem
  cases o with
  | attach a => exact hmem.2 ⟨.inr ⟨rfl, rfl⟩, fun hunplug => Machine.Action.noConfusion hunplug.1⟩
  | detach disk => exact fun hthere => (hmem.1 hthere).2 ⟨rfl, rfl⟩

/-- It leaves all other disks alone. -/
theorem mem_disks_of_queued_of_ne {n : String} (h : Machine.Queued o.action o.body before after)
    (hn : n ≠ o.disk) : n ∈ Machine.disks after ↔ n ∈ Machine.disks before := by
  by_cases hempty : n = ""
  · subst hempty
    exact iff_of_false (Machine.empty_not_mem_disks after) (Machine.empty_not_mem_disks before)
  · rw [Machine.mem_disks_of_queued h hempty, body_name_iff]
    simp [hn.symm]

end Operation

/-! ### The server -/

/-- The machine takes a request, if the answer tells of no error: it puts it at the end of its
queue. Of a request that fails it is not known whether the machine has taken it. -/
structure Takes (action : Machine.Action) (body before after : Json) (answer : Option Response) :
    Prop where
  accepted : ∀ text, textIn answer = .ok text → Machine.Queued action body before after
  refused : Machine.Queued action body before after ∨ after = before

/-- A server that has a virtual machine, whose object is a part of its state. It may fail at any
time, but never says that there is no machine. -/
structure Hotplugs {σ : Type} (h : Handler Http.interface σ) (vm : InstanceRef)
    (object : σ → Json) : Prop where
  /-- Reading the machine changes nothing. -/
  reads : ∀ s place, locationOf? .machine vm.ns vm.name = some place →
    object (h ⟨.get, place, none⟩ s).2 = object s
  /-- It brings the object, or fails. -/
  brings : ∀ s place, locationOf? .machine vm.ns vm.name = some place →
    brought .machine (h ⟨.get, place, none⟩ s).1 = .ok (some (object s)) ∨
      ∃ failure, brought .machine (h ⟨.get, place, none⟩ s).1 = .error failure
  /-- It may be asked for actions. -/
  takes : ∀ s action place body, Location.ofText (actionPlace vm action) = .ok place →
    Takes action body (object s) (object (h ⟨.put, place, some body⟩ s).2)
      (h ⟨.put, place, some body⟩ s).1

/-- What an operation may ask of a machine as it is: to read it, and where it is not settled yet to
plug, or to unplug, its disk. -/
inductive Permitted (vm : InstanceRef) (object : Json) (o : Operation) : Http.Request → Prop where
  | reads {place : Location} (hplace : locationOf? .machine vm.ns vm.name = some place) :
      Permitted vm object o ⟨.get, place, none⟩
  | acts {place : Location} (hplace : Location.ofText (actionPlace vm o.action) = .ok place)
      (hnot : ¬ o.Settled object) : Permitted vm object o ⟨.put, place, some o.body⟩

section Server

variable {σ : Type} {h : Handler Http.interface σ} {object : σ → Json} {s : σ} {o : Operation}

/-- **What a request does**: it leaves a disk as it is, or it settles its operation on it. -/
theorem settled_of_permitted (hserver : Hotplugs h vm object) {r : Http.Request}
    (hr : Permitted vm (object s) o r) (n : String) :
    (n ∈ Machine.disks (object (h r s).2) ↔ n ∈ Machine.disks (object s)) ∨
      n = o.disk ∧ o.Settled (object (h r s).2) := by
  cases hr with
  | reads hplace =>
    rw [hserver.reads s _ hplace]
    exact .inl Iff.rfl
  | acts hplace =>
    rcases (hserver.takes s o.action _ o.body hplace).refused with hqueued | hsame
    · by_cases hn : n = o.disk
      · by_cases hempty : n = ""
        · subst hempty
          exact .inl (iff_of_false (Machine.empty_not_mem_disks _) (Machine.empty_not_mem_disks _))
        · exact .inr ⟨hn, Operation.settled_of_queued hqueued (hn ▸ hempty)⟩
      · exact .inl (Operation.mem_disks_of_queued_of_ne hqueued hn)
    · rw [hsame]
      exact .inl Iff.rfl

/-- In two states a disk is reported, or in neither. -/
def SameOn (object : σ → Json) (n : String) (s s' : σ) : Prop :=
  n ∈ Machine.disks (object s') ↔ n ∈ Machine.disks (object s)

theorem SameOn.trans {n : String} {s s' s'' : σ} (h : SameOn object n s s')
    (h' : SameOn object n s' s'') : SameOn object n s s'' :=
  Iff.trans h' h

/-- Where an operation succeeds it is settled, if it is about a disk with a name. -/
def Succeeds (object : σ → Json) (o : Operation) (result : Except DriverError Unit) (s : σ) :
    Prop :=
  result = .ok () → o.disk ≠ "" → o.Settled (object s)

/-- Of an operation that has failed nothing is expected. -/
theorem heeds_error (e : DriverError) (s : σ) :
    Heeds h (SameOn object o.disk) (fun r s => Permitted vm (object s) o r) (Succeeds object o)
      (.done (.error e)) s := by
  intro s' _ hok
  cases hok

/-- The request for the action, and what its answer comes to. -/
theorem heeds_action (hserver : Hotplugs h vm object) (hnot : ¬ o.Settled (object s)) :
    Heeds h (SameOn object o.disk) (fun r s => Permitted vm (object s) o r) (Succeeds object o)
      (putSubresource vm o.action.name o.body).run s := by
  cases hplace : Location.ofText (actionPlace vm o.action) with
  | error e =>
    rw [putSubresource_of_error hplace]
    exact heeds_error _ s
  | ok place =>
    rw [putSubresource_eq hplace]
    intro s' hs
    refine ⟨.acts hplace (mt (Operation.settled_congr hs).1 hnot), fun s'' hs' hok hdisk => ?_⟩
    cases htext : textIn (h ⟨.put, place, some o.body⟩ s').1 with
    | error e =>
      rw [htext] at hok
      cases hok
    | ok text =>
      have hqueued := (hserver.takes s' o.action place o.body hplace).accepted text htext
      exact (Operation.settled_congr hs').2 (Operation.settled_of_queued hqueued hdisk)

/-- **An operation acts only where it is not settled, and it is settled where it succeeds**, if
nobody else plugs or unplugs its disk meanwhile. -/
theorem heeds_program (hserver : Hotplugs h vm object) (o : Operation) (s : σ) :
    Heeds h (SameOn object o.disk) (fun r s => Permitted vm (object s) o r) (Succeeds object o)
      (o.program vm) s := by
  cases hplace : locationOf? .machine vm.ns vm.name with
  | none =>
    obtain ⟨e, heq⟩ := o.program_of_none hplace
    rw [heq]
    exact heeds_error e s
  | some place =>
    obtain ⟨next, heq, hfailed, hsettled, hunsettled⟩ := o.exists_program_eq hplace
    rw [heq]
    intro s' _
    refine ⟨.reads hplace, ?_⟩
    have hsame : object (h ⟨.get, place, none⟩ s').2 = object s' := hserver.reads s' place hplace
    rcases hserver.brings s' place hplace with hbrought | ⟨failure, hbrought⟩
    · by_cases hdone : o.Settled (object s')
      · rw [hsettled _ _ hbrought hdone]
        intro s'' hs _ _
        exact (Operation.settled_congr hs).2 (by rwa [hsame])
      · rw [hunsettled _ _ hbrought hdone]
        exact heeds_action hserver (by rwa [hsame])
    · obtain ⟨e, hnext⟩ := hfailed _ _ hbrought
      rw [hnext]
      exact heeds_error e _

/-- **An operation that is settled already succeeds**, and asks nothing but to read the machine. -/
theorem run_program_of_settled
    (hplace : locationOf? .machine vm.ns vm.name = some place)
    (hbrought : brought .machine (h ⟨.get, place, none⟩ s).1 = .ok (some (object s)))
    (hsettled : o.Settled (object s)) :
    ((o.program vm).run h s).1 = .ok () ∧ (o.program vm).asked h s = [⟨.get, place, none⟩] := by
  obtain ⟨next, heq, -, hdone, -⟩ := o.exists_program_eq hplace
  rw [heq, Program.run_ask, Program.asked_ask, hdone _ _ hbrought hsettled]
  exact ⟨rfl, rfl⟩

/-- **An operation that is not settled asks for its action**, and succeeds if the server takes
it. -/
theorem run_program_of_not_settled {place' : Location}
    (hplace : locationOf? .machine vm.ns vm.name = some place)
    (hbrought : brought .machine (h ⟨.get, place, none⟩ s).1 = .ok (some (object s)))
    (hnot : ¬ o.Settled (object s))
    (hplace' : Location.ofText (actionPlace vm o.action) = .ok place') :
    (o.program vm).asked h s = [⟨.get, place, none⟩, ⟨.put, place', some o.body⟩] ∧
      ∀ text, textIn (h ⟨.put, place', some o.body⟩ (h ⟨.get, place, none⟩ s).2).1 = .ok text →
        ((o.program vm).run h s).1 = .ok () := by
  obtain ⟨next, heq, -, -, hacts⟩ := o.exists_program_eq hplace
  rw [heq, Program.run_ask, Program.asked_ask, hacts _ _ hbrought hnot, putSubresource_eq hplace']
  refine ⟨rfl, fun text htext => ?_⟩
  rw [Program.run_ask, htext]
  rfl

end Server

end Hotplug.Api
