import Hotplug.Proofs.Api.Plugging

/-!
# Plugging while the machine reconciles

Operations on a virtual machine run side by side, at most one for each disk, and at any moment the
machine may act on the oldest request in its queue. Nobody notices when it does: what the machine
reports depends on the operations alone.

## Main definitions

* `Situation`, `Event`, `Step`, `Run` — a server with the operations under way, and what happens.
* `Orderly` — no two of the operations are about one disk, and each goes as it should.
* `Keeps object o S` — the disk of `o` is as `o` leaves it, and nobody wants it otherwise.
* `Reports object names`, `Dependable h vm object s` — what is listed, and what can be relied on.

## Main results

* `Orderly.step`, `Keeps.step` — what every step keeps.
* `hotplug_idempotent` — **what a machine reports does not depend on when it reconciles.**
-/

namespace Hotplug.Api

open Http Cluster

/-- An operation, with what is left of it to do. -/
abbrev Ongoing : Type :=
  Operation × Program Http.interface (Except DriverError Unit)

/-- A server, and the operations that are under way on it. -/
structure Situation (σ : Type) where
  server : σ
  underWay : List Ongoing

/-- What happens in a step. -/
inductive Event where
  /-- Somebody begins an operation. -/
  | begins (o : Operation)
  /-- A request of an operation is answered. -/
  | asks (o : Operation) (r : Http.Request)
  /-- An operation ends. -/
  | ends (o : Operation) (result : Except DriverError Unit)
  /-- The machine acts on the oldest request in its queue. -/
  | reconciles

section Steps

variable {σ : Type} (h : Handler Http.interface σ) (vm : InstanceRef) (object : σ → Json)

/-- What may happen next. An operation begins only if none is under way for its disk. -/
inductive Step : Situation σ → Event → Situation σ → Prop where
  | begins {s : σ} {ps : List Ongoing} (o : Operation) (hfree : ∀ x ∈ ps, x.1.disk ≠ o.disk) :
      Step ⟨s, ps⟩ (.begins o) ⟨s, (o, o.program vm) :: ps⟩
  | asks {s : σ} {front back : List Ongoing} {o : Operation} {r : Http.Request}
      {next : Option Response → Program Http.interface (Except DriverError Unit)} :
      Step ⟨s, front ++ (o, .ask r next) :: back⟩ (.asks o r)
        ⟨(h r s).2, front ++ (o, next (h r s).1) :: back⟩
  | ends {s : σ} {front back : List Ongoing} {o : Operation} {result : Except DriverError Unit} :
      Step ⟨s, front ++ (o, .done result) :: back⟩ (.ends o result) ⟨s, front ++ back⟩
  | reconciles {s s' : σ} {ps : List Ongoing}
      (hreconciled : Machine.Reconciled (object s) (object s')) :
      Step ⟨s, ps⟩ .reconciles ⟨s', ps⟩

/-- Steps in a row, and what happens in them. -/
inductive Run : Situation σ → List Event → Situation σ → Prop where
  | nil (S : Situation σ) : Run S [] S
  | cons {S S' S'' : Situation σ} {e : Event} {events : List Event}
      (hstep : Step h vm object S e S') (hrest : Run S' events S'') : Run S (e :: events) S''

/-- No two operations are about one disk, and each asks only for what it may and ends as it
should. -/
structure Orderly (S : Situation σ) : Prop where
  distinct : (S.underWay.map fun x => x.1.disk).Nodup
  heeds : ∀ x ∈ S.underWay, Heeds h (SameOn object x.1.disk)
    (fun r s => Permitted vm (object s) x.1 r) (Succeeds object x.1) x.2 S.server

end Steps

/-- The disk of an operation is as the operation leaves it, and all who are about the disk want it
so. -/
structure Keeps {σ : Type} (object : σ → Json) (o : Operation) (S : Situation σ) : Prop where
  settled : o.Settled (object S.server)
  agreed : ∀ x ∈ S.underWay, x.1.disk = o.disk → x.1.action = o.action

section Runs

variable {σ : Type} {h : Handler Http.interface σ} {vm : InstanceRef} {object : σ → Json}
  {S S' S'' : Situation σ} {e : Event} {events events' : List Event} {o : Operation}

theorem run_append (hrun : Run h vm object S events S') (hrest : Run h vm object S' events' S'') :
    Run h vm object S (events ++ events') S'' := by
  induction hrun with
  | nil => exact hrest
  | cons hstep _ ih => exact .cons hstep (ih hrest)

/-- A run goes through what happens in it one by one. -/
theorem exists_of_run_append (hrun : Run h vm object S (events ++ events') S'') :
    ∃ S', Run h vm object S events S' ∧ Run h vm object S' events' S'' := by
  induction events generalizing S with
  | nil => exact ⟨S, .nil S, hrun⟩
  | cons e events ih =>
    cases hrun with
    | cons hstep hrest =>
      obtain ⟨S', hfirst, hlast⟩ := ih hrest
      exact ⟨S', .cons hstep hfirst, hlast⟩

/-- Of operations on different disks no other is about the disk of one. -/
theorem disk_ne_of_nodup {front back : List Ongoing} {x y : Ongoing}
    (hdistinct : ((front ++ x :: back).map fun z => z.1.disk).Nodup) (hy : y ∈ front ++ back) :
    y.1.disk ≠ x.1.disk := by
  rw [List.map_append, List.map_cons, List.nodup_middle, ← List.map_append] at hdistinct
  intro heq
  exact (List.nodup_cons.1 hdistinct).1 (heq ▸ List.mem_map_of_mem hy)

theorem mem_middle {front back : List Ongoing} {x y : Ongoing} :
    y ∈ front ++ x :: back ↔ y = x ∨ y ∈ front ++ back :=
  List.perm_middle.mem_iff.trans List.mem_cons

/-- Where nothing is under way all is orderly. -/
theorem orderly_nil (s : σ) : Orderly h vm object ⟨s, []⟩ :=
  ⟨List.nodup_nil, fun _ hx => absurd hx List.not_mem_nil⟩

/-- What is asked is permitted. -/
theorem Orderly.permitted (hS : Orderly h vm object S) {r : Http.Request}
    (hstep : Step h vm object S (.asks o r) S') : Permitted vm (object S.server) o r := by
  cases hstep with
  | @asks s front back _ _ next =>
    exact (hS.heeds _ (List.mem_append_right front List.mem_cons_self) s Iff.rfl).1

/-- **Every step keeps things orderly.** -/
theorem Orderly.step (hserver : Hotplugs h vm object) (hS : Orderly h vm object S)
    (hstep : Step h vm object S e S') : Orderly h vm object S' := by
  obtain ⟨hdistinct, hheeds⟩ := hS
  cases hstep with
  | @begins s ps o hfree =>
    have hnew : o.disk ∉ ps.map fun x => x.1.disk := by
      intro hmem
      obtain ⟨x, hx, heq⟩ := List.mem_map.1 hmem
      exact hfree x hx heq
    refine ⟨List.nodup_cons.2 ⟨hnew, hdistinct⟩, fun x hx => ?_⟩
    rcases List.mem_cons.1 hx with rfl | hx
    · exact heeds_program hserver o _
    · exact hheeds x hx
  | @asks s front back o r next =>
    have hsame : (front ++ (o, next (h r s).1) :: back).map (fun x : Ongoing => x.1.disk) =
        (front ++ (o, .ask r next) :: back).map fun x => x.1.disk := by
      rw [List.map_append, List.map_append, List.map_cons, List.map_cons]
    obtain ⟨hpermitted, hnext⟩ := hheeds _ (mem_middle.2 (.inl rfl)) s Iff.rfl
    refine ⟨by rw [hsame]; exact hdistinct, fun x hx => ?_⟩
    rcases mem_middle.1 hx with rfl | hx
    · exact hnext
    · -- The request is about another disk, and to this operation a move of others.
      refine (hheeds x (mem_middle.2 (.inr hx))).move (fun _ _ _ => SameOn.trans) ?_
      rcases settled_of_permitted hserver hpermitted x.1.disk with hkept | ⟨hdisk, -⟩
      · exact hkept
      · exact absurd hdisk (disk_ne_of_nodup hdistinct hx)
  | @ends s front back o result =>
    have hrest : (front ++ back).Sublist (front ++ (o, .done result) :: back) :=
      (List.Sublist.refl front).append (List.sublist_cons_self _ _)
    exact ⟨hdistinct.sublist (hrest.map _), fun x hx => hheeds x (hrest.subset hx)⟩
  | reconciles hreconciled =>
    refine ⟨hdistinct, fun x hx => ?_⟩
    exact (hheeds x hx).move (fun _ _ _ => SameOn.trans)
      (Machine.mem_disks_of_reconciled hreconciled)

theorem Orderly.run (hserver : Hotplugs h vm object) (hS : Orderly h vm object S)
    (hrun : Run h vm object S events S') : Orderly h vm object S' := by
  induction hrun with
  | nil => exact hS
  | cons hstep _ ih => exact ih (hS.step hserver hstep)

/-! ### What stays as it is -/

/-- An operation that succeeds leaves its disk settled. -/
theorem keeps_of_ends (hS : Orderly h vm object S) (hdisk : o.disk ≠ "")
    (hstep : Step h vm object S (.ends o (.ok ())) S') : Keeps object o S' := by
  cases hstep with
  | @ends s front back =>
    have hsettled := hS.heeds _ (mem_middle.2 (.inl rfl)) s Iff.rfl rfl hdisk
    exact ⟨hsettled, fun x hx heq => absurd heq (disk_ne_of_nodup hS.distinct hx)⟩

/-- **Every step keeps a disk as it is**, unless it begins an operation to the contrary. -/
theorem Keeps.step (hserver : Hotplugs h vm object) (hS : Orderly h vm object S)
    (hkeeps : Keeps object o S) (hstep : Step h vm object S e S')
    (hagrees : ∀ o', e = .begins o' → o'.disk = o.disk → o'.action = o.action) :
    Keeps object o S' := by
  have hpermitted := fun (o' : Operation) r (he : e = .asks o' r) => hS.permitted (he ▸ hstep)
  obtain ⟨hsettled, hagreed⟩ := hkeeps
  cases hstep with
  | begins o' hfree =>
    refine ⟨hsettled, fun x hx => ?_⟩
    rcases List.mem_cons.1 hx with rfl | hx
    · exact hagrees o' rfl
    · exact hagreed x hx
  | @asks s front back o' r next =>
    refine ⟨?_, fun x hx => ?_⟩
    · rcases settled_of_permitted hserver (hpermitted o' r rfl) o.disk with hkept | ⟨hdisk, hdone⟩
      · exact (Operation.settled_congr hkept).2 hsettled
      · -- The request is about this disk, and so of an operation that wants it as it is.
        have haction := hagreed _ (mem_middle.2 (.inl rfl)) hdisk.symm
        exact (Operation.settled_iff_of_agree hdisk.symm haction).1 hdone
    · rcases mem_middle.1 hx with rfl | hx
      · exact hagreed (o', .ask r next) (mem_middle.2 (.inl rfl))
      · exact hagreed x (mem_middle.2 (.inr hx))
  | @ends s front back =>
    exact ⟨hsettled, fun x hx => hagreed x (mem_middle.2 (.inr hx))⟩
  | reconciles hreconciled =>
    exact ⟨(Operation.settled_congr (Machine.mem_disks_of_reconciled hreconciled)).2 hsettled,
      hagreed⟩

theorem Keeps.run (hserver : Hotplugs h vm object) (hS : Orderly h vm object S)
    (hkeeps : Keeps object o S) (hrun : Run h vm object S events S')
    (hagrees : ∀ o', .begins o' ∈ events → o'.disk = o.disk → o'.action = o.action) :
    Keeps object o S' := by
  induction hrun with
  | nil => exact hkeeps
  | cons hstep _ ih =>
    refine ih (hS.step hserver hstep) (hkeeps.step hserver hS hstep fun o' he => ?_)
      fun o' ho' => hagrees o' (List.mem_cons_of_mem _ ho')
    exact hagrees o' (he ▸ List.mem_cons_self)

/-- After an operation that succeeded its disk is as it left it, as long as nobody begins one to the
contrary. -/
theorem settled_of_run (hserver : Hotplugs h vm object) (hS : Orderly h vm object S)
    (hdisk : o.disk ≠ "")
    (hrun : Run h vm object S (events ++ .ends o (.ok ()) :: events') S')
    (hagrees : ∀ o', .begins o' ∈ events' → o'.disk = o.disk → o'.action = o.action) :
    o.Settled (object S'.server) := by
  obtain ⟨S₁, hbefore, hlater⟩ := exists_of_run_append hrun
  cases hlater with
  | cons hends hafter =>
    have horderly := hS.run hserver hbefore
    exact ((keeps_of_ends horderly hdisk hends).run hserver (horderly.step hserver hends) hafter
      hagrees).settled

/-- An operation that nobody disturbs runs to its end. -/
theorem exists_run_alone (o : Operation) (p : Program Http.interface (Except DriverError Unit))
    (s : σ) : ∃ events, Run h vm object ⟨s, [(o, p)]⟩ (events ++ [.ends o (p.run h s).1])
      ⟨(p.run h s).2, []⟩ := by
  induction p generalizing s with
  | done result =>
    have hend : Step h vm object ⟨s, [] ++ (o, .done result) :: []⟩ (.ends o result)
        ⟨s, [] ++ []⟩ := .ends
    exact ⟨[], .cons hend (.nil _)⟩
  | ask r next ih =>
    obtain ⟨events, hrest⟩ := ih (h r s).1 (h r s).2
    have hask : Step h vm object ⟨s, [] ++ (o, .ask r next) :: []⟩ (.asks o r)
        ⟨(h r s).2, [] ++ (o, next (h r s).1) :: []⟩ := .asks
    exact ⟨.asks o r :: events, .cons hask hrest⟩

end Runs

/-! ### What can be relied on -/

/-- Some names are those that a machine reports. -/
structure Reports (object : Json) (names : List String) : Prop where
  mem_iff : ∀ n, n ≠ "" → (n ∈ names ↔ Machine.Reported object n)
  ne_empty : "" ∉ names
  nodup : (Machine.specNames object).Nodup → names.Nodup

/-- What can be relied on from a state on in which nothing is under way. -/
structure Dependable {σ : Type} (h : Handler Http.interface σ) (vm : InstanceRef)
    (object : σ → Json) (s : σ) : Prop where
  /-- To reconcile changes nothing in what is reported. -/
  reconciled : ∀ {events : List Event} {S S' : Situation σ}, Run h vm object ⟨s, []⟩ events S →
    Step h vm object S .reconciles S' →
    ∀ n, n ∈ Machine.disks (object S'.server) ↔ n ∈ Machine.disks (object S.server)
  /-- A disk that was plugged is reported until somebody begins to unplug it. -/
  attached : ∀ {a : Attachment} {before after : List Event} {S : Situation σ}, a.disk ≠ "" →
    Run h vm object ⟨s, []⟩ (before ++ .ends (.attach a) (.ok ()) :: after) S →
    .begins (.detach a.disk) ∉ after → a.disk ∈ Machine.disks (object S.server)
  /-- A disk that was unplugged is not reported until somebody begins to plug it. -/
  detached : ∀ {disk : String} {before after : List Event} {S : Situation σ},
    Run h vm object ⟨s, []⟩ (before ++ .ends (.detach disk) (.ok ()) :: after) S →
    (∀ a, .begins (.attach a) ∈ after → a.disk ≠ disk) → disk ∉ Machine.disks (object S.server)
  /-- Nothing is asked but to read the machine, to plug a disk that is not reported, and to unplug
  one that is. -/
  asked : ∀ {events : List Event} {S S' : Situation σ} {o : Operation} {r : Http.Request},
    Run h vm object ⟨s, []⟩ events S → Step h vm object S (.asks o r) S' →
    Permitted vm (object S.server) o r
  /-- Of a machine that is read an operation asks nothing more if it is settled, and is done. -/
  settled : ∀ {o : Operation} {t : σ} {place : Location},
    locationOf? .machine vm.ns vm.name = some place →
    brought .machine (h ⟨.get, place, none⟩ t).1 = .ok (some (object t)) → o.Settled (object t) →
    ((o.program vm).run h t).1 = .ok () ∧ (o.program vm).asked h t = [⟨.get, place, none⟩]
  /-- If it is not, it asks for its action, and is done if the server takes that. -/
  unsettled : ∀ {o : Operation} {t : σ} {place place' : Location},
    locationOf? .machine vm.ns vm.name = some place →
    brought .machine (h ⟨.get, place, none⟩ t).1 = .ok (some (object t)) → ¬ o.Settled (object t) →
    Location.ofText (actionPlace vm o.action) = .ok place' →
    (o.program vm).asked h t = [⟨.get, place, none⟩, ⟨.put, place', some o.body⟩] ∧
      ∀ text, textIn (h ⟨.put, place', some o.body⟩ (h ⟨.get, place, none⟩ t).2).1 = .ok text →
        ((o.program vm).run h t).1 = .ok ()

theorem dependable {σ : Type} {h : Handler Http.interface σ} {vm : InstanceRef}
    {object : σ → Json} (hserver : Hotplugs h vm object) (s : σ) : Dependable h vm object s where
  reconciled := by
    intro events S S' _ hstep n
    cases hstep with
    | reconciles hreconciled => exact Machine.mem_disks_of_reconciled hreconciled
  attached := by
    intro a before after S hdisk hrun hnone
    refine settled_of_run (o := .attach a) hserver (orderly_nil s) hdisk hrun fun o' ho' heq => ?_
    cases o' with
    | attach a' => rfl
    | detach disk =>
      obtain rfl : disk = a.disk := heq
      exact absurd ho' hnone
  detached := by
    intro disk before after S hrun hnone
    by_cases hdisk : disk = ""
    · exact hdisk ▸ Machine.empty_not_mem_disks _
    · refine settled_of_run (o := .detach disk) hserver (orderly_nil s) hdisk hrun
        fun o' ho' heq => ?_
      cases o' with
      | attach a => exact absurd heq (hnone a ho')
      | detach disk' => rfl
  asked := fun hrun hstep => ((orderly_nil s).run hserver hrun).permitted hstep
  settled := run_program_of_settled
  unsettled := run_program_of_not_settled

/-- The disks that are listed are those that the machine reports. -/
theorem listed_of_brought {τ : Type} {vm : InstanceRef} {place : Location} {object : Json}
    (g : Handler Http.interface τ) (t : τ) (hplace : locationOf? .machine vm.ns vm.name = some place)
    (hbrought : brought .machine (g ⟨.get, place, none⟩ t).1 = .ok (some object)) :
    ((onServer (listDisks vm).run).run g t).1 = .ok (Machine.disks object) ∧
      Reports object (Machine.disks object) := by
  have hin : disksIn vm (g ⟨.get, place, none⟩ t).1 = .ok (Machine.disks object) := by
    unfold disksIn
    rw [hbrought]
  refine ⟨?_, fun n hn => Machine.mem_disks_iff hn object, Machine.empty_not_mem_disks object,
    Machine.nodup_disks⟩
  rw [onServer_listDisks hplace, Program.run_ask, hin]
  rfl

/-- **What a machine reports does not depend on when it reconciles.** What is listed is, of every
object, the disks whose last mention plugs them. On a server that keeps requests in order and acts
on them at any time, to reconcile changes nothing in that; a disk that was plugged is reported until
somebody begins to unplug it, and the other way round; and nothing is asked for twice. -/
theorem hotplug_idempotent {σ : Type} {h : Handler Http.interface σ} {vm : InstanceRef}
    {object : σ → Json} (hserver : Hotplugs h vm object) (s : σ) :
    (∀ {τ : Type} (g : Handler Http.interface τ) (t : τ) (place : Location) (o : Json),
      locationOf? .machine vm.ns vm.name = some place →
      brought .machine (g ⟨.get, place, none⟩ t).1 = .ok (some o) →
      ((onServer (listDisks vm).run).run g t).1 = .ok (Machine.disks o) ∧
        Reports o (Machine.disks o)) ∧
    Dependable h vm object s :=
  ⟨fun g t _ _ hplace hbrought => listed_of_brought g t hplace hbrought, dependable hserver s⟩

/-! ### A server with one disk -/

/-- A disk to be plugged. -/
def firstDisk : Attachment where
  disk := "disk-pvc-1"
  volume := "pvc-1"
  serial := "u1"
  bus := .scsi

/-- How far a machine has got with plugging it. -/
inductive Stage where
  | idle | requested | plugged
  deriving DecidableEq

/-- The object of the machine. -/
def Stage.object : Stage → Json
  | idle => .object []
  | requested => .object [("status", .object [("volumeRequests",
      .array [.object [("addVolumeOptions", firstDisk.toObject)]])])]
  | plugged => .object [("spec", .object [("template", .object [("spec", .object [("volumes",
      .array [.object [("name", .string "disk-pvc-1")]])])])])]

/-- Where the machine is asked to plug a disk. -/
def plugPlace : Location :=
  ⟨"/apis/subresources.kubevirt.io/v1/namespaces/infra/virtualmachines/vm/addvolume", []⟩

/-- A server whose machine takes nothing but a request for this disk, once. -/
def stageServer : Handler Http.interface Stage := fun r stage =>
  if r.method = .get then (some (telling 200 stage.object), stage)
  else if stage = .idle ∧ r.location = plugPlace ∧ r.body = some firstDisk.toObject then
    (some ⟨202, []⟩, .requested)
  else (some ⟨409, []⟩, stage)

theorem stageServer_put (place : Location) (body : Json) (stage : Stage) :
    stageServer ⟨.put, place, some body⟩ stage =
      if stage = .idle ∧ place = plugPlace ∧ some body = some firstDisk.toObject then
        (some ⟨202, []⟩, .requested)
      else (some ⟨409, []⟩, stage) := rfl

/-- The request for the disk, in the queue. -/
def firstRequest : Json :=
  .object [("addVolumeOptions", firstDisk.toObject)]

theorem adds_firstRequest_iff {n : String} :
    Machine.Adds firstRequest n ↔ n = "disk-pvc-1" := by
  have hname : firstRequest.pointer? ["addVolumeOptions", "name"] =
      some (.string "disk-pvc-1") := rfl
  unfold Machine.Adds
  rw [hname, Option.some.injEq, Json.string.injEq, eq_comm]

theorem not_removes_firstRequest (n : String) : ¬ Machine.Removes firstRequest n := by
  have hnone : firstRequest.pointer? ["removeVolumeOptions", "name"] = none := rfl
  unfold Machine.Removes
  rw [hnone]
  exact nofun

theorem queued_firstRequest : Machine.Queued .plug firstDisk.toObject Stage.idle.object
    Stage.requested.object := by
  refine ⟨fun n => Iff.rfl, firstRequest, rfl, fun n => ?_, fun n => ?_⟩
  · have hname := Operation.body_name_iff (o := .attach firstDisk) (n := n)
    rw [adds_firstRequest_iff, eq_comm]
    exact (and_iff_right rfl |>.trans hname).symm
  · exact iff_of_false (not_removes_firstRequest n) fun h => Machine.Action.noConfusion h.1

theorem reconciled_requested :
    Machine.Reconciled Stage.requested.object Stage.plugged.object := by
  refine ⟨firstRequest, rfl, fun n => ?_⟩
  have hbefore : Machine.specNames Stage.requested.object = [] := rfl
  have hafter : Machine.specNames Stage.plugged.object = ["disk-pvc-1"] := rfl
  rw [hbefore, hafter, adds_firstRequest_iff, List.mem_singleton]
  simp [not_removes_firstRequest]

theorem hotplugs_stageServer : Hotplugs stageServer ⟨"infra", "vm"⟩ Stage.object where
  reads _ _ _ := rfl
  brings := by
    intro s place _
    refine .inl (brought_eq_some_iff.2 ?_)
    cases s <;>
      exact objectIn_telling (by decide) (by decide +kernel) (by decide +kernel) (by decide +kernel)
  takes := by
    intro s action place body hplace
    by_cases hfirst : s = .idle ∧ place = plugPlace ∧ some body = some firstDisk.toObject
    · rw [stageServer_put, if_pos hfirst]
      obtain ⟨rfl, rfl, hbody⟩ := hfirst
      obtain rfl := Option.some.inj hbody
      cases action with
      | plug => exact ⟨fun _ _ => queued_firstRequest, .inl queued_firstRequest⟩
      | unplug => exact absurd hplace (by decide +kernel)
    · have hrefused : textIn (some ⟨409, []⟩) = .error (.answered "") := by
        decide +kernel
      rw [stageServer_put, if_neg hfirst]
      refine ⟨fun text htext => ?_, .inr rfl⟩
      rw [hrefused] at htext
      cases htext

/-- The server takes the request, if it has not yet. -/
theorem run_attach_stageServer : ((Operation.attach firstDisk).program ⟨"infra", "vm"⟩).run
    stageServer .idle = (.ok (), .requested) := by
  have hlocation : locationOf? .machine "infra" "vm" =
      some ⟨"/apis/kubevirt.io/v1/namespaces/infra/virtualmachines/vm", []⟩ := by
    decide +kernel
  have hplug : Location.ofText (actionPlace ⟨"infra", "vm"⟩ .plug) = .ok plugPlace := by
    decide +kernel
  have hidle : disksIn ⟨"infra", "vm"⟩ (some (telling 200 Stage.idle.object)) = .ok [] := by
    decide +kernel
  have haccepted : textIn (some ⟨202, []⟩) = .ok "" := by
    decide +kernel
  have hread : ∀ place, stageServer ⟨.get, place, none⟩ .idle =
      (some (telling 200 Stage.idle.object), .idle) := fun _ => rfl
  change (onServer (attach ⟨"infra", "vm"⟩ firstDisk).run).run stageServer .idle = _
  rw [onServer_attach hlocation, Program.run_ask, hread, hidle]
  change (putSubresource _ Machine.Action.plug.name _).run.run stageServer .idle = _
  rw [putSubresource_eq hplug, Program.run_ask, stageServer_put,
    if_pos ⟨rfl, rfl, rfl⟩, haccepted]
  rfl

/-- The disk is plugged, and it is reported when the machine has acted on it. -/
theorem hotplug_idempotent_plugged : ∃ events, Run stageServer ⟨"infra", "vm"⟩ Stage.object
    ⟨.idle, []⟩
    ((.begins (.attach firstDisk) :: events) ++
      .ends (.attach firstDisk) (.ok ()) :: [.reconciles]) ⟨.plugged, []⟩ ∧
    firstDisk.disk ∈ Machine.disks Stage.plugged.object := by
  obtain ⟨events, halone⟩ : ∃ events, Run stageServer ⟨"infra", "vm"⟩ Stage.object
      ⟨.idle, [(.attach firstDisk, (Operation.attach firstDisk).program ⟨"infra", "vm"⟩)]⟩
      (events ++ [.ends (.attach firstDisk) (((Operation.attach firstDisk).program
        ⟨"infra", "vm"⟩).run stageServer .idle).1])
      ⟨(((Operation.attach firstDisk).program ⟨"infra", "vm"⟩).run stageServer .idle).2, []⟩ :=
    exists_run_alone _ _ _
  rw [run_attach_stageServer] at halone
  have hlast : Run stageServer ⟨"infra", "vm"⟩ Stage.object ⟨.requested, []⟩ [.reconciles]
      ⟨.plugged, []⟩ := .cons (.reconciles reconciled_requested) (.nil _)
  have hrest := run_append halone hlast
  rw [List.append_assoc] at hrest
  have hrun : Run stageServer ⟨"infra", "vm"⟩ Stage.object ⟨.idle, []⟩
      ((.begins (.attach firstDisk) :: events) ++
        .ends (.attach firstDisk) (.ok ()) :: [.reconciles]) ⟨.plugged, []⟩ :=
    .cons (.begins _ fun _ hx => absurd hx List.not_mem_nil) hrest
  obtain ⟨-, hdependable⟩ := hotplug_idempotent hotplugs_stageServer .idle
  have hnone : Event.begins (.detach firstDisk.disk) ∉ [.reconciles] := by
    rw [List.mem_singleton]
    exact Event.noConfusion
  have hreported := hdependable.attached (a := firstDisk) (by decide) hrun hnone
  exact ⟨events, hrun, hreported⟩

/-! ### The empty name -/

/-- A machine with a volume that has no name. -/
def namelessObject : Json :=
  .object [("spec", .object [("template", .object [("spec", .object [("volumes",
    .array [.object [("name", .string "")], .object [("name", .string "root")]])])])])]

/-- An empty name is no name: it is not listed, although the specification has it and no request
mentions it. -/
theorem empty_name_not_listed : Machine.Reported namelessObject "" ∧
    Conversation (onServer (listDisks ⟨"infra", "vm"⟩).run)
      [⟨⟨.get, ⟨"/apis/kubevirt.io/v1/namespaces/infra/virtualmachines/vm", []⟩, none⟩,
        some (telling 200 namelessObject)⟩]
      (.ok ["root"]) := by
  have hspec : Machine.specNames namelessObject = ["", "root"] := rfl
  have hrequests : Machine.requests namelessObject = [] := rfl
  have hlocation : locationOf? .machine "infra" "vm" =
      some ⟨"/apis/kubevirt.io/v1/namespaces/infra/virtualmachines/vm", []⟩ := by
    decide +kernel
  have hlisted : disksIn ⟨"infra", "vm"⟩ (some (telling 200 namelessObject)) = .ok ["root"] := by
    decide +kernel
  constructor
  · refine .inr ⟨fun r hr => ?_, ?_⟩
    · rw [hrequests] at hr
      exact absurd hr List.not_mem_nil
    · rw [hspec]
      exact List.mem_cons_self
  · rw [onServer_listDisks hlocation, ← hlisted]
    exact .ask _ (.done _)

end Hotplug.Api
