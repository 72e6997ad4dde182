import Hotplug.Proofs.Cluster.Numbered
import Hotplug.Proofs.Controller.Create

/-!
# Volumes do not interfere

The controller keeps no locks. Its caller has one request at a time under way for each volume, and
requests for different volumes run side by side on one cluster, where they plug disks into the same
machines. A request for a volume minds nothing but this volume and its disk, and moves nothing else,
so that the requests for one volume do not notice those for another.

## Main definitions

* `Concerns id r` — `r` is a request to make, delete, plug or unplug the volume `id`.
* `Request.origin?` — the volume that a new volume gets its contents from.
* `inTurn s calls` — the program that serves calls one after another.

## Main results

* `confined_create`, `confined_publish`, `confined_unpublish` — the bodies of the requests mind
  nothing but their volume.
* `confined_inTurn` — a sequence of requests for one volume is confined to it.
* `volumes_do_not_interfere` — **requests for different volumes do not interfere.**
-/

namespace Hotplug.Controller

open Cluster (interface stepNumbered Numbered Alike)

/-! ### Requests for one volume -/

/-- A request to make, delete, plug or unplug a volume. -/
inductive Concerns (id : String) : Request → Prop where
  | create (r : CreateVolume) (hr : r.name = id) : Concerns id (.createVolume r)
  | delete : Concerns id (.deleteVolume id)
  | publish (r : PublishVolume) (hr : r.volumeId = id) : Concerns id (.publishVolume r)
  | unpublish (r : UnpublishVolume) (hr : r.volumeId = id) : Concerns id (.unpublishVolume r)

/-- The volume that a new one is to get its contents from. -/
def Request.origin? : Request → Option String
  | .createVolume r =>
    match r.source.bind (·.origin) with
    | some (.volume id) => some id
    | _ => none
  | _ => none

/-- Serves calls one after another, each when the one before it was answered, and gives the
answers. -/
def inTurn (s : Settings) : List Call → Program interface (List (Except Status (Outcome Response)))
  | [] => .done []
  | c :: calls =>
    (respond s c.now c.request).run.bind fun answer =>
      (inTurn s calls).bind fun answers => .done (answer :: answers)

variable {uid : String → String → Nat → String} {s : Settings} {hidden : String → Prop}
  {id : String}

/-- A claim that is a source is in the controller's namespace, and was named by the request. -/
theorem sourceOf_eq_claim {r : CreateVolume} {ns name : String}
    (h : sourceOf s r.source = .ok (.claim ns name)) :
    ns = s.ns ∧ (Request.createVolume r).origin? = some name := by
  obtain ⟨-, hsource⟩ := sourceOf_eq_ok_iff.1 h
  unfold requestedSource at hsource
  split at hsource
  · cases hsource
  · cases hsource
  · next id horigin =>
    obtain ⟨rfl, rfl⟩ := VolumeSource.claim.inj hsource
    exact ⟨rfl, by simp only [Request.origin?, horigin]⟩

/-- To check that a source exists minds the source, which must not be hidden. -/
theorem confined_checkSource {source : VolumeSource}
    (hsource : ∀ ns name, source = .claim ns name → ns = s.ns ∧ ¬ hidden name) :
    Confined (stepNumbered uid) (Alike s.ns hidden) (Alike s.ns (· = id))
      (checkSource source).run := by
  cases source with
  | blank => exact .pure ()
  | snapshot ns name =>
    exact .andThen (Cluster.confined_getSnapshot ns name) fun found =>
      .andThen (.orFail _ found) fun _ => .pure ()
  | claim ns name =>
    obtain ⟨rfl, hname⟩ := hsource ns name rfl
    exact .andThen (Cluster.confined_getVolume hname) fun found =>
      .andThen (.orFail _ found) fun _ => .pure ()

theorem confined_create {r : CreateVolume} (hr : r.name = id) (hid : ¬ hidden id)
    (horigin : ∀ name, (Request.createVolume r).origin? = some name → ¬ hidden name) :
    Confined (stepNumbered uid) (Alike s.ns hidden) (Alike s.ns (· = id)) (create s r).run := by
  refine .andThen (.ofExcept _) fun p => ?_
  refine .andThen (Cluster.confined_enforceStorageClass _ _) fun _ => ?_
  refine .ofExceptThen fun source hsource => ?_
  have hchecked : Confined (stepNumbered uid) (Alike s.ns hidden) (Alike s.ns (· = id))
      (checkSource source).run := by
    refine confined_checkSource fun ns name hclaim => ?_
    rw [hclaim] at hsource
    obtain ⟨hns, hnamed⟩ := sourceOf_eq_claim hsource
    exact ⟨hns, horigin name hnamed⟩
  refine .andThen hchecked fun _ => ?_
  exact .andThen (Cluster.confined_ensureVolume hr hid) fun _ => .pure _

theorem confined_publish {r : PublishVolume} (hr : r.volumeId = id) (hid : ¬ hidden id) :
    Confined (stepNumbered uid) (Alike s.ns hidden) (Alike s.ns (· = id)) (publish s r).run := by
  subst hr
  refine .andThen (.ofExcept _) fun _ => ?_
  refine .andThen (Cluster.confined_resolveInstance _ _) fun vm => ?_
  refine .andThen (Cluster.confined_getVolume hid) fun found => ?_
  refine .andThen (.orFail _ found) fun v => .ofExceptThen fun a ha => ?_
  exact Cluster.confined_attach vm (attachmentOf_disk ha) hid

theorem confined_unpublish {r : UnpublishVolume} (hr : r.volumeId = id) (hid : ¬ hidden id) :
    Confined (stepNumbered uid) (Alike s.ns hidden) (Alike s.ns (· = id))
      (unpublish s r).run := by
  subst hr
  unfold unpublish
  split
  · exact .fail _
  · have hfind : Confined (stepNumbered uid) (Alike s.ns hidden) (Alike s.ns (· = r.volumeId))
        (instance? s r.nodeId).run :=
      .orMissing (.andThen (Cluster.confined_resolveInstance _ _) fun _ => .pure _) (.pure none)
    refine .andThen hfind fun found => ?_
    cases found with
    | none => exact .pure false
    | some vm => exact .andThen (Cluster.confined_detach vm hid) fun _ => .pure true

/-- **A request for a volume minds this volume only**, and the volume it gets its contents from. -/
theorem confined_respond {r : Request} (hr : Concerns id r) (hid : ¬ hidden id)
    (horigin : ∀ name, r.origin? = some name → ¬ hidden name) (now : Instant) :
    Confined (stepNumbered uid) (Alike s.ns hidden) (Alike s.ns (· = id))
      (respond s now r).run := by
  cases hr with
  | create r hr =>
    exact .andThen (.of (confined_create hr hid horigin)) fun _ => .pure _
  | delete =>
    rw [respond]
    split
    · exact .refuse _
    · exact .andThen (.of (Cluster.confined_removeVolume hid)) fun _ => .pure _
  | publish r hr => exact .andThen (.of (confined_publish hr hid)) fun _ => .pure _
  | unpublish r hr => exact .andThen (.of (confined_unpublish hr hid)) fun _ => .pure _

/-- A sequence of requests for a volume minds this volume only. -/
theorem confined_inTurn {calls : List Call} (hcalls : ∀ c ∈ calls, Concerns id c.request)
    (hid : ¬ hidden id)
    (horigin : ∀ c ∈ calls, ∀ name, c.request.origin? = some name → ¬ hidden name) :
    Confined (stepNumbered uid) (Alike s.ns hidden) (Alike s.ns (· = id)) (inTurn s calls) := by
  induction calls with
  | nil => exact .done []
  | cons c calls ih =>
    have hfirst : Confined (stepNumbered uid) (Alike s.ns hidden) (Alike s.ns (· = id))
        (respond s c.now c.request).run :=
      confined_respond (hcalls c List.mem_cons_self) hid (horigin c List.mem_cons_self) c.now
    have hrest := ih (fun c' hc' => hcalls c' (List.mem_cons_of_mem c hc'))
      fun c' hc' => horigin c' (List.mem_cons_of_mem c hc')
    exact .bind hfirst fun _ => .bind hrest fun _ => .done _

/-! ### Requests for different volumes -/

/-- The programs that serve the calls of each volume one after another. -/
def perVolume (s : Settings) (work : List (String × List Call)) :
    List (String × Program interface (List (Except Status (Outcome Response)))) :=
  work.map fun x => (x.1, inTurn s x.2)

/-- The programs for different volumes are apart: to each all other volumes are hidden. -/
theorem apart_perVolume (uid : String → String → Nat → String) (s : Settings)
    {work : List (String × List Call)} (hids : (work.map Prod.fst).Nodup)
    (hwork : ∀ x ∈ work, ∀ c ∈ x.2, Concerns x.1 c.request)
    (horigins : ∀ x ∈ work, ∀ c ∈ x.2, ∀ name, c.request.origin? = some name →
      name ∈ work.map Prod.fst → name = x.1) :
    Apart (stepNumbered uid) (fun id => Alike s.ns fun v => v ∈ work.map Prod.fst ∧ v ≠ id)
      (perVolume s work) where
  distinct := by
    have hlabels : (perVolume s work).map Prod.fst = work.map Prod.fst := by
      rw [perVolume, List.map_map]
      rfl
    rwa [hlabels]
  confined := by
    intro y hy
    obtain ⟨x, hx, rfl⟩ := List.mem_map.1 hy
    have hconfined : Confined (stepNumbered uid)
        (Alike s.ns fun v => v ∈ work.map Prod.fst ∧ v ≠ x.1) (Alike s.ns (· = x.1))
        (inTurn s x.2) :=
      confined_inTurn (hwork x hx) (fun h => h.2 rfl)
        fun c hc name hname h => h.2 (horigins x hx c hc name hname h.1)
    -- What is moved is the part of this volume, which is hidden to all the others.
    refine hconfined.mono fun σ σ' hmoved j hj => hmoved.mono ?_
    rintro v rfl
    exact ⟨List.mem_map_of_mem hx, hj.symm⟩

/-- **Requests for different volumes do not interfere.** Take a sequence of requests for each of
some volumes, to make it, delete it, plug it and unplug it, where no volume gets its contents from
another of them. On a cluster where the id of a volume depends on its name and on how often it was
made, let the sequences run side by side. However their requests to the cluster are interleaved,
every answer is the same as if one sequence ran after another, in any order, and so is the
cluster. -/
theorem volumes_do_not_interfere (uid : String → String → Nat → String) (s : Settings)
    (work : List (String × List Call)) (hids : (work.map Prod.fst).Nodup)
    (hwork : ∀ x ∈ work, ∀ c ∈ x.2, Concerns x.1 c.request)
    (horigins : ∀ x ∈ work, ∀ c ∈ x.2, ∀ name, c.request.origin? = some name →
      name ∈ work.map Prod.fst → name = x.1)
    (order : List (String × List Call)) (horder : order.Perm work) {σ σ' : Numbered}
    {t : List (Exchange interface)}
    {answers : List (String × List (Except Status (Outcome Response)))}
    (hrun : Interleaves (stepNumbered uid) (fun _ => False) (perVolume s work) σ t
      (answers.map finished) σ') :
    let apart := oneByOne (stepNumbered uid) (perVolume s order) σ
    answers.Perm apart.1 ∧ σ'.Same apart.2 := by
  intro apart
  have hperm : (perVolume s work).Perm (perVolume s order) := horder.symm.map _
  obtain ⟨t', hapart⟩ :=
    interleaves_oneByOne (stepNumbered uid) (fun _ => False) (perVolume s order) σ
  obtain ⟨hanswers, hparts⟩ := Interleaves.agree (fun id => Alike.equivalence s.ns _)
    (apart_perVolume uid s hids hwork horigins) hperm hrun hapart
  exact ⟨hanswers, Numbered.same_of_alike (fun v h => h.2 rfl) hparts⟩

/-- A cluster with a virtual machine that has no disks. -/
def emptyMachine : Numbered where
  cluster := { disks := Table.ofList [("infra/vm", [])] }
  made := fun _ _ => 0

/-- A volume is made, and plugged into the machine. -/
def makeAndPlug (id : String) : List Call :=
  [⟨⟨0, 0⟩, .createVolume
      { name := id, capacity := some { required := 1024 },
        capabilities := [{ access := some .block, mode := some 1 }] }⟩,
    ⟨⟨1, 0⟩, .publishVolume
      { volumeId := id, nodeId := "infra/vm", capability := some ⟨some .block, some 1⟩ }⟩]

/-- The ids of the volumes. -/
def uidOf (ns name : String) (number : Nat) : String :=
  ns ++ "/" ++ name ++ "/" ++ Digits.text number

/-- Two volumes are made side by side, and plugged into one machine: each call reads the disks
before either adds one. The answers, and the disks in the end, are those of one after the other. -/
theorem volumes_do_not_interfere_oneMachine :
    ∃ t, ∃ answers : List (String × List (Except Status (Outcome Response))), ∃ σ',
      Interleaves (stepNumbered uidOf) (fun _ => False)
        (perVolume { ns := "infra" } [("a", makeAndPlug "a"), ("b", makeAndPlug "b")])
        emptyMachine t (answers.map finished) σ' ∧
      σ'.cluster.disks.get? "infra/vm" = some ["disk-b", "disk-a"] ∧
      let apart := oneByOne (stepNumbered uidOf)
        (perVolume { ns := "infra" } [("b", makeAndPlug "b"), ("a", makeAndPlug "a")]) emptyMachine
      answers.Perm apart.1 ∧ σ'.Same apart.2 := by
  have hmade : ∀ id, ∀ c ∈ makeAndPlug id, Concerns id c.request ∧ c.request.origin? = none := by
    intro id c hc
    rcases List.mem_cons.1 hc with rfl | hc
    · exact ⟨.create _ rfl, rfl⟩
    · rw [List.mem_singleton.1 hc]
      exact ⟨.publish _ rfl, rfl⟩
  have hwork : ∀ x ∈ [("a", makeAndPlug "a"), ("b", makeAndPlug "b")],
      ∀ c ∈ x.2, Concerns x.1 c.request ∧ c.request.origin? = none := by
    intro x hx
    rcases List.mem_cons.1 hx with rfl | hx
    · exact hmade "a"
    · rw [List.mem_singleton.1 hx]
      exact hmade "b"
  obtain ⟨t, a, b, σ', hrun, hdisks⟩ : ∃ t a b σ',
      Interleaves (stepNumbered uidOf) (fun _ => False)
        (perVolume { ns := "infra" } [("a", makeAndPlug "a"), ("b", makeAndPlug "b")])
        emptyMachine t ([("a", a), ("b", b)].map finished) σ' ∧
      σ'.cluster.disks.get? "infra/vm" = some ["disk-b", "disk-a"] := by
    obtain ⟨t, hrun⟩ := interleaves_takeTurns (stepNumbered uidOf) (fun _ => False)
      [0, 1, 0, 1, 0, 1, 0, 1, 1, 0]
      (perVolume { ns := "infra" } [("a", makeAndPlug "a"), ("b", makeAndPlug "b")]) emptyMachine
    exact ⟨t, _, _, _, hrun, rfl⟩
  refine ⟨t, _, σ', hrun, hdisks, ?_⟩
  refine volumes_do_not_interfere uidOf { ns := "infra" }
    [("a", makeAndPlug "a"), ("b", makeAndPlug "b")] (by decide) (fun x hx c hc => (hwork x hx c hc).1)
    (fun x hx c hc name hname => ?_) _ (List.Perm.swap _ _ _) hrun
  rw [(hwork x hx c hc).2] at hname
  cases hname

end Hotplug.Controller
