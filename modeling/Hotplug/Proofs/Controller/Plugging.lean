import Hotplug.Proofs.Cluster.Machine
import Hotplug.Proofs.Controller.Run

/-!
# Plugging and unplugging over runs

Seen from outside, the requests to plug and to unplug volumes work on a map from virtual machines to
sets of disks, and do nothing else. It does not matter how a node id is written, how often a request
comes, or in which order.

## Main definitions

* `Servable s σ r` — nothing but the machine can be in the way of a request to plug a volume.
* `PlugStep`, `PlugRun` — what a request, and a run of requests, makes of the map.
* `Needs names P r m` — the change `m` is what is missing for the request `r`.
* `Follows` — a call does to the cluster what the map says.
* `history s calls σ` — the requests of a run, and which of them were served.

## Main results

* `publish_cases`, `unpublish_cases` — how far a request gets.
* `PlugStep.preimage` — a map of disks is a map of volumes.
* `follows_serve`, `plugRun_after` — a call, and a run of calls, follows the map.
* `plugging_refines_map` — **plugging and unplugging refine a map from machines to sets of
  volumes.**
-/

namespace Hotplug.Controller

open Cluster (Denotes DistinctHardwareIds Plugs courseOn leavesReads_step attach)

variable {s : Settings} {σ : Cluster.State}

/-! ### How far a request gets -/

/-- Nothing but the machine can be in the way of a request to plug a volume: its arguments are
there, its volume exists, and its context brings no bus or one that there is. -/
structure Servable (s : Settings) (σ : Cluster.State) (r : PublishVolume) : Prop where
  named : r.volumeId ≠ ""
  capability : r.capability ≠ none
  volume : ∃ v, σ.volume? s.ns r.volumeId = some v
  bus : ∃ b, busOf busKey r.context = .ok b

theorem checkPublish_eq_ok_iff {r : PublishVolume} :
    checkPublish r = .ok () ↔ r.volumeId ≠ "" ∧ r.capability ≠ none := by
  unfold checkPublish
  by_cases hid : r.volumeId = ""
  · simp [hid]
  · cases hcap : r.capability with
    | none => simp [hid]
    | some c => simp [hid]

/-- Plugs a volume into a machine that was found. -/
def publishTo (s : Settings) (r : PublishVolume) (vm : InstanceRef) :
    Attempt Cluster.interface Unit := do
  let v ← Attempt.orFail (.notFound "DataVolume" r.volumeId) (← Cluster.getVolume s.ns r.volumeId)
  let attachment ← Attempt.ofExcept (attachmentOf r v)
  attach vm attachment

theorem publish_eq (s : Settings) (r : PublishVolume) :
    publish s r = (do
      Attempt.ofExcept (checkPublish r)
      let vm ← Cluster.resolveInstance s.ns r.nodeId
      publishTo s r vm) := rfl

/-- A volume is plugged in if it exists and can be attached. -/
theorem publishTo_cases (s : Settings) (σ : Cluster.State) (r : PublishVolume) (vm : InstanceRef) :
    ((¬ ∃ v a, σ.volume? s.ns r.volumeId = some v ∧ attachmentOf r v = .ok a) ∧
        ∃ e, courseOn Cluster.step (publishTo s r vm) σ = ((.error e, σ), [])) ∨
      ∃ v a, σ.volume? s.ns r.volumeId = some v ∧ attachmentOf r v = .ok a ∧
        courseOn Cluster.step (publishTo s r vm) σ = courseOn Cluster.step (attach vm a) σ := by
  have hlooked : courseOn Cluster.step (publishTo s r vm) σ = _ :=
    Cluster.courseOn_bind_ok leavesReads_step (.callRead rfl) rfl
  cases hv : σ.volume? s.ns r.volumeId with
  | none =>
    have hmissing := runOn_orFail_of_eq Cluster.step σ (.notFound "DataVolume" r.volumeId) hv
    refine .inl ⟨?_, _, hlooked.trans
      (Cluster.courseOn_bind_error leavesReads_step (.orFail _ _) hmissing)⟩
    rintro ⟨v, a, hsome, -⟩
    cases hsome
  | some v =>
    have hfound := hlooked.trans (Cluster.courseOn_bind_ok leavesReads_step (.orFail _ _)
      (runOn_orFail_of_eq Cluster.step σ (.notFound "DataVolume" r.volumeId) hv))
    cases ha : attachmentOf r v with
    | error e =>
      refine .inl ⟨?_, e, hfound.trans (Cluster.courseOn_bind_error leavesReads_step (.ofExcept _)
        (runOn_ofExcept_of_eq _ _ ha))⟩
      rintro ⟨v', a, hsome, hattached⟩
      obtain rfl := Option.some.inj hsome
      rw [ha] at hattached
      cases hattached
    | ok a =>
      exact .inr ⟨v, a, rfl, ha, hfound.trans (Cluster.courseOn_bind_ok leavesReads_step
        (.ofExcept _) (runOn_ofExcept_of_eq _ _ ha))⟩

/-- What can be served can be attached. -/
theorem Servable.exists_attachment {r : PublishVolume} (h : Servable s σ r) :
    ∃ v a, σ.volume? s.ns r.volumeId = some v ∧ attachmentOf r v = .ok a := by
  obtain ⟨v, hv⟩ := h.volume
  obtain ⟨bus, hbus⟩ := h.bus
  exact ⟨v, _, hv, attachmentOf_eq_ok_iff.2 ⟨bus, hbus, rfl⟩⟩

/-- **A request to plug a volume gets to its machine, or it fails and changes nothing.** -/
theorem publish_cases (s : Settings) (σ : Cluster.State) (r : PublishVolume) :
    (¬ (Servable s σ r ∧ ∃ vm, Denotes σ.instances s.ns r.nodeId vm) ∧
        ∃ e, courseOn Cluster.step (publish s r) σ = ((.error e, σ), [])) ∨
      ∃ vm v a, Servable s σ r ∧ Denotes σ.instances s.ns r.nodeId vm ∧
        σ.volume? s.ns r.volumeId = some v ∧ attachmentOf r v = .ok a ∧
          courseOn Cluster.step (publish s r) σ = courseOn Cluster.step (attach vm a) σ := by
  rw [publish_eq]
  cases hcheck : checkPublish r with
  | error e =>
    refine .inl ⟨fun ⟨h, _⟩ => ?_, e,
      Cluster.courseOn_bind_error leavesReads_step (.ofExcept _) rfl⟩
    rw [checkPublish_eq_ok_iff.2 ⟨h.named, h.capability⟩] at hcheck
    cases hcheck
  | ok u =>
    obtain ⟨hnamed, hcap⟩ := checkPublish_eq_ok_iff.1 hcheck
    rw [Cluster.courseOn_bind_ok leavesReads_step (.ofExcept _) rfl]
    have hreads := Cluster.readsOnly_resolveInstance s.ns r.nodeId
    -- The arguments are in order, so the machine is looked for.
    rcases Cluster.resolveInstance_cases σ s.ns r.nodeId with
      ⟨vm, hvm, hresolved⟩ | ⟨hunknown, e, hfailed, -⟩
    · rw [Cluster.courseOn_bind_ok leavesReads_step hreads hresolved]
      rcases publishTo_cases s σ r vm with ⟨hno, hrefused⟩ | ⟨v, a, hv, ha, hcourse⟩
      · exact .inl ⟨fun ⟨h, _⟩ => hno h.exists_attachment, hrefused⟩
      · obtain ⟨bus, hbus, -⟩ := attachmentOf_eq_ok_iff.1 ha
        exact .inr ⟨vm, v, a, ⟨hnamed, hcap, ⟨v, hv⟩, ⟨bus, hbus⟩⟩, hvm, hv, ha, hcourse⟩
    · refine .inl ⟨fun ⟨_, vm, hvm⟩ => hunknown vm hvm, e, ?_⟩
      exact Cluster.courseOn_bind_error leavesReads_step hreads hfailed

/-- **A request to unplug a volume is refused, finds no machine, or gets to its machine.** -/
theorem unpublish_cases (s : Settings) (σ : Cluster.State) (r : UnpublishVolume) :
    ((r.volumeId = "" ∨ r.nodeId = "") ∧
        ∃ e, courseOn Cluster.step (unpublish s r) σ = ((.error e, σ), [])) ∨
      (r.volumeId ≠ "" ∧ r.nodeId ≠ "" ∧ (∀ vm, ¬ Denotes σ.instances s.ns r.nodeId vm) ∧
        courseOn Cluster.step (unpublish s r) σ = ((.ok false, σ), [])) ∨
      ∃ vm, r.volumeId ≠ "" ∧ Denotes σ.instances s.ns r.nodeId vm ∧
        courseOn Cluster.step (unpublish s r) σ =
          courseOn Cluster.step
            (Cluster.detach vm (diskName r.volumeId) >>= fun _ => pure true) σ := by
  unfold unpublish
  by_cases hid : r.volumeId = ""
  · rw [if_pos (by simpa using hid)]
    exact .inl ⟨.inl hid, .invalidArgument "volume id is required", rfl⟩
  · rw [if_neg (by simpa using hid)]
    have hreads : Cluster.ReadsOnly (instance? s r.nodeId).run :=
      .orMissing (.andReturn (Cluster.readsOnly_resolveInstance _ _) some) (.pure none)
    have hfind : runOn Cluster.step (instance? s r.nodeId) σ = _ := runOn_orMissing _ _ _ _
    rw [runOn_andReturn] at hfind
    rcases Cluster.resolveInstance_cases σ s.ns r.nodeId with
      ⟨vm, hvm, hresolved⟩ | ⟨hunknown, e, hfailed, hwhy⟩
    · rw [hresolved] at hfind
      exact .inr (.inr ⟨vm, hid, hvm, Cluster.courseOn_bind_ok leavesReads_step hreads hfind⟩)
    · rw [hfailed] at hfind
      rcases hwhy with ⟨hempty, text, rfl⟩ | ⟨hne, kind, name, rfl⟩
      · exact .inl ⟨.inr hempty, _, Cluster.courseOn_bind_error leavesReads_step hreads hfind⟩
      · -- A machine that does not exist has nothing plugged in.
        exact .inr (.inl ⟨hid, hne, hunknown,
          Cluster.courseOn_bind_ok leavesReads_step hreads hfind⟩)

/-! ### The map of what is plugged in -/

/-- The requests to plug a volume and to unplug one. -/
inductive Plugging : Request → Prop where
  | publish (r : PublishVolume) : Plugging (.publishVolume r)
  | unpublish (r : UnpublishVolume) : Plugging (.unpublishVolume r)

section Map

variable {ι : Type} (names : String → InstanceRef → Prop) (fit : PublishVolume → Prop)
  (item : String → ι)

/-- What a request makes of the map from machines to what is plugged in, and whether it is served.
It is given which machines the node ids name, which requests to plug are fit to be served, and what
a volume is plugged in as. -/
inductive PlugStep (P : Plugs ι) : Request → Bool → Plugs ι → Prop where
  /-- A fit request to plug a volume into a machine that exists puts it there. -/
  | plugged {r : PublishVolume} {vm : InstanceRef} (hfit : fit r) (hvm : names r.nodeId vm)
      (hexists : P vm.toText ≠ none) :
      PlugStep P (.publishVolume r) true (P.change vm (insert (item r.volumeId)))
  /-- Any other request to plug a volume fails. -/
  | notPlugged {r : PublishVolume}
      (h : ¬ (fit r ∧ ∃ vm, names r.nodeId vm ∧ P vm.toText ≠ none)) :
      PlugStep P (.publishVolume r) false P
  /-- A request to unplug a volume from a machine that exists removes it there. -/
  | unplugged {r : UnpublishVolume} {vm : InstanceRef} (hid : r.volumeId ≠ "")
      (hvm : names r.nodeId vm) (hexists : P vm.toText ≠ none) :
      PlugStep P (.unpublishVolume r) true (P.change vm (· \ {item r.volumeId}))
  /-- From a machine that does not exist a volume is unplugged already. -/
  | gone {r : UnpublishVolume} (hid : r.volumeId ≠ "") (hnode : r.nodeId ≠ "")
      (h : ∀ vm, names r.nodeId vm → P vm.toText = none) : PlugStep P (.unpublishVolume r) true P
  /-- Both ids must be given. -/
  | refused {r : UnpublishVolume} (h : r.volumeId = "" ∨ r.nodeId = "") :
      PlugStep P (.unpublishVolume r) false P

/-- What a run of requests makes of the map, where it is known which of them were served. -/
inductive PlugRun : Plugs ι → List (Request × Bool) → Plugs ι → Prop where
  | nil (P : Plugs ι) : PlugRun P [] P
  | cons {P P' P'' : Plugs ι} {r : Request} {ok : Bool} {rest : List (Request × Bool)}
      (first : PlugStep names fit item P r ok P') (later : PlugRun P' rest P'') :
      PlugRun P ((r, ok) :: rest) P''

variable {names fit item} {P P' : Plugs ι} {r : Request} {ok : Bool}
  {rest : List (Request × Bool)}

/-- What is true of what volumes are plugged in as is true of the volumes, if no two are plugged in
as the same. -/
theorem PlugStep.preimage (hitem : Function.Injective item)
    (h : PlugStep names fit item P r ok P') :
    PlugStep names fit id (P.preimage item) r ok (P'.preimage item) := by
  have hexists : ∀ {m}, P.preimage item m ≠ none ↔ P m ≠ none := by
    intro m
    rw [Plugs.preimage_apply, ne_eq, Option.map_eq_none_iff]
  cases h with
  | @plugged r vm hfit hvm hP =>
    have hinsert : ∀ S : Set ι, Set.preimage item (insert (item r.volumeId) S) =
        insert (id r.volumeId) (Set.preimage item S) := by
      intro S
      ext v
      simp [hitem.eq_iff]
    rw [Plugs.preimage_change hinsert]
    exact .plugged hfit hvm (hexists.2 hP)
  | notPlugged hno =>
    refine .notPlugged fun ⟨hfit, vm, hvm, hP⟩ => hno ⟨hfit, vm, hvm, hexists.1 hP⟩
  | @unplugged r vm hid hvm hP =>
    have hremove : ∀ S : Set ι, Set.preimage item (S \ {item r.volumeId}) =
        Set.preimage item S \ {id r.volumeId} := by
      intro S
      ext v
      simp [hitem.eq_iff]
    rw [Plugs.preimage_change (g := (· \ {id r.volumeId})) hremove]
    exact .unplugged hid hvm (hexists.2 hP)
  | gone hid hnode hnone =>
    refine .gone hid hnode fun vm hvm => ?_
    rw [Plugs.preimage_apply, hnone vm hvm]
    rfl
  | refused hempty => exact .refused hempty

theorem PlugRun.preimage (hitem : Function.Injective item)
    (h : PlugRun names fit item P rest P') :
    PlugRun names fit id (P.preimage item) rest (P'.preimage item) := by
  induction h with
  | nil P => exact .nil _
  | cons first _ ih => exact .cons (first.preimage hitem) ih

/-- The changes that are missing for a request: to add the disk of the volume where it is absent, or
to remove it where it is present. -/
inductive Needs (names : String → InstanceRef → Prop) (P : Plugs String) :
    Request → Cluster.Request → Prop where
  | add {r : PublishVolume} {vm : InstanceRef} {a : Attachment} {disks : Set String}
      (hvm : names r.nodeId vm) (ha : a.disk = diskName r.volumeId)
      (hdisks : P vm.toText = some disks) (habsent : diskName r.volumeId ∉ disks) :
      Needs names P (.publishVolume r) (.addDisk vm a)
  | remove {r : UnpublishVolume} {vm : InstanceRef} {disks : Set String}
      (hvm : names r.nodeId vm) (hdisks : P vm.toText = some disks)
      (hpresent : diskName r.volumeId ∈ disks) :
      Needs names P (.unpublishVolume r) (.removeDisk vm (diskName r.volumeId))

end Map

/-! ### One call -/

/-- A call follows the map: nothing but disks changes, these do as the map says, and a change is
asked for only if it is missing. -/
structure Follows (s : Settings) (σ : Cluster.State) (r : Request) (ok : Bool) (σ' : Cluster.State)
    (changes : List Cluster.Request) : Prop where
  frame : σ' = { σ with disks := σ'.disks }
  step : PlugStep (Denotes σ.instances s.ns) (Servable s σ) diskName σ.plugs r ok σ'.plugs
  needed : ∀ m ∈ changes, Needs (Denotes σ.instances s.ns) σ.plugs r m

theorem follows_publish (hdistinct : DistinctHardwareIds σ.instances) (s : Settings)
    (r : PublishVolume) :
    Follows s σ (.publishVolume r) (runOn Cluster.step (publish s r) σ).1.isOk
      (runOn Cluster.step (publish s r) σ).2 (courseOn Cluster.step (publish s r) σ).2 := by
  -- What a run comes to contains all that is to be looked at.
  suffices hall : ∀ x, courseOn Cluster.step (publish s r) σ = x →
      Follows s σ (.publishVolume r) x.1.1.isOk x.1.2 x.2 from hall _ rfl
  rintro x rfl
  rcases publish_cases s σ r with ⟨hno, e, hcourse⟩ | ⟨vm, v, a, hfit, hvm, -, ha, hcourse⟩
  · rw [hcourse]
    refine ⟨rfl, .notPlugged fun ⟨hfit, vm, hvm, _⟩ => hno ⟨hfit, vm, hvm⟩, by simp⟩
  · have hdisk := attachmentOf_disk ha
    rw [hcourse]
    cases hdisks : σ.disks.get? vm.toText with
    | none =>
      rw [Cluster.attach_of_none hdisks]
      -- The node id names a machine that does not exist, and it names no other.
      refine ⟨rfl, .notPlugged ?_, by simp⟩
      rintro ⟨-, vm', hvm', hexists⟩
      rw [← hvm.unique hdistinct hvm'] at hexists
      exact hexists (Cluster.plugs_eq_none_iff.2 hdisks)
    | some disks =>
      have hplugs := Cluster.plugs_of_some hdisks
      have hexists := Cluster.plugs_ne_none hdisks
      have hstep : PlugStep (Denotes σ.instances s.ns) (Servable s σ) diskName σ.plugs
          (.publishVolume r) true (σ.plugs.change vm (insert (diskName r.volumeId))) :=
        .plugged hfit hvm hexists
      rw [← hdisk] at hstep
      by_cases hmem : a.disk ∈ disks
      · rw [Cluster.attach_of_mem hdisks hmem]
        rw [Plugs.change_insert hplugs hmem] at hstep
        exact ⟨rfl, hstep, by simp⟩
      · rw [Cluster.attach_of_not_mem hdisks hmem]
        refine ⟨Cluster.frame_addDisk, ?_, fun m hm => ?_⟩
        · rwa [← Cluster.plugs_addDisk] at hstep
        · rw [List.mem_singleton.1 hm]
          exact .add hvm hdisk hplugs (by rwa [← hdisk])

theorem follows_unpublish (hdistinct : DistinctHardwareIds σ.instances) (s : Settings)
    (r : UnpublishVolume) :
    Follows s σ (.unpublishVolume r) (runOn Cluster.step (unpublish s r) σ).1.isOk
      (runOn Cluster.step (unpublish s r) σ).2 (courseOn Cluster.step (unpublish s r) σ).2 := by
  suffices hall : ∀ x, courseOn Cluster.step (unpublish s r) σ = x →
      Follows s σ (.unpublishVolume r) x.1.1.isOk x.1.2 x.2 from hall _ rfl
  rintro x rfl
  rcases unpublish_cases s σ r with
    ⟨hempty, e, hcourse⟩ | ⟨hid, hnode, hunknown, hcourse⟩ | ⟨vm, hid, hvm, hcourse⟩
  · rw [hcourse]
    exact ⟨rfl, .refused hempty, by simp⟩
  · rw [hcourse]
    exact ⟨rfl, .gone hid hnode fun vm hvm => absurd hvm (hunknown vm), by simp⟩
  · rw [hcourse, Cluster.courseOn_andReturn]
    cases hdisks : σ.disks.get? vm.toText with
    | none =>
      rw [Cluster.detach_of_not_mem (by simp [hdisks])]
      refine ⟨rfl, .gone hid hvm.ne_empty fun vm' hvm' => ?_, by simp⟩
      rw [← hvm.unique hdistinct hvm']
      exact Cluster.plugs_eq_none_iff.2 hdisks
    | some disks =>
      have hplugs := Cluster.plugs_of_some hdisks
      have hexists := Cluster.plugs_ne_none hdisks
      have hstep : PlugStep (Denotes σ.instances s.ns) (Servable s σ) diskName σ.plugs
          (.unpublishVolume r) true (σ.plugs.change vm (· \ {diskName r.volumeId})) :=
        .unplugged hid hvm hexists
      by_cases hmem : diskName r.volumeId ∈ disks
      · rw [Cluster.detach_of_mem hdisks hmem]
        refine ⟨Cluster.frame_removeDisk, ?_, fun m hm => ?_⟩
        · rwa [← Cluster.plugs_removeDisk] at hstep
        · rw [List.mem_singleton.1 hm]
          exact .remove hvm hplugs hmem
      · rw [Cluster.detach_of_not_mem (by rwa [hdisks])]
        rw [Plugs.change_remove hplugs hmem] at hstep
        exact ⟨rfl, hstep, by simp⟩

/-- Where a request is answered by wording what its body ends in, the body decides whether it is
served, and what it changes. -/
theorem course_of_body {α : Type} {now : Instant} {r : Request}
    {p : Attempt Cluster.interface α} {g : α → Outcome Response}
    (h : respond s now r = Answering.of p >>= fun a => pure (g a)) :
    (serve s ⟨now, r⟩ σ).1.isOk = (runOn Cluster.step p σ).1.isOk ∧
      (serve s ⟨now, r⟩ σ).2 = (runOn Cluster.step p σ).2 ∧
      (asks s ⟨now, r⟩ σ).filter (·.isMutation) = (courseOn Cluster.step p σ).2 := by
  obtain ⟨hserved, hasked⟩ := serve_of_body h σ
  rw [hserved, hasked]
  refine ⟨?_, rfl, rfl⟩
  cases (runOn Cluster.step p σ).1 <;> rfl

theorem course_publishVolume (s : Settings) (r : PublishVolume) (now : Instant)
    (σ : Cluster.State) :
    (serve s ⟨now, .publishVolume r⟩ σ).1.isOk = (runOn Cluster.step (publish s r) σ).1.isOk ∧
      (serve s ⟨now, .publishVolume r⟩ σ).2 = (runOn Cluster.step (publish s r) σ).2 ∧
      (asks s ⟨now, .publishVolume r⟩ σ).filter (·.isMutation) =
        (courseOn Cluster.step (publish s r) σ).2 :=
  course_of_body (g := fun _ => { response := .published, events := [.attached] }) rfl

theorem course_unpublishVolume (s : Settings) (r : UnpublishVolume) (now : Instant)
    (σ : Cluster.State) :
    (serve s ⟨now, .unpublishVolume r⟩ σ).1.isOk = (runOn Cluster.step (unpublish s r) σ).1.isOk ∧
      (serve s ⟨now, .unpublishVolume r⟩ σ).2 = (runOn Cluster.step (unpublish s r) σ).2 ∧
      (asks s ⟨now, .unpublishVolume r⟩ σ).filter (·.isMutation) =
        (courseOn Cluster.step (unpublish s r) σ).2 :=
  course_of_body
    (g := fun found => { response := .unpublished, events := if found then [.detached] else [] })
    rfl

/-- **A call to plug a volume or to unplug one follows the map.** -/
theorem follows_serve (hdistinct : DistinctHardwareIds σ.instances) (s : Settings) {c : Call}
    (hc : Plugging c.request) :
    Follows s σ c.request (serve s c σ).1.isOk (serve s c σ).2
      ((asks s c σ).filter (·.isMutation)) := by
  obtain ⟨now, request⟩ := c
  cases hc with
  | publish r =>
    obtain ⟨hok, hstate, hchanges⟩ := course_publishVolume s r now σ
    rw [hok, hstate, hchanges]
    exact follows_publish hdistinct s r
  | unpublish r =>
    obtain ⟨hok, hstate, hchanges⟩ := course_unpublishVolume s r now σ
    rw [hok, hstate, hchanges]
    exact follows_unpublish hdistinct s r

/-! ### Runs of calls -/

/-- The requests of a run of calls, and which of them were served. -/
def history (s : Settings) : List Call → Cluster.State → List (Request × Bool)
  | [], _ => []
  | c :: calls, σ => (c.request, (serve s c σ).1.isOk) :: history s calls (serve s c σ).2

/-- Which requests are fit to be served does not depend on the disks. -/
theorem servable_disks (disks : Table (List String)) :
    Servable s { σ with disks := disks } = Servable s σ := by
  funext r
  exact propext ⟨fun h => ⟨h.named, h.capability, h.volume, h.bus⟩,
    fun h => ⟨h.named, h.capability, h.volume, h.bus⟩⟩

/-- A run of calls changes nothing but disks, and these as the map says. -/
theorem plugRun_after (hdistinct : DistinctHardwareIds σ.instances) {calls : List Call}
    (hcalls : ∀ c ∈ calls, Plugging c.request) :
    after s calls σ = { σ with disks := (after s calls σ).disks } ∧
      PlugRun (Denotes σ.instances s.ns) (Servable s σ) diskName σ.plugs (history s calls σ)
        (after s calls σ).plugs := by
  induction calls generalizing σ with
  | nil => exact ⟨rfl, .nil _⟩
  | cons c calls ih =>
    obtain ⟨hframe, hstep, -⟩ := follows_serve hdistinct s (hcalls c List.mem_cons_self)
    have hrest : ∀ c ∈ calls, Plugging c.request := fun c' hc' =>
      hcalls c' (List.mem_cons_of_mem c hc')
    have hinstances : (serve s c σ).2.instances = σ.instances := by rw [hframe]
    have hservable : Servable s (serve s c σ).2 = Servable s σ := by
      rw [hframe]
      exact servable_disks _
    -- The rest of the run starts from a cluster with the same machines and volumes.
    obtain ⟨hlater, hrun⟩ := ih (hinstances.symm ▸ hdistinct) hrest
    rw [hinstances, hservable] at hrun
    refine ⟨?_, .cons hstep hrun⟩
    rw [after_cons]
    generalize (after s calls (serve s c σ).2) = σ'' at hlater ⊢
    rw [hlater]
    generalize (serve s c σ).2 = σ' at hframe ⊢
    rw [hframe]

/-- **Plugging and unplugging refine a map from machines to sets of volumes.** Where no two running
machines share a hardware id, a run of requests to plug and to unplug volumes changes nothing but
disks. These change as in a map that has a set of disks for each machine: a request that is served
puts the disk of its volume into the set of the machine that its node id leads to, or removes it
there, and any other request leaves the map alone. The same is true of the map that has sets of
volumes, as no two volumes have the same disk. And at any time the cluster is asked to add a disk
only where it is absent, and to remove one only where it is present. -/
theorem plugging_refines_map (s : Settings) (σ : Cluster.State)
    (hdistinct : DistinctHardwareIds σ.instances) (calls : List Call)
    (hcalls : ∀ c ∈ calls, Plugging c.request) :
    let σ' := after s calls σ
    let names := Denotes σ.instances s.ns
    σ' = { σ with disks := σ'.disks } ∧
      PlugRun names (Servable s σ) diskName σ.plugs (history s calls σ) σ'.plugs ∧
      PlugRun names (Servable s σ) id (σ.plugs.preimage diskName) (history s calls σ)
        (σ'.plugs.preimage diskName) ∧
      (∀ c, Plugging c.request → ∀ m ∈ asks s c σ', m.isMutation = true →
        Needs names σ'.plugs c.request m) ∧
      ∀ nodeId vm vm', names nodeId vm → names nodeId vm' → vm = vm' := by
  intro σ' names
  obtain ⟨hframe, hrun⟩ := plugRun_after hdistinct hcalls
  have hinstances : σ'.instances = σ.instances := by
    unfold σ'
    rw [hframe]
  refine ⟨hframe, hrun, hrun.preimage diskName_injective, fun c hc m hm hmut => ?_,
    fun nodeId vm vm' => Denotes.unique hdistinct⟩
  have hfollows := follows_serve (σ := σ') (hinstances.symm ▸ hdistinct) s hc
  have hneeded := hfollows.needed m (List.mem_filter.2 ⟨hm, hmut⟩)
  rwa [hinstances] at hneeded

/-- A cluster with one volume, and one virtual machine that has a disk of its own. -/
def oneMachine : Cluster.State where
  volumes := [{ name := "a", ns := "infra", uid := "uid-1", size := 1024 }]
  instances := [⟨"infra", "vm", some "AB-1"⟩]
  disks := Table.ofList [("infra/vm", ["root"])]

/-- The volume is plugged into the machine twice and unplugged once, under three names of the
machine. -/
def pluggedTwice : List Call :=
  [⟨⟨0, 0⟩, .publishVolume
      { volumeId := "a", nodeId := "infra/vm", capability := some ⟨some .block, some 1⟩ }⟩,
    ⟨⟨1, 0⟩, .publishVolume
      { volumeId := "a", nodeId := "ab-1", capability := some ⟨some .block, some 1⟩ }⟩,
    ⟨⟨2, 0⟩, .unpublishVolume { volumeId := "a", nodeId := "Ab-1" }⟩]

theorem plugging_refines_map_pluggedTwice :
    DistinctHardwareIds oneMachine.instances ∧ (∀ c ∈ pluggedTwice, Plugging c.request) ∧
      (history { ns := "infra" } pluggedTwice oneMachine).map (·.2) = [true, true, true] ∧
        PlugRun (Denotes oneMachine.instances "infra") (Servable { ns := "infra" } oneMachine) id
          (oneMachine.plugs.preimage diskName) (history { ns := "infra" } pluggedTwice oneMachine)
          ((after { ns := "infra" } pluggedTwice oneMachine).plugs.preimage diskName) := by
  have hdistinct : DistinctHardwareIds oneMachine.instances := by
    intro i hi j hj a b _ _ _
    rw [List.mem_singleton.1 hi, List.mem_singleton.1 hj]
  have hcalls : ∀ c ∈ pluggedTwice, Plugging c.request := by
    intro c hc
    rcases List.mem_cons.1 hc with rfl | hc
    · exact .publish _
    · rcases List.mem_cons.1 hc with rfl | hc
      · exact .publish _
      · rw [List.mem_singleton.1 hc]
        exact .unpublish _
  obtain ⟨-, -, hvolumes, -⟩ :=
    plugging_refines_map { ns := "infra" } oneMachine hdistinct pluggedTwice hcalls
  exact ⟨hdistinct, hcalls, rfl, hvolumes⟩

end Hotplug.Controller
