import Hotplug.Proofs.Cluster.Memory
import Hotplug.Proofs.Controller.Effect
import Mathlib.Data.List.Induction

/-!
# Runs of the controller

The controller serves one call after another, each at a time of its own, on the cluster in memory.

## Main definitions

* `Call` — a request and when it came.
* `serve s c σ`, `asks s c σ` — the answer to a call with the cluster after it, and what the call
  asked of the cluster.
* `after s calls σ` — the cluster after a run of calls.
* `Shows now v entry` — what an answer says of a snapshot.

## Main results

* `serve_of_body` — what a call comes to whose answer only words what its body ends in.
* `serve_cases` — a call changes the cluster by at most one change of its own kind.
* `after_induction` — what every call keeps, every run keeps.
* `volume?_after`, `snapshot?_after` — what is not deleted is still there.
-/

namespace Hotplug.Controller

/-- A request and when it came. -/
structure Call where
  now : Instant
  request : Request

/-- The answer to a call on the cluster in memory, and the cluster after it. -/
def serve (s : Settings) (c : Call) (σ : Cluster.State) :
    Except Status (Outcome Response) × Cluster.State :=
  runOn Cluster.step (respond s c.now c.request) σ

/-- What a call asks of the cluster in memory, in order. -/
def asks (s : Settings) (c : Call) (σ : Cluster.State) : List Cluster.Request :=
  askedOn Cluster.step (respond s c.now c.request) σ

/-- The cluster after a run of calls. -/
def after (s : Settings) (calls : List Call) (σ : Cluster.State) : Cluster.State :=
  calls.foldl (fun σ c => (serve s c σ).2) σ

variable {s : Settings} {σ : Cluster.State} {c : Call} {calls : List Call} {name : String}

@[simp] theorem after_nil : after s [] σ = σ := rfl

@[simp] theorem after_cons : after s (c :: calls) σ = after s calls (serve s c σ).2 := rfl

theorem after_append (calls calls' : List Call) :
    after s (calls ++ calls') σ = after s calls' (after s calls σ) :=
  List.foldl_append

/-! ### One call -/

/-- Where a call is answered by wording what its body ends in, it does and asks what the body
does and asks, and a failure is answered by its status. -/
theorem serve_of_body {α : Type} {now : Instant} {r : Request}
    {p : Attempt Cluster.interface α} {g : α → Outcome Response}
    (h : respond s now r = Answering.of p >>= fun a => pure (g a)) (σ : Cluster.State) :
    serve s ⟨now, r⟩ σ = (((runOn Cluster.step p σ).1.mapError DriverError.status).map g,
        (runOn Cluster.step p σ).2) ∧
      asks s ⟨now, r⟩ σ = askedOn Cluster.step p σ := by
  unfold serve asks
  rw [h, runOn_andReturn, askedOn_andReturn, runOn_of, askedOn_of]
  exact ⟨rfl, rfl⟩

/-- A call leaves the cluster as it was and asks for no change, or makes one change of its own
kind. -/
theorem serve_cases (s : Settings) (c : Call) (σ : Cluster.State) :
    ((serve s c σ).2 = σ ∧ ∀ m ∈ asks s c σ, m.isMutation = false) ∨
      ∃ m, c.request.Effect s m ∧ (serve s c σ).2 = (Cluster.step m σ).2 := by
  have houtcome := (settles_respond s c.now c.request).outcome Cluster.leavesReads_step σ
  rcases houtcome with hread | ⟨m, -, -, hm, hstate, -⟩
  · exact .inl hread
  · exact .inr ⟨m, hm, hstate⟩

/-- What every change of its kind keeps, a call keeps. -/
theorem serve_of_effect {P : Cluster.State → Prop}
    (hstep : ∀ m, c.request.Effect s m → P (Cluster.step m σ).2) (h : P σ) :
    P (serve s c σ).2 := by
  rcases serve_cases s c σ with ⟨hsame, -⟩ | ⟨m, hm, hstate⟩
  · rwa [hsame]
  · rw [hstate]
    exact hstep m hm

theorem storageClasses_serve : (serve s c σ).2.storageClasses = σ.storageClasses :=
  serve_of_effect (P := fun σ' => σ'.storageClasses = σ.storageClasses)
    (fun _ _ => Cluster.storageClasses_step) rfl

theorem instances_serve : (serve s c σ).2.instances = σ.instances :=
  serve_of_effect (P := fun σ' => σ'.instances = σ.instances)
    (fun _ _ => Cluster.instances_step) rfl

/-- A volume is there after any call but one to delete it. -/
theorem volume?_serve {v : RemoteVolume} (hc : c.request ≠ .deleteVolume name)
    (hv : σ.volume? s.ns name = some v) : (serve s c σ).2.volume? s.ns name = some v := by
  refine serve_of_effect (P := fun σ' => σ'.volume? s.ns name = some v) (fun m hm => ?_) hv
  refine Cluster.volume?_step (fun heq => hc ?_) hv
  rw [heq] at hm
  generalize c.request = request at hm
  cases hm
  rfl

/-- A snapshot is there after any call but one to delete it. -/
theorem snapshot?_serve {v : RemoteSnapshot} (hc : c.request ≠ .deleteSnapshot name)
    (hv : σ.snapshot? s.ns name = some v) : (serve s c σ).2.snapshot? s.ns name = some v := by
  refine serve_of_effect (P := fun σ' => σ'.snapshot? s.ns name = some v) (fun m hm => ?_) hv
  refine Cluster.snapshot?_step (fun heq => hc ?_) hv
  rw [heq] at hm
  generalize c.request = request at hm
  cases hm
  rfl

/-! ### Runs of calls -/

/-- **What every call keeps, a run of calls keeps.** -/
theorem after_induction {P : Cluster.State → Prop}
    (hserve : ∀ c ∈ calls, ∀ σ, P σ → P (serve s c σ).2) (h : P σ) : P (after s calls σ) := by
  induction calls generalizing σ with
  | nil => exact h
  | cons c calls ih =>
    have hfirst := hserve c List.mem_cons_self σ h
    exact ih (fun c' hc' => hserve c' (List.mem_cons_of_mem c hc')) hfirst

/-- What holds before a run, and holds after each of its calls if it held before it, holds after
the run. -/
theorem prefix_induction (calls : List Call) {P : List Call → Prop} (hnil : P [])
    (hstep : ∀ before c later, calls = before ++ c :: later → P before → P (before ++ [c])) :
    P calls := by
  have hall : ∀ before later, calls = before ++ later → P before := by
    intro before
    induction before using List.reverseRecOn with
    | nil => exact fun _ _ => hnil
    | append_singleton before c ih =>
      intro later hcalls
      rw [List.append_assoc] at hcalls
      exact hstep before c later hcalls (ih _ hcalls)
  exact hall calls [] (List.append_nil calls).symm

/-- Virtual machines are fixed over a run. -/
theorem instances_after : (after s calls σ).instances = σ.instances :=
  after_induction (P := fun σ' => σ'.instances = σ.instances)
    (fun _ _ _ h => instances_serve.trans h) rfl

/-- A volume is there after a run of calls in which it is not deleted. -/
theorem volume?_after {v : RemoteVolume} (hcalls : ∀ c ∈ calls, c.request ≠ .deleteVolume name)
    (hv : σ.volume? s.ns name = some v) : (after s calls σ).volume? s.ns name = some v :=
  after_induction (P := fun σ' => σ'.volume? s.ns name = some v)
    (fun c hc _ h => volume?_serve (hcalls c hc) h) hv

/-- A snapshot is there after a run of calls in which it is not deleted. -/
theorem snapshot?_after {v : RemoteSnapshot}
    (hcalls : ∀ c ∈ calls, c.request ≠ .deleteSnapshot name)
    (hv : σ.snapshot? s.ns name = some v) : (after s calls σ).snapshot? s.ns name = some v :=
  after_induction (P := fun σ' => σ'.snapshot? s.ns name = some v)
    (fun c hc _ h => snapshot?_serve (hcalls c hc) h) hv

/-! ### Snapshots in answers -/

/-- An entry of an answer shows a snapshot: under its name, with its volume, with its size, or none
where that is not recorded, and with whether it is ready. It was taken when that is recorded, or
else at the moment of the answer. -/
structure Shows (now : Instant) (v : RemoteSnapshot) (entry : Snapshot) : Prop where
  id : entry.id = v.name
  volume : entry.sourceVolumeId = v.sourceVolume
  size : entry.size = v.size.getD 0
  ready : entry.ready = v.ready
  created : entry.created = v.created.getD now

theorem shows_snapshotReply (now : Instant) (v : RemoteSnapshot) :
    Shows now v (snapshotReply now v) where
  id := rfl
  volume := rfl
  size := rfl
  ready := rfl
  created := rfl

end Hotplug.Controller
