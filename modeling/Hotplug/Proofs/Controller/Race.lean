import Hotplug.Proofs.Cluster.Unique
import Hotplug.Proofs.Controller.Retry

/-!
# Racing for a volume

To make a volume is to look for one of its name and to make it if there is none. Between the two
others may be faster. Then the cluster refuses to take the name again, and the request fails; it
does not take the volume of another request for its own.

## Main definitions

* `Agrees s r v` — the volume `v` is what the request `r` asks for.
* `Served s r v out` — `out` is the answer to `r` with the volume `v`.

## Main results

* `achieves_ensureVolume`, `achieves_respond` — what a request for a volume achieves among others.
* `racing_creates_agree` — **racing requests agree on one volume.**
-/

namespace Hotplug.Controller

open Cluster (interface Keeps isNamed makes stepUnique)

variable {s : Settings} {r : CreateVolume} {v : RemoteVolume} {name : String}

/-! ### Answers -/

/-- A volume is what a request asks for: it has the size, the storage class, if one is given, and
the source, which has a name, where a source without a namespace is in the volume's own. -/
structure Agrees (s : Settings) (r : CreateVolume) (v : RemoteVolume) : Prop where
  size : v.size = requestedSize r
  storageClass : storageClassOf r ≠ "" → v.storageClass = some (storageClassOf r)
  named : SourceNamed r
  source : v.source.orNamespace v.ns = (requestedSource s r).orNamespace v.ns

/-- The request was answered with the volume, which is what it asks for: with its name, its size
and, in the context, its id as serial and the bus that was asked for. -/
structure Served (s : Settings) (r : CreateVolume) (v : RemoteVolume) (out : Outcome Response) :
    Prop where
  agrees : Agrees s r v
  answer : ∃ (reply : Volume) (bus : Bus), out = { response := .volume reply } ∧ reply.id = r.name ∧
    reply.capacity = v.size ∧ reply.source = r.source ∧
    reply.context.get? serialKey = some v.uid ∧
    requestedBus r = bus.name ∧ reply.context.get? busKey = some bus.name

/-- A volume that can be used where it is wanted, and that is of the controller's namespace, is what
the request asks for. -/
theorem agrees_of_reuse {p : Plan} {source : VolumeSource} (hplan : plan r = .ok p)
    (hsource : sourceOf s r.source = .ok source) (hns : v.ns = s.ns)
    (h : Cluster.reuse s.ns (wanted s r p source) v = .ok v) : Agrees s r v := by
  obtain ⟨-, hsize, -, hclass⟩ := plan_eq_ok_iff.1 hplan
  obtain ⟨-, hsize', hclass', hsource'⟩ := Cluster.reuse_eq_ok_iff.1 h
  obtain ⟨hnamed, rfl⟩ := sourceOf_eq_ok_iff.1 hsource
  refine ⟨hsize'.trans hsize, fun hne => ?_, hnamed, ?_⟩
  · have hwanted : (wanted s r p (requestedSource s r)).storageClass = some (storageClassOf r) := by
      unfold wanted nonEmpty?
      rw [hclass, Option.filter_some, if_pos (by simpa using hne)]
    rw [hwanted] at hclass'
    exact hclass'.resolve_left (Option.some_ne_none _)
  · have hown : VolumeSource.orElse v.ns s.ns = v.ns := by
      unfold VolumeSource.orElse
      rw [hns]
      split <;> rfl
    rw [hown] at hsource'
    rw [hsource', hns]
    rfl

/-! ### What a request achieves among others -/

/-- What is known when a request to make sure of a volume ends: in a success its volume is there. -/
theorem achieves_ensureVolume (ns : String) (wanted : NewVolume) (σ : Cluster.State) :
    Achieves stepUnique (Keeps ns wanted.name)
      (fun x σ => ∀ v, x = .ok v → σ.volume? ns wanted.name = some v ∧
        Cluster.reuse ns wanted v = .ok v)
      (Cluster.ensureVolume ns wanted).run σ := by
  -- A volume that was found stays there; that there was none says nothing about what comes.
  have hlook : Achieves stepUnique (Keeps ns wanted.name)
      (fun x σ => ∀ v, x = .ok (some v) → σ.volume? ns wanted.name = some v)
      (Cluster.getVolume ns wanted.name).run σ :=
    fun σ₁ _ σ₂ hkeeps v hv => hkeeps v (Except.ok.inj hv)
  refine hlook.andThen Keeps.refl (fun found σ hfound => ?_) fun e σ v hv => by cases hv
  cases found with
  | some existing =>
    intro σ' hkeeps v hv
    obtain rfl := Cluster.reuse_eq_ok hv
    exact ⟨hkeeps v (hfound v rfl), hv⟩
  | none =>
    intro σ₁ _ σ₂ hkeeps v hv
    change (stepUnique (.createVolume ns wanted) σ₁).1 = .ok v at hv
    change Keeps ns wanted.name (stepUnique (.createVolume ns wanted) σ₁).2 σ₂ at hkeeps
    rw [stepUnique] at hv hkeeps
    cases htaken : σ₁.volume? ns wanted.name with
    | some other =>
      -- Somebody was faster.
      rw [htaken] at hv
      cases hv
    | none =>
      rw [htaken] at hv hkeeps
      cases hv
      exact ⟨hkeeps _ (Cluster.State.volume?_append htaken rfl rfl),
        Cluster.reuse_newVolume σ₁ ns wanted⟩

/-- What is known when the body of a request ends: in a success it is answered with its volume,
which is there and can be used where it is wanted. -/
theorem achieves_create (s : Settings) (r : CreateVolume) (σ : Cluster.State) :
    Achieves stepUnique (Keeps s.ns r.name)
      (fun x σ => ∀ a, x = .ok a → ∃ p source v, plan r = .ok p ∧
        sourceOf s r.source = .ok source ∧ σ.volume? s.ns r.name = some v ∧
        Cluster.reuse s.ns (wanted s r p source) v = .ok v ∧ a = volumeReply r p v)
      (create s r).run σ := by
  -- Of the checks on the way it counts only what they found, not the cluster they found it in.
  have hplanned : Achieves stepUnique (Keeps s.ns r.name) (fun x _ => plan r = x)
      (Attempt.ofExcept (plan r) : Attempt interface Plan).run σ := fun _ _ => rfl
  refine hplanned.andThen Keeps.refl (fun p σ hplan => ?_) fun _ _ => nofun
  refine (Achieves.trivial _ _).andThen Keeps.refl (fun _ σ _ => ?_) fun _ _ => nofun
  have hnamed : Achieves stepUnique (Keeps s.ns r.name) (fun x _ => sourceOf s r.source = x)
      (Attempt.ofExcept (sourceOf s r.source) : Attempt interface VolumeSource).run σ :=
    fun _ _ => rfl
  refine hnamed.andThen Keeps.refl (fun source σ hsource => ?_) fun _ _ => nofun
  refine (Achieves.trivial _ _).andThen Keeps.refl (fun _ σ _ => ?_) fun _ _ => nofun
  refine (achieves_ensureVolume s.ns (wanted s r p source) σ).andThen Keeps.refl
    (fun v σ hv => ?_) fun _ _ => nofun
  obtain ⟨hfound, hreuse⟩ := hv v rfl
  intro σ' hkeeps a ha
  cases ha
  exact ⟨p, source, v, hplan, hsource, hkeeps v hfound, hreuse, rfl⟩

/-- **A request for a volume that is served is served with the volume that is there**, and that is
what it asks for. -/
theorem achieves_respond (s : Settings) (now : Instant) (r : CreateVolume) (σ : Cluster.State) :
    Achieves stepUnique (Keeps s.ns r.name)
      (fun x σ => ∀ out, x = .ok out → ∃ v, σ.volume? s.ns r.name = some v ∧ Served s r v out)
      (respond s now (.createVolume r)).run σ := by
  have hof : Achieves stepUnique (Keeps s.ns r.name)
      (fun x σ => ∀ a, x = .ok a → ∃ v, σ.volume? s.ns r.name = some v ∧
        Served s r v { response := .volume a }) (Answering.of (create s r)).run σ := by
    refine (achieves_create s r σ).bind Keeps.refl fun x σ hx => ?_
    cases x with
    | error e => exact fun _ _ => nofun
    | ok a =>
      obtain ⟨p, source, v, hplan, hsource, hfound, hreuse, rfl⟩ := hx a rfl
      intro σ' hkeeps a' ha'
      cases ha'
      obtain ⟨-, hns, hname⟩ := Cluster.State.volume?_eq_some hfound
      have hagrees := agrees_of_reuse hplan hsource hns hreuse
      obtain ⟨-, hsize, hbus, -⟩ := plan_eq_ok_iff.1 hplan
      exact ⟨v, hkeeps v hfound, hagrees, _, p.bus, rfl, hname, hsize.trans hagrees.size.symm, rfl,
        get?_contextOf_serial p.bus v, busOf_eq_ok_iff.1 hbus, get?_contextOf_bus p.bus v⟩
  refine hof.andThen Keeps.refl (fun a σ ha σ' hkeeps out hout => ?_) fun _ _ => nofun
  obtain ⟨v, hfound, hserved⟩ := ha a rfl
  cases hout
  exact ⟨v, hkeeps v hfound, hserved⟩

/-- A request for a volume deletes none. -/
theorem asksOnly_createVolume (s : Settings) (now : Instant) (r : CreateVolume) :
    AsksOnly (fun q : Cluster.Request => q ≠ .deleteVolume s.ns name)
      (respond s now (.createVolume r)).run := by
  refine (settles_respond s now (.createVolume r)).asksOnly.mono fun q hq => ?_
  rintro rfl
  cases hq rfl

/-! ### The race -/

/-- The programs of calls that are under way at once, each with its call. -/
def underWay (s : Settings) (calls : List Call) :
    List (Call × Program interface (Except Status (Outcome Response))) :=
  calls.map fun c => (c, (respond s c.now c.request).run)

/-- **Racing requests agree on one volume.** Let any number of requests for a volume of one name be
under way at once, and let others ask the cluster for anything but to delete that volume. However
all this is interleaved, the volume is made at most once, and there is at most one volume of the
name. Any request that is served is served with the volume that is there in the end: it has the
volume's id as serial and its size as capacity, and asked for that size, for its storage class, if
for one, and for its source. So a request that asks for anything else fails. -/
theorem racing_creates_agree (s : Settings) (name : String) (calls : List Call)
    (hcalls : ∀ c ∈ calls, ∃ r, c.request = .createVolume r ∧ r.name = name)
    {σ σ' : Cluster.State} (hone : σ.volumes.countP (isNamed s.ns name) ≤ 1)
    {t : List (Exchange interface)}
    {left : List (Call × Program interface (Except Status (Outcome Response)))}
    (hrun : Interleaves stepUnique (· ≠ .deleteVolume s.ns name) (underWay s calls) σ t left σ') :
    t.countP (makes s.ns name) ≤ 1 ∧ σ'.volumes.countP (isNamed s.ns name) ≤ 1 ∧
      ∀ c out, (c, .done (.ok out)) ∈ left →
        ∃ r v, c.request = .createVolume r ∧ σ'.volume? s.ns name = some v ∧ Served s r v out := by
  have hasks : ∀ x ∈ underWay s calls,
      AsksOnly (fun q : Cluster.Request => q ≠ .deleteVolume s.ns name) x.2 := by
    intro x hx
    obtain ⟨c, hc, rfl⟩ := List.mem_map.1 hx
    obtain ⟨r, hr, -⟩ := hcalls c hc
    rw [hr]
    exact asksOnly_createVolume s c.now r
  have hkept : ∀ e ∈ t, e.request ≠ .deleteVolume s.ns name := fun e he =>
    hrun.of_mem (fun _ h => h) hasks he
  refine ⟨?_, ?_, fun c out hc => ?_⟩
  · refine Nat.le_trans (Cluster.countP_makes_le hrun.answered hkept) ?_
    split
    · exact Nat.zero_le 1
    · exact Nat.le_refl 1
  · exact hrun.answered.induction
      (P := fun σ => σ.volumes.countP (isNamed s.ns name) ≤ 1)
      (fun e _ σ h => Cluster.countP_isNamed_stepUnique e.request σ h) hone
  · -- What a request achieves alone among moves of others, it achieves in the race.
    have hachieves := hrun.achieves (R := Keeps s.ns name)
      (Q := fun c x σ => ∀ r, c.request = .createVolume r → ∀ out, x = .ok out →
        ∃ v, σ.volume? s.ns name = some v ∧ Served s r v out)
      Keeps.trans (fun q σ hq => Cluster.keeps_stepUnique q σ hq) (fun _ h => h) hasks Keeps.refl ?_
    · obtain ⟨p, hp⟩ := hrun.label_mem hc
      obtain ⟨c', hc', heq⟩ := List.mem_map.1 hp
      obtain rfl : c' = c := congrArg Prod.fst heq
      obtain ⟨r, hr, -⟩ := hcalls c' hc'
      obtain ⟨v, hv, hserved⟩ := hachieves _ hc σ' (Keeps.refl σ') r hr out rfl
      exact ⟨r, v, hr, hv, hserved⟩
    · intro x hx
      obtain ⟨c, hc, rfl⟩ := List.mem_map.1 hx
      obtain ⟨r, hr, rfl⟩ := hcalls c hc
      rw [hr]
      refine (achieves_respond s c.now r σ).mono fun x σ hx r' hr' => ?_
      cases hr'
      exact hx

/-- A request for the volume `a` of a size. -/
def sized (bytes : Int) : Call where
  now := ⟨0, 0⟩
  request := .createVolume
    { name := "a", capacity := some { required := bytes },
      capabilities := [{ access := some .block, mode := some 1 }] }

/-- Two requests for different sizes both find no volume. The first is served, the other fails. -/
theorem racing_creates_agree_sized :
    ∃ t σ' out e, Interleaves stepUnique (· ≠ .deleteVolume "infra" "a")
        (underWay { ns := "infra" } [sized 1024, sized 2048]) {} t
        [(sized 1024, .done (.ok out)), (sized 2048, .done (.error e))] σ' ∧
      t.countP (makes "infra" "a") ≤ 1 ∧
      ∃ r v, (sized 1024).request = .createVolume r ∧ σ'.volume? "infra" "a" = some v ∧
        Served { ns := "infra" } r v out := by
  have hcalls : ∀ c ∈ [sized 1024, sized 2048],
      ∃ r, c.request = .createVolume r ∧ r.name = "a" := by
    intro c hc
    rcases List.mem_cons.1 hc with rfl | hc
    · exact ⟨_, rfl, rfl⟩
    · rw [List.mem_singleton.1 hc]
      exact ⟨_, rfl, rfl⟩
  obtain ⟨t, σ', out, e, hrun⟩ : ∃ t σ' out e,
      Interleaves stepUnique (· ≠ .deleteVolume "infra" "a")
        (underWay { ns := "infra" } [sized 1024, sized 2048]) {} t
        [(sized 1024, .done (.ok out)), (sized 2048, .done (.error e))] σ' :=
    -- Both look, and then both try to make the volume.
    ⟨_, _, _, _, @Interleaves.turn _ _ _ _ _ _ [] [_] _ _ _ _ _ _ _
      (@Interleaves.turn _ _ _ _ _ _ [_] [] _ _ _ _ _ _ _
        (@Interleaves.turn _ _ _ _ _ _ [] [_] _ _ _ _ _ _ _
          (@Interleaves.turn _ _ _ _ _ _ [_] [] _ _ _ _ _ _ _ (.stop _ _))))⟩
  obtain ⟨hmade, -, hserved⟩ := racing_creates_agree { ns := "infra" } "a" [sized 1024, sized 2048]
    hcalls (by decide) hrun
  exact ⟨t, σ', out, e, hrun, hmade, hserved (sized 1024) out List.mem_cons_self⟩

end Hotplug.Controller
