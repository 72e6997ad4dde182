import Hotplug.Proofs.Api.Document
import Hotplug.Proofs.Api.Exchange
import Hotplug.Proofs.Cluster.Memory

/-!
# When the object of a volume is taken for the one wanted

A volume that exists on the API server is used instead of a new one if its object has the size and
the storage class that are wanted and comes from the same source. The source of an object may be of
many kinds, of which two are told apart here: it names a snapshot, or it names a claim. Anything
else is taken for no source at all.

## Main definitions

* `sourceName? kind object`, `sourceNs kind ns object` — what an object says about a source.
* `ComesFrom ns object source` — as far as that goes, the contents come from this source.
* `Fits ns wanted object v` — the object is that of a volume `v` as it is wanted.

## Main results

* `source_eq_iff` — when the source that is read of an object is the one wanted.
* `ensureVolume_finds_iff` — **which objects are taken for the volume wanted.**
-/

namespace Hotplug.Api

open Http Cluster

/-! ### The source of an object -/

/-- The name of a snapshot or of a claim that an object has as its source. -/
def sourceName? (kind : String) (object : Json) : Option String :=
  Object.textAt? ["spec", "source", kind, "name"] object

/-- The namespace of that source: the one the source names, or the object's own, or the one it was
looked for in. -/
def sourceNs (kind ns : String) (object : Json) : String :=
  VolumeSource.orElse ((Object.textAt? ["spec", "source", kind, "namespace"] object).getD "")
    (VolumeSource.orElse ((Object.ns? object).getD "") ns)

/-- As far as it names a snapshot or a claim, an object has its contents from a source. Where it
names both, the snapshot counts. -/
def ComesFrom (ns : String) (object : Json) : VolumeSource → Prop
  | .blank => sourceName? "snapshot" object = none ∧ sourceName? "pvc" object = none
  | .snapshot n name =>
    sourceName? "snapshot" object = some name ∧
      sourceNs "snapshot" ns object = VolumeSource.orElse n ns
  | .claim n name =>
    sourceName? "snapshot" object = none ∧ sourceName? "pvc" object = some name ∧
      sourceNs "pvc" ns object = VolumeSource.orElse n ns

/-- The source that is read of an object. -/
theorem ofObject_source (object : Json) :
    VolumeSource.ofObject ((object.pointer? ["spec", "source"]).getD .null) =
      match sourceName? "snapshot" object with
      | some name =>
        .snapshot ((Object.textAt? ["spec", "source", "snapshot", "namespace"] object).getD "") name
      | none =>
        match sourceName? "pvc" object with
        | some name =>
          .claim ((Object.textAt? ["spec", "source", "pvc", "namespace"] object).getD "") name
        | none => .blank := by
  unfold VolumeSource.ofObject
  simp only [Object.textAt?_under]
  rfl

/-- **The source that is read of an object is the one wanted** exactly if the object comes from it
as far as it names a snapshot or a claim. -/
theorem source_eq_iff (ns : String) (object : Json) (source : VolumeSource) :
    (VolumeSource.ofObject ((object.pointer? ["spec", "source"]).getD .null)).orNamespace
        (VolumeSource.orElse ((Object.ns? object).getD "") ns) = source.orNamespace ns ↔
      ComesFrom ns object source := by
  rw [ofObject_source]
  cases hsnapshot : sourceName? "snapshot" object with
  | some name =>
    cases source <;> simp [ComesFrom, VolumeSource.orNamespace, sourceNs, hsnapshot, and_comm]
  | none =>
    cases hclaim : sourceName? "pvc" object with
    | some name =>
      cases source <;>
        simp [ComesFrom, VolumeSource.orNamespace, sourceNs, hsnapshot, hclaim, and_comm]
    | none =>
      cases source <;> simp [ComesFrom, VolumeSource.orNamespace, hsnapshot, hclaim]

/-! ### Volumes that are found -/

/-- The object is that of the volume `v`, which has the size, the storage class and the source that
are wanted. -/
structure Fits (ns : String) (wanted : NewVolume) (object : Json) (v : RemoteVolume) : Prop where
  volume : RemoteVolume.ofObject object = .ok v
  size : v.size = wanted.size
  storageClass : wanted.storageClass = none ∨ v.storageClass = wanted.storageClass
  source : ComesFrom ns object wanted.source

/-- The namespace and the source of a volume are those of its object. -/
theorem ofObject_eq_ok {object : Json} {v : RemoteVolume} (h : RemoteVolume.ofObject object = .ok v) :
    v.ns = (Object.ns? object).getD "" ∧
      v.source = VolumeSource.ofObject ((object.pointer? ["spec", "source"]).getD .null) := by
  unfold RemoteVolume.ofObject at h
  split at h
  · cases h
  · obtain rfl := Except.ok.inj h
    exact ⟨rfl, rfl⟩

/-- The object of a volume that exists is looked at, and taken if it fits. -/
theorem fits_iff {ns : String} {wanted : NewVolume} {object : Json} {v : RemoteVolume} :
    (∃ existing, RemoteVolume.ofObject object = .ok existing ∧ reuse ns wanted existing = .ok v) ↔
      Fits ns wanted object v := by
  constructor
  · rintro ⟨existing, hobject, hreuse⟩
    obtain ⟨rfl, hsize, hclass, hsource⟩ := reuse_eq_ok_iff.1 hreuse
    obtain ⟨hns, hsourceOf⟩ := ofObject_eq_ok hobject
    rw [hns, hsourceOf, source_eq_iff] at hsource
    exact ⟨hobject, hsize, hclass, hsource⟩
  · rintro ⟨hobject, hsize, hclass, hsource⟩
    obtain ⟨hns, hsourceOf⟩ := ofObject_eq_ok hobject
    rw [← source_eq_iff, ← hns, ← hsourceOf] at hsource
    exact ⟨v, hobject, reuse_eq_ok_iff.2 ⟨rfl, hsize, hclass, hsource⟩⟩

/-- A volume is not made without asking for it. -/
theorem post_of_makeVolume {ns : String} {wanted : NewVolume} {v : RemoteVolume}
    {t : List (Exchange Http.interface)}
    (ht : Conversation (makeVolume ns wanted).run t (.ok v)) :
    ∃ e ∈ t, e.request.method = .post := by
  cases hplace : Location.ofText (Kind.volume.path ns ++ "?") with
  | error e =>
    rw [makeVolume_of_error hplace] at ht
    obtain ⟨-, heq⟩ := conversation_done_iff.1 ht
    cases heq
  | ok location =>
    rw [makeVolume_eq hplace] at ht
    obtain ⟨answer, rest, rfl, -⟩ := conversation_ask_iff.1 ht
    exact ⟨_, List.mem_cons_self, rfl⟩

/-- **Which objects are taken for the volume wanted.** A volume is given without one being made
exactly if the server was asked for the object of that name, brought one, and the object fits: it
can be read, has the size that is wanted, has the storage class that is wanted, if one is, and comes
from the source that is wanted, as far as it names a snapshot or a claim with a name. A source of
any other kind passes for none. -/
theorem ensureVolume_finds_iff (ns : String) (wanted : NewVolume) (v : RemoteVolume)
    (t : List (Exchange Http.interface)) :
    (Conversation (onServer (ensureVolume ns wanted).run) t (.ok v) ∧
        ∀ e ∈ t, e.request.method ≠ .post) ↔
      ∃ location answer object, locationOf? .volume ns wanted.name = some location ∧
        t = [⟨⟨.get, location, none⟩, answer⟩] ∧ brought .volume answer = .ok (some object) ∧
        Fits ns wanted object v := by
  constructor
  · rintro ⟨ht, hpost⟩
    cases hlocation : locationOf? .volume ns wanted.name with
    | none =>
      rw [onServer_ensureVolume_of_none hlocation] at ht
      obtain ⟨-, heq⟩ := conversation_done_iff.1 ht
      cases heq
    | some location =>
      rw [onServer_ensureVolume hlocation] at ht
      obtain ⟨answer, rest, rfl, hrest⟩ := conversation_ask_iff.1 ht
      have hfound : ∃ existing, volumeIn ns wanted.name answer = .ok (some existing) ∧ rest = [] ∧
          reuse ns wanted existing = .ok v := by
        cases hin : volumeIn ns wanted.name answer with
        | error e =>
          rw [hin] at hrest
          obtain ⟨-, heq⟩ := conversation_done_iff.1 hrest
          cases heq
        | ok found =>
          rw [hin] at hrest
          cases found with
          | none =>
            -- A new volume is asked for with a request that makes one.
            obtain ⟨e, he, hmethod⟩ := post_of_makeVolume hrest
            exact absurd hmethod (hpost e (List.mem_cons_of_mem _ he))
          | some existing =>
            obtain ⟨rfl, heq⟩ := conversation_done_iff.1 hrest
            exact ⟨existing, rfl, rfl, heq.symm⟩
      obtain ⟨existing, hin, rfl, hreuse⟩ := hfound
      obtain ⟨object, hbrought, hobject⟩ := volumeIn_eq_some_iff.1 hin
      exact ⟨location, answer, object, rfl, rfl, hbrought, fits_iff.1 ⟨existing, hobject, hreuse⟩⟩
  · rintro ⟨location, answer, object, hlocation, rfl, hbrought, hfits⟩
    obtain ⟨existing, hobject, hreuse⟩ := fits_iff.2 hfits
    have hin : volumeIn ns wanted.name answer = .ok (some existing) :=
      volumeIn_eq_some_iff.2 ⟨object, hbrought, hobject⟩
    refine ⟨?_, fun e he => ?_⟩
    · rw [onServer_ensureVolume hlocation]
      refine .ask answer ?_
      rw [hin, ← hreuse]
      exact .done _
    · rw [List.mem_singleton.1 he]
      exact Method.noConfusion

/-- The object of a volume whose contents somebody uploads. -/
def uploadedObject : Json :=
  .object [("metadata", .object [("name", .string "pvc-1"), ("namespace", .string "infra")]),
    ("spec", .object [("source", .object [("upload", .object [])]),
      ("storage", .object [("resources", .object [("requests",
        .object [("storage", .string "1024")])])])])]

/-- The volume is taken for one that came from nowhere: a request for a volume without a source is
served with it. -/
theorem ensureVolume_finds_uploaded :
    brought .volume (some (telling 200 uploadedObject)) = .ok (some uploadedObject) ∧
      uploadedObject.pointer? ["spec", "source"] = some (.object [("upload", .object [])]) ∧
      Conversation (onServer (ensureVolume "infra" { name := "pvc-1", size := 1024 }).run)
        [⟨⟨.get, ⟨"/apis/cdi.kubevirt.io/v1beta1/namespaces/infra/datavolumes/pvc-1", []⟩, none⟩,
          some (telling 200 uploadedObject)⟩]
        (.ok { name := "pvc-1", ns := "infra", size := 1024 }) := by
  have hbrought : brought .volume (some (telling 200 uploadedObject)) =
      .ok (some uploadedObject) :=
    brought_eq_some_iff.2 (objectIn_telling (by decide) (by decide +kernel) (by decide +kernel)
      (by decide +kernel))
  have hlocation : locationOf? .volume "infra" "pvc-1" =
      some ⟨"/apis/cdi.kubevirt.io/v1beta1/namespaces/infra/datavolumes/pvc-1", []⟩ := by
    decide +kernel
  have hobject : RemoteVolume.ofObject uploadedObject =
      .ok { name := "pvc-1", ns := "infra", size := 1024 } := by
    decide +kernel
  refine ⟨hbrought, rfl, ?_⟩
  rw [onServer_ensureVolume hlocation]
  refine .ask _ ?_
  rw [volumeIn_eq_some_iff.2 ⟨_, hbrought, hobject⟩]
  exact .done _

end Hotplug.Api
