import Hotplug.Proofs.Api.Document
import Hotplug.Proofs.Api.Exchange
import Hotplug.Proofs.Cluster.Memory
import Hotplug.Proofs.Quantity

/-!
# What is written to the server is read back

The objects that ask for a volume or a snapshot are written by one part of the driver and read by
another. A server that keeps such an object returns it as it was sent, with metadata added. Reading
what it returns gives the volume or the snapshot that was asked for.

## Main definitions

* `Stored sent stored` — the server returns `stored` for what was sent.
* `NewVolume.asMade ns uid v` — the volume that is made for `v`.
* `VolumeReadsBack ns v stored`, `SnapshotReadsBack ns s stored` — what is asked for is what is
  read, by the request that makes it and by later ones.

## Main results

* `ofObject_stored` — the volume that is read of an object is the one that was written.
* `written_objects_read_back` — **volumes and snapshots are read as they were written.**
-/

namespace Hotplug

open Api Http

/-- A source that is not blank names something. -/
def VolumeSource.IsNamed : VolumeSource → Prop
  | blank => True
  | snapshot _ name => name ≠ ""
  | claim _ name => name ≠ ""

/-- The volume that is made for one that is wanted. -/
def NewVolume.asMade (ns uid : String) (v : NewVolume) : RemoteVolume where
  name := v.name
  ns
  uid
  storageClass := v.storageClass
  size := v.size
  labels := v.labels
  source := v.source

namespace Api

/-- A server that keeps an object returns all the metadata that was sent, and maybe more of it, and
the same specification. -/
structure Stored (sent stored : Json) : Prop where
  metadata : ∀ key value, sent.pointer? ["metadata", key] = some value →
    stored.pointer? ["metadata", key] = some value
  spec : stored.pointer? ["spec"] = sent.pointer? ["spec"]

/-! ### The parts of an object that is kept -/

namespace Stored

variable {kind : Kind} {ns name : String} {labels : Table String} {spec stored : Json}

theorem name_eq (h : Stored (Object.named kind ns name labels spec) stored) :
    Object.name stored = name := by
  unfold Object.name Object.metaText?
  rw [h.metadata "name" (.string name) rfl]
  rfl

theorem ns_eq (h : Stored (Object.named kind ns name labels spec) stored) :
    Object.ns? stored = some ns := by
  unfold Object.ns? Object.metaText?
  rw [h.metadata "namespace" (.string ns) rfl]
  rfl

theorem labels_eq (h : Stored (Object.named kind ns name labels spec) stored) :
    Object.labels stored = labels := by
  unfold Object.labels
  rw [h.metadata "labels" (Object.ofTable labels) rfl]
  exact Object.textTable_ofTable labels

/-- Every part of the specification is kept. -/
theorem pointer_spec (h : Stored (Object.named kind ns name labels spec) stored)
    (path : List String) : stored.pointer? ("spec" :: path) = spec.pointer? path := by
  have hspec : stored.pointer? ["spec"] = some spec := h.spec
  rw [← List.singleton_append, Json.pointer?_append, hspec]
  rfl

end Stored

/-! ### Volumes -/

/-- A source is read as it was written. -/
theorem ofObject_toObject {source : VolumeSource} (h : source.IsNamed) :
    VolumeSource.ofObject source.toObject = source := by
  cases source with
  | blank => rfl
  | snapshot n name =>
    have hname : Object.textAt? ["snapshot", "name"] (VolumeSource.snapshot n name).toObject =
        some name := Object.textAt?_of_pointer rfl h
    unfold VolumeSource.ofObject
    rw [hname]
    exact congrArg (VolumeSource.snapshot · name) (Object.getD_filter_text n)
  | claim n name =>
    have hname : Object.textAt? ["pvc", "name"] (VolumeSource.claim n name).toObject =
        some name := Object.textAt?_of_pointer rfl h
    have hother : Object.textAt? ["snapshot", "name"] (VolumeSource.claim n name).toObject = none :=
      rfl
    unfold VolumeSource.ofObject
    rw [hother, hname]
    exact congrArg (VolumeSource.claim · name) (Object.getD_filter_text n)

section Volumes

variable {ns : String} {v : NewVolume} {stored : Json}

theorem storageOf_stored (h : Stored (v.toObject ns) stored) :
    RemoteVolume.storageOf stored = v.storage := by
  unfold RemoteVolume.storageOf
  rw [h.pointer_spec ["storage"]]
  rfl

/-- The size is read as it was written, by way of its digits. -/
theorem sizeOf_stored (hsize : Width.inInt64 v.size = true) (h : Stored (v.toObject ns) stored) :
    RemoteVolume.sizeOf stored = .ok v.size := by
  have htext : Object.textAt? ["resources", "requests", "storage"] v.storage =
      some (Digits.text v.size) := by
    refine Object.textAt?_of_pointer ?_ (Digits.text_ne_empty v.size)
    unfold NewVolume.storage
    cases v.storageClass <;> rfl
  unfold RemoteVolume.sizeOf
  rw [storageOf_stored h, htext]
  simp only [Quantity.parse?_text hsize]

/-- The storage class is read as it was written, also where there is none. -/
theorem storageClass_stored (hclass : v.storageClass ≠ some "") :
    Object.textAt? ["storageClassName"] v.storage = v.storageClass := by
  unfold NewVolume.storage
  cases hc : v.storageClass with
  | none => rfl
  | some storageClass =>
    refine Object.textAt?_of_pointer rfl ?_
    rintro rfl
    exact hclass hc

/-- **The volume that is read of an object is the one that was written.** -/
theorem ofObject_stored (hsize : Width.inInt64 v.size = true) (hclass : v.storageClass ≠ some "")
    (hsource : v.source.IsNamed) (h : Stored (v.toObject ns) stored) :
    RemoteVolume.ofObject stored = .ok (v.asMade ns (Object.uid stored)) := by
  have hsourceAt : stored.pointer? ["spec", "source"] = some v.source.toObject :=
    h.pointer_spec ["source"]
  unfold RemoteVolume.ofObject
  rw [sizeOf_stored hsize h]
  simp only [storageOf_stored h, storageClass_stored hclass, h.name_eq, h.ns_eq, h.labels_eq,
    hsourceAt, Option.getD_some, ofObject_toObject hsource]
  rfl

end Volumes

/-! ### Snapshots -/

/-- What is read of the object of a snapshot is what was written. -/
theorem snapshot_stored {ns : String} {s : NewSnapshot} {stored : Json}
    (h : Stored (s.toObject ns) stored) :
    (RemoteSnapshot.ofObject stored).name = s.name ∧ (RemoteSnapshot.ofObject stored).ns = ns ∧
      (RemoteSnapshot.ofObject stored).sourceVolume = s.sourceVolume ∧
      (s.snapshotClass ≠ "" →
        (RemoteSnapshot.ofObject stored).snapshotClass = some s.snapshotClass) := by
  have hsource : stored.pointer? ["spec", "source", "persistentVolumeClaimName"] =
      some (.string s.sourceVolume) := h.pointer_spec ["source", "persistentVolumeClaimName"]
  have hclass : stored.pointer? ["spec", "volumeSnapshotClassName"] =
      some (.string s.snapshotClass) := h.pointer_spec ["volumeSnapshotClassName"]
  refine ⟨h.name_eq, congrArg (·.getD "") h.ns_eq, ?_, Object.textAt?_of_pointer hclass⟩
  change (Object.textAt? _ stored).getD "" = _
  unfold Object.textAt?
  rw [hsource]
  exact Object.getD_filter_text s.sourceVolume

/-! ### Objects that are made -/

/-- Texts are written as an object of texts. -/
theorem accepts_ofTable (t : Table String) :
    (Schema.table .text).accepts (Object.ofTable t) = true := by
  unfold Object.ofTable Schema.accepts
  rw [List.all_map]
  exact List.all_eq_true.2 fun e _ => rfl

/-- What is sent has the shape that is asked of what comes back. -/
theorem accepts_named {kind : Kind} (hkind : kind.shape = Schema.custom) (ns name : String)
    (labels : Table String) {spec : Json} (hspec : spec.isReadable = true) :
    kind.shape.accepts (Object.named kind ns name labels spec) = true := by
  rw [hkind]
  simp [Schema.custom, Schema.accepts, Object.named, Schema.occurOnce, Schema.occurrences,
    Schema.membersFit, Schema.objectMeta, Schema.fields, Schema.each, Schema.isKnown, hspec,
    Json.isReadable, Json.isNull, accepts_ofTable]

theorem accepts_volume (ns : String) (v : NewVolume) :
    Kind.volume.shape.accepts (v.toObject ns) = true := by
  refine accepts_named rfl ns v.name v.labels ?_
  have hstorage : v.storage.isReadable = true := by
    unfold NewVolume.storage
    cases v.storageClass <;> rfl
  have hsource : v.source.toObject.isReadable = true := by
    cases v.source <;> rfl
  simp [Json.isReadable, Json.membersReadable, hstorage, hsource]

theorem accepts_snapshot (ns : String) (s : NewSnapshot) :
    Kind.snapshot.shape.accepts (s.toObject ns) = true :=
  accepts_named rfl ns s.name s.labels rfl

theorem onServer_createVolume {ns : String} {v : NewVolume} {place : Location}
    (hplace : Location.ofText (Kind.volume.path ns ++ "?") = .ok place) :
    onServer (Cluster.createVolume ns v).run =
      .ask ⟨.post, place, some (v.toObject ns)⟩ fun answer =>
        .done (((objectIn Kind.volume.shape answer).mapError
          (.api ("create DataVolume " ++ ns ++ "/" ++ v.name))).bind RemoteVolume.ofObject) :=
  (Program.bind_done _).trans (makeVolume_eq hplace)

theorem onServer_createSnapshot {ns : String} {s : NewSnapshot} {place : Location}
    (hplace : Location.ofText (Kind.snapshot.path ns ++ "?") = .ok place) :
    onServer (Cluster.createSnapshot ns s).run =
      .ask ⟨.post, place, some (s.toObject ns)⟩ fun answer =>
        .done (((objectIn Kind.snapshot.shape answer).mapError
          (.api ("create VolumeSnapshot " ++ ns ++ "/" ++ s.name))).bind
            fun made => .ok (RemoteSnapshot.ofObject made)) :=
  (Program.bind_done _).trans (createThen_eq hplace _ _ _)

/-! ### What is read back -/

/-- A volume is read as it was written: of the object that the server keeps, by the request that
makes it, and by whoever makes sure of it later, who sends nothing but the request that reads it. -/
structure VolumeReadsBack (ns : String) (v : NewVolume) (stored : Json) : Prop where
  /-- What is sent has the shape that is asked of what comes back. -/
  shape : Kind.volume.shape.accepts (v.toObject ns) = true
  /-- The object describes the volume. -/
  read : RemoteVolume.ofObject stored = .ok (v.asMade ns (Object.uid stored))
  /-- The request that makes it gives the volume. -/
  made : ∀ {σ : Type} (h : Handler Http.interface σ) (s : σ) (place : Location),
    Location.ofText (Kind.volume.path ns ++ "?") = .ok place →
    objectIn Kind.volume.shape (h ⟨.post, place, some (v.toObject ns)⟩ s).1 = .ok stored →
    (onServer (Cluster.createVolume ns v).run).asked h s =
        [⟨.post, place, some (v.toObject ns)⟩] ∧
      ((onServer (Cluster.createVolume ns v).run).run h s).1 =
        .ok (v.asMade ns (Object.uid stored))
  /-- Making sure of it later gives the volume, and makes none. -/
  found : ∀ {σ : Type} (h : Handler Http.interface σ) (s : σ) (place : Location),
    locationOf? .volume ns v.name = some place →
    brought .volume (h ⟨.get, place, none⟩ s).1 = .ok (some stored) →
    (onServer (Cluster.ensureVolume ns v).run).asked h s = [⟨.get, place, none⟩] ∧
      ((onServer (Cluster.ensureVolume ns v).run).run h s).1 =
        .ok (v.asMade ns (Object.uid stored))

/-- A snapshot is read as it was written: of the object that the server keeps, and by the request
that takes it. -/
structure SnapshotReadsBack (ns : String) (s : NewSnapshot) (stored : Json) : Prop where
  /-- What is sent has the shape that is asked of what comes back. -/
  shape : Kind.snapshot.shape.accepts (s.toObject ns) = true
  name : (RemoteSnapshot.ofObject stored).name = s.name
  inNamespace : (RemoteSnapshot.ofObject stored).ns = ns
  sourceVolume : (RemoteSnapshot.ofObject stored).sourceVolume = s.sourceVolume
  snapshotClass : s.snapshotClass ≠ "" →
    (RemoteSnapshot.ofObject stored).snapshotClass = some s.snapshotClass
  /-- The request that takes it gives the snapshot. -/
  taken : ∀ {σ : Type} (h : Handler Http.interface σ) (t : σ) (place : Location),
    Location.ofText (Kind.snapshot.path ns ++ "?") = .ok place →
    objectIn Kind.snapshot.shape (h ⟨.post, place, some (s.toObject ns)⟩ t).1 = .ok stored →
    (onServer (Cluster.createSnapshot ns s).run).asked h t =
        [⟨.post, place, some (s.toObject ns)⟩] ∧
      ((onServer (Cluster.createSnapshot ns s).run).run h t).1 =
        .ok (RemoteSnapshot.ofObject stored)

theorem volumeReadsBack {ns : String} {v : NewVolume} {stored : Json}
    (hsize : Width.inInt64 v.size = true) (hclass : v.storageClass ≠ some "")
    (hsource : v.source.IsNamed) (hstored : Stored (v.toObject ns) stored) :
    VolumeReadsBack ns v stored where
  shape := accepts_volume ns v
  read := ofObject_stored hsize hclass hsource hstored
  made := by
    intro σ h s place hplace hanswer
    rw [onServer_createVolume hplace, Program.asked_ask, Program.run_ask, hanswer]
    exact ⟨rfl, ofObject_stored hsize hclass hsource hstored⟩
  found := by
    intro σ h s place hplace hanswer
    have hread := ofObject_stored hsize hclass hsource hstored
    have hin : volumeIn ns v.name (h ⟨.get, place, none⟩ s).1 =
        .ok (some (v.asMade ns (Object.uid stored))) :=
      volumeIn_eq_some_iff.2 ⟨stored, hanswer, hread⟩
    -- The volume is in the namespace it was looked for in, so that its source is the one wanted.
    have hns : VolumeSource.orElse (v.asMade ns (Object.uid stored)).ns ns = ns := by
      unfold VolumeSource.orElse
      exact ite_id ..
    have hreuse : Cluster.reuse ns v (v.asMade ns (Object.uid stored)) =
        .ok (v.asMade ns (Object.uid stored)) :=
      Cluster.reuse_eq_ok_iff.2 ⟨rfl, rfl, .inr rfl, by rw [hns]; rfl⟩
    rw [onServer_ensureVolume hplace, Program.asked_ask, Program.run_ask, hin]
    exact ⟨rfl, hreuse⟩

theorem snapshotReadsBack {ns : String} {s : NewSnapshot} {stored : Json}
    (hstored : Stored (s.toObject ns) stored) : SnapshotReadsBack ns s stored := by
  obtain ⟨hname, hns, hsource, hclass⟩ := snapshot_stored hstored
  refine ⟨accepts_snapshot ns s, hname, hns, hsource, hclass, ?_⟩
  intro σ h t place hplace hanswer
  rw [onServer_createSnapshot hplace, Program.asked_ask, Program.run_ask, hanswer]
  exact ⟨rfl, rfl⟩

/-- **Volumes and snapshots are read as they were written.** A volume of any size of 64 bits, with
any labels, in no storage class or one with a name, from a source that is blank or named, and any
snapshot are found in the objects that a server keeps for them. Making the volume sends its object
and gives it, and so does making sure of it later, by one request that reads it. -/
theorem written_objects_read_back (ns : String) :
    (∀ (v : NewVolume) (stored : Json), Width.inInt64 v.size = true → v.storageClass ≠ some "" →
      v.source.IsNamed → Stored (v.toObject ns) stored → VolumeReadsBack ns v stored) ∧
    ∀ (s : NewSnapshot) (stored : Json), Stored (s.toObject ns) stored →
      SnapshotReadsBack ns s stored :=
  ⟨fun _ _ hsize hclass hsource hstored => volumeReadsBack hsize hclass hsource hstored,
    fun _ _ hstored => snapshotReadsBack hstored⟩

/-- A volume from a snapshot, in a storage class and with a label. -/
def restoredVolume : NewVolume where
  name := "pvc-1"
  size := 1024
  storageClass := some "sc"
  labels := .ofList [("app", "db")]
  source := .snapshot "" "snap-1"

/-- The object that a server keeps for it. -/
def restoredObject : Json :=
  .object [("metadata", .object [("labels", .object [("app", .string "db")]),
      ("name", .string "pvc-1"), ("namespace", .string "infra"), ("uid", .string "u1")]),
    ("spec", .object [("source", (VolumeSource.snapshot "" "snap-1").toObject),
      ("storage", restoredVolume.storage)])]

/-- A server that keeps this object, and says so whatever it is asked. -/
def restoredKeeper : Handler Http.interface Unit :=
  fun _ s => (some (telling 200 restoredObject), s)

/-- The volume is made, found again by one request, and the same both times; and so is a
snapshot. -/
theorem written_objects_read_back_restored :
    Stored (restoredVolume.toObject "infra") restoredObject ∧
      ((onServer (Cluster.createVolume "infra" restoredVolume).run).run restoredKeeper ()).1 =
        .ok (restoredVolume.asMade "infra" "u1") ∧
      (onServer (Cluster.ensureVolume "infra" restoredVolume).run).asked restoredKeeper () =
        [⟨.get, ⟨"/apis/cdi.kubevirt.io/v1beta1/namespaces/infra/datavolumes/pvc-1", []⟩, none⟩] ∧
      ((onServer (Cluster.ensureVolume "infra" restoredVolume).run).run restoredKeeper ()).1 =
        .ok (restoredVolume.asMade "infra" "u1") ∧
      (RemoteSnapshot.ofObject (NewSnapshot.toObject "infra"
        { name := "snap-2", sourceVolume := "pvc-1", snapshotClass := "daily" })).snapshotClass =
          some "daily" := by
  have hstored : Stored (restoredVolume.toObject "infra") restoredObject := by
    refine ⟨fun key value h => ?_, rfl⟩
    have huid : key ≠ "uid" := by
      rintro rfl
      cases h
    have hlabels : Object.ofTable restoredVolume.labels = .object [("app", .string "db")] := rfl
    rw [← h]
    simp only [NewVolume.toObject, Object.named, hlabels, restoredObject, Json.pointer?_cons,
      Json.last?_object]
    simp [Json.lastIn?, huid.symm, restoredVolume]
  have hbrought : objectIn Kind.volume.shape (some (telling 200 restoredObject)) =
      .ok restoredObject :=
    objectIn_telling (by decide) (by decide +kernel) (by decide +kernel) (by decide +kernel)
  have hplace : Location.ofText (Kind.volume.path "infra" ++ "?") =
      .ok ⟨"/apis/cdi.kubevirt.io/v1beta1/namespaces/infra/datavolumes", []⟩ := by
    decide +kernel
  have hlocation : locationOf? .volume "infra" "pvc-1" =
      some ⟨"/apis/cdi.kubevirt.io/v1beta1/namespaces/infra/datavolumes/pvc-1", []⟩ := by
    decide +kernel
  obtain ⟨hvolume, hsnapshot⟩ := written_objects_read_back "infra"
  have hback : VolumeReadsBack "infra" restoredVolume restoredObject :=
    hvolume _ _ (by decide) (by decide) (by decide : "snap-1" ≠ "") hstored
  obtain ⟨hasked, hfound⟩ :=
    hback.found restoredKeeper () _ hlocation (brought_eq_some_iff.2 hbrought)
  refine ⟨hstored, (hback.made restoredKeeper () _ hplace hbrought).2, hasked, hfound, ?_⟩
  exact (hsnapshot _ _ ⟨fun _ _ h => h, rfl⟩).snapshotClass (by decide)

/-! ### Names that can not be asked for -/

/-- A volume with a space in its name. -/
def spacedVolume : NewVolume where
  name := "a b"
  size := 1024

/-- The object of a server that has made it. -/
def spacedObject : Json :=
  .object [("metadata", .object [("labels", .object []), ("name", .string "a b"),
      ("namespace", .string "infra"), ("uid", .string "u1")]),
    ("spec", .object [("source", VolumeSource.blank.toObject), ("storage", spacedVolume.storage)])]

/-- The volume may be made, for its name is in what is sent and not in the place it is sent to. Yet
nothing can be asked about it, and who makes sure of it fails, whatever the server has. -/
theorem spaced_name_not_found_again :
    spacedVolume.name ≠ "" ∧ Width.inInt64 spacedVolume.size = true ∧
      spacedVolume.storageClass ≠ some "" ∧ spacedVolume.source.IsNamed ∧
      Conversation (onServer (Cluster.createVolume "infra" spacedVolume).run)
        [⟨⟨.post, ⟨"/apis/cdi.kubevirt.io/v1beta1/namespaces/infra/datavolumes", []⟩,
          some (spacedVolume.toObject "infra")⟩, some (telling 201 spacedObject)⟩]
        (.ok (spacedVolume.asMade "infra" "u1")) ∧
      onServer (Cluster.ensureVolume "infra" spacedVolume).run =
        .done (.error (.api "get DataVolume infra/a b" .unbuildable)) := by
  have hplace : Location.ofText (Kind.volume.path "infra" ++ "?") =
      .ok ⟨"/apis/cdi.kubevirt.io/v1beta1/namespaces/infra/datavolumes", []⟩ := by
    decide +kernel
  have hmade : objectIn Kind.volume.shape (some (telling 201 spacedObject)) =
      .ok spacedObject :=
    objectIn_telling (by decide) (by decide +kernel) (by decide +kernel) (by decide +kernel)
  have hread : RemoteVolume.ofObject spacedObject = .ok (spacedVolume.asMade "infra" "u1") := by
    decide +kernel
  have hlocation : locationOf? .volume "infra" spacedVolume.name = none := by
    decide +kernel
  refine ⟨by decide, by decide, by decide, trivial, ?_, onServer_ensureVolume_of_none hlocation⟩
  rw [onServer_createVolume hplace]
  refine .ask _ ?_
  rw [hmade, ← hread]
  exact .done _

end Api

end Hotplug
