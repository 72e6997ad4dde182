import Hotplug.Cluster.Memory
import Hotplug.Proofs.Cluster.SnapshotClass
import Hotplug.Proofs.Controller.Effect

/-!
# The policy on snapshots

Snapshots are taken only with classes that the policy lets through, but for one gap: a mapping that
lists the empty text, and nothing else, grants that text as the name of a class, and as a name it
stands for the default of the provisioner, which nobody checks any more.

## Main definitions

* `SourceClass s r t c` — in the conversation `t`, the volume to be snapshotted was found to be of
  the storage class `c`.

## Main results

* `exists_choice_of_createSnapshot` — a snapshot is only ever asked for with a class that was chosen
  for the storage class of its source.
* `snapshotClass_permitted_iff` — **exactly when the policy on snapshots is kept.**
* `snapshotClass_bypasses_policy` — a policy and a cluster for which it is not.
-/

namespace Hotplug.Controller

open Cluster (interface FindsByName Founded ReadsOnly Settles)

/-- In a conversation, the volume that is to be snapshotted was found to be of a storage class. -/
def SourceClass (s : Settings) (r : CreateSnapshot) (t : List (Exchange interface))
    (storageClass : String) : Prop :=
  ∃ part, part <:+: t ∧
    Conversation (Cluster.storageClassForClaim s.ns r.sourceVolumeId).run part (.ok storageClass)

/-- The snapshot class that a request names, empty for none. -/
def requestedClass (r : CreateSnapshot) : String :=
  (r.parameters.get? snapshotClassParameter).getD ""

/-- An answer is worded after the body of the request has come to its end. -/
theorem conversation_answer {α β : Type} {p : Attempt interface α} {g : α → β}
    {t : List (Exchange interface)} {b : Except Status β}
    (h : Conversation (Answering.of p >>= fun a => pure (g a) : Answering interface β).run t b) :
    ∃ x, Conversation p.run t x := by
  obtain ⟨y, hof, -⟩ := conversation_andReturn_iff.1 h
  obtain ⟨x, hp, -⟩ := conversation_of_iff.1 hof
  exact ⟨x, hp⟩

/-- A snapshot is only ever asked for at the end, with the class that was chosen for the storage
class of its source. -/
theorem exists_choice_of_createSnapshot {s : Settings} {r : CreateSnapshot}
    {t : List (Exchange interface)} {y : Except DriverError RemoteSnapshot}
    (h : Conversation (takeSnapshot s r).run t y) {ns : String} {v : NewSnapshot}
    {x : Except DriverError RemoteSnapshot}
    (hasked : (⟨.createSnapshot ns v, x⟩ : Exchange interface) ∈ t) :
    ∃ storageClass part b, SourceClass s r t storageClass ∧ part <:+: t ∧
      Conversation (Cluster.chooseSnapshotClass s.policy storageClass (requestedClass r)).run
        part (.ok b) ∧ v.snapshotClass = b.snapshotClass := by
  unfold takeSnapshot at h
  split at h
  · obtain ⟨rfl, -⟩ := conversation_done_iff.1 h
    exact absurd hasked List.not_mem_nil
  split at h
  · obtain ⟨rfl, -⟩ := conversation_done_iff.1 h
    exact absurd hasked List.not_mem_nil
  -- The snapshot is looked up, and is not there.
  obtain ⟨t₁, t₂, found, rfl, -, hfound, hasked₂⟩ :=
    Settles.exists_rest (.callRead rfl) h hasked rfl
  cases found with
  | some existing =>
    obtain ⟨rfl, -⟩ := conversation_ofExcept_iff.1 hfound
    exact absurd hasked₂ List.not_mem_nil
  | none =>
    -- Its source's storage class is found and allowed, and a snapshot class is chosen for it.
    obtain ⟨t₃, t₄, storageClass, rfl, hclass, henforce, hasked₄⟩ :=
      Settles.exists_rest (Cluster.readsOnly_storageClassForClaim _ _) hfound hasked₂ rfl
    obtain ⟨t₅, t₆, _, rfl, -, hchoose, hasked₆⟩ :=
      Settles.exists_rest (Cluster.readsOnly_enforceStorageClass _ _) henforce hasked₄ rfl
    obtain ⟨t₇, t₈, b, rfl, hb, hcreate, hasked₈⟩ :=
      Settles.exists_rest (Cluster.readsOnly_chooseSnapshotClass _ _ _) hchoose hasked₆ rfl
    -- The one request left is the change itself.
    obtain rfl := Cluster.conversation_call_iff.1 hcreate
    have hv := congrArg Exchange.request (List.mem_singleton.1 hasked₈)
    refine ⟨storageClass, t₇, b, ⟨t₃, List.infix_append' t₁ t₃ _, hclass⟩, ?_, hb, ?_⟩
    · exact (List.infix_append' t₅ t₇ _).trans
        ((List.suffix_append t₃ _).isInfix.trans (List.suffix_append t₁ _).isInfix)
    · rw [(Cluster.Request.createSnapshot.inj hv).2]

/-- **Exactly when the policy on snapshots is kept.** A snapshot class that is chosen for a storage
class always exists, has its provisioner, and is the one requested, if one is. The policy permits it
exactly unless no class was requested, the mappings of the storage class list nothing but the empty
text, and the default that this text then stands for has a name. So it is with every snapshot that
is asked of the cluster, for the storage class of its source. -/
theorem snapshotClass_permitted_iff (policy : Policy) :
    (∀ storageClass requested t b,
      Conversation (Cluster.chooseSnapshotClass policy storageClass requested).run t (.ok b) →
      FindsByName t → Founded t storageClass requested b ∧
        ((policy.permittedSnapshotClasses storageClass).permits b.snapshotClass = true ↔
          ¬ (requested = "" ∧ policy.OnlyBlank storageClass ∧ b.snapshotClass ≠ ""))) ∧
    ∀ s now r t a ns v x, s.policy = policy →
      Conversation (respond s now (.createSnapshot r)).run t a → FindsByName t →
      (⟨.createSnapshot ns v, x⟩ : Exchange interface) ∈ t →
      ∃ storageClass, SourceClass s r t storageClass ∧
        ((policy.permittedSnapshotClasses storageClass).permits v.snapshotClass = true ↔
          ¬ (requestedClass r = "" ∧ policy.OnlyBlank storageClass ∧ v.snapshotClass ≠ "")) := by
  constructor
  · intro storageClass requested t b h hnames
    exact ⟨Cluster.founded_of_choose h hnames, Cluster.permits_of_choose_iff h hnames⟩
  · intro s now r t a ns v x hs h hnames hasked
    obtain ⟨y, hy⟩ := conversation_answer h
    obtain ⟨storageClass, part, b, hsource, hpart, hb, hv⟩ :=
      exists_choice_of_createSnapshot hy hasked
    have hnamesPart : FindsByName part := fun name c hc => hnames name c (hpart.subset hc)
    rw [hs] at hb
    refine ⟨storageClass, hsource, ?_⟩
    rw [hv]
    exact Cluster.permits_of_choose_iff hb hnamesPart

/-- A policy that maps the storage class `gold` to one snapshot class. -/
def mappedPolicy (snapshotClass : String) : Policy :=
  { allowAll := true, snapshotMapping := [⟨["gold"], [snapshotClass]⟩] }

/-- The storage class `gold`. -/
def gold : StorageClass := ⟨"gold", "disks", true⟩

/-- The default snapshot class of the provisioner of `gold`. -/
def daily : SnapshotClass := ⟨"daily", "disks", true⟩

/-- How `daily` is looked up for `gold`. -/
def dailyLookup : List (Exchange interface) :=
  [⟨.getStorageClass "gold", .ok (some gold)⟩, ⟨.getSnapshotClass "daily", .ok (some daily)⟩]

/-- A controller with that policy. -/
def mapped (snapshotClass : String) : Settings :=
  { ns := "infra", policy := mappedPolicy snapshotClass }

/-- A request for a snapshot of a volume, with no class named. -/
def snapshotOrder : CreateSnapshot where
  sourceVolumeId := "a"
  name := "s"

/-- How a snapshot of a volume in `gold` is taken. -/
def dailySnapshot : List (Exchange interface) :=
  [⟨.getSnapshot "infra" "s", .ok none⟩,
    ⟨.getClaim "infra" "a", .ok (some ⟨"infra", "a", some "pv", none⟩)⟩,
    ⟨.getPersistentVolume "pv", .ok (some ⟨"pv", some "gold"⟩)⟩] ++
  dailyLookup ++
  [⟨.createSnapshot "infra" { name := "s", sourceVolume := "a", snapshotClass := "daily" },
    .error (.internal "busy")⟩]

/-- Where the only class mapped has a name, it is used and permitted. -/
theorem snapshotClass_permitted_iff_daily :
    Conversation (Cluster.chooseSnapshotClass (mappedPolicy "daily") "gold" "").run dailyLookup
        (.ok ⟨"gold", "disks", "daily"⟩) ∧ FindsByName dailyLookup ∧
      ((mappedPolicy "daily").permittedSnapshotClasses "gold").permits "daily" = true ∧
      FindsByName dailySnapshot ∧
      ∃ storageClass, SourceClass (mapped "daily") snapshotOrder dailySnapshot storageClass ∧
        (((mappedPolicy "daily").permittedSnapshotClasses storageClass).permits "daily" = true ↔
          ¬ (requestedClass snapshotOrder = "" ∧ (mappedPolicy "daily").OnlyBlank storageClass ∧
            "daily" ≠ "")) := by
  have hchoose : Conversation
      (Cluster.chooseSnapshotClass (mappedPolicy "daily") "gold" "").run dailyLookup
      (.ok ⟨"gold", "disks", "daily"⟩) := .ask _ (.ask _ (.done _))
  have htake : Conversation (respond (mapped "daily") ⟨0, 0⟩ (.createSnapshot snapshotOrder)).run
      dailySnapshot (.error (DriverError.internal "busy").status) :=
    .ask _ (.ask _ (.ask _ (.ask _ (.ask _ (.ask _ (.done _))))))
  have hnames : FindsByName dailyLookup := by
    intro name c h
    simp only [dailyLookup, List.mem_cons, List.not_mem_nil, or_false] at h
    rcases h with h | h
    · cases h
    · cases h
      rfl
  have hnamesAll : FindsByName dailySnapshot := by
    intro name c h
    rcases List.mem_append.1 h with h | h
    · rcases List.mem_append.1 h with h | h
      · simp at h
      · exact hnames name c h
    · simp at h
  obtain ⟨hone, hall⟩ := snapshotClass_permitted_iff (mappedPolicy "daily")
  refine ⟨hchoose, hnames, ?_, hnamesAll, ?_⟩
  · exact (hone "gold" "" _ _ hchoose hnames).2.2 (by decide)
  · exact hall (mapped "daily") ⟨0, 0⟩ snapshotOrder _ _ "infra" _ _ rfl htake hnamesAll
      (List.mem_append_right _ List.mem_cons_self)

/-- A cluster with the classes `gold` and `daily` and one volume. -/
def goldCluster : Cluster.State where
  storageClasses := [gold]
  snapshotClasses := [daily]
  volumes :=
    [{ name := "a", ns := "infra", uid := "u1", storageClass := some "gold", size := 1 }]

/-- **The policy on snapshots can be bypassed.** It maps `gold` to the empty text alone, and yet
without a request the default class `daily` is chosen, and a snapshot is asked for with it. -/
theorem snapshotClass_bypasses_policy :
    (runOn Cluster.step (Cluster.chooseSnapshotClass (mappedPolicy "") "gold" "") goldCluster).1 =
        .ok ⟨"gold", "disks", "daily"⟩ ∧
      ((mappedPolicy "").permittedSnapshotClasses "gold").permits "daily" = false ∧
      (askedOn Cluster.step (respond (mapped "") ⟨0, 0⟩ (.createSnapshot snapshotOrder))
        goldCluster).getLast? =
        some (.createSnapshot "infra"
          { name := "s", sourceVolume := "a", snapshotClass := "daily" }) := by
  refine ⟨?_, ?_, ?_⟩
  · rfl
  · decide
  · rfl

end Hotplug.Controller
