import Hotplug.Proofs.Cluster.Change
import Hotplug.Proofs.Policy

/-!
# The snapshot class found for a storage class

What the cluster answers on the way to a snapshot class is recorded in a conversation. From it one
reads off that a class which was found exists, that it has the provisioner of the storage class, and
whether the policy lets it through.

## Main definitions

* `Offers t c` — in the conversation `t` the cluster has shown the snapshot class `c`.
* `FindsByName t` — a snapshot class that was looked up has the name it was looked up by.
* `Founded t storageClass requested b` — the binding `b` is to an existing class of the right
  provisioner, and to the one requested if there is one.

## Main results

* `founded_of_resolve`, `founded_of_choose` — every class that is found is founded so.
* `permits_of_choose_iff` — it is permitted exactly outside of one gap, a storage class whose
  mappings list nothing but the empty text.
-/

namespace Hotplug.Cluster

/-- In a conversation, the cluster has shown a snapshot class, alone or in the list of all. -/
def Offers (t : List (Exchange interface)) (c : SnapshotClass) : Prop :=
  (∃ name, ⟨.getSnapshotClass name, .ok (some c)⟩ ∈ t) ∨
    ∃ all, ⟨.listSnapshotClasses, .ok all⟩ ∈ t ∧ c ∈ all

/-- In a conversation, a snapshot class that was looked up has the name it was looked up by. -/
def FindsByName (t : List (Exchange interface)) : Prop :=
  ∀ name c, (⟨.getSnapshotClass name, .ok (some c)⟩ : Exchange interface) ∈ t → c.name = name

/-- A binding is to a snapshot class of the cluster that has the provisioner of the storage class,
and to the class requested, if one is. -/
structure Founded (t : List (Exchange interface)) (storageClass requested : String)
    (b : SnapshotBinding) : Prop where
  found : ∃ sc c, ⟨.getStorageClass storageClass, .ok (some sc)⟩ ∈ t ∧ Offers t c ∧
    c.name = b.snapshotClass ∧ c.driver = sc.provisioner ∧ b.provisioner = sc.provisioner
  asRequested : requested ≠ "" → b.snapshotClass = requested

/-! ### Resolving -/

theorem bindClass_eq_ok_iff {sc : StorageClass} {c : SnapshotClass} {b : SnapshotBinding} :
    bindClass sc c = .ok b ↔ c.driver = sc.provisioner ∧ ⟨sc.name, sc.provisioner, c.name⟩ = b := by
  unfold bindClass
  split <;> simp_all

/-- The default that is found is one of the defaults. -/
theorem bindDefault_eq_ok {sc : StorageClass} {all : List SnapshotClass} {b : SnapshotBinding}
    (h : bindDefault sc all = .ok b) :
    ∃ c ∈ all, c.isDefault = true ∧ c.driver = sc.provisioner ∧
      ⟨sc.name, sc.provisioner, c.name⟩ = b := by
  unfold bindDefault at h
  split at h
  · cases h
  · next only hdefaults =>
    have hmem : only ∈ defaultsFor sc.provisioner all := by
      rw [hdefaults]
      exact List.mem_singleton_self only
    obtain ⟨hall, hdefault⟩ := List.mem_filter.1 hmem
    rw [Bool.and_eq_true, beq_iff_eq] at hdefault
    exact ⟨only, hall, hdefault.1, hdefault.2, Except.ok.inj h⟩
  · cases h

/-- **A snapshot class that is resolved exists and has the right provisioner**, and is the one
requested, if one is. -/
theorem founded_of_resolve {storageClass requested : String} {t : List (Exchange interface)}
    {b : SnapshotBinding}
    (h : Conversation (resolveSnapshotClass storageClass requested).run t (.ok b))
    (hnames : FindsByName t) : Founded t storageClass requested b := by
  unfold resolveSnapshotClass at h
  -- The storage class is looked up first, and is there.
  obtain ⟨t₁, t₂, found, rfl, hcall, hafter⟩ := conversation_ok_iff.1 h
  obtain rfl := conversation_call_iff.1 hcall
  obtain ⟨t₃, t₄, sc, rfl, hfound, hclass⟩ := conversation_ok_iff.1 hafter
  obtain ⟨rfl, rfl⟩ := conversation_orFail_ok_iff.1 hfound
  split at hclass
  · -- Without a request, the class is among those listed.
    next hempty =>
    obtain ⟨t₅, t₆, all, rfl, hlist, hbind⟩ := conversation_ok_iff.1 hclass
    obtain rfl := conversation_call_iff.1 hlist
    obtain ⟨rfl, hb⟩ := conversation_ofExcept_iff.1 hbind
    obtain ⟨c, hc, -, hdriver, rfl⟩ := bindDefault_eq_ok hb.symm
    refine ⟨⟨sc, c, by simp, .inr ⟨all, by simp, hc⟩, rfl, hdriver, rfl⟩, fun hne => ?_⟩
    exact absurd (String.isEmpty_iff.1 hempty) hne
  · -- With a request, it is the one looked up by that name.
    obtain ⟨t₅, t₆, foundClass, rfl, hget, hlast⟩ := conversation_ok_iff.1 hclass
    obtain rfl := conversation_call_iff.1 hget
    obtain ⟨t₇, t₈, c, rfl, hc, hbind⟩ := conversation_ok_iff.1 hlast
    obtain ⟨rfl, rfl⟩ := conversation_orFail_ok_iff.1 hc
    obtain ⟨rfl, hb⟩ := conversation_ofExcept_iff.1 hbind
    obtain ⟨hdriver, rfl⟩ := bindClass_eq_ok_iff.1 hb.symm
    have hname : c.name = requested := hnames requested c (by simp)
    exact ⟨⟨sc, c, by simp, .inl ⟨requested, by simp⟩, rfl, hdriver, rfl⟩, fun _ => hname⟩

/-! ### Choosing within the policy -/

theorem checkDefault_eq_ok_iff {storageClass : String} {restriction : SnapshotRestriction}
    {b b' : SnapshotBinding} :
    checkDefault storageClass restriction b = .ok b' ↔
      restriction.permits b.snapshotClass = true ∧ b = b' := by
  unfold checkDefault
  split <;> simp_all

/-- **The three ways in which a class is chosen**: the class requested is permitted and resolved, or
without a request the only permitted class is resolved, or the default is and then is permitted. -/
theorem conversation_choose {policy : Policy} {storageClass requested : String}
    {t : List (Exchange interface)} {b : SnapshotBinding}
    (h : Conversation (chooseSnapshotClass policy storageClass requested).run t (.ok b)) :
    (requested ≠ "" ∧ (policy.permittedSnapshotClasses storageClass).permits requested = true ∧
        Conversation (resolveSnapshotClass storageClass requested).run t (.ok b)) ∨
      (requested = "" ∧ ∃ name, policy.OnlyClass storageClass name ∧
        Conversation (resolveSnapshotClass storageClass name).run t (.ok b)) ∨
      (requested = "" ∧ ¬ policy.OnlyBlank storageClass ∧
        Conversation (resolveSnapshotClass storageClass "").run t (.ok b) ∧
        (policy.permittedSnapshotClasses storageClass).permits b.snapshotClass = true) := by
  unfold chooseSnapshotClass at h
  obtain ⟨t₁, t₂, decision, rfl, hcheck, hrest⟩ := conversation_ok_iff.1 h
  obtain ⟨rfl, hdecision⟩ := conversation_ofExcept_iff.1 hcheck
  rw [List.nil_append]
  rcases Policy.checkSnapshotClass_cases hdecision.symm with
    ⟨hne, rfl, hpermits⟩ | ⟨hempty, name, honly, rfl⟩ | ⟨hempty, rfl, hnot⟩
  · exact .inl ⟨hne, hpermits, hrest⟩
  · exact .inr (.inl ⟨hempty, name, honly, hrest⟩)
  · -- The default is checked only after it was resolved.
    obtain ⟨t₃, t₄, b', rfl, hresolve, hpermits⟩ := conversation_ok_iff.1 hrest
    obtain ⟨rfl, hb⟩ := conversation_ofExcept_iff.1 hpermits
    obtain ⟨hallowed, rfl⟩ := checkDefault_eq_ok_iff.1 hb.symm
    rw [List.append_nil]
    exact .inr (.inr ⟨hempty, hnot, hresolve, hallowed⟩)

/-- **A snapshot class that is chosen exists and has the right provisioner**, and is the one
requested, if one is. -/
theorem founded_of_choose {policy : Policy} {storageClass requested : String}
    {t : List (Exchange interface)} {b : SnapshotBinding}
    (h : Conversation (chooseSnapshotClass policy storageClass requested).run t (.ok b))
    (hnames : FindsByName t) : Founded t storageClass requested b := by
  rcases conversation_choose h with
    ⟨-, -, hresolve⟩ | ⟨hempty, name, -, hresolve⟩ | ⟨hempty, -, hresolve, -⟩
  · exact founded_of_resolve hresolve hnames
  · have hfounded := founded_of_resolve hresolve hnames
    exact ⟨hfounded.found, fun hne => absurd hempty hne⟩
  · have hfounded := founded_of_resolve hresolve hnames
    exact ⟨hfounded.found, fun hne => absurd hempty hne⟩

/-- **A snapshot class that is chosen is permitted, with one gap.** Where the mappings of the
storage class list the empty text alone and no class is requested, that text is granted as if it
were a name, and then means the default, which is used unchecked. -/
theorem permits_of_choose_iff {policy : Policy} {storageClass requested : String}
    {t : List (Exchange interface)} {b : SnapshotBinding}
    (h : Conversation (chooseSnapshotClass policy storageClass requested).run t (.ok b))
    (hnames : FindsByName t) :
    (policy.permittedSnapshotClasses storageClass).permits b.snapshotClass = true ↔
      ¬ (requested = "" ∧ policy.OnlyBlank storageClass ∧ b.snapshotClass ≠ "") := by
  rcases conversation_choose h with
    ⟨hne, hpermits, hresolve⟩ | ⟨hempty, name, honly, hresolve⟩ | ⟨-, hnot, -, hpermits⟩
  · rw [(founded_of_resolve hresolve hnames).asRequested hne]
    exact iff_of_true hpermits fun hgap => hne hgap.1
  · -- The only permitted class is used: the policy is kept unless that class is the empty text.
    have hfounded := founded_of_resolve hresolve hnames
    rw [honly.permits_iff, honly.onlyBlank_iff]
    constructor
    · rintro hb ⟨-, hname, hne⟩
      exact hne (hb.trans hname)
    · intro hgap
      by_cases hname : name = ""
      · rw [hname]
        exact Decidable.byContradiction fun hne => hgap ⟨hempty, hname, hne⟩
      · exact hfounded.asRequested hname
  · exact iff_of_true hpermits fun hgap => hnot hgap.2.1

end Hotplug.Cluster
