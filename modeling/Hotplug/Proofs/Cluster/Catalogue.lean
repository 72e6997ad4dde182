import Hotplug.Cluster.Memory
import Hotplug.Proofs.Cluster.SnapshotClass
import Mathlib.Data.List.Basic
import Mathlib.Data.List.Perm.Basic

/-!
# Which snapshot class is found

What a cluster shows of its classes is a catalogue: what it finds under a name, and what it lists.
From it one reads off which snapshot class is resolved. A request for a class by name looks at that
class alone. Without one the list is searched for the defaults of the provisioner, and there has to
be one, no fewer and no more; nothing else of the list matters, and neither does its order.

## Main definitions

* `Catalogue` — the classes of a cluster as requests show them.
* `Catalogue.ShownBy h s` — a cluster shows them.
* `IsDefaultFor provisioner c` — a snapshot class is marked as the default of a provisioner.
* `countDefaults provisioner all` — how many classes of a list are.
* `Catalogue.resolve` — what is resolved from a catalogue.
* `coded` — what is resolved, or the code of the error.
* `Rearranged provisioner all all'` — two lists differ in order and in classes that are no defaults
  of the provisioner.

## Main results

* `runOn_resolveSnapshotClass` — what is resolved is read off the catalogue.
* `bindDefault_eq_ok_iff`, `coded_bindDefault_notFound_iff`,
  `coded_bindDefault_failedPrecondition_iff` — what a list of classes comes to.
* `resolve_default_iff`, `resolve_requested_iff` — what a catalogue comes to, without a request for
  a class and with one.
* `coded_resolve_rearranged` — it is the same for lists that are rearranged.
* `resolveSnapshotClass_exact` — **exactly which snapshot class is found, and why none is.**
-/

namespace Hotplug.Cluster

/-- The classes of a cluster as requests show them: what is found under a name, which is an object
of that name, and what is listed. -/
structure Catalogue where
  storageClass? : String → Option StorageClass
  snapshotClass? : String → Option SnapshotClass
  /-- The snapshot classes in the list of all. -/
  listed : List SnapshotClass
  name_of_storageClass? : ∀ {name sc}, storageClass? name = some sc → sc.name = name
  name_of_snapshotClass? : ∀ {name c}, snapshotClass? name = some c → c.name = name

/-- A cluster shows the classes of a catalogue, and is not changed by that. -/
structure Catalogue.ShownBy {σ : Type} (k : Catalogue) (h : Handler interface σ) (s : σ) :
    Prop where
  storageClass : ∀ name, h (.getStorageClass name) s = (.ok (k.storageClass? name), s)
  snapshotClass : ∀ name, h (.getSnapshotClass name) s = (.ok (k.snapshotClass? name), s)
  list : h .listSnapshotClasses s = (.ok k.listed, s)

/-- What is resolved from a catalogue. -/
def Catalogue.resolve (k : Catalogue) (storageClass requested : String) :
    Except DriverError SnapshotBinding :=
  match k.storageClass? storageClass with
  | none => .error (.notFound "StorageClass" storageClass)
  | some sc =>
    if requested = "" then bindDefault sc k.listed
    else
      match k.snapshotClass? requested with
      | none => .error (.notFound "VolumeSnapshotClass" requested)
      | some c => bindClass sc c

section Resolving

variable {σ : Type} {k : Catalogue} {h : Handler interface σ} {s : σ}

/-- **What is resolved on a cluster is read off its catalogue**, and nothing is changed. -/
theorem runOn_resolveSnapshotClass (hk : k.ShownBy h s) (storageClass requested : String) :
    runOn h (resolveSnapshotClass storageClass requested) s =
      (k.resolve storageClass requested, s) := by
  have hget : runOn h (getStorageClass storageClass) s = (.ok (k.storageClass? storageClass), s) :=
    hk.storageClass storageClass
  unfold resolveSnapshotClass Catalogue.resolve
  rw [runOn_bind_ok hget]
  cases k.storageClass? storageClass with
  | none => exact runOn_bind_error rfl
  | some sc =>
    rw [runOn_bind_ok (runOn_orFail_some h s _ sc)]
    by_cases hrequested : requested = ""
    · have hlist : runOn h listSnapshotClasses s = (.ok k.listed, s) := hk.list
      simp only [String.isEmpty_iff, hrequested, if_true]
      rw [runOn_bind_ok hlist, runOn_ofExcept]
    · have hfind : runOn h (getSnapshotClass requested) s =
          (.ok (k.snapshotClass? requested), s) := hk.snapshotClass requested
      simp only [String.isEmpty_iff, hrequested, if_false]
      rw [runOn_bind_ok hfind]
      cases k.snapshotClass? requested with
      | none => exact runOn_bind_error rfl
      | some c => rw [runOn_bind_ok (runOn_orFail_some h s _ c), runOn_ofExcept]

end Resolving

/-! ### The defaults in a list -/

/-- A snapshot class is marked as default, and is one of a provisioner. -/
def IsDefaultFor (provisioner : String) (c : SnapshotClass) : Prop :=
  c.isDefault = true ∧ c.driver = provisioner

instance (provisioner : String) : DecidablePred (IsDefaultFor provisioner) :=
  fun c => inferInstanceAs (Decidable (c.isDefault = true ∧ c.driver = provisioner))

/-- How many entries of a list are defaults of a provisioner. -/
def countDefaults (provisioner : String) (all : List SnapshotClass) : Nat :=
  all.countP fun c => decide (IsDefaultFor provisioner c)

variable {provisioner : String} {sc : StorageClass} {all all' : List SnapshotClass}

theorem mem_defaultsFor_iff {c : SnapshotClass} :
    c ∈ defaultsFor provisioner all ↔ c ∈ all ∧ IsDefaultFor provisioner c := by
  unfold defaultsFor IsDefaultFor
  rw [List.mem_filter, Bool.and_eq_true, beq_iff_eq]

theorem length_defaultsFor :
    (defaultsFor provisioner all).length = countDefaults provisioner all := by
  unfold defaultsFor countDefaults
  rw [← List.countP_eq_length_filter]
  refine List.countP_congr fun c _ => ?_
  rw [Bool.and_eq_true, beq_iff_eq, decide_eq_true_iff, IsDefaultFor]

/-- One entry is the only default if it is one, and there is one. -/
theorem defaultsFor_eq_singleton_iff {c : SnapshotClass} :
    defaultsFor provisioner all = [c] ↔
      countDefaults provisioner all = 1 ∧ c ∈ all ∧ IsDefaultFor provisioner c := by
  rw [← length_defaultsFor, ← mem_defaultsFor_iff]
  constructor
  · intro h
    rw [h]
    exact ⟨rfl, List.mem_singleton_self c⟩
  · rintro ⟨hlength, hmem⟩
    obtain ⟨c', hc'⟩ := List.length_eq_one_iff.1 hlength
    rw [hc'] at hmem ⊢
    rw [List.mem_singleton.1 hmem]

/-- The only default is bound. -/
theorem bindDefault_of_one {c : SnapshotClass} (h : countDefaults sc.provisioner all = 1)
    (hmem : c ∈ all) (hdefault : IsDefaultFor sc.provisioner c) :
    bindDefault sc all = .ok ⟨sc.name, sc.provisioner, c.name⟩ := by
  unfold bindDefault
  rw [defaultsFor_eq_singleton_iff.2 ⟨h, hmem, hdefault⟩]

theorem bindDefault_of_none (h : countDefaults sc.provisioner all = 0) :
    bindDefault sc all =
      .error (.notFound "default VolumeSnapshotClass for provisioner" sc.provisioner) := by
  rw [← length_defaultsFor, List.length_eq_zero_iff] at h
  unfold bindDefault
  rw [h]

/-- Of several defaults none is bound. -/
theorem bindDefault_of_several (h : 2 ≤ countDefaults sc.provisioner all) :
    ∃ m, bindDefault sc all = .error (.failedPrecondition m) := by
  rw [← length_defaultsFor] at h
  unfold bindDefault
  split
  · next hnil =>
    rw [hnil] at h
    exact absurd h (by decide)
  · next only hone =>
    rw [hone, List.length_singleton] at h
    exact absurd h (by decide)
  · exact ⟨_, rfl⟩

/-- There is a default where some are counted. -/
theorem exists_default (h : countDefaults provisioner all = 1) :
    ∃ c ∈ all, IsDefaultFor provisioner c := by
  have hpos : 0 < countDefaults provisioner all := by omega
  obtain ⟨c, hmem, hdefault⟩ := List.countP_pos_iff.1 hpos
  exact ⟨c, hmem, of_decide_eq_true hdefault⟩

/-! ### Lists that differ in what does not matter -/

/-- Two lists differ in order, and in classes that are no defaults of the provisioner: these are
added or removed anywhere. -/
inductive Rearranged (provisioner : String) : List SnapshotClass → List SnapshotClass → Prop where
  | permuted {all all' : List SnapshotClass} (h : all.Perm all') : Rearranged provisioner all all'
  | added (front back : List SnapshotClass) {c : SnapshotClass}
      (h : c.isDefault = false ∨ c.driver ≠ provisioner) :
      Rearranged provisioner (front ++ back) (front ++ c :: back)
  | removed (front back : List SnapshotClass) {c : SnapshotClass}
      (h : c.isDefault = false ∨ c.driver ≠ provisioner) :
      Rearranged provisioner (front ++ c :: back) (front ++ back)
  | trans {all all' all'' : List SnapshotClass} (h : Rearranged provisioner all all')
      (h' : Rearranged provisioner all' all'') : Rearranged provisioner all all''

/-- What is no default of the provisioner leaves its defaults as they are. -/
theorem defaultsFor_insert {c : SnapshotClass} (h : c.isDefault = false ∨ c.driver ≠ provisioner)
    (front back : List SnapshotClass) :
    defaultsFor provisioner (front ++ c :: back) = defaultsFor provisioner (front ++ back) := by
  have hother : (c.isDefault && c.driver == provisioner) = false := by
    rcases h with h | h
    · rw [h, Bool.false_and]
    · rw [beq_eq_false_iff_ne.2 h, Bool.and_false]
  unfold defaultsFor
  rw [List.filter_append, List.filter_append, List.filter_cons_of_neg (by rw [hother]; nofun)]

/-- **Lists that are rearranged have the same defaults**, in some order. -/
theorem Rearranged.perm_defaultsFor (h : Rearranged provisioner all all') :
    (defaultsFor provisioner all).Perm (defaultsFor provisioner all') := by
  induction h with
  | permuted h => exact h.filter _
  | added front back h => rw [defaultsFor_insert h]
  | removed front back h => rw [defaultsFor_insert h]
  | trans _ _ ih ih' => exact ih.trans ih'

/-! ### What is resolved -/

/-- What becomes of a resolution: its binding, or the code of its failure. -/
def coded (found : Except DriverError SnapshotBinding) : Except Code SnapshotBinding :=
  found.mapError DriverError.code

@[simp] theorem coded_eq_ok_iff {found : Except DriverError SnapshotBinding} {b : SnapshotBinding} :
    coded found = .ok b ↔ found = .ok b := by
  cases found with
  | error e => exact iff_of_false nofun nofun
  | ok b' => exact ⟨fun h => congrArg _ (Except.ok.inj h), fun h => congrArg _ (Except.ok.inj h)⟩

/-- **What a list comes to, by the number of its defaults.** -/
theorem coded_bindDefault_cases (sc : StorageClass) (all : List SnapshotClass) :
    (countDefaults sc.provisioner all = 0 ∧ coded (bindDefault sc all) = .error .notFound) ∨
      (countDefaults sc.provisioner all = 1 ∧ ∃ c ∈ all, IsDefaultFor sc.provisioner c ∧
        coded (bindDefault sc all) = .ok ⟨sc.name, sc.provisioner, c.name⟩) ∨
      (2 ≤ countDefaults sc.provisioner all ∧
        coded (bindDefault sc all) = .error .failedPrecondition) := by
  rcases Nat.lt_trichotomy (countDefaults sc.provisioner all) 1 with hnone | hone | hseveral
  · have hzero : countDefaults sc.provisioner all = 0 := by omega
    exact .inl ⟨hzero, by rw [bindDefault_of_none hzero]; rfl⟩
  · obtain ⟨c, hmem, hdefault⟩ := exists_default hone
    refine .inr (.inl ⟨hone, c, hmem, hdefault, ?_⟩)
    rw [bindDefault_of_one hone hmem hdefault]
    rfl
  · obtain ⟨m, hm⟩ := bindDefault_of_several hseveral
    exact .inr (.inr ⟨hseveral, by rw [hm]; rfl⟩)

/-- A list comes to a binding exactly if one entry is a default, and to that of this entry. -/
theorem bindDefault_eq_ok_iff {b : SnapshotBinding} :
    bindDefault sc all = .ok b ↔ countDefaults sc.provisioner all = 1 ∧
      ∃ c ∈ all, IsDefaultFor sc.provisioner c ∧ b = ⟨sc.name, sc.provisioner, c.name⟩ := by
  constructor
  · intro h
    rcases coded_bindDefault_cases sc all with ⟨-, hc⟩ | ⟨hone, c, hmem, hdefault, hc⟩ | ⟨-, hc⟩
    · rw [h] at hc
      cases hc
    · rw [h] at hc
      exact ⟨hone, c, hmem, hdefault, Except.ok.inj hc⟩
    · rw [h] at hc
      cases hc
  · rintro ⟨hone, c, hmem, hdefault, rfl⟩
    exact bindDefault_of_one hone hmem hdefault

/-- Nothing is found exactly if no entry is a default. -/
theorem coded_bindDefault_notFound_iff :
    coded (bindDefault sc all) = .error .notFound ↔ countDefaults sc.provisioner all = 0 := by
  rcases coded_bindDefault_cases sc all with ⟨hcount, hc⟩ | ⟨hcount, c, -, -, hc⟩ | ⟨hcount, hc⟩
  · exact iff_of_true hc hcount
  · exact iff_of_false (by rw [hc]; nofun) (by omega)
  · exact iff_of_false (by rw [hc]; nofun) (by omega)

/-- Nothing is guessed exactly if there are several defaults to guess from. -/
theorem coded_bindDefault_failedPrecondition_iff :
    coded (bindDefault sc all) = .error .failedPrecondition ↔
      2 ≤ countDefaults sc.provisioner all := by
  rcases coded_bindDefault_cases sc all with ⟨hcount, hc⟩ | ⟨hcount, c, -, -, hc⟩ | ⟨hcount, hc⟩
  · exact iff_of_false (by rw [hc]; nofun) (by omega)
  · exact iff_of_false (by rw [hc]; nofun) (by omega)
  · exact iff_of_true hc hcount

/-- The defaults of a list, in whatever order, decide what it comes to. -/
theorem coded_bindDefault_of_perm
    (h : (defaultsFor sc.provisioner all).Perm (defaultsFor sc.provisioner all')) :
    coded (bindDefault sc all') = coded (bindDefault sc all) := by
  have hcount : countDefaults sc.provisioner all' = countDefaults sc.provisioner all := by
    rw [← length_defaultsFor, ← length_defaultsFor, h.length_eq]
  rcases coded_bindDefault_cases sc all with ⟨hnone, hc⟩ | ⟨hone, c, hmem, hdefault, hc⟩ |
    ⟨hseveral, hc⟩
  · rw [hc, coded_bindDefault_notFound_iff, hcount, hnone]
  · -- The only default of one list is in the other.
    have hmem' := (mem_defaultsFor_iff.1 (h.subset (mem_defaultsFor_iff.2 ⟨hmem, hdefault⟩))).1
    rw [hc, coded_eq_ok_iff, bindDefault_eq_ok_iff]
    exact ⟨hcount.trans hone, c, hmem', hdefault, rfl⟩
  · rw [hc, coded_bindDefault_failedPrecondition_iff, hcount]
    exact hseveral

/-! ### Resolving from a catalogue -/

section Resolution

variable {k : Catalogue} {storageClass requested : String} {b : SnapshotBinding}

theorem coded_resolve_of_missing (h : k.storageClass? storageClass = none) (requested : String) :
    coded (k.resolve storageClass requested) = .error .notFound := by
  unfold Catalogue.resolve
  rw [h]
  rfl

/-- Without a request the list decides. -/
theorem resolve_default (h : k.storageClass? storageClass = some sc) :
    k.resolve storageClass "" = bindDefault sc k.listed := by
  unfold Catalogue.resolve
  rw [h]
  rfl

/-- With a request the class of that name decides, if there is one. -/
theorem coded_resolve_requested (h : k.storageClass? storageClass = some sc)
    (hrequested : requested ≠ "") :
    coded (k.resolve storageClass requested) =
      match k.snapshotClass? requested with
      | none => .error .notFound
      | some c =>
        if c.driver = sc.provisioner then .ok ⟨storageClass, sc.provisioner, requested⟩
        else .error .failedPrecondition := by
  unfold Catalogue.resolve
  rw [h]
  simp only [if_neg hrequested]
  cases hc : k.snapshotClass? requested with
  | none => rfl
  | some c =>
    have hname := k.name_of_storageClass? h
    have hname' := k.name_of_snapshotClass? hc
    by_cases hdriver : c.driver = sc.provisioner
    · simp only [bindClass, if_pos hdriver, hname, hname']
      rfl
    · simp only [bindClass, if_neg hdriver]
      rfl

/-- **What is resolved without a request.** -/
theorem resolve_default_iff (k : Catalogue) (storageClass : String) :
    (∀ b, k.resolve storageClass "" = .ok b ↔ ∃ sc, k.storageClass? storageClass = some sc ∧
      countDefaults sc.provisioner k.listed = 1 ∧
      ∃ c ∈ k.listed, IsDefaultFor sc.provisioner c ∧
        b = ⟨storageClass, sc.provisioner, c.name⟩) ∧
    (coded (k.resolve storageClass "") = .error .notFound ↔
      k.storageClass? storageClass = none ∨
        ∃ sc, k.storageClass? storageClass = some sc ∧
          countDefaults sc.provisioner k.listed = 0) ∧
    (coded (k.resolve storageClass "") = .error .failedPrecondition ↔
      ∃ sc, k.storageClass? storageClass = some sc ∧
        2 ≤ countDefaults sc.provisioner k.listed) := by
  cases hsc : k.storageClass? storageClass with
  | none => simp [← coded_eq_ok_iff, coded_resolve_of_missing hsc]
  | some sc =>
    have hname := k.name_of_storageClass? hsc
    rw [resolve_default hsc, coded_bindDefault_notFound_iff,
      coded_bindDefault_failedPrecondition_iff]
    simp [bindDefault_eq_ok_iff, hname]

/-- **What is resolved with a request.** -/
theorem resolve_requested_iff (k : Catalogue) (storageClass : String)
    (hrequested : requested ≠ "") :
    (∀ b, k.resolve storageClass requested = .ok b ↔
      ∃ sc c, k.storageClass? storageClass = some sc ∧ k.snapshotClass? requested = some c ∧
        c.driver = sc.provisioner ∧ b = ⟨storageClass, sc.provisioner, requested⟩) ∧
    (coded (k.resolve storageClass requested) = .error .notFound ↔
      k.storageClass? storageClass = none ∨ k.snapshotClass? requested = none) ∧
    (coded (k.resolve storageClass requested) = .error .failedPrecondition ↔
      ∃ sc c, k.storageClass? storageClass = some sc ∧ k.snapshotClass? requested = some c ∧
        c.driver ≠ sc.provisioner) := by
  simp only [← coded_eq_ok_iff]
  cases hsc : k.storageClass? storageClass with
  | none => simp [coded_resolve_of_missing hsc]
  | some sc =>
    rw [coded_resolve_requested hsc hrequested]
    cases hc : k.snapshotClass? requested with
    | none => simp
    | some c => by_cases hdriver : c.driver = sc.provisioner <;> simp [hdriver, eq_comm]

/-- **What is resolved is not changed by rearranging the list.** -/
theorem coded_resolve_rearranged {listed' : List SnapshotClass} (requested : String)
    (h : ∀ sc, k.storageClass? storageClass = some sc →
      Rearranged sc.provisioner k.listed listed') :
    coded (Catalogue.resolve { k with listed := listed' } storageClass requested) =
      coded (k.resolve storageClass requested) := by
  cases hsc : k.storageClass? storageClass with
  | none =>
    rw [coded_resolve_of_missing hsc]
    exact coded_resolve_of_missing (k := { k with listed := listed' }) hsc requested
  | some sc =>
    by_cases hrequested : requested = ""
    · rw [hrequested, resolve_default hsc, resolve_default (k := { k with listed := listed' }) hsc]
      exact coded_bindDefault_of_perm (h sc hsc).perm_defaultsFor
    · rw [coded_resolve_requested hsc hrequested]
      exact coded_resolve_requested (k := { k with listed := listed' }) hsc hrequested

end Resolution

variable {σ τ : Type} {h : Handler interface σ} {s : σ}

/-- **Exactly which snapshot class is found, and why none is.** Nothing is changed by looking.

Without a request it is the one listed class that is a default of the provisioner of the storage
class. Where the storage class or such a default is missing nothing is found, and where there are
several defaults the state of the cluster is refused.

With a request it is the class of that name, if it has the provisioner. Where the storage class or
that class is missing nothing is found, and where the provisioners differ the state of the cluster
is refused; the list has no part in it.

A cluster that finds the same classes by name, and whose list differs in order and in classes that
are no defaults of the provisioner, comes to the same binding or the same code. -/
theorem resolveSnapshotClass_exact {k : Catalogue} (hk : k.ShownBy h s)
    (storageClass requested : String) :
    let found := runOn h (resolveSnapshotClass storageClass requested) s
    found.2 = s ∧
      (requested = "" →
        (∀ b, found.1 = .ok b ↔ ∃ sc, k.storageClass? storageClass = some sc ∧
          countDefaults sc.provisioner k.listed = 1 ∧
          ∃ c ∈ k.listed, IsDefaultFor sc.provisioner c ∧
            b = ⟨storageClass, sc.provisioner, c.name⟩) ∧
        (coded found.1 = .error .notFound ↔ k.storageClass? storageClass = none ∨
          ∃ sc, k.storageClass? storageClass = some sc ∧
            countDefaults sc.provisioner k.listed = 0) ∧
        (coded found.1 = .error .failedPrecondition ↔
          ∃ sc, k.storageClass? storageClass = some sc ∧
            2 ≤ countDefaults sc.provisioner k.listed)) ∧
      (requested ≠ "" →
        (∀ b, found.1 = .ok b ↔ ∃ sc c, k.storageClass? storageClass = some sc ∧
          k.snapshotClass? requested = some c ∧ c.driver = sc.provisioner ∧
          b = ⟨storageClass, sc.provisioner, requested⟩) ∧
        (coded found.1 = .error .notFound ↔
          k.storageClass? storageClass = none ∨ k.snapshotClass? requested = none) ∧
        (coded found.1 = .error .failedPrecondition ↔
          ∃ sc c, k.storageClass? storageClass = some sc ∧ k.snapshotClass? requested = some c ∧
            c.driver ≠ sc.provisioner)) ∧
      ∀ {h' : Handler interface τ} {s' : τ} {listed' : List SnapshotClass},
        { k with listed := listed' }.ShownBy h' s' →
        (∀ sc, k.storageClass? storageClass = some sc →
          Rearranged sc.provisioner k.listed listed') →
        coded (runOn h' (resolveSnapshotClass storageClass requested) s').1 = coded found.1 := by
  intro found
  have hfound : found = (k.resolve storageClass requested, s) :=
    runOn_resolveSnapshotClass hk storageClass requested
  rw [hfound]
  refine ⟨rfl, ?_, fun hrequested => resolve_requested_iff k storageClass hrequested, ?_⟩
  · rintro rfl
    exact resolve_default_iff k storageClass
  · intro h' s' listed' hk' hsame
    rw [runOn_resolveSnapshotClass hk' storageClass requested]
    exact coded_resolve_rearranged requested hsame

/-- What the cluster in memory shows of its classes. -/
def State.catalogue (s : State) : Catalogue where
  storageClass? name := s.storageClasses.find? (·.name == name)
  snapshotClass? name := s.snapshotClasses.find? (·.name == name)
  listed := s.snapshotClasses
  name_of_storageClass? h := by simpa using List.find?_some h
  name_of_snapshotClass? h := by simpa using List.find?_some h

theorem State.shownBy_catalogue (s : State) : s.catalogue.ShownBy step s where
  storageClass _ := rfl
  snapshotClass _ := rfl
  list := rfl

/-- A cluster with two defaults, of different provisioners. -/
def twoProvisioners : State where
  storageClasses := [⟨"gold", "disks", false⟩]
  snapshotClasses := [⟨"nightly", "tapes", true⟩, ⟨"daily", "disks", true⟩]

/-- The same with one more class, of a name that finds another. -/
def relisted : State where
  storageClasses := twoProvisioners.storageClasses
  snapshotClasses := twoProvisioners.snapshotClasses ++ [⟨"daily", "tapes", true⟩]

/-- It shows the same but for the list. -/
theorem shownBy_relisted :
    { twoProvisioners.catalogue with listed := relisted.snapshotClasses }.ShownBy step
      relisted where
  storageClass _ := rfl
  snapshotClass name := by
    by_cases hname : name = "daily"
    · rw [hname]
      rfl
    · have hother : (("daily" : String) == name) = false := beq_eq_false_iff_ne.2 (Ne.symm hname)
      simp [step, relisted, State.catalogue, List.find?_append, hother]
  list := rfl

/-- On both the one default of the provisioner is found, and the other provisioner's is refused. -/
theorem resolveSnapshotClass_exact_daily :
    twoProvisioners.catalogue.ShownBy step twoProvisioners ∧
      (runOn step (resolveSnapshotClass "gold" "") twoProvisioners).1 =
        .ok ⟨"gold", "disks", "daily"⟩ ∧
      coded (runOn step (resolveSnapshotClass "gold" "nightly") twoProvisioners).1 =
        .error .failedPrecondition ∧
      coded (runOn step (resolveSnapshotClass "gold" "") relisted).1 =
        coded (runOn step (resolveSnapshotClass "gold" "") twoProvisioners).1 := by
  have hshown := twoProvisioners.shownBy_catalogue
  obtain ⟨-, hdefault, -, hsame⟩ := resolveSnapshotClass_exact (τ := State) hshown "gold" ""
  obtain ⟨-, -, hnightly, -⟩ := resolveSnapshotClass_exact (τ := State) hshown "gold" "nightly"
  refine ⟨hshown, ?_, ?_, hsame shownBy_relisted ?_⟩
  · exact ((hdefault rfl).1 _).2
      ⟨⟨"gold", "disks", false⟩, rfl, by decide, ⟨"daily", "disks", true⟩, by decide, by decide,
        rfl⟩
  · exact (hnightly (by decide)).2.2.2
      ⟨⟨"gold", "disks", false⟩, ⟨"nightly", "tapes", true⟩, rfl, rfl, by decide⟩
  · rintro sc ⟨⟩
    exact .added twoProvisioners.snapshotClasses [] (.inr (by decide))

end Hotplug.Cluster
