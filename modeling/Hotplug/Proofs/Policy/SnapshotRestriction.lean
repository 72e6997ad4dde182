import Hotplug.Proofs.Policy
import Mathlib.Data.List.Sort
import Mathlib.Data.Set.Subsingleton

/-!
# What a storage class may be snapshotted with

The operator's mapping is a list of entries, each with the storage classes it is for and the
snapshot classes it permits. A storage class that no entry names may be snapshotted with anything;
one that some entry names, with the classes of all those entries together. What becomes of a request
follows from this set and from nothing else of the mapping.

## Main definitions

* `NameSet.members s` — the names in `s`.
* `Policy.Names entries c` — some entry names the storage class `c`.
* `Policy.union entries c` — the snapshot classes of all entries that do.
* `Policy.Remapped c entries entries'` — two mappings differ in order, in repetitions, and in
  entries that do not name `c`.

## Main results

* `members_inj` — sets with the same members are equal.
* `permittedSnapshotClasses_of_not_names`, `permittedSnapshotClasses_of_names` — what is permitted
  is the union.
* `checkSnapshotClass_outcome` — the five outcomes of a request.
* `permittedSnapshotClasses_congr`, `Remapped.union_eq` — mappings that differ in such ways permit
  the same.
* `snapshotRestriction_exact` — **what is permitted is the union of the mapping, and decides
  alone.**
-/

namespace Hotplug

/-! ### Sets of names -/

namespace NameSet

/-- The members of a set. -/
def members (s : NameSet) : Set String :=
  {name | name ∈ s.names}

theorem mem_members {s : NameSet} {name : String} : name ∈ s.members ↔ name ∈ s.names := Iff.rfl

/-- The members ascend. -/
theorem pairwise_names (s : NameSet) : s.names.Pairwise (· < ·) :=
  List.pairwise_map.2 s.ordered

/-- The entries hold nothing but the members. -/
theorem entries_eq_map_names (s : NameSet) : s.entries = s.names.map (·, ()) := by
  unfold names
  rw [List.map_map]
  exact (List.map_id _).symm

/-- **Sets with the same members are equal.** -/
theorem members_inj {s t : NameSet} : s.members = t.members ↔ s = t := by
  constructor
  · intro h
    have hnames : s.names = t.names :=
      List.Pairwise.eq_of_mem_iff s.pairwise_names t.pairwise_names fun name => Set.ext_iff.1 h name
    apply Table.ext_entries
    rw [entries_eq_map_names, entries_eq_map_names, hnames]
  · rintro rfl
    rfl

/-- A set is told by how many names it lists: none, one, or more. -/
theorem members_cases (s : NameSet) :
    (s.names = [] ∧ s.members = ∅) ∨ (∃ name, s.names = [name] ∧ s.members = {name}) ∨
      (∃ a b rest, s.names = a :: b :: rest) ∧ s.members.Nontrivial := by
  unfold members
  rcases hnames : s.names with _ | ⟨a, _ | ⟨b, rest⟩⟩
  · exact .inl ⟨rfl, by simp⟩
  · exact .inr (.inl ⟨a, rfl, by ext name; simp⟩)
  · -- The two are different, for they ascend.
    have hlt : a < b := by
      have hordered := s.pairwise_names
      rw [hnames] at hordered
      exact (List.pairwise_cons.1 hordered).1 b List.mem_cons_self
    exact .inr (.inr ⟨⟨a, b, rest, rfl⟩, a, by simp, b, by simp, String.ne_of_lt hlt⟩)

end NameSet

namespace Policy

/-! ### The union of a mapping -/

/-- Some entry of a mapping names a storage class. -/
def Names (entries : List SnapshotMapping) (storageClass : String) : Prop :=
  ∃ m ∈ entries, storageClass ∈ m.storageClasses

/-- The snapshot classes of all entries that name a storage class. -/
def union (entries : List SnapshotMapping) (storageClass : String) : Set String :=
  {name | ∃ m ∈ entries, storageClass ∈ m.storageClasses ∧ name ∈ m.snapshotClasses}

variable {p p' : Policy} {storageClass requested : String}

theorem mem_mappingsOf {m : SnapshotMapping} :
    m ∈ p.mappingsOf storageClass ↔
      m ∈ p.snapshotMapping ∧ storageClass ∈ m.storageClasses := by
  simp [mappingsOf]

theorem mappingsOf_eq_nil_iff :
    p.mappingsOf storageClass = [] ↔ ¬ Names p.snapshotMapping storageClass := by
  simp only [List.eq_nil_iff_forall_not_mem, mem_mappingsOf, Names, not_exists]

theorem mem_flatMap_mappingsOf {name : String} :
    name ∈ (p.mappingsOf storageClass).flatMap (·.snapshotClasses) ↔
      name ∈ union p.snapshotMapping storageClass := by
  simp only [List.mem_flatMap, mem_mappingsOf, union, Set.mem_ofPred_eq, and_assoc]

/-- Anything is permitted where no entry names the storage class. -/
theorem permittedSnapshotClasses_of_not_names (h : ¬ Names p.snapshotMapping storageClass) :
    p.permittedSnapshotClasses storageClass = .unrestricted := by
  unfold permittedSnapshotClasses
  rw [mappingsOf_eq_nil_iff.2 h]

/-- Where some entry does, the classes of all such entries are. -/
theorem permittedSnapshotClasses_of_names (h : Names p.snapshotMapping storageClass) :
    ∃ classes, p.permittedSnapshotClasses storageClass = .only classes ∧
      classes.members = union p.snapshotMapping storageClass := by
  refine ⟨NameSet.ofNames ((p.mappingsOf storageClass).flatMap (·.snapshotClasses)), ?_, ?_⟩
  · unfold permittedSnapshotClasses
    split
    · next hnil => exact absurd h (mappingsOf_eq_nil_iff.1 hnil)
    · rfl
  · ext name
    rw [NameSet.mem_members, NameSet.mem_names_ofNames, mem_flatMap_mappingsOf]

theorem permittedSnapshotClasses_eq_unrestricted_iff :
    p.permittedSnapshotClasses storageClass = .unrestricted ↔
      ¬ Names p.snapshotMapping storageClass := by
  refine ⟨fun hfree hnames => ?_, permittedSnapshotClasses_of_not_names⟩
  obtain ⟨classes, honly, -⟩ := permittedSnapshotClasses_of_names hnames
  rw [hfree] at honly
  cases honly

/-- **What is permitted**: anything where no entry names the storage class, and otherwise the
union. -/
theorem permits_iff {name : String} :
    (p.permittedSnapshotClasses storageClass).permits name = true ↔
      (Names p.snapshotMapping storageClass → name ∈ union p.snapshotMapping storageClass) := by
  by_cases hnames : Names p.snapshotMapping storageClass
  · obtain ⟨classes, honly, hmembers⟩ := permittedSnapshotClasses_of_names hnames
    rw [honly, ← hmembers]
    simp only [hnames, true_imp_iff]
    exact NameSet.contains_eq_true_iff
  · rw [permittedSnapshotClasses_of_not_names hnames]
    simp [hnames, SnapshotRestriction.permits]

/-! ### Requests -/

/-- A name that is requested is used if it is permitted. -/
theorem checkSnapshotClass_of_permits (hne : requested ≠ "")
    (h : (p.permittedSnapshotClasses storageClass).permits requested = true) :
    p.checkSnapshotClass storageClass requested = .ok (.use requested) := by
  simp [checkSnapshotClass, hne, h]

/-- It is forbidden if it is not. -/
theorem checkSnapshotClass_of_not_permits (hne : requested ≠ "")
    (h : (p.permittedSnapshotClasses storageClass).permits requested = false) :
    ∃ message, p.checkSnapshotClass storageClass requested = .error (.permissionDenied message) := by
  simp [checkSnapshotClass, hne, h]

/-- Without a request the default is looked for where anything is permitted. -/
theorem checkSnapshotClass_of_unrestricted
    (h : p.permittedSnapshotClasses storageClass = .unrestricted) :
    p.checkSnapshotClass storageClass "" =
      .ok (.useDefault (p.permittedSnapshotClasses storageClass)) := by
  simp [checkSnapshotClass, h]

/-- Otherwise the number of names that are permitted decides. -/
theorem checkSnapshotClass_of_only {classes : NameSet}
    (h : p.permittedSnapshotClasses storageClass = .only classes) :
    (classes.members = ∅ ∧ ∃ message,
        p.checkSnapshotClass storageClass "" = .error (.permissionDenied message)) ∨
      (∃ name, classes.members = {name} ∧
        p.checkSnapshotClass storageClass "" = .ok (.use name)) ∨
      (classes.members.Nontrivial ∧ p.checkSnapshotClass storageClass "" =
        .ok (.useDefault (p.permittedSnapshotClasses storageClass))) := by
  rcases classes.members_cases with ⟨hnames, hmembers⟩ | ⟨name, hnames, hmembers⟩ |
    ⟨⟨a, b, rest, hnames⟩, hmembers⟩
  · refine .inl ⟨hmembers, ?_⟩
    simp [checkSnapshotClass, h, hnames]
  · refine .inr (.inl ⟨name, hmembers, ?_⟩)
    simp [checkSnapshotClass, h, hnames]
  · refine .inr (.inr ⟨hmembers, ?_⟩)
    simp [checkSnapshotClass, h, hnames]

/-- What becomes of a request for a snapshot class, with the reason. -/
inductive Outcome (p : Policy) (storageClass requested : String) :
    Except DriverError SnapshotDecision → Prop where
  /-- The class that is named is permitted. -/
  | named (hne : requested ≠ "")
      (h : (p.permittedSnapshotClasses storageClass).permits requested = true) :
      Outcome p storageClass requested (.ok (.use requested))
  /-- It is not. -/
  | forbidden (hne : requested ≠ "")
      (h : (p.permittedSnapshotClasses storageClass).permits requested = false)
      (message : String) :
      Outcome p storageClass requested (.error (.permissionDenied message))
  /-- None is named, and none is permitted. -/
  | nothing (hempty : requested = "") (hnames : Names p.snapshotMapping storageClass)
      (h : union p.snapshotMapping storageClass = ∅) (message : String) :
      Outcome p storageClass requested (.error (.permissionDenied message))
  /-- None is named, and only one is permitted. -/
  | single (hempty : requested = "") (hnames : Names p.snapshotMapping storageClass)
      {name : String} (h : union p.snapshotMapping storageClass = {name}) :
      Outcome p storageClass requested (.ok (.use name))
  /-- None is named, and several are permitted, or all. -/
  | undecided (hempty : requested = "")
      (h : Names p.snapshotMapping storageClass →
        (union p.snapshotMapping storageClass).Nontrivial) :
      Outcome p storageClass requested
        (.ok (.useDefault (p.permittedSnapshotClasses storageClass)))

/-- **The five outcomes of a request.** -/
theorem checkSnapshotClass_outcome (p : Policy) (storageClass requested : String) :
    Outcome p storageClass requested (p.checkSnapshotClass storageClass requested) := by
  by_cases hempty : requested = ""
  · subst hempty
    by_cases hnames : Names p.snapshotMapping storageClass
    · obtain ⟨classes, honly, hunion⟩ := permittedSnapshotClasses_of_names hnames
      rcases checkSnapshotClass_of_only honly with ⟨hmembers, message, hcheck⟩ |
        ⟨name, hmembers, hcheck⟩ | ⟨hmembers, hcheck⟩
      · rw [hcheck]
        exact .nothing rfl hnames (hunion.symm.trans hmembers) message
      · rw [hcheck]
        exact .single rfl hnames (hunion.symm.trans hmembers)
      · rw [hcheck]
        exact .undecided rfl fun _ => hunion ▸ hmembers
    · rw [checkSnapshotClass_of_unrestricted (permittedSnapshotClasses_of_not_names hnames)]
      exact .undecided rfl fun h => absurd h hnames
  · cases hpermits : (p.permittedSnapshotClasses storageClass).permits requested with
    | true =>
      rw [checkSnapshotClass_of_permits hempty hpermits]
      exact .named hempty hpermits
    | false =>
      obtain ⟨message, h⟩ := checkSnapshotClass_of_not_permits hempty hpermits
      rw [h]
      exact .forbidden hempty hpermits message

/-- When a request is forbidden. -/
theorem checkSnapshotClass_forbidden_iff :
    (∃ message, p.checkSnapshotClass storageClass requested =
        .error (.permissionDenied message)) ↔
      (requested ≠ "" ∧ (p.permittedSnapshotClasses storageClass).permits requested = false) ∨
        (requested = "" ∧ Names p.snapshotMapping storageClass ∧
          union p.snapshotMapping storageClass = ∅) := by
  have houtcome := checkSnapshotClass_outcome p storageClass requested
  generalize p.checkSnapshotClass storageClass requested = x at houtcome
  cases houtcome with
  | named hne h => simp [hne, h]
  | forbidden hne h message => simp [hne, h]
  | nothing hempty hnames h message => simp [hempty, hnames, h]
  | single hempty hnames h => simp [hempty, h]
  | undecided hempty h =>
    have hmany : ¬ (Names p.snapshotMapping storageClass ∧
        union p.snapshotMapping storageClass = ∅) :=
      fun hboth => (h hboth.1).nonempty.ne_empty hboth.2
    simp [hempty, hmany]

/-- When a class is used, and which. -/
theorem checkSnapshotClass_use_iff {name : String} :
    p.checkSnapshotClass storageClass requested = .ok (.use name) ↔
      (requested ≠ "" ∧ name = requested ∧
          (p.permittedSnapshotClasses storageClass).permits requested = true) ∨
        (requested = "" ∧ Names p.snapshotMapping storageClass ∧
          union p.snapshotMapping storageClass = {name}) := by
  have houtcome := checkSnapshotClass_outcome p storageClass requested
  generalize p.checkSnapshotClass storageClass requested = x at houtcome
  cases houtcome with
  | named hne h => simp [hne, h, eq_comm]
  | forbidden hne h message => simp [hne, h]
  | nothing hempty hnames h message =>
    have hnone : (∅ : Set String) ≠ {name} := (Set.singleton_ne_empty name).symm
    simp [hempty, h, hnone]
  | single hempty hnames h => simp [hempty, hnames, h]
  | undecided hempty h =>
    have hmany : ¬ (Names p.snapshotMapping storageClass ∧
        union p.snapshotMapping storageClass = {name}) :=
      fun hboth => (h hboth.1).ne_singleton hboth.2
    simp [hempty, hmany]

/-- When the default is looked for, and within what. -/
theorem checkSnapshotClass_useDefault_iff {restriction : SnapshotRestriction} :
    p.checkSnapshotClass storageClass requested = .ok (.useDefault restriction) ↔
      requested = "" ∧ restriction = p.permittedSnapshotClasses storageClass ∧
        (Names p.snapshotMapping storageClass →
          (union p.snapshotMapping storageClass).Nontrivial) := by
  have houtcome := checkSnapshotClass_outcome p storageClass requested
  generalize p.checkSnapshotClass storageClass requested = x at houtcome
  cases houtcome with
  | named hne h => simp [hne]
  | forbidden hne h message => simp [hne]
  | nothing hempty hnames h message => simp [hnames, h]
  | single hempty hnames h => simp [hnames, h]
  | undecided hempty h =>
    constructor
    · intro heq
      exact ⟨hempty, (SnapshotDecision.useDefault.inj (Except.ok.inj heq)).symm, h⟩
    · rintro ⟨-, rfl, -⟩
      rfl

/-! ### Mappings that permit the same -/

/-- Two mappings differ in what does not matter to a storage class. -/
inductive Remapped (storageClass : String) : List SnapshotMapping → List SnapshotMapping → Prop where
  /-- Their entries are in another order. -/
  | permuted {entries entries' : List SnapshotMapping} (h : entries.Perm entries') :
      Remapped storageClass entries entries'
  /-- An entry is repeated anywhere. -/
  | repeated (front back : List SnapshotMapping) {m : SnapshotMapping} (h : m ∈ front ++ back) :
      Remapped storageClass (front ++ back) (front ++ m :: back)
  /-- The names inside an entry are in another order, or repeated. -/
  | renamed (front back : List SnapshotMapping) {m m' : SnapshotMapping}
      (hkeys : ∀ name, name ∈ m'.storageClasses ↔ name ∈ m.storageClasses)
      (hvalues : ∀ name, name ∈ m'.snapshotClasses ↔ name ∈ m.snapshotClasses) :
      Remapped storageClass (front ++ m :: back) (front ++ m' :: back)
  /-- An entry is added that does not name the storage class. -/
  | added (front back : List SnapshotMapping) {m : SnapshotMapping}
      (h : storageClass ∉ m.storageClasses) :
      Remapped storageClass (front ++ back) (front ++ m :: back)
  /-- Such a change is undone. -/
  | symm {entries entries' : List SnapshotMapping} (h : Remapped storageClass entries entries') :
      Remapped storageClass entries' entries
  /-- One such change follows another. -/
  | trans {entries entries' entries'' : List SnapshotMapping}
      (h : Remapped storageClass entries entries') (h' : Remapped storageClass entries' entries'') :
      Remapped storageClass entries entries''

/-- Such mappings have the same to say about the storage class: where one has an entry that names
the storage class and has certain snapshot classes in it, the other has one too. -/
theorem Remapped.exists_iff {entries entries' : List SnapshotMapping}
    (h : Remapped storageClass entries entries') {P : SnapshotMapping → Prop}
    (hP : ∀ m m' : SnapshotMapping,
      (∀ name, name ∈ m'.snapshotClasses ↔ name ∈ m.snapshotClasses) → (P m' ↔ P m)) :
    (∃ m ∈ entries', storageClass ∈ m.storageClasses ∧ P m) ↔
      ∃ m ∈ entries, storageClass ∈ m.storageClasses ∧ P m := by
  induction h with
  | permuted h => simp only [h.mem_iff]
  | @repeated front back m h =>
    have hmem : ∀ other, other ∈ front ++ m :: back ↔ other ∈ front ++ back := by
      intro other
      simp only [List.mem_append, List.mem_cons] at h ⊢
      constructor
      · rintro (hfront | rfl | hback)
        · exact .inl hfront
        · exact h
        · exact .inr hback
      · rintro (hfront | hback)
        · exact .inl hfront
        · exact .inr (.inr hback)
    simp only [hmem]
  | renamed front back hkeys hvalues =>
    simp only [List.mem_append, List.mem_cons, or_and_right, exists_or, exists_eq_left, hkeys,
      hP _ _ hvalues]
  | added front back h =>
    simp only [List.mem_append, List.mem_cons, or_and_right, exists_or, exists_eq_left, h,
      false_and, false_or]
  | symm _ ih => exact ih.symm
  | trans _ _ ih ih' => exact ih'.trans ih

theorem Remapped.names_iff {entries entries' : List SnapshotMapping}
    (h : Remapped storageClass entries entries') :
    Names entries' storageClass ↔ Names entries storageClass := by
  simpa [Names] using h.exists_iff (P := fun _ => True) fun _ _ _ => Iff.rfl

theorem Remapped.union_eq {entries entries' : List SnapshotMapping}
    (h : Remapped storageClass entries entries') :
    union entries' storageClass = union entries storageClass := by
  ext name
  exact h.exists_iff fun _ _ hvalues => hvalues name

/-- What is permitted follows from the union. -/
theorem permittedSnapshotClasses_congr
    (hnames : Names p'.snapshotMapping storageClass ↔ Names p.snapshotMapping storageClass)
    (hunion : union p'.snapshotMapping storageClass = union p.snapshotMapping storageClass) :
    p'.permittedSnapshotClasses storageClass = p.permittedSnapshotClasses storageClass := by
  by_cases h : Names p.snapshotMapping storageClass
  · obtain ⟨classes, honly, hmembers⟩ := permittedSnapshotClasses_of_names h
    obtain ⟨classes', honly', hmembers'⟩ := permittedSnapshotClasses_of_names (hnames.2 h)
    rw [honly, honly']
    apply congrArg
    apply NameSet.members_inj.1
    rw [hmembers, hmembers', hunion]
  · rw [permittedSnapshotClasses_of_not_names h,
      permittedSnapshotClasses_of_not_names (mt hnames.1 h)]

/-- What becomes of a request follows from what is permitted. -/
theorem checkSnapshotClass_congr
    (h : p'.permittedSnapshotClasses storageClass = p.permittedSnapshotClasses storageClass)
    (requested : String) :
    p'.checkSnapshotClass storageClass requested = p.checkSnapshotClass storageClass requested := by
  unfold checkSnapshotClass
  rw [h]

/-- **What is permitted is the union of the mapping, and decides alone.** Anything is permitted for
a storage class exactly if no entry names it, and otherwise the union of the snapshot classes of all
entries that do. A request is forbidden exactly if it is for a class that is not permitted, or for
none where the union is empty. The class that is requested is used if it is permitted, and where
none is requested the only one of the union; in all other cases the default is looked for, within
what is permitted. All this stays as it is when entries, or names inside them, change their order or
are repeated, and when entries are added that do not name the storage class. -/
theorem snapshotRestriction_exact (p : Policy) (storageClass : String) :
    let permitted := p.permittedSnapshotClasses storageClass
    let named := Names p.snapshotMapping storageClass
    let all := union p.snapshotMapping storageClass
    (permitted = .unrestricted ↔ ¬ named) ∧
    (named → ∃ classes, permitted = .only classes ∧ classes.members = all) ∧
    (∀ name, permitted.permits name = true ↔ (named → name ∈ all)) ∧
    (∀ requested, let answer := p.checkSnapshotClass storageClass requested
      ((∃ message, answer = .error (.permissionDenied message)) ↔
        (requested ≠ "" ∧ permitted.permits requested = false) ∨
          (requested = "" ∧ named ∧ all = ∅)) ∧
      (∀ name, answer = .ok (.use name) ↔
        (requested ≠ "" ∧ name = requested ∧ permitted.permits requested = true) ∨
          (requested = "" ∧ named ∧ all = {name})) ∧
      ∀ restriction, answer = .ok (.useDefault restriction) ↔
        requested = "" ∧ restriction = permitted ∧ (named → all.Nontrivial)) ∧
    ∀ entries, Remapped storageClass p.snapshotMapping entries →
      { p with snapshotMapping := entries }.permittedSnapshotClasses storageClass = permitted ∧
      ∀ requested, { p with snapshotMapping := entries }.checkSnapshotClass storageClass requested =
        p.checkSnapshotClass storageClass requested := by
  intro permitted named all
  refine ⟨permittedSnapshotClasses_eq_unrestricted_iff, permittedSnapshotClasses_of_names,
    fun name => permits_iff, fun requested => ⟨checkSnapshotClass_forbidden_iff,
      fun name => checkSnapshotClass_use_iff, fun restriction => checkSnapshotClass_useDefault_iff⟩,
    fun entries h => ?_⟩
  have hpermitted :
      { p with snapshotMapping := entries }.permittedSnapshotClasses storageClass = permitted := by
    apply permittedSnapshotClasses_congr
    · exact h.names_iff
    · exact h.union_eq
  exact ⟨hpermitted, checkSnapshotClass_congr hpermitted⟩

/-- A policy with two entries for the storage class `gold`, which have one class in common. -/
def overlapping : Policy where
  snapshotMapping :=
    [⟨["gold", "silver"], ["nightly"]⟩, ⟨["silver"], ["weekly"]⟩, ⟨["gold"], ["nightly"]⟩]

/-- The entries for `gold` alone, one of them with its names repeated. -/
def overlappingGold : List SnapshotMapping :=
  [⟨["gold"], ["nightly", "nightly"]⟩, ⟨["gold", "silver"], ["nightly"]⟩]

theorem remapped_overlapping :
    Remapped "gold" overlapping.snapshotMapping overlappingGold := by
  have hdropped : Remapped "gold" overlapping.snapshotMapping
      [⟨["gold", "silver"], ["nightly"]⟩, ⟨["gold"], ["nightly"]⟩] :=
    .symm (.added [⟨["gold", "silver"], ["nightly"]⟩] [⟨["gold"], ["nightly"]⟩] (by decide))
  exact hdropped.trans (.trans (.permuted (.swap _ _ _)) (.renamed [] _ (by simp) (by simp)))

/-- Without a request the one class of the union is used, and another that is requested is
forbidden; so they are by the shorter mapping. -/
theorem snapshotRestriction_exact_overlapping :
    Names overlapping.snapshotMapping "gold" ∧
      union overlapping.snapshotMapping "gold" = {"nightly"} ∧
      overlapping.checkSnapshotClass "gold" "" = .ok (.use "nightly") ∧
      (∃ message, overlapping.checkSnapshotClass "gold" "weekly" =
        .error (.permissionDenied message)) ∧
      Remapped "gold" overlapping.snapshotMapping overlappingGold ∧
      { overlapping with snapshotMapping := overlappingGold }.checkSnapshotClass "gold" "weekly" =
        overlapping.checkSnapshotClass "gold" "weekly" := by
  have hnames : Names overlapping.snapshotMapping "gold" := ⟨_, List.mem_cons_self, by decide⟩
  have hunion : union overlapping.snapshotMapping "gold" = {"nightly"} := by
    ext name
    simp [union, overlapping]
  obtain ⟨-, -, -, hrequests, hremapped⟩ := snapshotRestriction_exact overlapping "gold"
  refine ⟨hnames, hunion, ((hrequests "").2.1 "nightly").2 (.inr ⟨rfl, hnames, hunion⟩),
    (hrequests "weekly").1.2 (.inl ⟨by decide, by decide⟩), remapped_overlapping,
    (hremapped _ remapped_overlapping).2 "weekly"⟩

end Policy

end Hotplug
