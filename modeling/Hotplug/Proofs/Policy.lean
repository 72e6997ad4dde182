import Hotplug.Policy.Basic

/-!
# The verdicts of the policy

## Main definitions

* `Policy.OnlyClass p c name` — the storage class `c` may be snapshotted with the class `name`
  alone.
* `Policy.OnlyBlank p c` — of snapshot classes for the storage class `c`, the policy names the empty
  text and no other.

## Main results

* `mem_names_ofNames`, `nodup_names` — the set of some names has them as members, each once.
* `checkStorageClass_eq_of_not_needs` — where no lookup is needed, it would change nothing.
* `checkSnapshotClass_cases` — the three ways in which a request for a snapshot class is granted.
* `onlyClass_blank_iff` — the empty text is the only class exactly when nothing else is listed.
-/

namespace Hotplug

/-! ### Sets of names -/

/-- The keys after a write are those before and the one written. -/
theorem mem_keys_insertEntry {α : Type} {k key : String} {value : α}
    {entries : List (String × α)} :
    k ∈ (insertEntry key value entries).map (·.1) ↔ k = key ∨ k ∈ entries.map (·.1) := by
  induction entries with
  | nil => simp [insertEntry]
  | cons e rest ih =>
    obtain ⟨key', value'⟩ := e
    unfold insertEntry
    split
    · simp
    · split
      · next heq =>
        subst heq
        simp
      · rw [List.map_cons, List.mem_cons, ih, List.map_cons, List.mem_cons]
        exact or_left_comm

/-- The keys of a table that a list is written into are those of the table and of the list. -/
theorem mem_keys_foldl_insert {α : Type} {k : String} (entries : List (String × α)) (t : Table α) :
    k ∈ (entries.foldl (fun t (key, value) => t.insert key value) t).entries.map (·.1) ↔
      k ∈ t.entries.map (·.1) ∨ k ∈ entries.map (·.1) := by
  induction entries generalizing t with
  | nil => simp
  | cons e rest ih =>
    obtain ⟨key, value⟩ := e
    have hinsert : k ∈ (t.insert key value).entries.map (·.1) ↔ k = key ∨ k ∈ t.entries.map (·.1) :=
      mem_keys_insertEntry
    rw [List.foldl_cons, ih, hinsert, List.map_cons, List.mem_cons]
    exact or_assoc.trans or_left_comm

namespace NameSet

/-- The set of some names has these members. -/
@[simp] theorem mem_names_ofNames {name : String} {list : List String} :
    name ∈ (ofNames list).names ↔ name ∈ list := by
  unfold ofNames names Table.ofList
  rw [mem_keys_foldl_insert]
  simp [Table.empty]

/-- The members of a set are listed once each. -/
theorem nodup_names (s : NameSet) : s.names.Nodup := by
  refine List.pairwise_map.2 (s.ordered.imp fun h heq => ?_)
  rw [heq] at h
  exact String.lt_irrefl _ h

theorem contains_eq_true_iff {s : NameSet} {name : String} :
    s.contains name = true ↔ name ∈ s.names :=
  List.contains_iff_mem

end NameSet

/-- A list without repetitions is a single name exactly when it has a member and no other. -/
theorem eq_singleton_iff_of_nodup {list : List String} (hnodup : list.Nodup) {name : String} :
    list = [name] ↔ list ≠ [] ∧ ∀ other ∈ list, other = name := by
  constructor
  · rintro rfl
    exact ⟨List.cons_ne_nil _ _, fun other h => List.mem_singleton.1 h⟩
  · rintro ⟨hne, hall⟩
    cases list with
    | nil => exact absurd rfl hne
    | cons a rest =>
      obtain rfl := hall a List.mem_cons_self
      cases rest with
      | nil => rfl
      | cons b rest =>
        have hb := hall b (List.mem_cons_of_mem _ List.mem_cons_self)
        have hdiff := (List.nodup_cons.1 hnodup).1
        rw [hb] at hdiff
        exact absurd List.mem_cons_self hdiff

namespace Policy

variable {p : Policy} {storageClass requested : String}

/-! ### Storage classes -/

theorem checkStorageClass_eq_ok_iff {isDefault : Bool} :
    p.checkStorageClass storageClass isDefault = .ok () ↔
      p.isAllowed storageClass isDefault = true := by
  unfold checkStorageClass
  split <;> simp_all

/-- A class that is not allowed is refused as forbidden. -/
theorem checkStorageClass_of_denied {isDefault : Bool}
    (h : p.isAllowed storageClass isDefault = false) :
    ∃ m, p.checkStorageClass storageClass isDefault = .error (.permissionDenied m) := by
  unfold checkStorageClass
  rw [h]
  exact ⟨_, rfl⟩

/-- Where the verdict does not depend on the class being the default, it does not matter what is
said of that. -/
theorem checkStorageClass_eq_of_not_needs (h : p.needsDefaultLookup storageClass = false)
    (d d' : Bool) : p.checkStorageClass storageClass d = p.checkStorageClass storageClass d' := by
  have hallowed : p.isAllowed storageClass d = p.isAllowed storageClass d' := by
    unfold needsDefaultLookup at h
    unfold isAllowed
    cases hall : p.allowAll <;> cases hlist : p.allowList.contains storageClass <;>
      cases hdefault : p.allowDefault <;> simp_all
  unfold checkStorageClass
  rw [hallowed]

/-! ### Snapshot classes -/

/-- A storage class may be snapshotted with one class alone. -/
def OnlyClass (p : Policy) (storageClass name : String) : Prop :=
  ∃ classes, p.permittedSnapshotClasses storageClass = .only classes ∧ classes.names = [name]

/-- The mappings that name a storage class list the empty text as its snapshot class, and nothing
else. -/
def OnlyBlank (p : Policy) (storageClass : String) : Prop :=
  (p.mappingsOf storageClass).flatMap (·.snapshotClasses) ≠ [] ∧
    ∀ name ∈ (p.mappingsOf storageClass).flatMap (·.snapshotClasses), name = ""

instance (p : Policy) (storageClass : String) : Decidable (p.OnlyBlank storageClass) :=
  inferInstanceAs (Decidable (_ ∧ _))

/-- The empty text is the only class that a storage class may be snapshotted with exactly when its
mappings list nothing else. -/
theorem onlyClass_blank_iff : p.OnlyClass storageClass "" ↔ p.OnlyBlank storageClass := by
  unfold OnlyClass permittedSnapshotClasses OnlyBlank
  cases hmap : p.mappingsOf storageClass with
  | nil => simp
  | cons m rest =>
    have hnames : (NameSet.ofNames ((m :: rest).flatMap (·.snapshotClasses))).names = [""] ↔ _ :=
      eq_singleton_iff_of_nodup (NameSet.nodup_names _)
    constructor
    · rintro ⟨classes, heq, hblank⟩
      obtain rfl := SnapshotRestriction.only.inj heq
      obtain ⟨hne, hall⟩ := hnames.1 hblank
      refine ⟨fun hnil => hne ?_, fun name hname => hall name (NameSet.mem_names_ofNames.2 hname)⟩
      rw [hnil]
      rfl
    · rintro ⟨hne, hall⟩
      refine ⟨_, rfl, hnames.2 ⟨fun hnil => ?_, fun name hname => ?_⟩⟩
      · obtain ⟨name, hname⟩ := List.exists_mem_of_ne_nil _ hne
        have hmem := NameSet.mem_names_ofNames.2 hname
        rw [hnil] at hmem
        exact absurd hmem List.not_mem_nil
      · exact hall name (NameSet.mem_names_ofNames.1 hname)

theorem OnlyClass.permits_iff {name other : String} (h : p.OnlyClass storageClass name) :
    (p.permittedSnapshotClasses storageClass).permits other = true ↔ other = name := by
  obtain ⟨classes, honly, hnames⟩ := h
  rw [honly]
  refine NameSet.contains_eq_true_iff.trans ?_
  rw [hnames, List.mem_singleton]

theorem OnlyClass.onlyBlank_iff {name : String} (h : p.OnlyClass storageClass name) :
    p.OnlyBlank storageClass ↔ name = "" := by
  obtain ⟨classes, honly, hnames⟩ := h
  rw [← onlyClass_blank_iff]
  constructor
  · rintro ⟨classes', hclasses, hblank⟩
    rw [honly] at hclasses
    obtain rfl := SnapshotRestriction.only.inj hclasses
    rw [hnames] at hblank
    exact (List.cons.inj hblank).1
  · rintro rfl
    exact ⟨classes, honly, hnames⟩

/-- **The three ways in which a request for a snapshot class is granted**: the class named is
permitted, or none is named and only one is permitted, or none is named and the default has to be
found and checked. -/
theorem checkSnapshotClass_cases {d : SnapshotDecision}
    (h : p.checkSnapshotClass storageClass requested = .ok d) :
    (requested ≠ "" ∧ d = .use requested ∧
        (p.permittedSnapshotClasses storageClass).permits requested = true) ∨
      (requested = "" ∧ ∃ name, p.OnlyClass storageClass name ∧ d = .use name) ∨
      (requested = "" ∧ d = .useDefault (p.permittedSnapshotClasses storageClass) ∧
        ¬ p.OnlyBlank storageClass) := by
  unfold checkSnapshotClass at h
  cases hreq : requested.isEmpty with
  | false =>
    have hne : requested ≠ "" := by
      rintro rfl
      exact absurd hreq (by decide)
    simp only [hreq, Bool.not_false, if_true] at h
    split at h
    · next hpermits => exact .inl ⟨hne, (Except.ok.inj h).symm, hpermits⟩
    · cases h
  | true =>
    have heq : requested = "" := String.isEmpty_iff.1 hreq
    simp only [hreq, Bool.not_true, Bool.false_eq_true, if_false] at h
    rw [← onlyClass_blank_iff]
    -- Without a name the decision follows the set of permitted classes and its size.
    split at h
    · next hfree =>
      refine .inr (.inr ⟨heq, (Except.ok.inj h).symm, ?_⟩)
      rintro ⟨classes, hclasses, -⟩
      rw [hfree] at hclasses
      cases hclasses
    · next classes honly =>
      split at h
      · cases h
      · next name hname =>
        exact .inr (.inl ⟨heq, name, ⟨classes, honly, hname⟩, (Except.ok.inj h).symm⟩)
      · next hmany =>
        refine .inr (.inr ⟨heq, (Except.ok.inj h).symm, ?_⟩)
        rintro ⟨classes', hclasses, hblank⟩
        rw [honly] at hclasses
        obtain rfl := SnapshotRestriction.only.inj hclasses
        exact hmany _ hblank

end Policy

end Hotplug
