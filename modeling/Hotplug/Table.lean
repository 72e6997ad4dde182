/-!
# Tables: finite maps from text keys

Labels, contexts, parameters and annotations are maps from text. A table keeps its entries in
ascending order of keys, each key once, so that two tables with the same entries are equal and
every listing of one has the order that answers show.

## Main definitions

* `Table` — the entries with the proof that their keys ascend.
* `Table.get?`, `Table.insert`, `Table.ofList` — looking up, writing, and reading a list whose
  later entries win.
-/

namespace Hotplug

/-- Writes an entry into an ascending list of entries. -/
def insertEntry {α : Type} (key : String) (value : α) :
    List (String × α) → List (String × α)
  | [] => [(key, value)]
  | (k, v) :: rest =>
    if key < k then (key, value) :: (k, v) :: rest
    else if key = k then (key, value) :: rest
    else (k, v) :: insertEntry key value rest

/-- A key of the list after a write is the key written or was there before. -/
theorem mem_insertEntry {α : Type} {key : String} {value : α} {entries : List (String × α)}
    {e : String × α} (h : e ∈ insertEntry key value entries) :
    e = (key, value) ∨ e ∈ entries := by
  induction entries with
  | nil => simpa [insertEntry] using h
  | cons p rest ih =>
    obtain ⟨k, v⟩ := p
    unfold insertEntry at h
    split at h
    · simpa using h
    · split at h
      · rcases List.mem_cons.1 h with h | h
        · exact .inl h
        · exact .inr (List.mem_cons_of_mem _ h)
      · rcases List.mem_cons.1 h with h | h
        · exact .inr (by simp [h])
        · rcases ih h with h | h
          · exact .inl h
          · exact .inr (List.mem_cons_of_mem _ h)

/-- A write keeps the keys ascending. -/
theorem insertEntry_ordered {α : Type} (key : String) (value : α) {entries : List (String × α)}
    (h : entries.Pairwise (fun a b => a.1 < b.1)) :
    (insertEntry key value entries).Pairwise (fun a b => a.1 < b.1) := by
  induction entries with
  | nil => simp [insertEntry]
  | cons p rest ih =>
    obtain ⟨k, v⟩ := p
    obtain ⟨hk, hrest⟩ := List.pairwise_cons.1 h
    unfold insertEntry
    split
    · next hlt =>
      refine List.pairwise_cons.2 ⟨fun e he => ?_, h⟩
      rcases List.mem_cons.1 he with rfl | he
      · exact hlt
      · exact String.lt_trans hlt (hk e he)
    · split
      · next heq =>
        subst heq
        exact List.pairwise_cons.2 ⟨hk, hrest⟩
      · next hlt hne =>
        refine List.pairwise_cons.2 ⟨fun e he => ?_, ih hrest⟩
        rcases mem_insertEntry he with rfl | he
        · have hle : k ≤ key := String.not_lt.1 hlt
          rcases Decidable.em (k < key) with hlt' | hnot
          · exact hlt'
          · exact absurd (String.le_antisymm (String.not_lt.1 hnot) hle) hne
        · exact hk e he

/-- A finite map from text keys, as its entries in ascending order of keys. -/
structure Table (α : Type) where
  /-- The entries. -/
  entries : List (String × α)
  /-- Their keys ascend. -/
  ordered : entries.Pairwise (fun a b => a.1 < b.1)
  deriving DecidableEq

namespace Table

variable {α : Type}

/-- The table without entries. -/
def empty : Table α :=
  ⟨[], List.Pairwise.nil⟩

instance : Inhabited (Table α) := ⟨empty⟩

instance [Repr α] : Repr (Table α) := ⟨fun t prec => reprPrec t.entries prec⟩

/-- The value of a key. -/
def get? (t : Table α) (key : String) : Option α :=
  (t.entries.find? (·.1 == key)).map (·.2)

/-- The table with `value` under `key`, in place of what was there. -/
def insert (t : Table α) (key : String) (value : α) : Table α :=
  ⟨insertEntry key value t.entries, insertEntry_ordered key value t.ordered⟩

/-- The table of a list of entries; of several entries with one key the last counts. -/
def ofList (entries : List (String × α)) : Table α :=
  entries.foldl (fun t (k, v) => t.insert k v) empty

/-- The table with its values changed and its keys kept. -/
def map {β : Type} (f : α → β) (t : Table α) : Table β :=
  ⟨t.entries.map fun (k, v) => (k, f v), by
    have h := t.ordered
    rw [List.pairwise_map]
    exact h⟩

/-- The table with the value of one key changed, where there is one. -/
def modify (t : Table α) (key : String) (f : α → α) : Table α :=
  ⟨t.entries.map fun (k, v) => (k, if k = key then f v else v), by
    have h := t.ordered
    rw [List.pairwise_map]
    exact h⟩

/-- The table without a key. -/
def erase (t : Table α) (key : String) : Table α :=
  ⟨t.entries.filter (·.1 != key), t.ordered.filter _⟩

/-- Two tables with the same entries are equal. -/
theorem ext_entries {s t : Table α} (h : s.entries = t.entries) : s = t := by
  cases s
  cases t
  simp_all

@[simp] theorem get?_empty (key : String) : (empty : Table α).get? key = none := rfl

/-- What is found in the entries after a write. -/
theorem find?_insertEntry (key key' : String) (value : α) (entries : List (String × α)) :
    ((insertEntry key value entries).find? (·.1 == key')).map (·.2) =
      if key' = key then some value else (entries.find? (·.1 == key')).map (·.2) := by
  induction entries with
  | nil =>
    by_cases h : key' = key
    · simp [insertEntry, h]
    · simp [insertEntry, h, Ne.symm h]
  | cons p rest ih =>
    obtain ⟨k, v⟩ := p
    unfold insertEntry
    split
    · -- The entry is written in front.
      by_cases h : key' = key
      · simp [h]
      · simp [h, Ne.symm h]
    · split
      · next hk =>
        subst hk
        by_cases h : key' = key
        · simp [h]
        · simp [h, Ne.symm h]
      · next hne =>
        -- The first entry stays, and is found by its own key alone.
        by_cases hk : k = key'
        · have h : key' ≠ key := fun h => hne (hk.trans h).symm
          simp [hk, h]
        · simpa [List.find?_cons, hk] using ih

/-- A table after a write. -/
theorem get?_insert (t : Table α) (key key' : String) (value : α) :
    (t.insert key value).get? key' = if key' = key then some value else t.get? key' :=
  find?_insertEntry key key' value t.entries

/-- A key that was erased is gone. -/
theorem get?_erase_self (t : Table α) (key : String) : (t.erase key).get? key = none := by
  have hnone : (t.erase key).entries.find? (·.1 == key) = none := by
    refine List.find?_eq_none.2 fun e he => ?_
    have hother := (List.mem_filter.1 he).2
    simpa using hother
  unfold get?
  rw [hnone]
  rfl

/-- Erasing a key leaves the others as they are. -/
theorem get?_erase_of_ne (t : Table α) {key key' : String} (h : key' ≠ key) :
    (t.erase key).get? key' = t.get? key' := by
  have hsame : (t.erase key).entries.find? (·.1 == key') = t.entries.find? (·.1 == key') := by
    refine (List.find?_filter).trans (congrArg (t.entries.find? ·) (funext fun e => ?_))
    by_cases he : e.1 = key'
    · simp [he, h]
    · simp [he]
  unfold get?
  rw [hsame]

/-- A table after a change under one key. -/
theorem get?_modify (t : Table α) (key key' : String) (f : α → α) :
    (t.modify key f).get? key' = (t.get? key').map fun v => if key' = key then f v else v := by
  unfold get? modify
  rw [List.find?_map]
  -- The change keeps the keys.
  change ((t.entries.find? (·.1 == key')).map _).map _ = _
  cases hfound : t.entries.find? (·.1 == key') with
  | none => rfl
  | some e =>
    have hkey : e.1 = key' := by simpa using List.find?_some hfound
    simp [hkey]

/-- A change under a key that is not there changes nothing. -/
theorem modify_of_get?_none {t : Table α} {key : String} {f : α → α} (h : t.get? key = none) :
    t.modify key f = t := by
  have hnone : t.entries.find? (·.1 == key) = none := Option.map_eq_none_iff.1 h
  refine ext_entries ((List.map_congr_left fun e he => ?_).trans (List.map_id _))
  have hother : e.1 ≠ key := by simpa using List.find?_eq_none.1 hnone e he
  simp [hother]

end Table

end Hotplug
