import Hotplug.Table

/-!
# Tables and the lists they are made of

A table has a value under a key exactly if its entries say so. A list becomes a table entry by
entry, and the entries of a table make that table again.

## Main results

* `Table.get?_eq_some_iff` — to look up is to find an entry.
* `Table.ofList_concat` — one entry more is one write more.
* `Table.ofList_entries` — a table is the table of its entries.
-/

namespace Hotplug

variable {α : Type}

/-- A key after all others is written at the end. -/
theorem insertEntry_of_lt {key : String} {value : α} {entries : List (String × α)}
    (h : ∀ e ∈ entries, e.1 < key) : insertEntry key value entries = entries ++ [(key, value)] := by
  induction entries with
  | nil => rfl
  | cons e rest ih =>
    obtain ⟨k, v⟩ := e
    have hlt : k < key := h (k, v) List.mem_cons_self
    have hne : key ≠ k := by
      rintro rfl
      exact String.lt_irrefl key hlt
    rw [insertEntry, if_neg (String.lt_asymm hlt), if_neg hne,
      ih fun e he => h e (List.mem_cons_of_mem _ he)]
    rfl

/-- Entries in ascending order, all of them after those of a table, come after these. -/
theorem entries_foldl_insert (entries : List (String × α)) (t : Table α)
    (hordered : entries.Pairwise fun a b => a.1 < b.1)
    (hafter : ∀ a ∈ t.entries, ∀ e ∈ entries, a.1 < e.1) :
    (entries.foldl (fun t (k, v) => t.insert k v) t).entries = t.entries ++ entries := by
  induction entries generalizing t with
  | nil => exact (List.append_nil _).symm
  | cons e rest ih =>
    obtain ⟨hfirst, hrest⟩ := List.pairwise_cons.1 hordered
    have hinsert : (t.insert e.1 e.2).entries = t.entries ++ [e] :=
      insertEntry_of_lt fun a ha => hafter a ha e List.mem_cons_self
    have hlater : ∀ a ∈ (t.insert e.1 e.2).entries, ∀ e' ∈ rest, a.1 < e'.1 := by
      intro a ha e' he'
      rw [hinsert] at ha
      rcases List.mem_append.1 ha with ha | ha
      · exact hafter a ha e' (List.mem_cons_of_mem _ he')
      · rw [List.mem_singleton.1 ha]
        exact hfirst e' he'
    rw [List.foldl_cons, ih (t.insert e.1 e.2) hrest hlater, hinsert, List.append_assoc]
    rfl

namespace Table

/-- A table is the table of its entries. -/
theorem ofList_entries (t : Table α) : ofList t.entries = t :=
  ext_entries (entries_foldl_insert t.entries .empty t.ordered (by simp [empty]))

/-- One entry more is one write more. -/
theorem ofList_concat (entries : List (String × α)) (key : String) (value : α) :
    ofList (entries ++ [(key, value)]) = (ofList entries).insert key value := by
  unfold ofList
  rw [List.foldl_append]
  rfl

/-- In a list with ascending keys, an entry is the one that is found under its key. -/
theorem find?_of_mem {entries : List (String × α)} {key : String} {value : α}
    (hordered : entries.Pairwise fun a b => a.1 < b.1) (h : (key, value) ∈ entries) :
    entries.find? (·.1 == key) = some (key, value) := by
  induction entries with
  | nil => cases h
  | cons e rest ih =>
    obtain ⟨hfirst, hrest⟩ := List.pairwise_cons.1 hordered
    rcases List.mem_cons.1 h with rfl | hmem
    · simp
    · have hne : e.1 ≠ key := by
        intro heq
        have hlt : e.1 < key := hfirst _ hmem
        rw [heq] at hlt
        exact String.lt_irrefl key hlt
      rw [List.find?_cons_of_neg (by simpa using hne)]
      exact ih hrest hmem

/-- To look up is to find an entry. -/
theorem get?_eq_some_iff {t : Table α} {key : String} {value : α} :
    t.get? key = some value ↔ (key, value) ∈ t.entries := by
  unfold get?
  constructor
  · intro h
    obtain ⟨⟨k, v⟩, hfound, rfl⟩ := Option.map_eq_some_iff.1 h
    have hkey : k = key := by simpa using List.find?_some hfound
    subst hkey
    exact List.mem_of_find?_eq_some hfound
  · intro h
    rw [find?_of_mem t.ordered h]
    rfl

end Table

end Hotplug
