import Hotplug.Files.Operations
import Mathlib.Data.List.TakeWhile

/-!
# Where paths lead by their names

A path is followed name by name. Which place its names come to can be read off the path alone, as
long as no link is met, and the path of the directory that it is in stops a name earlier.

## Main definitions

* `Path.follow`, `Path.place` — the place that names, and a path, come to.
* `Path.Canonical` — a path is absolute, and each of its names goes one place down.

## Main results

* `parts_ofParts` — the names that a path is made of are its parts.
* `parts_of_parent?` — the path of the directory has the same names but for the last.
* `place_eq_filter` — a path that does not go back up comes to the place of its names.
* `eq_of_place_eq` — canonical paths to one place are the same.
-/

namespace Hotplug.Path

variable {path parent : String}

/-! ### Parts -/

theorem slash_not_mem_of_mem_parts {name : String} (h : name ∈ parts path) :
    '/' ∉ name.toList :=
  Text.not_mem_of_mem_split h

/-- A path is the names between its slashes. -/
theorem intercalate_parts (path : String) : "/".intercalate (parts path) = path :=
  Text.intercalate_split '/' path

/-- The names that a path is made of are its parts. -/
theorem parts_ofParts {names : List String} (hnil : names ≠ []) (hroot : names ≠ [""])
    (h : ∀ name ∈ names, '/' ∉ name.toList) : parts (ofParts names) = names := by
  unfold ofParts
  rw [if_neg hroot]
  exact Text.split_intercalate hnil h

/-- A text between separators goes on with a separator where there are more parts. -/
theorem intercalate_append {sep : String} {front back : List String} (hfront : front ≠ [])
    (hback : back ≠ []) :
    sep.intercalate (front ++ back) = sep.intercalate front ++ sep ++ sep.intercalate back := by
  refine String.toList_inj.1 ?_
  simp only [String.toList_intercalate, String.toList_append, List.map_append]
  have hchars : ∀ (front back : List (List Char)), front ≠ [] → back ≠ [] →
      sep.toList.intercalate (front ++ back) =
        sep.toList.intercalate front ++ sep.toList ++ sep.toList.intercalate back := by
    intro front back hfront hback
    induction front with
    | nil => exact absurd rfl hfront
    | cons x rest ih =>
      cases rest with
      | nil =>
        obtain ⟨y, back, rfl⟩ := List.exists_cons_of_ne_nil hback
        rw [List.singleton_append, List.intercalate_cons_cons, List.intercalate_singleton]
      | cons x' rest =>
        have hrest := ih (List.cons_ne_nil _ _)
        rw [List.cons_append] at hrest
        rw [List.cons_append, List.cons_append, List.intercalate_cons_cons, hrest,
          List.intercalate_cons_cons]
        simp only [List.append_assoc]
  exact hchars _ _ (fun h => hfront (List.map_eq_nil_iff.1 h)) fun h =>
    hback (List.map_eq_nil_iff.1 h)

/-! ### The path of the directory -/

/-- Names end in what stands for the directory they are in. -/
theorem trimmed_append (names : List String) :
    ∃ selfs, names = trimmed names ++ selfs ∧ ∀ name ∈ selfs, isSelf name = true := by
  refine ⟨(names.reverse.takeWhile isSelf).reverse, ?_, fun name hname => ?_⟩
  · unfold trimmed
    rw [← List.reverse_append, List.takeWhile_append_dropWhile, List.reverse_reverse]
  · exact List.mem_takeWhile_imp (List.mem_reverse.1 hname)

/-- What is left before that ends in another name. -/
theorem trimmed_cases (names : List String) :
    trimmed names = [] ∨ ∃ front last, trimmed names = front ++ [last] ∧ isSelf last = false := by
  unfold trimmed
  cases hrest : names.reverse.dropWhile isSelf with
  | nil => exact .inl rfl
  | cons last rest =>
    refine .inr ⟨rest.reverse, last, List.reverse_cons, ?_⟩
    have hhead := List.head?_dropWhile_not isSelf names.reverse
    rw [hrest] at hhead
    exact hhead

/-- There is only one last name. -/
theorem eq_of_last {names names' tail tail' : List String} {last last' : String}
    (h : names ++ last :: tail = names' ++ last' :: tail') (hlast : isSelf last = false)
    (hlast' : isSelf last' = false) (htail : ∀ name ∈ tail, isSelf name = true)
    (htail' : ∀ name ∈ tail', isSelf name = true) : names = names' := by
  -- Otherwise the last name of one would be among what comes after the last of the other.
  have hmem : ∀ {xs ys more : List String} {x y : String}, isSelf y = false →
      (∀ name ∈ xs, isSelf name = true) → x :: xs = more ++ y :: ys → more = [] := by
    intro xs ys more x y hy hxs heq
    cases more with
    | nil => rfl
    | cons z more =>
      have hin : y ∈ xs := by
        rw [List.cons.inj heq |>.2]
        simp
      rw [hxs y hin] at hy
      cases hy
  rcases List.append_eq_append_iff.1 h with ⟨more, rfl, heq⟩ | ⟨more, rfl, heq⟩
  · rw [hmem hlast' htail heq, List.append_nil]
  · rw [hmem hlast htail' heq, List.append_nil]

/-- `Front path front` says that the path goes on from the names `front`, which may be followed by
some that stand for the directory they are in, with one more name, its last. -/
structure Front (path : String) (front : List String) (selfs : List String) (last : String)
    (tail : List String) : Prop where
  parts : parts path = front ++ (selfs ++ last :: tail)
  selfs : ∀ name ∈ selfs, isSelf name = true
  last : isSelf last = false
  tail : ∀ name ∈ tail, isSelf name = true

/-- **The path of the directory has the same names but for the last.** -/
theorem parts_of_parent? (h : parent? path = some parent) (hne : parent ≠ "") :
    ∃ front selfs last tail, Front path front selfs last tail ∧ front ≠ [] ∧
      parent = ofParts front ∧ (front = [""] ∨ parts parent = front) := by
  unfold parent? at h
  cases hparts : parts path with
  | nil => exact absurd hparts (Text.split_ne_nil '/' path)
  | cons first rest =>
    simp only [hparts] at h
    obtain ⟨tail, htail, htailSelf⟩ := trimmed_append rest
    rcases trimmed_cases rest with hnil | ⟨names, last, hlast, hlastSelf⟩
    · -- There is no name before which the path could stop.
      simp only [hnil] at h
      split at h
      · cases h
      · exact absurd (Option.some.inj h).symm hne
    · simp only [hlast] at h
      obtain ⟨selfs, hselfs, hselfsSelf⟩ := trimmed_append names
      have hparent : parent = ofParts (first :: trimmed names) := by
        cases hnames : names ++ [last] with
        | nil => simp at hnames
        | cons x xs =>
          rw [hnames] at h
          have hfound := (Option.some.inj h).symm
          rwa [← hnames, List.dropLast_concat] at hfound
      have hall : parts path = (first :: trimmed names) ++ (selfs ++ last :: tail) := by
        have hrest : rest = trimmed names ++ (selfs ++ last :: tail) :=
          calc rest = names ++ [last] ++ tail := by rw [← hlast, ← htail]
            _ = trimmed names ++ selfs ++ [last] ++ tail := by rw [← hselfs]
            _ = trimmed names ++ (selfs ++ last :: tail) := by simp
        rw [hparts, hrest, List.cons_append]
      refine ⟨first :: trimmed names, selfs, last, tail, ⟨hall, hselfsSelf, hlastSelf, htailSelf⟩,
        List.cons_ne_nil _ _, hparent, ?_⟩
      by_cases hroot : first :: trimmed names = [""]
      · exact .inl hroot
      · refine .inr ?_
        rw [hparent]
        refine parts_ofParts (List.cons_ne_nil _ _) hroot fun name hname => ?_
        have hmem : name ∈ parts path := by
          rw [hall]
          exact List.mem_append_left _ hname
        exact slash_not_mem_of_mem_parts hmem

/-- A path goes on from the path of its directory. -/
theorem exists_append_of_parent? (h : parent? path = some parent) (hne : parent ≠ "") :
    ∃ rest, path = parent ++ rest := by
  obtain ⟨front, selfs, last, tail, hfront, hnil, rfl, -⟩ := parts_of_parent? h hne
  have hpath := intercalate_parts path
  rw [hfront.parts, intercalate_append hnil (by simp)] at hpath
  unfold ofParts
  split
  · next hroot =>
    rw [hroot] at hpath
    exact ⟨"/".intercalate (selfs ++ last :: tail), by rw [← hpath]; simp⟩
  · exact ⟨"/" ++ "/".intercalate (selfs ++ last :: tail), by rw [← hpath, String.append_assoc]⟩

/-! ### The place of a path -/

/-- The place that names come to from a place, where there are no links. -/
def follow : Place → List String → Place
  | place, [] => place
  | place, part :: rest =>
    if isSelf part then follow place rest
    else if part = ".." then follow place.dropLast rest
    else follow (place ++ [part]) rest

/-- The place that a path comes to, where there are no links. -/
def place (path : String) : Place :=
  follow [] (parts path)

theorem follow_append (start : Place) (front back : List String) :
    follow start (front ++ back) = follow (follow start front) back := by
  induction front generalizing start with
  | nil => rfl
  | cons part rest ih =>
    rw [List.cons_append, follow, follow]
    split
    · exact ih start
    · split
      · exact ih _
      · exact ih _

theorem follow_of_selfs {start : Place} {names : List String}
    (h : ∀ name ∈ names, isSelf name = true) : follow start names = start := by
  induction names with
  | nil => rfl
  | cons name rest ih =>
    rw [follow, if_pos (h name List.mem_cons_self)]
    exact ih fun name' hname' => h name' (List.mem_cons_of_mem _ hname')

/-- Names that do not go back up lead down by those that do not stand for the directory they are
in. -/
theorem follow_eq_append {start : Place} {names : List String} (h : ".." ∉ names) :
    follow start names = start ++ names.filter fun name => !isSelf name := by
  induction names generalizing start with
  | nil => simp [follow]
  | cons name rest ih =>
    rw [List.mem_cons, not_or] at h
    rw [follow]
    cases hself : isSelf name with
    | true => simp [hself, ih h.2]
    | false => simp [hself, ih h.2, Ne.symm h.1]

theorem place_eq_filter (h : ".." ∉ parts path) :
    place path = (parts path).filter fun name => !isSelf name := by
  rw [place, follow_eq_append h, List.nil_append]

/-- A path is canonical: it begins at the root, and each of its names goes one place down. -/
def Canonical (path : String) : Prop :=
  ∃ names : List String, path = ofParts ("" :: names) ∧
    ∀ name ∈ names, isSelf name = false ∧ name ≠ ".." ∧ '/' ∉ name.toList

/-- A canonical path does not go back up, and comes to the place of its names. -/
theorem Canonical.exists_place (h : Canonical path) :
    ".." ∉ parts path ∧ path = ofParts ("" :: place path) := by
  obtain ⟨names, rfl, hnames⟩ := h
  cases hnil : names with
  | nil => exact ⟨by decide, by decide⟩
  | cons first rest =>
    rw [← hnil]
    have hparts : parts (ofParts ("" :: names)) = "" :: names := by
      refine parts_ofParts (List.cons_ne_nil _ _) (by simp [hnil]) fun name hname => ?_
      rcases List.mem_cons.1 hname with rfl | hname
      · simp
      · exact (hnames name hname).2.2
    have hup : ".." ∉ parts (ofParts ("" :: names)) := by
      rw [hparts, List.mem_cons, not_or]
      exact ⟨by decide, fun hmem => (hnames _ hmem).2.1 rfl⟩
    refine ⟨hup, ?_⟩
    rw [place_eq_filter hup, hparts, List.filter_cons_of_neg (by decide)]
    rw [List.filter_eq_self.2 fun name hname => by simp [(hnames name hname).1]]

/-- Canonical paths to one place are the same. -/
theorem eq_of_place_eq {path' : String} (h : Canonical path) (h' : Canonical path')
    (heq : place path = place path') : path = path' := by
  rw [h.exists_place.2, h'.exists_place.2, heq]

end Hotplug.Path
