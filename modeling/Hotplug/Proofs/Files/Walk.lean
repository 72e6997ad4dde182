import Hotplug.Proofs.Files.Path
import Hotplug.Proofs.Success

/-!
# Following paths in a tree without links

Without links a path is followed in one stride: it leads to the place of its names, through
directories that are all there, or nowhere. So what is there is found by the same paths when more
is made, and what else is removed does no harm.

## Main definitions

* `FileTree.LinkFree t` — no entry of the tree is a link.
* `FileTree.Within t t'` — every entry of `t` is one of `t'`.
* `FileTree.Present t path` — a path leads to something.

## Main results

* `stride_append` — names are followed one after the other.
* `eq_follow_of_stride` — they lead to the place that they come to.
* `kind_eq_ok_iff`, `locate_eq_ok_iff` — what a path leads to, and the directory of its last name.
* `kind_of_within` — a path leads where it led before when entries are added.
* `isDir_parent` — a path to a directory passes through the directory that it is in.
* `kind_remove` — a path leads where it led before when something else is removed.
-/

namespace Hotplug.FileTree

variable {t t' : FileTree} {place : Place} {path : String}

/-! ### Trees -/

/-- No entry of a tree is a link. -/
def LinkFree (t : FileTree) : Prop :=
  ∀ place target, t.lookup? place ≠ some (.link target)

/-- Every entry of one tree is one of the other. -/
def Within (t t' : FileTree) : Prop :=
  ∀ place e, t.lookup? place = some e → t'.lookup? place = some e

theorem Within.refl (t : FileTree) : t.Within t :=
  fun _ _ h => h

theorem Within.trans {t'' : FileTree} (h : t.Within t') (h' : t'.Within t'') : t.Within t'' :=
  fun place e he => h' place e (h place e he)

/-- A tree is within the one with a new entry. -/
theorem within_put {e : Entry} (hnone : t.lookup? place = none) : t.Within (t.put place e) := by
  intro other e' he'
  have hne : other ≠ place := by
    rintro rfl
    rw [hnone] at he'
    cases he'
  rw [lookup?_put_of_ne t e hne, he']

/-- A tree that differs from one without links in one place, where there is no link, has none. -/
theorem LinkFree.of_lookup?_of_ne (h : t.LinkFree)
    (hother : ∀ other, other ≠ place → t'.lookup? other = t.lookup? other)
    (hplace : place ≠ [] → ∀ target, t'.lookup? place ≠ some (.link target)) : t'.LinkFree := by
  intro other target hlink
  by_cases hsame : other = place
  · subst hsame
    cases other with
    | nil => cases hlink
    | cons name rest => exact hplace (List.cons_ne_nil _ _) target hlink
  · rw [hother other hsame] at hlink
    exact h other target hlink

theorem LinkFree.put {e : Entry} (h : t.LinkFree) (he : ∀ target, e ≠ .link target) :
    (t.put place e).LinkFree := by
  refine h.of_lookup?_of_ne (fun _ hne => lookup?_put_of_ne t e hne) fun hne target hlink => ?_
  rw [lookup?_put_self t e hne] at hlink
  exact he target (Option.some.inj hlink)

/-- What was removed is gone. -/
theorem lookup?_remove_self (t : FileTree) (hne : place ≠ []) :
    (t.remove place).lookup? place = none := by
  have hnone : (t.remove place).entries.find? (·.1 == place) = none := by
    refine List.find?_eq_none.2 fun e he => ?_
    have hother := (List.mem_filter.1 he).2
    simpa using hother
  unfold lookup?
  rw [hnone, if_neg (by simpa using hne)]
  rfl

/-- Removing an entry leaves all other places as they are. -/
theorem lookup?_remove_of_ne (t : FileTree) {other : Place} (h : other ≠ place) :
    (t.remove place).lookup? other = t.lookup? other := by
  have hsame : (t.remove place).entries.find? (·.1 == other) =
      t.entries.find? (·.1 == other) := by
    refine (List.find?_filter).trans (congrArg (t.entries.find? ·) (funext fun e => ?_))
    by_cases he : e.1 = other
    · simp [he, h]
    · simp [he]
  unfold lookup?
  rw [hsame]

theorem LinkFree.remove (h : t.LinkFree) : (t.remove place).LinkFree := by
  refine h.of_lookup?_of_ne (fun _ hne => lookup?_remove_of_ne t hne) fun hne target hlink => ?_
  rw [lookup?_remove_self t hne] at hlink
  cases hlink

/-- Nothing is below an empty directory. -/
theorem lookup?_of_isEmptyAt {name : String} (h : t.isEmptyAt place = true) :
    t.lookup? (place ++ [name]) = none := by
  have hnone : t.entries.find? (·.1 == place ++ [name]) = none := by
    refine List.find?_eq_none.2 fun e he hplace => ?_
    have hentry := List.all_eq_true.1 h e he
    rw [beq_iff_eq] at hplace
    simp [hplace] at hentry
  unfold lookup?
  rw [hnone, if_neg (by simp)]
  rfl

/-! ### Strides -/

/-- One name more. -/
theorem stride_cons (t : FileTree) (place : Place) (part : String) (rest : List String) :
    stride t place (part :: rest) =
      match t.lookup? place with
      | some .directory =>
        if Path.isSelf part then stride t place rest
        else if part = ".." then stride t place.dropLast rest
        else if maxName < part.utf8ByteSize then .failed .nameTooLong
        else
          match t.lookup? (place ++ [part]) with
          | none => .failed .missing
          | some (.link target) => .link place target rest
          | some _ => stride t (place ++ [part]) rest
      | _ => .failed .notDirectory := rfl

/-- **The ways in which a stride gets past a name**: from a directory, by staying, by going up, or
by going down to what is there. -/
theorem stride_cons_arrived_iff {part : String} {rest : List String} {goal : Place} :
    stride t place (part :: rest) = .arrived goal ↔
      t.lookup? place = some .directory ∧
        ((Path.isSelf part = true ∧ stride t place rest = .arrived goal) ∨
          (Path.isSelf part = false ∧ part = ".." ∧ stride t place.dropLast rest = .arrived goal) ∨
          (Path.isSelf part = false ∧ part ≠ ".." ∧ part.utf8ByteSize ≤ maxName ∧
            (∃ e, t.lookup? (place ++ [part]) = some e ∧ ∀ target, e ≠ .link target) ∧
            stride t (place ++ [part]) rest = .arrived goal)) := by
  rw [stride_cons]
  cases hplace : t.lookup? place with
  | none => simp
  | some e =>
    cases e with
    | file size => simp
    | blockDevice size => simp
    | link target => simp
    | directory =>
      cases hself : Path.isSelf part with
      | true => simp
      | false =>
        by_cases hup : part = ".."
        · simp [hup]
        · by_cases hlong : maxName < part.utf8ByteSize
          · simp [hup, hlong, Nat.not_le.2 hlong]
          · cases hnext : t.lookup? (place ++ [part]) with
            | none => simp [hup, hlong]
            | some e => cases e <;> simp [hup, hlong, Nat.le_of_not_lt hlong]

/-- Names are followed one after the other. -/
theorem stride_append {front back : List String} {middle : Place}
    (h : stride t place front = .arrived middle) :
    stride t place (front ++ back) = stride t middle back := by
  induction front generalizing place with
  | nil =>
    obtain rfl := Stride.arrived.inj h
    rfl
  | cons part rest ih =>
    obtain ⟨hdir, hcases⟩ := stride_cons_arrived_iff.1 h
    rw [List.cons_append, stride_cons, hdir]
    rcases hcases with ⟨hself, hrest⟩ | ⟨hself, hup, hrest⟩ |
      ⟨hself, hup, hshort, ⟨e, he, hlink⟩, hrest⟩
    · simp [hself, ih hrest]
    · subst hup
      simp [hself, ih hrest]
    · cases e with
      | link target => exact absurd rfl (hlink target)
      | _ => simp [hself, hup, Nat.not_lt.2 hshort, he, ih hrest]

/-- Who arrives has come through every name on the way. -/
theorem exists_stride_of_append {front back : List String} {goal : Place}
    (h : stride t place (front ++ back) = .arrived goal) :
    ∃ middle, stride t place front = .arrived middle ∧ stride t middle back = .arrived goal := by
  induction front generalizing place with
  | nil => exact ⟨place, rfl, h⟩
  | cons part rest ih =>
    obtain ⟨hdir, hcases⟩ := stride_cons_arrived_iff.1 h
    rcases hcases with ⟨hself, hrest⟩ | ⟨hself, hup, hrest⟩ | ⟨hself, hup, hshort, he, hrest⟩
    · obtain ⟨middle, hfront, hback⟩ := ih hrest
      exact ⟨middle, stride_cons_arrived_iff.2 ⟨hdir, .inl ⟨hself, hfront⟩⟩, hback⟩
    · obtain ⟨middle, hfront, hback⟩ := ih hrest
      exact ⟨middle, stride_cons_arrived_iff.2 ⟨hdir, .inr (.inl ⟨hself, hup, hfront⟩)⟩, hback⟩
    · obtain ⟨middle, hfront, hback⟩ := ih hrest
      exact ⟨middle, stride_cons_arrived_iff.2
        ⟨hdir, .inr (.inr ⟨hself, hup, hshort, he, hfront⟩)⟩, hback⟩

/-- Names that stand for the directory they are in lead nowhere else. -/
theorem stride_selfs {names : List String} (hdir : t.lookup? place = some .directory)
    (h : ∀ name ∈ names, Path.isSelf name = true) : stride t place names = .arrived place := by
  induction names with
  | nil => rfl
  | cons name rest ih =>
    have hself := h name List.mem_cons_self
    have hrest := ih fun name' hname' => h name' (List.mem_cons_of_mem _ hname')
    exact stride_cons_arrived_iff.2 ⟨hdir, .inl ⟨hself, hrest⟩⟩

/-- Names lead to the place that they come to. -/
theorem eq_follow_of_stride {names : List String} {goal : Place}
    (h : stride t place names = .arrived goal) : goal = Path.follow place names := by
  induction names generalizing place with
  | nil => exact (Stride.arrived.inj h).symm
  | cons name rest ih =>
    obtain ⟨-, hcases⟩ := stride_cons_arrived_iff.1 h
    rw [Path.follow]
    rcases hcases with ⟨hself, hrest⟩ | ⟨hself, hup, hrest⟩ | ⟨hself, hup, -, -, hrest⟩
    · rw [if_pos hself, ih hrest]
    · rw [if_neg (by simp [hself]), if_pos hup, ih hrest]
    · rw [if_neg (by simp [hself]), if_neg hup, ih hrest]

/-- Names lead where they led before when entries are added. -/
theorem stride_of_within {names : List String} {goal : Place} (h : t.Within t')
    (hgoal : stride t place names = .arrived goal) : stride t' place names = .arrived goal := by
  induction names generalizing place with
  | nil => exact hgoal
  | cons name rest ih =>
    obtain ⟨hdir, hcases⟩ := stride_cons_arrived_iff.1 hgoal
    refine stride_cons_arrived_iff.2 ⟨h _ _ hdir, ?_⟩
    rcases hcases with ⟨hself, hrest⟩ | ⟨hself, hup, hrest⟩ |
      ⟨hself, hup, hshort, ⟨e, he, hlink⟩, hrest⟩
    · exact .inl ⟨hself, ih hrest⟩
    · exact .inr (.inl ⟨hself, hup, ih hrest⟩)
    · exact .inr (.inr ⟨hself, hup, hshort, ⟨e, h _ _ he, hlink⟩, ih hrest⟩)

/-- In a tree without links none is met. -/
theorem stride_cases (h : t.LinkFree) (place : Place) (names : List String) :
    (∃ goal, stride t place names = .arrived goal) ∨
      ∃ e, stride t place names = .failed e := by
  induction names generalizing place with
  | nil => exact .inl ⟨place, rfl⟩
  | cons name rest ih =>
    rw [stride_cons]
    split
    · split
      · exact ih place
      · split
        · exact ih _
        · split
          · exact .inr ⟨_, rfl⟩
          · split
            · exact .inr ⟨_, rfl⟩
            · next target hlink => exact absurd hlink (h _ target)
            · exact ih _
    · exact .inr ⟨_, rfl⟩

/-! ### Walks -/

theorem walk_eq_ok_iff (h : t.LinkFree) {links links' : Nat} {names : List String}
    {goal : Place} :
    walk t links place names = .ok (goal, links') ↔
      stride t place names = .arrived goal ∧ links' = links := by
  rw [walk]
  rcases stride_cases h place names with ⟨goal', hgoal⟩ | ⟨e, he⟩
  · simp [hgoal, eq_comm]
  · simp [he]

/-- **What a path leads to**, in a tree without links: it can be asked about, its names lead to a
place, and that is what is there. -/
theorem kind_eq_ok_iff (h : t.LinkFree) {e : Entry} :
    t.kind path = .ok e ↔ checkPath path = .ok () ∧
      ∃ goal, stride t [] (Path.parts path) = .arrived goal ∧ t.lookup? goal = some e := by
  constructor
  · intro hkind
    obtain ⟨goal, hresolve, hfound⟩ := bind_eq_ok_iff.1 hkind
    obtain ⟨_, hcheck, hrest⟩ := bind_eq_ok_iff.1 hresolve
    obtain ⟨⟨goal', links⟩, hwalk, hgoal⟩ := bind_eq_ok_iff.1 hrest
    obtain rfl := Except.ok.inj hgoal
    refine ⟨hcheck, goal', ((walk_eq_ok_iff h).1 hwalk).1, ?_⟩
    split at hfound
    · next e' hlook =>
      obtain rfl := Except.ok.inj hfound
      exact hlook
    · cases hfound
  · rintro ⟨hcheck, goal, hgoal, hlook⟩
    have hwalk : walk t maxLinks [] (Path.parts path) = .ok (goal, maxLinks) :=
      (walk_eq_ok_iff h).2 ⟨hgoal, rfl⟩
    have hresolve : t.resolve path = .ok goal :=
      bind_eq_ok_iff.2 ⟨(), hcheck, bind_eq_ok_iff.2 ⟨_, hwalk, rfl⟩⟩
    exact bind_eq_ok_iff.2 ⟨goal, hresolve, by rw [hlook]; rfl⟩

theorem isDir_iff : t.isDir path = true ↔ t.kind path = .ok .directory := by
  unfold isDir
  split
  · next h => simp [h]
  · next h => exact iff_of_false Bool.false_ne_true fun h' => h h'

/-- **The directory of the last name of a path**, in a tree without links. -/
theorem locate_eq_ok_iff (h : t.LinkFree) {directory : Place} {last : Final} :
    t.locate path = .ok (directory, last) ↔ checkPath path = .ok () ∧
      (splitFinal (Path.parts path)).2 = last ∧
        stride t [] (splitFinal (Path.parts path)).1 = .arrived directory ∧
          t.lookup? directory = some .directory := by
  constructor
  · intro hlocate
    obtain ⟨_, hcheck, hrest⟩ := bind_eq_ok_iff.1 hlocate
    obtain ⟨⟨directory', last', links⟩, hfrom, hends⟩ := bind_eq_ok_iff.1 hrest
    obtain ⟨rfl, rfl⟩ := Prod.mk.inj (Except.ok.inj hends)
    obtain ⟨⟨goal, links'⟩, hwalk, hdir⟩ := bind_eq_ok_iff.1 hfrom
    by_cases hthere : t.lookup? goal = some .directory
    · cases (if_pos hthere).symm.trans hdir
      exact ⟨hcheck, rfl, ((walk_eq_ok_iff h).1 hwalk).1, hthere⟩
    · cases (if_neg hthere).symm.trans hdir
  · rintro ⟨hcheck, rfl, hgoal, hdir⟩
    have hwalk : walk t maxLinks [] (splitFinal (Path.parts path)).1 = .ok (directory, maxLinks) :=
      (walk_eq_ok_iff h).2 ⟨hgoal, rfl⟩
    have hfrom : locateFrom t maxLinks [] (Path.parts path) =
        .ok (directory, (splitFinal (Path.parts path)).2, maxLinks) :=
      bind_eq_ok_iff.2 ⟨_, hwalk, if_pos hdir⟩
    exact bind_eq_ok_iff.2 ⟨(), hcheck, bind_eq_ok_iff.2 ⟨_, hfrom, rfl⟩⟩

/-- The names of a path are those before the last, the last, and empty ones; or all are empty. -/
theorem splitFinal_cases (names : List String) :
    (splitFinal names = ([], .root)) ∨ ∃ before last empties,
      names = before ++ last :: empties ∧ (∀ x ∈ empties, Path.isSelf x = true) ∧
        last.isEmpty = false ∧
          splitFinal names = (before, if last = "." then .self else if last = ".." then .parent
            else .name last (decide (empties ≠ []))) := by
  have hsplit : names.reverse.takeWhile (·.isEmpty) ++ names.reverse.dropWhile (·.isEmpty) =
      names.reverse := List.takeWhile_append_dropWhile
  generalize hempties : names.reverse.takeWhile (·.isEmpty) = empties at hsplit
  unfold splitFinal
  cases hrest : names.reverse.dropWhile (·.isEmpty) with
  | nil => exact .inl rfl
  | cons last before =>
    rw [hrest] at hsplit
    have hnames : names = before.reverse ++ last :: empties.reverse := by
      rw [← List.reverse_reverse names, ← hsplit]
      simp
    refine .inr ⟨before.reverse, last, empties.reverse, hnames, fun x hx => ?_, ?_, ?_⟩
    · rw [← hempties] at hx
      have hempty := List.mem_takeWhile_imp (List.mem_reverse.1 hx)
      simp [Path.isSelf, hempty]
    · have hhead := List.head?_dropWhile_not (·.isEmpty) names.reverse
      rwa [hrest] at hhead
    · -- There is a slash at the end exactly if there are empty names.
      have hlength := congrArg List.length hnames
      simp only [List.length_append, List.length_reverse, List.length_cons] at hlength
      have hslash : (before.length + 1 < names.length) ↔ empties.reverse ≠ [] := by
        rw [← List.length_pos_iff, List.length_reverse]
        omega
      simp only [hslash]

/-- The last name of a path goes down from the directory that it is in. -/
theorem splitFinal_name {names : List String} {name : String} {slash : Bool}
    (h : (splitFinal names).2 = .name name slash) :
    ∃ empties, names = (splitFinal names).1 ++ name :: empties ∧
      (∀ x ∈ empties, Path.isSelf x = true) ∧ Path.isSelf name = false ∧ name ≠ ".." ∧
        (slash = false → empties = []) := by
  rcases splitFinal_cases names with hroot | ⟨before, last, empties, hnames, hself, hlast, hsplit⟩
  · rw [hroot] at h
    cases h
  · rw [hsplit] at h ⊢
    by_cases hdot : last = "."
    · simp [hdot] at h
    · by_cases hup : last = ".."
      · simp [hup] at h
      · simp only [hdot, hup, if_false, Final.name.injEq] at h
        obtain ⟨rfl, rfl⟩ := h
        exact ⟨empties, hnames, hself, by simp [Path.isSelf, hlast, hdot], hup, by simp⟩

/-! ### Paths as the tree changes -/

/-- A path leads to something. -/
def Present (t : FileTree) (path : String) : Prop :=
  ∃ e, t.kind path = .ok e

theorem present_iff_isSome : t.Present path ↔ (t.kind path).toOption.isSome = true := by
  unfold Present
  cases t.kind path with
  | ok e => exact iff_of_true ⟨e, rfl⟩ rfl
  | error e => exact iff_of_false (fun ⟨_, h⟩ => nomatch h) (fun h => nomatch h)

/-- **A path leads where it led before when entries are added.** -/
theorem kind_of_within (h : t.LinkFree) (h' : t'.LinkFree) (hwithin : t.Within t') {e : Entry}
    (hkind : t.kind path = .ok e) : t'.kind path = .ok e := by
  obtain ⟨hcheck, goal, hgoal, hlook⟩ := (kind_eq_ok_iff h).1 hkind
  exact (kind_eq_ok_iff h').2 ⟨hcheck, goal, stride_of_within hwithin hgoal, hwithin _ _ hlook⟩

theorem Present.of_within (h : t.LinkFree) (h' : t'.LinkFree) (hwithin : t.Within t')
    (hpath : t.Present path) : t'.Present path := by
  obtain ⟨e, hkind⟩ := hpath
  exact ⟨e, kind_of_within h h' hwithin hkind⟩

theorem isDir_of_within (h : t.LinkFree) (h' : t'.LinkFree) (hwithin : t.Within t')
    (hdir : t.isDir path = true) : t'.isDir path = true :=
  isDir_iff.2 (kind_of_within h h' hwithin (isDir_iff.1 hdir))

/-- The beginning of a path that can be asked about can be asked about. -/
theorem checkPath_of_append {front rest : String} (hne : front ≠ "")
    (h : checkPath (front ++ rest) = .ok ()) : checkPath front = .ok () := by
  unfold checkPath at h ⊢
  split at h
  · cases h
  · next hnul =>
    split at h
    · cases h
    · split at h
      · cases h
      · next hsize =>
        have hnul' : ¬ front.toList.contains '\x00' = true := by
          intro hmem
          refine hnul ?_
          rw [List.contains_iff_mem] at hmem ⊢
          rw [String.toList_append]
          exact List.mem_append_left _ hmem
        have hsize' : ¬ maxPath < front.utf8ByteSize := by
          rw [String.utf8ByteSize_append] at hsize
          omega
        rw [if_neg hnul', if_neg (by simpa using hne), if_neg hsize']

/-- **The directory that a path is in is there**, where its names lead to it. -/
theorem isDir_of_front (h : t.LinkFree) {parent : String}
    (hparent : Path.parent? path = some parent) (hne : parent ≠ "")
    (hcheck : checkPath path = .ok ()) {front selfs tail : List String} {last : String}
    (hfront : Path.Front path front selfs last tail)
    (hnames : parent = Path.ofParts front) (hparts : front = [""] ∨ Path.parts parent = front)
    {middle : Place} (hstride : stride t [] (front ++ selfs) = .arrived middle)
    (hmiddle : t.lookup? middle = some .directory) : t.isDir parent = true := by
  obtain ⟨rest, hrest⟩ := Path.exists_append_of_parent? hparent hne
  have hcheck' : checkPath parent = .ok () := by
    rw [hrest] at hcheck
    exact checkPath_of_append hne hcheck
  obtain ⟨goal, hgoal, hselfs⟩ := exists_stride_of_append hstride
  have hsame : goal = middle := by
    have hfollow := eq_follow_of_stride hselfs
    rw [Path.follow_of_selfs hfront.selfs] at hfollow
    exact hfollow.symm
  rw [hsame] at hgoal
  refine isDir_iff.2 ((kind_eq_ok_iff h).2 ⟨hcheck', ?_⟩)
  rcases hparts with hroot | hparts
  · -- The path is in the root.
    have hslash : Path.parts parent = ["", ""] := by
      rw [hnames, hroot]
      decide
    exact ⟨[], by rw [hslash]; exact stride_selfs rfl (by decide), rfl⟩
  · exact ⟨middle, by rw [hparts]; exact hgoal, hmiddle⟩

/-- A path to a directory passes through the directory that it is in. -/
theorem isDir_parent (h : t.LinkFree) {parent : String} (hparent : Path.parent? path = some parent)
    (hne : parent ≠ "") (hdir : t.isDir path = true) : t.isDir parent = true := by
  obtain ⟨front, selfs, last, tail, hfront, -, hnames, hparts⟩ := Path.parts_of_parent? hparent hne
  obtain ⟨hcheck, goal, hgoal, -⟩ := (kind_eq_ok_iff h).1 (isDir_iff.1 hdir)
  rw [hfront.parts, ← List.append_assoc] at hgoal
  obtain ⟨middle, hmiddle, hlast⟩ := exists_stride_of_append hgoal
  have hthere := (stride_cons_arrived_iff.1 hlast).1
  exact isDir_of_front h hparent hne hcheck hfront hnames hparts hmiddle hthere

/-- Names that do not go back up stay in an empty directory, if they lead anywhere from it. -/
theorem eq_of_stride_of_isEmptyAt {names : List String} (hup : ".." ∉ names)
    (hempty : t.isEmptyAt place = true) {goal : Place}
    (h : stride t place names = .arrived goal) : goal = place := by
  induction names with
  | nil => exact (Stride.arrived.inj h).symm
  | cons name rest ih =>
    rw [List.mem_cons, not_or] at hup
    obtain ⟨-, ⟨-, hrest⟩ | ⟨-, hname, -⟩ | ⟨-, -, -, ⟨e, he, -⟩, -⟩⟩ := stride_cons_arrived_iff.1 h
    · exact ih hup.2 hrest
    · exact absurd hname.symm hup.1
    · rw [lookup?_of_isEmptyAt hempty] at he
      cases he

/-- Names that do not go back up lead where they led before when something else is removed, that is
no directory or an empty one. -/
theorem stride_remove {names : List String} {gone goal : Place} (hup : ".." ∉ names)
    (hgone : t.lookup? gone = some .directory → t.isEmptyAt gone = true) (hne : goal ≠ gone)
    (h : stride t place names = .arrived goal) :
    stride (t.remove gone) place names = .arrived goal := by
  induction names generalizing place with
  | nil => exact h
  | cons name rest ih =>
    obtain ⟨hdir, hcases⟩ := stride_cons_arrived_iff.1 h
    -- What is removed is not on the way, for then it would be where the names lead.
    have hplace : place ≠ gone := by
      rintro rfl
      exact hne (eq_of_stride_of_isEmptyAt hup (hgone hdir) h)
    rw [List.mem_cons, not_or] at hup
    refine stride_cons_arrived_iff.2 ⟨by rw [lookup?_remove_of_ne t hplace]; exact hdir, ?_⟩
    rcases hcases with ⟨hself, hrest⟩ | ⟨-, hname, -⟩ |
      ⟨hself, hname, hshort, ⟨e, he, hlink⟩, hrest⟩
    · exact .inl ⟨hself, ih hup.2 hrest⟩
    · exact absurd hname.symm hup.1
    · have hnext : place ++ [name] ≠ gone := by
        intro heq
        cases rest with
        | nil => exact hne ((Stride.arrived.inj hrest).symm.trans heq)
        | cons name' rest' =>
          have hdir' := (stride_cons_arrived_iff.1 hrest).1
          rw [heq] at hdir' hrest
          exact hne (eq_of_stride_of_isEmptyAt hup.2 (hgone hdir') hrest)
      exact .inr (.inr ⟨hself, hname, hshort,
        ⟨e, by rw [lookup?_remove_of_ne t hnext]; exact he, hlink⟩, ih hup.2 hrest⟩)

/-- **A path leads where it led before when something else is removed**, that is no directory or an
empty one. -/
theorem kind_remove (h : t.LinkFree) {gone : Place} (hup : ".." ∉ Path.parts path)
    (hgone : t.lookup? gone = some .directory → t.isEmptyAt gone = true)
    (hne : Path.place path ≠ gone) {e : Entry} (hkind : t.kind path = .ok e) :
    (t.remove gone).kind path = .ok e := by
  obtain ⟨hcheck, goal, hgoal, hlook⟩ := (kind_eq_ok_iff h).1 hkind
  have hgoal' : goal ≠ gone := by
    rw [eq_follow_of_stride hgoal]
    exact hne
  exact (kind_eq_ok_iff h.remove).2 ⟨hcheck, goal, stride_remove hup hgone hgoal' hgoal,
    by rw [lookup?_remove_of_ne t hgoal']; exact hlook⟩

end Hotplug.FileTree
