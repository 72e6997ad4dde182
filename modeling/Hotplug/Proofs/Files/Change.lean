import Hotplug.Proofs.Files.Walk
import Mathlib.Data.List.Chain

/-!
# Making and removing entries in a tree without links

Making directories only ever adds some, and a second attempt finds what the first has made: it ends
as the first did and adds nothing. Removing an entry takes that one away and no other.

## Main definitions

* `FileTree.Above path parent` — the directory that a path is in has the path `parent`.
* `FileTree.Removed t path t'` — `t'` is `t` without what the path leads to.

## Main results

* `makeDir_of_isDir`, `exists_put_of_makeDir` — what making one directory comes to.
* `createDirs_spec` — making directories adds to the tree, and the last is there after a success.
* `createDirs_again` — **a second attempt to make directories changes nothing.**
* `within_of_createFile` — a file that is made where nothing was adds to the tree.
* `removed_of_removeDir`, `removed_of_removeFile` — what removing comes to.
* `Removed.not_present`, `Removed.present_of_ne` — the entry is gone, and no other path leads
  elsewhere.
-/

namespace Hotplug.FileTree

variable {t t' : FileTree} {path : String}

/-! ### The last name of a path -/

theorem locate_of_within (h : t.LinkFree) (h' : t'.LinkFree) (hwithin : t.Within t')
    {directory : Place} {last : Final} (hlocate : t.locate path = .ok (directory, last)) :
    t'.locate path = .ok (directory, last) := by
  obtain ⟨hcheck, hlast, hbefore, hdir⟩ := (locate_eq_ok_iff h).1 hlocate
  exact (locate_eq_ok_iff h').2 ⟨hcheck, hlast, stride_of_within hwithin hbefore, hwithin _ _ hdir⟩

/-- A path comes to the place of its last name. -/
theorem place_of_locate (h : t.LinkFree) {directory : Place} {name : String} {slash : Bool}
    (hlocate : t.locate path = .ok (directory, .name name slash)) :
    Path.place path = directory ++ [name] := by
  obtain ⟨-, hlast, hbefore, -⟩ := (locate_eq_ok_iff h).1 hlocate
  obtain ⟨empties, hnames, hempties, hself, hup, -⟩ := splitFinal_name hlast
  rw [Path.place, hnames, Path.follow_append, ← eq_follow_of_stride hbefore, Path.follow,
    if_neg (by simp [hself]), if_neg hup, Path.follow_of_selfs hempties]

theorem checkName_eq_ok_iff {name : String} :
    checkName name = .ok () ↔ name.utf8ByteSize ≤ maxName := by
  unfold checkName
  split
  · next hlong => exact iff_of_false nofun (Nat.not_le.2 hlong)
  · next hshort => exact iff_of_true rfl (Nat.le_of_not_lt hshort)

/-- A path leads to what is there under its last name, if nothing but a directory is followed by a
slash. -/
theorem kind_of_locate (h : t.LinkFree) {directory : Place} {name : String} {slash : Bool}
    (hlocate : t.locate path = .ok (directory, .name name slash))
    (hshort : name.utf8ByteSize ≤ maxName) {e : Entry}
    (hlook : t.lookup? (directory ++ [name]) = some e) (hslash : slash = false ∨ e = .directory) :
    t.kind path = .ok e := by
  obtain ⟨hcheck, hlast, hbefore, hdir⟩ := (locate_eq_ok_iff h).1 hlocate
  obtain ⟨empties, hnames, hempties, hself, hup, hbare⟩ := splitFinal_name hlast
  have hnolink : ∀ target, e ≠ .link target := by
    rintro target rfl
    exact h _ _ hlook
  refine (kind_eq_ok_iff h).2 ⟨hcheck, directory ++ [name], ?_, hlook⟩
  rw [hnames, stride_append hbefore]
  refine stride_cons_arrived_iff.2 ⟨hdir, .inr (.inr ⟨hself, hup, hshort, ⟨e, hlook, hnolink⟩, ?_⟩)⟩
  rcases hslash with hslash | rfl
  · rw [hbare hslash]
    rfl
  · exact stride_selfs hlook hempties

/-- An entry that is put under the last name of a path is what the path leads to. -/
theorem kind_put_of_locate (h : t.LinkFree) {directory : Place} {name : String} {slash : Bool}
    (hlocate : t.locate path = .ok (directory, .name name slash))
    (hshort : name.utf8ByteSize ≤ maxName) (hfree : t.lookup? (directory ++ [name]) = none)
    {e : Entry} (he : ∀ target, e ≠ .link target) (hslash : slash = false ∨ e = .directory) :
    (t.put (directory ++ [name]) e).kind path = .ok e :=
  kind_of_locate (h.put he) (locate_of_within h (h.put he) (within_put hfree) hlocate) hshort
    (lookup?_put_self t e (by simp)) hslash

/-! ### One directory -/

/-- A directory that is there can not be made. -/
theorem makeDir_of_isDir (h : t.LinkFree) (hdir : t.isDir path = true) :
    t.makeDir path = .error .occupied := by
  obtain ⟨hcheck, goal, hgoal, hlook⟩ := (kind_eq_ok_iff h).1 (isDir_iff.1 hdir)
  unfold makeDir
  rcases splitFinal_cases (Path.parts path) with
    hroot | ⟨before, last, empties, hnames, -, hempty, hsplit⟩
  · have hlocate : t.locate path = .ok ([], .root) := by
      rw [locate_eq_ok_iff h, hroot]
      exact ⟨hcheck, rfl, rfl, rfl⟩
    rw [hlocate]
    rfl
  · rw [hnames] at hgoal
    obtain ⟨middle, hbefore, hlast⟩ := exists_stride_of_append hgoal
    obtain ⟨hmiddle, hcases⟩ := stride_cons_arrived_iff.1 hlast
    have hlocate : t.locate path = .ok (middle, (splitFinal (Path.parts path)).2) := by
      rw [locate_eq_ok_iff h, hsplit]
      exact ⟨hcheck, rfl, hbefore, hmiddle⟩
    rw [hlocate, hsplit]
    by_cases hdot : last = "."
    · simp [hdot, bind, Except.bind]
    · by_cases hup : last = ".."
      · simp [hup, bind, Except.bind]
      · rcases hcases with ⟨hself, -⟩ | ⟨-, hup', -⟩ | ⟨-, -, hshort, ⟨e, he, -⟩, -⟩
        · simp [Path.isSelf, hempty, hdot] at hself
        · exact absurd hup' hup
        · simp [hdot, hup, checkName, Nat.not_lt.2 hshort, he, bind, Except.bind]

/-- To make a directory is to put one into a directory that is there, under a name that is free
there. -/
theorem exists_put_of_makeDir (hmade : t.makeDir path = .ok t') :
    ∃ directory name slash, t.locate path = .ok (directory, .name name slash) ∧
      name.utf8ByteSize ≤ maxName ∧ t.lookup? (directory ++ [name]) = none ∧
        t' = t.put (directory ++ [name]) .directory := by
  obtain ⟨⟨directory, last⟩, hlocate, hlast⟩ := bind_eq_ok_iff.1 hmade
  cases last with
  | name name slash =>
    obtain ⟨_, hname, hput⟩ := bind_eq_ok_iff.1 hlast
    refine ⟨directory, name, slash, hlocate, checkName_eq_ok_iff.1 hname, ?_⟩
    split at hput
    · next hfree => exact ⟨hfree, (Except.ok.inj hput).symm⟩
    · cases hput
  | _ => cases hlast

theorem isDir_of_makeDir (h : t.LinkFree) (hmade : t.makeDir path = .ok t') :
    t'.isDir path = true := by
  obtain ⟨directory, name, slash, hlocate, hshort, hfree, rfl⟩ := exists_put_of_makeDir hmade
  exact isDir_iff.2 (kind_put_of_locate h hlocate hshort hfree nofun (.inr rfl))

theorem within_of_makeDir (hmade : t.makeDir path = .ok t') : t.Within t' := by
  obtain ⟨directory, name, slash, -, -, hfree, rfl⟩ := exists_put_of_makeDir hmade
  exact within_put hfree

theorem linkFree_of_makeDir (h : t.LinkFree) (hmade : t.makeDir path = .ok t') : t'.LinkFree := by
  obtain ⟨directory, name, slash, -, -, -, rfl⟩ := exists_put_of_makeDir hmade
  exact h.put nofun

/-- A directory can be made only where the one that it is in is there. -/
theorem isDir_parent_of_makeDir (h : t.LinkFree) {parent : String}
    (hparent : Path.parent? path = some parent) (hne : parent ≠ "")
    (hmade : t.makeDir path = .ok t') : t.isDir parent = true := by
  obtain ⟨front, selfs, last, tail, hfront, -, hnames, hparts⟩ := Path.parts_of_parent? hparent hne
  obtain ⟨directory, name, slash, hlocate, -⟩ := exists_put_of_makeDir hmade
  obtain ⟨hcheck, hlast, hbefore, hdir⟩ := (locate_eq_ok_iff h).1 hlocate
  obtain ⟨empties, hall, hempties, hself, -, -⟩ := splitFinal_name hlast
  -- The last name is the same, whether the path is read to the directory or to the entry.
  have hsame : (splitFinal (Path.parts path)).1 = front ++ selfs := by
    have hboth := hall.symm.trans hfront.parts
    rw [← List.append_assoc] at hboth
    exact Path.eq_of_last hboth hself hfront.last hempties hfront.tail
  rw [hsame] at hbefore
  exact isDir_of_front h hparent hne hcheck hfront hnames hparts hbefore hdir

/-! ### Directories and those above them -/

/-- One path after another is the path of the directory that the one before is in. -/
def Above (path parent : String) : Prop :=
  Path.parent? path = some parent ∧ parent ≠ ""

theorem mem_head?_ancestorsFrom {fuel : Nat} {first : String}
    (h : first ∈ (Path.ancestorsFrom fuel path).head?) : first = path ∧ path ≠ "" := by
  cases fuel with
  | zero => cases h
  | succ fuel =>
    unfold Path.ancestorsFrom at h
    split at h
    · cases h
    · next hne => exact ⟨(Option.some.inj h).symm, by simpa using hne⟩

theorem isChain_ancestorsFrom (fuel : Nat) (path : String) :
    (Path.ancestorsFrom fuel path).IsChain Above := by
  induction fuel generalizing path with
  | zero => exact .nil
  | succ fuel ih =>
    unfold Path.ancestorsFrom
    split
    · exact .nil
    · cases hparent : Path.parent? path with
      | none => exact .singleton path
      | some parent =>
        refine List.isChain_cons.2 ⟨fun first hfirst => ?_, ih parent⟩
        obtain ⟨rfl, hne⟩ := mem_head?_ancestorsFrom hfirst
        exact ⟨hparent, hne⟩

/-- A directory is there, or could be made, only where the one that it is in is there. -/
theorem isDir_of_above (h : t.LinkFree) {parent : String} (habove : Above path parent)
    (hpath : t.isDir path = true ∨ ∃ t', t.makeDir path = .ok t') : t.isDir parent = true := by
  rcases hpath with hdir | ⟨t', hmade⟩
  · exact isDir_parent h habove.1 habove.2 hdir
  · exact isDir_parent_of_makeDir h habove.1 habove.2 hmade

/-- Directories are there that are there already. -/
theorem createDirsAlong_of_isDir (h : t.LinkFree) {above : List String}
    (hdir : t.isDir path = true) : createDirsAlong (path :: above) t = (.ok (), t) := by
  rw [createDirsAlong, makeDir_of_isDir h hdir]
  simp [hdir]

/-- Making directories adds to the tree, and the first of them is there after a success. -/
theorem createDirsAlong_spec (h : t.LinkFree) (paths : List String) :
    (createDirsAlong paths t).2.LinkFree ∧ t.Within (createDirsAlong paths t).2 ∧
      ((createDirsAlong paths t).1 = .ok () →
        ∀ path ∈ paths.head?, (createDirsAlong paths t).2.isDir path = true) := by
  induction paths generalizing t with
  | nil => exact ⟨h, .refl t, nofun⟩
  | cons path above ih =>
    simp only [List.head?_cons, Option.mem_some_iff, forall_eq']
    -- Whatever the failure, it does not count where the directory is there.
    have hfound : ∀ {u : FileTree} (e : FileError),
        (if u.isDir path = true then Except.ok () else .error e) = .ok () →
          u.isDir path = true := by
      intro u e hok
      by_contra hnone
      rw [if_neg hnone] at hok
      cases hok
    rw [createDirsAlong]
    split
    · next u hmade => exact ⟨linkFree_of_makeDir h hmade, within_of_makeDir hmade,
        fun _ => isDir_of_makeDir h hmade⟩
    · obtain ⟨hfree, hwithin, -⟩ := ih h
      split
      · next e u habove =>
        rw [habove] at hfree hwithin
        exact ⟨hfree, hwithin, nofun⟩
      · next u habove =>
        rw [habove] at hfree hwithin
        split
        · next u' hmade => exact ⟨linkFree_of_makeDir hfree hmade,
            hwithin.trans (within_of_makeDir hmade), fun _ => isDir_of_makeDir hfree hmade⟩
        · exact ⟨hfree, hwithin, hfound _⟩
    · exact ⟨h, .refl t, hfound _⟩

section Along

variable {above : List String} {u : FileTree}

theorem createDirsAlong_of_makeDir (h : t.makeDir path = .ok u) :
    createDirsAlong (path :: above) t = (.ok (), u) := by
  rw [createDirsAlong, h]

theorem createDirsAlong_of_error {e : FileError} (h : t.makeDir path = .error e)
    (hne : e ≠ .missing) :
    createDirsAlong (path :: above) t = (if t.isDir path then .ok () else .error e, t) := by
  unfold createDirsAlong
  rw [h]
  cases e with
  | missing => exact absurd rfl hne
  | _ => rfl

theorem createDirsAlong_of_above_error (h : t.makeDir path = .error .missing) {e : FileError}
    (habove : createDirsAlong above t = (.error e, u)) :
    createDirsAlong (path :: above) t = (.error e, u) := by
  rw [createDirsAlong, h]
  simp only [habove]

theorem createDirsAlong_of_above_ok (h : t.makeDir path = .error .missing)
    (habove : createDirsAlong above t = (.ok (), u)) :
    createDirsAlong (path :: above) t = match u.makeDir path with
      | .ok u' => (.ok (), u')
      | .error e => (if u.isDir path then .ok () else .error e, u) := by
  rw [createDirsAlong, h]
  cases hmake : u.makeDir path with
  | ok u' => simp only [habove, hmake]
  | error e => simp only [habove, hmake]

/-- Where the directories above can not be made, neither can the one in them. -/
theorem createDirsAlong_of_above_fails (h : t.LinkFree)
    (hchain : ∀ parent ∈ above.head?, Above path parent) {e : FileError}
    (habove : createDirsAlong above t = (.error e, t)) :
    ∃ x, createDirsAlong (path :: above) t = (x, t) ∧ x.isOk = false := by
  -- If it were there, or could be made, the directory above it would be there.
  have hnot : ¬ (t.isDir path = true ∨ ∃ u, t.makeDir path = .ok u) := by
    intro hpath
    cases above with
    | nil => cases habove
    | cons parent above =>
      have hdir := isDir_of_above h (hchain parent rfl) hpath
      rw [createDirsAlong_of_isDir h hdir] at habove
      cases habove
  rw [not_or] at hnot
  cases hmake : t.makeDir path with
  | ok u => exact absurd ⟨u, hmake⟩ hnot.2
  | error e' =>
    by_cases hmissing : e' = .missing
    · subst hmissing
      exact ⟨_, createDirsAlong_of_above_error hmake habove, rfl⟩
    · exact ⟨_, createDirsAlong_of_error hmake hmissing, by rw [if_neg hnot.1]; rfl⟩

/-- Where the directories above are there and the one in them can not be made, it stays so. -/
theorem createDirsAlong_of_not_made {e : FileError} (hmake : t.makeDir path = .error e)
    (hdir : t.isDir path ≠ true) {x : Except FileError Unit} (hok : x.isOk = true)
    (habove : createDirsAlong above t = (x, t)) :
    ∃ x, createDirsAlong (path :: above) t = (x, t) ∧ x.isOk = false := by
  by_cases hmissing : e = .missing
  · subst hmissing
    cases x with
    | error e' => cases hok
    | ok _ =>
      refine ⟨_, (createDirsAlong_of_above_ok hmake habove).trans (by rw [hmake]), ?_⟩
      rw [if_neg hdir]
      rfl
  · exact ⟨_, createDirsAlong_of_error hmake hmissing, by rw [if_neg hdir]; rfl⟩

end Along

/-- A second attempt to make directories changes nothing, and ends as the first. -/
theorem createDirsAlong_again (h : t.LinkFree) {paths : List String} (hchain : paths.IsChain Above)
    {x : Except FileError Unit} {t' : FileTree} (hrun : createDirsAlong paths t = (x, t')) :
    ∃ x', createDirsAlong paths t' = (x', t') ∧ x'.isOk = x.isOk := by
  induction paths generalizing t x t' with
  | nil =>
    obtain ⟨rfl, rfl⟩ := Prod.mk.inj hrun
    exact ⟨.ok (), rfl, rfl⟩
  | cons path above ih =>
    obtain ⟨hfirst, hchain'⟩ := List.isChain_cons.1 hchain
    have hdone : ∀ {u : FileTree}, u.LinkFree → u.isDir path = true →
        ∃ x', createDirsAlong (path :: above) u = (x', u) ∧ x'.isOk = true :=
      fun hu hdir => ⟨.ok (), createDirsAlong_of_isDir hu hdir, rfl⟩
    cases hmake : t.makeDir path with
    | ok u =>
      obtain ⟨rfl, rfl⟩ := Prod.mk.inj ((createDirsAlong_of_makeDir hmake).symm.trans hrun)
      exact hdone (linkFree_of_makeDir h hmake) (isDir_of_makeDir h hmake)
    | error e =>
      by_cases hmissing : e = .missing
      · subst hmissing
        -- First those above are made, and a second attempt finds them as they are then.
        obtain ⟨hu, -, -⟩ := createDirsAlong_spec h above
        cases habove : createDirsAlong above t with
        | mk y u =>
          rw [habove] at hu
          obtain ⟨y', hy', hsame⟩ := ih h hchain' habove
          cases y with
          | error e =>
            obtain ⟨rfl, rfl⟩ := Prod.mk.inj
              ((createDirsAlong_of_above_error hmake habove).symm.trans hrun)
            cases y' with
            | ok _ => cases hsame
            | error e' => exact createDirsAlong_of_above_fails hu hfirst hy'
          | ok _ =>
            rw [createDirsAlong_of_above_ok hmake habove] at hrun
            cases hmade : u.makeDir path with
            | ok u' =>
              simp only [hmade, Prod.mk.injEq] at hrun
              obtain ⟨rfl, rfl⟩ := hrun
              exact hdone (linkFree_of_makeDir hu hmade) (isDir_of_makeDir hu hmade)
            | error e =>
              simp only [hmade, Prod.mk.injEq] at hrun
              obtain ⟨rfl, rfl⟩ := hrun
              by_cases hdir : u.isDir path = true
              · rw [if_pos hdir]
                exact hdone hu hdir
              · rw [if_neg hdir]
                exact createDirsAlong_of_not_made hmade hdir hsame hy'
      · obtain ⟨rfl, rfl⟩ := Prod.mk.inj
          ((createDirsAlong_of_error hmake hmissing).symm.trans hrun)
        exact ⟨_, createDirsAlong_of_error hmake hmissing, rfl⟩

/-! ### Making a directory with those above it -/

theorem head?_ancestors (hne : path ≠ "") : path ∈ (Path.ancestors path).head? := by
  unfold Path.ancestors Path.ancestorsFrom
  rw [if_neg (by simpa using hne)]
  rfl

/-- Making directories adds to the tree, and the last of them is there after a success. -/
theorem createDirs_spec (h : t.LinkFree) (path : String) :
    (t.createDirs path).2.LinkFree ∧ t.Within (t.createDirs path).2 ∧
      (path ≠ "" → (t.createDirs path).1 = .ok () → (t.createDirs path).2.isDir path = true) := by
  obtain ⟨hfree, hwithin, hfound⟩ := createDirsAlong_spec h (Path.ancestors path)
  exact ⟨hfree, hwithin, fun hne hok => hfound hok path (head?_ancestors hne)⟩

/-- Directories are there that are there already. -/
theorem createDirs_of_isDir (h : t.LinkFree) (hdir : t.isDir path = true) :
    t.createDirs path = (.ok (), t) := by
  unfold createDirs Path.ancestors Path.ancestorsFrom
  split
  · rfl
  · exact createDirsAlong_of_isDir h hdir

theorem createDirs_empty (t : FileTree) : t.createDirs "" = (.ok (), t) := by
  unfold createDirs Path.ancestors Path.ancestorsFrom
  rw [if_pos (by decide)]
  rfl

/-- **A second attempt to make a directory with those above it changes nothing**, and ends as the
first. -/
theorem createDirs_again (h : t.LinkFree) (path : String) :
    ((t.createDirs path).2.createDirs path).2 = (t.createDirs path).2 ∧
      ((t.createDirs path).2.createDirs path).1.isOk = (t.createDirs path).1.isOk := by
  obtain ⟨x, hagain, hsame⟩ := createDirsAlong_again h (isChain_ancestorsFrom _ path)
    (rfl : createDirs t path = (_, _))
  rw [show (t.createDirs path).2.createDirs path = _ from hagain]
  exact ⟨rfl, hsame⟩

/-! ### Files -/

/-- To make a file is to put one under the last name of a path, where there is no directory, or to
leave the block device that is there. -/
theorem createFile_spec (h : t.LinkFree) {size : Nat} (hmade : t.createFile path size = .ok t') :
    ∃ directory name, t.locate path = .ok (directory, .name name false) ∧
      name.utf8ByteSize ≤ maxName ∧ t.lookup? (directory ++ [name]) ≠ some .directory ∧
        (t' = t.put (directory ++ [name]) (.file size) ∨
          t' = t ∧ ∃ size, t.lookup? (directory ++ [name]) = some (.blockDevice size)) := by
  obtain ⟨_, hcheck, hfrom⟩ := bind_eq_ok_iff.1 hmade
  obtain ⟨⟨directory, last, links⟩, hnames, hlast⟩ := bind_eq_ok_iff.1 hfrom
  have hlocate : t.locate path = .ok (directory, last) :=
    bind_eq_ok_iff.2 ⟨(), hcheck, bind_eq_ok_iff.2 ⟨_, hnames, rfl⟩⟩
  cases last with
  | name name slash =>
    cases slash with
    | true => cases hlast
    | false =>
      obtain ⟨_, hname, hput⟩ := bind_eq_ok_iff.1 hlast
      refine ⟨directory, name, hlocate, checkName_eq_ok_iff.1 hname, ?_⟩
      split at hput
      · cases hput
      · next target hlook => exact absurd hlook (h _ target)
      · next found hlook =>
        exact ⟨by simp [hlook], .inr ⟨(Except.ok.inj hput).symm, found, hlook⟩⟩
      · next hdir _ _ => exact ⟨hdir, .inl (Except.ok.inj hput).symm⟩
  | _ => cases hlast

theorem linkFree_of_createFile (h : t.LinkFree) {size : Nat}
    (hmade : t.createFile path size = .ok t') : t'.LinkFree := by
  obtain ⟨directory, name, -, -, -, rfl | ⟨rfl, -⟩⟩ := createFile_spec h hmade
  · exact h.put nofun
  · exact h

/-- A file that is made where nothing was adds to the tree, and is there then. -/
theorem within_of_createFile (h : t.LinkFree) {size : Nat}
    (hmade : t.createFile path size = .ok t') (hnone : ¬ t.Present path) :
    t.Within t' ∧ t'.kind path = .ok (.file size) := by
  obtain ⟨directory, name, hlocate, hshort, -, hput⟩ := createFile_spec h hmade
  have hfree : t.lookup? (directory ++ [name]) = none := by
    rw [Option.eq_none_iff_forall_ne_some]
    intro e hlook
    exact hnone ⟨e, kind_of_locate h hlocate hshort hlook (.inl rfl)⟩
  rcases hput with rfl | ⟨-, size, hdevice⟩
  · exact ⟨within_put hfree, kind_put_of_locate h hlocate hshort hfree nofun (.inl rfl)⟩
  · rw [hfree] at hdevice
    cases hdevice

/-! ### Removing -/

/-- `Removed t path t'` says that `t'` is `t` without what the path comes to, which was no directory
or an empty one. -/
structure Removed (t : FileTree) (path : String) (t' : FileTree) : Prop where
  eq : t' = t.remove (Path.place path)
  ne_root : Path.place path ≠ []
  isEmptyAt : t.lookup? (Path.place path) = some .directory →
    t.isEmptyAt (Path.place path) = true

/-- The entry of the last name of a path is removed, if nothing is below it. -/
theorem removed_of_locate (h : t.LinkFree) {directory : Place} {name : String} {slash : Bool}
    (hlocate : t.locate path = .ok (directory, .name name slash))
    (hempty : t.lookup? (directory ++ [name]) = some .directory →
      t.isEmptyAt (directory ++ [name]) = true) :
    Removed t path (t.remove (directory ++ [name])) := by
  have hplace := place_of_locate h hlocate
  exact ⟨by rw [hplace], by simp [hplace], by rwa [hplace]⟩

theorem removed_of_removeDir (h : t.LinkFree) (hgone : t.removeDir path = .ok t') :
    Removed t path t' := by
  obtain ⟨⟨directory, last⟩, hlocate, hlast⟩ := bind_eq_ok_iff.1 hgone
  cases last with
  | name name slash =>
    obtain ⟨_, -, hremove⟩ := bind_eq_ok_iff.1 hlast
    split at hremove
    · cases hremove
    · split at hremove
      · next hempty =>
        obtain rfl := Except.ok.inj hremove
        exact removed_of_locate h hlocate fun _ => hempty
      · cases hremove
    · cases hremove
  | _ => cases hlast

theorem removed_of_removeFile (h : t.LinkFree) (hgone : t.removeFile path = .ok t') :
    Removed t path t' := by
  obtain ⟨⟨directory, last⟩, hlocate, hlast⟩ := bind_eq_ok_iff.1 hgone
  cases last with
  | name name slash =>
    obtain ⟨_, -, hremove⟩ := bind_eq_ok_iff.1 hlast
    split at hremove
    · cases hremove
    · cases hremove
    · next e hother hlook =>
      split at hremove
      · cases hremove
      · obtain rfl := Except.ok.inj hremove
        refine removed_of_locate h hlocate fun hdir => ?_
        rw [hlook] at hdir
        exact absurd (Option.some.inj hdir) hother
  | _ => cases hlast

namespace Removed

theorem linkFree (h : t.LinkFree) (hgone : Removed t path t') : t'.LinkFree := by
  rw [hgone.eq]
  exact h.remove

/-- **The path of what was removed leads nowhere.** -/
theorem not_present (h : t.LinkFree) (hgone : Removed t path t') : ¬ t'.Present path := by
  rintro ⟨e, hkind⟩
  obtain ⟨-, goal, hgoal, hlook⟩ := (kind_eq_ok_iff (hgone.linkFree h)).1 hkind
  rw [eq_follow_of_stride hgoal, ← Path.place, hgone.eq,
    lookup?_remove_self t hgone.ne_root] at hlook
  cases hlook

/-- **No other path leads elsewhere.** -/
theorem present_of_ne (h : t.LinkFree) (hgone : Removed t path t') {other : String}
    (hup : ".." ∉ Path.parts other) (hne : Path.place other ≠ Path.place path)
    (hother : t.Present other) : t'.Present other := by
  obtain ⟨e, hkind⟩ := hother
  rw [hgone.eq]
  exact ⟨e, kind_remove h hup hgone.isEmptyAt hne hkind⟩

end Removed

end Hotplug.FileTree
