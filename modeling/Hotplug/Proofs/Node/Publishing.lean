import Hotplug.Proofs.Files.Change
import Hotplug.Proofs.Node.Mishap

/-!
# Making a volume visible, step by step

To publish a volume is to make the target, and then to mount the device on it; to unpublish it is to
unmount the target, and then to remove it. A failure may come between any two of these steps. What
they have done by then is described here, and it is always such that beginning anew ends in the
same.

## Main definitions

* `Grown s s'` — some entries were added to the file tree.
* `Steady p s R` — an attempt only adds entries, and ends the same when it is begun anew.
* `Publishing s target s'`, `Unpublishing s target s'` — what has happened on the way.

## Main results

* `Steady.bind` — two steps are steady if the second leaves the first done.
* `withstands_publish`, `withstands_unpublish` — **publishing and unpublishing at every moment,
  whatever fails.**
-/

namespace Hotplug.Node

open FileTree (present_iff_isSome Removed)
open Host (interface step State)

variable {α β : Type} {s s' s'' : State} {target : String}

/-- Whatever the failure, its code may be the same. -/
theorem mapError_const_eq {ε : Type} {x y : Except ε Unit} (code : Code) (h : x.isOk = y.isOk) :
    x.mapError (fun _ => code) = y.mapError fun _ => code := by
  cases x <;> cases y <;> first | rfl | cases h

/-! ### The steps -/

/-- Makes a file, unless something is there. -/
def ensureFile (target : String) : Attempt interface Unit := do
  if ← Host.pathExists target then pure ()
  else Host.file ("create " ++ target) (.createFile target)

/-- To make the file that a device is mounted on is to make the directory that it is in, and then
the file. -/
theorem prepareFile_eq (target : String) :
    prepareFile target = (Path.parent? target).elim (ensureFile target) fun parent =>
      Host.file ("create " ++ parent) (.createDirs parent) >>= fun _ => ensureFile target := by
  unfold prepareFile
  cases Path.parent? target with
  | none => rfl
  | some parent => rfl

theorem ends_pathExists (h : s.files.Present target) :
    ends (Host.pathExists target) s = (.ok true, s) :=
  ends_of_runOn (x := .ok true) (congrArg (fun b => (Except.ok b, s)) (present_iff_isSome.1 h))

theorem ends_pathExists_of_not (h : ¬ s.files.Present target) :
    ends (Host.pathExists target) s = (.ok false, s) :=
  ends_of_runOn (x := .ok false)
    (congrArg (fun b => (Except.ok b, s)) (Bool.eq_false_iff.2 (mt present_iff_isSome.2 h)))

theorem ends_isMountPoint {m : Host.Mount} (h : s.mounts.get? target = some m) :
    ends (Host.isMountPoint target) s = (.ok true, s) :=
  ends_of_runOn (x := .ok true) (congrArg (fun b => (Except.ok b, s)) (by rw [h]; rfl))

theorem ends_isMountPoint_of_none (h : s.mounts.get? target = none) :
    ends (Host.isMountPoint target) s = (.ok false, s) :=
  ends_of_runOn (x := .ok false) (congrArg (fun b => (Except.ok b, s)) (by rw [h]; rfl))

/-- What is there need not be made. -/
theorem ends_ensureFile (h : s.files.Present target) : ends (ensureFile target) s = (.ok (), s) :=
  ends_bind_ok (ends_pathExists h)

/-- A request that changes the file tree, or else fails and does nothing. -/
theorem withstands_change {C : FileTree → Prop} {q : Files.Request} (operation : String)
    (h : (∃ e, Files.step q s.files = (.error e, s.files)) ∨
      ∃ a t', Files.step q s.files = (.ok a, t') ∧ C t') :
    Withstands
      (fun s' => s' = s ∨ ∃ a t', s' = { s with files := t' } ∧ C t' ∧
        ends (Host.file operation q) s = (.ok a, s'))
      (fun a s' => ∃ t', s' = { s with files := t' } ∧ C t' ∧
        ends (Host.file operation q) s = (.ok a, s'))
      (Host.file operation q) s := by
  rw [ends_file]
  rcases h with ⟨e, hstep⟩ | ⟨a, t', hstep, ht'⟩
  · refine .file (.inl rfl) ?_ ?_
    · rw [hstep]
      exact .inl rfl
    · rw [hstep]
      nofun
  · refine .file (.inl rfl) ?_ ?_
    · rw [hstep]
      exact .inr ⟨a, t', rfl, ht', rfl⟩
    · rw [hstep]
      rintro a' heq
      obtain rfl := Except.ok.inj heq
      exact ⟨t', rfl, ht', rfl⟩

/-- A change is made, or it fails and the tree is as it was. -/
theorem changed_cases {C : FileTree → Prop} {t : FileTree} {x : Except FileError FileTree}
    (hC : ∀ t', x = .ok t' → C t') :
    (∃ e, Files.changed t x = (.error e, t)) ∨
      ∃ a t', Files.changed t x = (.ok a, t') ∧ C t' := by
  cases x with
  | error e => exact .inl ⟨e, rfl⟩
  | ok t' => exact .inr ⟨(), t', rfl, hC t' rfl⟩

/-! ### Attempts that add entries -/

/-- `Grown s s'` says that some entries were added to the file tree of `s`, and nothing else has
happened. -/
structure Grown (s s' : State) : Prop where
  devices : s'.devices = s.devices
  formatted : s'.formatted = s.formatted
  mounts : s'.mounts = s.mounts
  linkFree : s'.files.LinkFree
  within : s.files.Within s'.files

theorem Grown.refl (h : s.files.LinkFree) : Grown s s :=
  ⟨rfl, rfl, rfl, h, .refl _⟩

theorem Grown.trans (h : Grown s s') (h' : Grown s' s'') : Grown s s'' :=
  ⟨h'.devices.trans h.devices, h'.formatted.trans h.formatted, h'.mounts.trans h.mounts,
    h'.linkFree, h.within.trans h'.within⟩

/-- `Steady p s R` says that, as `p` is attempted from `s`, entries are added at most, and that at
any moment it could as well be begun anew: it would end the same. After a success there is `R`. -/
def Steady (p : Attempt interface α) (s : State) (R : State → Prop) : Prop :=
  Withstands (fun s' => Grown s s' ∧ ends p s' = ends p s)
    (fun a s' => ends p s = (.ok a, s') ∧ R s') p s

namespace Steady

variable {p : Attempt interface α} {R R' : State → Prop}

/-- Two steps are steady if the second leaves the first done. -/
theorem bind {f : α → Attempt interface β} (hp : Steady p s R)
    (hf : ∀ a s', Grown s s' → R s' → Steady (f a) s' R')
    (hdone : ∀ a s' s'', Grown s s' → ends p s = (.ok a, s') → R s' → Grown s' s'' →
      ends p s'' = (.ok a, s'')) :
    Steady (p >>= f) s R' := by
  refine Withstands.bind (hp.mono (fun s' hs' => ⟨hs'.1, ends_bind_congr f hs'.2⟩)
    fun a s' hs' ha => ?_)
  refine (hf a s' hs'.1 ha.2).mono (fun s'' hs'' => ⟨hs'.1.trans hs''.1, ?_⟩) fun b s'' _ hb => ?_
  · calc ends (p >>= f) s'' = ends (f a) s'' :=
        ends_bind_ok (hdone a s' s'' hs'.1 ha.1 ha.2 hs''.1)
      _ = ends (f a) s' := hs''.2
      _ = ends (p >>= f) s := (ends_bind_ok ha.1).symm
  · exact ⟨(ends_bind_ok ha.1).trans hb.1, hb.2⟩

/-- To work out what to return is steady. -/
theorem andReturn (hp : Steady p s R) (k : α → Except DriverError β) :
    Steady (p >>= fun a => Attempt.ofExcept (k a)) s R := by
  refine Withstands.bind (hp.mono (fun s' hs' => ⟨hs'.1, ends_bind_congr _ hs'.2⟩)
    fun a s' hs' ha => ?_)
  refine Withstands.ofExcept ⟨hs'.1, ends_bind_congr _ hs'.2⟩ fun b hb => ⟨?_, ha.2⟩
  rw [ends_bind_ok ha.1, hb]
  rfl

/-- Making directories is steady: what it could not make before it can not make again. -/
theorem createDirs (h : s.files.LinkFree) (operation path : String) :
    Steady (Host.file operation (.createDirs path)) s
      fun s' => path = "" ∨ s'.files.isDir path = true := by
  have hends : ∀ s : State, ends (Host.file operation (.createDirs path)) s =
      ((s.files.createDirs path).1.mapError fun _ => .internal,
        { s with files := (s.files.createDirs path).2 }) :=
    fun s => ends_file operation (.createDirs path) s
  obtain ⟨hfree, hwithin, hdir⟩ := FileTree.createDirs_spec h path
  obtain ⟨hagain, hsame⟩ := FileTree.createDirs_again h path
  refine Withstands.file ⟨.refl h, rfl⟩ ⟨⟨rfl, rfl, rfl, hfree, hwithin⟩, ?_⟩ fun a ha => ⟨?_, ?_⟩
  · exact (hends _).trans ((Prod.ext (mapError_const_eq _ hsame)
      (congrArg (fun files => { s with files }) hagain)).trans (hends s).symm)
  · rw [ends_file, ha]
    rfl
  · by_cases hne : path = ""
    · exact .inl hne
    · exact .inr (hdir hne ha)

/-- Making a file where nothing is, is steady, for then there is something. -/
theorem ensureFile (h : s.files.LinkFree) (target : String) :
    Steady (ensureFile target) s fun s' => s'.files.Present target := by
  refine Withstands.bind (.pathExists ⟨.refl h, rfl⟩ ?_)
  by_cases hthere : s.files.Present target
  · rw [present_iff_isSome.1 hthere, if_pos rfl]
    exact Withstands.pure ⟨.refl h, rfl⟩ ⟨ends_ensureFile hthere, hthere⟩
  · rw [Bool.eq_false_iff.2 (mt present_iff_isSome.2 hthere), if_neg Bool.false_ne_true]
    have hrun : ends (Node.ensureFile target) s =
        ends (Host.file ("create " ++ target) (.createFile target)) s :=
      ends_bind_ok (ends_pathExists_of_not hthere)
    have hmade : (∃ e, Files.step (.createFile target) s.files = (.error e, s.files)) ∨
        ∃ a t', Files.step (.createFile target) s.files = (.ok a, t') ∧
          Grown s { s with files := t' } ∧ t'.Present target := by
      refine changed_cases fun t' hok => ?_
      obtain ⟨hwithin, hkind⟩ := FileTree.within_of_createFile h hok hthere
      exact ⟨⟨rfl, rfl, rfl, FileTree.linkFree_of_createFile h hok, hwithin⟩, _, hkind⟩
    refine (withstands_change _ hmade).mono ?_ ?_
    · rintro s' (rfl | ⟨_, t', rfl, ⟨hgrown, hpresent⟩, hends⟩)
      · exact ⟨.refl h, rfl⟩
      · have hdone := ends_ensureFile (s := { s with files := t' }) hpresent
        exact ⟨hgrown, hdone.trans (hrun.trans hends).symm⟩
    · rintro _ s' - ⟨t', rfl, ⟨-, hpresent⟩, hends⟩
      exact ⟨hrun.trans hends, hpresent⟩

/-- To make the file that a device is mounted on is steady. -/
theorem prepareFile (h : s.files.LinkFree) (target : String) :
    Steady (prepareFile target) s fun s' => s'.files.Present target := by
  rw [prepareFile_eq]
  cases Path.parent? target with
  | none => exact ensureFile h target
  | some parent =>
    refine bind (createDirs h _ parent) (fun _ s' hs' _ => ensureFile hs'.linkFree target) ?_
    -- The directory is there, whatever is made in it.
    intro _ s' s'' hs' _ hdir hgrown
    rw [ends_file]
    rcases hdir with rfl | hdir
    · rw [Files.step, FileTree.createDirs_empty]
      rfl
    · rw [Files.step, FileTree.createDirs_of_isDir hgrown.linkFree
        (FileTree.isDir_of_within hs'.linkFree hgrown.linkFree hgrown.within hdir)]
      rfl

/-- To make what a device is mounted on is steady. -/
theorem prepareTarget (h : s.files.LinkFree) (hne : target ≠ "") (d : BlockDevice)
    (use : AccessType) :
    Steady (prepareTarget d target use) s fun s' => s'.files.Present target := by
  cases use with
  | block => exact andReturn (prepareFile h target) fun _ => .ok ("", ["bind"])
  | mount fsType flags group =>
    -- What is mounted and how is worked out after the directory is made.
    rw [prepareTarget_mount_eq]
    refine Withstands.mono (andReturn (createDirs h _ target) _) (fun _ hs' => hs') ?_
    rintro a s' - ⟨hends, hdir⟩
    exact ⟨hends, _, FileTree.isDir_iff.1 (hdir.resolve_left hne)⟩

end Steady

/-! ### Publishing -/

/-- `Publishing s target s'` says what has become of the state `s` on the way to a volume that is
visible at `target`: entries were added to the file tree, and the target may have been mounted,
which was not before, and is there then. -/
structure Publishing (s : State) (target : String) (s' : State) : Prop where
  devices : s'.devices = s.devices
  formatted : s'.formatted = s.formatted
  linkFree : s'.files.LinkFree
  within : s.files.Within s'.files
  mounts : s'.mounts = s.mounts ∨ s.mounts.get? target = none ∧ s'.files.Present target ∧
    ∃ m, s'.mounts = s.mounts.insert target m

theorem Grown.publishing (h : Grown s s') (target : String) : Publishing s target s' :=
  ⟨h.devices, h.formatted, h.linkFree, h.within, .inl h.mounts⟩

section Publish

variable {r : PublishVolume}

/-- Where something is mounted, nothing is to be done. -/
theorem ends_mountDevice_of_mounted (use : AccessType) (d : BlockDevice) {m : Host.Mount}
    (hm : s.mounts.get? r.targetPath = some m) : ends (mountDevice r use d) s = (.ok (), s) :=
  ends_bind_ok (ends_isMountPoint hm)

/-- Where nothing is, the target is prepared and the device mounted on it. -/
theorem ends_mountDevice_of_unmounted (use : AccessType) (d : BlockDevice)
    (hm : s.mounts.get? r.targetPath = none) :
    ends (mountDevice r use d) s = ends (prepareTarget d r.targetPath use >>= mountPrepared r d) s :=
  ends_bind_ok (ends_isMountPoint_of_none hm)

/-- Mounting a device, at every moment. -/
theorem withstands_mountDevice (h : s.files.LinkFree) (hne : r.targetPath ≠ "") (use : AccessType)
    (d : BlockDevice) :
    Withstands
      (fun s' => Publishing s r.targetPath s' ∧
        ends (mountDevice r use d) s' = ends (mountDevice r use d) s)
      (fun _ s' => ∃ m, s'.mounts.get? r.targetPath = some m) (mountDevice r use d) s := by
  have hstart : Publishing s r.targetPath s := (Grown.refl h).publishing _
  refine Withstands.bind (.isMountPoint ⟨hstart, rfl⟩ ?_)
  cases hm : s.mounts.get? r.targetPath with
  | some m => exact Withstands.pure ⟨hstart, rfl⟩ ⟨m, hm⟩
  | none =>
    -- While nothing is mounted, all that counts is how preparing the target ends.
    have hprepare : ∀ s', Grown s s' →
        ends (prepareTarget d r.targetPath use) s' = ends (prepareTarget d r.targetPath use) s →
        Publishing s r.targetPath s' ∧
          ends (mountDevice r use d) s' = ends (mountDevice r use d) s := by
      intro s' hgrown hends
      refine ⟨hgrown.publishing _, ?_⟩
      rw [ends_mountDevice_of_unmounted use d (by rw [hgrown.mounts, hm]),
        ends_mountDevice_of_unmounted use d hm]
      exact ends_bind_congr _ hends
    refine Withstands.bind ((Steady.prepareTarget h hne d use).mono
      (fun s' hs' => hprepare s' hs'.1 hs'.2) fun prepared s' hs' hdone => ?_)
    obtain ⟨hends, hthere⟩ := hdone
    let m : Host.Mount := ⟨d.path, prepared.1, r.options prepared.2⟩
    have hmounted : (s'.mounts.insert r.targetPath m).get? r.targetPath = some m := by
      rw [Table.get?_insert, if_pos rfl]
    refine .order rfl rfl (fun e => ⟨e, rfl⟩) (hprepare s' hs'.1 hs'.2) ?_ ⟨m, hmounted⟩
    refine ⟨⟨hs'.1.devices, hs'.1.formatted, hs'.1.linkFree, hs'.1.within,
      .inr ⟨hm, hthere, m, ?_⟩⟩, ?_⟩
    · exact congrArg (·.insert r.targetPath m) hs'.1.mounts
    · refine (ends_mountDevice_of_mounted use d hmounted).trans (.symm ?_)
      rw [ends_mountDevice_of_unmounted use d hm, ends_bind_ok hends]
      rfl

/-- Once the arguments are checked and the device is found, all that is left is to mount it. -/
theorem ends_publish {use : AccessType} {d : BlockDevice} (hcheck : r.check = .ok use)
    (hserial : serialOf r.context ≠ "")
    (hd : BlockDevice.choose (serialOf r.context) s.devices = .ok d) :
    ends (publish r) s = ends (mountDevice r use d) s := by
  rw [publish_eq, ends_bind_ok (ends_of_runOn (runOn_ofExcept_of_eq _ _ hcheck)), ends_device,
    if_neg hserial, hd]

/-- **Publishing at every moment, whatever fails**: it could as well be begun anew. -/
theorem withstands_publish (h : s.files.LinkFree) (r : PublishVolume) :
    Withstands
      (fun s' => Publishing s r.targetPath s' ∧ ends (publish r) s' = ends (publish r) s)
      (fun _ s' => ∃ m, s'.mounts.get? r.targetPath = some m) (publish r) s := by
  have hstart : Publishing s r.targetPath s := (Grown.refl h).publishing _
  rw [publish_eq]
  refine .bind (.ofExcept ⟨hstart, rfl⟩ fun use hcheck => ?_)
  have hne : r.targetPath ≠ "" := (PublishVolume.check_eq_ok_iff.1 hcheck).2.1
  refine .device ⟨hstart, rfl⟩ fun d hserial hd => ?_
  refine (withstands_mountDevice h hne use d).mono (fun s' hs' => ⟨hs'.1, ?_⟩)
    fun _ _ _ hmounted => hmounted
  have hd' : BlockDevice.choose (serialOf r.context) s'.devices = .ok d := by
    rw [hs'.1.devices, hd]
  rw [← publish_eq, ends_publish hcheck hserial hd, ends_publish hcheck hserial hd']
  exact hs'.2

end Publish

/-! ### Unpublishing -/

/-- Removes the target, if it is there. -/
def clear (target : String) : Attempt interface Unit := do
  if ← Host.pathExists target then removeTarget target

/-- Unmounts the target and removes it, as far as either is there. -/
def withdraw (target : String) : Attempt interface Unit := do
  if ← Host.isMountPoint target then Host.unmount target >>= fun _ => clear target
  else clear target

/-- To undo making a volume visible is to check the arguments, to unmount the target and to remove
it. -/
theorem unpublish_eq (volumeId target : String) :
    unpublish volumeId target = (do
      require volumeId "volume id"
      require target "target path"
      withdraw target) :=
  rfl

/-- What is not there need not be removed. -/
theorem ends_clear_of_not (h : ¬ s.files.Present target) : ends (clear target) s = (.ok (), s) :=
  ends_bind_ok (ends_pathExists_of_not h)

/-- Removing what is there, at every moment: it is there still, or it is gone and that was all. -/
theorem withstands_removeTarget (h : s.files.LinkFree) {e : Entry}
    (he : s.files.kind target = .ok e) :
    Withstands
      (fun s' => s' = s ∨ ∃ a t', s' = { s with files := t' } ∧ Removed s.files target t' ∧
        ends (removeTarget target) s = (.ok a, s'))
      (fun a s' => ∃ t', s' = { s with files := t' } ∧ Removed s.files target t' ∧
        ends (removeTarget target) s = (.ok a, s'))
      (removeTarget target) s := by
  have hstat : Files.step (.stat target) s.files = (.ok (Files.Kind.ofEntry e), s.files) := by
    simp only [Files.step, he]
    rfl
  have hkind : ends (Host.file ("stat " ++ target) (.stat target)) s =
      (.ok (Files.Kind.ofEntry e), s) := by
    rw [ends_file, hstat]
    rfl
  unfold removeTarget
  refine .bind (.file (.inl rfl) (.inl (by rw [hstat])) ?_)
  rw [hstat, ends_bind_ok hkind]
  intro kind hkind
  obtain rfl := Except.ok.inj hkind
  cases Files.Kind.ofEntry e with
  | directory =>
    exact withstands_change (q := .removeDir target) (s := s) ("remove " ++ target)
      (changed_cases fun _ hok => FileTree.removed_of_removeDir h hok)
  | _ =>
    exact withstands_change (q := .removeFile target) (s := s) ("remove " ++ target)
      (changed_cases fun _ hok => FileTree.removed_of_removeFile h hok)

/-- Removing the target, at every moment: it is there still, or it is gone. -/
theorem withstands_clear (h : s.files.LinkFree) (target : String) :
    Withstands
      (fun s' => (s' = s ∨ ∃ t', s' = { s with files := t' } ∧ Removed s.files target t') ∧
        ends (clear target) s' = ends (clear target) s)
      (fun _ s' => ¬ s'.files.Present target) (clear target) s := by
  refine .bind (.pathExists ⟨.inl rfl, rfl⟩ ?_)
  by_cases hthere : s.files.Present target
  · rw [present_iff_isSome.1 hthere, if_pos rfl]
    have hclear : ends (clear target) s = ends (removeTarget target) s :=
      ends_bind_ok (ends_pathExists hthere)
    obtain ⟨e, he⟩ := hthere
    refine (withstands_removeTarget h he).mono ?_ ?_
    · rintro s' (rfl | ⟨_, t', rfl, hgone, hends⟩)
      · exact ⟨.inl rfl, rfl⟩
      · have hdone := ends_clear_of_not (s := { s with files := t' }) (hgone.not_present h)
        exact ⟨.inr ⟨t', rfl, hgone⟩, hdone.trans (hclear.trans hends).symm⟩
    · rintro _ s' - ⟨t', rfl, hgone, -⟩
      exact hgone.not_present h
  · rw [Bool.eq_false_iff.2 (mt present_iff_isSome.2 hthere), if_neg Bool.false_ne_true]
    exact .pure ⟨.inl rfl, rfl⟩ hthere

/-- `Unpublishing s target s'` says what has become of the state `s` on the way to a volume that is
no longer visible at `target`: the target may have been unmounted, and then it may have been
removed. -/
structure Unpublishing (s : State) (target : String) (s' : State) : Prop where
  devices : s'.devices = s.devices
  formatted : s'.formatted = s.formatted
  mounts : s'.mounts = s.mounts ∨ s'.mounts = s.mounts.erase target
  files : s'.files = s.files ∨
    s'.mounts.get? target = none ∧ Removed s.files target s'.files

theorem Unpublishing.linkFree (h : s.files.LinkFree) (hs : Unpublishing s target s') :
    s'.files.LinkFree := by
  rcases hs.files with hfiles | ⟨-, hgone⟩
  · rw [hfiles]
    exact h
  · exact hgone.linkFree h

/-- Undoing a mount, at every moment. -/
theorem withstands_withdraw (h : s.files.LinkFree) (target : String) :
    Withstands
      (fun s' => Unpublishing s target s' ∧ ends (withdraw target) s' = ends (withdraw target) s)
      (fun _ s' => s'.mounts.get? target = none ∧ ¬ s'.files.Present target)
      (withdraw target) s := by
  have hstart : Unpublishing s target s := ⟨rfl, rfl, .inl rfl, .inl rfl⟩
  -- Once nothing is mounted, all that is left is to remove the target.
  have hunmounted : ∀ {s' : State}, s'.mounts.get? target = none →
      ends (withdraw target) s' = ends (clear target) s' :=
    fun hs' => ends_bind_ok (ends_isMountPoint_of_none hs')
  have hclear : ∀ mounts, (mounts = s.mounts ∨ mounts = s.mounts.erase target) →
      mounts.get? target = none →
      ends (clear target) { s with mounts } = ends (withdraw target) s →
      Withstands
        (fun s' => Unpublishing s target s' ∧ ends (withdraw target) s' = ends (withdraw target) s)
        (fun _ s' => s'.mounts.get? target = none ∧ ¬ s'.files.Present target)
        (clear target) { s with mounts } := by
    intro mounts hmounts hnone hends
    refine (withstands_clear (s := { s with mounts }) h target).mono ?_ ?_
    · rintro s' ⟨rfl | ⟨t', rfl, hgone⟩, hsame⟩
      · exact ⟨⟨rfl, rfl, hmounts, .inl rfl⟩, (hunmounted hnone).trans hends⟩
      · exact ⟨⟨rfl, rfl, hmounts, .inr ⟨hnone, hgone⟩⟩,
          (hunmounted hnone).trans (hsame.trans hends)⟩
    · rintro _ s' ⟨rfl | ⟨t', rfl, -⟩, -⟩ hgone
      · exact ⟨hnone, hgone⟩
      · exact ⟨hnone, hgone⟩
  refine .bind (.isMountPoint ⟨hstart, rfl⟩ ?_)
  cases hm : s.mounts.get? target with
  | none => exact hclear s.mounts (.inl rfl) hm (hunmounted hm).symm
  | some m =>
    have hnone : (s.mounts.erase target).get? target = none := Table.get?_erase_self _ _
    have hends : ends (clear target) { s with mounts := s.mounts.erase target } =
        ends (withdraw target) s :=
      (ends_bind_ok (f := fun b => if b then Host.unmount target >>= fun _ => clear target
        else clear target) (ends_isMountPoint hm)).symm
    refine .bind (.order rfl rfl (fun e => ⟨e, rfl⟩) ⟨hstart, rfl⟩ ?_ ?_)
    · exact ⟨⟨rfl, rfl, .inr rfl, .inl rfl⟩, (hunmounted hnone).trans hends⟩
    · exact hclear _ (.inr rfl) hnone hends

theorem ends_require {value what : String} (h : value ≠ "") (s : State) :
    ends (require value what) s = (.ok (), s) := by
  unfold require
  rw [if_neg (by simpa using h)]
  rfl

/-- Once the arguments are checked, all that is left is to undo the mount. -/
theorem ends_unpublish {volumeId : String} (hid : volumeId ≠ "") (htarget : target ≠ "") :
    ends (unpublish volumeId target) s = ends (withdraw target) s := by
  rw [unpublish_eq]
  exact (ends_bind_ok (ends_require hid s)).trans (ends_bind_ok (ends_require htarget s))

/-- **Unpublishing at every moment, whatever fails**: it could as well be begun anew. -/
theorem withstands_unpublish (h : s.files.LinkFree) (volumeId target : String) :
    Withstands
      (fun s' => Unpublishing s target s' ∧
        ends (unpublish volumeId target) s' = ends (unpublish volumeId target) s)
      (fun _ s' => target ≠ "" ∧ s'.mounts.get? target = none ∧ ¬ s'.files.Present target)
      (unpublish volumeId target) s := by
  have hstart : Unpublishing s target s := ⟨rfl, rfl, .inl rfl, .inl rfl⟩
  rw [unpublish_eq]
  refine .require ⟨hstart, rfl⟩ fun hid => .require ⟨hstart, rfl⟩ fun htarget => ?_
  have hends := fun s' : State => ends_unpublish (s := s') hid htarget
  rw [unpublish_eq] at hends
  refine (withstands_withdraw h target).mono (fun s' hs' => ⟨hs'.1, ?_⟩)
    fun _ _ _ hdone => ⟨htarget, hdone⟩
  rw [hends, hends]
  exact hs'.2

/-! ### An attempt that failed half-way -/

/-- A request to make a block device visible at `/pods/first`. -/
def publishFirst : PublishVolume where
  volumeId := "a"
  targetPath := "/pods/first"
  capability := some ⟨some .block, some 1⟩
  context := Table.ofList [(serialKey, "s1")]

/-- A node with that device, and with nothing in its file tree. -/
def oneDevice : State where
  devices := [⟨"s1", "/dev/vdb", none⟩]

theorem linkFree_oneDevice : oneDevice.files.LinkFree := by
  intro place target
  cases place <;> exact nofun

/-- The answer with which a request fails. -/
def failing : (r : Host.Request) → DriverError → interface.Answer r
  | .file _, _ => .error .missing
  | .listDevices, e | .mount _ _ _ _, e | .unmount _, e | .isMountPoint _, e | .pathExists _, e
  | .makeFilesystem _ _, e => .error e

theorem fails_failing (r : Host.Request) (e : DriverError) : Fails r (failing r e) := by
  cases r <;> exact ⟨_, rfl⟩

/-- An attempt to make the device visible in which it can not be mounted. -/
def failedFirst : Except Status (Outcome Response) × State × List (Fault interface) :=
  let mountFails : Fault interface :=
    { applies := fun r => r.name? = some "mount"
      error := .command "mount" "busy"
      skip := 0
      times := some 1 }
  (respond "node" (.publishVolume publishFirst)).run.run (step.faulty failing)
    (oneDevice, [mountFails])

/-- The node after that attempt. -/
def unmountedFirst : State :=
  failedFirst.2.1

end Hotplug.Node
