import Hotplug.Proofs.Node.Retry

/-!
# What a refused request leaves behind

A request to stage or to publish a volume is answered as an invalid argument if it is wrong in
itself. Staging sees that before it looks at anything. Publishing sees all but one thing before:
that a type of filesystem is not supported it notices only after it has made the target, and it
leaves that behind.

## Main definitions

* `located check context f` — what staging and publishing have in common.
* `Malformed check context` — a request that can be refused on the spot.
* `NeverInvalid p` — an attempt that is never answered as an invalid argument.
* `RefusedLate r s` — a request to publish that is refused after its target was made.

## Main results

* `located_of_malformed` — what is malformed is refused with no effect.
* `ends_stage_invalid_iff`, `ends_publish_invalid_iff` — when a request is refused.
* `refusal_leaves_target` — **a request refused as invalid has no effect, unless it is refused
  late.**
-/

namespace Hotplug

/-- The type of filesystem that a request asks for is supported, or an invalid argument. -/
theorem filesystemFor_cases (requested : String) :
    (∃ fsType, filesystemFor requested = .ok fsType) ∨
      requested ≠ "" ∧ requested ∉ supportedFilesystems ∧
        ∃ message, filesystemFor requested = .error (.invalidArgument message) := by
  unfold filesystemFor
  by_cases hempty : requested = ""
  · simp [hempty]
  · by_cases hnamed : requested ∈ supportedFilesystems
    · simp [hempty, hnamed]
    · simp [hempty, hnamed]

/-- A device that can not be told is no invalid argument. -/
theorem BlockDevice.code_of_choose {serial : String} {devices : List BlockDevice} {e : DriverError}
    (h : BlockDevice.choose serial devices = .error e) : e.code = .failedPrecondition := by
  unfold BlockDevice.choose at h
  split at h
  · cases h
    rfl
  · cases h
  · cases h
    rfl

namespace Node

open Host (interface step State)

variable {α β γ : Type} {s s' : State}

/-! ### The checks -/

/-- What does not pass checks of this form is an invalid argument. -/
theorem code_of_checks {id path what what' what'' : String} {found : Option AccessType}
    {next : AccessType → Except DriverError γ} {e : DriverError}
    (hnext : ∀ use e, next use = .error e → e.code = .invalidArgument)
    (h : (do
      if id.isEmpty then throw (.invalidArgument what)
      if path.isEmpty then throw (.invalidArgument what')
      match found with
      | none => throw (.invalidArgument what'')
      | some use => next use : Except DriverError γ) = .error e) : e.code = .invalidArgument := by
  rw [guard_eq_error_iff, guard_eq_error_iff] at h
  rcases h with ⟨-, rfl⟩ | ⟨-, ⟨-, rfl⟩ | ⟨-, h⟩⟩
  · rfl
  · rfl
  · cases found with
    | none =>
      cases h
      rfl
    | some use => exact hnext use e h

theorem StageVolume.code_of_check {r : StageVolume} {e : DriverError} (h : r.check = .error e) :
    e.code = .invalidArgument := by
  apply code_of_checks _ h
  intro use e hwanted
  cases use with
  | block => cases hwanted
  | mount requested flags group =>
    rw [wantedFilesystem] at hwanted
    rcases filesystemFor_cases requested with ⟨fsType, hfs⟩ | ⟨-, -, message, hfs⟩
    · rw [hfs] at hwanted
      cases hwanted
    · rw [hfs] at hwanted
      cases hwanted
      rfl

theorem PublishVolume.code_of_check {r : PublishVolume} {e : DriverError} (h : r.check = .error e) :
    e.code = .invalidArgument := by
  apply code_of_checks _ h
  intro use e hreturned
  cases hreturned

/-! ### Before the device is found -/

/-- What staging and publishing have in common: the arguments are checked, the device is looked for,
and `f` goes on with what the checks give and the device. -/
def located (check : Except DriverError γ) (context : Table String)
    (f : γ → BlockDevice → Attempt interface α) : Attempt interface α := do
  let checked ← Attempt.ofExcept check
  let d ← device context
  f checked d

/-- The arguments do not pass the checks, or the context brings no serial. -/
def Malformed (check : Except DriverError γ) (context : Table String) : Prop :=
  (∃ e, check = .error e) ∨ serialOf context = ""

section Located

variable {check : Except DriverError γ} {context : Table String}
  {f : γ → BlockDevice → Attempt interface α}

/-- **What is malformed is refused with no effect**: nothing is asked. -/
theorem located_of_malformed (hcode : ∀ e, check = .error e → e.code = .invalidArgument)
    (h : Malformed check context) :
    ends (located check context f) s = (.error .invalidArgument, s) ∧
      askedOn step (located check context f) s = [] := by
  unfold located
  cases hcheck : check with
  | error e =>
    have hends : ends (Attempt.ofExcept (.error e : Except DriverError γ)) s =
        (.error e.code, s) := rfl
    rw [ends_bind, hends, hcode e hcheck]
    exact ⟨rfl, rfl⟩
  | ok checked =>
    have hserial : serialOf context = "" := by
      rcases h with ⟨e, he⟩ | hserial
      · rw [hcheck] at he
        cases he
      · exact hserial
    rw [device_of_nameless hserial]
    exact ⟨rfl, rfl⟩

/-- What is not malformed lists the devices, and goes on with the one that is meant. -/
theorem located_of_choose {checked : γ} {d : BlockDevice} (hcheck : check = .ok checked)
    (hserial : serialOf context ≠ "")
    (hd : BlockDevice.choose (serialOf context) s.devices = .ok d) :
    ends (located check context f) s = ends (f checked d) s ∧
      askedOn step (located check context f) s = .listDevices :: askedOn step (f checked d) s := by
  unfold located
  constructor
  · rw [ends_bind_ok (ends_of_runOn (runOn_ofExcept_of_eq _ _ hcheck)), ends_device,
      if_neg hserial, hd]
  · rw [askedOn_bind_ok (runOn_ofExcept_of_eq step s hcheck),
      askedOn_bind_ok (runOn_device hserial hd), askedOn_device hserial]
    rfl

/-- When such a request is refused: at once, or by what comes after the device was found. -/
theorem ends_located_invalid_iff (hcode : ∀ e, check = .error e → e.code = .invalidArgument) :
    (ends (located check context f) s).1 = .error .invalidArgument ↔
      Malformed check context ∨ ∃ checked d, check = .ok checked ∧ serialOf context ≠ "" ∧
        BlockDevice.choose (serialOf context) s.devices = .ok d ∧
          (ends (f checked d) s).1 = .error .invalidArgument := by
  constructor
  · intro h
    cases hcheck : check with
    | error e => exact .inl (.inl ⟨e, rfl⟩)
    | ok checked =>
      by_cases hserial : serialOf context = ""
      · exact .inl (.inr hserial)
      · cases hd : BlockDevice.choose (serialOf context) s.devices with
        | ok d =>
          rw [(located_of_choose hcheck hserial hd).1] at h
          exact .inr ⟨checked, d, rfl, hserial, rfl, h⟩
        | error e =>
          -- That the device is not there yet has a code of its own.
          rw [located, ends_bind_ok (ends_of_runOn (runOn_ofExcept_of_eq _ _ hcheck)), ends_device,
            if_neg hserial, hd] at h
          have hother : Except.error e.code = (.error .invalidArgument : Except Code α) := h
          rw [BlockDevice.code_of_choose hd] at hother
          cases hother
  · rintro (h | ⟨checked, d, hcheck, hserial, hd, h⟩)
    · rw [(located_of_malformed hcode h).1]
    · rw [(located_of_choose hcheck hserial hd).1]
      exact h

end Located

/-! ### Staging -/

theorem stage_eq_located (r : StageVolume) : stage r = located r.check r.context format :=
  stage_eq r

/-- Once the device is found, nothing is refused. -/
theorem exists_ends_format (wanted : Option String) (d : BlockDevice) (s : State) :
    ∃ events s', ends (format wanted d) s = (.ok events, s') := by
  cases hhas : d.hasFilesystem with
  | true => exact ⟨_, _, ends_format_of_hasFilesystem wanted hhas⟩
  | false =>
    cases wanted with
    | none => exact ⟨_, _, rfl⟩
    | some fsType => exact ⟨_, _, ends_format hhas⟩

/-- **Staging is refused if it is malformed, and in no other case.** -/
theorem ends_stage_invalid_iff (r : StageVolume) (s : State) :
    (ends (stage r) s).1 = .error .invalidArgument ↔ Malformed r.check r.context := by
  rw [stage_eq_located, ends_located_invalid_iff fun e => StageVolume.code_of_check]
  refine ⟨?_, .inl⟩
  rintro (h | ⟨wanted, d, -, -, -, h⟩)
  · exact h
  · obtain ⟨events, s', hends⟩ := exists_ends_format wanted d s
    rw [hends] at h
    cases h

/-! ### Publishing -/

theorem publish_eq_located (r : PublishVolume) :
    publish r = located r.check r.context (mountDevice r) :=
  publish_eq r

/-- `NeverInvalid p` says that the attempt `p` is never answered as an invalid argument. -/
def NeverInvalid (p : Attempt interface α) : Prop :=
  ∀ s, (ends p s).1 ≠ .error .invalidArgument

/-- Where what follows never is, only the first part of an attempt is. -/
theorem ends_bind_invalid_iff {p : Attempt interface α} {f : α → Attempt interface β}
    (hf : ∀ a, NeverInvalid (f a)) :
    (ends (p >>= f) s).1 = .error .invalidArgument ↔ (ends p s).1 = .error .invalidArgument := by
  rw [ends_bind]
  rcases ends p s with ⟨code | a, s'⟩
  · simp
  · exact iff_of_false (hf a s') nofun

namespace NeverInvalid

theorem pure (a : α) : NeverInvalid (pure a : Attempt interface α) := by
  intro s
  exact nofun

theorem bind {p : Attempt interface α} {f : α → Attempt interface β} (hp : NeverInvalid p)
    (hf : ∀ a, NeverInvalid (f a)) : NeverInvalid (p >>= f) := by
  intro s h
  exact hp s ((ends_bind_invalid_iff hf).1 h)

theorem file (operation : String) (q : Files.Request) : NeverInvalid (Host.file operation q) := by
  intro s
  rw [ends_file]
  cases (Files.step q s.files).1 <;> exact nofun

theorem pathExists (path : String) : NeverInvalid (Host.pathExists path) := by
  intro s
  exact nofun

theorem mountPrepared (r : PublishVolume) (d : BlockDevice) (prepared : String × List String) :
    NeverInvalid (mountPrepared r d prepared) := by
  intro s
  exact nofun

/-- To make the file that a block device is mounted on may fail, but not as an invalid argument. -/
theorem prepareFile (target : String) : NeverInvalid (prepareFile target) := by
  have hensure : NeverInvalid (ensureFile target) := by
    apply bind (pathExists target)
    intro found
    split
    · exact pure ()
    · exact file _ _
  rw [prepareFile_eq]
  cases Path.parent? target with
  | none => exact hensure
  | some parent => exact bind (file _ _) fun _ => hensure

end NeverInvalid

/-- `RefusedLate r s` says that the request `r`, made in the state `s`, is refused after its target
was made: the use is a mount with a type of filesystem that is not supported, the device is there
and blank, and nothing but that stands against it. -/
structure RefusedLate (r : PublishVolume) (s : State) : Prop where
  use : ∃ requested flags group, r.check = .ok (.mount requested flags group) ∧ requested ≠ "" ∧
    requested ∉ supportedFilesystems
  named : serialOf r.context ≠ ""
  blank : ∃ d, BlockDevice.choose (serialOf r.context) s.devices = .ok d ∧ d.hasFilesystem = false
  unmounted : s.mounts.get? r.targetPath = none
  made : (s.files.createDirs r.targetPath).1 = .ok ()

/-- A blank device is mounted with the type that is asked for, and any other with what it has. -/
theorem mountedType_cases (d : BlockDevice) (requested : String) :
    (∃ fsType, mountedType d requested = .ok fsType) ∨
      d.hasFilesystem = false ∧ requested ≠ "" ∧ requested ∉ supportedFilesystems := by
  unfold mountedType BlockDevice.hasFilesystem
  cases d.filesystem? with
  | some found => exact .inl ⟨found, rfl⟩
  | none =>
    rcases filesystemFor_cases requested with hok | ⟨hne, hnot, -⟩
    · exact .inl hok
    · exact .inr ⟨rfl, hne, hnot⟩

theorem runOn_createDirs {target : String} (operation : String)
    (hmade : (s.files.createDirs target).1 = .ok ()) :
    runOn step (Host.file operation (.createDirs target)) s =
      (.ok (), { s with files := (s.files.createDirs target).2 }) := by
  rw [runOn_file, Files.step, hmade]
  rfl

theorem askedOn_file (operation : String) (q : Files.Request) (s : State) :
    askedOn step (Host.file operation q) s = [.file q] := by
  unfold askedOn Host.file
  rw [ExceptT.run_mk, Program.asked_ask, step_file]
  cases (Files.step q s.files).1 <;> rfl

/-- The directory of a mount is made first; then it may turn out that there is nothing to mount. -/
theorem runOn_prepareTarget_mount {d : BlockDevice} {target requested : String}
    {flags : List String} {group : String} (hmade : (s.files.createDirs target).1 = .ok ()) :
    runOn step (prepareTarget d target (.mount requested flags group)) s =
      ((mountedType d requested).map (·, flags),
        { s with files := (s.files.createDirs target).2 }) := by
  rw [prepareTarget_mount_eq, runOn_bind_ok (runOn_createDirs _ hmade), runOn_ofExcept]

theorem askedOn_prepareTarget_mount {d : BlockDevice} {target requested : String}
    {flags : List String} {group : String} (hmade : (s.files.createDirs target).1 = .ok ()) :
    askedOn step (prepareTarget d target (.mount requested flags group)) s =
      [.file (.createDirs target)] := by
  rw [prepareTarget_mount_eq, askedOn_bind_ok (runOn_createDirs _ hmade), askedOn_file,
    askedOn_ofExcept, List.append_nil]

/-- A blank device can not be mounted with a type that is not supported. -/
theorem mountedType_unsupported {d : BlockDevice} {requested : String} (hne : requested ≠ "")
    (hnot : requested ∉ supportedFilesystems) (hblank : d.hasFilesystem = false) :
    ∃ message, mountedType d requested = .error (.invalidArgument message) := by
  rw [BlockDevice.hasFilesystem, Option.isSome_eq_false_iff, Option.isNone_iff_eq_none] at hblank
  rw [mountedType, hblank]
  rcases filesystemFor_cases requested with ⟨fsType, hok⟩ | ⟨-, -, hrefused⟩
  · rcases filesystemFor_eq_ok_iff.1 hok with ⟨hempty, -⟩ | ⟨hnamed, -⟩
    · exact absurd hempty hne
    · exact absurd (mem_supportedFilesystems.2 hnamed) hnot
  · exact hrefused

/-- When preparing a target is refused: a directory was made in vain. -/
theorem ends_prepareTarget_invalid_iff {d : BlockDevice} {target : String} {use : AccessType} :
    (ends (prepareTarget d target use) s).1 = .error .invalidArgument ↔
      ∃ requested flags group, use = .mount requested flags group ∧ requested ≠ "" ∧
        requested ∉ supportedFilesystems ∧ d.hasFilesystem = false ∧
          (s.files.createDirs target).1 = .ok () := by
  constructor
  · intro h
    cases use with
    | block =>
      have hnever : NeverInvalid (prepareTarget d target .block) :=
        .bind (.prepareFile target) fun _ => .pure _
      exact absurd h (hnever s)
    | mount requested flags group =>
      cases hmade : (s.files.createDirs target).1 with
      | error e =>
        have hfile : ends (Host.file ("create " ++ target) (.createDirs target)) s =
            (.error .internal, { s with files := (s.files.createDirs target).2 }) := by
          rw [ends_file, Files.step, hmade]
          rfl
        rw [prepareTarget_mount_eq, ends_bind, hfile] at h
        cases h
      | ok =>
        rw [ends_of_runOn (runOn_prepareTarget_mount hmade)] at h
        rcases mountedType_cases d requested with ⟨fsType, hok⟩ | ⟨hblank, hne, hnot⟩
        · rw [hok] at h
          cases h
        · exact ⟨requested, flags, group, rfl, hne, hnot, hblank, rfl⟩
  · rintro ⟨requested, flags, group, rfl, hne, hnot, hblank, hmade⟩
    obtain ⟨message, hrefused⟩ := mountedType_unsupported hne hnot hblank
    rw [ends_of_runOn (runOn_prepareTarget_mount hmade), hrefused]
    rfl

/-- When mounting a device is refused: nothing is mounted there, and preparing the target is. -/
theorem ends_mountDevice_invalid_iff {r : PublishVolume} {use : AccessType} {d : BlockDevice} :
    (ends (mountDevice r use d) s).1 = .error .invalidArgument ↔
      s.mounts.get? r.targetPath = none ∧
        (ends (prepareTarget d r.targetPath use) s).1 = .error .invalidArgument := by
  cases hm : s.mounts.get? r.targetPath with
  | some m =>
    rw [ends_mountDevice_of_mounted use d hm]
    simp
  | none =>
    rw [ends_mountDevice_of_unmounted use d hm,
      ends_bind_invalid_iff (NeverInvalid.mountPrepared r d)]
    simp

/-- **Publishing is refused if it is malformed, or late.** -/
theorem ends_publish_invalid_iff (r : PublishVolume) (s : State) :
    (ends (publish r) s).1 = .error .invalidArgument ↔
      Malformed r.check r.context ∨ RefusedLate r s := by
  rw [publish_eq_located, ends_located_invalid_iff fun e => PublishVolume.code_of_check]
  apply or_congr Iff.rfl
  constructor
  · rintro ⟨use, d, hcheck, hserial, hd, h⟩
    obtain ⟨hunmounted, hprepare⟩ := ends_mountDevice_invalid_iff.1 h
    obtain ⟨requested, flags, group, rfl, hne, hnot, hblank, hmade⟩ :=
      ends_prepareTarget_invalid_iff.1 hprepare
    exact ⟨⟨requested, flags, group, hcheck, hne, hnot⟩, hserial, ⟨d, hd, hblank⟩, hunmounted, hmade⟩
  · rintro ⟨⟨requested, flags, group, hcheck, hne, hnot⟩, hserial, ⟨d, hd, hblank⟩, hunmounted, hmade⟩
    refine ⟨_, d, hcheck, hserial, hd, ends_mountDevice_invalid_iff.2 ⟨hunmounted, ?_⟩⟩
    exact ends_prepareTarget_invalid_iff.2
      ⟨requested, flags, group, rfl, hne, hnot, hblank, hmade⟩

/-- **What a late refusal leaves behind** is the directory that was made for the target. -/
theorem RefusedLate.leaves {r : PublishVolume} (h : RefusedLate r s) :
    (ends (publish r) s).2 = { s with files := (s.files.createDirs r.targetPath).2 } ∧
      askedOn step (publish r) s =
        [.listDevices, .isMountPoint r.targetPath, .file (.createDirs r.targetPath)] := by
  obtain ⟨⟨requested, flags, group, hcheck, hne, hnot⟩, hserial, ⟨d, hd, hblank⟩, hunmounted,
    hmade⟩ := h
  obtain ⟨message, hrefused⟩ := mountedType_unsupported hne hnot hblank
  have hprepare : runOn step (prepareTarget d r.targetPath (.mount requested flags group)) s =
      (.error (.invalidArgument message),
        { s with files := (s.files.createDirs r.targetPath).2 }) := by
    rw [runOn_prepareTarget_mount hmade, hrefused]
    rfl
  have hlooked : runOn step (Host.isMountPoint r.targetPath) s = (.ok false, s) := by
    have hnone : (s.mounts.get? r.targetPath).isSome = false := by rw [hunmounted]; rfl
    exact congrArg (fun b => (Except.ok b, s)) hnone
  rw [publish_eq_located, (located_of_choose hcheck hserial hd).1,
    (located_of_choose hcheck hserial hd).2]
  constructor
  · have hrun : runOn step (mountDevice r (.mount requested flags group) d) s =
        (.error (.invalidArgument message),
          { s with files := (s.files.createDirs r.targetPath).2 }) :=
      (runOn_bind_ok hlooked).trans (runOn_bind_error hprepare)
    rw [ends_of_runOn hrun]
  · have hthen : askedOn step
        (prepareTarget d r.targetPath (.mount requested flags group) >>= mountPrepared r d) s =
          [.file (.createDirs r.targetPath)] :=
      (askedOn_bind_error hprepare).trans (askedOn_prepareTarget_mount hmade)
    have hasked : askedOn step (mountDevice r (.mount requested flags group) d) s =
        [.isMountPoint r.targetPath, .file (.createDirs r.targetPath)] :=
      (askedOn_bind_ok hlooked).trans (congrArg (Host.Request.isMountPoint r.targetPath :: ·) hthen)
    rw [hasked]

/-- Where the tree has no links, the target is a directory after a late refusal, and was one before
if nothing has changed. -/
theorem RefusedLate.isDir {r : PublishVolume} (h : RefusedLate r s) (hfree : s.files.LinkFree) :
    (s.files.createDirs r.targetPath).2.isDir r.targetPath = true ∧
      ((s.files.createDirs r.targetPath).2 = s.files ↔ s.files.isDir r.targetPath = true) := by
  obtain ⟨requested, flags, group, hcheck, -⟩ := h.use
  obtain ⟨-, htarget, -⟩ := PublishVolume.check_eq_ok_iff.1 hcheck
  obtain ⟨-, -, hmade⟩ := FileTree.createDirs_spec hfree r.targetPath
  have hdir := hmade htarget h.made
  refine ⟨hdir, fun hsame => ?_, fun hbefore => ?_⟩
  · rw [hsame] at hdir
    exact hdir
  · rw [FileTree.createDirs_of_isDir hfree hbefore]

/-! ### Answers -/

section Answers

variable {nodeId : String} {r : Request} {p : Attempt interface α} {g : α → Outcome Response}

/-- A request that is answered with an attempt is refused as that is, and leaves the same state. -/
theorem answer_refused_iff (hr : respond nodeId r = Answering.of p >>= fun a => pure (g a))
    (code : Code) :
    ((answer nodeId r s).1 = .error code ↔ (ends p s).1 = .error code) ∧
      (answer nodeId r s).2 = (ends p s).2 := by
  rw [answer_eq_ends hr, ends_bind]
  rcases ends p s with ⟨code' | a, s'⟩
  · exact ⟨by simp, rfl⟩
  · exact ⟨iff_of_false nofun nofun, rfl⟩

theorem askedOn_respond (hr : respond nodeId r = Answering.of p >>= fun a => pure (g a)) :
    askedOn step (respond nodeId r) s = askedOn step p s := by
  rw [hr, askedOn_andReturn, askedOn_of]

end Answers

/-- **A request refused as invalid has no effect, unless it is refused late.** A request to stage a
volume is refused as an invalid argument exactly if it is malformed, and then nothing is asked of
the node. A request to publish one is refused so if it is malformed, and then nothing is asked
either; or if it is refused late, and then the directories that lead to the target were made, and
stay. Nothing else has changed then: no device was formatted, and nothing was mounted. Where the
file tree has no links, the target is a directory from then on, so that nothing has changed only if
it was one. -/
theorem refusal_leaves_target (nodeId : String) (s : State) :
    (∀ r : StageVolume,
      ((answer nodeId (.stageVolume r) s).1 = .error .invalidArgument ↔
        Malformed r.check r.context) ∧
      (Malformed r.check r.context →
        askedOn step (respond nodeId (.stageVolume r)) s = [] ∧
          (answer nodeId (.stageVolume r) s).2 = s)) ∧
    ∀ r : PublishVolume,
      ((answer nodeId (.publishVolume r) s).1 = .error .invalidArgument ↔
        Malformed r.check r.context ∨ RefusedLate r s) ∧
      (Malformed r.check r.context →
        askedOn step (respond nodeId (.publishVolume r)) s = [] ∧
          (answer nodeId (.publishVolume r) s).2 = s) ∧
      (RefusedLate r s →
        askedOn step (respond nodeId (.publishVolume r)) s =
            [.listDevices, .isMountPoint r.targetPath, .file (.createDirs r.targetPath)] ∧
          (answer nodeId (.publishVolume r) s).2 =
            { s with files := (s.files.createDirs r.targetPath).2 } ∧
          (s.files.LinkFree →
            (s.files.createDirs r.targetPath).2.isDir r.targetPath = true ∧
              ((s.files.createDirs r.targetPath).2 = s.files ↔
                s.files.isDir r.targetPath = true))) := by
  constructor
  · intro r
    have hr : respond nodeId (.stageVolume r) =
        Answering.of (stage r) >>= fun events => pure { response := .done, events } := rfl
    obtain ⟨hrefused, hstate⟩ := answer_refused_iff (s := s) hr .invalidArgument
    refine ⟨hrefused.trans (ends_stage_invalid_iff r s), fun h => ?_⟩
    obtain ⟨hends, hasked⟩ := located_of_malformed (f := format) (s := s)
      (fun e => StageVolume.code_of_check) h
    rw [askedOn_respond hr, hstate, stage_eq_located, hasked, hends]
    exact ⟨rfl, rfl⟩
  · intro r
    have hr : respond nodeId (.publishVolume r) =
        Answering.of (publish r) >>= fun _ => pure { response := .done } := rfl
    obtain ⟨hrefused, hstate⟩ := answer_refused_iff (s := s) hr .invalidArgument
    refine ⟨hrefused.trans (ends_publish_invalid_iff r s), fun h => ?_, fun h => ?_⟩
    · obtain ⟨hends, hasked⟩ := located_of_malformed (f := mountDevice r) (s := s)
        (fun e => PublishVolume.code_of_check) h
      rw [askedOn_respond hr, hstate, publish_eq_located, hasked, hends]
      exact ⟨rfl, rfl⟩
    · obtain ⟨hends, hasked⟩ := h.leaves
      rw [askedOn_respond hr, hstate, hasked, hends]
      exact ⟨rfl, rfl, h.isDir⟩

/-- A mount with a type of filesystem that is not supported. -/
def ntfs : Option Capability :=
  some ⟨some (.mount "ntfs" [] ""), some 1⟩

/-- Staging for that mount is refused on the spot; publishing is refused late, and the target is
left. -/
theorem refusal_leaves_target_ntfs :
    let staging : StageVolume := { stageFirst with capability := ntfs }
    let publishing : PublishVolume := { publishFirst with capability := ntfs }
    Malformed staging.check staging.context ∧
      (answer "node" (.stageVolume staging) oneDevice).1 = .error .invalidArgument ∧
      askedOn step (respond "node" (.stageVolume staging)) oneDevice = [] ∧
      RefusedLate publishing oneDevice ∧
      (answer "node" (.publishVolume publishing) oneDevice).1 = .error .invalidArgument ∧
      askedOn step (respond "node" (.publishVolume publishing)) oneDevice =
        [.listDevices, .isMountPoint "/pods/first", .file (.createDirs "/pods/first")] ∧
      (oneDevice.files.createDirs "/pods/first").2.isDir "/pods/first" = true := by
  intro staging publishing
  have hmalformed : Malformed staging.check staging.context := .inl ⟨_, rfl⟩
  have hlate : RefusedLate publishing oneDevice := by
    refine ⟨⟨"ntfs", [], "", rfl, by decide, by decide⟩, by decide +kernel, ?_, rfl,
      by decide +kernel⟩
    exact ⟨⟨"s1", "/dev/vdb", none⟩, by decide +kernel, rfl⟩
  obtain ⟨hstage, hpublish⟩ := refusal_leaves_target "node" oneDevice
  obtain ⟨hrefused, hnothing⟩ := hstage staging
  obtain ⟨hrefused', -, hleaves⟩ := hpublish publishing
  obtain ⟨hasked, -, hdir⟩ := hleaves hlate
  exact ⟨hmalformed, hrefused.2 hmalformed, (hnothing hmalformed).1, hlate,
    hrefused'.2 (.inr hlate), hasked, (hdir linkFree_oneDevice).1⟩

/-- A request that is refused as invalid leaves directories that were not there. -/
theorem invalid_request_leaves_directories :
    oneDevice.files = .empty ∧
      answer "node" (.publishVolume { publishFirst with capability := ntfs }) oneDevice =
        (.error .invalidArgument,
          { oneDevice with
            files := ⟨[(["pods", "first"], .directory), (["pods"], .directory)]⟩ }) := by
  decide +kernel

end Node

end Hotplug
