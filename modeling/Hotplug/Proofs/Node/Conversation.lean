import Hotplug.Node.Service
import Hotplug.Proofs.Program
import Hotplug.Proofs.Success

/-!
# How the node answers

Staging and publishing a volume begin alike. The arguments are checked, and then the node lists its
devices and picks the one with the serial of the volume's context. Only what follows is different,
and it is about that device alone.

## Main definitions

* `serialOf context` — the serial that a context brings.
* `StageVolume.check`, `PublishVolume.check` — the checks of the arguments.
* `format`, `mountDevice`, `mountPrepared` — what is done with the device that was found.
* `mountedType d requested` — the filesystem that a device is mounted with.
* `Finds context f t y` — the conversation `t` finds the device of a context and goes on with `f`.

## Main results

* `choose_eq_ok_iff` — a device is picked if it is the only one with its serial.
* `stage_eq`, `publish_eq` — the two requests in terms of these parts.
* `conversation_stage`, `conversation_publish` — what their conversations look like.
* `asksOnly_mountDevice`, `asksOnly_unpublish`, `asksOnly_stats` — what else the node may ask.
-/

namespace Hotplug

/-- A device is picked if it is the only one with its serial. -/
theorem BlockDevice.choose_eq_ok_iff {serial : String} {devices : List BlockDevice}
    {d : BlockDevice} :
    BlockDevice.choose serial devices = .ok d ↔ devices.filter (·.serial == serial) = [d] := by
  unfold BlockDevice.choose
  split
  · next h => simp [h]
  · next h => simp [h]
  · next hnil hone =>
    refine iff_of_false nofun fun h => ?_
    exact hone d h

namespace Node

open Host (interface)

variable {β : Type}

/-! ### The device of a context -/

/-- The serial that a context brings, empty for none. -/
def serialOf (context : Table String) : String :=
  (context.get? serialKey).getD ""

/-- `Finds context f t y` says that the conversation `t`, which ends in `y`, looks for the device of
`context` and, where there is one, goes on with `f`. -/
inductive Finds (context : Table String) (f : BlockDevice → Attempt interface β) :
    List (Exchange interface) → Except DriverError β → Prop where
  /-- Without a serial nothing is looked for. -/
  | nameless (hserial : serialOf context = "") (e : DriverError) : Finds context f [] (.error e)
  /-- The devices can not be listed. -/
  | unlisted (hserial : serialOf context ≠ "") (e : DriverError) :
      Finds context f [⟨.listDevices, .error e⟩] (.error e)
  /-- No device has the serial, or more than one. -/
  | unresolved (hserial : serialOf context ≠ "") (devices : List BlockDevice) {e : DriverError}
      (hd : BlockDevice.choose (serialOf context) devices = .error e) :
      Finds context f [⟨.listDevices, .ok devices⟩] (.error e)
  /-- One device has the serial. -/
  | resolved (hserial : serialOf context ≠ "") (devices : List BlockDevice) {d : BlockDevice}
      (hd : BlockDevice.choose (serialOf context) devices = .ok d)
      {rest : List (Exchange interface)} {y : Except DriverError β}
      (hrest : Conversation (f d).run rest y) :
      Finds context f (⟨.listDevices, .ok devices⟩ :: rest) y

theorem finds_of_conversation {context : Table String} {f : BlockDevice → Attempt interface β}
    {t : List (Exchange interface)} {y : Except DriverError β}
    (h : Conversation (device context >>= f).run t y) : Finds context f t y := by
  unfold device Host.resolveDevice at h
  split at h
  · next hempty =>
    obtain ⟨rfl, rfl⟩ := conversation_done_iff.1 h
    exact .nameless (String.isEmpty_iff.1 hempty) _
  · next hempty =>
    have hserial : serialOf context ≠ "" := fun heq => hempty (String.isEmpty_iff.2 heq)
    rw [bind_assoc] at h
    obtain ⟨x, rest, rfl, hx⟩ := conversation_ask_iff.1 h
    cases x with
    | error e =>
      obtain ⟨rfl, rfl⟩ := conversation_done_iff.1 hx
      exact .unlisted hserial e
    | ok devices =>
      rcases conversation_ofExceptThen_iff.1 hx with ⟨e, he, rfl, rfl⟩ | ⟨d, hd, hrest⟩
      · exact .unresolved hserial devices he
      · exact .resolved hserial devices hd hrest

/-! ### Staging -/

/-- Checks of this form pass if there are an id, a path and a use, and what follows passes. -/
theorem checks_eq_ok_iff {γ : Type} {id path what what' what'' : String} {found : Option AccessType}
    {next : AccessType → Except DriverError γ} {c : γ} :
    (do
      if id.isEmpty then throw (.invalidArgument what)
      if path.isEmpty then throw (.invalidArgument what')
      match found with
      | none => throw (.invalidArgument what'')
      | some use => next use : Except DriverError γ) = .ok c ↔
      id ≠ "" ∧ path ≠ "" ∧ ∃ use, found = some use ∧ next use = .ok c := by
  rw [guard_eq_ok_iff, guard_eq_ok_iff, String.isEmpty_iff, String.isEmpty_iff]
  refine and_congr_right fun _ => and_congr_right fun _ => ?_
  cases found with
  | none => exact iff_of_false nofun nofun
  | some use => simp

/-- The checks of a request to prepare a volume; they give the filesystem that its use needs. -/
def StageVolume.check (r : StageVolume) : Except DriverError (Option String) := do
  if r.volumeId.isEmpty then throw (.invalidArgument "volume id is required")
  if r.stagingPath.isEmpty then throw (.invalidArgument "staging target path is required")
  match r.capability.bind (·.access) with
  | none => throw (.invalidArgument Capability.accessProblem)
  | some use => wantedFilesystem use

/-- The checks pass if both names are there, and the use is known and its filesystem supported. -/
theorem StageVolume.check_eq_ok_iff {r : StageVolume} {wanted : Option String} :
    r.check = .ok wanted ↔ r.volumeId ≠ "" ∧ r.stagingPath ≠ "" ∧
      ∃ use, r.capability.bind (·.access) = some use ∧ wantedFilesystem use = .ok wanted :=
  checks_eq_ok_iff

/-- Gives a device a filesystem, unless none is needed or it has one. -/
def format (wanted : Option String) (d : BlockDevice) : Attempt interface (List Event) :=
  match wanted with
  | none => return []
  | some fsType => do
    if d.hasFilesystem then return []
    else
      Host.makeFilesystem d.path fsType
      return [.formatted fsType]

/-- To prepare a volume is to check the arguments, to find the device and to give it a
filesystem. -/
theorem stage_eq (r : StageVolume) :
    stage r = (do
      let wanted ← Attempt.ofExcept r.check
      let d ← device r.context
      format wanted d) := by
  unfold stage StageVolume.check require access
  cases hid : r.volumeId.isEmpty with
  | true => rfl
  | false =>
    cases hpath : r.stagingPath.isEmpty with
    | true => rfl
    | false =>
      cases huse : r.capability.bind (·.access) with
      | none => rfl
      | some use =>
        have hformat : ∀ wanted, (device r.context >>= fun d => match wanted with
              | none => return []
              | some fsType => do
                if d.hasFilesystem then return []
                else
                  Host.makeFilesystem d.path fsType
                  return [.formatted fsType]) = device r.context >>= format wanted :=
          fun wanted => congrArg (device r.context >>= ·)
            (funext fun d => by cases wanted <;> rfl)
        exact congrArg (Attempt.ofExcept (wantedFilesystem use) >>= ·) (funext hformat)

/-- **Staging is refused on the spot, or finds the device of its context** and gives that a
filesystem. -/
theorem conversation_stage {r : StageVolume} {t : List (Exchange interface)}
    {y : Except DriverError (List Event)} (h : Conversation (stage r).run t y) :
    (∃ e, r.check = .error e ∧ t = [] ∧ y = .error e) ∨
      ∃ wanted, r.check = .ok wanted ∧ Finds r.context (format wanted) t y := by
  rw [stage_eq] at h
  rcases conversation_ofExceptThen_iff.1 h with hrefused | ⟨wanted, hcheck, hfind⟩
  · exact .inl hrefused
  · exact .inr ⟨wanted, hcheck, finds_of_conversation hfind⟩

/-! ### Publishing -/

/-- The checks of a request to make a volume visible; they give its use. -/
def PublishVolume.check (r : PublishVolume) : Except DriverError AccessType := do
  if r.volumeId.isEmpty then throw (.invalidArgument "volume id is required")
  if r.targetPath.isEmpty then throw (.invalidArgument "target path is required")
  match r.capability.bind (·.access) with
  | none => throw (.invalidArgument Capability.accessProblem)
  | some use => return use

/-- The checks pass if both names are there, and the use is known. -/
theorem PublishVolume.check_eq_ok_iff {r : PublishVolume} {use : AccessType} :
    r.check = .ok use ↔ r.volumeId ≠ "" ∧ r.targetPath ≠ "" ∧
      r.capability.bind (·.access) = some use := by
  refine checks_eq_ok_iff.trans ?_
  simp [pure, Except.pure]

/-- The filesystem that a device is mounted with: the one that is found on it, or else the one that
is asked for. -/
def mountedType (d : BlockDevice) (requested : String) : Except DriverError String :=
  d.filesystem?.elim (filesystemFor requested) .ok

/-- To make what a filesystem is mounted on is to make the directory, and then to work out what is
mounted there. -/
theorem prepareTarget_mount_eq (d : BlockDevice) (target requested : String) (flags : List String)
    (group : String) :
    prepareTarget d target (.mount requested flags group) =
      Host.file ("create " ++ target) (.createDirs target) >>= fun _ =>
        Attempt.ofExcept ((mountedType d requested).map (·, flags)) := by
  unfold prepareTarget mountedType
  cases d.filesystem? with
  | some found => rfl
  | none =>
    refine congrArg (Host.file ("create " ++ target) (.createDirs target) >>= ·) (funext ?_)
    cases filesystemFor requested <;> exact fun _ => rfl

/-- Mounts a device on the target of a request, unless something is mounted there. -/
def mountDevice (r : PublishVolume) (use : AccessType) (d : BlockDevice) :
    Attempt interface Unit := do
  if ← Host.isMountPoint r.targetPath then pure ()
  else do
    let (fsType, options) ← prepareTarget d r.targetPath use
    Host.mount d.path r.targetPath fsType (if r.readonly then options ++ ["ro"] else options)

/-- The options of a mount, with one more at the end where it is only for reading. -/
def PublishVolume.options (r : PublishVolume) (options : List String) : List String :=
  if r.readonly then options ++ ["ro"] else options

/-- Mounts a device on the target of a request, which was prepared for it. -/
def mountPrepared (r : PublishVolume) (d : BlockDevice) (prepared : String × List String) :
    Attempt interface Unit :=
  Host.mount d.path r.targetPath prepared.1 (r.options prepared.2)

/-- To make a volume visible is to check the arguments, to find the device and to mount it. -/
theorem publish_eq (r : PublishVolume) :
    publish r = (do
      let use ← Attempt.ofExcept r.check
      let d ← device r.context
      mountDevice r use d) := by
  unfold publish PublishVolume.check require access
  cases hid : r.volumeId.isEmpty with
  | true => rfl
  | false =>
    cases hpath : r.targetPath.isEmpty with
    | true => rfl
    | false =>
      cases huse : r.capability.bind (·.access) with
      | none => rfl
      | some use => rfl

/-- **Publishing is refused on the spot, or finds the device of its context** and mounts that. -/
theorem conversation_publish {r : PublishVolume} {t : List (Exchange interface)}
    {y : Except DriverError Unit} (h : Conversation (publish r).run t y) :
    (∃ e, r.check = .error e ∧ t = [] ∧ y = .error e) ∨
      ∃ use, r.check = .ok use ∧ Finds r.context (mountDevice r use) t y := by
  rw [publish_eq] at h
  rcases conversation_ofExceptThen_iff.1 h with hrefused | ⟨use, hcheck, hfind⟩
  · exact .inl hrefused
  · exact .inr ⟨use, hcheck, finds_of_conversation hfind⟩

/-! ### The device that is found -/

/-- `Resolves context devices d` says that requests with the context are about the device `d` where
`devices` are listed: unless they are refused on the spot, they list the devices and go on with
`d`. -/
structure Resolves (context : Table String) (devices : List BlockDevice) (d : BlockDevice) :
    Prop where
  stage : ∀ {r : StageVolume} {t : List (Exchange interface)}
    {y : Except DriverError (List Event)}, r.context = context → Conversation (stage r).run t y →
    (∀ x, ⟨.listDevices, x⟩ ∈ t → x = .ok devices) →
    (∃ e, r.check = .error e ∧ t = [] ∧ y = .error e) ∨
      ∃ wanted rest, r.check = .ok wanted ∧ t = ⟨.listDevices, .ok devices⟩ :: rest ∧
        Conversation (format wanted d).run rest y
  publish : ∀ {r : PublishVolume} {t : List (Exchange interface)} {y : Except DriverError Unit},
    r.context = context → Conversation (publish r).run t y →
    (∀ x, ⟨.listDevices, x⟩ ∈ t → x = .ok devices) →
    (∃ e, r.check = .error e ∧ t = [] ∧ y = .error e) ∨
      ∃ use rest, r.check = .ok use ∧ t = ⟨.listDevices, .ok devices⟩ :: rest ∧
        Conversation (mountDevice r use d).run rest y

/-- Where one device has the serial of the context, it is that device which is found. -/
theorem Finds.resolved_of_choose {context : Table String} {f : BlockDevice → Attempt interface β}
    {t : List (Exchange interface)} {y : Except DriverError β} {devices : List BlockDevice}
    {d : BlockDevice} (h : Finds context f t y) (hserial : serialOf context ≠ "")
    (hchoose : BlockDevice.choose (serialOf context) devices = .ok d)
    (hlisted : ∀ x, ⟨.listDevices, x⟩ ∈ t → x = .ok devices) :
    ∃ rest, t = ⟨.listDevices, .ok devices⟩ :: rest ∧ Conversation (f d).run rest y := by
  cases h with
  | nameless hnone => exact absurd hnone hserial
  | unlisted _ e => exact absurd (hlisted _ List.mem_cons_self) nofun
  | unresolved _ devices' hd =>
    -- The devices that were listed are the ones in which the device is found.
    obtain rfl := Except.ok.inj (hlisted _ List.mem_cons_self)
    rw [hchoose] at hd
    cases hd
  | resolved _ devices' hd hrest =>
    obtain rfl := Except.ok.inj (hlisted _ List.mem_cons_self)
    rw [hchoose] at hd
    cases hd
    exact ⟨_, rfl, hrest⟩

/-- **A context is about the device that alone has its serial.** -/
theorem resolves_of_choose {context : Table String} {devices : List BlockDevice} {d : BlockDevice}
    (hserial : serialOf context ≠ "")
    (hchoose : BlockDevice.choose (serialOf context) devices = .ok d) :
    Resolves context devices d where
  stage := by
    rintro r t y rfl h hlisted
    rcases conversation_stage h with hrefused | ⟨wanted, hcheck, hfind⟩
    · exact .inl hrefused
    · obtain ⟨rest, ht, hrest⟩ := hfind.resolved_of_choose hserial hchoose hlisted
      exact .inr ⟨wanted, rest, hcheck, ht, hrest⟩
  publish := by
    rintro r t y rfl h hlisted
    rcases conversation_publish h with hrefused | ⟨use, hcheck, hfind⟩
    · exact .inl hrefused
    · obtain ⟨rest, ht, hrest⟩ := hfind.resolved_of_choose hserial hchoose hlisted
      exact .inr ⟨use, rest, hcheck, ht, hrest⟩

/-! ### What the requests may ask -/

section Asks

variable {M : Host.Request → Prop}

theorem asksOnly_file (operation : String) {q : Files.Request} (hq : M (.file q)) :
    AsksOnly M (Host.file operation q).run := by
  refine .ask hq fun x => ?_
  cases x with
  | error e => exact .done _
  | ok a => exact .done _

theorem asksOnly_require (value what : String) : AsksOnly M (require value what).run := by
  unfold require
  split
  · exact .fail _
  · exact .pure _

theorem asksOnly_device (hlist : M .listDevices) (context : Table String) :
    AsksOnly M (device context).run := by
  unfold device Host.resolveDevice
  split
  · exact .fail _
  · exact .andThen (.ask hlist .done) fun _ => .ofExcept _

variable (hfile : ∀ q, M (.file q))

include hfile in
theorem asksOnly_removeTarget (target : String) : AsksOnly M (removeTarget target).run := by
  refine .andThen (asksOnly_file _ (hfile _)) fun kind => ?_
  cases kind <;> exact asksOnly_file _ (hfile _)

variable (hexists : ∀ path, M (.pathExists path))

include hfile hexists

theorem asksOnly_prepareFile (target : String) : AsksOnly M (prepareFile target).run := by
  have hcreate : AsksOnly M (do
      if ← Host.pathExists target then pure ()
      else Host.file ("create " ++ target) (.createFile target) :
        Attempt interface Unit).run := by
    refine .andThen (.ask (hexists target) .done) fun found => ?_
    split
    · exact .pure _
    · exact asksOnly_file _ (hfile _)
  unfold prepareFile
  cases Path.parent? target with
  | none => exact hcreate
  | some parent => exact .andThen (asksOnly_file _ (hfile _)) fun _ => hcreate

theorem asksOnly_prepareTarget (d : BlockDevice) (target : String) (use : AccessType) :
    AsksOnly M (prepareTarget d target use).run := by
  cases use with
  | block => exact .andThen (asksOnly_prepareFile hfile hexists target) fun _ => .pure _
  | mount fsType flags group =>
    refine .andThen (asksOnly_file _ (hfile _)) fun _ => ?_
    cases d.filesystem? with
    | some found => exact .pure _
    | none => exact .andThen (.ofExcept _) fun _ => .pure _

/-- A device is mounted by looking at the target, making what is missing of it, and asking for a
mount of that device. -/
theorem asksOnly_mountDevice (hmounted : ∀ target, M (.isMountPoint target)) {d : BlockDevice}
    (hmount : ∀ target fsType options, M (.mount d.path target fsType options))
    (r : PublishVolume) (use : AccessType) : AsksOnly M (mountDevice r use d).run := by
  refine .andThen (.ask (hmounted _) .done) fun found => ?_
  split
  · exact .pure _
  · refine .andThen (asksOnly_prepareTarget hfile hexists d _ use) fun prepared => ?_
    exact .ask (hmount _ _ _) .done

theorem asksOnly_unpublish (hmounted : ∀ target, M (.isMountPoint target))
    (hunmount : ∀ target, M (.unmount target)) (volumeId target : String) :
    AsksOnly M (unpublish volumeId target).run := by
  have hremove : AsksOnly M (do
      if ← Host.pathExists target then removeTarget target else pure () :
        Attempt interface Unit).run := by
    refine .andThen (.ask (hexists target) .done) fun found => ?_
    split
    · exact asksOnly_removeTarget hfile target
    · exact .pure _
  refine .andThen (asksOnly_require _ _) fun _ => .andThen (asksOnly_require _ _) fun _ => ?_
  refine .andThen (.ask (hmounted target) .done) fun found => ?_
  split
  · exact .andThen (.ask (hunmount target) .done) fun _ => hremove
  · exact hremove

theorem asksOnly_stats (volumeId path : String) : AsksOnly M (stats volumeId path).run := by
  refine .andThen (asksOnly_require _ _) fun _ => .andThen (asksOnly_require _ _) fun _ => ?_
  refine .andThen (.ask (hexists path) .done) fun found => ?_
  split
  · refine .andThen (asksOnly_file _ (hfile _)) fun kind => ?_
    have hcounts : AsksOnly M (do
        return usageOf (← Host.file ("statvfs " ++ path) (.statvfs path)) :
          Attempt interface (List Usage)).run :=
      .andThen (asksOnly_file _ (hfile _)) fun _ => .pure _
    cases kind with
    | directory => exact hcounts
    | blockDevice =>
      exact .andThen (asksOnly_file _ (hfile _)) fun _ =>
        .andThen (asksOnly_file _ (hfile _)) fun _ => .pure _
    | other => exact hcounts
  · exact .fail _

end Asks

end Node

end Hotplug
