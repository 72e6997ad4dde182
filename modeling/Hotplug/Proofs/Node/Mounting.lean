import Hotplug.Proofs.Node.Format
import Hotplug.Proofs.Node.Publishing

/-!
# Mounted as it was staged

Staging and publishing each work out the filesystem of a volume anew, from the type that is asked
for, the default, and what the device shows at that moment. They come to the same: a device that
staging formatted is mounted with the filesystem it was given, whether the listing shows that by now
or not, and a device that was found with one is mounted with that.

## Main definitions

* `mountedWith d use` — the filesystem and the options that a device is mounted with for a use.
* `Gives p R` — an attempt none of whose requests fails succeeds, with a value of `R`.
* `Mounting r use d t y` — the conversation `t` mounts the device on the target of a request.
* `Turn.Undisturbed`, `Turn.MountsOnce` — a turn in which nothing but a mount may fail, and one that
  asks for one mount, last.

## Main results

* `gives_prepareTarget` — only a request that fails keeps a target from being made.
* `countP_isMount_publish` — publishing asks for one mount at most.
* `Mounting.mounts`, `Turn.mountsOnce` — where nothing else fails it asks for one.
* `mounts_as_staged` — **staging and publishing agree on the filesystem and the device.**
-/

namespace Hotplug

namespace Host

/-- Whether a request is one to mount something. -/
def Request.isMount : Request → Bool
  | .mount _ _ _ _ => true
  | _ => false

end Host

namespace Node

open Host (interface step State)

variable {α β : Type}

/-! ### Attempts none of whose requests fails -/

/-- `Gives p R` says that `p` succeeds unless one of its requests fails, and that `R` holds of the
value it succeeds with. -/
def Gives (p : Attempt interface α) (R : α → Prop) : Prop :=
  ∀ t y, Conversation p.run t y → (∀ e ∈ t, ¬ Fails e.request e.answer) → ∃ a, y = .ok a ∧ R a

namespace Gives

variable {R : α → Prop}

theorem pure {a : α} (ha : R a) : Gives (pure a : Attempt interface α) R := by
  intro t y h _
  obtain ⟨-, rfl⟩ := conversation_pure_iff.1 h
  exact ⟨a, rfl, ha⟩

theorem ofExcept {x : Except DriverError α} {a : α} (hx : x = .ok a) (ha : R a) :
    Gives (Attempt.ofExcept x : Attempt interface α) R := by
  intro t y h _
  obtain ⟨-, rfl⟩ := conversation_ofExcept_iff.1 h
  exact ⟨a, hx, ha⟩

theorem bind {R' : β → Prop} {p : Attempt interface α} {f : α → Attempt interface β}
    (hp : Gives p R) (hf : ∀ a, R a → Gives (f a) R') : Gives (p >>= f) R' := by
  intro t y h hnone
  rcases conversation_andThen_iff.1 h with ⟨e, -, hfailed⟩ | ⟨t₁, t₂, a, rfl, hfirst, hrest⟩
  · obtain ⟨a, ha, -⟩ := hp t _ hfailed hnone
    cases ha
  · rw [List.forall_mem_append] at hnone
    obtain ⟨b, hb, hR⟩ := hp t₁ _ hfirst hnone.1
    cases hb
    exact hf a hR t₂ y hrest hnone.2

/-- A request that is asked for its own sake. -/
theorem request {r : Host.Request} {next : interface.Answer r → Program interface (Except _ α)}
    (hnext : ∀ x, ¬ Fails r x → ∃ a, next x = .done (.ok a) ∧ R a) :
    Gives (ExceptT.mk (.ask r next)) R := by
  intro t y h hnone
  obtain ⟨x, rest, rfl, hrest⟩ := conversation_ask_iff.1 h
  obtain ⟨a, ha, hR⟩ := hnext x (hnone _ List.mem_cons_self)
  rw [ha] at hrest
  obtain ⟨-, rfl⟩ := conversation_done_iff.1 hrest
  exact ⟨a, rfl, hR⟩

theorem pathExists (path : String) : Gives (Host.pathExists path) fun _ => True := by
  apply request
  intro x hx
  cases x with
  | error e => exact absurd ⟨e, rfl⟩ hx
  | ok found => exact ⟨found, rfl, trivial⟩

theorem file (operation : String) (q : Files.Request) :
    Gives (Host.file operation q) fun _ => True := by
  apply request
  intro x hx
  cases x with
  | error e => exact absurd ⟨e, rfl⟩ hx
  | ok a => exact ⟨a, rfl, trivial⟩

end Gives

/-! ### Making the target -/

/-- The filesystem and the options that a device is mounted with for a use. -/
def mountedWith (d : BlockDevice) : AccessType → Except DriverError (String × List String)
  | .block => .ok ("", ["bind"])
  | .mount requested flags _ => (mountedType d requested).map (·, flags)

theorem gives_prepareFile (target : String) : Gives (prepareFile target) fun _ => True := by
  have hensure : Gives (ensureFile target) fun _ => True := by
    apply Gives.bind (Gives.pathExists target)
    intro found _
    split
    · exact .pure trivial
    · exact .file _ _
  rw [prepareFile_eq]
  cases Path.parent? target with
  | none => exact hensure
  | some parent => exact .bind (.file _ _) fun _ _ => hensure

/-- **Only a request that fails keeps a target from being made**, where the device can be mounted at
all. -/
theorem gives_prepareTarget {d : BlockDevice} {use : AccessType} {how : String × List String}
    (hhow : mountedWith d use = .ok how) (target : String) :
    Gives (prepareTarget d target use) fun prepared => prepared = how := by
  cases use with
  | block =>
    apply Gives.bind (gives_prepareFile target)
    intro _ _
    exact .pure (Except.ok.inj hhow)
  | mount requested flags group =>
    rw [prepareTarget_mount_eq]
    apply Gives.bind (Gives.file _ _)
    intro _ _
    exact .ofExcept hhow rfl

theorem asksOnly_prepareTarget_isMount (d : BlockDevice) (target : String) (use : AccessType) :
    AsksOnly (fun q : Host.Request => q.isMount = false) (prepareTarget d target use).run := by
  apply asksOnly_prepareTarget
  · intro q
    rfl
  · intro path
    rfl

/-! ### Mounting the device -/

/-- `Mounting r use d t y` says that the conversation `t`, which ends in `y`, mounts the device `d`
on the target of `r`, unless something is mounted there. -/
inductive Mounting (r : PublishVolume) (use : AccessType) (d : BlockDevice) :
    List (Exchange interface) → Except DriverError Unit → Prop where
  /-- It can not be told whether something is mounted there. -/
  | untold (e : DriverError) :
      Mounting r use d [⟨.isMountPoint r.targetPath, .error e⟩] (.error e)
  /-- Something is. -/
  | already : Mounting r use d [⟨.isMountPoint r.targetPath, .ok true⟩] (.ok ())
  /-- The target can not be made. -/
  | unprepared {t : List (Exchange interface)} {e : DriverError}
      (h : Conversation (prepareTarget d r.targetPath use).run t (.error e)) :
      Mounting r use d (⟨.isMountPoint r.targetPath, .ok false⟩ :: t) (.error e)
  /-- The target is made, and a mount is asked for. -/
  | mounted {t : List (Exchange interface)} {fsType : String} {options : List String}
      (h : Conversation (prepareTarget d r.targetPath use).run t (.ok (fsType, options)))
      (x : Except DriverError Unit) :
      Mounting r use d (⟨.isMountPoint r.targetPath, .ok false⟩ ::
        (t ++ [⟨.mount d.path r.targetPath fsType (r.options options), x⟩])) x

theorem mounting_of_conversation {r : PublishVolume} {use : AccessType} {d : BlockDevice}
    {t : List (Exchange interface)} {y : Except DriverError Unit}
    (h : Conversation (mountDevice r use d).run t y) :
    Mounting r use d t y := by
  obtain ⟨x, rest, rfl, hrest⟩ := conversation_ask_iff.1 h
  match x with
  | .error e =>
    obtain ⟨rfl, rfl⟩ := conversation_done_iff.1 hrest
    exact .untold e
  | .ok true =>
    obtain ⟨rfl, rfl⟩ := conversation_done_iff.1 hrest
    exact .already
  | .ok false =>
    have hmount : Conversation (prepareTarget d r.targetPath use >>= mountPrepared r d).run rest y :=
      hrest
    rcases conversation_andThen_iff.1 hmount with ⟨e, rfl, hfailed⟩ |
      ⟨t₁, t₂, ⟨fsType, options⟩, rfl, hprepared, hlast⟩
    · exact .unprepared hfailed
    · obtain ⟨z, last, rfl, hdone⟩ := conversation_ask_iff.1 hlast
      obtain ⟨rfl, rfl⟩ := conversation_done_iff.1 hdone
      exact .mounted hprepared _

theorem isMount_eq_false_of_prepareTarget {d : BlockDevice} {target : String} {use : AccessType}
    {t : List (Exchange interface)} {y : Except DriverError (String × List String)}
    (h : Conversation (prepareTarget d target use).run t y) :
    ∀ e ∈ t, e.request.isMount = false := by
  intro e he
  exact (asksOnly_prepareTarget_isMount d target use).of_mem h he

theorem countP_isMount_eq_zero {t : List (Exchange interface)}
    (h : ∀ e ∈ t, e.request.isMount = false) : t.countP (·.request.isMount) = 0 := by
  rw [List.countP_eq_zero]
  intro e he
  rw [h e he]
  exact Bool.false_ne_true

theorem Mounting.countP_isMount {r : PublishVolume} {use : AccessType} {d : BlockDevice}
    {t : List (Exchange interface)} {y : Except DriverError Unit} (h : Mounting r use d t y) :
    t.countP (·.request.isMount) ≤ 1 := by
  cases h with
  | untold e => exact Nat.zero_le 1
  | already => exact Nat.zero_le 1
  | unprepared hprepare =>
    have hzero := countP_isMount_eq_zero (isMount_eq_false_of_prepareTarget hprepare)
    simp only [List.countP_cons, hzero]
    exact Nat.zero_le 1
  | mounted hprepare x =>
    have hzero := countP_isMount_eq_zero (isMount_eq_false_of_prepareTarget hprepare)
    simp only [List.countP_cons, List.countP_append, List.countP_nil, hzero]
    exact Nat.le_refl 1

/-- **Publishing asks for one mount at most.** -/
theorem countP_isMount_publish {r : PublishVolume} {t : List (Exchange interface)}
    {y : Except DriverError Unit} (h : Conversation (publish r).run t y) :
    t.countP (·.request.isMount) ≤ 1 := by
  rcases conversation_publish h with ⟨-, -, rfl, -⟩ | ⟨use, -, hfind⟩
  · exact Nat.zero_le 1
  cases hfind with
  | nameless => exact Nat.zero_le 1
  | unlisted => exact Nat.zero_le 1
  | unresolved => exact Nat.zero_le 1
  | resolved hserial devices hd hrest => exact (mounting_of_conversation hrest).countP_isMount

/-- **Where nothing but a mount fails, one is asked for**, last: of the device on the target, with
what it is mounted with for the use. -/
theorem Mounting.mounts {r : PublishVolume} {use : AccessType} {d : BlockDevice}
    {t : List (Exchange interface)} {y : Except DriverError Unit} {fsType : String}
    {options : List String} (h : Mounting r use d t y)
    (hhow : mountedWith d use = .ok (fsType, options))
    (hunmounted : ∀ x, ⟨.isMountPoint r.targetPath, x⟩ ∈ t → x = .ok false)
    (hmade : ∀ e ∈ t, e.request.isMount = false → ¬ Fails e.request e.answer) :
    ∃ before, t = before ++ [⟨.mount d.path r.targetPath fsType (r.options options), y⟩] ∧
      ∀ e ∈ before, e.request.isMount = false := by
  cases h with
  | untold e => exact absurd (hunmounted _ List.mem_cons_self) nofun
  | already => exact absurd (hunmounted _ List.mem_cons_self) nofun
  | unprepared hprepare =>
    -- The target was to be made by requests that did not fail.
    have hquiet := isMount_eq_false_of_prepareTarget hprepare
    have hnone := fun e he => hmade e (List.mem_cons_of_mem _ he) (hquiet e he)
    obtain ⟨how, heq, -⟩ := gives_prepareTarget hhow _ _ _ hprepare hnone
    cases heq
  | @mounted made fsType' options' hprepare =>
    have hquiet := isMount_eq_false_of_prepareTarget hprepare
    have hnone : ∀ e ∈ made, ¬ Fails e.request e.answer := by
      intro e he
      apply hmade e _ (hquiet e he)
      simp [he]
    obtain ⟨how, heq, rfl⟩ := gives_prepareTarget hhow _ _ _ hprepare hnone
    cases heq
    refine ⟨⟨.isMountPoint r.targetPath, .ok false⟩ :: made, rfl, ?_⟩
    rw [List.forall_mem_cons]
    exact ⟨rfl, hquiet⟩

/-! ### Turns -/

/-- `Turn.Undisturbed u devices target` says that the node of a turn lists `devices`, has nothing
mounted on `target`, and fails at no request but perhaps a mount. -/
structure Turn.Undisturbed (u : Turn) (devices : List BlockDevice) (target : String) : Prop where
  listed : ∀ x, ⟨.listDevices, x⟩ ∈ u.exchanges → x = .ok devices
  unmounted : ∀ x, ⟨.isMountPoint target, x⟩ ∈ u.exchanges → x = .ok false
  made : ∀ e ∈ u.exchanges, e.request.isMount = false → ¬ Fails e.request e.answer

/-- `Turn.MountsOnce u source target fsType options` says that a turn asks for one mount, and for
this one: last, and the turn is answered with what comes of it. -/
def Turn.MountsOnce (u : Turn) (source target fsType : String) (options : List String) : Prop :=
  ∃ before x, u.exchanges = before ++ [⟨.mount source target fsType options, x⟩] ∧
    (∀ e ∈ before, e.request.isMount = false) ∧
    u.answer = (x.mapError DriverError.status).map fun _ => { response := .done }

section Turns

variable {nodeId : String} {u : Turn}

/-- A turn of publishing is a conversation of that. -/
theorem Turn.conversation_publish {r : PublishVolume} (h : u.Happens nodeId)
    (hr : u.request = .publishVolume r) :
    ∃ y, Conversation (publish r).run u.exchanges y ∧
      u.answer = (y.mapError DriverError.status).map fun _ => { response := .done } := by
  obtain ⟨request, exchanges, answer⟩ := u
  obtain rfl : request = .publishVolume r := hr
  obtain ⟨z, hz, hanswer⟩ := conversation_andReturn_iff.1 h
  obtain ⟨y, hy, rfl⟩ := conversation_of_iff.1 hz
  exact ⟨y, hy, hanswer⟩

/-- A turn of staging is a conversation of that. -/
theorem Turn.conversation_stage {r : StageVolume} (h : u.Happens nodeId)
    (hr : u.request = .stageVolume r) : ∃ y, Conversation (stage r).run u.exchanges y := by
  obtain ⟨request, exchanges, answer⟩ := u
  obtain rfl : request = .stageVolume r := hr
  obtain ⟨z, hz, -⟩ := conversation_andReturn_iff.1 h
  obtain ⟨y, hy, -⟩ := conversation_of_iff.1 hz
  exact ⟨y, hy⟩

/-- A turn of publishing in which nothing but a mount may fail asks for one, of the device that is
found. -/
theorem Turn.mountsOnce {r : PublishVolume} {use : AccessType} {devices : List BlockDevice}
    {d : BlockDevice} {fsType : String} {options : List String} (h : u.Happens nodeId)
    (hr : u.request = .publishVolume r) (hcheck : r.check = .ok use)
    (hserial : serialOf r.context ≠ "")
    (hd : BlockDevice.choose (serialOf r.context) devices = .ok d)
    (hhow : mountedWith d use = .ok (fsType, options))
    (hu : u.Undisturbed devices r.targetPath) :
    u.MountsOnce d.path r.targetPath fsType (r.options options) := by
  obtain ⟨y, hy, hanswer⟩ := Turn.conversation_publish h hr
  obtain ⟨hlisted, hunmounted, hmade⟩ := hu
  rcases Node.conversation_publish hy with ⟨e, hrefused, -⟩ | ⟨use', hcheck', hfind⟩
  · rw [hcheck] at hrefused
    cases hrefused
  obtain rfl : use = use' := by
    rw [hcheck] at hcheck'
    exact Except.ok.inj hcheck'
  obtain ⟨rest, ht, hrest⟩ := hfind.resolved_of_choose hserial hd hlisted
  rw [ht] at hunmounted hmade
  obtain ⟨before, rfl, hquiet⟩ := (mounting_of_conversation hrest).mounts hhow
    (fun x hx => hunmounted x (List.mem_cons_of_mem _ hx))
    (fun e he => hmade e (List.mem_cons_of_mem _ he))
  refine ⟨⟨.listDevices, .ok devices⟩ :: before, y, ht, ?_, hanswer⟩
  rw [List.forall_mem_cons]
  exact ⟨rfl, hquiet⟩

/-- Staging leaves a device alone that it finds with a filesystem. -/
theorem Turn.not_isFormat {r : StageVolume} {devices : List BlockDevice} {d : BlockDevice}
    {found : String} (h : u.Happens nodeId) (hr : u.request = .stageVolume r)
    (hlisted : ∀ x, ⟨.listDevices, x⟩ ∈ u.exchanges → x = .ok devices)
    (hd : BlockDevice.choose (serialOf r.context) devices = .ok d)
    (hfound : d.filesystem? = some found) : ∀ e ∈ u.exchanges, e.request.isFormat = false := by
  obtain ⟨y, hy⟩ := Turn.conversation_stage h hr
  intro e he
  rw [← Bool.not_eq_true]
  intro hformat
  obtain ⟨devices', d', fsType, x, ht, hblank⟩ := conversation_stage_format hy he hformat
  -- The device that was formatted is the one that is meant, and was blank.
  rw [ht] at hlisted
  obtain rfl := Except.ok.inj (hlisted _ List.mem_cons_self)
  rw [BlockDevice.choose_eq_ok_iff.2 hblank.unique] at hd
  obtain rfl := Except.ok.inj hd
  have hnone := BlockDevice.hasFilesystem_eq_false_iff.2 hblank.blank
  rw [BlockDevice.hasFilesystem, hfound] at hnone
  cases hnone

/-- What staging formats is the device of its context, with the filesystem that its use asks for. -/
theorem Turn.formatted {r : StageVolume} {path fsType : String} (h : u.Happens nodeId)
    (hr : u.request = .stageVolume r)
    (hformat : ⟨.makeFilesystem path fsType, .ok ()⟩ ∈ u.exchanges) :
    ∃ devices d requested flags group mode, ⟨.listDevices, .ok devices⟩ ∈ u.exchanges ∧
      BlockDevice.choose (serialOf r.context) devices = .ok d ∧ d.path = path ∧
        r.capability = some ⟨some (.mount requested flags group), mode⟩ ∧
          filesystemFor requested = .ok fsType := by
  obtain ⟨y, hy⟩ := Turn.conversation_stage h hr
  obtain ⟨devices, d, fsType', x, ht, hblank⟩ := conversation_stage_format hy hformat rfl
  rw [ht] at hformat ⊢
  have hsame : (⟨.makeFilesystem path fsType, .ok ()⟩ : Exchange interface) =
      ⟨.makeFilesystem d.path fsType', x⟩ := by
    rcases List.mem_cons.1 hformat with h | h
    · exact absurd (congrArg Exchange.request h) nofun
    · exact List.mem_singleton.1 h
  cases hsame
  obtain ⟨requested, flags, group, mode, hcapability, hfs⟩ := hblank.mounted
  exact ⟨devices, d, requested, flags, group, mode, List.mem_cons_self,
    BlockDevice.choose_eq_ok_iff.2 hblank.unique, rfl, hcapability, filesystemFor_eq_ok_iff.2 hfs⟩

end Turns

/-- **Staging and publishing agree on the filesystem and the device**, whatever else happens between
them. Staging leaves a device alone that it finds with a filesystem. Publishing asks for one mount
at most; and for one, where the request has its names, one device has the serial of its context,
nothing is mounted on the target, and nothing but a mount fails. That is of the device on the
target. A block device is bound, without a filesystem. Otherwise a filesystem that is found on the
device wins over the type that is asked for, and if the device of the same context was ever
formatted for the same use, it is mounted with the filesystem it was given, whether or not it is
listed with that. The options are those of the use in order, and then `ro` if it is only for
reading. -/
theorem mounts_as_staged (nodeId : String) :
    (∀ (u : Turn) (r : StageVolume) (devices : List BlockDevice) (d : BlockDevice)
      (found : String), u.Happens nodeId → u.request = .stageVolume r →
      (∀ x, ⟨.listDevices, x⟩ ∈ u.exchanges → x = .ok devices) →
      BlockDevice.choose (serialOf r.context) devices = .ok d → d.filesystem? = some found →
        ∀ e ∈ u.exchanges, e.request.isFormat = false) ∧
    ∀ (u : Turn) (r : PublishVolume), u.Happens nodeId → u.request = .publishVolume r →
      u.exchanges.countP (·.request.isMount) ≤ 1 ∧
      ∀ (devices : List BlockDevice) (d : BlockDevice), r.volumeId ≠ "" → r.targetPath ≠ "" →
        serialOf r.context ≠ "" → BlockDevice.choose (serialOf r.context) devices = .ok d →
        u.Undisturbed devices r.targetPath →
          (∀ mode, r.capability = some ⟨some .block, mode⟩ →
            u.MountsOnce d.path r.targetPath ""
              (if r.readonly then ["bind", "ro"] else ["bind"])) ∧
          ∀ requested flags group mode,
            r.capability = some ⟨some (.mount requested flags group), mode⟩ →
            let options := if r.readonly then flags ++ ["ro"] else flags
            (∀ found, d.filesystem? = some found →
              u.MountsOnce d.path r.targetPath found options) ∧
            ∀ (v : Turn) (q : StageVolume) (path fsType : String), v.Happens nodeId →
              v.request = .stageVolume q → q.capability = r.capability → q.context = r.context →
              ⟨.makeFilesystem path fsType, .ok ()⟩ ∈ v.exchanges →
                (∃ devices' d', ⟨.listDevices, .ok devices'⟩ ∈ v.exchanges ∧
                  BlockDevice.choose (serialOf r.context) devices' = .ok d' ∧ d'.path = path) ∧
                (d.filesystem? = none ∨ d.filesystem? = some fsType →
                  u.MountsOnce d.path r.targetPath fsType options) := by
  refine ⟨fun u r devices d found h hr hlisted hd hfound => Turn.not_isFormat h hr hlisted hd hfound,
    fun u r h hr => ⟨?_, fun devices d hid htarget hserial hd hu => ⟨fun mode hcapability => ?_,
      fun requested flags group mode hcapability => ?_⟩⟩⟩
  · obtain ⟨y, hy, -⟩ := Turn.conversation_publish h hr
    exact countP_isMount_publish hy
  · have hcheck : r.check = .ok .block := by
      rw [PublishVolume.check_eq_ok_iff, hcapability]
      exact ⟨hid, htarget, rfl⟩
    have honce := Turn.mountsOnce h hr hcheck hserial hd rfl hu
    unfold PublishVolume.options at honce
    exact honce
  · have hcheck : r.check = .ok (.mount requested flags group) := by
      rw [PublishVolume.check_eq_ok_iff, hcapability]
      exact ⟨hid, htarget, rfl⟩
    have honce : ∀ fsType, mountedType d requested = .ok fsType →
        u.MountsOnce d.path r.targetPath fsType (r.options flags) := by
      intro fsType htype
      apply Turn.mountsOnce h hr hcheck hserial hd _ hu
      rw [mountedWith, htype]
      rfl
    intro options
    have hfound : ∀ found, d.filesystem? = some found →
        u.MountsOnce d.path r.targetPath found options := by
      intro found hfound
      apply honce
      rw [mountedType, hfound]
      rfl
    refine ⟨hfound, fun v q path fsType hv hq hsame hcontext hformat => ?_⟩
    obtain ⟨devices', d', requested', flags', group', mode', hlisted, hd', hpath, hcapability', hfs⟩ :=
      Turn.formatted hv hq hformat
    rw [hcontext] at hd'
    refine ⟨⟨devices', d', hlisted, hd', hpath⟩, ?_⟩
    rintro (hblank | hshown)
    · -- A device that is not listed with it is mounted with what was asked for both times.
      apply honce
      rw [hsame, hcapability] at hcapability'
      cases hcapability'
      rw [mountedType, hblank]
      exact hfs
    · exact hfound fsType hshown

/-- A request to make the volume that `stageFirst` stages visible, for reading. -/
def publishMounted : PublishVolume :=
  { publishFirst with capability := stageFirst.capability, readonly := true }

/-- The volume is staged, and its device formatted. -/
def formattedFirst : Turn :=
  ⟨.stageVolume stageFirst,
    [⟨.listDevices, .ok (twoDevices none)⟩, ⟨.makeFilesystem "/dev/vdb" "ext4", .ok ()⟩],
    .ok { response := .done, events := [.formatted "ext4"] }⟩

/-- The volume is made visible, where its device is listed with some filesystem. -/
def mountedAfter (found : Option String) : Turn :=
  ⟨.publishVolume publishMounted,
    [⟨.listDevices, .ok (twoDevices found)⟩, ⟨.isMountPoint "/pods/first", .ok false⟩,
      ⟨.file (.createDirs "/pods/first"), .ok ()⟩,
      ⟨.mount "/dev/vdb" "/pods/first" "ext4" ["ro"], .ok ()⟩],
    .ok { response := .done }⟩

/-- The device is mounted with the filesystem it was given where it is still listed without one, and
also where it is listed with that. -/
theorem mounts_as_staged_readonly :
    formattedFirst.Happens "node" ∧
      ∀ found ∈ [none, some "ext4"], (mountedAfter found).Happens "node" ∧
        (mountedAfter found).Undisturbed (twoDevices found) "/pods/first" ∧
        (mountedAfter found).exchanges.countP (·.request.isMount) ≤ 1 ∧
        (mountedAfter found).MountsOnce "/dev/vdb" "/pods/first" "ext4" ["ro"] := by
  have hstaged : formattedFirst.Happens "node" := .ask _ (.ask _ (.done _))
  have hundisturbed : ∀ found,
      (mountedAfter found).Undisturbed (twoDevices found) "/pods/first" := by
    intro found
    constructor
    · simp [mountedAfter]
    · simp [mountedAfter]
    · simp [mountedAfter, Fails, Host.Request.isMount]
  refine ⟨hstaged, fun found hlisted => ?_⟩
  have happens : (mountedAfter found).Happens "node" := by
    rcases List.mem_pair.1 hlisted with rfl | rfl
    · exact .ask _ (.ask _ (.ask _ (.ask _ (.done _))))
    · exact .ask _ (.ask _ (.ask _ (.ask _ (.done _))))
  have hserial : serialOf publishMounted.context = "s1" := by decide +kernel
  have hd : BlockDevice.choose (serialOf publishMounted.context) (twoDevices found) =
      .ok ⟨"s1", "/dev/vdb", found⟩ := by
    rw [hserial]
    rfl
  obtain ⟨-, hpublish⟩ := mounts_as_staged "node"
  obtain ⟨hcount, honce⟩ := hpublish (mountedAfter found) publishMounted happens rfl
  obtain ⟨-, hmount⟩ := honce (twoDevices found) _ (by decide) (by decide)
    (by rw [hserial]; decide) hd (hundisturbed found)
  obtain ⟨-, hformatted⟩ := hmount "" [] "" (some 1) rfl
  obtain ⟨-, hsame⟩ := hformatted formattedFirst stageFirst "/dev/vdb" "ext4" hstaged rfl rfl rfl
    (by simp [formattedFirst])
  refine ⟨happens, hundisturbed found, hcount, hsame ?_⟩
  rcases List.mem_pair.1 hlisted with rfl | rfl
  · exact .inl rfl
  · exact .inr rfl

/-- A node with the device of that volume, and with a file where the directory above the target
should be. -/
def blockedTarget : State where
  devices := [⟨"s1", "/dev/vdb", none⟩]
  files := ⟨[(["pods"], .file 0)]⟩

/-- Where the target can not be made, nothing is mounted, though the device was formatted for it. -/
theorem blocked_target_not_mounted :
    let staged := (runOn step (respond "node" (.stageVolume stageFirst)) blockedTarget).2
    let publishing := respond "node" (.publishVolume publishMounted)
    staged.formatted = [("/dev/vdb", "ext4")] ∧
      publishMounted.capability = stageFirst.capability ∧
      publishMounted.context = stageFirst.context ∧
      staged.mounts.get? publishMounted.targetPath = none ∧
      (askedOn step publishing staged).countP (·.isMount) = 0 ∧
      (runOn step publishing staged).1.isOk = false := by
  decide +kernel

end Node

end Hotplug
