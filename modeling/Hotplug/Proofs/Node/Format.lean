import Hotplug.Proofs.Node.Conversation

/-!
# Devices are given a filesystem once

To give a device a filesystem destroys what is on it. The node does this in one place, for one
device, and only when that device was just listed without a filesystem. So whatever is asked of the
node, and however often, nothing that was ever written to a volume is formatted away.

## Main definitions

* `Blank r devices d fsType` — staging may give the device `d` the filesystem `fsType`.
* `Turn`, `Turn.Happens` — a request to the node with all that was said on the way to its answer.
* `Turn.Asks`, `Turn.Formats` — a turn that asks for a filesystem on a device, or makes it.
* `Reports device carried turns` — devices with a filesystem are always listed with one.

## Main results

* `conversation_stage_format` — staging asks for a filesystem once and last.
* `asksOnly_respond` — nothing else asks for one.
* `formats_blank_device_once` — **no data is ever formatted away.**
-/

namespace Hotplug

namespace Host

/-- Whether a request is one to give a device a filesystem. -/
def Request.isFormat : Request → Bool
  | .makeFilesystem _ _ => true
  | _ => false

end Host

/-- A device has no filesystem if none was found on it, or one without a name. -/
theorem BlockDevice.hasFilesystem_eq_false_iff {d : BlockDevice} :
    d.hasFilesystem = false ↔ d.fsType = none ∨ d.fsType = some "" := by
  unfold BlockDevice.hasFilesystem BlockDevice.filesystem?
  cases d.fsType with
  | none => simp
  | some fsType => simp [Option.filter]

theorem mem_supportedFilesystems {fsType : String} :
    fsType ∈ supportedFilesystems ↔ fsType = "ext4" ∨ fsType = "xfs" := by
  simp [supportedFilesystems]

/-- The filesystem of a request is the default where it names none, and otherwise the one it names,
which must be supported. -/
theorem filesystemFor_eq_ok_iff {requested fsType : String} :
    filesystemFor requested = .ok fsType ↔
      (requested = "" ∧ fsType = "ext4") ∨
        ((requested = "ext4" ∨ requested = "xfs") ∧ fsType = requested) := by
  rw [← mem_supportedFilesystems]
  unfold filesystemFor
  by_cases hempty : requested = ""
  · have hnot : "" ∉ supportedFilesystems := by decide
    subst hempty
    simp only [String.isEmpty_iff, if_true, Except.ok.injEq, true_and, hnot, false_and, or_false]
    exact eq_comm
  · by_cases hnamed : requested ∈ supportedFilesystems
    · simp only [String.isEmpty_iff, hempty, if_false, List.contains_iff_mem, hnamed, if_true,
        Except.ok.injEq, false_and, false_or, true_and]
      exact eq_comm
    · simp [hempty, hnamed]

namespace Node

open Host (interface)

/-! ### Staging -/

/-- `Blank r devices d fsType` says what the node knows when it gives the device `d` the filesystem
`fsType` for the request `r`: where `devices` was listed, `d` is blank and the one that is meant. -/
structure Blank (r : StageVolume) (devices : List BlockDevice) (d : BlockDevice)
    (fsType : String) : Prop where
  /-- The use is a mount, and the filesystem is the one it asks for, or else the default. -/
  mounted : ∃ requested flags group mode,
    r.capability = some ⟨some (.mount requested flags group), mode⟩ ∧
      ((requested = "" ∧ fsType = "ext4") ∨
        ((requested = "ext4" ∨ requested = "xfs") ∧ fsType = requested))
  /-- The context brings a serial. -/
  named : serialOf r.context ≠ ""
  /-- The device is the only one with that serial. -/
  unique : devices.filter (·.serial == serialOf r.context) = [d]
  /-- No filesystem is found on it. -/
  blank : d.fsType = none ∨ d.fsType = some ""

/-- A filesystem is needed for a mount alone, and is the one the mount asks for. -/
theorem StageVolume.check_eq_ok_some {r : StageVolume} {fsType : String}
    (h : r.check = .ok (some fsType)) :
    ∃ requested flags group mode,
      r.capability = some ⟨some (.mount requested flags group), mode⟩ ∧
        filesystemFor requested = .ok fsType := by
  obtain ⟨-, -, use, huse, hwanted⟩ := StageVolume.check_eq_ok_iff.1 h
  obtain ⟨⟨access, mode⟩, hcapability, rfl⟩ := Option.bind_eq_some_iff.1 huse
  cases use with
  | block => cases hwanted
  | mount requested flags group =>
    obtain ⟨found, hfs, hfound⟩ := map_eq_ok_iff.1 hwanted
    obtain rfl := Option.some.inj hfound
    exact ⟨requested, flags, group, mode, hcapability, hfs⟩

/-- A device is left alone, or it is blank and asked to be given the filesystem that is wanted. That
it was given one is an event. -/
theorem conversation_format {wanted : Option String} {d : BlockDevice}
    {t : List (Exchange interface)} {y : Except DriverError (List Event)}
    (h : Conversation (format wanted d).run t y) :
    (t = [] ∧ y = .ok []) ∨ ∃ fsType x, wanted = some fsType ∧ d.hasFilesystem = false ∧
      t = [⟨.makeFilesystem d.path fsType, x⟩] ∧ y = x.map fun _ => [.formatted fsType] := by
  unfold format at h
  cases wanted with
  | none => exact .inl (conversation_pure_iff.1 h)
  | some fsType =>
    cases hhas : d.hasFilesystem with
    | true =>
      simp only [hhas, if_true] at h
      exact .inl (conversation_pure_iff.1 h)
    | false =>
      simp only [hhas, Bool.false_eq_true, if_false] at h
      obtain ⟨x, hx, rfl⟩ := conversation_andReturn_iff.1 h
      obtain ⟨z, rest, rfl, hrest⟩ := conversation_ask_iff.1 hx
      obtain ⟨rfl, rfl⟩ := conversation_done_iff.1 hrest
      exact .inr ⟨fsType, x, rfl, rfl, rfl, rfl⟩

/-- **Staging asks for a filesystem once and last**, right after it has listed the devices, and for
the device that is blank and meant. -/
theorem conversation_stage_format {r : StageVolume} {t : List (Exchange interface)}
    {y : Except DriverError (List Event)} (h : Conversation (stage r).run t y)
    {e : Exchange interface} (he : e ∈ t) (hformat : e.request.isFormat = true) :
    ∃ devices d fsType x,
      t = [⟨.listDevices, .ok devices⟩, ⟨.makeFilesystem d.path fsType, x⟩] ∧
        Blank r devices d fsType := by
  -- A listing is no formatting.
  have hlisted : ∀ {x}, e ≠ ⟨.listDevices, x⟩ := by
    rintro x rfl
    exact Bool.false_ne_true hformat
  rcases conversation_stage h with ⟨-, -, rfl, -⟩ | ⟨wanted, hcheck, hfind⟩
  · exact absurd he List.not_mem_nil
  cases hfind with
  | nameless hserial e => exact absurd he List.not_mem_nil
  | unlisted hserial e => exact absurd (List.mem_singleton.1 he) hlisted
  | unresolved hserial devices hd => exact absurd (List.mem_singleton.1 he) hlisted
  | resolved hserial devices hd hrest =>
    rename_i d rest
    rcases conversation_format hrest with ⟨rfl, -⟩ | ⟨fsType, x, rfl, hblank, rfl, -⟩
    · exact absurd (List.mem_singleton.1 he) hlisted
    · obtain ⟨requested, flags, group, mode, hcapability, hfs⟩ :=
        StageVolume.check_eq_ok_some hcheck
      refine ⟨devices, d, fsType, x, rfl, ?_, hserial, BlockDevice.choose_eq_ok_iff.1 hd,
        BlockDevice.hasFilesystem_eq_false_iff.1 hblank⟩
      exact ⟨requested, flags, group, mode, hcapability, filesystemFor_eq_ok_iff.1 hfs⟩

/-! ### All requests -/

/-- Nothing but staging asks for a filesystem. -/
theorem asksOnly_respond (nodeId : String) {r : Request} (hr : ∀ v, r ≠ .stageVolume v) :
    AsksOnly (fun q : Host.Request => q.isFormat = false) (respond nodeId r).run := by
  have hfile : ∀ q, Host.Request.isFormat (.file q) = false := fun _ => rfl
  have hexists : ∀ path, Host.Request.isFormat (.pathExists path) = false := fun _ => rfl
  have hmounted : ∀ target, Host.Request.isFormat (.isMountPoint target) = false := fun _ => rfl
  cases r with
  | stageVolume v => exact absurd rfl (hr v)
  | unstageVolume volumeId stagingPath =>
    refine .andThen (.of (asksOnly_require _ _)) fun _ => ?_
    exact .andThen (.of (asksOnly_require _ _)) fun _ => .pure _
  | publishVolume v =>
    refine .andThen (.of ?_) fun _ => .pure _
    rw [publish_eq]
    have hlist : Host.Request.isFormat .listDevices = false := rfl
    refine .andThen (.ofExcept _) fun use => .andThen (asksOnly_device hlist _) fun d => ?_
    exact asksOnly_mountDevice hfile hexists hmounted (fun _ _ _ => rfl) v use
  | unpublishVolume volumeId target =>
    refine .andThen (.of ?_) fun _ => .pure _
    exact asksOnly_unpublish hfile hexists hmounted (fun _ => rfl) volumeId target
  | getVolumeStats volumeId path =>
    exact .andThen (.of (asksOnly_stats hfile hexists volumeId path)) fun _ => .pure _
  | getCapabilities => exact .pure _
  | getInfo => exact .pure _
  | unserved name => exact .refuse _

/-- A request to the node, all that was said on the way to its answer, and the answer. -/
structure Turn where
  request : Request
  exchanges : List (Exchange interface)
  answer : Except Status (Outcome Response)

namespace Turn

/-- A turn that the node of an id may take. -/
def Happens (nodeId : String) (u : Turn) : Prop :=
  Conversation (respond nodeId u.request).run u.exchanges u.answer

/-- A turn that asks for a filesystem is one of staging, and ends with asking for it. -/
theorem exists_blank {nodeId : String} {u : Turn} (h : u.Happens nodeId)
    {e : Exchange interface} (he : e ∈ u.exchanges) (hformat : e.request.isFormat = true) :
    ∃ r devices d fsType x, u.request = .stageVolume r ∧
      u.exchanges = [⟨.listDevices, .ok devices⟩, ⟨.makeFilesystem d.path fsType, x⟩] ∧
        Blank r devices d fsType := by
  obtain ⟨request, exchanges, answer⟩ := u
  by_cases hstage : ∃ r, request = .stageVolume r
  · obtain ⟨r, rfl⟩ := hstage
    obtain ⟨y, hy, -⟩ := conversation_andReturn_iff.1 h
    obtain ⟨z, hz, -⟩ := conversation_of_iff.1 hy
    obtain ⟨devices, d, fsType, x, ht, hblank⟩ := conversation_stage_format hz he hformat
    exact ⟨r, devices, d, fsType, x, rfl, ht, hblank⟩
  · have hquiet := asksOnly_respond nodeId fun v hv => hstage ⟨v, hv⟩
    have hno := hquiet.of_mem h he
    rw [hformat] at hno
    exact absurd hno.symm Bool.false_ne_true

end Turn

/-! ### Runs -/

section Runs

variable {ι : Type} (device : BlockDevice → ι)

/-- A turn asks for a filesystem on a device: on the path under which it was listed. What tells
devices apart, their serial or their path or both, is `device`. -/
def Turn.Asks (u : Turn) (i : ι) : Prop :=
  ∃ devices d fsType x, ⟨.listDevices, .ok devices⟩ ∈ u.exchanges ∧ d ∈ devices ∧
    device d = i ∧ ⟨.makeFilesystem d.path fsType, x⟩ ∈ u.exchanges

/-- A turn gives a device a filesystem: it asks for one, and is granted it. -/
def Turn.Formats (u : Turn) (i : ι) : Prop :=
  ∃ devices d fsType, ⟨.listDevices, .ok devices⟩ ∈ u.exchanges ∧ d ∈ devices ∧
    device d = i ∧ ⟨.makeFilesystem d.path fsType, .ok ()⟩ ∈ u.exchanges

/-- `Reports device carried turns` says that the devices of `carried` have a filesystem, that
formatting is the only thing that changes which devices have one, and that every listing shows it:
what carries a filesystem, or was given one in an earlier turn, is listed with one. In one listing
a path leads to one device. -/
def Reports : (ι → Prop) → List Turn → Prop
  | _, [] => True
  | carried, u :: turns =>
    (∀ devices, ⟨.listDevices, .ok devices⟩ ∈ u.exchanges →
      (∀ d ∈ devices, carried (device d) → d.hasFilesystem = true) ∧
        ∀ d ∈ devices, ∀ d' ∈ devices, d.path = d'.path → device d = device d') ∧
    Reports (fun i => carried i ∨ u.Formats device i) turns

variable {device} {nodeId : String} {carried : ι → Prop} {turns : List Turn} {u : Turn}

/-- A turn asks for no filesystem on a device that is listed with one. -/
theorem Turn.not_asks (h : u.Happens nodeId)
    (hlisted : ∀ devices, ⟨.listDevices, .ok devices⟩ ∈ u.exchanges →
      (∀ d ∈ devices, carried (device d) → d.hasFilesystem = true) ∧
        ∀ d ∈ devices, ∀ d' ∈ devices, d.path = d'.path → device d = device d')
    {i : ι} (hi : carried i) : ¬ u.Asks device i := by
  rintro ⟨devices, d, fsType, x, hlist, hd, rfl, hask⟩
  obtain ⟨r, devices', d', fsType', x', -, ht, hblank⟩ := Turn.exists_blank h hask rfl
  -- The turn lists devices once and asks for one filesystem, so this is the one.
  rw [ht] at hlist hask
  obtain rfl : devices = devices' := by simpa using hlist
  have hpath : d.path = d'.path := by
    have hcases : d.path = d'.path ∧ fsType = fsType' := by
      rcases List.mem_cons.1 hask with h | h
      · exact absurd (congrArg Exchange.request h) nofun
      · have hrequest := congrArg Exchange.request (List.mem_singleton.1 h)
        exact Host.Request.makeFilesystem.inj hrequest
    exact hcases.1
  have hmem : d' ∈ devices.filter (·.serial == serialOf r.context) := by
    rw [hblank.unique]
    exact List.mem_singleton_self d'
  have hd' : d' ∈ devices := (List.mem_filter.1 hmem).1
  obtain ⟨hcarried, hpaths⟩ := hlisted devices (by rw [ht]; exact List.mem_cons_self)
  have hsame : device d = device d' := hpaths d hd d' hd' hpath
  have hhas : d'.hasFilesystem = true := hcarried d' hd' (hsame ▸ hi)
  rw [BlockDevice.hasFilesystem_eq_false_iff.2 hblank.blank] at hhas
  exact Bool.false_ne_true hhas

/-- A device that carries a filesystem is left alone through a whole run. -/
theorem Reports.not_asks (hturns : ∀ u ∈ turns, u.Happens nodeId)
    (h : Reports device carried turns) {i : ι} (hi : carried i) :
    ∀ u ∈ turns, ¬ u.Asks device i := by
  induction turns generalizing carried with
  | nil => simp
  | cons u turns ih =>
    obtain ⟨hfirst, hrest⟩ := h
    intro u' hu'
    rcases List.mem_cons.1 hu' with rfl | hu'
    · exact Turn.not_asks (hturns _ List.mem_cons_self) hfirst hi
    · -- It still carries one after the first turn.
      have hturns' : ∀ u ∈ turns, u.Happens nodeId := fun v hv =>
        hturns v (List.mem_cons_of_mem u hv)
      exact ih hturns' hrest (.inl hi) u' hu'

/-- After a device was given a filesystem none is asked for it again. -/
theorem Reports.pairwise (hturns : ∀ u ∈ turns, u.Happens nodeId)
    (h : Reports device carried turns) :
    turns.Pairwise fun u u' => ∀ i, u.Formats device i → ¬ u'.Asks device i := by
  induction turns generalizing carried with
  | nil => exact .nil
  | cons u turns ih =>
    obtain ⟨-, hrest⟩ := h
    have hturns' : ∀ u ∈ turns, u.Happens nodeId := fun v hv =>
      hturns v (List.mem_cons_of_mem u hv)
    -- What the first turn formats carries a filesystem from then on.
    refine .cons (fun u' hu' i hformats => ?_) (ih hturns' hrest)
    exact hrest.not_asks hturns' (.inr hformats) u' hu'

end Runs

/-- **No data is ever formatted away.** Whatever the operating system answers, a request to the node
asks for at most one filesystem, and only if it is one to stage a volume for a mount: then the
devices were just listed, the one with the serial of the volume's context has no filesystem, and it
is that device which is to be given the filesystem asked for, or the default. So where a device that
carries a filesystem is listed with one, in any run such a device is left alone, and so is, for the
rest of the run, one that was given a filesystem. -/
theorem formats_blank_device_once (nodeId : String) :
    (∀ u : Turn, u.Happens nodeId →
      u.exchanges.countP (·.request.isFormat) ≤ 1 ∧
        ∀ path fsType x, ⟨.makeFilesystem path fsType, x⟩ ∈ u.exchanges →
          ∃ r devices d, u.request = .stageVolume r ∧
            u.exchanges = [⟨.listDevices, .ok devices⟩, ⟨.makeFilesystem path fsType, x⟩] ∧
              Blank r devices d fsType ∧ d.path = path) ∧
      ∀ {ι : Type} (device : BlockDevice → ι) (carried : ι → Prop) (turns : List Turn),
        (∀ u ∈ turns, u.Happens nodeId) → Reports device carried turns →
          (∀ u ∈ turns, ∀ i, carried i → ¬ u.Asks device i) ∧
            turns.Pairwise fun u u' => ∀ i, u.Formats device i → ¬ u'.Asks device i := by
  refine ⟨fun u h => ⟨?_, ?_⟩, fun device carried turns hturns hreports => ?_⟩
  · by_cases hformat : ∃ e ∈ u.exchanges, e.request.isFormat = true
    · obtain ⟨e, he, hformat⟩ := hformat
      obtain ⟨r, devices, d, fsType, x, -, ht, -⟩ := Turn.exists_blank h he hformat
      rw [ht]
      exact Nat.le_refl 1
    · have hnone : u.exchanges.countP (·.request.isFormat) = 0 :=
        List.countP_eq_zero.2 fun e he hformat' => hformat ⟨e, he, hformat'⟩
      omega
  · intro path fsType x hask
    obtain ⟨r, devices, d, fsType', x', hr, ht, hblank⟩ := Turn.exists_blank h hask rfl
    rw [ht] at hask
    have hsame : (⟨.makeFilesystem path fsType, x⟩ : Exchange interface) =
        ⟨.makeFilesystem d.path fsType', x'⟩ := by
      rcases List.mem_cons.1 hask with h | h
      · exact absurd (congrArg Exchange.request h) nofun
      · exact List.mem_singleton.1 h
    cases hsame
    exact ⟨r, devices, d, hr, ht, hblank, rfl⟩
  · exact ⟨fun u hu i hi => hreports.not_asks hturns hi u hu, hreports.pairwise hturns⟩

/-- A request to stage the volume with serial `s1` for a mount. -/
def stageFirst : StageVolume where
  volumeId := "a"
  stagingPath := "/staging"
  capability := some ⟨some (.mount "" [] ""), some 1⟩
  context := Table.ofList [(serialKey, "s1")]

/-- The devices of a node: that of the volume, on which a filesystem may be found, and another with
data. -/
def twoDevices (found : Option String) : List BlockDevice :=
  [⟨"s1", "/dev/vdb", found⟩, ⟨"s2", "/dev/vdc", some "xfs"⟩]

/-- The volume is staged on a blank device, and then once more. -/
def stagedTwice : List Turn :=
  [⟨.stageVolume stageFirst,
      [⟨.listDevices, .ok (twoDevices none)⟩, ⟨.makeFilesystem "/dev/vdb" "ext4", .ok ()⟩],
      .ok { response := .done, events := [.formatted "ext4"] }⟩,
    ⟨.stageVolume stageFirst, [⟨.listDevices, .ok (twoDevices (some "ext4"))⟩],
      .ok { response := .done, events := [] }⟩]

theorem formats_blank_device_once_stagedTwice :
    (∀ u ∈ stagedTwice, u.Happens "node") ∧
      Reports BlockDevice.path (· = "/dev/vdc") stagedTwice ∧
        (∀ u ∈ stagedTwice, u.exchanges.countP (·.request.isFormat) ≤ 1) ∧
          (∀ u ∈ stagedTwice, ¬ u.Asks BlockDevice.path "/dev/vdc") ∧
            stagedTwice.Pairwise fun u u' =>
              ∀ i, u.Formats BlockDevice.path i → ¬ u'.Asks BlockDevice.path i := by
  have happens : ∀ u ∈ stagedTwice, u.Happens "node" := by
    intro u hu
    rcases List.mem_cons.1 hu with rfl | hu
    · exact .ask _ (.ask _ (.done _))
    · obtain rfl := List.mem_singleton.1 hu
      exact .ask _ (.done _)
  have reports : Reports BlockDevice.path (· = "/dev/vdc") stagedTwice := by
    simp [Reports, stagedTwice, twoDevices, Turn.Formats, BlockDevice.hasFilesystem,
      BlockDevice.filesystem?]
  obtain ⟨hturn, hrun⟩ := formats_blank_device_once "node"
  obtain ⟨hcarried, hpairwise⟩ := hrun BlockDevice.path (· = "/dev/vdc") stagedTwice happens reports
  exact ⟨happens, reports, fun u hu => (hturn u (happens u hu)).1,
    fun u hu => hcarried u hu _ rfl, hpairwise⟩

end Node

end Hotplug
