import Hotplug.Host.Commands
import Hotplug.Proofs.Json
import Hotplug.Proofs.Json.Render
import Hotplug.Proofs.Node.Refusal
import Hotplug.Proofs.Record
import Hotplug.Proofs.Success
import Hotplug.Proofs.Text
import Hotplug.Proofs.Trim

/-!
# Finding the device with a serial

The system prints its devices as a listing of records. The device with a serial is found if one
record of the listing, and no more than one, has that serial, whatever blanks are printed around it.
Records without a serial, with a blank one or with another have no part in it, nor has the order.

## Main definitions

* `Listing.Lists text entries` — a text is a listing of devices with these records.
* `Listing.Carries serial entry` — a record has a serial.
* `Listing.Describes entry serial d` — the device that a record with a serial describes.
* `Commands.resolveDevice serial` — finding the device with the system's commands.
* `Commands.Prints h s text` — the command that lists devices prints a text.

## Main results

* `Listing.choose_coded` — what is found in a listing.
* `Commands.resolveDevice_exact` — **which device is found, and why none is.**
-/

namespace Hotplug

namespace Listing

open Record

variable {serial text : String} {entry : Json} {entries : List Json} {l : Line} {d : BlockDevice}

/-! ### Records of a listing -/

/-- The text that a record has under a name, or at a position. -/
def fieldText? (name : String) (position : Nat) (entry : Json) : Option String :=
  ((field name name position entry).join).bind Json.text?

/-- `Lists text entries` says that a text is read as a listing of devices, and that these are its
records. -/
structure Lists (text : String) (entries : List Json) : Prop where
  entries : records? "blockdevices" some text = some entries
  isRead : ∃ lines, records? "blockdevices" Line.ofJson? text = some lines

/-- `Carries serial entry` says that a record has a serial, with blanks around it. -/
def Carries (serial : String) (entry : Json) : Prop :=
  ∃ printed, fieldText? "serial" 1 entry = some printed ∧ Text.Core printed.toList serial.toList

/-- `Describes entry serial d` says what device a record with a serial describes: it has the path
that is the record's name, and the record's filesystem, unless that is empty. -/
structure Describes (entry : Json) (serial : String) (d : BlockDevice) : Prop where
  serial : d.serial = serial
  path : fieldText? "name" 0 entry = some d.path
  fsType : d.fsType = (fieldText? "fstype" 2 entry).filter fun fs => !fs.isEmpty

/-- A record with a serial describes one device. -/
theorem Describes.eq {d' : BlockDevice} (h : Describes entry serial d)
    (h' : Describes entry serial d') : d = d' := by
  have hserial : d.serial = d'.serial := h.serial.trans h'.serial.symm
  have hpath : d.path = d'.path := Option.some.inj (h.path.symm.trans h'.path)
  have hfs : d.fsType = d'.fsType := h.fsType.trans h'.fsType.symm
  cases d
  cases d'
  simp_all

theorem carries_iff : Carries serial entry ↔
    (fieldText? "serial" 1 entry).map Text.trim = some serial := by
  unfold Carries
  rw [Option.map_eq_some_iff]
  refine exists_congr fun printed => and_congr_right fun _ => ?_
  rw [← Text.trimChars_eq_iff, ← String.toList_inj, Text.trim, String.toList_ofList]

instance (serial : String) : DecidablePred (Carries serial) :=
  fun _ => decidable_of_iff _ carries_iff.symm

/-- A field that may be absent or `null` is read as the text it has. -/
theorem fieldText?_of_read {name : String} {position : Nat} {found : Option String}
    (h : read name name position none optionalText? entry = some found) :
    fieldText? name position entry = found := by
  unfold fieldText?
  rcases read_eq_some_iff.1 h with ⟨hfield, rfl⟩ | ⟨v, hfield, hv⟩
  · rw [hfield]
    rfl
  · rw [hfield]
    cases v with
    | null => cases hv; rfl
    | string s => cases hv; rfl
    | _ => cases hv

/-- What is read of a record is the texts of its fields. -/
theorem fields_of_line (h : Line.ofJson? entry = some l) :
    fieldText? "name" 0 entry = some l.name ∧ fieldText? "serial" 1 entry = l.serial ∧
      fieldText? "fstype" 2 entry = l.fsType := by
  unfold Line.ofJson? at h
  split at h
  · obtain ⟨name, hname, h⟩ := Option.bind_eq_some_iff.1 h
    obtain ⟨printed, hserial, h⟩ := Option.bind_eq_some_iff.1 h
    obtain ⟨fsType, hfs, h⟩ := Option.bind_eq_some_iff.1 h
    cases h
    exact ⟨hname, fieldText?_of_read hserial, fieldText?_of_read hfs⟩
  · cases h

/-- The device that a record describes, if it has a serial. -/
def device? (entry : Json) : Option BlockDevice :=
  (Line.ofJson? entry).bind Line.device?

/-- A record that has a serial describes a device with it. -/
theorem exists_device?_of_carries (hserial : serial ≠ "") (h : Line.ofJson? entry = some l)
    (hcarries : Carries serial entry) : ∃ d, device? entry = some d ∧ Describes entry serial d := by
  obtain ⟨hname, hprinted, hfs⟩ := fields_of_line h
  rw [carries_iff, hprinted] at hcarries
  refine ⟨⟨serial, l.name, l.fsType.filter fun fs => !fs.isEmpty⟩, ?_, rfl, hname, by rw [hfs]⟩
  have hkept : (some serial).filter (fun s => !s.isEmpty) = some serial := by
    simp [Option.filter, hserial]
  rw [device?, h, Option.bind_some, Line.device?, hcarries, hkept]

/-- A record that describes a device has its serial. -/
theorem carries_of_device? (h : Line.ofJson? entry = some l) (hd : device? entry = some d) :
    Carries d.serial entry := by
  obtain ⟨-, hprinted, -⟩ := fields_of_line h
  rw [device?, h, Option.bind_some, Line.device?] at hd
  rw [carries_iff, hprinted]
  split at hd
  · next trimmed htrimmed =>
    cases hd
    exact (Option.filter_eq_some_iff.1 htrimmed).1
  · cases hd

/-- Of the devices that records describe those with a serial are described by the records with
it. -/
theorem device?_filter (hserial : serial ≠ "") (h : Line.ofJson? entry = some l) :
    (device? entry).filter (·.serial == serial) =
      if Carries serial entry then device? entry else none := by
  by_cases hcarries : Carries serial entry
  · obtain ⟨d, hd, hdescribes⟩ := exists_device?_of_carries hserial h hcarries
    rw [if_pos hcarries, hd]
    simp [Option.filter, hdescribes.serial]
  · rw [if_neg hcarries]
    cases hd : device? entry with
    | none => rfl
    | some d =>
      have hother : d.serial ≠ serial := by
        rintro rfl
        exact hcarries (carries_of_device? h hd)
      simp [Option.filter, hother]

/-! ### The devices of a listing -/

/-- A text whose devices are read is a listing. -/
theorem exists_lists {devices : List BlockDevice} (h : Listing.devices text = .ok devices) :
    ∃ entries, Lists text entries := by
  unfold Listing.devices at h
  split at h
  · next lines hlines =>
    obtain ⟨j, hparsed, hread⟩ := Option.bind_eq_some_iff.1 hlines
    split at hread
    · next hfits =>
      -- What is read of the records with the reader of lines is read of them as they are.
      have hraw : ∃ entries, read "blockdevices" "blockdevices" 0 [] (list? some) j = some entries := by
        rcases read_eq_some_iff.1 hread with ⟨hfield, -⟩ | ⟨v, hfield, hv⟩
        · exact ⟨[], read_eq_some_iff.2 (.inl ⟨hfield, rfl⟩)⟩
        · obtain ⟨items, rfl, -⟩ := list?_eq_some_iff.1 hv
          refine ⟨items, read_eq_some_iff.2 (.inr ⟨_, hfield, list?_eq_some_iff.2 ?_⟩)⟩
          exact ⟨items, rfl, List.forall₂_same.2 fun _ _ => rfl⟩
      obtain ⟨entries, hentries⟩ := hraw
      refine ⟨entries, Option.bind_eq_some_iff.2 ⟨j, hparsed, ?_⟩, lines, hlines⟩
      rw [if_pos hfits]
      exact hentries
    · cases hread
  · cases h

/-- Each record of a listing is read as one line. -/
theorem Lists.lines (h : Lists text entries) :
    ∃ lines, records? "blockdevices" Line.ofJson? text = some lines ∧
      List.Forall₂ (fun entry l => Line.ofJson? entry = some l) entries lines := by
  obtain ⟨hentries, lines, hlines⟩ := h
  refine ⟨lines, hlines, ?_⟩
  obtain ⟨j, hparsed, hread⟩ := Option.bind_eq_some_iff.1 hentries
  obtain ⟨j', hparsed', hread'⟩ := Option.bind_eq_some_iff.1 hlines
  obtain rfl : j = j' := Option.some.inj (hparsed.symm.trans hparsed')
  split at hread
  · next hfits =>
    rw [if_pos hfits] at hread'
    rcases read_eq_some_iff.1 hread with ⟨hfield, rfl⟩ | ⟨v, hfield, hv⟩
    · -- Without a field there are no records.
      rcases read_eq_some_iff.1 hread' with ⟨-, rfl⟩ | ⟨v, hfield', -⟩
      · exact .nil
      · rw [hfield] at hfield'
        cases hfield'
    · rcases read_eq_some_iff.1 hread' with ⟨hfield', -⟩ | ⟨v', hfield', hv'⟩
      · rw [hfield] at hfield'
        cases hfield'
      · -- Both times the same array is read, once as it is and once record by record.
        obtain rfl : v = v' := Option.some.inj (Option.some.inj (hfield.symm.trans hfield'))
        obtain ⟨items, rfl, hitems⟩ := list?_eq_some_iff.1 hv
        obtain ⟨items', heq, hread⟩ := list?_eq_some_iff.1 hv'
        cases heq
        have hsame : items = entries := by
          refine List.forall₂_eq_eq_eq ▸ hitems.imp fun a b hab => Option.some.inj hab
        rwa [← hsame]
  · cases hread

/-- Every record of a listing is one. -/
theorem Lists.exists_line (h : Lists text entries) (hmem : entry ∈ entries) :
    ∃ l, Line.ofJson? entry = some l := by
  obtain ⟨lines, -, hlines⟩ := h.lines
  clear h
  induction hlines with
  | nil => cases hmem
  | cons hfirst _ ih =>
    rcases List.mem_cons.1 hmem with rfl | hmem
    · exact ⟨_, hfirst⟩
    · exact ih hmem

/-- The devices that the records with a serial describe. -/
def carriers (serial : String) (entries : List Json) : List BlockDevice :=
  (entries.filter (Carries serial)).filterMap device?

/-- They are the devices of the listing with that serial. -/
theorem Lists.devices (hserial : serial ≠ "") (h : Lists text entries) :
    ∃ devices, Listing.devices text = .ok devices ∧
      devices.filter (·.serial == serial) = carriers serial entries := by
  obtain ⟨lines, hlines, hread⟩ := h.lines
  refine ⟨lines.filterMap Line.device?, by rw [Listing.devices, hlines], ?_⟩
  -- Then it does not matter whether the serial is looked for among records or among devices.
  have hdescribed : lines.filterMap Line.device? = entries.filterMap device? := by
    clear h hlines
    induction hread with
    | nil => rfl
    | cons hfirst _ ih =>
      rw [List.filterMap_cons, List.filterMap_cons, ih, device?, hfirst, Option.bind_some]
  rw [hdescribed, List.filter_filterMap, carriers, List.filterMap_filter]
  apply List.filterMap_congr
  intro entry hmem
  obtain ⟨l, hl⟩ := h.exists_line hmem
  rw [device?_filter hserial hl]
  simp only [decide_eq_true_eq]

/-- What the records with a serial describe. -/
theorem Lists.mem_carriers_iff (hserial : serial ≠ "") (h : Lists text entries) :
    d ∈ carriers serial entries ↔
      ∃ entry ∈ entries, Carries serial entry ∧ Describes entry serial d := by
  unfold carriers
  rw [List.mem_filterMap]
  constructor
  · rintro ⟨entry, hmem, hd⟩
    obtain ⟨hentry, hcarries⟩ := List.mem_filter.1 hmem
    obtain ⟨l, hl⟩ := h.exists_line hentry
    have hcarries := of_decide_eq_true hcarries
    obtain ⟨d', hd', hdescribes⟩ := exists_device?_of_carries hserial hl hcarries
    obtain rfl : d' = d := Option.some.inj (hd'.symm.trans hd)
    exact ⟨entry, hentry, hcarries, hdescribes⟩
  · rintro ⟨entry, hentry, hcarries, hdescribes⟩
    obtain ⟨l, hl⟩ := h.exists_line hentry
    obtain ⟨d', hd', hdescribes'⟩ := exists_device?_of_carries hserial hl hcarries
    refine ⟨entry, List.mem_filter.2 ⟨hentry, decide_eq_true hcarries⟩, ?_⟩
    rw [hd', hdescribes'.eq hdescribes]

/-- There are as many as there are such records. -/
theorem Lists.length_carriers (hserial : serial ≠ "") (h : Lists text entries) :
    (carriers serial entries).length = entries.countP (Carries serial) := by
  unfold carriers
  rw [List.length_filterMap_eq_countP, List.countP_filter]
  apply List.countP_congr
  intro entry hmem
  obtain ⟨l, hl⟩ := h.exists_line hmem
  rw [Bool.and_eq_true, decide_eq_true_eq]
  refine ⟨And.right, fun hcarries => ⟨?_, hcarries⟩⟩
  obtain ⟨d, hd, -⟩ := exists_device?_of_carries hserial hl hcarries
  rw [hd]
  rfl

/-! ### The device that is found -/

/-- The only device of a list; where there is none, or more than one, the state is refused. -/
def only : List BlockDevice → Except Code BlockDevice
  | [d] => .ok d
  | _ => .error .failedPrecondition

theorem only_eq_ok_iff {devices : List BlockDevice} : only devices = .ok d ↔ devices = [d] := by
  cases devices with
  | nil => simp [only]
  | cons d' rest => cases rest <;> simp [only]

theorem only_eq_error_iff {devices : List BlockDevice} :
    only devices = .error .failedPrecondition ↔ devices.length ≠ 1 := by
  cases devices with
  | nil => simp [only]
  | cons d' rest => cases rest <;> simp [only]

/-- The order of a list does not matter. -/
theorem only_of_perm {devices devices' : List BlockDevice} (h : devices.Perm devices') :
    only devices = only devices' := by
  by_cases hlength : devices.length = 1
  · obtain ⟨d, rfl⟩ := List.length_eq_one_iff.1 hlength
    rw [List.singleton_perm.1 h]
  · rw [only_eq_error_iff.2 hlength, only_eq_error_iff.2 (h.length_eq ▸ hlength)]

/-- A device is picked if it is the only one with its serial. -/
theorem choose_coded (serial : String) (devices : List BlockDevice) :
    (BlockDevice.choose serial devices).mapError DriverError.code =
      only (devices.filter (·.serial == serial)) := by
  cases hchoose : BlockDevice.choose serial devices with
  | ok d => rw [BlockDevice.choose_eq_ok_iff.1 hchoose]; rfl
  | error e =>
    rw [Except.mapError, BlockDevice.code_of_choose hchoose, eq_comm, only_eq_error_iff]
    intro hlength
    obtain ⟨d, hd⟩ := List.length_eq_one_iff.1 hlength
    rw [BlockDevice.choose_eq_ok_iff.2 hd] at hchoose
    cases hchoose

end Listing

namespace Commands

open Listing

variable {σ τ : Type} {h : Handler interface σ} {s : σ} {serial text : String}
  {entries : List Json}

/-- Finding the device with a serial by the system's commands. -/
def resolveDevice (serial : String) : Attempt interface BlockDevice :=
  ExceptT.mk (onCommands (Host.resolveDevice serial).run)

/-- The command that lists the devices. -/
def listRequest : Request :=
  .run "lsblk" ["--json", "--paths", "--nodeps", "--output", "NAME,SERIAL,FSTYPE"]

/-- `Prints h s text` says that the command that lists devices ends well and prints a text. -/
def Prints (h : Handler interface σ) (s : σ) (text : String) : Prop :=
  ∃ output : Output, (h listRequest s).1 = .ok output ∧ output.exit = some 0 ∧
    Text.decodeLossy output.stdout = text

/-- What is listed when the command has ended: its devices, if it ended well. -/
def listedIn : Except FileError Output → Except DriverError (List BlockDevice)
  | .ok output =>
    if output.exit = some 0 then Listing.devices (Text.decodeLossy output.stdout)
    else .error (.command (shown "lsblk" ["--json", "--paths", "--nodeps", "--output",
      "NAME,SERIAL,FSTYPE"]) (complaint output))
  | .error e => .error (.io ("run " ++ "lsblk") e.message)

/-- Listing the devices is one command. -/
theorem listDevices_eq :
    listDevices.run = .ask listRequest fun answer => .done (listedIn answer) := by
  have hstart : (start "lsblk" ["--json", "--paths", "--nodeps", "--output",
      "NAME,SERIAL,FSTYPE"]).run = .ask listRequest fun
        | .ok output => .done (.ok output)
        | .error e => .done (.error (.io ("run " ++ "lsblk") e.message)) := by
    unfold start
    rw [if_neg (by decide)]
    refine congrArg (Program.ask _) (funext fun answer => ?_)
    cases answer <;> rfl
  unfold listDevices run
  rw [ExceptT.run_bind, ExceptT.run_bind, hstart]
  refine congrArg (Program.ask _) (funext fun answer => ?_)
  cases answer with
  | error e => rfl
  | ok output =>
    by_cases hexit : output.exit = some 0
    · simp only [listedIn, Program.done_bind, if_pos hexit]
      rfl
    · simp only [listedIn, Program.done_bind, if_neg hexit]
      rfl

/-- With a serial one command is run, and the device is picked among what it lists. -/
theorem resolveDevice_eq (hserial : serial ≠ "") :
    (resolveDevice serial).run = .ask listRequest fun answer =>
      .done ((listedIn answer).bind (BlockDevice.choose serial)) := by
  have hne : ¬ serial.isEmpty = true := by simpa using hserial
  unfold resolveDevice Host.resolveDevice
  rw [if_neg hne]
  change listDevices.run.bind _ = _
  rw [listDevices_eq]
  refine congrArg (Program.ask _) (funext fun answer => ?_)
  rw [Program.done_bind]
  cases listedIn answer <;> rfl

/-- What is found where the command prints a text. -/
theorem runOn_resolveDevice (hserial : serial ≠ "") (hprints : Prints h s text) :
    (runOn h (resolveDevice serial) s).1 =
        (Listing.devices text).bind (BlockDevice.choose serial) ∧
      askedOn h (resolveDevice serial) s = [listRequest] := by
  obtain ⟨output, houtput, hexit, rfl⟩ := hprints
  unfold runOn askedOn
  rw [resolveDevice_eq hserial]
  refine ⟨?_, rfl⟩
  rw [Program.run_ask, houtput, Program.run_done]
  simp only [listedIn, if_pos hexit]

/-- What is found, or the code of the error, is told by the records with the serial alone. -/
theorem coded_resolveDevice (hserial : serial ≠ "") (hlists : Lists text entries)
    (hprints : Prints h s text) :
    (runOn h (resolveDevice serial) s).1.mapError DriverError.code =
      only (carriers serial entries) := by
  obtain ⟨devices, hdevices, hcarriers⟩ := hlists.devices hserial
  have hchoose := choose_coded serial devices
  rw [hcarriers] at hchoose
  rw [(runOn_resolveDevice hserial hprints).1, hdevices]
  exact hchoose

/-- **Which device is found, and why none is.** Without a serial the argument is invalid, and
nothing is asked of the system. With one, where the command prints a text whose devices are read, it
is run once, and the text is a listing of some records. A device is found exactly if one of these
records, and no more, has the serial, whatever blanks surround it: the device with the name and the
filesystem of that record. Otherwise the state of the node is refused. Any other listing in which
the records with the serial are the same, in any order, comes to the same device or the same code.
-/
theorem resolveDevice_exact (serial : String) (h : Handler interface σ) (s : σ) :
    (serial = "" →
      runOn h (resolveDevice serial) s =
        (.error (.invalidArgument "volume context does not carry a device serial"), s) ∧
      askedOn h (resolveDevice serial) s = []) ∧
    ∀ text devices, serial ≠ "" → Listing.devices text = .ok devices → Prints h s text →
      let found := (runOn h (resolveDevice serial) s).1
      ∃ entries, Lists text entries ∧
      askedOn h (resolveDevice serial) s = [listRequest] ∧
      (∀ d, found = .ok d ↔ entries.countP (Carries serial) = 1 ∧
        ∃ entry ∈ entries, Carries serial entry ∧ Describes entry serial d) ∧
      ((∃ d, found = .ok d) ↔ entries.countP (Carries serial) = 1) ∧
      (found.mapError DriverError.code = .error .failedPrecondition ↔
        entries.countP (Carries serial) ≠ 1) ∧
      ∀ {h' : Handler interface τ} {s' : τ} {text' : String} {entries' : List Json},
        Lists text' entries' → Prints h' s' text' →
        (entries'.filter (Carries serial)).Perm (entries.filter (Carries serial)) →
        (runOn h' (resolveDevice serial) s').1.mapError DriverError.code =
          found.mapError DriverError.code := by
  constructor
  · rintro rfl
    exact ⟨rfl, rfl⟩
  intro text devices hserial hdevices hprints found
  obtain ⟨entries, hlists⟩ := exists_lists hdevices
  have hcoded : found.mapError DriverError.code = only (carriers serial entries) :=
    coded_resolveDevice hserial hlists hprints
  have hcount := hlists.length_carriers hserial
  have hok : ∀ d, found = .ok d ↔ carriers serial entries = [d] := by
    intro d
    rw [← mapError_eq_ok_iff (f := DriverError.code), hcoded, only_eq_ok_iff]
  refine ⟨entries, hlists, (runOn_resolveDevice hserial hprints).2, fun d => ?_, ?_, ?_, ?_⟩
  · rw [← hcount, ← hlists.mem_carriers_iff hserial, hok]
    constructor
    · intro hsingle
      rw [hsingle]
      exact ⟨rfl, List.mem_singleton_self d⟩
    · rintro ⟨hlength, hmem⟩
      obtain ⟨d', hsingle⟩ := List.length_eq_one_iff.1 hlength
      rw [hsingle] at hmem ⊢
      rw [List.mem_singleton.1 hmem]
  · rw [← hcount, List.length_eq_one_iff]
    exact exists_congr hok
  · rw [hcoded, only_eq_error_iff, hcount]
  · intro h' s' text' entries' hlists' hprints' hperm
    rw [coded_resolveDevice hserial hlists' hprints', hcoded]
    exact only_of_perm (hperm.filterMap device?)

/-- A listing as the command prints it. -/
def listingOf (entries : List Json) : Json :=
  .object [("blockdevices", .array entries)]

/-- The records of a listing that is printed are read one by one. -/
theorem records?_listingOf {α : Type} {entries : List Json} (h : ∀ e ∈ entries, Json.Plain 125 e)
    (record? : Json → Option α) :
    records? "blockdevices" record? (listingOf entries).render = entries.mapM record? := by
  have harray : Json.Plain 126 (.array entries) := .array h
  have hplain : Json.Plain Json.maxDepth (listingOf entries) := .object (by simpa using harray)
  unfold records?
  rw [Json.parse?_render hplain]
  rfl

/-- A system whose commands all print one text. -/
def printing (text : String) : Handler interface Unit := fun r _ =>
  match r with
  | .run _ _ => (.ok { stdout := text.toUTF8.data.toList }, ())
  | .file _ => (.error .missing, ())

/-- A listing in characters of seven bits is printed as it is. -/
theorem prints_listingOf {entries : List Json}
    (h : ((listingOf entries).renderChars.all fun c => c.toNat < 128) = true) :
    Prints (printing (listingOf entries).render) () (listingOf entries).render := by
  have hseven : ∀ c ∈ (listingOf entries).renderChars, c.toNat < 128 :=
    fun c hc => of_decide_eq_true (List.all_eq_true.1 h c hc)
  exact ⟨{ stdout := (listingOf entries).render.toUTF8.data.toList }, rfl, rfl,
    Text.decodeLossy_ascii hseven⟩

/-- A record with a padded serial and an empty filesystem, among records without a serial, with
`null` and with a blank one, and one that is written as an array. -/
def paddedEntries : List Json :=
  [.object [("name", .string "/dev/vda")],
    .object [("name", .string "/dev/vdb"), ("serial", .string " S "), ("fstype", .string "")],
    .object [("serial", .null), ("name", .string "/dev/vdc")],
    .object [("name", .string "/dev/vdd"), ("serial", .string " ")],
    .array [.string "/dev/vde", .string "T"]]

/-- The one record with the serial is found, in either order; a serial of no record is refused. -/
theorem resolveDevice_exact_padded :
    Prints (printing (listingOf paddedEntries).render) () (listingOf paddedEntries).render ∧
      (runOn (printing (listingOf paddedEntries).render) (resolveDevice "S") ()).1 =
        .ok ⟨"S", "/dev/vdb", none⟩ ∧
      (runOn (printing (listingOf paddedEntries).render) (resolveDevice "s") ()).1.mapError
        DriverError.code = .error .failedPrecondition ∧
      (runOn (printing (listingOf paddedEntries.reverse).render) (resolveDevice "S")
        ()).1.mapError DriverError.code = .ok ⟨"S", "/dev/vdb", none⟩ := by
  have hplain : ∀ e ∈ paddedEntries, Json.Plain 125 e := by simp [paddedEntries]
  have hbackwards : ∀ e ∈ paddedEntries.reverse, Json.Plain 125 e :=
    fun e he => hplain e (List.mem_reverse.1 he)
  obtain ⟨lines, hlines⟩ : ∃ lines, paddedEntries.mapM Line.ofJson? = some lines := ⟨_, rfl⟩
  obtain ⟨lines', hlines'⟩ : ∃ lines, paddedEntries.reverse.mapM Line.ofJson? = some lines :=
    ⟨_, rfl⟩
  have hreversed : Lists (listingOf paddedEntries.reverse).render paddedEntries.reverse :=
    ⟨records?_listingOf hbackwards some, lines', (records?_listingOf hbackwards _).trans hlines'⟩
  have hdevices : Listing.devices (listingOf paddedEntries).render =
      .ok (lines.filterMap Line.device?) := by
    rw [Listing.devices, records?_listingOf hplain, hlines]
  have hshown : Prints (printing (listingOf paddedEntries).render) ()
      (listingOf paddedEntries).render := prints_listingOf (by decide)
  obtain ⟨entries, hlists, -, hok, -, -, hsame⟩ :=
    (@resolveDevice_exact Unit Unit "S" (printing (listingOf paddedEntries).render) ()).2 _ _
      (by decide) hdevices hshown
  have hentries : records? "blockdevices" some (listingOf paddedEntries).render =
      some paddedEntries := records?_listingOf hplain some
  obtain rfl : entries = paddedEntries := Option.some.inj (hlists.entries.symm.trans hentries)
  obtain ⟨entries', hlists', -, -, -, hrefused, -⟩ :=
    (@resolveDevice_exact Unit Unit "s" (printing (listingOf paddedEntries).render) ()).2 _ _
      (by decide) hdevices hshown
  obtain rfl : entries' = paddedEntries := Option.some.inj (hlists'.entries.symm.trans hentries)
  have hfound := (hok ⟨"S", "/dev/vdb", none⟩).2 ⟨by decide,
    .object [("name", .string "/dev/vdb"), ("serial", .string " S "), ("fstype", .string "")],
    by decide, by decide, rfl, by decide, by decide⟩
  refine ⟨hshown, hfound, hrefused.2 (by decide), ?_⟩
  rw [hsame hreversed (prints_listingOf (by decide)) ((List.reverse_perm _).filter _),
    hfound]
  rfl

end Commands

end Hotplug
