import Hotplug.Proofs.Node.Format
import Hotplug.Proofs.Node.Publishing

/-!
# Requests to the node that are made again

The node undoes nothing when a step fails. It need not: wherever an attempt was left, the next one
finds what is done already, and goes on to where the first would have come without failures.

## Main definitions

* `verdict`, `answer` — the response to a request, or the code of the failure.
* `Attempted nodeId r s s'` — any number of attempts at a request, each met by failures or cut off.

## Main results

* `withstands_stage` — staging at every moment.
* `endures_respond` — at every moment of an attempt the request could as well be begun anew.
* `answer_of_attempted` — **after any failed attempts a request ends as it would have without
  them.**
-/

namespace Hotplug

/-- The device with a serial is found among devices that were given a filesystem. -/
theorem BlockDevice.choose_map_formattedAs {serial device fsType : String}
    {devices : List BlockDevice} {d : BlockDevice} (h : BlockDevice.choose serial devices = .ok d) :
    BlockDevice.choose serial (devices.map (Host.formattedAs device fsType)) =
      .ok (Host.formattedAs device fsType d) := by
  rw [BlockDevice.choose_eq_ok_iff] at h ⊢
  have hserial :
      ((·.serial == serial) ∘ Host.formattedAs device fsType) = (·.serial == serial) := by
    funext d
    unfold Function.comp Host.formattedAs
    split <;> rfl
  rw [List.filter_map, hserial, h]
  rfl

namespace Node

open Host (interface step State)

variable {α : Type} {s s' : State}

/-! ### What callers see -/

/-- The response to a request, or the code of the failure: what does not depend on how it was
counted and worded. -/
def verdict (x : Except Status (Outcome Response)) : Except Code Response :=
  (x.map (·.response)).mapError (·.code)

/-- What a request is answered where nothing is made to fail, and the state after it. -/
def answer (nodeId : String) (r : Request) (s : State) : Except Code Response × State :=
  (verdict (runOn step (respond nodeId r) s).1, (runOn step (respond nodeId r) s).2)

/-- A request that is answered with an attempt ends as that does. -/
theorem answer_eq_ends {nodeId : String} {r : Request} {p : Attempt interface α}
    {g : α → Outcome Response} (hr : respond nodeId r = Answering.of p >>= fun a => pure (g a))
    (s : State) : answer nodeId r s = ends (p >>= fun a => pure (g a).response) s := by
  rw [answer, hr, runOn_andReturn, runOn_of]
  unfold ends
  rw [runOn_andReturn]
  cases (runOn step p s).1 <;> rfl

/-! ### Staging -/

/-- A device that is given a filesystem has one. -/
theorem hasFilesystem_formattedAs {d : BlockDevice} {fsType : String} (hne : fsType ≠ "") :
    (Host.formattedAs d.path fsType d).hasFilesystem = true := by
  rw [← Bool.not_eq_false, BlockDevice.hasFilesystem_eq_false_iff]
  simp [Host.formattedAs, hne]

/-- A device with a filesystem is left alone. -/
theorem ends_format_of_hasFilesystem (wanted : Option String) {d : BlockDevice}
    (h : d.hasFilesystem = true) : ends (format wanted d) s = (.ok [], s) := by
  unfold format
  cases wanted with
  | none => rfl
  | some fsType =>
    simp only [h, if_true]
    rfl

/-- A device without one is given the filesystem that is wanted. -/
theorem ends_format {fsType : String} {d : BlockDevice} (h : d.hasFilesystem = false) :
    ends (format (some fsType) d) s =
      (.ok [.formatted fsType], (step (.makeFilesystem d.path fsType) s).2) := by
  unfold format
  simp only [h, Bool.false_eq_true, if_false]
  rfl

/-- Staging does nothing, or gives the device of its context the filesystem that is wanted. -/
theorem withstands_stage_of {r : StageVolume} {P : State → Prop} (hs : P s)
    (hformat : ∀ fsType d, r.check = .ok (some fsType) → serialOf r.context ≠ "" →
      BlockDevice.choose (serialOf r.context) s.devices = .ok d → d.hasFilesystem = false →
      P (step (.makeFilesystem d.path fsType) s).2) :
    Withstands P (fun _ _ => True) (stage r) s := by
  rw [stage_eq]
  refine .bind (.ofExcept hs fun wanted hcheck => ?_)
  refine .device hs fun d hserial hd => ?_
  unfold format
  cases wanted with
  | none => exact .pure hs trivial
  | some fsType =>
    cases hhas : d.hasFilesystem with
    | true => exact .pure hs trivial
    | false =>
      have hformatted := hformat fsType d hcheck hserial hd hhas
      exact .bind (.order rfl rfl (fun e => ⟨e, rfl⟩) hs hformatted (.pure hformatted trivial))

/-- **Staging at every moment, whatever fails**: it could as well be begun anew. -/
theorem withstands_stage (r : StageVolume) (s : State) :
    Withstands
      (fun s' => s'.files = s.files ∧
        ends (stage r >>= fun _ => pure Response.done) s' =
          ends (stage r >>= fun _ => pure Response.done) s)
      (fun _ _ => True) (stage r) s := by
  refine withstands_stage_of ⟨rfl, rfl⟩ fun fsType d hcheck hserial hd hhas => ⟨rfl, ?_⟩
  -- Staging comes to formatting the device, also where it is found with a filesystem.
  have hends : ∀ {s' : State} {d : BlockDevice},
      BlockDevice.choose (serialOf r.context) s'.devices = .ok d →
      ends (stage r >>= fun _ => pure Response.done) s' =
        ends (format (some fsType) d >>= fun _ => pure Response.done) s' := by
    intro s' d hd
    refine ends_bind_congr _ ?_
    rw [stage_eq, ends_bind_ok (ends_of_runOn (runOn_ofExcept_of_eq _ _ hcheck)), ends_device,
      if_neg hserial, hd]
  have hne : fsType ≠ "" := by
    obtain ⟨requested, -, -, -, -, hfs⟩ := StageVolume.check_eq_ok_some hcheck
    rcases filesystemFor_eq_ok_iff.1 hfs with ⟨-, rfl⟩ | ⟨rfl | rfl, rfl⟩ <;> decide
  rw [hends hd, ends_bind_ok (ends_format hhas), hends (BlockDevice.choose_map_formattedAs hd),
    ends_bind_ok (ends_format_of_hasFilesystem _ (hasFilesystem_formattedAs hne))]

/-! ### All requests -/

/-- A program that asks nothing endures what holds at its start. -/
theorem endures_of_asksOnly {p : Program interface α} {P : State → Prop}
    (hp : AsksOnly (fun _ => False) p) (hs : P s) :
    Endures step Fails P (fun _ _ => True) p s := by
  cases hp with
  | done a => exact ⟨hs, trivial⟩
  | ask hr => exact hr.elim

/-- To tell how full a volume is changes nothing. -/
theorem withstands_stats (volumeId path : String) (s : State) :
    Withstands (fun s' => s' = s) (fun _ _ => True) (stats volumeId path) s := by
  refine .require rfl fun _ => .require rfl fun _ => .bind (.pathExists rfl ?_)
  split
  · refine .bind (.file rfl rfl fun kind _ => ?_)
    have hcounts : Withstands (fun s' => s' = s) (fun _ _ => True) (do
        return usageOf (← Host.file ("statvfs " ++ path) (.statvfs path))) s :=
      .bind (.file rfl rfl fun _ _ => .pure rfl trivial)
    cases kind with
    | directory => exact hcounts
    | blockDevice =>
      exact .bind (.file rfl rfl fun _ _ => .bind (.file rfl rfl fun _ _ => .pure rfl trivial))
    | other => exact hcounts
  · exact .fail rfl

/-- A request that is answered with an attempt can be begun anew wherever that can. -/
theorem endures_answered {nodeId : String} {r : Request} {p : Attempt interface α}
    {g : α → Outcome Response} (hr : respond nodeId r = Answering.of p >>= fun a => pure (g a))
    {P : State → Prop} {R : α → State → Prop} (hp : Withstands P R p s)
    (hP : ∀ s', P s' → s'.files.LinkFree ∧
      ends (p >>= fun a => pure (g a).response) s' = ends (p >>= fun a => pure (g a).response) s) :
    Endures step Fails (fun s' => s'.files.LinkFree ∧ answer nodeId r s' = answer nodeId r s)
      (fun _ _ => True) (respond nodeId r).run s := by
  rw [hr]
  refine hp.endures.mono (fun s' hs' => ?_) fun _ _ _ _ => trivial
  rw [answer_eq_ends hr, answer_eq_ends hr]
  exact hP s' hs'

/-- **At every moment of an attempt the request could as well be begun anew.** -/
theorem endures_respond (nodeId : String) (r : Request) (h : s.files.LinkFree) :
    Endures step Fails (fun s' => s'.files.LinkFree ∧ answer nodeId r s' = answer nodeId r s)
      (fun _ _ => True) (respond nodeId r).run s := by
  cases r with
  | stageVolume r =>
    refine endures_answered rfl (withstands_stage r s) fun s' hs' => ⟨?_, hs'.2⟩
    rw [hs'.1]
    exact h
  | unstageVolume volumeId stagingPath =>
    refine endures_of_asksOnly ?_ ⟨h, rfl⟩
    refine .andThen (.of (asksOnly_require _ _)) fun _ => ?_
    exact .andThen (.of (asksOnly_require _ _)) fun _ => .pure _
  | publishVolume r =>
    refine endures_answered rfl (withstands_publish h r) fun s' hs' => ?_
    exact ⟨hs'.1.linkFree, ends_bind_congr _ hs'.2⟩
  | unpublishVolume volumeId target =>
    refine endures_answered rfl (withstands_unpublish h volumeId target) fun s' hs' => ?_
    exact ⟨hs'.1.linkFree h, ends_bind_congr _ hs'.2⟩
  | getVolumeStats volumeId path =>
    refine endures_answered rfl (withstands_stats volumeId path s) ?_
    rintro s' rfl
    exact ⟨h, rfl⟩
  | getCapabilities => exact endures_of_asksOnly (.pure _) ⟨h, rfl⟩
  | getInfo => exact endures_of_asksOnly (.pure _) ⟨h, rfl⟩
  | unserved name => exact endures_of_asksOnly (.refuse _) ⟨h, rfl⟩

/-! ### Attempts one after the other -/

/-- `Attempted nodeId r s s'` says that any number of attempts at the request `r` have turned the
state `s` into `s'`. In each of them any steps may have failed, and it may have been cut off. -/
inductive Attempted (nodeId : String) (r : Request) (s : State) : State → Prop where
  /-- There was none. -/
  | none : Attempted nodeId r s s
  /-- There was one more. -/
  | again {s' s'' : State} {p : Program interface (Except Status (Outcome Response))}
      (before : Attempted nodeId r s s')
      (attempt : Proceeds step Fails (respond nodeId r).run s' p s'') : Attempted nodeId r s s''

/-- **After any failed attempts a request ends as it would have without them**: it succeeds with the
same response or fails with the same code, and it leaves the same state. -/
theorem answer_of_attempted {nodeId : String} {r : Request} (h : s.files.LinkFree)
    (hattempts : Attempted nodeId r s s') : answer nodeId r s' = answer nodeId r s := by
  suffices hboth : s'.files.LinkFree ∧ answer nodeId r s' = answer nodeId r s from hboth.2
  induction hattempts with
  | none => exact ⟨h, rfl⟩
  | again _ attempt ih =>
    obtain ⟨hfree, hbefore⟩ := ih
    obtain ⟨hfree', hsame⟩ := ((endures_respond nodeId r hfree).of_proceeds attempt).start
    exact ⟨hfree', hsame.trans hbefore⟩

theorem answer_of_attempted_publishFirst :
    oneDevice.files.LinkFree ∧
      Attempted "node" (.publishVolume publishFirst) oneDevice unmountedFirst ∧
      unmountedFirst.files = ⟨[(["pods", "first"], .file 0), (["pods"], .directory)]⟩ ∧
        answer "node" (.publishVolume publishFirst) unmountedFirst =
          answer "node" (.publishVolume publishFirst) oneDevice := by
  have hattempted : Attempted "node" (.publishVolume publishFirst) oneDevice unmountedFirst :=
    .again .none (proceeds_faulty fails_failing _ _ _)
  exact ⟨linkFree_oneDevice, hattempted, by decide +kernel,
    answer_of_attempted linkFree_oneDevice hattempted⟩

end Node

end Hotplug
