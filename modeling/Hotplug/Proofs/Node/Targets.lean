import Hotplug.Proofs.Node.Publishing

/-!
# Targets over runs of requests

Volumes are made visible and hidden again by any number of requests, in any order, and any step of
these may fail. As long as no two names of targets lead to one place, each target has a life of its
own: it is there while something is mounted on it, it stays mounted until it is unpublished, and
what is done already is not done again.

## Main definitions

* `Mounted s target` — something is mounted on a target.
* `NormalForm T` — the targets of `T` have one name each.
* `Call`, `Runs` — runs of requests to publish and to unpublish targets.
* `Sound T s` — every mounted target is one of `T`, and is there.

## Main results

* `normalForm_canonical` — canonical paths are in one normal form.
* `endures_call` — what a request does to the targets, at every moment.
* `publish_again`, `unpublish_again` — what is done already is not done again.
* `targets_over_runs` — **publishing and unpublishing over all runs.**
-/

namespace Hotplug.Node

open Host (interface step State)

variable {s s' : State} {T : String → Prop} {target : String}

/-! ### Targets -/

/-- Something is mounted on a target. -/
def Mounted (s : State) (target : String) : Prop :=
  ∃ m, s.mounts.get? target = some m

theorem not_mounted_iff : ¬ Mounted s target ↔ s.mounts.get? target = none := by
  rw [Option.eq_none_iff_forall_ne_some, Mounted, not_exists]

/-- Targets are in a normal form: none goes back up, and no two lead to one place. -/
structure NormalForm (T : String → Prop) : Prop where
  up : ∀ target, T target → ".." ∉ Path.parts target
  distinct : ∀ target target', T target → T target' →
    Path.place target = Path.place target' → target = target'

/-- Canonical paths are in one normal form. -/
theorem normalForm_canonical : NormalForm Path.Canonical where
  up _ h := h.exists_place.1
  distinct _ _ h h' heq := Path.eq_of_place_eq h h' heq

/-- Every mounted target is one of `T`, and is there. -/
structure Sound (T : String → Prop) (s : State) : Prop where
  linkFree : s.files.LinkFree
  target : ∀ target, Mounted s target → T target
  present : ∀ target, Mounted s target → s.files.Present target

/-- `Untouched target s s'` says that the mounts of all targets but this one are as they were. -/
def Untouched (target : String) (s s' : State) : Prop :=
  ∀ other, other ≠ target → s'.mounts.get? other = s.mounts.get? other

theorem Untouched.mounted_iff (h : Untouched target s s') {other : String} (hne : other ≠ target) :
    Mounted s' other ↔ Mounted s other := by
  rw [Mounted, Mounted, h other hne]

/-! ### On the way to a mount -/

namespace Publishing

theorem untouched (h : Publishing s target s') : Untouched target s s' := by
  intro other hne
  rcases h.mounts with hmounts | ⟨-, -, m, hmounts⟩
  · rw [hmounts]
  · rw [hmounts, Table.get?_insert, if_neg hne]

/-- What is mounted stays mounted. -/
theorem mounted (h : Publishing s target s') {other : String} (hm : Mounted s other) :
    Mounted s' other := by
  rcases h.mounts with hmounts | ⟨hnone, -, m, hmounts⟩
  · rwa [Mounted, hmounts]
  · have hne : other ≠ target := by
      rintro rfl
      exact not_mounted_iff.2 hnone hm
    exact (h.untouched.mounted_iff hne).2 hm

theorem sound (h : Publishing s target s') (htarget : T target) (hs : Sound T s) : Sound T s' := by
  have hkept : ∀ other, Mounted s other → T other ∧ s'.files.Present other := fun other hm =>
    ⟨hs.target other hm, (hs.present other hm).of_within hs.linkFree h.linkFree h.within⟩
  have hall : ∀ other, Mounted s' other → T other ∧ s'.files.Present other := by
    intro other hm
    rcases h.mounts with hmounts | ⟨-, hpresent, m, hmounts⟩
    · exact hkept other (by rwa [Mounted, hmounts] at hm)
    · by_cases hne : other = target
      · rw [hne]
        exact ⟨htarget, hpresent⟩
      · exact hkept other ((h.untouched.mounted_iff hne).1 hm)
  exact ⟨h.linkFree, fun other hm => (hall other hm).1, fun other hm => (hall other hm).2⟩

end Publishing

/-! ### On the way back -/

namespace Unpublishing

theorem untouched (h : Unpublishing s target s') : Untouched target s s' := by
  intro other hne
  rcases h.mounts with hmounts | hmounts
  · rw [hmounts]
  · rw [hmounts, Table.get?_erase_of_ne _ hne]

/-- What is mounted was mounted. -/
theorem mounted (h : Unpublishing s target s') {other : String} (hm : Mounted s' other) :
    Mounted s other := by
  by_cases hne : other = target
  · subst hne
    rcases h.mounts with hmounts | hmounts
    · rwa [Mounted, hmounts] at hm
    · rw [Mounted, hmounts, Table.get?_erase_self] at hm
      obtain ⟨m, hm⟩ := hm
      cases hm
  · exact (h.untouched.mounted_iff hne).1 hm

/-- To remove one target does not remove another. -/
theorem sound (h : Unpublishing s target s') (hT : NormalForm T) (htarget : T target)
    (hs : Sound T s) : Sound T s' := by
  refine ⟨h.linkFree hs.linkFree, fun other hm => hs.target other (h.mounted hm),
    fun other hm => ?_⟩
  have hpresent := hs.present other (h.mounted hm)
  rcases h.files with hfiles | ⟨hnone, hgone⟩
  · rwa [hfiles]
  · have hne : other ≠ target := by
      rintro rfl
      exact not_mounted_iff.2 hnone hm
    have hother := hs.target other (h.mounted hm)
    exact hgone.present_of_ne hs.linkFree (hT.up other hother)
      (fun heq => hne (hT.distinct other target hother htarget heq)) hpresent

end Unpublishing

/-! ### Requests -/

/-- A request to publish or to unpublish a target. -/
inductive Call where
  | publish (r : PublishVolume)
  | unpublish (volumeId target : String)

/-- The target that a request is about. -/
def Call.about : Call → String
  | .publish r => r.targetPath
  | .unpublish _ target => target

/-- The request as the node takes it. -/
def Call.request : Call → Request
  | .publish r => .publishVolume r
  | .unpublish volumeId target => .unpublishVolume volumeId target

/-- What has been achieved where a request succeeded. -/
def Call.Achieved : Call → State → Prop
  | .publish r, s => Mounted s r.targetPath
  | .unpublish _ target, s => target ≠ "" ∧ ¬ Mounted s target ∧ ¬ s.files.Present target

/-- What becomes of the target while a request is worked on. -/
def Call.Keeps : Call → State → State → Prop
  | .publish r, s, s' => Mounted s r.targetPath → Mounted s' r.targetPath
  | .unpublish _ target, s, s' => ¬ Mounted s target → ¬ Mounted s' target

/-- **What a request does to the targets, at every moment**, whatever fails: mounted targets are
there, and all targets but its own are left alone. -/
theorem endures_call (nodeId : String) (hT : NormalForm T) (c : Call) (hc : T c.about)
    (hs : Sound T s) :
    Endures step Fails (fun s' => Sound T s' ∧ Untouched c.about s s' ∧ c.Keeps s s')
      (fun x s' => (∃ a, x = .ok a) → c.Achieved s') (respond nodeId c.request).run s := by
  cases c with
  | publish r =>
    refine (withstands_publish hs.linkFree r).endures.mono ?_ ?_
    · rintro s' ⟨hway, -⟩
      exact ⟨hway.sound hc hs, hway.untouched, hway.mounted⟩
    · rintro x s' - hdone ⟨a, ha⟩
      obtain ⟨-, -, hmounted⟩ := hdone a ha
      exact hmounted
  | unpublish volumeId target =>
    refine (withstands_unpublish hs.linkFree volumeId target).endures.mono ?_ ?_
    · rintro s' ⟨hway, -⟩
      exact ⟨hway.sound hT hc hs, hway.untouched, mt hway.mounted⟩
    · rintro x s' - hdone ⟨a, ha⟩
      obtain ⟨-, -, hne, hnone, hgone⟩ := hdone a ha
      exact ⟨hne, not_mounted_iff.2 hnone, hgone⟩

/-! ### Requests that find their work done -/

theorem runOn_of_ends_ok {α : Type} {p : Attempt interface α} {a : α}
    (h : ends p s = (.ok a, s')) : runOn step p s = (.ok a, s') := by
  obtain ⟨hx, hs⟩ := Prod.mk.inj h
  exact Prod.ext (mapError_eq_ok_iff.1 hx) hs

/-- **To publish a target that is mounted does nothing**: once the device is found, only the mount
is looked at. -/
theorem publish_again (nodeId : String) {r : PublishVolume} {use : AccessType} {d : BlockDevice}
    (hcheck : r.check = .ok use) (hserial : serialOf r.context ≠ "")
    (hd : BlockDevice.choose (serialOf r.context) s.devices = .ok d)
    (hmounted : Mounted s r.targetPath) :
    runOn step (respond nodeId (.publishVolume r)) s = (.ok { response := .done }, s) ∧
      askedOn step (respond nodeId (.publishVolume r)) s =
        [.listDevices, .isMountPoint r.targetPath] := by
  obtain ⟨m, hm⟩ := hmounted
  have hends : ends (publish r) s = (.ok (), s) :=
    (ends_publish hcheck hserial hd).trans (ends_mountDevice_of_mounted use d hm)
  have hrun : runOn step (Answering.of (publish r)) s = (.ok (), s) := by
    rw [runOn_of, runOn_of_ends_ok hends]
    rfl
  have hfound : runOn step (Host.isMountPoint r.targetPath) s = (.ok true, s) :=
    runOn_of_ends_ok (ends_isMountPoint hm)
  have hmount : askedOn step (mountDevice r use d) s = [.isMountPoint r.targetPath] :=
    askedOn_bind_ok hfound
  have hasked : askedOn step (publish r) s = [.listDevices, .isMountPoint r.targetPath] := by
    rw [publish_eq, askedOn_bind_ok (runOn_ofExcept_of_eq step s hcheck),
      askedOn_bind_ok (runOn_device hserial hd), hmount, askedOn_device hserial]
    rfl
  refine ⟨runOn_bind_ok hrun, ?_⟩
  exact (askedOn_andReturn step s _ _).trans ((askedOn_of step s _).trans hasked)

/-- **To unpublish a target that is neither mounted nor there does nothing.** -/
theorem unpublish_again (nodeId : String) {volumeId : String} (hid : volumeId ≠ "")
    (hne : target ≠ "") (hmounted : ¬ Mounted s target) (hgone : ¬ s.files.Present target) :
    runOn step (respond nodeId (.unpublishVolume volumeId target)) s =
      (.ok { response := .done }, s) := by
  have hends : ends (unpublish volumeId target) s = (.ok (), s) :=
    calc ends (unpublish volumeId target) s = ends (withdraw target) s := ends_unpublish hid hne
      _ = ends (clear target) s :=
        ends_bind_ok (ends_isMountPoint_of_none (not_mounted_iff.1 hmounted))
      _ = (.ok (), s) := ends_clear_of_not hgone
  have hrun : runOn step (Answering.of (unpublish volumeId target)) s = (.ok (), s) := by
    rw [runOn_of, runOn_of_ends_ok hends]
    rfl
  exact runOn_bind_ok hrun

/-! ### Runs -/

/-- `Runs nodeId T s₀ log s` says that requests about targets of `T` have turned the state `s₀` into
`s`. In each any steps may have failed, and it may have been cut off. The requests are logged, the
latest first, with whether they succeeded. In between devices may come and go. -/
inductive Runs (nodeId : String) (T : String → Prop) (s₀ : State) :
    List (Call × Bool) → State → Prop where
  | start : Runs nodeId T s₀ [] s₀
  | call {log : List (Call × Bool)} {s s' : State} {c : Call} {succeeded : Bool}
      {p : Program interface (Except Status (Outcome Response))}
      (before : Runs nodeId T s₀ log s) (hc : T c.about)
      (made : Proceeds step Fails (respond nodeId c.request).run s p s')
      (hsucceeded : succeeded = true ↔ ∃ a, p = .done (.ok a)) :
      Runs nodeId T s₀ ((c, succeeded) :: log) s'
  | devices {log : List (Call × Bool)} {s : State} (before : Runs nodeId T s₀ log s)
      (devices : List BlockDevice) : Runs nodeId T s₀ log { s with devices }

/-- What a request has done when it ended or was cut off. -/
theorem made_of_proceeds {nodeId : String} (hT : NormalForm T) {c : Call} (hc : T c.about)
    (hs : Sound T s) {p : Program interface (Except Status (Outcome Response))}
    (hmade : Proceeds step Fails (respond nodeId c.request).run s p s') :
    Sound T s' ∧ Untouched c.about s s' ∧ c.Keeps s s' ∧
      ((∃ a, p = .done (.ok a)) → c.Achieved s') := by
  have hleft := (endures_call nodeId hT c hc hs).of_proceeds hmade
  obtain ⟨hsound, huntouched, hkeeps⟩ := hleft.start
  refine ⟨hsound, huntouched, hkeeps, ?_⟩
  rintro ⟨a, rfl⟩
  exact hleft.2 ⟨a, rfl⟩

namespace Runs

variable {nodeId : String} {s₀ : State} {log before after : List (Call × Bool)}

/-- A run goes on with a request that is answered. -/
theorem answered (hrun : Runs nodeId T s₀ log s) {c : Call} (hc : T c.about)
    {x : Except Status (Outcome Response)}
    (hmade : Proceeds step Fails (respond nodeId c.request).run s (.done x) s') :
    Runs nodeId T s₀ ((c, x.isOk) :: log) s' := by
  refine .call hrun hc hmade ?_
  cases x with
  | error e => exact iff_of_false nofun nofun
  | ok a => exact iff_of_true rfl ⟨a, rfl⟩

/-- Every mounted target is there, all along a run. -/
theorem sound (hrun : Runs nodeId T s₀ log s) (hT : NormalForm T) (h₀ : Sound T s₀) :
    Sound T s := by
  induction hrun with
  | start => exact h₀
  | call _ hc made _ ih => exact (made_of_proceeds hT hc ih made).1
  | devices _ _ ih => exact ⟨ih.linkFree, ih.target, ih.present⟩

/-- What a request has achieved lasts as long as the requests after it let it be. -/
theorem lasting (hrun : Runs nodeId T s₀ log s) (hT : NormalForm T) (h₀ : Sound T s₀) {c : Call}
    (hlog : log = after ++ (c, true) :: before) {P : State → Prop}
    (hachieved : ∀ s, c.Achieved s → P s)
    (hkept : ∀ e ∈ after, ∀ s s', Untouched e.1.about s s' → e.1.Keeps s s' → P s → P s')
    (hdevices : ∀ s devices, P s → P { s with devices }) : P s := by
  induction hrun generalizing after with
  | start => exact absurd hlog (by simp)
  | devices _ devices ih => exact hdevices _ devices (ih hlog hkept)
  | call hbefore hc made hsucceeded ih =>
    obtain ⟨-, huntouched, hkeeps, hdone⟩ := made_of_proceeds hT hc (hbefore.sound hT h₀) made
    cases after with
    | nil =>
      -- This is the request itself.
      obtain ⟨heq, -⟩ := List.cons.inj hlog
      obtain ⟨rfl, rfl⟩ := Prod.mk.inj heq
      exact hachieved _ (hdone (hsucceeded.1 rfl))
    | cons e after =>
      obtain ⟨rfl, hrest⟩ := List.cons.inj hlog
      have hlasted := ih hrest fun e he => hkept e (List.mem_cons_of_mem _ he)
      exact hkept _ List.mem_cons_self _ _ huntouched hkeeps hlasted

/-- A target that was published stays mounted until it is to be unpublished. -/
theorem mounted (hrun : Runs nodeId T s₀ log s) (hT : NormalForm T) (h₀ : Sound T s₀)
    {r : PublishVolume} (hlog : log = after ++ (.publish r, true) :: before)
    (hafter : ∀ e ∈ after, ∀ volumeId, e.1 ≠ .unpublish volumeId r.targetPath) :
    Mounted s r.targetPath := by
  refine hrun.lasting hT h₀ hlog (P := fun s => Mounted s r.targetPath) (fun _ hm => hm) ?_
    fun _ _ hm => hm
  intro ⟨c, _⟩ he s s' huntouched hkeeps hmounted
  by_cases hother : r.targetPath = c.about
  · cases c with
    | publish r' =>
      rw [hother] at hmounted ⊢
      exact hkeeps hmounted
    | unpublish volumeId target =>
      exact absurd (congrArg (Call.unpublish volumeId) hother.symm) (hafter _ he volumeId)
  · exact (huntouched.mounted_iff hother).2 hmounted

/-- A target that was unpublished is not mounted until it is to be published. -/
theorem not_mounted (hrun : Runs nodeId T s₀ log s) (hT : NormalForm T) (h₀ : Sound T s₀)
    {volumeId : String} (hlog : log = after ++ (.unpublish volumeId target, true) :: before)
    (hafter : ∀ e ∈ after, ∀ r, e.1 = .publish r → r.targetPath ≠ target) :
    ¬ Mounted s target := by
  refine hrun.lasting hT h₀ hlog (P := fun s => ¬ Mounted s target) (fun _ hm => hm.2.1) ?_
    fun _ _ hm => hm
  intro ⟨c, _⟩ he s s' huntouched hkeeps hunmounted
  by_cases hother : target = c.about
  · cases c with
    | publish r => exact absurd hother.symm (hafter _ he r rfl)
    | unpublish volumeId' target' =>
      rw [hother] at hunmounted ⊢
      exact hkeeps hunmounted
  · exact mt (huntouched.mounted_iff hother).1 hunmounted

/-- A target that was just unpublished is neither mounted nor there. -/
theorem unpublished (hrun : Runs nodeId T s₀ log s) (hT : NormalForm T) (h₀ : Sound T s₀)
    {volumeId : String} (hlog : log = (.unpublish volumeId target, true) :: before) :
    target ≠ "" ∧ ¬ Mounted s target ∧ ¬ s.files.Present target :=
  hrun.lasting hT h₀ (show log = [] ++ _ :: before from hlog) (fun _ hdone => hdone) nofun
    fun _ _ hdone => hdone

end Runs

/-- **Publishing and unpublishing over all runs**, on a node without links in its file tree where
nothing was mounted. At every moment of any further request mounted targets are there, and all
targets but its own are left alone. A target that was published is mounted until it is to be
unpublished, and to publish it again, where its device is found, does nothing and mounts nothing. A
target that was unpublished is not mounted until it is to be published; at first it is gone, too,
and to unpublish it again does nothing. -/
theorem targets_over_runs (nodeId : String) (hT : NormalForm T) {s₀ : State}
    {log : List (Call × Bool)} (hfree : s₀.files.LinkFree) (hempty : s₀.mounts = .empty)
    (hrun : Runs nodeId T s₀ log s) :
    (∀ target, Mounted s target → s.files.Present target) ∧
    (∀ c : Call, T c.about → ∀ p s',
      Proceeds step Fails (respond nodeId c.request).run s p s' →
        (∀ target, Mounted s' target → s'.files.Present target) ∧
          ∀ target, target ≠ c.about → s'.mounts.get? target = s.mounts.get? target) ∧
    (∀ after r before, log = after ++ (.publish r, true) :: before →
      (∀ e ∈ after, ∀ volumeId, e.1 ≠ .unpublish volumeId r.targetPath) →
        Mounted s r.targetPath ∧
          ∀ r' use d, r'.targetPath = r.targetPath → r'.check = .ok use →
            serialOf r'.context ≠ "" →
            BlockDevice.choose (serialOf r'.context) s.devices = .ok d →
              runOn step (respond nodeId (.publishVolume r')) s =
                  (.ok { response := .done }, s) ∧
                askedOn step (respond nodeId (.publishVolume r')) s =
                  [.listDevices, .isMountPoint r'.targetPath]) ∧
    (∀ after volumeId target before, log = after ++ (.unpublish volumeId target, true) :: before →
      ((∀ e ∈ after, ∀ r, e.1 = .publish r → r.targetPath ≠ target) → ¬ Mounted s target) ∧
        (after = [] → ¬ s.files.Present target ∧
          ∀ volumeId', volumeId' ≠ "" →
            runOn step (respond nodeId (.unpublishVolume volumeId' target)) s =
              (.ok { response := .done }, s))) := by
  have h₀ : Sound T s₀ := by
    have hnone : ∀ target, ¬ Mounted s₀ target := fun target => by
      rw [not_mounted_iff, hempty, Table.get?_empty]
    exact ⟨hfree, fun target hm => absurd hm (hnone target),
      fun target hm => absurd hm (hnone target)⟩
  have hs := hrun.sound hT h₀
  refine ⟨hs.present, fun c hc p s' hmade => ?_, fun after r before hlog hafter => ?_,
    fun after volumeId target before hlog => ⟨hrun.not_mounted hT h₀ hlog, ?_⟩⟩
  · obtain ⟨hsound, huntouched, -⟩ := made_of_proceeds hT hc hs hmade
    exact ⟨hsound.present, huntouched⟩
  · have hmounted := hrun.mounted hT h₀ hlog hafter
    refine ⟨hmounted, fun r' use d htarget hcheck hserial hd => ?_⟩
    rw [← htarget] at hmounted
    exact publish_again nodeId hcheck hserial hd hmounted
  · rintro rfl
    obtain ⟨hne, hunmounted, hgone⟩ := hrun.unpublished hT h₀ hlog
    exact ⟨hgone, fun volumeId' hid => unpublish_again nodeId hid hne hunmounted hgone⟩

/-- The node after the next attempt, which meets no failure. -/
def mountedFirst : State :=
  (runOn step (respond "node" (.publishVolume publishFirst)) unmountedFirst).2

theorem targets_over_runs_publishFirst :
    NormalForm Path.Canonical ∧ oneDevice.files.LinkFree ∧ oneDevice.mounts = .empty ∧
      Runs "node" Path.Canonical oneDevice
        [(.publish publishFirst, true), (.publish publishFirst, false)] mountedFirst ∧
      Mounted mountedFirst "/pods/first" ∧ mountedFirst.files.Present "/pods/first" ∧
        runOn step (respond "node" (.publishVolume publishFirst)) mountedFirst =
          (.ok { response := .done }, mountedFirst) := by
  have hcanonical : Path.Canonical (Call.publish publishFirst).about :=
    ⟨["pods", "first"], by decide +kernel, by decide +kernel⟩
  have hfirst : Runs "node" Path.Canonical oneDevice
      [(.publish publishFirst, failedFirst.1.isOk)] unmountedFirst :=
    .answered .start hcanonical (proceeds_faulty fails_failing _ _ _)
  have hrun : Runs "node" Path.Canonical oneDevice
      [(.publish publishFirst,
          (runOn step (respond "node" (.publishVolume publishFirst)) unmountedFirst).1.isOk),
        (.publish publishFirst, failedFirst.1.isOk)] mountedFirst :=
    .answered hfirst hcanonical (proceeds_run _ _ _ _)
  have hsucceeded : (runOn step (respond "node" (.publishVolume publishFirst))
      unmountedFirst).1.isOk = true := by decide +kernel
  have hfailed : failedFirst.1.isOk = false := by decide +kernel
  rw [hsucceeded, hfailed] at hrun
  obtain ⟨hpresent, -, hpublished, -⟩ :=
    targets_over_runs "node" normalForm_canonical linkFree_oneDevice rfl hrun
  obtain ⟨hmounted, hagain⟩ := hpublished [] publishFirst _ rfl nofun
  refine ⟨normalForm_canonical, linkFree_oneDevice, rfl, hrun, hmounted, hpresent _ hmounted, ?_⟩
  exact (hagain publishFirst .block ⟨"s1", "/dev/vdb", none⟩ rfl (by decide +kernel)
    (by decide +kernel) (by decide +kernel)).1

end Hotplug.Node
