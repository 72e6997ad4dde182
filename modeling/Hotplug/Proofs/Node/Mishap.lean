import Hotplug.Proofs.Mishap
import Hotplug.Proofs.Node.Conversation
import Hotplug.Host.Memory

/-!
# Failures on the node

Every request to the node's operating system may fail, with any failure. None is caught: what fails
makes the whole attempt fail. So an attempt that succeeds has met no failure, and one that does not
may stand anywhere on the way.

## Main definitions

* `Host.Fails` — the answer to a request is a failure.
* `Withstands P R p s` — as `p` is attempted from `s`, `P` holds at every moment, and `R` after a
  success.
* `ends p s` — whether an attempt succeeds or with what code it fails, and the state after it.

## Main results

* `Withstands.bind`, `Withstands.request`, `Withstands.file` — the steps of an attempt.
* `Withstands.device`, `ends_device` — the device is found, or nothing has happened.
* `Withstands.endures` — what an attempt withstands, the request does that is answered with it.
-/

namespace Hotplug.Node

open Host (interface step State)

variable {α β : Type} {P : State → Prop} {R : α → State → Prop} {s s' : State}

/-- The answer to a request is a failure. -/
def Fails (r : Host.Request) (x : interface.Answer r) : Prop :=
  ∃ e, x = .error e

theorem step_file (q : Files.Request) (s : State) :
    step (.file q) s = ((Files.step q s.files).1, { s with files := (Files.step q s.files).2 }) :=
  rfl

/-- A request to the file system is answered by its tree, and a failure says what was attempted. -/
theorem runOn_file (operation : String) (q : Files.Request) (s : State) :
    runOn step (Host.file operation q) s =
      ((Files.step q s.files).1.mapError fun e => .io operation e.message,
        { s with files := (Files.step q s.files).2 }) := by
  unfold runOn Host.file
  rw [ExceptT.run_mk, Program.run_ask, step_file]
  cases (Files.step q s.files).1 <;> rfl

/-! ### Attempts that withstand failures -/

/-- `Withstands P R p s` says that, as `p` is attempted from the state `s` and its requests are
answered or fail, `P` holds of the state at every moment, and `R` of the result and the state after
a success. -/
def Withstands (P : State → Prop) (R : α → State → Prop) (p : Attempt interface α) (s : State) :
    Prop :=
  Endures step Fails P (fun x s => ∀ a, x = .ok a → R a s) p.run s

namespace Withstands

theorem mono {P' : State → Prop} {R' : α → State → Prop} {p : Attempt interface α}
    (hp : Withstands P R p s) (hP : ∀ s, P s → P' s) (hR : ∀ a s, P s → R a s → R' a s) :
    Withstands P' R' p s :=
  Endures.mono hp hP fun _ s hs hx a ha => hR a s hs (hx a ha)

theorem pure {a : α} (hs : P s) (ha : R a s) :
    Withstands P R (pure a : Attempt interface α) s :=
  ⟨hs, fun _ heq => Except.ok.inj heq ▸ ha⟩

theorem fail {e : DriverError} (hs : P s) :
    Withstands P R (Attempt.fail e : Attempt interface α) s :=
  ⟨hs, nofun⟩

theorem ofExcept {x : Except DriverError α} (hs : P s) (hx : ∀ a, x = .ok a → R a s) :
    Withstands P R (Attempt.ofExcept x : Attempt interface α) s :=
  ⟨hs, hx⟩

/-- An attempt in two parts. -/
theorem bind {R : β → State → Prop} {p : Attempt interface α} {f : α → Attempt interface β}
    (hp : Withstands P (fun a s => Withstands P R (f a) s) p s) : Withstands P R (p >>= f) s := by
  refine Endures.andThen (Endures.mono hp (fun _ hs => hs) fun x s hs hx => ?_)
  cases x with
  | ok a => exact hx a rfl
  | error e => nofun

/-- A request: it is answered, or it fails and has done nothing. -/
theorem request {r : Host.Request}
    {next : interface.Answer r → Program interface (Except DriverError α)} (hs : P s)
    (hnext : Endures step Fails P (fun x s => ∀ a, x = .ok a → R a s) (next (step r s).1)
      (step r s).2)
    (hfail : ∀ e, ∃ e', next (.error e) = .done (.error e')) :
    Withstands P R (ExceptT.mk (.ask r next)) s := by
  refine ⟨hs, hnext, ?_⟩
  rintro x ⟨e, rfl⟩
  obtain ⟨e', he'⟩ := hfail e
  rw [he']
  exact ⟨hs, nofun⟩

theorem isMountPoint {R : Bool → State → Prop} {target : String} (hs : P s)
    (ha : R (s.mounts.get? target).isSome s) : Withstands P R (Host.isMountPoint target) s :=
  request hs ⟨hs, fun _ heq => Except.ok.inj heq ▸ ha⟩ fun e => ⟨e, rfl⟩

theorem pathExists {R : Bool → State → Prop} {path : String} (hs : P s)
    (ha : R (s.files.kind path).toOption.isSome s) : Withstands P R (Host.pathExists path) s :=
  request hs ⟨hs, fun _ heq => Except.ok.inj heq ▸ ha⟩ fun e => ⟨e, rfl⟩

/-- A request that always succeeds and gives nothing back. -/
theorem order {R : Unit → State → Prop} {r : Host.Request} {p : Attempt interface Unit}
    {next : interface.Answer r → Program interface (Except DriverError Unit)}
    (hp : p = ExceptT.mk (.ask r next)) (hok : next (step r s).1 = .done (.ok ()))
    (hfail : ∀ e, ∃ e', next (.error e) = .done (.error e')) (hs : P s) (hs' : P (step r s).2)
    (ha : R () (step r s).2) : Withstands P R p s := by
  rw [hp]
  refine request hs ?_ hfail
  rw [hok]
  exact ⟨hs', fun _ _ => ha⟩

/-- A request to the file system. -/
theorem file {operation : String} {q : Files.Request} {R : Files.Result q → State → Prop}
    (hs : P s) (hs' : P { s with files := (Files.step q s.files).2 })
    (ha : ∀ a, (Files.step q s.files).1 = .ok a →
      R a { s with files := (Files.step q s.files).2 }) :
    Withstands P R (Host.file operation q) s := by
  refine request hs ?_ fun e => ⟨_, rfl⟩
  rw [step_file]
  cases hanswer : (Files.step q s.files).1 with
  | ok a => exact ⟨hs', fun _ heq => Except.ok.inj heq ▸ ha a hanswer⟩
  | error e => exact ⟨hs', nofun⟩

end Withstands

/-! ### How attempts end -/

/-- Whether an attempt succeeds or with what code it fails, where no request is made to fail, and
the state after it. -/
def ends (p : Attempt interface α) (s : State) : Except Code α × State :=
  ((runOn step p s).1.mapError DriverError.code, (runOn step p s).2)

theorem ends_of_runOn {p : Attempt interface α} {x : Except DriverError α}
    (hp : runOn step p s = (x, s')) : ends p s = (x.mapError DriverError.code, s') := by
  rw [ends, hp]

theorem ends_bind (p : Attempt interface α) (f : α → Attempt interface β) (s : State) :
    ends (p >>= f) s = match ends p s with
      | (.ok a, s') => ends (f a) s'
      | (.error code, s') => (.error code, s') := by
  unfold ends
  rw [runOn_bind]
  rcases runOn step p s with ⟨x, s'⟩
  cases x <;> rfl

theorem ends_bind_ok {p : Attempt interface α} {f : α → Attempt interface β} {a : α}
    (hp : ends p s = (.ok a, s')) : ends (p >>= f) s = ends (f a) s' := by
  rw [ends_bind, hp]

/-- Where the first part ends alike, so does the whole. -/
theorem ends_bind_congr {p q : Attempt interface α} (f : α → Attempt interface β)
    (hp : ends p s' = ends q s) : ends (p >>= f) s' = ends (q >>= f) s := by
  rw [ends_bind, ends_bind, hp]

theorem ends_file (operation : String) (q : Files.Request) (s : State) :
    ends (Host.file operation q) s =
      ((Files.step q s.files).1.mapError fun _ => .internal,
        { s with files := (Files.step q s.files).2 }) := by
  rw [ends_of_runOn (runOn_file operation q s)]
  cases (Files.step q s.files).1 <;> rfl

/-! ### Finding the device -/

/-- A context without a serial has no device. -/
theorem device_of_nameless {context : Table String} (h : serialOf context = "") :
    device context =
      Attempt.fail (.invalidArgument "volume context does not carry a device serial") := by
  unfold device Host.resolveDevice
  exact if_pos (String.isEmpty_iff.2 h)

/-- The device of a context is looked for among those that are listed. -/
theorem device_eq {context : Table String} (h : serialOf context ≠ "") :
    device context =
      Host.listDevices >>= fun devices =>
        Attempt.ofExcept (BlockDevice.choose (serialOf context) devices) := by
  unfold device Host.resolveDevice
  exact if_neg fun hempty => h (String.isEmpty_iff.1 hempty)

theorem runOn_device {context : Table String} (h : serialOf context ≠ "") {d : BlockDevice}
    (hd : BlockDevice.choose (serialOf context) s.devices = .ok d) :
    runOn step (device context) s = (.ok d, s) := by
  rw [device_eq h]
  exact runOn_ofExcept_of_eq step s hd

theorem askedOn_device {context : Table String} (h : serialOf context ≠ "") :
    askedOn step (device context) s = [.listDevices] := by
  rw [device_eq h]
  rfl

/-- Without a serial an attempt fails, and otherwise it goes on with the device that has it. -/
theorem ends_device (context : Table String) (f : BlockDevice → Attempt interface β) (s : State) :
    ends (device context >>= f) s =
      if serialOf context = "" then (.error .invalidArgument, s)
      else match BlockDevice.choose (serialOf context) s.devices with
        | .ok d => ends (f d) s
        | .error e => (.error e.code, s) := by
  by_cases h : serialOf context = ""
  · rw [if_pos h, device_of_nameless h]
    rfl
  · rw [if_neg h, device_eq h]
    change ends (Attempt.ofExcept (BlockDevice.choose (serialOf context) s.devices) >>= f) s = _
    cases BlockDevice.choose (serialOf context) s.devices <;> rfl

/-- A value is there, or nothing has happened. -/
theorem Withstands.require {R : α → State → Prop} {value what : String}
    {p : Attempt interface α} (hs : P s) (hp : value ≠ "" → Withstands P R p s) :
    Withstands P R (Node.require value what >>= fun _ => p) s := by
  unfold Node.require
  split
  · exact .bind (.fail hs)
  · next hne => exact .bind (.pure hs (hp (by simpa using hne)))

/-- The device is found, or nothing has happened. -/
theorem Withstands.device {R : β → State → Prop} {context : Table String}
    {f : BlockDevice → Attempt interface β} (hs : P s)
    (hf : ∀ d, serialOf context ≠ "" → BlockDevice.choose (serialOf context) s.devices = .ok d →
      Withstands P R (f d) s) : Withstands P R (Node.device context >>= f) s := by
  by_cases hserial : serialOf context = ""
  · rw [device_of_nameless hserial]
    exact .bind (.fail hs)
  · rw [device_eq hserial]
    refine .bind (.bind (request hs ⟨hs, ?_⟩ fun e => ⟨e, rfl⟩))
    intro devices hdevices
    obtain rfl := Except.ok.inj hdevices
    exact .ofExcept hs fun d hd => hf d hserial hd

/-! ### Requests that are answered with an attempt -/

/-- What an attempt withstands, the request does that is answered with it. -/
theorem Withstands.endures {p : Attempt interface α} {g : α → Outcome Response}
    (hp : Withstands P R p s) :
    Endures step Fails P (fun x s => ∀ a, x = .ok a → ∃ b, a = g b ∧ R b s)
      (Answering.of p >>= fun b => Pure.pure (g b) : Answering interface (Outcome Response)).run
      s := by
  refine Endures.andThen (Endures.of (Endures.mono hp (fun _ hs => hs) fun x s hs hx => ?_))
  cases x with
  | ok b =>
    refine ⟨hs, fun a ha => ⟨b, (Except.ok.inj ha).symm, hx b rfl⟩⟩
  | error e => nofun

end Hotplug.Node
