import Hotplug.Error

/-!
# Programs over an interface

The driver acts on the world through requests: to the cluster, to the API server, to the node. What
it does with the answers is a program, a tree whose nodes are requests and whose branches are their
answers. One program is thus run against a cluster in memory, against an API server, with failures
put in its way, or one request at a time beside other programs.

## Main definitions

* `Interface` — requests and the type of answer to each.
* `Program` — the trees, a monad.
* `Handler`, `Program.run` — answering requests from a state, and running a program with it.
* `Handler.logged`, `Handler.faulty` — recording the requests, and failing some of them.
* `Program.expand` — replacing each request by a program over another interface.
* `Attempt` — programs that may fail.
-/

namespace Hotplug

/-- Requests, and the type of answer to each. -/
structure Interface where
  /-- The requests. -/
  Request : Type
  /-- The type of answers to a request. -/
  Answer : Request → Type

/-- A tree of requests that ends in values. -/
inductive Program (I : Interface) (α : Type) : Type where
  /-- The end, with a value. -/
  | done (value : α)
  /-- A request, and what follows each answer to it. -/
  | ask (request : I.Request) (next : I.Answer request → Program I α)

namespace Program

variable {I J : Interface} {α β : Type}

/-- Goes on with `f` where the program ends. -/
def bind : Program I α → (α → Program I β) → Program I β
  | done a, f => f a
  | ask r next, f => ask r fun answer => (next answer).bind f

instance : Monad (Program I) where
  pure := done
  bind := bind

@[simp] theorem pure_eq (a : α) : (pure a : Program I α) = done a := rfl

@[simp] theorem bind_eq (p : Program I α) (f : α → Program I β) : p >>= f = p.bind f := rfl

@[simp] theorem done_bind (a : α) (f : α → Program I β) : (done a).bind f = f a := rfl

@[simp] theorem ask_bind (r : I.Request) (next : I.Answer r → Program I α)
    (f : α → Program I β) : (ask r next).bind f = ask r fun answer => (next answer).bind f := rfl

/-- Going on with the end itself changes nothing. -/
@[simp] theorem bind_done (p : Program I α) : p.bind done = p := by
  induction p with
  | done a => rfl
  | ask r next ih => exact congrArg (ask r) (funext ih)

/-- Going on twice is going on once with both. -/
theorem bind_assoc {γ : Type} (p : Program I α) (f : α → Program I β) (g : β → Program I γ) :
    (p.bind f).bind g = p.bind fun a => (f a).bind g := by
  induction p with
  | done a => rfl
  | ask r next ih => exact congrArg (ask r) (funext ih)

instance : LawfulMonad (Program I) :=
  LawfulMonad.mk' (Program I) bind_done (fun _ _ => rfl) bind_assoc

/-- One request alone. -/
def request (r : I.Request) : Program I (I.Answer r) :=
  ask r done

end Program

/-- Answers requests from a state, and moves the state. -/
def Handler (I : Interface) (σ : Type) : Type :=
  (r : I.Request) → σ → I.Answer r × σ

namespace Program

variable {I J : Interface} {α β : Type} {σ : Type}

/-- Runs a program: every request is answered by the handler. -/
def run (h : Handler I σ) : Program I α → σ → α × σ
  | done a, s => (a, s)
  | ask r next, s => (next (h r s).1).run h (h r s).2

@[simp] theorem run_done (h : Handler I σ) (a : α) (s : σ) : (done a).run h s = (a, s) := rfl

@[simp] theorem run_ask (h : Handler I σ) (r : I.Request) (next : I.Answer r → Program I α)
    (s : σ) : (ask r next).run h s = (next (h r s).1).run h (h r s).2 := rfl

/-- A program that goes on runs as its two parts, one after the other. -/
theorem run_bind (h : Handler I σ) (p : Program I α) (f : α → Program I β) (s : σ) :
    (p.bind f).run h s = (f (p.run h s).1).run h (p.run h s).2 := by
  induction p generalizing s with
  | done a => rfl
  | ask r next ih => exact ih (h r s).1 (h r s).2

/-- Replaces every request by a program over another interface. -/
def expand (f : (r : I.Request) → Program J (I.Answer r)) : Program I α → Program J α
  | done a => done a
  | ask r next => (f r).bind fun answer => (next answer).expand f

end Program

namespace Handler

variable {I : Interface} {σ : Type}

/-- Answers as `h` does and keeps every request, the latest first. -/
def logged (h : Handler I σ) : Handler I (σ × List I.Request) :=
  fun r (s, log) => ((h r s).1, (h r s).2, r :: log)

end Handler

/-- A failure to be met by some requests. -/
structure Fault (I : Interface) where
  /-- The requests it is about. -/
  applies : I.Request → Bool
  /-- The failure they meet. -/
  error : DriverError
  /-- How many of them pass before the first meets it. -/
  skip : Nat
  /-- How many of them meet it; without a number, all. -/
  times : Option Nat

namespace Fault

variable {I : Interface}

/-- The failure that a request meets, and the faults left after it: each fault in order lets the
request pass while it has to skip, and the first that has not is met. -/
def meet (r : I.Request) : List (Fault I) → Option DriverError × List (Fault I)
  | [] => (none, [])
  | f :: rest =>
    if !f.applies r || (f.skip = 0 && f.times == some 0) then
      let (e, rest) := meet r rest
      (e, f :: rest)
    else if 0 < f.skip then
      let (e, rest) := meet r rest
      (e, { f with skip := f.skip - 1 } :: rest)
    else (some f.error, { f with times := f.times.map (· - 1) } :: rest)

end Fault

/-- Answers as `h` does, except that requests may meet a fault; `fail` makes the answer then. A
request that meets a fault leaves the state as it is. -/
def Handler.faulty {I : Interface} {σ : Type} (h : Handler I σ)
    (fail : (r : I.Request) → DriverError → I.Answer r) : Handler I (σ × List (Fault I)) :=
  fun r (s, faults) =>
    match Fault.meet r faults with
    | (some e, faults) => (fail r e, s, faults)
    | (none, faults) => ((h r s).1, (h r s).2, faults)

/-- A program that may fail. -/
abbrev Attempt (I : Interface) (α : Type) : Type :=
  ExceptT DriverError (Program I) α

namespace Attempt

variable {I : Interface} {α β : Type}

/-- Fails. -/
def fail (e : DriverError) : Attempt I α :=
  ExceptT.mk (.done (.error e))

/-- Succeeds or fails as a result that is known. -/
def ofExcept (x : Except DriverError α) : Attempt I α :=
  ExceptT.mk (.done x)

/-- Fails with `e` where there is no value. -/
def orFail (e : DriverError) : Option α → Attempt I α
  | some a => ExceptT.mk (.done (.ok a))
  | none => fail e

/-- Goes on with `f` when the failure is a missing object, and fails with any other failure. -/
def orMissing (p : Attempt I α) (f : Attempt I α) : Attempt I α :=
  ExceptT.mk (p.run.bind fun
    | .error (.notFound _ _) => f.run
    | other => .done other)

end Attempt

end Hotplug
