import Hotplug.Answering

/-!
# Runs and conversations of programs

A program meets the world in one of two ways. A handler answers its requests from a state, and then
it has one run. Or nothing is known of the answers, not even that they go together, and then it has
many conversations, one for every choice of answers. What holds of all conversations holds of every
run.

## Main definitions

* `Program.asked h p s` — the requests that `p` asks in its run with `h` from `s`.
* `runOn h p s`, `askedOn h p s` — the run of a program that may fail, and its requests.
* `Exchange` — a request with the answer to it.
* `Conversation p t a` — asked the requests of `t` and given its answers, `p` ends in `a`.
* `Program.follow p t` — what `p` ends in, given the answers of `t`.
* `AsksOnly M p` — every request that `p` may come to ask satisfies `M`.

## Main results

* `runOn_bind`, `askedOn_bind` — a program that goes on runs as its parts, until one fails.
* `conversation_bind_iff`, `conversation_andThen_iff` — its conversations are those of its parts.
* `exists_conversation` — every run is a conversation.
-/

namespace Hotplug

variable {I : Interface} {α β ε : Type} {σ : Type}

/-! ### The requests of a run -/

namespace Program

/-- The requests that a program asks when `h` answers, in order. -/
def asked (h : Handler I σ) : Program I α → σ → List I.Request
  | done _, _ => []
  | ask r next, s => r :: (next (h r s).1).asked h (h r s).2

@[simp] theorem asked_done (h : Handler I σ) (a : α) (s : σ) :
    (done a : Program I α).asked h s = [] := rfl

@[simp] theorem asked_ask (h : Handler I σ) (r : I.Request) (next : I.Answer r → Program I α)
    (s : σ) : (ask r next).asked h s = r :: (next (h r s).1).asked h (h r s).2 := rfl

/-- A program that goes on asks what its first part asks, and then what follows its value. -/
theorem asked_bind (h : Handler I σ) (p : Program I α) (f : α → Program I β) (s : σ) :
    (p.bind f).asked h s = p.asked h s ++ (f (p.run h s).1).asked h (p.run h s).2 := by
  induction p generalizing s with
  | done a => rfl
  | ask r next ih =>
    rw [ask_bind, asked_ask, asked_ask, ih, run_ask]
    rfl

/-- A program that goes on is replaced in its two parts. -/
theorem expand_bind {J : Interface} (f : (r : I.Request) → Program J (I.Answer r))
    (p : Program I α) (g : α → Program I β) :
    (p.bind g).expand f = (p.expand f).bind fun a => (g a).expand f := by
  induction p with
  | done a => rfl
  | ask r next ih =>
    rw [ask_bind, expand, expand, bind_assoc]
    exact congrArg (f r).bind (funext ih)

end Program

/-! ### Runs of programs that may fail -/

/-- What a program that may fail gives when `h` answers, and the state after it. -/
def runOn (h : Handler I σ) (p : ExceptT ε (Program I) α) (s : σ) : Except ε α × σ :=
  Program.run h p.run s

/-- The requests that a program that may fail asks when `h` answers, in order. -/
def askedOn (h : Handler I σ) (p : ExceptT ε (Program I) α) (s : σ) : List I.Request :=
  Program.asked h p.run s

section Runs

variable (h : Handler I σ) (s : σ)

@[simp] theorem runOn_pure (a : α) :
    runOn h (pure a : ExceptT ε (Program I) α) s = (.ok a, s) := rfl

@[simp] theorem runOn_fail (e : DriverError) :
    runOn h (Attempt.fail e : Attempt I α) s = (.error e, s) := rfl

@[simp] theorem runOn_ofExcept (x : Except DriverError α) :
    runOn h (Attempt.ofExcept x : Attempt I α) s = (x, s) := rfl

theorem runOn_ofExcept_of_eq {x y : Except DriverError α} (hx : x = y) :
    runOn h (Attempt.ofExcept x : Attempt I α) s = (y, s) := by
  rw [hx, runOn_ofExcept]

@[simp] theorem runOn_orFail_some (e : DriverError) (a : α) :
    runOn h (Attempt.orFail e (some a) : Attempt I α) s = (.ok a, s) := rfl

@[simp] theorem runOn_orFail_none (e : DriverError) :
    runOn h (Attempt.orFail e none : Attempt I α) s = (.error e, s) := rfl

theorem runOn_orFail_of_eq (e : DriverError) {found x : Option α} (hx : found = x) :
    runOn h (Attempt.orFail e found : Attempt I α) s = (x.elim (.error e) .ok, s) := by
  rw [hx]
  cases x <;> rfl

@[simp] theorem runOn_refuse (status : Status) :
    runOn h (Answering.refuse status : Answering I α) s = (.error status, s) := rfl

@[simp] theorem askedOn_pure (a : α) :
    askedOn h (pure a : ExceptT ε (Program I) α) s = [] := rfl

@[simp] theorem askedOn_ofExcept (x : Except DriverError α) :
    askedOn h (Attempt.ofExcept x : Attempt I α) s = [] := rfl

/-- A program that goes on runs as its two parts, unless the first fails. -/
theorem runOn_bind (p : ExceptT ε (Program I) α) (f : α → ExceptT ε (Program I) β) :
    runOn h (p >>= f) s = match runOn h p s with
      | (.ok a, s') => runOn h (f a) s'
      | (.error e, s') => (.error e, s') := by
  have hrun := Program.run_bind h p.run
    (fun | .ok a => (f a).run | .error e => Program.done (.error e)) s
  have hstep : runOn h (p >>= f) s = Program.run h (p.run.bind
      fun | .ok a => (f a).run | .error e => Program.done (.error e)) s := by
    unfold runOn
    rw [ExceptT.run_bind]
    congr 2
    funext x
    cases x <;> rfl
  rw [hstep, hrun]
  unfold runOn
  rcases Program.run h p.run s with ⟨x, s'⟩
  cases x <;> rfl

variable {h s}

theorem runOn_bind_ok {p : ExceptT ε (Program I) α} {f : α → ExceptT ε (Program I) β} {a : α}
    {s' : σ} (hp : runOn h p s = (.ok a, s')) : runOn h (p >>= f) s = runOn h (f a) s' := by
  rw [runOn_bind, hp]

theorem runOn_bind_error {p : ExceptT ε (Program I) α} {f : α → ExceptT ε (Program I) β} {e : ε}
    {s' : σ} (hp : runOn h p s = (.error e, s')) : runOn h (p >>= f) s = (.error e, s') := by
  rw [runOn_bind, hp]

/-- What a program that goes on asks, where its first part succeeds. -/
theorem askedOn_bind_ok {p : ExceptT ε (Program I) α} {f : α → ExceptT ε (Program I) β} {a : α}
    {s' : σ} (hp : runOn h p s = (.ok a, s')) :
    askedOn h (p >>= f) s = askedOn h p s ++ askedOn h (f a) s' := by
  unfold askedOn
  rw [ExceptT.run_bind, Program.bind_eq, Program.asked_bind]
  unfold runOn at hp
  rw [hp]

/-- What a program that goes on asks, where its first part fails: no more than that part. -/
theorem askedOn_bind_error {p : ExceptT ε (Program I) α} {f : α → ExceptT ε (Program I) β} {e : ε}
    {s' : σ} (hp : runOn h p s = (.error e, s')) :
    askedOn h (p >>= f) s = askedOn h p s := by
  unfold askedOn
  rw [ExceptT.run_bind, Program.bind_eq, Program.asked_bind]
  unfold runOn at hp
  rw [hp]
  exact List.append_nil _

variable (h s)

/-- To answer with statuses is to run as before, and to report a failure by its status. -/
theorem runOn_of (p : Attempt I α) :
    runOn h (Answering.of p) s =
      ((runOn h p s).1.mapError DriverError.status, (runOn h p s).2) := by
  unfold runOn Answering.of
  refine (Program.run_bind h p.run _ s).trans ?_
  rcases Program.run h p.run s with ⟨x, s'⟩
  cases x <;> rfl

/-- Answering with statuses asks the same. -/
theorem askedOn_of (p : Attempt I α) : askedOn h (Answering.of p) s = askedOn h p s := by
  unfold askedOn Answering.of
  refine (Program.asked_bind h p.run _ s).trans ?_
  rcases Program.run h p.run s with ⟨x, s'⟩
  cases x <;> exact List.append_nil _

/-- A program with a way out for what is missing runs as before, and then takes it if something
was. -/
theorem runOn_orMissing (p q : Attempt I α) :
    runOn h (p.orMissing q) s = match runOn h p s with
      | (.error (.notFound _ _), s') => runOn h q s'
      | (.ok a, s') => (.ok a, s')
      | (.error e, s') => (.error e, s') := by
  unfold runOn Attempt.orMissing
  refine (Program.run_bind h p.run _ s).trans ?_
  rcases Program.run h p.run s with ⟨x, s'⟩
  cases x with
  | ok a => rfl
  | error e => cases e <;> rfl

/-- Changing the value of a success changes nothing else. -/
theorem runOn_andReturn (p : ExceptT ε (Program I) α) (g : α → β) :
    runOn h (p >>= fun a => pure (g a)) s = ((runOn h p s).1.map g, (runOn h p s).2) := by
  rw [runOn_bind]
  rcases runOn h p s with ⟨x, s'⟩
  cases x <;> rfl

theorem askedOn_andReturn (p : ExceptT ε (Program I) α) (g : α → β) :
    askedOn h (p >>= fun a => pure (g a)) s = askedOn h p s := by
  rcases hp : runOn h p s with ⟨x, s'⟩
  cases x with
  | error e => exact askedOn_bind_error hp
  | ok a => exact (askedOn_bind_ok hp).trans (List.append_nil _)

end Runs

/-! ### Conversations -/

/-- A request with the answer to it. -/
structure Exchange (I : Interface) where
  request : I.Request
  answer : I.Answer request

/-- `Conversation p t a` says that `p`, asked the requests of `t` in order and given the answers of
`t`, ends in `a`. -/
inductive Conversation : Program I α → List (Exchange I) → α → Prop where
  /-- A program that has ended asks nothing. -/
  | done (a : α) : Conversation (.done a) [] a
  /-- Any answer to a request is possible. -/
  | ask {r : I.Request} {next : I.Answer r → Program I α} {t : List (Exchange I)} {a : α}
      (x : I.Answer r) (rest : Conversation (next x) t a) :
      Conversation (.ask r next) (⟨r, x⟩ :: t) a

theorem conversation_done_iff {a b : α} {t : List (Exchange I)} :
    Conversation (.done a) t b ↔ t = [] ∧ b = a := by
  constructor
  · intro h
    cases h
    exact ⟨rfl, rfl⟩
  · rintro ⟨rfl, rfl⟩
    exact .done b

theorem conversation_ask_iff {r : I.Request} {next : I.Answer r → Program I α}
    {t : List (Exchange I)} {a : α} :
    Conversation (.ask r next) t a ↔
      ∃ x rest, t = ⟨r, x⟩ :: rest ∧ Conversation (next x) rest a := by
  constructor
  · intro h
    cases h with
    | ask x hrest => exact ⟨x, _, rfl, hrest⟩
  · rintro ⟨x, rest, rfl, hrest⟩
    exact .ask x hrest

/-- The conversations of a program that goes on are those of its first part, each followed by one of
what the first part ends in. -/
theorem conversation_bind_iff {p : Program I α} {f : α → Program I β} {t : List (Exchange I)}
    {b : β} :
    Conversation (p.bind f) t b ↔
      ∃ t₁ t₂ a, t = t₁ ++ t₂ ∧ Conversation p t₁ a ∧ Conversation (f a) t₂ b := by
  induction p generalizing t with
  | done a =>
    constructor
    · intro h
      exact ⟨[], t, a, rfl, .done a, h⟩
    · rintro ⟨t₁, t₂, a', rfl, hp, hf⟩
      obtain ⟨rfl, rfl⟩ := conversation_done_iff.1 hp
      exact hf
  | ask r next ih =>
    rw [Program.ask_bind, conversation_ask_iff]
    constructor
    · rintro ⟨x, rest, rfl, hrest⟩
      obtain ⟨t₁, t₂, a, rfl, hp, hf⟩ := (ih x).1 hrest
      exact ⟨⟨r, x⟩ :: t₁, t₂, a, rfl, .ask x hp, hf⟩
    · rintro ⟨t₁, t₂, a, rfl, hp, hf⟩
      obtain ⟨x, rest, rfl, hrest⟩ := conversation_ask_iff.1 hp
      exact ⟨x, rest ++ t₂, rfl, (ih x).2 ⟨rest, t₂, a, rfl, hrest, hf⟩⟩

/-- A program that may fail goes on only where it has not: its conversations are the failed ones of
its first part, and the others with what follows. -/
theorem conversation_andThen_iff {p : ExceptT ε (Program I) α} {f : α → ExceptT ε (Program I) β}
    {t : List (Exchange I)} {b : Except ε β} :
    Conversation (p >>= f).run t b ↔
      (∃ e, b = .error e ∧ Conversation p.run t (.error e)) ∨
        ∃ t₁ t₂ a, t = t₁ ++ t₂ ∧ Conversation p.run t₁ (.ok a) ∧ Conversation (f a).run t₂ b := by
  rw [ExceptT.run_bind]
  refine conversation_bind_iff.trans ⟨?_, ?_⟩
  · rintro ⟨t₁, t₂, x, rfl, hp, hf⟩
    cases x with
    | error e =>
      obtain ⟨rfl, rfl⟩ := conversation_done_iff.1 hf
      exact .inl ⟨e, rfl, by rwa [List.append_nil]⟩
    | ok a => exact .inr ⟨t₁, t₂, a, rfl, hp, hf⟩
  · rintro (⟨e, rfl, hp⟩ | ⟨t₁, t₂, a, rfl, hp, hf⟩)
    · exact ⟨t, [], .error e, (List.append_nil t).symm, hp, .done _⟩
    · exact ⟨t₁, t₂, .ok a, rfl, hp, hf⟩

/-- The conversations in which a program of two parts succeeds. -/
theorem conversation_ok_iff {p : ExceptT ε (Program I) α} {f : α → ExceptT ε (Program I) β}
    {t : List (Exchange I)} {b : β} :
    Conversation (p >>= f).run t (.ok b) ↔
      ∃ t₁ t₂ a, t = t₁ ++ t₂ ∧ Conversation p.run t₁ (.ok a) ∧
        Conversation (f a).run t₂ (.ok b) := by
  rw [conversation_andThen_iff]
  constructor
  · rintro (⟨e, heq, -⟩ | h)
    · cases heq
    · exact h
  · exact .inr

/-- A result that is known asks nothing. -/
theorem conversation_ofExcept_iff {x b : Except DriverError α} {t : List (Exchange I)} :
    Conversation (Attempt.ofExcept x : Attempt I α).run t b ↔ t = [] ∧ b = x :=
  conversation_done_iff

theorem conversation_pure_iff {a : α} {b : Except ε α} {t : List (Exchange I)} :
    Conversation (pure a : ExceptT ε (Program I) α).run t b ↔ t = [] ∧ b = .ok a :=
  conversation_done_iff

/-- Where a value may be missing, success means that it is there. -/
theorem conversation_orFail_ok_iff {e : DriverError} {found : Option α} {a : α}
    {t : List (Exchange I)} :
    Conversation (Attempt.orFail e found : Attempt I α).run t (.ok a) ↔
      t = [] ∧ found = some a := by
  cases found with
  | none =>
    refine conversation_done_iff.trans ?_
    simp
  | some a' =>
    refine conversation_done_iff.trans ?_
    simp [eq_comm]

/-- From a result that is known a program goes on with its value, or ends with its failure. -/
theorem conversation_ofExceptThen_iff {x : Except DriverError α} {f : α → Attempt I β}
    {t : List (Exchange I)} {b : Except DriverError β} :
    Conversation (Attempt.ofExcept x >>= f).run t b ↔
      (∃ e, x = .error e ∧ t = [] ∧ b = .error e) ∨
        ∃ a, x = .ok a ∧ Conversation (f a).run t b := by
  cases x with
  | error e =>
    refine conversation_done_iff.trans ?_
    simp
  | ok a =>
    simp only [reduceCtorEq, false_and, exists_false, Except.ok.injEq, exists_eq_left', false_or]
    exact Iff.rfl

/-- Changing the value of a success keeps the conversations. -/
theorem conversation_andReturn_iff {p : ExceptT ε (Program I) α} {g : α → β}
    {t : List (Exchange I)} {b : Except ε β} :
    Conversation (p >>= fun a => pure (g a) : ExceptT ε (Program I) β).run t b ↔
      ∃ x, Conversation p.run t x ∧ b = x.map g := by
  refine conversation_andThen_iff.trans ⟨?_, ?_⟩
  · rintro (⟨e, rfl, hp⟩ | ⟨t₁, t₂, a, rfl, hp, hlast⟩)
    · exact ⟨.error e, hp, rfl⟩
    · obtain ⟨rfl, rfl⟩ := conversation_pure_iff.1 hlast
      exact ⟨.ok a, by rwa [List.append_nil], rfl⟩
  · rintro ⟨x, hp, rfl⟩
    cases x with
    | error e => exact .inl ⟨e, rfl, hp⟩
    | ok a =>
      exact .inr ⟨t, [], a, (List.append_nil t).symm, hp, conversation_pure_iff.2 ⟨rfl, rfl⟩⟩

/-- Answering with statuses keeps the conversations. -/
theorem conversation_of_iff {p : Attempt I α} {t : List (Exchange I)} {b : Except Status α} :
    Conversation (Answering.of p).run t b ↔
      ∃ x, Conversation p.run t x ∧ b = x.mapError DriverError.status := by
  refine conversation_bind_iff.trans ⟨?_, ?_⟩
  · rintro ⟨t₁, t₂, x, rfl, hp, hlast⟩
    rw [← List.append_nil t₁] at hp
    cases x with
    | error e =>
      obtain ⟨rfl, rfl⟩ := conversation_done_iff.1 hlast
      exact ⟨.error e, hp, rfl⟩
    | ok a =>
      obtain ⟨rfl, rfl⟩ := conversation_done_iff.1 hlast
      exact ⟨.ok a, hp, rfl⟩
  · rintro ⟨x, hp, rfl⟩
    refine ⟨t, [], x, (List.append_nil t).symm, hp, ?_⟩
    cases x with
    | error e => exact .done _
    | ok a => exact .done _

/-- Where a missing object is made up for, success is that of the first part, or that of the second
after the first has missed an object. -/
theorem conversation_orMissing_ok_iff {p f : Attempt I α} {t : List (Exchange I)} {a : α} :
    Conversation (p.orMissing f).run t (.ok a) ↔
      Conversation p.run t (.ok a) ∨ ∃ t₁ t₂ kind name, t = t₁ ++ t₂ ∧
        Conversation p.run t₁ (.error (.notFound kind name)) ∧ Conversation f.run t₂ (.ok a) := by
  refine conversation_bind_iff.trans ⟨?_, ?_⟩
  · rintro ⟨t₁, t₂, x, rfl, hp, hlast⟩
    split at hlast
    · exact .inr ⟨t₁, t₂, _, _, rfl, hp, hlast⟩
    · obtain ⟨rfl, rfl⟩ := conversation_done_iff.1 hlast
      exact .inl (by rwa [List.append_nil])
  · rintro (hp | ⟨t₁, t₂, kind, name, rfl, hp, hf⟩)
    · exact ⟨t, [], .ok a, (List.append_nil t).symm, hp, .done _⟩
    · exact ⟨t₁, t₂, .error (.notFound kind name), rfl, hp, hf⟩

/-- A request is replaced by what comes to its answer, and the program goes on. -/
theorem Conversation.expand_ask {J : Interface} {f : (r : I.Request) → Program J (I.Answer r)}
    {r : I.Request} {next : I.Answer r → Program I α} {t₁ t₂ : List (Exchange J)} {x : I.Answer r}
    {a : α} (hfirst : Conversation (f r) t₁ x) (hrest : Conversation ((next x).expand f) t₂ a) :
    Conversation ((Program.ask r next).expand f) (t₁ ++ t₂) a :=
  conversation_bind_iff.2 ⟨t₁, t₂, x, rfl, hfirst, hrest⟩

/-- Where the requests of a program are replaced, its conversations are those of the program with
the answers that the replacements come to, each in a part of the whole. -/
theorem exists_conversation_of_expand {J : Interface} {f : (r : I.Request) → Program J (I.Answer r)}
    {p : Program I α} {t : List (Exchange J)} {a : α} (h : Conversation (p.expand f) t a) :
    ∃ t', Conversation p t' a ∧
      ∀ e ∈ t', ∃ part, part <:+: t ∧ Conversation (f e.request) part e.answer := by
  induction p generalizing t with
  | done b =>
    obtain ⟨-, rfl⟩ := conversation_done_iff.1 h
    exact ⟨[], .done a, fun e he => absurd he List.not_mem_nil⟩
  | ask r next ih =>
    obtain ⟨t₁, t₂, x, rfl, hfirst, hrest⟩ := conversation_bind_iff.1 h
    obtain ⟨t', hconv, hparts⟩ := ih x hrest
    refine ⟨⟨r, x⟩ :: t', .ask x hconv, fun e he => ?_⟩
    rcases List.mem_cons.1 he with rfl | he
    · exact ⟨t₁, (List.prefix_append t₁ t₂).isInfix, hfirst⟩
    · obtain ⟨part, hpart, hc⟩ := hparts e he
      exact ⟨part, hpart.trans (List.suffix_append t₁ t₂).isInfix, hc⟩

/-- Every run is a conversation about the requests it asks. -/
theorem exists_conversation (h : Handler I σ) (p : Program I α) (s : σ) :
    ∃ t, t.map (·.request) = p.asked h s ∧ Conversation p t (p.run h s).1 := by
  induction p generalizing s with
  | done a => exact ⟨[], rfl, .done a⟩
  | ask r next ih =>
    obtain ⟨t, ht, hc⟩ := ih (h r s).1 (h r s).2
    exact ⟨⟨r, (h r s).1⟩ :: t, by rw [List.map_cons, ht, Program.asked_ask], .ask _ hc⟩

/-- What a program ends in when it is given the answers of `t`, whose rest it leaves; nothing where
it asks something else, or more. -/
def Program.follow [DecidableEq I.Request] : Program I α → List (Exchange I) → Option α
  | .done a, _ => some a
  | .ask _ _, [] => none
  | .ask r next, ⟨q, x⟩ :: t => if h : q = r then (next (h ▸ x)).follow t else none

/-- To follow a conversation is to end as it does. -/
theorem Conversation.follow_append [DecidableEq I.Request] {p : Program I α}
    {t : List (Exchange I)} {a : α} (h : Conversation p t a) (later : List (Exchange I)) :
    p.follow (t ++ later) = some a := by
  induction h with
  | done a => rw [List.nil_append, Program.follow.eq_def]
  | ask x _ ih =>
    rw [List.cons_append, Program.follow, dif_pos rfl]
    exact ih

/-! ### What a program may ask -/

/-- `AsksOnly M p` says that every request that `p` may come to ask satisfies `M`. -/
inductive AsksOnly (M : I.Request → Prop) : Program I α → Prop where
  /-- A program that has ended asks nothing. -/
  | done (a : α) : AsksOnly M (.done a)
  /-- What is asked after any answer counts too. -/
  | ask {r : I.Request} {next : I.Answer r → Program I α} (hr : M r)
      (rest : ∀ x, AsksOnly M (next x)) : AsksOnly M (.ask r next)

namespace AsksOnly

variable {M : I.Request → Prop}

theorem mono {M' : I.Request → Prop} {p : Program I α} (hp : AsksOnly M p)
    (hM : ∀ r, M r → M' r) : AsksOnly M' p := by
  induction hp with
  | done a => exact .done a
  | ask hr _ ih => exact .ask (hM _ hr) ih

theorem bind {p : Program I α} (hp : AsksOnly M p) {f : α → Program I β}
    (hf : ∀ a, AsksOnly M (f a)) : AsksOnly M (p.bind f) := by
  induction hp with
  | done a => exact hf a
  | ask hr _ ih => exact .ask hr ih

theorem pure (a : α) : AsksOnly M (pure a : ExceptT ε (Program I) α).run :=
  .done (Except.ok a)

theorem ofExcept (x : Except DriverError α) :
    AsksOnly M (Attempt.ofExcept x : Attempt I α).run :=
  .done x

theorem fail (e : DriverError) : AsksOnly M (Attempt.fail e : Attempt I α).run :=
  .done (Except.error e)

theorem refuse (status : Status) : AsksOnly M (Answering.refuse status : Answering I α).run :=
  .done (Except.error status)

/-- Answering with statuses asks the same. -/
theorem of {p : Attempt I α} (hp : AsksOnly M p.run) : AsksOnly M (Answering.of p).run := by
  refine bind hp fun x => ?_
  cases x with
  | error e => exact .done _
  | ok a => exact .done _

/-- A program that may fail goes on to anything that asks only such requests. -/
theorem andThen {p : ExceptT ε (Program I) α} (hp : AsksOnly M p.run)
    {f : α → ExceptT ε (Program I) β} (hf : ∀ a, AsksOnly M (f a).run) :
    AsksOnly M (p >>= f).run := by
  rw [ExceptT.run_bind]
  refine bind hp fun x => ?_
  cases x with
  | error e => exact .done _
  | ok a => exact hf a

/-- Every request of a conversation is one that the program may ask. -/
theorem of_mem {p : Program I α} (hp : AsksOnly M p) {t : List (Exchange I)} {a : α}
    (ht : Conversation p t a) {e : Exchange I} (he : e ∈ t) : M e.request := by
  induction hp generalizing t with
  | done b =>
    obtain ⟨rfl, -⟩ := conversation_done_iff.1 ht
    exact absurd he List.not_mem_nil
  | ask hr _ ih =>
    obtain ⟨x, rest, rfl, hrest⟩ := conversation_ask_iff.1 ht
    rcases List.mem_cons.1 he with rfl | he
    · exact hr
    · exact ih x hrest he

end AsksOnly

end Hotplug
