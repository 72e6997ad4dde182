import Hotplug.Proofs.Interleaving
import Mathlib.Data.List.Nodup

/-!
# Programs that mind different parts of a state

Of the state that programs share, each may mind a part of its own: two states in which that part is
alike are the same to it, and its moves leave alone what the others mind. Such programs do not
notice each other. Whatever turns they take, each one ends as it does alone, and the state is the
same in every part.

A part of a state is given by a relation: two states are related if the part is alike in them.

## Main definitions

* `Confined h E O p` — `p` minds no more than the part `E`, and all its moves are moves of `O`.
* `Apart h E ps` — each of the labelled programs `ps` is confined to the part of its label.
* `oneByOne h ps s` — the programs run one after another.

## Main results

* `Confined.run` — a confined program runs the same from all states in which its part is alike.
* `Confined.bind`, `Confined.andThen` and others — how confined programs are put together.
* `Interleaves.alone` — in an interleaving each program goes on to what it comes to alone.
* `interleaves_oneByOne` — to run one after another is to interleave.
* `Interleaves.agree` — **all interleavings of programs that are apart end alike.**
-/

namespace Hotplug

variable {I : Interface} {α β ε ι : Type} {σ : Type}

/-! ### Confined programs -/

/-- `Confined h E O p` says that `p` goes on in the same way after the answers of any two states
that are related by `E`, that its requests keep such states related, and that they make moves of `O`
only. -/
inductive Confined (h : Handler I σ) (E O : σ → σ → Prop) : Program I α → Prop where
  /-- A program that has ended minds nothing. -/
  | done (a : α) : Confined h E O (.done a)
  /-- It is not the answers that have to be equal, but what the program makes of them. -/
  | ask {r : I.Request} {next : I.Answer r → Program I α}
      (answers : ∀ s t, E s t → next (h r s).1 = next (h r t).1)
      (keeps : ∀ s t, E s t → E (h r s).2 (h r t).2) (moves : ∀ s, O s (h r s).2)
      (rest : ∀ s, Confined h E O (next (h r s).1)) : Confined h E O (.ask r next)

namespace Confined

variable {h : Handler I σ} {E O O' : σ → σ → Prop}

/-- **A confined program runs the same from all states in which its part is alike**, and leaves
this part alike. -/
theorem run {p : Program I α} (hp : Confined h E O p) {s t : σ} (hst : E s t) :
    (p.run h s).1 = (p.run h t).1 ∧ E (p.run h s).2 (p.run h t).2 := by
  induction hp generalizing s t with
  | done a => exact ⟨rfl, hst⟩
  | @ask r next answers keeps _ _ ih =>
    have hrest := ih s (keeps s t hst)
    rw [Program.run_ask, Program.run_ask, ← answers s t hst]
    exact hrest

theorem mono {p : Program I α} (hp : Confined h E O p) (hO : ∀ s t, O s t → O' s t) :
    Confined h E O' p := by
  induction hp with
  | done a => exact .done a
  | ask answers keeps moves _ ih => exact .ask answers keeps (fun s => hO _ _ (moves s)) ih

/-- One request with an answer that depends on the part alone. -/
theorem askThen {r : I.Request} (answers : ∀ s t, E s t → (h r s).1 = (h r t).1)
    (keeps : ∀ s t, E s t → E (h r s).2 (h r t).2) (moves : ∀ s, O s (h r s).2)
    {next : I.Answer r → Program I α} (hnext : ∀ x, Confined h E O (next x)) :
    Confined h E O (.ask r next) :=
  .ask (fun s t hst => by rw [answers s t hst]) keeps moves fun _ => hnext _

theorem bind {p : Program I α} (hp : Confined h E O p) {f : α → Program I β}
    (hf : ∀ a, Confined h E O (f a)) : Confined h E O (p.bind f) := by
  induction hp with
  | done a => exact hf a
  | ask answers keeps moves _ ih =>
    exact .ask (fun s t hst => congrArg (·.bind f) (answers s t hst)) keeps moves ih

/-! ### Rules for programs that may fail -/

theorem pure (a : α) : Confined h E O (pure a : ExceptT ε (Program I) α).run :=
  .done (Except.ok a)

theorem fail (e : DriverError) : Confined h E O (Attempt.fail e : Attempt I α).run :=
  .done (Except.error e)

theorem ofExcept (x : Except DriverError α) :
    Confined h E O (Attempt.ofExcept x : Attempt I α).run :=
  .done x

theorem orFail (e : DriverError) (found : Option α) :
    Confined h E O (Attempt.orFail e found : Attempt I α).run := by
  cases found with
  | none => exact .done _
  | some a => exact .done _

theorem refuse (status : Status) :
    Confined h E O (Answering.refuse status : Answering I α).run :=
  .done (Except.error status)

/-- A program that may fail goes on to anything that is confined. -/
theorem andThen {p : ExceptT ε (Program I) α} (hp : Confined h E O p.run)
    {f : α → ExceptT ε (Program I) β} (hf : ∀ a, Confined h E O (f a).run) :
    Confined h E O (p >>= f).run := by
  rw [ExceptT.run_bind]
  refine bind hp fun x => ?_
  cases x with
  | error e => exact .done _
  | ok a => exact hf a

/-- Going on from a result that is known needs to be confined only for the value it has. -/
theorem ofExceptThen {x : Except DriverError α} {f : α → Attempt I β}
    (hf : ∀ a, x = .ok a → Confined h E O (f a).run) :
    Confined h E O (Attempt.ofExcept x >>= f).run := by
  cases x with
  | error e => exact .done _
  | ok a => exact hf a rfl

/-- Answering with statuses minds the same. -/
theorem of {p : Attempt I α} (hp : Confined h E O p.run) :
    Confined h E O (Answering.of p).run := by
  refine bind hp fun x => ?_
  cases x with
  | error e => exact .done _
  | ok a => exact .done _

/-- So does a program with a way out for what is missing, if the way out does. -/
theorem orMissing {p q : Attempt I α} (hp : Confined h E O p.run) (hq : Confined h E O q.run) :
    Confined h E O (p.orMissing q).run := by
  refine bind hp fun x => ?_
  rcases x with e | a
  · cases e with
    | notFound => exact hq
    | _ => exact .done _
  · exact .done _

end Confined

/-! ### Programs that are apart -/

/-- Every program of `ps` is confined to the part of its label, and its moves leave the parts of all
other labels alone. No two programs have the same label. -/
structure Apart (h : Handler I σ) (E : ι → σ → σ → Prop) (ps : List (ι × Program I α)) : Prop where
  distinct : (ps.map Prod.fst).Nodup
  confined : ∀ x ∈ ps, Confined h (E x.1) (fun s s' => ∀ j, j ≠ x.1 → E j s s') x.2

namespace Apart

variable {h : Handler I σ} {E : ι → σ → σ → Prop} {ps ps' : List (ι × Program I α)}

/-- The order does not matter. -/
theorem perm (hps : Apart h E ps) (hperm : ps.Perm ps') : Apart h E ps' where
  distinct := (hperm.map Prod.fst).nodup_iff.1 hps.distinct
  confined x hx := hps.confined x (hperm.mem_iff.2 hx)

/-- A program that has its turn moves no part but its own. -/
theorem turn {front back : List (ι × Program I α)} {i : ι} {r : I.Request}
    {next : I.Answer r → Program I α} (hps : Apart h E (front ++ (i, .ask r next) :: back)) (s : σ) :
    Apart h E (front ++ (i, next (h r s).1) :: back) ∧ ∀ j, j ≠ i → E j s (h r s).2 := by
  have hconfined := hps.confined _ (List.mem_append_right front List.mem_cons_self)
  have hdistinct := hps.distinct
  rw [List.map_append, List.map_cons] at hdistinct
  cases hconfined with
  | ask _ _ moves rest =>
    refine ⟨⟨?_, ?_⟩, moves s⟩
    · rw [List.map_append, List.map_cons]
      exact hdistinct
    · exact Interleaves.forall_turn hps.confined (fun _ hy => hy) fun _ => rest s

/-- The other programs have other labels. -/
theorem label_ne {front back : List (ι × Program I α)} {x y : ι × Program I α}
    (hps : Apart h E (front ++ x :: back)) (hy : y ∈ front ++ back) : y.1 ≠ x.1 := by
  have hdistinct := hps.distinct
  rw [List.map_append, List.map_cons, List.nodup_middle, ← List.map_append] at hdistinct
  intro heq
  rw [← heq] at hdistinct
  exact (List.nodup_cons.1 hdistinct).1 (List.mem_map_of_mem hy)

end Apart

/-! ### Interleavings of programs that are apart -/

namespace Interleaves

variable {h : Handler I σ} {E : ι → σ → σ → Prop} {ps ps' : List (ι × Program I α)} {s s' : σ}
  {t : List (Exchange I)}

/-- **What is left of each program goes on to what the program comes to alone**, and leads to a
state in which its part is as it is then. -/
theorem alone (hrun : Interleaves h (fun _ => False) ps s t ps' s') (hps : Apart h E ps)
    (hequiv : ∀ i, Equivalence (E i)) {x : ι × Program I α} (hx : x ∈ ps') :
    ∃ p, (x.1, p) ∈ ps ∧ (x.2.run h s').1 = (p.run h s).1 ∧
      E x.1 (p.run h s).2 (x.2.run h s').2 := by
  induction hrun with
  | stop ps s => exact ⟨x.2, hx, rfl, (hequiv x.1).refl _⟩
  | @turn front back ps' i r next s s' t _ ih =>
    obtain ⟨hnext, hmoved⟩ := hps.turn s
    obtain ⟨p, hp, hresult, hpart⟩ := ih hnext hx
    rcases List.mem_cons.1 (List.perm_middle.mem_iff.1 hp) with heq | hother
    · obtain ⟨hlabel, rfl⟩ := Prod.mk.inj heq
      refine ⟨.ask r next, ?_, hresult, hpart⟩
      rw [hlabel]
      exact List.mem_append_right _ List.mem_cons_self
    · -- The turn left the part of this program alone, and so it ends as it did before.
      have hmem : (x.1, p) ∈ front ++ (i, .ask r next) :: back :=
        List.perm_middle.mem_iff.2 (List.mem_cons_of_mem _ hother)
      obtain ⟨hsame, hstate⟩ := (hps.confined _ hmem).run (hmoved _ (hps.label_ne hother))
      exact ⟨p, hmem, hresult.trans hsame.symm, (hequiv x.1).trans hstate hpart⟩
  | other hr _ _ => exact hr.elim

/-- The part of a label that no program has stays alike. -/
theorem untouched (hrun : Interleaves h (fun _ => False) ps s t ps' s') (hps : Apart h E ps)
    (hequiv : ∀ i, Equivalence (E i)) {j : ι} (hj : j ∉ ps.map Prod.fst) : E j s s' := by
  induction hrun with
  | stop ps s => exact (hequiv j).refl s
  | @turn front back ps' i r next s s' t _ ih =>
    obtain ⟨hnext, hmoved⟩ := hps.turn s
    have hne : j ≠ i := by
      rintro rfl
      exact hj (List.mem_map_of_mem (List.mem_append_right front List.mem_cons_self))
    rw [List.map_append, List.map_cons] at hj
    refine (hequiv j).trans (hmoved j hne) (ih hnext ?_)
    rwa [List.map_append, List.map_cons]
  | other hr _ _ => exact hr.elim

/-- Every program keeps its place. -/
theorem labels (hrun : Interleaves h (fun _ => False) ps s t ps' s') :
    ps'.map Prod.fst = ps.map Prod.fst := by
  induction hrun with
  | stop => rfl
  | turn _ ih =>
    rw [ih, List.map_append, List.map_append, List.map_cons, List.map_cons]
  | other hr _ _ => exact hr.elim

/-- One program may have all the turns. -/
theorem solo (others : I.Request → Prop) (front back : List (ι × Program I α)) (i : ι)
    (p : Program I α) (s : σ) :
    ∃ t, Interleaves h others (front ++ (i, p) :: back) s t
      (front ++ (i, .done (p.run h s).1) :: back) (p.run h s).2 := by
  induction p generalizing s with
  | done a => exact ⟨[], .stop _ s⟩
  | ask r next ih =>
    obtain ⟨t, hrest⟩ := ih (h r s).1 (h r s).2
    exact ⟨_, .turn hrest⟩

end Interleaves

/-! ### One after another -/

/-- A program that has ended, under its label. -/
def finished (x : ι × α) : ι × Program I α :=
  (x.1, .done x.2)

/-- What labelled programs give that are run one after another, and the state after the last. -/
def oneByOne (h : Handler I σ) : List (ι × Program I α) → σ → List (ι × α) × σ
  | [], s => ([], s)
  | (i, p) :: ps, s =>
    let (rest, s') := oneByOne h ps (p.run h s).2
    ((i, (p.run h s).1) :: rest, s')

/-- To run programs one after another is to interleave them, and to let each have all its turns
before the next. -/
theorem interleaves_oneByOne (h : Handler I σ) (others : I.Request → Prop)
    (ps : List (ι × Program I α)) (s : σ) :
    ∃ t, Interleaves h others ps s t ((oneByOne h ps s).1.map finished) (oneByOne h ps s).2 := by
  -- The programs that have ended are kept in front of the others.
  suffices hall : ∀ (ended : List (ι × α)) (s : σ), ∃ t, Interleaves h others
      (ended.map finished ++ ps) s t ((ended ++ (oneByOne h ps s).1).map finished)
      (oneByOne h ps s).2 from hall [] s
  induction ps with
  | nil =>
    intro ended s
    rw [List.map_append]
    exact ⟨[], .stop _ s⟩
  | cons x ps ih =>
    intro ended s
    obtain ⟨i, p⟩ := x
    obtain ⟨t, hfirst⟩ := Interleaves.solo (h := h) others (ended.map finished) ps i p s
    obtain ⟨t', hrest⟩ := ih (ended ++ [(i, (p.run h s).1)]) (p.run h s).2
    rw [List.map_append, List.append_assoc, List.append_assoc] at hrest
    exact ⟨t ++ t', hfirst.append hrest⟩

section Agreement

variable {h : Handler I σ} {E : ι → σ → σ → Prop} {ps ps' : List (ι × Program I α)} {s s₁ s₂ : σ}
  {t₁ t₂ : List (Exchange I)} {answers₁ answers₂ : List (ι × α)}

/-- A program with a given label ends in one answer only. -/
theorem Interleaves.mem_answers (hequiv : ∀ i, Equivalence (E i)) (hps : Apart h E ps)
    (hperm : ps.Perm ps')
    (hrun₁ : Interleaves h (fun _ => False) ps s t₁ (answers₁.map finished) s₁)
    (hrun₂ : Interleaves h (fun _ => False) ps' s t₂ (answers₂.map finished) s₂)
    {x : ι × α} (hx : x ∈ answers₁) : x ∈ answers₂ ∧ E x.1 s₁ s₂ := by
  obtain ⟨i, a⟩ := x
  obtain ⟨p, hp, ha, hpart⟩ := hrun₁.alone hps hequiv (List.mem_map_of_mem (f := finished) hx)
  -- In the other interleaving the label belongs to the same program.
  have hlabel : i ∈ answers₂.map Prod.fst := by
    have hlabels := hrun₂.labels
    rw [List.map_map] at hlabels
    change i ∈ answers₂.map (Prod.fst ∘ finished (I := I))
    rw [hlabels]
    exact List.mem_map_of_mem (f := Prod.fst) (hperm.mem_iff.1 hp)
  obtain ⟨⟨j, a'⟩, hx', rfl⟩ := List.mem_map.1 hlabel
  obtain ⟨p', hp', ha', hpart'⟩ :=
    hrun₂.alone (hps.perm hperm) hequiv (List.mem_map_of_mem (f := finished) hx')
  have hsame : p = p' :=
    (Prod.mk.inj (List.inj_on_of_nodup_map hps.distinct hp (hperm.mem_iff.2 hp') rfl)).2
  subst hsame
  have hanswer : a = a' := ha.trans ha'.symm
  rw [hanswer]
  exact ⟨hx', (hequiv j).trans ((hequiv j).symm hpart) hpart'⟩

/-- **All interleavings of programs that are apart end alike**: every program gives the same, and
the states in the end are alike in every part. -/
theorem Interleaves.agree (hequiv : ∀ i, Equivalence (E i)) (hps : Apart h E ps)
    (hperm : ps.Perm ps')
    (hrun₁ : Interleaves h (fun _ => False) ps s t₁ (answers₁.map finished) s₁)
    (hrun₂ : Interleaves h (fun _ => False) ps' s t₂ (answers₂.map finished) s₂) :
    answers₁.Perm answers₂ ∧ ∀ i, E i s₁ s₂ := by
  have hnodup : ∀ {qs : List (ι × Program I α)} {t s'} {answers : List (ι × α)},
      (qs.map Prod.fst).Nodup →
        Interleaves h (fun _ => False) qs s t (answers.map finished) s' → answers.Nodup := by
    intro qs t s' answers hdistinct hrun
    rw [← hrun.labels] at hdistinct
    exact hdistinct.of_map.of_map
  have hps' := hps.perm hperm
  refine ⟨?_, fun i => ?_⟩
  · refine (List.perm_ext_iff_of_nodup (hnodup hps.distinct hrun₁) (hnodup hps'.distinct hrun₂)).2
      fun x => ⟨fun hx => ?_, fun hx => ?_⟩
    · exact (mem_answers hequiv hps hperm hrun₁ hrun₂ hx).1
    · exact (mem_answers hequiv hps' hperm.symm hrun₂ hrun₁ hx).1
  · by_cases hi : i ∈ ps.map Prod.fst
    · rw [← hrun₁.labels, List.map_map] at hi
      obtain ⟨x, hx, rfl⟩ := List.mem_map.1 hi
      exact (mem_answers hequiv hps hperm hrun₁ hrun₂ hx).2
    · have hi' : i ∉ ps'.map Prod.fst := fun h => hi ((hperm.map Prod.fst).mem_iff.2 h)
      exact (hequiv i).trans ((hequiv i).symm (hrun₁.untouched hps hequiv hi))
        (hrun₂.untouched hps' hequiv hi')

end Agreement

end Hotplug
