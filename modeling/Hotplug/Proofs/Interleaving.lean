import Hotplug.Proofs.Program

/-!
# Programs side by side

Several programs share one state. Each request is answered at once, from the state that the requests
before it left, but between two requests of one program any of the others may get its turn. Besides,
the state may be moved by requests of parties that are no programs of ours.

What a program achieves among others is proved for it alone: it is enough that it copes with every
move that others may make, and that it makes no other moves itself.

## Main definitions

* `Answered h s t s'` — the exchanges of `t` lead from the state `s` to `s'`.
* `Interleaves h others ps s t ps' s'` — some turns of the labelled programs `ps`, and requests of
  others among them.
* `takeTurns h schedule ps s` — the interleaving in which turns are taken by a schedule.
* `Achieves h R Q p s` — wherever moves of `R` lead between its requests, `p` ends with `Q`.
* `Heeds h R G Q p s` — and it asks only what `G` lets it ask at that time.

## Main results

* `Interleaves.answered`, `Interleaves.of_mem` — what is said in an interleaving.
* `Interleaves.label_mem` — every program keeps its label.
* `Interleaves.conversation_of_done` — what a program that has ended has said is among it.
* `Achieves.bind`, `Achieves.andThen` — what a program achieves in two parts.
* `Interleaves.achieves` — **what a program achieves alone among moves of others, it achieves in
  every interleaving.**
-/

namespace Hotplug

variable {I : Interface} {α β ε ι : Type} {σ : Type}

/-! ### Exchanges in a row -/

/-- `Answered h s t s'` says that `t` are exchanges one after the other from the state `s` on, and
that they lead to `s'`. -/
inductive Answered (h : Handler I σ) : σ → List (Exchange I) → σ → Prop where
  | nil (s : σ) : Answered h s [] s
  | cons {r : I.Request} {s s' : σ} {t : List (Exchange I)} (rest : Answered h (h r s).2 t s') :
      Answered h s (⟨r, (h r s).1⟩ :: t) s'

/-- What every exchange keeps, exchanges in a row keep. -/
theorem Answered.induction {h : Handler I σ} {P : σ → Prop} {s s' : σ} {t : List (Exchange I)}
    (ht : Answered h s t s') (hstep : ∀ e ∈ t, ∀ s, P s → P (h e.request s).2) (hs : P s) :
    P s' := by
  induction ht with
  | nil => exact hs
  | @cons r s s' t rest ih =>
    have hfirst : P (h r s).2 := hstep _ List.mem_cons_self s hs
    exact ih (fun e he => hstep e (List.mem_cons_of_mem _ he)) hfirst

/-! ### Interleavings -/

/-- `Interleaves h others ps s t ps' s'` says that from the state `s` on some of the programs `ps`
had their requests answered, in any order, and that others asked requests in between. The exchanges
were `t`, and led to the state `s'`, where `ps'` is left of the programs. Each program has a label,
which it keeps. -/
inductive Interleaves (h : Handler I σ) (others : I.Request → Prop) :
    List (ι × Program I α) → σ → List (Exchange I) → List (ι × Program I α) → σ → Prop where
  /-- Here it ends, whether or not there is more to ask. -/
  | stop (ps : List (ι × Program I α)) (s : σ) : Interleaves h others ps s [] ps s
  /-- One of the programs has its turn. -/
  | turn {front back ps' : List (ι × Program I α)} {i : ι} {r : I.Request}
      {next : I.Answer r → Program I α} {s s' : σ} {t : List (Exchange I)}
      (rest : Interleaves h others (front ++ (i, next (h r s).1) :: back) (h r s).2 t ps' s') :
      Interleaves h others (front ++ (i, .ask r next) :: back) s (⟨r, (h r s).1⟩ :: t) ps' s'
  /-- Somebody else has a request. -/
  | other {ps ps' : List (ι × Program I α)} {r : I.Request} {s s' : σ} {t : List (Exchange I)}
      (hr : others r) (rest : Interleaves h others ps (h r s).2 t ps' s') :
      Interleaves h others ps s (⟨r, (h r s).1⟩ :: t) ps' s'

namespace Interleaves

variable {h : Handler I σ} {others M : I.Request → Prop} {ps ps' : List (ι × Program I α)}
  {s s' : σ} {t : List (Exchange I)}

/-- Each exchange moves the shared state. -/
theorem answered (hrun : Interleaves h others ps s t ps' s') : Answered h s t s' := by
  induction hrun with
  | stop ps s => exact .nil s
  | turn _ ih => exact .cons ih
  | other _ _ ih => exact .cons ih

/-- Every program that is left has the label of one that was there. -/
theorem label_mem (hrun : Interleaves h others ps s t ps' s') {x : ι × Program I α}
    (hx : x ∈ ps') : ∃ p, (x.1, p) ∈ ps := by
  induction hrun with
  | stop ps s => exact ⟨x.2, hx⟩
  | @turn front back ps' i r next _ _ _ _ ih =>
    obtain ⟨p, hp⟩ := ih hx
    rcases List.mem_append.1 hp with hfront | hback
    · exact ⟨p, List.mem_append_left _ hfront⟩
    · rcases List.mem_cons.1 hback with heq | hback
      · obtain ⟨hlabel, -⟩ := Prod.mk.inj heq
        exact ⟨.ask r next, List.mem_append_right _ (by rw [hlabel]; exact List.mem_cons_self)⟩
      · exact ⟨p, List.mem_append_right _ (List.mem_cons_of_mem _ hback)⟩
  | other _ _ ih => exact ih hx

/-- In a pool in which one program has had its turn, what all programs satisfied they still do, if
that one does. -/
theorem forall_turn {P P' : ι × Program I α → Prop} {front back : List (ι × Program I α)}
    {x x' : ι × Program I α} (hall : ∀ y ∈ front ++ x :: back, P y) (hmono : ∀ y, P y → P' y)
    (hx : P x → P' x') : ∀ y ∈ front ++ x' :: back, P' y := by
  intro y hy
  rcases List.mem_append.1 hy with hfront | hback
  · exact hmono y (hall y (List.mem_append_left _ hfront))
  · rcases List.mem_cons.1 hback with rfl | hback
    · exact hx (hall x (List.mem_append_right _ List.mem_cons_self))
    · exact hmono y (hall y (List.mem_append_right _ (List.mem_cons_of_mem _ hback)))

/-- Every request is one that a program or somebody else may ask. -/
theorem of_mem (hrun : Interleaves h others ps s t ps' s') (hothers : ∀ r, others r → M r)
    (hps : ∀ x ∈ ps, AsksOnly M x.2) {e : Exchange I} (he : e ∈ t) : M e.request := by
  induction hrun with
  | stop => exact absurd he List.not_mem_nil
  | @turn front back _ i r next s _ _ _ ih =>
    have hasks := hps _ (List.mem_append_right front List.mem_cons_self)
    rcases List.mem_cons.1 he with rfl | he
    · cases hasks with
      | ask hr _ => exact hr
    · refine ih (forall_turn hps (fun _ h => h) fun hx => ?_) he
      cases hx with
      | ask _ hrest => exact hrest _
  | other hr _ ih =>
    rcases List.mem_cons.1 he with rfl | he
    · exact hothers _ hr
    · exact ih hps he

/-- An interleaving goes on with another from where it ended. -/
theorem append {ps'' : List (ι × Program I α)} {s'' : σ} {t' : List (Exchange I)}
    (hrun : Interleaves h others ps s t ps' s') (hrest : Interleaves h others ps' s' t' ps'' s'') :
    Interleaves h others ps s (t ++ t') ps'' s'' := by
  induction hrun with
  | stop => exact hrest
  | turn _ ih => exact .turn (ih hrest)
  | other hr _ ih => exact .other hr (ih hrest)

/-- What a program that is left goes on to say is the rest of a conversation, whose beginning is
among the exchanges. -/
theorem conversation_append (hrun : Interleaves h others ps s t ps' s') {i : ι}
    {q : Program I α} {later : List (Exchange I)} {a : α} (hq : (i, q) ∈ ps')
    (hlater : Conversation q later a) :
    ∃ p own, (i, p) ∈ ps ∧ own.Sublist t ∧ Conversation p (own ++ later) a := by
  induction hrun with
  | stop ps s => exact ⟨q, [], hq, .refl _, hlater⟩
  | @turn front back ps' j r next s _ t _ ih =>
    obtain ⟨p, own, hp, hown, htalk⟩ := ih hq
    rcases List.mem_append.1 hp with hfront | hback
    · exact ⟨p, own, List.mem_append_left _ hfront, hown.cons _, htalk⟩
    · rcases List.mem_cons.1 hback with heq | hback
      · -- The program that had its turn has said one exchange more.
        obtain ⟨hlabel, hnext⟩ := Prod.mk.inj heq
        rw [hnext] at htalk
        refine ⟨.ask r next, ⟨r, (h r s).1⟩ :: own, ?_, hown.cons_cons _, .ask _ htalk⟩
        rw [hlabel]
        exact List.mem_append_right _ List.mem_cons_self
      · exact ⟨p, own, List.mem_append_right _ (List.mem_cons_of_mem _ hback), hown.cons _, htalk⟩
  | other _ _ ih =>
    obtain ⟨p, own, hp, hown, htalk⟩ := ih hq
    exact ⟨p, own, hp, hown.cons _, htalk⟩

/-- A program that has ended has held a conversation, which is among the exchanges. -/
theorem conversation_of_done (hrun : Interleaves h others ps s t ps' s') {i : ι} {a : α}
    (hdone : (i, .done a) ∈ ps') :
    ∃ p own, (i, p) ∈ ps ∧ own.Sublist t ∧ Conversation p own a := by
  obtain ⟨p, own, hp, hown, htalk⟩ := hrun.conversation_append hdone (.done a)
  rw [List.append_nil] at htalk
  exact ⟨p, own, hp, hown, htalk⟩

end Interleaves

/-! ### Schedules -/

/-- Gives the program at a place of the list its turn, if there is one that has not ended. -/
def takeTurn (h : Handler I σ) :
    Nat → List (ι × Program I α) → σ → List (ι × Program I α) × σ
  | _, [], s => ([], s)
  | 0, (i, .done a) :: ps, s => ((i, .done a) :: ps, s)
  | 0, (i, .ask r next) :: ps, s => ((i, next (h r s).1) :: ps, (h r s).2)
  | k + 1, x :: ps, s =>
    let (ps', s') := takeTurn h k ps s
    (x :: ps', s')

/-- Gives turns by a schedule, which says whose turn is next. -/
def takeTurns (h : Handler I σ) (schedule : List Nat) (ps : List (ι × Program I α)) (s : σ) :
    List (ι × Program I α) × σ :=
  schedule.foldl (fun (ps, s) k => takeTurn h k ps s) (ps, s)

section Schedules

variable (h : Handler I σ) (others : I.Request → Prop)

theorem interleaves_takeTurn (k : Nat) (front ps : List (ι × Program I α)) (s : σ) :
    ∃ t, Interleaves h others (front ++ ps) s t (front ++ (takeTurn h k ps s).1)
      (takeTurn h k ps s).2 := by
  induction ps generalizing k front with
  | nil =>
    rw [takeTurn]
    exact ⟨[], .stop _ s⟩
  | cons x ps ih =>
    cases k with
    | zero =>
      obtain ⟨i, p⟩ := x
      cases p with
      | done a => exact ⟨[], .stop _ s⟩
      | ask r next => exact ⟨_, .turn (.stop _ _)⟩
    | succ k =>
      obtain ⟨t, hrest⟩ := ih k (front ++ [x])
      rw [List.append_assoc, List.append_assoc] at hrest
      rw [takeTurn]
      exact ⟨t, hrest⟩

/-- To give turns by a schedule is to interleave. -/
theorem interleaves_takeTurns (schedule : List Nat) (ps : List (ι × Program I α)) (s : σ) :
    ∃ t, Interleaves h others ps s t (takeTurns h schedule ps s).1
      (takeTurns h schedule ps s).2 := by
  induction schedule generalizing ps s with
  | nil => exact ⟨[], .stop ps s⟩
  | cons k schedule ih =>
    obtain ⟨t, hfirst⟩ := interleaves_takeTurn h others k [] ps s
    obtain ⟨t', hrest⟩ := ih (takeTurn h k ps s).1 (takeTurn h k ps s).2
    exact ⟨t ++ t', hfirst.append hrest⟩

end Schedules

/-! ### What a program achieves among others -/

/-- `Achieves h R Q p s` says that `p`, which goes on from the state `s`, ends with `Q`, whatever
moves of `R` others make before each of its requests and after the last. -/
def Achieves (h : Handler I σ) (R : σ → σ → Prop) (Q : α → σ → Prop) : Program I α → σ → Prop
  | .done a, s => ∀ s', R s s' → Q a s'
  | .ask r next, s => ∀ s', R s s' → Achieves h R Q (next (h r s').1) (h r s').2

section Achieves

variable {h : Handler I σ} {R : σ → σ → Prop} {Q Q' : α → σ → Prop}

/-- Moves of others do no harm. -/
theorem Achieves.move (htrans : ∀ a b c, R a b → R b c → R a c) {p : Program I α} {s s' : σ}
    (hp : Achieves h R Q p s) (hs : R s s') : Achieves h R Q p s' := by
  cases p with
  | done a => exact fun s'' hs' => hp s'' (htrans _ _ _ hs hs')
  | ask r next => exact fun s'' hs' => hp s'' (htrans _ _ _ hs hs')

theorem Achieves.mono {p : Program I α} {s : σ} (hp : Achieves h R Q p s)
    (hQ : ∀ a s, Q a s → Q' a s) : Achieves h R Q' p s := by
  induction p generalizing s with
  | done a => exact fun s' hs => hQ a s' (hp s' hs)
  | ask r next ih => exact fun s' hs => ih _ (hp s' hs)

/-- Where nothing is demanded of the end, every program achieves it. -/
theorem Achieves.trivial (p : Program I α) (s : σ) : Achieves h R (fun _ _ => True) p s := by
  induction p generalizing s with
  | done a => exact fun _ _ => True.intro
  | ask r next ih => exact fun s' _ => ih _ _

/-- What follows a program goes on from what that has achieved. -/
theorem Achieves.bind (hrefl : ∀ s, R s s) {Q' : β → σ → Prop} {p : Program I α} {s : σ}
    {f : α → Program I β} (hp : Achieves h R Q p s)
    (hf : ∀ a s, Q a s → Achieves h R Q' (f a) s) : Achieves h R Q' (p.bind f) s := by
  induction p generalizing s with
  | done a => exact hf a s (hp s (hrefl s))
  | ask r next ih => exact fun s' hs => ih _ (hp s' hs)

/-- For a program that may fail what follows need only be looked at where it has not failed. -/
theorem Achieves.andThen (hrefl : ∀ s, R s s) {Q : Except ε α → σ → Prop}
    {Q' : Except ε β → σ → Prop} {p : ExceptT ε (Program I) α} {s : σ}
    {f : α → ExceptT ε (Program I) β} (hp : Achieves h R Q p.run s)
    (hf : ∀ a s, Q (.ok a) s → Achieves h R Q' (f a).run s)
    (hfailed : ∀ e s, Q' (.error e) s) : Achieves h R Q' (p >>= f).run s := by
  rw [ExceptT.run_bind]
  refine hp.bind hrefl fun x s hx => ?_
  cases x with
  | error e => exact fun s' _ => hfailed e s'
  | ok a => exact hf a s hx

/-- **What a program achieves alone among moves of others, it achieves in every interleaving**, if
all requests that are asked make no other moves. -/
theorem Interleaves.achieves {others M : I.Request → Prop} {Q : ι → α → σ → Prop}
    {ps ps' : List (ι × Program I α)} {s s' : σ} {t : List (Exchange I)}
    (hrun : Interleaves h others ps s t ps' s')
    (htrans : ∀ a b c, R a b → R b c → R a c) (hmoves : ∀ r s, M r → R s (h r s).2)
    (hothers : ∀ r, others r → M r) (hasks : ∀ x ∈ ps, AsksOnly M x.2) (hrefl : ∀ s, R s s)
    (hps : ∀ x ∈ ps, Achieves h R (Q x.1) x.2 s) : ∀ x ∈ ps', Achieves h R (Q x.1) x.2 s' := by
  -- What is left of each program achieves its end from the present state, and asks for moves of `M`
  -- only; a turn of one program is a move of others for the rest.
  induction hrun with
  | stop => exact hps
  | @turn front back _ i r next s _ _ _ ih =>
    have hr : M r := by
      cases hasks _ (List.mem_append_right front List.mem_cons_self) with
      | ask hr _ => exact hr
    refine ih (forall_turn hasks (fun _ h => h) fun hx => ?_)
      (forall_turn hps (fun _ hy => hy.move htrans (hmoves r s hr)) fun hx => hx s (hrefl s))
    cases hx with
    | ask _ hrest => exact hrest _
  | @other _ _ r s _ _ hr _ ih =>
    exact ih hasks fun x hx => (hps x hx).move htrans (hmoves r s (hothers r hr))

end Achieves

/-! ### What a program asks among others -/

/-- `Heeds h R G Q p s` says that `p`, which goes on from the state `s`, asks each of its requests
only in a state in which `G` lets it, and ends with `Q`, whatever moves of `R` others make before
each of its requests and after the last. -/
def Heeds (h : Handler I σ) (R : σ → σ → Prop) (G : I.Request → σ → Prop) (Q : α → σ → Prop) :
    Program I α → σ → Prop
  | .done a, s => ∀ s', R s s' → Q a s'
  | .ask r next, s => ∀ s', R s s' → G r s' ∧ Heeds h R G Q (next (h r s').1) (h r s').2

/-- Moves of others do no harm. -/
theorem Heeds.move {h : Handler I σ} {R : σ → σ → Prop} {G : I.Request → σ → Prop}
    {Q : α → σ → Prop} (htrans : ∀ a b c, R a b → R b c → R a c) {p : Program I α} {s s' : σ}
    (hp : Heeds h R G Q p s) (hs : R s s') : Heeds h R G Q p s' := by
  cases p with
  | done a => exact fun s'' hs' => hp s'' (htrans _ _ _ hs hs')
  | ask r next => exact fun s'' hs' => hp s'' (htrans _ _ _ hs hs')

end Hotplug
