import Hotplug.Proofs.Program

/-!
# Programs that meet failures

Any request may fail where the world would have answered it, and a program may be cut off before its
end. A request that fails does nothing. What is proved here of a program it keeps through any such
failures: at every moment, and in the end if there is one.

## Main definitions

* `Proceeds h bad p s q s'` — with some of its requests answered and others failed, `q` is left of
  the program `p`, and `s'` has become of the state `s`.
* `Endures h bad P Q p s` — as `p` proceeds, `P` holds at every moment, and `Q` in the end.

## Main results

* `proceeds_run`, `proceeds_faulty` — runs, with failures put in their way or without, are such
  proceedings.
* `Endures.bind`, `Endures.andThen` — what a program endures in two parts.
* `Endures.of_proceeds` — **what a program endures holds wherever it has proceeded to.**
-/

namespace Hotplug

variable {I : Interface} {α β ε : Type} {σ : Type}

/-! ### Proceeding -/

/-- `Proceeds h bad p s q s'` says that some of the requests of `p` had their answers, in order, and
that `q` is left of it. An answer was that of the handler, which moved the state, or else one of
`bad`, which did not; this led from the state `s` to `s'`. -/
inductive Proceeds (h : Handler I σ) (bad : (r : I.Request) → I.Answer r → Prop) :
    Program I α → σ → Program I α → σ → Prop where
  /-- Here it stands, whether or not there is more to ask. -/
  | still (p : Program I α) (s : σ) : Proceeds h bad p s p s
  /-- A request is answered. -/
  | answered {r : I.Request} {next : I.Answer r → Program I α} {s s' : σ} {q : Program I α}
      (rest : Proceeds h bad (next (h r s).1) (h r s).2 q s') :
      Proceeds h bad (.ask r next) s q s'
  /-- A request fails. -/
  | failed {r : I.Request} {next : I.Answer r → Program I α} {s s' : σ} {q : Program I α}
      {x : I.Answer r} (hx : bad r x) (rest : Proceeds h bad (next x) s q s') :
      Proceeds h bad (.ask r next) s q s'

variable {h : Handler I σ} {bad : (r : I.Request) → I.Answer r → Prop}

/-- A run without failures proceeds to its end. -/
theorem proceeds_run (h : Handler I σ) (bad : (r : I.Request) → I.Answer r → Prop)
    (p : Program I α) (s : σ) : Proceeds h bad p s (.done (p.run h s).1) (p.run h s).2 := by
  induction p generalizing s with
  | done a => exact .still _ s
  | ask r next ih => exact .answered (ih _ _)

/-- So does a run in whose way failures are put. -/
theorem proceeds_faulty {fail : (r : I.Request) → DriverError → I.Answer r}
    (hfail : ∀ r e, bad r (fail r e)) (p : Program I α) (s : σ) (faults : List (Fault I)) :
    Proceeds h bad p s (.done (p.run (h.faulty fail) (s, faults)).1)
      (p.run (h.faulty fail) (s, faults)).2.1 := by
  induction p generalizing s faults with
  | done a => exact .still _ s
  | ask r next ih =>
    rw [Program.run_ask]
    cases hmeet : Fault.meet r faults with
    | mk met left =>
      cases met with
      | none =>
        have hstep : h.faulty fail r (s, faults) = ((h r s).1, (h r s).2, left) := by
          unfold Handler.faulty
          simp only [hmeet]
        rw [hstep]
        exact .answered (ih _ _ _)
      | some e =>
        have hstep : h.faulty fail r (s, faults) = (fail r e, s, left) := by
          unfold Handler.faulty
          simp only [hmeet]
        rw [hstep]
        exact .failed (hfail r e) (ih _ _ _)

/-! ### Enduring -/

/-- `Endures h bad P Q p s` says that, as `p` proceeds from the state `s`, `P` holds of the state at
every moment, and `Q` of the value and the state in the end. -/
def Endures (h : Handler I σ) (bad : (r : I.Request) → I.Answer r → Prop) (P : σ → Prop)
    (Q : α → σ → Prop) : Program I α → σ → Prop
  | .done a, s => P s ∧ Q a s
  | .ask r next, s =>
    P s ∧ Endures h bad P Q (next (h r s).1) (h r s).2 ∧
      ∀ x, bad r x → Endures h bad P Q (next x) s

namespace Endures

variable {P : σ → Prop} {Q : α → σ → Prop} {p q : Program I α} {s s' : σ}

theorem start (hp : Endures h bad P Q p s) : P s := by
  cases p with
  | done a => exact hp.1
  | ask r next => exact hp.1

/-- **What a program endures holds wherever it has proceeded to.** -/
theorem of_proceeds (hp : Endures h bad P Q p s) (hrun : Proceeds h bad p s q s') :
    Endures h bad P Q q s' := by
  induction hrun with
  | still => exact hp
  | answered _ ih => exact ih hp.2.1
  | failed hx _ ih => exact ih (hp.2.2 _ hx)

theorem mono {P' : σ → Prop} {Q' : α → σ → Prop} (hp : Endures h bad P Q p s)
    (hP : ∀ s, P s → P' s) (hQ : ∀ a s, P s → Q a s → Q' a s) : Endures h bad P' Q' p s := by
  induction p generalizing s with
  | done a => exact ⟨hP s hp.1, hQ a s hp.1 hp.2⟩
  | ask r next ih => exact ⟨hP s hp.1, ih _ hp.2.1, fun x hx => ih x (hp.2.2 x hx)⟩

/-- What a program endures before it goes on. -/
theorem bind {Q' : β → σ → Prop} {f : α → Program I β}
    (hp : Endures h bad P (fun a s => Endures h bad P Q' (f a) s) p s) :
    Endures h bad P Q' (p.bind f) s := by
  induction p generalizing s with
  | done a => exact hp.2
  | ask r next ih => exact ⟨hp.1, ih _ hp.2.1, fun x hx => ih x (hp.2.2 x hx)⟩

/-- What a program endures that may fail before it goes on. -/
theorem andThen {p : ExceptT ε (Program I) α} {f : α → ExceptT ε (Program I) β}
    {Q : Except ε β → σ → Prop}
    (hp : Endures h bad P (fun
      | .ok a, s => Endures h bad P Q (f a).run s
      | .error e, s => Q (.error e) s) p.run s) : Endures h bad P Q (p >>= f).run s := by
  rw [ExceptT.run_bind]
  refine bind (hp.mono (fun _ hs => hs) fun x s hs hx => ?_)
  cases x with
  | ok a => exact hx
  | error e => exact ⟨hs, hx⟩

/-- What a program endures that answers with statuses. -/
theorem of {p : Attempt I α} {Q : Except Status α → σ → Prop}
    (hp : Endures h bad P (fun x s => Q (x.mapError DriverError.status) s) p.run s) :
    Endures h bad P Q (Answering.of p).run s := by
  refine bind (hp.mono (fun _ hs => hs) fun x s hs hx => ?_)
  cases x with
  | ok a => exact ⟨hs, hx⟩
  | error e => exact ⟨hs, hx⟩

end Endures

end Hotplug
