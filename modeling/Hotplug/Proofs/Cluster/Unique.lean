import Hotplug.Proofs.Cluster.Memory
import Hotplug.Proofs.Interleaving

/-!
# A cluster in which names are unique

A cluster that takes the name of a volume only once has at most one volume of a name, whatever it is
asked, and by whom. As long as the name is not deleted, the volume that is found under it is always
the same, and after it was made no other request to make it succeeds.

## Main definitions

* `isNamed ns name v` — the volume has this namespace and name.
* `Keeps ns name s s'` — the volume of a name, if there is one, is still there.
* `makes ns name e` — an exchange in which a volume of the name is made.

## Main results

* `stepUnique_cases` — a step is one of the plain cluster, or is refused because the name is taken.
* `keeps_stepUnique` — only a request to delete a volume takes it away.
* `countP_isNamed_stepUnique` — there is at most one volume of a name.
* `countP_makes_le` — **a volume is made at most once.**
-/

namespace Hotplug.Cluster

open State

variable {s s' : State} {r : Request} {ns name : String}

/-- Whether a volume has this namespace and name. -/
def isNamed (ns name : String) (v : RemoteVolume) : Bool :=
  v.ns == ns && v.name == name

theorem volume?_eq_find? : s.volume? ns name = s.volumes.find? (isNamed ns name) := rfl

theorem volume?_eq_none_iff :
    s.volume? ns name = none ↔ s.volumes.countP (isNamed ns name) = 0 := by
  rw [volume?_eq_find?, List.find?_eq_none, List.countP_eq_zero]

/-! ### One step -/

/-- A step is one of the plain cluster, or it is a request to make a volume whose name is taken,
which fails and changes nothing. -/
theorem stepUnique_cases (r : Request) (s : State) :
    ((∀ ns v, r = .createVolume ns v → s.volume? ns v.name = none) ∧ stepUnique r s = step r s) ∨
      ∃ ns v w e, r = .createVolume ns v ∧ s.volume? ns v.name = some w ∧
        stepUnique r s = (.error e, s) := by
  by_cases hr : ∃ ns v, r = .createVolume ns v
  · obtain ⟨ns, v, rfl⟩ := hr
    cases hfound : s.volume? ns v.name with
    | some w => exact .inr ⟨ns, v, w, _, rfl, hfound, by rw [stepUnique, hfound]⟩
    | none =>
      refine .inl ⟨?_, by rw [stepUnique, hfound]⟩
      intro ns' v' heq
      obtain ⟨rfl, rfl⟩ := Request.createVolume.inj heq
      exact hfound
  · refine .inl ⟨fun ns v heq => absurd ⟨ns, v, heq⟩ hr, ?_⟩
    cases r with
    | createVolume ns v => exact absurd ⟨ns, v, rfl⟩ hr
    | _ => rfl

/-- The volume of a name, if there is one, is still there. -/
def Keeps (ns name : String) (s s' : State) : Prop :=
  ∀ v, s.volume? ns name = some v → s'.volume? ns name = some v

theorem Keeps.refl (s : State) : Keeps ns name s s := fun _ h => h

theorem Keeps.trans (a b c : State) (hab : Keeps ns name a b) (hbc : Keeps ns name b c) :
    Keeps ns name a c := fun v h => hbc v (hab v h)

/-- Only a request to delete a volume takes it away. -/
theorem keeps_stepUnique (r : Request) (s : State) (hr : r ≠ .deleteVolume ns name) :
    Keeps ns name s (stepUnique r s).2 := by
  intro v hv
  rcases stepUnique_cases r s with ⟨-, hstep⟩ | ⟨_, _, _, _, -, -, hstep⟩
  · rw [hstep]
    exact volume?_step hr hv
  · rwa [hstep]

/-- **There is at most one volume of a name.** -/
theorem countP_isNamed_stepUnique (r : Request) (s : State)
    (h : s.volumes.countP (isNamed ns name) ≤ 1) :
    (stepUnique r s).2.volumes.countP (isNamed ns name) ≤ 1 := by
  rcases stepUnique_cases r s with ⟨hfree, hstep⟩ | ⟨_, _, _, _, -, -, hstep⟩
  · rw [hstep]
    have hmoves := moves_step s r
    generalize (step r s).2 = s' at hmoves ⊢
    cases hmoves with
    | createVolume ns' new =>
      rw [List.countP_append, List.countP_singleton]
      split
      · next hnew =>
        -- The new volume has the name, so that it was free.
        rw [isNamed, Bool.and_eq_true, beq_iff_eq, beq_iff_eq] at hnew
        obtain ⟨hns, hname⟩ := hnew
        have hnone := hfree ns' new rfl
        change ns' = ns at hns
        change new.name = name at hname
        rw [hns, hname, volume?_eq_none_iff] at hnone
        omega
      · exact h
    | deleteVolume ns' name' =>
      exact Nat.le_trans (List.Sublist.countP_le List.filter_sublist) h
    | _ => exact h
  · rwa [hstep]

/-! ### Exchanges in a row -/

/-- Whether a volume of this namespace and name is made in an exchange. -/
def makes (ns name : String) (e : Exchange interface) : Bool :=
  match e.request with
  | .createVolume ns' v => ns' == ns && v.name == name && e.answer.isOk
  | _ => false

/-- A volume is made only where there is none of its name, and is there afterwards. -/
theorem volume?_of_makes (h : makes ns name ⟨r, (stepUnique r s).1⟩ = true) :
    s.volume? ns name = none ∧ ((stepUnique r s).2.volume? ns name).isSome = true := by
  unfold makes at h
  cases r with
  | createVolume ns' v =>
    simp only [Bool.and_eq_true, beq_iff_eq] at h
    obtain ⟨⟨rfl, rfl⟩, hok⟩ := h
    cases hfound : s.volume? ns' v.name with
    | some w =>
      rw [stepUnique, hfound] at hok
      cases hok
    | none =>
      refine ⟨rfl, Option.isSome_iff_exists.2 ⟨s.newVolume ns' v, ?_⟩⟩
      rw [stepUnique, hfound]
      exact volume?_append hfound rfl rfl
  | _ => exact absurd h Bool.false_ne_true

/-- **A volume is made at most once** as long as it is not deleted, and never where it exists. -/
theorem countP_makes_le {t : List (Exchange interface)} (ht : Answered stepUnique s t s')
    (hkept : ∀ e ∈ t, e.request ≠ .deleteVolume ns name) :
    t.countP (makes ns name) ≤ if (s.volume? ns name).isSome then 0 else 1 := by
  induction ht with
  | nil => exact Nat.zero_le _
  | @cons r s s' t rest ih =>
    have hrest := ih fun e he => hkept e (List.mem_cons_of_mem _ he)
    have hfirst : Keeps ns name s (stepUnique r s).2 :=
      keeps_stepUnique r s (hkept _ List.mem_cons_self)
    rw [List.countP_cons]
    -- Where the first exchange makes the volume, the later ones find it there.
    cases hmakes : makes ns name ⟨r, (stepUnique r s).1⟩ with
    | true =>
      obtain ⟨hnone, hsome⟩ := volume?_of_makes hmakes
      rw [if_pos hsome] at hrest
      rw [hnone]
      simpa using hrest
    | false =>
      cases hfound : s.volume? ns name with
      | some v =>
        rw [hfirst v hfound] at hrest
        simpa using hrest
      | none =>
        have hle : t.countP (makes ns name) ≤ 1 := by
          refine Nat.le_trans hrest ?_
          split
          · exact Nat.zero_le 1
          · exact Nat.le_refl 1
        simpa using hle

end Hotplug.Cluster
