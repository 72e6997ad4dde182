import Hotplug.Cluster.Memory
import Hotplug.Cluster.Resolve
import Hotplug.Proofs.Policy
import Hotplug.Proofs.Program
import Mathlib.Tactic.Tauto

/-!
# Asking for the default class only where it matters

Whether a storage class is the cluster's default takes a look-up, which may fail. The policy is
applied without it where its verdict is the same either way. That gives what looking always would
give, and it spares a storage class that is allowed anyway the failure of a look-up.

## Main definitions

* `Policy.HangsOnDefault p c` — the verdict on the class `c` is another for the default.
* `Policy.Eases p' p` — whatever `p` lists or sets, `p'` does.
* `enforceEagerly policy c` — the policy applied with a look-up first, whatever it says.

## Main results

* `needsDefaultLookup_iff` — a look-up is thought to be needed exactly where the verdict hangs on
  it.
* `enforceStorageClass_of_needs`, `enforceStorageClass_of_not_needs` — the policy is applied eagerly
  or without a question.
* `accepted_iff` — which classes pass, on any cluster.
* `enforcement_lazy_as_eager` — **to ask only where it matters gives what always asking gives.**
-/

namespace Hotplug

/-! ### Verdicts -/

namespace Policy

variable {p p' : Policy} {storageClass : String}

/-- The verdict on a storage class is one for the cluster's default and another for other classes.
-/
def HangsOnDefault (p : Policy) (storageClass : String) : Prop :=
  p.checkStorageClass storageClass true ≠ p.checkStorageClass storageClass false

theorem isAllowed_iff {isDefault : Bool} :
    p.isAllowed storageClass isDefault = true ↔
      p.allowAll = true ∨ storageClass ∈ p.allowList ∨ (p.allowDefault = true ∧ isDefault = true) := by
  simp [isAllowed, or_assoc]

/-- A look-up is needed where the default alone is allowed. -/
theorem needsDefaultLookup_iff_isAllowed :
    p.needsDefaultLookup storageClass = true ↔
      p.isAllowed storageClass true = true ∧ p.isAllowed storageClass false = false := by
  rw [← Bool.not_eq_true, isAllowed_iff, isAllowed_iff]
  simp only [needsDefaultLookup, Bool.and_eq_true, Bool.not_eq_true', ← Bool.not_eq_true,
    List.contains_iff_mem]
  tauto

/-- **A look-up is thought to be needed exactly where the verdict hangs on it.** -/
theorem needsDefaultLookup_iff :
    p.needsDefaultLookup storageClass = true ↔ p.HangsOnDefault storageClass := by
  rw [needsDefaultLookup_iff_isAllowed, HangsOnDefault]
  cases hyes : p.isAllowed storageClass true with
  | false =>
    -- What the default may not be, no class may.
    have hno : p.isAllowed storageClass false = false := by
      rw [← Bool.not_eq_true, isAllowed_iff] at hyes ⊢
      tauto
    simp [checkStorageClass, hyes, hno]
  | true => cases hno : p.isAllowed storageClass false <;> simp [checkStorageClass, hyes, hno]

/-- A policy eases another if it lists all that the other lists, and sets what the other sets. -/
structure Eases (p' p : Policy) : Prop where
  allowAll : p.allowAll = true → p'.allowAll = true
  allowDefault : p.allowDefault = true → p'.allowDefault = true
  allowList : ∀ name ∈ p.allowList, name ∈ p'.allowList

/-- An eased policy allows no less. -/
theorem Eases.isAllowed (h : p'.Eases p) {isDefault : Bool}
    (hallowed : p.isAllowed storageClass isDefault = true) :
    p'.isAllowed storageClass isDefault = true := by
  rw [isAllowed_iff] at hallowed ⊢
  rcases hallowed with hall | hlisted | ⟨hdefault, his⟩
  · exact .inl (h.allowAll hall)
  · exact .inr (.inl (h.allowList _ hlisted))
  · exact .inr (.inr ⟨h.allowDefault hdefault, his⟩)

end Policy

namespace Cluster

variable {σ : Type} {policy policy' : Policy} {storageClass : String}

/-! ### Eager and lazy -/

/-- The policy applied to a storage class with a look-up first, whatever the policy says. -/
def enforceEagerly (policy : Policy) (storageClass : String) : Attempt interface Unit := do
  let isDefault ← isDefaultStorageClass storageClass
  Attempt.ofExcept (policy.checkStorageClass storageClass isDefault)

/-- Where a look-up is needed, it comes first. -/
theorem enforceStorageClass_of_needs (h : policy.needsDefaultLookup storageClass = true) :
    enforceStorageClass policy storageClass = enforceEagerly policy storageClass := by
  unfold enforceStorageClass enforceEagerly
  rw [if_pos h]

/-- Where none is needed, the verdict is known from the start. -/
theorem enforceStorageClass_of_not_needs (h : policy.needsDefaultLookup storageClass = false)
    (isDefault : Bool) :
    enforceStorageClass policy storageClass =
      Attempt.ofExcept (policy.checkStorageClass storageClass isDefault) := by
  unfold enforceStorageClass
  rw [h, Policy.checkStorageClass_eq_of_not_needs h isDefault false]
  rfl

section Running

variable (h : Handler interface σ) (s : σ)

/-- A name is looked up. -/
theorem isDefaultStorageClass_of_ne (hne : storageClass ≠ "") :
    isDefaultStorageClass storageClass =
      getStorageClass storageClass >>= fun found =>
        pure ((found.map (·.isDefault)).getD false) := by
  unfold isDefaultStorageClass
  rw [if_neg (by simpa using hne)]

/-- To find out about a name is to take what the look-up gives. -/
theorem runOn_isDefaultStorageClass_of_ne (hne : storageClass ≠ "") :
    (runOn h (isDefaultStorageClass storageClass) s).1 =
      (h (.getStorageClass storageClass) s).1.map fun found =>
        (found.map (·.isDefault)).getD false := by
  rw [isDefaultStorageClass_of_ne hne, runOn_andReturn]
  rfl

theorem askedOn_isDefaultStorageClass_of_ne (hne : storageClass ≠ "") :
    askedOn h (isDefaultStorageClass storageClass) s = [.getStorageClass storageClass] := by
  rw [isDefaultStorageClass_of_ne hne, askedOn_andReturn]
  rfl

/-- Looking first gives the verdict on what is found, or fails as the look-up does. -/
theorem runOn_enforceEagerly (policy : Policy) (storageClass : String) :
    (runOn h (enforceEagerly policy storageClass) s).1 =
      (runOn h (isDefaultStorageClass storageClass) s).1.bind
        (policy.checkStorageClass storageClass) := by
  unfold enforceEagerly
  rw [runOn_bind]
  rcases runOn h (isDefaultStorageClass storageClass) s with ⟨x, s'⟩
  cases x <;> rfl

/-- Looking first asks for no more than that. -/
theorem askedOn_enforceEagerly (policy : Policy) (storageClass : String) :
    askedOn h (enforceEagerly policy storageClass) s =
      askedOn h (isDefaultStorageClass storageClass) s := by
  unfold enforceEagerly
  rcases hrun : runOn h (isDefaultStorageClass storageClass) s with ⟨x, s'⟩
  cases x with
  | error e => exact askedOn_bind_error hrun
  | ok isDefault => rw [askedOn_bind_ok hrun, askedOn_ofExcept, List.append_nil]

variable {h s}

/-- Where the default can be told, the policy comes to the verdict on that. -/
theorem runOn_enforceStorageClass_of_told {isDefault : Bool}
    (htold : (runOn h (isDefaultStorageClass storageClass) s).1 = .ok isDefault) :
    (runOn h (enforceStorageClass policy storageClass) s).1 =
      policy.checkStorageClass storageClass isDefault := by
  cases hneeds : policy.needsDefaultLookup storageClass with
  | false => rw [enforceStorageClass_of_not_needs hneeds isDefault, runOn_ofExcept]
  | true =>
    rw [enforceStorageClass_of_needs hneeds, runOn_enforceEagerly, htold]
    rfl

/-- The default can be told where the storage class can be looked up. -/
theorem exists_told {found : Option StorageClass}
    (hfound : (h (.getStorageClass storageClass) s).1 = .ok found) :
    ∃ isDefault, (runOn h (isDefaultStorageClass storageClass) s).1 = .ok isDefault := by
  by_cases hne : storageClass = ""
  · subst hne
    exact ⟨true, rfl⟩
  · rw [runOn_isDefaultStorageClass_of_ne h s hne, hfound]
    exact ⟨_, rfl⟩

/-- **Which classes pass**: those that are allowed anyway, and those that turn out to be the default
where that is allowed. -/
theorem accepted_iff :
    (runOn h (enforceStorageClass policy storageClass) s).1 = .ok () ↔
      policy.isAllowed storageClass false = true ∨
        ∃ isDefault, (runOn h (isDefaultStorageClass storageClass) s).1 = .ok isDefault ∧
          policy.isAllowed storageClass isDefault = true := by
  simp only [← Policy.checkStorageClass_eq_ok_iff]
  cases hneeds : policy.needsDefaultLookup storageClass with
  | false =>
    rw [enforceStorageClass_of_not_needs hneeds false, runOn_ofExcept]
    refine ⟨.inl, ?_⟩
    rintro (hpasses | ⟨isDefault, -, hpasses⟩)
    · exact hpasses
    · rw [← hpasses]
      exact Policy.checkStorageClass_eq_of_not_needs hneeds false isDefault
  | true =>
    -- Where it is needed to look, the class is not allowed anyway.
    have hno := (Policy.needsDefaultLookup_iff_isAllowed.1 hneeds).2
    rw [enforceStorageClass_of_needs hneeds, runOn_enforceEagerly,
      Policy.checkStorageClass_eq_ok_iff, hno]
    cases (runOn h (isDefaultStorageClass storageClass) s).1 with
    | error e => simp [Except.bind]
    | ok isDefault => simp [Except.bind]

/-- What passes a policy passes an eased one, whatever fails on the cluster. -/
theorem accepted_mono (heases : policy'.Eases policy)
    (hpassed : (runOn h (enforceStorageClass policy storageClass) s).1 = .ok ()) :
    (runOn h (enforceStorageClass policy' storageClass) s).1 = .ok () := by
  rw [accepted_iff] at hpassed ⊢
  rcases hpassed with hallowed | ⟨isDefault, htold, hallowed⟩
  · exact .inl (heases.isAllowed hallowed)
  · exact .inr ⟨isDefault, htold, heases.isAllowed hallowed⟩

/-- What is asked: to look up the storage class, if it has a name and the verdict hangs on it. -/
theorem askedOn_enforceStorageClass (h : Handler interface σ) (s : σ) (policy : Policy)
    (storageClass : String) :
    (storageClass ≠ "" ∧ policy.HangsOnDefault storageClass ∧
        askedOn h (enforceStorageClass policy storageClass) s = [.getStorageClass storageClass]) ∨
      (¬ (storageClass ≠ "" ∧ policy.HangsOnDefault storageClass) ∧
        askedOn h (enforceStorageClass policy storageClass) s = []) := by
  rw [← Policy.needsDefaultLookup_iff]
  cases hneeds : policy.needsDefaultLookup storageClass with
  | false =>
    rw [enforceStorageClass_of_not_needs hneeds false]
    exact .inr ⟨by simp, rfl⟩
  | true =>
    rw [enforceStorageClass_of_needs hneeds, askedOn_enforceEagerly]
    by_cases hne : storageClass = ""
    · subst hne
      exact .inr ⟨by simp, rfl⟩
    · exact .inl ⟨hne, rfl, askedOn_isDefaultStorageClass_of_ne h s hne⟩

/-- Where the look-up that is needed fails, so does all. -/
theorem runOn_enforceStorageClass_of_failed {e : DriverError} (hne : storageClass ≠ "")
    (hhangs : policy.HangsOnDefault storageClass)
    (hfailed : (h (.getStorageClass storageClass) s).1 = .error e) :
    (runOn h (enforceStorageClass policy storageClass) s).1 = .error e := by
  rw [enforceStorageClass_of_needs (Policy.needsDefaultLookup_iff.2 hhangs), runOn_enforceEagerly,
    runOn_isDefaultStorageClass_of_ne h s hne, hfailed]
  rfl

/-- Where the verdict does not hang on the default, it is what it is. -/
theorem runOn_enforceStorageClass_of_not_hangs
    (hhangs : ¬ policy.HangsOnDefault storageClass) (isDefault : Bool) :
    (runOn h (enforceStorageClass policy storageClass) s).1 =
      policy.checkStorageClass storageClass isDefault := by
  rw [← Policy.needsDefaultLookup_iff, Bool.not_eq_true] at hhangs
  rw [enforceStorageClass_of_not_needs hhangs isDefault, runOn_ofExcept]

end Running

/-- **To ask only where it matters gives what always asking gives.** On any cluster, where the
storage class can be looked up, the policy comes to the result of looking first. It is looked up
exactly if it has a name and the verdict hangs on its being the default. Where the look-up fails, so
does the policy in that case and in no other: without a name the verdict is that on the default, and
where it does not hang on that it is the verdict either way. So a class that passes on a cluster,
whatever fails there, also passes an eased policy. -/
theorem enforcement_lazy_as_eager (h : Handler interface σ) (s : σ) (policy : Policy)
    (storageClass : String) :
    let looked := (h (.getStorageClass storageClass) s).1
    let enforced := (runOn h (enforceStorageClass policy storageClass) s).1
    let asked := askedOn h (enforceStorageClass policy storageClass) s
    let matters := storageClass ≠ "" ∧ policy.HangsOnDefault storageClass
    (∀ found, looked = .ok found →
      enforced = (runOn h (enforceEagerly policy storageClass) s).1) ∧
    (matters → asked = [.getStorageClass storageClass]) ∧
    (¬ matters → asked = []) ∧
    (∀ e, looked = .error e →
      (matters → enforced = .error e) ∧
      (storageClass = "" → enforced = policy.checkStorageClass storageClass true) ∧
      (¬ policy.HangsOnDefault storageClass → ∀ isDefault,
        enforced = policy.checkStorageClass storageClass isDefault)) ∧
    ∀ policy' : Policy, policy'.Eases policy →
      (∀ isDefault, policy.isAllowed storageClass isDefault = true →
        policy'.isAllowed storageClass isDefault = true) ∧
      (enforced = .ok () → (runOn h (enforceStorageClass policy' storageClass) s).1 = .ok ()) := by
  intro looked enforced asked matters
  refine ⟨fun found hfound => ?_, fun hmatters => ?_, fun hmatters => ?_, fun e hfailed => ?_,
    fun policy' heases => ⟨fun _ => heases.isAllowed, accepted_mono heases⟩⟩
  · obtain ⟨isDefault, htold⟩ := exists_told hfound
    have heager : (runOn h (enforceEagerly policy storageClass) s).1 =
        policy.checkStorageClass storageClass isDefault := by
      rw [runOn_enforceEagerly, htold]
      rfl
    exact (runOn_enforceStorageClass_of_told htold).trans heager.symm
  · rcases askedOn_enforceStorageClass h s policy storageClass with ⟨-, -, hasked⟩ | ⟨hnot, -⟩
    · exact hasked
    · exact absurd hmatters hnot
  · rcases askedOn_enforceStorageClass h s policy storageClass with ⟨hne, hhangs, -⟩ | ⟨-, hasked⟩
    · exact absurd ⟨hne, hhangs⟩ hmatters
    · exact hasked
  · refine ⟨fun hmatters => ?_, fun hempty => ?_, fun hhangs isDefault => ?_⟩
    · exact runOn_enforceStorageClass_of_failed hmatters.1 hmatters.2 hfailed
    · subst hempty
      exact runOn_enforceStorageClass_of_told rfl
    · exact runOn_enforceStorageClass_of_not_hangs hhangs isDefault

/-- A policy that allows the default and one class more. -/
def defaultAndSilver : Policy where
  allowDefault := true
  allowList := ["silver"]

/-- The same with another class. -/
def defaultSilverAndBronze : Policy where
  allowDefault := true
  allowList := ["bronze", "silver"]

/-- A cluster with the default class `gold`. -/
def goldByDefault : State where
  storageClasses := [⟨"gold", "disks", true⟩, ⟨"silver", "disks", false⟩]

/-- A cluster that answers nothing. -/
def unreachable : Handler interface Unit :=
  fun _ s => (.error (.internal "no route to host"), s)

/-- The default class passes after a look-up, or fails as the look-up does; the listed class passes
without one. -/
theorem enforcement_lazy_as_eager_gold :
    (runOn step (enforceStorageClass defaultAndSilver "gold") goldByDefault).1 =
        (runOn step (enforceEagerly defaultAndSilver "gold") goldByDefault).1 ∧
      askedOn step (enforceStorageClass defaultAndSilver "gold") goldByDefault =
        [.getStorageClass "gold"] ∧
      (runOn unreachable (enforceStorageClass defaultAndSilver "gold") ()).1 =
        .error (.internal "no route to host") ∧
      (runOn unreachable (enforceStorageClass defaultAndSilver "silver") ()).1 =
        defaultAndSilver.checkStorageClass "silver" false ∧
      askedOn unreachable (enforceStorageClass defaultAndSilver "silver") () = [] ∧
      defaultSilverAndBronze.Eases defaultAndSilver ∧
      (runOn step (enforceStorageClass defaultSilverAndBronze "gold") goldByDefault).1 = .ok () := by
  have hgold : "gold" ≠ "" ∧ defaultAndSilver.HangsOnDefault "gold" := by
    rw [← Policy.needsDefaultLookup_iff]
    decide
  have hsilver : ¬ defaultAndSilver.HangsOnDefault "silver" := by
    rw [← Policy.needsDefaultLookup_iff]
    decide
  have heases : defaultSilverAndBronze.Eases defaultAndSilver := ⟨id, id, by decide⟩
  obtain ⟨heager, hasked, -, -, hmono⟩ :=
    enforcement_lazy_as_eager step goldByDefault defaultAndSilver "gold"
  obtain ⟨-, -, -, hfailed, -⟩ := enforcement_lazy_as_eager unreachable () defaultAndSilver "gold"
  obtain ⟨-, -, hunasked, hknown, -⟩ :=
    enforcement_lazy_as_eager unreachable () defaultAndSilver "silver"
  refine ⟨heager _ rfl, hasked hgold, (hfailed _ rfl).1 hgold, (hknown _ rfl).2.2 hsilver false,
    hunasked fun h => hsilver h.2, heases, (hmono _ heases).2 ?_⟩
  rw [accepted_iff]
  exact .inr ⟨true, rfl, by decide⟩

end Cluster

end Hotplug
