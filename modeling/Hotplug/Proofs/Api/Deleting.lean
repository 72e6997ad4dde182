import Hotplug.Proofs.Api.Exchange
import Hotplug.Proofs.Interleaving

/-!
# Deletions of one object side by side

To delete an object is to look whether it is there, to ask for its deletion, and to look again if
that fails. Any number of callers may do so at once, each stopped anywhere in between. The server
removes the object only once, and who comes too late finds it gone, which is what was wanted.

## Main definitions

* `deletedIn kind answer` — what the answer to a deletion comes to.
* `KeepsObject h kind look gone present` — a server keeps an object until it is deleted.
* `Harmless h gone present r` — a request that does not make the object.
* `IsDeletion ns name kind p` — `p` deletes the object of a name.
* `removes gone e` — an exchange in which a deletion succeeded.

## Main results

* `deleteIfPresent_eq` — the deletion of an object is at most three requests.
* `achieves_deletion` — one deletion succeeds among whatever does not make the object.
* `removals_add_present` — the removals among some exchanges are as many as objects are gone.
* `deletions_all_succeed` — **deletions side by side all succeed, and one of them removes the
  object.**
-/

namespace Hotplug.Api

open Http

variable {kind : Kind} {name operation : String} {look gone : Location}

/-! ### What a deletion asks -/

/-- What the answer to a deletion comes to. -/
def deletedIn (kind : Kind) (answer : Option Response) : Except ApiFailure Unit :=
  match textIn answer with
  | .error failure => .error failure
  | .ok text =>
    match (Json.parse? text).filter (deletionAccepts kind) with
    | some _ => .ok ()
    | none => .error .unparsable

/-- How a deletion that failed ends, when this is found afterwards. -/
def afterwardsIn (failure : ApiFailure) : Except ApiFailure (Option Json) → Except ApiFailure Bool
  | .error again => .error again
  | .ok none => .ok true
  | .ok (some _) => .error failure

/-- How a deletion goes on from what it came to. -/
def afterDelete (kind : Kind) (look : Location) :
    Except ApiFailure Unit → Program Http.interface (Except ApiFailure Bool)
  | .ok _ => .done (.ok true)
  | .error failure => .ask ⟨.get, look, none⟩ fun answer =>
    .done (afterwardsIn failure (brought kind answer))

/-- How a deletion goes on from what was found at first. -/
def afterLook (kind : Kind) (look gone : Location) :
    Except ApiFailure (Option Json) → Program Http.interface (Except ApiFailure Bool)
  | .error failure => .done (.error failure)
  | .ok none => .done (.ok false)
  | .ok (some _) => .ask ⟨.delete, gone, some (.object [])⟩ fun answer =>
    afterDelete kind look (deletedIn kind answer)

/-- The text of a place where an object is deleted. -/
def deletionPlace (kind : Kind) (ns : Option String) (name : String) : String :=
  kind.path ns ++ "/" ++ name ++ "?"

section Requests

variable {ns : Option String}

/-- To ask for a deletion is one request. -/
theorem delete_eq (hname : name ≠ "")
    (hgone : Location.ofText (deletionPlace kind ns name) = .ok gone) :
    (delete kind ns name).run = .ask ⟨.delete, gone, some (.object [])⟩ fun answer =>
      .done (deletedIn kind answer) := by
  have hplace : placeOf kind ns name = pure (kind.path ns ++ "/" ++ name) := by
    unfold placeOf
    rw [if_neg (by simpa using hname)]
  have hexchange := exchange_eq hgone .delete (some (.object []))
  unfold deletionPlace at hexchange
  unfold delete
  rw [hplace, pure_bind, ExceptT.run_bind, hexchange]
  refine congrArg (Program.ask _) (funext fun answer => ?_)
  rw [Program.done_bind]
  unfold deletedIn
  cases textIn answer with
  | error failure => rfl
  | ok text =>
    simp only
    cases (Json.parse? text).filter (deletionAccepts kind) <;> rfl

/-- **The deletion of an object is at most three requests.** -/
theorem deleteIfPresent_eq (hlook : locationOf? kind ns name = some look)
    (hgone : Location.ofText (deletionPlace kind ns name) = .ok gone) :
    (deleteIfPresent kind ns name).run = .ask ⟨.get, look, none⟩ fun answer =>
      afterLook kind look gone (brought kind answer) := by
  have hname := (locationOf?_eq_some_iff.1 hlook).1
  have hagain : ∀ failure, (deleteIfPresent.afterwards kind ns name failure).run =
      afterDelete kind look (.error failure) := by
    intro failure
    unfold deleteIfPresent.afterwards
    rw [ExceptT.run_bind, get?_eq hlook]
    refine congrArg (Program.ask _) (funext fun answer => ?_)
    rw [Program.done_bind]
    rcases brought kind answer with again | (_ | object) <;> rfl
  unfold deleteIfPresent
  rw [ExceptT.run_bind, get?_eq hlook]
  refine congrArg (Program.ask _) (funext fun answer => ?_)
  rw [Program.done_bind]
  rcases brought kind answer with failure | (_ | object)
  · rfl
  · rfl
  · change (delete kind ns name).run.bind _ = _
    rw [delete_eq hname hgone]
    refine congrArg (Program.ask _) (funext fun answer => ?_)
    rw [Program.done_bind]
    cases deletedIn kind answer with
    | ok _ => rfl
    | error failure => exact hagain failure

end Requests

/-! ### One deletion among others -/

/-- Whether an answer tells of a success. -/
def succeeds (answer : Option Response) : Bool :=
  answer.any fun response => !response.isError

section Server

variable {σ ι : Type} {h : Handler Http.interface σ} {present : σ → Prop}
  {others : Http.Request → Prop}

/-- A server keeps an object, `present` or not, that is read at one place and deleted at another. It
says whether the object is there when that is asked, deletes it once, and refuses to delete it where
it is gone. -/
structure KeepsObject (h : Handler Http.interface σ) (kind : Kind) (look gone : Location)
    (present : σ → Prop) : Prop where
  found : ∀ r s, r.method = .get → r.location = look → present s →
    ∃ object, brought kind (h r s).1 = .ok (some object)
  missing : ∀ r s, r.method = .get → r.location = look → ¬ present s →
    brought kind (h r s).1 = .ok none
  kept : ∀ r s, r.method = .get → r.location = look → (present (h r s).2 ↔ present s)
  removed : ∀ r s, r.method = .delete → r.location = gone → present s →
    succeeds (h r s).1 = true ∧ ¬ present (h r s).2
  refused : ∀ r s, r.method = .delete → r.location = gone → ¬ present s →
    succeeds (h r s).1 = false ∧ ¬ present (h r s).2

/-- A request does not make the object: it is its deletion, or has nothing to do with it. -/
def Harmless (h : Handler Http.interface σ) (gone : Location) (present : σ → Prop)
    (r : Http.Request) : Prop :=
  (r.method = .delete ∧ r.location = gone) ∨ ∀ s, present (h r s).2 ↔ present s

namespace KeepsObject

/-- After a deletion the object is gone, whether it was there or not. -/
theorem absent_of_delete (hkeeps : KeepsObject h kind look gone present) {r : Http.Request}
    (hr : r.method = .delete ∧ r.location = gone) (s : σ) : ¬ present (h r s).2 := by
  by_cases hs : present s
  · exact (hkeeps.removed r s hr.1 hr.2 hs).2
  · exact (hkeeps.refused r s hr.1 hr.2 hs).2

/-- What is harmless leaves a missing object missing. -/
theorem absent_of_harmless (hkeeps : KeepsObject h kind look gone present) {r : Http.Request}
    (hr : Harmless h gone present r) (s : σ) (hafter : present (h r s).2) : present s := by
  rcases hr with hdelete | hkept
  · exact absurd hafter (hkeeps.absent_of_delete hdelete s)
  · exact (hkept s).1 hafter

end KeepsObject

/-- A call ends as it should: it succeeds, and the object is gone. -/
def EndsWell {ε : Type} (present : σ → Prop) (y : Except ε Bool) (s : σ) : Prop :=
  (∃ b, y = .ok b) ∧ ¬ present s

/-- A move that does not make the object. -/
def MakesNone (present : σ → Prop) (s s' : σ) : Prop :=
  present s' → present s

/-- Where the object is gone, it stays so, and who succeeds there ends well. -/
theorem achieves_done {ε : Type} {s : σ} (hs : ¬ present s) (b : Bool) :
    Achieves h (MakesNone present) (EndsWell (ε := ε) present) (.done (.ok b)) s :=
  fun _ hmoved => ⟨⟨b, rfl⟩, fun hafter => hs (hmoved hafter)⟩

/-- After the request to delete the object it is gone, whatever the answer was. -/
theorem achieves_afterDelete (hkeeps : KeepsObject h kind look gone present) {s : σ}
    (hs : ¬ present s) (deleted : Except ApiFailure Unit) :
    Achieves h (MakesNone present) (EndsWell present) (afterDelete kind look deleted) s := by
  cases deleted with
  | ok _ => exact achieves_done hs true
  | error failure =>
    intro s₁ hmoved
    have hs₁ : ¬ present s₁ := fun hafter => hs (hmoved hafter)
    change Achieves h _ _ (.done (afterwardsIn failure (brought kind (h _ s₁).1))) _
    rw [hkeeps.missing ⟨.get, look, none⟩ s₁ rfl rfl hs₁]
    exact achieves_done (mt (hkeeps.kept _ s₁ rfl rfl).1 hs₁) true

/-- **One deletion succeeds among whatever does not make the object.** -/
theorem achieves_deletion {ns : Option String} (hlook : locationOf? kind ns name = some look)
    (hgone : Location.ofText (deletionPlace kind ns name) = .ok gone)
    (hkeeps : KeepsObject h kind look gone present) (s : σ) :
    Achieves h (MakesNone present) (EndsWell present)
      ((deleteIfPresent kind ns name).during operation).run s := by
  have hcall : Achieves h (MakesNone present) (EndsWell present)
      (deleteIfPresent kind ns name).run s := by
    rw [deleteIfPresent_eq hlook hgone]
    intro s₁ _
    change Achieves h _ _ (afterLook kind look gone (brought kind (h _ s₁).1)) _
    by_cases hs₁ : present s₁
    · obtain ⟨object, hfound⟩ := hkeeps.found ⟨.get, look, none⟩ s₁ rfl rfl hs₁
      rw [hfound]
      intro s₂ _
      exact achieves_afterDelete hkeeps (hkeeps.absent_of_delete ⟨rfl, rfl⟩ s₂) _
    · rw [hkeeps.missing ⟨.get, look, none⟩ s₁ rfl rfl hs₁]
      exact achieves_done (mt (hkeeps.kept _ s₁ rfl rfl).1 hs₁) false
  refine hcall.bind (fun _ hmoved => hmoved) fun y s' hy => ?_
  obtain ⟨⟨b, rfl⟩, habsent⟩ := hy
  exact achieves_done habsent b

/-- All that a deletion asks is harmless. -/
theorem asksOnly_deletion {ns : Option String} (hlook : locationOf? kind ns name = some look)
    (hgone : Location.ofText (deletionPlace kind ns name) = .ok gone)
    (hkeeps : KeepsObject h kind look gone present) :
    AsksOnly (Harmless h gone present)
      ((deleteIfPresent kind ns name).during operation).run := by
  have hget : Harmless h gone present ⟨.get, look, none⟩ :=
    .inr fun s => hkeeps.kept ⟨.get, look, none⟩ s rfl rfl
  have hcall : AsksOnly (Harmless h gone present) (deleteIfPresent kind ns name).run := by
    rw [deleteIfPresent_eq hlook hgone]
    refine .ask hget fun answer => ?_
    rcases brought kind answer with failure | (_ | object)
    · exact .done _
    · exact .done _
    refine .ask (.inl ⟨rfl, rfl⟩) fun answer => ?_
    cases deletedIn kind answer with
    | ok _ => exact .done _
    | error failure => exact .ask hget fun answer => .done _
  refine hcall.bind fun y => ?_
  cases y <;> exact .done _

/-- Who looked again has something to say other than that there was nothing to delete. -/
theorem afterwardsIn_ne_false (failure : ApiFailure) (found : Except ApiFailure (Option Json)) :
    afterwardsIn failure found ≠ .ok false := by
  rcases found with again | (_ | object) <;> simp [afterwardsIn]

/-- A deletion that says that there was nothing to delete has looked once, and was told so. -/
theorem conversation_deletion_false {ns : Option String}
    (hlook : locationOf? kind ns name = some look)
    (hgone : Location.ofText (deletionPlace kind ns name) = .ok gone)
    {own : List (Exchange Http.interface)}
    (htalk : Conversation ((deleteIfPresent kind ns name).during operation).run own (.ok false)) :
    ∃ answer, own = [⟨⟨.get, look, none⟩, answer⟩] ∧ brought kind answer = .ok none := by
  obtain ⟨t₁, t₂, y, rfl, hcall, hlast⟩ := conversation_bind_iff.1 htalk
  obtain ⟨rfl, rfl⟩ : t₂ = [] ∧ y = .ok false := by
    cases y with
    | error failure => cases hlast
    | ok b =>
      obtain ⟨hnil, heq⟩ := conversation_done_iff.1 hlast
      cases heq
      exact ⟨hnil, rfl⟩
  rw [deleteIfPresent_eq hlook hgone] at hcall
  obtain ⟨answer, rest, rfl, hrest⟩ := conversation_ask_iff.1 hcall
  refine ⟨answer, ?_⟩
  cases hfound : brought kind answer with
  | error failure =>
    rw [hfound] at hrest
    cases hrest
  | ok found =>
    rw [hfound] at hrest
    cases found with
    | none =>
      obtain ⟨rfl, -⟩ := conversation_done_iff.1 hrest
      exact ⟨rfl, rfl⟩
    | some object =>
      -- Once something was found, the answer is another.
      obtain ⟨deletion, after, -, hafter⟩ := conversation_ask_iff.1 hrest
      cases hdeleted : deletedIn kind deletion with
      | ok _ =>
        rw [hdeleted] at hafter
        cases hafter
      | error failure =>
        rw [hdeleted] at hafter
        obtain ⟨again, last, -, hlast'⟩ := conversation_ask_iff.1 hafter
        exact absurd (conversation_done_iff.1 hlast').2.symm (afterwardsIn_ne_false _ _)

/-! ### All deletions together -/

/-- A deletion succeeded in an exchange. -/
def removes (gone : Location) (e : Exchange Http.interface) : Bool :=
  e.request.method == .delete && e.request.location == gone && succeeds e.answer

open Classical in
/-- **The removals among some exchanges are as many as objects are gone**: one if the object was
there and is no more, and none else. -/
theorem removals_add_present (hkeeps : KeepsObject h kind look gone present) {s s' : σ}
    {t : List (Exchange Http.interface)} (ht : Answered h s t s')
    (hharmless : ∀ e ∈ t, Harmless h gone present e.request) :
    t.countP (removes gone) + (if present s' then 1 else 0) = if present s then 1 else 0 := by
  induction ht with
  | nil s => simp
  | @cons r s s' t rest ih =>
    have hrest := ih fun e he => hharmless e (List.mem_cons_of_mem _ he)
    rw [List.countP_cons]
    by_cases hdelete : r.method = .delete ∧ r.location = gone
    · obtain ⟨hmethod, hlocation⟩ := hdelete
      by_cases hs : present s
      · obtain ⟨hsucceeds, habsent⟩ := hkeeps.removed r s hmethod hlocation hs
        have hremoves : removes gone ⟨r, (h r s).1⟩ = true := by
          simp [removes, hmethod, hlocation, hsucceeds]
        simp only [habsent, hremoves, hs, if_true, if_false] at hrest ⊢
        omega
      · obtain ⟨hfails, habsent⟩ := hkeeps.refused r s hmethod hlocation hs
        have hremoves : removes gone ⟨r, (h r s).1⟩ = false := by
          simp [removes, hfails]
        simp only [habsent, hremoves, hs, if_false, Bool.false_eq_true] at hrest ⊢
        omega
    · -- Anything else leaves the object as it is.
      have hkept : present (h r s).2 ↔ present s :=
        (hharmless _ List.mem_cons_self).resolve_left hdelete s
      have hremoves : removes gone ⟨r, (h r s).1⟩ = false := by
        unfold removes
        rw [Bool.and_eq_false_iff, Bool.and_eq_false_iff, beq_eq_false_iff_ne,
          beq_eq_false_iff_ne]
        exact .inl (not_and_or.1 hdelete)
      simp only [hkept, hremoves, if_false, Bool.false_eq_true] at hrest ⊢
      omega

/-- The conversations that delete the object of a name in a namespace. -/
inductive IsDeletion (ns name : String) :
    Kind → Program Http.interface (Except DriverError Bool) → Prop
  | volume : IsDeletion ns name .volume (conversation (.deleteVolume ns name)).run
  | snapshot : IsDeletion ns name .snapshot (conversation (.deleteSnapshot ns name)).run

/-- Volumes and snapshots are deleted alike. -/
theorem IsDeletion.exists_operation {ns : String}
    {p : Program Http.interface (Except DriverError Bool)} (hp : IsDeletion ns name kind p) :
    ∃ operation, p = ((deleteIfPresent kind ns name).during operation).run := by
  cases hp with
  | volume => exact ⟨_, rfl⟩
  | snapshot => exact ⟨_, rfl⟩

/-- **Deletions side by side all succeed, and one of them removes the object.** Any number of calls
delete one object, with their requests in any order, and others do not make it meanwhile. Whatever
call has ended has succeeded, and then the object is gone. At most one deletion succeeds, none if
the object was missing at first, and one if it was there and a call has ended. A call that says that
there was nothing to delete has asked once whether the object is there, and was told that it is
not. -/
theorem deletions_all_succeed {ns : String}
    (hlook : locationOf? kind ns name = some look)
    (hgone : Location.ofText (deletionPlace kind ns name) = .ok gone)
    (hkeeps : KeepsObject h kind look gone present)
    {ps ps' : List (ι × Program Http.interface (Except DriverError Bool))} {s s' : σ}
    {t : List (Exchange Http.interface)} (hps : ∀ x ∈ ps, IsDeletion ns name kind x.2)
    (hothers : ∀ r, others r → Harmless h gone present r)
    (hrun : Interleaves h others ps s t ps' s') :
    (∀ i y, (i, .done y) ∈ ps' → (∃ b, y = .ok b) ∧ ¬ present s') ∧
      t.countP (removes gone) ≤ 1 ∧ (¬ present s → t.countP (removes gone) = 0) ∧
      (present s → (∃ i y, (i, .done y) ∈ ps') → t.countP (removes gone) = 1) ∧
      ∀ i, (i, .done (.ok false)) ∈ ps' → ∃ p own answer, (i, p) ∈ ps ∧ own.Sublist t ∧
        Conversation p own (.ok false) ∧ own = [⟨⟨.get, look, none⟩, answer⟩] ∧
        brought kind answer = .ok none := by
  have hasks : ∀ x ∈ ps, AsksOnly (Harmless h gone present) x.2 := by
    intro x hx
    obtain ⟨operation, hp⟩ := (hps x hx).exists_operation
    rw [hp]
    exact asksOnly_deletion hlook hgone hkeeps
  have hachieves : ∀ x ∈ ps, Achieves h (MakesNone present) (EndsWell present) x.2 s := by
    intro x hx
    obtain ⟨operation, hp⟩ := (hps x hx).exists_operation
    rw [hp]
    exact achieves_deletion hlook hgone hkeeps s
  have hended : ∀ i y, (i, .done y) ∈ ps' → EndsWell present y s' := by
    intro i y hy
    have hwell := hrun.achieves (Q := fun _ => EndsWell present)
      (fun _ _ _ hab hbc hc => hab (hbc hc)) (fun _ s hr => hkeeps.absent_of_harmless hr s)
      hothers hasks (fun _ hs => hs) hachieves _ hy
    exact hwell s' fun hs => hs
  have hcount := removals_add_present hkeeps hrun.answered fun e he =>
    hrun.of_mem hothers hasks he
  refine ⟨hended, ?_, ?_, ?_, ?_⟩
  · split at hcount <;> split at hcount <;> omega
  · intro hs
    rw [if_neg hs] at hcount
    omega
  · rintro hs ⟨i, y, hy⟩
    rw [if_pos hs, if_neg (hended i y hy).2] at hcount
    omega
  · intro i hi
    obtain ⟨p, own, hp, hown, htalk⟩ := hrun.conversation_of_done hi
    obtain ⟨operation, hdeletion⟩ := (hps _ hp).exists_operation
    have htold := htalk
    rw [show p = _ from hdeletion] at htold
    obtain ⟨answer, hone, hnone⟩ := conversation_deletion_false hlook hgone htold
    exact ⟨p, own, answer, hp, hown, htalk, hone, hnone⟩

end Server

/-! ### A server with one volume -/

/-- The place of a volume. -/
def volumePlace : Location :=
  ⟨"/apis/cdi.kubevirt.io/v1beta1/namespaces/infra/datavolumes/pvc-1", []⟩

/-- A volume, as far as it matters here. -/
def keptObject : Json :=
  .object [("metadata", .object [("name", .string "pvc-1"), ("namespace", .string "infra")])]

/-- The report that there is no such volume. -/
def missingReport : Json :=
  .object [("status", .string "Failure"), ("reason", .string "NotFound"), ("code", .int 404)]

/-- A server with this volume, or without it. -/
def volumeServer : Handler Http.interface Bool := fun r present =>
  (some (if present then telling 200 keptObject else telling 404 missingReport),
    present && r.method != .delete)

theorem locationOf?_volumePlace : locationOf? .volume "infra" "pvc-1" = some volumePlace := by
  decide +kernel

theorem ofText_volumePlace :
    Location.ofText (deletionPlace .volume "infra" "pvc-1") = .ok volumePlace := by
  decide +kernel

theorem brought_keptObject :
    brought .volume (some (telling 200 keptObject)) = .ok (some keptObject) := by
  refine brought_eq_some_iff.2 (objectIn_telling ?_ ?_ ?_ ?_)
  · decide
  · decide +kernel
  · decide +kernel
  · decide +kernel

theorem brought_missingReport : brought .volume (some (telling 404 missingReport)) = .ok none := by
  decide +kernel

/-- It keeps the volume until it is deleted. -/
theorem keepsObject_volumeServer :
    KeepsObject volumeServer .volume volumePlace volumePlace (· = true) where
  found := by
    rintro r _ - - rfl
    exact ⟨keptObject, brought_keptObject⟩
  missing := by
    intro r s _ _ hs
    rw [Bool.eq_false_iff.2 hs]
    exact brought_missingReport
  kept := by
    intro r s hmethod _
    simp [volumeServer, hmethod]
  removed := by
    rintro r _ hmethod - rfl
    have hsucceeds : succeeds (some (telling 200 keptObject)) = true := rfl
    refine ⟨hsucceeds, ?_⟩
    simp [volumeServer, hmethod]
  refused := by
    intro r s _ _ hs
    have hfails : succeeds (some (telling 404 missingReport)) = false := rfl
    rw [Bool.eq_false_iff.2 hs]
    refine ⟨hfails, ?_⟩
    simp [volumeServer]

/-- Two calls that delete the volume. -/
def twoDeletions : List (Nat × Program Http.interface (Except DriverError Bool)) :=
  [(0, (conversation (.deleteVolume "infra" "pvc-1")).run),
    (1, (conversation (.deleteVolume "infra" "pvc-1")).run)]

/-- Both find the volume, and both ask for its deletion. -/
theorem takeTurns_twoDeletions :
    takeTurns volumeServer [0, 1, 0, 1, 1] twoDeletions true =
      ([(0, .done (.ok true)), (1, .done (.ok true))], false) := by
  have hdeleted : deletedIn .volume (some (telling 200 keptObject)) = .ok () := by
    decide +kernel
  have hrefused : deletedIn .volume (some (telling 404 missingReport)) =
      .error (.answered "NotFound") := by
    decide +kernel
  have hdeletion : IsDeletion "infra" "pvc-1" .volume
      (conversation (.deleteVolume "infra" "pvc-1")).run := .volume
  obtain ⟨operation, hcall⟩ := hdeletion.exists_operation
  have hrun : ((deleteIfPresent .volume "infra" "pvc-1").during operation).run = _ :=
    congrArg (fun p => Program.bind p _)
      (deleteIfPresent_eq locationOf?_volumePlace ofText_volumePlace)
  unfold twoDeletions
  rw [hcall, hrun]
  simp [takeTurns, takeTurn, volumeServer, brought_keptObject, brought_missingReport, afterLook,
    afterDelete, hdeleted, hrefused, afterwardsIn]

/-- Both calls succeed, and one of the two deletions did. -/
theorem deletions_all_succeed_twice :
    ∃ t, Interleaves volumeServer (fun _ => False) twoDeletions true t
        [(0, .done (.ok true)), (1, .done (.ok true))] false ∧
      t.countP (removes volumePlace) = 1 := by
  have hps : ∀ x ∈ twoDeletions, IsDeletion "infra" "pvc-1" .volume x.2 := by
    intro x hx
    rcases List.mem_cons.1 hx with rfl | hx
    · exact .volume
    · rw [List.mem_singleton.1 hx]
      exact .volume
  obtain ⟨t, hrun⟩ := interleaves_takeTurns volumeServer (fun _ => False) [0, 1, 0, 1, 1]
    twoDeletions true
  rw [takeTurns_twoDeletions] at hrun
  obtain ⟨-, -, -, hone, -⟩ := deletions_all_succeed locationOf?_volumePlace ofText_volumePlace
    keepsObject_volumeServer hps (fun _ hno => hno.elim) hrun
  exact ⟨t, hrun, hone rfl ⟨0, .ok true, List.mem_cons_self⟩⟩

/-! ### Names that no request can be built for -/

/-- Nothing can be asked about a volume with a space in its name, so that no call that deletes it
succeeds, whether it is there or not. -/
theorem spaced_name_not_deleted :
    IsDeletion "infra" "a b" .volume (conversation (.deleteVolume "infra" "a b")).run ∧
      (conversation (.deleteVolume "infra" "a b")).run =
        .done (.error (.api "delete DataVolume infra/a b" .unbuildable)) := by
  have hlook : locationOf? .volume "infra" "a b" = none := by
    decide +kernel
  have hcall : (deleteIfPresent .volume "infra" "a b").run = .done (.error .unbuildable) := by
    unfold deleteIfPresent
    rw [ExceptT.run_bind, get?_eq_of_none hlook]
    rfl
  refine ⟨.volume, ?_⟩
  change ((deleteIfPresent .volume "infra" "a b").during _).run = _
  unfold Call.during
  rw [hcall]
  rfl

end Hotplug.Api
