import Hotplug.Cluster.Resolve
import Hotplug.Proofs.Program

/-!
# Programs that change the cluster last

An operation looks around first, and then changes the cluster with one request or leaves it as it
is. The change is the last thing it asks, and the operation succeeds exactly when the change does.
An operation of this shape needs no undoing: when it fails, nothing has happened.

## Main definitions

* `Settles M p` — `p` is of this shape, and any change it asks for satisfies `M`.
* `ReadsOnly p` — `p` asks for no change.
* `ChangesLast t a` — the shape, as it shows in a conversation `t` that ends in `a`.
* `Transactional h` — only changes that succeed move the state of `h`.

## Main results

* `Settles.changesLast` — every conversation of such a program shows the shape.
* `Settles.outcome` — a run leaves the state as it was, or makes one change of it.
* `Settles.eq_of_error` — on a transactional cluster a failed run changes nothing.
* `readsOnly_chooseSnapshotClass`, `settles_ensureVolume` and others — the operations that requests
  are made of are of this shape.
-/

namespace Hotplug.Cluster

variable {α β ε ε' : Type} {σ : Type} {M M' : Request → Prop}

/-! ### The shape -/

/-- `Settles M p` says that `p` reads until it ends or asks for one change, that the change
satisfies `M`, and that `p` ends with it, in a success exactly if the change is one. -/
inductive Settles (M : Request → Prop) : Program interface (Except ε α) → Prop where
  /-- A program that has ended changes nothing more. -/
  | done (a : Except ε α) : Settles M (.done a)
  /-- A program may read. -/
  | read {r : Request} {next : Except DriverError (Result r) → Program interface (Except ε α)}
      (hr : r.isMutation = false) (rest : ∀ x, Settles M (next x)) : Settles M (.ask r next)
  /-- A program may change the cluster and end. -/
  | change {r : Request} {next : Except DriverError (Result r) → Program interface (Except ε α)}
      (hr : r.isMutation = true) (hM : M r)
      (rest : ∀ x, ∃ b, next x = .done b ∧ b.isOk = x.isOk) : Settles M (.ask r next)

/-- A program that asks for no change. -/
abbrev ReadsOnly (p : Program interface (Except ε α)) : Prop :=
  Settles (fun _ => False) p

namespace Settles

theorem mono {p : Program interface (Except ε α)} (hp : Settles M p) (hM : ∀ r, M r → M' r) :
    Settles M' p := by
  induction hp with
  | done a => exact .done a
  | read hr _ ih => exact .read hr ih
  | change hr h rest => exact .change hr (hM _ h) rest

/-- A program of the shape asks for no other changes. -/
theorem asksOnly {p : Program interface (Except ε α)} (hp : Settles M p) :
    AsksOnly (fun r : Request => r.isMutation = true → M r) p := by
  induction hp with
  | done a => exact .done a
  | read hr _ ih =>
    refine .ask (fun hmut => ?_) ih
    rw [hr] at hmut
    exact absurd hmut Bool.false_ne_true
  | change hr hM rest =>
    refine .ask (fun _ => hM) fun x => ?_
    obtain ⟨b, hb, -⟩ := rest x
    rw [hb]
    exact .done b

/-- After reading, a program may go on to anything of the shape. -/
theorem bind {p : Program interface (Except ε α)} (hp : ReadsOnly p)
    {f : Except ε α → Program interface (Except ε' β)} (hf : ∀ a, Settles M (f a)) :
    Settles M (p.bind f) := by
  induction hp with
  | done a => exact hf a
  | read hr _ ih => exact .read hr ih
  | change _ h _ =>
    -- No change satisfies `False`.
    exact h.elim

/-- Wording the result anew keeps the shape, if it turns no success into a failure nor a failure
into a success. -/
theorem map {p : Program interface (Except ε α)} (hp : Settles M p)
    {g : Except ε α → Except ε' β} (hg : ∀ a, (g a).isOk = a.isOk) :
    Settles M (p.bind fun a => .done (g a)) := by
  induction hp with
  | done a => exact .done (g a)
  | read hr _ ih => exact .read hr ih
  | change hr h rest =>
    refine .change hr h fun x => ?_
    obtain ⟨b, hb, hok⟩ := rest x
    exact ⟨g b, by rw [hb, Program.done_bind], (hg b).trans hok⟩

/-! ### Rules for programs that may fail -/

theorem pure (a : α) : Settles M (pure a : ExceptT ε (Program interface) α).run :=
  .done (.ok a)

theorem fail (e : DriverError) : Settles M (Attempt.fail e : Attempt interface α).run :=
  .done (.error e)

theorem ofExcept (x : Except DriverError α) :
    Settles M (Attempt.ofExcept x : Attempt interface α).run :=
  .done x

theorem orFail (e : DriverError) (found : Option α) :
    Settles M (Attempt.orFail e found : Attempt interface α).run := by
  cases found with
  | none => exact .done _
  | some a => exact .done _

theorem refuse (status : Status) :
    Settles M (Answering.refuse status : Answering interface α).run :=
  .done (.error status)

/-- One read alone. -/
theorem callRead {r : Request} (hr : r.isMutation = false) : Settles M (call r).run :=
  .read hr fun x => .done x

/-- One change alone. -/
theorem callChange {r : Request} (hr : r.isMutation = true) (hM : M r) :
    Settles M (call r).run :=
  .change hr hM fun x => ⟨x, rfl, rfl⟩

/-- A program that reads and may fail goes on to anything of the shape. -/
theorem andThen {p : ExceptT ε (Program interface) α} (hp : ReadsOnly p.run)
    {f : α → ExceptT ε (Program interface) β} (hf : ∀ a, Settles M (f a).run) :
    Settles M (p >>= f).run := by
  rw [ExceptT.run_bind]
  refine bind hp fun x => ?_
  cases x with
  | error e => exact .done _
  | ok a => exact hf a

/-- Going on from a result that is known needs the shape only for the value it has. -/
theorem ofExceptThen {x : Except DriverError α} {f : α → Attempt interface β}
    (hf : ∀ a, x = .ok a → Settles M (f a).run) : Settles M (Attempt.ofExcept x >>= f).run := by
  cases x with
  | error e => exact .done _
  | ok a => exact hf a rfl

/-- Changing the value of a success keeps the shape. -/
theorem andReturn {p : ExceptT ε (Program interface) α} (hp : Settles M p.run) (g : α → β) :
    Settles M (p >>= fun a => Pure.pure (g a) : ExceptT ε (Program interface) β).run := by
  have hmap := hp.map (g := fun x : Except ε α => x.map g) fun a => by cases a <;> rfl
  have hsame : (p.run.bind fun x => Program.done (x.map g)) =
      (p >>= fun a => Pure.pure (g a) : ExceptT ε (Program interface) β).run := by
    rw [ExceptT.run_bind]
    refine congrArg p.run.bind (funext fun x => ?_)
    cases x <;> rfl
  rwa [hsame] at hmap

/-- Answering with statuses keeps the shape. -/
theorem of {p : Attempt interface α} (hp : Settles M p.run) :
    Settles M (Answering.of p).run := by
  have hmap := hp.map (g := fun x => x.mapError DriverError.status) fun a => by cases a <;> rfl
  have hsame : (p.run.bind fun x => Program.done (x.mapError DriverError.status)) =
      (Answering.of p).run := by
    unfold Answering.of
    refine congrArg p.run.bind (funext fun x => ?_)
    cases x <;> rfl
  rwa [hsame] at hmap

/-- Going on where something is missing keeps the shape. -/
theorem orMissing {p q : Attempt interface α} (hp : ReadsOnly p.run) (hq : Settles M q.run) :
    Settles M (p.orMissing q).run := by
  refine bind hp fun x => ?_
  rcases x with e | a
  · cases e with
    | notFound => exact hq
    | _ => exact .done _
  · exact .done _

end Settles

/-! ### What the shape says of conversations and runs -/

/-- A call alone is one request with any answer. -/
theorem conversation_call_iff {r : Request} {x : Except DriverError (Result r)}
    {t : List (Exchange interface)} : Conversation (call r).run t x ↔ t = [⟨r, x⟩] := by
  refine conversation_ask_iff.trans ⟨?_, ?_⟩
  · rintro ⟨y, rest, rfl, hrest⟩
    obtain ⟨rfl, rfl⟩ := conversation_done_iff.1 hrest
    rfl
  · rintro rfl
    exact ⟨x, [], rfl, .done x⟩

/-- At most one request of a conversation changes the cluster, it is the last one, and it succeeds
exactly when the whole does. -/
structure ChangesLast (t : List (Exchange interface)) (a : Except ε α) : Prop where
  atMostOne : t.countP (·.request.isMutation) ≤ 1
  last : ∀ before e after, t = before ++ e :: after → e.request.isMutation = true → after = []
  decides : ∀ e ∈ t, e.request.isMutation = true → e.answer.isOk = a.isOk

/-- A read in front keeps the shape of a conversation. -/
theorem ChangesLast.cons {e : Exchange interface} {t : List (Exchange interface)}
    {a : Except ε α} (he : e.request.isMutation = false) (ht : ChangesLast t a) :
    ChangesLast (e :: t) a where
  atMostOne := by
    rw [List.countP_cons_of_neg (by rw [he]; exact Bool.false_ne_true)]
    exact ht.atMostOne
  last := by
    intro before e' after heq he'
    cases before with
    | nil =>
      obtain ⟨rfl, -⟩ := List.cons.inj heq
      rw [he] at he'
      exact absurd he' Bool.false_ne_true
    | cons _ before => exact ht.last before e' after (List.cons.inj heq).2 he'
  decides := by
    intro e' he' hmut
    rcases List.mem_cons.1 he' with rfl | he'
    · rw [he] at hmut
      exact absurd hmut Bool.false_ne_true
    · exact ht.decides e' he' hmut

/-- One change alone has the shape. -/
theorem ChangesLast.single {e : Exchange interface} {a : Except ε α}
    (hok : a.isOk = e.answer.isOk) : ChangesLast [e] a where
  atMostOne := List.countP_le_length
  last := by
    intro before e' after heq _
    have hlen := congrArg List.length heq
    simp only [List.length_append, List.length_cons, List.length_nil] at hlen
    exact List.length_eq_zero_iff.1 (by omega)
  decides := by
    intro e' he' _
    rw [List.mem_singleton.1 he', hok]

/-- **Every conversation of a program of the shape shows it**, and its change is a permitted one. -/
theorem Settles.changesLast {p : Program interface (Except ε α)} (hp : Settles M p)
    {t : List (Exchange interface)} {a : Except ε α} (ht : Conversation p t a) :
    ChangesLast t a ∧ ∀ e ∈ t, e.request.isMutation = true → M e.request := by
  induction hp generalizing t with
  | done b =>
    obtain ⟨rfl, rfl⟩ := conversation_done_iff.1 ht
    exact ⟨⟨Nat.zero_le _, by simp, by simp⟩, by simp⟩
  | read hr _ ih =>
    obtain ⟨x, rest, rfl, hrest⟩ := conversation_ask_iff.1 ht
    obtain ⟨hlast, hM⟩ := ih x hrest
    refine ⟨hlast.cons hr, fun e he hmut => ?_⟩
    rcases List.mem_cons.1 he with rfl | he
    · rw [hr] at hmut
      exact absurd hmut Bool.false_ne_true
    · exact hM e he hmut
  | change hr h hnext =>
    obtain ⟨x, rest, rfl, hrest⟩ := conversation_ask_iff.1 ht
    obtain ⟨b, hb, hok⟩ := hnext x
    rw [hb] at hrest
    obtain ⟨rfl, rfl⟩ := conversation_done_iff.1 hrest
    refine ⟨.single hok, fun e he _ => ?_⟩
    rw [List.mem_singleton.1 he]
    exact h

/-- A program that only reads has no conversation with a change in it. -/
theorem Settles.isMutation_eq_false {p : Program interface (Except ε α)} (hp : ReadsOnly p)
    {t : List (Exchange interface)} {a : Except ε α} (ht : Conversation p t a)
    {e : Exchange interface} (he : e ∈ t) : e.request.isMutation = false := by
  cases hmut : e.request.isMutation with
  | false => rfl
  | true => exact ((hp.changesLast ht).2 e he hmut).elim

/-- Where a conversation has a change in it, whatever only reads has come to its end before it. -/
theorem Settles.exists_rest {p : ExceptT ε (Program interface) α} (hp : ReadsOnly p.run)
    {f : α → ExceptT ε (Program interface) β} {t : List (Exchange interface)} {b : Except ε β}
    (ht : Conversation (p >>= f).run t b) {e : Exchange interface} (he : e ∈ t)
    (hmut : e.request.isMutation = true) :
    ∃ t₁ t₂ a, t = t₁ ++ t₂ ∧ Conversation p.run t₁ (.ok a) ∧ Conversation (f a).run t₂ b ∧
      e ∈ t₂ := by
  have hnot : ∀ {t₁ : List (Exchange interface)} {x}, Conversation p.run t₁ x → e ∉ t₁ := by
    intro t₁ x hconv hmem
    rw [hp.isMutation_eq_false hconv hmem] at hmut
    exact Bool.false_ne_true hmut
  rcases conversation_andThen_iff.1 ht with ⟨_, -, hfailed⟩ | ⟨t₁, t₂, a, rfl, hfirst, hrest⟩
  · exact absurd he (hnot hfailed)
  · rcases List.mem_append.1 he with he | he
    · exact absurd he (hnot hfirst)
    · exact ⟨t₁, t₂, a, rfl, hfirst, hrest, he⟩

/-- A handler whose state a read does not move. -/
def LeavesReads (h : Handler interface σ) : Prop :=
  ∀ r s, r.isMutation = false → (h r s).2 = s

/-- A cluster that is changed only by changes, and by these only when they succeed. -/
structure Transactional (h : Handler interface σ) : Prop where
  reads : LeavesReads h
  failures : ∀ r s, (h r s).1.isOk = false → (h r s).2 = s

/-- **A run either asks for no change and leaves the state as it was, or makes one change of it**, a
permitted one, and then succeeds exactly when the change does. -/
theorem Settles.outcome {p : Program interface (Except ε α)} (hp : Settles M p)
    {h : Handler interface σ} (hreads : LeavesReads h) (s : σ) :
    ((p.run h s).2 = s ∧ ∀ r ∈ p.asked h s, r.isMutation = false) ∨
      ∃ r ∈ p.asked h s, r.isMutation = true ∧ M r ∧ (p.run h s).2 = (h r s).2 ∧
        (p.run h s).1.isOk = (h r s).1.isOk := by
  induction hp generalizing s with
  | done a => exact .inl ⟨rfl, by simp⟩
  | @read r next hr _ ih =>
    have hrest := ih (h r s).1 (h r s).2
    rw [hreads r s hr] at hrest
    rw [Program.asked_ask, Program.run_ask, hreads r s hr]
    rcases hrest with ⟨hs, hasked⟩ | ⟨q, hq, hmut, hM, hs, hok⟩
    · refine .inl ⟨hs, fun q hq => ?_⟩
      rcases List.mem_cons.1 hq with rfl | hq
      · exact hr
      · exact hasked q hq
    · exact .inr ⟨q, List.mem_cons_of_mem _ hq, hmut, hM, hs, hok⟩
  | @change r next hr h' hnext =>
    obtain ⟨b, hb, hok⟩ := hnext (h r s).1
    refine .inr ⟨r, by rw [Program.asked_ask]; exact List.mem_cons_self, hr, h', ?_, ?_⟩
    · rw [Program.run_ask, hb, Program.run_done]
    · rw [Program.run_ask, hb, Program.run_done, hok]

/-- **On a transactional cluster a failed run changes nothing.** -/
theorem Settles.eq_of_error {p : Program interface (Except ε α)} (hp : Settles M p)
    {h : Handler interface σ} (ht : Transactional h) {s : σ} {e : ε}
    (he : (p.run h s).1 = .error e) : (p.run h s).2 = s := by
  rcases hp.outcome ht.reads s with ⟨hs, -⟩ | ⟨r, -, -, -, hs, hok⟩
  · exact hs
  · rw [hs]
    rw [he] at hok
    exact ht.failures r s hok.symm

/-! ### The operations that requests are made of -/

theorem readsOnly_resolveSnapshotClass (storageClass requested : String) :
    ReadsOnly (resolveSnapshotClass storageClass requested).run := by
  refine .andThen (.callRead rfl) fun found => .andThen (.orFail _ found) fun sc => ?_
  split
  · exact .andThen (.callRead rfl) fun _ => .ofExcept _
  · exact .andThen (.callRead rfl) fun found => .andThen (.orFail _ found) fun _ => .ofExcept _

theorem readsOnly_chooseSnapshotClass (policy : Policy) (storageClass requested : String) :
    ReadsOnly (chooseSnapshotClass policy storageClass requested).run := by
  refine .andThen (.ofExcept _) fun decision => ?_
  cases decision with
  | use name => exact readsOnly_resolveSnapshotClass storageClass name
  | useDefault restriction =>
    exact .andThen (readsOnly_resolveSnapshotClass storageClass "") fun _ => .ofExcept _

theorem readsOnly_storageClassForClaim (ns claim : String) :
    ReadsOnly (storageClassForClaim ns claim).run := by
  have hname : ReadsOnly (volumeNameFromClaim ns claim).run :=
    .andThen (.callRead rfl) fun found => .andThen (.orFail _ found) fun c => .orFail _ c.volumeName
  refine .andThen hname fun volumeName => .andThen (.callRead rfl) fun found => ?_
  split
  · exact .pure _
  · exact .andThen (.callRead rfl) fun _ => .orFail _ _

theorem readsOnly_enforceStorageClass (policy : Policy) (storageClass : String) :
    ReadsOnly (enforceStorageClass policy storageClass).run := by
  have hdefault : ReadsOnly (isDefaultStorageClass storageClass).run := by
    unfold isDefaultStorageClass
    split
    · exact .pure true
    · exact .andThen (.callRead rfl) fun _ => .pure _
  unfold enforceStorageClass
  split
  · exact .andThen hdefault fun _ => .ofExcept _
  · exact .andThen (.pure false) fun _ => .ofExcept _

/-- Making sure of a volume makes that volume, if anything. -/
theorem settles_ensureVolume (ns : String) (wanted : NewVolume) :
    Settles (· = .createVolume ns wanted) (ensureVolume ns wanted).run := by
  refine .andThen (.callRead rfl) fun found => ?_
  cases found with
  | some existing => exact .ofExcept _
  | none => exact .callChange rfl rfl

theorem settles_removeVolume (ns name : String) :
    Settles (· = .deleteVolume ns name) (removeVolume ns name).run := by
  have hcall : Settles (· = .deleteVolume ns name) (call (.deleteVolume ns name)).run :=
    .callChange rfl rfl
  exact hcall.andReturn fun _ => ()

theorem settles_attach (vm : InstanceRef) (attachment : Attachment) :
    Settles (· = .addDisk vm attachment) (attach vm attachment).run := by
  refine .andThen (.callRead rfl) fun disks => ?_
  split
  · exact .pure ()
  · exact .callChange rfl rfl

theorem settles_detach (vm : InstanceRef) (disk : String) :
    Settles (· = .removeDisk vm disk) (detach vm disk).run := by
  refine .andThen (.orMissing (.callRead rfl) (.pure [])) fun disks => ?_
  split
  · exact .callChange rfl rfl
  · exact .pure ()

theorem readsOnly_resolveInstance (ns nodeId : String) :
    ReadsOnly (resolveInstance ns nodeId).run := by
  unfold resolveInstance
  split
  · exact .fail _
  · split
    · exact .pure _
    · exact .andThen (.callRead rfl) fun _ => .andThen (.orFail _ _) fun _ => .pure _

end Hotplug.Cluster
