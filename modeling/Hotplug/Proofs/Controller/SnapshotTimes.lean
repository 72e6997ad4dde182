import Hotplug.Controller.Service
import Hotplug.Proofs.Api.Exchange
import Hotplug.Proofs.Cluster.Change
import Hotplug.Proofs.Json.Render
import Hotplug.Proofs.Timestamp.Written

/-!
# When snapshots were taken

The snapshots that the controller answers with are those that the API server tells of: each is read
of an object in an answer of the server, and was taken when that object says, to the nanosecond. A
leap second comes with more nanoseconds than a second has.

## Main definitions

* `Told answer object` — an answer of the API server tells of an object: as the one asked for, or as
  an item of a listing.
* `Brings e x` — an exchange with the cluster brings a snapshot.
* `snapshotsIn response` — the snapshots that the controller answers with.

## Main results

* `exists_brings_of_respond` — the controller answers with snapshots that the cluster brings.
* `Api.exists_told_of_brings` — the cluster brings what the API server tells of.
* `snapshot_times` — **when a snapshot in an answer was taken.**
* `leap_second_overflows` — a leap second is no valid time for the orchestrator.
-/

namespace Hotplug

/-- `Brings e x` says that an exchange with the cluster brings a snapshot: one that was looked up,
one of those listed, or the one that was made. -/
inductive Brings : Exchange Cluster.interface → RemoteSnapshot → Prop
  | found (ns name : String) (x : RemoteSnapshot) : Brings ⟨.getSnapshot ns name, .ok (some x)⟩ x
  | listed (ns selector : String) {all : List RemoteSnapshot} {x : RemoteSnapshot} (h : x ∈ all) :
    Brings ⟨.listSnapshots ns selector, .ok all⟩ x
  | made (ns : String) (wanted : NewSnapshot) (x : RemoteSnapshot) :
    Brings ⟨.createSnapshot ns wanted, .ok x⟩ x

/-! ### The controller -/

namespace Controller

open Cluster (interface)

variable {s : Settings} {now : Instant} {t : List (Exchange interface)}

/-- A snapshot that is taken, or was, is brought by the cluster. -/
theorem exists_brings_of_takeSnapshot {r : CreateSnapshot} {x : RemoteSnapshot}
    (h : Conversation (takeSnapshot s r).run t (.ok x)) : ∃ e ∈ t, Brings e x := by
  unfold takeSnapshot at h
  split at h
  · cases (conversation_done_iff.1 h).2
  split at h
  · cases (conversation_done_iff.1 h).2
  obtain ⟨t₁, t₂, found, rfl, hlook, hrest⟩ := conversation_ok_iff.1 h
  obtain rfl := Cluster.conversation_call_iff.1 hlook
  cases found with
  | some existing =>
    obtain ⟨rfl, hreuse⟩ := conversation_ofExcept_iff.1 hrest
    have hsame : existing = x := by
      unfold reuseSnapshot at hreuse
      split at hreuse
      · exact (Except.ok.inj hreuse).symm
      · cases hreuse
    exact ⟨_, List.mem_cons_self, hsame ▸ .found _ _ _⟩
  | none =>
    obtain ⟨t₃, t₄, _, rfl, -, henforce⟩ := conversation_ok_iff.1 hrest
    obtain ⟨t₅, t₆, _, rfl, -, hchoose⟩ := conversation_ok_iff.1 henforce
    obtain ⟨t₇, t₈, _, rfl, -, hmake⟩ := conversation_ok_iff.1 hchoose
    obtain rfl := Cluster.conversation_call_iff.1 hmake
    exact ⟨_, List.mem_append_right _ (List.mem_append_right _ (List.mem_append_right _
      (List.mem_append_right _ List.mem_cons_self))), .made _ _ _⟩

/-- A snapshot that matches a listing is brought by the cluster. -/
theorem exists_brings_of_matching {r : ListSnapshots} {found : List RemoteSnapshot}
    (h : Conversation (matching s r).run t (.ok found)) {x : RemoteSnapshot} (hx : x ∈ found) :
    ∃ e ∈ t, Brings e x := by
  unfold matching at h
  split at h
  · obtain ⟨t₁, t₂, single, rfl, hlook, hrest⟩ := conversation_ok_iff.1 h
    obtain rfl := Cluster.conversation_call_iff.1 hlook
    obtain ⟨rfl, hfound⟩ := conversation_pure_iff.1 hrest
    obtain rfl := Except.ok.inj hfound
    obtain rfl : single = some x := by simpa using (List.mem_filter.1 hx).1
    exact ⟨_, List.mem_cons_self, .found _ _ _⟩
  · obtain ⟨t₁, t₂, all, rfl, hlist, hrest⟩ := conversation_ok_iff.1 h
    obtain rfl := Cluster.conversation_call_iff.1 hlist
    obtain ⟨rfl, hfound⟩ := conversation_pure_iff.1 hrest
    obtain rfl := Except.ok.inj hfound
    rw [List.mem_mergeSort, List.mem_filter] at hx
    exact ⟨_, List.mem_cons_self, .listed _ _ hx.1⟩

/-- The snapshots that the controller answers with. -/
def snapshotsIn : Response → List Snapshot
  | .snapshot s => [s]
  | .snapshots entries _ => entries
  | _ => []

/-- A page has only items of the list. -/
theorem mem_of_mem_pageFrom {α : Type} {items : List α} {maxEntries : Int} {start : Nat} {a : α}
    (h : a ∈ (pageFrom items maxEntries start).1) : a ∈ items := by
  unfold pageFrom at h
  dsimp only at h
  split at h
  · exact List.mem_of_mem_drop (List.mem_of_mem_take h)
  · exact List.mem_of_mem_drop h

/-- The snapshots of a listing are brought by the cluster. -/
theorem exists_brings_of_respondList {r : ListSnapshots} {outcome : Outcome Response}
    (h : Conversation (respondList s now r).run t (.ok outcome)) {reply : Snapshot}
    (hreply : reply ∈ snapshotsIn outcome.response) :
    ∃ x, reply = snapshotReply now x ∧ ∃ e ∈ t, Brings e x := by
  unfold respondList at h
  split at h
  · cases (conversation_done_iff.1 h).2
  obtain ⟨t₁, t₂, found, rfl, hof, hrest⟩ := conversation_ok_iff.1 h
  obtain ⟨y, hmatching, hy⟩ := conversation_of_iff.1 hof
  obtain rfl : y = .ok found := by
    cases y with
    | error e => cases hy
    | ok all => rw [Except.ok.inj hy]
  cases hpage : paginate found r.maxEntries r.startingToken with
  | error status =>
    rw [hpage] at hrest
    cases (conversation_done_iff.1 hrest).2
  | ok page =>
    obtain ⟨entries, token⟩ := page
    rw [hpage] at hrest
    obtain ⟨-, houtcome⟩ := conversation_pure_iff.1 hrest
    obtain rfl := Except.ok.inj houtcome
    obtain ⟨x, hx, rfl⟩ := List.mem_map.1 hreply
    have hfound : x ∈ found := by
      unfold paginate at hpage
      split at hpage
      · cases hpage
      · cases hpage
        exact mem_of_mem_pageFrom hx
    obtain ⟨e, he, hbrings⟩ := exists_brings_of_matching hmatching hfound
    exact ⟨x, rfl, e, List.mem_append_left _ he, hbrings⟩

/-- An answer of a body that is brought to its end is worded after it. -/
theorem exists_body {α : Type} {p : Attempt interface α} {g : α → Outcome Response}
    {outcome : Outcome Response}
    (h : Conversation (Answering.of p >>= fun a => pure (g a) : Answering _ _).run t (.ok outcome)) :
    ∃ a, Conversation p.run t (.ok a) ∧ outcome = g a := by
  obtain ⟨y, hof, hy⟩ := conversation_andReturn_iff.1 h
  obtain ⟨x, hp, rfl⟩ := conversation_of_iff.1 hof
  cases x with
  | error e => cases hy
  | ok a => exact ⟨a, hp, Except.ok.inj hy⟩

/-- **The controller answers with snapshots that the cluster brings.** -/
theorem exists_brings_of_respond {r : Request} {outcome : Outcome Response}
    (h : Conversation (respond s now r).run t (.ok outcome)) {reply : Snapshot}
    (hreply : reply ∈ snapshotsIn outcome.response) :
    ∃ x, reply = snapshotReply now x ∧ ∃ e ∈ t, Brings e x := by
  cases r with
  | listSnapshots r => exact exists_brings_of_respondList h hreply
  | createSnapshot r =>
    obtain ⟨x, htake, rfl⟩ := exists_body h
    exact ⟨x, List.mem_singleton.1 hreply, exists_brings_of_takeSnapshot htake⟩
  -- The other answers have no snapshots.
  | createVolume r =>
    obtain ⟨_, -, rfl⟩ := exists_body h
    cases hreply
  | publishVolume r =>
    obtain ⟨_, -, rfl⟩ := exists_body h
    cases hreply
  | unpublishVolume r =>
    obtain ⟨_, -, rfl⟩ := exists_body h
    cases hreply
  | validateCapabilities r =>
    obtain ⟨_, -, rfl⟩ := exists_body h
    cases hreply
  | deleteVolume id =>
    rw [respond] at h
    split at h
    · cases (conversation_done_iff.1 h).2
    · obtain ⟨_, -, rfl⟩ := exists_body h
      cases hreply
  | deleteSnapshot id =>
    rw [respond] at h
    split at h
    · cases (conversation_done_iff.1 h).2
    · obtain ⟨_, -, rfl⟩ := exists_body h
      cases hreply
  | getCapabilities =>
    obtain ⟨-, houtcome⟩ := conversation_pure_iff.1 h
    obtain rfl := Except.ok.inj houtcome
    cases hreply
  | unserved name => cases (conversation_done_iff.1 h).2

end Controller

/-! ### The API server -/

namespace Api

variable {t : List (Exchange Http.interface)}

/-- An answer of the API server tells of an object: as the one asked for, or as an item of a
listing. -/
def Told (answer : Option Http.Response) (object : Json) : Prop :=
  objectIn Kind.snapshot.shape answer = .ok object ∨
    ∃ listing, objectIn Kind.snapshot.listShape answer = .ok listing ∧
      object ∈ ((listing.last? "items").bind Json.items?).getD []

/-- An operation succeeds where its conversation does. -/
theorem conversation_during_ok {α : Type} {call : Http.Call α} {operation : String} {a : α}
    (h : Conversation (call.during operation).run t (.ok a)) : Conversation call.run t (.ok a) := by
  obtain ⟨t₁, t₂, y, rfl, hcall, hlast⟩ := conversation_bind_iff.1 h
  cases y with
  | error failure => cases (conversation_done_iff.1 hlast).2
  | ok b =>
    obtain ⟨rfl, heq⟩ := conversation_done_iff.1 hlast
    obtain rfl := Except.ok.inj heq
    rwa [List.append_nil]

/-- What an exchange brings of a shape is in the one answer to it. -/
theorem exists_objectIn {method : Http.Method} {place : String} {body : Option Json}
    {shape : Schema} {object : Json}
    (h : Conversation (exchange method place body >>= shaped shape).run t (.ok object)) :
    ∃ e ∈ t, objectIn shape e.answer = .ok object := by
  -- At a place that is none nothing is asked, and nothing brought.
  cases hplace : Location.ofText place with
  | error failure =>
    have hfail : (exchange method place body >>= shaped shape).run =
        .done (.error .unbuildable) := by
      unfold exchange
      rw [hplace]
      rfl
    rw [hfail] at h
    cases (conversation_done_iff.1 h).2
  | ok location =>
    rw [shapedExchange_eq hplace] at h
    obtain ⟨answer, rest, rfl, hrest⟩ := conversation_ask_iff.1 h
    exact ⟨_, List.mem_cons_self, (conversation_done_iff.1 hrest).2.symm⟩

/-- A snapshot that is looked up is read of an object that the server tells of. -/
theorem exists_told_of_findSnapshot {ns name : String} {x : RemoteSnapshot}
    (h : Conversation (findSnapshot ns name).run t (.ok (some x))) :
    ∃ e ∈ t, ∃ object, Told e.answer object ∧ x = RemoteSnapshot.ofObject object := by
  obtain ⟨y, hlook, hy⟩ := conversation_andReturn_iff.1 h
  cases y with
  | error e => cases hy
  | ok found =>
    obtain ⟨object, rfl, rfl⟩ := Option.map_eq_some_iff.1 (Except.ok.inj hy).symm
    have hget := conversation_during_ok hlook
    cases hlocation : locationOf? .snapshot ns name with
    | none =>
      rw [get?_eq_of_none hlocation] at hget
      cases (conversation_done_iff.1 hget).2
    | some location =>
      rw [get?_eq hlocation] at hget
      obtain ⟨answer, rest, rfl, hrest⟩ := conversation_ask_iff.1 hget
      have hbrought := brought_eq_some_iff.1 (conversation_done_iff.1 hrest).2.symm
      exact ⟨_, List.mem_cons_self, object, .inl hbrought, rfl⟩

/-- The snapshots of a listing are read of the objects that the server tells of. -/
theorem exists_told_of_findSnapshots {ns selector : String} {all : List RemoteSnapshot}
    {x : RemoteSnapshot} (h : Conversation (findSnapshots ns selector).run t (.ok all))
    (hx : x ∈ all) : ∃ e ∈ t, ∃ object, Told e.answer object ∧ x = RemoteSnapshot.ofObject object := by
  obtain ⟨y, hlist, hy⟩ := conversation_andReturn_iff.1 h
  cases y with
  | error e => cases hy
  | ok objects =>
    obtain rfl := Except.ok.inj hy
    obtain ⟨object, hobject, rfl⟩ := List.mem_map.1 hx
    have hcall := conversation_during_ok hlist
    unfold list at hcall
    obtain ⟨t₁, t₂, text, rfl, hexchange, hrest⟩ := conversation_ok_iff.1 hcall
    obtain ⟨t₃, t₄, listing, rfl, hshaped, hlast⟩ := conversation_ok_iff.1 hrest
    obtain ⟨rfl, hobjects⟩ := conversation_pure_iff.1 hlast
    obtain rfl := Except.ok.inj hobjects
    obtain ⟨e, he, hlisting⟩ := exists_objectIn
      (conversation_ok_iff.2 ⟨t₁, t₃, text, rfl, hexchange, hshaped⟩)
    exact ⟨e, by simpa using he, object, .inr ⟨listing, hlisting, hobject⟩, rfl⟩

/-- A snapshot that is made is read of the object that the server tells of. -/
theorem exists_told_of_makeSnapshot {ns : String} {wanted : NewSnapshot} {x : RemoteSnapshot}
    (h : Conversation (makeSnapshot ns wanted).run t (.ok x)) :
    ∃ e ∈ t, ∃ object, Told e.answer object ∧ x = RemoteSnapshot.ofObject object := by
  obtain ⟨y, hmake, hy⟩ := conversation_andReturn_iff.1 h
  cases y with
  | error e => cases hy
  | ok object =>
    obtain rfl := Except.ok.inj hy
    obtain ⟨e, he, hobject⟩ := exists_objectIn (conversation_during_ok hmake)
    exact ⟨e, he, object, .inl hobject, rfl⟩

/-- **The cluster brings what the API server tells of.** -/
theorem exists_told_of_brings {e : Exchange Cluster.interface} {x : RemoteSnapshot}
    (h : Conversation (conversation e.request).run t e.answer) (hbrings : Brings e x) :
    ∃ e' ∈ t, ∃ object, Told e'.answer object ∧ x = RemoteSnapshot.ofObject object := by
  cases hbrings with
  | found => exact exists_told_of_findSnapshot h
  | listed _ _ hx => exact exists_told_of_findSnapshots h hx
  | made => exact exists_told_of_makeSnapshot h

end Api

/-! ### Times -/

namespace Controller

open Api (Told)
open Timestamp (Written)

/-- **When a snapshot in an answer was taken.** Every snapshot that the controller answers with is
read of an object that the API server told of. Where the object says when it was made, in a text
that is accepted, that text is a written time, at one instant; and the seconds and nanoseconds of
the answer are this instant, to the nanosecond. The nanoseconds are fewer than a second has exactly
where the text names no leap second, and they are never as many as two seconds have. -/
theorem snapshot_times {s : Settings} {now : Instant} {r : Request}
    {t : List (Exchange Http.interface)} {outcome : Outcome Response}
    (h : Conversation (Api.onServer (respond s now r).run) t (.ok outcome)) {reply : Snapshot}
    (hreply : reply ∈ snapshotsIn outcome.response) :
    ∃ e ∈ t, ∃ object, Told e.answer object ∧
      reply = snapshotReply now (RemoteSnapshot.ofObject object) ∧
      ∀ text instant, Api.Object.textAt? ["status", "creationTime"] object = some text →
        Timestamp.read? text = some instant →
        ∃ w : Written, w.Valid ∧ w.text = text ∧ ∃ time, w.Denotes time ∧
          10 ^ 9 * reply.created.seconds + reply.created.nanos = ⌊(10 : ℚ) ^ 9 * time⌋ ∧
          (reply.created.nanos ≤ 999999999 ↔ w.second.value ≠ 60) ∧
          reply.created.nanos < 2 * 10 ^ 9 := by
  obtain ⟨t', hcluster, hparts⟩ := exists_conversation_of_expand h
  obtain ⟨x, rfl, e, he, hbrings⟩ := exists_brings_of_respond hcluster hreply
  obtain ⟨part, hpart, hconv⟩ := hparts e he
  obtain ⟨e', he', object, htold, rfl⟩ := Api.exists_told_of_brings hconv hbrings
  refine ⟨e', hpart.subset he', object, htold, rfl, ?_⟩
  intro text instant htext hread
  have hcreated : (snapshotReply now (RemoteSnapshot.ofObject object)).created = instant := by
    have hfound : (RemoteSnapshot.ofObject object).created = some instant := by
      change (Api.Object.textAt? _ object).bind Timestamp.read? = _
      rw [htext, Option.bind_some, hread]
    unfold snapshotReply
    rw [hfound, Option.getD_some]
  obtain ⟨w, hvalid, rfl, rfl⟩ := Written.read?_eq_some_iff.1 hread
  obtain ⟨time, htime, -⟩ := hvalid.existsUnique_denotes
  rw [hcreated]
  refine ⟨w, hvalid, rfl, time, htime, hvalid.instant_eq htime, ?_, w.nanos_instant_lt⟩
  rw [← w.nanos_instant_lt_iff]
  omega

/-- The object of a snapshot that was made at some time. -/
def datedObject (time : String) : Json :=
  .object [("metadata", .object [("name", .string "snap-1"), ("namespace", .string "infra")]),
    ("status", .object [("creationTime", .string time)])]

/-- The place of that snapshot. -/
def datedPlace : Location :=
  ⟨"/apis/snapshot.storage.k8s.io/v1/namespaces/infra/volumesnapshots/snap-1", []⟩

/-- A listing of that snapshot alone. -/
def datedOrder : Request :=
  .listSnapshots { snapshotId := "snap-1" }

/-- The snapshot as the controller answers with it. -/
def datedReply (time : String) : Snapshot :=
  snapshotReply ⟨0, 0⟩ (RemoteSnapshot.ofObject (datedObject time))

/-- The request that finds the snapshot, and the answer of the server. -/
def datedExchange (time : String) : Exchange Http.interface :=
  ⟨⟨.get, datedPlace, none⟩, some (Api.telling 200 (datedObject time))⟩

/-- The server tells of the snapshot, whenever it was made. -/
theorem objectIn_dated {time : String}
    (hascii : ((datedObject time).renderChars.all fun c => c.toNat < 128) = true) :
    Api.objectIn Api.Kind.snapshot.shape (some (Api.telling 200 (datedObject time))) =
      .ok (datedObject time) := by
  have hmeta : Json.Plain 126
      (.object [("name", .string "snap-1"), ("namespace", .string "infra")]) := .object (by simp)
  have hstatus : Json.Plain 126 (.object [("creationTime", .string time)]) := .object (by simp)
  have hplain : Json.Plain Json.maxDepth (datedObject time) := .object (by simp [hmeta, hstatus])
  exact Api.objectIn_telling (by decide) hascii (Json.parseChars?_renderChars hplain) rfl

/-- The listing is answered by one request to the API server. -/
theorem conversation_dated {time : String}
    (hascii : ((datedObject time).renderChars.all fun c => c.toNat < 128) = true) :
    Conversation (Api.onServer (respond { ns := "infra" } ⟨0, 0⟩ datedOrder).run)
      [datedExchange time] (.ok { response := .snapshots [datedReply time] "" }) := by
  have hlocation : Api.locationOf? .snapshot "infra" "snap-1" = some datedPlace := by
    decide
  have hget : Conversation ((Api.get? .snapshot "infra" "snap-1").during
      "get VolumeSnapshot infra/snap-1").run [datedExchange time]
      (.ok (some (datedObject time))) := by
    rw [Api.during_eq (Api.get?_eq hlocation)]
    refine .ask _ ?_
    rw [Api.brought_eq_some_iff.2 (objectIn_dated hascii)]
    exact .done _
  have hfind : Conversation (Api.findSnapshot "infra" "snap-1").run [datedExchange time]
      (.ok (some (RemoteSnapshot.ofObject (datedObject time)))) :=
    conversation_andReturn_iff.2 ⟨_, hget, rfl⟩
  change Conversation (Program.expand _
    (@Program.ask Cluster.interface _ (.getSnapshot "infra" "snap-1") _))
    ([datedExchange time] ++ []) _
  refine Conversation.expand_ask hfind ?_
  exact .done _

/-- The server tells of no other object. -/
theorem eq_datedObject_of_told {time : String} {object : Json}
    (hascii : ((datedObject time).renderChars.all fun c => c.toNat < 128) = true)
    (htold : Told (datedExchange time).answer object) : object = datedObject time := by
  have hone := objectIn_dated hascii
  rcases htold with hobject | ⟨listing, hlisting, hitem⟩
  · exact Except.ok.inj (hobject.symm.trans hone)
  · -- Read as a listing, the object would be one without items.
    obtain ⟨_, text, hanswer, htext, hparsed, -⟩ := Api.objectIn_eq_ok_iff.1 hlisting
    obtain ⟨_, text', hanswer', htext', hparsed', -⟩ := Api.objectIn_eq_ok_iff.1 hone
    obtain rfl := Option.some.inj (hanswer.symm.trans hanswer')
    obtain rfl := Except.ok.inj (htext.symm.trans htext')
    obtain rfl := Option.some.inj (hparsed.symm.trans hparsed')
    cases hitem

/-- A snapshot that was made at ten o'clock and a half second, on a clock that is two hours ahead.
-/
theorem snapshot_times_ahead :
    Conversation (Api.onServer (respond { ns := "infra" } ⟨0, 0⟩ datedOrder).run)
        [datedExchange "2024-05-01T10:00:00.5+02:00"]
        (.ok { response := .snapshots [datedReply "2024-05-01T10:00:00.5+02:00"] "" }) ∧
      Timestamp.read? "2024-05-01T10:00:00.5+02:00" = some ⟨1714550400, 500000000⟩ ∧
      ∃ w : Written, w.Valid ∧ w.text = "2024-05-01T10:00:00.5+02:00" ∧ ∃ time, w.Denotes time ∧
        ⌊(10 : ℚ) ^ 9 * time⌋ = 1714550400500000000 := by
  have hread : Timestamp.read? "2024-05-01T10:00:00.5+02:00" = some ⟨1714550400, 500000000⟩ := by
    decide
  have hascii : ((datedObject "2024-05-01T10:00:00.5+02:00").renderChars.all
      fun c => c.toNat < 128) = true := by
    decide
  have hcreated : (datedReply "2024-05-01T10:00:00.5+02:00").created = ⟨1714550400, 500000000⟩ := by
    decide
  have hconv := conversation_dated hascii
  obtain ⟨e, he, object, htold, -, htimes⟩ := snapshot_times hconv (List.mem_singleton_self _)
  obtain rfl := List.mem_singleton.1 he
  obtain rfl := eq_datedObject_of_told hascii htold
  obtain ⟨w, hvalid, htext, time, htime, hinstant, -⟩ := htimes _ _ rfl hread
  rw [hcreated] at hinstant
  exact ⟨hconv, hread, w, hvalid, htext, time, htime, hinstant.symm⟩

/-- **A leap second is no valid time for the orchestrator**: its text is accepted, and the snapshot
is answered with as many nanoseconds as a second has. -/
theorem leap_second_overflows :
    Conversation (Api.onServer (respond { ns := "infra" } ⟨0, 0⟩ datedOrder).run)
        [datedExchange "2016-12-31T23:59:60Z"]
        (.ok { response := .snapshots [datedReply "2016-12-31T23:59:60Z"] "" }) ∧
      Timestamp.read? "2016-12-31T23:59:60Z" = some ⟨1483228799, 1000000000⟩ ∧
      (datedReply "2016-12-31T23:59:60Z").created = ⟨1483228799, 1000000000⟩ ∧
      ¬ (datedReply "2016-12-31T23:59:60Z").created.nanos ≤ 999999999 :=
  ⟨conversation_dated (by decide), by decide, by decide, by decide⟩

end Controller

end Hotplug
