import Hotplug.Proofs.Controller.Run
import Hotplug.Proofs.Quantity
import Hotplug.Proofs.Text
import Mathlib.Algebra.Order.Floor.Div
import Mathlib.Data.List.Nodup

/-!
# Listing page by page

A listing is asked for in pages. Every page comes with the token of the next, which is an offset
into the list, and for every page the cluster is asked for all snapshots again. As long as these
stay the same the pages fit together, in whatever order the cluster lists them, since their names
put them into one order.

## Main definitions

* `Steady h s all P` — in the states of `P` the cluster lists the snapshots `all`, in any order.
* `ofSource source all`, `sorted source all` — those of a source, and these in the order of names.
* `Pages h s source k c token pages` — the pages that follow one another from a token on.
* `CutInto source k all parts` — how pages of `k` entries cut the snapshots of a source.
* `ShowParts parts pages` — the pages show these parts, entry by entry.
* `NamesOffset token m` — a token is the number `m` in decimal digits.

## Main results

* `sorted_eq_of_perm` — the order in which snapshots are listed does not matter.
* `listPage_eq` — what the answer with a page is.
* `exists_pages_from` — the pages from any offset on.
* `listing_pages_once` — **following the tokens lists everything exactly once.**
-/

namespace Hotplug

namespace Controller

open Cluster (interface)

/-! ### Tokens -/

/-- A token is a number: its decimal digits, perhaps after a plus sign. -/
def NamesOffset (token : String) (m : Nat) : Prop :=
  ∃ digits, (token.toList = digits ∨ token.toList = '+' :: digits) ∧ digits ≠ [] ∧
    (∀ c ∈ digits, c.isDigit = true) ∧ Nat.ofDigitChars 10 digits 0 = m

/-- Tokens are read as the numbers that they are. -/
theorem namesOffset_iff {token : String} {m : Nat} :
    NamesOffset token m ↔ Digits.readPlusNat? token.toList = some m := by
  unfold NamesOffset Digits.readPlusNat?
  simp only [← Digits.readNat?_eq_some_iff]
  split
  · next rest heq =>
    -- A plus sign is no digit, so that only what follows it can be the digits.
    constructor
    · rintro ⟨digits, hdigits | hdigits, hread⟩
      · obtain ⟨-, hall, -⟩ := Digits.readNat?_eq_some_iff.1 hread
        rw [← hdigits, heq] at hall
        exact absurd (hall '+' List.mem_cons_self) (by decide)
      · rw [heq] at hdigits
        rwa [(List.cons.inj hdigits).2]
    · intro hread
      exact ⟨rest, .inr heq, hread⟩
  · next hplus =>
    constructor
    · rintro ⟨digits, hdigits | hdigits, hread⟩
      · rwa [hdigits]
      · exact absurd hdigits (hplus digits)
    · intro hread
      exact ⟨token.toList, .inl rfl, hread⟩

theorem offset?_empty (length : Nat) : offset? length "" = some 0 := rfl

theorem offset?_eq_some_iff {length start : Nat} {token : String} (hne : token ≠ "") :
    offset? length token = some start ↔ NamesOffset token start ∧ start ≤ length := by
  unfold offset?
  rw [if_neg (by simpa using hne), Option.filter_eq_some_iff, namesOffset_iff]
  simp

/-- A token that was handed out is the offset that it was made for. -/
theorem offset?_text {length start : Nat} (h : start ≤ length) :
    offset? length (Digits.text start) = some start := by
  rw [offset?_eq_some_iff (Digits.text_ne_empty start), namesOffset_iff]
  have hdigits : (Digits.text start).toList = Digits.ofNat start := by
    unfold Digits.text Digits.ofInt
    rw [String.toList_ofList, if_neg (by omega), Int.natAbs_natCast]
  rw [hdigits]
  exact ⟨Digits.readPlusNat?_ofNat start, h⟩

/-! ### What is listed -/

section Listing

variable {σ : Type} {h : Handler interface σ} {s : Settings} {all listed : List RemoteSnapshot}
  {P : σ → Prop} {source token : String} {c c' : σ} {k : Int}

/-- A cluster whose snapshots stay the same: in the states of `P` it lists `all` of them, in any
order, and to list them does not leave `P`. -/
structure Steady (h : Handler interface σ) (s : Settings) (all : List RemoteSnapshot)
    (P : σ → Prop) : Prop where
  lists : ∀ c, P c → ∃ listed, (h (.listSnapshots s.ns (Labels.selector s.labels)) c).1 =
    .ok listed ∧ listed.Perm all
  stays : ∀ c, P c → P (h (.listSnapshots s.ns (Labels.selector s.labels)) c).2

/-- The snapshots of a source, or all of them where none is given. -/
def ofSource (source : String) (all : List RemoteSnapshot) : List RemoteSnapshot :=
  all.filter fun v => source = "" ∨ v.sourceVolume = source

/-- These in the order of their names. -/
def sorted (source : String) (all : List RemoteSnapshot) : List RemoteSnapshot :=
  (ofSource source all).mergeSort fun v w => decide (v.name ≤ w.name)

theorem sorted_perm (source : String) (all : List RemoteSnapshot) :
    (sorted source all).Perm (ofSource source all) :=
  List.mergeSort_perm _ _

/-- They are in ascending order. -/
theorem pairwise_sorted (source : String) (all : List RemoteSnapshot) :
    (sorted source all).Pairwise fun v w => v.name ≤ w.name := by
  have htrans : ∀ u v w : RemoteSnapshot, decide (u.name ≤ v.name) = true →
      decide (v.name ≤ w.name) = true → decide (u.name ≤ w.name) = true := by
    intro u v w huv hvw
    exact decide_eq_true (String.le_trans (of_decide_eq_true huv) (of_decide_eq_true hvw))
  have htotal : ∀ v w : RemoteSnapshot,
      (decide (v.name ≤ w.name) || decide (w.name ≤ v.name)) = true := by
    intro v w
    rw [Bool.or_eq_true, decide_eq_true_eq, decide_eq_true_eq]
    exact String.le_total v.name w.name
  have hpairwise := List.pairwise_mergeSort htrans htotal (ofSource source all)
  exact hpairwise.imp of_decide_eq_true

/-- Names that are unique among all are unique among those of a source. -/
theorem nodup_names_sorted (hunique : (all.map (·.name)).Nodup) :
    ((sorted source all).map (·.name)).Nodup := by
  refine ((sorted_perm source all).map _).nodup_iff.2 ?_
  exact hunique.sublist (List.filter_sublist.map _)

/-- **The order in which snapshots are listed does not matter**, if their names are unique. -/
theorem sorted_eq_of_perm (hunique : (all.map (·.name)).Nodup) (hperm : listed.Perm all) :
    sorted source listed = sorted source all := by
  have hsame : (sorted source listed).Perm (sorted source all) :=
    (sorted_perm source listed).trans
      ((hperm.filter _).trans (sorted_perm source all).symm)
  refine hsame.eq_of_pairwise (fun v w hv hw hvw hwv => ?_) (pairwise_sorted source listed)
    (pairwise_sorted source all)
  exact List.inj_on_of_nodup_map (nodup_names_sorted hunique) (hsame.subset hv) hw
    (String.le_antisymm hvw hwv)

/-- With unique names they ascend strictly, also byte by byte. -/
theorem pairwise_bytes_sorted (hunique : (all.map (·.name)).Nodup) :
    (sorted source all).Pairwise fun v w =>
      v.name.toUTF8.data.toList < w.name.toUTF8.data.toList := by
  have hne : (sorted source all).Pairwise fun v w => v.name ≠ w.name :=
    List.pairwise_map.1 (nodup_names_sorted hunique)
  refine ((pairwise_sorted source all).and hne).imp fun hboth => Text.lt_iff_bytes_lt.1 ?_
  obtain ⟨hle, hname⟩ := hboth
  exact lt_of_le_of_ne hle hname

/-! ### One page -/

/-- The request for the snapshots of a source, at most so many, from a token on. -/
def pageRequest (source : String) (maxEntries : Int) (token : String) : ListSnapshots :=
  { maxEntries, startingToken := token, sourceVolumeId := source }

/-- What such a request is answered, and the state after it. -/
def listPage (h : Handler interface σ) (s : Settings) (source : String) (maxEntries : Int)
    (token : String) (now : Instant) (c : σ) : Except Status (Outcome Response) × σ :=
  runOn h (respond s now (.listSnapshots (pageRequest source maxEntries token))) c

/-- The answer with a page of snapshots and the token of the next page. -/
def pageAnswer (now : Instant) (page : List RemoteSnapshot) (next : String) : Outcome Response :=
  { response := .snapshots (page.map (snapshotReply now)) next }

theorem runOn_matching (hlisted : (h (.listSnapshots s.ns (Labels.selector s.labels)) c).1 =
    .ok listed) :
    runOn h (matching s (pageRequest source k token)) c =
      (.ok (sorted source listed), (h (.listSnapshots s.ns (Labels.selector s.labels)) c).2) := by
  have hlist : runOn h (Cluster.listSnapshots s.ns (Labels.selector s.labels)) c =
      (.ok listed, (h (.listSnapshots s.ns (Labels.selector s.labels)) c).2) :=
    Prod.ext hlisted rfl
  have hsource : isOfSource (pageRequest source k token) =
      fun v => decide (source = "" ∨ v.sourceVolume = source) := by
    funext v
    unfold isOfSource pageRequest
    rw [Bool.eq_iff_iff]
    simp
  unfold matching
  simp only [hsource]
  exact runOn_bind_ok hlist

/-- **A page of a steady cluster is a page of its snapshots in order.** -/
theorem listPage_eq (hsteady : Steady h s all P) (hunique : (all.map (·.name)).Nodup) (hc : P c)
    (hk : 0 ≤ k) (now : Instant) :
    listPage h s source k token now c =
      ((paginate (sorted source all) k token).map fun x => pageAnswer now x.1 x.2,
        (h (.listSnapshots s.ns (Labels.selector s.labels)) c).2) := by
  obtain ⟨listed, hlisted, hperm⟩ := hsteady.lists c hc
  have hmatching : runOn h (Answering.of (matching s (pageRequest source k token))) c =
      (.ok (sorted source all), (h (.listSnapshots s.ns (Labels.selector s.labels)) c).2) := by
    rw [runOn_of, runOn_matching hlisted, sorted_eq_of_perm hunique hperm]
    rfl
  unfold listPage
  rw [respond, respondList]
  have hsign : ¬ (pageRequest source k token).maxEntries < 0 := by
    change ¬ k < 0
    omega
  rw [if_neg hsign, runOn_bind_ok hmatching]
  have hpaged : paginate (sorted source all) (pageRequest source k token).maxEntries
      (pageRequest source k token).startingToken = paginate (sorted source all) k token := rfl
  simp only [hpaged]
  cases paginate (sorted source all) k token with
  | error status => rfl
  | ok page => rfl

/-- Whatever token comes with a page is an offset into the list. -/
theorem exists_offset_pageFrom {α : Type} (items : List α) (k : Int) (start : Nat) :
    ∃ stop, offset? items.length (pageFrom items k start).2 = some stop := by
  unfold pageFrom
  dsimp only
  generalize start + _ = stop
  by_cases hstop : stop < items.length
  · rw [if_pos hstop]
    exact ⟨stop, offset?_text hstop.le⟩
  · rw [if_neg hstop]
    exact ⟨0, offset?_empty items.length⟩

/-! ### One page after another -/

/-- The pages that follow one another from a token on, until one comes without a token. A page is
given as a function of the moment at which it is asked for, since a snapshot whose time is not
recorded is reported as taken at that moment. -/
inductive Pages (h : Handler interface σ) (s : Settings) (source : String) (k : Int) :
    σ → String → List (Instant → List Snapshot) → Prop
  | last {c c' : σ} {token : String} {page : Instant → List Snapshot}
      (answered : ∀ now, listPage h s source k token now c =
        (.ok { response := .snapshots (page now) "" }, c')) : Pages h s source k c token [page]
  | next {c c' : σ} {token next : String} {page : Instant → List Snapshot}
      {pages : List (Instant → List Snapshot)}
      (answered : ∀ now, listPage h s source k token now c =
        (.ok { response := .snapshots (page now) next }, c'))
      (more : next ≠ "") (rest : Pages h s source k c' next pages) :
      Pages h s source k c token (page :: pages)

/-- How a page of snapshots is reported. -/
def reported (page : List RemoteSnapshot) (now : Instant) : List Snapshot :=
  page.map (snapshotReply now)

/-- What is reported shows the snapshots of the page. -/
theorem shows_reported (page : List RemoteSnapshot) (now : Instant) :
    List.Forall₂ (Shows now) page (reported page now) :=
  List.forall₂_map_right_iff.2 (List.forall₂_same.2 fun v _ => shows_snapshotReply now v)

/-- Pages that are reported one by one are reported as one. -/
theorem flatMap_reported (parts : List (List RemoteSnapshot)) (now : Instant) :
    (parts.map reported).flatMap (· now) = reported parts.flatten now := by
  unfold reported
  rw [List.flatMap_map, List.map_flatten, List.flatMap_def]

/-- A page has one answer. -/
theorem page_unique {part : List RemoteSnapshot} {next next' : String}
    {page : Instant → List Snapshot} {c'' : σ}
    (hpart : ∀ now, listPage h s source k token now c = (.ok (pageAnswer now part next), c'))
    (hpage : ∀ now, listPage h s source k token now c =
      (.ok { response := .snapshots (page now) next' }, c'')) :
    page = reported part ∧ next' = next ∧ c'' = c' := by
  have hsame : ∀ now, page now = reported part now ∧ next' = next ∧ c'' = c' := by
    intro now
    have heq := (hpage now).symm.trans (hpart now)
    simp only [pageAnswer, Prod.mk.injEq, Except.ok.injEq, Outcome.mk.injEq,
      Response.snapshots.injEq] at heq
    exact ⟨heq.1.1.1, heq.1.1.2, heq.2⟩
  exact ⟨funext fun now => (hsame now).1, (hsame ⟨0, 0⟩).2⟩

/-- Where a page comes without a token, it is the only one. -/
theorem pages_iff_last {part : List RemoteSnapshot}
    (hpart : ∀ now, listPage h s source k token now c = (.ok (pageAnswer now part ""), c'))
    {pages : List (Instant → List Snapshot)} :
    Pages h s source k c token pages ↔ pages = [reported part] := by
  constructor
  · rintro (⟨answered⟩ | ⟨answered, more, -⟩)
    · rw [(page_unique hpart answered).1]
    · exact absurd (page_unique hpart answered).2.1 more
  · rintro rfl
    exact .last hpart

/-- Where a page comes with a token, those from that token on follow. -/
theorem pages_iff_next {part : List RemoteSnapshot} {next : String} (hnext : next ≠ "")
    (hpart : ∀ now, listPage h s source k token now c = (.ok (pageAnswer now part next), c'))
    {pages : List (Instant → List Snapshot)} :
    Pages h s source k c token pages ↔
      ∃ rest, pages = reported part :: rest ∧ Pages h s source k c' next rest := by
  constructor
  · rintro (⟨answered⟩ | ⟨answered, -, rest⟩)
    · exact absurd (page_unique hpart answered).2.1.symm hnext
    · obtain ⟨rfl, rfl, rfl⟩ := page_unique hpart answered
      exact ⟨_, rfl, rest⟩
  · rintro ⟨rest, rfl, hrest⟩
    exact .next hpart hnext hrest

/-- So many pages of at most `k` are needed for `m + k` entries as are for `m`, and one more. -/
theorem pageCount_add {m k : Nat} (hm : 0 < m) (hk : 0 < k) :
    max 1 ((m + k) ⌈/⌉ k) = max 1 (m ⌈/⌉ k) + 1 := by
  have hone : 1 ≤ m ⌈/⌉ k := by
    rw [Nat.ceilDiv_eq_add_pred_div, Nat.le_div_iff_mul_le hk]
    omega
  have hmore : (m + k) ⌈/⌉ k = m ⌈/⌉ k + 1 := by
    rw [Nat.ceilDiv_eq_add_pred_div, Nat.ceilDiv_eq_add_pred_div, ← Nat.add_div_right _ hk]
    congr 1
    omega
  omega

/-- At most `k` entries need one page. -/
theorem pageCount_of_le {m k : Nat} (hm : m ≤ k) (hk : 0 < k) : max 1 (m ⌈/⌉ k) = 1 := by
  have hone : m ⌈/⌉ k ≤ 1 := by
    rw [ceilDiv_le_iff_le_mul hk]
    omega
  omega

/-- What fits on a page is the last one. -/
theorem pageFrom_last {α : Type} {items : List α} {start : Nat} (hk : 0 < k)
    (hfits : items.length - start ≤ k.toNat) :
    pageFrom items k start = (items.drop start, "") := by
  have hrest : (items.drop start).length = items.length - start := List.length_drop
  unfold pageFrom
  simp only [hk, if_true, List.take_of_length_le (hrest.trans_le hfits)]
  rw [if_neg (by omega)]

/-- What does not fit leaves a full page, and a token for what comes after it. -/
theorem pageFrom_full {α : Type} {items : List α} {start : Nat} (hk : 0 < k)
    (hmore : k.toNat < items.length - start) :
    pageFrom items k start =
        ((items.drop start).take k.toNat, Digits.text ((start + k.toNat : Nat) : Int)) ∧
      ((items.drop start).take k.toNat).length = k.toNat := by
  have hfull : ((items.drop start).take k.toNat).length = k.toNat := by
    rw [List.length_take, List.length_drop]
    omega
  refine ⟨?_, hfull⟩
  unfold pageFrom
  simp only [hk, if_true, hfull]
  rw [if_pos (by omega)]

/-- The answer to a token that is accepted. -/
theorem listPage_of_offset (hsteady : Steady h s all P) (hunique : (all.map (·.name)).Nodup)
    (hc : P c) (hk : 0 ≤ k) {start : Nat}
    (htoken : offset? (sorted source all).length token = some start) (now : Instant) :
    listPage h s source k token now c =
      (.ok (pageAnswer now (pageFrom (sorted source all) k start).1
          (pageFrom (sorted source all) k start).2),
        (h (.listSnapshots s.ns (Labels.selector s.labels)) c).2) := by
  rw [listPage_eq hsteady hunique hc hk, paginate, htoken]
  rfl

/-- **The pages from any offset on.** They are as many as are needed, all but the last are full, and
together they are the rest of the list. -/
theorem exists_pages_from (hsteady : Steady h s all P) (hunique : (all.map (·.name)).Nodup)
    (hk : 0 < k) {start : Nat} (hc : P c)
    (htoken : offset? (sorted source all).length token = some start) :
    ∃ parts : List (List RemoteSnapshot),
      (∀ pages, Pages h s source k c token pages ↔ pages = parts.map reported) ∧
      parts.length = max 1 (((sorted source all).length - start) ⌈/⌉ k.toNat) ∧
      (∀ part ∈ parts.dropLast, part.length = k.toNat) ∧
      parts.flatten = (sorted source all).drop start := by
  have hknat : 0 < k.toNat := by omega
  -- The induction is on the number of entries that are left.
  induction hleft : (sorted source all).length - start using Nat.strong_induction_on
    generalizing start token c with
  | _ left ih =>
  have hpage := listPage_of_offset hsteady hunique hc hk.le htoken
  by_cases hlast : left ≤ k.toNat
  · rw [pageFrom_last hk (hleft.trans_le hlast)] at hpage
    refine ⟨[(sorted source all).drop start], ?_, ?_, ?_, ?_⟩
    · intro pages
      exact pages_iff_last hpage
    · exact (pageCount_of_le hlast hknat).symm
    · simp
    · simp
  · -- The page is full, and the rest follows from the token that comes with it.
    have hmany : k.toNat < (sorted source all).length - start := by omega
    obtain ⟨hmore, hfull⟩ := pageFrom_full hk hmany
    rw [hmore] at hpage
    have hstop : start + k.toNat ≤ (sorted source all).length := by omega
    have hrest : (sorted source all).length - (start + k.toNat) < left := by omega
    obtain ⟨parts, hpages, hlength, hfulls, hflatten⟩ :=
      ih _ hrest (hsteady.stays c hc) (offset?_text hstop) rfl
    refine ⟨((sorted source all).drop start).take k.toNat :: parts, ?_, ?_, ?_, ?_⟩
    · intro pages
      rw [pages_iff_next (Digits.text_ne_empty _) hpage]
      simp only [hpages, List.map_cons, exists_eq_right]
    · have hpositive : 0 < (sorted source all).length - (start + k.toNat) := by omega
      have hcount := pageCount_add hpositive hknat
      have hsum : (sorted source all).length - (start + k.toNat) + k.toNat = left := by omega
      rw [List.length_cons, hlength, ← hcount, hsum]
    · have hne : parts ≠ [] := by
        intro hnil
        rw [hnil, List.length_nil] at hlength
        omega
      rw [List.dropLast_cons_of_ne_nil hne]
      intro part hpart
      rcases List.mem_cons.1 hpart with rfl | hpart
      · exact hfull
      · exact hfulls part hpart
    · rw [List.flatten_cons, hflatten, ← List.drop_drop, List.take_append_drop]

/-- The parts that pages of at most `k` entries cut the snapshots of a source into. -/
structure CutInto (source : String) (k : Int) (all : List RemoteSnapshot)
    (parts : List (List RemoteSnapshot)) : Prop where
  /-- There are as many as needed, and one where there is nothing to list. -/
  count : parts.length = max 1 ((ofSource source all).length ⌈/⌉ k.toNat)
  /-- All but the last are full. -/
  full : ∀ part ∈ parts.dropLast, part.length = k.toNat
  /-- Together they are the snapshots of that source, each once. -/
  complete : parts.flatten.Perm (ofSource source all)
  /-- These ascend by name, byte for byte. -/
  ascending : parts.flatten.Pairwise fun v w =>
    v.name.toUTF8.data.toList < w.name.toUTF8.data.toList

/-- The pages show these parts: whenever a page is asked for, its entries show the snapshots of its
part, in their order. -/
def ShowParts (parts : List (List RemoteSnapshot)) (pages : List (Instant → List Snapshot)) :
    Prop :=
  List.Forall₂ (fun part page => ∀ now, List.Forall₂ (Shows now) part (page now)) parts pages

theorem showParts_reported (parts : List (List RemoteSnapshot)) :
    ShowParts parts (parts.map reported) :=
  List.forall₂_map_right_iff.2 (List.forall₂_same.2 fun part _ => shows_reported part)

/-- Entries that show snapshots have their names as ids. -/
theorem ids_of_shows {now : Instant} {part : List RemoteSnapshot} {entries : List Snapshot}
    (h : List.Forall₂ (Shows now) part entries) : entries.map (·.id) = part.map (·.name) := by
  induction h with
  | nil => rfl
  | cons hshows _ ih => rw [List.map_cons, List.map_cons, hshows.id, ih]

theorem ShowParts.ids {parts : List (List RemoteSnapshot)} {pages : List (Instant → List Snapshot)}
    (h : ShowParts parts pages) (now : Instant) :
    pages.map (fun page => (page now).map (·.id)) = parts.map fun part => part.map (·.name) := by
  induction h with
  | nil => rfl
  | cons hpage _ ih =>
    rw [List.map_cons, List.map_cons, ih, ids_of_shows (hpage now)]

/-- The names of the snapshots, if they are given in ascending order, are those of the parts one
after the other. -/
theorem CutInto.names_flatten {parts : List (List RemoteSnapshot)} {names : List String}
    (h : CutInto source k all parts) (hperm : names.Perm ((ofSource source all).map (·.name)))
    (hascending : names.Pairwise fun n m => n.toUTF8.data.toList < m.toUTF8.data.toList) :
    parts.flatten.map (·.name) = names := by
  refine ((h.complete.map _).trans hperm.symm).eq_of_pairwise (fun n m _ _ hlt hgt => ?_)
    (List.pairwise_map.2 h.ascending) hascending
  exact absurd hgt (List.lt_asymm hlt)

/-- **Following the tokens lists everything exactly once.** The cluster is asked again for every
page, and it may list its snapshots in another order each time; they only have to stay the same,
with unique names. Then from the empty token on there is exactly one sequence of pages. It ends, and
it shows the snapshots of the source, cut into full pages and a last one. Without a bound the same
entries come as one page. Every token that comes with a page is accepted, and any token at all is
refused exactly if it is not a number up to the length of the list. -/
theorem listing_pages_once (hsteady : Steady h s all P) (hunique : (all.map (·.name)).Nodup)
    (hk : 0 < k) (hc : P c) :
    (∃ parts pages, CutInto source k all parts ∧ ShowParts parts pages ∧
      (∀ pages', Pages h s source k c "" pages' ↔ pages' = pages) ∧
      ∀ now, (listPage h s source 0 "" now c).1 =
        .ok { response := .snapshots (pages.flatMap (· now)) "" }) ∧
    (∀ bound token now entries next, 0 ≤ bound →
      (listPage h s source bound token now c).1 = .ok { response := .snapshots entries next } →
      ∀ c' bound' now', P c' → 0 ≤ bound' → ∃ entries' next',
        (listPage h s source bound' next now' c').1 =
          .ok { response := .snapshots entries' next' }) ∧
    ∀ bound token now, 0 ≤ bound → token ≠ "" →
      ((listPage h s source bound token now c).1 =
          .error ⟨.aborted, "invalid starting token " ++ token⟩ ↔
        ¬ ∃ m ≤ (ofSource source all).length, NamesOffset token m) := by
  have hlength := (sorted_perm source all).length_eq
  refine ⟨?_, ?_, ?_⟩
  · obtain ⟨parts, hpages, hcount, hfull, hflatten⟩ :=
      exists_pages_from hsteady hunique hk hc (offset?_empty (sorted source all).length)
    rw [List.drop_zero] at hflatten
    rw [Nat.sub_zero, hlength] at hcount
    refine ⟨parts, parts.map reported, ⟨hcount, hfull, ?_, ?_⟩, showParts_reported parts, hpages,
      ?_⟩
    · rw [hflatten]
      exact sorted_perm source all
    · rw [hflatten]
      exact pairwise_bytes_sorted hunique
    · intro now
      rw [listPage_of_offset hsteady hunique hc le_rfl (offset?_empty _), flatMap_reported,
        hflatten]
      simp [pageFrom, pageAnswer, reported]
  · intro bound token now entries next hbound hanswer c' bound' now' hc' hbound'
    rw [listPage_eq hsteady hunique hc hbound] at hanswer
    unfold paginate at hanswer
    cases hoffset : offset? (sorted source all).length token with
    | none =>
      rw [hoffset] at hanswer
      cases hanswer
    | some start =>
    rw [hoffset] at hanswer
    obtain ⟨stop, hstop⟩ := exists_offset_pageFrom (sorted source all) bound start
    have hnext : (pageFrom (sorted source all) bound start).2 = next := by
      simp only [Except.map, pageAnswer, Except.ok.injEq, Outcome.mk.injEq,
        Response.snapshots.injEq] at hanswer
      exact hanswer.1.2
    rw [hnext] at hstop
    exact ⟨_, _, congrArg Prod.fst (listPage_of_offset hsteady hunique hc' hbound' hstop now')⟩
  · intro bound token now hbound htoken
    have hinvalid : offset? (sorted source all).length token = none ↔
        ¬ ∃ m ≤ (ofSource source all).length, NamesOffset token m := by
      simp only [Option.eq_none_iff_forall_not_mem, Option.mem_def,
        offset?_eq_some_iff htoken, hlength, not_exists, and_comm]
    rw [← hinvalid, listPage_eq hsteady hunique hc hbound, paginate]
    cases offset? (sorted source all).length token <;> simp [Except.map]

end Listing

/-- A cluster in memory that is left alone is steady: it lists the snapshots of the namespace. -/
theorem steady_step (s : Settings) (σ : Cluster.State) :
    Steady Cluster.step s (σ.snapshots.filter (·.ns == s.ns)) (· = σ) where
  lists := by
    rintro _ rfl
    exact ⟨_, rfl, .refl _⟩
  stays := by
    rintro _ rfl
    rfl

/-- A snapshot in the namespace `infra`. -/
def infraSnapshot (name sourceVolume : String) : RemoteSnapshot :=
  { name, ns := "infra", sourceVolume, ready := true }

/-- A cluster with three snapshots of the volume `a` and one of `b`. -/
def snapshotted : Cluster.State where
  snapshots := [infraSnapshot "s3" "a", infraSnapshot "s1" "a", infraSnapshot "other" "b",
    infraSnapshot "s2" "a"]

/-- The three snapshots of `a` come on two pages of at most two, in the order of their names. -/
theorem listing_pages_once_snapshotted :
    (snapshotted.snapshots.map (·.name)).Nodup ∧ (0 : Int) < 2 ∧
      ∃ pages, (∀ pages', Pages Cluster.step { ns := "infra" } "a" 2 snapshotted "" pages' ↔
          pages' = pages) ∧
        ∀ now, pages.map (fun page => (page now).map (·.id)) = [["s1", "s2"], ["s3"]] := by
  have hunique : (snapshotted.snapshots.map (·.name)).Nodup := by decide
  have hsteady := steady_step { ns := "infra" } snapshotted
  have hall : snapshotted.snapshots.filter (·.ns == "infra") = snapshotted.snapshots := by decide
  simp only [hall] at hsteady
  obtain ⟨⟨parts, pages, hcut, hshow, hpages, -⟩, -, -⟩ :
      (∃ parts pages, CutInto "a" 2 snapshotted.snapshots parts ∧ _ ∧ _ ∧ _) ∧ _ ∧ _ :=
    listing_pages_once hsteady hunique (by decide) rfl
  refine ⟨hunique, by decide, pages, hpages, fun now => ?_⟩
  have hnames : parts.flatten.map (·.name) = ["s1", "s2"] ++ ["s3"] :=
    hcut.names_flatten (by decide) (by decide)
  obtain ⟨first, last, rfl⟩ := List.length_eq_two.1 (show parts.length = 2 from hcut.count)
  have hfirst : first.length = 2 := hcut.full first List.mem_cons_self
  rw [List.flatten_cons, List.flatten_cons, List.flatten_nil, List.append_nil,
    List.map_append] at hnames
  obtain ⟨hids, hlast⟩ := List.append_inj hnames ((List.length_map _).trans hfirst)
  rw [hshow.ids now, List.map_cons, List.map_cons, hids, hlast, List.map_nil]

end Controller

end Hotplug
