import Hotplug.Json.Record
import Mathlib.Data.List.Forall2
import Mathlib.Logic.Relation

/-!
# What is read of a record

A list is read item by item, and a field is read as the one value it has, or as absent. In an object
neither the order of the members counts, nor under which of its two names a field is, nor what else
there is.

## Main definitions

* `Record.Field`, `Record.Field.values` — a field, and the values of it that are found in a record.
* `Record.Proper` — a field has one value at most, and of the right type.
* `Record.Yields` — what a field is of which some values are found.
* `Record.Respelled` — an object is written in another way.

## Main results

* `mapM_eq_some_iff`, `Record.list?_eq_some_iff` — what a list is read as.
* `Record.read_eq_some_iff`, `Record.Field.read_eq_some_iff` — what a field is read as.
* `Record.exists_yields_iff` — a field is something exactly if it is proper.
* `Record.Respelled.read_eq` — a field is read alike however an object is written.
-/

namespace Hotplug

variable {α β : Type}

/-- A list is read if each item is. -/
theorem mapM_eq_some_iff {f : α → Option β} {as : List α} {bs : List β} :
    as.mapM f = some bs ↔ List.Forall₂ (fun a b => f a = some b) as bs := by
  induction as generalizing bs with
  | nil =>
    rw [List.mapM_nil, List.forall₂_nil_left_iff]
    exact Option.some_inj.trans eq_comm
  | cons a as ih =>
    rw [List.mapM_cons, List.forall₂_cons_left_iff]
    constructor
    · intro h
      obtain ⟨b, hb, hrest⟩ := Option.bind_eq_some_iff.1 h
      obtain ⟨bs', hbs', hlast⟩ := Option.bind_eq_some_iff.1 hrest
      exact ⟨b, bs', hb, ih.1 hbs', (Option.some.inj hlast).symm⟩
    · rintro ⟨b, bs', hb, hbs', rfl⟩
      rw [hb, ih.2 hbs']
      rfl

/-- Lists are read alike if their items are. -/
theorem mapM_congr {f : α → Option β} {as as' : List α}
    (h : List.Forall₂ (fun a a' => f a = f a') as as') : as.mapM f = as'.mapM f := by
  induction h with
  | nil => rfl
  | cons hfirst _ ih => rw [List.mapM_cons, List.mapM_cons, hfirst, ih]

/-- A list is related to some other if each item is related to something. -/
theorem exists_forall₂_iff {R : α → β → Prop} {as : List α} :
    (∃ bs, List.Forall₂ R as bs) ↔ ∀ a ∈ as, ∃ b, R a b := by
  induction as with
  | nil => simp
  | cons a as ih =>
    rw [List.forall_mem_cons, ← ih]
    constructor
    · rintro ⟨_, (_ | ⟨h, hrest⟩)⟩
      exact ⟨⟨_, h⟩, _, hrest⟩
    · rintro ⟨⟨b, h⟩, bs, hrest⟩
      exact ⟨b :: bs, .cons h hrest⟩

namespace Record

variable {name alias_ : String} {position : Nat} {absent : α} {value? : Json → Option α} {j : Json}
  {a : α} {found : List Json} {members members' : List (String × Json)} {Means : Json → α → Prop}

/-- A list is read off an array whose items are read. -/
theorem list?_eq_some_iff {item? : Json → Option α} {l : List α} :
    list? item? j = some l ↔
      ∃ items, j = .array items ∧ List.Forall₂ (fun item a => item? item = some a) items l := by
  cases j with
  | array items =>
    refine mapM_eq_some_iff.trans ⟨fun h => ⟨items, rfl, h⟩, ?_⟩
    rintro ⟨_, heq, h⟩
    cases heq
    exact h
  | _ => simp [list?]

/-- A field is read as absent, or as its one value. -/
theorem read_eq_some_iff : read name alias_ position absent value? j = some a ↔
    (field name alias_ position j = some none ∧ absent = a) ∨
      ∃ v, field name alias_ position j = some (some v) ∧ value? v = some a := by
  unfold read
  cases field name alias_ position j with
  | none => simp
  | some found => cases found <;> simp

/-! ### The values of a field -/

/-- Of a field there is one value at most, and it is of the right type. -/
structure Proper (Typed : Json → Prop) (found : List Json) : Prop where
  once : found.length ≤ 1
  typed : ∀ j ∈ found, Typed j

/-- `Yields Means absent found a` says what a field is of which some values are found: what the one
value means, or what stands for its absence. -/
inductive Yields (Means : Json → α → Prop) (absent : α) : (found : List Json) → α → Prop
  | absent : Yields Means absent [] absent
  | once {j : Json} {a : α} (h : Means j a) : Yields Means absent [j] a

/-- What a field is that is not absent is what a value of it means. -/
theorem Yields.exists_mem (h : Yields Means absent found a) :
    a = absent ∨ ∃ j ∈ found, Means j a := by
  cases h with
  | absent => exact .inl rfl
  | once h => exact .inr ⟨_, List.mem_singleton_self _, h⟩

/-- A field is something exactly if it is proper. -/
theorem exists_yields_iff :
    (∃ a, Yields Means absent found a) ↔ Proper (fun j => ∃ a, Means j a) found := by
  constructor
  · rintro ⟨a, (_ | h)⟩
    · exact ⟨Nat.zero_le _, fun j hj => absurd hj List.not_mem_nil⟩
    · exact ⟨Nat.le_refl _, fun j hj => ⟨a, List.mem_singleton.1 hj ▸ h⟩⟩
  · rintro ⟨honce, htyped⟩
    match found with
    | [] => exact ⟨absent, .absent⟩
    | [j] =>
      obtain ⟨a, h⟩ := htyped j (List.mem_singleton_self j)
      exact ⟨a, .once h⟩
    | _ :: _ :: _ => simp at honce

/-- What a field is read as that has some values. -/
def single (absent : α) : List (Option α) → Option α
  | [] => some absent
  | [read] => read
  | _ => none

theorem single_map_eq_some_iff (hmeans : ∀ j a, value? j = some a ↔ Means j a) :
    single absent (found.map value?) = some a ↔ Yields Means absent found a := by
  constructor
  · intro h
    match found, h with
    | [], h => exact Option.some.inj h ▸ .absent
    | [j], h => exact .once ((hmeans j a).1 h)
  · rintro (_ | h)
    · rfl
    · exact (hmeans _ a).2 h

/-- The order of the values does not matter. -/
theorem single_of_perm {read read' : List (Option α)} (h : read.Perm read') :
    single absent read = single absent read' := by
  match read, read', h.length_eq with
  | [], [], _ => rfl
  | [a], [b], _ => rw [List.singleton_perm_singleton.1 h]
  | _ :: _ :: _, _ :: _ :: _, _ => rfl

/-- A field of a record: its name, its alias and its position. -/
structure Field where
  name : String
  alias_ : String
  position : Nat
  deriving DecidableEq, Repr

/-- The values of a field in a record: in an object those under its name or its alias, and in an
array the item at its position. -/
def Field.values (f : Field) : Json → List Json
  | .object members => occurrences f.name f.alias_ members
  | .array items => items[f.position]?.toList
  | _ => []

/-- A field is read off its values. -/
theorem Field.read_eq {surplus : Bool} {fields : Nat} (f : Field)
    (hfits : fits surplus fields j = true) (absent : α) (value? : Json → Option α) :
    read f.name f.alias_ f.position absent value? j = single absent ((f.values j).map value?) := by
  cases j with
  | object members =>
    simp only [read, field, Field.values]
    cases occurrences f.name f.alias_ members with
    | nil => rfl
    | cons j rest => cases rest <;> rfl
  | array items =>
    simp only [read, field, Field.values]
    cases items[f.position]? <;> rfl
  | _ => cases hfits

/-- A field is read as what it is. -/
theorem Field.read_eq_some_iff {surplus : Bool} {fields : Nat} (f : Field)
    (hfits : fits surplus fields j = true) (hmeans : ∀ j a, value? j = some a ↔ Means j a) :
    read f.name f.alias_ f.position absent value? j = some a ↔
      Yields Means absent (f.values j) a := by
  rw [f.read_eq hfits]
  exact single_map_eq_some_iff hmeans

/-! ### Writing an object in another way -/

/-- One change to how an object is written. -/
inductive Respelling (fields : List Field) (Within : Json → Json → Prop) :
    List (String × Json) → List (String × Json) → Prop
  /-- The members come in another order. -/
  | order {members members' : List (String × Json)} (h : members.Perm members') :
    Respelling fields Within members members'
  /-- A field has its alias for its name. -/
  | renamed {f : Field} (h : f ∈ fields) (j : Json) (members : List (String × Json)) :
    Respelling fields Within ((f.name, j) :: members) ((f.alias_, j) :: members)
  /-- A key is added that is no field. -/
  | unknown {key : String} (h : ∀ f ∈ fields, key ≠ f.name ∧ key ≠ f.alias_) (j : Json)
    (members : List (String × Json)) : Respelling fields Within members ((key, j) :: members)
  /-- A value is written in another way. -/
  | within {j j' : Json} (h : Within j j') (key : String) (members : List (String × Json)) :
    Respelling fields Within ((key, j) :: members) ((key, j') :: members)

/-- Any changes to how an object is written, and their undoing. -/
def Respelled (fields : List Field) (Within : Json → Json → Prop) :
    List (String × Json) → List (String × Json) → Prop :=
  Relation.EqvGen (Respelling fields Within)

/-- No name or alias of a field stands for another field. -/
def Distinct (fields : List Field) : Prop :=
  ∀ f ∈ fields, ∀ g ∈ fields,
    (g.name = f.name ∨ g.name = f.alias_) ↔ (g.alias_ = f.name ∨ g.alias_ = f.alias_)

instance (fields : List Field) : Decidable (Distinct fields) :=
  inferInstanceAs (Decidable (∀ f ∈ fields, ∀ g ∈ fields, _))

variable {fields : List Field} {Within : Json → Json → Prop} {f : Field}

/-- A change to how an object is written changes no more than the order of a field's values. -/
theorem Respelling.perm (h : Respelling fields Within members members')
    (hdistinct : Distinct fields) (hf : f ∈ fields)
    (hwithin : ∀ j j', Within j j' → value? j = value? j') :
    ((f.values (.object members)).map value?).Perm
      ((f.values (.object members')).map value?) := by
  simp only [Field.values, occurrences]
  cases h with
  | order h => exact ((h.filter _).map _).map _
  | @renamed g hg j members =>
    -- Both or neither of its names are names of the field that is read.
    have hsame : (g.name == f.name || g.name == f.alias_) =
        (g.alias_ == f.name || g.alias_ == f.alias_) := by
      rw [Bool.eq_iff_iff]
      simpa using hdistinct f hf g hg
    simp only [List.filter_cons, hsame]
    split <;> exact .refl _
  | @unknown key h j members =>
    have hother : (key == f.name || key == f.alias_) = false := by simpa using h f hf
    simp only [List.filter_cons, hother]
    exact .refl _
  | within h key members =>
    simp only [List.filter_cons]
    split
    · simp only [List.map_cons, hwithin _ _ h]
      exact .refl _
    · exact .refl _

/-- **A field is read alike however an object is written.** -/
theorem Respelled.read_eq (h : Respelled fields Within members members')
    (hdistinct : Distinct fields) (hf : f ∈ fields)
    (hwithin : ∀ j j', Within j j' → value? j = value? j') (absent : α) :
    read f.name f.alias_ f.position absent value? (.object members) =
      read f.name f.alias_ f.position absent value? (.object members') := by
  have hfits : ∀ members, fits false 0 (.object members) = true := fun _ => rfl
  induction h with
  | rel _ _ h =>
    rw [f.read_eq (hfits _), f.read_eq (hfits _)]
    exact single_of_perm (h.perm hdistinct hf hwithin)
  | refl => rfl
  | symm _ _ _ ih => exact ih.symm
  | trans _ _ _ _ _ ih ih' => exact ih.trans ih'

end Record

end Hotplug
