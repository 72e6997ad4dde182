import Hotplug.Policy.Document
import Hotplug.Proofs.Json
import Hotplug.Proofs.Json.Render
import Hotplug.Proofs.Record

/-!
# What a policy document says

A policy is read off a document whose fields are proper: each occurs once at most, under its name or
its alias, with a value of the right type. What is read is what the fields say, however the document
is written, and nothing is allowed that the document does not allow.

## Main definitions

* `Policy.Valid j` — the fields of a document, and those of its mappings, are proper.
* `Policy.Describes j p` — a document describes a policy.
* `Policy.Reworded members members'` — a document is written in another way.

## Main results

* `Policy.ofJson?_eq_some_iff` — a policy is read exactly from a document that describes it.
* `Policy.exists_describes_iff` — a document describes a policy exactly if it is valid.
* `Policy.ofText?_render` — a policy is read back from its text.
* `Policy.Reworded.ofJson?_eq` — what is read does not depend on how the document is written.
* `Policy.documents_faithful` — **documents are read faithfully, and allow no more than they say.**
-/

namespace Hotplug

open Record

variable {j : Json} {items items' : List Json} {members members' : List (String × Json)}

/-! ### Values -/

theorem strict_bool?_iff {b : Bool} : Reading.strict.bool? j = some b ↔ j = .bool b := by
  cases j <;> simp [Reading.strict, Json.bool?]

theorem strict_text?_iff {s : String} : Reading.strict.text? j = some s ↔ j = .string s := by
  cases j <;> simp [Reading.strict, Json.text?]

/-- Names are read off an array of texts. -/
theorem names?_iff {names : List String} :
    list? Reading.strict.text? j = some names ↔ j = namesToJson names := by
  have htexts : ∀ items : List Json,
      List.Forall₂ (fun item name => Reading.strict.text? item = some name) items names ↔
        items = names.map .string := by
    intro items
    simp only [strict_text?_iff]
    rw [← List.forall₂_map_right_iff, List.forall₂_eq_eq_eq]
  rw [list?_eq_some_iff]
  constructor
  · rintro ⟨items, rfl, h⟩
    rw [(htexts items).1 h]
    rfl
  · rintro rfl
    exact ⟨_, rfl, (htexts _).2 rfl⟩

/-- An array of texts. -/
def IsNames (j : Json) : Prop :=
  ∃ names, j = namesToJson names

/-! ### Mappings -/

namespace SnapshotMapping

variable {m : SnapshotMapping}

/-- The storage classes of a mapping. -/
def storageClassesField : Field := ⟨"storageClasses", "storageclasses", 0⟩

/-- The snapshot classes of a mapping. -/
def snapshotClassesField : Field := ⟨"volumeSnapshotClasses", "volumesnapshotclasses", 1⟩

/-- The fields of a mapping. -/
def fields : List Field := [storageClassesField, snapshotClassesField]

/-- `Says j m` says what mapping a value is, by its fields. -/
structure Says (j : Json) (m : SnapshotMapping) : Prop where
  fits : fits false 2 j = true
  storageClasses : Yields (· = namesToJson ·) [] (storageClassesField.values j) m.storageClasses
  snapshotClasses : Yields (· = namesToJson ·) [] (snapshotClassesField.values j) m.snapshotClasses

/-- A value is a mapping: an object, or an array of no more than its fields, and these are
proper. -/
structure Valid (j : Json) : Prop where
  fits : fits false 2 j = true
  storageClasses : Proper IsNames (storageClassesField.values j)
  snapshotClasses : Proper IsNames (snapshotClassesField.values j)

/-- A mapping is read exactly from what says it. -/
theorem ofJson?_eq_some_iff : ofJson? Reading.strict j = some m ↔ Says j m := by
  unfold ofJson?
  constructor
  · intro h
    split at h
    · next hfits =>
      obtain ⟨storageClasses, hstorage, h⟩ := Option.bind_eq_some_iff.1 h
      obtain ⟨snapshotClasses, hsnapshot, h⟩ := Option.bind_eq_some_iff.1 h
      obtain rfl := Option.some.inj h
      exact ⟨hfits, (storageClassesField.read_eq_some_iff hfits fun _ _ => names?_iff).1 hstorage,
        (snapshotClassesField.read_eq_some_iff hfits fun _ _ => names?_iff).1 hsnapshot⟩
    · cases h
  · rintro ⟨hfits, hstorage, hsnapshot⟩
    refine (if_pos hfits).trans (Option.bind_eq_some_iff.2 ⟨_,
      (storageClassesField.read_eq_some_iff hfits fun _ _ => names?_iff).2 hstorage, ?_⟩)
    exact Option.bind_eq_some_iff.2 ⟨_,
      (snapshotClassesField.read_eq_some_iff hfits fun _ _ => names?_iff).2 hsnapshot, rfl⟩

/-- A value says some mapping exactly if it is valid. -/
theorem exists_says_iff : (∃ m, Says j m) ↔ Valid j := by
  constructor
  · rintro ⟨m, hfits, hstorage, hsnapshot⟩
    exact ⟨hfits, exists_yields_iff.1 ⟨_, hstorage⟩, exists_yields_iff.1 ⟨_, hsnapshot⟩⟩
  · rintro ⟨hfits, hstorage, hsnapshot⟩
    obtain ⟨storageClasses, hstorage⟩ := exists_yields_iff.2 hstorage
    obtain ⟨snapshotClasses, hsnapshot⟩ := exists_yields_iff.2 hsnapshot
    exact ⟨⟨storageClasses, snapshotClasses⟩, hfits, hstorage, hsnapshot⟩

/-- A mapping that is written says what it is. -/
theorem says_toJson (m : SnapshotMapping) : Says m.toJson m := by
  refine ⟨rfl, ?_, ?_⟩
  · have hvalues : storageClassesField.values m.toJson = [namesToJson m.storageClasses] := by
      simp [storageClassesField, Field.values, occurrences, toJson]
    rw [hvalues]
    exact .once rfl
  · have hvalues : snapshotClassesField.values m.toJson = [namesToJson m.snapshotClasses] := by
      simp [snapshotClassesField, Field.values, occurrences, toJson]
    rw [hvalues]
    exact .once rfl

/-- A mapping is written in another way: as an object that is. -/
inductive Reworded : Json → Json → Prop
  | same (j : Json) : Reworded j j
  | object {members members' : List (String × Json)}
    (h : Respelled fields (fun _ _ => False) members members') :
    Reworded (.object members) (.object members')

/-- A mapping is read alike however it is written. -/
theorem Reworded.ofJson?_eq {j' : Json} (h : Reworded j j') (r : Reading) :
    ofJson? r j = ofJson? r j' := by
  cases h with
  | same => rfl
  | object h =>
    have hread : ∀ f ∈ fields, read f.name f.alias_ f.position [] (list? r.text?) (.object _) = _ :=
      fun f hf => h.read_eq (by decide) hf (fun _ _ => False.elim) []
    have hstorage := hread storageClassesField (by decide)
    have hsnapshot := hread snapshotClassesField (by decide)
    simp only [storageClassesField, snapshotClassesField] at hstorage hsnapshot
    simp only [ofJson?, fits, if_true, hstorage, hsnapshot]

end SnapshotMapping

namespace Policy

variable {p : Policy}

/-! ### Documents -/

/-- Whether every class is allowed. -/
def allowAllField : Field := ⟨"allowAll", "allowall", 0⟩

/-- Whether the default class is allowed. -/
def allowDefaultField : Field := ⟨"allowDefault", "allowdefault", 1⟩

/-- The classes that are allowed. -/
def allowListField : Field := ⟨"allowList", "allowlist", 2⟩

/-- The mappings. -/
def mappingField : Field := ⟨"storageSnapshotMapping", "storagesnapshotmapping", 3⟩

/-- The fields of a policy. -/
def fields : List Field := [allowAllField, allowDefaultField, allowListField, mappingField]

/-- An array of values that say some mappings. -/
def SayMappings (j : Json) (mappings : List SnapshotMapping) : Prop :=
  ∃ items, j = .array items ∧ List.Forall₂ SnapshotMapping.Says items mappings

/-- `Describes j p` says what policy a document describes, by its fields. -/
structure Describes (j : Json) (p : Policy) : Prop where
  fits : fits false 4 j = true
  allowAll : Yields (· = .bool ·) false (allowAllField.values j) p.allowAll
  allowDefault : Yields (· = .bool ·) false (allowDefaultField.values j) p.allowDefault
  allowList : Yields (· = namesToJson ·) [] (allowListField.values j) p.allowList
  mapping : Yields SayMappings [] (mappingField.values j) p.snapshotMapping

/-- A truth value. -/
def IsBool (j : Json) : Prop :=
  ∃ b, j = .bool b

/-- An array of mappings. -/
def AreMappings (j : Json) : Prop :=
  ∃ items, j = .array items ∧ ∀ i ∈ items, SnapshotMapping.Valid i

/-- A value is a policy document: an object, or an array of no more than its fields, and these are
proper. -/
structure Valid (j : Json) : Prop where
  fits : fits false 4 j = true
  allowAll : Proper IsBool (allowAllField.values j)
  allowDefault : Proper IsBool (allowDefaultField.values j)
  allowList : Proper IsNames (allowListField.values j)
  mapping : Proper AreMappings (mappingField.values j)

theorem mappings?_iff {mappings : List SnapshotMapping} :
    list? (SnapshotMapping.ofJson? Reading.strict) j = some mappings ↔ SayMappings j mappings := by
  rw [list?_eq_some_iff]
  simp only [SnapshotMapping.ofJson?_eq_some_iff]
  rfl

theorem exists_sayMappings_iff : (∃ mappings, SayMappings j mappings) ↔ AreMappings j := by
  unfold SayMappings AreMappings
  rw [exists_comm]
  refine exists_congr fun items => ?_
  rw [exists_and_left, exists_forall₂_iff]
  simp only [SnapshotMapping.exists_says_iff]

/-- **A policy is read exactly from a document that describes it.** -/
theorem ofJson?_eq_some_iff : ofJson? j = some p ↔ Describes j p := by
  unfold ofJson? ofJsonWith?
  constructor
  · intro h
    split at h
    · next hfits =>
      obtain ⟨allowAll, hall, h⟩ := Option.bind_eq_some_iff.1 h
      obtain ⟨allowDefault, hdefault, h⟩ := Option.bind_eq_some_iff.1 h
      obtain ⟨allowList, hlist, h⟩ := Option.bind_eq_some_iff.1 h
      obtain ⟨mappings, hmappings, h⟩ := Option.bind_eq_some_iff.1 h
      obtain rfl := Option.some.inj h
      exact ⟨hfits, (allowAllField.read_eq_some_iff hfits fun _ _ => strict_bool?_iff).1 hall,
        (allowDefaultField.read_eq_some_iff hfits fun _ _ => strict_bool?_iff).1 hdefault,
        (allowListField.read_eq_some_iff hfits fun _ _ => names?_iff).1 hlist,
        (mappingField.read_eq_some_iff hfits fun _ _ => mappings?_iff).1 hmappings⟩
    · cases h
  · rintro ⟨hfits, hall, hdefault, hlist, hmappings⟩
    refine (if_pos hfits).trans (Option.bind_eq_some_iff.2 ⟨_,
      (allowAllField.read_eq_some_iff hfits fun _ _ => strict_bool?_iff).2 hall, ?_⟩)
    refine Option.bind_eq_some_iff.2 ⟨_,
      (allowDefaultField.read_eq_some_iff hfits fun _ _ => strict_bool?_iff).2 hdefault, ?_⟩
    refine Option.bind_eq_some_iff.2 ⟨_,
      (allowListField.read_eq_some_iff hfits fun _ _ => names?_iff).2 hlist, ?_⟩
    exact Option.bind_eq_some_iff.2 ⟨_,
      (mappingField.read_eq_some_iff hfits fun _ _ => mappings?_iff).2 hmappings, rfl⟩

/-- A document describes some policy exactly if it is valid. -/
theorem exists_describes_iff : (∃ p, Describes j p) ↔ Valid j := by
  have hmappings : (fun j => ∃ mappings, SayMappings j mappings) = AreMappings :=
    funext fun _ => propext exists_sayMappings_iff
  constructor
  · rintro ⟨p, hfits, hall, hdefault, hlist, hmapping⟩
    exact ⟨hfits, exists_yields_iff.1 ⟨_, hall⟩, exists_yields_iff.1 ⟨_, hdefault⟩,
      exists_yields_iff.1 ⟨_, hlist⟩, hmappings ▸ exists_yields_iff.1 ⟨_, hmapping⟩⟩
  · rintro ⟨hfits, hall, hdefault, hlist, hmapping⟩
    obtain ⟨allowAll, hall⟩ := exists_yields_iff.2 hall
    obtain ⟨allowDefault, hdefault⟩ := exists_yields_iff.2 hdefault
    obtain ⟨allowList, hlist⟩ := exists_yields_iff.2 hlist
    rw [← hmappings] at hmapping
    obtain ⟨mappings, hmapping⟩ := exists_yields_iff.2 hmapping
    exact ⟨⟨allowAll, allowDefault, allowList, mappings⟩, hfits, hall, hdefault, hlist, hmapping⟩

/-! ### What is written -/

/-- In a policy that is written each field has one value. -/
theorem values_toJson (p : Policy) :
    allowAllField.values p.toJson = [.bool p.allowAll] ∧
      allowDefaultField.values p.toJson = [.bool p.allowDefault] ∧
      allowListField.values p.toJson = [namesToJson p.allowList] ∧
      mappingField.values p.toJson = [.array (p.snapshotMapping.map SnapshotMapping.toJson)] := by
  simp [allowAllField, allowDefaultField, allowListField, mappingField, Field.values, occurrences,
    toJson]

/-- A policy that is written describes what it is. -/
theorem describes_toJson (p : Policy) : Describes p.toJson p := by
  obtain ⟨hall, hdefault, hlist, hmapping⟩ := p.values_toJson
  have hmappings : List.Forall₂ SnapshotMapping.Says
      (p.snapshotMapping.map SnapshotMapping.toJson) p.snapshotMapping :=
    List.forall₂_map_left_iff.2 (List.forall₂_same.2 fun m _ => m.says_toJson)
  refine ⟨rfl, ?_, ?_, ?_, ?_⟩
  · rw [hall]
    exact .once rfl
  · rw [hdefault]
    exact .once rfl
  · rw [hlist]
    exact .once rfl
  · rw [hmapping]
    exact .once ⟨_, rfl, hmappings⟩

theorem plain_namesToJson (depth : Nat) (names : List String) :
    Json.Plain (depth + 1) (namesToJson names) := by
  simp [namesToJson]

/-- A policy that is written has no numbers and is not nested deep. -/
theorem plain_toJson (p : Policy) : Json.Plain Json.maxDepth p.toJson := by
  have hmapping : ∀ m : SnapshotMapping, Json.Plain 125 m.toJson := by
    intro m
    refine .object ?_
    simp [plain_namesToJson]
  have hmappings : Json.Plain 126 (.array (p.snapshotMapping.map SnapshotMapping.toJson)) := by
    refine .array ?_
    simp [hmapping]
  refine .object ?_
  simp [plain_namesToJson, hmappings]

/-- **A policy is read back from its text.** -/
theorem ofText?_render (p : Policy) : ofText? p.toJson.render = some p := by
  unfold ofText?
  rw [Json.parse?_render p.plain_toJson]
  exact ofJson?_eq_some_iff.2 p.describes_toJson

/-! ### Other ways of writing -/

/-- The mappings of a document are written in another way. -/
def MappingsReworded (j j' : Json) : Prop :=
  ∃ items items', j = .array items ∧ j' = .array items' ∧
    List.Forall₂ SnapshotMapping.Reworded items items'

/-- A document is written in another way: with its keys, or those of a mapping, in another order,
with other names for its fields or without a key that is no field. -/
def Reworded : List (String × Json) → List (String × Json) → Prop :=
  Respelled fields MappingsReworded

/-- **What is read does not depend on how the document is written.** -/
theorem Reworded.ofJson?_eq (h : Reworded members members') :
    ofJson? (.object members) = ofJson? (.object members') := by
  have hdistinct : Distinct fields := by decide
  -- Where a field is not for mappings, but has some, it is read alike all the same: an object is no
  -- truth value and no name, however it is written.
  have hbool : ∀ j j', MappingsReworded j j' → Reading.strict.bool? j = Reading.strict.bool? j' := by
    rintro _ _ ⟨items, items', rfl, rfl, -⟩
    rfl
  have hnames : ∀ j j', MappingsReworded j j' →
      list? Reading.strict.text? j = list? Reading.strict.text? j' := by
    rintro _ _ ⟨items, items', rfl, rfl, hitems⟩
    refine mapM_congr (hitems.imp fun _ _ hitem => ?_)
    cases hitem <;> rfl
  have hmappings : ∀ j j', MappingsReworded j j' →
      list? (SnapshotMapping.ofJson? Reading.strict) j =
        list? (SnapshotMapping.ofJson? Reading.strict) j' := by
    rintro _ _ ⟨items, items', rfl, rfl, hitems⟩
    exact mapM_congr (hitems.imp fun _ _ hitem => hitem.ofJson?_eq _)
  have hall := h.read_eq hdistinct (show allowAllField ∈ fields by decide) hbool false
  have hdefault := h.read_eq hdistinct (show allowDefaultField ∈ fields by decide) hbool false
  have hlist := h.read_eq hdistinct (show allowListField ∈ fields by decide) hnames []
  have hmapping := h.read_eq hdistinct (show mappingField ∈ fields by decide) hmappings []
  simp only [allowAllField, allowDefaultField] at hall hdefault
  simp only [allowListField, mappingField] at hlist hmapping
  simp only [ofJson?, ofJsonWith?, fits, if_true, hall, hdefault, hlist, hmapping]

/-! ### The whole -/

/-- What is allowed is listed, or is the default where that is allowed, unless every class is. -/
theorem Describes.allowed {storageClass : String} {isDefault : Bool} (h : Describes j p)
    (hclosed : .bool true ∉ allowAllField.values j)
    (hallowed : p.isAllowed storageClass isDefault = true) :
    (storageClass ∈ p.allowList ∧ namesToJson p.allowList ∈ allowListField.values j) ∨
      (p.allowDefault = true ∧ isDefault = true ∧ .bool true ∈ allowDefaultField.values j) := by
  have hall : p.allowAll = false := by
    rcases h.allowAll.exists_mem with hfalse | ⟨v, hv, rfl⟩
    · exact hfalse
    · cases hset : p.allowAll with
      | false => rfl
      | true => exact absurd (hset ▸ hv) hclosed
  simp only [isAllowed, hall, Bool.false_or, Bool.or_eq_true, List.contains_iff_mem,
    Bool.and_eq_true] at hallowed
  rcases hallowed with hlisted | ⟨hset, hdefault⟩
  · refine .inl ⟨hlisted, ?_⟩
    rcases h.allowList.exists_mem with hnil | ⟨v, hv, rfl⟩
    · rw [hnil] at hlisted
      exact absurd hlisted List.not_mem_nil
    · exact hv
  · refine .inr ⟨hset, hdefault, ?_⟩
    rcases h.allowDefault.exists_mem with hfalse | ⟨v, hv, rfl⟩
    · rw [hset] at hfalse
      cases hfalse
    · exact hset ▸ hv

/-- **Documents are read faithfully, and allow no more than they say.** A policy that is written is
read back. A text is read as a policy exactly if its fields and those of its mappings are proper,
and exactly as the policy that they describe, where a field that does not occur is false or empty.
How the text is written does not matter: neither the order of its keys, nor the names of its fields,
nor other keys. A storage class that is allowed is listed, or is the default and that is allowed,
unless the text says that all are. -/
theorem documents_faithful :
    (∀ p : Policy, ofText? p.toJson.render = some p) ∧
      ∀ text j, Json.parse? text = some j →
        ((∃ p, ofText? text = some p) ↔ Valid j) ∧
        (∀ p, ofText? text = some p ↔ Describes j p) ∧
        (∀ members text' members', j = .object members →
          Json.parse? text' = some (.object members') → Reworded members members' →
          ofText? text' = ofText? text) ∧
        ∀ p storageClass isDefault, ofText? text = some p →
          .bool true ∉ allowAllField.values j → p.isAllowed storageClass isDefault = true →
          (storageClass ∈ p.allowList ∧ namesToJson p.allowList ∈ allowListField.values j) ∨
            (p.allowDefault = true ∧ isDefault = true ∧
              .bool true ∈ allowDefaultField.values j) := by
  refine ⟨ofText?_render, fun text j hparsed => ?_⟩
  have hread : ∀ p, ofText? text = some p ↔ Describes j p := by
    intro p
    unfold ofText?
    rw [hparsed]
    exact ofJson?_eq_some_iff
  refine ⟨?_, hread, ?_, ?_⟩
  · rw [← exists_describes_iff]
    exact exists_congr hread
  · rintro members text' members' rfl hparsed' hreworded
    unfold ofText?
    rw [hparsed, hparsed']
    exact hreworded.ofJson?_eq.symm
  · intro p storageClass isDefault hp hclosed hallowed
    exact ((hread p).1 hp).allowed hclosed hallowed

/-- A document with one class, which a mapping names. -/
def oneClass : List (String × Json) :=
  [("storageSnapshotMapping", .array [.object [("storageClasses", namesToJson ["a"])]]),
    ("allowList", namesToJson ["a"])]

/-- The same document with other names, in another order and with a key that is no field. -/
def oneClassReworded : List (String × Json) :=
  [("note", .null), ("allowlist", namesToJson ["a"]),
    ("storageSnapshotMapping", .array [.object [("storageclasses", namesToJson ["a"])]])]

theorem reworded_oneClass : Reworded oneClass oneClassReworded := by
  have hinside : Respelled SnapshotMapping.fields (fun _ _ => False)
      [("storageClasses", namesToJson ["a"])] [("storageclasses", namesToJson ["a"])] :=
    .rel _ _ (.renamed (show SnapshotMapping.storageClassesField ∈ SnapshotMapping.fields by decide)
      _ _)
  have hwithin : Reworded oneClass
      [("storageSnapshotMapping", .array [.object [("storageclasses", namesToJson ["a"])]]),
        ("allowList", namesToJson ["a"])] :=
    .rel _ _ (.within ⟨_, _, rfl, rfl, .cons (.object hinside) .nil⟩ _ _)
  have horder := hwithin.trans _ _ _ (.rel _ _ (.order (.swap _ _ _)))
  have hrenamed := horder.trans _ _ _
    (.rel _ _ (.renamed (show allowListField ∈ fields by decide) _ _))
  exact hrenamed.trans _ _ _ (.rel _ _ (.unknown (by decide) _ _))

/-- The document is read however it is written, allows nothing but its class, and is not read with
a field under both names. -/
theorem documents_faithful_oneClass :
    ofText? (Json.object oneClass).render =
        some { allowList := ["a"], snapshotMapping := [⟨["a"], []⟩] } ∧
      ofText? (Json.object oneClassReworded).render = ofText? (Json.object oneClass).render ∧
      (∀ storageClass isDefault,
        isAllowed { allowList := ["a"], snapshotMapping := [⟨["a"], []⟩] } storageClass isDefault =
          true → storageClass ∈ ["a"]) ∧
      ofText? (Json.object (("allowlist", namesToJson ["b"]) :: oneClass)).render = none := by
  have hplain : ∀ members, (∀ m ∈ members, Json.Plain 126 m.2) →
      Json.parse? (Json.object members).render = some (.object members) :=
    fun members h => Json.parse?_render (.object h)
  have hmapping : ∀ key, Json.Plain 126 (.array [.object [(key, namesToJson ["a"])]]) := by
    intro key
    simp [plain_namesToJson]
  obtain ⟨-, hread, hreworded, hclosed⟩ := documents_faithful.2 _ _
    (hplain oneClass (by simp [oneClass, hmapping, plain_namesToJson]))
  obtain ⟨hvalid, -⟩ := documents_faithful.2 _ _
    (hplain (("allowlist", namesToJson ["b"]) :: oneClass)
      (by simp [oneClass, hmapping, plain_namesToJson]))
  have hfound := (hread _).2 (ofJson?_eq_some_iff.1 (by rfl))
  refine ⟨hfound, hreworded _ _ _ rfl (hplain oneClassReworded
    (by simp [oneClassReworded, hmapping, plain_namesToJson])) reworded_oneClass, ?_, ?_⟩
  · intro storageClass isDefault hallowed
    rcases hclosed _ _ _ hfound (by decide) hallowed with ⟨hlisted, -⟩ | ⟨hset, -⟩
    · exact hlisted
    · cases hset
  · cases hnone : ofText? (Json.object (("allowlist", namesToJson ["b"]) :: oneClass)).render with
    | none => rfl
    | some p => exact absurd (hvalid.1 ⟨p, hnone⟩).allowList.once (by decide)

end Policy

end Hotplug
