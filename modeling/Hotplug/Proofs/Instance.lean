import Hotplug.Instance
import Mathlib.Data.List.Basic

/-!
# The node ids that name a machine

A node id that names a virtual machine is the machine's namespace, a slash and its name. It is cut
at its first slash, whatever follows, and what follows is looked at afterwards. Both together let
exactly those texts through that have a single slash, with something on either side: each is the id
of one machine, and of such machines none shares its id with another.

## Main definitions

* `InstanceRef.Slashed` — the shape of a node id that names a machine, told by its slashes alone.

## Main results

* `InstanceRef.count_slash_toText` — an id has one slash more than its two parts.
* `InstanceRef.slashed_iff_exists` — **the texts of that shape are the ids of machines.**
* `InstanceRef.WellNamed.parse?_toText` — the id of a machine is read back.
* `InstanceRef.WellNamed.toText_inj` — no two machines share an id.
* `InstanceRef.parse?_toText_of_slash` — with another slash an id is not read at all.
* `InstanceRef.nodeIds_exact` — **what is read as a machine, and as which.**
-/

namespace Hotplug

namespace InstanceRef

variable {r r' : InstanceRef} {nodeId : String}

/-! ### The slashes of an id -/

/-- An id has one slash more than its two parts. -/
theorem count_slash_toText (r : InstanceRef) :
    r.toText.toList.count '/' = r.ns.toList.count '/' + r.name.toList.count '/' + 1 := by
  rw [toText_toList, List.count_append, List.count_cons_self]
  omega

/-- An id is never empty. -/
theorem toText_ne_empty (r : InstanceRef) : r.toText ≠ "" := by
  intro h
  have hcount := count_slash_toText r
  rw [h, String.toList_empty, List.count_nil] at hcount
  omega

/-- The shape of a node id that names a machine: one slash, with something on either side. -/
structure Slashed (nodeId : String) : Prop where
  count_slash : nodeId.toList.count '/' = 1
  not_first : nodeId.toList.head? ≠ some '/'
  not_last : nodeId.toList.getLast? ≠ some '/'

instance (nodeId : String) : Decidable (Slashed nodeId) :=
  decidable_of_iff
    (nodeId.toList.count '/' = 1 ∧ nodeId.toList.head? ≠ some '/' ∧
      nodeId.toList.getLast? ≠ some '/')
    ⟨fun h => ⟨h.1, h.2.1, h.2.2⟩, fun h => ⟨h.count_slash, h.not_first, h.not_last⟩⟩

/-- One slash parts a text in two that have none. -/
theorem exists_parts_of_count_slash {cs : List Char} (h : cs.count '/' = 1) :
    ∃ front back, cs = front ++ '/' :: back ∧ '/' ∉ front ∧ '/' ∉ back := by
  have hslash : '/' ∈ cs := List.count_pos_iff.1 (by omega)
  obtain ⟨front, back, rfl⟩ := List.append_of_mem hslash
  rw [List.count_append, List.count_cons_self] at h
  have hfront : front.count '/' = 0 := by omega
  have hback : back.count '/' = 0 := by omega
  exact ⟨front, back, rfl, List.count_eq_zero.1 hfront, List.count_eq_zero.1 hback⟩

/-- The id of a machine that can be told from its id has that shape. -/
theorem WellNamed.slashed (hr : r.WellNamed) : Slashed r.toText := by
  refine ⟨?_, ?_, ?_⟩
  · rw [count_slash_toText, List.count_eq_zero.2 hr.ns_slash, List.count_eq_zero.2 hr.name_slash]
  · have hns : r.ns.toList ≠ [] := by simpa using hr.ns_ne
    rw [toText_toList, List.head?_append_of_ne_nil _ hns]
    intro hfirst
    exact hr.ns_slash (List.mem_of_head? hfirst)
  · have hname : r.name.toList ≠ [] := by simpa using hr.name_ne
    rw [toText_toList, List.getLast?_append_of_ne_nil _ (List.cons_ne_nil _ _),
      List.getLast?_cons_of_ne_nil hname]
    intro hlast
    exact hr.name_slash (List.mem_of_getLast? hlast)

/-- **The texts of that shape are the ids of machines** that can be told from them. -/
theorem slashed_iff_exists :
    Slashed nodeId ↔ ∃ r : InstanceRef, r.WellNamed ∧ nodeId = r.toText := by
  constructor
  · intro h
    obtain ⟨front, back, htext, hfront, hback⟩ := exists_parts_of_count_slash h.count_slash
    have hfirst := h.not_first
    have hlast := h.not_last
    rw [htext] at hfirst hlast
    have hfront_ne : front ≠ [] := by
      rintro rfl
      exact hfirst rfl
    have hback_ne : back ≠ [] := by
      rintro rfl
      exact hlast List.getLast?_concat
    refine ⟨⟨String.ofList front, String.ofList back⟩, ⟨?_, ?_, ?_, ?_⟩, ?_⟩
    · simpa using hfront_ne
    · simpa using hfront
    · simpa using hback_ne
    · simpa using hback
    · refine String.toList_inj.1 ?_
      rw [toText_toList, htext, String.toList_ofList, String.toList_ofList]
  · rintro ⟨r, hr, rfl⟩
    exact hr.slashed

/-! ### What is read -/

/-- The id of a machine that can be told from its id is read back. -/
theorem WellNamed.parse?_toText (hr : r.WellNamed) : parse? r.toText = some r :=
  parse?_eq_some_iff.2 ⟨rfl, hr⟩

/-- Machines that can be told from their ids have different ids. -/
theorem WellNamed.toText_inj (hr : r.WellNamed) (hr' : r'.WellNamed) :
    r.toText = r'.toText ↔ r = r' := by
  refine ⟨fun htext => ?_, congrArg toText⟩
  have hparse := hr.parse?_toText
  rw [htext, hr'.parse?_toText] at hparse
  exact (Option.some.inj hparse).symm

/-- A machine that was read has the text as its id. -/
theorem toText_of_parse? (h : parse? nodeId = some r) : r.toText = nodeId :=
  (parse?_eq_some_iff.1 h).1.symm

/-- Some machine is read exactly from the texts of that shape. -/
theorem isSome_parse?_iff : (parse? nodeId).isSome ↔ Slashed nodeId := by
  rw [slashed_iff_exists, Option.isSome_iff_exists]
  refine exists_congr fun r => ?_
  rw [parse?_eq_some_iff, and_comm]

/-- A second slash is one too many. -/
example : ¬ Slashed "infra/vm/1" := by decide

/-- A text that is the id of no machine is not read as one. -/
theorem parse?_eq_none (h : ∀ r : InstanceRef, r.WellNamed → nodeId ≠ r.toText) :
    parse? nodeId = none := by
  refine Option.eq_none_iff_forall_ne_some.2 fun r hparse => ?_
  obtain ⟨htext, hr⟩ := parse?_eq_some_iff.1 hparse
  exact h r hr htext

/-- An id whose parts have a slash of their own is read as no machine, not even as another one. -/
theorem parse?_toText_of_slash (h : '/' ∈ r.ns.toList ∨ '/' ∈ r.name.toList) :
    parse? r.toText = none := by
  rw [← Option.not_isSome_iff_eq_none, isSome_parse?_iff]
  intro hslashed
  have hcount := hslashed.count_slash
  rw [count_slash_toText] at hcount
  rcases h with h | h
  · have hpos : 0 < r.ns.toList.count '/' := List.count_pos_iff.2 h
    omega
  · have hpos : 0 < r.name.toList.count '/' := List.count_pos_iff.2 h
    omega

/-- **What is read as a machine, and as which.** A text is read as a machine exactly if it is the
machine's id and neither part of it is empty or has a slash. So the texts that are read are those
with one slash and something on either side; the id of such a machine is read back, the machine that
is read has the text as its id, and no other text is read as the same machine. -/
theorem nodeIds_exact (nodeId nodeId' : String) (r : InstanceRef) :
    (parse? nodeId = some r ↔
      (r.ns ≠ "" ∧ r.name ≠ "" ∧ '/' ∉ r.ns.toList ∧ '/' ∉ r.name.toList) ∧
        nodeId = r.toText) ∧
    ((parse? nodeId).isSome ↔ Slashed nodeId) ∧
    (r.WellNamed → parse? r.toText = some r) ∧
    (parse? nodeId = some r → r.toText = nodeId) ∧
    (parse? nodeId = some r → parse? nodeId' = some r → nodeId = nodeId') := by
  refine ⟨?_, isSome_parse?_iff, WellNamed.parse?_toText, toText_of_parse?, ?_⟩
  · rw [parse?_eq_some_iff, and_comm]
    refine and_congr_left fun _ => ?_
    constructor
    · intro hr
      exact ⟨hr.ns_ne, hr.name_ne, hr.ns_slash, hr.name_slash⟩
    · rintro ⟨hns, hname, hns', hname'⟩
      exact ⟨hns, hns', hname, hname'⟩
  · intro h h'
    rw [← toText_of_parse? h, ← toText_of_parse? h']

/-- The id of a machine is read as that machine, and that of its neighbour is not. -/
theorem nodeIds_exact_vm :
    WellNamed ⟨"infra", "vm-1"⟩ ∧ parse? "infra/vm-1" = some ⟨"infra", "vm-1"⟩ ∧
      Slashed "infra/vm-1" ∧ toText ⟨"infra", "vm-1"⟩ = "infra/vm-1" ∧
      parse? (toText ⟨"infra", "vm-1"⟩) = some ⟨"infra", "vm-1"⟩ ∧
      parse? "infra/vm-2" ≠ some ⟨"infra", "vm-1"⟩ := by
  have hwell : WellNamed ⟨"infra", "vm-1"⟩ := ⟨by decide, by decide, by decide, by decide⟩
  obtain ⟨hiff, hslashed, hback, hprint, hunique⟩ :=
    nodeIds_exact "infra/vm-1" "infra/vm-2" ⟨"infra", "vm-1"⟩
  have hread : parse? "infra/vm-1" = some ⟨"infra", "vm-1"⟩ := hiff.2 ⟨by decide, rfl⟩
  have hshape : Slashed "infra/vm-1" := hslashed.1 (by rw [hread]; rfl)
  refine ⟨hwell, hread, hshape, hprint hread, hback hwell, ?_⟩
  intro hother
  exact absurd (hunique hread hother) (by decide)

end InstanceRef

end Hotplug
