import Hotplug.Text.Utf8
import Mathlib.Data.List.Basic
import Mathlib.Data.String.Basic
import Mathlib.Tactic.SplitIfs

/-!
# Text as bytes

A text of characters of seven bits has a byte for each, and is read back from these bytes. Texts are
ordered as their bytes are, whatever their characters.

## Main results

* `Text.decode?_ascii` — a text of seven-bit characters is read as it was written.
* `Text.lt_iff_bytes_lt` — to compare texts is to compare their bytes.
-/

namespace Hotplug.Text

variable {cs : List Char}

/-- The bytes of a text are those of its characters. -/
theorem bytes_eq (s : String) :
    s.toUTF8.data.toList = s.toList.flatMap String.utf8EncodeChar := by
  conv_lhs => rw [← String.ofList_toList (s := s)]
  unfold String.toUTF8
  rw [String.toByteArray_ofList, List.utf8Encode, List.data_toByteArray, List.toList_toArray]

/-- The bytes of a text of seven-bit characters. -/
theorem bytes_ofList (h : ∀ c ∈ cs, c.toNat < 128) :
    (String.ofList cs).toUTF8.data.toList = cs.map fun c => UInt8.ofNat c.toNat := by
  have hone : ∀ c ∈ cs, String.utf8EncodeChar c = [UInt8.ofNat c.toNat] := by
    intro c hc
    exact if_pos (Nat.le_of_lt_succ (h c hc))
  rw [bytes_eq, String.toList_ofList, List.flatMap_congr hone, List.map_eq_flatMap]

/-- Each of these bytes begins and ends a character. -/
theorem fronts_ascii (h : ∀ c ∈ cs, c.toNat < 128) :
    fronts (cs.map fun c => UInt8.ofNat c.toNat) = cs.map .char := by
  induction cs with
  | nil => rw [List.map_nil, fronts, List.map_nil]
  | cons c cs ih =>
    have hc : c.toNat < 128 := h c List.mem_cons_self
    have hbyte : (UInt8.ofNat c.toNat).toNat = c.toNat := by
      rw [UInt8.toNat_ofNat', Nat.mod_eq_of_lt (by omega)]
    have hread : readChar (UInt8.ofNat c.toNat) (cs.map fun c => UInt8.ofNat c.toNat) =
        (.char c, cs.map fun c => UInt8.ofNat c.toNat) := by
      unfold readChar
      rw [if_pos (UInt8.lt_iff_toNat_lt.2 (by rw [hbyte]; exact hc)), hbyte, Char.ofNat_toNat]
    rw [List.map_cons, fronts, hread, ih fun c' hc' => h c' (List.mem_cons_of_mem c hc')]
    rfl

/-- Where every front is a character, all of them are read. -/
theorem mapM_char {f : Front → Option Char} (hf : ∀ c, f (.char c) = some c) (cs : List Char) :
    (cs.map Front.char).mapM f = some cs := by
  induction cs with
  | nil => rfl
  | cons c cs ih =>
    rw [List.map_cons, List.mapM_cons, hf, ih]
    rfl

/-- **A text of seven-bit characters is read as it was written.** -/
theorem decode?_ascii (h : ∀ c ∈ cs, c.toNat < 128) :
    decode? (String.ofList cs).toUTF8.data.toList = some (String.ofList cs) := by
  unfold decode?
  rw [bytes_ofList h, fronts_ascii h, mapM_char fun _ => rfl]
  rfl

/-- Nothing of such a text is lost. -/
theorem decodeLossy_ascii (h : ∀ c ∈ cs, c.toNat < 128) :
    decodeLossy (String.ofList cs).toUTF8.data.toList = String.ofList cs := by
  unfold decodeLossy
  rw [bytes_ofList h, fronts_ascii h, List.map_map]
  exact congrArg String.ofList (List.map_id cs)

/-! ### Order -/

/-- In base 64 the last digit decides where the others agree. -/
theorem div_lt_or_mod_lt {v w : Nat} (h : v < w) :
    v / 64 < w / 64 ∨ v / 64 = w / 64 ∧ v % 64 < w % 64 := by
  omega

theorem toNat_byte {n : Nat} (h : n < 256) : (UInt8.ofNat n).toNat = n :=
  UInt8.toNat_ofNat_of_lt' h

/-- The bytes of the smaller character come first, whatever follows either. -/
theorem encodeChar_append_lt {c d : Char} (h : c < d) (xs ys : List UInt8) :
    String.utf8EncodeChar c ++ xs < String.utf8EncodeChar d ++ ys := by
  have hlt : c.val.toNat < d.val.toNat := h
  have hbound : d.val.toNat < 1114112 := by
    rcases d.valid with hsmall | ⟨-, hlarge⟩
    · exact Nat.lt_trans hsmall (by decide)
    · exact hlarge
  unfold String.utf8EncodeChar
  generalize c.val.toNat = v at hlt
  generalize d.val.toNat = w at hlt hbound
  -- Of characters with equally many bytes the first digit that differs decides; else the first byte
  -- tells their number, and grows with it.
  have hlow := div_lt_or_mod_lt hlt
  have hmiddle : v / 64 < w / 64 → _ := div_lt_or_mod_lt
  have hhigh : v / 64 / 64 < w / 64 / 64 → _ := div_lt_or_mod_lt
  simp only [Nat.div_div_eq_div_mul, Nat.reduceMul] at hmiddle hhigh
  have hv : v / 262144 % 8 = v / 262144 := Nat.mod_eq_of_lt (by omega)
  have hw : w / 262144 % 8 = w / 262144 := Nat.mod_eq_of_lt (by omega)
  simp only [hv, hw]
  split_ifs <;>
    simp (disch := omega) only [List.cons_append, List.nil_append, List.cons_lt_cons_iff,
      UInt8.lt_iff_toNat_lt, ← UInt8.toNat_inj, toNat_byte]
  all_goals omega

theorem encode_lt_of_lt {ds : List Char} (h : cs < ds) :
    cs.flatMap String.utf8EncodeChar < ds.flatMap String.utf8EncodeChar := by
  induction cs generalizing ds with
  | nil =>
    cases ds with
    | nil => exact absurd h (List.not_lt_nil _)
    | cons d ds =>
      obtain ⟨b, bs, hbytes⟩ := List.exists_cons_of_ne_nil (String.utf8EncodeChar_ne_nil (c := d))
      rw [List.flatMap_nil, List.flatMap_cons, hbytes]
      exact List.nil_lt_cons b _
  | cons c cs ih =>
    cases ds with
    | nil => exact absurd h (List.not_lt_nil _)
    | cons d ds =>
      rw [List.flatMap_cons, List.flatMap_cons]
      rcases List.cons_lt_cons_iff.1 h with hlt | ⟨rfl, hrest⟩
      · exact encodeChar_append_lt hlt _ _
      · exact List.append_left_lt (ih hrest)

/-- **To compare texts is to compare their bytes.** -/
theorem lt_iff_bytes_lt {s t : String} :
    s < t ↔ s.toUTF8.data.toList < t.toUTF8.data.toList := by
  rw [bytes_eq, bytes_eq, String.lt_iff]
  refine ⟨encode_lt_of_lt, fun h => ?_⟩
  rcases lt_trichotomy s.toList t.toList with hlt | heq | hgt
  · exact hlt
  · rw [heq] at h
    exact absurd h (List.lt_irrefl _)
  · exact absurd (encode_lt_of_lt hgt) (List.lt_asymm h)

end Hotplug.Text
