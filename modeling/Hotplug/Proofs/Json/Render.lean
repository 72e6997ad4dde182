import Hotplug.Json.Parser
import Hotplug.Json.Printer
import Mathlib.Tactic.SplitIfs

/-!
# Reading what was written

A value of texts and truth values that is not nested too deep is read back from its text. The text
is cut into tokens piece by piece, whatever follows, and the tokens of a value are read whatever
follows them.

## Main definitions

* `Json.Plain depth j` — a value without numbers, nested at most so deep, with a meaning.
* `Json.Cuts cs tokens`, `Json.Reads depth tokens j` — characters are cut into tokens, and tokens
  read as a value, whatever follows them.

## Main results

* `Json.cuts_text` — a text in quotes is one token.
* `Json.Plain.legible` — the tokens of a value are read back.
* `Json.parse?_render` — a value is read back from its text.
-/

namespace Hotplug.Json

variable {c : Char} {cs cs' : List Char} {token : Token} {tokens tokens' ts rest : List Token}
  {depth fuel n : Nat} {j : Json} {items : List Json} {members : List (String × Json)}
  {key : Option String} {read : List (Option String × Json)}

/-- A value without numbers, nested at most so deep, with a meaning. -/
inductive Plain : (depth : Nat) → Json → Prop
  | null (depth : Nat) : Plain depth null
  | bool (depth : Nat) (b : Bool) : Plain depth (bool b)
  | string (depth : Nat) (s : String) : Plain depth (string s)
  | array {depth : Nat} {items : List Json} (h : ∀ j ∈ items, Plain depth j) :
    Plain (depth + 1) (array items)
  | object {depth : Nat} {members : List (String × Json)} (h : ∀ m ∈ members, Plain depth m.2) :
    Plain (depth + 1) (object members)

@[simp] theorem plain_null : Plain depth null := .null depth

@[simp] theorem plain_bool (b : Bool) : Plain depth (bool b) := .bool depth b

@[simp] theorem plain_string (s : String) : Plain depth (string s) := .string depth s

@[simp] theorem plain_array_iff : Plain (depth + 1) (array items) ↔ ∀ j ∈ items, Plain depth j := by
  refine ⟨fun h => ?_, .array⟩
  cases h with
  | array h => exact h

@[simp] theorem plain_object_iff :
    Plain (depth + 1) (object members) ↔ ∀ m ∈ members, Plain depth m.2 := by
  refine ⟨fun h => ?_, .object⟩
  cases h with
  | object h => exact h

/-! ### Texts -/

/-- The characters with a short escape that is written. -/
def shortlyEscaped : List Char :=
  ['"', '\\', '\n', '\r', '\t', '\x08', '\x0c']

/-- The unit that a character is written as. -/
def unitOf (c : Char) : TextUnit :=
  if c ∈ shortlyEscaped then .char c
  else if c.toNat < 0x20 then .word c.toNat
  else .char c

/-- The number of hexadecimal digits, if they are four. -/
def quad? : List Char → Option Nat
  | [a, b, c, d] => hexQuad? a b c d
  | _ => none

/-- A control character is written in four hexadecimal digits. -/
theorem exists_hexQuad (hn : n < 0x20) : ∃ a b c d,
    List.replicate (4 - (Text.hexDigits n).length) '0' ++ Text.hexDigits n = [a, b, c, d] ∧
      hexQuad? a b c d = some n := by
  have hquad : ∀ n < 0x20,
      quad? (List.replicate (4 - (Text.hexDigits n).length) '0' ++ Text.hexDigits n) = some n := by
    decide
  have hn := hquad n hn
  unfold quad? at hn
  split at hn
  · next a b c d heq => exact ⟨a, b, c, d, heq, hn⟩
  · cases hn

/-- A character is written as one unit. -/
theorem takeUnits?_renderChar (c : Char) (rest : List Char) :
    takeUnits? (renderChar c ++ rest) =
      (takeUnits? rest).map fun (units, rest) => (unitOf c :: units, rest) := by
  by_cases hshort : c ∈ shortlyEscaped
  · have hunit : unitOf c = .char c := if_pos hshort
    rw [hunit]
    simp only [shortlyEscaped, List.mem_cons, List.not_mem_nil, or_false] at hshort
    rcases hshort with rfl | rfl | rfl | rfl | rfl | rfl | rfl <;>
      (cases htail : takeUnits? rest <;> simp [renderChar, takeUnits?, shortEscape?, htail])
  · have hsplit := hshort
    simp only [shortlyEscaped, List.mem_cons, List.not_mem_nil, or_false, not_or] at hsplit
    obtain ⟨hquote, hslash, h1, h2, h3, h4, h5⟩ := hsplit
    unfold renderChar unitOf
    rw [if_neg hshort, if_neg hquote, if_neg hslash, if_neg h1, if_neg h2, if_neg h3, if_neg h4,
      if_neg h5]
    by_cases hcontrol : c.toNat < 0x20
    · obtain ⟨x, y, z, w, hdigits, hquad⟩ := exists_hexQuad hcontrol
      rw [if_pos hcontrol, if_pos hcontrol]
      simp only [List.append_assoc, List.cons_append, List.nil_append] at hdigits ⊢
      rw [← List.append_assoc, hdigits]
      simp only [List.cons_append, List.nil_append]
      rw [takeUnits?, hquad]
      cases takeUnits? rest <;> rfl
    · rw [if_neg hcontrol, if_neg hcontrol, List.cons_append, List.nil_append]
      rw [takeUnits?]
      · rw [if_neg (by simp [hcontrol, hslash])]
        cases takeUnits? rest <;> rfl
      -- The clauses before are for a quote and a backslash, which are written with an escape.
      all_goals simp_all

/-- The units of a text are taken up to its quote. -/
theorem takeUnits?_text (cs rest : List Char) :
    takeUnits? (cs.flatMap renderChar ++ '"' :: rest) = some (cs.map unitOf, rest) := by
  induction cs with
  | nil => rfl
  | cons c cs ih =>
    rw [List.flatMap_cons, List.append_assoc, takeUnits?_renderChar, ih]
    rfl

/-- A unit below the surrogates is a character of its own. -/
theorem unitsValue?_word (hn : n < 0x20) (units : List TextUnit) :
    unitsValue? (.word n :: units) = (unitsValue? units).map (Char.ofNat n :: ·) := by
  have hhigh : isHighSurrogate n = false := by
    unfold isHighSurrogate
    simp only [Bool.and_eq_false_iff, decide_eq_false_iff_not]
    omega
  have hlow : isLowSurrogate n = false := by
    unfold isLowSurrogate
    simp only [Bool.and_eq_false_iff, decide_eq_false_iff_not]
    omega
  cases units with
  | nil => simp [unitsValue?, hhigh, hlow]
  | cons unit units => cases unit <;> simp [unitsValue?, hhigh, hlow]

/-- The units of a text mean its characters. -/
theorem unitsValue?_map_unitOf (cs : List Char) : unitsValue? (cs.map unitOf) = some cs := by
  induction cs with
  | nil => rfl
  | cons c cs ih =>
    rw [List.map_cons]
    by_cases hword : c ∉ shortlyEscaped ∧ c.toNat < 0x20
    · have hunit : unitOf c = .word c.toNat := by
        unfold unitOf
        rw [if_neg hword.1, if_pos hword.2]
      rw [hunit, unitsValue?_word hword.2, ih, Char.ofNat_toNat]
      rfl
    · have hunit : unitOf c = .char c := by
        unfold unitOf
        split_ifs with hshort hcontrol
        · rfl
        · exact absurd ⟨hshort, hcontrol⟩ hword
        · rfl
      rw [hunit, unitsValue?, ih]
      rfl

/-! ### Tokens -/

/-- More fuel cuts the same tokens. -/
theorem tokensFrom_add (k : Nat) (h : tokensFrom fuel cs = some ts) :
    tokensFrom (fuel + k) cs = some ts := by
  induction fuel generalizing cs ts with
  | zero =>
    cases cs with
    | nil => rw [← h, tokensFrom, tokensFrom]
    | cons c cs => simp [tokensFrom] at h
  | succ fuel ih =>
    cases cs with
    | nil => rw [← h, tokensFrom, tokensFrom]
    | cons c cs =>
      rw [Nat.succ_add_eq_add_succ, Nat.add_succ, tokensFrom]
      rw [tokensFrom] at h
      split at h
      · next hspace =>
        rw [if_pos hspace]
        exact ih h
      · next hspace =>
        rw [if_neg hspace]
        cases htoken : takeToken? (c :: cs) with
        | none => simp [htoken] at h
        | some found =>
          obtain ⟨token, rest⟩ := found
          rw [htoken] at h
          obtain ⟨ts', hts', rfl⟩ := Option.map_eq_some_iff.1 h
          exact Option.map_eq_some_iff.2 ⟨ts', ih hts', rfl⟩

/-- Characters are cut into tokens, whatever follows them. -/
def Cuts (cs : List Char) (tokens : List Token) : Prop :=
  ∀ ⦃rest ts⦄, tokens? rest = some ts → tokens? (cs ++ rest) = some (tokens ++ ts)

/-- What is cut piece by piece is cut as a whole. -/
theorem Cuts.append (h : Cuts cs tokens) (h' : Cuts cs' tokens') :
    Cuts (cs ++ cs') (tokens ++ tokens') := by
  intro rest ts hrest
  rw [List.append_assoc, List.append_assoc]
  exact h (h' hrest)

/-- One token is cut off that is taken whatever follows it. -/
theorem cuts_token (hspace : isSpace c = false)
    (htoken : ∀ rest, takeToken? (c :: (cs ++ rest)) = some (token, rest)) :
    Cuts (c :: cs) [token] := by
  intro rest ts hrest
  have hfuel : tokensFrom (rest.length + cs.length) rest = some ts := tokensFrom_add _ hrest
  unfold tokens?
  rw [List.length_append, List.length_cons, Nat.add_comm, ← Nat.add_assoc, List.cons_append,
    tokensFrom, hspace, htoken]
  simp [hfuel]

/-- A text in quotes is one token. -/
theorem cuts_text (s : String) : Cuts (renderText s) [.text (some s)] := by
  have htoken : ∀ rest, takeToken? ('"' :: ((s.toList.flatMap renderChar ++ ['"']) ++ rest)) =
      some (.text (some s), rest) := by
    intro rest
    rw [List.append_assoc, List.singleton_append, takeToken?, takeUnits?_text, Option.map_some]
    dsimp only
    rw [unitsValue?_map_unitOf, Option.map_some, String.ofList_toList]
  exact cuts_token (by decide) htoken

theorem cuts_openBracket : Cuts ['['] [.openBracket] := cuts_token (by decide) fun _ => rfl

theorem cuts_closeBracket : Cuts [']'] [.closeBracket] := cuts_token (by decide) fun _ => rfl

theorem cuts_openBrace : Cuts ['\x7b'] [.openBrace] := cuts_token (by decide) fun _ => rfl

theorem cuts_closeBrace : Cuts ['\x7d'] [.closeBrace] := cuts_token (by decide) fun _ => rfl

theorem cuts_comma : Cuts [','] [.comma] := cuts_token (by decide) fun _ => rfl

theorem cuts_colon : Cuts [':'] [.colon] := cuts_token (by decide) fun _ => rfl

/-! ### Values -/

theorem takeItems_last (h : takeValue fuel depth tokens = some (j, .closeBracket :: rest)) :
    takeItems (fuel + 1) depth tokens = some ([j], rest) := by
  rw [takeItems, h]

theorem takeItems_next (h : takeValue fuel depth tokens = some (j, .comma :: ts))
    (hitems : takeItems fuel depth ts = some (items, rest)) :
    takeItems (fuel + 1) depth tokens = some (j :: items, rest) := by
  rw [takeItems, h]
  simp [hitems]

theorem takeMembers_last (h : takeValue fuel depth tokens = some (j, .closeBrace :: rest)) :
    takeMembers (fuel + 1) depth (.text key :: .colon :: tokens) = some ([(key, j)], rest) := by
  simp [takeMembers, h]

theorem takeMembers_next (h : takeValue fuel depth tokens = some (j, .comma :: ts))
    (hmembers : takeMembers fuel depth ts = some (read, rest)) :
    takeMembers (fuel + 1) depth (.text key :: .colon :: tokens) = some ((key, j) :: read, rest) := by
  simp [takeMembers, h, hmembers]

/-- Items that are read begin with no bracket that closes an array. -/
theorem takeItems_closeBracket (fuel depth : Nat) (ts : List Token) :
    takeItems fuel depth (.closeBracket :: ts) = none := by
  cases fuel with
  | zero => rfl
  | succ fuel => cases fuel <;> rfl

/-- Members that are read begin with no brace that closes an object. -/
theorem takeMembers_closeBrace (fuel depth : Nat) (ts : List Token) :
    takeMembers fuel depth (.closeBrace :: ts) = none := by
  cases fuel <;> rfl

theorem takeValue_array (h : takeItems fuel depth tokens = some (items, rest)) :
    takeValue (fuel + 1) (depth + 1) (.openBracket :: tokens) = some (array items, rest) := by
  rw [takeValue]
  · rw [Nat.add_sub_cancel, h]
    rfl
  · -- The clause before is for an array without items.
    rintro ts rfl
    rw [takeItems_closeBracket] at h
    cases h

theorem takeValue_object (h : takeMembers fuel depth tokens = some (read, rest)) :
    takeValue (fuel + 1) (depth + 1) (.openBrace :: tokens) = some (ofMembers read, rest) := by
  rw [takeValue]
  · rw [Nat.add_sub_cancel, h]
    rfl
  · rintro ts rfl
    rw [takeMembers_closeBrace] at h
    cases h

/-- Tokens are read as something with fuel enough, whatever follows them. -/
def Reads {α : Type} (take : Nat → Nat → List Token → Option (α × List Token)) (depth : Nat)
    (tokens : List Token) (a : α) : Prop :=
  ∀ ⦃fuel⦄, 2 * tokens.length ≤ fuel → ∀ rest, take fuel depth (tokens ++ rest) = some (a, rest)

/-- The members of an object whose keys are text. -/
def written (members : List (String × Json)) : List (Option String × Json) :=
  members.map fun m => (some m.1, m.2)

/-- An object whose keys are text has a meaning. -/
theorem ofMembers_written (members : List (String × Json)) :
    ofMembers (written members) = object members := by
  have hkeys : (written members).mapM (fun m => m.1.map fun key => (key, m.2)) = some members := by
    unfold written
    induction members with
    | nil => rfl
    | cons m members ih =>
      rw [List.map_cons, List.mapM_cons, ih]
      rfl
  unfold ofMembers
  rw [hkeys]

/-- A value has tokens that are read back. -/
def Legible (depth : Nat) (j : Json) : Prop :=
  ∃ tokens, Cuts (renderChars j) tokens ∧ Reads takeValue depth tokens j

/-- Where tokens are read with fuel enough, there is some fuel. -/
theorem exists_succ_fuel (hpos : 0 < n) (hfuel : 2 * n ≤ fuel) : ∃ k, fuel = k + 1 ∧ 2 * n ≤ k + 1 :=
  ⟨fuel - 1, by omega, by omega⟩

/-- The items of an array are read up to its bracket. -/
theorem exists_itemTokens (hne : items ≠ []) (h : ∀ j ∈ items, Legible depth j) :
    ∃ tokens, Cuts (renderItems items ++ [']']) tokens ∧ Reads takeItems depth tokens items := by
  induction items with
  | nil => exact absurd rfl hne
  | cons j items ih =>
    obtain ⟨first, hcuts, hreads⟩ := h j List.mem_cons_self
    cases items with
    | nil =>
      refine ⟨first ++ [.closeBracket], hcuts.append cuts_closeBracket, fun fuel hfuel rest => ?_⟩
      rw [List.length_append, List.length_singleton] at hfuel
      obtain ⟨fuel, rfl, hfuel⟩ := exists_succ_fuel (Nat.succ_pos _) hfuel
      rw [List.append_assoc]
      exact takeItems_last (hreads (by omega) _)
    | cons j' items =>
      obtain ⟨others, hcuts', hreads'⟩ := ih (List.cons_ne_nil _ _)
        fun j hj => h j (List.mem_cons_of_mem _ hj)
      have hwhole := hcuts.append (cuts_comma.append hcuts')
      refine ⟨first ++ ([.comma] ++ others), by simpa [renderItems] using hwhole, ?_⟩
      -- The comma is a token of its own, and pays for the step from the item to the others.
      intro fuel hfuel rest
      simp only [List.length_append, List.length_singleton] at hfuel
      obtain ⟨fuel, rfl, hfuel⟩ := exists_succ_fuel (by omega) hfuel
      rw [List.append_assoc, List.append_assoc]
      exact takeItems_next (hreads (by omega) _) (hreads' (by omega) _)

/-- The members of an object are read up to its brace. -/
theorem exists_memberTokens (hne : members ≠ []) (h : ∀ m ∈ members, Legible depth m.2) :
    ∃ tokens, Cuts (renderMembers members ++ ['\x7d']) tokens ∧
      Reads takeMembers depth tokens (written members) := by
  induction members with
  | nil => exact absurd rfl hne
  | cons m members ih =>
    obtain ⟨key, j⟩ := m
    obtain ⟨first, hcuts, hreads⟩ := h (key, j) List.mem_cons_self
    have hmember := (cuts_text key).append (cuts_colon.append hcuts)
    cases members with
    | nil =>
      have hwhole := hmember.append cuts_closeBrace
      refine ⟨[.text (some key)] ++ ([.colon] ++ first) ++ [.closeBrace],
        by simpa [renderMembers] using hwhole, fun fuel hfuel rest => ?_⟩
      simp only [List.length_append, List.length_singleton] at hfuel
      obtain ⟨fuel, rfl, hfuel⟩ := exists_succ_fuel (by omega) hfuel
      simp only [List.append_assoc]
      exact takeMembers_last (hreads (by omega) _)
    | cons m' members =>
      obtain ⟨others, hcuts', hreads'⟩ := ih (List.cons_ne_nil _ _)
        fun m hm => h m (List.mem_cons_of_mem _ hm)
      have hwhole := hmember.append (cuts_comma.append hcuts')
      refine ⟨[.text (some key)] ++ ([.colon] ++ first) ++ ([.comma] ++ others),
        by simpa [renderMembers] using hwhole, fun fuel hfuel rest => ?_⟩
      simp only [List.length_append, List.length_singleton] at hfuel
      obtain ⟨fuel, rfl, hfuel⟩ := exists_succ_fuel (by omega) hfuel
      simp only [List.append_assoc]
      exact takeMembers_next (hreads (by omega) _) (hreads' (by omega) _)

/-- A scalar is one token. -/
theorem legible_scalar (hcuts : Cuts (renderChars j) [.scalar j]) : Legible depth j := by
  refine ⟨[.scalar j], hcuts, fun fuel hfuel rest => ?_⟩
  obtain ⟨fuel, rfl, -⟩ := exists_succ_fuel (Nat.succ_pos _) hfuel
  rfl

/-- **The tokens of a plain value are read back.** -/
theorem Plain.legible (h : Plain depth j) : Legible depth j := by
  induction h with
  | null => exact legible_scalar (cuts_token (by decide) fun _ => rfl)
  | bool depth b =>
    cases b with
    | true => exact legible_scalar (cuts_token (by decide) fun _ => rfl)
    | false => exact legible_scalar (cuts_token (by decide) fun _ => rfl)
  | string depth s =>
    refine ⟨[.text (some s)], cuts_text s, fun fuel hfuel rest => ?_⟩
    obtain ⟨fuel, rfl, -⟩ := exists_succ_fuel (Nat.succ_pos _) hfuel
    rfl
  | @array depth items h ih =>
    by_cases hne : items = []
    · subst hne
      have hwhole := cuts_openBracket.append cuts_closeBracket
      refine ⟨[.openBracket] ++ [.closeBracket], by simpa [renderChars, renderItems] using hwhole,
        fun fuel hfuel rest => ?_⟩
      obtain ⟨fuel, rfl, -⟩ := exists_succ_fuel (Nat.succ_pos _) hfuel
      rfl
    · obtain ⟨tokens, hcuts, hreads⟩ := exists_itemTokens hne ih
      have hwhole := cuts_openBracket.append hcuts
      refine ⟨[.openBracket] ++ tokens, by simpa [renderChars] using hwhole,
        fun fuel hfuel rest => ?_⟩
      simp only [List.length_append, List.length_singleton] at hfuel
      obtain ⟨fuel, rfl, hfuel⟩ := exists_succ_fuel (by omega) hfuel
      exact takeValue_array (hreads (by omega) rest)
  | @object depth members h ih =>
    by_cases hne : members = []
    · subst hne
      have hwhole := cuts_openBrace.append cuts_closeBrace
      refine ⟨[.openBrace] ++ [.closeBrace], by simpa [renderChars, renderMembers] using hwhole,
        fun fuel hfuel rest => ?_⟩
      obtain ⟨fuel, rfl, -⟩ := exists_succ_fuel (Nat.succ_pos _) hfuel
      rfl
    · obtain ⟨tokens, hcuts, hreads⟩ := exists_memberTokens hne ih
      have hwhole := cuts_openBrace.append hcuts
      refine ⟨[.openBrace] ++ tokens, by simpa [renderChars] using hwhole,
        fun fuel hfuel rest => ?_⟩
      simp only [List.length_append, List.length_singleton] at hfuel
      obtain ⟨fuel, rfl, hfuel⟩ := exists_succ_fuel (by omega) hfuel
      rw [← ofMembers_written]
      exact takeValue_object (hreads (by omega) rest)

/-! ### Documents -/

/-- A plain value is read back from its characters. -/
theorem parseChars?_renderChars (h : Plain maxDepth j) : parseChars? (renderChars j) = some j := by
  obtain ⟨tokens, hcuts, hreads⟩ := h.legible
  have htokens : tokens? (renderChars j) = some tokens := by
    have hnil : tokens? [] = some [] := rfl
    simpa using hcuts hnil
  have hread : takeValue (2 * tokens.length + 1) maxDepth tokens = some (j, []) := by
    simpa using hreads (Nat.le_succ _) []
  unfold parseChars?
  rw [htokens]
  dsimp only
  rw [hread]

/-- **A plain value is read back from its text.** -/
theorem parse?_render (h : Plain maxDepth j) : parse? (render j) = some j := by
  unfold parse? render
  rw [String.toList_ofList, parseChars?_renderChars h]

end Hotplug.Json
